import MdnsSdDiscovery.Linux.Browse
import MdnsSdDiscovery.Txt
import MdnsSdDiscovery.Windows.Resolve

/-!
# TXT records on the three back-ends

Avahi hands over the entries of a TXT record one by one, mDNSResponder the
packed buffer, and Windows two arrays of wide strings.  `resolved_to_service`
makes a record of every entry and `parse_txt_buffer` skips the empty ones:

* `parseTxtBuffer_pack`: macOS publishes the records of Linux without those of
  the empty entries;
* `txtRecords_eq_iff`: the two agree exactly when no entry is empty;
* `txtRecords_portable`: all three read back the records that each can carry.
-/

namespace MdnsSdDiscovery.Backends

open Frames Utf8 Txt
open Linux (ResolvedService resolvedToService)
open Windows (DnsServiceInstance Pwstr TxtSlots readTxt wide)

/-- The record that Linux makes of an empty entry. -/
def emptyRecord : TxtRecord := ⟨"", none⟩

theorem fromUtf8Lossy_eq_empty_iff (bytes : List UInt8) :
    fromUtf8Lossy bytes = "" ↔ bytes = [] := by
  constructor
  · intro h
    cases bytes with
    | nil => rfl
    | cons b rest =>
      rw [fromUtf8Lossy, lossyChars, String.ofList_eq_empty_iff] at h
      exact absurd h (List.cons_ne_nil _ _)
  · rintro rfl
    exact fromUtf8Lossy_encode ""

theorem parseTxtEntry_nil : parseTxtEntry [] = emptyRecord := by
  have hkey := (fromUtf8Lossy_eq_empty_iff []).mpr rfl
  simp [parseTxtEntry, emptyRecord, hkey]

/-- No other entry gives this record. -/
theorem parseTxtEntry_eq_emptyRecord_iff (entry : List UInt8) :
    parseTxtEntry entry = emptyRecord ↔ entry = [] := by
  constructor
  · intro h
    unfold parseTxtEntry at h
    split at h
    · cases (TxtRecord.mk.inj h).2
    · exact (fromUtf8Lossy_eq_empty_iff entry).mp (TxtRecord.mk.inj h).1
  · rintro rfl
    exact parseTxtEntry_nil

/-- **What macOS publishes** of the entries that Linux received, packed. -/
theorem parseTxtBuffer_pack (resolved : ResolvedService)
    (h : ∀ e ∈ resolved.txt, e.length ≤ 255) :
    parseTxtBuffer (pack txtPrefix resolved.txt) =
      some ((resolvedToService resolved).txtRecords.filter (· ≠ emptyRecord)) := by
  have hkeep : (fun e => decide (e ≠ [])) =
      (fun r => decide (r ≠ emptyRecord)) ∘ parseTxtEntry := by
    funext e
    exact decide_eq_decide.mpr (not_congr (parseTxtEntry_eq_emptyRecord_iff e).symm)
  rw [parseTxtBuffer_packed h, recordsOf, hkeep, ← List.filter_map]
  rfl

/-- **The records are the same exactly when no entry is empty.** -/
theorem txtRecords_eq_iff (resolved : ResolvedService)
    (h : ∀ e ∈ resolved.txt, e.length ≤ 255) :
    parseTxtBuffer (pack txtPrefix resolved.txt) = some (resolvedToService resolved).txtRecords ↔
      [] ∉ resolved.txt := by
  rw [parseTxtBuffer_pack resolved h, Option.some_inj, List.filter_eq_self]
  constructor
  · intro hall hnil
    have hrecord := hall (parseTxtEntry []) (List.mem_map_of_mem hnil)
    exact of_decide_eq_true hrecord parseTxtEntry_nil
  · intro hnil record hrecord
    obtain ⟨e, he, rfl⟩ := List.mem_map.mp hrecord
    refine decide_eq_true ?_
    intro heq
    exact hnil ((parseTxtEntry_eq_emptyRecord_iff e).mp heq ▸ he)

/-- A reply of Avahi with the TXT entries. -/
def resolvedWith (txt : List (List UInt8)) : ResolvedService where
  iface := 2
  protocol := 0
  name := "Printer"
  serviceType := "_ipp._tcp"
  domain := "local"
  host := "printer.local"
  aprotocol := 0
  address := "192.168.1.10"
  port := 631
  txt := txt
  flags := 0

/-- `a=1`, an entry that begins with `=`, and one that holds a length byte. -/
theorem txtRecords_eq_iff_example :
    parseTxtBuffer (pack txtPrefix [[0x61, 0x3D, 0x31], [0x3D, 0x78], [0x02, 0x61]]) =
      some (resolvedToService
        (resolvedWith [[0x61, 0x3D, 0x31], [0x3D, 0x78], [0x02, 0x61]])).txtRecords :=
  (txtRecords_eq_iff (resolvedWith [[0x61, 0x3D, 0x31], [0x3D, 0x78], [0x02, 0x61]])
    (by decide)).mpr (by decide)

/-- **An empty entry** is a record on Linux and nothing on macOS. -/
theorem txtRecords_ne :
    (resolvedToService (resolvedWith [[]])).txtRecords = [⟨"", none⟩] ∧
    parseTxtBuffer (pack txtPrefix [[]]) = some [] ∧
    parseTxtBuffer (pack txtPrefix (resolvedWith [[]]).txt) ≠
      some (resolvedToService (resolvedWith [[]])).txtRecords := by
  have hlinux : (resolvedToService (resolvedWith [[]])).txtRecords = [emptyRecord] :=
    congrArg (fun record => [record]) parseTxtEntry_nil
  have hmacos : parseTxtBuffer (pack txtPrefix (resolvedWith [[]]).txt) = some [] := by
    rw [parseTxtBuffer_pack _ (by decide), hlinux]
    rfl
  refine ⟨hlinux, hmacos, ?_⟩
  rw [hmacos, hlinux]
  decide

/-! ## All three -/

/-- A record that every back-end can carry. -/
structure Portable (r : TxtRecord) : Prop extends Windows.Wide r where
  noEquals : '=' ∉ r.key.toList
  fits : (encodeRecord r).length ≤ 255

theorem Portable.encodable {r : TxtRecord} (h : Portable r) : Encodable r :=
  ⟨h.noEquals, fun hempty => h.notEmpty hempty.1, h.fits⟩

/-- **The back-ends agree** on the records that all of them can carry. -/
theorem txtRecords_portable {records : List TxtRecord} (h : ∀ r ∈ records, Portable r)
    {inst : DnsServiceInstance} {slots : List (Pwstr × Pwstr)} (hinst : Windows.HoldsTxt inst slots)
    (hslots : TxtSlots slots records) {resolved : ResolvedService}
    (htxt : resolved.txt = records.map encodeRecord) :
    readTxt inst = records ∧
    parseTxtBuffer (pack txtPrefix (records.map encodeRecord)) = some records ∧
    (resolvedToService resolved).txtRecords = records := by
  refine ⟨?_, ?_, ?_⟩
  · exact Windows.readTxt_of_slots hinst hslots fun r hr => (h r hr).toWide
  · exact parseTxtBuffer_encode fun r hr => (h r hr).encodable
  · have hparse : ∀ r ∈ records, (parseTxtEntry ∘ encodeRecord) r = id r :=
      fun r hr => parseTxtEntry_encode (h r hr).noEquals
    change resolved.txt.map parseTxtEntry = records
    rw [htxt, List.map_map, List.map_congr_left hparse, List.map_id]

/-- The arrays of a printer with two records and two elements without a key. -/
def slotsInstance : DnsServiceInstance where
  pszHostName := some [0x70, 0x2E]
  ip4Address := none
  ip6Address := none
  wPort := 631
  dwPropertyCount := 4
  keys := some #v[none, wide "a", some [], wide "é"]
  values := some #v[wide "x", wide "1", none, none]
  dwInterfaceIndex := 2

theorem txtRecords_portable_example :
    let records : List TxtRecord := [⟨"a", some (encode "1")⟩, ⟨"é", none⟩]
    readTxt slotsInstance = records ∧
    parseTxtBuffer (pack txtPrefix (records.map encodeRecord)) = some records ∧
    (resolvedToService (resolvedWith (records.map encodeRecord))).txtRecords = records := by
  intro records
  have hinst : Windows.HoldsTxt slotsInstance
      [(none, wide "x"), (wide "a", wide "1"), (some [], none), (wide "é", none)] :=
    ⟨rfl, .inl rfl⟩
  have hslots : TxtSlots
      [(none, wide "x"), (wide "a", wide "1"), (some [], none), (wide "é", none)] records :=
    .skipped none (wide "x") (.inl rfl) (.text "a" "1"
      (.skipped (some []) none (.inr rfl) (.keyOnly "é" .nil)))
  refine txtRecords_portable ?_ hinst hslots rfl
  intro r hr
  rcases List.mem_cons.mp hr with rfl | hr
  · refine ⟨⟨by decide, by decide, ?_⟩, by decide, by decide⟩
    intro v hv
    exact ⟨"1", by decide, Option.some.inj hv⟩
  · rw [List.mem_singleton.mp hr]
    refine ⟨⟨by decide, by decide, ?_⟩, by decide, by decide⟩
    intro v hv
    cases hv

end MdnsSdDiscovery.Backends
