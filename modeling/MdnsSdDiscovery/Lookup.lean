import MdnsSdDiscovery.Txt

/-!
# Lookup of TXT values (`DiscoveredService::txt` of `src/browse.rs`)

A lookup compares decoded keys, and lossy decoding is not injective.  Two keys
collide in a replacement character only, so a lookup of a key without one is a
search among the raw entries:

* `txt_of_map`: the value is that of the first entry with the bytes of the key;
* `txt_packed`: the same for the records of a packed buffer.
-/

namespace MdnsSdDiscovery.Txt

open Utf8 Frames

/-- The entry is about the key. -/
def HasKey (key : String) (entry : List UInt8) : Prop := rawKey entry = encode key

instance (key : String) : DecidablePred (HasKey key) :=
  fun entry => inferInstanceAs (Decidable (rawKey entry = encode key))

section
variable {entries : List (List UInt8)} {service : DiscoveredService} {key : String}

theorem parseTxtEntry_key_beq (hkey : '\uFFFD' ∉ key.toList) (entry : List UInt8) :
    ((parseTxtEntry entry).key == key) = decide (HasKey key entry) := by
  rw [parseTxtEntry_eq, Bool.eq_iff_iff, beq_iff_eq, decide_eq_true_iff]
  exact fromUtf8Lossy_eq_iff hkey

/-- **What a lookup finds** in the records of some entries. -/
theorem txt_of_map (hrecords : service.txtRecords = entries.map parseTxtEntry)
    (hkey : '\uFFFD' ∉ key.toList) :
    service.txt key = (entries.find? (HasKey key ·)).bind rawValue := by
  have hpred : (fun r : TxtRecord => r.key == key) ∘ parseTxtEntry = (HasKey key ·) := by
    funext entry
    exact parseTxtEntry_key_beq hkey entry
  have hvalue : ∀ entry, (parseTxtEntry entry).value = rawValue entry := by
    intro entry
    rw [parseTxtEntry_eq]
  rw [DiscoveredService.txt, hrecords, List.find?_map, hpred]
  cases entries.find? (HasKey key ·) with
  | none => rfl
  | some entry => exact hvalue entry

/-- **A lookup never attributes a value to the wrong key.**  It finds what stands
behind the first `=` of the first non-empty entry whose bytes before it are those
of the key, and nothing if there is no such entry or that entry has no `=`. -/
theorem txt_packed (hlength : ∀ entry ∈ entries, entry.length ≤ 255)
    (hrecords : parseTxtBuffer (pack txtPrefix entries) = some service.txtRecords)
    (hkey : '\uFFFD' ∉ key.toList) :
    service.txt key = (entries.find? fun entry => entry ≠ [] ∧ HasKey key entry).bind rawValue := by
  rw [parseTxtBuffer_packed hlength, Option.some_inj] at hrecords
  rw [txt_of_map hrecords.symm hkey, List.find?_filter]
  simp

end

/-- A service with the records. -/
def serviceWith (txtRecords : List TxtRecord) : DiscoveredService where
  name := "Printer"
  serviceType := "_ipp._tcp"
  domain := "local"
  hostName := "printer.local"
  port := 631
  addresses := []
  txtRecords := txtRecords
  interfaceIndex := none

/-- An invalid key, a key without a value, the same key with one, and another
with an `=` in its value. -/
theorem txt_packed_example :
    let entries : List (List UInt8) :=
      [[0x61, 0xFF, 0x3D, 0x31], [0x61], [0x61, 0x3D, 0x32], [0x62, 0x3D, 0x3D]]
    let service := serviceWith (recordsOf entries)
    parseTxtBuffer (pack txtPrefix entries) = some service.txtRecords ∧
      service.txt "a" = none ∧ service.txt "b" = some [0x3D] := by
  intro entries service
  have hlength : ∀ entry ∈ entries, entry.length ≤ 255 := by decide
  have hrecords : parseTxtBuffer (pack txtPrefix entries) = some service.txtRecords :=
    parseTxtBuffer_packed hlength
  refine ⟨hrecords, ?_, ?_⟩
  · rw [txt_packed hlength hrecords (by decide)]
    decide
  · rw [txt_packed hlength hrecords (by decide)]
    decide

end MdnsSdDiscovery.Txt
