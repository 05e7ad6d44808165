import MdnsSdDiscovery.Browse
import MdnsSdDiscovery.Lib.Frames
import MdnsSdDiscovery.Lib.Utf8
import Mathlib.Data.Set.Operations

/-!
# TXT records (`parse_txt_entry`, `parse_txt_buffer` of `src/browse.rs`)

The packed buffer is the length-prefixed format of `Lib.Frames` over bytes, and
the parser is modelled with its index, so that a read outside the buffer is a
result of its own (`none`, the panic).

* `parseTxtBuffer_eq`: the parser never panics and returns the entry parser's
  result on each non-empty entry of the buffer;
* `parseTxtBuffer_grammar`: hence it accepts exactly the grammar of the format;
* `parseTxtEntry_encode`: the entry parser inverts the encoding of a record;
* `parseTxtBuffer_gapped`: the buffer parser inverts the packed encoding, with
  any number of empty entries in between and a truncated entry at the end;
* `parseTxtEntry_normalises`: on any entry the entry parser is a normalisation,
  and the entries that it keeps apart include all those with a valid key.
-/

namespace MdnsSdDiscovery.Txt

open Utf8 Frames

/-- `b'='` -/
def equals : UInt8 := 0x3D

/-- `parse_txt_entry` -/
def parseTxtEntry (entry : List UInt8) : TxtRecord :=
  match entry.findIdx? (· == equals) with
  | some pos =>
    { key := fromUtf8Lossy (entry.take pos), value := some (entry.drop (pos + 1)) }
  | none => { key := fromUtf8Lossy entry, value := none }

/-- `buf[start..stop]`, or `none` for the panic of a range outside the buffer. -/
def slice (buf : List UInt8) (start stop : Nat) : Option (List UInt8) :=
  if start ≤ stop ∧ stop ≤ buf.length then some ((buf.drop start).take (stop - start)) else none

/-- The loop of `parse_txt_buffer` from index `i`, or `none` if it panics. -/
def parseTxtBufferLoop (buf : List UInt8) (i : Nat) (records : List TxtRecord) :
    Option (List TxtRecord) :=
  if i < buf.length then
    match buf[i]? with
    | none => none
    | some b =>
      let len := b.toNat
      if i + 1 + len > buf.length then some records
      else if len > 0 then
        match slice buf (i + 1) (i + 1 + len) with
        | none => none
        | some entry => parseTxtBufferLoop buf (i + 1 + len) (records ++ [parseTxtEntry entry])
      else parseTxtBufferLoop buf (i + 1 + len) records
  else some records
termination_by buf.length - i

/-- `parse_txt_buffer` -/
def parseTxtBuffer (buf : List UInt8) : Option (List TxtRecord) := parseTxtBufferLoop buf 0 []

/-! ## The buffer as a sequence of frames -/

/-- A length byte. -/
def txtPrefix : LengthPrefix UInt8 where
  max := 255
  letter := UInt8.ofNat
  length := UInt8.toNat
  length_le b := by have := b.toNat_lt; omega
  length_letter n h := toNat_ofNat_of_lt (by omega)
  letter_length b := UInt8.ofNat_toNat

/-- What the parser makes of the entries of a buffer. -/
def recordsOf (entries : List (List UInt8)) : List TxtRecord :=
  (entries.filter (· ≠ [])).map parseTxtEntry

theorem recordsOf_cons_nil (entries : List (List UInt8)) :
    recordsOf ([] :: entries) = recordsOf entries := by
  simp [recordsOf]

theorem recordsOf_cons_ne {e : List UInt8} (h : e ≠ []) (entries : List (List UInt8)) :
    recordsOf (e :: entries) = parseTxtEntry e :: recordsOf entries := by
  simp [recordsOf, h]

theorem recordsOf_append (es fs : List (List UInt8)) :
    recordsOf (es ++ fs) = recordsOf es ++ recordsOf fs := by
  simp [recordsOf]

theorem recordsOf_replicate_nil (n : Nat) : recordsOf (List.replicate n []) = [] := by
  simp [recordsOf]

/-- Where the loop reads a length byte, the rest of the buffer starts with it. -/
theorem drop_of_getElem? {buf : List UInt8} {i : Nat} {b : UInt8} (hb : buf[i]? = some b) :
    buf.drop i = b :: buf.drop (i + 1) := by
  obtain ⟨h, rfl⟩ := List.getElem?_eq_some_iff.mp hb
  exact List.drop_eq_getElem_cons h

/-- An entry that lies within the buffer is the next frame. -/
theorem unpack_drop {buf : List UInt8} {i : Nat} {b : UInt8} (hb : buf[i]? = some b)
    (hle : i + 1 + b.toNat ≤ buf.length) :
    (unpack txtPrefix (buf.drop i)).1 = (buf.drop (i + 1)).take b.toNat ::
      (unpack txtPrefix (buf.drop (i + 1 + b.toNat))).1 := by
  have hlen : txtPrefix.length b ≤ (buf.drop (i + 1)).length := by
    rw [List.length_drop]
    change b.toNat ≤ _
    omega
  rw [drop_of_getElem? hb, unpack_of_le _ hlen, List.drop_drop]
  rfl

/-- **Loop invariant.**  From index `i` the loop appends the records of the
frames in the rest of the buffer, and every index and slice it takes is inside. -/
theorem parseTxtBufferLoop_eq (buf : List UInt8) (i : Nat) (records : List TxtRecord) :
    parseTxtBufferLoop buf i records =
      some (records ++ recordsOf (unpack txtPrefix (buf.drop i)).1) := by
  induction i, records using parseTxtBufferLoop.induct buf with
  | case1 i records h hnone =>
    rw [List.getElem?_eq_getElem h] at hnone
    exact absurd hnone (by simp)
  | case2 i records h b hb len hgt =>
    have hlt : (buf.drop (i + 1)).length < txtPrefix.length b := by
      rw [List.length_drop]
      change _ < b.toNat
      omega
    rw [parseTxtBufferLoop, if_pos h, hb]
    dsimp only
    rw [if_pos hgt, drop_of_getElem? hb, unpack_of_lt _ hlt]
    simp [recordsOf]
  | case3 i records h b hb len hle hpos hnone =>
    rw [slice, if_pos (by omega)] at hnone
    exact absurd hnone (by simp)
  | case4 i records h b hb len hle hpos entry hentry ih =>
    have hslice : entry = (buf.drop (i + 1)).take b.toNat := by
      rw [slice, if_pos (by omega)] at hentry
      rw [← Option.some.inj hentry]
      congr 1
      omega
    have hne : entry ≠ [] := by
      intro he
      have : entry.length = b.toNat := by
        rw [hslice, List.length_take, List.length_drop]
        omega
      rw [he, List.length_nil] at this
      omega
    rw [parseTxtBufferLoop, if_pos h, hb]
    dsimp only
    rw [if_neg hle, if_pos hpos, hentry]
    dsimp only
    rw [ih, unpack_drop hb (by omega), ← hslice, recordsOf_cons_ne hne, List.append_assoc]
    rfl
  | case5 i records h b hb len hle hzero ih =>
    have h0 : b.toNat = 0 := by omega
    rw [parseTxtBufferLoop, if_pos h, hb]
    dsimp only
    rw [if_neg hle, if_neg hzero, ih, unpack_drop hb (by omega), h0, List.take_zero,
      recordsOf_cons_nil]
    simp only [len, h0]
  | case6 i records h =>
    rw [parseTxtBufferLoop, if_neg h, List.drop_eq_nil_of_le (by omega), unpack_nil]
    simp [recordsOf]

theorem parseTxtBuffer_eq (buf : List UInt8) :
    parseTxtBuffer buf = some (recordsOf (unpack txtPrefix buf).1) := by
  rw [parseTxtBuffer, parseTxtBufferLoop_eq, List.drop_zero, List.nil_append]

/-- The records of packed entries are those of the non-empty ones. -/
theorem parseTxtBuffer_packed {entries : List (List UInt8)}
    (h : ∀ entry ∈ entries, entry.length ≤ 255) :
    parseTxtBuffer (pack txtPrefix entries) = some (recordsOf entries) := by
  have hunpack : unpack txtPrefix (pack txtPrefix entries ++ []) = (entries, []) :=
    unpack_pack txtPrefix h (.inl rfl)
  rw [List.append_nil] at hunpack
  rw [parseTxtBuffer_eq, hunpack]

/-! ## The grammar -/

theorem recordsOf_length_le (entries : List (List UInt8)) :
    2 * (recordsOf entries).length ≤ (pack txtPrefix entries).length := by
  rw [recordsOf, List.length_map]
  exact two_mul_nonempty_le txtPrefix entries

/-- A value is shorter than its entry, which also holds the `=`. -/
theorem parseTxtEntry_value_length {entry v : List UInt8}
    (h : (parseTxtEntry entry).value = some v) : v.length + 1 ≤ entry.length := by
  unfold parseTxtEntry at h
  split at h
  · rename_i pos hpos
    have hlt := (List.findIdx?_eq_some_iff_findIdx_eq.mp hpos).1
    cases h
    rw [List.length_drop]
    omega
  · cases h

theorem recordsOf_value_length {entries : List (List UInt8)} (hb : ∀ e ∈ entries, e.length ≤ 255)
    {r : TxtRecord} (hr : r ∈ recordsOf entries) {v : List UInt8} (hv : r.value = some v) :
    v.length ≤ 254 := by
  obtain ⟨e, he, rfl⟩ := List.mem_map.mp hr
  have h1 := hb e (List.mem_filter.mp he).1
  have h2 := parseTxtEntry_value_length hv
  omega

/-- **The buffer parser accepts exactly its grammar.**  Every buffer is framed
in exactly one way; on it the parser returns (so its loop ends and no index or
slice leaves the buffer) the entry parser's result on each non-empty entry, in
order, and nothing for the tail. -/
theorem parseTxtBuffer_grammar (buf : List UInt8) :
    (∃! p : List (List UInt8) × List UInt8, Framing txtPrefix buf p.1 p.2) ∧
    ∃ entries tail records, Framing txtPrefix buf entries tail ∧
      parseTxtBuffer buf = some records ∧
      records = (entries.filter (· ≠ [])).map parseTxtEntry ∧
      2 * records.length ≤ buf.length ∧
      ∀ r ∈ records, ∀ v, r.value = some v → v.length ≤ 254 := by
  have hf := framing_unpack txtPrefix buf
  refine ⟨existsUnique_framing txtPrefix buf, _, _, _, hf, parseTxtBuffer_eq buf, rfl, ?_, ?_⟩
  · have hlen : buf.length = (pack txtPrefix (unpack txtPrefix buf).1).length +
        (unpack txtPrefix buf).2.length := by
      rw [← List.length_append, ← hf.eq]
    have := recordsOf_length_le (unpack txtPrefix buf).1
    omega
  · intro r hr v hv
    exact recordsOf_value_length hf.bounded hr hv

/-! ## Encoding -/

/-- The body of the entry that carries a record. -/
def encodeRecord (r : TxtRecord) : List UInt8 :=
  encode r.key ++ match r.value with
    | none => []
    | some v => equals :: v

/-- The records that a TXT entry can carry. -/
structure Encodable (r : TxtRecord) : Prop where
  noEquals : '=' ∉ r.key.toList
  notEmpty : ¬ (r.key = "" ∧ r.value = none)
  fits : (encodeRecord r).length ≤ 255

/-- In a key without `=` no byte is `0x3D`, in no character's encoding. -/
theorem equals_notMem_encode {key : String} (h : '=' ∉ key.toList) : equals ∉ encode key := by
  intro hm
  exact h (mem_encode_ascii (by decide) hm)

theorem findIdx?_equals_none {key : List UInt8} (h : equals ∉ key) :
    key.findIdx? (· == equals) = none := by
  rw [List.findIdx?_eq_none_iff]
  intro b hb
  rw [beq_eq_false_iff_ne]
  rintro rfl
  exact h hb

theorem findIdx?_equals_append {key : List UInt8} (h : equals ∉ key) (v : List UInt8) :
    (key ++ equals :: v).findIdx? (· == equals) = some key.length := by
  rw [List.findIdx?_append, findIdx?_equals_none h, List.findIdx?_cons]
  simp

/-- **The entry parser inverts the encoding of a record.** -/
theorem parseTxtEntry_encode {r : TxtRecord} (h : '=' ∉ r.key.toList) :
    parseTxtEntry (encodeRecord r) = r := by
  have hk := equals_notMem_encode h
  obtain ⟨key, value⟩ := r
  cases value with
  | none =>
    simp only [encodeRecord, List.append_nil, parseTxtEntry, findIdx?_equals_none hk,
      fromUtf8Lossy_encode]
  | some v =>
    simp only [encodeRecord, parseTxtEntry, findIdx?_equals_append hk, List.take_left,
      fromUtf8Lossy_encode]
    rw [List.drop_append]
    simp

theorem encode_eq_nil {s : String} (h : encode s = []) : s = "" := by
  have := fromUtf8Lossy_encode s
  rw [h, fromUtf8Lossy, lossyChars] at this
  exact this.symm

theorem Encodable.encodeRecord_ne_nil {r : TxtRecord} (h : Encodable r) : encodeRecord r ≠ [] := by
  intro he
  obtain ⟨hk, hv⟩ := List.append_eq_nil_iff.mp he
  refine h.notEmpty ⟨encode_eq_nil hk, ?_⟩
  cases hr : r.value with
  | none => rfl
  | some v =>
    rw [hr] at hv
    cases hv

theorem recordsOf_encodeRecord {records : List TxtRecord} (h : ∀ r ∈ records, Encodable r) :
    recordsOf (records.map encodeRecord) = records := by
  induction records with
  | nil => rfl
  | cons r records ih =>
    have hr := h r List.mem_cons_self
    rw [List.map_cons, recordsOf_cons_ne hr.encodeRecord_ne_nil, parseTxtEntry_encode hr.noEquals,
      ih fun q hq => h q (List.mem_cons_of_mem r hq)]

/-- The buffer parser inverts the packed encoding of records. -/
theorem parseTxtBuffer_encode {records : List TxtRecord} (h : ∀ r ∈ records, Encodable r) :
    parseTxtBuffer (pack txtPrefix (records.map encodeRecord)) = some records := by
  have hfits : ∀ entry ∈ records.map encodeRecord, entry.length ≤ 255 := by
    intro entry hentry
    obtain ⟨r, hr, rfl⟩ := List.mem_map.mp hentry
    exact (h r hr).fits
  rw [parseTxtBuffer_packed hfits, recordsOf_encodeRecord h]

/-- A record behind a number of empty entries. -/
def gappedEntries (p : Nat × TxtRecord) : List (List UInt8) :=
  List.replicate p.1 [] ++ [encodeRecord p.2]

/-- The packed records, each behind its gap of zero length bytes, then one more
gap and the tail. -/
def gappedBuffer (records : List (Nat × TxtRecord)) (gap : Nat) (tail : List UInt8) :
    List UInt8 :=
  records.flatMap (fun p => List.replicate p.1 0 ++
    UInt8.ofNat (encodeRecord p.2).length :: encodeRecord p.2) ++ List.replicate gap 0 ++ tail

theorem gappedBuffer_eq_pack (records : List (Nat × TxtRecord)) (gap : Nat) (tail : List UInt8) :
    gappedBuffer records gap tail =
      pack txtPrefix (records.flatMap gappedEntries ++ List.replicate gap []) ++ tail := by
  have h0 : txtPrefix.letter 0 = 0 := rfl
  rw [gappedBuffer, pack_append, pack_replicate_nil, h0]
  congr 2
  induction records with
  | nil => rfl
  | cons p records ih =>
    rw [List.flatMap_cons, List.flatMap_cons, pack_append, gappedEntries, pack_append,
      pack_replicate_nil, h0, ih]
    simp [pack_cons, txtPrefix]

theorem recordsOf_gappedEntries {records : List (Nat × TxtRecord)}
    (h : ∀ p ∈ records, Encodable p.2) :
    recordsOf (records.flatMap gappedEntries) = records.map Prod.snd := by
  induction records with
  | nil => rfl
  | cons p records ih =>
    have hp := h p (List.mem_cons_self ..)
    rw [List.flatMap_cons, recordsOf_append, gappedEntries, recordsOf_append,
      recordsOf_replicate_nil, recordsOf_cons_ne hp.encodeRecord_ne_nil,
      parseTxtEntry_encode hp.noEquals, ih fun q hq => h q (List.mem_cons_of_mem _ hq)]
    rfl

theorem gappedEntries_length_le {records : List (Nat × TxtRecord)} {gap : Nat}
    (h : ∀ p ∈ records, Encodable p.2) :
    ∀ e ∈ records.flatMap gappedEntries ++ List.replicate gap [], e.length ≤ txtPrefix.max := by
  intro e he
  rcases List.mem_append.mp he with he | he
  · obtain ⟨p, hp, he⟩ := List.mem_flatMap.mp he
    rcases List.mem_append.mp he with he | he
    · rw [List.eq_of_mem_replicate he]; exact Nat.zero_le _
    · rw [List.mem_singleton.mp he]; exact (h p hp).fits
  · rw [List.eq_of_mem_replicate he]; exact Nat.zero_le _

/-- **Decoding undoes encoding**, for any gaps of empty entries and any tail
that is too short for the length it announces. -/
theorem parseTxtBuffer_gapped (records : List (Nat × TxtRecord)) (gap : Nat) (tail : List UInt8)
    (hr : ∀ p ∈ records, Encodable p.2) (ht : Truncated txtPrefix tail) :
    parseTxtBuffer (gappedBuffer records gap tail) = some (records.map Prod.snd) := by
  rw [parseTxtBuffer_eq, gappedBuffer_eq_pack, unpack_pack _ (gappedEntries_length_le hr) ht,
    recordsOf_append, recordsOf_replicate_nil, List.append_nil, recordsOf_gappedEntries hr]

/-- `a=1`, an empty entry, `a` with an empty value, and a truncated entry. -/
theorem parseTxtBuffer_gapped_example :
    parseTxtBuffer (gappedBuffer [(0, ⟨"a", some [0x31]⟩), (1, ⟨"a", some []⟩)] 0 [5, 0x61]) =
      some [⟨"a", some [0x31]⟩, ⟨"a", some []⟩] := by
  refine parseTxtBuffer_gapped _ _ _ ?_ (Or.inr ⟨5, [0x61], rfl, by decide⟩)
  intro p hp
  rcases List.mem_cons.mp hp with rfl | hp
  · exact ⟨by decide, by decide, by decide⟩
  · rw [List.mem_singleton.mp hp]
    exact ⟨by decide, by decide, by decide⟩

/-! ## Normal forms -/

/-- The bytes of an entry before its first `=`, all of them if there is none. -/
def rawKey (entry : List UInt8) : List UInt8 := entry.takeWhile (· != equals)

/-- The bytes of an entry behind its first `=`. -/
def rawValue (entry : List UInt8) : Option (List UInt8) := (entry.dropWhile (· != equals)).tail?

/-- A value with the `=` before it. -/
def valueBytes : Option (List UInt8) → List UInt8
  | none => []
  | some v => equals :: v

theorem encodeRecord_eq (r : TxtRecord) : encodeRecord r = encode r.key ++ valueBytes r.value := by
  obtain ⟨key, value⟩ := r
  cases value <;> rfl

theorem bne_equals_of_notMem {bytes : List UInt8} (h : equals ∉ bytes) :
    ∀ b ∈ bytes, (b != equals) = true := by
  intro b hb
  rw [bne_iff_ne]
  rintro rfl
  exact h hb

theorem rawKey_of_notMem {entry : List UInt8} (h : equals ∉ entry) : rawKey entry = entry :=
  List.takeWhile_eq_self_iff.mpr (bne_equals_of_notMem h)

theorem rawValue_of_notMem {entry : List UInt8} (h : equals ∉ entry) : rawValue entry = none := by
  rw [rawValue, List.dropWhile_eq_nil_iff.mpr (bne_equals_of_notMem h)]
  rfl

theorem rawKey_append {key : List UInt8} (h : equals ∉ key) (v : List UInt8) :
    rawKey (key ++ equals :: v) = key := by
  rw [rawKey, List.takeWhile_append_of_pos (bne_equals_of_notMem h),
    List.takeWhile_cons_of_neg (by simp), List.append_nil]

theorem rawValue_append {key : List UInt8} (h : equals ∉ key) (v : List UInt8) :
    rawValue (key ++ equals :: v) = some v := by
  rw [rawValue, List.dropWhile_append_of_pos (bne_equals_of_notMem h),
    List.dropWhile_cons_of_neg (by simp)]
  rfl

/-- An entry has no `=`, or it is a key without `=`, then `=`, then its value. -/
theorem entry_cases (entry : List UInt8) :
    equals ∉ entry ∨ ∃ key v, equals ∉ key ∧ entry = key ++ equals :: v := by
  by_cases h : equals ∈ entry
  · obtain ⟨key, v, he, hkey⟩ := List.eq_append_cons_of_mem h
    exact .inr ⟨key, v, hkey, he⟩
  · exact .inl h

theorem equals_notMem_rawKey (entry : List UInt8) : equals ∉ rawKey entry := by
  rcases entry_cases entry with h | ⟨key, v, h, rfl⟩
  · rwa [rawKey_of_notMem h]
  · rwa [rawKey_append h]

theorem rawKey_append_valueBytes (entry : List UInt8) :
    rawKey entry ++ valueBytes (rawValue entry) = entry := by
  rcases entry_cases entry with h | ⟨key, v, h, rfl⟩
  · rw [rawKey_of_notMem h, rawValue_of_notMem h, valueBytes, List.append_nil]
  · rw [rawKey_append h, rawValue_append h, valueBytes]

/-- The entry parser decodes the key and keeps the value. -/
theorem parseTxtEntry_eq (entry : List UInt8) :
    parseTxtEntry entry = ⟨fromUtf8Lossy (rawKey entry), rawValue entry⟩ := by
  rcases entry_cases entry with h | ⟨key, v, h, rfl⟩
  · rw [parseTxtEntry, findIdx?_equals_none h, rawKey_of_notMem h, rawValue_of_notMem h]
  · rw [rawKey_append h, rawValue_append h]
    simp only [parseTxtEntry, findIdx?_equals_append h, List.take_left]
    rw [List.drop_append]
    simp

/-- Decoding a key creates no `=`. -/
theorem equals_notMem_parseTxtEntry (entry : List UInt8) :
    '=' ∉ (parseTxtEntry entry).key.toList := by
  rw [parseTxtEntry_eq]
  intro hmem
  exact equals_notMem_rawKey entry (mem_of_mem_fromUtf8Lossy (b := equals) (by decide) hmem)

/-- An entry is rendered again exactly if its key is valid UTF-8. -/
theorem encodeRecord_parseTxtEntry_iff (entry : List UInt8) :
    encodeRecord (parseTxtEntry entry) = entry ↔ IsValid (rawKey entry) := by
  rw [isValid_iff, encodeRecord_eq, parseTxtEntry_eq]
  conv => lhs; rhs; rw [← rawKey_append_valueBytes entry]
  exact List.append_left_inj _

/-- **Parsing an entry is a normalisation**, which rendering undoes on its image. -/
theorem parseTxtEntry_normalises :
    (∀ entry, '=' ∉ (parseTxtEntry entry).key.toList ∧
      parseTxtEntry (encodeRecord (parseTxtEntry entry)) = parseTxtEntry entry ∧
      (encodeRecord (parseTxtEntry entry) = entry ↔ IsValid (rawKey entry))) ∧
    Set.InjOn parseTxtEntry {entry | IsValid (rawKey entry)} := by
  constructor
  · intro entry
    have hkey := equals_notMem_parseTxtEntry entry
    exact ⟨hkey, parseTxtEntry_encode hkey, encodeRecord_parseTxtEntry_iff entry⟩
  · intro entry hentry other hother heq
    calc entry = encodeRecord (parseTxtEntry entry) :=
          ((encodeRecord_parseTxtEntry_iff entry).mpr hentry).symm
      _ = encodeRecord (parseTxtEntry other) := by rw [heq]
      _ = other := (encodeRecord_parseTxtEntry_iff other).mpr hother

/-- `é=1` and `é=2` are not parsed as one record. -/
theorem parseTxtEntry_normalises_example :
    parseTxtEntry [0xC3, 0xA9, 0x3D, 0x31] ≠ parseTxtEntry [0xC3, 0xA9, 0x3D, 0x32] := by
  intro heq
  have hvalid : IsValid [0xC3, 0xA9] := ⟨"é", by decide⟩
  have hsame := parseTxtEntry_normalises.2 hvalid hvalid heq
  exact absurd hsame (by decide)

end MdnsSdDiscovery.Txt
