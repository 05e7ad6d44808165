import MdnsSdDiscovery.Lib.Utf8
import Mathlib.Data.List.Basic

/-!
# UTF-16

`String::from_utf16` of the standard library: a unit outside of the surrogates
is its own character, a high surrogate takes the low surrogate behind it along,
and any other surrogate is an error.  It undoes `encode` (`fromUtf16_encode`).
-/

namespace MdnsSdDiscovery.Utf16

open Utf8 (toNat_scalar toNat_ofNat_char)

/-- `0xD800..=0xDBFF` -/
def isHighSurrogate (u : UInt16) : Bool := 0xD800 ≤ u ∧ u ≤ 0xDBFF

/-- `0xDC00..=0xDFFF` -/
def isLowSurrogate (u : UInt16) : Bool := 0xDC00 ≤ u ∧ u ≤ 0xDFFF

/-- The character of a surrogate pair. -/
def pairChar (high low : UInt16) : Char :=
  .ofNat (0x10000 + (high.toNat - 0xD800) * 0x400 + (low.toNat - 0xDC00))

/-- The characters of a list of units. -/
def decode : List UInt16 → Option (List Char)
  | [] => some []
  | u :: rest =>
    if isHighSurrogate u then
      match rest with
      | v :: rest => if isLowSurrogate v then (decode rest).map (pairChar u v :: ·) else none
      | [] => none
    else if isLowSurrogate u then none
    else (decode rest).map (.ofNat u.toNat :: ·)

/-- `String::from_utf16(units).ok()` -/
def fromUtf16 (units : List UInt16) : Option String := (decode units).map String.ofList

example : fromUtf16 [0x48, 0xE9, 0xD83D, 0xDE00] = some "Hé😀" := by decide

example : fromUtf16 [0x48, 0xDE00] = none := by decide

theorem isHighSurrogate_iff {u : UInt16} :
    isHighSurrogate u = true ↔ 0xD800 ≤ u.toNat ∧ u.toNat ≤ 0xDBFF := by
  simp [isHighSurrogate, UInt16.le_iff_toNat_le]

theorem isLowSurrogate_iff {u : UInt16} :
    isLowSurrogate u = true ↔ 0xDC00 ≤ u.toNat ∧ u.toNat ≤ 0xDFFF := by
  simp [isLowSurrogate, UInt16.le_iff_toNat_le]

theorem ofNat_ne_nul {n : Nat} (hvalid : n.isValidChar) (hn : n ≠ 0) : Char.ofNat n ≠ '\x00' := by
  intro h
  have hval := congrArg Char.toNat h
  rw [toNat_ofNat_char hvalid] at hval
  exact hn hval

/-- No unit but 0 stands for the character NUL. -/
theorem nul_notMem_decode {units : List UInt16} {cs : List Char} (h : decode units = some cs)
    (hnul : 0 ∉ units) : '\x00' ∉ cs := by
  induction units using decode.induct generalizing cs with
  | case1 =>
    cases h
    exact List.not_mem_nil
  | case2 u hu v rest hv ih =>
    rw [decode.eq_def] at h
    simp only [hu, hv, if_true] at h
    obtain ⟨cs', hcs', rfl⟩ := Option.map_eq_some_iff.mp h
    have hrest : 0 ∉ rest := fun hmem => hnul (by simp [hmem])
    have hhigh := isHighSurrogate_iff.mp hu
    have hlow := isLowSurrogate_iff.mp hv
    refine List.not_mem_cons_of_ne_of_not_mem (ofNat_ne_nul (.inr ?_) ?_).symm (ih hcs' hrest)
    · omega
    · omega
  | case3 u hu v rest hv =>
    rw [decode.eq_def] at h
    simp only [hu, if_true, if_neg hv] at h
    cases h
  | case4 u hu =>
    rw [decode.eq_def] at h
    simp only [hu, if_true] at h
    cases h
  | case5 u rest hu hv =>
    rw [decode.eq_def] at h
    simp only [hu, hv, if_true] at h
    cases h
  | case6 u rest hu hv ih =>
    rw [decode.eq_def] at h
    simp only [hu, hv] at h
    obtain ⟨cs', hcs', rfl⟩ := Option.map_eq_some_iff.mp h
    have hrest : 0 ∉ rest := fun hmem => hnul (List.mem_cons_of_mem u hmem)
    rw [isHighSurrogate_iff] at hu
    rw [isLowSurrogate_iff] at hv
    have hzero : u.toNat ≠ 0 := by
      intro hzero
      exact hnul (List.mem_cons.mpr (.inl (UInt16.toNat_inj.mp hzero).symm))
    have hlt := u.toNat_lt
    refine List.not_mem_cons_of_ne_of_not_mem (ofNat_ne_nul ?_ hzero).symm (ih hcs' hrest)
    unfold Nat.isValidChar
    omega

/-- A string that was read up to its NUL contains none. -/
theorem nul_notMem_fromUtf16 {units : List UInt16} {s : String} (h : fromUtf16 units = some s)
    (hnul : 0 ∉ units) : '\x00' ∉ s.toList := by
  obtain ⟨cs, hcs, rfl⟩ := Option.map_eq_some_iff.mp h
  rw [String.toList_ofList]
  exact nul_notMem_decode hcs hnul

/-! ## Encoding -/

/-- The units of a character. -/
def encodeChar (c : Char) : List UInt16 :=
  if c.toNat < 0x10000 then [.ofNat c.toNat]
  else [.ofNat (0xD800 + (c.toNat - 0x10000) / 0x400),
    .ofNat (0xDC00 + (c.toNat - 0x10000) % 0x400)]

/-- `s.encode_utf16()` -/
def encode (s : String) : List UInt16 := s.toList.flatMap encodeChar

theorem toNat_ofNat_of_lt {n : Nat} (h : n < 0x10000) : (UInt16.ofNat n).toNat = n := by
  rw [UInt16.toNat_ofNat']
  exact Nat.mod_eq_of_lt h

theorem decode_of_not_surrogate {u : UInt16} (hhigh : isHighSurrogate u = false)
    (hlow : isLowSurrogate u = false) (rest : List UInt16) :
    decode (u :: rest) = (decode rest).map (.ofNat u.toNat :: ·) := by
  rw [decode.eq_def]
  simp [hhigh, hlow]

theorem decode_pair {u v : UInt16} (hhigh : isHighSurrogate u = true)
    (hlow : isLowSurrogate v = true) (rest : List UInt16) :
    decode (u :: v :: rest) = (decode rest).map (pairChar u v :: ·) := by
  rw [decode.eq_def]
  simp [hhigh, hlow]

/-- The two units of a character above the first plane. -/
theorem decode_supplementary {c : Char} (h : 0x10000 ≤ c.toNat) (rest : List UInt16) :
    decode (.ofNat (0xD800 + (c.toNat - 0x10000) / 0x400) ::
      .ofNat (0xDC00 + (c.toNat - 0x10000) % 0x400) :: rest) = (decode rest).map (c :: ·) := by
  have hc := toNat_scalar c
  have hu := toNat_ofNat_of_lt (show 0xD800 + (c.toNat - 0x10000) / 0x400 < 0x10000 by omega)
  have hv := toNat_ofNat_of_lt (show 0xDC00 + (c.toNat - 0x10000) % 0x400 < 0x10000 by omega)
  generalize UInt16.ofNat (0xD800 + (c.toNat - 0x10000) / 0x400) = u at hu ⊢
  generalize UInt16.ofNat (0xDC00 + (c.toNat - 0x10000) % 0x400) = v at hv ⊢
  have hhigh : isHighSurrogate u = true := by
    rw [isHighSurrogate_iff, hu]
    omega
  have hlow : isLowSurrogate v = true := by
    rw [isLowSurrogate_iff, hv]
    omega
  have hvalue : 0x10000 + (u.toNat - 0xD800) * 0x400 + (v.toNat - 0xDC00) = c.toNat := by
    rw [hu, hv]
    omega
  rw [decode_pair hhigh hlow, pairChar, hvalue, Char.ofNat_toNat]

/-- **Decoding inverts encoding**, one character at a time. -/
theorem decode_encodeChar (c : Char) (rest : List UInt16) :
    decode (encodeChar c ++ rest) = (decode rest).map (c :: ·) := by
  unfold encodeChar
  by_cases hplane : c.toNat < 0x10000
  · have hc := toNat_scalar c
    have hn := toNat_ofNat_of_lt hplane
    have hhigh : isHighSurrogate (.ofNat c.toNat) = false := by
      rw [Bool.eq_false_iff, ne_eq, isHighSurrogate_iff, hn]
      omega
    have hlow : isLowSurrogate (.ofNat c.toNat) = false := by
      rw [Bool.eq_false_iff, ne_eq, isLowSurrogate_iff, hn]
      omega
    rw [if_pos hplane, List.singleton_append, decode_of_not_surrogate hhigh hlow, hn,
      Char.ofNat_toNat]
  · rw [if_neg hplane]
    exact decode_supplementary (Nat.le_of_not_lt hplane) rest

theorem fromUtf16_encode (s : String) : fromUtf16 (encode s) = some s := by
  have h : ∀ l : List Char, decode (l.flatMap encodeChar) = some l := by
    intro l
    induction l with
    | nil => rfl
    | cons c l ih => rw [List.flatMap_cons, decode_encodeChar, ih, Option.map_some]
  rw [fromUtf16, encode, h, Option.map_some, String.ofList_toList]

/-- The unit 0 stands for the character NUL only. -/
theorem zero_notMem_encode {s : String} (h : '\x00' ∉ s.toList) : 0 ∉ encode s := by
  intro hmem
  obtain ⟨c, hc, hzero⟩ := List.mem_flatMap.mp hmem
  have hscalar := toNat_scalar c
  have hne : c.toNat ≠ 0 := by
    intro hval
    have hnul : c = '\x00' := by rw [← Char.ofNat_toNat c, hval]
    exact h (hnul ▸ hc)
  -- neither the unit of the first plane nor a surrogate is 0
  have hunit : ∀ n, 0 < n → n < 0x10000 → (0 : UInt16) ≠ .ofNat n := by
    intro n hpos hlt heq
    have hval := congrArg UInt16.toNat heq
    rw [toNat_ofNat_of_lt hlt] at hval
    exact Nat.ne_of_gt hpos hval.symm
  unfold encodeChar at hzero
  split_ifs at hzero with hplane
  · exact hunit _ (by omega) hplane (List.mem_singleton.mp hzero)
  · rcases List.mem_pair.mp hzero with hzero | hzero
    · exact hunit _ (by omega) (by omega) hzero
    · exact hunit _ (by omega) (by omega) hzero

end MdnsSdDiscovery.Utf16
