import Mathlib.Data.List.Induction

/-!
# UTF-8 and its lossy decoding

`String::from_utf8_lossy` of the standard library: a valid sequence is decoded
to its character, and each maximal prefix of an invalid sequence becomes one
`U+FFFD`.

* `encode`: the bytes of a string, which are the ones Lean stores
  (`encode_eq_toByteArray`);
* `fromUtf8Lossy_encode`: lossy decoding is the identity on valid UTF-8;
* `mem_encode_ascii`: an ASCII byte occurs in an encoding only as its own
  character, never inside another one;
* `encode_fromUtf8Lossy`: what decodes without a replacement is the encoding of
  what it decodes to, so lossy decoding collides in `U+FFFD` only
  (`fromUtf8Lossy_eq_iff`).
-/

namespace MdnsSdDiscovery.Utf8

/-- The bytes of a string. -/
def encode (s : String) : List UInt8 := s.toList.flatMap String.utf8EncodeChar

theorem encode_eq_toByteArray (s : String) : encode s = s.toByteArray.data.toList := by
  rw [← String.utf8Encode_toList, List.utf8Encode, List.data_toByteArray]
  rfl

/-! ## Decoding -/

/-- Number of continuation bytes a first byte asks for; 0 when no sequence of
several bytes starts with it. -/
def continuations (n : Nat) : Nat :=
  if 0xC2 ≤ n ∧ n ≤ 0xDF then 1
  else if 0xE0 ≤ n ∧ n ≤ 0xEF then 2
  else if 0xF0 ≤ n ∧ n ≤ 0xF4 then 3
  else 0

/-- Least second byte after the first byte `n`: no overlong encodings. -/
def secondMin (n : Nat) : Nat := if n = 0xE0 then 0xA0 else if n = 0xF0 then 0x90 else 0x80

/-- Greatest second byte: no surrogates, nothing above `U+10FFFF`. -/
def secondMax (n : Nat) : Nat := if n = 0xED then 0x9F else if n = 0xF4 then 0x8F else 0xBF

/-- The value bits of the first byte of a sequence with `k` continuations. -/
def firstBits (k n : Nat) : Nat :=
  match k with
  | 1 => n - 0xC0
  | 2 => n - 0xE0
  | _ => n - 0xF0

theorem firstBits_one (n : Nat) : firstBits 1 n = n - 0xC0 := rfl

theorem firstBits_two (n : Nat) : firstBits 2 n = n - 0xE0 := rfl

theorem firstBits_three (n : Nat) : firstBits 3 n = n - 0xF0 := rfl

/-- Read `k` continuation bytes, the next of them between `lo` and `hi`.  The
first byte that does not fit stays in the input. -/
def tails : Nat → Nat → Nat → Nat → List UInt8 → Option Nat × List UInt8
  | 0, _, _, acc, rest => (some acc, rest)
  | _ + 1, _, _, _, [] => (none, [])
  | k + 1, lo, hi, acc, b :: rest =>
    if lo ≤ b.toNat ∧ b.toNat ≤ hi then
      tails k 0x80 0xBF (acc * 64 + (b.toNat - 0x80)) rest
    else (none, b :: rest)

/-- The character at the head of `b :: rest` and what follows it, or `none` and
what follows the maximal prefix of an invalid sequence. -/
def next (b : UInt8) (rest : List UInt8) : Option Char × List UInt8 :=
  let n := b.toNat
  if n < 0x80 then (some (Char.ofNat n), rest)
  else
    let k := continuations n
    if k = 0 then (none, rest)
    else
      let r := tails k (secondMin n) (secondMax n) (firstBits k n) rest
      (r.1.map Char.ofNat, r.2)

theorem tails_suffix (k lo hi acc : Nat) (rest : List UInt8) :
    (tails k lo hi acc rest).2 <:+ rest := by
  induction k generalizing lo hi acc rest with
  | zero => exact List.suffix_rfl
  | succ k ih =>
    cases rest with
    | nil => exact List.suffix_rfl
    | cons b rest =>
      unfold tails
      split
      · exact (ih 0x80 0xBF (acc * 64 + (b.toNat - 0x80)) rest).trans (List.suffix_cons b rest)
      · exact List.suffix_rfl

theorem next_suffix (b : UInt8) (rest : List UInt8) : (next b rest).2 <:+ rest := by
  unfold next
  dsimp only
  split
  · exact List.suffix_rfl
  · split
    · exact List.suffix_rfl
    · exact tails_suffix ..

/-- The characters of a byte string, `U+FFFD` for each invalid piece. -/
def lossyChars : List UInt8 → List Char
  | [] => []
  | b :: rest => (next b rest).1.getD '\uFFFD' :: lossyChars (next b rest).2
termination_by bytes => bytes.length
decreasing_by
  have := (next_suffix b rest).length_le
  simp only [List.length_cons]; omega

/-- `String::from_utf8_lossy(bytes).into_owned()` -/
def fromUtf8Lossy (bytes : List UInt8) : String := String.ofList (lossyChars bytes)

/-! ## Decoding an encoding -/

theorem tails_cons (k lo hi acc : Nat) (b : UInt8) (rest : List UInt8)
    (h : lo ≤ b.toNat ∧ b.toNat ≤ hi) :
    tails (k + 1) lo hi acc (b :: rest) =
      tails k 0x80 0xBF (acc * 64 + (b.toNat - 0x80)) rest := by
  simp only [tails, h, and_self, ↓reduceIte]

theorem toNat_ofNat_of_lt {n : Nat} (h : n < 256) : (UInt8.ofNat n).toNat = n := by
  rw [UInt8.toNat_ofNat']
  exact Nat.mod_eq_of_lt h

/-- `next` on a first byte of a sequence with `k` continuation bytes. -/
theorem next_of_continuations {b : UInt8} {n k : Nat} (hb : b.toNat = n) (hn : 0x80 ≤ n)
    (hk : continuations n = k) (h0 : k ≠ 0) (rest : List UInt8) :
    next b rest = ((tails k (secondMin n) (secondMax n) (firstBits k n) rest).1.map Char.ofNat,
      (tails k (secondMin n) (secondMax n) (firstBits k n) rest).2) := by
  have hn' : ¬ n < 0x80 := by omega
  simp only [next, hb, hk, h0, hn', ↓reduceIte]

theorem next_one (v : Nat) (h : v ≤ 0x7F) (rest : List UInt8) :
    next (UInt8.ofNat v) rest = (some (Char.ofNat v), rest) := by
  have hv := toNat_ofNat_of_lt (show v < 256 by omega)
  have h' : v < 0x80 := by omega
  simp only [next, hv, h', ↓reduceIte]

theorem next_two (v : Nat) (h : 0x7F < v) (h' : v ≤ 0x7FF) (rest : List UInt8) :
    next (UInt8.ofNat (v / 64 % 32 + 192)) (UInt8.ofNat (v % 64 + 128) :: rest) =
      (some (Char.ofNat v), rest) := by
  have h1 := toNat_ofNat_of_lt (show v / 64 % 32 + 192 < 256 by omega)
  have h2 := toNat_ofNat_of_lt (show v % 64 + 128 < 256 by omega)
  have hk : continuations (v / 64 % 32 + 192) = 1 := by
    unfold continuations; rw [if_pos (by omega)]
  have hb : secondMin (v / 64 % 32 + 192) ≤ (UInt8.ofNat (v % 64 + 128)).toNat ∧
      (UInt8.ofNat (v % 64 + 128)).toNat ≤ secondMax (v / 64 % 32 + 192) := by
    rw [h2, secondMin, secondMax]
    constructor <;> split_ifs <;> omega
  have hv : (v / 64 % 32 + 192 - 0xC0) * 64 + (v % 64 + 128 - 0x80) = v := by omega
  rw [next_of_continuations h1 (by omega) hk (by decide), tails_cons _ _ _ _ _ _ hb]
  rw [firstBits_one, h2, hv]
  rfl

theorem next_three (v : Nat) (h : 0x7FF < v) (h' : v ≤ 0xFFFF) (hs : v < 0xD800 ∨ 0xDFFF < v)
    (rest : List UInt8) :
    next (UInt8.ofNat (v / 4096 % 16 + 224)) (UInt8.ofNat (v / 64 % 64 + 128) ::
      UInt8.ofNat (v % 64 + 128) :: rest) = (some (Char.ofNat v), rest) := by
  have h1 := toNat_ofNat_of_lt (show v / 4096 % 16 + 224 < 256 by omega)
  have h2 := toNat_ofNat_of_lt (show v / 64 % 64 + 128 < 256 by omega)
  have h3 := toNat_ofNat_of_lt (show v % 64 + 128 < 256 by omega)
  have hk : continuations (v / 4096 % 16 + 224) = 2 := by
    unfold continuations; rw [if_neg (by omega), if_pos (by omega)]
  have hb : secondMin (v / 4096 % 16 + 224) ≤ (UInt8.ofNat (v / 64 % 64 + 128)).toNat ∧
      (UInt8.ofNat (v / 64 % 64 + 128)).toNat ≤ secondMax (v / 4096 % 16 + 224) := by
    rw [h2, secondMin, secondMax]
    constructor <;> split_ifs <;> omega
  have hv : ((v / 4096 % 16 + 224 - 0xE0) * 64 + (v / 64 % 64 + 128 - 0x80)) * 64 +
      (v % 64 + 128 - 0x80) = v := by omega
  rw [next_of_continuations h1 (by omega) hk (by decide), tails_cons _ _ _ _ _ _ hb,
    tails_cons _ _ _ _ _ _ (by rw [h3]; omega)]
  rw [firstBits_two, h2, h3, hv]
  rfl

theorem next_four (v : Nat) (h : 0xFFFF < v) (h' : v < 0x110000) (rest : List UInt8) :
    next (UInt8.ofNat (v / 262144 % 8 + 240)) (UInt8.ofNat (v / 4096 % 64 + 128) ::
      UInt8.ofNat (v / 64 % 64 + 128) :: UInt8.ofNat (v % 64 + 128) :: rest) =
      (some (Char.ofNat v), rest) := by
  have h1 := toNat_ofNat_of_lt (show v / 262144 % 8 + 240 < 256 by omega)
  have h2 := toNat_ofNat_of_lt (show v / 4096 % 64 + 128 < 256 by omega)
  have h3 := toNat_ofNat_of_lt (show v / 64 % 64 + 128 < 256 by omega)
  have h4 := toNat_ofNat_of_lt (show v % 64 + 128 < 256 by omega)
  have hk : continuations (v / 262144 % 8 + 240) = 3 := by
    unfold continuations; rw [if_neg (by omega), if_neg (by omega), if_pos (by omega)]
  have hb : secondMin (v / 262144 % 8 + 240) ≤ (UInt8.ofNat (v / 4096 % 64 + 128)).toNat ∧
      (UInt8.ofNat (v / 4096 % 64 + 128)).toNat ≤ secondMax (v / 262144 % 8 + 240) := by
    rw [h2, secondMin, secondMax]
    constructor <;> split_ifs <;> omega
  have hv : (((v / 262144 % 8 + 240 - 0xF0) * 64 + (v / 4096 % 64 + 128 - 0x80)) * 64 +
      (v / 64 % 64 + 128 - 0x80)) * 64 + (v % 64 + 128 - 0x80) = v := by omega
  rw [next_of_continuations h1 (by omega) hk (by decide), tails_cons _ _ _ _ _ _ hb,
    tails_cons _ _ _ _ _ _ (by rw [h3]; omega), tails_cons _ _ _ _ _ _ (by rw [h4]; omega)]
  rw [firstBits_three, h2, h3, h4, hv]
  rfl

/-- A scalar value is below `0x110000` and no surrogate. -/
theorem toNat_scalar (c : Char) :
    c.toNat < 0xD800 ∨ (0xDFFF < c.toNat ∧ c.toNat < 0x110000) := c.valid

theorem utf8EncodeChar_eq (c : Char) : String.utf8EncodeChar c =
    if c.toNat ≤ 0x7F then [UInt8.ofNat c.toNat]
    else if c.toNat ≤ 0x7FF then
      [UInt8.ofNat (c.toNat / 64 % 32 + 192), UInt8.ofNat (c.toNat % 64 + 128)]
    else if c.toNat ≤ 0xFFFF then
      [UInt8.ofNat (c.toNat / 4096 % 16 + 224), UInt8.ofNat (c.toNat / 64 % 64 + 128),
        UInt8.ofNat (c.toNat % 64 + 128)]
    else
      [UInt8.ofNat (c.toNat / 262144 % 8 + 240), UInt8.ofNat (c.toNat / 4096 % 64 + 128),
        UInt8.ofNat (c.toNat / 64 % 64 + 128), UInt8.ofNat (c.toNat % 64 + 128)] := rfl

/-- **Decoding inverts encoding**, one character at a time. -/
theorem next_utf8EncodeChar (c : Char) (rest : List UInt8) :
    ∃ b bs, String.utf8EncodeChar c = b :: bs ∧ next b (bs ++ rest) = (some c, rest) := by
  have hs := toNat_scalar c
  have hc := Char.ofNat_toNat c
  rw [utf8EncodeChar_eq]
  split_ifs with h1 h2 h3
  · exact ⟨_, _, rfl, by rw [List.nil_append, next_one _ h1, hc]⟩
  · exact ⟨_, _, rfl, (next_two _ (by omega) h2 rest).trans (by rw [hc])⟩
  · exact ⟨_, _, rfl, (next_three _ (by omega) h3 (by omega) rest).trans (by rw [hc])⟩
  · exact ⟨_, _, rfl, (next_four _ (by omega) (by omega) rest).trans (by rw [hc])⟩

theorem lossyChars_utf8EncodeChar (c : Char) (rest : List UInt8) :
    lossyChars (String.utf8EncodeChar c ++ rest) = c :: lossyChars rest := by
  obtain ⟨b, bs, he, hn⟩ := next_utf8EncodeChar c rest
  rw [he, List.cons_append, lossyChars, hn]
  rfl

/-- **Lossy decoding is the identity on valid UTF-8.** -/
theorem fromUtf8Lossy_encode (s : String) : fromUtf8Lossy (encode s) = s := by
  have h : ∀ l : List Char, lossyChars (l.flatMap String.utf8EncodeChar) = l := by
    intro l
    induction l with
    | nil => rw [List.flatMap_nil, lossyChars]
    | cons c l ih => rw [List.flatMap_cons, lossyChars_utf8EncodeChar, ih]
  rw [fromUtf8Lossy, encode, h, String.ofList_toList]

/-! ## ASCII bytes in an encoding -/

theorem mem_utf8EncodeChar_ascii {c : Char} {b : UInt8} (hb : b.toNat < 0x80)
    (h : b ∈ String.utf8EncodeChar c) : c.toNat = b.toNat := by
  -- every byte of a longer sequence is at least 0x80
  have high : ∀ n, 0x80 ≤ n → n < 256 → b ≠ UInt8.ofNat n := by
    intro n hn hn' e
    rw [e, toNat_ofNat_of_lt hn'] at hb
    omega
  rw [utf8EncodeChar_eq] at h
  split_ifs at h with h1 h2 h3 <;> simp only [List.mem_cons, List.not_mem_nil, or_false] at h
  · rw [h, toNat_ofNat_of_lt (by omega)]
  · rcases h with h | h <;> exact absurd h (high _ (by omega) (by omega))
  · rcases h with h | h | h <;> exact absurd h (high _ (by omega) (by omega))
  · rcases h with h | h | h | h <;> exact absurd h (high _ (by omega) (by omega))

/-- An ASCII byte occurs in the encoding of a string only as its own character. -/
theorem mem_encode_ascii {s : String} {b : UInt8} (hb : b.toNat < 0x80) (h : b ∈ encode s) :
    Char.ofNat b.toNat ∈ s.toList := by
  obtain ⟨c, hc, hbc⟩ := List.mem_flatMap.mp h
  rw [← mem_utf8EncodeChar_ascii hb hbc, Char.ofNat_toNat]
  exact hc

/-! ## What decodes without a replacement -/

/-- A continuation byte that was read. -/
theorem tails_succ_eq_some {k lo hi acc v : Nat} {rest rest' : List UInt8}
    (h : tails (k + 1) lo hi acc rest = (some v, rest')) :
    ∃ b rest'', rest = b :: rest'' ∧ (lo ≤ b.toNat ∧ b.toNat ≤ hi) ∧
      tails k 0x80 0xBF (acc * 64 + (b.toNat - 0x80)) rest'' = (some v, rest') := by
  cases rest with
  | nil => cases h
  | cons b rest'' =>
    by_cases hb : lo ≤ b.toNat ∧ b.toNat ≤ hi
    · rw [tails_cons k lo hi acc b rest'' hb] at h
      exact ⟨b, rest'', rfl, hb, h⟩
    · rw [tails, if_neg hb] at h
      cases h

/-- The three kinds of sequences of several bytes. -/
theorem continuations_cases (n : Nat) :
    continuations n = 0 ∨ (continuations n = 1 ∧ 0xC2 ≤ n ∧ n ≤ 0xDF) ∨
    (continuations n = 2 ∧ 0xE0 ≤ n ∧ n ≤ 0xEF) ∨ (continuations n = 3 ∧ 0xF0 ≤ n ∧ n ≤ 0xF4) := by
  unfold continuations
  split_ifs <;> omega

theorem toNat_ofNat_char {v : Nat} (h : v < 0xD800 ∨ (0xDFFF < v ∧ v < 0x110000)) :
    (Char.ofNat v).toNat = v := by
  have hvalid : v.isValidChar := h
  rw [Char.ofNat, dif_pos hvalid]
  rfl

theorem ofNat_eq {b : UInt8} {n : Nat} (h : n = b.toNat) : UInt8.ofNat n = b := by
  rw [h, UInt8.ofNat_toNat]

/-- The value of a sequence of several bytes. -/
theorem tails_of_next {b : UInt8} {k : Nat} {rest rest' : List UInt8} {c : Char}
    (hb : 0x80 ≤ b.toNat) (hk : continuations b.toNat = k) (h0 : k ≠ 0)
    (h : next b rest = (some c, rest')) :
    ∃ v, tails k (secondMin b.toNat) (secondMax b.toNat) (firstBits k b.toNat) rest =
      (some v, rest') ∧ Char.ofNat v = c := by
  rw [next_of_continuations rfl hb hk h0, Prod.mk.injEq, Option.map_eq_some_iff] at h
  obtain ⟨⟨v, hv, hc⟩, hrest⟩ := h
  exact ⟨v, Prod.ext hv hrest, hc⟩

theorem tails_zero_eq_some {lo hi acc v : Nat} {rest rest' : List UInt8}
    (h : tails 0 lo hi acc rest = (some v, rest')) : acc = v ∧ rest = rest' := by
  rw [tails, Prod.mk.injEq, Option.some_inj] at h
  exact h

theorem secondMin_ge (n : Nat) : 0x80 ≤ secondMin n := by
  unfold secondMin
  split_ifs <;> omega

theorem secondMax_le (n : Nat) : secondMax n ≤ 0xBF := by
  unfold secondMax
  split_ifs <;> omega

/-- `b` is a continuation byte. -/
def IsTail (b : UInt8) : Prop := 0x80 ≤ b.toNat ∧ b.toNat ≤ 0xBF

theorem utf8EncodeChar_one {b : UInt8} (hb : b.toNat < 0x80) :
    String.utf8EncodeChar (Char.ofNat b.toNat) = [b] := by
  rw [utf8EncodeChar_eq, toNat_ofNat_char (by omega), if_pos (by omega), UInt8.ofNat_toNat]

theorem utf8EncodeChar_two {b b1 : UInt8} (hb : 0xC2 ≤ b.toNat ∧ b.toNat ≤ 0xDF)
    (h1 : IsTail b1) :
    String.utf8EncodeChar (Char.ofNat (firstBits 1 b.toNat * 64 + (b1.toNat - 0x80))) =
      [b, b1] := by
  unfold IsTail at h1
  rw [firstBits_one, utf8EncodeChar_eq, toNat_ofNat_char (by omega), if_neg (by omega),
    if_pos (by omega), ofNat_eq (b := b) (by omega), ofNat_eq (b := b1) (by omega)]

theorem utf8EncodeChar_three {b b1 b2 : UInt8} (hb : 0xE0 ≤ b.toNat ∧ b.toNat ≤ 0xEF)
    (h1 : secondMin b.toNat ≤ b1.toNat ∧ b1.toNat ≤ secondMax b.toNat) (h2 : IsTail b2) :
    String.utf8EncodeChar (Char.ofNat ((firstBits 2 b.toNat * 64 + (b1.toNat - 0x80)) * 64 +
      (b2.toNat - 0x80))) = [b, b1, b2] := by
  unfold IsTail at h2
  have hmin := secondMin_ge b.toNat
  have hmax := secondMax_le b.toNat
  -- no overlong sequences and no surrogates
  have hover : 0xE0 < b.toNat ∨ 0xA0 ≤ b1.toNat := by
    rw [secondMin] at h1
    split_ifs at h1 <;> omega
  have hsurrogate : b.toNat ≠ 0xED ∨ b1.toNat ≤ 0x9F := by
    rw [secondMax] at h1
    split_ifs at h1 <;> omega
  rw [firstBits_two, utf8EncodeChar_eq, toNat_ofNat_char (by omega), if_neg (by omega),
    if_neg (by omega), if_pos (by omega), ofNat_eq (b := b) (by omega),
    ofNat_eq (b := b1) (by omega), ofNat_eq (b := b2) (by omega)]

theorem utf8EncodeChar_four {b b1 b2 b3 : UInt8} (hb : 0xF0 ≤ b.toNat ∧ b.toNat ≤ 0xF4)
    (h1 : secondMin b.toNat ≤ b1.toNat ∧ b1.toNat ≤ secondMax b.toNat) (h2 : IsTail b2)
    (h3 : IsTail b3) :
    String.utf8EncodeChar (Char.ofNat (((firstBits 3 b.toNat * 64 + (b1.toNat - 0x80)) * 64 +
      (b2.toNat - 0x80)) * 64 + (b3.toNat - 0x80))) = [b, b1, b2, b3] := by
  unfold IsTail at h2 h3
  have hmin := secondMin_ge b.toNat
  have hmax := secondMax_le b.toNat
  -- no overlong sequences and nothing above the last character
  have hover : 0xF0 < b.toNat ∨ 0x90 ≤ b1.toNat := by
    rw [secondMin] at h1
    split_ifs at h1 <;> omega
  have hlast : b.toNat ≠ 0xF4 ∨ b1.toNat ≤ 0x8F := by
    rw [secondMax] at h1
    split_ifs at h1 <;> omega
  rw [firstBits_three, utf8EncodeChar_eq, toNat_ofNat_char (by omega), if_neg (by omega),
    if_neg (by omega), if_neg (by omega), ofNat_eq (b := b) (by omega),
    ofNat_eq (b := b1) (by omega), ofNat_eq (b := b2) (by omega), ofNat_eq (b := b3) (by omega)]

/-- **Decoding a character reads its encoding.** -/
theorem eq_utf8EncodeChar_of_next {b : UInt8} {rest rest' : List UInt8} {c : Char}
    (h : next b rest = (some c, rest')) : b :: rest = String.utf8EncodeChar c ++ rest' := by
  by_cases hascii : b.toNat < 0x80
  · have hnext : next b rest = (some (Char.ofNat b.toNat), rest) := if_pos hascii
    rw [hnext] at h
    cases h
    rw [utf8EncodeChar_one hascii]
    rfl
  rcases continuations_cases b.toNat with hk | ⟨hk, hb⟩ | ⟨hk, hb⟩ | ⟨hk, hb⟩
  · have hnext : next b rest = (none, rest) := by
      simp only [next, hascii, hk, if_false, if_true]
    rw [hnext] at h
    cases h
  · obtain ⟨v, hv, rfl⟩ := tails_of_next (by omega) hk (by decide) h
    obtain ⟨b1, r1, rfl, h1, hv⟩ := tails_succ_eq_some hv
    obtain ⟨rfl, rfl⟩ := tails_zero_eq_some hv
    have htail : IsTail b1 :=
      ⟨Nat.le_trans (secondMin_ge _) h1.1, Nat.le_trans h1.2 (secondMax_le _)⟩
    rw [utf8EncodeChar_two hb htail]
    rfl
  · obtain ⟨v, hv, rfl⟩ := tails_of_next (by omega) hk (by decide) h
    obtain ⟨b1, r1, rfl, h1, hv⟩ := tails_succ_eq_some hv
    obtain ⟨b2, r2, rfl, h2, hv⟩ := tails_succ_eq_some hv
    obtain ⟨rfl, rfl⟩ := tails_zero_eq_some hv
    rw [utf8EncodeChar_three hb h1 h2]
    rfl
  · obtain ⟨v, hv, rfl⟩ := tails_of_next (by omega) hk (by decide) h
    obtain ⟨b1, r1, rfl, h1, hv⟩ := tails_succ_eq_some hv
    obtain ⟨b2, r2, rfl, h2, hv⟩ := tails_succ_eq_some hv
    obtain ⟨b3, r3, rfl, h3, hv⟩ := tails_succ_eq_some hv
    obtain ⟨rfl, rfl⟩ := tails_zero_eq_some hv
    rw [utf8EncodeChar_four hb h1 h2 h3]
    rfl

/-- **Without a replacement, lossy decoding loses nothing.** -/
theorem encode_fromUtf8Lossy {bytes : List UInt8} (h : '\uFFFD' ∉ (fromUtf8Lossy bytes).toList) :
    encode (fromUtf8Lossy bytes) = bytes := by
  have hchars : ∀ bytes : List UInt8, '\uFFFD' ∉ lossyChars bytes →
      (lossyChars bytes).flatMap String.utf8EncodeChar = bytes := by
    intro bytes
    induction bytes using lossyChars.induct with
    | case1 => intro _; rw [lossyChars, List.flatMap_nil]
    | case2 b rest ih =>
      intro hfree
      rw [lossyChars, List.mem_cons, not_or] at hfree
      obtain ⟨hhead, htail⟩ := hfree
      cases hn : next b rest with
      | mk char rest' =>
        rw [hn] at hhead htail ih
        cases char with
        | none => exact absurd rfl hhead
        | some c =>
          rw [lossyChars, hn, List.flatMap_cons, ih htail]
          exact (eq_utf8EncodeChar_of_next hn).symm
  rw [fromUtf8Lossy, String.toList_ofList] at h
  rw [encode, fromUtf8Lossy, String.toList_ofList, hchars bytes h]

/-- An ASCII character is decoded from its own byte only. -/
theorem mem_of_mem_fromUtf8Lossy {bytes : List UInt8} {b : UInt8} (hb : b.toNat < 0x80)
    (h : Char.ofNat b.toNat ∈ (fromUtf8Lossy bytes).toList) : b ∈ bytes := by
  rw [fromUtf8Lossy, String.toList_ofList] at h
  induction bytes using lossyChars.induct with
  | case1 =>
    rw [lossyChars] at h
    cases h
  | case2 first rest ih =>
    rw [lossyChars, List.mem_cons] at h
    rcases h with hhead | htail
    · cases hn : next first rest with
      | mk char rest' =>
        rw [hn] at hhead
        cases char with
        | none =>
          have hval := congrArg Char.toNat hhead
          rw [toNat_ofNat_char (by omega)] at hval
          change b.toNat = 0xFFFD at hval
          omega
        | some c =>
          have hc : Char.ofNat b.toNat = c := hhead
          rw [eq_utf8EncodeChar_of_next hn, ← hc, utf8EncodeChar_one hb]
          exact List.mem_cons_self
    · exact List.mem_cons_of_mem _ ((next_suffix first rest).subset (ih htail))

/-! ## Valid UTF-8 -/

/-- The bytes encode a string. -/
def IsValid (bytes : List UInt8) : Prop := ∃ s, encode s = bytes

/-- The valid byte strings are those that lossy decoding keeps. -/
theorem isValid_iff {bytes : List UInt8} :
    IsValid bytes ↔ encode (fromUtf8Lossy bytes) = bytes := by
  constructor
  · rintro ⟨s, rfl⟩
    rw [fromUtf8Lossy_encode]
  · intro h
    exact ⟨_, h⟩

theorem encode_injective : Function.Injective encode := by
  intro s t h
  rw [← fromUtf8Lossy_encode s, h, fromUtf8Lossy_encode]

/-- A string without a replacement character is decoded from its own encoding only. -/
theorem fromUtf8Lossy_eq_iff {bytes : List UInt8} {s : String} (h : '\uFFFD' ∉ s.toList) :
    fromUtf8Lossy bytes = s ↔ bytes = encode s := by
  constructor
  · rintro rfl
    exact (encode_fromUtf8Lossy h).symm
  · rintro rfl
    exact fromUtf8Lossy_encode s

end MdnsSdDiscovery.Utf8
