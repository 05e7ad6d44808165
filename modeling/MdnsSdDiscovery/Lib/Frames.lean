import Mathlib.Data.List.Induction

/-!
# Length-prefixed frames

A buffer of length-prefixed entries over an arbitrary alphabet: each entry is
preceded by one letter that encodes its length, and what is left at the end is
too short for the length it announces.

* `unpack`: the entries of a buffer and its tail;
* `framing_unpack`: the entries packed again and the tail give the buffer back;
* `unpack_pack`: unpacking recovers the entries and the tail;
* `existsUnique_framing`: every buffer has exactly one such decomposition.
-/

namespace MdnsSdDiscovery.Frames

/-- One letter per length up to `max`. -/
structure LengthPrefix (β : Type*) where
  max : Nat
  letter : Nat → β
  length : β → Nat
  length_le : ∀ b, length b ≤ max
  length_letter : ∀ n, n ≤ max → length (letter n) = n
  letter_length : ∀ b, letter (length b) = b

variable {β : Type*} (P : LengthPrefix β)

/-- An entry behind its length. -/
def frame (e : List β) : List β := P.letter e.length :: e

/-- Several entries behind one another. -/
def pack (entries : List (List β)) : List β := entries.flatMap (frame P)

/-- A tail holds no entry: it is empty or shorter than its first letter says. -/
def Truncated (tail : List β) : Prop :=
  tail = [] ∨ ∃ b rest, tail = b :: rest ∧ rest.length < P.length b

/-- `entries` and `tail` frame the buffer. -/
structure Framing (buf : List β) (entries : List (List β)) (tail : List β) : Prop where
  eq : buf = pack P entries ++ tail
  bounded : ∀ e ∈ entries, e.length ≤ P.max
  truncated : Truncated P tail

/-- The entries of a buffer and its tail. -/
def unpack : List β → List (List β) × List β
  | [] => ([], [])
  | b :: rest =>
    if P.length b ≤ rest.length then
      (rest.take (P.length b) :: (unpack (rest.drop (P.length b))).1,
        (unpack (rest.drop (P.length b))).2)
    else ([], b :: rest)
termination_by buf => buf.length
decreasing_by all_goals simp only [List.length_cons, List.length_drop]; omega

@[simp] theorem pack_nil : pack P [] = [] := rfl

@[simp] theorem pack_cons (e : List β) (es : List (List β)) :
    pack P (e :: es) = P.letter e.length :: (e ++ pack P es) := rfl

theorem pack_append (es fs : List (List β)) : pack P (es ++ fs) = pack P es ++ pack P fs :=
  List.flatMap_append

theorem pack_replicate_nil (n : Nat) :
    pack P (List.replicate n []) = List.replicate n (P.letter 0) := by
  induction n with
  | zero => rfl
  | succ n ih => rw [List.replicate_succ, pack_cons, ih]; rfl

@[simp] theorem unpack_nil : unpack P [] = ([], []) := by rw [unpack]

theorem unpack_of_le {b : β} {rest : List β} (h : P.length b ≤ rest.length) :
    unpack P (b :: rest) = (rest.take (P.length b) :: (unpack P (rest.drop (P.length b))).1,
      (unpack P (rest.drop (P.length b))).2) := by
  rw [unpack, if_pos h]

theorem unpack_of_lt {b : β} {rest : List β} (h : rest.length < P.length b) :
    unpack P (b :: rest) = ([], b :: rest) := by
  rw [unpack, if_neg (by omega)]

/-- **Existence.** -/
theorem framing_unpack (buf : List β) : Framing P buf (unpack P buf).1 (unpack P buf).2 := by
  induction buf using unpack.induct P with
  | case1 => exact ⟨by simp, by simp, Or.inl (by simp)⟩
  | case2 b rest h ih =>
    rw [unpack_of_le P h]
    have hlen : (rest.take (P.length b)).length = P.length b := by
      rw [List.length_take]; omega
    refine ⟨?_, ?_, ih.truncated⟩
    · rw [pack_cons, hlen, P.letter_length, List.cons_append, List.append_assoc, ← ih.eq,
        List.take_append_drop]
    · intro e he
      rcases List.mem_cons.mp he with rfl | he
      · rw [hlen]; exact P.length_le b
      · exact ih.bounded e he
  | case3 b rest h =>
    rw [unpack_of_lt P (by omega)]
    exact ⟨by simp, by simp, Or.inr ⟨b, rest, rfl, by omega⟩⟩

theorem unpack_truncated {tail : List β} (h : Truncated P tail) : unpack P tail = ([], tail) := by
  rcases h with rfl | ⟨b, rest, rfl, hlt⟩
  · exact unpack_nil P
  · exact unpack_of_lt P hlt

/-- **Unpacking inverts packing.** -/
theorem unpack_pack {entries : List (List β)} {tail : List β}
    (hb : ∀ e ∈ entries, e.length ≤ P.max) (ht : Truncated P tail) :
    unpack P (pack P entries ++ tail) = (entries, tail) := by
  induction entries with
  | nil => exact unpack_truncated P ht
  | cons e es ih =>
    have hl := P.length_letter e.length (hb e (List.mem_cons_self ..))
    have ih := ih fun e' he' => hb e' (List.mem_cons_of_mem _ he')
    rw [pack_cons, List.cons_append, List.append_assoc,
      unpack_of_le P (by rw [hl, List.length_append]; omega), hl, List.take_left,
      List.drop_left, ih]

/-- **Uniqueness.** -/
theorem Framing.unpack_eq {buf : List β} {entries : List (List β)} {tail : List β}
    (h : Framing P buf entries tail) : unpack P buf = (entries, tail) := by
  rw [h.eq]
  exact unpack_pack P h.bounded h.truncated

theorem existsUnique_framing (buf : List β) :
    ∃! p : List (List β) × List β, Framing P buf p.1 p.2 :=
  ⟨unpack P buf, framing_unpack P buf, fun _ h => (h.unpack_eq P).symm⟩

/-! ## Sizes -/

/-- A non-empty entry takes at least two letters of the buffer. -/
theorem two_mul_nonempty_le (entries : List (List β)) :
    2 * (entries.filter (· ≠ [])).length ≤ (pack P entries).length := by
  induction entries with
  | nil => simp
  | cons e es ih =>
    cases e with
    | nil => simp [pack_cons] at ih ⊢; omega
    | cons b bs => simp [pack_cons] at ih ⊢; omega

end MdnsSdDiscovery.Frames
