import Mathlib.Algebra.GroupWithZero.Nat
import Mathlib.Data.List.Basic
import Mathlib.Data.List.Perm.Basic

/-!
# Slots that are replaced in place

The threads of a machine, and whatever else it keeps under a number, are a list
whose entries are replaced where they stand: `xs.set n b` after `xs[n]? = some a`.
The lemmas say which entries remain and how their counts change.
-/

namespace MdnsSdDiscovery.Slots

variable {α : Type*} {xs : List α} {n : Nat} {a b x : α}

theorem set_same (h : xs[n]? = some a) : xs.set n a = xs := by
  obtain ⟨hlt, rfl⟩ := List.getElem?_eq_some_iff.mp h
  exact List.set_getElem_self hlt

theorem mem_set_of_ne (hn : xs[n]? = some a) (hx : x ∈ xs) (hne : x ≠ a) : x ∈ xs.set n b := by
  obtain ⟨m, hm⟩ := List.mem_iff_getElem?.mp hx
  have hmn : n ≠ m := by
    rintro rfl
    exact hne (Option.some.inj (hm.symm.trans hn))
  exact List.mem_iff_getElem?.mpr ⟨m, by rw [List.getElem?_set_ne hmn]; exact hm⟩

theorem mem_set_self (hn : xs[n]? = some a) (b : α) : b ∈ xs.set n b :=
  List.mem_set (List.getElem?_eq_some_iff.mp hn).1 b

/-- Some entry has a property that the new one has exactly if the old one had it. -/
theorem exists_mem_set_congr {q : α → Prop} (hn : xs[n]? = some a) (hq : q b ↔ q a) :
    (∃ x ∈ xs.set n b, q x) ↔ ∃ x ∈ xs, q x := by
  constructor
  · rintro ⟨x, hx, hqx⟩
    rcases List.mem_or_eq_of_mem_set hx with hold | rfl
    · exact ⟨x, hold, hqx⟩
    · exact ⟨a, List.mem_of_getElem? hn, hq.mp hqx⟩
  · rintro ⟨x, hx, hqx⟩
    by_cases hxa : x = a
    · exact ⟨b, mem_set_self hn b, hq.mpr (hxa ▸ hqx)⟩
    · exact ⟨x, mem_set_of_ne hn hx hxa, hqx⟩

/-- What a count loses with the old entry and gains with the new one. -/
theorem countP_set (hn : xs[n]? = some a) (p : α → Bool) (b : α) :
    (xs.set n b).countP p + (p a).toNat = xs.countP p + (p b).toNat := by
  induction xs generalizing n with
  | nil => cases hn
  | cons x xs ih =>
    cases n with
    | zero =>
      obtain rfl : x = a := Option.some.inj hn
      cases hx : p x <;> cases hb : p b <;> simp [List.set_cons_zero, hx, hb]
    | succ n =>
      have htail := ih hn
      rw [List.set_cons_succ, List.countP_cons, List.countP_cons]
      omega

theorem countP_set_congr {p : α → Bool} (hn : xs[n]? = some a) (h : p b = p a) :
    (xs.set n b).countP p = xs.countP p := by
  have hcount := countP_set hn p b
  rw [h] at hcount
  exact Nat.add_right_cancel hcount

/-- What a sum loses with the old entry and gains with the new one. -/
theorem sum_map_set (hn : xs[n]? = some a) (f : α → Nat) (b : α) :
    ((xs.set n b).map f).sum + f a = (xs.map f).sum + f b := by
  induction xs generalizing n with
  | nil => cases hn
  | cons x xs ih =>
    cases n with
    | zero =>
      obtain rfl : x = a := Option.some.inj hn
      rw [List.set_cons_zero, List.map_cons, List.map_cons, List.sum_cons, List.sum_cons]
      omega
    | succ n =>
      have htail := ih hn
      rw [List.set_cons_succ, List.map_cons, List.map_cons, List.sum_cons, List.sum_cons]
      omega

/-- The same for what the entries hold. -/
theorem count_flatMap_set {β : Type*} [BEq β] (hn : xs[n]? = some a) (f : α → List β) (b : α)
    (y : β) : ((xs.set n b).flatMap f).count y + (f a).count y =
      (xs.flatMap f).count y + (f b).count y := by
  rw [List.count_flatMap, List.count_flatMap]
  exact sum_map_set hn (List.count y ∘ f) b

/-- One of the first slots holds more. -/
theorem flatMap_range_grow {β : Type*} {t : Nat} (ht : t < n) (f : Nat → List β) (ys : List β) :
    ((List.range n).flatMap fun u => f u ++ if t = u then ys else []).Perm
      ((List.range n).flatMap f ++ ys) := by
  induction n with
  | zero => cases ht
  | succ n ih =>
    rw [List.range_succ, List.flatMap_append, List.flatMap_append, List.flatMap_singleton,
      List.flatMap_singleton]
    rcases Nat.lt_succ_iff_lt_or_eq.mp ht with hlt | rfl
    · rw [if_neg (Nat.ne_of_lt hlt), List.append_nil, List.append_assoc]
      refine ((ih hlt).append_right _).trans ?_
      rw [List.append_assoc]
      exact List.perm_append_comm.append_left _
    · have hbelow : ((List.range t).flatMap fun u => f u ++ if t = u then ys else []) =
          (List.range t).flatMap f := by
        refine List.flatMap_congr ?_
        intro u hu
        rw [if_neg (Nat.ne_of_gt (List.mem_range.mp hu)), List.append_nil]
      rw [hbelow, if_pos rfl, List.append_assoc]

end MdnsSdDiscovery.Slots
