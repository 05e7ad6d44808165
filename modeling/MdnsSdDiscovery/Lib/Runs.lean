import Mathlib.Algebra.GroupWithZero.Nat
import Mathlib.Data.List.Induction

/-!
# Runs of a labelled step function

A system is a partial function `step : σ → ι → Option σ`: the label says which
of the possible things happens next, and `none` says that it cannot happen in
this state.  Every interleaving of such a system is a list of labels.

* `run step s is`: the state after the labels `is`, if each of them was possible;
* `run_invariant`: what every step keeps, every run keeps;
* `run_guarded`: the same for a relation between the state and the labels so
  far, when every step of the run meets a condition;
* `outputs step out s is`: what the steps of a run put out, and `run_outputs`, when
  that is a run of another system;
* `countP_add_work_le`, `exists_rest`: the labels that use up work come to an end.
-/

namespace MdnsSdDiscovery.Runs

variable {σ ι : Type*}

/-- The state after the labels, taken from left to right. -/
def run (step : σ → ι → Option σ) : σ → List ι → Option σ
  | s, [] => some s
  | s, i :: is => (step s i).bind fun s' => run step s' is

variable {step : σ → ι → Option σ}

@[simp] theorem run_nil (s : σ) : run step s [] = some s := rfl

@[simp] theorem run_cons (s : σ) (i : ι) (is : List ι) :
    run step s (i :: is) = (step s i).bind fun s' => run step s' is := rfl

theorem run_append (s : σ) (is js : List ι) :
    run step s (is ++ js) = (run step s is).bind fun s' => run step s' js := by
  induction is generalizing s with
  | nil => rfl
  | cons i is ih =>
    rw [List.cons_append, run_cons, run_cons]
    cases h : step s i with
    | none => rfl
    | some t => simpa using ih t

theorem run_snoc (s : σ) (is : List ι) (i : ι) :
    run step s (is ++ [i]) = (run step s is).bind fun s' => step s' i := by
  rw [run_append]
  congr 1
  funext t
  cases h : step t i <;> simp [h]

/-- A run that ends in a state passes through one after each of its prefixes. -/
theorem run_prefix {s t : σ} {is js : List ι} (h : run step s (is ++ js) = some t) :
    ∃ u, run step s is = some u ∧ run step u js = some t := by
  rw [run_append] at h
  exact Option.bind_eq_some_iff.mp h

/-- The last step of a prefix of a run. -/
theorem run_prefix_snoc {s t u : σ} {pre is : List ι} {i : ι} (h : run step s is = some t)
    (hpre : pre ++ [i] <+: is) (hu : run step s pre = some u) :
    ∃ u', step u i = some u' ∧ run step s (pre ++ [i]) = some u' := by
  obtain ⟨post, rfl⟩ := hpre
  obtain ⟨u', hu', -⟩ := run_prefix h
  rw [run_snoc, hu] at hu'
  refine ⟨u', hu', ?_⟩
  rw [run_snoc, hu]
  exact hu'

/-- What is to be checked at each step of a list, one step at a time. -/
theorem forall_prefix_snoc_nil {P : List ι → ι → Prop} :
    ∀ pre i, pre ++ [i] <+: [] → P pre i := by
  intro pre i h
  exact absurd h.length_le (by simp)

theorem forall_prefix_snoc_cons {P : List ι → ι → Prop} {j : ι} {is : List ι} (hj : P [] j)
    (his : ∀ pre i, pre ++ [i] <+: is → P (j :: pre) i) :
    ∀ pre i, pre ++ [i] <+: j :: is → P pre i := by
  intro pre i h
  cases pre with
  | nil =>
    obtain ⟨rfl, -⟩ := List.cons_prefix_cons.mp h
    exact hj
  | cons k pre =>
    obtain ⟨rfl, hrest⟩ := List.cons_prefix_cons.mp h
    exact his pre i hrest

theorem run_trans {s t u : σ} {is js : List ι} (h : run step s is = some t)
    (h' : run step t js = some u) : run step s (is ++ js) = some u := by
  rw [run_append, h]
  exact h'

/-- **Invariant rule.** -/
theorem run_invariant {I : σ → Prop} (hstep : ∀ s i t, I s → step s i = some t → I t)
    {s t : σ} {is : List ι} (hs : I s) (h : run step s is = some t) : I t := by
  induction is generalizing s with
  | nil => cases h; exact hs
  | cons i is ih =>
    rw [run_cons] at h
    obtain ⟨u, hu, hrest⟩ := Option.bind_eq_some_iff.mp h
    exact ih (hstep s i u hs hu) hrest

/-- **Guarded history rule.**  `P is s` relates the state to the labels that led
to it, and `G is s i` is a condition that each step of the run meets. -/
theorem run_guarded {P : List ι → σ → Prop} {G : List ι → σ → ι → Prop} {s : σ} (h0 : P [] s)
    (hstep : ∀ is t i u, P is t → G is t i → step t i = some u → P (is ++ [i]) u)
    {is : List ι} {t : σ} (h : run step s is = some t)
    (hguard : ∀ pre i post u, is = pre ++ i :: post → run step s pre = some u → G pre u i) :
    P is t := by
  induction is using List.reverseRecOn generalizing t with
  | nil => cases h; exact h0
  | append_singleton is i ih =>
    rw [run_snoc] at h
    obtain ⟨u, hu, hi⟩ := Option.bind_eq_some_iff.mp h
    refine hstep is u i t (ih hu ?_) (hguard is i [] u rfl hu) hi
    intro pre j post v hpre hv
    exact hguard pre j (post ++ [i]) v (by simp [hpre]) hv

/-! ## What a run puts out -/

section
variable {α : Type*} {out : σ → ι → List α}

/-- Step `i` puts out `out s i` in state `s`. -/
def outputs (step : σ → ι → Option σ) (out : σ → ι → List α) : σ → List ι → List α
  | _, [] => []
  | s, i :: is => out s i ++ ((step s i).map fun s' => outputs step out s' is).getD []

theorem outputs_cons {s t : σ} {i : ι} (h : step s i = some t) (is : List ι) :
    outputs step out s (i :: is) = out s i ++ outputs step out t is := by
  simp [outputs, h]

theorem outputs_snoc {s t : σ} {is : List ι} (h : run step s is = some t) (i : ι) :
    outputs step out s (is ++ [i]) = outputs step out s is ++ out t i := by
  induction is generalizing s with
  | nil =>
    obtain rfl : s = t := Option.some.inj h
    cases hi : step s i <;> simp [outputs, hi]
  | cons j is ih =>
    obtain ⟨u, hu, hrest⟩ := Option.bind_eq_some_iff.mp h
    rw [List.cons_append, outputs_cons hu, outputs_cons hu, ih hrest, List.append_assoc]

/-- What a run puts out, one of its steps puts out. -/
theorem mem_outputs {s t : σ} {is : List ι} (h : run step s is = some t) {a : α}
    (ha : a ∈ outputs step out s is) :
    ∃ pre i u, pre ++ [i] <+: is ∧ run step s pre = some u ∧ a ∈ out u i := by
  induction is using List.reverseRecOn generalizing t with
  | nil => cases ha
  | append_singleton is i ih =>
    rw [run_snoc] at h
    obtain ⟨u, hu, -⟩ := Option.bind_eq_some_iff.mp h
    rw [outputs_snoc hu, List.mem_append] at ha
    rcases ha with hold | hnew
    · obtain ⟨pre, j, v, hpre, hv, hj⟩ := ih hu hold
      exact ⟨pre, j, v, hpre.trans (List.prefix_append _ _), hv, hj⟩
    · exact ⟨is, i, u, List.prefix_rfl, hu, hnew⟩

/-- **History rule.**  A relation between the state and what was put out so far. -/
theorem run_history {P : List α → σ → Prop} {s : σ} (h0 : P [] s)
    (hstep : ∀ as t i u, P as t → step t i = some u → P (as ++ out t i) u)
    {is : List ι} {t : σ} (h : run step s is = some t) : P (outputs step out s is) t := by
  induction is using List.reverseRecOn generalizing t with
  | nil =>
    cases h
    exact h0
  | append_singleton is i ih =>
    rw [run_snoc] at h
    obtain ⟨u, hu, hi⟩ := Option.bind_eq_some_iff.mp h
    rw [outputs_snoc hu]
    exact hstep _ u i t (ih hu) hi

/-- **Projection rule.**  If what each step puts out takes the image of its state to
the image of the next, then what a run puts out is a run of the images. -/
theorem run_outputs {τ : Type*} {inner : τ → α → Option τ} {f : σ → τ}
    (hstep : ∀ s i t, step s i = some t → run inner (f s) (out s i) = some (f t))
    {s t : σ} {is : List ι} (h : run step s is = some t) :
    run inner (f s) (outputs step out s is) = some (f t) := by
  induction is generalizing s with
  | nil =>
    cases h
    rfl
  | cons i is ih =>
    obtain ⟨u, hu, hrest⟩ := Option.bind_eq_some_iff.mp h
    rw [outputs_cons hu]
    exact run_trans (hstep s i u hu) (ih hrest)

end

/-! ## Runs that come to rest -/

/-- Nothing that `q` admits is possible any more. -/
def Rests (step : σ → ι → Option σ) (q : ι → Bool) (s : σ) : Prop :=
  ∀ i, q i = true → step s i = none

section
variable {q : ι → Bool} {I : σ → Prop} {work : σ → Nat} {credit : ι → Nat}

/-- **Ranking rule.**  If a step that `q` admits uses up work, and another one adds
no more than its credit, then a run admits as many as were paid for. -/
theorem countP_add_work_le (hinv : ∀ s i t, I s → step s i = some t → I t)
    (hwork : ∀ s i t, I s → step s i = some t → work t + (q i).toNat ≤ work s + credit i)
    {s t : σ} {is : List ι} (hs : I s) (h : run step s is = some t) :
    is.countP q + work t ≤ work s + (is.map credit).sum := by
  induction is generalizing s with
  | nil =>
    cases h
    simp
  | cons i is ih =>
    obtain ⟨u, hu, hrest⟩ := Option.bind_eq_some_iff.mp h
    have htail := ih (hinv s i u hs hu) hrest
    have hhead := hwork s i u hs hu
    rw [List.countP_cons, List.map_cons, List.sum_cons]
    cases hq : q i with
    | true => simp only [hq, Bool.toNat_true, if_true] at hhead ⊢; omega
    | false => simp only [hq, Bool.toNat_false, Bool.false_eq_true, if_false] at hhead ⊢; omega

/-- Every state can be run to rest. -/
theorem exists_rest (hinv : ∀ s i t, I s → step s i = some t → I t)
    (hwork : ∀ s i t, I s → q i = true → step s i = some t → work t < work s) {s : σ} (hs : I s) :
    ∃ is t, (∀ i ∈ is, q i = true) ∧ run step s is = some t ∧ Rests step q t := by
  induction hn : work s using Nat.strongRecOn generalizing s with
  | _ n ih =>
    by_cases hrest : Rests step q s
    · exact ⟨[], s, by simp, rfl, hrest⟩
    · simp only [Rests, not_forall] at hrest
      obtain ⟨i, hi, hstep⟩ := hrest
      obtain ⟨u, hu⟩ := Option.ne_none_iff_exists'.mp hstep
      have hless : work u < n := hn ▸ hwork s i u hs hi hu
      obtain ⟨is, t, his, ht, hrest⟩ := ih (work u) hless (hinv s i u hs hu) rfl
      refine ⟨i :: is, t, List.forall_mem_cons.mpr ⟨hi, his⟩, ?_, hrest⟩
      rw [run_cons, hu]
      exact ht

end

/-! ## Histories that grow by one entry -/

variable {α β : Type*} {a : α}

theorem filterMap_snoc_some {f : α → Option β} {b : β}
    (h : f a = some b) (l : List α) : (l ++ [a]).filterMap f = l.filterMap f ++ [b] := by
  simp [List.filterMap_append, h]

theorem filterMap_snoc_none {f : α → Option β}
    (h : f a = none) (l : List α) : (l ++ [a]).filterMap f = l.filterMap f := by
  simp [List.filterMap_append, h]

theorem filterMap_snoc (f : α → Option β) (l : List α) (a : α) :
    (l ++ [a]).filterMap f = l.filterMap f ++ (f a).toList := by
  cases h : f a <;> simp [List.filterMap_append, h]

theorem getLast?_filter_snoc (q : α → Bool) (l : List α) (a : α) :
    ((l ++ [a]).filter q).getLast? = if q a then some a else (l.filter q).getLast? := by
  rw [List.filter_append]
  cases h : q a <;> simp [h]

theorem getLast?_filter_of_getLast? {q : α → Bool} {l : List α} (h : l.getLast? = some a)
    (ha : q a = true) : (l.filter q).getLast? = some a := by
  obtain ⟨front, rfl⟩ := List.getLast?_eq_some_iff.mp h
  rw [getLast?_filter_snoc, if_pos ha]

theorem exists_mem_snoc {q : α → Prop} (l : List α) (a : α) :
    (∃ x ∈ l ++ [a], q x) ↔ (∃ x ∈ l, q x) ∨ q a := by
  simp [or_and_right, exists_or]

end MdnsSdDiscovery.Runs
