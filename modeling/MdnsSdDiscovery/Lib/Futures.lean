import MdnsSdDiscovery.Lib.Runs

/-!
# Futures with a time limit

A `Future` is a state that others push on and that its owner polls: a poll takes what
the calls of the computation return meanwhile, and may yield the result.  Dropping it
leaves the state as `cancel` says, and others may push on.  `Limited` is such a future
behind a time limit, as an owner sees it.

* `Limited.step`: a poll looks at the future first and at the clock then;
* `Limited.Change`: what a step can do;
* `run_outcome`: an outcome is final.
-/

namespace MdnsSdDiscovery.Futures

open Runs

structure Future (σ ι κ α : Type*) where
  push : σ → ι → Option σ
  poll : σ → κ → σ × Option α
  cancel : σ → σ

structure Limited (σ α : Type*) where
  inner : σ
  outcome : Option α := none
  dropped : Bool := false

inductive Label (ι κ : Type*) where
  | push (i : ι)
  /-- `elapsed`: the limit has passed. -/
  | poll (k : κ) (elapsed : Bool)
  | drop

variable {σ ι κ α : Type*} {fut : Future σ ι κ α} {late : Option α} {s s' : Limited σ α}

namespace Limited

/-- The owner still has the future. -/
def isOpen (s : Limited σ α) : Bool := s.outcome.isNone && !s.dropped

/-- A step of the future behind its limit; `late` is the outcome when the limit passes,
if there is one. -/
def step (fut : Future σ ι κ α) (late : Option α) (s : Limited σ α) :
    Label ι κ → Option (Limited σ α)
  | .push i => (fut.push s.inner i).map fun inner => { s with inner }
  | .poll k elapsed =>
    if s.isOpen then
      match fut.poll s.inner k with
      | (inner, some a) => some { s with inner, outcome := some a }
      | (inner, none) =>
        match late, elapsed with
        | some a, true => some { s with inner := fut.cancel inner, outcome := some a }
        | _, _ => some { s with inner }
    else none
  | .drop =>
    if s.isOpen then some { s with inner := fut.cancel s.inner, dropped := true } else none

/-- **Inversion of a step.** -/
inductive Change (fut : Future σ ι κ α) (late : Option α) (s : Limited σ α) :
    Label ι κ → Limited σ α → Prop
  | push (i : ι) (inner : σ) (h : fut.push s.inner i = some inner) :
      Change fut late s (.push i) { s with inner }
  | ready (k : κ) (elapsed : Bool) (inner : σ) (a : α) (hopen : s.isOpen = true)
      (h : fut.poll s.inner k = (inner, some a)) :
      Change fut late s (.poll k elapsed) { s with inner, outcome := some a }
  | late (k : κ) (inner : σ) (a : α) (hopen : s.isOpen = true)
      (h : fut.poll s.inner k = (inner, none)) (hlate : late = some a) :
      Change fut late s (.poll k true) { s with inner := fut.cancel inner, outcome := some a }
  | pending (k : κ) (elapsed : Bool) (inner : σ) (hopen : s.isOpen = true)
      (h : fut.poll s.inner k = (inner, none)) :
      Change fut late s (.poll k elapsed) { s with inner }
  | drop (hopen : s.isOpen = true) :
      Change fut late s .drop { s with inner := fut.cancel s.inner, dropped := true }

theorem step_change {l : Label ι κ} (h : step fut late s l = some s') :
    Change fut late s l s' := by
  cases l with
  | push i =>
    obtain ⟨inner, hinner, rfl⟩ := Option.map_eq_some_iff.mp h
    exact .push i inner hinner
  | poll k elapsed =>
    simp only [step] at h
    split at h
    next hopen =>
      split at h
      next inner a hpoll =>
        cases h
        exact .ready k elapsed inner a hopen hpoll
      next inner hpoll =>
        split at h <;> cases h
        · exact .late k inner _ hopen hpoll rfl
        · exact .pending k elapsed inner hopen hpoll
    next => cases h
  | drop =>
    simp only [step] at h
    split at h
    next hopen =>
      cases h
      exact .drop hopen
    next => cases h

theorem isOpen_iff : s.isOpen = true ↔ s.outcome = none ∧ s.dropped = false := by
  simp [isOpen]

/-- An outcome is final. -/
theorem outcome_step {a : α} {l : Label ι κ} (ha : s.outcome = some a)
    (h : step fut late s l = some s') : s'.outcome = some a := by
  have hclosed : ¬ s.isOpen = true := by
    rw [isOpen_iff, ha]
    rintro ⟨⟨⟩, -⟩
  cases step_change h with
  | push i inner _ => exact ha
  | ready k elapsed inner a hopen _ => exact absurd hopen hclosed
  | late k inner a hopen _ _ => exact absurd hopen hclosed
  | pending k elapsed inner hopen _ => exact absurd hopen hclosed
  | drop hopen => exact absurd hopen hclosed

theorem run_outcome {a : α} {labels : List (Label ι κ)} (ha : s.outcome = some a)
    (h : run (step fut late) s labels = some s') : s'.outcome = some a :=
  run_invariant (I := fun s => s.outcome = some a) (fun _ _ _ hs => outcome_step hs) ha h

end Limited

end MdnsSdDiscovery.Futures
