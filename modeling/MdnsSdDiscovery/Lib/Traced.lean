import MdnsSdDiscovery.Lib.Runs

/-!
# Computations whose calls are watched

A `Traced κ α` is a value with the calls that were made to compute it, in order.  A
monitor is a step function on the calls: what it refuses, the computation must not do.

* `Meets watch s m Q`: the monitor in state `s` lets all calls of `m` pass, and `Q`
  holds of the value and of the state it is left in;
* `Meets.bind`: the rule of composition;
* `balance`: what the calls open and close, if every step keeps count of it.
-/

namespace MdnsSdDiscovery.Traces

open Runs

/-- A value, and the calls made on the way to it. -/
structure Traced (κ α : Type) where
  value : α
  calls : List κ
  deriving DecidableEq, Repr

variable {κ α β : Type}

/-- One call. -/
def call (k : κ) : Traced κ Unit := ⟨(), [k]⟩

instance : Monad (Traced κ) where
  pure a := ⟨a, []⟩
  bind m f := ⟨(f m.value).value, m.calls ++ (f m.value).calls⟩

@[simp] theorem value_pure (a : α) : (pure a : Traced κ α).value = a := rfl

@[simp] theorem calls_pure (a : α) : (pure a : Traced κ α).calls = [] := rfl

@[simp] theorem value_bind (m : Traced κ α) (f : α → Traced κ β) :
    (m >>= f).value = (f m.value).value := rfl

@[simp] theorem calls_bind (m : Traced κ α) (f : α → Traced κ β) :
    (m >>= f).calls = m.calls ++ (f m.value).calls := rfl

@[simp] theorem calls_call (k : κ) : (call k).calls = [k] := rfl

variable {σ : Type*} {watch : σ → κ → Option σ} {s t : σ}

/-- The monitor lets the calls pass, and `Q` holds at the end. -/
def Meets (watch : σ → κ → Option σ) (s : σ) (m : Traced κ α) (Q : α → σ → Prop) : Prop :=
  ∃ t, run watch s m.calls = some t ∧ Q m.value t

section
variable {m : Traced κ α} {f : α → Traced κ β} {Q : α → σ → Prop} {S : β → σ → Prop}

theorem Meets.pure {a : α} (h : Q a s) : Meets watch s (Pure.pure a) Q := ⟨s, rfl, h⟩

/-- **Composition.** -/
theorem Meets.bind (h : Meets watch s m Q) (hf : ∀ a t, Q a t → Meets watch t (f a) S) :
    Meets watch s (m >>= f) S := by
  obtain ⟨t, ht, hQ⟩ := h
  obtain ⟨u, hu, hS⟩ := hf m.value t hQ
  exact ⟨u, run_trans ht hu, hS⟩

/-- A call that the monitor lets pass comes before the rest. -/
theorem Meets.call_bind {k : κ} {g : Unit → Traced κ β} (hk : watch s k = some t)
    (hg : Meets watch t (g ()) S) : Meets watch s (call k >>= g) S := by
  refine Meets.bind (Q := fun _ u => u = t) ⟨t, ?_, rfl⟩ ?_
  · rw [calls_call, run_cons, hk]
    rfl
  · rintro ⟨⟩ u rfl
    exact hg

end

/-- **What is opened is closed or still open**, in every trace that the monitor lets pass. -/
theorem balance {isOpen : σ → Nat} {opens closes : κ → Bool}
    (hstep : ∀ s k t, watch s k = some t →
      isOpen s + (opens k).toNat = (closes k).toNat + isOpen t)
    {ks : List κ} (h : run watch s ks = some t) :
    isOpen s + ks.countP opens = ks.countP closes + isOpen t := by
  induction ks generalizing s with
  | nil =>
    cases h
    simp
  | cons k ks ih =>
    obtain ⟨u, hu, hrest⟩ := Option.bind_eq_some_iff.mp h
    have hhead := hstep s k u hu
    have htail := ih hrest
    rw [List.countP_cons, List.countP_cons]
    cases hopens : opens k <;> cases hcloses : closes k <;>
      simp only [hopens, hcloses, Bool.toNat_true, Bool.toNat_false, if_true,
        Bool.false_eq_true, if_false] at hhead ⊢ <;> omega

/-- What every step that passes fulfils, every call of a trace fulfils. -/
theorem forall_mem_of_run {P : κ → Prop} (hstep : ∀ s k t, watch s k = some t → P k)
    {ks : List κ} (h : run watch s ks = some t) : ∀ k ∈ ks, P k := by
  induction ks generalizing s with
  | nil => simp
  | cons k ks ih =>
    obtain ⟨u, hu, hrest⟩ := Option.bind_eq_some_iff.mp h
    exact List.forall_mem_cons.mpr ⟨hstep s k u hu, ih hrest⟩

end MdnsSdDiscovery.Traces
