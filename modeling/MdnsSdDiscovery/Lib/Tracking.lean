import MdnsSdDiscovery.Lib.Presence
import MdnsSdDiscovery.Lib.Runs
import Mathlib.Data.Multiset.AddSub

/-!
# Trackers that confirm what they are told

A tracker is told that keys come and go.  It shows the end of a key at once, but
a key that has come only after it was confirmed, which takes a while and may fail.

* `covered_run`: a key that is there is shown, or its confirmation is pending, or
  one of it has failed;
* `sound_iff`: no key is shown that is gone exactly when no confirmation
  comes after the end of its key;
* `Tracks`: the same of every machine that simulates a tracker.
-/

namespace MdnsSdDiscovery.Tracking

open Presence Runs

variable {κ σ ι : Type*}

structure Tracker (κ : Type*) where
  /-- What it was told, and what it shows, as logs of changes. -/
  told : List (Change κ) := []
  shown : List (Change κ) := []
  /-- The keys that are being confirmed, and those that could not be. -/
  pending : Multiset κ := 0
  failed : List κ := []

inductive Action (κ : Type*) where
  | add (k : κ)
  | remove (k : κ)
  | confirm (k : κ)
  | fail (k : κ)
  | idle

/-- No more is shown than is there. -/
def Tracker.Sound (s : Tracker κ) : Prop := replay s.shown ⊆ replay s.told

/-- What is there and not shown is pending or has failed. -/
def Tracker.Covered (s : Tracker κ) : Prop :=
  ∀ k ∈ replay s.told, k ∈ replay s.shown ∨ k ∈ s.pending ∨ k ∈ s.failed

/-- A key is confirmed while it is there. -/
def Tracker.Timely (s : Tracker κ) : Action κ → Prop
  | .confirm k => k ∈ replay s.told
  | _ => True

/-- Where nothing is pending and nothing has failed, a sound tracker shows what is
there. -/
theorem Tracker.shown_eq {s : Tracker κ} (hsound : s.Sound) (hcovered : s.Covered)
    (hpending : s.pending = 0) (hfailed : s.failed = []) : replay s.shown = replay s.told := by
  refine Set.Subset.antisymm hsound fun k hk => ?_
  rcases hcovered k hk with hshown | hp | hf
  · exact hshown
  · rw [hpending] at hp
    exact absurd hp (Multiset.notMem_zero k)
  · rw [hfailed] at hf
    cases hf

variable [DecidableEq κ]

def Tracker.step (s : Tracker κ) : Action κ → Option (Tracker κ)
  | .add k => some { s with told := s.told ++ [.insert k], pending := k ::ₘ s.pending }
  | .remove k => some { s with told := s.told ++ [.delete k], shown := s.shown ++ [.delete k] }
  | .confirm k =>
    if k ∈ s.pending then
      some { s with pending := s.pending.erase k, shown := s.shown ++ [.insert k] }
    else none
  | .fail k =>
    if k ∈ s.pending then some { s with pending := s.pending.erase k, failed := s.failed ++ [k] }
    else none
  | .idle => some s

/-- A key that is added last. -/
theorem coe_snoc {α : Type*} (l : List α) (a : α) :
    ((l ++ [a] : List α) : Multiset α) = a ::ₘ (l : Multiset α) :=
  Multiset.coe_eq_coe.mpr (List.perm_append_singleton a l)

/-! ## Steps -/

section
variable {s t : Tracker κ} {a : Action κ}

theorem Tracker.Covered.step (hs : s.Covered) (h : s.step a = some t) : t.Covered := by
  cases a with
  | add j =>
    cases h
    intro k hk
    rw [replay_snoc] at hk
    rcases hk with rfl | hk
    · exact .inr (.inl (by simp))
    · exact (hs k hk).imp_right (Or.imp_left Multiset.mem_cons_of_mem)
  | remove j =>
    cases h
    intro k hk
    rw [replay_snoc] at hk ⊢
    exact (hs k hk.1).imp_left fun hshown => ⟨hshown, hk.2⟩
  | confirm j =>
    simp only [Tracker.step] at h
    split at h <;> cases h
    intro k hk
    rw [replay_snoc]
    by_cases hkj : k = j
    · exact .inl (.inl hkj)
    · exact (hs k hk).imp .inr (Or.imp_left (Multiset.mem_erase_of_ne hkj).mpr)
  | fail j =>
    simp only [Tracker.step] at h
    split at h <;> cases h
    intro k hk
    rcases hs k hk with hshown | hp | hf
    · exact .inl hshown
    · by_cases hkj : k = j
      · exact .inr (.inr (by simp [hkj]))
      · exact .inr (.inl ((Multiset.mem_erase_of_ne hkj).mpr hp))
    · exact .inr (.inr (List.mem_append_left _ hf))
  | idle =>
    cases h
    exact hs

/-- **The actions that keep a tracker sound are the timely ones.** -/
theorem Tracker.sound_step_iff (hs : s.Sound) (h : s.step a = some t) :
    t.Sound ↔ s.Timely a := by
  cases a with
  | add j =>
    cases h
    refine iff_of_true ?_ trivial
    rw [Tracker.Sound, replay_snoc]
    exact hs.trans (Set.subset_insert _ _)
  | remove j =>
    cases h
    refine iff_of_true ?_ trivial
    rw [Tracker.Sound, replay_snoc, replay_snoc]
    exact Set.sdiff_subset_sdiff_left hs
  | confirm j =>
    simp only [Tracker.step] at h
    split at h <;> cases h
    rw [Tracker.Sound, replay_snoc]
    exact Set.insert_subset_iff.trans (and_iff_left hs)
  | fail j =>
    simp only [Tracker.step] at h
    split at h <;> cases h
    exact iff_of_true hs trivial
  | idle =>
    cases h
    exact iff_of_true hs trivial

end

/-! ## Machines that simulate a tracker -/

/-- `tracker` abstracts the states of a machine and `action` its steps, where `I`
holds and the steps meet `G`. -/
structure Tracks (step : σ → ι → Option σ) (tracker : σ → Tracker κ) (action : σ → ι → Action κ)
    (I : σ → Prop) (G : σ → ι → Prop) : Prop where
  invariant : ∀ s i t, I s → G s i → step s i = some t → I t
  simulates : ∀ s i t, I s → G s i → step s i = some t →
    (tracker s).step (action s i) = some (tracker t)

section
variable {step : σ → ι → Option σ} {tracker : σ → Tracker κ} {action : σ → ι → Action κ}
  {I : σ → Prop} {G : σ → ι → Prop} {s t : σ} {is : List ι}

/-- Every step of the run meets `G`. -/
def Guarded (step : σ → ι → Option σ) (G : σ → ι → Prop) (s : σ) (is : List ι) : Prop :=
  ∀ pre i, pre ++ [i] <+: is → ∀ u, run step s pre = some u → G u i

theorem Guarded.mono {js : List ι} (h : Guarded step G s is) (hjs : js <+: is) :
    Guarded step G s js :=
  fun pre i hpre => h pre i (hpre.trans hjs)

theorem guarded_nil : Guarded step G s [] := forall_prefix_snoc_nil

theorem Guarded.cons {i : ι} (hi : G s i) (h : ∀ u, step s i = some u → Guarded step G u is) :
    Guarded step G s (i :: is) := by
  refine forall_prefix_snoc_cons ?_ ?_
  · rintro u ⟨⟩
    exact hi
  · intro pre j hpre u hu
    obtain ⟨v, hv, hrest⟩ := Option.bind_eq_some_iff.mp hu
    exact h v hv pre j hpre u hrest

theorem Tracks.invariant_run (ht : Tracks step tracker action I G) (hs : I s)
    (hguard : Guarded step G s is) (h : run step s is = some t) : I t := by
  refine run_guarded (P := fun _ u => I u) (G := fun _ u i => G u i) hs ?_ h ?_
  · intro _ u i v hu hG hstep
    exact ht.invariant u i v hu hG hstep
  · rintro pre i post u rfl hu
    exact hguard pre i ⟨post, by simp⟩ u hu

/-- **What is there is shown, pending or failed** after every run. -/
theorem Tracks.covered_run (ht : Tracks step tracker action I G) (hs : I s)
    (hcovered : (tracker s).Covered) (hguard : Guarded step G s is)
    (h : run step s is = some t) : (tracker t).Covered := by
  refine (run_guarded (P := fun _ u => I u ∧ (tracker u).Covered) (G := fun _ u i => G u i)
    ⟨hs, hcovered⟩ ?_ h ?_).2
  · rintro _ u i v ⟨hu, hc⟩ hG hstep
    exact ⟨ht.invariant u i v hu hG hstep, hc.step (ht.simulates u i v hu hG hstep)⟩
  · rintro pre i post u rfl hu
    exact hguard pre i ⟨post, by simp⟩ u hu

/-- **No more is shown than is there, all along a run, exactly when every
confirmation is timely.** -/
theorem Tracks.sound_iff (ht : Tracks step tracker action I G) (hs : I s)
    (hsound : (tracker s).Sound) (hguard : Guarded step G s is) (h : run step s is = some t) :
    (∀ pre u, pre <+: is → run step s pre = some u → (tracker u).Sound) ↔
      Guarded step (fun u i => (tracker u).Timely (action u i)) s is := by
  have hstep : ∀ pre i u v, pre ++ [i] <+: is → run step s pre = some u → step u i = some v →
      (tracker u).Sound → ((tracker v).Sound ↔ (tracker u).Timely (action u i)) := by
    intro pre i u v hpre hu hv hsu
    have hI := ht.invariant_run hs (hguard.mono ((List.prefix_append pre [i]).trans hpre)) hu
    exact Tracker.sound_step_iff hsu (ht.simulates u i v hI (hguard pre i hpre u hu) hv)
  constructor
  · intro hall pre i hpre u hu
    obtain ⟨v, hv, hrun⟩ := run_prefix_snoc h hpre hu
    exact (hstep pre i u v hpre hu hv
      (hall pre u ((List.prefix_append _ _).trans hpre) hu)).mp (hall _ v hpre hrun)
  · intro htimely pre
    induction pre using List.reverseRecOn with
    | nil =>
      rintro u - hu
      cases hu
      exact hsound
    | append_singleton pre i ih =>
      intro v hpre hv
      rw [run_snoc] at hv
      obtain ⟨u, hu, hi⟩ := Option.bind_eq_some_iff.mp hv
      exact (hstep pre i u v hpre hu hi (ih u ((List.prefix_append _ _).trans hpre) hu)).mpr
        (htimely pre i hpre u hu)

end

end MdnsSdDiscovery.Tracking
