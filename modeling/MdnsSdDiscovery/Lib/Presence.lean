import Mathlib.Data.Set.Image
import Mathlib.Data.List.Induction

/-!
# Logs of insertions and deletions

A consumer that replays a log of `insert`s and `delete`s over arbitrary keys
holds a key exactly when the latest change of that key is an insertion
(`mem_replay_iff`).  `latest` is computed from the log alone, so statements
about what the consumer holds become statements about the last entry that
carries a key.

A consumer that sees the keys only through a projection `f` holds the image of
what a full consumer holds, after every prefix, exactly when no deletion leaves
another held key with the same projection behind (`replay_map_iff`).

A consumer that takes every change for an insertion is right exactly when no
key's latest change is a deletion (`keys_eq_replay_iff`).
-/

namespace MdnsSdDiscovery.Presence

inductive Change (κ : Type*) where
  | insert (k : κ)
  | delete (k : κ)
  deriving DecidableEq, Repr

variable {κ ι : Type*}

def Change.key : Change κ → κ
  | .insert k | .delete k => k

/-- The same change of the projected key. -/
def Change.map (f : κ → ι) : Change κ → Change ι
  | .insert k => .insert (f k)
  | .delete k => .delete (f k)

/-- What a consumer holds after one more change. -/
def apply (held : Set κ) : Change κ → Set κ
  | .insert k => Insert.insert k held
  | .delete k => held \ {k}

/-- What a consumer that started empty holds after the log. -/
def replay (log : List (Change κ)) : Set κ := log.foldl apply ∅

@[simp] theorem replay_nil : replay ([] : List (Change κ)) = ∅ := rfl

theorem replay_snoc (log : List (Change κ)) (c : Change κ) :
    replay (log ++ [c]) = apply (replay log) c := by
  simp [replay]

/-! ## Projections -/

/-- A deletion is seen through `f` when it removes the last held key that `f`
sends there. -/
theorem image_delete {f : κ → ι} {held : Set κ} {k : κ} (h : ∀ j ∈ held, f j = f k → j = k) :
    f '' (held \ {k}) = f '' held \ {f k} := by
  ext y
  constructor
  · rintro ⟨j, ⟨hj, hne⟩, rfl⟩
    exact ⟨⟨j, hj, rfl⟩, fun hy => hne (h j hj hy)⟩
  · rintro ⟨⟨j, hj, rfl⟩, hne⟩
    refine ⟨j, ⟨hj, ?_⟩, rfl⟩
    rintro rfl
    exact hne rfl

/-- **When the projected log tracks the projection.** -/
theorem replay_map_iff (f : κ → ι) (log : List (Change κ)) :
    (∀ pre, pre <+: log → replay (pre.map (Change.map f)) = f '' replay pre) ↔
      ∀ pre k, pre ++ [.delete k] <+: log → ∀ j ∈ replay pre, f j = f k → j = k := by
  constructor
  · intro h pre k hpre j hj hjk
    by_contra hne
    have hafter := h _ hpre
    rw [List.map_append, List.map_singleton, replay_snoc, replay_snoc] at hafter
    have hleft : f k ∈ f '' apply (replay pre) (.delete k) := ⟨j, ⟨hj, hne⟩, hjk⟩
    rw [← hafter] at hleft
    exact hleft.2 rfl
  · intro h pre
    induction pre using List.reverseRecOn with
    | nil => simp
    | append_singleton pre c ih =>
      intro hpre
      have hbefore := ih ((List.prefix_append pre [c]).trans hpre)
      rw [List.map_append, List.map_singleton, replay_snoc, replay_snoc, hbefore]
      cases c with
      | insert k => exact (Set.image_insert_eq).symm
      | delete k => exact (image_delete (h pre k hpre)).symm

/-! ## The latest change of a key -/

variable [DecidableEq κ]

/-- The latest change that carries `k`. -/
def latest (log : List (Change κ)) (k : κ) : Option (Change κ) :=
  (log.filter (·.key = k)).getLast?

@[simp] theorem latest_nil (k : κ) : latest [] k = none := rfl

theorem latest_snoc (log : List (Change κ)) (c : Change κ) (k : κ) :
    latest (log ++ [c]) k = if c.key = k then some c else latest log k := by
  unfold latest
  rw [List.filter_append]
  by_cases h : c.key = k
  · simp [h]
  · simp [h]

theorem latest_insert (log : List (Change κ)) (j k : κ) :
    latest (log ++ [.insert j]) k = if j = k then some (.insert j) else latest log k :=
  latest_snoc log (.insert j) k

theorem latest_delete (log : List (Change κ)) (j k : κ) :
    latest (log ++ [.delete j]) k = if j = k then some (.delete j) else latest log k :=
  latest_snoc log (.delete j) k

/-- **The consumer holds a key exactly when its latest change is an insertion.** -/
theorem mem_replay_iff (log : List (Change κ)) (k : κ) :
    k ∈ replay log ↔ latest log k = some (.insert k) := by
  induction log using List.reverseRecOn with
  | nil => simp [replay]
  | append_singleton log c ih =>
    rw [replay_snoc]
    cases c with
    | insert j =>
      rw [latest_insert]
      by_cases h : j = k
      · simp [apply, h]
      · simp [apply, h, Ne.symm h, ih]
    | delete j =>
      rw [latest_delete]
      by_cases h : j = k
      · simp [apply, h]
      · simp [apply, h, Ne.symm h, ih]

/-! ## Taking every change for an insertion -/

theorem latest_key {log : List (Change κ)} {k : κ} {c : Change κ} (h : latest log k = some c) :
    c.key = k := by
  have hmem := List.mem_of_getLast? h
  exact of_decide_eq_true (List.mem_filter.mp hmem).2

theorem mem_keys_iff (log : List (Change κ)) (k : κ) :
    k ∈ log.map Change.key ↔ ∃ c, latest log k = some c := by
  unfold latest
  rw [← Option.isSome_iff_exists, List.getLast?_isSome, Ne, List.filter_eq_nil_iff]
  simp

theorem keys_eq_replay_iff (log : List (Change κ)) :
    (∀ k, k ∈ log.map Change.key ↔ k ∈ replay log) ↔ ∀ k, latest log k ≠ some (.delete k) := by
  apply forall_congr'
  intro k
  rw [mem_keys_iff, mem_replay_iff]
  cases h : latest log k with
  | none => simp
  | some c =>
    have hkey := latest_key h
    cases c with
    | insert j =>
      obtain rfl : j = k := hkey
      simp
    | delete j =>
      obtain rfl : j = k := hkey
      simp

end MdnsSdDiscovery.Presence
