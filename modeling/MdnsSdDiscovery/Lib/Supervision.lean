import Mathlib.Data.List.Basic

/-!
# Trees of tasks with abort-on-drop handles

A task is started by another one, which holds its abort handle; a guard holds
the handle of task `0`.  Dropping a handle asks for the abort of its task, and
a task that ends, or is dropped because it was aborted, drops the handles it
holds.  A task that has ended cannot be aborted any more.

* `Supervised`: every active task is the root with its guard alive, or its
  handle is held by a live task that was started earlier;
* the operations keep it (`Supervised.spawn`, `.prune`, `.exit`, `.dropGuard`);
* `Supervised.not_live`: without the guard, and with every abort carried out,
  no task is live, and neither is one after the root has ended
  (`Supervised.not_live_of_root`);
* `jobs_spawn`, `live_spawn`, `live_exit`: which jobs there are, and which tasks
  live;
* `pending_of_exit`, `pending_of_dropGuard`: who makes an abort pending.
-/

namespace MdnsSdDiscovery.Supervision

structure Task (κ : Type*) where
  job : κ
  live : Bool := true
  /-- An abort was asked for while the task was live. -/
  aborted : Bool := false
  /-- The tasks whose abort handles this task holds. -/
  handles : List Nat := []
  deriving DecidableEq, Repr

structure Forest (κ : Type*) where
  guard : Bool
  tasks : List (Task κ)
  deriving DecidableEq, Repr

variable {κ : Type*}

/-- Aborting a task that has ended does nothing. -/
def Task.abort (t : Task κ) : Task κ := if t.live then { t with aborted := true } else t

def Task.hold (task : Task κ) (t : Nat) : Task κ := { task with handles := task.handles ++ [t] }

def Task.retain (task : Task κ) (p : Nat → Bool) : Task κ :=
  { task with handles := task.handles.filter p }

namespace Forest

/-- A guarded root task. -/
def root (job : κ) : Forest κ := ⟨true, [{ job }]⟩

def update (F : Forest κ) (p : Nat) (f : Task κ → Task κ) : Forest κ :=
  { F with tasks := F.tasks.modify p f }

/-- Drop the handles of `ids`. -/
def abortAll (F : Forest κ) (ids : List Nat) : Forest κ :=
  { F with tasks := F.tasks.mapIdx fun t task => if t ∈ ids then task.abort else task }

def isFinished (F : Forest κ) (t : Nat) : Bool := (F.tasks[t]?).all fun task => !task.live

def handlesOf (F : Forest κ) (p : Nat) : List Nat := (F.tasks[p]?).elim [] Task.handles

/-- Task `p` starts a task and holds its handle. -/
def spawn (F : Forest κ) (p : Nat) (job : κ) : Forest κ :=
  let F' := F.update p fun task => task.hold F.tasks.length
  { F' with tasks := F'.tasks ++ [{ job }] }

/-- Task `p` drops the handles of finished tasks. -/
def prune (F : Forest κ) (p : Nat) : Forest κ :=
  (F.update p fun task => task.retain fun t => !F.isFinished t).abortAll
    ((F.handlesOf p).filter F.isFinished)

/-- Task `p` ends, or is dropped, with the handles it holds. -/
def exit (F : Forest κ) (p : Nat) : Forest κ :=
  (F.update p fun task => { task with live := false, handles := [] }).abortAll (F.handlesOf p)

/-- The guard is dropped. -/
def dropGuard (F : Forest κ) : Forest κ := { F with guard := false }.abortAll [0]

/-- Task `p` goes on as another job. -/
def setJob (F : Forest κ) (p : Nat) (job : κ) : Forest κ :=
  F.update p fun task => { task with job }

/-! ## Active tasks and held handles -/

def Live (F : Forest κ) (t : Nat) : Prop := ∃ task, F.tasks[t]? = some task ∧ task.live = true

/-- Live, and not aborted yet. -/
def Active (F : Forest κ) (t : Nat) : Prop :=
  ∃ task, F.tasks[t]? = some task ∧ task.live = true ∧ task.aborted = false

/-- The job of an active task. -/
def active? (F : Forest κ) (t : Nat) : Option κ :=
  (F.tasks[t]?).bind fun task => if task.live ∧ task.aborted = false then some task.job else none

/-- The live task `p` holds the handle of `t`. -/
def Holds (F : Forest κ) (p t : Nat) : Prop :=
  ∃ task, F.tasks[p]? = some task ∧ task.live = true ∧ t ∈ task.handles

/-- Every active task is the guarded root or held by an earlier live task. -/
def Supervised (F : Forest κ) : Prop :=
  ∀ t, F.Active t → t = 0 ∧ F.guard = true ∨ ∃ p < t, F.Holds p t

/-- Every abort that was asked for has been carried out. -/
def Quiescent (F : Forest κ) : Prop := ∀ t, F.Live t → F.Active t

theorem quiescent_of_forall_mem {F : Forest κ}
    (h : ∀ task ∈ F.tasks, task.live = true → task.aborted = false) : F.Quiescent := by
  rintro t ⟨task, ht, hl⟩
  exact ⟨task, ht, hl, h task (List.mem_of_getElem? ht) hl⟩

variable {F : Forest κ} {p q t : Nat} {f : Task κ → Task κ} {ids : List Nat}

theorem getElem?_update (F : Forest κ) (p : Nat) (f : Task κ → Task κ) (t : Nat) :
    (F.update p f).tasks[t]? = (F.tasks[t]?).map fun task => if p = t then f task else task := by
  rw [update, List.getElem?_modify]
  by_cases h : p = t
  · simp [h]
  · simp [h]

theorem getElem?_abortAll (F : Forest κ) (ids : List Nat) (t : Nat) :
    (F.abortAll ids).tasks[t]? =
      (F.tasks[t]?).map fun task => if t ∈ ids then task.abort else task := by
  rw [abortAll, List.getElem?_mapIdx]

/-- An update that keeps what is live and aborted keeps the active tasks. -/
theorem active_update (hl : ∀ task, (f task).live = task.live)
    (ha : ∀ task, (f task).aborted = task.aborted) : (F.update p f).Active t ↔ F.Active t := by
  unfold Active
  rw [getElem?_update]
  cases F.tasks[t]? with
  | none => simp
  | some task =>
    by_cases h : p = t
    · simp [h, hl, ha]
    · simp [h]

theorem holds_update_of_ne (h : q ≠ p) : (F.update p f).Holds q t ↔ F.Holds q t := by
  unfold Holds
  rw [getElem?_update]
  cases F.tasks[q]? with
  | none => simp
  | some task => simp [Ne.symm h]

theorem holds_abortAll : (F.abortAll ids).Holds q t ↔ F.Holds q t := by
  unfold Holds
  rw [getElem?_abortAll]
  cases F.tasks[q]? with
  | none => simp
  | some task =>
    by_cases h : q ∈ ids
    · by_cases hl : task.live = true
      · simp [h, Task.abort, hl]
      · simp [h, Task.abort, hl]
    · simp [h]

theorem live_abortAll : (F.abortAll ids).Live t ↔ F.Live t := by
  unfold Live
  rw [getElem?_abortAll]
  cases F.tasks[t]? with
  | none => simp
  | some task =>
    by_cases h : t ∈ ids
    · by_cases hl : task.live = true
      · simp [h, Task.abort, hl]
      · simp [h, Task.abort, hl]
    · simp [h]

/-- Dropping handles leaves active the tasks that were not among them. -/
theorem active_abortAll : (F.abortAll ids).Active t ↔ F.Active t ∧ t ∉ ids := by
  unfold Active
  rw [getElem?_abortAll]
  cases F.tasks[t]? with
  | none => simp
  | some task =>
    by_cases h : t ∈ ids
    · by_cases hl : task.live = true
      · simp [h, Task.abort, hl]
      · simp [h, Task.abort, hl]
    · simp [h]

theorem active_of_active? {job : κ} (h : F.active? t = some job) : F.Active t := by
  obtain ⟨task, ht, hjob⟩ := Option.bind_eq_some_iff.mp h
  by_cases hc : task.live ∧ task.aborted = false
  · exact ⟨task, ht, hc.1, hc.2⟩
  · rw [if_neg hc] at hjob
    cases hjob

theorem isFinished_of_active (h : F.Active t) : F.isFinished t = false := by
  obtain ⟨task, ht, hl, -⟩ := h
  simp [isFinished, ht, hl]

theorem holds_iff_of_live (h : F.Live p) : F.Holds p t ↔ t ∈ F.handlesOf p := by
  obtain ⟨task, ht, hl⟩ := h
  simp [Holds, handlesOf, ht, hl]

theorem live_of_holds (h : F.Holds p t) : F.Live p := by
  obtain ⟨task, ht, hl, -⟩ := h
  exact ⟨task, ht, hl⟩

theorem live_of_active (h : F.Active p) : F.Live p := by
  obtain ⟨task, ht, hl, -⟩ := h
  exact ⟨task, ht, hl⟩

theorem holds_update_self :
    (F.update p f).Holds p t ↔ ∃ task, F.tasks[p]? = some task ∧ (f task).live = true ∧
      t ∈ (f task).handles := by
  unfold Holds
  rw [getElem?_update]
  cases F.tasks[p]? with
  | none => simp
  | some task => simp

/-! ## The operations -/

theorem supervised_root (job : κ) : (root job).Supervised := by
  rintro t ⟨task, ht, -⟩
  cases t with
  | zero => exact .inl ⟨rfl, rfl⟩
  | succ t => cases ht

/-- **What an operation has to keep**: no task becomes active, and the tasks
that stay active keep their guard and their handles. -/
theorem Supervised.keep {F' : Forest κ} (h : F.Supervised)
    (hactive : ∀ t, F'.Active t → F.Active t)
    (hguard : F'.Active 0 → F.guard = true → F'.guard = true)
    (hholds : ∀ p t, F'.Active t → F.Holds p t → F'.Holds p t) : F'.Supervised := by
  intro t ht
  rcases h t (hactive t ht) with ⟨rfl, hg⟩ | ⟨p, hp, hpt⟩
  · exact .inl ⟨rfl, hguard ht hg⟩
  · exact .inr ⟨p, hp, hholds p t ht hpt⟩

theorem active_setJob (job : κ) : (F.setJob p job).Active t ↔ F.Active t :=
  active_update (fun _ => rfl) (fun _ => rfl)

theorem holds_setJob (job : κ) : (F.setJob p job).Holds q t ↔ F.Holds q t := by
  by_cases h : q = p
  · subst h
    exact holds_update_self
  · exact holds_update_of_ne h

theorem Supervised.setJob (h : F.Supervised) (p : Nat) (job : κ) : (F.setJob p job).Supervised :=
  h.keep (fun _ => (active_setJob job).mp) (fun _ hg => hg) (fun _ _ _ => (holds_setJob job).mpr)

/-- Pruning drops handles of finished tasks only, so it aborts nothing. -/
theorem active_prune : (F.prune p).Active t ↔ F.Active t := by
  have hupdate : (F.update p fun task => task.retain fun t => !F.isFinished t).Active t ↔
      F.Active t := active_update (fun _ => rfl) (fun _ => rfl)
  constructor
  · intro ht
    exact hupdate.mp (active_abortAll.mp ht).1
  · intro ht
    refine active_abortAll.mpr ⟨hupdate.mpr ht, ?_⟩
    intro hmem
    exact absurd (List.mem_filter.mp hmem).2 (by simp [isFinished_of_active ht])

theorem Supervised.prune (h : F.Supervised) (p : Nat) : (F.prune p).Supervised := by
  refine h.keep (fun _ => active_prune.mp) (fun _ hg => hg) ?_
  intro q t ht hqt
  refine holds_abortAll.mpr ?_
  by_cases hq : q = p
  · subst hq
    obtain ⟨task, htask, hl, hmem⟩ := hqt
    have hlive := isFinished_of_active (active_prune.mp ht)
    exact holds_update_self.mpr ⟨task, htask, hl, List.mem_filter.mpr ⟨hmem, by simp [hlive]⟩⟩
  · exact (holds_update_of_ne hq).mpr hqt

theorem active_of_exit (h : (F.exit p).Active t) : F.Active t ∧ t ≠ p ∧ t ∉ F.handlesOf p := by
  obtain ⟨⟨task, ht, hl, ha⟩, hnot⟩ := active_abortAll.mp h
  rw [getElem?_update] at ht
  obtain ⟨old, hold, rfl⟩ := Option.map_eq_some_iff.mp ht
  by_cases hp : p = t
  · rw [if_pos hp] at hl
    cases hl
  · rw [if_neg hp] at hl ha
    exact ⟨⟨old, hold, hl, ha⟩, Ne.symm hp, hnot⟩

/-- A task that ends aborts whatever it holds. -/
theorem Supervised.exit (h : F.Supervised) (p : Nat) : (F.exit p).Supervised := by
  refine h.keep (fun t ht => (active_of_exit ht).1) (fun _ hg => hg) ?_
  intro q t ht hqt
  obtain ⟨-, -, hnot⟩ := active_of_exit ht
  refine holds_abortAll.mpr ((holds_update_of_ne ?_).mpr hqt)
  rintro rfl
  exact hnot ((holds_iff_of_live (live_of_holds hqt)).mp hqt)

/-- Without the guard the root is aborted. -/
theorem Supervised.dropGuard (h : F.Supervised) : F.dropGuard.Supervised := by
  refine h.keep (fun t ht => (active_abortAll.mp ht).1) ?_ (fun _ _ _ => holds_abortAll.mpr)
  intro h0
  exact absurd (List.mem_singleton_self 0) (active_abortAll.mp h0).2

theorem getElem?_spawn_of_lt (h : t < F.tasks.length) (job : κ) :
    (F.spawn p job).tasks[t]? = (F.update p fun task => task.hold F.tasks.length).tasks[t]? := by
  rw [spawn]
  exact List.getElem?_append_left (by simpa [update] using h)

/-- A started task is held by the task that started it. -/
theorem Supervised.spawn (h : F.Supervised) (hp : F.Live p) (job : κ) :
    (F.spawn p job).Supervised := by
  have hlen : ∀ {q}, F.Live q → q < F.tasks.length := by
    rintro q ⟨task, hq, -⟩
    exact (List.getElem?_eq_some_iff.mp hq).1
  have hholds : ∀ q t, F.Holds q t → (F.spawn p job).Holds q t := by
    rintro q t ⟨task, hq, hl, hmem⟩
    refine ⟨if p = q then task.hold F.tasks.length else task, ?_, ?_, ?_⟩
    · rw [getElem?_spawn_of_lt (hlen ⟨task, hq, hl⟩), getElem?_update, hq]
      rfl
    · by_cases hpq : p = q <;> simp [hpq, hl, Task.hold]
    · by_cases hpq : p = q <;> simp [hpq, hmem, Task.hold]
  intro t ht
  by_cases hlt : t < F.tasks.length
  · have hold : F.Active t := by
      obtain ⟨task, htask, hl, ha⟩ := ht
      rw [getElem?_spawn_of_lt hlt] at htask
      exact (active_update (f := fun task => task.hold F.tasks.length)
        (fun _ => rfl) (fun _ => rfl)).mp ⟨task, htask, hl, ha⟩
    rcases h t hold with hroot | ⟨q, hq, hqt⟩
    · exact .inl hroot
    · exact .inr ⟨q, hq, hholds q t hqt⟩
  · obtain ⟨task, htask, -⟩ := ht
    have hle := (List.getElem?_eq_some_iff.mp htask).1
    have hnew : t = F.tasks.length := by
      simp [Forest.spawn, update] at hle
      omega
    obtain ⟨old, hp, hl⟩ := hp
    refine .inr ⟨p, hnew ▸ hlen ⟨old, hp, hl⟩, old.hold t, ?_, hl, ?_⟩
    · rw [getElem?_spawn_of_lt (hlen ⟨old, hp, hl⟩), getElem?_update, hp, hnew]
      simp
    · simp [Task.hold]

/-- Once every abort is carried out, nothing is live without an active root that
is guarded. -/
theorem Supervised.not_live_of (h : F.Supervised) (hroot : F.Active 0 → F.guard = false)
    (hq : F.Quiescent) : ∀ t, ¬ F.Live t := by
  intro t
  induction t using Nat.strongRecOn with
  | ind t ih =>
    intro ht
    rcases h t (hq t ht) with ⟨rfl, hg⟩ | ⟨p, hp, hpt⟩
    · rw [hroot (hq 0 ht)] at hg
      cases hg
    · exact ih p hp (live_of_holds hpt)

/-- **Without the guard nothing is live once every abort is carried out.** -/
theorem Supervised.not_live (h : F.Supervised) (hguard : F.guard = false) (hq : F.Quiescent) :
    ∀ t, ¬ F.Live t :=
  h.not_live_of (fun _ => hguard) hq

/-- **Nor is anything live once the root has ended.** -/
theorem Supervised.not_live_of_root (h : F.Supervised) (hroot : ¬ F.Live 0) (hq : F.Quiescent) :
    ∀ t, ¬ F.Live t :=
  h.not_live_of (fun h0 => absurd (live_of_active h0) hroot) hq

/-! ## Jobs and lives -/

/-- The jobs of all tasks, ended or not. -/
def jobs (F : Forest κ) : List κ := F.tasks.map Task.job

theorem jobs_update (h : ∀ task, (f task).job = task.job) : (F.update p f).jobs = F.jobs := by
  refine List.ext_getElem? fun t => ?_
  rw [jobs, jobs, List.getElem?_map, List.getElem?_map, getElem?_update, Option.map_map]
  congr 1
  funext task
  by_cases ht : p = t
  · simp [ht, h]
  · simp [ht]

theorem jobs_abortAll : (F.abortAll ids).jobs = F.jobs := by
  refine List.ext_getElem? fun t => ?_
  rw [jobs, jobs, List.getElem?_map, List.getElem?_map, getElem?_abortAll, Option.map_map]
  congr 1
  funext task
  by_cases ht : t ∈ ids
  · cases hl : task.live <;> simp [ht, Task.abort, hl]
  · simp [ht]

theorem jobs_setJob (job : κ) : (F.setJob p job).jobs = F.jobs.set p job := by
  refine List.ext_getElem? fun t => ?_
  rw [jobs, jobs, List.getElem?_map, setJob, getElem?_update, List.getElem?_set',
    List.getElem?_map, Option.map_map]
  by_cases ht : p = t
  · subst ht
    cases F.tasks[p]? <;> simp
  · simp [ht, Function.comp_def]

@[simp] theorem jobs_spawn (job : κ) : (F.spawn p job).jobs = F.jobs ++ [job] := by
  have hhold : (F.update p fun task => task.hold F.tasks.length).jobs = F.jobs :=
    jobs_update fun _ => rfl
  rw [← hhold, spawn, jobs, jobs, List.map_append]
  rfl

@[simp] theorem jobs_prune : (F.prune p).jobs = F.jobs :=
  jobs_abortAll.trans (jobs_update fun _ => rfl)

@[simp] theorem jobs_exit : (F.exit p).jobs = F.jobs :=
  jobs_abortAll.trans (jobs_update fun _ => rfl)

@[simp] theorem jobs_dropGuard : F.dropGuard.jobs = F.jobs := jobs_abortAll

theorem jobs_of_active? {job : κ} (h : F.active? t = some job) : F.jobs[t]? = some job := by
  obtain ⟨task, ht, hjob⟩ := Option.bind_eq_some_iff.mp h
  split at hjob
  · rw [jobs, List.getElem?_map, ht]
    exact hjob
  · cases hjob

theorem lt_of_live (h : F.Live t) : t < F.tasks.length := by
  obtain ⟨task, ht, -⟩ := h
  exact (List.getElem?_eq_some_iff.mp ht).1

theorem live_update (hl : ∀ task, (f task).live = task.live) :
    (F.update p f).Live t ↔ F.Live t := by
  unfold Live
  rw [getElem?_update]
  cases F.tasks[t]? with
  | none => simp
  | some task =>
    by_cases h : p = t
    · simp [h, hl]
    · simp [h]

@[simp] theorem live_setJob (job : κ) : (F.setJob p job).Live t ↔ F.Live t :=
  live_update fun _ => rfl

@[simp] theorem live_prune : (F.prune p).Live t ↔ F.Live t :=
  live_abortAll.trans (live_update fun _ => rfl)

@[simp] theorem live_dropGuard : F.dropGuard.Live t ↔ F.Live t := live_abortAll

theorem live_exit : (F.exit p).Live t ↔ F.Live t ∧ t ≠ p := by
  refine live_abortAll.trans ?_
  unfold Live
  rw [getElem?_update]
  cases F.tasks[t]? with
  | none => simp
  | some task =>
    by_cases h : p = t
    · simp [h]
    · simp [h, Ne.symm h]

theorem live_spawn (job : κ) : (F.spawn p job).Live t ↔ F.Live t ∨ t = F.tasks.length := by
  have hupdate : (F.update p fun task => task.hold F.tasks.length).Live t ↔ F.Live t :=
    live_update fun _ => rfl
  have hlength :
      (F.update p fun task => task.hold F.tasks.length).tasks.length = F.tasks.length := by
    simp [update]
  rcases Nat.lt_trichotomy t F.tasks.length with hlt | rfl | hgt
  · rw [Live, getElem?_spawn_of_lt hlt]
    exact hupdate.trans (or_iff_left (Nat.ne_of_lt hlt)).symm
  · refine iff_of_true ⟨{ job }, ?_, rfl⟩ (.inr rfl)
    rw [spawn, List.getElem?_append_right (Nat.le_of_eq hlength), hlength, Nat.sub_self]
    rfl
  · refine iff_of_false ?_ ?_
    · intro h
      have hlt := lt_of_live h
      rw [spawn, List.length_append, hlength, List.length_singleton] at hlt
      omega
    · rintro (h | rfl)
      · exact absurd (lt_of_live h) (by omega)
      · omega

/-! ## Pending aborts -/

/-- Live, and aborted. -/
def Pending (F : Forest κ) (t : Nat) : Prop := F.Live t ∧ ¬ F.Active t

theorem not_pending_root (job : κ) : ¬ (root job).Pending t := by
  rintro ⟨⟨task, ht, -⟩, hnot⟩
  cases t with
  | zero =>
    cases ht
    exact hnot ⟨_, rfl, rfl, rfl⟩
  | succ t => cases ht

theorem pending_setJob (job : κ) : (F.setJob p job).Pending t ↔ F.Pending t :=
  and_congr (live_setJob job) (not_congr (active_setJob job))

theorem pending_prune : (F.prune p).Pending t ↔ F.Pending t :=
  and_congr live_prune (not_congr active_prune)

theorem pending_of_dropGuard (h : F.dropGuard.Pending t) : F.Pending t ∨ t = 0 := by
  obtain ⟨hlive, hnot⟩ := h
  by_cases ht : t = 0
  · exact .inr ht
  · refine .inl ⟨live_dropGuard.mp hlive, fun hactive => hnot ?_⟩
    exact active_abortAll.mpr ⟨hactive, by simpa using ht⟩

/-- A started task is active. -/
theorem pending_of_spawn {job : κ} (h : (F.spawn p job).Pending t) : F.Pending t := by
  obtain ⟨hlive, hnot⟩ := h
  have hupdate : (F.update p fun task => task.hold F.tasks.length).Active t ↔ F.Active t :=
    active_update (fun _ => rfl) (fun _ => rfl)
  rcases (live_spawn job).mp hlive with hold | rfl
  · refine ⟨hold, fun hactive => hnot ?_⟩
    obtain ⟨task, ht, hl, ha⟩ := hupdate.mpr hactive
    exact ⟨task, (getElem?_spawn_of_lt (lt_of_live hold) job).trans ht, hl, ha⟩
  · refine absurd ⟨{ job }, ?_, rfl, rfl⟩ hnot
    have hlength :
        (F.update p fun task => task.hold F.tasks.length).tasks.length = F.tasks.length := by
      simp [update]
    rw [spawn, List.getElem?_append_right (Nat.le_of_eq hlength), hlength, Nat.sub_self]
    rfl

/-- **The end of a task aborts what it holds**, and nothing else. -/
theorem pending_of_exit (hp : F.Live p) (h : (F.exit p).Pending t) : F.Pending t ∨ F.Holds p t := by
  obtain ⟨hlive, hnot⟩ := h
  obtain ⟨hold, hne⟩ := live_exit.mp hlive
  by_cases hmem : t ∈ F.handlesOf p
  · exact .inr ((holds_iff_of_live hp).mpr hmem)
  · refine .inl ⟨hold, fun ⟨task, ht, hl, ha⟩ => hnot ?_⟩
    refine active_abortAll.mpr ⟨⟨task, ?_, hl, ha⟩, hmem⟩
    rw [getElem?_update, ht, Option.map_some, if_neg (Ne.symm hne)]

end Forest

end MdnsSdDiscovery.Supervision
