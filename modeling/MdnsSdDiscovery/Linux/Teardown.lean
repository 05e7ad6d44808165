import MdnsSdDiscovery.Lib.Runs
import MdnsSdDiscovery.Lib.Supervision
import MdnsSdDiscovery.Linux.Browse

/-!
# The tasks of one browse

`browse_start` spawns the root task and keeps its handle in the guard;
`browse_all_types` holds the handles of its children in `child_browsers`, and
`browse_one_type` those of its resolvers in `resolvers`.  The tasks interleave
in any order, the receiver and the guard may be dropped at any time, and a task
whose abort was asked for takes no step but to be dropped.

* `supervised_step`: no step leaves an active task without a holder;
* `browseStart_teardown`: once the guard is dropped and the aborts are carried
  out, nothing is live and nothing is sent.
-/

namespace MdnsSdDiscovery.Linux

open Runs Supervision

/-! ## The machine -/

/-- Where a browse task is: before its loop, in it, or in `free()` after it. -/
inductive Phase where
  | connecting
  | looping
  | freeing
  deriving DecidableEq, Repr

inductive Job where
  | browseAllTypes (interface : Int32) (domain : String) (seen : Finset (String × String))
      (phase : Phase)
  | browseOneType (interface : Int32) (serviceType domain : String) (phase : Phase)
  | resolveAndEmit (item : Item)
  deriving DecidableEq

structure Browse where
  forest : Forest Job
  receiver : Bool := true
  /-- What was handed to `tx.send`, received or not. -/
  sent : List Event := []
  deriving DecidableEq

/-- How the calls before the loop end. -/
inductive Setup where
  | connectAndSubscribe (err : ServiceBrowseError)
  | browserNew (err : String)
  | done
  deriving DecidableEq, Repr

/-- `browse_start`, given how its connection and its proxy turn out. -/
def browseStart (conn proxy : Except String Unit) (serviceType domain : Option String)
    (interfaceIndex : Option NonZeroU32) : Except ServiceBrowseError Browse :=
  match conn with
  | .error err => .error (.dnsSdUnavailable s!"failed to connect to system D-Bus: {err}")
  | .ok () =>
    match proxy with
    | .error err => .error (.dnsSdUnavailable s!"failed to connect to Avahi via D-Bus: {err}")
    | .ok () =>
      match interfaceToAvahi interfaceIndex with
      | .error err => .error err
      | .ok interface =>
        let domain := domain.getD ""
        match serviceType with
        | some serviceType =>
          .ok { forest := .root (.browseOneType interface serviceType domain .connecting) }
        | none => .ok { forest := .root (.browseAllTypes interface domain ∅ .connecting) }

namespace Browse

def send (s : Browse) (event : Event) : Browse := { s with sent := s.sent ++ [event] }

/-- Task `t` goes on as `job`. -/
def goOn (s : Browse) (t : Nat) (job : Job) : Browse := { s with forest := s.forest.setJob t job }

/-- `tokio::spawn` in task `t`, and the push of the handle. -/
def spawn (s : Browse) (t : Nat) (job : Job) : Browse := { s with forest := s.forest.spawn t job }

/-- `resolvers.retain(|r| !r.0.is_finished())` in task `t` -/
def prune (s : Browse) (t : Nat) : Browse := { s with forest := s.forest.prune t }

/-- Task `t` returns, or is dropped. -/
def exit (s : Browse) (t : Nat) : Browse := { s with forest := s.forest.exit t }

inductive Label where
  | setup (t : Nat) (result : Setup)
  | message (t : Nat) (m : StreamItem)
  | streamEnd (t : Nat)
  /-- `free()` returns. -/
  | freed (t : Nat)
  | resolved (t : Nat) (outcome : Outcome)
  | dropGuard
  | dropReceiver
  /-- A pending abort is carried out. -/
  | reap (t : Nat)
  deriving DecidableEq, Repr

/-- What an active task makes of a label. -/
def act (s : Browse) (t : Nat) : Job → Label → Option Browse
  | .browseAllTypes interface domain seen .connecting, .setup _ result =>
    match result with
    | .done => some (s.goOn t (.browseAllTypes interface domain seen .looping))
    | .connectAndSubscribe err => some ((s.send (.error err)).exit t)
    | .browserNew err =>
      some ((s.send (.error (.browseFailed s!"ServiceTypeBrowserNew failed: {err}"))).exit t)
  | .browseOneType interface serviceType domain .connecting, .setup _ result =>
    match result with
    | .done => some (s.goOn t (.browseOneType interface serviceType domain .looping))
    | .connectAndSubscribe err => some ((s.send (.error err)).exit t)
    | .browserNew err => some ((s.send (.error
        (.browseFailed s!"ServiceBrowserNew failed for {serviceType}: {err}"))).exit t)
  | .browseAllTypes interface domain seen .looping, .message _ m =>
    match browseAllTypesMessage seen m with
    | .skip => some s
    | .browse itemType itemDomain =>
      some ((s.goOn t (.browseAllTypes interface domain (insert (itemType, itemDomain) seen)
        .looping)).spawn t (.browseOneType interface itemType itemDomain .connecting))
    | .fail e => some (s.send (.error e))
  | .browseOneType interface serviceType domain .looping, .message _ m =>
    match browseOneTypeMessage serviceType m with
    | .skip => some s
    | .resolve i => some ((s.prune t).spawn t (.resolveAndEmit i))
    | .remove r =>
      if s.receiver then some (s.send (.ok (.removed r)))
      else some ((s.send (.ok (.removed r))).goOn t
        (.browseOneType interface serviceType domain .freeing))
    | .fail e => some (s.send (.error e))
  | .browseAllTypes interface domain seen .looping, .streamEnd _ =>
    some (s.goOn t (.browseAllTypes interface domain seen .freeing))
  | .browseOneType interface serviceType domain .looping, .streamEnd _ =>
    some (s.goOn t (.browseOneType interface serviceType domain .freeing))
  | .browseAllTypes _ _ _ .freeing, .freed _ => some (s.exit t)
  | .browseOneType _ _ _ .freeing, .freed _ => some (s.exit t)
  | .resolveAndEmit i, .resolved _ outcome =>
    some ((s.send (Linux.resolveAndEmit i outcome)).exit t)
  | _, _ => none

/-- `.reap t` is possible when the abort of `t` is pending. -/
def isPending (s : Browse) (t : Nat) : Bool :=
  (s.forest.tasks[t]?).any fun task => task.live && task.aborted

def step (s : Browse) (l : Label) : Option Browse :=
  match l with
  | .setup t _ | .message t _ | .streamEnd t | .freed t | .resolved t _ =>
    (s.forest.active? t).bind fun job => s.act t job l
  | .dropGuard => if s.forest.guard then some { s with forest := s.forest.dropGuard } else none
  | .dropReceiver => some { s with receiver := false }
  | .reap t => if s.isPending t then some (s.exit t) else none

/-! ## What a step can do -/

variable {s s' : Browse} {t : Nat} {job : Job} {l : Label}

/-- **What a task does to the tree**: nothing, go on, start a child or a
resolver, or end. -/
theorem act_cases (h : s.act t job l = some s') :
    s'.forest = s.forest ∨ (∃ next, s'.forest = s.forest.setJob t next) ∨
    (∃ next child, s'.forest = (s.forest.setJob t next).spawn t child) ∨
    (∃ child, s'.forest = (s.forest.prune t).spawn t child) ∨ s'.forest = s.forest.exit t := by
  unfold act at h
  split at h
  · split at h <;> cases h
    · exact .inr (.inl ⟨_, rfl⟩)
    · exact .inr (.inr (.inr (.inr rfl)))
    · exact .inr (.inr (.inr (.inr rfl)))
  · split at h <;> cases h
    · exact .inr (.inl ⟨_, rfl⟩)
    · exact .inr (.inr (.inr (.inr rfl)))
    · exact .inr (.inr (.inr (.inr rfl)))
  · split at h <;> cases h
    · exact .inl rfl
    · exact .inr (.inr (.inl ⟨_, _, rfl⟩))
    · exact .inl rfl
  · split at h
    · cases h
      exact .inl rfl
    · cases h
      exact .inr (.inr (.inr (.inl ⟨_, rfl⟩)))
    · split at h <;> cases h
      · exact .inl rfl
      · exact .inr (.inl ⟨_, rfl⟩)
    · cases h
      exact .inl rfl
  · cases h
    exact .inr (.inl ⟨_, rfl⟩)
  · cases h
    exact .inr (.inl ⟨_, rfl⟩)
  · cases h
    exact .inr (.inr (.inr (.inr rfl)))
  · cases h
    exact .inr (.inr (.inr (.inr rfl)))
  · cases h
    exact .inr (.inr (.inr (.inr rfl)))
  · cases h

/-- **Inversion of a step**: an active task acts, or something happens from
outside, which sends nothing. -/
theorem step_cases (h : step s l = some s') :
    (∃ t job, s.forest.active? t = some job ∧ s.act t job l = some s') ∨
    s'.sent = s.sent ∧
      (s'.forest = s.forest ∨ s'.forest = s.forest.dropGuard ∨
        ∃ t, s.forest.Live t ∧ s'.forest = s.forest.exit t) := by
  cases l with
  | setup t result =>
    obtain ⟨job, hjob, hact⟩ := Option.bind_eq_some_iff.mp h
    exact .inl ⟨t, job, hjob, hact⟩
  | message t m =>
    obtain ⟨job, hjob, hact⟩ := Option.bind_eq_some_iff.mp h
    exact .inl ⟨t, job, hjob, hact⟩
  | streamEnd t =>
    obtain ⟨job, hjob, hact⟩ := Option.bind_eq_some_iff.mp h
    exact .inl ⟨t, job, hjob, hact⟩
  | freed t =>
    obtain ⟨job, hjob, hact⟩ := Option.bind_eq_some_iff.mp h
    exact .inl ⟨t, job, hjob, hact⟩
  | resolved t outcome =>
    obtain ⟨job, hjob, hact⟩ := Option.bind_eq_some_iff.mp h
    exact .inl ⟨t, job, hjob, hact⟩
  | dropGuard =>
    by_cases hg : s.forest.guard = true
    · cases (if_pos hg).symm.trans h
      exact .inr ⟨rfl, .inr (.inl rfl)⟩
    · cases (if_neg hg).symm.trans h
  | dropReceiver =>
    cases h
    exact .inr ⟨rfl, .inl rfl⟩
  | reap t =>
    by_cases hp : s.isPending t = true
    · cases (if_pos hp).symm.trans h
      refine .inr ⟨rfl, .inr (.inr ⟨t, ?_, rfl⟩)⟩
      obtain ⟨task, ht, hc⟩ := (Option.any_eq_true _ _).mp hp
      exact ⟨task, ht, (Bool.and_eq_true_iff.mp hc).1⟩
    · cases (if_neg hp).symm.trans h

/-! ## The ownership of the tasks -/

/-- **No step leaves an active task without a holder.** -/
theorem supervised_step (hs : s.forest.Supervised) (h : step s l = some s') :
    s'.forest.Supervised := by
  rcases step_cases h with ⟨t, job, hjob, hact⟩ | ⟨-, he | he | ⟨t, -, he⟩⟩
  · have ht := Forest.active_of_active? hjob
    rcases act_cases hact with he | ⟨next, he⟩ | ⟨next, child, he⟩ | ⟨child, he⟩ | he <;> rw [he]
    · exact hs
    · exact hs.setJob t next
    · refine (hs.setJob t next).spawn (Forest.live_of_active ?_) child
      exact (Forest.active_setJob next).mpr ht
    · exact (hs.prune t).spawn (Forest.live_of_active (Forest.active_prune.mpr ht)) child
    · exact hs.exit t
  · rw [he]
    exact hs
  · rw [he]
    exact hs.dropGuard
  · rw [he]
    exact hs.exit t

/-- Where nothing is live, nothing comes to life and nothing is sent. -/
theorem not_live_step (hs : ∀ t, ¬ s.forest.Live t) (h : step s l = some s') :
    (∀ t, ¬ s'.forest.Live t) ∧ s'.sent = s.sent := by
  rcases step_cases h with ⟨t, job, hjob, -⟩ | ⟨hsent, he | he | ⟨t, ht, -⟩⟩
  · exact absurd (Forest.live_of_active (Forest.active_of_active? hjob)) (hs t)
  · rw [he]
    exact ⟨hs, hsent⟩
  · rw [he]
    exact ⟨fun t ht => hs t (Forest.live_abortAll.mp ht), hsent⟩
  · exact absurd ht (hs t)

/-- Every browse starts as a guarded root. -/
theorem supervised_browseStart {conn proxy : Except String Unit}
    {serviceType domain : Option String} {interfaceIndex : Option NonZeroU32}
    (h : browseStart conn proxy serviceType domain interfaceIndex = .ok s) :
    s.forest.Supervised := by
  unfold browseStart at h
  split at h
  · cases h
  · split at h
    · cases h
    · split at h
      · cases h
      · cases serviceType <;> cases h
        · exact Forest.supervised_root _
        · exact Forest.supervised_root _

end Browse

open Browse

/-- **Teardown leaves nothing running.** -/
theorem browseStart_teardown (conn proxy : Except String Unit)
    (serviceType domain : Option String) (interfaceIndex : Option NonZeroU32)
    {start s : Browse}
    (hstart : browseStart conn proxy serviceType domain interfaceIndex = .ok start)
    (labels : List Label) (h : run step start labels = some s) :
    s.forest.Supervised ∧
    (s.forest.guard = false → s.forest.Quiescent →
      (∀ t, ¬ s.forest.Live t) ∧
      ∀ more s', run step s more = some s' → s'.sent = s.sent) := by
  have hsup : s.forest.Supervised :=
    run_invariant (I := fun s => s.forest.Supervised) (fun _ _ _ => supervised_step)
      (supervised_browseStart hstart) h
  refine ⟨hsup, fun hguard hq => ?_⟩
  have hlive := hsup.not_live hguard hq
  refine ⟨hlive, fun more s' hmore => ?_⟩
  refine (run_invariant (I := fun u => (∀ t, ¬ u.forest.Live t) ∧ u.sent = s.sent) ?_
    ⟨hlive, rfl⟩ hmore).2
  rintro u l u' ⟨hu, hsent⟩ hstep
  obtain ⟨hu', hsent'⟩ := not_live_step hu hstep
  exact ⟨hu', hsent'.trans hsent⟩

/-- A browse of all types, dropped while a resolver is in flight. -/
def droppedBrowse : List Label :=
  [.setup 0 .done, .message 0 (.ok ⟨some "ItemNew", .typeItem ⟨2, 0, "_ipp._tcp", "local", 0⟩⟩),
    .setup 1 .done,
    .message 1 (.ok ⟨some "ItemNew", .item ⟨2, 0, "Printer", "_ipp._tcp", "local", 0⟩⟩),
    .dropGuard, .reap 0, .reap 1, .reap 2]

theorem browseStart_teardown_example :
    ∃ start s, browseStart (.ok ()) (.ok ()) none none none = .ok start ∧
      run step start droppedBrowse = some s ∧ s.forest.tasks.length = 3 ∧
      s.forest.Supervised ∧ ∀ t, ¬ s.forest.Live t := by
  have hteardown := browseStart_teardown (.ok ()) (.ok ()) none none none rfl droppedBrowse rfl
  refine ⟨_, _, rfl, rfl, by decide, hteardown.1, (hteardown.2 (by decide) ?_).1⟩
  exact Forest.quiescent_of_forall_mem (by decide)

end MdnsSdDiscovery.Linux
