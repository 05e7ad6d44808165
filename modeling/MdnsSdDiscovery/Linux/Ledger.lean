import MdnsSdDiscovery.Lib.Slots
import MdnsSdDiscovery.Linux.Cascade
import MdnsSdDiscovery.Linux.Teardown

/-!
# The books of a whole browse

A browse is a tree of tasks whose steps interleave in any order.  Its books are
kept from the labels of a run alone: which tasks there are, what each of them
takes, sends and starts, and how it ends.

* `step_booked`: what a step adds to the books;
* `browse_ledger`: what holds of the books after every run;
* `browse_reap`: why a task is dropped before its end.
-/

namespace MdnsSdDiscovery.Linux

open Runs Supervision
open AllTypes (childrenOf announcedPairs announcedPairs_snoc eraseDups_snoc)

/-! ## Kinds of tasks -/

/-- What a task does for as long as it lives. -/
inductive Kind where
  | browseAllTypes (interface : Int32) (domain : String)
  | browseOneType (child : Child)
  | resolveAndEmit (item : Item)
  deriving DecidableEq, Repr

def Job.kind : Job → Kind
  | .browseAllTypes interface domain _ _ => .browseAllTypes interface domain
  | .browseOneType interface serviceType domain _ =>
    .browseOneType ⟨interface, serviceType, domain⟩
  | .resolveAndEmit item => .resolveAndEmit item

/-- The pairs that a browse for all types remembers. -/
def Job.seen? : Job → Option (Finset (String × String))
  | .browseAllTypes _ _ seen _ => some seen
  | _ => none

def Kind.child? : Kind → Option Child
  | .browseOneType child => some child
  | _ => none

def Kind.item? : Kind → Option Item
  | .resolveAndEmit item => some item
  | _ => none

namespace Browse

/-- The kinds of all tasks, in the order in which they were spawned. -/
def kinds (s : Browse) : List Kind := s.forest.jobs.map Job.kind

/-- What task `t` remembers. -/
def seenBy (s : Browse) (t : Nat) : Option (Finset (String × String)) :=
  s.forest.jobs[t]?.bind Job.seen?

/-! ## What a label says about a task -/

/-- The task that a label is about. -/
def Label.task? : Label → Option Nat
  | .setup t _ | .message t _ | .streamEnd t | .freed t | .resolved t _ | .reap t => some t
  | .dropGuard | .dropReceiver => none

/-- The task returns, or is dropped. -/
def Label.ends : Label → Bool
  | .setup _ result => result ≠ .done
  | .freed _ | .resolved _ _ | .reap _ => true
  | _ => false

/-- What a task of the kind sends. -/
def Label.events : Label → Kind → List Event
  | .setup _ (.connectAndSubscribe err), _ => [.error err]
  | .setup _ (.browserNew err), .browseAllTypes _ _ =>
    [.error (.browseFailed s!"ServiceTypeBrowserNew failed: {err}")]
  | .setup _ (.browserNew err), .browseOneType child =>
    [.error (.browseFailed s!"ServiceBrowserNew failed for {child.serviceType}: {err}")]
  | .message _ m, .browseAllTypes _ _ =>
    ((failure? m).map fun err => .error (typeFailureError err)).toList
  | .message _ m, .browseOneType child =>
    ((removedItem? m).map fun i => .ok (.removed i.toRemoved)).toList ++
      ((failure? m).map fun err => .error (failureError child.serviceType err)).toList
  | .resolved _ outcome, .resolveAndEmit item => [Linux.resolveAndEmit item outcome]
  | _, _ => []

/-- The pair that a message announces to a browse for all types. -/
def Label.announced : Label → List (String × String)
  | .message _ m => ((newType? m).map TypeItem.pair).toList
  | _ => []

/-- What a task with the job starts. -/
def Label.spawns : Label → Job → List Kind
  | .message _ m, .browseAllTypes interface _ seen _ =>
    ((newType? m).filter (·.pair ∉ seen)).toList.map fun i =>
      .browseOneType ⟨interface, i.serviceType, i.domain⟩
  | .message _ m, .browseOneType .. => (newItem? m).toList.map .resolveAndEmit
  | _, _ => []

/-- What is sent at a label, given the kinds of the tasks. -/
def eventsAt (kinds : List Kind) (l : Label) : List Event :=
  ((l.task?.bind (kinds[·]?)).map l.events).getD []

/-- What is spawned at a label. -/
def spawnsAt (s : Browse) (l : Label) : List Kind :=
  ((l.task?.bind s.forest.active?).map l.spawns).getD []

/-! ## What a step adds to the books -/

/-- The entries of a step. -/
structure Booked (s : Browse) (l : Label) (s' : Browse) : Prop where
  task : ∀ t, l.task? = some t → s.forest.Live t
  sent : s'.sent = s.sent ++ eventsAt s.kinds l
  kinds : s'.kinds = s.kinds ++ s.spawnsAt l
  live : ∀ u, s'.forest.Live u ↔ s.forest.Live u ∧ ¬ (l.task? = some u ∧ l.ends = true) ∨
    s.kinds.length ≤ u ∧ u < s'.kinds.length
  seen : ∀ u seen', s'.seenBy u = some seen' → ∃ seen, s.seenBy u = some seen ∧
    ∀ p, p ∈ seen' ↔ p ∈ seen ∨ l.task? = some u ∧ p ∈ l.announced

section
variable {s s' : Browse} {t : Nat} {job : Job} {l : Label}

theorem length_kinds (s : Browse) : s.kinds.length = s.forest.tasks.length := by
  rw [kinds, Forest.jobs, List.length_map, List.length_map]

theorem kinds_of_active? (h : s.forest.active? t = some job) : s.kinds[t]? = some job.kind := by
  rw [kinds, List.getElem?_map, Forest.jobs_of_active? h]
  rfl

theorem live_of_active? (h : s.forest.active? t = some job) : s.forest.Live t :=
  Forest.live_of_active (Forest.active_of_active? h)

theorem eventsAt_of_active? (h : s.forest.active? t = some job) (hl : l.task? = some t) :
    eventsAt s.kinds l = l.events job.kind := by
  rw [eventsAt, hl, Option.bind_some, kinds_of_active? h]
  rfl

theorem spawnsAt_of_active? (h : s.forest.active? t = some job) (hl : l.task? = some t) :
    s.spawnsAt l = l.spawns job := by
  rw [spawnsAt, hl, Option.bind_some, h]
  rfl

theorem spawnsAt_eq_nil (s : Browse) (h : ∀ job, l.spawns job = []) : s.spawnsAt l = [] := by
  rw [spawnsAt]
  cases l.task?.bind s.forest.active? with
  | none => rfl
  | some job => exact h job

/-- **What a task has to show**: it goes on as `next`, which may remember more, and
the tasks `new` are started. -/
theorem booked_of (next : Job) (new : List Job) (hjob : s.forest.active? t = some job)
    (hl : l.task? = some t) (hsent : s'.sent = s.sent ++ l.events job.kind)
    (hkind : next.kind = job.kind) (hjobs : s'.forest.jobs = s.forest.jobs.set t next ++ new)
    (hspawns : l.spawns job = new.map Job.kind) (hnew : ∀ j ∈ new, j.seen? = none)
    (hlive : ∀ u, s'.forest.Live u ↔ s.forest.Live u ∧ ¬ (u = t ∧ l.ends = true) ∨
      s.forest.tasks.length ≤ u ∧ u < s.forest.tasks.length + new.length)
    (hseen : ∀ seen', next.seen? = some seen' → ∃ seen, job.seen? = some seen ∧
      ∀ p, p ∈ seen' ↔ p ∈ seen ∨ p ∈ l.announced) : Booked s l s' := by
  have hold := Forest.jobs_of_active? hjob
  have hkinds : s'.kinds = s.kinds ++ new.map Job.kind := by
    rw [kinds, hjobs, List.map_append, List.map_set, hkind]
    exact congrArg (· ++ _) (Slots.set_same (kinds_of_active? hjob))
  refine ⟨?_, ?_, ?_, ?_, ?_⟩
  · intro u hu
    cases hl.symm.trans hu
    exact live_of_active? hjob
  · rw [hsent, eventsAt_of_active? hjob hl]
  · rw [hkinds, spawnsAt_of_active? hjob hl, hspawns]
  · intro u
    rw [hlive, hl, Option.some_inj, hkinds, List.length_append, List.length_map, length_kinds,
      eq_comm (a := t)]
  · intro u seen' hu
    rw [seenBy, hjobs] at hu
    have hlt : u < (s.forest.jobs.set t next).length := by
      refine Nat.lt_of_not_le fun hle => ?_
      rw [List.getElem?_append_right hle] at hu
      obtain ⟨j, hj, hjseen⟩ := Option.bind_eq_some_iff.mp hu
      rw [hnew j (List.mem_of_getElem? hj)] at hjseen
      cases hjseen
    rw [List.getElem?_append_left hlt] at hu
    by_cases hut : t = u
    · subst hut
      rw [List.getElem?_set_self (List.getElem?_eq_some_iff.mp hold).1, Option.bind_some] at hu
      obtain ⟨seen, hjseen, hmem⟩ := hseen seen' hu
      refine ⟨seen, ?_, ?_⟩
      · rw [seenBy, hold]
        exact hjseen
      · intro p
        rw [hmem]
        simp [hl]
    · rw [List.getElem?_set_ne hut] at hu
      refine ⟨seen', hu, ?_⟩
      intro p
      simp [hl, hut]

theorem booked_goOn {next : Job} (hjob : s.forest.active? t = some job) (hl : l.task? = some t)
    (hsent : s'.sent = s.sent ++ l.events job.kind) (hforest : s'.forest = s.forest.setJob t next)
    (hkind : next.kind = job.kind) (hseen : next.seen? = job.seen?) (hspawns : l.spawns job = [])
    (hannounced : job.seen? = none ∨ l.announced = []) (hends : l.ends = false) :
    Booked s l s' := by
  refine booked_of next [] hjob hl hsent hkind ?_ hspawns (by simp) ?_ ?_
  · rw [hforest, Forest.jobs_setJob, List.append_nil]
  · intro u
    rw [hforest, Forest.live_setJob, hends]
    simp
  · intro seen' h
    rcases hannounced with hnone | hnil
    · rw [hseen, hnone] at h
      cases h
    · exact ⟨seen', hseen.symm.trans h, by simp [hnil]⟩

/-- The task stays what it is, and whatever is announced to it is known. -/
theorem booked_stay (hjob : s.forest.active? t = some job) (hl : l.task? = some t)
    (hsent : s'.sent = s.sent ++ l.events job.kind) (hforest : s'.forest = s.forest)
    (hspawns : l.spawns job = []) (hends : l.ends = false)
    (hknown : ∀ seen, job.seen? = some seen → ∀ p ∈ l.announced, p ∈ seen) : Booked s l s' := by
  refine booked_of job [] hjob hl hsent rfl ?_ hspawns (by simp) ?_ ?_
  · rw [hforest, Slots.set_same (Forest.jobs_of_active? hjob), List.append_nil]
  · intro u
    rw [hforest, hends]
    simp
  · intro seen h
    exact ⟨seen, h, fun p => (or_iff_left_of_imp (hknown seen h p)).symm⟩

/-- The task goes on as `next` in `F` and starts one task. -/
theorem booked_spawn (next : Job) {F : Forest Job} {child : Job}
    (hjob : s.forest.active? t = some job) (hl : l.task? = some t)
    (hsent : s'.sent = s.sent ++ l.events job.kind)
    (hkind : next.kind = job.kind) (hF : F.jobs = s.forest.jobs.set t next)
    (hFlive : ∀ u, F.Live u ↔ s.forest.Live u) (hforest : s'.forest = F.spawn t child)
    (hspawns : l.spawns job = [child.kind]) (hends : l.ends = false) (hchild : child.seen? = none)
    (hseen : ∀ seen', next.seen? = some seen' → ∃ seen, job.seen? = some seen ∧
      ∀ p, p ∈ seen' ↔ p ∈ seen ∨ p ∈ l.announced) : Booked s l s' := by
  have hlength : F.tasks.length = s.forest.tasks.length := by
    have hjobs := congrArg List.length hF
    simpa [Forest.jobs] using hjobs
  refine booked_of next [child] hjob hl hsent hkind ?_ hspawns (by simpa using hchild) ?_ hseen
  · rw [hforest, Forest.jobs_spawn, hF]
  · intro u
    have hnew : u = s.forest.tasks.length ↔
        s.forest.tasks.length ≤ u ∧ u < s.forest.tasks.length + 1 := by omega
    rw [hforest, Forest.live_spawn, hFlive, hlength, hends, hnew]
    simp

theorem booked_exit (hjob : s.forest.active? t = some job) (hl : l.task? = some t)
    (hsent : s'.sent = s.sent ++ l.events job.kind) (hforest : s'.forest = s.forest.exit t)
    (hspawns : l.spawns job = []) (hends : l.ends = true) (hannounced : l.announced = []) :
    Booked s l s' := by
  refine booked_of job [] hjob hl hsent rfl ?_ hspawns (by simp) ?_ ?_
  · rw [hforest, Forest.jobs_exit, Slots.set_same (Forest.jobs_of_active? hjob), List.append_nil]
  · intro u
    rw [hforest, Forest.live_exit, hends]
    simp
  · intro seen h
    exact ⟨seen, h, by simp [hannounced]⟩

/-- A message to the loop for types. -/
theorem booked_typeMessage {interface : Int32} {domain : String} {seen : Finset (String × String)}
    {m : StreamItem}
    (hjob : s.forest.active? t = some (.browseAllTypes interface domain seen .looping))
    (h : s.act t (.browseAllTypes interface domain seen .looping) (.message t m) = some s') :
    Booked s (.message t m) s' := by
  rcases browseAllTypesMessage_cases seen m with ⟨i, hi, hf, hnew, he⟩ | ⟨i, hi, hf, hold, he⟩ |
    ⟨err, hi, hf, he⟩ | ⟨hi, hf, he⟩ <;> simp only [act, he] at h <;> cases h
  · refine booked_spawn (.browseAllTypes interface domain (insert i.pair seen) .looping)
      hjob rfl ?_ rfl (Forest.jobs_setJob _) (fun u => Forest.live_setJob _) rfl ?_ rfl rfl ?_
    · simp [Label.events, Job.kind, hf, spawn, goOn]
    · simp [Label.spawns, hi, hnew, Job.kind]
    · rintro seen' ⟨⟩
      refine ⟨seen, rfl, fun p => ?_⟩
      simp [Label.announced, hi, or_comm]
  · refine booked_stay hjob rfl ?_ rfl ?_ rfl ?_
    · simp [Label.events, Job.kind, hf]
    · simp [Label.spawns, hi, hold]
    · rintro seen' ⟨⟩ p hp
      simp only [Label.announced, hi, Option.map_some, Option.toList_some, List.mem_singleton] at hp
      exact hp ▸ hold
  · refine booked_stay hjob rfl ?_ rfl ?_ rfl ?_
    · simp [Label.events, Job.kind, hf, send]
    · simp [Label.spawns, hi]
    · simp [Label.announced, hi]
  · refine booked_stay hjob rfl ?_ rfl ?_ rfl ?_
    · simp [Label.events, Job.kind, hf]
    · simp [Label.spawns, hi]
    · simp [Label.announced, hi]

/-- A message to the loop for instances. -/
theorem booked_instanceMessage {interface : Int32} {serviceType domain : String} {m : StreamItem}
    (hjob : s.forest.active? t = some (.browseOneType interface serviceType domain .looping))
    (h : s.act t (.browseOneType interface serviceType domain .looping) (.message t m) = some s') :
    Booked s (.message t m) s' := by
  have hnone : ∀ seen, Job.seen? (.browseOneType interface serviceType domain .looping) =
      some seen → ∀ p ∈ (Label.message t m).announced, p ∈ seen := by
    rintro seen ⟨⟩
  rcases browseOneTypeMessage_cases serviceType m with ⟨i, hi, hr, hf, he⟩ | ⟨i, hi, hr, hf, he⟩ |
    ⟨err, hi, hr, hf, he⟩ | ⟨hi, hr, hf, he⟩ <;> simp only [act, he] at h
  · cases h
    refine booked_spawn (.browseOneType interface serviceType domain .looping)
      (F := s.forest.prune t) hjob rfl ?_ rfl ?_ (fun u => Forest.live_prune) rfl ?_ rfl rfl ?_
    · simp [Label.events, Job.kind, hr, hf, spawn, prune]
    · rw [Forest.jobs_prune, Slots.set_same (Forest.jobs_of_active? hjob)]
    · simp [Label.spawns, hi, Job.kind]
    · rintro seen ⟨⟩
  · have hsent : s.sent ++ [.ok (.removed i.toRemoved)] = s.sent ++
        (Label.message t m).events (.browseOneType ⟨interface, serviceType, domain⟩) := by
      simp [Label.events, hr, hf]
    have hspawns : (Label.message t m).spawns
        (.browseOneType interface serviceType domain .looping) = [] := by
      simp [Label.spawns, hi]
    split at h <;> cases h
    · exact booked_stay hjob rfl hsent rfl hspawns rfl hnone
    · exact booked_goOn hjob rfl hsent rfl rfl rfl hspawns (.inl rfl) rfl
  · cases h
    refine booked_stay hjob rfl ?_ rfl ?_ rfl hnone
    · simp [Label.events, Job.kind, hr, hf, send]
    · simp [Label.spawns, hi]
  · cases h
    refine booked_stay hjob rfl ?_ rfl ?_ rfl hnone
    · simp [Label.events, Job.kind, hr, hf]
    · simp [Label.spawns, hi]

/-- **What an active task adds to the books.** -/
theorem booked_act (hjob : s.forest.active? t = some job) (hl : l.task? = some t)
    (h : s.act t job l = some s') : Booked s l s' := by
  unfold act at h
  split at h
  · split at h <;> cases h
    · exact booked_goOn hjob hl (List.append_nil _).symm rfl rfl rfl rfl (.inr rfl) rfl
    · exact booked_exit hjob hl rfl rfl rfl rfl rfl
    · exact booked_exit hjob hl rfl rfl rfl rfl rfl
  · split at h <;> cases h
    · exact booked_goOn hjob hl (List.append_nil _).symm rfl rfl rfl rfl (.inr rfl) rfl
    · exact booked_exit hjob hl rfl rfl rfl rfl rfl
    · exact booked_exit hjob hl rfl rfl rfl rfl rfl
  · cases hl
    exact booked_typeMessage hjob (by simpa only [act] using h)
  · cases hl
    exact booked_instanceMessage hjob (by simpa only [act] using h)
  · cases h
    exact booked_goOn hjob hl (List.append_nil _).symm rfl rfl rfl rfl (.inr rfl) rfl
  · cases h
    exact booked_goOn hjob hl (List.append_nil _).symm rfl rfl rfl rfl (.inr rfl) rfl
  · cases h
    exact booked_exit hjob hl (List.append_nil _).symm rfl rfl rfl rfl
  · cases h
    exact booked_exit hjob hl (List.append_nil _).symm rfl rfl rfl rfl
  · cases h
    exact booked_exit hjob hl rfl rfl rfl rfl rfl
  · cases h

/-- A step that is none of a task's own. -/
theorem booked_outside (htask : ∀ t, l.task? = some t → s.forest.Live t) (hsent : s'.sent = s.sent)
    (hjobs : s'.forest.jobs = s.forest.jobs) (hevents : ∀ kind, l.events kind = [])
    (hspawns : ∀ job, l.spawns job = []) (hannounced : l.announced = [])
    (hlive : ∀ u, s'.forest.Live u ↔ s.forest.Live u ∧ ¬ (l.task? = some u ∧ l.ends = true)) :
    Booked s l s' := by
  have hkinds : s'.kinds = s.kinds := congrArg (List.map Job.kind) hjobs
  refine ⟨htask, ?_, ?_, ?_, ?_⟩
  · rw [hsent, eventsAt]
    cases l.task?.bind (s.kinds[·]?) with
    | none => simp
    | some kind => simp [hevents]
  · rw [hkinds, spawnsAt_eq_nil s hspawns, List.append_nil]
  · intro u
    rw [hlive, hkinds]
    exact (or_iff_left (by omega)).symm
  · intro u seen h
    refine ⟨seen, ?_, by simp [hannounced]⟩
    rw [seenBy, ← hjobs]
    exact h

/-- **What a step adds to the books.** -/
theorem step_booked (h : step s l = some s') : Booked s l s' := by
  cases l with
  | setup t result =>
    obtain ⟨job, hjob, hact⟩ := Option.bind_eq_some_iff.mp h
    exact booked_act hjob rfl hact
  | message t m =>
    obtain ⟨job, hjob, hact⟩ := Option.bind_eq_some_iff.mp h
    exact booked_act hjob rfl hact
  | streamEnd t =>
    obtain ⟨job, hjob, hact⟩ := Option.bind_eq_some_iff.mp h
    exact booked_act hjob rfl hact
  | freed t =>
    obtain ⟨job, hjob, hact⟩ := Option.bind_eq_some_iff.mp h
    exact booked_act hjob rfl hact
  | resolved t outcome =>
    obtain ⟨job, hjob, hact⟩ := Option.bind_eq_some_iff.mp h
    exact booked_act hjob rfl hact
  | dropGuard =>
    simp only [step] at h
    split at h <;> cases h
    refine booked_outside ?_ rfl Forest.jobs_dropGuard (fun _ => rfl) (fun _ => rfl) rfl ?_
    · rintro t ⟨⟩
    · intro u
      simp [Label.task?]
  | dropReceiver =>
    cases h
    refine booked_outside ?_ rfl rfl (fun _ => rfl) (fun _ => rfl) rfl ?_
    · rintro t ⟨⟩
    · intro u
      simp [Label.task?]
  | reap t =>
    simp only [step] at h
    split at h <;> cases h
    rename_i hpending
    refine booked_outside ?_ rfl Forest.jobs_exit (fun _ => rfl) (fun _ => rfl) rfl ?_
    · rintro u ⟨⟩
      obtain ⟨task, ht, hc⟩ := (Option.any_eq_true _ _).mp hpending
      exact ⟨task, ht, (Bool.and_eq_true_iff.mp hc).1⟩
    · intro u
      rw [exit, Forest.live_exit]
      simp [Label.task?, Label.ends, eq_comm]

end

/-! ## The books of a run -/

/-- The messages that task `t` takes. -/
def messagesTo (t : Nat) (labels : List Label) : List StreamItem :=
  labels.filterMap fun
    | .message u m => if u = t then some m else none
    | _ => none

/-- The resolvers that a label starts, given the kinds of the tasks. -/
def resolversAt (kinds : List Kind) : Label → List Item
  | .message t m => if (kinds[t]?.bind Kind.child?).isSome then (newItem? m).toList else []
  | _ => []

/-- The instance browses below a root that takes the messages. -/
def browsesOf : Kind → List StreamItem → List Child
  | .browseAllTypes interface _, messages => childrenOf interface (announcedPairs messages)
  | .browseOneType child, _ => [child]
  | .resolveAndEmit _, _ => []

/-- The label is the end of task `t`. -/
def Label.endOf (t : Nat) (l : Label) : Bool := l.task? = some t ∧ l.ends = true

theorem Label.endOf_iff {t : Nat} {l : Label} :
    l.endOf t = true ↔ l.task? = some t ∧ l.ends = true := by
  simp [endOf]

/-- The books after the labels. -/
structure Ledger (root : Kind) (labels : List Label) (s : Browse) : Prop where
  /-- Each event in its place, and no other. -/
  sent : s.sent = labels.flatMap (eventsAt s.kinds)
  known : ∀ l ∈ labels, ∀ t, l.task? = some t → t < s.kinds.length
  /-- One resolver for each well-formed `ItemNew` that an instance browse takes. -/
  resolvers : s.kinds.filterMap Kind.item? = labels.flatMap (resolversAt s.kinds)
  /-- One instance browse for each pair that is announced to the root. -/
  browses : s.kinds.filterMap Kind.child? = browsesOf root (messagesTo 0 labels)
  root : s.kinds[0]? = some root
  /-- A task that has ended did so once. -/
  ended : ∀ t, t < s.kinds.length → ¬ s.forest.Live t → labels.countP (Label.endOf t) = 1
  unended : ∀ t, s.forest.Live t → labels.countP (Label.endOf t) = 0

/-- What the root remembers. -/
structure Remembers (root : Kind) (labels : List Label) (s : Browse) : Prop where
  seen : ∀ t seen, s.seenBy t = some seen →
    t = 0 ∧ ∀ p, p ∈ seen ↔ p ∈ announcedPairs (messagesTo 0 labels)
  root : ∀ t interface domain, s.kinds[t]? = some (.browseAllTypes interface domain) →
    t = 0 ∧ root = .browseAllTypes interface domain

section
variable {root : Kind} {labels : List Label} {s s' : Browse} {l : Label}

theorem eventsAt_append {kinds : List Kind} (new : List Kind)
    (hl : ∀ t, l.task? = some t → t < kinds.length) :
    eventsAt (kinds ++ new) l = eventsAt kinds l := by
  cases ht : l.task? with
  | none => simp [eventsAt, ht]
  | some t => simp [eventsAt, ht, List.getElem?_append_left (hl t ht)]

theorem resolversAt_append {kinds : List Kind} (new : List Kind)
    (hl : ∀ t, l.task? = some t → t < kinds.length) :
    resolversAt (kinds ++ new) l = resolversAt kinds l := by
  cases l with
  | message t m => rw [resolversAt, resolversAt, List.getElem?_append_left (hl t rfl)]
  | _ => rfl

theorem messagesTo_snoc (t : Nat) (labels : List Label) (l : Label) :
    messagesTo t (labels ++ [l]) = messagesTo t labels ++ messagesTo t [l] :=
  List.filterMap_append

theorem messagesTo_message (t u : Nat) (m : StreamItem) :
    messagesTo t [.message u m] = if u = t then [m] else [] := by
  by_cases h : u = t <;> simp [messagesTo, h]

/-- Only a message starts tasks, and only if its task acts. -/
theorem message_or_spawnsAt_eq_nil (h : step s l = some s') :
    (∃ t m job, l = .message t m ∧ s.forest.active? t = some job) ∨
    (∀ t, messagesTo t [l] = []) ∧ s.spawnsAt l = [] ∧ ∀ kinds, resolversAt kinds l = [] := by
  cases l with
  | message t m =>
    obtain ⟨job, hjob, -⟩ := Option.bind_eq_some_iff.mp h
    exact .inl ⟨t, m, job, rfl, hjob⟩
  | _ =>
    exact .inr ⟨fun _ => rfl, spawnsAt_eq_nil s fun _ => rfl, fun _ => rfl⟩

theorem filterMap_item?_spawnsAt (h : step s l = some s') :
    (s.spawnsAt l).filterMap Kind.item? = resolversAt s.kinds l := by
  rcases message_or_spawnsAt_eq_nil h with ⟨t, m, job, rfl, hjob⟩ | ⟨-, hspawns, hresolvers⟩
  · rw [spawnsAt_of_active? hjob rfl, resolversAt, kinds_of_active? hjob]
    cases job with
    | browseAllTypes interface domain seen phase =>
      simp [Label.spawns, Job.kind, Kind.item?, Kind.child?]
    | browseOneType interface serviceType domain phase =>
      cases hi : newItem? m <;> simp [Label.spawns, hi, Job.kind, Kind.item?, Kind.child?]
    | resolveAndEmit item => rfl
  · rw [hspawns, hresolvers]
    rfl

/-- **The root starts one browse for each new pair**, and nobody else starts any. -/
theorem browsesOf_snoc (hroot : s.kinds[0]? = some root) (hr : Remembers root labels s)
    (h : step s l = some s') :
    browsesOf root (messagesTo 0 (labels ++ [l])) =
      browsesOf root (messagesTo 0 labels) ++ (s.spawnsAt l).filterMap Kind.child? := by
  rw [messagesTo_snoc]
  rcases message_or_spawnsAt_eq_nil h with ⟨t, m, job, rfl, hjob⟩ | ⟨hmessages, hspawns, -⟩
  · have hkind := kinds_of_active? hjob
    rw [spawnsAt_of_active? hjob rfl, messagesTo_message]
    cases job with
    | browseAllTypes interface domain seen phase =>
      obtain ⟨rfl, rfl⟩ := hr.root t interface domain hkind
      have hseen := (hr.seen 0 seen (by rw [seenBy, Forest.jobs_of_active? hjob]; rfl)).2
      rw [if_pos rfl, browsesOf, browsesOf, announcedPairs_snoc]
      cases hi : newType? m with
      | none => simp [Label.spawns, hi]
      | some i =>
        by_cases hmem : i.pair ∈ seen
        · simp [Label.spawns, hi, hmem, childrenOf, eraseDups_snoc, (hseen i.pair).mp hmem]
        · have hnew : i.pair ∉ announcedPairs (messagesTo 0 labels) :=
            fun hp => hmem ((hseen i.pair).mpr hp)
          have hfilter : (newType? m).filter (·.pair ∉ seen) = some i := by simp [hi, hmem]
          simp only [Label.spawns, hfilter, childrenOf, eraseDups_snoc, hnew, Option.map_some,
            Option.toList_some, if_false, List.map_append]
          rfl
    | browseOneType interface serviceType domain phase =>
      have hnone : ((Label.message t m).spawns
          (.browseOneType interface serviceType domain phase)).filterMap Kind.child? = [] := by
        cases hi : newItem? m <;> simp [Label.spawns, hi, Kind.child?]
      rw [hnone, List.append_nil]
      by_cases ht : t = 0
      · subst ht
        obtain rfl := Option.some.inj (hroot.symm.trans hkind)
        rfl
      · rw [if_neg ht, List.append_nil]
    | resolveAndEmit item =>
      have hnil : (Label.message t m).spawns (.resolveAndEmit item) = [] := rfl
      rw [hnil, List.filterMap_nil, List.append_nil]
      by_cases ht : t = 0
      · subst ht
        obtain rfl := Option.some.inj (hroot.symm.trans hkind)
        rfl
      · rw [if_neg ht, List.append_nil]
  · rw [hmessages, hspawns, List.append_nil]
    simp

theorem mem_announcedPairs_messagesTo_snoc (t : Nat) (labels : List Label) (l : Label)
    (p : String × String) :
    p ∈ announcedPairs (messagesTo t (labels ++ [l])) ↔
      p ∈ announcedPairs (messagesTo t labels) ∨ l.task? = some t ∧ p ∈ l.announced := by
  rw [messagesTo_snoc]
  cases l with
  | message u m =>
    rw [messagesTo_message]
    by_cases hut : u = t
    · rw [if_pos hut, announcedPairs_snoc, List.mem_append]
      simp [Label.task?, Label.announced, hut]
    · simp [Label.task?, hut]
  | _ => simp [messagesTo, Label.announced]

theorem Remembers.step (hr : Remembers root labels s) (h : step s l = some s') :
    Remembers root (labels ++ [l]) s' := by
  have hb := step_booked h
  constructor
  · intro t seen' ht
    obtain ⟨seen, hseen, hmem⟩ := hb.seen t seen' ht
    obtain ⟨rfl, hold⟩ := hr.seen t seen hseen
    refine ⟨rfl, fun p => ?_⟩
    rw [hmem, hold, mem_announcedPairs_messagesTo_snoc]
  · intro t interface domain ht
    rw [hb.kinds] at ht
    by_cases hlt : t < s.kinds.length
    · rw [List.getElem?_append_left hlt] at ht
      exact hr.root t interface domain ht
    · rw [List.getElem?_append_right (Nat.le_of_not_lt hlt)] at ht
      have hmem := List.mem_of_getElem? ht
      rcases message_or_spawnsAt_eq_nil h with ⟨u, m, job, rfl, hjob⟩ | ⟨-, hspawns, -⟩
      · rw [spawnsAt_of_active? hjob rfl] at hmem
        cases job <;> simp [Label.spawns] at hmem
      · rw [hspawns] at hmem
        cases hmem

theorem Ledger.step (hs : Ledger root labels s) (hr : Remembers root labels s)
    (h : step s l = some s') : Ledger root (labels ++ [l]) s' := by
  have hb := step_booked h
  have hlt : ∀ t, l.task? = some t → t < s.kinds.length := by
    intro t ht
    rw [length_kinds]
    exact Forest.lt_of_live (hb.task t ht)
  have hknown : ∀ l' ∈ labels ++ [l], ∀ t, l'.task? = some t → t < s.kinds.length := by
    intro l' hl'
    rcases List.mem_append.mp hl' with hold | hnew
    · exact hs.known l' hold
    · rw [List.mem_singleton.mp hnew]
      exact hlt
  refine ⟨?_, ?_, ?_, ?_, ?_, ?_, ?_⟩
  · have hstable : (labels ++ [l]).flatMap (eventsAt s'.kinds) =
        (labels ++ [l]).flatMap (eventsAt s.kinds) := by
      rw [hb.kinds]
      exact List.flatMap_congr fun l' hl' => eventsAt_append _ (hknown l' hl')
    rw [hstable, List.flatMap_append, List.flatMap_singleton, hb.sent, hs.sent]
  · intro l' hl' t ht
    rw [hb.kinds, List.length_append]
    exact Nat.lt_add_right _ (hknown l' hl' t ht)
  · have hstable : (labels ++ [l]).flatMap (resolversAt s'.kinds) =
        (labels ++ [l]).flatMap (resolversAt s.kinds) := by
      rw [hb.kinds]
      exact List.flatMap_congr fun l' hl' => resolversAt_append _ (hknown l' hl')
    rw [hstable, hb.kinds, List.flatMap_append, List.flatMap_singleton, List.filterMap_append,
      hs.resolvers, filterMap_item?_spawnsAt h]
  · rw [browsesOf_snoc hs.root hr h, hb.kinds, List.filterMap_append, hs.browses]
  · rw [hb.kinds]
    rw [List.getElem?_append_left (List.getElem?_eq_some_iff.mp hs.root).1]
    exact hs.root
  · intro t ht hdead
    rw [List.countP_append, List.countP_singleton]
    by_cases hlive : s.forest.Live t
    · have hend : l.task? = some t ∧ l.ends = true := by
        by_contra hnot
        exact hdead ((hb.live t).mpr (.inl ⟨hlive, hnot⟩))
      rw [hs.unended t hlive, if_pos (Label.endOf_iff.mpr hend)]
    · have hold : t < s.kinds.length := by
        by_contra hge
        exact hdead ((hb.live t).mpr (.inr ⟨by omega, ht⟩))
      have hnot : ¬ Label.endOf t l = true := by
        intro hend
        exact hlive (hb.task t (Label.endOf_iff.mp hend).1)
      rw [hs.ended t hold hlive, if_neg hnot]
  · intro t hlive
    rw [List.countP_append, List.countP_singleton]
    rcases (hb.live t).mp hlive with ⟨hold, hnot⟩ | ⟨hge, -⟩
    · have hnot : ¬ Label.endOf t l = true := fun hend => hnot (Label.endOf_iff.mp hend)
      rw [hs.unended t hold, if_neg hnot]
    · have hnone : ∀ l' ∈ labels ++ [l], ¬ Label.endOf t l' = true := by
        intro l' hl' hend
        have := hknown l' hl' t (Label.endOf_iff.mp hend).1
        omega
      rw [List.countP_eq_zero.mpr fun l' hl' => hnone l' (List.mem_append_left _ hl'),
        if_neg (hnone l (List.mem_append_right _ (List.mem_singleton_self l)))]

end

/-- What the root of a browse does. -/
def rootKind (interface : Int32) (serviceType domain : Option String) : Kind :=
  match serviceType with
  | some serviceType => .browseOneType ⟨interface, serviceType, domain.getD ""⟩
  | none => .browseAllTypes interface (domain.getD "")

/-- The books of a root alone. -/
theorem ledger_root (job : Job) {start : Browse} (hforest : start.forest = .root job)
    (hsent : start.sent = []) (hitem : job.kind.item? = none)
    (hchild : job.kind.child?.toList = browsesOf job.kind []) : Ledger job.kind [] start := by
  have hkinds : start.kinds = [job.kind] := by
    rw [kinds, hforest]
    rfl
  have hlive : ∀ t, t < start.kinds.length → start.forest.Live t := by
    intro t ht
    rw [hkinds, List.length_singleton, Nat.lt_one_iff] at ht
    rw [ht, hforest]
    exact ⟨{ job }, rfl, rfl⟩
  refine ⟨hsent, by simp, ?_, ?_, ?_, ?_, fun _ _ => rfl⟩
  · simp [hkinds, hitem]
  · rw [hkinds, messagesTo, List.filterMap_nil, ← hchild]
    cases h : job.kind.child? <;> simp [h]
  · simp [hkinds]
  · intro t ht hdead
    exact absurd (hlive t ht) hdead

/-- A browse starts as its root. -/
theorem exists_root {conn proxy : Except String Unit} {serviceType domain : Option String}
    {interfaceIndex : Option NonZeroU32} {start : Browse}
    (hstart : browseStart conn proxy serviceType domain interfaceIndex = .ok start) :
    ∃ job, start.forest = .root job := by
  unfold browseStart at hstart
  split at hstart
  · cases hstart
  · split at hstart
    · cases hstart
    · split at hstart
      · cases hstart
      · cases serviceType <;> cases hstart <;> exact ⟨_, rfl⟩

theorem ledger_start {conn proxy : Except String Unit} {serviceType domain : Option String}
    {interfaceIndex : Option NonZeroU32} {start : Browse}
    (hstart : browseStart conn proxy serviceType domain interfaceIndex = .ok start) :
    ∃ interface, interfaceToAvahi interfaceIndex = .ok interface ∧
      Ledger (rootKind interface serviceType domain) [] start ∧
      Remembers (rootKind interface serviceType domain) [] start := by
  unfold browseStart at hstart
  split at hstart
  · cases hstart
  · split at hstart
    · cases hstart
    · split at hstart
      · cases hstart
      · rename_i interface hinterface
        refine ⟨interface, hinterface, ?_⟩
        cases serviceType with
        | none =>
          cases hstart
          refine ⟨ledger_root (.browseAllTypes interface (domain.getD "") ∅ .connecting)
            rfl rfl rfl rfl, ?_, ?_⟩
          · rintro (_ | t) seen ht
            · cases ht
              exact ⟨rfl, by simp [messagesTo, announcedPairs]⟩
            · cases ht
          · rintro (_ | t) interface domain ht
            · cases ht
              exact ⟨rfl, rfl⟩
            · cases ht
        | some serviceType =>
          cases hstart
          refine ⟨ledger_root (.browseOneType interface serviceType (domain.getD "") .connecting)
            rfl rfl rfl rfl, ?_, ?_⟩
          · rintro (_ | t) seen ht <;> cases ht
          · rintro (_ | t) interface domain ht <;> cases ht

end Browse

open Browse

/-- The books after a run from the start. -/
theorem ledger_run {conn proxy : Except String Unit} {serviceType domain : Option String}
    {interfaceIndex : Option NonZeroU32} {start s : Browse}
    (hstart : browseStart conn proxy serviceType domain interfaceIndex = .ok start)
    {labels : List Label} (h : run step start labels = some s) :
    ∃ interface, interfaceToAvahi interfaceIndex = .ok interface ∧
      Ledger (rootKind interface serviceType domain) labels s := by
  obtain ⟨interface, hinterface, hledger, hremembers⟩ := ledger_start hstart
  let root := rootKind interface serviceType domain
  have hrun : Ledger root labels s ∧ Remembers root labels s := by
    refine run_guarded (P := fun ls t => Ledger root ls t ∧ Remembers root ls t)
      (G := fun _ _ _ => True) ⟨hledger, hremembers⟩ ?_ h fun _ _ _ _ _ _ => trivial
    rintro ls t l u ⟨ht, hr⟩ - hstep
    exact ⟨ht.step hr hstep, hr.step hstep⟩
  exact ⟨interface, hinterface, hrun.1⟩

/-- **The books of a browse balance** after every run, however its tasks interleave
and whenever it is dropped. -/
theorem browse_ledger (conn proxy : Except String Unit) (serviceType domain : Option String)
    (interfaceIndex : Option NonZeroU32) {start s : Browse}
    (hstart : browseStart conn proxy serviceType domain interfaceIndex = .ok start)
    (labels : List Label) (h : run step start labels = some s) :
    ∃ interface, interfaceToAvahi interfaceIndex = .ok interface ∧
      Ledger (rootKind interface serviceType domain) labels s :=
  ledger_run hstart h

theorem browse_ledger_example :
    ∃ start s, browseStart (.ok ()) (.ok ()) none none none = .ok start ∧
      run step start (droppedBrowse.take 4 ++ [.resolved 2 (.noProxy "gone")]) = some s ∧
      Ledger (.browseAllTypes avahiIfUnspec "")
        (droppedBrowse.take 4 ++ [.resolved 2 (.noProxy "gone")]) s ∧
      s.sent = [.error (.resolveFailed "Printer" "gone")] := by
  obtain ⟨interface, hinterface, hledger⟩ := browse_ledger (.ok ()) (.ok ()) none none none rfl
    (droppedBrowse.take 4 ++ [.resolved 2 (.noProxy "gone")]) rfl
  cases hinterface
  exact ⟨_, _, rfl, rfl, hledger, rfl⟩

/-! ## Why a task is dropped -/

namespace Browse

section
variable {s s' : Browse} {t : Nat} {l : Label}

/-- A task that ends leaves the handles that it holds. -/
theorem pending_exit {p : Nat} (hb : s.Booked l s') (hp : s.forest.Live p)
    (he : s'.forest = s.forest.exit p) (hpending : s'.forest.Pending t) :
    s.forest.Pending t ∨ ∃ q, l.endOf q = true ∧ s.forest.Holds q t := by
  have hdead : ¬ s'.forest.Live p := by
    rw [he, Forest.live_exit]
    exact fun hlive => hlive.2 rfl
  have hend : l.endOf p = true := by
    rw [Label.endOf_iff]
    by_contra hnot
    exact hdead ((hb.live p).mpr (.inl ⟨hp, hnot⟩))
  rw [he] at hpending
  rcases Forest.pending_of_exit hp hpending with hold | hholds
  · exact .inl hold
  · exact .inr ⟨p, hend, hholds⟩

theorem pending_act {p : Nat} {job : Job} (hb : s.Booked l s')
    (hjob : s.forest.active? p = some job) (h : s.act p job l = some s')
    (hpending : s'.forest.Pending t) :
    s.forest.Pending t ∨ ∃ q, l.endOf q = true ∧ s.forest.Holds q t := by
  rcases act_cases h with he | ⟨next, he⟩ | ⟨next, child, he⟩ | ⟨child, he⟩ | he
  · rw [he] at hpending
    exact .inl hpending
  · rw [he, Forest.pending_setJob] at hpending
    exact .inl hpending
  · rw [he] at hpending
    exact .inl ((Forest.pending_setJob next).mp (Forest.pending_of_spawn hpending))
  · rw [he] at hpending
    exact .inl (Forest.pending_prune.mp (Forest.pending_of_spawn hpending))
  · exact pending_exit hb (live_of_active? hjob) he hpending

/-- **What makes an abort pending**: the guard is dropped, or a task ends that
holds the handle. -/
theorem pending_step (h : step s l = some s') (hpending : s'.forest.Pending t) :
    s.forest.Pending t ∨ (l = .dropGuard ∧ t = 0) ∨
      ∃ p, l.endOf p = true ∧ s.forest.Holds p t := by
  have hb := step_booked h
  cases l with
  | dropGuard =>
    simp only [step] at h
    split at h <;> cases h
    rcases Forest.pending_of_dropGuard hpending with hold | rfl
    · exact .inl hold
    · exact .inr (.inl ⟨rfl, rfl⟩)
  | dropReceiver =>
    cases h
    exact .inl hpending
  | reap p =>
    have hlive := hb.task p rfl
    simp only [step] at h
    split at h <;> cases h
    exact (pending_exit hb hlive rfl hpending).imp_right .inr
  | _ =>
    obtain ⟨job, hjob, hact⟩ := Option.bind_eq_some_iff.mp h
    exact (pending_act hb hjob hact hpending).imp_right .inr

theorem pending_of_isPending (h : s.isPending t = true) : s.forest.Pending t := by
  obtain ⟨task, ht, hc⟩ := (Option.any_eq_true _ _).mp h
  obtain ⟨hl, ha⟩ := Bool.and_eq_true_iff.mp hc
  refine ⟨⟨task, ht, hl⟩, ?_⟩
  rintro ⟨task', ht', -, ha'⟩
  cases ht.symm.trans ht'
  cases ha.symm.trans ha'

end

/-- Something in the labels asked for the abort of task `t`: the guard of the root
was dropped, or a task that held its handle ended. -/
def AskedFor (start : Browse) (labels : List Label) (t : Nat) : Prop :=
  t = 0 ∧ .dropGuard ∈ labels ∨
  ∃ pre l u p, pre ++ [l] <+: labels ∧ run step start pre = some u ∧ l.endOf p = true ∧
    u.forest.Holds p t

theorem AskedFor.mono {start : Browse} {labels : List Label} {t : Nat} (l : Label)
    (h : AskedFor start labels t) : AskedFor start (labels ++ [l]) t := by
  rcases h with ⟨ht, hmem⟩ | ⟨pre, l', u, p, hpre, hu, hend, hholds⟩
  · exact .inl ⟨ht, List.mem_append_left _ hmem⟩
  · exact .inr ⟨pre, l', u, p, hpre.trans (List.prefix_append _ _), hu, hend, hholds⟩

end Browse

/-- **No task is dropped without a reason**: before a task is dropped, the guard was
dropped or the task that held it had ended. -/
theorem browse_reap (conn proxy : Except String Unit) (serviceType domain : Option String)
    (interfaceIndex : Option NonZeroU32) {start s : Browse}
    (hstart : browseStart conn proxy serviceType domain interfaceIndex = .ok start)
    (labels : List Label) (h : run step start labels = some s) (pre : List Label) (t : Nat)
    (hpre : pre ++ [.reap t] <+: labels) : AskedFor start pre t := by
  have hrun : ∀ {is u}, run step start is = some u → ∀ t, u.forest.Pending t →
      AskedFor start is t := by
    intro is u hu
    refine (run_guarded (P := fun ls u => run step start ls = some u ∧
      ∀ t, u.forest.Pending t → AskedFor start ls t) (G := fun _ _ _ => True) ⟨rfl, ?_⟩ ?_ hu
      fun _ _ _ _ _ _ => trivial).2
    · intro t hpending
      obtain ⟨job, hroot⟩ := exists_root hstart
      rw [hroot] at hpending
      exact absurd hpending (Forest.not_pending_root job)
    · rintro ls u l u' ⟨hls, ih⟩ - hstep
      refine ⟨by rw [run_snoc, hls]; exact hstep, fun t hpending => ?_⟩
      rcases pending_step hstep hpending with hold | ⟨rfl, rfl⟩ | ⟨p, hend, hholds⟩
      · exact (ih t hold).mono l
      · exact .inl ⟨rfl, by simp⟩
      · exact .inr ⟨ls, l, u, p, List.prefix_rfl, hls, hend, hholds⟩
  obtain ⟨post, hpost⟩ := hpre
  rw [← hpost] at h
  obtain ⟨v, hv, -⟩ := run_prefix h
  rw [run_snoc] at hv
  obtain ⟨u, hu, hstep⟩ := Option.bind_eq_some_iff.mp hv
  refine hrun hu t (pending_of_isPending ?_)
  by_contra hnot
  cases (if_neg hnot).symm.trans hstep

theorem browse_reap_example :
    ∃ start, browseStart (.ok ()) (.ok ()) none none none = .ok start ∧
      AskedFor start (droppedBrowse.take 7) 2 :=
  ⟨_, rfl, browse_reap (.ok ()) (.ok ()) none none none rfl droppedBrowse rfl _ 2 List.prefix_rfl⟩

end MdnsSdDiscovery.Linux
