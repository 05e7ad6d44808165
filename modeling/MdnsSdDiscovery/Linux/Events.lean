import MdnsSdDiscovery.Lib.Runs
import MdnsSdDiscovery.Linux.Browse

/-!
# One instance browse and its resolvers

`browse_one_type` after a successful `ServiceBrowserNew`, as a step function:
the loop handles the next message, any resolver task in flight finishes, the
stream ends, the browser is freed, or the receiver is dropped.  `handled`,
`finished` and `aborted` are history: the messages taken from the stream, the
resolvers that ran to their end, and those whose handle was dropped before that.

`Accounted` is the invariant of the loop while it runs and somebody receives:
no event is lost, duplicated or invented (`browseOneType_accounted`).
-/

namespace MdnsSdDiscovery.Linux

open Runs

/-! ## What the messages ask for -/

/-- A well-formed `ItemNew`. -/
def newItem? : StreamItem → Option Item
  | .ok ⟨some "ItemNew", .item i⟩ => some i
  | _ => none

/-- A well-formed `ItemRemove`. -/
def removedItem? : StreamItem → Option Item
  | .ok ⟨some "ItemRemove", .item i⟩ => some i
  | _ => none

/-- The text of a `Failure`, empty when its body is malformed. -/
def failure? : StreamItem → Option String
  | .ok ⟨some "Failure", body⟩ => some (body.text?.getD "")
  | _ => none

/-- The error that reports a failure of the browser. -/
def failureError (serviceType err : String) : ServiceBrowseError :=
  .browseFailed s!"service browser failure for {serviceType}: {err}"

/-- **The loop body by the kind of message**: a message is a well-formed
`ItemNew`, a well-formed `ItemRemove`, a `Failure`, or skipped. -/
theorem browseOneTypeMessage_cases (serviceType : String) (m : StreamItem) :
    (∃ i, newItem? m = some i ∧ removedItem? m = none ∧ failure? m = none ∧
      browseOneTypeMessage serviceType m = .resolve i) ∨
    (∃ i, newItem? m = none ∧ removedItem? m = some i ∧ failure? m = none ∧
      browseOneTypeMessage serviceType m = .remove i.toRemoved) ∨
    (∃ err, newItem? m = none ∧ removedItem? m = none ∧ failure? m = some err ∧
      browseOneTypeMessage serviceType m = .fail (failureError serviceType err)) ∨
    (newItem? m = none ∧ removedItem? m = none ∧ failure? m = none ∧
      browseOneTypeMessage serviceType m = .skip) := by
  cases m with
  | error e => exact .inr (.inr (.inr ⟨rfl, rfl, rfl, rfl⟩))
  | ok msg =>
    obtain ⟨member, body⟩ := msg
    cases member with
    | none => exact .inr (.inr (.inr ⟨rfl, rfl, rfl, rfl⟩))
    | some name =>
      by_cases hn : name = "ItemNew"
      · subst hn
        cases body with
        | item i => exact .inl ⟨i, rfl, rfl, rfl, rfl⟩
        | _ => exact .inr (.inr (.inr ⟨rfl, rfl, rfl, rfl⟩))
      by_cases hr : name = "ItemRemove"
      · subst hr
        cases body with
        | item i => exact .inr (.inl ⟨i, rfl, rfl, rfl, rfl⟩)
        | _ => exact .inr (.inr (.inr ⟨rfl, rfl, rfl, rfl⟩))
      by_cases hf : name = "Failure"
      · subst hf
        exact .inr (.inr (.inl ⟨_, rfl, rfl, rfl, rfl⟩))
      · right; right; right
        refine ⟨?_, ?_, ?_, ?_⟩
        · simp [newItem?, hn]
        · simp [removedItem?, hr]
        · simp [failure?, hf]
        · simp [browseOneTypeMessage, hn, hr, hf]

/-! ## The machine -/

/-- A spawned `resolve_and_emit` task. -/
structure Task where
  id : Nat
  item : Item
  deriving DecidableEq, Repr

structure OneType where
  messages : List StreamItem
  handled : List StreamItem := []
  spawned : Nat := 0
  inflight : List Task := []
  finished : List (Task × Outcome) := []
  /-- The abort handles held in `resolvers`. -/
  resolvers : List Nat := []
  aborted : List Task := []
  channel : List Event := []
  receiver : Bool := true
  looping : Bool := true
  returned : Bool := false
  deriving DecidableEq

/-- `browse_one_type` before its first message. -/
def browseOneType (messages : List StreamItem) : OneType := { messages }

namespace OneType

/-- `JoinHandle::is_finished` -/
def isFinished (s : OneType) (id : Nat) : Bool := s.inflight.all (·.id ≠ id)

/-- Dropping an `AbortOnDrop` aborts its task, which matters only to a task that
is still in flight. -/
def dropHandles (s : OneType) (handles : List Nat) : OneType :=
  { s with
    inflight := s.inflight.filter (·.id ∉ handles)
    aborted := s.aborted ++ s.inflight.filter (·.id ∈ handles) }

/-- `resolvers.retain(|r| !r.0.is_finished())` -/
def retainUnfinished (s : OneType) : OneType :=
  { s with resolvers := s.resolvers.filter fun id => !s.isFinished id }.dropHandles
    (s.resolvers.filter s.isFinished)

/-- `tx.send(event)` -/
def send (s : OneType) (event : Event) : OneType :=
  if s.receiver then { s with channel := s.channel ++ [event] } else s

/-- The end of the loop, before `browser.free()`. -/
def leave (s : OneType) : OneType := { s with looping := false }

/-- The end of the function, after `browser.free()`: `resolvers` is dropped. -/
def freed (s : OneType) : OneType :=
  { s with resolvers := [], returned := true }.dropHandles s.resolvers

/-- `tokio::spawn(resolve_and_emit(..))` and `resolvers.push` -/
def spawn (s : OneType) (i : Item) : OneType :=
  { s with
    spawned := s.spawned + 1
    inflight := s.inflight ++ [⟨s.spawned, i⟩]
    resolvers := s.resolvers ++ [s.spawned] }

/-- `messages.next()` -/
def taken (s : OneType) (m : StreamItem) (rest : List StreamItem) : OneType :=
  { s with messages := rest, handled := s.handled ++ [m] }

/-- The body of the loop. -/
def handle (s : OneType) : OneTypeEffect → OneType
  | .skip => s
  | .resolve i => s.retainUnfinished.spawn i
  | .remove r => if s.receiver then s.send (.ok (.removed r)) else s.leave
  | .fail e => s.send (.error e)

inductive Label where
  | message
  | finish (id : Nat) (outcome : Outcome)
  | streamEnd
  | freed
  | dropReceiver
  deriving DecidableEq, Repr

def step (serviceType : String) (s : OneType) : Label → Option OneType
  | .message =>
    match s.messages with
    | m :: rest =>
      if s.looping then some ((s.taken m rest).handle (browseOneTypeMessage serviceType m))
      else none
    | [] => none
  | .finish id outcome =>
    match s.inflight.find? (·.id = id) with
    | some t =>
      some ({ s with
        inflight := s.inflight.erase t
        finished := s.finished ++ [(t, outcome)] }.send (resolveAndEmit t.item outcome))
    | none => none
  | .streamEnd => if s.looping ∧ s.messages = [] then some s.leave else none
  | .freed => if s.looping = false ∧ s.returned = false then some s.freed else none
  | .dropReceiver => some { s with receiver := false }

/-! ## What a step can do -/

/-- Pruning drops handles of finished tasks only, so it aborts nothing. -/
theorem retainUnfinished_eq (s : OneType) :
    s.retainUnfinished = { s with resolvers := s.resolvers.filter fun id => !s.isFinished id } := by
  have hkeep : ∀ t ∈ s.inflight, t.id ∉ s.resolvers.filter s.isFinished := by
    intro t ht hmem
    have hfin := (List.mem_filter.mp hmem).2
    have := List.all_eq_true.mp hfin t ht
    simp at this
  have h1 : s.inflight.filter (fun t => t.id ∉ s.resolvers.filter s.isFinished) = s.inflight := by
    rw [List.filter_eq_self]
    intro t ht
    exact decide_eq_true (hkeep t ht)
  have h2 : s.inflight.filter (fun t => t.id ∈ s.resolvers.filter s.isFinished) = [] := by
    rw [List.filter_eq_nil_iff]
    intro t ht
    simpa using hkeep t ht
  simp only [retainUnfinished, dropHandles, h1, h2, List.append_nil]

theorem send_of_receiver {s : OneType} (h : s.receiver = true) (event : Event) :
    s.send event = { s with channel := s.channel ++ [event] } := if_pos h

/-- **Inversion of a step** while somebody receives. -/
theorem step_cases {serviceType : String} {s s' : OneType} {l : Label}
    (hr : s.receiver = true) (h : step serviceType s l = some s') :
    (∃ m rest, l = .message ∧ s.messages = m :: rest ∧ s.looping = true ∧
      s' = (s.taken m rest).handle (browseOneTypeMessage serviceType m)) ∨
    (∃ t outcome, l = .finish t.id outcome ∧ s.inflight.find? (·.id = t.id) = some t ∧
      s' = { s with
        inflight := s.inflight.erase t
        finished := s.finished ++ [(t, outcome)]
        channel := s.channel ++ [resolveAndEmit t.item outcome] }) ∨
    (l = .streamEnd ∧ s.looping = true ∧ s.messages = [] ∧ s' = s.leave) ∨
    (l = .freed ∧ s.looping = false ∧ s' = s.freed) ∨
    (l = .dropReceiver ∧ s' = { s with receiver := false }) := by
  cases l with
  | message =>
    left
    cases hm : s.messages with
    | nil => simp [step, hm] at h
    | cons m rest =>
      cases hl : s.looping with
      | false => simp [step, hm, hl] at h
      | true =>
        rw [step, hm] at h
        exact ⟨m, rest, rfl, rfl, rfl, (Option.some.inj ((if_pos hl).symm.trans h)).symm⟩
  | finish id outcome =>
    right; left
    cases hf : s.inflight.find? (·.id = id) with
    | none => simp [step, hf] at h
    | some t =>
      have hid : t.id = id := by simpa using List.find?_some hf
      refine ⟨t, outcome, by rw [hid], by rw [hid, hf], ?_⟩
      simp only [step, hf, Option.some.injEq] at h
      refine h.symm.trans (send_of_receiver ?_ _)
      exact hr
  | streamEnd =>
    right; right; left
    by_cases hc : s.looping ∧ s.messages = []
    · exact ⟨rfl, hc.1, hc.2, by simpa [step, hc] using h.symm⟩
    · simp [step, hc] at h
  | freed =>
    right; right; right; left
    by_cases hc : s.looping = false ∧ s.returned = false
    · exact ⟨rfl, hc.1, by simpa [step, hc] using h.symm⟩
    · cases (if_neg hc).symm.trans h
  | dropReceiver => exact .inr (.inr (.inr (.inr ⟨rfl, by simpa [step] using h.symm⟩)))

/-- **What the loop makes of one message** while somebody receives. -/
theorem handle_taken_cases {serviceType : String} {s : OneType} (hr : s.receiver = true)
    (m : StreamItem) (rest : List StreamItem) :
    let s' := (s.taken m rest).handle (browseOneTypeMessage serviceType m)
    (∃ i, newItem? m = some i ∧ removedItem? m = none ∧ failure? m = none ∧
      s' = { s.taken m rest with
        spawned := s.spawned + 1
        inflight := s.inflight ++ [⟨s.spawned, i⟩]
        resolvers := s.resolvers.filter (fun id => !s.isFinished id) ++ [s.spawned] }) ∨
    (∃ i, newItem? m = none ∧ removedItem? m = some i ∧ failure? m = none ∧
      s' = { s.taken m rest with channel := s.channel ++ [.ok (.removed i.toRemoved)] }) ∨
    (∃ err, newItem? m = none ∧ removedItem? m = none ∧ failure? m = some err ∧
      s' = { s.taken m rest with
        channel := s.channel ++ [.error (failureError serviceType err)] }) ∨
    (newItem? m = none ∧ removedItem? m = none ∧ failure? m = none ∧ s' = s.taken m rest) := by
  have hr' : (s.taken m rest).receiver = true := hr
  rcases browseOneTypeMessage_cases serviceType m with
    ⟨i, h1, h2, h3, he⟩ | ⟨i, h1, h2, h3, he⟩ | ⟨err, h1, h2, h3, he⟩ | ⟨h1, h2, h3, he⟩
  · refine .inl ⟨i, h1, h2, h3, ?_⟩
    rw [he, handle, retainUnfinished_eq]
    rfl
  · refine .inr (.inl ⟨i, h1, h2, h3, ?_⟩)
    rw [he, handle, if_pos hr', send_of_receiver hr']
    rfl
  · refine .inr (.inr (.inl ⟨err, h1, h2, h3, ?_⟩))
    rw [he, handle, send_of_receiver hr']
    rfl
  · exact .inr (.inr (.inr ⟨h1, h2, h3, by rw [he, handle]⟩))

end OneType

/-! ## Accounting -/

/-- The events a resolver sends. -/
def isResolution : Event → Bool
  | .ok (.found _) | .error (.resolveFailed _ _) => true
  | _ => false

def removedEvent? : Event → Option RemovedService
  | .ok (.removed r) => some r
  | _ => none

/-- The errors of the `BrowseFailed` kind. -/
def browseFailed? : Event → Option ServiceBrowseError
  | .error (.browseFailed reason) => some (.browseFailed reason)
  | _ => none

/-- One task for each item, numbered in order. -/
def tasksOf (items : List Item) : List Task := items.mapIdx fun id item => ⟨id, item⟩

theorem tasksOf_snoc (items : List Item) (i : Item) :
    tasksOf (items ++ [i]) = tasksOf items ++ [⟨items.length, i⟩] := by
  simp [tasksOf, List.mapIdx_append]

theorem isResolution_resolveAndEmit (i : Item) (outcome : Outcome) :
    isResolution (resolveAndEmit i outcome) = true := by
  rcases outcome with err | (err | resolved) <;> rfl

theorem removedEvent?_resolveAndEmit (i : Item) (outcome : Outcome) :
    removedEvent? (resolveAndEmit i outcome) = none := by
  rcases outcome with err | (err | resolved) <;> rfl

theorem browseFailed?_resolveAndEmit (i : Item) (outcome : Outcome) :
    browseFailed? (resolveAndEmit i outcome) = none := by
  rcases outcome with err | (err | resolved) <;> rfl

/-- The books of a browse of `messages` whose loop runs and whose receiver is alive. -/
structure Accounted (serviceType : String) (messages : List StreamItem) (s : OneType) :
    Prop where
  receiver : s.receiver = true
  looping : s.looping = true
  stream : s.handled ++ s.messages = messages
  spawned : s.spawned = (s.handled.filterMap newItem?).length
  /-- Finished and unfinished resolvers: one for each well-formed `ItemNew`. -/
  tasks : (s.finished.map Prod.fst ++ s.inflight).Perm (tasksOf (s.handled.filterMap newItem?))
  /-- Each finished resolver sent the one event of its own outcome. -/
  resolutions : s.channel.filter isResolution =
    s.finished.map fun f => resolveAndEmit f.1.item f.2
  held : ∀ t ∈ s.inflight, t.id ∈ s.resolvers
  unaborted : s.aborted = []
  removals : s.channel.filterMap removedEvent? =
    (s.handled.filterMap removedItem?).map Item.toRemoved
  failures : s.channel.filterMap browseFailed? =
    (s.handled.filterMap failure?).map (failureError serviceType)
  /-- Nothing else is sent. -/
  nothingElse : ∀ e ∈ s.channel,
    isResolution e = true ∨ (removedEvent? e).isSome = true ∨ (browseFailed? e).isSome = true

theorem accounted_browseOneType (serviceType : String) (messages : List StreamItem) :
    Accounted serviceType messages (browseOneType messages) := by
  constructor <;> simp [browseOneType, tasksOf]

variable {serviceType : String} {messages rest : List StreamItem} {m : StreamItem}
  {s s' : OneType}

/-- A message that is no well-formed `ItemNew` sends the events of its own kind. -/
theorem Accounted.emit (hs : Accounted serviceType messages s) (hm : s.messages = m :: rest)
    (events : List Event) (hn : newItem? m = none) (hres : events.filter isResolution = [])
    (hrem : events.filterMap removedEvent? = ((removedItem? m).map Item.toRemoved).toList)
    (hfail : events.filterMap browseFailed? =
      ((failure? m).map (failureError serviceType)).toList)
    (helse : ∀ e ∈ events, (removedEvent? e).isSome = true ∨ (browseFailed? e).isSome = true) :
    Accounted serviceType messages { s.taken m rest with channel := s.channel ++ events } where
  receiver := hs.receiver
  looping := hs.looping
  stream := by
    rw [← hs.stream, hm]
    simp [OneType.taken]
  spawned := by
    simp only [OneType.taken, filterMap_snoc_none hn]
    exact hs.spawned
  tasks := by
    simp only [OneType.taken, filterMap_snoc_none hn]
    exact hs.tasks
  resolutions := by
    rw [List.filter_append, hs.resolutions, hres]
    exact List.append_nil _
  held := hs.held
  unaborted := hs.unaborted
  removals := by
    simp only [OneType.taken]
    rw [List.filterMap_append, hs.removals, hrem, filterMap_snoc, List.map_append]
    cases removedItem? m <;> rfl
  failures := by
    simp only [OneType.taken]
    rw [List.filterMap_append, hs.failures, hfail, filterMap_snoc, List.map_append]
    cases failure? m <;> rfl
  nothingElse := by
    intro e he
    rcases List.mem_append.mp he with he | he
    · exact hs.nothingElse e he
    · exact .inr (helse e he)

/-- An `ItemNew` adds one task in flight and its handle; the pruning keeps the
handles of the tasks already in flight. -/
theorem Accounted.resolve (hs : Accounted serviceType messages s) (hm : s.messages = m :: rest)
    {i : Item} (hn : newItem? m = some i) (hr : removedItem? m = none) (hf : failure? m = none) :
    Accounted serviceType messages { s.taken m rest with
      spawned := s.spawned + 1
      inflight := s.inflight ++ [⟨s.spawned, i⟩]
      resolvers := s.resolvers.filter (fun id => !s.isFinished id) ++ [s.spawned] } where
  receiver := hs.receiver
  looping := hs.looping
  stream := by
    rw [← hs.stream, hm]
    simp [OneType.taken]
  spawned := by
    simp only [OneType.taken, filterMap_snoc_some hn, List.length_append, hs.spawned]
    rfl
  tasks := by
    simp only [OneType.taken, filterMap_snoc_some hn]
    rw [tasksOf_snoc, ← List.append_assoc, ← hs.spawned]
    exact hs.tasks.append_right _
  resolutions := hs.resolutions
  held := by
    intro t ht
    rcases List.mem_append.mp ht with ht | ht
    · have hlive : s.isFinished t.id = false := List.all_eq_false.mpr ⟨t, ht, by simp⟩
      exact List.mem_append_left _ (List.mem_filter.mpr ⟨hs.held t ht, by simp [hlive]⟩)
    · rw [List.mem_singleton.mp ht]
      exact List.mem_append_right _ (List.mem_singleton_self _)
  unaborted := hs.unaborted
  removals := by
    simp only [OneType.taken, filterMap_snoc_none hr]
    exact hs.removals
  failures := by
    simp only [OneType.taken, filterMap_snoc_none hf]
    exact hs.failures
  nothingElse := hs.nothingElse

/-- A resolver moves from the tasks in flight to the finished ones, and its
event to the channel. -/
theorem Accounted.finish (hs : Accounted serviceType messages s) {t : Task}
    (ht : t ∈ s.inflight) (outcome : Outcome) :
    Accounted serviceType messages { s with
      inflight := s.inflight.erase t
      finished := s.finished ++ [(t, outcome)]
      channel := s.channel ++ [resolveAndEmit t.item outcome] } where
  receiver := hs.receiver
  looping := hs.looping
  stream := hs.stream
  spawned := hs.spawned
  tasks := by
    have hmove : (s.finished.map Prod.fst ++ [t] ++ s.inflight.erase t).Perm
        (s.finished.map Prod.fst ++ s.inflight) := by
      rw [List.append_assoc]
      exact (List.perm_cons_erase ht).symm.append_left _
    simpa using hmove.trans hs.tasks
  resolutions := by
    simp [List.filter_append, isResolution_resolveAndEmit, hs.resolutions]
  held := fun u hu => hs.held u (List.mem_of_mem_erase hu)
  unaborted := hs.unaborted
  removals := by
    rw [filterMap_snoc_none (removedEvent?_resolveAndEmit t.item outcome)]
    exact hs.removals
  failures := by
    rw [filterMap_snoc_none (browseFailed?_resolveAndEmit t.item outcome)]
    exact hs.failures
  nothingElse := by
    intro e he
    rcases List.mem_append.mp he with he | he
    · exact hs.nothingElse e he
    · rw [List.mem_singleton.mp he]
      exact .inl (isResolution_resolveAndEmit t.item outcome)

/-- Steps before the stream ends and with a live receiver keep the books. -/
theorem Accounted.step (hs : Accounted serviceType messages s) {l : OneType.Label}
    (hend : l ≠ .streamEnd) (hdrop : l ≠ .dropReceiver)
    (h : OneType.step serviceType s l = some s') : Accounted serviceType messages s' := by
  rcases OneType.step_cases hs.receiver h with
    ⟨m, rest, -, hm, -, rfl⟩ | ⟨t, outcome, -, ht, rfl⟩ | ⟨rfl, -⟩ | ⟨-, hl, -⟩ | ⟨rfl, -⟩
  · rcases OneType.handle_taken_cases hs.receiver m rest with
      ⟨i, hn, hr, hf, he⟩ | ⟨i, hn, hr, hf, he⟩ | ⟨err, hn, hr, hf, he⟩ | ⟨hn, hr, hf, he⟩
    · rw [he]
      exact hs.resolve hm hn hr hf
    · rw [he]
      exact hs.emit hm [.ok (.removed i.toRemoved)] hn rfl (by rw [hr]; rfl) (by rw [hf]; rfl)
        (by simp [removedEvent?])
    · rw [he]
      exact hs.emit hm [.error (failureError serviceType err)] hn rfl (by rw [hr]; rfl)
        (by rw [hf]; rfl) (by simp [browseFailed?, failureError])
    · have hskip := hs.emit hm [] hn rfl (by rw [hr]; rfl) (by rw [hf]; rfl) (by simp)
      simp only [List.append_nil] at hskip
      rw [he]
      exact hskip
  · exact hs.finish (List.mem_of_find?_eq_some ht) outcome
  · exact absurd rfl hend
  · cases hs.looping.symm.trans hl
  · exact absurd rfl hdrop

/-- **No event of an instance browse is lost or duplicated**, in any
interleaving of the messages with the resolvers. -/
theorem browseOneType_accounted (serviceType : String) (messages : List StreamItem)
    (labels : List OneType.Label) (hend : .streamEnd ∉ labels) (hdrop : .dropReceiver ∉ labels)
    {s : OneType}
    (h : run (OneType.step serviceType) (browseOneType messages) labels = some s) :
    Accounted serviceType messages s := by
  refine run_guarded (P := fun _ => Accounted serviceType messages)
    (G := fun _ _ l => l ≠ .streamEnd ∧ l ≠ .dropReceiver)
    (accounted_browseOneType serviceType messages) ?_ h ?_
  · intro _ t l u ht hl hstep
    exact ht.step hl.1 hl.2 hstep
  · intro pre l post u hlabels _
    have hmem : l ∈ labels := by simp [hlabels]
    refine ⟨?_, ?_⟩
    · rintro rfl
      exact hend hmem
    · rintro rfl
      exact hdrop hmem

/-- A printer on interface 2 over IPv4. -/
def printer : Item := ⟨2, 0, "Printer", "_ipp._tcp", "local", 0⟩

/-- The signals of an item. -/
def itemNew (i : Item) : StreamItem := .ok ⟨some "ItemNew", .item i⟩

def itemRemove (i : Item) : StreamItem := .ok ⟨some "ItemRemove", .item i⟩

theorem browseOneType_accounted_example :
    ∃ s, Accounted "_ipp._tcp"
      [itemNew printer, .error "reset", itemRemove printer, .ok ⟨some "ItemNew", .other⟩] s ∧
      s.channel = [.ok (.removed printer.toRemoved),
        .error (.resolveFailed "Printer" "timeout")] :=
  ⟨_, browseOneType_accounted _ _
    [.message, .message, .message, .finish 0 (.reply (.error "timeout"))]
    (by decide) (by decide) rfl, rfl⟩

end MdnsSdDiscovery.Linux
