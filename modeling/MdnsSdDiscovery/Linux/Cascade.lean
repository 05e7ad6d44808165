import MdnsSdDiscovery.Linux.Events

/-!
# One browse for all types and its children

`browse_all_types` after a successful `ServiceTypeBrowserNew`, as a step function:
the loop handles the next message, a child task ends, the stream ends, or the
browser is freed and the handles are dropped.

The children are the distinct pairs that the well-formed `ItemNew`s announce, in
the order of their first announcement and with the interface of the caller
(`browseAllTypes_spawned`).
-/

namespace MdnsSdDiscovery.Linux

open Runs

/-! ## What the messages ask for -/

/-- A well-formed `ItemNew` of a type. -/
def newType? : StreamItem → Option TypeItem
  | .ok ⟨some "ItemNew", .typeItem i⟩ => some i
  | _ => none

/-- The pair that a type is remembered by. -/
def TypeItem.pair (i : TypeItem) : String × String := (i.serviceType, i.domain)

/-- The error that reports a failure of the browser for types. -/
def typeFailureError (err : String) : ServiceBrowseError :=
  .browseFailed s!"service type browser failure: {err}"

/-- **The loop body by the kind of message**: a message is a well-formed `ItemNew`
of a new pair or of one that was seen, a `Failure`, or skipped. -/
theorem browseAllTypesMessage_cases (seen : Finset (String × String)) (m : StreamItem) :
    (∃ i, newType? m = some i ∧ failure? m = none ∧ i.pair ∉ seen ∧
      browseAllTypesMessage seen m = .browse i.serviceType i.domain) ∨
    (∃ i, newType? m = some i ∧ failure? m = none ∧ i.pair ∈ seen ∧
      browseAllTypesMessage seen m = .skip) ∨
    (∃ err, newType? m = none ∧ failure? m = some err ∧
      browseAllTypesMessage seen m = .fail (typeFailureError err)) ∨
    (newType? m = none ∧ failure? m = none ∧ browseAllTypesMessage seen m = .skip) := by
  cases m with
  | error e => exact .inr (.inr (.inr ⟨rfl, rfl, rfl⟩))
  | ok msg =>
    obtain ⟨member, body⟩ := msg
    cases member with
    | none => exact .inr (.inr (.inr ⟨rfl, rfl, rfl⟩))
    | some name =>
      by_cases hn : name = "ItemNew"
      · subst hn
        cases body with
        | typeItem i =>
          by_cases hseen : i.pair ∈ seen
          · exact .inr (.inl ⟨i, rfl, rfl, hseen, if_pos hseen⟩)
          · exact .inl ⟨i, rfl, rfl, hseen, if_neg hseen⟩
        | _ => exact .inr (.inr (.inr ⟨rfl, rfl, rfl⟩))
      by_cases hf : name = "Failure"
      · subst hf
        exact .inr (.inr (.inl ⟨_, rfl, rfl, rfl⟩))
      · right; right; right
        refine ⟨?_, ?_, ?_⟩
        · simp [newType?, hn]
        · simp [failure?, hf]
        · simp [browseAllTypesMessage, hn, hf]

/-! ## The machine -/

/-- The arguments of a spawned `browse_one_type`. -/
structure Child where
  interface : Int32
  serviceType : String
  domain : String
  deriving DecidableEq, Repr

structure AllTypes where
  interface : Int32
  messages : List StreamItem
  handled : List StreamItem := []
  seen : Finset (String × String) := ∅
  spawned : List Child := []
  /-- The children that have not ended, by their number. -/
  running : List Nat := []
  /-- The abort handles held in `child_browsers`. -/
  childBrowsers : List Nat := []
  aborted : List Nat := []
  /-- What the loop has handed to `tx.send`. -/
  sent : List Event := []
  looping : Bool := true
  returned : Bool := false
  deriving DecidableEq

/-- `browse_all_types` before its first message. -/
def browseAllTypes (interface : Int32) (messages : List StreamItem) : AllTypes :=
  { interface, messages }

namespace AllTypes

/-- `messages.next()` -/
def taken (s : AllTypes) (m : StreamItem) (rest : List StreamItem) : AllTypes :=
  { s with messages := rest, handled := s.handled ++ [m] }

/-- The body of the loop. -/
def handle (s : AllTypes) : AllTypesEffect → AllTypes
  | .skip => s
  | .browse serviceType domain =>
    { s with
      seen := insert (serviceType, domain) s.seen
      spawned := s.spawned ++ [⟨s.interface, serviceType, domain⟩]
      running := s.running ++ [s.spawned.length]
      childBrowsers := s.childBrowsers ++ [s.spawned.length] }
  | .fail e => { s with sent := s.sent ++ [.error e] }

/-- The end of the function, after `type_browser.free()`: `child_browsers` is
dropped, which aborts the children that have not ended. -/
def freed (s : AllTypes) : AllTypes :=
  { s with
    running := s.running.filter (· ∉ s.childBrowsers)
    aborted := s.aborted ++ s.running.filter (· ∈ s.childBrowsers)
    childBrowsers := []
    returned := true }

inductive Label where
  | message
  /-- Child `id` returns. -/
  | childEnds (id : Nat)
  | streamEnd
  | freed
  deriving DecidableEq, Repr

def step (s : AllTypes) : Label → Option AllTypes
  | .message =>
    match s.messages with
    | m :: rest =>
      if s.looping then some ((s.taken m rest).handle (browseAllTypesMessage s.seen m)) else none
    | [] => none
  | .childEnds id => if id ∈ s.running then some { s with running := s.running.erase id } else none
  | .streamEnd =>
    if s.looping ∧ s.messages = [] then some { s with looping := false } else none
  | .freed => if s.looping = false ∧ s.returned = false then some s.freed else none

/-! ## The books of the loop -/

/-- The children of a list of announced pairs. -/
def childrenOf (interface : Int32) (pairs : List (String × String)) : List Child :=
  pairs.eraseDups.map fun p => ⟨interface, p.1, p.2⟩

/-- The pairs that the well-formed `ItemNew`s of the messages announce. -/
def announcedPairs (messages : List StreamItem) : List (String × String) :=
  (messages.filterMap newType?).map TypeItem.pair

/-- What holds of the loop until its handles are dropped. -/
structure Books (interface : Int32) (messages : List StreamItem) (s : AllTypes) : Prop where
  scope : s.interface = interface
  stream : s.handled ++ s.messages = messages
  seen : ∀ p, p ∈ s.seen ↔ p ∈ announcedPairs s.handled
  spawned : s.spawned = childrenOf interface (announcedPairs s.handled)
  held : s.childBrowsers = List.range s.spawned.length
  unaborted : s.aborted = []
  failures : s.sent = ((s.handled.filterMap failure?).map fun err => .error (typeFailureError err))

theorem books_browseAllTypes (interface : Int32) (messages : List StreamItem) :
    Books interface messages (browseAllTypes interface messages) := by
  constructor <;> simp [browseAllTypes, announcedPairs, childrenOf]

section
variable {interface : Int32} {messages rest : List StreamItem} {m : StreamItem} {s s' : AllTypes}

/-- A pair joins the distinct pairs the first time it is announced. -/
theorem eraseDups_snoc {α : Type*} [BEq α] [LawfulBEq α] (as : List α) (a : α) :
    (as ++ [a]).eraseDups = as.eraseDups ++ if a ∈ as then [] else [a] := by
  rw [List.eraseDups_append]
  by_cases h : a ∈ as
  · simp [h, List.removeAll]
  · simp [h, List.removeAll, List.eraseDups_cons]

theorem announcedPairs_snoc (handled : List StreamItem) (m : StreamItem) :
    announcedPairs (handled ++ [m]) =
      announcedPairs handled ++ ((newType? m).map TypeItem.pair).toList := by
  rw [announcedPairs, filterMap_snoc, List.map_append]
  cases newType? m <;> rfl

/-- A message that neither starts a child nor reports a failure. -/
theorem Books.skip (hs : Books interface messages s) (hm : s.messages = m :: rest)
    (hnew : ∀ i, newType? m = some i → i.pair ∈ s.seen) (hfail : failure? m = none) :
    Books interface messages (s.taken m rest) where
  scope := hs.scope
  stream := by
    rw [← hs.stream, hm]
    simp [taken]
  seen := by
    intro p
    simp only [taken, announcedPairs_snoc, List.mem_append, ← hs.seen]
    refine (or_iff_left_of_imp fun hp => ?_).symm
    cases hi : newType? m with
    | none => simp [hi] at hp
    | some i =>
      simp only [hi, Option.map_some, Option.toList_some, List.mem_singleton] at hp
      exact hp ▸ hnew i hi
  spawned := by
    simp only [taken, announcedPairs_snoc, hs.spawned]
    cases hi : newType? m with
    | none => simp
    | some i =>
      have hmem : i.pair ∈ announcedPairs s.handled := (hs.seen _).mp (hnew i hi)
      simp [childrenOf, eraseDups_snoc, hmem]
  held := hs.held
  unaborted := hs.unaborted
  failures := by
    simp only [taken, filterMap_snoc_none hfail]
    exact hs.failures

/-- A new pair starts one child, whose handle is held. -/
theorem Books.browse (hs : Books interface messages s) (hm : s.messages = m :: rest) {i : TypeItem}
    (hi : newType? m = some i) (hfail : failure? m = none) (hnew : i.pair ∉ s.seen) :
    Books interface messages ((s.taken m rest).handle (.browse i.serviceType i.domain)) where
  scope := hs.scope
  stream := by
    rw [← hs.stream, hm]
    simp [taken, handle]
  seen := by
    intro p
    simp only [taken, handle, announcedPairs_snoc, hi, Finset.mem_insert, hs.seen, List.mem_append,
      Option.map_some, Option.toList_some, List.mem_singleton]
    exact or_comm
  spawned := by
    have hmem : i.pair ∉ announcedPairs s.handled := fun h => hnew ((hs.seen _).mpr h)
    simp only [taken, handle, announcedPairs_snoc, hi, hs.spawned, hs.scope, childrenOf,
      Option.map_some, Option.toList_some, eraseDups_snoc, if_neg hmem, List.map_append]
    rfl
  held := by
    simp only [taken, handle, hs.held, List.length_append, List.length_singleton, List.range_succ]
  unaborted := hs.unaborted
  failures := by
    simp only [taken, handle, filterMap_snoc_none hfail]
    exact hs.failures

/-- A failure is reported. -/
theorem Books.fail (hs : Books interface messages s) (hm : s.messages = m :: rest) {err : String}
    (hnew : newType? m = none) (hfail : failure? m = some err) :
    Books interface messages ((s.taken m rest).handle (.fail (typeFailureError err))) where
  scope := hs.scope
  stream := by
    rw [← hs.stream, hm]
    simp [taken, handle]
  seen := by
    intro p
    simp only [taken, handle, announcedPairs_snoc, hnew, Option.map_none, Option.toList_none,
      List.append_nil]
    exact hs.seen p
  spawned := by
    simp only [taken, handle, announcedPairs_snoc, hnew, Option.map_none, Option.toList_none,
      List.append_nil]
    exact hs.spawned
  held := hs.held
  unaborted := hs.unaborted
  failures := by
    simp only [taken, handle, filterMap_snoc_some hfail, List.map_append, hs.failures]
    rfl

theorem books_message (hs : Books interface messages s) (hm : s.messages = m :: rest) :
    Books interface messages ((s.taken m rest).handle (browseAllTypesMessage s.seen m)) := by
  rcases browseAllTypesMessage_cases s.seen m with ⟨i, hi, hfail, hnew, heq⟩ |
    ⟨i, hi, hfail, hseen, heq⟩ | ⟨err, hnew, hfail, heq⟩ | ⟨hnew, hfail, heq⟩
  · rw [heq]
    exact hs.browse hm hi hfail hnew
  · rw [heq]
    refine hs.skip hm ?_ hfail
    intro j hj
    exact Option.some.inj (hi.symm.trans hj) ▸ hseen
  · rw [heq]
    exact hs.fail hm hnew hfail
  · rw [heq]
    refine hs.skip hm ?_ hfail
    intro j hj
    cases hnew.symm.trans hj

theorem books_step {l : Label} (hs : Books interface messages s) (hl : l ≠ .freed)
    (h : step s l = some s') : Books interface messages s' := by
  cases l with
  | message =>
    simp only [step] at h
    split at h
    · rename_i m rest hm
      split at h
      · cases h
        exact books_message hs hm
      · cases h
    · cases h
  | childEnds id =>
    simp only [step] at h
    split at h
    · cases h
      exact ⟨hs.scope, hs.stream, hs.seen, hs.spawned, hs.held, hs.unaborted, hs.failures⟩
    · cases h
  | streamEnd =>
    simp only [step] at h
    split at h
    · cases h
      exact ⟨hs.scope, hs.stream, hs.seen, hs.spawned, hs.held, hs.unaborted, hs.failures⟩
    · cases h
  | freed => exact absurd rfl hl

theorem handle_looping (s : AllTypes) (effect : AllTypesEffect) :
    (s.handle effect).looping = s.looping := by
  cases effect <;> rfl

/-- Only the end of the stream ends the loop. -/
theorem looping_step {l : Label} (hl : l ≠ .streamEnd) (h : step s l = some s') :
    s'.looping = s.looping := by
  cases l with
  | message =>
    simp only [step] at h
    split at h
    · split at h
      · cases h
        exact handle_looping _ _
      · cases h
    · cases h
  | childEnds id =>
    simp only [step] at h
    split at h
    · cases h
      rfl
    · cases h
  | streamEnd => exact absurd rfl hl
  | freed =>
    simp only [step] at h
    split at h
    · cases h
      rfl
    · cases h

end

end AllTypes

open AllTypes

/-- **Every pair gets one child, in the order of the announcements**, as long as
the browse runs. -/
theorem browseAllTypes_spawned (interface : Int32) (messages : List StreamItem)
    (labels : List AllTypes.Label) (hfreed : .freed ∉ labels) {s : AllTypes}
    (h : run AllTypes.step (browseAllTypes interface messages) labels = some s) :
    s.handled ++ s.messages = messages ∧
    s.spawned = childrenOf interface (announcedPairs s.handled) ∧
    s.childBrowsers = List.range s.spawned.length ∧ s.aborted = [] ∧
    s.sent = (s.handled.filterMap failure?).map (fun err => .error (typeFailureError err)) ∧
    (.streamEnd ∉ labels → s.looping = true) := by
  have hrun : Books interface messages s ∧ (.streamEnd ∉ labels → s.looping = true) := by
    refine run_guarded
      (P := fun ls t => Books interface messages t ∧ (.streamEnd ∉ ls → t.looping = true))
      (G := fun _ _ l => l ≠ .freed) ⟨books_browseAllTypes interface messages, fun _ => rfl⟩ ?_ h ?_
    · rintro ls t l t' ⟨ht, hlooping⟩ hl hstep
      refine ⟨books_step ht hl hstep, ?_⟩
      intro hend
      rw [List.mem_append, List.mem_singleton, not_or] at hend
      exact (looping_step (Ne.symm hend.2) hstep).trans (hlooping hend.1)
    · rintro pre l post t rfl - rfl
      exact hfreed (by simp)
  obtain ⟨hs, hlooping⟩ := hrun
  exact ⟨hs.stream, hs.spawned, hs.held, hs.unaborted, hs.failures, hlooping⟩

/-- A type on two interfaces, removed and announced again, another type, and
messages that announce nothing. -/
def announcements : List StreamItem :=
  [.ok ⟨some "ItemNew", .typeItem ⟨3, 0, "_ipp._tcp", "local", 0⟩⟩, .error "disconnected",
    .ok ⟨some "ItemNew", .text "malformed"⟩,
    .ok ⟨some "ItemNew", .typeItem ⟨4, 1, "_ipp._tcp", "local", 0⟩⟩,
    .ok ⟨some "ItemRemove", .typeItem ⟨3, 0, "_ipp._tcp", "local", 0⟩⟩,
    .ok ⟨some "Failure", .text "daemon gone"⟩,
    .ok ⟨some "ItemNew", .typeItem ⟨3, 0, "_ipp._tcp", "local", 0⟩⟩,
    .ok ⟨some "ItemNew", .typeItem ⟨3, 0, "_http._tcp", "example.com", 0⟩⟩]

theorem browseAllTypes_spawned_example :
    ∃ s, run AllTypes.step (browseAllTypes 2 announcements)
        (List.replicate 8 .message ++ [.childEnds 0]) = some s ∧
      s.spawned = [⟨2, "_ipp._tcp", "local"⟩, ⟨2, "_http._tcp", "example.com"⟩] ∧
      s.spawned = childrenOf 2 (announcedPairs s.handled) ∧ s.looping = true := by
  refine ⟨_, rfl, rfl, ?_⟩
  have hspawned := browseAllTypes_spawned 2 announcements
    (List.replicate 8 .message ++ [.childEnds 0]) (by decide) rfl
  exact ⟨hspawned.2.1, hspawned.2.2.2.2.2 (by decide)⟩

end MdnsSdDiscovery.Linux
