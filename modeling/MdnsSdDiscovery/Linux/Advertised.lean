import MdnsSdDiscovery.Linux.Events

/-!
# The event stream and the advertised set

`BrowseEvent` is documented as a change of the set of discovered services, and
`Removed` as the end of a service seen before.  Two results say when the stream
of one instance browse keeps that promise:

* `notResurrected_iff`: no instance comes back after its removal exactly when
  no resolver of it succeeds after its removal was handled; the loop does not
  wait for, nor cancel, the resolver of a removed instance;
* `announced_iff`: with every resolver settled before the next signal, the
  stream tracks the live entries exactly when each removed entry was the last
  of its identity; the protocol that tells two entries of one identity apart is
  dropped.
-/

namespace MdnsSdDiscovery.Linux

open Runs Presence OneType

/-! ## Resolvers that finish late -/

/-- What a message says about an instance. -/
def notification (m : StreamItem) : Option (Change RemovedService) :=
  match newItem? m with
  | some i => some (.insert i.toRemoved)
  | none => (removedItem? m).map fun i => .delete i.toRemoved

def notifications (messages : List StreamItem) : List (Change RemovedService) :=
  messages.filterMap notification

/-- An instance whose last notification is a removal has `Removed` as the last
event of its identity. -/
def NotResurrected (s : OneType) : Prop :=
  ∀ id, latest (notifications s.handled) id = some (.delete id) →
    latest (changes s.channel) id = some (.delete id)

/-- A resolver that succeeds does so while its instance is not removed. -/
def Timely (s : OneType) : Label → Prop
  | .finish id (.reply (.ok _)) => ∀ t, s.inflight.find? (·.id = id) = some t →
      latest (notifications s.handled) t.item.toRemoved ≠ some (.delete t.item.toRemoved)
  | _ => True

/-- Every successful reply carries the fields it was asked for. -/
def RepliesEcho (s : OneType) : Prop :=
  ∀ t r, (t, Outcome.reply (.ok r)) ∈ s.finished → Echoes t.item r

section
variable {serviceType : String} {s s' : OneType} {l : Label}

theorem notifications_new {m : StreamItem} {i : Item} (h : newItem? m = some i)
    (ms : List StreamItem) :
    notifications (ms ++ [m]) = notifications ms ++ [.insert i.toRemoved] :=
  filterMap_snoc_some (by simp [notification, h]) ms

theorem notifications_removed {m : StreamItem} {i : Item} (hn : newItem? m = none)
    (h : removedItem? m = some i) (ms : List StreamItem) :
    notifications (ms ++ [m]) = notifications ms ++ [.delete i.toRemoved] :=
  filterMap_snoc_some (by simp [notification, hn, h]) ms

theorem notifications_other {m : StreamItem} (hn : newItem? m = none)
    (h : removedItem? m = none) (ms : List StreamItem) :
    notifications (ms ++ [m]) = notifications ms :=
  filterMap_snoc_none (by simp [notification, hn, h]) ms

/-- A resolver that fails changes nothing that a consumer holds. -/
theorem changes_resolveAndEmit (i : Item) (outcome : Outcome) :
    (∃ r, outcome = .reply (.ok r) ∧
      changes [resolveAndEmit i outcome] = [.insert (resolvedToService r).identity]) ∨
    (∀ r, outcome ≠ .reply (.ok r)) ∧ changes [resolveAndEmit i outcome] = [] := by
  rcases outcome with err | (err | r)
  · exact .inr ⟨fun r => Outcome.noConfusion, rfl⟩
  · exact .inr ⟨by rintro r ⟨⟩, rfl⟩
  · exact .inl ⟨r, rfl, rfl⟩

/-- Handling a message resurrects nothing: a removal is on the channel at once. -/
theorem NotResurrected.message (hs : NotResurrected s) (hrecv : s.receiver = true)
    (m : StreamItem) (rest : List StreamItem) :
    NotResurrected ((s.taken m rest).handle (browseOneTypeMessage serviceType m)) := by
  intro id
  rcases handle_taken_cases hrecv m rest with
    ⟨i, hn, hr, -, he⟩ | ⟨i, hn, hr, -, he⟩ | ⟨err, hn, hr, -, he⟩ | ⟨hn, hr, -, he⟩ <;>
    rw [he] <;> dsimp only [taken]
  · rw [notifications_new hn, latest_insert]
    intro hlast
    by_cases hid : i.toRemoved = id
    · rw [if_pos hid] at hlast
      cases hlast
    · rw [if_neg hid] at hlast
      exact hs id hlast
  · rw [notifications_removed hn hr, changes_append, changes_removed, latest_delete, latest_delete]
    intro hlast
    by_cases hid : i.toRemoved = id
    · rw [if_pos hid, hid]
    · rw [if_neg hid] at hlast ⊢
      exact hs id hlast
  · rw [notifications_other hn hr, changes_append, changes_error, List.append_nil]
    exact hs id
  · rw [notifications_other hn hr]
    exact hs id

/-- **A resolver that finishes in time resurrects nothing**, and one that
finishes late resurrects its instance. -/
theorem notResurrected_finish_iff (hs : NotResurrected s) {t : Task}
    (ht : s.inflight.find? (·.id = t.id) = some t) {outcome : Outcome}
    (hecho : ∀ r, outcome = .reply (.ok r) → Echoes t.item r) :
    NotResurrected { s with
      inflight := s.inflight.erase t
      finished := s.finished ++ [(t, outcome)]
      channel := s.channel ++ [resolveAndEmit t.item outcome] } ↔
      Timely s (.finish t.id outcome) := by
  rcases changes_resolveAndEmit t.item outcome with ⟨r, rfl, hc⟩ | ⟨hfail, hc⟩
  · have hid := identity_resolvedToService (hecho r rfl)
    constructor
    · intro h u hu
      obtain rfl : t = u := Option.some.inj (ht.symm.trans hu)
      intro hlast
      have := h _ hlast
      dsimp only at this
      rw [changes_append, hc, hid, latest_insert, if_pos rfl] at this
      cases this
    · intro h id hlast
      have htimely := h t ht
      dsimp only at hlast ⊢
      rw [changes_append, hc, hid, latest_insert]
      by_cases hk : t.item.toRemoved = id
      · exact absurd (hk ▸ hlast) htimely
      · exact (if_neg hk).trans (hs id hlast)
  · have htimely : Timely s (.finish t.id outcome) := by
      rcases outcome with err | (err | r)
      · trivial
      · trivial
      · exact absurd rfl (hfail r)
    refine ⟨fun _ => htimely, fun _ id hlast => ?_⟩
    dsimp only
    rw [changes_append, hc, List.append_nil]
    exact hs id hlast

/-- **The steps that resurrect nothing are the timely ones.** -/
theorem notResurrected_step_iff (hs : NotResurrected s) (hrecv : s.receiver = true)
    (hdrop : l ≠ .dropReceiver) (h : step serviceType s l = some s') (hecho : RepliesEcho s') :
    NotResurrected s' ↔ Timely s l := by
  rcases step_cases hrecv h with
    ⟨m, rest, rfl, -, -, rfl⟩ | ⟨t, outcome, rfl, ht, rfl⟩ | ⟨rfl, -, -, rfl⟩ |
    ⟨rfl, -, rfl⟩ | ⟨rfl, -⟩
  · exact ⟨fun _ => trivial, fun _ => hs.message hrecv m rest⟩
  · refine notResurrected_finish_iff hs ht ?_
    rintro r rfl
    exact hecho t r (List.mem_append_right _ (List.mem_singleton_self _))
  · exact ⟨fun _ => trivial, fun _ => hs⟩
  · exact ⟨fun _ => trivial, fun _ => hs⟩
  · exact absurd rfl hdrop

/-- A resolver that has finished stays finished. -/
theorem finished_subset_step (hrecv : s.receiver = true) (hdrop : l ≠ .dropReceiver)
    (h : step serviceType s l = some s') :
    s'.receiver = true ∧ s.finished ⊆ s'.finished := by
  rcases step_cases hrecv h with
    ⟨m, rest, rfl, -, -, rfl⟩ | ⟨t, outcome, rfl, ht, rfl⟩ | ⟨rfl, -, -, rfl⟩ |
    ⟨rfl, -, rfl⟩ | ⟨rfl, -⟩
  · rcases handle_taken_cases hrecv m rest with
      ⟨i, -, -, -, he⟩ | ⟨i, -, -, -, he⟩ | ⟨err, -, -, -, he⟩ | ⟨-, -, -, he⟩ <;>
      rw [he] <;> exact ⟨hrecv, List.Subset.refl _⟩
  · exact ⟨hrecv, List.subset_append_left _ _⟩
  · exact ⟨hrecv, List.Subset.refl _⟩
  · exact ⟨hrecv, List.Subset.refl _⟩
  · exact absurd rfl hdrop

theorem finished_subset_run {labels : List Label} (hdrop : .dropReceiver ∉ labels)
    (hrecv : s.receiver = true) (h : run (step serviceType) s labels = some s') :
    s'.receiver = true ∧ s.finished ⊆ s'.finished := by
  refine run_guarded (P := fun _ u => u.receiver = true ∧ s.finished ⊆ u.finished)
    (G := fun _ _ l => l ≠ .dropReceiver) ⟨hrecv, List.Subset.refl _⟩ ?_ h ?_
  · rintro _ t l u ⟨ht, hsub⟩ hl hstep
    obtain ⟨hu, hsub'⟩ := finished_subset_step ht hl hstep
    exact ⟨hu, List.Subset.trans hsub hsub'⟩
  · rintro pre l post u hlabels _ rfl
    exact hdrop (by simp [hlabels])

/-- Where the replies echo in the end, they do all along the run. -/
theorem repliesEcho_along {labels pre : List Label} {u : OneType}
    (hdrop : .dropReceiver ∉ labels) (hrecv : s.receiver = true)
    (h : run (step serviceType) s labels = some s') (hecho : RepliesEcho s')
    (hpre : pre <+: labels) (hu : run (step serviceType) s pre = some u) :
    u.receiver = true ∧ RepliesEcho u := by
  obtain ⟨post, rfl⟩ := hpre
  have hd : .dropReceiver ∉ pre ∧ .dropReceiver ∉ post := by simpa using hdrop
  have hpost : run (step serviceType) u post = some s' := by
    simpa [run_append, hu] using h
  have hrecv' := (finished_subset_run hd.1 hrecv hu).1
  have hsub := (finished_subset_run hd.2 hrecv' hpost).2
  exact ⟨hrecv', fun t r hf => hecho t r (hsub hf)⟩

end

/-- **No instance is resurrected in a run exactly when every step is timely.** -/
theorem notResurrected_iff (serviceType : String) (messages : List StreamItem)
    (labels : List Label) (hdrop : .dropReceiver ∉ labels) {s : OneType}
    (h : run (step serviceType) (browseOneType messages) labels = some s)
    (hecho : RepliesEcho s) :
    (∀ pre u, pre <+: labels → run (step serviceType) (browseOneType messages) pre = some u →
      NotResurrected u) ↔
    ∀ pre l u, pre ++ [l] <+: labels →
      run (step serviceType) (browseOneType messages) pre = some u → Timely u l := by
  have hstate : ∀ pre u, pre <+: labels →
      run (step serviceType) (browseOneType messages) pre = some u →
      u.receiver = true ∧ RepliesEcho u :=
    fun pre u hpre hu => repliesEcho_along hdrop rfl h hecho hpre hu
  have hstep : ∀ pre l u u', pre ++ [l] <+: labels →
      run (step serviceType) (browseOneType messages) pre = some u →
      run (step serviceType) (browseOneType messages) (pre ++ [l]) = some u' →
      NotResurrected u → (NotResurrected u' ↔ Timely u l) := by
    intro pre l u u' hpre hu hu' hs
    have hl : step serviceType u l = some u' := by simpa [run_snoc, hu] using hu'
    have hrecv := (hstate pre u ((List.prefix_append _ _).trans hpre) hu).1
    have hmem : l ∈ labels := hpre.subset (by simp)
    refine notResurrected_step_iff hs hrecv ?_ hl (hstate _ u' hpre hu').2
    rintro rfl
    exact hdrop hmem
  constructor
  · intro hall pre l u hpre hu
    obtain ⟨u', -, hu'⟩ := run_prefix_snoc h hpre hu
    exact (hstep pre l u u' hpre hu hu' (hall pre u ((List.prefix_append _ _).trans hpre) hu)).mp
      (hall _ u' hpre hu')
  · intro htimely pre
    induction pre using List.reverseRecOn with
    | nil =>
      rintro u - hu
      cases hu
      rintro id ⟨⟩
    | append_singleton pre l ih =>
      intro u' hpre hu'
      obtain ⟨u, hu, -⟩ := run_prefix hu'
      exact (hstep pre l u u' hpre hu hu' (ih u ((List.prefix_append _ _).trans hpre) hu)).mpr
        (htimely pre l u hpre hu)

/-- An untimely step does harm in the end: when the resolvers still in flight
all fail, none is left and the removed instance is still found. -/
theorem exists_resurrected {serviceType : String} {s : OneType} (hrecv : s.receiver = true)
    (h : ¬ NotResurrected s) :
    ∃ labels t, run (step serviceType) s labels = some t ∧ t.inflight = [] ∧
      ¬ NotResurrected t := by
  cases hin : s.inflight with
  | nil => exact ⟨[], s, rfl, hin, h⟩
  | cons t ts =>
    let s' : OneType := { s with
      inflight := ts
      finished := s.finished ++ [(t, .noProxy "")]
      channel := s.channel ++ [.error (.resolveFailed t.item.name "")] }
    have hstep : step serviceType s (.finish t.id (.noProxy "")) = some s' := by
      simp [step, hin, send, hrecv, resolveAndEmit, s']
    have hlen : s'.inflight.length < s.inflight.length := by simp [s', hin]
    have hs' : ¬ NotResurrected s' := by
      intro hnot
      refine h fun id hlast => ?_
      have := hnot id hlast
      rwa [changes_append, changes_error, List.append_nil] at this
    obtain ⟨labels, u, hrun, hnil, hu⟩ := exists_resurrected (s := s') hrecv hs'
    exact ⟨.finish t.id (.noProxy "") :: labels, u, by rw [run_cons, hstep]; exact hrun, hnil, hu⟩
termination_by s.inflight.length

/-- A reply that echoes. -/
def replyTo (i : Item) : ResolvedService :=
  ⟨i.iface, i.protocol, i.name, i.serviceType, i.domain, "host.local", 0, "10.0.0.7", 631, [], 0⟩

theorem echoes_replyTo (i : Item) : Echoes i (replyTo i) := ⟨rfl, rfl, rfl, rfl⟩

/-- **A resurrected service**: the resolver of `printer` finishes after the
removal has been handled. -/
theorem printer_resurrected :
    ∃ s, run (step "_ipp._tcp") (browseOneType [itemNew printer, itemRemove printer])
        [.message, .message, .finish 0 (.reply (.ok (replyTo printer)))] = some s ∧
      RepliesEcho s ∧ s.inflight = [] ∧ s.messages = [] ∧
      latest (notifications s.handled) printer.toRemoved = some (.delete printer.toRemoved) ∧
      latest (changes s.channel) printer.toRemoved = some (.insert printer.toRemoved) ∧
      ¬ NotResurrected s := by
  refine ⟨_, rfl, ?_, by decide, by decide, by decide, by decide, ?_⟩
  · intro t r hf
    obtain ⟨rfl, ⟨⟩⟩ := Prod.mk.inj (List.mem_singleton.mp hf)
    exact echoes_replyTo printer
  · intro h
    exact absurd (h printer.toRemoved (by decide)) (by decide)

/-- The same signals with the resolver in time. -/
theorem notResurrected_iff_example :
    ∃ s, run (step "_ipp._tcp") (browseOneType [itemNew printer, itemRemove printer])
        [.message, .finish 0 (.reply (.ok (replyTo printer))), .message] = some s ∧
      NotResurrected s := by
  refine ⟨_, rfl, (notResurrected_iff "_ipp._tcp" [itemNew printer, itemRemove printer]
    [.message, .finish 0 (.reply (.ok (replyTo printer))), .message] (by decide) rfl ?_).mpr ?_ _ _
    List.prefix_rfl rfl⟩
  · intro t r hf
    obtain ⟨rfl, ⟨⟩⟩ := Prod.mk.inj (List.mem_singleton.mp hf)
    exact echoes_replyTo printer
  · let start := browseOneType [itemNew printer, itemRemove printer]
    have hall : ∀ pre l, pre ++ [l] <+:
        [.message, .finish 0 (.reply (.ok (replyTo printer))), .message] →
        ∀ u, run (step "_ipp._tcp") start pre = some u → Timely u l := by
      refine forall_prefix_snoc_cons ?_ (forall_prefix_snoc_cons ?_
        (forall_prefix_snoc_cons ?_ forall_prefix_snoc_nil))
      · exact fun u _ => trivial
      · rintro u ⟨⟩ t ⟨⟩
        decide
      · exact fun u _ => trivial
    exact fun pre l u hpre hu => hall pre l hpre u hu

/-! ## Entries of one identity -/

/-- What Avahi tells entries apart by. -/
structure Entry where
  iface : Int32
  protocol : Int32
  name : String
  serviceType : String
  domain : String
  deriving DecidableEq, Repr

/-- The identity of the events about an entry: the protocol is dropped. -/
def Entry.identity (e : Entry) : RemovedService where
  name := e.name
  serviceType := e.serviceType
  domain := e.domain
  interfaceIndex := avahiInterfaceToIndex e.iface

def Item.entry (i : Item) : Entry := ⟨i.iface, i.protocol, i.name, i.serviceType, i.domain⟩

/-- A well-formed signal about an instance. -/
inductive Signal where
  | new (i : Item)
  | remove (i : Item)
  deriving DecidableEq, Repr

namespace Signal

def message : Signal → StreamItem
  | .new i => itemNew i
  | .remove i => itemRemove i

/-- What a signal makes of the entries. -/
def change : Signal → Change Entry
  | .new i => .insert i.entry
  | .remove i => .delete i.entry

end Signal

/-- The entries that are live after the signals. -/
def liveEntries (signals : List Signal) : Set Entry := replay (signals.map Signal.change)

/-- A signal that a daemon sends while `live` are live: a positive interface
number, and no entry added twice or removed without being live. -/
def Signal.Fits (live : Set Entry) : Signal → Prop
  | .new i => 0 < i.iface ∧ i.entry ∉ live
  | .remove i => 0 < i.iface ∧ i.entry ∈ live

def Valid (signals : List Signal) : Prop :=
  ∀ pre x, pre ++ [x] <+: signals → x.Fits (liveEntries pre)

/-- The schedule in which the resolver of each `ItemNew` replies before the next
signal is handled.  `reply k i` is the reply to the `k`-th of them. -/
def settled (reply : Nat → Item → ResolvedService) : Nat → List Signal → List Label
  | _, [] => []
  | k, .new i :: rest =>
      .message :: .finish k (.reply (.ok (reply k i))) :: settled reply (k + 1) rest
  | k, .remove _ :: rest => .message :: settled reply k rest

/-- The identities whose most recent event is `Found`. -/
def announced (s : OneType) : Set RemovedService :=
  {id | latest (changes s.channel) id = some (.insert id)}

theorem announced_eq (s : OneType) : announced s = replay (changes s.channel) := by
  ext id
  exact (mem_replay_iff (changes s.channel) id).symm

/-- A browse with nothing in flight that has seen `log`. -/
structure Settled (messages : List StreamItem) (k : Nat)
    (log : List (Change RemovedService)) (s : OneType) : Prop where
  messages : s.messages = messages
  spawned : s.spawned = k
  inflight : s.inflight = []
  receiver : s.receiver = true
  looping : s.looping = true
  changes : changes s.channel = log

section
variable {reply : Nat → Item → ResolvedService}

/-- An added entry is announced before the next signal. -/
theorem Settled.new (serviceType : String) (hecho : ∀ k i, Echoes i (reply k i)) {i : Item}
    {rest : List StreamItem} {k : Nat} {log : List (Change RemovedService)} {s : OneType}
    (hs : Settled (itemNew i :: rest) k log s) :
    ∃ t, run (step serviceType) s [.message, .finish k (.reply (.ok (reply k i)))] = some t ∧
      Settled rest (k + 1) (log ++ [.insert i.entry.identity]) t := by
  let spawned : OneType := { s.taken (itemNew i) rest with
    spawned := k + 1
    inflight := [⟨k, i⟩]
    resolvers := s.resolvers.filter (fun id => !s.isFinished id) ++ [k] }
  have hmessage : step serviceType s .message = some spawned := by
    have hhandle : browseOneTypeMessage serviceType (itemNew i) = .resolve i := rfl
    simp only [step, hs.messages, hs.looping, if_true, hhandle, handle, retainUnfinished_eq]
    simp [spawn, spawned, taken, isFinished, hs.spawned, hs.inflight]
  have hfinish : step serviceType spawned (.finish k (.reply (.ok (reply k i)))) =
      some { spawned with
        inflight := []
        finished := s.finished ++ [(⟨k, i⟩, .reply (.ok (reply k i)))]
        channel := s.channel ++ [.ok (.found (resolvedToService (reply k i)))] } := by
    simp [step, spawned, taken, send, hs.receiver, resolveAndEmit]
  refine ⟨_, by rw [run_cons, hmessage, Option.bind_some, run_cons, hfinish]; rfl, ?_⟩
  refine ⟨rfl, rfl, rfl, hs.receiver, hs.looping, ?_⟩
  have hid := identity_resolvedToService (hecho k i)
  dsimp only
  rw [changes_append, changes_found, hs.changes, hid]
  rfl

/-- A removed entry is announced at once. -/
theorem Settled.remove (serviceType : String) {i : Item} {rest : List StreamItem}
    {k : Nat} {log : List (Change RemovedService)} {s : OneType}
    (hs : Settled (itemRemove i :: rest) k log s) :
    ∃ t, run (step serviceType) s [.message] = some t ∧
      Settled rest k (log ++ [.delete i.entry.identity]) t := by
  have hmessage : step serviceType s .message = some { s.taken (itemRemove i) rest with
      channel := s.channel ++ [.ok (.removed i.toRemoved)] } := by
    have hhandle : browseOneTypeMessage serviceType (itemRemove i) = .remove i.toRemoved := rfl
    simp [step, hs.messages, hs.looping, hhandle, handle, taken, send, hs.receiver]
  refine ⟨_, by rw [run_cons, hmessage]; rfl, ?_⟩
  refine ⟨rfl, hs.spawned, hs.inflight, hs.receiver, hs.looping, ?_⟩
  dsimp only
  rw [changes_append, changes_removed, hs.changes]
  rfl

/-- The projected log of the entries is the log of the events. -/
theorem Settled.run (serviceType : String) (hecho : ∀ k i, Echoes i (reply k i))
    (signals : List Signal) {rest : List StreamItem} {k : Nat} {log : List (Change RemovedService)}
    {s : OneType}
    (hs : Settled (signals.map Signal.message ++ rest) k log s) :
    ∃ t k', run (step serviceType) s (settled reply k signals) = some t ∧
      Settled rest k' (log ++ (signals.map Signal.change).map (Change.map Entry.identity)) t := by
  induction signals generalizing k log s with
  | nil => exact ⟨s, k, rfl, by simpa using hs⟩
  | cons x signals ih =>
    cases x with
    | new i =>
      obtain ⟨u, hu, hsu⟩ := hs.new serviceType hecho
      obtain ⟨t, k', ht, hst⟩ := ih hsu
      refine ⟨t, k', run_trans hu ht, ?_⟩
      rw [List.append_assoc] at hst
      exact hst
    | remove i =>
      obtain ⟨u, hu, hsu⟩ := hs.remove serviceType
      obtain ⟨t, k', ht, hst⟩ := ih hsu
      refine ⟨t, k', run_trans hu ht, ?_⟩
      rw [List.append_assoc] at hst
      exact hst

theorem settled_browseOneType (messages : List StreamItem) :
    Settled messages 0 [] (browseOneType messages) := ⟨rfl, rfl, rfl, rfl, rfl, rfl⟩

end

/-- **The stream tracks the live entries after every signal exactly when each
removed entry is the last live one of its identity.** -/
theorem announced_iff (serviceType : String) (signals : List Signal)
    (reply : Nat → Item → ResolvedService) (hecho : ∀ k i, Echoes i (reply k i)) :
    (∀ pre post, signals = pre ++ post → ∃ s,
      run (step serviceType) (browseOneType (signals.map Signal.message)) (settled reply 0 pre) =
        some s ∧ s.messages = post.map Signal.message ∧ s.inflight = []) ∧
    ((∀ pre s, pre <+: signals →
      run (step serviceType) (browseOneType (signals.map Signal.message)) (settled reply 0 pre) =
        some s → announced s = Entry.identity '' liveEntries pre) ↔
    ∀ pre i, pre ++ [.remove i] <+: signals →
      ∀ e ∈ liveEntries pre, e.identity = i.toRemoved → e = i.entry) := by
  have hrun : ∀ pre post, signals = pre ++ post → ∃ s,
      run (step serviceType) (browseOneType (signals.map Signal.message)) (settled reply 0 pre) =
        some s ∧ s.messages = post.map Signal.message ∧ s.inflight = [] ∧
        announced s = replay ((pre.map Signal.change).map (Change.map Entry.identity)) := by
    rintro pre post rfl
    have hstart := settled_browseOneType ((pre ++ post).map Signal.message)
    rw [List.map_append] at hstart
    obtain ⟨s, k, hs, hsettled⟩ := hstart.run serviceType hecho pre
    refine ⟨s, by rw [List.map_append]; exact hs, hsettled.messages, hsettled.inflight, ?_⟩
    rw [announced_eq, hsettled.changes, List.nil_append]
  refine ⟨fun pre post h => ?_, ?_⟩
  · obtain ⟨s, hs, hm, hin, -⟩ := hrun pre post h
    exact ⟨s, hs, hm, hin⟩
  have htrack := replay_map_iff Entry.identity (signals.map Signal.change)
  constructor
  · intro h pre i hpre e he hid
    refine htrack.mp ?_ (pre.map Signal.change) i.entry ?_ e he hid
    · intro log hlog
      obtain ⟨pre, hpre, rfl⟩ := List.prefix_map_iff.mp hlog
      obtain ⟨post, hpost⟩ := hpre
      obtain ⟨s, hs, -, -, hann⟩ := hrun pre post hpost.symm
      rw [← hann]
      exact h pre s ⟨post, hpost⟩ hs
    · have hmap := hpre.map Signal.change
      rw [List.map_append] at hmap
      exact hmap
  · rintro h pre s ⟨post, hpost⟩ hs
    obtain ⟨t, ht, -, -, hann⟩ := hrun pre post hpost.symm
    obtain rfl : s = t := Option.some.inj (hs.symm.trans ht)
    rw [hann]
    refine htrack.mpr ?_ (pre.map Signal.change) ⟨post.map Signal.change, by simp [← hpost]⟩
    intro log k hlog e he hid
    obtain ⟨full, hfull, heq⟩ := List.prefix_map_iff.mp hlog
    obtain ⟨pre', last, rfl, rfl, hlast⟩ := List.map_eq_append_iff.mp heq.symm
    obtain ⟨x, rfl, hx⟩ := List.map_eq_singleton_iff.mp hlast
    cases x with
    | new i => cases hx
    | remove i =>
      obtain rfl : i.entry = k := Change.delete.inj hx
      exact h pre' i hfull e he hid

/-- `printer` over IPv6. -/
def printer6 : Item := { printer with protocol := 1 }

theorem valid_printer : Valid [.new printer, .new printer6, .remove printer] := by
  refine forall_prefix_snoc_cons ⟨by decide, ?_⟩ (forall_prefix_snoc_cons ⟨by decide, ?_⟩
    (forall_prefix_snoc_cons ⟨by decide, ?_⟩ forall_prefix_snoc_nil))
  · exact fun h => absurd ((mem_replay_iff _ _).mp h) (by decide)
  · exact fun h => absurd ((mem_replay_iff _ _).mp h) (by decide)
  · exact (mem_replay_iff _ _).mpr (by decide)

/-- **`Removed` as the last word on an advertised service**: the IPv4 entry
goes, the IPv6 entry stays. -/
theorem printer6_unannounced :
    Valid [.new printer, .new printer6, .remove printer] ∧
    ∃ s, run (step "_ipp._tcp")
        (browseOneType [itemNew printer, itemNew printer6, itemRemove printer])
        (settled (fun _ i => replyTo i) 0 [.new printer, .new printer6, .remove printer]) =
          some s ∧
      printer6.entry ∈ liveEntries [.new printer, .new printer6, .remove printer] ∧
      printer6.entry.identity ∉ announced s ∧
      announced s ≠
        Entry.identity '' liveEntries [.new printer, .new printer6, .remove printer] := by
  have hlive : printer6.entry ∈ liveEntries [.new printer, .new printer6, .remove printer] :=
    (mem_replay_iff _ _).mpr (by decide)
  have hrun : ∃ s, run (step "_ipp._tcp")
      (browseOneType [itemNew printer, itemNew printer6, itemRemove printer])
      (settled (fun _ i => replyTo i) 0 [.new printer, .new printer6, .remove printer]) =
        some s ∧ latest (changes s.channel) printer6.entry.identity =
          some (.delete printer6.entry.identity) :=
    ⟨_, rfl, by decide⟩
  obtain ⟨s, hs, hlast⟩ := hrun
  have hnot : printer6.entry.identity ∉ announced s := by
    intro h
    cases hlast.symm.trans h
  exact ⟨valid_printer, s, hs, hlive, hnot, fun h => hnot (h ▸ ⟨_, hlive, rfl⟩)⟩

/-- The IPv4 entry goes before the IPv6 entry comes. -/
theorem announced_iff_example :
    ∃ s, run (step "_ipp._tcp")
        (browseOneType [itemNew printer, itemRemove printer, itemNew printer6])
        (settled (fun _ i => replyTo i) 0 [.new printer, .remove printer, .new printer6]) =
          some s ∧
      announced s =
        Entry.identity '' liveEntries [.new printer, .remove printer, .new printer6] := by
  have hlast : ∀ pre x, pre ++ [x] <+: [.new printer, .remove printer, .new printer6] →
      ∀ i, x = .remove i → ∀ e ∈ liveEntries pre, e.identity = i.toRemoved → e = i.entry := by
    refine forall_prefix_snoc_cons ?_ (forall_prefix_snoc_cons ?_
      (forall_prefix_snoc_cons ?_ forall_prefix_snoc_nil))
    · rintro i ⟨⟩
    · rintro i ⟨⟩ e he -
      have hsingle : liveEntries [.new printer] = {printer.entry} := by
        simp [liveEntries, replay, Presence.apply, Signal.change]
      rw [hsingle] at he
      exact he
    · rintro i ⟨⟩
  refine ⟨_, rfl, (announced_iff "_ipp._tcp" _ (fun _ i => replyTo i)
    (fun _ i => echoes_replyTo i)).2.mpr ?_ _ _ List.prefix_rfl rfl⟩
  exact fun pre i hpre => hlast pre _ hpre i rfl

end MdnsSdDiscovery.Linux
