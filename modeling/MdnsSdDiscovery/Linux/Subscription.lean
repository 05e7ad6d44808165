import Mathlib.Logic.Function.Basic
import MdnsSdDiscovery.Linux.Ledger
import MdnsSdDiscovery.Linux.ResolveOnce

/-!
# The subscriptions of the browse tasks (`connect_and_subscribe`)

Every browse task opens a connection of its own and subscribes to the signals of its
interface before it asks Avahi for a browser object.  Avahi sends the signals of an
object to the connection that asked for it, from the moment when the object exists;
this may be before the reply is there.  A signal that comes before the stream is
lost.

* `Wire`: what happens on the connection of one task, and `Link.step`;
* `Session`: all tasks of a browse with their connections, in any order;
* `browse_subscribed`: no signal is lost, doubled or out of order, and the tasks do
  what they do when the messages come from anywhere;
* `browse_announced`: what the browse runs once it has taken all signals.
-/

namespace MdnsSdDiscovery.Linux

open Runs Supervision
open Browse (kinds messagesTo)

/-! ## Browser objects -/

/-- `SERVICE_BROWSER_INTERFACE` -/
def serviceBrowserInterface : String := "org.freedesktop.Avahi.ServiceBrowser"

/-- `SERVICE_TYPE_BROWSER_INTERFACE` -/
def serviceTypeBrowserInterface : String := "org.freedesktop.Avahi.ServiceTypeBrowser"

/-- The call that makes a browser object. -/
inductive BrowserNew where
  | serviceTypeBrowserNew (interface protocol : Int32) (domain : String) (flags : UInt32)
  | serviceBrowserNew (interface protocol : Int32) (serviceType domain : String) (flags : UInt32)
  deriving DecidableEq, Repr

/-- The D-Bus interface of the object. -/
def BrowserNew.interfaceName : BrowserNew → String
  | .serviceTypeBrowserNew .. => serviceTypeBrowserInterface
  | .serviceBrowserNew .. => serviceBrowserInterface

/-- The call that a task makes before its loop. -/
def Job.browserNew? : Job → Option BrowserNew
  | .browseAllTypes interface domain _ .connecting =>
    some (.serviceTypeBrowserNew interface avahiProtoUnspec domain 0)
  | .browseOneType interface serviceType domain .connecting =>
    some (.serviceBrowserNew interface avahiProtoUnspec serviceType domain 0)
  | _ => none

/-- The call is the one of such a task. -/
def Kind.Asks : Kind → BrowserNew → Prop
  | .browseAllTypes interface domain, request =>
    request = .serviceTypeBrowserNew interface avahiProtoUnspec domain 0
  | .browseOneType child, request =>
    request = .serviceBrowserNew child.interface avahiProtoUnspec child.serviceType child.domain 0
  | .resolveAndEmit _, _ => False

theorem asks_of_browserNew? {job : Job} {request : BrowserNew}
    (h : job.browserNew? = some request) : job.kind.Asks request := by
  unfold Job.browserNew? at h
  split at h <;> cases h <;> rfl

theorem Kind.Asks.interfaceName_eq {kind : Kind} {request request' : BrowserNew}
    (h : kind.Asks request) (h' : kind.Asks request') :
    request.interfaceName = request'.interfaceName := by
  cases kind with
  | browseAllTypes interface domain => rw [h, h']
  | browseOneType child => rw [h, h']
  | resolveAndEmit item => cases h

/-! ## The connection of a task -/

/-- How far the setup of a task has come. -/
inductive Stage where
  | start
  | connected
  | subscribed
  /-- The proxy is there. -/
  | ready
  | called (request : BrowserNew)
  | opened
  deriving DecidableEq, Repr

/-- The connection of a task, with what Avahi has for it. -/
structure Link where
  stage : Stage := .start
  /-- The interface of the match rule, once there is a message stream. -/
  rule : Option String := none
  /-- What the message stream holds. -/
  queue : List StreamItem := []
  /-- The browser object, once Avahi has handled the call for it. -/
  object : Option BrowserNew := none
  /-- History: the signals of the object. -/
  emitted : List Message := []
  deriving DecidableEq, Repr

/-- What happens on a connection. -/
inductive Wire where
  | connect (result : Except String Unit)
  | subscribe (result : Except String Unit)
  | proxy (result : Except String Unit)
  | call
  /-- Avahi handles the call. -/
  | create
  | reply (result : Except String Unit)
  /-- A signal of the object. -/
  | emit (m : Message)
  /-- The stream gets an error. -/
  | fault (err : String)
  /-- `messages.next()` -/
  | take
  deriving DecidableEq, Repr

/-- A signal reaches the stream when the match rule is about its interface. -/
def Link.receive (link : Link) (interfaceName : String) (m : Message) : Link :=
  { link with
    emitted := link.emitted ++ [m]
    queue := if link.rule = some interfaceName then link.queue ++ [.ok m] else link.queue }

/-- `connect_and_subscribe` and the call after it, for a task that asks for `request?`.
A setup that fails ends the task, and leaves the connection as it is. -/
def Link.step (request? : Option BrowserNew) (link : Link) : Wire → Option Link
  | .connect result =>
    match request?, link.stage, result with
    | some _, .start, .ok () => some { link with stage := .connected }
    | some _, .start, .error _ => some link
    | _, _, _ => none
  | .subscribe result =>
    match request?, link.stage, result with
    | some request, .connected, .ok () =>
      some { link with stage := .subscribed, rule := some request.interfaceName }
    | some _, .connected, .error _ => some link
    | _, _, _ => none
  | .proxy result =>
    match request?, link.stage, result with
    | some _, .subscribed, .ok () => some { link with stage := .ready }
    | some _, .subscribed, .error _ => some link
    | _, _, _ => none
  | .call =>
    match request?, link.stage with
    | some request, .ready => some { link with stage := .called request }
    | _, _ => none
  | .create =>
    match link.stage, link.object with
    | .called request, none => some { link with object := some request }
    | _, _ => none
  | .reply result =>
    match link.stage, link.object, result with
    | .called _, some _, .ok () => some { link with stage := .opened }
    | .called _, _, .error _ => some link
    | _, _, _ => none
  | .emit m => link.object.map fun request => link.receive request.interfaceName m
  | .fault err =>
    if link.rule.isSome then some { link with queue := link.queue ++ [.error err] } else none
  | .take =>
    match link.queue with
    | _ :: rest => some { link with queue := rest }
    | [] => none

/-- What the task takes from its stream. -/
def Wire.takes (link : Link) : Wire → List StreamItem
  | .take => link.queue.head?.toList
  | _ => []

/-- What task `t` makes of it. -/
def Wire.labels (t : Nat) (link : Link) : Wire → List Browse.Label
  | .connect (.error err) => [.setup t (.connectAndSubscribe
      (.dnsSdUnavailable s!"failed to connect to system D-Bus: {err}"))]
  | .subscribe (.error err) => [.setup t (.connectAndSubscribe (.browseFailed err))]
  | .proxy (.error err) => [.setup t (.connectAndSubscribe (.dnsSdUnavailable err))]
  | .reply (.error err) => [.setup t (.browserNew err)]
  | .reply (.ok ()) => [.setup t .done]
  | .take => link.queue.head?.toList.map (.message t)
  | _ => []

/-! ## The system -/

/-- A browse, and the connections of its tasks. -/
structure Session where
  browse : Browse
  links : Nat → Link := fun _ => {}

namespace Session

inductive Label where
  | wire (t : Nat) (w : Wire)
  /-- What does not concern the streams, or that one of them has ended. -/
  | other (l : Browse.Label)
  deriving DecidableEq, Repr

/-- The call that task `t` is about to make. -/
def request? (s : Session) (t : Nat) : Option BrowserNew :=
  (s.browse.forest.active? t).bind Job.browserNew?

/-- Setups and messages come over the wire; a stream ends once it is empty. -/
def admits (s : Session) : Browse.Label → Bool
  | .setup _ _ | .message _ _ => false
  | .streamEnd t => (s.links t).queue = []
  | _ => true

def labels (s : Session) : Label → List Browse.Label
  | .wire t w => w.labels t (s.links t)
  | .other l => [l]

def step (s : Session) (l : Label) : Option Session :=
  match l with
  | .wire t w =>
    ((s.links t).step (s.request? t) w).bind fun link =>
      (run Browse.step s.browse (s.labels l)).map fun browse =>
        { browse, links := Function.update s.links t link }
  | .other inner =>
    if s.admits inner then
      (run Browse.step s.browse (s.labels l)).map fun browse => { s with browse }
    else none

end Session

/-! ## What a stream has heard -/

/-- The signals among what a stream yields. -/
def signals (items : List StreamItem) : List Message := items.filterMap Except.toOption

theorem signals_append (items more : List StreamItem) :
    signals (items ++ more) = signals items ++ signals more := List.filterMap_append

/-- The rule of the stream is about what a task of the kind asks for. -/
def Link.Tuned (kind? : Option Kind) (link : Link) : Prop :=
  ∃ kind request, kind? = some kind ∧ kind.Asks request ∧ link.rule = some request.interfaceName

/-- The stream of a task has heard its object from the beginning. -/
structure Link.Heard (kind? : Option Kind) (taken : List StreamItem) (link : Link) : Prop where
  tuned : (link.stage = .start ∨ link.stage = .connected) ∧ link.object = none ∨ link.Tuned kind?
  called : ∀ request, link.stage = .called request →
    ∃ kind, kind? = some kind ∧ kind.Asks request
  object : ∀ request, link.object = some request → ∃ kind, kind? = some kind ∧ kind.Asks request
  silent : link.object = none → link.emitted = []
  heard : signals (taken ++ link.queue) = link.emitted

namespace Link

variable {kind? : Option Kind} {taken : List StreamItem} {link link' : Link}

theorem heard_start (kind? : Option Kind) : Heard kind? [] {} where
  tuned := .inl ⟨.inl rfl, rfl⟩
  called := by rintro request ⟨⟩
  object := by rintro request ⟨⟩
  silent _ := rfl
  heard := rfl

theorem Heard.mono {kind?' : Option Kind} (h : Heard kind? taken link)
    (hkind : ∀ kind, kind? = some kind → kind?' = some kind) : Heard kind?' taken link where
  tuned := h.tuned.imp_right fun ⟨kind, request, hk, hrest⟩ => ⟨kind, request, hkind kind hk, hrest⟩
  called request hr := (h.called request hr).imp fun kind hk => ⟨hkind kind hk.1, hk.2⟩
  object request hr := (h.object request hr).imp fun kind hk => ⟨hkind kind hk.1, hk.2⟩
  silent := h.silent
  heard := h.heard

/-- The rule is about the object. -/
theorem Heard.rule_eq (h : Heard kind? taken link) {request : BrowserNew}
    (hobject : link.object = some request) : link.rule = some request.interfaceName := by
  rcases h.tuned with ⟨-, hnone⟩ | ⟨kind, asked, hkind, hasks, hrule⟩
  · cases hnone.symm.trans hobject
  · obtain ⟨kind', hkind', hasks'⟩ := h.object request hobject
    obtain rfl := Option.some.inj (hkind.symm.trans hkind')
    rw [hrule, hasks.interfaceName_eq hasks']

/-- Behind the subscription. -/
theorem Heard.tuned_of (h : Heard kind? taken link) (hstart : link.stage ≠ .start)
    (hconnected : link.stage ≠ .connected) : link.Tuned kind? := by
  rcases h.tuned with ⟨hs | hc, -⟩ | htuned
  · exact absurd hs hstart
  · exact absurd hc hconnected
  · exact htuned

/-- The setup goes on. -/
theorem Heard.goOn (h : Heard kind? taken link) {stage : Stage} (htuned : link.Tuned kind?)
    (hcalled : ∀ request, stage = .called request →
      ∃ kind, kind? = some kind ∧ kind.Asks request) :
    Heard kind? taken { link with stage } :=
  ⟨.inr htuned, hcalled, h.object, h.silent, h.heard⟩

theorem Heard.takesNothing (h : Heard kind? taken link) : Heard kind? (taken ++ []) link := by
  rwa [List.append_nil]

/-- **A stream that is subscribed before its object is made** hears all of it. -/
theorem Heard.step {request? : Option BrowserNew} {w : Wire} (h : Heard kind? taken link)
    (hasks : ∀ request, request? = some request → ∃ kind, kind? = some kind ∧ kind.Asks request)
    (hstep : link.step request? w = some link') :
    Heard kind? (taken ++ w.takes link) link' := by
  cases w with
  | connect result =>
    refine Heard.takesNothing ?_
    simp only [Link.step] at hstep
    split at hstep <;> cases hstep
    next hstage =>
      refine ⟨?_, by rintro request ⟨⟩, h.object, h.silent, h.heard⟩
      exact h.tuned.imp_left fun hearly => ⟨.inr rfl, hearly.2⟩
    next => exact h
  | subscribe result =>
    refine Heard.takesNothing ?_
    simp only [Link.step] at hstep
    split at hstep <;> cases hstep
    next request hstage =>
      obtain ⟨kind, hkind, hasked⟩ := hasks request rfl
      exact ⟨.inr ⟨kind, request, hkind, hasked, rfl⟩, by rintro request ⟨⟩, h.object, h.silent,
        h.heard⟩
    next => exact h
  | proxy result =>
    refine Heard.takesNothing ?_
    simp only [Link.step] at hstep
    split at hstep <;> cases hstep
    next hstage =>
      refine h.goOn (h.tuned_of ?_ ?_) (by rintro request ⟨⟩) <;> rw [hstage] <;> decide
    next => exact h
  | call =>
    refine Heard.takesNothing ?_
    simp only [Link.step] at hstep
    split at hstep <;> cases hstep
    next request hstage =>
      refine h.goOn (h.tuned_of ?_ ?_) ?_
      · rw [hstage]
        decide
      · rw [hstage]
        decide
      · rintro asked ⟨⟩
        exact hasks request rfl
  | create =>
    refine Heard.takesNothing ?_
    simp only [Link.step] at hstep
    split at hstep <;> cases hstep
    next request hstage hobject =>
      have htuned := h.tuned_of (by rw [hstage]; rintro ⟨⟩) (by rw [hstage]; rintro ⟨⟩)
      refine ⟨.inr htuned, h.called, ?_, by rintro ⟨⟩, h.heard⟩
      rintro asked ⟨⟩
      exact h.called request hstage
  | reply result =>
    refine Heard.takesNothing ?_
    simp only [Link.step] at hstep
    split at hstep <;> cases hstep
    next request asked hstage hobject =>
      refine h.goOn (h.tuned_of ?_ ?_) (by rintro request ⟨⟩) <;> rw [hstage] <;> rintro ⟨⟩
    next => exact h
  | emit m =>
    refine Heard.takesNothing ?_
    obtain ⟨request, hobject, rfl⟩ := Option.map_eq_some_iff.mp hstep
    refine ⟨h.tuned, h.called, h.object, ?_, ?_⟩
    · intro hnone
      cases hobject.symm.trans hnone
    · rw [receive, if_pos (h.rule_eq hobject)]
      dsimp only
      rw [← List.append_assoc, signals_append, h.heard]
      rfl
  | fault err =>
    refine Heard.takesNothing ?_
    simp only [Link.step] at hstep
    split at hstep <;> cases hstep
    refine ⟨h.tuned, h.called, h.object, h.silent, ?_⟩
    dsimp only
    rw [← List.append_assoc, signals_append, h.heard]
    exact List.append_nil _
  | take =>
    simp only [Link.step] at hstep
    split at hstep <;> cases hstep
    next m rest hqueue =>
      refine ⟨h.tuned, h.called, h.object, h.silent, ?_⟩
      rw [Wire.takes, hqueue, ← h.heard, hqueue, List.append_assoc]
      rfl

end Link

/-! ## Runs of the system -/

namespace Session

variable {s s' : Session} {l : Label} {t : Nat}

/-- What a label says to the browse, it does. -/
theorem step_browse (h : s.step l = some s') :
    run Browse.step s.browse (s.labels l) = some s'.browse := by
  cases l with
  | wire t w =>
    obtain ⟨link, -, h⟩ := Option.bind_eq_some_iff.mp h
    obtain ⟨browse, hbrowse, rfl⟩ := Option.map_eq_some_iff.mp h
    exact hbrowse
  | other inner =>
    simp only [step] at h
    split at h
    · obtain ⟨browse, hbrowse, rfl⟩ := Option.map_eq_some_iff.mp h
      exact hbrowse
    · cases h

/-- What the steps of a run say to the browse. -/
def taken (s : Session) (labels : List Label) : List Browse.Label :=
  outputs step Session.labels s labels

/-- Tasks stay what they are. -/
theorem kinds_step {b b' : Browse} {kind : Kind} {labels : List Browse.Label}
    (h : run Browse.step b labels = some b') (hkind : b.kinds[t]? = some kind) :
    b'.kinds[t]? = some kind := by
  refine run_invariant (I := fun b => b.kinds[t]? = some kind) ?_ hkind h
  intro b l b' hb hstep
  rw [(Browse.step_booked hstep).kinds]
  exact List.getElem?_append_left (List.getElem?_eq_some_iff.mp hb).1 ▸ hb

theorem asks_of_request? {request : BrowserNew} (h : s.request? t = some request) :
    ∃ kind, s.browse.kinds[t]? = some kind ∧ kind.Asks request := by
  obtain ⟨job, hjob, hrequest⟩ := Option.bind_eq_some_iff.mp h
  exact ⟨job.kind, Browse.kinds_of_active? hjob, asks_of_browserNew? hrequest⟩

theorem messagesTo_append (t : Nat) (labels more : List Browse.Label) :
    messagesTo t (labels ++ more) = messagesTo t labels ++ messagesTo t more :=
  List.filterMap_append

/-- A task takes the messages of its own stream. -/
theorem messagesTo_labels (w : Wire) (link : Link) (u : Nat) :
    messagesTo u (w.labels t link) = if t = u then w.takes link else [] := by
  have hnone : messagesTo u [] = if t = u then [] else [] := (ite_self _).symm
  cases w with
  | take =>
    rw [Wire.labels, Wire.takes]
    cases link.queue with
    | nil => exact hnone
    | cons m rest => exact Browse.messagesTo_message u t m
  | connect result | subscribe result | proxy result | reply result =>
    cases result <;> exact hnone
  | _ => exact hnone

theorem messagesTo_other {inner : Browse.Label} (h : s.admits inner = true) (u : Nat) :
    messagesTo u [inner] = [] := by
  cases inner <;> first | rfl | cases h

/-- Every stream keeps up with its object. -/
def AllHeard (labels : List Browse.Label) (s : Session) : Prop :=
  ∀ t, (s.links t).Heard s.browse.kinds[t]? (messagesTo t labels)

theorem AllHeard.step {labels : List Browse.Label} (hs : AllHeard labels s)
    (h : s.step l = some s') : AllHeard (labels ++ s.labels l) s' := by
  have hbrowse := step_browse h
  intro u
  have hu := (hs u).mono fun kind => kinds_step hbrowse
  rw [messagesTo_append]
  cases l with
  | wire t w =>
    obtain ⟨link, hlink, h⟩ := Option.bind_eq_some_iff.mp h
    obtain ⟨browse, -, rfl⟩ := Option.map_eq_some_iff.mp h
    rw [Session.labels, messagesTo_labels]
    dsimp only
    by_cases htu : t = u
    · subst htu
      rw [Function.update_self, if_pos rfl]
      refine hu.step ?_ hlink
      intro request hrequest
      obtain ⟨kind, hkind, hasks⟩ := asks_of_request? hrequest
      exact ⟨kind, kinds_step hbrowse hkind, hasks⟩
    · rw [Function.update_of_ne (Ne.symm htu), if_neg htu, List.append_nil]
      exact hu
  | other inner =>
    simp only [step] at h
    split at h
    next hadmits =>
      obtain ⟨browse, -, rfl⟩ := Option.map_eq_some_iff.mp h
      rw [Session.labels, messagesTo_other hadmits, List.append_nil]
      exact hu
    next => cases h

theorem run_heard {start : Browse} {labels : List Label}
    (h : run step { browse := start } labels = some s) :
    AllHeard (taken { browse := start } labels) s :=
  run_history (fun _ => Link.heard_start _) (fun _ _ _ _ hs hstep => hs.step hstep) h

theorem run_browse {start : Browse} {labels : List Label}
    (h : run step { browse := start } labels = some s) :
    run Browse.step start (taken { browse := start } labels) = some s.browse :=
  run_outputs (f := Session.browse) (fun _ _ _ => step_browse) h

end Session

open Session

/-- **No signal is lost**: what a task has taken from its stream and what the stream
still holds are the signals of the object that it asked for, all of them, once and in
order; the object of the root is the one that the caller asked for; and the browse runs
as if its messages came from anywhere. -/
theorem browse_subscribed (start : Browse) (labels : List Session.Label) {s : Session}
    (h : run Session.step { browse := start } labels = some s) :
    run Browse.step start (taken { browse := start } labels) = some s.browse ∧
    (∀ t, signals (messagesTo t (taken { browse := start } labels) ++ (s.links t).queue) =
        (s.links t).emitted ∧
      ∀ request, (s.links t).object = some request →
        ∃ kind, s.browse.kinds[t]? = some kind ∧ kind.Asks request) ∧
    ∀ conn proxy serviceType domain interfaceIndex,
      browseStart conn proxy serviceType domain interfaceIndex = .ok start →
      ∃ interface, interfaceToAvahi interfaceIndex = .ok interface ∧
        s.browse.kinds[0]? = some (Browse.rootKind interface serviceType domain) ∧
        ∀ request, (s.links 0).object = some request →
          (Browse.rootKind interface serviceType domain).Asks request := by
  have hheard := run_heard h
  refine ⟨run_browse h, fun t => ⟨(hheard t).heard, (hheard t).object⟩, ?_⟩
  intro conn proxy serviceType domain interfaceIndex hstart
  obtain ⟨interface, hinterface, hledger⟩ := ledger_run hstart (run_browse h)
  refine ⟨interface, hinterface, hledger.root, ?_⟩
  intro request hobject
  obtain ⟨kind, hkind, hasks⟩ := (hheard 0).object request hobject
  obtain rfl := Option.some.inj (hledger.root.symm.trans hkind)
  exact hasks

/-- A setup whose first signal comes before the reply. -/
def setupWithBurst (t : Nat) (first : Message) : List Session.Label :=
  [.connect (.ok ()), .subscribe (.ok ()), .proxy (.ok ()), .call, .create, .emit first,
    .reply (.ok ()), .take].map (.wire t)

/-- A browse for all types is told of one, and the browse for that one of a printer. -/
def bursts : List Session.Label :=
  setupWithBurst 0 ⟨some "ItemNew", .typeItem ⟨2, 0, "_ipp._tcp", "local", 0⟩⟩ ++
    setupWithBurst 1 ⟨some "ItemNew", .item ⟨2, 0, "Printer", "_ipp._tcp", "local", 0⟩⟩

theorem browse_subscribed_example :
    ∃ start s, browseStart (.ok ()) (.ok ()) none (some "lan") none = .ok start ∧
      run Session.step { browse := start } bursts = some s ∧
      messagesTo 1 (taken { browse := start } bursts) =
        [.ok ⟨some "ItemNew", .item ⟨2, 0, "Printer", "_ipp._tcp", "local", 0⟩⟩] ∧
      signals (messagesTo 1 (taken { browse := start } bursts) ++ (s.links 1).queue) =
        (s.links 1).emitted ∧
      (s.links 0).object =
        some (.serviceTypeBrowserNew avahiIfUnspec avahiProtoUnspec "lan" 0) := by
  obtain ⟨start, s, hstart, hrun, htaken, request, hobject⟩ : ∃ start s,
      browseStart (.ok ()) (.ok ()) none (some "lan") none = .ok start ∧
      run Session.step { browse := start } bursts = some s ∧
      messagesTo 1 (taken { browse := start } bursts) =
        [.ok ⟨some "ItemNew", .item ⟨2, 0, "Printer", "_ipp._tcp", "local", 0⟩⟩] ∧
      ∃ request, (s.links 0).object = some request :=
    ⟨_, _, rfl, rfl, rfl, _, rfl⟩
  obtain ⟨-, hheard, hroot⟩ := browse_subscribed start bursts hrun
  obtain ⟨interface, hinterface, -, hasks⟩ := hroot _ _ _ _ _ hstart
  cases hinterface
  exact ⟨start, s, hstart, hrun, htaken, (hheard 1).1,
    hobject.trans (congrArg some (hasks request hobject))⟩

/-! ## What the signals amount to -/

theorem filterMap_signals {β : Type*} {f : StreamItem → Option β}
    (hf : ∀ err, f (.error err) = none) (items : List StreamItem) :
    items.filterMap f = (signals items).filterMap fun m => f (.ok m) := by
  rw [signals, List.filterMap_filterMap]
  refine List.filterMap_congr ?_
  rintro (err | m) -
  · exact hf err
  · rfl

/-- The browses that the signals to a root lead to. -/
def browsesFor (root : Kind) (emitted : List Message) : List Child :=
  Browse.browsesOf root (emitted.map .ok)

/-- The instances that the signals to a task announce, if it browses for instances. -/
def announcedTo (kind? : Option Kind) (emitted : List Message) : List Item :=
  if (kind?.bind Kind.child?).isSome then emitted.filterMap fun m => newItem? (.ok m) else []

theorem browsesOf_signals (root : Kind) (items : List StreamItem) :
    Browse.browsesOf root items = browsesFor root (signals items) := by
  have hsignals : ((signals items).map Except.ok).filterMap newType? =
      items.filterMap newType? := by
    rw [List.filterMap_map, filterMap_signals fun _ => rfl]
    rfl
  cases root with
  | browseAllTypes interface domain =>
    rw [browsesFor, Browse.browsesOf, Browse.browsesOf, AllTypes.announcedPairs,
      AllTypes.announcedPairs, hsignals]
  | browseOneType child => rfl
  | resolveAndEmit item => rfl

theorem announcedTo_append (kind? : Option Kind) (emitted more : List Message) :
    announcedTo kind? (emitted ++ more) = announcedTo kind? emitted ++ announcedTo kind? more := by
  unfold announcedTo
  split
  · exact List.filterMap_append
  · rfl

/-- What one message to a task announces, a resolver is started for. -/
theorem announcedTo_message (kinds : List Kind) (t : Nat) (m : StreamItem) :
    announcedTo kinds[t]? (signals [m]) = Browse.resolversAt kinds (.message t m) := by
  have hitem : (signals [m]).filterMap (fun m => newItem? (.ok m)) = (newItem? m).toList := by
    rw [← filterMap_signals fun _ => rfl]
    cases hm : newItem? m <;> simp [hm]
  rw [announcedTo, Browse.resolversAt, hitem]

/-- **Resolvers by task**: what the labels start, in the order of the tasks. -/
theorem resolvers_perm (kinds : List Kind) {labels : List Browse.Label}
    (hknown : ∀ l ∈ labels, ∀ t, l.task? = some t → t < kinds.length) :
    (labels.flatMap (Browse.resolversAt kinds)).Perm ((List.range kinds.length).flatMap fun t =>
      announcedTo kinds[t]? (signals (messagesTo t labels))) := by
  induction labels using List.reverseRecOn with
  | nil =>
    have hnil : ∀ t, announcedTo kinds[t]? (signals (messagesTo t [])) = [] := by
      intro t
      exact ite_self _
    simp [hnil]
  | append_singleton labels l ih =>
    have hold := ih fun l' hl' => hknown l' (List.mem_append_left _ hl')
    rw [List.flatMap_append, List.flatMap_singleton]
    cases l with
    | message t m =>
      have ht : t < kinds.length := hknown _ (List.mem_append_right _ List.mem_cons_self) t rfl
      have hnew : ∀ u, announcedTo kinds[u]? (signals (messagesTo u (labels ++ [.message t m]))) =
          announcedTo kinds[u]? (signals (messagesTo u labels)) ++
            if t = u then Browse.resolversAt kinds (.message t m) else [] := by
        intro u
        rw [Browse.messagesTo_snoc, Browse.messagesTo_message, signals_append, announcedTo_append]
        by_cases htu : t = u
        · rw [if_pos htu, if_pos htu, ← htu, announcedTo_message]
        · rw [if_neg htu, if_neg htu]
          exact congrArg _ (ite_self _)
      simp only [hnew]
      exact (hold.append_right _).trans (Slots.flatMap_range_grow ht _ _).symm
    | _ => simpa [Browse.messagesTo_snoc, messagesTo, Browse.resolversAt] using hold

/-- **A browse that has taken all signals** runs, or has run, one instance browse for
each pair that was announced to it, and one resolver for each instance that was
announced to one of these. -/
theorem browse_announced (conn proxy : Except String Unit) (serviceType domain : Option String)
    (interfaceIndex : Option NonZeroU32) {start : Browse}
    (hstart : browseStart conn proxy serviceType domain interfaceIndex = .ok start)
    (labels : List Session.Label) {s : Session}
    (h : run Session.step { browse := start } labels = some s)
    (hdrained : ∀ t, (s.links t).queue = []) :
    ∃ interface, interfaceToAvahi interfaceIndex = .ok interface ∧
      s.browse.kinds.filterMap Kind.child? =
        browsesFor (Browse.rootKind interface serviceType domain) (s.links 0).emitted ∧
      (s.browse.kinds.filterMap Kind.item?).Perm
        ((List.range s.browse.kinds.length).flatMap fun t =>
          announcedTo s.browse.kinds[t]? (s.links t).emitted) := by
  obtain ⟨interface, hinterface, hledger⟩ := ledger_run hstart (run_browse h)
  have hemitted : ∀ t, signals (messagesTo t (taken { browse := start } labels)) =
      (s.links t).emitted := by
    intro t
    rw [← (run_heard h t).heard, hdrained t, List.append_nil]
  refine ⟨interface, hinterface, ?_, ?_⟩
  · rw [hledger.browses, browsesOf_signals, hemitted]
  · rw [hledger.resolvers]
    simpa only [hemitted] using resolvers_perm s.browse.kinds hledger.known

theorem browse_announced_example :
    ∃ start s, browseStart (.ok ()) (.ok ()) none none none = .ok start ∧
      run Session.step { browse := start } bursts = some s ∧
      s.browse.kinds.filterMap Kind.child? = [⟨avahiIfUnspec, "_ipp._tcp", "local"⟩] ∧
      (s.browse.kinds.filterMap Kind.item?).Perm
        [⟨2, 0, "Printer", "_ipp._tcp", "local", 0⟩] := by
  obtain ⟨interface, hinterface, hbrowses, hresolvers⟩ :=
    browse_announced (.ok ()) (.ok ()) none none none rfl bursts rfl (by
      rintro (_ | _ | t) <;> rfl)
  cases hinterface
  exact ⟨_, _, rfl, rfl, hbrowses, hresolvers⟩

end MdnsSdDiscovery.Linux
