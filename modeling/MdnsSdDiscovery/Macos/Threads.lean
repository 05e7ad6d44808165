import MdnsSdDiscovery.Lib.Receivers
import MdnsSdDiscovery.Macos.Replies

/-!
# The threads of a browse on macOS

The pump thread runs beside the resolvers on the blocking pool, and the guard may
be dropped at any time.  A step is one reply of a dispatch, one child browse, one
test of the flag with what `poll` makes of it, or a whole resolver, whose only
effect on the others is its event; all interleave in any order.

* `run_completion`: apart from its interleaving with the resolvers, the thread does
  what `run_pump` does on the same passes;
* `threads_replied`: the books of the channel;
* `threads_recv`: what the reader sees.
-/

namespace MdnsSdDiscovery.Macos

open Runs Shuffles

/-! ## The machine -/

/-- Where the pump thread is. -/
inductive Phase where
  /-- At the test of the flag. -/
  | head
  /-- In `DNSServiceProcessResult`, with the replies that are still to come. -/
  | dispatching (turn : Turn) (callbacks : List Callback)
  /-- In `start_pending_browses`, with the types that are still to be browsed. -/
  | starting (keys : List (String × String))
  /-- Out of `pump_loop`. -/
  | leaving (result : Except ServiceBrowseError Unit)
  /-- At the end of the closure of `browse_start`. -/
  | returned (result : Except ServiceBrowseError Unit)
  deriving DecidableEq

structure Browse where
  pump : Pump
  phase : Phase := .head
  /-- The stop flag. -/
  stop : Bool := false
  receiver : Bool := true
  /-- The resolvers that have not sent their event, and those that have. -/
  inflight : List Resolve := []
  ran : List (Resolve × Daemon) := []
  channel : List Event := []

namespace Browse

/-- The thread goes on with the pump as it has become: what it sent is on the
channel, and the resolves it started are in flight. -/
def goOn (s : Browse) (p : Pump) (phase : Phase) : Browse :=
  { s with
    pump := p
    phase
    inflight := s.inflight ++ p.state.resolves.drop s.pump.state.resolves.length
    channel := s.channel ++ p.state.sent.drop s.pump.state.sent.length }

/-- The head of a pass of `pump_loop`, up to the dispatch. -/
def pass (s : Browse) (fd : Int32) (turn : Turn) : Browse :=
  if turn.stop then s.goOn s.pump (.leaving (.ok ()))
  else
    let p := s.pump.record (.poll fd turn.rv)
    if turn.rv < 0 then
      if turn.errno = eintr then s.goOn p .head
      else s.goOn p (.leaving (.error (.browseFailed s!"poll failed: {turn.strerror}")))
    else if turn.rv = 0 then s.goOn p .head
    else if turn.revents &&& pollin ≠ 0 then
      s.goOn (p.record (.processResult p.conn.shared)) (.dispatching turn turn.callbacks)
    else if turn.revents &&& (pollhup ||| pollerr ||| pollnval) ≠ 0 then
      s.goOn p (.leaving (.ok ()))
    else s.goOn p .head

/-- `DNSServiceProcessResult` returns. -/
def processed (s : Browse) (turn : Turn) : Browse :=
  let p := s.pump.record (.processed turn.err)
  if turn.err ≠ noError then
    s.goOn p (.leaving (.error (.browseFailed s!"DNSServiceProcessResult failed: {turn.err}")))
  else s.goOn { p with state := { p.state with pending := [] } } (.starting p.state.pending)

inductive Label where
  | pass (turn : Turn)
  | callback
  | processed
  | startPending
  | started
  /-- The closure sends the error of `run_pump`, if there is one, and ends. -/
  | left
  | resolved (r : Resolve) (daemon : Daemon)
  | dropGuard
  | dropReceiver

def step (env : Environment) (display : ServiceBrowseError → String) (s : Browse) :
    Label → Option Browse
  | .pass turn =>
    match s.phase with
    | .head => if turn.stop = s.stop then some (s.pass env.refSockFD turn) else none
    | _ => none
  | .callback =>
    match s.phase with
    | .dispatching turn (cb :: callbacks) =>
      some (s.goOn (s.pump.dispatch cb) (.dispatching turn callbacks))
    | _ => none
  | .processed =>
    match s.phase with
    | .dispatching turn [] => some (s.processed turn)
    | _ => none
  | .startPending =>
    match s.phase with
    | .starting (key :: keys) =>
      some (s.goOn (s.pump.startPending env.browse key) (.starting keys))
    | _ => none
  | .started =>
    match s.phase with
    | .starting [] => some (s.goOn s.pump .head)
    | _ => none
  | .left =>
    match s.phase with
    | .leaving result =>
      some { s with phase := .returned result, channel := s.channel ++ ending (some result) }
    | _ => none
  | .resolved r daemon =>
    if r ∈ s.inflight then
      some { s with
        inflight := s.inflight.erase r
        ran := s.ran ++ [(r, daemon)]
        channel := s.channel ++ [resolveService display daemon r] }
    else none
  | .dropGuard => some { s with stop := true }
  | .dropReceiver => some { s with receiver := false }

end Browse

/-- The threads once `run_pump` is at its loop. -/
def threads (env : Environment) (request : Request) : Option Browse :=
  (pumpRun env request []).map fun x => { pump := x.1 }

/-! ## The thread by itself -/

namespace Browse

/-- The pass that a label begins. -/
def Label.turn? : Label → Option Turn
  | .pass turn => some turn
  | _ => none

/-- The result of `run_pump`, once the closure has ended. -/
def result? (s : Browse) : Option (Except ServiceBrowseError Unit) :=
  match s.phase with
  | .returned result => some result
  | _ => none

/-- Where the pass that the thread is in leads. -/
def completion (native : Nat → Int32) (s : Browse) :
    Pump × Option (Except ServiceBrowseError Unit) :=
  match s.phase with
  | .head => (s.pump, none)
  | .dispatching turn callbacks =>
    let p := (callbacks.foldl Pump.dispatch s.pump).record (.processed turn.err)
    if turn.err ≠ noError then
      (p, some (.error (.browseFailed s!"DNSServiceProcessResult failed: {turn.err}")))
    else (p.startPendingBrowses native, none)
  | .starting keys => (keys.foldl (Pump.startPending native) s.pump, none)
  | .leaving result | .returned result => (s.pump, some result)

section
variable {env : Environment} {request : Request} {display : ServiceBrowseError → String}
  {s s' : Browse} {l : Label}

/-- A pass is begun where the loop has not ended, and leads where `pump_loop` leads. -/
theorem completion_pass (native : Nat → Int32) (s : Browse) (fd : Int32) (turn : Turn) :
    (s.pass fd turn).completion native = s.pump.pumpTurn native fd turn := by
  unfold pass Pump.pumpTurn
  by_cases hstop : turn.stop = true
  · rw [if_pos hstop, if_pos hstop]
    rfl
  rw [if_neg hstop, if_neg hstop]
  dsimp only
  by_cases hneg : turn.rv < 0
  · rw [if_pos hneg, if_pos hneg]
    split <;> rfl
  rw [if_neg hneg, if_neg hneg]
  by_cases hzero : turn.rv = 0
  · rw [if_pos hzero, if_pos hzero]
    rfl
  rw [if_neg hzero, if_neg hzero]
  by_cases hin : turn.revents &&& pollin ≠ 0
  · rw [if_pos hin, if_pos hin]
    unfold Pump.processResult
    by_cases herr : turn.err ≠ noError
    · rw [if_pos herr]
      exact if_pos herr
    · rw [if_neg herr]
      exact if_neg herr
  rw [if_neg hin, if_neg hin]
  split <;> rfl

theorem completion_processed {native : Nat → Int32} {turn : Turn}
    (h : s.phase = .dispatching turn []) :
    (s.processed turn).completion native = s.completion native := by
  unfold processed
  dsimp only
  by_cases herr : turn.err ≠ noError
  · rw [if_pos herr, completion, completion, h]
    exact (if_pos herr).symm
  · rw [if_neg herr, completion, completion, h]
    exact (if_neg herr).symm

/-- **A step either begins a pass or completes the one it is in.** -/
theorem completion_step (h : step env display s l = some s') :
    (∃ turn, l = .pass turn ∧ s.phase = .head ∧ turn.stop = s.stop ∧
      s'.completion env.browse = s.pump.pumpTurn env.browse env.refSockFD turn) ∨
    l.turn? = none ∧ s'.completion env.browse = s.completion env.browse := by
  cases l with
  | pass turn =>
    simp only [step] at h
    split at h
    · rename_i hphase
      split at h
      · rename_i hstop
        cases h
        exact .inl ⟨turn, rfl, hphase, hstop, completion_pass _ _ _ _⟩
      · cases h
    · cases h
  | callback =>
    simp only [step] at h
    split at h
    · rename_i turn cb callbacks hphase
      cases h
      refine .inr ⟨rfl, ?_⟩
      rw [completion, completion, hphase]
      rfl
    · cases h
  | processed =>
    simp only [step] at h
    split at h
    · rename_i turn hphase
      cases h
      exact .inr ⟨rfl, completion_processed hphase⟩
    · cases h
  | startPending =>
    simp only [step] at h
    split at h
    · rename_i key keys hphase
      cases h
      refine .inr ⟨rfl, ?_⟩
      rw [completion, completion, hphase]
      rfl
    · cases h
  | started =>
    simp only [step] at h
    split at h
    · rename_i hphase
      cases h
      refine .inr ⟨rfl, ?_⟩
      rw [completion, completion, hphase]
      rfl
    · cases h
  | left =>
    simp only [step] at h
    split at h
    · rename_i result hphase
      cases h
      refine .inr ⟨rfl, ?_⟩
      rw [completion, completion, hphase]
    · cases h
  | resolved r daemon =>
    simp only [step] at h
    split at h <;> cases h
    exact .inr ⟨rfl, rfl⟩
  | dropGuard =>
    cases h
    exact .inr ⟨rfl, rfl⟩
  | dropReceiver =>
    cases h
    exact .inr ⟨rfl, rfl⟩

/-! ## What a step can do -/

theorem goOn_channel {p : Pump} {phase : Phase} {events : List Event}
    (h : p.state.sent = s.pump.state.sent ++ events) :
    (s.goOn p phase).channel = s.channel ++ events := by
  rw [goOn, h, List.drop_left]

theorem goOn_inflight {p : Pump} {phase : Phase} {resolves : List Resolve}
    (h : p.state.resolves = s.pump.state.resolves ++ resolves) :
    (s.goOn p phase).inflight = s.inflight ++ resolves := by
  rw [goOn, h, List.drop_left]

/-- The thread goes on without a reply: it sends errors at most. -/
structure Quiet (s s' : Browse) : Prop where
  running : s.result? = none ∧ s'.result? = none
  delivered : s'.pump.delivered = s.pump.delivered
  inflight : s'.inflight = s.inflight
  resolves : s'.pump.state.resolves = s.pump.state.resolves
  ran : s'.ran = s.ran
  errors : ∃ errors : List ServiceBrowseError,
    s'.pump.state.sent = s.pump.state.sent ++ errors.map .error ∧
      s'.channel = s.channel ++ errors.map .error

theorem quiet_goOn {p : Pump} {phase : Phase} (errors : List ServiceBrowseError)
    (hrunning : s.result? = none) (hphase : (s.goOn p phase).result? = none)
    (hdelivered : p.delivered = s.pump.delivered)
    (hresolves : p.state.resolves = s.pump.state.resolves)
    (hsent : p.state.sent = s.pump.state.sent ++ errors.map .error) :
    Quiet s (s.goOn p phase) := by
  have hinflight : (s.goOn p phase).inflight = s.inflight ++ [] :=
    goOn_inflight (by rw [hresolves, List.append_nil])
  rw [List.append_nil] at hinflight
  exact ⟨⟨hrunning, hphase⟩, hdelivered, hinflight, hresolves, rfl, errors, hsent,
    goOn_channel hsent⟩

theorem quiet_pass (fd : Int32) (turn : Turn) (hrunning : s.result? = none) :
    Quiet s (s.pass fd turn) := by
  have hnil : s.pump.state.sent = s.pump.state.sent ++ ([] : List ServiceBrowseError).map .error :=
    (List.append_nil _).symm
  unfold pass
  dsimp only
  split
  · exact quiet_goOn [] hrunning rfl rfl rfl hnil
  split
  · split <;> exact quiet_goOn [] hrunning rfl rfl rfl hnil
  split
  · exact quiet_goOn [] hrunning rfl rfl rfl hnil
  split
  · exact quiet_goOn [] hrunning rfl rfl rfl hnil
  split <;> exact quiet_goOn [] hrunning rfl rfl rfl hnil

theorem quiet_processed (turn : Turn) (hrunning : s.result? = none) :
    Quiet s (s.processed turn) := by
  unfold processed
  dsimp only
  split <;> exact quiet_goOn [] hrunning rfl rfl rfl (List.append_nil _).symm

theorem quiet_startPending (native : Nat → Int32) (key : String × String) {phase : Phase}
    (hrunning : s.result? = none)
    (hphase : (s.goOn (s.pump.startPending native key) phase).result? = none) :
    Quiet s (s.goOn (s.pump.startPending native key) phase) := by
  obtain ⟨a, -, -, -, -, hstate, hdelivered⟩ := startPending_cases native s.pump key
  have herror : ∃ errors : List ServiceBrowseError,
      a.error?.toList = errors.map Except.error := by
    unfold Attempt.error?
    cases a.result with
    | ok _ => exact ⟨[], rfl⟩
    | error err => exact ⟨[err], rfl⟩
  obtain ⟨errors, herrors⟩ := herror
  refine quiet_goOn errors hrunning hphase hdelivered ?_ ?_
  · rw [hstate]
  · rw [hstate, herrors]

/-- **Inversion of a step.** -/
theorem step_cases (h : step env display s l = some s') :
    (∃ turn cb callbacks, l = .callback ∧ s.phase = .dispatching turn (cb :: callbacks) ∧
      s' = s.goOn (s.pump.dispatch cb) (.dispatching turn callbacks)) ∨
    (l ≠ .callback ∧ (∀ r daemon, l ≠ .resolved r daemon) ∧ Quiet s s') ∨
    (∃ result, l = .left ∧ s.phase = .leaving result ∧
      s' = { s with phase := .returned result, channel := s.channel ++ ending (some result) }) ∨
    (∃ r daemon, l = .resolved r daemon ∧ r ∈ s.inflight ∧
      s' = { s with
        inflight := s.inflight.erase r
        ran := s.ran ++ [(r, daemon)]
        channel := s.channel ++ [resolveService display daemon r] }) ∨
    (l = .dropGuard ∧ s' = { s with stop := true }) ∨
    (l = .dropReceiver ∧ s' = { s with receiver := false }) := by
  cases l with
  | pass turn =>
    simp only [step] at h
    split at h
    · rename_i hphase
      split at h <;> cases h
      refine .inr (.inl ⟨by simp, by simp, quiet_pass _ turn ?_⟩)
      rw [result?, hphase]
    · cases h
  | callback =>
    simp only [step] at h
    split at h <;> cases h
    rename_i turn cb callbacks hphase
    exact .inl ⟨turn, cb, callbacks, rfl, hphase, rfl⟩
  | processed =>
    simp only [step] at h
    split at h <;> cases h
    rename_i turn hphase
    refine .inr (.inl ⟨by simp, by simp, quiet_processed turn ?_⟩)
    rw [result?, hphase]
  | startPending =>
    simp only [step] at h
    split at h <;> cases h
    rename_i key keys hphase
    refine .inr (.inl ⟨by simp, by simp, quiet_startPending env.browse key ?_ rfl⟩)
    rw [result?, hphase]
  | started =>
    simp only [step] at h
    split at h <;> cases h
    rename_i hphase
    refine .inr (.inl ⟨by simp, by simp, quiet_goOn [] ?_ rfl rfl rfl (List.append_nil _).symm⟩)
    rw [result?, hphase]
  | left =>
    simp only [step] at h
    split at h <;> cases h
    rename_i result hphase
    exact .inr (.inr (.inl ⟨result, rfl, hphase, rfl⟩))
  | resolved r daemon =>
    simp only [step] at h
    split at h <;> cases h
    rename_i hr
    exact .inr (.inr (.inr (.inl ⟨r, daemon, rfl, hr, rfl⟩)))
  | dropGuard =>
    cases h
    exact .inr (.inr (.inr (.inr (.inl ⟨rfl, rfl⟩))))
  | dropReceiver =>
    cases h
    exact .inr (.inr (.inr (.inr (.inr ⟨rfl, rfl⟩))))

/-! ## The channel -/

theorem ending_none : ending none = [] := rfl

/-- What is on the channel, and which resolvers are left. -/
structure Heard (display : ServiceBrowseError → String) (s : Browse) : Prop where
  resolvers : (s.ran.map Prod.fst ++ s.inflight).Perm s.pump.state.resolves
  shuffle : Shuffle (s.pump.state.sent ++ ending s.result?) (answers display s.ran) s.channel

theorem Heard.step (hs : Heard display s) (h : step env display s l = some s') :
    Heard display s' := by
  rcases step_cases h with ⟨turn, cb, callbacks, -, hphase, rfl⟩ | ⟨-, -, hq⟩ |
    ⟨result, -, hphase, rfl⟩ | ⟨r, daemon, -, hr, rfl⟩ | ⟨-, rfl⟩ | ⟨-, rfl⟩
  · obtain ⟨hsent, hresolves⟩ := browseCallback_sends s.pump.state cb
    have hrunning : s.result? = none := by rw [result?, hphase]
    have hshuffle := hs.shuffle
    rw [hrunning] at hshuffle
    constructor
    · rw [goOn_inflight hresolves, ← List.append_assoc]
      exact (hs.resolvers.append_right _).trans (.of_eq hresolves.symm)
    · rw [goOn_channel hsent]
      have hleft := hshuffle.append_left cb.event?.toList
      rw [ending_none, List.append_nil] at hleft
      change Shuffle ((s.pump.state.browseCallback cb).sent ++ []) _ _
      rw [hsent, List.append_nil]
      exact hleft
  · obtain ⟨errors, hsent, hchannel⟩ := hq.errors
    have hshuffle := hs.shuffle
    rw [hq.running.1] at hshuffle
    constructor
    · rw [hq.ran, hq.inflight, hq.resolves]
      exact hs.resolvers
    · have hleft := hshuffle.append_left (errors.map .error)
      rw [ending_none, List.append_nil] at hleft
      rw [hq.ran, hq.running.2, ending_none, List.append_nil, hsent, hchannel]
      exact hleft
  · have hshuffle := hs.shuffle
    have hrunning : s.result? = none := by rw [result?, hphase]
    rw [hrunning, ending_none, List.append_nil] at hshuffle
    exact ⟨hs.resolvers, hshuffle.append_left (ending (some result))⟩
  · constructor
    · have hperm := hs.resolvers
      rw [List.map_append, List.map_singleton, List.append_assoc, List.singleton_append]
      exact ((List.perm_cons_erase hr).symm.append_left _).trans hperm
    · rw [answers, List.map_append]
      exact hs.shuffle.append_right _
  · exact ⟨hs.resolvers, hs.shuffle⟩
  · exact ⟨hs.resolvers, hs.shuffle⟩

end

end Browse

/-! ## Runs -/

open Browse

section
variable {env : Environment} {request : Request} {display : ServiceBrowseError → String}
  {start s : Browse} {labels : List Label}

theorem pumpRun_pass {turns : List Turn} {p : Pump} (h : pumpRun env request turns = some (p, none))
    (turn : Turn) :
    pumpRun env request (turns ++ [turn]) = some (p.pumpTurn env.browse env.refSockFD turn) := by
  obtain ⟨q, fd, hc, hs, hloop⟩ := pumpRun_eq_some h
  have hfd : fd = env.refSockFD := by
    rcases setUp_cases hs with ⟨-, err, hr⟩ | ⟨err, -, hr⟩ | ⟨-, hr⟩
    · cases hr
    · cases hr
    · cases hr
      rfl
  rw [pumpRun_eq hc hs, Pump.pumpLoop_snoc, ← hloop, hfd]

/-- The set-up sends nothing and gets no reply. -/
theorem state_setUp {p : Pump} {fd : Int32}
    (h : setUp env request (connected request) = (p, .ok fd)) :
    p.state = (connected request).state ∧ p.delivered = [] := by
  rcases setUp_cases h with ⟨-, err, hr⟩ | ⟨err, -, hr⟩ | ⟨hb, -⟩
  · cases hr
  · cases hr
  · obtain ⟨-, ⟨rfl, -⟩ | ⟨rc, dc, ⟨-, rfl, -⟩ | ⟨-, -, rfl⟩⟩⟩ := Pump.browse_cases hb
    all_goals exact ⟨rfl, rfl⟩

theorem completion_threads (h : threads env request = some start) :
    pumpRun env request [] = some (start.completion env.browse) ∧ Heard display start := by
  obtain ⟨⟨p, result⟩, hp, rfl⟩ := Option.map_eq_some_iff.mp h
  obtain ⟨q, fd, -, hs, hloop⟩ := pumpRun_eq_some hp
  cases hloop
  refine ⟨hp, ?_, ?_⟩
  · rw [(state_setUp hs).1]
    exact .nil
  · rw [(state_setUp hs).1]
    exact .nil

/-- **Beside the resolvers the thread does what `run_pump` does** on the same passes. -/
theorem run_completion (hstart : threads env request = some start)
    (h : run (step env display) start labels = some s) :
    pumpRun env request (labels.filterMap Label.turn?) = some (s.completion env.browse) ∧
      Heard display s := by
  refine run_guarded (P := fun ls u =>
    pumpRun env request (ls.filterMap Label.turn?) = some (u.completion env.browse) ∧
      Heard display u) (G := fun _ _ _ => True) ?_ ?_ h fun _ _ _ _ _ _ => trivial
  · exact completion_threads hstart
  rintro ls u l v ⟨hrun, hheard⟩ - hstep
  refine ⟨?_, hheard.step hstep⟩
  rcases completion_step hstep with ⟨turn, rfl, hphase, -, hpass⟩ | ⟨hturn, hsame⟩
  · have hhead : u.completion env.browse = (u.pump, none) := by rw [completion, hphase]
    have hturn : (Label.pass turn).turn? = some turn := rfl
    rw [hhead] at hrun
    rw [filterMap_snoc_some hturn, hpass]
    exact pumpRun_pass hrun turn
  · rw [filterMap_snoc_none hturn, hsame]
    exact hrun

/-- **The books of the threads.**  Wherever the thread is, completing its pass leads
where `run_pump` is after the same passes, whatever the resolvers do meanwhile; and
between two passes, or once the thread has ended, every reply has become one event,
up to the resolvers in flight. -/
theorem threads_replied (hstart : threads env request = some start)
    (h : run (step env display) start labels = some s) :
    pumpRun env request (labels.filterMap Label.turn?) = some (s.completion env.browse) ∧
    (s.ran.map Prod.fst ++ s.inflight).Perm s.pump.state.resolves ∧
    (s.phase = .head ∨ (∃ result, s.phase = .returned result) →
      Replied display s.pump s.result? s.ran s.channel) := by
  obtain ⟨hrun, hheard⟩ := run_completion hstart h
  refine ⟨hrun, hheard.resolvers, fun hphase => ?_⟩
  have hcompletion : s.completion env.browse = (s.pump, s.result?) := by
    rcases hphase with hphase | ⟨result, hphase⟩
    · rw [completion, result?, hphase]
    · rw [completion, result?, hphase]
  rw [hcompletion] at hrun
  refine (kept_of_pumpRun hrun).replied ⟨?_, hheard.shuffle⟩
  exact (List.sublist_append_left _ _).subperm.trans hheard.resolvers.subperm

/-- A printer comes and goes; its resolver answers in between, and then the daemon
hangs up. -/
def printerLabels : List Label :=
  [.pass (dispatchTurn [printerCallback flagsAdd noError, printerCallback 0 noError]), .callback,
    .resolved ⟨"Printer", "_ipp._tcp.", "local.", 2⟩ refusing, .callback, .processed, .started,
    .pass ⟨false, 1, 0, "", pollhup, [], noError⟩, .left]

/-- A daemon whose calls all succeed. -/
def willing : Environment := ⟨noError, 5, fun _ => noError⟩

theorem exists_printer_run :
    ∃ start s, threads willing (browseStart (some "_ipp._tcp") none none) = some start ∧
      run (step willing fun _ => "") start printerLabels = some s ∧
      s.phase = .returned (.ok ()) ∧
      s.channel = [.error (.resolveFailed "Printer" "DNSServiceResolve failed: -65537"),
        (printerCallback 0 noError).removed] := by
  have hany : ((threads willing (browseStart (some "_ipp._tcp") none none)).any fun start =>
      (run (step willing fun _ => "") start printerLabels).any fun s =>
        decide (s.phase = .returned (.ok ()) ∧
          s.channel = [.error (.resolveFailed "Printer" "DNSServiceResolve failed: -65537"),
            (printerCallback 0 noError).removed])) = true := by
    decide +kernel
  obtain ⟨start, hstart, hrun⟩ := (Option.any_eq_true _ _).mp hany
  obtain ⟨s, hs, hends⟩ := (Option.any_eq_true _ _).mp hrun
  exact ⟨start, s, hstart, hs, of_decide_eq_true hends⟩

theorem threads_replied_example :
    ∃ s : Browse, Replied (fun _ => "") s.pump (some (.ok ()))
        s.ran [.error (.resolveFailed "Printer" "DNSServiceResolve failed: -65537"),
          (printerCallback 0 noError).removed] := by
  obtain ⟨start, s, hstart, hs, hphase, hchannel⟩ := exists_printer_run
  have hreplied := (threads_replied hstart hs).2.2 (.inr ⟨_, hphase⟩)
  rw [hchannel, result?, hphase] at hreplied
  exact ⟨s, hreplied⟩

/-! ## After the guard is dropped -/

namespace Browse

theorem stop_pass (fd : Int32) (turn : Turn) : (s.pass fd turn).stop = s.stop := by
  unfold pass
  dsimp only
  split
  · rfl
  split
  · split <;> rfl
  split
  · rfl
  split
  · rfl
  split <;> rfl

/-- The flag stays set. -/
theorem stop_step {l : Label} {s' : Browse} (hstop : s.stop = true)
    (h : step env display s l = some s') : s'.stop = true := by
  cases l <;> simp only [step] at h
  case pass turn =>
    split at h
    · split at h <;> cases h
      rw [stop_pass, hstop]
    · cases h
  case processed =>
    split at h <;> cases h
    unfold processed
    dsimp only
    split <;> exact hstop
  case dropGuard =>
    cases h
    rfl
  case dropReceiver =>
    cases h
    exact hstop
  all_goals
    split at h <;> cases h
    exact hstop

/-- The rest of the pump thread's work: `u` is what it was when the flag was found
set, or completed. -/
def Winding (env : Environment) (u s : Browse) : Prop :=
  s.stop = true ∧ (s.completion env.browse = u.completion env.browse ∨
    (u.completion env.browse).2 = none ∧
      s.completion env.browse = ((u.completion env.browse).1, some (.ok ())))

theorem Winding.step {u s s' : Browse} {l : Label} (hs : Winding env u s)
    (h : step env display s l = some s') : Winding env u s' := by
  obtain ⟨hstop, hwinding⟩ := hs
  refine ⟨stop_step hstop h, ?_⟩
  rcases completion_step h with ⟨turn, rfl, hphase, hturn, hpass⟩ | ⟨-, hsame⟩
  · have hhead : s.completion env.browse = (s.pump, none) := by rw [completion, hphase]
    rw [pumpTurn_stop (hturn.trans hstop)] at hpass
    rcases hwinding with hsame | ⟨-, hended⟩
    · rw [← hsame, hhead]
      exact .inr ⟨rfl, hpass⟩
    · cases congrArg Prod.snd (hhead.symm.trans hended)
  · rw [hsame]
    exact hwinding

/-! ### The way out -/

/-- The thread can end. -/
def CanReturn (env : Environment) (display : ServiceBrowseError → String) (s : Browse) : Prop :=
  ∃ labels t, run (step env display) s labels = some t ∧ ∃ result, t.phase = .returned result

theorem CanReturn.of_step (l : Label) (s' : Browse) (h : step env display s l = some s')
    (hs : CanReturn env display s') : CanReturn env display s := by
  obtain ⟨labels, t, hrun, hreturned⟩ := hs
  exact ⟨l :: labels, t, by rw [run_cons, h]; exact hrun, hreturned⟩

theorem canReturn_leaving {result : Except ServiceBrowseError Unit}
    (hphase : s.phase = .leaving result) : CanReturn env display s := by
  refine ⟨[.left], { s with
    phase := .returned result
    channel := s.channel ++ ending (some result) }, ?_, result, rfl⟩
  rw [run_cons, step, hphase]
  rfl

/-- A pass that finds the flag set. -/
def stopped : Turn := ⟨true, 0, 0, "", 0, [], noError⟩

theorem canReturn_head (hstop : s.stop = true) (hphase : s.phase = .head) :
    CanReturn env display s := by
  refine .of_step (.pass stopped) (s.goOn s.pump (.leaving (.ok ()))) ?_ (canReturn_leaving rfl)
  simp only [step, hphase]
  exact if_pos hstop.symm

theorem canReturn_starting (hstop : s.stop = true) {keys : List (String × String)}
    (hphase : s.phase = .starting keys) : CanReturn env display s := by
  induction keys generalizing s with
  | nil =>
    refine .of_step .started (s.goOn s.pump .head) ?_ (canReturn_head hstop rfl)
    rw [step, hphase]
  | cons key keys ih =>
    refine .of_step .startPending (s.goOn (s.pump.startPending env.browse key) (.starting keys))
      ?_ (ih hstop rfl)
    rw [step, hphase]

theorem canReturn_dispatching (hstop : s.stop = true) {turn : Turn} {callbacks : List Callback}
    (hphase : s.phase = .dispatching turn callbacks) : CanReturn env display s := by
  induction callbacks generalizing s with
  | nil =>
    refine .of_step .processed (s.processed turn) (by rw [step, hphase]) ?_
    unfold processed
    dsimp only
    split
    · exact canReturn_leaving rfl
    · exact canReturn_starting hstop rfl
  | cons cb callbacks ih =>
    refine .of_step .callback (s.goOn (s.pump.dispatch cb) (.dispatching turn callbacks)) ?_
      (ih hstop rfl)
    rw [step, hphase]

/-- **With the flag set nothing keeps the thread from ending.** -/
theorem canReturn_of_stop (hstop : s.stop = true) : CanReturn env display s := by
  cases hphase : s.phase with
  | head => exact canReturn_head hstop hphase
  | dispatching turn callbacks => exact canReturn_dispatching hstop hphase
  | starting keys => exact canReturn_starting hstop hphase
  | leaving result => exact canReturn_leaving hphase
  | returned result => exact ⟨[], s, rfl, result, hphase⟩

end Browse

/-- **After the guard is dropped** the thread completes the pass that it is in and
makes no other, whatever the resolvers do; and it can end from wherever it is. -/
theorem threads_stop (env : Environment) (display : ServiceBrowseError → String) {u s : Browse}
    (labels : List Label) (h : run (step env display) u (.dropGuard :: labels) = some s) :
    (s.completion env.browse = u.completion env.browse ∨
      (u.completion env.browse).2 = none ∧
        s.completion env.browse = ((u.completion env.browse).1, some (.ok ()))) ∧
    CanReturn env display s := by
  obtain ⟨v, hv, hrest⟩ := Option.bind_eq_some_iff.mp h
  cases hv
  have hwinding : Winding env u s := by
    refine run_invariant (I := Winding env u) ?_ ?_ hrest
    · intro t l t' ht hstep
      exact ht.step hstep
    · exact ⟨rfl, .inl rfl⟩
  exact ⟨hwinding.2, canReturn_of_stop hwinding.1⟩

/-- Dropped between two child browses. -/
theorem threads_stop_example :
    ∃ u s : Browse, u.phase = .starting [("_ipp._tcp", ""), ("_http._tcp", "")] ∧
      run (step willing fun _ => "") u [.dropGuard, .startPending] = some s ∧
      CanReturn willing (fun _ => "") s := by
  let u : Browse := {
    pump := connected (browseStart none none none)
    phase := .starting [("_ipp._tcp", ""), ("_http._tcp", "")] }
  have hstop := threads_stop willing (fun _ => "") (u := u) [.startPending] rfl
  exact ⟨u, _, rfl, rfl, hstop.2⟩

/-! ## The reader -/

namespace Browse

/-- The threads as the senders of the channel. -/
def senders (env : Environment) (display : ServiceBrowseError → String) :
    Receivers.Senders Browse Label Event where
  step := step env display
  sent := channel
  closed s := s.result?.isSome && s.inflight.isEmpty
  receiver s := s.receiver && !s.stop

theorem closed_iff : (senders env display).closed s = true ↔
    (∃ result, s.phase = .returned result) ∧ s.inflight = [] := by
  refine Bool.and_eq_true_iff.trans (and_congr ?_ List.isEmpty_iff)
  rw [result?]
  cases s.phase <;> simp

theorem channel_step {l : Label} {s' : Browse} (h : step env display s l = some s') :
    s.channel <+: s'.channel := by
  rcases step_cases h with ⟨turn, cb, callbacks, -, -, rfl⟩ | ⟨-, -, hq⟩ | ⟨result, -, -, rfl⟩ |
    ⟨r, daemon, -, -, rfl⟩ | ⟨-, rfl⟩ | ⟨-, rfl⟩
  · exact List.prefix_append _ _
  · obtain ⟨errors, -, hchannel⟩ := hq.errors
    exact ⟨_, hchannel.symm⟩
  · exact List.prefix_append _ _
  · exact List.prefix_append _ _
  · exact List.prefix_rfl
  · exact List.prefix_rfl

theorem lawful_senders : (senders env display).Lawful fun _ => True where
  invariant _ _ _ _ _ := trivial
  grows _ _ _ _ h := channel_step h
  final s l s' _ hclosed h := by
    obtain ⟨⟨result, hphase⟩, hnil⟩ := closed_iff.mp hclosed
    rcases step_cases h with ⟨turn, cb, callbacks, -, hbusy, -⟩ | ⟨-, -, hq⟩ |
      ⟨r, -, hleaving, -⟩ | ⟨r, daemon, -, hr, -⟩ | ⟨-, rfl⟩ | ⟨-, rfl⟩
    · cases hphase.symm.trans hbusy
    · have hrunning := hq.running.1
      rw [result?, hphase] at hrunning
      cases hrunning
    · cases hphase.symm.trans hleaving
    · rw [hnil] at hr
      cases hr
    · exact ⟨hclosed, rfl⟩
    · exact ⟨hclosed, rfl⟩

/-- Why the loop ended without an error. -/
theorem hungUp_or_stop (hstart : threads env request = some start)
    (h : run (step env display) start labels = some s)
    (hok : (s.completion env.browse).2 = some (.ok ())) :
    s.stop = true ∨ ∃ turn ∈ labels.filterMap Label.turn?, turn.HungUp := by
  refine run_guarded (P := fun ls u => (u.completion env.browse).2 = some (.ok ()) →
    u.stop = true ∨ ∃ turn ∈ ls.filterMap Label.turn?, turn.HungUp) (G := fun _ _ _ => True)
    ?_ ?_ h (fun _ _ _ _ _ _ => trivial) hok
  · intro hok
    obtain ⟨⟨p, result⟩, -, rfl⟩ := Option.map_eq_some_iff.mp hstart
    cases hok
  · intro ls u l v ih _ hstep hok
    have hmono : u.stop = true → v.stop = true := fun hstop => stop_step hstop hstep
    rcases completion_step hstep with ⟨turn, rfl, -, hturn, hpass⟩ | ⟨hnone, hsame⟩
    · rw [hpass] at hok
      rcases pumpTurn_ok_iff.mp hok with hstop | hhung
      · exact .inl (hmono (hturn.symm.trans hstop))
      · exact .inr ⟨turn, by simp [Label.turn?], hhung⟩
    · rw [hsame] at hok
      rw [filterMap_snoc_none hnone]
      exact (ih hok).imp_left hmono

/-- An ended thread has sent the error of `run_pump`. -/
theorem ending_subset {result : Except ServiceBrowseError Unit} (hheard : Heard display s)
    (hphase : s.phase = .returned result) : ending (some result) ⊆ s.channel := by
  intro e he
  have hresult : s.result? = some result := by rw [result?, hphase]
  refine hheard.shuffle.perm.symm.subset (List.mem_append_left _ (List.mem_append_right _ ?_))
  rw [hresult]
  exact he

end Browse

/-- **What the reader of a browse sees on macOS**: the events in the order in which
they were sent, and `None` when the thread has ended, every resolver has run and
everything was received, from then on for good; until then it waits at most.  With
the handle alive the end comes after an error or after a hang-up of the daemon. -/
theorem threads_recv (hstart : threads env request = some start)
    (labels : List (Receivers.Label Label)) {s : Receivers.Session Browse Event}
    (h : run (Receivers.Session.step (senders env display)) { senders := start } labels = some s) :
    s.received <+: s.senders.channel ∧
    (s.ended = true → s.senders.inflight = [] ∧ s.received = s.senders.channel ∧
      (∃ result, s.senders.phase = .returned result ∧
        (∀ err, result = .error err → .error err ∈ s.received) ∧
        (result = .ok () → s.senders.stop = true ∨
          ∃ turn, .act (.pass turn) ∈ labels ∧ turn.HungUp)) ∧
      ∀ more s', run (Receivers.Session.step (senders env display)) s more = some s' →
        s'.ended = true ∧ s'.received = s.received) ∧
    (s.senders.receiver = true → s.senders.stop = false →
      (s.recv (senders env display) = none ↔ s.received = s.senders.channel ∧
        ((∀ result, s.senders.phase ≠ .returned result) ∨ s.senders.inflight ≠ []))) := by
  have hread := Receivers.read_run lawful_senders (Receivers.Read.start trivial) h
  have hacts := Receivers.run_act h
  obtain ⟨-, hheard⟩ := run_completion hstart hacts
  refine ⟨hread.received, ?_, ?_⟩
  · intro hended
    obtain ⟨hclosed, heq⟩ := hread.ended hended
    obtain ⟨⟨result, hphase⟩, hnil⟩ := closed_iff.mp hclosed
    refine ⟨hnil, heq, ⟨result, hphase, ?_, ?_⟩, ?_⟩
    · rintro err rfl
      rw [heq]
      exact ending_subset hheard hphase (List.mem_singleton_self _)
    · rintro rfl
      refine (hungUp_or_stop hstart hacts ?_).imp_right ?_
      · rw [completion, hphase]
      · rintro ⟨turn, hturn, hhung⟩
        refine ⟨turn, ?_, hhung⟩
        obtain ⟨l, hl, hlturn⟩ := List.mem_filterMap.mp hturn
        obtain ⟨l', hl', hact⟩ := List.mem_filterMap.mp hl
        cases l <;> cases hlturn
        cases l' <;> cases hact
        exact hl'
    · intro more s' hmore
      exact Receivers.received_of_ended lawful_senders hread hended hmore
  · intro hreceiver hstop
    rw [Receivers.recv_eq_none_iff hread (by simp [senders, hreceiver, hstop])]
    refine and_congr_right fun _ => ?_
    rw [← Bool.not_eq_true, closed_iff, not_and_or, not_exists]

theorem threads_recv_example :
    ∃ s : Receivers.Session Browse Event, s.ended = true ∧ s.received = s.senders.channel ∧
      s.received = [.error (.resolveFailed "Printer" "DNSServiceResolve failed: -65537"),
        (printerCallback 0 noError).removed] := by
  let labels : List (Receivers.Label Label) :=
    printerLabels.map .act ++ [.recv, .recv, .recv]
  have hany : ((threads willing (browseStart (some "_ipp._tcp") none none)).any fun start =>
      (run (Receivers.Session.step (senders willing fun _ => "")) { senders := start }
        labels).any fun s => decide (s.ended = true ∧
          s.received = [.error (.resolveFailed "Printer" "DNSServiceResolve failed: -65537"),
            (printerCallback 0 noError).removed])) = true := by
    decide +kernel
  obtain ⟨start, hstart, hrun⟩ := (Option.any_eq_true _ _).mp hany
  obtain ⟨s, hs, hends⟩ := (Option.any_eq_true _ _).mp hrun
  obtain ⟨hended, hreceived⟩ := of_decide_eq_true hends
  exact ⟨s, hended, ((threads_recv hstart labels hs).2.1 hended).2.1, hreceived⟩

end

end MdnsSdDiscovery.Macos
