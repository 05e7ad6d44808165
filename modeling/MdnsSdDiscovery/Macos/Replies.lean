import MdnsSdDiscovery.Lib.Shuffle
import MdnsSdDiscovery.Macos.Cascade
import MdnsSdDiscovery.Macos.Resolve
import Mathlib.Data.List.Perm.Subperm

/-!
# The replies of a browse and the events they become

The pump of `browse_start` runs on a thread of its own, every resolve on the
blocking pool, and the guard sets the stop flag whenever it is dropped.  The
channel is a shuffle of what the thread sends and what the resolvers that have
run send.

* `pumpTurn_error_iff`, `pumpTurn_ok_iff`: when a pass of the loop is the last;
* `processResults_after_stop`: what the stop flag leaves to be done;
* `pump_replies`: every reply becomes one event.
-/

namespace MdnsSdDiscovery.Macos

open Runs Shuffles

/-! ## The passes of the loop -/

/-- `POLLHUP | POLLERR | POLLNVAL` -/
def hangUps : Int16 := pollhup ||| pollerr ||| pollnval

/-- `poll` is interrupted, times out, or reports nothing that the loop tests. -/
def Turn.Idle (turn : Turn) : Prop :=
  (turn.rv < 0 ∧ turn.errno = eintr) ∨ turn.rv = 0 ∨
    (0 < turn.rv ∧ turn.revents &&& pollin = 0 ∧ turn.revents &&& hangUps = 0)

/-- `poll` reports data. -/
def Turn.Readable (turn : Turn) : Prop := 0 < turn.rv ∧ turn.revents &&& pollin ≠ 0

/-- `poll` reports a hang-up and no data. -/
def Turn.HungUp (turn : Turn) : Prop :=
  0 < turn.rv ∧ turn.revents &&& pollin = 0 ∧ turn.revents &&& hangUps ≠ 0

/-- `poll` fails, and not for a signal. -/
def Turn.PollFailed (turn : Turn) : Prop := turn.rv < 0 ∧ turn.errno ≠ eintr

/-- The error of a pass in which `poll` or `DNSServiceProcessResult` fails. -/
inductive Turn.Fails (turn : Turn) : ServiceBrowseError → Prop
  | poll (h : turn.PollFailed) : Turn.Fails turn (.browseFailed s!"poll failed: {turn.strerror}")
  | processResult (h : turn.Readable) (herr : turn.err ≠ noError) :
    Turn.Fails turn (.browseFailed s!"DNSServiceProcessResult failed: {turn.err}")

theorem Turn.cases (turn : Turn) :
    turn.Idle ∨ turn.Readable ∨ turn.HungUp ∨ turn.PollFailed := by
  by_cases hneg : turn.rv < 0
  · by_cases herrno : turn.errno = eintr
    · exact .inl (.inl ⟨hneg, herrno⟩)
    · exact .inr (.inr (.inr ⟨hneg, herrno⟩))
  by_cases hzero : turn.rv = 0
  · exact .inl (.inr (.inl hzero))
  have hpos : 0 < turn.rv := Int32.lt_of_le_of_ne (Int32.not_lt.mp hneg) (Ne.symm hzero)
  by_cases hin : turn.revents &&& pollin = 0
  · by_cases hhup : turn.revents &&& hangUps = 0
    · exact .inl (.inr (.inr ⟨hpos, hin, hhup⟩))
    · exact .inr (.inr (.inl ⟨hpos, hin, hhup⟩))
  · exact .inr (.inl ⟨hpos, hin⟩)

section
variable {native : Nat → Int32} {fd : Int32} {p : Pump} {turn : Turn}

/-- Data or a hang-up: the pass goes on to test `revents`. -/
theorem pumpTurn_of_pos (hstop : turn.stop = false) (hrv : 0 < turn.rv) :
    p.pumpTurn native fd turn =
      let polled := p.record (.poll fd turn.rv)
      if turn.revents &&& pollin ≠ 0 then
        if turn.err ≠ noError then
          (polled.dispatchAll turn,
            some (.error (.browseFailed s!"DNSServiceProcessResult failed: {turn.err}")))
        else ((polled.dispatchAll turn).startPendingBrowses native, none)
      else if turn.revents &&& hangUps ≠ 0 then (polled, some (.ok ()))
      else (polled, none) := by
  have hneg : ¬ turn.rv < 0 := Int32.not_lt.mpr (Int32.le_of_lt hrv)
  have hzero : turn.rv ≠ 0 := (Int32.ne_of_lt hrv).symm
  unfold Pump.pumpTurn Pump.processResult
  rw [hstop, if_neg Bool.false_ne_true, if_neg hneg, if_neg hzero]
  dsimp only
  by_cases herr : turn.err = noError
  · rw [if_neg (not_not.mpr herr), if_neg (not_not.mpr herr)]
    rfl
  · rw [if_pos herr, if_pos herr]
    rfl

/-- **An idle pass** only polls. -/
theorem pumpTurn_idle (hstop : turn.stop = false) (h : turn.Idle) :
    p.pumpTurn native fd turn = (p.record (.poll fd turn.rv), none) := by
  rcases h with ⟨hrv, herrno⟩ | hrv | ⟨hrv, hin, hhup⟩
  · unfold Pump.pumpTurn
    rw [hstop, if_neg Bool.false_ne_true, if_pos hrv, if_pos herrno]
  · have hneg : ¬ turn.rv < 0 := by
      rw [hrv]
      decide
    unfold Pump.pumpTurn
    rw [hstop, if_neg Bool.false_ne_true, if_neg hneg, if_pos hrv]
  · rw [pumpTurn_of_pos hstop hrv]
    dsimp only
    rw [if_neg (not_not.mpr hin), if_neg (not_not.mpr hhup)]

/-- **Data is dispatched**, whatever else `poll` reports. -/
theorem pumpTurn_readable (hstop : turn.stop = false) (h : turn.Readable) :
    p.pumpTurn native fd turn =
      let dispatched := (p.record (.poll fd turn.rv)).dispatchAll turn
      if turn.err ≠ noError then
        (dispatched, some (.error (.browseFailed s!"DNSServiceProcessResult failed: {turn.err}")))
      else (dispatched.startPendingBrowses native, none) := by
  rw [pumpTurn_of_pos hstop h.1]
  exact if_pos h.2

theorem pumpTurn_hungUp (hstop : turn.stop = false) (h : turn.HungUp) :
    p.pumpTurn native fd turn = (p.record (.poll fd turn.rv), some (.ok ())) := by
  rw [pumpTurn_of_pos hstop h.1]
  dsimp only
  rw [if_neg (not_not.mpr h.2.1), if_pos h.2.2]

theorem pumpTurn_pollFailed (hstop : turn.stop = false) (h : turn.PollFailed) :
    p.pumpTurn native fd turn = (p.record (.poll fd turn.rv),
      some (.error (.browseFailed s!"poll failed: {turn.strerror}"))) := by
  unfold Pump.pumpTurn
  rw [hstop, if_neg Bool.false_ne_true, if_pos h.1, if_neg h.2]

theorem pumpTurn_stop (hstop : turn.stop = true) :
    p.pumpTurn native fd turn = (p, some (.ok ())) := by
  unfold Pump.pumpTurn
  rw [if_pos hstop]

/-- **The loop ends without an error** at the flag and at a hang-up. -/
theorem pumpTurn_ok_iff :
    (p.pumpTurn native fd turn).2 = some (.ok ()) ↔ turn.stop = true ∨ turn.HungUp := by
  cases hstop : turn.stop with
  | true =>
    rw [pumpTurn_stop hstop]
    exact iff_of_true rfl (.inl rfl)
  | false =>
    constructor
    · intro hok
      right
      rcases turn.cases with h | h | h | h
      · rw [pumpTurn_idle hstop h] at hok
        cases hok
      · rw [pumpTurn_readable hstop h] at hok
        dsimp only at hok
        split at hok <;> cases hok
      · exact h
      · rw [pumpTurn_pollFailed hstop h] at hok
        cases hok
    · rintro (h | h)
      · cases h
      · rw [pumpTurn_hungUp hstop h]

/-- **The loop ends with an error** when a call fails. -/
theorem pumpTurn_error_iff {err : ServiceBrowseError} :
    (p.pumpTurn native fd turn).2 = some (.error err) ↔ turn.stop = false ∧ turn.Fails err := by
  cases hstop : turn.stop with
  | true =>
    rw [pumpTurn_stop hstop]
    simp
  | false =>
    constructor
    · intro herror
      refine ⟨rfl, ?_⟩
      rcases turn.cases with h | h | h | h
      · rw [pumpTurn_idle hstop h] at herror
        cases herror
      · rw [pumpTurn_readable hstop h] at herror
        dsimp only at herror
        split at herror
        · rename_i herr
          cases herror
          exact .processResult h herr
        · cases herror
      · rw [pumpTurn_hungUp hstop h] at herror
        cases herror
      · rw [pumpTurn_pollFailed hstop h] at herror
        cases herror
        exact .poll h
    · rintro ⟨-, h | ⟨h, herr⟩⟩
      · rw [pumpTurn_pollFailed hstop h]
      · rw [pumpTurn_readable hstop h]
        dsimp only
        rw [if_pos herr]

end

/-! ## Runs -/

/-- The loop of `run_pump` after the turns, with its result once it has ended;
`none` if the set-up fails. -/
def pumpRun (env : Environment) (request : Request) (turns : List Turn) :
    Option (Pump × Option (Except ServiceBrowseError Unit)) :=
  match create env request with
  | .error _ => none
  | .ok p =>
    match setUp env request p with
    | (_, .error _) => none
    | (p, .ok fd) => some (p.pumpLoop env.browse fd turns)

section
variable {env : Environment} {request : Request} {turns : List Turn} {p : Pump}
  {result : Option (Except ServiceBrowseError Unit)}

theorem pumpRun_eq_some {x : Pump × Option (Except ServiceBrowseError Unit)}
    (h : pumpRun env request turns = some x) :
    ∃ q fd, create env request = .ok (connected request) ∧
      setUp env request (connected request) = (q, .ok fd) ∧
      x = q.pumpLoop env.browse fd turns := by
  unfold pumpRun at h
  rcases create_cases env request with ⟨-, err, hc⟩ | ⟨-, hc⟩ <;> rw [hc] at h
  · cases h
  · cases hs : setUp env request (connected request) with
    | mk q fd =>
      dsimp only at h
      rw [hs] at h
      cases fd with
      | error err => cases h
      | ok fd => exact ⟨q, fd, hc, rfl, (Option.some.inj h).symm⟩

theorem pumpRun_eq {q : Pump} {fd : Int32} (hc : create env request = .ok (connected request))
    (hs : setUp env request (connected request) = (q, .ok fd)) (ts : List Turn) :
    pumpRun env request ts = some (q.pumpLoop env.browse fd ts) := by
  unfold pumpRun
  rw [hc]
  dsimp only
  rw [hs]

/-- When the loop ends, `run_pump` returns its result. -/
theorem runPump_of_pumpRun {r : Except ServiceBrowseError Unit}
    (h : pumpRun env request turns = some (p, some r)) :
    runPump env request turns = some (p.leave r) := by
  obtain ⟨q, fd, hc, hs, hloop⟩ := pumpRun_eq_some h
  unfold runPump
  rw [hc]
  dsimp only
  rw [hs]
  dsimp only
  rw [← hloop]

theorem Pump.pumpLoop_snoc (native : Nat → Int32) (fd : Int32) (p : Pump) (turns : List Turn)
    (turn : Turn) :
    p.pumpLoop native fd (turns ++ [turn]) =
      match p.pumpLoop native fd turns with
      | (q, none) => q.pumpTurn native fd turn
      | (q, some r) => (q, some r) := by
  induction turns generalizing p with
  | nil =>
    rw [List.nil_append, Pump.pumpLoop]
    cases ht : p.pumpTurn native fd turn with
    | mk q result => cases result <;> simp [Pump.pumpLoop, ht]
  | cons t turns ih =>
    rw [List.cons_append, Pump.pumpLoop, Pump.pumpLoop]
    cases ht : p.pumpTurn native fd t with
    | mk q result =>
      cases result with
      | none => exact ih q
      | some r => rfl

/-- **Run rule.**  What the set-up establishes and every pass keeps holds after
every run, whether the loop has ended or not. -/
theorem pumpRun_rule {P : List Turn → Pump → Option (Except ServiceBrowseError Unit) → Prop}
    (hstart : ∀ q fd, setUp env request (connected request) = (q, .ok fd) → P [] q none)
    (hturn : ∀ turns turn q fd, pumpRun env request turns = some (q, none) → P turns q none →
      P (turns ++ [turn]) (q.pumpTurn env.browse fd turn).1 (q.pumpTurn env.browse fd turn).2)
    (hended : ∀ turns turn q r, P turns q (some r) → P (turns ++ [turn]) q (some r))
    (h : pumpRun env request turns = some (p, result)) : P turns p result := by
  obtain ⟨q, fd, hc, hs, hloop⟩ := pumpRun_eq_some h
  have hrun := pumpRun_eq hc hs
  have hP : ∀ ts, P ts (q.pumpLoop env.browse fd ts).1 (q.pumpLoop env.browse fd ts).2 := by
    intro ts
    induction ts using List.reverseRecOn with
    | nil => exact hstart q fd hs
    | append_singleton ts turn ih =>
      rw [Pump.pumpLoop_snoc]
      cases hl : q.pumpLoop env.browse fd ts with
      | mk u r =>
        rw [hl] at ih
        cases r with
        | none => exact hturn ts turn u fd (hl ▸ hrun ts) ih
        | some r => exact hended ts turn u r ih
  have hlast := hP turns
  rw [← hloop] at hlast
  exact hlast

end

/-! ## After the stop flag -/

def Native.isProcessResult : Native → Bool
  | .processResult _ => true
  | _ => false

/-- `q` is `p` after more calls, at most `n` of them `DNSServiceProcessResult`. -/
def Grows (n : Nat) (p q : Pump) : Prop :=
  ∃ calls, q.trace = p.trace ++ calls ∧ calls.countP Native.isProcessResult ≤ n

section
variable {native : Nat → Int32} {p q r : Pump} {m n : Nat}

theorem Grows.refl (p : Pump) : Grows 0 p p := ⟨[], (List.append_nil _).symm, Nat.le_refl _⟩

theorem Grows.trans (h : Grows m p q) (h' : Grows n q r) : Grows (m + n) p r := by
  obtain ⟨calls, htrace, hcount⟩ := h
  obtain ⟨calls', htrace', hcount'⟩ := h'
  refine ⟨calls ++ calls', ?_, ?_⟩
  · rw [htrace', htrace, List.append_assoc]
  · rw [List.countP_append]
    omega

theorem Grows.record (p : Pump) (call : Native) :
    Grows call.isProcessResult.toNat p (p.record call) := by
  refine ⟨[call], rfl, ?_⟩
  rw [List.countP_singleton]
  cases call.isProcessResult <;> simp

theorem Grows.mono (h : Grows m p q) (hmn : m ≤ n) : Grows n p q := by
  obtain ⟨calls, htrace, hcount⟩ := h
  exact ⟨calls, htrace, hcount.trans hmn⟩

theorem Grows.browse {regtype domain : String} {interface : UInt32} {isMeta : Bool}
    {result : Except ServiceBrowseError Unit}
    (hb : p.browse native regtype domain interface isMeta = (q, result)) : Grows 0 p q := by
  obtain ⟨-, ⟨rfl, -⟩ | ⟨rc, dc, ⟨-, rfl, -⟩ | ⟨-, -, rfl⟩⟩⟩ := Pump.browse_cases hb
  · exact .refl _
  · exact .record p _
  · exact .record p _

theorem Grows.startPending (p : Pump) (key : String × String) :
    Grows 0 p (p.startPending native key) := by
  cases hb : p.browse native key.1 key.2 p.state.interface false with
  | mk u result =>
    have hu := Grows.browse hb
    cases result <;> simp only [Pump.startPending, hb] <;> exact hu

theorem Grows.startPendingBrowses (p : Pump) : Grows 0 p (p.startPendingBrowses native) :=
  Pump.startPendingBrowses_rule (I := Grows 0 p) (.refl p) fun q key hq =>
    hq.trans (.startPending q key)

theorem Grows.dispatchAll (p : Pump) (turn : Turn) : Grows 1 p (p.dispatchAll turn) := by
  refine Pump.dispatchAll_rule (I := Grows 1 p) (.record p _) ?_ ?_
  · intro q cb hq
    exact hq.trans (.record q (.callback cb.isMeta))
  · intro q hq
    exact hq.trans (.record q (.processed turn.err))

/-- A pass makes at most one `DNSServiceProcessResult`. -/
theorem Grows.pumpTurn (native : Nat → Int32) (fd : Int32) (p : Pump) (turn : Turn) :
    Grows 1 p (p.pumpTurn native fd turn).1 := by
  have hpoll : Grows 0 p (p.record (.poll fd turn.rv)) := .record p _
  rcases Pump.pumpTurn_cases native fd p turn with
    ⟨-, he⟩ | ⟨result, -, he⟩ | ⟨err, -, he⟩ | ⟨-, he⟩ <;> rw [he]
  · exact (Grows.refl p).mono (Nat.zero_le 1)
  · exact hpoll.mono (Nat.zero_le 1)
  · exact hpoll.trans (.dispatchAll _ turn)
  · exact (hpoll.trans (.dispatchAll _ turn)).trans (.startPendingBrowses _)

/-- The set-up makes none. -/
theorem Grows.setUp {env : Environment} {request : Request}
    {result : Except ServiceBrowseError Int32} (h : setUp env request p = (q, result)) :
    Grows 0 p q := by
  have hopened : Grows 0 p (p.record (.refSockFD p.conn.shared env.refSockFD)) := .record p _
  rcases setUp_cases h with ⟨rfl, -⟩ | ⟨err, hb, -⟩ | ⟨hb, -⟩
  · exact hopened
  · exact hopened.trans (.browse hb)
  · exact hopened.trans (.browse hb)

end

/-- The guard has set the flag when `moment` native calls have been made: every
later test of the loop finds it set. -/
def StopSet (env : Environment) (request : Request) (turns : List Turn) (moment : Nat) : Prop :=
  ∀ pre turn q, pre ++ [turn] <+: turns → pumpRun env request pre = some (q, none) →
    moment < q.trace.length → turn.stop = true

/-- **After the flag is set**, wherever the thread is then, at most one more
`DNSServiceProcessResult` is made. -/
theorem processResults_after_stop {env : Environment} {request : Request} {turns : List Turn}
    {p : Pump} {result : Option (Except ServiceBrowseError Unit)} {moment : Nat}
    (h : pumpRun env request turns = some (p, result))
    (hstop : StopSet env request turns moment) :
    (p.trace.drop moment).countP Native.isProcessResult ≤ 1 := by
  refine pumpRun_rule (P := fun turns p _ => StopSet env request turns moment →
    (p.trace.drop moment).countP Native.isProcessResult ≤ 1) ?_ ?_ ?_ h hstop
  · intro q fd hs _
    obtain ⟨calls, htrace, hcount⟩ := Grows.setUp hs
    have hnone : q.trace.countP Native.isProcessResult ≤ 0 := by
      rw [htrace, List.countP_append]
      exact hcount.trans' (Nat.zero_add _).le
    exact ((List.drop_sublist _ _).countP_le).trans (hnone.trans (Nat.zero_le 1))
  · intro turns turn q fd hrun ih hset
    by_cases hlt : moment < q.trace.length
    · rw [pumpTurn_stop (hset turns turn q List.prefix_rfl hrun hlt)]
      exact ih fun pre t u hpre => hset pre t u (hpre.trans (List.prefix_append _ _))
    · obtain ⟨calls, htrace, hcount⟩ := Grows.pumpTurn env.browse fd q turn
      rw [htrace, List.drop_append, List.drop_eq_nil_of_le (by omega), List.nil_append]
      exact ((List.drop_sublist _ _).countP_le).trans hcount
  · intro turns turn q r ih hset
    exact ih fun pre t u hpre => hset pre t u (hpre.trans (List.prefix_append _ _))

/-! ## What the replies become -/

/-- The service that an instance removal removes. -/
def Callback.removal? (cb : Callback) : Option RemovedService :=
  if cb.errorCode = noError ∧ ¬ cb.isMeta ∧ cb.flags &&& flagsAdd = 0 then
    some ⟨cstrToString cb.serviceName, trimDot (cstrToString cb.regtype),
      trimDot (cstrToString cb.replyDomain), NonZeroU32.new cb.interfaceIndex⟩
  else none

/-- The service of a `Removed` event. -/
def removed? : Event → Option RemovedService
  | .ok (.removed r) => some r
  | _ => none

/-- The event ends a resolve. -/
def isResolution : Event → Bool
  | .ok (.found _) | .error (.resolveFailed ..) => true
  | _ => false

theorem browseCallback_sends (state : PumpState) (cb : Callback) :
    (state.browseCallback cb).sent = state.sent ++ cb.event?.toList ∧
      (state.browseCallback cb).resolves = state.resolves ++ cb.resolve?.toList := by
  rcases browseCallback_cases state cb with
    ⟨e, -, he, hr, hcb⟩ | ⟨key, -, he, hr, -, hcb⟩ | ⟨key, -, he, hr, -, hcb⟩ | ⟨-, he, hcb⟩
  · simp [hcb, he, hr, PumpState.send]
  · simp [hcb, he, hr]
  · simp [hcb, he, hr]
  · simp [hcb, he]

theorem Callback.event?_bind_removed? (cb : Callback) : cb.event?.bind removed? = cb.removal? := by
  unfold Callback.event? Callback.removal?
  by_cases herr : cb.errorCode = noError
  · rw [if_neg (not_not.mpr herr)]
    by_cases hrem : ¬ cb.isMeta ∧ cb.flags &&& flagsAdd = 0
    · rw [if_pos hrem, if_pos ⟨herr, hrem⟩]
      rfl
    · rw [if_neg hrem, if_neg fun h => hrem h.2]
      rfl
  · rw [if_pos herr, if_neg fun h => herr h.1]
    rfl

theorem Callback.not_isResolution {cb : Callback} {e : Event} (h : cb.event? = some e) :
    isResolution e = false := by
  unfold Callback.event? at h
  split at h
  · cases h
    rfl
  split at h
  · cases h
    rfl
  · cases h

/-- What was handed to the resolvers and sent, up to the errors of the child
browses in between. -/
structure Sends (p : Pump) : Prop where
  resolves : p.state.resolves = p.delivered.filterMap Callback.resolve?
  events : (p.delivered.filterMap Callback.event?).Sublist p.state.sent

section
variable {native : Nat → Int32} {p : Pump}

theorem Sends.dispatch (h : Sends p) (cb : Callback) : Sends (p.dispatch cb) := by
  obtain ⟨hsent, hresolves⟩ := browseCallback_sends p.state cb
  constructor
  · change (p.state.browseCallback cb).resolves = (p.delivered ++ [cb]).filterMap _
    rw [hresolves, filterMap_snoc, h.resolves]
  · change ((p.delivered ++ [cb]).filterMap _).Sublist (p.state.browseCallback cb).sent
    rw [hsent, filterMap_snoc]
    exact h.events.append (List.Sublist.refl _)

theorem Sends.startPending (h : Sends p) (key : String × String) :
    Sends (p.startPending native key) := by
  obtain ⟨a, -, -, -, -, hstate, hdelivered⟩ := startPending_cases native p key
  constructor
  · rw [hstate, hdelivered]
    exact h.resolves
  · rw [hstate, hdelivered]
    exact h.events.trans (List.sublist_append_left _ _)

/-- The trace does not matter. -/
theorem Sends.record (h : Sends p) (call : Native) : Sends (p.record call) :=
  ⟨h.resolves, h.events⟩

theorem Sends.startPendingBrowses (h : Sends p) : Sends (p.startPendingBrowses native) :=
  Pump.startPendingBrowses_rule (I := Sends) ⟨h.resolves, h.events⟩ fun _ key hq =>
    hq.startPending key

theorem Sends.dispatchAll (h : Sends p) (turn : Turn) : Sends (p.dispatchAll turn) := by
  refine Pump.dispatchAll_rule (I := Sends) (h.record _) ?_ ?_
  · intro q cb hq
    exact hq.dispatch cb
  · intro q hq
    exact hq.record _

theorem Sends.pumpTurn (h : Sends p) (fd : Int32) (turn : Turn) :
    Sends (p.pumpTurn native fd turn).1 := by
  refine Pump.pumpTurn_rule fd h (h.record _) ?_ ?_
  · intro q hq
    exact hq.dispatchAll turn
  · intro q hq
    exact hq.startPendingBrowses

end

/-! ## The channel -/

/-- What `browse_start` sends when `run_pump` returns. -/
def ending : Option (Except ServiceBrowseError Unit) → List Event
  | some (.error err) => [.error err]
  | _ => []

/-- What the resolvers that have run have sent. -/
def answers (display : ServiceBrowseError → String) (ran : List (Resolve × Daemon)) : List Event :=
  ran.map fun r => resolveService display r.2 r.1

/-- What the channel may read when the resolvers `ran` have run, each at most
once and in any order. -/
structure Channel (display : ServiceBrowseError → String) (p : Pump)
    (result : Option (Except ServiceBrowseError Unit)) (ran : List (Resolve × Daemon))
    (channel : List Event) : Prop where
  spawned : (ran.map Prod.fst).Subperm p.state.resolves
  shuffle : Shuffle (p.state.sent ++ ending result) (answers display ran) channel

/-- The failure that ends the loop is reported. -/
theorem Channel.reported {display : ServiceBrowseError → String} {p : Pump}
    {err : ServiceBrowseError} {ran : List (Resolve × Daemon)} {channel : List Event}
    (h : Channel display p (some (.error err)) ran channel) : .error err ∈ channel := by
  refine h.shuffle.perm.mem_iff.mpr (List.mem_append_left _ (List.mem_append_right _ ?_))
  exact List.mem_singleton_self _

/-- **Every reply has become one event.** -/
structure Replied (display : ServiceBrowseError → String) (p : Pump)
    (result : Option (Except ServiceBrowseError Unit)) (ran : List (Resolve × Daemon))
    (channel : List Event) : Prop where
  /-- Each instance addition has its resolver, and each that has run its event. -/
  resolves : p.state.resolves = p.delivered.filterMap Callback.resolve?
  resolutions : channel.filter isResolution = answers display ran
  /-- Each instance removal has its event, in order. -/
  removals : channel.filterMap removed? = p.delivered.filterMap Callback.removal?
  /-- Beside these there are the events of the error replies, of the child
  browses that failed, and of the call that ended the loop. -/
  events : channel.Perm (p.delivered.filterMap Callback.event? ++
    p.attempts.filterMap Attempt.error? ++ ending result ++ answers display ran)

theorem cstring_error {s : String} {err : ServiceBrowseError} (h : cstring s = .error err) :
    ∃ position, err = .parameterContainsInteriorNulByte s position := by
  unfold cstring at h
  split at h
  · cases h
    exact ⟨_, rfl⟩
  · cases h

/-- A browse does not fail with an error of a resolver. -/
theorem browseResult_not_isResolution {native : Nat → Int32} {regtype domain : String} {call : Nat}
    {err : ServiceBrowseError} (h : browseResult native regtype domain call = .error err) :
    isResolution (.error err) = false := by
  unfold browseResult at h
  cases hr : cstring regtype with
  | error e =>
    rw [hr] at h
    cases h
    obtain ⟨position, rfl⟩ := cstring_error hr
    rfl
  | ok regtypeC =>
    rw [hr] at h
    dsimp only at h
    by_cases hempty : domain = ""
    · rw [if_pos hempty] at h
      dsimp only at h
      split at h
      · cases h
        rfl
      · cases h
    · rw [if_neg hempty] at h
      cases hd : cstring domain with
      | error e =>
        rw [hd] at h
        cases h
        obtain ⟨position, rfl⟩ := cstring_error hd
        rfl
      | ok domainC =>
        rw [hd] at h
        change (if native call ≠ noError then _ else _) = _ at h
        split at h
        · cases h
          rfl
        · cases h

/-- What holds of the pump after every run. -/
structure Kept (native : Nat → Int32) (p : Pump)
    (result : Option (Except ServiceBrowseError Unit)) : Prop where
  head : result = none → LoopHead native p
  cascade : Cascade native p.state.pending p
  sends : Sends p
  failed : ∀ err, result = some (.error err) → ∃ reason, err = .browseFailed reason

section
variable {env : Environment} {native : Nat → Int32} {p : Pump} {turn : Turn}
  {result : Option (Except ServiceBrowseError Unit)}

theorem LoopHead.kept (h : LoopHead native p) (hsends : Sends p) : Kept native p none := by
  refine ⟨fun _ => h, ?_, hsends, by simp⟩
  rw [h.pending]
  exact h.cascade

theorem Kept.pumpTurn (h : Kept native p none) (fd : Int32) (turn : Turn) :
    Kept native (p.pumpTurn native fd turn).1 (p.pumpTurn native fd turn).2 := by
  have hhead := h.head rfl
  constructor
  case head =>
    intro hnone
    exact hhead.pumpTurn (q := (p.pumpTurn native fd turn).1) (Prod.ext rfl hnone)
  case cascade =>
    refine Pump.pumpTurn_rule (I := fun q => Cascade native q.state.pending q) fd h.cascade
      (h.cascade.record _) ?_ ?_
    · intro q hq
      exact hq.dispatchAll turn
    · intro q hq
      obtain ⟨hdone, hnil⟩ := hq.startPendingBrowses
      rw [hnil]
      exact hdone
  case sends => exact h.sends.pumpTurn fd turn
  case failed =>
    intro err herror
    obtain ⟨-, hfails⟩ := pumpTurn_error_iff.mp herror
    cases hfails <;> exact ⟨_, rfl⟩

theorem sends_setUp {request : Request} {fd : Int32}
    (h : setUp env request (connected request) = (p, .ok fd)) : Sends p := by
  rcases setUp_cases h with ⟨-, err, hr⟩ | ⟨err, -, hr⟩ | ⟨hb, -⟩
  · cases hr
  · cases hr
  · obtain ⟨-, ⟨rfl, -⟩ | ⟨rc, dc, ⟨-, rfl, -⟩ | ⟨-, -, rfl⟩⟩⟩ := Pump.browse_cases hb
    all_goals exact ⟨rfl, List.Sublist.refl _⟩

theorem kept_of_pumpRun {request : Request} {turns : List Turn}
    (h : pumpRun env request turns = some (p, result)) : Kept env.browse p result := by
  refine pumpRun_rule (P := fun _ p result => Kept env.browse p result) ?_ ?_ ?_ h
  · intro q fd hs
    exact (loopHead_setUp hs).kept (sends_setUp hs)
  · intro turns turn q fd _ ih
    exact ih.pumpTurn fd turn
  · intro turns turn q r ih
    exact ih

/-- The thread sends no event that ends a resolve. -/
theorem Kept.not_isResolution (h : Kept native p result) :
    ∀ e ∈ p.state.sent ++ ending result, isResolution e = false := by
  intro e he
  rcases List.mem_append.mp he with he | he
  · rcases List.mem_append.mp (h.cascade.sent.mem_iff.mp he) with he | he
    · obtain ⟨cb, -, hcb⟩ := List.mem_filterMap.mp he
      exact Callback.not_isResolution hcb
    · obtain ⟨a, ha, hea⟩ := List.mem_filterMap.mp he
      have hresult := h.cascade.results a ha
      unfold Attempt.error? at hea
      split at hea
      · cases hea
      · rename_i err herr
        cases hea
        exact browseResult_not_isResolution (hresult.symm.trans herr)
  · cases result with
    | none => cases he
    | some r =>
      cases r with
      | ok _ => cases he
      | error err =>
        obtain ⟨reason, rfl⟩ := h.failed err rfl
        rw [List.mem_singleton.mp he]
        rfl

/-- The thread sends the removals in order. -/
theorem Kept.removals (h : Kept native p result) :
    (p.state.sent ++ ending result).filterMap removed? =
      p.delivered.filterMap Callback.removal? := by
  have hending : (ending result).filterMap removed? = [] := by
    cases result with
    | none => rfl
    | some r => cases r <;> rfl
  have hreplies : (p.delivered.filterMap Callback.event?).filterMap removed? =
      p.delivered.filterMap Callback.removal? := by
    rw [List.filterMap_filterMap]
    congr 1
    funext cb
    exact cb.event?_bind_removed?
  have hattempts : (p.attempts.filterMap Attempt.error?).filterMap removed? = [] := by
    rw [List.filterMap_filterMap, List.filterMap_eq_nil_iff]
    intro a _
    unfold Attempt.error?
    cases a.result <;> rfl
  have hperm := h.cascade.sent.filterMap removed?
  rw [List.filterMap_append, hattempts, List.append_nil] at hperm
  have heq := (h.sends.events.filterMap removed?).eq_of_length hperm.length_eq.symm
  rw [List.filterMap_append, hending, List.append_nil, ← heq, hreplies]

theorem Kept.replied (h : Kept native p result) {display : ServiceBrowseError → String}
    {ran : List (Resolve × Daemon)} {channel : List Event}
    (hchannel : Channel display p result ran channel) :
    Replied display p result ran channel := by
  have hanswers : ∀ e ∈ answers display ran, isResolution e = true ∧ removed? e = none := by
    intro e he
    obtain ⟨r, -, rfl⟩ := List.mem_map.mp he
    rcases resolveService_cases display r.2 r.1 with ⟨service, hr, -⟩ | ⟨err, hr⟩ <;> rw [hr]
    · exact ⟨rfl, rfl⟩
    · exact ⟨rfl, rfl⟩
  refine ⟨h.sends.resolves, ?_, ?_, ?_⟩
  · have hfilter := hchannel.shuffle.filter isResolution
    rw [List.filter_eq_nil_iff.mpr fun e he => by rw [h.not_isResolution e he]; decide,
      List.filter_eq_self.mpr fun e he => (hanswers e he).1] at hfilter
    exact hfilter.eq_right
  · have hremoved := hchannel.shuffle.filterMap removed?
    rw [List.filterMap_eq_nil_iff.mpr fun e he => (hanswers e he).2, h.removals] at hremoved
    exact hremoved.eq_left
  · exact hchannel.shuffle.perm.trans
      ((h.cascade.sent.append_right (ending result)).append_right (answers display ran))

end

/-! ## The whole run -/

section
variable {env : Environment} {request : Request} {native : Nat → Int32} {p q : Pump}

theorem startPendingBrowses_delivered (p : Pump) :
    (p.startPendingBrowses native).delivered = p.delivered := by
  refine Pump.startPendingBrowses_rule (I := fun q => q.delivered = p.delivered) rfl ?_
  intro q key hq
  obtain ⟨a, -, -, -, -, -, hdelivered⟩ := startPending_cases native q key
  exact hdelivered.trans hq

theorem dispatchAll_delivered (p : Pump) (turn : Turn) :
    (p.dispatchAll turn).delivered = p.delivered ++ turn.callbacks := by
  have hfold : ∀ (callbacks : List Callback) (q : Pump),
      (callbacks.foldl Pump.dispatch q).delivered = q.delivered ++ callbacks := by
    intro callbacks
    induction callbacks with
    | nil => exact fun q => (List.append_nil _).symm
    | cons cb callbacks ih =>
      intro q
      rw [List.foldl_cons, ih, List.append_cons]
      rfl
  exact hfold turn.callbacks (p.record (.processResult p.conn.shared))

/-- **What is readable is delivered**, whatever else `poll` reports. -/
theorem pumpTurn_delivered {fd : Int32} {turn : Turn} (hstop : turn.stop = false)
    (h : turn.Readable) :
    (p.pumpTurn native fd turn).1.delivered = p.delivered ++ turn.callbacks := by
  have hpolled := dispatchAll_delivered (p.record (.poll fd turn.rv)) turn
  rw [pumpTurn_readable hstop h]
  dsimp only
  split
  · exact hpolled
  · exact (startPendingBrowses_delivered _).trans hpolled

/-- A run goes on with one more pass. -/
theorem pumpRun_snoc {turns : List Turn} (h : pumpRun env request turns = some (p, none)) :
    ∃ fd, ∀ turn, pumpRun env request (turns ++ [turn]) = some (p.pumpTurn env.browse fd turn) := by
  obtain ⟨q, fd, hc, hs, hloop⟩ := pumpRun_eq_some h
  refine ⟨fd, fun turn => ?_⟩
  rw [pumpRun_eq hc hs, Pump.pumpLoop_snoc, ← hloop]

/-- An ended loop makes no more passes. -/
theorem pumpRun_ended {turns : List Turn} {r : Except ServiceBrowseError Unit}
    (h : pumpRun env request turns = some (p, some r)) (post : List Turn) :
    pumpRun env request (turns ++ post) = some (p, some r) := by
  induction post using List.reverseRecOn with
  | nil => rwa [List.append_nil]
  | append_singleton post turn ih =>
    obtain ⟨q, fd, hc, hs, hloop⟩ := pumpRun_eq_some ih
    rw [pumpRun_eq hc hs, ← List.append_assoc, Pump.pumpLoop_snoc, ← hloop]

/-- **The loop returns an error exactly when a pass of it fails.** -/
theorem pumpRun_error_iff {turns : List Turn} {result : Option (Except ServiceBrowseError Unit)}
    (h : pumpRun env request turns = some (p, result)) (err : ServiceBrowseError) :
    result = some (.error err) ↔ ∃ pre turn post q, turns = pre ++ turn :: post ∧
      pumpRun env request pre = some (q, none) ∧ turn.stop = false ∧ turn.Fails err := by
  constructor
  · refine pumpRun_rule (P := fun turns _ result => result = some (.error err) →
      ∃ pre turn post q, turns = pre ++ turn :: post ∧ pumpRun env request pre = some (q, none) ∧
        turn.stop = false ∧ turn.Fails err) ?_ ?_ ?_ h
    · intro q fd _ hnone
      cases hnone
    · intro turns turn q fd hrun _ herror
      exact ⟨turns, turn, [], q, rfl, hrun, pumpTurn_error_iff.mp herror⟩
    · intro turns turn q r ih herror
      obtain ⟨pre, t, post, u, rfl, hu⟩ := ih herror
      exact ⟨pre, t, post ++ [turn], u, by simp, hu⟩
  · rintro ⟨pre, turn, post, q, rfl, hrun, hfails⟩
    obtain ⟨fd, hnext⟩ := pumpRun_snoc hrun
    have hturn := hnext turn
    have herror : (q.pumpTurn env.browse fd turn).2 = some (.error err) :=
      pumpTurn_error_iff.mpr hfails
    have hended := pumpRun_ended (hturn.trans (congrArg some (Prod.ext rfl herror))) post
    rw [List.append_assoc, List.singleton_append, h] at hended
    exact congrArg Prod.snd (Option.some.inj hended)

/-- **The pump accounts for every reply and stops when told.** -/
theorem pump_replies (display : ServiceBrowseError → String) {turns : List Turn}
    {result : Option (Except ServiceBrowseError Unit)}
    (h : pumpRun env request turns = some (p, result)) :
    (∀ native fd (q : Pump) (turn : Turn), turn.stop = false → turn.Idle →
      q.pumpTurn native fd turn = (q.record (.poll fd turn.rv), none)) ∧
    (∀ native fd (q : Pump) (turn : Turn), ((q.pumpTurn native fd turn).2 = some (.ok ()) ↔
        turn.stop = true ∨ turn.HungUp) ∧
      (turn.stop = false → turn.Readable →
        (q.pumpTurn native fd turn).1.delivered = q.delivered ++ turn.callbacks)) ∧
    (∀ moment, StopSet env request turns moment →
      (p.trace.drop moment).countP Native.isProcessResult ≤ 1) ∧
    (∀ ran channel, Channel display p result ran channel →
      Replied display p result ran channel) ∧
    (∀ ran channel, Channel display p result ran channel →
      ∀ err, result = some (.error err) → .error err ∈ channel) ∧
    ∀ err, result = some (.error err) ↔ ∃ pre turn post q, turns = pre ++ turn :: post ∧
      pumpRun env request pre = some (q, none) ∧ turn.stop = false ∧ turn.Fails err := by
  refine ⟨?_, ?_, ?_, ?_, ?_, pumpRun_error_iff h⟩
  · intro native fd q turn hstop hidle
    exact pumpTurn_idle hstop hidle
  · intro native fd q turn
    exact ⟨pumpTurn_ok_iff, pumpTurn_delivered⟩
  · intro moment hset
    exact processResults_after_stop h hset
  · intro ran channel hchannel
    exact (kept_of_pumpRun h).replied hchannel
  · rintro ran channel hchannel err rfl
    exact hchannel.reported

end

/-- A reply on the instance context about a printer. -/
def printerCallback (flags : UInt32) (errorCode : Int32) : Callback :=
  ⟨false, flags, 2, errorCode, some (Utf8.encode "Printer"), some (Utf8.encode "_ipp._tcp."),
    some (Utf8.encode "local.")⟩

/-- An interrupted `poll`, three replies, and a hang-up. -/
def printerTurns : List Turn :=
  [⟨false, -1, eintr, "", 0, [], noError⟩,
    dispatchTurn [printerCallback flagsAdd noError, printerCallback 0 noError,
      printerCallback 0 (-65537)],
    ⟨false, 1, 0, "", pollhup, [], noError⟩]

/-- A daemon that refuses every resolve. -/
def refusing : Daemon := ⟨fun _ => ⟨-65537, ⟨1, "", noError⟩, []⟩, fun _ => ⟨noError, []⟩⟩

/-- The failure of `DNSServiceProcessResult` after it has dispatched an addition. -/
def failedResult : Turn := { dispatchTurn [printerCallback flagsAdd noError] with err := -65563 }

/-- The event of the resolve comes first; a failure is reported whatever is resolved. -/
theorem pump_replies_example :
    (∃ p, pumpRun ⟨noError, 5, fun _ => noError⟩ (browseStart (some "_ipp._tcp") none none)
        printerTurns = some (p, some (.ok ())) ∧
      Replied (fun _ => "") p (some (.ok ()))
        [(⟨"Printer", "_ipp._tcp.", "local.", 2⟩, refusing)]
        [.error (.resolveFailed "Printer" "DNSServiceResolve failed: -65537"),
          (printerCallback 0 noError).removed, (printerCallback 0 (-65537)).failed]) ∧
    ∃ p err, pumpRun ⟨noError, 5, fun _ => noError⟩ (browseStart (some "_ipp._tcp") none none)
        [failedResult] = some (p, some (.error err)) ∧
      err = .browseFailed "DNSServiceProcessResult failed: -65563" ∧
      ∀ ran channel, Channel (fun _ => "") p (some (.error err)) ran channel →
        .error err ∈ channel := by
  constructor
  · have hsome : ((pumpRun ⟨noError, 5, fun _ => noError⟩ (browseStart (some "_ipp._tcp") none none)
        printerTurns).any fun x => decide (x.2 = some (.ok ()) ∧
          x.1.state.resolves = [⟨"Printer", "_ipp._tcp.", "local.", 2⟩] ∧
          x.1.state.sent = [(printerCallback 0 noError).removed,
            (printerCallback 0 (-65537)).failed])) = true := by
      decide +kernel
    obtain ⟨⟨p, result⟩, hrun, hends⟩ := (Option.any_eq_true _ _).mp hsome
    obtain ⟨hresult, hresolves, hsent⟩ := of_decide_eq_true hends
    dsimp only at hresult hresolves hsent
    rw [hresult] at hrun
    refine ⟨p, hrun, (pump_replies (fun _ => "") hrun).2.2.2.1 _ _ ⟨?_, ?_⟩⟩
    · rw [hresolves]
      exact List.Subperm.refl _
    · have hanswer : answers (fun _ => "") [(⟨"Printer", "_ipp._tcp.", "local.", 2⟩, refusing)] =
          [.error (.resolveFailed "Printer" "DNSServiceResolve failed: -65537")] := by
        decide +kernel
      rw [hsent, hanswer]
      exact .right _ (.left _ (.left _ .nil))
  · have hsome : ((pumpRun ⟨noError, 5, fun _ => noError⟩ (browseStart (some "_ipp._tcp") none none)
        [failedResult]).any fun x => decide (x.2 =
          some (.error (.browseFailed "DNSServiceProcessResult failed: -65563")))) = true := by
      decide +kernel
    obtain ⟨⟨p, result⟩, hrun, hresult⟩ := (Option.any_eq_true _ _).mp hsome
    obtain rfl := of_decide_eq_true hresult
    refine ⟨p, _, hrun, rfl, fun ran channel hchannel => ?_⟩
    exact (pump_replies (fun _ => "") hrun).2.2.2.2.1 ran channel hchannel _ rfl

end MdnsSdDiscovery.Macos
