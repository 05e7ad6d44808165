import MdnsSdDiscovery.Browse
import MdnsSdDiscovery.Lib.Utf8
import MdnsSdDiscovery.Macos.MetaReply
import Mathlib.Data.Finset.Insert

/-!
# The browse pump (`src/macos/browse.rs`)

`run_pump` over an environment that answers the native calls in any way: the
statuses of the calls, what each `poll` returns, the replies that each
`DNSServiceProcessResult` dispatches, and whether the stop flag is found set.
Every native call is recorded in a trace, and so is the release of what the
thread owns when `run_pump` returns.

`attempts` and `delivered` are history: the child browses that were attempted
and the replies that were dispatched.
-/

namespace MdnsSdDiscovery.Macos

/-! ## Native data -/

/-- A C string: null, or the bytes before its terminator. -/
abbrev CStr := Option (List UInt8)

/-- `cstr_to_string` -/
def cstrToString : CStr → String
  | none => ""
  | some bytes => Utf8.fromUtf8Lossy bytes

/-- `cstring` -/
def cstring (s : String) : Except ServiceBrowseError (List UInt8) :=
  match (Utf8.encode s).findIdx? (· = 0) with
  | some position => .error (.parameterContainsInteriorNulByte s position)
  | none => .ok (Utf8.encode s)

/-- `error::NO_ERROR` -/
def noError : Int32 := 0

/-- `FLAGS_ADD` -/
def flagsAdd : UInt32 := 0x2

/-- `libc::EINTR` -/
def eintr : Int32 := 4

def pollin : Int16 := 0x1

def pollerr : Int16 := 0x8

def pollhup : Int16 := 0x10

def pollnval : Int16 := 0x20

/-- A `DNSServiceRef`: the parent, or what a `DNSServiceBrowse` call initialised. -/
inductive Ref where
  | parent
  | op (call : Nat)
  deriving DecidableEq, Repr

/-- A native call, or the release of what the pump thread owns. -/
inductive Native where
  | createConnection (err : Int32)
  | refSockFD (ref : Ref) (fd : Int32)
  /-- The `call`-th `DNSServiceBrowse`, on a copy of the reference `shared`. -/
  | browse (shared : Ref) (call : Nat) (isMeta : Bool) (regtype : List UInt8) (domain : CStr)
      (interface : UInt32) (err : Int32)
  | poll (fd rv : Int32)
  /-- `DNSServiceProcessResult` is entered; it returns at `processed`. -/
  | processResult (ref : Ref)
  /-- `browse_callback` runs on a context. -/
  | callback (isMeta : Bool)
  | processed (err : Int32)
  | deallocate (ref : Ref)
  | dropContext (isMeta : Bool)
  | dropState
  deriving DecidableEq, Repr

/-- One call of `browse_callback`; `isMeta` is the context it runs on. -/
structure Callback where
  isMeta : Bool
  flags : UInt32
  interfaceIndex : UInt32
  errorCode : Int32
  serviceName : CStr
  regtype : CStr
  replyDomain : CStr
  deriving DecidableEq, Repr

/-- What one pass of the loop finds. -/
structure Turn where
  /-- The stop flag. -/
  stop : Bool
  /-- `poll` and, when it fails, the last OS error and its text. -/
  rv : Int32
  errno : Int32
  strerror : String
  revents : Int16
  /-- The replies that `DNSServiceProcessResult` dispatches, and its status. -/
  callbacks : List Callback
  err : Int32
  deriving DecidableEq, Repr

/-- The answers of the native calls that set the pump up; `browse n` is the
status of the `n`-th `DNSServiceBrowse`. -/
structure Environment where
  createConnection : Int32
  refSockFD : Int32
  browse : Nat → Int32

/-! ## State -/

/-- The arguments of a `resolve_service` on the blocking pool. -/
structure Resolve where
  name : String
  regtype : String
  domain : String
  interface : UInt32
  deriving DecidableEq, Repr

/-- `sent` and `resolves` are what went to `tx` and to `handle`. -/
structure PumpState where
  interface : UInt32
  seen : Finset (String × String) := ∅
  pending : List (String × String) := []
  sent : List Event := []
  resolves : List Resolve := []
  deriving DecidableEq

structure SharedConnection where
  shared : Ref
  ops : List Ref := []
  deriving DecidableEq, Repr

/-- A child browse that was attempted; `call` is the number of its native call,
if it got that far. -/
structure Attempt where
  key : String × String
  call : Nat
  result : Except ServiceBrowseError Unit
  deriving DecidableEq, Repr

structure Pump where
  conn : SharedConnection
  state : PumpState
  /-- How often `DNSServiceBrowse` was called. -/
  browses : Nat := 0
  trace : List Native := []
  attempts : List Attempt := []
  delivered : List Callback := []
  deriving DecidableEq

namespace PumpState

/-- `state.tx.send(event)` -/
def send (state : PumpState) (event : Event) : PumpState :=
  { state with sent := state.sent ++ [event] }

/-- `browse_callback` -/
def browseCallback (state : PumpState) (cb : Callback) : PumpState :=
  if cb.errorCode ≠ noError then
    state.send (.error (.browseFailed s!"browse callback error: {cb.errorCode}"))
  else
    let name := cstrToString cb.serviceName
    let regtype := cstrToString cb.regtype
    let domain := cstrToString cb.replyDomain
    let isAdd := cb.flags &&& flagsAdd ≠ 0
    if cb.isMeta then
      if ¬ isAdd then state
      else
        let key := metaReplyToTypeAndDomain name regtype domain
        if key ∈ state.seen then state
        else { state with seen := insert key state.seen, pending := state.pending ++ [key] }
    else if isAdd then
      { state with resolves := state.resolves ++ [⟨name, regtype, domain, cb.interfaceIndex⟩] }
    else
      state.send (.ok (.removed ⟨name, trimDot regtype, trimDot domain,
        NonZeroU32.new cb.interfaceIndex⟩))

end PumpState

namespace Pump

def record (p : Pump) (call : Native) : Pump := { p with trace := p.trace ++ [call] }

/-! ## `SharedConnection` -/

/-- `SharedConnection::browse` -/
def browse (native : Nat → Int32) (p : Pump) (regtype domain : String) (interface : UInt32)
    (isMeta : Bool) : Pump × Except ServiceBrowseError Unit :=
  match cstring regtype with
  | .error err => (p, .error err)
  | .ok regtypeC =>
    match if domain = "" then .ok none else (cstring domain).map some with
    | .error err => (p, .error err)
    | .ok domainC =>
      let err := native p.browses
      let called := { p.record (.browse p.conn.shared p.browses isMeta regtypeC domainC interface err)
        with browses := p.browses + 1 }
      if err ≠ noError then
        (called, .error (.browseFailed s!"DNSServiceBrowse failed for {regtype}: {err}"))
      else
        ({ called with conn := { p.conn with ops := p.conn.ops ++ [.op p.browses] } }, .ok ())

/-- A reply that `DNSServiceProcessResult` dispatches. -/
def dispatch (p : Pump) (cb : Callback) : Pump :=
  { p.record (.callback cb.isMeta) with
    state := p.state.browseCallback cb
    delivered := p.delivered ++ [cb] }

/-- `DNSServiceProcessResult` -/
def dispatchAll (p : Pump) (turn : Turn) : Pump :=
  (turn.callbacks.foldl dispatch (p.record (.processResult p.conn.shared))).record
    (.processed turn.err)

/-- `SharedConnection::process_result` -/
def processResult (p : Pump) (turn : Turn) : Pump × Except ServiceBrowseError Unit :=
  let p := p.dispatchAll turn
  if turn.err ≠ noError then
    (p, .error (.browseFailed s!"DNSServiceProcessResult failed: {turn.err}"))
  else (p, .ok ())

/-! ## The loop -/

/-- One pass of the loop of `start_pending_browses`. -/
def startPending (native : Nat → Int32) (p : Pump) (key : String × String) : Pump :=
  let (q, result) := p.browse native key.1 key.2 p.state.interface false
  let q := { q with attempts := q.attempts ++ [⟨key, p.browses, result⟩] }
  match result with
  | .ok () => q
  | .error err => { q with state := q.state.send (.error err) }

/-- `start_pending_browses` -/
def startPendingBrowses (native : Nat → Int32) (p : Pump) : Pump :=
  p.state.pending.foldl (startPending native) { p with state := { p.state with pending := [] } }

/-- One pass of `pump_loop`; the result says that the loop has ended. -/
def pumpTurn (native : Nat → Int32) (fd : Int32) (p : Pump) (turn : Turn) :
    Pump × Option (Except ServiceBrowseError Unit) :=
  if turn.stop then (p, some (.ok ()))
  else
    let p := p.record (.poll fd turn.rv)
    if turn.rv < 0 then
      if turn.errno = eintr then (p, none)
      else (p, some (.error (.browseFailed s!"poll failed: {turn.strerror}")))
    else if turn.rv = 0 then (p, none)
    else if turn.revents &&& pollin ≠ 0 then
      match p.processResult turn with
      | (p, .error err) => (p, some (.error err))
      | (p, .ok ()) => (p.startPendingBrowses native, none)
    else if turn.revents &&& (pollhup ||| pollerr ||| pollnval) ≠ 0 then (p, some (.ok ()))
    else (p, none)

/-- `pump_loop`, as far as the turns go. -/
def pumpLoop (native : Nat → Int32) (fd : Int32) (p : Pump) :
    List Turn → Pump × Option (Except ServiceBrowseError Unit)
  | [] => (p, none)
  | turn :: turns =>
    match p.pumpTurn native fd turn with
    | (q, some result) => (q, some result)
    | (q, none) => pumpLoop native fd q turns

end Pump

/-! ## `run_pump` -/

/-- The arguments of `run_pump` that its behaviour depends on. -/
structure Request where
  regtype : String
  domain : String
  interface : UInt32
  isMeta : Bool
  deriving DecidableEq, Repr

/-- `META_QUERY_TYPE` -/
def metaQueryType : String := "_services._dns-sd._udp"

/-- What `browse_start` asks `run_pump` for. -/
def browseStart (serviceType domain : Option String) (interfaceIndex : Option NonZeroU32) :
    Request :=
  let interface := (interfaceIndex.map (·.val)).getD 0
  let domain := domain.getD ""
  match serviceType with
  | some serviceType => ⟨serviceType, domain, interface, false⟩
  | none => ⟨metaQueryType, domain, interface, true⟩

/-- A new connection, with the state of the pump. -/
def connected (request : Request) : Pump where
  conn := { shared := .parent }
  state := { interface := request.interface }
  trace := [.createConnection noError]

/-- `SharedConnection::create` -/
def create (env : Environment) (request : Request) : Except ServiceBrowseError Pump :=
  if env.createConnection ≠ noError then
    .error (.browseFailed s!"DNSServiceCreateConnection failed: {env.createConnection}")
  else .ok (connected request)

/-- `SharedConnection::socket_fd` -/
def socketFd (env : Environment) (p : Pump) : Pump × Except ServiceBrowseError Int32 :=
  let p := p.record (.refSockFD p.conn.shared env.refSockFD)
  if env.refSockFD < 0 then
    (p, .error (.browseFailed "DNSServiceRefSockFD returned an invalid descriptor"))
  else (p, .ok env.refSockFD)

/-- The calls of `run_pump` after `create` and before `pump_loop`. -/
def setUp (env : Environment) (request : Request) (p : Pump) :
    Pump × Except ServiceBrowseError Int32 :=
  match socketFd env p with
  | (p, .error err) => (p, .error err)
  | (p, .ok fd) =>
    match p.browse env.browse request.regtype request.domain request.interface request.isMeta with
    | (p, .error err) => (p, .error err)
    | (p, .ok ()) => (p, .ok fd)

/-- `impl Drop for SharedConnection` -/
def SharedConnection.drop (conn : SharedConnection) : List Native :=
  conn.ops.map .deallocate ++ [.deallocate conn.shared]

/-- The other locals of `run_pump` in the order they are dropped. -/
def dropLocals : List Native := [.dropContext false, .dropContext true, .dropState]

/-- How `run_pump` ends: everything it did, and its result. -/
structure Ended where
  trace : List Native
  result : Except ServiceBrowseError Unit
  deriving DecidableEq, Repr

/-- Leaving `run_pump` with a connection. -/
def Pump.leave (p : Pump) (result : Except ServiceBrowseError Unit) : Ended :=
  ⟨p.trace ++ p.conn.drop ++ dropLocals, result⟩

/-- `run_pump`; `none` while it is in its loop after the turns. -/
def runPump (env : Environment) (request : Request) (turns : List Turn) : Option Ended :=
  match create env request with
  | .error err => some ⟨[.createConnection env.createConnection] ++ dropLocals, .error err⟩
  | .ok p =>
    match setUp env request p with
    | (p, .error err) => some (p.leave (.error err))
    | (p, .ok fd) =>
      match p.pumpLoop env.browse fd turns with
      | (p, some result) => some (p.leave result)
      | (_, none) => none

/-- The pump at the head of `pump_loop` after the turns. -/
def loopHead (env : Environment) (request : Request) (turns : List Turn) : Option Pump :=
  match create env request with
  | .error _ => none
  | .ok p =>
    match setUp env request p with
    | (_, .error _) => none
    | (p, .ok fd) =>
      match p.pumpLoop env.browse fd turns with
      | (_, some _) => none
      | (p, none) => some p

/-! ## What the calls can do -/

/-- The result of a browse, from its own arguments and its own native call. -/
def browseResult (native : Nat → Int32) (regtype domain : String) (call : Nat) :
    Except ServiceBrowseError Unit :=
  match cstring regtype with
  | .error err => .error err
  | .ok _ =>
    match if domain = "" then .ok none else (cstring domain).map some with
    | .error err => .error err
    | .ok _ =>
      if native call ≠ noError then
        .error (.browseFailed s!"DNSServiceBrowse failed for {regtype}: {native call}")
      else .ok ()

section
variable {native : Nat → Int32} {p q : Pump} {regtype domain : String} {interface : UInt32}
  {isMeta : Bool} {result : Except ServiceBrowseError Unit}

/-- **What a browse does**: it stops at a NUL byte, or its native call fails, or
it adds the reference that the call initialised. -/
theorem Pump.browse_cases (h : p.browse native regtype domain interface isMeta = (q, result)) :
    result = browseResult native regtype domain p.browses ∧
    ((q = p ∧ ∃ err, result = .error err) ∨
      ∃ regtypeC domainC, let called :=
          { p.record (.browse p.conn.shared p.browses isMeta regtypeC domainC interface
            (native p.browses)) with browses := p.browses + 1 }
        (native p.browses ≠ noError ∧ q = called ∧ ∃ err, result = .error err) ∨
        (native p.browses = noError ∧ result = .ok () ∧
          q = { called with conn := { p.conn with ops := p.conn.ops ++ [.op p.browses] } })) := by
  unfold Pump.browse at h
  unfold browseResult
  cases hr : cstring regtype with
  | error err =>
    rw [hr] at h
    cases h
    exact ⟨rfl, .inl ⟨rfl, err, rfl⟩⟩
  | ok regtypeC =>
    rw [hr] at h
    cases hd : (if domain = "" then .ok none else (cstring domain).map some :
        Except ServiceBrowseError CStr) with
    | error err =>
      rw [hd] at h
      cases h
      exact ⟨rfl, .inl ⟨rfl, err, rfl⟩⟩
    | ok domainC =>
      rw [hd] at h
      dsimp only at h ⊢
      by_cases hn : native p.browses ≠ noError
      · rw [if_pos hn] at h ⊢
        cases h
        exact ⟨rfl, .inr ⟨regtypeC, domainC, .inl ⟨hn, rfl, _, rfl⟩⟩⟩
      · rw [if_neg hn] at h ⊢
        cases h
        exact ⟨rfl, .inr ⟨regtypeC, domainC, .inr ⟨not_not.mp hn, rfl, rfl⟩⟩⟩

end

theorem Pump.processResult_cases (p : Pump) (turn : Turn) :
    (turn.err ≠ noError ∧ ∃ err, p.processResult turn = (p.dispatchAll turn, .error err)) ∨
    (turn.err = noError ∧ p.processResult turn = (p.dispatchAll turn, .ok ())) := by
  unfold Pump.processResult
  by_cases herr : turn.err ≠ noError
  · exact .inl ⟨herr, _, if_pos herr⟩
  · exact .inr ⟨not_not.mp herr, if_neg herr⟩

/-- **What a pass of the loop can do**: stop at the flag, poll without a
dispatch, or dispatch, after which it ends with an error or starts what is
pending. -/
theorem Pump.pumpTurn_cases (native : Nat → Int32) (fd : Int32) (p : Pump) (turn : Turn) :
    let polled := p.record (.poll fd turn.rv)
    (turn.stop = true ∧ p.pumpTurn native fd turn = (p, some (.ok ()))) ∨
    (∃ result, turn.stop = false ∧ p.pumpTurn native fd turn = (polled, result)) ∨
    (∃ err, turn.err ≠ noError ∧
      p.pumpTurn native fd turn = (polled.dispatchAll turn, some (.error err))) ∨
    (turn.err = noError ∧
      p.pumpTurn native fd turn = ((polled.dispatchAll turn).startPendingBrowses native, none)) := by
  intro polled
  unfold Pump.pumpTurn
  cases hstop : turn.stop with
  | true => exact .inl ⟨rfl, rfl⟩
  | false =>
    right
    simp only [Bool.false_eq_true, ↓reduceIte]
    by_cases hrv : turn.rv < 0
    · by_cases herrno : turn.errno = eintr
      · exact .inl ⟨none, trivial, by rw [if_pos hrv, if_pos herrno]⟩
      · exact .inl ⟨_, trivial, by rw [if_pos hrv, if_neg herrno]⟩
    rw [if_neg hrv]
    by_cases hzero : turn.rv = 0
    · exact .inl ⟨none, trivial, by rw [if_pos hzero]⟩
    rw [if_neg hzero]
    by_cases hin : turn.revents &&& pollin ≠ 0
    · rw [if_pos hin]
      rcases Pump.processResult_cases polled turn with ⟨herr, err, he⟩ | ⟨herr, he⟩
      · exact .inr (.inl ⟨err, herr, by rw [he]⟩)
      · exact .inr (.inr ⟨herr, by rw [he]⟩)
    rw [if_neg hin]
    by_cases hhup : turn.revents &&& (pollhup ||| pollerr ||| pollnval) ≠ 0
    · exact .inl ⟨_, trivial, by rw [if_pos hhup]⟩
    · exact .inl ⟨none, trivial, by rw [if_neg hhup]⟩

theorem create_cases (env : Environment) (request : Request) :
    (env.createConnection ≠ noError ∧ ∃ err, create env request = .error err) ∨
    (env.createConnection = noError ∧ create env request = .ok (connected request)) := by
  unfold create
  by_cases hc : env.createConnection ≠ noError
  · exact .inl ⟨hc, _, if_pos hc⟩
  · exact .inr ⟨not_not.mp hc, if_neg hc⟩

/-- **What the set-up can do** after `create`: stop at the descriptor, or try the
root browse. -/
theorem setUp_cases {env : Environment} {request : Request} {p q : Pump}
    {result : Except ServiceBrowseError Int32} (h : setUp env request p = (q, result)) :
    let opened := p.record (.refSockFD p.conn.shared env.refSockFD)
    (q = opened ∧ ∃ err, result = .error err) ∨
    (∃ err, opened.browse env.browse request.regtype request.domain request.interface
      request.isMeta = (q, .error err) ∧ result = .error err) ∨
    (opened.browse env.browse request.regtype request.domain request.interface
      request.isMeta = (q, .ok ()) ∧ result = .ok env.refSockFD) := by
  intro opened
  unfold setUp socketFd at h
  by_cases hfd : env.refSockFD < 0
  · rw [if_pos hfd] at h
    cases h
    exact .inl ⟨rfl, _, rfl⟩
  · rw [if_neg hfd] at h
    cases hb : opened.browse env.browse request.regtype request.domain request.interface
      request.isMeta with
    | mk u r =>
      dsimp only at h
      rw [hb] at h
      cases r with
      | error err =>
        cases h
        exact .inr (.inl ⟨err, rfl, rfl⟩)
      | ok _ =>
        cases h
        exact .inr (.inr ⟨rfl, rfl⟩)

/-! ## Rules -/

/-- **Rule of a dispatch**: what entering it gives, every reply keeps and leaving
it keeps. -/
theorem Pump.dispatchAll_rule {I : Pump → Prop} {p : Pump} {turn : Turn}
    (henter : I (p.record (.processResult p.conn.shared)))
    (hreply : ∀ q cb, I q → I (q.dispatch cb))
    (hleave : ∀ q, I q → I (q.record (.processed turn.err))) : I (p.dispatchAll turn) :=
  hleave _ (List.foldlRecOn (motive := I) turn.callbacks Pump.dispatch henter
    fun q hq cb _ => hreply q cb hq)

/-- **Rule of the pending browses**: what draining gives and every attempt keeps. -/
theorem Pump.startPendingBrowses_rule {I : Pump → Prop} {native : Nat → Int32} {p : Pump}
    (hdrain : I { p with state := { p.state with pending := [] } })
    (hattempt : ∀ q key, I q → I (q.startPending native key)) :
    I (p.startPendingBrowses native) :=
  List.foldlRecOn (motive := I) p.state.pending (Pump.startPending native) hdrain
    fun q hq key _ => hattempt q key hq

/-- **Rule of a pass**, however it ends. -/
theorem Pump.pumpTurn_rule {I : Pump → Prop} {native : Nat → Int32} {p : Pump} {turn : Turn}
    (fd : Int32) (hp : I p) (hpoll : I (p.record (.poll fd turn.rv)))
    (hdispatch : ∀ q, I q → I (q.dispatchAll turn))
    (hstart : ∀ q, I q → I (q.startPendingBrowses native)) :
    I (p.pumpTurn native fd turn).1 := by
  rcases Pump.pumpTurn_cases native fd p turn with
    ⟨-, he⟩ | ⟨result, -, he⟩ | ⟨err, -, he⟩ | ⟨-, he⟩ <;> rw [he]
  · exact hp
  · exact hpoll
  · exact hdispatch _ hpoll
  · exact hstart _ (hdispatch _ hpoll)

/-- **Invariant rule of the loop**: what every pass that goes on keeps holds
wherever the loop is. -/
theorem Pump.pumpLoop_invariant {I : Pump → Prop} {native : Nat → Int32} {fd : Int32}
    (hturn : ∀ p turn q, I p → p.pumpTurn native fd turn = (q, none) → I q)
    {p q : Pump} {turns : List Turn} (hp : I p) (h : p.pumpLoop native fd turns = (q, none)) :
    I q := by
  induction turns generalizing p with
  | nil => cases h; exact hp
  | cons turn turns ih =>
    cases ht : p.pumpTurn native fd turn with
    | mk u result =>
      rw [Pump.pumpLoop, ht] at h
      cases result with
      | none => exact ih (hturn p turn u hp ht) h
      | some r => cases h

/-! ## Sample replies -/

/-- An add reply on the meta context. -/
def metaAdd (name regtype domain : String) : Callback :=
  ⟨true, flagsAdd, 0, noError, some (Utf8.encode name), some (Utf8.encode regtype),
    some (Utf8.encode domain)⟩

/-- A pass of the loop that dispatches replies. -/
def dispatchTurn (callbacks : List Callback) : Turn :=
  ⟨false, 1, 0, "", pollin, callbacks, noError⟩

end MdnsSdDiscovery.Macos
