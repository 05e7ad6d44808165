import Mathlib.Data.Nat.Find
import Mathlib.Order.Monotone.Basic
import MdnsSdDiscovery.Lib.Traced
import MdnsSdDiscovery.Macos.ResolveOnce

/-!
# The operations of a resolver (`src/macos/browse.rs`)

A resolver thread starts one native operation for the host of its instance and, if
that one succeeds, another for the addresses.  Here `do_resolve`, `process_once`,
`get_addresses`, `resolve_service` and `resolve_once` are computed with the calls that
they make, and the address lookup reads the clock before each of its passes.

* `watch`: what a thread may do with the operation that it holds, and for how long
  it may wait;
* `addressLoopTraced`: the lookup by the clock, which ends although every reply may
  say that more are coming;
* `resolver_calls`: the thread does what the untimed one does, within the rules.
-/

namespace MdnsSdDiscovery.Macos

open Traces Runs IpAddr

/-! ## Calls -/

/-- `RESOLVE_TIMEOUT_MS` -/
def resolveTimeoutMs : Int32 := 5000

/-- `GETADDR_TIMEOUT_MS` -/
def getaddrTimeoutMs : Nat := 2000

/-- The nanoseconds of a millisecond. -/
def nanosPerMilli : Nat := 1000000

/-- `Duration::as_millis` of so many nanoseconds, then `as i32`. -/
def asMillis (nanos : Nat) : Int32 := Int32.ofNat (nanos / nanosPerMilli)

/-- The time that is `GETADDR_TIMEOUT_MS` after another. -/
def getaddrDeadline (opened : Nat) : Nat := getaddrTimeoutMs * nanosPerMilli + opened

/-- What a resolver calls; `now` is `Instant::now`, in nanoseconds, and the references
are to the operation that was started last. -/
inductive OpCall where
  | resolve (request : ResolveRequest) (err : Int32)
  | getAddrInfo (request : AddrRequest) (err : Int32)
  | refSockFd
  | now (nanos : Nat)
  | poll (timeoutMs : Int32)
  | processResult
  | refDeallocate
  deriving DecidableEq, Repr

/-- `process_once` -/
def processOnceTraced (once : Once) (timeoutMs : Int32) : Traced OpCall (Except String Unit) := do
  call (.poll timeoutMs)
  if once.rv < 0 then return .error s!"poll failed: {once.strerror}"
  else if once.rv = 0 then return .error "operation timed out"
  else
    call .processResult
    if once.err ≠ noError then return .error "DNSServiceProcessResult failed"
    else return .ok ()

/-- `do_resolve` -/
def doResolveTraced (display : ServiceBrowseError → String)
    (daemon : ResolveRequest → ResolveAnswer) (name regtype domain : String)
    (interface : UInt32) : Traced OpCall (Except String (String × UInt16 × List TxtRecord)) :=
  match (cstring name).mapError display with
  | .error err => return .error err
  | .ok nameC =>
    match (cstring regtype).mapError display with
    | .error err => return .error err
    | .ok regtypeC =>
      match (cstring domain).mapError display with
      | .error err => return .error err
      | .ok domainC => do
        let request : ResolveRequest := ⟨interface, nameC, regtypeC, domainC⟩
        let answer := daemon request
        call (.resolve request answer.err)
        if answer.err ≠ noError then
          return .error s!"DNSServiceResolve failed: {answer.err}"
        else
          call .refSockFd
          let processed ← processOnceTraced answer.once resolveTimeoutMs
          call .refDeallocate
          return processed.bind fun _ =>
            let result := answer.result
            if ¬ result.got ∨ result.error ≠ noError then
              .error s!"resolve did not complete (error {result.error})"
            else .ok (result.host.getD "", result.port, result.txt)

/-! ## The lookup by the clock -/

/-- What `DNSServiceProcessResult` dispatches in one pass. -/
def AddrTurn.dispatch (turn : AddrTurn) (result : AddrResult) : AddrResult :=
  turn.replies.foldl getaddrCallback result

/-- One pass of the address loop, with the time at which it begins. -/
structure Pass where
  now : Nat
  turn : AddrTurn
  deriving DecidableEq, Repr

/-- What becomes of one `DNSServiceGetAddrInfo`: its status, the time when its budget
begins, and the passes as they would follow.  The clock never goes back and does
not stop. -/
structure TimedAnswer where
  err : Int32
  opened : Nat
  passes : Nat → Pass
  steady : Monotone fun i => (passes i).now
  begins : opened ≤ (passes 0).now
  expires : ∃ i, getaddrDeadline opened ≤ (passes i).now

namespace TimedAnswer

variable (answer : TimedAnswer)

/-- `deadline` -/
def deadline : Nat := getaddrDeadline answer.opened

/-- `remaining` in pass `i`; `saturating_duration_since` stops at zero. -/
def remaining (i : Nat) : Nat := answer.deadline - (answer.passes i).now

/-- The first pass that begins too late. -/
def last : Nat := Nat.find answer.expires

theorem remaining_eq_zero_iff (i : Nat) : answer.remaining i = 0 ↔ answer.last ≤ i := by
  rw [remaining, Nat.sub_eq_zero_iff_le]
  constructor
  · intro h
    exact Nat.find_min' answer.expires h
  · intro h
    exact (Nat.find_spec answer.expires).trans (answer.steady h)

/-- The passes that begin in time, without their times. -/
def untimed : AddrAnswer where
  err := answer.err
  turns := (List.range answer.last).map fun i => (answer.passes i).turn

end TimedAnswer

/-- The loop of `get_addresses`, from pass `i` on. -/
def addressLoopTraced (answer : TimedAnswer) (i : Nat) (result : AddrResult) :
    Traced OpCall AddrResult :=
  if result.done then return result
  else
    let pass := answer.passes i
    call (.now pass.now) >>= fun _ =>
    if hzero : answer.remaining i = 0 then return result
    else
      call (.poll (asMillis (answer.remaining i))) >>= fun _ =>
      if pass.turn.rv ≤ 0 then return result
      else
        call .processResult >>= fun _ =>
        let result := pass.turn.dispatch result
        if pass.turn.err ≠ noError then return result
        else addressLoopTraced answer (i + 1) result
termination_by answer.last - i
decreasing_by
  have hlast := (answer.remaining_eq_zero_iff i).not.mp hzero
  omega

/-- `get_addresses` -/
def getAddressesTraced (daemon : AddrRequest → TimedAnswer) (host : String)
    (interface : UInt32) : Traced OpCall (Option (List IpAddr)) :=
  match cstring host with
  | .error _ => return none
  | .ok hostC => do
    let request : AddrRequest := ⟨interface, hostC⟩
    let answer := daemon request
    call (.getAddrInfo request answer.err)
    if answer.err ≠ noError then return none
    else
      call .refSockFd
      call (.now answer.opened)
      let result ← addressLoopTraced answer 0 {}
      call .refDeallocate
      return some result.addrs

/-- What the two operations become. -/
structure TimedDaemon where
  resolve : ResolveRequest → ResolveAnswer
  getAddrInfo : AddrRequest → TimedAnswer

def TimedDaemon.untimed (daemon : TimedDaemon) : Daemon where
  resolve := daemon.resolve
  getAddrInfo request := (daemon.getAddrInfo request).untimed

/-- What `resolve_service` and the blocking task of `resolve_once` have in common. -/
def lookUp {α : Type} (display : ServiceBrowseError → String) (daemon : TimedDaemon)
    (name regtype domain : String) (interface : UInt32) (failed : String → α)
    (found : String → UInt16 → List TxtRecord → List IpAddr → α) : Traced OpCall α := do
  match ← doResolveTraced display daemon.resolve name regtype domain interface with
  | .error err => return failed err
  | .ok (host, port, txtRecords) =>
    let addresses ← getAddressesTraced daemon.getAddrInfo host interface
    return found host port txtRecords (addresses.getD [])

/-- `resolve_service` -/
def resolveServiceTraced (display : ServiceBrowseError → String) (daemon : TimedDaemon)
    (r : Resolve) : Traced OpCall Event :=
  lookUp display daemon r.name r.regtype r.domain r.interface
    (fun err => .error (.resolveFailed r.name err))
    fun host port txtRecords addresses => .ok (.found {
      name := r.name
      serviceType := trimDot r.regtype
      domain := trimDot r.domain
      hostName := trimDot host
      port := port
      addresses := addresses
      txtRecords := txtRecords
      interfaceIndex := NonZeroU32.new r.interface })

/-- The blocking task of `resolve_once` -/
def resolveOnceTraced (display : ServiceBrowseError → String) (daemon : TimedDaemon)
    (name serviceType domain : String) (interfaceIndex : Option NonZeroU32) :
    Traced OpCall (Except ServiceBrowseError DiscoveredService) :=
  let interface := (interfaceIndex.map (·.val)).getD 0
  lookUp display daemon name serviceType domain interface
    (fun err => .error (.resolveFailed name err))
    fun host port txtRecords addresses => .ok {
      name := name
      serviceType := trimDot serviceType
      domain := trimDot domain
      hostName := trimDot host
      port := port
      addresses := addresses
      txtRecords := txtRecords
      interfaceIndex := NonZeroU32.new interface }

/-! ## The rules -/

/-- What a thread holds: no operation, one for a host, or one for addresses, with the
deadline and the last reading of the clock once they are known. -/
inductive Held where
  | nothing
  | resolving
  | looking (clock : Option (Nat × Nat))
  deriving DecidableEq, Repr

def Held.isOpen : Held → Nat
  | .nothing => 0
  | .resolving | .looking _ => 1

/-- **What a thread may do with what it holds.**  It starts an operation only when it
holds none, uses and deallocates the one that it holds, and never waits without
bound: for the host at most `RESOLVE_TIMEOUT_MS`, for addresses not past the deadline. -/
def watch : Held → OpCall → Option Held
  | .nothing, .resolve _ err => some (if err = noError then .resolving else .nothing)
  | .nothing, .getAddrInfo _ err => some (if err = noError then .looking none else .nothing)
  | .resolving, .refSockFd => some .resolving
  | .resolving, .poll timeoutMs =>
    if 0 ≤ timeoutMs ∧ timeoutMs ≤ resolveTimeoutMs then some .resolving else none
  | .resolving, .processResult => some .resolving
  | .resolving, .refDeallocate => some .nothing
  | .looking clock, .refSockFd => some (.looking clock)
  | .looking none, .now nanos =>
    some (.looking (some (getaddrDeadline nanos, nanos)))
  | .looking (some (deadline, _)), .now nanos => some (.looking (some (deadline, nanos)))
  | .looking (some (deadline, nanos)), .poll timeoutMs =>
    if 0 ≤ timeoutMs ∧ timeoutMs.toInt ≤ getaddrTimeoutMs ∧
      nanos + timeoutMs.toInt * nanosPerMilli ≤ deadline
    then some (.looking (some (deadline, nanos))) else none
  | .looking clock, .processResult => some (.looking clock)
  | .looking _, .refDeallocate => some .nothing
  | _, _ => none

/-- A thread that starts an operation has a reference to deallocate. -/
def OpCall.opens : OpCall → Bool
  | .resolve _ err | .getAddrInfo _ err => err = noError
  | _ => false

def OpCall.closes (c : OpCall) : Bool := c = .refDeallocate

/-! ## The resolve -/

section
variable (display : ServiceBrowseError → String)

theorem value_processOnceTraced (once : Once) (timeoutMs : Int32) :
    (processOnceTraced once timeoutMs).value = processOnce once := by
  unfold processOnceTraced processOnce
  rw [value_bind]
  split
  · rfl
  split
  · rfl
  rw [value_bind]
  split <;> rfl

theorem meets_processOnceTraced (once : Once) :
    Meets watch .resolving (processOnceTraced once resolveTimeoutMs)
      fun _ held => held = .resolving := by
  refine Meets.call_bind (t := .resolving) rfl ?_
  split
  · exact .pure rfl
  split
  · exact .pure rfl
  refine Meets.call_bind (t := .resolving) rfl ?_
  split <;> exact .pure rfl

variable (daemon : ResolveRequest → ResolveAnswer) (name regtype domain : String)
  (interface : UInt32)

theorem value_doResolveTraced :
    (doResolveTraced display daemon name regtype domain interface).value =
      doResolve display daemon name regtype domain interface := by
  unfold doResolveTraced doResolve
  cases (cstring name).mapError display with
  | error err => rfl
  | ok nameC =>
    cases (cstring regtype).mapError display with
    | error err => rfl
    | ok regtypeC =>
      cases (cstring domain).mapError display with
      | error err => rfl
      | ok domainC =>
        dsimp only [value_bind]
        change _ = if _ then _ else _
        split
        · rfl
        · rw [value_bind, value_bind, value_processOnceTraced]
          rfl

theorem meets_doResolveTraced :
    Meets watch .nothing (doResolveTraced display daemon name regtype domain interface)
      fun _ held => held = .nothing := by
  unfold doResolveTraced
  split
  · exact .pure rfl
  split
  · exact .pure rfl
  split
  · exact .pure rfl
  refine Meets.call_bind rfl ?_
  split
  next hok =>
    rw [if_neg (not_not.mpr hok)]
    refine Meets.call_bind (t := .resolving) rfl ?_
    refine (meets_processOnceTraced _).bind ?_
    rintro processed held rfl
    exact Meets.call_bind (t := .nothing) rfl (.pure rfl)
  next herr => exact .pure rfl

end

/-! ## The lookup -/

/-- A pass waits no longer than what remains, and that is no more than the budget. -/
theorem watch_poll (answer : TimedAnswer) (i : Nat) (hpos : answer.remaining i ≠ 0) :
    watch (.looking (some (answer.deadline, (answer.passes i).now)))
        (.poll (asMillis (answer.remaining i))) =
      some (.looking (some (answer.deadline, (answer.passes i).now))) := by
  have hbegins : answer.opened ≤ (answer.passes i).now :=
    answer.begins.trans (answer.steady (Nat.zero_le i))
  have hrest : answer.remaining i + (answer.passes i).now = answer.deadline := by
    unfold TimedAnswer.remaining at hpos ⊢
    omega
  have hbudget : answer.remaining i ≤ getaddrTimeoutMs * nanosPerMilli := by
    unfold TimedAnswer.deadline getaddrDeadline at hrest
    omega
  have hmillis : answer.remaining i / nanosPerMilli ≤ getaddrTimeoutMs :=
    Nat.div_le_of_le_mul (Nat.mul_comm .. ▸ hbudget)
  have hint : (asMillis (answer.remaining i)).toInt =
      (answer.remaining i / nanosPerMilli : Nat) := by
    refine Int32.toInt_ofNat_of_lt (hmillis.trans_lt ?_)
    decide
  have hfloor := Nat.div_mul_le_self (answer.remaining i) nanosPerMilli
  refine if_pos ⟨?_, ?_, ?_⟩
  · rw [Int32.le_iff_toInt_le, hint]
    exact Int.natCast_nonneg _
  · rw [hint]
    exact Int.ofNat_le.mpr hmillis
  · rw [hint]
    norm_cast
    omega

/-- The passes from the first of them on. -/
theorem passes_cons (answer : TimedAnswer) {i : Nat} (hpos : answer.remaining i ≠ 0) :
    (List.range' i (answer.last - i)).map (fun j => (answer.passes j).turn) =
      (answer.passes i).turn ::
        (List.range' (i + 1) (answer.last - (i + 1))).map fun j => (answer.passes j).turn := by
  have hlast : answer.last - i = answer.last - (i + 1) + 1 := by
    have := (answer.remaining_eq_zero_iff i).not.mp hpos
    omega
  rw [hlast, List.range'_succ, List.map_cons]

theorem addressLoop_of_done {result : AddrResult} (hdone : result.done = true)
    (turns : List AddrTurn) : addressLoop result turns = result := by
  cases turns with
  | nil => rfl
  | cons turn turns => exact if_pos hdone

/-- **By the clock or not**, the loop sees the passes that begin in time. -/
theorem value_addressLoopTraced (answer : TimedAnswer) (i : Nat) (result : AddrResult) :
    (addressLoopTraced answer i result).value =
      addressLoop result
        ((List.range' i (answer.last - i)).map fun j => (answer.passes j).turn) := by
  fun_induction addressLoopTraced answer i result with
  | case1 i result hdone => exact (addressLoop_of_done hdone _).symm
  | case2 i result hdone pass ih =>
    rw [value_bind]
    split
    next hzero =>
      rw [Nat.sub_eq_zero_of_le ((answer.remaining_eq_zero_iff i).mp hzero)]
      rfl
    next hpos =>
      rw [passes_cons answer hpos, addressLoop, if_neg hdone, value_bind]
      split
      · rfl
      · rw [value_bind]
        dsimp only
        split
        · rfl
        · exact ih hpos

/-- **The loop keeps to its deadline.** -/
theorem meets_addressLoopTraced (answer : TimedAnswer) (i : Nat) (result : AddrResult)
    (nanos : Nat) :
    Meets watch (.looking (some (answer.deadline, nanos))) (addressLoopTraced answer i result)
      fun _ held => ∃ nanos, held = .looking (some (answer.deadline, nanos)) := by
  fun_induction addressLoopTraced answer i result generalizing nanos with
  | case1 i result hdone => exact .pure ⟨nanos, rfl⟩
  | case2 i result hdone pass ih =>
    refine Meets.call_bind (t := .looking (some (answer.deadline, pass.now))) rfl ?_
    split
    next hzero => exact .pure ⟨_, rfl⟩
    next hpos =>
      refine Meets.call_bind (watch_poll answer i hpos) ?_
      split
      · exact .pure ⟨_, rfl⟩
      refine Meets.call_bind (t := .looking (some (answer.deadline, pass.now))) rfl ?_
      dsimp only
      split
      · exact .pure ⟨_, rfl⟩
      · exact ih hpos pass.now

section
variable (daemon : AddrRequest → TimedAnswer) (host : String) (interface : UInt32)

theorem value_getAddressesTraced :
    (getAddressesTraced daemon host interface).value =
      getAddresses (fun request => (daemon request).untimed) host interface := by
  unfold getAddressesTraced getAddresses lookupAddresses
  cases cstring host with
  | error err => rfl
  | ok hostC =>
    dsimp only
    rw [value_bind]
    change _ = Option.map _ (if (daemon ⟨interface, hostC⟩).err ≠ noError then _ else _)
    split
    · rfl
    · rw [value_bind, value_bind, value_bind, value_addressLoopTraced]
      rw [value_bind, value_pure, TimedAnswer.untimed, List.range_eq_range', Nat.sub_zero]
      rfl

theorem meets_getAddressesTraced :
    Meets watch .nothing (getAddressesTraced daemon host interface)
      fun _ held => held = .nothing := by
  unfold getAddressesTraced
  split
  · exact .pure rfl
  next hostC _ =>
    refine Meets.call_bind rfl ?_
    split
    next hok =>
      rw [if_neg (not_not.mpr hok)]
      refine Meets.call_bind (t := .looking none) rfl ?_
      refine Meets.call_bind rfl ?_
      refine (meets_addressLoopTraced (daemon ⟨interface, hostC⟩) 0 {} _).bind ?_
      rintro result held ⟨nanos, rfl⟩
      exact Meets.call_bind (t := .nothing) rfl (.pure rfl)
    next herr => exact .pure rfl

end

/-! ## Resolvers -/

theorem isOpen_started (held : Held) (err : Int32) (hopen : held.isOpen = 1) :
    (decide (err = noError)).toNat = (if err = noError then held else .nothing).isOpen := by
  by_cases herr : err = noError
  · rw [if_pos herr, decide_eq_true herr, hopen]
    rfl
  · rw [if_neg herr, decide_eq_false herr]
    rfl

/-- A start that succeeds leaves one more operation open, a deallocation one less. -/
theorem isOpen_step (held : Held) (c : OpCall) (held' : Held) (h : watch held c = some held') :
    held.isOpen + c.opens.toNat = c.closes.toNat + held'.isOpen := by
  cases c with
  | resolve request err =>
    cases held with
    | nothing =>
      cases h
      have hstarted := isOpen_started .resolving err rfl
      simpa [OpCall.opens, OpCall.closes, Held.isOpen] using hstarted
    | resolving | looking _ => cases h
  | getAddrInfo request err =>
    cases held with
    | nothing =>
      cases h
      have hstarted := isOpen_started (.looking none) err rfl
      simpa [OpCall.opens, OpCall.closes, Held.isOpen] using hstarted
    | resolving | looking _ => cases h
  | refDeallocate =>
    cases held with
    | nothing => cases h
    | resolving | looking _ => cases h; rfl
  | refSockFd | processResult =>
    cases held with
    | nothing => cases h
    | resolving | looking _ => cases h; rfl
  | now nanos =>
    rcases held with _ | _ | _ | _ <;> cases h <;> rfl
  | poll timeoutMs =>
    obtain rfl : held = held' := by
      rcases held with _ | _ | _ | _
      · cases h
      · exact Option.some.inj (Option.ite_none_right_eq_some.mp h).2
      · cases h
      · exact Option.some.inj (Option.ite_none_right_eq_some.mp h).2
    exact Nat.add_comm ..

/-- No wait is without bound. -/
theorem bounded_step (held : Held) (c : OpCall) (held' : Held) (h : watch held c = some held') :
    ∀ timeoutMs, c = .poll timeoutMs → 0 ≤ timeoutMs ∧ timeoutMs ≤ resolveTimeoutMs := by
  rintro timeoutMs rfl
  rcases held with _ | _ | _ | ⟨deadline, nanos⟩
  · cases h
  · exact (Option.ite_none_right_eq_some.mp h).1
  · cases h
  · have hwait := (Option.ite_none_right_eq_some.mp h).1
    refine ⟨hwait.1, Int32.le_iff_toInt_le.mpr (hwait.2.1.trans ?_)⟩
    decide

section
variable {α : Type} (display : ServiceBrowseError → String) (daemon : TimedDaemon)
  (name regtype domain : String) (interface : UInt32) (failed : String → α)
  (found : String → UInt16 → List TxtRecord → List IpAddr → α)

theorem value_lookUp :
    (lookUp display daemon name regtype domain interface failed found).value =
      match doResolve display daemon.resolve name regtype domain interface with
      | .error err => failed err
      | .ok (host, port, txtRecords) =>
        found host port txtRecords
          ((getAddresses daemon.untimed.getAddrInfo host interface).getD []) := by
  unfold lookUp
  rw [value_bind, value_doResolveTraced]
  cases doResolve display daemon.resolve name regtype domain interface with
  | error err => rfl
  | ok value =>
    dsimp only
    rw [value_bind, value_pure, value_getAddressesTraced]
    rfl

theorem meets_lookUp :
    Meets watch .nothing (lookUp display daemon name regtype domain interface failed found)
      fun _ held => held = .nothing := by
  refine (meets_doResolveTraced display daemon.resolve name regtype domain interface).bind ?_
  rintro resolved held rfl
  cases resolved with
  | error err => exact .pure rfl
  | ok value =>
    refine (meets_getAddressesTraced daemon.getAddrInfo value.1 interface).bind ?_
    rintro addresses held rfl
    exact .pure rfl

end

/-- A thread that keeps to the rules, and leaves nothing behind. -/
structure Disciplined (calls : List OpCall) : Prop where
  watched : run watch .nothing calls = some .nothing
  deallocated : calls.countP OpCall.opens = calls.countP OpCall.closes
  bounded : ∀ timeoutMs, .poll timeoutMs ∈ calls → 0 ≤ timeoutMs ∧ timeoutMs ≤ resolveTimeoutMs

theorem disciplined_of_run {calls : List OpCall}
    (h : run watch .nothing calls = some .nothing) : Disciplined calls where
  watched := h
  deallocated := by simpa [Held.isOpen] using balance isOpen_step h
  bounded timeoutMs hpoll := forall_mem_of_run bounded_step h _ hpoll _ rfl

theorem disciplined_lookUp {α : Type} (display : ServiceBrowseError → String)
    (daemon : TimedDaemon) (name regtype domain : String) (interface : UInt32)
    (failed : String → α) (found : String → UInt16 → List TxtRecord → List IpAddr → α) :
    Disciplined (lookUp display daemon name regtype domain interface failed found).calls := by
  obtain ⟨held, hrun, rfl⟩ :=
    meets_lookUp display daemon name regtype domain interface failed found
  exact disciplined_of_run hrun

/-- **A resolver thread comes to an end**, whatever the daemon answers, on a clock that
passes the deadline: it sends what the passes before the deadline amount to, every
operation that it started is deallocated once and is not used afterwards, and no wait is
without bound. -/
theorem resolver_calls (display : ServiceBrowseError → String) (daemon : TimedDaemon)
    (r : Resolve) :
    (resolveServiceTraced display daemon r).value = resolveService display daemon.untimed r ∧
      Disciplined (resolveServiceTraced display daemon r).calls := by
  refine ⟨?_, disciplined_lookUp ..⟩
  unfold resolveServiceTraced resolveService
  rw [value_lookUp]
  rfl

/-- The same of the blocking task of `resolve_once`. -/
theorem probe_calls (display : ServiceBrowseError → String) (daemon : TimedDaemon)
    (name serviceType domain : String) (index : Option NonZeroU32) :
    (resolveOnceTraced display daemon name serviceType domain index).value =
        resolveOnce display daemon.untimed (.ok ()) name serviceType domain index ∧
      Disciplined (resolveOnceTraced display daemon name serviceType domain index).calls := by
  refine ⟨?_, disciplined_lookUp ..⟩
  unfold resolveOnceTraced resolveOnce
  rw [value_lookUp]
  rfl

/-- A daemon that announces one more address each second, and after each of them more. -/
def flooding : TimedAnswer where
  err := noError
  opened := 0
  passes i :=
    let reply := ⟨flagsAdd ||| flagsMoreComing, noError, some (.inet i.toUInt32)⟩
    ⟨i * 1000 * nanosPerMilli, ⟨1, [reply], noError⟩⟩
  steady i j h := Nat.mul_le_mul_right _ (Nat.mul_le_mul_right _ h)
  begins := Nat.zero_le _
  expires := ⟨2, by decide⟩

/-- Its third pass is too late. -/
example : (addressLoopTraced flooding 0 {}).value.addrs.length = 2 := by
  have hlast : flooding.last = 2 := by
    refine (Nat.find_eq_iff _).mpr ⟨by decide, ?_⟩
    rintro (_ | _ | i) hi
    · decide
    · decide
    · omega
  rw [value_addressLoopTraced, hlast]
  decide

end MdnsSdDiscovery.Macos
