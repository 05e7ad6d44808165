import MdnsSdDiscovery.Macos.Resolve

/-!
# The liveness probe on macOS (`resolve_once` of `src/macos/browse.rs`)

`resolve_once` resolves an instance by the fields of an event, on the blocking
pool, as `resolve_service` does by those of a reply.  An event carries the type
and the domain without their final dots:

* `resolveOnce_identity`: a success carries the fields that were asked for;
* `resolveOnce_trimDot_iff`: the dots do not matter to a daemon that ignores
  them.
-/

namespace MdnsSdDiscovery.Macos

open Labels

/-- `resolve_once`; `joined` is what awaiting its blocking task gives, the text of
a `JoinError` if the task panicked. -/
def resolveOnce (display : ServiceBrowseError → String) (daemon : Daemon)
    (joined : Except String Unit) (name serviceType domain : String)
    (interfaceIndex : Option NonZeroU32) : Except ServiceBrowseError DiscoveredService :=
  let interface := (interfaceIndex.map (·.val)).getD 0
  match joined with
  | .error err => .error (.resolveFailed "" s!"resolve task failed: {err}")
  | .ok () =>
    match doResolve display daemon.resolve name serviceType domain interface with
    | .error err => .error (.resolveFailed name err)
    | .ok (host, port, txtRecords) =>
      .ok {
        name := name
        serviceType := trimDot serviceType
        domain := trimDot domain
        hostName := trimDot host
        port := port
        addresses := (getAddresses daemon.getAddrInfo host interface).getD []
        txtRecords := txtRecords
        interfaceIndex := NonZeroU32.new interface }

/-! ## Identities -/

/-- An index leads to its interface and back. -/
theorem new_getD (index : Option NonZeroU32) :
    NonZeroU32.new ((index.map (·.val)).getD 0) = index := by
  cases index with
  | none => rfl
  | some i => exact dif_pos i.property

theorem getD_new (interface : UInt32) :
    ((NonZeroU32.new interface).map (·.val)).getD 0 = interface := by
  unfold NonZeroU32.new
  by_cases h : interface ≠ 0
  · rw [dif_pos h]
    rfl
  · rw [dif_neg h]
    exact (not_not.mp h).symm

section
variable {display : ServiceBrowseError → String} {daemon : Daemon}
  {joined : Except String Unit} {name serviceType domain : String}
  {interfaceIndex : Option NonZeroU32} {service : DiscoveredService}

/-- **A success carries the identity that was asked for.** -/
theorem resolveOnce_identity
    (h : resolveOnce display daemon joined name serviceType domain interfaceIndex = .ok service) :
    service.identity = ⟨name, trimDot serviceType, trimDot domain, interfaceIndex⟩ := by
  unfold resolveOnce at h
  cases joined with
  | error err => cases h
  | ok _ =>
    dsimp only at h
    split at h
    · cases h
    · cases h
      rw [DiscoveredService.identity, new_getD]

theorem resolveOnce_eq_ok_iff :
    resolveOnce display daemon (.ok ()) name serviceType domain interfaceIndex = .ok service ↔
      ∃ value, doResolve display daemon.resolve name serviceType domain
          ((interfaceIndex.map (·.val)).getD 0) = .ok value ∧
        service = {
          name := name
          serviceType := trimDot serviceType
          domain := trimDot domain
          hostName := trimDot value.1
          port := value.2.1
          addresses := (getAddresses daemon.getAddrInfo value.1
            ((interfaceIndex.map (·.val)).getD 0)).getD []
          txtRecords := value.2.2
          interfaceIndex := interfaceIndex } := by
  unfold resolveOnce
  dsimp only
  rw [new_getD]
  cases doResolve display daemon.resolve name serviceType domain
    ((interfaceIndex.map (·.val)).getD 0) with
  | error err =>
    constructor
    · intro h
      cases h
    · rintro ⟨value, hvalue, -⟩
      cases hvalue
  | ok value =>
    constructor
    · intro h
      cases h
      exact ⟨value, rfl, rfl⟩
    · rintro ⟨value', hvalue, rfl⟩
      cases hvalue
      rfl

/-- `resolve_service` publishes what `resolve_once` returns. -/
theorem resolveService_eq_resolveOnce (r : Resolve) :
    resolveService display daemon r = (resolveOnce display daemon (.ok ()) r.name r.regtype
      r.domain (NonZeroU32.new r.interface)).map .found := by
  unfold resolveService resolveOnce
  rw [getD_new]
  dsimp only
  cases doResolve display daemon.resolve r.name r.regtype r.domain r.interface <;> rfl

theorem found_iff {r : Resolve} :
    resolveService display daemon r = .ok (.found service) ↔
      resolveOnce display daemon (.ok ()) r.name r.regtype r.domain (NonZeroU32.new r.interface) =
        .ok service := by
  rw [resolveService_eq_resolveOnce]
  cases resolveOnce display daemon (.ok ()) r.name r.regtype r.domain
    (NonZeroU32.new r.interface) with
  | error err => simp [Except.map]
  | ok value => simp [Except.map]

end

/-! ## Final dots -/

theorem bind_eq_ok {α β : Type} {x : Except String α} {f : α → Except String β} {b : β} :
    (x >>= f) = .ok b ↔ ∃ a, x = .ok a ∧ f a = .ok b := by
  cases x with
  | error err =>
    constructor
    · intro h
      cases h
    · rintro ⟨a, ha, -⟩
      cases ha
  | ok a =>
    constructor
    · intro h
      exact ⟨a, rfl, h⟩
    · rintro ⟨a', ha, h⟩
      cases ha
      exact h

theorem mapError_eq_ok {α ε ε' : Type} {x : Except ε α} {f : ε → ε'} {a : α} :
    x.mapError f = .ok a ↔ x = .ok a := by
  cases x <;> simp [Except.mapError]

theorem cstring_eq_ok_iff {s : String} {bytes : List UInt8} :
    cstring s = .ok bytes ↔ '\x00' ∉ s.toList ∧ bytes = Utf8.encode s := by
  constructor
  · intro h
    unfold cstring at h
    split at h
    · cases h
    · rename_i hnone
      cases h
      refine ⟨?_, rfl⟩
      intro hmem
      have hzero : (0 : UInt8) ∈ Utf8.encode s := List.mem_flatMap.mpr ⟨_, hmem, by decide⟩
      rw [List.findIdx?_eq_none_iff] at hnone
      exact absurd (hnone 0 hzero) (by decide)
  · rintro ⟨hnul, rfl⟩
    exact cstring_eq_ok hnul

/-- What `do_resolve` makes of the answer of the daemon. -/
def ResolveAnswer.value (answer : ResolveAnswer) :
    Except String (String × UInt16 × List TxtRecord) :=
  if answer.err ≠ noError then .error s!"DNSServiceResolve failed: {answer.err}"
  else do
    processOnce answer.once
    let result := answer.result
    if ¬ result.got ∨ result.error ≠ noError then
      .error s!"resolve did not complete (error {result.error})"
    else .ok (result.host.getD "", result.port, result.txt)

/-- **When a resolve returns a value**: no argument contains a NUL, and the answer
of the daemon has the value. -/
theorem doResolve_eq_ok_iff {display : ServiceBrowseError → String}
    {resolve : ResolveRequest → ResolveAnswer} {name regtype domain : String} {interface : UInt32}
    {value : String × UInt16 × List TxtRecord} :
    doResolve display resolve name regtype domain interface = .ok value ↔
      '\x00' ∉ name.toList ∧ '\x00' ∉ regtype.toList ∧ '\x00' ∉ domain.toList ∧
      (resolve ⟨interface, Utf8.encode name, Utf8.encode regtype, Utf8.encode domain⟩).value =
        .ok value := by
  unfold doResolve
  simp only [bind_eq_ok, mapError_eq_ok, cstring_eq_ok_iff]
  constructor
  · rintro ⟨-, ⟨hname, rfl⟩, -, ⟨hregtype, rfl⟩, -, ⟨hdomain, rfl⟩, hvalue⟩
    exact ⟨hname, hregtype, hdomain, hvalue⟩
  · rintro ⟨hname, hregtype, hdomain, hvalue⟩
    exact ⟨_, ⟨hname, rfl⟩, _, ⟨hregtype, rfl⟩, _, ⟨hdomain, rfl⟩, hvalue⟩

/-- The daemon does not tell a type and a domain from the same without final dots,
unless nothing is left of one of them. -/
def IgnoresDots (resolve : ResolveRequest → ResolveAnswer) : Prop :=
  ∀ interface name regtype domain, trimDot regtype ≠ "" → trimDot domain ≠ "" →
    resolve ⟨interface, name, Utf8.encode (trimDot regtype), Utf8.encode (trimDot domain)⟩ =
      resolve ⟨interface, name, Utf8.encode regtype, Utf8.encode domain⟩

section
variable {display : ServiceBrowseError → String} {daemon : Daemon} {name regtype domain : String}
  {interfaceIndex : Option NonZeroU32} {service : DiscoveredService}

theorem doResolve_trimDot_iff (hdaemon : IgnoresDots daemon.resolve)
    (hregtype : trimDot regtype ≠ "") (hdomain : trimDot domain ≠ "") {interface : UInt32}
    {value : String × UInt16 × List TxtRecord} :
    doResolve display daemon.resolve name (trimDot regtype) (trimDot domain) interface =
        .ok value ↔
      doResolve display daemon.resolve name regtype domain interface = .ok value := by
  rw [doResolve_eq_ok_iff, doResolve_eq_ok_iff, mem_trimDot_iff (by decide),
    mem_trimDot_iff (by decide), hdaemon _ _ _ _ hregtype hdomain]

/-- **To a daemon that ignores final dots** the fields of an event ask the same as
those of its reply. -/
theorem resolveOnce_trimDot_iff (hdaemon : IgnoresDots daemon.resolve)
    (hregtype : trimDot regtype ≠ "") (hdomain : trimDot domain ≠ "") :
    resolveOnce display daemon (.ok ()) name (trimDot regtype) (trimDot domain) interfaceIndex =
        .ok service ↔
      resolveOnce display daemon (.ok ()) name regtype domain interfaceIndex = .ok service := by
  rw [resolveOnce_eq_ok_iff, resolveOnce_eq_ok_iff]
  simp only [doResolve_trimDot_iff hdaemon hregtype hdomain, trimDot_trimDot]

end

/-! ## Replies -/

/-- The identity that the events of an instance reply carry. -/
def Callback.identity (cb : Callback) : RemovedService :=
  ⟨cstrToString cb.serviceName, trimDot (cstrToString cb.regtype),
    trimDot (cstrToString cb.replyDomain), NonZeroU32.new cb.interfaceIndex⟩

/-- What the reply of an addition asks its resolver for. -/
def Callback.resolve (cb : Callback) : Resolve :=
  ⟨cstrToString cb.serviceName, cstrToString cb.regtype, cstrToString cb.replyDomain,
    cb.interfaceIndex⟩

/-- A reply without an error on the instance context. -/
structure InstanceReply (cb : Callback) : Prop where
  inst : cb.isMeta = false
  ok : cb.errorCode = noError

theorem InstanceReply.browseCallback_add {cb : Callback} (h : InstanceReply cb)
    (hadd : cb.flags &&& flagsAdd ≠ 0) (state : PumpState) :
    state.browseCallback cb = { state with resolves := state.resolves ++ [cb.resolve] } := by
  unfold PumpState.browseCallback
  dsimp only
  rw [if_neg (not_not.mpr h.ok), if_neg (by rw [h.inst]; decide), if_pos hadd]
  rfl

theorem InstanceReply.browseCallback_remove {cb : Callback} (h : InstanceReply cb)
    (hremove : cb.flags &&& flagsAdd = 0) (state : PumpState) :
    state.browseCallback cb = state.send (.ok (.removed cb.identity)) := by
  unfold PumpState.browseCallback
  dsimp only
  rw [if_neg (not_not.mpr h.ok), if_neg (by rw [h.inst]; decide), if_neg (not_not.mpr hremove)]
  rfl

/-- The event of a resolver carries the identity of the reply. -/
theorem identity_of_found {display : ServiceBrowseError → String} {daemon : Daemon} {cb : Callback}
    {service : DiscoveredService}
    (h : resolveService display daemon cb.resolve = .ok (.found service)) :
    service.identity = cb.identity :=
  resolveOnce_identity (found_iff.mp h)

/-- Two replies about one instance, whatever their final dots. -/
structure SameInstance (cb other : Callback) : Prop where
  name : cstrToString cb.serviceName = cstrToString other.serviceName
  regtype : trimDot (cstrToString cb.regtype) = trimDot (cstrToString other.regtype)
  domain : trimDot (cstrToString cb.replyDomain) = trimDot (cstrToString other.replyDomain)
  interface : cb.interfaceIndex = other.interfaceIndex

theorem SameInstance.identity_eq {cb other : Callback} (h : SameInstance cb other) :
    cb.identity = other.identity := by
  rw [Callback.identity, Callback.identity, h.name, h.regtype, h.domain, h.interface]

end MdnsSdDiscovery.Macos
