import MdnsSdDiscovery.Linux.Browse

/-!
# The liveness probe on Linux (`resolve_once` of `src/linux/browse.rs`)

`resolve_once` asks Avahi for an instance by the fields of an event.  An
interface passes through an optional index on its way out and back:

* `interfaceToAvahi_avahiInterfaceToIndex`: the interface of a signal comes back;
* `avahiInterfaceToIndex_of_interfaceToAvahi`: so does every index that is
  accepted;
* `asksFor_toRemoved`: the identity of a signal leads to a call about the signal.
-/

namespace MdnsSdDiscovery.Linux

/-! ## Interfaces -/

theorem toInt32_pos {n : UInt32} (hn : n ≠ 0) (h : n ≤ Int32.maxValue.toUInt32) :
    0 < n.toInt32 := by
  have hpos : n.toNat ≠ 0 := fun hzero => hn (UInt32.toNat_inj.mp hzero)
  have hmax : n.toNat ≤ 2147483647 := UInt32.le_iff_toNat_le.mp h
  have hlt : 2 * n.toBitVec.toNat < 2 ^ 32 := by
    rw [UInt32.toNat_toBitVec]
    omega
  have hvalue : n.toInt32.toInt = n.toNat := BitVec.toInt_eq_toNat_of_lt hlt
  rw [Int32.lt_iff_toInt_lt, hvalue, Int32.toInt_zero]
  omega

theorem interfaceToAvahi_some (i : NonZeroU32) : interfaceToAvahi (some i) =
    if Int32.maxValue.toUInt32 < i.val then .error (.invalidInterfaceIndex i.val)
    else .ok i.val.toInt32 := rfl

/-- The index of an interface leads back to it. -/
theorem interfaceToAvahi_avahiInterfaceToIndex {interface : Int32} (h : 0 < interface) :
    interfaceToAvahi (avahiInterfaceToIndex interface) = .ok interface := by
  have hne : interface.toUInt32 ≠ 0 := by
    intro hzero
    rw [← Int32.toInt32_toUInt32 interface, hzero] at h
    exact absurd h (by decide)
  have hle : interface.toUInt32 ≤ Int32.maxValue.toUInt32 :=
    Int32.toUInt32_le (Int32.le_of_lt h) (Int32.le_maxValue interface)
  have hindex : avahiInterfaceToIndex interface = some ⟨interface.toUInt32, hne⟩ := by
    rw [avahiInterfaceToIndex, if_neg (Int32.not_le.mpr h), NonZeroU32.new, dif_pos hne]
  rw [hindex, interfaceToAvahi_some, if_neg (UInt32.not_lt.mpr hle), Int32.toInt32_toUInt32]

/-- The interface of an accepted index leads back to it; none is unspecified. -/
theorem avahiInterfaceToIndex_of_interfaceToAvahi {index : Option NonZeroU32} {interface : Int32}
    (h : interfaceToAvahi index = .ok interface) : avahiInterfaceToIndex interface = index := by
  cases index with
  | none =>
    cases h
    rfl
  | some i =>
    rw [interfaceToAvahi_some] at h
    split at h
    · cases h
    · rename_i hle
      cases h
      have hpos := toInt32_pos i.property (UInt32.not_lt.mp hle)
      rw [avahiInterfaceToIndex, if_neg (Int32.not_le.mpr hpos), UInt32.toUInt32_toInt32,
        NonZeroU32.new, dif_pos i.property]

/-- Two accepted indices with one interface are the same. -/
theorem interfaceToAvahi_inj {a b : Option NonZeroU32} {interface : Int32}
    (ha : interfaceToAvahi a = .ok interface) (hb : interfaceToAvahi b = .ok interface) :
    a = b :=
  (avahiInterfaceToIndex_of_interfaceToAvahi ha).symm.trans
    (avahiInterfaceToIndex_of_interfaceToAvahi hb)

/-- **Only an index above `i32::MAX` is rejected.** -/
theorem interfaceToAvahi_error_iff {index : Option NonZeroU32} {err : ServiceBrowseError} :
    interfaceToAvahi index = .error err ↔ ∃ i : NonZeroU32, index = some i ∧
      Int32.maxValue.toUInt32 < i.val ∧ err = .invalidInterfaceIndex i.val := by
  cases index with
  | none =>
    constructor
    · intro h
      cases h
    · rintro ⟨i, hi, -⟩
      cases hi
  | some i =>
    rw [interfaceToAvahi_some]
    by_cases hgt : Int32.maxValue.toUInt32 < i.val
    · simp [hgt, eq_comm]
    · simp [hgt]

/-! ## `resolve_once` -/

/-- `AVAHI_PROTO_UNSPEC` -/
def avahiProtoUnspec : Int32 := -1

/-- The arguments of `Server.ResolveService`. -/
structure ResolveServiceCall where
  interface : Int32
  protocol : Int32
  name : String
  serviceType : String
  domain : String
  aprotocol : Int32
  flags : UInt32
  deriving DecidableEq, Repr

/-- How the connection to the system bus and the proxy come about, and what
`ResolveService` replies. -/
structure Bus where
  system : Except String Unit
  proxy : Except String Unit
  resolveService : ResolveServiceCall → Except String ResolvedService

/-- `resolve_once`, with the `ResolveService` call that it makes. -/
def resolveOnce (bus : Bus) (name serviceType domain : String)
    (interfaceIndex : Option NonZeroU32) :
    Option ResolveServiceCall × Except ServiceBrowseError DiscoveredService :=
  match interfaceToAvahi interfaceIndex with
  | .error err => (none, .error err)
  | .ok interface =>
    match bus.system with
    | .error err =>
      (none, .error (.dnsSdUnavailable s!"failed to connect to system D-Bus: {err}"))
    | .ok () =>
      match bus.proxy with
      | .error err =>
        (none, .error (.dnsSdUnavailable s!"failed to connect to Avahi via D-Bus: {err}"))
      | .ok () =>
        let call : ResolveServiceCall :=
          ⟨interface, avahiProtoUnspec, name, serviceType, domain, avahiProtoUnspec, 0⟩
        match bus.resolveService call with
        | .ok resolved => (some call, .ok (resolvedToService resolved))
        | .error err => (some call, .error (.resolveFailed name err))

/-- The call about the instance of a signal. -/
def Item.call (i : Item) : ResolveServiceCall :=
  ⟨i.iface, avahiProtoUnspec, i.name, i.serviceType, i.domain, avahiProtoUnspec, 0⟩

/-- `resolve_once` with the fields of the identity passes the check of the
interface and, when Avahi is reached, asks for the instance of the signal. -/
structure AsksFor (identity : RemovedService) (i : Item) : Prop where
  accepted : interfaceToAvahi identity.interfaceIndex = .ok i.iface
  call : ∀ bus : Bus, bus.system = .ok () → bus.proxy = .ok () →
    (resolveOnce bus identity.name identity.serviceType identity.domain
      identity.interfaceIndex).1 = some i.call

/-- **The identity of a signal leads back to it.** -/
theorem asksFor_toRemoved {i : Item} (h : 0 < i.iface) : AsksFor i.toRemoved i := by
  have haccepted : interfaceToAvahi i.toRemoved.interfaceIndex = .ok i.iface :=
    interfaceToAvahi_avahiInterfaceToIndex h
  refine ⟨haccepted, ?_⟩
  intro bus hsystem hproxy
  unfold resolveOnce
  rw [haccepted]
  dsimp only
  rw [hsystem]
  dsimp only
  rw [hproxy]
  dsimp only
  split <;> rfl

end MdnsSdDiscovery.Linux
