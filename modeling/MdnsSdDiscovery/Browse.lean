import MdnsSdDiscovery.Lib.IpAddr
import MdnsSdDiscovery.Lib.Labels
import MdnsSdDiscovery.Lib.Presence

/-!
# The public data of the crate (`src/browse.rs`)

Events, services, errors and the helpers that every back-end shares.  A
`String` is a Lean `String`, a `Vec` a list.  What a back-end publishes is an
`Event`, the `Result` that travels over the channel.

`RemovedService` is the identity of an instance; `DiscoveredService.identity`
and `Event.change` read the event stream as a log of insertions and deletions
of identities, which is what a consumer that inserts on `Found` and deletes on
`Removed` makes of it.
-/

namespace MdnsSdDiscovery

/-- `NonZeroU32` -/
abbrev NonZeroU32 := {n : UInt32 // n ≠ 0}

/-- `NonZeroU32::new` -/
def NonZeroU32.new (n : UInt32) : Option NonZeroU32 :=
  if h : n ≠ 0 then some ⟨n, h⟩ else none

structure TxtRecord where
  key : String
  value : Option (List UInt8)
  deriving DecidableEq, Repr

structure DiscoveredService where
  name : String
  serviceType : String
  domain : String
  hostName : String
  port : UInt16
  addresses : List IpAddr
  txtRecords : List TxtRecord
  interfaceIndex : Option NonZeroU32
  deriving DecidableEq, Repr

structure RemovedService where
  name : String
  serviceType : String
  domain : String
  interfaceIndex : Option NonZeroU32
  deriving DecidableEq, Repr

inductive BrowseEvent where
  | found (service : DiscoveredService)
  | removed (service : RemovedService)
  deriving DecidableEq, Repr

inductive ServiceBrowseError where
  | dnsSdUnavailable (reason : String)
  | parameterContainsInteriorNulByte (parameter : String) (position : Nat)
  | invalidInterfaceIndex (index : UInt32)
  | browseFailed (reason : String)
  | resolveFailed (name reason : String)
  deriving DecidableEq, Repr

/-- What travels over the channel: `Result<BrowseEvent, ServiceBrowseError>`. -/
abbrev Event := Except ServiceBrowseError BrowseEvent

/-- `DiscoveredService::txt` -/
def DiscoveredService.txt (service : DiscoveredService) (key : String) : Option (List UInt8) :=
  (service.txtRecords.find? (·.key == key)).bind (·.value)

/-- `trim_dot` -/
def trimDot (s : String) : String := Labels.trimEndMatches s '.'

theorem trimDot_trimDot (s : String) : trimDot (trimDot s) = trimDot s :=
  Labels.trimEndMatches_idem s

/-- Nothing but dots is removed. -/
theorem mem_trimDot_iff {s : String} {c : Char} (h : c ≠ '.') :
    c ∈ (trimDot s).toList ↔ c ∈ s.toList := by
  constructor
  · intro hmem
    rw [trimDot, Labels.trimEndMatches, String.toList_ofList] at hmem
    exact (List.rdropWhile_prefix (p := (· == '.')) s.toList).subset hmem
  · exact Labels.mem_trimEndMatches h

/-! ## Identities -/

/-- The fields by which a consumer tells instances apart. -/
def DiscoveredService.identity (s : DiscoveredService) : RemovedService :=
  ⟨s.name, s.serviceType, s.domain, s.interfaceIndex⟩

/-- What an event changes in the set of discovered services. -/
def Event.change : Event → Option (Presence.Change RemovedService)
  | .ok (.found s) => some (.insert s.identity)
  | .ok (.removed r) => some (.delete r)
  | .error _ => none

/-- The Found and Removed events of a channel as changes of identities. -/
def changes (channel : List Event) : List (Presence.Change RemovedService) :=
  channel.filterMap Event.change

@[simp] theorem changes_append (l m : List Event) : changes (l ++ m) = changes l ++ changes m :=
  List.filterMap_append

@[simp] theorem changes_found (s : DiscoveredService) :
    changes [.ok (.found s)] = [.insert s.identity] := rfl

@[simp] theorem changes_removed (r : RemovedService) :
    changes [.ok (.removed r)] = [.delete r] := rfl

@[simp] theorem changes_error (e : ServiceBrowseError) : changes [.error e] = [] := rfl

end MdnsSdDiscovery
