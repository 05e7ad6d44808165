import MdnsSdDiscovery.Txt
import Mathlib.Data.Finset.Insert

/-!
# The Avahi back-end (`src/linux/browse.rs`, `src/linux/dbus.rs`)

The data that travels over D-Bus, and what one message makes of each browse
loop.  A `MessageStream` yields `Result<Message>`; deserializing a body succeeds
when the body has the signature that is asked for, so a body is modelled by its
signature and its fields.

The two loops are given here as the effect of one message
(`browseAllTypesMessage`, `browseOneTypeMessage`); how the effects interleave
with the tasks they start is the subject of `Linux.Events` and
`Linux.Teardown`.
-/

namespace MdnsSdDiscovery.Linux

open Txt

/-! ## `dbus.rs` -/

/-- `AVAHI_IF_UNSPEC` -/
def avahiIfUnspec : Int32 := -1

/-- The reply of `Server.ResolveService`. -/
structure ResolvedService where
  iface : Int32
  protocol : Int32
  name : String
  serviceType : String
  domain : String
  host : String
  aprotocol : Int32
  address : String
  port : UInt16
  txt : List (List UInt8)
  flags : UInt32
  deriving DecidableEq, Repr

/-- The body of `ItemNew` and `ItemRemove` of a `ServiceBrowser`. -/
structure Item where
  iface : Int32
  protocol : Int32
  name : String
  serviceType : String
  domain : String
  flags : UInt32
  deriving DecidableEq, Repr

/-- The body of `ItemNew` of a `ServiceTypeBrowser`. -/
structure TypeItem where
  iface : Int32
  protocol : Int32
  serviceType : String
  domain : String
  flags : UInt32
  deriving DecidableEq, Repr

/-- A message body by its signature: `iisssu`, `iissu`, `s`, or anything else. -/
inductive Body where
  | item (i : Item)
  | typeItem (i : TypeItem)
  | text (s : String)
  | other
  deriving DecidableEq, Repr

/-- `body.deserialize()` as the arguments of an instance signal. -/
def Body.item? : Body → Option Item
  | .item i => some i
  | _ => none

/-- `body.deserialize()` as the arguments of a service type signal. -/
def Body.typeItem? : Body → Option TypeItem
  | .typeItem i => some i
  | _ => none

/-- `body.deserialize()` as a `String`. -/
def Body.text? : Body → Option String
  | .text s => some s
  | _ => none

structure Message where
  member : Option String
  body : Body
  deriving DecidableEq, Repr

/-- What a `MessageStream` yields. -/
abbrev StreamItem := Except String Message

/-! ## Interfaces -/

/-- `interface_to_avahi` -/
def interfaceToAvahi (interfaceIndex : Option NonZeroU32) : Except ServiceBrowseError Int32 :=
  match interfaceIndex with
  | some i =>
    let idx := i.val
    if idx > Int32.maxValue.toUInt32 then .error (.invalidInterfaceIndex idx)
    else .ok idx.toInt32
  | none => .ok avahiIfUnspec

/-- `avahi_interface_to_index` -/
def avahiInterfaceToIndex (interface : Int32) : Option NonZeroU32 :=
  if interface ≤ 0 then none else NonZeroU32.new interface.toUInt32

/-! ## Services -/

/-- `resolved_to_service` -/
def resolvedToService (resolved : ResolvedService) : DiscoveredService where
  name := resolved.name
  serviceType := resolved.serviceType
  domain := resolved.domain
  hostName := resolved.host
  port := resolved.port
  addresses := (IpAddr.fromStr resolved.address).toList
  txtRecords := resolved.txt.map parseTxtEntry
  interfaceIndex := avahiInterfaceToIndex resolved.iface

/-- The `RemovedService` of an `ItemRemove`, which is also the identity an
`ItemNew` announces. -/
def Item.toRemoved (i : Item) : RemovedService where
  name := i.name
  serviceType := i.serviceType
  domain := i.domain
  interfaceIndex := avahiInterfaceToIndex i.iface

/-- The reply carries the fields of the signal it answers. -/
def Echoes (i : Item) (r : ResolvedService) : Prop :=
  r.iface = i.iface ∧ r.name = i.name ∧ r.serviceType = i.serviceType ∧ r.domain = i.domain

/-- The service of an echoing reply has the identity of the signal. -/
theorem identity_resolvedToService {i : Item} {r : ResolvedService} (h : Echoes i r) :
    (resolvedToService r).identity = i.toRemoved := by
  obtain ⟨hi, hn, ht, hd⟩ := h
  simp only [resolvedToService, DiscoveredService.identity, Item.toRemoved, hi, hn, ht, hd]

/-! ## Resolving -/

/-- How the calls of one `resolve_and_emit` task end: creating the server proxy
fails, or `ResolveService` replies. -/
inductive Outcome where
  | noProxy (err : String)
  | reply (result : Except String ResolvedService)
  deriving DecidableEq, Repr

/-- The event that `resolve_and_emit` sends. -/
def resolveAndEmit (i : Item) : Outcome → Event
  | .noProxy err => .error (.resolveFailed i.name err)
  | .reply (.ok resolved) => .ok (.found (resolvedToService resolved))
  | .reply (.error err) => .error (.resolveFailed i.name err)

/-! ## The loops -/

/-- What a message makes of the loop of `browse_one_type`. -/
inductive OneTypeEffect where
  /-- `continue`, or a member that the loop ignores. -/
  | skip
  /-- Prune the finished resolvers, spawn `resolve_and_emit`, hold its handle. -/
  | resolve (i : Item)
  /-- Send `Removed`; leave the loop when nobody receives. -/
  | remove (r : RemovedService)
  /-- Send an error. -/
  | fail (e : ServiceBrowseError)
  deriving DecidableEq, Repr

/-- One pass of the loop of `browse_one_type`. -/
def browseOneTypeMessage (serviceType : String) : StreamItem → OneTypeEffect
  | .error _ => .skip
  | .ok msg =>
    match msg.member with
    | some "ItemNew" =>
      match msg.body.item? with
      | some i => .resolve i
      | none => .skip
    | some "ItemRemove" =>
      match msg.body.item? with
      | some i => .remove i.toRemoved
      | none => .skip
    | some "Failure" =>
      let err := msg.body.text?.getD ""
      .fail (.browseFailed s!"service browser failure for {serviceType}: {err}")
    | _ => .skip

/-- What a message makes of the loop of `browse_all_types`. -/
inductive AllTypesEffect where
  | skip
  /-- Remember the pair, spawn `browse_one_type` for it, hold its handle. -/
  | browse (serviceType domain : String)
  | fail (e : ServiceBrowseError)
  deriving DecidableEq, Repr

/-- One pass of the loop of `browse_all_types`, given the pairs seen so far. -/
def browseAllTypesMessage (seen : Finset (String × String)) : StreamItem → AllTypesEffect
  | .error _ => .skip
  | .ok msg =>
    match msg.member with
    | some "ItemNew" =>
      match msg.body.typeItem? with
      | some i => if (i.serviceType, i.domain) ∈ seen then .skip else .browse i.serviceType i.domain
      | none => .skip
    | some "Failure" =>
      let err := msg.body.text?.getD ""
      .fail (.browseFailed s!"service type browser failure: {err}")
    | _ => .skip

end MdnsSdDiscovery.Linux
