import MdnsSdDiscovery.Lib.Utf8
import MdnsSdDiscovery.Lib.Utf16
import MdnsSdDiscovery.Windows.Browse

/-!
# The resolve of one instance

`start_resolve` boxes a `ResolveContext` and hands it to the OS; the completion
callback takes it back and makes an event of it.  A null pointer is `none`, and a
`PWSTR` is given by the units before its NUL.

* `resolveCallback_outcome`: the event has the name of the box;
* `readTxt_of_slots`: the TXT records are those that the arrays of keys and
  values hold, each with its own value.
-/

namespace MdnsSdDiscovery.Windows

open Utf16 IpAddr

/-- `PWSTR` -/
abbrev Pwstr := Option (List UInt16)

/-- `pwstr_to_string` -/
def pwstrToString : Pwstr → String
  | none => ""
  | some units => (fromUtf16 units).getD ""

/-- What `pwstr_to_string` reads contains no NUL. -/
theorem nul_notMem_pwstrToString (p : Pwstr) (h : ∀ units, p = some units → 0 ∉ units) :
    '\x00' ∉ (pwstrToString p).toList := by
  cases p with
  | none => exact List.not_mem_nil
  | some units =>
    cases hs : fromUtf16 units with
    | none => simp [pwstrToString, hs]
    | some s => simpa [pwstrToString, hs] using nul_notMem_fromUtf16 hs (h units rfl)

/-- `DNS_SERVICE_INSTANCE`; `keys` and `values` point to `dwPropertyCount` strings. -/
structure DnsServiceInstance where
  pszHostName : Pwstr
  ip4Address : Option UInt32
  ip6Address : Option (Vector UInt8 16)
  wPort : UInt16
  dwPropertyCount : UInt32
  keys : Option (Vector Pwstr dwPropertyCount.toNat)
  values : Option (Vector Pwstr dwPropertyCount.toNat)
  dwInterfaceIndex : UInt32

/-- `read_txt` -/
def readTxt (inst : DnsServiceInstance) : List TxtRecord :=
  match inst.keys with
  | none => []
  | some keys =>
    let values := (inst.values.map (·.toList)).getD []
    keys.toList.zipIdx.filterMap fun (key, i) =>
      let key := pwstrToString key
      if key = "" then none
      else
        let value := values[i]?.join.map fun units => Utf8.encode (pwstrToString (some units))
        some { key, value }

/-- `build_service` -/
def buildService (inst : DnsServiceInstance) (name serviceType domain : String) :
    DiscoveredService where
  name := name
  serviceType := serviceType
  domain := domain
  hostName := trimDot (pwstrToString inst.pszHostName)
  port := inst.wPort
  addresses := (inst.ip4Address.map fun raw => ipv4FromU32 (fromBe raw)).toList ++
    (inst.ip6Address.map ipv6FromOctets).toList
  txtRecords := readTxt inst
  interfaceIndex := NonZeroU32.new inst.dwInterfaceIndex

structure ResolveContext where
  name : String
  serviceType : String
  domain : String
  queryName : String
  deriving DecidableEq, Repr

/-- `start_resolve` up to `DnsServiceResolve`: the context it boxes, unless the
query name contains a NUL. -/
def startResolve (ctx : BrowseContext) (fullName label : String) : Option ResolveContext :=
  if '\x00' ∈ fullName.toList then none
  else some {
    name := label
    serviceType := ctx.serviceType
    domain := ctx.domain
    queryName := fullName }

/-- What `start_resolve` sends when `DnsServiceResolve` returns another status
than `DNS_REQUEST_PENDING`. -/
def resolveRefused (rc : ResolveContext) (result : Int32) : Event :=
  .error (.resolveFailed rc.name s!"DnsServiceResolve failed with status {result}")

/-- `resolve_callback` -/
def resolveCallback (rc : ResolveContext) (status : UInt32) :
    Option DnsServiceInstance → Event
  | some inst =>
    if status ≠ 0 then .error (.resolveFailed rc.name s!"resolve callback status {status}")
    else .ok (.found (buildService inst rc.name rc.serviceType rc.domain))
  | none => .error (.resolveFailed rc.name s!"resolve callback status {status}")

/-- The event ends the resolve of a box: the instance was found, or it was not
resolved, under the name of the box. -/
inductive Outcome (rc : ResolveContext) : Event → Prop where
  | found (service : DiscoveredService) (hname : service.name = rc.name)
      (htype : service.serviceType = rc.serviceType) (hdomain : service.domain = rc.domain) :
      Outcome rc (.ok (.found service))
  | failed (reason : String) : Outcome rc (.error (.resolveFailed rc.name reason))

theorem resolveRefused_outcome (rc : ResolveContext) (result : Int32) :
    Outcome rc (resolveRefused rc result) := .failed _

theorem resolveCallback_outcome (rc : ResolveContext) (status : UInt32)
    (inst : Option DnsServiceInstance) : Outcome rc (resolveCallback rc status inst) := by
  cases inst with
  | none => exact .failed _
  | some inst =>
    by_cases hstatus : status = 0
    · rw [resolveCallback, if_neg (not_not_intro hstatus)]
      exact .found _ rfl rfl rfl
    · rw [resolveCallback, if_pos hstatus]
      exact .failed _

theorem startResolve_eq_none {ctx : BrowseContext} {fullName label : String} :
    startResolve ctx fullName label = none ↔ '\x00' ∈ fullName.toList := by
  unfold startResolve
  split <;> simp [*]

theorem startResolve_eq_some {ctx : BrowseContext} {fullName label : String} {rc : ResolveContext}
    (h : startResolve ctx fullName label = some rc) :
    rc = ⟨label, ctx.serviceType, ctx.domain, fullName⟩ := by
  unfold startResolve at h
  split at h
  · cases h
  · exact (Option.some.inj h).symm

/-! ## TXT records -/

/-- A string as a NUL-terminated wide string. -/
def wide (s : String) : Pwstr := some ((Utf16.encode s ++ [0]).takeWhile (· != 0))

theorem pwstrToString_wide {s : String} (h : '\x00' ∉ s.toList) : pwstrToString (wide s) = s := by
  have hunits : ∀ u ∈ Utf16.encode s, (u != 0) = true := by
    intro u hu
    rw [bne_iff_ne]
    rintro rfl
    exact zero_notMem_encode h hu
  rw [wide, List.takeWhile_append_of_pos hunits, List.takeWhile_cons_of_neg (by simp),
    List.append_nil, pwstrToString, fromUtf16_encode, Option.getD_some]

/-- What `read_txt` makes of one key and the value beside it. -/
def readSlot (slot : Pwstr × Pwstr) : Option TxtRecord :=
  let key := pwstrToString slot.1
  if key = "" then none
  else some { key, value := slot.2.map fun units => Utf8.encode (pwstrToString (some units)) }

/-- The arrays of an instance hold the pairs of key and value; both may be null,
`values` if no key has a value. -/
structure HoldsTxt (inst : DnsServiceInstance) (slots : List (Pwstr × Pwstr)) : Prop where
  keys : (inst.keys.map (·.toList)).getD [] = slots.map Prod.fst
  values : inst.values.map (·.toList) = some (slots.map Prod.snd) ∨
    inst.values = none ∧ ∀ slot ∈ slots, slot.2 = none

/-- **The values stay beside their keys**, whatever elements are skipped. -/
theorem HoldsTxt.readTxt_eq {inst : DnsServiceInstance} {slots : List (Pwstr × Pwstr)}
    (h : HoldsTxt inst slots) : readTxt inst = slots.filterMap readSlot := by
  have hvalue : ∀ (i : Nat) (slot : Pwstr × Pwstr), slots[i]? = some slot →
      ((inst.values.map (·.toList)).getD [])[i]?.join = slot.2 := by
    intro i slot hslot
    rcases h.values with hsome | ⟨hnone, hnull⟩
    · rw [hsome, Option.getD_some, List.getElem?_map, hslot]
      rfl
    · rw [hnone, hnull slot (List.mem_of_getElem? hslot)]
      rfl
  have hread : readTxt inst = (slots.map Prod.fst).zipIdx.filterMap fun x =>
      readSlot (x.1, ((inst.values.map (·.toList)).getD [])[x.2]?.join) := by
    rw [← h.keys]
    unfold readTxt
    cases inst.keys <;> rfl
  have hpairs : ∀ x ∈ slots.zipIdx,
      readSlot (x.1.1, ((inst.values.map (·.toList)).getD [])[x.2]?.join) = readSlot x.1 := by
    intro x hx
    rw [hvalue x.2 x.1 (List.mem_zipIdx_iff_getElem?.mp hx)]
  rw [hread, List.zipIdx_map, List.filterMap_map]
  refine (List.filterMap_congr hpairs).trans ?_
  conv => rhs; rw [← List.zipIdx_map_fst 0 slots, List.filterMap_map]
  rfl

/-- The pairs of key and value of the records, with pairs without a key between
them. -/
inductive TxtSlots : List (Pwstr × Pwstr) → List TxtRecord → Prop where
  | nil : TxtSlots [] []
  | skipped {slots : List (Pwstr × Pwstr)} {records : List TxtRecord} (key value : Pwstr)
      (hkey : key = none ∨ key = some []) (rest : TxtSlots slots records) :
      TxtSlots ((key, value) :: slots) records
  | keyOnly {slots : List (Pwstr × Pwstr)} {records : List TxtRecord} (key : String)
      (rest : TxtSlots slots records) :
      TxtSlots ((wide key, none) :: slots) (⟨key, none⟩ :: records)
  | text {slots : List (Pwstr × Pwstr)} {records : List TxtRecord} (key value : String)
      (rest : TxtSlots slots records) :
      TxtSlots ((wide key, wide value) :: slots) (⟨key, some (Utf8.encode value)⟩ :: records)

/-- A record that wide strings can carry: its key is not empty, its value is text,
and neither contains a NUL. -/
structure Wide (r : TxtRecord) : Prop where
  notEmpty : r.key ≠ ""
  key : '\x00' ∉ r.key.toList
  value : ∀ v, r.value = some v → ∃ s, '\x00' ∉ s.toList ∧ Utf8.encode s = v

theorem readSlot_of_empty {key : Pwstr} (h : key = none ∨ key = some []) (value : Pwstr) :
    readSlot (key, value) = none := by
  rcases h with rfl | rfl <;> rfl

theorem readSlot_wide {key : String} (hkey : '\x00' ∉ key.toList) (hne : key ≠ "")
    (value : Pwstr) : readSlot (wide key, value) =
      some ⟨key, value.map fun units => Utf8.encode (pwstrToString (some units))⟩ := by
  rw [readSlot, pwstrToString_wide hkey, if_neg hne]

/-- The slots of the records are read as the records. -/
theorem TxtSlots.filterMap_readSlot {slots : List (Pwstr × Pwstr)} {records : List TxtRecord}
    (h : TxtSlots slots records) (hwide : ∀ r ∈ records, Wide r) :
    slots.filterMap readSlot = records := by
  induction h with
  | nil => rfl
  | skipped key value hkey _ ih =>
    rw [List.filterMap_cons_none (readSlot_of_empty hkey value), ih hwide]
  | keyOnly key _ ih =>
    have hr := hwide _ List.mem_cons_self
    rw [List.filterMap_cons_some (readSlot_wide hr.key hr.notEmpty none),
      ih fun r hmem => hwide r (List.mem_cons_of_mem _ hmem)]
    rfl
  | text key value _ ih =>
    have hr := hwide _ List.mem_cons_self
    obtain ⟨s, hs, hencode⟩ := hr.value _ rfl
    cases Utf8.encode_injective hencode
    have hvalue : (wide value).map (fun units => Utf8.encode (pwstrToString (some units))) =
        some (Utf8.encode value) :=
      congrArg (fun s => some (Utf8.encode s)) (pwstrToString_wide hs)
    rw [List.filterMap_cons_some (readSlot_wide hr.key hr.notEmpty (wide value)), hvalue,
      ih fun r hmem => hwide r (List.mem_cons_of_mem _ hmem)]

/-- **`read_txt` reads back the records** that the arrays hold. -/
theorem readTxt_of_slots {inst : DnsServiceInstance} {slots : List (Pwstr × Pwstr)}
    {records : List TxtRecord} (hinst : HoldsTxt inst slots) (hslots : TxtSlots slots records)
    (hwide : ∀ r ∈ records, Wide r) : readTxt inst = records := by
  rw [hinst.readTxt_eq, hslots.filterMap_readSlot hwide]

end MdnsSdDiscovery.Windows
