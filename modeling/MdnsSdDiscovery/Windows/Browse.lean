import MdnsSdDiscovery.Browse
import Mathlib.Data.Finset.Insert

/-!
# The Windows back-end (`src/windows/browse.rs`)

What one browse is asked for, what `handle_ptr` makes of one PTR target, and
when `start_browse` succeeds.  How the callbacks interleave with the end of the
browse is the subject of `Windows.Registry`.
-/

namespace MdnsSdDiscovery.Windows

open Labels

/-- `META_QUERY_TYPE` -/
def metaQueryType : String := "_services._dns-sd._udp.local"

/-- `DEFAULT_DOMAIN` -/
def defaultDomain : String := "local"

/-- `DNS_REQUEST_PENDING` -/
def dnsRequestPending : Int32 := 9506

/-- A `DNS_RECORDW`: a PTR record with its target as `pwstr_to_string` reads it,
or a record of another type. -/
inductive Record where
  | ptr (nameHost : String)
  | other
  deriving DecidableEq, Repr

/-- The target of a PTR record, as `browse_callback` passes it on. -/
def Record.target? : Record → Option String
  | .ptr nameHost => some (trimDot nameHost)
  | .other => none

/-- The targets of a record list. -/
def targets (records : List Record) : List String := records.filterMap Record.target?

@[simp] theorem targets_other (rest : List Record) : targets (.other :: rest) = targets rest := rfl

@[simp] theorem targets_ptr (nameHost : String) (rest : List Record) :
    targets (.ptr nameHost :: rest) = trimDot nameHost :: targets rest := rfl

/-- What `browse_callback` sends before it walks the records. -/
def statusReport (status : UInt32) : List Event :=
  if status ≠ 0 then [.error (.browseFailed s!"browse callback status {status}")] else []

/-- `cancelled` and `freed` say what has become of the context: its browse was
cancelled, and its `Box` was dropped. -/
structure BrowseContext where
  isMeta : Bool
  interface : UInt32
  serviceType : String
  domain : String
  seen : Finset String := ∅
  cancelled : Bool := false
  freed : Bool := false
  deriving DecidableEq

/-- The arguments of `start_browse` that describe the browse. -/
structure Request where
  queryName : String
  serviceType : String
  domain : String
  interface : UInt32
  isMeta : Bool
  deriving DecidableEq, Repr

/-- What `browse_start` asks `start_browse` for. -/
def browseStart (serviceType domain : Option String) (interfaceIndex : Option NonZeroU32) :
    Request :=
  let interface := (interfaceIndex.map (·.val)).getD 0
  let domain := domain.getD defaultDomain
  match serviceType with
  | some serviceType => ⟨s!"{serviceType}.{domain}", serviceType, domain, interface, false⟩
  | none => ⟨metaQueryType, metaQueryType, domain, interface, true⟩

/-- Why `start_browse` fails: the query name contains a NUL, which the
`widestring` crate reports, or `DnsServiceBrowse` returns another status than
`DNS_REQUEST_PENDING`. -/
inductive StartFailure where
  | nul
  | status (result : Int32)
  deriving DecidableEq, Repr

/-- `start_browse` up to the push of its entry; `result` is the status of
`DnsServiceBrowse`. -/
def startBrowse (request : Request) (result : Int32) : Except StartFailure BrowseContext :=
  if '\x00' ∈ request.queryName.toList then .error .nul
  else if result ≠ dnsRequestPending then .error (.status result)
  else .ok {
    isMeta := request.isMeta
    interface := request.interface
    serviceType := request.serviceType
    domain := request.domain }

/-- `start_browse` succeeds with a new context. -/
theorem startBrowse_eq_ok {request : Request} {result : Int32} {ctx : BrowseContext} :
    startBrowse request result = .ok ctx ↔ '\x00' ∉ request.queryName.toList ∧
      result = dnsRequestPending ∧ ctx = {
        isMeta := request.isMeta
        interface := request.interface
        serviceType := request.serviceType
        domain := request.domain } := by
  unfold startBrowse
  by_cases hnul : '\x00' ∈ request.queryName.toList
  · simp [hnul]
  · by_cases hresult : result = dnsRequestPending
    · simp [hnul, hresult, eq_comm]
    · simp [hnul, hresult]

/-- `instance_label` -/
def instanceLabel (full serviceType domain : String) : String :=
  (stripSuffix full s!".{serviceType}.{domain}").getD full

/-- What `handle_ptr` goes on to do with a target. -/
inductive PtrEffect where
  /-- The target was handled before. -/
  | handled
  /-- Upgrade the registry and start a child browse. -/
  | browse (request : Request)
  /-- `start_resolve` -/
  | resolve (fullName label : String)
  deriving DecidableEq, Repr

/-- `handle_ptr` up to the upgrade of the registry or the resolve. -/
def handlePtr (ctx : BrowseContext) (target : String) : BrowseContext × PtrEffect :=
  if target ∈ ctx.seen then (ctx, .handled)
  else
    let ctx := { ctx with seen := insert target ctx.seen }
    if ctx.isMeta then
      let (serviceType, domain) :=
        match rsplitOnce target '.' with
        | some (serviceType, domain) => (serviceType, domain)
        | none => (target, ctx.domain)
      (ctx, .browse ⟨target, serviceType, domain, ctx.interface, false⟩)
    else (ctx, .resolve target (instanceLabel target ctx.serviceType ctx.domain))

/-- The three ways through `handle_ptr`. -/
theorem handlePtr_cases (ctx : BrowseContext) (target : String) :
    (target ∈ ctx.seen ∧ handlePtr ctx target = (ctx, .handled)) ∨
    (target ∉ ctx.seen ∧ ctx.isMeta = true ∧ ∃ request : Request, request.queryName = target ∧
      request.interface = ctx.interface ∧ request.isMeta = false ∧
      handlePtr ctx target = ({ ctx with seen := insert target ctx.seen }, .browse request)) ∨
    (target ∉ ctx.seen ∧ ctx.isMeta = false ∧
      handlePtr ctx target = ({ ctx with seen := insert target ctx.seen },
        .resolve target (instanceLabel target ctx.serviceType ctx.domain))) := by
  unfold handlePtr
  by_cases hseen : target ∈ ctx.seen
  · exact .inl ⟨hseen, if_pos hseen⟩
  · right
    rw [if_neg hseen]
    by_cases hmeta : ctx.isMeta = true
    · refine .inl ⟨hseen, hmeta, _, ?_, ?_, ?_, if_pos hmeta⟩ <;> rfl
    · exact .inr ⟨hseen, by simpa using hmeta, if_neg hmeta⟩

end MdnsSdDiscovery.Windows
