import MdnsSdDiscovery.Windows.Resolve
import MdnsSdDiscovery.Windows.Scope

/-!
# Instance names on Windows

A browse recovers the label of an instance from its full name, and `resolve_once`
puts the label, the type and the domain of a Found event together again.  The
target is trimmed before it is compared with what the caller gave to the builder:

* `instanceLabel_fullName`: the label is recovered from an untrimmed name;
* `instanceLabel_of_endsWith`: nothing is recovered if the domain has a final dot;
* `foundName_iff`: when the name of a Found event is the label and leads back to
  the target;
* `cascade_names`: behind the meta query, where the target of a type gives both
  type and domain, the name is always the label.
-/

namespace MdnsSdDiscovery.Windows

open Labels

/-- The name of an instance with its type and domain. -/
def fullName (name serviceType domain : String) : String := s!"{name}.{serviceType}.{domain}"

/-- `resolve_once` up to `DnsServiceResolve`: what it issues, unless the query
name contains a NUL. -/
def resolveOnce (name serviceType domain : String) (interfaceIndex : Option NonZeroU32) :
    Option Issued :=
  let interface := (interfaceIndex.map (·.val)).getD 0
  let fullName := fullName name serviceType domain
  if '\x00' ∈ fullName.toList then none else some (.resolve fullName interface)

/-- The resolve that `browse_callback` starts for a PTR record. -/
def ptrResolve (ctx : BrowseContext) (nameHost : String) : Option ResolveContext :=
  match (handlePtr ctx (trimDot nameHost)).2 with
  | .resolve fullName label => startResolve ctx fullName label
  | _ => none

/-! ## Labels of full names -/

/-- What `instance_label` strips. -/
def nameSuffix (serviceType domain : String) : String := "." ++ serviceType ++ "." ++ domain

section
variable {label serviceType domain : String}

theorem fullName_eq_append (label serviceType domain : String) :
    fullName label serviceType domain = label ++ nameSuffix serviceType domain := by
  show label ++ "." ++ serviceType ++ "." ++ domain = label ++ nameSuffix serviceType domain
  simp only [nameSuffix, String.append_assoc]

theorem instanceLabel_eq (full serviceType domain : String) :
    instanceLabel full serviceType domain =
      (stripSuffix full (nameSuffix serviceType domain)).getD full := rfl

theorem instanceLabel_fullName (label serviceType domain : String) :
    instanceLabel (fullName label serviceType domain) serviceType domain = label := by
  rw [instanceLabel_eq, fullName_eq_append, stripSuffix_append, Option.getD_some]

theorem endsWith_nameSuffix (hdomain : domain ≠ "") :
    endsWith (nameSuffix serviceType domain) '.' = endsWith domain '.' :=
  endsWith_append ("." ++ serviceType ++ ".") hdomain

theorem endsWith_fullName (label serviceType : String) (hdomain : domain ≠ "") :
    endsWith (fullName label serviceType domain) '.' = endsWith domain '.' :=
  endsWith_append (label ++ "." ++ serviceType ++ ".") hdomain

/-- A name without a final dot does not end with the domain. -/
theorem instanceLabel_of_endsWith {target : String} (hdomain : domain ≠ "")
    (hend : endsWith domain '.' = true) (htarget : endsWith target '.' = false) :
    instanceLabel target serviceType domain = target := by
  rw [instanceLabel_eq, stripSuffix_eq_none htarget ((endsWith_nameSuffix hdomain).trans hend),
    Option.getD_none]

theorem forall_mem_nameSuffix :
    (∀ c ∈ (nameSuffix serviceType domain).toList, c = '.') ↔
      (∀ c ∈ serviceType.toList, c = '.') ∧ ∀ c ∈ domain.toList, c = '.' := by
  simp only [nameSuffix, String.toList_append, List.forall_mem_append]
  simp

/-- **When the label is recovered** from a trimmed name: the domain has no final
dot, or trimming has removed all but the label. -/
theorem instanceLabel_trimDot_iff (hdomain : domain ≠ "") :
    instanceLabel (trimDot (fullName label serviceType domain)) serviceType domain = label ↔
      endsWith domain '.' = false ∨ ((∀ c ∈ serviceType.toList, c = '.') ∧
        (∀ c ∈ domain.toList, c = '.') ∧ endsWith label '.' = false) := by
  cases hend : endsWith domain '.' with
  | false =>
    have hfull := (endsWith_fullName label serviceType hdomain).trans hend
    have htrim : trimDot (fullName label serviceType domain) = fullName label serviceType domain :=
      trimEndMatches_eq_self_iff.mpr hfull
    rw [htrim]
    exact iff_of_true (instanceLabel_fullName label serviceType domain) (.inl rfl)
  | true =>
    have htarget : endsWith (trimDot (fullName label serviceType domain)) '.' = false :=
      endsWith_trimEndMatches _
    rw [instanceLabel_of_endsWith hdomain hend htarget, trimDot, fullName_eq_append,
      trimEndMatches_append_eq_left_iff, forall_mem_nameSuffix, and_assoc]
    simp

end

/-! ## Found events -/

section
variable {label serviceType domain nameHost : String} {ctx : BrowseContext} {rc : ResolveContext}

/-- The resolve that a browse starts for a target that it has not seen. -/
theorem ptrResolve_eq_some (h : ptrResolve ctx nameHost = some rc) :
    '\x00' ∉ (trimDot nameHost).toList ∧ rc = {
      name := instanceLabel (trimDot nameHost) ctx.serviceType ctx.domain
      serviceType := ctx.serviceType
      domain := ctx.domain
      queryName := trimDot nameHost } := by
  unfold ptrResolve at h
  rcases handlePtr_cases ctx (trimDot nameHost) with
    ⟨-, he⟩ | ⟨-, -, request, -, -, -, he⟩ | ⟨-, -, he⟩ <;> rw [he] at h
  · cases h
  · cases h
  · dsimp only at h
    have hnul : '\x00' ∉ (trimDot nameHost).toList := by
      intro hmem
      rw [startResolve_eq_none.mpr hmem] at h
      cases h
    exact ⟨hnul, startResolve_eq_some h⟩

theorem found_of_resolveCallback {status : UInt32} {inst : Option DnsServiceInstance}
    {service : DiscoveredService} (h : resolveCallback rc status inst = .ok (.found service)) :
    service.name = rc.name ∧ service.serviceType = rc.serviceType ∧ service.domain = rc.domain := by
  have houtcome := resolveCallback_outcome rc status inst
  rw [h] at houtcome
  cases houtcome with
  | found _ hname htype hdomain => exact ⟨hname, htype, hdomain⟩

/-- What `resolve_once` asks for, for a name that the target of a browse spells. -/
theorem resolveOnce_of_trimDot (again : Option NonZeroU32)
    (hnul : '\x00' ∉ (trimDot (fullName label serviceType domain)).toList) :
    resolveOnce label serviceType domain again =
      some (.resolve (fullName label serviceType domain) ((again.map (·.val)).getD 0)) := by
  refine if_neg ?_
  intro hmem
  exact hnul ((mem_trimDot_iff (by decide)).mpr hmem)

/-- **A Found event carries the label and leads back to the target exactly when**
the domain that the builder was given has no final dot, or the type and the
domain are nothing but dots behind a label without one. -/
theorem foundName_iff {index again : Option NonZeroU32} {result : Int32} {seen : Finset String}
    {status : UInt32} {inst : Option DnsServiceInstance} {service : DiscoveredService}
    (hdomain : domain ≠ "")
    (hstart : startBrowse (browseStart (some serviceType) (some domain) index) result = .ok ctx)
    (htarget : trimDot nameHost = trimDot (fullName label serviceType domain))
    (hresolve : ptrResolve { ctx with seen } nameHost = some rc)
    (hfound : resolveCallback rc status inst = .ok (.found service)) :
    (service.name = label ∧ ∃ queryName interface,
      resolveOnce service.name service.serviceType service.domain again =
        some (.resolve queryName interface) ∧ trimDot queryName = trimDot rc.queryName) ↔
      endsWith domain '.' = false ∨ ((∀ c ∈ serviceType.toList, c = '.') ∧
        (∀ c ∈ domain.toList, c = '.') ∧ endsWith label '.' = false) := by
  obtain ⟨-, -, rfl⟩ := startBrowse_eq_ok.mp hstart
  obtain ⟨hnul, hrc⟩ := ptrResolve_eq_some hresolve
  obtain ⟨hname, htype, hdom⟩ := found_of_resolveCallback hfound
  change rc = ⟨instanceLabel (trimDot nameHost) serviceType domain, serviceType, domain,
    trimDot nameHost⟩ at hrc
  rw [htarget] at hnul hrc
  rw [hname, htype, hdom, hrc, ← instanceLabel_trimDot_iff hdomain]
  refine and_iff_left_of_imp ?_
  intro hlabel
  rw [hlabel]
  exact ⟨_, _, resolveOnce_of_trimDot again hnul, (trimDot_trimDot _).symm⟩

end

/-- An answer with an IPv4 address. -/
def printerInstance : DnsServiceInstance where
  pszHostName := some [0x70, 0x2E]
  ip4Address := some 0x0A01A8C0
  ip6Address := none
  wPort := 631
  dwPropertyCount := 0
  keys := none
  values := none
  dwInterfaceIndex := 2

/-- A label with dots in `local`. -/
theorem foundName_iff_example :
    ∃ rc service, ptrResolve ⟨false, 0, "_ipp._tcp", "local", ∅, false, false⟩
        "Printer 2.0._ipp._tcp.local." = some rc ∧
      resolveCallback rc 0 (some printerInstance) = .ok (.found service) ∧
      service.name = "Printer 2.0" ∧ ∃ queryName interface,
        resolveOnce service.name service.serviceType service.domain none =
          some (.resolve queryName interface) ∧ trimDot queryName = trimDot rc.queryName := by
  have hstart : startBrowse (browseStart (some "_ipp._tcp") (some "local") none)
      dnsRequestPending = .ok ⟨false, 0, "_ipp._tcp", "local", ∅, false, false⟩ := by
    decide +kernel
  have htarget : trimDot "Printer 2.0._ipp._tcp.local." =
      trimDot (fullName "Printer 2.0" "_ipp._tcp" "local") := by
    decide +kernel
  have hresolve : ptrResolve ⟨false, 0, "_ipp._tcp", "local", ∅, false, false⟩
      "Printer 2.0._ipp._tcp.local." =
      some ⟨"Printer 2.0", "_ipp._tcp", "local", "Printer 2.0._ipp._tcp.local"⟩ := by
    decide +kernel
  have hend : endsWith "local" '.' = false := by
    decide +kernel
  have hfound : resolveCallback
      ⟨"Printer 2.0", "_ipp._tcp", "local", "Printer 2.0._ipp._tcp.local"⟩ 0
      (some printerInstance) =
      .ok (.found (buildService printerInstance "Printer 2.0" "_ipp._tcp" "local")) := rfl
  exact ⟨_, _, hresolve, hfound,
    (foundName_iff (by decide) hstart htarget hresolve hfound).mpr (.inl hend)⟩

/-- **A domain with a final dot**: the name is the whole target, and `resolve_once`
asks for a name in which the type and the domain stand twice. -/
theorem foundName_dotted :
    let ctx : BrowseContext := ⟨false, 0, "_ipp._tcp", "local.", ∅, false, false⟩
    let rc : ResolveContext :=
      ⟨"Printer._ipp._tcp.local", "_ipp._tcp", "local.", "Printer._ipp._tcp.local"⟩
    let service := buildService printerInstance rc.name rc.serviceType rc.domain
    startBrowse (browseStart (some "_ipp._tcp") (some "local.") none) dnsRequestPending = .ok ctx ∧
    trimDot "Printer._ipp._tcp.local." = trimDot (fullName "Printer" "_ipp._tcp" "local.") ∧
    ptrResolve ctx "Printer._ipp._tcp.local." = some rc ∧
    resolveCallback rc 0 (some printerInstance) = .ok (.found service) ∧
    service.name ≠ "Printer" ∧
    resolveOnce service.name service.serviceType service.domain none =
      some (.resolve "Printer._ipp._tcp.local._ipp._tcp.local." 0) ∧
    trimDot "Printer._ipp._tcp.local._ipp._tcp.local." ≠ trimDot rc.queryName := by
  intro ctx rc service
  refine ⟨?_, ?_, ?_, rfl, ?_, ?_, ?_⟩ <;> decide +kernel

/-! ## Names through the cascade -/

/-- The instance that an event of a resolve is about. -/
def eventName : Event → Option String
  | .ok (.found service) => some service.name
  | .error (.resolveFailed name _) => some name
  | _ => none

/-- The events with which a resolve can end. -/
inductive ResolveEvent (rc : ResolveContext) : Event → Prop where
  | refused (result : Int32) : ResolveEvent rc (resolveRefused rc result)
  | completed (status : UInt32) (inst : Option DnsServiceInstance) :
      ResolveEvent rc (resolveCallback rc status inst)

theorem ResolveEvent.eventName_eq {rc : ResolveContext} {e : Event} (h : ResolveEvent rc e) :
    eventName e = some rc.name := by
  have houtcome : Outcome rc e := by
    cases h with
    | refused result => exact resolveRefused_outcome rc result
    | completed status inst => exact resolveCallback_outcome rc status inst
  cases houtcome with
  | found service hname htype hdomain => exact congrArg some hname
  | failed reason => rfl

/-- The PTR target of an instance of the service type `t`. -/
def instanceTarget (label t : String) (dots : Nat) : String :=
  label ++ "." ++ t ++ separators '.' dots

/-- The browse `child` publishes `e` about the instance of `t` with the label. -/
def Publishes (child : BrowseContext) (t label : String) (e : Event) : Prop :=
  ∃ seen dots rc, ptrResolve { child with seen } (instanceTarget label t dots) = some rc ∧
    ResolveEvent rc e

section
variable {t label : String}

theorem trimDot_instanceTarget (ht : t ≠ "") (hend : endsWith t '.' = false) (label : String)
    (dots : Nat) : trimDot (instanceTarget label t dots) = label ++ "." ++ t := by
  refine trimEndMatches_append_eq_left_iff.mpr ⟨?_, ?_⟩
  · intro d hd
    rw [toList_separators] at hd
    exact List.eq_of_mem_replicate hd
  · rw [endsWith_append _ ht]
    exact hend

/-- A service type with its domain leads to the label behind which it stands. -/
theorem instanceLabel_instanceTarget {serviceType domain : String}
    (ht : serviceType ++ "." ++ domain = t) (label : String) :
    instanceLabel (label ++ "." ++ t) serviceType domain = label := by
  have hfull : label ++ "." ++ t = fullName label serviceType domain := by
    rw [← ht, fullName_eq_append, nameSuffix]
    simp only [String.append_assoc]
  rw [hfull, instanceLabel_fullName]

end

/-- The request of `handle_ptr` for a service type with a dot. -/
theorem handlePtr_dotted {ctx : BrowseContext} {target : String} (hmeta : ctx.isMeta = true)
    (hseen : target ∉ ctx.seen) (hdot : '.' ∈ target.toList) :
    ∃ serviceType domain, serviceType ++ "." ++ domain = target ∧ (handlePtr ctx target).2 =
      .browse ⟨target, serviceType, domain, ctx.interface, false⟩ := by
  obtain ⟨serviceType, domain, htarget, -, hsplit⟩ := rsplitOnce_of_mem hdot
  refine ⟨serviceType, domain, htarget.symm, ?_⟩
  unfold handlePtr
  rw [if_neg hseen, if_pos hmeta, hsplit]

section
variable {t serviceType domain : String} {child : BrowseContext}

/-- A browse of the type and the domain resolves the instance under its label. -/
theorem Publishes.eventName_eq {label : String} {e : Event} (h : Publishes child t label e)
    (hchild : child.serviceType ++ "." ++ child.domain = t) (ht : t ≠ "")
    (hend : endsWith t '.' = false) : eventName e = some label := by
  obtain ⟨seen, dots, rc, hresolve, he⟩ := h
  obtain ⟨-, hrc⟩ := ptrResolve_eq_some hresolve
  rw [trimDot_instanceTarget ht hend] at hrc
  have hname : rc.name = label := by
    rw [hrc]
    exact instanceLabel_instanceTarget hchild label
  rw [he.eventName_eq, hname]

/-- It resolves every instance that it has not seen. -/
theorem isSome_ptrResolve {label : String} {seen : Finset String} (dots : Nat)
    (hinstance : child.isMeta = false) (ht : t ≠ "") (hend : endsWith t '.' = false)
    (hnul : '\x00' ∉ (label ++ "." ++ t).toList) (hseen : label ++ "." ++ t ∉ seen) :
    (ptrResolve { child with seen } (instanceTarget label t dots)).isSome = true := by
  rw [ptrResolve, trimDot_instanceTarget ht hend]
  rcases handlePtr_cases { child with seen } (label ++ "." ++ t) with
    ⟨hmem, -⟩ | ⟨-, hmeta, -⟩ | ⟨-, -, he⟩
  · exact absurd hmem hseen
  · exact absurd (hmeta.symm.trans hinstance) (by decide)
  · rw [he]
    dsimp only
    rw [startResolve, if_neg hnul]
    rfl

end

/-- **The names found through the cascade are exact**, however deep the domain.  The
child browse starts unless the target holds a NUL. -/
theorem cascade_names {ctx : BrowseContext} {nameHost : String} (hmeta : ctx.isMeta = true)
    (hseen : trimDot nameHost ∉ ctx.seen) (hdot : '.' ∈ (trimDot nameHost).toList) :
    let t := trimDot nameHost
    ∃ request, (handlePtr ctx t).2 = .browse request ∧
      request.serviceType ++ "." ++ request.domain = t ∧ request.queryName = t ∧
      ((∃ child, startBrowse request dnsRequestPending = .ok child) ↔ '\x00' ∉ t.toList) ∧
      ∀ result child, startBrowse request result = .ok child →
        (∀ label dots seen, '\x00' ∉ label.toList → label ++ "." ++ t ∉ seen →
          (ptrResolve { child with seen } (instanceTarget label t dots)).isSome = true) ∧
        (∀ label e, Publishes child t label e → eventName e = some label) ∧
        ∀ label label' e e', label ≠ label' → Publishes child t label e →
          Publishes child t label' e' → eventName e ≠ eventName e' := by
  intro t
  have hend : endsWith t '.' = false := endsWith_trimEndMatches nameHost
  have ht : t ≠ "" := by
    intro hempty
    have hnone : '.' ∉ t.toList := by
      rw [hempty]
      exact List.not_mem_nil
    exact hnone hdot
  obtain ⟨serviceType, domain, hjoin, hptr⟩ := handlePtr_dotted hmeta hseen hdot
  refine ⟨_, hptr, hjoin, rfl, ?_, ?_⟩
  · constructor
    · rintro ⟨child, hstart⟩
      exact (startBrowse_eq_ok.mp hstart).1
    · intro hnul
      exact ⟨_, startBrowse_eq_ok.mpr ⟨hnul, rfl, rfl⟩⟩
  intro result child hstart
  obtain ⟨hnul, -, hctx⟩ := startBrowse_eq_ok.mp hstart
  have hinstance : child.isMeta = false := by rw [hctx]
  have hchild : child.serviceType ++ "." ++ child.domain = t := by
    rw [hctx]
    exact hjoin
  have hexact : ∀ label e, Publishes child t label e → eventName e = some label :=
    fun label e h => h.eventName_eq hchild ht hend
  refine ⟨?_, hexact, ?_⟩
  · intro label dots seen hlabel hunseen
    refine isSome_ptrResolve dots hinstance ht hend ?_ hunseen
    rw [String.toList_append, String.toList_append, List.mem_append, List.mem_append]
    rintro ((hmem | hmem) | hmem)
    · exact hlabel hmem
    · exact absurd hmem (by decide)
    · exact hnul hmem
  · intro label label' e e' hne h h' heq
    rw [hexact label e h, hexact label' e' h'] at heq
    exact hne (Option.some.inj heq)

/-- A type three labels above the root, and a label that holds a copy of it. -/
theorem cascade_names_example :
    let ctx : BrowseContext := ⟨true, 0, metaQueryType, "local", ∅, false, false⟩
    let request : Request := ⟨"_http._tcp.example.com", "_http._tcp.example", "com", 0, false⟩
    (handlePtr ctx (trimDot "_http._tcp.example.com.")).2 = .browse request ∧
    ∃ child, startBrowse request dnsRequestPending = .ok child ∧
      ∃ rc, ptrResolve child
          (instanceTarget "web._http._tcp.example.com" "_http._tcp.example.com" 1) = some rc ∧
        eventName (resolveCallback rc 0 none) = some "web._http._tcp.example.com" := by
  intro ctx request
  have htrim : trimDot "_http._tcp.example.com." = "_http._tcp.example.com" := by
    decide +kernel
  have hptr : (handlePtr ctx (trimDot "_http._tcp.example.com.")).2 = .browse request := by
    decide +kernel
  obtain ⟨request', hrequest, -, -, hstarts, hchild⟩ :=
    @cascade_names ctx "_http._tcp.example.com." rfl (by decide) (by decide +kernel)
  cases hptr.symm.trans hrequest
  rw [htrim] at hstarts hchild
  obtain ⟨child, hstart⟩ := hstarts.mpr (by decide)
  obtain ⟨hsome, hname, -⟩ := hchild dnsRequestPending child hstart
  have hseen : child.seen = ∅ := by
    obtain ⟨-, -, rfl⟩ := startBrowse_eq_ok.mp hstart
    rfl
  obtain ⟨rc, hrc⟩ := Option.isSome_iff_exists.mp
    (hsome "web._http._tcp.example.com" 1 child.seen (by decide) (by simp [hseen]))
  exact ⟨hptr, child, hstart, rc, hrc, hname _ _ ⟨child.seen, 1, rc, hrc, .completed 0 none⟩⟩

end MdnsSdDiscovery.Windows
