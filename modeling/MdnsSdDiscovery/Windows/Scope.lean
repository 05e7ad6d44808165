import MdnsSdDiscovery.Windows.Registry

/-!
# The scope of a browse

The builder restricts a browse to a domain and to an interface.  `issued` is what
a step asks the OS for, and `staysInScope_iff` says when all of it keeps to that
scope:

* the interface is handed on from the root to every child and every resolve;
* the meta query is always asked in `local`, so its answers, and the children
  they start, are in the requested domain only if that is `local` too.
-/

namespace MdnsSdDiscovery.Windows

open Runs Labels

/-- A request that reaches the OS. -/
inductive Issued where
  /-- `DnsServiceBrowse` -/
  | browse (queryName : String) (interface : UInt32)
  /-- `DnsServiceResolve` -/
  | resolve (queryName : String) (interface : UInt32)
  deriving DecidableEq, Repr

/-- What `start_browse` issues, whatever comes back. -/
def browseIssued (request : Request) : List Issued :=
  if '\x00' ∈ request.queryName.toList then [] else [.browse request.queryName request.interface]

/-- What `start_resolve` issues, whatever comes back. -/
def resolveIssued (ctx : BrowseContext) (fullName : String) : List Issued :=
  if '\x00' ∈ fullName.toList then [] else [.resolve fullName ctx.interface]

/-- What `handle_ptr` issues before it upgrades the registry. -/
def ptrIssued (ctx : BrowseContext) (target : String) : List Issued :=
  match (handlePtr ctx target).2 with
  | .resolve fullName _ => resolveIssued ctx fullName
  | _ => []

/-- What a step issues. -/
def Backend.issued (s : Backend) : Backend.Label → List Issued
  | .handleRecord c =>
    match s.callbacks[c]? with
    | some ⟨i, .ptr nameHost :: _, .walking⟩ =>
      ((s.contexts[i]?).map fun ctx => ptrIssued ctx (trimDot nameHost)).getD []
    | _ => []
  | .startBrowse c _ =>
    match s.callbacks[c]? with
    | some ⟨_, _, .upgraded request⟩ => browseIssued request
    | _ => []
  | _ => []

/-- `name` is of the form `X.domain`. -/
def Under (domain name : String) : Prop := ∃ x, name = x ++ "." ++ domain

/-- The request keeps to the domain and the interface. -/
def InScope (domain : String) (interface : UInt32) : Issued → Prop
  | .browse queryName i => Under domain queryName ∧ i = interface
  | .resolve _ i => i = interface

/-- The domain of the query that the context stands for: `META_QUERY_TYPE` is a
name in `local`. -/
def BrowseContext.queryDomain (ctx : BrowseContext) : String :=
  if ctx.isMeta then defaultDomain else ctx.domain

/-- A callback is entered with targets under the domain of its query. -/
def Backend.AnswersUnder (s : Backend) (l : Backend.Label) : Prop :=
  ∀ i status records, l = .enter i status records → ∀ ctx, s.contexts[i]? = some ctx →
    ∀ nameHost, .ptr nameHost ∈ records → Under ctx.queryDomain (trimDot nameHost)

namespace Backend

section
variable {s s' : Backend} {l : Label} {domain : String} {interface : UInt32}

/-! ## Where contexts and requests come from -/

theorem contexts_remember {i j : Nat} {nameHost : String} {ctx ctx' : BrowseContext}
    (hctx : s.contexts[i]? = some ctx)
    (hj : (s.remember i ctx nameHost).contexts[j]? = some ctx') :
    ∃ old, s.contexts[j]? = some old ∧ ctx'.isMeta = old.isMeta ∧
      ctx'.interface = old.interface := by
  simp only [remember, List.getElem?_set] at hj
  by_cases hij : i = j
  · subst hij
    rw [if_pos rfl, if_pos (List.getElem?_eq_some_iff.mp hctx).1] at hj
    cases hj
    exact ⟨ctx, hctx, rfl, rfl⟩
  · rw [if_neg hij] at hj
    exact ⟨ctx', hj, rfl, rfl⟩

theorem contexts_modify {e j : Nat} {f : BrowseContext → BrowseContext} {ctx' : BrowseContext}
    (hj : (s.contexts.modify e f)[j]? = some ctx')
    (hf : ∀ ctx, (f ctx).isMeta = ctx.isMeta ∧ (f ctx).interface = ctx.interface) :
    ∃ old, s.contexts[j]? = some old ∧ ctx'.isMeta = old.isMeta ∧
      ctx'.interface = old.interface := by
  rw [List.getElem?_modify] at hj
  obtain ⟨old, hold, rfl⟩ := Option.map_eq_some_iff.mp hj
  refine ⟨old, hold, ?_⟩
  by_cases he : e = j
  · rw [if_pos he]
    exact hf old
  · rw [if_neg he]
    exact ⟨rfl, rfl⟩

/-- A context is an old one, or it answers the request of a callback. -/
theorem change_context (h : Change s l s') {j : Nat} {ctx' : BrowseContext}
    (hj : s'.contexts[j]? = some ctx') :
    (∃ ctx, s.contexts[j]? = some ctx ∧ ctx'.isMeta = ctx.isMeta ∧
      ctx'.interface = ctx.interface) ∨
    ∃ cb ∈ s.callbacks, ∃ request, cb.phase = .upgraded request ∧
      ctx'.isMeta = request.isMeta ∧ ctx'.interface = request.interface := by
  cases h with
  | orphan c i nameHost rest ctx hc hctx => exact .inl (contexts_remember hctx hj)
  | upgrade c i nameHost rest ctx request hc hctx => exact .inl (contexts_remember hctx hj)
  | resolve c i nameHost rest ctx label hc hctx => exact .inl (contexts_remember hctx hj)
  | start c i records request ctx result hc hstart =>
    obtain ⟨-, -, rfl⟩ := startBrowse_eq_ok.mp hstart
    simp only [put, List.getElem?_append] at hj
    by_cases hlt : j < s.contexts.length
    · rw [if_pos hlt] at hj
      exact .inl ⟨ctx', hj, rfl, rfl⟩
    · rw [if_neg hlt] at hj
      obtain rfl := List.mem_singleton.mp (List.mem_of_getElem? hj)
      exact .inr ⟨_, List.mem_of_getElem? hc, request, rfl, rfl, rfl⟩
  | cancel e | cancelInside c i records e => exact .inl (contexts_modify hj fun _ => ⟨rfl, rfl⟩)
  | free e | freeInside c i records e => exact .inl (contexts_modify hj fun _ => ⟨rfl, rfl⟩)
  | enter | other | handled | refuse | push | lastArc | release | leave | pushRoot | lastGuard
  | dropGuard | dropped => exact .inl ⟨ctx', hj, rfl, rfl⟩

/-- A request of `handle_ptr` on context `ctx`. -/
structure Asked (ctx : BrowseContext) (records : List Record) (request : Request) : Prop where
  isMeta : ctx.isMeta = true
  interface : request.interface = ctx.interface
  child : request.isMeta = false
  name : ∃ nameHost, .ptr nameHost ∈ records ∧ request.queryName = trimDot nameHost

/-- Callback `cb` may have gone on to `cb'`. -/
structure GoesOn (s : Backend) (cb cb' : Callback) : Prop where
  ctx : cb.ctx = cb'.ctx
  records : cb'.records ⊆ cb.records
  upgraded : ∀ request, cb'.phase = .upgraded request → cb.phase = .upgraded request ∨
    ∃ ctx, s.contexts[cb.ctx]? = some ctx ∧ Asked ctx cb.records request

/-- A callback is entered, or goes on with the records it was entered with. -/
theorem change_callback (h : Change s l s') {cb' : Callback} (hcb : cb' ∈ s'.callbacks) :
    (∃ status, l = .enter cb'.ctx status cb'.records ∧ cb'.phase = .walking) ∨
    ∃ cb ∈ s.callbacks, GoesOn s cb cb' := by
  have hsame : cb' ∈ s.callbacks → ∃ cb ∈ s.callbacks, GoesOn s cb cb' :=
    fun hmem => ⟨cb', hmem, rfl, List.Subset.refl _, fun _ hphase => .inl hphase⟩
  have hput : ∀ {c i : Nat} {records rest : List Record} {phase phase' : Phase},
      s.callbacks[c]? = some ⟨i, records, phase⟩ → rest ⊆ records →
      (∀ request, phase' ≠ .upgraded request) →
      cb' ∈ s.callbacks.set c ⟨i, rest, phase'⟩ → ∃ cb ∈ s.callbacks, GoesOn s cb cb' := by
    intro c i records rest phase phase' hc hrest hphase hmem
    rcases List.mem_or_eq_of_mem_set hmem with hold | rfl
    · exact hsame hold
    · exact ⟨_, List.mem_of_getElem? hc, rfl, hrest, fun request heq => absurd heq (hphase request)⟩
  cases h with
  | enter i status records hlive hi =>
    rcases List.mem_append.mp hcb with hold | hnew
    · exact .inr (hsame hold)
    · obtain rfl := List.mem_singleton.mp hnew
      exact .inl ⟨status, rfl, rfl⟩
  | upgrade c i nameHost rest ctx request hc hctx hmeta hseen hstrong hname hinterface hchild =>
    right
    rcases List.mem_or_eq_of_mem_set hcb with hold | rfl
    · exact hsame hold
    · refine ⟨_, List.mem_of_getElem? hc, rfl, List.subset_cons_self _ _, ?_⟩
      intro request' hphase
      obtain rfl := Phase.upgraded.inj hphase
      exact .inr ⟨ctx, hctx, hmeta, hinterface, hchild, nameHost, List.mem_cons_self, hname⟩
  | other c i rest hc => exact .inr (hput hc (List.subset_cons_self _ _) (by simp) hcb)
  | handled c i nameHost rest ctx hc =>
    exact .inr (hput hc (List.subset_cons_self _ _) (by simp) hcb)
  | orphan c i nameHost rest ctx hc =>
    exact .inr (hput hc (List.subset_cons_self _ _) (by simp) hcb)
  | resolve c i nameHost rest ctx label hc =>
    exact .inr (hput hc (List.subset_cons_self _ _) (by simp) hcb)
  | start c i records request ctx result hc =>
    exact .inr (hput hc (List.Subset.refl _) (by simp) hcb)
  | refuse c i records request err result hc =>
    exact .inr (hput hc (List.Subset.refl _) (by simp) hcb)
  | push c i records child hc => exact .inr (hput hc (List.Subset.refl _) (by simp) hcb)
  | lastArc c i records hc => exact .inr (hput hc (List.Subset.refl _) (by simp) hcb)
  | release c i records hc => exact .inr (hput hc (List.Subset.refl _) (by simp) hcb)
  | leave c i hc => exact .inr (hput hc (List.Subset.refl _) (by simp) hcb)
  | freeInside c i records e rest hc => exact .inr (hput hc (List.Subset.refl _) (by simp) hcb)
  | dropped c i records hc => exact .inr (hput hc (List.Subset.refl _) (by simp) hcb)
  | pushRoot | lastGuard | dropGuard | cancel | free | cancelInside => exact .inr (hsame hcb)

/-! ## The invariant -/

/-- What keeps the requests of a browse in its scope. -/
structure Scoped (domain : String) (interface : UInt32) (s : Backend) : Prop where
  interfaces : ∀ (j : Nat) (ctx : BrowseContext), s.contexts[j]? = some ctx →
    ctx.interface = interface
  metaDomain : ∀ (j : Nat) (ctx : BrowseContext), s.contexts[j]? = some ctx →
    ctx.isMeta = true → domain = defaultDomain
  records : ∀ cb ∈ s.callbacks, ∀ ctx, s.contexts[cb.ctx]? = some ctx → ctx.isMeta = true →
    ∀ nameHost, .ptr nameHost ∈ cb.records → Under domain (trimDot nameHost)
  upgraded : ∀ cb ∈ s.callbacks, ∀ request, cb.phase = .upgraded request →
    request.interface = interface ∧ request.isMeta = false ∧ Under domain request.queryName

theorem scoped_start {root : BrowseContext} (hinterface : root.interface = interface)
    (hmeta : root.isMeta = true → domain = defaultDomain) :
    Scoped domain interface (start root) := by
  have hroot : ∀ (j : Nat) (ctx : BrowseContext), (start root).contexts[j]? = some ctx →
      ctx = root := by
    intro j ctx hj
    exact List.mem_singleton.mp (List.mem_of_getElem? hj)
  refine ⟨?_, ?_, by rintro cb ⟨⟩, by rintro cb ⟨⟩⟩
  · rintro j ctx hj
    rw [hroot j ctx hj, hinterface]
  · rintro j ctx hj
    rw [hroot j ctx hj]
    exact hmeta

theorem scoped_step (hs : Scoped domain interface s) (hl : s.AnswersUnder l)
    (h : step s l = some s') : Scoped domain interface s' := by
  have hchange := step_change h
  have hmetaDomain : ∀ (j : Nat) (ctx : BrowseContext), s'.contexts[j]? = some ctx →
      ctx.isMeta = true → ∃ old, s.contexts[j]? = some old ∧ old.isMeta = true := by
    intro j ctx hj hmeta
    rcases change_context hchange hj with ⟨old, hold, hm, -⟩ | ⟨cb, hcb, request, hphase, hm, -⟩
    · exact ⟨old, hold, hm ▸ hmeta⟩
    · -- a child is no meta browse
      rw [hm, (hs.upgraded cb hcb request hphase).2.1] at hmeta
      cases hmeta
  refine ⟨?_, ?_, ?_, ?_⟩
  · intro j ctx hj
    rcases change_context hchange hj with ⟨old, hold, -, hi⟩ | ⟨cb, hcb, request, hphase, -, hi⟩
    · exact hi.trans (hs.interfaces j old hold)
    · exact hi.trans (hs.upgraded cb hcb request hphase).1
  · intro j ctx hj hmeta
    obtain ⟨old, hold, holdmeta⟩ := hmetaDomain j ctx hj hmeta
    exact hs.metaDomain j old hold holdmeta
  · intro cb' hcb' ctx hj hmeta nameHost hmem
    obtain ⟨old, hold, holdmeta⟩ := hmetaDomain _ ctx hj hmeta
    rcases change_callback hchange hcb' with ⟨status, rfl, -⟩ | ⟨cb, hcb, hgoes⟩
    · have hunder := hl _ status _ rfl old hold nameHost hmem
      rw [BrowseContext.queryDomain, if_pos holdmeta] at hunder
      rw [hs.metaDomain _ old hold holdmeta]
      exact hunder
    · exact hs.records cb hcb old (hgoes.ctx ▸ hold) holdmeta nameHost (hgoes.records hmem)
  · intro cb' hcb' request hphase
    rcases change_callback hchange hcb' with ⟨status, -, hwalking⟩ | ⟨cb, hcb, hgoes⟩
    · cases hwalking.symm.trans hphase
    · rcases hgoes.upgraded request hphase with hold | ⟨ctx, hctx, hasked⟩
      · exact hs.upgraded cb hcb request hold
      · obtain ⟨nameHost, hmem, hname⟩ := hasked.name
        refine ⟨hasked.interface.trans (hs.interfaces _ ctx hctx), hasked.child, ?_⟩
        rw [hname]
        exact hs.records cb hcb ctx hctx hasked.isMeta nameHost hmem

/-! ## What a step issues -/

theorem browseIssued_inScope {request : Request} (hunder : Under domain request.queryName)
    (hinterface : request.interface = interface) :
    ∀ r ∈ browseIssued request, InScope domain interface r := by
  intro r hr
  unfold browseIssued at hr
  split at hr
  · cases hr
  · obtain rfl := List.mem_singleton.mp hr
    exact ⟨hunder, hinterface⟩

theorem ptrIssued_inScope {ctx : BrowseContext} (hinterface : ctx.interface = interface)
    (target : String) : ∀ r ∈ ptrIssued ctx target, InScope domain interface r := by
  intro r hr
  unfold ptrIssued resolveIssued at hr
  split at hr
  · split at hr
    · cases hr
    · obtain rfl := List.mem_singleton.mp hr
      exact hinterface
  · cases hr

theorem issued_inScope (hs : Scoped domain interface s) (l : Label) :
    ∀ r ∈ s.issued l, InScope domain interface r := by
  intro r hr
  unfold issued at hr
  split at hr
  · split at hr
    · rename_i i nameHost rest hc
      cases hctx : s.contexts[i]? with
      | none =>
        rw [hctx] at hr
        cases hr
      | some ctx =>
        rw [hctx] at hr
        exact ptrIssued_inScope (hs.interfaces i ctx hctx) _ r hr
    · cases hr
  · split at hr
    · rename_i i records request hc
      obtain ⟨hinterface, -, hunder⟩ := hs.upgraded _ (List.mem_of_getElem? hc) request rfl
      exact browseIssued_inScope hunder hinterface r hr
    · cases hr
  · cases hr

end

end Backend

/-! ## The builder's scope -/

/-- The root browse and everything that comes of it keep to the scope, in every
run whose answers are under the domains of their queries. -/
def StaysInScope (serviceType domain : Option String) (interfaceIndex : Option NonZeroU32) :
    Prop :=
  let request := browseStart serviceType domain interfaceIndex
  let Kept := InScope (domain.getD defaultDomain) ((interfaceIndex.map (·.val)).getD 0)
  (∀ r ∈ browseIssued request, Kept r) ∧
  ∀ result root labels s, startBrowse request result = .ok root →
    run Backend.step (.start root) labels = some s →
    (∀ pre l u, pre ++ [l] <+: labels → run Backend.step (.start root) pre = some u →
      u.AnswersUnder l) →
    ∀ r ∈ outputs Backend.step Backend.issued (.start root) labels, Kept r

section
variable {serviceType domain : Option String} {interfaceIndex : Option NonZeroU32}

/-- The requested type is browsed in the requested domain, the meta query in `local`. -/
theorem browseStart_under
    (h : serviceType ≠ none ∨ domain.getD defaultDomain = defaultDomain) :
    Under (domain.getD defaultDomain)
      (browseStart serviceType domain interfaceIndex).queryName := by
  cases serviceType with
  | some type => exact ⟨type, rfl⟩
  | none =>
    rw [h.resolve_left (not_not_intro rfl)]
    exact ⟨"_services._dns-sd._udp", rfl⟩

theorem browseStart_interface : (browseStart serviceType domain interfaceIndex).interface =
    (interfaceIndex.map (·.val)).getD 0 := by
  cases serviceType <;> rfl

theorem browseStart_isMeta (h : (browseStart serviceType domain interfaceIndex).isMeta = true) :
    serviceType = none := by
  cases serviceType with
  | some type => cases h
  | none => rfl

theorem staysInScope_of (h : serviceType ≠ none ∨ domain.getD defaultDomain = defaultDomain) :
    StaysInScope serviceType domain interfaceIndex := by
  refine ⟨Backend.browseIssued_inScope (browseStart_under h) browseStart_interface, ?_⟩
  intro result root labels s hroot hrun hanswers r hr
  obtain ⟨pre, l, u, hpre, hu, hout⟩ := mem_outputs hrun hr
  have hscoped : Backend.Scoped (domain.getD defaultDomain)
      ((interfaceIndex.map (·.val)).getD 0) u := by
    refine run_guarded (P := fun _ t => Backend.Scoped _ _ t)
      (G := fun _ t l => t.AnswersUnder l) ?_ ?_ hu ?_
    · obtain ⟨-, -, rfl⟩ := startBrowse_eq_ok.mp hroot
      refine Backend.scoped_start browseStart_interface ?_
      intro hmeta
      exact h.resolve_left (not_not_intro (browseStart_isMeta hmeta))
    · intro _ t l t' ht hl hstep
      exact Backend.scoped_step ht hl hstep
    · rintro pre' l' post t rfl ht
      refine hanswers pre' l' t (List.IsPrefix.trans ?_ hpre) ht
      exact ⟨post ++ [l], by simp⟩
  exact Backend.issued_inScope hscoped l r hout

/-- The context of a browse for all types. -/
def metaContext (domain : String) (interface : UInt32) : BrowseContext where
  isMeta := true
  interface := interface
  serviceType := metaQueryType
  domain := domain

/-- One answer to the meta query, `a.local`. -/
def oneAnswer : List Backend.Label :=
  [.enter 0 0 [.ptr "a.local"], .handleRecord 0, .startBrowse 0 dnsRequestPending]

theorem oneAnswer_issued (domain : String) (interface : UInt32) :
    (∃ s, run Backend.step (.start (metaContext domain interface)) oneAnswer = some s) ∧
    outputs Backend.step Backend.issued (.start (metaContext domain interface)) oneAnswer =
      [.browse "a.local" interface] := by
  have htrim : trimDot "a.local" = "a.local" := by decide +kernel
  have hsplit : rsplitOnce "a.local" '.' = some ("a", "local") := by decide +kernel
  constructor
  · simp [oneAnswer, Backend.step, Backend.start, Backend.handleRecord, Backend.isCancelled,
      metaContext, handlePtr, htrim, hsplit, Backend.put, Backend.strong, Phase.holds, startBrowse]
  · simp [oneAnswer, outputs, Backend.issued, Backend.step, Backend.start, Backend.handleRecord,
      Backend.isCancelled, metaContext, handlePtr, htrim, hsplit, Backend.put, Backend.strong,
      Phase.holds, startBrowse, ptrIssued, browseIssued]

/-- The answers of `oneAnswer` are under `local`. -/
theorem oneAnswer_under (domain : String) (interface : UInt32) (pre : List Backend.Label)
    (l : Backend.Label) (u : Backend) (hpre : pre ++ [l] <+: oneAnswer)
    (hu : run Backend.step (.start (metaContext domain interface)) pre = some u) :
    u.AnswersUnder l := by
  have hlabels : ∀ pre l, pre ++ [l] <+: oneAnswer → pre = [] ∨ ∀ i status records,
      l ≠ .enter i status records := by
    refine forall_prefix_snoc_cons (.inl rfl) ?_
    refine forall_prefix_snoc_cons (.inr (by simp)) ?_
    exact forall_prefix_snoc_cons (.inr (by simp)) forall_prefix_snoc_nil
  intro i status records hl ctx hctx nameHost hmem
  rcases hlabels pre l hpre with rfl | hne
  · cases hu
    obtain ⟨post, hpost⟩ := hpre
    obtain ⟨rfl, -⟩ := List.cons.inj hpost
    obtain ⟨-, -, rfl⟩ := Backend.Label.enter.inj hl
    obtain rfl := List.mem_singleton.mp (List.mem_of_getElem? hctx)
    obtain rfl := Record.ptr.inj (List.mem_singleton.mp hmem)
    exact ⟨"a", rfl⟩
  · exact absurd hl (hne i status records)

/-- `a.local` is in no other domain than `local`. -/
theorem under_oneAnswer {domain : String} (h : Under domain "a.local") : domain = "local" := by
  obtain ⟨x, hx⟩ := h
  have hlist : ['a'] ++ '.' :: "local".toList = x.toList ++ '.' :: domain.toList := by
    simpa using congrArg String.toList hx
  have hparts := (List.append_cons_inj_of_notMem (by decide) (by decide +kernel)).mp hlist
  exact (String.toList_inj.mp hparts.2.2).symm

end

/-- **The scope is kept for a requested type, and for all types in `local`, and
for no other domain.** -/
theorem staysInScope_iff (serviceType domain : Option String)
    (interfaceIndex : Option NonZeroU32) :
    StaysInScope serviceType domain interfaceIndex ↔
      serviceType ≠ none ∨ domain.getD defaultDomain = defaultDomain := by
  refine ⟨?_, staysInScope_of⟩
  intro h
  cases serviceType with
  | some type => exact .inl (by simp)
  | none =>
    right
    let interface := (interfaceIndex.map (·.val)).getD 0
    have hroot : startBrowse (browseStart none domain interfaceIndex) dnsRequestPending =
        .ok (metaContext (domain.getD defaultDomain) interface) :=
      startBrowse_eq_ok.mpr ⟨(by decide +kernel : '\x00' ∉ metaQueryType.toList), rfl, rfl⟩
    obtain ⟨⟨s, hrun⟩, hissued⟩ := oneAnswer_issued (domain.getD defaultDomain) interface
    have hscope := h.2 _ _ _ s hroot hrun (oneAnswer_under _ _) (.browse "a.local" interface)
      (by rw [hissued]; exact List.mem_singleton_self _)
    exact under_oneAnswer hscope.1

/-- All types in `example.com` are asked for in `local`. -/
theorem metaQuery_not_inScope :
    browseIssued (browseStart none (some "example.com") none) =
      [.browse "_services._dns-sd._udp.local" 0] ∧
    ¬ StaysInScope none (some "example.com") none := by
  have hissued : browseIssued (browseStart none (some "example.com") none) =
      [.browse "_services._dns-sd._udp.local" 0] := by decide +kernel
  refine ⟨hissued, ?_⟩
  rintro ⟨hroot, -⟩
  obtain ⟨⟨x, hx⟩, -⟩ := hroot (.browse "_services._dns-sd._udp.local" 0) (by simp [hissued])
  -- the one ends in `l`, the other in `m`
  have hend : "_services._dns-sd._udp.local".toList.getLast? = "example.com".toList.getLast? := by
    rw [hx]
    simp [List.getLast?_append]
  revert hend
  decide +kernel

end MdnsSdDiscovery.Windows
