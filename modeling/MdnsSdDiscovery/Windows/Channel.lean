import Mathlib.Data.List.Forall2
import MdnsSdDiscovery.Lib.Receivers
import MdnsSdDiscovery.Lib.Shuffle
import MdnsSdDiscovery.Windows.Cascade
import MdnsSdDiscovery.Windows.Instances
import MdnsSdDiscovery.Windows.Lifecycle

/-!
# The channel of a browse on Windows

The browse with everything it starts: the callbacks and the drops of the registry,
and the resolves that its instance browses have started, which nobody cancels.

* `channel_resolves`: each name that an instance browse has seen was resolved once,
  each box is with the OS or was taken back, and the channel holds the statuses of
  the callbacks and one end of each box that was taken back;
* `channel_recv`: what `ServiceBrowser::recv` returns.
-/

namespace MdnsSdDiscovery.Windows

open Runs Slots Shuffles

/-! ## What a step makes of the contexts and the resolves -/

/-- The context without what becomes of it. -/
def BrowseContext.core (ctx : BrowseContext) : BrowseContext :=
  { ctx with cancelled := false, freed := false }

namespace Backend

def core (s : Backend) (i : Nat) : Option BrowseContext := (s.contexts[i]?).map BrowseContext.core

/-- The names that were resolved, with the contexts for which they were. -/
def keys (s : Backend) : List (Nat × String) := s.resolves.map fun r => (r.ctx, r.fullName)

/-- The box that a resolve makes, unless its name contains a NUL. -/
def boxFor (s : Backend) (r : Resolve) : Option ResolveContext :=
  if '\x00' ∈ r.fullName.toList then none
  else (s.core r.ctx).map fun ctx =>
    ⟨instanceLabel r.fullName ctx.serviceType ctx.domain, ctx.serviceType, ctx.domain, r.fullName⟩

/-- The name is new to the context. -/
def sees (s : Backend) (i : Nat) (ctx : BrowseContext) (target : String) :
    Nat → Option BrowseContext :=
  Function.update s.core i (some { ctx with seen := insert target ctx.seen })

/-- How a step leaves the contexts and the resolves. -/
inductive Handling (s s' : Backend) : Prop where
  | same (hcore : s'.core = s.core) (hresolves : s'.resolves = s.resolves)
  | remember (i : Nat) (ctx : BrowseContext) (target : String) (hctx : s.core i = some ctx)
      (hmeta : ctx.isMeta = true) (hcore : s'.core = s.sees i ctx target)
      (hresolves : s'.resolves = s.resolves)
  | resolve (i : Nat) (ctx : BrowseContext) (target : String) (hctx : s.core i = some ctx)
      (hinstance : ctx.isMeta = false) (hunseen : target ∉ ctx.seen)
      (hcore : s'.core = s.sees i ctx target)
      (hresolves : s'.resolves = s.resolves ++
        [⟨i, target, instanceLabel target ctx.serviceType ctx.domain⟩])
      (hsent : s'.sent = s.sent)
  | new (i : Nat) (ctx : BrowseContext) (hfresh : ctx.seen = ∅) (hctx : s.core i = none)
      (hcore : s'.core = Function.update s.core i (some ctx))
      (hresolves : s'.resolves = s.resolves)

section
variable {s s' : Backend} {l : Label} {c i : Nat}

theorem core_eq {ctx : BrowseContext} (hctx : s.contexts[i]? = some ctx) :
    s.core i = some ctx.core := by
  rw [core, hctx]
  rfl

theorem core_remember {ctx : BrowseContext} (hctx : s.contexts[i]? = some ctx)
    (nameHost : String) :
    (s.remember i ctx nameHost).core = s.sees i ctx.core (trimDot nameHost) := by
  have hlt := (List.getElem?_eq_some_iff.mp hctx).1
  funext j
  unfold core remember sees
  dsimp only
  by_cases hij : i = j
  · subst hij
    rw [List.getElem?_set_self hlt, Function.update_self]
    rfl
  · rw [List.getElem?_set_ne hij, Function.update_of_ne (Ne.symm hij)]
    rfl

theorem core_modify (e : Nat) {f : BrowseContext → BrowseContext}
    (hf : ∀ ctx, (f ctx).core = ctx.core) :
    ({ s with contexts := s.contexts.modify e f } : Backend).core = s.core := by
  funext j
  simp only [core, List.getElem?_modify]
  cases s.contexts[j]? with
  | none => rfl
  | some ctx => by_cases he : e = j <;> simp [he, hf]

theorem core_new {request : Request} {result : Int32} {ctx : BrowseContext}
    (hstart : Windows.startBrowse request result = .ok ctx) :
    ctx.seen = ∅ ∧ s.core s.contexts.length = none ∧
      ({ s with contexts := s.contexts ++ [ctx] } : Backend).core =
        Function.update s.core s.contexts.length (some ctx) := by
  obtain ⟨-, -, rfl⟩ := startBrowse_eq_ok.mp hstart
  refine ⟨rfl, by rw [core, List.getElem?_eq_none le_rfl]; rfl, ?_⟩
  funext j
  unfold core
  dsimp only
  rcases Nat.lt_trichotomy j s.contexts.length with hj | rfl | hj
  · rw [List.getElem?_append_left hj, Function.update_of_ne hj.ne]
  · rw [List.getElem?_concat_length, Function.update_self]
    rfl
  · rw [List.getElem?_eq_none (by simp; omega), Function.update_of_ne hj.ne',
      List.getElem?_eq_none hj.le]

/-- A `start_resolve`, with what `handle_ptr` passes to it. -/
theorem step_resolve {nameHost : String} {rest : List Record} {ctx : BrowseContext}
    (hc : s.callbacks[c]? = some ⟨i, .ptr nameHost :: rest, .walking⟩)
    (hctx : s.contexts[i]? = some ctx) (hinstance : ctx.isMeta = false)
    (h : step s (.handleRecord c) = some s') (hresolves : s'.resolves ≠ s.resolves) :
    trimDot nameHost ∉ ctx.seen ∧ s'.resolves = s.resolves ++
      [⟨i, trimDot nameHost, instanceLabel (trimDot nameHost) ctx.serviceType ctx.domain⟩] := by
  simp only [step, hc, handleRecord, hctx, Option.map_some, Option.some.injEq] at h
  rcases handlePtr_cases ctx (trimDot nameHost) with ⟨-, heq⟩ | ⟨-, hmeta, -⟩ | ⟨hunseen, -, heq⟩
  · rw [heq] at h
    exact absurd (congrArg Backend.resolves h).symm hresolves
  · cases hinstance.symm.trans hmeta
  · rw [heq] at h
    exact ⟨hunseen, (congrArg Backend.resolves h).symm⟩

/-- The label that is passed to `start_resolve` is that of the name in its context. -/
theorem boxFor_eq {r : Resolve} {ctx : BrowseContext} (hctx : s.contexts[r.ctx]? = some ctx)
    (hlabel : r.label = instanceLabel r.fullName ctx.serviceType ctx.domain) :
    (s.contexts[r.ctx]?).bind (startResolve · r.fullName r.label) = s.boxFor r := by
  rw [hctx, Option.bind_some, boxFor, core_eq hctx, startResolve, hlabel]
  rfl

theorem step_handling (h : step s l = some s') : Handling s s' := by
  cases step_change h with
  | enter | other | handled | refuse | push | lastArc | release | leave | pushRoot | lastGuard
  | dropGuard | dropped => exact .same rfl rfl
  | orphan c i nameHost rest ctx hc hctx hmeta hstrong =>
    exact .remember i ctx.core _ (core_eq hctx) hmeta (core_remember hctx nameHost) rfl
  | upgrade c i nameHost rest ctx request hc hctx hmeta hseen hstrong hname hinterface hchild =>
    exact .remember i ctx.core _ (core_eq hctx) hmeta (core_remember hctx nameHost) rfl
  | resolve c i nameHost rest ctx label hc hctx hinstance =>
    obtain ⟨hunseen, hresolves⟩ := step_resolve hc hctx hinstance h (by simp [put])
    exact .resolve i ctx.core _ (core_eq hctx) hinstance hunseen (core_remember hctx nameHost)
      hresolves rfl
  | start c i records request ctx result hc hstart =>
    obtain ⟨hfresh, hnone, hcore⟩ := core_new (s := s) hstart
    exact .new _ ctx hfresh hnone hcore rfl
  | cancel e | cancelInside c i records e | free e | freeInside c i records e =>
    exact .same (core_modify e fun _ => rfl) rfl

/-- Every name that an instance browse has seen was resolved once, under its label. -/
structure Resolved (s : Backend) : Prop where
  once : s.keys.Nodup
  seen : ∀ i ctx, s.core i = some ctx → ctx.isMeta = false →
    ∀ t, t ∈ ctx.seen ↔ (i, t) ∈ s.keys
  known : ∀ r ∈ s.resolves, ∃ ctx, s.core r.ctx = some ctx ∧ ctx.isMeta = false ∧
    r.label = instanceLabel r.fullName ctx.serviceType ctx.domain

theorem resolved_start {root : BrowseContext} (hfresh : root.seen = ∅) :
    Resolved (start root) where
  once := List.nodup_nil
  seen := by
    intro i ctx hctx _ t
    cases i with
    | zero =>
      cases hctx
      simp [BrowseContext.core, hfresh, keys, start]
    | succ i => cases hctx
  known := by rintro r ⟨⟩

/-- A context whose `seen` has grown is still there. -/
theorem core_sees {ctx : BrowseContext} (target : String) (hctx : s.core i = some ctx) {j : Nat}
    {other : BrowseContext} (hother : s.core j = some other) :
    ∃ seen, s.sees i ctx target j = some { other with seen } := by
  unfold sees
  by_cases hij : j = i
  · subst hij
    obtain rfl := Option.some.inj (hctx.symm.trans hother)
    exact ⟨_, Function.update_self ..⟩
  · exact ⟨other.seen, by rw [Function.update_of_ne hij, hother]⟩

theorem core_kept (h : Handling s s') {ctx : BrowseContext} (hctx : s.core i = some ctx) :
    ∃ seen, s'.core i = some { ctx with seen } := by
  cases h with
  | same hcore => exact ⟨ctx.seen, by rw [hcore, hctx]⟩
  | remember j other target hother hmeta hcore => exact hcore ▸ core_sees target hother hctx
  | resolve j other target hother hinstance hunseen hcore =>
    exact hcore ▸ core_sees target hother hctx
  | new j other hfresh hnone hcore =>
    have hne : i ≠ j := by
      rintro rfl
      cases hnone.symm.trans hctx
    exact ⟨ctx.seen, by rw [hcore, Function.update_of_ne hne, hctx]⟩

theorem known_sees (hs : Resolved s) {ctx : BrowseContext} {target : String}
    (hctx : s.core i = some ctx) (hcore : s'.core = s.sees i ctx target) :
    ∀ r ∈ s.resolves, ∃ ctx, s'.core r.ctx = some ctx ∧ ctx.isMeta = false ∧
      r.label = instanceLabel r.fullName ctx.serviceType ctx.domain := by
  intro r hr
  obtain ⟨other, hother, hinstance, hlabel⟩ := hs.known r hr
  obtain ⟨seen, hsees⟩ := core_sees target hctx hother
  exact ⟨{ other with seen }, by rw [hcore, hsees], hinstance, hlabel⟩

theorem resolved_step (hs : Resolved s) (h : Handling s s') : Resolved s' := by
  cases h with
  | same hcore hresolves =>
    have hkeys : s'.keys = s.keys := by rw [keys, keys, hresolves]
    exact ⟨hkeys ▸ hs.once, hcore ▸ hkeys ▸ hs.seen, hresolves ▸ hcore ▸ hs.known⟩
  | remember i ctx target hctx hmeta hcore hresolves =>
    have hkeys : s'.keys = s.keys := by rw [keys, keys, hresolves]
    refine ⟨hkeys ▸ hs.once, ?_, hresolves ▸ known_sees hs hctx hcore⟩
    intro j other hother hinstance t
    rw [hcore, sees] at hother
    by_cases hj : j = i
    · subst hj
      rw [Function.update_self] at hother
      cases hother
      cases hinstance.symm.trans hmeta
    · rw [Function.update_of_ne hj] at hother
      rw [hkeys]
      exact hs.seen j other hother hinstance t
  | resolve i ctx target hctx hinstance hunseen hcore hresolves hsent =>
    have hkeys : s'.keys = s.keys ++ [(i, target)] := by
      rw [keys, hresolves, List.map_append]
      rfl
    refine ⟨?_, ?_, ?_⟩
    · rw [hkeys, ← List.concat_eq_append, List.nodup_concat]
      exact ⟨fun hmem => hunseen ((hs.seen i ctx hctx hinstance target).mpr hmem), hs.once⟩
    · intro j other hother hkind t
      rw [hkeys, List.mem_append, List.mem_singleton]
      rw [hcore, sees] at hother
      by_cases hj : j = i
      · subst hj
        rw [Function.update_self] at hother
        cases hother
        rw [Finset.mem_insert, ← hs.seen j ctx hctx hinstance, Prod.mk.injEq, or_comm]
        simp
      · rw [Function.update_of_ne hj] at hother
        rw [hs.seen j other hother hkind t, Prod.mk.injEq]
        simp [hj]
    · intro r hr
      rw [hresolves] at hr
      rcases List.mem_append.mp hr with hold | hnew
      · exact known_sees hs hctx hcore r hold
      · obtain rfl := List.mem_singleton.mp hnew
        exact ⟨{ ctx with seen := insert target ctx.seen },
          by rw [hcore, sees, Function.update_self], hinstance, rfl⟩
  | new i ctx hfresh hnone hcore hresolves =>
    have hkeys : s'.keys = s.keys := by rw [keys, keys, hresolves]
    refine ⟨hkeys ▸ hs.once, ?_, ?_⟩
    · intro j other hother hinstance t
      rw [hcore] at hother
      rw [hkeys]
      by_cases hj : j = i
      · subst hj
        rw [Function.update_self] at hother
        cases hother
        rw [hfresh]
        refine iff_of_false (Finset.notMem_empty t) ?_
        intro hmem
        obtain ⟨r, hr, hkey⟩ := List.mem_map.mp hmem
        cases hkey
        obtain ⟨known, hknown, -⟩ := hs.known r hr
        cases hnone.symm.trans hknown
      · rw [Function.update_of_ne hj] at hother
        exact hs.seen j other hother hinstance t
    · intro r hr
      rw [hresolves] at hr
      obtain ⟨known, hknown, hinstance, hlabel⟩ := hs.known r hr
      have hne : r.ctx ≠ i := by
        rintro rfl
        cases hnone.symm.trans hknown
      exact ⟨known, by rw [hcore, Function.update_of_ne hne, hknown], hinstance, hlabel⟩

/-! ## Once every context was freed -/

/-- Every context was freed. -/
def AllFreed (s : Backend) : Prop := ∀ ctx ∈ s.contexts, ctx.freed = true

theorem AllFreed.isFreed (hs : AllFreed s) (hi : i < s.contexts.length) : s.isFreed i = true := by
  rw [Backend.isFreed, List.getElem?_eq_getElem hi]
  exact hs _ (List.getElem_mem hi)

/-- Then nobody holds an `Arc`. -/
theorem AllFreed.strong_eq_zero (hs : AllFreed s) (hintact : Intact s) : s.strong = 0 := by
  by_contra hstrong
  have hunfreed := (hintact.base.undropped (Nat.pos_of_ne_zero hstrong)).2.2 0
  cases hunfreed.symm.trans (hs.isFreed hintact.anchored.root)

theorem AllFreed.modify (hs : AllFreed s) (e : Nat) {f : BrowseContext → BrowseContext}
    (hf : ∀ ctx, ctx.freed = true → (f ctx).freed = true) :
    AllFreed { s with contexts := s.contexts.modify e f } := by
  intro ctx hctx
  obtain ⟨j, hj⟩ := List.mem_iff_getElem?.mp hctx
  rw [List.getElem?_modify] at hj
  obtain ⟨old, hold, rfl⟩ := Option.map_eq_some_iff.mp hj
  have hfreed := hs old (List.mem_of_getElem? hold)
  split
  · exact hf old hfreed
  · exact hfreed

theorem AllFreed.remember (hs : AllFreed s) {ctx : BrowseContext}
    (hctx : s.contexts[i]? = some ctx) (nameHost : String) :
    AllFreed (s.remember i ctx nameHost) := by
  intro other hother
  rcases List.mem_or_eq_of_mem_set hother with hold | rfl
  · exact hs other hold
  · exact hs ctx (List.mem_of_getElem? hctx)

/-- **Then nothing is sent or resolved any more.** -/
theorem AllFreed.step (hs : AllFreed s) (hintact : Intact s) (h : step s l = some s') :
    AllFreed s' ∧ s'.resolves = s.resolves ∧ s'.sent = s.sent := by
  have hnone := hs.strong_eq_zero hintact
  have hholds : ∀ {c : Nat} {cb : Callback}, s.callbacks[c]? = some cb →
      cb.phase.holds = false := by
    intro c cb hc
    by_contra hholds
    exact (strong_eq_zero_iff.mp hnone).2 ⟨cb, List.mem_of_getElem? hc, by simpa using hholds⟩
  cases step_change h with
  | enter i status records hlive hi =>
    cases hlive.symm.trans (base_isFreed hintact.base (hs.isFreed hi))
  | other | handled | leave | pushRoot | dropped => exact ⟨hs, rfl, rfl⟩
  | orphan c i nameHost rest ctx hc hctx => exact ⟨hs.remember hctx nameHost, rfl, rfl⟩
  | upgrade c i nameHost rest ctx request hc hctx hmeta hseen hstrong =>
    exact absurd hnone hstrong.ne'
  | resolve c i nameHost rest ctx label hc hctx hinstance =>
    -- no callback of an instance browse runs on a freed context
    have hcb := List.mem_of_getElem? hc
    have hfreed := hs.isFreed (hintact.anchored.known _ hcb)
    obtain ⟨f, hf, hmeta⟩ := hintact.sheltered _ hcb rfl hfreed
    rw [flags, hctx] at hf
    cases hf
    cases hinstance.symm.trans hmeta
  | start c i records request ctx result hc => cases hholds hc
  | refuse c i records request err result hc => cases hholds hc
  | push c i records child hc => cases hholds hc
  | lastArc c i records hc => cases hholds hc
  | release c i records hc => cases hholds hc
  | lastGuard hguard | dropGuard hguard => exact absurd hnone (strong_pos_iff.mpr (.inl hguard)).ne'
  | cancel e | cancelInside c i records e => exact ⟨hs.modify e fun _ h => h, rfl, rfl⟩
  | free e | freeInside c i records e => exact ⟨hs.modify e fun _ _ => rfl, rfl, rfl⟩

end

end Backend

/-! ## The browse -/

/-- The registry with its callbacks, and the resolves that these have started. -/
structure Browse where
  backend : Backend
  /-- The `ResolveContext`s in the order in which they were boxed. -/
  boxes : List ResolveContext := []
  /-- The boxes whose completion callback is still to come. -/
  inflight : List Nat := []
  /-- The boxes that were taken back by `Box::from_raw`. -/
  reclaimed : List Nat := []
  sent : List Event := []

namespace Browse

/-- The browse once its root was started. -/
def start (root : BrowseContext) : Browse := { backend := .start root }

inductive Label where
  /-- A step of the registry; `result` is what `DnsServiceResolve` returns if it is
  called. -/
  | act (l : Backend.Label) (result : Int32)
  /-- `resolve_callback` -/
  | complete (k : Nat) (status : UInt32) (inst : Option DnsServiceInstance)

/-- The step of the registry that a label is. -/
def Label.act? : Label → Option Backend.Label
  | .act l _ => some l
  | .complete .. => none

/-- `start_resolve` -/
def resolve (s : Browse) (r : Resolve) (result : Int32) : Browse :=
  match (s.backend.contexts[r.ctx]?).bind (startResolve · r.fullName r.label) with
  | none => s
  | some rc =>
    if result = dnsRequestPending then
      { s with
        boxes := s.boxes ++ [rc]
        inflight := s.inflight ++ [s.boxes.length] }
    else
      { s with
        boxes := s.boxes ++ [rc]
        reclaimed := s.reclaimed ++ [s.boxes.length]
        sent := s.sent ++ [resolveRefused rc result] }

/-- The registry goes on to `backend`: what it has reported is sent, and what it has
started is resolved. -/
def act (s : Browse) (backend : Backend) (result : Int32) : Browse :=
  (backend.resolves.drop s.backend.resolves.length).foldl (·.resolve · result)
    { s with backend, sent := s.sent ++ backend.sent.drop s.backend.sent.length }

def step (s : Browse) : Label → Option Browse
  | .act l result => (s.backend.step l).map (s.act · result)
  | .complete k status inst =>
    if k ∈ s.inflight then
      (s.boxes[k]?).map fun rc => { s with
        inflight := s.inflight.erase k
        reclaimed := s.reclaimed ++ [k]
        sent := s.sent ++ [resolveCallback rc status inst] }
    else none

/-- A step of the browse, spelled out. -/
inductive Change (s : Browse) : Label → Browse → Prop where
  | quiet (l : Backend.Label) (result : Int32) (backend : Backend) (reported : List Event)
      (h : s.backend.step l = some backend) (hresolves : backend.resolves = s.backend.resolves)
      (hsent : backend.sent = s.backend.sent ++ reported) :
      Change s (.act l result) { s with backend, sent := s.sent ++ reported }
  | refuse (l : Backend.Label) (result : Int32) (backend : Backend) (r : Resolve)
      (h : s.backend.step l = some backend)
      (hresolves : backend.resolves = s.backend.resolves ++ [r])
      (hsent : backend.sent = s.backend.sent)
      (hbox : backend.boxFor r = none) :
      Change s (.act l result) { s with backend }
  | pend (l : Backend.Label) (backend : Backend) (r : Resolve) (rc : ResolveContext)
      (h : s.backend.step l = some backend)
      (hresolves : backend.resolves = s.backend.resolves ++ [r])
      (hsent : backend.sent = s.backend.sent)
      (hbox : backend.boxFor r = some rc) :
      Change s (.act l dnsRequestPending) { s with
        backend
        boxes := s.boxes ++ [rc]
        inflight := s.inflight ++ [s.boxes.length] }
  | fail (l : Backend.Label) (result : Int32) (backend : Backend) (r : Resolve)
      (rc : ResolveContext) (h : s.backend.step l = some backend)
      (hresolves : backend.resolves = s.backend.resolves ++ [r])
      (hsent : backend.sent = s.backend.sent)
      (hbox : backend.boxFor r = some rc) :
      Change s (.act l result) { s with
        backend
        boxes := s.boxes ++ [rc]
        reclaimed := s.reclaimed ++ [s.boxes.length]
        sent := s.sent ++ [resolveRefused rc result] }
  | complete (k : Nat) (status : UInt32) (inst : Option DnsServiceInstance) (rc : ResolveContext)
      (hk : k ∈ s.inflight) (hrc : s.boxes[k]? = some rc) :
      Change s (.complete k status inst) { s with
        inflight := s.inflight.erase k
        reclaimed := s.reclaimed ++ [k]
        sent := s.sent ++ [resolveCallback rc status inst] }

section
variable {s s' : Browse} {l : Label}

theorem quiet_act {l : Backend.Label} {backend : Backend} (result : Int32)
    (h : s.backend.step l = some backend) (hresolves : backend.resolves = s.backend.resolves) :
    ∃ t, step s (.act l result) = some t ∧ Change s (.act l result) t := by
  have hsent := Backend.change_sent (Backend.step_change h)
  refine ⟨s.act backend result, by rw [step, h]; rfl, ?_⟩
  rw [act, hresolves, List.drop_length, hsent, List.drop_left]
  exact .quiet l result backend _ h hresolves hsent

theorem resolve_act {l : Backend.Label} {backend : Backend} {r : Resolve} (result : Int32)
    (h : s.backend.step l = some backend)
    (hresolves : backend.resolves = s.backend.resolves ++ [r])
    (hsent : backend.sent = s.backend.sent)
    (hbox : (backend.contexts[r.ctx]?).bind (startResolve · r.fullName r.label) =
      backend.boxFor r) :
    ∃ t, step s (.act l result) = some t ∧ Change s (.act l result) t := by
  refine ⟨s.act backend result, by rw [step, h]; rfl, ?_⟩
  rw [act, hresolves, List.drop_left, hsent, List.drop_length, List.append_nil, List.foldl_cons,
    List.foldl_nil, resolve, hbox]
  cases hfor : backend.boxFor r with
  | none => exact .refuse l result backend r h hresolves hsent hfor
  | some rc =>
    by_cases hresult : result = dnsRequestPending
    · subst hresult
      exact .pend l backend r rc h hresolves hsent hfor
    · dsimp only
      rw [if_neg hresult]
      exact .fail l result backend r rc h hresolves hsent hfor

/-- **Every step is one of the changes.** -/
theorem step_change (h : step s l = some s') : Change s l s' := by
  cases l with
  | act l result =>
    obtain ⟨backend, hstep, -⟩ := Option.map_eq_some_iff.mp h
    have hchange : ∃ t, step s (.act l result) = some t ∧ Change s (.act l result) t := by
      cases hhandling : Backend.step_handling hstep with
      | same hcore hresolves => exact quiet_act result hstep hresolves
      | remember i ctx target hctx hmeta hcore hresolves => exact quiet_act result hstep hresolves
      | new i ctx hfresh hnone hcore hresolves => exact quiet_act result hstep hresolves
      | resolve i ctx target hctx hinstance hunseen hcore hresolves hsent =>
        have hnew : backend.core i = some { ctx with seen := insert target ctx.seen } := by
          rw [hcore, Backend.sees, Function.update_self]
        obtain ⟨known, hknown, heq⟩ := Option.map_eq_some_iff.mp hnew
        refine resolve_act result hstep hresolves hsent (Backend.boxFor_eq hknown ?_)
        have hfields : known.core.serviceType = ctx.serviceType ∧
            known.core.domain = ctx.domain := by rw [heq]; exact ⟨rfl, rfl⟩
        exact (congrArg₂ (instanceLabel target) hfields.1 hfields.2).symm
    obtain ⟨t, ht, hchange⟩ := hchange
    cases ht.symm.trans h
    exact hchange
  | complete k status inst =>
    by_cases hk : k ∈ s.inflight
    · have h' := (if_pos hk).symm.trans h
      obtain ⟨rc, hrc, rfl⟩ := Option.map_eq_some_iff.mp h'
      exact .complete k status inst rc hk hrc
    · cases (if_neg hk).symm.trans h

/-! ## Every run -/

/-- Where the boxes and the events of a browse come from. -/
structure Books (s : Browse) : Prop where
  intact : s.backend.Intact
  resolved : s.backend.Resolved
  boxes : s.boxes = s.backend.resolves.filterMap s.backend.boxFor
  owned : (s.inflight ++ s.reclaimed).Perm (List.range s.boxes.length)
  ended : ∃ outcomes, List.Forall₂ (Instances.Ends s.boxes) s.reclaimed outcomes ∧
    Shuffle s.backend.sent outcomes s.sent

theorem books_start {request : Request} {result : Int32} {root : BrowseContext}
    (hroot : startBrowse request result = .ok root) : Books (start root) where
  intact := Backend.intact_start hroot
  resolved := by
    obtain ⟨-, -, rfl⟩ := startBrowse_eq_ok.mp hroot
    exact Backend.resolved_start rfl
  boxes := rfl
  owned := .nil
  ended := ⟨[], .nil, .nil⟩

/-- The boxes of the resolves so far do not change. -/
theorem boxes_kept (hs : Books s) {l : Backend.Label} {backend : Backend}
    (h : s.backend.step l = some backend) :
    s.boxes = s.backend.resolves.filterMap backend.boxFor := by
  rw [hs.boxes]
  refine List.filterMap_congr fun r hr => ?_
  obtain ⟨ctx, hctx, -⟩ := hs.resolved.known r hr
  obtain ⟨seen, hkept⟩ := Backend.core_kept (Backend.step_handling h) hctx
  rw [Backend.boxFor, Backend.boxFor, hctx, hkept]
  rfl

theorem books_step (hs : Books s) (h : step s l = some s') : Books s' := by
  have hbackend : ∀ {l : Backend.Label} {backend : Backend}, s.backend.step l = some backend →
      backend.Intact ∧ backend.Resolved := fun hstep =>
    ⟨Backend.intact_step hs.intact hstep,
      Backend.resolved_step hs.resolved (Backend.step_handling hstep)⟩
  obtain ⟨outcomes, hends, hsent⟩ := hs.ended
  cases step_change h with
  | quiet l result backend reported hstep hresolves hreported =>
    obtain ⟨hintact, hresolved⟩ := hbackend hstep
    refine ⟨hintact, hresolved, ?_, hs.owned, outcomes, hends, ?_⟩
    · exact hresolves ▸ boxes_kept hs hstep
    · exact hreported ▸ hsent.append_left reported
  | refuse l result backend r hstep hresolves hreported hbox =>
    obtain ⟨hintact, hresolved⟩ := hbackend hstep
    refine ⟨hintact, hresolved, ?_, hs.owned, outcomes, hends, hreported ▸ hsent⟩
    dsimp only
    rw [hresolves, filterMap_snoc_none hbox]
    exact boxes_kept hs hstep
  | pend l backend r rc hstep hresolves hreported hbox =>
    obtain ⟨hintact, hresolved⟩ := hbackend hstep
    refine ⟨hintact, hresolved, ?_, ?_, outcomes, ?_, hreported ▸ hsent⟩
    · have hkept := boxes_kept hs hstep
      dsimp only
      rw [hresolves, filterMap_snoc_some hbox]
      exact congrArg (· ++ [rc]) hkept
    · dsimp only
      rw [List.length_append, List.length_singleton, List.range_succ, List.append_assoc]
      have hmoved : (s.inflight ++ (s.boxes.length :: s.reclaimed)).Perm
          (s.boxes.length :: (s.inflight ++ s.reclaimed)) := List.perm_middle
      exact hmoved.trans ((hs.owned.cons _).trans (List.perm_append_singleton _ _).symm)
    · exact hends.imp fun k e he => Instances.ends_append he rc
  | fail l result backend r rc hstep hresolves hreported hbox =>
    obtain ⟨hintact, hresolved⟩ := hbackend hstep
    have hend : Instances.Ends (s.boxes ++ [rc]) s.boxes.length (resolveRefused rc result) :=
      ⟨rc, List.getElem?_concat_length, resolveRefused_outcome rc result⟩
    refine ⟨hintact, hresolved, ?_, ?_, outcomes ++ [resolveRefused rc result], ?_, ?_⟩
    · have hkept := boxes_kept hs hstep
      dsimp only
      rw [hresolves, filterMap_snoc_some hbox]
      exact congrArg (· ++ [rc]) hkept
    · dsimp only
      rw [List.length_append, List.length_singleton, List.range_succ, ← List.append_assoc]
      exact hs.owned.append_right _
    · exact Instances.forall₂_snoc (hends.imp fun k e he => Instances.ends_append he rc) hend
    · exact hreported ▸ hsent.append_right _
  | complete k status inst rc hk hrc =>
    have hend : Instances.Ends s.boxes k (resolveCallback rc status inst) :=
      ⟨rc, hrc, resolveCallback_outcome rc status inst⟩
    refine ⟨hs.intact, hs.resolved, hs.boxes, ?_, outcomes ++ [resolveCallback rc status inst],
      Instances.forall₂_snoc hends hend, hsent.append_right _⟩
    dsimp only
    rw [← List.append_assoc]
    have hmoved := ((List.perm_cons_erase hk).append_right s.reclaimed).symm
    exact (List.perm_append_singleton k _).trans (hmoved.trans hs.owned)

/-- The registry makes a run of its own. -/
theorem run_act {labels : List Label} (h : run step s labels = some s') :
    run Backend.step s.backend (labels.filterMap Label.act?) = some s'.backend := by
  induction labels generalizing s with
  | nil =>
    cases h
    rfl
  | cons l labels ih =>
    obtain ⟨t, ht, hrest⟩ := Option.bind_eq_some_iff.mp h
    have htail := ih hrest
    cases step_change ht with
    | quiet l result backend reported hstep | refuse l result backend r hstep
    | pend l backend r rc hstep | fail l result backend r rc hstep =>
      rw [List.filterMap_cons, Label.act?, run_cons, hstep]
      exact htail
    | complete => exact htail

/-! ## The end of the channel -/

/-- The browse as the senders of the channel: a context holds `tx` until it is freed,
and a box until it is taken back. -/
def senders : Receivers.Senders Browse Label Event where
  step := step
  sent := sent
  closed s := s.backend.contexts.all (·.freed) && s.inflight.isEmpty
  receiver s := s.backend.guard

theorem closed_iff : senders.closed s = true ↔ s.backend.AllFreed ∧ s.inflight = [] := by
  simp [senders, Backend.AllFreed]

/-- While the guard is there the root has its `tx`. -/
theorem not_closed_of_guard (hs : Books s) (hguard : s.backend.guard = true) :
    senders.closed s = false := by
  rw [← Bool.not_eq_true, closed_iff]
  rintro ⟨hfreed, -⟩
  have hroot := hs.intact.anchored.root
  have hunfreed := (hs.intact.base.undropped (Backend.strong_pos_iff.mpr (.inl hguard))).2.2 0
  rw [Backend.isFreed, List.getElem?_eq_getElem hroot, Option.any_some,
    hfreed _ (List.getElem_mem hroot)] at hunfreed
  cases hunfreed

theorem lawful_senders : senders.Lawful Books where
  invariant _ _ _ hs h := books_step hs h
  grows s l t hs h := by
    cases step_change h with
    | quiet l result backend reported hstep hresolves hreported => exact List.prefix_append _ _
    | refuse l result backend r hstep hresolves hreported hbox => exact List.prefix_rfl
    | pend l backend r rc hstep hresolves hreported hbox => exact List.prefix_rfl
    | fail l result backend r rc hstep hresolves hreported hbox => exact List.prefix_append _ _
    | complete k status inst rc hk hrc => exact List.prefix_append _ _
  final s l t hs hclosed h := by
    obtain ⟨hfreed, hinflight⟩ := closed_iff.mp hclosed
    have hquiet : ∀ {l : Backend.Label} {backend : Backend}, s.backend.step l = some backend →
        backend.AllFreed ∧ backend.resolves = s.backend.resolves ∧
          backend.sent = s.backend.sent := fun hstep => hfreed.step hs.intact hstep
    cases step_change h with
    | quiet l result backend reported hstep hresolves hreported =>
      obtain ⟨hfreed', -, hsent⟩ := hquiet hstep
      have hnone : reported = [] := List.append_right_eq_self.mp (hreported.symm.trans hsent)
      exact ⟨closed_iff.mpr ⟨hfreed', hinflight⟩, by simp [senders, hnone]⟩
    | refuse l result backend r hstep hresolves | pend l backend r rc hstep hresolves
    | fail l result backend r rc hstep hresolves =>
      have hnone := hresolves.symm.trans (hquiet hstep).2.1
      cases List.append_right_eq_self.mp hnone
    | complete k status inst rc hk hrc =>
      rw [hinflight] at hk
      cases hk

end

end Browse

open Browse

/-- What a registry sends are the statuses of its callbacks. -/
theorem sent_run {s t : Backend} {labels : List Backend.Label}
    (h : run Backend.step s labels = some t) : t.sent = s.sent ++ Backend.statusErrors labels := by
  induction labels generalizing s with
  | nil =>
    cases h
    simp [Backend.statusErrors]
  | cons l labels ih =>
    obtain ⟨u, hu, hrest⟩ := Option.bind_eq_some_iff.mp h
    rw [ih hrest, Backend.change_sent (Backend.step_change hu), List.append_assoc]
    rfl

theorem books_run {serviceType domain : Option String} {interfaceIndex : Option NonZeroU32}
    {result : Int32} {root : BrowseContext}
    (hroot : startBrowse (browseStart serviceType domain interfaceIndex) result = .ok root)
    {labels : List Label} {s : Browse} (h : run Browse.step (.start root) labels = some s) :
    Books s :=
  run_invariant (fun _ _ _ hs hstep => books_step hs hstep) (books_start hroot) h

/-- **What is on the channel of a whole browse.**  Each name that an instance browse
has seen was resolved once, and no other; every box is with the OS or was taken back;
and the channel holds the statuses of the callbacks and one end of each box that was
taken back, each in its order. -/
theorem channel_resolves (serviceType domain : Option String)
    (interfaceIndex : Option NonZeroU32) (result : Int32) {root : BrowseContext}
    (hroot : startBrowse (browseStart serviceType domain interfaceIndex) result = .ok root)
    (labels : List Label) {s : Browse} (h : run Browse.step (.start root) labels = some s) :
    run Backend.step (.start root) (labels.filterMap Label.act?) = some s.backend ∧
    (∀ i ctx, s.backend.contexts[i]? = some ctx → ∀ t,
      s.backend.keys.count (i, t) = if ctx.isMeta = false ∧ t ∈ ctx.seen then 1 else 0) ∧
    s.boxes = s.backend.resolves.filterMap s.backend.boxFor ∧
    (s.inflight ++ s.reclaimed).Perm (List.range s.boxes.length) ∧
    ∃ outcomes, List.Forall₂ (Instances.Ends s.boxes) s.reclaimed outcomes ∧
      Shuffle (Backend.statusErrors (labels.filterMap Label.act?)) outcomes s.sent := by
  have hbooks := books_run hroot h
  have hrun := run_act h
  refine ⟨hrun, ?_, hbooks.boxes, hbooks.owned, ?_⟩
  · intro i ctx hctx t
    have hcore := Backend.core_eq hctx
    by_cases hinstance : ctx.isMeta = false
    · have hseen := hbooks.resolved.seen i ctx.core hcore hinstance t
      rw [List.Nodup.count hbooks.resolved.once]
      simp only [hinstance, true_and]
      exact if_congr hseen.symm rfl rfl
    · rw [if_neg (fun h => hinstance h.1), List.count_eq_zero]
      intro hmem
      obtain ⟨r, hr, hkey⟩ := List.mem_map.mp hmem
      obtain ⟨known, hknown, hkind, -⟩ := hbooks.resolved.known r hr
      obtain ⟨hi, -⟩ := Prod.mk.inj hkey
      rw [hi, hcore] at hknown
      cases hknown
      exact hinstance hkind
  · obtain ⟨outcomes, hends, hsent⟩ := hbooks.ended
    refine ⟨outcomes, hends, ?_⟩
    have hstatuses := sent_run hrun
    rw [← List.nil_append (Backend.statusErrors _)]
    exact hstatuses ▸ hsent

/-- A printer is announced and resolved; the resolve of another is in flight. -/
def printerLabels : List Label :=
  [.act .pushRoot 0, .act (.enter 0 5 [.ptr "A._ipp._tcp.local.", .ptr "B._ipp._tcp.local."]) 0,
    .act (.handleRecord 0) dnsRequestPending, .act (.handleRecord 0) dnsRequestPending,
    .complete 0 1460 none]

theorem startBrowse_printers :
    startBrowse (browseStart (some "_ipp._tcp") none none) dnsRequestPending = .ok printers := by
  decide +kernel

theorem channel_resolves_example :
    ∃ s, run Browse.step (.start printers) printerLabels = some s ∧ s.inflight = [1] ∧
      s.reclaimed = [0] ∧ (s.inflight ++ s.reclaimed).Perm (List.range s.boxes.length) := by
  refine ⟨_, rfl, rfl, rfl, ?_⟩
  exact (channel_resolves (some "_ipp._tcp") none none dnsRequestPending startBrowse_printers
    printerLabels rfl).2.2.2.1

/-- **What `recv` returns on Windows**: the events in the order in which they were
sent, and never `None`, since the root keeps its `tx` as long as the handle is there;
so it waits whenever everything was received. -/
theorem channel_recv (serviceType domain : Option String) (interfaceIndex : Option NonZeroU32)
    (result : Int32) {root : BrowseContext}
    (hroot : startBrowse (browseStart serviceType domain interfaceIndex) result = .ok root)
    (labels : List (Receivers.Label Label)) {s : Receivers.Session Browse Event}
    (h : run (Receivers.Session.step senders) { senders := .start root } labels = some s) :
    run Browse.step (.start root) (labels.filterMap Receivers.Label.act?) = some s.senders ∧
    s.received <+: s.senders.sent ∧ s.ended = false ∧
    (s.senders.backend.guard = true →
      (s.recv senders = none ↔ s.received = s.senders.sent)) := by
  have hstart := Receivers.Read.start (m := senders) (books_start hroot)
  have hread := Receivers.read_run lawful_senders hstart h
  refine ⟨Receivers.run_act h, hread.received, ?_, fun hguard => ?_⟩
  · exact Receivers.ended_eq_false lawful_senders (fun _ ht hguard => not_closed_of_guard ht hguard)
      hstart rfl h
  · rw [Receivers.recv_eq_none_iff hread hguard]
    exact and_iff_left (not_closed_of_guard hread.invariant hguard)

/-- The status of the callback and the error of the first printer, then nothing. -/
theorem channel_recv_example :
    ∃ s, run (Receivers.Session.step senders) { senders := .start printers }
        (printerLabels.map .act ++ [.recv, .recv]) = some s ∧
      s.received.length = 2 ∧ s.ended = false ∧ s.recv senders = none := by
  have hrecv := channel_recv (some "_ipp._tcp") none none dnsRequestPending startBrowse_printers
    (printerLabels.map .act ++ [.recv, .recv]) rfl
  exact ⟨_, rfl, rfl, hrecv.2.2.1, (hrecv.2.2.2 rfl).mpr rfl⟩

end MdnsSdDiscovery.Windows
