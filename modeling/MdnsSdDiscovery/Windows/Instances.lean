import Mathlib.Data.List.Forall2
import MdnsSdDiscovery.Lib.Runs
import MdnsSdDiscovery.Lib.Slots
import MdnsSdDiscovery.Windows.Resolve

/-!
# The resolves of one instance browse

Callbacks of an instance browse walk their records while the resolves they have
started complete, in any order.  Every distinct target is resolved once and ends
in one event, and every `ResolveContext` is taken back once (`resolved_once`).

The OS is assumed to call the completion callback of a resolve once if
`DnsServiceResolve` returned `DNS_REQUEST_PENDING`, and never otherwise.
-/

namespace MdnsSdDiscovery.Windows

open Runs Slots

/-! ## The machine -/

structure Instances where
  ctx : BrowseContext
  /-- The callbacks that were entered, with the records they have still to walk. -/
  callbacks : List (List Record) := []
  /-- The `ResolveContext`s in the order in which they were boxed. -/
  resolves : List ResolveContext := []
  /-- The resolves whose completion callback is still to come. -/
  inflight : List Nat := []
  /-- The resolves whose box was taken back by `Box::from_raw`. -/
  reclaimed : List Nat := []
  /-- The names that `start_resolve` has returned on. -/
  refused : List String := []
  sent : List Event := []

namespace Instances

/-- The browse before its first callback. -/
def start (ctx : BrowseContext) : Instances := { ctx }

inductive Label where
  | enter (status : UInt32) (records : List Record)
  /-- Callback `c` handles its next record; `result` is what `DnsServiceResolve`
  returns if it is called. -/
  | handleRecord (c : Nat) (result : Int32)
  /-- `resolve_callback` -/
  | complete (k : Nat) (status : UInt32) (inst : Option DnsServiceInstance)

/-- `start_resolve` -/
def resolve (s : Instances) (fullName label : String) (result : Int32) : Instances :=
  match startResolve s.ctx fullName label with
  | none => { s with refused := s.refused ++ [fullName] }
  | some rc =>
    if result = dnsRequestPending then
      { s with
        resolves := s.resolves ++ [rc]
        inflight := s.inflight ++ [s.resolves.length] }
    else
      { s with
        resolves := s.resolves ++ [rc]
        reclaimed := s.reclaimed ++ [s.resolves.length]
        sent := s.sent ++ [resolveRefused rc result] }

/-- `handle_ptr` -/
def handlePtr (s : Instances) (target : String) (result : Int32) : Instances :=
  let (ctx, effect) := Windows.handlePtr s.ctx target
  match effect with
  | .resolve fullName label => { s with ctx }.resolve fullName label result
  -- the child browses of a meta browse are the subject of `Windows.Registry`
  | .handled | .browse _ => { s with ctx }

def step (s : Instances) : Label → Option Instances
  | .enter status records =>
    some { s with callbacks := s.callbacks ++ [records], sent := s.sent ++ statusReport status }
  | .handleRecord c result =>
    match s.callbacks[c]? with
    | some (.other :: rest) => some { s with callbacks := s.callbacks.set c rest }
    | some (.ptr nameHost :: rest) =>
      some ({ s with callbacks := s.callbacks.set c rest }.handlePtr (trimDot nameHost) result)
    | _ => none
  | .complete k status inst =>
    if k ∈ s.inflight then
      (s.resolves[k]?).map fun rc => { s with
        inflight := s.inflight.erase k
        reclaimed := s.reclaimed ++ [k]
        sent := s.sent ++ [resolveCallback rc status inst] }
    else none

/-- The targets that were delivered. -/
def delivered (labels : List Label) : List String :=
  labels.flatMap fun
    | .enter _ records => targets records
    | _ => []

/-- The events by which the callbacks report their own statuses. -/
def statusErrors (labels : List Label) : List Event :=
  labels.flatMap fun
    | .enter status _ => statusReport status
    | _ => []

/-- The names in the record lists contain no NUL. -/
def NulFree (labels : List Label) : Prop :=
  ∀ status records, .enter status records ∈ labels →
    ∀ nameHost, .ptr nameHost ∈ records → '\x00' ∉ nameHost.toList

/-! ## What a step can do -/

/-- The browse remembers a target. -/
def remember (s : Instances) (target : String) : BrowseContext :=
  { s.ctx with seen := insert target s.ctx.seen }

/-- What is sent under the label of a target. -/
def labelOf (s : Instances) (target : String) : String :=
  instanceLabel target s.ctx.serviceType s.ctx.domain

/-- A step of an instance browse, spelled out. -/
inductive Change (s : Instances) : Label → Instances → Prop where
  | enter (status : UInt32) (records : List Record) :
      Change s (.enter status records) { s with
        callbacks := s.callbacks ++ [records], sent := s.sent ++ statusReport status }
  | other (c : Nat) (result : Int32) (rest : List Record)
      (hc : s.callbacks[c]? = some (.other :: rest)) :
      Change s (.handleRecord c result) { s with callbacks := s.callbacks.set c rest }
  | handled (c : Nat) (result : Int32) (nameHost : String) (rest : List Record)
      (hc : s.callbacks[c]? = some (.ptr nameHost :: rest))
      (hseen : trimDot nameHost ∈ s.ctx.seen) :
      Change s (.handleRecord c result) { s with callbacks := s.callbacks.set c rest }
  | refuse (c : Nat) (result : Int32) (nameHost : String) (rest : List Record)
      (hc : s.callbacks[c]? = some (.ptr nameHost :: rest))
      (hnul : '\x00' ∈ (trimDot nameHost).toList) :
      Change s (.handleRecord c result) { s with
        ctx := s.remember (trimDot nameHost)
        callbacks := s.callbacks.set c rest
        refused := s.refused ++ [trimDot nameHost] }
  | pend (c : Nat) (nameHost : String) (rest : List Record) (rc : ResolveContext)
      (hc : s.callbacks[c]? = some (.ptr nameHost :: rest))
      (hunseen : trimDot nameHost ∉ s.ctx.seen)
      (hstart : startResolve s.ctx (trimDot nameHost) (s.labelOf (trimDot nameHost)) = some rc) :
      Change s (.handleRecord c dnsRequestPending) { s with
        ctx := s.remember (trimDot nameHost)
        callbacks := s.callbacks.set c rest
        resolves := s.resolves ++ [rc]
        inflight := s.inflight ++ [s.resolves.length] }
  | fail (c : Nat) (result : Int32) (nameHost : String) (rest : List Record) (rc : ResolveContext)
      (hc : s.callbacks[c]? = some (.ptr nameHost :: rest))
      (hunseen : trimDot nameHost ∉ s.ctx.seen)
      (hstart : startResolve s.ctx (trimDot nameHost) (s.labelOf (trimDot nameHost)) = some rc) :
      Change s (.handleRecord c result) { s with
        ctx := s.remember (trimDot nameHost)
        callbacks := s.callbacks.set c rest
        resolves := s.resolves ++ [rc]
        reclaimed := s.reclaimed ++ [s.resolves.length]
        sent := s.sent ++ [resolveRefused rc result] }
  | complete (k : Nat) (status : UInt32) (inst : Option DnsServiceInstance) (rc : ResolveContext)
      (hk : k ∈ s.inflight) (hrc : s.resolves[k]? = some rc) :
      Change s (.complete k status inst) { s with
        inflight := s.inflight.erase k
        reclaimed := s.reclaimed ++ [k]
        sent := s.sent ++ [resolveCallback rc status inst] }

section
variable {s s' : Instances} {l : Label}

theorem resolve_none {fullName label : String} (h : startResolve s.ctx fullName label = none)
    (result : Int32) :
    s.resolve fullName label result = { s with refused := s.refused ++ [fullName] } := by
  simp only [resolve, h]

theorem resolve_some {fullName label : String} {rc : ResolveContext}
    (h : startResolve s.ctx fullName label = some rc) (result : Int32) :
    s.resolve fullName label result =
      if result = dnsRequestPending then
        { s with
          resolves := s.resolves ++ [rc]
          inflight := s.inflight ++ [s.resolves.length] }
      else
        { s with
          resolves := s.resolves ++ [rc]
          reclaimed := s.reclaimed ++ [s.resolves.length]
          sent := s.sent ++ [resolveRefused rc result] } := by
  simp only [resolve, h]

/-- **Every step is one of the changes.** -/
theorem step_change (hinstance : s.ctx.isMeta = false) (h : step s l = some s') :
    Change s l s' := by
  cases l with
  | enter status records =>
    cases h
    exact .enter status records
  | handleRecord c result =>
    simp only [step] at h
    split at h
    · rename_i rest hc
      cases h
      exact .other c result rest hc
    · rename_i nameHost rest hc
      cases h
      rcases handlePtr_cases s.ctx (trimDot nameHost) with ⟨hseen, heq⟩ | ⟨-, hmeta, -⟩ |
        ⟨hunseen, -, heq⟩
      · simp only [handlePtr, heq]
        exact .handled c result nameHost rest hc hseen
      · cases hinstance.symm.trans hmeta
      · let t : Instances := { s with
          ctx := s.remember (trimDot nameHost)
          callbacks := s.callbacks.set c rest }
        simp only [handlePtr, heq]
        show Change s _ (t.resolve (trimDot nameHost) (s.labelOf (trimDot nameHost)) result)
        cases hstart : startResolve t.ctx (trimDot nameHost) (s.labelOf (trimDot nameHost)) with
        | none =>
          rw [resolve_none hstart]
          exact .refuse c result nameHost rest hc (startResolve_eq_none.mp hstart)
        | some rc =>
          rw [resolve_some hstart]
          by_cases hresult : result = dnsRequestPending
          · rw [if_pos hresult, hresult]
            exact .pend c nameHost rest rc hc hunseen hstart
          · rw [if_neg hresult]
            exact .fail c result nameHost rest rc hc hunseen hstart
    · cases h
  | complete k status inst =>
    by_cases hk : k ∈ s.inflight
    · have h' := (if_pos hk).symm.trans h
      obtain ⟨rc, hrc, rfl⟩ := Option.map_eq_some_iff.mp h'
      exact .complete k status inst rc hk hrc
    · cases (if_neg hk).symm.trans h

/-! ## The books of a browse -/

variable {root : BrowseContext} {labels : List Label}

/-- The box that `start_resolve` makes for a target of the browse. -/
def boxOf (root : BrowseContext) (target : String) : ResolveContext :=
  ⟨instanceLabel target root.serviceType root.domain, root.serviceType, root.domain, target⟩

/-- Every box is for a target of its own, and every handled target has its box. -/
structure Boxes (root : BrowseContext) (s : Instances) : Prop where
  ctx : ∃ seen, s.ctx = { root with seen }
  nulFree : ∀ rs ∈ s.callbacks, ∀ nameHost, .ptr nameHost ∈ rs → '\x00' ∉ nameHost.toList
  refused : s.refused = []
  targets : ∃ ts : List String, s.resolves = ts.map (boxOf root) ∧ ts.Nodup ∧
    ∀ t, t ∈ s.ctx.seen ↔ t ∈ ts

theorem nul_mem_trimDot {s : String} (h : '\x00' ∈ (trimDot s).toList) : '\x00' ∈ s.toList := by
  rw [trimDot, Labels.trimEndMatches, String.toList_ofList] at h
  exact (List.rdropWhile_prefix _ _).subset h

theorem nulFree_set {callbacks : List (List Record)} {c : Nat} {r : Record} {rest : List Record}
    (h : ∀ rs ∈ callbacks, ∀ nameHost, .ptr nameHost ∈ rs → '\x00' ∉ nameHost.toList)
    (hc : callbacks[c]? = some (r :: rest)) :
    ∀ rs ∈ callbacks.set c rest, ∀ nameHost, .ptr nameHost ∈ rs → '\x00' ∉ nameHost.toList := by
  intro rs hrs nameHost hmem
  rcases List.mem_or_eq_of_mem_set hrs with hold | rfl
  · exact h rs hold nameHost hmem
  · exact h _ (List.mem_of_getElem? hc) nameHost (List.mem_cons_of_mem r hmem)

/-- A target that was not handled before gets its box. -/
theorem boxes_remember {target : String} {rc : ResolveContext} (hs : Boxes root s)
    (hunseen : target ∉ s.ctx.seen)
    (hstart : startResolve s.ctx target (s.labelOf target) = some rc)
    (hctx : s'.ctx = s.remember target) (hresolves : s'.resolves = s.resolves ++ [rc])
    (hrefused : s'.refused = s.refused)
    (hnul : ∀ rs ∈ s'.callbacks, ∀ nameHost, .ptr nameHost ∈ rs → '\x00' ∉ nameHost.toList) :
    Boxes root s' := by
  obtain ⟨seen, hseen⟩ := hs.ctx
  obtain ⟨ts, hts, hnodup, hmem⟩ := hs.targets
  have hrc : rc = boxOf root target := by
    rw [startResolve_eq_some hstart, labelOf, hseen]
    rfl
  refine ⟨⟨insert target s.ctx.seen, ?_⟩, hnul, hrefused.trans hs.refused,
    ts ++ [target], ?_, ?_, ?_⟩
  · rw [hctx, remember, hseen]
  · rw [hresolves, hts, hrc, List.map_append]
    rfl
  · refine List.nodup_append.mpr ⟨hnodup, List.nodup_singleton _, ?_⟩
    intro t ht u hu htu
    rw [List.mem_singleton.mp hu] at htu
    exact hunseen ((hmem target).mpr (htu ▸ ht))
  · intro t
    rw [hctx, remember, Finset.mem_insert, List.mem_append, List.mem_singleton, hmem]
    exact or_comm

theorem boxes_step (hs : Boxes root s) (hnul : NulFree [l]) (h : Change s l s') :
    Boxes root s' := by
  cases h with
  | enter status records =>
    refine ⟨hs.ctx, ?_, hs.refused, hs.targets⟩
    intro rs hrs
    rcases List.mem_append.mp hrs with hold | hnew
    · exact hs.nulFree rs hold
    · rw [List.mem_singleton.mp hnew]
      exact hnul status records (List.mem_singleton_self _)
  | other c result rest hc => exact ⟨hs.ctx, nulFree_set hs.nulFree hc, hs.refused, hs.targets⟩
  | handled c result nameHost rest hc =>
    exact ⟨hs.ctx, nulFree_set hs.nulFree hc, hs.refused, hs.targets⟩
  | refuse c result nameHost rest hc hbad =>
    exact absurd (nul_mem_trimDot hbad)
      (hs.nulFree _ (List.mem_of_getElem? hc) nameHost List.mem_cons_self)
  | pend c nameHost rest rc hc hunseen hstart =>
    exact boxes_remember hs hunseen hstart rfl rfl rfl (nulFree_set hs.nulFree hc)
  | fail c result nameHost rest rc hc hunseen hstart =>
    exact boxes_remember hs hunseen hstart rfl rfl rfl (nulFree_set hs.nulFree hc)
  | complete k status inst rc hk hrc => exact ⟨hs.ctx, hs.nulFree, hs.refused, hs.targets⟩

/-- The target is among those that were handled, or a callback has still to walk it. -/
def Known (seen : Finset String) (callbacks : List (List Record)) (t : String) : Prop :=
  t ∈ seen ∨ ∃ rs ∈ callbacks, t ∈ Windows.targets rs

theorem known_insert {callbacks : List (List Record)} {c : Nat} {nameHost : String}
    {rest : List Record} (hc : callbacks[c]? = some (.ptr nameHost :: rest))
    (seen : Finset String) (t : String) :
    Known (insert (trimDot nameHost) seen) (callbacks.set c rest) t ↔ Known seen callbacks t := by
  unfold Known
  rw [Finset.mem_insert]
  by_cases ht : t = trimDot nameHost
  · refine iff_of_true (.inl (.inl ht)) (.inr ⟨_, List.mem_of_getElem? hc, ?_⟩)
    exact ht ▸ List.mem_cons_self
  · rw [exists_mem_set_congr hc (by simp [ht]), or_iff_right ht]

/-- No step forgets a target. -/
theorem change_known (h : Change s l s') (t : String) :
    Known s'.ctx.seen s'.callbacks t ↔ Known s.ctx.seen s.callbacks t ∨ t ∈ delivered [l] := by
  cases h with
  | enter status records => simp [Known, delivered, or_and_right, exists_or, or_assoc]
  | other c result rest hc =>
    simp only [delivered, List.flatMap_cons, List.flatMap_nil, List.append_nil, List.not_mem_nil,
      or_false, Known]
    rw [exists_mem_set_congr hc (by simp)]
  | handled c result nameHost rest hc hseen =>
    have hkept := known_insert hc s.ctx.seen t
    rw [Finset.insert_eq_of_mem hseen] at hkept
    simpa [delivered] using hkept
  | refuse c result nameHost rest hc =>
    simpa [delivered, remember] using known_insert hc s.ctx.seen t
  | pend c nameHost rest rc hc => simpa [delivered, remember] using known_insert hc s.ctx.seen t
  | fail c result nameHost rest rc hc =>
    simpa [delivered, remember] using known_insert hc s.ctx.seen t
  | complete k status inst rc hk hrc => simp [Known, delivered]

/-- Every box is with the OS or was taken back, and not both. -/
def Owned (s : Instances) : Prop :=
  (s.inflight ++ s.reclaimed).Perm (List.range s.resolves.length)

theorem owned_step (hs : Owned s) (h : Change s l s') : Owned s' := by
  unfold Owned at hs ⊢
  cases h with
  | enter | other | handled | refuse => exact hs
  | pend c nameHost rest rc hc hunseen hstart =>
    dsimp only
    rw [List.length_append, List.length_singleton, List.range_succ, List.append_assoc]
    have hmoved : (s.inflight ++ (s.resolves.length :: s.reclaimed)).Perm
        (s.resolves.length :: (s.inflight ++ s.reclaimed)) := List.perm_middle
    exact hmoved.trans ((hs.cons _).trans (List.perm_append_singleton _ _).symm)
  | fail c result nameHost rest rc hc hunseen hstart =>
    dsimp only
    rw [List.length_append, List.length_singleton, List.range_succ, ← List.append_assoc]
    exact hs.append_right _
  | complete k status inst rc hk hrc =>
    dsimp only
    rw [← List.append_assoc]
    have hmoved := ((List.perm_cons_erase hk).append_right s.reclaimed).symm
    exact (List.perm_append_singleton k _).trans (hmoved.trans hs)

/-- Event `e` ends resolve `k`. -/
def Ends (resolves : List ResolveContext) (k : Nat) (e : Event) : Prop :=
  ∃ rc, resolves[k]? = some rc ∧ Outcome rc e

/-- Besides the statuses, the channel holds the ends of the boxes that were taken back. -/
def Ended (labels : List Label) (s : Instances) : Prop :=
  ∃ outcomes, List.Forall₂ (Ends s.resolves) s.reclaimed outcomes ∧
    s.sent.Perm (statusErrors labels ++ outcomes)

theorem ends_append {k : Nat} {e : Event} {resolves : List ResolveContext}
    (h : Ends resolves k e) (rc : ResolveContext) : Ends (resolves ++ [rc]) k e := by
  obtain ⟨old, hold, houtcome⟩ := h
  refine ⟨old, ?_, houtcome⟩
  rw [List.getElem?_append_left (List.getElem?_eq_some_iff.mp hold).1, hold]

theorem forall₂_snoc {α β : Type*} {R : α → β → Prop} {as : List α} {bs : List β} {a : α} {b : β}
    (h : List.Forall₂ R as bs) (hab : R a b) : List.Forall₂ R (as ++ [a]) (bs ++ [b]) :=
  List.rel_append h (.cons hab .nil)

theorem statusErrors_snoc (labels : List Label) (l : Label) :
    statusErrors (labels ++ [l]) = statusErrors labels ++ statusErrors [l] := by
  simp [statusErrors]

theorem delivered_snoc (labels : List Label) (l : Label) :
    delivered (labels ++ [l]) = delivered labels ++ delivered [l] := by
  simp [delivered]

theorem ended_step (hs : Ended labels s) (h : Change s l s') : Ended (labels ++ [l]) s' := by
  obtain ⟨outcomes, hends, hsent⟩ := hs
  have hquiet : statusErrors [l] = [] →
      s.sent.Perm (statusErrors labels ++ statusErrors [l] ++ outcomes) := by
    intro hnone
    rw [hnone, List.append_nil]
    exact hsent
  have hsnoc : ∀ e, statusErrors [l] = [] →
      (s.sent ++ [e]).Perm (statusErrors labels ++ statusErrors [l] ++ (outcomes ++ [e])) := by
    intro e hnone
    rw [← List.append_assoc]
    exact (hquiet hnone).append_right [e]
  unfold Ended
  rw [statusErrors_snoc]
  cases h with
  | enter status records =>
    refine ⟨outcomes, hends, ?_⟩
    have hreport : statusErrors [.enter status records] = statusReport status := by
      simp [statusErrors]
    rw [hreport, List.append_assoc]
    refine (hsent.append_right _).trans ?_
    rw [List.append_assoc]
    exact List.perm_append_comm.append_left _
  | other | handled | refuse => exact ⟨outcomes, hends, hquiet rfl⟩
  | pend c nameHost rest rc hc hunseen hstart =>
    exact ⟨outcomes, hends.imp fun k e he => ends_append he rc, hquiet rfl⟩
  | fail c result nameHost rest rc hc hunseen hstart =>
    have hend : Ends (s.resolves ++ [rc]) s.resolves.length (resolveRefused rc result) :=
      ⟨rc, List.getElem?_concat_length, resolveRefused_outcome rc result⟩
    exact ⟨_, forall₂_snoc (hends.imp fun k e he => ends_append he rc) hend, hsnoc _ rfl⟩
  | complete k status inst rc hk hrc =>
    have hend : Ends s.resolves k (resolveCallback rc status inst) :=
      ⟨rc, hrc, resolveCallback_outcome rc status inst⟩
    exact ⟨_, forall₂_snoc hends hend, hsnoc _ rfl⟩

/-! ## Every run -/

structure Books (root : BrowseContext) (labels : List Label) (s : Instances) : Prop where
  boxes : Boxes root s
  known : ∀ t, Known s.ctx.seen s.callbacks t ↔ t ∈ delivered labels
  owned : Owned s
  ended : Ended labels s

theorem books_start (hfresh : root.seen = ∅) : Books root [] (start root) where
  boxes := by
    refine ⟨⟨root.seen, rfl⟩, by rintro rs ⟨⟩, rfl, [], rfl, List.nodup_nil, ?_⟩
    simp [start, hfresh]
  known := by simp [Known, start, hfresh, delivered]
  owned := List.Perm.nil
  ended := ⟨[], .nil, List.Perm.nil⟩

theorem books_step (hinstance : root.isMeta = false) (hs : Books root labels s)
    (hnul : NulFree [l]) (h : step s l = some s') : Books root (labels ++ [l]) s' := by
  obtain ⟨seen, hctx⟩ := hs.boxes.ctx
  have hchange : Change s l s' := step_change (by rw [hctx]; exact hinstance) h
  exact {
    boxes := boxes_step hs.boxes hnul hchange
    known := by
      intro t
      rw [change_known hchange, hs.known, delivered_snoc, List.mem_append]
    owned := owned_step hs.owned hchange
    ended := ended_step hs.ended hchange }

/-- What is on the channel when nothing is left to come. -/
theorem books_finished (hs : Books root labels s) (hreturned : ∀ rs ∈ s.callbacks, rs = [])
    (hinflight : s.inflight = []) :
    ∃ outcomes, List.Forall₂ (fun t e => Outcome (boxOf root t) e) (delivered labels).dedup
      outcomes ∧ s.sent.Perm (statusErrors labels ++ outcomes) := by
  obtain ⟨ts, hts, hnodup, hmem⟩ := hs.boxes.targets
  obtain ⟨outcomes, hends, hsent⟩ := hs.ended
  -- the ends in the order of the boxes
  have hreclaimed : (List.range s.resolves.length).Perm s.reclaimed := by
    have howned := hs.owned
    rw [Owned, hinflight, List.nil_append] at howned
    exact howned.symm
  obtain ⟨byBox, hbyBox, hbox⟩ := List.perm_comp_forall₂ hreclaimed hends
  have htargets : List.Forall₂ (fun t e => Outcome (boxOf root t) e) ts byBox := by
    have hrange : (List.range s.resolves.length).map (fun k => ts.getD k "") = ts := by
      refine List.ext_getElem (by simp [hts]) fun k hk hk' => ?_
      simp [hk']
    rw [← hrange, List.forall₂_map_left_iff]
    refine hbyBox.imp fun k e he => ?_
    obtain ⟨rc, hrc, houtcome⟩ := he
    rw [hts, List.getElem?_map] at hrc
    obtain ⟨t, ht, rfl⟩ := Option.map_eq_some_iff.mp hrc
    rw [List.getD_eq_getElem?_getD, ht]
    exact houtcome
  -- the ends in the order of the targets
  have hperm : (delivered labels).dedup.Perm ts := by
    refine (List.perm_ext_iff_of_nodup (List.nodup_dedup _) hnodup).mpr fun t => ?_
    rw [List.mem_dedup, ← hs.known, ← hmem, Known, or_iff_left]
    rintro ⟨rs, hrs, ht⟩
    rw [hreturned rs hrs] at ht
    cases ht
  obtain ⟨byTarget, hbyTarget, htarget⟩ := List.perm_comp_forall₂ hperm htargets
  refine ⟨byTarget, hbyTarget, hsent.trans (List.Perm.append_left _ ?_)⟩
  exact (htarget.trans hbox).symm

end

end Instances

open Instances

/-- **Every instance is resolved once.** -/
theorem resolved_once (ctx : BrowseContext) (hinstance : ctx.isMeta = false)
    (hfresh : ctx.seen = ∅) (labels : List Label) (hnul : NulFree labels) {s : Instances}
    (h : run Instances.step (.start ctx) labels = some s) :
    s.refused = [] ∧
    ((∀ rs ∈ s.callbacks, rs = []) → s.inflight = [] →
      s.reclaimed.Perm (List.range s.resolves.length) ∧
      ∃ outcomes, List.Forall₂ (fun t e => Outcome (boxOf ctx t) e) (delivered labels).dedup
        outcomes ∧ s.sent.Perm (statusErrors labels ++ outcomes)) := by
  have hbooks : Books ctx labels s := by
    refine run_guarded (P := fun ls t => Books ctx ls t) (G := fun _ _ l => NulFree [l])
      (books_start hfresh) ?_ h ?_
    · intro ls t l t' ht hl hstep
      exact books_step hinstance ht hl hstep
    · rintro pre l post t rfl - status records hmem
      refine hnul status records (List.mem_append_right pre ?_)
      exact List.mem_singleton.mp hmem ▸ List.mem_cons_self
  refine ⟨hbooks.boxes.refused, ?_⟩
  intro hreturned hinflight
  refine ⟨?_, books_finished hbooks hreturned hinflight⟩
  have howned := hbooks.owned
  rwa [Owned, hinflight, List.nil_append] at howned

/-- The context of a browse for printers. -/
def printers : BrowseContext where
  isMeta := false
  interface := 0
  serviceType := "_ipp._tcp"
  domain := "local"

/-- One printer is announced twice and resolved late, the resolve of another is
refused, and the second callback has a status. -/
def twoPrinters : List Label :=
  [.enter 0 [.ptr "A._ipp._tcp.local.", .other, .ptr "A._ipp._tcp.local"],
    .handleRecord 0 dnsRequestPending, .enter 5 [.ptr "B._ipp._tcp.local"], .handleRecord 1 1450,
    .handleRecord 0 0, .handleRecord 0 0, .complete 0 1460 none]

theorem resolved_once_example :
    ∃ s, run Instances.step (.start printers) twoPrinters = some s ∧
      s.reclaimed = [1, 0] ∧ s.reclaimed.Perm (List.range s.resolves.length) ∧
      ∃ outcomes, List.Forall₂ (fun t e => Outcome (boxOf printers t) e)
        (delivered twoPrinters).dedup outcomes ∧
        s.sent.Perm (statusErrors twoPrinters ++ outcomes) := by
  have hnul : NulFree twoPrinters := by
    intro status records hmem nameHost hrecord
    simp only [twoPrinters, List.mem_cons, Label.enter.injEq, reduceCtorEq, List.not_mem_nil,
      false_or, or_false] at hmem
    rcases hmem with ⟨-, rfl⟩ | ⟨-, rfl⟩
    · simp only [List.mem_cons, Record.ptr.injEq, reduceCtorEq, List.not_mem_nil, false_or,
        or_false] at hrecord
      rcases hrecord with rfl | rfl <;> decide +kernel
    · simp only [List.mem_cons, Record.ptr.injEq, List.not_mem_nil, or_false] at hrecord
      subst hrecord
      decide +kernel
  have hreturned : ∀ rs ∈ [[], []], rs = ([] : List Record) := by simp
  refine ⟨_, rfl, rfl, ?_⟩
  exact (resolved_once printers rfl rfl twoPrinters hnul rfl).2 hreturned rfl

end MdnsSdDiscovery.Windows
