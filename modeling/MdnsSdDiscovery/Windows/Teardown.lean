import MdnsSdDiscovery.Windows.Lifecycle

/-!
# That the teardown ends on Windows

Every step but the start of a new callback uses up work, and as long as something is
left, some step is possible: the cancel of a context waits for callbacks only that
wait for nobody.  So the teardown comes to rest, and leaves nothing behind
(`teardown_ends`).
-/

namespace MdnsSdDiscovery.Windows

open Runs Slots Backend

/-- The steps that a callback can take before the walk of its records goes on. -/
def Phase.work : Phase → Nat
  | .upgraded _ => 7
  | .pushing _ => 4
  | .releasing => 3
  | .dropping _ => 2
  | .walking => 1
  | .returned => 0

def Callback.work (cb : Callback) : Nat := cb.phase.work + 7 * cb.records.length

/-- The cancel and the free are still to come. -/
def BrowseContext.work (ctx : BrowseContext) : Nat := (!ctx.cancelled).toNat + (!ctx.freed).toNat

namespace Backend

/-- The label goes on with what was begun: it is no new callback. -/
def Label.goesOn : Label → Bool
  | .enter .. => false
  | _ => true

/-- The steps that a callback pays for when it is entered. -/
def Label.credit : Label → Nat
  | .enter _ _ records => 1 + 7 * records.length
  | _ => 0

/-- A bound on the steps that are left. -/
def work (s : Backend) : Nat :=
  (s.contexts.map BrowseContext.work).sum + (s.callbacks.map Callback.work).sum +
    (!s.rooted).toNat + s.guard.toNat

section
variable {s s' : Backend} {l : Label} {c i : Nat}

theorem work_put {cb : Callback} (hc : s.callbacks[c]? = some cb) (cb' : Callback) :
    (s.put c cb').work + cb.work = s.work + cb'.work := by
  have hset := sum_map_set hc Callback.work cb'
  simp only [work, put]
  omega

theorem work_set {ctx : BrowseContext} (hctx : s.contexts[i]? = some ctx) (ctx' : BrowseContext) :
    ({ s with contexts := s.contexts.set i ctx' } : Backend).work + ctx.work =
      s.work + ctx'.work := by
  have hset := sum_map_set hctx BrowseContext.work ctx'
  simp only [work]
  omega

theorem work_remember {ctx : BrowseContext} (hctx : s.contexts[i]? = some ctx) (nameHost : String) :
    (s.remember i ctx nameHost).work = s.work := by
  have hset := work_set hctx { ctx with seen := insert (trimDot nameHost) ctx.seen }
  exact Nat.add_right_cancel hset

theorem work_modify {e : Nat} (f : BrowseContext → BrowseContext) {ctx : BrowseContext}
    (hctx : s.contexts[e]? = some ctx) :
    ({ s with contexts := s.contexts.modify e f } : Backend).work + ctx.work =
      s.work + (f ctx).work := by
  rw [← work_set hctx (f ctx), List.modify_eq_set_getElem?, hctx]
  rfl

theorem exists_context (hp : Placed s) (h : i ∈ s.places) :
    ∃ ctx, s.contexts[i]? = some ctx ∧ ctx.freed = false ∧
      s.isCancelled i = ctx.cancelled := by
  obtain ⟨f, hf, hfreed⟩ := (mem_places_iff hp).mp h
  obtain ⟨ctx, hctx, rfl⟩ := Option.map_eq_some_iff.mp hf
  exact ⟨ctx, hctx, hfreed, by rw [isCancelled, hctx]; rfl⟩

/-- The drop of an entry uses up the cancel or the free. -/
theorem work_dropEntry (hp : Placed s) {own : Option Nat} {e : Nat} {rest entries : List Nat}
    (hplace : e ∈ s.places) (h : s.dropEntry own e rest = some (s', entries)) :
    s'.work + 1 = s.work ∧ s'.callbacks = s.callbacks := by
  obtain ⟨ctx, hctx, hfreed, hcancelled⟩ := exists_context hp hplace
  unfold dropEntry at h
  rw [hcancelled] at h
  split at h
  · rename_i hlive
    cases h
    have hwork := work_modify (fun ctx => { ctx with cancelled := true }) hctx
    refine ⟨?_, rfl⟩
    simp only [BrowseContext.work, hlive, Bool.not_false, Bool.not_true, Bool.toNat_true,
      Bool.toNat_false] at hwork
    simp only [cancel]
    omega
  · split at h <;> cases h
    have hwork := work_modify (fun ctx => { ctx with freed := true }) hctx
    refine ⟨?_, rfl⟩
    simp only [BrowseContext.work, hfreed, Bool.not_false, Bool.not_true, Bool.toNat_true,
      Bool.toNat_false] at hwork
    simp only [free]
    omega

theorem work_dropEntries (hp : Placed s) {thread : Option Nat}
    (h : step s (.dropEntry thread) = some s') : s'.work + 1 = s.work := by
  cases thread with
  | none =>
    simp only [step] at h
    split at h
    · rename_i e rest hdropping
      have hplace : e ∈ s.places := by simp [places, hdropping]
      obtain ⟨⟨t, entries⟩, ht, rfl⟩ := Option.map_eq_some_iff.mp h
      exact (work_dropEntry hp hplace ht).1
    · cases h
  | some c =>
    simp only [step] at h
    split at h
    · rename_i i records e rest hc
      have hplace : e ∈ s.places := by
        refine List.mem_append_right _ (List.mem_flatMap.mpr ⟨_, List.mem_of_getElem? hc, ?_⟩)
        exact List.mem_cons_self
      obtain ⟨⟨t, entries⟩, ht, rfl⟩ := Option.map_eq_some_iff.mp h
      obtain ⟨hwork, hcallbacks⟩ := work_dropEntry hp hplace ht
      have hput := work_put (hcallbacks ▸ hc) ⟨i, records, .dropping entries⟩
      rw [← hwork, Nat.add_right_cancel hput]
    · cases h

/-- A callback goes on to a phase with less work. -/
theorem work_move {t : Backend} {cb cb' : Callback} (hc : s.callbacks[c]? = some cb)
    (hcallbacks : t.callbacks = s.callbacks) (h : t.work + cb'.work < s.work + cb.work) :
    (t.put c cb').work + 1 ≤ s.work := by
  have hput := work_put (hcallbacks ▸ hc) cb'
  omega

theorem work_start {request : Request} {result : Int32} {ctx : BrowseContext}
    (hstart : Windows.startBrowse request result = .ok ctx) :
    ({ s with contexts := s.contexts ++ [ctx] } : Backend).work = s.work + 2 := by
  obtain ⟨-, -, rfl⟩ := startBrowse_eq_ok.mp hstart
  simp [work, BrowseContext.work]
  omega

/-- **Every step but a new callback uses up work.** -/
theorem work_step (hp : Placed s) (h : step s l = some s') :
    s'.work + l.goesOn.toNat ≤ s.work + l.credit := by
  cases step_change h with
  | enter i status records hlive hi =>
    simp [work, Callback.work, Phase.work, Label.goesOn, Label.credit]
    omega
  | other c i rest hc => exact work_move hc rfl (by simp [Callback.work, Phase.work])
  | handled c i nameHost rest ctx hc hctx hseen =>
    exact work_move hc rfl (by simp [Callback.work, Phase.work])
  | orphan c i nameHost rest ctx hc hctx hmeta hstrong =>
    refine work_move hc rfl ?_
    simp [work_remember hctx nameHost, Callback.work, Phase.work]
  | upgrade c i nameHost rest ctx request hc hctx hmeta hseen hstrong hname hinterface hchild =>
    refine work_move hc rfl ?_
    simp [work_remember hctx nameHost, Callback.work, Phase.work]
    omega
  | resolve c i nameHost rest ctx label hc hctx hinstance =>
    refine work_move hc rfl ?_
    change (s.remember i ctx nameHost).work + _ < _
    simp [work_remember hctx nameHost, Callback.work, Phase.work]
  | start c i records request ctx result hc hstart =>
    refine work_move hc rfl ?_
    simp [work_start hstart, Callback.work, Phase.work]
    omega
  | refuse c i records request err result hc hstart =>
    exact work_move hc rfl (by simp [Callback.work, Phase.work])
  | push c i records child hc => exact work_move hc rfl (by simp [work, Callback.work, Phase.work])
  | lastArc c i records hc hlast =>
    exact work_move hc rfl (by simp [work, Callback.work, Phase.work])
  | release c i records hc hstrong => exact work_move hc rfl (by simp [Callback.work, Phase.work])
  | leave c i hc => exact work_move hc rfl (by simp [Callback.work, Phase.work])
  | pushRoot hrooted =>
    simp only [work, hrooted, Label.goesOn, Label.credit, Bool.not_true, Bool.not_false,
      Bool.toNat_true, Bool.toNat_false]
    omega
  | lastGuard hguard hrooted hlast => simp [work, hguard, Label.goesOn, Label.credit]
  | dropGuard hguard hrooted hstrong => simp [work, hguard, Label.goesOn, Label.credit]
  | cancel | free | cancelInside | freeInside => exact (work_dropEntries hp h).le
  | dropped c i records hc => exact work_move hc rfl (by simp [Callback.work, Phase.work])

/-! ## That nothing waits forever -/

/-- A callback between two records can go on. -/
theorem exists_step_walking {records : List Record}
    (hc : s.callbacks[c]? = some ⟨i, records, .walking⟩) (hi : i < s.contexts.length) :
    ∃ l : Label, l.goesOn = true ∧ step s l ≠ none := by
  cases records with
  | nil => exact ⟨.leave c, rfl, by simp [step, hc]⟩
  | cons r rest =>
    refine ⟨.handleRecord c, rfl, ?_⟩
    cases r with
    | other => simp [step, hc, handleRecord]
    | ptr nameHost => simp [step, hc, handleRecord, List.getElem?_eq_getElem hi]

/-- Callbacks of child browses have all returned: they wait for nobody. -/
theorem not_isRunning_child (hb : Base s) (ha : Anchored s) (hrest : Rests step Label.goesOn s)
    {e : Nat} (he : e ≠ 0) : s.isRunning e = false := by
  by_contra hrunning
  rw [Bool.not_eq_false, isRunning, List.any_eq_true] at hrunning
  obtain ⟨⟨i, records, phase⟩, hcb, hrun⟩ := hrunning
  have hphase : i = e ∧ phase ≠ .returned := by simpa [Callback.isRunning] using hrun
  obtain ⟨rfl, hphase⟩ := hphase
  obtain ⟨c, hc⟩ := List.mem_iff_getElem?.mp hcb
  obtain rfl : phase = .walking := by
    cases phase with
    | walking => rfl
    | returned => exact absurd rfl hphase
    | dropping es => exact absurd (hb.dropper _ hcb es rfl) he
    | upgraded | pushing | releasing => exact absurd (hb.holder _ hcb rfl) he
  obtain ⟨l, hl, hstep⟩ := exists_step_walking hc (ha.known _ hcb)
  exact hstep (hrest l hl)

/-- **At rest every callback has returned.** -/
theorem returned_of_rests (hb : Base s) (ha : Anchored s) (hrest : Rests step Label.goesOn s) :
    ∀ cb ∈ s.callbacks, cb.phase = .returned := by
  rintro ⟨i, records, phase⟩ hcb
  obtain ⟨c, hc⟩ := List.mem_iff_getElem?.mp hcb
  cases phase with
  | returned => rfl
  | walking =>
    obtain ⟨l, hl, hstep⟩ := exists_step_walking hc (ha.known _ hcb)
    exact absurd (hrest l hl) hstep
  | upgraded request =>
    refine absurd (hrest (.startBrowse c 0) rfl) ?_
    simp only [step, hc]
    split <;> simp
  | pushing child => exact absurd (hrest (.pushEntry c) rfl) (by simp [step, hc])
  | releasing =>
    refine absurd (hrest (.dropArc c) rfl) ?_
    simp only [step, hc]
    split <;> simp
  | dropping entries =>
    cases entries with
    | nil => exact absurd (hrest (.dropped c) rfl) (by simp [step, hc])
    | cons e rest =>
      -- the cancel waits for callbacks of children only
      have hroot : i = 0 := hb.dropper _ hcb _ rfl
      have hwait : some i = some e ∨ s.isRunning e = false := by
        by_cases he : e = 0
        · exact .inl (by rw [hroot, he])
        · exact .inr (not_isRunning_child hb ha hrest he)
      refine absurd (hrest (.dropEntry (some c)) rfl) ?_
      simp only [step, hc, dropEntry, if_pos hwait]
      split <;> simp

/-- **At rest the browse is gone**: the guard was dropped, and no `Box` is left. -/
theorem places_of_rests (hb : Base s) (ha : Anchored s) (hrest : Rests step Label.goesOn s) :
    s.guard = false ∧ s.places = [] := by
  have hreturned := returned_of_rests hb ha hrest
  have hrooted : s.rooted = true := by
    by_contra hrooted
    exact absurd (hrest .pushRoot rfl) (by simp [step, hrooted])
  have hguard : s.guard = false := by
    by_contra hguard
    refine absurd (hrest .dropGuard rfl) ?_
    rw [Bool.not_eq_false] at hguard
    simp only [step, hguard, hrooted, and_self, if_true]
    split <;> simp
  have hnone : s.strong = 0 := by
    refine strong_eq_zero_iff.mpr ⟨hguard, ?_⟩
    rintro ⟨cb, hcb, hholds⟩
    rw [hreturned cb hcb] at hholds
    cases hholds
  have hdropping : s.dropping = [] := by
    cases hd : s.dropping with
    | nil => rfl
    | cons e rest =>
      have hidle : s.isRunning e = false := by
        rw [isRunning, List.any_eq_false]
        intro cb hcb
        simp [Callback.isRunning, hreturned cb hcb]
      refine absurd (hrest (.dropEntry none) rfl) ?_
      simp only [step, hd, dropEntry, hidle, or_true, if_true]
      split <;> simp
  have howned : s.callbacks.flatMap (·.phase.owned) = [] := by
    rw [List.flatMap_eq_nil_iff]
    intro cb hcb
    rw [hreturned cb hcb]
    rfl
  refine ⟨hguard, ?_⟩
  simp [places, hrooted, ha.entries hnone, hdropping, howned]

/-- Where the callbacks have returned and nothing is left to be dropped, the browse is
at rest. -/
theorem rests_of_returned (hguard : s.guard = false) (hrooted : s.rooted = true)
    (hdropping : s.dropping = []) (hreturned : ∀ cb ∈ s.callbacks, cb.phase = .returned) :
    Rests step Label.goesOn s := by
  have hphase : ∀ {c i : Nat} {records : List Record} {phase : Phase},
      s.callbacks[c]? = some ⟨i, records, phase⟩ → phase = .returned :=
    fun hc => hreturned _ (List.mem_of_getElem? hc)
  intro l hl
  cases l with
  | enter => cases hl
  | pushRoot => simp [step, hrooted]
  | dropGuard => simp [step, hguard]
  | dropEntry thread =>
    cases thread with
    | none => simp [step, hdropping]
    | some c =>
      simp only [step]
      split
      · rename_i hc
        cases hphase hc
      · rfl
  | handleRecord c | startBrowse c result | pushEntry c | dropArc c | leave c | dropped c =>
    simp only [step]
    split
    · rename_i hc
      cases hphase hc
    · rfl

/-- At rest no callback starts either. -/
theorem step_eq_none_of_rests (hb : Base s) (hp : Placed s) (hplaces : s.places = [])
    (hrest : Rests step Label.goesOn s) (l : Label) : step s l = none := by
  cases l with
  | enter i status records =>
    refine if_neg ?_
    rintro ⟨hlive, hi⟩
    have hfreed : s.isFreed i = true := by
      by_contra hunfreed
      have hplace : i ∈ s.places := by
        refine (mem_places_iff hp).mpr ⟨_, by rw [flags, List.getElem?_eq_getElem hi]; rfl, ?_⟩
        simpa [isFreed, List.getElem?_eq_getElem hi] using hunfreed
      rw [hplaces] at hplace
      cases hplace
    cases hlive.symm.trans (base_isFreed hb hfreed)
  | handleRecord | startBrowse | pushEntry | dropArc | leave | pushRoot | dropGuard | dropEntry |
    dropped => exact hrest _ rfl

end

end Backend

open Backend

theorem Label.credit_of_goesOn {l : Label} (h : l.goesOn = true) : l.credit = 0 := by
  cases l with
  | enter => cases h
  | handleRecord | startBrowse | pushEntry | dropArc | leave | pushRoot | dropGuard | dropEntry |
    dropped => rfl

theorem work_start_le (root : BrowseContext) : (Backend.start root).work ≤ 4 := by
  have hcancelled := Bool.toNat_le (!root.cancelled)
  have hfreed := Bool.toNat_le (!root.freed)
  simp only [Backend.start, work, BrowseContext.work, List.map_cons, List.map_nil, List.sum_cons,
    List.sum_nil, Bool.not_false, Bool.toNat_true]
  omega

/-- At rest everything was done with every context. -/
theorem lifecycle_of_rests {s : Backend} {i : Nat} (hb : Base s) (hp : Placed s)
    (hplaces : s.places = []) (hi : i < s.contexts.length) :
    lifecycle i (s.flags i) = [.browse i, .cancel i, .free i] := by
  obtain ⟨f, hf⟩ : ∃ f, s.flags i = some f := ⟨_, by rw [flags, List.getElem?_eq_getElem hi]; rfl⟩
  have hfreed : f.freed = true := by
    by_contra hunfreed
    have hplace : i ∈ s.places := (mem_places_iff hp).mpr ⟨f, hf, by simpa using hunfreed⟩
    rw [hplaces] at hplace
    cases hplace
  simp [hf, lifecycle, hfreed, hb.freed i f hf hfreed]

/-- **The teardown ends, and leaves nothing behind.**  The steps are bounded by the
callbacks and their records; every run can be brought to rest; and at rest the guard
is gone, every callback has returned, every context was browsed, cancelled and freed,
and nothing happens any more. -/
theorem teardown_ends (serviceType domain : Option String) (interfaceIndex : Option NonZeroU32)
    (result : Int32) {root : BrowseContext}
    (hroot : startBrowse (browseStart serviceType domain interfaceIndex) result = .ok root)
    (labels : List Label) {s : Backend} (h : run Backend.step (.start root) labels = some s) :
    let made := .browse 0 :: outputs Backend.step calls (.start root) labels
    labels.countP Label.goesOn + s.work ≤ 4 + (labels.map Label.credit).sum ∧
    (∃ more t, (∀ l ∈ more, l.goesOn = true) ∧ run Backend.step s more = some t ∧
      Rests Backend.step Label.goesOn t) ∧
    (Rests Backend.step Label.goesOn s →
      s.guard = false ∧ (∀ cb ∈ s.callbacks, cb.phase = .returned) ∧
      (∀ i < s.contexts.length,
        made.filter (·.ctx = i) = [.browse i, .cancel i, .free i]) ∧
      ∀ l, Backend.step s l = none) := by
  have hinv : ∀ t l u, Intact t → Backend.step t l = some u → Intact u :=
    fun t l u ht hstep => intact_step ht hstep
  have hwork : ∀ t l u, Intact t → Backend.step t l = some u →
      work u + l.goesOn.toNat ≤ work t + l.credit :=
    fun t l u ht hstep => work_step ht.placed hstep
  have hless : ∀ t l u, Intact t → l.goesOn = true → Backend.step t l = some u →
      work u < work t := by
    intro t l u ht hl hstep
    have hstep := hwork t l u ht hstep
    rw [hl, Label.credit_of_goesOn hl] at hstep
    exact hstep
  have hintact := intact_run hroot h
  refine ⟨?_, exists_rest hinv hless hintact, fun hrest => ?_⟩
  · have hbound := countP_add_work_le hinv hwork (intact_start hroot) h
    have hstart := work_start_le root
    omega
  · obtain ⟨hb, -, hp, -, ha⟩ := hintact
    obtain ⟨hguard, hplaces⟩ := places_of_rests hb ha hrest
    refine ⟨hguard, returned_of_rests hb ha hrest, fun i hi => ?_,
      step_eq_none_of_rests hb hp hplaces hrest⟩
    rw [traced_run hroot h i]
    exact lifecycle_of_rests hb hp hplaces hi

/-- A browse with one child whose guard is dropped during the callback of the root. -/
def callbackLabels : List Label :=
  [.pushRoot, .enter 0 0 [.ptr "_ipp._tcp.local."], .handleRecord 0,
    .startBrowse 0 dnsRequestPending, .pushEntry 0, .dropArc 0, .dropGuard]

/-- The callback returns, and both contexts are cancelled and freed. -/
def restLabels : List Label :=
  [.leave 0, .dropEntry none, .dropEntry none, .dropEntry none, .dropEntry none]

theorem teardown_ends_example :
    (∃ s, run Backend.step (.start metaRoot) callbackLabels = some s ∧ s.guard = false ∧
      s.isRunning 0 = true ∧
      ∃ more t, (∀ l ∈ more, l.goesOn = true) ∧ run Backend.step s more = some t ∧
        Rests Backend.step Label.goesOn t) ∧
    ∃ s, run Backend.step (.start metaRoot) (callbackLabels ++ restLabels) = some s ∧
      (∀ cb ∈ s.callbacks, cb.phase = .returned) ∧
      (∀ i < 2, (.browse 0 :: outputs Backend.step calls (.start metaRoot)
        (callbackLabels ++ restLabels)).filter (·.ctx = i) = [.browse i, .cancel i, .free i]) ∧
      ∀ l, Backend.step s l = none := by
  constructor
  · obtain ⟨s, hrun, hguard, hrunning⟩ :
        ∃ s, run Backend.step (.start metaRoot) callbackLabels = some s ∧ s.guard = false ∧
          s.isRunning 0 = true :=
      ⟨_, rfl, rfl, rfl⟩
    exact ⟨s, hrun, hguard, hrunning,
      (teardown_ends none none none dnsRequestPending startBrowse_metaRoot _ hrun).2.1⟩
  · obtain ⟨s, hrun, hcontexts, hrest⟩ :
        ∃ s, run Backend.step (.start metaRoot) (callbackLabels ++ restLabels) = some s ∧
          s.contexts.length = 2 ∧ Rests Backend.step Label.goesOn s := by
      refine ⟨_, rfl, rfl, rests_of_returned rfl rfl rfl ?_⟩
      rintro cb hcb
      cases List.mem_singleton.mp hcb
      rfl
    have hends := (teardown_ends none none none dnsRequestPending startBrowse_metaRoot _ hrun).2.2
      hrest
    rw [hcontexts] at hends
    exact ⟨s, hrun, hends.2⟩

end MdnsSdDiscovery.Windows
