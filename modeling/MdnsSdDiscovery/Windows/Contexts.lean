import MdnsSdDiscovery.Windows.Ownership

/-!
# Contexts and their callbacks

A `browse_callback` reads its context until it returns, so the context must not
be freed before (`Safe`).  It is not, as long as the guard is not dropped while a
`handle_ptr` holds the registry: then the guard's thread is the one that drops
the entries, and its cancels wait (`Sound`).  Otherwise the last `Arc` is dropped
inside a callback of the root browse, whose cancel does not wait for it
(`Doomed`).
-/

namespace MdnsSdDiscovery.Windows

open Runs Slots

namespace Backend

/-- No running callback has a freed context. -/
def Safe (s : Backend) : Prop :=
  ∀ cb ∈ s.callbacks, cb.isRunning = true → s.isFreed cb.ctx = false

instance (s : Backend) : Decidable (Safe s) :=
  inferInstanceAs (Decidable (∀ cb ∈ s.callbacks, cb.isRunning = true → s.isFreed cb.ctx = false))

section
variable {s s' : Backend} {l : Label} {c i : Nat}

/-! ## When nobody holds an `Arc` as the guard is dropped -/

/-- The guard outlives the other holders of an `Arc`, so that no callback drops
the entries. -/
structure Sound (s : Backend) : Prop where
  released : s.guard = false → ¬ s.Held
  undropped : ∀ cb ∈ s.callbacks, ∀ es, cb.phase ≠ .dropping es
  safe : Safe s

theorem sound_start (ctx : BrowseContext) : Sound (start ctx) where
  released := by rintro ⟨⟩
  undropped := by rintro cb ⟨⟩
  safe := by rintro cb ⟨⟩

theorem move_running {phase phase' : Phase} (h : Move s s' i phase phase') :
    phase ≠ .returned := by
  cases h <;> rintro ⟨⟩

/-- A guard that is gone was dropped, while an `Arc` was held or as the last one. -/
theorem effect_unguard (h : Effect s l s') (hguard : s.guard = true) (hguard' : s'.guard = false) :
    (l = .dropGuard ∧ s.Held) ∨ s'.strong = 0 := by
  have hkept : s'.guard ≠ s.guard := by simp [hguard, hguard']
  cases h with
  | dropGuard hl hguard hrooted hguard' hrooted' hheld => exact .inl ⟨hl, hheld⟩
  | lastGuard hguard hguard' hheld hdropping hflags hcallbacks =>
    exact .inr (strong_lastGuard hguard' hheld hcallbacks)
  | enter i records hlive howner => exact absurd howner.1 hkept
  | move c i records records' phase phase' hc hmove howner => exact absurd howner.1 hkept
  | lastArc c i records hc howner => exact absurd howner.1 hkept
  | pushRoot hsame => exact absurd hsame hkept
  | cancel e howner => exact absurd howner.1 hkept
  | free e hcancelled hidle hsame => exact absurd hsame hkept
  | freeInside c i records e rest hc hcancelled howner => exact absurd howner.1 hkept

theorem released_step (hs : Sound s) (hdrop : l = .dropGuard → ¬ s.Held) (h : Effect s l s')
    (hguard' : s'.guard = false) : ¬ s'.Held := by
  intro hheld'
  have hguard : s.guard = true := by
    rcases strong_pos_iff.mp (effect_held h hheld') with hguard | hheld
    · exact hguard
    · by_contra hgone
      exact hs.released (by simpa using hgone) hheld
  rcases effect_unguard h hguard hguard' with ⟨hl, hheld⟩ | hnone
  · exact hdrop hl hheld
  · exact (strong_eq_zero_iff.mp hnone).2 hheld'

theorem safe_step (hb : Base s) (hs : Sound s) (h : Effect s l s') : Safe s' := by
  intro cb hcb hrunning
  cases h with
  | enter i records hlive howner hentries hflags hcallbacks =>
    rw [isFreed_congr hflags]
    rw [hcallbacks] at hcb
    rcases List.mem_append.mp hcb with hold | hnew
    · exact hs.safe cb hold hrunning
    · -- a context that is not cancelled is not freed
      obtain rfl := List.mem_singleton.mp hnew
      by_contra hfreed
      cases hlive.symm.trans (base_isFreed hb (by simpa using hfreed))
  | move c i records records' phase phase' hc hmove howner hentries hflags hcallbacks =>
    rw [isFreed_kept hflags]
    rw [hcallbacks] at hcb
    rcases List.mem_or_eq_of_mem_set hcb with hold | rfl
    · exact hs.safe cb hold hrunning
    · exact hs.safe ⟨i, records, phase⟩ (List.mem_of_getElem? hc)
        (by simpa [Callback.isRunning] using move_running hmove)
  | lastArc c i records hc howner hstrong =>
    -- its guard was dropped before, while it held its `Arc`
    refine absurd ⟨_, List.mem_of_getElem? hc, rfl⟩ (hs.released ?_)
    exact howner.1 ▸ (strong_eq_zero_iff.mp hstrong).1
  | pushRoot hguard hdropping hentries hflags hcallbacks =>
    rw [isFreed_congr hflags]
    exact hs.safe cb (hcallbacks ▸ hcb) hrunning
  | dropGuard hl hguard hrooted hguard' hrooted' hheld hdropping hentries hflags hcallbacks =>
    rw [isFreed_congr hflags]
    exact hs.safe cb (hcallbacks ▸ hcb) hrunning
  | lastGuard hguard hguard' hheld hdropping hflags hcallbacks =>
    rw [isFreed_congr hflags]
    exact hs.safe cb (hcallbacks ▸ hcb) hrunning
  | cancel e howner hentries hflags hcallbacks =>
    rw [isFreed_cancel hflags]
    exact hs.safe cb (hcallbacks ▸ hcb) hrunning
  | free e hcancelled hidle hguard hrooted hentries hflags hdropping hcallbacks =>
    rw [hcallbacks] at hcb
    -- the cancel has waited for the callbacks of `e`
    have he : e ≠ cb.ctx := by
      rintro rfl
      have hrun : s.isRunning cb.ctx = true :=
        List.any_eq_true.mpr ⟨cb, hcb, by simpa using hrunning⟩
      cases hidle.symm.trans hrun
    rw [isFreed_free hflags he]
    exact hs.safe cb hcb hrunning
  | freeInside c i records e rest hc =>
    exact absurd rfl (hs.undropped _ (List.mem_of_getElem? hc) (e :: rest))

theorem sound_step (hb : Base s) (hs : Sound s) (hdrop : l = .dropGuard → ¬ s.Held)
    (h : Effect s l s') : Sound s' where
  released := released_step hs hdrop h
  undropped := by
    intro cb hcb es hes
    rcases effect_callback h hcb with hold | ⟨hphase, -⟩ |
      ⟨old, hold, -, hmove | ⟨hphase, -, hguard, -⟩ | ⟨e, rest, hphase, -⟩⟩
    · exact hs.undropped cb hold es hes
    · cases hphase.symm.trans hes
    · exact move_not_dropping hmove es hes
    · exact hs.released hguard ⟨old, hold, hphase ▸ rfl⟩
    · exact hs.undropped old hold _ hphase
  safe := safe_step hb hs h

/-! ## When somebody does -/

/-- A callback of the root has still to drop the entry of the root. -/
def DropsRoot (s : Backend) : Prop :=
  ∃ cb ∈ s.callbacks, cb.ctx = 0 ∧ ∃ es, cb.phase = .dropping es ∧ 0 ∈ es

/-- The context of the root can only be freed by one of its own callbacks. -/
structure Doomed (s : Backend) : Prop where
  guard : s.guard = false
  dropping : s.dropping = []
  unfreed : s.isFreed 0 = false
  way : (s.Held ∧ 0 ∈ s.entries) ∨ DropsRoot s

/-- A callback that has something to do with an `Arc` keeps it, or drops it and
leaves another holder. -/
theorem held_move {phase phase' : Phase} {records records' : List Record}
    (hguard : s'.guard = false) (hc : s.callbacks[c]? = some ⟨i, records, phase⟩)
    (hmove : Move s s' i phase phase')
    (hcallbacks : s'.callbacks = s.callbacks.set c ⟨i, records', phase'⟩) (hheld : s.Held) :
    s'.Held := by
  obtain ⟨cb, hcb, hholds⟩ := hheld
  by_cases heq : cb = ⟨i, records, phase⟩
  · subst heq
    have hkept : phase'.holds = true → s'.Held := fun h => ⟨_, hcallbacks ▸ mem_set_self hc _, h⟩
    cases hmove with
    | release hstrong =>
      by_contra hnone
      exact hstrong (strong_eq_zero_iff.mpr ⟨hguard, hnone⟩)
    | start | refuse | push => exact hkept rfl
    | walk | upgrade | leave | dropped => cases hholds
  · exact ⟨cb, hcallbacks ▸ mem_set_of_ne hc hcb heq, hholds⟩

theorem dropsRoot_move {phase phase' : Phase} {records records' : List Record}
    (hc : s.callbacks[c]? = some ⟨i, records, phase⟩) (hmove : Move s s' i phase phase')
    (hcallbacks : s'.callbacks = s.callbacks.set c ⟨i, records', phase'⟩) (hdrops : DropsRoot s) :
    DropsRoot s' := by
  obtain ⟨cb, hcb, hctx, es, hphase, hes⟩ := hdrops
  refine ⟨cb, hcallbacks ▸ mem_set_of_ne hc hcb ?_, hctx, es, hphase, hes⟩
  -- the drop of an entry is no move
  rintro rfl
  obtain rfl : phase = .dropping es := hphase
  cases hmove
  cases hes

/-- **The context of the root stays in its place until a callback frees it under
its own feet.** -/
theorem doomed_step (hb : Base s) (hd : Doomed s) (h : Effect s l s') : Doomed s' ∨ ¬ Safe s' := by
  have hkept : s'.callbacks = s.callbacks → s.entries ⊆ s'.entries →
      (s'.Held ∧ 0 ∈ s'.entries) ∨ DropsRoot s' := by
    intro hcallbacks hentries
    unfold Held DropsRoot
    rw [hcallbacks]
    exact hd.way.imp_left fun ⟨hheld, hroot⟩ => ⟨hheld, hentries hroot⟩
  -- while an `Arc` is held, no callback drops anything
  have hheld : s.Held → ∀ cb ∈ s.callbacks, ∀ es, cb.phase ≠ .dropping es :=
    fun hheld => (hb.undropped (strong_pos_iff.mpr (.inr hheld))).2.1
  cases h with
  | enter i records hlive howner hentries hflags hcallbacks =>
    refine .inl ⟨howner.1 ▸ hd.guard, howner.2.2 ▸ hd.dropping,
      (isFreed_congr hflags 0).trans hd.unfreed, ?_⟩
    unfold Held DropsRoot
    rw [hcallbacks, hentries]
    rcases hd.way with ⟨⟨cb, hcb, hholds⟩, hroot⟩ | ⟨cb, hcb, hdrops⟩
    · exact .inl ⟨⟨cb, List.mem_append_left _ hcb, hholds⟩, hroot⟩
    · exact .inr ⟨cb, List.mem_append_left _ hcb, hdrops⟩
  | move c i records records' phase phase' hc hmove howner hentries hflags hcallbacks =>
    have hguard : s'.guard = false := howner.1 ▸ hd.guard
    refine .inl ⟨hguard, howner.2.2 ▸ hd.dropping, (isFreed_kept hflags 0).trans hd.unfreed, ?_⟩
    rcases hd.way with ⟨hheld, hroot⟩ | hdrops
    · exact .inl ⟨held_move hguard hc hmove hcallbacks hheld, hentries hroot⟩
    · exact .inr (dropsRoot_move hc hmove hcallbacks hdrops)
  | lastArc c i records hc howner hstrong hflags hcallbacks =>
    refine .inl ⟨howner.1 ▸ hd.guard, howner.2.2 ▸ hd.dropping,
      (isFreed_congr hflags 0).trans hd.unfreed, .inr ?_⟩
    have hcb := List.mem_of_getElem? hc
    rcases hd.way with ⟨-, hroot⟩ | ⟨cb, hcb', -, es, hphase, -⟩
    · have hctx : i = 0 := hb.holder _ hcb rfl
      have hnew := mem_set_self hc ⟨i, records, .dropping s.entries⟩
      exact ⟨_, hcallbacks ▸ hnew, hctx, s.entries, rfl, hroot⟩
    · exact absurd hphase (hheld ⟨_, hcb, rfl⟩ cb hcb' es)
  | pushRoot hguard hdropping hentries hflags hcallbacks =>
    exact .inl ⟨hguard ▸ hd.guard, hdropping ▸ hd.dropping,
      (isFreed_congr hflags 0).trans hd.unfreed,
      hkept hcallbacks (hentries ▸ List.subset_append_left _ _)⟩
  | dropGuard hl hguard => cases hguard.symm.trans hd.guard
  | lastGuard hguard => cases hguard.symm.trans hd.guard
  | cancel e howner hentries hflags hcallbacks =>
    exact .inl ⟨howner.1 ▸ hd.guard, howner.2.2 ▸ hd.dropping,
      (isFreed_cancel hflags 0).trans hd.unfreed, hkept hcallbacks (hentries ▸ List.Subset.refl _)⟩
  | free e hcancelled hidle hguard hrooted hentries hflags hpopped =>
    cases hd.dropping.symm.trans hpopped
  | freeInside c i records e rest hc hcancelled howner hentries hflags hcallbacks =>
    have hcb := List.mem_of_getElem? hc
    have hnew := mem_set_self hc ⟨i, records, .dropping rest⟩
    by_cases he : e = 0
    · -- the callback goes on after it has freed its own context
      right
      intro hsafe
      have hctx : i = 0 := hb.dropper _ hcb _ rfl
      have hunfreed : s'.isFreed i = false := hsafe _ (hcallbacks ▸ hnew) rfl
      rw [hctx, isFreed_freed he hcancelled hflags] at hunfreed
      cases hunfreed
    · refine .inl ⟨howner.1 ▸ hd.guard, howner.2.2 ▸ hd.dropping,
        (isFreed_free hflags he).trans hd.unfreed, .inr ?_⟩
      rcases hd.way with ⟨hholder, -⟩ | ⟨cb, hcb', hctx, es, hphase, hes⟩
      · exact absurd rfl (hheld hholder _ hcb (e :: rest))
      · by_cases heq : cb = ⟨i, records, .dropping (e :: rest)⟩
        · subst heq
          obtain rfl : e :: rest = es := Phase.dropping.inj hphase
          exact ⟨⟨i, records, .dropping rest⟩, hcallbacks ▸ hnew, hctx, rest, rfl,
            (List.mem_cons.mp hes).resolve_left (Ne.symm he)⟩
        · exact ⟨cb, hcallbacks ▸ mem_set_of_ne hc hcb' heq, hctx, es, hphase, hes⟩

/-- The guard is dropped only while no `handle_ptr` holds an `Arc`. -/
def DropsAlone (s : Backend) (l : Label) : Prop := l = .dropGuard → ¬ s.Held

theorem doomed_dropGuard (hb : Base s) (hheld : s.Held) (h : step s .dropGuard = some s') :
    Doomed s' := by
  have hstrong : 0 < s.strong := strong_pos_iff.mpr (.inr hheld)
  obtain ⟨hdropping, -, hunfreed⟩ := hb.undropped hstrong
  by_cases hg : s.guard = true ∧ s.rooted = true
  · have hlast : ({ s with guard := false } : Backend).strong ≠ 0 :=
      fun hnone => (strong_eq_zero_iff.mp hnone).2 hheld
    cases (if_neg hlast).symm.trans ((if_pos hg).symm.trans h)
    exact ⟨rfl, hdropping, hunfreed 0, .inl ⟨hheld, hb.root hstrong hg.2⟩⟩
  · cases (if_neg hg).symm.trans h

/-- A run that goes on from a doomed state frees the root under a callback, or
not at all. -/
theorem doomed_run {labels : List Label} (hb : Base s) (hd : Doomed s)
    (h : run step s labels = some s')
    (hsafe : ∀ pre u, pre <+: labels → run step s pre = some u → Safe u) : Doomed s' := by
  induction labels generalizing s with
  | nil =>
    cases h
    exact hd
  | cons l labels ih =>
    obtain ⟨t, ht, hrest⟩ := Option.bind_eq_some_iff.mp h
    have heffect := step_effect ht
    have htsafe : Safe t := hsafe [l] t (by simp) (by simp [ht])
    have htdoomed := (doomed_step hb hd heffect).resolve_right (not_not_intro htsafe)
    refine ih (base_step hb heffect) htdoomed hrest ?_
    intro pre u hpre hu
    exact hsafe (l :: pre) u (List.cons_prefix_cons.mpr ⟨rfl, hpre⟩) (by simp [ht, hu])

end

end Backend

open Backend

section
variable {serviceType domain : Option String} {interfaceIndex : Option NonZeroU32} {result : Int32}
  {root : BrowseContext} {labels : List Label} {s : Backend}

/-- What every run keeps. -/
theorem base_run
    (hroot : startBrowse (browseStart serviceType domain interfaceIndex) result = .ok root)
    (h : run Backend.step (.start root) labels = some s) : Base s :=
  run_invariant (fun _ _ _ hb hstep => base_step hb (step_effect hstep)) (base_start hroot) h

end

/-- **Callbacks have their contexts as long as the guard is dropped while no
`handle_ptr` holds the registry, and in no other run that frees the root.** -/
theorem safe_iff (serviceType domain : Option String) (interfaceIndex : Option NonZeroU32)
    (result : Int32) {root : BrowseContext}
    (hroot : startBrowse (browseStart serviceType domain interfaceIndex) result = .ok root)
    (labels : List Label) {s : Backend} (h : run Backend.step (.start root) labels = some s) :
    ((∀ pre l u, pre ++ [l] <+: labels → run Backend.step (.start root) pre = some u →
        DropsAlone u l) →
      ∀ pre u, pre <+: labels → run Backend.step (.start root) pre = some u → Safe u) ∧
    (s.isFreed 0 = true →
      (∀ pre u, pre <+: labels → run Backend.step (.start root) pre = some u → Safe u) →
      ∀ pre l u, pre ++ [l] <+: labels → run Backend.step (.start root) pre = some u →
        DropsAlone u l) := by
  constructor
  · intro halone pre u hpre hu
    have hsound : Base u ∧ Sound u := by
      refine run_guarded (P := fun _ t => Base t ∧ Sound t) (G := fun _ t l => DropsAlone t l)
        ⟨base_start hroot, sound_start root⟩ ?_ hu ?_
      · rintro _ t l t' ⟨hb, hs⟩ hl hstep
        have heffect := step_effect hstep
        exact ⟨base_step hb heffect, sound_step hb hs hl heffect⟩
      · rintro pre' l post t rfl ht
        refine halone pre' l t (List.IsPrefix.trans ?_ hpre) ht
        exact ⟨post, by simp⟩
    exact hsound.2.safe
  · rintro hfreed hsafe pre l u ⟨post, rfl⟩ hu rfl hheld
    obtain ⟨u', hstep, hu'⟩ := run_prefix_snoc h (List.prefix_append _ _) hu
    have hb := base_run hroot hu
    have hpost : run Backend.step u' post = some s := by
      simpa [run_append, hu, hstep] using h
    have hd : Doomed s := by
      refine doomed_run (base_run hroot hu') (doomed_dropGuard hb hheld hstep) hpost ?_
      rintro more v ⟨post', rfl⟩ hv
      exact hsafe _ v ⟨post', by simp⟩ (run_trans hu' hv)
    cases hd.unfreed.symm.trans hfreed

/-- The context of a browse for all types in `local`. -/
def metaRoot : BrowseContext where
  isMeta := true
  interface := 0
  serviceType := metaQueryType
  domain := defaultDomain

theorem startBrowse_metaRoot :
    startBrowse (browseStart none none none) dnsRequestPending = .ok metaRoot := by
  decide +kernel

/-- The guard is dropped while `handle_ptr` starts a child: the callback frees its
own context, then goes on to the next record. -/
theorem freed_in_callback :
    startBrowse (browseStart none none none) dnsRequestPending = .ok metaRoot ∧
    ∃ s, run Backend.step (.start metaRoot)
        [.pushRoot, .enter 0 0 [.ptr "_ipp._tcp.local.", .ptr "_http._tcp.local."],
          .handleRecord 0, .dropGuard, .startBrowse 0 dnsRequestPending, .pushEntry 0, .dropArc 0,
          .dropEntry (some 0), .dropEntry (some 0), .dropEntry (some 0), .dropEntry (some 0),
          .dropped 0] = some s ∧
      s.callbacks = [⟨0, [.ptr "_http._tcp.local."], .walking⟩] ∧ s.isFreed 0 = true ∧
      ¬ Safe s := by
  refine ⟨startBrowse_metaRoot, _, rfl, rfl, rfl, ?_⟩
  intro h
  cases h _ (List.mem_singleton_self _) rfl

/-- The guard is dropped after `handle_ptr`: its thread cancels and frees. -/
theorem safe_iff_example :
    ∃ s, run Backend.step (.start metaRoot)
        [.pushRoot, .enter 0 0 [.ptr "_ipp._tcp.local."], .handleRecord 0,
          .startBrowse 0 dnsRequestPending, .pushEntry 0, .dropArc 0, .dropGuard, .leave 0,
          .dropEntry none, .dropEntry none] = some s ∧ s.isFreed 0 = true ∧ Safe s := by
  let labels : List Label := [.pushRoot, .enter 0 0 [.ptr "_ipp._tcp.local."], .handleRecord 0,
    .startBrowse 0 dnsRequestPending, .pushEntry 0, .dropArc 0, .dropGuard, .leave 0,
    .dropEntry none, .dropEntry none]
  have hother : ∀ {l : Label} {u : Backend}, l ≠ .dropGuard → DropsAlone u l :=
    fun hl h => absurd h hl
  have halone : ∀ pre l, pre ++ [l] <+: labels → ∀ u,
      run Backend.step (.start metaRoot) pre = some u → DropsAlone u l := by
    iterate 6 refine forall_prefix_snoc_cons (fun u _ => hother (by decide)) ?_
    refine forall_prefix_snoc_cons ?_ ?_
    · intro u hu _
      have hcallbacks : some u.callbacks = some [⟨0, [], .walking⟩] :=
        (congrArg (Option.map Backend.callbacks) hu).symm
      rw [Held, Option.some.inj hcallbacks]
      decide
    · iterate 3 refine forall_prefix_snoc_cons (fun u _ => hother (by decide)) ?_
      exact forall_prefix_snoc_nil
  refine ⟨_, rfl, rfl, ?_⟩
  exact (safe_iff none none none dnsRequestPending startBrowse_metaRoot labels rfl).1
    (fun pre l u hpre hu => halone pre l hpre u hu) labels _ List.prefix_rfl rfl

end MdnsSdDiscovery.Windows
