import MdnsSdDiscovery.Windows.Registry

/-!
# Who holds the registry

What a step makes of the callbacks, the strong count and the flags of a context,
and what holds in every run (`Base`): only callbacks of the root browse hold an
`Arc`, and nothing is freed while somebody holds one.
-/

namespace MdnsSdDiscovery.Windows

namespace Backend

section
variable {s s' : Backend} {l : Label} {i j : Nat}

theorem isFreed_eq (s : Backend) (j : Nat) : s.isFreed j = (s.flags j).any (·.freed) := by
  unfold isFreed flags
  cases s.contexts[j]? <;> rfl

theorem isCancelled_eq (s : Backend) (j : Nat) :
    s.isCancelled j = (s.flags j).any (·.cancelled) := by
  unfold isCancelled flags
  cases s.contexts[j]? <;> rfl

theorem isFreed_congr (h : s'.flags = s.flags) (j : Nat) : s'.isFreed j = s.isFreed j := by
  rw [isFreed_eq, isFreed_eq, h]

theorem isFreed_kept {phase : Phase} (h : FlagsKept s s' phase) (j : Nat) :
    s'.isFreed j = s.isFreed j := by
  rw [isFreed_eq, isFreed_eq]
  rcases h j with heq | ⟨hnone, hnew⟩
  · rw [heq]
  · rw [hnone, hnew]
    rfl

theorem isFreed_cancel {e : Nat} (h : ∀ j, s'.flags j = (s.flags j).map fun f =>
    if e = j then { f with cancelled := true } else f) (j : Nat) :
    s'.isFreed j = s.isFreed j := by
  rw [isFreed_eq, isFreed_eq, h]
  cases s.flags j with
  | none => rfl
  | some f => by_cases he : e = j <;> simp [he]

theorem isFreed_free {e : Nat} (h : ∀ j, s'.flags j = (s.flags j).map fun f =>
    if e = j then { f with freed := true } else f) (he : e ≠ j) :
    s'.isFreed j = s.isFreed j := by
  rw [isFreed_eq, isFreed_eq, h]
  cases s.flags j with
  | none => rfl
  | some f => simp [he]

theorem isFreed_freed {e : Nat} (he : e = j) (hcancelled : s.isCancelled e = true)
    (hflags : ∀ j, s'.flags j = (s.flags j).map fun f =>
      if e = j then { f with freed := true } else f) : s'.isFreed j = true := by
  subst he
  rw [isCancelled_eq] at hcancelled
  obtain ⟨f, hf, -⟩ := (Option.any_eq_true _ _).mp hcancelled
  rw [isFreed_eq, hflags, hf]
  simp

/-! ## What holds in every run -/

/-- Only callbacks of the root hold an `Arc`, and while somebody holds one
nothing is dropped and the root has its entry. -/
structure Base (s : Backend) : Prop where
  freed : ∀ j f, s.flags j = some f → f.freed = true → f.cancelled = true
  onlyRoot : ∀ j f, s.flags j = some f → f.isMeta = true → j = 0
  holder : ∀ cb ∈ s.callbacks, cb.phase.holds = true → cb.ctx = 0
  dropper : ∀ cb ∈ s.callbacks, ∀ es, cb.phase = .dropping es → cb.ctx = 0
  child : ∀ cb ∈ s.callbacks, cb.phase.startsMeta = false
  root : 0 < s.strong → s.rooted = true → 0 ∈ s.entries
  undropped : 0 < s.strong → s.dropping = [] ∧ (∀ cb ∈ s.callbacks, ∀ es, cb.phase ≠ .dropping es) ∧
    ∀ j, s.isFreed j = false

theorem base_start {request : Request} {result : Int32} {ctx : BrowseContext}
    (h : startBrowse request result = .ok ctx) : Base (start ctx) := by
  obtain ⟨-, -, hctx⟩ := startBrowse_eq_ok.mp h
  have hnone : ∀ j, (start ctx).isFreed j = false := by
    intro j
    cases j with
    | zero => rw [hctx]; rfl
    | succ j => rfl
  exact {
    freed := by
      intro j f hf hfreed'
      have hj := hnone j
      rw [isFreed_eq, hf] at hj
      cases hj.symm.trans hfreed'
    onlyRoot := by
      intro j f hf hmeta
      cases j with
      | zero => rfl
      | succ j => cases hf
    holder := by rintro cb ⟨⟩
    dropper := by rintro cb ⟨⟩
    child := by rintro cb ⟨⟩
    root := by rintro - ⟨⟩
    undropped := fun _ => ⟨rfl, by rintro cb ⟨⟩, hnone⟩ }

/-- Where a callback of the next state comes from. -/
theorem effect_callback (h : Effect s l s') {cb : Callback} (hcb : cb ∈ s'.callbacks) :
    cb ∈ s.callbacks ∨ (cb.phase = .walking ∧ s.isCancelled cb.ctx = false) ∨
    ∃ old ∈ s.callbacks, old.ctx = cb.ctx ∧ (Move s s' cb.ctx old.phase cb.phase ∨
      (old.phase = .releasing ∧ cb.phase = .dropping s.entries ∧ s.guard = false ∧ s'.strong = 0) ∨
      ∃ e rest, old.phase = .dropping (e :: rest) ∧ cb.phase = .dropping rest) := by
  cases h with
  | enter i records hlive howner hentries hflags hcallbacks =>
    rw [hcallbacks] at hcb
    rcases List.mem_append.mp hcb with hold | hnew
    · exact .inl hold
    · obtain rfl := List.mem_singleton.mp hnew
      exact .inr (.inl ⟨rfl, hlive⟩)
  | move c i records records' phase phase' hc hmove howner hentries hflags hcallbacks =>
    rw [hcallbacks] at hcb
    rcases List.mem_or_eq_of_mem_set hcb with hold | rfl
    · exact .inl hold
    · exact .inr (.inr ⟨_, List.mem_of_getElem? hc, rfl, .inl hmove⟩)
  | lastArc c i records hc howner hstrong hflags hcallbacks =>
    rw [hcallbacks] at hcb
    have hguard : s.guard = false := howner.1 ▸ (strong_eq_zero_iff.mp hstrong).1
    rcases List.mem_or_eq_of_mem_set hcb with hold | rfl
    · exact .inl hold
    · exact .inr (.inr ⟨_, List.mem_of_getElem? hc, rfl, .inr (.inl ⟨rfl, rfl, hguard, hstrong⟩)⟩)
  | freeInside c i records e rest hc hcancelled howner hentries hflags hcallbacks =>
    rw [hcallbacks] at hcb
    rcases List.mem_or_eq_of_mem_set hcb with hold | rfl
    · exact .inl hold
    · exact .inr (.inr ⟨_, List.mem_of_getElem? hc, rfl, .inr (.inr ⟨e, rest, rfl, rfl⟩)⟩)
  | pushRoot hguard hdropping hentries hflags hcallbacks => exact .inl (hcallbacks ▸ hcb)
  | dropGuard hl hguard hrooted hguard' hrooted' hheld hdropping hentries hflags hcallbacks =>
    exact .inl (hcallbacks ▸ hcb)
  | lastGuard hguard hguard' hheld hdropping hflags hcallbacks => exact .inl (hcallbacks ▸ hcb)
  | cancel e howner hentries hflags hcallbacks => exact .inl (hcallbacks ▸ hcb)
  | free e hcancelled hidle hguard hrooted hentries hflags hdropping hcallbacks =>
    exact .inl (hcallbacks ▸ hcb)

/-- An `Arc` is got by an upgrade, in a callback of a meta browse. -/
theorem move_holds {phase phase' : Phase} (h : Move s s' i phase phase')
    (hholds : phase'.holds = true) : phase.holds = true ∨
      0 < s.strong ∧ ∃ f, s.flags i = some f ∧ f.isMeta = true := by
  cases h with
  | upgrade request hstrong hmeta hchild => exact .inr ⟨hstrong, hmeta⟩
  | start | refuse | push => exact .inl rfl
  | walk | release | leave | dropped => cases hholds

theorem move_not_dropping {phase phase' : Phase} (h : Move s s' i phase phase') (es : List Nat) :
    phase' ≠ .dropping es := by
  cases h <;> rintro ⟨⟩

theorem move_startsMeta {phase phase' : Phase} (h : Move s s' i phase phase') :
    phase'.startsMeta = false := by
  cases h with
  | upgrade request hstrong hmeta hchild => exact hchild
  | walk | start | refuse | push | release | leave | dropped => rfl

/-- Nobody gets an `Arc` once there is none. -/
theorem effect_held (h : Effect s l s') (hheld : s'.Held) : 0 < s.strong := by
  obtain ⟨cb, hcb, hholds⟩ := hheld
  rcases effect_callback h hcb with hold | ⟨hphase, -⟩ |
    ⟨old, hold, -, hmove | ⟨-, hphase, -⟩ | ⟨e, rest, -, hphase⟩⟩
  · exact strong_pos_iff.mpr (.inr ⟨cb, hold, hholds⟩)
  · cases hphase ▸ hholds
  · rcases move_holds hmove hholds with holdholds | ⟨hstrong, -⟩
    · exact strong_pos_iff.mpr (.inr ⟨old, hold, holdholds⟩)
    · exact hstrong
  · cases hphase ▸ hholds
  · cases hphase ▸ hholds

theorem effect_guard (h : Effect s l s') (hguard : s'.guard = true) : s.guard = true := by
  cases h with
  | enter i records hlive howner => exact howner.1 ▸ hguard
  | move c i records records' phase phase' hc hmove howner => exact howner.1 ▸ hguard
  | lastArc c i records hc howner => exact howner.1 ▸ hguard
  | pushRoot hguard' => exact hguard' ▸ hguard
  | dropGuard hl hold => exact hold
  | lastGuard hold => exact hold
  | cancel e howner => exact howner.1 ▸ hguard
  | free e hcancelled hidle hguard' => exact hguard' ▸ hguard
  | freeInside c i records e rest hc hcancelled howner => exact howner.1 ▸ hguard

theorem strong_lastGuard (hguard : s'.guard = false) (hheld : ¬ s.Held)
    (hcallbacks : s'.callbacks = s.callbacks) : s'.strong = 0 := by
  rw [strong_eq_zero_iff, Held, hcallbacks]
  exact ⟨hguard, hheld⟩

theorem effect_strong (h : Effect s l s') (hstrong : 0 < s'.strong) : 0 < s.strong := by
  rcases strong_pos_iff.mp hstrong with hguard | hheld
  · exact strong_pos_iff.mpr (.inl (effect_guard h hguard))
  · exact effect_held h hheld

/-- What a step makes of the flags of a context: it is cancelled before it is freed. -/
def Later (old f : Flags) : Prop :=
  f.isMeta = old.isMeta ∧ (old.cancelled = true → f.cancelled = true) ∧
    (f.freed = true → old.freed = true ∨ old.cancelled = true)

theorem later_refl (f : Flags) : Later f f := ⟨rfl, id, .inl⟩

theorem later_free {e : Nat} {f : Flags} (hcancelled : s.isCancelled e = true)
    (hflags : ∀ j, s'.flags j = (s.flags j).map fun f =>
      if e = j then { f with freed := true } else f) (hf : s'.flags j = some f) :
    ∃ old, s.flags j = some old ∧ Later old f := by
  obtain ⟨old, hold, rfl⟩ := Option.map_eq_some_iff.mp ((hflags j).symm.trans hf)
  refine ⟨old, hold, ?_⟩
  by_cases he : e = j
  · rw [isCancelled_eq, he, hold] at hcancelled
    rw [if_pos he]
    exact ⟨rfl, id, fun _ => .inr hcancelled⟩
  · rw [if_neg he]
    exact later_refl old

/-- Where the flags of the next state come from. -/
theorem effect_flags (h : Effect s l s') {f : Flags} (hf : s'.flags j = some f) :
    (∃ old, s.flags j = some old ∧ Later old f) ∨
    ∃ cb ∈ s.callbacks, f = ⟨cb.phase.startsMeta, false, false⟩ := by
  have hsame : s'.flags j = s.flags j → ∃ old, s.flags j = some old ∧ Later old f :=
    fun heq => ⟨f, heq ▸ hf, later_refl f⟩
  cases h with
  | enter i records hlive howner hentries hflags => exact .inl (hsame (congrFun hflags j))
  | move c i records records' phase phase' hc hmove howner hentries hflags =>
    rcases hflags j with heq | ⟨-, hnew⟩
    · exact .inl (hsame heq)
    · exact .inr ⟨_, List.mem_of_getElem? hc, Option.some.inj (hf.symm.trans hnew)⟩
  | lastArc c i records hc howner hstrong hflags => exact .inl (hsame (congrFun hflags j))
  | pushRoot hguard hdropping hentries hflags => exact .inl (hsame (congrFun hflags j))
  | dropGuard hl hguard hrooted hguard' hrooted' hheld hdropping hentries hflags =>
    exact .inl (hsame (congrFun hflags j))
  | lastGuard hguard hguard' hheld hdropping hflags => exact .inl (hsame (congrFun hflags j))
  | cancel e howner hentries hflags =>
    obtain ⟨old, hold, rfl⟩ := Option.map_eq_some_iff.mp ((hflags j).symm.trans hf)
    refine .inl ⟨old, hold, ?_⟩
    by_cases he : e = j
    · rw [if_pos he]
      exact ⟨rfl, fun _ => rfl, .inl⟩
    · rw [if_neg he]
      exact later_refl old
  | free e hcancelled hidle hguard hrooted hentries hflags =>
    exact .inl (later_free hcancelled hflags hf)
  | freeInside c i records e rest hc hcancelled howner hentries hflags =>
    exact .inl (later_free hcancelled hflags hf)

theorem base_isFreed (hb : Base s) (hj : s.isFreed j = true) : s.isCancelled j = true := by
  rw [isFreed_eq] at hj
  rw [isCancelled_eq]
  obtain ⟨f, hf, hfreed⟩ := (Option.any_eq_true _ _).mp hj
  exact (Option.any_eq_true _ _).mpr ⟨f, hf, hb.freed j f hf hfreed⟩

theorem freed_step (hb : Base s) (h : Effect s l s') :
    ∀ j f, s'.flags j = some f → f.freed = true → f.cancelled = true := by
  intro j f hf hfreed
  rcases effect_flags h hf with ⟨old, hold, -, hcancelled, hwas⟩ | ⟨cb, -, rfl⟩
  · rcases hwas hfreed with holdfreed | holdcancelled
    · exact hcancelled (hb.freed j old hold holdfreed)
    · exact hcancelled holdcancelled
  · cases hfreed

theorem onlyRoot_step (hb : Base s) (h : Effect s l s') :
    ∀ j f, s'.flags j = some f → f.isMeta = true → j = 0 := by
  intro j f hf hmeta
  rcases effect_flags h hf with ⟨old, hold, hsame, -⟩ | ⟨cb, hcb, rfl⟩
  · exact hb.onlyRoot j old hold (hsame ▸ hmeta)
  · cases (hb.child cb hcb).symm.trans hmeta

theorem holder_step (hb : Base s) (h : Effect s l s') :
    ∀ cb ∈ s'.callbacks, cb.phase.holds = true → cb.ctx = 0 := by
  intro cb hcb hholds
  rcases effect_callback h hcb with hold | ⟨hphase, -⟩ |
    ⟨old, hold, hctx, hmove | ⟨-, hphase, -⟩ | ⟨e, rest, -, hphase⟩⟩
  · exact hb.holder cb hold hholds
  · cases hphase ▸ hholds
  · rcases move_holds hmove hholds with holdholds | ⟨-, f, hf, hmeta⟩
    · exact hctx ▸ hb.holder old hold holdholds
    · exact hb.onlyRoot cb.ctx f hf hmeta
  · cases hphase ▸ hholds
  · cases hphase ▸ hholds

theorem dropper_step (hb : Base s) (h : Effect s l s') :
    ∀ cb ∈ s'.callbacks, ∀ es, cb.phase = .dropping es → cb.ctx = 0 := by
  intro cb hcb es hes
  rcases effect_callback h hcb with hold | ⟨hphase, -⟩ |
    ⟨old, hold, hctx, hmove | ⟨hphase, -, -⟩ | ⟨e, rest, hphase, -⟩⟩
  · exact hb.dropper cb hold es hes
  · cases hphase.symm.trans hes
  · exact absurd hes (move_not_dropping hmove es)
  · exact hctx ▸ hb.holder old hold (hphase ▸ rfl)
  · exact hctx ▸ hb.dropper old hold _ hphase

theorem child_step (hb : Base s) (h : Effect s l s') :
    ∀ cb ∈ s'.callbacks, cb.phase.startsMeta = false := by
  intro cb hcb
  rcases effect_callback h hcb with hold | ⟨hphase, -⟩ |
    ⟨old, -, -, hmove | ⟨-, hphase, -⟩ | ⟨e, rest, -, hphase⟩⟩
  · exact hb.child cb hold
  · rw [hphase]
    rfl
  · exact move_startsMeta hmove
  · rw [hphase]
    rfl
  · rw [hphase]
    rfl

theorem root_step (hb : Base s) (h : Effect s l s') (hstrong' : 0 < s'.strong)
    (hrooted' : s'.rooted = true) : 0 ∈ s'.entries := by
  have hstrong := effect_strong h hstrong'
  have hkept : SameOwner s s' → 0 ∈ s.entries :=
    fun howner => hb.root hstrong (howner.2.1 ▸ hrooted')
  cases h with
  | enter i records hlive howner hentries => exact hentries ▸ hkept howner
  | move c i records records' phase phase' hc hmove howner hentries => exact hentries (hkept howner)
  | lastArc c i records hc howner hnone => exact absurd hnone hstrong'.ne'
  | pushRoot hguard hdropping hentries => simp [hentries]
  | dropGuard hl hguard hrooted hguard' hrooted' hheld hdropping hentries =>
    exact hentries ▸ hb.root hstrong hrooted
  | lastGuard hguard hguard' hheld hdropping hflags hcallbacks =>
    exact absurd (strong_lastGuard hguard' hheld hcallbacks) hstrong'.ne'
  | cancel e howner hentries => exact hentries ▸ hkept howner
  | free e hcancelled hidle hguard hrooted hentries =>
    exact hentries ▸ hb.root hstrong (hrooted ▸ hrooted')
  | freeInside c i records e rest hc hcancelled howner hentries => exact hentries ▸ hkept howner

theorem undropped_step (hb : Base s) (h : Effect s l s') (hstrong' : 0 < s'.strong) :
    s'.dropping = [] ∧ (∀ cb ∈ s'.callbacks, ∀ es, cb.phase ≠ .dropping es) ∧
      ∀ j, s'.isFreed j = false := by
  obtain ⟨hdropping, hundropped, hunfreed⟩ := hb.undropped (effect_strong h hstrong')
  have hcallbacks : ∀ cb ∈ s'.callbacks, ∀ es, cb.phase ≠ .dropping es := by
    intro cb hcb es hes
    rcases effect_callback h hcb with hold | ⟨hphase, -⟩ |
      ⟨old, hold, hctx, hmove | ⟨-, -, -, hnone⟩ | ⟨e, rest, hphase, -⟩⟩
    · exact hundropped cb hold es hes
    · cases hphase.symm.trans hes
    · exact move_not_dropping hmove es hes
    · exact hstrong'.ne' hnone
    · exact hundropped old hold _ hphase
  refine ⟨?_, hcallbacks, ?_⟩
  · cases h with
    | enter i records hlive howner => rw [howner.2.2, hdropping]
    | move c i records records' phase phase' hc hmove howner => rw [howner.2.2, hdropping]
    | lastArc c i records hc howner => rw [howner.2.2, hdropping]
    | pushRoot hguard hsame => rw [hsame, hdropping]
    | dropGuard hl hguard hrooted hguard' hrooted' hheld hsame => rw [hsame, hdropping]
    | lastGuard hguard hguard' hheld hnew hflags hcallbacks =>
      exact absurd (strong_lastGuard hguard' hheld hcallbacks) hstrong'.ne'
    | cancel e howner => rw [howner.2.2, hdropping]
    | free e hcancelled hidle hguard hrooted hentries hflags hpopped =>
      cases hdropping.symm.trans hpopped
    | freeInside c i records e rest hc hcancelled howner => rw [howner.2.2, hdropping]
  · intro j
    rw [← hunfreed j]
    cases h with
    | enter i records hlive howner hentries hflags => exact isFreed_congr hflags j
    | move c i records records' phase phase' hc hmove howner hentries hflags =>
      exact isFreed_kept hflags j
    | lastArc c i records hc howner hstrong hflags => exact isFreed_congr hflags j
    | pushRoot hguard hdropping hentries hflags => exact isFreed_congr hflags j
    | dropGuard hl hguard hrooted hguard' hrooted' hheld hdropping hentries hflags =>
      exact isFreed_congr hflags j
    | lastGuard hguard hguard' hheld hdropping hflags => exact isFreed_congr hflags j
    | cancel e howner hentries hflags => exact isFreed_cancel hflags j
    | free e hcancelled hidle hguard hrooted hentries hflags hpopped =>
      cases hdropping.symm.trans hpopped
    | freeInside c i records e rest hc =>
      exact absurd rfl (hundropped _ (List.mem_of_getElem? hc) (e :: rest))

theorem base_step (hb : Base s) (h : Effect s l s') : Base s' where
  freed := freed_step hb h
  onlyRoot := onlyRoot_step hb h
  holder := holder_step hb h
  dropper := dropper_step hb h
  child := child_step hb h
  root := root_step hb h
  undropped := undropped_step hb h

end

end Backend

end MdnsSdDiscovery.Windows
