import MdnsSdDiscovery.Windows.Contexts

/-!
# What is done with a context on Windows

The `Box` of a context is in one place at a time: with the `start_browse` that has
not pushed it yet, in the registry, or with the thread that drops the registry.
`browse_calls` says that each context is browsed, cancelled and freed once, in this
order, also in the runs in which a callback frees its own context.
-/

namespace MdnsSdDiscovery.Windows

open Runs Slots

/-- The contexts whose `Box` a callback has in this phase. -/
def Phase.owned : Phase → List Nat
  | .pushing child => [child]
  | .dropping entries => entries
  | .walking | .upgraded _ | .releasing | .returned => []

namespace Backend

/-- What is done with a context: `DnsServiceBrowse`, `DnsServiceBrowseCancel`, and
the drop of its `Box`. -/
inductive Call where
  | browse (i : Nat)
  | cancel (i : Nat)
  | free (i : Nat)
  deriving DecidableEq, Repr

def Call.ctx : Call → Nat
  | .browse i | .cancel i | .free i => i

/-- What is done next with an entry to drop. -/
def dropCall (s : Backend) (e : Nat) : Call :=
  if s.isCancelled e = false then .cancel e else .free e

/-- What a step does with contexts. -/
def calls (s : Backend) : Label → List Call
  | .startBrowse c result =>
    match s.callbacks[c]? with
    | some ⟨_, _, .upgraded request⟩ =>
      match Windows.startBrowse request result with
      | .ok _ => [.browse s.contexts.length]
      | .error _ => []
    | _ => []
  | .dropEntry none => s.dropping.head?.toList.map s.dropCall
  | .dropEntry (some c) =>
    match s.callbacks[c]? with
    | some ⟨_, _, .dropping (e :: _)⟩ => [s.dropCall e]
    | _ => []
  | .enter .. | .handleRecord _ | .pushEntry _ | .dropArc _ | .leave _ | .pushRoot | .dropGuard |
    .dropped _ => []

/-- The contexts that have a `Box` somewhere. -/
def places (s : Backend) : List Nat :=
  (if s.rooted then [] else [0]) ++ s.entries ++ s.dropping ++ s.callbacks.flatMap (·.phase.owned)

/-- The context is that of a browse for all types. -/
def IsMeta (s : Backend) (i : Nat) : Prop := ∃ f, s.flags i = some f ∧ f.isMeta = true

/-- Only a browse for all types has upgraded the registry. -/
def Upgrading (s : Backend) : Prop :=
  ∀ cb ∈ s.callbacks, (cb.phase.holds = true ∨ ∃ es, cb.phase = .dropping es) → s.IsMeta cb.ctx

/-- What was done so far with a context that has these flags. -/
def lifecycle (i : Nat) : Option Flags → List Call
  | none => []
  | some f => .browse i ::
      ((if f.cancelled then [.cancel i] else []) ++ if f.freed then [.free i] else [])

section
variable {s s' : Backend} {l : Label} {c i : Nat}

theorem isMeta_effect (h : Effect s l s') (hmeta : s.IsMeta i) : s'.IsMeta i := by
  obtain ⟨f, hf, hmeta⟩ := hmeta
  have hsame : s'.flags i = s.flags i → s'.IsMeta i := fun heq => ⟨f, heq.trans hf, hmeta⟩
  cases h with
  | enter j records hlive howner hentries hflags => exact hsame (congrFun hflags i)
  | move c j records records' phase phase' hc hmove howner hentries hflags =>
    rcases hflags i with heq | ⟨hnone, -⟩
    · exact hsame heq
    · cases hnone.symm.trans hf
  | lastArc c j records hc howner hstrong hflags => exact hsame (congrFun hflags i)
  | pushRoot hguard hdropping hentries hflags => exact hsame (congrFun hflags i)
  | dropGuard hl hguard hrooted hguard' hrooted' hheld hdropping hentries hflags =>
    exact hsame (congrFun hflags i)
  | lastGuard hguard hguard' hheld hdropping hflags => exact hsame (congrFun hflags i)
  | cancel e howner hentries hflags | free e hcancelled hidle hguard hrooted hentries hflags
  | freeInside c j records e rest hc hcancelled howner hentries hflags =>
    refine ⟨_, (hflags i).trans (by rw [hf]; rfl), ?_⟩
    split <;> exact hmeta

theorem upgrading_step (hu : Upgrading s) (h : Effect s l s') : Upgrading s' := by
  intro cb hcb hphase
  refine isMeta_effect h ?_
  rcases effect_callback h hcb with hold | ⟨hwalking, -⟩ |
    ⟨old, hold, hctx, hmove | ⟨hreleasing, -⟩ | ⟨e, rest, hdropping, -⟩⟩
  · exact hu cb hold hphase
  · rw [hwalking] at hphase
    rcases hphase with hholds | ⟨es, hes⟩
    · cases hholds
    · cases hes
  · rcases hphase with hholds | ⟨es, hes⟩
    · rcases move_holds hmove hholds with holdholds | ⟨-, hmeta⟩
      · exact hctx ▸ hu old hold (.inl holdholds)
      · exact hmeta
    · exact absurd hes (move_not_dropping hmove es)
  · exact hctx ▸ hu old hold (.inl (by rw [hreleasing]; rfl))
  · exact hctx ▸ hu old hold (.inr ⟨_, hdropping⟩)

theorem count_places (s : Backend) (i : Nat) : s.places.count i =
    (if s.rooted then [] else [0]).count i + s.entries.count i + s.dropping.count i +
      (s.callbacks.flatMap (·.phase.owned)).count i := by
  simp only [places, List.count_append]

theorem count_put {cb : Callback} (hc : s.callbacks[c]? = some cb) (cb' : Callback) (i : Nat) :
    (s.put c cb').places.count i + cb.phase.owned.count i =
      s.places.count i + cb'.phase.owned.count i := by
  have hset := count_flatMap_set hc (·.phase.owned) cb' i
  simp only [count_places, put]
  omega

/-- What a step makes of the contexts: where their boxes are, which flags they have
and what is done with them. -/
inductive Life (s : Backend) (l : Label) (s' : Backend) : Prop where
  | same (hcalls : s.calls l = []) (hflags : s'.flags = s.flags)
      (hplaces : ∀ i, s'.places.count i = s.places.count i)
  | browse (i : Nat) (f : Flags) (hcalls : s.calls l = [.browse i]) (hold : s.flags i = none)
      (hnew : s'.flags i = some f) (hlive : f.cancelled = false ∧ f.freed = false)
      (hflags : ∀ j, j ≠ i → s'.flags j = s.flags j)
      (hplaces : ∀ j, s'.places.count j = s.places.count j + [i].count j)
  | cancel (e : Nat) (hcalls : s.calls l = [.cancel e]) (hlive : s.isCancelled e = false)
      (hplace : e ∈ s.places)
      (hflags : ∀ j, s'.flags j = (s.flags j).map fun f =>
        if e = j then { f with cancelled := true } else f)
      (hplaces : ∀ i, s'.places.count i = s.places.count i)
  | free (e : Nat) (hcalls : s.calls l = [.free e]) (hcancelled : s.isCancelled e = true)
      (hwait : s.IsMeta e ∨ s.isRunning e = false)
      (hflags : ∀ j, s'.flags j = (s.flags j).map fun f =>
        if e = j then { f with freed := true } else f)
      (hplaces : ∀ i, s'.places.count i + [e].count i = s.places.count i)

/-- A step that changes nothing but the phase of a callback. -/
theorem life_put {t : Backend} {cb cb' : Callback} (hc : s.callbacks[c]? = some cb)
    (hcalls : s.calls l = []) (hflags : t.flags = s.flags) (hrooted : t.rooted = s.rooted)
    (hentries : t.entries = s.entries) (hdropping : t.dropping = s.dropping)
    (hcallbacks : t.callbacks = s.callbacks) (howned : cb'.phase.owned = cb.phase.owned) :
    Life s l (t.put c cb') := by
  refine .same hcalls hflags fun i => ?_
  have hput := count_put (hcallbacks ▸ hc) cb' i
  have hsame : t.places = s.places := by
    simp only [places, hrooted, hentries, hdropping, hcallbacks]
  rw [howned, hsame] at hput
  exact Nat.add_right_cancel hput

theorem flags_length (s : Backend) : s.flags s.contexts.length = none := by
  rw [flags, List.getElem?_eq_none le_rfl]
  rfl

theorem life_start {records : List Record} {request : Request} {ctx : BrowseContext}
    {result : Int32} (hc : s.callbacks[c]? = some ⟨i, records, .upgraded request⟩)
    (hstart : Windows.startBrowse request result = .ok ctx) :
    Life s (.startBrowse c result) ({ s with contexts := s.contexts ++ [ctx] }.put c
      ⟨i, records, .pushing s.contexts.length⟩) := by
  have hcalls : s.calls (.startBrowse c result) = [.browse s.contexts.length] := by
    simp only [calls, hc, hstart]
  obtain ⟨-, -, hctx⟩ := startBrowse_eq_ok.mp hstart
  refine .browse s.contexts.length ⟨ctx.isMeta, ctx.cancelled, ctx.freed⟩ hcalls (flags_length s)
    ?_ ?_ ?_ ?_
  · simp [flags, put]
  · rw [hctx]
    exact ⟨rfl, rfl⟩
  · intro j hj
    rcases flags_start (s := s) hstart j with heq | ⟨hnone, hnew⟩
    · exact heq
    · simp only [flags] at hnew hnone ⊢
      have hlt : s.contexts.length ≤ j := by simpa using hnone
      simp only [put]
      rw [List.getElem?_eq_none hlt, List.getElem?_eq_none (by simp; omega)]
  · intro j
    exact count_put (s := { s with contexts := s.contexts ++ [ctx] }) hc
      ⟨i, records, .pushing s.contexts.length⟩ j

theorem life_push {records : List Record} {child : Nat}
    (hc : s.callbacks[c]? = some ⟨i, records, .pushing child⟩) :
    Life s (.pushEntry c)
      ({ s with entries := s.entries ++ [child] }.put c ⟨i, records, .releasing⟩) := by
  refine .same rfl rfl fun j => ?_
  have hput := count_put (s := { s with entries := s.entries ++ [child] }) hc
    ⟨i, records, .releasing⟩ j
  simp only [count_places, List.count_append, Phase.owned, List.count_nil] at hput ⊢
  omega

theorem life_lastArc {records : List Record}
    (hc : s.callbacks[c]? = some ⟨i, records, .releasing⟩) :
    Life s (.dropArc c) ({ s with entries := [] }.put c ⟨i, records, .dropping s.entries⟩) := by
  refine .same rfl rfl fun j => ?_
  have hput := count_put (s := { s with entries := [] }) hc ⟨i, records, .dropping s.entries⟩ j
  simp only [count_places, Phase.owned, List.count_nil] at hput ⊢
  omega

/-- The cancel of an entry, or its free. -/
theorem life_cancel {e : Nat} (hcalls : s.calls l = [s.dropCall e])
    (hlive : s.isCancelled e = false) (hplace : e ∈ s.places) : Life s l (s.cancel e) := by
  rw [dropCall, if_pos hlive] at hcalls
  exact .cancel e hcalls hlive hplace (flags_cancel s e) fun _ => rfl

theorem dropCall_free {e : Nat} (hcancelled : s.isCancelled e = true) :
    s.dropCall e = .free e := by
  rw [dropCall, if_neg (by simp [hcancelled])]

theorem count_head (e : Nat) (rest : List Nat) (i : Nat) :
    (e :: rest).count i = [e].count i + rest.count i :=
  (List.count_append : ([e] ++ rest).count i = _)

theorem life_dropEntry (h : step s (.dropEntry none) = some s') : Life s (.dropEntry none) s' := by
  simp only [step] at h
  split at h
  · rename_i e rest hdropping
    have hcalls : s.calls (.dropEntry none) = [s.dropCall e] := by
      simp only [calls, hdropping, List.head?_cons, Option.toList_some, List.map_cons, List.map_nil]
    have hplace : e ∈ s.places := by simp [places, hdropping]
    obtain ⟨⟨t, entries⟩, ht, rfl⟩ := Option.map_eq_some_iff.mp h
    unfold dropEntry at ht
    split at ht
    · rename_i hlive
      cases ht
      rw [← hdropping]
      exact life_cancel hcalls hlive hplace
    · rename_i hcancelled
      replace hcancelled : s.isCancelled e = true := by simpa using hcancelled
      split at ht <;> cases ht
      rename_i hwait
      replace hwait : s.isRunning e = false := by simpa using hwait
      refine .free e (dropCall_free hcancelled ▸ hcalls) hcancelled (.inr hwait) (flags_free s e)
        fun i => ?_
      have hsplit := count_head e rest i
      simp only [count_places, hdropping, free]
      omega
  · cases h

theorem life_dropEntryInside (hu : Upgrading s) (h : step s (.dropEntry (some c)) = some s') :
    Life s (.dropEntry (some c)) s' := by
  simp only [step] at h
  split at h
  · rename_i i records e rest hc
    have hcalls : s.calls (.dropEntry (some c)) = [s.dropCall e] := by simp only [calls, hc]
    have hplace : e ∈ s.places := by
      refine List.mem_append_right _ (List.mem_flatMap.mpr ⟨_, List.mem_of_getElem? hc, ?_⟩)
      exact List.mem_cons_self
    obtain ⟨⟨t, entries⟩, ht, rfl⟩ := Option.map_eq_some_iff.mp h
    unfold dropEntry at ht
    split at ht
    · rename_i hlive
      cases ht
      have hsame : (s.cancel e).put c ⟨i, records, .dropping (e :: rest)⟩ = s.cancel e :=
        congrArg (fun callbacks => { s.cancel e with callbacks }) (set_same hc)
      rw [hsame]
      exact life_cancel hcalls hlive hplace
    · rename_i hcancelled
      replace hcancelled : s.isCancelled e = true := by simpa using hcancelled
      split at ht <;> cases ht
      rename_i hwait
      have hmeta : s.IsMeta i := hu _ (List.mem_of_getElem? hc) (.inr ⟨_, rfl⟩)
      replace hwait : s.IsMeta e ∨ s.isRunning e = false := by
        rcases hwait with hown | hidle
        · obtain rfl := Option.some.inj hown
          exact .inl hmeta
        · exact .inr hidle
      refine .free e (dropCall_free hcancelled ▸ hcalls) hcancelled hwait (flags_free s e)
        fun j => ?_
      have hput := count_put (s := s.free e) hc ⟨i, records, .dropping rest⟩ j
      have hsplit := count_head e rest j
      have hsame : (s.free e).places = s.places := rfl
      rw [hsame] at hput
      simp only [Phase.owned] at hput ⊢
      omega
  · cases h

/-- **Every step takes one context one step further, or none.** -/
theorem step_life (hb : Base s) (hu : Upgrading s) (h : step s l = some s') : Life s l s' := by
  cases hl : step_change h with
  | enter i status records hlive hi =>
    refine .same rfl rfl fun j => ?_
    simp [count_places, Phase.owned]
  | other c i rest hc => exact life_put hc rfl rfl rfl rfl rfl rfl rfl
  | handled c i nameHost rest ctx hc hctx hseen => exact life_put hc rfl rfl rfl rfl rfl rfl rfl
  | orphan c i nameHost rest ctx hc hctx hmeta hstrong =>
    exact life_put hc rfl (funext (flags_set_seen hctx _)) rfl rfl rfl rfl rfl
  | upgrade c i nameHost rest ctx request hc hctx hmeta hseen hstrong hname hinterface hchild =>
    exact life_put hc rfl (funext (flags_set_seen hctx _)) rfl rfl rfl rfl rfl
  | resolve c i nameHost rest ctx label hc hctx hinstance =>
    exact life_put hc rfl (funext (flags_set_seen hctx _)) rfl rfl rfl rfl rfl
  | start c i records request ctx result hc hstart => exact life_start hc hstart
  | refuse c i records request err result hc hstart =>
    have hcalls : s.calls (.startBrowse c result) = [] := by simp only [calls, hc, hstart]
    exact life_put hc hcalls rfl rfl rfl rfl rfl rfl
  | push c i records child hc => exact life_push hc
  | lastArc c i records hc hlast => exact life_lastArc hc
  | release c i records hc hstrong => exact life_put hc rfl rfl rfl rfl rfl rfl rfl
  | leave c i hc => exact life_put hc rfl rfl rfl rfl rfl rfl rfl
  | pushRoot hrooted =>
    refine .same rfl rfl fun j => ?_
    simp only [count_places, hrooted, List.count_append, if_true, Bool.false_eq_true, if_false,
      List.count_nil]
    omega
  | lastGuard hguard hrooted hlast =>
    -- until now the thread of the guard had nothing to drop
    have hdropping := (hb.undropped (strong_pos_iff.mpr (.inl hguard))).1
    refine .same rfl rfl fun j => ?_
    simp only [count_places, hdropping, List.count_nil]
    omega
  | dropGuard hguard hrooted hstrong => exact .same rfl rfl fun _ => rfl
  | cancel | free => exact life_dropEntry h
  | cancelInside | freeInside => exact life_dropEntryInside hu h
  | dropped c i records hc => exact life_put hc rfl rfl rfl rfl rfl rfl rfl

/-! ## What was done with each context -/

/-- A context that exists and was not freed has its `Box` in one place. -/
def Placed (s : Backend) : Prop :=
  ∀ i, s.places.count i = ((s.flags i).any (!·.freed)).toNat

/-- The flags of each context say what was done with it. -/
def Traced (made : List Call) (s : Backend) : Prop :=
  ∀ i, made.filter (·.ctx = i) = lifecycle i (s.flags i)

theorem mem_places_iff (hp : Placed s) :
    i ∈ s.places ↔ ∃ f, s.flags i = some f ∧ f.freed = false := by
  rw [← List.count_pos_iff, hp]
  cases s.flags i with
  | none => simp
  | some f => cases hf : f.freed <;> simp [hf]

theorem placed_step (hp : Placed s) (h : Life s l s') : Placed s' := by
  intro j
  cases h with
  | same hcalls hflags hplaces => rw [hplaces, hp, hflags]
  | browse i f hcalls hold hnew hlive hflags hplaces =>
    rw [hplaces, hp]
    by_cases hj : j = i
    · subst hj
      simp [hold, hnew, hlive.2]
    · simp [hflags j hj, Ne.symm hj]
  | cancel e hcalls hlive hplace hflags hplaces =>
    rw [hplaces, hp, hflags]
    cases s.flags j with
    | none => rfl
    | some f => by_cases he : e = j <;> simp [he]
  | free e hcalls hcancelled hwait hflags hplaces =>
    have hcount := hplaces j
    rw [hp] at hcount
    rw [hflags]
    by_cases he : e = j
    · subst he
      cases hf : s.flags e with
      | none => simp [hf] at hcount
      | some f => cases hfreed : f.freed <;> simp [hf, hfreed] at hcount ⊢; exact hcount
    · simp only [he, if_false, Option.map_id']
      simpa [he] using hcount

theorem filter_ctx_snoc (made : List Call) (call : Call) (i : Nat) :
    (made ++ [call]).filter (·.ctx = i) =
      made.filter (·.ctx = i) ++ if call.ctx = i then [call] else [] := by
  rw [List.filter_append, List.filter_singleton]
  by_cases hcall : call.ctx = i <;> simp [hcall]

theorem traced_step {made : List Call} (hp : Placed s) (ht : Traced made s) (h : Life s l s') :
    Traced (made ++ s.calls l) s' := by
  intro j
  cases h with
  | same hcalls hflags hplaces => rw [hcalls, hflags, List.append_nil, ht]
  | browse i f hcalls hold hnew hlive hflags hplaces =>
    rw [hcalls, filter_ctx_snoc, ht]
    by_cases hj : i = j
    · subst hj
      simp [hold, hnew, lifecycle, hlive, Call.ctx]
    · rw [hflags j (Ne.symm hj)]
      simp [Call.ctx, hj]
  | cancel e hcalls hlive hplace hflags hplaces =>
    rw [hcalls, filter_ctx_snoc, ht, hflags]
    by_cases he : e = j
    · subst he
      obtain ⟨f, hf, hfreed⟩ := (mem_places_iff hp).mp hplace
      rw [isCancelled_eq, hf] at hlive
      replace hlive : f.cancelled = false := hlive
      simp [hf, hfreed, hlive, lifecycle, Call.ctx]
    · simp [he, Call.ctx]
  | free e hcalls hcancelled hwait hflags hplaces =>
    rw [hcalls, filter_ctx_snoc, ht, hflags]
    by_cases he : e = j
    · subst he
      have hplace : e ∈ s.places := by
        have hcount := hplaces e
        rw [List.count_singleton_self] at hcount
        exact List.count_pos_iff.mp (by omega)
      obtain ⟨f, hf, hfreed⟩ := (mem_places_iff hp).mp hplace
      rw [isCancelled_eq, hf] at hcancelled
      replace hcancelled : f.cancelled = true := hcancelled
      simp [hf, hfreed, hcancelled, lifecycle, Call.ctx]
    · simp [he, Call.ctx]

theorem mem_iff_of_traced {made : List Call} (ht : Traced made s) (call : Call) :
    call ∈ made ↔ call ∈ lifecycle call.ctx (s.flags call.ctx) := by
  rw [← ht call.ctx, List.mem_filter]
  simp

theorem browse_mem_iff {made : List Call} (ht : Traced made s) (i : Nat) :
    .browse i ∈ made ↔ ∃ f, s.flags i = some f := by
  rw [mem_iff_of_traced ht, Call.ctx]
  cases s.flags i <;> simp [lifecycle]

theorem free_mem_iff {made : List Call} (ht : Traced made s) (i : Nat) :
    .free i ∈ made ↔ s.isFreed i = true := by
  rw [mem_iff_of_traced ht, Call.ctx, isFreed_eq]
  cases s.flags i with
  | none => simp [lifecycle]
  | some f => cases hf : f.freed <;> cases f.cancelled <;> simp [lifecycle, hf]

/-- A context that is freed by a step was cancelled, and no callback of it runs unless
it is that of a browse for all types. -/
theorem freed_life (h : Life s l s') (hi : s'.isFreed i = true) :
    s.isFreed i = true ∨ (s.isCancelled i = true ∧ (s.IsMeta i ∨ s.isRunning i = false)) := by
  cases h with
  | same hcalls hflags hplaces => exact .inl (isFreed_congr hflags i ▸ hi)
  | browse j f hcalls hold hnew hlive hflags hplaces =>
    rw [isFreed_eq] at hi ⊢
    by_cases hij : i = j
    · rw [hij, hnew] at hi
      cases hlive.2.symm.trans hi
    · exact .inl (hflags i hij ▸ hi)
  | cancel e hcalls hlive hplace hflags hplaces => exact .inl (isFreed_cancel hflags i ▸ hi)
  | free e hcalls hcancelled hwait hflags hplaces =>
    by_cases he : e = i
    · exact .inr (he ▸ ⟨hcancelled, hwait⟩)
    · exact .inl (isFreed_free hflags he ▸ hi)

/-- No callback of an instance browse runs on a freed context. -/
def Sheltered (s : Backend) : Prop :=
  ∀ cb ∈ s.callbacks, cb.isRunning = true → s.isFreed cb.ctx = true → s.IsMeta cb.ctx

theorem sheltered_step (hb : Base s) (hu : Upgrading s) (hs : Sheltered s)
    (h : step s l = some s') : Sheltered s' := by
  intro cb hcb hrunning hfreed
  have heffect := step_effect h
  refine isMeta_effect heffect ?_
  have hkept : ∀ old ∈ s.callbacks, old.phase ≠ .returned → old.ctx = cb.ctx →
      s.IsMeta cb.ctx := by
    intro old hold hphase hctx
    have hrun : old.isRunning = true := by simpa [Callback.isRunning] using hphase
    rcases freed_life (step_life hb hu h) hfreed with hbefore | ⟨-, hmeta | hidle⟩
    · exact hctx ▸ hs old hold hrun (hctx ▸ hbefore)
    · exact hmeta
    · have hruns : s.isRunning cb.ctx = true :=
        List.any_eq_true.mpr ⟨old, hold, decide_eq_true ⟨hctx, hrun⟩⟩
      cases hidle.symm.trans hruns
  rcases effect_callback heffect hcb with hold | ⟨-, hlive⟩ |
    ⟨old, hold, hctx, hmove | ⟨hreleasing, -⟩ | ⟨e, rest, hdropping, -⟩⟩
  · exact hkept cb hold (by simpa [Callback.isRunning] using hrunning) rfl
  · rcases freed_life (step_life hb hu h) hfreed with hbefore | ⟨hcancelled, -⟩
    · cases hlive.symm.trans (base_isFreed hb hbefore)
    · cases hlive.symm.trans hcancelled
  · exact hkept old hold (move_running hmove) hctx
  · exact hkept old hold (by rw [hreleasing]; rintro ⟨⟩) hctx
  · exact hkept old hold (by rw [hdropping]; rintro ⟨⟩) hctx

/-- What lets the drops and the callbacks go on. -/
structure Anchored (s : Backend) : Prop where
  root : 0 < s.contexts.length
  known : ∀ cb ∈ s.callbacks, cb.ctx < s.contexts.length
  rooted : s.guard = false → s.rooted = true
  entries : s.strong = 0 → s.entries = []

theorem anchored_start (root : BrowseContext) : Anchored (start root) where
  root := Nat.zero_lt_one
  known := by rintro cb ⟨⟩
  rooted := by rintro ⟨⟩
  entries _ := rfl

theorem strong_put {t : Backend} {cb cb' : Callback} (hc : s.callbacks[c]? = some cb)
    (hguard : t.guard = s.guard) (hcallbacks : t.callbacks = s.callbacks)
    (hholds : cb'.phase.holds = cb.phase.holds) : (t.put c cb').strong = s.strong := by
  rw [strong_put_congr hguard hcallbacks hholds, put, set_same hc]

theorem strong_put_pos {t : Backend} {cb cb' : Callback} (hc : s.callbacks[c]? = some cb)
    (hcallbacks : t.callbacks = s.callbacks) (hholds : cb'.phase.holds = true) :
    0 < (t.put c cb').strong := by
  refine strong_pos_iff.mpr (.inr ⟨cb', ?_, hholds⟩)
  exact mem_set_self (hcallbacks ▸ hc) cb'

/-- A callback goes on, and the registry stays as it is. -/
theorem anchored_put (ha : Anchored s) {t : Backend} {cb cb' : Callback}
    (hc : s.callbacks[c]? = some cb) (hctx : cb'.ctx = cb.ctx)
    (hcallbacks : t.callbacks = s.callbacks) (hguard : t.guard = s.guard)
    (hrooted : t.rooted = s.rooted) (hlength : s.contexts.length ≤ t.contexts.length)
    (hentries : (t.put c cb').strong = 0 → t.entries = []) : Anchored (t.put c cb') where
  root := lt_of_lt_of_le ha.root hlength
  known := by
    intro other hother
    refine lt_of_lt_of_le ?_ hlength
    rcases List.mem_or_eq_of_mem_set hother with hold | rfl
    · exact ha.known other (hcallbacks ▸ hold)
    · exact hctx ▸ ha.known cb (List.mem_of_getElem? hc)
  rooted h := hrooted ▸ ha.rooted (hguard ▸ h)
  entries := hentries

/-- The same, when the callback keeps its `Arc` or has none. -/
theorem anchored_keep (ha : Anchored s) {t : Backend} {cb cb' : Callback}
    (hc : s.callbacks[c]? = some cb) (hctx : cb'.ctx = cb.ctx)
    (hcallbacks : t.callbacks = s.callbacks) (hguard : t.guard = s.guard)
    (hrooted : t.rooted = s.rooted) (hlength : s.contexts.length ≤ t.contexts.length)
    (hentries : t.entries = s.entries) (hholds : cb'.phase.holds = cb.phase.holds) :
    Anchored (t.put c cb') := by
  refine anchored_put ha hc hctx hcallbacks hguard hrooted hlength fun h => ?_
  rw [strong_put hc hguard hcallbacks hholds] at h
  exact hentries.trans (ha.entries h)

/-- The drop of an entry leaves the callbacks and the registry alone. -/
theorem anchored_drop (ha : Anchored s) (hguard : s'.guard = s.guard)
    (hrooted : s'.rooted = s.rooted) (hentries : s'.entries = s.entries)
    (hcallbacks : s'.callbacks = s.callbacks)
    (hlength : s'.contexts.length = s.contexts.length) : Anchored s' where
  root := hlength ▸ ha.root
  known := by
    rw [hcallbacks, hlength]
    exact ha.known
  rooted h := hrooted ▸ ha.rooted (hguard ▸ h)
  entries h := by
    rw [strong, hguard, hcallbacks] at h
    exact hentries ▸ ha.entries h

theorem anchored_step (ha : Anchored s) (h : step s l = some s') : Anchored s' := by
  cases step_change h with
  | enter i status records hlive hi =>
    refine ⟨ha.root, fun cb hcb => ?_, ha.rooted, fun h => ha.entries ?_⟩
    · rcases List.mem_append.mp hcb with hold | hnew
      · exact ha.known cb hold
      · obtain rfl := List.mem_singleton.mp hnew
        exact hi
    · rw [strong, List.countP_append] at h
      exact h
  | other c i rest hc =>
    exact anchored_keep ha hc rfl rfl rfl rfl le_rfl rfl rfl
  | handled c i nameHost rest ctx hc hctx hseen =>
    exact anchored_keep ha hc rfl rfl rfl rfl le_rfl rfl rfl
  | orphan c i nameHost rest ctx hc hctx hmeta hstrong =>
    exact anchored_put ha hc rfl rfl rfl rfl (by simp [remember]) fun _ => ha.entries hstrong
  | upgrade c i nameHost rest ctx request hc hctx hmeta hseen hstrong hname hinterface hchild =>
    exact anchored_put ha hc rfl rfl rfl rfl (by simp [remember]) fun h =>
      absurd h (strong_put_pos hc rfl rfl).ne'
  | resolve c i nameHost rest ctx label hc hctx hinstance =>
    exact anchored_keep ha hc rfl rfl rfl rfl (by simp [remember]) rfl rfl
  | start c i records request ctx result hc hstart =>
    exact anchored_put ha hc rfl rfl rfl rfl (by simp) fun h =>
      absurd h (strong_put_pos hc rfl rfl).ne'
  | refuse c i records request err result hc hstart =>
    exact anchored_put ha hc rfl rfl rfl rfl le_rfl fun h =>
      absurd h (strong_put_pos hc rfl rfl).ne'
  | push c i records child hc =>
    exact anchored_put ha hc rfl rfl rfl rfl le_rfl fun h =>
      absurd h (strong_put_pos hc rfl rfl).ne'
  | lastArc c i records hc hlast =>
    exact anchored_put ha hc rfl rfl rfl rfl le_rfl fun _ => rfl
  | release c i records hc hstrong =>
    exact anchored_put ha hc rfl rfl rfl rfl le_rfl fun h => absurd h hstrong
  | leave c i hc =>
    exact anchored_keep ha hc rfl rfl rfl rfl le_rfl rfl rfl
  | pushRoot hrooted =>
    refine ⟨ha.root, ha.known, fun _ => rfl, fun hnone => ?_⟩
    cases hrooted.symm.trans (ha.rooted (strong_eq_zero_iff.mp hnone).1)
  | lastGuard hguard hrooted hlast => exact ⟨ha.root, ha.known, fun _ => hrooted, fun _ => rfl⟩
  | dropGuard hguard hrooted hstrong =>
    exact ⟨ha.root, ha.known, fun _ => hrooted, fun h => absurd h hstrong⟩
  | cancel e rest hdropping => exact anchored_drop ha rfl rfl rfl rfl (by simp [cancel])
  | free e rest hdropping hcancelled hidle =>
    exact anchored_drop ha rfl rfl rfl rfl (by simp [free])
  | cancelInside c i records e rest hc => exact anchored_drop ha rfl rfl rfl rfl (by simp [cancel])
  | freeInside c i records e rest hc hcancelled =>
    exact anchored_keep ha hc rfl rfl rfl rfl (by simp [free]) rfl rfl
  | dropped c i records hc =>
    exact anchored_keep ha hc rfl rfl rfl rfl le_rfl rfl rfl

theorem lifecycle_prefix {flags : Option Flags}
    (h : ∀ f, flags = some f → f.freed = true → f.cancelled = true) :
    lifecycle i flags <+: [.browse i, .cancel i, .free i] := by
  cases flags with
  | none => exact List.nil_prefix
  | some f =>
    cases hfreed : f.freed with
    | false => cases hcancelled : f.cancelled <;> simp [lifecycle, hfreed, hcancelled]
    | true => simp [lifecycle, hfreed, h f rfl hfreed]

/-- What every run keeps of the contexts. -/
structure Intact (s : Backend) : Prop where
  base : Base s
  upgrading : Upgrading s
  placed : Placed s
  sheltered : Sheltered s
  anchored : Anchored s

theorem Intact.life (hs : Intact s) (h : step s l = some s') : Life s l s' :=
  step_life hs.base hs.upgrading h

theorem intact_step (hs : Intact s) (h : step s l = some s') : Intact s' where
  base := base_step hs.base (step_effect h)
  upgrading := upgrading_step hs.upgrading (step_effect h)
  placed := placed_step hs.placed (hs.life h)
  sheltered := sheltered_step hs.base hs.upgrading hs.sheltered h
  anchored := anchored_step hs.anchored h

theorem intact_start {request : Request} {result : Int32} {root : BrowseContext}
    (hroot : Windows.startBrowse request result = .ok root) : Intact (start root) where
  base := base_start hroot
  upgrading := by rintro cb ⟨⟩
  placed := by
    obtain ⟨-, -, rfl⟩ := startBrowse_eq_ok.mp hroot
    intro i
    cases i <;> simp [places, start, flags]
  sheltered := by rintro cb ⟨⟩
  anchored := anchored_start root

end

end Backend

open Backend

section
variable {serviceType domain : Option String} {interfaceIndex : Option NonZeroU32} {result : Int32}
  {root : BrowseContext} {labels : List Label} {s : Backend}

theorem intact_run
    (hroot : startBrowse (browseStart serviceType domain interfaceIndex) result = .ok root)
    (h : run Backend.step (.start root) labels = some s) : Intact s :=
  run_invariant (fun _ _ _ hs hstep => intact_step hs hstep) (intact_start hroot) h

theorem traced_run
    (hroot : startBrowse (browseStart serviceType domain interfaceIndex) result = .ok root)
    (h : run Backend.step (.start root) labels = some s) :
    Traced (.browse 0 :: outputs Backend.step calls (.start root) labels) s := by
  have h0 : Intact (.start root) ∧ Traced [.browse 0] (.start root) := by
    refine ⟨intact_start hroot, ?_⟩
    intro i
    obtain ⟨-, -, rfl⟩ := startBrowse_eq_ok.mp hroot
    cases i <;> simp [lifecycle, flags, start, Call.ctx]
  refine (run_history (P := fun made t => Intact t ∧ Traced (.browse 0 :: made) t) h0 ?_ h).2
  rintro made t l u ⟨hintact, ht⟩ hstep
  exact ⟨intact_step hintact hstep, traced_step hintact.placed ht (hintact.life hstep)⟩

end

/-- **Each context is browsed, cancelled and freed once, in this order**; until it is
freed its `Box` is in one place; and none but that of a browse for all types is freed
while one of its callbacks runs. -/
theorem browse_calls (serviceType domain : Option String) (interfaceIndex : Option NonZeroU32)
    (result : Int32) {root : BrowseContext}
    (hroot : startBrowse (browseStart serviceType domain interfaceIndex) result = .ok root)
    (labels : List Label) {s : Backend} (h : run Backend.step (.start root) labels = some s) :
    let made := .browse 0 :: outputs Backend.step calls (.start root) labels
    (∀ i, made.filter (·.ctx = i) <+: [.browse i, .cancel i, .free i]) ∧
    (s.places.Nodup ∧ ∀ i, i ∈ s.places ↔ .browse i ∈ made ∧ .free i ∉ made) ∧
    ∀ cb ∈ s.callbacks, cb.isRunning = true → .free cb.ctx ∈ made → s.IsMeta cb.ctx := by
  have ht := traced_run hroot h
  have hintact := intact_run hroot h
  intro made
  refine ⟨fun i => ?_, ⟨?_, fun i => ?_⟩, fun cb hcb hrunning hfreed => ?_⟩
  · rw [ht i]
    exact lifecycle_prefix (hintact.base.freed i)
  · rw [List.nodup_iff_count_le_one]
    exact fun i => hintact.placed i ▸ Bool.toNat_le _
  · rw [mem_places_iff hintact.placed, browse_mem_iff ht, free_mem_iff ht, isFreed_eq]
    cases s.flags i with
    | none => simp
    | some f => simp
  · exact hintact.sheltered cb hcb hrunning ((free_mem_iff ht _).mp hfreed)

/-- A browse with one child: the guard's thread has cancelled and freed the root. -/
theorem browse_calls_example :
    ∃ s, run Backend.step (.start metaRoot)
        [.pushRoot, .enter 0 0 [.ptr "_ipp._tcp.local."], .handleRecord 0,
          .startBrowse 0 dnsRequestPending, .pushEntry 0, .dropArc 0, .dropGuard, .leave 0,
          .dropEntry none, .dropEntry none] = some s ∧ s.places = [1] ∧ s.places.Nodup := by
  refine ⟨_, rfl, rfl, ?_⟩
  exact (browse_calls none none none dnsRequestPending startBrowse_metaRoot
    [.pushRoot, .enter 0 0 [.ptr "_ipp._tcp.local."], .handleRecord 0,
      .startBrowse 0 dnsRequestPending, .pushEntry 0, .dropArc 0, .dropGuard, .leave 0,
      .dropEntry none, .dropEntry none] rfl).2.1.1

end MdnsSdDiscovery.Windows
