import Mathlib.Data.Finset.Card
import MdnsSdDiscovery.Windows.Contexts

/-!
# What becomes of each service type

Every target that reaches the browse for all types is remembered before its child
browse is attempted, and the attempt is made once.  A success gives the child one
entry in the registry; a failure is dropped by the `let _ =` of `handle_ptr`, and
nothing on the channel tells of it (`accounted_iff`).
-/

namespace MdnsSdDiscovery.Windows

open Runs Slots

/-- The phase is an attempt at target `t`, still to be made. -/
def Phase.asks (t : String) : Phase → Bool
  | .upgraded request => request.queryName = t
  | _ => false

namespace Backend

/-! ## The history of a run -/

/-- The targets that a label brings to the root browse. -/
def Label.targets : Label → List String
  | .enter 0 _ records => Windows.targets records
  | _ => []

/-- The targets that were delivered to the root browse. -/
def delivered (labels : List Label) : List String := labels.flatMap Label.targets

/-- What a label puts on the channel. -/
def Label.statusErrors : Label → List Event
  | .enter _ status _ => statusReport status
  | _ => []

/-- The events by which the callbacks report their own statuses. -/
def statusErrors (labels : List Label) : List Event := labels.flatMap Label.statusErrors

/-- An attempt of `handle_ptr` to start a child browse, and whether it succeeded. -/
structure Attempt where
  queryName : String
  ok : Bool
  deriving DecidableEq, Repr

/-- The attempt that a step makes. -/
def attempted (s : Backend) : Label → List Attempt
  | .startBrowse c result =>
    match s.callbacks[c]? with
    | some ⟨_, _, .upgraded request⟩ =>
      [⟨request.queryName, (Windows.startBrowse request result).isOk⟩]
    | _ => []
  | _ => []

/-- The query names of the children, in the order of their contexts. -/
def started (attempts : List Attempt) : List String :=
  attempts.filterMap fun attempt => if attempt.ok then some attempt.queryName else none

/-- The query name of the context with a number: the root is context 0. -/
def childName (names : List String) : Nat → Option String
  | 0 => none
  | k + 1 => names[k]?

/-- The entries of the registry that browse target `t`. -/
def entriesFor (s : Backend) (names : List String) (t : String) : Nat :=
  s.entries.countP (childName names · = some t)

/-- The phase has started the browse of target `t` and has still to push its entry. -/
def pushes (names : List String) (t : String) : Phase → Bool
  | .pushing child => childName names child = some t
  | _ => false

/-- **Every delivered target has one entry, or else one error event of its own**;
`failed` are the targets without an entry and `reports` the events that are not
about the status of a callback. -/
def Accounted (s : Backend) (labels : List Label) (attempts : List Attempt) : Prop :=
  ∃ (failed : Finset String) (reports : List Event),
    s.sent.Perm (statusErrors labels ++ reports) ∧ (∀ e ∈ reports, ∃ err, e = .error err) ∧
    reports.length = failed.card ∧ (∀ t ∈ failed, t ∈ delivered labels) ∧
    ∀ t ∈ delivered labels, s.entriesFor (started attempts) t = if t ∈ failed then 0 else 1

section
variable {s s' : Backend} {l : Label} {labels : List Label} {attempts : List Attempt}
  {names : List String} {t : String}

theorem delivered_snoc (labels : List Label) (l : Label) :
    delivered (labels ++ [l]) = delivered labels ++ l.targets := by
  simp [delivered]

theorem statusErrors_snoc (labels : List Label) (l : Label) :
    statusErrors (labels ++ [l]) = statusErrors labels ++ l.statusErrors := by
  simp [statusErrors]

theorem started_append (as bs : List Attempt) : started (as ++ bs) = started as ++ started bs :=
  List.filterMap_append

/-- A child that is there keeps its query name. -/
theorem childName_append {e : Nat} (he : e < names.length + 1) (more : List String) :
    childName (names ++ more) e = childName names e := by
  cases e with
  | zero => rfl
  | succ k => exact List.getElem?_append_left (by omega)

theorem childName_new (names : List String) (name : String) :
    childName (names ++ [name]) (names.length + 1) = some name :=
  List.getElem?_concat_length

/-! ## The root context -/

/-- The root browse asks for all types. -/
def RootMeta (s : Backend) : Prop := ∃ f, s.flags 0 = some f ∧ f.isMeta = true

/-- The targets that the root browse has handled. -/
def rootSeen (s : Backend) : Finset String := ((s.contexts[0]?).map (·.seen)).getD ∅

theorem rootMeta_effect (h : Effect s l s') (hroot : RootMeta s) : RootMeta s' := by
  obtain ⟨f, hf, hmeta⟩ := hroot
  have hsame : s'.flags 0 = s.flags 0 → RootMeta s' := fun heq => ⟨f, heq.trans hf, hmeta⟩
  cases h with
  | enter i records hlive howner hentries hflags => exact hsame (congrFun hflags 0)
  | move c i records records' phase phase' hc hmove howner hentries hflags =>
    rcases hflags 0 with heq | ⟨hnone, -⟩
    · exact hsame heq
    · cases hnone.symm.trans hf
  | lastArc c i records hc howner hstrong hflags => exact hsame (congrFun hflags 0)
  | pushRoot hguard hdropping hentries hflags => exact hsame (congrFun hflags 0)
  | dropGuard hl hguard hrooted hguard' hrooted' hheld hdropping hentries hflags =>
    exact hsame (congrFun hflags 0)
  | lastGuard hguard hguard' hheld hdropping hflags => exact hsame (congrFun hflags 0)
  | cancel e howner hentries hflags | free e hcancelled hidle hguard hrooted hentries hflags
  | freeInside c i records e rest hc hcancelled howner hentries hflags =>
    refine ⟨_, (hflags 0).trans (by rw [hf]; rfl), ?_⟩
    split <;> exact hmeta

theorem rootSeen_remember {ctx : BrowseContext} (hctx : s.contexts[0]? = some ctx)
    (nameHost : String) :
    (s.remember 0 ctx nameHost).rootSeen = insert (trimDot nameHost) s.rootSeen := by
  have hlt := (List.getElem?_eq_some_iff.mp hctx).1
  simp only [rootSeen, remember, List.getElem?_set_self hlt, hctx]
  rfl

theorem rootSeen_remember_of_ne {i : Nat} (hi : i ≠ 0) (ctx : BrowseContext) (nameHost : String) :
    (s.remember i ctx nameHost).rootSeen = s.rootSeen := by
  simp [rootSeen, remember, List.getElem?_set_ne hi]

theorem rootSeen_append (hroot : RootMeta s) (ctx : BrowseContext) :
    ({ s with contexts := s.contexts ++ [ctx] } : Backend).rootSeen = s.rootSeen := by
  obtain ⟨f, hf, -⟩ := hroot
  obtain ⟨root, hctx, -⟩ := Option.map_eq_some_iff.mp hf
  simp only [rootSeen, List.getElem?_append_left (List.getElem?_eq_some_iff.mp hctx).1]

theorem rootSeen_modify (e : Nat) {f : BrowseContext → BrowseContext}
    (hf : ∀ ctx, (f ctx).seen = ctx.seen) :
    ({ s with contexts := s.contexts.modify e f } : Backend).rootSeen = s.rootSeen := by
  simp only [rootSeen, List.getElem?_modify]
  cases s.contexts[0]? with
  | none => rfl
  | some ctx => by_cases he : e = 0 <;> simp [he, hf]

/-- A context of a browse for all types is the root. -/
theorem isMeta_iff (hb : Base s) (hroot : RootMeta s) {i : Nat} {ctx : BrowseContext}
    (hctx : s.contexts[i]? = some ctx) : ctx.isMeta = true ↔ i = 0 := by
  have hf : s.flags i = some ⟨ctx.isMeta, ctx.cancelled, ctx.freed⟩ := by rw [flags, hctx]; rfl
  constructor
  · exact hb.onlyRoot i _ hf
  · rintro rfl
    obtain ⟨f, hf', hmeta⟩ := hroot
    obtain rfl := Option.some.inj (hf.symm.trans hf')
    exact hmeta

/-! ## What is delivered is remembered -/

/-- The target is among those that the root browse has handled, or a callback of
the root has still to walk it. -/
def Known (seen : Finset String) (callbacks : List Callback) (t : String) : Prop :=
  t ∈ seen ∨ ∃ cb ∈ callbacks, cb.ctx = 0 ∧ t ∈ targets cb.records

theorem known_put {callbacks : List Callback} {c i : Nat} {records rest : List Record}
    {phase phase' : Phase} (seen : Finset String)
    (hc : callbacks[c]? = some ⟨i, records, phase⟩)
    (hrest : i = 0 → ∀ t, t ∈ targets records ↔ t ∈ targets rest) (t : String) :
    Known seen (callbacks.set c ⟨i, rest, phase'⟩) t ↔ Known seen callbacks t := by
  unfold Known
  rw [exists_mem_set_congr hc (and_congr_right fun h => (hrest h t).symm)]

/-- A target that a callback handles is known before and after. -/
theorem known_remember {c i : Nat} {nameHost : String} {rest : List Record}
    {ctx : BrowseContext} (hc : s.callbacks[c]? = some ⟨i, .ptr nameHost :: rest, .walking⟩)
    (hctx : s.contexts[i]? = some ctx) (phase' : Phase) (t : String) :
    Known (s.remember i ctx nameHost).rootSeen (s.callbacks.set c ⟨i, rest, phase'⟩) t ↔
      Known s.rootSeen s.callbacks t := by
  by_cases hi : i = 0
  · subst hi
    rw [rootSeen_remember hctx]
    unfold Known
    rw [Finset.mem_insert]
    by_cases ht : t = trimDot nameHost
    · refine iff_of_true (.inl (.inl ht)) (.inr ⟨_, List.mem_of_getElem? hc, rfl, ?_⟩)
      exact ht ▸ List.mem_cons_self
    · rw [exists_mem_set_congr hc (by simp [ht]), or_iff_right ht]
  · rw [rootSeen_remember_of_ne hi]
    exact known_put _ hc (fun hzero => absurd hzero hi) t

theorem known_enter (seen : Finset String) (callbacks : List Callback) (i : Nat)
    (records : List Record) (t : String) :
    Known seen (callbacks ++ [⟨i, records, .walking⟩]) t ↔
      Known seen callbacks t ∨ (i = 0 ∧ t ∈ targets records) := by
  unfold Known
  rw [exists_mem_snoc, or_assoc]

/-- **No step forgets a target.** -/
theorem change_known (hroot : RootMeta s) (h : Change s l s') (t : String) :
    Known s'.rootSeen s'.callbacks t ↔ Known s.rootSeen s.callbacks t ∨ t ∈ l.targets := by
  have hquiet : l.targets = [] →
      (Known s'.rootSeen s'.callbacks t ↔ Known s.rootSeen s.callbacks t) →
      (Known s'.rootSeen s'.callbacks t ↔ Known s.rootSeen s.callbacks t ∨ t ∈ l.targets) := by
    intro hl hknown
    simp [hl, hknown]
  have hput : ∀ {seen : Finset String} {c i : Nat} {records : List Record} {phase phase' : Phase},
      s.callbacks[c]? = some ⟨i, records, phase⟩ → seen = s.rootSeen →
      (Known seen (s.callbacks.set c ⟨i, records, phase'⟩) t ↔
        Known s.rootSeen s.callbacks t) := by
    rintro seen c i records phase phase' hc rfl
    exact known_put _ hc (fun _ _ => Iff.rfl) t
  cases h with
  | enter i status records hlive hi =>
    refine (known_enter _ _ i records t).trans ?_
    cases i <;> simp [Label.targets] <;> rfl
  | other c i rest hc =>
    have hrest : ∀ t, t ∈ targets (.other :: rest) ↔ t ∈ targets rest := fun _ => Iff.rfl
    exact hquiet rfl (known_put _ hc (fun _ => hrest) t)
  | handled c i nameHost rest ctx hc hctx hseen =>
    have hsame : (s.remember i ctx nameHost).rootSeen = s.rootSeen := by
      by_cases hi : i = 0
      · subst hi
        have hmem : trimDot nameHost ∈ s.rootSeen := by rw [rootSeen, hctx]; exact hseen
        rw [rootSeen_remember hctx, Finset.insert_eq_of_mem hmem]
      · exact rootSeen_remember_of_ne hi ctx nameHost
    have hkept := known_remember hc hctx .walking t
    rw [hsame] at hkept
    exact hquiet rfl hkept
  | orphan c i nameHost rest ctx hc hctx => exact hquiet rfl (known_remember hc hctx _ t)
  | upgrade c i nameHost rest ctx request hc hctx => exact hquiet rfl (known_remember hc hctx _ t)
  | resolve c i nameHost rest ctx label hc hctx => exact hquiet rfl (known_remember hc hctx _ t)
  | start c i records request ctx result hc hstart =>
    exact hquiet rfl (hput hc (rootSeen_append hroot ctx))
  | refuse c i records request err result hc => exact hquiet rfl (hput hc rfl)
  | push c i records child hc => exact hquiet rfl (hput hc rfl)
  | lastArc c i records hc => exact hquiet rfl (hput hc rfl)
  | release c i records hc => exact hquiet rfl (hput hc rfl)
  | leave c i hc => exact hquiet rfl (hput hc rfl)
  | cancel e | cancelInside c i records e | free e =>
    exact hquiet rfl (iff_of_eq (congrArg (Known · _ t) (rootSeen_modify e fun _ => rfl)))
  | freeInside c i records e rest hc =>
    exact hquiet rfl (hput hc (rootSeen_modify e fun _ => rfl))
  | dropped c i records hc => exact hquiet rfl (hput hc rfl)
  | pushRoot | lastGuard | dropGuard => exact hquiet rfl Iff.rfl

/-! ## A target is attempted once -/

theorem change_sent (h : Change s l s') : s'.sent = s.sent ++ l.statusErrors := by
  cases h with
  | enter i status records hlive hi =>
    by_cases hstatus : status = 0 <;> simp [Label.statusErrors, statusReport, hstatus]
  | other | handled | orphan | upgrade | resolve | start | refuse | push | lastArc | release
  | leave | pushRoot | lastGuard | dropGuard | cancel | free | cancelInside | freeInside
  | dropped => exact (List.append_nil _).symm

theorem change_guard (h : Change s l s') (hl : l ≠ .dropGuard) : s'.guard = s.guard := by
  cases h with
  | lastGuard | dropGuard => exact absurd rfl hl
  | enter | other | handled | orphan | upgrade | resolve | start | refuse | push | lastArc
  | release | leave | pushRoot | cancel | free | cancelInside | freeInside | dropped => rfl

/-- The attempts at `t` that callbacks have still to make. -/
def asking (callbacks : List Callback) (t : String) : Nat := callbacks.countP (·.phase.asks t)

theorem asking_set {callbacks : List Callback} {c : Nat} {cb : Callback}
    (hc : callbacks[c]? = some cb) (cb' : Callback) (t : String) :
    asking (callbacks.set c cb') t + (cb.phase.asks t).toNat =
      asking callbacks t + (cb'.phase.asks t).toNat :=
  countP_set hc _ cb'

theorem asks_upgraded (request : Request) (t : String) :
    (Phase.upgraded request).asks t = decide (request.queryName = t) := rfl

/-- Each target that the root browse has handled was attempted, or is about to be, once. -/
def Once (attempts : List Attempt) (s : Backend) : Prop :=
  ∀ t, attempts.countP (·.queryName = t) + asking s.callbacks t = if t ∈ s.rootSeen then 1 else 0

theorem once_quiet (hs : Once attempts s) (hseen : s'.rootSeen = s.rootSeen)
    (hasking : ∀ t, asking s'.callbacks t = asking s.callbacks t) : Once (attempts ++ []) s' := by
  intro t
  rw [List.append_nil, hasking, hseen]
  exact hs t

/-- The attempt that a callback makes is one it was about to make. -/
theorem once_attempt {c i : Nat} {records : List Record} {request : Request} {phase' : Phase}
    (ok : Bool) (hs : Once attempts s)
    (hc : s.callbacks[c]? = some ⟨i, records, .upgraded request⟩)
    (hseen : s'.rootSeen = s.rootSeen) (hphase : ∀ t, phase'.asks t = false)
    (hcallbacks : s'.callbacks = s.callbacks.set c ⟨i, records, phase'⟩) :
    Once (attempts ++ [⟨request.queryName, ok⟩]) s' := by
  intro t
  have hcount := asking_set hc ⟨i, records, phase'⟩ t
  rw [hphase, asks_upgraded] at hcount
  rw [hseen, ← hs t, hcallbacks, List.countP_append, List.countP_singleton]
  by_cases hname : request.queryName = t
  · simp only [hname, decide_true, Bool.toNat_true, Bool.toNat_false, if_true] at hcount ⊢
    omega
  · simp only [hname, decide_false, Bool.toNat_false, Bool.false_eq_true, if_false] at hcount ⊢
    omega

/-- A target that was not handled before is about to be attempted. -/
theorem once_upgrade {c : Nat} {nameHost : String} {rest : List Record} {ctx : BrowseContext}
    {request : Request} (hs : Once attempts s)
    (hc : s.callbacks[c]? = some ⟨0, .ptr nameHost :: rest, .walking⟩)
    (hctx : s.contexts[0]? = some ctx) (hunseen : trimDot nameHost ∉ ctx.seen)
    (hname : request.queryName = trimDot nameHost)
    (hseen : s'.rootSeen = (s.remember 0 ctx nameHost).rootSeen)
    (hcallbacks : s'.callbacks = s.callbacks.set c ⟨0, rest, .upgraded request⟩) :
    Once (attempts ++ []) s' := by
  intro t
  have hcount := asking_set hc ⟨0, rest, .upgraded request⟩ t
  have hold := hs t
  have hnew : trimDot nameHost ∉ s.rootSeen := by rw [rootSeen, hctx]; exact hunseen
  rw [asks_upgraded, hname] at hcount
  rw [hseen, rootSeen_remember hctx, hcallbacks, List.append_nil]
  by_cases ht : trimDot nameHost = t
  · subst ht
    rw [if_neg hnew] at hold
    rw [if_pos (Finset.mem_insert_self _ _)]
    simp only [Phase.asks, decide_true, Bool.toNat_true, Bool.toNat_false] at hcount
    omega
  · simp only [Finset.mem_insert, Ne.symm ht, false_or, ← hold]
    simp only [Phase.asks, ht, decide_false, Bool.toNat_false] at hcount
    omega

theorem attempted_of {c i : Nat} {records : List Record} {request : Request} (result : Int32)
    (hc : s.callbacks[c]? = some ⟨i, records, .upgraded request⟩) :
    s.attempted (.startBrowse c result) =
      [⟨request.queryName, (Windows.startBrowse request result).isOk⟩] := by
  simp only [attempted, hc]

theorem once_step (hb : Base s) (hroot : RootMeta s) (hstrong : 0 < s.strong)
    (hs : Once attempts s) (h : Change s l s') : Once (attempts ++ s.attempted l) s' := by
  have hput : ∀ {c i : Nat} {records rest : List Record} {phase phase' : Phase},
      s.callbacks[c]? = some ⟨i, records, phase⟩ → (∀ t, phase'.asks t = phase.asks t) →
      ∀ t, asking (s.callbacks.set c ⟨i, rest, phase'⟩) t = asking s.callbacks t :=
    fun hc hphase t => countP_set_congr hc (hphase t)
  cases h with
  | enter i status records hlive hi =>
    refine once_quiet hs rfl fun t => ?_
    simp [asking, List.countP_append, Phase.asks]
  | other c i rest hc => exact once_quiet hs rfl (hput hc fun _ => rfl)
  | handled c i nameHost rest ctx hc => exact once_quiet hs rfl (hput hc fun _ => rfl)
  | orphan c i nameHost rest ctx hc hctx hmeta hnone => omega
  | upgrade c i nameHost rest ctx request hc hctx hmeta hseen hstrong hname =>
    obtain rfl := (isMeta_iff hb hroot hctx).mp hmeta
    exact once_upgrade hs hc hctx hseen hname rfl rfl
  | resolve c i nameHost rest ctx label hc hctx hinstance =>
    have hi : i ≠ 0 := by
      intro hi
      cases hinstance.symm.trans ((isMeta_iff hb hroot hctx).mpr hi)
    exact once_quiet hs (rootSeen_remember_of_ne hi ctx nameHost) (hput hc fun _ => rfl)
  | start c i records request ctx result hc hstart =>
    rw [attempted_of result hc]
    exact once_attempt _ hs hc (rootSeen_append hroot ctx) (fun _ => rfl) rfl
  | refuse c i records request err result hc hstart =>
    rw [attempted_of result hc]
    exact once_attempt _ hs hc rfl (fun _ => rfl) rfl
  | push c i records child hc => exact once_quiet hs rfl (hput hc fun _ => rfl)
  | lastArc c i records hc => exact once_quiet hs rfl (hput hc fun _ => rfl)
  | release c i records hc => exact once_quiet hs rfl (hput hc fun _ => rfl)
  | leave c i hc => exact once_quiet hs rfl (hput hc fun _ => rfl)
  | cancel e | cancelInside c i records e | free e =>
    exact once_quiet hs (rootSeen_modify e fun _ => rfl) fun _ => rfl
  | freeInside c i records e rest hc =>
    exact once_quiet hs (rootSeen_modify e fun _ => rfl) (hput hc fun _ => rfl)
  | dropped c i records hc => exact once_quiet hs rfl (hput hc fun _ => rfl)
  | pushRoot | lastGuard | dropGuard => exact once_quiet hs rfl fun _ => rfl

/-! ## A child that was started gets its entry -/

/-- The children whose entry is still to be pushed and that browse target `t`. -/
def pushingFor (callbacks : List Callback) (names : List String) (t : String) : Nat :=
  callbacks.countP (pushes names t ·.phase)

/-- The contexts, the entries and the children on the way to their entry, against
the query names of the children. -/
structure Ledger (names : List String) (s : Backend) : Prop where
  size : s.contexts.length = names.length + 1
  entries : ∀ e ∈ s.entries, e < names.length + 1
  pushing : ∀ cb ∈ s.callbacks, ∀ child, cb.phase = .pushing child → child < names.length + 1
  counted : ∀ t, s.entriesFor names t + pushingFor s.callbacks names t = names.count t

theorem pushingFor_set {callbacks : List Callback} {c : Nat} {cb : Callback}
    (hc : callbacks[c]? = some cb) (cb' : Callback) (names : List String) (t : String) :
    pushingFor (callbacks.set c cb') names t + (pushes names t cb.phase).toNat =
      pushingFor callbacks names t + (pushes names t cb'.phase).toNat :=
  countP_set hc _ cb'

/-- A step that neither starts a child nor pushes an entry. -/
theorem ledger_quiet (hs : Ledger names s) (hsize : s'.contexts.length = s.contexts.length)
    (hentries : s'.entries = s.entries)
    (hcallbacks : ∀ cb ∈ s'.callbacks, cb ∈ s.callbacks ∨ ∀ child, cb.phase ≠ .pushing child)
    (hpushing : ∀ t, pushingFor s'.callbacks names t = pushingFor s.callbacks names t) :
    Ledger (names ++ []) s' := by
  rw [List.append_nil]
  refine ⟨hsize.trans hs.size, hentries ▸ hs.entries, ?_, ?_⟩
  · intro cb hcb child hphase
    rcases hcallbacks cb hcb with hold | hnot
    · exact hs.pushing cb hold child hphase
    · exact absurd hphase (hnot child)
  · intro t
    rw [entriesFor, hentries, hpushing]
    exact hs.counted t

theorem ledger_put {c i : Nat} {records rest : List Record} {phase phase' : Phase}
    (hs : Ledger names s) (hc : s.callbacks[c]? = some ⟨i, records, phase⟩)
    (hphase : ∀ child, phase ≠ .pushing child) (hphase' : ∀ child, phase' ≠ .pushing child)
    (hsize : s'.contexts.length = s.contexts.length) (hentries : s'.entries = s.entries)
    (hcallbacks : s'.callbacks = s.callbacks.set c ⟨i, rest, phase'⟩) :
    Ledger (names ++ []) s' := by
  refine ledger_quiet hs hsize hentries ?_ ?_
  · intro cb hcb
    rw [hcallbacks] at hcb
    rcases List.mem_or_eq_of_mem_set hcb with hold | rfl
    · exact .inl hold
    · exact .inr hphase'
  · intro t
    have hnot : ∀ {phase : Phase}, (∀ child, phase ≠ .pushing child) →
        pushes names t phase = false := by
      intro phase hne
      cases phase with
      | pushing child => exact absurd rfl (hne child)
      | walking | upgraded | releasing | dropping | returned => rfl
    rw [hcallbacks]
    exact countP_set_congr hc ((hnot hphase').trans (hnot hphase).symm)

theorem ledger_start {c i : Nat} {records : List Record} {request : Request} {ctx : BrowseContext}
    (hs : Ledger names s) (hc : s.callbacks[c]? = some ⟨i, records, .upgraded request⟩) :
    Ledger (names ++ [request.queryName]) ({ s with contexts := s.contexts ++ [ctx] }.put c
      ⟨i, records, .pushing s.contexts.length⟩) := by
  refine ⟨?_, ?_, ?_, ?_⟩
  · simp [put, hs.size]
  · intro e he
    have hold := hs.entries e he
    rw [List.length_append]
    omega
  · intro cb hcb child hphase
    rw [List.length_append, List.length_singleton]
    rcases List.mem_or_eq_of_mem_set hcb with hold | rfl
    · have hlt := hs.pushing cb hold child hphase
      omega
    · obtain rfl := Phase.pushing.inj hphase
      rw [hs.size]
      omega
  · intro t
    have hentries : s.entriesFor (names ++ [request.queryName]) t = s.entriesFor names t := by
      refine List.countP_congr fun e he => ?_
      rw [childName_append (hs.entries e he)]
    have hold : pushingFor s.callbacks (names ++ [request.queryName]) t =
        pushingFor s.callbacks names t := by
      refine List.countP_congr fun cb hcb => ?_
      cases hphase : cb.phase with
      | pushing child =>
        simp only [pushes]
        rw [childName_append (hs.pushing cb hcb child hphase)]
      | walking | upgraded | releasing | dropping | returned => exact Iff.rfl
    have hnew := pushingFor_set hc ⟨i, records, .pushing s.contexts.length⟩
      (names ++ [request.queryName]) t
    have hname : pushes (names ++ [request.queryName]) t (.pushing s.contexts.length) =
        decide (request.queryName = t) := by
      simp only [pushes, hs.size, childName_new, Option.some.injEq]
    have hnone : pushes (names ++ [request.queryName]) t (.upgraded request) = false := rfl
    have hcounted := hs.counted t
    rw [hname, hnone, hold] at hnew
    rw [List.count_append, List.count_singleton]
    change s.entriesFor _ t + pushingFor (s.callbacks.set c _) _ t = _
    rw [hentries]
    by_cases heq : request.queryName = t
    · simp only [heq, decide_true, Bool.toNat_true, Bool.toNat_false, beq_self_eq_true,
        if_true] at hnew ⊢
      omega
    · simp only [heq, decide_false, Bool.toNat_false, beq_iff_eq, if_false] at hnew ⊢
      omega

theorem ledger_push {c i : Nat} {records : List Record} {child : Nat} (hs : Ledger names s)
    (hc : s.callbacks[c]? = some ⟨i, records, .pushing child⟩) :
    Ledger (names ++ [])
      ({ s with entries := s.entries ++ [child] }.put c ⟨i, records, .releasing⟩) := by
  rw [List.append_nil]
  refine ⟨hs.size, ?_, ?_, ?_⟩
  · intro e he
    rcases List.mem_append.mp he with hold | hnew
    · exact hs.entries e hold
    · rw [List.mem_singleton.mp hnew]
      exact hs.pushing _ (List.mem_of_getElem? hc) child rfl
  · intro cb hcb e hphase
    rcases List.mem_or_eq_of_mem_set hcb with hold | rfl
    · exact hs.pushing cb hold e hphase
    · cases hphase
  · intro t
    have hnew := pushingFor_set hc ⟨i, records, .releasing⟩ names t
    have hcounted := hs.counted t
    have hname : pushes names t (.pushing child) = decide (childName names child = some t) := rfl
    have hnone : pushes names t .releasing = false := rfl
    rw [hname, hnone] at hnew
    change (s.entries ++ [child]).countP _ + pushingFor (s.callbacks.set c _) names t = _
    rw [List.countP_append, List.countP_singleton]
    unfold entriesFor at hcounted
    by_cases heq : childName names child = some t
    · simp only [heq, decide_true, Bool.toNat_true, Bool.toNat_false, if_true] at hnew ⊢
      omega
    · simp only [heq, decide_false, Bool.toNat_false, Bool.false_eq_true, if_false] at hnew ⊢
      omega

theorem ledger_pushRoot (hs : Ledger names s) :
    Ledger (names ++ []) { s with rooted := true, entries := s.entries ++ [0] } := by
  rw [List.append_nil]
  refine ⟨hs.size, ?_, hs.pushing, ?_⟩
  · intro e he
    rcases List.mem_append.mp he with hold | hnew
    · exact hs.entries e hold
    · rw [List.mem_singleton.mp hnew]
      omega
  · intro t
    rw [← hs.counted t, entriesFor, List.countP_append]
    simp [entriesFor, childName]

theorem started_attempted {c i : Nat} {records : List Record} {request : Request} {result : Int32}
    {ctx : BrowseContext} (hc : s.callbacks[c]? = some ⟨i, records, .upgraded request⟩)
    (hstart : Windows.startBrowse request result = .ok ctx) :
    started (s.attempted (.startBrowse c result)) = [request.queryName] := by
  rw [attempted_of result hc, hstart]
  rfl

theorem started_refused {c i : Nat} {records : List Record} {request : Request} {result : Int32}
    {err : StartFailure} (hc : s.callbacks[c]? = some ⟨i, records, .upgraded request⟩)
    (hstart : Windows.startBrowse request result = .error err) :
    started (s.attempted (.startBrowse c result)) = [] := by
  rw [attempted_of result hc, hstart]
  rfl

theorem ledger_step (hguard : s'.guard = true) (hs : Ledger names s) (h : Change s l s') :
    Ledger (names ++ started (s.attempted l)) s' := by
  cases h with
  | enter i status records hlive hi =>
    refine ledger_quiet hs rfl rfl ?_ ?_
    · intro cb hcb
      rcases List.mem_append.mp hcb with hold | hnew
      · exact .inl hold
      · rw [List.mem_singleton.mp hnew]
        exact .inr (by simp)
    · intro t
      simp [pushingFor, List.countP_append, pushes]
  | other c i rest hc => exact ledger_put hs hc (by simp) (by simp) rfl rfl rfl
  | handled c i nameHost rest ctx hc => exact ledger_put hs hc (by simp) (by simp) rfl rfl rfl
  | orphan c i nameHost rest ctx hc =>
    exact ledger_put hs hc (by simp) (by simp) (List.length_set ..) rfl rfl
  | upgrade c i nameHost rest ctx request hc =>
    exact ledger_put hs hc (by simp) (by simp) (List.length_set ..) rfl rfl
  | resolve c i nameHost rest ctx label hc =>
    exact ledger_put hs hc (by simp) (by simp) (List.length_set ..) rfl rfl
  | start c i records request ctx result hc hstart =>
    rw [started_attempted hc hstart]
    exact ledger_start hs hc
  | refuse c i records request err result hc hstart =>
    rw [started_refused hc hstart]
    exact ledger_put hs hc (by simp) (by simp) rfl rfl rfl
  | push c i records child hc => exact ledger_push hs hc
  | lastArc c i records hc hlast =>
    exact absurd ((strong_eq_zero_iff.mp hlast).1.symm.trans hguard) (by simp)
  | release c i records hc => exact ledger_put hs hc (by simp) (by simp) rfl rfl rfl
  | leave c i hc => exact ledger_put hs hc (by simp) (by simp) rfl rfl rfl
  | pushRoot => exact ledger_pushRoot hs
  | lastGuard | dropGuard => cases hguard
  | cancel e | cancelInside c i records e | free e =>
    exact ledger_quiet hs (List.length_modify ..) rfl (fun _ => .inl) fun _ => rfl
  | freeInside c i records e rest hc =>
    exact ledger_put hs hc (by simp) (by simp) (List.length_modify ..) rfl rfl
  | dropped c i records hc => exact ledger_put hs hc (by simp) (by simp) rfl rfl rfl

/-! ## The whole cascade -/

/-- A callback returns when it has walked all its records. -/
def Walked (s : Backend) : Prop := ∀ cb ∈ s.callbacks, cb.phase = .returned → cb.records = []

theorem walked_step (hs : Walked s) (h : Change s l s') : Walked s' := by
  have hput : ∀ {c i : Nat} {rest : List Record} {phase' : Phase}, phase' ≠ .returned →
      ∀ cb ∈ s.callbacks.set c ⟨i, rest, phase'⟩, cb.phase = .returned → cb.records = [] := by
    intro c i rest phase' hphase' cb hcb hphase
    rcases List.mem_or_eq_of_mem_set hcb with hold | rfl
    · exact hs cb hold hphase
    · exact absurd hphase hphase'
  cases h with
  | enter i status records hlive hi =>
    intro cb hcb hphase
    rcases List.mem_append.mp hcb with hold | hnew
    · exact hs cb hold hphase
    · rw [List.mem_singleton.mp hnew] at hphase
      cases hphase
  | leave c i hc =>
    intro cb hcb hphase
    rcases List.mem_or_eq_of_mem_set hcb with hold | rfl
    · exact hs cb hold hphase
    · rfl
  | other | handled | orphan | upgrade | resolve | start | refuse | push | lastArc | release
  | freeInside | dropped => exact hput (by simp)
  | pushRoot | lastGuard | dropGuard | cancel | free | cancelInside => exact hs

/-- All attempts made by the labels have succeeded exactly if no name has a NUL and
every `DnsServiceBrowse` was accepted. -/
def Accepted (labels : List Label) (attempts : List Attempt) : Prop :=
  (∀ a ∈ attempts, a.ok = true) ↔ (∀ a ∈ attempts, '\x00' ∉ a.queryName.toList) ∧
    ∀ c result, Label.startBrowse c result ∈ labels → result = dnsRequestPending

theorem accepted_step (ha : Accepted labels attempts) (h : Change s l s') :
    Accepted (labels ++ [l]) (attempts ++ s.attempted l) := by
  have hquiet : (∀ c result, l ≠ .startBrowse c result) →
      Accepted (labels ++ [l]) (attempts ++ []) := by
    intro hl
    have hlabels : ∀ c result, Label.startBrowse c result ∈ labels ++ [l] ↔
        Label.startBrowse c result ∈ labels := by
      intro c result
      rw [List.mem_append, List.mem_singleton, or_iff_left (Ne.symm (hl c result))]
    unfold Accepted
    simp only [hlabels, List.append_nil]
    exact ha
  have hattempt : ∀ {c : Nat} {result : Int32} {name : String} {ok : Bool},
      (ok = true ↔ '\x00' ∉ name.toList ∧ result = dnsRequestPending) →
      Accepted (labels ++ [.startBrowse c result]) (attempts ++ [⟨name, ok⟩]) := by
    intro c result name ok hok
    have hresults : (∀ c' result', Label.startBrowse c' result' ∈
          labels ++ [.startBrowse c result] → result' = dnsRequestPending) ↔
        (∀ c' result', Label.startBrowse c' result' ∈ labels → result' = dnsRequestPending) ∧
          result = dnsRequestPending := by
      simp only [List.mem_append, List.mem_singleton, Label.startBrowse.injEq]
      constructor
      · intro h
        exact ⟨fun c' result' hold => h c' result' (.inl hold), h c result (.inr ⟨rfl, rfl⟩)⟩
      · rintro ⟨hold, hnew⟩ c' result' (hmem | ⟨-, rfl⟩)
        · exact hold c' result' hmem
        · exact hnew
    unfold Accepted at ha ⊢
    rw [hresults, List.forall_mem_append, List.forall_mem_append, List.forall_mem_singleton,
      List.forall_mem_singleton, ha, hok, and_and_and_comm]
  cases h with
  | start c i records request ctx result hc hstart =>
    rw [attempted_of result hc, hstart]
    obtain ⟨hnul, hresult, -⟩ := startBrowse_eq_ok.mp hstart
    exact hattempt (iff_of_true rfl ⟨hnul, hresult⟩)
  | refuse c i records request err result hc hstart =>
    rw [attempted_of result hc, hstart]
    refine hattempt (iff_of_false (by simp [Except.isOk, Except.toBool]) ?_)
    rintro ⟨hnul, hresult⟩
    cases hstart.symm.trans (startBrowse_eq_ok.mpr ⟨hnul, hresult, rfl⟩)
  | enter | other | handled | orphan | upgrade | resolve | push | lastArc | release | leave
  | pushRoot | lastGuard | dropGuard | cancel | free | cancelInside | freeInside | dropped =>
    exact hquiet (by simp)

/-- What holds of the cascade while the guard is alive. -/
structure Cascade (labels : List Label) (attempts : List Attempt) (s : Backend) : Prop where
  base : Base s
  rootMeta : RootMeta s
  guard : s.guard = true
  walked : Walked s
  accepted : Accepted labels attempts
  known : ∀ t, Known s.rootSeen s.callbacks t ↔ t ∈ delivered labels
  once : Once attempts s
  ledger : Ledger (started attempts) s
  sent : s.sent = statusErrors labels

theorem cascade_step (hs : Cascade labels attempts s) (hl : l ≠ .dropGuard)
    (h : step s l = some s') : Cascade (labels ++ [l]) (attempts ++ s.attempted l) s' := by
  have hchange := step_change h
  have hguard : s'.guard = true := (change_guard hchange hl).trans hs.guard
  exact {
    base := base_step hs.base (step_effect h)
    rootMeta := rootMeta_effect (step_effect h) hs.rootMeta
    guard := hguard
    walked := walked_step hs.walked hchange
    accepted := accepted_step hs.accepted hchange
    known := by
      intro t
      rw [change_known hs.rootMeta hchange, hs.known, delivered_snoc, List.mem_append]
    once := once_step hs.base hs.rootMeta (strong_pos_iff.mpr (.inl hs.guard)) hs.once hchange
    ledger := started_append attempts _ ▸ ledger_step hguard hs.ledger hchange
    sent := by rw [change_sent hchange, hs.sent, statusErrors_snoc] }

/-- The failed attempts are the ones that started no child. -/
theorem count_started (attempts : List Attempt) (t : String) :
    (started attempts).count t + attempts.countP (fun a => !a.ok && a.queryName = t) =
      attempts.countP (·.queryName = t) := by
  induction attempts with
  | nil => rfl
  | cons a attempts ih =>
    have hcons : started (a :: attempts) = started [a] ++ started attempts :=
      started_append [a] attempts
    rw [hcons, List.count_append, List.countP_cons, List.countP_cons, ← ih]
    by_cases hname : a.queryName = t
    · cases hok : a.ok with
      | true => simp [started, hok, hname]; omega
      | false => simp [started, hok, hname]; omega
    · cases hok : a.ok with
      | true => simp [started, hok, hname]
      | false => simp [started, hok, hname]

/-- What is left when all callbacks of the root have returned. -/
theorem cascade_returned (hs : Cascade labels attempts s)
    (hreturned : ∀ cb ∈ s.callbacks, cb.ctx = 0 → cb.phase = .returned) (t : String) :
    (attempts.countP (·.queryName = t) = if t ∈ delivered labels then 1 else 0) ∧
      s.entriesFor (started attempts) t = (started attempts).count t := by
  -- a callback that is about to start a child or to push an entry is one of the root
  have hidle : ∀ cb ∈ s.callbacks, cb.phase.holds = false := by
    intro cb hcb
    by_contra hholds
    rw [Bool.not_eq_false] at hholds
    rw [hreturned cb hcb (hs.base.holder cb hcb hholds)] at hholds
    cases hholds
  have hasking : asking s.callbacks t = 0 := by
    refine List.countP_eq_zero.mpr fun cb hcb hasks => ?_
    have hholds := hidle cb hcb
    cases hphase : cb.phase <;> simp [hphase, Phase.asks, Phase.holds] at hasks hholds
  have hpushing : pushingFor s.callbacks (started attempts) t = 0 := by
    refine List.countP_eq_zero.mpr fun cb hcb hpushes => ?_
    have hholds := hidle cb hcb
    cases hphase : cb.phase <;> simp [hphase, pushes, Phase.holds] at hpushes hholds
  have hseen : t ∈ s.rootSeen ↔ t ∈ delivered labels := by
    rw [← hs.known, Known, or_iff_left]
    rintro ⟨cb, hcb, hctx, hmem⟩
    rw [hs.walked cb hcb (hreturned cb hcb hctx)] at hmem
    cases hmem
  have honce := hs.once t
  have hcounted := hs.ledger.counted t
  rw [hasking, Nat.add_zero] at honce
  rw [hpushing, Nat.add_zero] at hcounted
  simp only [hseen] at honce
  exact ⟨honce, hcounted⟩

/-- As long as the channel tells of statuses only, nothing can be reported. -/
theorem entriesFor_of_accounted (hsent : s.sent = statusErrors labels)
    (h : Accounted s labels attempts) (ht : t ∈ delivered labels) :
    s.entriesFor (started attempts) t = 1 := by
  obtain ⟨failed, reports, hperm, -, hcard, -, hentries⟩ := h
  have hlength := hperm.length_eq
  rw [hsent, List.length_append] at hlength
  have hfailed : failed = ∅ := Finset.card_eq_zero.mp (by omega)
  rw [hentries t ht, hfailed, if_neg (Finset.notMem_empty t)]

theorem accounted_of_cascade (hs : Cascade labels attempts s)
    (hreturned : ∀ cb ∈ s.callbacks, cb.ctx = 0 → cb.phase = .returned) :
    Accounted s labels attempts ↔ (∀ t ∈ delivered labels, '\x00' ∉ t.toList) ∧
      ∀ c result, Label.startBrowse c result ∈ labels → result = dnsRequestPending := by
  have hname : ∀ t, (∃ a ∈ attempts, a.queryName = t) ↔ t ∈ delivered labels := by
    intro t
    have honce := (cascade_returned hs hreturned t).1
    have hpos : (∃ a ∈ attempts, a.queryName = t) ↔ 0 < attempts.countP (·.queryName = t) := by
      rw [List.countP_pos_iff]
      simp
    rw [hpos, honce]
    by_cases ht : t ∈ delivered labels <;> simp [ht]
  have hnames : (∀ a ∈ attempts, '\x00' ∉ a.queryName.toList) ↔
      ∀ t ∈ delivered labels, '\x00' ∉ t.toList := by
    constructor
    · intro h t ht
      obtain ⟨a, ha, rfl⟩ := (hname t).mpr ht
      exact h a ha
    · exact fun h a ha => h _ ((hname _).mp ⟨a, ha, rfl⟩)
  have haccepted := hs.accepted
  unfold Accepted at haccepted
  rw [← hnames, ← haccepted]
  constructor
  · intro haccounted a ha
    have hdelivered : a.queryName ∈ delivered labels := (hname _).mp ⟨a, ha, rfl⟩
    have hentry := entriesFor_of_accounted hs.sent haccounted hdelivered
    obtain ⟨honce, hcounted⟩ := cascade_returned hs hreturned a.queryName
    rw [if_pos hdelivered, ← count_started, ← hcounted, hentry] at honce
    have hnone : attempts.countP (fun b => !b.ok && b.queryName = a.queryName) = 0 := by omega
    have hok := List.countP_eq_zero.mp hnone a ha
    simpa using hok
  · intro hok
    refine ⟨∅, [], by rw [hs.sent, List.append_nil], by simp, rfl, by simp, ?_⟩
    intro t ht
    obtain ⟨honce, hcounted⟩ := cascade_returned hs hreturned t
    have hnone : attempts.countP (fun a => !a.ok && a.queryName = t) = 0 := by
      refine List.countP_eq_zero.mpr fun a ha => ?_
      simp [hok a ha]
    rw [if_pos ht, ← count_started, hnone, Nat.add_zero] at honce
    rw [if_neg (Finset.notMem_empty _), hcounted, honce]

end

end Backend

open Backend

/-- Nothing has happened yet. -/
theorem cascade_start {domain : Option String} {interfaceIndex : Option NonZeroU32}
    {result : Int32} {root : BrowseContext}
    (hroot : startBrowse (browseStart none domain interfaceIndex) result = .ok root) :
    Cascade [] [] (.start root) := by
  have hbase := base_start hroot
  obtain ⟨-, -, rfl⟩ := startBrowse_eq_ok.mp hroot
  exact {
    base := hbase
    rootMeta := ⟨_, rfl, rfl⟩
    guard := rfl
    walked := by rintro cb ⟨⟩
    accepted := by simp [Accepted]
    known := by simp [Known, rootSeen, start, delivered]
    once := by simp [Once, asking, rootSeen, start]
    ledger := by
      refine ⟨rfl, by rintro e ⟨⟩, by rintro cb ⟨⟩, ?_⟩
      simp [entriesFor, pushingFor, start, started]
    sent := rfl }

/-- **No type is lost exactly if no start of a child fails.** -/
theorem accounted_iff (domain : Option String) (interfaceIndex : Option NonZeroU32)
    (result : Int32) {root : BrowseContext}
    (hroot : startBrowse (browseStart none domain interfaceIndex) result = .ok root)
    (labels : List Label) {s : Backend} (h : run Backend.step (.start root) labels = some s)
    (hguard : .dropGuard ∉ labels)
    (hreturned : ∀ cb ∈ s.callbacks, cb.ctx = 0 → cb.phase = .returned) :
    Accounted s labels (outputs Backend.step Backend.attempted (.start root) labels) ↔
      (∀ t ∈ delivered labels, '\x00' ∉ t.toList) ∧
        ∀ c status, Label.startBrowse c status ∈ labels → status = dnsRequestPending := by
  have hcascade : Cascade labels
      (outputs Backend.step Backend.attempted (.start root) labels) s := by
    refine run_guarded
      (P := fun ls t => Cascade ls (outputs Backend.step Backend.attempted (.start root) ls) t)
      (G := fun ls t l => run Backend.step (.start root) ls = some t ∧ l ≠ .dropGuard)
      (cascade_start hroot) ?_ h ?_
    · rintro ls t l t' ht ⟨hrun, hl⟩ hstep
      rw [outputs_snoc hrun]
      exact cascade_step ht hl hstep
    · rintro pre l post t rfl ht
      refine ⟨ht, ?_⟩
      rintro rfl
      exact hguard (by simp)
  exact accounted_of_cascade hcascade hreturned

/-- One type, which the OS refuses to browse. -/
def refusedType : List Label :=
  [.pushRoot, .enter 0 0 [.ptr "_ipp._tcp.local."], .handleRecord 0, .startBrowse 0 1450,
    .dropArc 0, .leave 0]

/-- `DnsServiceBrowse` returns `ERROR_NO_SYSTEM_RESOURCES` for the only type: it has
no entry, and nothing is on the channel. -/
theorem type_lost :
    startBrowse (browseStart none none none) dnsRequestPending = .ok metaRoot ∧
    ∃ s, run Backend.step (.start metaRoot) refusedType = some s ∧
      (∀ cb ∈ s.callbacks, cb.phase = .returned) ∧
      delivered refusedType = ["_ipp._tcp.local"] ∧ s.entries = [0] ∧ s.sent = [] ∧
      ¬ Accounted s refusedType
        (outputs Backend.step Backend.attempted (.start metaRoot) refusedType) := by
  have hdelivered : delivered refusedType = ["_ipp._tcp.local"] := by decide +kernel
  refine ⟨startBrowse_metaRoot, _, rfl, ?_, hdelivered, rfl, rfl, ?_⟩
  · intro cb hcb
    rw [List.mem_singleton.mp hcb]
  · intro haccounted
    cases entriesFor_of_accounted rfl haccounted (hdelivered ▸ List.mem_singleton_self _)

/-- One type, announced twice, which the OS browses. -/
def acceptedType : List Label :=
  [.pushRoot, .enter 0 0 [.ptr "_ipp._tcp.local.", .other, .ptr "_ipp._tcp.local"],
    .handleRecord 0, .startBrowse 0 dnsRequestPending, .pushEntry 0, .dropArc 0, .handleRecord 0,
    .handleRecord 0, .leave 0]

theorem accounted_iff_example :
    ∃ s, run Backend.step (.start metaRoot) acceptedType = some s ∧
      Accounted s acceptedType
        (outputs Backend.step Backend.attempted (.start metaRoot) acceptedType) := by
  refine ⟨_, rfl, ?_⟩
  refine (accounted_iff none none dnsRequestPending startBrowse_metaRoot acceptedType rfl
    (by decide) ?_).mpr ⟨by decide +kernel, ?_⟩
  · intro cb hcb _
    rw [List.mem_singleton.mp hcb]
  · simp [acceptedType]

end MdnsSdDiscovery.Windows
