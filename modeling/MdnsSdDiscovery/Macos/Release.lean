import MdnsSdDiscovery.Lib.Runs
import MdnsSdDiscovery.Macos.Pump
import Mathlib.Data.List.Nodup

/-!
# The release of what the pump owns

Whatever path leads out of `run_pump`, its trace is what the pump did, without a
release (`Unreleased`), followed by what the locals do when they are dropped.
`Released` is what `dns_sd.h` asks for, read off such a trace
(`runPump_released`).
-/

namespace MdnsSdDiscovery.Macos

open Runs

/-! ## What a call uses -/

/-- The call releases a reference, a context or the state. -/
def Native.isRelease : Native → Bool
  | .deallocate _ | .dropContext _ | .dropState => true
  | _ => false

/-- The call releases what callbacks borrow. -/
def Native.isDrop : Native → Bool
  | .dropContext _ | .dropState => true
  | _ => false

/-- The call uses a reference: by name, as the owner of the descriptor that is
polled or of the operation that replies, or as the parent of the operation that
is deallocated. -/
def Native.uses (ref : Ref) : Native → Bool
  | .refSockFD r _ | .processResult r => r = ref
  | .browse shared .. => shared = ref
  | .poll .. | .callback _ => ref = .parent
  | .deallocate r => r = ref ∨ ref = .parent
  | _ => false

/-- The number and the status of a `DNSServiceBrowse`. -/
def Native.started? : Native → Option (Nat × Int32)
  | .browse _ call _ _ _ _ err => some (call, err)
  | _ => none

def Native.created? : Native → Option Int32
  | .createConnection err => some err
  | _ => none

/-- The reference that a `DNSServiceBrowse` initialised. -/
def openedRef? (start : Nat × Int32) : Option Ref :=
  if start.2 = noError then some (.op start.1) else none

/-- The `DNSServiceBrowse` calls of a trace. -/
def starts (trace : List Native) : List (Nat × Int32) := trace.filterMap Native.started?

/-- **What `dns_sd.h` asks for.** -/
structure Released (env : Environment) (trace : List Native) : Prop where
  /-- The parent is deallocated once if it was created, and never otherwise. -/
  created : trace.filterMap Native.created? = [env.createConnection]
  parent : trace.count (.deallocate .parent) = if env.createConnection = noError then 1 else 0
  /-- An operation is deallocated once if it was started, and never otherwise. -/
  op : ∀ call, trace.count (.deallocate (.op call)) = if (call, noError) ∈ starts trace then 1 else 0
  failed : ∀ call err, (call, err) ∈ starts trace → err ≠ noError →
    .deallocate (.op call) ∉ trace
  opsFirst : ∀ pre post, trace = pre ++ .deallocate .parent :: post →
    ∀ call, .deallocate (.op call) ∉ post
  /-- Nothing is used after its deallocation. -/
  unused : ∀ pre ref post, trace = pre ++ .deallocate ref :: post →
    ∀ call ∈ post, call.uses ref = false
  /-- The contexts and the state are released once, after everything else, and
  the state, which the contexts borrow, is the last. -/
  context : ∀ isMeta, trace.count (.dropContext isMeta) = 1
  state : trace.count .dropState = 1
  dropsLast : ∀ pre drop post, trace = pre ++ drop :: post → drop.isDrop = true →
    ∀ call ∈ post, call.isDrop = true
  stateLast : trace.getLast? = some .dropState

/-! ## The pump before it is released -/

/-- A pump whose connection is open, with the operations that were started. -/
structure Unreleased (p : Pump) : Prop where
  shared : p.conn.shared = .parent
  trace : ∀ call ∈ p.trace, call.isRelease = false
  created : p.trace.filterMap Native.created? = [noError]
  ops : p.conn.ops = (starts p.trace).filterMap openedRef?
  calls : (starts p.trace).map Prod.fst = List.range p.browses

section
variable {native : Nat → Int32} {p q : Pump} {call : Native}

theorem unreleased_connected (request : Request) : Unreleased (connected request) := by
  constructor <;> simp [connected, starts, Native.isRelease, Native.created?, Native.started?]

/-- Only the connection, the trace and the count of the browses matter. -/
theorem Unreleased.congr (h : Unreleased p) (hconn : q.conn = p.conn) (htrace : q.trace = p.trace)
    (hbrowses : q.browses = p.browses) : Unreleased q := by
  constructor
  · rw [hconn]
    exact h.shared
  · rw [htrace]
    exact h.trace
  · rw [htrace]
    exact h.created
  · rw [hconn, htrace]
    exact h.ops
  · rw [htrace, hbrowses]
    exact h.calls

/-- A call that neither starts, creates nor releases anything. -/
theorem Unreleased.record (h : Unreleased p) (hrelease : call.isRelease = false)
    (hcreated : call.created? = none) (hstarted : call.started? = none) :
    Unreleased (p.record call) := by
  have hstarts : starts (p.trace ++ [call]) = starts p.trace :=
    filterMap_snoc_none hstarted p.trace
  constructor
  · exact h.shared
  · intro c hc
    rcases List.mem_append.mp hc with hc | hc
    · exact h.trace c hc
    · rw [List.mem_singleton.mp hc]
      exact hrelease
  · exact (filterMap_snoc_none hcreated p.trace).trans h.created
  · rw [Pump.record, hstarts]
    exact h.ops
  · rw [Pump.record, hstarts]
    exact h.calls

/-- A browse adds its call, and its reference if it succeeds. -/
theorem Unreleased.browse (h : Unreleased p) {regtype domain : String} {interface : UInt32}
    {isMeta : Bool} {result : Except ServiceBrowseError Unit}
    (hb : p.browse native regtype domain interface isMeta = (q, result)) : Unreleased q := by
  obtain ⟨-, ⟨rfl, -⟩ | ⟨rc, dc, hq⟩⟩ := Pump.browse_cases hb
  · exact h
  · have hstarted : (Native.browse p.conn.shared p.browses isMeta rc dc interface
        (native p.browses)).started? = some (p.browses, native p.browses) := rfl
    have hstarts : starts (p.trace ++ [.browse p.conn.shared p.browses isMeta rc dc interface
        (native p.browses)]) = starts p.trace ++ [(p.browses, native p.browses)] :=
      filterMap_snoc_some hstarted p.trace
    have htrace : ∀ c ∈ p.trace ++ [.browse p.conn.shared p.browses isMeta rc dc interface
        (native p.browses)], c.isRelease = false := by
      intro c hc
      rcases List.mem_append.mp hc with hc | hc
      · exact h.trace c hc
      · rw [List.mem_singleton.mp hc]
        rfl
    have hcalls : (starts p.trace ++ [(p.browses, native p.browses)]).map Prod.fst =
        List.range (p.browses + 1) := by
      rw [List.map_append, h.calls, List.range_succ]
      rfl
    rcases hq with ⟨hne, rfl, -⟩ | ⟨heq, -, rfl⟩
    · refine ⟨h.shared, htrace, (filterMap_snoc_none rfl p.trace).trans h.created, ?_, ?_⟩
      · have hnone : openedRef? (p.browses, native p.browses) = none := if_neg hne
        simp only [Pump.record, hstarts, filterMap_snoc_none hnone]
        exact h.ops
      · simp only [Pump.record, hstarts]
        exact hcalls
    · refine ⟨h.shared, htrace, (filterMap_snoc_none rfl p.trace).trans h.created, ?_, ?_⟩
      · have hsome : openedRef? (p.browses, native p.browses) = some (.op p.browses) := if_pos heq
        simp only [Pump.record, hstarts, filterMap_snoc_some hsome, h.ops]
      · simp only [Pump.record, hstarts]
        exact hcalls

theorem Unreleased.startPendingBrowses (h : Unreleased p) :
    Unreleased (p.startPendingBrowses native) := by
  refine Pump.startPendingBrowses_rule (I := Unreleased) (h.congr rfl rfl rfl) ?_
  intro q key hq
  cases hb : q.browse native key.1 key.2 q.state.interface false with
  | mk u result =>
    have hu := hq.browse hb
    cases result <;> simp only [Pump.startPending, hb] <;> exact hu.congr rfl rfl rfl

theorem Unreleased.dispatchAll (h : Unreleased p) (turn : Turn) :
    Unreleased (p.dispatchAll turn) := by
  refine Pump.dispatchAll_rule (I := Unreleased) (h.record rfl rfl rfl) ?_ ?_
  · intro q cb hq
    exact (hq.record rfl rfl rfl).congr rfl rfl rfl
  · intro q hq
    exact hq.record rfl rfl rfl

/-- **No pass of the loop releases anything**, however it ends. -/
theorem Unreleased.pumpTurn (h : Unreleased p) (native : Nat → Int32) (fd : Int32) (turn : Turn) :
    Unreleased (p.pumpTurn native fd turn).1 := by
  refine Pump.pumpTurn_rule fd h (h.record rfl rfl rfl) ?_ ?_
  · intro q hq
    exact hq.dispatchAll turn
  · intro q hq
    exact hq.startPendingBrowses

theorem Unreleased.pumpLoop (h : Unreleased p) (native : Nat → Int32) (fd : Int32)
    (turns : List Turn) :
    Unreleased (p.pumpLoop native fd turns).1 := by
  induction turns generalizing p with
  | nil => exact h
  | cons turn turns ih =>
    have hturn := h.pumpTurn native fd turn
    rw [Pump.pumpLoop]
    cases ht : p.pumpTurn native fd turn with
    | mk q result =>
      rw [ht] at hturn
      cases result with
      | none => exact ih hturn
      | some r => exact hturn

end

/-! ## The releases -/

/-- Where a list without repetition at its end can be split at `x`. -/
theorem split_at_last {α : Type*} {x : α} {front tail pre post : List α} (hfront : x ∉ front)
    (htail : tail.Nodup) (h : front ++ tail = pre ++ x :: post) :
    ∃ before, tail = before ++ x :: post ∧ x ∉ post := by
  have hmem : x ∈ tail := by
    have : x ∈ front ++ tail := h ▸ List.mem_append_right _ List.mem_cons_self
    exact (List.mem_append.mp this).resolve_left hfront
  obtain ⟨before, after, rfl⟩ := List.append_of_mem hmem
  have hbefore : x ∉ before := fun hx =>
    (List.nodup_append.mp htail).2.2 x hx x List.mem_cons_self rfl
  have hafter : x ∉ after := (List.nodup_cons.mp (List.nodup_append.mp htail).2.1).1
  rw [← List.append_assoc] at h
  obtain ⟨-, -, rfl⟩ := (List.append_cons_inj_of_notMem (by simp [hfront, hbefore]) hafter).mp h
  exact ⟨before, rfl, hafter⟩

/-- The locals are dropped once each, after everything else. -/
theorem drops_of_front {front : List Native} (h : ∀ call ∈ front, call.isDrop = false) :
    (∀ isMeta, (front ++ dropLocals).count (.dropContext isMeta) = 1) ∧
    (front ++ dropLocals).count .dropState = 1 ∧
    (∀ pre drop post, front ++ dropLocals = pre ++ drop :: post → drop.isDrop = true →
      ∀ call ∈ post, call.isDrop = true) ∧
    (front ++ dropLocals).getLast? = some .dropState := by
  have hfront : ∀ drop : Native, drop.isDrop = true → drop ∉ front := by
    intro drop hd hmem
    rw [h drop hmem] at hd
    cases hd
  refine ⟨?_, ?_, ?_, ?_⟩
  · intro isMeta
    rw [List.count_append, List.count_eq_zero_of_not_mem (hfront _ rfl)]
    cases isMeta <;> rfl
  · rw [List.count_append, List.count_eq_zero_of_not_mem (hfront _ rfl)]
    rfl
  · intro pre drop post heq hd call hcall
    obtain ⟨before, hsplit, -⟩ := split_at_last (hfront drop hd) (by decide) heq
    have hmem : call ∈ dropLocals := by
      rw [hsplit]
      exact List.mem_append_right _ (List.mem_cons_of_mem _ hcall)
    exact (by decide : ∀ c ∈ dropLocals, c.isDrop = true) call hmem
  · rw [List.getLast?_append]
    rfl

section
variable {p : Pump}

/-- The operations are those of the calls that succeeded. -/
theorem Unreleased.mem_ops (h : Unreleased p) (ref : Ref) :
    ref ∈ p.conn.ops ↔ ∃ call, ref = .op call ∧ (call, noError) ∈ starts p.trace := by
  rw [h.ops, List.mem_filterMap]
  constructor
  · rintro ⟨⟨call, err⟩, hmem, href⟩
    unfold openedRef? at href
    by_cases herr : err = noError
    · rw [if_pos herr] at href
      exact ⟨call, (Option.some.inj href).symm, herr ▸ hmem⟩
    · rw [if_neg herr] at href
      cases href
  · rintro ⟨call, rfl, hmem⟩
    exact ⟨(call, noError), hmem, if_pos rfl⟩

theorem Unreleased.nodup_calls (h : Unreleased p) : ((starts p.trace).map Prod.fst).Nodup := by
  rw [h.calls]
  exact List.nodup_range

theorem Unreleased.nodup_ops (h : Unreleased p) : p.conn.ops.Nodup := by
  rw [h.ops]
  refine h.nodup_calls.of_map.filterMap ?_
  rintro ⟨c, e⟩ ⟨c', e'⟩ ref hc hc'
  unfold openedRef? at hc hc'
  by_cases he : e = noError
  · by_cases he' : e' = noError
    · rw [if_pos he] at hc
      rw [if_pos he'] at hc'
      cases hc
      cases hc'
      rw [he, he']
    · rw [if_neg he'] at hc'
      cases hc'
  · rw [if_neg he] at hc
    cases hc

/-- The operations first, the parent last, each once. -/
theorem Unreleased.nodup_drop (h : Unreleased p) : p.conn.drop.Nodup := by
  unfold SharedConnection.drop
  rw [h.shared]
  refine List.Nodup.append ?_ (List.nodup_singleton _) ?_
  · exact h.nodup_ops.map fun _ _ => Native.deallocate.inj
  · intro call hops hparent
    rw [List.mem_singleton.mp hparent] at hops
    obtain ⟨ref, href, heq⟩ := List.mem_map.mp hops
    obtain ⟨c, rfl, -⟩ := (h.mem_ops ref).mp href
    cases heq

theorem Unreleased.mem_drop (h : Unreleased p) (call : Native) :
    call ∈ p.conn.drop ↔ ∃ ref, call = .deallocate ref ∧ (ref ∈ p.conn.ops ∨ ref = .parent) := by
  unfold SharedConnection.drop
  rw [List.mem_append, List.mem_map, List.mem_singleton, h.shared]
  constructor
  · rintro (⟨ref, href, rfl⟩ | rfl)
    · exact ⟨ref, rfl, .inl href⟩
    · exact ⟨.parent, rfl, .inr rfl⟩
  · rintro ⟨ref, rfl, href | rfl⟩
    · exact .inl ⟨ref, href, rfl⟩
    · exact .inr rfl

theorem Unreleased.deallocate_notMem (h : Unreleased p) (ref : Ref) :
    .deallocate ref ∉ p.trace := by
  intro hmem
  cases h.trace _ hmem

/-- How often a reference is deallocated in all. -/
theorem Unreleased.count_deallocate (h : Unreleased p) (ref : Ref) :
    (p.trace ++ p.conn.drop ++ dropLocals).count (.deallocate ref) =
      if ref ∈ p.conn.ops ∨ ref = .parent then 1 else 0 := by
  have hlocals : dropLocals.count (.deallocate ref) = 0 := by
    simp [dropLocals]
  rw [List.count_append, List.count_append, hlocals,
    List.count_eq_zero_of_not_mem (h.deallocate_notMem ref), Nat.zero_add, Nat.add_zero,
    h.nodup_drop.count]
  have hiff : .deallocate ref ∈ p.conn.drop ↔ ref ∈ p.conn.ops ∨ ref = .parent := by
    rw [h.mem_drop]
    constructor
    · rintro ⟨r, heq, hr⟩
      rw [Native.deallocate.inj heq]
      exact hr
    · intro hr
      exact ⟨ref, rfl, hr⟩
  by_cases hc : ref ∈ p.conn.ops ∨ ref = .parent
  · rw [if_pos hc, if_pos (hiff.mpr hc)]
  · rw [if_neg hc, if_neg fun hm => hc (hiff.mp hm)]

theorem Unreleased.starts_leave (h : Unreleased p) :
    starts (p.trace ++ p.conn.drop ++ dropLocals) = starts p.trace := by
  have hdrop : p.conn.drop.filterMap Native.started? = [] := by
    rw [List.filterMap_eq_nil_iff]
    intro call hcall
    obtain ⟨ref, rfl, -⟩ := (h.mem_drop call).mp hcall
    rfl
  unfold starts
  rw [List.filterMap_append, List.filterMap_append, hdrop, List.append_nil]
  exact List.append_nil _

/-- What follows a deallocation in the whole trace. -/
theorem Unreleased.after_deallocate (h : Unreleased p) {pre post : List Native} {ref : Ref}
    (heq : p.trace ++ p.conn.drop ++ dropLocals = pre ++ .deallocate ref :: post) :
    (∀ call ∈ post, (∃ r, call = .deallocate r ∧ r ≠ ref) ∨ call ∈ dropLocals) ∧
      (ref = .parent → post = dropLocals) := by
  have hnodup : (p.conn.drop ++ dropLocals).Nodup := by
    refine h.nodup_drop.append (by decide) ?_
    intro call hdrop hlocal
    obtain ⟨r, rfl, -⟩ := (h.mem_drop call).mp hdrop
    simp [dropLocals] at hlocal
  rw [List.append_assoc] at heq
  obtain ⟨before, hsplit, hpost⟩ := split_at_last (h.deallocate_notMem ref) hnodup heq
  constructor
  · intro call hcall
    have hmem : call ∈ p.conn.drop ++ dropLocals := by
      rw [hsplit]
      exact List.mem_append_right _ (List.mem_cons_of_mem _ hcall)
    rcases List.mem_append.mp hmem with hdrop | hlocal
    · obtain ⟨r, rfl, -⟩ := (h.mem_drop call).mp hdrop
      refine .inl ⟨r, rfl, ?_⟩
      rintro rfl
      exact hpost hcall
    · exact .inr hlocal
  · rintro rfl
    have hops : Native.deallocate .parent ∉ p.conn.ops.map Native.deallocate := by
      intro hmem
      obtain ⟨r, hr, heq'⟩ := List.mem_map.mp hmem
      obtain ⟨c, rfl, -⟩ := (h.mem_ops r).mp hr
      cases heq'
    have hdrop : p.conn.drop ++ dropLocals =
        p.conn.ops.map .deallocate ++ .deallocate .parent :: dropLocals := by
      rw [SharedConnection.drop, h.shared, List.append_assoc]
      rfl
    rw [hdrop] at hsplit
    exact ((List.append_cons_inj_of_notMem hops (by decide)).mp hsplit).2.2.symm

/-- **Leaving `run_pump` with a connection releases it.** -/
theorem Unreleased.released_leave (h : Unreleased p) {env : Environment}
    (henv : env.createConnection = noError) (result : Except ServiceBrowseError Unit) :
    Released env (p.leave result).trace := by
  have hfront : ∀ call ∈ p.trace ++ p.conn.drop, call.isDrop = false := by
    intro call hcall
    rcases List.mem_append.mp hcall with htrace | hdrop
    · have hrelease := h.trace call htrace
      cases call <;> first | rfl | cases hrelease
    · obtain ⟨ref, rfl, -⟩ := (h.mem_drop call).mp hdrop
      rfl
  have hdrops := drops_of_front hfront
  unfold Pump.leave
  constructor
  case created =>
    have hnone : (p.conn.drop ++ dropLocals).filterMap Native.created? = [] := by
      rw [List.filterMap_eq_nil_iff]
      intro call hcall
      rcases List.mem_append.mp hcall with hdrop | hlocal
      · obtain ⟨ref, rfl, -⟩ := (h.mem_drop call).mp hdrop
        rfl
      · exact (by decide : ∀ c ∈ dropLocals, c.created? = none) call hlocal
    rw [List.append_assoc, List.filterMap_append, h.created, hnone, henv]
    rfl
  case parent =>
    rw [h.count_deallocate, if_pos henv, if_pos (.inr rfl)]
  case op =>
    intro call
    rw [h.count_deallocate, h.starts_leave]
    by_cases hc : (call, noError) ∈ starts p.trace
    · rw [if_pos hc, if_pos (.inl ((h.mem_ops _).mpr ⟨call, rfl, hc⟩))]
    · rw [if_neg hc, if_neg]
      rintro (hops | ⟨⟨⟩⟩)
      obtain ⟨c, hcall, hmem⟩ := (h.mem_ops _).mp hops
      rw [← Ref.op.inj hcall] at hmem
      exact hc hmem
  case failed =>
    intro call err hmem herr hdealloc
    rw [h.starts_leave] at hmem
    have hpos := List.count_pos_iff.mpr hdealloc
    rw [h.count_deallocate] at hpos
    by_cases hops : Ref.op call ∈ p.conn.ops
    · obtain ⟨c, hcall, hok⟩ := (h.mem_ops _).mp hops
      rw [← Ref.op.inj hcall] at hok
      have hsame := List.inj_on_of_nodup_map h.nodup_calls hmem hok rfl
      exact herr (Prod.mk.inj hsame).2
    · rw [if_neg (by simp [hops])] at hpos
      cases hpos
  case opsFirst =>
    intro pre post heq call
    rw [(h.after_deallocate heq).2 rfl]
    simp [dropLocals]
  case unused =>
    intro pre ref post heq call hcall
    obtain ⟨hafter, hparent⟩ := h.after_deallocate heq
    have hlocals : ∀ c ∈ dropLocals, c.uses ref = false := by
      simp [dropLocals, Native.uses]
    rcases hafter call hcall with ⟨r, rfl, hne⟩ | hlocal
    · by_cases hp : ref = .parent
      · rw [hparent hp] at hcall
        exact hlocals _ hcall
      · simp [Native.uses, hne, hp]
    · exact hlocals call hlocal
  case context => exact hdrops.1
  case state => exact hdrops.2.1
  case dropsLast => exact hdrops.2.2.1
  case stateLast => exact hdrops.2.2.2

/-- Leaving `run_pump` without a connection. -/
theorem released_disconnected {env : Environment} (henv : env.createConnection ≠ noError) :
    Released env ([.createConnection env.createConnection] ++ dropLocals) := by
  have hfront : ∀ call ∈ [Native.createConnection env.createConnection], call.isDrop = false := by
    simp [Native.isDrop]
  have hdrops := drops_of_front hfront
  have hnone : ∀ ref, .deallocate ref ∉
      [Native.createConnection env.createConnection] ++ dropLocals := by
    simp [dropLocals]
  have hstarts : starts ([.createConnection env.createConnection] ++ dropLocals) = [] := rfl
  constructor
  case created => rfl
  case parent => rw [if_neg henv, List.count_eq_zero_of_not_mem (hnone _)]
  case op =>
    intro call
    rw [hstarts, if_neg List.not_mem_nil, List.count_eq_zero_of_not_mem (hnone _)]
  case failed => exact fun _ _ _ _ => hnone _
  case opsFirst =>
    intro pre post heq
    exact absurd (heq ▸ List.mem_append_right _ List.mem_cons_self) (hnone .parent)
  case unused =>
    intro pre ref post heq
    exact absurd (heq ▸ List.mem_append_right _ List.mem_cons_self) (hnone ref)
  case context => exact hdrops.1
  case state => exact hdrops.2.1
  case dropsLast => exact hdrops.2.2.1
  case stateLast => exact hdrops.2.2.2

end

/-- **Everything is released once and in order on every path out of `run_pump`.** -/
theorem runPump_released (env : Environment) (request : Request) (turns : List Turn)
    {ended : Ended} (h : runPump env request turns = some ended) :
    Released env ended.trace := by
  unfold runPump at h
  rcases create_cases env request with ⟨hc, err, he⟩ | ⟨hc, he⟩ <;> rw [he] at h
  · cases h
    exact released_disconnected hc
  · have hconnected := unreleased_connected request
    cases hs : setUp env request (connected request) with
    | mk q result =>
      have hq : Unreleased q := by
        rcases setUp_cases hs with ⟨rfl, -⟩ | ⟨_, hb, -⟩ | ⟨hb, -⟩
        · exact hconnected.record rfl rfl rfl
        · exact (hconnected.record rfl rfl rfl).browse hb
        · exact (hconnected.record rfl rfl rfl).browse hb
      dsimp only at h
      rw [hs] at h
      cases result with
      | error err =>
        cases h
        exact hq.released_leave hc _
      | ok fd =>
        have hloop := hq.pumpLoop env.browse fd turns
        cases hl : q.pumpLoop env.browse fd turns with
        | mk u ended =>
          dsimp only at h
          rw [hl] at h hloop
          cases ended with
          | none => cases h
          | some r =>
            cases h
            exact hloop.released_leave hc r

/-- One child browse starts, one is refused, and the daemon hangs up. -/
theorem runPump_released_example :
    ∃ ended, runPump ⟨noError, 5, fun n => if n = 2 then -65537 else 0⟩ (browseStart none none none)
        [dispatchTurn [metaAdd "_ipp" "_tcp.local." ".", metaAdd "_http" "_tcp.local." "."],
          ⟨false, 1, 0, "", pollhup, [], noError⟩] = some ended ∧
      ended.result = .ok () ∧
      Released ⟨noError, 5, fun n => if n = 2 then -65537 else 0⟩ ended.trace := by
  have hsome : ((runPump ⟨noError, 5, fun n => if n = 2 then -65537 else 0⟩
      (browseStart none none none)
      [dispatchTurn [metaAdd "_ipp" "_tcp.local." ".", metaAdd "_http" "_tcp.local." "."],
        ⟨false, 1, 0, "", pollhup, [], noError⟩]).any
      fun ended => decide (ended.result = .ok ())) = true := by
    decide +kernel
  obtain ⟨ended, hended, hresult⟩ := (Option.any_eq_true _ _).mp hsome
  exact ⟨ended, hended, of_decide_eq_true hresult, runPump_released _ _ _ hended⟩

end MdnsSdDiscovery.Macos
