import MdnsSdDiscovery.Lib.Runs
import MdnsSdDiscovery.Macos.Pump

/-!
# The cascade of a browse for all types

`seen` and `pending` change inside callbacks, `ops` between dispatches, and any
child browse may fail.  `Cascade` relates the three to the replies delivered
and the browses attempted:

* `Cascade.dispatch` and `Cascade.startPending`: a reply and an attempt keep it;
* `loopHead_cascade`: at every head of the loop nothing is pending, and no
  browse was ever started inside a dispatch.
-/

namespace MdnsSdDiscovery.Macos

open Runs

/-! ## What replies ask for and attempts leave -/

/-- The pair that an error-free add reply on the meta context announces. -/
def Callback.typeKey? (cb : Callback) : Option (String × String) :=
  if cb.errorCode = noError ∧ cb.isMeta ∧ cb.flags &&& flagsAdd ≠ 0 then
    some (metaReplyToTypeAndDomain (cstrToString cb.serviceName) (cstrToString cb.regtype)
      (cstrToString cb.replyDomain))
  else none

/-- The event of an error reply. -/
def Callback.failed (cb : Callback) : Event :=
  .error (.browseFailed s!"browse callback error: {cb.errorCode}")

/-- The event of an instance removal. -/
def Callback.removed (cb : Callback) : Event :=
  .ok (.removed ⟨cstrToString cb.serviceName, trimDot (cstrToString cb.regtype),
    trimDot (cstrToString cb.replyDomain), NonZeroU32.new cb.interfaceIndex⟩)

/-- The event that a reply sends at once. -/
def Callback.event? (cb : Callback) : Option Event :=
  if cb.errorCode ≠ noError then some cb.failed
  else if ¬ cb.isMeta ∧ cb.flags &&& flagsAdd = 0 then some cb.removed
  else none

/-- The resolve that an instance addition starts. -/
def Callback.resolve? (cb : Callback) : Option Resolve :=
  if cb.errorCode = noError ∧ ¬ cb.isMeta ∧ cb.flags &&& flagsAdd ≠ 0 then
    some ⟨cstrToString cb.serviceName, cstrToString cb.regtype, cstrToString cb.replyDomain,
      cb.interfaceIndex⟩
  else none

/-- The reference of a successful attempt. -/
def Attempt.ref? (a : Attempt) : Option Ref :=
  match a.result with
  | .ok () => some (.op a.call)
  | .error _ => none

/-- The event of a failed attempt. -/
def Attempt.error? (a : Attempt) : Option Event :=
  match a.result with
  | .ok () => none
  | .error err => some (.error err)

/-- **What a reply does**: it sends its event, announces a pair that was seen
before or a new one, or starts at most a resolve. -/
theorem browseCallback_cases (state : PumpState) (cb : Callback) :
    (∃ e, cb.typeKey? = none ∧ cb.event? = some e ∧ cb.resolve? = none ∧
      state.browseCallback cb = state.send e) ∨
    (∃ key, cb.typeKey? = some key ∧ cb.event? = none ∧ cb.resolve? = none ∧ key ∈ state.seen ∧
      state.browseCallback cb = state) ∨
    (∃ key, cb.typeKey? = some key ∧ cb.event? = none ∧ cb.resolve? = none ∧ key ∉ state.seen ∧
      state.browseCallback cb =
        { state with seen := insert key state.seen, pending := state.pending ++ [key] }) ∨
    (cb.typeKey? = none ∧ cb.event? = none ∧
      state.browseCallback cb =
        { state with resolves := state.resolves ++ cb.resolve?.toList }) := by
  unfold PumpState.browseCallback Callback.typeKey? Callback.event? Callback.resolve?
  dsimp only
  generalize metaReplyToTypeAndDomain (cstrToString cb.serviceName) (cstrToString cb.regtype)
    (cstrToString cb.replyDomain) = key
  by_cases herr : cb.errorCode = noError
  · cases hmeta : cb.isMeta with
    | true =>
      by_cases hadd : cb.flags &&& flagsAdd = 0
      · refine .inr (.inr (.inr ⟨?_, ?_, ?_⟩))
        · simp [hadd]
        · simp [herr]
        · simp [herr, hadd]
      · by_cases hseen : key ∈ state.seen
        · refine .inr (.inl ⟨key, ?_, ?_, ?_, hseen, ?_⟩)
          · simp [herr, hadd]
          · simp [herr]
          · simp
          · simp [herr, hadd, hseen]
        · refine .inr (.inr (.inl ⟨key, ?_, ?_, ?_, hseen, ?_⟩))
          · simp [herr, hadd]
          · simp [herr]
          · simp
          · simp [herr, hadd, hseen]
    | false =>
      by_cases hadd : cb.flags &&& flagsAdd = 0
      · refine .inl ⟨cb.removed, ?_, ?_, ?_, ?_⟩
        · simp
        · simp [herr, hadd]
        · simp [hadd]
        · simp [Callback.removed, herr, hadd]
      · refine .inr (.inr (.inr ⟨?_, ?_, ?_⟩))
        · simp
        · simp [herr, hadd]
        · simp [herr, hadd]
  · refine .inl ⟨cb.failed, ?_, ?_, ?_, ?_⟩
    · simp [herr]
    · simp [herr]
    · simp [herr]
    · simp [Callback.failed, herr]

/-! ## The invariant -/

/-- The pairs `seen` are those announced; each was attempted once or is
`pending`; the references are those of the attempts that succeeded; and the
events are those of the replies and of the attempts that failed. -/
structure Cascade (native : Nat → Int32) (pending : List (String × String)) (p : Pump) :
    Prop where
  nodup : (p.attempts.map Attempt.key ++ pending).Nodup
  seen : ∀ key, key ∈ p.state.seen ↔ key ∈ p.attempts.map Attempt.key ++ pending
  announced : ∀ key, key ∈ p.state.seen ↔ ∃ cb ∈ p.delivered, cb.typeKey? = some key
  ops : p.conn.ops = .op 0 :: p.attempts.filterMap Attempt.ref?
  results : ∀ a ∈ p.attempts, a.result = browseResult native a.key.1 a.key.2 a.call
  sent : p.state.sent.Perm
    (p.delivered.filterMap Callback.event? ++ p.attempts.filterMap Attempt.error?)

section
variable {native : Nat → Int32} {p : Pump} {pending : List (String × String)}

/-- One more reply keeps the invariant, when `new` is the pair that it is the
first to announce. -/
theorem Cascade.deliver (h : Cascade native pending p) {q : Pump} {cb : Callback}
    (new : Option (String × String))
    (hnew : ∀ key, new = some key → cb.typeKey? = some key ∧ key ∉ p.state.seen)
    (hold : ∀ key, cb.typeKey? = some key → key ∈ p.state.seen ∨ new = some key)
    (hattempts : q.attempts = p.attempts) (hops : q.conn.ops = p.conn.ops)
    (hdelivered : q.delivered = p.delivered ++ [cb])
    (hseen : ∀ key, key ∈ q.state.seen ↔ key ∈ p.state.seen ∨ new = some key)
    (hsent : q.state.sent = p.state.sent ++ cb.event?.toList) :
    Cascade native (pending ++ new.toList) q where
  nodup := by
    rw [hattempts, ← List.append_assoc]
    cases new with
    | none => simpa using h.nodup
    | some key =>
      refine h.nodup.append (List.nodup_singleton key) ?_
      intro k hk hkey
      rw [List.mem_singleton.mp hkey] at hk
      exact (hnew key rfl).2 ((h.seen key).mpr hk)
  seen := by
    intro key
    rw [hseen, h.seen, hattempts, ← List.append_assoc, List.mem_append (t := new.toList),
      Option.mem_toList]
  announced := by
    intro key
    rw [hseen, hdelivered, exists_mem_snoc, ← h.announced key]
    constructor
    · rintro (hk | hk)
      · exact .inl hk
      · exact .inr (hnew key hk).1
    · rintro (hk | hk)
      · exact .inl hk
      · exact hold key hk
  ops := by
    rw [hops, hattempts]
    exact h.ops
  results := by
    rw [hattempts]
    exact h.results
  sent := by
    rw [hsent, hdelivered, hattempts, filterMap_snoc]
    refine (h.sent.append_right _).trans ?_
    rw [List.append_assoc, List.append_assoc]
    exact List.perm_append_comm.append_left _

/-- A reply is one more that was delivered; a new pair becomes pending. -/
theorem Cascade.dispatch (h : Cascade native p.state.pending p) (cb : Callback) :
    Cascade native (p.dispatch cb).state.pending (p.dispatch cb) := by
  have hstate : (p.dispatch cb).state = p.state.browseCallback cb := rfl
  rcases browseCallback_cases p.state cb with
    ⟨e, hk, he, -, hcb⟩ | ⟨key, hk, he, -, hseen, hcb⟩ | ⟨key, hk, he, -, hseen, hcb⟩ |
      ⟨hk, he, hcb⟩ <;> rw [hcb] at hstate
  · have hpending : (p.dispatch cb).state.pending = p.state.pending ++ [] := by
      rw [hstate, List.append_nil]
      rfl
    rw [hpending]
    refine h.deliver none (by simp) (by simp [hk]) rfl rfl rfl ?_ ?_
    · simp [hstate, PumpState.send]
    · simp [hstate, PumpState.send, he]
  · have hpending : (p.dispatch cb).state.pending = p.state.pending ++ [] := by
      rw [hstate, List.append_nil]
    rw [hpending]
    refine h.deliver none (by simp) ?_ rfl rfl rfl ?_ ?_
    · intro k hkey
      rw [hk] at hkey
      exact .inl (Option.some.inj hkey ▸ hseen)
    · simp [hstate]
    · simp [hstate, he]
  · have hpending : (p.dispatch cb).state.pending = p.state.pending ++ [key] := by
      rw [hstate]
    rw [hpending]
    refine h.deliver (some key) ?_ ?_ rfl rfl rfl ?_ ?_
    · rintro k ⟨⟩
      exact ⟨hk, hseen⟩
    · intro k hkey
      exact .inr (hk.symm.trans hkey)
    · intro k
      rw [hstate, Finset.mem_insert, or_comm, eq_comm, Option.some_inj]
    · simp [hstate, he]
  · have hpending : (p.dispatch cb).state.pending = p.state.pending ++ [] := by
      rw [hstate, List.append_nil]
    rw [hpending]
    refine h.deliver none (by simp) (by simp [hk]) rfl rfl rfl ?_ ?_
    · simp [hstate]
    · simp [hstate, he]

/-- **What an attempt does**: a success adds its reference, a failure sends its
event. -/
theorem startPending_cases (native : Nat → Int32) (p : Pump) (key : String × String) :
    ∃ a : Attempt, a.key = key ∧ a.result = browseResult native key.1 key.2 a.call ∧
      (p.startPending native key).attempts = p.attempts ++ [a] ∧
      (p.startPending native key).conn.ops = p.conn.ops ++ a.ref?.toList ∧
      (p.startPending native key).state =
        { p.state with sent := p.state.sent ++ a.error?.toList } ∧
      (p.startPending native key).delivered = p.delivered := by
  cases hb : p.browse native key.1 key.2 p.state.interface false with
  | mk q result =>
    obtain ⟨hresult, hq⟩ := Pump.browse_cases hb
    have hkept : q.attempts = p.attempts ∧ q.state = p.state ∧ q.delivered = p.delivered ∧
        q.conn.ops = p.conn.ops ++ (Attempt.ref? ⟨key, p.browses, result⟩).toList := by
      rcases hq with ⟨rfl, err, rfl⟩ | ⟨rc, dc, ⟨-, rfl, err, rfl⟩ | ⟨-, rfl, rfl⟩⟩
      · exact ⟨rfl, rfl, rfl, (List.append_nil _).symm⟩
      · exact ⟨rfl, rfl, rfl, (List.append_nil _).symm⟩
      · exact ⟨rfl, rfl, rfl, rfl⟩
    obtain ⟨hattempts, hstate, hdelivered, hops⟩ := hkept
    refine ⟨⟨key, p.browses, result⟩, rfl, hresult, ?_⟩
    cases result with
    | ok u =>
      simp only [Pump.startPending, hb, hattempts, true_and]
      exact ⟨hops, by simp [hstate, Attempt.error?], hdelivered⟩
    | error err =>
      simp only [Pump.startPending, hb, hattempts, true_and]
      exact ⟨hops, by simp [hstate, Attempt.error?, PumpState.send], hdelivered⟩

/-- An attempt takes a pair from the pending ones. -/
theorem Cascade.startPending {key : String × String}
    (h : Cascade native (key :: pending) p) :
    Cascade native pending (p.startPending native key) := by
  obtain ⟨a, rfl, hresult, hattempts, hops, hstate, hdelivered⟩ := startPending_cases native p key
  have hkeys : (p.attempts ++ [a]).map Attempt.key ++ pending =
      p.attempts.map Attempt.key ++ a.key :: pending := by simp
  constructor
  · rw [hattempts, hkeys]
    exact h.nodup
  · rw [hattempts, hkeys, hstate]
    exact h.seen
  · rw [hdelivered, hstate]
    exact h.announced
  · rw [hops, hattempts, filterMap_snoc, h.ops]
    rfl
  · rw [hattempts]
    intro b hb
    rcases List.mem_append.mp hb with hb | hb
    · exact h.results b hb
    · rw [List.mem_singleton.mp hb]
      exact hresult
  · rw [hstate, hattempts, hdelivered, filterMap_snoc, ← List.append_assoc]
    exact h.sent.append_right _

/-- All pending pairs are attempted, and none is left. -/
theorem Cascade.startPendingBrowses (h : Cascade native p.state.pending p) :
    Cascade native [] (p.startPendingBrowses native) ∧
      (p.startPendingBrowses native).state.pending = [] := by
  have hfold : ∀ (keys : List (String × String)) (q : Pump), Cascade native keys q →
      q.state.pending = [] →
      Cascade native [] (keys.foldl (Pump.startPending native) q) ∧
        (keys.foldl (Pump.startPending native) q).state.pending = [] := by
    intro keys
    induction keys with
    | nil => exact fun q hq hnil => ⟨hq, hnil⟩
    | cons key keys ih =>
      intro q hq hnil
      obtain ⟨a, -, -, -, -, hstate, -⟩ := startPending_cases native q key
      refine ih (q.startPending native key) hq.startPending ?_
      rw [hstate]
      exact hnil
  exact hfold p.state.pending { p with state := { p.state with pending := [] } }
    ⟨h.nodup, h.seen, h.announced, h.ops, h.results, h.sent⟩ rfl

/-- The invariant is not about the trace. -/
theorem Cascade.record (h : Cascade native pending p) (call : Native) :
    Cascade native pending (p.record call) :=
  ⟨h.nodup, h.seen, h.announced, h.ops, h.results, h.sent⟩

/-- A dispatch keeps the invariant, whatever it delivers. -/
theorem Cascade.dispatchAll (h : Cascade native p.state.pending p) (turn : Turn) :
    Cascade native (p.dispatchAll turn).state.pending (p.dispatchAll turn) := by
  refine Pump.dispatchAll_rule (I := fun q => Cascade native q.state.pending q) (h.record _) ?_ ?_
  · intro q cb hq
    exact hq.dispatch cb
  · intro q hq
    exact hq.record _

end

/-! ## No browse is started inside a dispatch -/

/-- The trace ends inside `DNSServiceProcessResult`. -/
def dispatching (trace : List Native) : Bool :=
  trace.foldl (fun inside call =>
    match call with
    | .processResult _ => true
    | .processed _ => false
    | _ => inside) false

def Native.isBrowse : Native → Bool
  | .browse .. => true
  | _ => false

/-- Every `DNSServiceBrowse` is called while no dispatch is running. -/
def NoReentry (trace : List Native) : Prop :=
  ∀ pre call, pre ++ [call] <+: trace → call.isBrowse = true → dispatching pre = false

section
variable {native : Nat → Int32} {p : Pump} {trace : List Native} {call : Native}

theorem dispatching_snoc (trace : List Native) (call : Native) :
    dispatching (trace ++ [call]) =
      match call with
      | .processResult _ => true
      | .processed _ => false
      | _ => dispatching trace := by
  rw [dispatching, List.foldl_append]
  cases call <;> rfl

theorem NoReentry.snoc {trace : List Native} (h : NoReentry trace)
    (hcall : call.isBrowse = true → dispatching trace = false) : NoReentry (trace ++ [call]) := by
  intro pre c hpre hc
  rcases List.prefix_concat_iff.mp hpre with heq | hold
  · obtain ⟨rfl, hlast⟩ := List.append_inj' heq rfl
    obtain rfl : c = call := by simpa using hlast
    exact hcall hc
  · exact h pre c hold hc

/-- Between dispatches, and so far without a browse inside one. -/
def Calm (p : Pump) : Prop := NoReentry p.trace ∧ dispatching p.trace = false

theorem Calm.startPending (h : Calm p) (key : String × String) :
    Calm (p.startPending native key) := by
  cases hb : p.browse native key.1 key.2 p.state.interface false with
  | mk q result =>
    have hq : Calm q := by
      obtain ⟨-, ⟨rfl, -⟩ | ⟨rc, dc, ⟨-, rfl, -⟩ | ⟨-, -, rfl⟩⟩⟩ := Pump.browse_cases hb
      · exact h
      · exact ⟨h.1.snoc fun _ => h.2, (dispatching_snoc _ _).trans h.2⟩
      · exact ⟨h.1.snoc fun _ => h.2, (dispatching_snoc _ _).trans h.2⟩
    cases result <;> simp only [Pump.startPending, hb] <;> exact hq

theorem Calm.startPendingBrowses (h : Calm p) : Calm (p.startPendingBrowses native) :=
  Pump.startPendingBrowses_rule (I := Calm) h fun _ key hq => hq.startPending key

theorem Calm.dispatchAll (h : Calm p) (turn : Turn) : Calm (p.dispatchAll turn) := by
  have hdone := List.foldlRecOn (motive := fun q => NoReentry q.trace) turn.callbacks Pump.dispatch
    (b := p.record (.processResult p.conn.shared)) (h.1.snoc (by simp [Native.isBrowse]))
    fun q hq cb _ => hq.snoc (by simp [Native.isBrowse])
  exact ⟨hdone.snoc (by simp [Native.isBrowse]), dispatching_snoc _ _⟩

end

/-! ## The heads of the loop -/

/-- What holds of the pump whenever `pump_loop` tests the stop flag. -/
structure LoopHead (native : Nat → Int32) (p : Pump) : Prop where
  pending : p.state.pending = []
  cascade : Cascade native [] p
  calm : Calm p

section
variable {native : Nat → Int32} {fd : Int32} {p q : Pump} {turn : Turn}

theorem LoopHead.record_poll (h : LoopHead native p) (fd rv : Int32) :
    LoopHead native (p.record (.poll fd rv)) :=
  ⟨h.pending, h.cascade.record _, h.calm.1.snoc (by simp [Native.isBrowse]),
    (dispatching_snoc _ _).trans h.calm.2⟩

/-- **A pass of the loop leads from head to head.** -/
theorem LoopHead.pumpTurn (h : LoopHead native p) (hturn : p.pumpTurn native fd turn = (q, none)) :
    LoopHead native q := by
  rcases Pump.pumpTurn_cases native fd p turn with
    ⟨-, he⟩ | ⟨result, -, he⟩ | ⟨err, -, he⟩ | ⟨-, he⟩ <;> rw [he] at hturn
  · cases hturn
  · obtain ⟨rfl, -⟩ := Prod.mk.inj hturn
    exact h.record_poll fd turn.rv
  · cases hturn
  · obtain ⟨rfl, -⟩ := Prod.mk.inj hturn
    have hpoll := h.record_poll fd turn.rv
    have hcascade := hpoll.cascade
    rw [← hpoll.pending] at hcascade
    obtain ⟨hdone, hnil⟩ := (hcascade.dispatchAll turn).startPendingBrowses
    exact ⟨hnil, hdone, (hpoll.calm.dispatchAll turn).startPendingBrowses⟩

end

theorem calm_connected (request : Request) : Calm (connected request) := by
  have hnil : NoReentry [] := by
    rintro pre c hpre
    exact absurd hpre.length_le (by simp)
  exact ⟨hnil.snoc (by simp [Native.isBrowse]), rfl⟩

/-- **`pump_loop` begins at a head**: the root browse is the first operation. -/
theorem loopHead_setUp {env : Environment} {request : Request} {q : Pump} {fd : Int32}
    (h : setUp env request (connected request) = (q, .ok fd)) : LoopHead env.browse q := by
  rcases setUp_cases h with ⟨-, err, hr⟩ | ⟨err, -, hr⟩ | ⟨hb, -⟩
  · cases hr
  · cases hr
  · obtain ⟨-, ⟨-, err, hr⟩ | ⟨rc, dc, ⟨-, -, err, hr⟩ | ⟨-, -, rfl⟩⟩⟩ := Pump.browse_cases hb
    · cases hr
    · cases hr
    · have hcalm : Calm ((connected request).record (.refSockFD .parent env.refSockFD)) :=
        ⟨(calm_connected request).1.snoc (by simp [Native.isBrowse]), rfl⟩
      refine ⟨rfl, ?_, hcalm.1.snoc fun _ => hcalm.2, (dispatching_snoc _ _).trans hcalm.2⟩
      constructor <;> simp [Pump.record, connected]

theorem loopHead_of_eq_some {env : Environment} {request : Request} {turns : List Turn} {p : Pump}
    (h : loopHead env request turns = some p) : LoopHead env.browse p := by
  unfold loopHead at h
  rcases create_cases env request with ⟨-, err, hc⟩ | ⟨-, hc⟩ <;> rw [hc] at h
  · cases h
  · dsimp only at h
    split at h
    · cases h
    · rename_i q fd hsetUp
      split at h
      · cases h
      · rename_i r hloop
        cases h
        exact Pump.pumpLoop_invariant (I := LoopHead env.browse)
          (fun _ _ _ hp hturn => hp.pumpTurn hturn) (loopHead_setUp hsetUp) hloop

/-- **The cascade is exactly-once and isolates failures**, at every head of the
loop and for every request. -/
theorem loopHead_cascade (env : Environment) (request : Request) (turns : List Turn) {p : Pump}
    (h : loopHead env request turns = some p) :
    p.state.pending = [] ∧ Cascade env.browse [] p ∧ NoReentry p.trace := by
  have hhead := loopHead_of_eq_some h
  exact ⟨hhead.pending, hhead.cascade, hhead.calm.1⟩

/-- The second child browse is refused by the daemon. -/
theorem loopHead_cascade_example :
    ∃ p, loopHead ⟨noError, 5, fun n => if n = 2 then -65537 else 0⟩ (browseStart none none none)
        [dispatchTurn [metaAdd "_ipp" "_tcp.local." ".", metaAdd "_http" "_tcp.local." "."],
          dispatchTurn [metaAdd "_ipp" "_tcp" "local."]] = some p ∧
      p.conn.ops = [.op 0, .op 1] ∧ Cascade (fun n => if n = 2 then -65537 else 0) [] p := by
  have hsome : ((loopHead ⟨noError, 5, fun n => if n = 2 then -65537 else 0⟩
      (browseStart none none none)
      [dispatchTurn [metaAdd "_ipp" "_tcp.local." ".", metaAdd "_http" "_tcp.local." "."],
        dispatchTurn [metaAdd "_ipp" "_tcp" "local."]]).any
      fun p => decide (p.conn.ops = [.op 0, .op 1])) = true := by
    decide +kernel
  obtain ⟨p, hp, hops⟩ := (Option.any_eq_true _ _).mp hsome
  exact ⟨p, hp, of_decide_eq_true hops, (loopHead_cascade _ _ _ hp).2.1⟩

/-! ## One browse for each name -/

open Labels

/-- The reply is about the name `first.second.labels`, split after `k` of the
labels behind `second`, with any dots where the daemon may leave some. -/
def Callback.Spells (cb : Callback) (first second : String) (labels : List String) : Prop :=
  ∃ k dot lead trail, cstrToString cb.serviceName = first ∧
    cstrToString cb.regtype = join '.' (second :: labels.take k) ++ finalDot dot ∧
    cstrToString cb.replyDomain =
      separators '.' lead ++ join '.' (labels.drop k) ++ separators '.' trail

/-- **Wherever the daemon splits a name, it gives one key and one child browse.** -/
theorem metaReply_browsed_once (first second : String) (labels : List String)
    (h : ∀ l ∈ first :: second :: labels, IsLabel '.' l) :
    (∀ k dot lead trail,
      metaReplyToTypeAndDomain first (join '.' (second :: labels.take k) ++ finalDot dot)
        (separators '.' lead ++ join '.' (labels.drop k) ++ separators '.' trail) =
      (first ++ "." ++ second, join '.' labels)) ∧
    ∀ env request turns p, loopHead env request turns = some p →
      (∃ cb ∈ p.delivered, cb.errorCode = noError ∧ cb.isMeta = true ∧
        cb.flags &&& flagsAdd ≠ 0 ∧ cb.Spells first second labels) →
      (p.attempts.map Attempt.key).count (first ++ "." ++ second, join '.' labels) = 1 := by
  refine ⟨fun k dot lead trail => metaReplyToTypeAndDomain_labels h k dot lead trail, ?_⟩
  rintro env request turns p hp ⟨cb, hcb, herr, hmeta, hadd, k, dot, lead, trail, hn, hr, hd⟩
  have hkey : cb.typeKey? = some (first ++ "." ++ second, join '.' labels) := by
    rw [Callback.typeKey?, if_pos ⟨herr, hmeta, hadd⟩, hn, hr, hd,
      metaReplyToTypeAndDomain_labels h]
  have hcascade := (loopHead_of_eq_some hp).cascade
  have hmem := (hcascade.seen _).mp ((hcascade.announced _).mpr ⟨cb, hcb, hkey⟩)
  rw [List.append_nil] at hmem
  have hnodup := hcascade.nodup
  rw [List.append_nil] at hnodup
  exact List.count_eq_one_of_mem hnodup hmem

/-- `_http._tcp` in `example.com`, split and dotted in two ways. -/
def httpReplies : List Callback :=
  [metaAdd "_http" "_tcp.example." "com.", metaAdd "_http" "_tcp" ".example.com"]

theorem metaReply_browsed_once_example :
    metaReplyToTypeAndDomain "_http" (join '.' ["_tcp", "example"] ++ finalDot true)
      (separators '.' 0 ++ join '.' ["com"] ++ separators '.' 1) =
      ("_http" ++ "." ++ "_tcp", join '.' ["example", "com"]) ∧
    ∃ p, loopHead ⟨noError, 5, fun _ => 0⟩ (browseStart none none none)
        [dispatchTurn httpReplies] = some p ∧ p.delivered = httpReplies ∧
      (p.attempts.map Attempt.key).count ("_http" ++ "." ++ "_tcp", join '.' ["example", "com"]) =
        1 := by
  have honce := metaReply_browsed_once "_http" "_tcp" ["example", "com"] (by decide)
  refine ⟨honce.1 1 true 0 1, ?_⟩
  have hsome : ((loopHead ⟨noError, 5, fun _ => 0⟩ (browseStart none none none)
      [dispatchTurn httpReplies]).any fun p => decide (p.delivered = httpReplies)) = true := by
    decide +kernel
  obtain ⟨p, hp, hdelivered⟩ := (Option.any_eq_true _ _).mp hsome
  have hreplies := of_decide_eq_true hdelivered
  refine ⟨p, hp, hreplies, honce.2 _ _ _ p hp ⟨metaAdd "_http" "_tcp" ".example.com", ?_, ?_⟩⟩
  · rw [hreplies]
    exact List.mem_cons_of_mem _ (List.mem_singleton_self _)
  · exact ⟨rfl, rfl, by decide, 0, false, 1, 0, by decide +kernel, by decide +kernel,
      by decide +kernel⟩

end MdnsSdDiscovery.Macos
