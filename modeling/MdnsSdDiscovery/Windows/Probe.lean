import MdnsSdDiscovery.Lib.Futures
import MdnsSdDiscovery.Windows.Names

/-!
# The liveness probe on Windows (`ServiceResolverBuilder::resolve`, `resolve_once`)

`resolve_once` boxes a context, gives it to `DnsServiceResolve` and awaits a oneshot
channel whose sender is in the box.  The completion callback takes the box back on a
thread of its own, perhaps before `DnsServiceResolve` has returned.  The future is
polled behind the time limit of the builder and may be dropped at any time, with the
box still out.

* `Attempt`: the future with its box and its channel, `Attempt.begin` and
  `Attempt.wait` the two kinds of polls;
* `Sound`: where the box is, and what the channel holds;
* `probe_resolves`: the box is taken back once, and a reply is not lost.
-/

namespace MdnsSdDiscovery

/-- `ServiceResolverBuilder`; a `Duration` is its nanoseconds. -/
structure ServiceResolverBuilder where
  name : String
  serviceType : String
  domain : String
  interfaceIndex : Option NonZeroU32
  timeout : Option Nat
  deriving DecidableEq, Repr

/-- `ServiceResolverBuilder::new` -/
def ServiceResolverBuilder.new (name serviceType domain : String) : ServiceResolverBuilder :=
  ⟨name, serviceType, domain, none, none⟩

/-- What `resolve` returns when the time limit passes; `debug` is the `Debug` text of a
`Duration`. -/
def ServiceResolverBuilder.timedOut (debug : Nat → String) (b : ServiceResolverBuilder) :
    Option (Except ServiceBrowseError DiscoveredService) :=
  b.timeout.map fun timeout =>
    .error (.resolveFailed b.name s!"timed out after {debug timeout}")

end MdnsSdDiscovery

namespace MdnsSdDiscovery.Windows

open Runs Futures

abbrev ResolveOnceResult := Except ServiceBrowseError DiscoveredService

structure ResolveOnceContext where
  name : String
  serviceType : String
  domain : String
  queryName : String
  deriving DecidableEq, Repr

/-- What the completion callback is called with. -/
structure Completion where
  status : UInt32
  inst : Option DnsServiceInstance

/-- What `resolve_once_callback` sends. -/
def resolveOnceCallback (rc : ResolveOnceContext) (c : Completion) : ResolveOnceResult :=
  match c.inst with
  | some inst =>
    if c.status ≠ 0 then
      .error (.resolveFailed rc.name s!"resolve callback status {c.status}")
    else .ok (buildService inst rc.name rc.serviceType rc.domain)
  | none => .error (.resolveFailed rc.name s!"resolve callback status {c.status}")

/-- The future of `resolve_once`. -/
structure Attempt where
  started : Bool := false
  /-- The box that the OS has. -/
  inflight : Option ResolveOnceContext := none
  /-- The receiver of the channel is there. -/
  receiver : Bool := false
  /-- What the channel holds. -/
  slot : Option ResolveOnceResult := none
  /-- History: what was asked for, and the boxes that were made and taken back. -/
  issued : List Issued := []
  boxed : List ResolveOnceContext := []
  reclaimed : List ResolveOnceContext := []
  /-- History: what the callback sent while the receiver was there. -/
  heard : List ResolveOnceResult := []

/-- What `DnsServiceResolve` returns: a status, after which the callback does not
fire, or `DNS_REQUEST_PENDING`, before which it may have fired. -/
inductive Native where
  | refused (result : Int32) (h : result ≠ dnsRequestPending)
  | pending (early : Option Completion)

namespace Attempt

/-- `resolve_once_callback`: a result without a receiver is dropped. -/
def complete (s : Attempt) (c : Completion) : Option Attempt :=
  s.inflight.map fun rc =>
    let result := resolveOnceCallback rc c
    let s := { s with inflight := none, reclaimed := s.reclaimed ++ [rc] }
    if s.receiver then { s with slot := some result, heard := s.heard ++ [result] } else s

/-- `rx.await`; the sender is gone once the box is. -/
def wait (b : ServiceResolverBuilder) (s : Attempt) : Attempt × Option ResolveOnceResult :=
  match s.slot, s.inflight with
  | some result, _ => ({ s with receiver := false, slot := none }, some result)
  | none, some _ => (s, none)
  | none, none => ({ s with receiver := false },
      some (.error (.resolveFailed b.name "resolve completed without a result")))

/-- The context that `resolve_once` boxes. -/
def context (b : ServiceResolverBuilder) : ResolveOnceContext :=
  ⟨b.name, b.serviceType, b.domain, fullName b.name b.serviceType b.domain⟩

/-- 0 for all interfaces -/
def interface (b : ServiceResolverBuilder) : UInt32 := (b.interfaceIndex.map (·.val)).getD 0

/-- `resolve_once` up to `rx.await`, in the first poll; `nulText` is the text of the
error about a query name with a NUL. -/
def begin (nulText : String → String) (b : ServiceResolverBuilder) (s : Attempt)
    (native : Native) : Attempt × Option ResolveOnceResult :=
  let s := { s with started := true }
  match resolveOnce b.name b.serviceType b.domain b.interfaceIndex with
  | none =>
    (s, some (.error (.resolveFailed b.name
      (nulText (fullName b.name b.serviceType b.domain)))))
  | some request =>
    let rc := context b
    let s := { s with
      receiver := true, boxed := s.boxed ++ [rc], issued := s.issued ++ [request] }
    match native with
    | .refused result _ =>
      ({ s with receiver := false, reclaimed := s.reclaimed ++ [rc] },
        some (.error (.resolveFailed rc.name
          s!"DnsServiceResolve failed with status {result}")))
    | .pending early =>
      let s := { s with inflight := some rc }
      wait b ((early.bind s.complete).getD s)

/-- A dropped future drops the receiver, and leaves the box where it is. -/
def cancel (s : Attempt) : Attempt := { s with receiver := false, slot := none }

end Attempt

/-- `resolve_once` as a future. -/
def resolveOnceFuture (nulText : String → String) (b : ServiceResolverBuilder) :
    Future Attempt Completion Native ResolveOnceResult where
  push := Attempt.complete
  poll s native := if s.started then s.wait b else s.begin nulText b native
  cancel := Attempt.cancel

/-- `ServiceResolverBuilder::resolve`, polled. -/
def resolveStep (nulText : String → String) (debug : Nat → String)
    (b : ServiceResolverBuilder) :
    Limited Attempt ResolveOnceResult → Label Completion Native →
      Option (Limited Attempt ResolveOnceResult) :=
  Limited.step (resolveOnceFuture nulText b) (b.timedOut debug)

/-! ## The box and the channel -/

/-- The callback was called so, on its own or while `DnsServiceResolve` ran. -/
def Delivered (labels : List (Label Completion Native)) (c : Completion) : Prop :=
  .push c ∈ labels ∨ ∃ elapsed, .poll (.pending (some c)) elapsed ∈ labels

/-- How a resolve ends after the labels: with the one result that was heard, or, where
nothing was, with the error about the name, the refusal or the time limit. -/
inductive Ending (nulText : String → String) (debug : Nat → String)
    (b : ServiceResolverBuilder) (labels : List (Label Completion Native)) :
    List ResolveOnceResult → ResolveOnceResult → Prop
  | nul (h : '\x00' ∈ (fullName b.name b.serviceType b.domain).toList) :
      Ending nulText debug b labels [] (.error (.resolveFailed b.name
        (nulText (fullName b.name b.serviceType b.domain))))
  | refused (result : Int32) (h : result ≠ dnsRequestPending) (elapsed : Bool)
      (hpoll : .poll (.refused result h) elapsed ∈ labels) :
      Ending nulText debug b labels [] (.error (.resolveFailed b.name
        s!"DnsServiceResolve failed with status {result}"))
  | completed (c : Completion) (hc : Delivered labels c) :
      Ending nulText debug b labels [resolveOnceCallback (Attempt.context b) c]
        (resolveOnceCallback (Attempt.context b) c)
  | timedOut (r : ResolveOnceResult) (h : b.timedOut debug = some r) (native : Native)
      (hpoll : .poll native true ∈ labels) : Ending nulText debug b labels [] r

namespace Attempt

variable {nulText : String → String} {debug : Nat → String} {b : ServiceResolverBuilder}
  {labels more : List (Label Completion Native)} {s s' : Attempt} {c : Completion}

/-- The box is made at most once and is in one place, and the channel holds what was
sent on it. -/
structure Sound (b : ServiceResolverBuilder) (labels : List (Label Completion Native))
    (s : Attempt) : Prop where
  boxes : s.inflight.toList ++ s.reclaimed = s.boxed
  once : s.boxed = [] ∨ s.boxed = [context b]
  asked : s.issued = s.boxed.map fun rc => .resolve rc.queryName (interface b)
  unstarted : s.started = false →
    s.boxed = [] ∧ s.heard = [] ∧ s.receiver = false ∧ s.slot = none
  unheard : s.inflight.isSome = true → s.heard = []
  sender : s.receiver = true → s.slot.isSome = true ∨ s.inflight.isSome = true
  slot : s.receiver = true → s.heard = s.slot.toList
  callback : ∀ r ∈ s.heard, ∃ c, Delivered labels c ∧ r = resolveOnceCallback (context b) c

theorem sound_start (b : ServiceResolverBuilder) : Sound b [] {} where
  boxes := rfl
  once := .inl rfl
  asked := rfl
  unstarted _ := ⟨rfl, rfl, rfl, rfl⟩
  unheard _ := rfl
  sender := by rintro ⟨⟩
  slot _ := rfl
  callback := by rintro r ⟨⟩

/-- More may happen. -/
theorem Sound.mono (h : Sound b labels s) (hsub : labels ⊆ more) : Sound b more s where
  boxes := h.boxes
  once := h.once
  asked := h.asked
  unstarted := h.unstarted
  unheard := h.unheard
  sender := h.sender
  slot := h.slot
  callback r hr := by
    obtain ⟨c, hc, he⟩ := h.callback r hr
    exact ⟨c, hc.imp (fun hpush => hsub hpush) fun ⟨elapsed, hpoll⟩ => ⟨elapsed, hsub hpoll⟩, he⟩

/-- Without the receiver nothing is heard any more. -/
theorem Sound.cancel (h : Sound b labels s) : Sound b labels s.cancel where
  boxes := h.boxes
  once := h.once
  asked := h.asked
  unstarted hnew := ⟨(h.unstarted hnew).1, (h.unstarted hnew).2.1, rfl, rfl⟩
  unheard := h.unheard
  sender := by rintro ⟨⟩
  slot := by rintro ⟨⟩
  callback := h.callback

/-- **The callback takes the box back.** -/
theorem Sound.complete (h : Sound b labels s) (hdelivered : Delivered labels c)
    (hc : s.complete c = some s') : Sound b labels s' := by
  obtain ⟨rc, hbox, rfl⟩ := Option.map_eq_some_iff.mp hc
  have hboxes := h.boxes
  rw [hbox] at hboxes
  have hboxed : s.boxed = [context b] := by
    rcases h.once with hnil | hone
    · rw [hnil] at hboxes
      cases hboxes
    · exact hone
  obtain ⟨rfl, hnone⟩ : rc = context b ∧ s.reclaimed = [] := by
    rw [hboxed] at hboxes
    exact List.cons_eq_cons.mp hboxes
  have hheard : s.heard = [] := h.unheard (by rw [hbox]; rfl)
  have hstarted : s.started = true := by
    by_contra hnot
    have hnil := (h.unstarted (Bool.eq_false_iff.mpr hnot)).1
    rw [hboxed] at hnil
    cases hnil
  dsimp only
  split
  next hreceiver =>
    refine ⟨?_, h.once, h.asked, ?_, by rintro ⟨⟩, fun _ => .inl rfl, ?_, ?_⟩
    · simp [hnone, hboxed]
    · intro hnot
      cases hstarted.symm.trans hnot
    · simp [hheard]
    · intro r hr
      rw [hheard] at hr
      exact ⟨c, hdelivered, List.mem_singleton.mp hr⟩
  next hreceiver =>
    refine ⟨?_, h.once, h.asked, h.unstarted, by rintro ⟨⟩, ?_, ?_, h.callback⟩
    · simp [hnone, hboxed]
    · intro hnot
      exact absurd hnot hreceiver
    · intro hnot
      exact absurd hnot hreceiver

/-- What a poll leaves: it goes on waiting, or returns what was heard if anything was. -/
structure Polled (nulText : String → String) (debug : Nat → String) (b : ServiceResolverBuilder)
    (labels : List (Label Completion Native)) (s : Attempt)
    (result : Option ResolveOnceResult) : Prop where
  sound : Sound b labels s
  started : s.started = true
  receiver : s.receiver = result.isNone
  pending : result = none → s.heard = []
  ready : ∀ r, result = some r → Ending nulText debug b labels s.heard r

theorem polled_wait (h : Sound b labels s) (hstarted : s.started = true)
    (hreceiver : s.receiver = true) :
    Polled nulText debug b labels (s.wait b).1 (s.wait b).2 := by
  have hheard := h.slot hreceiver
  unfold wait
  split
  next result hslot =>
    rw [hslot] at hheard
    refine ⟨h.cancel, hstarted, rfl, by rintro ⟨⟩, ?_⟩
    rintro r ⟨⟩
    obtain ⟨c, hc, rfl⟩ := h.callback result (by rw [hheard]; exact List.mem_singleton_self _)
    rw [hheard]
    exact .completed c hc
  next rc hslot hbox =>
    rw [hslot] at hheard
    exact ⟨h, hstarted, hreceiver, fun _ => hheard, by rintro r ⟨⟩⟩
  next hslot hbox =>
    rcases h.sender hreceiver with hsome | hsome
    · rw [hslot] at hsome
      cases hsome
    · rw [hbox] at hsome
      cases hsome

/-- `DnsServiceResolve` has the box. -/
theorem Sound.boxOut (h : Sound b labels s) (hnew : s.started = false) :
    Sound b labels { s with
      started := true, receiver := true, boxed := s.boxed ++ [context b]
      issued := s.issued ++ [.resolve (context b).queryName (interface b)]
      inflight := some (context b) } := by
  obtain ⟨hboxed, hheard, -, hslot⟩ := h.unstarted hnew
  have hboxes := h.boxes
  rw [hboxed, List.append_eq_nil_iff] at hboxes
  refine ⟨?_, ?_, ?_, by rintro ⟨⟩, fun _ => hheard, fun _ => .inr rfl, fun _ => ?_, h.callback⟩
  · simp [hboxed, hboxes.2]
  · exact .inr (by simp [hboxed])
  · simp [h.asked]
  · simp [hheard, hslot]

theorem kept_of_complete (hc : s.complete c = some s') :
    s'.started = s.started ∧ s'.receiver = s.receiver := by
  obtain ⟨rc, -, rfl⟩ := Option.map_eq_some_iff.mp hc
  dsimp only
  split <;> exact ⟨rfl, rfl⟩

/-- **The first poll** makes the box, and leaves it out only if it has to wait. -/
theorem polled_begin (h : Sound b labels s) (hnew : s.started = false) {native : Native}
    {elapsed : Bool} (hlabel : .poll native elapsed ∈ labels) :
    Polled nulText debug b labels (s.begin nulText b native).1 (s.begin nulText b native).2 := by
  obtain ⟨hboxed, hheard, hreceiver, hslot⟩ := h.unstarted hnew
  unfold begin
  cases hrequest : resolveOnce b.name b.serviceType b.domain b.interfaceIndex with
  | none =>
    refine ⟨{ h with unstarted := by rintro ⟨⟩ }, rfl, hreceiver, by rintro ⟨⟩, ?_⟩
    rintro r ⟨⟩
    rw [hheard]
    refine .nul ?_
    by_contra hnot
    cases (if_neg hnot).symm.trans hrequest
  | some request =>
    obtain rfl : Issued.resolve (context b).queryName (interface b) = request := by
      by_cases hnul : '\x00' ∈ (fullName b.name b.serviceType b.domain).toList
      · cases (if_pos hnul).symm.trans hrequest
      · exact Option.some.inj ((if_neg hnul).symm.trans hrequest)
    have hout := h.boxOut hnew
    cases native with
    | refused result hresult =>
      have hboxes := h.boxes
      rw [hboxed, List.append_eq_nil_iff] at hboxes
      refine ⟨?_, rfl, rfl, by rintro ⟨⟩, ?_⟩
      · refine ⟨?_, hout.once, hout.asked, by rintro ⟨⟩, fun _ => hheard, by rintro ⟨⟩,
          by rintro ⟨⟩, h.callback⟩
        simp [hboxed, hboxes.1, hboxes.2]
      · rintro r ⟨⟩
        rw [hheard]
        exact .refused result hresult elapsed hlabel
    | pending early =>
      dsimp only
      cases early with
      | none => exact polled_wait hout rfl rfl
      | some c =>
        obtain ⟨hstarted, hkept⟩ := kept_of_complete (s := { s with
          started := true, receiver := true, boxed := s.boxed ++ [context b]
          issued := s.issued ++ [.resolve (context b).queryName (interface b)]
          inflight := some (context b) }) (c := c) rfl
        exact polled_wait (hout.complete (.inr ⟨elapsed, hlabel⟩) rfl) hstarted hkept

end Attempt

/-! ## Runs -/

section
variable {nulText : String → String} {debug : Nat → String} {b : ServiceResolverBuilder}
  {labels : List (Label Completion Native)} {s s' : Limited Attempt ResolveOnceResult}
  {l : Label Completion Native}

/-- What a run keeps. -/
structure Probed (nulText : String → String) (debug : Nat → String) (b : ServiceResolverBuilder)
    (labels : List (Label Completion Native)) (s : Limited Attempt ResolveOnceResult) : Prop where
  sound : s.inner.Sound b labels
  waiting : s.isOpen = true → s.inner.started = true → s.inner.receiver = true
  closed : s.isOpen = false → s.inner.receiver = false
  outcome : ∀ r, s.outcome = some r → Ending nulText debug b labels s.inner.heard r

theorem Ending.mono {heard : List ResolveOnceResult} {r : ResolveOnceResult}
    (h : Ending nulText debug b labels heard r) (l : Label Completion Native) :
    Ending nulText debug b (labels ++ [l]) heard r := by
  have hsub : labels ⊆ labels ++ [l] := List.subset_append_left _ _
  cases h with
  | nul h => exact .nul h
  | refused result h elapsed hpoll => exact .refused result h elapsed (hsub hpoll)
  | completed c hc =>
    exact .completed c (hc.imp (fun hpush => hsub hpush) fun ⟨elapsed, hpoll⟩ =>
      ⟨elapsed, hsub hpoll⟩)
  | timedOut r h native hpoll => exact .timedOut r h native (hsub hpoll)

theorem polled_poll (h : Probed nulText debug b labels s) (hopen : s.isOpen = true)
    {native : Native} (elapsed : Bool) {inner : Attempt} {result : Option ResolveOnceResult}
    (hpoll : (resolveOnceFuture nulText b).poll s.inner native = (inner, result)) :
    inner.Polled nulText debug b (labels ++ [.poll native elapsed]) result := by
  have hsound := h.sound.mono (List.subset_append_left labels [.poll native elapsed])
  by_cases hstarted : s.inner.started = true
  · have hwait : s.inner.wait b = (inner, result) := (if_pos hstarted).symm.trans hpoll
    have hpolled : (s.inner.wait b).1.Polled nulText debug b (labels ++ [.poll native elapsed])
        (s.inner.wait b).2 :=
      Attempt.polled_wait hsound hstarted (h.waiting hopen hstarted)
    rwa [hwait] at hpolled
  · have hbegin : s.inner.begin nulText b native = (inner, result) :=
      (if_neg hstarted).symm.trans hpoll
    have hpolled : (s.inner.begin nulText b native).1.Polled nulText debug b
        (labels ++ [.poll native elapsed]) (s.inner.begin nulText b native).2 :=
      Attempt.polled_begin hsound (Bool.eq_false_iff.mpr hstarted)
        (List.mem_append_right _ (List.mem_singleton_self _))
    rwa [hbegin] at hpolled

/-- The completion callback leaves an outcome as it is. -/
theorem Probed.push (h : Probed nulText debug b labels s) {c : Completion} {inner : Attempt}
    (hc : s.inner.complete c = some inner) :
    Probed nulText debug b (labels ++ [.push c]) { s with inner } := by
  obtain ⟨hstarted, hreceiver⟩ := Attempt.kept_of_complete hc
  have hsound := h.sound.mono (List.subset_append_left labels [.push c])
  have hdelivered : Delivered (labels ++ [.push c]) c :=
    .inl (List.mem_append_right _ (List.mem_singleton_self _))
  refine ⟨hsound.complete hdelivered hc, ?_, ?_, ?_⟩
  · intro hopen hnew
    rw [hreceiver]
    exact h.waiting hopen (hstarted ▸ hnew)
  · intro hclosed
    rw [hreceiver]
    exact h.closed hclosed
  · intro r hr
    have hdeaf : s.inner.receiver = false := by
      refine h.closed ?_
      simp [Limited.isOpen, show s.outcome = some r from hr]
    obtain ⟨rc, -, rfl⟩ := Option.map_eq_some_iff.mp hc
    simpa [hdeaf] using (h.outcome r hr).mono (.push c)

/-- **What every step keeps.** -/
theorem probed_step (h : Probed nulText debug b labels s)
    (hstep : resolveStep nulText debug b s l = some s') :
    Probed nulText debug b (labels ++ [l]) s' := by
  cases Limited.step_change hstep with
  | push c inner hc => exact h.push hc
  | ready native elapsed inner r hopen hpoll =>
    have hpolled := polled_poll h hopen elapsed hpoll
    refine ⟨hpolled.sound, by rintro ⟨⟩, fun _ => hpolled.receiver, ?_⟩
    rintro r' ⟨⟩
    exact hpolled.ready r rfl
  | late native inner r hopen hpoll hlate =>
    have hpolled := polled_poll h hopen true hpoll
    refine ⟨hpolled.sound.cancel, by rintro ⟨⟩, fun _ => rfl, ?_⟩
    rintro r' ⟨⟩
    have hheard : ((resolveOnceFuture nulText b).cancel inner).heard = [] := hpolled.pending rfl
    dsimp only
    rw [hheard]
    exact .timedOut r hlate native (List.mem_append_right _ (List.mem_singleton_self _))
  | pending native elapsed inner hopen hpoll =>
    have hpolled := polled_poll h hopen elapsed hpoll
    refine ⟨hpolled.sound, fun _ _ => hpolled.receiver, ?_, ?_⟩
    · intro hclosed
      cases hopen.symm.trans hclosed
    · intro r hr
      cases (Limited.isOpen_iff.mp hopen).1.symm.trans hr
  | drop hopen =>
    have hsound := h.sound.mono (List.subset_append_left labels [.drop])
    refine ⟨hsound.cancel, ?_, fun _ => rfl, ?_⟩
    · intro hnot
      simp [Limited.isOpen] at hnot
    · intro r hr
      cases (Limited.isOpen_iff.mp hopen).1.symm.trans hr

end

/-- A success has the identity that was asked for. -/
theorem Ending.identity {nulText : String → String} {debug : Nat → String}
    {b : ServiceResolverBuilder} {labels : List (Label Completion Native)}
    {heard : List ResolveOnceResult} {service : DiscoveredService}
    (h : Ending nulText debug b labels heard (.ok service)) :
    service.name = b.name ∧ service.serviceType = b.serviceType ∧ service.domain = b.domain := by
  generalize hr : (Except.ok service : ResolveOnceResult) = r at h
  cases h with
  | nul h => cases hr
  | refused result h elapsed hpoll => cases hr
  | completed c hc =>
    unfold resolveOnceCallback at hr
    split at hr
    · split at hr <;> cases hr
      exact ⟨rfl, rfl, rfl⟩
    · cases hr
  | timedOut r h native hpoll =>
    obtain ⟨timeout, -, rfl⟩ := Option.map_eq_some_iff.mp h
    cases hr

/-- **A resolve keeps its box and loses no reply**, however the polls, the callback, the
time limit and the drop of the future follow each other: the box is made at most once,
and is with the OS or was taken back; an outcome is final, is the result that was heard
if one was, and is else the error about the name, the refusal or the time limit. -/
theorem probe_resolves (nulText : String → String) (debug : Nat → String)
    (b : ServiceResolverBuilder) (labels : List (Label Completion Native))
    {s : Limited Attempt ResolveOnceResult}
    (h : run (resolveStep nulText debug b) ⟨{}, none, false⟩ labels = some s) :
    s.inner.inflight.toList ++ s.inner.reclaimed = s.inner.boxed ∧
    (s.inner.boxed = [] ∨ s.inner.boxed = [Attempt.context b]) ∧
    s.inner.issued = s.inner.boxed.map (fun rc => .resolve rc.queryName (Attempt.interface b)) ∧
    ∀ r, s.outcome = some r →
      Ending nulText debug b labels s.inner.heard r ∧
      (∀ service, r = .ok service → service.name = b.name ∧
        service.serviceType = b.serviceType ∧ service.domain = b.domain) ∧
      ∀ more s', run (resolveStep nulText debug b) s more = some s' → s'.outcome = some r := by
  have hstart : Probed nulText debug b [] ⟨{}, none, false⟩ :=
    ⟨Attempt.sound_start b, by rintro - ⟨⟩, fun _ => rfl, by rintro r ⟨⟩⟩
  have hprobed : Probed nulText debug b labels s := by
    refine run_guarded (P := Probed nulText debug b) (G := fun _ _ _ => True) hstart ?_ h
      fun _ _ _ _ _ _ => trivial
    intro made t l u ht _ hstep
    exact probed_step ht hstep
  refine ⟨hprobed.sound.boxes, hprobed.sound.once, hprobed.sound.asked, ?_⟩
  intro r hr
  have hending := hprobed.outcome r hr
  refine ⟨hending, ?_, ?_⟩
  · rintro service rfl
    exact hending.identity
  · intro more s' hmore
    exact Limited.run_outcome hr hmore

/-- A probe with a limit of two seconds. -/
def printerProbe : ServiceResolverBuilder :=
  { ServiceResolverBuilder.new "Printer" "_ipp._tcp" "local" with timeout := some 2000000000 }

/-- The reply and the limit come between two polls. -/
def lateReply : List (Label Completion Native) :=
  [.poll (.pending none) false, .push ⟨0, none⟩, .poll (.pending none) true]

/-- The reply counts. -/
theorem probe_resolves_example :
    let result := resolveOnceCallback (Attempt.context printerProbe) ⟨0, none⟩
    ∃ s, run (resolveStep (fun _ => "") (fun _ => "2s") printerProbe) ⟨{}, none, false⟩ lateReply =
        some s ∧
      s.outcome = some result ∧ s.inner.reclaimed = [Attempt.context printerProbe] ∧
      Ending (fun _ => "") (fun _ => "2s") printerProbe lateReply [result] result := by
  refine ⟨_, rfl, rfl, rfl, ?_⟩
  have hresolves := probe_resolves (fun _ => "") (fun _ => "2s") printerProbe lateReply rfl
  exact (hresolves.2.2.2 _ rfl).1

end MdnsSdDiscovery.Windows
