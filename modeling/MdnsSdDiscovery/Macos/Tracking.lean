import MdnsSdDiscovery.Lib.Tracking
import MdnsSdDiscovery.Macos.Threads
import Mathlib.Data.Multiset.MapFold

/-!
# A browse on macOS as a tracker

The callbacks on the instance context tell the browse of an instance, and a resolver
on the blocking pool confirms it; the pump neither waits for a resolver nor cancels
it when its instance goes.

* `tracks_threads`: the threads are a tracker;
* `threads_track`: what a consumer of the events holds after any run.
-/

namespace MdnsSdDiscovery.Macos

open Runs Presence Tracking Browse

/-- The identity under which a resolver reports. -/
def Resolve.identity (r : Resolve) : RemovedService :=
  ⟨r.name, trimDot r.regtype, trimDot r.domain, NonZeroU32.new r.interface⟩

/-- What a reply says about an instance. -/
def Callback.notice? (cb : Callback) : Option (Change RemovedService) :=
  match cb.resolve? with
  | some r => some (.insert r.identity)
  | none => cb.removal?.map .delete

/-- The instance that a resolver did not find. -/
def notFound? (display : ServiceBrowseError → String) (x : Resolve × Daemon) :
    Option RemovedService :=
  match resolveService display x.2 x.1 with
  | .ok _ => none
  | .error _ => some x.1.identity

/-- The threads as the consumer of their events sees them. -/
def tracker (display : ServiceBrowseError → String) (s : Browse) : Tracker RemovedService where
  told := s.pump.delivered.filterMap Callback.notice?
  shown := changes s.channel
  pending := (s.inflight : Multiset Resolve).map Resolve.identity
  failed := s.ran.filterMap (notFound? display)

def callbackAction (cb : Callback) : Action RemovedService :=
  match cb.resolve?, cb.removal? with
  | some r, _ => .add r.identity
  | none, some r => .remove r
  | none, none => .idle

def resolverAction (display : ServiceBrowseError → String) (r : Resolve) (daemon : Daemon) :
    Action RemovedService :=
  match resolveService display daemon r with
  | .ok _ => .confirm r.identity
  | .error _ => .fail r.identity

def action (display : ServiceBrowseError → String) (s : Browse) : Label → Action RemovedService
  | .callback =>
    match s.phase with
    | .dispatching _ (cb :: _) => callbackAction cb
    | _ => .idle
  | .resolved r daemon => resolverAction display r daemon
  | _ => .idle

/-- A resolver that succeeds does so while its instance is there. -/
def InTime (display : ServiceBrowseError → String) (s : Browse) : Label → Prop
  | .resolved r daemon => (∃ e, resolveService display daemon r = .ok e) →
      r.identity ∈ replay (s.pump.delivered.filterMap Callback.notice?)
  | _ => True

section
variable {env : Environment} {display : ServiceBrowseError → String} {s s' : Browse} {l : Label}

theorem timely_tracker_iff (s : Browse) (l : Label) :
    (tracker display s).Timely (action display s l) ↔ InTime display s l := by
  cases l with
  | callback =>
    refine iff_of_true ?_ trivial
    rw [action]
    split
    · rw [callbackAction]
      split <;> trivial
    · trivial
  | resolved r daemon =>
    rw [action, resolverAction, InTime]
    cases hr : resolveService display daemon r with
    | ok e => simp [Tracker.Timely, tracker]
    | error err => simp [Tracker.Timely]
  | _ => exact Iff.rfl

/-- The events of a reply change what the consumer holds when it is a removal. -/
theorem changes_event? (cb : Callback) :
    changes cb.event?.toList = (cb.removal?.map .delete).toList := by
  rw [← Callback.event?_bind_removed?]
  unfold Callback.event?
  split
  · rfl
  split
  · rfl
  · rfl

/-- An addition removes nothing. -/
theorem removal?_of_resolve? {cb : Callback} {r : Resolve} (h : cb.resolve? = some r) :
    cb.removal? = none := by
  unfold Callback.resolve? at h
  split at h
  · rename_i hadd
    exact if_neg fun hrem => hadd.2.2 hrem.2.2
  · cases h

theorem changes_errors (errors : List ServiceBrowseError) :
    changes (errors.map .error) = [] := by
  rw [changes, List.filterMap_map]
  exact List.filterMap_eq_nil_iff.mpr fun _ _ => rfl

theorem step_tracker_callback (turn : Turn) (cb : Callback) (callbacks : List Callback) :
    (tracker display s).step (callbackAction cb) = some (tracker display
      (s.goOn (s.pump.dispatch cb) (.dispatching turn callbacks))) := by
  obtain ⟨hsent, hresolves⟩ := browseCallback_sends s.pump.state cb
  let next := s.goOn (s.pump.dispatch cb) (.dispatching turn callbacks)
  have hchannel : next.channel = s.channel ++ cb.event?.toList := goOn_channel hsent
  have hinflight : next.inflight = s.inflight ++ cb.resolve?.toList := goOn_inflight hresolves
  have hdelivered : next.pump.delivered = s.pump.delivered ++ [cb] := rfl
  have hran : next.ran = s.ran := rfl
  rw [tracker, tracker, hchannel, hinflight, hdelivered, hran, changes_append, changes_event?,
    filterMap_snoc, callbackAction, Callback.notice?]
  cases hr : cb.resolve? with
  | some r =>
    rw [removal?_of_resolve? hr]
    simp [Tracker.step, -List.append_eq, coe_snoc]
  | none => cases cb.removal? <;> simp [Tracker.step]

theorem step_tracker_resolved {r : Resolve} (daemon : Daemon) (hr : r ∈ s.inflight) :
    (tracker display s).step (resolverAction display r daemon) = some (tracker display { s with
      inflight := s.inflight.erase r
      ran := s.ran ++ [(r, daemon)]
      channel := s.channel ++ [resolveService display daemon r] }) := by
  have hmem : r ∈ (s.inflight : Multiset Resolve) := hr
  have hpending : r.identity ∈ (tracker display s).pending := Multiset.mem_map_of_mem _ hmem
  have herase := Multiset.map_erase_of_mem Resolve.identity _ hmem
  rw [Multiset.coe_erase] at herase
  rcases resolveService_cases display daemon r with ⟨service, he, hid⟩ | ⟨err, he⟩
  · have hidentity : service.identity = r.identity := hid
    rw [resolverAction, he, Tracker.step, if_pos hpending]
    simp [tracker, herase, notFound?, he, hidentity]
  · rw [resolverAction, he, Tracker.step, if_pos hpending]
    simp [tracker, herase, notFound?, he]

/-- **The threads are a tracker** of the instances, however they interleave. -/
theorem tracks_threads (env : Environment) (display : ServiceBrowseError → String) :
    Tracks (step env display) (tracker display) (action display) (fun _ => True)
      fun _ _ => True where
  invariant _ _ _ _ _ _ := trivial
  simulates s l s' _ _ h := by
    rcases step_cases h with ⟨turn, cb, callbacks, rfl, hphase, rfl⟩ | ⟨hcallback, hresolved, hq⟩ |
      ⟨result, rfl, -, rfl⟩ | ⟨r, daemon, rfl, hr, rfl⟩ | ⟨rfl, rfl⟩ | ⟨rfl, rfl⟩
    · rw [action, hphase]
      exact step_tracker_callback turn cb callbacks
    · have hidle : action display s l = .idle := by
        cases l with
        | callback => exact absurd rfl hcallback
        | resolved r daemon => exact absurd rfl (hresolved r daemon)
        | _ => rfl
      obtain ⟨errors, -, hchannel⟩ := hq.errors
      rw [hidle, Tracker.step, tracker, tracker, hq.delivered, hq.inflight, hq.ran, hchannel,
        changes_append, changes_errors, List.append_nil]
    · have hending : changes (ending (some result)) = [] := by cases result <;> rfl
      have hidle : action display s .left = .idle := rfl
      rw [hidle, Tracker.step, tracker, tracker, changes_append, hending, List.append_nil]
    · exact step_tracker_resolved daemon hr
    · rfl
    · rfl

/-- The threads begin with nothing told or shown. -/
theorem tracker_threads {request : Request} {start : Browse}
    (hstart : threads env request = some start) :
    (tracker display start).told = [] ∧ (tracker display start).shown = [] := by
  obtain ⟨⟨p, result⟩, hp, rfl⟩ := Option.map_eq_some_iff.mp hstart
  obtain ⟨q, fd, -, hs, hloop⟩ := pumpRun_eq_some hp
  cases hloop
  rw [tracker, (state_setUp hs).2]
  exact ⟨rfl, rfl⟩

end

/-- **What a consumer of a browse on macOS holds.**  An advertised instance is held
unless its resolver is in flight or one of it failed.  The consumer holds advertised
instances only, all along the run, exactly when each resolver that succeeds does so
while its instance is advertised.  So it holds the advertised instances in the end,
when no resolver is in flight and none failed. -/
theorem threads_track (display : ServiceBrowseError → String) {env : Environment}
    {request : Request} {start s : Browse} (hstart : threads env request = some start)
    (labels : List Label) (h : run (step env display) start labels = some s) :
    (∀ id ∈ replay (s.pump.delivered.filterMap Callback.notice?), id ∈ replay (changes s.channel) ∨
      (∃ r ∈ s.inflight, r.identity = id) ∨ id ∈ s.ran.filterMap (notFound? display)) ∧
    ((∀ pre u, pre <+: labels → run (step env display) start pre = some u →
        replay (changes u.channel) ⊆ replay (u.pump.delivered.filterMap Callback.notice?)) ↔
      Guarded (step env display) (InTime display) start labels) ∧
    (Guarded (step env display) (InTime display) start labels →
      s.inflight = [] → s.ran.filterMap (notFound? display) = [] →
      replay (changes s.channel) = replay (s.pump.delivered.filterMap Callback.notice?)) := by
  have htracks := tracks_threads env display
  have hguard : Guarded (step env display) (fun _ _ => True) start labels :=
    fun _ _ _ _ _ => trivial
  obtain ⟨htold, hshown⟩ : (tracker display start).told = [] ∧ (tracker display start).shown = [] :=
    tracker_threads hstart
  have hcovered : (tracker display s).Covered := by
    refine htracks.covered_run trivial ?_ hguard h
    rw [Tracker.Covered, htold]
    rintro id ⟨⟩
  have hsound := htracks.sound_iff trivial (by rw [Tracker.Sound, hshown]; rintro id ⟨⟩) hguard h
  simp only [timely_tracker_iff] at hsound
  refine ⟨?_, hsound, ?_⟩
  · intro id hid
    refine (hcovered id hid).imp_right (Or.imp_left fun hpending => ?_)
    simpa [tracker] using hpending
  · intro htimely hinflight hfailed
    refine Tracker.shown_eq (hsound.mpr htimely labels s List.prefix_rfl h) hcovered ?_ hfailed
    rw [tracker, hinflight]
    rfl

/-- The resolver of the printer. -/
def printerResolve : Resolve := ⟨"Printer", "_ipp._tcp.", "local.", 2⟩

/-- A daemon that resolves every instance to 192.168.1.10, port 631. -/
def obliging : Daemon where
  resolve _ := ⟨noError, ⟨1, "", noError⟩,
    [⟨noError, some (Utf8.encode "printer.local."), 0x7702, 0, none⟩]⟩
  getAddrInfo := answering [hostReply flagsAdd]

/-- A printer comes, goes and comes back before its first resolver answers. -/
def returningLabels : List Label :=
  [.pass (dispatchTurn [printerCallback flagsAdd noError, printerCallback 0 noError,
      printerCallback flagsAdd noError]), .callback, .callback, .callback,
    .resolved printerResolve obliging, .resolved printerResolve obliging, .processed, .started]

/-- The printer is there when a resolver answers, and none fails. -/
theorem exists_returning_run :
    ∃ start s, threads willing (browseStart (some "_ipp._tcp") none none) = some start ∧
      run (step willing fun _ => "") start returningLabels = some s ∧
      Guarded (step willing fun _ => "") (InTime fun _ => "") start returningLabels ∧
      s.inflight = [] ∧ s.ran.filterMap (notFound? fun _ => "") = [] ∧
      printerResolve.identity ∈ replay (s.pump.delivered.filterMap Callback.notice?) := by
  let advertised (s : Browse) : Bool :=
    latest (s.pump.delivered.filterMap Callback.notice?) printerResolve.identity =
      some (.insert printerResolve.identity)
  have hany : ((threads willing (browseStart (some "_ipp._tcp") none none)).any fun start =>
      ((run (step willing fun _ => "") start (returningLabels.take 4)).all advertised &&
        (run (step willing fun _ => "") start (returningLabels.take 5)).all advertised) &&
      (run (step willing fun _ => "") start returningLabels).any fun s =>
        decide (s.inflight = [] ∧ s.ran.filterMap (notFound? fun _ => "") = []) &&
          advertised s) = true := by
    decide +kernel
  obtain ⟨start, hstart, hruns⟩ := (Option.any_eq_true _ _).mp hany
  rw [Bool.and_eq_true, Bool.and_eq_true] at hruns
  obtain ⟨⟨hfirst, hsecond⟩, hrun⟩ := hruns
  obtain ⟨s, hs, hends⟩ := (Option.any_eq_true _ _).mp hrun
  obtain ⟨hdone, htold⟩ := (Bool.and_eq_true _ _).mp hends
  obtain ⟨hinflight, hfailed⟩ := of_decide_eq_true hdone
  have hthere : ∀ u, advertised u = true →
      printerResolve.identity ∈ replay (u.pump.delivered.filterMap Callback.notice?) :=
    fun u hu => (mem_replay_iff _ _).mpr (of_decide_eq_true hu)
  have hguard : Guarded (step willing fun _ => "") (InTime fun _ => "") start returningLabels := by
    refine forall_prefix_snoc_cons (fun _ _ => trivial) <|
      forall_prefix_snoc_cons (fun _ _ => trivial) <|
      forall_prefix_snoc_cons (fun _ _ => trivial) <|
      forall_prefix_snoc_cons (fun _ _ => trivial) <|
      forall_prefix_snoc_cons ?_ <| forall_prefix_snoc_cons ?_ <|
      forall_prefix_snoc_cons (fun _ _ => trivial) <|
      forall_prefix_snoc_cons (fun _ _ => trivial) forall_prefix_snoc_nil
    · exact fun u hu _ => hthere u ((Option.all_eq_true _ _).mp hfirst u hu)
    · exact fun u hu _ => hthere u ((Option.all_eq_true _ _).mp hsecond u hu)
  exact ⟨start, s, hstart, hs, hguard, hinflight, hfailed, hthere s htold⟩

/-- The printer is held in the end, and nothing that is gone was held on the way. -/
theorem threads_track_example :
    ∃ start s, threads willing (browseStart (some "_ipp._tcp") none none) = some start ∧
      run (step willing fun _ => "") start returningLabels = some s ∧
      (∀ pre u, pre <+: returningLabels → run (step willing fun _ => "") start pre = some u →
        replay (changes u.channel) ⊆ replay (u.pump.delivered.filterMap Callback.notice?)) ∧
      printerResolve.identity ∈ replay (changes s.channel) := by
  obtain ⟨start, s, hstart, hs, hguard, hinflight, hfailed, htold⟩ := exists_returning_run
  obtain ⟨-, hsound, hequal⟩ := threads_track (fun _ => "") hstart returningLabels hs
  refine ⟨start, s, hstart, hs, hsound.mpr hguard, ?_⟩
  rw [hequal hguard hinflight hfailed]
  exact htold

end MdnsSdDiscovery.Macos
