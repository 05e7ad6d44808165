import MdnsSdDiscovery.Lib.Tracking
import MdnsSdDiscovery.Linux.Advertised
import Mathlib.Data.Multiset.MapFold

/-!
# An instance browse on Linux as a tracker

A consumer inserts an instance on `Found` and deletes it on `Removed`.  The loop
of `browse_one_type` is told of an instance by `ItemNew` and `ItemRemove`, and
resolves it before it is shown.  A resolver that is aborted at the end of the browse
never shows its instance.

* `tracks_browseOneType`: the loop with its resolvers is a tracker;
* `browseOneType_tracks`: what the consumer holds after any run in which it goes on
  receiving.
-/

namespace MdnsSdDiscovery.Linux

open Runs Presence OneType Tracking

/-- The instance that a resolver did not find. -/
def notFound? : Task × Outcome → Option RemovedService
  | (_, .reply (.ok _)) => none
  | (t, .noProxy _) | (t, .reply (.error _)) => some t.item.toRemoved

/-- The browse as its consumer sees it; what is aborted stays pending. -/
def tracker (s : OneType) : Tracker RemovedService where
  told := notifications s.handled
  shown := changes s.channel
  pending := (s.inflight : Multiset Task).map (·.item.toRemoved) +
    (s.aborted : Multiset Task).map (·.item.toRemoved)
  failed := s.finished.filterMap notFound?

/-- What a message tells. -/
def messageAction (m : StreamItem) : Action RemovedService :=
  match newItem? m, removedItem? m with
  | some i, _ => .add i.toRemoved
  | none, some i => .remove i.toRemoved
  | none, none => .idle

def resolverAction (t : Task) : Outcome → Action RemovedService
  | .reply (.ok _) => .confirm t.item.toRemoved
  | .noProxy _ | .reply (.error _) => .fail t.item.toRemoved

def action (s : OneType) : Label → Action RemovedService
  | .message => (s.messages.head?.map messageAction).getD .idle
  | .finish id outcome =>
    ((s.inflight.find? (·.id = id)).map fun t => resolverAction t outcome).getD .idle
  | _ => .idle

/-- Somebody receives, and a reply echoes the instance. -/
def Undisturbed (s : OneType) : Label → Prop
  | .finish id (.reply (.ok r)) =>
    ∀ t, s.inflight.find? (·.id = id) = some t → Echoes t.item r
  | .dropReceiver => False
  | _ => True

/-- A resolver that succeeds does so while its instance is there. -/
def InTime (s : OneType) : Label → Prop
  | .finish id (.reply (.ok _)) => ∀ t, s.inflight.find? (·.id = id) = some t →
      t.item.toRemoved ∈ replay (notifications s.handled)
  | _ => True

theorem timely_tracker_iff (s : OneType) (l : Label) :
    (tracker s).Timely (action s l) ↔ InTime s l := by
  cases l with
  | message =>
    refine iff_of_true ?_ trivial
    rw [action]
    cases s.messages with
    | nil => trivial
    | cons m rest =>
      rw [List.head?_cons, Option.map_some, Option.getD_some, messageAction]
      split <;> trivial
  | finish id outcome =>
    rw [action]
    cases hf : s.inflight.find? (·.id = id) with
    | none => rcases outcome with err | (err | r) <;> simp [InTime, Tracker.Timely, hf]
    | some t =>
      rcases outcome with err | (err | r) <;>
        simp [InTime, Tracker.Timely, hf, resolverAction, tracker]
  | streamEnd => exact Iff.rfl
  | freed => exact Iff.rfl
  | dropReceiver => exact Iff.rfl

theorem mem_pending_tracker {s : OneType} {id : RemovedService} :
    id ∈ (tracker s).pending ↔
      (∃ t ∈ s.inflight, t.item.toRemoved = id) ∨ ∃ t ∈ s.aborted, t.item.toRemoved = id := by
  simp [tracker]

section
variable {serviceType : String} {s s' : OneType} {l : Label}

theorem step_tracker_message (hr : s.receiver = true) (m : StreamItem) (rest : List StreamItem) :
    (tracker s).step (messageAction m) =
      some (tracker ((s.taken m rest).handle (browseOneTypeMessage serviceType m))) := by
  rcases handle_taken_cases hr m rest with
    ⟨i, hn, hrem, -, he⟩ | ⟨i, hn, hrem, -, he⟩ | ⟨err, hn, hrem, -, he⟩ | ⟨hn, hrem, -, he⟩ <;>
    rw [he, messageAction, hn, hrem]
  · simp [tracker, taken, Tracker.step, notifications_new hn, -List.append_eq, coe_snoc]
  · simp [tracker, taken, Tracker.step, notifications_removed hn hrem]
  · simp [tracker, taken, Tracker.step, notifications_other hn hrem]
  · simp [tracker, taken, Tracker.step, notifications_other hn hrem]

theorem pending_erase {t : Task} (ht : t ∈ s.inflight) :
    (tracker { s with inflight := s.inflight.erase t }).pending =
      (tracker s).pending.erase t.item.toRemoved := by
  have hmem : t ∈ (s.inflight : Multiset Task) := ht
  have herase := Multiset.map_erase_of_mem (fun t : Task => t.item.toRemoved) _ hmem
  rw [Multiset.coe_erase] at herase
  rw [tracker, tracker, herase, Multiset.erase_add_left_pos _ (Multiset.mem_map_of_mem _ hmem)]

theorem step_tracker_finish {t : Task} {outcome : Outcome}
    (ht : s.inflight.find? (·.id = t.id) = some t)
    (hecho : ∀ r, outcome = .reply (.ok r) → Echoes t.item r) :
    (tracker s).step (resolverAction t outcome) = some (tracker { s with
      inflight := s.inflight.erase t
      finished := s.finished ++ [(t, outcome)]
      channel := s.channel ++ [resolveAndEmit t.item outcome] }) := by
  have hmem : t ∈ s.inflight := List.mem_of_find?_eq_some ht
  have hpending : t.item.toRemoved ∈ (tracker s).pending :=
    mem_pending_tracker.mpr (.inl ⟨t, hmem, rfl⟩)
  have herase := pending_erase hmem
  rcases outcome with err | (err | r)
  · rw [resolverAction, Tracker.step, if_pos hpending, ← herase]
    simp [tracker, resolveAndEmit, notFound?]
  · rw [resolverAction, Tracker.step, if_pos hpending, ← herase]
    simp [tracker, resolveAndEmit, notFound?]
  · rw [resolverAction, Tracker.step, if_pos hpending, ← herase]
    simp [tracker, resolveAndEmit, notFound?, identity_resolvedToService (hecho r rfl)]

theorem pending_freed (s : OneType) : (tracker s.freed).pending = (tracker s).pending := by
  let kept : Multiset Task := s.inflight.filter (·.id ∉ s.resolvers)
  let dropped : Multiset Task := s.inflight.filter (·.id ∈ s.resolvers)
  have hinflight : dropped + kept = s.inflight :=
    Multiset.filter_add_not (fun t : Task => t.id ∈ s.resolvers) s.inflight
  have hsplit : kept + ((s.aborted : Multiset Task) + dropped) =
      (s.inflight : Multiset Task) + s.aborted := by
    rw [← hinflight, Multiset.add_comm _ dropped, ← Multiset.add_assoc, Multiset.add_comm kept]
  have hmap := congrArg (Multiset.map fun t : Task => t.item.toRemoved) hsplit
  rw [Multiset.map_add _ kept, Multiset.map_add _ (s.inflight : Multiset Task)] at hmap
  exact hmap

/-- The end of the browse aborts resolvers, and shows nothing. -/
theorem tracker_freed (s : OneType) : tracker s.freed = tracker s := by
  rw [tracker, tracker, Tracker.mk.injEq]
  exact ⟨rfl, rfl, pending_freed s, rfl⟩

/-- **The loop with its resolvers is a tracker** of the instances. -/
theorem tracks_browseOneType (serviceType : String) :
    Tracks (step serviceType) tracker action (fun s => s.receiver = true) Undisturbed where
  invariant s l t hr hl h := by
    refine (finished_subset_step hr ?_ h).1
    rintro rfl
    exact hl
  simulates s l t hr hl h := by
    rcases step_cases hr h with ⟨m, rest, rfl, hm, -, rfl⟩ | ⟨u, outcome, rfl, hu, rfl⟩ |
      ⟨rfl, -, -, rfl⟩ | ⟨rfl, -, rfl⟩ | ⟨rfl, rfl⟩
    · rw [action, hm]
      exact step_tracker_message hr m rest
    · rw [action, hu]
      refine step_tracker_finish hu ?_
      rintro r rfl
      exact hl u hu
    · rfl
    · exact congrArg some (tracker_freed s).symm
    · exact hl.elim

/-- Replies that echo disturb nothing. -/
theorem undisturbed_of_repliesEcho {labels : List Label} (hdrop : .dropReceiver ∉ labels)
    (hrecv : s.receiver = true) (h : run (step serviceType) s labels = some s')
    (hecho : RepliesEcho s') : Guarded (step serviceType) Undisturbed s labels := by
  intro pre l hpre u hu
  obtain ⟨v, hstep, hv⟩ := run_prefix_snoc h hpre hu
  have hrecv' := (repliesEcho_along hdrop hrecv h hecho
    ((List.prefix_append pre [l]).trans hpre) hu).1
  have hecho' := (repliesEcho_along hdrop hrecv h hecho hpre hv).2
  rcases step_cases hrecv' hstep with ⟨m, rest, rfl, -⟩ | ⟨t, outcome, rfl, ht, rfl⟩ |
    ⟨rfl, -⟩ | ⟨rfl, -⟩ | ⟨rfl, -⟩
  · trivial
  · rcases outcome with err | (err | r)
    · trivial
    · trivial
    · intro t' ht'
      obtain rfl : t = t' := Option.some.inj (ht.symm.trans ht')
      exact hecho' t r (List.mem_append_right _ (List.mem_singleton_self _))
  · trivial
  · trivial
  · exact hdrop (hpre.subset (by simp))

theorem aborted_step (hrecv : s.receiver = true) (hfreed : l ≠ .freed)
    (h : step serviceType s l = some s') : s'.aborted = s.aborted := by
  rcases step_cases hrecv h with ⟨m, rest, rfl, -, -, rfl⟩ | ⟨t, outcome, rfl, -, rfl⟩ |
    ⟨rfl, -, -, rfl⟩ | ⟨rfl, -⟩ | ⟨rfl, rfl⟩
  · rcases handle_taken_cases hrecv m rest with
      ⟨i, -, -, -, he⟩ | ⟨i, -, -, -, he⟩ | ⟨err, -, -, -, he⟩ | ⟨-, -, -, he⟩ <;>
      rw [he] <;> rfl
  · rfl
  · rfl
  · exact absurd rfl hfreed
  · rfl

/-- Only the end of the browse aborts resolvers. -/
theorem aborted_run {labels : List Label} (hdrop : .dropReceiver ∉ labels)
    (hfreed : .freed ∉ labels) (hrecv : s.receiver = true)
    (h : run (step serviceType) s labels = some s') : s'.aborted = s.aborted := by
  refine (run_guarded (P := fun _ u => u.receiver = true ∧ u.aborted = s.aborted)
    (G := fun _ _ l => l ≠ .dropReceiver ∧ l ≠ .freed) ⟨hrecv, rfl⟩ ?_ h ?_).2
  · rintro _ t l u ⟨ht, hsame⟩ hl hstep
    exact ⟨(finished_subset_step ht hl.1 hstep).1, (aborted_step ht hl.2 hstep).trans hsame⟩
  · rintro pre l post u rfl -
    have hmem : l ∈ pre ++ l :: post := by simp
    exact ⟨fun hl => hdrop (hl ▸ hmem), fun hl => hfreed (hl ▸ hmem)⟩

end

/-- **What a consumer of an instance browse holds**, while it goes on receiving and
the replies echo.  An advertised instance is held unless its resolver is in flight,
was aborted at the end of the browse, or one of it failed.  The consumer holds
advertised instances only, all along the run, exactly when each resolver that succeeds
does so while its instance is advertised.  So it holds the advertised instances in
the end, when no resolver is in flight, none was aborted and none failed. -/
theorem browseOneType_tracks (serviceType : String) (messages : List StreamItem)
    (labels : List Label) (hdrop : .dropReceiver ∉ labels) {s : OneType}
    (h : run (step serviceType) (browseOneType messages) labels = some s)
    (hecho : RepliesEcho s) :
    (∀ id ∈ replay (notifications s.handled), id ∈ replay (changes s.channel) ∨
      (∃ t ∈ s.inflight, t.item.toRemoved = id) ∨ (∃ t ∈ s.aborted, t.item.toRemoved = id) ∨
      id ∈ s.finished.filterMap notFound?) ∧
    (s.aborted ≠ [] → .freed ∈ labels) ∧
    ((∀ pre u, pre <+: labels → run (step serviceType) (browseOneType messages) pre = some u →
        replay (changes u.channel) ⊆ replay (notifications u.handled)) ↔
      Guarded (step serviceType) InTime (browseOneType messages) labels) ∧
    (Guarded (step serviceType) InTime (browseOneType messages) labels →
      s.inflight = [] → s.aborted = [] → s.finished.filterMap notFound? = [] →
      replay (changes s.channel) = replay (notifications s.handled)) := by
  have htracks := tracks_browseOneType serviceType
  have hundisturbed := undisturbed_of_repliesEcho hdrop rfl h hecho
  have hcovered := htracks.covered_run rfl (by rintro k ⟨⟩) hundisturbed h
  have hsound := htracks.sound_iff rfl Set.Subset.rfl hundisturbed h
  simp only [timely_tracker_iff] at hsound
  refine ⟨?_, ?_, hsound, ?_⟩
  · intro id hid
    exact (hcovered id hid).imp_right fun hrest =>
      or_assoc.mp (hrest.imp_left mem_pending_tracker.mp)
  · intro haborted
    by_contra hfreed
    exact haborted (aborted_run hdrop hfreed rfl h)
  · intro htimely hinflight haborted hfailed
    refine Tracker.shown_eq (hsound.mpr htimely labels s List.prefix_rfl h) hcovered ?_ hfailed
    rw [tracker, hinflight, haborted]
    rfl

/-- A printer comes, goes and comes back before its resolvers answer. -/
def returningLabels : List Label :=
  [.message, .message, .message, .finish 0 (.reply (.ok (replyTo printer))),
    .finish 1 (.reply (.ok (replyTo printer)))]

theorem inTime_returning :
    Guarded (step "_ipp._tcp") InTime
      (browseOneType [itemNew printer, itemRemove printer, itemNew printer]) returningLabels := by
  refine .cons trivial ?_
  rintro u ⟨⟩
  refine .cons trivial ?_
  rintro u ⟨⟩
  refine .cons trivial ?_
  rintro u ⟨⟩
  refine .cons ?_ ?_
  · rintro t ⟨⟩
    exact (mem_replay_iff _ _).mpr (by decide)
  rintro u ⟨⟩
  refine .cons ?_ fun _ _ => guarded_nil
  rintro t ⟨⟩
  exact (mem_replay_iff _ _).mpr (by decide)

/-- The printer is held in the end; and one whose browse ends before its resolver is
not, its resolver being aborted. -/
theorem browseOneType_tracks_example :
    (∃ s, run (step "_ipp._tcp")
        (browseOneType [itemNew printer, itemRemove printer, itemNew printer]) returningLabels =
          some s ∧
      printer.toRemoved ∈ replay (notifications s.handled) ∧
      replay (changes s.channel) = replay (notifications s.handled)) ∧
    ∃ s, run (step "_ipp._tcp") (browseOneType [itemNew printer])
        [.message, .streamEnd, .freed] = some s ∧
      printer.toRemoved ∈ replay (notifications s.handled) ∧
      printer.toRemoved ∉ replay (changes s.channel) ∧
      ∃ t ∈ s.aborted, t.item.toRemoved = printer.toRemoved := by
  constructor
  · obtain ⟨s, hrun, hfinished, hinflight, haborted, htold⟩ : ∃ s, run (step "_ipp._tcp")
        (browseOneType [itemNew printer, itemRemove printer, itemNew printer]) returningLabels =
          some s ∧
        s.finished = [(⟨0, printer⟩, .reply (.ok (replyTo printer))),
          (⟨1, printer⟩, .reply (.ok (replyTo printer)))] ∧
        s.inflight = [] ∧ s.aborted = [] ∧ printer.toRemoved ∈ replay (notifications s.handled) :=
      ⟨_, rfl, rfl, rfl, rfl, (mem_replay_iff _ _).mpr (by decide)⟩
    have hecho : RepliesEcho s := by
      intro t r hf
      rw [hfinished] at hf
      obtain ⟨rfl, ⟨⟩⟩ | ⟨rfl, ⟨⟩⟩ := by simpa using hf
      · exact echoes_replyTo printer
      · exact echoes_replyTo printer
    have hfailed : s.finished.filterMap notFound? = [] := by
      rw [hfinished]
      rfl
    refine ⟨s, hrun, htold, ?_⟩
    exact (browseOneType_tracks "_ipp._tcp" _ _ (by decide) hrun hecho).2.2.2 inTime_returning
      hinflight haborted hfailed
  · obtain ⟨s, hrun, hfinished, hinflight, htold, hchannel⟩ :
        ∃ s, run (step "_ipp._tcp") (browseOneType [itemNew printer])
          [.message, .streamEnd, .freed] = some s ∧ s.finished = [] ∧ s.inflight = [] ∧
          printer.toRemoved ∈ replay (notifications s.handled) ∧ s.channel = [] :=
      ⟨_, rfl, rfl, rfl, (mem_replay_iff _ _).mpr (by decide), rfl⟩
    have hecho : RepliesEcho s := by
      intro t r hf
      rw [hfinished] at hf
      cases hf
    have hnot : printer.toRemoved ∉ replay (changes s.channel) := by
      rw [hchannel]
      exact Set.notMem_empty _
    refine ⟨s, hrun, htold, hnot, ?_⟩
    rcases (browseOneType_tracks "_ipp._tcp" _ _ (by decide) hrun hecho).1 _ htold with
      hheld | ⟨t, ht, -⟩ | haborted | hfailed
    · exact absurd hheld hnot
    · rw [hinflight] at ht
      cases ht
    · exact haborted
    · rw [hfinished] at hfailed
      cases hfailed

end MdnsSdDiscovery.Linux
