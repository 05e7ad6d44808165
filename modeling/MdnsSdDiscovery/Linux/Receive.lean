import MdnsSdDiscovery.Lib.Receivers
import MdnsSdDiscovery.Linux.Ledger

/-!
# `ServiceBrowser::recv` on Linux

Every task of a browse holds a clone of `tx`, so `rx` is closed once no task is
live.  Calls of `recv` interleave with the steps of the tasks in any order; they
need the handle, which owns `rx` and the guard.

* `browse_recv`: what `recv` returns, when it waits, and when it says `None`.
-/

namespace MdnsSdDiscovery.Linux

open Runs Supervision

namespace Browse

/-- The tasks as the senders of the channel. -/
def senders : Receivers.Senders Browse Label Event where
  step := step
  sent := sent
  closed s := s.forest.tasks.all fun task => !task.live
  receiver s := s.receiver && s.forest.guard

theorem closed_iff {s : Browse} : senders.closed s = true ↔ ∀ t, ¬ s.forest.Live t := by
  refine List.all_eq_true.trans ⟨?_, ?_⟩
  · rintro h t ⟨task, ht, hl⟩
    have hdead := h task (List.mem_of_getElem? ht)
    rw [hl] at hdead
    cases hdead
  · intro h task hmem
    obtain ⟨t, ht⟩ := List.mem_iff_getElem?.mp hmem
    cases hl : task.live with
    | false => rfl
    | true => exact absurd ⟨task, ht, hl⟩ (h t)

theorem lawful_senders : senders.Lawful fun s => s.forest.Supervised where
  invariant _ _ _ hs h := supervised_step hs h
  grows _ _ _ _ h := ⟨_, (step_booked h).sent.symm⟩
  final _ _ _ _ hclosed h := by
    obtain ⟨hlive, hsent⟩ := not_live_step (closed_iff.mp hclosed) h
    exact ⟨closed_iff.mpr hlive, hsent⟩

end Browse

open Browse

/-- **What the reader of a browse sees**: the events in the order in which they were
sent, and `None` when no task is left and everything was received, from then on for
good.  It waits only while a task is live, so never once the root has ended and the
aborts are carried out. -/
theorem browse_recv (conn proxy : Except String Unit) (serviceType domain : Option String)
    (interfaceIndex : Option NonZeroU32) {start : Browse}
    (hstart : browseStart conn proxy serviceType domain interfaceIndex = .ok start)
    (labels : List (Receivers.Label Label)) {s : Receivers.Session Browse Event}
    (h : run (Receivers.Session.step senders) { senders := start } labels = some s) :
    run step start (labels.filterMap Receivers.Label.act?) = some s.senders ∧
    s.received <+: s.senders.sent ∧
    (s.ended = true → (∀ t, ¬ s.senders.forest.Live t) ∧ s.received = s.senders.sent ∧
      ∀ more s', run (Receivers.Session.step senders) s more = some s' →
        s'.ended = true ∧ s'.received = s.received) ∧
    (s.senders.receiver = true → s.senders.forest.guard = true →
      (s.recv senders = none ↔
        s.received = s.senders.sent ∧ ∃ t, s.senders.forest.Live t) ∧
      (¬ s.senders.forest.Live 0 → s.senders.forest.Quiescent → s.recv senders ≠ none)) := by
  have hread := Receivers.read_run lawful_senders
    (Receivers.Read.start (supervised_browseStart hstart)) h
  refine ⟨Receivers.run_act h, hread.received, ?_, ?_⟩
  · intro hended
    obtain ⟨hclosed, heq⟩ := hread.ended hended
    refine ⟨closed_iff.mp hclosed, heq, fun more s' hmore => ?_⟩
    exact Receivers.received_of_ended lawful_senders hread hended hmore
  · intro hreceiver hguard
    have hwait : s.recv senders = none ↔
        s.received = s.senders.sent ∧ ∃ t, s.senders.forest.Live t := by
      rw [Receivers.recv_eq_none_iff hread (Bool.and_eq_true_iff.mpr ⟨hreceiver, hguard⟩)]
      refine and_congr_right fun _ => ?_
      rw [← Bool.not_eq_true, closed_iff, not_forall]
      exact exists_congr fun t => not_not
    refine ⟨hwait, ?_⟩
    intro hroot hq hnone
    obtain ⟨t, ht⟩ := (hwait.mp hnone).2
    exact hread.invariant.not_live_of_root hroot hq t ht

/-- A browse whose daemon goes away: the error, then the end. -/
theorem browse_recv_example :
    ∃ start s, browseStart (.ok ()) (.ok ()) (some "_ipp._tcp") none none = .ok start ∧
      run (Receivers.Session.step senders) { senders := start }
        [.act (.setup 0 (.browserNew "gone")), .recv, .recv] = some s ∧
      s.ended = true ∧ s.received = s.senders.sent ∧
      s.received = [.error (.browseFailed "ServiceBrowserNew failed for _ipp._tcp: gone")] := by
  have hrecv := browse_recv (.ok ()) (.ok ()) (some "_ipp._tcp") none none rfl
    [.act (.setup 0 (.browserNew "gone")), .recv, .recv] rfl
  exact ⟨_, _, rfl, rfl, rfl, (hrecv.2.2.1 rfl).2.1, rfl⟩

end MdnsSdDiscovery.Linux
