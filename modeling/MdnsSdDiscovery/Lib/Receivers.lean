import MdnsSdDiscovery.Lib.Runs

/-!
# The reader of a channel

The senders of an unbounded channel are a machine whose state says what they have
sent so far and whether none of them is left.  The one reader takes what was sent
item by item, waits while there is nothing to take, and is told the end once no
sender is left either.

* `read_run`: the reader has taken the beginning of what was sent, and is told
  the end after everything;
* `received_of_ended`: the end is final;
* `ended_eq_false`: a reader that the senders outlive is never told the end;
* `run_act`: without the reader the senders run the same;
* `recv_eq_none_iff`: when the reader waits.
-/

namespace MdnsSdDiscovery.Receivers

open Runs

variable {σ ι α : Type*}

structure Senders (σ ι α : Type*) where
  step : σ → ι → Option σ
  /-- What was sent, in order. -/
  sent : σ → List α
  /-- No sender is left. -/
  closed : σ → Bool
  /-- The reader has not been dropped. -/
  receiver : σ → Bool

/-- Where `I` holds, the senders only append to what they have sent, and once
closed they send nothing more. -/
structure Senders.Lawful (m : Senders σ ι α) (I : σ → Prop) : Prop where
  invariant : ∀ s i t, I s → m.step s i = some t → I t
  grows : ∀ s i t, I s → m.step s i = some t → m.sent s <+: m.sent t
  final : ∀ s i t, I s → m.closed s = true → m.step s i = some t →
    m.closed t = true ∧ m.sent t = m.sent s

/-- The senders and what the reader has got from them. -/
structure Session (σ α : Type*) where
  senders : σ
  received : List α := []
  /-- The reader was told the end. -/
  ended : Bool := false

inductive Label (ι : Type*) where
  | act (i : ι)
  | recv

/-- The step of the senders that a label is. -/
def Label.act? : Label ι → Option ι
  | .act i => some i
  | .recv => none

variable (m : Senders σ ι α) {I : σ → Prop}

/-- `recv`, which is `none` while it waits. -/
def Session.recv (s : Session σ α) : Option (Session σ α) :=
  if m.receiver s.senders then
    match (m.sent s.senders)[s.received.length]? with
    | some a => some { s with received := s.received ++ [a] }
    | none => if m.closed s.senders then some { s with ended := true } else none
  else none

def Session.step (s : Session σ α) : Label ι → Option (Session σ α)
  | .act i => (m.step s.senders i).map fun t => { s with senders := t }
  | .recv => s.recv m

/-- What holds of every session. -/
structure Read (I : σ → Prop) (s : Session σ α) : Prop where
  invariant : I s.senders
  received : s.received <+: m.sent s.senders
  ended : s.ended = true → m.closed s.senders = true ∧ s.received = m.sent s.senders

variable {m} {s s' : Session σ α}

/-- Behind what was taken there is the rest of what was sent. -/
theorem getElem?_sent_of_prefix {received sent : List α} (h : received <+: sent) :
    (∃ a, sent[received.length]? = some a ∧ received ++ [a] <+: sent) ∨
    (sent[received.length]? = none ∧ received = sent) := by
  obtain ⟨rest, rfl⟩ := h
  cases rest with
  | nil => exact .inr ⟨by simp, by simp⟩
  | cons a rest => exact .inl ⟨a, by simp, ⟨rest, by simp⟩⟩

theorem ne_of_prefix_snoc {received sent : List α} {a : α} (h : received ++ [a] <+: sent) :
    received ≠ sent := by
  rintro rfl
  have hlength := h.length_le
  rw [List.length_append, List.length_singleton] at hlength
  omega

theorem Read.start {senders : σ} (h : I senders) : Read m I { senders } :=
  ⟨h, List.nil_prefix, by simp⟩

/-- **A `recv` returns** the next item, or the end. -/
theorem Read.recv_cases (h : Read m I s) (hrecv : s.recv m = some s') :
    (∃ a, s' = { s with received := s.received ++ [a] } ∧
      s.received ++ [a] <+: m.sent s.senders) ∨
    (s' = { s with ended := true } ∧ m.closed s.senders = true ∧
      s.received = m.sent s.senders) := by
  unfold Session.recv at hrecv
  split at hrecv
  · rcases getElem?_sent_of_prefix h.received with ⟨a, ha, hprefix⟩ | ⟨hnone, heq⟩
    · rw [ha] at hrecv
      cases hrecv
      exact .inl ⟨a, rfl, hprefix⟩
    · rw [hnone] at hrecv
      dsimp only at hrecv
      split at hrecv
      · rename_i hclosed
        cases hrecv
        exact .inr ⟨rfl, hclosed, heq⟩
      · cases hrecv
  · cases hrecv

theorem senders_of_recv (hrecv : s.recv m = some s') : s'.senders = s.senders := by
  unfold Session.recv at hrecv
  split at hrecv
  · split at hrecv
    · cases hrecv
      rfl
    · split at hrecv <;> cases hrecv
      rfl
  · cases hrecv

/-- **The senders of a session make a run of their own.** -/
theorem run_act {labels : List (Label ι)} (hrun : run (Session.step m) s labels = some s') :
    run m.step s.senders (labels.filterMap Label.act?) = some s'.senders := by
  induction labels generalizing s with
  | nil =>
    cases hrun
    rfl
  | cons l labels ih =>
    obtain ⟨u, hu, hrest⟩ := Option.bind_eq_some_iff.mp hrun
    cases l with
    | act i =>
      obtain ⟨t, ht, rfl⟩ := Option.map_eq_some_iff.mp hu
      rw [List.filterMap_cons, Label.act?, run_cons, ht]
      exact ih hrest
    | recv =>
      rw [List.filterMap_cons, Label.act?, ← senders_of_recv hu]
      exact ih hrest

theorem Read.step (hm : m.Lawful I) (h : Read m I s) {l : Label ι}
    (hstep : s.step m l = some s') : Read m I s' := by
  cases l with
  | act i =>
    obtain ⟨t, ht, rfl⟩ := Option.map_eq_some_iff.mp hstep
    refine ⟨hm.invariant _ i t h.invariant ht, ?_, ?_⟩
    · exact h.received.trans (hm.grows _ i t h.invariant ht)
    · intro hended
      obtain ⟨hclosed, heq⟩ := h.ended hended
      obtain ⟨hclosed', hsent⟩ := hm.final _ i t h.invariant hclosed ht
      exact ⟨hclosed', heq.trans hsent.symm⟩
  | recv =>
    rcases h.recv_cases hstep with ⟨a, rfl, hprefix⟩ | ⟨rfl, hclosed, heq⟩
    · refine ⟨h.invariant, hprefix, ?_⟩
      intro hended
      exact absurd (h.ended hended).2 (ne_of_prefix_snoc hprefix)
    · exact ⟨h.invariant, h.received, fun _ => ⟨hclosed, heq⟩⟩

/-- **Nothing is lost, doubled or out of order** on the way to the reader. -/
theorem read_run (hm : m.Lawful I) (h : Read m I s) {labels : List (Label ι)}
    (hrun : run (Session.step m) s labels = some s') : Read m I s' :=
  run_invariant (I := Read m I) (fun _ _ _ hs hstep => hs.step hm hstep) h hrun

/-- **The end is final.** -/
theorem received_of_ended (hm : m.Lawful I) (h : Read m I s) (hended : s.ended = true)
    {labels : List (Label ι)} (hrun : run (Session.step m) s labels = some s') :
    s'.ended = true ∧ s'.received = s.received := by
  refine (run_invariant (I := fun u => Read m I u ∧ u.ended = true ∧ u.received = s.received)
    ?_ ⟨h, hended, rfl⟩ hrun).2
  rintro u l u' ⟨hu, hend, hreceived⟩ hstep
  refine ⟨hu.step hm hstep, ?_⟩
  cases l with
  | act i =>
    obtain ⟨t, -, rfl⟩ := Option.map_eq_some_iff.mp hstep
    exact ⟨hend, hreceived⟩
  | recv =>
    rcases hu.recv_cases hstep with ⟨a, -, hprefix⟩ | ⟨rfl, -, -⟩
    · exact absurd (hu.ended hend).2 (ne_of_prefix_snoc hprefix)
    · exact ⟨rfl, hreceived⟩

theorem receiver_of_recv (hrecv : s.recv m = some s') : m.receiver s.senders = true := by
  unfold Session.recv at hrecv
  split at hrecv
  · assumption
  · cases hrecv

/-- **A reader that the senders outlive** is never told the end. -/
theorem ended_eq_false (hm : m.Lawful I)
    (hopen : ∀ t, I t → m.receiver t = true → m.closed t = false) (h : Read m I s)
    (hended : s.ended = false) {labels : List (Label ι)}
    (hrun : run (Session.step m) s labels = some s') : s'.ended = false := by
  refine (run_invariant (I := fun u => Read m I u ∧ u.ended = false) ?_ ⟨h, hended⟩ hrun).2
  rintro u l u' ⟨hu, hend⟩ hstep
  refine ⟨hu.step hm hstep, ?_⟩
  cases l with
  | act i =>
    obtain ⟨t, -, rfl⟩ := Option.map_eq_some_iff.mp hstep
    exact hend
  | recv =>
    rcases hu.recv_cases hstep with ⟨a, rfl, -⟩ | ⟨-, hclosed, -⟩
    · exact hend
    · cases (hopen _ hu.invariant (receiver_of_recv hstep)).symm.trans hclosed

/-- **When the reader waits**: it has taken everything, and a sender is left. -/
theorem recv_eq_none_iff (h : Read m I s) (hreceiver : m.receiver s.senders = true) :
    s.recv m = none ↔ s.received = m.sent s.senders ∧ m.closed s.senders = false := by
  unfold Session.recv
  rw [if_pos hreceiver]
  rcases getElem?_sent_of_prefix h.received with ⟨a, ha, hprefix⟩ | ⟨hnone, heq⟩
  · rw [ha]
    refine iff_of_false (by simp) ?_
    rintro ⟨heq, -⟩
    exact ne_of_prefix_snoc hprefix heq
  · rw [hnone]
    cases hclosed : m.closed s.senders <;> simp [heq]

end MdnsSdDiscovery.Receivers
