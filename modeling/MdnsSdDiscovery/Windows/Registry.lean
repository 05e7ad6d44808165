import MdnsSdDiscovery.Lib.Runs
import MdnsSdDiscovery.Lib.Slots
import MdnsSdDiscovery.Windows.Browse

/-!
# The registry and its callbacks

The registry lives as long as somebody holds an `Arc` of it: the guard, or a
`handle_ptr` that has upgraded the `Weak` of its context.  Whoever drops the last
`Arc` drops the entries one after another, and each entry cancels its browse
before it frees the context.

A cancel that comes from outside the callbacks of the browse waits for them, and
no callback starts once it was issued; a cancel from inside such a callback does
not wait for the callback that issues it.
-/

namespace MdnsSdDiscovery.Windows

open Runs Slots

/-! ## The machine -/

/-- Where a running `browse_callback` is. -/
inductive Phase where
  /-- Between two records. -/
  | walking
  /-- In `handle_ptr`, with the upgraded registry, before `start_browse`. -/
  | upgraded (request : Request)
  /-- In `start_browse`, before the push of the entry. -/
  | pushing (child : Nat)
  /-- `start_browse` has returned. -/
  | releasing
  /-- The `Arc` that `handle_ptr` dropped was the last; the entries still to drop. -/
  | dropping (entries : List Nat)
  | returned
  deriving DecidableEq, Repr

/-- The phase holds an `Arc` of the registry. -/
def Phase.holds : Phase → Bool
  | .upgraded _ | .pushing _ | .releasing => true
  | _ => false

/-- The child that is about to be started is a meta browse. -/
def Phase.startsMeta : Phase → Bool
  | .upgraded request => request.isMeta
  | _ => false

/-- A `browse_callback` that was entered, with the records it has still to walk. -/
structure Callback where
  ctx : Nat
  records : List Record
  phase : Phase
  deriving DecidableEq, Repr

def Callback.isRunning (cb : Callback) : Bool := cb.phase ≠ .returned

/-- A `start_resolve` of an instance browse. -/
structure Resolve where
  ctx : Nat
  fullName : String
  label : String
  deriving DecidableEq, Repr

structure Backend where
  /-- The guard, or `browse_start` before it returns the guard. -/
  guard : Bool := true
  /-- `browse_start` has pushed the entry of the root. -/
  rooted : Bool := false
  entries : List Nat := []
  contexts : List BrowseContext
  callbacks : List Callback := []
  /-- What the thread of the guard has still to drop. -/
  dropping : List Nat := []
  sent : List Event := []
  resolves : List Resolve := []
  deriving DecidableEq

/-- The back-end once the root browse was started. -/
def Backend.start (root : BrowseContext) : Backend := { contexts := [root] }

namespace Backend

/-- The strong count of the registry. -/
def strong (s : Backend) : Nat := s.guard.toNat + s.callbacks.countP (·.phase.holds)

def put (s : Backend) (c : Nat) (cb : Callback) : Backend :=
  { s with callbacks := s.callbacks.set c cb }

def isRunning (s : Backend) (i : Nat) : Bool := s.callbacks.any fun cb => cb.ctx = i ∧ cb.isRunning

def isCancelled (s : Backend) (i : Nat) : Bool := (s.contexts[i]?).any (·.cancelled)

def isFreed (s : Backend) (i : Nat) : Bool := (s.contexts[i]?).any (·.freed)

/-- `DnsServiceBrowseCancel` is issued for context `i`. -/
def cancel (s : Backend) (i : Nat) : Backend :=
  { s with contexts := s.contexts.modify i fun ctx => { ctx with cancelled := true } }

/-- The context `i` is freed. -/
def free (s : Backend) (i : Nat) : Backend :=
  { s with contexts := s.contexts.modify i fun ctx => { ctx with freed := true } }

inductive Label where
  | enter (i : Nat) (status : UInt32) (records : List Record)
  /-- Callback `c` goes on to its next record, up to the upgrade. -/
  | handleRecord (c : Nat)
  /-- Callback `c` calls `start_browse`, where `DnsServiceBrowse` returns `result`. -/
  | startBrowse (c : Nat) (result : Int32)
  | pushEntry (c : Nat)
  | dropArc (c : Nat)
  | leave (c : Nat)
  | pushRoot
  | dropGuard
  /-- The cancel of the first entry to drop, or its end, in the thread of the guard
  or in callback `c`. -/
  | dropEntry (c : Option Nat)
  /-- Callback `c` has dropped all the entries. -/
  | dropped (c : Nat)
  deriving DecidableEq, Repr

/-- A record of callback `c` on context `i`, with `rest` behind it. -/
def handleRecord (s : Backend) (c i : Nat) (rest : List Record) : Record → Option Backend
  | .other => some (s.put c ⟨i, rest, .walking⟩)
  | .ptr nameHost =>
    (s.contexts[i]?).map fun ctx =>
      let (ctx, effect) := handlePtr ctx (trimDot nameHost)
      let s' := { s with contexts := s.contexts.set i ctx }
      match effect with
      | .handled => s'.put c ⟨i, rest, .walking⟩
      | .browse request =>
        -- `upgrade` fails once the last `Arc` is gone
        if 0 < s.strong then s'.put c ⟨i, rest, .upgraded request⟩
        else s'.put c ⟨i, rest, .walking⟩
      | .resolve fullName label =>
        let started := { s' with resolves := s.resolves ++ [Resolve.mk i fullName label] }
        started.put c ⟨i, rest, .walking⟩

/-- One step of the drop of entry `e`, inside a callback of context `own` or
outside of all: the cancel is issued, then the context is freed as soon as the
cancel completes. -/
def dropEntry (s : Backend) (own : Option Nat) (e : Nat) (rest : List Nat) :
    Option (Backend × List Nat) :=
  if s.isCancelled e = false then some (s.cancel e, e :: rest)
  else if own = some e ∨ s.isRunning e = false then some (s.free e, rest)
  else none

def step (s : Backend) : Label → Option Backend
  | .enter i status records =>
    if s.isCancelled i = false ∧ i < s.contexts.length then
      some { s with
        callbacks := s.callbacks ++ [⟨i, records, .walking⟩]
        sent := if status ≠ 0 then
          s.sent ++ [.error (.browseFailed s!"browse callback status {status}")] else s.sent }
    else none
  | .handleRecord c =>
    match s.callbacks[c]? with
    | some ⟨i, r :: rest, .walking⟩ => s.handleRecord c i rest r
    | _ => none
  | .startBrowse c result =>
    match s.callbacks[c]? with
    | some ⟨i, records, .upgraded request⟩ =>
      match startBrowse request result with
      | .ok ctx => some ({ s with contexts := s.contexts ++ [ctx] }.put c
          ⟨i, records, .pushing s.contexts.length⟩)
      | .error _ => some (s.put c ⟨i, records, .releasing⟩)
    | _ => none
  | .pushEntry c =>
    match s.callbacks[c]? with
    | some ⟨i, records, .pushing child⟩ =>
      some ({ s with entries := s.entries ++ [child] }.put c ⟨i, records, .releasing⟩)
    | _ => none
  | .dropArc c =>
    match s.callbacks[c]? with
    | some ⟨i, records, .releasing⟩ =>
      if (s.put c ⟨i, records, .walking⟩).strong = 0 then
        some ({ s with entries := [] }.put c ⟨i, records, .dropping s.entries⟩)
      else some (s.put c ⟨i, records, .walking⟩)
    | _ => none
  | .leave c =>
    match s.callbacks[c]? with
    | some ⟨i, [], .walking⟩ => some (s.put c ⟨i, [], .returned⟩)
    | _ => none
  | .pushRoot =>
    if s.rooted = false then some { s with rooted := true, entries := s.entries ++ [0] } else none
  | .dropGuard =>
    if s.guard = true ∧ s.rooted = true then
      if { s with guard := false }.strong = 0 then
        some { s with guard := false, entries := [], dropping := s.entries }
      else some { s with guard := false }
    else none
  | .dropEntry none =>
    match s.dropping with
    | e :: rest =>
      (s.dropEntry none e rest).map fun (s', entries) => { s' with dropping := entries }
    | [] => none
  | .dropEntry (some c) =>
    match s.callbacks[c]? with
    | some ⟨i, records, .dropping (e :: rest)⟩ =>
      (s.dropEntry (some i) e rest).map fun (s', entries) =>
        s'.put c ⟨i, records, .dropping entries⟩
    | _ => none
  | .dropped c =>
    match s.callbacks[c]? with
    | some ⟨i, records, .dropping []⟩ => some (s.put c ⟨i, records, .walking⟩)
    | _ => none

/-! ## What a step can do -/

/-- `handle_ptr` has put the target into the `seen` of context `i`. -/
def remember (s : Backend) (i : Nat) (ctx : BrowseContext) (nameHost : String) : Backend :=
  { s with
    contexts := s.contexts.set i { ctx with seen := insert (trimDot nameHost) ctx.seen } }

/-- A step, spelled out. -/
inductive Change (s : Backend) : Label → Backend → Prop where
  | enter (i : Nat) (status : UInt32) (records : List Record) (hlive : s.isCancelled i = false)
      (hi : i < s.contexts.length) :
      Change s (.enter i status records) { s with
        callbacks := s.callbacks ++ [⟨i, records, .walking⟩]
        sent := if status ≠ 0 then
          s.sent ++ [.error (.browseFailed s!"browse callback status {status}")] else s.sent }
  | other (c i : Nat) (rest : List Record)
      (hc : s.callbacks[c]? = some ⟨i, .other :: rest, .walking⟩) :
      Change s (.handleRecord c) (s.put c ⟨i, rest, .walking⟩)
  | handled (c i : Nat) (nameHost : String) (rest : List Record) (ctx : BrowseContext)
      (hc : s.callbacks[c]? = some ⟨i, .ptr nameHost :: rest, .walking⟩)
      (hctx : s.contexts[i]? = some ctx) (hseen : trimDot nameHost ∈ ctx.seen) :
      Change s (.handleRecord c) (s.put c ⟨i, rest, .walking⟩)
  | orphan (c i : Nat) (nameHost : String) (rest : List Record) (ctx : BrowseContext)
      (hc : s.callbacks[c]? = some ⟨i, .ptr nameHost :: rest, .walking⟩)
      (hctx : s.contexts[i]? = some ctx) (hmeta : ctx.isMeta = true) (hstrong : s.strong = 0) :
      Change s (.handleRecord c) ((s.remember i ctx nameHost).put c ⟨i, rest, .walking⟩)
  | upgrade (c i : Nat) (nameHost : String) (rest : List Record) (ctx : BrowseContext)
      (request : Request) (hc : s.callbacks[c]? = some ⟨i, .ptr nameHost :: rest, .walking⟩)
      (hctx : s.contexts[i]? = some ctx) (hmeta : ctx.isMeta = true)
      (hseen : trimDot nameHost ∉ ctx.seen) (hstrong : 0 < s.strong)
      (hname : request.queryName = trimDot nameHost)
      (hinterface : request.interface = ctx.interface) (hchild : request.isMeta = false) :
      Change s (.handleRecord c) ((s.remember i ctx nameHost).put c ⟨i, rest, .upgraded request⟩)
  | resolve (c i : Nat) (nameHost : String) (rest : List Record) (ctx : BrowseContext)
      (label : String) (hc : s.callbacks[c]? = some ⟨i, .ptr nameHost :: rest, .walking⟩)
      (hctx : s.contexts[i]? = some ctx) (hinstance : ctx.isMeta = false) :
      Change s (.handleRecord c) ({ s.remember i ctx nameHost with
        resolves := s.resolves ++ [Resolve.mk i (trimDot nameHost) label] }.put c
          ⟨i, rest, .walking⟩)
  | start (c i : Nat) (records : List Record) (request : Request) (ctx : BrowseContext)
      (result : Int32) (hc : s.callbacks[c]? = some ⟨i, records, .upgraded request⟩)
      (hstart : Windows.startBrowse request result = .ok ctx) :
      Change s (.startBrowse c result) ({ s with contexts := s.contexts ++ [ctx] }.put c
        ⟨i, records, .pushing s.contexts.length⟩)
  | refuse (c i : Nat) (records : List Record) (request : Request) (err : StartFailure)
      (result : Int32) (hc : s.callbacks[c]? = some ⟨i, records, .upgraded request⟩)
      (hstart : Windows.startBrowse request result = .error err) :
      Change s (.startBrowse c result) (s.put c ⟨i, records, .releasing⟩)
  | push (c i : Nat) (records : List Record) (child : Nat)
      (hc : s.callbacks[c]? = some ⟨i, records, .pushing child⟩) :
      Change s (.pushEntry c)
        ({ s with entries := s.entries ++ [child] }.put c ⟨i, records, .releasing⟩)
  | lastArc (c i : Nat) (records : List Record)
      (hc : s.callbacks[c]? = some ⟨i, records, .releasing⟩)
      (hlast : (s.put c ⟨i, records, .walking⟩).strong = 0) :
      Change s (.dropArc c) ({ s with entries := [] }.put c ⟨i, records, .dropping s.entries⟩)
  | release (c i : Nat) (records : List Record)
      (hc : s.callbacks[c]? = some ⟨i, records, .releasing⟩)
      (hstrong : (s.put c ⟨i, records, .walking⟩).strong ≠ 0) :
      Change s (.dropArc c) (s.put c ⟨i, records, .walking⟩)
  | leave (c i : Nat) (hc : s.callbacks[c]? = some ⟨i, [], .walking⟩) :
      Change s (.leave c) (s.put c ⟨i, [], .returned⟩)
  | pushRoot (hrooted : s.rooted = false) :
      Change s .pushRoot { s with rooted := true, entries := s.entries ++ [0] }
  | lastGuard (hguard : s.guard = true) (hrooted : s.rooted = true)
      (hlast : ({ s with guard := false } : Backend).strong = 0) :
      Change s .dropGuard { s with guard := false, entries := [], dropping := s.entries }
  | dropGuard (hguard : s.guard = true) (hrooted : s.rooted = true)
      (hstrong : ({ s with guard := false } : Backend).strong ≠ 0) :
      Change s .dropGuard { s with guard := false }
  | cancel (e : Nat) (rest : List Nat) (hdropping : s.dropping = e :: rest) :
      Change s (.dropEntry none) (s.cancel e)
  | free (e : Nat) (rest : List Nat) (hdropping : s.dropping = e :: rest)
      (hcancelled : s.isCancelled e = true) (hidle : s.isRunning e = false) :
      Change s (.dropEntry none) { s.free e with dropping := rest }
  | cancelInside (c i : Nat) (records : List Record) (e : Nat) (rest : List Nat)
      (hc : s.callbacks[c]? = some ⟨i, records, .dropping (e :: rest)⟩) :
      Change s (.dropEntry (some c)) (s.cancel e)
  | freeInside (c i : Nat) (records : List Record) (e : Nat) (rest : List Nat)
      (hc : s.callbacks[c]? = some ⟨i, records, .dropping (e :: rest)⟩)
      (hcancelled : s.isCancelled e = true) :
      Change s (.dropEntry (some c)) ((s.free e).put c ⟨i, records, .dropping rest⟩)
  | dropped (c i : Nat) (records : List Record)
      (hc : s.callbacks[c]? = some ⟨i, records, .dropping []⟩) :
      Change s (.dropped c) (s.put c ⟨i, records, .walking⟩)

section
variable {s s' : Backend} {l : Label} {c i : Nat}

theorem change_handleRecord {rest : List Record} {r : Record}
    (hc : s.callbacks[c]? = some ⟨i, r :: rest, .walking⟩)
    (h : s.handleRecord c i rest r = some s') : Change s (.handleRecord c) s' := by
  cases r with
  | other =>
    cases h
    exact .other c i rest hc
  | ptr nameHost =>
    obtain ⟨ctx, hctx, rfl⟩ := Option.map_eq_some_iff.mp h
    rcases handlePtr_cases ctx (trimDot nameHost) with ⟨hseen, heq⟩ |
      ⟨hseen, hmeta, request, hname, hinterface, hchild, heq⟩ | ⟨hseen, hinstance, heq⟩
    · simp only [heq, set_same hctx]
      exact .handled c i nameHost rest ctx hc hctx hseen
    · simp only [heq]
      by_cases hstrong : 0 < s.strong
      · rw [if_pos hstrong]
        exact .upgrade c i nameHost rest ctx request hc hctx hmeta hseen hstrong hname hinterface
          hchild
      · rw [if_neg hstrong]
        exact .orphan c i nameHost rest ctx hc hctx hmeta (by omega)
    · simp only [heq]
      exact .resolve c i nameHost rest ctx _ hc hctx hinstance

/-- One step of the drop of an entry: the cancel, or the free. -/
theorem dropEntry_cases {own : Option Nat} {e : Nat} {rest entries : List Nat}
    (h : s.dropEntry own e rest = some (s', entries)) :
    (s' = s.cancel e ∧ entries = e :: rest) ∨
    (s' = s.free e ∧ entries = rest ∧ s.isCancelled e = true ∧
      (own = some e ∨ s.isRunning e = false)) := by
  unfold dropEntry at h
  by_cases hcancelled : s.isCancelled e = false
  · rw [if_pos hcancelled] at h
    cases h
    exact .inl ⟨rfl, rfl⟩
  · rw [if_neg hcancelled] at h
    by_cases hwait : own = some e ∨ s.isRunning e = false
    · rw [if_pos hwait] at h
      cases h
      exact .inr ⟨rfl, rfl, by simpa using hcancelled, hwait⟩
    · rw [if_neg hwait] at h
      cases h

/-- **Every step is one of the changes.** -/
theorem step_change (h : step s l = some s') : Change s l s' := by
  cases l with
  | enter i status records =>
    by_cases hc : s.isCancelled i = false ∧ i < s.contexts.length
    · cases (if_pos hc).symm.trans h
      exact .enter i status records hc.1 hc.2
    · cases (if_neg hc).symm.trans h
  | handleRecord c =>
    simp only [step] at h
    split at h
    · rename_i i r rest hc
      exact change_handleRecord hc h
    · cases h
  | startBrowse c result =>
    simp only [step] at h
    split at h
    · rename_i i records request hc
      cases hstart : Windows.startBrowse request result with
      | error err =>
        rw [hstart] at h
        cases h
        exact .refuse c i records request err result hc hstart
      | ok ctx =>
        rw [hstart] at h
        cases h
        exact .start c i records request ctx result hc hstart
    · cases h
  | pushEntry c =>
    simp only [step] at h
    split at h
    · rename_i i records child hc
      cases h
      exact .push c i records child hc
    · cases h
  | dropArc c =>
    simp only [step] at h
    split at h
    · rename_i i records hc
      by_cases hlast : (s.put c ⟨i, records, .walking⟩).strong = 0
      · rw [if_pos hlast] at h
        cases h
        exact .lastArc c i records hc hlast
      · rw [if_neg hlast] at h
        cases h
        exact .release c i records hc hlast
    · cases h
  | leave c =>
    simp only [step] at h
    split at h
    · rename_i i hc
      cases h
      exact .leave c i hc
    · cases h
  | pushRoot =>
    by_cases hr : s.rooted = false
    · cases (if_pos hr).symm.trans h
      exact .pushRoot hr
    · cases (if_neg hr).symm.trans h
  | dropGuard =>
    by_cases hg : s.guard = true ∧ s.rooted = true
    · have h' := (if_pos hg).symm.trans h
      by_cases hlast : ({ s with guard := false } : Backend).strong = 0
      · cases (if_pos hlast).symm.trans h'
        exact .lastGuard hg.1 hg.2 hlast
      · cases (if_neg hlast).symm.trans h'
        exact .dropGuard hg.1 hg.2 hlast
    · cases (if_neg hg).symm.trans h
  | dropEntry thread =>
    cases thread with
    | none =>
      simp only [step] at h
      split at h
      · rename_i e rest hd
        obtain ⟨⟨t, entries⟩, ht, rfl⟩ := Option.map_eq_some_iff.mp h
        rcases dropEntry_cases ht with ⟨rfl, rfl⟩ | ⟨rfl, rfl, hcancelled, hwait⟩
        · rw [← hd]
          exact .cancel e rest hd
        · exact .free e _ hd hcancelled (hwait.resolve_left (by simp))
      · cases h
    | some c =>
      simp only [step] at h
      split at h
      · rename_i i records e rest hc
        obtain ⟨⟨t, entries⟩, ht, rfl⟩ := Option.map_eq_some_iff.mp h
        rcases dropEntry_cases ht with ⟨rfl, rfl⟩ | ⟨rfl, rfl, hcancelled, -⟩
        · have hsame : (s.cancel e).put c ⟨i, records, .dropping (e :: rest)⟩ = s.cancel e :=
            congrArg (fun callbacks => { s.cancel e with callbacks }) (set_same hc)
          rw [hsame]
          exact .cancelInside c i records e rest hc
        · exact .freeInside c i records e _ hc hcancelled
      · cases h
  | dropped c =>
    simp only [step] at h
    split at h
    · rename_i i records hc
      cases h
      exact .dropped c i records hc
    · cases h

end

/-! ## What becomes of the registry and the contexts -/

/-- What the safety of a context depends on. -/
structure Flags where
  isMeta : Bool
  cancelled : Bool
  freed : Bool
  deriving DecidableEq, Repr

def flags (s : Backend) (i : Nat) : Option Flags :=
  (s.contexts[i]?).map fun ctx => ⟨ctx.isMeta, ctx.cancelled, ctx.freed⟩

/-- Somebody but the guard holds an `Arc`. -/
def Held (s : Backend) : Prop := ∃ cb ∈ s.callbacks, cb.phase.holds = true

/-- How a callback of context `i` goes on. -/
inductive Move (s s' : Backend) (i : Nat) : Phase → Phase → Prop where
  | walk : Move s s' i .walking .walking
  | upgrade (request : Request) (hstrong : 0 < s.strong)
      (hmeta : ∃ f, s.flags i = some f ∧ f.isMeta = true) (hchild : request.isMeta = false) :
      Move s s' i .walking (.upgraded request)
  | start (request : Request) (child : Nat) : Move s s' i (.upgraded request) (.pushing child)
  | refuse (request : Request) : Move s s' i (.upgraded request) .releasing
  | push (child : Nat) : Move s s' i (.pushing child) .releasing
  | release (hstrong : s'.strong ≠ 0) : Move s s' i .releasing .walking
  | leave : Move s s' i .walking .returned
  | dropped : Move s s' i (.dropping []) .walking

/-- The parts of the state that callbacks leave alone. -/
def SameOwner (s s' : Backend) : Prop :=
  s'.guard = s.guard ∧ s'.rooted = s.rooted ∧ s'.dropping = s.dropping

/-- The flags of every context are kept, but for one context that is new and
answers the request of the phase. -/
def FlagsKept (s s' : Backend) (phase : Phase) : Prop :=
  ∀ j, s'.flags j = s.flags j ∨
    s.flags j = none ∧ s'.flags j = some ⟨phase.startsMeta, false, false⟩

/-- The effect of a step. -/
inductive Effect (s : Backend) (l : Label) (s' : Backend) : Prop where
  | enter (i : Nat) (records : List Record) (hlive : s.isCancelled i = false)
      (howner : SameOwner s s') (hentries : s'.entries = s.entries) (hflags : s'.flags = s.flags)
      (hcallbacks : s'.callbacks = s.callbacks ++ [⟨i, records, .walking⟩])
  | move (c i : Nat) (records records' : List Record) (phase phase' : Phase)
      (hc : s.callbacks[c]? = some ⟨i, records, phase⟩) (hmove : Move s s' i phase phase')
      (howner : SameOwner s s') (hentries : s.entries ⊆ s'.entries) (hflags : FlagsKept s s' phase)
      (hcallbacks : s'.callbacks = s.callbacks.set c ⟨i, records', phase'⟩)
  | lastArc (c i : Nat) (records : List Record)
      (hc : s.callbacks[c]? = some ⟨i, records, .releasing⟩) (howner : SameOwner s s')
      (hstrong : s'.strong = 0) (hflags : s'.flags = s.flags)
      (hcallbacks : s'.callbacks = s.callbacks.set c ⟨i, records, .dropping s.entries⟩)
  | pushRoot (hguard : s'.guard = s.guard) (hdropping : s'.dropping = s.dropping)
      (hentries : s'.entries = s.entries ++ [0]) (hflags : s'.flags = s.flags)
      (hcallbacks : s'.callbacks = s.callbacks)
  | dropGuard (hl : l = .dropGuard) (hguard : s.guard = true) (hrooted : s.rooted = true)
      (hguard' : s'.guard = false) (hrooted' : s'.rooted = true)
      (hheld : s.Held) (hdropping : s'.dropping = s.dropping) (hentries : s'.entries = s.entries)
      (hflags : s'.flags = s.flags) (hcallbacks : s'.callbacks = s.callbacks)
  | lastGuard (hguard : s.guard = true) (hguard' : s'.guard = false) (hheld : ¬ s.Held)
      (hdropping : s'.dropping = s.entries)
      (hflags : s'.flags = s.flags) (hcallbacks : s'.callbacks = s.callbacks)
  | cancel (e : Nat) (howner : SameOwner s s') (hentries : s'.entries = s.entries)
      (hflags : ∀ j, s'.flags j = (s.flags j).map fun f =>
        if e = j then { f with cancelled := true } else f)
      (hcallbacks : s'.callbacks = s.callbacks)
  | free (e : Nat) (hcancelled : s.isCancelled e = true) (hidle : s.isRunning e = false)
      (hguard : s'.guard = s.guard) (hrooted : s'.rooted = s.rooted)
      (hentries : s'.entries = s.entries)
      (hflags : ∀ j, s'.flags j = (s.flags j).map fun f =>
        if e = j then { f with freed := true } else f)
      (hdropping : s.dropping = e :: s'.dropping)
      (hcallbacks : s'.callbacks = s.callbacks)
  | freeInside (c i : Nat) (records : List Record) (e : Nat) (rest : List Nat)
      (hc : s.callbacks[c]? = some ⟨i, records, .dropping (e :: rest)⟩)
      (hcancelled : s.isCancelled e = true) (howner : SameOwner s s')
      (hentries : s'.entries = s.entries)
      (hflags : ∀ j, s'.flags j = (s.flags j).map fun f =>
        if e = j then { f with freed := true } else f)
      (hcallbacks : s'.callbacks = s.callbacks.set c ⟨i, records, .dropping rest⟩)

section
variable {s s' : Backend} {l : Label} {c i : Nat}

theorem strong_eq_zero_iff : s.strong = 0 ↔ s.guard = false ∧ ¬ s.Held := by
  unfold strong Held
  rw [Nat.add_eq_zero_iff, List.countP_eq_zero]
  cases s.guard <;> simp

theorem strong_pos_iff : 0 < s.strong ↔ s.guard = true ∨ s.Held := by
  rw [Nat.pos_iff_ne_zero, ne_eq, strong_eq_zero_iff]
  cases s.guard <;> simp

/-- The strong count does not depend on what a callback does with its `Arc`. -/
theorem strong_put_congr {t : Backend} {cb cb' : Callback} (hguard : t.guard = s.guard)
    (hcallbacks : t.callbacks = s.callbacks) (hholds : cb.phase.holds = cb'.phase.holds) :
    (t.put c cb).strong = (s.put c cb').strong := by
  have hcount : ∀ (l : List Callback) (x : Callback), (l.set c x).countP (·.phase.holds) =
      ((l.map (·.phase.holds)).set c x.phase.holds).countP id := by
    intro l x
    rw [← List.map_set, List.countP_map]
    rfl
  simp only [strong, put, hguard, hcallbacks, hcount, hholds]

theorem flags_modify (s : Backend) (e : Nat) (f : BrowseContext → BrowseContext)
    (g : Flags → Flags)
    (hfg : ∀ ctx, (⟨(f ctx).isMeta, (f ctx).cancelled, (f ctx).freed⟩ : Flags) =
      g ⟨ctx.isMeta, ctx.cancelled, ctx.freed⟩) (j : Nat) :
    ({ s with contexts := s.contexts.modify e f } : Backend).flags j =
      (s.flags j).map fun x => if e = j then g x else x := by
  unfold flags
  dsimp only
  rw [List.getElem?_modify]
  cases s.contexts[j]? with
  | none => rfl
  | some ctx =>
    by_cases he : e = j
    · simp [he, hfg]
    · simp [he]

/-- A context that only gains a `seen` name keeps its flags. -/
theorem flags_set_seen {ctx : BrowseContext} (h : s.contexts[i]? = some ctx) (seen : Finset String)
    (j : Nat) :
    ({ s with contexts := s.contexts.set i { ctx with seen } } : Backend).flags j = s.flags j := by
  unfold flags
  dsimp only
  rw [List.getElem?_set]
  by_cases hij : i = j
  · subst hij
    have hlt := (List.getElem?_eq_some_iff.mp h).1
    rw [if_pos rfl, if_pos hlt, h]
    rfl
  · rw [if_neg hij]

theorem flags_cancel (s : Backend) (e j : Nat) : (s.cancel e).flags j =
    (s.flags j).map fun f => if e = j then { f with cancelled := true } else f :=
  flags_modify s e _ _ (fun _ => rfl) j

theorem flags_free (s : Backend) (e j : Nat) : (s.free e).flags j =
    (s.flags j).map fun f => if e = j then { f with freed := true } else f :=
  flags_modify s e _ _ (fun _ => rfl) j

theorem flags_start {request : Request} {result : Int32} {ctx : BrowseContext}
    (hstart : Windows.startBrowse request result = .ok ctx) :
    FlagsKept s { s with contexts := s.contexts ++ [ctx] } (.upgraded request) := by
  obtain ⟨-, -, rfl⟩ := startBrowse_eq_ok.mp hstart
  intro j
  unfold flags
  dsimp only
  rcases Nat.lt_trichotomy j s.contexts.length with hj | hj | hj
  · exact .inl (by rw [List.getElem?_append_left hj])
  · subst hj
    right
    rw [List.getElem?_eq_none le_rfl, List.getElem?_concat_length]
    exact ⟨rfl, rfl⟩
  · left
    rw [List.getElem?_eq_none hj.le, List.getElem?_eq_none (by simp; omega)]

/-- **Every step has one of the effects.** -/
theorem step_effect (h : step s l = some s') : Effect s l s' := by
  cases step_change h with
  | enter i status records hlive hi => exact .enter i records hlive ⟨rfl, rfl, rfl⟩ rfl rfl rfl
  | other c i rest hc =>
    exact .move c i _ rest _ _ hc .walk ⟨rfl, rfl, rfl⟩ (List.Subset.refl _) (fun _ => .inl rfl) rfl
  | handled c i nameHost rest ctx hc hctx hseen =>
    exact .move c i _ rest _ _ hc .walk ⟨rfl, rfl, rfl⟩ (List.Subset.refl _) (fun _ => .inl rfl) rfl
  | orphan c i nameHost rest ctx hc hctx hmeta hstrong =>
    exact .move c i _ rest _ _ hc .walk ⟨rfl, rfl, rfl⟩ (List.Subset.refl _)
      (fun j => .inl (flags_set_seen hctx _ j)) rfl
  | upgrade c i nameHost rest ctx request hc hctx hmeta hseen hstrong hname hinterface hchild =>
    have hf : ∃ f, s.flags i = some f ∧ f.isMeta = true := ⟨_, by rw [flags, hctx]; rfl, hmeta⟩
    exact .move c i _ rest _ _ hc (.upgrade request hstrong hf hchild) ⟨rfl, rfl, rfl⟩
      (List.Subset.refl _) (fun j => .inl (flags_set_seen hctx _ j)) rfl
  | resolve c i nameHost rest ctx label hc hctx hinstance =>
    exact .move c i _ rest _ _ hc .walk ⟨rfl, rfl, rfl⟩ (List.Subset.refl _)
      (fun j => .inl (flags_set_seen hctx _ j)) rfl
  | start c i records request ctx result hc hstart =>
    exact .move c i records records _ _ hc (.start request _) ⟨rfl, rfl, rfl⟩
      (List.Subset.refl _) (flags_start hstart) rfl
  | refuse c i records request err result hc hstart =>
    exact .move c i records records _ _ hc (.refuse request) ⟨rfl, rfl, rfl⟩ (List.Subset.refl _)
      (fun _ => .inl rfl) rfl
  | push c i records child hc =>
    exact .move c i records records _ _ hc (.push child) ⟨rfl, rfl, rfl⟩
      (List.subset_append_left _ _) (fun _ => .inl rfl) rfl
  | lastArc c i records hc hlast =>
    refine .lastArc c i records hc ⟨rfl, rfl, rfl⟩ ?_ rfl rfl
    rw [← hlast]
    exact strong_put_congr rfl rfl rfl
  | release c i records hc hstrong =>
    exact .move c i records records _ _ hc (.release hstrong) ⟨rfl, rfl, rfl⟩
      (List.Subset.refl _) (fun _ => .inl rfl) rfl
  | leave c i hc =>
    exact .move c i [] [] _ _ hc .leave ⟨rfl, rfl, rfl⟩ (List.Subset.refl _)
      (fun _ => .inl rfl) rfl
  | pushRoot hrooted => exact .pushRoot rfl rfl rfl rfl rfl
  | lastGuard hguard hrooted hlast =>
    exact .lastGuard hguard rfl (strong_eq_zero_iff.mp hlast).2 rfl rfl rfl
  | dropGuard hguard hrooted hstrong =>
    refine .dropGuard rfl hguard hrooted rfl hrooted ?_ rfl rfl rfl rfl
    rcases strong_pos_iff.mp (Nat.pos_of_ne_zero hstrong) with hguard | hheld
    · cases hguard
    · exact hheld
  | cancel e rest hdropping => exact .cancel e ⟨rfl, rfl, rfl⟩ rfl (flags_cancel s e) rfl
  | free e rest hdropping hcancelled hidle =>
    exact .free e hcancelled hidle rfl rfl rfl (flags_free s e) hdropping rfl
  | cancelInside c i records e rest hc =>
    exact .cancel e ⟨rfl, rfl, rfl⟩ rfl (flags_cancel s e) rfl
  | freeInside c i records e rest hc hcancelled =>
    exact .freeInside c i records e rest hc hcancelled ⟨rfl, rfl, rfl⟩ rfl (flags_free s e) rfl
  | dropped c i records hc =>
    exact .move c i records records _ _ hc .dropped ⟨rfl, rfl, rfl⟩ (List.Subset.refl _)
      (fun _ => .inl rfl) rfl

end

end Backend

end MdnsSdDiscovery.Windows
