import MdnsSdDiscovery.Linux.ResolveOnce
import MdnsSdDiscovery.Macos.ResolveOnce

/-!
# Identities that lead back

A consumer that probes an instance gives `resolve_once` the name, the type, the
domain and the interface of an event.  `identity_resolves` says that this asks
for the instance that the event was about, on Linux and on macOS.
-/

namespace MdnsSdDiscovery.Backends

open Linux (Item Echoes AsksFor interfaceToAvahi browseOneTypeMessage resolveAndEmit)
open Macos (Callback Daemon IgnoresDots InstanceReply PumpState SameInstance flagsAdd
  resolveOnce resolveService)

/-- `resolve_once` with the fields of the identity. -/
def probe (display : ServiceBrowseError → String) (daemon : Daemon) (joined : Except String Unit)
    (identity : RemovedService) : Except ServiceBrowseError DiscoveredService :=
  resolveOnce display daemon joined identity.name identity.serviceType identity.domain
    identity.interfaceIndex

section
variable {display : ServiceBrowseError → String} {daemon : Daemon} {joined : Except String Unit}
  {cb : Callback} {service : DiscoveredService}

theorem identity_of_probe (h : probe display daemon joined cb.identity = .ok service) :
    service.identity = cb.identity := by
  rw [Macos.resolveOnce_identity h]
  simp only [Callback.identity, trimDot_trimDot]

/-- The probe finds what the resolver of the reply finds. -/
theorem found_iff_probe (hdaemon : IgnoresDots daemon.resolve)
    (hregtype : cb.identity.serviceType ≠ "") (hdomain : cb.identity.domain ≠ "") :
    resolveService display daemon cb.resolve = .ok (.found service) ↔
      probe display daemon (.ok ()) cb.identity = .ok service :=
  Macos.found_iff.trans (Macos.resolveOnce_trimDot_iff hdaemon hregtype hdomain).symm

end

/-- **The identity of an event leads back to its instance.** -/
theorem identity_resolves :
    (∀ (i : Item) (browsed : String), 0 < i.iface →
      browseOneTypeMessage browsed (.ok ⟨some "ItemNew", .item i⟩) = .resolve i ∧
      (∀ reply found, Echoes i reply →
        resolveAndEmit i (.reply (.ok reply)) = .ok (.found found) → AsksFor found.identity i) ∧
      ∃ removed, browseOneTypeMessage browsed (.ok ⟨some "ItemRemove", .item i⟩) =
        .remove removed ∧ AsksFor removed i) ∧
    (∀ index, (∃ err, interfaceToAvahi index = .error err) ↔
      ∃ i : NonZeroU32, index = some i ∧ Int32.maxValue.toUInt32 < i.val) ∧
    (∀ a b interface, interfaceToAvahi a = .ok interface → interfaceToAvahi b = .ok interface →
      a = b) ∧
    ∀ (display : ServiceBrowseError → String) (state : PumpState) (add remove : Callback),
      InstanceReply add → InstanceReply remove → SameInstance add remove →
      add.flags &&& flagsAdd ≠ 0 → remove.flags &&& flagsAdd = 0 →
      ∃ r removed, (state.browseCallback add).resolves = state.resolves ++ [r] ∧
        (state.browseCallback remove).sent = state.sent ++ [.ok (.removed removed)] ∧
        ∀ daemon,
          (∀ found, resolveService display daemon r = .ok (.found found) →
            found.identity = removed) ∧
          (∀ joined again, probe display daemon joined removed = .ok again →
            again.identity = removed) ∧
          (IgnoresDots daemon.resolve → removed.serviceType ≠ "" → removed.domain ≠ "" →
            ∀ service, resolveService display daemon r = .ok (.found service) ↔
              probe display daemon (.ok ()) removed = .ok service) := by
  refine ⟨?_, ?_, ?_, ?_⟩
  · intro i browsed hiface
    have hasks := Linux.asksFor_toRemoved hiface
    refine ⟨rfl, ?_, _, rfl, hasks⟩
    intro reply found hechoes hfound
    cases hfound
    rw [Linux.identity_resolvedToService hechoes]
    exact hasks
  · intro index
    simp only [Linux.interfaceToAvahi_error_iff]
    constructor
    · rintro ⟨err, i, hi, hgt, -⟩
      exact ⟨i, hi, hgt⟩
    · rintro ⟨i, hi, hgt⟩
      exact ⟨_, i, hi, hgt, rfl⟩
  · intro a b interface ha hb
    exact Linux.interfaceToAvahi_inj ha hb
  · intro display state add remove hadd hremove hsame haddFlag hremoveFlag
    refine ⟨add.resolve, add.identity, ?_, ?_, ?_⟩
    · rw [hadd.browseCallback_add haddFlag]
    · rw [hremove.browseCallback_remove hremoveFlag, hsame.identity_eq]
      rfl
    · intro daemon
      refine ⟨?_, ?_, ?_⟩
      · intro found hfound
        exact Macos.identity_of_found hfound
      · intro joined again hagain
        exact identity_of_probe hagain
      · intro hdaemon hregtype hdomain service
        exact found_iff_probe hdaemon hregtype hdomain

/-- The signal of a printer. -/
def printerItem : Item := ⟨2, 0, "Printer", "_ipp._tcp", "local", 0⟩

/-- A reply about a printer whose type and domain have the given ends. -/
def dottedReply (flags : UInt32) (dots : String) : Callback :=
  ⟨false, flags, 2, Macos.noError, some (Utf8.encode "Printer"),
    some (Utf8.encode ("_ipp._tcp" ++ dots)), some (Utf8.encode ("local" ++ dots))⟩

/-- A daemon that resolves every name. -/
def resolving : Daemon := ⟨Macos.replying [Macos.printerReply 0 none], Macos.answering []⟩

/-- An addition with final dots and a removal without, and a probe that succeeds. -/
theorem identity_resolves_example :
    AsksFor printerItem.toRemoved printerItem ∧
    ∃ removed again, (PumpState.browseCallback ⟨0, ∅, [], [], []⟩ (dottedReply 0 "")).sent =
        [.ok (.removed removed)] ∧
      probe (fun _ => "") resolving (.ok ()) removed = .ok again ∧ again.identity = removed := by
  obtain ⟨hlinux, -, -, hmacos⟩ := identity_resolves
  obtain ⟨-, -, removed, hremoved, hasks⟩ := hlinux printerItem "" (by decide)
  cases hremoved
  refine ⟨hasks, ?_⟩
  obtain ⟨r, removed, -, hsent, hall⟩ := hmacos (fun _ => "") ⟨0, ∅, [], [], []⟩
    (dottedReply flagsAdd ".") (dottedReply 0 "") ⟨rfl, rfl⟩ ⟨rfl, rfl⟩
    ⟨by decide +kernel, by decide +kernel, by decide +kernel, by decide +kernel⟩
    (by decide) (by decide)
  obtain ⟨-, hprobe, -⟩ := hall resolving
  have hprinter : (PumpState.browseCallback ⟨0, ∅, [], [], []⟩ (dottedReply 0 "")).sent =
      [.ok (.removed ⟨"Printer", "_ipp._tcp", "local", NonZeroU32.new 2⟩)] := by
    decide +kernel
  cases hprinter.symm.trans hsent
  have hok : (probe (fun _ => "") resolving (.ok ())
      ⟨"Printer", "_ipp._tcp", "local", NonZeroU32.new 2⟩).isOk = true := by
    decide +kernel
  cases hresult : probe (fun _ => "") resolving (.ok ())
      ⟨"Printer", "_ipp._tcp", "local", NonZeroU32.new 2⟩ with
  | ok again => exact ⟨_, again, hsent, hresult, hprobe _ again hresult⟩
  | error err =>
    rw [hresult] at hok
    cases hok

end MdnsSdDiscovery.Backends
