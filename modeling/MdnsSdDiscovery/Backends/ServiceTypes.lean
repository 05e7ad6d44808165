import MdnsSdDiscovery.Macos.MetaReply
import MdnsSdDiscovery.Windows.Browse

/-!
# Service types on macOS and Windows

Both back-ends recover a service type and its domain from the name of a type:
macOS splits behind the second label, Windows before the last one.  The two
agree on the domains of one label only (`windowsPair_eq_macosPair_iff`).
-/

namespace MdnsSdDiscovery.Backends

open Labels Windows
open Macos (metaReplyToTypeAndDomain metaReplyToTypeAndDomain_labels)

/-- The pair that `handle_ptr` hands to `start_browse` for a target it has not
seen. -/
def windowsPair (ctx : BrowseContext) (target : String) : Option (String × String) :=
  match (handlePtr ctx target).2 with
  | .browse request => some (request.serviceType, request.domain)
  | _ => none

/-- The pair that macOS makes of a name, as mDNSResponder reports it: the first
label as the instance, the next two as the type, the others as the domain. -/
def macosPair (first second third : String) (labels : List String) : String × String :=
  metaReplyToTypeAndDomain first (second ++ "." ++ third ++ ".") (join '.' labels ++ ".")

/-- macOS splits behind the second label at every depth. -/
theorem macosPair_eq {first second third : String} {labels : List String}
    (h : ∀ l ∈ first :: second :: third :: labels, IsLabel '.' l) :
    macosPair first second third labels =
      (first ++ "." ++ second, join '.' (third :: labels)) := by
  have hsplit := metaReplyToTypeAndDomain_labels h 1 true 0 1
  have htwo : join '.' [second, third] = second ++ "." ++ third := join_pair '.' second third
  have hnone : separators '.' 0 ++ join '.' labels = join '.' labels := by
    apply String.toList_injective
    simp
  simp only [List.take_succ_cons, List.take_zero, List.drop_succ_cons, List.drop_zero, htwo,
    hnone] at hsplit
  exact hsplit

/-- Windows splits before the last label. -/
theorem windowsPair_eq {ctx : BrowseContext} (hmeta : ctx.isMeta = true) (labels : List String)
    (hne : labels ≠ []) {last : String} (hlast : IsLabel '.' last)
    (hseen : join '.' (labels ++ [last]) ∉ ctx.seen) :
    windowsPair ctx (join '.' (labels ++ [last])) = some (join '.' labels, last) := by
  simp [windowsPair, handlePtr, hseen, hmeta, rsplitOnce_join hne hlast]

/-- **macOS and Windows recover the same type and domain exactly from names whose
domain is one label.** -/
theorem windowsPair_eq_macosPair_iff {first second third : String} {labels : List String}
    (h : ∀ l ∈ first :: second :: third :: labels, IsLabel '.' l) (dots : Nat)
    {ctx : BrowseContext} (hmeta : ctx.isMeta = true)
    (hseen : join '.' (first :: second :: third :: labels) ∉ ctx.seen) :
    let target := trimDot (join '.' (first :: second :: third :: labels) ++ separators '.' dots)
    (windowsPair ctx target = some (macosPair first second third labels) ∧
      macosPair first second third labels =
        (first ++ "." ++ second, join '.' (third :: labels))) ↔ labels = [] := by
  have htrim : trimDot (join '.' (first :: second :: third :: labels) ++ separators '.' dots) =
      join '.' (first :: second :: third :: labels) := trimEndMatches_join (by simp) h dots
  simp only [htrim, macosPair_eq h, and_true]
  rcases List.eq_nil_or_concat' labels with rfl | ⟨front, last, rfl⟩
  · have hpair := windowsPair_eq hmeta [first, second] (by simp) (h third (by simp)) hseen
    have htwo : join '.' [first, second] = first ++ "." ++ second := join_pair '.' first second
    rw [htwo] at hpair
    rw [join_singleton]
    exact iff_of_true hpair rfl
  · -- the domain has a dot, and the last label has none
    have hlast : IsLabel '.' last := h last (by simp)
    have hpair := windowsPair_eq hmeta (first :: second :: third :: front) (by simp) hlast hseen
    have hdomain : join '.' (third :: (front ++ [last])) ≠ last := by
      intro heq
      refine hlast.2 (heq ▸ ?_)
      rw [← List.cons_append, join_append (List.cons_ne_nil _ _) (List.cons_ne_nil _ _)]
      simp
    refine iff_of_false ?_ (by simp)
    intro heq
    exact hdomain (congrArg Prod.snd (Option.some.inj (hpair.symm.trans heq))).symm

/-- A context of a browse for all types. -/
def freshMeta : BrowseContext where
  isMeta := true
  interface := 0
  serviceType := Windows.metaQueryType
  domain := defaultDomain

/-- **A domain of two labels**: Windows moves its first label to the type. -/
theorem windowsPair_ne_macosPair :
    (∀ l ∈ ["_http", "_tcp", "example", "com"], IsLabel '.' l) ∧
    windowsPair freshMeta (trimDot "_http._tcp.example.com.") =
      some ("_http._tcp.example", "com") ∧
    macosPair "_http" "_tcp" "example" ["com"] = ("_http._tcp", "example.com") ∧
    windowsPair freshMeta (trimDot "_http._tcp.example.com.") ≠
      some (macosPair "_http" "_tcp" "example" ["com"]) := by
  decide +kernel

theorem windowsPair_eq_macosPair_iff_example :
    windowsPair freshMeta (trimDot (join '.' ["_http", "_tcp", "local"] ++ separators '.' 1)) =
      some (macosPair "_http" "_tcp" "local" []) := by
  have hlabels : ∀ l ∈ ["_http", "_tcp", "local"], IsLabel '.' l := by decide
  exact ((windowsPair_eq_macosPair_iff hlabels 1 rfl (by decide)).mpr rfl).1

end MdnsSdDiscovery.Backends
