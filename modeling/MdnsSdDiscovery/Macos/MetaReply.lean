import MdnsSdDiscovery.Lib.Labels

/-!
# Service types from meta-query replies (`meta_reply_to_type_and_domain`)

The daemon splits the name of a service type as if it were the name of an
instance, so its domain arrives in `regtype`, in `reply_domain`, or in both.
The function joins the three parts and splits them where a service type ends:

* `metaReplyToTypeAndDomain_labels`: the result depends on the labels of the
  name only;
* `metaReply_lossless`: whatever the daemon reports, the result spells the same
  name and its domain is not the root.
-/

namespace MdnsSdDiscovery.Macos

open Labels

/-- `meta_reply_to_type_and_domain` -/
def metaReplyToTypeAndDomain (name regtype replyDomain : String) : String × String :=
  let full := name ++ "." ++ regtype
  let suffix := trimStartMatches replyDomain '.'
  let full :=
    if suffix = "" then full
    else (if endsWith full '.' then full else full ++ ".") ++ suffix
  let labels := split (trimEndMatches full '.') '.'
  let serviceType := join '.' (labels.take 2)
  let domain := if 2 ≤ labels.length then join '.' (labels.drop 2) else ""
  (serviceType, domain)

/-- One dot or none at the end of a `regtype`. -/
def finalDot (dot : Bool) : String := if dot then "." else ""

theorem finalDot_eq (dot : Bool) : finalDot dot = separators '.' (if dot then 1 else 0) := by
  cases dot <;> rfl

/-- The name is joined again with one dot before a suffix. -/
theorem endsWith_join {labels : List String} (hne : labels ≠ [])
    (h : ∀ l ∈ labels, IsLabel '.' l) (dot : Bool) :
    (if endsWith (join '.' labels ++ finalDot dot) '.' then join '.' labels ++ finalDot dot
      else join '.' labels ++ finalDot dot ++ ".") = join '.' labels ++ "." := by
  cases dot with
  | true => simp [endsWith, finalDot]
  | false =>
    obtain ⟨init, d, hd, hdc⟩ := join_eq_concat hne h
    simp [endsWith, finalDot, hd, hdc]

/-- Whatever the split of the labels, the dots are trimmed from the same name. -/
theorem trimEndMatches_full (front rest : List String) (hfront : front ≠ [])
    (h : ∀ l ∈ front ++ rest, IsLabel '.' l) (dot : Bool) (lead trail : Nat) :
    let full := join '.' front ++ finalDot dot
    let suffix := trimStartMatches
      (separators '.' lead ++ join '.' rest ++ separators '.' trail) '.'
    trimEndMatches (if suffix = "" then full
      else (if endsWith full '.' then full else full ++ ".") ++ suffix) '.' =
      join '.' (front ++ rest) := by
  have hf : ∀ l ∈ front, IsLabel '.' l := fun l hl => h l (List.mem_append_left _ hl)
  have hr : ∀ l ∈ rest, IsLabel '.' l := fun l hl => h l (List.mem_append_right _ hl)
  by_cases hrest : rest = []
  · subst hrest
    have hdots : separators '.' lead ++ join '.' [] ++ separators '.' trail =
        separators '.' (lead + trail) := by
      apply String.toList_injective
      simp [join]
    simp only [hdots, trimStartMatches_separators, if_true, List.append_nil]
    rw [finalDot_eq]
    exact trimEndMatches_join hfront hf _
  · obtain ⟨d, tail, hd, -⟩ := join_eq_cons hrest hr
    have hsuffix : join '.' rest ++ separators '.' trail ≠ "" := by
      intro hnil
      have := congrArg String.toList hnil
      simp [hd] at this
    simp only [trimStartMatches_join hrest hr, if_neg hsuffix, endsWith_join hfront hf]
    have hjoin : join '.' front ++ "." ++ (join '.' rest ++ separators '.' trail) =
        join '.' (front ++ rest) ++ separators '.' trail := by
      rw [join_append hfront hrest, ← String.append_assoc]
      rfl
    rw [hjoin]
    exact trimEndMatches_join (by simp [hfront]) h _

/-- **The type and the domain depend on the labels of the name only**: not on
where the daemon split them, nor on the dots around the parts. -/
theorem metaReplyToTypeAndDomain_labels {first second : String} {labels : List String}
    (h : ∀ l ∈ first :: second :: labels, IsLabel '.' l) (k : Nat) (dot : Bool)
    (lead trail : Nat) :
    metaReplyToTypeAndDomain first (join '.' (second :: labels.take k) ++ finalDot dot)
      (separators '.' lead ++ join '.' (labels.drop k) ++ separators '.' trail) =
    (first ++ "." ++ second, join '.' labels) := by
  have hsplit : (first :: second :: labels.take k) ++ labels.drop k = first :: second :: labels :=
    congrArg (first :: second :: ·) (List.take_append_drop k labels)
  have hname : first ++ "." ++ (join '.' (second :: labels.take k) ++ finalDot dot) =
      join '.' (first :: second :: labels.take k) ++ finalDot dot := by
    rw [← String.append_assoc]
    congr 1
    exact (join_cons_cons '.' first second _).symm
  have hfull := trimEndMatches_full (first :: second :: labels.take k) (labels.drop k) (by simp)
    (hsplit ▸ h) dot lead trail
  simp only [metaReplyToTypeAndDomain, hname, hfull, hsplit, split_join (by simp) h]
  have htwo : join '.' [first, second] = first ++ "." ++ second := join_pair '.' first second
  simp [htwo]

/-! ## Any reply -/

/-- The name that a reply spells: its three parts put together, without final dots. -/
def metaFullName (name regtype replyDomain : String) : String :=
  let full := name ++ "." ++ regtype
  let suffix := trimStartMatches replyDomain '.'
  if suffix = "" then trimEndMatches full '.'
  else if endsWith full '.' then trimEndMatches (full ++ suffix) '.'
  else trimEndMatches (full ++ "." ++ suffix) '.'

theorem endsWith_metaFullName (name regtype replyDomain : String) :
    endsWith (metaFullName name regtype replyDomain) '.' = false := by
  unfold metaFullName
  dsimp only
  split_ifs <;> exact endsWith_trimEndMatches _

/-- The type is the first two pieces of the name, the domain the others. -/
theorem metaReplyToTypeAndDomain_pieces (name regtype replyDomain : String) :
    let pieces := split (metaFullName name regtype replyDomain) '.'
    metaReplyToTypeAndDomain name regtype replyDomain =
      (join '.' (pieces.take 2), join '.' (pieces.drop 2)) := by
  have hdomain : ∀ pieces : List String,
      (if 2 ≤ pieces.length then join '.' (pieces.drop 2) else "") = join '.' (pieces.drop 2) := by
    intro pieces
    split_ifs with h
    · rfl
    · rw [List.drop_eq_nil_of_le (by omega)]
      rfl
  unfold metaReplyToTypeAndDomain metaFullName
  dsimp only
  rw [hdomain]
  split_ifs <;> rfl

/-- A name of more than two pieces is the first two and the others. -/
theorem eq_join_take_drop {full : String} (h : 2 < (split full '.').length) :
    full = join '.' ((split full '.').take 2) ++ "." ++ join '.' ((split full '.').drop 2) := by
  have htake : (split full '.').take 2 ≠ [] := by
    intro hnil
    have := congrArg List.length hnil
    rw [List.length_take, List.length_nil] at this
    omega
  have hdrop : (split full '.').drop 2 ≠ [] := by
    intro hnil
    have := congrArg List.length hnil
    rw [List.length_drop, List.length_nil] at this
    omega
  calc full = join '.' ((split full '.').take 2 ++ (split full '.').drop 2) := by
        rw [List.take_append_drop, join_split]
    _ = _ := join_append htake hdrop

/-- There are others exactly if the name has more than two pieces. -/
theorem join_drop_eq_empty_iff {full : String} (hend : endsWith full '.' = false) :
    join '.' ((split full '.').drop 2) = "" ↔ (split full '.').length ≤ 2 := by
  constructor
  · intro hnil
    by_contra hlen
    have hfull := eq_join_take_drop (Nat.lt_of_not_le hlen)
    rw [hnil, String.append_empty] at hfull
    rw [hfull, endsWith_append _ (by decide)] at hend
    revert hend
    decide
  · intro hlen
    rw [List.drop_eq_nil_of_le hlen]
    rfl

/-- The others do not end with a dot if the name does not. -/
theorem endsWith_join_drop {full : String} (hend : endsWith full '.' = false) :
    endsWith (join '.' ((split full '.').drop 2)) '.' = false := by
  by_cases hnil : join '.' ((split full '.').drop 2) = ""
  · rw [hnil]
    rfl
  · have hlen := Nat.lt_of_not_le (mt (join_drop_eq_empty_iff hend).mpr hnil)
    have hfull := eq_join_take_drop hlen
    rw [hfull, endsWith_append _ hnil] at hend
    exact hend

/-- The name is a type of at most two pieces and the domain behind it, which is
not the root. -/
structure Splits (full serviceType domain : String) : Prop where
  type_dots : serviceType.toList.count '.' ≤ 1
  domain_end : endsWith domain '.' = false
  domain_root : ∀ n, domain ≠ separators '.' (n + 1)
  domain_empty : domain = "" ↔ (split full '.').length ≤ 2
  full_eq : full = if domain = "" then serviceType else serviceType ++ "." ++ domain

/-- **A reply is split without a loss and never into the root domain.** -/
theorem metaReply_lossless (name regtype replyDomain : String) :
    Splits (metaFullName name regtype replyDomain)
      (metaReplyToTypeAndDomain name regtype replyDomain).1
      (metaReplyToTypeAndDomain name regtype replyDomain).2 := by
  have hend := endsWith_metaFullName name regtype replyDomain
  rw [metaReplyToTypeAndDomain_pieces]
  dsimp only
  generalize metaFullName name regtype replyDomain = full at hend ⊢
  have hdomain := endsWith_join_drop hend
  refine ⟨?_, hdomain, ?_, join_drop_eq_empty_iff hend, ?_⟩
  · rw [count_join fun p hp => notMem_of_mem_split (List.mem_of_mem_take hp), List.length_take]
    omega
  · intro n hroot
    rw [hroot, endsWith_separators] at hdomain
    cases hdomain
  · by_cases hlen : (split full '.').length ≤ 2
    · rw [if_pos ((join_drop_eq_empty_iff hend).mpr hlen), List.take_of_length_le hlen, join_split]
    · rw [if_neg (mt (join_drop_eq_empty_iff hend).mp hlen)]
      exact eq_join_take_drop (Nat.lt_of_not_le hlen)

end MdnsSdDiscovery.Macos
