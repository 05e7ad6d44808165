import Mathlib.Data.List.DropRight

/-!
# Names made of labels

The string operations by which dotted names are taken apart and put together,
over any separator `c`: `trimStartMatches`, `trimEndMatches`, `split` and
`join`.  A label is not empty and does not contain the separator; names made of
labels keep their ends under trimming (`trimEndMatches_join`,
`trimStartMatches_join`) and split into the labels they were joined from
(`split_join`, `rsplitOnce_join`).  Any string is joined again from its pieces
(`join_split`), none of which contains the separator.
-/

namespace MdnsSdDiscovery.Labels

variable {c : Char}

/-- `s.trim_end_matches(c)` -/
def trimEndMatches (s : String) (c : Char) : String :=
  String.ofList (s.toList.rdropWhile (· == c))

/-- `s.trim_start_matches(c)` -/
def trimStartMatches (s : String) (c : Char) : String :=
  String.ofList (s.toList.dropWhile (· == c))

/-- `s.ends_with(c)` -/
def endsWith (s : String) (c : Char) : Bool := s.toList.getLast? == some c

/-- `s.split(c).collect()` -/
def split (s : String) (c : Char) : List String := (s.toList.splitOn c).map String.ofList

/-- `s.rsplit_once(c)` -/
def rsplitOnce (s : String) (c : Char) : Option (String × String) :=
  if c ∈ s.toList then
    some (String.ofList (s.toList.rdropWhile (· != c)).dropLast,
      String.ofList (s.toList.rtakeWhile (· != c)))
  else none

/-- `s.strip_suffix(suffix)` -/
def stripSuffix (s suffix : String) : Option String :=
  if suffix.toList <:+ s.toList then
    some (String.ofList (s.toList.take (s.toList.length - suffix.toList.length)))
  else none

/-- `labels.join(c)` -/
def join (c : Char) (labels : List String) : String := (String.singleton c).intercalate labels

/-- The separator `n` times. -/
def separators (c : Char) (n : Nat) : String := String.ofList (List.replicate n c)

/-- A label. -/
def IsLabel (c : Char) (s : String) : Prop := s ≠ "" ∧ c ∉ s.toList

instance (c : Char) (s : String) : Decidable (IsLabel c s) :=
  inferInstanceAs (Decidable (s ≠ "" ∧ c ∉ s.toList))

/-! ## Joining -/

@[simp] theorem toList_separators (c : Char) (n : Nat) :
    (separators c n).toList = List.replicate n c := by
  simp [separators]

theorem join_append {xs ys : List String} (hx : xs ≠ []) (hy : ys ≠ []) :
    join c (xs ++ ys) = join c xs ++ String.singleton c ++ join c ys :=
  String.intercalate_append_of_ne_nil hx hy

theorem join_singleton (c : Char) (l : String) : join c [l] = l := String.intercalate_singleton

theorem join_cons_cons (c : Char) (l m : String) (ls : List String) :
    join c (l :: m :: ls) = l ++ String.singleton c ++ join c (m :: ls) :=
  String.intercalate_cons_cons

theorem join_pair (c : Char) (l m : String) : join c [l, m] = l ++ String.singleton c ++ m := by
  rw [join_cons_cons, join_singleton]

theorem toList_join (c : Char) (labels : List String) :
    (join c labels).toList = [c].intercalate (labels.map String.toList) := by
  simp [join, String.toList_intercalate]

theorem toList_ne_nil {s : String} (h : s ≠ "") : s.toList ≠ [] := by
  intro hnil
  exact h (String.toList_eq_nil_iff.mp hnil)

/-- A joined name begins with a character of a label. -/
theorem join_eq_cons {labels : List String} (hne : labels ≠ []) (h : ∀ l ∈ labels, IsLabel c l) :
    ∃ d rest, (join c labels).toList = d :: rest ∧ d ≠ c := by
  cases labels with
  | nil => exact absurd rfl hne
  | cons l ls =>
    obtain ⟨hl, hc⟩ := h l List.mem_cons_self
    obtain ⟨d, tail, hd⟩ := List.exists_cons_of_ne_nil (toList_ne_nil hl)
    have hdc : d ≠ c := by
      rintro rfl
      exact hc (hd ▸ List.mem_cons_self)
    cases ls with
    | nil => exact ⟨d, tail, by simp [join, hd], hdc⟩
    | cons m ms =>
      refine ⟨d, tail ++ c :: (join c (m :: ms)).toList, ?_, hdc⟩
      simp [join, hd]

/-- A joined name ends with a character of a label. -/
theorem join_eq_concat {labels : List String} (hne : labels ≠ [])
    (h : ∀ l ∈ labels, IsLabel c l) :
    ∃ init d, (join c labels).toList = init ++ [d] ∧ d ≠ c := by
  induction labels with
  | nil => exact absurd rfl hne
  | cons l ls ih =>
    cases ls with
    | nil =>
      obtain ⟨hl, hc⟩ := h l List.mem_cons_self
      refine ⟨l.toList.dropLast, l.toList.getLast (toList_ne_nil hl), ?_, ?_⟩
      · simp [join, List.dropLast_concat_getLast]
      · intro hlast
        exact hc (hlast ▸ List.getLast_mem _)
    | cons m ms =>
      obtain ⟨init, d, hd, hdc⟩ := ih (by simp) fun x hx => h x (List.mem_cons_of_mem _ hx)
      refine ⟨l.toList ++ c :: init, d, ?_, hdc⟩
      simp [join_cons_cons, hd]

/-! ## Trimming and splitting -/

theorem rdropWhile_append_replicate (l : List Char) (n : Nat) :
    (l ++ List.replicate n c).rdropWhile (· == c) = l.rdropWhile (· == c) := by
  induction n with
  | zero => simp
  | succ n ih =>
    rw [List.replicate_succ', ← List.append_assoc, List.rdropWhile_concat_pos _ _ _ (by simp)]
    exact ih

/-- Trimming removes what follows the last label. -/
theorem trimEndMatches_join {labels : List String} (hne : labels ≠ [])
    (h : ∀ l ∈ labels, IsLabel c l) (n : Nat) :
    trimEndMatches (join c labels ++ separators c n) c = join c labels := by
  obtain ⟨init, d, hd, hdc⟩ := join_eq_concat hne h
  apply String.toList_injective
  rw [trimEndMatches, String.toList_append, toList_separators, rdropWhile_append_replicate, hd,
    List.rdropWhile_concat_neg _ _ _ (by simpa using hdc), String.toList_ofList]

/-- Trimming removes what precedes the first label. -/
theorem trimStartMatches_join {labels : List String} (hne : labels ≠ [])
    (h : ∀ l ∈ labels, IsLabel c l) (n : Nat) (s : String) :
    trimStartMatches (separators c n ++ join c labels ++ s) c = join c labels ++ s := by
  obtain ⟨d, rest, hd, hdc⟩ := join_eq_cons hne h
  apply String.toList_injective
  simp only [trimStartMatches, String.toList_append, toList_separators, String.toList_ofList, hd]
  rw [List.append_assoc, List.dropWhile_append_of_pos (by simp)]
  exact List.dropWhile_cons_of_neg (by simpa using hdc)

theorem trimStartMatches_separators (n : Nat) : trimStartMatches (separators c n) c = "" := by
  have hall : (List.replicate n c).dropWhile (· == c) = [] := by simp
  rw [trimStartMatches, toList_separators, hall]

/-- **A joined name splits into its labels.** -/
theorem split_join {labels : List String} (hne : labels ≠ []) (h : ∀ l ∈ labels, IsLabel c l) :
    split (join c labels) c = labels := by
  have hmem : ∀ l ∈ labels.map String.toList, c ∉ l := by
    intro l hl
    obtain ⟨s, hs, rfl⟩ := List.mem_map.mp hl
    exact (h s hs).2
  rw [split, toList_join, List.splitOn_intercalate c hmem (by simpa using hne), List.map_map]
  simp

/-! ## Pieces -/

/-- **Joining undoes splitting**, whatever the pieces. -/
theorem join_split (s : String) (c : Char) : join c (split s c) = s := by
  have hpieces : (split s c).map String.toList = s.toList.splitOn c := by
    rw [split, List.map_map]
    exact List.map_id'' (fun _ => String.toList_ofList) _
  apply String.toList_injective
  rw [toList_join, hpieces, List.intercalate_splitOn]

/-- A piece does not contain the separator. -/
theorem notMem_of_mem_split {s piece : String} (h : piece ∈ split s c) : c ∉ piece.toList := by
  have hlist : ∀ l : List Char, ∀ p ∈ l.splitOn c, c ∉ p := by
    intro l
    induction l with
    | nil =>
      intro p hp
      rw [List.splitOn_nil, List.mem_singleton] at hp
      rw [hp]
      exact List.not_mem_nil
    | cons d l ih =>
      intro p hp
      obtain ⟨first, others, hl⟩ := List.exists_cons_of_ne_nil (List.splitOn_ne_nil c l)
      rw [List.splitOn_cons_eq_if_modifyHead] at hp
      rw [hl] at ih hp
      split at hp
      · rcases List.mem_cons.mp hp with rfl | hp
        · exact List.not_mem_nil
        · exact ih p hp
      · rename_i hd
        rw [List.modifyHead_cons, List.mem_cons] at hp
        rcases hp with rfl | hp
        · refine List.not_mem_cons_of_ne_of_not_mem ?_ (ih first List.mem_cons_self)
          rintro rfl
          exact hd (beq_self_eq_true c)
        · exact ih p (List.mem_cons_of_mem _ hp)
  obtain ⟨p, hp, rfl⟩ := List.mem_map.mp h
  rw [String.toList_ofList]
  exact hlist s.toList p hp

/-- A joined name has one separator less than pieces. -/
theorem count_join {pieces : List String} (h : ∀ p ∈ pieces, c ∉ p.toList) :
    (join c pieces).toList.count c = pieces.length - 1 := by
  induction pieces with
  | nil => rfl
  | cons p pieces ih =>
    have hp := List.count_eq_zero.mpr (h p List.mem_cons_self)
    have ih := ih fun q hq => h q (List.mem_cons_of_mem p hq)
    cases pieces with
    | nil => rw [join_singleton, hp]; rfl
    | cons q pieces =>
      rw [join_cons_cons, String.toList_append, String.toList_append, List.count_append,
        List.count_append, hp, ih]
      simp
      omega

/-! ## Ends -/

theorem endsWith_append (s : String) {t : String} (ht : t ≠ "") :
    endsWith (s ++ t) c = endsWith t c := by
  rw [endsWith, endsWith, String.toList_append,
    List.getLast?_append_of_ne_nil _ (toList_ne_nil ht)]

theorem endsWith_separators (n : Nat) : endsWith (separators c (n + 1)) c = true := by
  rw [endsWith, toList_separators, List.replicate_succ', List.getLast?_concat]
  exact beq_self_eq_true _

/-- Trimming changes a string exactly if it ends with the separator. -/
theorem trimEndMatches_eq_self_iff {s : String} :
    trimEndMatches s c = s ↔ endsWith s c = false := by
  have hlist : trimEndMatches s c = s ↔ s.toList.rdropWhile (· == c) = s.toList := by
    rw [trimEndMatches, ← String.toList_inj, String.toList_ofList]
  rw [hlist, List.rdropWhile_eq_self_iff, endsWith, beq_eq_false_iff_ne]
  constructor
  · intro h hlast
    have hne : s.toList ≠ [] := by
      intro hnil
      rw [hnil] at hlast
      cases hlast
    exact h hne (beq_iff_eq.mpr ((List.getLast_eq_iff_getLast?_eq_some hne).mpr hlast))
  · intro h hne hlast
    exact h ((List.getLast_eq_iff_getLast?_eq_some hne).mp (beq_iff_eq.mp hlast))

theorem trimEndMatches_idem (s : String) :
    trimEndMatches (trimEndMatches s c) c = trimEndMatches s c := by
  rw [trimEndMatches, trimEndMatches, String.toList_ofList, List.rdropWhile_idempotent]

theorem endsWith_trimEndMatches (s : String) : endsWith (trimEndMatches s c) c = false :=
  trimEndMatches_eq_self_iff.mp (trimEndMatches_idem s)

/-- Trimming removes nothing but separators. -/
theorem mem_trimEndMatches {s : String} {d : Char} (hd : d ≠ c) (h : d ∈ s.toList) :
    d ∈ (trimEndMatches s c).toList := by
  have hsplit : s.toList.rdropWhile (· == c) ++ s.toList.rtakeWhile (· == c) = s.toList :=
    List.rdropWhile_append_rtakeWhile
  rw [trimEndMatches, String.toList_ofList]
  rw [← hsplit, List.mem_append] at h
  rcases h with hkept | hcut
  · exact hkept
  · exact absurd (beq_iff_eq.mp (List.mem_rtakeWhile_imp (p := (· == c)) hcut)) hd

/-- Trimming removes exactly `t` when `t` is made of separators and the rest
does not end with one. -/
theorem trimEndMatches_append_eq_left_iff {s t : String} :
    trimEndMatches (s ++ t) c = s ↔ (∀ d ∈ t.toList, d = c) ∧ endsWith s c = false := by
  constructor
  · intro h
    refine ⟨?_, h ▸ endsWith_trimEndMatches (s ++ t)⟩
    have hsplit : (s ++ t).toList.rdropWhile (· == c) ++ (s ++ t).toList.rtakeWhile (· == c) =
        (s ++ t).toList := List.rdropWhile_append_rtakeWhile
    have hkept : (s ++ t).toList.rdropWhile (· == c) = s.toList := by
      rw [← String.toList_ofList (l := (s ++ t).toList.rdropWhile (· == c))]
      exact congrArg String.toList h
    rw [hkept, String.toList_append, List.append_cancel_left_eq] at hsplit
    intro d hd
    rw [← hsplit] at hd
    exact beq_iff_eq.mp (List.mem_rtakeWhile_imp (p := (· == c)) hd)
  · rintro ⟨hall, hs⟩
    have hdots : t.toList = List.replicate t.toList.length c :=
      List.eq_replicate_iff.mpr ⟨rfl, hall⟩
    rw [trimEndMatches, String.toList_append, hdots, rdropWhile_append_replicate]
    exact trimEndMatches_eq_self_iff.mpr hs

/-- **Stripping a suffix undoes appending it.** -/
theorem stripSuffix_append (s t : String) : stripSuffix (s ++ t) t = some s := by
  rw [stripSuffix, String.toList_append, if_pos (List.suffix_append _ _), List.length_append,
    Nat.add_sub_cancel, List.take_left, String.ofList_toList]

/-- A suffix that ends with the separator is not one of a string that does not. -/
theorem stripSuffix_eq_none {s t : String} (hs : endsWith s c = false) (ht : endsWith t c = true) :
    stripSuffix s t = none := by
  rw [stripSuffix, if_neg]
  rintro ⟨front, hfront⟩
  have hne : t ≠ "" := by
    rintro rfl
    cases ht
  have hcat : s = String.ofList front ++ t := by
    apply String.toList_injective
    rw [String.toList_append, String.toList_ofList, hfront]
  rw [hcat, endsWith_append _ hne, ht] at hs
  cases hs

/-! ## The last separator -/

/-- A string splits at a separator behind which there is none. -/
theorem rsplitOnce_append (s : String) {t : String} (ht : c ∉ t.toList) :
    rsplitOnce (s ++ String.singleton c ++ t) c = some (s, t) := by
  have hall : ∀ d ∈ t.toList, (d != c) = true := by
    intro d hd
    rw [bne_iff_ne]
    rintro rfl
    exact ht hd
  have hlist : (s ++ String.singleton c ++ t).toList = s.toList ++ [c] ++ t.toList := by simp
  have hmem : c ∈ s.toList ++ [c] ++ t.toList := by simp
  have htake : (s.toList ++ [c] ++ t.toList).rtakeWhile (· != c) = t.toList := by
    rw [List.rtakeWhile, List.reverse_append, List.takeWhile_append_of_pos (by simpa using hall)]
    simp
  have hdrop : (s.toList ++ [c] ++ t.toList).rdropWhile (· != c) = s.toList ++ [c] := by
    rw [List.rdropWhile, List.reverse_append, List.dropWhile_append_of_pos (by simpa using hall)]
    simp
  rw [rsplitOnce, hlist, if_pos hmem, htake, hdrop]
  simp

/-- A string splits at its last separator. -/
theorem rsplitOnce_of_mem {s : String} (h : c ∈ s.toList) :
    ∃ front back, s = front ++ String.singleton c ++ back ∧ c ∉ back.toList ∧
      rsplitOnce s c = some (front, back) := by
  obtain ⟨back, front, hrev, hback⟩ := List.eq_append_cons_of_mem (List.mem_reverse.mpr h)
  have hs :
      s = String.ofList front.reverse ++ String.singleton c ++ String.ofList back.reverse := by
    apply String.toList_injective
    rw [← List.reverse_reverse s.toList, hrev]
    simp
  have hnot : c ∉ (String.ofList back.reverse).toList := by
    rwa [String.toList_ofList, List.mem_reverse]
  refine ⟨_, _, hs, hnot, ?_⟩
  conv => lhs; rw [hs]
  exact rsplitOnce_append _ hnot

/-- A joined name splits at its last label. -/
theorem rsplitOnce_join {labels : List String} (hne : labels ≠ []) {l : String}
    (hl : IsLabel c l) : rsplitOnce (join c (labels ++ [l])) c = some (join c labels, l) := by
  rw [join_append hne (List.cons_ne_nil l []), join_singleton]
  exact rsplitOnce_append (join c labels) hl.2

end MdnsSdDiscovery.Labels
