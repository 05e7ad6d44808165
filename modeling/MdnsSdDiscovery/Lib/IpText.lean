import Mathlib.Data.List.TakeWhile
import MdnsSdDiscovery.Lib.IpAddr

/-!
# The texts of IP addresses

The grammar of the texts that `IpAddr::from_str` accepts, and that it accepts no
other: four decimal octets, or eight groups of up to four hexadecimal digits, of which
an IPv4 address may stand for the last two and `::` for one or more zeros.

* `Numeral`, `Ipv4Text`, `GroupsText`, `Ipv6Text`: the grammar;
* `readNumber_iff`, `readIpv4Addr_iff`: what is read is the longest numeral;
* `readGroups_complete`, `readGroups_sound`: groups are read up to `::` or the end;
* `fromStr_iff`: the parser and the grammar agree.
-/

namespace MdnsSdDiscovery.IpAddr

/-! ## Numbers -/

/-- The value of digits, most significant first. -/
def digitsValue (radix : Nat) (ds : List Char) : Nat :=
  ds.foldl (fun n c => n * radix + (toDigit radix c).getD 0) 0

/-- A number below the limit, as it may be written. -/
structure Numeral (radix maxDigits limit : Nat) (allowZeroPrefix : Bool) (ds : List Char)
    (n : Nat) : Prop where
  nonempty : ds ≠ []
  digits : ∀ c ∈ ds, (toDigit radix c).isSome = true
  short : ds.length ≤ maxDigits
  zeros : allowZeroPrefix = false → ds.head? = some '0' → ds.length = 1
  value : digitsValue radix ds = n
  small : n < limit

/-- The digits end here. -/
def NoDigit (radix : Nat) (rest : List Char) : Prop :=
  ∀ c ∈ rest.head?, toDigit radix c = none

section
variable {radix maxDigits limit n : Nat} {allowZeroPrefix : Bool} {s ds rest : List Char}

theorem takeWhile_of_noDigit (hds : ∀ c ∈ ds, (toDigit radix c).isSome = true)
    (hrest : NoDigit radix rest) :
    (ds ++ rest).takeWhile (fun c => (toDigit radix c).isSome) = ds := by
  rw [List.takeWhile_append_of_pos hds]
  cases rest with
  | nil => exact List.append_nil ds
  | cons c rest =>
    have hc : toDigit radix c = none := hrest c rfl
    rw [List.takeWhile_cons_of_neg (by simp [hc]), List.append_nil]

/-- A text is its leading digits and the rest, where they end. -/
theorem exists_digits (radix : Nat) (s : List Char) :
    ∃ ds rest, s = ds ++ rest ∧ (∀ c ∈ ds, (toDigit radix c).isSome = true) ∧
      NoDigit radix rest := by
  refine ⟨s.takeWhile fun c => (toDigit radix c).isSome,
    s.dropWhile fun c => (toDigit radix c).isSome, List.takeWhile_append_dropWhile.symm,
    fun c hc => List.mem_takeWhile_imp (p := fun c => (toDigit radix c).isSome) hc, ?_⟩
  intro c hc
  have hnot := List.head?_dropWhile_not (fun c => (toDigit radix c).isSome) s
  rw [Option.mem_def.mp hc] at hnot
  simpa using hnot

theorem readNumber_append (hds : ∀ c ∈ ds, (toDigit radix c).isSome = true)
    (hrest : NoDigit radix rest) :
    readNumber radix maxDigits limit allowZeroPrefix (ds ++ rest) =
      if ds.length = 0 ∨ maxDigits < ds.length then none
      else if !allowZeroPrefix ∧ ds.head? = some '0' ∧ 1 < ds.length then none
      else if digitsValue radix ds < limit then some (digitsValue radix ds, rest) else none := by
  have hdrop : (ds ++ rest).drop ds.length = rest := List.drop_left
  rw [readNumber, takeWhile_of_noDigit hds hrest, hdrop]
  rfl

/-- **The longest numeral is read.** -/
theorem readNumber_iff :
    readNumber radix maxDigits limit allowZeroPrefix s = some (n, rest) ↔
      ∃ ds, s = ds ++ rest ∧ Numeral radix maxDigits limit allowZeroPrefix ds n ∧
        NoDigit radix rest := by
  constructor
  · intro h
    obtain ⟨ds, tail, rfl, hds, htail⟩ := exists_digits radix s
    rw [readNumber_append hds htail] at h
    split at h
    · cases h
    next hlength =>
      split at h
      · cases h
      next hzeros =>
        split at h <;> cases h
        next hsmall =>
          rw [not_or] at hlength
          refine ⟨ds, rfl, ⟨?_, hds, by omega, ?_, rfl, hsmall⟩, htail⟩
          · rintro rfl
            exact hlength.1 rfl
          · intro hallow hhead
            by_contra hlong
            refine hzeros ⟨by simp [hallow], hhead, ?_⟩
            omega
  · rintro ⟨ds, rfl, hnumeral, hrest⟩
    rw [readNumber_append hnumeral.digits hrest, if_neg, if_neg,
      if_pos (hnumeral.value ▸ hnumeral.small), hnumeral.value]
    · rintro ⟨hallow, hhead, hlong⟩
      have hone := hnumeral.zeros (by simpa using hallow) hhead
      omega
    · have hnonempty := List.length_pos_iff.mpr hnumeral.nonempty
      have hshort := hnumeral.short
      omega

end

/-! ## IPv4 -/

/-- Four octets with dots between them. -/
inductive Ipv4Text : Vector UInt8 4 → List Char → Prop
  | octets {a b c d : List Char} {w x y z : Nat} (ha : Numeral 10 3 256 false a w)
      (hb : Numeral 10 3 256 false b x) (hc : Numeral 10 3 256 false c y)
      (hd : Numeral 10 3 256 false d z) :
      Ipv4Text #v[.ofNat w, .ofNat x, .ofNat y, .ofNat z]
        (a ++ '.' :: (b ++ '.' :: (c ++ '.' :: d)))

section
variable {α : Type} {sep : Char} {inner : List Char → Option (α × List Char)} {s rest : List Char}
  {octets : Vector UInt8 4}

theorem readSeparator_zero (sep : Char) (inner : List Char → Option (α × List Char))
    (s : List Char) : readSeparator sep 0 inner s = inner s := rfl

theorem readSeparator_iff {r : α × List Char} {index : Nat} (hindex : index ≠ 0) :
    readSeparator sep index inner s = some r ↔ ∃ t, s = sep :: t ∧ inner t = some r := by
  rw [readSeparator.eq_def, if_neg hindex]
  cases s with
  | nil => simp
  | cons c s =>
    by_cases hc : c = sep
    · subst hc
      simp
    · simp [hc]

/-- A dot ends the digits. -/
theorem noDigit_dot (radix : Nat) (rest : List Char) : NoDigit radix ('.' :: rest) := by
  rintro c ⟨⟩
  rfl

theorem noDigit_colon (radix : Nat) (rest : List Char) : NoDigit radix (':' :: rest) := by
  rintro c ⟨⟩
  rfl

theorem readIpv4Addr_iff :
    readIpv4Addr s = some (octets, rest) ↔
      ∃ text, s = text ++ rest ∧ Ipv4Text octets text ∧ NoDigit 10 rest := by
  have hread : readIpv4Addr s = some (octets, rest) ↔
      ∃ w s₁, readNumber 10 3 256 false s = some (w, s₁) ∧
      ∃ x s₂, (∃ t, s₁ = '.' :: t ∧ readNumber 10 3 256 false t = some (x, s₂)) ∧
      ∃ y s₃, (∃ t, s₂ = '.' :: t ∧ readNumber 10 3 256 false t = some (y, s₃)) ∧
      ∃ z s₄, (∃ t, s₃ = '.' :: t ∧ readNumber 10 3 256 false t = some (z, s₄)) ∧
      #v[.ofNat w, .ofNat x, .ofNat y, .ofNat z] = octets ∧ s₄ = rest := by
    have hone : (1 : Nat) ≠ 0 := by decide
    have htwo : (2 : Nat) ≠ 0 := by decide
    have hthree : (3 : Nat) ≠ 0 := by decide
    unfold readIpv4Addr
    simp only [Option.bind_eq_bind, Option.bind_eq_some_iff, Prod.exists, readSeparator_zero,
      readSeparator_iff hone, readSeparator_iff htwo, readSeparator_iff hthree, Option.pure_def,
      Option.some.injEq, Prod.mk.injEq]
  rw [hread]
  constructor
  · rintro ⟨w, s₁, hw, x, s₂, ⟨t₁, rfl, hx⟩, y, s₃, ⟨t₂, rfl, hy⟩, z, s₄, ⟨t₃, rfl, hz⟩, rfl, rfl⟩
    obtain ⟨a, rfl, ha, -⟩ := readNumber_iff.mp hw
    obtain ⟨b, rfl, hb, -⟩ := readNumber_iff.mp hx
    obtain ⟨c, rfl, hc, -⟩ := readNumber_iff.mp hy
    obtain ⟨d, rfl, hd, hrest⟩ := readNumber_iff.mp hz
    exact ⟨_, by simp, .octets ha hb hc hd, hrest⟩
  · rintro ⟨text, rfl, htext, hrest⟩
    obtain ⟨ha, hb, hc, hd⟩ := htext
    refine ⟨_, _, readNumber_iff.mpr ⟨_, List.append_assoc .., ha, noDigit_dot _ _⟩, ?_⟩
    refine ⟨_, _, ⟨_, rfl, readNumber_iff.mpr ⟨_, List.append_assoc .., hb, noDigit_dot _ _⟩⟩, ?_⟩
    refine ⟨_, _, ⟨_, rfl, readNumber_iff.mpr ⟨_, List.append_assoc .., hc, noDigit_dot _ _⟩⟩, ?_⟩
    exact ⟨_, _, ⟨_, rfl, readNumber_iff.mpr ⟨_, rfl, hd, hrest⟩⟩, rfl, rfl⟩

end

/-! ## Groups -/

/-- Groups with colons between them; `ipv4` if the last two are written as an IPv4
address. -/
inductive GroupsText : List UInt16 → Bool → List Char → Prop
  | group {ds : List Char} {n : Nat} (h : Numeral 16 4 65536 true ds n) :
      GroupsText [.ofNat n] false ds
  | ipv4 {octets : Vector UInt8 4} {text : List Char} (h : Ipv4Text octets text) :
      GroupsText (ipv4Groups octets) true text
  | cons {ds text : List Char} {n : Nat} {gs : List UInt16} {ipv4 : Bool}
      (h : Numeral 16 4 65536 true ds n) (hrest : GroupsText gs ipv4 text) :
      GroupsText (.ofNat n :: gs) ipv4 (ds ++ ':' :: text)

/-- The groups end here: at the end, or at `::`. -/
def Stops (rest : List Char) : Prop := rest = [] ∨ ∃ more, rest = ':' :: ':' :: more

/-- What stands before group `i`. -/
def separator (i : Nat) : List Char := if i = 0 then [] else [':']

section
variable {s text rest ds : List Char} {gs : List UInt16} {ipv4 : Bool}

theorem Stops.noDigit (h : Stops rest) (radix : Nat) : NoDigit radix rest := by
  rcases h with rfl | ⟨more, rfl⟩
  · rintro c ⟨⟩
  · exact noDigit_colon radix _

theorem readSeparator_separator {α : Type} {i : Nat} {inner : List Char → Option (α × List Char)}
    {r : α × List Char} :
    readSeparator ':' i inner s = some r ↔ ∃ t, s = separator i ++ t ∧ inner t = some r := by
  by_cases hi : i = 0
  · subst hi
    rw [readSeparator_zero]
    exact ⟨fun h => ⟨s, rfl, h⟩, by rintro ⟨t, rfl, h⟩; exact h⟩
  · rw [readSeparator_iff hi, separator, if_neg hi]
    rfl

/-- A hexadecimal digit is no dot. -/
theorem dot_notMem (hds : ∀ c ∈ ds, (toDigit 16 c).isSome = true) : '.' ∉ ds := by
  intro hmem
  cases hds '.' hmem

theorem colon_notMem (hds : ∀ c ∈ ds, (toDigit 10 c).isSome = true) : ':' ∉ ds := by
  intro hmem
  cases hds ':' hmem

/-- A text without a dot before its first colon does not begin with an IPv4 address. -/
theorem readIpv4Addr_eq_none (hds : '.' ∉ ds)
    (hrest : rest = [] ∨ ∃ more, rest = ':' :: more) : readIpv4Addr (ds ++ rest) = none := by
  rw [Option.eq_none_iff_forall_not_mem]
  rintro ⟨octets, more⟩ hread
  obtain ⟨text, htext, hipv4, -⟩ := readIpv4Addr_iff.mp hread
  obtain ⟨ha, -, -, -⟩ := hipv4
  have hno : ':' ∉ _ := colon_notMem ha.digits
  rw [List.append_assoc, List.cons_append] at htext
  rcases List.append_eq_append_iff.mp htext with ⟨as, has, hbs⟩ | ⟨as, has, hbs⟩
  · rcases hrest with rfl | ⟨tail, rfl⟩
    · simp at hbs
    · cases as with
      | nil => simp at hbs
      | cons c as =>
        obtain rfl : ':' = c := by simpa using (List.cons.inj hbs).1
        exact hno (by simp [has])
  · cases as with
    | nil =>
      rcases hrest with rfl | ⟨tail, rfl⟩ <;> simp at hbs
    | cons c as =>
      obtain rfl : '.' = c := by simpa using (List.cons.inj hbs).1
      exact hds (by simp [has])

theorem readIpv4Addr_stops (hrest : rest = [] ∨ ∃ more, rest = ':' :: more) :
    readIpv4Addr rest = none := by
  have hempty : '.' ∉ ([] : List Char) := List.not_mem_nil
  exact readIpv4Addr_eq_none hempty hrest

theorem readSeparator_eq_none {α : Type} {i : Nat} {inner : List Char → Option (α × List Char)}
    (h : ∀ t, s = separator i ++ t → inner t = none) : readSeparator ':' i inner s = none := by
  rw [Option.eq_none_iff_forall_not_mem]
  intro r hr
  obtain ⟨t, ht, hinner⟩ := readSeparator_separator.mp hr
  rw [h t ht] at hinner
  cases hinner

theorem readNumber_stops {radix maxDigits limit : Nat} {allowZeroPrefix : Bool}
    (hrest : NoDigit radix rest) :
    readNumber radix maxDigits limit allowZeroPrefix rest = none := by
  rw [← List.nil_append rest, readNumber_append (by simp) hrest, if_pos (.inl rfl)]

/-- No group is read where the groups end. -/
theorem readGroups_stops (hrest : Stops rest) (left i : Nat) :
    readGroups left i rest = ([], false, rest) := by
  have hcolon : ∀ t, rest = separator i ++ t → t = [] ∨ ∃ more, t = ':' :: more := by
    rintro t rfl
    by_cases hi : i = 0
    · subst hi
      rcases hrest with h | ⟨more, h⟩
      · exact .inl h
      · exact .inr ⟨_, h⟩
    · rw [separator, if_neg hi] at hrest
      rcases hrest with h | ⟨more, h⟩
      · cases h
      · exact .inr ⟨more, (List.cons.inj h).2⟩
  cases left with
  | zero => rfl
  | succ left =>
    have hipv4 : readSeparator ':' i readIpv4Addr rest = none :=
      readSeparator_eq_none fun t ht => readIpv4Addr_stops (hcolon t ht)
    have hgroup : readSeparator ':' i (readNumber 16 4 65536 true) rest = none := by
      refine readSeparator_eq_none fun t ht => readNumber_stops ?_
      rcases hcolon t ht with rfl | ⟨more, rfl⟩
      · rintro c ⟨⟩
      · exact noDigit_colon _ _
    rw [readGroups, hipv4, ite_self, hgroup]

/-- A group is read, and then those behind it. -/
theorem readGroups_group {n : Nat} (hds : Numeral 16 4 65536 true ds n)
    (hrest : rest = [] ∨ ∃ more, rest = ':' :: more) (left i : Nat) :
    readGroups (left + 1) i (separator i ++ (ds ++ rest)) =
      (.ofNat n :: (readGroups left (i + 1) rest).1, (readGroups left (i + 1) rest).2) := by
  have hipv4 : readSeparator ':' i readIpv4Addr (separator i ++ (ds ++ rest)) = none := by
    refine readSeparator_eq_none fun t ht => ?_
    rw [← List.append_cancel_left ht]
    exact readIpv4Addr_eq_none (dot_notMem hds.digits) hrest
  have hnoDigit : NoDigit 16 rest := by
    rcases hrest with rfl | ⟨more, rfl⟩
    · rintro c ⟨⟩
    · exact noDigit_colon _ _
  have hgroup : readSeparator ':' i (readNumber 16 4 65536 true) (separator i ++ (ds ++ rest)) =
      some (n, rest) :=
    readSeparator_separator.mpr ⟨_, rfl, readNumber_iff.mpr ⟨ds, rfl, hds, hnoDigit⟩⟩
  rw [readGroups, hipv4, ite_self, hgroup]

/-- **Groups are read as far as they go.** -/
theorem readGroups_complete (hgs : GroupsText gs ipv4 text) (hrest : Stops rest) {left : Nat}
    (hleft : gs.length ≤ left) (i : Nat) :
    readGroups left i (separator i ++ (text ++ rest)) = (gs, ipv4, rest) := by
  induction hgs generalizing left i with
  | @group ds n h =>
    obtain ⟨left, rfl⟩ := Nat.exists_eq_add_of_le' hleft
    rw [List.length_singleton, readGroups_group h (hrest.imp_right fun ⟨m, hm⟩ => ⟨_, hm⟩),
      readGroups_stops hrest]
  | @ipv4 octets text h =>
    obtain ⟨left, rfl⟩ := Nat.exists_eq_add_of_le' hleft
    have hread : readSeparator ':' i readIpv4Addr (separator i ++ (text ++ rest)) =
        some (octets, rest) :=
      readSeparator_separator.mpr
        ⟨_, rfl, readIpv4Addr_iff.mpr ⟨text, rfl, h, hrest.noDigit 10⟩⟩
    have htwo : left + (ipv4Groups octets).length = left + 1 + 1 := rfl
    rw [htwo, readGroups, if_pos (Nat.succ_pos left), hread]
  | @cons ds text n gs ipv4 h htail ih =>
    obtain ⟨left, rfl⟩ := Nat.exists_eq_add_of_le' hleft
    have hnext : readGroups (left + gs.length) (i + 1) (':' :: (text ++ rest)) =
        (gs, ipv4, rest) := ih (Nat.le_add_left _ _) (i + 1)
    rw [List.append_assoc, List.cons_append, List.length_cons, ← Nat.add_assoc,
      readGroups_group h (.inr ⟨_, rfl⟩), hnext]

/-- One side of `::`. -/
inductive SideText : List UInt16 → Bool → List Char → Prop
  | nil : SideText [] false []
  | groups {gs : List UInt16} {ipv4 : Bool} {text : List Char} (h : GroupsText gs ipv4 text) :
      SideText gs ipv4 text

/-- **Nothing but groups is read.** -/
theorem readGroups_sound {left i : Nat} (h : readGroups left i s = (gs, ipv4, rest)) :
    gs.length ≤ left ∧
      (gs = [] ∧ ipv4 = false ∧ s = rest ∨
        ∃ text, s = separator i ++ (text ++ rest) ∧ GroupsText gs ipv4 text) := by
  induction left generalizing i s gs with
  | zero =>
    cases h
    exact ⟨Nat.le_refl _, .inl ⟨rfl, rfl, rfl⟩⟩
  | succ left ih =>
    rw [readGroups] at h
    split at h
    next octets t hread =>
      cases h
      split at hread
      next hleft =>
        obtain ⟨t, rfl, ht⟩ := readSeparator_separator.mp hread
        obtain ⟨text, rfl, htext, -⟩ := readIpv4Addr_iff.mp ht
        exact ⟨Nat.succ_le_succ hleft, .inr ⟨text, rfl, .ipv4 htext⟩⟩
      next => cases hread
    next =>
      split at h
      next g t hread =>
        obtain ⟨t', rfl, ht⟩ := readSeparator_separator.mp hread
        obtain ⟨ds, rfl, hds, -⟩ := readNumber_iff.mp ht
        obtain ⟨gs', ipv4', rest', hnext⟩ : ∃ gs' ipv4' rest',
            readGroups left (i + 1) t = (gs', ipv4', rest') := ⟨_, _, _, rfl⟩
        rw [hnext] at h
        cases h
        obtain ⟨hlength, ⟨rfl, rfl, rfl⟩ | ⟨text, rfl, htext⟩⟩ := ih hnext
        · exact ⟨Nat.succ_le_succ hlength, .inr ⟨ds, rfl, .group hds⟩⟩
        · refine ⟨Nat.succ_le_succ hlength, .inr ⟨ds ++ ':' :: text, ?_, .cons hds htext⟩⟩
          simp [separator]
      next =>
        cases h
        exact ⟨Nat.zero_le _, .inl ⟨rfl, rfl, rfl⟩⟩

theorem readGroups_side (hgs : SideText gs ipv4 text) (hrest : Stops rest) {left : Nat}
    (hleft : gs.length ≤ left) : readGroups left 0 (text ++ rest) = (gs, ipv4, rest) := by
  cases hgs with
  | nil => exact readGroups_stops hrest left 0
  | groups h => exact readGroups_complete h hrest hleft 0

theorem side_of_readGroups {left : Nat} (h : readGroups left 0 s = (gs, ipv4, rest)) :
    gs.length ≤ left ∧ ∃ text, s = text ++ rest ∧ SideText gs ipv4 text := by
  obtain ⟨hlength, ⟨rfl, rfl, rfl⟩ | ⟨text, hs, htext⟩⟩ := readGroups_sound h
  · exact ⟨hlength, [], rfl, .nil⟩
  · exact ⟨hlength, text, hs, .groups htext⟩

end

/-! ## IPv6 and the parser -/

/-- Eight groups, or fewer on the two sides of `::`; an IPv4 address is the end. -/
inductive Ipv6Text : Vector UInt16 8 → List Char → Prop
  | full {gs : List UInt16} {ipv4 : Bool} {text : List Char} (h : GroupsText gs ipv4 text)
      (hlength : gs.length = 8) : Ipv6Text (segments gs []) text
  | elided {head tail : List UInt16} {ipv4 : Bool} {a b : List Char} (ha : SideText head false a)
      (hb : SideText tail ipv4 b) (hlength : head.length + tail.length < 8) :
      Ipv6Text (segments head tail) (a ++ ':' :: ':' :: b)

/-- What a text says. -/
inductive Spells (text : List Char) : IpAddr → Prop
  | v4 {octets : Vector UInt8 4} (h : Ipv4Text octets text) : Spells text (.v4 octets)
  | v6 {segments : Vector UInt16 8} (h : Ipv6Text segments text) : Spells text (.v6 segments)

section
variable {s text : List Char} {segs : Vector UInt16 8}

theorem readIpv6Addr_iff : readIpv6Addr s = some (segs, []) ↔ Ipv6Text segs s := by
  constructor
  · intro h
    obtain ⟨head, ipv4, t, hhead⟩ : ∃ head ipv4 t, readGroups 8 0 s = (head, ipv4, t) :=
      ⟨_, _, _, rfl⟩
    obtain ⟨hlength, a, rfl, ha⟩ := side_of_readGroups hhead
    rw [readIpv6Addr, hhead] at h
    dsimp only at h
    split at h
    next hfull =>
      cases h
      cases ha with
      | nil => cases hfull
      | groups ha =>
        rw [List.append_nil]
        exact .full ha hfull
    next hshort =>
      cases ipv4 with
      | true => cases h
      | false =>
        rw [if_neg Bool.false_ne_true] at h
        split at h
        next t =>
          obtain ⟨tail, ipv4, rest, htail⟩ : ∃ tail ipv4 rest,
              readGroups (8 - (head.length + 1)) 0 t = (tail, ipv4, rest) := ⟨_, _, _, rfl⟩
          obtain ⟨hleft, b, rfl, hb⟩ := side_of_readGroups htail
          have hsides : head.length + tail.length < 8 := by omega
          rw [htail] at h
          cases h
          rw [List.append_nil]
          exact .elided ha hb hsides
        next => cases h
  · intro h
    cases h with
    | @full gs ipv4 _ h hlength =>
      have hread := readGroups_side (.groups h) (.inl rfl) (Nat.le_of_eq hlength)
      rw [List.append_nil] at hread
      rw [readIpv6Addr, hread]
      exact if_pos hlength
    | @elided head tail ipv4 a b ha hb hlength =>
      have hhead : readGroups 8 0 (a ++ ':' :: ':' :: b) = (head, false, ':' :: ':' :: b) :=
        readGroups_side ha (.inr ⟨b, rfl⟩) (by omega)
      have htail : readGroups (8 - (head.length + 1)) 0 (b ++ []) = (tail, ipv4, []) :=
        readGroups_side hb (.inl rfl) (by omega)
      rw [List.append_nil] at htail
      have hshort : head.length ≠ 8 := by omega
      simp only [readIpv6Addr, hhead, if_neg hshort, Bool.false_eq_true, if_false, htail]

/-- A colon comes before the first dot, if there is more than one group. -/
theorem GroupsText.begins {gs : List UInt16} {ipv4 : Bool} (h : GroupsText gs ipv4 text)
    (hkind : ipv4 = false ∨ 2 < gs.length) :
    ∃ ds rest, text = ds ++ rest ∧ '.' ∉ ds ∧
      (rest = [] ∧ gs.length = 1 ∨ ∃ more, rest = ':' :: more) := by
  cases h with
  | group h =>
    exact ⟨text, [], (List.append_nil _).symm, dot_notMem h.digits, .inl ⟨rfl, rfl⟩⟩
  | ipv4 =>
    rcases hkind with hkind | hkind
    · cases hkind
    · exact absurd hkind (Nat.lt_irrefl 2)
  | @cons ds text _ _ _ h => exact ⟨ds, _, rfl, dot_notMem h.digits, .inr ⟨text, rfl⟩⟩

theorem readIpv4Addr_of_ipv6 (h : Ipv6Text segs s) : readIpv4Addr s = none := by
  cases h with
  | @full gs ipv4 text h hlength =>
    obtain ⟨ds, rest, rfl, hds, ⟨-, hone⟩ | hrest⟩ := h.begins (.inr (by omega))
    · omega
    · exact readIpv4Addr_eq_none hds (.inr hrest)
  | @elided head tail ipv4 a b ha hb hlength =>
    cases ha with
    | nil => exact readIpv4Addr_stops (.inr ⟨_, rfl⟩)
    | groups ha =>
      obtain ⟨ds, rest, rfl, hds, ⟨rfl, -⟩ | ⟨more, rfl⟩⟩ := ha.begins (.inl rfl)
      · rw [List.append_nil]
        exact readIpv4Addr_eq_none hds (.inr ⟨_, rfl⟩)
      · rw [List.append_assoc]
        exact readIpv4Addr_eq_none hds (.inr ⟨_, rfl⟩)

end

/-- **The parser accepts what the grammar derives, and nothing else.** -/
theorem fromStr_iff {s : String} {ip : IpAddr} : fromStr s = some ip ↔ Spells s.toList ip := by
  constructor
  · intro h
    rw [fromStr] at h
    split at h
    next octets rest hread =>
      obtain ⟨text, htext, hipv4, -⟩ := readIpv4Addr_iff.mp hread
      split at h <;> cases h
      next hend =>
        rw [hend, List.append_nil] at htext
        rw [htext]
        exact .v4 hipv4
    next =>
      split at h
      next segs rest hread =>
        split at h <;> cases h
        next hend =>
          rw [hend] at hread
          exact .v6 (readIpv6Addr_iff.mp hread)
      next => cases h
  · rintro (⟨h⟩ | ⟨h⟩)
    · have hread : readIpv4Addr s.toList = some (_, []) :=
        readIpv4Addr_iff.mpr ⟨s.toList, (List.append_nil _).symm, h, by rintro c ⟨⟩⟩
      rw [fromStr, hread]
      exact if_pos rfl
    · rw [fromStr, readIpv4Addr_of_ipv6 h, readIpv6Addr_iff.mpr h]
      exact if_pos rfl

/-- An IPv4 address is not written before `::`. -/
example (ip : IpAddr) : ¬ Spells "1.2.3.4::".toList ip := by
  intro h
  have hnone : fromStr "1.2.3.4::" = none := by decide
  cases hnone.symm.trans (fromStr_iff.mpr h)

end MdnsSdDiscovery.IpAddr
