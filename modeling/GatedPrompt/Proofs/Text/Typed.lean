import Mathlib.Data.List.DropRight
import GatedPrompt.Text.Numeral

/-!
# Integers as they are typed

What a person can type for an integer: an optional sign, and digits in groups with single
underscores between the groups.

* `trim_trim` — nothing is left to trim of a trimmed text;
* `ungroup?_eq_some_iff` — the digits of a numeral are those of its groups;
* `Typed` — a text stands for an integer, and `parseInteger?_eq_some_iff` — such texts are read as
  their integers, and no others;
* `naturalOf_lt`, `naturalOf_nines` — how great the value of a numeral can be, and so the least
  integer that can be typed (`leastTyped`).
-/

namespace GatedPrompt.Text

/-! ## Trimming -/

/-- **A trimmed text stays as it is.** -/
theorem trim_trim (points : Points) : trim (trim points) = trim points := by
  have hfront : trim points <+: trimLeft points := List.rdropWhile_prefix isBlank _
  -- what is left is not blank at its front, where the first trimming has left it alone
  have hleft : trimLeft (trim points) = trim points := by
    refine List.dropWhile_eq_self_iff.2 fun hlength => ?_
    rw [hfront.getElem hlength]
    exact List.dropWhile_get_zero_not isBlank points (hlength.trans_le hfront.length_le)
  rw [trim, hleft]
  exact List.rdropWhile_idempotent isBlank (trimLeft points)

/-- Nothing is trimmed of a text without blanks. -/
theorem trim_eq_self {points : Points} (h : ∀ p ∈ points, isBlank p = false) :
    trim points = points := by
  have hleft : trimLeft points = points := by
    refine List.dropWhile_eq_self_iff.2 fun hlength => ?_
    rw [h _ (List.getElem_mem hlength)]
    simp
  have hright : trimRight points = points := by
    refine List.rdropWhile_eq_self_iff.2 fun hne => ?_
    rw [h _ (List.getLast_mem hne)]
    simp
  rw [trim, hleft, hright]

/-! ## Digits in groups -/

/-- A group of digits. -/
structure IsGroup (group : Points) : Prop where
  nonempty : group ≠ []
  digits : ∀ p ∈ group, isDigit p = true

theorem isGroup_singleton {p : CodePoint} (h : isDigit p = true) : IsGroup [p] :=
  ⟨by simp, by simpa using h⟩

theorem IsGroup.cons {p : CodePoint} {group : Points} (h : isDigit p = true)
    (hgroup : IsGroup group) : IsGroup (p :: group) :=
  ⟨by simp, by simpa using ⟨h, hgroup.digits⟩⟩

/-- A numeral whose digits, in groups, are joined by underscores. -/
def Groups (numeral digits : Points) : Prop :=
  ∃ groups : List Points, groups ≠ [] ∧ (∀ group ∈ groups, IsGroup group) ∧
    numeral = [CodePoint.char '_'].intercalate groups ∧ digits = groups.flatten

theorem ungroup?_cons_cons {p q : CodePoint} {rest : Points} (hp : isDigit p = true)
    (hq : isDigit q = true) :
    ungroup? (p :: q :: rest) = (ungroup? (q :: rest)).map (p :: ·) := by
  have hmark : q ≠ .char '_' := by
    rintro rfl
    exact absurd hq (by decide)
  rw [ungroup?.eq_4, if_pos hp]
  all_goals simp [hmark]

/-- Digits alone are their own digits. -/
theorem ungroup?_of_isGroup {group : Points} (h : IsGroup group) : ungroup? group = some group := by
  obtain ⟨hne, hdigits⟩ := h
  induction group with
  | nil => exact absurd rfl hne
  | cons p group ih =>
    have hp : isDigit p = true := hdigits p (by simp)
    cases group with
    | nil => simp [ungroup?, hp]
    | cons q group =>
      have hrest := ih (by simp) fun point hmem => hdigits point (by simp [hmem])
      rw [ungroup?_cons_cons hp (hdigits q (by simp)), hrest, Option.map_some]

/-- A group in front of an underscore is read, and so is what follows. -/
theorem ungroup?_append {group rest : Points} (h : IsGroup group) :
    ungroup? (group ++ .char '_' :: rest) = (ungroup? rest).map (group ++ ·) := by
  obtain ⟨hne, hdigits⟩ := h
  induction group with
  | nil => exact absurd rfl hne
  | cons p group ih =>
    have hp : isDigit p = true := hdigits p (by simp)
    cases group with
    | nil =>
      rw [List.singleton_append, ungroup?, if_pos hp]
      rfl
    | cons q group =>
      have hrest := ih (by simp) fun point hmem => hdigits point (by simp [hmem])
      rw [List.cons_append, List.cons_append, ungroup?_cons_cons hp (hdigits q (by simp)),
        ← List.cons_append, hrest, Option.map_map]
      rfl

/-- **The digits of a numeral are those of its groups.** -/
theorem ungroup?_eq_some_iff {numeral digits : Points} :
    ungroup? numeral = some digits ↔ Groups numeral digits := by
  constructor
  · intro h
    fun_induction ungroup? numeral generalizing digits with
    | case1 => cases h
    | case2 p hp => 
      obtain rfl := Option.some.inj h
      exact ⟨[[p]], by simp, by simpa using isGroup_singleton hp, by simp, by simp⟩
    | case3 => cases h
    | case4 p rest hp ih =>
      obtain ⟨others, hothers, rfl⟩ := Option.map_eq_some_iff.1 h
      obtain ⟨groups, hne, hgroups, rfl, rfl⟩ := ih hothers
      refine ⟨[p] :: groups, by simp, ?_, ?_, by simp⟩
      · simpa using ⟨isGroup_singleton hp, hgroups⟩
      · rw [List.intercalate_cons_of_ne_nil hne]
        rfl
    | case5 => cases h
    | case6 p rest _ _ hp ih =>
      obtain ⟨others, hothers, rfl⟩ := Option.map_eq_some_iff.1 h
      obtain ⟨groups, hne, hgroups, rfl, rfl⟩ := ih hothers
      -- the digit goes into the first group
      cases groups with
      | nil => exact absurd rfl hne
      | cons group groups =>
        obtain ⟨hgroup, hothers⟩ := List.forall_mem_cons.1 hgroups
        refine ⟨(p :: group) :: groups, by simp, ?_, ?_, by simp⟩
        · exact List.forall_mem_cons.2 ⟨hgroup.cons hp, hothers⟩
        · cases groups <;> simp [List.intercalate_cons_cons]
    | case7 => cases h
  · rintro ⟨groups, hne, hgroups, rfl, rfl⟩
    induction groups with
    | nil => exact absurd rfl hne
    | cons group groups ih =>
      obtain ⟨hgroup, hothers⟩ := List.forall_mem_cons.1 hgroups
      cases groups with
      | nil => simpa using ungroup?_of_isGroup hgroup
      | cons other groups =>
        rw [List.intercalate_cons_cons, List.append_assoc, List.singleton_append,
          ungroup?_append hgroup, ih (by simp) hothers]
        simp

/-! ## Integers -/

/-- A text stands for an integer, if it is typed with no more digits than are read. -/
inductive Typed : Points → Int → Prop where
  | intro (sign : Option Sign) {groups : List Points} (nonempty : groups ≠ [])
      (digits : ∀ group ∈ groups, IsGroup group) (short : groups.flatten.length ≤ digitLimit) :
      Typed (sign.toList.map Sign.point ++ [CodePoint.char '_'].intercalate groups)
        (Sign.apply sign (naturalOf groups.flatten))

/-- A numeral begins with a digit. -/
theorem Groups.exists_cons {numeral digits : Points} (h : Groups numeral digits) :
    ∃ p rest, numeral = p :: rest ∧ isDigit p = true := by
  obtain ⟨groups, hne, hgroups, rfl, -⟩ := h
  obtain ⟨group, groups, rfl⟩ := List.exists_cons_of_ne_nil hne
  obtain ⟨hnonempty, hdigits⟩ := hgroups group (by simp)
  obtain ⟨p, rest, rfl⟩ := List.exists_cons_of_ne_nil hnonempty
  cases groups with
  | nil => exact ⟨p, rest, by simp, hdigits p (by simp)⟩
  | cons other groups => exact ⟨p, _, by rw [List.intercalate_cons_cons]; rfl, hdigits p (by simp)⟩

/-- The sign of a signed numeral is split off, and all of it. -/
theorem Sign.split_append_numeral (sign : Option Sign) {numeral digits : Points}
    (h : Groups numeral digits) :
    Sign.split (sign.toList.map Sign.point ++ numeral) = (sign, numeral) := by
  obtain ⟨p, rest, rfl, hp⟩ := h.exists_cons
  cases sign with
  | none =>
    have hplus : p ≠ '+' := by
      rintro rfl
      exact absurd hp (by decide)
    have hminus : p ≠ '-' := by
      rintro rfl
      exact absurd hp (by decide)
    simp [Sign.split, Sign.ofPoint?, hplus, hminus]
  | some sign => simp [Sign.split, Sign.ofPoint?_point]

/-- **What is read as an integer.** -/
theorem parseInteger?_eq_some_iff {text : Points} {k : Int} :
    parseInteger? text = some k ↔ Typed (trim text) k := by
  rw [parseInteger?]
  have happend := Sign.split_append (trim text)
  constructor
  · intro h
    generalize Sign.split (trim text) = parts at h happend
    obtain ⟨sign, numeral⟩ := parts
    cases hdigits : ungroup? numeral with
    | none => simp [hdigits] at h
    | some digits =>
      obtain ⟨groups, hne, hgroups, rfl, rfl⟩ := ungroup?_eq_some_iff.1 hdigits
      by_cases hshort : groups.flatten.length ≤ digitLimit
      · obtain rfl : Sign.apply sign (naturalOf groups.flatten) = k := by
          simpa [hdigits, readNatural_of_length_le hshort, Except.toOption] using h
        rw [← happend]
        exact .intro sign hne hgroups hshort
      · have hlong := readNatural_eq_error_iff.2 ⟨Nat.lt_of_not_le hshort, rfl⟩
        simp [hdigits, hlong, Except.toOption] at h
  · intro h
    generalize trim text = points at h
    obtain ⟨sign, hne, hgroups, hshort⟩ := h
    have hnumeral : Groups _ _ := ⟨_, hne, hgroups, rfl, rfl⟩
    rw [Sign.split_append_numeral sign hnumeral]
    simp only [ungroup?_eq_some_iff.2 hnumeral, readNatural_of_length_le hshort]
    rfl

/-- A trimmed text stands for one integer at most. -/
theorem Typed.unique {text : Points} {k k' : Int} (h : Typed (trim text) k)
    (h' : Typed (trim text) k') : k = k' :=
  Option.some.inj
    ((parseInteger?_eq_some_iff.2 h).symm.trans (parseInteger?_eq_some_iff.2 h'))

/-! ## How great a numeral can be -/

theorem naturalOf_concat (digits : Points) (p : CodePoint) :
    naturalOf (digits ++ [p]) = 10 * naturalOf digits + digitValue p := by
  rw [naturalOf, List.foldl_append]
  rfl

/-- The value of a numeral is bounded by the number of its digits. -/
theorem naturalOf_lt_length (digits : Points) : naturalOf digits < Nat.pow 10 digits.length := by
  induction digits using List.reverseRecOn with
  | nil => decide
  | append_singleton digits p ih =>
    have hdigit : digitValue p ≤ 9 := by
      rw [digitValue]
      cases hvalue : digitValue? p with
      | none => simp
      | some d => exact digitValue?_le_nine hvalue
    have hpow : Nat.pow 10 (digits.length + 1) = Nat.pow 10 digits.length * 10 := rfl
    rw [naturalOf_concat, List.length_append, List.length_singleton, hpow]
    omega

theorem naturalOf_lt {digits : Points} {n : Nat} (h : digits.length ≤ n) :
    naturalOf digits < Nat.pow 10 n :=
  Nat.lt_of_lt_of_le (naturalOf_lt_length digits) (Nat.pow_le_pow_right (by decide : 0 < 10) h)

/-- Nines reach the bound. -/
theorem naturalOf_nines (n : Nat) :
    naturalOf (List.replicate n (.char '9')) + 1 = Nat.pow 10 n := by
  induction n with
  | zero => decide
  | succ n ih =>
    have hnine : digitValue (.char '9') = 9 := by decide
    have hpow : Nat.pow 10 (n + 1) = Nat.pow 10 n * 10 := rfl
    rw [List.replicate_succ', naturalOf_concat, hnine, hpow]
    omega

/-- The least integer that can be typed: a minus sign and as many nines as are read. -/
def leastTyped : Int := 1 - (leastUnwritable : Int)

theorem leastTyped_le_zero : leastTyped ≤ 0 := by
  have hpos := leastUnwritable_pos
  rw [leastTyped]
  omega

/-- Of the integers that can be typed, only the least one has a predecessor of too many digits. -/
theorem Typed.isUnwritable_iff {points : Points} {k : Int} (h : Typed points k) :
    isUnwritable (k - 1) = true ↔ k = leastTyped := by
  obtain ⟨sign, -, -, hshort⟩ := h
  have hlt := naturalOf_lt hshort
  generalize naturalOf _ = n at hlt
  rw [isUnwritable, decide_eq_true_iff, leastTyped]
  unfold leastUnwritable
  generalize Nat.pow 10 digitLimit = bound at hlt ⊢
  -- a sign changes nothing about how many digits there are
  obtain hsign | hsign : Sign.apply sign n = n ∨ Sign.apply sign n = -(n : Int) := by
    rcases sign with _ | _ | _
    · exact .inl rfl
    · exact .inl rfl
    · exact .inr rfl
  · omega
  · omega

/-- A minus sign and nines stand for the number that is one short of a power. -/
theorem typed_nines {n : Nat} (hpos : 0 < n) (hshort : n ≤ digitLimit) :
    Typed (.char '-' :: List.replicate n (.char '9')) (1 - (Nat.pow 10 n : Int)) := by
  have hlength : (List.replicate n (CodePoint.char '9')).length = n := List.length_replicate
  have hgroup : IsGroup (List.replicate n (.char '9')) := by
    refine ⟨List.ne_nil_of_length_pos (by omega), fun p hmem => ?_⟩
    rw [List.eq_of_mem_replicate hmem]
    decide
  have hnines := naturalOf_nines n
  generalize List.replicate n (CodePoint.char '9') = nines at *
  have htyped := Typed.intro (some .minus) (List.cons_ne_nil nines [])
    (List.forall_mem_singleton.2 hgroup) (by rw [List.flatten_singleton]; omega)
  rw [List.flatten_singleton, List.intercalate_singleton] at htyped
  have hvalue : Sign.apply (some .minus) (naturalOf nines) = 1 - (Nat.pow 10 n : Int) := by
    rw [← hnines, Sign.apply]
    omega
  rwa [hvalue] at htyped

theorem typed_leastTyped :
    Typed (.char '-' :: List.replicate digitLimit (.char '9')) leastTyped := by
  -- the power is too great to be computed
  obtain ⟨n, hn⟩ : ∃ n, n = digitLimit := ⟨digitLimit, rfl⟩
  have hpos : 0 < n := hn ▸ (by decide : 0 < digitLimit)
  unfold leastTyped leastUnwritable
  rw [← hn]
  exact typed_nines hpos hn.le

end GatedPrompt.Text
