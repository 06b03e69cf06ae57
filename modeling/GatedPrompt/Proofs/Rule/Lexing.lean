import Mathlib.Data.List.TakeWhile
import GatedPrompt.Rule.Basic

/-!
# How a rule text falls into tokens

Which tokens there are, and where one ends, is said here without the reader of `Rule.Token`; the
reader then turns out to find exactly these tokens.

* `Lexeme.IsWritten` — what a token of each kind looks like;
* `Lexeme.Ends` — what follows a token does not go on with it;
* `next?_eq_some_iff` — the token read off the front of a text is the one that is written there and
  ends there;
* `Lexed` — a text falls into a negation mark, tokens and a rest at which no token starts. Every
  text does, in one way (`exists_lexed`, `Lexed.unique`).
-/

namespace GatedPrompt.Rule

open Text (Points isDigit)

/-! ## Tokens as they are written -/

/-- A run of decimal digits that is not empty. -/
structure IsNumeral (cs : Points) : Prop where
  ne_nil : cs ≠ []
  isDigit : ∀ p ∈ cs, isDigit p = true

/-- The ways to write a comparison. -/
def Comparison.spelled : Comparison → List String
  | equal => ["=", "==", "==="]
  | unequal => ["!=", "!=="]
  | less => ["<"]
  | lessOrEqual => ["<="]
  | greater => [">"]
  | greaterOrEqual => [">="]

namespace Lexeme

/-- A token of this form is written in the way of its kind. -/
def IsWritten : Lexeme → Prop
  | reference _ digits => IsNumeral digits
  | gold => True
  | comparison spelling c => spelling ∈ c.spelled
  | literal _ digits => IsNumeral digits

/-- A text does not go on with the token before it: a comparison would go on with an equals sign
that makes a longer spelling, and a numeral with a digit. -/
def Ends (l : Lexeme) (rest : Points) : Prop :=
  match l with
  | comparison spelling _ =>
    rest.head? = some (.char '=') → ∀ c : Comparison, spelling ++ "=" ∉ c.spelled
  | literal _ _ => ∀ p ∈ rest.head?, isDigit p = false
  | _ => True

end Lexeme

/-! ## Digits and other code points -/

/-- A character that is no digit differs from every digit. -/
theorem ne_char_of_isDigit {p : Text.CodePoint} (hp : isDigit p = true) {c : Char}
    (hc : isDigit (.char c) = false) : p ≠ .char c := by
  rintro rfl
  rw [hp] at hc
  cases hc

theorem isDigit_letter (kind : Game.Kind) : isDigit (.char (letter kind)) = false := by
  rcases kind with _ | _ | _ | thing
  · decide
  · decide
  · decide
  · cases thing <;> decide

/-- A run of digits that is followed by something else is what the digits at the front are. -/
theorem takeWhile_isDigit {digits rest : Points} (hdigits : ∀ p ∈ digits, isDigit p = true)
    (hrest : ∀ p ∈ rest.head?, isDigit p = false) :
    (digits ++ rest).takeWhile isDigit = digits ∧ (digits ++ rest).dropWhile isDigit = rest := by
  rw [List.takeWhile_append_of_pos hdigits, List.dropWhile_append_of_pos hdigits]
  cases rest with
  | nil => simp
  | cons p rest =>
    have hp : isDigit p = false := hrest p rfl
    simp [hp]

namespace Lexeme

/-! ## The readers of the four kinds -/

theorem reference?_append (kind : Game.Kind) {digits : Points} (hdigits : IsNumeral digits)
    (rest : Points) :
    reference? ((reference kind digits).points ++ rest) = some (reference kind digits, rest) := by
  have hclose : ∀ p ∈ (.char ']' :: rest : Points).head?, isDigit p = false := by
    rintro p ⟨⟩
    decide
  obtain ⟨htake, hdrop⟩ := takeWhile_isDigit hdigits.isDigit hclose
  have hne : digits.isEmpty = false := by simpa using hdigits.ne_nil
  simp only [points, List.cons_append, List.append_assoc, List.nil_append, reference?,
    kindOf?_letter, htake, hdrop, hne]
  simp

theorem isNumeral_of_reference? {cs rest : Points} {l : Lexeme}
    (h : reference? cs = some (l, rest)) :
    ∃ kind digits, l = reference kind digits ∧ IsNumeral digits := by
  unfold reference? at h
  split at h
  · next c cs =>
    split at h
    · cases h
    · next kind _ =>
      simp only at h
      split at h
      · split at h
        · cases h
        · next hne =>
          obtain ⟨rfl, rfl⟩ : _ ∧ _ := by simpa using h
          exact ⟨kind, _, rfl, by simpa using hne, fun p hp => List.mem_takeWhile_imp hp⟩
      · cases h
  · cases h

/-- A reference starts with the letter of its kind. -/
theorem reference?_eq_none {p : Text.CodePoint} (hp : ∀ kind, p ≠ .char (letter kind))
    (cs : Points) : reference? (p :: cs) = none := by
  unfold reference?
  split
  · next c _ heq =>
    obtain ⟨rfl, -⟩ := List.cons.inj heq
    split
    · rfl
    · next kind hkind => exact absurd (by rw [letter_of_kindOf? hkind]) (hp kind)
  · rfl

theorem gold?_eq_none {p : Text.CodePoint} (hp : p ≠ .char 'g') (cs : Points) :
    gold? (p :: cs) = none := by
  unfold gold?
  split
  · next heq => exact absurd (List.cons.inj heq).1 hp
  · rfl

/-- The table of spellings lists the ways to write each comparison. -/
theorem mem_spellings_iff {spelling : String} {c : Comparison} :
    (spelling, c) ∈ Comparison.spellings ↔ spelling ∈ c.spelled := by
  cases c <;> simp [Comparison.spellings, Comparison.spelled] <;> grind

/-- A spelling is read as far as it goes if something else follows it. -/
private theorem comparison?_append_of_ne {spelling : String} {c : Comparison}
    (h : spelling ∈ c.spelled) {rest : Points} (hrest : rest.head? ≠ some (.char '=')) :
    comparison? ((Text.ofString spelling).points ++ rest) =
      some (comparison spelling c, rest) := by
  have hmem := mem_spellings_iff.2 h
  cases rest with
  | nil =>
    have hall : ∀ entry ∈ Comparison.spellings,
        comparison? ((Text.ofString entry.1).points ++ []) =
          some (comparison entry.1 entry.2, []) := by decide
    exact hall (spelling, c) hmem
  | cons p rest =>
    have hp : ¬Text.CodePoint.char '=' = p := fun heq => hrest (by rw [← heq]; rfl)
    simp only [Comparison.spellings, List.mem_cons, Prod.mk.injEq, List.not_mem_nil,
      or_false] at hmem
    rcases hmem with ⟨rfl, rfl⟩ | ⟨rfl, rfl⟩ | ⟨rfl, rfl⟩ | ⟨rfl, rfl⟩ | ⟨rfl, rfl⟩ | ⟨rfl, rfl⟩ |
      ⟨rfl, rfl⟩ | ⟨rfl, rfl⟩ | ⟨rfl, rfl⟩ <;>
      simp [comparison?, Comparison.spellings, Text.afterMark?, Text.ofString, Text.ofChars, hp]

/-- A spelling is read as far as it goes if it cannot go on. -/
theorem comparison?_append {spelling : String} {c : Comparison} (h : spelling ∈ c.spelled)
    {rest : Points} (hends : (comparison spelling c).Ends rest) :
    comparison? ((Text.ofString spelling).points ++ rest) =
      some (comparison spelling c, rest) := by
  by_cases hrest : rest.head? = some (.char '=')
  · have hlonger := hends hrest
    have hmem := mem_spellings_iff.2 h
    simp only [Comparison.spellings, List.mem_cons, Prod.mk.injEq, List.not_mem_nil,
      or_false] at hmem
    -- Five spellings go on with an equals sign; the other four are read whatever follows.
    rcases hmem with ⟨rfl, rfl⟩ | ⟨rfl, rfl⟩ | ⟨rfl, rfl⟩ | ⟨rfl, rfl⟩ | ⟨rfl, rfl⟩ | ⟨rfl, rfl⟩ |
      ⟨rfl, rfl⟩ | ⟨rfl, rfl⟩ | ⟨rfl, rfl⟩
    · simp [comparison?, Comparison.spellings, Text.afterMark?, Text.ofString, Text.ofChars]
    · exact absurd (by decide) (hlonger .equal)
    · simp [comparison?, Comparison.spellings, Text.afterMark?, Text.ofString, Text.ofChars]
    · simp [comparison?, Comparison.spellings, Text.afterMark?, Text.ofString, Text.ofChars]
    · simp [comparison?, Comparison.spellings, Text.afterMark?, Text.ofString, Text.ofChars]
    · exact absurd (by decide) (hlonger .unequal)
    · exact absurd (by decide) (hlonger .equal)
    · exact absurd (by decide) (hlonger .lessOrEqual)
    · exact absurd (by decide) (hlonger .greaterOrEqual)
  · exact comparison?_append_of_ne h hrest

/-- Every spelling at the front of a text is the beginning of one that ends there. -/
private theorem exists_spelling_ends {rest : Points} :
    ∀ {spelling : String} {c : Comparison}, spelling ∈ c.spelled →
      ∃ spelling' c' rest', spelling' ∈ c'.spelled ∧ (comparison spelling' c').Ends rest' ∧
        (Text.ofString spelling).points ++ rest = (Text.ofString spelling').points ++ rest' := by
  induction rest with
  | nil =>
    intro spelling c h
    exact ⟨spelling, c, [], h, (fun hnil => nomatch hnil), rfl⟩
  | cons p rest ih =>
    intro spelling c h
    by_cases hends : (comparison spelling c).Ends (p :: rest)
    · exact ⟨spelling, c, p :: rest, h, hends, rfl⟩
    · simp only [Ends, List.head?_cons, Option.some.injEq, Classical.not_imp, not_forall,
        not_not] at hends
      obtain ⟨rfl, c', hlonger⟩ := hends
      obtain ⟨spelling'', c'', rest'', hmem, hends'', heq⟩ := ih hlonger
      refine ⟨spelling'', c'', rest'', hmem, hends'', ?_⟩
      rw [← heq]
      simp [Text.ofString, Text.ofChars]

theorem ends_of_comparison? {cs rest : Points} {l : Lexeme} (h : comparison? cs = some (l, rest)) :
    ∃ spelling c, l = comparison spelling c ∧ spelling ∈ c.spelled ∧ l.Ends rest := by
  obtain ⟨⟨spelling, c⟩, hmem, hfound⟩ := List.exists_of_findSome?_eq_some h
  obtain ⟨rest', hrest, heq⟩ := Option.map_eq_some_iff.1 hfound
  obtain ⟨rfl, rfl⟩ : _ ∧ _ := by simpa using heq
  have hspelled := mem_spellings_iff.1 hmem
  obtain ⟨spelling', c', rest'', hspelled', hends, heq'⟩ := exists_spelling_ends hspelled
  -- What is read is the spelling that ends, so it is the one that was read.
  have hread := comparison?_append hspelled' hends
  rw [← heq', ← Text.afterMark?_eq_some_iff.1 hrest, h] at hread
  obtain ⟨⟨rfl, rfl⟩, rfl⟩ : (_ ∧ _) ∧ _ := by simpa using hread
  exact ⟨_, _, rfl, hspelled', hends⟩

/-- A comparison starts with one of four characters. -/
theorem comparison?_eq_none {p : Text.CodePoint}
    (hp : p ≠ .char '=' ∧ p ≠ .char '!' ∧ p ≠ .char '<' ∧ p ≠ .char '>') (cs : Points) :
    comparison? (p :: cs) = none := by
  obtain ⟨hequal, hnot, hless, hgreater⟩ := hp
  simp [comparison?, Comparison.spellings, Text.afterMark?, Text.ofString, Text.ofChars,
    hequal.symm, hnot.symm, hless.symm, hgreater.symm]

theorem literal?_append (sign : Option Text.Sign) {digits : Points} (hdigits : IsNumeral digits)
    {rest : Points} (hends : (literal sign digits).Ends rest) :
    literal? ((literal sign digits).points ++ rest) = some (literal sign digits, rest) := by
  obtain ⟨htake, hdrop⟩ := takeWhile_isDigit hdigits.isDigit hends
  have hne : digits.isEmpty = false := by simpa using hdigits.ne_nil
  have hsplit :
      Text.Sign.split ((literal sign digits).points ++ rest) = (sign, digits ++ rest) := by
    cases sign with
    | some sign => cases sign <;> rfl
    | none =>
      obtain ⟨p, digits, rfl⟩ := List.exists_cons_of_ne_nil hdigits.ne_nil
      have hp : isDigit p = true := hdigits.isDigit p List.mem_cons_self
      have hplus : p ≠ .char '+' := ne_char_of_isDigit hp (by decide)
      have hminus : p ≠ .char '-' := ne_char_of_isDigit hp (by decide)
      simp [points, Text.Sign.split, Text.Sign.ofPoint?, hplus, hminus]
  simp only [literal?, hsplit, htake, hdrop, hne]
  simp

theorem ends_of_literal? {cs rest : Points} {l : Lexeme} (h : literal? cs = some (l, rest)) :
    ∃ sign digits, l = literal sign digits ∧ IsNumeral digits ∧ l.Ends rest := by
  simp only [literal?] at h
  split at h
  · cases h
  · next hne =>
    obtain ⟨rfl, rfl⟩ : _ ∧ _ := by simpa using h
    refine ⟨_, _, rfl, ⟨by simpa using hne, fun p hp => List.mem_takeWhile_imp hp⟩, ?_⟩
    intro p hp
    have hnot := List.head?_dropWhile_not isDigit (Text.Sign.split cs).2
    rw [Option.mem_def.1 hp] at hnot
    simpa using hnot

/-! ## The token at the front of a text -/

/-- What a token of each kind starts with. -/
def Starts (l : Lexeme) (p : Text.CodePoint) : Prop :=
  match l with
  | reference kind _ => p = .char (letter kind)
  | gold => p = .char 'g'
  | comparison _ _ => p = .char '=' ∨ p = .char '!' ∨ p = .char '<' ∨ p = .char '>'
  | literal _ _ => p = .char '+' ∨ p = .char '-' ∨ isDigit p = true

theorem exists_starts {l : Lexeme} (hl : l.IsWritten) :
    ∃ p cs, l.points = p :: cs ∧ l.Starts p := by
  cases l with
  | reference kind digits => exact ⟨_, _, rfl, rfl⟩
  | gold => exact ⟨_, _, rfl, rfl⟩
  | comparison spelling c =>
    have hall : ∀ entry ∈ Comparison.spellings, ∃ p cs,
        (Text.ofString entry.1).points = p :: cs ∧
          (p = .char '=' ∨ p = .char '!' ∨ p = .char '<' ∨ p = .char '>') := by
      simp [Comparison.spellings, Text.ofString, Text.ofChars]
    exact hall (spelling, c) (mem_spellings_iff.2 hl)
  | literal sign digits =>
    cases sign with
    | some sign => cases sign <;> exact ⟨_, digits, rfl, by simp [Starts, Text.Sign.point]⟩
    | none =>
      obtain ⟨p, digits, rfl⟩ := List.exists_cons_of_ne_nil hl.ne_nil
      exact ⟨p, digits, rfl, .inr (.inr (hl.isDigit p List.mem_cons_self))⟩

/-- A literal starts with no character but a sign or a digit. -/
theorem ne_char_of_starts_literal {sign : Option Text.Sign} {digits : Points}
    {p : Text.CodePoint} (hp : (literal sign digits).Starts p) {c : Char}
    (hc : isDigit (.char c) = false ∧ c ≠ '+' ∧ c ≠ '-') : p ≠ .char c := by
  rintro rfl
  rcases hp with hp | hp | hp
  · exact hc.2.1 (by simpa using hp)
  · exact hc.2.2 (by simpa using hp)
  · rw [hc.1] at hp
    cases hp

/-- What a token starts with tells its kind, so that the readers of the other kinds pass it over. -/
theorem next?_append {l : Lexeme} (hl : l.IsWritten) {rest : Points} (hends : l.Ends rest) :
    next? (l.points ++ rest) = some (l, rest) := by
  obtain ⟨p, cs, heq, hp⟩ := exists_starts hl
  cases l with
  | reference kind digits =>
    rw [next?, reference?_append kind hl rest]
    rfl
  | gold =>
    rw [next?, show gold.points ++ rest = .char 'g' :: rest from rfl,
      reference?_eq_none (fun kind heq => ?_)]
    · rfl
    · rcases kind with _ | _ | _ | _ | _ | _ <;> cases heq
  | comparison spelling c =>
    have hread := comparison?_append hl hends
    have hletter : ∀ kind, p ≠ .char (letter kind) := by
      rintro kind rfl
      rcases kind with _ | _ | _ | _ | _ | _ <;> simp [Starts, letter] at hp
    have hgold : p ≠ .char 'g' := by
      rintro rfl
      simp [Starts] at hp
    rw [show (Text.ofString spelling).points = p :: cs from heq, List.cons_append] at hread
    rw [heq, List.cons_append, next?, reference?_eq_none hletter, gold?_eq_none hgold, hread]
    rfl
  | literal sign digits =>
    have hread := literal?_append sign hl hends
    have hletter : ∀ kind, p ≠ .char (letter kind) := fun kind => by
      refine ne_char_of_starts_literal hp ⟨isDigit_letter kind, ?_⟩
      rcases kind with _ | _ | _ | _ | _ | _ <;> decide
    have hgold : p ≠ .char 'g' := ne_char_of_starts_literal hp (by decide)
    have hcomparison : p ≠ .char '=' ∧ p ≠ .char '!' ∧ p ≠ .char '<' ∧ p ≠ .char '>' :=
      ⟨ne_char_of_starts_literal hp (by decide), ne_char_of_starts_literal hp (by decide),
        ne_char_of_starts_literal hp (by decide), ne_char_of_starts_literal hp (by decide)⟩
    rw [heq, List.cons_append] at hread ⊢
    rw [next?, reference?_eq_none hletter, gold?_eq_none hgold, comparison?_eq_none hcomparison,
      hread]
    rfl

theorem isWritten_and_ends_of_next? {cs rest : Points} {l : Lexeme}
    (h : next? cs = some (l, rest)) : l.IsWritten ∧ l.Ends rest := by
  simp only [next?, Option.or_eq_some_iff] at h
  rcases h with h | ⟨-, h | ⟨-, h | ⟨-, h⟩⟩⟩
  · obtain ⟨kind, digits, rfl, hdigits⟩ := isNumeral_of_reference? h
    exact ⟨hdigits, trivial⟩
  · unfold gold? at h
    split at h
    · obtain ⟨rfl, -⟩ : gold = l ∧ _ := by simpa using h
      exact ⟨trivial, trivial⟩
    · cases h
  · obtain ⟨spelling, c, rfl, hspelled, hends⟩ := ends_of_comparison? h
    exact ⟨hspelled, hends⟩
  · obtain ⟨sign, digits, rfl, hdigits, hends⟩ := ends_of_literal? h
    exact ⟨hdigits, hends⟩

/-- **The token read off the front of a text is the one that is written there and ends there.** -/
theorem next?_eq_some_iff {cs rest : Points} {l : Lexeme} :
    next? cs = some (l, rest) ↔ cs = l.points ++ rest ∧ l.IsWritten ∧ l.Ends rest := by
  constructor
  · intro h
    exact ⟨eq_of_next? h, isWritten_and_ends_of_next? h⟩
  · rintro ⟨rfl, hl, hends⟩
    exact next?_append hl hends

end Lexeme

/-! ## A whole text -/

/-- Tokens one after the other. -/
def written (ls : List Lexeme) : Points := ls.flatMap Lexeme.points

/-- Each of the tokens is written in the way of its kind and ends where the next one starts. -/
def Munched : List Lexeme → Points → Prop
  | [], _ => True
  | l :: ls, rest => l.IsWritten ∧ l.Ends (written ls ++ rest) ∧ Munched ls rest

/-- The negation mark, if there is one. -/
def mark (negated : Bool) : Points := if negated then [.char '!'] else []

/-- A text falls into a negation mark or none, tokens, and a rest at which no token starts. An
exclamation mark at the front is always the negation mark. -/
structure Lexed (cs : Points) (negated : Bool) (ls : List Lexeme) (rest : Points) : Prop where
  points_eq : cs = mark negated ++ (written ls ++ rest)
  negated_of_mark : cs.head? = some (.char '!') → negated = true
  munched : Munched ls rest
  stuck : Lexeme.next? rest = none

@[simp] theorem written_nil : written [] = [] := rfl

@[simp] theorem written_cons (l : Lexeme) (ls : List Lexeme) :
    written (l :: ls) = l.points ++ written ls := rfl

theorem exists_munched (cs : Points) :
    ∃ ls rest, cs = written ls ++ rest ∧ Munched ls rest ∧ Lexeme.next? rest = none := by
  induction hlength : cs.length using Nat.strong_induction_on generalizing cs with
  | _ n ih =>
    cases hnext : Lexeme.next? cs with
    | none => exact ⟨[], cs, rfl, trivial, hnext⟩
    | some found =>
      obtain ⟨l, rest⟩ := found
      have hshorter := Lexeme.length_lt_of_next? hnext
      obtain ⟨rfl, hl, hends⟩ := Lexeme.next?_eq_some_iff.1 hnext
      obtain ⟨ls, rest', rfl, hmunched, hstuck⟩ := ih rest.length (by omega) rest rfl
      exact ⟨l :: ls, rest', by simp, ⟨hl, hends, hmunched⟩, hstuck⟩

theorem Munched.unique {ls ls' : List Lexeme} {rest rest' : Points} (h : Munched ls rest)
    (h' : Munched ls' rest') (hstuck : Lexeme.next? rest = none)
    (hstuck' : Lexeme.next? rest' = none) (heq : written ls ++ rest = written ls' ++ rest') :
    ls = ls' ∧ rest = rest' := by
  induction ls generalizing ls' with
  | nil =>
    cases ls' with
    | nil => exact ⟨rfl, heq⟩
    | cons l' ls' =>
      have hnext := Lexeme.next?_append h'.1 h'.2.1
      rw [← List.append_assoc, ← written_cons, ← heq, written_nil, List.nil_append, hstuck] at hnext
      cases hnext
  | cons l ls ih =>
    have hnext := Lexeme.next?_append h.1 h.2.1
    rw [← List.append_assoc, ← written_cons, heq] at hnext
    cases ls' with
    | nil =>
      rw [written_nil, List.nil_append, hstuck'] at hnext
      cases hnext
    | cons l' ls' =>
      rw [written_cons, List.append_assoc, Lexeme.next?_append h'.1 h'.2.1] at hnext
      obtain ⟨rfl, hrest⟩ : l' = l ∧ _ := by simpa using hnext
      obtain ⟨rfl, rfl⟩ := ih h.2.2 h'.2.2 hrest.symm
      exact ⟨rfl, rfl⟩

theorem exists_lexed (cs : Points) : ∃ negated ls rest, Lexed cs negated ls rest := by
  by_cases hmark : cs.head? = some (.char '!')
  · obtain ⟨body, rfl⟩ := List.head?_eq_some_iff.1 hmark
    obtain ⟨ls, rest, rfl, hmunched, hstuck⟩ := exists_munched body
    exact ⟨true, ls, rest, rfl, fun _ => rfl, hmunched, hstuck⟩
  · obtain ⟨ls, rest, rfl, hmunched, hstuck⟩ := exists_munched cs
    exact ⟨false, ls, rest, rfl, fun h => absurd h hmark, hmunched, hstuck⟩

namespace Lexed

variable {cs rest rest' : Points} {negated negated' : Bool} {ls ls' : List Lexeme}

theorem negated_iff (h : Lexed cs negated ls rest) :
    negated = true ↔ cs.head? = some (.char '!') := by
  constructor
  · rintro rfl
    rw [h.points_eq]
    rfl
  · exact h.negated_of_mark

theorem unique (h : Lexed cs negated ls rest) (h' : Lexed cs negated' ls' rest') :
    negated = negated' ∧ ls = ls' ∧ rest = rest' := by
  obtain rfl : negated = negated' := by
    rw [Bool.eq_iff_iff, h.negated_iff, h'.negated_iff]
  have heq := h.points_eq.symm.trans h'.points_eq
  exact ⟨rfl, h.munched.unique h'.munched h.stuck h'.stuck (List.append_cancel_left heq)⟩

end Lexed

end GatedPrompt.Rule
