import GatedPrompt.Proofs.Rule.Munching
import GatedPrompt.Proofs.Rule.Refusals

/-!
# The diagnosis of a rule that is refused

A rule text that cannot be parsed has one category of defect, and which one it is can be told from
the text without its reader. The questions are asked in a fixed order, and the first that is
answered with no decides: is there a text at all, is it a sequence of tokens in any way whatever, is
it one token or three of them, and do these stand where they may.

* `FallsInto` — the longest tokens that a text consists of behind its negation mark;
* `Disorder` — what is wrong with the tokens of a text;
* `Diagnosis` — what is wrong with a text;
* `diagnosed_of_parse` — a refusal names its text and is of the category that is diagnosed, which is
  the only one.

The second question is about every way to cut the text, whereas the reader tries one. That it asks
no less is `segmentable_iff`.
-/

namespace GatedPrompt.Rule

open Text (Points)

/-! ## The questions -/

/-- A text behind the negation mark at its front, if it has one there. -/
def unmarked (cs : Points) : Points := if cs.head? = some (.char '!') then cs.tail else cs

/-- Behind its negation mark a text is these tokens, each the longest at its place. -/
def FallsInto (text : Text) (ls : List Lexeme) : Prop :=
  written ls = unmarked text.points ∧ MaximalMunch ls []

namespace Lexeme

def IsComparison : Lexeme → Prop
  | comparison _ _ => True
  | _ => False

/-- What is wrong with an operand of a comparison: switches and actors may stand on no side of it,
and another comparison is blamed by its side. -/
def offence? (side : Side) : Lexeme → Option Category
  | reference .switch _ => some .illegalOperandPosition
  | reference .actor _ => some .illegalOperandPosition
  | comparison _ _ =>
    match side with
    | .left => some .invalidFirstOperand
    | .right => some .invalidSecondOperand
  | _ => none

end Lexeme

/-- What is wrong with the tokens of a text that is refused. -/
inductive Disorder : List Lexeme → Category → Prop where
  /-- They are neither one nor three. -/
  | count {ls : List Lexeme} : ls.length ≠ 1 → ls.length ≠ 3 → Disorder ls .tokenCount
  /-- There is only one, and as the text is refused it is no condition. -/
  | alone {l : Lexeme} : Disorder [l] .invalidFirstOperand
  /-- No comparison stands in the middle, whatever stands beside it. -/
  | operator {left middle right : Lexeme} :
      ¬middle.IsComparison → Disorder [left, middle, right] .invalidOperator
  /-- The left operand is wrong, whatever the right one is. -/
  | left {left middle right : Lexeme} {category : Category} :
      middle.IsComparison → left.offence? .left = some category →
        Disorder [left, middle, right] category
  /-- The left operand is right, and the other one is wrong. -/
  | right {left middle right : Lexeme} {category : Category} :
      middle.IsComparison → left.offence? .left = none → right.offence? .right = some category →
        Disorder [left, middle, right] category

/-- What is wrong with a text that is refused. -/
inductive Diagnosis (text : Text) : Category → Prop where
  | empty : text.points = [] → Diagnosis text .emptyRule
  /-- In no way is the text a sequence of tokens. -/
  | characters :
      text.points ≠ [] → ¬Segmentable (unmarked text.points) → Diagnosis text .unexpectedCharacters
  | tokens {ls : List Lexeme} {category : Category} :
      text.points ≠ [] → FallsInto text ls → Disorder ls category → Diagnosis text category

/-! ## No text has two diagnoses -/

section

variable {text : Text} {ls ls' : List Lexeme} {category category' : Category}

theorem FallsInto.unique (h : FallsInto text ls) (h' : FallsInto text ls') : ls = ls' := by
  have hmunched : Munched ls [] := munched_iff_maximalMunch.2 h.2
  have hmunched' : Munched ls' [] := munched_iff_maximalMunch.2 h'.2
  have hwritten : written ls ++ [] = written ls' ++ [] := by rw [h.1, h'.1]
  exact (hmunched.unique hmunched' rfl rfl hwritten).1

theorem FallsInto.segmentable (h : FallsInto text ls) : Segmentable (unmarked text.points) :=
  segmentable_iff.2 ⟨ls, h⟩

theorem Disorder.unique (h : Disorder ls category) (h' : Disorder ls category') :
    category = category' := by
  -- Three tokens can be wrong in three ways, each of which rules out the ones before it.
  cases h with
  | count hone hthree =>
    cases h' with
    | count => rfl
    | alone => exact absurd rfl hone
    | _ => exact absurd rfl hthree
  | alone =>
    cases h' with
    | count hone => exact absurd rfl hone
    | alone => rfl
  | operator hnot =>
    cases h' with
    | count _ hthree => exact absurd rfl hthree
    | operator => rfl
    | left hmiddle => exact absurd hmiddle hnot
    | right hmiddle => exact absurd hmiddle hnot
  | left hmiddle hoffence =>
    cases h' with
    | count _ hthree => exact absurd rfl hthree
    | operator hnot => exact absurd hmiddle hnot
    | left _ hoffence' => exact Option.some.inj (hoffence.symm.trans hoffence')
    | right _ hnone => exact absurd (hoffence.symm.trans hnone) (Option.some_ne_none _)
  | right hmiddle hnone hoffence =>
    cases h' with
    | count _ hthree => exact absurd rfl hthree
    | operator hnot => exact absurd hmiddle hnot
    | left _ hoffence' => exact absurd (hoffence'.symm.trans hnone) (Option.some_ne_none _)
    | right _ _ hoffence' => exact Option.some.inj (hoffence.symm.trans hoffence')

theorem Diagnosis.unique (h : Diagnosis text category) (h' : Diagnosis text category') :
    category = category' := by
  cases h with
  | empty hnil =>
    cases h' with
    | empty => rfl
    | characters hne => exact absurd hnil hne
    | tokens hne => exact absurd hnil hne
  | characters hne hnot =>
    cases h' with
    | empty hnil => exact absurd hnil hne
    | characters => rfl
    | tokens _ hfalls => exact absurd hfalls.segmentable hnot
  | tokens hne hfalls hdisorder =>
    cases h' with
    | empty hnil => exact absurd hnil hne
    | characters _ hnot => exact absurd hfalls.segmentable hnot
    | tokens _ hfalls' hdisorder' =>
      obtain rfl := hfalls.unique hfalls'
      exact hdisorder.unique hdisorder'

end

/-! ## The defects of tokens -/

section

variable {ls : List Lexeme} {left middle right l : Lexeme} {defect : Defect}

/-- An operand is blamed for its offence. -/
theorem category_operandDefect? (side : Side) (l : Lexeme) :
    (operandDefect? side l.asToken).map Defect.category = l.offence? side := by
  cases l with
  | reference kind digits => rcases kind with _ | _ | _ | _ <;> rfl
  | gold => rfl
  | comparison spelling c => cases side <;> rfl
  | literal sign digits => rfl

theorem disorder_of_conditionOf (h : conditionOf l.asToken = .error defect) :
    Disorder [l] defect.category := by
  have hdefect : defect = .cannotStandAlone l.asToken.text := by
    unfold conditionOf at h
    split at h
    · exact (Except.error.inj h).symm
    · cases h
    · exact (Except.error.inj h).symm
  rw [hdefect]
  exact .alone

/-- Tokens that state no relation are blamed from the middle over the left to the right. -/
theorem disorder_of_relationOf
    (h : relationOf left.asToken middle.asToken right.asToken = .error defect) :
    Disorder [left, middle, right] defect.category := by
  cases middle with
  | comparison spelling c =>
    have hleft := category_operandDefect? .left left
    have hright := category_operandDefect? .right right
    rw [relationOf, show (Lexeme.comparison spelling c).asToken.symbol = .comparison c from rfl] at h
    simp only at h
    split at h
    · next found hfound =>
      -- the left operand is blamed, and what is on the right was not looked at
      obtain rfl : found = defect := Except.error.inj h
      rw [hfound] at hleft
      exact .left trivial hleft.symm
    · next found hnone hfound =>
      obtain rfl : found = defect := Except.error.inj h
      rw [hnone] at hleft
      rw [hfound] at hright
      exact .right trivial hleft.symm hright.symm
    · cases h
  -- Whatever else is in the middle is blamed itself.
  | _ =>
    obtain rfl := Except.error.inj h
    exact .operator not_false

theorem disorder_of_statementOf (h : statementOf (ls.map Lexeme.asToken) = .error defect) :
    Disorder ls defect.category := by
  match ls, h with
  | [], h =>
    obtain rfl := Except.error.inj h
    exact .count (by simp) (by simp)
  | [_], h => exact disorder_of_conditionOf h
  | [_, _], h =>
    obtain rfl := Except.error.inj h
    exact .count (by simp) (by simp)
  | [_, _, _], h => exact disorder_of_relationOf h
  | _ :: _ :: _ :: _ :: _, h =>
    obtain rfl := Except.error.inj h
    exact .count (by simp) (by simp)

end

/-! ## The defect of a text is the one that is diagnosed -/

section

variable {text : Text} {negated : Bool} {ls : List Lexeme} {rest : Points}

theorem Lexed.unmarked_eq (h : Lexed text.points negated ls rest) :
    unmarked text.points = written ls ++ rest := by
  cases negated with
  | true =>
    rw [unmarked, if_pos (h.negated_iff.1 rfl), h.points_eq]
    rfl
  | false =>
    have hmark : ¬text.points.head? = some (.char '!') := by
      rw [← h.negated_iff]
      exact Bool.false_ne_true
    rw [unmarked, if_neg hmark]
    exact h.points_eq

/-- Something is left behind the tokens only if the text is no sequence of tokens at all. -/
theorem Lexed.segmentable_unmarked_iff (h : Lexed text.points negated ls rest) :
    Segmentable (unmarked text.points) ↔ rest = [] := by
  rw [segmentable_iff, h.unmarked_eq]
  constructor
  · rintro ⟨ls', hwritten, hmunch⟩
    -- longest tokens are found in one way only, and these leave nothing
    have heq : written ls ++ rest = written ls' ++ [] := by rw [List.append_nil, hwritten]
    exact (h.munched.unique (munched_iff_maximalMunch.2 hmunch) h.stuck rfl heq).2
  · rintro rfl
    exact ⟨ls, (List.append_nil _).symm, munched_iff_maximalMunch.1 h.munched⟩

theorem Lexed.fallsInto (h : Lexed text.points negated ls []) : FallsInto text ls := by
  refine ⟨?_, munched_iff_maximalMunch.1 h.munched⟩
  rw [h.unmarked_eq, List.append_nil]

/-- The defect that parsing finds is diagnosed. -/
theorem diagnosis_of_parse {defect : Defect} (hshort : ShortNumerals text.points)
    (h : parse text = .error (.malformed ⟨text, defect⟩)) : Diagnosis text defect.category := by
  obtain ⟨negated, ls, rest, hlexed⟩ := exists_lexed text.points
  rw [hlexed.parse_eq hshort] at h
  -- The questions are asked in the order in which the parser gives up.
  by_cases hnil : text.points = []
  · rw [if_pos hnil] at h
    obtain rfl : Defect.empty = defect := by simpa using h
    exact .empty hnil
  rw [if_neg hnil] at h
  by_cases hrest : rest = []
  · subst hrest
    rw [if_pos rfl] at h
    cases hstatement : statementOf (ls.map Lexeme.asToken) with
    | ok statement => simp [hstatement] at h
    | error found =>
      obtain rfl : found = defect := by simpa [hstatement] using h
      exact .tokens hnil hlexed.fallsInto (disorder_of_statementOf hstatement)
  · rw [if_neg hrest] at h
    obtain rfl : Defect.unreadable ⟨rest⟩ = defect := by simpa using h
    exact .characters hnil (mt hlexed.segmentable_unmarked_iff.1 hrest)

/-- **A refusal by diagnosis.** A text that cannot be parsed is blamed itself, never for a reference
that cannot be resolved, and of all the categories its defect has the one that is diagnosed. -/
theorem diagnosed_of_parse {refusal : Refusal} (hshort : ShortNumerals text.points)
    (h : parse text = .error refusal) :
    ∃ defect, refusal = .malformed ⟨text, defect⟩ ∧ defect.category ≠ .unresolvedReference ∧
      ∀ category, Diagnosis text category ↔ category = defect.category := by
  obtain ⟨defect, rfl⟩ := exists_malformed_of_parse hshort h
  have hdiagnosis : Diagnosis text defect.category := diagnosis_of_parse hshort h
  refine ⟨defect, rfl, category_ne_of_parse h, ?_⟩
  intro category
  constructor
  · intro hcategory
    exact hcategory.unique hdiagnosis
  · rintro rfl
    exact hdiagnosis

/-- Four comparison signs in a row are two tokens, the longest one first, so what looks like a
comparison of two things is four tokens. -/
theorem diagnosed_four_signs :
    ShortNumerals (Text.points "!i[1]====w[2]") ∧
      ∃ defect, parse "!i[1]====w[2]" = .error (.malformed ⟨"!i[1]====w[2]", defect⟩) ∧
        defect.category = .tokenCount ∧ Diagnosis "!i[1]====w[2]" .tokenCount := by
  have hshort : ShortNumerals (Text.points "!i[1]====w[2]") :=
    shortNumerals_of_length_le (by decide)
  -- the tokens are `i[1]`, `===`, `=` and `w[2]`
  have hparse : parse "!i[1]====w[2]" =
      .error (.malformed ⟨"!i[1]====w[2]", .tokenCount 4⟩) := by
    decide +kernel
  obtain ⟨defect, hrefusal, -, hiff⟩ := diagnosed_of_parse hshort hparse
  obtain rfl : Defect.tokenCount 4 = defect := by simpa using hrefusal
  exact ⟨hshort, _, hparse, rfl, (hiff _).2 rfl⟩

end

end GatedPrompt.Rule
