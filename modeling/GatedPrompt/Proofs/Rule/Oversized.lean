import GatedPrompt.Proofs.Rule.Meaning

/-!
# Numerals that are too long

A rule with a numeral of too many digits is not malformed: it is refused in a way of its own, which
no policy covers. Tokens are read one after the other, so the numeral is noticed before anything
that is wrong behind it, be it unreadable characters or a token too many.

* `Lexeme.IsOverlong` — a token with such a numeral;
* `Overlong` — a text with such a token among those it falls into;
* `parse_oversized_iff`, `evaluate_oversized_iff` — just these texts are refused so, in every state:
  ids that are read are not below zero, and the id zero is short enough to be written;
* `overlong_comparison` — a text of the grammar that is refused so.
-/

namespace GatedPrompt.Rule

open Text (Points isDigit)

namespace Lexeme

/-- The digits in a token. -/
def digits : Lexeme → Points
  | reference _ digits => digits
  | literal _ digits => digits
  | _ => []

/-- The numeral of a token has too many digits. -/
def IsOverlong (l : Lexeme) : Prop := Text.digitLimit < l.digits.length

theorem token_fails_iff (l : Lexeme) : (∃ fault, l.token = .error fault) ↔ l.IsOverlong := by
  have hread : ∀ digits : Points,
      (∃ fault, Text.readNatural digits = .error fault) ↔ Text.digitLimit < digits.length := by
    intro digits
    simp [Text.readNatural_eq_error_iff]
  cases l with
  | reference kind digits =>
    rw [IsOverlong, Lexeme.digits, ← hread, token, symbol]
    cases Text.readNatural digits <;> simp
  | gold => simp [IsOverlong, Lexeme.digits, token, symbol]
  | comparison spelling c => simp [IsOverlong, Lexeme.digits, token, symbol]
  | literal sign digits =>
    rw [IsOverlong, Lexeme.digits, ← hread, token, symbol]
    cases Text.readNatural digits <;> simp

end Lexeme

/-- A text falls into tokens of which one has a numeral that is too long. -/
def Overlong (text : Text) : Prop :=
  ∃ negated ls rest, Lexed text.points negated ls rest ∧ ∃ l ∈ ls, l.IsOverlong

/-! ## Parsing -/

section

variable {text : Text} {negated : Bool} {ls : List Lexeme} {rest : Points}

/-- What stops the reader behind the last token is no numeral. -/
theorem tokens_ne_oversized_of_stuck (hstuck : Lexeme.next? rest = none) (fault : Text.Oversized) :
    tokens rest ≠ .error (.oversized fault) := by
  intro h
  cases rest with
  | nil => simp [tokens] at h
  | cons p rest =>
    rw [tokens_of_stuck hstuck] at h
    cases h

theorem tokens_oversized_iff (h : Munched ls rest) (hstuck : Lexeme.next? rest = none) :
    (∃ fault, tokens (written ls ++ rest) = .error (.oversized fault)) ↔
      ∃ l ∈ ls, l.IsOverlong := by
  induction ls with
  | nil =>
    constructor
    · rintro ⟨fault, hfault⟩
      exact absurd hfault (tokens_ne_oversized_of_stuck hstuck fault)
    · rintro ⟨l, hl, -⟩
      cases hl
  | cons l ls ih =>
    have hnext := Lexeme.next?_append h.1 h.2.1
    simp only [List.mem_cons, exists_eq_or_imp]
    rw [written_cons, List.append_assoc, tokens_of_next? hnext, ← ih h.2.2,
      ← Lexeme.token_fails_iff]
    cases l.token with
    | error fault => simp
    | ok token =>
      -- the numeral is in one of the tokens behind this one
      cases tokens (written ls ++ rest) with
      | error obstacle => simp
      | ok others => simp

theorem Lexed.parse_oversized_iff (h : Lexed text.points negated ls rest) (fault : Text.Oversized) :
    parse text = .error (.oversized fault) ↔
      tokens (written ls ++ rest) = .error (.oversized fault) := by
  have hsplit : splitNegation text.points = (negated, written ls ++ rest) := h.splitNegation_eq
  unfold parse tokenize
  cases hpoints : text.points with
  | nil =>
    have hempty : written ls ++ rest = [] := by
      rw [h.points_eq] at hpoints
      exact (List.append_eq_nil_iff.1 hpoints).2
    rw [hempty]
    simp [tokens]
  | cons p cs =>
    rw [hpoints] at hsplit
    simp only [hsplit]
    cases tokens (written ls ++ rest) with
    | error obstacle => cases obstacle <;> simp [Obstacle.refusal]
    | ok ts =>
      simp only
      cases statementOf ts <;> simp

/-- **The texts that are refused for a numeral.** -/
theorem parse_oversized_iff :
    (∃ fault, parse text = .error (.oversized fault)) ↔ Overlong text := by
  obtain ⟨negated, ls, rest, hlexed⟩ := exists_lexed text.points
  have hls : Overlong text ↔ ∃ l ∈ ls, l.IsOverlong := by
    constructor
    · rintro ⟨negated', ls', rest', hlexed', hlong⟩
      obtain ⟨-, rfl, -⟩ := hlexed.unique hlexed'
      exact hlong
    · intro hlong
      exact ⟨negated, ls, rest, hlexed, hlong⟩
  rw [hls, ← tokens_oversized_iff hlexed.munched hlexed.stuck]
  exact exists_congr fun fault => hlexed.parse_oversized_iff fault

/-- The state of a game has no part in that: whatever a parsed text states has an answer, or names
the id zero. -/
theorem evaluate_oversized_iff (state : Game.State) :
    (∃ fault, evaluate state text = .error (.oversized fault)) ↔ Overlong text := by
  rw [← parse_oversized_iff, evaluate]
  cases hparse : parse text with
  | error refusal => simp
  | ok rule =>
    obtain ⟨form, hwrites, rfl⟩ := exists_form_of_parse hparse
    have hstatement : form.rule.statement = form.statement := rfl
    simp only [holds, hstatement]
    obtain ⟨kind, -, h⟩ | ⟨-, truth, h, -⟩ := (statement_answers state hwrites.grammatical).cases
    · simp [h, Except.mapError, Unresolved.refusal]
    · simp [h, Except.mapError]

theorem ShortNumerals.not_overlong (h : ShortNumerals text.points) : ¬Overlong text := by
  rw [← parse_oversized_iff]
  rintro ⟨fault, hfault⟩
  obtain ⟨defect, hdefect⟩ := exists_malformed_of_parse h hfault
  cases hdefect

end

/-- Gold is compared with a number that is too long: a text of the grammar, but for the limit. -/
theorem overlong_comparison {digits : Points} (hdigits : ∀ p ∈ digits, isDigit p = true)
    (hlong : Text.digitLimit < digits.length) :
    Overlong ⟨.char 'g' :: .char '>' :: digits⟩ := by
  have hne : digits ≠ [] := by
    rintro rfl
    simp at hlong
  have hends : (Lexeme.comparison ">" .greater).Ends digits := by
    intro hhead
    have hequals : isDigit (.char '=') = true := hdigits _ (List.mem_of_mem_head? hhead)
    exact absurd hequals (by decide)
  refine ⟨false, [.gold, .comparison ">" .greater, .literal none digits], [],
    ⟨?_, ?_, ?_, rfl⟩, .literal none digits, by simp, hlong⟩
  · simp [mark, written, Lexeme.points, Text.ofString, Text.ofChars]
  · simp
  · refine ⟨trivial, trivial, List.mem_singleton_self _, ?_, ⟨hne, hdigits⟩, ?_, trivial⟩
    · simpa [written, Lexeme.points] using hends
    · simp [written, Lexeme.Ends]

end GatedPrompt.Rule
