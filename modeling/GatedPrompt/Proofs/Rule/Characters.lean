import Mathlib.Data.List.Basic
import GatedPrompt.Proofs.Rule.Grammar

/-!
# The characters of rules

A rule text shares characters with the markup around it: `<` and `>` are comparisons and parts of
marks, and many rules end in a bracket. What keeps the two apart is counted here.

* `IsRule` — a text that is parsed as a rule, whatever the rule. It is written in a form
  (`IsRule.exists_form`);
* `IsRule.count_le_one` — the angle brackets and parentheses that marks double occur at most once;
* `IsRule.comma_not_mem` — the separator of rules does not occur at all.

Numerals may be of any length here, since a text with one that is too long is not parsed.
-/

namespace GatedPrompt.Rule

open Text (Points isDigit)

/-- A text that is parsed as a rule. -/
def IsRule (text : Text) : Prop := ∃ rule, parse text = .ok rule

theorem IsRule.exists_form {text : Text} (h : IsRule text) : ∃ form : Form, form.Writes text := by
  obtain ⟨rule, hparse⟩ := h
  obtain ⟨form, hwrites, -⟩ := exists_form_of_parse hparse
  exact ⟨form, hwrites⟩

/-! ## Counting characters -/

/-- The characters that the marks around rules double. -/
def fences : List Char := ['<', '>', '(', ')']

/-- The characters of operands that are no digits. -/
def operandChars : List Char := ['s', 'v', 'p', 'i', 'w', 'a', 'g', '[', ']', '+', '-']

namespace Lexeme

variable {l : Lexeme} {c : Char}

theorem mem_operandChars (hl : l.IsWritten) (hoperand : l.IsCondition ∨ l.IsValue)
    (hmem : .char c ∈ l.points) : isDigit (.char c) = true ∨ c ∈ operandChars := by
  cases l with
  | reference kind digits =>
    rcases List.mem_append.1 hmem with hmem | hmem
    · rcases List.mem_cons.1 hmem with hletter | hmem
      · obtain rfl : c = letter kind := by simpa using hletter
        right
        rcases kind with _ | _ | _ | _ | _ | _ <;> decide
      · rcases List.mem_cons.1 hmem with hbracket | hmem
        · obtain rfl : c = '[' := by simpa using hbracket
          exact .inr (by decide)
        · exact .inl (hl.isDigit _ hmem)
    · obtain rfl : c = ']' := by simpa using hmem
      exact .inr (by decide)
  | gold =>
    obtain rfl : c = 'g' := by simpa [points] using hmem
    exact .inr (by decide)
  | comparison spelling c' => rcases hoperand with h | h <;> cases h
  | literal sign digits =>
    rcases List.mem_append.1 hmem with hmem | hmem
    · right
      rcases sign with _ | _ | _
      · cases hmem
      · obtain rfl : c = '+' := by simpa [Text.Sign.point] using hmem
        decide
      · obtain rfl : c = '-' := by simpa [Text.Sign.point] using hmem
        decide
    · exact .inl (hl.isDigit _ hmem)

theorem count_operand (hl : l.IsWritten) (hoperand : l.IsCondition ∨ l.IsValue)
    (hc : c ∈ ',' :: fences) : l.points.count (.char c) = 0 := by
  rw [List.count_eq_zero]
  intro hmem
  have hother : ∀ c ∈ ',' :: fences, ¬(isDigit (.char c) = true ∨ c ∈ operandChars) := by
    rw [← List.forall_iff_forall_mem]
    decide
  exact hother c hc (mem_operandChars hl hoperand hmem)

end Lexeme

/-- A text in a form holds such a character no more often than a comparison does. -/
theorem Form.Writes.count_le {form : Form} {text : Text} (h : form.Writes text) {c : Char}
    (hc : c ∈ ',' :: fences) {n : Nat}
    (hn : ∀ entry ∈ Comparison.spellings, (Text.ofString entry.1).points.count (.char c) ≤ n) :
    text.points.count (.char c) ≤ n := by
  -- Neither the mark nor an operand holds the character, so only a comparison is left.
  have hmark : (mark form.negated).count (.char c) = 0 := by
    have hne : c ≠ '!' := by
      rintro rfl
      exact absurd hc (by decide)
    cases form.negated <;> simp [mark, Ne.symm hne]
  obtain ⟨hgrammatical, hpoints⟩ := h
  rw [hpoints, Form.points, List.count_append, hmark]
  cases form with
  | condition negated operand =>
    have hoperand := Lexeme.count_operand hgrammatical.1 (.inl hgrammatical.2) hc
    simp [Form.lexemes, hoperand]
  | relation negated left spelling comparison right =>
    obtain ⟨⟨hleft, hleftValue⟩, hspelled, hright, hrightValue⟩ := hgrammatical
    have hcountLeft := Lexeme.count_operand hleft (.inr hleftValue) hc
    have hcountRight := Lexeme.count_operand hright (.inr hrightValue) hc
    have hspelling := hn (spelling, comparison) (Lexeme.mem_spellings_iff.2 hspelled)
    simp only [Form.lexemes, written_cons, written_nil, List.append_nil, List.count_append,
      hcountLeft, hcountRight]
    simpa [Lexeme.points] using hspelling

namespace IsRule

variable {text : Text}

/-- **A rule text holds no character twice that the marks around rules double.** -/
theorem count_le_one (h : IsRule text) {c : Char} (hc : c ∈ fences) :
    text.points.count (.char c) ≤ 1 := by
  obtain ⟨form, hwrites⟩ := h.exists_form
  have hspellings : ∀ c ∈ fences, ∀ entry ∈ Comparison.spellings,
      (Text.ofString entry.1).points.count (.char c) ≤ 1 := by
    rw [← List.forall_iff_forall_mem]
    decide
  exact hwrites.count_le (List.mem_cons_of_mem _ hc) (hspellings c hc)

theorem comma_not_mem (h : IsRule text) : .char ',' ∉ text.points := by
  obtain ⟨form, hwrites⟩ := h.exists_form
  rw [← List.count_eq_zero, ← Nat.le_zero]
  exact hwrites.count_le List.mem_cons_self (by decide)

theorem points_ne_nil (h : IsRule text) : text.points ≠ [] := by
  obtain ⟨form, hwrites⟩ := h.exists_form
  exact hwrites.points_ne_nil

end IsRule

end GatedPrompt.Rule
