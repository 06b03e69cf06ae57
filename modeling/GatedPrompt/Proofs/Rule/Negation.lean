import GatedPrompt.Proofs.Rule.Oversized
import GatedPrompt.Proofs.Rule.Respelling

/-!
# The negation mark

An exclamation mark in front of a rule turns its answer around and leaves everything that is wrong
with it as it was, down to the wording. A second mark is no negation of the first: it can only begin
a comparison, and no rule begins with one.

* `evaluate_eq_of_split` — what is answered to a text, by the mark in front of it and what is behind
  the mark;
* `evaluate_mark_append` — what is answered to a text behind the mark, by what is answered to it
  without the mark;
* `Complements` — two texts that have opposite answers or are refused for the same;
* `NoRule` — a text that is no rule and is refused as such;
* `complementary` — the mark complements a text without one, and two marks make no rule.
-/

namespace GatedPrompt.Rule

open Text (Points)

section

variable {state : Game.State} {text : Text} {negated : Bool} {body : Points}

/-- **What is answered to a text**, by the mark in front of it and what is behind the mark. -/
theorem evaluate_eq_of_split (state : Game.State) (hne : text.points ≠ [])
    (hsplit : splitNegation text.points = (negated, body)) :
    evaluate state text =
      match tokens body with
      | .error obstacle => .error (obstacle.refusal text)
      | .ok ts => (verdict state negated ts).mapError (Unresolved.refusal text) := by
  have htokenize : tokenize text =
      match tokens body with
      | .error obstacle => .error (obstacle.refusal text)
      | .ok ts => .ok (ts, negated) := by
    unfold tokenize
    split
    · next hnil => exact absurd hnil hne
    · cases htokens : tokens body with
      | error obstacle => simp only [hsplit, htokens]
      | ok ts => simp only [hsplit, htokens]
  rw [evaluate, parse, htokenize]
  cases tokens body with
  | error obstacle => rfl
  | ok ts =>
    simp only [verdict]
    cases statementOf ts with
    | error defect => rfl
    | ok statement =>
      simp only [holds, Except.bind, Except.mapError]
      cases statement.holds state <;> rfl

/-! ## One mark -/

/-- The mark is heeded last, when there is a truth value to turn around. -/
theorem verdict_true_eq (state : Game.State) (ts : List Token) :
    verdict state true ts = (verdict state false ts).map not := by
  simp only [verdict]
  cases statementOf ts with
  | error defect => rfl
  | ok statement =>
    simp only [Except.bind, Except.mapError]
    cases statement.holds state with
    | error defect => rfl
    | ok truth => cases truth <;> rfl

/-- The refusal of another text for the same. -/
def Refusal.ofOther (other : Text) : Refusal → Refusal
  | malformed report => malformed ⟨other, report.defect⟩
  | oversized fault => oversized fault

/-- **What is answered to a text behind the mark.** -/
theorem evaluate_mark_append (state : Game.State) (hne : text.points ≠ [])
    (hunmarked : text.points.head? ≠ some (.char '!')) :
    evaluate state ("!" ++ text) =
      ((evaluate state text).map not).mapError (Refusal.ofOther ("!" ++ text)) := by
  have hmarked : splitNegation (Text.points ("!" ++ text)) = (true, text.points) := rfl
  have hplain : splitNegation (mark false ++ text.points) = (false, text.points) :=
    splitNegation_eq fun hmark => absurd hmark hunmarked
  -- the tokens behind the mark are those of the text, so that both fail in the same place
  rw [evaluate_eq_of_split state (by simp [Text.ofString, Text.ofChars]) hmarked,
    evaluate_eq_of_split state hne hplain]
  cases tokens text.points with
  | error obstacle => cases obstacle <;> rfl
  | ok ts =>
    simp only [verdict_true_eq]
    cases verdict state false ts with
    | error unresolved => cases unresolved <;> rfl
    | ok truth => rfl

/-- The answers to two texts are opposite, or what is wrong with one is wrong with the other. -/
structure Complements (state : Game.State) (text other : Text) : Prop where
  malformed_iff : (∃ report, evaluate state other = .error (.malformed report)) ↔
    ∃ report, evaluate state text = .error (.malformed report)
  same_diagnosis : ∀ report report', evaluate state text = .error (.malformed report) →
    evaluate state other = .error (.malformed report') →
      report'.defect.category = report.defect.category ∧
        report'.defect.detail = report.defect.detail
  opposite : ∀ truth, evaluate state text = .ok truth → evaluate state other = .ok !truth
  /-- There is a truth value unless the text is malformed or some numeral in it is too long. -/
  exists_truth : (∀ report, evaluate state text ≠ .error (.malformed report)) →
    ¬Overlong text → ∃ truth, evaluate state text = .ok truth

theorem complements_mark_append (hne : text.points ≠ [])
    (hunmarked : text.points.head? ≠ some (.char '!')) :
    Complements state text ("!" ++ text) := by
  have hmark := evaluate_mark_append state hne hunmarked
  have hlong : (∃ fault, evaluate state text = .error (.oversized fault)) ↔ Overlong text :=
    evaluate_oversized_iff state
  cases hvalue : evaluate state text with
  | ok truth =>
    rw [hvalue] at hmark
    exact ⟨by simp [hmark, hvalue, Except.map, Except.mapError], by simp [hvalue],
      by simp [hmark, hvalue, Except.map, Except.mapError], fun _ _ => ⟨truth, hvalue⟩⟩
  | error refusal =>
    rw [hvalue] at hmark hlong
    cases refusal with
    | malformed report =>
      have hother : evaluate state ("!" ++ text) =
          .error (.malformed ⟨"!" ++ text, report.defect⟩) := hmark
      refine ⟨by simp [hother, hvalue], ?_, by simp [hvalue], fun hnone => ?_⟩
      · intro report' report'' h h'
        obtain rfl : report = report' := by simpa [hvalue] using h
        obtain rfl : ⟨"!" ++ text, report.defect⟩ = report'' := by simpa [hother] using h'
        exact ⟨rfl, rfl⟩
      · exact absurd hvalue (hnone report)
    | oversized fault =>
      have hother : evaluate state ("!" ++ text) = .error (.oversized fault) := hmark
      exact ⟨by simp [hother, hvalue], by simp [hvalue], by simp [hvalue],
        fun _ hshort => absurd (hlong.1 ⟨fault, rfl⟩) hshort⟩

end

/-! ## Two marks -/

section

variable {state : Game.State} {text : Text}

/-- What starts with an exclamation mark and is a token is a comparison. -/
theorem Lexeme.exists_comparison_of_next? {l : Lexeme} {cs rest : Points}
    (h : Lexeme.next? (.char '!' :: cs) = some (l, rest)) :
    ∃ spelling c, l = .comparison spelling c := by
  obtain ⟨heq, hwritten, -⟩ := Lexeme.next?_eq_some_iff.1 h
  obtain ⟨p, ps, hpoints, hstarts⟩ := Lexeme.exists_starts hwritten
  obtain rfl : .char '!' = p := by
    rw [hpoints] at heq
    exact (List.cons.inj heq).1
  cases l with
  | comparison spelling c => exact ⟨spelling, c, rfl⟩
  | reference kind digits => rcases kind with _ | _ | _ | _ | _ | _ <;> cases hstarts
  | gold => cases hstarts
  | literal sign digits => exact absurd rfl (ne_char_of_starts_literal hstarts (by decide))

/-- Nothing is stated by tokens of which the first is a comparison. -/
theorem exists_defect_of_comparison {token : Token} {c : Comparison}
    (h : token.symbol = .comparison c) (ts : List Token) :
    ∃ defect, statementOf (token :: ts) = .error defect := by
  match ts with
  | [] => exact ⟨.cannotStandAlone token.text, by simp [statementOf, conditionOf, h]⟩
  | [middle, right] =>
    have hleft : operandDefect? .left token = some (.notAnOperand .left token.text) := by
      simp [operandDefect?, h]
    simp only [statementOf, relationOf, hleft]
    cases middle.symbol <;> exact ⟨_, rfl⟩
  | [_] => exact ⟨_, rfl⟩
  | _ :: _ :: _ :: _ => exact ⟨_, rfl⟩

/-- A text that is no rule: it is written in no form, has no truth value, and is refused as
malformed unless some numeral in it is too long. -/
structure NoRule (state : Game.State) (text : Text) : Prop where
  ungrammatical : ∀ form : Form, ¬form.Writes text
  unanswered : ∀ truth, evaluate state text ≠ .ok truth
  malformed_iff : (∃ defect, evaluate state text = .error (.malformed ⟨text, defect⟩)) ↔
    ¬Overlong text
  malformed_of_short : ShortNumerals text.points →
    ∃ defect, evaluate state text = .error (.malformed ⟨text, defect⟩)

theorem Form.Writes.not_two_marks {form : Form} (h : form.Writes text) {rest : Points} :
    text.points ≠ .char '!' :: .char '!' :: rest := by
  intro hmarks
  have hnegated : form.negated = true := h.lexed.negated_of_mark (by rw [hmarks]; rfl)
  have hwritten : written form.lexemes = .char '!' :: rest := by
    have heq := h.points_eq
    rw [hmarks, Form.points, hnegated] at heq
    exact (List.cons.inj heq).2.symm
  -- behind the mark there is an operand, which does not start with another one
  obtain ⟨l, ls, hl, hl', hoperand⟩ := h.grammatical.exists_operand
  obtain ⟨p, ps, hp, -, hne⟩ := Lexeme.exists_starts_operand hl' hoperand
  rw [hl, written_cons, hp] at hwritten
  exact hne (List.cons.inj hwritten).1

theorem noRule_of_two_marks {rest : Points} (h : text.points = .char '!' :: .char '!' :: rest) :
    NoRule state text := by
  have hne : text.points ≠ [] := by simp [h]
  have hsplit : splitNegation text.points = (true, .char '!' :: rest) := by
    rw [h]
    rfl
  have hvalue := evaluate_eq_of_split state hne hsplit
  -- the text is refused where its first token should be, or for it once all tokens are read
  have hrefused : (∃ defect, evaluate state text = .error (.malformed ⟨text, defect⟩)) ∨
      ∃ fault, evaluate state text = .error (.oversized fault) := by
    cases hnext : Lexeme.next? (.char '!' :: rest) with
    | none =>
      rw [tokens_of_stuck hnext] at hvalue
      exact .inl ⟨_, hvalue⟩
    | some found =>
      obtain ⟨l, behind⟩ := found
      obtain ⟨spelling, c, rfl⟩ := Lexeme.exists_comparison_of_next? hnext
      have htoken : (Lexeme.comparison spelling c).token =
          .ok (Lexeme.comparison spelling c).asToken := rfl
      have hsymbol : (Lexeme.comparison spelling c).asToken.symbol = .comparison c := rfl
      rw [tokens_of_next? hnext, htoken] at hvalue
      cases htokens : tokens behind with
      | error obstacle =>
        rw [htokens] at hvalue
        cases obstacle with
        | unreadable rest => exact .inl ⟨_, hvalue⟩
        | oversized fault => exact .inr ⟨fault, hvalue⟩
      | ok ts =>
        rw [htokens] at hvalue
        obtain ⟨defect, hdefect⟩ := exists_defect_of_comparison hsymbol ts
        simp only [verdict, hdefect] at hvalue
        exact .inl ⟨defect, hvalue⟩
  have hlong : (∃ fault, evaluate state text = .error (.oversized fault)) ↔ Overlong text :=
    evaluate_oversized_iff state
  have hiff : (∃ defect, evaluate state text = .error (.malformed ⟨text, defect⟩)) ↔
      ¬Overlong text := by
    rw [← hlong]
    constructor
    · rintro ⟨defect, hdefect⟩ ⟨fault, hfault⟩
      cases hdefect.symm.trans hfault
    · exact hrefused.resolve_right
  refine ⟨fun form hwrites => hwrites.not_two_marks h, fun truth htruth => ?_, hiff,
    fun hshort => hiff.2 hshort.not_overlong⟩
  rcases hrefused with ⟨defect, hdefect⟩ | ⟨fault, hfault⟩
  · cases htruth.symm.trans hdefect
  · cases htruth.symm.trans hfault

end

/-! ## All that is promised -/

/-- **Negation is complement.** In every state, the mark in front of a text without one turns its
answer around and changes no diagnosis; and no text with two marks in front is a rule. -/
theorem complementary (state : Game.State) :
    (∀ text : Text, text.points ≠ [] → text.points.head? ≠ some (.char '!') →
      Complements state text ("!" ++ text)) ∧
    ∀ text : Text, [.char '!', .char '!'] <+: text.points → NoRule state text := by
  refine ⟨fun text => complements_mark_append, ?_⟩
  rintro text ⟨rest, hrest⟩
  exact noRule_of_two_marks hrest.symm

/-- A mark in front of an operand that an unequal sign follows, and one in front of such a sign. -/
theorem complementary_unequal :
    let state : Game.State := { gold := 5 }
    evaluate state ("!" ++ Text.ofString "g!==5") = .ok true ∧
      ∃ defect, evaluate state "!!==5" = .error (.malformed ⟨"!!==5", defect⟩) := by
  intro state
  have hplain : evaluate state "g!==5" = .ok false := by decide +kernel
  have hcomplements := (complementary state).1 "g!==5" (by decide) (by decide)
  have hmarks := (complementary state).2 "!!==5" (by decide)
  exact ⟨hcomplements.opposite false hplain,
    hmarks.malformed_of_short (shortNumerals_of_length_le (by decide))⟩

end GatedPrompt.Rule
