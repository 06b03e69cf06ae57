import GatedPrompt.Proofs.Rule.Lexing

/-!
# The grammar of rules

A rule is an optional negation mark in front of a condition, or of two operands with a comparison
between them. `Form` writes this down without tokens, counts or places, and parsing accepts exactly
the texts of this form.

* `ShortNumerals` — no run of digits in a text is longer than numerals may be;
* `Lexed.parse_eq` — parsing a text, by the tokens it falls into;
* `Form`, `Form.IsGrammatical` — the ways to write a rule;
* `Form.rule` — what a form states;
* `parse_grammar` — parsing finds the form of a text, which is the only one, or blames the text.
-/

namespace GatedPrompt.Rule

open Text (Points isDigit)

/-! ## Numerals within the limit -/

/-- No run of digits is longer than numerals may be. -/
def ShortNumerals (cs : Points) : Prop :=
  ∀ digits, digits <:+: cs → (∀ p ∈ digits, isDigit p = true) → digits.length ≤ Text.digitLimit

theorem ShortNumerals.of_infix {cs part : Points} (h : ShortNumerals cs) (hpart : part <:+: cs) :
    ShortNumerals part := fun digits hdigits => h digits (hdigits.trans hpart)

namespace Lexeme

/-- What a token stands for, with its digits in decimal reading. -/
def reading : Lexeme → Symbol
  | reference kind digits => .reference kind (some (Text.naturalOf digits))
  | gold => .gold
  | comparison _ c => .comparison c
  | literal sign digits => .literal (some (Text.Sign.apply sign (Text.naturalOf digits)))

/-- A token that is written so. -/
def asToken (l : Lexeme) : Token := ⟨⟨l.points⟩, l.reading⟩

theorem token_eq {l : Lexeme} (hl : l.IsWritten) (hshort : ShortNumerals l.points) :
    l.token = .ok l.asToken := by
  cases l with
  | reference kind digits =>
    have hlength := hshort digits ⟨[.char (letter kind), .char '['], [.char ']'], by simp [points]⟩
      hl.isDigit
    rw [token, symbol, Text.readNatural_of_length_le hlength]
    rfl
  | gold => rfl
  | comparison spelling c => rfl
  | literal sign digits =>
    have hlength := hshort digits ⟨sign.toList.map Text.Sign.point, [], by simp [points]⟩ hl.isDigit
    rw [token, symbol, Text.readNatural_of_length_le hlength]
    rfl

end Lexeme

/-- A text that is no longer than numerals may be has no numeral that is. -/
theorem shortNumerals_of_length_le {cs : Points} (h : cs.length ≤ Text.digitLimit) :
    ShortNumerals cs := fun _ hdigits _ => hdigits.length_le.trans h

/-! ## Parsing by tokens -/

theorem tokens_of_next? {cs rest : Points} {l : Lexeme} (h : Lexeme.next? cs = some (l, rest)) :
    tokens cs =
      match l.token with
      | .error fault => .error (.oversized fault)
      | .ok token =>
        match tokens rest with
        | .error obstacle => .error obstacle
        | .ok others => .ok (token :: others) := by
  cases cs with
  | nil => exact absurd (Lexeme.length_lt_of_next? h) (Nat.not_lt_zero _)
  | cons p cs =>
    rw [tokens]
    split
    · next hnone => rw [h] at hnone; cases hnone
    · next hsome =>
      rw [h] at hsome
      obtain ⟨rfl, rfl⟩ : _ ∧ _ := by simpa using hsome
      rfl

theorem tokens_of_stuck {p : Text.CodePoint} {cs : Points}
    (h : Lexeme.next? (p :: cs) = none) : tokens (p :: cs) = .error (.unreadable (p :: cs)) := by
  rw [tokens]
  split
  · rfl
  · next hsome =>
    rw [h] at hsome
    cases hsome

/-- The tokens that a text falls into are read one after the other. -/
theorem tokens_of_munched {ls : List Lexeme} {rest : Points} (h : Munched ls rest)
    (hshort : ShortNumerals (written ls)) :
    tokens (written ls ++ rest) =
      match tokens rest with
      | .error obstacle => .error obstacle
      | .ok others => .ok (ls.map Lexeme.asToken ++ others) := by
  induction ls with
  | nil =>
    rw [written_nil, List.nil_append]
    cases tokens rest <;> rfl
  | cons l ls ih =>
    have htoken := Lexeme.token_eq h.1
      (hshort.of_infix (List.infix_append' [] l.points (written ls)))
    have hrest := ih h.2.2 (hshort.of_infix (List.suffix_append l.points (written ls)).isInfix)
    rw [written_cons, List.append_assoc, tokens_of_next? (Lexeme.next?_append h.1 h.2.1), htoken,
      hrest]
    cases tokens rest <;> rfl

theorem naturalOf_of_readNatural {digits : Points} {n : Nat}
    (h : Text.readNatural digits = .ok n) : Text.naturalOf digits = n := by
  unfold Text.readNatural at h
  split at h
  · exact Except.ok.inj h
  · cases h

theorem Lexeme.asToken_of_token {l : Lexeme} {t : Token} (h : l.token = .ok t) :
    l.asToken = t := by
  cases l with
  | gold => exact Except.ok.inj h
  | comparison spelling c => exact Except.ok.inj h
  | reference kind digits =>
    rw [token, symbol] at h
    cases hn : Text.readNatural digits with
    | error fault => rw [hn] at h; cases h
    | ok n =>
      rw [hn] at h
      rw [asToken, reading, naturalOf_of_readNatural hn]
      exact Except.ok.inj h
  | literal sign digits =>
    rw [token, symbol] at h
    cases hn : Text.readNatural digits with
    | error fault => rw [hn] at h; cases h
    | ok n =>
      rw [hn] at h
      rw [asToken, reading, naturalOf_of_readNatural hn]
      exact Except.ok.inj h

/-- Tokens that could be read make up the whole text. -/
theorem exists_lexemes_of_tokens {cs : Points} {ts : List Token} (h : tokens cs = .ok ts) :
    ∃ ls, cs = written ls ∧ Munched ls [] ∧ ls.map Lexeme.asToken = ts := by
  -- A token takes several characters off the text, so the induction is on the length.
  induction hlength : cs.length using Nat.strong_induction_on generalizing cs ts with
  | _ n ih =>
    cases cs with
    | nil =>
      rw [tokens] at h
      exact ⟨[], rfl, trivial, Except.ok.inj h⟩
    | cons p cs =>
      cases hnext : Lexeme.next? (p :: cs) with
      | none =>
        rw [tokens_of_stuck hnext] at h
        cases h
      | some found =>
        obtain ⟨l, rest⟩ := found
        have hshorter := Lexeme.length_lt_of_next? hnext
        rw [tokens_of_next? hnext] at h
        split at h
        · cases h
        · next t htoken =>
          split at h
          · cases h
          · next others hothers =>
            obtain rfl : t :: others = ts := Except.ok.inj h
            obtain ⟨ls, rfl, hmunched, rfl⟩ := ih rest.length (by omega) hothers rfl
            obtain ⟨heq, hl, hends⟩ := Lexeme.next?_eq_some_iff.1 hnext
            rw [← List.append_nil (written ls)] at hends
            exact ⟨l :: ls, heq, ⟨hl, hends, hmunched⟩,
              by rw [List.map_cons, Lexeme.asToken_of_token htoken]⟩

theorem splitNegation_append (cs : Points) :
    mark (splitNegation cs).1 ++ (splitNegation cs).2 = cs := by
  unfold splitNegation
  split <;> rfl

theorem splitNegation_eq {body : Points} {negated : Bool}
    (h : (mark negated ++ body).head? = some (.char '!') → negated = true) :
    splitNegation (mark negated ++ body) = (negated, body) := by
  cases negated with
  | true => rfl
  | false =>
    unfold splitNegation
    split
    · next heq =>
      rw [heq] at h
      exact absurd (h rfl) (by simp)
    · rfl

section

variable {text : Text} {negated : Bool} {ls : List Lexeme} {rest : Points}

theorem Lexed.splitNegation_eq (h : Lexed text.points negated ls rest) :
    splitNegation text.points = (negated, written ls ++ rest) := by
  have hmark := h.negated_of_mark
  rw [h.points_eq] at hmark ⊢
  exact Rule.splitNegation_eq hmark

/-- The tokens of a text are those it falls into, if nothing is left behind them. -/
theorem Lexed.tokenize_eq (h : Lexed text.points negated ls rest)
    (hshort : ShortNumerals text.points) :
    tokenize text =
      if text.points = [] then .error (.malformed ⟨text, .empty⟩)
      else if rest = [] then .ok (ls.map Lexeme.asToken, negated)
      else .error (.malformed ⟨text, .unreadable ⟨rest⟩⟩) := by
  have hwritten : ShortNumerals (written ls) := by
    refine hshort.of_infix ⟨mark negated, rest, ?_⟩
    rw [h.points_eq, List.append_assoc]
  have htokens := tokens_of_munched h.munched hwritten
  unfold tokenize
  split
  · next hnil => rw [if_pos hnil]
  · next hne =>
    rw [if_neg hne, h.splitNegation_eq]
    simp only
    rw [htokens]
    cases rest with
    | nil => simp [tokens]
    | cons p rest => rw [tokens_of_stuck h.stuck, if_neg (List.cons_ne_nil p rest)]; rfl

/-- **Parsing a text, by the tokens it falls into.** -/
theorem Lexed.parse_eq (h : Lexed text.points negated ls rest)
    (hshort : ShortNumerals text.points) :
    parse text =
      if text.points = [] then .error (.malformed ⟨text, .empty⟩)
      else if rest = [] then
        match statementOf (ls.map Lexeme.asToken) with
        | .error defect => .error (.malformed ⟨text, defect⟩)
        | .ok statement => .ok ⟨text, negated, statement⟩
      else .error (.malformed ⟨text, .unreadable ⟨rest⟩⟩) := by
  rw [parse, h.tokenize_eq hshort]
  by_cases hnil : text.points = []
  · rw [if_pos hnil, if_pos hnil]
  · by_cases hrest : rest = []
    · rw [if_neg hnil, if_neg hnil, if_pos hrest]
      exact (if_pos hrest).symm
    · rw [if_neg hnil, if_neg hnil, if_neg hrest, if_neg hrest]

end

/-! ## What tokens state -/

namespace Lexeme

/-- A token that is a condition by itself: a switch, an actor or a thing. -/
def IsCondition : Lexeme → Prop
  | reference .switch _ => True
  | reference .actor _ => True
  | reference (.thing _) _ => True
  | _ => False

/-- A token with a value to compare: a variable, a thing, gold or an integer. -/
def IsValue : Lexeme → Prop
  | reference .var _ => True
  | reference (.thing _) _ => True
  | gold => True
  | literal _ _ => True
  | _ => False

end Lexeme

theorem conditionOf_eq_ok_iff {l : Lexeme} {statement : Statement} :
    conditionOf l.asToken = .ok statement ↔ l.IsCondition ∧ .condition l.asToken = statement := by
  rcases l with ⟨_ | _ | _ | _, digits⟩ | _ | ⟨spelling, c⟩ | ⟨sign, digits⟩ <;>
    simp [conditionOf, Lexeme.asToken, Lexeme.reading, Lexeme.IsCondition]

theorem operandDefect?_eq_none_iff {l : Lexeme} (side : Side) :
    operandDefect? side l.asToken = none ↔ l.IsValue := by
  rcases l with ⟨_ | _ | _ | _, digits⟩ | _ | ⟨spelling, c⟩ | ⟨sign, digits⟩ <;>
    simp [operandDefect?, Lexeme.asToken, Lexeme.reading, Lexeme.IsValue]

theorem relationOf_eq_ok_iff {left middle right : Lexeme} {statement : Statement} :
    relationOf left.asToken middle.asToken right.asToken = .ok statement ↔
      ∃ spelling c, middle = .comparison spelling c ∧ left.IsValue ∧ right.IsValue ∧
        .relation left.asToken c right.asToken = statement := by
  cases middle with
  | comparison spelling c =>
    have hleft := operandDefect?_eq_none_iff (l := left) .left
    have hright := operandDefect?_eq_none_iff (l := right) .right
    rw [relationOf, show (Lexeme.comparison spelling c).asToken.symbol = .comparison c from rfl]
    simp only [Lexeme.comparison.injEq]
    cases hl : operandDefect? .left left.asToken with
    | some defect =>
      have hnot : ¬left.IsValue := fun hvalue => by simp [hleft.2 hvalue] at hl
      simp [hnot]
    | none =>
      cases hr : operandDefect? .right right.asToken with
      | some defect =>
        have hnot : ¬right.IsValue := fun hvalue => by simp [hright.2 hvalue] at hr
        simp [hnot]
      | none =>
        constructor
        · intro heq
          exact ⟨spelling, c, ⟨rfl, rfl⟩, hleft.1 hl, hright.1 hr, Except.ok.inj heq⟩
        · rintro ⟨_, _, ⟨rfl, rfl⟩, -, -, rfl⟩
          rfl
  | reference kind digits => simp [relationOf, Lexeme.asToken, Lexeme.reading]
  | gold => simp [relationOf, Lexeme.asToken, Lexeme.reading]
  | literal sign digits => simp [relationOf, Lexeme.asToken, Lexeme.reading]

/-! ## Forms -/

/-- A way to write a rule. -/
inductive Form where
  | condition (negated : Bool) (operand : Lexeme)
  | relation (negated : Bool) (left : Lexeme) (spelling : String) (comparison : Comparison)
      (right : Lexeme)

namespace Form

/-- Whether a form has the negation mark. -/
def negated : Form → Bool
  | condition negated _ => negated
  | relation negated _ _ _ _ => negated

/-- The tokens of a form. -/
def lexemes : Form → List Lexeme
  | condition _ operand => [operand]
  | relation _ left spelling comparison right => [left, .comparison spelling comparison, right]

/-- A form as it is written. -/
def points (form : Form) : Points := mark form.negated ++ written form.lexemes

/-- What a form states. -/
def statement : Form → Statement
  | condition _ operand => .condition operand.asToken
  | relation _ left _ comparison right => .relation left.asToken comparison right.asToken

/-- The rule that is written in a form. -/
def rule (form : Form) : Rule := ⟨⟨form.points⟩, form.negated, form.statement⟩

/-- The parts of a form are written in the ways of their kinds and stand where they may. -/
def IsGrammatical : Form → Prop
  | condition _ operand => operand.IsWritten ∧ operand.IsCondition
  | relation _ left spelling comparison right =>
    (left.IsWritten ∧ left.IsValue) ∧ spelling ∈ comparison.spelled ∧
      right.IsWritten ∧ right.IsValue

/-- A text is written in a form. -/
structure Writes (form : Form) (text : Text) : Prop where
  grammatical : form.IsGrammatical
  points_eq : text.points = form.points

end Form

/-- An operand starts with a letter, a sign or a digit, so it goes on with no comparison and looks
like no negation. -/
theorem Lexeme.exists_starts_operand {l : Lexeme} (hl : l.IsWritten)
    (hoperand : l.IsCondition ∨ l.IsValue) :
    ∃ p cs, l.points = p :: cs ∧ p ≠ .char '=' ∧ p ≠ .char '!' := by
  obtain ⟨p, cs, heq, hp⟩ := Lexeme.exists_starts hl
  refine ⟨p, cs, heq, ?_⟩
  cases l with
  | reference kind digits =>
    obtain rfl : p = _ := hp
    rcases kind with _ | _ | _ | _ | _ | _ <;> simp [letter]
  | gold =>
    obtain rfl : p = _ := hp
    simp
  | comparison spelling c => rcases hoperand with h | h <;> cases h
  | literal sign digits =>
    exact ⟨Lexeme.ne_char_of_starts_literal hp (by decide),
      Lexeme.ne_char_of_starts_literal hp (by decide)⟩

/-- Nothing follows the last token, and a comparison follows the first of three. -/
theorem Lexeme.ends_of_operand {l : Lexeme} (hoperand : l.IsCondition ∨ l.IsValue) {rest : Points}
    (hrest : ∀ p ∈ rest.head?, isDigit p = false) : l.Ends rest := by
  cases l with
  | comparison spelling c => rcases hoperand with h | h <;> cases h
  | literal sign digits => exact hrest
  | _ => trivial

/-- A form starts with an operand. -/
theorem Form.IsGrammatical.exists_operand {form : Form} (h : form.IsGrammatical) :
    ∃ l ls, form.lexemes = l :: ls ∧ l.IsWritten ∧ (l.IsCondition ∨ l.IsValue) := by
  cases form with
  | condition => exact ⟨_, _, rfl, h.1, .inl h.2⟩
  | relation => exact ⟨_, _, rfl, h.1.1, .inr h.1.2⟩

/-- The tokens of a text in a form are those of the form. -/
theorem Form.Writes.lexed {form : Form} {text : Text} (h : form.Writes text) :
    Lexed text.points form.negated form.lexemes [] := by
  obtain ⟨hgrammatical, hpoints⟩ := h
  refine ⟨by rw [hpoints, Form.points, List.append_nil], ?_, ?_, rfl⟩
  · -- Only the mark can be an exclamation mark at the front.
    intro hmark
    rw [hpoints, Form.points] at hmark
    cases hnegated : form.negated with
    | true => rfl
    | false =>
      rw [hnegated] at hmark
      obtain ⟨l, ls, hl, hwritten, hoperand⟩ := hgrammatical.exists_operand
      obtain ⟨p, cs, hp, -, hne⟩ := Lexeme.exists_starts_operand hwritten hoperand
      rw [hl, written_cons, hp] at hmark
      exact absurd (by simpa [mark] using hmark) hne
  · cases form with
    | condition negated operand =>
      obtain ⟨hwritten, hoperand⟩ := hgrammatical
      exact ⟨hwritten, Lexeme.ends_of_operand (.inl hoperand) (by simp), trivial⟩
    | relation negated left spelling comparison right =>
      obtain ⟨⟨hleft, hleftValue⟩, hspelled, hright, hrightValue⟩ := hgrammatical
      have hmiddle : (Lexeme.comparison spelling comparison).IsWritten := hspelled
      refine ⟨hleft, Lexeme.ends_of_operand (.inr hleftValue) ?_, hspelled, ?_, hright,
        Lexeme.ends_of_operand (.inr hrightValue) (by simp), trivial⟩
      · obtain ⟨p, cs, hp, hstarts⟩ := Lexeme.exists_starts hmiddle
        rw [written_cons, hp]
        rintro q ⟨⟩
        rcases hstarts with rfl | rfl | rfl | rfl <;> decide
      · obtain ⟨p, cs, hp, hne, -⟩ := Lexeme.exists_starts_operand hright (.inr hrightValue)
        intro hequal
        rw [written_cons, hp] at hequal
        exact absurd (by simpa using hequal) hne

/-! ## Parsing finds the form -/

theorem Form.statementOf_eq {form : Form} (h : form.IsGrammatical) :
    statementOf (form.lexemes.map Lexeme.asToken) = .ok form.statement := by
  cases form with
  | condition negated operand => exact conditionOf_eq_ok_iff.2 ⟨h.2, rfl⟩
  | relation negated left spelling comparison right =>
    exact relationOf_eq_ok_iff.2 ⟨spelling, comparison, rfl, h.1.2, h.2.2.2, rfl⟩

/-- Tokens that state something are those of a form. -/
theorem exists_form_of_statementOf {ls : List Lexeme} {rest : Points} (hmunched : Munched ls rest)
    {statement : Statement} (h : statementOf (ls.map Lexeme.asToken) = .ok statement)
    (negated : Bool) :
    ∃ form : Form, form.IsGrammatical ∧ form.negated = negated ∧ form.lexemes = ls ∧
      form.statement = statement := by
  match ls, hmunched, h with
  | [], _, h => cases h
  | [operand], hmunched, h =>
    obtain ⟨hcondition, rfl⟩ := conditionOf_eq_ok_iff.1 h
    exact ⟨.condition negated operand, ⟨hmunched.1, hcondition⟩, rfl, rfl, rfl⟩
  -- Neither two tokens nor more than three are a rule.
  | [_, _], _, h => cases h
  | [left, middle, right], hmunched, h =>
    obtain ⟨spelling, c, rfl, hleft, hright, rfl⟩ := relationOf_eq_ok_iff.1 h
    obtain ⟨hleftWritten, -, hspelled, -, hrightWritten, -⟩ := hmunched
    exact ⟨.relation negated left spelling c right,
      ⟨⟨hleftWritten, hleft⟩, hspelled, hrightWritten, hright⟩, rfl, rfl, rfl⟩
  | _ :: _ :: _ :: _ :: _, _, h => cases h

section

variable {text : Text} {form form' : Form} {rule : Rule}

theorem Form.Writes.unique (h : form.Writes text) (h' : form'.Writes text) : form = form' := by
  -- The tokens are those of the text, and a form is told by its tokens.
  obtain ⟨hnegated, hlexemes, -⟩ := h.lexed.unique h'.lexed
  cases form with
  | condition negated operand =>
    cases form' with
    | condition negated' operand' => simp_all [Form.negated, Form.lexemes]
    | relation => simp [Form.lexemes] at hlexemes
  | relation negated left spelling comparison right =>
    cases form' with
    | condition => simp [Form.lexemes] at hlexemes
    | relation => simp_all [Form.negated, Form.lexemes]

theorem Form.Writes.points_ne_nil (h : form.Writes text) : text.points ≠ [] := by
  obtain ⟨l, ls, hl, hwritten, -⟩ := h.grammatical.exists_operand
  obtain ⟨p, cs, hp, -⟩ := Lexeme.exists_starts hwritten
  rw [h.points_eq, Form.points, hl, written_cons, hp]
  simp

/-- A text in a form is parsed as the rule of the form. -/
theorem Form.Writes.parse_eq (h : form.Writes text) (hshort : ShortNumerals text.points) :
    parse text = .ok form.rule := by
  rw [h.lexed.parse_eq hshort, if_neg h.points_ne_nil, if_pos rfl,
    Form.statementOf_eq h.grammatical]
  rw [Form.rule, ← h.points_eq]

/-- A text that is parsed is written in the form of its rule. -/
theorem exists_form_of_parse (h : parse text = .ok rule) :
    ∃ form : Form, form.Writes text ∧ form.rule = rule := by
  rw [parse] at h
  split at h
  · cases h
  · next ts negated htokenize =>
    split at h
    · cases h
    · next statement hstatement =>
      unfold tokenize at htokenize
      split at htokenize
      · cases htokenize
      · simp only at htokenize
        split at htokenize
        · cases htokenize
        · next ts' htokens =>
          obtain ⟨rfl, hnegated⟩ : ts' = ts ∧ _ = negated := by simpa using htokenize
          obtain ⟨ls, hbody, hmunched, rfl⟩ := exists_lexemes_of_tokens htokens
          obtain ⟨form, hgrammatical, rfl, rfl, rfl⟩ :=
            exists_form_of_statementOf hmunched hstatement negated
          have hpoints : text.points = form.points := by
            rw [Form.points, ← hbody, ← hnegated]
            exact (splitNegation_append text.points).symm
          refine ⟨form, ⟨hgrammatical, hpoints⟩, ?_⟩
          rw [Form.rule, ← hpoints]
          exact Except.ok.inj h

/-- A text that is not parsed is blamed itself. -/
theorem exists_defect_of_parse (hshort : ShortNumerals text.points)
    (h : ∀ rule, parse text ≠ .ok rule) :
    ∃ defect, parse text = .error (.malformed ⟨text, defect⟩) := by
  obtain ⟨negated, ls, rest, hlexed⟩ := exists_lexed text.points
  rw [hlexed.parse_eq hshort] at h ⊢
  split
  · exact ⟨_, rfl⟩
  · split
    · split
      · exact ⟨_, rfl⟩
      · simp_all
    · exact ⟨_, rfl⟩

/-- A refusal blames its text. -/
theorem exists_malformed_of_parse {refusal : Refusal} (hshort : ShortNumerals text.points)
    (h : parse text = .error refusal) : ∃ defect, refusal = .malformed ⟨text, defect⟩ := by
  have hnot : ∀ rule, parse text ≠ .ok rule := by
    intro rule hrule
    rw [h] at hrule
    cases hrule
  obtain ⟨defect, hdefect⟩ := exists_defect_of_parse hshort hnot
  exact ⟨defect, Except.error.inj (h.symm.trans hdefect)⟩

/-- **Parsing accepts the grammar and nothing else.** A text is parsed as a rule exactly if it is
written in the form of that rule. No text is written in two forms, and a text that is written in
none is blamed itself. -/
theorem parse_grammar (hshort : ShortNumerals text.points) :
    (∀ rule, parse text = .ok rule ↔ ∃ form : Form, form.Writes text ∧ form.rule = rule) ∧
    (∀ form form' : Form, form.Writes text → form'.Writes text → form = form') ∧
    ((∀ form : Form, ¬form.Writes text) →
      ∃ defect, parse text = .error (.malformed ⟨text, defect⟩)) := by
  refine ⟨fun rule => ⟨exists_form_of_parse, ?_⟩, fun form form' => Form.Writes.unique, ?_⟩
  · rintro ⟨form, hwrites, rfl⟩
    exact hwrites.parse_eq hshort
  · intro hnone
    refine exists_defect_of_parse hshort fun rule hparse => ?_
    obtain ⟨form, hwrites, -⟩ := exists_form_of_parse hparse
    exact hnone form hwrites

/-- A negated comparison of a thing with a signed integer, whose digits start with zeros. -/
theorem parse_grammar_negated_relation :
    ∃ form : Form, form.Writes "!i[3]>=-007" ∧
      form.rule = ⟨"!i[3]>=-007", true,
        .relation ⟨"i[3]", .reference (.thing .item) (some 3)⟩ .greaterOrEqual
          ⟨"-007", .literal (some (-7))⟩⟩ := by
  have hshort : ShortNumerals (Text.points "!i[3]>=-007") :=
    shortNumerals_of_length_le (by decide)
  exact ((parse_grammar hshort).1 _).1 (by decide +kernel)

end

end GatedPrompt.Rule
