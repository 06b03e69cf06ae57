import GatedPrompt.Proofs.Rule.Respelling

/-!
# The meaning of rules

What a rule says about a game, read off the way it is written, and that evaluation finds just this.
The texts without an answer are those that are no rule and those that name an id that is zero.

* `Lexeme.IsTrue`, `Lexeme.value` — what an operand means in a state;
* `Form.Holds` — what a form means in a state;
* `Form.zeroKind?` — the leftmost reference to an id that is zero, of which there is none in a game;
* `Answers` — an answer is right, or id zero is refused; there is a lemma of this form for lookups,
  operands, statements and texts (`Form.Writes.evaluate_answers`);
* `interpreted_of_shortNumerals` — all that evaluation of a text can come to.
-/

namespace GatedPrompt.Rule

open Text (Points naturalOf)

/-! ## What is written and what it means -/

namespace Lexeme

/-- The sort of data of a reference to id zero. -/
def zeroKind? : Lexeme → Option Game.Kind
  | reference kind digits => if naturalOf digits = 0 then some kind else none
  | _ => none

/-- What an operand by itself claims: a switch is on, an actor is in the party, a thing is there. -/
def IsTrue (state : Game.State) : Lexeme → Prop
  | reference .switch digits => state.switches.get? (naturalOf digits) = some true
  | reference .actor digits => (naturalOf digits : Int) ∈ state.party
  | reference (.thing thing) digits =>
    0 < ((state.carried thing).get? (naturalOf digits)).getD 0
  | _ => False

instance (state : Game.State) : DecidablePred (IsTrue state)
  | reference .switch digits =>
    inferInstanceAs (Decidable (state.switches.get? (naturalOf digits) = some true))
  | reference .actor digits => inferInstanceAs (Decidable ((naturalOf digits : Int) ∈ state.party))
  | reference (.thing thing) digits =>
    inferInstanceAs (Decidable (0 < ((state.carried thing).get? (naturalOf digits)).getD 0))
  | reference .var _ => .isFalse id
  | gold => .isFalse id
  | comparison _ _ => .isFalse id
  | literal _ _ => .isFalse id

/-- The number that an operand of a comparison stands for. What was never set counts as zero. -/
def value (state : Game.State) : Lexeme → Int
  | reference .var digits => (state.vars.get? (naturalOf digits)).getD 0
  | reference (.thing thing) digits => ((state.carried thing).get? (naturalOf digits)).getD 0
  | gold => state.gold
  | literal sign digits => Text.Sign.apply sign (naturalOf digits)
  | _ => 0

end Lexeme

namespace Form

/-- The sort of data of the leftmost reference to id zero. -/
def zeroKind? (form : Form) : Option Game.Kind := form.lexemes.findSome? Lexeme.zeroKind?

/-- What a form claims without its negation mark. -/
def Affirms (state : Game.State) : Form → Prop
  | condition _ operand => operand.IsTrue state
  | relation _ left _ comparison right =>
    comparison.Relates (left.value state) (right.value state)

instance (state : Game.State) : DecidablePred (Affirms state)
  | condition _ operand => inferInstanceAs (Decidable (operand.IsTrue state))
  | relation _ _ _ _ _ => decidable_of_iff _ Comparison.holds_iff

/-- What a form claims. -/
def Holds (state : Game.State) (form : Form) : Prop :=
  if form.negated = true then ¬form.Affirms state else form.Affirms state

instance (state : Game.State) : DecidablePred (Holds state) := fun form =>
  inferInstanceAs (Decidable (if form.negated = true then ¬form.Affirms state
    else form.Affirms state))

end Form

/-! ## Evaluation finds the meaning -/

/-- An answer is the refusal of id zero, if there is one to refuse, and otherwise it is right. -/
def Answers {α : Type} (x : Except Unresolved α) (zero : Option Game.Kind) (IsRight : α → Prop) :
    Prop :=
  match zero with
  | some kind => x = .error (.defect (.unknownId ⟨kind, 0⟩))
  | none => ∃ a, x = .ok a ∧ IsRight a

/-- Going on with the right answer, or stopping at the first id zero. -/
theorem Answers.bind {α β : Type} {x : Except Unresolved α} {zero zero' : Option Game.Kind}
    {IsRight : α → Prop} (h : Answers x zero IsRight) {f : α → Except Unresolved β}
    {IsRight' : β → Prop} (hf : ∀ a, IsRight a → Answers (f a) zero' IsRight') :
    Answers (x.bind f) (zero.or zero') IsRight' := by
  cases zero with
  | some kind =>
    obtain rfl : x = .error (.defect (.unknownId ⟨kind, 0⟩)) := h
    exact rfl
  | none =>
    obtain ⟨a, rfl, ha⟩ := h
    exact hf a ha

theorem Answers.map {α β : Type} {x : Except Unresolved α} {zero : Option Game.Kind}
    {IsRight : α → Prop} (h : Answers x zero IsRight) {f : α → β} {IsRight' : β → Prop}
    (hf : ∀ a, IsRight a → IsRight' (f a)) :
    Answers (x.bind fun a => .ok (f a)) zero IsRight' := by
  have hbind : Answers (x.bind fun a => .ok (f a)) (zero.or none) IsRight' :=
    h.bind fun a ha => ⟨f a, rfl, hf a ha⟩
  rwa [Option.or_none] at hbind

theorem Answers.imp {α : Type} {x : Except Unresolved α} {zero : Option Game.Kind}
    {IsRight IsRight' : α → Prop} (h : Answers x zero IsRight)
    (himp : ∀ a, IsRight a → IsRight' a) : Answers x zero IsRight' := by
  cases zero with
  | some kind => exact h
  | none =>
    obtain ⟨a, rfl, ha⟩ := h
    exact ⟨a, rfl, himp a ha⟩

theorem Answers.cases {α : Type} {x : Except Unresolved α} {zero : Option Game.Kind}
    {IsRight : α → Prop} (h : Answers x zero IsRight) :
    (∃ kind, zero = some kind ∧ x = .error (.defect (.unknownId ⟨kind, 0⟩))) ∨
    (zero = none ∧ ∃ a, x = .ok a ∧ IsRight a) := by
  cases zero with
  | some kind => exact .inl ⟨kind, rfl, h⟩
  | none => exact .inr ⟨rfl, h⟩

section

variable (state : Game.State) {l : Lexeme} {form : Form}

/-- Looking up an id fails for id zero only. -/
theorem lookup_answers {α : Type} (token : Token) (kind : Game.Kind) (n : Nat) (find : Int → α) :
    Answers (lookup token (some (n : Int)) fun id => (Game.requireId kind id).map find)
      (if n = 0 then some kind else none) (· = find n) := by
  rw [lookup_natural]
  by_cases hn : n = 0
  · rw [if_pos hn, if_pos hn]
    exact rfl
  · rw [if_neg hn, if_neg hn]
    exact ⟨find n, rfl, rfl⟩

/-- The number of an operand is its value. -/
theorem number_answers (hl : l.IsValue) :
    Answers (l.asToken.number state) l.zeroKind? (· = l.value state) := by
  match l, hl with
  | .reference .var digits, _ =>
    exact lookup_answers (Lexeme.reference .var digits).asToken .var (naturalOf digits) _
  | .reference (.thing thing) digits, _ =>
    exact lookup_answers (Lexeme.reference (.thing thing) digits).asToken (.thing thing)
      (naturalOf digits) _
  | .gold, _ => exact ⟨_, rfl, rfl⟩
  | .literal sign digits, _ => exact ⟨_, rfl, rfl⟩

theorem condition_answers (hl : l.IsCondition) :
    Answers (l.asToken.condition state) l.zeroKind? fun truth =>
      truth = true ↔ l.IsTrue state := by
  match l, hl with
  | .reference .switch digits, _ =>
    refine (lookup_answers (Lexeme.reference .switch digits).asToken .switch (naturalOf digits)
      _).imp ?_
    rintro _ rfl
    -- A switch that was never set is off.
    rw [Lexeme.IsTrue]
    cases state.switches.get? (naturalOf digits) <;> simp
  | .reference .actor digits, _ =>
    refine (lookup_answers (Lexeme.reference .actor digits).asToken .actor (naturalOf digits)
      _).imp ?_
    rintro _ rfl
    exact List.contains_iff_mem
  | .reference (.thing thing) digits, _ =>
    have hvalue : (Lexeme.reference (.thing thing) digits).IsValue := trivial
    -- A thing alone is asked for its number, as on a side of a comparison.
    rw [Lexeme.asToken, Lexeme.reading, condition_thing]
    refine (number_answers state hvalue).map ?_
    rintro count rfl
    exact decide_eq_true_iff

theorem statement_answers (hform : form.IsGrammatical) :
    Answers (form.statement.holds state) form.zeroKind? fun truth =>
      truth = true ↔ form.Affirms state := by
  cases form with
  | condition negated operand =>
    have hzero : (Form.condition negated operand).zeroKind? = operand.zeroKind? := by
      simp [Form.zeroKind?, Form.lexemes]
    rw [hzero]
    exact condition_answers state hform.2
  | relation negated left spelling c right =>
    -- The left side is asked first, so its id zero is the one that is reported.
    have hzero : (Form.relation negated left spelling c right).zeroKind? =
        left.zeroKind?.or right.zeroKind? := by
      simp only [Form.zeroKind?, Form.lexemes, List.findSome?_cons, List.findSome?_nil]
      cases left.zeroKind? <;> cases right.zeroKind? <;> rfl
    rw [hzero, Form.statement, holds_relation]
    refine (number_answers state hform.1.2).bind ?_
    rintro l rfl
    refine (number_answers state hform.2.2.2).map ?_
    rintro r rfl
    exact Comparison.holds_iff

theorem Form.Writes.evaluate_answers {text : Text} (h : form.Writes text)
    (hshort : ShortNumerals text.points) :
    (∃ kind, form.zeroKind? = some kind ∧
      evaluate state text = .error (.malformed ⟨text, .unknownId ⟨kind, 0⟩⟩)) ∨
    (form.zeroKind? = none ∧
      ∃ truth, evaluate state text = .ok truth ∧ (truth = true ↔ form.Holds state)) := by
  have htext : form.rule.text = text := by rw [Form.rule, ← h.points_eq]
  rw [evaluate, h.parse_eq hshort]
  simp only [holds, htext, show form.rule.statement = form.statement from rfl,
    show form.rule.negated = form.negated from rfl]
  obtain ⟨kind, hzero, h⟩ | ⟨hzero, truth, h, htruth⟩ :=
    (statement_answers state h.grammatical).cases
  · rw [h]
    exact .inl ⟨kind, hzero, rfl⟩
  · rw [h]
    -- The mark flips the answer and negates the claim.
    refine .inr ⟨hzero, truth != form.negated, rfl, ?_⟩
    rw [Form.Holds, ← htruth]
    cases form.negated <;> simp

end

/-! ## All that can come of a rule text -/

/-- What evaluation of a text comes to. -/
structure Interpreted (state : Game.State) (text : Text) : Prop where
  /-- The texts without an answer are those that are no rule, and those that name id zero. -/
  malformed_iff : (∃ report, evaluate state text = .error (.malformed report)) ↔
    (∀ rule, parse text ≠ .ok rule) ∨
      ∃ form : Form, form.Writes text ∧ ∃ kind, form.zeroKind? = some kind
  /-- Of several references to id zero the leftmost is reported. -/
  leftmost : ∀ form : Form, form.Writes text → ∀ kind, form.zeroKind? = some kind →
    evaluate state text = .error (.malformed ⟨text, .unknownId ⟨kind, 0⟩⟩)
  /-- Once a text is parsed, nothing but a reference to id zero goes wrong. -/
  unresolved : ∀ rule refusal, parse text = .ok rule → evaluate state text = .error refusal →
    refusal.category? = some .unresolvedReference ∧
      ∃ kind, refusal = .malformed ⟨text, .unknownId ⟨kind, 0⟩⟩
  /-- Without such a reference a text is true or false, as it means. -/
  truth_iff : ∀ form : Form, form.Writes text → form.zeroKind? = none →
    ∃ truth, evaluate state text = .ok truth ∧ (truth = true ↔ form.Holds state)
  /-- The tokens of a rule may be spelled in any other way. -/
  respelled : ∀ form : Form, form.Writes text →
    ∀ ls, List.Forall₂ Lexeme.Respells form.lexemes ls →
      ShortNumerals (mark form.negated ++ written ls) →
        outcome state ⟨mark form.negated ++ written ls⟩ = outcome state text
  /-- The tokens of any text may, if in their new spellings they still are the tokens of a text. -/
  relexed : ∀ negated ls ls' rest (text' : Text), Lexed text.points negated ls rest →
    Lexed text'.points negated ls' rest → List.Forall₂ Lexeme.Respells ls ls' →
      ShortNumerals text'.points → outcome state text' = outcome state text

/-- **The meaning of a rule text.** In every state, evaluation answers what a rule means by the way
it is written, and fails exactly for texts that are no rule or name id zero. -/
theorem interpreted_of_shortNumerals (state : Game.State) {text : Text}
    (hshort : ShortNumerals text.points) : Interpreted state text where
  malformed_iff := by
    constructor
    · rintro ⟨report, hreport⟩
      by_cases hparse : ∃ rule, parse text = .ok rule
      · obtain ⟨rule, hparse⟩ := hparse
        obtain ⟨form, hwrites, -⟩ := exists_form_of_parse hparse
        obtain ⟨kind, hzero, -⟩ | ⟨-, truth, htruth, -⟩ := hwrites.evaluate_answers state hshort
        · exact .inr ⟨form, hwrites, kind, hzero⟩
        · rw [htruth] at hreport
          cases hreport
      · exact .inl fun rule hrule => hparse ⟨rule, hrule⟩
    · rintro (hparse | ⟨form, hwrites, kind, hzero⟩)
      · obtain ⟨defect, hdefect⟩ := exists_defect_of_parse hshort hparse
        exact ⟨⟨text, defect⟩, by rw [evaluate, hdefect]⟩
      · obtain ⟨kind', -, h⟩ | ⟨hnone, -⟩ := hwrites.evaluate_answers state hshort
        · exact ⟨_, h⟩
        · rw [hnone] at hzero
          cases hzero
  leftmost := by
    intro form hwrites kind hzero
    obtain ⟨kind', hzero', h⟩ | ⟨hnone, -⟩ := hwrites.evaluate_answers state hshort
    · obtain rfl := Option.some.inj (hzero'.symm.trans hzero)
      exact h
    · rw [hnone] at hzero
      cases hzero
  unresolved := by
    intro rule refusal hparse hrefusal
    obtain ⟨form, hwrites, -⟩ := exists_form_of_parse hparse
    obtain ⟨kind, -, h⟩ | ⟨-, truth, h, -⟩ := hwrites.evaluate_answers state hshort
    · obtain rfl := Except.error.inj (h.symm.trans hrefusal)
      exact ⟨rfl, kind, rfl⟩
    · rw [h] at hrefusal
      cases hrefusal
  truth_iff := by
    intro form hwrites hnone
    obtain ⟨kind, hzero, -⟩ | ⟨-, h⟩ := hwrites.evaluate_answers state hshort
    · rw [hnone] at hzero
      cases hzero
    · exact h
  respelled := fun _ hwrites _ hls hshort' => hwrites.outcome_eq hls hshort hshort'
  relexed := fun _ _ _ _ _ h h' hls hshort' => h.outcome_eq h' hls hshort hshort'

/-- With one thing in the bag, that there is one of it is true, also in another spelling. -/
theorem interpreted_one_item :
    evaluate { items := .ofList [(3, 1)] } "i[3]=1" = .ok true ∧
      outcome { items := .ofList [(3, 1)] } "i[003]===+1" = .ok true := by
  let form : Form :=
    .relation false (.reference (.thing .item) [.char '3']) "=" .equal (.literal none [.char '1'])
  have hwrites : form.Writes "i[3]=1" :=
    ⟨⟨⟨⟨by simp, by decide⟩, trivial⟩, by decide, ⟨by simp, by decide⟩, trivial⟩, by decide⟩
  have hls : List.Forall₂ Lexeme.Respells form.lexemes
      [.reference (.thing .item) ([.char '0', .char '0'] ++ [.char '3']),
        .comparison "===" .equal, .literal (some .plus) [.char '1']] :=
    .cons (.zerosOfId _ (by decide) (by simp)) <|
      .cons (.comparison (by decide) (by decide)) <| .cons (.plus _) .nil
  have hshort : ShortNumerals (Text.points "i[3]=1") := shortNumerals_of_length_le (by decide)
  have hmeant := interpreted_of_shortNumerals { items := .ofList [(3, 1)] } hshort
  obtain ⟨truth, htruth, hholds⟩ := hmeant.truth_iff form hwrites (by decide +kernel)
  obtain rfl : truth = true := hholds.2 (by decide +kernel)
  have hrespelled := hmeant.respelled form hwrites _ hls (shortNumerals_of_length_le (by decide))
  exact ⟨htruth, hrespelled.trans (congrArg (Except.mapError Refusal.category?) htruth)⟩

end GatedPrompt.Rule
