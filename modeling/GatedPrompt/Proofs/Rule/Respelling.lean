import Mathlib.Data.List.Forall2
import GatedPrompt.Proofs.Rule.Grammar
import GatedPrompt.Rule.Evaluation

/-!
# Other spellings of a rule

A token has more than one spelling: zeros may stand before the digits of an id or of an integer, a
plus before an integer without a sign, and most comparisons are written in several ways. What a rule
answers, be it a truth value or a kind of defect, depends on none of this.

* `outcome` — the answer of a rule text, without the wording of its defect;
* `verdict_sameKind` — the answer of tokens in a row depends on what they stand for;
* `Lexeme.Respells` — two spellings of one token, which are `Alike`;
* `Lexed.outcome_eq` — the outcomes of two texts that fall into the same tokens up to spelling;
* `Form.Writes.outcome_eq` — the same for a text in a form, whose tokens never run together.
-/

namespace GatedPrompt.Rule

open Text (Points isDigit digitValue? naturalOf)

/-! ## Outcomes -/

/-- The class of the defect that is blamed, if a defect is. -/
def Refusal.category? : Refusal → Option Category
  | .malformed report => some report.defect.category
  | .oversized _ => none

/-- The answer of a rule text: its truth value, or what class its defect is of. -/
def outcome (state : Game.State) (text : Text) : Except (Option Category) Bool :=
  (evaluate state text).mapError Refusal.category?

/-- The answer of tokens in a row. -/
def verdict (state : Game.State) (negated : Bool) (ts : List Token) : Except Unresolved Bool :=
  ((statementOf ts).mapError .defect).bind fun statement =>
    (statement.holds state).bind fun truth => .ok (truth != negated)

/-- The class of what a token is blamed for, if a defect is. -/
def Unresolved.category? : Unresolved → Option Category
  | .defect d => some d.category
  | .oversized _ => none

theorem Unresolved.category?_refusal (text : Text) (e : Unresolved) :
    (e.refusal text).category? = e.category? := by
  cases e <;> rfl

section

variable {state : Game.State} {text : Text} {negated : Bool} {ls : List Lexeme} {rest : Points}

/-- **The answer of a text, by the tokens it falls into.** -/
theorem Lexed.evaluate_eq (h : Lexed text.points negated ls rest)
    (hshort : ShortNumerals text.points) :
    evaluate state text =
      if text.points = [] then .error (.malformed ⟨text, .empty⟩)
      else if rest = [] then
        (verdict state negated (ls.map Lexeme.asToken)).mapError (Unresolved.refusal text)
      else .error (.malformed ⟨text, .unreadable ⟨rest⟩⟩) := by
  rw [evaluate, h.parse_eq hshort]
  by_cases hnil : text.points = []
  · rw [if_pos hnil, if_pos hnil]
  · rw [if_neg hnil, if_neg hnil]
    by_cases hrest : rest = []
    · rw [if_pos hrest, if_pos hrest, verdict]
      cases statementOf (ls.map Lexeme.asToken) with
      | error defect => rfl
      | ok statement =>
        simp only [holds, Except.bind, Except.mapError]
        cases statement.holds state <;> rfl
    · rw [if_neg hrest, if_neg hrest]

end

/-! ## The kind of an answer depends on what tokens stand for -/

/-- Two answers of one kind: the same value, or defects of one class. -/
def SameKind {α : Type} (x x' : Except Unresolved α) : Prop :=
  (∃ a, x = .ok a ∧ x' = .ok a) ∨
  ∃ e e', x = .error e ∧ x' = .error e' ∧ e.category? = e'.category?

theorem SameKind.ok {α : Type} (a : α) : SameKind (.ok a) (.ok a) := .inl ⟨a, rfl, rfl⟩

theorem SameKind.error {α : Type} {e e' : Unresolved} (h : e.category? = e'.category?) :
    SameKind (.error e : Except Unresolved α) (.error e') :=
  .inr ⟨e, e', rfl, rfl, h⟩

/-- Going on in ways of one kind from answers of one kind. -/
theorem SameKind.bind {α β : Type} {x x' : Except Unresolved α} (h : SameKind x x')
    {f f' : α → Except Unresolved β} (hf : ∀ a, SameKind (f a) (f' a)) :
    SameKind (x.bind f) (x'.bind f') := by
  obtain ⟨a, rfl, rfl⟩ | ⟨e, e', rfl, rfl, hcategory⟩ := h
  · exact hf a
  · exact .error hcategory

section

variable (state : Game.State)

/-- A lone thing holds if its value in a comparison is positive. -/
theorem condition_thing (text : Text) (thing : Game.Thing) (id : Option Int) :
    Token.condition state ⟨text, .reference (.thing thing) id⟩ =
      (Token.number state ⟨text, .reference (.thing thing) id⟩).bind fun count =>
        .ok (decide (0 < count)) := by
  simp only [Token.condition, Token.number]
  cases lookup ⟨text, .reference (.thing thing) id⟩ id (state.count thing) <;> rfl

theorem holds_relation (left right : Token) (c : Comparison) :
    Statement.holds state (.relation left c right) =
      (left.number state).bind fun l => (right.number state).bind fun r => .ok (c.holds l r) := by
  rw [Statement.holds]
  cases left.number state with
  | error unresolved => rfl
  | ok l => cases right.number state <;> rfl

theorem lookup_sameKind {α : Type} (text text' : Text) (symbol : Symbol) (id : Option Int)
    (query : Int → Except Game.IdFault α) :
    SameKind (lookup ⟨text, symbol⟩ id query) (lookup ⟨text', symbol⟩ id query) := by
  cases id with
  | none => exact .error rfl
  | some id =>
    simp only [lookup]
    cases query id with
    | error fault => exact .error rfl
    | ok answer => exact .ok answer

theorem number_sameKind (text text' : Text) (symbol : Symbol) :
    SameKind (Token.number state ⟨text, symbol⟩) (Token.number state ⟨text', symbol⟩) := by
  rcases symbol with ⟨_ | _ | _ | thing, id⟩ | _ | ⟨_ | value⟩ | _
  · exact .error rfl
  · exact lookup_sameKind text text' _ id state.variableValue
  · exact .error rfl
  · exact lookup_sameKind text text' _ id (state.count thing)
  · exact .ok state.gold
  · exact .error rfl
  · exact .ok value
  · exact .error rfl

theorem condition_sameKind (text text' : Text) (symbol : Symbol) :
    SameKind (Token.condition state ⟨text, symbol⟩) (Token.condition state ⟨text', symbol⟩) := by
  rcases symbol with ⟨_ | _ | _ | thing, id⟩ | _ | _ | _
  · exact lookup_sameKind text text' _ id state.switch
  · exact .error rfl
  · exact lookup_sameKind text text' _ id state.hasActor
  · rw [condition_thing, condition_thing]
    exact (number_sameKind state text text' _).bind fun count => .ok (decide (0 < count))
  all_goals exact .error rfl

theorem operandDefect?_category (side : Side) (text text' : Text) (symbol : Symbol) :
    (operandDefect? side ⟨text, symbol⟩).map Defect.category =
      (operandDefect? side ⟨text', symbol⟩).map Defect.category := by
  rcases symbol with ⟨_ | _ | _ | _, id⟩ | _ | _ | _ <;> cases side <;> rfl

/-- A token alone is a condition, or is none, however it is written. -/
theorem conditionOf_sameKind (text text' : Text) (symbol : Symbol) :
    (∃ defect defect', conditionOf ⟨text, symbol⟩ = .error defect ∧
      conditionOf ⟨text', symbol⟩ = .error defect' ∧ defect.category = defect'.category) ∨
    (conditionOf ⟨text, symbol⟩ = .ok (.condition ⟨text, symbol⟩) ∧
      conditionOf ⟨text', symbol⟩ = .ok (.condition ⟨text', symbol⟩)) := by
  rcases symbol with ⟨_ | _ | _ | _, id⟩ | _ | _ | _ <;> simp [conditionOf, Defect.category]

/-- Three tokens are a relation, or are none, however they are written. -/
theorem relationOf_sameKind (l l' m m' r r' : Text) (left middle right : Symbol) :
    (∃ defect defect', relationOf ⟨l, left⟩ ⟨m, middle⟩ ⟨r, right⟩ = .error defect ∧
      relationOf ⟨l', left⟩ ⟨m', middle⟩ ⟨r', right⟩ = .error defect' ∧
      defect.category = defect'.category) ∨
    ∃ c, relationOf ⟨l, left⟩ ⟨m, middle⟩ ⟨r, right⟩ =
        .ok (.relation ⟨l, left⟩ c ⟨r, right⟩) ∧
      relationOf ⟨l', left⟩ ⟨m', middle⟩ ⟨r', right⟩ =
        .ok (.relation ⟨l', left⟩ c ⟨r', right⟩) := by
  cases middle with
  | comparison c =>
    -- The left operand is blamed before the right one in both texts.
    have hleft := operandDefect?_category .left l l' left
    have hright := operandDefect?_category .right r r' right
    simp only [relationOf]
    cases hl : operandDefect? .left ⟨l, left⟩ with
    | some defect =>
      rw [hl] at hleft
      obtain ⟨defect', hl', hcategory⟩ := Option.map_eq_some_iff.1 hleft.symm
      rw [hl']
      exact .inl ⟨defect, defect', rfl, rfl, hcategory.symm⟩
    | none =>
      rw [hl] at hleft
      rw [Option.map_eq_none_iff.1 hleft.symm]
      cases hr : operandDefect? .right ⟨r, right⟩ with
      | some defect =>
        rw [hr] at hright
        obtain ⟨defect', hr', hcategory⟩ := Option.map_eq_some_iff.1 hright.symm
        rw [hr']
        exact .inl ⟨defect, defect', rfl, rfl, hcategory.symm⟩
      | none =>
        rw [hr] at hright
        rw [Option.map_eq_none_iff.1 hright.symm]
        exact .inr ⟨c, rfl, rfl⟩
  | _ => exact .inl ⟨_, _, rfl, rfl, rfl⟩

theorem relation_holds_sameKind (l l' r r' : Text) (left right : Symbol) (c : Comparison) :
    SameKind (Statement.holds state (.relation ⟨l, left⟩ c ⟨r, right⟩))
      (Statement.holds state (.relation ⟨l', left⟩ c ⟨r', right⟩)) := by
  rw [holds_relation, holds_relation]
  exact (number_sameKind state l l' left).bind fun a =>
    (number_sameKind state r r' right).bind fun b => .ok (c.holds a b)

/-- Tokens that stand for the same one by one state something together, or state nothing. -/
theorem statementOf_sameKind {ts ts' : List Token}
    (h : List.Forall₂ (fun t t' => t.symbol = t'.symbol) ts ts') :
    (∃ defect defect', statementOf ts = .error defect ∧ statementOf ts' = .error defect' ∧
      defect.category = defect'.category) ∨
    ∃ statement statement', statementOf ts = .ok statement ∧ statementOf ts' = .ok statement' ∧
      SameKind (statement.holds state) (statement'.holds state) := by
  match ts, ts', h with
  | _, _, .nil => exact .inl ⟨_, _, rfl, rfl, rfl⟩
  | [⟨text, symbol⟩], [⟨text', _⟩], .cons rfl .nil =>
    obtain hdefects | ⟨h, h'⟩ := conditionOf_sameKind text text' symbol
    · exact .inl hdefects
    · exact .inr ⟨_, _, h, h', condition_sameKind state text text' symbol⟩
  | _, _, .cons _ (.cons _ .nil) => exact .inl ⟨_, _, rfl, rfl, rfl⟩
  | [⟨l, left⟩, ⟨m, middle⟩, ⟨r, right⟩], [⟨l', _⟩, ⟨m', _⟩, ⟨r', _⟩],
      .cons rfl (.cons rfl (.cons rfl .nil)) =>
    obtain hdefects | ⟨c, h, h'⟩ := relationOf_sameKind l l' m m' r r' left middle right
    · exact .inl hdefects
    · exact .inr ⟨_, _, h, h', relation_holds_sameKind state l l' r r' left right c⟩
  | _, _, .cons _ (.cons _ (.cons _ (.cons _ _))) => exact .inl ⟨_, _, rfl, rfl, rfl⟩

theorem verdict_sameKind {ts ts' : List Token}
    (h : List.Forall₂ (fun t t' => t.symbol = t'.symbol) ts ts') (negated : Bool) :
    SameKind (verdict state negated ts) (verdict state negated ts') := by
  rw [verdict, verdict]
  obtain ⟨defect, defect', h, h', hcategory⟩ | ⟨statement, statement', h, h', hholds⟩ :=
    statementOf_sameKind state h
  · rw [h, h']
    exact .error (congrArg some hcategory)
  · rw [h, h']
    exact hholds.bind fun truth => .ok (truth != negated)

end

/-! ## Spellings of one token -/

/-- Zeros in front of digits do not count. -/
theorem naturalOf_zeros_append {zeros : Points} (h : ∀ p ∈ zeros, digitValue? p = some 0)
    (digits : Points) : naturalOf (zeros ++ digits) = naturalOf digits := by
  induction zeros with
  | nil => rfl
  | cons p zeros ih =>
    have hp : Text.digitValue p = 0 := by simp [Text.digitValue, h p List.mem_cons_self]
    rw [← ih fun q hq => h q (List.mem_cons_of_mem p hq)]
    simp [naturalOf, hp]

namespace Lexeme

/-- Two spellings of one token. -/
inductive Respells : Lexeme → Lexeme → Prop where
  | refl (l : Lexeme) : Respells l l
  /-- Zeros, of any script, in front of the digits of an id. -/
  | zerosOfId (kind : Game.Kind) {zeros digits : Points}
      (hzeros : ∀ p ∈ zeros, digitValue? p = some 0) (hdigits : digits ≠ []) :
      Respells (reference kind digits) (reference kind (zeros ++ digits))
  /-- Zeros, of any script, in front of the digits of an integer. -/
  | zeros (sign : Option Text.Sign) {zeros digits : Points}
      (hzeros : ∀ p ∈ zeros, digitValue? p = some 0) (hdigits : digits ≠ []) :
      Respells (literal sign digits) (literal sign (zeros ++ digits))
  | plus (digits : Points) : Respells (literal none digits) (literal (some .plus) digits)
  | comparison {spelling spelling' : String} {c : Comparison} (h : spelling ∈ c.spelled)
      (h' : spelling' ∈ c.spelled) : Respells (comparison spelling c) (comparison spelling' c)
  | symm {l l' : Lexeme} (h : Respells l l') : Respells l' l
  | trans {l l' l'' : Lexeme} (h : Respells l l') (h' : Respells l' l'') : Respells l l''

theorem isNumeral_zeros_append {zeros digits : Points}
    (hzeros : ∀ p ∈ zeros, digitValue? p = some 0) (hdigits : digits ≠ []) :
    IsNumeral (zeros ++ digits) ↔ IsNumeral digits := by
  constructor
  · rintro ⟨-, hall⟩
    exact ⟨hdigits, fun p hp => hall p (List.mem_append_right zeros hp)⟩
  · rintro ⟨-, hall⟩
    refine ⟨List.append_ne_nil_of_right_ne_nil zeros hdigits, fun p hp => ?_⟩
    rcases List.mem_append.1 hp with hp | hp
    · simp [isDigit, hzeros p hp]
    · exact hall p hp

/-- What all spellings of a token share. -/
structure Alike (l l' : Lexeme) : Prop where
  isWritten_iff : l.IsWritten ↔ l'.IsWritten
  isCondition_iff : l.IsCondition ↔ l'.IsCondition
  isValue_iff : l.IsValue ↔ l'.IsValue
  reading_eq : l.reading = l'.reading

theorem Respells.alike {l l' : Lexeme} (h : Respells l l') : Alike l l' := by
  -- Each step of respelling keeps all four, and all four are equivalences.
  induction h with
  | refl l => exact ⟨Iff.rfl, Iff.rfl, Iff.rfl, rfl⟩
  | zerosOfId kind hzeros hdigits =>
    refine ⟨(isNumeral_zeros_append hzeros hdigits).symm, ?_, ?_, ?_⟩
    · cases kind <;> exact Iff.rfl
    · cases kind <;> exact Iff.rfl
    · rw [reading, reading, naturalOf_zeros_append hzeros]
  | zeros sign hzeros hdigits =>
    refine ⟨(isNumeral_zeros_append hzeros hdigits).symm, Iff.rfl, Iff.rfl, ?_⟩
    rw [reading, reading, naturalOf_zeros_append hzeros]
  | plus digits => exact ⟨Iff.rfl, Iff.rfl, Iff.rfl, rfl⟩
  | comparison h h' => exact ⟨iff_of_true h h', Iff.rfl, Iff.rfl, rfl⟩
  | symm _ ih =>
    exact ⟨ih.isWritten_iff.symm, ih.isCondition_iff.symm, ih.isValue_iff.symm, ih.reading_eq.symm⟩
  | trans _ _ ih ih' =>
    exact ⟨ih.isWritten_iff.trans ih'.isWritten_iff, ih.isCondition_iff.trans ih'.isCondition_iff,
      ih.isValue_iff.trans ih'.isValue_iff, ih.reading_eq.trans ih'.reading_eq⟩

theorem Alike.eq_comparison {spelling : String} {c : Comparison} {l' : Lexeme}
    (h : Alike (comparison spelling c) l') : ∃ spelling', l' = comparison spelling' c := by
  have hreading := h.reading_eq
  cases l' with
  | comparison spelling' c' =>
    obtain rfl : c = c' := by simpa [reading] using hreading
    exact ⟨spelling', rfl⟩
  | _ => simp [reading] at hreading

end Lexeme

/-! ## Texts that fall into the same tokens -/

section

variable {state : Game.State} {text text' : Text} {negated : Bool} {ls ls' : List Lexeme}
  {rest : Points}

theorem Lexed.points_eq_nil_iff (h : Lexed text.points negated ls rest) :
    text.points = [] ↔ negated = false ∧ ls = [] ∧ rest = [] := by
  rw [h.points_eq]
  cases negated with
  | true => simp [mark]
  | false =>
    cases ls with
    | nil => simp [mark]
    | cons l ls =>
      obtain ⟨p, cs, hp, -⟩ := Lexeme.exists_starts h.munched.1
      simp [mark, hp]

/-- **Spelling the tokens of a text anew does not change its outcome**, if they still are the tokens
of the new text. (The tokens of `1====1` are no longer those of `1==1`.) -/
theorem Lexed.outcome_eq (h : Lexed text.points negated ls rest)
    (h' : Lexed text'.points negated ls' rest) (hls : List.Forall₂ Lexeme.Respells ls ls')
    (hshort : ShortNumerals text.points) (hshort' : ShortNumerals text'.points) :
    outcome state text' = outcome state text := by
  have hnil : text'.points = [] ↔ text.points = [] := by
    rw [h.points_eq_nil_iff, h'.points_eq_nil_iff]
    cases hls <;> simp
  rw [outcome, outcome, h.evaluate_eq hshort, h'.evaluate_eq hshort']
  by_cases hempty : text.points = []
  · rw [if_pos hempty, if_pos (hnil.2 hempty)]
    rfl
  · rw [if_neg hempty, if_neg (mt hnil.1 hempty)]
    by_cases hrest : rest = []
    · rw [if_pos hrest, if_pos hrest]
      have hsymbols : List.Forall₂ (fun t t' => t.symbol = t'.symbol)
          (ls.map Lexeme.asToken) (ls'.map Lexeme.asToken) := by
        rw [List.forall₂_map_left_iff, List.forall₂_map_right_iff]
        exact hls.imp fun _ _ hrespells => hrespells.alike.reading_eq
      -- The defects of the two texts quote different words but are of one class.
      obtain ⟨truth, hv, hv'⟩ | ⟨e, e', hv, hv', hcategory⟩ :=
        verdict_sameKind state hsymbols negated
      · rw [hv, hv']
        rfl
      · rw [hv, hv']
        simp only [Except.mapError, Unresolved.category?_refusal, hcategory]
    · rw [if_neg hrest, if_neg hrest]
      rfl

/-- A form stays one if its tokens are spelled anew. -/
theorem Form.Writes.respell {form : Form} (h : form.Writes text)
    (hls : List.Forall₂ Lexeme.Respells form.lexemes ls') :
    ∃ form' : Form, form'.negated = form.negated ∧ form'.lexemes = ls' ∧
      form'.Writes ⟨mark form.negated ++ written ls'⟩ := by
  cases form with
  | condition negated operand =>
    obtain ⟨hwritten, hcondition⟩ := h.grammatical
    match ls', hls with
    | [operand'], .cons hrespells .nil =>
      have halike := hrespells.alike
      exact ⟨.condition negated operand', rfl, rfl,
        ⟨halike.isWritten_iff.1 hwritten, halike.isCondition_iff.1 hcondition⟩, rfl⟩
  | relation negated left spelling c right =>
    obtain ⟨⟨hleft, hleftValue⟩, hspelled, hright, hrightValue⟩ := h.grammatical
    -- The token in the middle stays a comparison, and the same one.
    match ls', hls with
    | [left', middle', right'], .cons hl (.cons hm (.cons hr .nil)) =>
      obtain ⟨spelling', rfl⟩ := hm.alike.eq_comparison
      have hspelled' : spelling' ∈ c.spelled := hm.alike.isWritten_iff.1 hspelled
      refine ⟨.relation negated left' spelling' c right', rfl, rfl,
        ⟨⟨?_, ?_⟩, hspelled', ?_, ?_⟩, rfl⟩
      · exact hl.alike.isWritten_iff.1 hleft
      · exact hl.alike.isValue_iff.1 hleftValue
      · exact hr.alike.isWritten_iff.1 hright
      · exact hr.alike.isValue_iff.1 hrightValue

/-- In a form nothing runs together, so its tokens may be spelled anew in any way. -/
theorem Form.Writes.outcome_eq {form : Form} (h : form.Writes text)
    (hls : List.Forall₂ Lexeme.Respells form.lexemes ls') (hshort : ShortNumerals text.points)
    (hshort' : ShortNumerals (mark form.negated ++ written ls')) :
    outcome state ⟨mark form.negated ++ written ls'⟩ = outcome state text := by
  obtain ⟨form', hnegated, rfl, hwrites⟩ := h.respell hls
  have hlexed := hwrites.lexed
  rw [hnegated] at hlexed
  exact h.lexed.outcome_eq hlexed hls hshort hshort'

end

end GatedPrompt.Rule
