import GatedPrompt.Rule.Defect
import GatedPrompt.Rule.Token

/-!
# Rules

A rule is a condition on the game: a lone operand that is true or false, or a comparison of two
operands with a value. A leading exclamation mark negates it.

* `Rule` — a rule whose parts are in their places;
* `Rule.tokens` — the tokens of a text, each the longest at its place, or the first place where no
  token can be read;
* `Rule.parse` — the rule that a text states, or its defect.

The defect is the first that shows: no text, then unreadable characters, then the number of tokens,
then their places from the comparison over the left operand to the right one.
-/

namespace GatedPrompt

/-- What a rule states. -/
inductive Rule.Statement where
  /-- The operand holds by itself. -/
  | condition (operand : Rule.Token)
  /-- The operands stand in a relation. -/
  | relation (left : Rule.Token) (comparison : Rule.Comparison) (right : Rule.Token)
  deriving DecidableEq, Repr, Inhabited

/-- A rule whose parts are in their places. -/
structure Rule where
  /-- The rule as it was written. -/
  text : Text
  negated : Bool
  statement : Rule.Statement
  deriving DecidableEq, Repr, Inhabited

namespace Rule

/-- Why no token can be read at some place of a text. -/
inductive Obstacle where
  /-- No token starts at the given rest of the text. -/
  | unreadable (rest : Text.Points)
  /-- The numeral of the token has too many digits. -/
  | oversized (fault : Text.Oversized)
  deriving DecidableEq, Repr, Inhabited

/-- The refusal of a rule text for an obstacle in it. -/
def Obstacle.refusal (text : Text) : Obstacle → Refusal
  | unreadable rest => .malformed ⟨text, .unreadable ⟨rest⟩⟩
  | oversized fault => .oversized fault

/-- The tokens of a text. -/
def tokens : Text.Points → Except Obstacle (List Token)
  | [] => .ok []
  | c :: cs =>
    match _h : Lexeme.next? (c :: cs) with
    | none => .error (.unreadable (c :: cs))
    | some (l, rest) =>
      match l.token with
      | .error fault => .error (.oversized fault)
      | .ok token =>
        match tokens rest with
        | .error obstacle => .error obstacle
        | .ok others => .ok (token :: others)
termination_by cs => cs.length
decreasing_by exact Lexeme.length_lt_of_next? _h

/-- Whether a text starts with the negation mark, and the text behind the mark. -/
def splitNegation : Text.Points → Bool × Text.Points
  | .char '!' :: cs => (true, cs)
  | cs => (false, cs)

/-- The tokens of a rule text, and whether it is negated. -/
def tokenize (text : Text) : Except Refusal (List Token × Bool) :=
  match text.points with
  | [] => .error (.malformed ⟨text, .empty⟩)
  | cs =>
    let (negated, body) := splitNegation cs
    match tokens body with
    | .error obstacle => .error (obstacle.refusal text)
    | .ok ts => .ok (ts, negated)

/-- The defect of a token that stands as an operand of a comparison, if it may not. -/
def operandDefect? (side : Side) (token : Token) : Option Defect :=
  match token.symbol with
  | .reference .switch _ => some (.incomparable token.text)
  | .reference .actor _ => some (.incomparable token.text)
  | .comparison _ => some (.notAnOperand side token.text)
  | _ => none

/-- The condition that a lone token states. -/
def conditionOf (token : Token) : Except Defect Statement :=
  match token.symbol with
  | .reference .var _ => .error (.cannotStandAlone token.text)
  | .reference _ _ => .ok (.condition token)
  | _ => .error (.cannotStandAlone token.text)

/-- The relation that three tokens state. -/
def relationOf (left middle right : Token) : Except Defect Statement :=
  match middle.symbol with
  | .comparison comparison =>
    match operandDefect? .left left, operandDefect? .right right with
    -- The left operand is blamed first.
    | some defect, _ => .error defect
    | none, some defect => .error defect
    | none, none => .ok (.relation left comparison right)
  | _ => .error (.notAComparison middle.text)

/-- What a list of tokens states. -/
def statementOf : List Token → Except Defect Statement
  | [token] => conditionOf token
  | [left, middle, right] => relationOf left middle right
  | ts => .error (.tokenCount ts.length)

/-- The rule that a text states. -/
def parse (text : Text) : Except Refusal Rule :=
  match tokenize text with
  | .error refusal => .error refusal
  | .ok (ts, negated) =>
    match statementOf ts with
    | .error defect => .error (.malformed ⟨text, defect⟩)
    | .ok statement => .ok ⟨text, negated, statement⟩

/-- A rule keeps the text it was parsed from. -/
theorem text_of_parse {text : Text} {rule : Rule} (h : parse text = .ok rule) :
    rule.text = text := by
  unfold parse at h
  split at h
  · simp at h
  · split at h
    · simp at h
    · simp only [Except.ok.injEq] at h
      rw [← h]

end Rule

end GatedPrompt
