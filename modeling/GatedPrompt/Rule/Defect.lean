import GatedPrompt.Game.State
import GatedPrompt.Text.Basic
import GatedPrompt.Text.Numeral

/-!
# Defects of rules

What can be wrong with a rule, from its letters to the game data it names.

* `Defect` — a cause, with the part of the rule that shows it;
* `Defect.category` and `Defect.detail` — its class and its wording;
* `Malformed` — a rule text together with its defect;
* `Refusal` — why a rule text has no answer: it is malformed, or it has a numeral with too many
  digits, which no policy on malformed rules covers;
* `Unresolved` — why a token has no answer in a game, which `Unresolved.refusal` turns into the
  refusal of a rule text.
-/

namespace GatedPrompt.Rule

/-- The two operands of a comparison. -/
inductive Side where
  | left
  | right
  deriving DecidableEq, Repr, Inhabited

inductive Defect where
  | empty
  /-- No token starts at the given rest of the rule. -/
  | unreadable (rest : Text)
  /-- A rule has one token or three. -/
  | tokenCount (count : Nat)
  /-- The token is no condition by itself. -/
  | cannotStandAlone (token : Text)
  /-- A comparison has to stand between the operands. -/
  | notAComparison (token : Text)
  /-- Switches and actors have no value to compare. -/
  | incomparable (token : Text)
  /-- A comparison stands where an operand has to be. -/
  | notAnOperand (side : Side) (token : Text)
  /-- The token has no truth value. -/
  | notACondition (token : Text)
  /-- The token has no numeric value. -/
  | notANumber (token : Text)
  /-- The token names no id. -/
  | noId (token : Text)
  /-- The game database has no such id. -/
  | unknownId (unknown : Game.UnknownId)
  deriving DecidableEq, Repr, Inhabited

/-- The classes of defects. -/
inductive Category where
  | emptyRule
  | unexpectedCharacters
  | tokenCount
  | invalidFirstOperand
  | invalidOperator
  | invalidSecondOperand
  | illegalOperandPosition
  | unresolvedReference
  deriving DecidableEq, Repr, Inhabited

def Category.code : Category → String
  | emptyRule => "EMPTY_RULE"
  | unexpectedCharacters => "UNEXPECTED_CHARACTERS"
  | tokenCount => "TOKEN_COUNT"
  | invalidFirstOperand => "INVALID_FIRST_OPERAND"
  | invalidOperator => "INVALID_OPERATOR"
  | invalidSecondOperand => "INVALID_SECOND_OPERAND"
  | illegalOperandPosition => "ILLEGAL_OPERAND_POSITION"
  | unresolvedReference => "UNRESOLVED_REFERENCE"

def Category.title : Category → String
  | emptyRule => "empty rule"
  | unexpectedCharacters => "unexpected characters"
  | tokenCount => "unexpected token count"
  | invalidFirstOperand => "invalid first operand"
  | invalidOperator => "invalid comparison operator"
  | invalidSecondOperand => "invalid second operand"
  | illegalOperandPosition => "illegal operand position"
  | unresolvedReference => "unresolved reference"

namespace Defect

def category : Defect → Category
  | empty => .emptyRule
  | unreadable _ => .unexpectedCharacters
  | tokenCount _ => .tokenCount
  | cannotStandAlone _ => .invalidFirstOperand
  | notAComparison _ => .invalidOperator
  | incomparable _ => .illegalOperandPosition
  | notAnOperand .left _ => .invalidFirstOperand
  | notAnOperand .right _ => .invalidSecondOperand
  | notACondition _ => .invalidFirstOperand
  | notANumber _ => .illegalOperandPosition
  | noId _ => .unresolvedReference
  | unknownId _ => .unresolvedReference

def detail : Defect → Text
  | empty => "Rule has no content."
  | unreadable rest => "Characters '" ++ rest ++ "' could not be processed."
  | tokenCount count => s!"Expected 1 or 3 tokens but found {count}."
  | cannotStandAlone token =>
    "'" ++ token ++ "' cannot stand alone; only switches, actors and inventory can."
  | notAComparison token => "Expected a comparison operator but found '" ++ token ++ "'."
  | incomparable token =>
    "'" ++ token ++ "' cannot be compared; switches and actors are conditions only."
  | notAnOperand _ token => "'" ++ token ++ "' is not an operand."
  | notACondition token => "'" ++ token ++ "' does not resolve to a condition."
  | notANumber token => "'" ++ token ++ "' does not resolve to a number."
  | noId token => "'" ++ token ++ "' has no id."
  | unknownId unknown => unknown.message

end Defect

/-- A rule text and what is wrong with it. -/
structure Malformed where
  rule : Text
  defect : Defect
  deriving DecidableEq, Repr, Inhabited

def Malformed.message (malformed : Malformed) : Text :=
  "Malformed rule '" ++ malformed.rule ++ s!"' ({malformed.defect.category.title}): " ++
    malformed.defect.detail

/-- Why a rule text has no answer. -/
inductive Refusal where
  | malformed (malformed : Malformed)
  | oversized (fault : Text.Oversized)
  deriving DecidableEq, Repr, Inhabited

/-- Why a token has no answer in a game. -/
inductive Unresolved where
  | defect (defect : Defect)
  /-- The id of the token is unknown and has too many digits to say so. -/
  | oversized (fault : Text.Oversized)
  deriving DecidableEq, Repr, Inhabited

/-- The refusal of a rule text over one of its tokens. -/
def Unresolved.refusal (rule : Text) : Unresolved → Refusal
  | .defect d => .malformed ⟨rule, d⟩
  | .oversized fault => .oversized fault

/-- How a failed query by an id tells on the token that asked. -/
def Unresolved.ofIdFault : Game.IdFault → Unresolved
  | .unknown id => .defect (.unknownId id)
  | .oversized fault => .oversized fault

end GatedPrompt.Rule
