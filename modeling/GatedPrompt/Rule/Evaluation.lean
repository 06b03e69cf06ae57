import GatedPrompt.Rule.Basic

/-!
# What rules say about a game

* `Token.condition` — whether a lone operand holds: a switch is on, an actor is in the party, a
  thing is carried;
* `Token.number` — the value of an operand of a comparison;
* `Rule.holds` — whether a rule holds in a state;
* `Rule.evaluate` — the same from the text of the rule.

Only references to the id zero can fail once a text has been parsed; the other failures arise for
tokens that a caller puts together itself.
-/

namespace GatedPrompt.Rule

/-- The answer to a query by the id of a token. -/
def lookup {α : Type} (token : Token) (id : Option Int)
    (query : Int → Except Game.IdFault α) : Except Unresolved α :=
  match id with
  | none => .error (.defect (.noId token.text))
  | some id => (query id).mapError .ofIdFault

/-- Among the natural numbers, which are the ids that a text can name, only zero is refused. -/
theorem lookup_natural {α : Type} (token : Token) (kind : Game.Kind) (n : Nat) (find : Int → α) :
    lookup token (some (n : Int)) (fun id => (Game.requireId kind id).map find) =
      if n = 0 then .error (.defect (.unknownId ⟨kind, 0⟩)) else .ok (find n) := by
  by_cases hn : n = 0
  · subst hn
    have hrefused : Game.requireId kind ((0 : Nat) : Int) = .error (.unknown ⟨kind, 0⟩) :=
      Game.requireId_zero kind
    rw [lookup, hrefused]
    rfl
  · have hpos : (1 : Int) ≤ n := by omega
    rw [lookup, Game.requireId_of_pos hpos, if_neg hn]
    rfl

/-- Whether a lone operand holds. -/
def Token.condition (state : Game.State) (token : Token) : Except Unresolved Bool :=
  match token.symbol with
  | .reference .switch id => lookup token id state.switch
  | .reference .actor id => lookup token id state.hasActor
  | .reference (.thing thing) id =>
    match lookup token id (state.count thing) with
    | .error unresolved => .error unresolved
    | .ok count => .ok (decide (0 < count))
  | _ => .error (.defect (.notACondition token.text))

/-- The value of an operand of a comparison. -/
def Token.number (state : Game.State) (token : Token) : Except Unresolved Int :=
  match token.symbol with
  | .literal (some value) => .ok value
  | .gold => .ok state.gold
  | .reference .var id => lookup token id state.variableValue
  | .reference (.thing thing) id => lookup token id (state.count thing)
  | _ => .error (.defect (.notANumber token.text))

/-- Whether what a rule states is true of a game. -/
def Statement.holds (state : Game.State) : Statement → Except Unresolved Bool
  | .condition operand => operand.condition state
  | .relation left comparison right =>
    match left.number state with
    | .error unresolved => .error unresolved
    | .ok l =>
      match right.number state with
      | .error unresolved => .error unresolved
      | .ok r => .ok (comparison.holds l r)

/-- Whether a rule holds in a game: its statement does, or does not if the rule is negated. -/
def holds (state : Game.State) (rule : Rule) : Except Unresolved Bool :=
  match rule.statement.holds state with
  | .error unresolved => .error unresolved
  | .ok truth => .ok (truth != rule.negated)

/-- Whether the rule that a text states holds in a game. -/
def evaluate (state : Game.State) (text : Text) : Except Refusal Bool :=
  match parse text with
  | .error refusal => .error refusal
  | .ok rule => (rule.holds state).mapError (Unresolved.refusal rule.text)

end GatedPrompt.Rule
