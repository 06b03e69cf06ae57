import GatedPrompt.Game.Table
import GatedPrompt.Text.Numeral

/-!
# The state of a game

The data of a running game that the rules of choices read: switches, variables, gold, the party and
what it carries. Database ids start at one; a switch that was never set is off, a variable that was
never set is zero, and of a thing that is not carried there are zero.

* `Kind` — the sorts of data a rule can name by an id;
* `State` — a snapshot of a game;
* `requireId` — an id of a game database, or the `IdFault` of it: it is unknown, or not even the
  refusal of it can be written;
* `State.switch`, `State.variableValue`, `State.hasActor`, `State.count` — the four queries by id,
  each of which refuses ids below one.
-/

namespace GatedPrompt.Game

/-- What the party can carry. -/
inductive Thing where
  | item
  | weapon
  | armour
  deriving DecidableEq, Repr, Inhabited

/-- The sorts of game data that have ids. -/
inductive Kind where
  | switch
  | var
  | actor
  | thing (thing : Thing)
  deriving DecidableEq, Repr, Inhabited

/-- The name of a sort of data in messages. -/
def Kind.name : Kind → String
  | .switch => "switch"
  | .var => "variable"
  | .actor => "actor"
  | .thing .item => "item"
  | .thing .weapon => "weapon"
  | .thing .armour => "armour"

/-- An id that no game database has. -/
structure UnknownId where
  kind : Kind
  id : Int
  deriving DecidableEq, Repr, Inhabited

def UnknownId.message (unknown : UnknownId) : String :=
  s!"No {unknown.kind.name} with id {unknown.id}."

/-- Why a query by an id has no answer. -/
inductive IdFault where
  | unknown (id : UnknownId)
  /-- The id is unknown and has too many digits to say so. -/
  | oversized (fault : Text.Oversized)
  deriving DecidableEq, Repr, Inhabited

def IdFault.message : IdFault → String
  | .unknown id => id.message
  | .oversized fault => fault.message

/-- A snapshot of a game. -/
structure State where
  switches : Table Bool := .empty
  vars : Table Int := .empty
  gold : Int := 0
  /-- The ids of the actors in the party. -/
  party : List Int := []
  items : Table Int := .empty
  weapons : Table Int := .empty
  armours : Table Int := .empty
  deriving DecidableEq, Repr, Inhabited

/-- An id of a game database: ids start at one. The refusal of any other one names it. -/
def requireId (kind : Kind) (id : Int) : Except IdFault Int :=
  if id < 1 then
    match Text.requireWritable id with
    | .error fault => .error (.oversized fault)
    | .ok () => .error (.unknown ⟨kind, id⟩)
  else .ok id

namespace State

/-- Whether a switch is on. -/
def switch (state : State) (id : Int) : Except IdFault Bool :=
  (requireId .switch id).map fun id => (state.switches.get? id).getD false

def variableValue (state : State) (id : Int) : Except IdFault Int :=
  (requireId .var id).map fun id => (state.vars.get? id).getD 0

/-- Whether an actor is in the party. -/
def hasActor (state : State) (id : Int) : Except IdFault Bool :=
  (requireId .actor id).map fun id => state.party.contains id

/-- What the party carries of one sort. -/
def carried (state : State) : Thing → Table Int
  | .item => state.items
  | .weapon => state.weapons
  | .armour => state.armours

/-- How many of a thing the party carries. -/
def count (state : State) (thing : Thing) (id : Int) : Except IdFault Int :=
  (requireId (.thing thing) id).map fun id => ((state.carried thing).get? id).getD 0

end State

/-- An id below one is refused: as unknown, or for the numeral that would have to be written. -/
theorem requireId_of_le_zero {kind : Kind} {id : Int} (h : id ≤ 0) :
    requireId kind id =
      .error (if Text.isUnwritable id then .oversized .integer else .unknown ⟨kind, id⟩) := by
  have hlt : id < 1 := by omega
  rw [requireId, if_pos hlt, Text.requireWritable]
  cases Text.isUnwritable id <;> rfl

/-- The id zero is refused as unknown. -/
theorem requireId_zero (kind : Kind) : requireId kind 0 = .error (.unknown ⟨kind, 0⟩) := by
  rw [requireId, if_pos (by decide), Text.requireWritable_zero]

/-- An id from one on is taken as it is. -/
theorem requireId_of_pos {kind : Kind} {id : Int} (h : 1 ≤ id) : requireId kind id = .ok id := by
  have hlt : ¬id < 1 := by omega
  simp [requireId, hlt]

end GatedPrompt.Game
