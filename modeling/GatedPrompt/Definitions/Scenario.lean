import GatedPrompt.Definitions.Shape
import GatedPrompt.Game.State
import GatedPrompt.Prompt.Basic

/-!
# Reading scenarios

A scenario is a snapshot of a game and some prompts to play in it.

* `readState` — the snapshot; the keys of its maps are ids in digits of any script, and of several
  keys for one id the last one counts;
* `readPrompts` — the prompts by their ids;
* `readScenario` — the prompts, once the snapshot is found to be in order, and the object that the
  snapshot can be read from again;
* `Prompts.ids` and `Prompts.named` — the ids of prompts by code points, and the prompt with an id.
-/

namespace GatedPrompt.Definitions

open Game (State Table)
open Json (Value)
open Prompt (Descriptor)

/-- Prompts with their ids, in the order of the file. -/
abbrev Prompts := List (Text × Descriptor)

/-! ## The snapshot -/

/-- The id that a key of digits stands for. A key with digits that have no positional value stands
for none; the digits before the first of them must not be too many all the same. -/
def readKey (key : Text) : Except Failure Nat :=
  let digits := key.points.takeWhile Text.isDigit
  match Text.readNatural digits with
  | .error fault => .error (.oversized fault)
  | .ok n => if digits.length = key.points.length then .ok n else .error (.notANumeral key)

/-- Whether a key is made of digits. -/
def isIdKey (key : Text) : Bool := !key.isEmpty && key.points.all Text.isDigitLike

/-- An entry of a map with ids as keys. -/
def readIdEntry {α : Type} (place : Text) (read : Text → Value → Except Failure α)
    (key : Text) (value : Value) : Except Failure (Int × α) := do
  if !isIdKey key then throw (.invalid (.badKeys place))
  -- The value is checked before the key is read as a number.
  let entry ← read (place ++ "['" ++ key ++ "']") value
  let id ← readKey key
  return (id, entry)

/-- The entries of a map with ids as keys. -/
def readIdEntries {α : Type} (place : Text) (read : Text → Value → Except Failure α) :
    Members → Except Failure (List (Int × α))
  | [] => .ok []
  | (key, value) :: members => do
    let first ← readIdEntry place read key value
    let others ← readIdEntries place read members
    return first :: others

/-- A map with ids as keys; a missing one is empty. -/
def readIdMap {α : Type} (place : Text) (read : Text → Value → Except Failure α)
    (value : Option Value) : Except Failure (Table α) :=
  match value with
  | none => .ok .empty
  | some value => do
    let members ← requireObject place value
    let entries ← readIdEntries place read members
    return .ofList entries

/-- A list; a missing one is empty. -/
def readList (place : Text) (value : Option Value) : Except Failure (List Value) :=
  match value with
  | none => .ok []
  | some value => requireList place value

/-- An integer; a missing one has a default. -/
def readInteger (place : Text) (default : Int) (value : Option Value) : Except Failure Int :=
  match value with
  | none => .ok default
  | some value => requireInteger place value

/-- The snapshot of a game that an object defines. -/
def readState (members : Members) : Except Failure State := do
  let items ← readIdMap "scenario.state.items" requireInteger (memberNamed? "items" members)
  let weapons ← readIdMap "scenario.state.weapons" requireInteger (memberNamed? "weapons" members)
  let armours ← readIdMap "scenario.state.armours" requireInteger (memberNamed? "armours" members)
  let party ← readList "scenario.state.party" (memberNamed? "party" members)
  let switches ←
    readIdMap "scenario.state.switches" requireBoolean (memberNamed? "switches" members)
  let vars ←
    readIdMap "scenario.state.variables" requireInteger (memberNamed? "variables" members)
  let gold ← readInteger "scenario.state.gold" 0 (memberNamed? "gold" members)
  -- That the party is a list is checked first, what it lists only here.
  let actors ← readElements "scenario.state.party" requireInteger party
  return ⟨switches, vars, gold, actors, items, weapons, armours⟩

/-! ## The prompts -/

/-- The prompt that a value defines. -/
def readPrompt (id : Text) (value : Value) : Except Failure Descriptor := do
  let place : Text := "scenario.prompts['" ++ id ++ "']"
  let members ← requireObject place value
  let choices ← requireList (place ++ ".choices") ((memberNamed? "choices" members).getD .null)
  let texts ← readElements (place ++ ".choices") requireString choices
  let defaultIndex ← readInteger (place ++ ".default") (-1) (memberNamed? "default" members)
  let cancelIndex ← readInteger (place ++ ".cancel") (-1) (memberNamed? "cancel" members)
  return ⟨texts, defaultIndex, cancelIndex⟩

/-- The prompts that an object defines. -/
def readPrompts : Members → Except Failure Prompts
  | [] => .ok []
  | (id, value) :: members => do
    let first ← readPrompt id value
    let others ← readPrompts members
    return (id, first) :: others

/-- The object of the snapshot in a scenario; a missing one is empty. -/
def snapshotIn (members : Members) : Except Failure Members :=
  requireObject "scenario.state" ((memberNamed? "state" members).getD (.object []))

/-- The object of the prompts in a scenario. -/
def promptsIn (members : Members) : Except Failure Members :=
  requireObject "scenario.prompts" ((memberNamed? "prompts" members).getD .null)

/-- The prompts that the object of a scenario defines. Beside them stands the object of the
snapshot, even if something behind it is not in order. -/
def readScenario (members : Members) : Option Members × Except Failure Prompts :=
  match snapshotIn members with
  | .error failure => (none, .error failure)
  | .ok snapshot =>
    (some snapshot, do
      -- Here the snapshot is only tried; who asks for it has it read again.
      let _ ← readState snapshot
      let prompts ← promptsIn members
      readPrompts prompts)

namespace Prompts

/-- The order of texts by code points. -/
def pointsLe : Text.Points → Text.Points → Bool
  | [], _ => true
  | _ :: _, [] => false
  | p :: ps, q :: qs => decide (p.value < q.value) || (p.value == q.value && pointsLe ps qs)

/-- The order of ids by code points. -/
def idLe (a b : Text) : Bool := pointsLe a.points b.points

/-- The ids of prompts, by code points. -/
def ids (prompts : Prompts) : List Text := (prompts.map (·.1)).mergeSort idLe

/-- The prompt with an id. -/
def named (prompts : Prompts) (id : Text) : Except Failure Descriptor :=
  match prompts.lookup id with
  | some descriptor => .ok descriptor
  | none => .error (.unknown id)

end Prompts

end GatedPrompt.Definitions
