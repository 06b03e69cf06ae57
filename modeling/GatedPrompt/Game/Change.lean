import GatedPrompt.Game.State

/-!
# Changes of a game

* `Change` — a new value for one datum of a game, or a whole other state, as when a saved game is
  loaded;
* `State.apply` — the state after a change.
-/

namespace GatedPrompt.Game

/-- What can happen to the state of a game. -/
inductive Change where
  | switch (id : Int) (value : Bool)
  | var (id : Int) (value : Int)
  | gold (value : Int)
  | party (members : List Int)
  | count (thing : Thing) (id : Int) (value : Int)
  /-- The game goes on from another state. -/
  | load (state : State)
  deriving DecidableEq, Repr, Inhabited

/-- The state after a change. -/
def State.apply (state : State) : Change → State
  | .switch id value => { state with switches := state.switches.set id value }
  | .var id value => { state with vars := state.vars.set id value }
  | .gold value => { state with gold := value }
  | .party members => { state with party := members }
  | .count .item id value => { state with items := state.items.set id value }
  | .count .weapon id value => { state with weapons := state.weapons.set id value }
  | .count .armour id value => { state with armours := state.armours.set id value }
  | .load other => other

end GatedPrompt.Game
