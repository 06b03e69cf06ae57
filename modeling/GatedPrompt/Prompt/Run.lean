import GatedPrompt.Game.Change
import GatedPrompt.Prompt.Session

/-!
# Runs

A session next to a game that goes on while prompts are shown.

* `Request` — what can happen: an operation of the session, or a change of the game;
* `Run.step` — one request and its answer;
* `Run.steps` — a list of requests and their answers.
-/

namespace GatedPrompt.Prompt

/-- A session next to a game. -/
structure Run where
  session : Session
  state : Game.State
  deriving DecidableEq, Repr, Inhabited

/-- What can happen in a run. -/
inductive Request where
  | openPrompt (descriptor : Descriptor)
  | confirm (row : Int)
  | cancel
  | close
  /-- The game goes on. -/
  | change (change : Game.Change)
  deriving DecidableEq, Repr, Inhabited

/-- What a request is answered with. -/
inductive Answer where
  | view (view : Option View)
  | event (event : Event)
  | done
  deriving DecidableEq, Repr, Inhabited

/-- One step of a run. -/
def Run.step (run : Run) : Request → Logged (Run × Except Failure Answer)
  | .openPrompt descriptor => do
    let (session, answer) ← run.session.openPrompt run.state descriptor
    return ({ run with session := session }, answer.map .view)
  | .confirm row => do
    let (session, answer) ← run.session.confirm row
    return ({ run with session := session }, answer.map .event)
  | .cancel => do
    let (session, answer) ← run.session.cancel
    return ({ run with session := session }, answer.map .event)
  | .close => return ({ run with session := run.session.close }, .ok .done)
  | .change change => return ({ run with state := run.state.apply change }, .ok .done)

/-- A list of requests, with the answer and the notices of each. -/
def Run.steps (run : Run) : List Request → Run × List (Logged (Except Failure Answer))
  | [] => (run, [])
  | request :: requests =>
    let ⟨notices, next, answer⟩ := run.step request
    let (last, answers) := next.steps requests
    (last, ⟨notices, answer⟩ :: answers)

end GatedPrompt.Prompt
