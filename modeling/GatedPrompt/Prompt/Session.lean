import GatedPrompt.Prompt.Analysis
import GatedPrompt.Prompt.Selection

/-!
# Sessions

A session shows at most one prompt at a time. Opening a prompt reads the game once; from then on
the answers depend on what was read, not on the game.

* `View` — what the host needs to draw the menu; `Context.viewWith` is that of a context and a row
  to highlight;
* `Session` — the settings and the context of the active prompt, if there is one;
* `Session.openPrompt`, `confirm`, `cancel`, `close` — the four operations;
* `Session.after` — which events close a prompt.
-/

namespace GatedPrompt.Prompt

/-- What the host needs to draw a menu. -/
structure View where
  labels : List Text
  /-- The index of the choice on each row. -/
  indices : List Int
  /-- The row to highlight. -/
  initialRow : Option Int
  disabledRows : List Int
  deriving DecidableEq, Repr, Inhabited

/-- The number of rows of a menu. -/
def View.rowCount (view : View) : Nat := view.labels.length

/-- The rows of the disabled choices. -/
def Context.disabledRows (context : Context) : List Int :=
  (context.visible.filter (·.disabled)).filterMap (·.row)

/-- What the host needs to draw the menu of a context with a row to highlight. -/
def Context.viewWith (context : Context) (highlighted : Option Int) : View :=
  ⟨context.labels, context.backMapping, highlighted, context.disabledRows⟩

/-- What the host needs to draw the menu of a context. -/
def Context.view (settings : Settings) (context : Context) : Attempt Text.Oversized View := do
  let highlighted ← context.initialRow settings
  return context.viewWith highlighted

/-- Why an operation of a session fails. -/
inductive Failure where
  /-- Confirming and cancelling need an active prompt. -/
  | noActivePrompt
  /-- The prompt could not be analysed. -/
  | aborted (abort : Rule.Abort)
  /-- A number to report has too many digits. -/
  | oversized (fault : Text.Oversized)
  deriving DecidableEq, Repr, Inhabited

def Failure.message : Failure → Text
  | noActivePrompt => "No choice prompt is active."
  | aborted abort => abort.message
  | oversized fault => fault.message

/-- The settings and the context of the active prompt. -/
structure Session where
  settings : Settings
  context : Option Context := none
  deriving DecidableEq, Repr, Inhabited

namespace Session

/-- Whether a prompt is active. -/
def isActive (session : Session) : Bool := session.context.isSome

/-- The session without an active prompt. -/
def close (session : Session) : Session := { session with context := none }

/-- Opens a prompt in place of the one that may be active. Without choices there is no view, and the
host has to go on by itself. -/
def openPrompt (session : Session) (state : Game.State) (descriptor : Descriptor) :
    Logged (Session × Except Failure (Option View)) := do
  match ← (process session.settings state descriptor).run with
  -- The prompt that was active before is gone, whatever comes of the new one.
  | .error abort => return (session.close, .error (.aborted abort))
  | .ok none => return (session.close, .ok none)
  | .ok (some context) =>
    let drawn ← (context.view session.settings).run
    -- The prompt is active by now, even if it cannot be drawn.
    return ({ session with context := some context }, (drawn.map some).mapError .oversized)

/-- The session after an event: making a choice closes the prompt, and so does a cancelling that is
left to the host. -/
def after (session : Session) : Event → Session
  | .committed _ => session.close
  | .hostCancel _ => session.close
  | .rejected _ => session
  | .ignored _ => session

/-- Answers with the outcome that the active prompt gives. -/
def respond (session : Session) (outcome : Context → Attempt Text.Oversized Event) :
    Logged (Session × Except Failure Event) :=
  match session.context with
  | none => return (session, .error .noActivePrompt)
  | some context => do
    match ← (outcome context).run with
    | .error fault => return (session, .error (.oversized fault))
    | .ok event => return (session.after event, .ok event)

/-- Confirms a row of the menu. -/
def confirm (session : Session) (row : Int) : Logged (Session × Except Failure Event) :=
  session.respond fun context => context.confirm session.settings row

/-- Cancels the menu. -/
def cancel (session : Session) : Logged (Session × Except Failure Event) :=
  session.respond fun context => context.cancel session.settings

end Session

end GatedPrompt.Prompt
