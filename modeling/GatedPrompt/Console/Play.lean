import GatedPrompt.Console.Dialogue
import GatedPrompt.Console.Menu
import GatedPrompt.Text.Blank

/-!
# Playing prompts on the console

The dialogue with a player, one line of input at a time.

* `react` — what a line of input comes to while a prompt is active;
* `Waiting` — a dialogue that waits for a line;
* `openNext` — goes on to the next prompt that has choices;
* `reply` and `playLines` — a dialogue with one line of input, and with all of them.
-/

namespace GatedPrompt.Console

open Prompt (Descriptor Event Session View)

/-- A dialogue that waits for a line. -/
structure Waiting where
  session : Session
  state : Game.State
  view : View
  /-- The prompts that follow. -/
  rest : List (Text × Descriptor)
  deriving DecidableEq, Repr, Inhabited

/-- What asks the player for a line. -/
def question : String := "Select an option (c to cancel): "

/-! ## One line of input -/

/-- What a line of input asks for. -/
inductive Command where
  | cancel
  | row (row : Int)
  /-- The line is neither a number nor the letter for cancelling. -/
  | unclear
  deriving DecidableEq, Repr, Inhabited

/-- What a line of input asks for; the player counts rows from one. -/
def Command.ofLine (line : String) : Command :=
  let points := Text.trim (Text.ofString line).points
  if points = [.char 'c'] ∨ points = [.char 'C'] then .cancel
  else
    match Text.parseInteger? points with
    | some n => .row (n - 1)
    -- A numeral with too many digits is as unclear as a word.
    | none => .unclear

def labelOf (view : View) (index : Int) : Text :=
  ((view.indices.zip view.labels).lookup index).getD ""

/-- What a line of input comes to while a prompt is active. -/
inductive Reaction where
  /-- The prompt stays, and the player is asked again after a message. -/
  | again (message : Text)
  /-- An event closes the prompt after a message. -/
  | closed (message : Text) (event : Event)
  deriving DecidableEq, Repr, Inhabited

/-- What the player is told when nothing readable was entered. -/
def unclearMessage : String := "Please enter a number.\n"

def Reaction.ofEvent (view : View) : Event → Reaction
  | .committed index =>
    .closed (s!"Chose option {index + 1}: " ++ labelText (labelOf view index) ++ "\n")
      (.committed index)
  | .hostCancel cancelType => .closed "Cancelled.\n" (.hostCancel cancelType)
  | .rejected none => .again "That choice is not available.\n"
  | .rejected (some cue) => .again ("That choice is not available. [" ++ cue.name ++ "]\n")
  | .ignored _ => .again s!"Please enter a value between 1 and {view.rowCount}.\n"

def Reaction.ofAnswer (view : View) (answer : Except Prompt.Failure Event) :
    Except Crash Reaction :=
  match answer with
  | .error failure => .error (.session failure)
  | .ok event => .ok (.ofEvent view event)

/-- What a line of input comes to while a prompt is active. -/
def react (session : Session) (view : View) (line : String) :
    Logged (Session × Except Crash Reaction) :=
  match Command.ofLine line with
  | .unclear => return (session, .ok (.again unclearMessage))
  | .cancel => do
    let (session, answer) ← session.cancel
    return (session, Reaction.ofAnswer view answer)
  | .row row => do
    let (session, answer) ← session.confirm row
    return (session, Reaction.ofAnswer view answer)

/-! ## Dialogues -/

/-- Goes on to the next prompt that has choices. -/
def openNext (encoding : Encoding) (session : Session) (state : Game.State) :
    List (Text × Descriptor) → Dialogue Waiting
  | [] => do
    Dialogue.print encoding "Goodbye!\n"
    Dialogue.stop (.exit 0)
  | (id, descriptor) :: rest => do
    let ⟨notices, session, answer⟩ := session.openPrompt state descriptor
    Dialogue.note notices
    match answer with
    | .error (.aborted (.malformed malformed)) =>
      Dialogue.note [.promptAborted id malformed]
      Dialogue.stop (.exit 1)
    | .error failure => Dialogue.stop (.crash (.session failure))
    | .ok none =>
      Dialogue.print encoding ("Prompt '" ++ id ++ "' has no choices.\n")
      openNext encoding session state rest
    | .ok (some view) =>
      Dialogue.printAll encoding (menuLines id view)
      Dialogue.print encoding question
      return ⟨session, state, view, rest⟩

/-- A dialogue with one line of input. -/
def reply (encoding : Encoding) (waiting : Waiting) (line : String) : Dialogue Waiting := do
  let ⟨notices, session, reaction⟩ := react waiting.session waiting.view line
  Dialogue.note notices
  match reaction with
  | .error crash => Dialogue.stop (.crash crash)
  | .ok (.again message) =>
    Dialogue.print encoding message
    Dialogue.print encoding question
    return { waiting with session := session }
  | .ok (.closed message _) =>
    Dialogue.print encoding message
    openNext encoding session waiting.state waiting.rest

/-- A dialogue with all its lines of input. It ends at the latest when another one is asked for. -/
def playLines (encoding : Encoding) (waiting : Waiting) : List String → Dialogue Empty
  | [] => Dialogue.stop (.crash .endOfInput)
  | line :: lines => do
    let next ← reply encoding waiting line
    playLines encoding next lines

end GatedPrompt.Console
