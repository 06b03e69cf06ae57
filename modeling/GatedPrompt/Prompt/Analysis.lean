import GatedPrompt.Choice.Markup
import GatedPrompt.Prompt.Basic

/-!
# Analysis of prompts

From the choices of a prompt to the menu that shows them.

* `evaluateChoice` — the label of a choice text and what its rules say;
* `analyse` — the records of all choices, without rows;
* `assignRows` — the same with rows: the choices that are not hidden are numbered from zero;
* `render` — a record with the label that the menu shows: a substitution applies to the label as it
  was written, once, and the marker of disabled text goes in front;
* `process` — all of it; a prompt without choices has no context.
-/

namespace GatedPrompt.Prompt

/-- The escape that draws the rest of a label in the colour of disabled text. -/
def disabledMarker : Text := "\\C[7]"

/-- The label of a choice text and what its rules say. The block that disables is read before the
block that hides. -/
def evaluateChoice (settings : Settings) (state : Game.State) (text : Text) :
    Attempt Rule.Abort (Text × Verdict) := do
  let markup ← ExceptT.lift (Choice.Markup.extract text)
  let disabled ← Rule.block settings.policy state markup.disable
  let hidden ← Rule.block settings.policy state markup.hide
  return (markup.label, ⟨disabled, hidden⟩)

/-- The records of the choices from an index on, without rows. -/
def analyseFrom (settings : Settings) (state : Game.State) :
    Nat → List Text → Attempt Rule.Abort (List Entry)
  | _, [] => return []
  | index, text :: texts => do
    let (label, verdict) ← evaluateChoice settings state text
    -- No verdict is noted for a choice whose rules give up.
    Attempt.note (.verdict index label verdict.disabled verdict.hidden)
    let entries ← analyseFrom settings state (index + 1) texts
    return ⟨index, text, label, verdict.hidden, verdict.disabled, none⟩ :: entries

/-- The records of all choices, without rows. -/
def analyse (settings : Settings) (state : Game.State) (choices : List Text) :
    Attempt Rule.Abort (List Entry) :=
  analyseFrom settings state 0 choices

/-- The records with rows from a given one on; hidden choices get none. -/
def assignRowsFrom : Nat → List Entry → List Entry
  | _, [] => []
  | row, entry :: entries =>
    if entry.hidden then entry :: assignRowsFrom row entries
    else { entry with row := some row } :: assignRowsFrom (row + 1) entries

/-- The records with rows. -/
def assignRows (entries : List Entry) : List Entry := assignRowsFrom 0 entries

/-- The label that the menu shows for a label as it was written. -/
def renderLabel (settings : Settings) (disabled : Bool) (label : Text) : Text :=
  let text :=
    match settings.substitution? label with
    | none => label
    | some substitution => substitution.textFor disabled
  if disabled then disabledMarker ++ text else text

/-- The record with the label that the menu shows. -/
def render (settings : Settings) (entry : Entry) : Entry :=
  { entry with label := renderLabel settings entry.disabled entry.label }

/-- The context of a prompt, if it has choices. -/
def process (settings : Settings) (state : Game.State) (descriptor : Descriptor) :
    Attempt Rule.Abort (Option Context) :=
  match descriptor.choices with
  | [] => return none
  | choices => do
    let entries ← analyse settings state choices
    return some ⟨descriptor, (assignRows entries).map (render settings)⟩

end GatedPrompt.Prompt
