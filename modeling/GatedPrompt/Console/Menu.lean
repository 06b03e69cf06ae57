import GatedPrompt.Prompt.Session

/-!
# Menus on the console

* `labelText` — a label without the marker of disabled text, which a console cannot draw: a remark
  behind the label takes its place;
* `heading` and `menuLines` — a heading, and behind it the numbered rows of a menu with a mark at
  the highlighted one, each a line of its own.
-/

namespace GatedPrompt.Console

open Prompt (View)

/-- The remark behind the label of a disabled choice. -/
def disabledRemark : Text := " (disabled)"

/-- A label as the console shows it. -/
def labelText (label : Text) : Text :=
  match Text.afterMark? Prompt.disabledMarker.points label.points with
  | some rest => ⟨rest⟩ ++ disabledRemark
  | none => label

/-- A heading. -/
def heading (title : Text) : Text := "\n=== " ++ title ++ " ===\n"

/-- The line of a menu row. -/
def rowText (highlighted : Option Int) (row : Nat) (label : Text) : Text :=
  let mark := if highlighted = some (row : Int) then ">" else " "
  s!"{mark} {row + 1}. " ++ labelText label ++ "\n"

/-- The lines of the menu rows from a row on. -/
def rowLines (highlighted : Option Int) : Nat → List Text → List Text
  | _, [] => []
  | row, label :: labels =>
    rowText highlighted row label :: rowLines highlighted (row + 1) labels

/-- The lines of a menu under its title. -/
def menuLines (title : Text) (view : View) : List Text :=
  heading title :: rowLines view.initialRow 0 view.labels

end GatedPrompt.Console
