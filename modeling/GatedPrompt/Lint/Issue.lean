import GatedPrompt.Text.Basic

/-!
# Issues

* `Issue` — a remark on the choices of a prompt: how grave it is, its code and wording, and named
  values that tell where it was found;
* `Issue.line` — an issue on one line;
* `hasErrors` — whether one of several issues is an error.
-/

namespace GatedPrompt.Lint

/-- How grave an issue is. -/
inductive Severity where
  | error
  | warning
  /-- A grade of a host's own. -/
  | custom (name : String)
  deriving DecidableEq, Repr, Inhabited

def Severity.name : Severity → String
  | error => "ERROR"
  | warning => "WARNING"
  | custom name => name

/-- The grade with a name. -/
def Severity.ofName (name : String) : Severity :=
  if name = "ERROR" then error else if name = "WARNING" then warning else custom name

/-- A remark on the choices of a prompt. -/
structure Issue where
  severity : Severity
  code : String
  message : Text
  /-- Where the issue was found. -/
  context : List (String × Text)
  deriving DecidableEq, Repr, Inhabited

/-- An issue on one line. -/
def Issue.line (issue : Issue) : Text :=
  let context := Text.intercalate " " (issue.context.map fun (key, value) => s!"{key}=" ++ value)
  let suffix : Text := if context.isEmpty then "" else " (" ++ context ++ ")"
  s!"[{issue.severity.name}] {issue.code}: " ++ issue.message ++ suffix

/-- Whether one of the issues is an error. -/
def hasErrors (issues : List Issue) : Bool := issues.any fun issue => issue.severity = .error

/-- Every name is the name of the grade that is found by it. -/
theorem Severity.name_ofName (name : String) : (ofName name).name = name := by
  unfold ofName
  split
  · next h => rw [h]; rfl
  · split
    · next h => rw [h]; rfl
    · rfl

end GatedPrompt.Lint
