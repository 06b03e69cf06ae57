import GatedPrompt.Json.Reader
import GatedPrompt.Rule.Defect

/-!
# Notices

What the engine reports besides its answers, as data.

* `Notice` — an observation, with the values it concerns;
* `Notice.level` — how grave it is;
* `Notice.message` — its wording.
-/

namespace GatedPrompt

/-- How grave a notice is. -/
inductive Level where
  | debug
  | warning
  | error
  deriving DecidableEq, Repr, Inhabited

def Level.name : Level → String
  | debug => "DEBUG"
  | warning => "WARNING"
  | error => "ERROR"

/-- Why an entry of a table of text substitutions is left out. -/
inductive EntryProblem where
  /-- The entry is a text that is not JSON. -/
  | malformed (fault : Json.Fault)
  | notAnObject
  | noCode
  deriving DecidableEq, Repr, Inhabited

/-- Why a table of text substitutions is not used at all. -/
inductive TableProblem where
  /-- The table is a text that is not JSON. -/
  | malformed (fault : Json.Fault)
  | notAList
  deriving DecidableEq, Repr, Inhabited

/-- An observation of the engine. -/
inductive Notice where
  /-- The markup of a choice is not where it has to be. -/
  | misplacedMarkup (text : Text)
  /-- A malformed rule was passed over. -/
  | skippedRule (malformed : Rule.Malformed)
  /-- A malformed rule made its whole list false. -/
  | failedList (malformed : Rule.Malformed)
  /-- What the rules of a choice say. -/
  | verdict (index : Nat) (label : Text) (disabled hidden : Bool)
  | defaultNotFound (index : Int)
  | rowNotFound (row : Int)
  | cancelNotFound (index : Int)
  | unusableTable (problem : TableProblem)
  | unusableEntry (index : Nat) (problem : EntryProblem)
  /-- A prompt was given up over a malformed rule. -/
  | promptAborted (id : Text) (malformed : Rule.Malformed)
  deriving DecidableEq, Repr, Inhabited

namespace Notice

/-- How grave a notice is. -/
def level : Notice → Level
  | misplacedMarkup _ => .warning
  | skippedRule _ => .warning
  | failedList _ => .warning
  | verdict _ _ _ _ => .debug
  | defaultNotFound _ => .warning
  | rowNotFound _ => .error
  | cancelNotFound _ => .error
  | unusableTable _ => .warning
  | unusableEntry _ _ => .warning
  | promptAborted _ _ => .error

/-- The name of the setting that holds the table of text substitutions. -/
def tableName : String := "choice_rules.alternative_text"

/-- The name of an entry of the table of text substitutions. -/
def entryName (index : Nat) : String := s!"{tableName}[{index}]"

/-- A truth value in messages. -/
def truthName (b : Bool) : String := if b then "True" else "False"

def message : Notice → Text
  | misplacedMarkup text => "Choice markup in illegal position for choice: " ++ text
  | skippedRule malformed => malformed.message ++ " Skipping rule."
  | failedList malformed => malformed.message ++ " Treating the rule list as false."
  | verdict index label disabled hidden =>
    s!"Choice {index} '" ++ label ++
      s!"': disabled={truthName disabled} hidden={truthName hidden}"
  | defaultNotFound index => s!"Default choice {index} not found; selecting none."
  | rowNotFound row => s!"No choice matches highlighted row {row}."
  | cancelNotFound index => s!"Cancel choice {index} not found."
  | unusableTable (.malformed fault) =>
    s!"Invalid JSON in {tableName}: {fault.message}; no text substitutions configured."
  | unusableTable .notAList => s!"{tableName} must be a list; no text substitutions configured."
  | unusableEntry index (.malformed fault) =>
    s!"Invalid JSON in {entryName index}: {fault.message}; entry ignored."
  | unusableEntry index .notAnObject => s!"{entryName index} must be an object; entry ignored."
  | unusableEntry index .noCode => s!"{entryName index} has no text code; entry ignored."
  | promptAborted id malformed => "Prompt '" ++ id ++ "' aborted: " ++ malformed.message

end Notice

end GatedPrompt
