import GatedPrompt.Definitions.Shape
import GatedPrompt.Logged
import GatedPrompt.Prompt.Settings
import GatedPrompt.Text.Blank

/-!
# Reading settings

The settings of the engine from the members of an object.

* `Room` — how deep containers may be nested in what is read and quoted;
* `readSubstitutions` — a table of text substitutions: a list of objects, or a text that is JSON for
  one; its entries may be texts that are JSON for objects too. What cannot be used is left out with
  a warning;
* `readSettings` — all settings; those that are missing or null have their defaults.
-/

namespace GatedPrompt.Definitions

open Json (Value)
open Prompt (HiddenDefault Settings SoundCue Substitution)

/-- How deep containers may be nested where a text is read as JSON or a value is quoted: as deep as
the calls that lead to the place leave room on the stack. -/
structure Room where
  /-- In the document of a file. -/
  document : Nat
  /-- In a table of text substitutions that is written as JSON text. -/
  table : Nat
  /-- In an entry of the table that is written as JSON text. -/
  entry : Nat
  /-- In a value that a message quotes, below the value itself. -/
  quote : Nat
  deriving DecidableEq, Repr, Inhabited

/-! ## The table of text substitutions -/

/-- The keys of the code of a substitution, the first that has a string counting. -/
def codeKeys : List String := ["text_code", "textCode"]

/-- The keys of the text for enabled choices. -/
def defaultTextKeys : List String := ["default_text", "defaultText"]

/-- The keys of the text for disabled choices. -/
def disabledTextKeys : List String := ["disable_text", "disableText", "disabled_text"]

/-- The string of a value, if it is one. -/
def string? : Value → Option Text
  | .string text => some text
  | _ => none

/-- The first string among the values of some keys, or nothing to read. -/
def firstString (members : Members) (keys : List String) : Text :=
  (keys.findSome? fun key => (memberNamed? key members).bind string?).getD ""

/-- The substitution that an object defines, if it has a code. -/
def substitutionOf (members : Members) : Except EntryProblem Substitution :=
  let code := firstString members codeKeys
  if code.isEmpty then .error .noCode
  else
    .ok ⟨code, firstString members defaultTextKeys, firstString members disabledTextKeys⟩

/-- The substitution that a value defines if it is an object. -/
def substitutionOfValue : Value → Except EntryProblem Substitution
  | .object members => substitutionOf members
  | _ => .error .notAnObject

/-- The substitution that an entry of a table defines; an entry may be written as JSON text. -/
def readEntry (room : Room) (index : Nat) :
    Value → Except Failure (Except EntryProblem Substitution)
  | .string text =>
    match Json.parse room.entry text with
    | .ok value => .ok (substitutionOfValue value)
    | .error (.malformed fault) => .ok (.error (.malformed fault))
    -- A limit that is exceeded is no matter of this entry alone.
    | .error failure => .error (.ofJson (Notice.entryName index) failure)
  | value => .ok (substitutionOfValue value)

/-- The substitutions that the entries of a table from an index on define. -/
def readEntriesFrom (room : Room) : Nat → List Value → Attempt Failure (List Substitution)
  | _, [] => return []
  | index, entry :: entries => do
    match ← Attempt.ofExcept (readEntry room index entry) with
    | .ok substitution =>
      let others ← readEntriesFrom room (index + 1) entries
      return substitution :: others
    | .error problem =>
      Attempt.note (.unusableEntry index problem)
      readEntriesFrom room (index + 1) entries

/-- The substitutions of a table that is given as a value. -/
def readTable (room : Room) : Value → Attempt Failure (List Substitution)
  | .array entries => readEntriesFrom room 0 entries
  | _ => do
    Attempt.note (.unusableTable .notAList)
    return []

/-- The substitutions of a table that may be absent, blank, or written as JSON text. -/
def readSubstitutions (room : Room) : Value → Attempt Failure (List Substitution)
  | .null => return []
  | .string text =>
    if Text.isBlankText text.points then return []
    else
      match Json.parse room.table text with
      | .ok value => readTable room value
      | .error (.malformed fault) => do
        Attempt.note (.unusableTable (.malformed fault))
        return []
      | .error failure => throw (.ofJson Notice.tableName failure)
  | value => readTable room value

/-! ## Settings with names -/

/-- The names of what to highlight if the default choice is hidden. -/
def hiddenDefaultNames : List (Text × HiddenDefault) :=
  [("hidden1", .nothing), ("hidden2", .first), ("hidden3", .next), ("hidden4", .previous),
    ("none", .nothing), ("first", .first), ("next_available", .next),
    ("previous_available", .previous)]

/-- The names of the policies on malformed rules. -/
def policyNames : List (Text × Rule.Policy) :=
  [("error1", .skip), ("error2", .fail), ("error3", .abort), ("skip_warn", .skip),
    ("skip_warn_and_fail", .fail), ("throw", .abort)]

/-- A setting that has one of some names; null is the default. Any other value is quoted in the
failure, if it can be. -/
def readNamed {α : Type} (room : Room) (place : Text) (names : List (Text × α)) (default : α)
    (value : Value) : Except Failure α :=
  match value with
  | .null => .ok default
  | _ =>
    match (string? value).bind fun name => names.lookup name with
    | some setting => .ok setting
    | none =>
      match value.quote room.quote with
      | .ok words => .error (.invalid (.badSetting place words))
      | .error unquotable => .error (.ofUnquotable unquotable)

/-- The sound for refused choices; a blank name is none. -/
def readSound : Value → Except Failure (Option SoundCue)
  | .null => .ok none
  | .string text =>
    match Text.trim text.points with
    | [] => .ok none
    | name => .ok (some ⟨⟨name⟩, 100, 100, 0⟩)
  | _ => wrong "choice_rules.disabled_se" .string

/-- The value of a member; a missing one is null. -/
def memberOrNull (members : Members) (key : String) : Value :=
  (memberNamed? key members).getD .null

/-- The settings that an object defines. -/
def readSettings (room : Room) (members : Members) : Attempt Failure Settings := do
  let sound ← Attempt.ofExcept (readSound (memberOrNull members "disabled_se"))
  let hiddenDefault ← Attempt.ofExcept (readNamed room "choice_rules.hidden_default"
    hiddenDefaultNames .nothing (memberOrNull members "hidden_default"))
  let policy ← Attempt.ofExcept (readNamed room "choice_rules.error_handling" policyNames .skip
    (memberOrNull members "error_handling"))
  let substitutions ← readSubstitutions room (memberOrNull members "alternative_text")
  return ⟨sound, hiddenDefault, policy, substitutions⟩

end GatedPrompt.Definitions
