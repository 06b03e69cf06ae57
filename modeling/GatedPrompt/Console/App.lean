import GatedPrompt.Console.Arguments
import GatedPrompt.Console.Play
import GatedPrompt.Definitions.Repository
import GatedPrompt.Lint.Finding

/-!
# The program

* `Setting` — what the program finds around it;
* `Source` — the directory and the scenario that the arguments name;
* `selectPrompts` — the prompts to play or to check;
* `loadTask` — the definitions that the program goes on with;
* `checkPrompts` — the report on the markup of prompts;
* `launch` — the program up to the first line of input;
* `isShown` — whether a notice is reported.
-/

namespace GatedPrompt.Console

open Definitions (Prompts Repository Room)
open Prompt (Descriptor Session Settings)
open Storage (Lookup Path)

/-- What the program finds around it. -/
structure Setting where
  /-- The value of the environment variable that names the directory. -/
  environment : Option String := none
  /-- The directory of the definitions that come with the program. -/
  bundled : Path
  /-- The encoding of the stream that texts are shown on. -/
  encoding : Encoding := .utf8
  /-- The room that the program leaves where the scenario is read. -/
  scenarioRoom : Room
  /-- The room that the program leaves where the settings are read. -/
  settingsRoom : Room

/-- The directory of the definitions and the name of the scenario in it. -/
structure Source where
  directory : Path
  scenario : String
  deriving DecidableEq, Repr, Inhabited

/-- The source that the arguments name. The directory is looked at first. -/
def Setting.source (setting : Setting) (arguments : Arguments) : Except Crash Source :=
  let within (given : Option String) : Except Crash Source :=
    match arguments.scenario with
    | .text file => .ok ⟨Definitions.directoryOf given setting.environment setting.bundled, file⟩
    | .nothing => .error .noScenario
  match arguments.dataDirectory with
  | none => within none
  | some (.text name) => within (some name)
  | some .nothing => .error .noDirectory

/-! ## Loading -/

/-- The ids of the prompts to play: one that is asked for, or all. -/
def selectIds (arguments : Arguments) (prompts : Prompts) : List Text :=
  match arguments.prompt with
  | some (.text id) => if id.isEmpty then prompts.ids else [id]
  | _ => prompts.ids

/-- The prompts to play, with their ids. -/
def selectPrompts (arguments : Arguments) (prompts : Prompts) :
    Except Definitions.Failure (List (Text × Descriptor)) :=
  (selectIds arguments prompts).mapM fun id =>
    (prompts.named id).map fun descriptor => (id, descriptor)

/-- What the program goes on with once its definitions are loaded. -/
inductive Task where
  | check (prompts : List (Text × Descriptor))
  | play (settings : Settings) (state : Game.State) (prompts : List (Text × Descriptor))
  deriving Repr, Inhabited

/-- The definitions that the program goes on with. -/
def Setting.loadTask (setting : Setting) (source : Source) (files : Path → Lookup)
    (arguments : Arguments) : Attempt Definitions.Failure Task := do
  let (scenarios, fetched) ← ExceptT.lift
    ((Repository.scenario source.directory source.scenario).fetch setting.scenarioRoom files)
  let prompts ← Attempt.ofExcept (fetched.bind (selectPrompts arguments))
  -- Checking needs no settings, so theirs is not a failure then.
  if arguments.check then return .check prompts
  let (_, fetched) ← ExceptT.lift
    ((Repository.settings source.directory).fetch setting.settingsRoom files)
  let settings ← Attempt.ofExcept fetched
  let state ← Attempt.ofExcept (Definitions.stateOf scenarios.record)
  return .play settings state prompts

/-! ## The program -/

/-- The issues of all prompts. -/
def allIssues : List (Text × Descriptor) → Attempt Text.Oversized (List Lint.Issue)
  | [] => return []
  | (id, descriptor) :: rest => do
    let first ← Lint.check (some id) descriptor.choices
    let others ← allIssues rest
    return first ++ others

/-- The report on the markup of prompts. -/
def checkPrompts (encoding : Encoding) (prompts : List (Text × Descriptor)) : Dialogue Waiting := do
  let ⟨notices, outcome⟩ := (allIssues prompts).run
  Dialogue.note notices
  match outcome with
  | .error fault => Dialogue.stop (.crash (.oversized fault))
  | .ok [] =>
    Dialogue.print encoding "Choice markup is valid.\n"
    Dialogue.stop (.exit 0)
  | .ok issues =>
    Dialogue.print encoding (heading "Markup issues")
    Dialogue.printAll encoding (issues.map fun issue => "- " ++ issue.line ++ "\n")
    Dialogue.stop (.exit (if Lint.hasErrors issues then 1 else 0))

/-- What is shown of a failure that the program is prepared for. -/
def loadMessage (failure : Definitions.Failure) : Text :=
  "Unable to load scenario: " ++ failure.message ++ "\n"

/-- The end of the program when definitions cannot be had. -/
def loadFailed (encoding : Encoding) (failure : Definitions.Failure) : Dialogue Waiting := do
  if failure.isExpected then
    Dialogue.print encoding (loadMessage failure)
    Dialogue.stop (.exit 1)
  else Dialogue.stop (.crash (.definitions failure))

/-- The program up to the first line of input, from the definitions on. -/
def Task.start (encoding : Encoding) : Task → Dialogue Waiting
  | check prompts => checkPrompts encoding prompts
  | play settings state prompts => openNext encoding ⟨settings, none⟩ state prompts

/-- The program up to the first line of input, with the definitions from a source. -/
def Setting.launchFrom (setting : Setting) (source : Source) (files : Path → Lookup)
    (arguments : Arguments) : Dialogue Waiting := do
  let ⟨notices, loaded⟩ := (setting.loadTask source files arguments).run
  Dialogue.note notices
  match loaded with
  | .error failure => loadFailed setting.encoding failure
  | .ok task => task.start setting.encoding

/-- The program up to the first line of input. -/
def Setting.launch (setting : Setting) (files : Path → Lookup) (arguments : Arguments) :
    Dialogue Waiting :=
  match setting.source arguments with
  | .error crash => Dialogue.stop (.crash crash)
  | .ok source => setting.launchFrom source files arguments

/-- The program with all its lines of input. -/
def Setting.runLines (setting : Setting) (files : Path → Lookup) (arguments : Arguments)
    (lines : List String) : Dialogue Empty := do
  let waiting ← setting.launch files arguments
  playLines setting.encoding waiting lines

/-- Whether a notice is reported. -/
def isShown (arguments : Arguments) (notice : Notice) : Bool :=
  arguments.verbose || notice.level != .debug

end GatedPrompt.Console
