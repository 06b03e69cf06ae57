import GatedPrompt.Console.App
import GatedPrompt.Definitions.Bundled

/-!
# The console program

Reads the arguments, the environment and the files, and carries the dialogue between the player and
`GatedPrompt.Console`. Without a directory of its own it plays the definitions that come with it.
-/

namespace GatedPrompt.Console

open Storage (Lookup Path)

/-- The name under which the definitions that come with the program are shown. -/
def bundledName : String := "data/definitions"

/-- The room that the program leaves for reading on a stack of a thousand calls. -/
def stackRoom : Definitions.Room := ⟨985, 984, 983, 987⟩

/-- What a path leads to on disk. -/
def lookupOnDisk (path : Path) : IO Lookup := do
  let name := path.toString
  if name.toList.contains '\x00' then return .notAPath
  try
    let bytes ← IO.FS.readBinFile name
    return .bytes bytes.toList
  catch
    | .noFileOrDirectory .. => return .missing
    | _ => return .unreadable

/-- The files that a source calls for, read once. -/
def readFiles (source : Source) : IO (Path → Lookup) := do
  let scenario := source.directory.join source.scenario
  let settings := source.directory.join Definitions.settingsFile
  let found ← lookupOnDisk scenario
  let foundSettings ← lookupOnDisk settings
  return Definitions.besideBundled bundledName fun path =>
    if path = scenario then found else if path = settings then foundSettings else .missing

/-- Shows a screen: the text on standard output, the notices on standard error. -/
def showScreen (arguments : Arguments) (screen : Screen) : IO Unit := do
  let output ← IO.getStdout
  output.putStr screen.text.shown
  output.flush
  for notice in screen.notices do
    if isShown arguments notice then
      IO.eprintln s!"{notice.level.name}: {notice.message.shown}"

/-- Carries a dialogue to its end and gives the exit code. -/
partial def converse (setting : Setting) (arguments : Arguments) (dialogue : Dialogue Waiting) :
    IO UInt32 := do
  showScreen arguments dialogue.screen
  match dialogue.outcome with
  | .error (.exit code) => return code.toUInt32
  | .error (.crash crash) => do
    IO.eprintln crash.message.shown
    return 1
  | .ok waiting => do
    let line ← (← IO.getStdin).getLine
    -- A line always ends with a line feed unless the input is over.
    let next :=
      if line.isEmpty then Dialogue.stop (.crash .endOfInput)
      else reply setting.encoding waiting line
    converse setting arguments next

/-- Runs the program on its arguments and gives the exit code. -/
def run (argv : List String) : IO UInt32 := do
  match parse argv with
  | .help => do
    IO.print helpText
    return 0
  | .misuse misuse => do
    IO.eprint misuse.report
    return 2
  | .proceed arguments => do
    let environment ← IO.getEnv Definitions.directoryVariable
    let setting : Setting := {
      environment := environment
      bundled := Definitions.bundledDirectory bundledName
      scenarioRoom := stackRoom
      settingsRoom := stackRoom }
    let files ←
      match setting.source arguments with
      | .ok source => readFiles source
      -- Without a source no file is asked for.
      | .error _ => pure fun _ => .missing
    converse setting arguments (setting.launch files arguments)

end GatedPrompt.Console

/-- Plays choice prompts on the console. -/
def main (argv : List String) : IO UInt32 := GatedPrompt.Console.run argv
