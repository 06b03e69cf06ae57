import GatedPrompt.Definitions.Scenario
import GatedPrompt.Definitions.Settings
import GatedPrompt.Storage.FileTree
import GatedPrompt.Text.Lines

/-!
# Repositories of definitions

Definitions are read from a file when they are first asked for. Once a file could be read they are
kept, whatever becomes of the file; until then each request tries anew.

* `directoryOf` — the directory of the files: one that is given, or that the environment names, or
  the one that comes with the program;
* `readDocument` — the members of the object in a file;
* `Repository` — a file, how to read it, and what is kept of it: the definitions, and a record that
  is taken before the definitions are complete;
* `Repository.fetch` — the definitions and the repository that keeps them (`fetch_of_loaded`);
* `Repository.ask` and `Repository.asks` — one request with its answer, and a list of requests;
* `answerScenario` and `answerSettings` — the answers to what can be asked of the two kinds.
-/

namespace GatedPrompt.Definitions

open Storage (Lookup Path)

def settingsFile : String := "choice_rules.json"

/-- The name of the file of the scenario, unless another one is given. -/
def scenarioFile : String := "demo_scenario.json"

/-- The name of the environment variable that names the directory of the files. -/
def directoryVariable : String := "CHOICERULES_DATA_DIR"

/-- The directory of the files. An empty name in the environment counts as none. -/
def directoryOf (given environment : Option String) (bundled : Path) : Path :=
  match given with
  | some name => .ofString name
  | none =>
    match environment with
    | some name => if name.isEmpty then bundled else .ofString name
    | none => bundled

/-- The members of the object in a file. -/
def readDocument (room : Room) (path : Path) : Lookup → Except Failure Members
  | .notAPath => .error .notAPath
  | .missing => .error (.load (.notFound path.toString))
  | .unreadable => .error (.load (.unreadable path.toString))
  -- Bytes, characters, lines, JSON: each step has failures of its own.
  | .bytes bytes =>
    match Text.Utf8.decode bytes with
    | .error fault => .error (.encoding fault)
    | .ok cs =>
      match Json.parse room.document (.ofChars (Text.unifyLineEnds cs)) with
      | .error failure => .error (.ofJson path.toString failure)
      | .ok (.object members) => .ok members
      | .ok _ => .error (.invalid (.notAnObject path.toString))

/-- A file, how to read it, and what is kept of it. -/
structure Repository (ρ α : Type) where
  path : Path
  /-- What an object defines, and what is recorded of it, be the definitions in order or not. -/
  read : Room → Members → Logged (Option ρ × Except Failure α)
  /-- What the last object to have a record has left. -/
  record : Option ρ := none
  loaded : Option α := none

namespace Repository

variable {ρ α κ β : Type}

/-- The repository of the settings in a directory. Nothing is recorded beside them. -/
def settings (directory : Path) : Repository Empty Prompt.Settings where
  path := directory.join settingsFile
  read room members := return (none, ← (readSettings room members).run)

/-- The repository of a scenario in a directory. -/
def scenario (directory : Path) (file : String) : Repository Members Prompts where
  path := directory.join file
  read _ members := pure (readScenario members)

/-- The repository of a file for which no reader is known. -/
def unread (directory : Path) (file : String) : Repository Empty Unit where
  path := directory.join file
  read _ _ := pure (none, .error .noReader)

/-- Reads the file. A new record takes the place of the old one even if the definitions are not in
order. -/
def load (repository : Repository ρ α) (room : Room) (found : Lookup) :
    Logged (Repository ρ α × Except Failure α) :=
  match readDocument room repository.path found with
  | .error failure => return (repository, .error failure)
  | .ok members => do
    let (record, outcome) ← repository.read room members
    let recording := { repository with record := record.or repository.record }
    match outcome with
    | .error failure => return (recording, .error failure)
    | .ok definitions => return ({ recording with loaded := some definitions }, .ok definitions)

/-- The definitions, and the repository that keeps them. -/
def fetch (repository : Repository ρ α) (room : Room) (files : Path → Lookup) :
    Logged (Repository ρ α × Except Failure α) :=
  match repository.loaded with
  | some definitions => return (repository, .ok definitions)
  | none => repository.load room (files repository.path)

/-- What was read once is kept, whatever the files are, and no room is needed for it. -/
theorem fetch_of_loaded {repository : Repository ρ α} {definitions : α}
    (h : repository.loaded = some definitions) (room : Room) (files : Path → Lookup) :
    repository.fetch room files = pure (repository, .ok definitions) := by
  simp [fetch, h]

/-! ## Requests -/

/-- Something that is asked of a repository, and the files and the room at that moment. -/
structure Request (κ : Type) where
  room : Room
  files : Path → Lookup
  query : κ

/-- The answer to a request from the definitions and the record that are kept. -/
def ask (answer : Option ρ → α → κ → Except Failure β) (repository : Repository ρ α)
    (request : Request κ) : Logged (Repository ρ α × Except Failure β) := do
  let (next, fetched) ← repository.fetch request.room request.files
  return (next, fetched.bind fun definitions => answer next.record definitions request.query)

/-- A list of requests, with the answer and the notices of each. -/
def asks (answer : Option ρ → α → κ → Except Failure β) (repository : Repository ρ α) :
    List (Request κ) → Repository ρ α × List (Logged (Except Failure β))
  | [] => (repository, [])
  | request :: requests =>
    let ⟨notices, next, reply⟩ := repository.ask answer request
    let (last, replies) := next.asks answer requests
    (last, ⟨notices, reply⟩ :: replies)

end Repository

/-! ## The two kinds -/

/-- What can be asked of the settings. -/
inductive SettingsQuery where
  | whole
  | named (id : Text)
  deriving DecidableEq, Repr, Inhabited

/-- The settings by an id: there is one. -/
def settingsNamed (settings : Prompt.Settings) (id : Text) : Except Failure Prompt.Settings :=
  if id = Text.ofString "config" then .ok settings else .error (.unknown id)

def answerSettings (_ : Option Empty) (settings : Prompt.Settings) :
    SettingsQuery → Except Failure Prompt.Settings
  | .whole => .ok settings
  | .named id => settingsNamed settings id

/-- What can be asked of a scenario. -/
inductive ScenarioQuery where
  | prompt (id : Text)
  | promptIds
  | state
  deriving DecidableEq, Repr, Inhabited

inductive ScenarioAnswer where
  | prompt (descriptor : Prompt.Descriptor)
  | promptIds (ids : List Text)
  | state (state : Game.State)
  deriving DecidableEq, Repr, Inhabited

/-- The state of a game in the recorded snapshot, which is read again each time. -/
def stateOf : Option Members → Except Failure Game.State
  | none => .error .noSnapshot
  | some snapshot => readState snapshot

def answerScenario (snapshot : Option Members) (prompts : Prompts) :
    ScenarioQuery → Except Failure ScenarioAnswer
  | .prompt id => (prompts.named id).map .prompt
  | .promptIds => .ok (.promptIds prompts.ids)
  | .state => (stateOf snapshot).map .state

end GatedPrompt.Definitions
