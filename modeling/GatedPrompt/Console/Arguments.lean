import GatedPrompt.Definitions.Repository
import GatedPrompt.Text.Quoted

/-!
# Command line arguments

The options of the program and how they are read.

* `Flag` — the options, each with its names;
* `Given` — what an option was given as its value;
* `classify` — what an argument is by itself: an option, which may be shortened as long as one name
  fits and may carry a value behind an equals sign, or an operand. Negative numbers, texts with
  spaces and a single hyphen are operands;
* `parse` — the arguments in order, up to the first mistake or the request for help.
-/

namespace GatedPrompt.Console

inductive Flag where
  | help
  | dataDirectory
  | scenario
  | prompt
  | check
  | verbose
  deriving DecidableEq, Repr, Inhabited

namespace Flag

def longName : Flag → String
  | help => "--help"
  | dataDirectory => "--data-dir"
  | scenario => "--scenario"
  | prompt => "--prompt"
  | check => "--check"
  | verbose => "--verbose"

/-- The options in the order of the help text. -/
def all : List Flag := [help, dataDirectory, scenario, prompt, check, verbose]

def title : Flag → String
  | help => "-h/--help"
  | option => option.longName

/-- Whether an option has a value. -/
def takesValue : Flag → Bool
  | dataDirectory => true
  | scenario => true
  | prompt => true
  | _ => false

end Flag

/-- What an option was given as its value. -/
inductive Given where
  | text (text : String)
  /-- Two hyphens alone are no value: they are dropped, and nothing takes their place. -/
  | nothing
  deriving DecidableEq, Repr, Inhabited

/-- What an option is given by a text in the place of its value. -/
def Given.ofString (value : String) : Given := if value = "--" then .nothing else .text value

/-- What the arguments ask for. -/
structure Arguments where
  dataDirectory : Option Given := none
  scenario : Given := .text Definitions.scenarioFile
  prompt : Option Given := none
  check : Bool := false
  verbose : Bool := false
  deriving DecidableEq, Repr, Inhabited

inductive Misuse where
  | ambiguous (argument : String)
  | ignoredValue (option : Flag) (value : String)
  | missingValue (option : Flag)
  | unrecognized (arguments : List String)
  deriving DecidableEq, Repr, Inhabited

def Misuse.message : Misuse → String
  | ambiguous argument =>
    let names := ", ".intercalate (Flag.all.map Flag.longName)
    s!"ambiguous option: {argument} could match {names}"
  | ignoredValue option value =>
    s!"argument {option.title}: ignored explicit argument {Text.quoted value}"
  | missingValue option => s!"argument {option.title}: expected one argument"
  | unrecognized arguments => "unrecognized arguments: " ++ " ".intercalate arguments

/-- What an argument is by itself. -/
inductive Class where
  | operand
  /-- The mark behind which all arguments are operands. -/
  | separator
  /-- An option by its long name, and the value behind an equals sign. -/
  | long (option : Flag) (value : Option String)
  /-- The short name of the option for help. -/
  | short
  /-- The short name with characters behind it, or behind an equals sign. -/
  | cluster (rest : List Char)
  | unknown
  deriving DecidableEq, Repr, Inhabited

/-- Whether a text is a negative number in digits of any script; a line feed may follow it. -/
def isNegativeNumber (points : Text.Points) : Bool :=
  match points with
  | .char '-' :: number =>
    let body := if number.getLast? = some (.char '\n') then number.dropLast else number
    match body.dropWhile Text.isDigit with
    | [] => !body.isEmpty
    | .char '.' :: fraction => !fraction.isEmpty && fraction.all Text.isDigit
    | _ => false
  | _ => false

/-- The class of an argument that names no option. -/
def classifyOther (cs : List Char) : Class :=
  if isNegativeNumber (Text.ofChars cs).points || cs.contains ' ' then .operand else .unknown

/-- The class of an argument that starts with two hyphens. -/
def classifyLong (argument : String) : Except Misuse Class :=
  let cs := argument.toList
  let (name, value) :=
    match Text.cut? ['='] cs with
    | none => (cs, none)
    | some (name, value) => (name, some (String.ofList value))
  -- A full name is taken before any name that it may abbreviate.
  match Flag.all.find? fun option => option.longName.toList = name with
  | some option => .ok (.long option value)
  | none =>
    match Flag.all.filter fun option => name.isPrefixOf option.longName.toList with
    -- Here the value counts too: a space in it makes the whole an operand.
    | [] => .ok (classifyOther cs)
    | [option] => .ok (.long option value)
    | _ => .error (.ambiguous argument)

def classify (argument : String) : Except Misuse Class :=
  match argument.toList with
  | ['-', '-'] => .ok .separator
  | '-' :: '-' :: _ => classifyLong argument
  | ['-', 'h'] => .ok .short
  | '-' :: 'h' :: '=' :: rest => .ok (.cluster rest)
  | '-' :: 'h' :: rest => .ok (.cluster rest)
  | '-' :: c :: rest => .ok (classifyOther ('-' :: c :: rest))
  | _ => .ok .operand

/-- The arguments with their classes; behind the separator all are operands. -/
def classifyAll : List String → Except Misuse (List (String × Class))
  | [] => .ok []
  | argument :: arguments => do
    match ← classify argument with
    | .separator =>
      return (argument, .separator) :: arguments.map fun operand => (operand, .operand)
    | c =>
      let others ← classifyAll arguments
      return (argument, c) :: others

/-- What reading the arguments comes to. -/
inductive Outcome where
  | proceed (arguments : Arguments)
  | help
  | misuse (misuse : Misuse)
  deriving DecidableEq, Repr, Inhabited

/-- What the characters behind the short name of the option for help come to: the name may be
repeated, and since the option takes no value nothing else may follow. -/
def readCluster (rest : List Char) : Outcome :=
  match rest.dropWhile (· == 'h') with
  | [] =>
    -- Nothing at all follows an equals sign only, and that is a value too.
    if rest.isEmpty then .misuse (.ignoredValue .help "") else .help
  | value => .misuse (.ignoredValue .help (String.ofList value))

/-- The arguments with a value for an option that takes one. -/
def Arguments.withValue (arguments : Arguments) (option : Flag) (value : String) : Arguments :=
  match option with
  | .dataDirectory => { arguments with dataDirectory := some (.ofString value) }
  | .scenario => { arguments with scenario := .ofString value }
  | .prompt => { arguments with prompt := some (.ofString value) }
  | _ => arguments

/-- The arguments with an option that takes no value. -/
def Arguments.withFlag (arguments : Arguments) (option : Flag) : Arguments :=
  match option with
  | .check => { arguments with check := true }
  | .verbose => { arguments with verbose := true }
  | _ => arguments

/-- Reads classified arguments in order; `extras` are those before them that were not recognised. -/
def readAll (arguments : Arguments) (extras : List String) : List (String × Class) → Outcome
  | [] => if extras.isEmpty then .proceed arguments else .misuse (.unrecognized extras)
  | (_, .short) :: _ => .help
  | (_, .cluster rest) :: _ => readCluster rest
  | (_, .long option (some value)) :: rest =>
    if option.takesValue then readAll (arguments.withValue option value) extras rest
    else .misuse (.ignoredValue option value)
  | (_, .long option none) :: rest =>
    if option.takesValue then
      -- Only an operand serves as the value, never another option or the separator.
      match rest with
      | (value, .operand) :: rest => readAll (arguments.withValue option value) extras rest
      | _ => .misuse (.missingValue option)
    else if option = .help then .help
    else readAll (arguments.withFlag option) extras rest
  -- There are no positional arguments, so an operand is as unknown as an option can be.
  | (argument, _) :: rest => readAll arguments (extras ++ [argument]) rest

/-- Reads the arguments of the program. -/
def parse (arguments : List String) : Outcome :=
  match classifyAll arguments with
  | .error misuse => .misuse misuse
  | .ok classified => readAll {} [] classified

/-! ## Texts -/

def programName : String := "choicerules"

def usage : String :=
  s!"usage: {programName} [-h] [--data-dir DATA_DIR] [--scenario SCENARIO]\n" ++
  "                   [--prompt PROMPT] [--check] [--verbose]\n"

def helpText : String :=
  usage ++ "\n" ++
  "Play choice prompts with conditional options.\n" ++
  "\n" ++
  "options:\n" ++
  "  -h, --help           show this help message and exit\n" ++
  "  --data-dir DATA_DIR  Directory holding choice_rules.json and scenario files.\n" ++
  "  --scenario SCENARIO  Scenario file name inside the data directory.\n" ++
  "  --prompt PROMPT      Only play the prompt with this id.\n" ++
  "  --check              Validate choice markup and exit without playing.\n" ++
  "  --verbose            Log per-choice verdicts.\n"

def Misuse.report (misuse : Misuse) : String :=
  usage ++ s!"{programName}: error: {misuse.message}\n"

end GatedPrompt.Console
