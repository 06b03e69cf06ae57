import GatedPrompt.Json.Reader
import GatedPrompt.Storage.Path
import GatedPrompt.Text.Utf8

/-!
# Failures of definitions

Why definitions cannot be had from a file.

* `LoadFailure` — there is no document: no file, or no JSON in it;
* `Invalid` — the document does not have the shape of definitions;
* `Failure` — these two, an unknown id, and the causes that no reader of definitions expects.
-/

namespace GatedPrompt.Definitions

inductive LoadFailure where
  | notFound (path : String)
  | unreadable (path : String)
  | malformed (source : String) (fault : Json.Fault)
  deriving DecidableEq, Repr, Inhabited

def LoadFailure.message : LoadFailure → String
  | notFound path => s!"Configuration file not found: {path}"
  | unreadable path => s!"Unable to read configuration file: {path}"
  | malformed source fault => s!"Invalid JSON in {source}: {fault.message}"

inductive Shape where
  | object
  | list
  | string
  | integer
  | boolean
  deriving DecidableEq, Repr, Inhabited

def Shape.name : Shape → String
  | object => "an object/dict"
  | list => "a list"
  | string => "a string"
  | integer => "an integer"
  | boolean => "a boolean"

inductive Invalid where
  | notAnObject (path : String)
  /-- A part does not have its shape. -/
  | wrongShape (place : Text) (expected : Shape)
  /-- The keys of a map are no ids. -/
  | badKeys (place : Text)
  /-- A setting has a value that it cannot have. -/
  | badSetting (place value : Text)
  deriving DecidableEq, Repr, Inhabited

def Invalid.message : Invalid → Text
  | notAnObject path => s!"Expected top-level object in {path}"
  | wrongShape place expected => place ++ s!" must be {expected.name}."
  | badKeys place => place ++ " keys must be numeric ids."
  | badSetting place value => place ++ " has invalid value '" ++ value ++ "'."

/-- Why definitions cannot be had. -/
inductive Failure where
  | load (failure : LoadFailure)
  | invalid (invalid : Invalid)
  | unknown (id : Text)
  | encoding (fault : Text.Utf8.Fault)
  /-- A numeral that is read or quoted has too many digits. -/
  | oversized (fault : Text.Oversized)
  /-- A key is made of digits without positional value. -/
  | notANumeral (key : Text)
  /-- Containers are nested too deeply to be read. -/
  | tooDeep (container : Json.Container)
  /-- Containers are nested too deeply to be quoted. -/
  | tooDeepToQuote
  /-- The path of the file holds the character NUL. -/
  | notAPath
  /-- No reader of definitions is known for the file. -/
  | noReader
  /-- A snapshot was asked for and none is recorded. -/
  | noSnapshot
  deriving DecidableEq, Repr, Inhabited

/-- The greatest number of characters of a key that a message quotes. -/
def quoteLimit : Nat := 200

def Failure.message : Failure → Text
  | load failure => failure.message
  | invalid i => i.message
  | unknown id => Text.quoted id
  | encoding fault => fault.message
  | oversized fault => fault.message
  | notANumeral key =>
    "invalid literal for int() with base 10: " ++
      String.ofList ((Text.quoted key).toList.take quoteLimit)
  | tooDeep container => container.tooDeepMessage
  | tooDeepToQuote => Json.Unquotable.tooDeepMessage
  | notAPath => "embedded null byte"
  | noReader => ""
  | noSnapshot => ""

/-- Whether readers of definitions expect the failure: there is no document, it has the wrong shape,
or it does not define the id. -/
def Failure.isExpected : Failure → Bool
  | load _ => true
  | invalid _ => true
  | unknown _ => true
  | _ => false

/-- The failure of a document that is not JSON. -/
def Failure.ofJson (source : String) : Json.Failure → Failure
  | .malformed fault => .load (.malformed source fault)
  | .oversized fault => .oversized fault
  | .tooDeep container => .tooDeep container

/-- The failure of a value that a message should quote. -/
def Failure.ofUnquotable : Json.Unquotable → Failure
  | .oversized fault => .oversized fault
  | .tooDeep => .tooDeepToQuote

end GatedPrompt.Definitions
