import GatedPrompt.Text.Quoted

/-!
# Output streams

What is shown goes out in the encoding of a stream, which need not have all code points: UTF-8 has
none for surrogates, and other encodings lack most characters.

* `Encoding` — which code points there are on a stream, and `Encoding.utf8`;
* `Unprintable` — the first stretch of a text that an encoding lacks, in words;
* `Encoding.refusal?` — the refusal of a text, if it is refused. Nothing of such a text is shown.
-/

namespace GatedPrompt.Console

open Text (CodePoint)

/-- Which code points there are on a stream. -/
structure Encoding where
  name : String
  has : CodePoint → Bool
  /-- Why the other ones are refused, in words. -/
  reason : String

def Encoding.utf8 : Encoding where
  name := "utf-8"
  has
    | .char _ => true
    | .surrogate _ => false
  reason := "surrogates not allowed"

/-- The first stretch of a text that an encoding lacks. -/
structure Unprintable where
  encoding : String
  reason : String
  /-- The first code point of the stretch. -/
  first : CodePoint
  start : Nat
  length : Nat
  deriving DecidableEq, Repr, Inhabited

/-- The stretch in words: a code point by its number, several by their positions. -/
def Unprintable.describe (unprintable : Unprintable) : String :=
  if unprintable.length = 1 then
    let escape := String.ofList (Text.Quoted.escapeNumber unprintable.first.value)
    s!"character '{escape}' in position {unprintable.start}"
  else
    s!"characters in position {unprintable.start}-" ++
      s!"{unprintable.start + unprintable.length - 1}"

def Unprintable.message (unprintable : Unprintable) : String :=
  s!"'{unprintable.encoding}' codec can't encode {unprintable.describe}: {unprintable.reason}"

/-- The refusal of a text that holds code points which the encoding lacks. -/
def Encoding.refusal? (encoding : Encoding) (text : Text) : Option Unprintable :=
  match text.points.dropWhile encoding.has with
  | [] => none
  | first :: rest =>
    some ⟨encoding.name, encoding.reason, first, (text.points.takeWhile encoding.has).length,
      (rest.takeWhile fun point => !encoding.has point).length + 1⟩

end GatedPrompt.Console
