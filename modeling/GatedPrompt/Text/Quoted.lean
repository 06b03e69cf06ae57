import GatedPrompt.Text.Basic
import GatedPrompt.Text.Printable

/-!
# Quoted literals

A text written between quotation marks so that every character shows.

* The mark is the apostrophe, or the double quote if the text holds apostrophes and no double
  quote (`mark`).
* The mark and the backslash are written after a backslash, and characters that are not printable
  are written as escapes (`escape`): line feed, carriage return and tab by a letter, all others by
  their code point in two, four or eight hexadecimal digits. So are surrogates.
-/

namespace GatedPrompt.Text

namespace Quoted

/-- The lower case hexadecimal digits of a number, filled with zeros up to a width. -/
def hex (width n : Nat) : List Char :=
  let digits := Nat.toDigits 16 n
  List.replicate (width - digits.length) '0' ++ digits

/-- The quotation mark that a text is written between. -/
def mark (points : Points) : Char :=
  if points.contains '\'' && !points.contains '"' then '"' else '\''

/-- A code point as an escape by its number. -/
def escapeNumber (n : Nat) : List Char :=
  if n < 0x100 then '\\' :: 'x' :: hex 2 n
  else if n < 0x10000 then '\\' :: 'u' :: hex 4 n
  else '\\' :: 'U' :: hex 8 n

/-- How one character is written between the given marks. -/
def escapeChar (quote c : Char) : List Char :=
  if c = quote ∨ c = '\\' then ['\\', c]
  else if c = '\n' then ['\\', 'n']
  else if c = '\r' then ['\\', 'r']
  else if c = '\t' then ['\\', 't']
  else if isPrintable c then [c]
  else escapeNumber c.toNat

/-- How one code point is written between the given marks. -/
def escape (quote : Char) : CodePoint → List Char
  | .char c => escapeChar quote c
  | .surrogate offset => escapeNumber (CodePoint.surrogate offset).value

/-- Code points as a quoted literal. -/
def encode (points : Points) : List Char :=
  let quote := mark points
  quote :: points.flatMap (escape quote) ++ [quote]

end Quoted

/-- A text as a quoted literal, which consists of characters only. -/
def quoted (text : Text) : String := String.ofList (Quoted.encode text.points)

end GatedPrompt.Text
