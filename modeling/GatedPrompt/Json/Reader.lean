import GatedPrompt.Json.Value
import GatedPrompt.Text.Cut
import GatedPrompt.Text.Lines
import GatedPrompt.Text.Numeral

/-!
# Reading JSON

The reader of JSON documents. Beyond the standard it accepts the words `NaN`, `Infinity` and
`-Infinity`; a repeated key takes its last value.

* `Problem` and `Fault` — what is wrong with a text and where;
* `Failure` — a fault, an integer with too many digits, or containers nested too deeply;
* `parse` — the value of a document or its first failure. How deep containers may be nested is for
  the caller to say: the reader goes one call deeper with each, and has what is left of the stack.

The readers of the parts take the text that is left and return what is left after them, with a
proof that it is shorter; that is why reading ends.
-/

namespace GatedPrompt.Json

inductive Container where
  | array
  | object
  deriving DecidableEq, Repr, Inhabited

/-- What can be wrong with a text that should be JSON. -/
inductive Problem where
  | byteOrderMark
  | noValue
  | noPropertyName
  | noColon
  | noComma
  | extraData
  | unterminatedString
  | controlCharacter
  | badEscape
  | badCodePoint
  deriving DecidableEq, Repr, Inhabited

def Problem.message : Problem → String
  | .byteOrderMark => "Unexpected UTF-8 BOM (decode using utf-8-sig)"
  | .noValue => "Expecting value"
  | .noPropertyName => "Expecting property name enclosed in double quotes"
  | .noColon => "Expecting ':' delimiter"
  | .noComma => "Expecting ',' delimiter"
  | .extraData => "Extra data"
  | .unterminatedString => "Unterminated string starting at"
  | .controlCharacter => "Invalid control character at"
  | .badEscape => "Invalid \\escape"
  | .badCodePoint => "Invalid \\uXXXX escape"

structure Fault where
  problem : Problem
  position : Text.Position
  deriving DecidableEq, Repr, Inhabited

def Fault.message (fault : Fault) : String :=
  s!"{fault.problem.message}: line {fault.position.line} column {fault.position.column} " ++
    s!"(char {fault.position.index})"

inductive Failure where
  | malformed (fault : Fault)
  /-- An integer has too many digits. -/
  | oversized (fault : Text.Oversized)
  /-- A container opens inside too many others. -/
  | tooDeep (container : Container)
  deriving DecidableEq, Repr, Inhabited

def Container.tooDeepMessage (container : Container) : String :=
  let name := match container with
    | .array => "array"
    | .object => "object"
  s!"maximum recursion depth exceeded while decoding a JSON {name} from a unicode string"

namespace Reader

/-- Why reading stops; the place of a problem is given by how many code points are left there. -/
inductive Halt where
  | problem (problem : Problem) (left : Nat)
  | oversized (fault : Text.Oversized)
  | tooDeep (container : Container)

/-- Something was read and the text that is left is shorter. -/
abbrev Read (α : Type) (cs : Text.Points) : Type :=
  Except Halt (α × { rest : Text.Points // rest.length < cs.length })

/-- A text that is left and not longer than before. -/
abbrev Rest (cs : Text.Points) : Type := { rest : Text.Points // rest.length ≤ cs.length }

/-- What may stand between the parts of a document. -/
def isSpace (point : Text.CodePoint) : Bool :=
  point == ' ' || point == '\t' || point == '\n' || point == '\r'

/-- Dropping a stretch of code points does not lengthen a text. -/
theorem length_dropWhile_le (p : Text.CodePoint → Bool) (cs : Text.Points) :
    (cs.dropWhile p).length ≤ cs.length := by
  induction cs with
  | nil => exact Nat.le_refl _
  | cons c cs ih =>
    rw [List.dropWhile_cons]
    split
    · exact Nat.le_succ_of_le ih
    · exact Nat.le_refl _

/-- The text without the spaces at its front. -/
def skipSpaces (cs : Text.Points) : Rest cs := ⟨cs.dropWhile isSpace, length_dropWhile_le _ _⟩

def isDigit (point : Text.CodePoint) : Bool := '0'.toNat ≤ point.value && point.value ≤ '9'.toNat

def digits (cs : Text.Points) : Text.Points × Rest cs :=
  (cs.takeWhile isDigit, ⟨cs.dropWhile isDigit, length_dropWhile_le _ _⟩)

/-! ## Strings -/

def hexValue? (point : Text.CodePoint) : Option Nat :=
  let n := point.value
  if '0'.toNat ≤ n ∧ n ≤ '9'.toNat then some (n - '0'.toNat)
  else if 'a'.toNat ≤ n ∧ n ≤ 'f'.toNat then some (n - 'a'.toNat + 10)
  else if 'A'.toNat ≤ n ∧ n ≤ 'F'.toNat then some (n - 'A'.toNat + 10)
  else none

def hexValue4? (a b c d : Text.CodePoint) : Option Nat := do
  let a ← hexValue? a
  let b ← hexValue? b
  let c ← hexValue? c
  let d ← hexValue? d
  return ((a * 16 + b) * 16 + c) * 16 + d

def isHighSurrogate (n : Nat) : Bool := 0xD800 ≤ n && n ≤ 0xDBFF

def isLowSurrogate (n : Nat) : Bool := 0xDC00 ≤ n && n ≤ 0xDFFF

def escaped? (point : Text.CodePoint) : Option Char :=
  match point with
  | .char '"' => some '"'
  | .char '\\' => some '\\'
  | .char '/' => some '/'
  | .char 'b' => some '\x08'
  | .char 'f' => some '\x0c'
  | .char 'n' => some '\n'
  | .char 'r' => some '\r'
  | .char 't' => some '\t'
  | _ => none

/-- The code unit written in four hexadecimal digits behind `\u`, and the text behind it, which must
not be empty. -/
def codeUnit (cs : Text.Points) : Read Nat cs :=
  match cs with
  | a :: b :: c :: d :: after :: rest =>
    match hexValue4? a b c d with
    | none => .error (.problem .badCodePoint (rest.length + 6))
    | some n => .ok (n, ⟨after :: rest, by simp⟩)
  | cs => .error (.problem .badCodePoint (cs.length + 1))

/-- The code point written behind `\u`, and the text behind it. A high surrogate joins with a low
one that is written directly behind it. -/
def codePoint (cs : Text.Points) : Read Text.CodePoint cs :=
  match codeUnit cs with
  | .error halt => .error halt
  | .ok (first, ⟨rest, h⟩) =>
    if isHighSurrogate first then
      match rest, h with
      | .char '\\' :: .char 'u' :: more, h =>
        match codeUnit more with
        | .error halt => .error halt
        | .ok (second, ⟨rest', h'⟩) =>
          if isLowSurrogate second then
            .ok (.ofNat (0x10000 + (first - 0xD800) * 0x400 + (second - 0xDC00)),
              ⟨rest', by simp at h; omega⟩)
          -- The second unit stands for itself and is read again.
          else .ok (.ofNat first, ⟨.char '\\' :: .char 'u' :: more, h⟩)
      | rest, h => .ok (.ofNat first, ⟨rest, h⟩)
    else .ok (.ofNat first, ⟨rest, h⟩)

/-- The string whose opening quote has been read; `opening` is the text from the quote on, and
`read` holds the code points read so far in reverse order. -/
def stringFrom (opening : Text.Points) (read : Text.Points) (cs : Text.Points) :
    Read Text cs :=
  match cs with
  | [] => .error (.problem .unterminatedString opening.length)
  | .char '"' :: rest => .ok (⟨read.reverse⟩, ⟨rest, by simp⟩)
  -- Nothing follows the backslash, so the string has no end either.
  | [.char '\\'] => .error (.problem .unterminatedString opening.length)
  | .char '\\' :: .char 'u' :: rest =>
    match codePoint rest with
    | .error halt => .error halt
    | .ok (point, ⟨rest', h⟩) =>
      match stringFrom opening (point :: read) rest' with
      | .error halt => .error halt
      | .ok (s, ⟨rest'', h'⟩) => .ok (s, ⟨rest'', by simp; omega⟩)
  | .char '\\' :: e :: rest =>
    match escaped? e with
    | none => .error (.problem .badEscape (rest.length + 2))
    | some c =>
      match stringFrom opening (.char c :: read) rest with
      | .error halt => .error halt
      | .ok (s, ⟨rest', h⟩) => .ok (s, ⟨rest', by simp; omega⟩)
  | point :: rest =>
    if point.value < 0x20 then .error (.problem .controlCharacter (rest.length + 1))
    else
      match stringFrom opening (point :: read) rest with
      | .error halt => .error halt
      | .ok (s, ⟨rest', h⟩) => .ok (s, ⟨rest', by simp; omega⟩)
termination_by cs.length
decreasing_by all_goals (simp; try omega)

/-! ## Numbers and words -/

/-- The fractional digits at the front of a text, if a point and a digit stand there. -/
def fractionDigits (cs : Text.Points) : Text.Points × Rest cs :=
  match cs with
  | .char '.' :: c :: rest =>
    if isDigit c then
      let (more, ⟨rest', h⟩) := digits rest
      (c :: more, ⟨rest', by simp; omega⟩)
    else ([], ⟨.char '.' :: c :: rest, Nat.le_refl _⟩)
  | cs => ([], ⟨cs, Nat.le_refl _⟩)

/-- The exponent at the front of a text, if a mark, an optional sign and a digit stand there. -/
def exponent? (cs : Text.Points) : Option (Int × Rest cs) :=
  match cs with
  | mark :: rest =>
    if mark = 'e' ∨ mark = 'E' then
      let (sign, ⟨numeral, hn⟩) : Option Text.Sign × Rest rest :=
        match rest with
        | .char '+' :: more => (some .plus, ⟨more, by simp⟩)
        | .char '-' :: more => (some .minus, ⟨more, by simp⟩)
        | more => (none, ⟨more, Nat.le_refl _⟩)
      let (ds, ⟨rest', h⟩) := digits numeral
      if ds.isEmpty then none
      else some (Text.Sign.apply sign (Text.naturalOf ds), ⟨rest', by simp; omega⟩)
    else none
  | [] => none

/-- The digits before the point: a zero alone, or digits that do not start with zero. -/
def wholeDigits? (cs : Text.Points) :
    Option (Text.Points × { rest : Text.Points // rest.length < cs.length }) :=
  match cs with
  | c :: rest =>
    -- Digits behind a leading zero are no part of the number.
    if c = '0' then some ([.char '0'], ⟨rest, Nat.lt_succ_self rest.length⟩)
    else if isDigit c then
      let (more, ⟨rest', h⟩) := digits rest
      some (c :: more, ⟨rest', Nat.lt_succ_of_le h⟩)
    else none
  | [] => none

/-- The number at the front of a text, behind its sign, if one stands there. -/
def unsigned? (negative : Bool) (cs : Text.Points) : Option (Read Value cs) :=
  match wholeDigits? cs with
  | none => none
  | some (whole, ⟨rest, h⟩) =>
    let (fraction, ⟨rest', h'⟩) := fractionDigits rest
    match fraction, exponent? rest' with
    -- Only a number with neither a fraction nor an exponent is an integer.
    | [], none =>
      match Text.readNatural whole with
      | .error fault => some (.error (.oversized fault))
      | .ok n =>
        some (.ok (.integer (Text.Sign.apply (if negative then some .minus else none) n),
          ⟨rest', by omega⟩))
    | fraction, some (e, ⟨rest'', h''⟩) =>
      some (.ok (.fraction (Decimal.Binary64.ofDecimal negative
        (Text.naturalOf (whole ++ fraction)) (e - fraction.length)), ⟨rest'', by omega⟩))
    | fraction, none =>
      some (.ok (.fraction (Decimal.Binary64.ofDecimal negative
        (Text.naturalOf (whole ++ fraction)) (-(fraction.length : Int))), ⟨rest', by omega⟩))

/-- The number at the front of a text. -/
def number (cs : Text.Points) : Read Value cs :=
  match cs with
  | .char '-' :: rest =>
    match unsigned? true rest with
    | none => .error (.problem .noValue (rest.length + 1))
    | some (.error halt) => .error halt
    | some (.ok (v, ⟨rest', h⟩)) => .ok (v, ⟨rest', by simp; omega⟩)
  | cs =>
    match unsigned? false cs with
    | none => .error (.problem .noValue cs.length)
    | some read => read

/-- The words that stand for values. -/
def words : List (String × Value) :=
  [("null", .null), ("true", .bool true), ("false", .bool false), ("NaN", .fraction .undefined),
    ("Infinity", .fraction (.infinite false)), ("-Infinity", .fraction (.infinite true))]

/-- The word at the front of a text, if one stands there. -/
def word? (cs : Text.Points) : Option (Value × { rest : Text.Points // rest.length < cs.length }) :=
  words.findSome? fun (name, value) =>
    match Text.afterMark? (Text.ofString name).points cs with
    | none => none
    | some rest => if h : rest.length < cs.length then some (value, ⟨rest, h⟩) else none

/-! ## Values -/

/-- What follows a symbol that stands at the front of a text. -/
def symbol? (symbol : Char) (cs : Text.Points) :
    Option { rest : Text.Points // rest.length < cs.length } :=
  match cs with
  | [] => none
  | c :: rest => if c = symbol then some ⟨rest, by simp⟩ else none

mutual

/-- The value at the front of a text; `depth` more containers may be opened. -/
def value (depth : Nat) (cs : Text.Points) : Read Value cs :=
  match symbol? '"' cs with
  | some ⟨inside, hi⟩ =>
    match stringFrom cs [] inside with
    | .error halt => .error halt
    | .ok (s, ⟨rest, h⟩) => .ok (.string s, ⟨rest, by omega⟩)
  | none =>
  match symbol? '[' cs with
  | some ⟨inside, hi⟩ =>
    match depth with
    | 0 => .error (.tooDeep .array)
    | depth + 1 =>
      match skipSpaces inside with
      | ⟨start, hs⟩ =>
        match symbol? ']' start with
        | some ⟨rest, h⟩ => .ok (.array [], ⟨rest, by omega⟩)
        | none =>
          match elements depth [] start with
          | .error halt => .error halt
          | .ok (vs, ⟨rest, h⟩) => .ok (.array vs, ⟨rest, by omega⟩)
  | none =>
  match symbol? '\x7b' cs with
  | some ⟨inside, hi⟩ =>
    match depth with
    | 0 => .error (.tooDeep .object)
    | depth + 1 =>
      match skipSpaces inside with
      | ⟨start, hs⟩ =>
        match symbol? '\x7d' start with
        | some ⟨rest, h⟩ => .ok (.object [], ⟨rest, by omega⟩)
        | none =>
          match members depth [] start with
          | .error halt => .error halt
          | .ok (ms, ⟨rest, h⟩) => .ok (.object (mergeMembers ms), ⟨rest, by omega⟩)
  | none =>
  -- Words come before numbers, since one of them starts with a minus sign.
  match word? cs with
  | some found => .ok found
  | none => number cs
termination_by 2 * cs.length
decreasing_by all_goals omega

/-- The elements of an array from a place where a value has to stand; `read` holds those before it
in reverse order. -/
def elements (depth : Nat) (read : List Value) (cs : Text.Points) : Read (List Value) cs :=
  match value depth cs with
  | .error halt => .error halt
  | .ok (v, ⟨rest, h⟩) =>
    match skipSpaces rest with
    | ⟨next, hn⟩ =>
      match symbol? ']' next with
      | some ⟨rest', h'⟩ => .ok ((v :: read).reverse, ⟨rest', by omega⟩)
      | none =>
        match symbol? ',' next with
        | none => .error (.problem .noComma next.length)
        | some ⟨after, ha⟩ =>
          match skipSpaces after with
          | ⟨start, hs⟩ =>
            match elements depth (v :: read) start with
            | .error halt => .error halt
            | .ok (vs, ⟨rest', h'⟩) => .ok (vs, ⟨rest', by omega⟩)
termination_by 2 * cs.length + 1
decreasing_by all_goals omega

/-- The members of an object from a place where a key has to stand; `read` holds those before it in
reverse order. -/
def members (depth : Nat) (read : List (Text × Value)) (cs : Text.Points) :
    Read (List (Text × Value)) cs :=
  match symbol? '"' cs with
  | none => .error (.problem .noPropertyName cs.length)
  | some ⟨inside, hi⟩ =>
    match stringFrom cs [] inside with
    | .error halt => .error halt
    | .ok (key, ⟨behind, hb⟩) =>
      match skipSpaces behind with
      | ⟨mark, hm⟩ =>
        match symbol? ':' mark with
        | none => .error (.problem .noColon mark.length)
        | some ⟨afterColon, hc⟩ =>
          match skipSpaces afterColon with
          | ⟨place, hp⟩ =>
            match value depth place with
            | .error halt => .error halt
            | .ok (v, ⟨rest, h⟩) =>
              match skipSpaces rest with
              | ⟨next, hn⟩ =>
                match symbol? '\x7d' next with
                -- The object closes behind the member.
                | some ⟨rest', h'⟩ => .ok (((key, v) :: read).reverse, ⟨rest', by omega⟩)
                | none =>
                  match symbol? ',' next with
                  | none => .error (.problem .noComma next.length)
                  | some ⟨after, ha⟩ =>
                    match skipSpaces after with
                    | ⟨start, hs⟩ =>
                      match members depth ((key, v) :: read) start with
                      | .error halt => .error halt
                      | .ok (ms, ⟨rest', h'⟩) => .ok (ms, ⟨rest', by omega⟩)
termination_by 2 * cs.length + 1
decreasing_by all_goals omega

end

/-- A document: a value with spaces around it and nothing else. -/
def document (depth : Nat) (cs : Text.Points) : Except Halt Value :=
  if cs.head? = some '\ufeff' then .error (.problem .byteOrderMark cs.length)
  else
    match value depth (skipSpaces cs) with
    | .error halt => .error halt
    | .ok (v, ⟨rest, _⟩) =>
      match skipSpaces rest with
      | ⟨[], _⟩ => .ok v
      | ⟨rest', _⟩ => .error (.problem .extraData rest'.length)

end Reader

/-- The value of a JSON document, or the first failure in it; `depth` containers may be open at a
time. -/
def parse (depth : Nat) (text : Text) : Except Failure Value :=
  match Reader.document depth text.points with
  | .ok v => .ok v
  | .error (.problem problem left) =>
    let before := text.points.take (text.points.length - left)
    .error (.malformed ⟨problem, Text.Position.after before⟩)
  | .error (.oversized fault) => .error (.oversized fault)
  | .error (.tooDeep container) => .error (.tooDeep container)

end GatedPrompt.Json
