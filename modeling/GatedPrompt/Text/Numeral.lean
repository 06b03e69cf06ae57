import GatedPrompt.Text.Digit

/-!
# Numerals

Decimal numerals in the digits of any script. A numeral of more than `digitLimit` digits is refused
before its value is computed, since the time to compute it grows with the square of its length; and
so is an integer of that size before its numeral is written.

* `Oversized` — the two refusals;
* `readNatural` — the value of a digit string;
* `Sign.apply` — a value under the sign that was written before it;
* `parseInteger?` — an integer as typed by a person: blanks around it, one sign, and single
  underscores between its digits are allowed;
* `isUnwritable` and `requireWritable` — whether the numeral of an integer is too long, and the
  refusal to write it then; `leastUnwritable` is the first such number.
-/

namespace GatedPrompt.Text

/-- The greatest number of digits a numeral may have, leading zeros included. -/
def digitLimit : Nat := 4300

/-- A numeral was refused for its length. -/
inductive Oversized where
  /-- It was not read; it has so many digits, leading zeros included. -/
  | numeral (digits : Nat)
  /-- The numeral of an integer was not written. -/
  | integer
  deriving DecidableEq, Repr, Inhabited

def Oversized.message : Oversized → String
  | numeral digits =>
    s!"Exceeds the limit ({digitLimit} digits) for integer string conversion: value has " ++
      s!"{digits} digits; use sys.set_int_max_str_digits() to increase the limit"
  | integer =>
    s!"Exceeds the limit ({digitLimit} digits) for integer string conversion; " ++
      "use sys.set_int_max_str_digits() to increase the limit"

/-- The number a digit string stands for, most significant digit first. -/
def naturalOf (digits : Points) : Nat :=
  digits.foldl (fun total point => 10 * total + digitValue point) 0

/-- The number a digit string stands for, if the string is not too long. -/
def readNatural (digits : Points) : Except Oversized Nat :=
  if digits.length ≤ digitLimit then .ok (naturalOf digits) else .error (.numeral digits.length)

/-- A sign written before a numeral. -/
inductive Sign where
  | plus
  | minus
  deriving DecidableEq, Repr, Inhabited

namespace Sign

/-- The code point a sign is written with. -/
def point : Sign → CodePoint
  | plus => '+'
  | minus => '-'

/-- The sign a code point stands for. -/
def ofPoint? (point : CodePoint) : Option Sign :=
  if point = '+' then some plus else if point = '-' then some minus else none

/-- The integer that a natural number becomes under an optional sign. -/
def apply (sign : Option Sign) (n : Nat) : Int :=
  match sign with
  | some minus => -(n : Int)
  | _ => n

/-- The optional sign at the front of a text, and what follows it. -/
def split : Points → Option Sign × Points
  | [] => (none, [])
  | point :: rest =>
    match ofPoint? point with
    | some sign => (some sign, rest)
    | none => (none, point :: rest)

/-- A sign is read back from how it is written. -/
theorem ofPoint?_point (sign : Sign) : ofPoint? sign.point = some sign := by
  cases sign <;> rfl

/-- Splitting off the sign loses nothing. -/
theorem split_append (points : Points) :
    (split points).1.toList.map point ++ (split points).2 = points := by
  cases points with
  | nil => rfl
  | cons first rest =>
    simp only [split, ofPoint?]
    by_cases hplus : first = '+'
    · simp [hplus, point]
    · by_cases hminus : first = '-'
      · simp [hminus, point]
      · simp [hplus, hminus]

end Sign

/-- The digits of a numeral in which single underscores may stand between digits. -/
def ungroup? : Points → Option (Points)
  | [] => none
  | [point] => if isDigit point then some [point] else none
  -- The text behind the underscore must go on with a digit, since no text but one does.
  | point :: .char '_' :: rest =>
    if isDigit point then (ungroup? rest).map (point :: ·) else none
  | point :: rest => if isDigit point then (ungroup? rest).map (point :: ·) else none

/-- The integer that a typed text stands for, if it is one and is not too long. -/
def parseInteger? (text : Points) : Option Int :=
  let (sign, numeral) := Sign.split (trim text)
  match ungroup? numeral with
  | none => none
  | some digits => (readNatural digits).toOption.map (Sign.apply sign)

/-- The least number whose numeral is too long to be written. -/
def leastUnwritable : Nat := Nat.pow 10 digitLimit

/-- Whether the numeral of an integer is too long to be written. -/
def isUnwritable (n : Int) : Bool := decide (leastUnwritable ≤ n.natAbs)

/-- The refusal to write an integer whose numeral is too long. -/
def requireWritable (n : Int) : Except Oversized Unit :=
  if isUnwritable n then .error .integer else .ok ()

theorem leastUnwritable_pos : 0 < leastUnwritable := by
  have hpos : ∀ n, 0 < Nat.pow 10 n := fun n => Nat.pow_pos (by decide)
  unfold leastUnwritable
  -- the power is too great to be computed
  generalize digitLimit = n
  exact hpos n

/-- Zero is short enough to be written. -/
theorem requireWritable_zero : requireWritable 0 = .ok () := by
  have hpos := leastUnwritable_pos
  have hwritable : isUnwritable 0 = false := by
    rw [isUnwritable, decide_eq_false_iff_not, Int.natAbs_zero]
    omega
  rw [requireWritable, hwritable]
  rfl

/-- A numeral within the limit is read as its value. -/
theorem readNatural_of_length_le {digits : Points} (h : digits.length ≤ digitLimit) :
    readNatural digits = .ok (naturalOf digits) := by
  simp [readNatural, h]

/-- Reading fails exactly on the digit strings above the limit, and reports their length. -/
theorem readNatural_eq_error_iff {digits : Points} {fault : Oversized} :
    readNatural digits = .error fault ↔
      digitLimit < digits.length ∧ fault = .numeral digits.length := by
  unfold readNatural
  split
  · next h =>
    constructor
    · intro hok
      exact absurd hok (by simp)
    · rintro ⟨hlt, _⟩
      omega
  · next h =>
    constructor
    · intro herr
      exact ⟨by omega, (Except.error.inj herr).symm⟩
    · rintro ⟨_, rfl⟩
      rfl

end GatedPrompt.Text
