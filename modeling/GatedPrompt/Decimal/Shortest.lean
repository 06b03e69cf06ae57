import GatedPrompt.Decimal.Binary64

/-!
# Shortest decimals

The shortest decimal that identifies a binary floating point number: of all decimals that round to
the number those with the fewest digits, and of these the one nearest to it.

* `Bounds` — the interval of the decimals that round to a number, in exact arithmetic; its ends
  belong to it when the significand is even;
* `shortest` — tries one digit, two digits, and so on; on each decimal grid only the two
  neighbours of the number can be the nearest point inside the interval;
* `text` — the decimal in positional notation if the point falls at most three zeros before or
  sixteen digits into the digits, else with an exponent of at least two digits.
-/

namespace GatedPrompt.Decimal

/-- A decimal: a coefficient times a power of ten. -/
structure Numeral where
  coefficient : Nat
  exponent : Int
  deriving DecidableEq, Repr, Inhabited

/-- How many decimal digits a natural number has; zero has none. -/
def digitCount (n : Nat) : Nat := if n = 0 then 0 else (Nat.toDigits 10 n).length

/-- The order of `c · 10 ^ k` and `x · 2 ^ p`. -/
def compareScaled (c : Nat) (k : Int) (x : Nat) (p : Int) : Ordering :=
  compare (c * Nat.pow 10 k.toNat * Nat.pow 2 (-p).toNat)
    (x * Nat.pow 2 p.toNat * Nat.pow 10 (-k).toNat)

/-- The numbers that round to a binary number: those between `low · 2 ^ exponent` and
`high · 2 ^ exponent`. -/
structure Bounds where
  low : Nat
  high : Nat
  exponent : Int
  /-- Whether the ends round to the number too. -/
  closed : Bool
  deriving DecidableEq, Repr, Inhabited

/-- The interval of the numbers that round to `significand · 2 ^ exponent`. Below a power of two the
numbers lie twice as close, so the interval is shorter on that side. -/
def Bounds.of (significand : Nat) (exponent : Int) : Bounds :=
  let below := if significand = Nat.pow 2 52 ∧ Binary64.leastExponent < exponent then 1 else 2
  ⟨4 * significand - below, 4 * significand + 2, exponent - 2, significand % 2 = 0⟩

/-- Whether a decimal lies in an interval. -/
def Bounds.contains (bounds : Bounds) (d : Numeral) : Bool :=
  let low := compareScaled d.coefficient d.exponent bounds.low bounds.exponent
  let high := compareScaled d.coefficient d.exponent bounds.high bounds.exponent
  (low == .gt || (low == .eq && bounds.closed)) && (high == .lt || (high == .eq && bounds.closed))

/-- The power of ten that a positive fraction lies just below: `10 ^ (e - 1) ≤ num / den < 10 ^ e`
for the result `e`. -/
def magnitude (num den : Nat) : Int :=
  if den ≤ num then digitCount (num / den) else 1 - (digitCount ((den - 1) / num) : Int)

/-- The point with the given number of digits that lies in the interval and is nearest to the
number, if one does. -/
def onGrid? (significand : Nat) (exponent : Int) (digits : Nat) : Option Numeral :=
  let bounds := Bounds.of significand exponent
  let (num, den) := Binary64.scaled significand 2 exponent
  let k := magnitude num den - (digits : Int)
  let (grid, gridDen) := Binary64.scaled 1 10 k
  let below := num * gridDen / (den * grid)
  -- A point at the next power of ten has one digit only.
  let point (c : Nat) : Numeral :=
    if c = Nat.pow 10 digits then ⟨1, k + digits⟩ else ⟨c, k⟩
  -- The number lies between `point below` and the next point of the grid.
  match bounds.contains (point below), bounds.contains (point (below + 1)) with
  | true, true => some (point (roundRatio (num * gridDen) (den * grid)))
  | true, false => some (point below)
  | false, true => some (point (below + 1))
  | false, false => none

/-- The shortest decimal that identifies the positive number `significand · 2 ^ exponent`. Seventeen
digits always suffice. -/
def shortest (significand : Nat) (exponent : Int) : Numeral :=
  ((List.range 17).findSome? fun n => onGrid? significand exponent (n + 1)).getD ⟨0, 0⟩

/-- An exponent with its sign and at least two digits. -/
def exponentText (e : Int) : String :=
  let digits := toString e.natAbs
  (if e < 0 then "-" else "+") ++ (if digits.length < 2 then "0" else "") ++ digits

/-- A positive decimal as text. -/
def Numeral.text (d : Numeral) : String :=
  let digits := Nat.toDigits 10 d.coefficient
  let point : Int := digits.length + d.exponent
  if -4 < point ∧ point ≤ 16 then
    -- Positional: the point lies before the digits, or among or behind them.
    if point ≤ 0 then
      "0." ++ String.ofList (List.replicate (-point).toNat '0' ++ digits)
    else
      let whole := point.toNat
      let fraction := digits.drop whole
      String.ofList (digits.take whole ++ List.replicate (whole - digits.length) '0') ++ "." ++
        (if fraction.isEmpty then "0" else String.ofList fraction)
  else
    let fraction := digits.drop 1
    String.ofList (digits.take 1) ++
      (if fraction.isEmpty then "" else "." ++ String.ofList fraction) ++ "e" ++
      exponentText (point - 1)

/-- A binary number as text. -/
def Binary64.text : Binary64 → String
  | .undefined => "nan"
  | .infinite negative => if negative then "-inf" else "inf"
  | .finite negative significand exponent =>
    (if negative then "-" else "") ++
      if significand = 0 then "0.0" else (shortest significand exponent).text

end GatedPrompt.Decimal
