/-!
# Binary floating point numbers

Numbers of the binary64 format as exact values: a finite one is a significand times a power of two.
Nothing here computes with machine floats, so every step can be reasoned about.

* `Binary64` — a finite number, an infinity, or no number;
* `ofDecimal` — the number nearest to a decimal, a tie going to the even significand;
* `roundRatio` — the natural number nearest to a fraction, a tie going to the even neighbour.
-/

namespace GatedPrompt.Decimal

/-- The natural number nearest to `num / den`; a tie goes to the even neighbour. -/
def roundRatio (num den : Nat) : Nat :=
  let whole := num / den
  let twice := 2 * (num % den)
  if den < twice ∨ (twice = den ∧ whole % 2 = 1) then whole + 1 else whole

/-- A number of the binary64 format. -/
inductive Binary64 where
  /-- A finite number: its sign, then a significand times a power of two. -/
  | finite (negative : Bool) (significand : Nat) (exponent : Int)
  /-- Beyond the greatest finite number. -/
  | infinite (negative : Bool)
  /-- No number at all. -/
  | undefined
  deriving DecidableEq, Repr, Inhabited

namespace Binary64

/-- The least exponent of a finite number. -/
def leastExponent : Int := -1074

/-- The greatest exponent of a finite number. -/
def greatestExponent : Int := 971

/-- A natural number times a power of a base, as a fraction. -/
def scaled (m base : Nat) (exponent : Int) : Nat × Nat :=
  if exponent < 0 then (m, Nat.pow base (-exponent).toNat)
  else (m * Nat.pow base exponent.toNat, 1)

/-- The finite number nearest to a positive fraction, or infinity if that lies beyond them. -/
def nearest (negative : Bool) (num den : Nat) : Binary64 :=
  let guess : Int := (num.log2 : Int) - (den.log2 : Int) - 52
  let (unit, unitDen) := scaled (Nat.pow 2 52) 2 guess
  -- The logarithms are whole, so the guess is exact or one too high.
  let exact := if num * unitDen < unit * den then guess - 1 else guess
  let exponent := max exact leastExponent
  let (scale, scaleDen) := scaled 1 2 exponent
  let significand := roundRatio (num * scaleDen) (den * scale)
  -- Rounding may carry into one more bit.
  let (significand, exponent) :=
    if Nat.pow 2 53 ≤ significand then (significand / 2, exponent + 1)
    else (significand, exponent)
  if greatestExponent < exponent then .infinite negative else .finite negative significand exponent

/-- The number nearest to a coefficient times a power of ten. Coefficients whose scale alone puts
them beyond the greatest or below half the least number are decided by the scale. -/
def ofDecimal (negative : Bool) (coefficient : Nat) (exponent : Int) : Binary64 :=
  if coefficient = 0 then .finite negative 0 0
  else if 1024 ≤ 3 * exponent then .infinite negative
  else if (coefficient.log2 : Int) + 1 + 3 * exponent ≤ -1075 then .finite negative 0 0
  else
    let (num, den) := scaled coefficient 10 exponent
    nearest negative num den

end Binary64

end GatedPrompt.Decimal
