import GatedPrompt.Definitions.Failure

/-!
# Shapes of values

Taking a value apart under the assumption that it has a shape. The failure names the place of the
value. Truth values are no integers.

* `requireObject`, `requireList`, `requireString`, `requireInteger`, `requireBoolean` — one value;
* `readElements` — the elements of a list, each read at its place;
* `bind_eq_ok_iff` and `bind_eq_error_iff` — how reading one part after the other ends.
-/

namespace GatedPrompt.Definitions

open Json (Value)

/-! ## One part after the other -/

section

variable {ε α β : Type} {x : Except ε α} {f : α → Except ε β}

/-- Reading one part after the other ends well exactly if both parts do. -/
theorem bind_eq_ok_iff {b : β} : x >>= f = .ok b ↔ ∃ a, x = .ok a ∧ f a = .ok b := by
  cases x with
  | error e =>
    constructor
    · intro h
      cases h
    · rintro ⟨a, h, -⟩
      cases h
  | ok a =>
    constructor
    · exact fun h => ⟨a, rfl, h⟩
    · rintro ⟨a', ha, h⟩
      exact Except.ok.inj ha ▸ h

/-- A failure comes from the first part, or from the second one if the first part is read. -/
theorem bind_eq_error_iff {e : ε} :
    x >>= f = .error e ↔ x = .error e ∨ ∃ a, x = .ok a ∧ f a = .error e := by
  cases x with
  | error e' =>
    constructor
    · exact fun h => .inl (congrArg Except.error (Except.error.inj h))
    · rintro (h | ⟨a, h, -⟩)
      · exact congrArg Except.error (Except.error.inj h)
      · cases h
  | ok a =>
    constructor
    · exact fun h => .inr ⟨a, rfl, h⟩
    · rintro (h | ⟨a', ha, h⟩)
      · cases h
      · exact Except.ok.inj ha ▸ h

end

/-! ## The shapes -/

/-- The members of an object. -/
abbrev Members := List (Text × Value)

/-- The value of the member with a name. -/
def memberNamed? (name : String) (members : Members) : Option Value :=
  Json.member? (Text.ofString name) members

/-- The failure of a value that does not have its shape. -/
def wrong {α : Type} (place : Text) (expected : Shape) : Except Failure α :=
  .error (.invalid (.wrongShape place expected))

/-- The members of a value that has to be an object. -/
def requireObject (place : Text) : Value → Except Failure Members
  | .object members => .ok members
  | _ => wrong place .object

theorem requireObject_eq_ok_iff {place : Text} {value : Value} {members : Members} :
    requireObject place value = .ok members ↔ value = .object members := by
  cases value <;> simp [requireObject, wrong]

/-- The elements of a value that has to be a list. -/
def requireList (place : Text) : Value → Except Failure (List Value)
  | .array elements => .ok elements
  | _ => wrong place .list

/-- The text of a value that has to be a string. -/
def requireString (place : Text) : Value → Except Failure Text
  | .string text => .ok text
  | _ => wrong place .string

/-- The number of a value that has to be an integer. -/
def requireInteger (place : Text) : Value → Except Failure Int
  | .integer n => .ok n
  | _ => wrong place .integer

/-- The truth value of a value that has to be one. -/
def requireBoolean (place : Text) : Value → Except Failure Bool
  | .bool b => .ok b
  | _ => wrong place .boolean

/-- The elements of a list from an index on, each read at its place. -/
def readElementsFrom {α : Type} (place : Text) (read : Text → Value → Except Failure α) :
    Nat → List Value → Except Failure (List α)
  | _, [] => .ok []
  | index, value :: values => do
    let first ← read (place ++ s!"[{index}]") value
    let others ← readElementsFrom place read (index + 1) values
    return first :: others

/-- The elements of a list, each read at its place. -/
def readElements {α : Type} (place : Text) (read : Text → Value → Except Failure α)
    (values : List Value) : Except Failure (List α) :=
  readElementsFrom place read 0 values

end GatedPrompt.Definitions
