import GatedPrompt.Decimal.Shortest
import GatedPrompt.Text.Numeral
import GatedPrompt.Text.Quoted

/-!
# JSON values

The tree a JSON document stands for, with the members of an object in the order of their first
appearance.

* `Value` — null, a truth value, an integer, a fractional number, a string, an array, an object;
* `setMember` — a member list in which a key has a new value, in its old place if it had one;
  `lookup_setMember` says what is found afterwards;
* `Value.quote` — a value in words, as it is quoted in a diagnostic: strings bare at the top and
  quoted inside, `True`, `False` and `None` for the three names. It fails, with an `Unquotable`, on
  integers that are too long and on containers that are nested too deeply.
-/

namespace GatedPrompt.Json

/-- A JSON value. -/
inductive Value where
  | null
  | bool (b : Bool)
  | integer (n : Int)
  | fraction (x : Decimal.Binary64)
  | string (text : Text)
  | array (elements : List Value)
  | object (members : List (Text × Value))
  deriving Repr, Inhabited

variable {κ α : Type} [DecidableEq κ]

/-- A member list in which the key has the value: in its old place if the key had one, else at the
end. -/
def setMember (key : κ) (value : α) : List (κ × α) → List (κ × α)
  | [] => [(key, value)]
  | (k, v) :: members =>
    if k = key then (k, value) :: members else (k, v) :: setMember key value members

/-- A member list without repeated keys: the last value of a key counts, in the key's first
place. -/
def mergeMembers (members : List (κ × α)) : List (κ × α) :=
  members.foldl (fun merged (key, value) => setMember key value merged) []

def member? (key : κ) (members : List (κ × α)) : Option α :=
  members.lookup key

/-- A key that was set has the new value, and no other key is affected. -/
theorem lookup_setMember (key k : κ) (value : α) (members : List (κ × α)) :
    (setMember key value members).lookup k =
      if k = key then some value else members.lookup k := by
  induction members with
  | nil =>
    by_cases h : k = key
    · simp [setMember, h]
    · have hne : (k == key) = false := beq_false_of_ne h
      simp [setMember, h, List.lookup_cons, hne]
  | cons entry members ih =>
    obtain ⟨k', v⟩ := entry
    by_cases hk : k' = key
    · subst hk
      by_cases h : k = k'
      · simp [setMember, h]
      · have hne : (k == k') = false := beq_false_of_ne h
        simp [setMember, h, List.lookup_cons, hne]
    · by_cases h : k = k'
      · subst h
        simp [setMember, hk]
      · have hne : (k == k') = false := beq_false_of_ne h
        simp [setMember, hk, List.lookup_cons, hne, ih]

/-- Why a value cannot be put into words. -/
inductive Unquotable where
  /-- It holds an integer with too many digits. -/
  | oversized (fault : Text.Oversized)
  /-- Containers are nested too deeply in it. -/
  | tooDeep
  deriving DecidableEq, Repr, Inhabited

def Unquotable.tooDeepMessage : String :=
  "maximum recursion depth exceeded while getting the repr of an object"

/-- An integer in words. -/
def integerWords (n : Int) : Except Unquotable String :=
  match Text.requireWritable n with
  | .error fault => .error (.oversized fault)
  | .ok () => .ok (toString n)

mutual

/-- A value in words, if it may be nested so deeply: `depth` values may stand inside one another,
this one included. -/
def Value.inner : Nat → Value → Except Unquotable String
  | 0, _ => .error .tooDeep
  | _ + 1, .null => .ok "None"
  | _ + 1, .bool b => .ok (if b then "True" else "False")
  | _ + 1, .integer n => integerWords n
  | _ + 1, .fraction x => .ok x.text
  | _ + 1, .string text => .ok (Text.quoted text)
  | depth + 1, .array elements => do
    let words ← Value.innerElements depth elements
    return "[" ++ ", ".intercalate words ++ "]"
  | depth + 1, .object members => do
    let words ← Value.innerMembers depth members
    return "\x7b" ++ ", ".intercalate words ++ "\x7d"

/-- The elements of an array in words. -/
def Value.innerElements (depth : Nat) : List Value → Except Unquotable (List String)
  | [] => .ok []
  | v :: vs => do
    let first ← v.inner depth
    let others ← Value.innerElements depth vs
    return first :: others

/-- The members of an object in words. -/
def Value.innerMembers (depth : Nat) : List (Text × Value) → Except Unquotable (List String)
  | [] => .ok []
  | (key, v) :: members => do
    let first ← v.inner depth
    let others ← Value.innerMembers depth members
    return (Text.quoted key ++ ": " ++ first) :: others

end

/-- A value in words; `depth` more values may stand inside one another in it. -/
def Value.quote (depth : Nat) : Value → Except Unquotable Text
  | .string text => .ok text
  | v => (v.inner (depth + 1)).map fun words => words

end GatedPrompt.Json
