/-!
# Comparisons

The six ways to compare two integers and the nine ways to write them.

* `Comparison.holds` — whether two integers stand in the relation (`holds_iff`);
* `Comparison.symbol` — the canonical way to write it;
* `Comparison.spellings` — all ways to write one, longer ones before their own beginnings, so that
  the first that fits a text is the longest that does.
-/

namespace GatedPrompt.Rule

/-- A relation between integers. -/
inductive Comparison where
  | equal
  | unequal
  | less
  | lessOrEqual
  | greater
  | greaterOrEqual
  deriving DecidableEq, Repr, Inhabited

namespace Comparison

/-- Whether two integers stand in the relation. -/
def holds (comparison : Comparison) (left right : Int) : Bool :=
  match comparison with
  | equal => left = right
  | unequal => left ≠ right
  | less => left < right
  | lessOrEqual => left ≤ right
  | greater => left > right
  | greaterOrEqual => left ≥ right

/-- The relation as a proposition. -/
def Relates (comparison : Comparison) (left right : Int) : Prop :=
  match comparison with
  | equal => left = right
  | unequal => left ≠ right
  | less => left < right
  | lessOrEqual => left ≤ right
  | greater => right < left
  | greaterOrEqual => right ≤ left

/-- The canonical way to write a comparison. -/
def symbol : Comparison → String
  | equal => "=="
  | unequal => "!="
  | less => "<"
  | lessOrEqual => "<="
  | greater => ">"
  | greaterOrEqual => ">="

/-- All ways to write a comparison. -/
def spellings : List (String × Comparison) :=
  [("===", equal), ("==", equal), ("<=", lessOrEqual), (">=", greaterOrEqual), ("!==", unequal),
    ("!=", unequal), ("=", equal), ("<", less), (">", greater)]

/-- The comparison that is written in a given way. -/
def ofSpelling? (text : String) : Option Comparison := spellings.lookup text

/-- Deciding a comparison answers the relation. -/
theorem holds_iff {comparison : Comparison} {left right : Int} :
    comparison.holds left right = true ↔ comparison.Relates left right := by
  cases comparison <;> simp [holds, Relates]

/-- The canonical spelling is a spelling. -/
theorem ofSpelling?_symbol (comparison : Comparison) :
    ofSpelling? comparison.symbol = some comparison := by
  cases comparison <;> decide

end Comparison

end GatedPrompt.Rule
