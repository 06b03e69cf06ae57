import GatedPrompt.Text.CodePoint

/-!
# Line ends and positions

* `unifyLineEnds` — a text in which every line ends with a line feed, whether it was written with a
  carriage return, a line feed or both;
* `Position` — where a code point stands: its index from the start, its line and its column.
-/

namespace GatedPrompt.Text

/-- A text whose line ends are all written as a single line feed. -/
def unifyLineEnds : List Char → List Char
  | [] => []
  | '\r' :: '\n' :: cs => '\n' :: unifyLineEnds cs
  | '\r' :: cs => '\n' :: unifyLineEnds cs
  | c :: cs => c :: unifyLineEnds cs

/-- Where a code point stands in a text. -/
structure Position where
  /-- The number of code points before it. -/
  index : Nat
  /-- The number of its line, from one. -/
  line : Nat
  /-- Its place in the line, from one. -/
  column : Nat
  deriving DecidableEq, Repr, Inhabited

namespace Position

/-- The place of the first code point. -/
def start : Position := ⟨0, 1, 1⟩

/-- The place that follows a place at which the given code point stands. -/
def next (position : Position) (point : CodePoint) : Position :=
  if point = '\n' then ⟨position.index + 1, position.line + 1, 1⟩
  else ⟨position.index + 1, position.line, position.column + 1⟩

/-- The place reached behind a stretch of text. -/
def after (before : Points) : Position := before.foldl next start

/-- The index counts the code points passed. -/
theorem index_after (before : Points) : (after before).index = before.length := by
  -- Each code point adds one, from whatever place the count begins.
  have key : ∀ (points : Points) (p : Position),
      (points.foldl next p).index = p.index + points.length := by
    intro points
    induction points with
    | nil => simp
    | cons point points ih =>
      intro p
      have hstep : (next p point).index = p.index + 1 := by
        unfold next; split <;> rfl
      simp only [List.foldl_cons, List.length_cons, ih, hstep]
      omega
  simpa [after, start] using key before start

end Position

/-- A text without carriage returns is left as it is. -/
theorem unifyLineEnds_of_not_mem {cs : List Char} (h : '\r' ∉ cs) : unifyLineEnds cs = cs := by
  induction cs with
  | nil => rfl
  | cons c cs ih =>
    simp only [List.mem_cons, not_or] at h
    have hc : c ≠ '\r' := fun e => h.1 e.symm
    rw [unifyLineEnds, ih h.2]
    · intro rest hcr; exact absurd hcr hc
    · exact hc

end GatedPrompt.Text
