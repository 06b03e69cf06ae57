import GatedPrompt.Text.CodePoint

/-!
# Texts

The texts that games and documents hold: sequences of code points.

* `Text` — a text; a string is one wherever a text is expected;
* `Text.ofChars` and `Text.ofString` — the text of some characters;
* `Text.shown` — a text as a device shows it, which changes no string (`shown_ofString`);
* `Text.append`, `Text.intercalate` — texts one after the other.
-/

namespace GatedPrompt

/-- A sequence of code points. -/
structure Text where
  points : Text.Points
  deriving DecidableEq, Repr, Inhabited

namespace Text

/-- The text of some characters. -/
def ofChars (cs : List Char) : Text := ⟨cs.map .char⟩

/-- A string as a text. -/
def ofString (s : String) : Text := ofChars s.toList

instance : Coe String Text := ⟨ofString⟩

/-- Two texts, one after the other. -/
def append (first second : Text) : Text := ⟨first.points ++ second.points⟩

instance : Append Text := ⟨append⟩

/-- Whether a text has no code points. -/
def isEmpty (text : Text) : Bool := text.points.isEmpty

/-- Texts one after the other, with a separator between them. -/
def intercalate (separator : Text) (texts : List Text) : Text :=
  ⟨separator.points.intercalate (texts.map points)⟩

/-- A text as a device shows it that knows characters only. -/
def shown (text : Text) : String := String.ofList (text.points.map CodePoint.shown)

/-- The code points of two texts, one after the other. -/
@[simp] theorem points_append (first second : Text) :
    (first ++ second).points = first.points ++ second.points := rfl

theorem append_assoc (first second third : Text) :
    first ++ second ++ third = first ++ (second ++ third) :=
  congrArg mk (List.append_assoc _ _ _)

theorem append_empty (text : Text) : text ++ ofString "" = text := congrArg mk (List.append_nil _)

/-- A string is shown as it is. -/
theorem shown_ofString (s : String) : (ofString s).shown = s := by
  have hid : CodePoint.shown ∘ CodePoint.char = id := rfl
  rw [shown, ofString, ofChars, List.map_map, hid, List.map_id, String.ofList_toList]

end Text

end GatedPrompt
