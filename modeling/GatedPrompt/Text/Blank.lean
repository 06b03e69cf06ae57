import GatedPrompt.Text.CodePoint

/-!
# Blank characters

The blank characters of running text and the operations that ignore them at the ends of a text.

* `isBlank` — the Unicode property White_Space together with the four information separators
  U+001C to U+001F, which editors also draw as nothing;
* `trim` — a text without the blanks at its two ends;
* `isBlankText` — a text that holds blanks only.

The zero width space U+200B and the byte order mark U+FEFF are not blank.
-/

namespace GatedPrompt.Text

/-- The code point ranges, ends included, of the blank characters. -/
def blankRanges : List (Nat × Nat) :=
  [(0x09, 0x0D), (0x1C, 0x20), (0x85, 0x85), (0xA0, 0xA0), (0x1680, 0x1680), (0x2000, 0x200A),
    (0x2028, 0x2029), (0x202F, 0x202F), (0x205F, 0x205F), (0x3000, 0x3000)]

/-- Whether a code point lies in one of the ranges, ends included. -/
def inRanges (ranges : List (Nat × Nat)) (code : Nat) : Bool :=
  ranges.any fun range => decide (range.1 ≤ code) && decide (code ≤ range.2)

/-- Whether a code point is drawn as nothing and separates words. -/
def isBlank (point : CodePoint) : Bool := inRanges blankRanges point.value

/-- What is left when the blanks at the front are dropped. -/
def trimLeft (points : Points) : Points := points.dropWhile isBlank

/-- What is left when the blanks at the end are dropped. -/
def trimRight (points : Points) : Points :=
  (points.reverse.dropWhile isBlank).reverse

/-- What is left when the blanks at both ends are dropped. -/
def trim (points : Points) : Points := trimRight (trimLeft points)

/-- Whether a text holds nothing but blanks. -/
def isBlankText (points : Points) : Bool := points.all isBlank

end GatedPrompt.Text
