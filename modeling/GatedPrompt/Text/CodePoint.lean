/-!
# Code points

What texts are made of. An escape in a document can name one half of a surrogate pair without the
other, so a text may hold more than characters.

* `CodePoint` — a character, or a surrogate without its partner;
* `CodePoint.value` and `CodePoint.ofNat` — a code point and its number (`value_ofNat`);
* `CodePoint.shown` — the character that a device shows for it.
-/

namespace GatedPrompt.Text

/-- A character, or a surrogate without its partner. -/
inductive CodePoint where
  | char (c : Char)
  /-- The surrogate at an offset from the first one, U+D800. -/
  | surrogate (offset : Fin 0x800)
  deriving DecidableEq, Repr, Inhabited

instance : Coe Char CodePoint := ⟨CodePoint.char⟩

namespace CodePoint

def value : CodePoint → Nat
  | char c => c.toNat
  | surrogate offset => 0xD800 + offset.val

/-- The code point with a number. -/
def ofNat (n : Nat) : CodePoint :=
  if h : 0xD800 ≤ n ∧ n < 0xE000 then surrogate ⟨n - 0xD800, by omega⟩ else char (Char.ofNat n)

/-- The character that a device shows for a code point: a surrogate has none of its own. -/
def shown : CodePoint → Char
  | char c => c
  | surrogate _ => Char.ofNat 0xFFFD

/-- A number up to the last code point is the number of its code point. -/
theorem value_ofNat {n : Nat} (h : n < 0x110000) : (ofNat n).value = n := by
  unfold ofNat
  split
  · next hs =>
    simp only [value]
    omega
  · next hs =>
    -- What is no surrogate is a character, and characters keep their numbers.
    have hvalid : n.isValidChar := by
      unfold Nat.isValidChar
      omega
    rw [value, Char.ofNat, dif_pos hvalid]
    rfl

end CodePoint

/-- A sequence of code points. -/
abbrev Points := List CodePoint

end GatedPrompt.Text
