import Mathlib.Data.List.TakeWhile
import GatedPrompt.Json.Reader

/-!
# Texts beyond the limits

The reader of JSON gives up on containers nested too deeply and on integers of too many digits. Such
texts, one of each kind:

* `value_brackets`, `parse_brackets` — brackets that open inside each other, by induction on how
  many may be open;
* `value_ones`, `parse_ones` — a numeral of ones.
-/

namespace GatedPrompt.Json

namespace Reader

/-- Brackets that open inside each other, one more than may be open at a time. -/
theorem value_brackets (depth : Nat) (rest : Text.Points) :
    value depth (List.replicate (depth + 1) (.char '[') ++ rest) = .error (.tooDeep .array) := by
  induction depth with
  | zero =>
    rw [value]
    rfl
  | succ depth ih =>
    rw [List.replicate_succ, List.cons_append]
    generalize hinside : List.replicate (depth + 1) (.char '[') ++ rest = inside at ih
    have hstart : (skipSpaces inside).val = inside := by
      rw [← hinside]
      rfl
    have hquote : symbol? '"' (.char '[' :: inside) = none := rfl
    have hopen : symbol? '[' (.char '[' :: inside) = some ⟨inside, by simp⟩ := rfl
    have hclose : symbol? ']' (skipSpaces inside).val = none := by
      rw [hstart, ← hinside]
      rfl
    have helements : elements depth [] (skipSpaces inside).val = .error (.tooDeep .array) := by
      rw [hstart, elements, ih]
    rw [value]
    simp only [hquote, hopen, hclose, helements]

/-- Digits that go on to the end of the text and are too many. -/
theorem unsigned?_of_long {negative : Bool} {cs whole : Text.Points} {h : [].length < cs.length}
    {n : Nat} (hwhole : wholeDigits? cs = some (whole, ⟨[], h⟩)) (hn : whole.length = n)
    (hlong : Text.digitLimit < n) :
    unsigned? negative cs = some (.error (.oversized (.numeral n))) := by
  subst hn
  have hread : Text.readNatural whole = .error (.numeral whole.length) :=
    Text.readNatural_eq_error_iff.2 ⟨hlong, rfl⟩
  simp only [unsigned?, hwhole, fractionDigits, exponent?, hread]

theorem value_ones (depth : Nat) {n : Nat} (h : Text.digitLimit ≤ n) :
    value depth (.char '1' :: List.replicate n (.char '1')) =
      .error (.oversized (.numeral (n + 1))) := by
  have hall : ∀ p ∈ List.replicate n (Text.CodePoint.char '1'), isDigit p = true := by
    intro p hp
    rw [List.eq_of_mem_replicate hp]
    decide
  have hdigits : digits (List.replicate n (.char '1')) =
      (List.replicate n (.char '1'), ⟨[], Nat.zero_le _⟩) := by
    simp only [digits, List.takeWhile_eq_self_iff.2 hall, List.dropWhile_eq_nil_iff.2 hall]
  generalize hones : List.replicate n (Text.CodePoint.char '1') = ones at hdigits
  have hwhole : wholeDigits? (.char '1' :: ones) = some (.char '1' :: ones, ⟨[], by simp⟩) := by
    simp only [wholeDigits?, hdigits]
    rfl
  have hlength : (Text.CodePoint.char '1' :: ones).length = n + 1 := by
    rw [← hones, List.length_cons, List.length_replicate]
  have hunsigned : unsigned? false (.char '1' :: ones) =
      some (.error (.oversized (.numeral (n + 1)))) :=
    unsigned?_of_long hwhole hlength (Nat.lt_succ_of_le h)
  have hword : word? (.char '1' :: ones) = none := rfl
  have hquote : symbol? '"' (.char '1' :: ones) = none := rfl
  have hopen : symbol? '[' (.char '1' :: ones) = none := rfl
  have hbrace : symbol? '\x7b' (.char '1' :: ones) = none := rfl
  have hnumber : number (.char '1' :: ones) = .error (.oversized (.numeral (n + 1))) := by
    rw [number, hunsigned]
    -- no minus sign stands at the front
    rintro _ ⟨⟩
  rw [value]
  simp only [hquote, hopen, hbrace, hword, hnumber]

/-- What the reader gives up at the front of a text, it gives up the document for. -/
theorem document_of_value {depth : Nat} {p : Text.CodePoint} {cs : Text.Points} {halt : Halt}
    (hmark : p ≠ .char '\ufeff') (hspace : isSpace p = false)
    (hvalue : value depth (p :: cs) = .error halt) : document depth (p :: cs) = .error halt := by
  have hskip : (skipSpaces (p :: cs)).val = p :: cs := by
    simp [skipSpaces, hspace]
  have hstart : value depth (skipSpaces (p :: cs)).val = .error halt := by
    rw [hskip]
    exact hvalue
  rw [document, if_neg (by simpa using hmark)]
  simp only [hstart]

end Reader

/-- **Brackets nested too deeply.** -/
theorem parse_brackets {depth n : Nat} (h : depth ≤ n) :
    parse depth ⟨.char '[' :: List.replicate n (.char '[')⟩ = .error (.tooDeep .array) := by
  have hvalue := Reader.value_brackets depth (List.replicate (n - depth) (.char '['))
  have hn : depth + 1 + (n - depth) = n + 1 := by omega
  rw [List.replicate_append_replicate, hn, List.replicate_succ] at hvalue
  rw [parse, Reader.document_of_value (by decide) (by decide) hvalue]

/-- **An integer of too many digits.** -/
theorem parse_ones (depth : Nat) {n : Nat} (h : Text.digitLimit ≤ n) :
    parse depth ⟨.char '1' :: List.replicate n (.char '1')⟩ =
      .error (.oversized (.numeral (n + 1))) := by
  rw [parse, Reader.document_of_value (by decide) (by decide) (Reader.value_ones _ h)]

end GatedPrompt.Json
