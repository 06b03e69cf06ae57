import GatedPrompt.Json.Reader
import GatedPrompt.Text.Blank

/-!
# Documents are not blank

Something is drawn at the front of every value that is written down, so that a text of blanks is no
document. Blank are more characters here than those that may stand between the parts of a document.

* `Reader.isBlankText_of_value` — the text that a value is read from is not blank;
* `isBlankText_of_parse` — neither is a document.
-/

namespace GatedPrompt.Json

namespace Reader

variable {cs : Text.Points}

/-- A text in which something stands that is drawn is not blank. -/
theorem isBlankText_of_mem {point : Text.CodePoint} (hmem : point ∈ cs)
    (h : Text.isBlank point = false) : Text.isBlankText cs = false := by
  unfold Text.isBlankText
  rw [List.all_eq_false]
  exact ⟨point, hmem, by simp [h]⟩

theorem mem_of_symbol? {symbol : Char} {rest : _} (h : symbol? symbol cs = some rest) :
    (symbol : Text.CodePoint) ∈ cs := by
  unfold symbol? at h
  split at h
  · cases h
  · split at h
    · next heq => simp [heq]
    · cases h

theorem isBlank_of_isDigit {point : Text.CodePoint} (h : isDigit point = true) :
    Text.isBlank point = false := by
  simp only [isDigit, Bool.and_eq_true, decide_eq_true_eq] at h
  obtain ⟨hle, hge⟩ := h
  have hzero : '0'.toNat = 48 := rfl
  have hnine : '9'.toNat = 57 := rfl
  simp [Text.isBlank, Text.inRanges, Text.blankRanges]
  omega

theorem isBlankText_of_word? {read : _} (h : word? cs = some read) :
    Text.isBlankText cs = false := by
  obtain ⟨⟨name, value⟩, hmem, hfound⟩ := List.exists_of_findSome?_eq_some h
  -- each of the words starts with something that is drawn
  have hnames : ∀ entry ∈ words, ∃ point ∈ (Text.ofString entry.1).points,
      Text.isBlank point = false := by decide
  obtain ⟨point, hpoint, hdrawn⟩ := hnames (name, value) hmem
  simp only at hfound
  split at hfound
  · cases hfound
  · next rest hafter =>
    have hcs := Text.afterMark?_eq_some_iff.1 hafter
    refine isBlankText_of_mem ?_ hdrawn
    rw [hcs]
    exact List.mem_append_left _ hpoint

theorem isBlankText_of_unsigned? {negative : Bool} {read : _}
    (h : unsigned? negative cs = some read) : Text.isBlankText cs = false := by
  unfold unsigned? at h
  split at h
  · cases h
  · next hwhole =>
    clear h
    unfold wholeDigits? at hwhole
    split at hwhole
    · split at hwhole
      · next heq => exact isBlankText_of_mem List.mem_cons_self (by rw [heq]; decide)
      · split at hwhole
        · next hdigit => exact isBlankText_of_mem List.mem_cons_self (isBlank_of_isDigit hdigit)
        · cases hwhole
    · cases hwhole

theorem isBlankText_of_number {read : _} (h : number cs = .ok read) :
    Text.isBlankText cs = false := by
  unfold number at h
  split at h
  · exact isBlankText_of_mem List.mem_cons_self (by decide)
  · split at h
    · cases h
    · next hunsigned => exact isBlankText_of_unsigned? hunsigned

theorem isBlankText_of_value {depth : Nat} {read : _} (h : value depth cs = .ok read) :
    Text.isBlankText cs = false := by
  -- what is inside a string or a container does not matter: the symbol that opens it is drawn
  rw [value] at h
  split at h
  · next hsymbol => exact isBlankText_of_mem (mem_of_symbol? hsymbol) (by decide)
  · split at h
    · next hsymbol => exact isBlankText_of_mem (mem_of_symbol? hsymbol) (by decide)
    · split at h
      · next hsymbol => exact isBlankText_of_mem (mem_of_symbol? hsymbol) (by decide)
      · split at h
        · next hword => exact isBlankText_of_word? hword
        · exact isBlankText_of_number h

theorem isBlankText_of_document {depth : Nat} {v : Value} (h : document depth cs = .ok v) :
    Text.isBlankText cs = false := by
  unfold document at h
  split at h
  · cases h
  · split at h
    · cases h
    · next hvalue =>
      -- the spaces in front are dropped, and what is drawn behind them was there before
      have hstart : Text.isBlankText (cs.dropWhile isSpace) = false := isBlankText_of_value hvalue
      unfold Text.isBlankText at hstart
      rw [List.all_eq_false] at hstart
      obtain ⟨point, hmem, hdrawn⟩ := hstart
      exact isBlankText_of_mem ((List.dropWhile_suffix isSpace).subset hmem) (by simpa using hdrawn)

end Reader

/-- **A document is not blank.** -/
theorem isBlankText_of_parse {depth : Nat} {text : Text} {v : Value}
    (h : parse depth text = .ok v) :
    Text.isBlankText text.points = false := by
  unfold parse at h
  split at h
  · next hdocument => exact Reader.isBlankText_of_document hdocument
  · cases h
  · cases h
  · cases h

end GatedPrompt.Json
