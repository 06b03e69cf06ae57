/-!
# Cutting a text at a mark

* `afterMark?` — what follows a mark that stands at the front;
* `cut?` — what stands before and after the first occurrence of a mark (`eq_of_cut?`);
* `holds` — whether a mark occurs at all;
* `pieces` — the parts between all occurrences of a separator, which none of them holds
  (`not_mem_of_mem_pieces`).
-/

namespace GatedPrompt.Text

variable {α : Type} [DecidableEq α]

/-- What follows a mark that stands at the front of a text. -/
def afterMark? : List α → List α → Option (List α)
  | [], cs => some cs
  | _ :: _, [] => none
  | m :: mark, c :: cs => if m = c then afterMark? mark cs else none

/-- What stands before and after the first occurrence of a mark. -/
def cut? (mark : List α) : List α → Option (List α × List α)
  | [] =>
    match afterMark? mark [] with
    | some rest => some ([], rest)
    | none => none
  | c :: cs =>
    match afterMark? mark (c :: cs) with
    | some rest => some ([], rest)
    | none => (cut? mark cs).map fun (before, rest) => (c :: before, rest)

/-- Whether a mark occurs somewhere in a text. -/
def holds (mark cs : List α) : Bool := (cut? mark cs).isSome

/-- The parts of a text between the occurrences of a separator: one more than there are
separators. -/
def pieces (separator : α) : List α → List (List α)
  | [] => [[]]
  | c :: cs =>
    if c = separator then [] :: pieces separator cs
    else
      match pieces separator cs with
      | [] => [[c]]
      | piece :: others => (c :: piece) :: others

/-- Taking a mark off the front means that the text begins with it. -/
theorem afterMark?_eq_some_iff {mark cs rest : List α} :
    afterMark? mark cs = some rest ↔ cs = mark ++ rest := by
  induction mark generalizing cs with
  | nil => simp [afterMark?, eq_comm]
  | cons m mark ih =>
    cases cs with
    | nil => simp [afterMark?]
    | cons c cs =>
      by_cases h : m = c
      · simp [afterMark?, h, ih]
      · simp [afterMark?, h, Ne.symm h]

/-- A cut text is its first part, the mark and its second part. -/
theorem eq_of_cut? {mark cs before rest : List α} (h : cut? mark cs = some (before, rest)) :
    cs = before ++ mark ++ rest := by
  induction cs generalizing before with
  | nil =>
    simp only [cut?] at h
    split at h
    -- Only the empty mark is found in the empty text.
    · next found hfound =>
      obtain ⟨rfl, rfl⟩ : [] = before ∧ found = rest := by simpa using h
      simpa using afterMark?_eq_some_iff.1 hfound
    · simp at h
  | cons c cs ih =>
    simp only [cut?] at h
    split at h
    · next found hfound =>
      obtain ⟨rfl, rfl⟩ : [] = before ∧ found = rest := by simpa using h
      simpa using afterMark?_eq_some_iff.1 hfound
    · obtain ⟨⟨tail, after⟩, hcut, hparts⟩ := Option.map_eq_some_iff.1 h
      obtain ⟨rfl, rfl⟩ : c :: tail = before ∧ after = rest := by simpa using hparts
      simp [ih hcut]

/-- No piece holds the separator. -/
theorem not_mem_of_mem_pieces {separator : α} {cs piece : List α}
    (h : piece ∈ pieces separator cs) : separator ∉ piece := by
  induction cs generalizing piece with
  | nil =>
    obtain rfl : piece = [] := by simpa [pieces] using h
    simp
  | cons c cs ih =>
    simp only [pieces] at h
    split at h
    · rcases List.mem_cons.1 h with rfl | h
      · simp
      · exact ih h
    · next hc =>
      -- The character goes in front of the first piece, and it is no separator.
      split at h
      · obtain rfl : piece = [c] := by simpa using h
        simp [Ne.symm hc]
      · next first others hpieces =>
        rw [hpieces] at ih
        rcases List.mem_cons.1 h with rfl | h
        · have hfirst : separator ∉ first := ih (List.mem_cons_self ..)
          simp [Ne.symm hc, hfirst]
        · exact ih (List.mem_cons_of_mem _ h)

/-- A text has at least one piece. -/
theorem pieces_ne_nil (separator : α) (cs : List α) : pieces separator cs ≠ [] := by
  cases cs with
  | nil => simp [pieces]
  | cons c cs =>
    simp only [pieces]
    split
    · simp
    · split <;> simp

end GatedPrompt.Text
