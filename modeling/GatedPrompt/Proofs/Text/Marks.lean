import GatedPrompt.Text.Cut

/-!
# Marks in a text

Where marks and separators occur in a text that was put together from parts.

* `holds_iff` — a text holds a mark that stands anywhere in it;
* `cut?_eq_some_iff` — a text is cut at the first occurrence of a mark;
* `infix_append_cons_iff` — a mark does not reach over a code point that is not in it, and so it
  stands in one part of a text that is joined by such code points (`exists_of_infix_intercalate`);
* `pieces_intercalate` — parts that hold no separator are found again between the separators;
* `isInfix_of_mem_pieces` — what is found between the separators of a text stands in it.

The marks that occur here do not hold their own first code point a second time. So no mark begins
inside another one, and a body that does not hold a mark ends where the mark is written behind it,
even if the body ends in the code point that the mark starts with.
-/

namespace GatedPrompt.Text

variable {α : Type}

/-- A mark does not reach over a code point that is not in it. -/
theorem infix_append_cons_iff {mark xs ys : List α} {c : α} (hc : c ∉ mark) :
    mark <:+: xs ++ c :: ys ↔ mark <:+: xs ∨ mark <:+: ys := by
  constructor
  · rintro ⟨before, after, heq⟩
    rw [List.append_assoc] at heq
    rcases List.append_eq_append_iff.1 heq with ⟨common, hxs, hrest⟩ | ⟨common, -, hrest⟩
    · -- The mark starts in `xs`. It ends there too, or else it would hold `c`.
      rcases List.append_eq_append_iff.1 hrest with ⟨more, hcommon, -⟩ | ⟨more, hmark, hcons⟩
      · exact .inl ⟨before, more, by rw [hxs, hcommon, List.append_assoc]⟩
      · cases more with
        | nil => exact .inl ⟨before, [], by rw [hxs, hmark]; simp⟩
        | cons d more =>
          obtain ⟨rfl, -⟩ := List.cons.inj hcons
          exact absurd (by simp [hmark]) hc
    · cases common with
      | nil =>
        cases mark with
        | nil => exact .inl List.nil_infix
        | cons m mark =>
          obtain ⟨rfl, -⟩ := List.cons.inj hrest
          exact absurd List.mem_cons_self hc
      | cons d common =>
        obtain ⟨-, rfl⟩ := List.cons.inj hrest
        exact .inr ⟨common, after, by simp⟩
  · rintro (h | h)
    · exact h.trans (List.prefix_append xs (c :: ys)).isInfix
    · exact h.trans ⟨xs ++ [c], [], by simp⟩

theorem infix_cons_iff_of_not_mem {mark ys : List α} {c : α} (hc : c ∉ mark) :
    mark <:+: c :: ys ↔ mark <:+: ys := by
  constructor
  · intro h
    rcases (infix_append_cons_iff hc).1 (show mark <:+: [] ++ c :: ys from h) with h | h
    · exact h.trans List.nil_infix
    · exact h
  · intro h
    exact h.trans (List.suffix_cons c ys).isInfix

/-- A mark without the separator stands in one of the parts between separators. -/
theorem exists_of_infix_intercalate {separator : α} {mark : List α} {parts : List (List α)}
    (hseparator : separator ∉ mark) (hne : mark ≠ [])
    (h : mark <:+: [separator].intercalate parts) : ∃ part ∈ parts, mark <:+: part := by
  induction parts with
  | nil => exact absurd (List.infix_nil.1 h) hne
  | cons part parts ih =>
    cases parts with
    | nil =>
      rw [List.intercalate_singleton] at h
      exact ⟨part, List.mem_singleton_self part, h⟩
    | cons next parts =>
      rw [List.intercalate_cons_cons, List.append_assoc, List.singleton_append,
        infix_append_cons_iff hseparator] at h
      rcases h with h | h
      · exact ⟨part, List.mem_cons_self, h⟩
      · obtain ⟨other, hmem, hother⟩ := ih h
        exact ⟨other, List.mem_cons_of_mem part hmem, hother⟩

theorem isInfix_intercalate {mark part : List α} {parts : List (List α)} (h : part ∈ parts) :
    part <:+: mark.intercalate parts := by
  induction parts with
  | nil => cases h
  | cons first parts ih =>
    cases parts with
    | nil =>
      obtain rfl := List.mem_singleton.1 h
      exact ⟨[], [], by simp⟩
    | cons next parts =>
      rw [List.intercalate_cons_cons]
      rcases List.mem_cons.1 h with rfl | h
      · exact ⟨[], mark ++ mark.intercalate (next :: parts), by simp⟩
      · exact (ih h).trans (List.suffix_append _ _).isInfix

variable [DecidableEq α]

theorem holds_iff {mark cs : List α} : holds mark cs = true ↔ mark <:+: cs := by
  rw [holds, Option.isSome_iff_exists]
  constructor
  · rintro ⟨⟨before, rest⟩, h⟩
    exact ⟨before, rest, (eq_of_cut? h).symm⟩
  · intro h
    induction cs with
    | nil =>
      obtain rfl : mark = [] := List.infix_nil.1 h
      exact ⟨_, rfl⟩
    | cons c cs ih =>
      rw [cut?]
      split
      · exact ⟨_, rfl⟩
      · next hnone =>
        -- The mark does not stand at the front, so it stands behind it.
        rcases List.infix_cons_iff.1 h with ⟨rest, hrest⟩ | h
        · rw [afterMark?_eq_some_iff.2 hrest.symm] at hnone
          cases hnone
        · obtain ⟨parts, hparts⟩ := ih h
          exact ⟨_, by rw [hparts]; rfl⟩

section

variable {m : α} {mark cs before rest : List α}

private theorem not_infix_of_cut? (h : cut? (m :: mark) cs = some (before, rest)) :
    ¬(m :: mark) <:+: before := by
  induction cs generalizing before with
  | nil => cases h
  | cons c cs ih =>
    have heq := eq_of_cut? h
    rw [cut?] at h
    split at h
    · obtain ⟨rfl, -⟩ : [] = before ∧ _ := by simpa using h
      simp
    · next hnone =>
      obtain ⟨⟨tail, after⟩, hcut, hparts⟩ := Option.map_eq_some_iff.1 h
      obtain ⟨rfl, rfl⟩ : c :: tail = before ∧ after = rest := by simpa using hparts
      rw [List.infix_cons_iff, not_or]
      refine ⟨?_, ih hcut⟩
      -- A mark at the front would have been found there.
      rintro ⟨more, hmore⟩
      rw [heq, ← hmore, List.append_assoc, List.append_assoc,
        afterMark?_eq_some_iff.2 rfl] at hnone
      cases hnone

private theorem cut?_append (hm : m ∉ mark) (hbefore : ¬(m :: mark) <:+: before) :
    cut? (m :: mark) (before ++ (m :: mark) ++ rest) = some (before, rest) := by
  induction before with
  | nil =>
    rw [List.nil_append, List.cons_append, cut?, ← List.cons_append,
      afterMark?_eq_some_iff.2 rfl]
  | cons c before ih =>
    rw [List.infix_cons_iff, not_or] at hbefore
    obtain ⟨hfront, hbefore⟩ := hbefore
    have hnone : afterMark? (m :: mark) (c :: (before ++ (m :: mark) ++ rest)) = none := by
      rw [Option.eq_none_iff_forall_ne_some]
      intro after hafter
      have heq := afterMark?_eq_some_iff.1 hafter
      rw [← List.cons_append, ← List.cons_append, List.append_assoc] at heq
      rcases List.append_eq_append_iff.1 heq with ⟨common, hcommon, hrest⟩ | ⟨common, hcommon, -⟩
      · -- The mark would go on into the one written behind, and hold its first code point.
        cases common with
        | nil => exact hfront ⟨[], by rw [hcommon]; simp⟩
        | cons d common =>
          obtain ⟨rfl, -⟩ := List.cons.inj hrest
          obtain ⟨-, rfl⟩ := List.cons.inj hcommon
          exact hm (by simp)
      · exact hfront ⟨common, hcommon.symm⟩
    rw [List.cons_append, List.cons_append, cut?, hnone]
    simp only [ih hbefore, Option.map_some]

/-- **A text is cut at the first occurrence of a mark**, before which the mark does not occur. -/
theorem cut?_eq_some_iff (hm : m ∉ mark) :
    cut? (m :: mark) cs = some (before, rest) ↔
      cs = before ++ (m :: mark) ++ rest ∧ ¬(m :: mark) <:+: before := by
  constructor
  · intro h
    exact ⟨eq_of_cut? h, not_infix_of_cut? h⟩
  · rintro ⟨rfl, hbefore⟩
    exact cut?_append hm hbefore

end

/-! ## Separators -/

theorem pieces_eq_splitOn (separator : α) (cs : List α) :
    pieces separator cs = cs.splitOn separator := by
  induction cs with
  | nil => rfl
  | cons c cs ih =>
    rw [pieces, List.splitOn, List.splitOnP_cons_eq_if_modifyHead, ← List.splitOn, ← ih]
    by_cases h : c = separator
    · rw [if_pos h, if_pos (by simpa using h)]
    · rw [if_neg h, if_neg (by simpa using h)]
      cases hpieces : pieces separator cs with
      | nil => exact absurd hpieces (pieces_ne_nil separator cs)
      | cons piece others => rfl

/-- Parts that hold no separator are found again between the separators. -/
theorem pieces_intercalate {separator : α} {parts : List (List α)} (hne : parts ≠ [])
    (hparts : ∀ part ∈ parts, separator ∉ part) :
    pieces separator ([separator].intercalate parts) = parts := by
  rw [pieces_eq_splitOn]
  exact List.splitOn_intercalate separator hparts hne

theorem isInfix_of_mem_pieces {separator : α} {cs piece : List α}
    (h : piece ∈ pieces separator cs) : piece <:+: cs := by
  rw [pieces_eq_splitOn] at h
  have hwithin : piece <:+: [separator].intercalate (cs.splitOn separator) :=
    isInfix_intercalate h
  rwa [List.intercalate_splitOn] at hwithin

end GatedPrompt.Text
