import Mathlib.Data.List.Infix
import GatedPrompt.Lint.Finding
import GatedPrompt.Proofs.Choice.Layout

/-!
# Stray marks

A block is an opening mark with a closing mark somewhere behind it. Marks that make up no block are
text like any other, and a label may hold them. That is how the reader treats an opening mark that
is never closed and a closing mark that was never opened; but it looks for the two marks of a kind
one by one, and so it takes a closing mark in front of an opening one for a block, too.

* `Block.IsComplete` — a block is written somewhere in a text; `isComplete_iff` makes this
  decidable;
* `Block.IsCrossed` — both of its marks are there, but no block;
* `IgnoresStrayMarks` — a text without blocks is plain, and one that is led by its only block is that
  block and a label;
* `RefusesAsMisplaced` — a text is left as it is, with a warning and an error;
* `ignores_or_refuses` — which of the two holds is decided by the crossed marks alone;
* `not_ignores_crossed_marks` — two texts with crossed marks, for which the former does not hold.
-/

namespace GatedPrompt

namespace Choice

open Text (Points)

namespace Block

/-- A block is written somewhere in a text: the opening mark, anything, and the closing mark. -/
def IsComplete (block : Block) (text : Text) : Prop :=
  ∃ body, (block.write body).points <:+: text.points

/-- Both marks of a block are in a text, but nowhere the closing one behind the opening one. -/
def IsCrossed (block : Block) (text : Text) : Prop := block.Occurs text ∧ ¬block.IsComplete text

section

variable {block : Block} {text : Text} {cs : Points}

/-- Where marks are not crossed, the search for both of them tells whether there is a block. -/
theorem occurs_iff_isComplete (h : ¬block.IsCrossed text) :
    block.Occurs text ↔ block.IsComplete text := by
  constructor
  · intro hoccurs
    by_contra hnot
    exact h ⟨hoccurs, hnot⟩
  · rintro ⟨body, hbody⟩
    exact .of_write body hbody

/-- The closing mark does not reach into the opening mark before it. -/
theorem isInfix_closer_iff :
    block.closer.points <:+: block.opener.points ++ cs ↔ block.closer.points <:+: cs := by
  have hopener : ∀ p ∈ block.opener.points, p ∉ block.closer.points := by
    cases block <;> decide
  generalize block.opener.points = opener at hopener
  induction opener with
  | nil => rfl
  | cons p opener ih =>
    obtain ⟨hp, hothers⟩ := List.forall_mem_cons.1 hopener
    rw [List.cons_append, Text.infix_cons_iff_of_not_mem hp]
    exact ih hothers

/-- A block is complete exactly if, from some opening mark on, there is a closing one. -/
theorem isComplete_iff :
    block.IsComplete text ↔
      ∃ cs ∈ text.points.tails, block.opener.points <+: cs ∧ block.closer.points <:+: cs := by
  simp only [List.mem_tails]
  constructor
  · rintro ⟨body, before, behind, htext⟩
    -- the text from the block on
    refine ⟨(block.write body).points ++ behind, ⟨before, ?_⟩, ?_, ?_⟩
    · rw [← htext, List.append_assoc]
    · exact ⟨body.points ++ block.closer.points ++ behind, by simp⟩
    · exact ⟨block.opener.points ++ body.points, behind, by simp⟩
  · rintro ⟨cs, hsuffix, ⟨inside, rfl⟩, hcloser⟩
    -- the closing mark is behind the opening one, and the body is what is between them
    obtain ⟨body, behind, rfl⟩ := isInfix_closer_iff.1 hcloser
    refine ⟨⟨body⟩, List.IsInfix.trans ⟨[], behind, ?_⟩ hsuffix.isInfix⟩
    simp

instance : Decidable (block.IsComplete text) := decidable_of_iff _ isComplete_iff.symm

end

end Block

namespace Markup

section

variable {block : Block} {text : Text}

/-- Markup is misplaced wherever marks are crossed, since the blocks of a text are complete. -/
theorem isMisplaced_of_isCrossed (h : block.IsCrossed text) : IsMisplaced text := by
  obtain ⟨hoccurs, hnot⟩ := h
  refine ⟨⟨block, hoccurs⟩, ?_, ?_⟩
  · intro first bodies label hpair
    exact hnot ⟨bodies block, hpair.isInfix_write block⟩
  · intro block' body label hsingle
    -- a text that is led by one block has not both marks of the other one
    obtain rfl | rfl := block'.eq_or_eq_other block
    · exact hnot ⟨body, hsingle.isInfix_write⟩
    · exact hsingle.not_occurs hoccurs

theorem extract_of_not_misplaced (h : (read text).misplaced = false) :
    extract text = pure (read text) := by
  apply Logged.ext_of
  · rw [notices_extract, h]
    rfl
  · rw [value_extract]
    rfl

end

end Markup

end Choice

namespace Lint

open Choice (Block Markup)

/-! ## What should hold of stray marks -/

/-- Marks that make up no block are part of the label. -/
structure IgnoresStrayMarks (text : Text) : Prop where
  /-- A text in which no block is complete is plain, and nothing is remarked on it. -/
  plain : (∀ block : Block, ¬block.IsComplete text) →
    Markup.extract text = pure (Markup.plain text) ∧
      ∀ prompt : Option Text, check prompt [text] = pure []
  /-- A block at the front is read if the other kind of block is not complete. -/
  single : ∀ (block : Block) (body label : Text), text = block.write body ++ label →
    block.CanHold body → ¬block.other.IsComplete text →
      Markup.extract text = pure (Markup.ofBlock block body label)

/-- A text is left as it is, with a warning of misplaced markup, and the check reports just that. -/
structure RefusesAsMisplaced (text : Text) : Prop where
  extract_eq : Markup.extract text = ⟨[.misplacedMarkup text], Markup.misplacedIn text⟩
  check_eq : ∀ prompt : Option Text,
    check prompt [text] =
      ExceptT.mk ⟨[.misplacedMarkup text], .ok [(Finding.misplacedMarkup 0 text).issue prompt]⟩

/-! ## What does hold of them -/

section

variable {text : Text}

/-- The check of one choice, by what is extracted from it. -/
theorem check_of_plain (h : Markup.extract text = pure (Markup.plain text))
    (prompt : Option Text) : check prompt [text] = pure [] := by
  rw [check, findings, findingsFrom, choiceFindings, h]
  rfl

theorem refuses_of_isCrossed {block : Block} (h : block.IsCrossed text) :
    RefusesAsMisplaced text := by
  have hmisplaced : Markup.IsMisplaced text := Markup.isMisplaced_of_isCrossed h
  have hextract : Markup.extract text = ⟨[.misplacedMarkup text], Markup.misplacedIn text⟩ := by
    apply Logged.ext_of
    · rw [Markup.notices_extract, if_pos (Markup.misplaced_read_iff.2 hmisplaced)]
    · rw [Markup.value_extract, Markup.read_of_isMisplaced hmisplaced]
  refine ⟨hextract, ?_⟩
  intro prompt
  rw [check, findings, findingsFrom, choiceFindings, hextract]
  rfl

theorem ignores_of_not_isCrossed (h : ∀ block : Block, ¬block.IsCrossed text) :
    IgnoresStrayMarks text := by
  have hoccurs (block : Block) : block.Occurs text ↔ block.IsComplete text :=
    Block.occurs_iff_isComplete (h block)
  constructor
  case plain =>
    intro hnot
    have hread : Markup.read text = Markup.plain text :=
      Markup.read_of_not_occurs fun block => mt (hoccurs block).1 (hnot block)
    have hextract : Markup.extract text = pure (Markup.plain text) := by
      rw [Markup.extract_of_not_misplaced (by rw [hread]; rfl), hread]
    exact ⟨hextract, check_of_plain hextract⟩
  case single =>
    intro block body label htext hbody hnot
    -- the other kind of block has not both of its marks there, or it would be complete
    have hsingle : Markup.IsSingle block text body label :=
      ⟨htext, hbody, mt (hoccurs block.other).1 hnot⟩
    have hread : Markup.read text = Markup.ofBlock block body label :=
      Markup.read_of_isSingle hsingle
    have hmisplaced : (Markup.read text).misplaced = false := by
      rw [hread]
      cases block <;> rfl
    rw [Markup.extract_of_not_misplaced hmisplaced, hread]

/-- **Stray marks are ignored unless they are crossed.** A text in which the marks of some kind are
crossed is refused as misplaced markup, whatever else is in it. -/
theorem ignores_or_refuses (text : Text) :
    (∀ block : Block, ¬block.IsCrossed text) ∧ IgnoresStrayMarks text ∨
      (∃ block : Block, block.IsCrossed text) ∧ RefusesAsMisplaced text := by
  by_cases h : ∃ block : Block, block.IsCrossed text
  · right
    obtain ⟨block, hcrossed⟩ := h
    exact ⟨⟨block, hcrossed⟩, refuses_of_isCrossed hcrossed⟩
  · left
    have hnone : ∀ block : Block, ¬block.IsCrossed text := not_exists.1 h
    exact ⟨hnone, ignores_of_not_isCrossed hnone⟩

/-- **Crossed marks.** The first text holds no block, and the second one is led by its only block.
Both are refused for marks that make up no block. -/
theorem not_ignores_crossed_marks :
    ¬IgnoresStrayMarks "]>><<[" ∧ ¬IgnoresStrayMarks "<<[g>1]>>Buy ]))(([" := by
  constructor
  · intro h
    have hnone : ∀ block : Block, ¬block.IsComplete "]>><<[" := by
      intro block
      cases block <;> decide +kernel
    have hextract := (h.plain hnone).1
    have hmisplaced : (Markup.extract "]>><<[").value.misplaced = true := by decide +kernel
    rw [hextract] at hmisplaced
    cases hmisplaced
  · intro h
    have hbody : Block.disable.CanHold "g>1" := by
      show ¬_ <:+: _
      decide +kernel
    have hnone : ¬Block.hide.IsComplete "<<[g>1]>>Buy ]))(([" := by decide +kernel
    have hextract := h.single .disable "g>1" "Buy ]))(([" (by decide +kernel) hbody hnone
    have hmisplaced : (Markup.extract "<<[g>1]>>Buy ]))(([").value.misplaced = true := by
      decide +kernel
    rw [hextract] at hmisplaced
    cases hmisplaced

end

end Lint

end GatedPrompt
