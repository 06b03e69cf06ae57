import GatedPrompt.Proofs.Choice.Layout
import GatedPrompt.Proofs.Rule.Grammar
import GatedPrompt.Rule.Conjunction

/-!
# The rules of choices

The rules in the blocks of a choice text, as lists. They are parts of the text, so what is asked of
all parts of a text holds for its rules.

* `Markup.rules` — the rules in a block. A block alone in front of a label has the rules of its body
  (`rules_of_isSingle`);
* `shortNumerals_of_mem_rules` — rules have no longer numerals than the text they stand in.
-/

namespace GatedPrompt.Choice

open Rule (ShortNumerals)

/-- The rules in a block; an absent block has none. -/
def Markup.rules (markup : Markup) (block : Block) : List Text :=
  match markup.body? block with
  | none => []
  | some body => Rule.split body

theorem Block.exists_iff {P : Block → Prop} :
    (∃ block, P block) ↔ P .disable ∨ P .hide := by
  constructor
  · rintro ⟨block, h⟩
    cases block with
    | disable => exact .inl h
    | hide => exact .inr h
  · rintro (h | h)
    · exact ⟨.disable, h⟩
    · exact ⟨.hide, h⟩

namespace Markup

/-- A text without commas is one rule. -/
theorem split_of_comma_not_mem {body : Text} (hne : body.points ≠ [])
    (hcomma : .char ',' ∉ body.points) : Rule.split body = [body] := by
  have hpieces : Text.pieces (.char ',') ([.char ','].intercalate [body.points]) = [body.points] :=
    Text.pieces_intercalate (by simp) (by simpa using hcomma)
  rw [List.intercalate_singleton] at hpieces
  rw [Rule.split, if_neg (by simpa [Text.isEmpty] using hne), hpieces]
  rfl

theorem rules_of_isSingle {block : Block} {text body label : Text}
    (h : IsSingle block text body label) : (read text).rules block = Rule.split body := by
  rw [read_of_isSingle h]
  cases block <;> rfl

theorem isInfix_of_mem_split {rule body : Text} (h : rule ∈ Rule.split body) :
    rule.points <:+: body.points := by
  unfold Rule.split at h
  split at h
  · cases h
  · obtain ⟨piece, hpiece, rfl⟩ := List.mem_map.1 h
    exact Text.isInfix_of_mem_pieces hpiece

theorem isInfix_of_mem_rules {text rule : Text} {block : Block}
    (h : rule ∈ (read text).rules block) : rule.points <:+: text.points := by
  unfold rules at h
  split at h
  · cases h
  · next hbody =>
    exact (isInfix_of_mem_split h).trans ((reads_read text).isInfix_body hbody)

theorem shortNumerals_of_mem_rules {text rule : Text} {block : Block}
    (hshort : ShortNumerals text.points) (h : rule ∈ (read text).rules block) :
    ShortNumerals rule.points :=
  hshort.of_infix (isInfix_of_mem_rules h)

end Markup

end GatedPrompt.Choice
