import GatedPrompt.Proofs.Choice.Layout
import GatedPrompt.Proofs.Rule.Characters
import GatedPrompt.Rule.Conjunction

/-!
# Rules that are written into a choice text

An author writes rules into blocks, with commas between them, in front of a label. Whatever the
rules are, they are found again one by one.

* `listed` — rules as they are written into a block, and `split_listed` — how they are read;
* `not_doubled_listed` — no list of rules doubles one of the characters that marks double. So
  neither a list of rules nor the end of one together with what follows it looks like a mark;
* `extract_written_rules` — rules and label are found again, for one block and for two.
-/

namespace GatedPrompt.Choice

open Text (Points)
open Rule (IsRule fences split)

/-- Rules as they are written into a block. -/
def listed (rules : List Text) : Text := Text.intercalate "," rules

theorem points_listed (rules : List Text) :
    (listed rules).points = [.char ','].intercalate (rules.map Text.points) := rfl

section

variable {rules : List Text}

/-- Lists of rules are split at the commas between the rules. -/
theorem split_listed (h : ∀ text ∈ rules, IsRule text) : split (listed rules) = rules := by
  cases rules with
  | nil => rfl
  | cons text rules =>
    have hne : (listed (text :: rules)).points ≠ [] := by
      intro hnil
      have htext := (h text List.mem_cons_self).points_ne_nil
      rw [points_listed] at hnil
      cases rules with
      | nil => exact htext (by simpa using hnil)
      | cons other rules =>
        rw [List.map_cons, List.map_cons, List.intercalate_cons_cons] at hnil
        simp at hnil
    rw [split, if_neg (by simpa [Text.isEmpty] using hne), points_listed,
      Text.pieces_intercalate (by simp), List.map_map]
    · exact List.map_id (text :: rules)
    · intro part hpart
      obtain ⟨text', hmem, rfl⟩ := List.mem_map.1 hpart
      exact (h text' hmem).comma_not_mem

/-- No list of rules doubles a character that marks double: a single rule does not hold it twice,
and between two rules there is a comma. -/
theorem not_doubled_listed (h : ∀ text ∈ rules, IsRule text) {c : Char} (hc : c ∈ fences) :
    ¬[.char c, .char c] <:+: (listed rules).points := by
  intro hdoubled
  have hcomma : Text.CodePoint.char ',' ∉ [Text.CodePoint.char c, .char c] := by
    have hne : ∀ c ∈ fences, ',' ≠ c := by simp [fences]
    simp [hne c hc]
  rw [points_listed] at hdoubled
  obtain ⟨part, hpart, hwithin⟩ := Text.exists_of_infix_intercalate hcomma (by simp) hdoubled
  obtain ⟨text, hmem, rfl⟩ := List.mem_map.1 hpart
  have hcount := hwithin.sublist.count_le (.char c)
  have hle := (h text hmem).count_le_one hc
  simp only [List.count_cons_self, List.count_nil] at hcount
  omega

end

namespace Block

/-- The character that the opening mark of a block doubles. -/
def left : Block → Char
  | disable => '<'
  | hide => '('

/-- The character that the closing mark of a block doubles. -/
def right : Block → Char
  | disable => '>'
  | hide => ')'

variable (block : Block)

theorem points_opener : block.opener.points = [.char block.left, .char block.left, .char '['] := by
  cases block <;> rfl

theorem points_closer :
    block.closer.points = [.char ']', .char block.right, .char block.right] := by
  cases block <;> rfl

theorem left_mem_fences : block.left ∈ fences := by cases block <;> decide

theorem right_mem_fences : block.right ∈ fences := by cases block <;> decide

variable {block} {rules : List Text}

theorem canHold_listed (h : ∀ text ∈ rules, IsRule text) : block.CanHold (listed rules) := by
  intro hwithin
  rw [points_closer] at hwithin
  refine not_doubled_listed h block.right_mem_fences (List.IsInfix.trans ?_ hwithin)
  exact (List.suffix_cons _ _).isInfix

/-- A mark of the other kind is not in a written block and does not start there, since it doubles a
character that the block does not double, and does not hold the last character of the block. -/
theorem infix_label_of_written (h : ∀ text ∈ rules, IsRule text) {label : Text} {mark : Points}
    (hmark : mark = block.other.opener.points ∨ mark = block.other.closer.points)
    (hwithin : mark <:+: (block.write (listed rules) ++ label).points) :
    mark <:+: label.points := by
  obtain ⟨c, hc, hdoubled, hne⟩ : ∃ c ∈ fences, [.char c, .char c] <:+: mark ∧
      c ≠ block.left ∧ c ≠ block.right ∧ c ≠ '[' ∧ c ≠ ']' := by
    rcases hmark with rfl | rfl
    · refine ⟨block.other.left, block.other.left_mem_fences, ?_, ?_⟩
      · rw [points_opener]
        exact ⟨[], [.char '['], rfl⟩
      · cases block <;> decide
    · refine ⟨block.other.right, block.other.right_mem_fences, ?_, ?_⟩
      · rw [points_closer]
        exact (List.suffix_cons _ _).isInfix
      · cases block <;> decide
  have hlast : .char block.right ∉ mark := by
    rcases hmark with rfl | rfl <;> cases block <;> decide
  have hwhole : (block.write (listed rules) ++ label).points =
      (.char block.left :: .char block.left :: .char '[' ::
        ((listed rules).points ++ .char ']' :: [.char block.right])) ++
          .char block.right :: label.points := by
    simp [points_opener, points_closer]
  rw [hwhole, Text.infix_append_cons_iff hlast] at hwithin
  rcases hwithin with hwithin | hwithin
  · -- The doubled character would have to be in the list of rules.
    obtain ⟨hleft, hright, hopen, hclose⟩ := hne
    have hpart := hdoubled.trans hwithin
    rw [Text.infix_cons_iff_of_not_mem (by simp [hleft.symm]),
      Text.infix_cons_iff_of_not_mem (by simp [hleft.symm]),
      Text.infix_cons_iff_of_not_mem (by simp [hopen.symm]),
      Text.infix_append_cons_iff (by simp [hclose.symm]),
      Text.infix_cons_iff_of_not_mem (by simp [hright.symm])] at hpart
    rcases hpart with hpart | hpart
    · exact absurd hpart (not_doubled_listed h hc)
    · cases List.infix_nil.1 hpart
  · exact hwithin

theorem not_occurs_written (h : ∀ text ∈ rules, IsRule text) {label : Text}
    (hlabel : ¬block.other.Occurs label) :
    ¬block.other.Occurs (block.write (listed rules) ++ label) := by
  rintro ⟨hopener, hcloser⟩
  exact hlabel ⟨infix_label_of_written h (.inl rfl) hopener,
    infix_label_of_written h (.inr rfl) hcloser⟩

end Block

/-! ## Reading back what was written -/

/-- From a text the rules of each kind of block, if any, and a label are read, without a warning. -/
structure ReadsAs (text : Text) (rules : Block → Option (List Text)) (label : Text) : Prop where
  label_eq : (Markup.extract text).value.label = label
  rules_eq : ∀ block, ((Markup.extract text).value.body? block).map split = rules block
  silent : (Markup.extract text).notices = []

theorem ReadsAs.of_isPair {first : Block} {text label : Text} {bodies : Block → Text}
    (h : Markup.IsPair first text bodies label) :
    ReadsAs text (fun block => some (split (bodies block))) label := by
  have hread := Markup.read_of_isPair h
  refine ⟨?_, fun block => ?_, ?_⟩
  · rw [Markup.value_extract, hread]
  · rw [Markup.value_extract, hread]
    cases block <;> rfl
  · rw [Markup.notices_extract, hread]
    rfl

theorem ReadsAs.of_isSingle {block : Block} {text body label : Text}
    (h : Markup.IsSingle block text body label) :
    ReadsAs text (fun kind => if kind = block then some (split body) else none) label := by
  have hread := Markup.read_of_isSingle h
  refine ⟨?_, fun kind => ?_, ?_⟩
  · rw [Markup.value_extract, hread]
    cases block <;> rfl
  · rw [Markup.value_extract, hread]
    cases block <;> cases kind <;> rfl
  · rw [Markup.notices_extract, hread]
    cases block <;> rfl

/-- The end of a block does not occur in a rule, since a rule is a list of one rule. -/
theorem not_closer_of_isRule {text : Text} (h : IsRule text) (block : Block) :
    ¬block.closer.points <:+: text.points := by
  have hlisted : (listed [text]).points = text.points := by
    rw [points_listed, List.map_singleton, List.intercalate_singleton]
  have hhold : block.CanHold (listed [text]) := by
    refine Block.canHold_listed fun text' hmem => ?_
    rwa [List.mem_singleton.1 hmem]
  rwa [Block.CanHold, hlisted] at hhold

/-- **Rules that are written into a choice text are found again**, each of them as it was, and none
of them in the label. A rule text holds neither the separator of rules nor the end of a block. -/
theorem extract_written_rules (rules : Block → List Text) (label : Text)
    (hrules : ∀ block, ∀ text ∈ rules block, IsRule text) :
    (∀ first : Block,
      ReadsAs (first.write (listed (rules first)) ++
          first.other.write (listed (rules first.other)) ++ label)
        (fun block => some (rules block)) label) ∧
    (∀ block : Block, ¬block.other.Occurs label →
      ReadsAs (block.write (listed (rules block)) ++ label)
        (fun kind => if kind = block then some (rules block) else none) label) ∧
    (∀ text, IsRule text →
      .char ',' ∉ text.points ∧ ∀ block : Block, ¬block.closer.points <:+: text.points) := by
  have hsplit : ∀ block, split (listed (rules block)) = rules block := fun block =>
    split_listed (hrules block)
  have hhold : ∀ block : Block, block.CanHold (listed (rules block)) := fun block =>
    Block.canHold_listed (hrules block)
  refine ⟨fun first => ?_, fun block hlabel => ?_, fun text htext => ?_⟩
  · have hpair : Markup.IsPair first _ (fun block => listed (rules block)) label := ⟨rfl, hhold⟩
    have hread := ReadsAs.of_isPair hpair
    simp only [hsplit] at hread
    exact hread
  · have hsingle : Markup.IsSingle block _ (listed (rules block)) label :=
      ⟨rfl, hhold block, Block.not_occurs_written (hrules block) hlabel⟩
    have hread := ReadsAs.of_isSingle hsingle
    rw [hsplit] at hread
    exact hread
  · exact ⟨htext.comma_not_mem, not_closer_of_isRule htext⟩

/-- Two rules that end in brackets and hold angle brackets, and no rule at all in the other block,
in front of a label that looks like markup. -/
theorem extract_two_written_rules :
    ReadsAs "<<[s[1],!w[2]>g]>>(([]))<<[s[3]]>>"
      (fun
        | .disable => some ["s[1]", "!w[2]>g"]
        | .hide => some [])
      "<<[s[3]]>>" := by
  let rules : Block → List Text
    | .disable => ["s[1]", "!w[2]>g"]
    | .hide => []
  have hrules : ∀ block, ∀ text ∈ rules block, IsRule text := by
    intro block text htext
    cases block with
    | hide => cases htext
    | disable =>
      rcases List.mem_cons.1 htext with rfl | htext
      · exact ⟨⟨"s[1]", false, .condition ⟨"s[1]", .reference .switch (some 1)⟩⟩, by
          decide +kernel⟩
      · obtain rfl := List.mem_singleton.1 htext
        exact ⟨⟨"!w[2]>g", true, .relation ⟨"w[2]", .reference (.thing .weapon) (some 2)⟩ .greater
          ⟨"g", .gold⟩⟩, by decide +kernel⟩
  have hread := (extract_written_rules rules "<<[s[3]]>>" hrules).1 .disable
  refine ⟨hread.label_eq, fun block => ?_, hread.silent⟩
  cases block with
  | disable => exact hread.rules_eq .disable
  | hide => exact hread.rules_eq .hide

end GatedPrompt.Choice
