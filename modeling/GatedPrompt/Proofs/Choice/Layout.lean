import GatedPrompt.Choice.Markup
import GatedPrompt.Proofs.Text.Marks

/-!
# How choice texts are laid out

The reader of markup first looks for marks anywhere in a text and then takes blocks off its front.
Here the ways to lay a text out are written down without it:

* `IsPair` — two blocks, one of each kind and next to each other, and a label;
* `IsSingle` — one block and a label, where the other kind has not both of its marks in the text;
* `IsMisplaced` — there are both marks of some kind, but the text is laid out in neither way;
* `Reads` — the markup of a text by the way it is laid out. It is what the reader finds
  (`read_eq_iff`);
* `decoded_extract` — all that is promised of the markup of a text and of the warning about it.

A body is anything that does not hold the closing mark of its own block. Labels are anything at all.
-/

namespace GatedPrompt

theorem Text.eq_of_points {text text' : Text} (h : text.points = text'.points) : text = text' := by
  cases text
  cases text'
  exact congrArg Text.mk h

namespace Choice

open Text (Points)

namespace Block

/-- The other kind of block. -/
def other : Block → Block
  | disable => hide
  | hide => disable

/-- A block of this kind can hold a body, since its closing mark does not occur in it. -/
def CanHold (block : Block) (body : Text) : Prop := ¬block.closer.points <:+: body.points

/-- Both marks of a block occur in a text, wherever they stand. -/
def Occurs (block : Block) (text : Text) : Prop :=
  block.opener.points <:+: text.points ∧ block.closer.points <:+: text.points

/-- A body for each kind of block. -/
def bodies (ofDisable ofHide : Text) : Block → Text
  | disable => ofDisable
  | hide => ofHide

theorem eq_or_eq_other (block block' : Block) : block' = block ∨ block' = block.other := by
  cases block <;> cases block' <;> simp [other]

variable {block first second : Block} {cs body body' rest : Points}

@[simp] theorem points_write (block : Block) (body : Text) :
    (block.write body).points = block.opener.points ++ body.points ++ block.closer.points := rfl

theorem hasMarks_iff {text : Text} : block.hasMarks text.points = true ↔ block.Occurs text := by
  rw [hasMarks, Bool.and_eq_true, Text.holds_iff, Text.holds_iff]
  exact Iff.rfl

/-- Where a block is written, both of its marks are. -/
theorem Occurs.of_write {text : Text} (body : Text)
    (h : (block.write body).points <:+: text.points) : block.Occurs text := by
  refine ⟨List.IsInfix.trans ?_ h, List.IsInfix.trans ?_ h⟩
  · exact ⟨[], body.points ++ block.closer.points, by simp⟩
  · exact ⟨block.opener.points ++ body.points, [], by simp⟩

theorem isInfix_of_write {text body : Text} (h : (block.write body).points <:+: text.points) :
    body.points <:+: text.points := by
  refine List.IsInfix.trans ?_ h
  exact ⟨block.opener.points, block.closer.points, by simp⟩

/-- A text is led by a block exactly if it starts with the block as it is written. -/
theorem lead?_eq_some_iff :
    block.lead? cs = some (body, rest) ↔
      cs = block.opener.points ++ body ++ block.closer.points ++ rest ∧
        ¬block.closer.points <:+: body := by
  obtain ⟨m, mark, hcloser, hm⟩ : ∃ m mark, block.closer.points = m :: mark ∧ m ∉ mark := by
    cases block <;> exact ⟨_, _, rfl, by decide⟩
  rw [lead?, hcloser]
  constructor
  · intro h
    split at h
    · cases h
    · next inside hinside =>
      obtain ⟨rfl, hbody⟩ := (Text.cut?_eq_some_iff hm).1 h
      refine ⟨?_, hbody⟩
      rw [Text.afterMark?_eq_some_iff.1 hinside]
      simp
  · rintro ⟨rfl, hbody⟩
    rw [List.append_assoc, List.append_assoc, Text.afterMark?_eq_some_iff.2 rfl]
    simp only
    rw [← List.append_assoc]
    exact (Text.cut?_eq_some_iff hm).2 ⟨rfl, hbody⟩

/-- The opening marks differ in their first characters, so a text is led by one kind at most. -/
theorem eq_of_lead? (h : first.lead? cs = some (body, rest)) {rest' : Points}
    (h' : second.lead? cs = some (body', rest')) : first = second := by
  obtain ⟨rfl, -⟩ := lead?_eq_some_iff.1 h
  obtain ⟨heq, -⟩ := lead?_eq_some_iff.1 h'
  have hhead : first.opener.points.head? = second.opener.points.head? := by
    have hcongr := congrArg List.head? heq
    cases first <;> cases second <;> exact hcongr
  revert hhead
  cases first <;> cases second <;> decide

theorem leadPair?_eq_some_iff :
    leadPair? first second cs = some (body, body', rest) ↔
      ∃ inside, first.lead? cs = some (body, inside) ∧
        second.lead? inside = some (body', rest) := by
  rw [leadPair?]
  constructor
  · intro h
    split at h
    · cases h
    · next body₁ inside hfirst =>
      split at h
      · cases h
      · next hsecond =>
        obtain ⟨rfl, rfl, rfl⟩ : _ ∧ _ ∧ _ := by simpa using h
        exact ⟨inside, hfirst, hsecond⟩
  · rintro ⟨inside, hfirst, hsecond⟩
    rw [hfirst]
    simp only [hsecond]

end Block

namespace Markup

/-! ## Layouts -/

/-- A text is a block, a block of the other kind right behind it, and a label. -/
structure IsPair (first : Block) (text : Text) (bodies : Block → Text) (label : Text) : Prop where
  text_eq : text = first.write (bodies first) ++ first.other.write (bodies first.other) ++ label
  canHold : ∀ block : Block, block.CanHold (bodies block)

/-- A text is one block and a label, and there is no sign of the other kind. -/
structure IsSingle (block : Block) (text body label : Text) : Prop where
  text_eq : text = block.write body ++ label
  canHold : block.CanHold body
  not_occurs : ¬block.other.Occurs text

/-- There is markup in a text, but it is not in its place. -/
structure IsMisplaced (text : Text) : Prop where
  occurs : ∃ block : Block, block.Occurs text
  not_pair : ∀ first bodies label, ¬IsPair first text bodies label
  not_single : ∀ block body label, ¬IsSingle block text body label

/-- The markup of one block and a label. -/
def ofBlock (block : Block) (body label : Text) : Markup :=
  match block with
  | .disable => ⟨label, some body, none, false⟩
  | .hide => ⟨label, none, some body, false⟩

/-- The markup of a text, by the way it is laid out. -/
inductive Reads (text : Text) : Markup → Prop where
  | pair {first : Block} {bodies : Block → Text} {label : Text}
      (layout : IsPair first text bodies label) :
      Reads text ⟨label, some (bodies .disable), some (bodies .hide), false⟩
  | single {block : Block} {body label : Text} (layout : IsSingle block text body label) :
      Reads text (ofBlock block body label)
  | plain (layout : ∀ block : Block, ¬block.Occurs text) : Reads text (plain text)
  | misplaced (layout : IsMisplaced text) : Reads text (misplacedIn text)

section

variable {first block : Block} {text body label : Text} {bodies : Block → Text}

theorem isPair_iff :
    IsPair first text bodies label ↔
      Block.leadPair? first first.other text.points =
        some ((bodies first).points, (bodies first.other).points, label.points) := by
  rw [Block.leadPair?_eq_some_iff]
  constructor
  · rintro ⟨rfl, hbodies⟩
    refine ⟨(first.other.write (bodies first.other) ++ label).points, ?_, ?_⟩
    · exact Block.lead?_eq_some_iff.2 ⟨by simp, hbodies first⟩
    · exact Block.lead?_eq_some_iff.2 ⟨by simp, hbodies first.other⟩
  · rintro ⟨inside, hfirst, hsecond⟩
    obtain ⟨htext, hbody⟩ := Block.lead?_eq_some_iff.1 hfirst
    obtain ⟨rfl, hbody'⟩ := Block.lead?_eq_some_iff.1 hsecond
    refine ⟨Text.eq_of_points (by rw [htext]; simp), ?_⟩
    intro block
    cases first <;> cases block <;> assumption

theorem isSingle_iff :
    IsSingle block text body label ↔
      block.lead? text.points = some (body.points, label.points) ∧ ¬block.other.Occurs text := by
  rw [Block.lead?_eq_some_iff]
  constructor
  · rintro ⟨rfl, hbody, hother⟩
    exact ⟨⟨by simp, hbody⟩, hother⟩
  · rintro ⟨⟨htext, hbody⟩, hother⟩
    exact ⟨Text.eq_of_points (by rw [htext]; simp), hbody, hother⟩

theorem IsSingle.isInfix_write (h : IsSingle block text body label) :
    (block.write body).points <:+: text.points := by
  obtain ⟨rfl, -, -⟩ := h
  exact ⟨[], label.points, by simp⟩

theorem IsSingle.occurs (h : IsSingle block text body label) : block.Occurs text :=
  .of_write body h.isInfix_write

theorem IsPair.isInfix_write (h : IsPair first text bodies label) (block : Block) :
    (block.write (bodies block)).points <:+: text.points := by
  obtain ⟨rfl, -⟩ := h
  obtain rfl | rfl := first.eq_or_eq_other block
  · exact ⟨[], (block.other.write (bodies block.other)).points ++ label.points, by simp⟩
  · exact ⟨(first.write (bodies first)).points, label.points, by simp⟩

theorem IsPair.occurs (h : IsPair first text bodies label) (block : Block) :
    block.Occurs text :=
  .of_write (bodies block) (h.isInfix_write block)

end

/-! ## Reading finds the layout -/

section

variable {block : Block} {text : Text} {markup : Markup}

theorem reads_readBoth (h : ∀ block : Block, block.Occurs text) : Reads text (readBoth text) := by
  unfold readBoth
  simp only
  split
  · next d h' l hlead =>
    have hpair : IsPair .disable text (Block.bodies ⟨d⟩ ⟨h'⟩) ⟨l⟩ := isPair_iff.2 hlead
    exact .pair hpair
  · next hdisable =>
    split
    · next h' d l hlead =>
      have hpair : IsPair .hide text (Block.bodies ⟨d⟩ ⟨h'⟩) ⟨l⟩ := isPair_iff.2 hlead
      exact .pair hpair
    · next hhide =>
      refine .misplaced ⟨⟨.disable, h _⟩, ?_, fun block body label hsingle =>
        hsingle.not_occurs (h _)⟩
      intro first bodies label hpair
      have hlead := isPair_iff.1 hpair
      cases first with
      | disable => exact absurd (hdisable.symm.trans hlead) (by simp)
      | hide => exact absurd (hhide.symm.trans hlead) (by simp)

theorem reads_readOne (h : block.Occurs text) (hother : ¬block.other.Occurs text) :
    Reads text (readOne block text) := by
  unfold readOne
  split
  · next hnone =>
    refine .misplaced ⟨⟨block, h⟩, fun first bodies label hpair => hother (hpair.occurs _), ?_⟩
    intro block' body label hsingle
    -- The block that is there cannot be of the other kind.
    obtain rfl | rfl := block.eq_or_eq_other block'
    · rw [(isSingle_iff.1 hsingle).1] at hnone
      cases hnone
    · exact hother hsingle.occurs
  · next body label hlead =>
    have hsingle : IsSingle block text ⟨body⟩ ⟨label⟩ := isSingle_iff.2 ⟨hlead, hother⟩
    cases block with
    | disable => exact .single hsingle
    | hide => exact .single hsingle

theorem reads_read (text : Text) : Reads text (read text) := by
  unfold read
  split
  · next hdisable hhide =>
    refine reads_readBoth fun block => ?_
    cases block with
    | disable => exact Block.hasMarks_iff.1 hdisable
    | hide => exact Block.hasMarks_iff.1 hhide
  · next hdisable hhide =>
    refine reads_readOne (Block.hasMarks_iff.1 hdisable) fun hocc => ?_
    exact absurd ((Block.hasMarks_iff.2 hocc).symm.trans hhide) (by simp)
  · next hdisable hhide =>
    refine reads_readOne (Block.hasMarks_iff.1 hhide) fun hocc => ?_
    exact absurd ((Block.hasMarks_iff.2 hocc).symm.trans hdisable) (by simp)
  · next hdisable hhide =>
    refine .plain fun block hocc => ?_
    have hmarks := Block.hasMarks_iff.2 hocc
    cases block with
    | disable => exact absurd (hmarks.symm.trans hdisable) (by simp)
    | hide => exact absurd (hmarks.symm.trans hhide) (by simp)

theorem read_of_isPair {first : Block} {bodies : Block → Text} {label : Text}
    (h : IsPair first text bodies label) :
    read text = ⟨label, some (bodies .disable), some (bodies .hide), false⟩ := by
  have hlead := isPair_iff.1 h
  rw [read, Block.hasMarks_iff.2 (h.occurs .disable), Block.hasMarks_iff.2 (h.occurs .hide)]
  simp only [readBoth]
  cases first with
  | disable =>
    rw [show Block.leadPair? .disable .hide text.points = _ from hlead]
    rfl
  | hide =>
    -- The text starts with the block that hides, so it is not led by the other one.
    have hnone : Block.leadPair? .disable .hide text.points = none := by
      rw [Option.eq_none_iff_forall_ne_some]
      rintro ⟨body, body', rest⟩ hlead'
      obtain ⟨inside, hfirst, -⟩ := Block.leadPair?_eq_some_iff.1 hlead
      obtain ⟨inside', hfirst', -⟩ := Block.leadPair?_eq_some_iff.1 hlead'
      cases Block.eq_of_lead? hfirst hfirst'
    rw [hnone]
    simp only
    rw [show Block.leadPair? .hide .disable text.points = _ from hlead]
    rfl

theorem read_of_isSingle {body label : Text} (h : IsSingle block text body label) :
    read text = ofBlock block body label := by
  have hmarks := Block.hasMarks_iff.2 h.occurs
  have hother : block.other.hasMarks text.points = false := by
    rw [Bool.eq_false_iff]
    exact fun hmarks => h.not_occurs (Block.hasMarks_iff.1 hmarks)
  have hread : read text = readOne block text := by
    cases block with
    | disable => rw [read, hmarks, show Block.hide.hasMarks text.points = _ from hother]
    | hide => rw [read, hmarks, show Block.disable.hasMarks text.points = _ from hother]
  rw [hread, readOne, (isSingle_iff.1 h).1]
  cases block <;> rfl

theorem read_of_not_occurs (h : ∀ block : Block, ¬block.Occurs text) : read text = plain text := by
  have hmarks : ∀ block : Block, block.hasMarks text.points = false := fun block => by
    rw [Bool.eq_false_iff]
    exact fun hmarks => h block (Block.hasMarks_iff.1 hmarks)
  rw [read, hmarks, hmarks]

theorem read_of_isMisplaced (h : IsMisplaced text) : read text = misplacedIn text := by
  have hreads := reads_read text
  generalize read text = markup at hreads ⊢
  cases hreads with
  | pair layout => exact absurd layout (h.not_pair _ _ _)
  | single layout => exact absurd layout (h.not_single _ _ _)
  | plain layout =>
    obtain ⟨block, hocc⟩ := h.occurs
    exact absurd hocc (layout block)
  | misplaced _ => rfl

/-- **Reading finds the layout of a text.** -/
theorem read_eq_iff : read text = markup ↔ Reads text markup := by
  constructor
  · rintro rfl
    exact reads_read text
  · intro h
    cases h with
    | pair layout => exact read_of_isPair layout
    | single layout => exact read_of_isSingle layout
    | plain layout => exact read_of_not_occurs layout
    | misplaced layout => exact read_of_isMisplaced layout

end

theorem IsPair.unique {text label label' : Text} {first first' : Block}
    {bodies bodies' : Block → Text} (h : IsPair first text bodies label)
    (h' : IsPair first' text bodies' label') :
    first = first' ∧ bodies = bodies' ∧ label = label' := by
  obtain ⟨inside, hfirst, -⟩ := Block.leadPair?_eq_some_iff.1 (isPair_iff.1 h)
  obtain ⟨inside', hfirst', -⟩ := Block.leadPair?_eq_some_iff.1 (isPair_iff.1 h')
  -- The bodies and the label are those that the reader finds.
  have hread := (read_of_isPair h).symm.trans (read_of_isPair h')
  obtain ⟨hlabel, hdisable, hhide⟩ : label = label' ∧ bodies .disable = bodies' .disable ∧
      bodies .hide = bodies' .hide := by simpa using hread
  refine ⟨Block.eq_of_lead? hfirst hfirst', funext fun block => ?_, hlabel⟩
  cases block with
  | disable => exact hdisable
  | hide => exact hhide

/-! ## The warning -/

@[simp] theorem value_extract (text : Text) : (extract text).value = read text := by
  unfold extract
  simp only
  split <;> rfl

theorem value_lift_extract {ε : Type} (text : Text) :
    Attempt.value (ExceptT.lift (extract text) : Attempt ε Markup) = .ok (read text) := by
  rw [Attempt.value_lift, value_extract]

theorem notices_extract (text : Text) :
    (extract text).notices = if (read text).misplaced then [.misplacedMarkup text] else [] := by
  unfold extract
  simp only
  split <;> rfl

/-! ## From the markup back to the layout -/

namespace Reads

variable {text : Text} {markup : Markup}

theorem exists_isPair (h : Reads text markup) {bodies : Block → Text}
    (hbodies : ∀ block, markup.body? block = some (bodies block)) :
    ∃ first, IsPair first text bodies markup.label := by
  have hdisable := hbodies .disable
  have hhide := hbodies .hide
  cases h with
  | @pair first bodies' label layout =>
    -- There is one body for each kind of block, so the bodies are the same function.
    obtain rfl : bodies' = bodies := by
      funext block
      cases block with
      | disable => exact Option.some.inj hdisable
      | hide => exact Option.some.inj hhide
    exact ⟨first, layout⟩
  | @single block body label layout =>
    cases block with
    | disable => cases hhide
    | hide => cases hdisable
  | plain layout => cases hdisable
  | misplaced layout => cases hdisable

theorem isSingle (h : Reads text markup) {block : Block} {body : Text}
    (hbody : markup.body? block = some body) (hother : markup.body? block.other = none) :
    IsSingle block text body markup.label := by
  cases h with
  | pair layout => cases block <;> cases hother
  | @single block' body' label layout =>
    -- Of the two kinds of blocks, one has the body and the other has none.
    cases block <;> cases block' <;> cases hbody <;> exact layout
  | plain layout => cases block <;> cases hbody
  | misplaced layout => cases block <;> cases hbody

theorem isInfix_body (h : Reads text markup) {block : Block} {body : Text}
    (hbody : markup.body? block = some body) : body.points <:+: text.points := by
  cases h with
  | @pair first bodies label layout =>
    obtain rfl : bodies block = body := by
      cases block with
      | disable => exact Option.some.inj hbody
      | hide => exact Option.some.inj hbody
    exact Block.isInfix_of_write (layout.isInfix_write block)
  | @single block' body' label layout =>
    obtain rfl : body' = body := by cases block <;> cases block' <;> cases hbody <;> rfl
    exact Block.isInfix_of_write layout.isInfix_write
  | plain layout => cases block <;> cases hbody
  | misplaced layout => cases block <;> cases hbody

theorem not_occurs (h : Reads text (Markup.plain text)) (block : Block) :
    ¬block.Occurs text := by
  generalize hplain : Markup.plain text = markup at h
  cases h with
  | pair layout => cases hplain
  | @single block body label layout => cases block <;> cases hplain
  | plain layout => exact layout block
  | misplaced layout => cases hplain

theorem isMisplaced (h : Reads text markup) (hmisplaced : markup.misplaced = true) :
    IsMisplaced text := by
  cases h with
  | pair layout => cases hmisplaced
  | @single block body label layout => cases block <;> cases hmisplaced
  | plain layout => cases hmisplaced
  | misplaced layout => exact layout

end Reads

theorem misplaced_read_iff {text : Text} : (read text).misplaced = true ↔ IsMisplaced text := by
  constructor
  · exact (reads_read text).isMisplaced
  · intro h
    rw [read_of_isMisplaced h]
    rfl

/-! ## All that is promised -/

/-- What is promised of the markup that is extracted from a text. -/
structure Decoded (text : Text) (result : Logged Markup) : Prop where
  /-- Two blocks are found if the text is two blocks and a label, in either order. -/
  pair_iff : ∀ bodies label,
    ((∀ block, result.value.body? block = some (bodies block)) ∧ result.value.label = label) ↔
      ∃ first, IsPair first text bodies label
  pair_unique : ∀ first first' bodies bodies' label label', IsPair first text bodies label →
    IsPair first' text bodies' label' → first = first' ∧ bodies = bodies' ∧ label = label'
  /-- One block alone is found if the text is that block and a label, and the other kind of block
  has not both of its marks anywhere. -/
  single_iff : ∀ block body label,
    (result.value.body? block = some body ∧ result.value.body? block.other = none ∧
        result.value.label = label) ↔
      IsSingle block text body label
  /-- A text is plain if no kind of block has both of its marks anywhere. -/
  plain_iff : result.value = plain text ↔ ∀ block : Block, ¬block.Occurs text
  /-- All other texts are misplaced markup, and are left as they are. -/
  misplaced_iff : result.value.misplaced = true ↔ IsMisplaced text
  misplaced_eq : IsMisplaced text → result.value = misplacedIn text
  /-- There is a warning for misplaced markup and for nothing else. -/
  warned : IsMisplaced text → result.notices = [.misplacedMarkup text]
  silent : ¬IsMisplaced text → result.notices = []

/-- **The markup of a text is decoded exactly.** No character of the text gets lost and none is
invented, whatever marks its bodies and its label hold. -/
theorem decoded_extract (text : Text) : Decoded text (extract text) := by
  have hreads := reads_read text
  refine ⟨?_, fun _ _ _ _ _ _ => IsPair.unique, ?_, ?_, ?_, ?_, ?_, ?_⟩
  · intro bodies label
    rw [value_extract]
    constructor
    · rintro ⟨hbodies, rfl⟩
      exact hreads.exists_isPair hbodies
    · rintro ⟨first, h⟩
      rw [read_of_isPair h]
      refine ⟨fun block => ?_, rfl⟩
      cases block <;> rfl
  · intro block body label
    rw [value_extract]
    constructor
    · rintro ⟨hbody, hother, rfl⟩
      exact hreads.isSingle hbody hother
    · intro h
      rw [read_of_isSingle h]
      cases block <;> exact ⟨rfl, rfl, rfl⟩
  · rw [value_extract]
    constructor
    · intro h
      rw [h] at hreads
      exact hreads.not_occurs
    · exact read_of_not_occurs
  · rw [value_extract]
    exact misplaced_read_iff
  · intro h
    rw [value_extract, read_of_isMisplaced h]
  · intro h
    rw [notices_extract, if_pos (misplaced_read_iff.2 h)]
  · intro h
    rw [notices_extract, if_neg (mt misplaced_read_iff.1 h)]

end Markup

end Choice

end GatedPrompt
