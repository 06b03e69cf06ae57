import GatedPrompt.Logged
import GatedPrompt.Text.Basic
import GatedPrompt.Text.Cut

/-!
# Markup of choices

A choice text may start with blocks of rules: one between `<<[` and `]>>` disables the choice and
one between `(([` and `]))` hides it. A block starts the text or directly follows the other one. The
label is what is left.

* `Block` — the two kinds of blocks with their marks;
* `Markup` — the blocks and the label of a choice text;
* `Markup.read` — the markup of a text. If a text holds the opening and the closing mark of a kind
  but no such block in its place, it is misplaced markup and all of it is the label;
* `Block.write` — a block as it is written in a choice text.
-/

namespace GatedPrompt.Choice

inductive Block where
  | disable
  | hide
  deriving DecidableEq, Repr, Inhabited

namespace Block

def opener : Block → Text
  | disable => "<<["
  | hide => "((["

def closer : Block → Text
  | disable => "]>>"
  | hide => "]))"

def name : Block → String
  | disable => "disable"
  | hide => "hide"

/-- Whether a text holds both marks of a block, wherever they stand. -/
def hasMarks (block : Block) (cs : Text.Points) : Bool :=
  Text.holds block.opener.points cs && Text.holds block.closer.points cs

/-- The body of the block at the front of a text, and what follows the block. -/
def lead? (block : Block) (cs : Text.Points) : Option (Text.Points × Text.Points) :=
  match Text.afterMark? block.opener.points cs with
  | none => none
  | some inside => Text.cut? block.closer.points inside

/-- The bodies of two blocks at the front of a text, and what follows them. -/
def leadPair? (first second : Block) (cs : Text.Points) :
    Option (Text.Points × Text.Points × Text.Points) :=
  match first.lead? cs with
  | none => none
  | some (body, rest) =>
    match second.lead? rest with
    | none => none
    | some (body', rest') => some (body, body', rest')

/-- A block as it is written. -/
def write (block : Block) (body : Text) : Text := block.opener ++ body ++ block.closer

end Block

/-- The markup of a choice text. -/
structure Markup where
  label : Text
  /-- The rules that disable the choice. -/
  disable : Option Text := none
  /-- The rules that hide the choice. -/
  hide : Option Text := none
  /-- Whether there is markup in the wrong place. -/
  misplaced : Bool := false
  deriving DecidableEq, Repr, Inhabited

namespace Markup

def plain (text : Text) : Markup := ⟨text, none, none, false⟩

/-- A text with markup in the wrong place. -/
def misplacedIn (text : Text) : Markup := ⟨text, none, none, true⟩

/-- The body of a block of the given kind. -/
def body? (markup : Markup) : Block → Option Text
  | .disable => markup.disable
  | .hide => markup.hide

def hasBlocks (markup : Markup) : Bool := markup.disable.isSome || markup.hide.isSome

/-- The markup of a text that holds the marks of both kinds. -/
def readBoth (text : Text) : Markup :=
  let cs := text.points
  match Block.leadPair? .disable .hide cs with
  -- The block that disables comes first.
  | some (disable, hide, label) =>
    ⟨.mk label, some (.mk disable), some (.mk hide), false⟩
  | none =>
    match Block.leadPair? .hide .disable cs with
    -- The block that hides comes first.
    | some (hide, disable, label) =>
      ⟨.mk label, some (.mk disable), some (.mk hide), false⟩
    | none => misplacedIn text

/-- The markup of a text that holds the marks of one kind only. -/
def readOne (block : Block) (text : Text) : Markup :=
  match block.lead? text.points with
  | none => misplacedIn text
  | some (body, label) =>
    match block with
    | .disable => ⟨.mk label, some (.mk body), none, false⟩
    | .hide => ⟨.mk label, none, some (.mk body), false⟩

/-- The markup of a choice text. -/
def read (text : Text) : Markup :=
  match Block.hasMarks .disable text.points, Block.hasMarks .hide text.points with
  | true, true => readBoth text
  | true, false => readOne .disable text
  | false, true => readOne .hide text
  | false, false => plain text

/-- The markup of a choice text, with a warning if it is misplaced. -/
def extract (text : Text) : Logged Markup :=
  let markup := read text
  if markup.misplaced then do
    Logged.note (.misplacedMarkup text)
    pure markup
  else pure markup

/-- Misplaced markup leaves the text as the label and has no blocks. -/
theorem eq_of_misplaced {text : Text} (h : (read text).misplaced = true) :
    read text = misplacedIn text := by
  unfold read at h ⊢
  split at h
  · unfold readBoth at h ⊢
    simp only at h ⊢
    split at h
    · simp at h
    · split at h
      · simp at h
      · simp_all
  · unfold readOne at h ⊢
    split at h
    · simp_all
    · simp at h
  · unfold readOne at h ⊢
    split at h
    · simp_all
    · simp at h
  · simp [plain] at h

end Markup

end GatedPrompt.Choice
