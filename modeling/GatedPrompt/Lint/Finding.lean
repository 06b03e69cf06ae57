import GatedPrompt.Choice.Markup
import GatedPrompt.Lint.Issue
import GatedPrompt.Rule.Conjunction

/-!
# Checking choices without a game

What can be said about the markup of choices before any game runs.

* `Finding` — what is wrong with a choice;
* `findings` — all findings on a list of choices, in the order of the choices, within a choice the
  block that disables first, and within a block in the order of the rules;
* `Finding.issue` — a finding in words;
* `check` — the issues of a prompt.
-/

namespace GatedPrompt.Lint

open Choice (Block Markup)

inductive Finding where
  /-- There is markup in the wrong place. -/
  | misplacedMarkup (choice : Nat) (text : Text)
  | malformedRule (choice : Nat) (block : Block) (malformed : Rule.Malformed)
  /-- There is markup but nothing to show. -/
  | emptyLabel (choice : Nat)
  deriving DecidableEq, Repr, Inhabited

/-- The findings on a list of rules. -/
def ruleFindings (choice : Nat) (block : Block) :
    List Text → Except Text.Oversized (List Finding)
  | [] => .ok []
  | text :: rest =>
    match Rule.parse text with
    | .ok _ => ruleFindings choice block rest
    | .error (.oversized fault) => .error fault
    | .error (.malformed malformed) =>
      -- The rule that is named is the one in the list, whatever the report says of it.
      (ruleFindings choice block rest).map
        (.malformedRule choice block ⟨text, malformed.defect⟩ :: ·)

/-- The findings on the rules of a block; an absent block has none. -/
def blockFindings (choice : Nat) (markup : Markup) (block : Block) :
    Except Text.Oversized (List Finding) :=
  match markup.body? block with
  | none => .ok []
  | some body => ruleFindings choice block (Rule.split body)

/-- The findings on one choice. -/
def choiceFindings (choice : Nat) (text : Text) : Attempt Text.Oversized (List Finding) := do
  let markup ← ExceptT.lift (Markup.extract text)
  -- Misplaced markup hides all that could be said about its parts.
  if markup.misplaced then return [.misplacedMarkup choice text]
  let disable ← Attempt.ofExcept (blockFindings choice markup .disable)
  let hide ← Attempt.ofExcept (blockFindings choice markup .hide)
  let label := if markup.hasBlocks && markup.label.isEmpty then [.emptyLabel choice] else []
  return disable ++ hide ++ label

/-- The findings on the choices from an index on. -/
def findingsFrom : Nat → List Text → Attempt Text.Oversized (List Finding)
  | _, [] => return []
  | index, text :: texts => do
    let first ← choiceFindings index text
    let others ← findingsFrom (index + 1) texts
    return first ++ others

/-- The findings on a list of choices. -/
def findings (choices : List Text) : Attempt Text.Oversized (List Finding) :=
  findingsFrom 0 choices

/-- A finding in words, with the id of the prompt if it has one. -/
def Finding.issue (prompt : Option Text) (finding : Finding) : Issue :=
  let place (choice : Nat) (more : List (String × Text)) : List (String × Text) :=
    let within : List (String × Text) := (prompt.map fun id => ("prompt", id)).toList
    within ++ ("choice", Text.ofString (toString choice)) :: more
  match finding with
  | misplacedMarkup choice text =>
    ⟨.error, "ILLEGAL_TAG_POSITION",
      "Markup must lead the choice text, blocks adjacent to each other.",
      place choice [("text", text)]⟩
  | malformedRule choice block malformed =>
    ⟨.error, "MALFORMED_RULE", malformed.defect.detail,
      place choice [("block", block.name), ("rule", malformed.rule),
        ("kind", malformed.defect.category.code)]⟩
  | emptyLabel choice =>
    ⟨.warning, "EMPTY_LABEL", "Choice has markup but no visible text.", place choice []⟩

/-- The issues of the choices of a prompt. -/
def check (prompt : Option Text) (choices : List Text) :
    Attempt Text.Oversized (List Issue) := do
  let found ← findings choices
  return found.map (Finding.issue prompt)

end GatedPrompt.Lint
