import GatedPrompt.Prompt.Settings

/-!
# Prompts

* `Descriptor` — a prompt as the host hands it over: choice texts, a default and a cancel target;
* `Entry` — the record of one choice: where it stood, its label, its verdict and its row;
* `Context` — a prompt and the records of its choices;
* `Context.visible`, `labels`, `backMapping` — the rows of the menu, the labels on them and the
  choices they stand for;
* `Context.entryAt?` and `Context.entryOnRow?` — the record of a choice by its index and by its row.
-/

namespace GatedPrompt.Prompt

/-- A prompt as the host hands it over. -/
structure Descriptor where
  choices : List Text
  /-- The index of the choice to highlight; below zero for none. -/
  defaultIndex : Int := -1
  /-- The index of the choice that cancelling stands for, or a host cancel type. -/
  cancelIndex : Int := -1
  deriving DecidableEq, Repr, Inhabited

/-- The cancel targets that are left to the host: cancelling is not allowed, or has a branch of its
own. -/
def hostCancelTypes : List Int := [-1, -2]

/-- What the rules of a choice say. -/
structure Verdict where
  disabled : Bool := false
  hidden : Bool := false
  deriving DecidableEq, Repr, Inhabited

/-- The record of one choice. -/
structure Entry where
  /-- The index among the choices of the prompt. -/
  index : Int
  rawText : Text := ""
  label : Text := ""
  hidden : Bool := false
  disabled : Bool := false
  /-- The row in the menu, if the choice is visible. -/
  row : Option Int := none
  deriving DecidableEq, Repr, Inhabited

/-- Whether a choice has a row in the menu. -/
def Entry.isVisible (entry : Entry) : Bool := entry.row.isSome

/-- A prompt and the records of its choices. -/
structure Context where
  descriptor : Descriptor
  entries : List Entry
  deriving DecidableEq, Repr, Inhabited

namespace Context

/-- The records of the choices in the menu. -/
def visible (context : Context) : List Entry := context.entries.filter Entry.isVisible

/-- The labels in the menu, from the first row on. -/
def labels (context : Context) : List Text := context.visible.map Entry.label

/-- The index of the choice on each row. -/
def backMapping (context : Context) : List Int := context.visible.map Entry.index

/-- The record of the choice with an index. -/
def entryAt? (context : Context) (index : Int) : Option Entry :=
  context.entries.find? fun entry => entry.index == index

/-- The record of the choice on a row. -/
def entryOnRow? (context : Context) (row : Int) : Option Entry :=
  context.entries.find? fun entry => entry.row == some row

end Context

end GatedPrompt.Prompt
