import GatedPrompt.Prompt.Basic

/-!
# Selection

What is highlighted when a menu opens and what follows when the player confirms or cancels. Where a
choice is not found its number is reported, and a number that is too long to be written is a
failure.

* `initialRow` — the row to highlight;
* `Event` — the outcome of confirming or cancelling;
* `confirm` and `cancel` — the outcome for a row, and for the cancel target of the prompt.

For each of the three there is an equation for each way in which its look-up can end.
-/

namespace GatedPrompt.Prompt

/-- The outcome of confirming or cancelling. -/
inductive Event where
  /-- The choice with the index is made. -/
  | committed (index : Int)
  /-- The choice is not available; the host may play a sound. -/
  | rejected (sound : Option SoundCue)
  /-- The host applies its own cancel behaviour. -/
  | hostCancel (cancelType : Int)
  | ignored (row : Int)
  deriving DecidableEq, Repr, Inhabited

/-- Why nothing followed from confirming a row. -/
def ignoredReason (row : Int) : String := s!"No choice at row {row}."

/-- The first of the records for which the key is least. -/
def leastBy (key : Entry → Int) : List Entry → Option Entry
  | [] => none
  | entry :: entries =>
    match leastBy key entries with
    | none => some entry
    | some best => if key entry ≤ key best then some entry else some best

namespace Context

/-- The row of the nearest visible choice behind an index. -/
def rowAfter? (context : Context) (index : Int) : Option Int :=
  (leastBy (·.index) (context.visible.filter fun entry => decide (index < entry.index))).bind
    (·.row)

/-- The row of the nearest visible choice before an index. -/
def rowBefore? (context : Context) (index : Int) : Option Int :=
  (leastBy (-·.index) (context.visible.filter fun entry => decide (entry.index < index))).bind
    (·.row)

/-- The row to highlight in place of a hidden default choice. -/
def fallbackRow (context : Context) (policy : HiddenDefault) (index : Int) : Option Int :=
  match policy with
  | .nothing => none
  -- Rows are numbered without gaps, so the first visible choice is on row zero.
  | .first => some 0
  | .next => (context.rowAfter? index).or (context.rowBefore? index)
  | .previous => (context.rowBefore? index).or (context.rowAfter? index)

/-- The row to highlight when the menu opens. -/
def initialRow (settings : Settings) (context : Context) : Attempt Text.Oversized (Option Int) :=
  let index := context.descriptor.defaultIndex
  if index < 0 ∨ context.visible = [] then pure none
  else
    match context.entryAt? index with
    | none => do
      Attempt.noteOf index .defaultNotFound
      pure none
    | some entry =>
      if entry.hidden then pure (context.fallbackRow settings.hiddenDefault entry.index)
      else pure entry.row

/-- The outcome of confirming a row. -/
def confirm (settings : Settings) (context : Context) (row : Int) : Attempt Text.Oversized Event :=
  match context.entryOnRow? row with
  | none => do
    Attempt.noteOf row .rowNotFound
    pure (.ignored row)
  | some entry =>
    if entry.disabled then pure (.rejected settings.sound) else pure (.committed entry.index)

/-- The outcome of cancelling. -/
def cancel (settings : Settings) (context : Context) : Attempt Text.Oversized Event :=
  let target := context.descriptor.cancelIndex
  if target ∈ hostCancelTypes then pure (.hostCancel target)
  else
    match context.entryAt? target with
    | none => do
      Attempt.noteOf target .cancelNotFound
      pure (.rejected settings.sound)
    | some entry =>
      if entry.hidden ∨ entry.disabled then pure (.rejected settings.sound)
      else pure (.committed entry.index)

section

variable {settings : Settings} {context : Context} {entry : Entry}

/-- Without a default or without a menu nothing is highlighted, and nothing is said of it. -/
theorem initialRow_of_idle (h : context.descriptor.defaultIndex < 0 ∨ context.visible = []) :
    context.initialRow settings = pure none := by
  unfold initialRow
  exact if_pos h

theorem initialRow_of_none (h : ¬(context.descriptor.defaultIndex < 0 ∨ context.visible = []))
    (hentry : context.entryAt? context.descriptor.defaultIndex = none) :
    context.initialRow settings =
      (do Attempt.noteOf context.descriptor.defaultIndex .defaultNotFound; pure none) := by
  unfold initialRow
  simp only [if_neg h, hentry]

theorem initialRow_of_some (h : ¬(context.descriptor.defaultIndex < 0 ∨ context.visible = []))
    (hentry : context.entryAt? context.descriptor.defaultIndex = some entry) :
    context.initialRow settings =
      pure (if entry.hidden then context.fallbackRow settings.hiddenDefault entry.index
        else entry.row) := by
  unfold initialRow
  simp only [if_neg h, hentry]
  split <;> rfl

theorem confirm_of_none {row : Int} (h : context.entryOnRow? row = none) :
    context.confirm settings row =
      (do Attempt.noteOf row .rowNotFound; pure (.ignored row)) := by
  rw [confirm, h]

theorem confirm_of_some {row : Int} (h : context.entryOnRow? row = some entry) :
    context.confirm settings row =
      pure (if entry.disabled then .rejected settings.sound else .committed entry.index) := by
  rw [confirm, h]
  simp only
  split <;> rfl

theorem cancel_of_host (h : context.descriptor.cancelIndex ∈ hostCancelTypes) :
    context.cancel settings = pure (.hostCancel context.descriptor.cancelIndex) := by
  unfold cancel
  exact if_pos h

theorem cancel_of_none (h : context.descriptor.cancelIndex ∉ hostCancelTypes)
    (hentry : context.entryAt? context.descriptor.cancelIndex = none) :
    context.cancel settings =
      (do Attempt.noteOf context.descriptor.cancelIndex .cancelNotFound
          pure (.rejected settings.sound)) := by
  unfold cancel
  simp only [if_neg h, hentry]

theorem cancel_of_some (h : context.descriptor.cancelIndex ∉ hostCancelTypes)
    (hentry : context.entryAt? context.descriptor.cancelIndex = some entry) :
    context.cancel settings =
      pure (if entry.hidden ∨ entry.disabled then .rejected settings.sound
        else .committed entry.index) := by
  unfold cancel
  simp only [if_neg h, hentry]
  split <;> rfl

end

end Context

end GatedPrompt.Prompt
