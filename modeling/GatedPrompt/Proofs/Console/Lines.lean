import GatedPrompt.Console.Play
import GatedPrompt.Proofs.Prompt.Rows
import GatedPrompt.Proofs.Prompt.ViewAnswers
import GatedPrompt.Proofs.Text.Typed

/-!
# Lines at a menu

What a line of input should come to can be read off the menu: the letter for cancelling and the
numbers of the rows that are not disabled close the prompt, and to everything else there is one of
three messages. This module says so and shows that one line comes to just that, with two exceptions:
a number of no row and a cancel target that is no choice have to be reported, and that fails if they
have too many digits.

* `Cancels`, `Text.Typed` — a line is the letter or an integer, and is read as such;
* `IsClosing`, `Closes` — a line should close the prompt, and with which event and message;
* `Answered` — the message for a line that should not;
* `Jams` — the lines of the exceptions;
* `reacts_react` — what one line comes to.
-/

namespace GatedPrompt.Console

open Prompt (Context Descriptor Event Processed Session Settings SoundCue View hostCancelTypes)
open Text (Typed)

/-! ## Lines of input -/

/-- A line without the blanks around it. -/
def entered (line : String) : Text.Points := Text.trim (Text.ofString line).points

/-- The line asks to cancel. -/
def Cancels (line : String) : Prop := entered line = [.char 'c'] ∨ entered line = [.char 'C']

variable {line : String} {k : Int}

/-- The letter is no integer. -/
theorem Cancels.not_typed (h : Cancels line) (k : Int) : ¬Typed (entered line) k := by
  have hletters : ∀ letter ∈ [Text.CodePoint.char 'c', .char 'C'],
      Text.trim [letter] = [letter] ∧ Text.parseInteger? [letter] = none := by decide
  intro htyped
  obtain ⟨letter, hmem, hline⟩ : ∃ letter ∈ [Text.CodePoint.char 'c', .char 'C'],
      entered line = [letter] := by
    rcases h with h | h
    · exact ⟨_, by simp, h⟩
    · exact ⟨_, by simp, h⟩
  obtain ⟨htrim, hparse⟩ := hletters letter hmem
  rw [hline, ← htrim, ← Text.parseInteger?_eq_some_iff, hparse] at htyped
  cases htyped

theorem Command.ofLine_of_cancels (h : Cancels line) : ofLine line = .cancel := if_pos h

theorem Command.ofLine_of_typed (h : Typed (entered line) k) : ofLine line = .row (k - 1) := by
  have hcancels : ¬Cancels line := fun hcancels => hcancels.not_typed k h
  have hparse : Text.parseInteger? (entered line) = some k := by
    rw [Text.parseInteger?_eq_some_iff, entered, Text.trim_trim]
    exact h
  simp only [Cancels, entered] at hcancels hparse
  rw [ofLine, if_neg hcancels, hparse]

theorem Command.ofLine_of_unclear (hcancels : ¬Cancels line)
    (htyped : ∀ k, ¬Typed (entered line) k) : ofLine line = .unclear := by
  have hparse : Text.parseInteger? (entered line) = none := by
    rw [Option.eq_none_iff_forall_ne_some]
    intro k hk
    rw [Text.parseInteger?_eq_some_iff, entered, Text.trim_trim] at hk
    exact htyped k hk
  simp only [Cancels, entered] at hcancels hparse
  rw [ofLine, if_neg hcancels, hparse]

/-! ## What the menu promises -/

/-- What the player is told of a choice that is made. -/
def chosenMessage (index : Int) (label : Text) : Text :=
  s!"Chose option {index + 1}: " ++ labelText label ++ "\n"

/-- What the player is told of a choice that is not available. -/
def refusalMessage : Option SoundCue → Text
  | none => "That choice is not available.\n"
  | some cue => "That choice is not available. [" ++ cue.name ++ "]\n"

/-- What the player is told of a number that is none of a row. -/
def rangeMessage (view : View) : Text := s!"Please enter a value between 1 and {view.rowCount}.\n"

/-- A line that should close the prompt: it asks to cancel, and the cancel target is left to the
host or is a choice on a row that is not disabled; or it is the number of such a row. -/
def IsClosing (descriptor : Descriptor) (view : View) (line : String) : Prop :=
  Cancels line ∧ (descriptor.cancelIndex ∈ hostCancelTypes ∨
      ∃ row : Nat, view.indices[row]? = some descriptor.cancelIndex ∧
        (row : Int) ∉ view.disabledRows) ∨
    ∃ k, Typed (entered line) k ∧ 1 ≤ k ∧ k ≤ view.rowCount ∧ k - 1 ∉ view.disabledRows

/-- The event that a line closes the prompt with, and what the player is told: the label is the one
on the row of the choice that is made. -/
inductive Closes (descriptor : Descriptor) (view : View) (line : String) : Event → Text → Prop where
  | host (cancels : Cancels line) (target : descriptor.cancelIndex ∈ hostCancelTypes) :
      Closes descriptor view line (.hostCancel descriptor.cancelIndex) "Cancelled.\n"
  | target {row : Nat} {label : Text} (cancels : Cancels line)
      (notHost : descriptor.cancelIndex ∉ hostCancelTypes)
      (indexed : view.indices[row]? = some descriptor.cancelIndex)
      (labelled : view.labels[row]? = some label) (enabled : (row : Int) ∉ view.disabledRows) :
      Closes descriptor view line (.committed descriptor.cancelIndex)
        (chosenMessage descriptor.cancelIndex label)
  | row {row : Nat} {index : Int} {label : Text} (typed : Typed (entered line) (row + 1))
      (indexed : view.indices[row]? = some index) (labelled : view.labels[row]? = some label)
      (enabled : (row : Int) ∉ view.disabledRows) :
      Closes descriptor view line (.committed index) (chosenMessage index label)

/-- What the player is told after a line that does not close the prompt. -/
inductive Answered (settings : Settings) (descriptor : Descriptor) (view : View) (line : String) :
    Text → Prop where
  | unclear (notCancels : ¬Cancels line) (notTyped : ∀ k, ¬Typed (entered line) k) :
      Answered settings descriptor view line unclearMessage
  | noTarget (cancels : Cancels line) (notHost : descriptor.cancelIndex ∉ hostCancelTypes)
      (unavailable : ∀ row : Nat, view.indices[row]? = some descriptor.cancelIndex →
        (row : Int) ∈ view.disabledRows) :
      Answered settings descriptor view line (refusalMessage settings.sound)
  | disabled {k : Int} (typed : Typed (entered line) k) (disabled : k - 1 ∈ view.disabledRows) :
      Answered settings descriptor view line (refusalMessage settings.sound)
  | outOfRange {k : Int} (typed : Typed (entered line) k) (out : k < 1 ∨ view.rowCount < k) :
      Answered settings descriptor view line (rangeMessage view)

/-- A line for which the player is told nothing. It is the one integer for which the row in front of
it has too many digits to be reported, or it asks to cancel where the target has. -/
def Jams (descriptor : Descriptor) (line : String) : Prop :=
  Typed (entered line) Text.leastTyped ∨
    Cancels line ∧ descriptor.cancelIndex ∉ hostCancelTypes ∧
      ¬(0 ≤ descriptor.cancelIndex ∧ descriptor.cancelIndex < descriptor.choices.length) ∧
      Text.isUnwritable descriptor.cancelIndex = true

/-! ### The three sorts of lines -/

section

variable {descriptor : Descriptor} {view : View}

theorem isClosing_iff_of_cancels (h : Cancels line) :
    IsClosing descriptor view line ↔ descriptor.cancelIndex ∈ hostCancelTypes ∨
      ∃ row : Nat, view.indices[row]? = some descriptor.cancelIndex ∧
        (row : Int) ∉ view.disabledRows := by
  have hnumber : ¬∃ k, Typed (entered line) k ∧ 1 ≤ k ∧ k ≤ view.rowCount ∧
      k - 1 ∉ view.disabledRows := fun ⟨k, htyped, _⟩ => h.not_typed k htyped
  rw [IsClosing, or_iff_left hnumber, and_iff_right h]

theorem isClosing_iff_of_typed (h : Typed (entered line) k) :
    IsClosing descriptor view line ↔
      1 ≤ k ∧ k ≤ view.rowCount ∧ k - 1 ∉ view.disabledRows := by
  constructor
  · rintro (⟨hcancels, -⟩ | ⟨k', htyped, hrow⟩)
    · exact absurd h (hcancels.not_typed k)
    · rwa [htyped.unique h] at hrow
  · intro hrow
    exact .inr ⟨k, h, hrow⟩

theorem not_isClosing_of_unclear (hcancels : ¬Cancels line)
    (htyped : ∀ k, ¬Typed (entered line) k) : ¬IsClosing descriptor view line := by
  rintro (⟨h, -⟩ | ⟨k, h, -⟩)
  · exact hcancels h
  · exact htyped k h

theorem Closes.isClosing {event : Event} {message : Text}
    (h : Closes descriptor view line event message) : IsClosing descriptor view line := by
  cases h with
  | host cancels target => exact .inl ⟨cancels, .inl target⟩
  | target cancels _ indexed _ enabled => exact .inl ⟨cancels, .inr ⟨_, indexed, enabled⟩⟩
  | @row row _ _ typed _ labelled enabled =>
    have hlt : row < view.rowCount := (List.getElem?_eq_some_iff.1 labelled).1
    refine .inr ⟨row + 1, typed, by omega, by omega, ?_⟩
    rw [Int.add_sub_cancel]
    exact enabled

theorem jams_iff_of_typed (h : Typed (entered line) k) :
    Jams descriptor line ↔ k = Text.leastTyped := by
  constructor
  · rintro (htyped | ⟨hcancels, -⟩)
    · exact h.unique htyped
    · exact absurd h (hcancels.not_typed k)
  · intro hleast
    exact .inl (hleast ▸ h)

theorem jams_iff_of_cancels (h : Cancels line) :
    Jams descriptor line ↔ descriptor.cancelIndex ∉ hostCancelTypes ∧
      ¬(0 ≤ descriptor.cancelIndex ∧ descriptor.cancelIndex < descriptor.choices.length) ∧
      Text.isUnwritable descriptor.cancelIndex = true := by
  rw [Jams, or_iff_right (h.not_typed _), and_iff_right h]

theorem not_jams_of_unclear (hcancels : ¬Cancels line) (htyped : ∀ k, ¬Typed (entered line) k) :
    ¬Jams descriptor line := by
  rintro (h | ⟨h, -⟩)
  · exact htyped _ h
  · exact hcancels h

end

/-! ## One line -/

/-- What a line comes to. -/
inductive Reacts (settings : Settings) (descriptor : Descriptor) (view : View) (active : Session)
    (line : String) : Session × Except Crash Reaction → Prop where
  | closed {event : Event} {message : Text} (closes : Closes descriptor view line event message)
      (notJams : ¬Jams descriptor line) :
      Reacts settings descriptor view active line (active.close, .ok (.closed message event))
  | again {message : Text} (answered : Answered settings descriptor view line message)
      (notClosing : ¬IsClosing descriptor view line) (notJams : ¬Jams descriptor line) :
      Reacts settings descriptor view active line (active, .ok (.again message))
  | jammed (jams : Jams descriptor line) (notClosing : ¬IsClosing descriptor view line) :
      Reacts settings descriptor view active line
        (active, .error (.session (.oversized .integer)))

variable {settings : Settings} {state : Game.State} {descriptor : Descriptor} {context : Context}
  {highlighted : Option Int}

/-- A list of keys without repetition and a list of values: a key stands for the value at its
place. -/
theorem lookup_zip {α β : Type} [DecidableEq α] {keys : List α} {values : List β}
    (hnodup : keys.Nodup) {n : Nat} {key : α} {value : β} (hkey : keys[n]? = some key)
    (hvalue : values[n]? = some value) : (keys.zip values).lookup key = some value := by
  induction keys generalizing values n with
  | nil => simp at hkey
  | cons first keys ih =>
    cases values with
    | nil => simp at hvalue
    | cons start values =>
      cases n with
      | zero =>
        obtain rfl := Option.some.inj hkey
        obtain rfl := Option.some.inj hvalue
        simp
      | succ n =>
        obtain ⟨hfirst, hnodup⟩ := List.nodup_cons.1 hnodup
        have hne : key ≠ first := by
          rintro rfl
          exact hfirst (List.mem_of_getElem? hkey)
        rw [List.zip_cons_cons, List.lookup_cons, beq_false_of_ne hne]
        exact ih hnodup hkey hvalue

theorem nodup_indices (h : Processed settings state descriptor context) :
    (context.viewWith highlighted).indices.Nodup :=
  h.backMapping_ascending.imp fun hlt => Int.ne_of_lt hlt

theorem labelOf_eq (h : Processed settings state descriptor context) {row : Nat} {index : Int}
    {label : Text} (hindex : (context.viewWith highlighted).indices[row]? = some index)
    (hlabel : (context.viewWith highlighted).labels[row]? = some label) :
    labelOf (context.viewWith highlighted) index = label := by
  rw [labelOf, lookup_zip (nodup_indices h) hindex hlabel]
  rfl

/-- What comes of the outcome of an input. -/
def reactionTo (active : Session) (view : View) :
    Except Text.Oversized Event → Session × Except Crash Reaction
  | .error fault => (active, .error (.session (.oversized fault)))
  | .ok event => (active.after event, .ok (.ofEvent view event))

theorem value_react_row {row : Int} (hline : Command.ofLine line = .row row) (view : View) :
    (react ⟨settings, some context⟩ view line).value =
      reactionTo ⟨settings, some context⟩ view (context.confirm settings row).value := by
  have hactive : (⟨settings, some context⟩ : Session).context = some context := rfl
  rw [react, hline]
  simp only [Session.confirm, Logged.value_bind, Logged.value_pure, Prompt.value_respond hactive]
  cases (context.confirm settings row).value <;> rfl

theorem value_react_cancel (hline : Command.ofLine line = .cancel) (view : View) :
    (react ⟨settings, some context⟩ view line).value =
      reactionTo ⟨settings, some context⟩ view (context.cancel settings).value := by
  have hactive : (⟨settings, some context⟩ : Session).context = some context := rfl
  rw [react, hline]
  simp only [Session.cancel, Logged.value_bind, Logged.value_pure, Prompt.value_respond hactive]
  cases (context.cancel settings).value <;> rfl

theorem ofEvent_committed (h : Processed settings state descriptor context) {row : Nat}
    {index : Int} {label : Text}
    (hindex : (context.viewWith highlighted).indices[row]? = some index)
    (hlabel : (context.viewWith highlighted).labels[row]? = some label) :
    Reaction.ofEvent (context.viewWith highlighted) (.committed index) =
      .closed (chosenMessage index label) (.committed index) := by
  rw [Reaction.ofEvent, labelOf_eq h hindex hlabel]
  rfl

theorem ofEvent_rejected (view : View) (sound : Option SoundCue) :
    Reaction.ofEvent view (.rejected sound) = .again (refusalMessage sound) := by
  cases sound <;> rfl

/-- On a row there are the index of a choice and its label. -/
theorem exists_on_row {row : Nat} (hrow : row < (context.viewWith highlighted).rowCount) :
    ∃ index label, (context.viewWith highlighted).indices[row]? = some index ∧
      (context.viewWith highlighted).labels[row]? = some label := by
  have hlength : row < context.visible.length := by
    rw [View.rowCount] at hrow
    simpa using! hrow.trans_eq (List.length_map _)
  refine ⟨context.visible[row].index, context.visible[row].label, ?_, ?_⟩
  · exact (List.getElem?_map ..).trans (by rw [List.getElem?_eq_getElem hlength]; rfl)
  · exact (List.getElem?_map ..).trans (by rw [List.getElem?_eq_getElem hlength]; rfl)

/-- What the number of a row comes to. -/
theorem reacts_of_typed (h : Processed settings state descriptor context)
    (htyped : Typed (entered line) k) :
    Reacts settings descriptor (context.viewWith highlighted) ⟨settings, some context⟩ line
      (react ⟨settings, some context⟩ (context.viewWith highlighted) line).value := by
  obtain ⟨hcommitted, hrejected, hignored⟩ := h.value_confirm_iff highlighted (k - 1)
  have hclosing : IsClosing descriptor (context.viewWith highlighted) line ↔ _ :=
    isClosing_iff_of_typed htyped
  have hjams : Jams descriptor line ↔ _ := jams_iff_of_typed htyped
  rw [value_react_row (Command.ofLine_of_typed htyped)]
  generalize (context.confirm settings (k - 1)).value = outcome at *
  -- of the answers to a row, the view says which one is given
  by_cases hrange : 1 ≤ k ∧ k ≤ (context.viewWith highlighted).rowCount
  · -- players count from one, rows from zero
    have hnotJams : ¬Jams descriptor line := by
      have hle := Text.leastTyped_le_zero
      rw [hjams]
      omega
    obtain ⟨row, rfl⟩ : ∃ row : Nat, k = row + 1 := ⟨(k - 1).toNat, by omega⟩
    rw [Int.add_sub_cancel] at hcommitted hrejected hclosing
    have hlt : row < (context.viewWith highlighted).rowCount := by omega
    by_cases hdisabled : (row : Int) ∈ (context.viewWith highlighted).disabledRows
    · obtain rfl := (hrejected settings.sound).2 ⟨hdisabled, rfl⟩
      rw [reactionTo, ofEvent_rejected]
      exact .again (.disabled htyped (by rwa [Int.add_sub_cancel]))
        (fun hc => (hclosing.1 hc).2.2 hdisabled) hnotJams
    · obtain ⟨index, label, hindex, hlabel⟩ := exists_on_row hlt
      obtain rfl := (hcommitted index).2
        ⟨⟨by omega, by omega, hdisabled⟩, by rwa [Int.toNat_natCast]⟩
      rw [reactionTo, ofEvent_committed h hindex hlabel]
      exact .closed (.row htyped hindex hlabel hdisabled) hnotJams
  · -- below the first row or behind the last one there is nothing to confirm
    have hnotClosing : ¬IsClosing descriptor (context.viewWith highlighted) line :=
      fun hc => hrange ⟨(hclosing.1 hc).1, (hclosing.1 hc).2.1⟩
    have hnotDisabled : k - 1 ∉ (context.viewWith highlighted).disabledRows := by
      intro hmem
      have hrow := h.mem_disabledRows_bounds hmem
      have hcount : (context.viewWith highlighted).rowCount = context.visible.length :=
        List.length_map _
      omega
    have houtcome := hignored (fun hrow => hrange ⟨by omega, by omega⟩) hnotDisabled
    by_cases hleast : k = Text.leastTyped
    · -- the row would have to be shown in the notice on it
      rw [if_pos (htyped.isUnwritable_iff.2 hleast)] at houtcome
      rw [houtcome]
      exact .jammed (hjams.2 hleast) hnotClosing
    · rw [if_neg (by rwa [htyped.isUnwritable_iff])] at houtcome
      rw [houtcome]
      exact .again (.outOfRange htyped (by omega)) hnotClosing (by rwa [hjams])

/-- Asking to cancel where the target is on a row is as good as the number of that row. -/
theorem reacts_of_cancels_on_row (h : Processed settings state descriptor context)
    (hcancels : Cancels line) (hhost : descriptor.cancelIndex ∉ hostCancelTypes) {row : Nat}
    (hindex : (context.viewWith highlighted).indices[row]? = some descriptor.cancelIndex) :
    Reacts settings descriptor (context.viewWith highlighted) ⟨settings, some context⟩ line
      (react ⟨settings, some context⟩ (context.viewWith highlighted) line).value := by
  have htarget : ¬(descriptor.cancelIndex = -1 ∨ descriptor.cancelIndex = -2) := by
    simpa [hostCancelTypes] using hhost
  obtain ⟨hcommitted, hrejected, -⟩ := h.value_confirm_iff highlighted row
  rw [value_react_cancel (Command.ofLine_of_cancels hcancels),
    h.value_cancel_of_row htarget hindex]
  generalize (context.confirm settings row).value = outcome at *
  have hnotJams : ¬Jams descriptor line := fun hjams =>
    ((jams_iff_of_cancels hcancels).1 hjams).2.1
      (h.bounds_of_mem_backMapping (List.mem_of_getElem? hindex))
  by_cases hdisabled : (row : Int) ∈ (context.viewWith highlighted).disabledRows
  · obtain rfl := (hrejected settings.sound).2 ⟨hdisabled, rfl⟩
    -- the target is on this row only
    have hall : ∀ other : Nat,
        (context.viewWith highlighted).indices[other]? = some descriptor.cancelIndex →
        (other : Int) ∈ (context.viewWith highlighted).disabledRows := by
      intro other hother
      obtain rfl : row = other := (List.getElem?_inj (List.getElem?_eq_some_iff.1 hindex).1
        (nodup_indices h)).1 (hindex.trans hother.symm)
      exact hdisabled
    rw [reactionTo, ofEvent_rejected]
    refine .again (.noTarget hcancels hhost hall) (fun hclosing => ?_) hnotJams
    obtain htarget | ⟨other, hother, henabled⟩ := (isClosing_iff_of_cancels hcancels).1 hclosing
    · exact hhost htarget
    · exact henabled (hall other hother)
  · have hlt := Context.lt_rowCount hindex
    obtain ⟨_, label, -, hlabel⟩ := exists_on_row hlt
    obtain rfl := (hcommitted descriptor.cancelIndex).2
      ⟨⟨by omega, by omega, hdisabled⟩, by rwa [Int.toNat_natCast]⟩
    rw [reactionTo, ofEvent_committed h hindex hlabel]
    exact .closed (.target hcancels hhost hindex hlabel hdisabled) hnotJams

/-- What asking to cancel comes to. -/
theorem reacts_of_cancels (h : Processed settings state descriptor context)
    (hcancels : Cancels line) :
    Reacts settings descriptor (context.viewWith highlighted) ⟨settings, some context⟩ line
      (react ⟨settings, some context⟩ (context.viewWith highlighted) line).value := by
  have htarget_iff : descriptor.cancelIndex ∈ hostCancelTypes ↔
      descriptor.cancelIndex = -1 ∨ descriptor.cancelIndex = -2 := by
    simp [hostCancelTypes]
  by_cases hhost : descriptor.cancelIndex ∈ hostCancelTypes
  · rw [value_react_cancel (Command.ofLine_of_cancels hcancels),
      h.cancel_of_target (htarget_iff.1 hhost)]
    exact .closed (.host hcancels hhost)
      fun hjams => ((jams_iff_of_cancels hcancels).1 hjams).1 hhost
  by_cases hrow : ∃ row : Nat,
      (context.viewWith highlighted).indices[row]? = some descriptor.cancelIndex
  · obtain ⟨row, hindex⟩ := hrow
    exact reacts_of_cancels_on_row h hcancels hhost hindex
  -- the target is hidden or no choice at all, and so it is on no row
  have htarget : ¬(descriptor.cancelIndex = -1 ∨ descriptor.cancelIndex = -2) := by
    rwa [← htarget_iff]
  have hnone : descriptor.cancelIndex ∉ context.backMapping :=
    fun hmem => hrow (List.mem_iff_getElem?.1 hmem)
  have hnotClosing : ¬IsClosing descriptor (context.viewWith highlighted) line := by
    rw [isClosing_iff_of_cancels hcancels]
    rintro (hmem | ⟨row, hindex, -⟩)
    · exact hhost hmem
    · exact hrow ⟨row, hindex⟩
  have hanswered : Answered settings descriptor (context.viewWith highlighted) line
      (refusalMessage settings.sound) :=
    .noTarget hcancels hhost fun row hindex => absurd ⟨row, hindex⟩ hrow
  have hjams : Jams descriptor line ↔ _ := jams_iff_of_cancels hcancels
  rw [value_react_cancel (Command.ofLine_of_cancels hcancels)]
  by_cases hposition :
      0 ≤ descriptor.cancelIndex ∧ descriptor.cancelIndex < descriptor.choices.length
  · rw [h.cancel_of_no_row htarget hnone hposition, Attempt.value_pure, reactionTo,
      ofEvent_rejected]
    exact .again hanswered hnotClosing (fun hj => (hjams.1 hj).2.1 hposition)
  · rw [h.cancel_of_not_found htarget (h.entryAt?_eq_none_iff.2 hposition),
      Attempt.value_noteOf_bind_pure]
    cases hlong : Text.isUnwritable descriptor.cancelIndex with
    | true => exact .jammed (hjams.2 ⟨hhost, hposition, hlong⟩) hnotClosing
    | false =>
      rw [if_neg Bool.false_ne_true, reactionTo, ofEvent_rejected]
      refine .again hanswered hnotClosing (fun hj => ?_)
      rw [(hjams.1 hj).2.2] at hlong
      cases hlong

variable (highlighted) in
/-- **What a line comes to**, whatever it is. -/
theorem reacts_react (h : Processed settings state descriptor context) (line : String) :
    Reacts settings descriptor (context.viewWith highlighted) ⟨settings, some context⟩ line
      (react ⟨settings, some context⟩ (context.viewWith highlighted) line).value := by
  by_cases hcancels : Cancels line
  · exact reacts_of_cancels h hcancels
  by_cases htyped : ∃ k, Typed (entered line) k
  · obtain ⟨k, htyped⟩ := htyped
    exact reacts_of_typed h htyped
  · have hnot : ∀ k, ¬Typed (entered line) k := fun k hk => htyped ⟨k, hk⟩
    have hreact : (react ⟨settings, some context⟩ (context.viewWith highlighted) line).value =
        (⟨settings, some context⟩, .ok (.again unclearMessage)) := by
      rw [react, Command.ofLine_of_unclear hcancels hnot]
      rfl
    rw [hreact]
    exact .again (.unclear hcancels hnot) (not_isClosing_of_unclear hcancels hnot)
      (not_jams_of_unclear hcancels hnot)

end GatedPrompt.Console
