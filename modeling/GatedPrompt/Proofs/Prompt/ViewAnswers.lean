import GatedPrompt.Proofs.Prompt.History

/-!
# What a view says about later answers

The view of a prompt is made once, when the prompt is opened; later inputs are answered from the
records behind it, which the host never sees. Yet the host can tell from the view alone how each
input will be answered, as long as the prompt is active. It has to reckon with numbers that are
found nowhere: their answer is reported with a numeral, and for one that is too long there is no
answer.

* `View.Foretells` — the answers that a view stands for;
* `foretells_of_openPrompt` — a run gives these answers whatever happened since the prompt was
  opened;
* `unanswered_row` — a row that is neither chosen, nor refused, nor ignored.

Confirming looks a record up by its row and cancelling by its index. Both look-ups agree with the
rows of the view because the records are those of `Processed` contexts.
-/

namespace GatedPrompt.Prompt

/-- A view stands for the answers of a run in which its prompt is active: the settings give the
sound of a refusal and the descriptor the cancel target. -/
structure View.Foretells (view : View) (settings : Settings) (descriptor : Descriptor)
    (run : Run) : Prop where
  /-- Every row stands for a choice. -/
  length_indices : view.indices.length = view.rowCount
  /-- Confirming makes the choice of the row, on the rows that are not disabled. -/
  committed_iff : ∀ (row : Int) index, run.answer (.confirm row) = .ok (.event (.committed index)) ↔
    (0 ≤ row ∧ row < view.rowCount ∧ row ∉ view.disabledRows) ∧
      view.indices[row.toNat]? = some index
  /-- Confirming is refused on the disabled rows. -/
  rejected_iff : ∀ row sound, run.answer (.confirm row) = .ok (.event (.rejected sound)) ↔
    row ∈ view.disabledRows ∧ sound = settings.sound
  /-- Confirming anything else is ignored, unless the row is too long to be reported. -/
  ignored_otherwise : ∀ row : Int,
    ¬(0 ≤ row ∧ row < view.rowCount ∧ row ∉ view.disabledRows) → row ∉ view.disabledRows →
    run.answer (.confirm row) =
      if Text.isUnwritable row then .error (.oversized .integer) else .ok (.event (.ignored row))
  cancel_host : descriptor.cancelIndex = -1 ∨ descriptor.cancelIndex = -2 →
    run.answer .cancel = .ok (.event (.hostCancel descriptor.cancelIndex))
  /-- Cancelling is as good as confirming the row of the cancel target. -/
  cancel_on_row : ¬(descriptor.cancelIndex = -1 ∨ descriptor.cancelIndex = -2) → ∀ k : Nat,
    view.indices[k]? = some descriptor.cancelIndex → run.answer .cancel = run.answer (.confirm k)
  /-- A choice that is on no row is hidden, and cancelling with it is refused. -/
  cancel_hidden : ¬(descriptor.cancelIndex = -1 ∨ descriptor.cancelIndex = -2) →
    descriptor.cancelIndex ∉ view.indices →
    0 ≤ descriptor.cancelIndex ∧ descriptor.cancelIndex < descriptor.choices.length →
    run.answer .cancel = .ok (.event (.rejected settings.sound)) ∧
      ∀ notice ∈ (run.step .cancel).notices, notice.level ≠ .error
  /-- So is cancelling with what is no choice, and an error is noted, unless the number is too long
  for that. -/
  cancel_unfound : ¬(descriptor.cancelIndex = -1 ∨ descriptor.cancelIndex = -2) →
    ¬(0 ≤ descriptor.cancelIndex ∧ descriptor.cancelIndex < descriptor.choices.length) →
    (run.answer .cancel =
      if Text.isUnwritable descriptor.cancelIndex then .error (.oversized .integer)
      else .ok (.event (.rejected settings.sound))) ∧
      ((∃ notice ∈ (run.step .cancel).notices, notice.level = .error) ↔
        Text.isUnwritable descriptor.cancelIndex = false)

/-! ## Answers in a processed context -/

namespace Processed

variable {settings : Settings} {state : Game.State} {descriptor : Descriptor} {context : Context}

theorem mem_disabledRows_of_getElem? (h : Processed settings state descriptor context) {n : Nat}
    {entry : Entry} (hentry : context.visible[n]? = some entry) :
    (n : Int) ∈ context.disabledRows ↔ entry.disabled = true := by
  rw [h.mem_disabledRows_iff, Int.toNat_natCast, hentry]
  simp

/-- The disabled rows are rows of the menu. -/
theorem mem_disabledRows_bounds (h : Processed settings state descriptor context) {row : Int}
    (hrow : row ∈ context.disabledRows) : 0 ≤ row ∧ row < context.visible.length := by
  obtain ⟨hpos, entry, hentry, -⟩ := h.mem_disabledRows_iff.1 hrow
  have hlt := (List.getElem?_eq_some_iff.1 hentry).1
  omega

/-- What is on a row is a choice of the prompt. -/
theorem bounds_of_mem_backMapping (h : Processed settings state descriptor context) {index : Int}
    (hindex : index ∈ context.backMapping) : 0 ≤ index ∧ index < descriptor.choices.length := by
  obtain ⟨entry, hentry, rfl⟩ := List.mem_map.1 hindex
  by_contra hposition
  rw [← h.entryAt?_eq_none_iff, h.entryAt?_of_mem (List.mem_filter.1 hentry).1] at hposition
  cases hposition

/-- A row is confirmed through the visible record at that position, if there is one. -/
theorem confirm_cases (h : Processed settings state descriptor context) (row : Int) :
    (∃ (n : Nat) (entry : Entry), row = n ∧ context.visible[n]? = some entry ∧
        (context.confirm settings row).value =
          .ok (if entry.disabled then .rejected settings.sound else .committed entry.index)) ∨
      (¬(0 ≤ row ∧ row < context.visible.length) ∧
        (context.confirm settings row).value =
          if Text.isUnwritable row then .error .integer else .ok (.ignored row)) := by
  have hfound := h.entryOnRow?_eq row
  -- the records are looked through for the row, but the visible ones stand in the order of the rows
  by_cases hrow : 0 ≤ row ∧ row < context.visible.length
  · refine .inl ⟨row.toNat, context.visible[row.toNat], by omega, List.getElem?_eq_getElem _, ?_⟩
    rw [if_pos hrow.1, List.getElem?_eq_getElem] at hfound
    rw [Context.confirm_of_some hfound, Attempt.value_pure]
  · refine .inr ⟨hrow, ?_⟩
    have hnone : context.entryOnRow? row = none := by
      rw [hfound]
      by_cases hneg : 0 ≤ row
      · rw [if_pos hneg, List.getElem?_eq_none_iff]
        omega
      · rw [if_neg hneg]
    rw [Context.confirm_of_none hnone, Attempt.value_noteOf_bind_pure]

theorem cancel_of_target (h : Processed settings state descriptor context)
    (htarget : descriptor.cancelIndex = -1 ∨ descriptor.cancelIndex = -2) :
    context.cancel settings = pure (.hostCancel descriptor.cancelIndex) := by
  have hhost : context.descriptor.cancelIndex ∈ hostCancelTypes := by
    simpa [hostCancelTypes, h.descriptor_eq] using htarget
  rw [Context.cancel_of_host hhost, h.descriptor_eq]

theorem cancel_of_found (h : Processed settings state descriptor context)
    (htarget : ¬(descriptor.cancelIndex = -1 ∨ descriptor.cancelIndex = -2)) {entry : Entry}
    (hfound : context.entryAt? descriptor.cancelIndex = some entry) :
    context.cancel settings =
      pure (if entry.hidden ∨ entry.disabled then .rejected settings.sound
        else .committed entry.index) := by
  have hnot : context.descriptor.cancelIndex ∉ hostCancelTypes := by
    simpa [hostCancelTypes, h.descriptor_eq] using htarget
  exact Context.cancel_of_some hnot (by rwa [h.descriptor_eq])

theorem cancel_of_not_found (h : Processed settings state descriptor context)
    (htarget : ¬(descriptor.cancelIndex = -1 ∨ descriptor.cancelIndex = -2))
    (hfound : context.entryAt? descriptor.cancelIndex = none) :
    context.cancel settings =
      (do Attempt.noteOf descriptor.cancelIndex .cancelNotFound
          pure (.rejected settings.sound)) := by
  have hnot : context.descriptor.cancelIndex ∉ hostCancelTypes := by
    simpa [hostCancelTypes, h.descriptor_eq] using htarget
  rw [Context.cancel_of_none hnot (by rwa [h.descriptor_eq]), h.descriptor_eq]

end Processed

/-- Whether an input names a number that is found nowhere and is too long to be reported. -/
def Jams (descriptor : Descriptor) (rowCount : Nat) : Request → Prop
  | .confirm row => ¬(0 ≤ row ∧ row < rowCount) ∧ Text.isUnwritable row = true
  | .cancel => ¬(descriptor.cancelIndex = -1 ∨ descriptor.cancelIndex = -2) ∧
      ¬(0 ≤ descriptor.cancelIndex ∧ descriptor.cancelIndex < descriptor.choices.length) ∧
      Text.isUnwritable descriptor.cancelIndex = true
  | _ => False

/-- Nothing else keeps an input from being answered. -/
theorem Processed.outcome_eq_error_iff {settings : Settings} {state : Game.State}
    {descriptor : Descriptor} {context : Context}
    (h : Processed settings state descriptor context) {request : Request}
    {outcome : Except Text.Oversized Event}
    (houtcome : Outcome settings context request outcome) (fault : Text.Oversized) :
    outcome = .error fault ↔
      Jams descriptor context.visible.length request ∧ fault = .integer := by
  cases houtcome with
  | confirm row =>
    rcases h.confirm_cases row with ⟨n, entry, rfl, hentry, hvalue⟩ | ⟨hrow, hvalue⟩
    · have hlt := (List.getElem?_eq_some_iff.1 hentry).1
      simp [hvalue, Jams, hlt]
    · cases hlong : Text.isUnwritable row <;> simp [hvalue, Jams, hrow, hlong, eq_comm]
  | cancel =>
    by_cases htarget : descriptor.cancelIndex = -1 ∨ descriptor.cancelIndex = -2
    · rw [h.cancel_of_target htarget]
      constructor
      · intro hvalue
        cases hvalue
      · rintro ⟨⟨hnot, -⟩, -⟩
        exact absurd htarget hnot
    · cases hfound : context.entryAt? descriptor.cancelIndex with
      | none =>
        have hposition := h.entryAt?_eq_none_iff.1 hfound
        rw [h.cancel_of_not_found htarget hfound, Attempt.value_noteOf_bind_pure]
        constructor
        · intro hvalue
          split at hvalue
          · next hlong => exact ⟨⟨htarget, hposition, hlong⟩, (Except.error.inj hvalue).symm⟩
          · cases hvalue
        · rintro ⟨⟨-, -, hlong⟩, rfl⟩
          rw [if_pos hlong]
      | some entry =>
        -- a target that is found is answered without a word on its number
        rw [h.cancel_of_found htarget hfound]
        constructor
        · intro hvalue
          cases hvalue
        · rintro ⟨⟨-, hposition, -⟩, -⟩
          rw [h.entryAt?_eq_none_iff.2 hposition] at hfound
          cases hfound

/-! ## Answers of a run -/

namespace Run

variable {run : Run} {context : Context}

theorem answer_confirm (hactive : run.session.context = some context) (row : Int) :
    run.answer (.confirm row) =
      ((context.confirm run.session.settings row).value.map .event).mapError .oversized := by
  simp only [answer, step, Session.confirm, Logged.value_bind, Logged.value_pure,
    value_respond hactive]
  cases (context.confirm run.session.settings row).value <;> rfl

theorem answer_cancel (hactive : run.session.context = some context) :
    run.answer .cancel =
      ((context.cancel run.session.settings).value.map .event).mapError .oversized := by
  simp only [answer, step, Session.cancel, Logged.value_bind, Logged.value_pure,
    value_respond hactive]
  cases (context.cancel run.session.settings).value <;> rfl

theorem notices_cancel (hactive : run.session.context = some context) :
    (run.step .cancel).notices = (context.cancel run.session.settings).notices := by
  rw [step, Session.cancel, Logged.notices_bind, notices_respond hactive]
  exact List.append_nil _

/-- Opening a prompt with a view makes the prompt active from which the view was drawn. -/
theorem processed_of_view {descriptor : Descriptor} {view : View}
    (hopen : run.answer (.openPrompt descriptor) = .ok (.view (some view))) :
    ∃ context, (run.next (.openPrompt descriptor)).session.context = some context ∧
      Processed run.session.settings run.state descriptor context ∧
      (context.view run.session.settings).value = .ok view := by
  have h := run.transition (.openPrompt descriptor)
  rw [hopen] at h
  generalize run.next (.openPrompt descriptor) = next at h ⊢
  cases h with
  | shown processed drawn => exact ⟨_, rfl, processed, drawn⟩
  | notShown answered => simp at answered

end Run

/-! ## The answers a view stands for -/

section

variable {settings : Settings} {state : Game.State} {descriptor : Descriptor} {context : Context}

/-- The answers to confirming, by whether the row is one of the view and whether it is disabled. -/
theorem Processed.value_confirm_iff (h : Processed settings state descriptor context)
    (highlighted : Option Int) (row : Int) :
    let view := context.viewWith highlighted
    let event := (context.confirm settings row).value
    (∀ index, event = .ok (.committed index) ↔
      (0 ≤ row ∧ row < view.rowCount ∧ row ∉ view.disabledRows) ∧
        view.indices[row.toNat]? = some index) ∧
    (∀ sound, event = .ok (.rejected sound) ↔
      row ∈ view.disabledRows ∧ sound = settings.sound) ∧
    (¬(0 ≤ row ∧ row < view.rowCount ∧ row ∉ view.disabledRows) → row ∉ view.disabledRows →
      event = if Text.isUnwritable row then .error .integer else .ok (.ignored row)) := by
  intro view event
  have hcount : view.rowCount = context.visible.length := List.length_map _
  have hdisabledRows : view.disabledRows = context.disabledRows := rfl
  have hindices : view.indices = context.visible.map Entry.index := rfl
  rw [hcount, hdisabledRows, hindices]
  -- on a row of the menu the record decides, and on any other one the length of its number
  rcases h.confirm_cases row with ⟨n, entry, rfl, hentry, hvalue⟩ | ⟨hrow, hvalue⟩
  · have hlt : n < context.visible.length := (List.getElem?_eq_some_iff.1 hentry).1
    rw [show event = _ from hvalue, h.mem_disabledRows_of_getElem? hentry, Int.toNat_natCast,
      List.getElem?_map, hentry]
    cases entry.disabled with
    | true =>
      refine ⟨by simp, fun sound => ?_, fun _ hnot => absurd rfl hnot⟩
      simpa using eq_comm
    | false => simp [hlt]
  · have hmem : row ∉ context.disabledRows := fun hmem => hrow (h.mem_disabledRows_bounds hmem)
    rw [show event = _ from hvalue]
    refine ⟨fun index => ?_, fun sound => ?_, fun _ _ => rfl⟩
    · have hout : ¬(0 ≤ row ∧ row < context.visible.length ∧ row ∉ context.disabledRows) :=
        fun hin => hrow ⟨hin.1, hin.2.1⟩
      cases Text.isUnwritable row <;> simp [hout]
    · cases Text.isUnwritable row <;> simp [hmem]

/-- Cancelling is as good as confirming the row on which the cancel target stands. -/
theorem Processed.value_cancel_of_row (h : Processed settings state descriptor context)
    (htarget : ¬(descriptor.cancelIndex = -1 ∨ descriptor.cancelIndex = -2)) {k : Nat}
    (hk : context.backMapping[k]? = some descriptor.cancelIndex) :
    (context.cancel settings).value = (context.confirm settings k).value := by
  rw [Context.backMapping, List.getElem?_map] at hk
  obtain ⟨entry, hentry, hindex⟩ := Option.map_eq_some_iff.1 hk
  obtain ⟨hmem, hvisible⟩ := List.mem_filter.1 (List.mem_of_getElem? hentry)
  have hhidden : entry.hidden = false := by
    rw [h.isVisible_eq hmem] at hvisible
    simpa using hvisible
  have hfound := h.entryAt?_of_mem hmem
  rw [hindex] at hfound
  rw [h.cancel_of_found htarget hfound, Attempt.value_pure]
  rcases h.confirm_cases k with ⟨n, other, hn, hother, hvalue⟩ | ⟨hrow, -⟩
  · -- both look-ups end at the same record
    obtain rfl : k = n := by omega
    obtain rfl : entry = other := Option.some.inj (hentry.symm.trans hother)
    rw [hvalue]
    simp [hhidden]
  · have hlt := (List.getElem?_eq_some_iff.1 hentry).1
    exact absurd ⟨by omega, by omega⟩ hrow

/-- Cancelling with a choice that is on no row is refused, and nothing is noted. -/
theorem Processed.cancel_of_no_row (h : Processed settings state descriptor context)
    (htarget : ¬(descriptor.cancelIndex = -1 ∨ descriptor.cancelIndex = -2))
    (hrow : descriptor.cancelIndex ∉ context.backMapping)
    (hposition : 0 ≤ descriptor.cancelIndex ∧ descriptor.cancelIndex < descriptor.choices.length) :
    context.cancel settings = pure (.rejected settings.sound) := by
  cases hfound : context.entryAt? descriptor.cancelIndex with
  | none => exact absurd hposition (h.entryAt?_eq_none_iff.1 hfound)
  | some entry =>
    have hmem := List.mem_of_find?_eq_some hfound
    have hindex : entry.index = descriptor.cancelIndex := by
      simpa using List.find?_some hfound
    -- A record that is not hidden would put its index on a row.
    have hhidden : entry.hidden = true := by
      by_contra hshown
      have hvisible : entry.isVisible = true := by
        rw [h.isVisible_eq hmem]
        simpa using hshown
      exact hrow (List.mem_map.2 ⟨entry, List.mem_filter.2 ⟨hmem, hvisible⟩, hindex⟩)
    rw [h.cancel_of_found htarget hfound, if_pos (.inl hhidden)]

/-- A run in which a context is active gives the answers that its view stands for. -/
theorem Processed.foretells (h : Processed settings state descriptor context) {run : Run}
    (hactive : run.session.context = some context) (hsettings : run.session.settings = settings)
    (highlighted : Option Int) :
    (context.viewWith highlighted).Foretells settings descriptor run := by
  subst hsettings
  refine ⟨?_, ?_, ?_, ?_, ?_, ?_, ?_, ?_⟩
  · rw [View.rowCount]
    exact (List.length_map _).trans (List.length_map _).symm
  · intro row index
    rw [Run.answer_confirm hactive, ← (h.value_confirm_iff highlighted row).1,
      mapError_map_eq_ok_iff]
    simp
  · intro row sound
    rw [Run.answer_confirm hactive, ← (h.value_confirm_iff highlighted row).2.1,
      mapError_map_eq_ok_iff]
    simp
  · intro row hrow hdisabled
    rw [Run.answer_confirm hactive, (h.value_confirm_iff highlighted row).2.2 hrow hdisabled]
    cases Text.isUnwritable row <;> rfl
  · intro htarget
    rw [Run.answer_cancel hactive, h.cancel_of_target htarget]
    rfl
  · intro htarget k hk
    rw [Run.answer_cancel hactive, Run.answer_confirm hactive, h.value_cancel_of_row htarget hk]
  · intro htarget hrow hposition
    rw [Run.answer_cancel hactive, Run.notices_cancel hactive,
      h.cancel_of_no_row htarget hrow hposition]
    exact ⟨rfl, by simp⟩
  · intro htarget hposition
    rw [Run.answer_cancel hactive, Run.notices_cancel hactive,
      h.cancel_of_not_found htarget (h.entryAt?_eq_none_iff.2 hposition),
      Attempt.value_noteOf_bind_pure, Attempt.notices_noteOf_bind_pure]
    cases Text.isUnwritable descriptor.cancelIndex <;>
      simp [Notice.level, Except.map, Except.mapError]

end

/-- **The view of a prompt determines every later answer.** Whatever was asked before the prompt was
opened, and whatever was asked and happened in the game since: as long as the prompt is active, the
run gives the answers that the view stands for. -/
theorem foretells_of_openPrompt {settings : Settings} {state : Game.State}
    {before later : List Request} {descriptor : Descriptor} {view : View}
    (hopen : ((Run.start settings state).after before).answer (.openPrompt descriptor) =
      .ok (.view (some view)))
    (hlater : NoOpening later)
    (hactive : ((Run.start settings state).after
      (before ++ .openPrompt descriptor :: later)).session.isActive = true) :
    view.Foretells settings descriptor
      ((Run.start settings state).after (before ++ .openPrompt descriptor :: later)) := by
  have hsettings := Run.settings_after (Run.start settings state)
    (before ++ .openPrompt descriptor :: later)
  have hbefore := Run.settings_after (Run.start settings state) before
  rw [Run.after_append, Run.after_cons] at hactive hsettings ⊢
  obtain ⟨context, hopened, h, hview⟩ := Run.processed_of_view hopen
  rw [hbefore] at h
  obtain ⟨highlighted, rfl⟩ := Context.viewWith_of_view hview
  -- The context of the view is still the one that answers.
  obtain ⟨active, hcontext⟩ := Option.isSome_iff_exists.1 hactive
  obtain rfl : active = context :=
    Option.some.inj ((Run.context_of_noOpening hlater hcontext).symm.trans hopened)
  exact h.foretells hcontext hsettings highlighted

/-- A prompt of three choices that is opened in place of another one. The first choice is disabled
and the last one, the cancel target, is hidden; a switch is set and two rows are confirmed since. -/
theorem foretells_after_changes :
    let settings : Settings := {}
    let state : Game.State := { gold := 5 }
    let before : List Request := [.openPrompt ⟨["Stay"], -1, -1⟩]
    let descriptor : Descriptor := ⟨["<<[g>3]>>Buy", "Leave", "(([!s[1]]))Steal"], 0, 2⟩
    let later : List Request := [.confirm 0, .change (.switch 1 true), .confirm (-1)]
    let view : View := ⟨["\\C[7]Buy", "Leave"], [0, 1], some 0, [0]⟩
    ((Run.start settings state).after before).answer (.openPrompt descriptor) =
        .ok (.view (some view)) ∧
      NoOpening later ∧
      ((Run.start settings state).after
        (before ++ .openPrompt descriptor :: later)).session.isActive = true ∧
      view.Foretells settings descriptor
        ((Run.start settings state).after (before ++ .openPrompt descriptor :: later)) := by
  intro settings state before descriptor later view
  have hopen : ((Run.start settings state).after before).answer (.openPrompt descriptor) =
      .ok (.view (some view)) := by decide +kernel
  have hlater : NoOpening later := by simp [NoOpening, later]
  have hactive : ((Run.start settings state).after
      (before ++ .openPrompt descriptor :: later)).session.isActive = true := by decide +kernel
  exact ⟨hopen, hlater, hactive, foretells_of_openPrompt hopen hlater hactive⟩

/-- **A row may be left without an answer.** It is not a row of the menu of one choice, and too long
to be reported. -/
theorem unanswered_row :
    ¬∀ (settings : Settings) (state : Game.State) (descriptor : Descriptor) (view : View)
        (row : Int),
      let run := Run.start settings state
      run.answer (.openPrompt descriptor) = .ok (.view (some view)) →
      ¬(0 ≤ row ∧ row < view.rowCount ∧ row ∉ view.disabledRows) → row ∉ view.disabledRows →
      (run.next (.openPrompt descriptor)).answer (.confirm row) = .ok (.event (.ignored row)) := by
  intro h
  have hanswer : ((Run.start {} {}).next (.openPrompt ⟨["Buy"], -1, -1⟩)).answer
      (.confirm (-Text.leastUnwritable)) = .error (.oversized .integer) := by
    decide +kernel
  have hignored := h {} {} ⟨["Buy"], -1, -1⟩ ⟨["Buy"], [0], none, []⟩ (-Text.leastUnwritable)
    (by decide +kernel) (by decide +kernel) (by decide +kernel)
  rw [hanswer] at hignored
  cases hignored

end GatedPrompt.Prompt
