import GatedPrompt.Proofs.Prompt.Commit
import GatedPrompt.Proofs.Prompt.Rows
import GatedPrompt.Proofs.Prompt.ViewAnswers

/-!
# Which prompts a player can close

A prompt whose choices are all hidden or disabled is a trap: nothing that the player does ends it,
and no change of the game does either, since the game is read once. Unless cancelling is left to the
host, such a prompt stays until it is closed from outside. What the player does is rejected or
ignored, if it can be reported at all.

* `Closable` — some choice was available when the prompt was opened, or cancelling is left to the
  host;
* `IsPlay` — what can happen while a prompt is shown: inputs of the player and changes of the game;
* `Locked` — the prompt of a context is active in a run and is not closable, which every such
  request keeps (`Locked.next`, `Locked.after`);
* `closing_of_openPrompt` — inputs can end a prompt exactly if it is closable;
* `locked_without_event` — an input that a locked prompt neither rejects nor ignores.
-/

namespace GatedPrompt.Prompt

/-- Some choice is neither hidden nor disabled in a state of the game, or cancelling is left to the
host. -/
def Closable (settings : Settings) (state : Game.State) (descriptor : Descriptor) : Prop :=
  (∃ text ∈ descriptor.choices, ∃ label, (evaluateChoice settings state text).value =
    .ok (label, { disabled := false, hidden := false })) ∨
  (descriptor.cancelIndex = -1 ∨ descriptor.cancelIndex = -2)

/-- What can happen while a prompt is shown. -/
inductive IsPlay : Request → Prop where
  | input {request : Request} (input : IsInput request) : IsPlay request
  | change (change : Game.Change) : IsPlay (.change change)

/-- What is promised of a prompt from its opening on, where `opened` is the run behind that and
`rowCount` the number of rows of its view. -/
structure Closing (settings : Settings) (state : Game.State) (descriptor : Descriptor)
    (rowCount : Nat) (opened : Run) : Prop where
  active : opened.session.isActive = true
  closes_iff : (∃ inputs, (∀ request ∈ inputs, IsInput request) ∧
      (opened.after inputs).session.isActive = false) ↔ Closable settings state descriptor
  /-- If the prompt is not closable, its session stays as it is, and every input is rejected or
  ignored, but for those that cannot be reported. -/
  locked : ¬Closable settings state descriptor →
    ∀ requests, (∀ request ∈ requests, IsPlay request) →
      (opened.after requests).session = opened.session ∧
      ∀ before request later, requests = before ++ request :: later → IsInput request →
        (Jams descriptor rowCount request →
          (opened.after before).answer request = .error (.oversized .integer)) ∧
        (¬Jams descriptor rowCount request →
          (∃ sound, (opened.after before).answer request = .ok (.event (.rejected sound))) ∨
          ∃ row, (opened.after before).answer request = .ok (.event (.ignored row)))

variable {settings : Settings} {state : Game.State} {descriptor : Descriptor} {context : Context}

/-! ## Closable prompts can be closed -/

theorem Event.rejected_or_ignored {event : Event} (h : event.closes = false) :
    (∃ sound, event = .rejected sound) ∨ ∃ row, event = .ignored row := by
  cases event with
  | committed index => cases h
  | hostCancel cancelType => cases h
  | rejected sound => exact .inl ⟨sound, rfl⟩
  | ignored row => exact .inr ⟨row, rfl⟩

/-- An event that ends the prompt leaves the session without one. -/
theorem Run.isActive_next_of_closes {run : Run} {request : Request} {event : Event}
    (hanswer : run.answer request = .ok (.event event)) (hcloses : event.closes = true) :
    (run.next request).session.isActive = false := by
  rw [(Run.outcome_of_event hanswer).1]
  exact Session.isActive_after_of_closes _ hcloses

/-- A choice that is available has a row, and confirming the row makes it. -/
theorem Processed.exists_committed (h : Processed settings state descriptor context)
    {text label : Text} (htext : text ∈ descriptor.choices)
    (hevaluated : (evaluateChoice settings state text).value =
      .ok (label, { disabled := false, hidden := false })) :
    ∃ row index, (context.confirm settings row).value = .ok (.committed index) := by
  obtain ⟨i, hi⟩ := List.mem_iff_getElem?.1 htext
  obtain ⟨entry, label', hentry, -, hevaluated', -⟩ := h.records.exists_of_getElem? hi
  rw [hevaluated] at hevaluated'
  obtain ⟨-, hdisabled, hhidden⟩ : label = label' ∧ false = entry.disabled ∧
      false = entry.hidden := by simpa using hevaluated'
  have hmem : entry ∈ context.entries := List.mem_of_getElem? hentry
  obtain ⟨row, hrow⟩ : ∃ row, entry.row = some row := by
    rw [← Option.ne_none_iff_exists', ne_eq, h.row_eq_none_iff hmem, ← hhidden]
    simp
  have hfound : context.entryOnRow? row = some entry := h.entryOnRow?_of_row hmem hrow
  refine ⟨row, entry.index, ?_⟩
  rw [Context.confirm_of_some hfound, Attempt.value_pure, ← hdisabled]
  rfl

/-- One input is enough to end a closable prompt. -/
theorem Processed.exists_closing_input (h : Processed settings state descriptor context)
    (hclosable : Closable settings state descriptor) {run : Run}
    (hactive : run.session.context = some context) (hsettings : run.session.settings = settings) :
    ∃ request, IsInput request ∧ (run.next request).session.isActive = false := by
  subst hsettings
  rcases hclosable with ⟨text, htext, label, hevaluated⟩ | hhost
  · obtain ⟨row, index, hcommitted⟩ := h.exists_committed htext hevaluated
    have hanswer : run.answer (.confirm row) = .ok (.event (.committed index)) := by
      rw [Run.answer_confirm hactive, hcommitted]
      rfl
    exact ⟨.confirm row, .confirm row, Run.isActive_next_of_closes hanswer rfl⟩
  · have hanswer : run.answer .cancel =
        .ok (.event (.hostCancel descriptor.cancelIndex)) := by
      rw [Run.answer_cancel hactive, h.cancel_of_target hhost]
      rfl
    exact ⟨.cancel, .cancel, Run.isActive_next_of_closes hanswer rfl⟩

/-! ## Other prompts stay -/

/-- Cancelling is left to the host only for the two targets that say so. -/
theorem Processed.host_of_hostCancel (h : Processed settings state descriptor context)
    {request : Request} {cancelType : Int}
    (houtcome : Outcome settings context request (.ok (.hostCancel cancelType))) :
    descriptor.cancelIndex = -1 ∨ descriptor.cancelIndex = -2 := by
  generalize hevent : Except.ok (Event.hostCancel cancelType) = event at houtcome
  cases houtcome with
  | confirm row =>
    rcases h.confirm_cases row with ⟨n, entry, -, -, hvalue⟩ | ⟨-, hvalue⟩
    · rw [hvalue] at hevent
      split at hevent <;> cases hevent
    · rw [hvalue] at hevent
      split at hevent <;> cases hevent
  | cancel =>
    by_contra hnot
    -- with any other target a record is looked up, and no answer is left to the host
    cases hfound : context.entryAt? descriptor.cancelIndex with
    | none =>
      rw [h.cancel_of_not_found hnot hfound, Attempt.value_noteOf_bind_pure] at hevent
      split at hevent <;> cases hevent
    | some entry =>
      rw [h.cancel_of_found hnot hfound, Attempt.value_pure] at hevent
      split at hevent <;> cases hevent

/-- No input ends a prompt that is not closable. -/
theorem Processed.not_closes (h : Processed settings state descriptor context)
    (hclosable : ¬Closable settings state descriptor) {request : Request} {event : Event}
    (houtcome : Outcome settings context request (.ok event)) : event.closes = false := by
  cases event with
  | committed index =>
    obtain ⟨-, -, text, label, htext, hevaluated⟩ := h.available_of_committed houtcome
    exact absurd (.inl ⟨text, List.mem_of_getElem? htext, label, hevaluated⟩) hclosable
  | hostCancel cancelType => exact absurd (.inr (h.host_of_hostCancel houtcome)) hclosable
  | rejected sound => rfl
  | ignored row => rfl

/-- A prompt that is not closable is active in a run. The state of the run may be any: the one that
counts is the one that the prompt was processed in. -/
structure Locked (settings : Settings) (state : Game.State) (descriptor : Descriptor)
    (run : Run) : Prop where
  not_closable : ¬Closable settings state descriptor
  settings_eq : run.session.settings = settings
  processed : ∃ context, run.session.context = some context ∧
    Processed settings state descriptor context

namespace Locked

variable {run : Run} {request : Request}

theorem of_session_eq (h : Locked settings state descriptor run) {next : Run}
    (hsession : next.session = run.session) : Locked settings state descriptor next :=
  ⟨h.not_closable, by rw [hsession, h.settings_eq], by rw [hsession]; exact h.processed⟩

/-- One step of play leaves the session as it is. -/
theorem session_next (h : Locked settings state descriptor run) (hplay : IsPlay request) :
    (run.next request).session = run.session := by
  obtain ⟨context, hactive, hprocessed⟩ := h.processed
  have htransition := run.transition request
  generalize run.next request = next at htransition ⊢
  generalize run.answer request = answer at htransition
  cases htransition with
  | shown processed _ => cases hplay with | input input => cases input
  | notDrawn processed _ => cases hplay with | input input => cases input
  | notShown answered => cases hplay with | input input => cases input
  | closed => cases hplay with | input input => cases input
  | @answered _ active event hcontext outcome =>
    obtain rfl : active = context := Option.some.inj (hcontext.symm.trans hactive)
    rw [h.settings_eq] at outcome
    exact Session.after_of_not_closes _ (hprocessed.not_closes h.not_closable outcome)
  | jammed _ _ => rfl
  | refused _ _ => rfl
  | changed => rfl

theorem next (h : Locked settings state descriptor run) (hplay : IsPlay request) :
    Locked settings state descriptor (run.next request) :=
  h.of_session_eq (h.session_next hplay)

/-- **No play unlocks the prompt.** -/
theorem session_after (h : Locked settings state descriptor run) {requests : List Request}
    (hplay : ∀ request ∈ requests, IsPlay request) :
    (run.after requests).session = run.session := by
  -- the state of the game moves on, so the induction is over all locked runs
  induction requests generalizing run with
  | nil => rfl
  | cons request requests ih =>
    have hrequest : IsPlay request := hplay request List.mem_cons_self
    have hrest : ∀ other ∈ requests, IsPlay other :=
      fun other hmem => hplay other (List.mem_cons_of_mem request hmem)
    rw [Run.after_cons, ih (h.next hrequest) hrest, h.session_next hrequest]

/-- Every input that can be reported is answered, by a rejection or by nothing. -/
theorem answer_input (h : Locked settings state descriptor run)
    (hactive : run.session.context = some context) (hinput : IsInput request) :
    (Jams descriptor context.visible.length request →
      run.answer request = .error (.oversized .integer)) ∧
    (¬Jams descriptor context.visible.length request →
      (∃ sound, run.answer request = .ok (.event (.rejected sound))) ∨
        ∃ row, run.answer request = .ok (.event (.ignored row))) := by
  obtain ⟨processedContext, hprocessedActive, hprocessed⟩ := h.processed
  obtain rfl : processedContext = context :=
    Option.some.inj (hprocessedActive.symm.trans hactive)
  obtain ⟨outcome, hanswer, houtcome⟩ : ∃ outcome,
      run.answer request = (outcome.map .event).mapError .oversized ∧
        Outcome settings processedContext request outcome := by
    rw [← h.settings_eq]
    cases hinput with
    | confirm row => exact ⟨_, Run.answer_confirm hactive row, .confirm row⟩
    | cancel => exact ⟨_, Run.answer_cancel hactive, .cancel⟩
  have hjams := hprocessed.outcome_eq_error_iff houtcome
  rw [hanswer]
  cases outcome with
  | error fault =>
    obtain ⟨hjam, rfl⟩ := (hjams fault).1 rfl
    exact ⟨fun _ => rfl, fun hnot => absurd hjam hnot⟩
  | ok event =>
    refine ⟨fun hjam => ?_, fun _ => ?_⟩
    · cases (hjams .integer).2 ⟨hjam, rfl⟩
    · rcases Event.rejected_or_ignored (hprocessed.not_closes h.not_closable houtcome) with
        ⟨sound, rfl⟩ | ⟨row, rfl⟩
      · exact .inl ⟨sound, rfl⟩
      · exact .inr ⟨row, rfl⟩

end Locked

/-! ## All that is promised -/

/-- **Which prompts can be closed from inside.** Whatever was asked of a session before a prompt was
opened: inputs can end the prompt exactly if a choice was available at its opening or cancelling is
left to the host. Any other prompt stays active, with the same records, whatever the player does and
however the game goes on; what the player does is rejected or ignored, or cannot be reported. -/
theorem closing_of_openPrompt {run : Run} {descriptor : Descriptor} {view : View}
    (hopen : run.answer (.openPrompt descriptor) = .ok (.view (some view))) :
    Closing run.session.settings run.state descriptor view.rowCount
      (run.next (.openPrompt descriptor)) := by
  obtain ⟨context, hactive, hprocessed, hview⟩ := Run.processed_of_view hopen
  obtain ⟨highlighted, rfl⟩ := Context.viewWith_of_view hview
  have hrowCount : (context.viewWith highlighted).rowCount = context.visible.length :=
    List.length_map _
  have hsettings := (run.transition (.openPrompt descriptor)).settings_eq
  set opened := run.next (.openPrompt descriptor) with hopened
  have hlocked : ¬Closable run.session.settings run.state descriptor →
      Locked run.session.settings run.state descriptor opened :=
    fun hclosable => ⟨hclosable, hsettings, context, hactive, hprocessed⟩
  have hisActive : opened.session.isActive = true := by
    rw [Session.isActive, hactive]
    rfl
  refine ⟨hisActive, ⟨?_, ?_⟩, ?_⟩
  · -- inputs are play, and no play ends a locked prompt
    rintro ⟨inputs, hinputs, hended⟩
    by_contra hclosable
    have hplay : ∀ request ∈ inputs, IsPlay request :=
      fun request hmem => .input (hinputs request hmem)
    rw [(hlocked hclosable).session_after hplay, hisActive] at hended
    cases hended
  · intro hclosable
    obtain ⟨request, hinput, hended⟩ :=
      hprocessed.exists_closing_input hclosable hactive hsettings
    refine ⟨[request], ?_, hended⟩
    intro other hmem
    obtain rfl := List.mem_singleton.1 hmem
    exact hinput
  · intro hclosable requests hplay
    refine ⟨(hlocked hclosable).session_after hplay, ?_⟩
    rintro before request later rfl hinput
    have hbefore : ∀ other ∈ before, IsPlay other :=
      fun other hmem => hplay other (List.mem_append_left _ hmem)
    have hsession := (hlocked hclosable).session_after hbefore
    -- the game may have gone on, but the input is answered by the session, which is still the same
    rw [hrowCount]
    exact ((hlocked hclosable).of_session_eq hsession).answer_input (hsession ▸ hactive) hinput

/-- The one visible choice is disabled, and the cancel target is hidden. -/
theorem closing_locked :
    let descriptor : Descriptor := ⟨["<<[g>3]>>Buy", "(([!s[1]]))Leave"], 0, 1⟩
    let run : Run := Run.start {} { gold := 5 }
    let view : View := ⟨["\\C[7]Buy"], [0], some 0, [0]⟩
    run.answer (.openPrompt descriptor) = .ok (.view (some view)) ∧
      Closing run.session.settings run.state descriptor view.rowCount
        (run.next (.openPrompt descriptor)) := by
  intro descriptor run view
  have hopen : run.answer (.openPrompt descriptor) = .ok (.view (some view)) := by decide +kernel
  exact ⟨hopen, closing_of_openPrompt hopen⟩

/-- **A locked prompt need not answer every input.** The one choice is disabled, and the row that is
confirmed is too long to be reported as not found. -/
theorem locked_without_event :
    ¬∀ (settings : Settings) (state : Game.State) (descriptor : Descriptor) (view : View)
        (request : Request),
      let run := Run.start settings state
      let opened := run.next (.openPrompt descriptor)
      run.answer (.openPrompt descriptor) = .ok (.view (some view)) →
      ¬Closable settings state descriptor → IsInput request →
      (∃ sound, opened.answer request = .ok (.event (.rejected sound))) ∨
        ∃ row, opened.answer request = .ok (.event (.ignored row)) := by
  intro h
  have hclosable : ¬Closable {} { gold := 5 } ⟨["<<[g>3]>>Buy"], -1, 0⟩ := by
    rintro (⟨text, htext, label, hevaluated⟩ | hhost)
    · obtain rfl := List.mem_singleton.1 htext
      have hdisabled : (evaluateChoice {} { gold := 5 } "<<[g>3]>>Buy").value =
          .ok ("Buy", { disabled := true, hidden := false }) := by
        decide +kernel
      rw [hdisabled] at hevaluated
      cases hevaluated
    · revert hhost
      decide
  have hanswer : ((Run.start {} { gold := 5 }).next (.openPrompt ⟨["<<[g>3]>>Buy"], -1, 0⟩)).answer
      (.confirm (-Text.leastUnwritable)) = .error (.oversized .integer) := by
    decide +kernel
  have hevent := h {} { gold := 5 } ⟨["<<[g>3]>>Buy"], -1, 0⟩ ⟨["\\C[7]Buy"], [0], none, [0]⟩
    (.confirm (-Text.leastUnwritable)) (by decide +kernel) hclosable (.confirm _)
  rw [hanswer] at hevent
  rcases hevent with ⟨sound, hsound⟩ | ⟨row, hrow⟩
  · cases hsound
  · cases hrow

end GatedPrompt.Prompt
