import GatedPrompt.Proofs.Prompt.History

/-!
# Safety of commits

A session that starts without a prompt never lets a player make a choice that is not available,
whatever is asked of it in whatever order and however the game goes on in the meantime. What it may
do is leave a prompt active that the host has no view of: the prompt is taken up before the row to
highlight is looked for, and that may fail.

* `Event.closes` — the two events that end a prompt: a choice is made, or cancelling is left to the
  host;
* `CommitSafe` — what is promised for the step behind a list of requests, and for a stretch of
  requests behind it;
* `commitSafe_start` — the promise is kept behind every list of requests;
* `active_without_view` — an opening that fails and leaves its prompt active.

The verdict that counts is the one of the game at the time the prompt was opened. It is carried from
there to the commit by `lastOpened_of_active`.
-/

namespace GatedPrompt.Prompt

/-- Whether an event ends the prompt. -/
def Event.closes : Event → Bool
  | committed _ => true
  | hostCancel _ => true
  | rejected _ => false
  | ignored _ => false

/-- Whether an answer is an event that ends the prompt. -/
def closesPrompt (answer : Logged (Except Failure Answer)) : Bool :=
  match answer.value with
  | .ok (.event event) => event.closes
  | _ => false

/-- What is promised for the step behind the requests `before` of a run, and for a stretch of
requests behind them. -/
structure CommitSafe (start : Run) (before : List Request) : Prop where
  /-- After an opening a prompt is active exactly if there is a view of it to show, or if only
  drawing the view has failed. -/
  active_iff : ∀ descriptor,
    ((start.after before).next (.openPrompt descriptor)).session.isActive = true ↔
      (∃ view, (start.after before).answer (.openPrompt descriptor) = .ok (.view (some view))) ∨
      ∃ fault, (start.after before).answer (.openPrompt descriptor) = .error (.oversized fault)
  /-- That fails for a prompt with a menu whose default is behind the last choice and too long to be
  written. -/
  fails_iff : ∀ descriptor,
    (∃ fault, (start.after before).answer (.openPrompt descriptor) = .error (.oversized fault)) ↔
      Undrawable start.session.settings (start.after before).state descriptor
  /-- A prompt is ended while it is active, it is the one opened last, and it is gone after that. -/
  closing : ∀ request event,
    (start.after before).answer request = .ok (.event event) → event.closes = true →
    (∃ context opened, (start.after before).session.context = some context ∧
        LastOpened start before context.descriptor opened) ∧
      ((start.after before).next request).session.isActive = false
  /-- As long as no other prompt is opened, at most one prompt is ended. -/
  closes_once : ∀ stretch, NoOpening stretch →
    ((start.after before).steps stretch).2.countP closesPrompt ≤ 1
  /-- A choice that is made is one of the prompt opened last, and in the game of that time its rules
  neither hid nor disabled it. -/
  available : ∀ request index,
    (start.after before).answer request = .ok (.event (.committed index)) →
    ∃ descriptor opened, LastOpened start before descriptor opened ∧
      0 ≤ index ∧ index < descriptor.choices.length ∧
      ∃ text label, descriptor.choices[index.toNat]? = some text ∧
        (evaluateChoice start.session.settings opened text).value =
          .ok (label, { disabled := false, hidden := false })
  /-- An event that does not end the prompt leaves it active and everything as it is. -/
  kept : ∀ request event,
    (start.after before).answer request = .ok (.event event) → event.closes = false →
    (start.after before).session.isActive = true ∧
      (start.after before).next request = start.after before
  /-- So does an input that cannot be reported. -/
  jammed : ∀ request fault, IsInput request →
    (start.after before).answer request = .error (.oversized fault) →
    (start.after before).session.isActive = true ∧
      (start.after before).next request = start.after before
  /-- Without a prompt there is nothing to confirm or to cancel. -/
  refused : ∀ request, IsInput request → (start.after before).session.isActive = false →
    (start.after before).answer request = .error .noActivePrompt ∧
      (start.after before).next request = start.after before

/-! ## Events and the records behind them -/

theorem Session.isActive_after_of_closes (session : Session) {event : Event}
    (h : event.closes = true) : (session.after event).isActive = false := by
  cases event with
  | committed index => rfl
  | hostCancel cancelType => rfl
  | rejected sound => cases h
  | ignored row => cases h

theorem Session.after_of_not_closes (session : Session) {event : Event}
    (h : event.closes = false) : session.after event = session := by
  cases event with
  | committed index => cases h
  | hostCancel cancelType => cases h
  | rejected sound => rfl
  | ignored row => rfl

variable {settings : Settings} {state : Game.State} {descriptor : Descriptor} {context : Context}
  {request : Request} {index : Int}

/-- Where a number has to be reported before an event that ends nothing, no choice is made. -/
theorem value_noteOf_ne_committed {n : Int} {notice : Int → Notice} {event : Event}
    (hevent : event.closes = false) :
    (Attempt.noteOf n notice >>= fun _ => pure event).value ≠ .ok (.committed index) := by
  rw [Attempt.value_noteOf_bind_pure]
  split
  · intro h
    cases h
  · intro h
    obtain rfl := Except.ok.inj h
    cases hevent

/-- A choice is only made through a record that is neither hidden nor disabled. -/
theorem Processed.entry_of_committed (h : Processed settings state descriptor context)
    (houtcome : Outcome settings context request (.ok (.committed index))) :
    ∃ entry ∈ context.entries, entry.index = index ∧ entry.hidden = false ∧
      entry.disabled = false := by
  generalize hevent : Except.ok (Event.committed index) = event at houtcome
  cases houtcome with
  | confirm row =>
    cases hfound : context.entryOnRow? row with
    | none =>
      rw [Context.confirm_of_none hfound] at hevent
      exact absurd hevent.symm (value_noteOf_ne_committed rfl)
    | some entry =>
      rw [Context.confirm_of_some hfound, Attempt.value_pure] at hevent
      have hmem := List.mem_of_find?_eq_some hfound
      -- What is on a row is visible, and what is visible is not hidden.
      have hrow : entry.row = some row := by simpa using List.find?_some hfound
      have hvisible := h.isVisible_eq hmem
      rw [Entry.isVisible, hrow] at hvisible
      refine ⟨entry, hmem, ?_⟩
      cases hdisabled : entry.disabled <;> simp_all
  | cancel =>
    by_cases hhost : context.descriptor.cancelIndex ∈ hostCancelTypes
    · rw [Context.cancel_of_host hhost] at hevent
      cases hevent
    cases hfound : context.entryAt? context.descriptor.cancelIndex with
    | none =>
      rw [Context.cancel_of_none hhost hfound] at hevent
      exact absurd hevent.symm (value_noteOf_ne_committed rfl)
    | some entry =>
      rw [Context.cancel_of_some hhost hfound, Attempt.value_pure] at hevent
      refine ⟨entry, List.mem_of_find?_eq_some hfound, ?_⟩
      cases hhidden : entry.hidden <;> cases hdisabled : entry.disabled <;> simp_all

/-- A choice that is made is one of the prompt, and its rules neither hide nor disable it. -/
theorem Processed.available_of_committed (h : Processed settings state descriptor context)
    (houtcome : Outcome settings context request (.ok (.committed index))) :
    0 ≤ index ∧ index < descriptor.choices.length ∧
      ∃ text label, descriptor.choices[index.toNat]? = some text ∧
        (evaluateChoice settings state text).value =
          .ok (label, { disabled := false, hidden := false }) := by
  obtain ⟨entry, hmem, rfl, hhidden, hdisabled⟩ := h.entry_of_committed houtcome
  obtain ⟨n, hn⟩ := List.mem_iff_getElem?.1 hmem
  obtain ⟨hindex, htext, -, label, hevaluated⟩ := h.records.of_getElem? hn
  rw [hhidden, hdisabled] at hevaluated
  have hlt : n < descriptor.choices.length := (List.getElem?_eq_some_iff.1 htext).1
  rw [hindex, Nat.zero_add, Int.toNat_natCast]
  exact ⟨by omega, by omega, entry.rawText, label, htext, hevaluated⟩

/-! ## Steps -/

namespace Run

variable {run next : Run}

/-- An event is the answer to an input while a prompt is active. -/
theorem Transition.outcome_of_event {event : Event}
    (h : run.Transition request next (.ok (.event event))) :
    next = { run with session := run.session.after event } ∧
      ∃ context, run.session.context = some context ∧
        Outcome run.session.settings context request (.ok event) := by
  cases h with
  | answered active outcome => exact ⟨rfl, _, active, outcome⟩
  | notShown answered => simp at answered

theorem outcome_of_event {event : Event} (h : run.answer request = .ok (.event event)) :
    run.next request = { run with session := run.session.after event } ∧
      ∃ context, run.session.context = some context ∧
        Outcome run.session.settings context request (.ok event) :=
  Transition.outcome_of_event (h ▸ run.transition request)

/-- The only way for a prompt to end is that an active one is ended. -/
theorem Transition.of_closesPrompt {notices : List Notice} {answer : Except Failure Answer}
    (h : run.Transition request next answer) (hcloses : closesPrompt ⟨notices, answer⟩ = true) :
    run.session.isActive = true ∧ next.session.isActive = false := by
  unfold closesPrompt at hcloses
  simp only at hcloses
  split at hcloses
  · obtain ⟨rfl, context, hactive, -⟩ := h.outcome_of_event
    exact ⟨by rw [Session.isActive, hactive]; rfl, Session.isActive_after_of_closes _ hcloses⟩
  · cases hcloses

/-- Without an opening no prompt becomes active. -/
theorem Transition.isActive_of_next {answer : Except Failure Answer}
    (h : run.Transition request next answer)
    (hrequest : ∀ descriptor, request ≠ .openPrompt descriptor)
    (hnext : next.session.isActive = true) : run.session.isActive = true := by
  obtain ⟨context, hcontext⟩ := Option.isSome_iff_exists.1 hnext
  rcases h.context_cases hcontext with ⟨descriptor, heq, -⟩ | ⟨-, hbefore⟩
  · exact absurd heq (hrequest descriptor)
  · rw [Session.isActive, hbefore]
    rfl

/-- **Without an opening at most the active prompt is ended.** The count is bounded by the number of
active prompts, which each ending uses up. -/
theorem countP_closesPrompt_le (run : Run) {stretch : List Request} (hstretch : NoOpening stretch) :
    (run.steps stretch).2.countP closesPrompt ≤ if run.session.isActive then 1 else 0 := by
  induction stretch generalizing run with
  | nil => simp [steps]
  | cons request stretch ih =>
    obtain ⟨hrequest, hstretch⟩ := hstretch.of_cons
    have hrest := ih (run.next request) hstretch
    rw [answers_cons, List.countP_cons]
    by_cases hcloses : closesPrompt ⟨(run.step request).notices, run.answer request⟩ = true
    · obtain ⟨hactive, hnext⟩ := (run.transition request).of_closesPrompt hcloses
      rw [if_neg (by simp [hnext])] at hrest
      rw [if_pos hcloses, if_pos hactive]
      omega
    · have hmono := (run.transition request).isActive_of_next hrequest
      rw [if_neg hcloses, Nat.add_zero]
      refine Nat.le_trans hrest ?_
      by_cases hnext : (run.next request).session.isActive = true
      · exact Nat.le_of_eq (by rw [if_pos hnext, if_pos (hmono hnext)])
      · rw [if_neg hnext]
        exact Nat.zero_le _

/-- The prompt is taken up before its view is drawn, and dropped before anything else. -/
theorem isActive_openPrompt_iff (run : Run) (descriptor : Descriptor) :
    (run.next (.openPrompt descriptor)).session.isActive = true ↔
      (∃ view, run.answer (.openPrompt descriptor) = .ok (.view (some view))) ∨
      ∃ fault, run.answer (.openPrompt descriptor) = .error (.oversized fault) := by
  have h := run.transition (.openPrompt descriptor)
  generalize run.next (.openPrompt descriptor) = next at h ⊢
  generalize run.answer (.openPrompt descriptor) = answer at h ⊢
  cases h with
  | shown processed drawn => simp [Session.isActive]
  | notDrawn processed notDrawn => simp [Session.isActive]
  | notShown answered =>
    rcases answered with rfl | ⟨abort, rfl⟩ <;> simp [Session.isActive, Session.close]
  -- an opening is no input, so that it has no outcome in an earlier context
  | answered active outcome => cases outcome
  | jammed active outcome => cases outcome
  | refused input inactive => cases input

theorem openPrompt_oversized_iff (run : Run) (descriptor : Descriptor) :
    (∃ fault, run.answer (.openPrompt descriptor) = .error (.oversized fault)) ↔
      Undrawable run.session.settings run.state descriptor := by
  rw [← openPrompt_fails_iff]
  simp only [answer, step, Logged.value_bind, Logged.value_pure]
  cases (run.session.openPrompt run.state descriptor).value.2 <;> simp [Except.map]

/-- An input that cannot be reported leaves everything as it is. -/
theorem next_of_oversized (hinput : IsInput request) {fault : Text.Oversized}
    (hanswer : run.answer request = .error (.oversized fault)) :
    run.session.isActive = true ∧ run.next request = run := by
  have h := run.transition request
  rw [hanswer] at h
  generalize run.next request = next at h ⊢
  cases h with
  | jammed active _ => exact ⟨by rw [Session.isActive, active]; rfl, rfl⟩
  | notDrawn _ _ => cases hinput
  | notShown _ => cases hinput

theorem refused_of_inactive (hinput : IsInput request) (h : run.session.isActive = false) :
    run.answer request = .error .noActivePrompt ∧ run.next request = run := by
  have hnone : run.session.context = none := by simpa [Session.isActive] using h
  have h := run.transition request
  generalize run.next request = next at h ⊢
  generalize run.answer request = answer at h ⊢
  cases h with
  | refused _ _ => exact ⟨rfl, rfl⟩
  -- what is answered or jams has a context to be looked up in
  | answered active outcome =>
    rw [hnone] at active
    cases active
  | jammed active outcome =>
    rw [hnone] at active
    cases active
  | _ => cases hinput

/-- An event is about the prompt that was opened last, with the records of that time. -/
theorem lastOpened_of_event {start : Run} (hstart : start.session.context = none)
    {before : List Request} {event : Event}
    (hanswer : (start.after before).answer request = .ok (.event event)) :
    ∃ descriptor opened context, LastOpened start before descriptor opened ∧
      Processed start.session.settings opened descriptor context ∧
      (start.after before).session.context = some context ∧
      Outcome start.session.settings context request (.ok event) := by
  obtain ⟨-, context, hactive, houtcome⟩ := outcome_of_event hanswer
  obtain ⟨descriptor, opened, hlast, hprocessed⟩ := lastOpened_of_active hstart hactive
  rw [start.settings_after before] at houtcome
  exact ⟨descriptor, opened, context, hlast, hprocessed, hactive, houtcome⟩

end Run

/-! ## The promise is kept -/

/-- **Commits are safe.** Whatever was asked of a session that started without a prompt, in any
order and with any changes of the game in between: a prompt is active after an opening exactly if it
has a view or only drawing the view failed, it is ended at most once and only while it is active,
and a choice that is made was available in the game in which the prompt was opened. -/
theorem commitSafe_start (settings : Settings) (state : Game.State) (before : List Request) :
    CommitSafe (Run.start settings state) before := by
  set start := Run.start settings state with hstart
  have hinactive : start.session.context = none := rfl
  have hsettings := start.settings_after before
  refine ⟨(start.after before).isActive_openPrompt_iff, ?_, ?_, ?_, ?_, ?_,
    fun request fault hinput => Run.next_of_oversized hinput,
    fun request => Run.refused_of_inactive⟩
  · rw [← hsettings]
    exact (start.after before).openPrompt_oversized_iff
  · intro request event hanswer hcloses
    obtain ⟨descriptor, opened, context, hlast, hprocessed, hactive, -⟩ :=
      Run.lastOpened_of_event hinactive hanswer
    refine ⟨⟨context, opened, hactive, ?_⟩, ?_⟩
    · rw [hprocessed.descriptor_eq]
      exact hlast
    · rw [(Run.outcome_of_event hanswer).1]
      exact Session.isActive_after_of_closes _ hcloses
  · intro stretch hstretch
    refine Nat.le_trans ((start.after before).countP_closesPrompt_le hstretch) ?_
    split <;> omega
  · intro request index hanswer
    obtain ⟨descriptor, opened, context, hlast, hprocessed, -, houtcome⟩ :=
      Run.lastOpened_of_event hinactive hanswer
    exact ⟨descriptor, opened, hlast, hprocessed.available_of_committed houtcome⟩
  · intro request event hanswer hcloses
    obtain ⟨hnext, context, hactive, -⟩ := Run.outcome_of_event hanswer
    refine ⟨by rw [Session.isActive, hactive]; rfl, ?_⟩
    rw [hnext, Session.after_of_not_closes _ hcloses]

/-- **A failed opening may leave its prompt active.** There is no view of the only choice, since the
number of the missing default is too long to be reported, and still the prompt is active. -/
theorem active_without_view :
    ¬∀ (settings : Settings) (state : Game.State) (descriptor : Descriptor),
      let run := Run.start settings state
      (run.next (.openPrompt descriptor)).session.isActive = true ↔
        ∃ view, run.answer (.openPrompt descriptor) = .ok (.view (some view)) := by
  intro h
  have hactive : ((Run.start {} {}).next
      (.openPrompt ⟨["Buy"], Text.leastUnwritable, -1⟩)).session.isActive = true := by
    decide +kernel
  have hanswer : (Run.start {} {}).answer (.openPrompt ⟨["Buy"], Text.leastUnwritable, -1⟩) =
      .error (.oversized .integer) := by
    decide +kernel
  obtain ⟨view, hview⟩ := (h {} {} ⟨["Buy"], Text.leastUnwritable, -1⟩).1 hactive
  rw [hanswer] at hview
  cases hview

end GatedPrompt.Prompt
