import Mathlib.Data.List.Induction
import GatedPrompt.Prompt.Run
import GatedPrompt.Proofs.Prompt.Menu

/-!
# Runs and what led to them

A run answers requests one after the other. Whatever came before, a step can do one of a few things
only (`Run.Transition`); all that holds of every run is derived from that and from the way a prompt
gets to be active:

* `Run.next`, `Run.answer`, `Run.after` — the run after a request and the answer to it, and the run
  after a list of requests;
* `LastOpened` — the prompt that was opened last in a list of requests, with the state of the game
  at that time;
* `Run.transition` — what one step can do;
* `Undrawable` — what keeps a prompt from being drawn (`openPrompt_fails_iff`);
* `lastOpened_of_active` — the active prompt of a run is the one that was opened last, and its
  records are those of the game at that time, however the game and the session went on since.
-/

namespace GatedPrompt.Prompt

/-! ## Steps -/

/-- The run after a request. -/
def Run.next (run : Run) (request : Request) : Run := (run.step request).value.1

/-- The answer to a request. -/
def Run.answer (run : Run) (request : Request) : Except Failure Answer :=
  (run.step request).value.2

/-- The run after a list of requests. -/
def Run.after (run : Run) (requests : List Request) : Run := (run.steps requests).1

/-- A run of a session in which no prompt was opened yet. -/
def Run.start (settings : Settings) (state : Game.State) : Run := ⟨{ settings }, state⟩

/-- What comes of an input in a context, be it the confirmation of a row or a cancelling. -/
inductive Outcome (settings : Settings) (context : Context) :
    Request → Except Text.Oversized Event → Prop where
  | confirm (row : Int) :
      Outcome settings context (.confirm row) (context.confirm settings row).value
  | cancel : Outcome settings context .cancel (context.cancel settings).value

/-- Whether a request needs an active prompt. -/
inductive IsInput : Request → Prop where
  | confirm (row : Int) : IsInput (.confirm row)
  | cancel : IsInput .cancel

theorem IsInput.not_openPrompt {request : Request} (h : IsInput request) (descriptor : Descriptor) :
    request ≠ .openPrompt descriptor := by
  rintro rfl
  cases h

theorem Outcome.isInput {settings : Settings} {context : Context} {request : Request}
    {outcome : Except Text.Oversized Event} (h : Outcome settings context request outcome) :
    IsInput request := by
  cases h with
  | confirm row => exact .confirm row
  | cancel => exact .cancel

/-- What one step of a run can do: to the run, and as an answer. -/
inductive Run.Transition (run : Run) : Request → Run → Except Failure Answer → Prop where
  | shown {descriptor : Descriptor} {context : Context} {view : View}
      (processed : Processed run.session.settings run.state descriptor context)
      (drawn : (context.view run.session.settings).value = .ok view) :
      Transition run (.openPrompt descriptor)
        { run with session := { run.session with context := some context } }
        (.ok (.view (some view)))
  -- The prompt is active, but the row to highlight could not be told.
  | notDrawn {descriptor : Descriptor} {context : Context} {fault : Text.Oversized}
      (processed : Processed run.session.settings run.state descriptor context)
      (notDrawn : (context.view run.session.settings).value = .error fault) :
      Transition run (.openPrompt descriptor)
        { run with session := { run.session with context := some context } }
        (.error (.oversized fault))
  -- There is no prompt to show: it has no choices, or its rules could not be evaluated.
  | notShown {descriptor : Descriptor} {answer : Except Failure Answer}
      (answered : answer = .ok (.view none) ∨ ∃ abort, answer = .error (.aborted abort)) :
      Transition run (.openPrompt descriptor) { run with session := run.session.close } answer
  | answered {request : Request} {context : Context} {event : Event}
      (active : run.session.context = some context)
      (outcome : Outcome run.session.settings context request (.ok event)) :
      Transition run request { run with session := run.session.after event } (.ok (.event event))
  | jammed {request : Request} {context : Context} {fault : Text.Oversized}
      (active : run.session.context = some context)
      (outcome : Outcome run.session.settings context request (.error fault)) :
      Transition run request run (.error (.oversized fault))
  | refused {request : Request} (input : IsInput request)
      (inactive : run.session.context = none) :
      Transition run request run (.error .noActivePrompt)
  | closed : Transition run .close { run with session := run.session.close } (.ok .done)
  | changed {change : Game.Change} :
      Transition run (.change change) { run with state := run.state.apply change } (.ok .done)

/-! ## Opening a prompt -/

/-- A result that is passed on, with its failure, under other names. -/
theorem mapError_map_eq_ok_iff {ε ε' α β : Type} {x : Except ε α} {f : α → β} {g : ε → ε'}
    {b : β} : (x.map f).mapError g = .ok b ↔ ∃ a, x = .ok a ∧ f a = b := by
  cases x <;> simp [Except.map, Except.mapError]

theorem mapError_map_eq_error_iff {ε ε' α β : Type} {x : Except ε α} {f : α → β} {g : ε → ε'}
    {failure : ε'} : (x.map f).mapError g = .error failure ↔ ∃ e, x = .error e ∧ g e = failure := by
  cases x <;> simp [Except.map, Except.mapError]

/-- The view of a context, by its row to highlight. -/
theorem Context.value_view (settings : Settings) (context : Context) :
    (context.view settings).value = (context.initialRow settings).value.map context.viewWith :=
  Attempt.value_bind_pure _ _

/-- A view differs from others of its context in the row to highlight only. -/
theorem Context.viewWith_of_view {settings : Settings} {context : Context} {view : View}
    (h : (context.view settings).value = .ok view) :
    ∃ highlighted, context.viewWith highlighted = view := by
  rw [Context.value_view] at h
  cases hrow : (context.initialRow settings).value with
  | error fault => simp [hrow, Except.map] at h
  | ok highlighted => exact ⟨highlighted, by simpa [hrow, Except.map] using h⟩

theorem Context.fault_of_view {settings : Settings} {context : Context} {fault : Text.Oversized}
    (h : (context.view settings).value = .error fault) : fault = .integer := by
  have hrow : (context.initialRow settings).value = .error fault := by
    rw [Context.value_view] at h
    cases hrow : (context.initialRow settings).value with
    | error other => simpa [hrow, Except.map] using h
    | ok highlighted => simp [hrow, Except.map] at h
  by_cases hidle : context.descriptor.defaultIndex < 0 ∨ context.visible = []
  · rw [initialRow_of_idle hidle] at hrow
    cases hrow
  · cases hentry : context.entryAt? context.descriptor.defaultIndex with
    | none =>
      rw [initialRow_of_none hidle hentry, Attempt.value_noteOf_bind_pure] at hrow
      split at hrow
      · exact (Except.error.inj hrow).symm
      · cases hrow
    | some entry =>
      rw [initialRow_of_some hidle hentry] at hrow
      cases hrow

/-- Opening a prompt, by how its processing ends. -/
theorem value_openPrompt (session : Session) (state : Game.State)
    (descriptor : Descriptor) :
    (session.openPrompt state descriptor).value =
      match (process session.settings state descriptor).value with
      | .error abort => (session.close, .error (.aborted abort))
      | .ok none => (session.close, .ok none)
      | .ok (some context) =>
        ({ session with context := some context },
          ((context.view session.settings).value.map some).mapError .oversized) := by
  rw [Session.openPrompt, Logged.value_bind]
  rw [show (process session.settings state descriptor).run.value =
    (process session.settings state descriptor).value from rfl]
  rcases (process session.settings state descriptor).value with abort | _ | context
  · rfl
  · rfl
  · rfl

/-- A view that a prompt is opened with is drawn from its records, which are active from then
on. -/
theorem processed_of_openPrompt {session active : Session} {state : Game.State}
    {descriptor : Descriptor} {view : View}
    (h : (session.openPrompt state descriptor).value = (active, .ok (some view))) :
    ∃ context, active = { session with context := some context } ∧
      (context.view session.settings).value = .ok view ∧
      Processed session.settings state descriptor context := by
  rw [value_openPrompt] at h
  cases hprocess : (process session.settings state descriptor).value with
  | error abort => simp [hprocess] at h
  | ok result =>
    cases result with
    | none => simp [hprocess] at h
    | some context =>
      simp only [hprocess, Prod.mk.injEq] at h
      obtain ⟨rfl, h⟩ := h
      obtain ⟨drawn, hview, hdrawn⟩ := mapError_map_eq_ok_iff.1 h
      obtain rfl := Option.some.inj hdrawn
      exact ⟨context, rfl, hview, processed_of_process hprocess⟩

/-- A prompt that was processed cannot be drawn if it has a menu, its default is behind the last
choice, and the default is too long to be written. -/
theorem Processed.view_fails_iff {settings : Settings} {state : Game.State}
    {descriptor : Descriptor} {context : Context}
    (h : Processed settings state descriptor context) (selection : Settings) :
    (∃ fault, (context.view selection).value = .error fault) ↔
      context.visible ≠ [] ∧ (descriptor.choices.length : Int) ≤ descriptor.defaultIndex ∧
        Text.isUnwritable descriptor.defaultIndex = true := by
  rw [Context.value_view]
  -- a view fails with the search for its row, which ends at once, at a record or behind all of them
  by_cases hidle : context.descriptor.defaultIndex < 0 ∨ context.visible = []
  · rw [Context.initialRow_of_idle hidle, Attempt.value_pure]
    rw [h.descriptor_eq] at hidle
    constructor
    · rintro ⟨fault, hfault⟩
      cases hfault
    · rintro ⟨hmenu, hlarge, -⟩
      rcases hidle with hidle | hidle
      · omega
      · exact absurd hidle hmenu
  · have hmenu : context.visible ≠ [] := fun hnil => hidle (.inr hnil)
    have hpos : ¬descriptor.defaultIndex < 0 := fun hneg => hidle (.inl (h.descriptor_eq ▸ hneg))
    cases hentry : context.entryAt? context.descriptor.defaultIndex with
    | none =>
      rw [Context.initialRow_of_none hidle hentry, Attempt.value_noteOf_bind_pure]
      rw [h.descriptor_eq, h.entryAt?_eq_none_iff] at hentry
      have hlarge : (descriptor.choices.length : Int) ≤ descriptor.defaultIndex := by omega
      rw [h.descriptor_eq]
      cases Text.isUnwritable descriptor.defaultIndex <;> simp [Except.map, hmenu, hlarge]
    | some entry =>
      rw [Context.initialRow_of_some hidle hentry, Attempt.value_pure]
      have hfound : ¬context.entryAt? descriptor.defaultIndex = none := by
        rw [← h.descriptor_eq, hentry]
        nofun
      rw [h.entryAt?_eq_none_iff, not_not] at hfound
      constructor
      · rintro ⟨fault, hfault⟩
        cases hfault
      · rintro ⟨-, hlarge, -⟩
        omega

/-- The default of a prompt with a menu is behind the last choice and too long to be reported. -/
def Undrawable (settings : Settings) (state : Game.State) (descriptor : Descriptor) : Prop :=
  ∃ context, (process settings state descriptor).value = .ok (some context) ∧
    context.visible ≠ [] ∧ (descriptor.choices.length : Int) ≤ descriptor.defaultIndex ∧
    Text.isUnwritable descriptor.defaultIndex = true

/-- This is all that keeps a prompt from being drawn. -/
theorem openPrompt_fails_iff (session : Session) (state : Game.State) (descriptor : Descriptor) :
    (∃ fault, (session.openPrompt state descriptor).value.2 = .error (.oversized fault)) ↔
      Undrawable session.settings state descriptor := by
  rw [value_openPrompt, Undrawable]
  cases hprocess : (process session.settings state descriptor).value with
  | error abort => simp
  | ok result =>
    cases result with
    | none => simp
    | some context =>
      simp only [Except.ok.injEq, Option.some.injEq, exists_eq_left',
        ← (processed_of_process hprocess).view_fails_iff session.settings,
        mapError_map_eq_error_iff]
      simp

/-! ## What one step does -/

/-- Answering an input, by what comes of it in the context of the active prompt. -/
theorem value_respond {session : Session} {context : Context}
    (hactive : session.context = some context)
    (outcome : Context → Attempt Text.Oversized Event) :
    (session.respond outcome).value =
      match (outcome context).value with
      | .error fault => (session, .error (.oversized fault))
      | .ok event => (session.after event, .ok event) := by
  rw [Session.respond, hactive]
  simp only [Logged.value_bind]
  rw [show (outcome context).run.value = (outcome context).value from rfl]
  cases (outcome context).value <;> rfl

theorem notices_respond {session : Session} {context : Context}
    (hactive : session.context = some context)
    (outcome : Context → Attempt Text.Oversized Event) :
    (session.respond outcome).notices = (outcome context).notices := by
  rw [Session.respond, hactive]
  simp only [Logged.notices_bind]
  cases (outcome context).run.value <;> exact List.append_nil _

theorem Run.transition (run : Run) (request : Request) :
    run.Transition request (run.next request) (run.answer request) := by
  unfold Run.next Run.answer
  cases request with
  | openPrompt descriptor =>
    simp only [Run.step, Logged.value_bind, Logged.value_pure, value_openPrompt]
    cases hprocess : (process run.session.settings run.state descriptor).value with
    | error abort => exact .notShown (.inr ⟨_, rfl⟩)
    | ok result =>
      cases result with
      | none => exact .notShown (.inl rfl)
      | some context =>
        cases hview : (context.view run.session.settings).value with
        | error fault =>
          simp only [hview]
          exact .notDrawn (processed_of_process hprocess) hview
        | ok view =>
          simp only [hview]
          exact .shown (processed_of_process hprocess) hview
  | confirm row =>
    simp only [Run.step, Session.confirm, Logged.value_bind, Logged.value_pure]
    cases hactive : run.session.context with
    | none =>
      simp only [Session.respond, hactive]
      exact .refused (.confirm row) hactive
    | some context =>
      have houtcome : Outcome run.session.settings context (.confirm row) _ := .confirm row
      rw [value_respond hactive]
      cases hvalue : (context.confirm run.session.settings row).value with
      | error fault => exact .jammed hactive (hvalue ▸ houtcome)
      | ok event => exact .answered hactive (hvalue ▸ houtcome)
  | cancel =>
    simp only [Run.step, Session.cancel, Logged.value_bind, Logged.value_pure]
    cases hactive : run.session.context with
    | none =>
      simp only [Session.respond, hactive]
      exact .refused .cancel hactive
    | some context =>
      have houtcome : Outcome run.session.settings context .cancel _ := .cancel
      rw [value_respond hactive]
      cases hvalue : (context.cancel run.session.settings).value with
      | error fault => exact .jammed hactive (hvalue ▸ houtcome)
      | ok event => exact .answered hactive (hvalue ▸ houtcome)
  | close => exact .closed
  | change change => exact .changed

/-! ## Runs -/

/-- The answers in a run are the answers to its requests, each with its notices. -/
theorem Run.answers_cons (run : Run) (request : Request) (requests : List Request) :
    (run.steps (request :: requests)).2 =
      ⟨(run.step request).notices, run.answer request⟩ :: ((run.next request).steps requests).2 :=
  rfl

@[simp] theorem Run.after_nil (run : Run) : run.after [] = run := rfl

@[simp] theorem Run.after_cons (run : Run) (request : Request) (requests : List Request) :
    run.after (request :: requests) = (run.next request).after requests := rfl

theorem Run.after_append (run : Run) (first second : List Request) :
    run.after (first ++ second) = (run.after first).after second := by
  induction first generalizing run with
  | nil => rfl
  | cons request first ih => exact ih _

theorem Run.after_concat (run : Run) (requests : List Request) (request : Request) :
    run.after (requests ++ [request]) = (run.after requests).next request := by
  rw [after_append]
  rfl

/-! ## The active prompt -/

theorem Session.settings_after (session : Session) (event : Event) :
    (session.after event).settings = session.settings := by
  cases event <;> rfl

theorem Session.context_of_after {session : Session} {event : Event} {context : Context}
    (h : (session.after event).context = some context) : session.context = some context := by
  cases event with
  | committed index => cases h
  | hostCancel cancelType => cases h
  | rejected sound => exact h
  | ignored row => exact h

namespace Run

variable {run next : Run} {request : Request} {answer : Except Failure Answer}

theorem Transition.settings_eq (h : run.Transition request next answer) :
    next.session.settings = run.session.settings := by
  cases h with
  | answered _ _ => exact Session.settings_after _ _
  | _ => rfl

theorem settings_after (run : Run) (requests : List Request) :
    (run.after requests).session.settings = run.session.settings := by
  induction requests generalizing run with
  | nil => rfl
  | cons request requests ih => rw [after_cons, ih, (run.transition request).settings_eq]

/-- A prompt that is active after a step was opened by it, or was active before. -/
theorem Transition.context_cases (h : run.Transition request next answer) {context : Context}
    (hactive : next.session.context = some context) :
    (∃ descriptor, request = .openPrompt descriptor ∧
        Processed run.session.settings run.state descriptor context) ∨
      ((∀ descriptor, request ≠ .openPrompt descriptor) ∧
        run.session.context = some context) := by
  cases h with
  | shown processed _ =>
    obtain rfl := Option.some.inj hactive
    exact .inl ⟨_, rfl, processed⟩
  | notDrawn processed _ =>
    obtain rfl := Option.some.inj hactive
    exact .inl ⟨_, rfl, processed⟩
  | notShown _ => cases hactive
  | answered active outcome =>
    exact .inr ⟨outcome.isInput.not_openPrompt, Session.context_of_after hactive⟩
  | jammed active outcome => exact .inr ⟨outcome.isInput.not_openPrompt, hactive⟩
  | refused input inactive =>
    rw [inactive] at hactive
    cases hactive
  | closed => cases hactive
  | changed => exact .inr ⟨by simp, hactive⟩

end Run

/-- No prompt is opened by any of the requests. -/
def NoOpening (requests : List Request) : Prop :=
  ∀ descriptor, .openPrompt descriptor ∉ requests

theorem NoOpening.of_cons {request : Request} {requests : List Request}
    (h : NoOpening (request :: requests)) :
    (∀ descriptor, request ≠ .openPrompt descriptor) ∧ NoOpening requests :=
  ⟨fun descriptor heq => h descriptor (heq ▸ List.mem_cons_self),
    fun descriptor hmem => h descriptor (List.mem_cons_of_mem _ hmem)⟩

/-- As long as no other prompt is opened, an active prompt is the one that was active before. -/
theorem Run.context_of_noOpening {requests : List Request} (hrequests : NoOpening requests)
    {run : Run} {context : Context}
    (hactive : (run.after requests).session.context = some context) :
    run.session.context = some context := by
  induction requests generalizing run with
  | nil => exact hactive
  | cons request requests ih =>
    obtain ⟨hrequest, hrest⟩ := hrequests.of_cons
    rcases (run.transition request).context_cases (ih hrest hactive) with
      ⟨descriptor, heq, -⟩ | ⟨-, hbefore⟩
    · exact absurd heq (hrequest descriptor)
    · exact hbefore

/-- The prompt that was opened last in a run, and the state of the game at that time. -/
def LastOpened (start : Run) (requests : List Request) (descriptor : Descriptor)
    (state : Game.State) : Prop :=
  ∃ earlier later, requests = earlier ++ .openPrompt descriptor :: later ∧ NoOpening later ∧
    state = (start.after earlier).state

theorem LastOpened.concat_openPrompt (start : Run) (requests : List Request)
    (descriptor : Descriptor) :
    LastOpened start (requests ++ [.openPrompt descriptor]) descriptor
      (start.after requests).state :=
  ⟨requests, [], rfl, fun _ => List.not_mem_nil, rfl⟩

theorem LastOpened.concat {start : Run} {requests : List Request} {descriptor : Descriptor}
    {state : Game.State} (h : LastOpened start requests descriptor state) {request : Request}
    (hrequest : ∀ descriptor, request ≠ .openPrompt descriptor) :
    LastOpened start (requests ++ [request]) descriptor state := by
  obtain ⟨earlier, later, rfl, hlater, hstate⟩ := h
  refine ⟨earlier, later ++ [request], by simp, ?_, hstate⟩
  intro descriptor hmem
  rcases List.mem_append.1 hmem with hmem | hmem
  · exact hlater descriptor hmem
  · exact hrequest descriptor (List.mem_singleton.1 hmem).symm

/-- **The active prompt is the one that was opened last**, and its records are those of the game at
that time. -/
theorem lastOpened_of_active {start : Run} (hstart : start.session.context = none)
    {requests : List Request} {context : Context}
    (hactive : (start.after requests).session.context = some context) :
    ∃ descriptor state, LastOpened start requests descriptor state ∧
      Processed start.session.settings state descriptor context := by
  induction requests using List.reverseRecOn with
  | nil =>
    rw [Run.after_nil, hstart] at hactive
    cases hactive
  | append_singleton requests request ih =>
    rw [Run.after_concat] at hactive
    rcases ((start.after requests).transition request).context_cases hactive with
      ⟨descriptor, rfl, hprocessed⟩ | ⟨hrequest, hbefore⟩
    · rw [Run.settings_after] at hprocessed
      exact ⟨descriptor, _, .concat_openPrompt start requests descriptor, hprocessed⟩
    · obtain ⟨descriptor, state, hlast, hprocessed⟩ := ih hbefore
      exact ⟨descriptor, state, hlast.concat hrequest, hprocessed⟩

end GatedPrompt.Prompt
