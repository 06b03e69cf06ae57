import GatedPrompt.Proofs.Prompt.History

/-!
# Prompts under another table

The table of substitutions decides what the labels in a menu read, and nothing else. To say so, the
labels are dropped from all that holds them: what is left is the same under every table.

* `Settings.withTable` — the same settings with another table;
* `Entry.unlabelled`, `Context.unlabelled`, `View.unlabelled` — what is left of a record, a context
  and a view without the labels. Rows, highlighting and events can be read off that
  (`initialRow_unlabelled`, `confirm_unlabelled`, `cancel_unlabelled`);
* `process_withTable` — processing a prompt under another table ends in the same way, with the same
  notices, and with the same records but for their labels (`SameEnd`);
* `Run.SameBut.step` — so does one step of a run that is under way, and `Run.replies_withTable`, by
  induction on the requests, every run.
-/

namespace GatedPrompt.Prompt

/-- The same settings with another table of substitutions. -/
def Settings.withTable (settings : Settings) (table : List Substitution) : Settings :=
  { settings with substitutions := table }

/-- What is left of a record without its label. -/
def Entry.unlabelled (entry : Entry) : Entry := { entry with label := "" }

/-- What is left of a context without the labels. -/
def Context.unlabelled (context : Context) : Context :=
  { context with entries := context.entries.map Entry.unlabelled }

/-- What is left of a view without the labels; their number is kept. -/
def View.unlabelled (view : View) : View :=
  { view with labels := view.labels.map fun _ => ("" : Text) }

/-- What is left of an answer without the labels of a view. -/
def Answer.unlabelled : Answer → Answer
  | .view shown => .view (shown.map View.unlabelled)
  | answer => answer

/-- What is left of a reply without the labels of a view. -/
def replyUnlabelled (reply : Logged (Except Failure Answer)) : Logged (Except Failure Answer) :=
  ⟨reply.notices, reply.value.map Answer.unlabelled⟩

/-! ## What does not depend on labels -/

section

variable {entries : List Entry} {context : Context}

theorem leastBy_unlabelled {key : Entry → Int} (hkey : ∀ entry, key entry.unlabelled = key entry) :
    leastBy key (entries.map Entry.unlabelled) = (leastBy key entries).map Entry.unlabelled := by
  induction entries with
  | nil => rfl
  | cons entry entries ih =>
    rw [List.map_cons, leastBy, leastBy, ih]
    cases leastBy key entries with
    | none => rfl
    | some best =>
      simp only [Option.map_some, hkey]
      split <;> rfl

namespace Context

theorem visible_unlabelled (context : Context) :
    context.unlabelled.visible = context.visible.map Entry.unlabelled := by
  rw [visible, visible, unlabelled, List.filter_map]
  rfl

theorem backMapping_unlabelled (context : Context) :
    context.unlabelled.backMapping = context.backMapping := by
  rw [backMapping, visible_unlabelled, List.map_map]
  rfl

theorem disabledRows_unlabelled (context : Context) :
    context.unlabelled.disabledRows = context.disabledRows := by
  rw [disabledRows, visible_unlabelled, List.filter_map, List.filterMap_map]
  rfl

theorem entryAt?_unlabelled (context : Context) (index : Int) :
    context.unlabelled.entryAt? index = (context.entryAt? index).map Entry.unlabelled := by
  rw [entryAt?, unlabelled, List.find?_map]
  rfl

theorem entryOnRow?_unlabelled (context : Context) (row : Int) :
    context.unlabelled.entryOnRow? row = (context.entryOnRow? row).map Entry.unlabelled := by
  rw [entryOnRow?, unlabelled, List.find?_map]
  rfl

theorem rowAfter?_unlabelled (context : Context) (index : Int) :
    context.unlabelled.rowAfter? index = context.rowAfter? index := by
  rw [rowAfter?, visible_unlabelled, List.filter_map, leastBy_unlabelled fun _ => rfl,
    Option.bind_map]
  rfl

theorem rowBefore?_unlabelled (context : Context) (index : Int) :
    context.unlabelled.rowBefore? index = context.rowBefore? index := by
  rw [rowBefore?, visible_unlabelled, List.filter_map, leastBy_unlabelled fun _ => rfl,
    Option.bind_map]
  rfl

theorem fallbackRow_unlabelled (context : Context) (policy : HiddenDefault) (index : Int) :
    context.unlabelled.fallbackRow policy index = context.fallbackRow policy index := by
  simp only [fallbackRow, rowAfter?_unlabelled, rowBefore?_unlabelled]

theorem initialRow_unlabelled (settings : Settings) (context : Context) :
    context.unlabelled.initialRow settings = context.initialRow settings := by
  have hdescriptor : context.unlabelled.descriptor = context.descriptor := rfl
  have hmenu : context.unlabelled.visible = [] ↔ context.visible = [] := by
    rw [visible_unlabelled, List.map_eq_nil_iff]
  simp only [initialRow, hdescriptor, hmenu, entryAt?_unlabelled, fallbackRow_unlabelled]
  cases context.entryAt? context.descriptor.defaultIndex <;> rfl

theorem confirm_unlabelled (settings : Settings) (context : Context) (row : Int) :
    context.unlabelled.confirm settings row = context.confirm settings row := by
  rw [confirm, entryOnRow?_unlabelled]
  cases hentry : context.entryOnRow? row <;> simp only [confirm, hentry] <;> rfl

theorem cancel_unlabelled (settings : Settings) (context : Context) :
    context.unlabelled.cancel settings = context.cancel settings := by
  have hdescriptor : context.unlabelled.descriptor = context.descriptor := rfl
  simp only [cancel, hdescriptor, entryAt?_unlabelled]
  cases context.entryAt? context.descriptor.cancelIndex <;> rfl

end Context

end

/-! ## Other tables -/

section

variable {settings : Settings} {state : Game.State} {table : List Substitution}

/-- Verdicts and labels as they were written do not depend on the table. -/
theorem analyseFrom_withTable (index : Nat) (texts : List Text) :
    analyseFrom (settings.withTable table) state index texts =
      analyseFrom settings state index texts := by
  induction texts generalizing index with
  | nil => rfl
  | cons text texts ih =>
    have hchoice : evaluateChoice (settings.withTable table) state text =
        evaluateChoice settings state text := rfl
    simp only [analyseFrom, hchoice, ih]

theorem unlabelled_render (entries : List Entry) :
    (entries.map (render settings)).map Entry.unlabelled = entries.map Entry.unlabelled := by
  rw [List.map_map]
  rfl

/-- Two processings that end in the same way, with the same records but for their labels. -/
inductive SameEnd : Except Rule.Abort (Option Context) → Except Rule.Abort (Option Context) → Prop
    where
  | aborted (abort : Rule.Abort) : SameEnd (.error abort) (.error abort)
  | notShown : SameEnd (.ok none) (.ok none)
  | shown {context context' : Context} (same : context'.unlabelled = context.unlabelled) :
      SameEnd (.ok (some context)) (.ok (some context'))

/-- **A prompt under another table**: it is processed with the same end and the same notices. -/
theorem process_withTable (settings : Settings) (state : Game.State) (table : List Substitution)
    (descriptor : Descriptor) :
    (process (settings.withTable table) state descriptor).notices =
        (process settings state descriptor).notices ∧
      SameEnd (process settings state descriptor).value
        (process (settings.withTable table) state descriptor).value := by
  unfold process analyse
  split
  · exact ⟨rfl, .notShown⟩
  · -- both runs analyse the choices alike and differ in the last step only
    rw [analyseFrom_withTable, Attempt.notices_bind_pure, Attempt.notices_bind_pure,
      Attempt.value_bind_pure, Attempt.value_bind_pure]
    refine ⟨rfl, ?_⟩
    cases (analyseFrom settings state 0 descriptor.choices).value with
    | error abort => exact .aborted abort
    | ok entries =>
      refine .shown ?_
      simp only [Context.unlabelled, unlabelled_render]

/-- What follows from a context does not depend on labels or on the table. -/
theorem Context.confirm_eq {context context' : Context}
    (h : context'.unlabelled = context.unlabelled) (row : Int) :
    context'.confirm (settings.withTable table) row = context.confirm settings row := by
  rw [← context'.confirm_unlabelled, h, context.confirm_unlabelled]
  rfl

theorem Context.cancel_eq {context context' : Context}
    (h : context'.unlabelled = context.unlabelled) :
    context'.cancel (settings.withTable table) = context.cancel settings := by
  rw [← context'.cancel_unlabelled, h, context.cancel_unlabelled]
  rfl

theorem Context.initialRow_eq {context context' : Context}
    (h : context'.unlabelled = context.unlabelled) :
    context'.initialRow (settings.withTable table) = context.initialRow settings := by
  rw [← context'.initialRow_unlabelled, h, context.initialRow_unlabelled]
  rfl

theorem Context.backMapping_eq {context context' : Context}
    (h : context'.unlabelled = context.unlabelled) :
    context'.backMapping = context.backMapping := by
  rw [← context'.backMapping_unlabelled, h, context.backMapping_unlabelled]

theorem Context.disabledRows_eq {context context' : Context}
    (h : context'.unlabelled = context.unlabelled) :
    context'.disabledRows = context.disabledRows := by
  rw [← context'.disabledRows_unlabelled, h, context.disabledRows_unlabelled]

/-- Views of a context are the same but for its labels. -/
theorem Context.unlabelled_viewWith {context context' : Context}
    (h : context'.unlabelled = context.unlabelled) (highlighted : Option Int) :
    (context'.viewWith highlighted).unlabelled = (context.viewWith highlighted).unlabelled := by
  have hlabels (context : Context) : context.labels.map (fun _ => ("" : Text)) =
      context.unlabelled.labels := by
    rw [Context.labels, Context.labels, visible_unlabelled, List.map_map, List.map_map]
    rfl
  unfold Context.viewWith View.unlabelled
  simp only [backMapping_eq h, disabledRows_eq h, hlabels, h]

theorem Context.view_eq {context context' : Context}
    (h : context'.unlabelled = context.unlabelled) :
    (context'.view (settings.withTable table)).notices = (context.view settings).notices ∧
      (context'.view (settings.withTable table)).value.map View.unlabelled =
        (context.view settings).value.map View.unlabelled := by
  rw [value_view, value_view, Context.view, Context.view, Attempt.notices_bind_pure,
    Attempt.notices_bind_pure, initialRow_eq h]
  refine ⟨rfl, ?_⟩
  cases (context.initialRow settings).value with
  | error fault => rfl
  | ok highlighted => exact congrArg Except.ok (unlabelled_viewWith h highlighted)

end

/-! ## Runs under another table -/

/-- Two sessions with the same settings but for the table, and with the same active prompt but for
its labels. -/
structure Session.SameBut (table : List Substitution) (session session' : Session) : Prop where
  settings : session'.settings = session.settings.withTable table
  context : session'.context.map Context.unlabelled = session.context.map Context.unlabelled

/-- The same of two runs, next to the same game. -/
structure Run.SameBut (table : List Substitution) (run run' : Run) : Prop where
  session : run.session.SameBut table run'.session
  state : run'.state = run.state

namespace Session.SameBut

variable {table : List Substitution} {session session' : Session}

theorem close (h : session.SameBut table session') : session.close.SameBut table session'.close :=
  ⟨h.settings, rfl⟩

theorem after (h : session.SameBut table session') (event : Event) :
    (session.after event).SameBut table (session'.after event) := by
  cases event with
  | committed index => exact h.close
  | hostCancel cancelType => exact h.close
  | rejected sound => exact h
  | ignored row => exact h

/-- Inputs are answered alike if the outcome does not depend on labels. -/
theorem respond (h : session.SameBut table session')
    {outcome outcome' : Context → Attempt Text.Oversized Event}
    (houtcome : ∀ context context' : Context, context'.unlabelled = context.unlabelled →
      outcome' context' = outcome context) :
    (session'.respond outcome').notices = (session.respond outcome).notices ∧
      (session'.respond outcome').value.2 = (session.respond outcome).value.2 ∧
      (session.respond outcome).value.1.SameBut table (session'.respond outcome').value.1 := by
  -- either both sessions have an active prompt or neither has one
  have hcontext := h.context
  cases hactive : session.context with
  | none =>
    rw [hactive] at hcontext
    rw [Session.respond, Session.respond, hactive, Option.map_eq_none_iff.1 hcontext]
    exact ⟨rfl, rfl, h⟩
  | some context =>
    rw [hactive] at hcontext
    obtain ⟨context', hactive', hsame⟩ := Option.map_eq_some_iff.1 hcontext
    rw [notices_respond hactive, notices_respond hactive', value_respond hactive,
      value_respond hactive', houtcome context context' hsame]
    refine ⟨rfl, ?_⟩
    cases (outcome context).value with
    | error fault => exact ⟨rfl, h⟩
    | ok event => exact ⟨rfl, h.after event⟩

end Session.SameBut

theorem notices_openPrompt (session : Session) (state : Game.State) (descriptor : Descriptor) :
    (session.openPrompt state descriptor).notices =
      (process session.settings state descriptor).notices ++
        match (process session.settings state descriptor).value with
        | .ok (some context) => (context.view session.settings).notices
        | _ => [] := by
  rw [Session.openPrompt, Logged.notices_bind]
  rw [show (process session.settings state descriptor).run.value =
    (process session.settings state descriptor).value from rfl]
  rcases (process session.settings state descriptor).value with abort | _ | context
  · rfl
  · rfl
  · exact congrArg _ (List.append_nil _)

namespace Run.SameBut

variable {table : List Substitution} {run run' : Run}

theorem openPrompt (h : run.SameBut table run') (descriptor : Descriptor) :
    (run'.session.openPrompt run'.state descriptor).notices =
        (run.session.openPrompt run.state descriptor).notices ∧
      (run'.session.openPrompt run'.state descriptor).value.2.map (Option.map View.unlabelled) =
        (run.session.openPrompt run.state descriptor).value.2.map (Option.map View.unlabelled) ∧
      (run.session.openPrompt run.state descriptor).value.1.SameBut table
        (run'.session.openPrompt run'.state descriptor).value.1 := by
  obtain ⟨hnotices, hsame⟩ :=
    process_withTable run.session.settings run.state table descriptor
  rw [notices_openPrompt, notices_openPrompt, value_openPrompt, value_openPrompt,
    h.session.settings, h.state, hnotices]
  generalize (process run.session.settings run.state descriptor).value = ended at hsame ⊢
  generalize (process (run.session.settings.withTable table) run.state descriptor).value =
    ended' at hsame ⊢
  cases hsame with
  | aborted abort => exact ⟨rfl, rfl, h.session.close⟩
  | notShown => exact ⟨rfl, rfl, h.session.close⟩
  | @shown context context' same =>
    have hviews : (context'.view (run.session.settings.withTable table)).notices =
          (context.view run.session.settings).notices ∧
        (context'.view (run.session.settings.withTable table)).value.map View.unlabelled =
          (context.view run.session.settings).value.map View.unlabelled := Context.view_eq same
    obtain ⟨hviewed, hview⟩ := hviews
    refine ⟨congrArg _ hviewed, ?_, rfl, congrArg some same⟩
    -- the labels are dropped from the view before or after it becomes the answer
    have hanswer (drawn : Except Text.Oversized View) :
        ((drawn.map some).mapError Failure.oversized).map (Option.map View.unlabelled) =
          ((drawn.map View.unlabelled).map some).mapError .oversized := by
      cases drawn <;> rfl
    simp only [hanswer, hview]

/-- **One step under another table.** -/
theorem step (h : run.SameBut table run') (request : Request) :
    replyUnlabelled ⟨(run'.step request).notices, run'.answer request⟩ =
        replyUnlabelled ⟨(run.step request).notices, run.answer request⟩ ∧
      (run.next request).SameBut table (run'.next request) := by
  unfold replyUnlabelled answer next Run.step
  cases request with
  | openPrompt descriptor =>
    obtain ⟨hnotices, hvalue, hsession⟩ := h.openPrompt descriptor
    -- the labels are dropped from the answer or from the view in it, which is the same
    have hanswer (outcome : Except Failure (Option View)) :
        (outcome.map Answer.view).map Answer.unlabelled =
          (outcome.map (Option.map View.unlabelled)).map .view := by
      cases outcome <;> rfl
    simp only [Logged.notices_bind, Logged.value_bind, Logged.notices_pure, Logged.value_pure,
      hnotices, hanswer, hvalue]
    exact ⟨trivial, hsession, h.state⟩
  | confirm row =>
    have hsettings : run'.session.settings = run.session.settings.withTable table :=
      h.session.settings
    have houtcome : ∀ context context' : Context, context'.unlabelled = context.unlabelled →
        context'.confirm run'.session.settings row = context.confirm run.session.settings row := by
      intro context context' hsame
      rw [hsettings, Context.confirm_eq hsame]
    obtain ⟨hnotices, hvalue, hsession⟩ := h.session.respond houtcome
    simp only [Logged.notices_bind, Logged.value_bind, Logged.notices_pure, Logged.value_pure,
      Session.confirm, hnotices, hvalue]
    exact ⟨trivial, hsession, h.state⟩
  | cancel =>
    have hsettings : run'.session.settings = run.session.settings.withTable table :=
      h.session.settings
    have houtcome : ∀ context context' : Context, context'.unlabelled = context.unlabelled →
        context'.cancel run'.session.settings = context.cancel run.session.settings := by
      intro context context' hsame
      rw [hsettings, Context.cancel_eq hsame]
    obtain ⟨hnotices, hvalue, hsession⟩ := h.session.respond houtcome
    simp only [Logged.notices_bind, Logged.value_bind, Logged.notices_pure, Logged.value_pure,
      Session.cancel, hnotices, hvalue]
    exact ⟨trivial, hsession, h.state⟩
  | close => exact ⟨rfl, h.session.close, h.state⟩
  | change change => exact ⟨rfl, h.session, congrArg (·.apply change) h.state⟩

end Run.SameBut

/-- **Runs under another table** are answered alike, but for the labels of views. -/
theorem Run.replies_withTable {table : List Substitution} {run run' : Run}
    (h : run.SameBut table run') (requests : List Request) :
    (run'.steps requests).2.map replyUnlabelled = (run.steps requests).2.map replyUnlabelled := by
  induction requests generalizing run run' with
  | nil => rfl
  | cons request requests ih =>
    obtain ⟨hreply, hnext⟩ := h.step request
    rw [Run.answers_cons, Run.answers_cons, List.map_cons, List.map_cons, hreply, ih hnext]

end GatedPrompt.Prompt
