import GatedPrompt.Proofs.Definitions.Escapes
import GatedPrompt.Proofs.Definitions.Versions

/-!
# Replies of repositories

What a repository may reply to a request, whatever its file holds: an answer, one of the failures
that reading is meant to have, or that an id is unknown if the request names one. Only while nothing
is loaded can a foreign failure escape, and it does so exactly on the contents that are hazards.

* `ScenarioHazard` and `SettingsHazard` — those contents;
* `asks_stage` — what is kept in the course of a run;
* `Replies` and `Guarded` — the replies to a request, and to all requests in all runs;
* `guarded_scenario` and `guarded_settings` — the repositories of both kinds are guarded.
-/

namespace GatedPrompt.Definitions

open Storage (Lookup Path)

variable {ρ α κ β ν : Type}

/-! ## Hazards -/

/-- A file from which a foreign failure escapes instead of a scenario. -/
def ScenarioHazard (room : Room) (path : Path) (found : Lookup) : Prop :=
  Illegible room found ∨ ∃ members, readDocument room path found = .ok members ∧
    ∃ snapshot, snapshotIn members = .ok snapshot ∧ StateEscapes snapshot

/-- A file from which a foreign failure escapes instead of settings. -/
def SettingsHazard (room : Room) (path : Path) (found : Lookup) : Prop :=
  Illegible room found ∨
    ∃ members, readDocument room path found = .ok members ∧ SettingsEscape room members

theorem escapesIff_contents {kind : Kind κ β ν} {room : Room} {P : Members → Prop}
    (hdefine : ∀ members, EscapesIff (P members) (kind.define room members).value) (path : Path)
    (found : Lookup) :
    EscapesIff
      (Illegible room found ∨ ∃ members, readDocument room path found = .ok members ∧ P members)
      (kind.contents room path found).value := by
  rw [Kind.contents, value_bind_eq]
  exact (escapesIff_readDocument path found).bind hdefine

theorem escapesIff_scenarioOf (members : Members) :
    EscapesIff (∃ snapshot, snapshotIn members = .ok snapshot ∧ StateEscapes snapshot)
      (scenarioOf members) :=
  ((meant_requireObject _ _).bind fun snapshot =>
    (escapesIff_readState snapshot).bind_last fun _ =>
    (meant_requireObject _ _).bind_last fun _ =>
    (meant_readPrompts _).bind_last fun _ => .ok _).congr (by simp [snapshotIn])

theorem escapesIff_scenario (room : Room) (path : Path) (found : Lookup) :
    EscapesIff (ScenarioHazard room path found) (Kind.scenario.contents room path found).value :=
  escapesIff_contents escapesIff_scenarioOf path found

theorem escapesIff_settings (room : Room) (path : Path) (found : Lookup) :
    EscapesIff (SettingsHazard room path found) (Kind.settings.contents room path found).value :=
  escapesIff_contents escapesIff_readSettings path found

/-! ## Replies -/

/-- A reply as it is promised to a request that names an id or none. -/
inductive Regular (name : Option Text) : Except Failure β → Prop where
  | answer (b : β) : Regular name (.ok b)
  | refused {failure : Failure} (data : failure.isData = true) : Regular name (.error failure)
  | unknown {id : Text} (h : name = some id) : Regular name (.error (.unknown id))

/-- A foreign failure is the reply just if something holds; else the reply is as it is promised. -/
inductive Replies (P : Prop) (name : Option Text) (reply : Except Failure β) : Prop where
  | regular (regular : Regular name reply) (not : ¬P)
  | escapes (failure : Failure) (value : reply = .error failure)
      (foreign : failure.isForeign = true) (holds : P)

/-- The id that a query names. -/
def ScenarioQuery.name? : ScenarioQuery → Option Text
  | .prompt id => some id
  | _ => none

/-- The id that a query names. -/
def SettingsQuery.name? : SettingsQuery → Option Text
  | .named id => some id
  | .whole => none

theorem Scenario.regular_answer (scenario : Scenario) (query : ScenarioQuery) :
    Regular query.name? (scenario.answer query) := by
  cases query with
  | prompt id =>
    rw [Scenario.answer, Prompts.named]
    cases scenario.prompts.lookup id with
    | some descriptor => exact .answer _
    | none => exact .unknown rfl
  | promptIds => exact .answer _
  | state => exact .answer _

theorem regular_answerSettings (settings : Prompt.Settings) (query : SettingsQuery) :
    Regular query.name? (answerSettings none settings query) := by
  cases query with
  | whole => exact .answer _
  | named id =>
    rw [answerSettings, settingsNamed]
    split
    · exact .answer _
    · exact .unknown rfl

section

variable {kind : Kind κ β ν} {answer : Option ρ → α → κ → Except Failure β}
  {repository : Repository ρ α}

open Repository

/-- In the course of a run nothing but a record is kept, or the definitions of some version. -/
theorem asks_stage (himpl : Implements kind answer repository.read)
    (hloaded : repository.loaded = none) (requests : List (Request κ)) :
    (∃ record, (repository.asks answer requests).1 = { repository with record }) ∨
      ∃ record definitions version,
        (repository.asks answer requests).1 =
          { repository with record, loaded := some definitions } ∧
        ∀ query, answer record definitions query = kind.answer version query := by
  -- by induction on the requests: a failed one leaves the same situation with another record, and
  -- behind one that has read something nothing changes any more
  induction requests generalizing repository with
  | nil => exact .inl ⟨repository.record, rfl⟩
  | cons request requests ih =>
    rw [asks]
    obtain ⟨outcome, hask, houtcome⟩ := ask_outcome repository himpl hloaded request
    rw [hask]
    generalize (kind.contentsAt repository.path request).value = contents at houtcome
    cases houtcome with
    | failed record failure => exact @ih { repository with record } himpl hloaded
    | @read version record definitions answers =>
      simp only [asks_of_loaded { repository with record, loaded := some definitions } rfl]
      exact .inr ⟨record, definitions, version, rfl, answers⟩

theorem replies_current {P : Prop} {name? : κ → Option Text} {path : Path} {request : Request κ}
    (hcontents : EscapesIff P (kind.contentsAt path request).value)
    (hregular : ∀ version query, Regular (name? query) (kind.answer version query)) :
    Replies P (name? request.query) (kind.current path request).value := by
  rw [Kind.current_eq]
  cases hcontents with
  | read version value not =>
    rw [value]
    exact .regular (hregular version request.query) not
  | refused failure value data not =>
    rw [value]
    exact .regular (.refused data) not
  | escapes failure value foreign holds =>
    rw [value]
    exact .escapes failure rfl foreign holds

end

/-- Whatever files the requests before have met, each request has a reply as it is promised, unless
nothing is loaded yet and the file is a hazard. -/
structure Guarded (hazard : Room → Path → Lookup → Prop) (name? : κ → Option Text)
    (answer : Option ρ → α → κ → Except Failure β) (repository : Repository ρ α) : Prop where
  replies : ∀ (before : List (Repository.Request κ)) (request : Repository.Request κ),
    let next := (repository.asks answer before).1
    Replies
      (next.loaded = none ∧ hazard request.room repository.path (request.files repository.path))
      (name? request.query) (next.ask answer request).value.2

theorem Implements.guarded {kind : Kind κ β ν} {answer : Option ρ → α → κ → Except Failure β}
    {repository : Repository ρ α} {hazard : Room → Path → Lookup → Prop}
    {name? : κ → Option Text} (himpl : Implements kind answer repository.read)
    (hloaded : repository.loaded = none)
    (hcontents : ∀ room path found,
      EscapesIff (hazard room path found) (kind.contents room path found).value)
    (hregular : ∀ version query, Regular (name? query) (kind.answer version query)) :
    Guarded hazard name? answer repository where
  replies before request := by
    rcases asks_stage himpl hloaded before with
      ⟨record, hstage⟩ | ⟨record, definitions, version, hstage, hanswers⟩
    · obtain ⟨outcome, hask, -⟩ := ask_outcome { repository with record } himpl hloaded request
      simp only [hstage, hloaded, true_and] at hask ⊢
      rw [hask]
      exact replies_current (hcontents _ _ _) hregular
    · -- what is loaded answers without the file, so that nothing escapes from it
      have hreply : ((repository.asks answer before).1.ask answer request).value.2 =
          kind.answer version request.query := by
        rw [hstage, Repository.ask, Repository.fetch_of_loaded rfl, ← hanswers]
        rfl
      simp only [hreply]
      exact .regular (hregular version request.query) (by simp [hstage])

theorem guarded_scenario (directory : Path) (file : String) :
    Guarded ScenarioHazard ScenarioQuery.name? answerScenario (.scenario directory file) :=
  (implements_scenario directory file).guarded rfl escapesIff_scenario Scenario.regular_answer

theorem guarded_settings (directory : Path) :
    Guarded SettingsHazard SettingsQuery.name? answerSettings (.settings directory) :=
  (implements_settings directory).guarded rfl escapesIff_settings regular_answerSettings

end GatedPrompt.Definitions
