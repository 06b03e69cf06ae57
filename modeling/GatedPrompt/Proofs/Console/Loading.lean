import GatedPrompt.Console.App
import GatedPrompt.Proofs.Definitions.Replies

/-!
# Loading the definitions

The program reads its definitions before it shows anything. Failures that reading is meant to have,
and ids that are unknown, end it with a message; foreign failures get past that, and so does a
message that the stream cannot show.

* `value_loadTask` — what the program goes on with, from the versions in its files;
* `LoadingHazard` — the files on which a foreign failure ends the program;
* `Leaves` — how the program gets on behind the loading;
* `guarded_loading` — the replies of repositories and the loading of the program, for all contents
  of their files;
* `not_guarded_contents` — contents that get past both.
-/

namespace GatedPrompt.Console

open Definitions
open Prompt (Descriptor)
open Storage (Lookup Path)

/-! ## What is loaded -/

theorem selectPrompts_congr {prompts prompts' : Prompts} (hids : prompts.ids = prompts'.ids)
    (hnamed : ∀ id, prompts.named id = prompts'.named id) (arguments : Arguments) :
    selectPrompts arguments prompts = selectPrompts arguments prompts' := by
  have hselect : selectIds arguments prompts = selectIds arguments prompts' := by
    rw [selectIds, selectIds, hids]
  rw [selectPrompts, selectPrompts, hselect]
  simp only [hnamed]

/-- Selecting prompts fails for one cause only: an id that no prompt has. -/
theorem exists_unknown_of_selectPrompts {arguments : Arguments} {prompts : Prompts}
    {failure : Failure} (h : selectPrompts arguments prompts = .error failure) :
    ∃ id, failure = .unknown id := by
  rw [selectPrompts] at h
  -- by induction on the ids, whichever of the two lists they are
  generalize selectIds arguments prompts = ids at h
  induction ids with
  | nil => cases h
  | cons id ids ih =>
    rw [List.mapM_cons, bind_eq_error_iff] at h
    rcases h with h | ⟨first, -, h⟩
    · refine ⟨id, ?_⟩
      rw [Prompts.named] at h
      cases hlookup : prompts.lookup id with
      | some descriptor =>
        rw [hlookup] at h
        cases h
      | none =>
        rw [hlookup] at h
        cases h
        rfl
    · rcases bind_eq_error_iff.1 h with h | ⟨others, -, h⟩
      · exact ih h
      · cases h

/-- What a repository keeps of a scenario is known by its answers, and these are enough for the
program. -/
theorem loaded_of_answers {record : Option Members} {prompts : Prompts} {scenario : Scenario}
    (h : ∀ query, answerScenario record prompts query = Kind.scenario.answer scenario query) :
    (∀ arguments, selectPrompts arguments prompts = selectPrompts arguments scenario.prompts) ∧
      stateOf record = .ok scenario.state := by
  have hids := h .promptIds
  have hnamed := fun id => h (.prompt id)
  have hstate := h .state
  simp only [answerScenario, Kind.scenario, Scenario.answer] at hids hnamed hstate
  refine ⟨selectPrompts_congr (by simpa using hids) fun id => ?_, ?_⟩
  · have hprompt := hnamed id
    cases hleft : prompts.named id <;> cases hright : scenario.prompts.named id <;>
      simp_all [Except.map]
  · cases hkept : stateOf record <;> simp_all [Except.map]

/-- What the program goes on with, from the versions in its files. -/
theorem value_loadTask (setting : Setting) (source : Source) (files : Path → Lookup)
    (arguments : Arguments) :
    let scenarioPath := source.directory.join source.scenario
    let settingsPath := source.directory.join settingsFile
    (setting.loadTask source files arguments).value = (do
      let scenario ←
        (Kind.scenario.contents setting.scenarioRoom scenarioPath (files scenarioPath)).value
      let prompts ← selectPrompts arguments scenario.prompts
      if arguments.check then return .check prompts
      let settings ←
        (Kind.settings.contents setting.settingsRoom settingsPath (files settingsPath)).value
      return .play settings scenario.state prompts) := by
  intro scenarioPath settingsPath
  have hofExcept {α : Type} (x : Except Failure α) : (Attempt.ofExcept x).value = x := rfl
  -- what is fetched is what is loaded, since the program has read nothing before
  obtain ⟨outcome, hload, houtcome⟩ :=
    load_outcome (implements_scenario source.directory source.scenario) setting.scenarioRoom
      (files scenarioPath)
  obtain ⟨outcome', hload', houtcome'⟩ :=
    load_outcome (implements_settings source.directory) setting.settingsRoom (files settingsPath)
  replace hload : (Repository.scenario source.directory source.scenario).fetch
    setting.scenarioRoom files = _ := hload
  replace hload' : (Repository.settings source.directory).fetch setting.settingsRoom files = _ :=
    hload'
  replace houtcome : LoadOutcome _ _ _
    (Kind.scenario.contents setting.scenarioRoom scenarioPath (files scenarioPath)).value outcome :=
      houtcome
  replace houtcome' : LoadOutcome _ _ _
    (Kind.settings.contents setting.settingsRoom settingsPath (files settingsPath)).value outcome' :=
      houtcome'
  rw [Setting.loadTask, hload, hload']
  simp only [value_bind_eq, Attempt.value_lift, hofExcept, apply_ite Attempt.value,
    Attempt.value_pure]
  generalize (Kind.scenario.contents setting.scenarioRoom scenarioPath
    (files scenarioPath)).value = scenario at houtcome ⊢
  generalize (Kind.settings.contents setting.settingsRoom settingsPath
    (files settingsPath)).value = settings at houtcome' ⊢
  cases houtcome with
  | failed record failure => rfl
  | @read scenario record prompts answers =>
    obtain ⟨hselect, hstate⟩ := loaded_of_answers answers
    simp only [bind, Except.bind, hselect, hstate]
    cases selectPrompts arguments scenario.prompts with
    | error failure => rfl
    | ok selected =>
      cases houtcome' with
      | failed record failure => rfl
      | read record definitions answers =>
        obtain rfl := Except.ok.inj (answers .whole)
        rfl

/-! ## How the loading ends -/

/-- A text is refused if the stream lacks any of its code points. -/
theorem Encoding.refusal?_eq_none_iff {encoding : Encoding} {text : Text} :
    encoding.refusal? text = none ↔ ∀ point ∈ text.points, encoding.has point = true := by
  rw [← List.dropWhile_eq_nil_iff, refusal?]
  cases text.points.dropWhile encoding.has with
  | nil => simp
  | cons first rest => simp

/-- The files on which a foreign failure ends the program while it loads. The settings count only if
they are come to: behind a scenario and prompts that can be had, and not for a check of these. -/
def LoadingHazard (setting : Setting) (source : Source) (files : Path → Lookup)
    (arguments : Arguments) : Prop :=
  let scenarioPath := source.directory.join source.scenario
  let settingsPath := source.directory.join settingsFile
  ScenarioHazard setting.scenarioRoom scenarioPath (files scenarioPath) ∨
    (∃ scenario,
      (Kind.scenario.contents setting.scenarioRoom scenarioPath (files scenarioPath)).value =
        .ok scenario ∧ IsRead (selectPrompts arguments scenario.prompts)) ∧
    arguments.check = false ∧
    SettingsHazard setting.settingsRoom settingsPath (files settingsPath)

/-- How the program gets on behind the loading: with what is loaded, or not at all. Then it ends
after a message, if the stream has all of that, or, just if something holds, without one. -/
inductive Leaves (P : Prop) (setting : Setting) (source : Source) (files : Path → Lookup)
    (arguments : Arguments) : Prop where
  | loaded (task : Task) (value : (setting.loadTask source files arguments).value = .ok task)
      (launch : setting.launchFrom source files arguments = (do
        Dialogue.note (setting.loadTask source files arguments).notices
        task.start setting.encoding))
      (not : ¬P)
  | refused (failure : Failure) (expected : failure.isExpected = true)
      (shown : ∀ point ∈ (loadMessage failure).points, setting.encoding.has point = true)
      (launch : setting.launchFrom source files arguments =
        ⟨⟨loadMessage failure, (setting.loadTask source files arguments).notices⟩,
          .error (.exit 1)⟩)
      (not : ¬P)
  | unprintable (failure : Failure) (expected : failure.isExpected = true)
      (lacking : ∃ point ∈ (loadMessage failure).points, setting.encoding.has point = false)
      (launch : ∃ unprintable, setting.launchFrom source files arguments =
        ⟨⟨"", (setting.loadTask source files arguments).notices⟩,
          .error (.crash (.unprintable unprintable))⟩)
      (not : ¬P)
  | crashes (failure : Failure) (foreign : failure.isForeign = true)
      (launch : setting.launchFrom source files arguments =
        ⟨⟨"", (setting.loadTask source files arguments).notices⟩,
          .error (.crash (.definitions failure))⟩)
      (holds : P)

section

variable {setting : Setting} {source : Source} {files : Path → Lookup} {arguments : Arguments}

theorem launchFrom_of_ok {task : Task}
    (h : (setting.loadTask source files arguments).value = .ok task) :
    setting.launchFrom source files arguments = (do
      Dialogue.note (setting.loadTask source files arguments).notices
      task.start setting.encoding) := by
  have hrun : (setting.loadTask source files arguments).run =
      ⟨(setting.loadTask source files arguments).notices, .ok task⟩ := Logged.ext_of rfl h
  simp only [Setting.launchFrom, hrun]

theorem launchFrom_of_error {failure : Failure}
    (h : (setting.loadTask source files arguments).value = .error failure) :
    setting.launchFrom source files arguments = (do
      Dialogue.note (setting.loadTask source files arguments).notices
      loadFailed setting.encoding failure) := by
  have hrun : (setting.loadTask source files arguments).run =
      ⟨(setting.loadTask source files arguments).notices, .error failure⟩ := Logged.ext_of rfl h
  simp only [Setting.launchFrom, hrun]

variable {P : Prop}

theorem Leaves.of_expected {failure : Failure}
    (h : (setting.loadTask source files arguments).value = .error failure)
    (hexpected : failure.isExpected = true) (not : ¬P) :
    Leaves P setting source files arguments := by
  have hlaunch := launchFrom_of_error h
  rw [loadFailed, if_pos hexpected] at hlaunch
  -- the message is printed as a whole or not at all
  cases hrefusal : setting.encoding.refusal? (loadMessage failure) with
  | none =>
    rw [Dialogue.print_stop_of_shown hrefusal] at hlaunch
    exact .refused failure hexpected (Encoding.refusal?_eq_none_iff.1 hrefusal)
      (hlaunch.trans (Dialogue.ext_of (Screen.ext_of rfl (List.append_nil _)) rfl)) not
  | some unprintable =>
    have hlacking : ¬∀ point ∈ (loadMessage failure).points, setting.encoding.has point = true := by
      rw [← Encoding.refusal?_eq_none_iff, hrefusal]
      exact nofun
    rw [Dialogue.print_of_refused hrefusal, Dialogue.stop_bind, Dialogue.note_stop] at hlaunch
    exact .unprintable failure hexpected (by simpa using hlacking) ⟨unprintable, hlaunch⟩ not

theorem Leaves.of_foreign {failure : Failure}
    (h : (setting.loadTask source files arguments).value = .error failure)
    (hforeign : failure.isForeign = true) (holds : P) :
    Leaves P setting source files arguments := by
  have hunexpected : ¬failure.isExpected = true := by
    cases failure <;> simp_all [Failure.isForeign, Failure.isExpected]
  have hlaunch := launchFrom_of_error h
  rw [loadFailed, if_neg hunexpected, Dialogue.note_stop] at hlaunch
  exact .crashes failure hforeign hlaunch holds

theorem isExpected_of_isData {failure : Failure} (h : failure.isData = true) :
    failure.isExpected = true := by
  cases failure <;> simp_all [Failure.isData, Failure.isExpected]

theorem leaves_launchFrom (setting : Setting) (source : Source) (files : Path → Lookup)
    (arguments : Arguments) :
    Leaves (LoadingHazard setting source files arguments) setting source files arguments := by
  have htask := value_loadTask setting source files arguments
  simp only [LoadingHazard] at htask ⊢
  -- the parts of the equation are settled one after the other, as the program comes to them
  cases escapesIff_scenario setting.scenarioRoom (source.directory.join source.scenario)
      (files (source.directory.join source.scenario)) with
  | escapes failure value foreign holds =>
    rw [value] at htask
    exact .of_foreign htask foreign (.inl holds)
  | refused failure value data not =>
    rw [value] at htask
    refine .of_expected htask (isExpected_of_isData data) ?_
    simp [not, value]
  | read scenario value not =>
    simp only [value, bind, Except.bind] at htask
    simp only [not, value, Except.ok.injEq, exists_eq_left', false_or]
    cases hselect : selectPrompts arguments scenario.prompts with
    | error failure =>
      obtain ⟨id, rfl⟩ := exists_unknown_of_selectPrompts hselect
      rw [hselect] at htask
      refine .of_expected htask rfl ?_
      rintro ⟨⟨selected, h⟩, -⟩
      cases h
    | ok selected =>
      simp only [hselect] at htask
      cases hcheck : arguments.check with
      | true =>
        -- a check needs no settings, so theirs are no hazard then
        simp only [hcheck, if_true] at htask
        exact .loaded _ htask (launchFrom_of_ok htask) (by simp)
      | false =>
        have hread : IsRead (.ok selected : Except Failure _) := ⟨selected, rfl⟩
        simp only [hread, true_and]
        cases escapesIff_settings setting.settingsRoom (source.directory.join settingsFile)
            (files (source.directory.join settingsFile)) with
        | read settings value not =>
          simp only [hcheck, value] at htask
          exact .loaded _ htask (launchFrom_of_ok htask) not
        | refused failure value data not =>
          simp only [hcheck, value] at htask
          exact .of_expected htask (isExpected_of_isData data) not
        | escapes failure value foreign holds =>
          simp only [hcheck, value] at htask
          exact .of_foreign htask foreign holds

end

/-- **Repositories and the program are guarded.** Whatever their files hold and however much room
there is, requests have the replies that are promised and the loading ends as it is meant, unless
the contents are a hazard or the stream lacks a part of the message. -/
theorem guarded_loading (source : Source) :
    Guarded ScenarioHazard ScenarioQuery.name? answerScenario
        (.scenario source.directory source.scenario) ∧
      Guarded SettingsHazard SettingsQuery.name? answerSettings (.settings source.directory) ∧
      ∀ (setting : Setting) files arguments,
        Leaves (LoadingHazard setting source files arguments) setting source files arguments :=
  ⟨guarded_scenario source.directory source.scenario, guarded_settings source.directory,
    fun setting => leaves_launchFrom setting source⟩

theorem not_regular_of_isExpected_eq_false {α : Type} {failure : Failure}
    (h : failure.isExpected = false) (name : Option Text) :
    ¬Regular name (.error failure : Except Failure α) := by
  intro hregular
  cases hregular with
  | refused data => simp [isExpected_of_isData data] at h
  | unknown => cases h

deriving instance DecidableEq for Dialogue

/-- **Contents that get past the guards.** A byte that is no text, and a switch with a superscript
for its key, reach neither what is promised of replies nor the message of the program; a surrogate
in the id of a prompt gets into the message and cannot be shown. -/
theorem not_guarded_contents :
    let ascii (text : String) : List UInt8 := text.toList.map fun c => .ofNat c.toNat
    let undecodable : Lookup := .bytes [0xFF]
    let stray : Lookup := .bytes (ascii "\x7b\"state\": \x7b\"switches\": \x7b\"" ++
      [0xC2, 0xB2] ++ ascii "\": true\x7d\x7d, \"prompts\": \x7b\x7d\x7d")
    let surrogate : Lookup := .bytes
      (ascii "\x7b\"state\": \x7b\x7d, \"prompts\": \x7b\"\\ud800\": 1\x7d\x7d")
    let room : Room := ⟨985, 984, 983, 987⟩
    let reply := ((Repository.scenario (.ofString ".") scenarioFile).ask answerScenario
      ⟨room, fun _ => undecodable, .promptIds⟩).value.2
    let setting : Setting := ⟨none, .ofString ".", .utf8, room, room⟩
    let launched (found : Lookup) :=
      setting.launchFrom ⟨.ofString ".", scenarioFile⟩ (fun _ => found) {}
    ¬Regular none reply ∧
      launched undecodable =
        ⟨{}, .error (.crash (.definitions (.encoding (.badStart ⟨0xFF, 0, 1⟩))))⟩ ∧
      launched stray = ⟨{}, .error (.crash (.definitions (.notANumeral "²")))⟩ ∧
      launched surrogate = ⟨{}, .error (.crash (.unprintable
        ⟨"utf-8", "surrogates not allowed", .surrogate 0, 43, 1⟩))⟩ := by
  refine ⟨?_, by decide +kernel, by decide +kernel, by decide +kernel⟩
  have hreply : ((Repository.scenario (.ofString ".") scenarioFile).ask answerScenario
      ⟨⟨985, 984, 983, 987⟩, fun _ => .bytes [0xFF], .promptIds⟩).value.2 =
        .error (.encoding (.badStart ⟨0xFF, 0, 1⟩)) := by decide +kernel
  rw [hreply]
  exact not_regular_of_isExpected_eq_false rfl none

end GatedPrompt.Console
