import GatedPrompt.Definitions.Repository
import GatedPrompt.Proofs.Definitions.PromptIds
import GatedPrompt.Proofs.Json.Members

/-!
# Versions of a file

The file behind a repository may change between two requests. Until it could be read once, every
request is answered from the file of its moment; from then on the answers are those of the version
that was read. A repository keeps its definitions apart from its record, and the record is taken
first: the version that both go back to is what holds them together.

* `Kind` — what an object defines and how that answers, without anything that is kept;
* `Follows` — what is read of an object gives the answers of the version, whatever was recorded
  before;
* `LoadOutcome` — what one load comes to (`load_outcome`);
* `asks_of_failed` and `asks_of_loaded` — a run before and behind the first version;
* `Consistent` — a run is answered from one version (`Implements.consistent`);
* `Orderly` — the answers of a scenario from its object;
* `oneVersion_repositories` — all of this for the repositories of a directory.
-/

namespace GatedPrompt.Definitions

open Prompt (Descriptor Settings)
open Storage (Lookup Path)

variable {ρ α κ β ν : Type}

/-! ## Kinds of definitions -/

/-- A kind of definitions: the version that an object holds, and its answers. Where a text inside
the object is read, it depends on the room whether there is a version. -/
structure Kind (κ β ν : Type) where
  define : Room → Members → Attempt Failure ν
  answer : ν → κ → Except Failure β

namespace Kind

/-- The version that a file holds. -/
def contents (kind : Kind κ β ν) (room : Room) (path : Path) (found : Lookup) :
    Attempt Failure ν := do
  kind.define room (← Attempt.ofExcept (readDocument room path found))

/-- The version that the file of a request holds. -/
def contentsAt (kind : Kind κ β ν) (path : Path) (request : Repository.Request κ) :
    Attempt Failure ν :=
  kind.contents request.room path (request.files path)

/-- The answer to a request from the file of its moment. -/
def current (kind : Kind κ β ν) (path : Path) (request : Repository.Request κ) :
    Logged (Except Failure β) := do
  let version ← (kind.contentsAt path request).run
  return version.bind fun version => kind.answer version request.query

/-- Whether the file of a request holds no version. -/
def Fails (kind : Kind κ β ν) (path : Path) (request : Repository.Request κ) : Prop :=
  ∃ failure, (kind.contentsAt path request).value = .error failure

variable {kind : Kind κ β ν} {room : Room} {path : Path} {found : Lookup}

theorem contents_of_error {failure : Failure} (h : readDocument room path found = .error failure) :
    kind.contents room path found = throw failure := by
  rw [contents, h]
  rfl

theorem contents_of_ok {members : Members} (h : readDocument room path found = .ok members) :
    kind.contents room path found = kind.define room members := by
  rw [contents, h]
  rfl

theorem current_eq (request : Repository.Request κ) :
    kind.current path request =
      ⟨(kind.contentsAt path request).notices,
        (kind.contentsAt path request).value.bind fun version =>
          kind.answer version request.query⟩ :=
  Logged.ext_of (List.append_nil _) rfl

end Kind

/-! ## What is kept of an object -/

/-- What is read of an object goes with the version that it holds: both fail alike, or what is kept
gives the answers of the version, also beside a record that is older. -/
inductive Follows (kind : Kind κ β ν) (answer : Option ρ → α → κ → Except Failure β) :
    Option ρ × Except Failure α → Except Failure ν → Prop where
  | failed (record : Option ρ) (failure : Failure) :
      Follows kind answer (record, .error failure) (.error failure)
  | read {record : Option ρ} {definitions : α} {version : ν}
      (answers : ∀ older query,
        answer (record.or older) definitions query = kind.answer version query) :
      Follows kind answer (record, .ok definitions) (.ok version)

/-- Objects are read as a kind of definitions says, with the same notices. -/
structure Implements (kind : Kind κ β ν) (answer : Option ρ → α → κ → Except Failure β)
    (read : Room → Members → Logged (Option ρ × Except Failure α)) : Prop where
  notices : ∀ room members, (read room members).notices = (kind.define room members).notices
  follows : ∀ room members,
    Follows kind answer (read room members).value (kind.define room members).value

/-- What a load comes to, with the version that is in the file: a failure that leaves at most a
record behind, or definitions that give the answers of the version beside the record that is
kept. -/
inductive LoadOutcome (kind : Kind κ β ν) (answer : Option ρ → α → κ → Except Failure β)
    (repository : Repository ρ α) :
    Except Failure ν → Repository ρ α × Except Failure α → Prop where
  | failed (record : Option ρ) (failure : Failure) :
      LoadOutcome kind answer repository (.error failure)
        ({ repository with record }, .error failure)
  | read {version : ν} (record : Option ρ) (definitions : α)
      (answers : ∀ query, answer record definitions query = kind.answer version query) :
      LoadOutcome kind answer repository (.ok version)
        ({ repository with record, loaded := some definitions }, .ok definitions)

section Load

variable {kind : Kind κ β ν} {answer : Option ρ → α → κ → Except Failure β}
  {repository : Repository ρ α}

open Repository

theorem load_outcome (himpl : Implements kind answer repository.read) (room : Room)
    (found : Lookup) :
    ∃ outcome,
      repository.load room found = ⟨(kind.contents room repository.path found).notices, outcome⟩ ∧
        LoadOutcome kind answer repository (kind.contents room repository.path found).value
          outcome := by
  rw [load]
  -- the document is read once, for the repository and for the kind alike
  cases hdocument : readDocument room repository.path found with
  | error failure =>
    -- without a document the repository stays as it was
    rw [Kind.contents_of_error hdocument]
    exact ⟨_, rfl, .failed repository.record failure⟩
  | ok members =>
    rw [Kind.contents_of_ok hdocument]
    have hnotices := himpl.notices room members
    have hfollows := himpl.follows room members
    rcases hread : repository.read room members with ⟨notices, record, outcome⟩
    rw [hread] at hnotices hfollows
    simp only [hread] at hnotices hfollows ⊢
    -- a new record goes before the old one, whether or not the definitions are in order
    generalize (kind.define room members).value = defined at hfollows ⊢
    cases hfollows with
    | failed _ failure =>
      refine ⟨_, ?_, .failed (record.or repository.record) failure⟩
      exact Logged.ext_of (by simpa using hnotices) rfl
    | read answers =>
      refine ⟨_, ?_, .read (record.or repository.record) _ (answers repository.record)⟩
      exact Logged.ext_of (by simpa using hnotices) rfl

/-- The first fetch is a load of the file of the moment. -/
theorem fetch_outcome (himpl : Implements kind answer repository.read)
    (hloaded : repository.loaded = none) (request : Request κ) :
    ∃ outcome,
      repository.fetch request.room request.files =
          ⟨(kind.contentsAt repository.path request).notices, outcome⟩ ∧
        LoadOutcome kind answer repository (kind.contentsAt repository.path request).value
          outcome := by
  rw [fetch, hloaded]
  exact load_outcome himpl request.room (request.files repository.path)

/-! ## Runs -/

theorem asks_append (before after : List (Request κ)) :
    repository.asks answer (before ++ after) =
      (((repository.asks answer before).1.asks answer after).1,
        (repository.asks answer before).2 ++
          ((repository.asks answer before).1.asks answer after).2) := by
  induction before generalizing repository with
  | nil => rfl
  | cons request before ih => simp only [List.cons_append, asks, ih]

variable (repository) in
/-- Once something is loaded, every request is answered from it and nothing changes. -/
theorem asks_of_loaded {definitions : α} (h : repository.loaded = some definitions)
    (requests : List (Request κ)) :
    repository.asks answer requests =
      (repository, requests.map fun request =>
        pure (answer repository.record definitions request.query)) := by
  induction requests with
  | nil => rfl
  | cons request requests ih =>
    have hask : repository.ask answer request =
        pure (repository, answer repository.record definitions request.query) := by
      rw [ask, fetch_of_loaded h]
      rfl
    rw [asks, hask]
    simp only [pure, ih, List.map_cons]

variable (repository) in
/-- While nothing is loaded, a request is answered from the file of its moment. -/
theorem ask_outcome (himpl : Implements kind answer repository.read)
    (hloaded : repository.loaded = none) (request : Request κ) :
    ∃ outcome,
      repository.ask answer request =
          ⟨(kind.current repository.path request).notices, outcome.1,
            (kind.current repository.path request).value⟩ ∧
        LoadOutcome kind answer repository (kind.contentsAt repository.path request).value
          outcome := by
  obtain ⟨outcome, hfetch, houtcome⟩ := fetch_outcome himpl hloaded request
  refine ⟨outcome, ?_, houtcome⟩
  rw [ask, hfetch, Kind.current_eq]
  -- the reply is made of what is kept, and comes to the answer of the version
  generalize (kind.contentsAt repository.path request).value = version at houtcome ⊢
  cases houtcome with
  | failed record failure => exact Logged.ext_of (List.append_nil _) rfl
  | read record definitions answers =>
    simp only [Except.bind, ← answers]
    exact Logged.ext_of (List.append_nil _) rfl

variable (repository) in
theorem ask_of_failed (himpl : Implements kind answer repository.read)
    (hloaded : repository.loaded = none) {request : Request κ}
    (h : kind.Fails repository.path request) :
    ∃ record, repository.ask answer request =
      ⟨(kind.current repository.path request).notices, { repository with record },
        (kind.current repository.path request).value⟩ := by
  obtain ⟨failure, h⟩ := h
  obtain ⟨outcome, hask, houtcome⟩ := ask_outcome repository himpl hloaded request
  rw [h] at houtcome
  cases houtcome with
  | failed record failure => exact ⟨record, hask⟩

variable (repository) in
theorem ask_of_read (himpl : Implements kind answer repository.read)
    (hloaded : repository.loaded = none) {request : Request κ} {version : ν}
    (h : (kind.contentsAt repository.path request).value = .ok version) :
    ∃ record definitions,
      repository.ask answer request =
        ⟨(kind.current repository.path request).notices,
          { repository with record, loaded := some definitions },
          (kind.current repository.path request).value⟩ ∧
      ∀ query, answer record definitions query = kind.answer version query := by
  obtain ⟨outcome, hask, houtcome⟩ := ask_outcome repository himpl hloaded request
  rw [h] at houtcome
  cases houtcome with
  | read record definitions answers => exact ⟨record, definitions, hask, answers⟩

/-- As long as nothing could be read, every request is answered from the file of its moment. -/
theorem asks_of_failed (himpl : Implements kind answer repository.read)
    (hloaded : repository.loaded = none) {requests : List (Request κ)}
    (h : ∀ request ∈ requests, kind.Fails repository.path request) :
    ∃ record, repository.asks answer requests =
      ({ repository with record }, requests.map (kind.current repository.path)) := by
  induction requests generalizing repository with
  | nil => exact ⟨repository.record, rfl⟩
  | cons request requests ih =>
    rw [List.forall_mem_cons] at h
    obtain ⟨record, hask⟩ := ask_of_failed repository himpl hloaded h.1
    -- the repository that is left differs in its record only
    obtain ⟨record', hasks⟩ := @ih { repository with record } himpl hloaded h.2
    exact ⟨record', by rw [asks, hask]; simp only [hasks, List.map_cons]⟩

end Load

/-- The answers of a repository come from one version of its file. -/
structure Consistent (kind : Kind κ β ν) (answer : Option ρ → α → κ → Except Failure β)
    (repository : Repository ρ α) : Prop where
  /-- While no file of a request holds a version, each request fails as the file of its moment. -/
  unsettled : ∀ requests : List (Repository.Request κ),
    (∀ request ∈ requests, kind.Fails repository.path request) →
      (repository.asks answer requests).2 = requests.map (kind.current repository.path)
  /-- The first version that is found answers for the rest of the run, without notices. -/
  settled : ∀ (before : List (Repository.Request κ)) (request : Repository.Request κ)
    (after : List (Repository.Request κ)) (version : ν),
    (∀ request ∈ before, kind.Fails repository.path request) →
      (kind.contentsAt repository.path request).value = .ok version →
        (repository.asks answer (before ++ request :: after)).2 =
          before.map (kind.current repository.path) ++ kind.current repository.path request ::
            after.map fun later => pure (kind.answer version later.query)

theorem Implements.consistent {kind : Kind κ β ν}
    {answer : Option ρ → α → κ → Except Failure β} {repository : Repository ρ α}
    (himpl : Implements kind answer repository.read) (hloaded : repository.loaded = none) :
    Consistent kind answer repository where
  unsettled requests h := by
    obtain ⟨record, hasks⟩ := asks_of_failed himpl hloaded h
    rw [hasks]
  settled before request after version hbefore hversion := by
    obtain ⟨record, hasks⟩ := asks_of_failed himpl hloaded hbefore
    -- the version is read behind whatever the failed loads have recorded
    obtain ⟨record', definitions, hask, hanswers⟩ :=
      ask_of_read { repository with record } himpl hloaded hversion
    rw [asks_append, hasks, Repository.asks, hask]
    simp only [asks_of_loaded { repository with record := record', loaded := some definitions } rfl,
      hanswers]

/-! ## The two kinds -/

/-- A scenario in one piece. -/
structure Scenario where
  state : Game.State
  prompts : Prompts

/-- The scenario that an object defines. -/
def scenarioOf (members : Members) : Except Failure Scenario := do
  let snapshot ← snapshotIn members
  let state ← readState snapshot
  let written ← promptsIn members
  let prompts ← readPrompts written
  return ⟨state, prompts⟩

def Scenario.answer (scenario : Scenario) : ScenarioQuery → Except Failure ScenarioAnswer
  | .prompt id => (scenario.prompts.named id).map .prompt
  | .promptIds => .ok (.promptIds scenario.prompts.ids)
  | .state => .ok (.state scenario.state)

namespace Kind

def scenario : Kind ScenarioQuery ScenarioAnswer Scenario where
  define _ members := Attempt.ofExcept (scenarioOf members)
  answer := Scenario.answer

def settings : Kind SettingsQuery Settings Settings where
  define := readSettings
  answer settings := answerSettings none settings

end Kind

theorem follows_readScenario (members : Members) :
    Follows Kind.scenario answerScenario (readScenario members) (scenarioOf members) := by
  rw [readScenario, scenarioOf]
  cases snapshotIn members with
  | error failure => exact .failed _ _
  | ok snapshot =>
    simp only [bind, Except.bind]
    cases hstate : readState snapshot with
    | error failure => exact .failed _ _
    | ok state =>
      cases promptsIn members with
      | error failure => exact .failed _ _
      | ok written =>
        cases hprompts : readPrompts written with
        | error failure =>
          simp only [hprompts]
          exact .failed _ _
        | ok prompts =>
          simp only [hprompts]
          refine .read fun older query => ?_
          -- the record is read once more for each request, and comes to the same state
          cases query with
          | prompt id => rfl
          | promptIds => rfl
          | state =>
            simp [answerScenario, stateOf, hstate, Kind.scenario, Scenario.answer, Except.map]

theorem implements_scenario (directory : Path) (file : String) :
    Implements Kind.scenario answerScenario (Repository.scenario directory file).read where
  notices _ _ := rfl
  follows _ := follows_readScenario

theorem implements_settings (directory : Path) :
    Implements Kind.settings answerSettings (Repository.settings directory).read where
  notices _ _ := List.append_nil _
  follows room members := by
    have hvalue : ((Repository.settings directory).read room members).value =
        (none, (readSettings room members).value) := rfl
    rw [hvalue, Kind.settings]
    cases (readSettings room members).value with
    | error failure => exact .failed _ _
    | ok settings => exact .read fun _ query => by cases query <;> rfl

/-! ## The answers of a scenario -/

/-- The answers of a scenario, from the objects of the snapshot and of the prompts in its file. -/
structure Orderly (snapshot written : Members) (scenario : Scenario) : Prop where
  state : ∃ state, readState snapshot = .ok state ∧ scenario.answer .state = .ok (.state state)
  ids : ∃ ids, scenario.answer .promptIds = .ok (.promptIds ids) ∧ ids.Pairwise Text.Precedes ∧
    (∀ id, id ∈ ids ↔ id ∈ written.map Prod.fst) ∧
    (∀ id ∈ ids, ∃ value descriptor, (id, value) ∈ written ∧
      readPrompt id value = .ok descriptor ∧
      scenario.answer (.prompt id) = .ok (.prompt descriptor)) ∧
    ∀ id, id ∉ ids → scenario.answer (.prompt id) = .error (.unknown id)

theorem keyed_of_readDocument {room : Room} {path : Path} {found : Lookup} {members : Members}
    (h : readDocument room path found = .ok members) : (Json.Value.object members).Keyed := by
  unfold readDocument at h
  split at h
  · cases h
  · cases h
  · cases h
  · split at h
    · cases h
    · split at h
      · cases h
      · next hparse =>
        cases h
        exact Json.keyed_of_parse hparse
      · cases h

/-- No two prompts of a file share a key. -/
theorem nodup_of_promptsIn {members written : Members}
    (hkeyed : (Json.Value.object members).Keyed) (h : promptsIn members = .ok written) :
    (written.map Prod.fst).Nodup := by
  rw [promptsIn, requireObject_eq_ok_iff] at h
  cases hmember : memberNamed? "prompts" members with
  | none =>
    rw [hmember] at h
    cases h
  | some value =>
    rw [hmember, Option.getD_some] at h
    subst h
    cases hkeyed.member hmember with
    | object nodup _ => exact nodup

theorem orderly_of_read {snapshot written : Members} {scenario : Scenario}
    (hstate : readState snapshot = .ok scenario.state)
    (hprompts : readPrompts written = .ok scenario.prompts)
    (hnodup : (written.map Prod.fst).Nodup) : Orderly snapshot written scenario where
  state := ⟨scenario.state, hstate, rfl⟩
  ids := by
    have hkeys := map_fst_readPrompts hprompts
    have hdistinct : (scenario.prompts.map Prod.fst).Nodup := hkeys ▸ hnodup
    refine ⟨scenario.prompts.ids, rfl, Prompts.pairwise_ids hdistinct,
      fun id => hkeys ▸ Prompts.mem_ids, fun id hid => ?_, fun id hid => ?_⟩
    · obtain ⟨⟨id, descriptor⟩, hmem, rfl⟩ := List.mem_map.1 (Prompts.mem_ids.1 hid)
      obtain ⟨value, hvalue, hread⟩ := exists_of_mem_readPrompts hprompts hmem
      refine ⟨value, descriptor, hvalue, hread, ?_⟩
      rw [Scenario.answer, (Prompts.named_eq_ok_iff hdistinct).2 hmem]
      rfl
    · rw [Scenario.answer, Prompts.named_of_not_mem hid]
      rfl

/-- A file that holds a scenario has the objects that its answers come from. -/
theorem orderly_of_contents {room : Room} {path : Path} {found : Lookup} {scenario : Scenario}
    (h : (Kind.scenario.contents room path found).value = .ok scenario) :
    ∃ members snapshot written, readDocument room path found = .ok members ∧
      snapshotIn members = .ok snapshot ∧ promptsIn members = .ok written ∧
      Orderly snapshot written scenario := by
  cases hdocument : readDocument room path found with
  | error failure =>
    rw [Kind.contents_of_error hdocument] at h
    cases h
  | ok members =>
    rw [Kind.contents_of_ok hdocument] at h
    replace h : scenarioOf members = .ok scenario := h
    obtain ⟨snapshot, hsnapshot, h⟩ := bind_eq_ok_iff.1 h
    obtain ⟨state, hstate, h⟩ := bind_eq_ok_iff.1 h
    obtain ⟨written, hwritten, h⟩ := bind_eq_ok_iff.1 h
    obtain ⟨prompts, hprompts, h⟩ := bind_eq_ok_iff.1 h
    cases h
    have hnodup := nodup_of_promptsIn (keyed_of_readDocument hdocument) hwritten
    exact ⟨members, snapshot, written, rfl, hsnapshot, hwritten,
      orderly_of_read hstate hprompts hnodup⟩

/-- The repositories of a directory answer from one version of their files each, and those of
scenarios as the objects in that version say. -/
structure OneVersion (directory : Path) : Prop where
  scenario : ∀ file, Consistent Kind.scenario answerScenario (.scenario directory file)
  orderly : ∀ (file : String) (room : Room) (found : Lookup) (scenario : Scenario),
    (Kind.scenario.contents room (directory.join file) found).value = .ok scenario →
      ∃ members snapshot written, readDocument room (directory.join file) found = .ok members ∧
        snapshotIn members = .ok snapshot ∧ promptsIn members = .ok written ∧
        Orderly snapshot written scenario
  settings : Consistent Kind.settings answerSettings (.settings directory)

/-- **Repositories answer from one version of their files.** -/
theorem oneVersion_repositories (directory : Path) : OneVersion directory where
  scenario file := (implements_scenario directory file).consistent rfl
  orderly _ _ _ _ := orderly_of_contents
  settings := (implements_settings directory).consistent rfl

/-- A load that fails behind the snapshot leaves nothing of it in later answers. -/
example :
    let version (text : String) : Lookup := .bytes (text.toList.map fun c => .ofNat c.toNat)
    let room : Room := ⟨2, 0, 0, 0⟩
    let replies := ((Repository.scenario (.ofString ".") scenarioFile).asks answerScenario
      [⟨room, fun _ => version "\x7b\"state\": \x7b\"gold\": 1\x7d\x7d", .state⟩,
        ⟨room, fun _ => version "\x7b\"state\": \x7b\"gold\": 2\x7d, \"prompts\": \x7b\x7d\x7d",
          .promptIds⟩,
        ⟨room, fun _ => .missing, .state⟩]).2
    replies.map Logged.value = [.error (.invalid (.wrongShape "scenario.prompts" .object)),
      .ok (.promptIds []), .ok (.state { gold := 2 })] := by
  decide +kernel

end GatedPrompt.Definitions
