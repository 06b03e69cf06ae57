import GatedPrompt.Proofs.Definitions.Escapes
import GatedPrompt.Proofs.Json.Limits
import GatedPrompt.Proofs.Prompt.Reports
import GatedPrompt.Proofs.Prompt.Tables

/-!
# Tables that cannot be used

A table of text substitutions that makes no sense is no reason to refuse the settings it is part of:
it is left out, or those of its entries are that cannot be used, with a warning each time. The one
exception are the limits of the reader of JSON, which hold for a table or an entry that is written
as a text: beyond them the reader gives up altogether. How deep the containers in a text may be
nested depends on the room that its reader has.

* `readSubstitutions_confined` — why reading a table fails, and what it reports;
* `readBeside`, `value_readSettings` — the settings beside the table, and how all settings are read;
* `Tolerated`, `Tolerant` — what is promised of a table, and of the settings it is part of;
* `tolerated_readSubstitutions`, `tolerant_readSettings` — these promises are kept;
* `not_tolerated_limits` — texts beyond the limits are not tolerated.
-/

namespace GatedPrompt.Definitions

open Json (Value)
open Prompt (Settings)

/-! ## Why reading a table fails -/

/-- Whether a limit of the reader of JSON is exceeded. -/
def Failure.isLimit : Failure → Bool
  | oversized _ => true
  | tooDeep _ => true
  | _ => false

theorem Failure.isForeign_of_isLimit {failure : Failure} (h : failure.isLimit = true) :
    failure.isForeign = true := by
  cases failure <;> simp [isLimit, isForeign] at h ⊢

/-- A computation fails at a limit only, and what it reports are warnings. -/
abbrev Lenient {α : Type} (x : Attempt Failure α) : Prop :=
  Attempt.Confined (fun failure => failure.isLimit = true) (fun notice => notice.level = .warning) x

variable {room : Room}

theorem isLimit_of_readEntry {index : Nat} {entry : Value} {failure : Failure}
    (h : readEntry room index entry = .error failure) : failure.isLimit = true := by
  cases entry with
  | string text =>
    rw [readEntry] at h
    cases hparse : Json.parse room.entry text with
    | ok value => simp [hparse] at h
    | error cause =>
      cases cause with
      | malformed fault => simp [hparse] at h
      | oversized fault =>
        obtain rfl : .oversized fault = failure := by simpa [hparse, Failure.ofJson] using h
        rfl
      | tooDeep container =>
        obtain rfl : .tooDeep container = failure := by simpa [hparse, Failure.ofJson] using h
        rfl
  | _ => cases h

/-- To warn and go on. -/
theorem lenient_warn {α : Type} {notice : Notice} (h : notice.level = .warning)
    {next : Unit → Attempt Failure α} (hnext : Lenient (next ())) :
    Lenient (Attempt.note notice >>= next) :=
  (Attempt.Confined.note h).bind fun _ _ => hnext

theorem readEntriesFrom_confined (index : Nat) (entries : List Value) :
    Lenient (readEntriesFrom room index entries) := by
  induction entries generalizing index with
  | nil => exact .pure []
  | cons entry entries ih =>
    have hentry : Lenient (Attempt.ofExcept (readEntry room index entry)) :=
      ⟨fun failure => isLimit_of_readEntry, fun _ hmem => nomatch hmem⟩
    refine hentry.bind fun outcome _ => ?_
    cases outcome with
    | ok substitution => exact (ih (index + 1)).bind fun others _ => .pure _
    | error problem => exact lenient_warn rfl (ih (index + 1))

theorem readTable_confined (value : Value) : Lenient (readTable room value) := by
  rw [readTable.eq_def]
  split
  · exact readEntriesFrom_confined 0 _
  · exact lenient_warn rfl (.pure [])

/-- **Why reading a table fails, and what it reports.** -/
theorem readSubstitutions_confined (value : Value) : Lenient (readSubstitutions room value) := by
  rw [readSubstitutions.eq_def]
  split
  · exact .pure []
  · split
    · exact .pure []
    · -- of what the reader of JSON says of a text, only the limits are passed on
      split
      · exact readTable_confined _
      · exact lenient_warn rfl (.pure [])
      · next text _ failure hnot _ =>
        cases failure with
        | malformed fault => exact absurd rfl (hnot fault)
        | oversized fault => exact .throw rfl
        | tooDeep container => exact .throw rfl
  · exact readTable_confined _

/-! ## The settings beside the table -/

/-- The settings beside the table, as an object defines them. -/
def readBeside (room : Room) (members : Members) : Except Failure Settings := do
  let sound ← readSound (memberOrNull members "disabled_se")
  let hiddenDefault ← readNamed room "choice_rules.hidden_default" hiddenDefaultNames .nothing
    (memberOrNull members "hidden_default")
  let policy ← readNamed room "choice_rules.error_handling" policyNames .skip
    (memberOrNull members "error_handling")
  return ⟨sound, hiddenDefault, policy, []⟩

variable {members : Members}

theorem isRead_readBeside (room : Room) : IsRead (readBeside room members) ↔ InOrder members := by
  simp only [readBeside, isRead_bind]
  constructor
  · rintro ⟨sound, hsound, hiddenDefault, hhidden, policy, hpolicy, -⟩
    exact ⟨⟨sound, hsound⟩, isRead_readNamed_iff.1 ⟨hiddenDefault, hhidden⟩,
      isRead_readNamed_iff.1 ⟨policy, hpolicy⟩⟩
  · rintro ⟨⟨sound, hsound⟩, hhidden, hpolicy⟩
    obtain ⟨hiddenDefault, hhidden⟩ := isRead_readNamed_iff.2 hhidden
    obtain ⟨policy, hpolicy⟩ := isRead_readNamed_iff.2 hpolicy
    exact ⟨sound, hsound, hiddenDefault, hhidden, policy, hpolicy, _, rfl⟩

theorem escapesIff_readBeside (room : Room) (members : Members) :
    EscapesIff (BesideEscapes room members) (readBeside room members) := by
  have hchain := (meant_readSound (memberOrNull members "disabled_se")).bind_of_meant fun sound =>
    (escapesIff_readNamed room "choice_rules.hidden_default" hiddenDefaultNames .nothing
      (memberOrNull members "hidden_default")).bind_const fun hiddenDefault =>
    (escapesIff_readNamed room "choice_rules.error_handling" policyNames .skip
      (memberOrNull members "error_handling")).bind_last
      fun policy => .ok (Settings.mk sound hiddenDefault policy [])
  simp only [isRead_readNamed_iff] at hchain
  refine hchain.congr ⟨?_, ?_⟩
  · rintro ⟨sound, ⟨unnamed, unquotable⟩ | ⟨hidden, unnamed, unquotable⟩⟩
    · exact .hiddenDefault sound unnamed unquotable
    · exact .policy sound hidden unnamed unquotable
  · rintro (⟨sound, unnamed, unquotable⟩ | ⟨sound, hidden, unnamed, unquotable⟩)
    · exact ⟨sound, .inl ⟨unnamed, unquotable⟩⟩
    · exact ⟨sound, .inr ⟨hidden, unnamed, unquotable⟩⟩

/-- **How settings are read**: the table comes last and is put in its place. -/
theorem value_readSettings (room : Room) (members : Members) :
    (readSettings room members).value = (do
      let settings ← readBeside room members
      let table ← (readSubstitutions room (memberOrNull members "alternative_text")).value
      return settings.withTable table) := by
  rw [readSettings, readBeside]
  simp only [value_bind_eq, bind_assoc, pure_bind]
  rfl

/-! ## What is promised -/

/-- What is promised of a table, whatever value it is given as. -/
structure Tolerated (room : Room) (value : Value) : Prop where
  /-- Unless a limit is exceeded, it is read. -/
  read_iff : IsRead (readSubstitutions room value).value ↔ ¬TableExceeds room value
  limit : ∀ failure, (readSubstitutions room value).value = .error failure → failure.isLimit = true
  warnings : ∀ notice ∈ (readSubstitutions room value).notices, notice.level = .warning

/-- What is promised of the settings that a table is part of. -/
structure Tolerant (room : Room) (members : Members) : Prop where
  read_iff : IsRead (readSettings room members).value ↔
    InOrder members ∧ ¬TableExceeds room (memberOrNull members "alternative_text")
  /-- They are refused for what is beside the table only, if that can be quoted. -/
  refused_iff : (∃ failure, (readSettings room members).value = .error failure ∧
    failure.isData = true) ↔ ¬InOrder members ∧ ¬BesideEscapes room members
  /-- What is read, or why it is refused, depends on what is beside the table. -/
  alike : ∀ others : Members,
    memberOrNull others "disabled_se" = memberOrNull members "disabled_se" →
    memberOrNull others "hidden_default" = memberOrNull members "hidden_default" →
    memberOrNull others "error_handling" = memberOrNull members "error_handling" →
    ¬TableExceeds room (memberOrNull others "alternative_text") →
    ¬TableExceeds room (memberOrNull members "alternative_text") →
    (readSettings room others).value.map (·.withTable []) =
      (readSettings room members).value.map (·.withTable [])

theorem tolerated_readSubstitutions (room : Room) (value : Value) : Tolerated room value where
  read_iff := by
    cases escapesIff_readSubstitutions room value with
    | read table hvalue hnot => exact iff_of_true ⟨table, hvalue⟩ hnot
    | refused failure hvalue hdata hnot =>
      -- a table is never refused: what is wrong with it costs a warning only
      have hlimit := (readSubstitutions_confined value).fails failure hvalue
      rw [Failure.isData_of_isForeign (Failure.isForeign_of_isLimit hlimit)] at hdata
      cases hdata
    | escapes failure hvalue hforeign hexceeds =>
      refine iff_of_false ?_ (not_not_intro hexceeds)
      rintro ⟨table, htable⟩
      simp [htable] at hvalue
  limit := (readSubstitutions_confined value).fails
  warnings := (readSubstitutions_confined value).gives

/-- How reading settings ends. -/
inductive SettingsEnd (room : Room) (members : Members) : Prop where
  | refused (failure : Failure) (beside : readBeside room members = .error failure)
      (value : (readSettings room members).value = .error failure)
  | read (settings : Settings) (table : List Prompt.Substitution)
      (beside : readBeside room members = .ok settings)
      (within : ¬TableExceeds room (memberOrNull members "alternative_text"))
      (value : (readSettings room members).value = .ok (settings.withTable table))
  | givenUp (settings : Settings) (failure : Failure)
      (beside : readBeside room members = .ok settings)
      (exceeds : TableExceeds room (memberOrNull members "alternative_text"))
      (limit : failure.isLimit = true) (value : (readSettings room members).value = .error failure)

theorem readSettings_end (room : Room) (members : Members) : SettingsEnd room members := by
  have hvalue := value_readSettings room members
  have htolerated := tolerated_readSubstitutions room (memberOrNull members "alternative_text")
  cases hbeside : readBeside room members with
  | error failure =>
    rw [hbeside] at hvalue
    exact .refused failure hbeside hvalue
  | ok settings =>
    rw [hbeside] at hvalue
    -- what is beside the table is read, and so it depends on the table how the reading ends
    cases htable : (readSubstitutions room (memberOrNull members "alternative_text")).value with
    | ok table =>
      have hwithin := htolerated.read_iff.1 ⟨table, htable⟩
      rw [htable] at hvalue
      exact .read settings table hbeside hwithin hvalue
    | error failure =>
      have hexceeds : TableExceeds room (memberOrNull members "alternative_text") := by
        by_contra hwithin
        obtain ⟨table, hread⟩ := htolerated.read_iff.2 hwithin
        simp [htable] at hread
      rw [htable] at hvalue
      exact .givenUp settings failure hbeside hexceeds (htolerated.limit failure htable) hvalue

/-- With a table within the limits, what is beside it decides. -/
theorem beside_readSettings (h : ¬TableExceeds room (memberOrNull members "alternative_text")) :
    (readSettings room members).value.map (·.withTable []) =
      (readBeside room members).map (·.withTable []) := by
  cases readSettings_end room members with
  | refused failure hbeside hvalue => rw [hbeside, hvalue]
  | read settings table hbeside _ hvalue =>
    rw [hbeside, hvalue]
    rfl
  | givenUp settings failure _ hexceeds => exact absurd hexceeds h

/-- **Tables that cannot be used are tolerated**, whatever room there is to read them. -/
theorem tolerant_readSettings (room : Room) (value : Value) (members : Members) :
    Tolerated room value ∧ Tolerant room members := by
  refine ⟨tolerated_readSubstitutions room value, ?_, ?_, ?_⟩
  · rw [← isRead_readBeside room]
    cases readSettings_end room members with
    | refused failure hbeside hvalue => simp [IsRead, hbeside, hvalue]
    | read settings table hbeside hwithin hvalue => simp [IsRead, hbeside, hwithin, hvalue]
    | givenUp settings failure _ hexceeds _ hvalue => simp [IsRead, hexceeds, hvalue]
  · rw [← isRead_readBeside room]
    cases readSettings_end room members with
    | refused failure hbeside hvalue =>
      -- what is wrong beside the table is refused or escapes, by whether it can be quoted
      cases escapesIff_readBeside room members with
      | read settings hread _ => simp [hread] at hbeside
      | refused other hother hdata hnot =>
        obtain rfl := Except.error.inj (hbeside.symm.trans hother)
        simp [IsRead, hbeside, hdata, hvalue, hnot]
      | escapes other hother hforeign holds =>
        obtain rfl := Except.error.inj (hbeside.symm.trans hother)
        simp [hvalue, Failure.isData_of_isForeign hforeign, holds]
    | read settings table hbeside _ hvalue => simp [IsRead, hbeside, hvalue]
    | givenUp settings failure hbeside _ hlimit hvalue =>
      have hdata := Failure.isData_of_isForeign (Failure.isForeign_of_isLimit hlimit)
      simp [IsRead, hbeside, hvalue, hdata]
  · -- without the table, what is left is read from the same three members
    intro others hsound hhidden hpolicy hothers hmembers
    rw [beside_readSettings hothers, beside_readSettings hmembers, readBeside, readBeside, hsound,
      hhidden, hpolicy]

/-- A table or an entry that is written as a text beyond the limits is passed on as a failure. -/
theorem value_readSubstitutions_of_parse {text : Text} {failure : Json.Failure}
    (hblank : Text.isBlankText text.points = false)
    (hparse : Json.parse room.table text = .error failure)
    (hlimit : ∀ fault, failure ≠ .malformed fault) :
    (readSubstitutions room (.string text)).value = .error (.ofJson Notice.tableName failure) := by
  rw [readSubstitutions]
  simp only [hblank, hparse]
  cases failure with
  | malformed fault => exact absurd rfl (hlimit fault)
  | _ => rfl

theorem value_readSubstitutions_entry {text : Text} {failure : Json.Failure}
    (hparse : Json.parse room.entry text = .error failure)
    (hlimit : ∀ fault, failure ≠ .malformed fault) :
    (readSubstitutions room (.array [.string text])).value =
      .error (.ofJson (Notice.entryName 0) failure) := by
  have hentry : (Attempt.ofExcept (readEntry room 0 (.string text))).value =
      .error (.ofJson (Notice.entryName 0) failure) := by
    rw [readEntry]
    simp only [hparse]
    cases failure with
    | malformed fault => exact absurd rfl (hlimit fault)
    | _ => rfl
  rw [readSubstitutions, readTable, readEntriesFrom, Attempt.value_bind_of_error hentry]
  all_goals simp

/-- **Beyond the limits they are not**: a text of 4301 ones or of 5000 brackets, as the table or as
an entry of it, ends the reading of the table, and of settings that have nothing else. -/
theorem not_tolerated_limits :
    let room : Room := ⟨985, 984, 983, 987⟩
    let ones : Value := .string ⟨.char '1' :: List.replicate 4300 (.char '1')⟩
    let brackets : Value := .string ⟨.char '[' :: List.replicate 4999 (.char '[')⟩
    ((∀ table ∈ [ones, .array [ones]],
        (readSubstitutions room table).value = .error (.oversized (.numeral 4301)) ∧
        (readSettings room [("alternative_text", table)]).value =
          .error (.oversized (.numeral 4301))) ∧
      ∀ table ∈ [brackets, .array [brackets]],
        (readSubstitutions room table).value = .error (.tooDeep .array) ∧
        (readSettings room [("alternative_text", table)]).value = .error (.tooDeep .array)) ∧
      (¬∀ value, IsRead (readSubstitutions room value).value) ∧
      ¬∀ members, IsRead (readSettings room members).value ↔ InOrder members := by
  intro room ones brackets
  have hones (depth : Nat) : Json.parse depth ⟨.char '1' :: List.replicate 4300 (.char '1')⟩ =
      .error (.oversized (.numeral 4301)) := Json.parse_ones depth (Nat.le_refl _)
  have hbrackets {depth : Nat} (h : depth ≤ 4999) :
      Json.parse depth ⟨.char '[' :: List.replicate 4999 (.char '[')⟩ =
        .error (.tooDeep .array) := Json.parse_brackets h
  -- settings that have nothing but a table are in order beside it, so that the table decides
  have hbeside (table : Value) : readBeside room [("alternative_text", table)] = .ok {} := rfl
  have hsettings {table : Value} {failure : Failure}
      (h : (readSubstitutions room table).value = .error failure) :
      (readSettings room [("alternative_text", table)]).value = .error failure := by
    have hmember : memberOrNull [("alternative_text", table)] "alternative_text" = table := rfl
    rw [value_readSettings, hbeside, hmember, h]
    rfl
  have htext : (readSubstitutions room ones).value = .error (.oversized (.numeral 4301)) :=
    value_readSubstitutions_of_parse rfl (hones _) nofun
  refine ⟨⟨?_, ?_⟩, fun hall => ?_, fun hall => ?_⟩
  · have hentry : (readSubstitutions room (.array [ones])).value = _ :=
      value_readSubstitutions_entry (hones _) nofun
    simp only [List.forall_mem_cons]
    exact ⟨⟨htext, hsettings htext⟩, ⟨hentry, hsettings hentry⟩, nofun⟩
  · have htext : (readSubstitutions room brackets).value = _ :=
      value_readSubstitutions_of_parse rfl (hbrackets (by decide)) nofun
    have hentry : (readSubstitutions room (.array [brackets])).value = _ :=
      value_readSubstitutions_entry (hbrackets (by decide)) nofun
    simp only [List.forall_mem_cons]
    exact ⟨⟨htext, hsettings htext⟩, ⟨hentry, hsettings hentry⟩, nofun⟩
  · obtain ⟨table, hread⟩ := hall ones
    simp [htext] at hread
  · obtain ⟨settings, hread⟩ := (hall _).2 ((isRead_readBeside room).1 ⟨_, hbeside ones⟩)
    simp [hsettings htext] at hread

end GatedPrompt.Definitions
