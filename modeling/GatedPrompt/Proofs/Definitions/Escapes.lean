import Mathlib.Data.List.TakeWhile
import GatedPrompt.Definitions.Repository

/-!
# Failures that readers do not expect

Reading definitions is meant to fail in two ways only: there is no document, or the document does
not have the shape of definitions. Some contents make it fail in other ways: bytes that are no text,
JSON beyond the limits of its reader, wrong values that cannot be quoted, and keys that look like ids
and are none.

* `Failure.isData` and `Failure.isForeign` — the two ways that are meant, and those in which the
  means of reading fail;
* `EscapesIff` — something is read, or fails as is meant, or a foreign failure escapes from it, the
  latter just if something holds. From a sequence escapes what escapes from its first part or, that
  being read, from its second one (`EscapesIff.bind`);
* `escapesIff_readDocument` — what escapes from files: `Illegible`;
* `escapesIff_readSettings` — what escapes from settings: names that are `Unnamed` and cannot be
  quoted, and JSON within JSON, which has limits of its own;
* `escapesIff_readState` — what escapes from snapshots: keys that are `IsStray`.
-/

namespace GatedPrompt.Definitions

open Json (Value)
open Storage (Lookup Path)

/-- Whether there is no document, or one of the wrong shape. -/
def Failure.isData : Failure → Bool
  | load _ => true
  | invalid _ => true
  | _ => false

/-- Whether the means of reading fail: for text, numerals, JSON, paths, or for quoting. -/
def Failure.isForeign : Failure → Bool
  | encoding _ => true
  | oversized _ => true
  | notANumeral _ => true
  | tooDeep _ => true
  | tooDeepToQuote => true
  | notAPath => true
  | _ => false

theorem Failure.isData_of_isForeign {failure : Failure} (h : failure.isForeign = true) :
    failure.isData = false := by
  cases failure <;> simp [isForeign, isData] at h ⊢

section

variable {α β : Type} {x : Except Failure α} {f : α → Except Failure β} {P Q : Prop}

/-- Whether something is read. -/
def IsRead (x : Except Failure α) : Prop := ∃ a, x = .ok a

theorem isRead_bind : IsRead (x >>= f) ↔ ∃ a, x = .ok a ∧ IsRead (f a) := by
  cases x with
  | ok a => exact ⟨fun h => ⟨a, rfl, h⟩, fun ⟨_, ha, h⟩ => Except.ok.inj ha ▸ h⟩
  | error failure => exact ⟨nofun, nofun⟩

/-- A foreign failure escapes just if something holds; else something is read, or reading fails as
is meant. -/
inductive EscapesIff (P : Prop) (x : Except Failure α) : Prop where
  | read (a : α) (value : x = .ok a) (not : ¬P)
  | refused (failure : Failure) (value : x = .error failure) (data : failure.isData = true)
      (not : ¬P)
  | escapes (failure : Failure) (value : x = .error failure) (foreign : failure.isForeign = true)
      (holds : P)

namespace EscapesIff

theorem ok (a : α) : EscapesIff False (.ok a) := .read a rfl not_false

theorem wrong (place : Text) (expected : Shape) :
    EscapesIff False (Definitions.wrong place expected : Except Failure α) :=
  .refused _ rfl rfl not_false

theorem congr (h : EscapesIff P x) (hiff : P ↔ Q) : EscapesIff Q x := by
  rwa [propext hiff] at h

theorem map (h : EscapesIff P x) (g : α → β) : EscapesIff P (x.map g) := by
  cases h with
  | read a value not => exact .read (g a) (value ▸ rfl) not
  | refused failure value data not => exact .refused failure (value ▸ rfl) data not
  | escapes failure value foreign holds => exact .escapes failure (value ▸ rfl) foreign holds

/-- From a sequence escapes what escapes from its first part or, that being read, from its second
one. -/
theorem bind {Q : α → Prop} (h : EscapesIff P x) (hf : ∀ a, EscapesIff (Q a) (f a)) :
    EscapesIff (P ∨ ∃ a, x = .ok a ∧ Q a) (x >>= f) := by
  cases h with
  | read a value not =>
    subst value
    refine (hf a).congr ⟨fun holds => .inr ⟨a, rfl, holds⟩, ?_⟩
    rintro (holds | ⟨a', ha, holds⟩)
    · exact absurd holds not
    · exact Except.ok.inj ha ▸ holds
  | refused failure value data not =>
    subst value
    refine .refused failure rfl data ?_
    rintro (holds | ⟨a, ha, -⟩)
    · exact not holds
    · cases ha
  | escapes failure value foreign holds =>
    subst value
    exact .escapes failure rfl foreign (.inl holds)

/-- The same where it does not matter what the first part has read. -/
theorem bind_const (h : EscapesIff P x) (hf : ∀ a, EscapesIff Q (f a)) :
    EscapesIff (P ∨ IsRead x ∧ Q) (x >>= f) := (h.bind hf).congr (by simp [IsRead])

theorem bind_of_meant (h : EscapesIff False x) (hf : ∀ a, EscapesIff Q (f a)) :
    EscapesIff (IsRead x ∧ Q) (x >>= f) := (h.bind_const hf).congr (by simp)

theorem bind_last (h : EscapesIff P x) (hf : ∀ a, EscapesIff False (f a)) :
    EscapesIff P (x >>= f) := (h.bind_const hf).congr (by simp)

end EscapesIff

end

/-- The end of a sequence without regard to its notices. -/
theorem value_bind_eq {ε α β : Type} (x : Attempt ε α) (f : α → Attempt ε β) :
    (x >>= f).value = x.value >>= fun a => (f a).value := by
  obtain ⟨notices, outcome⟩ := x
  cases outcome <;> rfl

/-! ## Shapes -/

theorem meant_requireObject (place : Text) (value : Value) :
    EscapesIff False (requireObject place value) := by
  cases value with
  | object members => exact .ok members
  | _ => exact .wrong place .object

theorem meant_requireList (place : Text) (value : Value) :
    EscapesIff False (requireList place value) := by
  cases value with
  | array elements => exact .ok elements
  | _ => exact .wrong place .list

theorem meant_requireString (place : Text) (value : Value) :
    EscapesIff False (requireString place value) := by
  cases value with
  | string text => exact .ok text
  | _ => exact .wrong place .string

theorem meant_requireInteger (place : Text) (value : Value) :
    EscapesIff False (requireInteger place value) := by
  cases value with
  | integer n => exact .ok n
  | _ => exact .wrong place .integer

theorem meant_requireBoolean (place : Text) (value : Value) :
    EscapesIff False (requireBoolean place value) := by
  cases value with
  | bool b => exact .ok b
  | _ => exact .wrong place .boolean

theorem meant_readElements {α : Type} {place : Text} {read : Text → Value → Except Failure α}
    (hread : ∀ place value, EscapesIff False (read place value)) (values : List Value) :
    EscapesIff False (readElements place read values) := by
  -- generalised over the index of the first element
  have key : ∀ index, EscapesIff False (readElementsFrom place read index values) := by
    induction values with
    | nil => exact fun index => .ok _
    | cons value values ih =>
      intro index
      exact (hread _ _).bind_last fun first => (ih (index + 1)).bind_last fun others => .ok _
  exact key 0

theorem meant_readList (place : Text) (value : Option Value) :
    EscapesIff False (readList place value) := by
  cases value with
  | none => exact .ok []
  | some value => exact meant_requireList place value

theorem meant_readInteger (place : Text) (default : Int) (value : Option Value) :
    EscapesIff False (readInteger place default value) := by
  cases value with
  | none => exact .ok default
  | some value => exact meant_requireInteger place value

/-! ## Documents -/

/-- Whether a text that should be JSON is given up for a limit of its reader: an integer has too
many digits, or containers are nested more deeply than there is room for. -/
def ExceedsLimit (depth : Nat) (text : Text) : Prop :=
  (∃ fault, Json.parse depth text = .error (.oversized fault)) ∨
    ∃ container, Json.parse depth text = .error (.tooDeep container)

/-- What is no text that a reader of JSON gets to the end or to a fault of. -/
inductive Illegible (room : Room) : Lookup → Prop where
  | notUtf8 {bytes : List UInt8} {fault : Text.Utf8.Fault}
      (h : Text.Utf8.decode bytes = .error fault) : Illegible room (.bytes bytes)
  | exceedsLimit {bytes : List UInt8} {cs : List Char} (h : Text.Utf8.decode bytes = .ok cs)
      (hexceeds : ExceedsLimit room.document (.ofChars (Text.unifyLineEnds cs))) :
      Illegible room (.bytes bytes)
  | notAPath : Illegible room .notAPath

section

variable {depth : Nat} {text : Text} {room : Room}

theorem not_exceedsLimit_of_ok {value : Value} (h : Json.parse depth text = .ok value) :
    ¬ExceedsLimit depth text := by
  simp [ExceedsLimit, h]

/-- A text that is no JSON is refused, unless it exceeds a limit. -/
theorem escapesIff_ofJson {α : Type} {failure : Json.Failure}
    (h : Json.parse depth text = .error failure) (source : String) :
    EscapesIff (ExceedsLimit depth text) (.error (.ofJson source failure) : Except Failure α) := by
  cases failure with
  | malformed fault => exact .refused _ rfl rfl (by simp [ExceedsLimit, h])
  | oversized fault => exact .escapes _ rfl rfl (.inl ⟨fault, h⟩)
  | tooDeep container => exact .escapes _ rfl rfl (.inr ⟨container, h⟩)

/-- **What escapes from files.** A file that is missing or cannot be opened is refused as is
meant. -/
theorem escapesIff_readDocument (path : Path) (found : Lookup) :
    EscapesIff (Illegible room found) (readDocument room path found) := by
  cases found with
  | notAPath => exact .escapes .notAPath rfl rfl .notAPath
  | missing => exact .refused _ rfl rfl nofun
  | unreadable => exact .refused _ rfl rfl nofun
  | bytes bytes =>
    rw [readDocument]
    cases hdecode : Text.Utf8.decode bytes with
    | error fault => exact .escapes _ rfl rfl (.notUtf8 hdecode)
    | ok cs =>
      have hiff : ExceedsLimit room.document (.ofChars (Text.unifyLineEnds cs)) ↔
          Illegible room (.bytes bytes) := by
        refine ⟨.exceedsLimit hdecode, ?_⟩
        rintro (hfault | ⟨hcs, hexceeds⟩)
        · simp [hdecode] at hfault
        · obtain rfl := Except.ok.inj (hdecode.symm.trans hcs)
          exact hexceeds
      -- what is left to tell is whether the text is JSON, and of an object
      simp only
      cases hparse : Json.parse room.document (.ofChars (Text.unifyLineEnds cs)) with
      | error failure => exact (escapesIff_ofJson hparse _).congr hiff
      | ok value =>
        have hnot := hiff.not.1 (not_exceedsLimit_of_ok hparse)
        cases value with
        | object members => exact .read members rfl hnot
        | _ => exact .refused _ rfl rfl hnot

/-! ## Settings -/

/-- An entry of the table that is written as JSON text and exceeds a limit. -/
def EntryExceeds (room : Room) (entry : Value) : Prop :=
  ∃ text, entry = .string text ∧ ExceedsLimit room.entry text

/-- A table that exceeds a limit as a text or in an entry. -/
inductive TableExceeds (room : Room) : Value → Prop where
  | text {text : Text} (h : Text.isBlankText text.points = false)
      (hexceeds : ExceedsLimit room.table text) : TableExceeds room (.string text)
  | written {text : Text} {entries : List Value} (h : Text.isBlankText text.points = false)
      (hparse : Json.parse room.table text = .ok (.array entries))
      (hexceeds : ∃ entry ∈ entries, EntryExceeds room entry) : TableExceeds room (.string text)
  | entries {entries : List Value} (hexceeds : ∃ entry ∈ entries, EntryExceeds room entry) :
      TableExceeds room (.array entries)

/-- An entry is given up for a limit only: with whatever else is wrong, it is read and left out. -/
theorem readEntry_cases (room : Room) (index : Nat) (entry : Value) :
    IsRead (readEntry room index entry) ∧ ¬EntryExceeds room entry ∨
      (∃ failure, readEntry room index entry = .error failure ∧ failure.isForeign = true) ∧
        EntryExceeds room entry := by
  cases entry with
  | string text =>
    have hiff : EntryExceeds room (.string text) ↔ ExceedsLimit room.entry text := by
      simp [EntryExceeds]
    rw [readEntry, hiff]
    cases hparse : Json.parse room.entry text with
    | ok value => exact .inl ⟨⟨_, rfl⟩, not_exceedsLimit_of_ok hparse⟩
    | error failure =>
      cases failure with
      | malformed fault => exact .inl ⟨⟨_, rfl⟩, by simp [ExceedsLimit, hparse]⟩
      | oversized fault => exact .inr ⟨⟨_, rfl, rfl⟩, .inl ⟨fault, hparse⟩⟩
      | tooDeep container => exact .inr ⟨⟨_, rfl, rfl⟩, .inr ⟨container, hparse⟩⟩
  | _ => exact .inl ⟨⟨_, rfl⟩, by simp [EntryExceeds]⟩

theorem escapesIff_readEntriesFrom (index : Nat) (entries : List Value) :
    EscapesIff (∃ entry ∈ entries, EntryExceeds room entry)
      (readEntriesFrom room index entries).value := by
  induction entries generalizing index with
  | nil => exact .read [] rfl (by simp)
  | cons entry entries ih =>
    rw [readEntriesFrom]
    rcases readEntry_cases room index entry with
      ⟨⟨outcome, hentry⟩, hnot⟩ | ⟨⟨failure, hentry, hforeign⟩, hexceeds⟩
    · have hvalue : (Attempt.ofExcept (readEntry room index entry)).value = .ok outcome := hentry
      rw [Attempt.value_bind_of_ok hvalue]
      have hiff : (∃ other ∈ entries, EntryExceeds room other) ↔
          ∃ other ∈ entry :: entries, EntryExceeds room other := by simp [hnot]
      refine EscapesIff.congr ?_ hiff
      -- behind an entry that is left out the table goes on as behind one that is used
      cases outcome with
      | ok substitution =>
        simp only
        rw [Attempt.value_bind_pure]
        exact (ih (index + 1)).map _
      | error problem =>
        simp only
        rw [Attempt.value_bind_of_ok (Attempt.value_note _)]
        exact ih (index + 1)
    · have hvalue : (Attempt.ofExcept (readEntry room index entry)).value = .error failure := hentry
      rw [Attempt.value_bind_of_error hvalue]
      exact .escapes failure rfl hforeign ⟨entry, List.mem_cons_self, hexceeds⟩

theorem escapesIff_readTable (value : Value) :
    EscapesIff (∃ entries, value = .array entries ∧ ∃ entry ∈ entries, EntryExceeds room entry)
      (readTable room value).value := by
  cases value with
  | array entries => exact (escapesIff_readEntriesFrom 0 entries).congr (by simp)
  | _ => exact .read [] rfl (by simp)

theorem escapesIff_readSubstitutions (room : Room) (value : Value) :
    EscapesIff (TableExceeds room value) (readSubstitutions room value).value := by
  cases value with
  | null => exact .read [] rfl nofun
  | string text =>
    rw [readSubstitutions]
    split
    · next hblank =>
      refine .read [] rfl ?_
      rintro (⟨h, -⟩ | ⟨h, -, -⟩) <;> simp [hblank] at h
    · next hblank =>
      have hblank : Text.isBlankText text.points = false := by simpa using hblank
      cases hparse : Json.parse room.table text with
      | ok value =>
        refine (escapesIff_readTable value).congr ⟨?_, ?_⟩
        · rintro ⟨entries, rfl, hexceeds⟩
          exact .written hblank hparse hexceeds
        · rintro (⟨-, hexceeds⟩ | ⟨-, hentries, hexceeds⟩)
          · exact absurd hexceeds (not_exceedsLimit_of_ok hparse)
          · exact ⟨_, Except.ok.inj (hparse.symm.trans hentries), hexceeds⟩
      | error failure =>
        have hiff : ExceedsLimit room.table text ↔ TableExceeds room (.string text) := by
          refine ⟨.text hblank, ?_⟩
          rintro (⟨-, hexceeds⟩ | ⟨-, hentries, -⟩)
          · exact hexceeds
          · simp [hparse] at hentries
        cases failure with
        | malformed fault =>
          exact .read [] rfl (hiff.not.1 (by simp [ExceedsLimit, hparse]))
        | oversized fault => exact .escapes _ rfl rfl (.text hblank (.inl ⟨fault, hparse⟩))
        | tooDeep container => exact .escapes _ rfl rfl (.text hblank (.inr ⟨container, hparse⟩))
  | array entries =>
    refine (escapesIff_readEntriesFrom 0 entries).congr ⟨.entries, ?_⟩
    intro h
    cases h with
    | entries hexceeds => exact hexceeds
  | _ => exact .read [] rfl nofun

theorem meant_readSound (value : Value) : EscapesIff False (readSound value) := by
  cases value with
  | null => exact .ok none
  | string text =>
    rw [readSound]
    split
    · exact .ok none
    · exact .ok _
  | _ => exact .wrong _ .string

/-- A value that is there and has none of some names. -/
def Unnamed {α : Type} (names : List (Text × α)) (value : Value) : Prop :=
  value ≠ .null ∧ ((string? value).bind fun name => names.lookup name) = none

/-- A value that cannot be put into words. -/
def IsUnquotable (room : Room) (value : Value) : Prop :=
  ∃ unquotable, value.quote room.quote = .error unquotable

/-- **What escapes from settings with names**: the wrong values that cannot be quoted. -/
theorem escapesIff_readNamed {α : Type} (room : Room) (place : Text) (names : List (Text × α))
    (default : α) (value : Value) :
    EscapesIff (Unnamed names value ∧ IsUnquotable room value)
      (readNamed room place names default value) := by
  rw [readNamed.eq_def]
  split
  · exact .read default rfl fun h => h.1.1 rfl
  · next hpresent =>
    cases hnamed : (string? value).bind fun name => names.lookup name with
    | some setting => exact .read setting rfl fun h => by simp [Unnamed, hnamed] at h
    | none =>
      -- the refusal quotes the value, and this may fail in its place
      cases hquote : value.quote room.quote with
      | ok words =>
        exact .refused _ rfl rfl fun h => by simp [IsUnquotable, hquote] at h
      | error unquotable =>
        refine .escapes _ rfl ?_ ⟨⟨hpresent, hnamed⟩, unquotable, hquote⟩
        cases unquotable <;> rfl

/-- A setting with a name is read if it is missing or has one of the names. -/
theorem isRead_readNamed_iff {α : Type} {place : Text} {names : List (Text × α)} {default : α}
    {value : Value} : IsRead (readNamed room place names default value) ↔ ¬Unnamed names value := by
  rw [readNamed.eq_def, Unnamed]
  split
  · simp [IsRead]
  · next hpresent =>
    have hpresent : value ≠ .null := hpresent
    cases hnamed : (string? value).bind fun name => names.lookup name with
    | some setting => simp [IsRead]
    | none =>
      cases value.quote room.quote <;> simp [IsRead, hpresent]

/-- The settings beside the table of substitutions are in order. -/
structure InOrder (members : Members) : Prop where
  sound : IsRead (readSound (memberOrNull members "disabled_se"))
  hiddenDefault : ¬Unnamed hiddenDefaultNames (memberOrNull members "hidden_default")
  policy : ¬Unnamed policyNames (memberOrNull members "error_handling")

/-- The first of them that is not in order has a value that cannot be quoted. -/
inductive BesideEscapes (room : Room) (members : Members) : Prop where
  | hiddenDefault (sound : IsRead (readSound (memberOrNull members "disabled_se")))
      (unnamed : Unnamed hiddenDefaultNames (memberOrNull members "hidden_default"))
      (unquotable : IsUnquotable room (memberOrNull members "hidden_default"))
  | policy (sound : IsRead (readSound (memberOrNull members "disabled_se")))
      (hiddenDefault : ¬Unnamed hiddenDefaultNames (memberOrNull members "hidden_default"))
      (unnamed : Unnamed policyNames (memberOrNull members "error_handling"))
      (unquotable : IsUnquotable room (memberOrNull members "error_handling"))

/-- A value beside the table escapes, or it is all in order and the table exceeds a limit. -/
def SettingsEscape (room : Room) (members : Members) : Prop :=
  BesideEscapes room members ∨
    InOrder members ∧ TableExceeds room (memberOrNull members "alternative_text")

/-- **What escapes from settings.** -/
theorem escapesIff_readSettings (members : Members) :
    EscapesIff (SettingsEscape room members) (readSettings room members).value := by
  have hchain := (meant_readSound (memberOrNull members "disabled_se")).bind_of_meant fun sound =>
    (escapesIff_readNamed room "choice_rules.hidden_default" hiddenDefaultNames .nothing
      (memberOrNull members "hidden_default")).bind_const fun hiddenDefault =>
    (escapesIff_readNamed room "choice_rules.error_handling" policyNames .skip
      (memberOrNull members "error_handling")).bind_const fun policy =>
    (escapesIff_readSubstitutions room (memberOrNull members "alternative_text")).bind_last
      fun substitutions => .ok (Prompt.Settings.mk sound hiddenDefault policy substitutions)
  simp only [isRead_readNamed_iff] at hchain
  rw [readSettings]
  simp only [value_bind_eq]
  refine hchain.congr ⟨?_, ?_⟩
  · rintro ⟨sound, ⟨unnamed, unquotable⟩ | ⟨hidden, ⟨unnamed, unquotable⟩ | ⟨policy, exceeds⟩⟩⟩
    · exact .inl (.hiddenDefault sound unnamed unquotable)
    · exact .inl (.policy sound hidden unnamed unquotable)
    · exact .inr ⟨⟨sound, hidden, policy⟩, exceeds⟩
  · rintro ((⟨sound, unnamed, unquotable⟩ | ⟨sound, hidden, unnamed, unquotable⟩) |
      ⟨⟨sound, hidden, policy⟩, exceeds⟩)
    · exact ⟨sound, .inl ⟨unnamed, unquotable⟩⟩
    · exact ⟨sound, .inr ⟨hidden, .inl ⟨unnamed, unquotable⟩⟩⟩
    · exact ⟨sound, .inr ⟨hidden, .inr ⟨policy, exceeds⟩⟩⟩

end

/-! ## Snapshots -/

/-- A key that passes for an id and is none: one of its digits has no positional value, or it has
too many of them. -/
def IsStray (key : Text) : Prop :=
  isIdKey key = true ∧
    ((∃ point ∈ key.points, Text.isDigit point = false) ∨ Text.digitLimit < key.points.length)

/-- A key that is no numeral is not refused: it escapes, whichever of the two is wrong with it. -/
theorem escapesIff_readKey (key : Text) :
    EscapesIff ((∃ point ∈ key.points, Text.isDigit point = false) ∨
      Text.digitLimit < key.points.length) (readKey key) := by
  rw [readKey]
  by_cases hall : ∀ point ∈ key.points, Text.isDigit point = true
  · -- all of the key is read, so that only its length counts
    have hself : key.points.takeWhile Text.isDigit = key.points :=
      List.takeWhile_eq_self_iff.2 hall
    have hnone : ¬∃ point ∈ key.points, Text.isDigit point = false := by
      rintro ⟨point, hmem, hpoint⟩
      simp [hall point hmem] at hpoint
    simp only [hself, hnone, false_or]
    cases hread : Text.readNatural key.points with
    | error fault => exact .escapes _ rfl rfl (Text.readNatural_eq_error_iff.1 hread).1
    | ok n =>
      refine .read n (if_pos trivial) fun hlong => ?_
      simp [Text.readNatural_eq_error_iff.2 ⟨hlong, rfl⟩] at hread
  · -- the digits at the front are read, and may be too many before the key is found to be none
    have hlength : (key.points.takeWhile Text.isDigit).length ≠ key.points.length := by
      intro h
      have hself := (List.takeWhile_prefix Text.isDigit).eq_of_length h
      exact hall (List.takeWhile_eq_self_iff.1 hself)
    have hsome : ∃ point ∈ key.points, Text.isDigit point = false := by
      simpa using hall
    cases Text.readNatural (key.points.takeWhile Text.isDigit) with
    | error fault => exact .escapes _ rfl rfl (.inl hsome)
    | ok n => exact .escapes _ (if_neg hlength) rfl (.inl hsome)

section

variable {α : Type} {place : Text} {read : Text → Value → Except Failure α}

/-- A map with ids as keys in which a stray key is come to: its value and the entries before it are
in order. -/
inductive MeetsStray (place : Text) (read : Text → Value → Except Failure α) : Members → Prop where
  | here {key : Text} {value : Value} {members : Members} (hkey : IsStray key)
      (hvalue : IsRead (read (place ++ "['" ++ key ++ "']") value)) :
      MeetsStray place read ((key, value) :: members)
  | behind {key : Text} {value : Value} {members : Members}
      (hentry : IsRead (readIdEntry place read key value)) (h : MeetsStray place read members) :
      MeetsStray place read ((key, value) :: members)

/-- The same of a value that should be such a map. -/
def HasStray (place : Text) (read : Text → Value → Except Failure α) (value : Option Value) :
    Prop :=
  ∃ members, value = some (.object members) ∧ MeetsStray place read members

variable (hread : ∀ place value, EscapesIff False (read place value))

include hread

theorem escapesIff_readIdEntry (key : Text) (value : Value) :
    EscapesIff (IsRead (read (place ++ "['" ++ key ++ "']") value) ∧ IsStray key)
      (readIdEntry place read key value) := by
  rw [IsStray]
  cases hkey : isIdKey key with
  | false =>
    have hrefused : readIdEntry place read key value = .error (.invalid (.badKeys place)) := by
      simp [readIdEntry, hkey]
      rfl
    exact .refused _ hrefused rfl (by simp)
  | true =>
    have haccepted : readIdEntry place read key value = (do
        let entry ← read (place ++ "['" ++ key ++ "']") value
        let id ← readKey key
        return (id, entry)) := by
      simp [readIdEntry, hkey]
    rw [haccepted]
    simp only [true_and]
    exact (hread _ _).bind_of_meant fun entry =>
      (escapesIff_readKey key).bind_last fun id => .ok _

theorem escapesIff_readIdEntries (members : Members) :
    EscapesIff (MeetsStray place read members) (readIdEntries place read members) := by
  induction members with
  | nil => exact .read [] rfl nofun
  | cons member members ih =>
    obtain ⟨key, value⟩ := member
    refine ((escapesIff_readIdEntry hread key value).bind_const fun first =>
      ih.bind_last fun others => .ok _).congr ⟨?_, ?_⟩
    · rintro (⟨hvalue, hkey⟩ | ⟨hentry, h⟩)
      · exact .here hkey hvalue
      · exact .behind hentry h
    · rintro (⟨hkey, hvalue⟩ | ⟨hentry, h⟩)
      · exact .inl ⟨hvalue, hkey⟩
      · exact .inr ⟨hentry, h⟩

theorem escapesIff_readIdMap (value : Option Value) :
    EscapesIff (HasStray place read value) (readIdMap place read value) := by
  rw [HasStray]
  cases value with
  | none => exact .read .empty rfl (by simp)
  | some value =>
    cases value with
    | object members =>
      refine ((escapesIff_readIdEntries hread members).bind_last fun entries =>
        .ok (Game.Table.ofList entries)).congr ?_
      simp
    | _ => exact .refused _ rfl rfl (by simp)

end

/-- A snapshot in which a stray key is come to: all that is read before its map is in order. -/
def StateEscapes (snapshot : Members) : Prop :=
  HasStray "scenario.state.items" requireInteger (memberNamed? "items" snapshot) ∨
  IsRead (readIdMap "scenario.state.items" requireInteger (memberNamed? "items" snapshot)) ∧
  (HasStray "scenario.state.weapons" requireInteger (memberNamed? "weapons" snapshot) ∨
  IsRead (readIdMap "scenario.state.weapons" requireInteger (memberNamed? "weapons" snapshot)) ∧
  (HasStray "scenario.state.armours" requireInteger (memberNamed? "armours" snapshot) ∨
  IsRead (readIdMap "scenario.state.armours" requireInteger (memberNamed? "armours" snapshot)) ∧
  IsRead (readList "scenario.state.party" (memberNamed? "party" snapshot)) ∧
  (HasStray "scenario.state.switches" requireBoolean (memberNamed? "switches" snapshot) ∨
  IsRead (readIdMap "scenario.state.switches" requireBoolean (memberNamed? "switches" snapshot)) ∧
  HasStray "scenario.state.variables" requireInteger (memberNamed? "variables" snapshot))))

/-- **What escapes from snapshots.** -/
theorem escapesIff_readState (snapshot : Members) :
    EscapesIff (StateEscapes snapshot) (readState snapshot) := by
  have hcounts (place : Text) (value : Option Value) :
      EscapesIff (HasStray place requireInteger value) (readIdMap place requireInteger value) :=
    escapesIff_readIdMap meant_requireInteger value
  exact (hcounts _ _).bind_const fun items =>
    (hcounts _ _).bind_const fun weapons =>
    (hcounts _ _).bind_const fun armours =>
    (meant_readList _ _).bind_of_meant fun party =>
    (escapesIff_readIdMap meant_requireBoolean _).bind_const fun switches =>
    (hcounts _ _).bind_last fun vars =>
    (meant_readInteger _ _ _).bind_last fun gold =>
    (meant_readElements meant_requireInteger _).bind_last fun actors => .ok _

/-! ## Prompts -/

theorem meant_readPrompt (id : Text) (value : Value) : EscapesIff False (readPrompt id value) :=
  (meant_requireObject _ _).bind_last fun _ =>
  (meant_requireList _ _).bind_last fun _ =>
  (meant_readElements meant_requireString _).bind_last fun _ =>
  (meant_readInteger _ _ _).bind_last fun _ =>
  (meant_readInteger _ _ _).bind_last fun _ => .ok _

theorem meant_readPrompts (members : Members) : EscapesIff False (readPrompts members) := by
  induction members with
  | nil => exact .ok []
  | cons member members ih =>
    exact (meant_readPrompt _ _).bind_last fun first => ih.bind_last fun others => .ok _

end GatedPrompt.Definitions
