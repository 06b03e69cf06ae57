import Mathlib.Data.List.Forall2
import GatedPrompt.Proofs.Definitions.Escapes
import GatedPrompt.Proofs.Json.Blank

/-!
# The table of text substitutions

Each entry of the table is read by itself: it gives a substitution or a warning, whatever stands
beside it. Neither the table nor an entry has to be given as a value; each may be a text that is
JSON for one, and it reads the same.

* `FirstString`, `Defines` — the substitution that an entry defines;
* `Yields` — what an entry comes to, wherever it stands: a substitution or a problem. It comes to a
  substitution just if it defines it (`Yields.eq_ok_iff`);
* `kept`, `complaints` — the substitutions and the notices of a table by what its entries come to,
  and `readEntriesFrom_of_yields`, that the table is read to them;
* `Encodes` — the same entry, or a text that is JSON for it;
* `Entrywise` — what all this says of a list of entries, and `entrywise_of_legible`, that it holds
  of every list none of whose entries exceeds a limit of the reader, whatever room there is.
-/

namespace GatedPrompt.Definitions

open Json (Value)
open Prompt (Substitution)

/-! ## The substitution of an entry -/

/-- The first string among the values of some keys, or nothing to read. -/
inductive FirstString (members : Members) (keys : List String) : Text → Prop where
  | found {before after : List String} {key : String} {text : Text}
      (split : keys = before ++ key :: after)
      (first : ∀ other ∈ before, ∀ text, memberNamed? other members ≠ some (.string text))
      (value : memberNamed? key members = some (.string text)) : FirstString members keys text
  | missing (absent : ∀ key ∈ keys, ∀ text, memberNamed? key members ≠ some (.string text)) :
      FirstString members keys ""

/-- The substitution that an entry defines: its code is not empty. -/
inductive Defines (room : Room) : Value → Substitution → Prop where
  | object {members : Members} {code defaultText disabledText : Text}
      (hcode : FirstString members codeKeys code) (hnonempty : code.points ≠ [])
      (hdefault : FirstString members defaultTextKeys defaultText)
      (hdisabled : FirstString members disabledTextKeys disabledText) :
      Defines room (.object members) ⟨code, defaultText, disabledText⟩
  | written {members : Members} {text : Text} {substitution : Substitution}
      (h : Json.parse room.entry text = .ok (.object members))
      (hdefines : Defines room (.object members) substitution) :
      Defines room (.string text) substitution

variable {room : Room}

theorem bind_string?_eq_some_iff {value : Option Value} {text : Text} :
    value.bind string? = some text ↔ value = some (.string text) := by
  cases value with
  | none => simp
  | some value => cases value <;> simp [string?]

theorem bind_string?_eq_none_iff {value : Option Value} :
    value.bind string? = none ↔ ∀ text, value ≠ some (.string text) := by
  rw [Option.eq_none_iff_forall_ne_some]
  simp only [ne_eq, bind_string?_eq_some_iff]

theorem firstString_iff {members : Members} {keys : List String} {text : Text} :
    FirstString members keys text ↔ text = firstString members keys := by
  unfold firstString
  constructor
  · intro h
    cases h with
    | @found before after key _ split first value =>
      have hfound : (keys.findSome? fun key => (memberNamed? key members).bind string?) =
          some text := by
        rw [List.findSome?_eq_some_iff]
        refine ⟨before, key, after, split, bind_string?_eq_some_iff.2 value, ?_⟩
        intro other hother
        exact bind_string?_eq_none_iff.2 (first other hother)
      rw [hfound]
      rfl
    | missing absent =>
      have hnone : (keys.findSome? fun key => (memberNamed? key members).bind string?) = none := by
        rw [List.findSome?_eq_none_iff]
        intro key hkey
        exact bind_string?_eq_none_iff.2 (absent key hkey)
      rw [hnone]
      rfl
  · rintro rfl
    cases hfound : keys.findSome? fun key => (memberNamed? key members).bind string? with
    | none =>
      rw [List.findSome?_eq_none_iff] at hfound
      refine .missing ?_
      intro key hkey
      exact bind_string?_eq_none_iff.1 (hfound key hkey)
    | some text =>
      obtain ⟨before, key, after, hsplit, hvalue, hbefore⟩ :=
        List.findSome?_eq_some_iff.1 hfound
      refine .found hsplit ?_ (bind_string?_eq_some_iff.1 hvalue)
      intro other hother
      exact bind_string?_eq_none_iff.1 (hbefore other hother)

theorem Defines.code {entry : Value} {substitution : Substitution}
    (h : Defines room entry substitution) : substitution.code.points ≠ [] := by
  induction h with
  | object _ hnonempty => exact hnonempty
  | written _ _ ih => exact ih

theorem substitutionOfValue_eq_ok_iff {value : Value} {substitution : Substitution} :
    substitutionOfValue value = .ok substitution ↔
      ∃ members, value = .object members ∧ Defines room (.object members) substitution := by
  constructor
  · intro h
    cases value with
    | object members =>
      refine ⟨members, rfl, ?_⟩
      simp only [substitutionOfValue, substitutionOf] at h
      split at h
      · cases h
      · next hcode =>
        obtain rfl := Except.ok.inj h
        have hnonempty : (firstString members codeKeys).points ≠ [] := by
          simpa [Text.isEmpty] using hcode
        exact .object (firstString_iff.2 rfl) hnonempty (firstString_iff.2 rfl)
          (firstString_iff.2 rfl)
    | _ => cases h
  · rintro ⟨members, rfl, h⟩
    cases h with
    | object hcode hnonempty hdefault hdisabled =>
      rw [firstString_iff] at hcode hdefault hdisabled
      subst hcode hdefault hdisabled
      have hcode : (firstString members codeKeys).isEmpty = false := by
        simpa [Text.isEmpty] using hnonempty
      simp only [substitutionOfValue, substitutionOf, hcode]
      rfl

/-! ## What an entry comes to -/

instance (depth : Nat) (text : Text) : Decidable (ExceedsLimit depth text) :=
  match h : Json.parse depth text with
  | .ok _ => isFalse (not_exceedsLimit_of_ok h)
  | .error (.malformed _) => isFalse (by simp [ExceedsLimit, h])
  | .error (.oversized fault) => isTrue (.inl ⟨fault, h⟩)
  | .error (.tooDeep container) => isTrue (.inr ⟨container, h⟩)

instance (room : Room) (entry : Value) : Decidable (EntryExceeds room entry) :=
  match entry with
  | .string text => decidable_of_iff (ExceedsLimit room.entry text) (by simp [EntryExceeds])
  | .null | .bool _ | .integer _ | .fraction _ | .array _ | .object _ =>
    isFalse (by simp [EntryExceeds])

/-- What an entry of the table comes to. -/
abbrev Outcome := Except EntryProblem Substitution

/-- An entry comes to an outcome, wherever it stands. -/
def Yields (room : Room) (entry : Value) (outcome : Outcome) : Prop :=
  ∀ index, readEntry room index entry = .ok outcome

/-- The place of an entry is told only if the entry exceeds a limit. -/
theorem exists_yields {entry : Value} (h : ¬EntryExceeds room entry) :
    ∃ outcome, Yields room entry outcome := by
  cases entry with
  | string text =>
    cases hparse : Json.parse room.entry text with
    | ok value => exact ⟨substitutionOfValue value, fun index => by simp [readEntry, hparse]⟩
    | error failure =>
      cases failure with
      | malformed fault =>
        exact ⟨.error (.malformed fault), fun index => by simp [readEntry, hparse]⟩
      | oversized fault => exact absurd ⟨text, rfl, .inl ⟨fault, hparse⟩⟩ h
      | tooDeep container => exact absurd ⟨text, rfl, .inr ⟨container, hparse⟩⟩ h
  | _ => exact ⟨_, fun index => rfl⟩

theorem exists_yields_all {entries : List Value} (h : ∀ entry ∈ entries, ¬EntryExceeds room entry) :
    ∃ outcomes, List.Forall₂ (Yields room) entries outcomes := by
  induction entries with
  | nil => exact ⟨[], .nil⟩
  | cons entry entries ih =>
    obtain ⟨hentry, hentries⟩ := List.forall_mem_cons.1 h
    obtain ⟨outcome, hyields⟩ := exists_yields hentry
    obtain ⟨outcomes, hall⟩ := ih hentries
    exact ⟨outcome :: outcomes, .cons hyields hall⟩

/-- An entry comes to a substitution just if it defines it. -/
theorem Yields.eq_ok_iff {entry : Value} {outcome : Outcome} (h : Yields room entry outcome)
    {substitution : Substitution} :
    outcome = .ok substitution ↔ Defines room entry substitution := by
  have hentry := h 0
  cases entry with
  | string text =>
    cases hparse : Json.parse room.entry text with
    | ok value =>
      obtain rfl : substitutionOfValue value = outcome := by simpa [readEntry, hparse] using hentry
      rw [substitutionOfValue_eq_ok_iff]
      constructor
      · rintro ⟨members, rfl, hdefines⟩
        exact .written hparse hdefines
      · intro hdefines
        cases hdefines with
        | @written members _ _ hwritten hdefines =>
          exact ⟨members, Except.ok.inj (hparse.symm.trans hwritten), hdefines⟩
    | error failure =>
      have hundefined : ¬Defines room (.string text) substitution := by
        intro hdefines
        cases hdefines with
        | written hwritten hdefines => cases hparse.symm.trans hwritten
      cases failure with
      | malformed fault =>
        obtain rfl : .error (.malformed fault) = outcome := by
          simpa [readEntry, hparse] using hentry
        refine ⟨fun heq => ?_, fun hdefines => absurd hdefines hundefined⟩
        cases heq
      | oversized fault => simp [readEntry, hparse] at hentry
      | tooDeep container => simp [readEntry, hparse] at hentry
  | object members =>
    obtain rfl : substitutionOfValue (.object members) = outcome := Except.ok.inj hentry
    rw [substitutionOfValue_eq_ok_iff]
    constructor
    · rintro ⟨members', heq, hdefines⟩
      rw [heq]
      exact hdefines
    · exact fun hdefines => ⟨members, rfl, hdefines⟩
  | _ =>
    obtain rfl := Except.ok.inj hentry
    constructor
    · intro heq
      cases heq
    · intro hdefines
      cases hdefines

/-! ## What a table comes to -/

/-- The substitutions among the outcomes of entries. -/
def kept (outcomes : List Outcome) : List Substitution :=
  outcomes.flatMap fun outcome => outcome.toOption.toList

section

variable (outcomes : List Outcome)

@[simp] theorem kept_cons_ok (substitution : Substitution) :
    kept (.ok substitution :: outcomes) = substitution :: kept outcomes := rfl

@[simp] theorem kept_cons_error (problem : EntryProblem) :
    kept (.error problem :: outcomes) = kept outcomes := rfl

end

/-- The notices of the entries from an index on that are left out. -/
def complaints : Nat → List Outcome → List Notice
  | _, [] => []
  | index, .ok _ :: outcomes => complaints (index + 1) outcomes
  | index, .error problem :: outcomes =>
    .unusableEntry index problem :: complaints (index + 1) outcomes

/-- Each entry is either kept or complained of. -/
theorem length_kept_add_length_complaints (index : Nat) (outcomes : List Outcome) :
    (kept outcomes).length + (complaints index outcomes).length = outcomes.length := by
  induction outcomes generalizing index with
  | nil => rfl
  | cons outcome outcomes ih =>
    have hothers := ih (index + 1)
    cases outcome with
    | ok substitution =>
      rw [kept_cons_ok, complaints, List.length_cons, List.length_cons]
      omega
    | error problem =>
      rw [kept_cons_error, complaints, List.length_cons, List.length_cons]
      omega

/-- What is kept has a code. -/
theorem code_of_mem_kept {entries : List Value} {outcomes : List Outcome}
    (h : List.Forall₂ (Yields room) entries outcomes) {substitution : Substitution}
    (hmem : substitution ∈ kept outcomes) : substitution.code.points ≠ [] := by
  induction h with
  | nil => cases hmem
  | @cons entry outcome entries outcomes hentry _ ih =>
    cases outcome with
    | ok substitution' =>
      rw [kept_cons_ok] at hmem
      rcases List.mem_cons.1 hmem with rfl | hmem
      · exact (hentry.eq_ok_iff.1 rfl).code
      · exact ih hmem
    | error problem => exact ih hmem

theorem level_of_mem_complaints {index : Nat} {outcomes : List Outcome} {notice : Notice}
    (h : notice ∈ complaints index outcomes) : notice.level = .warning := by
  induction outcomes generalizing index with
  | nil => cases h
  | cons outcome outcomes ih =>
    cases outcome with
    | ok substitution => exact ih h
    | error problem =>
      rcases List.mem_cons.1 h with rfl | hmem
      · rfl
      · exact ih hmem

/-- The entries of a table are read one by one. -/
theorem readEntriesFrom_of_yields {entries : List Value} {outcomes : List Outcome}
    (h : List.Forall₂ (Yields room) entries outcomes) (index : Nat) :
    (readEntriesFrom room index entries).value = .ok (kept outcomes) ∧
      (readEntriesFrom room index entries).notices = complaints index outcomes := by
  induction h generalizing index with
  | nil => exact ⟨rfl, rfl⟩
  | @cons entry outcome entries outcomes hentry _ ih =>
    obtain ⟨hvalue, hnotices⟩ := ih (index + 1)
    have houtcome : (Attempt.ofExcept (readEntry room index entry)).value = .ok outcome :=
      hentry index
    rw [readEntriesFrom, Attempt.value_bind_of_ok houtcome, Attempt.notices_bind_of_ok houtcome]
    cases outcome with
    | ok substitution =>
      simp only
      rw [Attempt.value_bind_pure, Attempt.notices_bind_pure, hvalue, hnotices]
      exact ⟨rfl, rfl⟩
    | error problem =>
      -- the entries behind are read as if this one were not there, at their own places
      have hnote : (Attempt.note (.unusableEntry index problem) :
          Attempt Failure Unit).value = .ok () := rfl
      simp only
      rw [Attempt.value_bind_of_ok hnote, Attempt.notices_bind_of_ok hnote, hvalue, hnotices]
      exact ⟨rfl, rfl⟩

/-! ## How a table is written -/

/-- An entry, or for an object a text that is JSON for it. -/
inductive Encodes (room : Room) : Value → Value → Prop where
  | same (entry : Value) : Encodes room entry entry
  | written {members : Members} {text : Text}
      (h : Json.parse room.entry text = .ok (.object members)) :
      Encodes room (.object members) (.string text)

theorem readEntry_of_encodes {entry other : Value} (h : Encodes room entry other) (index : Nat) :
    readEntry room index other = readEntry room index entry := by
  cases h with
  | same => rfl
  | written h => simp [readEntry, h]

theorem readEntriesFrom_of_encodes {entries others : List Value}
    (h : List.Forall₂ (Encodes room) entries others) (index : Nat) :
    readEntriesFrom room index others = readEntriesFrom room index entries := by
  induction h generalizing index with
  | nil => rfl
  | cons hentry _ ih => simp only [readEntriesFrom, readEntry_of_encodes hentry, ih]

/-- A table that is written as a text is read as the table it stands for. -/
theorem readSubstitutions_of_parse {text : Text} {entries : List Value}
    (h : Json.parse room.table text = .ok (.array entries)) :
    readSubstitutions room (.string text) = readSubstitutions room (.array entries) := by
  have hdrawn : Text.isBlankText text.points = false := Json.isBlankText_of_parse h
  simp only [readSubstitutions, hdrawn, Bool.false_eq_true, if_false, h]

/-! ## Entry by entry -/

/-- A list of entries is read entry by entry, and however it is written. -/
structure Entrywise (room : Room) (entries : List Value) : Prop where
  /-- The table is made of the tables of its entries, each with the substitution that the entry
  defines, if it defines one. -/
  joined : ∃ parts,
    List.Forall₂ (fun entry part =>
      (readSubstitutions room (.array [entry])).value = .ok part ∧ part.length ≤ 1 ∧
        ∀ substitution, substitution ∈ part ↔ Defines room entry substitution) entries parts ∧
    (readSubstitutions room (.array entries)).value = .ok parts.flatten
  coded : ∀ table, (readSubstitutions room (.array entries)).value = .ok table →
    ∀ substitution ∈ table, substitution.code.points ≠ []
  /-- There is a substitution or a notice for each entry. -/
  counted : ∀ table, (readSubstitutions room (.array entries)).value = .ok table →
    table.length + (readSubstitutions room (.array entries)).notices.length = entries.length
  warnings : ∀ notice ∈ (readSubstitutions room (.array entries)).notices, notice.level = .warning
  /-- Objects may be given as texts that are JSON for them. -/
  encoded : ∀ {others}, List.Forall₂ (Encodes room) entries others →
    readSubstitutions room (.array others) = readSubstitutions room (.array entries)
  /-- The whole table may be given as a text that is JSON for it. -/
  written : ∀ {text}, Json.parse room.table text = .ok (.array entries) →
    readSubstitutions room (.string text) = readSubstitutions room (.array entries)

/-- **The table is read entry by entry** if no entry of it exceeds a limit. -/
theorem entrywise_of_legible {entries : List Value}
    (legible : ∀ entry ∈ entries, ¬EntryExceeds room entry) : Entrywise room entries := by
  obtain ⟨outcomes, hyields⟩ := exists_yields_all legible
  obtain ⟨hvalue, hnotices⟩ := readEntriesFrom_of_yields hyields 0
  have htable : (readSubstitutions room (.array entries)).value = .ok (kept outcomes) := hvalue
  have hwarned : (readSubstitutions room (.array entries)).notices = complaints 0 outcomes :=
    hnotices
  refine ⟨?_, ?_, ?_, ?_, ?_, ?_⟩
  · refine ⟨outcomes.map fun outcome => outcome.toOption.toList, ?_, ?_⟩
    · rw [List.forall₂_map_right_iff]
      refine hyields.imp ?_
      -- alone in a list, an entry stands at place 0, and comes to the same there
      intro entry outcome hentry
      have hsingle : (readEntriesFrom room 0 [entry]).value = .ok (kept [outcome]) :=
        (readEntriesFrom_of_yields (.cons hentry .nil) 0).1
      have hkept : kept [outcome] = outcome.toOption.toList := by
        rw [kept, List.flatMap_cons, List.flatMap_nil, List.append_nil]
      have hlength : outcome.toOption.toList.length ≤ 1 := by
        cases outcome <;> simp [Except.toOption]
      have hmem : ∀ substitution, substitution ∈ outcome.toOption.toList ↔
          outcome = .ok substitution := by
        intro substitution
        cases outcome <;> simp [Except.toOption, eq_comm]
      rw [hkept] at hsingle
      exact ⟨hsingle, hlength, fun substitution => (hmem substitution).trans hentry.eq_ok_iff⟩
    · rw [htable, kept, List.flatMap_def]
  · intro table heq substitution hmem
    obtain rfl := Except.ok.inj (htable.symm.trans heq)
    exact code_of_mem_kept hyields hmem
  · intro table heq
    obtain rfl := Except.ok.inj (htable.symm.trans heq)
    rw [hwarned, length_kept_add_length_complaints, hyields.length_eq]
  · intro notice hmem
    rw [hwarned] at hmem
    exact level_of_mem_complaints hmem
  · intro others hothers
    exact readEntriesFrom_of_encodes hothers 0
  · intro text hparse
    exact readSubstitutions_of_parse hparse

/-- An entry that is a value, one that is none of a substitution, and one that is a text. -/
def mixedEntries : List Value :=
  [.object [("text_code", .string "A"), ("default_text", .string "x")], .integer 3,
    .string "\x7b\"textCode\": \"B\"\x7d"]

theorem entrywise_mixed_entries :
    let room : Room := ⟨0, 0, 1, 0⟩
    (∀ entry ∈ mixedEntries, ¬EntryExceeds room entry) ∧ Entrywise room mixedEntries ∧
      (readSubstitutions room (.array mixedEntries)).value = .ok [⟨"A", "x", ""⟩, ⟨"B", "", ""⟩] ∧
      (readSubstitutions room (.array mixedEntries)).notices = [.unusableEntry 1 .notAnObject] :=
  have legible : ∀ entry ∈ mixedEntries, ¬EntryExceeds ⟨0, 0, 1, 0⟩ entry := by decide +kernel
  ⟨legible, entrywise_of_legible legible, by decide +kernel, by decide +kernel⟩

end GatedPrompt.Definitions
