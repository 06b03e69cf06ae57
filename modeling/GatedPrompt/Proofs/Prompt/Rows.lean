import GatedPrompt.Proofs.Prompt.History

/-!
# Rows and choices

A processed prompt numbers its choices twice: every choice has an index, and every choice that is
not hidden has a row. The engine works with four look-ups and never says that they fit together;
this module does.

* `Context.shownCount` — how many choices are not hidden;
* `Numbered` — the rows are counted without gaps, the back mapping and the rows undo each other,
  and the labels, the view and the disabled rows follow the same numbering;
* `numbered_of_process` — so it is in every processed prompt.

Both numberings are read off `Records`, where each constructor moves the index by one and the row by
one or not at all.
-/

namespace GatedPrompt.Prompt

/-- The number of choices that are not hidden. -/
def Context.shownCount (context : Context) : Nat :=
  context.entries.countP fun entry => !entry.hidden

/-- What is promised of the rows of a processed prompt. -/
structure Numbered (settings : Settings) (state : Game.State) (descriptor : Descriptor)
    (context : Context) : Prop where
  length_entries : context.entries.length = descriptor.choices.length
  /-- The record at a position stands for the choice at that position. -/
  entry_at : ∀ (i : Nat) (text : Text), descriptor.choices[i]? = some text →
    ∃ entry, context.entries[i]? = some entry ∧ entry.index = i ∧ entry.rawText = text
  row_eq_none_iff : ∀ entry ∈ context.entries, entry.row = none ↔ entry.hidden = true
  /-- From the first choice to the last one, the rows are counted from zero without a gap. -/
  rows_eq : context.entries.filterMap Entry.row = (List.range context.shownCount).map Int.ofNat
  length_backMapping : context.backMapping.length = context.shownCount
  backMapping_ascending : context.backMapping.Pairwise (· < ·)
  /-- From a row to a choice, and back to the row. -/
  entry_on_row : ∀ r : Nat, r < context.shownCount →
    ∃ entry, context.entryOnRow? r = some entry ∧ context.backMapping[r]? = some entry.index ∧
      context.entryAt? entry.index = some entry ∧ entry.row = some (r : Int)
  no_entry_elsewhere : ∀ r : Int, ¬(0 ≤ r ∧ r < context.shownCount) → context.entryOnRow? r = none
  /-- From a choice to its row, and back to the choice. -/
  row_of_entry : ∀ entry ∈ context.entries, ∀ r : Int, entry.row = some r →
    0 ≤ r ∧ context.backMapping[r.toNat]? = some entry.index ∧ context.entryOnRow? r = some entry
  length_labels : context.labels.length = context.shownCount
  label_on_row : ∀ (r : Nat) (entry : Entry), context.entryOnRow? r = some entry →
    context.labels[r]? = some entry.label
  /-- The records are active once the prompt is opened. -/
  opened : ∀ session : Session, session.settings = settings →
    (session.openPrompt state descriptor).value.1 = { session with context := some context }
  /-- There is a view of them, unless the default is too long to be written. -/
  viewed : ∀ session : Session, session.settings = settings →
    Text.isUnwritable descriptor.defaultIndex = false →
    ∃ view, (session.openPrompt state descriptor).value.2 = .ok (some view)
  /-- A view of them shows the same rows. -/
  view : ∀ (session : Session) (view : View), session.settings = settings →
    (session.openPrompt state descriptor).value.2 = .ok (some view) →
      view.labels = context.labels ∧ view.indices = context.backMapping ∧
      view.rowCount = context.shownCount ∧ view.disabledRows.Pairwise (· < ·) ∧
      ∀ r, r ∈ view.disabledRows ↔
        ∃ entry, context.entryOnRow? r = some entry ∧ entry.disabled = true

/-! ## The two numberings -/

/-- Integers that count up are ascending. -/
theorem pairwise_lt_range' (first count : Nat) :
    ((List.range' first count).map Int.ofNat).Pairwise (· < ·) := by
  rw [List.pairwise_map]
  have hascending : (List.range' first count).Pairwise (· < ·) := List.pairwise_lt_range'
  exact hascending.imp fun hlt => Int.ofNat_lt.2 hlt

namespace Records

variable {settings : Settings} {state : Game.State} {index row : Nat} {texts : List Text}
  {entries : List Entry}

theorem indices_eq (h : Records settings state index row texts entries) :
    entries.map Entry.index = (List.range' index entries.length).map Int.ofNat := by
  induction h with
  | nil => rfl
  | cons _ _ ih =>
    rw [List.map_cons, ih, List.length_cons, List.range'_succ, List.map_cons]
    rfl

/-- The rows count the choices that are not hidden. -/
theorem rows_eq (h : Records settings state index row texts entries) :
    entries.filterMap Entry.row =
      (List.range' row (entries.countP fun entry => !entry.hidden)).map Int.ofNat := by
  induction h with
  | nil => rfl
  | @cons _ row _ _ verdict _ others _ _ ih =>
    cases hhidden : verdict.hidden with
    | true =>
      -- no row is used up, and the count stays as it is
      rw [hhidden] at ih
      simpa using ih
    | false =>
      rw [hhidden] at ih
      rw [List.countP_cons_of_pos rfl, List.range'_succ, List.map_cons]
      show Int.ofNat row :: others.filterMap Entry.row = _
      rw [ih]
      rfl

end Records

/-! ## Look-ups in a processed context -/

/-- The back mapping follows the records in the menu. -/
theorem Context.getElem?_backMapping {context : Context} {r : Nat} {entry : Entry}
    (hentry : context.visible[r]? = some entry) : context.backMapping[r]? = some entry.index := by
  rw [backMapping, List.getElem?_map, hentry]
  rfl

/-- A row of a view on which there is a choice is one of its rows. -/
theorem Context.lt_rowCount {context : Context} {highlighted : Option Int} {row : Nat} {index : Int}
    (hindex : (context.viewWith highlighted).indices[row]? = some index) :
    row < (context.viewWith highlighted).rowCount := by
  have hlength : (context.viewWith highlighted).indices.length =
      (context.viewWith highlighted).rowCount :=
    (List.length_map _).trans (List.length_map _).symm
  rw [← hlength]
  exact (List.getElem?_eq_some_iff.1 hindex).1

namespace Processed

variable {settings : Settings} {state : Game.State} {descriptor : Descriptor} {context : Context}

theorem length_visible (h : Processed settings state descriptor context) :
    context.visible.length = context.shownCount := by
  rw [Context.visible, Context.shownCount, ← List.countP_eq_length_filter]
  refine List.countP_congr fun entry hmem => ?_
  rw [h.isVisible_eq hmem]

theorem length_labels (h : Processed settings state descriptor context) :
    context.labels.length = context.shownCount := by
  rw [Context.labels, List.length_map, h.length_visible]

theorem length_backMapping (h : Processed settings state descriptor context) :
    context.backMapping.length = context.shownCount := by
  rw [Context.backMapping, List.length_map, h.length_visible]

theorem row_eq_none_iff (h : Processed settings state descriptor context) {entry : Entry}
    (hmem : entry ∈ context.entries) : entry.row = none ↔ entry.hidden = true := by
  have hvisible : entry.row.isSome = !entry.hidden := h.isVisible_eq hmem
  cases hrow : entry.row with
  | none =>
    rw [hrow] at hvisible
    simpa using hvisible
  | some row =>
    rw [hrow] at hvisible
    simpa using hvisible

theorem backMapping_ascending (h : Processed settings state descriptor context) :
    context.backMapping.Pairwise (· < ·) := by
  have hindices : (context.entries.map Entry.index).Pairwise (· < ·) := by
    rw [h.records.indices_eq]
    exact pairwise_lt_range' 0 _
  -- the back mapping only leaves out the hidden choices
  have hsublist : context.backMapping.Sublist (context.entries.map Entry.index) :=
    List.filter_sublist.map _
  exact hindices.sublist hsublist

/-- The disabled rows are some of the rows, in the same order. -/
theorem disabledRows_ascending (h : Processed settings state descriptor context) :
    context.disabledRows.Pairwise (· < ·) := by
  have hrows : (context.entries.filterMap Entry.row).Pairwise (· < ·) := by
    rw [h.records.rows_eq]
    exact pairwise_lt_range' 0 _
  have hsome : (context.visible.filter (·.disabled)).Sublist context.entries :=
    List.filter_sublist.trans List.filter_sublist
  exact hrows.sublist (hsome.filterMap _)

theorem entryOnRow?_of_getElem? (h : Processed settings state descriptor context) {r : Nat}
    {entry : Entry} (hentry : context.visible[r]? = some entry) :
    context.entryOnRow? r = some entry := by
  rw [h.entryOnRow?_eq, if_pos (Int.natCast_nonneg r), Int.toNat_natCast]
  exact hentry

/-- A record that has a row stands at that position among the visible ones. -/
theorem getElem?_visible_of_row (h : Processed settings state descriptor context) {entry : Entry}
    (hmem : entry ∈ context.entries) {r : Int} (hrow : entry.row = some r) :
    0 ≤ r ∧ context.visible[r.toNat]? = some entry := by
  have hvisible : entry ∈ context.visible :=
    List.mem_filter.2 ⟨hmem, by rw [Entry.isVisible, hrow]; rfl⟩
  obtain ⟨n, hn⟩ := List.mem_iff_getElem?.1 hvisible
  have hnrow : entry.row = some (n : Int) := h.row_of_getElem?_visible hn
  obtain rfl : (n : Int) = r := Option.some.inj (hnrow.symm.trans hrow)
  exact ⟨Int.natCast_nonneg n, by rw [Int.toNat_natCast]; exact hn⟩

theorem entryOnRow?_of_row (h : Processed settings state descriptor context) {entry : Entry}
    (hmem : entry ∈ context.entries) {r : Int} (hrow : entry.row = some r) :
    context.entryOnRow? r = some entry := by
  obtain ⟨hpos, hvisible⟩ := h.getElem?_visible_of_row hmem hrow
  rw [h.entryOnRow?_eq, if_pos hpos]
  exact hvisible

/-- Below the first row and behind the last one there is nothing. -/
theorem entryOnRow?_eq_none (h : Processed settings state descriptor context) {r : Int}
    (hr : ¬(0 ≤ r ∧ r < context.shownCount)) : context.entryOnRow? r = none := by
  have hcount : context.visible.length = context.shownCount := h.length_visible
  rw [h.entryOnRow?_eq]
  by_cases hpos : 0 ≤ r
  · rw [if_pos hpos, List.getElem?_eq_none_iff]
    omega
  · rw [if_neg hpos]

theorem mem_disabledRows_iff_entryOnRow? (h : Processed settings state descriptor context)
    {r : Int} : r ∈ context.disabledRows ↔
      ∃ entry, context.entryOnRow? r = some entry ∧ entry.disabled = true := by
  rw [h.mem_disabledRows_iff, h.entryOnRow?_eq]
  by_cases hr : 0 ≤ r
  · rw [if_pos hr]
    exact and_iff_right hr
  · rw [if_neg hr]
    constructor
    · rintro ⟨hpos, -⟩
      exact absurd hpos hr
    · rintro ⟨entry, hentry, -⟩
      cases hentry

end Processed

/-! ## All that is promised -/

/-- **Rows and choices correspond.** Hidden choices have no row, and the others are on the rows from
zero on, in their order; every way to get from a row to a choice and back agrees with that. -/
theorem numbered_of_process {settings : Settings} {state : Game.State} {descriptor : Descriptor}
    {context : Context} (h : (process settings state descriptor).value = .ok (some context)) :
    Numbered settings state descriptor context := by
  have hp : Processed settings state descriptor context := processed_of_process h
  refine ⟨hp.records.length_eq, ?_, fun entry hmem => hp.row_eq_none_iff hmem, ?_,
    hp.length_backMapping, hp.backMapping_ascending, ?_, fun r => hp.entryOnRow?_eq_none, ?_,
    hp.length_labels, ?_, ?_, ?_, ?_⟩
  · intro i text htext
    obtain ⟨entry, label, hentry, hrawText, -, -⟩ := hp.records.exists_of_getElem? htext
    have hindex : entry.index = ((0 + i : Nat) : Int) := (hp.records.of_getElem? hentry).1
    rw [Nat.zero_add] at hindex
    exact ⟨entry, hentry, hindex, hrawText⟩
  · rw [hp.records.rows_eq, List.range_eq_range']
    rfl
  · intro r hr
    -- the record on the row is the one at that position of the menu
    have hlt : r < context.visible.length := by
      rw [hp.length_visible]
      exact hr
    have hentry : context.visible[r]? = some context.visible[r] := List.getElem?_eq_getElem hlt
    have hmem : context.visible[r] ∈ context.entries :=
      (List.mem_filter.1 (List.getElem_mem hlt)).1
    exact ⟨context.visible[r], hp.entryOnRow?_of_getElem? hentry,
      Context.getElem?_backMapping hentry, hp.entryAt?_of_mem hmem,
      hp.row_of_getElem?_visible hentry⟩
  · intro entry hmem r hrow
    obtain ⟨hr, hentry⟩ := hp.getElem?_visible_of_row hmem hrow
    exact ⟨hr, Context.getElem?_backMapping hentry, hp.entryOnRow?_of_row hmem hrow⟩
  · intro r entry hentry
    rw [hp.entryOnRow?_eq, if_pos (Int.natCast_nonneg r), Int.toNat_natCast] at hentry
    rw [Context.labels, List.getElem?_map, hentry]
    rfl
  · intro session hsettings
    subst hsettings
    rw [value_openPrompt, h]
  · intro session hsettings hshort
    subst hsettings
    rw [value_openPrompt, h]
    cases hview : (context.view session.settings).value with
    | ok view => exact ⟨view, by simp only [hview]; rfl⟩
    | error fault =>
      obtain ⟨-, -, hlong⟩ := (hp.view_fails_iff _).1 ⟨fault, hview⟩
      rw [hshort] at hlong
      cases hlong
  · intro session view hsettings hopen
    subst hsettings
    obtain ⟨opened, hcontext, hview, -⟩ := processed_of_openPrompt (Prod.ext rfl hopen)
    rw [value_openPrompt, h] at hcontext
    obtain rfl : context = opened := by simpa using hcontext
    obtain ⟨highlighted, rfl⟩ := Context.viewWith_of_view hview
    exact ⟨rfl, rfl, hp.length_labels, hp.disabledRows_ascending,
      fun r => hp.mem_disabledRows_iff_entryOnRow?⟩

/-- A hidden choice stands before two others, of which the first is disabled. -/
theorem numbered_behind_hidden :
    let settings : Settings := {}
    let state : Game.State := { gold := 5 }
    let descriptor : Descriptor := ⟨["(([g>3]))Steal", "<<[g>3]>>Buy", "Leave"], -1, -1⟩
    let context : Context := ⟨descriptor,
      [⟨0, "(([g>3]))Steal", "Steal", true, false, none⟩,
        ⟨1, "<<[g>3]>>Buy", "\\C[7]Buy", false, true, some 0⟩,
        ⟨2, "Leave", "Leave", false, false, some 1⟩]⟩
    (process settings state descriptor).value = .ok (some context) ∧
      Numbered settings state descriptor context := by
  intro settings state descriptor context
  have hprocess : (process settings state descriptor).value = .ok (some context) := by
    decide +kernel
  exact ⟨hprocess, numbered_of_process hprocess⟩

end GatedPrompt.Prompt
