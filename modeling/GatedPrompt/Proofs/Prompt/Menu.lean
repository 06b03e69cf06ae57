import GatedPrompt.Prompt.Session

/-!
# The records of a processed prompt

Processing a prompt turns its choice texts into records, one for each text and in their order. This
module says what the records hold and how they are found again, which is all that later theorems on
prompts need to know about processing.

* `Records` — the records of choice texts from an index and a row on, read off the texts: the
  verdict of each text is the one of the game that was processed, and a row is used up by each
  visible choice;
* `Records.find?_index`, `Records.find?_row` — the record of an index is the one at that position,
  and the record of a row is the one at that position among the visible ones;
* `Processed` — a context that holds the records of a prompt, numbered from zero;
* `processed_of_process` — processing a prompt ends in such a context;
* `Processed.entryAt?_eq`, `Processed.entryOnRow?_eq`, `Processed.mem_disabledRows_iff` — the two
  look-ups and the disabled rows of such a context, by position.
-/

namespace GatedPrompt.Prompt

/-- The records of choice texts, where the first text has the given index and the first visible
choice the given row. -/
inductive Records (settings : Settings) (state : Game.State) :
    Nat → Nat → List Text → List Entry → Prop where
  | nil {index row : Nat} : Records settings state index row [] []
  | cons {index row : Nat} {text label : Text} {verdict : Verdict} {texts : List Text}
      {entries : List Entry}
      (evaluated : (evaluateChoice settings state text).value = .ok (label, verdict))
      -- A hidden choice leaves the row to the next one.
      (others : Records settings state (index + 1) (if verdict.hidden then row else row + 1)
        texts entries) :
      Records settings state index row (text :: texts)
        (⟨index, text, renderLabel settings verdict.disabled label, verdict.hidden,
          verdict.disabled, if verdict.hidden then none else some (row : Int)⟩ :: entries)

variable {settings : Settings} {state : Game.State}

/-! ## Processing makes such records -/

theorem records_of_analyseFrom {texts : List Text} :
    ∀ {index row : Nat} {entries : List Entry},
      (analyseFrom settings state index texts).value = .ok entries →
      Records settings state index row texts
        ((assignRowsFrom row entries).map (render settings)) := by
  induction texts with
  | nil =>
    intro index row entries h
    obtain rfl : [] = entries := by simpa [analyseFrom] using h
    exact .nil
  | cons text texts ih =>
    intro index row entries h
    rw [analyseFrom, Attempt.value_bind_eq_ok_iff] at h
    obtain ⟨⟨label, disabled, hidden⟩, hevaluated, h⟩ := h
    rw [Attempt.value_bind_eq_ok_iff] at h
    obtain ⟨_, _, h⟩ := h
    rw [Attempt.value_bind_eq_ok_iff] at h
    obtain ⟨others, hothers, h⟩ := h
    obtain rfl : _ :: others = entries := by simpa using h
    cases hidden with
    | true => exact .cons hevaluated (ih hothers)
    | false => exact .cons hevaluated (ih hothers)

namespace Records

variable {index row : Nat} {texts : List Text} {entries : List Entry}

theorem length_eq (h : Records settings state index row texts entries) :
    entries.length = texts.length := by
  induction h with
  | nil => rfl
  | cons _ _ ih => simp [ih]

/-- What a record says of its choice: where it stood, the text it stands for, whether it has a row,
and the verdict on it. -/
theorem of_getElem? (h : Records settings state index row texts entries) {n : Nat} {entry : Entry}
    (hentry : entries[n]? = some entry) :
    entry.index = (index + n : Nat) ∧ texts[n]? = some entry.rawText ∧
      (entry.isVisible = !entry.hidden) ∧
      ∃ label, (evaluateChoice settings state entry.rawText).value =
        .ok (label, ⟨entry.disabled, entry.hidden⟩) := by
  induction h generalizing n with
  | nil => simp at hentry
  | @cons index row _ _ verdict _ _ evaluated _ ih =>
    cases n with
    | zero =>
      obtain rfl := Option.some.inj hentry
      refine ⟨rfl, rfl, ?_, _, evaluated⟩
      cases verdict.hidden <;> rfl
    | succ n =>
      obtain ⟨hindex, hrest⟩ := ih hentry
      exact ⟨by rw [hindex, Nat.add_assoc, Nat.add_comm 1], hrest⟩

/-- What the record of a choice says of it, and the label that the menu shows for it. -/
theorem exists_of_getElem? (h : Records settings state index row texts entries) {n : Nat}
    {text : Text} (htext : texts[n]? = some text) :
    ∃ entry label, entries[n]? = some entry ∧ entry.rawText = text ∧
      (evaluateChoice settings state text).value =
        .ok (label, ⟨entry.disabled, entry.hidden⟩) ∧
      entry.label = renderLabel settings entry.disabled label := by
  induction h generalizing n with
  | nil => simp at htext
  | @cons _ _ _ label _ _ _ evaluated _ ih =>
    cases n with
    | zero =>
      obtain rfl := Option.some.inj htext
      exact ⟨_, label, rfl, rfl, evaluated, rfl⟩
    | succ n => exact ih htext

/-- The record with an index is the one at that position. -/
theorem find?_index (h : Records settings state index row texts entries) (i : Int) :
    (entries.find? fun entry => entry.index == i) =
      if (index : Int) ≤ i then entries[(i - index).toNat]? else none := by
  induction h with
  | nil => simp
  | @cons index _ _ _ _ _ _ _ _ ih =>
    by_cases heq : (index : Int) = i
    · subst heq
      simp
    · rw [List.find?_cons_of_neg (by simpa using heq), ih]
      by_cases hle : (index : Int) ≤ i
      · have hpos : (i - index).toNat = (i - (index + 1 : Nat)).toNat + 1 := by omega
        rw [if_pos hle, if_pos (by omega), hpos, List.getElem?_cons_succ]
      · rw [if_neg hle, if_neg (by omega)]

/-- The record on a row is the one at that position among the visible ones. -/
theorem find?_row (h : Records settings state index row texts entries) (r : Int) :
    (entries.find? fun entry => entry.row == some r) =
      if (row : Int) ≤ r then (entries.filter Entry.isVisible)[(r - row).toNat]? else none := by
  induction h with
  | nil => simp
  | @cons _ row _ _ verdict _ _ _ _ ih =>
    cases hhidden : verdict.hidden with
    | true =>
      rw [hhidden] at ih
      simpa [Entry.isVisible] using ih
    | false =>
      rw [hhidden] at ih
      rw [List.filter_cons_of_pos (by rfl)]
      by_cases heq : (row : Int) = r
      · subst heq
        simp
      · rw [List.find?_cons_of_neg (by simpa using heq), ih]
        simp only [Bool.false_eq_true, if_false]
        by_cases hle : (row : Int) ≤ r
        · have hpos : (r - row).toNat = (r - (row + 1 : Nat)).toNat + 1 := by omega
          rw [if_pos hle, if_pos (by omega), hpos, List.getElem?_cons_succ]
        · rw [if_neg hle, if_neg (by omega)]

/-- The visible choices stand on consecutive rows. -/
theorem row_of_getElem?_visible (h : Records settings state index row texts entries) {n : Nat}
    {entry : Entry} (hentry : (entries.filter Entry.isVisible)[n]? = some entry) :
    entry.row = some ((row + n : Nat) : Int) := by
  have hfound := h.find?_row (row + n : Nat)
  rw [if_pos (by omega), show (((row + n : Nat) : Int) - row).toNat = n by omega, hentry] at hfound
  simpa using List.find?_some hfound

end Records

/-! ## Processed contexts -/

/-- A context that holds the records of a prompt, numbered from zero. -/
structure Processed (settings : Settings) (state : Game.State) (descriptor : Descriptor)
    (context : Context) : Prop where
  descriptor_eq : context.descriptor = descriptor
  records : Records settings state 0 0 descriptor.choices context.entries

/-- **Processing a prompt ends in a context that holds its records.** -/
theorem processed_of_process {descriptor : Descriptor} {context : Context}
    (h : (process settings state descriptor).value = .ok (some context)) :
    Processed settings state descriptor context := by
  unfold process at h
  split at h
  · simp at h
  · rw [Attempt.value_bind_eq_ok_iff] at h
    obtain ⟨entries, hentries, h⟩ := h
    obtain rfl : _ = context := by simpa using h
    exact ⟨rfl, records_of_analyseFrom hentries⟩

/-- A prompt with choices that can be processed has a context. -/
theorem exists_context {descriptor : Descriptor} {result : Option Context}
    (hchoices : descriptor.choices ≠ [])
    (h : (process settings state descriptor).value = .ok result) :
    ∃ context, result = some context := by
  unfold process at h
  split at h
  · next hnone => exact absurd hnone hchoices
  · rw [Attempt.value_bind_eq_ok_iff] at h
    obtain ⟨entries, -, h⟩ := h
    exact ⟨_, (Except.ok.inj h).symm⟩

namespace Processed

variable {descriptor : Descriptor} {context : Context}

theorem entryAt?_eq (h : Processed settings state descriptor context) (i : Int) :
    context.entryAt? i = if 0 ≤ i then context.entries[i.toNat]? else none := by
  rw [Context.entryAt?, h.records.find?_index i]
  simp

theorem entryOnRow?_eq (h : Processed settings state descriptor context) (r : Int) :
    context.entryOnRow? r = if 0 ≤ r then context.visible[r.toNat]? else none := by
  rw [Context.entryOnRow?, h.records.find?_row r, Context.visible]
  simp

/-- A record is found by its index. -/
theorem entryAt?_of_mem (h : Processed settings state descriptor context) {entry : Entry}
    (hmem : entry ∈ context.entries) : context.entryAt? entry.index = some entry := by
  obtain ⟨n, hn⟩ := List.mem_iff_getElem?.1 hmem
  obtain ⟨hindex, -⟩ := h.records.of_getElem? hn
  rw [h.entryAt?_eq, hindex, if_pos (by omega), ← hn]
  congr 1
  omega

/-- No choice is found exactly if the index is not one of the prompt. -/
theorem entryAt?_eq_none_iff (h : Processed settings state descriptor context) {i : Int} :
    context.entryAt? i = none ↔ ¬(0 ≤ i ∧ i < descriptor.choices.length) := by
  have hlength := h.records.length_eq
  rw [h.entryAt?_eq]
  by_cases hi : 0 ≤ i
  · rw [if_pos hi, List.getElem?_eq_none_iff]
    omega
  · simp [hi]

theorem isVisible_eq (h : Processed settings state descriptor context) {entry : Entry}
    (hmem : entry ∈ context.entries) : entry.isVisible = !entry.hidden := by
  obtain ⟨n, hn⟩ := List.mem_iff_getElem?.1 hmem
  exact (h.records.of_getElem? hn).2.2.1

theorem row_of_getElem?_visible (h : Processed settings state descriptor context) {n : Nat}
    {entry : Entry} (hentry : context.visible[n]? = some entry) : entry.row = some (n : Int) := by
  simpa using h.records.row_of_getElem?_visible hentry

/-- The disabled rows are those whose record is disabled. -/
theorem mem_disabledRows_iff (h : Processed settings state descriptor context) {r : Int} :
    r ∈ context.disabledRows ↔
      0 ≤ r ∧ ∃ entry, context.visible[r.toNat]? = some entry ∧ entry.disabled = true := by
  simp only [Context.disabledRows, List.mem_filterMap, List.mem_filter]
  constructor
  · rintro ⟨entry, ⟨hmem, hdisabled⟩, hrow⟩
    obtain ⟨n, hn⟩ := List.mem_iff_getElem?.1 hmem
    obtain rfl : (n : Int) = r := Option.some.inj ((h.row_of_getElem?_visible hn).symm.trans hrow)
    exact ⟨by omega, entry, by simpa using hn, hdisabled⟩
  · rintro ⟨hr, entry, hentry, hdisabled⟩
    refine ⟨entry, ⟨List.mem_of_getElem? hentry, hdisabled⟩, ?_⟩
    rw [h.row_of_getElem?_visible hentry, Int.toNat_of_nonneg hr]

end Processed

end GatedPrompt.Prompt
