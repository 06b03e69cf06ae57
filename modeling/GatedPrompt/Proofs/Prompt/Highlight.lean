import GatedPrompt.Proofs.Prompt.Ranks

/-!
# The row to highlight

The row that is highlighted when a menu opens is searched for: the default is looked up by its
index, and if it is hidden, the choices behind or before it are, and then those on the other side.
This module replaces the search by arithmetic on ranks. A default behind the last choice is
reported, and if its number is too long for that, the search ends there.

* `Highlights` — what is promised of the row: its closed form, that it is in the menu, which choice
  stands on it, and when a default is reported as missing;
* `highlights_of_process` — so it is in every processed prompt;
* `unreported_default` — a missing default for which the search does not end with no row.
-/

namespace GatedPrompt.Prompt

/-- What is promised of the row to highlight. The policy on hidden defaults need not be the one of
the settings that the prompt was processed with. -/
structure Highlights (selection : Settings) (descriptor : Descriptor) (context : Context) :
    Prop where
  nothing : descriptor.defaultIndex < 0 ∨ context.shownCount = 0 ∨
      ((descriptor.choices.length : Int) ≤ descriptor.defaultIndex ∧
        Text.isUnwritable descriptor.defaultIndex = false) →
    (context.initialRow selection).value = .ok none
  /-- The search only fails on a default behind the last choice that is too long to be reported. -/
  fails_iff : ∀ fault, (context.initialRow selection).value = .error fault ↔
    (context.shownCount ≠ 0 ∧ (descriptor.choices.length : Int) ≤ descriptor.defaultIndex ∧
      Text.isUnwritable descriptor.defaultIndex = true) ∧ fault = .integer
  /-- A default in the menu is highlighted, on the row of its rank. -/
  shown : ∀ (i : Nat) (entry : Entry), descriptor.defaultIndex = i →
    context.entries[i]? = some entry → entry.hidden = false →
    (context.initialRow selection).value = .ok (some (context.rank i : Int)) ∧
      context.backMapping[context.rank i]? = some (i : Int)
  /-- A hidden default is replaced as its rank tells. -/
  replaced : ∀ (i : Nat) (entry : Entry), descriptor.defaultIndex = i →
    context.entries[i]? = some entry → entry.hidden = true → context.shownCount ≠ 0 →
    (context.initialRow selection).value =
      .ok (replacementRow selection.hiddenDefault (context.rank i) context.shownCount)
  /-- What is looked for is the nearest choice, on the side that the policy prefers. -/
  nearest : ∀ (i : Nat) (entry : Entry) (side : Side), descriptor.defaultIndex = i →
    context.entries[i]? = some entry → entry.hidden = true → context.shownCount ≠ 0 →
    selection.hiddenDefault.side? = some side →
    ∃ r chosen, (context.initialRow selection).value = .ok (some r) ∧
      context.entryOnRow? r = some chosen ∧ context.PreferredOn side i chosen
  in_menu : ∀ r, (context.initialRow selection).value = .ok (some r) →
    0 ≤ r ∧ r < context.shownCount
  /-- A default behind the last choice is reported, unless there is no menu or it is too long. -/
  reported : (context.initialRow selection).notices =
    if context.shownCount ≠ 0 ∧ (descriptor.choices.length : Int) ≤ descriptor.defaultIndex ∧
        Text.isUnwritable descriptor.defaultIndex = false then
      [.defaultNotFound descriptor.defaultIndex]
    else []
  warned : ∀ notice ∈ (context.initialRow selection).notices, notice.level = .warning

/-! ## The row of a context -/

namespace Context

variable {selection : Settings} {context : Context}

theorem fallbackRow_of_side {policy : HiddenDefault} {side : Side}
    (hside : policy.side? = some side) (index : Int) :
    context.fallbackRow policy index =
      (context.rowOn? side index).or (context.rowOn? side.other index) := by
  cases policy with
  | nothing => cases hside
  | first => cases hside
  | next =>
    obtain rfl : Side.behind = side := Option.some.inj hside
    rfl
  | previous =>
    obtain rfl : Side.before = side := Option.some.inj hside
    rfl

end Context

/-! ## The row of a processed prompt -/

namespace Processed

variable {settings selection : Settings} {state : Game.State} {descriptor : Descriptor}
  {context : Context}

theorem visible_eq_nil_iff (h : Processed settings state descriptor context) :
    context.visible = [] ↔ context.shownCount = 0 := by
  rw [← h.length_visible, List.length_eq_zero_iff]

/-- The three ways in which a default can stand to a menu. -/
theorem default_cases (h : Processed settings state descriptor context) :
    (descriptor.defaultIndex < 0 ∨ context.shownCount = 0) ∨
      (context.shownCount ≠ 0 ∧ (descriptor.choices.length : Int) ≤ descriptor.defaultIndex) ∨
      ∃ (i : Nat) (entry : Entry), context.shownCount ≠ 0 ∧ descriptor.defaultIndex = i ∧
        context.entries[i]? = some entry := by
  by_cases hidle : descriptor.defaultIndex < 0 ∨ context.shownCount = 0
  · exact .inl hidle
  · obtain ⟨hnonneg, hcount⟩ := not_or.1 hidle
    refine .inr ?_
    by_cases hlarge : (descriptor.choices.length : Int) ≤ descriptor.defaultIndex
    · exact .inl ⟨hcount, hlarge⟩
    · have hlength := h.records.length_eq
      have hlt : descriptor.defaultIndex.toNat < context.entries.length := by omega
      exact .inr ⟨descriptor.defaultIndex.toNat, _, hcount, by omega,
        List.getElem?_eq_getElem hlt⟩

theorem initialRow_of_idle (h : Processed settings state descriptor context)
    (hidle : descriptor.defaultIndex < 0 ∨ context.shownCount = 0) :
    context.initialRow selection = pure none := by
  refine Context.initialRow_of_idle ?_
  rwa [h.descriptor_eq, h.visible_eq_nil_iff]

theorem initialRow_of_large (h : Processed settings state descriptor context)
    (hcount : context.shownCount ≠ 0)
    (hlarge : (descriptor.choices.length : Int) ≤ descriptor.defaultIndex) :
    context.initialRow selection =
      (do Attempt.noteOf descriptor.defaultIndex .defaultNotFound; pure none) := by
  have hnone : context.entryAt? context.descriptor.defaultIndex = none := by
    rw [h.descriptor_eq, h.entryAt?_eq_none_iff]
    omega
  rw [Context.initialRow_of_none ?_ hnone, h.descriptor_eq]
  rw [h.descriptor_eq, h.visible_eq_nil_iff]
  omega

variable {i : Nat} {entry : Entry}

theorem initialRow_of_getElem? (h : Processed settings state descriptor context)
    (hcount : context.shownCount ≠ 0) (hdefault : descriptor.defaultIndex = i)
    (hentry : context.entries[i]? = some entry) :
    context.initialRow selection =
      pure (if entry.hidden then context.fallbackRow selection.hiddenDefault i
        else entry.row) := by
  have hfound : context.entryAt? context.descriptor.defaultIndex = some entry := by
    rw [h.descriptor_eq, hdefault, ← h.index_eq hentry]
    exact h.entryAt?_of_mem (List.mem_of_getElem? hentry)
  rw [Context.initialRow_of_some ?_ hfound, h.index_eq hentry]
  rw [h.descriptor_eq, h.visible_eq_nil_iff]
  omega

/-- A default in the menu is highlighted, on the row of its rank. -/
theorem initialRow_of_shown (h : Processed settings state descriptor context)
    (hdefault : descriptor.defaultIndex = i) (hentry : context.entries[i]? = some entry)
    (hshown : entry.hidden = false) :
    context.initialRow selection = pure (some (context.rank i : Int)) := by
  obtain ⟨hrow, hvisible⟩ := h.row_eq_rank hentry hshown
  have hlt : context.rank i < context.shownCount := h.lt_shownCount hvisible
  rw [h.initialRow_of_getElem? (by omega) hdefault hentry, hshown, hrow]
  rfl

/-- A hidden default is replaced by the preferred choice. -/
theorem exists_replacement (h : Processed settings state descriptor context)
    (hcount : context.shownCount ≠ 0) (hdefault : descriptor.defaultIndex = i)
    (hentry : context.entries[i]? = some entry) (hhidden : entry.hidden = true) {side : Side}
    (hside : selection.hiddenDefault.side? = some side) :
    ∃ chosen, context.PreferredOn side i chosen ∧
      context.initialRow selection = pure chosen.row := by
  have hindex := h.index_ne_of_hidden hentry hhidden
  obtain ⟨chosen, hpreferred, hrow⟩ := h.exists_preferredOn hcount hindex side
  refine ⟨chosen, hpreferred, ?_⟩
  rw [h.initialRow_of_getElem? hcount hdefault hentry, hhidden, if_pos rfl,
    Context.fallbackRow_of_side hside, hrow]

theorem initialRow_of_hidden (h : Processed settings state descriptor context)
    (hcount : context.shownCount ≠ 0) (hdefault : descriptor.defaultIndex = i)
    (hentry : context.entries[i]? = some entry) (hhidden : entry.hidden = true) :
    context.initialRow selection =
      pure (replacementRow selection.hiddenDefault (context.rank i) context.shownCount) := by
  cases hside : selection.hiddenDefault.side? with
  | some side =>
    obtain ⟨chosen, hpreferred, hrow⟩ :=
      h.exists_replacement hcount hdefault hentry hhidden hside
    rw [hrow, h.row_of_preferredOn (h.index_ne_of_hidden hentry hhidden) hside hpreferred]
  | none =>
    -- these policies do not look for a choice
    rw [h.initialRow_of_getElem? hcount hdefault hentry, hhidden, if_pos rfl]
    cases hpolicy : selection.hiddenDefault with
    | nothing => rfl
    | first => rfl
    | next =>
      rw [hpolicy] at hside
      cases hside
    | previous =>
      rw [hpolicy] at hside
      cases hside

/-- A row is highlighted only in a menu that has it. -/
theorem initialRow_bounds (h : Processed settings state descriptor context) {r : Int}
    (hr : (context.initialRow selection).value = .ok (some r)) :
    0 ≤ r ∧ r < context.shownCount := by
  rcases h.default_cases with hidle | ⟨hcount, hlarge⟩ | ⟨i, entry, hcount, hdefault, hentry⟩
  · rw [h.initialRow_of_idle hidle] at hr
    cases hr
  · rw [h.initialRow_of_large hcount hlarge, Attempt.value_noteOf_bind_pure] at hr
    split at hr <;> cases hr
  · cases hhidden : entry.hidden with
    | true =>
      rw [h.initialRow_of_hidden hcount hdefault hentry hhidden] at hr
      exact replacementRow_bounds (h.rank_le i) hcount (Except.ok.inj hr)
    | false =>
      rw [h.initialRow_of_shown hdefault hentry hhidden] at hr
      obtain rfl : (context.rank i : Int) = r := Option.some.inj (Except.ok.inj hr)
      have hlt := h.lt_shownCount (h.row_eq_rank hentry hhidden).2
      omega

/-- The search only fails on a default behind the last choice that is too long to be reported. -/
theorem initialRow_fails_iff (h : Processed settings state descriptor context)
    (fault : Text.Oversized) :
    (context.initialRow selection).value = .error fault ↔
      (context.shownCount ≠ 0 ∧ (descriptor.choices.length : Int) ≤ descriptor.defaultIndex ∧
        Text.isUnwritable descriptor.defaultIndex = true) ∧ fault = .integer := by
  -- of the three ways only the second one has anything to report
  rcases h.default_cases with hidle | ⟨hcount, hlarge⟩ | ⟨i, entry, hcount, hdefault, hentry⟩
  · rw [h.initialRow_of_idle hidle]
    constructor
    · intro hvalue
      cases hvalue
    · omega
  · rw [h.initialRow_of_large hcount hlarge, Attempt.value_noteOf_bind_pure]
    constructor
    · intro hvalue
      split at hvalue
      · next hlong => exact ⟨⟨hcount, hlarge, hlong⟩, (Except.error.inj hvalue).symm⟩
      · cases hvalue
    · rintro ⟨⟨-, -, hlong⟩, rfl⟩
      rw [if_pos hlong]
  · have hlt : i < context.entries.length := (List.getElem?_eq_some_iff.1 hentry).1
    have hlength : context.entries.length = descriptor.choices.length := h.records.length_eq
    rw [h.initialRow_of_getElem? hcount hdefault hentry]
    constructor
    · intro hvalue
      cases hvalue
    · omega

/-- A default behind the last choice is reported, unless there is no menu or it is too long. -/
theorem notices_initialRow (h : Processed settings state descriptor context) :
    (context.initialRow selection).notices =
      if context.shownCount ≠ 0 ∧ (descriptor.choices.length : Int) ≤ descriptor.defaultIndex ∧
          Text.isUnwritable descriptor.defaultIndex = false then
        [.defaultNotFound descriptor.defaultIndex]
      else [] := by
  rcases h.default_cases with hidle | ⟨hcount, hlarge⟩ | ⟨i, entry, hcount, hdefault, hentry⟩
  · rw [h.initialRow_of_idle hidle, if_neg (by omega)]
    rfl
  · rw [h.initialRow_of_large hcount hlarge, Attempt.notices_noteOf_bind_pure]
    cases hlong : Text.isUnwritable descriptor.defaultIndex with
    | true => rw [if_pos rfl, if_neg (by simp)]
    | false => rw [if_neg (by simp), if_pos ⟨hcount, hlarge, rfl⟩]
  · have hlt : i < context.entries.length := (List.getElem?_eq_some_iff.1 hentry).1
    have hlength : context.entries.length = descriptor.choices.length := h.records.length_eq
    have hposition : ¬(descriptor.choices.length : Int) ≤ descriptor.defaultIndex := by omega
    rw [h.initialRow_of_getElem? hcount hdefault hentry, Attempt.notices_pure,
      if_neg fun hmissing => hposition hmissing.2.1]

end Processed

/-! ## All that is promised -/

/-- **The row to highlight.** It is found by arithmetic on ranks, and the choice on it is the one
that the policy asks for; a default that is not there is reported, or ends the search. -/
theorem highlights_of_process {settings selection : Settings} {state : Game.State}
    {descriptor : Descriptor} {context : Context}
    (h : (process settings state descriptor).value = .ok (some context)) :
    Highlights selection descriptor context := by
  have hp : Processed settings state descriptor context := processed_of_process h
  refine ⟨?_, hp.initialRow_fails_iff, ?_, ?_, ?_, fun r => hp.initialRow_bounds,
    hp.notices_initialRow, ?_⟩
  · intro hnothing
    by_cases hidle : descriptor.defaultIndex < 0 ∨ context.shownCount = 0
    · rw [hp.initialRow_of_idle hidle]
      rfl
    · obtain ⟨hlarge, hshort⟩ := (or_assoc.2 hnothing).resolve_left hidle
      rw [hp.initialRow_of_large (by omega) hlarge, Attempt.value_noteOf_bind_pure,
        if_neg (by simp [hshort])]
  · intro i entry hdefault hentry hshown
    have hvisible := (hp.row_eq_rank hentry hshown).2
    rw [hp.initialRow_of_shown hdefault hentry hshown, ← hp.index_eq hentry]
    refine ⟨rfl, ?_⟩
    rw [← hp.index_eq hentry] at hvisible
    exact Context.getElem?_backMapping hvisible
  · intro i entry hdefault hentry hhidden hcount
    rw [hp.initialRow_of_hidden hcount hdefault hentry hhidden]
    rfl
  · intro i entry side hdefault hentry hhidden hcount hside
    obtain ⟨chosen, hpreferred, hrow⟩ :=
      hp.exists_replacement hcount hdefault hentry hhidden hside
    obtain ⟨hmem, hvisible⟩ := List.mem_filter.1 hpreferred.mem
    obtain ⟨r, hr⟩ := Option.isSome_iff_exists.1 hvisible
    refine ⟨r, chosen, ?_, hp.entryOnRow?_of_row hmem hr, hpreferred⟩
    rw [hrow, hr]
    rfl
  · intro notice hnotice
    rw [hp.notices_initialRow] at hnotice
    split at hnotice
    · obtain rfl := List.mem_singleton.1 hnotice
      rfl
    · cases hnotice

/-- The default is hidden, stands behind one choice and before two, and the policy looks behind it
or before it. -/
theorem highlights_hidden_default :
    let settings : Settings := {}
    let state : Game.State := { gold := 5 }
    let descriptor : Descriptor := ⟨["Talk", "(([g>3]))Steal", "<<[g>3]>>Buy", "Leave"], 1, -1⟩
    let context : Context := ⟨descriptor,
      [⟨0, "Talk", "Talk", false, false, some 0⟩,
        ⟨1, "(([g>3]))Steal", "Steal", true, false, none⟩,
        ⟨2, "<<[g>3]>>Buy", "\\C[7]Buy", false, true, some 1⟩,
        ⟨3, "Leave", "Leave", false, false, some 2⟩]⟩
    (process settings state descriptor).value = .ok (some context) ∧
      Highlights { hiddenDefault := .next } descriptor context ∧
      (context.initialRow { hiddenDefault := .next }).value = .ok (some 1) ∧
      Highlights { hiddenDefault := .previous } descriptor context ∧
      (context.initialRow { hiddenDefault := .previous }).value = .ok (some 0) := by
  intro settings state descriptor context
  have hprocess : (process settings state descriptor).value = .ok (some context) := by
    decide +kernel
  exact ⟨hprocess, highlights_of_process hprocess, by decide +kernel,
    highlights_of_process hprocess, by decide +kernel⟩

/-- **A missing default may end the search.** The default is behind the only choice, and its number
is too long to be reported. -/
theorem unreported_default :
    ¬∀ (settings selection : Settings) (state : Game.State) (descriptor : Descriptor)
        (context : Context),
      (process settings state descriptor).value = .ok (some context) →
      descriptor.defaultIndex < 0 ∨ context.shownCount = 0 ∨
        (descriptor.choices.length : Int) ≤ descriptor.defaultIndex →
      (context.initialRow selection).value = .ok none := by
  intro h
  have hnone := h {} {} {} ⟨["Buy"], Text.leastUnwritable, -1⟩
    ⟨⟨["Buy"], Text.leastUnwritable, -1⟩, [⟨0, "Buy", "Buy", false, false, some 0⟩]⟩
    (by decide +kernel) (by decide +kernel)
  have hfails : (Context.initialRow {}
      ⟨⟨["Buy"], Text.leastUnwritable, -1⟩, [⟨0, "Buy", "Buy", false, false, some 0⟩]⟩).value =
      .error .integer := by
    decide +kernel
  rw [hfails] at hnone
  cases hnone

end GatedPrompt.Prompt
