import Mathlib.Data.List.Nodup
import Mathlib.Data.List.Pairwise
import GatedPrompt.Proofs.Prompt.Highlight

/-!
# Records in another order

Whatever is selected in a menu is found by going through the list of its records: the first one with
an index, the first one on a row, the nearest one behind or before an index. A host may build such a
list by itself, in any order. As long as no two records have the same index or the same row, the
order of the list does not show.

* `Context.IsKeyed` — no two records of a context have the same index or the same row. All else is
  left open: there may be gaps, and a hidden choice may have a row. What the engine builds is keyed
  (`Processed.isKeyed`);
* `Context.Reorders` — the same prompt with its records in another order;
* `find?_eq_of_perm`, `Context.NearestOn.unique` — a search for what only one element can be finds
  the same in every order, and on each side of an index only one choice is the nearest;
* `selectsAlike_of_reorders` — highlighting, confirming and cancelling have the same outcome and
  give the same notices in every order.
-/

namespace GatedPrompt.Prompt

/-- No two records of a context have the same index, and no two of those with a row have the same
row. -/
structure Context.IsKeyed (context : Context) : Prop where
  nodup_indices : (context.entries.map Entry.index).Nodup
  nodup_rows : (context.entries.filterMap Entry.row).Nodup

/-- The same prompt with its records in another order. -/
structure Context.Reorders (context context' : Context) : Prop where
  descriptor_eq : context'.descriptor = context.descriptor
  perm : context'.entries.Perm context.entries

/-- Two contexts from which the same is selected under all settings, with the same notices. -/
structure Context.SelectsAlike (context context' : Context) : Prop where
  initialRow : ∀ settings, context'.initialRow settings = context.initialRow settings
  confirm : ∀ settings row, context'.confirm settings row = context.confirm settings row
  cancel : ∀ settings, context'.cancel settings = context.cancel settings

/-! ## Searching lists -/

/-- A search for what only one element of a list can be finds the same in every order. -/
theorem find?_eq_of_perm {α : Type} {p : α → Bool} {xs ys : List α} (hperm : ys.Perm xs)
    (hunique : ∀ a ∈ xs, ∀ b ∈ xs, p a = true → p b = true → a = b) :
    ys.find? p = xs.find? p := by
  cases hfound : xs.find? p with
  | none =>
    rw [List.find?_eq_none] at hfound ⊢
    intro y hy
    exact hfound y (hperm.mem_iff.1 hy)
  | some x =>
    have hx : x ∈ xs := List.mem_of_find?_eq_some hfound
    have hpx : p x = true := List.find?_some hfound
    cases hfound' : ys.find? p with
    | none =>
      -- then `x` itself would have been passed over
      rw [List.find?_eq_none] at hfound'
      exact absurd hpx (hfound' x (hperm.mem_iff.2 hx))
    | some y =>
      have hy : y ∈ xs := hperm.mem_iff.1 (List.mem_of_find?_eq_some hfound')
      have hsame : y = x := hunique y hy x hx (List.find?_some hfound') hpx
      rw [hsame]

namespace Context

/-! ## Keys -/

namespace IsKeyed

variable {context : Context} {entry other : Entry}

theorem eq_of_index_eq (h : context.IsKeyed) (hentry : entry ∈ context.entries)
    (hother : other ∈ context.entries) (heq : entry.index = other.index) : entry = other :=
  List.inj_on_of_nodup_map h.nodup_indices hentry hother heq

theorem eq_of_row_eq (h : context.IsKeyed) (hentry : entry ∈ context.entries)
    (hother : other ∈ context.entries) {row : Int} (hrow : entry.row = some row)
    (hrow' : other.row = some row) : entry = other := by
  have hpairs : context.entries.Pairwise fun a b =>
      ∀ r, a.row = some r → ∀ r', b.row = some r' → r ≠ r' :=
    List.pairwise_filterMap.1 h.nodup_rows
  -- what the first of two records may not share with the second, neither may the second with it
  have hsymm : Std.Symm fun a b : Entry =>
      ∀ r, a.row = some r → ∀ r', b.row = some r' → r ≠ r' :=
    ⟨fun a b hab r hr r' hr' => (hab r' hr' r hr).symm⟩
  by_contra hne
  exact hpairs.forall hentry hother hne row hrow row hrow' rfl

end IsKeyed

/-! ## The two look-ups and the search on a side -/

section

variable {context context' : Context} {side : Side} {index : Int} {entry entry' : Entry}

/-- On a side of an index, only one choice is the nearest. -/
theorem NearestOn.unique (hkeyed : context.IsKeyed) (h : context.NearestOn side index entry)
    (h' : context.NearestOn side index entry') : entry = entry' := by
  have hle : side.distance index entry.index ≤ side.distance index entry'.index :=
    h.nearest entry' h'.mem h'.on_side
  have hge : side.distance index entry'.index ≤ side.distance index entry.index :=
    h'.nearest entry h.mem h.on_side
  have hindex : entry.index = entry'.index := by
    cases side with
    | behind =>
      simp only [Side.distance] at hle hge
      omega
    | before =>
      simp only [Side.distance] at hle hge
      omega
  exact hkeyed.eq_of_index_eq (List.mem_filter.1 h.mem).1 (List.mem_filter.1 h'.mem).1 hindex

/-- Where a choice is the nearest there is no vacancy. -/
theorem NearestOn.not_vacant (h : context.NearestOn side index entry) :
    ¬context.Vacant side index := by
  intro hvacant
  have hle := hvacant entry h.mem
  have hpos := h.on_side
  omega

namespace Reorders

theorem visible_perm (h : context.Reorders context') : context'.visible.Perm context.visible :=
  h.perm.filter _

theorem visible_eq_nil_iff (h : context.Reorders context') :
    context'.visible = [] ↔ context.visible = [] := by
  rw [← List.length_eq_zero_iff, ← List.length_eq_zero_iff, h.visible_perm.length_eq]

theorem entryAt?_eq (h : context.Reorders context') (hkeyed : context.IsKeyed) (index : Int) :
    context'.entryAt? index = context.entryAt? index := by
  refine find?_eq_of_perm h.perm ?_
  intro a ha b hb hindex hindex'
  have heq : a.index = b.index := (beq_iff_eq.1 hindex).trans (beq_iff_eq.1 hindex').symm
  exact hkeyed.eq_of_index_eq ha hb heq

theorem entryOnRow?_eq (h : context.Reorders context') (hkeyed : context.IsKeyed) (row : Int) :
    context'.entryOnRow? row = context.entryOnRow? row := by
  refine find?_eq_of_perm h.perm ?_
  intro a ha b hb hrow hrow'
  exact hkeyed.eq_of_row_eq ha hb (beq_iff_eq.1 hrow) (beq_iff_eq.1 hrow')

/-- What is nearest is told by the records in the menu, not by their places in the list. -/
theorem nearestOn (h : context.Reorders context') (hnearest : context'.NearestOn side index entry) :
    context.NearestOn side index entry := by
  refine ⟨h.visible_perm.mem_iff.1 hnearest.mem, hnearest.on_side, ?_⟩
  intro other hother hside
  exact hnearest.nearest other (h.visible_perm.mem_iff.2 hother) hside

theorem vacant (h : context.Reorders context') (hvacant : context'.Vacant side index) :
    context.Vacant side index := by
  intro other hother
  exact hvacant other (h.visible_perm.mem_iff.2 hother)

theorem rowOn?_eq (h : context.Reorders context') (hkeyed : context.IsKeyed) (side : Side)
    (index : Int) : context'.rowOn? side index = context.rowOn? side index := by
  rcases context.rowOn?_cases side index with ⟨entry, hnearest, hrow⟩ | ⟨hvacant, hrow⟩ <;>
    rcases context'.rowOn?_cases side index with ⟨entry', hnearest', hrow'⟩ | ⟨hvacant', hrow'⟩
  · -- both searches find a nearest choice, and there is only one
    obtain rfl : entry' = entry := NearestOn.unique hkeyed (h.nearestOn hnearest') hnearest
    rw [hrow', hrow]
  · exact absurd (h.vacant hvacant') hnearest.not_vacant
  · exact absurd hvacant (h.nearestOn hnearest').not_vacant
  · rw [hrow', hrow]

theorem fallbackRow_eq (h : context.Reorders context') (hkeyed : context.IsKeyed)
    (policy : HiddenDefault) (index : Int) :
    context'.fallbackRow policy index = context.fallbackRow policy index := by
  cases hside : policy.side? with
  | some side =>
    rw [fallbackRow_of_side hside, fallbackRow_of_side hside, h.rowOn?_eq hkeyed,
      h.rowOn?_eq hkeyed]
  | none =>
    -- the other two policies do not look at the records at all
    cases policy with
    | nothing => rfl
    | first => rfl
    | next => cases hside
    | previous => cases hside

/-! ## What is selected -/

theorem initialRow_eq (h : context.Reorders context') (hkeyed : context.IsKeyed)
    (settings : Settings) : context'.initialRow settings = context.initialRow settings := by
  by_cases hidle : context.descriptor.defaultIndex < 0 ∨ context.visible = []
  · have hidle' : context'.descriptor.defaultIndex < 0 ∨ context'.visible = [] := by
      rwa [h.descriptor_eq, h.visible_eq_nil_iff]
    rw [initialRow_of_idle hidle, initialRow_of_idle hidle']
  · have hidle' : ¬(context'.descriptor.defaultIndex < 0 ∨ context'.visible = []) := by
      rwa [h.descriptor_eq, h.visible_eq_nil_iff]
    have hlookup : context'.entryAt? context'.descriptor.defaultIndex =
        context.entryAt? context.descriptor.defaultIndex := by
      rw [h.descriptor_eq, h.entryAt?_eq hkeyed]
    cases hentry : context.entryAt? context.descriptor.defaultIndex with
    | none =>
      rw [initialRow_of_none hidle hentry, initialRow_of_none hidle' (hlookup.trans hentry),
        h.descriptor_eq]
    | some entry =>
      rw [initialRow_of_some hidle hentry, initialRow_of_some hidle' (hlookup.trans hentry),
        h.fallbackRow_eq hkeyed]

theorem confirm_eq (h : context.Reorders context') (hkeyed : context.IsKeyed)
    (settings : Settings) (row : Int) :
    context'.confirm settings row = context.confirm settings row := by
  unfold confirm
  rw [h.entryOnRow?_eq hkeyed]

theorem cancel_eq (h : context.Reorders context') (hkeyed : context.IsKeyed)
    (settings : Settings) : context'.cancel settings = context.cancel settings := by
  unfold cancel
  simp only [h.descriptor_eq, h.entryAt?_eq hkeyed]

end Reorders

end

end Context

/-- What the engine builds for a prompt is keyed, so that its records may be kept in any order. -/
theorem Processed.isKeyed {settings : Settings} {state : Game.State} {descriptor : Descriptor}
    {context : Context} (h : Processed settings state descriptor context) : context.IsKeyed := by
  constructor
  · rw [h.records.indices_eq]
    exact (pairwise_lt_range' 0 _).imp fun hlt => Int.ne_of_lt hlt
  · rw [h.records.rows_eq]
    exact (pairwise_lt_range' 0 _).imp fun hlt => Int.ne_of_lt hlt

/-! ## All that is promised -/

/-- **Selection does not depend on the order of the records**, if they are keyed. -/
theorem selectsAlike_of_reorders {context context' : Context} (hkeyed : context.IsKeyed)
    (h : context.Reorders context') : context.SelectsAlike context' :=
  ⟨h.initialRow_eq hkeyed, h.confirm_eq hkeyed, h.cancel_eq hkeyed⟩

/-- Records with gaps between their indices, of which one is hidden and yet on a row and another one
is neither: the default is hidden, and the nearest choice behind it is the last or the first in the
list. -/
theorem selectsAlike_scattered_records :
    let descriptor : Descriptor := ⟨[], 4, 9⟩
    let first : Entry := ⟨-3, "", "Talk", true, false, some 5⟩
    let second : Entry := ⟨4, "", "Steal", true, false, none⟩
    let third : Entry := ⟨6, "", "Wait", false, true, none⟩
    let last : Entry := ⟨9, "", "Leave", false, false, some 2⟩
    let context : Context := ⟨descriptor, [first, second, third, last]⟩
    let context' : Context := ⟨descriptor, [last, second, first, third]⟩
    context.IsKeyed ∧ context.Reorders context' ∧ context.SelectsAlike context' ∧
      context'.initialRow { hiddenDefault := .next } = pure (some 2) ∧
      context'.cancel {} = pure (.committed 9) := by
  intro descriptor first second third last context context'
  have hkeyed : context.IsKeyed := ⟨by decide, by decide⟩
  have hreorders : context.Reorders context' := ⟨rfl, by decide⟩
  have halike : context.SelectsAlike context' := selectsAlike_of_reorders hkeyed hreorders
  refine ⟨hkeyed, hreorders, halike, ?_, ?_⟩
  · rw [halike.initialRow]
    rfl
  · rw [halike.cancel]
    rfl

/-- Where two records have the same row, the order does show. -/
example :
    let first : Entry := ⟨0, "", "Talk", false, false, some 0⟩
    let second : Entry := ⟨1, "", "Leave", false, false, some 0⟩
    let descriptor : Descriptor := ⟨[], -1, -1⟩
    (Context.confirm {} ⟨descriptor, [first, second]⟩ 0).value = .ok (.committed 0) ∧
      (Context.confirm {} ⟨descriptor, [second, first]⟩ 0).value = .ok (.committed 1) := by
  decide

end GatedPrompt.Prompt
