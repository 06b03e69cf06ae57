import GatedPrompt.Proofs.Prompt.Rows

/-!
# Ranks

The rank of an index is the number of choices in the menu that stand before it. As the rows are
numbered without gaps, ranks tell on which row a choice stands, and where the choices behind and
before an index are to be found.

* `Context.rank` — the rank of an index, of a choice or not;
* `Processed.lt_rank_iff` — in a processed prompt the choices below a bound are those on the rows
  below the rank of the bound, and `Processed.row_eq_rank`, a choice in the menu stands on the row
  of its rank;
* `Side`, `Context.NearestOn`, `Context.PreferredOn` — the choice in the menu that is nearest to an
  index on one of its sides, or on the other side if there is none on this one;
* `Context.rowOn?_cases` — what the search on a side finds;
* `replacementRow` — the row for a hidden choice by its rank, and `Processed.row_of_preferredOn`,
  that it is the row of the preferred choice.
-/

namespace GatedPrompt.Prompt

/-! ## Ranks -/

/-- The number of choices in the menu that stand before an index. -/
def Context.rank (context : Context) (index : Int) : Nat :=
  context.visible.countP fun entry => decide (entry.index < index)

/-- In an ascending list, the entries below a bound come first. -/
theorem lt_countP_index_iff {entries : List Entry}
    (hascending : entries.Pairwise fun a b => a.index < b.index) {bound : Int} {r : Nat}
    {entry : Entry} (hentry : entries[r]? = some entry) :
    r < entries.countP (fun other => decide (other.index < bound)) ↔ entry.index < bound := by
  induction entries generalizing r with
  | nil => simp at hentry
  | cons first entries ih =>
    obtain ⟨hfirst, hascending⟩ := List.pairwise_cons.1 hascending
    cases r with
    | zero =>
      obtain rfl : first = entry := by simpa using hentry
      constructor
      · -- one of the entries is below the bound, and the first one is the least
        intro hpos
        obtain ⟨other, hmem, hother⟩ := List.countP_pos_iff.1 hpos
        have hlt : other.index < bound := of_decide_eq_true hother
        rcases List.mem_cons.1 hmem with rfl | hmem
        · exact hlt
        · have hle := hfirst other hmem
          omega
      · intro hlt
        rw [List.countP_cons_of_pos (by simpa using hlt)]
        omega
    | succ r =>
      have hentry : entries[r]? = some entry := by simpa using hentry
      have hle : first.index < entry.index := hfirst entry (List.mem_of_getElem? hentry)
      by_cases hlt : first.index < bound
      · rw [List.countP_cons_of_pos (by simpa using hlt), ← ih hascending hentry]
        omega
      · -- then no entry at all is below the bound
        have hnone : ¬r < entries.countP fun other => decide (other.index < bound) := by
          rw [ih hascending hentry]
          omega
        rw [List.countP_cons_of_neg (by simpa using hlt)]
        omega

/-! ## The nearest choice on a side -/

/-- The two sides of a choice. -/
inductive Side where
  | behind
  | before
  deriving DecidableEq, Repr, Inhabited

namespace Side

def other : Side → Side
  | behind => before
  | before => behind

/-- How far behind or before an index another one lies; below zero if it lies on the other side. -/
def distance : Side → Int → Int → Int
  | behind, index, i => i - index
  | before, index, i => index - i

end Side

/-- The side on which a policy looks first for a choice in place of a hidden default. -/
def HiddenDefault.side? : HiddenDefault → Option Side
  | .nothing => none
  | .first => none
  | .next => some .behind
  | .previous => some .before

namespace Context

/-- A side of an index on which no choice in the menu stands. -/
def Vacant (context : Context) (side : Side) (index : Int) : Prop :=
  ∀ other ∈ context.visible, side.distance index other.index ≤ 0

/-- The choice in the menu that is nearest to an index on a side of it. -/
structure NearestOn (context : Context) (side : Side) (index : Int) (entry : Entry) : Prop where
  mem : entry ∈ context.visible
  on_side : 0 < side.distance index entry.index
  nearest : ∀ other ∈ context.visible, 0 < side.distance index other.index →
    side.distance index entry.index ≤ side.distance index other.index

/-- The nearest choice on the preferred side, or else on the other one. -/
def PreferredOn (context : Context) (side : Side) (index : Int) (entry : Entry) : Prop :=
  context.NearestOn side index entry ∨
    context.Vacant side index ∧ context.NearestOn side.other index entry

theorem PreferredOn.mem {context : Context} {side : Side} {index : Int} {entry : Entry}
    (h : context.PreferredOn side index entry) : entry ∈ context.visible := by
  rcases h with hnearest | ⟨-, hnearest⟩
  · exact hnearest.mem
  · exact hnearest.mem

/-- The row of the nearest choice on a side. -/
def rowOn? (context : Context) : Side → Int → Option Int
  | .behind, index => context.rowAfter? index
  | .before, index => context.rowBefore? index

end Context

theorem leastBy_eq_none {key : Entry → Int} {entries : List Entry}
    (h : leastBy key entries = none) : entries = [] := by
  cases entries with
  | nil => rfl
  | cons entry entries =>
    rw [leastBy] at h
    split at h
    · cases h
    · split at h <;> cases h

theorem leastBy_spec {key : Entry → Int} {entries : List Entry} {best : Entry}
    (h : leastBy key entries = some best) :
    best ∈ entries ∧ ∀ entry ∈ entries, key best ≤ key entry := by
  induction entries generalizing best with
  | nil => cases h
  | cons entry entries ih =>
    rw [leastBy] at h
    split at h
    · next hnone =>
      obtain rfl := Option.some.inj h
      obtain rfl := leastBy_eq_none hnone
      simp
    · next least hleast =>
      obtain ⟨hmem, hle⟩ := ih hleast
      split at h
      · next hfirst =>
        obtain rfl := Option.some.inj h
        refine ⟨List.mem_cons_self, List.forall_mem_cons.2 ⟨Int.le_refl _, ?_⟩⟩
        intro other hother
        exact Int.le_trans hfirst (hle other hother)
      · next hfirst =>
        obtain rfl := Option.some.inj h
        exact ⟨List.mem_cons_of_mem _ hmem, List.forall_mem_cons.2 ⟨by omega, hle⟩⟩

/-- A key that is moved by the same distance everywhere is least at the same place. -/
theorem leastBy_add {key : Entry → Int} {shift : Int} {entries : List Entry} :
    leastBy (fun entry => key entry + shift) entries = leastBy key entries := by
  induction entries with
  | nil => rfl
  | cons entry entries ih =>
    simp only [leastBy, ih, Int.add_le_add_iff_right]

/-- On either side, the distance decides which choice is found. -/
theorem Context.rowOn?_eq (context : Context) (side : Side) (index : Int) :
    context.rowOn? side index =
      (leastBy (fun entry => side.distance index entry.index) (context.visible.filter fun entry =>
        decide (0 < side.distance index entry.index))).bind (·.row) := by
  cases side with
  | behind =>
    have hkey : (fun entry : Entry => Side.behind.distance index entry.index) =
        fun entry => entry.index + -index := rfl
    have hside : (fun entry : Entry => decide (0 < Side.behind.distance index entry.index)) =
        fun entry => decide (index < entry.index) := by
      funext entry
      simp only [Side.distance, Int.sub_pos]
    rw [hkey, hside, leastBy_add]
    rfl
  | before =>
    have hkey : (fun entry : Entry => Side.before.distance index entry.index) =
        fun entry => -entry.index + index := by
      funext entry
      show index - entry.index = -entry.index + index
      omega
    have hside : (fun entry : Entry => decide (0 < Side.before.distance index entry.index)) =
        fun entry => decide (entry.index < index) := by
      funext entry
      simp only [Side.distance, Int.sub_pos]
    rw [hkey, hside, leastBy_add]
    rfl

/-- **What the search on a side finds**: the nearest choice there, if there is one. -/
theorem Context.rowOn?_cases (context : Context) (side : Side) (index : Int) :
    (∃ entry, context.NearestOn side index entry ∧ context.rowOn? side index = entry.row) ∨
      context.Vacant side index ∧ context.rowOn? side index = none := by
  rw [context.rowOn?_eq]
  cases hleast : leastBy (fun entry => side.distance index entry.index)
      (context.visible.filter fun entry => decide (0 < side.distance index entry.index)) with
  | some entry =>
    obtain ⟨hmem, hle⟩ := leastBy_spec hleast
    simp only [List.mem_filter, decide_eq_true_eq] at hmem hle
    exact .inl ⟨entry, ⟨hmem.1, hmem.2, fun other hother hside => hle other ⟨hother, hside⟩⟩, rfl⟩
  | none =>
    have hnil := leastBy_eq_none hleast
    simp only [List.filter_eq_nil_iff, decide_eq_true_eq] at hnil
    exact .inr ⟨fun other hother => Int.not_lt.1 (hnil other hother), rfl⟩

/-! ## Ranks and rows -/

namespace Processed

variable {settings : Settings} {state : Game.State} {descriptor : Descriptor} {context : Context}

theorem visible_ascending (h : Processed settings state descriptor context) :
    context.visible.Pairwise fun a b => a.index < b.index :=
  List.pairwise_map.1 h.backMapping_ascending

/-- The choices below a bound are those on the rows below its rank. -/
theorem lt_rank_iff (h : Processed settings state descriptor context) {bound : Int} {r : Nat}
    {entry : Entry} (hentry : context.visible[r]? = some entry) :
    r < context.rank bound ↔ entry.index < bound :=
  lt_countP_index_iff h.visible_ascending hentry

theorem rank_le (h : Processed settings state descriptor context) (index : Int) :
    context.rank index ≤ context.shownCount := by
  have hle : context.rank index ≤ context.visible.length := List.countP_le_length
  rwa [h.length_visible] at hle

/-- Every row of the menu has a choice. -/
theorem exists_visible (h : Processed settings state descriptor context) {r : Nat}
    (hr : r < context.shownCount) : ∃ entry, context.visible[r]? = some entry := by
  have hlt : r < context.visible.length := by
    rw [h.length_visible]
    exact hr
  exact ⟨_, List.getElem?_eq_getElem hlt⟩

/-- Of two rows the upper one has the choice that stands first. -/
theorem index_lt_of_lt (h : Processed settings state descriptor context) {r r' : Nat}
    {entry entry' : Entry} (hentry : context.visible[r]? = some entry)
    (hentry' : context.visible[r']? = some entry') (hlt : r < r') : entry.index < entry'.index := by
  obtain ⟨hr, rfl⟩ := List.getElem?_eq_some_iff.1 hentry
  obtain ⟨hr', rfl⟩ := List.getElem?_eq_some_iff.1 hentry'
  exact List.pairwise_iff_getElem.1 h.visible_ascending r r' hr hr' hlt

/-- A rank is the row up to which all choices are before the index, and none behind. -/
theorem rank_eq (h : Processed settings state descriptor context) {index : Int} {r : Nat}
    (hr : r ≤ context.shownCount)
    (habove : ∀ (k : Nat) (entry : Entry), k < r → context.visible[k]? = some entry →
      entry.index < index)
    (hat : ∀ entry, context.visible[r]? = some entry → ¬entry.index < index) :
    context.rank index = r := by
  have hcount := h.rank_le index
  have hle : ¬context.rank index < r := by
    intro hlt
    obtain ⟨entry, hentry⟩ := h.exists_visible (r := context.rank index) (by omega)
    have hself := (h.lt_rank_iff hentry).2 (habove _ entry hlt hentry)
    omega
  have hge : ¬r < context.rank index := by
    intro hlt
    obtain ⟨entry, hentry⟩ := h.exists_visible (r := r) (by omega)
    exact hat entry hentry ((h.lt_rank_iff hentry).1 hlt)
  omega

variable {index : Int} {i r : Nat} {entry : Entry}

theorem lt_shownCount (h : Processed settings state descriptor context)
    (hentry : context.visible[r]? = some entry) : r < context.shownCount := by
  rw [← h.length_visible]
  exact (List.getElem?_eq_some_iff.1 hentry).1

/-- A choice in the menu stands on the row of its rank. -/
theorem rank_of_getElem?_visible (h : Processed settings state descriptor context)
    (hentry : context.visible[r]? = some entry) : context.rank entry.index = r := by
  refine h.rank_eq (Nat.le_of_lt (h.lt_shownCount hentry)) ?_ ?_
  · intro k upper hlt hupper
    exact h.index_lt_of_lt hupper hentry hlt
  · intro same hsame
    obtain rfl : entry = same := Option.some.inj (hentry.symm.trans hsame)
    omega

theorem index_eq (h : Processed settings state descriptor context)
    (hentry : context.entries[i]? = some entry) : entry.index = i := by
  have hindex : entry.index = ((0 + i : Nat) : Int) := (h.records.of_getElem? hentry).1
  rwa [Nat.zero_add] at hindex

/-- A choice that is not hidden is in the menu, on the row of its rank. -/
theorem row_eq_rank (h : Processed settings state descriptor context)
    (hentry : context.entries[i]? = some entry) (hshown : entry.hidden = false) :
    entry.row = some (context.rank i : Int) ∧ context.visible[context.rank i]? = some entry := by
  have hmem : entry ∈ context.entries := List.mem_of_getElem? hentry
  have hvisible : entry ∈ context.visible := by
    refine List.mem_filter.2 ⟨hmem, ?_⟩
    rw [h.isVisible_eq hmem, hshown]
    rfl
  obtain ⟨r, hr⟩ := List.mem_iff_getElem?.1 hvisible
  have hrank : context.rank i = r := by
    rw [← h.index_eq hentry]
    exact h.rank_of_getElem?_visible hr
  rw [hrank]
  exact ⟨h.row_of_getElem?_visible hr, hr⟩

/-- No choice in the menu has the index of a hidden one. -/
theorem index_ne_of_hidden (h : Processed settings state descriptor context)
    (hentry : context.entries[i]? = some entry) (hhidden : entry.hidden = true) :
    ∀ other ∈ context.visible, other.index ≠ i := by
  intro other hother heq
  obtain ⟨hmem, hvisible⟩ := List.mem_filter.1 hother
  -- the two would be found by the same index
  have hsame : some other = some entry := by
    rw [← h.entryAt?_of_mem hmem, ← h.entryAt?_of_mem (List.mem_of_getElem? hentry), heq,
      h.index_eq hentry]
  obtain rfl := Option.some.inj hsame
  rw [h.isVisible_eq hmem, hhidden] at hvisible
  cases hvisible

/-! ## Ranks and the nearest choice -/

/-- Behind an index that is not in the menu, the nearest choice is on the row of its rank. -/
theorem rank_of_nearest_behind (h : Processed settings state descriptor context)
    (hindex : ∀ other ∈ context.visible, other.index ≠ index)
    (hentry : context.visible[r]? = some entry)
    (hnearest : context.NearestOn .behind index entry) : context.rank index = r := by
  have hbehind : 0 < entry.index - index := hnearest.on_side
  refine h.rank_eq (Nat.le_of_lt (h.lt_shownCount hentry)) ?_ ?_
  · intro k upper hlt hupper
    have hmem : upper ∈ context.visible := List.mem_of_getElem? hupper
    have hnearer : upper.index < entry.index := h.index_lt_of_lt hupper hentry hlt
    have hne := hindex upper hmem
    -- an upper choice behind the index would be nearer
    have hfar : ¬0 < upper.index - index := fun hside => by
      have hle : entry.index - index ≤ upper.index - index := hnearest.nearest upper hmem hside
      omega
    omega
  · intro same hsame
    obtain rfl : entry = same := Option.some.inj (hentry.symm.trans hsame)
    omega

/-- Before an index, the nearest choice is on the row above the one of its rank. -/
theorem rank_of_nearest_before (h : Processed settings state descriptor context)
    (hentry : context.visible[r]? = some entry)
    (hnearest : context.NearestOn .before index entry) : context.rank index = r + 1 := by
  have hbefore : 0 < index - entry.index := hnearest.on_side
  refine h.rank_eq (h.lt_shownCount hentry) ?_ ?_
  · intro k upper hlt hupper
    rcases Nat.lt_or_ge k r with hk | hk
    · have hupper : upper.index < entry.index := h.index_lt_of_lt hupper hentry hk
      omega
    · obtain rfl : k = r := by omega
      obtain rfl : entry = upper := Option.some.inj (hentry.symm.trans hupper)
      omega
  · intro lower hlower hlt
    have hnearer : entry.index < lower.index := h.index_lt_of_lt hentry hlower (by omega)
    have hside : 0 < index - lower.index := by omega
    have hle : index - entry.index ≤ index - lower.index :=
      hnearest.nearest lower (List.mem_of_getElem? hlower) hside
    omega

theorem rank_of_vacant_behind (h : Processed settings state descriptor context)
    (hindex : ∀ other ∈ context.visible, other.index ≠ index)
    (hvacant : context.Vacant .behind index) : context.rank index = context.shownCount := by
  refine h.rank_eq (Nat.le_refl _) ?_ ?_
  · intro k upper _ hupper
    have hmem : upper ∈ context.visible := List.mem_of_getElem? hupper
    have hne := hindex upper hmem
    have hside : upper.index - index ≤ 0 := hvacant upper hmem
    omega
  · intro lower hlower
    exact absurd (h.lt_shownCount hlower) (Nat.lt_irrefl _)

theorem rank_of_vacant_before (h : Processed settings state descriptor context)
    (hvacant : context.Vacant .before index) : context.rank index = 0 := by
  refine h.rank_eq (Nat.zero_le _) ?_ ?_
  · intro k upper hlt
    omega
  · intro first hfirst
    have hside : index - first.index ≤ 0 := hvacant first (List.mem_of_getElem? hfirst)
    omega

/-- Both sides are not vacant at a time, if there is a menu at all. -/
theorem exists_preferredOn (h : Processed settings state descriptor context)
    (hcount : context.shownCount ≠ 0) (hindex : ∀ other ∈ context.visible, other.index ≠ index)
    (side : Side) :
    ∃ entry, context.PreferredOn side index entry ∧
      (context.rowOn? side index).or (context.rowOn? side.other index) = entry.row := by
  rcases context.rowOn?_cases side index with ⟨entry, hnearest, hrow⟩ | ⟨hvacant, hrow⟩
  · have hsome : entry.row.isSome = true := (List.mem_filter.1 hnearest.mem).2
    obtain ⟨r, hr⟩ := Option.isSome_iff_exists.1 hsome
    refine ⟨entry, .inl hnearest, ?_⟩
    rw [hrow, hr]
    rfl
  · rcases context.rowOn?_cases side.other index with ⟨entry, hnearest, hother⟩ | ⟨hvacant', -⟩
    · refine ⟨entry, .inr ⟨hvacant, hnearest⟩, ?_⟩
      rw [hrow, hother]
      rfl
    · -- the first choice of the menu stands on one of the sides
      obtain ⟨first, hfirst⟩ := h.exists_visible (Nat.pos_of_ne_zero hcount)
      have hmem : first ∈ context.visible := List.mem_of_getElem? hfirst
      have hne := hindex first hmem
      have hon := hvacant first hmem
      have hon' := hvacant' first hmem
      cases side <;> simp only [Side.other, Side.distance] at hon hon' <;> omega

end Processed

/-- The row for a hidden default with a rank, in a menu with a number of rows. -/
def replacementRow (policy : HiddenDefault) (rank count : Nat) : Option Int :=
  match policy with
  | .nothing => none
  | .first => some 0
  | .next => some (min (rank : Int) ((count : Int) - 1))
  | .previous => some (max ((rank : Int) - 1) 0)

namespace Processed

variable {settings : Settings} {state : Game.State} {descriptor : Descriptor} {context : Context}
  {index : Int}

/-- The preferred choice is on the row that the rank tells. -/
theorem row_of_preferredOn (h : Processed settings state descriptor context)
    (hindex : ∀ other ∈ context.visible, other.index ≠ index) {policy : HiddenDefault} {side : Side}
    (hside : policy.side? = some side) {entry : Entry}
    (hentry : context.PreferredOn side index entry) :
    entry.row = replacementRow policy (context.rank index) context.shownCount := by
  obtain ⟨r, hr⟩ := List.mem_iff_getElem?.1 hentry.mem
  have hcount : r < context.shownCount := h.lt_shownCount hr
  rw [h.row_of_getElem?_visible hr]
  cases policy with
  | nothing => cases hside
  | first => cases hside
  | next =>
    obtain rfl : Side.behind = side := Option.some.inj hside
    unfold replacementRow
    congr 1
    rcases hentry with hnearest | ⟨hvacant, hnearest⟩
    · have hrank := h.rank_of_nearest_behind hindex hr hnearest
      omega
    · have hrank := h.rank_of_nearest_before hr hnearest
      have hall := h.rank_of_vacant_behind hindex hvacant
      omega
  | previous =>
    obtain rfl : Side.before = side := Option.some.inj hside
    unfold replacementRow
    congr 1
    rcases hentry with hnearest | ⟨hvacant, hnearest⟩
    · have hrank := h.rank_of_nearest_before hr hnearest
      omega
    · have hrank := h.rank_of_nearest_behind hindex hr hnearest
      have hzero := h.rank_of_vacant_before hvacant
      omega

end Processed

/-- A replacement is in the menu, if there is a menu. -/
theorem replacementRow_bounds {policy : HiddenDefault} {rank count : Nat} (hrank : rank ≤ count)
    (hcount : count ≠ 0) {r : Int} (h : replacementRow policy rank count = some r) :
    0 ≤ r ∧ r < count := by
  unfold replacementRow at h
  split at h
  · cases h
  all_goals
    obtain rfl := Option.some.inj h
    omega

end GatedPrompt.Prompt
