/-!
# Tables

Finite maps from database ids to values, listed by ascending id.

* `Table` — the list of the entries, with the proof that the ids ascend;
* `Table.get?` — the value of an id;
* `Table.set` — the table in which an id has a new value; `get?_set` says what is found then;
* `Table.ofList` — the table of a list of entries, the last entry of an id counting
  (`get?_ofList`).
-/

namespace GatedPrompt.Game

/-- A finite map from ids to values. -/
structure Table (α : Type) where
  /-- The ids and their values. -/
  entries : List (Int × α)
  /-- No id is listed twice, and they are in their order. -/
  ascending : entries.Pairwise fun a b => a.1 < b.1
  deriving DecidableEq, Repr

namespace Table

variable {α : Type}

/-- The table without entries. -/
def empty : Table α := ⟨[], .nil⟩

instance : Inhabited (Table α) := ⟨empty⟩

/-- The entries with a new value for an id, in the place that the order gives it. -/
def setEntries (id : Int) (value : α) : List (Int × α) → List (Int × α)
  | [] => [(id, value)]
  | (k, v) :: rest =>
    if id < k then (id, value) :: (k, v) :: rest
    else if id = k then (id, value) :: rest
    else (k, v) :: setEntries id value rest

private theorem fst_mem_setEntries {id : Int} {value : α} {entries : List (Int × α)}
    {entry : Int × α} (h : entry ∈ setEntries id value entries) :
    entry.1 = id ∨ entry ∈ entries := by
  induction entries with
  | nil => simp [setEntries] at h; simp [h]
  | cons head rest ih =>
    obtain ⟨k, v⟩ := head
    simp only [setEntries] at h
    split at h
    · simp only [List.mem_cons] at h ⊢
      rcases h with rfl | h
      · simp
      · exact .inr h
    · split at h
      · simp only [List.mem_cons] at h ⊢
        rcases h with rfl | h
        · simp
        · exact .inr (.inr h)
      · simp only [List.mem_cons] at h ⊢
        rcases h with rfl | h
        · exact .inr (.inl rfl)
        · exact (ih h).imp_right .inr

/-- Setting a value keeps the ids ascending. -/
theorem pairwise_setEntries {entries : List (Int × α)}
    (h : entries.Pairwise fun a b => a.1 < b.1) (id : Int) (value : α) :
    (setEntries id value entries).Pairwise fun a b => a.1 < b.1 := by
  induction entries with
  | nil => exact List.pairwise_singleton _ _
  | cons head rest ih =>
    obtain ⟨k, v⟩ := head
    simp only [List.pairwise_cons] at h
    simp only [setEntries]
    split
    · next hlt =>
      simp only [List.pairwise_cons, List.mem_cons]
      refine ⟨?_, h⟩
      rintro entry (rfl | hmem)
      · exact hlt
      · exact Int.lt_trans hlt (h.1 entry hmem)
    · split
      · next heq =>
        subst heq
        exact List.pairwise_cons.2 h
      · next hlt hne =>
        refine List.pairwise_cons.2 ⟨?_, ih h.2⟩
        intro entry hmem
        -- Behind the head stands the new entry or an old one; the head is below both.
        rcases fst_mem_setEntries hmem with heq | hold
        · simp only [heq]; omega
        · exact h.1 entry hold

/-- The table in which an id has a new value. -/
def set (table : Table α) (id : Int) (value : α) : Table α :=
  ⟨setEntries id value table.entries, pairwise_setEntries table.ascending id value⟩

/-- The value of an id. -/
def get? (table : Table α) (id : Int) : Option α := table.entries.lookup id

/-- The table of a list of entries; of several entries of an id the last one counts. -/
def ofList (entries : List (Int × α)) : Table α :=
  entries.foldl (fun table (id, value) => table.set id value) empty

private theorem lookup_setEntries (id k : Int) (value : α) (entries : List (Int × α)) :
    (setEntries id value entries).lookup k = if k = id then some value else entries.lookup k := by
  induction entries with
  | nil =>
    by_cases h : k = id
    · simp [setEntries, h]
    · simp [setEntries, List.lookup_cons, h, beq_false_of_ne h]
  | cons entry rest ih =>
    obtain ⟨k', v⟩ := entry
    simp only [setEntries]
    split
    · by_cases h : k = id
      · simp [h]
      · simp [List.lookup_cons, h, beq_false_of_ne h]
    · split
      · next heq =>
        subst heq
        by_cases h : k = id
        · simp [h]
        · simp [List.lookup_cons, h, beq_false_of_ne h]
      · next hlt hne =>
        by_cases h : k = k'
        · subst h
          simp [Ne.symm hne]
        · simp [List.lookup_cons, beq_false_of_ne h, ih]

/-- An id that was set has the new value, and no other id is affected. -/
theorem get?_set (table : Table α) (id k : Int) (value : α) :
    (table.set id value).get? k = if k = id then some value else table.get? k :=
  lookup_setEntries id k value table.entries

/-- Nothing is found in the empty table. -/
@[simp] theorem get?_empty (k : Int) : (empty : Table α).get? k = none := rfl

/-- A table built from entries gives the value of the last entry of an id. -/
theorem get?_ofList (entries : List (Int × α)) (k : Int) :
    (ofList entries).get? k = (entries.reverse.find? fun entry => entry.1 == k).map (·.2) := by
  -- Generalised over the table that the entries are added to.
  have key : ∀ (es : List (Int × α)) (table : Table α),
      (es.foldl (fun table (id, value) => table.set id value) table).get? k =
        ((es.reverse.find? fun entry => entry.1 == k).map (·.2)).or (table.get? k) := by
    intro es
    induction es with
    | nil => intro table; simp
    | cons entry es ih =>
      intro table
      obtain ⟨id, value⟩ := entry
      simp only [List.foldl_cons, ih, get?_set, List.reverse_cons, List.find?_append]
      by_cases h : id = k
      · subst h
        cases List.find? (fun entry => entry.1 == id) es.reverse <;> simp
      · have hne : (id == k) = false := beq_false_of_ne h
        cases List.find? (fun entry => entry.1 == k) es.reverse <;>
          simp [hne, Ne.symm h]
  simpa [ofList] using key entries empty

end Table

end GatedPrompt.Game
