import Mathlib.Data.List.Nodup
import GatedPrompt.Json.Reader

/-!
# Keys of objects

A key that is repeated in a document has one member in the value: the values that are read from
documents have no object with a key twice, at whatever depth.

* `Value.Keyed` — no object in a value has a key twice;
* `nodup_mergeMembers` — merging leaves each key one member;
* `keyed_of_parse` — the values of documents are keyed.
-/

namespace GatedPrompt.Json

/-- No object in a value has a key twice. -/
inductive Value.Keyed : Value → Prop where
  | null : Keyed .null
  | bool (b : Bool) : Keyed (.bool b)
  | integer (n : Int) : Keyed (.integer n)
  | fraction (x : Decimal.Binary64) : Keyed (.fraction x)
  | string (text : Text) : Keyed (.string text)
  | array {vs : List Value} (elements : ∀ v ∈ vs, Keyed v) : Keyed (.array vs)
  | object {ms : List (Text × Value)} (nodup : (ms.map Prod.fst).Nodup)
      (members : ∀ member ∈ ms, Keyed member.2) : Keyed (.object ms)

/-- The value of a key in an object is keyed if the object is. -/
theorem Value.Keyed.member {members : List (Text × Value)} (h : (Value.object members).Keyed)
    {key : Text} {value : Value} (hvalue : member? key members = some value) : value.Keyed := by
  obtain ⟨before, after, rfl, -⟩ := List.lookup_eq_some_iff.1 hvalue
  cases h with
  | object _ hmembers => exact hmembers (key, value) (by simp)

/-! ## Merged members -/

section

variable {κ α : Type} [DecidableEq κ] {key : κ} {value : α} {members : List (κ × α)}

theorem map_fst_setMember :
    (setMember key value members).map Prod.fst =
      if key ∈ members.map Prod.fst then members.map Prod.fst
      else members.map Prod.fst ++ [key] := by
  induction members with
  | nil => simp [setMember]
  | cons member members ih =>
    obtain ⟨k, v⟩ := member
    by_cases hk : k = key
    · simp [setMember, hk]
    · have hne : key ≠ k := Ne.symm hk
      simp only [setMember, if_neg hk, List.map_cons, ih, List.mem_cons, hne, false_or]
      split <;> simp

theorem nodup_setMember (h : (members.map Prod.fst).Nodup) :
    ((setMember key value members).map Prod.fst).Nodup := by
  rw [map_fst_setMember]
  split
  · exact h
  · next hkey => simpa using h.concat hkey

theorem mem_setMember {member : κ × α} (h : member ∈ setMember key value members) :
    member = (key, value) ∨ member ∈ members := by
  induction members with
  | nil => exact .inl (List.mem_singleton.1 h)
  | cons first members ih =>
    obtain ⟨k, v⟩ := first
    rw [setMember] at h
    split at h
    · next hk =>
      rcases List.mem_cons.1 h with rfl | h
      · exact .inl (by rw [hk])
      · exact .inr (List.mem_cons_of_mem _ h)
    · rcases List.mem_cons.1 h with rfl | h
      · exact .inr List.mem_cons_self
      · exact (ih h).imp_right (List.mem_cons_of_mem _)

/-- Merging leaves each key one member, with a value that was given for some key. -/
theorem mergeMembers_spec (members : List (κ × α)) :
    ((mergeMembers members).map Prod.fst).Nodup ∧
      ∀ member ∈ mergeMembers members, member ∈ members := by
  -- generalised over the members that are merged already
  have key : ∀ (rest merged : List (κ × α)), (merged.map Prod.fst).Nodup →
      ((rest.foldl (fun merged member => setMember member.1 member.2 merged) merged).map
          Prod.fst).Nodup ∧
        ∀ member ∈ rest.foldl (fun merged member => setMember member.1 member.2 merged) merged,
          member ∈ merged ∨ member ∈ rest := by
    intro rest
    induction rest with
    | nil => exact fun merged h => ⟨h, fun member hmem => .inl hmem⟩
    | cons member rest ih =>
      intro merged h
      obtain ⟨hnodup, hmem⟩ := ih (setMember member.1 member.2 merged) (nodup_setMember h)
      refine ⟨hnodup, fun other hother => ?_⟩
      rcases hmem other hother with hset | hrest
      · rcases mem_setMember hset with rfl | hmerged
        · exact .inr List.mem_cons_self
        · exact .inl hmerged
      · exact .inr (List.mem_cons_of_mem _ hrest)
  obtain ⟨hnodup, hmem⟩ := key members [] List.nodup_nil
  exact ⟨hnodup, fun member h => (hmem member h).resolve_left (List.not_mem_nil)⟩

end

/-! ## Values that are read -/

namespace Reader

theorem keyed_of_words {entry : String × Value} (h : entry ∈ words) : entry.2.Keyed := by
  simp only [words, List.mem_cons, List.not_mem_nil, or_false] at h
  rcases h with rfl | rfl | rfl | rfl | rfl | rfl
  · exact .null
  · exact .bool _
  · exact .bool _
  · exact .fraction _
  · exact .fraction _
  · exact .fraction _

theorem keyed_of_word? {cs : Text.Points} {v : Value} {rest : _} (h : word? cs = some (v, rest)) :
    v.Keyed := by
  obtain ⟨⟨name, value⟩, hmem, hfound⟩ := List.exists_of_findSome?_eq_some h
  simp only at hfound
  split at hfound
  · cases hfound
  · split at hfound
    · obtain ⟨rfl, -⟩ := Prod.mk.inj (Option.some.inj hfound)
      exact keyed_of_words hmem
    · cases hfound

theorem keyed_of_unsigned? {negative : Bool} {cs : Text.Points} {v : Value} {rest : _}
    (h : unsigned? negative cs = some (.ok (v, rest))) : v.Keyed := by
  unfold unsigned? at h
  split at h
  · cases h
  · simp only at h
    split at h
    · split at h
      · cases h
      · obtain ⟨rfl, -⟩ := Prod.mk.inj (Except.ok.inj (Option.some.inj h))
        exact .integer _
    · obtain ⟨rfl, -⟩ := Prod.mk.inj (Except.ok.inj (Option.some.inj h))
      exact .fraction _
    · obtain ⟨rfl, -⟩ := Prod.mk.inj (Except.ok.inj (Option.some.inj h))
      exact .fraction _

theorem keyed_of_number {cs : Text.Points} {v : Value} {rest : _}
    (h : number cs = .ok (v, rest)) : v.Keyed := by
  unfold number at h
  split at h
  · split at h
    · cases h
    · cases h
    · next hunsigned =>
      obtain ⟨rfl, -⟩ := Prod.mk.inj (Except.ok.inj h)
      exact keyed_of_unsigned? hunsigned
  · split at h
    · cases h
    · next hunsigned => exact keyed_of_unsigned? (hunsigned.trans (congrArg some h))

theorem keyed_cons {key : Text} {v : Value} {read : List (Text × Value)} (hv : v.Keyed)
    (hread : ∀ member ∈ read, member.2.Keyed) : ∀ member ∈ (key, v) :: read, member.2.Keyed :=
  List.forall_mem_cons.2 ⟨hv, hread⟩

mutual

/-- The value at the front of a text is keyed. -/
theorem keyed_of_value {depth : Nat} {cs : Text.Points} {v : Value} {rest : _}
    (h : value depth cs = .ok (v, rest)) : v.Keyed := by
  rw [value] at h
  split at h
  · -- a string
    split at h
    · cases h
    · obtain ⟨rfl, -⟩ := Prod.mk.inj (Except.ok.inj h)
      exact .string _
  · split at h
    · -- an array
      split at h
      · cases h
      · split at h
        next start hs _ =>
        split at h
        · obtain ⟨rfl, -⟩ := Prod.mk.inj (Except.ok.inj h)
          exact .array (by simp)
        · split at h
          · cases h
          · next helements =>
            obtain ⟨rfl, -⟩ := Prod.mk.inj (Except.ok.inj h)
            exact .array (keyed_of_elements helements (by simp))
    · split at h
      · -- an object
        split at h
        · cases h
        · split at h
          next start hs _ =>
          split at h
          · obtain ⟨rfl, -⟩ := Prod.mk.inj (Except.ok.inj h)
            exact .object (by simp) (by simp)
          · split at h
            · cases h
            · next ms _ _ hmembers =>
              obtain ⟨rfl, -⟩ := Prod.mk.inj (Except.ok.inj h)
              obtain ⟨hnodup, hmerged⟩ := mergeMembers_spec ms
              have hkeyed := keyed_of_members hmembers (by simp)
              exact .object hnodup fun member hmem => hkeyed member (hmerged member hmem)
      · split at h
        · next hword =>
          obtain rfl := Except.ok.inj h
          exact keyed_of_word? hword
        · exact keyed_of_number h
termination_by 2 * cs.length
decreasing_by all_goals omega

theorem keyed_of_elements {depth : Nat} {read : List Value} {cs : Text.Points} {vs : List Value}
    {rest : _} (h : elements depth read cs = .ok (vs, rest)) (hread : ∀ v ∈ read, v.Keyed) :
    ∀ v ∈ vs, v.Keyed := by
  rw [elements] at h
  split at h
  · cases h
  · next hvalue =>
    split at h
    split at h
    · -- the array closes behind the value
      obtain ⟨rfl, -⟩ := Prod.mk.inj (Except.ok.inj h)
      intro other hmem
      exact List.forall_mem_cons.2 ⟨keyed_of_value hvalue, hread⟩ other (List.mem_reverse.1 hmem)
    · split at h
      · cases h
      · split at h
        split at h
        · cases h
        · next hmore =>
          obtain ⟨rfl, -⟩ := Prod.mk.inj (Except.ok.inj h)
          exact keyed_of_elements hmore (List.forall_mem_cons.2 ⟨keyed_of_value hvalue, hread⟩)
termination_by 2 * cs.length + 1
decreasing_by all_goals omega

theorem keyed_of_members {depth : Nat} {read : List (Text × Value)} {cs : Text.Points}
    {ms : List (Text × Value)} {rest : _} (h : members depth read cs = .ok (ms, rest))
    (hread : ∀ member ∈ read, member.2.Keyed) : ∀ member ∈ ms, member.2.Keyed := by
  rw [members] at h
  split at h
  · cases h
  · split at h
    · cases h
    · split at h
      split at h
      · cases h
      · split at h
        split at h
        · cases h
        · next hvalue =>
          split at h
          split at h
          · -- the object closes behind the member
            obtain ⟨rfl, -⟩ := Prod.mk.inj (Except.ok.inj h)
            intro other hmem
            exact keyed_cons (keyed_of_value hvalue) hread other (List.mem_reverse.1 hmem)
          · split at h
            · cases h
            · split at h
              split at h
              · cases h
              · next hmore =>
                obtain ⟨rfl, -⟩ := Prod.mk.inj (Except.ok.inj h)
                exact keyed_of_members hmore (keyed_cons (keyed_of_value hvalue) hread)
termination_by 2 * cs.length + 1
decreasing_by all_goals omega

end

theorem keyed_of_document {depth : Nat} {cs : Text.Points} {v : Value}
    (h : document depth cs = .ok v) : v.Keyed := by
  unfold document at h
  split at h
  · cases h
  · split at h
    · cases h
    · next hvalue =>
      split at h
      · obtain rfl := Except.ok.inj h
        exact keyed_of_value hvalue
      · cases h

end Reader

/-- **The values of documents are keyed.** -/
theorem keyed_of_parse {depth : Nat} {text : Text} {v : Value} (h : parse depth text = .ok v) :
    v.Keyed := by
  unfold parse at h
  split at h
  · next hdocument =>
    obtain rfl := Except.ok.inj h
    exact Reader.keyed_of_document hdocument
  · cases h
  · cases h
  · cases h

end GatedPrompt.Json
