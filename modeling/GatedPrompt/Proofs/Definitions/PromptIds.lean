import GatedPrompt.Definitions.Scenario

/-!
# Ids of prompts

* `Text.Precedes` — the strict order of texts by code points;
* `Prompts.pairwise_ids` — the ids of prompts ascend in it if no two prompts share one;
* `Prompts.mem_ids`, `Prompts.named_eq_ok_iff` and `Prompts.named_of_not_mem` — the ids are those of
  the prompts, which are found by them and by nothing else;
* `map_fst_readPrompts` and `exists_of_mem_readPrompts` — prompts that are read have the keys of
  their object as ids, and each is read from the value of its key.
-/

namespace GatedPrompt

namespace Text

namespace CodePoint

/-- No character has the number of a surrogate. -/
theorem value_char_ne_surrogate (c : Char) (offset : Fin 0x800) :
    (char c).value ≠ (surrogate offset).value := by
  have hvalid := c.valid
  have hlt := offset.isLt
  simp only [UInt32.isValidChar, Nat.isValidChar] at hvalid
  simp only [value, Char.toNat]
  omega

/-- Code points are told apart by their numbers. -/
theorem value_inj {a b : CodePoint} : a.value = b.value ↔ a = b := by
  refine ⟨fun h => ?_, congrArg value⟩
  cases a with
  | char c =>
    cases b with
    | char d => exact congrArg char (Char.toNat_inj.1 h)
    | surrogate offset => exact absurd h (value_char_ne_surrogate c offset)
  | surrogate offset =>
    cases b with
    | char d => exact absurd h.symm (value_char_ne_surrogate d offset)
    | surrogate offset' => exact congrArg surrogate (Fin.ext (Nat.add_left_cancel h))

end CodePoint

/-- Whether a text stands before another one by code points. -/
def Precedes (a b : Text) : Prop :=
  List.Lex (· < ·) (a.points.map CodePoint.value) (b.points.map CodePoint.value)

end Text

namespace Definitions

open Json (Value)
open Prompt (Descriptor)

/-! ## The order -/

namespace Prompts

theorem pointsLe_cons {p q : Text.CodePoint} {ps qs : Text.Points} :
    pointsLe (p :: ps) (q :: qs) = true ↔
      p.value < q.value ∨ p.value = q.value ∧ pointsLe ps qs = true := by
  simp [pointsLe]

theorem pointsLe_trans {ps qs rs : Text.Points} (h : pointsLe ps qs = true)
    (h' : pointsLe qs rs = true) : pointsLe ps rs = true := by
  induction ps generalizing qs rs with
  | nil => rfl
  | cons p ps ih =>
    cases qs with
    | nil => cases h
    | cons q qs =>
      cases rs with
      | nil => cases h'
      | cons r rs =>
        rw [pointsLe_cons] at h h' ⊢
        rcases h with h | ⟨h, hle⟩
        · exact .inl (by omega)
        · rcases h' with h' | ⟨h', hle'⟩
          · exact .inl (by omega)
          · exact .inr ⟨h.trans h', ih hle hle'⟩

theorem pointsLe_total (ps qs : Text.Points) : pointsLe ps qs = true ∨ pointsLe qs ps = true := by
  induction ps generalizing qs with
  | nil => exact .inl rfl
  | cons p ps ih =>
    cases qs with
    | nil => exact .inr rfl
    | cons q qs =>
      rw [pointsLe_cons, pointsLe_cons]
      rcases Nat.lt_trichotomy p.value q.value with h | h | h
      · exact .inl (.inl h)
      · exact (ih qs).imp (fun hle => .inr ⟨h, hle⟩) fun hle => .inr ⟨h.symm, hle⟩
      · exact .inr (.inl h)

theorem idLe_trans (a b c : Text) (h : idLe a b = true) (h' : idLe b c = true) :
    idLe a c = true := pointsLe_trans h h'

theorem idLe_total (a b : Text) : (idLe a b || idLe b a) = true :=
  Bool.or_eq_true _ _ ▸ pointsLe_total a.points b.points

/-- Of two texts that differ, the one that sorting puts first is the one that precedes. -/
theorem precedes_of_idLe {a b : Text} (h : idLe a b = true) (hne : a ≠ b) : a.Precedes b := by
  obtain ⟨ps⟩ := a
  obtain ⟨qs⟩ := b
  replace h : pointsLe ps qs = true := h
  replace hne : ps ≠ qs := fun heq => hne (congrArg Text.mk heq)
  rw [Text.Precedes]
  induction ps generalizing qs with
  | nil =>
    cases qs with
    | nil => exact absurd rfl hne
    | cons q qs => exact .nil
  | cons p ps ih =>
    cases qs with
    | nil => cases h
    | cons q qs =>
      rcases pointsLe_cons.1 h with hlt | ⟨heq, hle⟩
      · exact .rel hlt
      · obtain rfl := Text.CodePoint.value_inj.1 heq
        exact .cons (ih qs hle fun heq => hne (congrArg (p :: ·) heq))

/-! ## Ids -/

variable {prompts : Prompts} {id : Text}

theorem mem_ids : id ∈ prompts.ids ↔ id ∈ prompts.map Prod.fst := List.mem_mergeSort

/-- The ids of prompts ascend strictly if no two prompts share one. -/
theorem pairwise_ids (h : (prompts.map Prod.fst).Nodup) : prompts.ids.Pairwise Text.Precedes := by
  have hsorted : prompts.ids.Pairwise fun a b => idLe a b = true :=
    List.pairwise_mergeSort idLe_trans idLe_total _
  have hdistinct : prompts.ids.Nodup := (List.mergeSort_perm _ _).nodup_iff.2 h
  exact hsorted.imp₂ (fun _ _ => precedes_of_idLe) hdistinct

theorem named_eq_ok {descriptor : Descriptor} :
    prompts.named id = .ok descriptor ↔ prompts.lookup id = some descriptor := by
  rw [named]
  cases prompts.lookup id <;> simp

/-- The prompt with an id is the one beside it. -/
theorem named_eq_ok_iff (h : (prompts.map Prod.fst).Nodup) {descriptor : Descriptor} :
    prompts.named id = .ok descriptor ↔ (id, descriptor) ∈ prompts := by
  rw [named_eq_ok]
  induction prompts with
  | nil => simp
  | cons prompt prompts ih =>
    obtain ⟨key, first⟩ := prompt
    rw [List.map_cons, List.nodup_cons] at h
    rw [List.lookup_cons, List.mem_cons]
    by_cases hkey : id = key
    · subst hkey
      -- no other prompt has this id
      have hother : (id, descriptor) ∉ prompts :=
        fun hmem => h.1 (List.mem_map.2 ⟨(id, descriptor), hmem, rfl⟩)
      simp [hother, eq_comm]
    · have hfalse : (id == key) = false := beq_eq_false_iff_ne.2 hkey
      simp [hfalse, hkey, ih h.2]

/-- An id that no prompt has is unknown. -/
theorem named_of_not_mem (h : id ∉ prompts.ids) : prompts.named id = .error (.unknown id) := by
  have hnone : prompts.lookup id = none := by
    rw [List.lookup_eq_none_iff]
    intro prompt hmem
    have hne : id ≠ prompt.1 := fun heq => h (mem_ids.2 (heq ▸ List.mem_map_of_mem hmem))
    simpa using hne
  rw [named, hnone]

end Prompts

/-! ## Prompts that are read -/

variable {members : Members} {prompts : Prompts}

theorem map_fst_readPrompts (h : readPrompts members = .ok prompts) :
    prompts.map Prod.fst = members.map Prod.fst := by
  induction members generalizing prompts with
  | nil =>
    cases h
    rfl
  | cons member members ih =>
    obtain ⟨first, -, h⟩ := bind_eq_ok_iff.1 h
    obtain ⟨others, hothers, h⟩ := bind_eq_ok_iff.1 h
    cases h
    exact congrArg (member.1 :: ·) (ih hothers)

/-- A prompt that is read has its place in the object. -/
theorem exists_of_mem_readPrompts (h : readPrompts members = .ok prompts) {id : Text}
    {descriptor : Descriptor} (hmem : (id, descriptor) ∈ prompts) :
    ∃ value, (id, value) ∈ members ∧ readPrompt id value = .ok descriptor := by
  induction members generalizing prompts with
  | nil =>
    cases h
    cases hmem
  | cons member members ih =>
    obtain ⟨first, hfirst, h⟩ := bind_eq_ok_iff.1 h
    obtain ⟨others, hothers, h⟩ := bind_eq_ok_iff.1 h
    cases h
    rcases List.mem_cons.1 hmem with heq | hmem
    · cases heq
      exact ⟨member.2, List.mem_cons_self, hfirst⟩
    · obtain ⟨value, hvalue, hread⟩ := ih hothers hmem
      exact ⟨value, List.mem_cons_of_mem _ hvalue, hread⟩

end Definitions

end GatedPrompt
