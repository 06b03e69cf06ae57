import GatedPrompt.Proofs.Rule.Meaning

/-!
# Why rules are refused

A rule text is refused for a defect that is there in every state of a game, since the text cannot be
parsed, or for a reference to an id that no game has.

* `defect?` — the defect of a text that cannot be parsed;
* `exists_malformed_of_evaluate` — a refusal names the text, and is of one of the two sorts;
* `defect?_eq_some_iff` — the sorts are told apart by the category of the defect.
-/

namespace GatedPrompt.Rule

/-- The defect of a text that cannot be parsed. -/
def defect? (text : Text) : Option Defect :=
  match parse text with
  | .error (.malformed malformed) => some malformed.defect
  | _ => none

section

variable {text : Text} {defect : Defect}

/-! ## The defects of texts -/

theorem category_ne_of_conditionOf {token : Token} (h : conditionOf token = .error defect) :
    defect.category ≠ .unresolvedReference := by
  unfold conditionOf at h
  split at h
  · obtain rfl := Except.error.inj h
    simp [Defect.category]
  · cases h
  · obtain rfl := Except.error.inj h
    simp [Defect.category]

theorem category_ne_of_operandDefect? {side : Side} {token : Token}
    (h : operandDefect? side token = some defect) : defect.category ≠ .unresolvedReference := by
  unfold operandDefect? at h
  split at h
  · obtain rfl := Option.some.inj h
    simp [Defect.category]
  · obtain rfl := Option.some.inj h
    simp [Defect.category]
  · obtain rfl := Option.some.inj h
    cases side <;> simp [Defect.category]
  · cases h

theorem category_ne_of_relationOf {left middle right : Token}
    (h : relationOf left middle right = .error defect) :
    defect.category ≠ .unresolvedReference := by
  unfold relationOf at h
  split at h
  · split at h
    · next hleft =>
      obtain rfl := Except.error.inj h
      exact category_ne_of_operandDefect? hleft
    · next hright =>
      obtain rfl := Except.error.inj h
      exact category_ne_of_operandDefect? hright
    · cases h
  · obtain rfl := Except.error.inj h
    simp [Defect.category]

theorem category_ne_of_statementOf {ts : List Token} (h : statementOf ts = .error defect) :
    defect.category ≠ .unresolvedReference := by
  unfold statementOf at h
  split at h
  · exact category_ne_of_conditionOf h
  · exact category_ne_of_relationOf h
  · obtain rfl := Except.error.inj h
    simp [Defect.category]

theorem category_ne_of_tokenize {malformed : Malformed}
    (h : tokenize text = .error (.malformed malformed)) :
    malformed.defect.category ≠ .unresolvedReference := by
  unfold tokenize at h
  split at h
  · obtain rfl := Refusal.malformed.inj (Except.error.inj h)
    simp [Defect.category]
  · simp only at h
    split at h
    · next obstacle _ =>
      cases obstacle with
      | unreadable rest =>
        obtain rfl := Refusal.malformed.inj (Except.error.inj h)
        simp [Defect.category]
      | oversized fault => cases Except.error.inj h
    · cases h

/-- Parsing knows nothing of ids. -/
theorem category_ne_of_parse {malformed : Malformed}
    (h : parse text = .error (.malformed malformed)) :
    malformed.defect.category ≠ .unresolvedReference := by
  unfold parse at h
  split at h
  · next htokenize =>
    obtain rfl := Except.error.inj h
    exact category_ne_of_tokenize htokenize
  · split at h
    · next hstatement =>
      obtain rfl := Refusal.malformed.inj (Except.error.inj h)
      exact category_ne_of_statementOf hstatement
    · cases h

end

/-! ## The two sorts of refusals -/

section

variable {text : Text} {defect : Defect} {refusal : Refusal}

theorem parse_of_defect? (hshort : ShortNumerals text.points) (h : defect? text = some defect) :
    parse text = .error (.malformed ⟨text, defect⟩) := by
  have hnot : ∀ rule, parse text ≠ .ok rule := by
    intro rule hparse
    rw [defect?, hparse] at h
    cases h
  obtain ⟨found, hfound⟩ := exists_defect_of_parse hshort hnot
  rw [defect?, hfound] at h
  obtain rfl : found = defect := Option.some.inj h
  exact hfound

theorem exists_rule_of_defect? (hshort : ShortNumerals text.points) (h : defect? text = none) :
    ∃ rule, parse text = .ok rule := by
  by_contra hnot
  obtain ⟨defect, hdefect⟩ := exists_defect_of_parse hshort (not_exists.1 hnot)
  rw [defect?, hdefect] at h
  cases h

/-- **The refusals of a text.** They name the text itself. -/
theorem exists_malformed_of_evaluate {state : Game.State} (hshort : ShortNumerals text.points)
    (h : evaluate state text = .error refusal) :
    ∃ defect, refusal = .malformed ⟨text, defect⟩ ∧
      (defect? text = some defect ∨ defect.category = .unresolvedReference) := by
  cases hdefect : defect? text with
  | some defect =>
    rw [evaluate, parse_of_defect? hshort hdefect] at h
    exact ⟨defect, (Except.error.inj h).symm, .inl rfl⟩
  | none =>
    -- The text is written in a form, and the evaluation of forms fails for id zero only.
    obtain ⟨rule, hparse⟩ := exists_rule_of_defect? hshort hdefect
    obtain ⟨form, hwrites, -⟩ := exists_form_of_parse hparse
    obtain ⟨kind, -, hevaluate⟩ | ⟨-, truth, hevaluate, -⟩ := hwrites.evaluate_answers state hshort
    · obtain rfl := Except.error.inj (hevaluate.symm.trans h)
      exact ⟨_, rfl, .inr rfl⟩
    · rw [hevaluate] at h
      cases h

/-- **The defects that show without a game.** In every state they are the refusals of a text for
anything but a reference that cannot be resolved. -/
theorem defect?_eq_some_iff (hshort : ShortNumerals text.points) (state : Game.State) :
    defect? text = some defect ↔
      evaluate state text = .error (.malformed ⟨text, defect⟩) ∧
        defect.category ≠ .unresolvedReference := by
  constructor
  · intro h
    have hparse : parse text = .error (.malformed ⟨text, defect⟩) := parse_of_defect? hshort h
    exact ⟨by rw [evaluate, hparse], category_ne_of_parse hparse⟩
  · rintro ⟨h, hcategory⟩
    obtain ⟨found, hfound, hdefect | hunresolved⟩ := exists_malformed_of_evaluate hshort h
    · obtain rfl : defect = found := by simpa using hfound
      exact hdefect
    · obtain rfl : defect = found := by simpa using hfound
      exact absurd hunresolved hcategory

end

end GatedPrompt.Rule
