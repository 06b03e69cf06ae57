import Mathlib.Data.List.Forall2
import GatedPrompt.Proofs.Rule.Oversized
import GatedPrompt.Proofs.Rule.Policies
import GatedPrompt.Proofs.Rule.Refusals

/-!
# What a list of rules comes to

A list of rules is read up to its first false rule. What it comes to is told by the place of that
rule and by the malformed rules before it, without any mention of the reading itself.

* `firstFalse` — the place of the first false rule, or the length of the list if there is none;
* `badRules` — the malformed rules before that place, in the order of the list;
* `conjunctionFrom_lenient`, `conjunctionFrom_abort` — the rest of a list, whatever the rules before
  it made of it;
* `Warns` — a notice is the warning of a rule;
* `concluded_conjunction` — what a list comes to under each of the policies.
-/

namespace GatedPrompt.Rule

/-- Whether a rule is malformed in a state. -/
def isBad (state : Game.State) (rule : Text) : Bool :=
  match evaluate state rule with
  | .error (.malformed _) => true
  | _ => false

/-- The place of the first false rule; the length of the list if there is none. -/
def firstFalse (state : Game.State) (rules : List Text) : Nat :=
  rules.findIdx fun rule => decide (evaluate state rule = .ok false)

/-- The malformed rules before the first false one. -/
def badRules (state : Game.State) (rules : List Text) : List Text :=
  (rules.take (firstFalse state rules)).filter (isBad state)

/-- A notice is the warning of a malformed rule: it quotes the text of the rule, names the kind of
its defect and says what follows from it. -/
def Warns (state : Game.State) (consequence rule : Text) (notice : Notice) : Prop :=
  ∃ defect, evaluate state rule = .error (.malformed ⟨rule, defect⟩) ∧ notice.level = .warning ∧
    notice.message = "Malformed rule '" ++ rule ++ s!"' ({defect.category.title}): " ++
      defect.detail ++ consequence

section

variable {state : Game.State} {rule : Text} {rules : List Text} {defect : Defect}

/-! ## The first false rule and the malformed ones before it -/

theorem firstFalse_cons_of_false (h : evaluate state rule = .ok false) :
    firstFalse state (rule :: rules) = 0 := by
  simp [firstFalse, List.findIdx_cons, h]

theorem firstFalse_cons_of_ne (h : evaluate state rule ≠ .ok false) :
    firstFalse state (rule :: rules) = firstFalse state rules + 1 := by
  simp [firstFalse, List.findIdx_cons, h]

theorem firstFalse_eq_length_iff :
    firstFalse state rules = rules.length ↔ ∀ rule ∈ rules, evaluate state rule ≠ .ok false := by
  simp [firstFalse, List.findIdx_eq_length]

theorem badRules_cons_of_false (h : evaluate state rule = .ok false) :
    badRules state (rule :: rules) = [] := by
  rw [badRules, firstFalse_cons_of_false h, List.take_zero, List.filter_nil]

theorem badRules_cons_of_true (h : evaluate state rule = .ok true) :
    badRules state (rule :: rules) = badRules state rules := by
  have hgood : isBad state rule = false := by rw [isBad, h]
  rw [badRules, firstFalse_cons_of_ne (by simp [h]), List.take_succ_cons,
    List.filter_cons_of_neg (by simp [hgood]), badRules]

theorem badRules_cons_of_bad {malformed : Malformed}
    (h : evaluate state rule = .error (.malformed malformed)) :
    badRules state (rule :: rules) = rule :: badRules state rules := by
  have hbad : isBad state rule = true := by rw [isBad, h]
  rw [badRules, firstFalse_cons_of_ne (by simp [h]), List.take_succ_cons,
    List.filter_cons_of_pos hbad, badRules]

/-- A rule without long numerals is true, false or malformed. -/
theorem evaluate_cases (state : Game.State) (hshort : ShortNumerals rule.points) :
    (∃ truth, evaluate state rule = .ok truth) ∨
      ∃ defect, evaluate state rule = .error (.malformed ⟨rule, defect⟩) := by
  cases hevaluate : evaluate state rule with
  | ok truth => exact .inl ⟨truth, rfl⟩
  | error refusal =>
    obtain ⟨defect, rfl, -⟩ := exists_malformed_of_evaluate hshort hevaluate
    exact .inr ⟨defect, rfl⟩

theorem isBad_iff (state : Game.State) (hshort : ShortNumerals rule.points) :
    isBad state rule = true ↔
      ∃ defect, evaluate state rule = .error (.malformed ⟨rule, defect⟩) := by
  obtain ⟨truth, h⟩ | ⟨defect, h⟩ := evaluate_cases state hshort
  · simp [isBad, h]
  · simp [isBad, h]

/-! ## The rest of a list -/

variable {policy : Policy} {warning : Malformed → Notice}

/-- A policy that goes on warns of a malformed rule and reads the rest of the list, which it takes
for false by then unless it skips such rules. -/
theorem conjunctionFrom_cons_of_bad (hpolicy : policy.IsLenient warning) (sound : Bool)
    {malformed : Malformed} (h : evaluate state rule = .error (.malformed malformed)) :
    conjunctionFrom policy state sound (rule :: rules) = (do
      Attempt.note (warning malformed)
      conjunctionFrom policy state (decide (policy = .skip) && sound) rules) := by
  cases hpolicy <;> simp [conjunctionFrom, h]

/-- **Going on at malformed rules.** The rest of a list is true if the rules before it left it so,
none of its rules is false and, if malformed rules fail their list, none of them is malformed. -/
theorem conjunctionFrom_lenient (state : Game.State) (hpolicy : policy.IsLenient warning)
    (sound : Bool)
    (hshort : ∀ rule ∈ rules, ShortNumerals rule.points) :
    (conjunctionFrom policy state sound rules).value =
        .ok (sound && decide (firstFalse state rules = rules.length) &&
          (decide (policy = .skip) || (badRules state rules).isEmpty)) ∧
      List.Forall₂ (fun rule notice => ∃ defect,
          evaluate state rule = .error (.malformed ⟨rule, defect⟩) ∧
            notice = warning ⟨rule, defect⟩)
        (badRules state rules) (conjunctionFrom policy state sound rules).notices := by
  -- by induction on the list; only a malformed rule changes what it is worth by then
  induction rules generalizing sound with
  | nil =>
    refine ⟨?_, .nil⟩
    simp [conjunctionFrom, firstFalse, badRules]
  | cons rule rules ih =>
    have hothers := fun sound => ih sound fun other hmem =>
      hshort other (List.mem_cons_of_mem rule hmem)
    obtain ⟨truth, hrule⟩ | ⟨defect, hrule⟩ :=
      evaluate_cases state (hshort rule List.mem_cons_self)
    · cases truth with
      | true =>
        -- a true rule leaves the rest of the list to itself
        simp only [conjunctionFrom, hrule, badRules_cons_of_true hrule,
          firstFalse_cons_of_ne (show evaluate state rule ≠ .ok false by simp [hrule]),
          List.length_cons, Nat.add_right_cancel_iff]
        exact hothers sound
      | false =>
        -- a false rule settles the list, and what is behind it is not read
        simp only [conjunctionFrom, hrule, badRules_cons_of_false hrule,
          firstFalse_cons_of_false hrule]
        exact ⟨by simp, .nil⟩
    · have hne : evaluate state rule ≠ .ok false := by simp [hrule]
      obtain ⟨hvalue, hnotices⟩ := hothers (decide (policy = .skip) && sound)
      rw [conjunctionFrom_cons_of_bad hpolicy sound hrule, badRules_cons_of_bad hrule,
        firstFalse_cons_of_ne hne]
      refine ⟨?_, ?_⟩
      · rw [Attempt.value_bind_of_ok (Attempt.value_note _), hvalue]
        cases decide (policy = .skip) <;> simp
      · rw [Attempt.notices_bind_of_ok (Attempt.value_note _)]
        exact .cons ⟨defect, hrule, rfl⟩ hnotices

/-- **Giving up at malformed rules.** The first malformed rule before the first false one ends the
reading; if there is none, the list is as true as under any policy. -/
theorem conjunctionFrom_abort (state : Game.State) (sound : Bool)
    (hshort : ∀ rule ∈ rules, ShortNumerals rule.points) :
    (badRules state rules = [] ∧ conjunctionFrom .abort state sound rules =
        pure (sound && decide (firstFalse state rules = rules.length))) ∨
      ∃ rule others defect, badRules state rules = rule :: others ∧
        evaluate state rule = .error (.malformed ⟨rule, defect⟩) ∧
        conjunctionFrom .abort state sound rules = throw (.malformed ⟨rule, defect⟩) := by
  -- by induction on the list; no malformed rule has been met in what is read of it
  induction rules generalizing sound with
  | nil => exact .inl ⟨rfl, by simp [conjunctionFrom, firstFalse]⟩
  | cons rule rules ih =>
    have hothers := ih sound fun other hmem => hshort other (List.mem_cons_of_mem rule hmem)
    obtain ⟨truth, hrule⟩ | ⟨defect, hrule⟩ :=
      evaluate_cases state (hshort rule List.mem_cons_self)
    · cases truth with
      | true =>
        simp only [conjunctionFrom, hrule, badRules_cons_of_true hrule,
          firstFalse_cons_of_ne (show evaluate state rule ≠ .ok false by simp [hrule]),
          List.length_cons, Nat.add_right_cancel_iff]
        exact hothers
      | false =>
        refine .inl ⟨badRules_cons_of_false hrule, ?_⟩
        simp [conjunctionFrom, hrule, firstFalse_cons_of_false hrule]
    · refine .inr ⟨rule, badRules state rules, defect, badRules_cons_of_bad hrule, hrule, ?_⟩
      simp only [conjunctionFrom, hrule]

/-! ## All that can come of a list -/

theorem eq_true_of_good (hshort : ShortNumerals rule.points) (hgood : isBad state rule = false)
    (hne : evaluate state rule ≠ .ok false) : evaluate state rule = .ok true := by
  obtain ⟨truth, h⟩ | ⟨defect, h⟩ := evaluate_cases state hshort
  · cases truth with
    | true => exact h
    | false => exact absurd h hne
  · have hbad : isBad state rule = true := (isBad_iff state hshort).2 ⟨defect, h⟩
    rw [hgood] at hbad
    cases hbad

/-- No rule is false just if those that are not malformed are true. -/
theorem firstFalse_eq_length_iff_good (hshort : ∀ rule ∈ rules, ShortNumerals rule.points) :
    firstFalse state rules = rules.length ↔
      ∀ rule ∈ rules, isBad state rule = false → evaluate state rule = .ok true := by
  rw [firstFalse_eq_length_iff]
  constructor
  · exact fun h rule hmem hgood => eq_true_of_good (hshort rule hmem) hgood (h rule hmem)
  · intro h rule hmem hfalse
    have hgood : isBad state rule = false := by rw [isBad, hfalse]
    rw [h rule hmem hgood] at hfalse
    cases hfalse

/-- If no rule is false, the malformed ones before the first false one are all there are. -/
theorem badRules_eq_nil_iff (h : firstFalse state rules = rules.length) :
    badRules state rules = [] ↔ ∀ rule ∈ rules, isBad state rule = false := by
  rw [badRules, h, List.take_length, List.filter_eq_nil_iff]
  simp

theorem forall_true_iff (hshort : ∀ rule ∈ rules, ShortNumerals rule.points) :
    (firstFalse state rules = rules.length ∧ badRules state rules = []) ↔
      ∀ rule ∈ rules, isBad state rule = false ∧ evaluate state rule = .ok true := by
  constructor
  · rintro ⟨hlength, hnil⟩ rule hmem
    have hgood : isBad state rule = false := (badRules_eq_nil_iff hlength).1 hnil rule hmem
    exact ⟨hgood, (firstFalse_eq_length_iff_good hshort).1 hlength rule hmem hgood⟩
  · intro h
    have hlength : firstFalse state rules = rules.length :=
      (firstFalse_eq_length_iff_good hshort).2 fun rule hmem _ => (h rule hmem).2
    exact ⟨hlength, (badRules_eq_nil_iff hlength).2 fun rule hmem => (h rule hmem).1⟩

end

/-- What a list of rules comes to, and what blocks of rules add to that. -/
structure Concluded (state : Game.State) (rules : List Text) : Prop where
  /-- If malformed rules are skipped, the list is true just if its other rules are. -/
  skip : ∃ truth, (conjunction .skip state rules).value = .ok truth ∧
    (truth = true ↔ ∀ rule ∈ rules, isBad state rule = false → evaluate state rule = .ok true)
  /-- Each malformed rule before the first false one is warned of, and nothing else is reported. -/
  skip_warns : List.Forall₂ (Warns state " Skipping rule.") (badRules state rules)
    (conjunction .skip state rules).notices
  /-- If malformed rules fail their list, it is true just if no rule is malformed and all are
  true. -/
  fail : ∃ truth, (conjunction .fail state rules).value = .ok truth ∧
    (truth = true ↔ ∀ rule ∈ rules, isBad state rule = false ∧ evaluate state rule = .ok true)
  fail_warns : List.Forall₂ (Warns state " Treating the rule list as false.")
    (badRules state rules) (conjunction .fail state rules).notices
  /-- The strict policy gives up just if there is a malformed rule before the first false one. -/
  abort_iff : (∃ abort, (conjunction .abort state rules).value = .error abort) ↔
    badRules state rules ≠ []
  /-- It gives up over the first of them. -/
  abort_first : ∀ abort, (conjunction .abort state rules).value = .error abort →
    ∃ rule malformed, (badRules state rules).head? = some rule ∧
      evaluate state rule = .error (.malformed malformed) ∧ abort = .malformed malformed
  /-- Otherwise the list is true just if none of its rules is false. -/
  abort_truth : ∀ truth, (conjunction .abort state rules).value = .ok truth →
    (truth = true ↔ firstFalse state rules = rules.length)
  abort_quiet : (conjunction .abort state rules).notices = []
  /-- A block that is absent does not hold, and an empty one does. -/
  absent : ∀ policy, block policy state none = pure false
  empty : ∀ policy, block policy state (some "") = pure true

theorem warns_of_reports {state : Game.State} {consequence : Text} {warning : Malformed → Notice}
    {rules : List Text} {notices : List Notice}
    (hwarning : ∀ malformed, (warning malformed).level = .warning ∧
      (warning malformed).message = malformed.message ++ consequence)
    (h : List.Forall₂ (fun rule notice => ∃ defect,
        evaluate state rule = .error (.malformed ⟨rule, defect⟩) ∧
          notice = warning ⟨rule, defect⟩) rules notices) :
    List.Forall₂ (Warns state consequence) rules notices := by
  refine h.imp ?_
  rintro rule _ ⟨defect, hrule, rfl⟩
  exact ⟨defect, hrule, hwarning ⟨rule, defect⟩⟩

/-- **What a list of rules comes to.** -/
theorem concluded_conjunction (state : Game.State) {rules : List Text}
    (hshort : ∀ rule ∈ rules, ShortNumerals rule.points) : Concluded state rules := by
  obtain ⟨hskip, hskipNotices⟩ := conjunctionFrom_lenient state .skip true hshort
  obtain ⟨hfail, hfailNotices⟩ := conjunctionFrom_lenient state .fail true hshort
  have habort := conjunctionFrom_abort state true hshort
  rw [← conjunction] at habort
  refine ⟨⟨_, hskip, ?_⟩, warns_of_reports (fun _ => ⟨rfl, rfl⟩) hskipNotices, ⟨_, hfail, ?_⟩,
    warns_of_reports (fun _ => ⟨rfl, rfl⟩) hfailNotices, ?_, ?_, ?_, ?_, fun _ => rfl,
    fun _ => rfl⟩
  · rw [← firstFalse_eq_length_iff_good hshort]
    simp
  · rw [← forall_true_iff hshort]
    simp
  · obtain ⟨hnil, heq⟩ | ⟨rule, others, defect, hcons, -, heq⟩ := habort
    · simp [heq, hnil]
    · rw [heq, hcons]
      exact ⟨fun _ => List.cons_ne_nil rule others, fun _ => ⟨_, rfl⟩⟩
  · intro abort hvalue
    obtain ⟨hnil, heq⟩ | ⟨rule, others, defect, hcons, hrule, heq⟩ := habort
    · rw [heq] at hvalue
      cases hvalue
    · rw [heq] at hvalue
      rw [hcons]
      exact ⟨rule, _, rfl, hrule, (Except.error.inj hvalue).symm⟩
  · intro truth hvalue
    obtain ⟨hnil, heq⟩ | ⟨rule, others, defect, hcons, -, heq⟩ := habort
    · rw [heq] at hvalue
      obtain rfl := Except.ok.inj hvalue
      simp
    · rw [heq] at hvalue
      cases hvalue
  · obtain ⟨-, heq⟩ | ⟨rule, others, defect, -, -, heq⟩ := habort
    · rw [heq]
      rfl
    · rw [heq]
      rfl

/-- A variable alone is malformed. The switch behind it is off, so the last rule is not read. -/
theorem concluded_unread_rule :
    List.Forall₂ (Warns { gold := 9 } " Skipping rule.") ["v[1]"]
        (conjunction .skip { gold := 9 } ["g>5", "v[1]", "s[2]", "p"]).notices ∧
      ∃ abort,
        (conjunction .abort { gold := 9 } ["g>5", "v[1]", "s[2]", "p"]).value = .error abort := by
  have hshort : ∀ rule ∈ (["g>5", "v[1]", "s[2]", "p"] : List Text),
      ShortNumerals rule.points := by
    intro rule hmem
    refine shortNumerals_of_length_le ?_
    revert rule
    decide
  have hconcluded := concluded_conjunction { gold := 9 } hshort
  have hbad : badRules { gold := 9 } ["g>5", "v[1]", "s[2]", "p"] = ["v[1]"] := by
    decide +kernel
  have hwarns := hconcluded.skip_warns
  have hstops := hconcluded.abort_iff
  rw [hbad] at hwarns hstops
  exact ⟨hwarns, hstops.2 (by simp)⟩

end GatedPrompt.Rule
