import GatedPrompt.Lint.Finding
import GatedPrompt.Proofs.Prompt.Reports
import GatedPrompt.Proofs.Rule.Refusals

/-!
# The check and the engine

The check of choices reads every rule in them, without a game. The engine reads the rules of a
block up to the first false one, in some state and under some policy. All the same the engine has
nothing to complain of that the check does not find, except for ids that no game has; and what the
check finds is refused by the engine in every state.

* `errors` — what is wrong with choices, from one choice to the next, and within a choice from the
  block that disables to the one that hides and from one rule to the next;
* `remarks` — the same with warnings of empty labels, which is what the check finds
  (`value_check`);
* `found_or_unresolved_of_blames` — what the engine complains of is among the errors, or is an id
  that no game has; `evaluate_of_mem_errors` — the errors are refused by the engine;
* `agrees_check` — all that is promised of the issues of a prompt.
-/

namespace GatedPrompt.Lint

open Choice (Block Markup)
open Prompt (Blames Descriptor Refuses Settings evaluateChoice process renderLabel)
open Rule (Malformed Refusal ShortNumerals defect?)

/-! ## What is wrong with choices -/

/-- The rules of a block that cannot be parsed. -/
def ruleErrors (choice : Nat) (block : Block) (rules : List Text) : List Finding :=
  rules.filterMap fun rule =>
    (defect? rule).map fun defect => .malformedRule choice block ⟨rule, defect⟩

/-- What is wrong with a choice: its markup is misplaced, or there are rules in it that cannot be
parsed. -/
def choiceErrors (choice : Nat) (text : Text) : List Finding :=
  let markup := Markup.read text
  if markup.misplaced then [.misplacedMarkup choice text]
  else ruleErrors choice .disable (markup.rules .disable) ++
    ruleErrors choice .hide (markup.rules .hide)

/-- What is odd about a choice: it has markup and nothing to show. -/
def choiceWarnings (choice : Nat) (text : Text) : List Finding :=
  let markup := Markup.read text
  if markup.hasBlocks && markup.label.isEmpty then [.emptyLabel choice] else []

/-- What is wrong with choices. -/
def errors (choices : List Text) : List Finding :=
  choices.zipIdx.flatMap fun (text, index) => choiceErrors index text

/-- What is wrong or odd about choices. -/
def remarks (choices : List Text) : List Finding :=
  choices.zipIdx.flatMap fun (text, index) => choiceErrors index text ++ choiceWarnings index text

section

variable {choice : Nat} {block : Block} {text : Text} {rules choices : List Text}
  {finding : Finding}

theorem mem_ruleErrors_iff :
    finding ∈ ruleErrors choice block rules ↔
      ∃ rule ∈ rules, ∃ defect, defect? rule = some defect ∧
        finding = .malformedRule choice block ⟨rule, defect⟩ := by
  simp only [ruleErrors, List.mem_filterMap, Option.map_eq_some_iff, eq_comm (a := finding)]

/-- Misplaced markup has no blocks, so it has no rules. -/
theorem rules_of_misplaced (h : (Markup.read text).misplaced = true) (block : Block) :
    (Markup.read text).rules block = [] := by
  rw [Markup.eq_of_misplaced h]
  cases block <;> rfl

theorem mem_choiceErrors_of_misplaced (h : (Markup.read text).misplaced = true) :
    finding ∈ choiceErrors choice text ↔ finding = .misplacedMarkup choice text := by
  rw [choiceErrors, if_pos h, List.mem_singleton]

theorem mem_choiceErrors_of_not_misplaced (h : (Markup.read text).misplaced = false) :
    finding ∈ choiceErrors choice text ↔
      ∃ block, ∃ rule ∈ (Markup.read text).rules block, ∃ defect, defect? rule = some defect ∧
        finding = .malformedRule choice block ⟨rule, defect⟩ := by
  rw [choiceErrors, if_neg (by simp [h]), List.mem_append, mem_ruleErrors_iff, mem_ruleErrors_iff]
  constructor
  · rintro (hdisable | hhide)
    · exact ⟨.disable, hdisable⟩
    · exact ⟨.hide, hhide⟩
  · rintro ⟨block, hblock⟩
    cases block with
    | disable => exact .inl hblock
    | hide => exact .inr hblock

theorem mem_errors_iff :
    finding ∈ errors choices ↔
      ∃ (index : Nat) (text : Text), choices[index]? = some text ∧
        finding ∈ choiceErrors index text := by
  simp only [errors, List.mem_flatMap, Prod.exists, List.mem_zipIdx_iff_getElem?]
  constructor
  · rintro ⟨text, index, htext, hfinding⟩
    exact ⟨index, text, htext, hfinding⟩
  · rintro ⟨index, text, htext, hfinding⟩
    exact ⟨text, index, htext, hfinding⟩

theorem misplacedMarkup_mem_errors_iff :
    .misplacedMarkup choice text ∈ errors choices ↔
      choices[choice]? = some text ∧ (Markup.read text).misplaced = true := by
  rw [mem_errors_iff]
  constructor
  · rintro ⟨index, text', htext, hfinding⟩
    -- A choice has errors of one sort only: its markup is misplaced, or there are rules in it.
    cases hmisplaced : (Markup.read text').misplaced with
    | true =>
      obtain ⟨rfl, rfl⟩ : choice = index ∧ text = text' := by
        simpa using (mem_choiceErrors_of_misplaced hmisplaced).1 hfinding
      exact ⟨htext, hmisplaced⟩
    | false =>
      obtain ⟨_, _, _, _, _, h⟩ := (mem_choiceErrors_of_not_misplaced hmisplaced).1 hfinding
      cases h
  · rintro ⟨htext, hmisplaced⟩
    exact ⟨choice, text, htext, (mem_choiceErrors_of_misplaced hmisplaced).2 rfl⟩

theorem malformedRule_mem_errors_iff {malformed : Malformed} :
    .malformedRule choice block malformed ∈ errors choices ↔
      ∃ text, choices[choice]? = some text ∧ malformed.rule ∈ (Markup.read text).rules block ∧
        defect? malformed.rule = some malformed.defect := by
  rw [mem_errors_iff]
  constructor
  · rintro ⟨index, text, htext, hfinding⟩
    cases hmisplaced : (Markup.read text).misplaced with
    | true => cases (mem_choiceErrors_of_misplaced hmisplaced).1 hfinding
    | false =>
      obtain ⟨block', rule, hrule, defect, hdefect, h⟩ :=
        (mem_choiceErrors_of_not_misplaced hmisplaced).1 hfinding
      obtain ⟨rfl, rfl, rfl⟩ : choice = index ∧ block = block' ∧ malformed = ⟨rule, defect⟩ := by
        simpa using h
      exact ⟨text, htext, hrule, hdefect⟩
  · rintro ⟨text, htext, hrule, hdefect⟩
    -- Where there is a rule at all, the markup is in its place.
    have hmisplaced : (Markup.read text).misplaced = false := by
      by_contra hmisplaced
      rw [rules_of_misplaced (by simpa using hmisplaced)] at hrule
      cases hrule
    refine ⟨choice, text, htext, (mem_choiceErrors_of_not_misplaced hmisplaced).2 ?_⟩
    exact ⟨block, malformed.rule, hrule, malformed.defect, hdefect, rfl⟩

end

/-! ## What the check finds -/

section

variable {choice : Nat} {block : Block} {text : Text} {rules choices : List Text}

theorem ruleFindings_eq (h : ∀ rule ∈ rules, ShortNumerals rule.points) :
    ruleFindings choice block rules = .ok (ruleErrors choice block rules) := by
  induction rules with
  | nil => rfl
  | cons rule rules ih =>
    have hrule : ShortNumerals rule.points := h rule List.mem_cons_self
    have hothers := ih fun other hmem => h other (List.mem_cons_of_mem rule hmem)
    -- Rules are parsed one by one, and none stops the check, whatever is wrong with it.
    cases hdefect : defect? rule with
    | some defect =>
      simp only [ruleFindings, Rule.parse_of_defect? hrule hdefect, hothers, ruleErrors,
        List.filterMap_cons, hdefect]
      rfl
    | none =>
      obtain ⟨parsed, hparse⟩ := Rule.exists_rule_of_defect? hrule hdefect
      simp only [ruleFindings, hparse, hothers, ruleErrors, List.filterMap_cons, hdefect]
      rfl

theorem blockFindings_eq (hshort : ShortNumerals text.points) (block : Block) :
    blockFindings choice (Markup.read text) block =
      .ok (ruleErrors choice block ((Markup.read text).rules block)) := by
  have hrules : ∀ rule ∈ (Markup.read text).rules block, ShortNumerals rule.points :=
    fun _ hmem => Markup.shortNumerals_of_mem_rules hshort hmem
  rw [← ruleFindings_eq hrules, blockFindings, Markup.rules]
  cases (Markup.read text).body? block with
  | none => rfl
  | some body => rfl

theorem value_choiceFindings (hshort : ShortNumerals text.points) :
    (choiceFindings choice text).value =
      .ok (choiceErrors choice text ++ choiceWarnings choice text) := by
  have hextract : Attempt.value (ExceptT.lift (Markup.extract text) :
      Attempt Text.Oversized Markup) = .ok (Markup.read text) := by
    rw [Attempt.value_lift, Markup.value_extract]
  rw [choiceFindings, Attempt.value_bind_of_ok hextract]
  cases hmisplaced : (Markup.read text).misplaced with
  | true =>
    -- Misplaced markup has no blocks, so it never counts as an empty label.
    simp only [choiceErrors, choiceWarnings, Markup.eq_of_misplaced hmisplaced]
    rfl
  | false =>
    simp only [blockFindings_eq hshort, choiceErrors, choiceWarnings, hmisplaced]
    rfl

theorem value_findingsFrom (index : Nat) (h : ∀ text ∈ choices, ShortNumerals text.points) :
    (findingsFrom index choices).value =
      .ok ((choices.zipIdx index).flatMap fun (text, n) =>
        choiceErrors n text ++ choiceWarnings n text) := by
  induction choices generalizing index with
  | nil => rfl
  | cons text choices ih =>
    have htext : (choiceFindings index text).value =
        .ok (choiceErrors index text ++ choiceWarnings index text) :=
      value_choiceFindings (h text List.mem_cons_self)
    have hothers := ih (index + 1) fun other hmem => h other (List.mem_cons_of_mem text hmem)
    rw [findingsFrom, Attempt.value_bind_of_ok htext, Attempt.value_bind_of_ok hothers]
    rfl

/-- The check finds what is wrong or odd about choices. -/
theorem value_check (prompt : Option Text) (h : ∀ text ∈ choices, ShortNumerals text.points) :
    (check prompt choices).value = .ok ((remarks choices).map (Finding.issue prompt)) := by
  rw [check, findings, Attempt.value_bind_of_ok (value_findingsFrom 0 h)]
  rfl

end

/-! ## Errors among the issues -/

section

variable {choice : Nat} {text : Text} {choices : List Text} {finding : Finding}
  (prompt : Option Text)

theorem severity_of_mem_choiceErrors (h : finding ∈ choiceErrors choice text) :
    (finding.issue prompt).severity = .error := by
  cases hmisplaced : (Markup.read text).misplaced with
  | true =>
    rw [(mem_choiceErrors_of_misplaced hmisplaced).1 h]
    rfl
  | false =>
    obtain ⟨_, _, _, _, _, rfl⟩ := (mem_choiceErrors_of_not_misplaced hmisplaced).1 h
    rfl

theorem eq_emptyLabel_of_mem_choiceWarnings (h : finding ∈ choiceWarnings choice text) :
    finding = .emptyLabel choice := by
  unfold choiceWarnings at h
  simp only at h
  split at h
  · exact List.mem_singleton.1 h
  · cases h

theorem filter_remarks (choices : List Text) :
    ((remarks choices).filter fun finding => (finding.issue prompt).severity = .error) =
      errors choices := by
  rw [remarks, List.filter_flatMap, errors]
  congr 1
  funext ⟨text, index⟩
  have herrors : ∀ finding ∈ choiceErrors index text,
      decide ((finding.issue prompt).severity = .error) = true := by
    intro finding hmem
    rw [severity_of_mem_choiceErrors prompt hmem]
    rfl
  have hwarnings : ∀ finding ∈ choiceWarnings index text,
      ¬decide ((finding.issue prompt).severity = .error) = true := by
    intro finding hmem
    rw [eq_emptyLabel_of_mem_choiceWarnings hmem]
    simp [Finding.issue]
  rw [List.filter_append, List.filter_eq_self.2 herrors, List.filter_eq_nil_iff.2 hwarnings,
    List.append_nil]

theorem mem_errors_iff_mem_remarks :
    finding ∈ errors choices ↔
      finding ∈ remarks choices ∧ (finding.issue prompt).severity = .error := by
  rw [← filter_remarks prompt choices, List.mem_filter, decide_eq_true_iff]

theorem filter_issues (choices : List Text) :
    (((remarks choices).map (Finding.issue prompt)).filter fun issue => issue.severity = .error) =
      (errors choices).map (Finding.issue prompt) := by
  rw [List.filter_map, ← filter_remarks prompt choices]
  rfl

variable {prompt}

theorem issue_mem_of_mem_errors (h : finding ∈ errors choices) :
    finding.issue prompt ∈ (remarks choices).map (Finding.issue prompt) :=
  List.mem_map_of_mem ((mem_errors_iff_mem_remarks prompt).1 h).1

theorem exists_of_code_malformed {issue : Issue}
    (h : issue ∈ (remarks choices).map (Finding.issue prompt))
    (hcode : issue.code = "MALFORMED_RULE") :
    ∃ choice block malformed, issue = (Finding.malformedRule choice block malformed).issue prompt ∧
      .malformedRule choice block malformed ∈ errors choices := by
  obtain ⟨finding, hmem, rfl⟩ := List.mem_map.1 h
  cases finding with
  | misplacedMarkup choice text => simp [Finding.issue] at hcode
  | emptyLabel choice => simp [Finding.issue] at hcode
  | malformedRule choice block malformed =>
    exact ⟨choice, block, malformed, rfl, (mem_errors_iff_mem_remarks prompt).2 ⟨hmem, rfl⟩⟩

theorem exists_of_code_misplaced {issue : Issue}
    (h : issue ∈ (remarks choices).map (Finding.issue prompt))
    (hcode : issue.code = "ILLEGAL_TAG_POSITION") :
    ∃ choice text, issue = (Finding.misplacedMarkup choice text).issue prompt ∧
      .misplacedMarkup choice text ∈ errors choices := by
  obtain ⟨finding, hmem, rfl⟩ := List.mem_map.1 h
  cases finding with
  | malformedRule choice block malformed => simp [Finding.issue] at hcode
  | emptyLabel choice => simp [Finding.issue] at hcode
  | misplacedMarkup choice text =>
    exact ⟨choice, text, rfl, (mem_errors_iff_mem_remarks prompt).2 ⟨hmem, rfl⟩⟩

theorem errors_eq_nil_of_hasErrors
    (h : hasErrors ((remarks choices).map (Finding.issue prompt)) = false) :
    errors choices = [] := by
  rw [hasErrors, List.any_eq_false] at h
  rw [← List.map_eq_nil_iff, ← filter_issues prompt choices, List.filter_eq_nil_iff]
  exact h

end

/-! ## What the engine refuses -/

section

variable {state : Game.State} {settings : Settings} {descriptor : Descriptor}
  {malformed : Malformed} (hshort : ∀ text ∈ descriptor.choices, ShortNumerals text.points)

include hshort

/-- What the engine refuses is found by the check, or is a reference that cannot be resolved. -/
theorem exists_malformed_of_refuses {refusal : Refusal}
    (h : Refuses state descriptor.choices refusal) :
    ∃ malformed, refusal = .malformed malformed ∧
      ((∃ choice block, .malformedRule choice block malformed ∈ errors descriptor.choices) ∨
        malformed.defect.category = .unresolvedReference) := by
  obtain ⟨text, hmem, block, rule, hrule, hevaluate⟩ := h
  have hnumerals : ShortNumerals rule.points :=
    Markup.shortNumerals_of_mem_rules (hshort text hmem) hrule
  obtain ⟨defect, rfl, hdefect | hunresolved⟩ :=
    Rule.exists_malformed_of_evaluate hnumerals hevaluate
  · -- What is wrong with the text of a rule shows without a state, so the check sees it too.
    obtain ⟨index, htext⟩ := List.mem_iff_getElem?.1 hmem
    refine ⟨⟨rule, defect⟩, rfl, .inl ⟨index, block, ?_⟩⟩
    exact malformedRule_mem_errors_iff.2 ⟨text, htext, hrule, hdefect⟩
  · exact ⟨⟨rule, defect⟩, rfl, .inr hunresolved⟩

theorem found_or_unresolved_of_blames (h : Blames (process settings state descriptor) malformed) :
    (∃ choice block, .malformedRule choice block malformed ∈ errors descriptor.choices) ∨
      malformed.defect.category = .unresolvedReference := by
  obtain ⟨malformed', heq, hfound⟩ :=
    exists_malformed_of_refuses hshort (Prompt.refuses_of_blames h)
  obtain rfl : malformed = malformed' := Refusal.malformed.inj heq
  exact hfound

theorem exists_malformed_of_abort {abort : Rule.Abort}
    (h : (process settings state descriptor).value = .error abort) :
    ∃ malformed, abort = .malformed malformed := by
  have hrefuses := (Prompt.process_confined settings state descriptor).fails abort h
  obtain ⟨malformed, heq, -⟩ := exists_malformed_of_refuses hshort hrefuses
  cases abort with
  | malformed malformed' => exact ⟨malformed', rfl⟩
  -- No numeral in the choices is too long.
  | oversized fault => cases heq

/-- The engine refuses what the check finds, in every state. -/
theorem evaluate_of_mem_errors {choice : Nat} {block : Block}
    (h : .malformedRule choice block malformed ∈ errors descriptor.choices) (state : Game.State) :
    Rule.evaluate state malformed.rule = .error (.malformed malformed) := by
  obtain ⟨text, htext, hrule, hdefect⟩ := malformedRule_mem_errors_iff.1 h
  have hnumerals : ShortNumerals malformed.rule.points :=
    Markup.shortNumerals_of_mem_rules (hshort text (List.mem_of_getElem? htext)) hrule
  exact ((Rule.defect?_eq_some_iff hnumerals state).1 hdefect).1

end

/-! ## All that is promised -/

/-- What is promised of the issues of a prompt and the runs of the same prompt. -/
structure Agrees (prompt : Option Text) (descriptor : Descriptor) (issues : List Issue) :
    Prop where
  /-- A malformed rule that a run gives up over or warns of is among the issues, unless it refers
  to an id that no game has. -/
  complete : ∀ settings state malformed, Blames (process settings state descriptor) malformed →
    malformed.defect.category ≠ .unresolvedReference →
      ∃ choice block, (Finding.malformedRule choice block malformed).issue prompt ∈ issues
  /-- If there are no errors among the issues, a run gives up over such references only, warns of
  no other malformed rules and of no markup in the wrong place. -/
  clean : hasErrors issues = false → ∀ settings state,
    (∀ abort, (process settings state descriptor).value = .error abort →
      ∃ malformed, abort = .malformed malformed ∧
        malformed.defect.category = .unresolvedReference) ∧
    (∀ malformed ∈ reports (process settings state descriptor).notices,
      malformed.defect.category = .unresolvedReference) ∧
    ∀ text, .misplacedMarkup text ∉ (process settings state descriptor).notices
  /-- A rule that is called malformed is one of the choice and the block that the issue names, and
  is refused in every state for what the issue says. -/
  malformed_sound : ∀ issue ∈ issues, issue.code = "MALFORMED_RULE" →
    ∃ choice block malformed, issue = (Finding.malformedRule choice block malformed).issue prompt ∧
      (∃ text, descriptor.choices[choice]? = some text ∧
        malformed.rule ∈ (Markup.read text).rules block) ∧
      ∀ state, Rule.evaluate state malformed.rule = .error (.malformed malformed)
  /-- A choice whose markup is called misplaced is neither hidden nor disabled by any run, and its
  label is its whole text, which a substitution may still replace. -/
  misplaced_sound : ∀ issue ∈ issues, issue.code = "ILLEGAL_TAG_POSITION" →
    ∃ (choice : Nat) (text : Text), issue = (Finding.misplacedMarkup choice text).issue prompt ∧
      descriptor.choices[choice]? = some text ∧
      ∀ settings state,
        (evaluateChoice settings state text).value = .ok (text, ⟨false, false⟩) ∧
        ∀ context, (process settings state descriptor).value = .ok (some context) →
          ∃ entry, context.entries[choice]? = some entry ∧ entry.rawText = text ∧
            entry.hidden = false ∧ entry.disabled = false ∧
            entry.label = renderLabel settings false text
  /-- The errors among the issues are one for each choice with misplaced markup and one for each
  rule that cannot be parsed, in the order of the choices, blocks and rules. -/
  errors_eq : (issues.filter fun issue => issue.severity = .error) =
    (errors descriptor.choices).map (Finding.issue prompt)

/-- **The check and the engine agree.** -/
theorem agrees_check (prompt : Option Text) (descriptor : Descriptor)
    (hshort : ∀ text ∈ descriptor.choices, ShortNumerals text.points) :
    ∃ issues, (check prompt descriptor.choices).value = .ok issues ∧
      Agrees prompt descriptor issues := by
  refine ⟨_, value_check prompt hshort, ?_, ?_, ?_, ?_, filter_issues prompt descriptor.choices⟩
  · intro settings state malformed hblames hcategory
    obtain ⟨choice, block, hmem⟩ | hunresolved := found_or_unresolved_of_blames hshort hblames
    · exact ⟨choice, block, issue_mem_of_mem_errors hmem⟩
    · exact absurd hunresolved hcategory
  · intro hclean settings state
    have hnil : errors descriptor.choices = [] := errors_eq_nil_of_hasErrors hclean
    have hblames : ∀ malformed, Blames (process settings state descriptor) malformed →
        malformed.defect.category = .unresolvedReference := by
      intro malformed h
      obtain ⟨choice, block, hmem⟩ | hunresolved := found_or_unresolved_of_blames hshort h
      · rw [hnil] at hmem
        cases hmem
      · exact hunresolved
    refine ⟨fun abort habort => ?_, fun malformed hmem => hblames malformed (.inr hmem), ?_⟩
    · obtain ⟨malformed, rfl⟩ := exists_malformed_of_abort hshort habort
      exact ⟨malformed, rfl, hblames malformed (.inl habort)⟩
    · -- The engine warns of the very markup that the check calls misplaced.
      intro text hmem
      obtain ⟨htext, hmisplaced⟩ := Prompt.misplaced_of_mem_notices hmem
      obtain ⟨index, hindex⟩ := List.mem_iff_getElem?.1 htext
      have herror := misplacedMarkup_mem_errors_iff.2 ⟨hindex, hmisplaced⟩
      rw [hnil] at herror
      cases herror
  · intro issue hissue hcode
    obtain ⟨choice, block, malformed, rfl, herror⟩ := exists_of_code_malformed hissue hcode
    obtain ⟨text, htext, hrule, -⟩ := malformedRule_mem_errors_iff.1 herror
    exact ⟨choice, block, malformed, rfl, ⟨text, htext, hrule⟩,
      evaluate_of_mem_errors hshort herror⟩
  · intro issue hissue hcode
    obtain ⟨choice, text, rfl, herror⟩ := exists_of_code_misplaced hissue hcode
    obtain ⟨htext, hmisplaced⟩ := misplacedMarkup_mem_errors_iff.1 herror
    refine ⟨choice, text, rfl, htext, fun settings state => ?_⟩
    refine ⟨Prompt.evaluateChoice_of_misplaced hmisplaced, fun context hcontext => ?_⟩
    exact (Prompt.processed_of_process hcontext).exists_entry_of_misplaced htext hmisplaced

/-- A switch is compared in the first choice, and there is markup behind the label of the second. -/
theorem agrees_two_faults :
    ∃ issues, (check none ["<<[g>5,s[1]=1]>>Buy", "Go (([s[2]]))"]).value = .ok issues ∧
      (issues.filter fun issue => issue.severity = .error) =
        [Finding.malformedRule 0 .disable ⟨"s[1]=1", .incomparable "s[1]"⟩,
          .misplacedMarkup 1 "Go (([s[2]]))"].map (Finding.issue none) := by
  have hshort : ∀ text ∈ (["<<[g>5,s[1]=1]>>Buy", "Go (([s[2]]))"] : List Text),
      ShortNumerals text.points := by
    intro text hmem
    obtain rfl | rfl : text = "<<[g>5,s[1]=1]>>Buy" ∨ text = "Go (([s[2]]))" := by
      simpa using hmem
    · exact Rule.shortNumerals_of_length_le (by decide)
    · exact Rule.shortNumerals_of_length_le (by decide)
  obtain ⟨issues, hvalue, hagrees⟩ :=
    agrees_check none { choices := ["<<[g>5,s[1]=1]>>Buy", "Go (([s[2]]))"] } hshort
  refine ⟨issues, hvalue, hagrees.errors_eq.trans ?_⟩
  decide +kernel

end GatedPrompt.Lint
