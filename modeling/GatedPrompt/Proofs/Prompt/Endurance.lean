import GatedPrompt.Proofs.Lint.Agreement
import GatedPrompt.Proofs.Prompt.History
import GatedPrompt.Proofs.Rule.Oversized

/-!
# What stops a lenient prompt

Under a policy that goes on at malformed rules, most texts stop nothing: whatever is wrong with a
rule, the rules behind it are read and the prompt is shown. The exception are numerals of too many
digits, which are no defects of rules and are covered by no policy. The check of choices does not
get over them either. Apart from the texts, the number of a missing default may be too long.

* `Attempt.FailsIff` — a computation fails just if something holds, and then in a given way. What
  makes a sequence fail is what makes one of its parts fail (`FailsIff.bind`);
* `Rule.MeetsOverlong` — a list of rules has an overlong one that is read;
* `process_failsIff`, `check_failsIff` — what stops prompts, and what stops the check;
* `endures_of_lenient` — all that is promised of lenient prompts;
* `not_endures_long_numeral` — a numeral that stops a prompt and the check.
-/

namespace GatedPrompt

/-- A computation fails just if something holds, and then with a failure of a given sort. -/
inductive Attempt.FailsIff {ε α : Type} (Fails : ε → Prop) (P : Prop) (x : Attempt ε α) : Prop where
  | ends (a : α) (value : x.value = .ok a) (not : ¬P)
  | fails (e : ε) (value : x.value = .error e) (sort : Fails e) (holds : P)

namespace Attempt.FailsIff

variable {ε α β : Type} {Fails : ε → Prop} {P Q : Prop} {x : Attempt ε α}

theorem pure (a : α) : FailsIff Fails False (Pure.pure a : Attempt ε α) := .ends a rfl not_false

theorem congr (h : FailsIff Fails P x) (hiff : P ↔ Q) : FailsIff Fails Q x := by
  rwa [propext hiff] at h

/-- A sequence is stopped by what stops its first part or, behind that, its second part. -/
theorem bind (h : FailsIff Fails P x) {f : α → Attempt ε β} (hf : ∀ a, FailsIff Fails Q (f a)) :
    FailsIff Fails (P ∨ Q) (x >>= f) := by
  cases h with
  | fails e value sort holds => exact .fails e (value_bind_of_error value f) sort (.inl holds)
  | ends a value not =>
    have hbind := value_bind_of_ok value f
    cases hf a with
    | ends b value' not' => exact .ends b (hbind.trans value') (not_or.2 ⟨not, not'⟩)
    | fails e value' sort holds => exact .fails e (hbind.trans value') sort (.inr holds)

/-- A first part that ends well leaves it to the second one. -/
theorem bind_of_ok {a : α} (h : x.value = .ok a) {f : α → Attempt ε β}
    (hf : FailsIff Fails Q (f a)) : FailsIff Fails Q (x >>= f) := by
  have hbind := value_bind_of_ok h f
  cases hf with
  | ends b value not => exact .ends b (hbind.trans value) not
  | fails e value sort holds => exact .fails e (hbind.trans value) sort holds

theorem bind_pure (h : FailsIff Fails P x) (f : α → β) :
    FailsIff Fails P (x >>= fun a => Pure.pure (f a)) :=
  (h.bind fun _ => .pure _).congr (by simp)

theorem map_ofExcept {y : Except ε α} (h : FailsIff Fails P (ofExcept y)) (f : α → β) :
    FailsIff Fails P (ofExcept (y.map f)) := by
  have hmap : ofExcept (y.map f) = ofExcept y >>= fun a => Pure.pure (f a) := by
    cases y <;> rfl
  rw [hmap]
  exact h.bind_pure f

theorem exists_ok_iff (h : FailsIff Fails P x) : (∃ a, x.value = .ok a) ↔ ¬P := by
  cases h with
  | ends a value not => exact ⟨fun _ => not, fun _ => ⟨a, value⟩⟩
  | fails e value _ holds =>
    refine ⟨?_, fun not => absurd holds not⟩
    rintro ⟨a, ha⟩
    rw [value] at ha
    cases ha

theorem exists_error (h : FailsIff Fails P x) (hP : P) : ∃ e, x.value = .error e ∧ Fails e := by
  cases h with
  | ends a value not => exact absurd hP not
  | fails e value sort _ => exact ⟨e, value, sort⟩

theorem sort_of_error (h : FailsIff Fails P x) {e : ε} (he : x.value = .error e) : Fails e := by
  cases h with
  | ends a value _ =>
    rw [value] at he
    cases he
  | fails e' value sort _ =>
    obtain rfl : e' = e := Except.error.inj (value.symm.trans he)
    exact sort

end Attempt.FailsIff

/-! ## Lists and blocks of rules -/

namespace Rule

/-- The failures that no policy covers. -/
def Abort.IsOversized (abort : Abort) : Prop := ∃ fault, abort = .oversized fault

/-- A list of rules has an overlong one that is read, since none of the rules before it settles the
list. -/
def MeetsOverlong (state : Game.State) (rules : List Text) : Prop :=
  ∃ before rule later, rules = before ++ rule :: later ∧
    (∀ other ∈ before, evaluate state other ≠ .ok false) ∧ Overlong rule

variable {state : Game.State} {rule : Text} {rules : List Text} {policy : Policy}

theorem not_meetsOverlong_nil : ¬MeetsOverlong state [] := by
  rintro ⟨before, rule, later, heq, -⟩
  simp at heq

theorem meetsOverlong_cons_iff :
    MeetsOverlong state (rule :: rules) ↔
      Overlong rule ∨ (evaluate state rule ≠ .ok false ∧ MeetsOverlong state rules) := by
  constructor
  · rintro ⟨before, offender, later, heq, hbefore, hlong⟩
    cases before with
    | nil =>
      obtain ⟨rfl, -⟩ := List.cons.inj heq
      exact .inl hlong
    | cons first before =>
      obtain ⟨rfl, rfl⟩ := List.cons.inj heq
      refine .inr ⟨hbefore _ List.mem_cons_self, before, offender, later, rfl, ?_, hlong⟩
      exact fun other hmem => hbefore other (List.mem_cons_of_mem _ hmem)
  · rintro (hlong | ⟨hread, before, offender, later, rfl, hbefore, hlong⟩)
    · exact ⟨[], rule, rules, rfl, by simp, hlong⟩
    · refine ⟨rule :: before, offender, later, rfl, ?_, hlong⟩
      intro other hmem
      rcases List.mem_cons.1 hmem with rfl | hmem
      · exact hread
      · exact hbefore other hmem

theorem MeetsOverlong.exists_mem (h : MeetsOverlong state rules) :
    ∃ rule ∈ rules, Overlong rule := by
  obtain ⟨before, rule, later, rfl, -, hlong⟩ := h
  exact ⟨rule, List.mem_append_right _ List.mem_cons_self, hlong⟩

theorem not_overlong_of_ok {truth : Bool} (h : evaluate state rule = .ok truth) :
    ¬Overlong rule := by
  rw [← evaluate_oversized_iff state, h]
  rintro ⟨fault, hfault⟩
  cases hfault

theorem not_overlong_of_malformed {malformed : Malformed}
    (h : evaluate state rule = .error (.malformed malformed)) : ¬Overlong rule := by
  rw [← evaluate_oversized_iff state, h]
  rintro ⟨fault, hfault⟩
  cases hfault

/-- **What stops a list of rules.** -/
theorem conjunctionFrom_failsIff (hpolicy : policy ≠ .abort) (sound : Bool) (rules : List Text) :
    Attempt.FailsIff Abort.IsOversized (MeetsOverlong state rules)
      (conjunctionFrom policy state sound rules) := by
  induction rules generalizing sound with
  | nil => exact .ends sound rfl not_meetsOverlong_nil
  | cons rule rules ih =>
    cases hevaluate : evaluate state rule with
    | ok truth =>
      have hrule : ¬Overlong rule := not_overlong_of_ok hevaluate
      cases truth with
      | true =>
        -- a true rule leaves the list as open as it was
        simp only [conjunctionFrom, hevaluate]
        refine (ih sound).congr ?_
        simp [meetsOverlong_cons_iff, hrule, hevaluate]
      | false =>
        -- the rules behind this one are not read
        have hcons : ¬MeetsOverlong state (rule :: rules) := by
          simp [meetsOverlong_cons_iff, hrule, hevaluate]
        simp only [conjunctionFrom, hevaluate]
        exact .ends false rfl hcons
    | error refusal =>
      cases refusal with
      | oversized fault =>
        have hrule : Overlong rule := (evaluate_oversized_iff state).1 ⟨fault, hevaluate⟩
        simp only [conjunctionFrom, hevaluate]
        exact .fails _ rfl ⟨fault, rfl⟩ (meetsOverlong_cons_iff.2 (.inl hrule))
      | malformed malformed =>
        have hrule : ¬Overlong rule := not_overlong_of_malformed hevaluate
        have hcons : MeetsOverlong state rules ↔ MeetsOverlong state (rule :: rules) := by
          simp [meetsOverlong_cons_iff, hrule, hevaluate]
        -- both lenient policies warn and go on, and differ in what the list is worth by then
        cases policy with
        | abort => exact absurd rfl hpolicy
        | fail =>
          simp only [conjunctionFrom, hevaluate]
          exact .bind_of_ok (Attempt.value_note _) ((ih false).congr hcons)
        | skip =>
          simp only [conjunctionFrom, hevaluate]
          exact .bind_of_ok (Attempt.value_note _) ((ih sound).congr hcons)

theorem block_failsIff (hpolicy : policy ≠ .abort) (markup : Choice.Markup)
    (block : Choice.Block) :
    Attempt.FailsIff Abort.IsOversized (MeetsOverlong state (markup.rules block))
      (Rule.block policy state (markup.body? block)) := by
  unfold Choice.Markup.rules
  cases markup.body? block with
  | none => exact .ends false rfl not_meetsOverlong_nil
  | some body => exact conjunctionFrom_failsIff hpolicy true (split body)

end Rule

/-! ## Choices and prompts -/

namespace Prompt

open Choice (Block Markup)
open Rule (Abort MeetsOverlong Overlong ShortNumerals)

/-- In some block of a choice an overlong rule is read. -/
def ReadsOverlong (state : Game.State) (text : Text) : Prop :=
  ∃ block, MeetsOverlong state ((Markup.read text).rules block)

/-- In some block of a choice there is an overlong rule, be it read or not. -/
def HasOverlong (text : Text) : Prop :=
  ∃ block, ∃ rule ∈ (Markup.read text).rules block, Overlong rule

variable {settings : Settings} {state : Game.State} {text : Text}

theorem readsOverlong_iff :
    ReadsOverlong state text ↔
      MeetsOverlong state ((Markup.read text).rules .disable) ∨
        MeetsOverlong state ((Markup.read text).rules .hide) := Block.exists_iff

theorem hasOverlong_iff :
    HasOverlong text ↔
      (∃ rule ∈ (Markup.read text).rules .disable, Overlong rule) ∨
        ∃ rule ∈ (Markup.read text).rules .hide, Overlong rule := Block.exists_iff

theorem ReadsOverlong.hasOverlong (h : ReadsOverlong state text) : HasOverlong text := by
  obtain ⟨block, hmeets⟩ := h
  exact ⟨block, hmeets.exists_mem⟩

theorem not_hasOverlong_of_shortNumerals (h : ShortNumerals text.points) : ¬HasOverlong text := by
  rintro ⟨block, rule, hrule, hlong⟩
  exact (Markup.shortNumerals_of_mem_rules h hrule).not_overlong hlong

theorem evaluateChoice_failsIff (hpolicy : settings.policy ≠ .abort) (text : Text) :
    Attempt.FailsIff Abort.IsOversized (ReadsOverlong state text)
      (evaluateChoice settings state text) := by
  have hblock : ∀ block, Attempt.FailsIff Abort.IsOversized
      (MeetsOverlong state ((Markup.read text).rules block))
      (Rule.block settings.policy state ((Markup.read text).body? block)) :=
    Rule.block_failsIff hpolicy (Markup.read text)
  -- the second block is read whatever the first one says
  have hboth := (hblock .disable).bind fun disabled =>
    (hblock .hide).bind_pure fun hidden =>
      ((Markup.read text).label, (⟨disabled, hidden⟩ : Verdict))
  exact .bind_of_ok (Markup.value_lift_extract text) (hboth.congr readsOverlong_iff.symm)

theorem analyseFrom_failsIff (hpolicy : settings.policy ≠ .abort) (index : Nat)
    (texts : List Text) :
    Attempt.FailsIff Abort.IsOversized (∃ text ∈ texts, ReadsOverlong state text)
      (analyseFrom settings state index texts) := by
  induction texts generalizing index with
  | nil => exact .ends [] rfl (by simp)
  | cons text texts ih =>
    refine ((evaluateChoice_failsIff hpolicy text).bind fun evaluated => ?_).congr
      (List.exists_mem_cons_iff _ text texts).symm
    -- the note on the verdict stops nothing
    exact .bind_of_ok (Attempt.value_note _) ((ih (index + 1)).bind_pure _)

/-- **What stops a prompt.** -/
theorem process_failsIff (hpolicy : settings.policy ≠ .abort) (descriptor : Descriptor) :
    Attempt.FailsIff Abort.IsOversized (∃ text ∈ descriptor.choices, ReadsOverlong state text)
      (process settings state descriptor) := by
  unfold process
  split
  · next hnil => exact .ends none rfl (by simp [hnil])
  · exact (analyseFrom_failsIff hpolicy 0 _).bind_pure _

end Prompt

/-! ## The check -/

namespace Lint

open Choice (Block Markup)
open Prompt (HasOverlong)
open Rule (Overlong)

theorem ruleFindings_failsIff (choice : Nat) (block : Block) (rules : List Text) :
    Attempt.FailsIff (fun _ => True) (∃ rule ∈ rules, Overlong rule)
      (Attempt.ofExcept (ruleFindings choice block rules)) := by
  induction rules with
  | nil => exact .ends [] rfl (by simp)
  | cons rule rules ih =>
    rw [List.exists_mem_cons_iff, ← Rule.parse_oversized_iff]
    cases hparse : Rule.parse rule with
    | ok parsed =>
      simp only [ruleFindings, hparse]
      exact ih.congr (by simp)
    | error refusal =>
      cases refusal with
      | oversized fault =>
        simp only [ruleFindings, hparse]
        exact .fails fault rfl trivial (.inl ⟨fault, rfl⟩)
      | malformed malformed =>
        -- a malformed rule is noted, and the check goes on behind it
        simp only [ruleFindings, hparse]
        exact (ih.map_ofExcept _).congr (by simp)

theorem blockFindings_failsIff (choice : Nat) (markup : Markup) (block : Block) :
    Attempt.FailsIff (fun _ => True) (∃ rule ∈ markup.rules block, Overlong rule)
      (Attempt.ofExcept (blockFindings choice markup block)) := by
  unfold blockFindings Markup.rules
  cases markup.body? block with
  | none => exact .ends [] rfl (by simp)
  | some body => exact ruleFindings_failsIff choice block (Rule.split body)

theorem choiceFindings_failsIff (choice : Nat) (text : Text) :
    Attempt.FailsIff (fun _ => True) (HasOverlong text) (choiceFindings choice text) := by
  have hblock : ∀ block, Attempt.FailsIff (fun _ => True)
      (∃ rule ∈ (Markup.read text).rules block, Overlong rule)
      (Attempt.ofExcept (blockFindings choice (Markup.read text) block)) :=
    blockFindings_failsIff choice (Markup.read text)
  refine .bind_of_ok (Markup.value_lift_extract text) ?_
  cases hmisplaced : (Markup.read text).misplaced with
  | true =>
    -- misplaced markup is found before any rule is parsed, and it has no rules
    have hnone : ¬HasOverlong text := by
      rintro ⟨block, rule, hrule, -⟩
      rw [rules_of_misplaced hmisplaced] at hrule
      cases hrule
    exact .ends _ rfl hnone
  | false =>
    have hboth := (hblock .disable).bind fun disable =>
      (hblock .hide).bind_pure fun hide =>
        disable ++ hide ++
          if (Markup.read text).hasBlocks && (Markup.read text).label.isEmpty then
            [.emptyLabel choice] else []
    exact hboth.congr Prompt.hasOverlong_iff.symm

theorem findingsFrom_failsIff (index : Nat) (texts : List Text) :
    Attempt.FailsIff (fun _ => True) (∃ text ∈ texts, HasOverlong text)
      (findingsFrom index texts) := by
  induction texts generalizing index with
  | nil => exact .ends [] rfl (by simp)
  | cons text texts ih =>
    refine ((choiceFindings_failsIff index text).bind fun first => ?_).congr
      (List.exists_mem_cons_iff _ text texts).symm
    exact (ih (index + 1)).bind_pure _

/-- **What stops the check.** -/
theorem check_failsIff (prompt : Option Text) (choices : List Text) :
    Attempt.FailsIff (fun _ => True) (∃ text ∈ choices, HasOverlong text)
      (check prompt choices) :=
  (findingsFrom_failsIff 0 choices).bind_pure _

end Lint

/-! ## All that is promised -/

namespace Prompt

open Choice (Block Markup)
open Rule (Overlong ShortNumerals)

/-- What is promised of a prompt under a policy that goes on at malformed rules. -/
structure Endures (settings : Settings) (state : Game.State) (descriptor : Descriptor) :
    Prop where
  /-- Processing ends unless some rule that is read is overlong. -/
  process_iff : (∃ result, (process settings state descriptor).value = .ok result) ↔
    ¬∃ text ∈ descriptor.choices, ReadsOverlong state text
  /-- Every session with these settings can open the prompt just then, unless the default cannot be
  reported as missing. -/
  open_iff : ∀ session : Session, session.settings = settings →
    ((∃ view, (session.openPrompt state descriptor).value.2 = .ok view) ↔
      (¬∃ text ∈ descriptor.choices, ReadsOverlong state text) ∧
        ¬Undrawable settings state descriptor)
  /-- It is such a numeral that stops a prompt, and never a malformed rule. -/
  abort_sort : ∀ abort, (process settings state descriptor).value = .error abort →
    abort.IsOversized
  failure_sort : ∀ session : Session, session.settings = settings → ∀ failure,
    (session.openPrompt state descriptor).value.2 = .error failure →
    (∃ fault, failure = .aborted (.oversized fault)) ∨ ∃ fault, failure = .oversized fault
  /-- The check ends unless some rule is overlong, be it read or not. -/
  check_iff : ∀ prompt, (∃ issues, (Lint.check prompt descriptor.choices).value = .ok issues) ↔
    ¬∃ text ∈ descriptor.choices, HasOverlong text
  /-- What the check gets over is processed, whatever the check finds. -/
  of_check : ∀ prompt issues, (Lint.check prompt descriptor.choices).value = .ok issues →
    ∃ result, (process settings state descriptor).value = .ok result
  /-- Choices whose numerals are all within the limit stop neither. -/
  of_short : (∀ text ∈ descriptor.choices, ShortNumerals text.points) →
    (∃ result, (process settings state descriptor).value = .ok result) ∧
      ∀ prompt, ∃ issues, (Lint.check prompt descriptor.choices).value = .ok issues

variable {settings : Settings} {state : Game.State} {descriptor : Descriptor}

/-- A prompt can be opened if it can be processed and drawn. -/
theorem exists_view_iff (session : Session) :
    (∃ view, (session.openPrompt state descriptor).value.2 = .ok view) ↔
      (∃ result, (process session.settings state descriptor).value = .ok result) ∧
        ¬Undrawable session.settings state descriptor := by
  rw [← openPrompt_fails_iff, value_openPrompt]
  cases (process session.settings state descriptor).value with
  | error abort => simp
  | ok result =>
    cases result with
    | none => simp
    | some context =>
      cases hview : (context.view session.settings).value <;>
        simp [hview, Except.map, Except.mapError]

/-- What stops a prompt is what stops its processing, or a number to report. -/
theorem openPrompt_error {session : Session} {failure : Failure}
    (h : (session.openPrompt state descriptor).value.2 = .error failure) :
    (∃ abort, (process session.settings state descriptor).value = .error abort ∧
        failure = .aborted abort) ∨
      ∃ fault, failure = .oversized fault := by
  rw [value_openPrompt] at h
  cases hprocess : (process session.settings state descriptor).value with
  | error abort =>
    rw [hprocess] at h
    exact .inl ⟨abort, rfl, (Except.error.inj h).symm⟩
  | ok result =>
    cases result with
    | none => simp [hprocess] at h
    | some context =>
      simp only [hprocess, mapError_map_eq_error_iff] at h
      obtain ⟨fault, -, hfailure⟩ := h
      exact .inr ⟨fault, hfailure.symm⟩

/-- **Only overlong numerals stop a lenient prompt**, in its rules or as its default. -/
theorem endures_of_lenient (hpolicy : settings.policy ≠ .abort) :
    Endures settings state descriptor := by
  have hprocess : Attempt.FailsIff _ _ (process settings state descriptor) :=
    process_failsIff hpolicy descriptor
  have hcheck : ∀ prompt, Attempt.FailsIff _ _ (Lint.check prompt descriptor.choices) :=
    fun prompt => Lint.check_failsIff prompt descriptor.choices
  -- a rule that is read is there, so a prompt without overlong rules reads none
  have hread : (¬∃ text ∈ descriptor.choices, HasOverlong text) →
      ¬∃ text ∈ descriptor.choices, ReadsOverlong state text := by
    rintro hnone ⟨text, hmem, hreads⟩
    exact hnone ⟨text, hmem, hreads.hasOverlong⟩
  refine ⟨hprocess.exists_ok_iff, ?_, fun abort => hprocess.sort_of_error, ?_,
    fun prompt => (hcheck prompt).exists_ok_iff, ?_, ?_⟩
  · rintro session rfl
    rw [exists_view_iff, hprocess.exists_ok_iff]
  · rintro session rfl failure hfailure
    rcases openPrompt_error hfailure with ⟨abort, habort, rfl⟩ | hfault
    · obtain ⟨fault, rfl⟩ := hprocess.sort_of_error habort
      exact .inl ⟨fault, rfl⟩
    · exact .inr hfault
  · intro prompt issues hissues
    have hnone := (hcheck prompt).exists_ok_iff.1 ⟨issues, hissues⟩
    exact hprocess.exists_ok_iff.2 (hread hnone)
  · intro hshort
    have hnone : ¬∃ text ∈ descriptor.choices, HasOverlong text := by
      rintro ⟨text, hmem, hlong⟩
      exact not_hasOverlong_of_shortNumerals (hshort text hmem) hlong
    exact ⟨hprocess.exists_ok_iff.2 (hread hnone), fun prompt =>
      (hcheck prompt).exists_ok_iff.2 hnone⟩

/-- One rule that no reader makes sense of, and one that compares a switch. -/
theorem endures_two_faults :
    let settings : Settings := { policy := .fail }
    let descriptor : Descriptor := { choices := ["<<[???,s[1]]>>Buy", "(([s[1]=1]))Leave"] }
    settings.policy ≠ .abort ∧ Endures settings {} descriptor ∧
      ∃ result, (process settings {} descriptor).value = .ok result := by
  intro settings descriptor
  have hpolicy : settings.policy ≠ .abort := by decide
  have hshort : ∀ text ∈ descriptor.choices, ShortNumerals text.points := by
    intro text hmem
    obtain rfl | rfl : text = "<<[???,s[1]]>>Buy" ∨ text = "(([s[1]=1]))Leave" := by
      simpa [descriptor] using hmem
    · exact Rule.shortNumerals_of_length_le (by decide)
    · exact Rule.shortNumerals_of_length_le (by decide)
  have hendures : Endures settings {} descriptor := endures_of_lenient hpolicy
  exact ⟨hpolicy, hendures, (hendures.of_short hshort).1⟩

/-! ## A numeral that is too long -/

/-- The first rule of a block is read in every state. -/
theorem readsOverlong_of_isSingle {block : Block} {text body label : Text}
    (h : Markup.IsSingle block text body label) (hcomma : .char ',' ∉ body.points)
    (hlong : Overlong body) (state : Game.State) : ReadsOverlong state text := by
  have hne : body.points ≠ [] := by
    intro hnil
    refine ShortNumerals.not_overlong (Rule.shortNumerals_of_length_le ?_) hlong
    rw [hnil]
    exact Nat.zero_le _
  refine ⟨block, ?_⟩
  rw [Markup.rules_of_isSingle h, Markup.split_of_comma_not_mem hne hcomma]
  exact Rule.meetsOverlong_cons_iff.2 (.inl hlong)

/-- Gold is compared with a number that is too long. -/
theorem readsOverlong_comparison {digits : Text.Points}
    (hdigits : ∀ p ∈ digits, Text.isDigit p = true) (hlong : Text.digitLimit < digits.length)
    (state : Game.State) :
    ReadsOverlong state (Block.disable.write ⟨.char 'g' :: .char '>' :: digits⟩ ++ "Buy") := by
  have hnot : ∀ p, Text.isDigit p = false → p ∉ digits := by
    intro p hp hmem
    rw [hdigits p hmem] at hp
    cases hp
  have hbracket := hnot (.char ']') (by decide)
  have hparen := hnot (.char '(') (by decide)
  have hcomma := hnot (.char ',') (by decide)
  refine readsOverlong_of_isSingle ⟨rfl, ?_, ?_⟩ ?_ (Rule.overlong_comparison hdigits hlong) state
  · -- the mark at the end of the block starts with a bracket
    intro hwithin
    have hmem := hwithin.subset (show .char ']' ∈ Block.disable.closer.points by decide)
    simp [hbracket] at hmem
  · rintro ⟨hwithin, -⟩
    have hmem := hwithin.subset (show .char '(' ∈ Block.hide.opener.points by decide)
    simp [hparen] at hmem
    revert hmem
    decide
  · simp [hcomma]

/-- **One digit too many.** Neither lenient policy gets over it, and nor does the check. -/
theorem not_endures_long_numeral :
    let digits : Text.Points := List.replicate 4301 (.char '1')
    let text : Text := Block.disable.write ⟨.char 'g' :: .char '>' :: digits⟩ ++ "Buy"
    (∀ policy ∈ [Rule.Policy.skip, .fail],
      (∃ fault, (process { policy := policy } {} { choices := [text] }).value =
        .error (.oversized fault)) ∧
      ¬∃ view, (Session.openPrompt ⟨{ policy := policy }, none⟩ {}
        { choices := [text] }).value.2 = .ok view) ∧
    ∃ fault, (Lint.check none [text]).value = .error fault := by
  intro digits text
  have hdigits : ∀ p ∈ digits, Text.isDigit p = true := by
    intro p hmem
    rw [(List.mem_replicate.1 hmem).2]
    decide
  have hlong : Text.digitLimit < digits.length := by
    rw [List.length_replicate]
    decide
  have hreads : ∃ text' ∈ [text], ReadsOverlong {} text' :=
    ⟨text, List.mem_singleton_self text, readsOverlong_comparison hdigits hlong {}⟩
  have hhas : ∃ text' ∈ [text], HasOverlong text' :=
    ⟨text, List.mem_singleton_self text,
      (readsOverlong_comparison hdigits hlong {}).hasOverlong⟩
  refine ⟨fun policy hmem => ?_, ?_⟩
  · have hpolicy : policy ≠ .abort := by
      rintro rfl
      revert hmem
      decide
    have hprocess : Attempt.FailsIff _ _
        (process { policy := policy } {} { choices := [text] }) := process_failsIff hpolicy _
    obtain ⟨abort, habort, fault, rfl⟩ := hprocess.exists_error hreads
    refine ⟨⟨fault, habort⟩, ?_⟩
    rw [exists_view_iff]
    exact fun hview => hprocess.exists_ok_iff.1 hview.1 hreads
  · obtain ⟨fault, hfault, -⟩ := (Lint.check_failsIff none [text]).exists_error hhas
    exact ⟨fault, hfault⟩

end Prompt

end GatedPrompt
