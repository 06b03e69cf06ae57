import Mathlib.Data.List.Forall2
import GatedPrompt.Proofs.Choice.Layout
import GatedPrompt.Proofs.Prompt.Menu
import GatedPrompt.Proofs.Rule.Policies

/-!
# Prompts under different policies

The policy on malformed rules decides nothing about prompts whose rules are all well formed as far
as they are read. For other prompts the strict policy tells the first malformed rule that the
lenient ones warn of, and of these the one that fails lists hides and disables less.

* `Settings.under` — the same settings with another policy;
* `process_stopsAt`, `process_inStep` — how processing a prompt differs between policies;
* `Entry.Restrains` — a record is hidden or disabled where another one for the same choice is;
* `policiesAgree_process` — what is common to the three policies, and what is not.
-/

namespace GatedPrompt.Prompt

open Rule (Abort Malformed Policy StopsAt InStep)

/-- The same settings with another policy on malformed rules. -/
def Settings.under (settings : Settings) (policy : Policy) : Settings :=
  { settings with policy := policy }

/-- What a lenient policy says behind the report of a malformed rule. -/
def consequence : Policy → Text
  | .skip => " Skipping rule."
  | .fail => " Treating the rule list as false."
  | .abort => ""

/-- A record is hidden or disabled where another record for the same choice is. -/
structure Entry.Restrains (strong weak : Entry) : Prop where
  index_eq : strong.index = weak.index
  rawText_eq : strong.rawText = weak.rawText
  hidden : weak.hidden = true → strong.hidden = true
  disabled : weak.disabled = true → strong.disabled = true

variable {settings : Settings} {state : Game.State} {policy : Policy}
  {warning : Malformed → Notice}

/-! ## Up to the first warning -/

theorem reports_extract (text : Text) : reports (Choice.Markup.extract text).notices = [] := by
  rw [Choice.Markup.notices_extract]
  split <;> rfl

theorem evaluateChoice_stopsAt (hpolicy : policy.IsLenient warning) (text : Text) :
    StopsAt warning (evaluateChoice (settings.under .abort) state text)
      (evaluateChoice (settings.under policy) state text) := by
  have hextract : StopsAt warning
      (ExceptT.lift (Choice.Markup.extract text)) (ExceptT.lift (Choice.Markup.extract text)) :=
    .of_ok (Attempt.value_lift _) (by rw [Attempt.notices_lift, reports_extract])
  refine hextract.bind fun markup => ?_
  refine (Rule.block_stopsAt hpolicy state markup.disable).bind fun disabled => ?_
  exact (Rule.block_stopsAt hpolicy state markup.hide).bind fun hidden => .pure _

theorem analyseFrom_stopsAt (hpolicy : policy.IsLenient warning) (index : Nat)
    (texts : List Text) :
    StopsAt warning (analyseFrom (settings.under .abort) state index texts)
      (analyseFrom (settings.under policy) state index texts) := by
  induction texts generalizing index with
  | nil => exact .pure []
  | cons text texts ih =>
    refine (evaluateChoice_stopsAt hpolicy text).bind fun (label, verdict) => ?_
    have hverdict : StopsAt warning
        (Attempt.note (.verdict index label verdict.disabled verdict.hidden))
        (Attempt.note (.verdict index label verdict.disabled verdict.hidden)) :=
      .of_ok (Attempt.value_note _) rfl
    exact hverdict.bind fun _ => (ih (index + 1)).bind fun entries => .pure _

/-- **Giving up where there is a first warning.** -/
theorem process_stopsAt (hpolicy : policy.IsLenient warning) (descriptor : Descriptor) :
    StopsAt warning (process (settings.under .abort) state descriptor)
      (process (settings.under policy) state descriptor) := by
  unfold process
  split
  · exact .pure none
  · exact (analyseFrom_stopsAt hpolicy 0 _).bind fun entries => .pure _

/-! ## Two lenient policies -/

theorem evaluateChoice_inStep (text : Text) :
    InStep (fun skipped failed => skipped.1 = failed.1 ∧
        (failed.2.disabled = true → skipped.2.disabled = true) ∧
        (failed.2.hidden = true → skipped.2.hidden = true))
      (evaluateChoice (settings.under .skip) state text)
      (evaluateChoice (settings.under .fail) state text) := by
  have hextract : InStep (fun markup markup' => markup = markup')
      (ExceptT.lift (Choice.Markup.extract text)) (ExceptT.lift (Choice.Markup.extract text)) :=
    ⟨rfl, .inl ⟨_, _, rfl, rfl, rfl⟩⟩
  refine hextract.bind ?_
  rintro markup _ rfl
  refine (Rule.block_inStep state markup.disable).bind fun _ _ hdisabled => ?_
  exact (Rule.block_inStep state markup.hide).bind fun _ _ hhidden =>
    .pure ⟨rfl, hdisabled, hhidden⟩

theorem analyseFrom_inStep (index : Nat) (texts : List Text) :
    InStep (List.Forall₂ Entry.Restrains)
      (analyseFrom (settings.under .skip) state index texts)
      (analyseFrom (settings.under .fail) state index texts) := by
  induction texts generalizing index with
  | nil => exact .pure .nil
  | cons text texts ih =>
    refine (evaluateChoice_inStep text).bind ?_
    rintro ⟨label, verdict⟩ ⟨_, verdict'⟩ ⟨rfl, hdisabled, hhidden⟩
    -- The notes on the verdicts may differ, but they report no rules.
    have hverdict : InStep (fun _ _ => True)
        (Attempt.note (.verdict index label verdict.disabled verdict.hidden) :
          Attempt Abort Unit)
        (Attempt.note (.verdict index label verdict'.disabled verdict'.hidden)) :=
      ⟨rfl, .inl ⟨(), (), rfl, rfl, trivial⟩⟩
    refine hverdict.bind fun _ _ _ => (ih (index + 1)).bind fun entries entries' hentries => ?_
    exact .pure (.cons ⟨rfl, rfl, hhidden, hdisabled⟩ hentries)

/-- Rows and rendered labels do not change what a record restrains. -/
theorem restrains_render {entries entries' : List Entry}
    (h : List.Forall₂ Entry.Restrains entries entries') (row row' : Nat) :
    List.Forall₂ Entry.Restrains
      ((assignRowsFrom row entries).map (render settings))
      ((assignRowsFrom row' entries').map (render settings)) := by
  -- The weak records may use up more rows, so the two lists are numbered apart.
  induction h generalizing row row' with
  | nil => exact .nil
  | @cons entry entry' entries entries' hentry hentries ih =>
    obtain ⟨hindex, hrawText, hhidden, hdisabled⟩ := hentry
    cases hstrong : entry.hidden with
    | true =>
      cases hweak : entry'.hidden with
      | true =>
        simp only [assignRowsFrom, hstrong, hweak, if_true, List.map_cons]
        exact .cons ⟨hindex, hrawText, hhidden, hdisabled⟩ (ih row row')
      | false =>
        simp only [assignRowsFrom, hstrong, hweak, if_true, List.map_cons, Bool.false_eq_true,
          if_false]
        exact .cons ⟨hindex, hrawText, (fun h => nomatch h), hdisabled⟩ (ih row (row' + 1))
    | false =>
      have hweak : entry'.hidden = false := by
        cases hweak : entry'.hidden with
        | false => rfl
        | true => exact absurd (hhidden hweak) (by simp [hstrong])
      simp only [assignRowsFrom, hstrong, hweak, List.map_cons, Bool.false_eq_true, if_false]
      exact .cons ⟨hindex, hrawText, (fun h => nomatch h), hdisabled⟩ (ih (row + 1) (row' + 1))

/-- **Going on in two ways.** -/
theorem process_inStep (descriptor : Descriptor) :
    InStep (fun skipped failed => List.Forall₂ Entry.Restrains
        (skipped.elim [] Context.entries) (failed.elim [] Context.entries))
      (process (settings.under .skip) state descriptor)
      (process (settings.under .fail) state descriptor) := by
  unfold process
  split
  · exact .pure .nil
  · exact (analyseFrom_inStep 0 _).bind fun entries entries' h => .pure (restrains_render h 0 0)

/-! ## The rows of the menu -/

theorem Processed.backMapping_eq {descriptor : Descriptor} {context : Context}
    (h : Processed settings state descriptor context) :
    context.backMapping = (context.entries.filter fun entry => !entry.hidden).map Entry.index := by
  rw [Context.backMapping, Context.visible]
  congr 1
  exact List.filter_congr fun entry hmem => h.isVisible_eq hmem

theorem sublist_of_restrains {entries entries' : List Entry}
    (h : List.Forall₂ Entry.Restrains entries entries') :
    ((entries.filter fun entry => !entry.hidden).map Entry.index).Sublist
      ((entries'.filter fun entry => !entry.hidden).map Entry.index) := by
  -- A choice that only the strong records hide is left out of the smaller menu.
  induction h with
  | nil => exact .slnil
  | @cons entry entry' entries entries' hentry hentries ih =>
    cases hstrong : entry.hidden with
    | true =>
      rw [List.filter_cons_of_neg (by simp [hstrong]), List.filter_cons]
      split
      · exact ih.cons _
      · exact ih
    | false =>
      have hweak : entry'.hidden = false := by
        cases hweak : entry'.hidden with
        | false => rfl
        | true => exact absurd (hentry.hidden hweak) (by simp [hstrong])
      rw [List.filter_cons_of_pos (by simp [hstrong]), List.filter_cons_of_pos (by simp [hweak]),
        List.map_cons, List.map_cons, hentry.index_eq]
      exact ih.cons_cons _

/-! ## All that is promised -/

/-- What is promised of a prompt under the three policies. -/
structure PoliciesAgree (settings : Settings) (state : Game.State)
    (descriptor : Descriptor) : Prop where
  /-- If the strict policy comes to an end, all policies do, in the same way and without a
  report. -/
  same : ∀ result, (process (settings.under .abort) state descriptor).value = .ok result →
    ∀ policy,
      process (settings.under policy) state descriptor =
          process (settings.under .abort) state descriptor ∧
        reports (process (settings.under policy) state descriptor).notices = []
  /-- If the strict policy gives up, its message starts the first warning of the other policies. -/
  stopped : ∀ malformed,
    (process (settings.under .abort) state descriptor).value = .error (.malformed malformed) →
    ∀ policy, policy ≠ .abort →
      ∃ before notice after,
        (process (settings.under policy) state descriptor).notices = before ++ notice :: after ∧
        reports before = [] ∧ notice.report? = some malformed ∧ notice.level = .warning ∧
        notice.message = (Abort.malformed malformed).message ++ consequence policy
  /-- What is hidden or disabled if lists are failed is so if rules are skipped. -/
  restrained : ∀ skipped failed,
    (process (settings.under .skip) state descriptor).value = .ok (some skipped) →
    (process (settings.under .fail) state descriptor).value = .ok (some failed) →
    List.Forall₂ Entry.Restrains skipped.entries failed.entries ∧
      skipped.backMapping.Sublist failed.backMapping
  /-- Both lenient policies report the same malformed rules, in the same order. -/
  reports_eq : reports (process (settings.under .skip) state descriptor).notices =
    reports (process (settings.under .fail) state descriptor).notices

theorem exists_isLenient (hpolicy : policy ≠ .abort) : ∃ warning, policy.IsLenient warning := by
  cases policy with
  | skip => exact ⟨_, .skip⟩
  | fail => exact ⟨_, .fail⟩
  | abort => exact absurd rfl hpolicy

variable {descriptor : Descriptor}

theorem eq_of_lenient (hpolicy : policy.IsLenient warning) {result : Option Context}
    (h : (process (settings.under .abort) state descriptor).value = .ok result) :
    process (settings.under policy) state descriptor =
        process (settings.under .abort) state descriptor ∧
      reports (process (settings.under .abort) state descriptor).notices = [] := by
  have hstops : StopsAt warning (process (settings.under .abort) state descriptor)
      (process (settings.under policy) state descriptor) := process_stopsAt hpolicy descriptor
  cases hstops with
  | never same quiet _ => exact ⟨same, quiet⟩
  | first malformed more value _ _ =>
    rw [h] at value
    cases value

theorem exists_first_warning (hpolicy : policy.IsLenient warning) {malformed : Malformed}
    (h : (process (settings.under .abort) state descriptor).value =
      .error (.malformed malformed)) :
    ∃ before after, reports before = [] ∧
      (process (settings.under policy) state descriptor).notices =
        before ++ warning malformed :: after := by
  have hstops : StopsAt warning (process (settings.under .abort) state descriptor)
      (process (settings.under policy) state descriptor) := process_stopsAt hpolicy descriptor
  cases hstops with
  | never _ _ not_malformed => exact absurd h (not_malformed malformed)
  | first malformed' more value quiet notices =>
    obtain rfl : malformed' = malformed :=
      Abort.malformed.inj (Except.error.inj (value.symm.trans h))
    exact ⟨_, more, quiet, notices⟩

theorem restrains_of_process {skipped failed : Context}
    (hskipped : (process (settings.under .skip) state descriptor).value = .ok (some skipped))
    (hfailed : (process (settings.under .fail) state descriptor).value = .ok (some failed)) :
    List.Forall₂ Entry.Restrains skipped.entries failed.entries := by
  have hinStep : InStep (fun skipped failed => List.Forall₂ Entry.Restrains
        (skipped.elim [] Context.entries) (failed.elim [] Context.entries))
      (process (settings.under .skip) state descriptor)
      (process (settings.under .fail) state descriptor) := process_inStep descriptor
  rcases hinStep.ends with ⟨result, result', h, h', hrelated⟩ | ⟨abort, h, -⟩
  · obtain rfl : result = some skipped := Except.ok.inj (h.symm.trans hskipped)
    obtain rfl : result' = some failed := Except.ok.inj (h'.symm.trans hfailed)
    exact hrelated
  · rw [hskipped] at h
    cases h

/-- **The policies differ on malformed rules only.** -/
theorem policiesAgree_process (settings : Settings) (state : Game.State)
    (descriptor : Descriptor) : PoliciesAgree settings state descriptor := by
  refine ⟨?_, ?_, ?_, (process_inStep descriptor).reports_eq⟩
  · intro result hresult policy
    have hquiet : reports (process (settings.under .abort) state descriptor).notices = [] :=
      (eq_of_lenient .skip hresult).2
    by_cases hpolicy : policy = .abort
    · subst hpolicy
      exact ⟨rfl, hquiet⟩
    · obtain ⟨warning, hwarning⟩ := exists_isLenient hpolicy
      have hsame := (eq_of_lenient hwarning hresult).1
      exact ⟨hsame, hsame ▸ hquiet⟩
  · intro malformed hmalformed policy hpolicy
    obtain ⟨warning, hwarning⟩ := exists_isLenient hpolicy
    obtain ⟨before, after, hquiet, hnotices⟩ := exists_first_warning hwarning hmalformed
    refine ⟨before, warning malformed, after, hnotices, hquiet, ?_⟩
    cases hwarning with
    | skip => exact ⟨rfl, rfl, rfl⟩
    | fail => exact ⟨rfl, rfl, rfl⟩
  · intro skipped failed hskipped hfailed
    have hrestrains := restrains_of_process hskipped hfailed
    refine ⟨hrestrains, ?_⟩
    rw [(processed_of_process hskipped).backMapping_eq,
      (processed_of_process hfailed).backMapping_eq]
    exact sublist_of_restrains hrestrains

end GatedPrompt.Prompt
