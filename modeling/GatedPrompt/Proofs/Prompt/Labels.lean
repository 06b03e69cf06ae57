import GatedPrompt.Proofs.Choice.Layout
import GatedPrompt.Proofs.Prompt.Tables

/-!
# Labels in the menu

A label is replaced by the text that the table of substitutions has for it, and a disabled choice
gets a marker in front. The same field of a record holds the label before and after; this module
says what it holds in the end.

* `Stands` — the text that a table puts in the place of a label: the one of the first substitution
  with exactly this code, or else the label itself. It is looked up once, so a replacement that is a
  code in its turn stands as it is (`stands_iff`);
* `parts_of_evaluateChoice` — label and verdict of a choice come from the parts of its markup;
* `Labelled` — what is promised of labels: what they are, and that nothing but labels depends on the
  table;
* `labelled_of_process` — so it is in every processed prompt.
-/

namespace GatedPrompt.Prompt

/-- The text that a table of substitutions puts in the place of a label. -/
inductive Stands (table : List Substitution) (disabled : Bool) (label : Text) : Text → Prop where
  | replaced {before after : List Substitution} {substitution : Substitution}
      (split : table = before ++ substitution :: after)
      (first : ∀ other ∈ before, other.code ≠ label) (code : substitution.code = label) :
      Stands table disabled label
        (if disabled then substitution.disabledText else substitution.defaultText)
  | kept (absent : ∀ substitution ∈ table, substitution.code ≠ label) :
      Stands table disabled label label

/-- What is promised of the labels of a processed prompt. -/
structure Labelled (settings : Settings) (state : Game.State) (descriptor : Descriptor)
    (context : Context) : Prop where
  /-- The label of a choice, hidden ones included, is the text that stands for the label as it was
  written, behind the marker if the choice is disabled. -/
  label : ∀ (i : Nat) (text : Text), descriptor.choices[i]? = some text →
    ∃ entry shown, context.entries[i]? = some entry ∧ entry.rawText = text ∧
      (Rule.block settings.policy state (Choice.Markup.read text).disable).value =
        .ok entry.disabled ∧
      (Rule.block settings.policy state (Choice.Markup.read text).hide).value =
        .ok entry.hidden ∧
      (∀ other, Stands settings.substitutions entry.disabled (Choice.Markup.read text).label other ↔
        other = shown) ∧
      entry.label = (if entry.disabled then disabledMarker else "") ++ shown
  /-- Under any other table the prompt is the same but for its labels, and so is all that follows
  from it. -/
  other_table : ∀ table, ∃ context',
    (process (settings.withTable table) state descriptor).value = .ok (some context') ∧
    (process (settings.withTable table) state descriptor).notices =
      (process settings state descriptor).notices ∧
    context'.unlabelled = context.unlabelled ∧
    context'.backMapping = context.backMapping ∧
    context'.disabledRows = context.disabledRows ∧
    context'.initialRow (settings.withTable table) = context.initialRow settings ∧
    (∀ row, context'.confirm (settings.withTable table) row = context.confirm settings row) ∧
    context'.cancel (settings.withTable table) = context.cancel settings
  /-- Whole runs go on alike under any other table, but for the labels of their views. -/
  runs : ∀ table game requests,
    ((Run.start (settings.withTable table) game).steps requests).2.map replyUnlabelled =
      ((Run.start settings game).steps requests).2.map replyUnlabelled

/-! ## The text that stands for a label -/

/-- What stands for a label is decided by the first substitution that is found for it. -/
theorem stands_iff {settings : Settings} {disabled : Bool} {label text : Text} :
    Stands settings.substitutions disabled label text ↔
      text = (settings.substitution? label).elim label fun substitution =>
        substitution.textFor disabled := by
  unfold Settings.substitution?
  -- the table is searched from the front, so what is found has no other one with the code before it
  constructor
  · intro h
    cases h with
    | @replaced before after substitution split first code =>
      have hfound : settings.substitutions.find? (fun other => other.code == label) =
          some substitution := by
        rw [List.find?_eq_some_iff_append]
        refine ⟨by simp [code], before, after, split, fun other hother => ?_⟩
        simpa using first other hother
      rw [hfound]
      rfl
    | kept absent =>
      have hnone : settings.substitutions.find? (fun other => other.code == label) = none := by
        rw [List.find?_eq_none]
        intro other hother
        simpa using absent other hother
      rw [hnone]
      rfl
  · rintro rfl
    cases hfound : settings.substitutions.find? fun other => other.code == label with
    | none =>
      refine .kept fun other hother => ?_
      simpa using List.find?_eq_none.1 hfound other hother
    | some substitution =>
      obtain ⟨hcode, before, after, hsplit, hbefore⟩ := List.find?_eq_some_iff_append.1 hfound
      exact .replaced hsplit (fun other hother => by simpa using hbefore other hother)
        (by simpa using hcode)

theorem renderLabel_eq (settings : Settings) (disabled : Bool) (label : Text) :
    renderLabel settings disabled label = (if disabled then disabledMarker else "") ++
      (settings.substitution? label).elim label fun substitution =>
        substitution.textFor disabled := by
  unfold renderLabel
  cases settings.substitution? label <;> cases disabled <;> rfl

/-- The label and the verdict come from the parts of the markup. -/
theorem parts_of_evaluateChoice {settings : Settings} {state : Game.State} {text label : Text}
    {verdict : Verdict}
    (h : (evaluateChoice settings state text).value = .ok (label, verdict)) :
    label = (Choice.Markup.read text).label ∧
      (Rule.block settings.policy state (Choice.Markup.read text).disable).value =
        .ok verdict.disabled ∧
      (Rule.block settings.policy state (Choice.Markup.read text).hide).value =
        .ok verdict.hidden := by
  have hextract := Choice.Markup.value_lift_extract (ε := Rule.Abort) text
  rw [evaluateChoice, Attempt.value_bind_of_ok hextract, Attempt.value_bind_eq_ok_iff] at h
  obtain ⟨disabled, hdisabled, h⟩ := h
  rw [Attempt.value_bind_eq_ok_iff] at h
  obtain ⟨hidden, hhidden, h⟩ := h
  obtain ⟨rfl, rfl⟩ := Prod.mk.inj (Except.ok.inj h)
  exact ⟨rfl, hdisabled, hhidden⟩

/-! ## All that is promised -/

/-- **Labels in the menu.** They are what the table puts in the place of the labels as they were
written, and nothing but labels depends on the table. -/
theorem labelled_of_process {settings : Settings} {state : Game.State} {descriptor : Descriptor}
    {context : Context} (h : (process settings state descriptor).value = .ok (some context)) :
    Labelled settings state descriptor context := by
  have hp : Processed settings state descriptor context := processed_of_process h
  refine ⟨?_, ?_, ?_⟩
  · intro i text htext
    obtain ⟨entry, label, hentry, hrawText, hevaluated, hlabel⟩ :=
      hp.records.exists_of_getElem? htext
    obtain ⟨rfl, hdisabled, hhidden⟩ := parts_of_evaluateChoice hevaluated
    rw [renderLabel_eq] at hlabel
    exact ⟨entry, _, hentry, hrawText, hdisabled, hhidden, fun other => stands_iff, hlabel⟩
  · intro table
    obtain ⟨hnotices, hsame⟩ := process_withTable settings state table descriptor
    rw [h] at hsame
    generalize hprocess : (process (settings.withTable table) state descriptor).value = ended
      at hsame
    cases hsame with
    | @shown _ context' same =>
      exact ⟨context', rfl, hnotices, same, Context.backMapping_eq same,
        Context.disabledRows_eq same, Context.initialRow_eq same, Context.confirm_eq same,
        Context.cancel_eq same⟩
  · intro table game requests
    -- at the start no prompt is active, and the two runs differ in the table alone
    have hstart : (Run.start settings game).SameBut table
        (Run.start (settings.withTable table) game) := ⟨⟨rfl, rfl⟩, rfl⟩
    exact Run.replies_withTable hstart requests

/-- A code is in the table twice, replacements are codes, and a code stands inside a longer
label. -/
theorem labelled_chained_codes :
    let settings : Settings :=
      { substitutions := [⟨"A", "B", "A"⟩, ⟨"A", "X", "X"⟩, ⟨"B", "C", "D"⟩] }
    let state : Game.State := { gold := 5 }
    let descriptor : Descriptor := ⟨["A", "<<[g>3]>>A", "(([g>3]))B", "AB"], 2, 1⟩
    let context : Context := ⟨descriptor,
      [⟨0, "A", "B", false, false, some 0⟩,
        ⟨1, "<<[g>3]>>A", "\\C[7]A", false, true, some 1⟩,
        ⟨2, "(([g>3]))B", "C", true, false, none⟩,
        ⟨3, "AB", "AB", false, false, some 2⟩]⟩
    (process settings state descriptor).value = .ok (some context) ∧
      Labelled settings state descriptor context := by
  intro settings state descriptor context
  have hprocess : (process settings state descriptor).value = .ok (some context) := by
    decide +kernel
  exact ⟨hprocess, labelled_of_process hprocess⟩

end GatedPrompt.Prompt
