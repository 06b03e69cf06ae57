import GatedPrompt.Proofs.Choice.Rules
import GatedPrompt.Proofs.Prompt.Menu
import GatedPrompt.Proofs.Rule.Policies

/-!
# What a run can report

Whatever the policy, a run of a prompt fails and warns for reasons that can be found in its choices:
a rule that is refused or markup in the wrong place.

* `Confined` — all failures and all notices of a computation are of given sorts, which is kept when
  computations are put in sequence;
* `Refuses` — some rule in the choices is refused;
* `Arises` — a notice that choices give reason for;
* `process_confined` — a run of a prompt gives up over a refused rule only, and gives no notice
  without a reason;
* `Blames` — a run gives up over a malformed rule or warns of it; it is a rule in the choices
  (`refuses_of_blames`);
* `Processed.exists_entry_of_misplaced` — the record of a choice with misplaced markup.
-/

namespace GatedPrompt

/-- All failures and all notices of a computation are of given sorts. -/
structure Attempt.Confined {ε α : Type} (Fails : ε → Prop) (Gives : Notice → Prop)
    (x : Attempt ε α) : Prop where
  fails : ∀ e, x.value = .error e → Fails e
  gives : ∀ notice ∈ x.notices, Gives notice

namespace Attempt.Confined

variable {ε α β : Type} {Fails : ε → Prop} {Gives Gives' : Notice → Prop} {x : Attempt ε α}

theorem of_ok {a : α} (hvalue : x.value = .ok a) (hgives : ∀ notice ∈ x.notices, Gives notice) :
    Confined Fails Gives x := by
  refine ⟨fun e h => ?_, hgives⟩
  rw [hvalue] at h
  cases h

theorem pure (a : α) : Confined Fails Gives (Pure.pure a : Attempt ε α) :=
  .of_ok rfl (fun _ h => nomatch h)

theorem throw {e : ε} (h : Fails e) : Confined Fails Gives (MonadExcept.throw e : Attempt ε α) := by
  refine ⟨fun e' h' => ?_, fun _ h' => nomatch h'⟩
  obtain rfl : e = e' := Except.error.inj h'
  exact h

theorem note {notice : Notice} (h : Gives notice) :
    Confined Fails Gives (Attempt.note notice : Attempt ε Unit) :=
  .of_ok (Attempt.value_note notice) fun _ hmem => List.mem_singleton.1 hmem ▸ h

theorem bind (h : Confined Fails Gives x) {f : α → Attempt ε β}
    (hf : ∀ a, x.value = .ok a → Confined Fails Gives (f a)) : Confined Fails Gives (x >>= f) := by
  cases hvalue : x.value with
  | error e =>
    -- The second part does not run.
    refine ⟨fun e' h' => ?_, ?_⟩
    · obtain rfl : e = e' :=
        Except.error.inj ((Attempt.value_bind_of_error hvalue f).symm.trans h')
      exact h.fails e hvalue
    · rw [Attempt.notices_bind_of_error hvalue]
      exact h.gives
  | ok a =>
    obtain ⟨hfails, hgives⟩ := hf a hvalue
    refine ⟨fun e h' => hfails e ((Attempt.value_bind_of_ok hvalue f).symm.trans h'), ?_⟩
    intro notice hmem
    rw [Attempt.notices_bind_of_ok hvalue, List.mem_append] at hmem
    exact hmem.elim (h.gives notice) (hgives notice)

theorem imp (h : Confined Fails Gives x) (hgives : ∀ notice, Gives notice → Gives' notice) :
    Confined Fails Gives' x :=
  ⟨h.fails, fun notice hmem => hgives notice (h.gives notice hmem)⟩

end Attempt.Confined

/-! ## Lists and blocks of rules -/

namespace Rule

/-- Why a rule text has no answer, where that made a list of rules give up. -/
def Abort.refusal : Abort → Refusal
  | malformed m => .malformed m
  | oversized fault => .oversized fault

/-- A notice reports a malformed rule of a given sort. -/
def Reports (Due : Refusal → Prop) (notice : Notice) : Prop :=
  ∃ malformed, notice.report? = some malformed ∧ Due (.malformed malformed)

variable {Due : Refusal → Prop} {state : Game.State}

theorem conjunctionFrom_confined (policy : Policy) (sound : Bool) {rules : List Text}
    (h : ∀ rule ∈ rules, ∀ refusal, evaluate state rule = .error refusal → Due refusal) :
    Attempt.Confined (fun abort => Due abort.refusal) (Reports Due)
      (conjunctionFrom policy state sound rules) := by
  -- The state of the list so far makes no difference to what the rules behind can say.
  induction rules generalizing sound with
  | nil => exact .pure sound
  | cons rule rules ih =>
    have hothers : ∀ sound, Attempt.Confined (fun abort => Due abort.refusal) (Reports Due)
        (conjunctionFrom policy state sound rules) :=
      fun sound => ih sound fun other hmem => h other (List.mem_cons_of_mem rule hmem)
    cases hevaluate : evaluate state rule with
    | ok truth =>
      cases truth with
      | true =>
        simp only [conjunctionFrom, hevaluate]
        exact hothers sound
      | false =>
        simp only [conjunctionFrom, hevaluate]
        exact .pure false
    | error refusal =>
      have hdue : Due refusal := h rule List.mem_cons_self refusal hevaluate
      cases refusal with
      | oversized fault =>
        simp only [conjunctionFrom, hevaluate]
        exact .throw hdue
      | malformed malformed =>
        simp only [conjunctionFrom, hevaluate]
        cases policy with
        | abort => exact .throw hdue
        | fail =>
          have hreports : Reports Due (.failedList malformed) := ⟨malformed, rfl, hdue⟩
          exact (Attempt.Confined.note hreports).bind fun _ _ => hothers false
        | skip =>
          have hreports : Reports Due (.skippedRule malformed) := ⟨malformed, rfl, hdue⟩
          exact (Attempt.Confined.note hreports).bind fun _ _ => hothers sound

theorem block_confined (policy : Policy) (markup : Choice.Markup) (block : Choice.Block)
    (h : ∀ rule ∈ markup.rules block, ∀ refusal,
      evaluate state rule = .error refusal → Due refusal) :
    Attempt.Confined (fun abort => Due abort.refusal) (Reports Due)
      (Rule.block policy state (markup.body? block)) := by
  unfold Choice.Markup.rules at h
  cases hbody : markup.body? block with
  | none => exact .pure false
  | some body =>
    rw [hbody] at h
    exact conjunctionFrom_confined policy true h

end Rule

/-! ## Choices and prompts -/

namespace Prompt

open Choice (Block Markup)

/-- Some rule in the choices is refused in a state. -/
def Refuses (state : Game.State) (choices : List Text) (refusal : Rule.Refusal) : Prop :=
  ∃ text ∈ choices, ∃ block, ∃ rule ∈ (Markup.read text).rules block,
    Rule.evaluate state rule = .error refusal

/-- A notice that choices give reason for in a state. -/
inductive Arises (state : Game.State) (choices : List Text) : Notice → Prop where
  | verdict (index : Nat) (label : Text) (disabled hidden : Bool) :
      Arises state choices (.verdict index label disabled hidden)
  | misplaced {text : Text} (mem : text ∈ choices)
      (misplaced : (Markup.read text).misplaced = true) :
      Arises state choices (.misplacedMarkup text)
  | report {notice : Notice}
      (reports : Rule.Reports (Refuses state choices) notice) : Arises state choices notice

variable {settings : Settings} {state : Game.State} {choices : List Text}

theorem evaluateChoice_of_misplaced {text : Text} (h : (Markup.read text).misplaced = true) :
    (evaluateChoice settings state text).value = .ok (text, ⟨false, false⟩) := by
  have hextract : Attempt.value (ExceptT.lift (Markup.extract text) : Attempt Rule.Abort _) =
      .ok (Markup.misplacedIn text) := by
    rw [Attempt.value_lift, Markup.value_extract, Markup.eq_of_misplaced h]
  rw [evaluateChoice, Attempt.value_bind_of_ok hextract]
  -- Without blocks, no rule is read.
  rfl

theorem evaluateChoice_confined {text : Text} (hmem : text ∈ choices) :
    Attempt.Confined (fun abort => Refuses state choices abort.refusal) (Arises state choices)
      (evaluateChoice settings state text) := by
  have hextract : Attempt.Confined (fun abort : Rule.Abort => Refuses state choices abort.refusal)
      (Arises state choices) (ExceptT.lift (Markup.extract text)) := by
    refine .of_ok (Attempt.value_lift _) fun notice hnotice => ?_
    rw [Attempt.notices_lift, Markup.notices_extract] at hnotice
    split at hnotice
    · next hmisplaced =>
      obtain rfl := List.mem_singleton.1 hnotice
      exact .misplaced hmem hmisplaced
    · cases hnotice
  refine hextract.bind fun markup hmarkup => ?_
  obtain rfl : Markup.read text = markup := by
    rw [Attempt.value_lift, Markup.value_extract] at hmarkup
    exact Except.ok.inj hmarkup
  have hblock : ∀ block, Attempt.Confined (fun abort => Refuses state choices abort.refusal)
      (Arises state choices)
      (Rule.block settings.policy state ((Markup.read text).body? block)) := by
    intro block
    have hrefuses : ∀ rule ∈ (Markup.read text).rules block, ∀ refusal,
        Rule.evaluate state rule = .error refusal → Refuses state choices refusal :=
      fun rule hrule _ h => ⟨text, hmem, block, rule, hrule, h⟩
    exact (Rule.block_confined settings.policy _ block hrefuses).imp fun _ => .report
  exact (hblock .disable).bind fun _ _ => (hblock .hide).bind fun _ _ => .pure _

theorem analyseFrom_confined (index : Nat) {texts : List Text}
    (h : ∀ text ∈ texts, text ∈ choices) :
    Attempt.Confined (fun abort => Refuses state choices abort.refusal) (Arises state choices)
      (analyseFrom settings state index texts) := by
  induction texts generalizing index with
  | nil => exact .pure []
  | cons text texts ih =>
    have htext : text ∈ choices := h text List.mem_cons_self
    have htexts := ih (index + 1) fun other hmem => h other (List.mem_cons_of_mem text hmem)
    refine (evaluateChoice_confined htext).bind fun (label, verdict) _ => ?_
    have hverdict : Arises state choices (.verdict index label verdict.disabled verdict.hidden) :=
      .verdict ..
    exact (Attempt.Confined.note hverdict).bind fun _ _ => htexts.bind fun _ _ => .pure _

/-- **Reasons in the choices.** Under every policy a run of a prompt gives up over a refused rule
only, and gives no notice without a reason. -/
theorem process_confined (settings : Settings) (state : Game.State) (descriptor : Descriptor) :
    Attempt.Confined (fun abort => Refuses state descriptor.choices abort.refusal)
      (Arises state descriptor.choices) (process settings state descriptor) := by
  unfold process
  split
  · exact .pure none
  · exact (analyseFrom_confined 0 fun _ hmem => hmem).bind fun _ _ => .pure _

/-- A run gives up over a malformed rule or warns of it. -/
def Blames {α : Type} (run : Attempt Rule.Abort α) (malformed : Rule.Malformed) : Prop :=
  run.value = .error (.malformed malformed) ∨ malformed ∈ reports run.notices

variable {descriptor : Descriptor}

theorem refuses_of_blames {malformed : Rule.Malformed}
    (h : Blames (process settings state descriptor) malformed) :
    Refuses state descriptor.choices (.malformed malformed) := by
  have hconfined := process_confined settings state descriptor
  rcases h with herror | hreported
  · exact hconfined.fails _ herror
  · obtain ⟨notice, hmem, hreport⟩ := List.mem_filterMap.1 hreported
    -- Only the two warnings of rules report one.
    cases hconfined.gives notice hmem with
    | verdict => cases hreport
    | misplaced => cases hreport
    | report reports =>
      obtain ⟨malformed', hreport', hrefuses⟩ := reports
      obtain rfl : malformed = malformed' := Option.some.inj (hreport.symm.trans hreport')
      exact hrefuses

theorem misplaced_of_mem_notices {text : Text}
    (h : .misplacedMarkup text ∈ (process settings state descriptor).notices) :
    text ∈ descriptor.choices ∧ (Markup.read text).misplaced = true := by
  have harises := (process_confined settings state descriptor).gives _ h
  cases harises with
  | misplaced mem misplaced => exact ⟨mem, misplaced⟩
  | report reports =>
    obtain ⟨malformed, hreport, -⟩ := reports
    cases hreport

/-- A choice with misplaced markup is shown as it is, but for a substitution of its label. -/
theorem Processed.exists_entry_of_misplaced {context : Context}
    (h : Processed settings state descriptor context) {index : Nat} {text : Text}
    (htext : descriptor.choices[index]? = some text)
    (hmisplaced : (Markup.read text).misplaced = true) :
    ∃ entry, context.entries[index]? = some entry ∧ entry.rawText = text ∧
      entry.hidden = false ∧ entry.disabled = false ∧
      entry.label = renderLabel settings false text := by
  obtain ⟨entry, label, hentry, hrawText, hevaluated, hlabel⟩ :=
    h.records.exists_of_getElem? htext
  rw [evaluateChoice_of_misplaced hmisplaced] at hevaluated
  obtain ⟨rfl, hdisabled, hhidden⟩ : text = label ∧ false = entry.disabled ∧
      false = entry.hidden := by simpa using hevaluated
  refine ⟨entry, hentry, hrawText, hhidden.symm, hdisabled.symm, ?_⟩
  rw [hlabel, hdisabled]

end Prompt

end GatedPrompt
