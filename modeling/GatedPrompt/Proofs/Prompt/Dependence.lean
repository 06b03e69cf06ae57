import GatedPrompt.Proofs.Choice.Layout
import GatedPrompt.Proofs.Choice.Rules
import GatedPrompt.Prompt.Analysis

/-!
# What a prompt depends on

A prompt reads a game through the rules in its choices. Data that none of these rules mentions have
no part in it: not in its records and labels, not in its end if it is given up, and not in what is
reported on the way.

* `Datum` — a datum that a rule can mention: what stands under an id, or the gold;
* `Datum.IsShared` — two states agree on a datum, as far as a query can tell;
* `mentioned` — the data that the rules in some choices mention. Rules that cannot be parsed, markup
  in the wrong place and labels mention nothing;
* `evaluate_eq_of_isShared`, `conjunctionFrom_eq`, `analyseFrom_eq` — a rule, a list of rules and a
  list of choices in two states;
* `process_eq_of_isShared` — a prompt in two states.

Which rules of a list are read depends on the states too, since a false rule settles its list. It
makes no difference here, as both runs find the same rules false.
-/

namespace GatedPrompt

open Game (State)

/-- A datum of a game that a rule can mention. -/
inductive Datum where
  | entry (kind : Game.Kind) (id : Int)
  | gold
  deriving DecidableEq, Repr

/-- Two states agree on a datum, as far as a query can tell. -/
def Datum.IsShared (state state' : State) : Datum → Prop
  | entry .switch id => state.switch id = state'.switch id
  | entry .var id => state.variableValue id = state'.variableValue id
  | entry .actor id => state.hasActor id = state'.hasActor id
  | entry (.thing thing) id => state.count thing id = state'.count thing id
  | gold => state.gold = state'.gold

instance (state state' : State) : DecidablePred (Datum.IsShared state state')
  | .entry .switch id => inferInstanceAs (Decidable (state.switch id = state'.switch id))
  | .entry .var id => inferInstanceAs (Decidable (state.variableValue id = state'.variableValue id))
  | .entry .actor id => inferInstanceAs (Decidable (state.hasActor id = state'.hasActor id))
  | .entry (.thing thing) id =>
    inferInstanceAs (Decidable (state.count thing id = state'.count thing id))
  | .gold => inferInstanceAs (Decidable (state.gold = state'.gold))

/-! ## Rules -/

namespace Rule

/-- The datum that a token names, if it names one. -/
def Token.datum? (token : Token) : Option Datum :=
  match token.symbol with
  | .reference kind (some id) => some (.entry kind id)
  | .gold => some .gold
  | _ => none

/-- The operands of a statement, from left to right. -/
def Statement.operands : Statement → List Token
  | .condition operand => [operand]
  | .relation left _ right => [left, right]

/-- The data that a rule text mentions. A text that cannot be parsed mentions none. -/
def mentioned (text : Text) : List Datum :=
  match parse text with
  | .error _ => []
  | .ok rule => rule.statement.operands.filterMap Token.datum?

variable {state state' : State} {token : Token}

theorem condition_eq_of_isShared
    (h : ∀ datum, token.datum? = some datum → datum.IsShared state state') :
    token.condition state = token.condition state' := by
  obtain ⟨text, symbol⟩ := token
  match symbol with
  | .reference .switch (some id) =>
    have hshared : state.switch id = state'.switch id := h (.entry .switch id) rfl
    simp only [Token.condition, lookup, hshared]
  | .reference .actor (some id) =>
    have hshared : state.hasActor id = state'.hasActor id := h (.entry .actor id) rfl
    simp only [Token.condition, lookup, hshared]
  | .reference (.thing thing) (some id) =>
    have hshared : state.count thing id = state'.count thing id := h (.entry (.thing thing) id) rfl
    simp only [Token.condition, lookup, hshared]
  -- for the others no game is asked
  | .reference .switch none => rfl
  | .reference .actor none => rfl
  | .reference (.thing thing) none => rfl
  | .reference .var _ => rfl
  | .gold => rfl
  | .literal _ => rfl
  | .comparison _ => rfl

theorem number_eq_of_isShared
    (h : ∀ datum, token.datum? = some datum → datum.IsShared state state') :
    token.number state = token.number state' := by
  obtain ⟨text, symbol⟩ := token
  match symbol with
  | .reference .var (some id) =>
    have hshared : state.variableValue id = state'.variableValue id := h (.entry .var id) rfl
    simp only [Token.number, lookup, hshared]
  | .reference (.thing thing) (some id) =>
    have hshared : state.count thing id = state'.count thing id := h (.entry (.thing thing) id) rfl
    simp only [Token.number, lookup, hshared]
  | .gold =>
    have hshared : state.gold = state'.gold := h .gold rfl
    simp only [Token.number, hshared]
  | .reference .var none => rfl
  | .reference (.thing thing) none => rfl
  | .reference .switch _ => rfl
  | .reference .actor _ => rfl
  | .literal (some _) => rfl
  | .literal none => rfl
  | .comparison _ => rfl

theorem holds_eq_of_isShared {statement : Statement}
    (h : ∀ datum ∈ statement.operands.filterMap Token.datum?, datum.IsShared state state') :
    statement.holds state = statement.holds state' := by
  have hoperand : ∀ operand ∈ statement.operands, ∀ datum, operand.datum? = some datum →
      datum.IsShared state state' :=
    fun operand hmem datum hdatum => h datum (List.mem_filterMap.2 ⟨operand, hmem, hdatum⟩)
  cases statement with
  | condition operand =>
    exact condition_eq_of_isShared (hoperand operand (by simp [Statement.operands]))
  | relation left comparison right =>
    have hleft := number_eq_of_isShared (hoperand left (by simp [Statement.operands]))
    have hright := number_eq_of_isShared (hoperand right (by simp [Statement.operands]))
    simp only [Statement.holds, hleft, hright]

/-- **A rule text in two states.** -/
theorem evaluate_eq_of_isShared {text : Text}
    (h : ∀ datum ∈ mentioned text, datum.IsShared state state') :
    evaluate state text = evaluate state' text := by
  unfold mentioned at h
  unfold evaluate
  cases hparse : parse text with
  | error refusal => rfl
  | ok rule =>
    rw [hparse] at h
    simp only [holds, holds_eq_of_isShared h]

/-- A list of rules depends on a state by the answers of its rules only. -/
theorem conjunctionFrom_eq (policy : Policy) (sound : Bool) {rules : List Text}
    (h : ∀ rule ∈ rules, evaluate state rule = evaluate state' rule) :
    conjunctionFrom policy state sound rules = conjunctionFrom policy state' sound rules := by
  induction rules generalizing sound with
  | nil => rfl
  | cons rule rules ih =>
    have hothers : ∀ sound, conjunctionFrom policy state sound rules =
        conjunctionFrom policy state' sound rules :=
      fun sound => ih sound fun other hmem => h other (List.mem_cons_of_mem rule hmem)
    simp only [conjunctionFrom, h rule List.mem_cons_self, hothers]

theorem block_eq (policy : Policy) {markup : Choice.Markup} (block : Choice.Block)
    (h : ∀ rule ∈ markup.rules block, evaluate state rule = evaluate state' rule) :
    Rule.block policy state (markup.body? block) =
      Rule.block policy state' (markup.body? block) := by
  unfold Choice.Markup.rules at h
  cases hbody : markup.body? block with
  | none => rfl
  | some body =>
    rw [hbody] at h
    exact conjunctionFrom_eq policy true h

end Rule

/-! ## Prompts -/

namespace Prompt

open Choice (Block Markup)

/-- The data that the rules in a choice mention. -/
def mentionedIn (text : Text) : List Datum :=
  [Block.disable, Block.hide].flatMap fun block =>
    ((Markup.read text).rules block).flatMap Rule.mentioned

/-- The data that the rules in some choices mention. -/
def mentioned (choices : List Text) : List Datum := choices.flatMap mentionedIn

variable {settings : Settings} {state state' : State}

theorem evaluateChoice_eq_of_isShared {text : Text}
    (h : ∀ datum ∈ mentionedIn text, datum.IsShared state state') :
    evaluateChoice settings state text = evaluateChoice settings state' text := by
  have hrules : ∀ block, ∀ rule ∈ (Markup.read text).rules block,
      Rule.evaluate state rule = Rule.evaluate state' rule := by
    intro block rule hrule
    refine Rule.evaluate_eq_of_isShared fun datum hdatum => h datum ?_
    refine List.mem_flatMap.2 ⟨block, ?_, List.mem_flatMap.2 ⟨rule, hrule, hdatum⟩⟩
    cases block <;> simp
  have hdisable : Rule.block settings.policy state (Markup.read text).disable =
      Rule.block settings.policy state' (Markup.read text).disable :=
    Rule.block_eq settings.policy .disable (hrules .disable)
  have hhide : Rule.block settings.policy state (Markup.read text).hide =
      Rule.block settings.policy state' (Markup.read text).hide :=
    Rule.block_eq settings.policy .hide (hrules .hide)
  have hmarkup := Markup.value_lift_extract (ε := Rule.Abort) text
  refine Attempt.ext_of ?_ ?_
  · simp only [evaluateChoice, Attempt.notices_bind_of_ok hmarkup, hdisable, hhide]
  · simp only [evaluateChoice, Attempt.value_bind_of_ok hmarkup, hdisable, hhide]

theorem analyseFrom_eq (index : Nat) {texts : List Text}
    (h : ∀ text ∈ texts,
      evaluateChoice settings state text = evaluateChoice settings state' text) :
    analyseFrom settings state index texts = analyseFrom settings state' index texts := by
  induction texts generalizing index with
  | nil => rfl
  | cons text texts ih =>
    have hothers := ih (index + 1) fun other hmem => h other (List.mem_cons_of_mem text hmem)
    simp only [analyseFrom, h text List.mem_cons_self, hothers]

/-- **A prompt depends on what its rules mention.** Two states that agree on all data that the rules
in the choices mention give the same context or the same failure, and the same notices. -/
theorem process_eq_of_isShared (settings : Settings) (descriptor : Descriptor)
    (h : ∀ datum ∈ mentioned descriptor.choices, datum.IsShared state state') :
    process settings state descriptor = process settings state' descriptor := by
  have hchoices : ∀ text ∈ descriptor.choices,
      evaluateChoice settings state text = evaluateChoice settings state' text :=
    fun text htext => evaluateChoice_eq_of_isShared fun datum hdatum =>
      h datum (List.mem_flatMap.2 ⟨text, htext, hdatum⟩)
  unfold process analyse
  split
  · rfl
  · rw [analyseFrom_eq 0 hchoices]

/-- The rules ask for a switch only. The gold stands in a rule that cannot be parsed and in
misplaced markup, and the variable in a label. -/
theorem process_eq_other_gold :
    process {} { gold := 5, switches := .ofList [(1, true)] }
        { choices := ["<<[s[1],g]>>Buy", "Leave (([g>5]))", "v[2]=0"] } =
      process {} { gold := 80, switches := .ofList [(1, true)], vars := .ofList [(2, 7)] }
        { choices := ["<<[s[1],g]>>Buy", "Leave (([g>5]))", "v[2]=0"] } :=
  process_eq_of_isShared {} _ (by decide +kernel)

end Prompt

end GatedPrompt
