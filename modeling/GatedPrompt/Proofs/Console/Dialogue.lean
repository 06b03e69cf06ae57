import GatedPrompt.Proofs.Console.Lines

/-!
# The dialogue about a prompt

A dialogue goes through its prompts one after the other, and about each of them through lines until
one closes the prompt. Each line comes to what the menu promises of it, and it is the first closing
line that counts; the label that is shown for the choice is the one on its row.

* `playPrompt` — the part of a dialogue about one prompt, and `playLines_waiting` — whole dialogues
  are made of such parts. What is shown of them depends on the stream (`answerAll_of_shown`);
* `Passing` — lines that leave a prompt as it is, and `playPrompt_append` — there is a message for
  each of them, by induction on the lines;
* `Resolved` — what is promised of the dialogue about a prompt;
* `resolved_of_process` — this promise is kept for every prompt that can be processed and drawn;
* `not_resolved_least_integer` — there is one integer that ends the dialogue before its time.
-/

namespace GatedPrompt.Console

open Prompt (Context Descriptor Event Processed Session Settings Undrawable View)
open Text (Typed)

/-! ## One prompt of a dialogue -/

/-- How the dialogue about one prompt ends. -/
inductive Conclusion where
  /-- A line closes the prompt, and the lines behind it are left. -/
  | closed (message : Text) (event : Event) (session : Session) (rest : List String)
  | crashed (crash : Crash)
  /-- The lines are used up while the prompt is active. -/
  | starved (session : Session)
  deriving DecidableEq, Repr, Inhabited

/-- The dialogue about one prompt: a message for each line that does not close it, and the end, each
with the notices in front of it. -/
def playPrompt (view : View) (session : Session) :
    List String → List (Logged Text) × Logged Conclusion
  | [] => ([], ⟨[], .starved session⟩)
  | line :: lines =>
    let ⟨notices, next, reaction⟩ := react session view line
    match reaction with
    | .error crash => ([], ⟨notices, .crashed crash⟩)
    | .ok (.closed message event) => ([], ⟨notices, .closed message event next lines⟩)
    | .ok (.again message) =>
      let (messages, conclusion) := playPrompt view next lines
      (⟨notices, message⟩ :: messages, conclusion)

/-- Shows messages, each with the question for the next line behind it. -/
def answerAll (encoding : Encoding) : List (Logged Text) → Dialogue Unit
  | [] => return ()
  | message :: messages => do
    Dialogue.note message.notices
    Dialogue.print encoding message.value
    Dialogue.print encoding question
    answerAll encoding messages

/-- What a whole dialogue comes to, from what the dialogue about its first prompt comes to. -/
def Waiting.conclude (encoding : Encoding) (waiting : Waiting)
    (played : List (Logged Text) × Logged Conclusion) : Dialogue Empty := do
  answerAll encoding played.1
  Dialogue.note played.2.notices
  match played.2.value with
  | .starved _ => Dialogue.stop (.crash .endOfInput)
  | .crashed crash => Dialogue.stop (.crash crash)
  | .closed message _ session rest =>
    Dialogue.print encoding message
    let next ← openNext encoding session waiting.state waiting.rest
    playLines encoding next rest

/-- **A dialogue goes on prompt by prompt.** -/
theorem playLines_waiting (encoding : Encoding) (waiting : Waiting) (lines : List String) :
    playLines encoding waiting lines =
      waiting.conclude encoding (playPrompt waiting.view waiting.session lines) := by
  -- generalised over the session, which each line may change
  induction lines generalizing waiting with
  | nil => rfl
  | cons line lines ih =>
    rw [playLines, reply, playPrompt]
    obtain ⟨notices, next, reaction⟩ := react waiting.session waiting.view line
    cases reaction with
    | error crash =>
      simp only [Waiting.conclude, answerAll, bind_assoc, pure_bind, Dialogue.stop_bind]
    | ok reaction =>
      cases reaction with
      | again message =>
        simp only [Waiting.conclude, answerAll, bind_assoc, pure_bind, ih]
      | closed message event =>
        simp only [Waiting.conclude, answerAll, bind_assoc, pure_bind]

/-- Messages with the question for the next line behind each of them. -/
def asked : List Text → Text
  | [] => ""
  | message :: messages => message ++ question ++ asked messages

/-- Messages go out as they are on a stream that has all their characters. -/
theorem answerAll_of_shown {encoding : Encoding} (hquestion : encoding.refusal? question = none)
    {messages : List (Logged Text)}
    (hmessages : ∀ message ∈ messages, encoding.refusal? message.value = none) :
    answerAll encoding messages =
      ⟨⟨asked (messages.map (·.value)), messages.flatMap (·.notices)⟩, .ok ()⟩ := by
  induction messages with
  | nil => rfl
  | cons message messages ih =>
    obtain ⟨hmessage, hmessages⟩ := List.forall_mem_cons.1 hmessages
    rw [answerAll, ih hmessages, Dialogue.print_of_shown hmessage,
      Dialogue.print_of_shown hquestion]
    refine Dialogue.ext_of (Screen.ext_of ?_ ?_) rfl
    · exact (Text.append_assoc message.value question (asked (messages.map (·.value)))).symm
    · rfl

/-! ## All lines -/

variable {line : String} {settings : Settings} {state : Game.State} {descriptor : Descriptor}
  {context : Context} {highlighted : Option Int}

/-- Lines none of which closes the prompt or jams. -/
def Passing (descriptor : Descriptor) (view : View) (lines : List String) : Prop :=
  ∀ line ∈ lines, ¬IsClosing descriptor view line ∧ ¬Jams descriptor line

/-- What the player is told after lines that do not close the prompt. -/
def AnsweredAll (settings : Settings) (descriptor : Descriptor) (view : View) (lines : List String)
    (messages : List (Logged Text)) : Prop :=
  List.Forall₂ (fun line message => Answered settings descriptor view line message.value) lines
    messages

/-- What is promised of the dialogue about a prompt, which a session opens and has active then. -/
structure Resolved (session : Session) (state : Game.State) (descriptor : Descriptor)
    (active : Session) (view : View) : Prop where
  /-- The menu and the first question are shown. -/
  opened : ∀ encoding id rest,
    openNext encoding session state ((id, descriptor) :: rest) = (do
      Dialogue.note (session.openPrompt state descriptor).notices
      Dialogue.printAll encoding (menuLines id view)
      Dialogue.print encoding question
      return ⟨active, state, view, rest⟩)
  /-- Up to the first line that closes the prompt there is one message for each line; that line
  closes it, and the lines behind it are left. -/
  closed : ∀ before line after, Passing descriptor view before → IsClosing descriptor view line →
    ∃ messages notices event message, AnsweredAll session.settings descriptor view before messages ∧
      Closes descriptor view line event message ∧
      playPrompt view active (before ++ line :: after) =
        (messages, ⟨notices, .closed message event active.close after⟩)
  /-- A line that jams ends the whole dialogue, and is none that should close the prompt. -/
  jammed : ∀ before line after, Passing descriptor view before → Jams descriptor line →
    ¬IsClosing descriptor view line ∧
    ∃ messages notices, AnsweredAll session.settings descriptor view before messages ∧
      playPrompt view active (before ++ line :: after) =
        (messages, ⟨notices, .crashed (.session (.oversized .integer))⟩)
  /-- Without such lines the prompt stays active. -/
  starved : ∀ lines, Passing descriptor view lines →
    ∃ messages, AnsweredAll session.settings descriptor view lines messages ∧
      playPrompt view active lines = (messages, ⟨[], .starved active⟩)
  /-- The label of a choice that is made is found, and it is the one on the row of the choice. -/
  found : ∀ (row : Nat) index label, view.indices[row]? = some index →
    view.labels[row]? = some label → (view.indices.zip view.labels).lookup index = some label
  /-- The menu has a line for each row, with the label as it is shown when its choice is made. -/
  menu : ∀ title, (menuLines title view).length = view.rowCount + 1 ∧
    ∀ (row : Nat) label, view.labels[row]? = some label →
      (menuLines title view)[row + 1]? = some (rowText view.initialRow row label)
  /-- All that is shown in the dialogue, and how it goes on with the next prompt. -/
  played : ∀ encoding rest lines, playLines encoding ⟨active, state, view, rest⟩ lines =
    Waiting.conclude encoding ⟨active, state, view, rest⟩ (playPrompt view active lines)

/-- Lines that pass leave the prompt as it is. -/
theorem playPrompt_append (h : Processed settings state descriptor context)
    {before : List String} (hbefore : Passing descriptor (context.viewWith highlighted) before) :
    ∃ messages, AnsweredAll settings descriptor (context.viewWith highlighted) before messages ∧
      ∀ rest, playPrompt (context.viewWith highlighted) ⟨settings, some context⟩ (before ++ rest) =
        (messages ++ (playPrompt (context.viewWith highlighted) ⟨settings, some context⟩ rest).1,
          (playPrompt (context.viewWith highlighted) ⟨settings, some context⟩ rest).2) := by
  induction before with
  | nil => exact ⟨[], .nil, fun rest => rfl⟩
  | cons line before ih =>
    obtain ⟨⟨hclosing, hjams⟩, hbefore⟩ := List.forall_mem_cons.1 hbefore
    obtain ⟨messages, hmessages, hrest⟩ := ih hbefore
    have hreacts := reacts_react highlighted h line
    generalize hreact : react ⟨settings, some context⟩ (context.viewWith highlighted) line =
      reacted at hreacts
    obtain ⟨notices, result⟩ := reacted
    -- a line that passes leaves the session as it was, so the next lines find the same prompt
    cases hreacts with
    | closed closes => exact absurd closes.isClosing hclosing
    | jammed jams => exact absurd jams hjams
    | @again message answered =>
      refine ⟨⟨notices, message⟩ :: messages, .cons answered hmessages, fun rest => ?_⟩
      rw [List.cons_append, playPrompt, hreact]
      simp only [hrest, List.cons_append]

theorem playPrompt_of_isClosing (h : Processed settings state descriptor context)
    (hclosing : IsClosing descriptor (context.viewWith highlighted) line) (after : List String) :
    ∃ notices event message, Closes descriptor (context.viewWith highlighted) line event message ∧
      playPrompt (context.viewWith highlighted) ⟨settings, some context⟩ (line :: after) =
        ([], ⟨notices, .closed message event ⟨settings, none⟩ after⟩) := by
  have hreacts := reacts_react highlighted h line
  generalize hreact : react ⟨settings, some context⟩ (context.viewWith highlighted) line =
    reacted at hreacts
  obtain ⟨notices, result⟩ := reacted
  -- the sorts of lines exclude each other, so one outcome is left
  cases hreacts with
  | @closed event message closes =>
    refine ⟨notices, event, message, closes, ?_⟩
    rw [playPrompt, hreact]
    rfl
  | again _ notClosing => exact absurd hclosing notClosing
  | jammed _ notClosing => exact absurd hclosing notClosing

variable (highlighted) in
theorem playPrompt_of_jams (h : Processed settings state descriptor context)
    (hjams : Jams descriptor line) (after : List String) :
    ¬IsClosing descriptor (context.viewWith highlighted) line ∧
    ∃ notices, playPrompt (context.viewWith highlighted) ⟨settings, some context⟩ (line :: after) =
      ([], ⟨notices, .crashed (.session (.oversized .integer))⟩) := by
  have hreacts := reacts_react highlighted h line
  generalize hreact : react ⟨settings, some context⟩ (context.viewWith highlighted) line =
    reacted at hreacts
  obtain ⟨notices, result⟩ := reacted
  cases hreacts with
  | closed _ notJams => exact absurd hjams notJams
  | again _ _ notJams => exact absurd hjams notJams
  | jammed _ notClosing =>
    refine ⟨notClosing, notices, ?_⟩
    rw [playPrompt, hreact]

theorem getElem?_rowLines (highlighted : Option Int) {first row : Nat} {labels : List Text}
    {label : Text} (hlabel : labels[row]? = some label) :
    (rowLines highlighted first labels)[row]? = some (rowText highlighted (first + row) label) := by
  induction labels generalizing first row with
  | nil => simp at hlabel
  | cons start labels ih =>
    cases row with
    | zero =>
      obtain rfl := Option.some.inj hlabel
      rfl
    | succ row =>
      rw [rowLines, List.getElem?_cons_succ, ih hlabel, Nat.add_right_comm, Nat.add_assoc]

theorem length_rowLines (highlighted : Option Int) (first : Nat) (labels : List Text) :
    (rowLines highlighted first labels).length = labels.length := by
  induction labels generalizing first with
  | nil => rfl
  | cons label labels ih => rw [rowLines, List.length_cons, ih, List.length_cons]

theorem resolved_of_openPrompt {session active : Session} {view : View}
    (h : (session.openPrompt state descriptor).value = (active, .ok (some view))) :
    Resolved session state descriptor active view := by
  obtain ⟨context, hactive, hview, hp⟩ := Prompt.processed_of_openPrompt h
  obtain ⟨highlighted, hdrawn⟩ := Context.viewWith_of_view hview
  have hopened : ∀ encoding id rest,
      openNext encoding session state ((id, descriptor) :: rest) = (do
        Dialogue.note (session.openPrompt state descriptor).notices
        Dialogue.printAll encoding (menuLines id view)
        Dialogue.print encoding question
        return ⟨active, state, view, rest⟩) := by
    intro encoding id rest
    rw [openNext]
    generalize session.openPrompt state descriptor = opened at h
    obtain ⟨notices, _⟩ := opened
    subst h
    rfl
  subst hactive hdrawn
  refine ⟨hopened, ?_, ?_, ?_, ?_, ?_, ?_⟩
  · intro before line after hbefore hclosing
    obtain ⟨messages, hmessages, hrest⟩ := playPrompt_append hp hbefore
    obtain ⟨notices, event, message, hcloses, hvalue⟩ := playPrompt_of_isClosing hp hclosing after
    refine ⟨messages, notices, event, message, hmessages, hcloses, ?_⟩
    rw [hrest, hvalue, List.append_nil]
    rfl
  · intro before line after hbefore hjams
    obtain ⟨messages, hmessages, hrest⟩ := playPrompt_append hp hbefore
    obtain ⟨hnotClosing, notices, hvalue⟩ := playPrompt_of_jams _ hp hjams after
    refine ⟨hnotClosing, messages, notices, hmessages, ?_⟩
    rw [hrest, hvalue, List.append_nil]
  · intro lines hlines
    obtain ⟨messages, hmessages, hrest⟩ := playPrompt_append hp hlines
    refine ⟨messages, hmessages, ?_⟩
    have hvalue := hrest []
    rwa [List.append_nil, playPrompt, List.append_nil] at hvalue
  · intro row index label hindex hlabel
    exact lookup_zip (nodup_indices hp) hindex hlabel
  · intro title
    refine ⟨?_, fun row label hlabel => ?_⟩
    · rw [menuLines, List.length_cons, length_rowLines, View.rowCount]
    · rw [menuLines, List.getElem?_cons_succ, getElem?_rowLines _ hlabel, Nat.zero_add]
  · intro encoding rest lines
    exact playLines_waiting encoding _ lines

/-- **Lines are resolved as the menu shows them.** Every prompt with choices that can be processed
is opened with a menu, and so the lines behind it are resolved, unless its default is missing and
cannot be reported; then the dialogue ends where the prompt is opened. -/
theorem resolved_of_process (session : Session) {result : Option Context}
    (hchoices : descriptor.choices ≠ [])
    (hprocess : (Prompt.process session.settings state descriptor).value = .ok result) :
    (Undrawable session.settings state descriptor →
      ∀ encoding id rest, (openNext encoding session state ((id, descriptor) :: rest)).outcome =
        .error (.crash (.session (.oversized .integer)))) ∧
    (¬Undrawable session.settings state descriptor →
      ∃ active view, (session.openPrompt state descriptor).value = (active, .ok (some view)) ∧
        Resolved session state descriptor active view) := by
  obtain ⟨context, rfl⟩ := Prompt.exists_context hchoices hprocess
  have hopen := Prompt.value_openPrompt session state descriptor
  rw [hprocess] at hopen
  cases hview : (context.view session.settings).value with
  | ok view =>
    simp only [hview] at hopen
    have hdrawn : ¬Undrawable session.settings state descriptor := by
      rw [← Prompt.openPrompt_fails_iff, hopen]
      rintro ⟨fault, hfault⟩
      cases hfault
    exact ⟨fun hnot => absurd hnot hdrawn, fun _ => ⟨_, _, hopen, resolved_of_openPrompt hopen⟩⟩
  | error fault =>
    -- the session has taken the prompt up, but there is no view to ask about
    simp only [hview] at hopen
    have hundrawable : Undrawable session.settings state descriptor := by
      rw [← Prompt.openPrompt_fails_iff, hopen]
      exact ⟨fault, rfl⟩
    obtain rfl : fault = .integer := Context.fault_of_view hview
    refine ⟨fun _ encoding id rest => ?_, fun hdrawn => absurd hundrawable hdrawn⟩
    rw [openNext]
    generalize session.openPrompt state descriptor = opened at hopen
    obtain ⟨notices, _⟩ := opened
    subst hopen
    rfl

/-- The first row is disabled, and the cancel target is hidden. Behind a word, the number of the
first row, a cancelling and a number of no row, the second row is chosen; a line is left. -/
theorem resolved_behind_refusals :
    let settings : Settings := { sound := some { name := "Buzzer" } }
    let state : Game.State := { gold := 5 }
    let descriptor : Descriptor := ⟨["<<[g>3]>>Buy", "(([g>3]))Steal", "Leave"], -1, 1⟩
    let view : View := ⟨["\\C[7]Buy", "Leave"], [0, 2], none, [0]⟩
    let active : Session := ⟨settings, some ⟨descriptor,
      [⟨0, "<<[g>3]>>Buy", "\\C[7]Buy", false, true, some 0⟩,
        ⟨1, "(([g>3]))Steal", "Steal", true, false, none⟩,
        ⟨2, "Leave", "Leave", false, false, some 1⟩]⟩⟩
    let messages : List (Logged Text) := [⟨[], "Please enter a number.\n"⟩,
      ⟨[], "That choice is not available. [Buzzer]\n"⟩,
      ⟨[], "That choice is not available. [Buzzer]\n"⟩,
      ⟨[.rowNotFound (-8)], "Please enter a value between 1 and 2.\n"⟩]
    let conclusion : Conclusion :=
      .closed "Chose option 3: Leave\n" (.committed 2) ⟨settings, none⟩ ["3"]
    descriptor.choices ≠ [] ∧
      (Prompt.process settings state descriptor).value = .ok active.context ∧
      ¬Undrawable settings state descriptor ∧
      (∃ active view,
        (Session.openPrompt ⟨settings, none⟩ state descriptor).value = (active, .ok (some view)) ∧
        Resolved ⟨settings, none⟩ state descriptor active view) ∧
      (Session.openPrompt ⟨settings, none⟩ state descriptor).value = (active, .ok (some view)) ∧
      playPrompt view active ["one", "1", " C ", "-7", "+0_2", "3"] =
        (messages, ⟨[], conclusion⟩) := by
  intro settings state descriptor view active messages conclusion
  have hchoices : descriptor.choices ≠ [] := nofun
  have hprocess : (Prompt.process settings state descriptor).value = .ok active.context := by
    decide +kernel
  have hdrawn : ¬Undrawable settings state descriptor := by
    rintro ⟨_, -, -, hlarge, -⟩
    revert hlarge
    decide
  exact ⟨hchoices, hprocess, hdrawn,
    (resolved_of_process ⟨settings, none⟩ hchoices hprocess).2 hdrawn,
    by decide +kernel, by decide +kernel⟩

theorem entered_ofList {cs : List Char} (h : ∀ c ∈ cs, Text.isBlank (.char c) = false) :
    entered (String.ofList cs) = cs.map .char := by
  rw [entered, Text.ofString, Text.ofChars, String.toList_ofList]
  refine Text.trim_eq_self fun p hmem => ?_
  obtain ⟨c, hc, rfl⟩ := List.mem_map.1 hmem
  exact h c hc

/-- **The least integer that can be typed**, a minus sign and 4300 nines, is the number of no row;
but instead of a message it ends the whole dialogue, and the line behind it, which would make a
choice, is not read any more. -/
theorem not_resolved_least_integer :
    let nines : String := String.ofList ('-' :: List.replicate 4300 '9')
    let descriptor : Descriptor := ⟨["Buy"], -1, -1⟩
    let view : View := ⟨["Buy"], [0], none, []⟩
    let active : Session :=
      ⟨{}, some ⟨descriptor, [⟨0, "Buy", "Buy", false, false, some 0⟩]⟩⟩
    (Session.openPrompt ⟨{}, none⟩ {} descriptor).value = (active, .ok (some view)) ∧
      Typed (entered nines) Text.leastTyped ∧ Text.leastTyped < 1 ∧
      ¬IsClosing descriptor view nines ∧ IsClosing descriptor view "1" ∧
      ∀ encoding, (playLines encoding ⟨active, {}, view, []⟩ [nines, "1"]).outcome =
        .error (.crash (.session (.oversized .integer))) := by
  intro nines descriptor view active
  have hopen : (Session.openPrompt ⟨{}, none⟩ {} descriptor).value =
      (active, .ok (some view)) := by decide +kernel
  have hleast : Typed (entered nines) Text.leastTyped := by
    have hdrawn : ∀ c ∈ '-' :: List.replicate 4300 '9', Text.isBlank (.char c) = false := by
      refine List.forall_mem_cons.2 ⟨by decide, fun c hmem => ?_⟩
      rw [List.eq_of_mem_replicate hmem]
      decide
    have hlimit : (4300 : Nat) = Text.digitLimit := rfl
    rw [entered_ofList hdrawn, List.map_cons, List.map_replicate, hlimit]
    exact Text.typed_leastTyped
  have hone : IsClosing descriptor view "1" := by
    have htyped : Typed (entered "1") 1 := by
      rw [entered, ← Text.parseInteger?_eq_some_iff]
      decide +kernel
    exact .inr ⟨1, htyped, by decide, by decide, by decide⟩
  obtain ⟨context, hactive, hview, hp⟩ := Prompt.processed_of_openPrompt hopen
  obtain ⟨highlighted, hdrawn⟩ := Context.viewWith_of_view hview
  -- by the lemma on such lines: the power in the row is too great to be computed here
  obtain ⟨hnotClosing, notices, hplayed⟩ :=
    playPrompt_of_jams highlighted hp (.inl hleast) ["1"]
  have hlow : Text.leastTyped < 1 := Int.lt_of_le_of_lt Text.leastTyped_le_zero Int.one_pos
  rw [hdrawn] at hnotClosing hplayed
  refine ⟨hopen, hleast, hlow, hnotClosing, hone, fun encoding => ?_⟩
  rw [playLines_waiting, hactive, hplayed]
  rfl

end GatedPrompt.Console
