import GatedPrompt.Proofs.Prompt.Reports
import GatedPrompt.Proofs.Prompt.Rows

/-!
# Prompts put together

A prompt whose choices are those of one prompt followed by those of another is processed like the
two prompts one after the other: only the indices and the rows of the second part move on. So no
choice has a say in what becomes of its neighbours, except that nothing is read behind a choice
whose rules give up.

* `menu` — the context of choices, which is an empty one if there are none;
* `Entry.shift`, `Notice.shift` — a record and a notice with their numbers moved on;
* `Context.join` — two contexts as one;
* `value_menu_append`, `notices_menu_append` — the choices of two lists, by those of each;
* `concatenates` — all that follows for the two parts, and for each single choice.

Processing is three passes over the whole list. Each of them is split for every index and every row
that it may start from, since that is where the second part starts.
-/

namespace GatedPrompt

/-- A notice with the index moved on that it names. -/
def Notice.shift (indices : Nat) : Notice → Notice
  | .verdict index label disabled hidden => .verdict (index + indices) label disabled hidden
  | notice => notice

/-- The warnings among notices. -/
def warnings (notices : List Notice) : List Notice :=
  notices.filter fun notice => notice.level = .warning

theorem warnings_append (first second : List Notice) :
    warnings (first ++ second) = warnings first ++ warnings second := List.filter_append _ _

/-- Warnings name no index. -/
theorem warnings_map_shift (indices : Nat) (notices : List Notice) :
    warnings (notices.map (Notice.shift indices)) = warnings notices := by
  have hlevel : ∀ notice : Notice, (notice.shift indices).level = notice.level := by
    intro notice
    cases notice <;> rfl
  have hself : ∀ notice ∈ warnings notices, notice.shift indices = notice := by
    intro notice hmem
    have hwarning := (List.mem_filter.1 hmem).2
    cases notice with
    | verdict _ _ _ _ => simp [Notice.level] at hwarning
    | _ => rfl
  calc warnings (notices.map (Notice.shift indices))
      = (warnings notices).map (Notice.shift indices) := by
        rw [warnings, List.filter_map, warnings]
        congr 2
        funext notice
        simp only [Function.comp_apply, hlevel]
    _ = warnings notices := (List.map_congr_left hself).trans (List.map_id _)

namespace Prompt

/-- The context of choices with the targets of a descriptor. Without choices it is empty. -/
def menu (settings : Settings) (state : Game.State) (descriptor : Descriptor)
    (choices : List Text) : Attempt Rule.Abort Context := do
  let result ← process settings state { descriptor with choices := choices }
  return result.getD ⟨{ descriptor with choices := choices }, []⟩

/-- A record with its index and its row moved on. -/
def Entry.shift (indices rows : Nat) (entry : Entry) : Entry :=
  { entry with index := entry.index + indices, row := entry.row.map (· + (rows : Int)) }

/-- Two contexts as one, where the second one comes behind the choices and the rows of the first. -/
def Context.join (first second : Context) : Context :=
  ⟨{ first.descriptor with choices := first.descriptor.choices ++ second.descriptor.choices },
    first.entries ++ second.entries.map
      (Entry.shift first.descriptor.choices.length first.visible.length)⟩

variable {settings : Settings} {state : Game.State} {descriptor : Descriptor}

/-! ## The three passes -/

theorem analyseFrom_append (index : Nat) (front back : List Text) :
    analyseFrom settings state index (front ++ back) = do
      let first ← analyseFrom settings state index front
      let second ← analyseFrom settings state (index + front.length) back
      return first ++ second := by
  induction front generalizing index with
  | nil => simp [analyseFrom]
  | cons text front ih =>
    have hindex : index + 1 + front.length = index + (text :: front).length := by
      rw [List.length_cons]
      omega
    rw [List.cons_append, analyseFrom, analyseFrom, bind_assoc]
    refine bind_congr fun evaluated => ?_
    simp only [bind_assoc, pure_bind, ih, hindex, List.cons_append]

/-- The verdicts do not depend on the indices. No row is there yet, so the rows may move too. -/
theorem value_analyseFrom_add (index indices rows : Nat) (texts : List Text) :
    (analyseFrom settings state (index + indices) texts).value =
      (analyseFrom settings state index texts).value.map
        (List.map (Entry.shift indices rows)) := by
  induction texts generalizing index with
  | nil => rfl
  | cons text texts ih =>
    rw [analyseFrom, analyseFrom, Attempt.value_bind, Attempt.value_bind]
    cases (evaluateChoice settings state text).value with
    | error abort => rfl
    | ok evaluated =>
      obtain ⟨label, verdict⟩ := evaluated
      have hindex : index + indices + 1 = index + 1 + indices := by omega
      simp only [Attempt.value_bind, Attempt.value_note, hindex, ih]
      cases (analyseFrom settings state (index + 1) texts).value with
      | error abort => rfl
      | ok entries => rfl

theorem shift_of_reports {Due : Rule.Refusal → Prop} {notice : Notice} (indices : Nat)
    (h : Rule.Reports Due notice) : notice.shift indices = notice := by
  obtain ⟨malformed, hreport, -⟩ := h
  cases notice with
  | verdict _ _ _ _ => cases hreport
  | _ => rfl

/-- Only the verdict on a whole choice names an index, and that is noted later. -/
theorem shift_of_mem_evaluateChoice (indices : Nat) {text : Text} {notice : Notice}
    (h : notice ∈ (evaluateChoice settings state text).notices) :
    notice.shift indices = notice := by
  have hextract : Attempt.Confined (fun _ : Rule.Abort => True)
      (fun notice => notice.shift indices = notice)
      (ExceptT.lift (Choice.Markup.extract text)) := by
    refine .of_ok (Attempt.value_lift _) fun notice hnotice => ?_
    rw [Attempt.notices_lift, Choice.Markup.notices_extract] at hnotice
    split at hnotice
    · obtain rfl := List.mem_singleton.1 hnotice
      rfl
    · cases hnotice
  have hblock : ∀ (markup : Choice.Markup) (block : Choice.Block),
      Attempt.Confined (fun _ => True) (fun notice => notice.shift indices = notice)
        (Rule.block settings.policy state (markup.body? block)) := by
    intro markup block
    have hany : Attempt.Confined (fun _ => True) (Rule.Reports fun _ => True)
        (Rule.block settings.policy state (markup.body? block)) :=
      Rule.block_confined settings.policy markup block fun _ _ _ _ => trivial
    exact hany.imp fun _ => shift_of_reports indices
  have hchoice : Attempt.Confined (fun _ => True) (fun notice => notice.shift indices = notice)
      (evaluateChoice settings state text) :=
    hextract.bind fun markup _ => (hblock markup .disable).bind fun _ _ =>
      (hblock markup .hide).bind fun _ _ => .pure _
  exact hchoice.gives notice h

theorem notices_analyseFrom_add (index indices : Nat) (texts : List Text) :
    (analyseFrom settings state (index + indices) texts).notices =
      (analyseFrom settings state index texts).notices.map (Notice.shift indices) := by
  induction texts generalizing index with
  | nil => rfl
  | cons text texts ih =>
    have hchoice : (evaluateChoice settings state text).notices.map (Notice.shift indices) =
        (evaluateChoice settings state text).notices :=
      (List.map_congr_left fun _ hmem => shift_of_mem_evaluateChoice indices hmem).trans
        (List.map_id _)
    rw [analyseFrom, analyseFrom, Attempt.notices_bind, Attempt.notices_bind, List.map_append,
      hchoice]
    cases (evaluateChoice settings state text).value with
    | error abort => rfl
    | ok evaluated =>
      obtain ⟨label, verdict⟩ := evaluated
      have hindex : index + indices + 1 = index + 1 + indices := by omega
      simp only [Attempt.notices_bind, Attempt.value_note, Attempt.notices_note, hindex, ih,
        value_analyseFrom_add (index + 1) indices 0]
      cases (analyseFrom settings state (index + 1) texts).value with
      | error abort => simp [Notice.shift, Except.map]
      | ok entries => simp [Notice.shift, Except.map]

theorem assignRowsFrom_append (row : Nat) (first second : List Entry) :
    assignRowsFrom row (first ++ second) = assignRowsFrom row first ++
      assignRowsFrom (row + first.countP fun entry => !entry.hidden) second := by
  induction first generalizing row with
  | nil => rfl
  | cons entry first ih =>
    cases hhidden : entry.hidden with
    | true => simp [assignRowsFrom, hhidden, ih]
    | false => simp [assignRowsFrom, hhidden, ih, Nat.add_assoc, Nat.add_comm 1]

theorem assignRowsFrom_add (row indices rows : Nat) (entries : List Entry) :
    assignRowsFrom (row + rows) (entries.map (Entry.shift indices rows)) =
      (assignRowsFrom row entries).map (Entry.shift indices rows) := by
  induction entries generalizing row with
  | nil => rfl
  | cons entry entries ih =>
    have hkept : (entry.shift indices rows).hidden = entry.hidden := rfl
    cases hhidden : entry.hidden with
    | true =>
      rw [hhidden] at hkept
      simp [assignRowsFrom, hkept, hhidden, ih]
    | false =>
      have hrow : row + rows + 1 = row + 1 + rows := by omega
      simp [assignRowsFrom, hhidden, hrow, ih, Entry.shift]

theorem countP_assignRowsFrom (row : Nat) (entries : List Entry) :
    ((assignRowsFrom row entries).map (render settings)).countP (fun entry => !entry.hidden) =
      entries.countP fun entry => !entry.hidden := by
  induction entries generalizing row with
  | nil => rfl
  | cons entry entries ih =>
    cases hhidden : entry.hidden with
    | true => simp [assignRowsFrom, hhidden, ih, render]
    | false => simp [assignRowsFrom, hhidden, ih, render]

/-! ## Contexts of choices -/

/-- The context that is made of the records of choices. -/
def rendered (settings : Settings) (descriptor : Descriptor) (choices : List Text)
    (entries : List Entry) : Context :=
  ⟨{ descriptor with choices := choices }, (assignRows entries).map (render settings)⟩

theorem menu_eq (choices : List Text) :
    menu settings state descriptor choices = do
      let entries ← analyse settings state choices
      return rendered settings descriptor choices entries := by
  cases choices with
  | nil => rfl
  | cons text texts => simp [menu, process, rendered]

theorem value_menu (choices : List Text) :
    (menu settings state descriptor choices).value =
      (analyseFrom settings state 0 choices).value.map
        (rendered settings descriptor choices) := by
  rw [menu_eq, Attempt.value_bind_pure]
  rfl

theorem notices_menu (choices : List Text) :
    (menu settings state descriptor choices).notices =
      (analyseFrom settings state 0 choices).notices := by
  rw [menu_eq, Attempt.notices_bind_pure]
  rfl

theorem processed_of_menu {choices : List Text} {context : Context}
    (h : (menu settings state descriptor choices).value = .ok context) :
    Processed settings state { descriptor with choices := choices } context := by
  rw [value_menu] at h
  cases hentries : (analyseFrom settings state 0 choices).value with
  | error abort =>
    rw [hentries] at h
    cases h
  | ok entries =>
    rw [hentries] at h
    obtain rfl := Except.ok.inj h
    exact ⟨rfl, records_of_analyseFrom hentries⟩

theorem map_render_shift (indices rows : Nat) (entries : List Entry) :
    (entries.map (Entry.shift indices rows)).map (render settings) =
      (entries.map (render settings)).map (Entry.shift indices rows) := by
  rw [List.map_map, List.map_map]
  rfl

theorem length_visible_rendered {choices : List Text} {entries : List Entry}
    (h : (analyseFrom settings state 0 choices).value = .ok entries) :
    (rendered settings descriptor choices entries).visible.length =
      entries.countP fun entry => !entry.hidden := by
  have hvalue : (menu settings state descriptor choices).value =
      .ok (rendered settings descriptor choices entries) := by
    rw [value_menu, h]
    rfl
  exact (processed_of_menu hvalue).length_visible.trans (countP_assignRowsFrom 0 entries)

/-- The second part is numbered from where the first one ends. -/
theorem rendered_append {front back : List Text} {entries others : List Entry}
    (hcount : (rendered settings descriptor front entries).visible.length =
      entries.countP fun entry => !entry.hidden) :
    rendered settings descriptor (front ++ back) (entries ++ others.map
        (Entry.shift front.length (rendered settings descriptor front entries).visible.length)) =
      (rendered settings descriptor front entries).join
        (rendered settings descriptor back others) := by
  have hassigned : ∀ rows, rows = (entries.countP fun entry => !entry.hidden) →
      assignRows (entries ++ others.map (Entry.shift front.length rows)) =
        assignRows entries ++ (assignRows others).map (Entry.shift front.length rows) := by
    rintro rows rfl
    rw [assignRows, assignRowsFrom_append, assignRowsFrom_add]
    rfl
  rw [rendered, hassigned _ hcount, List.map_append, map_render_shift]
  rfl

/-- **The context of two lists of choices.** The first list decides whether the second is read. -/
theorem value_menu_append (front back : List Text) :
    (menu settings state descriptor (front ++ back)).value =
      match (menu settings state descriptor front).value with
      | .error abort => .error abort
      | .ok first => (menu settings state descriptor back).value.map first.join := by
  rw [value_menu, value_menu, value_menu, analyseFrom_append, Attempt.value_bind]
  cases hentries : (analyseFrom settings state 0 front).value with
  | error abort => rfl
  | ok entries =>
    have hcount : (rendered settings descriptor front entries).visible.length =
        entries.countP fun entry => !entry.hidden := length_visible_rendered hentries
    simp only [Attempt.value_bind_pure]
    rw [value_analyseFrom_add 0 front.length
      (rendered settings descriptor front entries).visible.length]
    cases (analyseFrom settings state 0 back).value with
    | error abort => rfl
    | ok others => exact congrArg Except.ok (rendered_append hcount)

/-- **The notices of two lists of choices.** -/
theorem notices_menu_append (front back : List Text) :
    (menu settings state descriptor (front ++ back)).notices =
      (menu settings state descriptor front).notices ++
        match (menu settings state descriptor front).value with
        | .error _ => []
        | .ok _ => (menu settings state descriptor back).notices.map
            (Notice.shift front.length) := by
  rw [notices_menu, notices_menu, notices_menu, value_menu, analyseFrom_append,
    Attempt.notices_bind]
  cases (analyseFrom settings state 0 front).value with
  | error abort => rfl
  | ok entries =>
    simp only [Attempt.notices_bind_pure, notices_analyseFrom_add]
    rfl

/-! ## The menu of a joined context -/

theorem visible_join (first second : Context) :
    (first.join second).visible = first.visible ++ second.visible.map
      (Entry.shift first.descriptor.choices.length first.visible.length) := by
  have hvisible : Entry.isVisible ∘
      Entry.shift first.descriptor.choices.length first.visible.length = Entry.isVisible := by
    funext entry
    exact Option.isSome_map
  show (first.entries ++ _).filter Entry.isVisible = _
  rw [List.filter_append, List.filter_map, hvisible]
  rfl

theorem labels_join (first second : Context) :
    (first.join second).labels = first.labels ++ second.labels := by
  rw [Context.labels, visible_join, List.map_append, List.map_map]
  rfl

theorem backMapping_join (first second : Context) :
    (first.join second).backMapping =
      first.backMapping ++ second.backMapping.map (· + (first.descriptor.choices.length : Int)) := by
  rw [Context.backMapping, visible_join, List.map_append, List.map_map, Context.backMapping,
    Context.backMapping, List.map_map]
  rfl

/-! ## Single choices -/

/-- The context of a choice in front of others is joined of its own and theirs. -/
theorem value_menu_cons (text : Text) (texts : List Text) :
    (menu settings state descriptor (text :: texts)).value =
      match (menu settings state descriptor [text]).value with
      | .error abort => .error abort
      | .ok first => (menu settings state descriptor texts).value.map first.join :=
  value_menu_append [text] texts

/-- **The first offending choice.** A list of choices is given up over the first one that would be
given up alone. -/
theorem value_menu_eq_error_iff {choices : List Text} {abort : Rule.Abort} :
    (menu settings state descriptor choices).value = .error abort ↔
      ∃ before text later, choices = before ++ text :: later ∧
        (∀ other ∈ before, ∃ context,
          (menu settings state descriptor [other]).value = .ok context) ∧
        (menu settings state descriptor [text]).value = .error abort := by
  constructor
  · intro h
    induction choices with
    | nil => cases h
    | cons text texts ih =>
      rw [value_menu_cons] at h
      cases htext : (menu settings state descriptor [text]).value with
      | error abort' =>
        rw [htext] at h
        exact ⟨[], text, texts, rfl, fun _ hmem => (nomatch hmem), htext.trans h⟩
      | ok first =>
        rw [htext] at h
        have hrest : (menu settings state descriptor texts).value = .error abort := by
          cases hvalue : (menu settings state descriptor texts).value with
          | error abort' =>
            rw [hvalue] at h
            exact h
          | ok second =>
            rw [hvalue] at h
            cases h
        obtain ⟨before, offender, later, rfl, hbefore, hoffender⟩ := ih hrest
        refine ⟨text :: before, offender, later, rfl, ?_, hoffender⟩
        intro other hmem
        rcases List.mem_cons.1 hmem with rfl | hmem
        · exact ⟨first, htext⟩
        · exact hbefore other hmem
  · rintro ⟨before, text, later, rfl, hbefore, htext⟩
    induction before with
    | nil => rw [List.nil_append, value_menu_cons, htext]
    | cons other before ih =>
      obtain ⟨context, hcontext⟩ := hbefore other List.mem_cons_self
      have hrest := ih fun text' hmem => hbefore text' (List.mem_cons_of_mem other hmem)
      rw [List.cons_append, value_menu_cons, hcontext, hrest]
      rfl

theorem exists_join_of_value {front back : List Text} {context : Context}
    (h : (menu settings state descriptor (front ++ back)).value = .ok context) :
    ∃ first second, (menu settings state descriptor front).value = .ok first ∧
      (menu settings state descriptor back).value = .ok second ∧ context = first.join second := by
  rw [value_menu_append] at h
  cases hfirst : (menu settings state descriptor front).value with
  | error abort =>
    rw [hfirst] at h
    cases h
  | ok first =>
    cases hsecond : (menu settings state descriptor back).value with
    | error abort =>
      rw [hfirst, hsecond] at h
      cases h
    | ok second =>
      rw [hfirst, hsecond] at h
      exact ⟨first, second, rfl, rfl, (Except.ok.inj h).symm⟩

/-- **A choice among others.** Its record is the one it has alone, but for the numbers. -/
theorem exists_alone_of_value {choices : List Text} {context : Context}
    (h : (menu settings state descriptor choices).value = .ok context) {n : Nat} {text : Text}
    (htext : choices[n]? = some text) :
    ∃ single alone rows, (menu settings state descriptor [text]).value = .ok single ∧
      single.entries = [alone] ∧ context.entries[n]? = some (alone.shift n rows) := by
  obtain ⟨hn, rfl⟩ := List.getElem?_eq_some_iff.1 htext
  have hsplit : choices = choices.take n ++ ([choices[n]] ++ choices.drop (n + 1)) := by
    rw [List.singleton_append, List.getElem_cons_drop, List.take_append_drop]
  rw [hsplit] at h
  obtain ⟨first, rest, hfirst, hrest, rfl⟩ := exists_join_of_value h
  obtain ⟨single, others, hsingle, -, rfl⟩ := exists_join_of_value hrest
  have hlength : single.entries.length = 1 := (processed_of_menu hsingle).records.length_eq
  obtain ⟨alone, halone⟩ := List.length_eq_one_iff.1 hlength
  have hfront : first.entries.length = n := by
    rw [(processed_of_menu hfirst).records.length_eq]
    show (choices.take n).length = n
    rw [List.length_take]
    omega
  have hchoices : first.descriptor.choices.length = n := by
    rw [(processed_of_menu hfirst).descriptor_eq]
    show (choices.take n).length = n
    rw [List.length_take]
    omega
  refine ⟨single, alone, first.visible.length, hsingle, halone, ?_⟩
  show (first.entries ++ (single.entries ++ _).map _)[n]? = _
  rw [List.getElem?_append_right (by omega), hfront, Nat.sub_self, halone, hchoices]
  rfl

/-! ## All that is promised -/

/-- What is promised of the choices of `front` followed by those of `back`. -/
structure Concatenates (settings : Settings) (state : Game.State) (descriptor : Descriptor)
    (front back : List Text) : Prop where
  first_fails : ∀ abort, (menu settings state descriptor front).value = .error abort →
    (menu settings state descriptor (front ++ back)).value = .error abort ∧
      (menu settings state descriptor (front ++ back)).notices =
        (menu settings state descriptor front).notices
  second_fails : ∀ first abort, (menu settings state descriptor front).value = .ok first →
    (menu settings state descriptor back).value = .error abort →
    (menu settings state descriptor (front ++ back)).value = .error abort
  both : ∀ first second, (menu settings state descriptor front).value = .ok first →
    (menu settings state descriptor back).value = .ok second →
    ∃ context, (menu settings state descriptor (front ++ back)).value = .ok context ∧
      context.entries = first.entries ++
        second.entries.map (Entry.shift front.length first.visible.length) ∧
      context.labels = first.labels ++ second.labels ∧
      context.backMapping =
        first.backMapping ++ second.backMapping.map (· + (front.length : Int))
  /-- If the second part is read, it gives the notices that it gives alone. -/
  notices_eq : ∀ first, (menu settings state descriptor front).value = .ok first →
    (menu settings state descriptor (front ++ back)).notices =
        (menu settings state descriptor front).notices ++
          (menu settings state descriptor back).notices.map (Notice.shift front.length) ∧
      warnings (menu settings state descriptor (front ++ back)).notices =
        warnings (menu settings state descriptor front).notices ++
          warnings (menu settings state descriptor back).notices
  /-- The verdict on a choice and its label are those that it has alone. -/
  alone : ∀ context, (menu settings state descriptor (front ++ back)).value = .ok context →
    ∀ (n : Nat) text, (front ++ back)[n]? = some text →
      ∃ single alone rows, (menu settings state descriptor [text]).value = .ok single ∧
        single.entries = [alone] ∧ context.entries[n]? = some (alone.shift n rows)
  /-- The prompt is given up over the first choice that would be given up alone. -/
  first_offender : ∀ abort,
    (menu settings state descriptor (front ++ back)).value = .error abort ↔
      ∃ before text later, front ++ back = before ++ text :: later ∧
        (∀ other ∈ before, ∃ context,
          (menu settings state descriptor [other]).value = .ok context) ∧
        (menu settings state descriptor [text]).value = .error abort

/-- **Processing respects concatenation.** -/
theorem concatenates (settings : Settings) (state : Game.State) (descriptor : Descriptor)
    (front back : List Text) : Concatenates settings state descriptor front back := by
  have hvalue : (menu settings state descriptor (front ++ back)).value = _ :=
    value_menu_append front back
  have hnotices : (menu settings state descriptor (front ++ back)).notices = _ :=
    notices_menu_append front back
  refine ⟨?_, ?_, ?_, ?_, ?_, fun abort => value_menu_eq_error_iff⟩
  · intro abort hfirst
    rw [hfirst] at hvalue hnotices
    rw [List.append_nil] at hnotices
    exact ⟨hvalue, hnotices⟩
  · intro first abort hfirst hsecond
    rw [hfirst, hsecond] at hvalue
    exact hvalue
  · intro first second hfirst hsecond
    rw [hfirst, hsecond] at hvalue
    have hchoices : first.descriptor.choices = front := by
      rw [(processed_of_menu hfirst).descriptor_eq]
    refine ⟨first.join second, hvalue, ?_, labels_join first second, ?_⟩
    · show first.entries ++ second.entries.map
        (Entry.shift first.descriptor.choices.length first.visible.length) = _
      rw [hchoices]
    · rw [backMapping_join, hchoices]
  · intro first hfirst
    rw [hfirst] at hnotices
    refine ⟨hnotices, ?_⟩
    rw [hnotices, warnings_append, warnings_map_shift]
  · intro context hcontext n text htext
    exact exists_alone_of_value hcontext htext

end Prompt

end GatedPrompt
