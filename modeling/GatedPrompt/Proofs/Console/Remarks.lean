import GatedPrompt.Console.Menu
import GatedPrompt.Proofs.Prompt.Labels
import GatedPrompt.Proofs.Prompt.Rows
import GatedPrompt.Proofs.Prompt.ViewAnswers

/-!
# Remarks behind disabled choices

The labels in a view begin with a marker where a choice is disabled. A console cannot draw the
marker and puts a remark behind the label instead. It goes by the labels alone, although the view
also names the disabled rows; so the two agree only as long as no text of its own begins like the
marker.

* `labelText_marked`, `labelText_eq_self_iff` — how the console shows a label;
* `OwnText` — the text of a row without the marker, as the author and the table of substitutions
  have it;
* `Remarked` — what is promised of the rows on the console;
* `remarked_of_openPrompt` — this promise is kept for every view;
* `not_remarked_marker_as_text` — a choice that is not disabled is remarked on as one that is.
-/

namespace GatedPrompt.Console

open Prompt (Context Descriptor Entry Processed Session Settings Stands View disabledMarker)

/-! ## One label -/

/-- A label that begins with the marker is shown without it, and with the remark. -/
theorem labelText_marked (shown : Text) :
    labelText (disabledMarker ++ shown) = shown ++ disabledRemark := by
  have hafter : Text.afterMark? disabledMarker.points (disabledMarker ++ shown).points =
      some shown.points := Text.afterMark?_eq_some_iff.2 rfl
  rw [labelText, hafter]

/-- Every other label is shown as it is. -/
theorem labelText_eq_self_iff {label : Text} :
    labelText label = label ↔ ¬∃ rest, label = disabledMarker ++ rest := by
  constructor
  · rintro hself ⟨rest, rfl⟩
    -- the remark is longer than the marker
    rw [labelText_marked] at hself
    have hlength := congrArg (·.points.length) hself
    simp only [Text.points_append, List.length_append] at hlength
    have hmarker : disabledMarker.points.length = 5 := rfl
    have hremark : disabledRemark.points.length = 11 := rfl
    omega
  · intro hnone
    rw [labelText]
    cases hafter : Text.afterMark? disabledMarker.points label.points with
    | none => rfl
    | some rest =>
      have hpoints : label.points = disabledMarker.points ++ rest :=
        Text.afterMark?_eq_some_iff.1 hafter
      exact absurd ⟨⟨rest⟩, congrArg Text.mk hpoints⟩ hnone

/-! ## The rows of a view -/

/-- The text of a row without the marker: what stands for the label of its choice. -/
def OwnText (settings : Settings) (descriptor : Descriptor) (view : View) (row : Nat)
    (shown : Text) : Prop :=
  ∃ (i : Nat) (text : Text), view.indices[row]? = some (i : Int) ∧
    descriptor.choices[i]? = some text ∧
    Stands settings.substitutions (decide ((row : Int) ∈ view.disabledRows))
      (Choice.Markup.read text).label shown

/-- What is promised of the rows on the console. -/
structure Remarked (settings : Settings) (descriptor : Descriptor) (view : View) : Prop where
  own : ∀ row, row < view.rowCount →
    ∃ shown, ∀ other, OwnText settings descriptor view row other ↔ other = shown
  no_other_row : ∀ row shown, OwnText settings descriptor view row shown → row < view.rowCount
  /-- A disabled row has the remark in place of the marker. -/
  disabled : ∀ row shown, OwnText settings descriptor view row shown →
    (row : Int) ∈ view.disabledRows →
    view.labels[row]? = some (disabledMarker ++ shown) ∧
      labelText (disabledMarker ++ shown) = shown ++ disabledRemark
  /-- Any other row is shown as it is just if its own text does not begin like the marker. -/
  enabled : ∀ row shown, OwnText settings descriptor view row shown →
    (row : Int) ∉ view.disabledRows →
    view.labels[row]? = some shown ∧
      (labelText shown = shown ↔ ¬∃ rest, shown = disabledMarker ++ rest)
  /-- So the console tells the disabled rows from the others just if none of the others has a text
  of its own that begins like the marker. -/
  agrees_iff : (∀ (row : Nat) (label : Text), view.labels[row]? = some label →
      (row : Int) ∉ view.disabledRows → labelText label = label) ↔
    ∀ row rest, OwnText settings descriptor view row (disabledMarker ++ rest) →
      (row : Int) ∈ view.disabledRows

variable {settings : Settings} {state : Game.State} {descriptor : Descriptor} {context : Context}
  {highlighted : Option Int}

/-- Just one text stands for a label, and the marker is all that may come before it. -/
theorem exists_stands (settings : Settings) (disabled : Bool) (label : Text) :
    ∃ shown, (∀ other, Stands settings.substitutions disabled label other ↔ other = shown) ∧
      Prompt.renderLabel settings disabled label =
        (if disabled then disabledMarker else "") ++ shown :=
  ⟨_, fun _ => Prompt.stands_iff, Prompt.renderLabel_eq settings disabled label⟩

/-- The choice on a row, and the label that the view has for it. -/
theorem exists_choice_of_visible (h : Processed settings state descriptor context) {row : Nat}
    {entry : Entry} (hentry : context.visible[row]? = some entry) :
    ∃ (i : Nat) (text : Text), context.backMapping[row]? = some (i : Int) ∧
      descriptor.choices[i]? = some text ∧
      entry.label = Prompt.renderLabel settings entry.disabled (Choice.Markup.read text).label := by
  obtain ⟨n, hn⟩ := List.mem_iff_getElem?.1 (List.mem_filter.1 (List.mem_of_getElem? hentry)).1
  obtain ⟨hindex, htext, -⟩ := h.records.of_getElem? hn
  obtain ⟨_, label, hsame, -, hevaluated, hlabel⟩ := h.records.exists_of_getElem? htext
  obtain rfl := Option.some.inj (hn.symm.trans hsame)
  obtain ⟨rfl, -⟩ := Prompt.parts_of_evaluateChoice hevaluated
  refine ⟨n, _, ?_, htext, hlabel⟩
  rw [Context.getElem?_backMapping hentry, hindex, Nat.zero_add]

/-- The label of a row is its own text, behind the marker if the row is disabled. -/
theorem exists_ownText (h : Processed settings state descriptor context) {row : Nat}
    (hrow : row < (context.viewWith highlighted).rowCount) :
    ∃ shown, (∀ other, OwnText settings descriptor (context.viewWith highlighted) row other ↔
        other = shown) ∧
      (context.viewWith highlighted).labels[row]? =
        some ((if (row : Int) ∈ (context.viewWith highlighted).disabledRows then disabledMarker
          else "") ++ shown) := by
  have hlabels : (context.viewWith highlighted).labels = context.visible.map Entry.label := rfl
  have hindices : (context.viewWith highlighted).indices = context.backMapping := rfl
  have hdisabledRows : (context.viewWith highlighted).disabledRows = context.disabledRows := rfl
  rw [View.rowCount, hlabels, List.length_map] at hrow
  -- the row, the record on it, the choice that the record is of, and the text for its label
  have hentry : context.visible[row]? = some context.visible[row] := List.getElem?_eq_getElem hrow
  generalize context.visible[row] = entry at hentry
  obtain ⟨n, text, hn, htext, hlabel⟩ := exists_choice_of_visible h hentry
  obtain ⟨shown, hstands, hrendered⟩ :=
    exists_stands settings entry.disabled (Choice.Markup.read text).label
  have hdisabled : (row : Int) ∈ context.disabledRows ↔ entry.disabled = true :=
    h.mem_disabledRows_of_getElem? hentry
  have hdecide : decide ((row : Int) ∈ context.disabledRows) = entry.disabled := by
    rw [Bool.eq_iff_iff, decide_eq_true_iff, hdisabled]
  refine ⟨shown, fun other => ?_, ?_⟩
  · rw [← hstands, OwnText, hdisabledRows, hindices, hdecide]
    constructor
    · rintro ⟨i, other, hi, hchoice, hother⟩
      obtain rfl : n = i := Int.ofNat.inj (Option.some.inj (hn.symm.trans hi))
      obtain rfl := Option.some.inj (htext.symm.trans hchoice)
      exact hother
    · intro hother
      exact ⟨n, text, hn, htext, hother⟩
  · rw [hlabels, List.getElem?_map, hentry, Option.map_some, hlabel, hrendered, hdisabledRows]
    simp only [hdisabled]

/-! ## All that is promised -/

theorem remarked_of_processed (h : Processed settings state descriptor context) :
    Remarked settings descriptor (context.viewWith highlighted) := by
  have hrow {row : Nat} {shown : Text}
      (hown : OwnText settings descriptor (context.viewWith highlighted) row shown) :
      row < (context.viewWith highlighted).rowCount := by
    obtain ⟨i, -, hi, -⟩ := hown
    exact Context.lt_rowCount hi
  have hlabel {row : Nat} {shown : Text}
      (hown : OwnText settings descriptor (context.viewWith highlighted) row shown) :
      (context.viewWith highlighted).labels[row]? =
        some ((if (row : Int) ∈ (context.viewWith highlighted).disabledRows then disabledMarker
          else "") ++ shown) := by
    obtain ⟨own, hiff, hlabels⟩ := exists_ownText h (hrow hown)
    obtain rfl := (hiff shown).1 hown
    exact hlabels
  refine ⟨fun row hlt => ?_, fun row shown => hrow, ?_, ?_, ?_⟩
  · obtain ⟨shown, hiff, -⟩ := exists_ownText h hlt
    exact ⟨shown, hiff⟩
  · intro row shown hown hdisabled
    rw [hlabel hown, if_pos hdisabled]
    exact ⟨rfl, labelText_marked shown⟩
  · intro row shown hown henabled
    rw [hlabel hown, if_neg henabled]
    exact ⟨rfl, labelText_eq_self_iff⟩
  · constructor
    · intro hagrees row rest hown
      by_contra henabled
      have hlabels := hlabel hown
      rw [if_neg henabled] at hlabels
      exact labelText_eq_self_iff.1 (hagrees row _ hlabels henabled) ⟨rest, rfl⟩
    · intro hown row label hlabels henabled
      obtain ⟨shown, hiff, hshown⟩ := exists_ownText h (List.getElem?_eq_some_iff.1 hlabels).1
      rw [if_neg henabled] at hshown
      obtain rfl : label = shown := Option.some.inj (hlabels.symm.trans hshown)
      refine labelText_eq_self_iff.2 ?_
      rintro ⟨rest, rfl⟩
      exact henabled (hown row rest ((hiff _).2 rfl))

/-- **How the rows are shown.** For every view that a prompt is opened with. -/
theorem remarked_of_openPrompt {session next : Session} {view : View}
    (h : (session.openPrompt state descriptor).value = (next, .ok (some view))) :
    Remarked session.settings descriptor view := by
  obtain ⟨context, -, hview, hp⟩ := Prompt.processed_of_openPrompt h
  obtain ⟨highlighted, rfl⟩ := Context.viewWith_of_view hview
  exact remarked_of_processed hp

/-- The first row is disabled and the second one is not; a substitution stands for both labels. -/
theorem remarked_substituted :
    let settings : Settings := { substitutions := [⟨"A", "Open", "\\C[7]Shut"⟩] }
    let descriptor : Descriptor := ⟨["<<[g>3]>>A", "A"], -1, -1⟩
    let view : View := ⟨["\\C[7]\\C[7]Shut", "Open"], [0, 1], none, [0]⟩
    let next : Session := ⟨settings, some ⟨descriptor,
      [⟨0, "<<[g>3]>>A", "\\C[7]\\C[7]Shut", false, true, some 0⟩,
        ⟨1, "A", "Open", false, false, some 1⟩]⟩⟩
    (Session.openPrompt ⟨settings, none⟩ { gold := 5 } descriptor).value =
        (next, .ok (some view)) ∧
      Remarked settings descriptor view := by
  intro settings descriptor view next
  have hopen : (Session.openPrompt ⟨settings, none⟩ { gold := 5 } descriptor).value =
      (next, .ok (some view)) := by decide +kernel
  exact ⟨hopen, remarked_of_openPrompt hopen⟩

/-- **A marker in the text itself.** The only row is not disabled, and yet it is shown without the
beginning of its label and with the remark. -/
theorem not_remarked_marker_as_text :
    let descriptor : Descriptor := ⟨["\\C[7]Buy"], -1, -1⟩
    let view : View := ⟨["\\C[7]Buy"], [0], none, []⟩
    (Session.openPrompt ⟨{}, none⟩ {} descriptor).value.2 = .ok (some view) ∧
      0 ∉ view.disabledRows ∧ view.labels.map labelText = [("Buy (disabled)" : Text)] ∧
      view.labels.map labelText ≠ view.labels ∧
      menuLines "Shop" view =
        [("\n=== Shop ===\n" : Text), ("  1. Buy (disabled)\n" : Text)] := by
  decide +kernel

end GatedPrompt.Console
