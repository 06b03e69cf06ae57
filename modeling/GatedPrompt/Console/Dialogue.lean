import GatedPrompt.Console.Output
import GatedPrompt.Definitions.Failure
import GatedPrompt.Notice
import GatedPrompt.Prompt.Session

/-!
# Dialogues

What the console program does, as data: it shows texts, gives notices and may end on the way.

* `Screen` — what is shown: text, and notices beside it;
* `Ending` — how the program ends, in turn or by a `Crash`;
* `Dialogue` — a part of what the program does: what is shown and how it goes on or ends. What would
  come behind an ending does not happen;
* `Dialogue.note`, `Dialogue.print`, `Dialogue.stop` — the parts that all others are made of. A text
  that the stream cannot show ends the program.
-/

namespace GatedPrompt.Console

/-- What is shown: text, and notices beside it. -/
structure Screen where
  text : Text := ""
  notices : List Notice := []
  deriving DecidableEq, Repr, Inhabited

namespace Screen

def append (first second : Screen) : Screen :=
  ⟨first.text ++ second.text, first.notices ++ second.notices⟩

instance : Append Screen := ⟨append⟩

theorem ext_of {x y : Screen} (htext : x.text = y.text) (hnotices : x.notices = y.notices) :
    x = y := by
  cases x; cases y; simp_all

theorem append_assoc (first second third : Screen) :
    first ++ second ++ third = first ++ (second ++ third) :=
  ext_of (Text.append_assoc _ _ _) (List.append_assoc _ _ _)

theorem append_empty (screen : Screen) : screen ++ ({} : Screen) = screen :=
  ext_of (Text.append_empty _) (List.append_nil _)

end Screen

/-- A cause that ends the program out of turn. -/
inductive Crash where
  /-- The definitions cannot be had for a cause that no reader expects. -/
  | definitions (failure : Definitions.Failure)
  /-- A rule that is checked holds a numeral with too many digits. -/
  | oversized (fault : Text.Oversized)
  /-- A text cannot be shown. -/
  | unprintable (unprintable : Unprintable)
  /-- A line was asked for and there was none. -/
  | endOfInput
  | session (failure : Prompt.Failure)
  /-- The option for the directory was given nothing. -/
  | noDirectory
  /-- The option for the scenario was given nothing. -/
  | noScenario
  deriving DecidableEq, Repr, Inhabited

def Crash.message : Crash → Text
  | definitions failure => failure.message
  | oversized fault => fault.message
  | .unprintable text => text.message
  | endOfInput => "EOF when reading a line"
  | session failure => failure.message
  | noDirectory => "expected str, bytes or os.PathLike object, not list"
  | noScenario => "unsupported operand type(s) for /: 'PosixPath' and 'list'"

/-- How the program ends. -/
inductive Ending where
  | exit (code : Nat)
  | crash (crash : Crash)
  deriving DecidableEq, Repr, Inhabited

/-- A part of what the program does: what is shown, and whether the program has ended then. -/
structure Dialogue (α : Type) where
  screen : Screen
  outcome : Except Ending α
  deriving Repr, Inhabited

namespace Dialogue

variable {α β : Type}

/-- Goes on from what a part comes to, unless the program has ended. -/
def andThen (x : Dialogue α) (f : α → Dialogue β) : Dialogue β :=
  match x.outcome with
  | .error ending => ⟨x.screen, .error ending⟩
  | .ok a => ⟨x.screen ++ (f a).screen, (f a).outcome⟩

instance : Monad Dialogue where
  pure a := ⟨{}, .ok a⟩
  bind := andThen

/-- Gives notices. -/
def note (notices : List Notice) : Dialogue Unit := ⟨⟨"", notices⟩, .ok ()⟩

/-- Ends the program. -/
def stop (ending : Ending) : Dialogue α := ⟨{}, .error ending⟩

/-- Shows a text on a stream. -/
def print (encoding : Encoding) (text : Text) : Dialogue Unit :=
  match encoding.refusal? text with
  | some unprintable => stop (.crash (.unprintable unprintable))
  | none => ⟨⟨text, []⟩, .ok ()⟩

/-- Shows texts one after the other. -/
def printAll (encoding : Encoding) : List Text → Dialogue Unit
  | [] => return ()
  | text :: texts => do
    print encoding text
    printAll encoding texts

/-- Two parts that show the same and go on alike are the same. -/
theorem ext_of {x y : Dialogue α} (hscreen : x.screen = y.screen)
    (houtcome : x.outcome = y.outcome) : x = y := by
  cases x; cases y; simp_all

@[simp] theorem stop_bind (ending : Ending) (f : α → Dialogue β) :
    (stop ending >>= f) = stop ending := rfl

/-- A text that the stream has is shown. -/
theorem print_of_shown {encoding : Encoding} {text : Text} (h : encoding.refusal? text = none) :
    print encoding text = ⟨⟨text, []⟩, .ok ()⟩ := by
  rw [print, h]

theorem print_of_refused {encoding : Encoding} {text : Text} {unprintable : Unprintable}
    (h : encoding.refusal? text = some unprintable) :
    print encoding text = stop (.crash (.unprintable unprintable)) := by
  rw [print, h]

/-- The last thing that is shown, if the stream has it. -/
theorem print_stop_of_shown {encoding : Encoding} {text : Text} {ending : Ending}
    (h : encoding.refusal? text = none) :
    (print encoding text >>= fun _ => stop ending) =
      (⟨⟨text, []⟩, .error ending⟩ : Dialogue α) := by
  rw [print_of_shown h]
  exact ext_of (Screen.append_empty _) rfl

theorem note_stop (notices : List Notice) (ending : Ending) :
    (note notices >>= fun _ => stop ending) = (⟨⟨"", notices⟩, .error ending⟩ : Dialogue α) :=
  ext_of (Screen.append_empty _) rfl

instance : LawfulMonad Dialogue :=
  LawfulMonad.mk' Dialogue
    (fun x => by
      obtain ⟨screen, outcome⟩ := x
      cases outcome with
      | error ending => rfl
      | ok a => exact ext_of screen.append_empty rfl)
    (fun _ _ => rfl)
    (fun x f g => by
      obtain ⟨screen, outcome⟩ := x
      cases outcome with
      | error ending => rfl
      | ok a =>
        cases h : (f a).outcome with
        | error ending => simp only [bind, andThen, h]
        | ok b =>
          simp only [bind, andThen, h]
          exact ext_of (Screen.append_assoc _ _ _) rfl)

end Dialogue

end GatedPrompt.Console
