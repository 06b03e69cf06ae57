import GatedPrompt.Rule.Conjunction

/-!
# Settings

What a host fixes once for all prompts.

* `SoundCue` — the sound to play when a choice is refused;
* `Substitution` — a label code and the texts that replace it;
* `HiddenDefault` — what to highlight if the default choice is hidden;
* `Settings` — all of these and the policy on malformed rules;
* `Settings.substitution?` — the first substitution for a label.
-/

namespace GatedPrompt.Prompt

/-- A sound for the host to play. -/
structure SoundCue where
  name : Text
  volume : Int := 100
  pitch : Int := 100
  pan : Int := 0
  deriving DecidableEq, Repr, Inhabited

/-- The texts that replace a label code. -/
structure Substitution where
  code : Text
  defaultText : Text
  disabledText : Text
  deriving DecidableEq, Repr, Inhabited

/-- The text that stands for the code of a substitution. -/
def Substitution.textFor (substitution : Substitution) (disabled : Bool) : Text :=
  if disabled then substitution.disabledText else substitution.defaultText

/-- What to highlight if the default choice is hidden. -/
inductive HiddenDefault where
  | nothing
  /-- The first row. -/
  | first
  /-- The nearest visible choice behind the default, or else before it. -/
  | next
  /-- The nearest visible choice before the default, or else behind it. -/
  | previous
  deriving DecidableEq, Repr, Inhabited

/-- What a host fixes once for all prompts. -/
structure Settings where
  /-- The sound to play when a choice is refused. -/
  sound : Option SoundCue := none
  hiddenDefault : HiddenDefault := .nothing
  policy : Rule.Policy := .skip
  substitutions : List Substitution := []
  deriving DecidableEq, Repr, Inhabited

/-- The first substitution whose code is the label. -/
def Settings.substitution? (settings : Settings) (label : Text) : Option Substitution :=
  settings.substitutions.find? fun substitution => substitution.code == label

end GatedPrompt.Prompt
