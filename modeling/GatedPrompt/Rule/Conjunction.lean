import GatedPrompt.Logged
import GatedPrompt.Rule.Evaluation
import GatedPrompt.Text.Cut

/-!
# Lists of rules

A list of rules holds if all of its rules do. It is read from left to right up to the first rule
that is false; what happens at a malformed rule before that is a matter of policy.

* `split` — the rules of a text in which commas separate them;
* `Policy` — pass over a malformed rule, let it make the list false, or give up;
* `conjunction` — whether a list of rules holds in a game.
-/

namespace GatedPrompt.Rule

/-- How malformed rules are handled. -/
inductive Policy where
  /-- Pass over the rule with a warning. -/
  | skip
  /-- Take the whole list as false, with a warning. -/
  | fail
  /-- Give up the prompt. -/
  | abort
  deriving DecidableEq, Repr, Inhabited

/-- Why the rules of a prompt have no answer. -/
inductive Abort where
  /-- A malformed rule, under the policy to give up. -/
  | malformed (malformed : Malformed)
  /-- A numeral with too many digits, under any policy. -/
  | oversized (fault : Text.Oversized)
  deriving DecidableEq, Repr, Inhabited

def Abort.message : Abort → Text
  | malformed m => m.message
  | oversized fault => fault.message

/-- The rules of a text in which commas separate them. The empty text has none. -/
def split (text : Text) : List Text :=
  if text.isEmpty then [] else (Text.pieces (.char ',') text.points).map Text.mk

/-- Whether the rest of a list of rules holds, where `sound` tells that no rule before it made the
list false. -/
def conjunctionFrom (policy : Policy) (state : Game.State) :
    Bool → List Text → Attempt Abort Bool
  | sound, [] => pure sound
  | sound, text :: rest =>
    match evaluate state text with
    | .ok true => conjunctionFrom policy state sound rest
    -- A false rule settles the list, and what follows it is not even read.
    | .ok false => pure false
    | .error (.oversized fault) => throw (.oversized fault)
    | .error (.malformed malformed) =>
      match policy with
      | .abort => throw (.malformed malformed)
      | .fail => do
        Attempt.note (.failedList malformed)
        conjunctionFrom policy state false rest
      | .skip => do
        Attempt.note (.skippedRule malformed)
        conjunctionFrom policy state sound rest

/-- Whether a list of rules holds in a game. -/
def conjunction (policy : Policy) (state : Game.State) (rules : List Text) :
    Attempt Abort Bool :=
  conjunctionFrom policy state true rules

/-- Whether the rules of a markup block hold in a game; a block that is absent never does. -/
def block (policy : Policy) (state : Game.State) : Option Text → Attempt Abort Bool
  | none => pure false
  | some body => conjunction policy state (split body)

end GatedPrompt.Rule
