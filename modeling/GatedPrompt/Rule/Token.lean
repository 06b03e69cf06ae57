import GatedPrompt.Game.State
import GatedPrompt.Rule.Comparison
import GatedPrompt.Text.Basic
import GatedPrompt.Text.Cut
import GatedPrompt.Text.Numeral

/-!
# Tokens of rules

The words a rule is made of and how one is read off the front of a text.

* `Lexeme` — a token as it is written; `Lexeme.points` writes it;
* `Lexeme.next?` — the token at the front of a text and what follows it; what was read and what is
  left make up the text (`eq_of_next?`), and something was read (`points_ne_nil_of_next?`);
* `Token` — a token with the numbers it stands for. A token that a caller builds may lack them.

All tokens but comparisons differ in their first code point, and of the comparisons the longest is
taken, so the token read is always the longest one there is.
-/

namespace GatedPrompt.Rule

/-- The letter that a reference to a sort of game data starts with. -/
def letter : Game.Kind → Char
  | .switch => 's'
  | .var => 'v'
  | .actor => 'p'
  | .thing .item => 'i'
  | .thing .weapon => 'w'
  | .thing .armour => 'a'

/-- The sort of game data that references with a letter name. -/
def kindOf? (c : Char) : Option Game.Kind :=
  match c with
  | 's' => some .switch
  | 'v' => some .var
  | 'p' => some .actor
  | 'i' => some (.thing .item)
  | 'w' => some (.thing .weapon)
  | 'a' => some (.thing .armour)
  | _ => none

/-- A token as it is written. -/
inductive Lexeme where
  /-- A letter and an id in brackets. -/
  | reference (kind : Game.Kind) (digits : Text.Points)
  | gold
  | comparison (spelling : String) (comparison : Comparison)
  | literal (sign : Option Text.Sign) (digits : Text.Points)
  deriving DecidableEq, Repr, Inhabited

namespace Lexeme

/-- The code points of a token. -/
def points : Lexeme → Text.Points
  | reference kind digits => .char (letter kind) :: .char '[' :: digits ++ [.char ']']
  | gold => [.char 'g']
  | comparison spelling _ => (Text.ofString spelling).points
  | literal sign digits => sign.toList.map Text.Sign.point ++ digits

/-- A reference at the front of a text. -/
def reference? : Text.Points → Option (Lexeme × Text.Points)
  | .char c :: .char '[' :: cs =>
    match kindOf? c with
    | none => none
    | some kind =>
      let digits := cs.takeWhile Text.isDigit
      match cs.dropWhile Text.isDigit with
      -- The brackets must close right behind at least one digit.
      | .char ']' :: rest => if digits.isEmpty then none else some (reference kind digits, rest)
      | _ => none
  | _ => none

/-- The gold sign at the front of a text. -/
def gold? : Text.Points → Option (Lexeme × Text.Points)
  | .char 'g' :: rest => some (gold, rest)
  | _ => none

/-- A comparison at the front of a text. -/
def comparison? (cs : Text.Points) : Option (Lexeme × Text.Points) :=
  Comparison.spellings.findSome? fun (spelling, c) =>
    (Text.afterMark? (Text.ofString spelling).points cs).map fun rest =>
      (comparison spelling c, rest)

/-- An integer at the front of a text. -/
def literal? (cs : Text.Points) : Option (Lexeme × Text.Points) :=
  let (sign, numeral) := Text.Sign.split cs
  let digits := numeral.takeWhile Text.isDigit
  if digits.isEmpty then none else some (literal sign digits, numeral.dropWhile Text.isDigit)

/-- The token at the front of a text, and what follows it. -/
def next? (cs : Text.Points) : Option (Lexeme × Text.Points) :=
  (reference? cs).or ((gold? cs).or ((comparison? cs).or (literal? cs)))

/-! ## What was read and what is left make up the text -/

/-- The letter of a sort of data is read back. -/
theorem kindOf?_letter (kind : Game.Kind) : kindOf? (letter kind) = some kind := by
  rcases kind with _ | _ | _ | thing
  -- The three sorts without a thing are evident, and so is each thing.
  · rfl
  · rfl
  · rfl
  · cases thing <;> rfl

/-- Only the letter of a sort of data names it. -/
theorem letter_of_kindOf? {c : Char} {kind : Game.Kind} (h : kindOf? c = some kind) :
    letter kind = c := by
  unfold kindOf? at h
  split at h <;> simp at h <;> subst h <;> rfl

private theorem eq_of_reference? {cs rest : Text.Points} {l : Lexeme}
    (h : reference? cs = some (l, rest)) : cs = l.points ++ rest ∧ l.points ≠ [] := by
  unfold reference? at h
  split at h
  · next c cs =>
    split at h
    · simp at h
    · next kind hkind =>
      simp only at h
      split at h
      · next rest' hdrop =>
        split at h
        · simp at h
        · simp only [Option.some.injEq, Prod.mk.injEq] at h
          obtain ⟨rfl, rfl⟩ := h
          have hcs := List.takeWhile_append_dropWhile (p := Text.isDigit) (l := cs)
          rw [hdrop] at hcs
          simp [points, letter_of_kindOf? hkind, hcs]
      · simp at h
  · simp at h

private theorem eq_of_gold? {cs rest : Text.Points} {l : Lexeme}
    (h : gold? cs = some (l, rest)) : cs = l.points ++ rest ∧ l.points ≠ [] := by
  unfold gold? at h
  split at h
  · simp only [Option.some.injEq, Prod.mk.injEq] at h
    obtain ⟨rfl, rfl⟩ := h
    simp [points]
  · simp at h

private theorem eq_of_comparison? {cs rest : Text.Points} {l : Lexeme}
    (h : comparison? cs = some (l, rest)) : cs = l.points ++ rest ∧ l.points ≠ [] := by
  obtain ⟨⟨spelling, c⟩, hmem, hfound⟩ := List.exists_of_findSome?_eq_some h
  obtain ⟨rest', hrest, heq⟩ := Option.map_eq_some_iff.1 hfound
  simp only [Prod.mk.injEq] at heq
  obtain ⟨rfl, rfl⟩ := heq
  -- No spelling is empty: a look at the nine of them.
  refine ⟨Text.afterMark?_eq_some_iff.1 hrest, ?_⟩
  have hne : ∀ entry ∈ Comparison.spellings, (Text.ofString entry.1).points ≠ [] := by decide
  exact hne _ hmem

private theorem eq_of_literal? {cs rest : Text.Points} {l : Lexeme}
    (h : literal? cs = some (l, rest)) : cs = l.points ++ rest ∧ l.points ≠ [] := by
  simp only [literal?] at h
  split at h
  · simp at h
  · next hdigits =>
    simp only [Option.some.injEq, Prod.mk.injEq] at h
    obtain ⟨rfl, rfl⟩ := h
    constructor
    · simp only [points, List.append_assoc, List.takeWhile_append_dropWhile]
      exact (Text.Sign.split_append cs).symm
    · intro hnil
      simp only [points, List.append_eq_nil_iff] at hnil
      simp [hnil.2] at hdigits

private theorem eq_and_ne_nil_of_next? {cs rest : Text.Points} {l : Lexeme}
    (h : next? cs = some (l, rest)) : cs = l.points ++ rest ∧ l.points ≠ [] := by
  simp only [next?, Option.or_eq_some_iff] at h
  rcases h with h | ⟨_, h | ⟨_, h | ⟨_, h⟩⟩⟩
  · exact eq_of_reference? h
  · exact eq_of_gold? h
  · exact eq_of_comparison? h
  · exact eq_of_literal? h

/-- A token that was read and what follows it make up the text. -/
theorem eq_of_next? {cs rest : Text.Points} {l : Lexeme} (h : next? cs = some (l, rest)) :
    cs = l.points ++ rest :=
  (eq_and_ne_nil_of_next? h).1

/-- A token that was read has a code point. -/
theorem points_ne_nil_of_next? {cs rest : Text.Points} {l : Lexeme}
    (h : next? cs = some (l, rest)) : l.points ≠ [] :=
  (eq_and_ne_nil_of_next? h).2

/-- Reading a token leaves a shorter text. -/
theorem length_lt_of_next? {cs rest : Text.Points} {l : Lexeme} (h : next? cs = some (l, rest)) :
    rest.length < cs.length := by
  have hlen := congrArg List.length (eq_of_next? h)
  have hpos := List.length_pos_iff.2 (points_ne_nil_of_next? h)
  simp only [List.length_append] at hlen
  omega

end Lexeme

/-- What a token stands for. The number is missing if whoever built the token gave none. -/
inductive Symbol where
  | reference (kind : Game.Kind) (id : Option Int)
  | gold
  | literal (value : Option Int)
  | comparison (comparison : Comparison)
  deriving DecidableEq, Repr, Inhabited

/-- A token: how it is written and what it stands for. -/
structure Token where
  text : Text
  symbol : Symbol
  deriving DecidableEq, Repr, Inhabited

/-- What a written token stands for, unless its numeral is too long. -/
def Lexeme.symbol : Lexeme → Except Text.Oversized Symbol
  | reference kind digits =>
    match Text.readNatural digits with
    | .error fault => .error fault
    | .ok id => .ok (.reference kind (some id))
  | gold => .ok .gold
  | comparison _ c => .ok (.comparison c)
  | literal sign digits =>
    match Text.readNatural digits with
    | .error fault => .error fault
    | .ok n => .ok (.literal (some (Text.Sign.apply sign n)))

/-- The token that is written so, unless its numeral is too long. -/
def Lexeme.token (l : Lexeme) : Except Text.Oversized Token :=
  match l.symbol with
  | .error fault => .error fault
  | .ok symbol => .ok ⟨⟨l.points⟩, symbol⟩

end GatedPrompt.Rule
