import GatedPrompt.Proofs.Rule.Lexing

/-!
# The longest token

The reader commits to the first token that fits and never takes it back. What it commits to is the
longest token there is at that place, and nothing is lost by it: a text that can be cut into tokens
in any way at all is cut into tokens by always taking the longest.

* `Lexeme.IsLongest` — the longest of the tokens at the front of a text;
* `next?_eq_some_iff_isLongest`, `next?_eq_none_iff` — the reader takes the longest token, and it
  takes none only where no token starts;
* `MaximalMunch` — tokens one after the other, each the longest at its place;
* `Segmentable` — a text is a sequence of tokens, in some way or other. This is so exactly if it
  falls into longest tokens (`segmentable_iff`).

Only two sorts of tokens can go on, comparisons and numerals, and both do so by one code point at a
time: `exists_longer` is that step, and what is said here of whole texts is an induction over it.
-/

namespace GatedPrompt.Rule

open Text (Points isDigit)

/-- A code point that makes a longer token of a comparison or of a numeral. -/
def Prolongs (p : Text.CodePoint) : Prop := p = .char '=' ∨ isDigit p = true

namespace Lexeme

/-- The longest of the tokens at the front of a text. -/
structure IsLongest (l : Lexeme) (cs : Points) : Prop where
  isWritten : l.IsWritten
  isPrefix : l.points <+: cs
  longest : ∀ other : Lexeme, other.IsWritten → other.points <+: cs →
    other.points.length ≤ l.points.length

/-! ## How tokens go on -/

/-- At the end of a text every token ends. -/
theorem ends_nil (l : Lexeme) : l.Ends [] := by
  cases l with
  | comparison spelling c =>
    intro hhead
    cases hhead
  | literal sign digits =>
    intro p hp
    cases hp
  | reference kind digits => trivial
  | gold => trivial

/-- **A token that goes on does so by one code point**, which makes a longer token of it. -/
theorem exists_longer {l : Lexeme} (hl : l.IsWritten) {rest : Points} (hends : ¬l.Ends rest) :
    ∃ p rest', ∃ longer : Lexeme, rest = p :: rest' ∧ Prolongs p ∧ longer.IsWritten ∧
      longer.points = l.points ++ [p] := by
  cases l with
  | comparison spelling c =>
    simp only [Ends, Classical.not_imp, not_forall, not_not] at hends
    obtain ⟨hhead, c', hlonger⟩ := hends
    obtain ⟨rest', rfl⟩ := List.head?_eq_some_iff.1 hhead
    refine ⟨_, rest', comparison (spelling ++ "=") c', rfl, .inl rfl, hlonger, ?_⟩
    simp [points, Text.ofString, Text.ofChars]
  | literal sign digits =>
    simp only [Ends, not_forall] at hends
    obtain ⟨p, hhead, hp⟩ := hends
    obtain ⟨rest', rfl⟩ := List.head?_eq_some_iff.1 hhead
    have hdigit : isDigit p = true := by simpa using hp
    refine ⟨p, rest', literal sign (digits ++ [p]), rfl, .inr hdigit, ⟨by simp, ?_⟩, ?_⟩
    · intro q hq
      rcases List.mem_append.1 hq with hq | hq
      · exact hl.isDigit q hq
      · obtain rfl := List.mem_singleton.1 hq
        exact hdigit
    · simp [points]
  -- References and gold end wherever they are.
  | reference kind digits => exact absurd trivial hends
  | gold => exact absurd trivial hends

/-- Where a token is written, a token is read that is at least as long. -/
theorem exists_read {l : Lexeme} (hl : l.IsWritten) (rest : Points) :
    ∃ found rest', next? (l.points ++ rest) = some (found, rest') ∧
      l.points.length ≤ found.points.length := by
  -- The induction is on what follows the token, of which it takes up one code point at a time.
  induction rest generalizing l with
  | nil => exact ⟨l, [], next?_append hl l.ends_nil, Nat.le_refl _⟩
  | cons p rest ih =>
    by_cases hends : l.Ends (p :: rest)
    · exact ⟨l, p :: rest, next?_append hl hends, Nat.le_refl _⟩
    · obtain ⟨p', rest', longer, hrest, -, hlonger, hpoints⟩ := exists_longer hl hends
      obtain ⟨rfl, rfl⟩ := List.cons.inj hrest
      obtain ⟨found, rest', hread, hle⟩ := ih hlonger
      have htext : longer.points ++ rest = l.points ++ p :: rest := by
        rw [hpoints, List.append_assoc, List.singleton_append]
      refine ⟨found, rest', by rw [← htext, hread], ?_⟩
      rw [hpoints, List.length_append] at hle
      omega

/-! ## The reader takes the longest token -/

section

variable {cs rest : Points} {l l' : Lexeme}

/-- No token is read exactly where no token starts. -/
theorem next?_eq_none_iff : next? cs = none ↔ ∀ l : Lexeme, l.IsWritten → ¬l.points <+: cs := by
  constructor
  · rintro hnone l hl ⟨rest, rfl⟩
    -- where a token starts, it is read or a longer one
    obtain ⟨found, rest', hread, -⟩ := exists_read hl rest
    rw [hnone] at hread
    cases hread
  · intro hnot
    cases hnext : next? cs with
    | none => rfl
    | some found =>
      obtain ⟨l, rest⟩ := found
      obtain ⟨rfl, hl, -⟩ := next?_eq_some_iff.1 hnext
      exact absurd (List.prefix_append l.points rest) (hnot l hl)

theorem isLongest_of_next? (h : next? cs = some (l, rest)) : l.IsLongest cs := by
  obtain ⟨rfl, hl, -⟩ := next?_eq_some_iff.1 h
  refine ⟨hl, List.prefix_append l.points rest, ?_⟩
  rintro other hother ⟨rest', hrest'⟩
  obtain ⟨found, behind, hread, hle⟩ := exists_read hother rest'
  -- what is read where the other token is written is this one
  rw [hrest', h] at hread
  obtain ⟨rfl, -⟩ : l = found ∧ _ := by simpa using hread
  exact hle

/-- A token is told by how it is written. -/
theorem eq_of_points_eq (hl : l.IsWritten) (hl' : l'.IsWritten) (heq : l.points = l'.points) :
    l = l' := by
  have hread : next? (l.points ++ []) = some (l, []) := next?_append hl l.ends_nil
  have hread' : next? (l'.points ++ []) = some (l', []) := next?_append hl' l'.ends_nil
  rw [heq, hread'] at hread
  have hsame : l' = l := by simpa using hread
  exact hsame.symm

/-- Of the tokens at the front of a text only one is the longest. -/
theorem IsLongest.unique (h : l.IsLongest cs) (h' : l'.IsLongest cs) : l = l' := by
  -- both are at the front of the text, and neither is longer than the other
  have hle : l.points.length ≤ l'.points.length := h'.longest l h.isWritten h.isPrefix
  have hge : l'.points.length ≤ l.points.length := h.longest l' h'.isWritten h'.isPrefix
  have hfront : l.points <+: l'.points := List.prefix_of_prefix_length_le h.isPrefix h'.isPrefix hle
  have hlength : l.points.length = l'.points.length := by omega
  exact eq_of_points_eq h.isWritten h'.isWritten (hfront.eq_of_length hlength)

/-- **The reader takes the longest token** and leaves what follows it. -/
theorem next?_eq_some_iff_isLongest :
    next? cs = some (l, rest) ↔ cs = l.points ++ rest ∧ l.IsLongest cs := by
  constructor
  · intro h
    exact ⟨eq_of_next? h, isLongest_of_next? h⟩
  · rintro ⟨rfl, hlongest⟩
    obtain ⟨found, rest', hread, -⟩ := exists_read hlongest.isWritten rest
    obtain rfl : found = l := (isLongest_of_next? hread).unique hlongest
    have hrest : rest = rest' := List.append_cancel_left (eq_of_next? hread)
    rw [hread, hrest]

/-- A token is the longest where it is written and ends. -/
theorem isLongest_iff : l.IsLongest (l.points ++ rest) ↔ l.IsWritten ∧ l.Ends rest := by
  -- Either side says that the reader takes the token.
  constructor
  · intro h
    have hread : next? (l.points ++ rest) = some (l, rest) := next?_eq_some_iff_isLongest.2 ⟨rfl, h⟩
    exact isWritten_and_ends_of_next? hread
  · rintro ⟨hl, hends⟩
    exact isLongest_of_next? (next?_append hl hends)

end

end Lexeme

/-! ## Whole texts -/

/-- Each of the tokens is the longest at its place in the text that they make up with what follows
them. -/
def MaximalMunch : List Lexeme → Points → Prop
  | [], _ => True
  | l :: ls, rest => l.IsLongest (written (l :: ls) ++ rest) ∧ MaximalMunch ls rest

/-- A text is a sequence of tokens, in some way or other. -/
def Segmentable (cs : Points) : Prop :=
  ∃ ls : List Lexeme, (∀ l ∈ ls, l.IsWritten) ∧ written ls = cs

section

variable {ls : List Lexeme} {cs rest : Points} {p : Text.CodePoint} {l : Lexeme}

/-- Tokens that end where the next one starts are the longest at their places. -/
theorem munched_iff_maximalMunch : Munched ls rest ↔ MaximalMunch ls rest := by
  induction ls with
  | nil => exact Iff.rfl
  | cons l ls ih =>
    rw [Munched, MaximalMunch, written_cons, List.append_assoc, Lexeme.isLongest_iff, ih, and_assoc]

theorem isWritten_of_munched (h : Munched ls rest) : ∀ l ∈ ls, l.IsWritten := by
  induction ls with
  | nil => simp
  | cons l ls ih => exact List.forall_mem_cons.2 ⟨h.1, ih h.2.2⟩

/-- Neither a letter nor a sign prolongs a token. -/
theorem not_prolongs {c : Char} (hequals : c ≠ '=') (hdigit : isDigit (.char c) = false) :
    ¬Prolongs (.char c) := by
  rintro (h | h)
  · exact hequals (by simpa using h)
  · rw [hdigit] at h
    cases h

/-- A token that starts with what prolongs tokens is this one code point, or the rest of it is a
token again. -/
theorem Lexeme.exists_shorter (hl : l.IsWritten) (hpoints : l.points = p :: cs)
    (hp : Prolongs p) : cs = [] ∨ ∃ shorter : Lexeme, shorter.IsWritten ∧ shorter.points = cs := by
  cases l with
  | reference kind digits =>
    obtain ⟨rfl, -⟩ := List.cons.inj hpoints
    refine absurd hp (not_prolongs ?_ (isDigit_letter kind))
    rcases kind with _ | _ | _ | _ | _ | _ <;> decide
  | gold =>
    obtain ⟨rfl, -⟩ := List.cons.inj hpoints
    exact absurd hp (not_prolongs (by decide) (by decide))
  | comparison spelling c =>
    obtain ⟨q, ps, hq, hstarts⟩ := Lexeme.exists_starts hl
    obtain ⟨rfl, rfl⟩ : q = p ∧ ps = cs := List.cons.inj (hq.symm.trans hpoints)
    obtain rfl : q = .char '=' := by
      rcases hstarts with rfl | rfl | rfl | rfl
      · rfl
      · exact absurd hp (not_prolongs (by decide) (by decide))
      · exact absurd hp (not_prolongs (by decide) (by decide))
      · exact absurd hp (not_prolongs (by decide) (by decide))
    -- Of the nine spellings three start so: without the sign in front, nothing is left of the
    -- shortest one, and of either other one the next shorter.
    have hall : ∀ entry ∈ Comparison.spellings,
        (Text.ofString entry.1).points.head? = some (.char '=') →
          (Text.ofString entry.1).points.tail = [] ∨ ∃ shorter ∈ Comparison.spellings,
            (Text.ofString shorter.1).points = (Text.ofString entry.1).points.tail := by decide
    have hspelling : (Text.ofString spelling).points = .char '=' :: ps := hpoints
    have hentry := hall (spelling, c) (mem_spellings_iff.2 hl)
    simp only [hspelling, List.head?_cons, List.tail_cons, true_implies] at hentry
    rcases hentry with rfl | ⟨⟨spelling', c'⟩, hmem, hshorter⟩
    · exact .inl rfl
    · exact .inr ⟨comparison spelling' c', mem_spellings_iff.1 hmem, hshorter⟩
  | literal sign digits =>
    cases sign with
    | some sign =>
      obtain ⟨rfl, -⟩ := List.cons.inj hpoints
      cases sign with
      | plus => exact absurd hp (not_prolongs (by decide) (by decide))
      | minus => exact absurd hp (not_prolongs (by decide) (by decide))
    | none =>
      obtain rfl : digits = p :: cs := hpoints
      by_cases hne : cs = []
      · exact .inl hne
      · exact .inr ⟨literal none cs, ⟨hne, fun q hq => hl.isDigit q (List.mem_cons_of_mem p hq)⟩, rfl⟩

/-- What prolongs tokens can be taken off the front of a segmentable text. -/
theorem Segmentable.of_cons (h : Segmentable (p :: cs)) (hp : Prolongs p) : Segmentable cs := by
  obtain ⟨ls, hls, hwritten⟩ := h
  cases ls with
  | nil => cases hwritten
  | cons l ls =>
    -- the first token starts with the code point, and what is left of it is one token or none
    obtain ⟨hl, hls⟩ := List.forall_mem_cons.1 hls
    obtain ⟨q, ps, hq, -⟩ := Lexeme.exists_starts hl
    rw [written_cons, hq, List.cons_append] at hwritten
    obtain ⟨rfl, rfl⟩ := List.cons.inj hwritten
    rcases Lexeme.exists_shorter hl hq hp with rfl | ⟨shorter, hshorter, rfl⟩
    · exact ⟨ls, hls, rfl⟩
    · exact ⟨shorter :: ls, List.forall_mem_cons.2 ⟨hshorter, hls⟩, rfl⟩

/-- **Nothing is lost by taking the longest token**: if any token can be taken so that the rest is
segmentable, then so is what the longest one leaves. -/
theorem Segmentable.of_next? (hl : l.IsWritten) (h : Segmentable cs) {found : Lexeme}
    (hnext : Lexeme.next? (l.points ++ cs) = some (found, rest)) : Segmentable rest := by
  -- The token is prolonged to the longest one by what stands at the front of the rest.
  induction cs generalizing l with
  | nil =>
    rw [Lexeme.next?_append hl l.ends_nil] at hnext
    obtain ⟨-, rfl⟩ : l = found ∧ [] = rest := by simpa using hnext
    exact h
  | cons p cs ih =>
    by_cases hends : l.Ends (p :: cs)
    · rw [Lexeme.next?_append hl hends] at hnext
      obtain ⟨-, rfl⟩ : l = found ∧ p :: cs = rest := by simpa using hnext
      exact h
    · obtain ⟨p', cs', longer, hcs, hp, hlonger, hpoints⟩ := Lexeme.exists_longer hl hends
      obtain ⟨rfl, rfl⟩ := List.cons.inj hcs
      refine ih hlonger (h.of_cons hp) ?_
      rw [hpoints, List.append_assoc, List.singleton_append]
      exact hnext

/-- **A text that can be cut into tokens in any way falls into longest tokens.** -/
theorem segmentable_iff : Segmentable cs ↔ ∃ ls, written ls = cs ∧ MaximalMunch ls [] := by
  constructor
  · -- Each token makes the text shorter, so the induction is on its length.
    intro h
    induction hlength : cs.length using Nat.strong_induction_on generalizing cs with
    | _ n ih =>
      obtain ⟨ls, hls, rfl⟩ := h
      cases ls with
      | nil => exact ⟨[], rfl, trivial⟩
      | cons l ls =>
        -- instead of the first token of the sequence, take the longest one at its place
        obtain ⟨hl, hls⟩ := List.forall_mem_cons.1 hls
        obtain ⟨found, rest, hnext, -⟩ := Lexeme.exists_read hl (written ls)
        have hrest : Segmentable rest := Segmentable.of_next? hl ⟨ls, hls, rfl⟩ hnext
        have hshorter : rest.length < (l.points ++ written ls).length :=
          Lexeme.length_lt_of_next? hnext
        obtain ⟨others, rfl, hothers⟩ := ih rest.length (by simpa [← hlength] using hshorter) hrest rfl
        obtain ⟨htext, hlongest⟩ := Lexeme.next?_eq_some_iff_isLongest.1 hnext
        refine ⟨found :: others, htext.symm, ?_, hothers⟩
        rw [List.append_nil, written_cons, ← htext]
        exact hlongest
  · rintro ⟨ls, rfl, hmunch⟩
    exact ⟨ls, isWritten_of_munched (munched_iff_maximalMunch.2 hmunch), rfl⟩

end

end GatedPrompt.Rule
