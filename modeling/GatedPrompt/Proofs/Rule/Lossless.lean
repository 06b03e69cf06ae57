import GatedPrompt.Proofs.Rule.Munching
import GatedPrompt.Proofs.Rule.Negation

/-!
# The tokens of a text make it up again

Reading tokens loses nothing. Either the tokens and the negation mark are the text, each token the
longest at its place and read again if it is read alone; or the text is refused, and the refusal
quotes just that part of it at which no token starts. What stands before this part is read.

* `joined` — the texts of tokens, one after the other;
* `Lossless` — how tokens and a text belong together;
* `Unread` — how a refusal and a text belong together;
* `accounted_tokenize` — the reader ends in one of these two ways on every text but the empty one.

The reader works from the front, so both are carried over from what is read to what is left: a token
that is the longest in a text stays the longest if something behind it is cut off
(`Lexeme.IsLongest.of_append`).
-/

namespace GatedPrompt.Rule

open Text (Points)

/-- The texts of tokens, one after the other. -/
def joined (ts : List Token) : Points := ts.flatMap fun t => t.text.points

/-- Tokens, and a negation mark if there is one, make up a text again. -/
structure Lossless (text : Text) (ts : List Token) (negated : Bool) : Prop where
  points_eq : text.points = mark negated ++ joined ts
  ne_nil : ∀ t ∈ ts, t.text.points ≠ []
  /-- From each token on the text is left that starts with it, and no longer token does. -/
  longest : ∀ before t behind, ts = before ++ t :: behind →
    ∃ l : Lexeme, l.asToken = t ∧ l.IsLongest (joined (t :: behind))
  /-- An exclamation mark at the front would be the negation mark. -/
  alone : ∀ t ∈ ts, t.text ≠ "!=" → t.text ≠ "!==" → tokenize t.text = .ok ([t], false)

/-- A text is refused for the rest of it, at which no token starts. -/
structure Unread (text : Text) (report : Malformed) (rest : Text) : Prop where
  rule_eq : report.rule = text
  category_eq : report.defect.category = .unexpectedCharacters
  detail_eq : report.defect.detail = "Characters '" ++ rest ++ "' could not be processed."
  ne_nil : rest.points ≠ []
  no_token : ∀ l : Lexeme, l.IsWritten → ¬l.points <+: rest.points
  /-- What stands before the rest is read, if there is anything. -/
  before : ∃ read : Text, text = read ++ rest ∧
    (read.points ≠ [] → ∃ ts negated, tokenize read = .ok (ts, negated))

/-! ## Tokens of a shorter text -/

section

variable {l : Lexeme} {ls : List Lexeme} {cs rest : Points}

theorem Lexeme.IsLongest.of_append (h : l.IsLongest (cs ++ rest)) (hfront : l.points <+: cs) :
    l.IsLongest cs := by
  refine ⟨h.isWritten, hfront, ?_⟩
  intro other hother hcs
  -- what is at the front of the part is at the front of the whole
  exact h.longest other hother (hcs.trans (List.prefix_append cs rest))

theorem MaximalMunch.of_append (h : MaximalMunch ls (cs ++ rest)) : MaximalMunch ls cs := by
  induction ls with
  | nil => trivial
  | cons l ls ih =>
    obtain ⟨hlongest, hls⟩ := h
    rw [← List.append_assoc] at hlongest
    refine ⟨hlongest.of_append ?_, ih hls⟩
    rw [written_cons, List.append_assoc]
    exact List.prefix_append l.points _

/-- Each token of a text is the longest in what is left from it on. -/
theorem MaximalMunch.isLongest {before behind : List Lexeme}
    (h : MaximalMunch (before ++ l :: behind) rest) :
    l.IsLongest (written (l :: behind) ++ rest) := by
  induction before with
  | nil => exact h.1
  | cons _ before ih => exact ih h.2

theorem joined_asToken (ls : List Lexeme) : joined (ls.map Lexeme.asToken) = written ls := by
  rw [joined, List.flatMap_map]
  rfl

theorem Lexeme.points_ne_nil (hl : l.IsWritten) : l.points ≠ [] :=
  Lexeme.points_ne_nil_of_next? (Lexeme.next?_append hl l.ends_nil)

/-! ## A token alone -/

/-- Two tokens start with an exclamation mark. -/
theorem Lexeme.text_eq_of_mark (hl : l.IsWritten) (hmark : l.points.head? = some (.char '!')) :
    l.asToken.text = "!=" ∨ l.asToken.text = "!==" := by
  obtain ⟨cs, hcs⟩ := List.head?_eq_some_iff.1 hmark
  have hread : Lexeme.next? (.char '!' :: cs) = some (l, []) := by
    rw [← hcs, ← List.append_nil l.points]
    exact Lexeme.next?_append hl l.ends_nil
  obtain ⟨spelling, c, rfl⟩ := Lexeme.exists_comparison_of_next? hread
  -- it is a comparison, so the table of spellings tells which ones
  have hall : ∀ entry ∈ Comparison.spellings,
      (Text.ofString entry.1).points.head? = some (.char '!') →
        Text.ofString entry.1 = "!=" ∨ Text.ofString entry.1 = "!==" := by decide
  exact hall (spelling, c) (mem_spellings_iff.2 hl) hmark

/-- The text of a token is read as the token. -/
theorem Lexeme.tokenize_eq (hl : l.IsWritten) (hshort : ShortNumerals l.points)
    (hmark : l.points.head? ≠ some (.char '!')) :
    tokenize l.asToken.text = .ok ([l.asToken], false) := by
  have hlexed : Lexed l.asToken.text.points false [l] [] := by
    refine ⟨?_, ?_, ⟨hl, l.ends_nil, trivial⟩, rfl⟩
    · show l.points = mark false ++ (written [l] ++ [])
      simp [mark, written]
    · intro hhead
      exact absurd hhead hmark
  have hne : l.asToken.text.points ≠ [] := Lexeme.points_ne_nil hl
  rw [hlexed.tokenize_eq hshort, if_neg hne, if_pos rfl]
  rfl

end

/-! ## Every text is accounted for -/

section

variable {text : Text} {negated : Bool} {ls : List Lexeme} {rest : Points}

theorem Lexed.lossless (h : Lexed text.points negated ls []) (hshort : ShortNumerals text.points) :
    Lossless text (ls.map Lexeme.asToken) negated := by
  have hpoints : text.points = mark negated ++ written ls := by
    rw [h.points_eq, List.append_nil]
  have hwritten : ∀ l ∈ ls, l.IsWritten := isWritten_of_munched h.munched
  constructor
  case points_eq => rw [hpoints, joined_asToken]
  case ne_nil =>
    intro t ht
    obtain ⟨l, hl, rfl⟩ := List.mem_map.1 ht
    exact Lexeme.points_ne_nil (hwritten l hl)
  case longest =>
    intro before t behind hts
    -- the tokens are split where the written ones are
    obtain ⟨front, back, rfl, -, hback⟩ := List.map_eq_append_iff.1 hts
    obtain ⟨l, others, rfl, rfl, rfl⟩ := List.map_eq_cons_iff.1 hback
    have hlongest := (munched_iff_maximalMunch.1 h.munched).isLongest
    rw [List.append_nil, ← joined_asToken] at hlongest
    exact ⟨l, rfl, hlongest⟩
  case alone =>
    intro t ht hunequal hunequal'
    obtain ⟨l, hl, rfl⟩ := List.mem_map.1 ht
    -- a numeral in the token is one in the text
    have hpart : l.points <:+: text.points := by
      rw [hpoints, written]
      exact (List.infix_of_mem_flatten (List.mem_map_of_mem hl)).trans (List.suffix_append _ _).isInfix
    refine Lexeme.tokenize_eq (hwritten l hl) (hshort.of_infix hpart) ?_
    intro hmark
    rcases Lexeme.text_eq_of_mark (hwritten l hl) hmark with h | h
    · exact hunequal h
    · exact hunequal' h

/-- What stands before the rest falls into the same tokens, with nothing left. -/
theorem Lexed.before (h : Lexed text.points negated ls rest) :
    Lexed (mark negated ++ written ls) negated ls [] := by
  have hmunch : MaximalMunch ls ([] ++ rest) := munched_iff_maximalMunch.1 h.munched
  refine ⟨by rw [List.append_nil], ?_, munched_iff_maximalMunch.2 hmunch.of_append, rfl⟩
  intro hhead
  -- the code point at its front is the one at the front of the text
  apply h.negated_of_mark
  rw [h.points_eq, ← List.append_assoc, List.head?_append, hhead]
  rfl

theorem Lexed.unread (h : Lexed text.points negated ls rest) (hshort : ShortNumerals text.points)
    (hrest : rest ≠ []) : Unread text ⟨text, .unreadable ⟨rest⟩⟩ ⟨rest⟩ := by
  have hpoints : text.points = (mark negated ++ written ls) ++ rest := by
    rw [h.points_eq, List.append_assoc]
  refine ⟨rfl, rfl, rfl, hrest, Lexeme.next?_eq_none_iff.1 h.stuck, ?_⟩
  refine ⟨⟨mark negated ++ written ls⟩, congrArg Text.mk hpoints, ?_⟩
  intro hne
  have hfront : ShortNumerals (mark negated ++ written ls) := by
    apply hshort.of_infix
    rw [hpoints]
    exact (List.prefix_append _ rest).isInfix
  have hbefore : Lexed (Text.mk (mark negated ++ written ls)).points negated ls [] := h.before
  refine ⟨ls.map Lexeme.asToken, negated, ?_⟩
  rw [hbefore.tokenize_eq hfront, if_neg hne, if_pos rfl]

/-- **Every text is accounted for.** Reading a text that is not empty ends with tokens that make it
up again, or with a refusal that quotes the rest of it at which no token starts. -/
theorem accounted_tokenize (hne : text.points ≠ []) (hshort : ShortNumerals text.points) :
    (∃ ts negated, tokenize text = .ok (ts, negated) ∧ Lossless text ts negated) ∨
      ∃ report rest, tokenize text = .error (.malformed report) ∧ Unread text report rest := by
  obtain ⟨negated, ls, rest, hlexed⟩ := exists_lexed text.points
  rw [hlexed.tokenize_eq hshort, if_neg hne]
  by_cases hrest : rest = []
  · subst hrest
    left
    rw [if_pos rfl]
    exact ⟨_, _, rfl, hlexed.lossless hshort⟩
  · right
    rw [if_neg hrest]
    exact ⟨_, _, rfl, hlexed.unread hshort hrest⟩

/-- Behind the negation mark the equals signs are one token; two texts, the latter of which goes on
with a letter that no token starts with. -/
theorem accounted_tokenize_mark :
    (ShortNumerals (Text.points "!===-1") ∧
      Lossless "!===-1" [⟨"===", .comparison .equal⟩, ⟨"-1", .literal (some (-1))⟩] true) ∧
    ShortNumerals (Text.points "!===-1x") ∧
      ∃ rest, Unread "!===-1x" ⟨"!===-1x", .unreadable "x"⟩ rest := by
  have hread : ShortNumerals (Text.points "!===-1") := shortNumerals_of_length_le (by decide)
  have hunread : ShortNumerals (Text.points "!===-1x") := shortNumerals_of_length_le (by decide)
  have htokens : tokenize "!===-1" =
      .ok ([⟨"===", .comparison .equal⟩, ⟨"-1", .literal (some (-1))⟩], true) := by
    decide +kernel
  have hrefusal : tokenize "!===-1x" = .error (.malformed ⟨"!===-1x", .unreadable "x"⟩) := by
    decide +kernel
  refine ⟨⟨hread, ?_⟩, hunread, ?_⟩
  · obtain ⟨ts, negated, heq, hlossless⟩ | ⟨report, rest, heq, -⟩ :=
      accounted_tokenize (by decide) hread
    · obtain ⟨rfl, rfl⟩ : _ ∧ _ := by simpa using Except.ok.inj (htokens.symm.trans heq)
      exact hlossless
    · cases htokens.symm.trans heq
  · obtain ⟨ts, negated, heq, -⟩ | ⟨report, rest, heq, hrest⟩ :=
      accounted_tokenize (by decide) hunread
    · cases hrefusal.symm.trans heq
    · obtain rfl := Refusal.malformed.inj (Except.error.inj (hrefusal.symm.trans heq))
      exact ⟨rest, hrest⟩

end

end GatedPrompt.Rule
