import GatedPrompt.Text.Quoted

/-!
# UTF-8

Reading characters from UTF-8, one byte at a time, with an exact account of the first fault.

* `Lead.ofByte?` — what the first byte of a sequence announces: how many continuation bytes follow
  and in which range the next one lies, so that overlong forms, surrogates and code points beyond
  U+10FFFF are refused at the second byte;
* `decode` — the characters of a byte string, or the first fault;
* `Fault.message` — the wording of a fault, with the positions of the bytes it concerns.
-/

namespace GatedPrompt.Text.Utf8

/-- What the first byte of a sequence of several bytes announces. -/
structure Lead where
  /-- How many continuation bytes follow. -/
  owed : Nat
  /-- The high bits of the code point. -/
  bits : Nat
  /-- The least value of the second byte. -/
  low : Nat
  /-- The greatest value of the second byte. -/
  high : Nat
  deriving DecidableEq, Repr, Inhabited

/-- The sequence that a first byte above 0x7F announces, if it can be a first byte. -/
def Lead.ofByte? (b : Nat) : Option Lead :=
  -- Continuation bytes, and the bytes that start overlong forms of ASCII.
  if b < 0xC2 then none
  else if b < 0xE0 then some ⟨1, b - 0xC0, 0x80, 0xBF⟩
  else if b = 0xE0 then some ⟨2, 0, 0xA0, 0xBF⟩
  -- Behind this byte the upper half would be surrogates.
  else if b = 0xED then some ⟨2, 0xD, 0x80, 0x9F⟩
  else if b < 0xF0 then some ⟨2, b - 0xE0, 0x80, 0xBF⟩
  else if b = 0xF0 then some ⟨3, 0, 0x90, 0xBF⟩
  else if b < 0xF4 then some ⟨3, b - 0xF0, 0x80, 0xBF⟩
  -- Behind this byte only the lowest quarter is below the end of the code points.
  else if b = 0xF4 then some ⟨3, 4, 0x80, 0x8F⟩
  else none

/-- The bytes that a fault concerns: the first of them, its index, and how many there are. -/
structure Span where
  first : UInt8
  index : Nat
  length : Nat
  deriving DecidableEq, Repr, Inhabited

/-- Why a byte string is not UTF-8. -/
inductive Fault where
  /-- A byte stands where a sequence starts but cannot start one. -/
  | badStart (span : Span)
  /-- A sequence that began well is not continued. -/
  | badContinuation (span : Span)
  /-- The text ends inside a sequence. -/
  | truncated (span : Span)
  deriving DecidableEq, Repr, Inhabited

/-- Where the decoder stands between two bytes. -/
inductive State where
  /-- Between two characters. -/
  | between
  /-- Inside a sequence that began at the span: continuation bytes are owed, the next one in the
  given range, and `bits` is the code point so far. -/
  | inside (span : Span) (owed bits low high : Nat)
  deriving DecidableEq, Repr, Inhabited

/-- The decoder's step on the byte at an index: the state after it and the character it completes,
if any. -/
def step (state : State) (index : Nat) (byte : UInt8) : Except Fault (State × Option Char) :=
  let b := byte.toNat
  match state with
  | .between =>
    if b < 0x80 then .ok (.between, some (Char.ofNat b))
    else
      match Lead.ofByte? b with
      | none => .error (.badStart ⟨byte, index, 1⟩)
      | some lead =>
        .ok (.inside ⟨byte, index, 1⟩ lead.owed lead.bits lead.low lead.high, none)
  | .inside span owed bits low high =>
    if low ≤ b ∧ b ≤ high then
      let bits := bits * 0x40 + (b - 0x80)
      if owed ≤ 1 then .ok (.between, some (Char.ofNat bits))
      else .ok (.inside { span with length := span.length + 1 } (owed - 1) bits 0x80 0xBF, none)
    else .error (.badContinuation span)

/-- The decoder's run over the bytes from an index on, with the characters read so far in reverse
order. -/
def run (state : State) (index : Nat) (read : List Char) :
    List UInt8 → Except Fault (List Char)
  | [] =>
    match state with
    | .between => .ok read.reverse
    | .inside span _ _ _ _ => .error (.truncated span)
  | byte :: bytes =>
    match step state index byte with
    | .error fault => .error fault
    | .ok (state, c?) => run state (index + 1) (c?.toList ++ read) bytes

/-- The characters of a UTF-8 byte string, or its first fault. -/
def decode (bytes : List UInt8) : Except Fault (List Char) := run .between 0 [] bytes

/-- The bytes of a fault in words: one byte by its value, several by their positions. -/
def Span.describe (span : Span) : String :=
  if span.length ≤ 1 then
    s!"byte 0x{String.ofList (Quoted.hex 2 span.first.toNat)} in position {span.index}"
  else s!"bytes in position {span.index}-{span.index + span.length - 1}"

def Fault.message : Fault → String
  | .badStart span => s!"'utf-8' codec can't decode {span.describe}: invalid start byte"
  | .badContinuation span =>
    s!"'utf-8' codec can't decode {span.describe}: invalid continuation byte"
  | .truncated span => s!"'utf-8' codec can't decode {span.describe}: unexpected end of data"

/-- ASCII text is read byte by byte. -/
theorem decode_ascii {bytes : List UInt8} (h : ∀ b ∈ bytes, b.toNat < 0x80) :
    decode bytes = .ok (bytes.map fun b => Char.ofNat b.toNat) := by
  -- The run is generalised over where it starts and what it has read.
  have key : ∀ (bs : List UInt8) (index : Nat) (read : List Char),
      (∀ b ∈ bs, b.toNat < 0x80) →
        run .between index read bs =
          .ok (read.reverse ++ bs.map fun b => Char.ofNat b.toNat) := by
    intro bs
    induction bs with
    | nil => simp [run]
    | cons b bs ih =>
      intro index read hb
      have hstep : step .between index b = .ok (.between, some (Char.ofNat b.toNat)) := by
        simp [step, hb b (by simp)]
      rw [run, hstep]
      simp only
      rw [ih (index + 1) _ fun x hx => hb x (by simp [hx])]
      simp
  simpa [decode] using key bytes 0 [] h

end GatedPrompt.Text.Utf8
