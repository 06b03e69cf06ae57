import GatedPrompt.Notice

/-!
# Computations with notices

* `Logged` — a value together with the notices given on the way to it, oldest first;
* `Attempt` — the same for computations that may fail: the notices given before a failure are kept;
* `Attempt.noteOf` — a notice about an integer, which is not given if the integer is too long to be
  written;
* `Attempt.value` — how such a computation ends. A sequence ends well exactly if both of its parts
  do (`value_bind_eq_ok_iff`);
* `Attempt.notices` — what it reports on the way. A sequence reports what its parts do, as far as
  it gets (`notices_bind`).
-/

namespace GatedPrompt

/-- A value and the notices given on the way to it. -/
structure Logged (α : Type) where
  notices : List Notice
  value : α
  deriving DecidableEq, Repr, Inhabited

namespace Logged

/-- A notice and nothing else. -/
def note (notice : Notice) : Logged Unit := ⟨[notice], ()⟩

instance : Monad Logged where
  pure a := ⟨[], a⟩
  bind x f := ⟨x.notices ++ (f x.value).notices, (f x.value).value⟩

@[simp] theorem notices_pure {α : Type} (a : α) : (pure a : Logged α).notices = [] := rfl

@[simp] theorem value_pure {α : Type} (a : α) : (pure a : Logged α).value = a := rfl

@[simp] theorem notices_bind {α β : Type} (x : Logged α) (f : α → Logged β) :
    (x >>= f).notices = x.notices ++ (f x.value).notices := rfl

@[simp] theorem value_bind {α β : Type} (x : Logged α) (f : α → Logged β) :
    (x >>= f).value = (f x.value).value := rfl

@[simp] theorem notices_note (notice : Notice) : (note notice).notices = [notice] := rfl

/-- Two computations with the same notices and the same value are the same. -/
theorem ext_of {α : Type} {x y : Logged α} (hn : x.notices = y.notices)
    (hv : x.value = y.value) : x = y := by
  cases x; cases y; simp_all

instance : LawfulMonad Logged :=
  LawfulMonad.mk' Logged (fun _ => ext_of (List.append_nil _) rfl) (fun _ _ => rfl)
    (fun _ _ _ => ext_of (List.append_assoc _ _ _) rfl)

@[simp] theorem notices_map {α β : Type} (f : α → β) (x : Logged α) :
    (f <$> x).notices = x.notices := List.append_nil _

end Logged

/-- A computation with notices that may fail. -/
abbrev Attempt (ε : Type) : Type → Type := ExceptT ε Logged

namespace Attempt

/-- A computation that gives no notices. -/
def ofExcept {ε α : Type} (x : Except ε α) : Attempt ε α := ExceptT.mk ⟨[], x⟩

/-- A notice and nothing else. -/
def note {ε : Type} (notice : Notice) : Attempt ε Unit := ExceptT.lift (Logged.note notice)

/-- A notice about an integer, whose numeral is in the wording. -/
def noteOf (n : Int) (notice : Int → Notice) : Attempt Text.Oversized Unit := do
  ofExcept (Text.requireWritable n)
  note (notice n)

/-- How a computation ends. -/
def value {ε α : Type} (x : Attempt ε α) : Except ε α := (ExceptT.run x).value

/-- The notices of a computation, those before a failure included. -/
def notices {ε α : Type} (x : Attempt ε α) : List Notice := (ExceptT.run x).notices

section

variable {ε α β : Type}

@[simp] theorem value_pure (a : α) : (pure a : Attempt ε α).value = .ok a := rfl

@[simp] theorem value_note (notice : Notice) :
    (note notice : Attempt ε Unit).value = .ok () := rfl

@[simp] theorem value_lift (x : Logged α) :
    value (ExceptT.lift x : Attempt ε α) = .ok x.value := rfl

@[simp] theorem notices_pure (a : α) : (pure a : Attempt ε α).notices = [] := rfl

@[simp] theorem notices_note (notice : Notice) :
    (note notice : Attempt ε Unit).notices = [notice] := rfl

@[simp] theorem notices_lift (x : Logged α) :
    notices (ExceptT.lift x : Attempt ε α) = x.notices := List.append_nil _

/-- The second part of a sequence runs if the first one ends well. -/
theorem value_bind (x : Attempt ε α) (f : α → Attempt ε β) :
    (x >>= f).value =
      match x.value with
      | .ok a => (f a).value
      | .error e => .error e := by
  obtain ⟨notices, outcome⟩ := x
  cases outcome <;> rfl

theorem value_bind_of_ok {x : Attempt ε α} {a : α} (h : x.value = .ok a) (f : α → Attempt ε β) :
    (x >>= f).value = (f a).value := by
  rw [value_bind, h]

theorem value_bind_of_error {x : Attempt ε α} {e : ε} (h : x.value = .error e)
    (f : α → Attempt ε β) : (x >>= f).value = .error e := by
  rw [value_bind, h]

theorem notices_bind (x : Attempt ε α) (f : α → Attempt ε β) :
    (x >>= f).notices =
      x.notices ++
        match x.value with
        | .ok a => (f a).notices
        | .error _ => [] := by
  obtain ⟨notices, outcome⟩ := x
  cases outcome <;> rfl

theorem notices_bind_of_ok {x : Attempt ε α} {a : α} (h : x.value = .ok a)
    (f : α → Attempt ε β) : (x >>= f).notices = x.notices ++ (f a).notices := by
  rw [notices_bind, h]

theorem notices_bind_of_error {x : Attempt ε α} {e : ε} (h : x.value = .error e)
    (f : α → Attempt ε β) : (x >>= f).notices = x.notices := by
  rw [notices_bind, h, List.append_nil]

theorem value_bind_pure (x : Attempt ε α) (f : α → β) :
    (x >>= fun a => pure (f a)).value = x.value.map f := by
  rw [value_bind]
  cases x.value <;> rfl

theorem notices_bind_pure (x : Attempt ε α) (f : α → β) :
    (x >>= fun a => pure (f a)).notices = x.notices := by
  rw [notices_bind]
  cases x.value <;> exact List.append_nil _

/-- Two computations with the same notices and the same end are the same. -/
theorem ext_of {x y : Attempt ε α} (hn : x.notices = y.notices) (hv : x.value = y.value) : x = y :=
  Logged.ext_of hn hv

/-- After a notice about an integer, it depends on the integer alone whether there is a result. -/
theorem value_noteOf_bind_pure (n : Int) (notice : Int → Notice) (a : α) :
    (noteOf n notice >>= fun _ => pure a).value =
      if Text.isUnwritable n then .error .integer else .ok a := by
  rw [noteOf, Text.requireWritable]
  cases Text.isUnwritable n <;> rfl

theorem notices_noteOf_bind_pure (n : Int) (notice : Int → Notice) (a : α) :
    (noteOf n notice >>= fun _ => pure a).notices =
      if Text.isUnwritable n then [] else [notice n] := by
  rw [noteOf, Text.requireWritable]
  cases Text.isUnwritable n <;> rfl

/-- A sequence ends well exactly if both of its parts do. -/
theorem value_bind_eq_ok_iff {x : Attempt ε α} {f : α → Attempt ε β} {b : β} :
    (x >>= f).value = .ok b ↔ ∃ a, x.value = .ok a ∧ (f a).value = .ok b := by
  rw [value_bind]
  cases x.value <;> simp

end

end Attempt

end GatedPrompt
