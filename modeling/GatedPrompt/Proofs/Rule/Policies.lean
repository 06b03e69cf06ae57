import GatedPrompt.Rule.Conjunction

/-!
# Lists of rules under different policies

A list of rules is read in the same way under every policy, up to the first malformed rule. There
the strict policy gives up, and the two lenient ones give a warning and go on.

* `Notice.report?` — the malformed rule that a notice reports;
* `Policy.IsLenient` — the two policies that go on, each with its warning;
* `StopsAt` — a strict computation stops where a lenient one gives its first warning, and is the
  same if there is none (`block_stopsAt`);
* `InStep` — two lenient computations report the same malformed rules and end together, with
  results that stand in a relation (`block_inStep`).

Both relations are kept when computations are put in sequence, so they pass from rules to blocks,
choices and prompts.
-/

namespace GatedPrompt

/-- The malformed rule that a notice reports, if it reports one. -/
def Notice.report? : Notice → Option Rule.Malformed
  | skippedRule malformed => some malformed
  | failedList malformed => some malformed
  | _ => none

/-- The malformed rules that are reported by notices, in order. -/
def reports (notices : List Notice) : List Rule.Malformed := notices.filterMap Notice.report?

theorem reports_append (first second : List Notice) :
    reports (first ++ second) = reports first ++ reports second := List.filterMap_append

namespace Rule

/-- The policies that go on at a malformed rule, each with the warning it gives. -/
inductive Policy.IsLenient : Policy → (Malformed → Notice) → Prop where
  | skip : IsLenient .skip .skippedRule
  | fail : IsLenient .fail .failedList

variable {α β α' β' : Type}

/-! ## Up to the first warning -/

/-- A strict computation stops where a lenient one gives its first warning. Without a warning they
are the same. -/
inductive StopsAt (warning : Malformed → Notice) (strict lenient : Attempt Abort α) : Prop where
  | never (same : lenient = strict) (quiet : reports strict.notices = [])
      (not_malformed : ∀ malformed, strict.value ≠ .error (.malformed malformed))
  | first (malformed : Malformed) (more : List Notice)
      (value : strict.value = .error (.malformed malformed))
      (quiet : reports strict.notices = [])
      (notices : lenient.notices = strict.notices ++ warning malformed :: more)

namespace StopsAt

variable {warning : Malformed → Notice} {strict lenient : Attempt Abort α}

theorem pure (a : α) : StopsAt warning (Pure.pure a) (Pure.pure a) :=
  .never rfl rfl (fun _ h => nomatch h)

theorem of_ok {x : Attempt Abort α} {a : α} (hvalue : x.value = .ok a)
    (hquiet : reports x.notices = []) : StopsAt warning x x := by
  refine .never rfl hquiet fun malformed h => ?_
  rw [hvalue] at h
  cases h

theorem bind (h : StopsAt warning strict lenient) {f f' : α → Attempt Abort β}
    (hf : ∀ a, StopsAt warning (f a) (f' a)) :
    StopsAt warning (strict >>= f) (lenient >>= f') := by
  cases h with
  | first malformed more value quiet notices =>
    -- The strict sequence does not get to its second part, and the lenient one has warned by then.
    have hstrict := Attempt.notices_bind_of_error value f
    have hlenient := Attempt.notices_bind lenient f'
    rw [notices, List.append_assoc, List.cons_append, ← hstrict] at hlenient
    exact .first malformed _ (Attempt.value_bind_of_error value f) (by rw [hstrict, quiet]) hlenient
  | never same quiet not_malformed =>
    subst same
    cases hvalue : lenient.value with
    | error abort =>
      have hnotices := Attempt.notices_bind_of_error hvalue f
      have hbind := Attempt.value_bind_of_error hvalue f
      refine .never (Attempt.ext_of ?_ ?_) (by rw [hnotices, quiet]) fun malformed h => ?_
      · rw [hnotices, Attempt.notices_bind_of_error hvalue]
      · rw [hbind, Attempt.value_bind_of_error hvalue]
      · obtain rfl : abort = .malformed malformed := Except.error.inj (hbind.symm.trans h)
        exact not_malformed malformed hvalue
    | ok a =>
      have hnotices := Attempt.notices_bind_of_ok hvalue f
      have hbind := Attempt.value_bind_of_ok hvalue f
      have hquiet : reports (f a).notices = [] → reports (lenient >>= f).notices = [] := by
        intro hquiet
        rw [hnotices, reports_append, quiet, hquiet, List.append_nil]
      cases hf a with
      | never same' quiet' not_malformed' =>
        refine .never (Attempt.ext_of ?_ ?_) (hquiet quiet') fun malformed h => ?_
        · rw [hnotices, Attempt.notices_bind_of_ok hvalue, same']
        · rw [hbind, Attempt.value_bind_of_ok hvalue, same']
        · exact not_malformed' malformed (hbind.symm.trans h)
      | first malformed more value' quiet' notices' =>
        refine .first malformed more (hbind.trans value') (hquiet quiet') ?_
        rw [hnotices, Attempt.notices_bind_of_ok hvalue, notices', List.append_assoc]

end StopsAt

/-! ## Two lenient computations -/

/-- Two computations report the same malformed rules and end together: in the same failure, or in
results that stand in a relation. -/
structure InStep (Related : α → α' → Prop) (first : Attempt Abort α)
    (second : Attempt Abort α') : Prop where
  reports_eq : reports first.notices = reports second.notices
  ends : (∃ a a', first.value = .ok a ∧ second.value = .ok a' ∧ Related a a') ∨
    ∃ abort, first.value = .error abort ∧ second.value = .error abort

namespace InStep

variable {Related : α → α' → Prop} {Related' : β → β' → Prop}

theorem pure {a : α} {a' : α'} (h : Related a a') :
    InStep Related (Pure.pure a) (Pure.pure a') :=
  ⟨rfl, .inl ⟨a, a', rfl, rfl, h⟩⟩

theorem bind {x : Attempt Abort α} {x' : Attempt Abort α'} (h : InStep Related x x')
    {f : α → Attempt Abort β} {f' : α' → Attempt Abort β'}
    (hf : ∀ a a', Related a a' → InStep Related' (f a) (f' a')) :
    InStep Related' (x >>= f) (x' >>= f') := by
  obtain ⟨hreports, ⟨a, a', ha, ha', hrelated⟩ | ⟨abort, hx, hx'⟩⟩ := h
  · obtain ⟨hreports', hends'⟩ := hf a a' hrelated
    refine ⟨?_, ?_⟩
    · rw [Attempt.notices_bind_of_ok ha, Attempt.notices_bind_of_ok ha', reports_append,
        reports_append, hreports, hreports']
    · rw [Attempt.value_bind_of_ok ha, Attempt.value_bind_of_ok ha']
      exact hends'
  · refine ⟨?_, .inr ⟨abort, Attempt.value_bind_of_error hx f, Attempt.value_bind_of_error hx' f'⟩⟩
    rw [Attempt.notices_bind_of_error hx, Attempt.notices_bind_of_error hx', hreports]

end InStep

/-! ## Lists and blocks of rules -/

variable {policy : Policy} {warning : Malformed → Notice}

/-- **Giving up at the first malformed rule.** -/
theorem conjunctionFrom_stopsAt (hpolicy : policy.IsLenient warning) (state : Game.State)
    (sound : Bool) (rules : List Text) :
    StopsAt warning (conjunctionFrom .abort state sound rules)
      (conjunctionFrom policy state sound rules) := by
  induction rules with
  | nil => exact .pure sound
  | cons text rules ih =>
    cases hevaluate : evaluate state text with
    | ok truth =>
      cases truth with
      | true =>
        simp only [conjunctionFrom, hevaluate]
        exact ih
      -- Under both policies a false rule settles the list.
      | false =>
        simp only [conjunctionFrom, hevaluate]
        exact .pure false
    | error refusal =>
      cases refusal with
      | oversized fault =>
        simp only [conjunctionFrom, hevaluate]
        exact .never rfl rfl (fun _ h => nomatch h)
      | malformed malformed =>
        -- The first warning is the one of this rule, whatever comes of the rules behind it.
        cases hpolicy with
        | skip =>
          simp only [conjunctionFrom, hevaluate]
          exact .first malformed _ rfl rfl (Attempt.notices_bind _ _)
        | fail =>
          simp only [conjunctionFrom, hevaluate]
          exact .first malformed _ rfl rfl (Attempt.notices_bind _ _)

/-- **Going on in two ways.** Where a malformed rule makes a list false, the list may hold if the
rule is passed over, but not the other way round; and both ways read the same rules. -/
theorem conjunctionFrom_inStep (state : Game.State) (rules : List Text) {skipped failed : Bool}
    (h : failed = true → skipped = true) :
    InStep (fun skipped failed => failed = true → skipped = true)
      (conjunctionFrom .skip state skipped rules) (conjunctionFrom .fail state failed rules) := by
  induction rules generalizing failed with
  | nil => exact .pure h
  | cons text rules ih =>
    cases hevaluate : evaluate state text with
    | ok truth =>
      cases truth with
      | true =>
        simp only [conjunctionFrom, hevaluate]
        exact ih h
      | false =>
        simp only [conjunctionFrom, hevaluate]
        exact .pure id
    | error refusal =>
      cases refusal with
      | oversized fault =>
        simp only [conjunctionFrom, hevaluate]
        exact ⟨rfl, .inr ⟨.oversized fault, rfl, rfl⟩⟩
      | malformed malformed =>
        simp only [conjunctionFrom, hevaluate]
        have hwarned : InStep (fun _ _ => True)
            (Attempt.note (.skippedRule malformed) : Attempt Abort Unit)
            (Attempt.note (.failedList malformed)) := ⟨rfl, .inl ⟨(), (), rfl, rfl, trivial⟩⟩
        exact hwarned.bind fun _ _ _ => ih (fun hfalse => nomatch hfalse)

theorem block_stopsAt (hpolicy : policy.IsLenient warning) (state : Game.State)
    (body : Option Text) :
    StopsAt warning (block .abort state body) (block policy state body) := by
  cases body with
  | none => exact .pure false
  | some body => exact conjunctionFrom_stopsAt hpolicy state true (split body)

theorem block_inStep (state : Game.State) (body : Option Text) :
    InStep (fun skipped failed => failed = true → skipped = true)
      (block .skip state body) (block .fail state body) := by
  cases body with
  | none => exact .pure id
  | some body => exact conjunctionFrom_inStep state (split body) id

end Rule

end GatedPrompt
