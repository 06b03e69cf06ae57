import Mathlib.Data.List.Forall2
import Mathlib.Data.List.TakeWhile
import GatedPrompt.Definitions.Scenario
import GatedPrompt.Proofs.Rule.Lexing

/-!
# What a snapshot records

A snapshot is an object of a document: maps from ids to values, a list and an integer. Its keys are
texts, so that several of them can stand for one id, and what is missing has a default. This module
says which objects are snapshots, and what a game that was read from one answers to every query. An
id that is unknown is named in the answer, and so it must not be too long.

* `ReadsIff` — something is read just if it has a shape, and then it means something; else it is
  refused as invalid. Reading one part after the other asks for both shapes (`ReadsIff.bind`);
* `IsIdMap` — a value that is a map with ids as keys;
* `LastEntry` — the value of the last entry of a map whose key reads as an id, if there is one, and
  `lastEntry_get?`, that a table built from the entries has it;
* `IsPlain` — a key that either is a numeral that is not too long, or is refused at once;
* `IsSnapshot`, `Records` — the shape of a snapshot, and how a game answers queries by it;
* `readsIff_readState` — an object with plain keys is read just if it is a snapshot, and then the
  game answers every query by it;
* `unknown_without_name` — an unknown id that cannot be named.
-/

namespace GatedPrompt.Definitions

open Game (State Table)
open Json (Value)
open Rule (IsNumeral)
open Text (naturalOf)

/-! ## Reading what has a shape -/

/-- Something is read just if it has a shape, and what is read has a meaning; else it is refused as
invalid. -/
inductive ReadsIff {α : Type} (shape : Prop) (meaning : α → Prop) (x : Except Failure α) :
    Prop where
  | read (a : α) (value : x = .ok a) (shaped : shape) (means : meaning a)
  | refused (invalid : Invalid) (value : x = .error (.invalid invalid)) (not : ¬shape)

namespace ReadsIff

variable {α β : Type} {shape shape' : Prop} {meaning meaning' : α → Prop} {x : Except Failure α}

theorem ok {a : α} (shaped : shape) (means : meaning a) :
    ReadsIff shape meaning (.ok a : Except Failure α) := .read a rfl shaped means

theorem wrong {place : Text} {expected : Shape} (not : ¬shape) :
    ReadsIff shape meaning (Definitions.wrong place expected : Except Failure α) :=
  .refused _ rfl not

/-- The same shape and a weaker meaning. -/
theorem imp (h : ReadsIff shape meaning x) (hshape : shape ↔ shape')
    (hmeaning : ∀ a, meaning a → meaning' a) : ReadsIff shape' meaning' x := by
  cases h with
  | read a value shaped means => exact .read a value (hshape.1 shaped) (hmeaning a means)
  | refused invalid value not => exact .refused invalid value (mt hshape.2 not)

/-- One part after the other is read just if both have their shapes. -/
theorem bind {f : α → Except Failure β} {meant : β → Prop} (h : ReadsIff shape meaning x)
    (hf : ∀ a, meaning a → ReadsIff shape' meant (f a)) :
    ReadsIff (shape ∧ shape') meant (x >>= f) := by
  cases h with
  | read a value shaped means =>
    subst value
    exact (hf a means).imp ⟨fun shaped' => ⟨shaped, shaped'⟩, And.right⟩ fun _ means => means
  | refused invalid value not =>
    subst value
    exact .refused invalid rfl fun shaped => not shaped.1

/-- What is made of a part when it is read. -/
theorem map {meant : β → Prop} (h : ReadsIff shape meaning x) (f : α → β)
    (hf : ∀ a, meaning a → meant (f a)) : ReadsIff shape meant (x >>= fun a => .ok (f a)) := by
  have hboth : ReadsIff (shape ∧ True) meant (x >>= fun a => .ok (f a)) :=
    h.bind fun a means => .ok trivial (hf a means)
  exact hboth.imp (by rw [and_true]) fun b means => means

end ReadsIff

/-! ## Values of one kind -/

theorem readsIff_requireInteger (place : Text) (value : Value) :
    ReadsIff (∃ n, value = .integer n) (fun n => value = .integer n)
      (requireInteger place value) := by
  cases value with
  | integer n => exact .ok ⟨n, rfl⟩ rfl
  | _ => exact .wrong (by simp)

theorem readsIff_requireBoolean (place : Text) (value : Value) :
    ReadsIff (∃ b, value = .bool b) (fun b => value = .bool b) (requireBoolean place value) := by
  cases value with
  | bool b => exact .ok ⟨b, rfl⟩ rfl
  | _ => exact .wrong (by simp)

theorem readsIff_requireList (place : Text) (value : Value) :
    ReadsIff (∃ values, value = .array values) (fun values => value = .array values)
      (requireList place value) := by
  cases value with
  | array values => exact .ok ⟨values, rfl⟩ rfl
  | _ => exact .wrong (by simp)

section

variable {α : Type} {make : α → Value} {read : Text → Value → Except Failure α}
  (hread : ∀ place value,
    ReadsIff (∃ x, value = make x) (fun x => value = make x) (read place value))

include hread

/-- A list is read if all of its elements are. -/
theorem readsIff_readElements (place : Text) (values : List Value) :
    ReadsIff (∀ value ∈ values, ∃ x, value = make x) (fun xs => values = xs.map make)
      (readElements place read values) := by
  -- generalised over the index of the first element
  have key : ∀ index, ReadsIff (∀ value ∈ values, ∃ x, value = make x)
      (fun xs => values = xs.map make) (readElementsFrom place read index values) := by
    induction values with
    | nil =>
      intro index
      exact .ok (by simp) rfl
    | cons value values ih =>
      intro index
      have hothers : ∀ first, value = make first →
          ReadsIff (∀ other ∈ values, ∃ x, other = make x)
            (fun xs => value :: values = xs.map make)
            (readElementsFrom place read (index + 1) values >>= fun xs => .ok (first :: xs)) := by
        intro first hfirst
        refine (ih (index + 1)).map (first :: ·) fun xs hxs => ?_
        rw [List.map_cons, ← hfirst, ← hxs]
      have hall := (hread (place ++ s!"[{index}]") value).bind hothers
      exact hall.imp (by rw [List.forall_mem_cons]) fun xs hxs => hxs
  exact key 0

end

/-! ## Maps with ids as keys -/

/-- The entries of a map; a missing one has none, and neither has what is no map. -/
def entriesOf : Option Value → Members
  | some (.object entries) => entries
  | _ => []

/-- The elements of a list; a missing one has none, and neither has what is no list. -/
def elementsOf : Option Value → List Value
  | some (.array values) => values
  | _ => []

/-- A key that either is a numeral that is not too long, or no numeral by one of its characters; the
empty key counts as the former. -/
def IsPlain (key : Text) : Prop :=
  (∀ point ∈ key.points, Text.isDigit point = true) ∧ key.points.length ≤ Text.digitLimit ∨
    ∃ point ∈ key.points, Text.isDigitLike point = false

instance (key : Text) : Decidable (IsPlain key) := inferInstanceAs (Decidable (_ ∨ _))

/-- The entries of a map: numerals as keys, and values of one kind. -/
def AreIdEntries {α : Type} (make : α → Value) (entries : Members) : Prop :=
  ∀ entry ∈ entries, IsNumeral entry.1.points ∧ ∃ x, entry.2 = make x

/-- A map with ids as keys. -/
def IsIdMap {α : Type} (make : α → Value) (value : Value) : Prop :=
  ∃ entries, value = .object entries ∧ AreIdEntries make entries

/-- The value of the last entry of a map whose key reads as an id, if there is one. -/
inductive LastEntry {α : Type} (make : α → Value) (entries : Members) (id : Int) :
    Option α → Prop where
  | found {before after : Members} {key : Text} {x : α}
      (split : entries = before ++ (key, make x) :: after)
      (reads : (naturalOf key.points : Int) = id)
      (last : ∀ entry ∈ after, (naturalOf entry.1.points : Int) ≠ id) :
      LastEntry make entries id (some x)
  | missing (absent : ∀ entry ∈ entries, (naturalOf entry.1.points : Int) ≠ id) :
      LastEntry make entries id none

section

variable {α : Type} {make : α → Value}

/-- An entry of a map that was read as an id and a value. -/
def EntryMeans (make : α → Value) (entry : Text × Value) (result : Int × α) : Prop :=
  (naturalOf entry.1.points : Int) = result.1 ∧ entry.2 = make result.2

/-- A table that is built from the entries has the last value of each id. -/
theorem lastEntry_get? {entries : Members} {results : List (Int × α)}
    (h : List.Forall₂ (EntryMeans make) entries results) (id : Int) :
    LastEntry make entries id ((Table.ofList results).get? id) := by
  rw [Table.get?_ofList]
  induction h with
  | nil => exact .missing (by simp)
  | @cons entry result entries results hentry _ ih =>
    obtain ⟨key, value⟩ := entry
    obtain ⟨id', x⟩ := result
    obtain ⟨hkey, hvalue⟩ : (naturalOf key.points : Int) = id' ∧ value = make x := hentry
    subst hvalue
    -- the table is searched from the end, so the first entry is the last one to be looked at
    rw [List.reverse_cons, List.find?_append, Option.map_or]
    generalize Option.map (·.2) (results.reverse.find? fun result => result.1 == id) = found at ih
    cases ih with
    | @found before after key' x' split reads last =>
      -- an entry behind the first one decides
      have hsplit : (key, make x) :: entries =
          ((key, make x) :: before) ++ (key', make x') :: after := by
        rw [split, List.cons_append]
      exact .found hsplit reads last
    | missing absent =>
      by_cases heq : id' = id
      · have hself : [(id', x)].find? (fun result => result.1 == id) = some (id', x) := by
          simp [heq]
        have hsplit : (key, make x) :: entries = [] ++ (key, make x) :: entries := rfl
        rw [hself]
        exact .found hsplit (hkey.trans heq) absent
      · have hnone : [(id', x)].find? (fun result => result.1 == id) = none := by
          simp [heq]
        rw [hnone]
        refine .missing (List.forall_mem_cons.2 ⟨?_, absent⟩)
        rw [hkey]
        exact heq

/-! ## Reading a map -/

theorem isNumeral_of_isIdKey {key : Text} (hplain : IsPlain key) (hkey : isIdKey key = true) :
    IsNumeral key.points ∧ key.points.length ≤ Text.digitLimit := by
  simp only [isIdKey, Bool.and_eq_true, Bool.not_eq_true', List.all_eq_true] at hkey
  obtain ⟨hempty, hlike⟩ := hkey
  rcases hplain with ⟨hdigits, hlength⟩ | ⟨point, hmem, hpoint⟩
  · -- the empty key is plain and is refused all the same
    refine ⟨⟨?_, hdigits⟩, hlength⟩
    intro hnil
    simp [Text.isEmpty, hnil] at hempty
  · rw [hlike point hmem] at hpoint
    cases hpoint

theorem isIdKey_of_isNumeral {key : Text} (h : IsNumeral key.points) : isIdKey key = true := by
  simp only [isIdKey, Bool.and_eq_true, Bool.not_eq_true', List.all_eq_true]
  refine ⟨?_, fun point hmem => Text.isDigitLike_of_isDigit (h.isDigit point hmem)⟩
  simpa [Text.isEmpty] using h.ne_nil

/-- A numeral that is not too long is read as its value. -/
theorem readKey_of_isNumeral {key : Text} (h : IsNumeral key.points)
    (hlength : key.points.length ≤ Text.digitLimit) :
    readKey key = .ok (naturalOf key.points) := by
  have hself : key.points.takeWhile Text.isDigit = key.points :=
    List.takeWhile_eq_self_iff.2 h.isDigit
  unfold readKey
  simp only [hself, Text.readNatural_of_length_le hlength, if_true]

variable {read : Text → Value → Except Failure α}
  (hread : ∀ place value,
    ReadsIff (∃ x, value = make x) (fun x => value = make x) (read place value))

include hread

theorem readsIff_readIdEntry (place : Text) {key : Text} (hplain : IsPlain key) (value : Value) :
    ReadsIff (IsNumeral key.points ∧ ∃ x, value = make x) (EntryMeans make (key, value))
      (readIdEntry place read key value) := by
  cases hkey : isIdKey key with
  | false =>
    have hrefused : readIdEntry place read key value = .error (.invalid (.badKeys place)) := by
      rw [readIdEntry, hkey]
      rfl
    refine .refused _ hrefused fun shaped => ?_
    rw [isIdKey_of_isNumeral shaped.1] at hkey
    cases hkey
  | true =>
    obtain ⟨hnumeral, hlength⟩ := isNumeral_of_isIdKey hplain hkey
    have haccepted : readIdEntry place read key value = (do
        let entry ← read (place ++ "['" ++ key ++ "']") value
        let id ← readKey key
        return (id, entry)) := by
      rw [readIdEntry, hkey]
      rfl
    rw [haccepted, readKey_of_isNumeral hnumeral hlength]
    have hentry : ReadsIff (∃ x, value = make x) (EntryMeans make (key, value))
        (read (place ++ "['" ++ key ++ "']") value >>= fun x =>
          .ok ((naturalOf key.points : Int), x)) := by
      refine (hread _ value).map (fun x => ((naturalOf key.points : Int), x)) fun x hx => ?_
      exact ⟨rfl, hx⟩
    exact hentry.imp (by simp [hnumeral]) fun result hresult => hresult

/-- The entries of a map are read one by one, whatever ids they stand for. -/
theorem readsIff_readIdEntries (place : Text) {entries : Members}
    (hplain : ∀ entry ∈ entries, IsPlain entry.1) :
    ReadsIff (AreIdEntries make entries) (List.Forall₂ (EntryMeans make) entries)
      (readIdEntries place read entries) := by
  unfold AreIdEntries
  induction entries with
  | nil => exact .ok (by simp) .nil
  | cons entry entries ih =>
    obtain ⟨key, value⟩ := entry
    obtain ⟨hkey, hrest⟩ := List.forall_mem_cons.1 hplain
    have hothers : ∀ first, EntryMeans make (key, value) first →
        ReadsIff (∀ other ∈ entries, IsNumeral other.1.points ∧ ∃ x, other.2 = make x)
          (List.Forall₂ (EntryMeans make) ((key, value) :: entries))
          (readIdEntries place read entries >>= fun others => .ok (first :: others)) := by
      intro first hfirst
      refine (ih hrest).map (first :: ·) fun others hothers => ?_
      exact .cons hfirst hothers
    have hall := (readsIff_readIdEntry hread place hkey value).bind hothers
    exact hall.imp (by rw [List.forall_mem_cons]) fun results hresults => hresults

/-- **Reading a map** of plain keys: it has to be one, and its table has the last entries. -/
theorem readsIff_readIdMap (place : Text) {value : Option Value}
    (hplain : ∀ entry ∈ entriesOf value, IsPlain entry.1) :
    ReadsIff (∀ v ∈ value, IsIdMap make v)
      (fun table => ∀ id, LastEntry make (entriesOf value) id (table.get? id))
      (readIdMap place read value) := by
  cases value with
  | none =>
    refine .ok (by simp) fun id => ?_
    exact .missing (by simp [entriesOf])
  | some value =>
    cases value with
    | object entries =>
      have hentries : ReadsIff (AreIdEntries make entries)
          (List.Forall₂ (EntryMeans make) entries) (readIdEntries place read entries) :=
        readsIff_readIdEntries hread place hplain
      have htable : ReadsIff (AreIdEntries make entries)
          (fun table : Table α => ∀ id, LastEntry make entries id (table.get? id))
          (readIdEntries place read entries >>= fun results => .ok (Table.ofList results)) := by
        refine hentries.map Table.ofList fun results hresults id => ?_
        exact lastEntry_get? hresults id
      exact htable.imp (by simp [IsIdMap]) fun table hlast => hlast
    | _ => exact .wrong (by simp [IsIdMap])

end

/-! ## The rest of a snapshot -/

theorem readsIff_readList (place : Text) (value : Option Value) :
    ReadsIff (∀ v ∈ value, ∃ values, v = .array values) (fun values => values = elementsOf value)
      (readList place value) := by
  cases value with
  | none => exact .ok (by simp) rfl
  | some value =>
    have hlist := readsIff_requireList place value
    refine hlist.imp (by simp) fun values hvalues => ?_
    rw [hvalues]
    rfl

theorem readsIff_readInteger (place : Text) (default : Int) (value : Option Value) :
    ReadsIff (∀ v ∈ value, ∃ n, v = .integer n)
      (fun n => value.getD (.integer default) = .integer n) (readInteger place default value) := by
  cases value with
  | none => exact .ok (by simp) rfl
  | some value => exact (readsIff_requireInteger place value).imp (by simp) fun n hn => hn

/-- The member of a snapshot that holds what the party carries of one sort. -/
def memberName : Game.Thing → String
  | .item => "items"
  | .weapon => "weapons"
  | .armour => "armours"

/-- An object that is a snapshot: each member that is there has its shape. -/
structure IsSnapshot (members : Members) : Prop where
  carried (thing : Game.Thing) : ∀ v ∈ memberNamed? (memberName thing) members, IsIdMap .integer v
  vars : ∀ v ∈ memberNamed? "variables" members, IsIdMap .integer v
  switches : ∀ v ∈ memberNamed? "switches" members, IsIdMap .bool v
  gold : ∀ v ∈ memberNamed? "gold" members, ∃ n, v = .integer n
  party : ∀ v ∈ memberNamed? "party" members,
    ∃ values, v = .array values ∧ ∀ value ∈ values, ∃ n, value = .integer n

/-- The answer for an id that is not from one on: there is no such id, or no room for its name. -/
def unknownFault (kind : Game.Kind) (id : Int) : Game.IdFault :=
  if Text.isUnwritable id then .oversized .integer else .unknown ⟨kind, id⟩

/-- The answer of a query to a game for an id: from one on, what the last entry for the id says, or
a default; below, that there is no such id. -/
structure Answers {α : Type} (make : α → Value) (default : α) (kind : Game.Kind)
    (value : Option Value) (query : Int → Except Game.IdFault α) : Prop where
  known {id : Int} (h : 1 ≤ id) :
    ∃ last, LastEntry make (entriesOf value) id last ∧ query id = .ok (last.getD default)
  unknown {id : Int} (h : id ≤ 0) : query id = .error (unknownFault kind id)

/-- What an object records of a game. -/
structure Records (members : Members) (state : State) : Prop where
  count (thing : Game.Thing) :
    Answers .integer 0 (.thing thing) (memberNamed? (memberName thing) members) (state.count thing)
  variableValue :
    Answers .integer 0 .var (memberNamed? "variables" members) state.variableValue
  switch : Answers .bool false .switch (memberNamed? "switches" members) state.switch
  gold : (memberNamed? "gold" members).getD (.integer 0) = .integer state.gold
  hasActor {id : Int} (h : 1 ≤ id) :
    ∃ b, state.hasActor id = .ok b ∧
      (b = true ↔ .integer id ∈ elementsOf (memberNamed? "party" members))
  noActor {id : Int} (h : id ≤ 0) : state.hasActor id = .error (unknownFault .actor id)

/-- The maps of an object have plain keys only. -/
def PlainKeys (members : Members) : Prop :=
  ∀ name ∈ ["items", "weapons", "armours", "variables", "switches"],
    ∀ entry ∈ entriesOf (memberNamed? name members), IsPlain entry.1

instance (members : Members) : Decidable (PlainKeys members) :=
  inferInstanceAs (Decidable (∀ name ∈ _, ∀ entry ∈ entriesOf (memberNamed? name members), _))

/-- A query that looks an id up in a table answers by what the table was read from. -/
theorem answers_of_table {α : Type} {make : α → Value} {default : α} {kind : Game.Kind}
    {value : Option Value} {query : Int → Except Game.IdFault α} {table : Table α}
    (htable : ∀ id, LastEntry make (entriesOf value) id (table.get? id))
    (hquery : ∀ id, query id =
      (Game.requireId kind id).map fun id => (table.get? id).getD default) :
    Answers make default kind value query := by
  constructor
  · intro id h
    refine ⟨table.get? id, htable id, ?_⟩
    rw [hquery, Game.requireId_of_pos h]
    rfl
  · intro id h
    rw [hquery, Game.requireId_of_le_zero h]
    rfl

/-- A game that was put together from the parts of an object answers every query by it. -/
theorem records_of_parts {members : Members} {items weapons armours vars : Table Int}
    {switches : Table Bool} {gold : Int} {actors : List Int}
    (hitems : ∀ id, LastEntry .integer (entriesOf (memberNamed? "items" members)) id
      (items.get? id))
    (hweapons : ∀ id, LastEntry .integer (entriesOf (memberNamed? "weapons" members)) id
      (weapons.get? id))
    (harmours : ∀ id, LastEntry .integer (entriesOf (memberNamed? "armours" members)) id
      (armours.get? id))
    (hswitches : ∀ id, LastEntry .bool (entriesOf (memberNamed? "switches" members)) id
      (switches.get? id))
    (hvars : ∀ id, LastEntry .integer (entriesOf (memberNamed? "variables" members)) id
      (vars.get? id))
    (hgold : (memberNamed? "gold" members).getD (.integer 0) = .integer gold)
    (hactors : elementsOf (memberNamed? "party" members) = actors.map .integer) :
    Records members ⟨switches, vars, gold, actors, items, weapons, armours⟩ where
  count
    | .item => answers_of_table hitems fun _ => rfl
    | .weapon => answers_of_table hweapons fun _ => rfl
    | .armour => answers_of_table harmours fun _ => rfl
  variableValue := answers_of_table hvars fun _ => rfl
  switch := answers_of_table hswitches fun _ => rfl
  gold := hgold
  hasActor {id} h := by
    refine ⟨actors.contains id, ?_, ?_⟩
    · rw [State.hasActor, Game.requireId_of_pos h]
      rfl
    · rw [hactors]
      simp
  noActor {id} h := by
    rw [State.hasActor, Game.requireId_of_le_zero h]
    rfl

/-- A party is found to be a list first, and a list of integers later. -/
theorem isParty_iff (value : Option Value) :
    (∀ v ∈ value, ∃ values, v = .array values ∧ ∀ element ∈ values, ∃ n, element = .integer n) ↔
      (∀ v ∈ value, ∃ values, v = .array values) ∧
        ∀ element ∈ elementsOf value, ∃ n, element = .integer n := by
  constructor
  · intro h
    refine ⟨fun v hv => ?_, ?_⟩
    · obtain ⟨values, heq, -⟩ := h v hv
      exact ⟨values, heq⟩
    · intro element hmem
      cases value with
      | none => simp [elementsOf] at hmem
      | some v =>
        obtain ⟨values, rfl, hall⟩ := h v rfl
        exact hall element hmem
  · rintro ⟨hlist, hall⟩ v rfl
    obtain ⟨values, rfl⟩ := hlist v rfl
    exact ⟨values, rfl, hall⟩

/-- **Reading a snapshot** of plain keys: it has to have the shape of one, and the game that is read
answers every query by it. -/
theorem readsIff_readState {members : Members} (hplain : PlainKeys members) :
    ReadsIff (IsSnapshot members) (Records members) (readState members) := by
  have hitems := readsIff_readIdMap readsIff_requireInteger "scenario.state.items"
    (hplain "items" (by simp))
  have hweapons := readsIff_readIdMap readsIff_requireInteger "scenario.state.weapons"
    (hplain "weapons" (by simp))
  have harmours := readsIff_readIdMap readsIff_requireInteger "scenario.state.armours"
    (hplain "armours" (by simp))
  have hlist := readsIff_readList "scenario.state.party" (memberNamed? "party" members)
  have hswitches := readsIff_readIdMap readsIff_requireBoolean "scenario.state.switches"
    (hplain "switches" (by simp))
  have hvars := readsIff_readIdMap readsIff_requireInteger "scenario.state.variables"
    (hplain "variables" (by simp))
  have hgold := readsIff_readInteger "scenario.state.gold" 0 (memberNamed? "gold" members)
  have hactors : ∀ party, party = elementsOf (memberNamed? "party" members) →
      ReadsIff (∀ element ∈ elementsOf (memberNamed? "party" members), ∃ n, element = .integer n)
        (fun actors => elementsOf (memberNamed? "party" members) = actors.map .integer)
        (readElements "scenario.state.party" requireInteger party) := by
    rintro party rfl
    exact readsIff_readElements readsIff_requireInteger "scenario.state.party" _
  -- The parts are read in this order; whichever fails first, the object is no snapshot.
  have hall := hitems.bind fun items hitems => hweapons.bind fun weapons hweapons =>
    harmours.bind fun armours harmours => hlist.bind fun party hparty =>
    hswitches.bind fun switches hswitches => hvars.bind fun vars hvars =>
    hgold.bind fun gold hgold =>
      (hactors party hparty).map
        (fun actors => State.mk switches vars gold actors items weapons armours)
        fun actors hactors =>
          records_of_parts hitems hweapons harmours hswitches hvars hgold hactors
  refine hall.imp ?_ fun state hstate => hstate
  -- what is left is that the shapes of the parts together are the shape of the whole
  constructor
  · rintro ⟨hitems, hweapons, harmours, hlist, hswitches, hvars, hgold, hactors⟩
    have hcarried : ∀ thing, ∀ v ∈ memberNamed? (memberName thing) members, IsIdMap .integer v
      | .item => hitems
      | .weapon => hweapons
      | .armour => harmours
    exact ⟨hcarried, hvars, hswitches, hgold, (isParty_iff _).2 ⟨hlist, hactors⟩⟩
  · intro h
    obtain ⟨hlist, hactors⟩ := (isParty_iff _).1 h.party
    exact ⟨h.carried .item, h.carried .weapon, h.carried .armour, hlist, h.switches, h.vars,
      h.gold, hactors⟩

/-- Three keys that stand for one id, and one that stands for another. -/
def collidingKeys : Members :=
  [("items", .object [("1", .integer 2), ("01", .integer 3), ("2", .integer 5), ("١", .integer 7)]),
    ("switches", .object [("3", .bool true)]), ("party", .array [.integer 4])]

theorem readsIff_colliding_keys :
    PlainKeys collidingKeys ∧
      ReadsIff (IsSnapshot collidingKeys) (Records collidingKeys) (readState collidingKeys) ∧
      (readState collidingKeys).map (fun state => (state.count .item 1, state.count .item 2)) =
        .ok (.ok 7, .ok 5) ∧
      (readState collidingKeys).map (fun state => (state.switch 3, state.count .weapon 3)) =
        .ok (.ok true, .ok 0) ∧
      (readState collidingKeys).map (fun state => (state.hasActor 4, state.variableValue 0)) =
        .ok (.ok true, .error (.unknown ⟨.var, 0⟩)) :=
  have hplain : PlainKeys collidingKeys := by decide
  ⟨hplain, readsIff_readState hplain, by decide, by decide, by decide +kernel⟩

/-- **An unknown id may be too long to be named**, also in a game of which nothing is recorded. -/
theorem unknown_without_name :
    ¬∀ (members : Members) (state : State), PlainKeys members → readState members = .ok state →
      ∀ id ≤ 0, state.switch id = .error (.unknown ⟨.switch, id⟩) := by
  intro h
  have hunknown := h [] {} (by decide) rfl (-Text.leastUnwritable) (by decide +kernel)
  have hfault : State.switch {} (-Text.leastUnwritable) = .error (.oversized .integer) := by
    decide +kernel
  rw [hfault] at hunknown
  cases hunknown

end GatedPrompt.Definitions
