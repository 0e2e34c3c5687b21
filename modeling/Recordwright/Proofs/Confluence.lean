import Recordwright.Proofs.ByName
import Recordwright.Proofs.Described

/-!
# Assignments in any order

What a sequence of assignments leaves behind depends on the last accepted value of each field alone.

A well-formed builder is determined by its schema, its origin and what it stores
(`Builder.WellFormed.ext`): the slots hold what is stored and nothing besides, the bits say where
something is stored, and the words of the bits have no room for more.  A field stores the value that
was last accepted for it, so two sequences that agree on these values lead to one and the same
builder, down to the words of its bits (`Builder.WellFormed.attemptAll_congr`).

A session keeps builders in registers.  A refused assignment leaves the whole session as it was
(`Session.step_set_of_refused`), and assignments to the builder of one register leave there what
they make of it (`Session.get?_run_assignments`).

The main statement, `Session.Reachable.assignments_confluent`, is about every builder of a reachable
session: when an assignment succeeds, what it changes, and which sequences cannot be told apart.
-/

namespace Recordwright

namespace Builder

variable {b c : Builder} {i : Nat} {field : String} {v w : Value}

/-! ### Equal builders -/

/-- **Extensionality.** Well-formed builders of one schema with one origin are equal if they store
the same values. -/
theorem WellFormed.ext (hb : b.WellFormed) (hc : c.WellFormed) (schema : b.schema = c.schema)
    (origin : b.state.origin = c.state.origin) (stored : ∀ i, b.stored i = c.stored i) : b = c := by
  have lengths : b.slots.length = c.slots.length := by
    rw [hb.slots_length, hc.slots_length, schema]
  -- a slot holds what is stored at its position, so there is nothing in it that is not stored
  have slots : b.slots = c.slots := by
    refine List.ext_getElem? fun i => ?_
    by_cases inside : i < b.slots.length
    · rw [getElem?_slots_eq inside, getElem?_slots_eq (lengths ▸ inside), stored]
    · have outside : c.slots.length ≤ i := lengths ▸ Nat.le_of_not_lt inside
      rw [List.getElem?_eq_none (Nat.le_of_not_lt inside), List.getElem?_eq_none outside]
  -- a bit says whether something is stored, and so the sets of positions agree
  have assigned : b.state.assigned = c.state.assigned := by
    refine hb.assigned_tight.ext hc.assigned_tight ?_ fun i => ?_
    · rw [hb.assigned_size, hc.assigned_size, schema]
    · have bits : b.state.isAssigned i = c.state.isAssigned i := by
        rw [hb.isAssigned_eq, hc.isAssigned_eq, stored]
      exact bits
  obtain ⟨bSchema, ⟨bOrigin, bAssigned⟩, bSlots⟩ := b
  obtain ⟨cSchema, ⟨cOrigin, cAssigned⟩, cSlots⟩ := c
  obtain rfl : bSchema = cSchema := schema
  obtain rfl : bOrigin = cOrigin := origin
  obtain rfl : bAssigned = cAssigned := assigned
  obtain rfl : bSlots = cSlots := slots
  rfl

/-- **Only the last accepted values matter.** Two sequences of assignments that agree on the last
accepted value of each field make the same of a builder. -/
theorem WellFormed.attemptAll_congr (h : b.WellFormed) {as others : List Assignment}
    (same : ∀ field, lastValue field (b.accepted as) = lastValue field (b.accepted others)) :
    b.attemptAll as = b.attemptAll others := by
  refine (h.attemptAll as).ext (h.attemptAll others) ?_ ?_ fun i => ?_
  · rw [schema_attemptAll, schema_attemptAll]
  · rw [origin_attemptAll, origin_attemptAll]
  · cases hd : b.schema.value.fields[i]? with
    | some d => rw [h.stored_attemptAll hd, h.stored_attemptAll hd, same]
    | none =>
      -- beyond the fields nothing is ever stored
      have nothing : ∀ as : List Assignment, (b.attemptAll as).stored i = none := by
        intro as
        refine Option.eq_none_iff_forall_ne_some.mpr fun v stored => ?_
        obtain ⟨d, there⟩ := (h.attemptAll as).exists_field_of_stored stored
        rw [schema_attemptAll, hd] at there
        cases there
      rw [nothing, nothing]

/-! ### One assignment -/

/-- The builder `c` is `b` but for one field: its slot holds this value and its bit is set. -/
structure AssignedAt (b c : Builder) (i : Nat) (v : Value) : Prop where
  schema : c.schema = b.schema
  origin : c.state.origin = b.state.origin
  slot : c.slots[i]? = some (some v)
  bit : c.state.isAssigned i = true
  /-- No other slot and no other bit is changed. -/
  frame : ∀ j, j ≠ i →
    c.slots[j]? = b.slots[j]? ∧ c.state.isAssigned j = b.state.isAssigned j

/-- Storing changes one slot and one bit. -/
theorem WellFormed.assignedAt_store (h : b.WellFormed) (inside : i < b.slots.length) (v : Value) :
    AssignedAt b (b.store i v) i v where
  schema := schema_store b i v
  origin := origin_store b i v
  slot := by
    rw [Builder.store, if_pos inside]
    exact List.getElem?_set_self inside
  bit := by
    rw [h.isAssigned_store inside]
    simp
  frame := fun j apart => by
    refine ⟨?_, ?_⟩
    · rw [Builder.store, if_pos inside]
      exact List.getElem?_set_ne apart.symm
    · rw [h.isAssigned_store inside, decide_eq_false apart, Bool.or_false]

/-- An assignment that succeeds changes the slot and the bit of its own field. -/
theorem WellFormed.assignedAt_of_set (h : b.WellFormed) (ok : b.set field v = .ok c) :
    ∃ (i : Nat) (d : Descriptor), b.schema.value.fields[i]? = some d ∧ d.name = field ∧
      AssignedAt b c i v := by
  obtain ⟨i, t, found, typed, -, rfl⟩ := set_eq_ok_iff.mp ok
  obtain ⟨d, hd, name⟩ := h.schema.descriptors.ordinalOf?_eq_some_iff.mp found
  exact ⟨i, d, hd, name, h.assignedAt_store (h.lt_of_type? typed) v⟩

theorem lastValue_accepted_eq_none {a : Assignment} (apart : a.1 ≠ field) :
    lastValue field (b.accepted [a]) = none :=
  lastValue_eq_none fun _ member => List.mem_singleton.mp (mem_of_mem_accepted member) ▸ apart

/-- Assignments to different fields commute. -/
theorem WellFormed.attemptAll_comm (h : b.WellFormed) {a e : Assignment} (apart : a.1 ≠ e.1) :
    b.attemptAll ([a] ++ [e]) = b.attemptAll ([e] ++ [a]) := by
  refine h.attemptAll_congr fun field => ?_
  rw [accepted_append, accepted_append, lastValue_append, lastValue_append]
  -- a field is assigned by one of the two at most, and does not see their order
  by_cases first : a.1 = field
  · rw [lastValue_accepted_eq_none fun second => apart (first.trans second.symm), Option.none_or,
      Option.or_none]
  · rw [lastValue_accepted_eq_none first, Option.none_or, Option.or_none]

/-- An accepted assignment goes over an earlier one to the same field. -/
theorem WellFormed.attemptAll_overwrite (h : b.WellFormed) (v : Value)
    (ok : b.set field w = .ok c) :
    b.attemptAll ([(field, v)] ++ [(field, w)]) = b.attemptAll [(field, w)] := by
  refine h.attemptAll_congr fun name => ?_
  rw [accepted_append, lastValue_append]
  by_cases same : field = name
  · have last : b.accepted [(field, w)] = [(field, w)] := by simp only [accepted, ok]
    rw [last, lastValue_singleton, if_pos same, Option.some_or]
  · rw [lastValue_accepted_eq_none same, lastValue_accepted_eq_none same, Option.none_or]

end Builder

namespace Session

variable {s : Session} {register field : String} {b : Builder} {v : Value}

/-! ### Builders in registers -/

/-- A refused assignment leaves the session as it was, and reports nothing. -/
theorem step_set_of_refused (held : s.builders.get? register = some b) {e : UsageError}
    (refused : b.set field v = .error e) :
    s.step (.set register field v) = ⟨s, .failed (.usage e), []⟩ := by
  simp only [step, held, refused]

/-- The script that tries assignments on the builder of a register, one by one. -/
def assignments (register : String) (as : List Assignment) : List Command :=
  as.map fun a => .set register a.1 a.2

theorem get?_step_set (held : s.builders.get? register = some b) (a : Assignment) :
    (s.step (.set register a.1 a.2)).session.builders.get? register = some (b.attempt a) := by
  unfold Builder.attempt
  cases tried : b.set a.1 a.2 with
  | error e => rw [step_set_of_refused held tried, held]
  | ok c => simp only [step, held, tried, Registers.get?_put_self]

/-- The register holds what the assignments make of its builder. -/
theorem get?_run_assignments (held : s.builders.get? register = some b) (as : List Assignment) :
    (s.run (assignments register as)).2.builders.get? register = some (b.attemptAll as) := by
  -- each assignment leaves the register with the builder that the next one is tried on
  induction as generalizing s b with
  | nil => exact held
  | cons a rest ih => exact ih (get?_step_set held a)

/-- **Assignments are confluent, and those that fail do nothing.** Let a register of a reachable
session hold a builder.

* An assignment succeeds iff its name is that of a field whose type accepts the value.  An unknown
  name is refused whatever the value is, and a known one if its type does not accept the value.  A
  refused assignment leaves the whole session as it was.
* One that succeeds changes the slot and the bit of its own field, and no other.
* Two sequences of assignments, accepted and refused ones in any order, make the same builder if
  each field has the same last accepted value in both, and that is the builder which the session
  then holds.  So assignments to different fields commute, and later ones go over earlier ones. -/
theorem Reachable.assignments_confluent (h : s.Reachable)
    (held : s.builders.get? register = some b) :
    (∀ field v,
      ((∃ c, b.set field v = .ok c) ↔ ∃ (i : Nat) (d : Descriptor) (t : FieldType),
        b.schema.value.fields[i]? = some d ∧ d.name = field ∧ b.schema.value.type? i = some t ∧
          t.accepts v = true) ∧
      ((∀ d ∈ b.schema.value.fields, d.name ≠ field) →
        b.set field v = .error (.unknownField b.schema.value.record field)) ∧
      (∀ (i : Nat) (d : Descriptor) (t : FieldType), b.schema.value.fields[i]? = some d →
        d.name = field → b.schema.value.type? i = some t → t.accepts v = false →
          b.set field v =
            .error (.typeMismatch b.schema.value.record field t.text v.typeName)) ∧
      (∀ e, b.set field v = .error e →
        s.step (.set register field v) = ⟨s, .failed (.usage e), []⟩) ∧
      ∀ c, b.set field v = .ok c → ∃ (i : Nat) (d : Descriptor),
        b.schema.value.fields[i]? = some d ∧ d.name = field ∧ b.AssignedAt c i v) ∧
    (∀ as others : List Assignment,
      (∀ field, lastValue field (b.accepted as) = lastValue field (b.accepted others)) →
        b.attemptAll as = b.attemptAll others) ∧
    (∀ as, (s.run (assignments register as)).2.builders.get? register = some (b.attemptAll as)) ∧
    (∀ a e : Assignment, a.1 ≠ e.1 → b.attemptAll [a, e] = b.attemptAll [e, a]) ∧
    ∀ field v w, (∃ c, b.set field w = .ok c) →
      b.attemptAll [(field, v), (field, w)] = b.attemptAll [(field, w)] := by
  have wellFormed : b.WellFormed := (h.sound.builders b ⟨register, held⟩).1
  have schema := wellFormed.schema
  refine ⟨fun field v => ⟨?_, fun unknown => ?_, fun i d t hd name typed refused => ?_,
      fun e refused => step_set_of_refused held refused,
      fun c ok => wellFormed.assignedAt_of_set ok⟩,
    fun as others same => wellFormed.attemptAll_congr same, get?_run_assignments held,
    fun a e apart => wellFormed.attemptAll_comm apart, ?_⟩
  · exact (Builder.exists_set_eq_ok_iff (a := (field, v))).trans schema.admits_iff
  -- the value of a name that no field has is not looked at
  · have nowhere : b.schema.value.field? field = none :=
      schema.field?_eq_none_iff.mpr (Descriptors.ordinalOf?_eq_none_iff.mpr unknown)
    exact wellFormed.set_of_field?_eq_none nowhere v
  · subst name
    exact wellFormed.set_of_refused (schema.field?_name hd typed) refused
  · rintro field v w ⟨c, ok⟩
    exact wellFormed.attemptAll_overwrite v ok

/-- Assignments to the builder of a session, two of them refused.  Without those, and without the
one that is assigned over, they make the same builder in another order. -/
theorem assignments_confluent_dogSession :
    dogSession.Reachable ∧ dogSession.builders.get? "third" = some third ∧
    third.set "KIND" .null = .error (.unknownField "Dog" "KIND") ∧
    third.set "age" (.text "old") = .error (.typeMismatch "Dog" "age" "int?" "text") ∧
    third.attemptAll [("age", .int 5), ("KIND", .null), ("name", .text "Rex"),
        ("age", .text "old"), ("age", .null)] =
      third.attemptAll [("age", .null), ("name", .text "Rex")] ∧
    (third.attemptAll [("age", .null), ("name", .text "Rex")]).slots =
      [some (.text "Rex"), some .null] := by
  have reachable : dogSession.Reachable :=
    (Reachable.create "Dog" dogShape {} .memoized .start).run _
  have held : dogSession.builders.get? "third" = some third := (Option.some_get _).symm
  obtain ⟨one, congruent, -⟩ := reachable.assignments_confluent held
  obtain ⟨-, unknown, -⟩ := one "KIND" .null
  obtain ⟨-, -, mismatch, -⟩ := one "age" (.text "old")
  refine ⟨reachable, held, unknown (by decide +kernel), ?_, congruent _ _ fun field => ?_,
    by decide +kernel⟩
  · exact mismatch 1 ⟨"age", "int?", false, 1⟩ ⟨.int, true⟩ (by decide +kernel) rfl
      (by decide +kernel) rfl
  · have first : third.accepted [("age", .int 5), ("KIND", .null), ("name", .text "Rex"),
        ("age", .text "old"), ("age", .null)] =
        [("age", .int 5), ("name", .text "Rex"), ("age", .null)] := by decide +kernel
    have second : third.accepted [("age", .null), ("name", .text "Rex")] =
        [("age", .null), ("name", .text "Rex")] := by decide +kernel
    rw [first, second]
    -- the sequences differ in the order of the fields and in a value that is assigned over
    by_cases age : "age" = field
    · subst age
      decide +kernel
    · simp [lastValue_cons, age]

end Session

end Recordwright
