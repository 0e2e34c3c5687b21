import Recordwright.Proofs.BuildState
import Recordwright.Proofs.Schema
import Recordwright.Builder

/-!
# The invariant of builders and records

A builder keeps four sequences in step: the descriptors and the types of its schema, the slots, and
the bits of the assigned fields.  `Builder.WellFormed` says how: one slot and one bit for each
field, a slot holds a value iff its bit is set, and the value is one that the field's type accepts;
an origin is a well-formed record of the builder's schema.  `Record.WellFormed` says that a record
has one value for each field, accepted by the field's type.

Each operation has one lemma here that says what it does to a well-formed builder, and callers use
that lemma and do not open the operation:

* `set_eq_ok_iff` — an assignment succeeds iff the name is a field's and its type accepts the value,
  and the result is `store` at the field's position;
* `stored_store` — `store` changes what is stored at its own position and nothing else;
* `build_fresh` and `build_derive` — what the two builds give, failure included.

Well-formedness is kept by all of them (`WellFormed.set`, `WellFormed.build`), so it holds of every
builder and record that is made from a well-formed schema.
-/

namespace Recordwright

/-! ### Records -/

/-- One value for each field, accepted by the field's type. -/
structure Record.WellFormed (r : Record) : Prop where
  schema : r.schema.value.WellFormed
  /-- There are as many values as fields. -/
  values_length : r.values.length = r.schema.value.size
  /-- Each value is accepted by the type at its position. -/
  accepts : ∀ (i : Nat) (t : FieldType) (v : Value),
    r.schema.value.type? i = some t → r.values[i]? = some v → t.accepts v = true

namespace Record

variable {r : Record} {i : Nat} {d : Descriptor}

/-- The value of a field is the one at its position. -/
theorem get?_name (h : r.schema.value.WellFormed) (hd : r.schema.value.fields[i]? = some d) :
    r.get? d.name = r.values[i]? := by
  have found : r.schema.value.descriptors.ordinalOf? d.name = some i :=
    h.descriptors.ordinalOf?_name hd
  simp [get?, found]

/-- A name that no field has, has no value. -/
theorem get?_eq_none {name : String} (h : ∀ d ∈ r.schema.value.fields, d.name ≠ name) :
    r.get? name = none := by
  have found : r.schema.value.descriptors.ordinalOf? name = none :=
    Descriptors.ordinalOf?_eq_none_iff.mpr h
  simp [get?, found]

/-- Each field of a well-formed record has a value. -/
theorem WellFormed.value_at (h : r.WellFormed) (hi : i < r.schema.value.size) :
    ∃ v, r.values[i]? = some v :=
  ⟨_, List.getElem?_eq_getElem (h.values_length ▸ hi)⟩

/-- Each field of a well-formed record has a value that its type accepts, and the look-up by name
gives it. -/
theorem WellFormed.get?_name (h : r.WellFormed) (hd : r.schema.value.fields[i]? = some d) :
    ∃ t v, r.schema.value.type? i = some t ∧ r.values[i]? = some v ∧ t.accepts v = true ∧
      r.get? d.name = some v := by
  have inside : i < r.schema.value.size := (List.getElem?_eq_some_iff.mp hd).1
  obtain ⟨t, typed⟩ := h.schema.type?_isSome inside
  obtain ⟨v, value⟩ := h.value_at inside
  exact ⟨t, v, typed, value, h.accepts i t v typed value,
    (Record.get?_name h.schema hd).trans value⟩

end Record

namespace Builder

variable {b b' : Builder} {i j : Nat} {t : FieldType} {v : Value} {field : String}

/-- What is stored at a position. -/
def stored (b : Builder) (i : Nat) : Option Value := b.slots[i]?.join

/-- **The invariant of a builder.** -/
structure WellFormed (b : Builder) : Prop where
  schema : b.schema.value.WellFormed
  /-- There are as many slots as fields. -/
  slots_length : b.slots.length = b.schema.value.size
  /-- There are as many bits as fields. -/
  assigned_size : b.state.assigned.size = b.schema.value.size
  assigned_tight : b.state.assigned.Tight
  /-- A field is assigned iff something is stored for it. -/
  isAssigned_eq : ∀ i, b.state.isAssigned i = (b.stored i).isSome
  /-- What is stored is accepted by the type at its position. -/
  accepts : ∀ (i : Nat) (t : FieldType) (v : Value),
    b.schema.value.type? i = some t → b.stored i = some v → t.accepts v = true
  /-- An origin has the builder's schema. -/
  origin_schema : ∀ o, b.state.origin = some o → o.value.schema = b.schema
  /-- An origin is well formed. -/
  origin : ∀ o, b.state.origin = some o → o.value.WellFormed

/-- Within the slots, what is stored is what the slot holds. -/
theorem getElem?_slots_eq (hi : i < b.slots.length) : b.slots[i]? = some (b.stored i) := by
  unfold stored
  rw [List.getElem?_eq_getElem hi]
  rfl

/-- Something is stored within the slots only. -/
theorem lt_of_stored (h : b.stored i = some v) : i < b.slots.length := by
  by_contra out
  rw [stored, List.getElem?_eq_none (Nat.le_of_not_lt out)] at h
  cases h

/-- Something is stored at the positions of fields only. -/
theorem WellFormed.exists_field_of_stored (h : b.WellFormed) (stored : b.stored i = some v) :
    ∃ d, b.schema.value.fields[i]? = some d := by
  have inside := lt_of_stored stored
  rw [h.slots_length] at inside
  exact ⟨_, List.getElem?_eq_getElem inside⟩

/-- A position with a type has a slot. -/
theorem WellFormed.lt_of_type? (h : b.WellFormed) (typed : b.schema.value.type? i = some t) :
    i < b.slots.length := by
  rw [h.slots_length, ← h.schema.types_length]
  exact (List.getElem?_eq_some_iff.mp typed).1

/-- An origin has a value for each field of the builder, and the look-up by name gives it. -/
theorem WellFormed.origin_value (h : b.WellFormed) {o : Shared Record}
    (ho : b.state.origin = some o) {d : Descriptor}
    (hd : b.schema.value.fields[i]? = some d) :
    ∃ w, o.value.values[i]? = some w ∧ o.value.get? d.name = some w := by
  rw [← h.origin_schema o ho] at hd
  obtain ⟨-, w, -, current, -, found⟩ := (h.origin o ho).get?_name hd
  exact ⟨w, current, found⟩

/-- A field is set iff something is stored for it. -/
theorem WellFormed.isSet_name (h : b.WellFormed) {d : Descriptor}
    (hd : b.schema.value.fields[i]? = some d) : b.isSet d.name = (b.stored i).isSome := by
  have found : b.schema.value.descriptors.ordinalOf? d.name = some i :=
    h.schema.descriptors.ordinalOf?_name hd
  rw [isSet, found]
  exact h.isAssigned_eq i

/-! ### New builders -/

@[simp] theorem stored_fresh (schema : Shared Schema) (i : Nat) :
    (fresh schema).stored i = none := by
  unfold stored fresh
  rw [List.getElem?_replicate]
  split <;> rfl

@[simp] theorem stored_derive (origin : Shared Record) (i : Nat) :
    (derive origin).stored i = none := by
  unfold stored derive
  rw [List.getElem?_replicate]
  split <;> rfl

/-- A fresh builder is well formed. -/
theorem WellFormed.fresh {schema : Shared Schema} (h : schema.value.WellFormed) :
    (fresh schema).WellFormed where
  schema := h
  slots_length := List.length_replicate
  assigned_size := rfl
  assigned_tight := AssignedSet.tight_empty _
  isAssigned_eq := fun i => by
    rw [stored_fresh]
    exact BuildState.isAssigned_fresh _ i
  accepts := fun i t v _ stored => absurd stored (by simp)
  origin_schema := fun o ho => by cases ho
  origin := fun o ho => by cases ho

/-- A builder with a well-formed origin is well formed. -/
theorem WellFormed.derive {origin : Shared Record} (h : origin.value.WellFormed) :
    (derive origin).WellFormed where
  schema := h.schema
  slots_length := List.length_replicate
  assigned_size := rfl
  assigned_tight := AssignedSet.tight_empty _
  isAssigned_eq := fun i => by
    rw [stored_derive]
    exact BuildState.isAssigned_derived _ _ i
  accepts := fun i t v _ stored => absurd stored (by simp)
  origin_schema := fun o ho => by rw [← Option.some.inj ho]; rfl
  origin := fun o ho => by rw [← Option.some.inj ho]; exact h

/-! ### Assignments -/

/-- **Assignment.** It succeeds iff the name is that of a field whose type accepts the value. -/
theorem set_eq_ok_iff :
    b.set field v = .ok b' ↔
      ∃ i t, b.schema.value.descriptors.ordinalOf? field = some i ∧
        b.schema.value.type? i = some t ∧ t.accepts v = true ∧ b' = b.store i v := by
  unfold set
  cases found : b.schema.value.descriptors.ordinalOf? field with
  | none => simp
  | some i =>
    cases typed : b.schema.value.type? i with
    | none => simp [typed]
    | some t =>
      by_cases accepted : t.accepts v = true
      · simp only [typed, if_pos accepted]
        constructor
        · intro h
          exact ⟨i, t, rfl, typed, accepted, (Except.ok.inj h).symm⟩
        · rintro ⟨i', t', same, -, -, rfl⟩
          rw [Option.some.inj same]
      · simp only [typed, if_neg accepted]
        constructor
        · intro h
          cases h
        · rintro ⟨i', t', same, typed', accepted', -⟩
          rw [← Option.some.inj same, typed] at typed'
          rw [← Option.some.inj typed'] at accepted'
          exact absurd accepted' accepted

/-- Storing changes its own position and no other. -/
theorem stored_store (hi : i < b.slots.length) (v : Value) (j : Nat) :
    (b.store i v).stored j = if j = i then some v else b.stored j := by
  unfold store stored
  rw [if_pos hi]
  by_cases same : j = i
  · subst same
    rw [if_pos rfl, List.getElem?_set_self hi]
    rfl
  · rw [if_neg same, List.getElem?_set_ne fun equal => same equal.symm]

/-- Storing sets the bit of its own position and no other. -/
theorem WellFormed.isAssigned_store (h : b.WellFormed) (hi : i < b.slots.length) (v : Value)
    (j : Nat) :
    (b.store i v).state.isAssigned j = (b.state.isAssigned j || decide (j = i)) := by
  have bit : i < b.state.assigned.size := by rwa [h.assigned_size, ← h.slots_length]
  rw [Builder.store, if_pos hi]
  exact BuildState.isAssigned_mark h.assigned_tight bit j

/-- Storing an accepted value keeps the invariant. -/
theorem WellFormed.store (h : b.WellFormed) (typed : b.schema.value.type? i = some t)
    (accepted : t.accepts v = true) : (b.store i v).WellFormed := by
  have inside := h.lt_of_type? typed
  have marked : (b.store i v).state = b.state.mark i := by
    rw [Builder.store, if_pos inside]
  constructor
  case schema => rw [schema_store]; exact h.schema
  case slots_length =>
    rw [schema_store, ← h.slots_length, Builder.store, if_pos inside]
    exact List.length_set
  case assigned_size =>
    rw [schema_store, marked, ← h.assigned_size]
    exact AssignedSet.size_insert _ _
  case assigned_tight => rw [marked]; exact h.assigned_tight.insert i
  case isAssigned_eq =>
    -- the bit and the slot change at the same position
    intro j
    rw [h.isAssigned_store inside, h.isAssigned_eq, stored_store inside]
    by_cases same : j = i <;> simp [same]
  case accepts =>
    -- at the position itself the type was asked, elsewhere nothing changes
    intro j u w typed' stored
    rw [schema_store] at typed'
    rw [stored_store inside] at stored
    by_cases same : j = i
    · subst same
      rw [if_pos rfl, Option.some.injEq] at stored
      rw [typed, Option.some.injEq] at typed'
      rw [← typed', ← stored]
      exact accepted
    · rw [if_neg same] at stored
      exact h.accepts j u w typed' stored
  case origin_schema =>
    intro o ho
    rw [schema_store]
    exact h.origin_schema o (by rwa [origin_store] at ho)
  case origin => exact fun o ho => h.origin o (by rwa [origin_store] at ho)

/-- An assignment that succeeds keeps the invariant. -/
theorem WellFormed.set (h : b.WellFormed) (ok : b.set field v = .ok b') : b'.WellFormed := by
  obtain ⟨i, t, -, typed, accepted, rfl⟩ := set_eq_ok_iff.mp ok
  exact h.store typed accepted

/-! ### Builds -/

/-- The values of a fresh build, slot by slot. -/
theorem freshValues_eq_zipWith (slots : List (Option Value)) (types : List FieldType) :
    freshValues slots types = List.zipWith (fun slot t => slot.getD t.default) slots types := by
  induction slots generalizing types with
  | nil => cases types <;> rfl
  | cons slot slots ih =>
    cases types with
    | nil => rfl
    | cons t types => rw [freshValues, List.zipWith_cons_cons, ih]

/-- The values of a derived build, slot by slot. -/
theorem derivedValues_eq_zipWith (slots : List (Option Value)) (values : List Value) :
    derivedValues slots values = List.zipWith (fun slot v => slot.getD v) slots values := by
  induction slots generalizing values with
  | nil => cases values <;> rfl
  | cons slot slots ih =>
    cases values with
    | nil => rfl
    | cons v values => rw [derivedValues, List.zipWith_cons_cons, ih]

/-- The value that a fresh build gives a field. -/
theorem WellFormed.getElem?_freshValues (h : b.WellFormed)
    (typed : b.schema.value.type? i = some t) :
    (freshValues b.slots b.schema.value.types)[i]? = some ((b.stored i).getD t.default) := by
  have typed' : b.schema.value.types[i]? = some t := typed
  rw [freshValues_eq_zipWith, List.getElem?_zipWith, getElem?_slots_eq (h.lt_of_type? typed),
    typed']

/-- The value that a derived build gives a field. -/
theorem WellFormed.getElem?_derivedValues (h : b.WellFormed) (o : Record)
    (hi : i < b.schema.value.size) {w : Value} (current : o.values[i]? = some w) :
    (derivedValues b.slots o.values)[i]? = some ((b.stored i).getD w) := by
  rw [derivedValues_eq_zipWith, List.getElem?_zipWith, getElem?_slots_eq (h.slots_length ▸ hi),
    current]

/-- **The comparison of a derived build** finds a change iff an assigned value is not equal to the
origin's. -/
theorem WellFormed.isChanged_iff (h : b.WellFormed) {o : Shared Record}
    (ho : b.state.origin = some o) :
    b.isChanged o.value = true ↔
      ∃ i v w, b.stored i = some v ∧ o.value.values[i]? = some w ∧ v.equal w = false := by
  have lengths : o.value.values.length = b.schema.value.size := by
    rw [(h.origin o ho).values_length, h.origin_schema o ho]
  unfold isChanged
  rw [List.any_eq_true]
  constructor
  · -- the comparison goes by ordinals, which are positions
    rintro ⟨d, hd, differs⟩
    obtain ⟨i, hi⟩ := List.getElem?_of_mem hd
    rw [h.schema.descriptors.ordinal_eq i d hi] at differs
    have inside : i < b.schema.value.size := (List.getElem?_eq_some_iff.mp hi).1
    rw [getElem?_slots_eq (h.slots_length ▸ inside),
      List.getElem?_eq_getElem (lengths ▸ inside)] at differs
    simp only [BuildState.differs_eq (h.isAssigned_eq i), Option.any_eq_true] at differs
    obtain ⟨v, stored, unequal⟩ := differs
    exact ⟨i, v, _, stored, List.getElem?_eq_getElem (lengths ▸ inside), by simpa using unequal⟩
  · rintro ⟨i, v, w, stored, current, unequal⟩
    obtain ⟨d, hd⟩ := h.exists_field_of_stored stored
    refine ⟨d, List.mem_of_getElem? hd, ?_⟩
    have slot : b.state.isAssigned i = (some v).isSome := by rw [h.isAssigned_eq, stored]
    rw [h.schema.descriptors.ordinal_eq i d hd, getElem?_slots_eq (lt_of_stored stored), current,
      stored]
    simp only [BuildState.differs_eq slot, Option.any_some, unequal, Bool.not_false]

/-- The fields that a fresh build lacks. -/
def missing (b : Builder) : List Descriptor := b.state.missing b.schema.value.fields

/-- A fresh build lacks the required fields that are not set. -/
theorem WellFormed.missing_eq_filter (h : b.WellFormed) :
    b.missing = b.schema.value.fields.filter fun d => d.required && !b.isSet d.name := by
  unfold missing BuildState.missing
  refine List.filter_congr fun d hd => ?_
  obtain ⟨i, hi⟩ := List.getElem?_of_mem hd
  rw [h.isSet_name hi, h.schema.descriptors.ordinal_eq i d hi, h.isAssigned_eq]

/-- The record of a fresh build. -/
def freshRecord (b : Builder) : Record := ⟨b.schema, freshValues b.slots b.schema.value.types⟩

/-- The record of a derived build that finds a change. -/
def derivedRecord (b : Builder) (o : Record) : Record := ⟨b.schema, derivedValues b.slots o.values⟩

/-- **Fresh build.** It fails iff a required field is missing, and else puts its record at a new
place. -/
theorem build_fresh (ho : b.state.origin = none) (heap : Heap) :
    b.build heap =
      if b.missing = [] then
        ⟨.ok ⟨heap.next, b.freshRecord⟩, ⟨heap.next + 1⟩,
          [.built b.schema.value.record b.state.assigned.count false]⟩
      else
        ⟨.error (BuildState.missingError b.schema.value.record b.missing), heap,
          [.rejected b.schema.value.record b.missing.length]⟩ := by
  have fresh : b.state.isDerived = false := by rw [BuildState.isDerived, ho]; rfl
  -- the check decides, and it is silent iff nothing is missing
  unfold build missing
  simp only [ho, BuildState.checkRequired_eq]
  by_cases none : b.state.missing b.schema.value.fields = []
  · simp [none, BuildState.finish, Heap.allocate, freshRecord, fresh]
  · simp [none]

/-- **Derived build.** It hands back the origin unless an assigned value differs, and else puts its
record at a new place. -/
theorem build_derive {o : Shared Record} (ho : b.state.origin = some o) (heap : Heap) :
    b.build heap =
      if b.isChanged o.value then
        ⟨.ok ⟨heap.next, b.derivedRecord o.value⟩, ⟨heap.next + 1⟩,
          [.built b.schema.value.record b.state.assigned.count true]⟩
      else
        ⟨.ok o, heap, [.returnedOrigin b.schema.value.record b.state.assigned.count]⟩ := by
  have derived : b.state.isDerived = true := by rw [BuildState.isDerived, ho]; rfl
  unfold build
  rw [ho]
  by_cases changed : b.isChanged o.value = true
  · simp [changed, BuildState.finish, Heap.allocate, derivedRecord, derived]
  · simp [changed, BuildState.unchanged]

/-- A build takes no place back. -/
theorem next_le_build (b : Builder) (heap : Heap) : heap.next ≤ (b.build heap).heap.next := by
  cases ho : b.state.origin with
  | none =>
    rw [build_fresh ho]
    split
    · exact Nat.le_succ _
    · exact Nat.le_refl _
  | some o =>
    rw [build_derive ho]
    split
    · exact Nat.le_succ _
    · exact Nat.le_refl _

/-- A value that is stored, or else a value that is accepted, is accepted. -/
theorem WellFormed.accepts_getD (h : b.WellFormed) (typed : b.schema.value.type? i = some t)
    {w : Value} (accepted : t.accepts w = true) : t.accepts ((b.stored i).getD w) = true := by
  cases stored : b.stored i with
  | none => exact accepted
  | some v => exact h.accepts i t v typed stored

/-- The record of a fresh build is well formed. -/
theorem WellFormed.freshRecord (h : b.WellFormed) : b.freshRecord.WellFormed where
  schema := h.schema
  values_length := by
    rw [Builder.freshRecord, freshValues_eq_zipWith, List.length_zipWith, h.slots_length,
      h.schema.types_length, Nat.min_self]
  accepts := fun i t v typed value => by
    have typed' : b.schema.value.type? i = some t := typed
    rw [Builder.freshRecord, h.getElem?_freshValues typed', Option.some.injEq] at value
    rw [← value]
    exact h.accepts_getD typed' (FieldType.accepts_default t)

/-- The record of a derived build is well formed. -/
theorem WellFormed.derivedRecord (h : b.WellFormed) {o : Shared Record}
    (ho : b.state.origin = some o) : (b.derivedRecord o.value).WellFormed where
  schema := h.schema
  values_length := by
    rw [Builder.derivedRecord, derivedValues_eq_zipWith, List.length_zipWith, h.slots_length,
      (h.origin o ho).values_length, h.origin_schema o ho, Nat.min_self]
  accepts := fun i t v typed value => by
    have typed' : b.schema.value.type? i = some t := typed
    have inside : i < b.schema.value.size := by
      rw [← h.schema.types_length]
      exact (List.getElem?_eq_some_iff.mp typed').1
    -- what is not stored is the origin's, and its type is the same
    obtain ⟨w, current⟩ : ∃ w, o.value.values[i]? = some w :=
      (h.origin o ho).value_at (by rwa [h.origin_schema o ho])
    have accepted : t.accepts w = true :=
      (h.origin o ho).accepts i t w (by rwa [h.origin_schema o ho]) current
    rw [Builder.derivedRecord, h.getElem?_derivedValues o.value inside current,
      Option.some.injEq] at value
    rw [← value]
    exact h.accepts_getD typed' accepted

/-- A record that is built is well formed, and its place was handed out: by this build, unless it is
the origin. -/
theorem WellFormed.build (h : b.WellFormed) {heap : Heap} {r : Shared Record}
    (ok : (b.build heap).result = .ok r) :
    r.value.WellFormed ∧ r.value.schema = b.schema ∧
      (b.state.origin = some r ∧ (b.build heap).heap = heap ∨
        r.place = heap.next ∧ (b.build heap).heap = ⟨heap.next + 1⟩) := by
  -- fresh or derived, and then failed, allocated or unchanged
  cases ho : b.state.origin with
  | none =>
    rw [build_fresh ho] at ok ⊢
    by_cases none : b.missing = []
    · rw [if_pos none] at ok ⊢
      obtain rfl := Except.ok.inj ok
      exact ⟨h.freshRecord, rfl, .inr ⟨rfl, rfl⟩⟩
    · rw [if_neg none] at ok
      cases ok
  | some o =>
    rw [build_derive ho] at ok ⊢
    by_cases changed : b.isChanged o.value = true
    · rw [if_pos changed] at ok ⊢
      obtain rfl := Except.ok.inj ok
      exact ⟨h.derivedRecord ho, rfl, .inr ⟨rfl, rfl⟩⟩
    · rw [if_neg changed] at ok ⊢
      obtain rfl := Except.ok.inj ok
      exact ⟨h.origin o ho, h.origin_schema o ho, .inl ⟨rfl, rfl⟩⟩

/-! ### Cases that do not come up -/

/-- None of the cases that the operations of a builder guard against for safety comes up. -/
structure NoFallback (b : Builder) : Prop where
  /-- A field that is found has a type, so an assignment finds no unknown field at this point. -/
  type_found : ∀ field i, b.schema.value.descriptors.ordinalOf? field = some i →
    ∃ t, b.schema.value.type? i = some t
  /-- A field that is found has a slot, so an accepted value is stored. -/
  slot_found : ∀ field i, b.schema.value.descriptors.ordinalOf? field = some i →
    i < b.slots.length
  /-- A field that is found has a bit, so it is never marked out of range. -/
  bit_found : ∀ field i, b.schema.value.descriptors.ordinalOf? field = some i →
    b.state.assigned.inRange i = true
  /-- The comparison of a derived build finds a slot and a current value for each field. -/
  compared : ∀ o, b.state.origin = some o → ∀ d ∈ b.schema.value.fields,
    (∃ slot, b.slots[d.ordinal]? = some slot) ∧ ∃ w, o.value.values[d.ordinal]? = some w
  /-- A fresh build pairs each slot with a type, and none is left over. -/
  paired_types : b.slots.length = b.schema.value.types.length
  /-- A derived build pairs each slot with a value, and none is left over. -/
  paired_values : ∀ o, b.state.origin = some o → b.slots.length = o.value.values.length

/-- A well-formed builder needs no fallback. -/
theorem WellFormed.noFallback (h : b.WellFormed) : b.NoFallback := by
  -- all of it comes down to one fact: a name is found within the fields
  have inside : ∀ field i, b.schema.value.descriptors.ordinalOf? field = some i →
      i < b.schema.value.size :=
    fun field i found => h.schema.descriptors.lt_of_ordinalOf? found
  have values : ∀ o, b.state.origin = some o → b.slots.length = o.value.values.length := by
    intro o ho
    rw [h.slots_length, (h.origin o ho).values_length, h.origin_schema o ho]
  refine ⟨fun field i found => h.schema.type?_isSome (inside field i found),
    fun field i found => h.slots_length ▸ inside field i found,
    fun field i found => ?_, fun o ho d hd => ?_,
    h.slots_length.trans h.schema.types_length.symm, values⟩
  · rw [AssignedSet.inRange, decide_eq_true_eq, h.assigned_size]
    exact inside field i found
  · obtain ⟨i, hi⟩ := List.getElem?_of_mem hd
    have slot : i < b.slots.length := by
      rw [h.slots_length]
      exact (List.getElem?_eq_some_iff.mp hi).1
    rw [h.schema.descriptors.ordinal_eq i d hi]
    exact ⟨⟨_, List.getElem?_eq_getElem slot⟩, _, List.getElem?_eq_getElem (values o ho ▸ slot)⟩

end Builder

end Recordwright
