import Recordwright.Proofs.Build

/-!
# Fields by name

Schemas, builders and records keep their parts together by positions, and their users speak of
names.  This module says what the operations do in terms of names alone.  `Schema.field?` is what a
schema says of a name, `Builder.value?` is what a builder stores under it, and `Record.get?` is what
a record shows.  For well-formed ones these three determine each other:

* an assignment is refused or accepted by what the schema says of its name, and changes what is
  stored under that name alone (`set_of_field?_eq_none`, `set_of_refused`, `set_of_accepted`);
* what a fresh build lacks, what a derived build compares, and what the records of both show are
  said by name (`mem_names_missing`, `isChanged_iff_value?`, `get?_freshRecord_eq`,
  `get?_derivedRecord_eq`).

No position occurs in these statements, so they hold of two schemas alike whose fields stand in
different orders.
-/

namespace Recordwright

/-! ### Schemas -/

namespace Schema

variable {s : Schema} {name : String} {i : Nat} {d : Descriptor} {t : FieldType}

/-- What a schema says of a name: whether its field is required, and the field's type. -/
def field? (s : Schema) (name : String) : Option (Bool × FieldType) :=
  (s.descriptors.ordinalOf? name).bind fun i =>
    s.fields[i]?.bind fun d => (s.type? i).map fun t => (d.required, t)

theorem WellFormed.field?_name (h : s.WellFormed) (hd : s.fields[i]? = some d)
    (typed : s.type? i = some t) : s.field? d.name = some (d.required, t) := by
  have found : s.descriptors.ordinalOf? d.name = some i := h.descriptors.ordinalOf?_name hd
  rw [field?, found, Option.bind_some, hd, Option.bind_some, typed, Option.map_some]

/-- A schema says something of a name iff a field has it. -/
theorem WellFormed.field?_eq_some_iff (h : s.WellFormed) {required : Bool} :
    s.field? name = some (required, t) ↔
      ∃ i d, s.fields[i]? = some d ∧ d.name = name ∧ d.required = required ∧
        s.type? i = some t := by
  constructor
  · intro said
    obtain ⟨i, found, said⟩ := Option.bind_eq_some_iff.mp said
    obtain ⟨d, hd, said⟩ := Option.bind_eq_some_iff.mp said
    obtain ⟨u, typed, both⟩ := Option.map_eq_some_iff.mp said
    obtain ⟨rfl, rfl⟩ := Prod.mk.inj both
    obtain ⟨e, he, rfl⟩ := h.descriptors.ordinalOf?_eq_some_iff.mp found
    have same : some d = some e := hd.symm.trans he
    exact ⟨i, d, hd, by rw [Option.some.inj same], rfl, typed⟩
  · rintro ⟨i, d, hd, rfl, rfl, typed⟩
    exact h.field?_name hd typed

/-- A schema says nothing of a name iff the name is not found. -/
theorem WellFormed.field?_eq_none_iff (h : s.WellFormed) :
    s.field? name = none ↔ s.descriptors.ordinalOf? name = none := by
  cases found : s.descriptors.ordinalOf? name with
  | none => simp [field?, found]
  | some i =>
    obtain ⟨d, hd, rfl⟩ := h.descriptors.ordinalOf?_eq_some_iff.mp found
    obtain ⟨t, typed⟩ := h.type?_isSome (h.descriptors.lt_of_ordinalOf? found)
    simp [h.field?_name hd typed]

end Schema

/-! ### Records -/

namespace Record

variable {r : Record} {name : String} {v : Value}

/-- A record shows a value for the names of its fields only. -/
theorem WellFormed.exists_field_of_get? (h : r.WellFormed) (shown : r.get? name = some v) :
    ∃ (i : Nat) (d : Descriptor), r.schema.value.fields[i]? = some d ∧ d.name = name ∧
      r.values[i]? = some v := by
  cases found : r.schema.value.descriptors.ordinalOf? name with
  | none => simp [get?, found] at shown
  | some i =>
    obtain ⟨d, hd, rfl⟩ := h.schema.descriptors.ordinalOf?_eq_some_iff.mp found
    rw [Record.get?_name h.schema hd] at shown
    exact ⟨i, d, hd, rfl, shown⟩

/-- The entries of a record are what it shows. -/
theorem WellFormed.mem_entries (h : r.WellFormed) :
    (name, v) ∈ r.entries ↔ r.get? name = some v := by
  have position : ∀ i : Nat, r.entries[i]? = some (name, v) ↔
      (∃ d : Descriptor, r.schema.value.fields[i]? = some d ∧ d.name = name) ∧
        r.values[i]? = some v := by
    intro i
    rw [entries, List.getElem?_zip_eq_some, List.getElem?_map, Option.map_eq_some_iff]
  rw [List.mem_iff_getElem?]
  constructor
  · rintro ⟨i, at_i⟩
    obtain ⟨⟨d, hd, rfl⟩, value⟩ := (position i).mp at_i
    rw [Record.get?_name h.schema hd, value]
  · intro shown
    obtain ⟨i, d, hd, same, value⟩ := h.exists_field_of_get? shown
    exact ⟨i, (position i).mpr ⟨⟨d, hd, same⟩, value⟩⟩

/-- No two entries of a record are the same. -/
theorem WellFormed.nodup_entries (h : r.WellFormed) : r.entries.Nodup := by
  have lengths : (r.schema.value.fields.map (·.name)).length ≤ r.values.length := by
    rw [List.length_map, h.values_length]
    exact Nat.le_refl _
  have names : r.entries.map (·.1) = r.schema.value.fields.map (·.name) :=
    List.map_fst_zip lengths
  refine List.Nodup.of_map (·.1) ?_
  rw [names]
  exact h.schema.descriptors.names_nodup

end Record

/-! ### Builders -/

namespace Builder

variable {b : Builder} {o : Shared Record} {name : String} {v : Value} {i : Nat}
  {d : Descriptor} {t : FieldType} {required : Bool}

/-- What a builder stores under a name. -/
def value? (b : Builder) (name : String) : Option Value :=
  (b.schema.value.descriptors.ordinalOf? name).bind b.stored

@[simp] theorem value?_fresh (x : Shared Schema) (name : String) :
    (fresh x).value? name = none := by
  cases found : (fresh x).schema.value.descriptors.ordinalOf? name <;> simp [value?, found]

@[simp] theorem value?_derive (o : Shared Record) (name : String) :
    (derive o).value? name = none := by
  cases found : (derive o).schema.value.descriptors.ordinalOf? name <;> simp [value?, found]

theorem WellFormed.value?_name (h : b.WellFormed) (hd : b.schema.value.fields[i]? = some d) :
    b.value? d.name = b.stored i := by
  have found : b.schema.value.descriptors.ordinalOf? d.name = some i :=
    h.schema.descriptors.ordinalOf?_name hd
  rw [value?, found, Option.bind_some]

/-- A builder stores values for the fields of its schema only. -/
theorem exists_ordinal_of_value? (stored : b.value? name = some v) :
    ∃ i, b.schema.value.descriptors.ordinalOf? name = some i ∧ b.stored i = some v :=
  Option.bind_eq_some_iff.mp stored

/-- A name is set iff something is stored under it. -/
theorem WellFormed.isSet_eq (h : b.WellFormed) (name : String) :
    b.isSet name = (b.value? name).isSome := by
  unfold isSet value?
  cases b.schema.value.descriptors.ordinalOf? name with
  | none => rfl
  | some i => exact h.isAssigned_eq i

/-! ### Assignments by name -/

/-- An assignment to a name that the schema says nothing of finds no field. -/
theorem WellFormed.set_of_field?_eq_none (h : b.WellFormed)
    (unknown : b.schema.value.field? name = none) (v : Value) :
    b.set name v = .error (b.unknownField name) := by
  rw [h.schema.field?_eq_none_iff] at unknown
  rw [Builder.set, unknown]

/-- An assignment is refused if the type of its field does not accept the value. -/
theorem WellFormed.set_of_refused (h : b.WellFormed)
    (said : b.schema.value.field? name = some (required, t)) (refused : t.accepts v = false) :
    b.set name v = .error (.typeMismatch b.schema.value.record name t.text v.typeName) := by
  obtain ⟨i, d, hd, rfl, -, typed⟩ := h.schema.field?_eq_some_iff.mp said
  have found : b.schema.value.descriptors.ordinalOf? d.name = some i :=
    h.schema.descriptors.ordinalOf?_name hd
  simp only [Builder.set, found, typed, refused, Bool.false_eq_true, if_false]

/-- An assignment is accepted if the type of its field accepts the value.  It changes what is stored
under its own name and nothing else. -/
theorem WellFormed.set_of_accepted (h : b.WellFormed)
    (said : b.schema.value.field? name = some (required, t)) (accepted : t.accepts v = true) :
    ∃ b', b.set name v = .ok b' ∧ b'.WellFormed ∧ b'.schema = b.schema ∧
      b'.state.origin = b.state.origin ∧
      ∀ other, b'.value? other = if other = name then some v else b.value? other := by
  obtain ⟨i, d, hd, rfl, -, typed⟩ := h.schema.field?_eq_some_iff.mp said
  have found : b.schema.value.descriptors.ordinalOf? d.name = some i :=
    h.schema.descriptors.ordinalOf?_name hd
  have ok : b.set d.name v = .ok (b.store i v) :=
    set_eq_ok_iff.mpr ⟨i, t, found, typed, accepted, rfl⟩
  refine ⟨b.store i v, ok, h.store typed accepted, schema_store b i v, origin_store b i v,
    fun other => ?_⟩
  rw [value?, value?, schema_store]
  by_cases same : other = d.name
  · rw [same, found, if_pos rfl, Option.bind_some, stored_store (h.lt_of_type? typed), if_pos rfl]
  · rw [if_neg same]
    cases elsewhere : b.schema.value.descriptors.ordinalOf? other with
    | none => rfl
    | some j =>
      -- the position of another name is another position
      have apart : j ≠ i := by
        rintro rfl
        obtain ⟨e, he, named⟩ := h.schema.descriptors.ordinalOf?_eq_some_iff.mp elsewhere
        have equal : some e = some d := he.symm.trans hd
        exact same (by rw [← named, Option.some.inj equal])
      rw [Option.bind_some, Option.bind_some, stored_store (h.lt_of_type? typed), if_neg apart]

/-! ### Builds by name -/

/-- A fresh build lacks the required fields under whose names nothing is stored. -/
theorem WellFormed.mem_names_missing (h : b.WellFormed) :
    name ∈ b.missing.map (·.name) ↔
      (∃ t, b.schema.value.field? name = some (true, t)) ∧ b.value? name = none := by
  rw [h.missing_eq_filter, List.mem_map]
  -- a field that is missing has a type, so the schema says something of its name
  constructor
  · rintro ⟨d, member, rfl⟩
    obtain ⟨hd, lacking⟩ := List.mem_filter.mp member
    obtain ⟨i, hi⟩ := List.getElem?_of_mem hd
    obtain ⟨t, typed⟩ := h.schema.type?_isSome (List.getElem?_eq_some_iff.mp hi).1
    rw [Bool.and_eq_true, Bool.not_eq_true', h.isSet_eq, Option.isSome_eq_false_iff,
      Option.isNone_iff_eq_none] at lacking
    exact ⟨⟨t, by rw [h.schema.field?_name hi typed, lacking.1]⟩, lacking.2⟩
  · rintro ⟨⟨t, said⟩, none⟩
    obtain ⟨i, d, hi, rfl, required, -⟩ := h.schema.field?_eq_some_iff.mp said
    refine ⟨d, List.mem_filter.mpr ⟨List.mem_of_getElem? hi, ?_⟩, rfl⟩
    rw [required, h.isSet_eq, none]
    rfl

/-- No name is missing twice. -/
theorem WellFormed.nodup_names_missing (h : b.WellFormed) : (b.missing.map (·.name)).Nodup :=
  h.schema.descriptors.names_nodup.sublist (List.filter_sublist.map _)

/-- The names of the fields that are set. -/
def setNames (b : Builder) : List String :=
  (b.schema.value.fields.filter fun d => b.isSet d.name).map (·.name)

/-- The names that are set are those under which something is stored. -/
theorem WellFormed.mem_setNames (h : b.WellFormed) :
    name ∈ b.setNames ↔ (b.value? name).isSome = true := by
  unfold setNames
  rw [List.mem_map]
  constructor
  · rintro ⟨d, member, rfl⟩
    rw [← h.isSet_eq]
    exact (List.mem_filter.mp member).2
  · intro stored
    obtain ⟨v, stored'⟩ := Option.isSome_iff_exists.mp stored
    obtain ⟨i, found, -⟩ := exists_ordinal_of_value? stored'
    obtain ⟨d, hd, rfl⟩ := h.schema.descriptors.ordinalOf?_eq_some_iff.mp found
    exact ⟨d, List.mem_filter.mpr ⟨List.mem_of_getElem? hd, by rw [h.isSet_eq, stored]⟩, rfl⟩

theorem WellFormed.nodup_setNames (h : b.WellFormed) : b.setNames.Nodup :=
  h.schema.descriptors.names_nodup.sublist (List.filter_sublist.map _)

/-- A build reports as many assigned fields as there are names that are set. -/
theorem WellFormed.count_eq (h : b.WellFormed) :
    b.state.assigned.count = b.setNames.length := by
  -- the ordinals are the positions, and a position is assigned iff its field is set
  have ordinals : b.schema.value.fields.map (·.ordinal) = List.range b.schema.value.size := by
    refine List.ext_getElem? fun i => ?_
    rw [List.getElem?_map]
    cases hi : b.schema.value.fields[i]? with
    | none =>
      have out : b.schema.value.size ≤ i := List.getElem?_eq_none_iff.mp hi
      rw [List.getElem?_eq_none (by rwa [List.length_range])]
      rfl
    | some d =>
      have inside : i < b.schema.value.size := (List.getElem?_eq_some_iff.mp hi).1
      rw [List.getElem?_range inside, Option.map_some, h.schema.descriptors.ordinal_eq i d hi]
  rw [h.assigned_tight.count_eq, h.assigned_size, ← ordinals, List.countP_map, setNames,
    List.length_map, List.countP_eq_length_filter]
  congr 1
  refine List.filter_congr fun d hd => ?_
  obtain ⟨i, hi⟩ := List.getElem?_of_mem hd
  rw [Function.comp_apply, h.schema.descriptors.ordinal_eq i d hi, h.isSet_name hi,
    ← h.isAssigned_eq]
  rfl

/-- The record of a fresh build shows what is stored, or the default of the field's type. -/
theorem WellFormed.get?_freshRecord_eq (h : b.WellFormed) (name : String) :
    b.freshRecord.get? name =
      (b.schema.value.field? name).map fun f => (b.value? name).getD f.2.default := by
  -- what the schema says nothing of is no field of the record
  cases said : b.schema.value.field? name with
  | none =>
    rw [h.schema.field?_eq_none_iff] at said
    exact Record.get?_eq_none (Descriptors.ordinalOf?_eq_none_iff.mp said)
  | some f =>
    obtain ⟨i, d, hd, rfl, -, typed⟩ := h.schema.field?_eq_some_iff.mp said
    rw [h.get?_freshRecord hd typed, h.value?_name hd, Option.map_some]

/-- The record of a derived build shows what is stored, or what the origin shows. -/
theorem WellFormed.get?_derivedRecord_eq (h : b.WellFormed) (ho : b.state.origin = some o)
    (name : String) :
    (b.derivedRecord o.value).get? name = (b.value? name).or (o.value.get? name) := by
  cases found : b.schema.value.descriptors.ordinalOf? name with
  | none =>
    -- neither the builder nor the origin has such a field
    have nowhere := Descriptors.ordinalOf?_eq_none_iff.mp found
    have old : o.value.get? name = none := by
      refine Record.get?_eq_none ?_
      rwa [h.origin_schema o ho]
    have new : (b.derivedRecord o.value).get? name = none := Record.get?_eq_none nowhere
    rw [new, old, value?, found]
    rfl
  | some i =>
    obtain ⟨d, hd, rfl⟩ := h.schema.descriptors.ordinalOf?_eq_some_iff.mp found
    rw [h.get?_derivedRecord ho hd, h.value?_name hd]

/-- A derived build finds a change iff under some name a value is stored that is not equal to the
one that the origin shows. -/
theorem WellFormed.isChanged_iff_value? (h : b.WellFormed) (ho : b.state.origin = some o) :
    b.isChanged o.value = true ↔
      ∃ name v w, b.value? name = some v ∧ o.value.get? name = some w ∧ v.equal w = false := by
  -- positions of stored values and names of fields go over into each other
  rw [h.isChanged_iff ho]
  constructor
  · rintro ⟨i, v, w, stored, current, unequal⟩
    obtain ⟨d, hi⟩ := h.exists_field_of_stored stored
    obtain ⟨w', current', shown⟩ := h.origin_value ho hi
    rw [current, Option.some.injEq] at current'
    exact ⟨_, v, w, (h.value?_name hi).trans stored, current' ▸ shown, unequal⟩
  · rintro ⟨name, v, w, stored, shown, unequal⟩
    obtain ⟨i, found, here⟩ := exists_ordinal_of_value? stored
    obtain ⟨d, hd, rfl⟩ := h.schema.descriptors.ordinalOf?_eq_some_iff.mp found
    obtain ⟨w', current, shown'⟩ := h.origin_value ho hd
    rw [shown, Option.some.injEq] at shown'
    exact ⟨i, v, w, here, shown' ▸ current, unequal⟩

end Builder

end Recordwright
