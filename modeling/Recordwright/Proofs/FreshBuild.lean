import Recordwright.Proofs.Build

/-!
# Fresh builds

What a fresh build gives after any assignments, said of the assignments alone.  A field is set iff
a value was accepted for it (`isSet_fresh_attemptAll`), so the build lacks the required fields for
which none was, and these are the fields that its error names.

The main statement, `Builder.fresh_build`, is about all schemas that can be made.  It says when a
build succeeds, what the fields of its record hold, and how the error of a failed build reads: in
order, by name and as a map.  That the three agree rests on the names of the fields, which differ.
-/

namespace Recordwright

namespace Builder

variable {x : Shared Schema} {i : Nat} {d : Descriptor} {t : FieldType} {heap : Heap}

/-! ### Assigned fields -/

/-- A field is set iff a value was accepted for it. -/
theorem isSet_fresh_attemptAll (h : x.value.WellFormed) (hd : x.value.fields[i]? = some d)
    (as : List Assignment) :
    ((fresh x).attemptAll as).isSet d.name =
      (lastValue d.name ((fresh x).accepted as)).isSome := by
  have wellFormed := (WellFormed.fresh h).attemptAll as
  have schema : ((fresh x).attemptAll as).schema = x := schema_attemptAll _ as
  rw [wellFormed.isSet_name (by rwa [schema]), stored_fresh_attemptAll h hd]

/-- The fields that a fresh build lacks are the required ones that are not set. -/
theorem missing_fresh_attemptAll (h : x.value.WellFormed) (as : List Assignment) :
    ((fresh x).attemptAll as).missing =
      x.value.fields.filter fun d =>
        d.required && !((fresh x).attemptAll as).isSet d.name := by
  have schema : ((fresh x).attemptAll as).schema = x := schema_attemptAll _ as
  rw [((WellFormed.fresh h).attemptAll as).missing_eq_filter, schema]

/-- A field of the record of a fresh build holds the last accepted value, or the default of its
type. -/
theorem freshRecord_attemptAll (h : x.value.WellFormed) (hd : x.value.fields[i]? = some d)
    (as : List Assignment) :
    ∃ t, FieldType.parse? d.type = some t ∧ (t.nullable = true → t.default = .null) ∧
      ((fresh x).attemptAll as).freshRecord.values[i]? =
        some ((lastValue d.name ((fresh x).accepted as)).getD t.default) ∧
      ((fresh x).attemptAll as).freshRecord.get? d.name =
        some ((lastValue d.name ((fresh x).accepted as)).getD t.default) := by
  have wellFormed := (WellFormed.fresh h).attemptAll as
  have schema : ((fresh x).attemptAll as).schema = x := schema_attemptAll _ as
  obtain ⟨t, typed⟩ := h.type?_isSome (List.getElem?_eq_some_iff.mp hd).1
  rw [← stored_fresh_attemptAll h hd as]
  refine ⟨t, ?_, fun nullable => ?_, ?_, ?_⟩
  · rw [← h.type?_eq i d hd, typed]
  · rw [FieldType.default, if_pos nullable]
  · exact wellFormed.getElem?_freshValues (by rwa [schema])
  · exact wellFormed.get?_freshRecord (by rwa [schema]) (by rwa [schema])

/-- The record of a fresh build has one value for each field. -/
theorem length_freshRecord_attemptAll (h : x.value.WellFormed) (as : List Assignment) :
    ((fresh x).attemptAll as).freshRecord.values.length = x.value.size := by
  rw [((WellFormed.fresh h).attemptAll as).freshRecord.values_length, freshRecord,
    schema_attemptAll]
  rfl

/-- A fresh build lacks no field iff every required one is set. -/
theorem missing_fresh_eq_nil_iff (h : x.value.WellFormed) (as : List Assignment) :
    ((fresh x).attemptAll as).missing = [] ↔
      ∀ d ∈ x.value.fields, d.required = true →
        ((fresh x).attemptAll as).isSet d.name = true := by
  rw [missing_fresh_attemptAll h, List.filter_eq_nil_iff]
  simp

/-! ### Errors of fresh builds -/

/-- The error names each missing field once, also by name and as a map. -/
theorem error_missing_fresh (h : x.value.WellFormed) (as : List Assignment) {e : ValidationError}
    (he : e = BuildState.missingError x.value.record ((fresh x).attemptAll as).missing) :
    e.fields = ((fresh x).attemptAll as).missing.map (·.name) ∧ e.fields.Nodup ∧
      (∀ name, e.get? name = if name ∈ e.fields then some requiredReason else none) ∧
      e.toMap = e.fields.map (fun name => (name, requiredReason)) ∧
      e.toMap.length = e.size := by
  have fields : e.fields = ((fresh x).attemptAll as).missing.map (·.name) := by
    rw [he, BuildState.fields_missingError]
  -- the missing fields are some of the schema's, whose names differ
  have names : (((fresh x).attemptAll as).missing.map (·.name)).Nodup := by
    rw [missing_fresh_attemptAll h]
    exact h.descriptors.names_nodup.sublist (List.filter_sublist.map _)
  have map : e.toMap = e.fields.map fun name => (name, requiredReason) := by
    rw [fields, he, BuildState.toMap_missingError _ names, List.map_map]
    rfl
  refine ⟨fields, fields ▸ names, fun name => ?_, map, ?_⟩
  · rw [fields, he]
    exact BuildState.get?_missingError _ _ _
  · rw [map, List.length_map, ValidationError.fields, List.length_map]
    rfl

/-! ### Fresh builds of made schemas -/

/-- **Fresh build, exactly.** Try any assignments on a fresh builder over a made schema.  A field is
set iff a value was accepted for it.

* The build succeeds iff every required field is set.
* Its record then has one value for each field: the last accepted one, or else the default of the
  field's type, which is `null` if the type is nullable.
* If it fails, the error carries the record's name and names the required fields that are not set,
  all of them, each once and in order.  By name and as a map it has the same reason for each of
  these fields, and nothing for any other name. -/
theorem fresh_build (made : x.value.IsMade) (as : List Assignment) (heap : Heap) :
    (∀ d ∈ x.value.fields, ((fresh x).attemptAll as).isSet d.name = true ↔
      ∃ v, lastValue d.name ((fresh x).accepted as) = some v) ∧
    ((∃ r, (((fresh x).attemptAll as).build heap).result = .ok r) ↔
      ∀ d ∈ x.value.fields, d.required = true →
        ((fresh x).attemptAll as).isSet d.name = true) ∧
    (∀ r : Shared Record, (((fresh x).attemptAll as).build heap).result = .ok r →
      r.value.schema = x ∧ r.value.values.length = x.value.size ∧
      ∀ (i : Nat) (d : Descriptor), x.value.fields[i]? = some d →
        ∃ t, FieldType.parse? d.type = some t ∧
        (t.nullable = true → t.default = .null) ∧
        r.value.values[i]? =
          some ((lastValue d.name ((fresh x).accepted as)).getD t.default) ∧
        r.value.get? d.name =
          some ((lastValue d.name ((fresh x).accepted as)).getD t.default)) ∧
    ∀ e : ValidationError, (((fresh x).attemptAll as).build heap).result = .error e →
      e.record = x.value.record ∧
      e.fields = (x.value.fields.filter fun d =>
        d.required && !((fresh x).attemptAll as).isSet d.name).map (·.name) ∧
      e.fields.Nodup ∧
      (∀ name, e.get? name =
        if name ∈ e.fields then some "required but not set" else none) ∧
      e.toMap = e.fields.map (fun name => (name, "required but not set")) ∧
      e.toMap.length = e.size := by
  have h := made.wellFormed
  have schema : ((fresh x).attemptAll as).schema = x := schema_attemptAll _ as
  have origin : ((fresh x).attemptAll as).state.origin = none := origin_attemptAll _ as
  have none_iff := missing_fresh_eq_nil_iff h as
  rw [build_fresh origin]
  refine ⟨fun d hd => ?_, ?_⟩
  · obtain ⟨i, hi⟩ := List.getElem?_of_mem hd
    rw [isSet_fresh_attemptAll h hi, Option.isSome_iff_exists]
  -- what is missing decides between a record and an error
  by_cases none : ((fresh x).attemptAll as).missing = []
  · rw [if_pos none]
    refine ⟨⟨fun _ => none_iff.mp none, fun _ => ⟨_, rfl⟩⟩, fun r ok => ?_, fun e failed => ?_⟩
    · obtain rfl := Except.ok.inj ok
      exact ⟨schema, length_freshRecord_attemptAll h as, fun i d hd =>
        freshRecord_attemptAll h hd as⟩
    · cases failed
  · rw [if_neg none, schema]
    refine ⟨⟨?_, fun all => absurd (none_iff.mpr all) none⟩, fun r ok => ?_, fun e failed => ?_⟩
    · rintro ⟨r, ok⟩
      cases ok
    · cases ok
    · have he := (Except.error.inj failed).symm
      have error := error_missing_fresh h as he
      rw [missing_fresh_attemptAll h] at error
      refine ⟨?_, error⟩
      rw [he, BuildState.missingError_eq]

end Builder

/-- A schema of a shape with two required fields and a nullable one. -/
def visit : Shared Schema :=
  ⟨0, (Schema.ofShape ((((Shape.named "Visit").requiredField "name" "string").requiredField "age"
    "int").field "note" "text?") {}).toOption.get (by decide +kernel)⟩

/-- A fresh build that lacks one of two required fields: a value for it was refused. -/
theorem Builder.fresh_build_visit :
    ∃ e, (((fresh visit).attemptAll [("age", .text "old"), ("name", .text "Ann")]).build
        {}).result = .error e ∧
      e.record = "Visit" ∧ e.fields = ["age"] ∧ e.get? "age" = some "required but not set" ∧
      e.get? "name" = none ∧ e.toMap = [("age", "required but not set")] := by
  have made : visit.value.IsMade := by
    refine ⟨(((Shape.named "Visit").requiredField "name" "string").requiredField "age" "int").field
      "note" "text?", {}, ?_⟩
    decide +kernel
  obtain ⟨-, succeeds_iff, -, fails⟩ :=
    fresh_build made [("age", .text "old"), ("name", .text "Ann")] {}
  have unset : ((fresh visit).attemptAll [("age", .text "old"), ("name", .text "Ann")]).isSet
      "age" = false := by decide +kernel
  have field : ⟨"age", "int", true, 1⟩ ∈ visit.value.fields := by decide +kernel
  have lacking : (visit.value.fields.filter fun d => d.required &&
      !((fresh visit).attemptAll [("age", .text "old"), ("name", .text "Ann")]).isSet
        d.name).map (·.name) = ["age"] := by decide +kernel
  cases built : (((fresh visit).attemptAll [("age", .text "old"), ("name", .text "Ann")]).build
      {}).result with
  | ok r =>
    have set := succeeds_iff.mp ⟨r, built⟩ _ field rfl
    rw [unset] at set
    cases set
  | error e =>
    obtain ⟨record, fields, -, get, map, -⟩ := fails e built
    rw [lacking] at fields
    refine ⟨e, rfl, record, fields, ?_, ?_, ?_⟩
    · rw [get, fields]
      rfl
    · rw [get, fields]
      rfl
    · rw [map, fields]
      rfl

end Recordwright
