import Recordwright.Proofs.ByName
import Recordwright.Proofs.Description

/-!
# Schemas alike up to the order of their fields

A shape declares its fields in some order.  Another order gives other ordinals, and with them other
bits, slots and values: hardly any list of the one schema is a list of the other.  What stays is
what is said of names, and here two schemas are compared by that alone (`Schema.Reordered`), two
records by what they show (`Record.Reordered`) and two builders by what they store
(`Builder.Reordered`).

* Shapes that differ in the order of their declarations both have a schema or both have none, and
  the schemas are related (`Shape.Reordered.exists_ofShape_iff`, `Shape.Reordered.ofShape`).
* What is done to related builders with the same names and values has related results
  (`Builder.Reordered.set`, `Builder.Reordered.build`).  Where a result lists several fields, both
  list the same ones, each in its own order.
-/

namespace Recordwright

/-- Two objects at the same place whose values are related. -/
def Shared.Rel {α β : Type} (R : α → β → Prop) (a : Shared α) (b : Shared β) : Prop :=
  a.place = b.place ∧ R a.value b.value

/-- Both fail with related errors, or both succeed with related results. -/
inductive SameOutcome {ε ε' α α' : Type} (E : ε → ε' → Prop) (R : α → α' → Prop) :
    Except ε α → Except ε' α' → Prop where
  | error {e : ε} {f : ε'} : E e f → SameOutcome E R (.error e) (.error f)
  | ok {a : α} {b : α'} : R a b → SameOutcome E R (.ok a) (.ok b)

theorem SameOutcome.cases {ε ε' α α' : Type} {E : ε → ε' → Prop} {R : α → α' → Prop}
    {x : Except ε α} {y : Except ε' α'} (h : SameOutcome E R x y) :
    (∃ e f, x = .error e ∧ y = .error f ∧ E e f) ∨ ∃ a b, x = .ok a ∧ y = .ok b ∧ R a b := by
  cases h with
  | error related => exact .inl ⟨_, _, rfl, rfl, related⟩
  | ok related => exact .inr ⟨_, _, rfl, rfl, related⟩

theorem SameOutcome.mono {ε ε' α α' : Type} {E F : ε → ε' → Prop} {R S : α → α' → Prop}
    {x : Except ε α} {y : Except ε' α'} (h : SameOutcome E R x y) (errors : ∀ e f, E e f → F e f)
    (results : ∀ a b, R a b → S a b) : SameOutcome F S x y := by
  cases h with
  | error related => exact .error (errors _ _ related)
  | ok related => exact .ok (results _ _ related)

/-! ### Schemas -/

/-- Both schemas say the same of each name. -/
structure Schema.Reordered (s t : Schema) : Prop where
  left : s.WellFormed
  right : t.WellFormed
  record : s.record = t.record
  field? : ∀ name, s.field? name = t.field? name

/-- The second shape declares the fields of the first in some order. -/
structure Shape.Reordered (p q : Shape) : Prop where
  name : p.name = q.name
  fields : p.fields.Perm q.fields

namespace Shape

variable {p q : Shape} {s t : Schema} {options : Options} {name : String} {required : Bool}
  {type : FieldType}

/-- The names of the methods of the builder of a shape. -/
def methodNames (p : Shape) (options : Options) : List String :=
  (p.kept.map (·.name)).flatMap fun n =>
    [Name.setterOf options.setterLead n, Name.queryOf n]

/-- **When a schema is made.**  No condition depends on the order of the declarations, though it
depends on it which condition is found to fail first. -/
theorem exists_ofShape_iff :
    (∃ s, Schema.ofShape p options = .ok s) ↔
      (Text.isBlankText p.name = false ∧ (∀ d ∈ p.kept, Name.isFieldName d.name = true) ∧
        (p.kept.map (·.name)).Nodup ∧
        ∀ greatest, options.limits.maxFields = some greatest → p.kept.length ≤ greatest) ∧
      ((∀ n ∈ p.methodNames options, Name.isMethodName n = true ∧ n ∉ Name.builderMethods) ∧
        (p.methodNames options).Nodup) ∧
      ∀ type ∈ p.kept.map (·.type), ∃ t, FieldType.parse? type = some t := by
  -- the descriptors are known before they are extracted
  have methods : Descriptors.methodNames options.setterLead (numbered 0 p.kept) =
      p.methodNames options := by
    rw [Descriptors.methodNames_eq, map_name_numbered, methodNames]
  have described : (∃ D, (⟨p.name, numbered 0 p.kept⟩ : Descriptors).synthesize options = .ok D) ↔
      (∀ n ∈ p.methodNames options, Name.isMethodName n = true ∧ n ∉ Name.builderMethods) ∧
        (p.methodNames options).Nodup := by
    rw [Descriptors.exists_synthesize_iff, methods]
  have typed : (∃ types, Schema.typesOf p.name (numbered 0 p.kept) = .ok types) ↔
      ∀ type ∈ p.kept.map (·.type), ∃ t, FieldType.parse? type = some t := by
    rw [Schema.exists_typesOf_iff, map_type_numbered]
  rw [← described, ← typed]
  constructor
  · rintro ⟨s, made⟩
    obtain ⟨ds, extracted, made⟩ := Schema.ofShape_eq_ok_iff.mp made
    obtain ⟨rfl, description, types⟩ := Schema.ofDescriptors_eq_ok_iff.mp made
    obtain ⟨blank, names, nodup, within, ds⟩ := extract_eq_ok_iff.mp extracted
    rw [ds] at description types
    exact ⟨⟨blank, names, nodup, within⟩, ⟨_, description⟩, ⟨_, types⟩⟩
  · rintro ⟨⟨blank, names, nodup, within⟩, ⟨description, described⟩, types, typed⟩
    have extracted := extract_eq_ok_iff.mpr ⟨blank, names, nodup, within, rfl⟩
    have made : Schema.ofDescriptors ⟨p.name, numbered 0 p.kept⟩ options =
        .ok ⟨⟨p.name, numbered 0 p.kept⟩, description, types⟩ :=
      Schema.ofDescriptors_eq_ok_iff.mpr ⟨rfl, described, typed⟩
    exact ⟨_, Schema.ofShape_eq_ok_iff.mpr ⟨_, extracted, made⟩⟩

/-- A made schema says of a name what the declaration with this name says. -/
theorem field?_of_ofShape (made : Schema.ofShape p options = .ok s) :
    s.field? name = some (required, type) ↔
      ∃ d ∈ p.kept, d.name = name ∧ d.required = required ∧
        FieldType.parse? d.type = some type := by
  have wellFormed : s.WellFormed := Schema.wellFormed_of_ofShape made
  have fields : s.fields = numbered 0 p.kept := by
    obtain ⟨ds, extracted, made⟩ := Schema.ofShape_eq_ok_iff.mp made
    obtain ⟨rfl, -, -⟩ := Schema.ofDescriptors_eq_ok_iff.mp made
    rw [Schema.fields, (extract_eq_ok extracted).1]
  rw [wellFormed.field?_eq_some_iff]
  constructor
  · rintro ⟨i, d, hd, rfl, rfl, typed⟩
    rw [wellFormed.type?_eq i d hd] at typed
    rw [fields, getElem?_numbered, Option.map_eq_some_iff] at hd
    obtain ⟨e, he, rfl⟩ := hd
    exact ⟨e, List.mem_of_getElem? he, rfl, rfl, typed⟩
  · rintro ⟨e, he, rfl, rfl, typed⟩
    obtain ⟨i, hi⟩ := List.getElem?_of_mem he
    have hd : s.fields[i]? = some (e.descriptor (0 + i)) := by
      rw [fields, getElem?_numbered, hi, Option.map_some]
    exact ⟨i, _, hd, rfl, rfl, (wellFormed.type?_eq i _ hd).trans typed⟩

namespace Reordered

theorem kept (h : p.Reordered q) : p.kept.Perm q.kept :=
  h.fields.filter _

theorem methodNames (h : p.Reordered q) (options : Options) :
    (p.methodNames options).Perm (q.methodNames options) := by
  have names : (p.kept.map (·.name)).Perm (q.kept.map (·.name)) := h.kept.map _
  exact names.flatMap_right _

/-- **Both orders are accepted, or both are rejected.** -/
theorem exists_ofShape_iff (h : p.Reordered q) (options : Options) :
    (∃ s, Schema.ofShape p options = .ok s) ↔ ∃ t, Schema.ofShape q options = .ok t := by
  have methods := h.methodNames options
  have names := h.kept.map (·.name)
  have types := h.kept.map (·.type)
  rw [Shape.exists_ofShape_iff, Shape.exists_ofShape_iff]
  -- the conditions of one order are those of the other, one by one
  simp only [h.name, h.kept.mem_iff, names.nodup_iff, h.kept.length_eq, methods.mem_iff,
    methods.nodup_iff, types.mem_iff]

/-- Both orders lead to schemas that say the same of each name. -/
theorem ofShape (h : p.Reordered q) (left : Schema.ofShape p options = .ok s)
    (right : Schema.ofShape q options = .ok t) : s.Reordered t where
  left := Schema.wellFormed_of_ofShape left
  right := Schema.wellFormed_of_ofShape right
  record := by
    obtain ⟨ds, extracted, made⟩ := Schema.ofShape_eq_ok_iff.mp left
    obtain ⟨rfl, -, -⟩ := Schema.ofDescriptors_eq_ok_iff.mp made
    obtain ⟨es, extracted', made'⟩ := Schema.ofShape_eq_ok_iff.mp right
    obtain ⟨rfl, -, -⟩ := Schema.ofDescriptors_eq_ok_iff.mp made'
    rw [Schema.record, Schema.record, (extract_eq_ok extracted).1, (extract_eq_ok extracted').1]
    exact h.name
  field? := by
    intro name
    refine Option.ext fun f => ?_
    obtain ⟨required, type⟩ := f
    rw [field?_of_ofShape left, field?_of_ofShape right]
    simp only [h.kept.mem_iff]

end Reordered

end Shape

/-! ### Records -/

/-- Both records show the same under each name. -/
structure Record.Reordered (r q : Record) : Prop where
  left : r.WellFormed
  right : q.WellFormed
  schema : Shared.Rel Schema.Reordered r.schema q.schema
  get? : ∀ name, r.get? name = q.get? name

theorem Record.Reordered.entries_perm {r q : Record} (h : r.Reordered q) :
    r.entries.Perm q.entries := by
  rw [List.perm_ext_iff_of_nodup h.left.nodup_entries h.right.nodup_entries]
  rintro ⟨name, v⟩
  rw [h.left.mem_entries, h.right.mem_entries, h.get?]

/-! ### Builders -/

/-- Both builders store the same under each name, and have related origins or none. -/
structure Builder.Reordered (b c : Builder) : Prop where
  left : b.WellFormed
  right : c.WellFormed
  schema : Shared.Rel Schema.Reordered b.schema c.schema
  value? : ∀ name, b.value? name = c.value? name
  origin : Option.Rel (Shared.Rel Record.Reordered) b.state.origin c.state.origin

/-- Both errors name the same fields for the same reasons. -/
structure ValidationError.Reordered (e f : ValidationError) : Prop where
  record : e.record = f.record
  errors : e.errors.Perm f.errors

namespace Builder.Reordered

variable {b c : Builder} {o p : Shared Record}

theorem fresh {x y : Shared Schema} (h : Shared.Rel Schema.Reordered x y) :
    (Builder.fresh x).Reordered (Builder.fresh y) where
  left := .fresh h.2.left
  right := .fresh h.2.right
  schema := h
  value? := fun name => by rw [value?_fresh, value?_fresh]
  origin := .none

theorem derive (h : Shared.Rel Record.Reordered o p) :
    (Builder.derive o).Reordered (Builder.derive p) where
  left := .derive h.2.left
  right := .derive h.2.right
  schema := h.2.schema
  value? := fun name => by rw [value?_derive, value?_derive]
  origin := .some h

theorem isSet (h : b.Reordered c) (name : String) : b.isSet name = c.isSet name := by
  rw [h.left.isSet_eq, h.right.isSet_eq, h.value?]

/-- **The same assignment** is accepted by both or refused by both with the same error. -/
theorem set (h : b.Reordered c) (name : String) (v : Value) :
    SameOutcome Eq Builder.Reordered (b.set name v) (c.set name v) := by
  have record : b.schema.value.record = c.schema.value.record := h.schema.2.record
  have same : b.schema.value.field? name = c.schema.value.field? name := h.schema.2.field? name
  -- what the schemas say of the name decides
  cases said : b.schema.value.field? name with
  | none =>
    have said' := same.symm.trans said
    rw [h.left.set_of_field?_eq_none said, h.right.set_of_field?_eq_none said']
    exact .error (by rw [unknownField, unknownField, record])
  | some f =>
    obtain ⟨required, t⟩ := f
    have said' := same.symm.trans said
    cases accepts : t.accepts v with
    | false =>
      rw [h.left.set_of_refused said accepts, h.right.set_of_refused said' accepts]
      exact .error (by rw [record])
    | true =>
      obtain ⟨b', left, wellFormed, schema, origin, stored⟩ := h.left.set_of_accepted said accepts
      obtain ⟨c', right, wellFormed', schema', origin', stored'⟩ :=
        h.right.set_of_accepted said' accepts
      rw [left, right]
      refine .ok ⟨wellFormed, wellFormed', ?_, fun other => ?_, ?_⟩
      · rw [schema, schema']
        exact h.schema
      · rw [stored, stored', h.value?]
      · rw [origin, origin']
        exact h.origin

/-! ### Builds -/

/-- The same names are missing. -/
theorem names_missing_perm (h : b.Reordered c) :
    (b.missing.map (·.name)).Perm (c.missing.map (·.name)) := by
  rw [List.perm_ext_iff_of_nodup h.left.nodup_names_missing h.right.nodup_names_missing]
  intro name
  rw [h.left.mem_names_missing, h.right.mem_names_missing, h.schema.2.field?, h.value?]

/-- As many fields are assigned. -/
theorem count_eq (h : b.Reordered c) : b.state.assigned.count = c.state.assigned.count := by
  have names : b.setNames.Perm c.setNames := by
    rw [List.perm_ext_iff_of_nodup h.left.nodup_setNames h.right.nodup_setNames]
    intro name
    rw [h.left.mem_setNames, h.right.mem_setNames, h.value?]
  rw [h.left.count_eq, h.right.count_eq, names.length_eq]

/-- Both find a change in the values, or neither does. -/
theorem isChanged_eq (h : b.Reordered c) (left : b.state.origin = some o)
    (right : c.state.origin = some p) (related : o.value.Reordered p.value) :
    b.isChanged o.value = c.isChanged p.value := by
  rw [Bool.eq_iff_iff, h.left.isChanged_iff_value? left, h.right.isChanged_iff_value? right]
  -- the same values are compared, at whatever positions
  simp only [h.value?, related.get?]

theorem freshRecord (h : b.Reordered c) : b.freshRecord.Reordered c.freshRecord where
  left := h.left.freshRecord
  right := h.right.freshRecord
  schema := h.schema
  get? := fun name => by
    rw [h.left.get?_freshRecord_eq, h.right.get?_freshRecord_eq, h.schema.2.field?, h.value?]

theorem derivedRecord (h : b.Reordered c) (left : b.state.origin = some o)
    (right : c.state.origin = some p) (related : o.value.Reordered p.value) :
    (b.derivedRecord o.value).Reordered (c.derivedRecord p.value) where
  left := h.left.derivedRecord left
  right := h.right.derivedRecord right
  schema := h.schema
  get? := fun name => by
    rw [h.left.get?_derivedRecord_eq left, h.right.get?_derivedRecord_eq right, h.value?,
      related.get?]

/-- The errors of builds that lack fields name the same ones. -/
theorem missingError (h : b.Reordered c) :
    (BuildState.missingError b.schema.value.record b.missing).Reordered
      (BuildState.missingError c.schema.value.record c.missing) := by
  have errors := h.names_missing_perm.map fun n => (⟨n, .required, requiredReason⟩ : FieldError)
  rw [List.map_map, List.map_map] at errors
  rw [BuildState.missingError_eq, BuildState.missingError_eq]
  exact ⟨h.schema.2.record, errors⟩

/-- **The builds of related builders.**  Both fail, and their errors name the same fields, or both
give a record, at the same place and showing the same; either way they allocate and report the
same. -/
theorem build (h : b.Reordered c) (heap : Heap) :
    SameOutcome ValidationError.Reordered (Shared.Rel Record.Reordered)
        (b.build heap).result (c.build heap).result ∧
      (b.build heap).heap = (c.build heap).heap ∧
      (b.build heap).events = (c.build heap).events := by
  have record : b.schema.value.record = c.schema.value.record := h.schema.2.record
  rcases Registers.rel_cases h.origin with ⟨left, right⟩ | ⟨o, p, left, right, related⟩
  · -- a fresh build lacks something iff the other does
    have lengths : b.missing.length = c.missing.length := by
      have names := h.names_missing_perm.length_eq
      rwa [List.length_map, List.length_map] at names
    have missing_iff : b.missing = [] ↔ c.missing = [] := by
      rw [← List.length_eq_zero_iff, lengths, List.length_eq_zero_iff]
    rw [build_fresh left, build_fresh right, record, h.count_eq, lengths]
    by_cases none : c.missing = []
    · rw [if_pos none, if_pos (missing_iff.mpr none)]
      exact ⟨.ok ⟨rfl, h.freshRecord⟩, rfl, rfl⟩
    · rw [if_neg none, if_neg fun none' => none (missing_iff.mp none')]
      have errors := h.missingError
      rw [record] at errors
      exact ⟨.error errors, rfl, rfl⟩
  · -- a derived build finds a change iff the other does
    rw [build_derive left, build_derive right, record, h.count_eq,
      h.isChanged_eq left right related.2]
    by_cases changed : c.isChanged p.value = true
    · rw [if_pos changed, if_pos changed]
      exact ⟨.ok ⟨rfl, h.derivedRecord left right related.2⟩, rfl, rfl⟩
    · rw [if_neg changed, if_neg changed]
      exact ⟨.ok related, rfl, rfl⟩

end Builder.Reordered

end Recordwright
