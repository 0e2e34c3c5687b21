import Recordwright.Proofs.Memo
import Recordwright.Schema

/-!
# Made schemas

A schema is *well formed* (`Schema.WellFormed`) when its descriptors are and it has exactly one type
for each of them, namely the one that the declared type names.  Every schema that is made is well
formed (`wellFormed_of_ofShape`), and from a sound memo the same schemas are made as without one
(`ofShapeMemoized_fst`).

The making of a schema is opened once, by `ofDescriptors_eq_ok_iff`: it succeeds iff the builder can
be described and every declared type names a storage type.
-/

namespace Recordwright.Schema

variable {s : Schema} {shape : Shape} {options : Options} {ds : Descriptors}

/-! ### How a schema is made -/

/-- The types of fields are what their declarations name, if each names one. -/
theorem typesOf_eq_ok_iff {record : String} {fields : List Descriptor} {types : List FieldType} :
    typesOf record fields = .ok types ↔
      fields.map (fun d => FieldType.parse? d.type) = types.map some := by
  induction fields generalizing types with
  | nil =>
    rw [typesOf, Except.ok.injEq, List.map_nil, eq_comm, eq_comm (a := []), List.map_eq_nil_iff]
  | cons d rest ih =>
    unfold typesOf
    cases parsed : FieldType.parse? d.type with
    -- no list of types begins with nothing
    | none => cases types <;> simp [parsed]
    | some t =>
      cases more : typesOf record rest with
      | error e =>
        constructor
        · intro h
          cases h
        · intro h
          cases types with
          | nil => cases h
          | cons u us =>
            rw [List.map_cons, List.map_cons, List.cons.injEq] at h
            rw [ih.mpr h.2] at more
            cases more
      | ok ts =>
        have rest_eq := ih.mp more
        rw [List.map_cons, parsed, rest_eq, Except.ok.injEq, ← List.map_cons,
          (List.map_injective_iff.mpr fun _ _ => Option.some.inj).eq_iff]

/-- Fields have types iff each type that is declared names one. -/
theorem exists_typesOf_iff {record : String} {fields : List Descriptor} :
    (∃ types, typesOf record fields = .ok types) ↔
      ∀ type ∈ fields.map (·.type), ∃ t, FieldType.parse? type = some t := by
  simp only [typesOf_eq_ok_iff, List.forall_mem_map]
  induction fields with
  | nil => exact ⟨fun _ d hd => absurd hd List.not_mem_nil, fun _ => ⟨[], rfl⟩⟩
  | cons d rest ih =>
    rw [List.forall_mem_cons, ← ih]
    constructor
    · rintro ⟨types, parsed⟩
      cases types with
      | nil => cases parsed
      | cons t ts =>
        rw [List.map_cons, List.map_cons, List.cons.injEq] at parsed
        exact ⟨⟨t, parsed.1⟩, ts, parsed.2⟩
    · rintro ⟨⟨t, head⟩, ts, tail⟩
      exact ⟨t :: ts, by rw [List.map_cons, List.map_cons, head, tail]⟩

/-- A schema is made iff its builder can be described and each declared type names a type. -/
theorem ofDescriptors_eq_ok_iff :
    ofDescriptors ds options = .ok s ↔
      s.descriptors = ds ∧ ds.synthesize options = .ok s.description ∧
        typesOf ds.record ds.fields = .ok s.types := by
  unfold ofDescriptors
  cases described : ds.synthesize options with
  | error e => simp [bind, Except.bind]
  | ok description =>
    cases typed : typesOf ds.record ds.fields with
    | error e => simp [bind, Except.bind]
    | ok types =>
      obtain ⟨descriptors', description', types'⟩ := s
      simp [bind, Except.bind, pure, Except.pure, eq_comm]

/-- A schema of a shape is one of the descriptors that are extracted. -/
theorem ofShape_eq_ok_iff :
    ofShape shape options = .ok s ↔
      ∃ ds, shape.extract options.limits = .ok ds ∧ ofDescriptors ds options = .ok s := by
  unfold ofShape
  cases shape.extract options.limits with
  | error e => simp [bind, Except.bind]
  | ok ds => simp [bind, Except.bind]

/-- Reporting does not change what is made. -/
theorem ofShapeReporting_fst (shape : Shape) (options : Options) :
    (ofShapeReporting shape options).1 = ofShape shape options := by
  unfold ofShapeReporting ofShape
  cases shape.extract options.limits with
  | error e => rfl
  | ok ds => cases made : ofDescriptors ds options <;> simp [bind, Except.bind, made]

/-- **From a sound memo the same schema is made as without one**, or the same error is given. -/
theorem ofShapeMemoized_fst {memo : Memo} (sound : memo.Sound) (heap : Heap) (shape : Shape)
    (options : Options) : (ofShapeMemoized memo heap shape options).1 = ofShape shape options := by
  -- what the memo answers and what the extraction gives fail alike
  have answer := sound.map_extract heap shape options.limits
  unfold ofShapeMemoized ofShape
  rw [← answer]
  rcases memo.extract heap shape options.limits with ⟨_ | ds, memo', heap'⟩ <;> rfl

/-- A schema that is made from a sound memo is the one of its shape. -/
theorem ofShape_of_ofShapeMemoized {memo : Memo} {heap : Heap} (sound : memo.Sound)
    (h : (ofShapeMemoized memo heap shape options).1 = .ok s) : ofShape shape options = .ok s := by
  rwa [ofShapeMemoized_fst sound] at h

/-- The memo after the making of a schema is the one after the extraction. -/
theorem ofShapeMemoized_snd (memo : Memo) (heap : Heap) (shape : Shape) (options : Options) :
    (ofShapeMemoized memo heap shape options).2 = (memo.extract heap shape options.limits).2 := by
  unfold ofShapeMemoized
  split <;> simp_all

/-! ### Well-formed schemas -/

/-- The descriptors are well formed, and each has one type. -/
structure WellFormed (s : Schema) : Prop where
  descriptors : s.descriptors.WellFormed
  /-- There are as many types as fields. -/
  types_length : s.types.length = s.size
  /-- The type at a position is the one that the declaration there names. -/
  type?_eq : ∀ (i : Nat) (d : Descriptor),
    s.fields[i]? = some d → s.type? i = FieldType.parse? d.type

/-- A schema of well-formed descriptors is well formed. -/
theorem wellFormed_of_ofDescriptors (wellFormed : ds.WellFormed)
    (h : ofDescriptors ds options = .ok s) : s.WellFormed := by
  obtain ⟨rfl, -, typed⟩ := ofDescriptors_eq_ok_iff.mp h
  have types := typesOf_eq_ok_iff.mp typed
  refine ⟨wellFormed, ?_, fun i d hd => ?_⟩
  · have lengths := congrArg List.length types
    rwa [List.length_map, List.length_map, eq_comm] at lengths
  · -- the lists are equal entry by entry
    have entry := congrArg (·[i]?) types
    have field : s.descriptors.fields[i]? = some d := hd
    simp only [List.getElem?_map, field, Option.map_some] at entry
    unfold type?
    cases found : s.types[i]? with
    | none => simp [found] at entry
    | some t => simpa [found, eq_comm] using entry

/-- **Every made schema is well formed.** -/
theorem wellFormed_of_ofShape (h : ofShape shape options = .ok s) : s.WellFormed := by
  obtain ⟨ds, extracted, made⟩ := ofShape_eq_ok_iff.mp h
  exact wellFormed_of_ofDescriptors (Shape.wellFormed_of_extract extracted) made

/-- A position that a name is found at has a type. -/
theorem WellFormed.type?_isSome (h : s.WellFormed) {i : Nat} (hi : i < s.size) :
    ∃ t, s.type? i = some t :=
  ⟨_, List.getElem?_eq_getElem (h.types_length ▸ hi)⟩

end Recordwright.Schema
