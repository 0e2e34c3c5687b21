import Recordwright.Descriptors
import Recordwright.Proofs.Offender

/-!
# Extracted descriptors

What the extraction of a shape gives.  Declarations are described unless a name among them offends,
and then they are numbered in their order (`describe_eq`); so the stages of an extraction can be
told apart (`extract_eq`).  It succeeds iff the record has a name, no name offends and the limit is
kept (`extract_eq_ok_iff`), and it fails for the first of these that goes wrong
(`extract_eq_error_iff`).

The result is *well formed* (`Descriptors.WellFormed`): no two fields have one name, and the field
at position `i` has ordinal `i`.  In well-formed descriptors names and positions determine each
other, so the look-up by name is the inverse of the table: `ordinalOf?` gives `i` for the name of
the `i`-th field (`ordinalOf?_name`), and gives nothing for a name that no field has
(`ordinalOf?_eq_none_iff`).

`Shape.extraction` says all of this of the declarations of a shape.  Static ones have no part in it,
wherever they stand.
-/

namespace Recordwright

/-- The descriptor of a declaration at a position. -/
def FieldDeclaration.descriptor (d : FieldDeclaration) (ordinal : Nat) : Descriptor :=
  ⟨d.name, d.type, d.required, ordinal⟩

/-- The descriptors of declarations that are numbered from `first`. -/
def numbered (first : Nat) (ds : List FieldDeclaration) : List Descriptor :=
  (ds.zipIdx first).map fun d => d.1.descriptor d.2

@[simp] theorem numbered_nil (first : Nat) : numbered first [] = [] := rfl

@[simp] theorem numbered_cons (first : Nat) (d : FieldDeclaration) (ds : List FieldDeclaration) :
    numbered first (d :: ds) = d.descriptor first :: numbered (first + 1) ds := rfl

theorem getElem?_numbered (first : Nat) (ds : List FieldDeclaration) (i : Nat) :
    (numbered first ds)[i]? = ds[i]?.map fun d => d.descriptor (first + i) := by
  unfold numbered
  rw [List.getElem?_map, List.getElem?_zipIdx, Option.map_map]
  rfl

/-- All that a descriptor tells but its ordinal is told by the declaration. -/
theorem map_numbered {α : Type} {told : Descriptor → α} {declared : FieldDeclaration → α}
    (same : ∀ d i, told (d.descriptor i) = declared d) (first : Nat) (ds : List FieldDeclaration) :
    (numbered first ds).map told = ds.map declared := by
  induction ds generalizing first with
  | nil => rfl
  | cons d ds ih => rw [numbered_cons, List.map_cons, List.map_cons, same, ih]

@[simp] theorem map_name_numbered (first : Nat) (ds : List FieldDeclaration) :
    (numbered first ds).map (·.name) = ds.map (·.name) := map_numbered (fun _ _ => rfl) first ds

@[simp] theorem map_type_numbered (first : Nat) (ds : List FieldDeclaration) :
    (numbered first ds).map (·.type) = ds.map (·.type) := map_numbered (fun _ _ => rfl) first ds

@[simp] theorem length_numbered (first : Nat) (ds : List FieldDeclaration) :
    (numbered first ds).length = ds.length := by
  rw [numbered, List.length_map, List.length_zipIdx]

/-! ### Extraction -/

namespace Shape

/-- Why a declaration with this name cannot be described. -/
def nameError (record name : String) : ShapeError :=
  if Name.isFieldName name then .duplicateField record name else .invalidFieldName record name

/-- Declarations are described unless a name among them offends; the result numbers them. -/
theorem describe_eq (record : String) (seen : List String) (first : Nat)
    (ds : List FieldDeclaration) :
    describe record seen first ds =
      match offender? Name.isFieldName seen (ds.map (·.name)) with
      | none => .ok (numbered first ds)
      | some name => .error (nameError record name) := by
  induction ds generalizing seen first with
  | nil => rfl
  | cons d rest ih =>
    rw [List.map_cons]
    unfold describe
    -- the loop asks first whether the name is fit, and then whether it was seen
    by_cases fits : Name.isFieldName d.name = true
    · by_cases old : d.name ∈ seen
      · rw [offender?_cons_of_offends (by simp [old]), if_neg (by simp [fits]),
          if_pos (by simp [old])]
        simp [nameError, fits]
      · rw [offender?_cons_of_fine ⟨fits, old⟩, if_neg (by simp [fits]), if_neg (by simp [old]), ih]
        cases offender? Name.isFieldName (d.name :: seen) (rest.map (·.name)) <;> rfl
    · rw [offender?_cons_of_offends (by simp [fits]), if_pos (by simp [fits])]
      simp [nameError, fits]

variable {s : Shape} {limits : Limits} {ds : Descriptors} {e : ShapeError}

/-- No declaration that is kept offends iff their names are fit and differ. -/
theorem offender?_kept_eq_none_iff :
    offender? Name.isFieldName [] (s.kept.map (·.name)) = none ↔
      (∀ d ∈ s.kept, Name.isFieldName d.name = true) ∧ (s.kept.map (·.name)).Nodup := by
  rw [offender?_eq_none_iff, passes_nil_seen_iff, List.forall_mem_map]

/-- The stages of an extraction: the name of the record, the names of the fields, their number. -/
theorem extract_eq (s : Shape) (limits : Limits) :
    s.extract limits =
      if Text.isBlankText s.name then .error .emptyRecordName
      else
        match offender? Name.isFieldName [] (s.kept.map (·.name)) with
        | some name => .error (nameError s.name name)
        | none =>
          match limits.maxFields with
          | none => .ok ⟨s.name, numbered 0 s.kept⟩
          | some greatest =>
            if greatest < s.kept.length then
              .error (.tooManyFields s.name s.kept.length greatest)
            else .ok ⟨s.name, numbered 0 s.kept⟩ := by
  rw [extract, describe_eq]
  cases offender? Name.isFieldName [] (s.kept.map (·.name)) with
  | some name => rfl
  | none =>
    cases limits.maxFields with
    | none => rfl
    | some greatest => simp

/-- **Extraction.** It succeeds iff the record has a name, the declarations that are kept can be
described and are within the limit; the result numbers them. -/
theorem extract_eq_ok_iff :
    s.extract limits = .ok ds ↔
      Text.isBlankText s.name = false ∧ (∀ d ∈ s.kept, Name.isFieldName d.name = true) ∧
        (s.kept.map (·.name)).Nodup ∧
        (∀ greatest, limits.maxFields = some greatest → s.kept.length ≤ greatest) ∧
        ds = ⟨s.name, numbered 0 s.kept⟩ := by
  rw [extract_eq]
  by_cases blank : Text.isBlankText s.name = true
  · simp [blank]
  rw [if_neg blank, and_iff_right (Bool.not_eq_true _ ▸ blank), ← and_assoc,
    ← offender?_kept_eq_none_iff]
  cases offender? Name.isFieldName [] (s.kept.map (·.name)) with
  | some name => simp
  | none =>
    cases limits.maxFields with
    | none => simp [eq_comm]
    | some greatest =>
      by_cases more : greatest < s.kept.length
      · simp [more, Nat.not_le_of_lt more]
      · simp [more, Nat.le_of_not_lt more, eq_comm]

/-- Why a shape has no descriptors, and the error that says so.  A blank name comes first, then the
first declaration that offends, then the number of the declarations. -/
inductive Refuses (s : Shape) (limits : Limits) : ShapeError → Prop
  /-- The record has no name. -/
  | blank (blank : Text.isBlankText s.name = true) : s.Refuses limits .emptyRecordName
  /-- The first name that offends is no name for a field. -/
  | invalid {name : String} (named : Text.isBlankText s.name = false)
      (first : IsFirstOffender Name.isFieldName (s.kept.map (·.name)) name)
      (unfit : Name.isFieldName name = false) : s.Refuses limits (.invalidFieldName s.name name)
  /-- The first name that offends repeats an earlier one. -/
  | repeated {name : String} (named : Text.isBlankText s.name = false)
      (first : IsFirstOffender Name.isFieldName (s.kept.map (·.name)) name)
      (fits : Name.isFieldName name = true) : s.Refuses limits (.duplicateField s.name name)
  /-- No name offends, but there are more of them than allowed. -/
  | tooMany {greatest : Nat} (named : Text.isBlankText s.name = false)
      (fit : ∀ d ∈ s.kept, Name.isFieldName d.name = true)
      (distinct : (s.kept.map (·.name)).Nodup) (limit : limits.maxFields = some greatest)
      (more : greatest < s.kept.length) :
      s.Refuses limits (.tooManyFields s.name s.kept.length greatest)

theorem Refuses.extract_eq (h : s.Refuses limits e) : s.extract limits = .error e := by
  rw [Shape.extract_eq]
  cases h with
  | blank blank => simp [blank]
  | invalid named first unfit =>
    simp [named, offender?_nil_eq_some_iff.mpr first, nameError, unfit]
  | repeated named first fits =>
    simp [named, offender?_nil_eq_some_iff.mpr first, nameError, fits]
  | tooMany named fit distinct limit more =>
    simp [named, offender?_kept_eq_none_iff.mpr ⟨fit, distinct⟩, limit, more]

theorem refuses_of_extract (failed : s.extract limits = .error e) : s.Refuses limits e := by
  rw [extract_eq] at failed
  by_cases blank : Text.isBlankText s.name = true
  · rw [if_pos blank] at failed
    cases failed
    exact .blank blank
  have named : Text.isBlankText s.name = false := Bool.not_eq_true _ ▸ blank
  rw [if_neg blank] at failed
  cases found : offender? Name.isFieldName [] (s.kept.map (·.name)) with
  | some name =>
    -- a name that offends although it is fit can only be a repetition
    have first := offender?_nil_eq_some_iff.mp found
    simp only [found, Except.error.injEq] at failed
    subst failed
    unfold nameError
    split
    next fits => exact .repeated named first fits
    next unfit => exact .invalid named first (Bool.not_eq_true _ ▸ unfit)
  | none =>
    obtain ⟨fit, distinct⟩ := offender?_kept_eq_none_iff.mp found
    -- all names pass, so the limit is what is left to fail
    cases limit : limits.maxFields with
    | none => simp [found, limit] at failed
    | some greatest =>
      simp only [found, limit] at failed
      split at failed
      next more =>
        cases failed
        exact .tooMany named fit distinct limit more
      next => cases failed

/-- **Refusal.** An extraction fails with the error of the reason that there is, and only then. -/
theorem extract_eq_error_iff : s.extract limits = .error e ↔ s.Refuses limits e :=
  ⟨refuses_of_extract, Refuses.extract_eq⟩

/-- What an extraction that fails blames: a record without a name, a field whose name is no field's
or occurs twice, or the number of the fields. -/
theorem extract_eq_error (h : s.extract limits = .error e) :
    (Text.isBlankText s.name = true ∧ e = .emptyRecordName) ∨
      (∃ d ∈ s.kept, (Name.isFieldName d.name = false ∧ e = .invalidFieldName s.name d.name) ∨
        (2 ≤ (s.kept.map (·.name)).count d.name ∧ e = .duplicateField s.name d.name)) ∨
      ∃ greatest, limits.maxFields = some greatest ∧ greatest < s.kept.length ∧
        e = .tooManyFields s.name s.kept.length greatest := by
  cases extract_eq_error_iff.mp h with
  | blank blank => exact .inl ⟨blank, rfl⟩
  | invalid named first unfit =>
    obtain ⟨d, declared, rfl⟩ := List.mem_map.mp first.mem
    exact .inr (.inl ⟨d, declared, .inl ⟨unfit, rfl⟩⟩)
  | repeated named first fits =>
    obtain ⟨d, declared, rfl⟩ := List.mem_map.mp first.mem
    exact .inr (.inl ⟨d, declared, .inr ⟨first.two_le_count fits, rfl⟩⟩)
  | tooMany named fit distinct limit more => exact .inr (.inr ⟨_, limit, more, rfl⟩)

/-- An extraction that succeeds numbers the declarations that are kept, whose names differ. -/
theorem extract_eq_ok (h : s.extract limits = .ok ds) :
    ds = ⟨s.name, numbered 0 s.kept⟩ ∧ (s.kept.map (·.name)).Nodup := by
  obtain ⟨-, -, nodup, -, rfl⟩ := extract_eq_ok_iff.mp h
  exact ⟨rfl, nodup⟩

end Shape

/-! ### Well-formed descriptors -/

/-- Names differ, and ordinals are positions. -/
structure Descriptors.WellFormed (ds : Descriptors) : Prop where
  /-- No two fields have one name. -/
  names_nodup : (ds.fields.map (·.name)).Nodup
  /-- The field at position `i` has ordinal `i`. -/
  ordinal_eq : ∀ (i : Nat) (d : Descriptor), ds.fields[i]? = some d → d.ordinal = i

/-- Extracted descriptors are well formed. -/
theorem Shape.wellFormed_of_extract {s : Shape} {limits : Limits} {ds : Descriptors}
    (h : s.extract limits = .ok ds) : ds.WellFormed := by
  obtain ⟨rfl, nodup⟩ := extract_eq_ok h
  refine ⟨by rwa [map_name_numbered], fun i d hd => ?_⟩
  rw [getElem?_numbered, Option.map_eq_some_iff] at hd
  obtain ⟨e, -, rfl⟩ := hd
  exact Nat.zero_add i

namespace Descriptors

variable {ds : Descriptors} {i j : Nat} {d e : Descriptor} {name : String}

/-- A name is found iff a field has it. -/
theorem ordinalOf?_eq_none_iff : ds.ordinalOf? name = none ↔ ∀ d ∈ ds.fields, d.name ≠ name := by
  simp [ordinalOf?, get?]

/-- The ordinals are the positions in order. -/
theorem WellFormed.map_ordinal (h : ds.WellFormed) :
    ds.fields.map (·.ordinal) = List.range ds.fields.length := by
  refine List.ext_getElem? fun i => ?_
  rw [List.getElem?_map]
  by_cases inside : i < ds.fields.length
  · have field := List.getElem?_eq_getElem inside
    rw [field, Option.map_some, h.ordinal_eq i _ field, List.getElem?_range inside]
  · have outside := Nat.le_of_not_lt inside
    rw [List.getElem?_eq_none outside, List.getElem?_eq_none (by rwa [List.length_range])]
    rfl

/-- Where no name occurs twice, a name has one position. -/
theorem position_unique_of_nodup {α : Type} {name : α → String} {as : List α}
    (nodup : (as.map name).Nodup) {i j : Nat} {a b : α} (ha : as[i]? = some a)
    (hb : as[j]? = some b) (same : name a = name b) : i = j := by
  have hi : i < (as.map name).length := by
    rw [List.length_map]
    exact (List.getElem?_eq_some_iff.mp ha).1
  -- positions in the list of names are determined by the names
  refine (List.getElem?_inj hi nodup).mp ?_
  rw [List.getElem?_map, List.getElem?_map, ha, hb, Option.map_some, Option.map_some, same]

/-- Fields with one name are one field. -/
theorem WellFormed.position_unique (h : ds.WellFormed) (hd : ds.fields[i]? = some d)
    (he : ds.fields[j]? = some e) (same : d.name = e.name) : i = j :=
  position_unique_of_nodup h.names_nodup hd he same

/-- The look-up by name finds the position of the field. -/
theorem WellFormed.ordinalOf?_name (h : ds.WellFormed) (hd : ds.fields[i]? = some d) :
    ds.ordinalOf? d.name = some i := by
  cases found : ds.ordinalOf? d.name with
  | none => exact absurd rfl (ordinalOf?_eq_none_iff.mp found d (List.mem_of_getElem? hd))
  | some k =>
    obtain ⟨e, he, rfl⟩ := Option.map_eq_some_iff.mp found
    have name : e.name = d.name := by simpa using List.find?_some he
    obtain ⟨j, hj⟩ := List.getElem?_of_mem (List.mem_of_find?_eq_some he)
    rw [h.ordinal_eq j e hj, h.position_unique hj hd name]

/-- A name is found at a position iff the field there has it. -/
theorem WellFormed.ordinalOf?_eq_some_iff (h : ds.WellFormed) :
    ds.ordinalOf? name = some i ↔ ∃ d, ds.fields[i]? = some d ∧ d.name = name := by
  constructor
  · intro found
    obtain ⟨e, he, rfl⟩ := Option.map_eq_some_iff.mp found
    obtain ⟨j, hj⟩ := List.getElem?_of_mem (List.mem_of_find?_eq_some he)
    rw [h.ordinal_eq j e hj]
    exact ⟨e, hj, by simpa using List.find?_some he⟩
  · rintro ⟨d, hd, rfl⟩
    exact h.ordinalOf?_name hd

/-- A position that a name is found at is one of a field. -/
theorem WellFormed.lt_of_ordinalOf? (h : ds.WellFormed) (found : ds.ordinalOf? name = some i) :
    i < ds.fields.length := by
  obtain ⟨d, hd, -⟩ := h.ordinalOf?_eq_some_iff.mp found
  exact (List.getElem?_eq_some_iff.mp hd).1

/-- The field that is found by a name has that name and stands at its own position. -/
theorem WellFormed.get?_name (h : ds.WellFormed) (hd : ds.fields[i]? = some d) :
    ds.get? d.name = some d := by
  obtain ⟨e, he, ordinal⟩ := Option.map_eq_some_iff.mp (h.ordinalOf?_name hd)
  obtain ⟨j, hj⟩ := List.getElem?_of_mem (List.mem_of_find?_eq_some he)
  rw [h.ordinal_eq j e hj] at ordinal
  rw [he, ← hj, ordinal, hd]

end Descriptors

/-! ### Extraction of a shape -/

/-- **Extraction, exactly.** Let `K` be the declarations of a shape that are not static, in order.

* There are descriptors iff the name of the record is not blank, every name in `K` is one for a
  field, these names differ, and there are no more of them than allowed.
* The field at position `i` is then the `i`-th declaration of `K` with ordinal `i`.  It is found by
  its name, no other name is found, and the required fields are those that say so, in order.
* Otherwise the error is that of `Shape.Refuses`: for the record's name, for the first declaration
  of `K` whose name is unfit or repeats an earlier one, or for the length of `K`.
* A shape with the same name and the same `K` has the same result, whatever is static in it. -/
theorem Shape.extraction (s : Shape) (limits : Limits) :
    let K := s.fields.filter fun d => !d.isStatic
    ((∃ ds, s.extract limits = .ok ds) ↔
      Text.isBlankText s.name = false ∧ (∀ d ∈ K, Name.isFieldName d.name = true) ∧
        (K.map (·.name)).Nodup ∧
        ∀ greatest, limits.maxFields = some greatest → K.length ≤ greatest) ∧
    (∀ ds, s.extract limits = .ok ds →
      ds.record = s.name ∧
      (∀ i, ds.fields[i]? = K[i]?.map fun d => Descriptor.mk d.name d.type d.required i) ∧
      (∀ i d, K[i]? = some d →
        ds.get? d.name = ds.fields[i]? ∧ ds.ordinalOf? d.name = some i) ∧
      (∀ name, name ∉ K.map (·.name) → ds.get? name = none ∧ ds.ordinalOf? name = none) ∧
      ds.required.Sublist ds.fields ∧
      ∀ f, f ∈ ds.required ↔ f ∈ ds.fields ∧ f.required = true) ∧
    (∀ e, s.extract limits = .error e ↔ s.Refuses limits e) ∧
    ∀ t : Shape, t.name = s.name → (t.fields.filter fun d => !d.isStatic) = K →
      t.extract limits = s.extract limits := by
  intro K
  -- Everything is read off the list of the declarations that are kept, numbered from zero.
  refine ⟨?_, fun ds ok => ?_, fun e => extract_eq_error_iff, fun t name kept => ?_⟩
  · simp only [extract_eq_ok_iff, exists_and_left, exists_eq, and_true]
    rfl
  · have wellFormed := wellFormed_of_extract ok
    obtain ⟨rfl, -⟩ := extract_eq_ok ok
    have fields : ∀ i, (numbered 0 K)[i]? =
        K[i]?.map fun d => Descriptor.mk d.name d.type d.required i := by
      intro i
      rw [getElem?_numbered, Nat.zero_add]
      rfl
    refine ⟨rfl, fields, fun i d declared => ?_, fun name absent => ?_, ?_, fun f => ?_⟩
    · have field : (numbered 0 K)[i]? = some ⟨d.name, d.type, d.required, i⟩ := by
        rw [fields, declared]
        rfl
      exact ⟨(wellFormed.get?_name field).trans field.symm, wellFormed.ordinalOf?_name field⟩
    · have none : ∀ d ∈ numbered 0 K, d.name ≠ name := by
        intro d member same
        refine absent ?_
        rw [← map_name_numbered 0 K, ← same]
        exact List.mem_map_of_mem member
      have ordinal : Descriptors.ordinalOf? ⟨s.name, numbered 0 K⟩ name = Option.none :=
        Descriptors.ordinalOf?_eq_none_iff.mpr none
      exact ⟨Option.map_eq_none_iff.mp ordinal, ordinal⟩
    · exact List.filter_sublist
    · exact List.mem_filter
  · have kept' : t.kept = s.kept := kept
    rw [extract_eq, extract_eq, name, kept']

end Recordwright
