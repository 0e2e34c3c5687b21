import Mathlib.Data.List.Forall2
import Recordwright.Derive.Definition
import Recordwright.Proofs.Description

/-!
# What a definition tells

Each function that reads a declaration is turned around once: when it succeeds, which parts were
read, and which checks were passed on the way (`FieldDefinition.ofField_eq_ok`,
`FieldDefinition.ofFields_eq_ok`, `Definition.ofItem_eq_ok`).  No field gets lost between a
declaration and its definition, and none is added.

Then the descriptors of a definition: one for each field that is kept, numbered in their order.
-/

namespace Recordwright

open Source

/-- What is left of a result without its error is the result, if there is anything left. -/
theorem eq_ok_of_toOption {ε α : Type} {r : Except ε α} {a : α} (h : r.toOption = some a) :
    r = .ok a := by
  cases r with
  | error e => cases h
  | ok b => exact congrArg _ (Option.some.inj h)

/-- A list is read iff each of its elements is, in order. -/
theorem mapM_eq_ok {ε α β : Type} {read : α → Except ε β} {as : List α} {bs : List β} :
    as.mapM read = .ok bs ↔ List.Forall₂ (fun a b => read a = .ok b) as bs := by
  induction as generalizing bs with
  | nil =>
    rw [List.mapM_nil, List.forall₂_nil_left_iff]
    exact ⟨fun h => (Except.ok.inj h).symm, fun h => h ▸ rfl⟩
  | cons a as ih =>
    rw [List.mapM_cons, List.forall₂_cons_left_iff]
    constructor
    · -- the first failure is that of the whole, so there is none
      intro h
      cases first : read a with
      | error e =>
        rw [first] at h
        cases h
      | ok b =>
        cases rest : as.mapM read with
        | error e =>
          rw [first, rest] at h
          cases h
        | ok more =>
          rw [first, rest] at h
          exact ⟨b, more, rfl, ih.mp rest, (Except.ok.inj h).symm⟩
    · rintro ⟨b, more, first, rest, rfl⟩
      rw [first, ih.mpr rest]
      rfl

/-! ### Fields -/

namespace FieldDefinition

variable {f : Field} {a : FieldDefinition} {fs : List Field} {as : List FieldDefinition}

/-- A field is read iff it is not called like the builder's own field and its marks can be read and
go together. -/
theorem ofField_eq_ok : ofField f = .ok a ↔
    f.ident.isWord stateField = false ∧
      ∃ marks, Entry.ofAttributes Entry.fieldMark f.attributes = .ok marks ∧
        ¬(a.required = true ∧ a.skipped = true) ∧ a = ofMarks f.ident f.type marks := by
  unfold ofField
  cases reserved : f.ident.isWord stateField with
  | true => simp
  | false =>
    rw [if_neg Bool.false_ne_true, and_iff_right rfl]
    cases read : Entry.ofAttributes Entry.fieldMark f.attributes with
    | error e => simp
    | ok marks =>
      simp only [Except.ok.injEq, exists_eq_left', ← Bool.and_eq_true]
      constructor
      · intro h
        split at h
        next => cases h
        next consistent =>
          cases h
          exact ⟨consistent, rfl⟩
      · rintro ⟨consistent, rfl⟩
        exact if_neg consistent

theorem ofFields_eq_mapM (fs : List Field) : ofFields fs = fs.mapM ofField := by
  induction fs with
  | nil => rfl
  | cons f rest ih =>
    rw [ofFields, List.mapM_cons, ih]
    cases ofField f with
    | error e => rfl
    | ok first =>
      cases rest.mapM ofField with
      | error e => rfl
      | ok more => rfl

/-- Fields are read one by one, each for itself. -/
theorem ofFields_eq_ok :
    ofFields fs = .ok as ↔ List.Forall₂ (fun f a => ofField f = .ok a) fs as := by
  rw [ofFields_eq_mapM, mapM_eq_ok]

end FieldDefinition

namespace Definition

variable {x : Item} {d : Definition}

/-- An item is read iff its attributes can be read and its fields. -/
theorem ofItem_eq_ok : ofItem x = .ok d ↔
    ∃ settings fields, Entry.ofAttributes Entry.setting x.attributes = .ok settings ∧
      fieldsOf x.body = .ok fields ∧
      d = ⟨x.ident, x.visibility, x.generics, fields, settings.foldl applyOption {},
        settings.foldl applyLibrary defaultLibrary⟩ := by
  unfold ofItem
  cases Entry.ofAttributes Entry.setting x.attributes with
  | error e => simp
  | ok settings =>
    cases fieldsOf x.body with
    | error e => simp
    | ok fields => simp [eq_comm]

/-- Each field of a definition was read of a field that is declared. -/
theorem exists_ofField_of_mem (h : ofItem x = .ok d) {a : FieldDefinition} (member : a ∈ d.fields) :
    ∃ f, FieldDefinition.ofField f = .ok a := by
  obtain ⟨settings, fields, -, read, rfl⟩ := ofItem_eq_ok.mp h
  -- only a body with named fields has any
  cases body : x.body with
  | named declared =>
    rw [body, fieldsOf, FieldDefinition.ofFields_eq_ok] at read
    obtain ⟨i, inside, rfl⟩ := List.getElem_of_mem member
    exact ⟨_, read.get (read.length_eq ▸ inside) inside⟩
  | unit =>
    rw [body, fieldsOf, Except.ok.injEq] at read
    subst read
    cases member
  | unnamed | choice | overlay =>
    rw [body] at read
    cases read

/-! ### Descriptors -/

/-- The shape keeps the declarations of the fields that the definition keeps. -/
theorem kept_shape (d : Definition) : d.shape.kept = d.kept.map declaration := by
  unfold Shape.kept shape kept
  rw [List.filter_map]
  rfl

/-- The descriptors of the fields that are kept. -/
def table (d : Definition) : List Descriptor := numbered 0 (d.kept.map declaration)

theorem table_eq (d : Definition) :
    d.table = d.kept.zipIdx.map fun p => (declaration p.1).descriptor p.2 := by
  unfold table numbered
  rw [List.zipIdx_map, List.map_map]
  rfl

/-- The descriptor at a position is that of the field there. -/
theorem getElem?_table (d : Definition) (i : Nat) :
    d.table[i]? = d.kept[i]?.map fun f => (declaration f).descriptor i := by
  unfold table
  rw [getElem?_numbered, List.getElem?_map, Option.map_map, Nat.zero_add]
  rfl

/-- What is extracted of a definition's shape are these descriptors. -/
theorem extract_eq_ok {ds : Descriptors} (h : d.shape.extract d.options.limits = .ok ds) :
    ds = ⟨d.name, d.table⟩ := by
  rw [(Shape.extract_eq_ok h).1, kept_shape]
  rfl

/-- A definition whose builder can be described has these descriptors. -/
theorem describe_eq_ok {description : Description} (h : d.describe = .ok description) :
    d.shape.extract d.options.limits = .ok ⟨d.name, d.table⟩ ∧
      Descriptors.synthesize ⟨d.name, d.table⟩ d.options = .ok description := by
  unfold describe descriptors at h
  cases extracted : d.shape.extract d.options.limits with
  | error e => simp [extracted] at h
  | ok ds =>
    obtain rfl := extract_eq_ok extracted
    refine ⟨rfl, ?_⟩
    cases described : Descriptors.synthesize ⟨d.name, d.table⟩ d.options with
    | error e => simp [extracted, described] at h
    | ok description' =>
      simp only [extracted, described, Except.ok.injEq] at h
      rw [h]

end Definition

end Recordwright
