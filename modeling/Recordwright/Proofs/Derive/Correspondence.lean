import Recordwright.Proofs.Assignments
import Recordwright.Proofs.Derive.Build
import Recordwright.Proofs.Derive.Written

/-!
# Pairs of builders

A struct whose kept fields have types as `FieldType.ty` spells them has a derived builder and a
schema at run time (`Definition.exists_schema`).  The two builders are written apart: one is code
for each field, the other a loop over slots; one takes defaults and comparisons from the types of
the fields, the other from the names of these types.  `SideBySide` are the pairs of builders that
one sequence of assignments leads to, from nothing or from origins that correspond (`Corresponds`).

`Simulates` is the invariant of such pairs: position by position both store nothing, or the one
stores a cell and the other the value that the cell is converted to.  An assignment on both sides
keeps it (`Simulates.assign`), so every pair has it (`SideBySide.simulates`).  The values of skipped
fields are of any kind, and what their types provide plays no part.
-/

namespace Recordwright

open Source TypedBuilder

/-! ### Values of structs -/

/-- Is the cell a value of the field's type? -/
def FieldDefinition.Admits (f : FieldDefinition) (c : Cell) : Prop :=
  ∃ t, CellType.ofTy? [] f.type = some t ∧ t.accepts c = true

/-- The fields that are kept have types of known spellings. -/
def Definition.Written (d : Definition) : Prop :=
  ∀ f ∈ d.kept, ∃ t : FieldType, f.type = t.ty

/-- What the types of a struct provide.  Fields that are kept hold cells, and fields that are
skipped hold values of any other kind.  -/
def Definition.traits {σ : Type} (d : Definition) (others : FieldTraits σ) :
    FieldTraits (Cell ⊕ σ) where
  default field :=
    match (d.kept.find? (·.ident = field)).bind fun f => CellType.ofTy? [] f.type with
    | some t => .inl t.default
    | none => .inr (others.default field)
  equal field
    | .inl a, .inl c => a.equal c
    | .inr a, .inr c => others.equal field a c
    | _, _ => false

variable {σ : Type} {d : Definition} {b : Blueprint} {x : Shared Schema} {i : Nat}
  {f : FieldDefinition} {others : FieldTraits σ}

/-- The default of a field that is kept is that of its type. -/
theorem Blueprint.LinesUp.default_traits (lined : b.LinesUp d) (hf : d.kept[i]? = some f)
    {t : FieldType} (spelled : f.type = t.ty) :
    (d.traits others).default f.ident = .inl t.cellType.default := by
  have found : d.kept.find? (·.ident = f.ident) = some f := by
    cases search : d.kept.find? (·.ident = f.ident) with
    | none => simpa using List.find?_eq_none.mp search f (List.mem_of_getElem? hf)
    | some g =>
      obtain ⟨j, hj⟩ := List.getElem?_of_mem (List.mem_of_find?_eq_some search)
      have same : g.ident = f.ident := by simpa using List.find?_some search
      obtain rfl := lined.position_unique hj hf (congrArg Ident.name same)
      rw [← hj, hf]
  simp [Definition.traits, found, spelled, FieldType.ofTy?_ty]

/-- The values of a type of known spelling. -/
theorem FieldDefinition.Admits.accepts {c : Cell} (h : f.Admits c) {t : FieldType}
    (spelled : f.type = t.ty) : t.cellType.accepts c = true := by
  obtain ⟨t', type, accepted⟩ := h
  rw [spelled, FieldType.ofTy?_ty, Option.some.injEq] at type
  rwa [type]

/-- The default of a type is one of its values. -/
theorem FieldDefinition.admits_default {t : FieldType} (spelled : f.type = t.ty) :
    f.Admits t.cellType.default :=
  ⟨t.cellType, by rw [spelled, FieldType.ofTy?_ty], CellType.accepts_default _⟩

/-! ### The schema of a struct -/

/-- A schema with the descriptors of a definition. -/
structure Definition.HasSchema (d : Definition) (s : Schema) : Prop where
  descriptors : s.descriptors = ⟨d.name, d.table⟩
  wellFormed : s.WellFormed

/-- Each of these types is found, so there is a list of them. -/
theorem exists_map_some {α β : Type} {g : α → Option β} {l : List α}
    (h : ∀ a ∈ l, ∃ c, g a = some c) : ∃ cs : List β, l.map g = cs.map some := by
  induction l with
  | nil => exact ⟨[], rfl⟩
  | cons a rest ih =>
    obtain ⟨⟨c, first⟩, others⟩ := List.forall_mem_cons.mp h
    obtain ⟨cs, all⟩ := ih others
    exact ⟨c :: cs, by rw [List.map_cons, List.map_cons, first, all]⟩

/-- **A schema can be made** of the shape of a struct whose types are spelled so. -/
theorem Definition.exists_schema (derived : d.blueprint = .ok b) (written : d.Written) :
    ∃ s, Schema.ofShape d.shape d.options = .ok s ∧ d.HasSchema s := by
  obtain ⟨description, -, described, -⟩ := blueprint_eq_ok derived
  obtain ⟨extracted, synthesized⟩ := describe_eq_ok described
  have named : ∀ e ∈ d.table, ∃ t, FieldType.parse? e.type = some t := by
    intro e he
    obtain ⟨i, hi⟩ := List.getElem?_of_mem he
    rw [d.getElem?_table] at hi
    obtain ⟨f, hf, rfl⟩ := Option.map_eq_some_iff.mp hi
    obtain ⟨t, spelled⟩ := written f (List.mem_of_getElem? hf)
    refine ⟨t, ?_⟩
    have text : ((declaration f).descriptor i).type = typeName t.ty := by rw [← spelled]; rfl
    rw [text, FieldType.parse?_typeName]
  obtain ⟨types, all⟩ := exists_map_some named
  have made : Schema.ofShape d.shape d.options = .ok ⟨⟨d.name, d.table⟩, description, types⟩ :=
    Schema.ofShape_eq_ok_iff.mpr ⟨_, extracted,
      Schema.ofDescriptors_eq_ok_iff.mpr ⟨rfl, synthesized, Schema.typesOf_eq_ok_iff.mpr all⟩⟩
  exact ⟨_, made, rfl, Schema.wellFormed_of_ofShape made⟩

namespace Definition.HasSchema

variable {s : Schema}

/-- The field at a position. -/
theorem getElem?_fields (h : d.HasSchema s) (hf : d.kept[i]? = some f) :
    s.fields[i]? = some ((declaration f).descriptor i) := by
  rw [Schema.fields, h.descriptors, d.getElem?_table, hf]
  rfl

/-- Each field of the schema is one that is kept. -/
theorem exists_kept (h : d.HasSchema s) {e : Descriptor} (he : s.fields[i]? = some e) :
    ∃ f, d.kept[i]? = some f := by
  rw [Schema.fields, h.descriptors, d.getElem?_table] at he
  obtain ⟨f, hf, -⟩ := Option.map_eq_some_iff.mp he
  exact ⟨f, hf⟩

/-- The type at a position. -/
theorem type?_eq (h : d.HasSchema s) (hf : d.kept[i]? = some f) {t : FieldType}
    (spelled : f.type = t.ty) : s.type? i = some t := by
  have text : ((declaration f).descriptor i).type = typeName t.ty := by rw [← spelled]; rfl
  rw [h.wellFormed.type?_eq i _ (h.getElem?_fields hf), text, FieldType.parse?_typeName]

/-- The look-up of a field that is kept. -/
theorem ordinalOf?_eq (h : d.HasSchema s) (hf : d.kept[i]? = some f) :
    s.descriptors.ordinalOf? f.name = some i :=
  h.wellFormed.descriptors.ordinalOf?_name (h.getElem?_fields hf)

end Definition.HasSchema

/-! ### Pairs of builders -/

/-- A struct and a record that correspond: each field that is kept holds a cell of its type in the
struct, and in the record the value that the cell is converted to. -/
structure Corresponds (d : Definition) (x : Shared Schema) (o : StructValue (Cell ⊕ σ))
    (r : Record) : Prop where
  complete : Complete d o
  wellFormed : r.WellFormed
  schema : r.schema = x
  kept : ∀ f ∈ d.kept, ∃ c, f.Admits c ∧ o.lookup f.ident = some (.inl c) ∧
    r.get? f.name = some (.ofCell c)

/-- What both sides of a derived build compare with a cell of a field that is kept. -/
theorem Corresponds.compared {o : StructValue (Cell ⊕ σ)} {r : Record}
    (h : Corresponds d x o r) (schema : d.HasSchema x.value) (written : d.Written)
    (hf : d.kept[i]? = some f) {c : Cell} (admitted : f.Admits c) :
    ∃ c', o.lookup f.ident = some (.inl c') ∧ r.values[i]? = some (.ofCell c') ∧
      (d.traits others).equal f.ident (.inl c) (.inl c') =
        (Value.ofCell c).equal (.ofCell c') := by
  obtain ⟨c', admitted', left, right⟩ := h.kept f (List.mem_of_getElem? hf)
  obtain ⟨type, spelled⟩ := written f (List.mem_of_getElem? hf)
  have hd : r.schema.value.fields[i]? = some ((Definition.declaration f).descriptor i) := by
    rw [h.schema]
    exact schema.getElem?_fields hf
  refine ⟨c', left, ?_, ?_⟩
  · rw [← Record.get?_name h.wellFormed.schema hd]
    exact right
  · rw [FieldType.equal_ofCell (admitted.accepts spelled) (admitted'.accepts spelled)]
    rfl

/-- The pairs of builders that the same assignments lead to.  A field is assigned through its method
on the one side, and by its name and with the converted value on the other. -/
inductive SideBySide (d : Definition) (b : Blueprint) (x : Shared Schema) :
    TypedBuilder (Cell ⊕ σ) → Builder → Prop where
  | fresh : SideBySide d b x b.fresh (.fresh x)
  | derive {o : Shared (StructValue (Cell ⊕ σ))} {r : Shared Record} :
      Corresponds d x o.value r.value → SideBySide d b x (b.derive o) (.derive r)
  | assign {t : TypedBuilder (Cell ⊕ σ)} {u u' : Builder} {f : FieldDefinition}
      {m : FieldMethods} {c : Cell} : SideBySide d b x t u → f ∈ d.kept →
      b.methodsOf? f.name = some m → f.Admits c → u.set f.name (.ofCell c) = .ok u' →
      SideBySide d b x (m.assign (.inl c) t) u'

/-- **The invariant of pairs.** -/
structure Simulates (d : Definition) (x : Shared Schema) (t : TypedBuilder (Cell ⊕ σ))
    (u : Builder) : Prop where
  typed : t.WellFormed d
  dynamic : u.WellFormed
  schema : u.schema = x
  /-- Both store nothing for a field, or the one a cell and the other its conversion. -/
  stored : ∀ (i : Nat) (f : FieldDefinition), d.kept[i]? = some f →
    t.stored i = none ∧ u.stored i = none ∨
    ∃ c, f.Admits c ∧ t.stored i = some (.inl c) ∧ u.stored i = some (.ofCell c)
  /-- Both have no origin, or origins that correspond. -/
  origin : t.state.origin = none ∧ u.state.origin = none ∨
    ∃ o r, t.state.origin = some o ∧ u.state.origin = some r ∧ Corresponds d x o.value r.value

variable {t : TypedBuilder (Cell ⊕ σ)} {u u' : Builder} {s : Schema}

namespace Simulates

theorem fresh (lined : b.LinesUp d) (schema : d.HasSchema x.value) :
    Simulates (σ := σ) d x b.fresh (.fresh x) where
  typed := .fresh lined
  dynamic := .fresh schema.wellFormed
  schema := rfl
  stored := fun i _ _ => .inl ⟨stored_emptyStorage lined _ i, Builder.stored_fresh x i⟩
  origin := .inl ⟨rfl, rfl⟩

theorem derive (lined : b.LinesUp d) {o : Shared (StructValue (Cell ⊕ σ))} {r : Shared Record}
    (h : Corresponds d x o.value r.value) : Simulates d x (b.derive o) (.derive r) where
  typed := .derive lined o
  dynamic := .derive h.wellFormed
  schema := h.schema
  stored := fun i _ _ => .inl ⟨stored_emptyStorage lined _ i, Builder.stored_derive r i⟩
  origin := .inr ⟨o, r, rfl, rfl, h⟩

/-- A value of the field's type is accepted under the field's name. -/
theorem exists_set (h : Simulates d x t u) (schema : d.HasSchema x.value) (written : d.Written)
    (hf : d.kept[i]? = some f) {c : Cell} (admitted : f.Admits c) :
    ∃ u', u.set f.name (.ofCell c) = .ok u' := by
  obtain ⟨type, spelled⟩ := written f (List.mem_of_getElem? hf)
  refine ⟨u.store i (.ofCell c), Builder.set_eq_ok_iff.mpr ⟨i, type, ?_, ?_, ?_, rfl⟩⟩
  · rw [h.schema]
    exact schema.ordinalOf?_eq hf
  · rw [h.schema]
    exact schema.type?_eq hf spelled
  · exact FieldType.accepts_ofCell (admitted.accepts spelled)

/-- An assignment on both sides keeps the invariant. -/
theorem assign (h : Simulates d x t u) (lined : b.LinesUp d) (schema : d.HasSchema x.value)
    (hf : d.kept[i]? = some f) (lead : String) {c : Cell} (admitted : f.Admits c)
    (ok : u.set f.name (.ofCell c) = .ok u') :
    Simulates d x ((FieldDefinition.methodsAt lead (f, i)).assign (.inl c) t) u' := by
  have dynamic := h.dynamic.set ok
  obtain ⟨j, type, found, typed, -, rfl⟩ := Builder.set_eq_ok_iff.mp ok
  rw [h.schema, schema.ordinalOf?_eq hf] at found
  obtain rfl := Option.some.inj found
  have inside := h.dynamic.lt_of_type? typed
  refine ⟨h.typed.assign lined hf lead _, dynamic, ?_, fun k g hg => ?_, ?_⟩
  · rw [Builder.schema_store, h.schema]
  · rw [h.typed.stored_assign lined hf, Builder.stored_store inside]
    -- both sides store at the position of the field and nowhere else
    by_cases same : k = i
    · subst same
      obtain rfl := Option.some.inj (hg.symm.trans hf)
      rw [if_pos rfl, if_pos rfl]
      exact .inr ⟨c, admitted, rfl, rfl⟩
    · rw [if_neg same, if_neg same]
      exact h.stored k g hg
  · rw [Builder.origin_store, FieldMethods.origin_assign]
    exact h.origin

/-- Both sides have the same fields assigned. -/
theorem isAssigned_eq (h : Simulates d x t u) (schema : d.HasSchema x.value) (i : Nat) :
    t.state.isAssigned i = u.state.isAssigned i := by
  rw [h.typed.isAssigned_eq, h.dynamic.isAssigned_eq]
  cases hf : d.kept[i]? with
  | some f =>
    rcases h.stored i f hf with ⟨left, right⟩ | ⟨c, -, left, right⟩
    · rw [left, right]
      rfl
    · rw [left, right]
      rfl
  | none =>
    -- behind the fields nothing is stored on either side
    have left : t.stored i = none := by
      cases stored : t.stored i with
      | none => rfl
      | some v =>
        obtain ⟨f, hf'⟩ := h.typed.lt_of_stored stored
        rw [hf] at hf'
        cases hf'
    have right : u.stored i = none := by
      cases stored : u.stored i with
      | none => rfl
      | some v =>
        obtain ⟨e, field⟩ := h.dynamic.exists_field_of_stored stored
        obtain ⟨f, hf'⟩ := schema.exists_kept (h.schema ▸ field)
        rw [hf] at hf'
        cases hf'
    rw [left, right]
    rfl

/-- Both sides lack the same fields. -/
theorem missing_eq (h : Simulates d x t u) (schema : d.HasSchema x.value) :
    TypedBuilder.missing d t = u.missing := by
  have fields : u.schema.value.fields = d.table := by
    rw [h.schema, Schema.fields, schema.descriptors]
  unfold TypedBuilder.missing Builder.missing
  rw [fields]
  exact BuildState.missing_congr d.table (h.isAssigned_eq schema)

/-- Both sides find a change or none does. -/
theorem changes_iff (h : Simulates d x t u) (schema : d.HasSchema x.value) (written : d.Written)
    (others : FieldTraits σ) {o : Shared (StructValue (Cell ⊕ σ))} {r : Shared Record}
    (hr : u.state.origin = some r) (corresponds : Corresponds d x o.value r.value) :
    Changes d (d.traits others) t o.value ↔ u.isChanged r.value = true := by
  rw [h.dynamic.isChanged_iff hr]
  constructor
  -- a cell that is stored on the one side is the value that is stored on the other
  · rintro ⟨i, f, v, w, hf, stored, current, unequal⟩
    rcases h.stored i f hf with ⟨left, -⟩ | ⟨c, admitted, left, right⟩
    · rw [left] at stored
      cases stored
    · obtain ⟨c', current', value, same⟩ := corresponds.compared schema written hf admitted
      rw [left, Option.some.injEq] at stored
      rw [current', Option.some.injEq] at current
      refine ⟨i, .ofCell c, .ofCell c', right, value, ?_⟩
      rw [← same, stored, current, unequal]
  · rintro ⟨i, v, w, stored, current, unequal⟩
    obtain ⟨e, field⟩ := h.dynamic.exists_field_of_stored stored
    obtain ⟨f, hf⟩ := schema.exists_kept (h.schema ▸ field)
    rcases h.stored i f hf with ⟨-, right⟩ | ⟨c, admitted, left, right⟩
    · rw [right] at stored
      cases stored
    · obtain ⟨c', current', value, same⟩ := corresponds.compared schema written hf admitted
      rw [right, Option.some.injEq] at stored
      rw [value, Option.some.injEq] at current
      refine ⟨i, f, .inl c, .inl c', hf, left, current', ?_⟩
      rw [same, stored, current, unequal]

end Simulates

/-- **Every pair keeps the invariant.** -/
theorem SideBySide.simulates (h : SideBySide d b x t u) (lined : b.LinesUp d)
    (schema : d.HasSchema x.value) : Simulates d x t u := by
  induction h with
  | fresh => exact .fresh lined schema
  | derive corresponds => exact .derive lined corresponds
  | assign _ member method admitted ok ih =>
    -- the methods that are found by the field's name are those at its position
    obtain ⟨i, hf⟩ := List.getElem?_of_mem member
    rw [lined.methodsOf?_eq hf, Option.some.injEq] at method
    exact method ▸ ih.assign lined schema hf _ admitted ok

/-- The assignment of a value of the field's type leads from one pair to another. -/
theorem SideBySide.attempt (h : SideBySide d b x t u) (lined : b.LinesUp d)
    (schema : d.HasSchema x.value) (written : d.Written) (member : f ∈ d.kept) {c : Cell}
    (admitted : f.Admits c) :
    ∃ t' : TypedBuilder (Cell ⊕ σ), t'.state.origin = t.state.origin ∧
      SideBySide d b x t' (u.attempt (f.name, .ofCell c)) := by
  obtain ⟨i, hf⟩ := List.getElem?_of_mem member
  obtain ⟨u', ok⟩ := (h.simulates lined schema).exists_set schema written hf admitted
  have next : u.attempt (f.name, .ofCell c) = u' := by simp only [Builder.attempt, ok]
  refine ⟨(FieldDefinition.methodsAt d.options.setterLead (f, i)).assign (.inl c) t, rfl, ?_⟩
  rw [next]
  exact h.assign member (lined.methodsOf?_eq hf) admitted ok

end Recordwright
