import Recordwright.Proofs.Derive.Failures
import Recordwright.Proofs.Derive.Names

/-!
# Raw and plain spellings

Two declarations are alike if they differ in raw marks at most, of the struct's name and of names of
fields (`Item.Alike`).  What is made of them is compared on the way: each field says the same in
both shapes, so the descriptors, the setters and all names of methods are equal.

The mark of the struct's name is not taken off on this way.  It is a part of the record's name, and
of the builder's name where this is made of the record's: both are equal iff the marks are
(`Definition.spellings_alike`).
-/

namespace Recordwright

open Source

/-! ### Declarations that are alike -/

namespace Source

/-- Two fields that differ in a raw mark at most. -/
structure Field.Alike (f g : Field) : Prop where
  attributes : f.attributes = g.attributes
  visibility : f.visibility = g.visibility
  name : f.ident.name = g.ident.name
  type : f.type = g.type

/-- Two bodies of which the named fields differ in raw marks at most. -/
inductive Body.Alike : Body → Body → Prop
  | named {fs gs : List Field} (fields : List.Forall₂ Field.Alike fs gs) :
      Body.Alike (.named fs) (.named gs)
  | same (body : Body) : Body.Alike body body

/-- Two items that differ in raw marks of their name and of their fields at most. -/
structure Item.Alike (x y : Item) : Prop where
  attributes : x.attributes = y.attributes
  visibility : x.visibility = y.visibility
  name : x.ident.name = y.ident.name
  generics : x.generics = y.generics
  body : x.body.Alike y.body

end Source

/-- The name begins with a raw mark. -/
def IsMarked (name : String) : Prop := ∃ rest, name = "r#" ++ rest

namespace Source.Ident

variable {i j : Ident}

theorem isMarked_text_iff : IsMarked i.text ↔ i.raw = true := by
  constructor
  · rintro ⟨rest, marked⟩
    exact (text_eq_raw_iff.mp marked).1
  · intro raw
    exact ⟨i.name, text_eq_raw_iff.mpr ⟨raw, rfl⟩⟩

theorem not_isMarked_name (i : Ident) : ¬ IsMarked i.name := by
  intro marked
  -- the name is the text of an identifier without a mark
  let plain : Ident := { i with raw := false }
  have text : plain.text = i.name := text_of_not_raw rfl
  rw [← text] at marked
  exact absurd (isMarked_text_iff.mp marked) Bool.false_ne_true

/-- Identifiers with one name are written alike iff their marks are. -/
theorem text_eq_text_iff (names : i.name = j.name) : i.text = j.text ↔ i.raw = j.raw := by
  constructor
  · intro same
    rw [Bool.eq_iff_iff, ← isMarked_text_iff, same, isMarked_text_iff]
  · intro raw
    rw [text, text, raw, names]

end Source.Ident

/-! ### What is made of them -/

namespace FieldDefinition

open Definition (declaration)

variable {f g : Field} {a c : FieldDefinition}

/-- Fields that are alike say the same in a shape. -/
theorem declaration_eq_of_alike (alike : f.Alike g) (hf : ofField f = .ok a)
    (hg : ofField g = .ok c) : declaration a = declaration c := by
  obtain ⟨-, marks, read, -, rfl⟩ := ofField_eq_ok.mp hf
  obtain ⟨-, marks', read', -, rfl⟩ := ofField_eq_ok.mp hg
  rw [alike.attributes, read', Except.ok.injEq] at read
  subst read
  simp only [declaration, FieldDefinition.name, ofMarks, alike.name, alike.type]

theorem declarations_eq_of_alike {fs gs : List Field} {as cs : List FieldDefinition}
    (alike : List.Forall₂ Field.Alike fs gs) (hf : ofFields fs = .ok as)
    (hg : ofFields gs = .ok cs) : as.map declaration = cs.map declaration := by
  rw [ofFields_eq_ok] at hf hg
  induction alike generalizing as cs with
  | nil =>
    cases hf
    cases hg
    rfl
  | cons one others ih =>
    obtain ⟨a, as, first, rest, rfl⟩ := List.forall₂_cons_left_iff.mp hf
    obtain ⟨c, cs, first', rest', rfl⟩ := List.forall₂_cons_left_iff.mp hg
    rw [List.map_cons, List.map_cons, declaration_eq_of_alike one first first', ih rest rest']

end FieldDefinition

namespace Definition

variable {x y : Item} {d e : Definition} {b c : Blueprint}

/-- Items that are alike declare the same fields and have the same options. -/
theorem fields_shape_eq_of_alike (alike : x.Alike y) (hx : ofItem x = .ok d)
    (hy : ofItem y = .ok e) : d.shape.fields = e.shape.fields ∧ d.options = e.options := by
  obtain ⟨settings, fields, set, read, rfl⟩ := ofItem_eq_ok.mp hx
  obtain ⟨settings', fields', set', read', rfl⟩ := ofItem_eq_ok.mp hy
  rw [alike.attributes, set', Except.ok.injEq] at set
  subst set
  refine ⟨?_, rfl⟩
  show fields.map declaration = fields'.map declaration
  have bodies := alike.body
  generalize x.body = body at bodies read
  generalize y.body = body' at bodies read'
  cases bodies with
  | named fields => exact FieldDefinition.declarations_eq_of_alike fields read read'
  | same =>
    rw [read, Except.ok.injEq] at read'
    rw [read']

theorem table_eq_of_fields (same : d.shape.fields = e.shape.fields) : d.table = e.table := by
  unfold table
  rw [← kept_shape, ← kept_shape, Shape.kept, Shape.kept, same]

theorem describe_builder (h : d.blueprint = .ok b) :
    ∃ description, d.describe = .ok description ∧
      builderIdent description.builder = .ok b.builder := by
  obtain ⟨description, builder, described, named, rfl⟩ := blueprint_eq_ok h
  exact ⟨description, described, named⟩

/-- The methods of a builder are named after the descriptors. -/
theorem names_methods (h : b.LinesUp d) :
    b.methods.map (fun m => (m.field, m.setter, m.query)) =
      d.table.map fun t => (t.name, Name.setterOf d.options.setterLead t.name,
        Name.queryOf t.name) := by
  rw [h.methods, table_eq, List.map_map, List.map_map]
  rfl

/-- The record's names are equal iff the marks of the structs' names are. -/
theorem name_eq_iff (alike : x.Alike y) (hx : ofItem x = .ok d) (hy : ofItem y = .ok e) :
    d.name = e.name ↔ x.ident.raw = y.ident.raw := by
  obtain ⟨settings, fields, -, -, rfl⟩ := ofItem_eq_ok.mp hx
  obtain ⟨settings', fields', -, -, rfl⟩ := ofItem_eq_ok.mp hy
  exact Ident.text_eq_text_iff alike.name

/-- No field is declared with a mark, and the record is named with one iff the struct is. -/
theorem isMarked_iff (hx : ofItem x = .ok d) :
    (∀ f ∈ d.shape.fields, ¬ IsMarked f.name) ∧ (IsMarked d.shape.name ↔ x.ident.raw = true) := by
  obtain ⟨settings, fields, -, -, rfl⟩ := ofItem_eq_ok.mp hx
  constructor
  · intro f member
    obtain ⟨g, -, rfl⟩ := List.mem_map.mp member
    exact g.ident.not_isMarked_name
  · exact Ident.isMarked_text_iff

/-- Builders that are named after their records have one name iff the records have. -/
theorem builderNameFor_eq_iff (o : Options) (record record' : String) :
    o.builderNameFor record = o.builderNameFor record' ↔
      o.builderName.isSome = true ∨ record = record' := by
  unfold Options.builderNameFor
  cases o.builderName with
  | some name => simp
  | none => simp

/-- **Raw and plain spellings.**  Let two structs be alike, and let both have a blueprint.

* Both shapes declare the same fields, none of them with a mark.  The descriptors, the setters of
  the descriptions and the names of all methods are equal.
* The shapes are equal iff the struct's name is marked in both declarations or in none.  So are the
  names of the records, since a mark of the struct's name stays a part of it.
* The builders have one name iff it is given or the marks of the struct's name are equal. -/
theorem spellings_alike (alike : x.Alike y) (hx : ofItem x = .ok d) (hy : ofItem y = .ok e)
    (hb : d.blueprint = .ok b) (hc : e.blueprint = .ok c) :
    (d.shape.fields = e.shape.fields ∧ (∀ f ∈ d.shape.fields, ¬ IsMarked f.name) ∧
      b.descriptors = c.descriptors ∧
      b.methods.map (fun m => (m.field, m.setter, m.query)) =
        c.methods.map fun m => (m.field, m.setter, m.query)) ∧
    ((d.shape = e.shape ↔ x.ident.raw = y.ident.raw) ∧
      (b.record = c.record ↔ x.ident.raw = y.ident.raw) ∧
      (IsMarked d.shape.name ↔ x.ident.raw = true)) ∧
    ∃ s t, d.describe = .ok s ∧ e.describe = .ok t ∧ s.setters = t.setters ∧
      (s.builder = t.builder ↔
        d.options.builderName.isSome = true ∨ x.ident.raw = y.ident.raw) ∧
      (s.builder = t.builder → b.builder = c.builder) := by
  -- Marks of fields are gone from the shape; that of the struct is still in its name.
  obtain ⟨fields, options⟩ := fields_shape_eq_of_alike alike hx hy
  obtain ⟨unmarked, marked⟩ := isMarked_iff hx
  have table := table_eq_of_fields fields
  have records := name_eq_iff alike hx hy
  have lined := linesUp hb
  have lined' := linesUp hc
  obtain ⟨s, described, builder⟩ := describe_builder hb
  obtain ⟨t, described', builder'⟩ := describe_builder hc
  have synthesized := (describe_eq_ok described).2
  have synthesized' := (describe_eq_ok described').2
  refine ⟨⟨fields, unmarked, ?_, ?_⟩, ⟨?_, ?_, marked⟩, s, t, described, described', ?_, ?_, ?_⟩
  · rw [lined.descriptors, lined'.descriptors, table]
  · rw [names_methods lined, names_methods lined', table, options]
  · -- the shapes are equal iff their names are
    rw [← records]
    constructor
    · exact congrArg Shape.name
    · intro same
      exact congrArg₂ Shape.mk same fields
  · rw [Blueprint.record, Blueprint.record, lined.definition, lined'.definition, records]
  · rw [Descriptors.setters_of_synthesize synthesized,
      Descriptors.setters_of_synthesize synthesized', options]
    show d.table.map _ = e.table.map _
    rw [table]
  · rw [Descriptors.builder_of_synthesize synthesized,
      Descriptors.builder_of_synthesize synthesized', ← options,
      builderNameFor_eq_iff]
    exact or_congr_right records
  · intro same
    rw [same, builder', Except.ok.injEq] at builder
    exact builder.symm

/-- A struct with one field, each with a mark on its name or without. -/
def dogItem (marked markedField : Bool) : Item where
  attributes := []
  visibility := .inherited
  ident := ⟨marked, "Dog", by decide⟩
  generics := {}
  body := .named [⟨[], .inherited, ⟨markedField, "name", by decide⟩, StorageType.text.ty⟩]

theorem alike_dogItem (m n m' n' : Bool) : (dogItem m n).Alike (dogItem m' n') where
  attributes := rfl
  visibility := rfl
  name := rfl
  generics := rfl
  body := .named (.cons ⟨rfl, rfl, rfl, rfl⟩ .nil)

theorem exists_blueprint_dogItem (m n : Bool) :
    ∃ d b, ofItem (dogItem m n) = .ok d ∧ d.blueprint = .ok b ∧
      d.shape.name = if m then "r#Dog" else "Dog" := by
  have run : ∀ m n, ((ofItem (dogItem m n)).toOption.bind fun d =>
      d.blueprint.toOption.map fun _ => d.shape.name) = some (if m then "r#Dog" else "Dog") := by
    decide +kernel
  obtain ⟨d, defined, rest⟩ := Option.bind_eq_some_iff.mp (run m n)
  obtain ⟨b, derived, named⟩ := Option.map_eq_some_iff.mp rest
  exact ⟨d, b, eq_ok_of_toOption defined, eq_ok_of_toOption derived, named⟩

/-- With marks on all names the struct declares the same fields, and is another record. -/
theorem spellings_alike_dog :
    ∃ d e b c, ofItem (dogItem false false) = .ok d ∧ ofItem (dogItem true true) = .ok e ∧
      d.blueprint = .ok b ∧ e.blueprint = .ok c ∧ d.shape.fields = e.shape.fields ∧
      b.descriptors = c.descriptors ∧ d.shape ≠ e.shape ∧ b.record ≠ c.record := by
  obtain ⟨d, b, defined, derived, -⟩ := exists_blueprint_dogItem false false
  obtain ⟨e, c, defined', derived', -⟩ := exists_blueprint_dogItem true true
  obtain ⟨⟨fields, -, descriptors, -⟩, ⟨shapes, records, -⟩, -⟩ :=
    spellings_alike (alike_dogItem _ _ _ _) defined defined' derived derived'
  have marks : ¬ (dogItem false false).ident.raw = (dogItem true true).ident.raw :=
    Bool.false_ne_true
  exact ⟨d, e, b, c, defined, defined', derived, derived', fields, descriptors,
    mt shapes.mp marks, mt records.mp marks⟩

/-- Raw and plain spellings may be different records: a mark on the struct's name is enough. -/
theorem exists_shape_ne_of_alike :
    ¬ ∀ (x y : Item) (d e : Definition) (b c : Blueprint), x.Alike y → ofItem x = .ok d →
      ofItem y = .ok e → d.blueprint = .ok b → e.blueprint = .ok c → d.shape = e.shape := by
  intro all
  obtain ⟨d, b, defined, derived, named⟩ := exists_blueprint_dogItem true false
  obtain ⟨e, c, defined', derived', named'⟩ := exists_blueprint_dogItem false false
  have same := all _ _ d e b c (alike_dogItem _ _ _ _) defined defined' derived derived'
  have names : "r#Dog" = "Dog" := named.symm.trans ((congrArg Shape.name same).trans named')
  exact absurd names (by decide)

end Definition

end Recordwright
