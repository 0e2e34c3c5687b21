import Recordwright.Derive.Blueprint
import Recordwright.Proofs.Derive.Definition

/-!
# Blueprints that line up

What a blueprint lists, when a definition has one.  The description of the builder has one setter
for each field that is kept, in order, so that pairing fields with setters drops nothing; each list
of the blueprint is then one entry for each kept field and its position, and the lists of the two
builds go on with the fields that are skipped (`Blueprint.LinesUp`, `Definition.linesUp`).

The kept fields have different names and so different identifiers, since a raw mark is no part of a
name.
-/

namespace Recordwright

open Source

/-! ### What a blueprint is made of -/

namespace Definition

variable {d : Definition} {b : Blueprint}

/-- A definition with a blueprint has a description of its builder, which gives the builder a name
that is an identifier. -/
theorem blueprint_eq_ok (h : d.blueprint = .ok b) :
    ∃ description builder, d.describe = .ok description ∧
      builderIdent description.builder = .ok builder ∧
      b = .ofParts d builder (d.kept.zip description.setters) := by
  unfold blueprint at h
  cases described : d.describe with
  | error e => simp [described] at h
  | ok description =>
    cases named : builderIdent description.builder with
    | error e => simp [described, named] at h
    | ok builder =>
      simp only [described, named, Except.ok.injEq] at h
      exact ⟨description, builder, rfl, named, h.symm⟩

/-- Pairing the kept fields with the setters of their descriptors drops nothing. -/
theorem zip_setters (d : Definition) (lead : String) :
    d.kept.zip (d.table.map (·.setter lead)) =
      d.kept.zipIdx.map fun p => (p.1, ((declaration p.1).descriptor p.2).setter lead) := by
  rw [table_eq, List.map_map]
  -- positions may be counted from any number
  generalize d.kept = fields
  generalize 0 = first
  induction fields generalizing first with
  | nil => rfl
  | cons f rest ih =>
    rw [List.zipIdx_cons, List.map_cons, List.map_cons, List.zip_cons_cons, ih]
    rfl

/-- Fields that are kept have different names. -/
theorem names_nodup (h : d.blueprint = .ok b) : (d.kept.map (·.name)).Nodup := by
  obtain ⟨description, -, described, -⟩ := blueprint_eq_ok h
  have names := (Shape.extract_eq_ok (describe_eq_ok described).1).2
  rw [kept_shape, List.map_map] at names
  exact names

end Definition

/-! ### Lists of a blueprint -/

/-- The methods of a kept field at its position. -/
def FieldDefinition.methodsAt (lead : String) (p : FieldDefinition × Nat) : FieldMethods :=
  ⟨p.1.name, Name.setterOf lead p.1.name, Name.queryOf p.1.name, p.1.ident, p.1.type, p.2⟩

/-- A list with an entry for each field: first the kept ones at their positions, then the skipped
ones. -/
def Definition.entries {α : Type} (d : Definition) (kept : FieldDefinition × Nat → α)
    (skipped : Ident → α) : List (Ident × α) :=
  (d.kept.zipIdx.map fun p => (p.1.ident, kept p)) ++
    d.skipped.map fun f => (f.ident, skipped f.ident)

/-- **The lists of a blueprint line up** with the fields that the definition keeps. -/
structure Blueprint.LinesUp (d : Definition) (b : Blueprint) : Prop where
  definition : b.definition = d
  descriptors : b.descriptors = d.table
  storage : b.storage = d.kept.map fun f => (f.ident, f.type)
  methods : b.methods = d.kept.zipIdx.map (FieldDefinition.methodsAt d.options.setterLead)
  bindings : b.bindings = d.kept.zipIdx.map fun p => ⟨p.1.ident, p.2⟩
  /-- The values that a fresh build must have are those of the required fields. -/
  takes : b.takes = (d.kept.zipIdx.filter (·.1.required)).map fun p => ⟨p.2, p.2⟩
  freshValues : b.freshValues =
    d.entries (fun p => if p.1.required then .taken p.2 else .orDefault p.2) fun _ => .default
  differences : b.differences = d.kept.zipIdx.map fun p => ⟨p.2, p.2, p.1.ident⟩
  derivedValues : b.derivedValues = d.entries (fun p => .orOrigin p.2 p.1.ident) .origin
  /-- No two of the kept fields have one name. -/
  names_nodup : (d.kept.map (·.name)).Nodup

/-- **Every blueprint lines up.** -/
theorem Definition.linesUp {d : Definition} {b : Blueprint} (h : d.blueprint = .ok b) :
    b.LinesUp d := by
  obtain ⟨description, builder, described, -, rfl⟩ := blueprint_eq_ok h
  rw [Descriptors.setters_of_synthesize (describe_eq_ok described).2, zip_setters]
  -- each list is a map over the pairs of fields and setters
  constructor
  case definition => rfl
  case descriptors =>
    rw [table_eq]
    exact List.map_map
  case storage =>
    rw [← List.zipIdx_map_fst 0 d.kept, List.map_map]
    simp only [List.zipIdx_map_fst]
    exact List.map_map
  case methods => exact List.map_map
  case bindings => exact List.map_map
  case takes => simp only [Blueprint.ofParts, List.filter_map, List.map_map]; rfl
  case freshValues => simp only [Blueprint.ofParts, List.map_map]; rfl
  case differences => exact List.map_map
  case derivedValues => simp only [Blueprint.ofParts, List.map_map]; rfl
  case names_nodup => exact names_nodup h

namespace Blueprint.LinesUp

variable {d : Definition} {b : Blueprint}

/-- Each method is that of a kept field at its position. -/
theorem mem_methods (h : b.LinesUp d) {m : FieldMethods} :
    m ∈ b.methods ↔ ∃ i f, d.kept[i]? = some f ∧
      m = FieldDefinition.methodsAt d.options.setterLead (f, i) := by
  rw [h.methods, List.mem_map]
  constructor
  · rintro ⟨⟨f, i⟩, member, rfl⟩
    exact ⟨i, f, List.mem_zipIdx_iff_getElem?.mp member, rfl⟩
  · rintro ⟨i, f, hf, rfl⟩
    exact ⟨(f, i), List.mem_zipIdx_iff_getElem?.mpr hf, rfl⟩

/-- No two of the kept fields have one identifier, since a raw mark is no part of a name. -/
theorem idents_nodup (h : b.LinesUp d) : (d.kept.map (·.ident)).Nodup := by
  refine List.Nodup.of_map Ident.name ?_
  rw [List.map_map]
  exact h.names_nodup

/-- A kept field has one position. -/
theorem position_unique (h : b.LinesUp d) {i j : Nat} {f g : FieldDefinition}
    (hf : d.kept[i]? = some f) (hg : d.kept[j]? = some g) (same : f.name = g.name) : i = j :=
  Descriptors.position_unique_of_nodup h.names_nodup hf hg same

/-- The methods of a kept field are those at its position. -/
theorem methodsOf?_eq (h : b.LinesUp d) {i : Nat} {f : FieldDefinition}
    (hf : d.kept[i]? = some f) : b.methodsOf? f.name =
      some (FieldDefinition.methodsAt d.options.setterLead (f, i)) := by
  unfold methodsOf?
  cases found : b.methods.find? (·.field == f.name) with
  | none =>
    have member := h.mem_methods.mpr ⟨i, f, hf, rfl⟩
    exact absurd BEq.rfl (List.find?_eq_none.mp found _ member)
  | some m =>
    obtain ⟨j, g, hg, rfl⟩ := h.mem_methods.mp (List.mem_of_find?_eq_some found)
    have same : g.name = f.name := by
      simpa [FieldDefinition.methodsAt] using List.find?_some found
    obtain rfl := h.position_unique hg hf same
    rw [Option.some.inj (hg.symm.trans hf)]

end Blueprint.LinesUp

end Recordwright
