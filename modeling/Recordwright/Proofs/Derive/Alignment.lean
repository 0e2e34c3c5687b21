import Recordwright.Proofs.Derive.Calls
import Recordwright.Proofs.Derive.Emitted

/-!
# Generated code is aligned

Generated code is put together from lists that are paired by position, and only the names of fields
that are kept decide which entries belong together.  This file says what one position has: the
description's setter, the descriptor, the builder's field with its methods, the value that a build
takes out of it, and what both builds make of this value all belong to one field
(`Blueprint.AlignedAt`).

Builders are looked at as they come about, by any calls (`TypedBuilder.IsMadeBy`).  A method of
theirs stores into the field of its own position and sets the bit of this position.

All this is said of the tokens that are emitted (`Blueprint.Emits`).  The names that a build binds
are read off its tree (`Code.Routine.names`): those of its values are made of numbers alone, and so
no field can have a say in them.
-/

namespace Recordwright

open Source

/-! ### Positions -/

/-- What stands at a position belongs to this field. -/
structure Blueprint.AlignedAt (b : Blueprint) (s : Setter) (i : Nat) (f : FieldDefinition) :
    Prop where
  field : s.field = f.name
  parameterType : s.parameterType = typeName f.type
  required : s.required = f.required
  ordinal : s.ordinal = i
  descriptor : b.descriptors[i]? = some ⟨f.name, typeName f.type, f.required, i⟩
  storage : b.storage[i]? = some (f.ident, f.type)
  methods : b.methods[i]? = some ⟨f.name, s.method, s.query, f.ident, f.type, i⟩
  binding : b.bindings[i]? = some ⟨f.ident, i⟩
  freshValue : b.freshValues[i]? = some (f.ident, if f.required then .taken i else .orDefault i)
  difference : b.differences[i]? = some ⟨i, i, f.ident⟩
  derivedValue : b.derivedValues[i]? = some (f.ident, .orOrigin i f.ident)

section

variable {d : Definition} {b : Blueprint} {i : Nat} {f : FieldDefinition}

theorem getElem?_zipIdx_kept (hf : d.kept[i]? = some f) : d.kept.zipIdx[i]? = some (f, i) := by
  rw [List.getElem?_zipIdx, hf, Option.map_some, Nat.zero_add]

/-- The entries for the kept fields come first. -/
theorem Definition.getElem?_entries {α : Type} {kept : FieldDefinition × Nat → α}
    {skipped : Ident → α} (hf : d.kept[i]? = some f) :
    (d.entries kept skipped)[i]? = some (f.ident, kept (f, i)) := by
  have inside : i < (d.kept.zipIdx.map fun p => (p.1.ident, kept p)).length := by
    rw [List.length_map, List.length_zipIdx]
    exact (List.getElem?_eq_some_iff.mp hf).1
  unfold entries
  rw [List.getElem?_append_left inside, List.getElem?_map, getElem?_zipIdx_kept hf]
  rfl

/-- **What a blueprint has at the position of a kept field belongs to this field.** -/
theorem Blueprint.LinesUp.alignedAt (h : b.LinesUp d) (hf : d.kept[i]? = some f) :
    b.AlignedAt (((Definition.declaration f).descriptor i).setter d.options.setterLead) i f where
  field := rfl
  parameterType := rfl
  required := rfl
  ordinal := rfl
  descriptor := by
    rw [h.descriptors, d.getElem?_table, hf]
    rfl
  storage := by
    rw [h.storage, List.getElem?_map, hf]
    rfl
  methods := by
    rw [h.methods, List.getElem?_map, getElem?_zipIdx_kept hf]
    rfl
  binding := by
    rw [h.bindings, List.getElem?_map, getElem?_zipIdx_kept hf]
    rfl
  freshValue := by rw [h.freshValues, Definition.getElem?_entries hf]
  difference := by
    rw [h.differences, List.getElem?_map, getElem?_zipIdx_kept hf]
    rfl
  derivedValue := by rw [h.derivedValues, Definition.getElem?_entries hf]

/-- Behind the positions of the kept fields there is nothing. -/
theorem Blueprint.LinesUp.lengths (h : b.LinesUp d) :
    b.descriptors.length = b.size ∧ b.storage.length = b.size ∧ b.methods.length = b.size ∧
      b.bindings.length = b.size ∧ b.differences.length = b.size := by
  have size : b.size = d.kept.length := TypedBuilder.size_eq h
  rw [h.descriptors, h.storage, h.methods, h.bindings, h.differences, d.table_eq, size]
  simp only [List.length_map, List.length_zipIdx, and_self]

/-- A fresh build asks for the values of the required fields. -/
theorem Blueprint.LinesUp.mem_takes (h : b.LinesUp d) {t : Take} :
    t ∈ b.takes ↔ ∃ i f, d.kept[i]? = some f ∧ f.required = true ∧ t = ⟨i, i⟩ := by
  rw [h.takes, List.mem_map]
  constructor
  · rintro ⟨⟨f, i⟩, member, rfl⟩
    obtain ⟨there, required⟩ := List.mem_filter.mp member
    exact ⟨i, f, List.mem_zipIdx_iff_getElem?.mp there, required, rfl⟩
  · rintro ⟨i, f, hf, required, rfl⟩
    have there : (f, i) ∈ d.kept.zipIdx := List.mem_zipIdx_iff_getElem?.mpr hf
    exact ⟨(f, i), List.mem_filter.mpr ⟨there, required⟩, rfl⟩

/-- The positions that a fresh build asks for are those of the required fields. -/
theorem Blueprint.LinesUp.exists_take_iff (h : b.LinesUp d) :
    (∃ take ∈ b.takes, take.ordinal = i) ↔ ∃ f, d.kept[i]? = some f ∧ f.required = true := by
  constructor
  · rintro ⟨take, member, rfl⟩
    obtain ⟨i, f, hf, required, rfl⟩ := h.mem_takes.mp member
    exact ⟨f, hf, required⟩
  · rintro ⟨f, hf, required⟩
    exact ⟨⟨i, i⟩, h.mem_takes.mpr ⟨i, f, hf, required, rfl⟩, rfl⟩

/-- A fresh build asks with the descriptor of the field whose value it asks for. -/
theorem Blueprint.LinesUp.take_aligned (h : b.LinesUp d) {t : Take} (member : t ∈ b.takes) :
    t.ordinal < b.size ∧ ∃ f e, d.kept[t.ordinal]? = some f ∧
      b.bindings[t.slot]? = some ⟨f.ident, t.slot⟩ ∧ b.descriptors[t.ordinal]? = some e ∧
      e.name = f.name ∧ e.required = true := by
  obtain ⟨i, f, hf, required, rfl⟩ := h.mem_takes.mp member
  have aligned := h.alignedAt hf
  have inside : i < b.size := by
    rw [TypedBuilder.size_eq h]
    exact (List.getElem?_eq_some_iff.mp hf).1
  exact ⟨inside, f, _, hf, aligned.binding, aligned.descriptor, rfl, required⟩

/-- Kept and skipped fields together are all fields. -/
theorem Definition.kept_append_skipped_perm (d : Definition) :
    (d.kept ++ d.skipped).Perm d.fields := by
  unfold kept skipped
  exact List.perm_append_comm.trans (List.filter_append_perm (·.skipped) d.fields)

/-- A list of entries for all fields has each field once. -/
theorem Definition.map_fst_entries_perm {α : Type} (d : Definition)
    (kept : FieldDefinition × Nat → α) (skipped : Ident → α) :
    ((d.entries kept skipped).map (·.1)).Perm (d.fields.map (·.ident)) := by
  rw [d.map_fst_entries]
  exact d.kept_append_skipped_perm.map (·.ident)

end

/-! ### Names in a build -/

/-- Numbers have texts of their own. -/
theorem toString_injective : Function.Injective (toString : Nat → String) := by
  -- a number is read back from the digits of its text
  have back : Function.LeftInverse (fun s : String => Nat.ofDigitChars 10 s.toList 0) toString := by
    intro n
    show Nat.ofDigitChars 10 n.repr.toList 0 = n
    rw [Nat.toList_repr, Nat.ofDigitChars_ten_toDigits]
  exact back.injective

theorem Code.slotText_injective : Function.Injective slotText := by
  intro i j same
  exact toString_injective ((String.append_right_inj _).mp same)

section

open Code

variable {d : Definition} {b : Blueprint}

/-- The arm for builders without an origin binds the values that it takes. -/
theorem Blueprint.names_freshArm (b : Blueprint) :
    b.freshArm.names = (b.takes.map (·.slot)).map slotText := by
  rw [Arm.names, freshArm, List.flatMap_cons, List.flatMap_map, List.map_map]
  exact List.map_eq_flatMap.symm

/-- No field has a say in the names that a build binds, only how many are kept. -/
theorem Blueprint.LinesUp.names_routine (h : b.LinesUp d) :
    b.routine.names =
      ["__record", "__fields", "__state"] ++ (List.range b.size).map slotText := by
  have slots : b.bindings.map (·.slot) = List.range b.size := by
    rw [h.bindings, Blueprint.size, h.definition, List.map_map, List.range_eq_range',
      ← List.zipIdx_map_snd]
    rfl
  have bound : b.routine.names =
      ["__record", "__fields", "__state"] ++ (b.bindings.map (·.slot)).map slotText := by
    rw [List.map_map]
    simp only [Routine.names, routine, List.flatMap_cons, List.flatMap_nil, Statement.names,
      Code.Pattern.names, List.map_cons, List.map_map, List.append_nil]
    rfl
  rw [bound, slots]

/-- A fresh build takes values under the names that they have. -/
theorem Blueprint.LinesUp.names_freshArm (h : b.LinesUp d) :
    b.freshArm.names.Sublist ((List.range b.size).map slotText) := by
  have slots : b.takes.map (·.slot) = (d.kept.zipIdx.filter (·.1.required)).map (·.2) := by
    rw [h.takes, List.map_map]
    rfl
  rw [b.names_freshArm, slots, TypedBuilder.size_eq h, List.range_eq_range', ← List.zipIdx_map_snd]
  exact (List.filter_sublist.map _).map _

/-- The names that a build binds differ from each other. -/
theorem Blueprint.LinesUp.names_nodup_routine (h : b.LinesUp d) :
    (b.routine.names ++ b.derivedArm.names).Nodup := by
  let fixed := ["__record", "__fields", "__state", "__origin", "__changed"]
  have order : (b.routine.names ++ b.derivedArm.names).Perm
      (fixed ++ (List.range b.size).map slotText) := by
    rw [h.names_routine, List.append_assoc]
    exact List.Perm.append_left _ List.perm_append_comm
  rw [order.nodup_iff, List.nodup_append]
  refine ⟨by decide, List.nodup_range.map slotText_injective, ?_⟩
  intro name known slot member same
  obtain ⟨i, -, rfl⟩ := List.mem_map.mp member
  subst same
  -- each of the other names is shorter than what all names of values begin with
  have short : ∀ w ∈ fixed, w.length < "__recordkit_v".length := by decide
  have long := short _ known
  rw [slotText, String.length_append] at long
  omega

end

/-! ### Methods at work -/

namespace TypedBuilder

variable {ν : Type} {d : Definition} {b : Blueprint} {t : TypedBuilder ν} {i j : Nat}
  {f g : FieldDefinition}

/-- A builder, fresh or derived, after any calls of its methods. -/
def IsMadeBy (b : Blueprint) (t : TypedBuilder ν) : Prop :=
  ∃ calls : List (FieldMethods × ν), (∀ c ∈ calls, c.1 ∈ b.methods) ∧
    (t = b.fresh.callAll calls ∨ ∃ origin, t = (b.derive origin).callAll calls)

/-- Builders are well formed however they came about. -/
theorem IsMadeBy.wellFormed (h : t.IsMadeBy b) (lined : b.LinesUp d) : t.WellFormed d := by
  obtain ⟨calls, methods, rfl | ⟨origin, rfl⟩⟩ := h
  · exact (WellFormed.fresh lined).callAll lined methods
  · exact (WellFormed.derive lined origin).callAll lined methods

/-- A call stores in the field of its own and in no other. -/
theorem WellFormed.lookup_assign (h : t.WellFormed d) (lined : b.LinesUp d)
    (hf : d.kept[i]? = some f) (hg : d.kept[j]? = some g) (lead : String) (v : ν) :
    ((FieldDefinition.methodsAt lead (f, i)).assign v t).storage.lookup g.ident =
      if j = i then some (some v) else t.storage.lookup g.ident := by
  rw [(h.assign lined hf lead v).lookup_storage lined hg, h.stored_assign lined hf,
    h.lookup_storage lined hg]
  split <;> rfl

/-- A call sets the bit of its own position and no other. -/
theorem WellFormed.isAssigned_assign (h : t.WellFormed d) (hf : d.kept[i]? = some f)
    (lead : String) (v : ν) (j : Nat) :
    ((FieldDefinition.methodsAt lead (f, i)).assign v t).state.isAssigned j =
      (t.state.isAssigned j || decide (j = i)) := by
  have bit : i < t.state.assigned.size := by
    rw [h.assigned_size]
    exact (List.getElem?_eq_some_iff.mp hf).1
  exact BuildState.isAssigned_mark h.assigned_tight bit j

end TypedBuilder

/-! ### Aligned code -/

section

variable {d : Definition} {b : Blueprint}

/-- The description has a setter for each field that is kept, and pairing them drops nothing. -/
theorem Definition.zip_describe {description : Description}
    (h : d.describe = .ok description) :
    description.setters.length = d.kept.length ∧
      (d.kept.zip description.setters).map (·.1) = d.kept ∧
      (d.kept.zip description.setters).map (·.2) = description.setters := by
  obtain ⟨-, synthesized⟩ := describe_eq_ok h
  have length : description.setters.length = d.kept.length := by
    rw [Descriptors.setters_of_synthesize synthesized, List.length_map, table_eq, List.length_map,
      List.length_zipIdx]
  refine ⟨length, ?_, ?_⟩
  · exact List.map_fst_zip length.ge
  · exact List.map_snd_zip length.le

open TypedBuilder in
/-- **Generated code is aligned with the descriptors.** Let a definition have a blueprint.  Fields
may be skipped anywhere between those that are kept.

* The description of its builder has one setter for each kept field.  Pairing them drops nothing,
  and what stands at a position belongs to the field there.
* No list has more entries than there are kept fields, and the table of descriptors is what is
  extracted of the definition's shape.
* However a builder came about, the method of a field stores into this field of the builder and
  into no other, and sets the bit of its position and no other, for which the field's other method
  asks.
* A fresh build asks for the values of the required fields.  The descriptor that it asks with is in
  the table and has the name of the field out of which the value was taken.
* The names that a build binds, in its body and in the arm of a derived build, differ from each
  other and are the same for all definitions with as many kept fields.  The arm of a fresh build
  binds some of them again, none twice: those of the values that it asks for.
* Both kinds of new structs are given each field once.
* The table, the struct of the builder, its methods and the body of its build, as they are emitted,
  are those of these lists. -/
theorem Definition.generated_code_aligns (h : d.blueprint = .ok b) :
    (∃ description, d.describe = .ok description ∧
      description.setters.length = d.kept.length ∧ b.size = d.kept.length ∧
      (d.kept.zip description.setters).map (·.1) = d.kept ∧
      (d.kept.zip description.setters).map (·.2) = description.setters ∧
      ∀ i f, d.kept[i]? = some f →
        ∃ s, description.setters[i]? = some s ∧ b.AlignedAt s i f) ∧
    ((b.descriptors.length = b.size ∧ b.storage.length = b.size ∧ b.methods.length = b.size ∧
        b.bindings.length = b.size ∧ b.differences.length = b.size) ∧
      d.shape.extract d.options.limits = .ok ⟨d.name, b.descriptors⟩) ∧
    (∀ {ν : Type} (t : TypedBuilder ν), t.IsMadeBy b →
      ∀ i f m, d.kept[i]? = some f → b.methods[i]? = some m →
        m.isAssigned t = t.state.isAssigned i ∧
        ∀ v, (∀ j g, d.kept[j]? = some g → (m.assign v t).storage.lookup g.ident =
            if j = i then some (some v) else t.storage.lookup g.ident) ∧
          ∀ j, (m.assign v t).state.isAssigned j = (t.state.isAssigned j || decide (j = i))) ∧
    ((∀ i, (∃ take ∈ b.takes, take.ordinal = i) ↔
        ∃ f, d.kept[i]? = some f ∧ f.required = true) ∧
      ∀ take ∈ b.takes, take.ordinal < b.size ∧
        ∃ f e, d.kept[take.ordinal]? = some f ∧
          b.bindings[take.slot]? = some ⟨f.ident, take.slot⟩ ∧
          b.descriptors[take.ordinal]? = some e ∧ e.name = f.name ∧ e.required = true) ∧
    (b.routine.names =
        ["__record", "__fields", "__state"] ++ (List.range b.size).map Code.slotText ∧
      b.derivedArm.names = ["__origin", "__changed"] ∧
      (b.routine.names ++ b.derivedArm.names).Nodup ∧
      b.freshArm.names.Sublist ((List.range b.size).map Code.slotText)) ∧
    ((b.freshArm.fields.map (·.1)).Perm (d.fields.map (·.ident)) ∧
      (b.derivedArm.fields.map (·.1)).Perm (d.fields.map (·.ident))) ∧
    b.Emits := by
  have lined := linesUp h
  obtain ⟨description, -, described, -⟩ := blueprint_eq_ok h
  obtain ⟨extracted, synthesized⟩ := describe_eq_ok described
  have size : b.size = d.kept.length := TypedBuilder.size_eq lined
  refine ⟨⟨description, described, ?_⟩, ⟨lined.lengths, ?_⟩, ?_, ⟨?_, ?_⟩, ?_, ⟨?_, ?_⟩, b.emits⟩
  · obtain ⟨length, firsts, seconds⟩ := zip_describe described
    refine ⟨length, size, firsts, seconds, ?_⟩
    intro i f hf
    refine ⟨_, ?_, lined.alignedAt hf⟩
    rw [Descriptors.setters_of_synthesize synthesized, List.getElem?_map, d.getElem?_table, hf]
    rfl
  · rw [lined.descriptors, extracted]
  · intro ν t made i f m hf hm
    have wellFormed := made.wellFormed lined
    rw [lined.methods, List.getElem?_map, getElem?_zipIdx_kept hf] at hm
    obtain rfl := Option.some.inj hm
    refine ⟨rfl, ?_⟩
    intro v
    constructor
    · intro j g hg
      exact wellFormed.lookup_assign lined hf hg _ v
    · exact wellFormed.isAssigned_assign hf _ v
  · exact fun i => lined.exists_take_iff
  · exact fun take member => lined.take_aligned member
  · exact ⟨lined.names_routine, rfl, lined.names_nodup_routine, lined.names_freshArm⟩
  · rw [Blueprint.freshArm, List.map_map, lined.freshValues]
    exact d.map_fst_entries_perm _ _
  · rw [Blueprint.derivedArm, List.map_map, lined.derivedValues]
    exact d.map_fst_entries_perm _ _

/-- The source of a struct of which every other field is skipped. -/
def laneSource : String :=
  "struct Lane \x7b #[record(skip)] first: u8, r#type: String, mark: PhantomData<u8>, " ++
    "#[record(required)] id: Vec<u8>, #[record(skip)] last: u8 \x7d"

/-- Two of the five fields of `laneSource` are kept, and what is at the second position belongs to
the fourth field. -/
theorem Definition.generated_code_aligns_lane :
    ∃ d b description s, derivedOf? laneSource = some (d, b) ∧ d.describe = .ok description ∧
      description.setters.length = 2 ∧ description.setters[1]? = some s ∧ s.field = "id" ∧
      s.ordinal = 1 ∧ b.descriptors[1]? = some ⟨"id", "Vec<u8>", true, 1⟩ ∧
      (∃ take ∈ b.takes, take.ordinal = 1) ∧
      b.routine.names =
        ["__record", "__fields", "__state", "__recordkit_v0", "__recordkit_v1"] ∧
      (b.freshArm.fields.map (·.1.text)).Perm ["first", "r#type", "mark", "id", "last"] ∧
      (∃ first second, b.methods = [first, second] ∧ second.setter = "with_id" ∧
        second.target.text = "id" ∧
        Token.Within (Blueprint.methodTokens first ++ Blueprint.methodTokens second) b.tokens) ∧
      Token.Within b.buildTokens b.tokens := by
  have facts : (derivedOf? laneSource).map (fun p => (
      p.1.kept.map (fun f => (f.name, typeName f.type, f.required)),
      p.1.fields.map (·.ident.text),
      p.2.methods.map (fun m => (m.setter, m.target.text)))) =
      some ([("type", "String", false), ("id", "Vec<u8>", true)],
        ["first", "r#type", "mark", "id", "last"],
        [("with_type", "r#type"), ("with_id", "id")]) := by
    decide +kernel
  obtain ⟨⟨d, b⟩, found, facts⟩ := Option.map_eq_some_iff.mp facts
  obtain ⟨item, -, -, derived⟩ := derivedOf?_eq_some found
  obtain ⟨kept, texts, methods⟩ : _ ∧ _ ∧ _ := by simpa only [Prod.mk.injEq] using facts
  obtain ⟨⟨description, described, length, size, -, -, aligned⟩, -, -, ⟨asked, -⟩, ⟨names, -⟩,
    ⟨fresh, -⟩, emits⟩ := Definition.generated_code_aligns derived
  have two : d.kept.length = 2 := by simpa using congrArg List.length kept
  have second := congrArg (·[1]?) kept
  rw [List.getElem?_map] at second
  obtain ⟨f, hf, said⟩ := Option.map_eq_some_iff.mp second
  obtain ⟨name, type, required⟩ : f.name = "id" ∧ typeName f.type = "Vec<u8>" ∧
      f.required = true := by simpa using said
  obtain ⟨s, setter, there⟩ := aligned 1 f hf
  refine ⟨d, b, description, s, found, described, length.trans two, setter,
    there.field.trans name, there.ordinal, ?_, (asked 1).mpr ⟨f, hf, required⟩, ?_, ?_, ?_,
    emits.build⟩
  · rw [there.descriptor, name, type, required]
  · rw [names, size, two]
    rfl
  · have once := fresh.map Ident.text
    rw [List.map_map, List.map_map] at once
    exact once.trans (List.Perm.of_eq texts)
  · obtain ⟨m, rest, listed, -, tail⟩ := List.map_eq_cons_iff.mp methods
    obtain ⟨n, none, rfl, facts, nothing⟩ := List.map_eq_cons_iff.mp tail
    obtain rfl := List.map_eq_nil_iff.mp nothing
    obtain ⟨setter, target⟩ := Prod.mk.inj facts
    refine ⟨m, n, listed, setter, target, ?_⟩
    simpa [listed] using emits.methods

end

end Recordwright
