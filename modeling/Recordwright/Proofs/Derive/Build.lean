import Recordwright.Proofs.Derive.Run

/-!
# Builds of derived builders

The two builds of a well-formed builder whose blueprint lines up.  All look-ups of a build succeed,
so it is never stuck:

* `WellFormed.build_rejected` and `WellFormed.build_fresh` — a fresh build fails iff a required
  field is missing, and else makes `freshStruct`;
* `WellFormed.build_unchanged` and `WellFormed.build_changed` — a derived build hands back its
  origin unless a stored value differs from the origin's (`Changes`), and else makes the struct
  whose values are `derivedValues`.

Both structs are said entry by entry.  `IsFresh` and `IsDerived` say what the look-up of a field
finds in them.  A skipped field of a struct has an identifier that no kept field has.  A definition
does not make sure of that, so what the look-up of a skipped field finds is said under this
condition.
-/

namespace Recordwright

open Source

/-! ### Entries for all fields -/

namespace Definition

variable {α : Type} {d : Definition} {kept : FieldDefinition × Nat → α} {skipped : Ident → α}
  {f : FieldDefinition}

/-- There is one entry for each field, first for those kept and then for those skipped. -/
theorem map_fst_entries (d : Definition) (kept : FieldDefinition × Nat → α)
    (skipped : Ident → α) :
    (d.entries kept skipped).map (·.1) = (d.kept ++ d.skipped).map (·.ident) := by
  unfold entries
  rw [List.map_append, List.map_append, List.map_map, List.map_map,
    ← List.zipIdx_map_fst 0 d.kept, List.map_map, List.zipIdx_map_fst]
  rfl

/-- An entry is that of a kept field at its position, or that of a skipped one. -/
theorem mem_entries {e : Ident × α} : e ∈ d.entries kept skipped ↔
    (∃ i f, d.kept[i]? = some f ∧ e = (f.ident, kept (f, i))) ∨
      ∃ f ∈ d.skipped, e = (f.ident, skipped f.ident) := by
  unfold entries
  rw [List.mem_append, List.mem_map, List.mem_map]
  constructor
  · rintro (⟨⟨f, i⟩, hf, rfl⟩ | ⟨f, hf, rfl⟩)
    · exact .inl ⟨i, f, List.mem_zipIdx_iff_getElem?.mp hf, rfl⟩
    · exact .inr ⟨f, hf, rfl⟩
  · rintro (⟨i, f, hf, rfl⟩ | ⟨f, hf, rfl⟩)
    · exact .inl ⟨(f, i), List.mem_zipIdx_iff_getElem?.mpr hf, rfl⟩
    · exact .inr ⟨f, hf, rfl⟩

/-- What is made of the entries, one by one. -/
theorem map_entries {β : Type} (d : Definition) (kept : FieldDefinition × Nat → α)
    (skipped : Ident → α) (g : Ident → α → β) :
    (d.entries kept skipped).map (fun e => (e.1, g e.1 e.2)) =
      d.entries (fun p => g p.1.ident (kept p)) fun i => g i (skipped i) := by
  unfold entries
  rw [List.map_append, List.map_map, List.map_map]
  rfl

/-- Entries depend on the fields at their positions alone. -/
theorem entries_congr {kept' : FieldDefinition × Nat → α} (skipped : Ident → α)
    (h : ∀ (i : Nat) (f : FieldDefinition), d.kept[i]? = some f → kept (f, i) = kept' (f, i)) :
    d.entries kept skipped = d.entries kept' skipped := by
  unfold entries
  congr 1
  refine List.map_congr_left ?_
  rintro ⟨f, i⟩ member
  rw [h i f (List.mem_zipIdx_iff_getElem?.mp member)]

/-- The entry of a field that is skipped. -/
theorem lookup_entries_skipped (kept : FieldDefinition × Nat → α) (skipped : Ident → α)
    (hf : f ∈ d.skipped) (other : f.ident ∉ d.kept.map (·.ident)) :
    (d.entries kept skipped).lookup f.ident = some (skipped f.ident) := by
  -- The entries of kept fields come first, so none of them may have the identifier.
  have none : (d.kept.zipIdx.map fun p => (p.1.ident, kept p)).lookup f.ident = none := by
    refine lookup_map_eq_none kept fun member => other ?_
    obtain ⟨⟨g, j⟩, hg, same⟩ := List.mem_map.mp member
    have inKept : g ∈ d.kept := List.mem_of_getElem? (List.mem_zipIdx_iff_getElem?.mp hg)
    exact same ▸ List.mem_map_of_mem inKept
  have graph : d.skipped.map (fun f => (f.ident, skipped f.ident)) =
      (d.skipped.map (·.ident)).map fun i => (i, skipped i) := by
    rw [List.map_map]
    rfl
  rw [Definition.entries, List.lookup_append, none, Option.none_or, graph]
  exact List.lookup_graph skipped (List.mem_map_of_mem hf)

end Definition

namespace Blueprint.LinesUp

variable {α : Type} {d : Definition} {b : Blueprint} {i : Nat} {f : FieldDefinition}

/-- The entry of a field that is kept. -/
theorem lookup_entries (h : b.LinesUp d) (kept : FieldDefinition × Nat → α) (skipped : Ident → α)
    (hf : d.kept[i]? = some f) : (d.entries kept skipped).lookup f.ident = some (kept (f, i)) := by
  have nodup : (d.kept.zipIdx.map (·.1.ident)).Nodup := by
    have idents : d.kept.zipIdx.map (·.1.ident) = d.kept.map (·.ident) := by
      conv_rhs => rw [← List.zipIdx_map_fst 0 d.kept, List.map_map]
      rfl
    rw [idents]
    exact h.idents_nodup
  have member : (f, i) ∈ d.kept.zipIdx := List.mem_zipIdx_iff_getElem?.mpr hf
  rw [Definition.entries, List.lookup_append, lookup_map nodup kept member]
  rfl

end Blueprint.LinesUp

namespace TypedBuilder

variable {ν : Type} {d : Definition} {b : Blueprint} {t : TypedBuilder ν} {i : Nat}
  {f : FieldDefinition} {traits : FieldTraits ν}

/-! ### The values of a build -/

/-- The values that a build works on: what is stored, by positions. -/
def locals (d : Definition) (t : TypedBuilder ν) : Locals (Option ν) :=
  d.kept.zipIdx.map fun p => (p.2, t.stored p.2)

/-- All values are bound. -/
theorem WellFormed.bind_eq (h : t.WellFormed d) (lined : b.LinesUp d) :
    bind t.storage b.bindings = some (locals d t) := by
  rw [lined.bindings]
  exact bind_map fun p hp => h.lookup_storage lined (List.mem_zipIdx_iff_getElem?.mp hp)

/-- The value bound to a number is what is stored at this position. -/
theorem lookup_locals (t : TypedBuilder ν) (hf : d.kept[i]? = some f) :
    (locals d t).lookup i = some (t.stored i) := by
  have nodup : (d.kept.zipIdx.map (·.2)).Nodup := by
    rw [List.zipIdx_map_snd]
    exact List.nodup_range'
  have member : (f, i) ∈ d.kept.zipIdx := List.mem_zipIdx_iff_getElem?.mpr hf
  exact lookup_map nodup (fun p => t.stored p.2) member

/-! ### Fresh builds -/

/-- The fields that a fresh build lacks. -/
def missing (d : Definition) (t : TypedBuilder ν) : List Descriptor := t.state.missing d.table

/-- A fresh build lacks no field iff something is stored for each required one. -/
theorem WellFormed.missing_eq_nil_iff (h : t.WellFormed d) :
    missing d t = [] ↔ ∀ (i : Nat) (f : FieldDefinition), d.kept[i]? = some f →
      f.required = true → ∃ v, t.stored i = some v := by
  have numbered : ∀ (i : Nat) (e : Descriptor), d.table[i]? = some e → e.ordinal = i := by
    intro i e he
    rw [d.getElem?_table] at he
    obtain ⟨f, -, rfl⟩ := Option.map_eq_some_iff.mp he
    rfl
  unfold missing
  rw [BuildState.missing_eq_nil_iff numbered]
  simp only [h.isAssigned_eq, Option.isSome_iff_exists, d.getElem?_table, Option.map_eq_some_iff]
  constructor
  · intro all i f hf required
    exact all i _ ⟨f, hf, rfl⟩ required
  · rintro all i e ⟨f, hf, rfl⟩ required
    exact all i f hf required

/-- The struct that a fresh build makes: what is stored, and defaults for all other fields. -/
def freshStruct (d : Definition) (traits : FieldTraits ν) (t : TypedBuilder ν) : StructValue ν :=
  d.entries (fun p => (t.stored p.2).getD (traits.default p.1.ident)) traits.default

/-- What a fresh build makes, field by field. -/
structure IsFresh (d : Definition) (traits : FieldTraits ν) (t : TypedBuilder ν)
    (value : StructValue ν) : Prop where
  idents : value.map (·.1) = (d.kept ++ d.skipped).map (·.ident)
  kept : ∀ (i : Nat) (f : FieldDefinition), d.kept[i]? = some f →
    value.lookup f.ident = some ((t.stored i).getD (traits.default f.ident))
  skipped : ∀ f ∈ d.skipped, f.ident ∉ d.kept.map (·.ident) →
    value.lookup f.ident = some (traits.default f.ident)

/-- The struct of a fresh build is what it says field by field. -/
theorem isFresh_freshStruct (lined : b.LinesUp d) (traits : FieldTraits ν) (t : TypedBuilder ν) :
    IsFresh d traits t (freshStruct d traits t) where
  idents := d.map_fst_entries _ _
  kept := fun _ _ hf => lined.lookup_entries _ _ hf
  skipped := fun _ hf other => Definition.lookup_entries_skipped _ _ hf other

/-- Once no required field is missing, each value that must be there is: its number is the position
of a required field. -/
theorem WellFormed.takes_present (h : t.WellFormed d) (lined : b.LinesUp d)
    (none : missing d t = []) :
    ∀ k ∈ b.takes, (∃ e, b.descriptors[k.ordinal]? = some e) ∧
      ∃ v, (locals d t).lookup k.slot = some (some v) := by
  intro k hk
  rw [lined.takes] at hk
  obtain ⟨⟨f, i⟩, member, rfl⟩ := List.mem_map.mp hk
  obtain ⟨place, required⟩ := List.mem_filter.mp member
  have hf : d.kept[i]? = some f := List.mem_zipIdx_iff_getElem?.mp place
  obtain ⟨v, stored⟩ := h.missing_eq_nil_iff.mp none i f hf required
  refine ⟨⟨(Definition.declaration f).descriptor i, ?_⟩, v, ?_⟩
  · rw [lined.descriptors, d.getElem?_table, hf]
    rfl
  · rw [lookup_locals t hf, stored]

/-- Once no required field is missing, all values that must be there are taken. -/
theorem WellFormed.takeAll_eq_ok (h : t.WellFormed d) (lined : b.LinesUp d)
    (none : missing d t = []) (record : String) :
    ∃ taken, takeAll record b.descriptors (locals d t) b.takes = some (.ok taken) ∧
      ∀ (i : Nat) (f : FieldDefinition), d.kept[i]? = some f → f.required = true →
        taken.lookup i = t.stored i := by
  obtain ⟨taken, ok, numbers⟩ := TypedBuilder.takeAll_eq_ok record (h.takes_present lined none)
  refine ⟨taken, ok, fun i f hf required => ?_⟩
  obtain ⟨v, stored⟩ := h.missing_eq_nil_iff.mp none i f hf required
  rw [stored]
  refine numbers ⟨i, i⟩ ?_ v (by rw [lookup_locals t hf, stored])
  have member : (f, i) ∈ d.kept.zipIdx := List.mem_zipIdx_iff_getElem?.mpr hf
  rw [lined.takes]
  exact List.mem_map.mpr ⟨(f, i), List.mem_filter.mpr ⟨member, required⟩, rfl⟩

/-- **Fresh build, rejected.** If a required field is missing, all that are missing are named. -/
theorem WellFormed.build_rejected (h : t.WellFormed d) (lined : b.LinesUp d)
    (traits : FieldTraits ν) (ho : t.state.origin = none) (some : missing d t ≠ []) (heap : Heap) :
    t.build b traits heap =
      .some ⟨.error (BuildState.missingError b.record (missing d t)), heap,
        [.rejected b.record (missing d t).length]⟩ := by
  unfold build
  rw [h.bind_eq lined]
  simp only [ho, BuildState.checkRequired_eq, lined.descriptors, Option.bind_eq_bind,
    Option.bind_some]
  rw [missing] at some
  rw [if_neg some]
  rfl

/-- Once the values that must be there are taken, the fields of a fresh build can be made. -/
theorem WellFormed.fields_freshValues (h : t.WellFormed d) (lined : b.LinesUp d)
    (traits : FieldTraits ν) (none : missing d t = []) {taken : Locals ν}
    (numbers : ∀ (i : Nat) (f : FieldDefinition), d.kept[i]? = some f → f.required = true →
      taken.lookup i = t.stored i) :
    fields (freshValue traits (locals d t) taken) b.freshValues =
      some (freshStruct d traits t) := by
  have there := h.missing_eq_nil_iff.mp none
  rw [fields_eq_some_iff, lined.freshValues, freshStruct,
    d.map_entries _ _ (freshValue traits (locals d t) taken), d.map_entries _ _ fun _ v => some v]
  refine Definition.entries_congr _ fun i f hf => ?_
  -- a required field has a value that was taken, any other one may need its default
  cases required : f.required with
  | true =>
    obtain ⟨v, stored⟩ := there i f hf required
    rw [if_pos rfl, freshValue, numbers i f hf required, stored]
    rfl
  | false =>
    rw [if_neg Bool.false_ne_true, freshValue, lookup_locals t hf]
    rfl

/-- **Fresh build.** If no required field is missing, a new struct is made. -/
theorem WellFormed.build_fresh (h : t.WellFormed d) (lined : b.LinesUp d)
    (traits : FieldTraits ν) (ho : t.state.origin = none) (none : missing d t = []) (heap : Heap) :
    t.build b traits heap =
      some ⟨.ok ⟨heap.next, freshStruct d traits t⟩, ⟨heap.next + 1⟩,
        [.built b.record t.state.assigned.count false]⟩ := by
  obtain ⟨taken, taking, numbers⟩ := h.takeAll_eq_ok lined none b.record
  have made := h.fields_freshValues lined traits none numbers
  have fresh : t.state.isDerived = false := by rw [BuildState.isDerived, ho]; rfl
  have silent : t.state.missing b.descriptors = [] := by rwa [lined.descriptors]
  unfold build
  rw [h.bind_eq lined]
  simp [ho, BuildState.checkRequired_eq, silent, taking, made, BuildState.finish, Heap.allocate,
    fresh]

/-! ### Derived builds -/

/-- The struct has a value for each field of the definition. -/
def Complete (d : Definition) (o : StructValue ν) : Prop :=
  ∀ f ∈ d.fields, ∃ v, o.lookup f.ident = some v

/-- A complete struct has a value for each field that is kept. -/
theorem Complete.kept {o : StructValue ν} (h : Complete d o) (hf : d.kept[i]? = some f) :
    ∃ v, o.lookup f.ident = some v :=
  h f (List.mem_filter.mp (List.mem_of_getElem? hf)).1

/-- A stored value differs from the one that the struct has. -/
def Changes (d : Definition) (traits : FieldTraits ν) (t : TypedBuilder ν)
    (o : StructValue ν) : Prop :=
  ∃ i f v w, d.kept[i]? = some f ∧ t.stored i = some v ∧ o.lookup f.ident = some w ∧
    traits.equal f.ident v w = false

/-- The comparison of a derived build finds a change iff there is one. -/
theorem WellFormed.isChanged_eq (h : t.WellFormed d) (lined : b.LinesUp d)
    (traits : FieldTraits ν) {o : StructValue ν} (complete : Complete d o) :
    ∃ changed, isChanged traits t.state (locals d t) o b.differences = some changed ∧
      (changed = true ↔ Changes d traits t o) := by
  rw [lined.differences]
  obtain ⟨changed, all, changed_iff⟩ := isChanged_map traits t.state (·.2)
    (fun p hp => lookup_locals t (List.mem_zipIdx_iff_getElem?.mp hp))
    (fun p hp => complete.kept (List.mem_zipIdx_iff_getElem?.mp hp))
  refine ⟨changed, all, changed_iff.trans ?_⟩
  constructor
  · rintro ⟨⟨f, i⟩, member, w, current, differs⟩
    rw [BuildState.differs_eq (h.isAssigned_eq i), Option.any_eq_true] at differs
    obtain ⟨v, stored, unequal⟩ := differs
    exact ⟨i, f, v, w, List.mem_zipIdx_iff_getElem?.mp member, stored, current,
      by simpa using unequal⟩
  · rintro ⟨i, f, v, w, hf, stored, current, unequal⟩
    refine ⟨(f, i), List.mem_zipIdx_iff_getElem?.mpr hf, w, current, ?_⟩
    rw [BuildState.differs_eq (h.isAssigned_eq i), stored, Option.any_some, unequal]
    rfl

/-- The values that a derived build makes a struct of: what is stored, and the origin's values in
all other fields. -/
def derivedValues (d : Definition) (t : TypedBuilder ν) (o : StructValue ν) :
    List (Ident × Option ν) :=
  d.entries (fun p => (t.stored p.2).or (o.lookup p.1.ident)) fun i => o.lookup i

/-- What a derived build makes, field by field. -/
structure IsDerived (d : Definition) (t : TypedBuilder ν) (o value : StructValue ν) : Prop where
  idents : value.map (·.1) = (d.kept ++ d.skipped).map (·.ident)
  kept : ∀ (i : Nat) (f : FieldDefinition), d.kept[i]? = some f →
    value.lookup f.ident = (t.stored i).or (o.lookup f.ident)
  skipped : ∀ f ∈ d.skipped, f.ident ∉ d.kept.map (·.ident) →
    value.lookup f.ident = o.lookup f.ident

/-- A struct whose values are those of a derived build is what it says field by field. -/
theorem isDerived_of_values (lined : b.LinesUp d) {o value : StructValue ν}
    (h : value.map (fun e => (e.1, some e.2)) = derivedValues d t o) : IsDerived d t o value := by
  have found : ∀ (field : Ident) (v : Option ν), (derivedValues d t o).lookup field = some v →
      value.lookup field = v := by
    intro field v entry
    rw [← h, lookup_map_some] at entry
    obtain ⟨w, there, rfl⟩ := Option.map_eq_some_iff.mp entry
    exact there
  refine ⟨?_, fun i f hf => found _ _ (lined.lookup_entries _ _ hf),
    fun f hf other => found _ _ (Definition.lookup_entries_skipped _ (o.lookup ·) hf other)⟩
  have idents := congrArg (List.map (·.1)) h
  rw [List.map_map, derivedValues, d.map_fst_entries] at idents
  exact idents

/-- **Derived build, unchanged.** If no stored value differs, the origin is handed back. -/
theorem WellFormed.build_unchanged (h : t.WellFormed d) (lined : b.LinesUp d)
    (traits : FieldTraits ν) {o : Shared (StructValue ν)} (ho : t.state.origin = some o)
    (complete : Complete d o.value)
    (unchanged : ¬ Changes d traits t o.value) (heap : Heap) :
    t.build b traits heap =
      some ⟨.ok o, heap, [.returnedOrigin b.record t.state.assigned.count]⟩ := by
  obtain ⟨changed, compared, changed_iff⟩ := h.isChanged_eq lined traits complete
  have same : changed = false := by simpa [unchanged] using changed_iff
  unfold build
  rw [h.bind_eq lined]
  simp [ho, compared, same, BuildState.unchanged]

/-- The origin is complete, so the fields of a derived build can be made. -/
theorem fields_derivedValues (lined : b.LinesUp d) {o : StructValue ν} (complete : Complete d o) :
    ∃ value, fields (fun _ => derivedValue (locals d t) o) b.derivedValues = some value ∧
      value.map (fun e => (e.1, some e.2)) = derivedValues d t o := by
  have kept : ∀ (i : Nat) (f : FieldDefinition), d.kept[i]? = some f →
      derivedValue (locals d t) o (.orOrigin i f.ident) =
        (t.stored i).or (o.lookup f.ident) := by
    intro i f hf
    obtain ⟨w, current⟩ := complete.kept hf
    rw [derivedValue, lookup_locals t hf, current]
    cases t.stored i <;> rfl
  -- Kept fields have a stored value or the origin's, and skipped ones always the origin's.
  have all : ∀ e ∈ b.derivedValues, ∃ v, derivedValue (locals d t) o e.2 = some v := by
    intro e he
    rw [lined.derivedValues, Definition.mem_entries] at he
    rcases he with ⟨i, f, hf, rfl⟩ | ⟨f, hf, rfl⟩
    · obtain ⟨w, current⟩ := complete.kept hf
      rw [kept i f hf, current]
      cases t.stored i with
      | none => exact ⟨w, rfl⟩
      | some v => exact ⟨v, rfl⟩
    · exact complete f (List.mem_filter.mp hf).1
  obtain ⟨value, made⟩ := exists_fields (fun _ => derivedValue (locals d t) o) all
  refine ⟨value, made, ?_⟩
  rw [← fields_eq_some_iff.mp made, lined.derivedValues, derivedValues,
    d.map_entries _ _ fun _ => derivedValue (locals d t) o]
  exact Definition.entries_congr (o.lookup ·) kept

/-- **Derived build, changed.** If a stored value differs, a new struct is made. -/
theorem WellFormed.build_changed (h : t.WellFormed d) (lined : b.LinesUp d)
    (traits : FieldTraits ν) {o : Shared (StructValue ν)} (ho : t.state.origin = some o)
    (complete : Complete d o.value)
    (changes : Changes d traits t o.value) (heap : Heap) :
    ∃ value, t.build b traits heap =
        some ⟨.ok ⟨heap.next, value⟩, ⟨heap.next + 1⟩,
          [.built b.record t.state.assigned.count true]⟩ ∧
      value.map (fun e => (e.1, some e.2)) = derivedValues d t o.value := by
  obtain ⟨changed, compared, changed_iff⟩ := h.isChanged_eq lined traits complete
  obtain ⟨value, made, values⟩ := fields_derivedValues (t := t) lined complete
  have different : changed = true := changed_iff.mpr changes
  have derived : t.state.isDerived = true := by rw [BuildState.isDerived, ho]; rfl
  refine ⟨value, ?_, values⟩
  unfold build
  rw [h.bind_eq lined]
  simp [ho, compared, different, made, BuildState.finish, Heap.allocate, derived]

end TypedBuilder

end Recordwright
