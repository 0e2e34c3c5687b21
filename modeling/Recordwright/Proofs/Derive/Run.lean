import Recordwright.Derive.Run
import Recordwright.Proofs.BuildState
import Recordwright.Proofs.Derive.Blueprint

/-!
# Derived builders at work

A builder that runs by a blueprint which lines up is *well formed* (`TypedBuilder.WellFormed`): its
fields are those that the definition keeps, in order, and a field's bit is set iff it stores a
value.  What is stored is addressed by position (`TypedBuilder.stored`).

The steps of a build look values up by identifiers and numbers.  Each has a lemma here that says
what it gives when all look-ups succeed (`bind_map`, `takeAll_eq_ok`, `fields_eq_some_iff`,
`isChanged_map`).
-/

namespace Recordwright

open Source

/-- In a table of different keys each key has its value. -/
theorem lookup_map {α κ β : Type} [BEq κ] [LawfulBEq κ] {key : α → κ} {l : List α}
    (nodup : (l.map key).Nodup) (value : α → β) {a : α} (h : a ∈ l) :
    (l.map fun a => (key a, value a)).lookup (key a) = some (value a) := by
  induction l with
  | nil => cases h
  | cons first rest ih =>
    rw [List.map_cons, List.nodup_cons] at nodup
    rw [List.map_cons, List.lookup_cons]
    rcases List.mem_cons.mp h with rfl | member
    · rw [beq_self_eq_true]
    · have other : key a ≠ key first := fun same =>
        nodup.1 (same ▸ List.mem_map_of_mem member)
      rw [beq_false_of_ne other]
      exact ih nodup.2 member

/-- A key that no entry of a table has, has no value. -/
theorem lookup_map_eq_none {α κ β : Type} [BEq κ] [LawfulBEq κ] {key : α → κ} {l : List α}
    {k : κ} (value : α → β) (h : k ∉ l.map key) :
    (l.map fun a => (key a, value a)).lookup k = none := by
  rw [List.lookup_eq_none_iff]
  rintro ⟨k', v⟩ member
  obtain ⟨a, ha, equal⟩ := List.mem_map.mp member
  obtain ⟨rfl, -⟩ := Prod.mk.inj equal
  have member' : key a ∈ l.map key := List.mem_map_of_mem ha
  exact bne_iff_ne.mpr fun same => h (same ▸ member')

namespace TypedBuilder

variable {ν : Type} {storage : List (Ident × Option ν)}
  {descriptors : List Descriptor} {locals : Locals (Option ν)} {origin : StructValue ν}

/-! ### The steps of a build -/

/-- Values are bound if each is in the storage. -/
theorem bind_map {α : Type} {source : α → Ident} {slot : α → Nat} {value : α → Option ν}
    {l : List α} (h : ∀ a ∈ l, storage.lookup (source a) = some (value a)) :
    bind storage (l.map fun a => ⟨source a, slot a⟩) =
      some (l.map fun a => (slot a, value a)) := by
  induction l with
  | nil => rfl
  | cons a rest ih =>
    obtain ⟨first, others⟩ := List.forall_mem_cons.mp h
    rw [List.map_cons, bind, first, ih others]
    rfl

/-- Values are taken if each is there, and each keeps its number. -/
theorem takeAll_eq_ok {takes : List Take} (record : String)
    (h : ∀ t ∈ takes, (∃ d, descriptors[t.ordinal]? = some d) ∧
      ∃ v, locals.lookup t.slot = some (some v)) :
    ∃ taken, takeAll record descriptors locals takes = some (.ok taken) ∧
      ∀ t ∈ takes, ∀ v, locals.lookup t.slot = some (some v) → taken.lookup t.slot = some v := by
  induction takes with
  | nil => exact ⟨[], rfl, fun t ht => absurd ht List.not_mem_nil⟩
  | cons t rest ih =>
    obtain ⟨⟨⟨d, described⟩, v, stored⟩, others⟩ := List.forall_mem_cons.mp h
    obtain ⟨taken, all, numbers⟩ := ih others
    -- a value that is taken twice under one number is the same value
    refine ⟨(t.slot, v) :: taken, ?_, fun u hu w found => ?_⟩
    · simp [takeAll, described, stored, all, BuildState.require]
    · rw [List.lookup_cons]
      by_cases same : u.slot = t.slot
      · rw [same, stored] at found
        obtain rfl : v = w := Option.some.inj (Option.some.inj found)
        rw [same, beq_self_eq_true]
      · rw [beq_false_of_ne same]
        rcases List.mem_cons.mp hu with rfl | member
        · exact absurd rfl same
        · exact numbers u member w found

/-- The fields of a new record are made if each can be. -/
theorem exists_fields {κ : Type} (value : Ident → κ → Option ν) {l : List (Ident × κ)}
    (h : ∀ e ∈ l, ∃ v, value e.1 e.2 = some v) : ∃ made, fields value l = some made := by
  induction l with
  | nil => exact ⟨[], rfl⟩
  | cons e rest ih =>
    obtain ⟨⟨v, first⟩, others⟩ := List.forall_mem_cons.mp h
    obtain ⟨made, all⟩ := ih others
    exact ⟨(e.1, v) :: made, by simp [fields, first, all]⟩

/-- The fields of a new record are those that are listed, in order, each with its value. -/
theorem fields_eq_some_iff {κ : Type} {value : Ident → κ → Option ν} {l : List (Ident × κ)}
    {made : StructValue ν} : fields value l = some made ↔
      l.map (fun e => (e.1, value e.1 e.2)) = made.map fun e => (e.1, some e.2) := by
  induction l generalizing made with
  | nil => cases made <;> simp [fields]
  | cons e rest ih =>
    obtain ⟨field, how⟩ := e
    cases first : value field how with
    | none => cases made <;> simp [fields, first]
    | some v =>
      cases all : fields value rest with
      | none =>
        -- the rest is stuck, so no list of values is that of the rest
        constructor
        · intro stuck
          simp [fields, first, all] at stuck
        · intro equal
          cases made with
          | nil => cases equal
          | cons g more =>
            rw [List.map_cons, List.map_cons, List.cons.injEq] at equal
            rw [ih.mpr equal.2] at all
            cases all
      | some others =>
        have rest_eq := ih.mp all
        have injective : Function.Injective fun e : Ident × ν => (e.1, some e.2) := by
          intro e g same
          simpa [Prod.ext_iff] using same
        have made_eq : fields value ((field, how) :: rest) = some ((field, v) :: others) := by
          simp [fields, first, all]
        rw [made_eq, Option.some.injEq, List.map_cons, rest_eq, first]
        exact (injective.list_map.eq_iff (a := (field, v) :: others)).symm

/-- A field of a new record has the value that is listed for it. -/
theorem lookup_map_some (made : StructValue ν) (field : Ident) :
    (made.map fun e => (e.1, some e.2)).lookup field = (made.lookup field).map some := by
  induction made with
  | nil => rfl
  | cons e rest ih =>
    rw [List.map_cons, List.lookup_cons, List.lookup_cons, ih]
    cases field == e.1 <;> rfl

/-- The comparison finds a change iff one of the differences is one. -/
theorem isChanged_map {α : Type} (traits : FieldTraits ν) (state : BuildState (StructValue ν))
    (ordinal : α → Nat) {slot : α → Nat} {field : α → Ident} {value : α → Option ν}
    {l : List α} (bound : ∀ a ∈ l, locals.lookup (slot a) = some (value a))
    (present : ∀ a ∈ l, ∃ current, origin.lookup (field a) = some current) :
    ∃ changed, isChanged traits state locals origin
        (l.map fun a => ⟨ordinal a, slot a, field a⟩) = some changed ∧
      (changed = true ↔ ∃ a ∈ l, ∃ current, origin.lookup (field a) = some current ∧
        state.differs (traits.equal (field a)) (ordinal a) (value a) current = true) := by
  induction l with
  | nil => exact ⟨false, rfl, by simp⟩
  | cons a rest ih =>
    obtain ⟨first, others⟩ := List.forall_mem_cons.mp bound
    obtain ⟨⟨current, there⟩, others'⟩ := List.forall_mem_cons.mp present
    obtain ⟨changed, all, changed_iff⟩ := ih others others'
    rw [List.map_cons]
    -- the comparison stops at the first difference
    by_cases differs : state.differs (traits.equal (field a)) (ordinal a) (value a) current = true
    · refine ⟨true, by simp [isChanged, first, there, differs], fun _ => ?_, fun _ => rfl⟩
      exact ⟨a, List.mem_cons_self, current, there, differs⟩
    · refine ⟨changed, by simp [isChanged, first, there, differs, all], ?_⟩
      rw [changed_iff]
      constructor
      · rintro ⟨e, he, found⟩
        exact ⟨e, List.mem_cons_of_mem _ he, found⟩
      · rintro ⟨e, he, w, lookup, differs'⟩
        rcases List.mem_cons.mp he with rfl | member
        · rw [there, Option.some.injEq] at lookup
          rw [← lookup] at differs'
          exact absurd differs' differs
        · exact ⟨e, member, w, lookup, differs'⟩

/-! ### Well-formed builders -/

variable {d : Definition} {b : Blueprint} {t : TypedBuilder ν} {i : Nat} {f : FieldDefinition}

/-- What is stored for the field at a position. -/
def stored (t : TypedBuilder ν) (i : Nat) : Option ν := t.storage[i]?.bind (·.2)

/-- **The invariant of a derived builder.** -/
structure WellFormed (d : Definition) (t : TypedBuilder ν) : Prop where
  /-- The fields of the builder are those that the definition keeps. -/
  idents : t.storage.map (·.1) = d.kept.map (·.ident)
  /-- There are as many bits as fields. -/
  assigned_size : t.state.assigned.size = d.kept.length
  assigned_tight : t.state.assigned.Tight
  /-- A field is assigned iff something is stored for it. -/
  isAssigned_eq : ∀ i, t.state.isAssigned i = (t.stored i).isSome

/-- The storage at the position of a field. -/
theorem WellFormed.getElem?_storage (h : t.WellFormed d) (hf : d.kept[i]? = some f) :
    t.storage[i]? = some (f.ident, t.stored i) := by
  have ident := congrArg (·[i]?) h.idents
  simp only [List.getElem?_map, hf, Option.map_some] at ident
  unfold stored
  obtain ⟨e, found, equal⟩ := Option.map_eq_some_iff.mp ident
  rw [found, ← equal]
  rfl

/-- Nothing is stored behind the fields. -/
theorem WellFormed.lt_of_stored (h : t.WellFormed d) {v : ν} (stored : t.stored i = some v) :
    ∃ f, d.kept[i]? = some f := by
  have lengths := congrArg List.length h.idents
  rw [List.length_map, List.length_map] at lengths
  refine ⟨_, List.getElem?_eq_getElem ?_⟩
  by_contra out
  rw [TypedBuilder.stored, List.getElem?_eq_none (lengths ▸ Nat.le_of_not_lt out)] at stored
  cases stored

/-- The storage of a field has what is stored at its position. -/
theorem WellFormed.lookup_storage (h : t.WellFormed d) (lined : b.LinesUp d)
    (hf : d.kept[i]? = some f) : t.storage.lookup f.ident = some (t.stored i) := by
  have member := List.mem_of_getElem? (h.getElem?_storage hf)
  have nodup : (t.storage.map (·.1)).Nodup := h.idents ▸ lined.idents_nodup
  have found := lookup_map nodup (·.2) member
  rwa [List.map_id''] at found
  exact fun _ => rfl

/-! ### New builders -/

theorem stored_emptyStorage (lined : b.LinesUp d) (state : BuildState (StructValue ν)) (i : Nat) :
    TypedBuilder.stored ⟨state, b.emptyStorage⟩ i = none := by
  unfold stored Blueprint.emptyStorage
  rw [lined.storage, List.map_map, List.getElem?_map]
  cases d.kept[i]? <;> rfl

theorem idents_emptyStorage (lined : b.LinesUp d) :
    (b.emptyStorage : List (Ident × Option ν)).map (·.1) = d.kept.map (·.ident) := by
  unfold Blueprint.emptyStorage
  rw [lined.storage, List.map_map, List.map_map]
  rfl

theorem size_eq (lined : b.LinesUp d) : b.size = d.kept.length := by
  rw [Blueprint.size, lined.definition]

/-- A fresh builder is well formed. -/
theorem WellFormed.fresh (lined : b.LinesUp d) : (b.fresh : TypedBuilder ν).WellFormed d where
  idents := idents_emptyStorage lined
  assigned_size := size_eq lined
  assigned_tight := AssignedSet.tight_empty _
  isAssigned_eq := fun i => by
    rw [Blueprint.fresh, stored_emptyStorage lined]
    exact BuildState.isAssigned_fresh _ i

/-- A builder with an origin is well formed. -/
theorem WellFormed.derive (lined : b.LinesUp d) (o : Shared (StructValue ν)) :
    (b.derive o).WellFormed d where
  idents := idents_emptyStorage lined
  assigned_size := size_eq lined
  assigned_tight := AssignedSet.tight_empty _
  isAssigned_eq := fun i => by
    rw [Blueprint.derive, stored_emptyStorage lined]
    exact BuildState.isAssigned_derived _ _ i

/-! ### Assignments -/

/-- A method stores at the position of its field and nowhere else. -/
theorem WellFormed.stored_assign (h : t.WellFormed d) (lined : b.LinesUp d)
    (hf : d.kept[i]? = some f) (lead : String) (v : ν) (j : Nat) :
    ((FieldDefinition.methodsAt lead (f, i)).assign v t).stored j =
      if j = i then some v else t.stored j := by
  unfold stored FieldMethods.assign FieldMethods.store FieldDefinition.methodsAt
  rw [List.getElem?_map]
  cases found : t.storage[j]? with
  | none =>
    -- the field that is assigned has a storage
    have other : j ≠ i := by
      rintro rfl
      rw [h.getElem?_storage hf] at found
      cases found
    rw [if_neg other]
    rfl
  | some e =>
    obtain ⟨g, hg⟩ : ∃ g, d.kept[j]? = some g := by
      refine ⟨_, List.getElem?_eq_getElem ?_⟩
      have lengths := congrArg List.length h.idents
      rw [List.length_map, List.length_map] at lengths
      exact lengths ▸ (List.getElem?_eq_some_iff.mp found).1
    rw [h.getElem?_storage hg, Option.some.injEq] at found
    subst found
    -- the method goes by identifiers, and these differ where positions do
    by_cases same : j = i
    · subst same
      obtain rfl : g = f := Option.some.inj (hg.symm.trans hf)
      simp
    · have other : g.ident ≠ f.ident := fun equal =>
        same (lined.position_unique hg hf (congrArg Ident.name equal))
      simp [other, same]

/-- An assignment keeps the invariant. -/
theorem WellFormed.assign (h : t.WellFormed d) (lined : b.LinesUp d) (hf : d.kept[i]? = some f)
    (lead : String) (v : ν) :
    ((FieldDefinition.methodsAt lead (f, i)).assign v t).WellFormed d where
  idents := by
    rw [← h.idents, FieldMethods.assign, FieldMethods.store, List.map_map]
    refine List.map_congr_left fun e _ => ?_
    by_cases same : e.1 = (FieldDefinition.methodsAt lead (f, i)).target <;> simp [same]
  assigned_size := h.assigned_size ▸ AssignedSet.size_insert _ _
  assigned_tight := h.assigned_tight.insert i
  isAssigned_eq := fun j => by
    have bit : i < t.state.assigned.size := by
      rw [h.assigned_size]
      exact (List.getElem?_eq_some_iff.mp hf).1
    have marked : ((FieldDefinition.methodsAt lead (f, i)).assign v t).state.isAssigned j =
        (t.state.isAssigned j || decide (j = i)) :=
      BuildState.isAssigned_mark h.assigned_tight bit j
    rw [marked, h.isAssigned_eq, h.stored_assign lined hf]
    by_cases same : j = i <;> simp [same]

end TypedBuilder

end Recordwright
