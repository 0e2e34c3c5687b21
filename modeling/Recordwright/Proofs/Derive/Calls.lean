import Recordwright.Proofs.Derive.Agreement

/-!
# Calls on derived builders

What the methods of a derived builder do together.  A sequence of calls assigns fields one after
another (`TypedBuilder.callAll`), and `lastGiven` is the value that the last call for a field was
given.  One call stores at its own position and nowhere else, so after any calls each field stores
the value that it was last given (`WellFormed.stored_callAll`), and the method that asks for it
tells whether there was one (`WellFormed.isAssigned_callAll`).

The main statement, `Definition.generated_builder`, is about every definition that has a blueprint,
whatever its fields hold.  It says of a builder that was called in any way how it answers, when its
build fails and with which error, that no value which must be there is lacking once the check was
passed, and which struct is made, entry by entry: the skipped fields included.
-/

namespace Recordwright

open Source

/-! ### Sequences of calls -/

section

variable {ν : Type}

/-- The value that the last call for a field was given. -/
def lastGiven (field : String) (calls : List (FieldMethods × ν)) : Option ν :=
  ((calls.filter fun c => c.1.field == field).getLast?).map (·.2)

@[simp] theorem lastGiven_nil (field : String) :
    lastGiven field ([] : List (FieldMethods × ν)) = none := rfl

/-- Later calls go over earlier ones. -/
theorem lastGiven_cons (field : String) (c : FieldMethods × ν) (rest : List (FieldMethods × ν)) :
    lastGiven field (c :: rest) =
      (lastGiven field rest).or (if c.1.field = field then some c.2 else none) := by
  unfold lastGiven
  rw [List.filter_cons]
  by_cases same : c.1.field = field
  · rw [if_pos (beq_iff_eq.mpr same), if_pos same, List.getLast?_cons]
    cases (rest.filter fun c => c.1.field == field).getLast? <;> rfl
  · rw [if_neg (by simpa using same), if_neg same, Option.or_none]

/-- A field was given a value iff it was called for. -/
theorem isSome_lastGiven {field : String} {calls : List (FieldMethods × ν)} :
    (lastGiven field calls).isSome = true ↔ ∃ c ∈ calls, c.1.field = field := by
  unfold lastGiven
  rw [Option.isSome_map, List.getLast?_filter, List.find?_isSome]
  simp

namespace TypedBuilder

/-- The builder after its methods were called one by one, each with a value. -/
def callAll (t : TypedBuilder ν) (calls : List (FieldMethods × ν)) : TypedBuilder ν :=
  calls.foldl (fun t c => c.1.assign c.2 t) t

variable {d : Definition} {b : Blueprint} {t : TypedBuilder ν}
  {calls : List (FieldMethods × ν)} {i : Nat} {f : FieldDefinition}

@[simp] theorem callAll_nil (t : TypedBuilder ν) : t.callAll [] = t := rfl

@[simp] theorem callAll_cons (t : TypedBuilder ν) (c : FieldMethods × ν)
    (rest : List (FieldMethods × ν)) :
    t.callAll (c :: rest) = (c.1.assign c.2 t).callAll rest := rfl

/-- Calls do not change the origin. -/
@[simp] theorem origin_callAll (t : TypedBuilder ν) (calls : List (FieldMethods × ν)) :
    (t.callAll calls).state.origin = t.state.origin := by
  induction calls generalizing t with
  | nil => rfl
  | cons c rest ih => rw [callAll_cons, ih, FieldMethods.origin_assign]

/-- Calls keep the invariant. -/
theorem WellFormed.callAll (h : t.WellFormed d) (lined : b.LinesUp d)
    (methods : ∀ c ∈ calls, c.1 ∈ b.methods) : (t.callAll calls).WellFormed d := by
  induction calls generalizing t with
  | nil => exact h
  | cons c rest ih =>
    obtain ⟨first, others⟩ := List.forall_mem_cons.mp methods
    obtain ⟨i, f, hf, equal⟩ := lined.mem_methods.mp first
    rw [callAll_cons, equal]
    exact ih (h.assign lined hf _ c.2) others

/-- **What a field stores** after a sequence of calls: the value that it was last given, or what it
stored before. -/
theorem WellFormed.stored_callAll (h : t.WellFormed d) (lined : b.LinesUp d)
    (methods : ∀ c ∈ calls, c.1 ∈ b.methods) (hf : d.kept[i]? = some f) :
    (t.callAll calls).stored i = (lastGiven f.name calls).or (t.stored i) := by
  -- the builder changes with each call, and stays well formed
  induction calls generalizing t with
  | nil => rfl
  | cons c rest ih =>
    obtain ⟨first, others⟩ := List.forall_mem_cons.mp methods
    obtain ⟨j, g, hg, equal⟩ := lined.mem_methods.mp first
    have called : c.1.field = g.name := by rw [equal]; rfl
    -- the positions are equal iff the names are
    have same : i = j ↔ c.1.field = f.name := by
      rw [called]
      constructor
      · rintro rfl
        rw [Option.some.inj (hf.symm.trans hg)]
      · intro names
        exact lined.position_unique hf hg names.symm
    rw [callAll_cons, lastGiven_cons, Option.or_assoc, equal,
      ih (h.assign lined hg _ c.2) others, h.stored_assign lined hg, ← equal]
    by_cases position : i = j
    · rw [if_pos position, if_pos (same.mp position), Option.some_or]
    · rw [if_neg position, if_neg fun names => position (same.mpr names), Option.none_or]

/-- **The query of a field** tells whether its method was called. -/
theorem WellFormed.isAssigned_callAll (h : t.WellFormed d) (lined : b.LinesUp d)
    (methods : ∀ c ∈ calls, c.1 ∈ b.methods) (hf : d.kept[i]? = some f)
    (unstored : t.stored i = none) :
    (FieldDefinition.methodsAt d.options.setterLead (f, i)).isAssigned (t.callAll calls) = true ↔
      ∃ v, (FieldDefinition.methodsAt d.options.setterLead (f, i), v) ∈ calls := by
  have answer : (FieldDefinition.methodsAt d.options.setterLead (f, i)).isAssigned
      (t.callAll calls) = (lastGiven f.name calls).isSome := by
    refine ((h.callAll lined methods).isAssigned_eq i).trans ?_
    rw [h.stored_callAll lined methods hf, unstored, Option.or_none]
  rw [answer, isSome_lastGiven]
  constructor
  · -- a method for the field's name is the field's method
    rintro ⟨⟨m, v⟩, member, name⟩
    obtain ⟨j, g, hg, equal⟩ := lined.mem_methods.mp (methods _ member)
    have names : g.name = f.name := by rw [← name, equal]; rfl
    obtain rfl := lined.position_unique hg hf names
    obtain rfl : g = f := Option.some.inj (hg.symm.trans hf)
    exact ⟨v, equal ▸ member⟩
  · rintro ⟨v, member⟩
    exact ⟨_, member, rfl⟩

/-! ### Builds after calls -/

/-- A result that a condition decides: when it is an error, and what it is. -/
theorem result_of_decided {ε α : Type} {result : Except ε α} {p : Prop} {e : ε} {a : α}
    (failed : p → result = .error e) (succeeded : ¬ p → result = .ok a) :
    ((∃ e', result = .error e') ↔ p) ∧ (∀ e', result = .error e' → e' = e) ∧
      ∀ a', result = .ok a' → a' = a := by
  by_cases h : p
  · rw [failed h]
    refine ⟨⟨fun _ => h, fun _ => ⟨e, rfl⟩⟩, fun e' same => (Except.error.inj same).symm,
      fun a' same => ?_⟩
    cases same
  · rw [succeeded h]
    refine ⟨⟨?_, fun condition => absurd condition h⟩, fun e' same => ?_,
      fun a' same => (Except.ok.inj same).symm⟩
    · rintro ⟨e', same⟩
      cases same
    · cases same

/-- The required fields for which no method was called, in order. -/
def lacking (d : Definition) (calls : List (FieldMethods × ν)) : List FieldDefinition :=
  d.kept.filter fun f => f.required && (lastGiven f.name calls).isNone

theorem lacking_ne_nil_iff : lacking d calls ≠ [] ↔
    ∃ f ∈ d.kept, f.required = true ∧ lastGiven f.name calls = none := by
  rw [ne_eq, lacking, List.filter_eq_nil_iff]
  simp

/-- A list of entries for all fields, when an entry for a kept field depends on the field alone. -/
theorem entries_eq {α : Type} {kept : FieldDefinition × Nat → α} {g : FieldDefinition → α}
    (skipped : Ident → α)
    (h : ∀ (i : Nat) (f : FieldDefinition), d.kept[i]? = some f → kept (f, i) = g f) :
    d.entries kept skipped = (d.kept.map fun f => (f.ident, g f)) ++
      d.skipped.map fun f => (f.ident, skipped f.ident) := by
  have alike : d.entries kept skipped = d.entries (fun p => g p.1) skipped :=
    Definition.entries_congr skipped h
  rw [alike, Definition.entries]
  congr 1
  conv_rhs => rw [← List.zipIdx_map_fst 0 d.kept, List.map_map]
  rfl

/-- The fields that a build lacks are those for which no method was called. -/
theorem WellFormed.map_name_missing (h : t.WellFormed d)
    (given : ∀ (i : Nat) (f : FieldDefinition), d.kept[i]? = some f →
      t.stored i = lastGiven f.name calls) :
    (missing d t).map (·.name) = (lacking d calls).map (·.name) := by
  unfold missing BuildState.missing lacking
  rw [d.table_eq, List.filter_map, List.map_map]
  -- fields are paired with their positions, and a bit is asked for by position
  have bits : d.kept.zipIdx.filter ((fun e : Descriptor => e.required &&
        !t.state.isAssigned e.ordinal) ∘ fun p => (Definition.declaration p.1).descriptor p.2) =
      d.kept.zipIdx.filter ((fun f => f.required && (lastGiven f.name calls).isNone) ∘ (·.1)) := by
    refine List.filter_congr ?_
    rintro ⟨f, i⟩ member
    have hf : d.kept[i]? = some f := List.mem_zipIdx_iff_getElem?.mp member
    have bit : t.state.isAssigned i = (lastGiven f.name calls).isSome := by
      rw [h.isAssigned_eq, given i f hf]
    simp [Definition.declaration, FieldDeclaration.descriptor, bit]
  have names : (fun e : Descriptor => e.name) ∘ (fun p : FieldDefinition × Nat =>
      (Definition.declaration p.1).descriptor p.2) = (·.name) ∘ (·.1) := rfl
  rw [bits, names, ← List.map_map, ← List.filter_map, List.zipIdx_map_fst]

/-- The error of a build that lacks these fields. -/
def lackingError (d : Definition) (calls : List (FieldMethods × ν)) : ValidationError :=
  ⟨d.name, (lacking d calls).map fun f => ⟨f.name, .required, requiredReason⟩⟩

/-- **A fresh build after calls.** It fails iff a method was lacking, and names all such fields. -/
theorem WellFormed.build_fresh_of_given (h : t.WellFormed d) (lined : b.LinesUp d)
    (traits : FieldTraits ν) (ho : t.state.origin = none)
    (given : ∀ (i : Nat) (f : FieldDefinition), d.kept[i]? = some f →
      t.stored i = lastGiven f.name calls) (heap : Heap) :
    ∃ built, t.build b traits heap = some built ∧
      ((∃ e, built.result = .error e) ↔ lacking d calls ≠ []) ∧
      (∀ e, built.result = .error e → e = lackingError d calls) ∧
      ∀ r, built.result = .ok r → r = ⟨heap.next,
        (d.kept.map fun f =>
          (f.ident, (lastGiven f.name calls).getD (traits.default f.ident))) ++
        d.skipped.map fun f => (f.ident, traits.default f.ident)⟩ := by
  -- A field is missing iff it is required and its method was not called.
  have names := h.map_name_missing given
  by_cases none : missing d t = []
  · have nothing : lacking d calls = [] := by
      rw [none, List.map_nil, eq_comm, List.map_eq_nil_iff] at names
      exact names
    have value : freshStruct d traits t = (d.kept.map fun f =>
          (f.ident, (lastGiven f.name calls).getD (traits.default f.ident))) ++
        d.skipped.map fun f => (f.ident, traits.default f.ident) :=
      entries_eq traits.default fun i f hf => by rw [given i f hf]
    rw [← value]
    exact ⟨_, h.build_fresh lined traits ho none heap,
      result_of_decided (fun something => absurd nothing something) fun _ => rfl⟩
  · have something : lacking d calls ≠ [] := by
      intro nothing
      rw [nothing, List.map_nil, List.map_eq_nil_iff] at names
      exact none names
    have record : b.record = d.name := by rw [Blueprint.record, lined.definition]
    have entries := congrArg (List.map fun name =>
      (⟨name, .required, requiredReason⟩ : FieldError)) names
    rw [List.map_map, List.map_map] at entries
    have error : BuildState.missingError b.record (missing d t) = lackingError d calls := by
      rw [BuildState.missingError_eq, record]
      exact congrArg (ValidationError.mk d.name) entries
    refine ⟨_, h.build_rejected lined traits ho none heap,
      result_of_decided (fun _ => ?_) fun nothing => absurd something nothing⟩
    exact congrArg Except.error error

/-- Once the check for required fields was passed, no value that must be there is lacking. -/
theorem WellFormed.require_eq_ok (h : t.WellFormed d) (lined : b.LinesUp d)
    (passed : (t.state.checkRequired b.record b.descriptors).1 = .ok ()) {take : Take}
    (ht : take ∈ b.takes) :
    ∃ e value v, b.descriptors[take.ordinal]? = some e ∧
      (locals d t).lookup take.slot = some value ∧
      BuildState.require b.record e value = .ok v := by
  have none : missing d t = [] := by
    by_contra some
    rw [missing] at some
    rw [BuildState.checkRequired_eq, lined.descriptors, if_neg some] at passed
    cases passed
  obtain ⟨⟨e, described⟩, v, stored⟩ := h.takes_present lined none take ht
  exact ⟨e, _, v, described, stored, rfl⟩

/-- A method was called with a value that is not equal to the struct's. -/
def CalledAnew (d : Definition) (traits : FieldTraits ν) (calls : List (FieldMethods × ν))
    (o : StructValue ν) : Prop :=
  ∃ f ∈ d.kept, ∃ v w, lastGiven f.name calls = some v ∧ o.lookup f.ident = some w ∧
    traits.equal f.ident v w = false

theorem not_calledAnew_iff {traits : FieldTraits ν} {o : StructValue ν} :
    ¬ CalledAnew d traits calls o ↔ ∀ f ∈ d.kept, ∀ v w, lastGiven f.name calls = some v →
      o.lookup f.ident = some w → traits.equal f.ident v w = true := by
  unfold CalledAnew
  push Not
  simp

/-- **A derived build after calls.** It hands back its origin unless a field was last given a value
that is not equal to the origin's. -/
theorem WellFormed.build_derive_of_given (h : t.WellFormed d) (lined : b.LinesUp d)
    (traits : FieldTraits ν) {o : Shared (StructValue ν)} (ho : t.state.origin = some o)
    (complete : Complete d o.value)
    (given : ∀ (i : Nat) (f : FieldDefinition), d.kept[i]? = some f →
      t.stored i = lastGiven f.name calls) {heap : Heap} (old : heap.HandedOut o) :
    ∃ built r, t.build b traits heap = some built ∧ built.result = .ok r ∧
      (r.same o = true ↔ ¬ CalledAnew d traits calls o.value) ∧
      (r.same o = true → r = o) ∧
      (r.same o = false → r.place = heap.next ∧
        r.value.map (fun e => (e.1, some e.2)) =
          (d.kept.map fun f =>
            (f.ident, (lastGiven f.name calls).or (o.value.lookup f.ident))) ++
          d.skipped.map fun f => (f.ident, o.value.lookup f.ident)) := by
  have changes_iff : Changes d traits t o.value ↔ CalledAnew d traits calls o.value := by
    constructor
    · rintro ⟨i, f, v, w, hf, stored, current, unequal⟩
      rw [given i f hf] at stored
      exact ⟨f, List.mem_of_getElem? hf, v, w, stored, current, unequal⟩
    · rintro ⟨f, member, v, w, last, current, unequal⟩
      obtain ⟨i, hf⟩ := List.getElem?_of_mem member
      rw [← given i f hf] at last
      exact ⟨i, f, v, w, hf, last, current, unequal⟩
  by_cases changes : Changes d traits t o.value
  · obtain ⟨value, built, values⟩ := h.build_changed lined traits ho complete changes heap
    -- the new struct lies at a place of its own
    have other : (⟨heap.next, value⟩ : Shared (StructValue ν)).same o ≠ true := by
      rw [Shared.same, beq_false_of_ne old.next_ne]
      exact Bool.false_ne_true
    refine ⟨_, _, built, rfl, ?_, fun same => absurd same other, fun _ => ⟨rfl, ?_⟩⟩
    · exact iff_of_false other (not_not.mpr (changes_iff.mp changes))
    · rw [values]
      exact entries_eq (o.value.lookup ·) fun i f hf => by rw [given i f hf]
  · refine ⟨_, o, h.build_unchanged lined traits ho complete changes heap, rfl,
      iff_of_true o.same_self (mt changes_iff.mpr changes), fun _ => rfl, fun other => ?_⟩
    rw [o.same_self] at other
    cases other

end TypedBuilder

open TypedBuilder

/-- **What a generated builder does.** Let a definition have a blueprint, and call any methods of a
builder in any order.  Nothing is asked of the fields but that their types have a default and a
comparison, which are any functions.

* For each field that is kept, the builder tells that it is set iff its method was called.
* A fresh build is never stuck.  It fails iff some required field was never given a value, and names
  all such fields in order.  Else its struct is new and has the values that were last given,
  defaults in the other kept fields, and defaults in the skipped ones.
* Once the check for required fields was passed, every value that must be there is.
* A derived build is never stuck and does not fail.  It gives the origin itself iff every value that
  was last given is equal to the origin's.  Else its struct is new and has the values that were last
  given, and the origin's in the other kept fields and in the skipped ones. -/
theorem Definition.generated_builder {d : Definition} {b : Blueprint} (derived : d.blueprint = .ok b)
    (traits : FieldTraits ν) {calls : List (FieldMethods × ν)}
    (methods : ∀ c ∈ calls, c.1 ∈ b.methods) (heap : Heap) :
    (∀ f ∈ d.kept, ∃ m, b.methodsOf? f.name = some m ∧
      (m.isAssigned (b.fresh.callAll calls) = true ↔ ∃ v, (m, v) ∈ calls) ∧
      ∀ o, m.isAssigned ((b.derive o).callAll calls) = true ↔ ∃ v, (m, v) ∈ calls) ∧
    (∃ built, (b.fresh.callAll calls).build b traits heap = some built ∧
      ((∃ e, built.result = .error e) ↔
        ∃ f ∈ d.kept, f.required = true ∧ lastGiven f.name calls = none) ∧
      (∀ e, built.result = .error e → e = ⟨d.name,
        (d.kept.filter fun f => f.required && (lastGiven f.name calls).isNone).map fun f =>
          ⟨f.name, .required, requiredReason⟩⟩) ∧
      ∀ r, built.result = .ok r → r.place = heap.next ∧ r.value =
        (d.kept.map fun f =>
          (f.ident, (lastGiven f.name calls).getD (traits.default f.ident))) ++
        d.skipped.map fun f => (f.ident, traits.default f.ident)) ∧
    (((b.fresh.callAll calls).state.checkRequired b.record b.descriptors).1 = .ok () →
      ∃ locals, bind (b.fresh.callAll calls).storage b.bindings = some locals ∧
        ∀ take ∈ b.takes, ∃ e value v, b.descriptors[take.ordinal]? = some e ∧
          locals.lookup take.slot = some value ∧
          BuildState.require b.record e value = .ok v) ∧
    ∀ o, heap.HandedOut o → Complete d o.value →
      ∃ built r, ((b.derive o).callAll calls).build b traits heap = some built ∧
        built.result = .ok r ∧
        (r.same o = true ↔ ∀ f ∈ d.kept, ∀ v w, lastGiven f.name calls = some v →
          o.value.lookup f.ident = some w → traits.equal f.ident v w = true) ∧
        (r.same o = true → r = o) ∧
        (r.same o = false → r.place = heap.next ∧
          r.value.map (fun e => (e.1, some e.2)) =
            (d.kept.map fun f =>
              (f.ident, (lastGiven f.name calls).or (o.value.lookup f.ident))) ++
            d.skipped.map fun f => (f.ident, o.value.lookup f.ident)) := by
  have lined := linesUp derived
  have fresh : (b.fresh : TypedBuilder ν).WellFormed d := .fresh lined
  -- A new builder stores nothing, so after the calls it stores what was last given.
  have freshGiven : ∀ (i : Nat) (f : FieldDefinition), d.kept[i]? = some f →
      (b.fresh.callAll calls).stored i = lastGiven f.name calls := by
    intro i f hf
    rw [fresh.stored_callAll lined methods hf, Blueprint.fresh, stored_emptyStorage lined,
      Option.or_none]
  refine ⟨fun f member => ?_, ?_, fun passed => ?_, fun o old complete => ?_⟩
  · obtain ⟨i, hf⟩ := List.getElem?_of_mem member
    refine ⟨_, lined.methodsOf?_eq hf, ?_, fun o => ?_⟩
    · exact fresh.isAssigned_callAll lined methods hf (stored_emptyStorage lined _ i)
    · exact (WellFormed.derive lined o).isAssigned_callAll lined methods hf
        (stored_emptyStorage lined _ i)
  · obtain ⟨built, ok, fails_iff, error, value⟩ :=
      (fresh.callAll lined methods).build_fresh_of_given lined traits (origin_callAll _ _)
        freshGiven heap
    refine ⟨built, ok, fails_iff.trans lacking_ne_nil_iff, error, fun r made => ?_⟩
    rw [value r made]
    exact ⟨rfl, rfl⟩
  · have wellFormed := fresh.callAll lined methods
    exact ⟨_, wellFormed.bind_eq lined, fun take ht => wellFormed.require_eq_ok lined passed ht⟩
  · have derive : (b.derive o).WellFormed d := .derive lined o
    have given : ∀ (i : Nat) (f : FieldDefinition), d.kept[i]? = some f →
        ((b.derive o).callAll calls).stored i = lastGiven f.name calls := by
      intro i f hf
      rw [derive.stored_callAll lined methods hf, Blueprint.derive, stored_emptyStorage lined,
        Option.or_none]
    obtain ⟨built, r, ok, made, same_iff, same, new⟩ :=
      (derive.callAll lined methods).build_derive_of_given lined traits (origin_callAll _ _)
        complete given old
    exact ⟨built, r, ok, made, same_iff.trans not_calledAnew_iff, same, new⟩

/-- A struct of which every field holds this value. -/
def Definition.filled (d : Definition) (v : ν) : StructValue ν :=
  (d.kept ++ d.skipped).map fun f => (f.ident, v)

theorem Definition.complete_filled (d : Definition) (v : ν) : Complete d (d.filled v) :=
  .of_idents (by rw [filled, List.map_map]; rfl)

theorem Definition.lookup_filled {d : Definition} {f : FieldDefinition}
    (h : f ∈ d.kept ++ d.skipped) (v : ν) : (d.filled v).lookup f.ident = some v := by
  have key : (d.filled v).lookup f.ident ≠ none := by
    rw [Ne, List.lookup_eq_none_iff]
    exact fun none => absurd (none (f.ident, v) (List.mem_map_of_mem h)) (by simp)
  obtain ⟨w, found⟩ := Option.ne_none_iff_exists'.mp key
  obtain ⟨before, after, split, -⟩ := List.lookup_eq_some_iff.mp found
  have member : (f.ident, w) ∈ d.filled v := by
    rw [split]
    exact List.mem_append_right _ List.mem_cons_self
  obtain ⟨g, -, equal⟩ := List.mem_map.mp member
  rw [found, (Prod.mk.inj equal).2]

/-- A builder of `petSource` whose field `chip` is set twice.  A fresh build fails for the other
field; a derived build makes a new struct with the later value. -/
theorem Definition.generated_builder_pet :
    ∃ d b m, derivedOf? petSource = some (d, b) ∧ b.methodsOf? "chip" = some m ∧
      m.isAssigned (b.fresh.callAll [(m, 1), (m, 2)]) = true ∧
      (∃ built, (b.fresh.callAll [(m, 1), (m, 2)]).build b
          ⟨fun _ => 0, fun _ v w => v == w⟩ ⟨1⟩ = some built ∧
        built.result = .error ⟨"Pet", [⟨"name", .required, requiredReason⟩]⟩) ∧
      ∃ built r, ((b.derive ⟨0, d.filled 7⟩).callAll [(m, 1), (m, 2)]).build b
          ⟨fun _ => 0, fun _ v w => v == w⟩ ⟨1⟩ = some built ∧
        built.result = .ok r ∧ r.place = 1 ∧
        r.value.map (fun e => (e.1.name, some e.2)) =
          [("name", some 7), ("chip", some 2), ("seen", some 7)] := by
  have facts : (derivedOf? petSource).map (fun p => (p.1.name,
      p.1.kept.map (fun f => (f.name, f.required)), p.1.skipped.map (·.name),
      p.2.methods.map (·.field))) =
      some ("Pet", [("name", true), ("chip", false)], ["seen"], ["name", "chip"]) := by
    decide +kernel
  obtain ⟨⟨d, b⟩, found, facts⟩ := Option.map_eq_some_iff.mp facts
  obtain ⟨item, -, -, derived⟩ := derivedOf?_eq_some found
  simp only [Prod.mk.injEq, List.map_eq_cons_iff, List.map_eq_nil_iff] at facts
  obtain ⟨record, ⟨name, _, kept, ⟨nameName, nameRequired⟩, chip, _, rfl,
    ⟨chipName, chipRequired⟩, rfl⟩, ⟨seen, _, skipped, seenName, rfl⟩,
    other, _, methods, otherField, m, _, rfl, field, rfl⟩ := facts
  have named : b.methodsOf? "chip" = some m := by
    simp [Blueprint.methodsOf?, methods, otherField, field]
  have last : ∀ f : String,
      lastGiven f [(m, 1), (m, 2)] = if "chip" = f then some 2 else none := by
    intro f
    rw [lastGiven_cons, lastGiven_cons, field]
    by_cases same : "chip" = f <;> simp [same]
  have nameLast : lastGiven name.name [(m, 1), (m, 2)] = none := by
    rw [last, nameName, if_neg (by decide)]
  have chipLast : lastGiven chip.name [(m, 1), (m, 2)] = some 2 := by
    rw [last, chipName, if_pos rfl]
  have called : ∀ c ∈ [(m, 1), (m, 2)], c.1 ∈ b.methods := by simp [methods]
  obtain ⟨queries, ⟨built, ok, failed, error, -⟩, -, derives⟩ :=
    Definition.generated_builder derived ⟨fun _ => 0, fun _ v w => v == w⟩ called ⟨1⟩
  refine ⟨d, b, m, found, named, ?_, ⟨built, ok, ?_⟩, ?_⟩
  · obtain ⟨m', method, answer, -⟩ := queries chip (by simp [kept])
    obtain rfl : m = m' := by rw [chipName, named] at method; exact Option.some.inj method
    exact answer.mpr ⟨1, List.mem_cons_self⟩
  · obtain ⟨e, he⟩ := failed.mpr ⟨name, by simp [kept], nameRequired, nameLast⟩
    have lacked : (d.kept.filter fun f => f.required &&
        (lastGiven f.name [(m, 1), (m, 2)]).isNone) = [name] := by
      rw [kept]
      simp [nameRequired, nameLast, chipRequired]
    rw [he, error e he, record, lacked, List.map_singleton, nameName]
  · obtain ⟨built, r, ok, made, same, -, new⟩ :=
      derives ⟨0, d.filled 7⟩ Nat.one_pos (d.complete_filled 7)
    have old : ∀ f ∈ d.kept ++ d.skipped, (d.filled 7).lookup f.ident = some 7 := fun f hf =>
      Definition.lookup_filled hf 7
    have changed : r.same ⟨0, d.filled 7⟩ = false := by
      rw [← Bool.not_eq_true, same]
      intro all
      have equal : (2 == 7) = true :=
        all chip (by simp [kept]) 2 7 chipLast (old chip (by simp [kept]))
      exact absurd equal (by decide)
    obtain ⟨place, values⟩ := new changed
    refine ⟨built, r, ok, made, place, ?_⟩
    have values' := congrArg (List.map fun e => (e.1.name, e.2)) values
    rw [List.map_map, kept, skipped] at values'
    refine Eq.trans values' ?_
    have nameOld := old name (by simp [kept])
    have seenOld := old seen (by simp [skipped])
    unfold FieldDefinition.name at nameName chipName seenName
    simp [nameLast, chipLast, nameOld, seenOld, nameName, chipName, seenName]

end

end Recordwright
