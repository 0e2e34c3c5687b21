import Recordwright.Proofs.Build
import Recordwright.Proofs.Description
import Recordwright.Proofs.Session

/-!
# Builders do what their descriptions say

A schema has a description of its builder, and neither of them asks the other: the description is
made of the descriptors when the schema is made, and a builder goes through the descriptors by
itself.  Here they are compared.  For a schema that was made, the lists of the description are lists
of its own descriptors (`Schema.IsMade.described`), and what a well-formed builder does can be said
in terms of these lists:

* a name is settable iff the description has a setter for it (`set_eq_unknownField_iff`), and the
  setter's ordinal is the bit that an assignment sets (`isAssigned_of_set`);
* a fresh build lacks nothing iff the ordinals that it must have are assigned
  (`missing_eq_nil_iff_freshRequired`), and lacks the fields that the description lists for errors
  and that are not set (`names_missing_eq_errorFields`);
* a derived build finds no change iff no ordinal that it compares holds another value
  (`isChanged_eq_false_iff_compareOrder`).

The main statement, `Session.Reachable.described_build`, says this of every builder of every
reachable session.
-/

namespace Recordwright

/-- A made schema has the description of its descriptors. -/
theorem Schema.IsMade.described {s : Schema} (h : s.IsMade) :
    ∃ options, s.descriptors.synthesize options = .ok s.description := by
  obtain ⟨shape, options, made⟩ := h
  obtain ⟨ds, -, ofDescriptors⟩ := ofShape_eq_ok_iff.mp made
  obtain ⟨rfl, described, -⟩ := ofDescriptors_eq_ok_iff.mp ofDescriptors
  exact ⟨options, described⟩

namespace Builder

variable {b b' : Builder} {field : String} {v : Value} {description : Description}
  {options : Options}

/-! ### Assignments -/

/-- An assignment finds no field iff no field has the name. -/
theorem WellFormed.set_eq_unknownField_iff (h : b.WellFormed) :
    (∃ record name, b.set field v = .error (.unknownField record name)) ↔
      b.schema.value.descriptors.ordinalOf? field = none := by
  unfold Builder.set
  cases found : b.schema.value.descriptors.ordinalOf? field with
  | none =>
    simp only [iff_true]
    exact ⟨_, _, rfl⟩
  | some i =>
    -- a field that is found has a type, so what can go wrong is the value
    obtain ⟨t, typed⟩ := h.noFallback.type_found field i found
    simp only [typed, reduceCtorEq, iff_false, not_exists]
    intro record name
    split <;> simp

/-- An assignment that succeeds sets the bit of the field. -/
theorem WellFormed.isAssigned_of_set (h : b.WellFormed) (ok : b.set field v = .ok b') :
    ∃ i, b.schema.value.descriptors.ordinalOf? field = some i ∧
      ∀ j, b'.state.isAssigned j = (b.state.isAssigned j || decide (j = i)) := by
  obtain ⟨i, t, found, typed, -, rfl⟩ := set_eq_ok_iff.mp ok
  exact ⟨i, found, fun j => h.isAssigned_store (h.lt_of_type? typed) v j⟩

/-! ### Builds in terms of lists -/

section

variable (described : b.schema.value.descriptors.synthesize options = .ok description)
include described

/-- The query of a name asks for the ordinal of its setter. -/
theorem isSet_eq_setter? (field : String) :
    b.isSet field = (description.setter? field).any fun m => b.state.isAssigned m.ordinal := by
  have ordinal := Descriptors.ordinal_setter?_of_synthesize described field
  unfold isSet
  rw [← ordinal]
  cases description.setter? field <;> rfl

/-- A fresh build lacks nothing iff all ordinals that it must have are assigned. -/
theorem missing_eq_nil_iff_freshRequired :
    b.missing = [] ↔ ∀ i ∈ description.freshRequired, b.state.isAssigned i = true := by
  obtain ⟨-, required, -⟩ := Descriptors.lists_of_synthesize described
  rw [required, List.forall_mem_map, missing, BuildState.missing, List.filter_eq_nil_iff]
  -- both sides speak of the required fields
  constructor
  · intro none d hd
    obtain ⟨member, needed⟩ := List.mem_filter.mp hd
    have present := none d member
    simpa [needed] using present
  · intro all d member
    by_cases needed : d.required = true
    · have present := all d (List.mem_filter.mpr ⟨member, needed⟩)
      simp [present]
    · simp [needed]

/-- The fields that a fresh build lacks are those that the description lists for errors and that are
not set, in its order. -/
theorem WellFormed.names_missing_eq_errorFields (h : b.WellFormed) :
    b.missing.map (·.name) = description.errorFields.filter fun f => !b.isSet f := by
  obtain ⟨-, -, -, -, fields⟩ := Descriptors.lists_of_synthesize described
  rw [fields, h.missing_eq_filter, List.filter_map, Descriptors.required, List.filter_filter]
  congr 1
  refine List.filter_congr fun d _ => ?_
  rw [Function.comp_apply, Bool.and_comm]

/-- A derived build finds no change iff no assigned ordinal that it compares holds a value that is
not equal to the origin's. -/
theorem WellFormed.isChanged_eq_false_iff_compareOrder (h : b.WellFormed) {o : Shared Record}
    (ho : b.state.origin = some o) :
    b.isChanged o.value = false ↔
      ∀ i ∈ description.compareOrder, b.state.isAssigned i = true →
        ∃ v w, b.stored i = some v ∧ o.value.values[i]? = some w ∧ v.equal w = true := by
  obtain ⟨-, -, order, -⟩ := Descriptors.lists_of_synthesize described
  rw [order, List.forall_mem_map, ← Bool.not_eq_true, h.isChanged_iff ho]
  constructor
  · intro unchanged d member assigned
    obtain ⟨i, hi⟩ := List.getElem?_of_mem member
    rw [h.schema.descriptors.ordinal_eq i d hi] at assigned ⊢
    rw [h.isAssigned_eq, Option.isSome_iff_exists] at assigned
    obtain ⟨v, stored⟩ := assigned
    obtain ⟨w, current, -⟩ := h.origin_value ho hi
    refine ⟨v, w, stored, current, ?_⟩
    by_contra unequal
    exact unchanged ⟨i, v, w, stored, current, by simpa using unequal⟩
  · -- a value that is stored lies at the position of a field, which is compared
    rintro all ⟨i, v, w, stored, current, unequal⟩
    obtain ⟨d, hi⟩ := h.exists_field_of_stored stored
    have ordinal := h.schema.descriptors.ordinal_eq i d hi
    have assigned : b.state.isAssigned i = true := by rw [h.isAssigned_eq, stored]; rfl
    obtain ⟨v', w', stored', current', equal⟩ :=
      all d (List.mem_of_getElem? hi) (by rwa [ordinal])
    rw [ordinal, stored, Option.some.injEq] at stored'
    rw [ordinal, current, Option.some.injEq] at current'
    rw [← stored', ← current', unequal] at equal
    cases equal

end

end Builder

/-! ### Builders of reachable sessions -/

/-- **The description tells the truth.** Let `D` be the description of the schema of a builder that
is held by a reachable session, after whatever was assigned to it.

* An assignment finds no field iff `D` has no setter for the name.  The setter's ordinal is the bit
  that an assignment sets, and the one that the query of the name asks for.
* If the builder has no origin, its build succeeds iff every ordinal is assigned that `D` requires;
  if it fails, its error has an entry for each of the fields that `D` lists for errors and that are
  not set, in this order and with the reason that `D` gives, and no other entry.
* If it has an origin, its build gives the origin itself iff no assigned ordinal among those that
  `D` compares holds a value that is not equal to the origin's. -/
theorem Session.Reachable.described_build {s : Session} (h : s.Reachable) {b : Builder}
    (held : s.builders.Holds b) {heap : Heap} (later : s.heap.next ≤ heap.next) :
    let D := b.schema.value.description
    (∀ field v, (∃ record name, b.set field v = .error (.unknownField record name)) ↔
      D.setter? field = none) ∧
    (∀ field v b', b.set field v = .ok b' → ∃ m, D.setter? field = some m ∧
      ∀ i, b'.state.isAssigned i = (b.state.isAssigned i || decide (i = m.ordinal))) ∧
    (∀ field, b.isSet field = (D.setter? field).any fun m => b.state.isAssigned m.ordinal) ∧
    (b.state.origin = none →
      ((∃ r, (b.build heap).result = .ok r) ↔
        ∀ i ∈ D.freshRequired, b.state.isAssigned i = true) ∧
      ∀ e, (b.build heap).result = .error e →
        e.record = D.record ∧
        e.errors = (D.errorFields.filter fun f => !b.isSet f).map fun f =>
          ⟨f, .required, D.errorReason⟩) ∧
    ∀ o, b.state.origin = some o →
      ((b.build heap).result = .ok o ↔
        ∀ i ∈ D.compareOrder, b.state.isAssigned i = true →
          ∃ v w, b.stored i = some v ∧ o.value.values[i]? = some w ∧ v.equal w = true) := by
  intro D
  obtain ⟨wellFormed, places⟩ := h.sound.builders b held
  obtain ⟨options, described⟩ := (h.madeSchemas.builders b held).described
  -- a setter is found where the field is
  have ordinal := Descriptors.ordinal_setter?_of_synthesize described
  obtain ⟨record, -, -, reason, -⟩ := Descriptors.lists_of_synthesize described
  refine ⟨fun field v => ?_, fun field v b' ok => ?_, Builder.isSet_eq_setter? described,
    fun fresh => ?_, fun o ho => ?_⟩
  · rw [wellFormed.set_eq_unknownField_iff, ← ordinal, Option.map_eq_none_iff]
  · obtain ⟨i, found, bits⟩ := wellFormed.isAssigned_of_set ok
    rw [← ordinal, Option.map_eq_some_iff] at found
    obtain ⟨m, setter, rfl⟩ := found
    exact ⟨m, setter, bits⟩
  · rw [Builder.build_fresh fresh, ← Builder.missing_eq_nil_iff_freshRequired described]
    by_cases none : b.missing = []
    · rw [if_pos none]
      refine ⟨⟨fun _ => none, fun _ => ⟨_, rfl⟩⟩, fun e failed => ?_⟩
      cases failed
    · rw [if_neg none]
      refine ⟨⟨?_, fun missing => absurd missing none⟩, fun e failed => ?_⟩
      · rintro ⟨r, ok⟩
        cases ok
      · obtain rfl := Except.error.inj failed
        rw [BuildState.missingError_eq,
          ← wellFormed.names_missing_eq_errorFields described, List.map_map, record, reason]
        exact ⟨rfl, rfl⟩
  · rw [Builder.result_build_eq_origin_iff ho ((places o ho).mono later)]
    exact wellFormed.isChanged_eq_false_iff_compareOrder described ho

/-- The builder of `Session.dogSession`.  It derives from a record, and the age was assigned. -/
def Session.third : Builder := (dogSession.builders.get? "third").get (by decide +kernel)

/-- The description has no setter for a static field, so the builder finds no such field; and the
age that was assigned differs from the origin's, so the build does not give the origin. -/
theorem Session.described_build_dogSession :
    dogSession.builders.Holds third ∧
    third.schema.value.description.setter? "KIND" = none ∧
    (∃ record name, third.set "KIND" (.text "dog") = .error (.unknownField record name)) ∧
    ∃ o, third.state.origin = some o ∧ (third.build dogSession.heap).result ≠ .ok o := by
  have reachable : dogSession.Reachable :=
    (Reachable.create "Dog" dogShape {} .memoized .start).run _
  have held : dogSession.builders.Holds third := ⟨"third", (Option.some_get _).symm⟩
  obtain ⟨settable, -, -, -, derived⟩ :=
    reachable.described_build held (Nat.le_refl dogSession.heap.next)
  have noSetter : third.schema.value.description.setter? "KIND" = none := by decide +kernel
  obtain ⟨o, ho⟩ : ∃ o, third.state.origin = some o :=
    Option.isSome_iff_exists.mp (by decide +kernel)
  have values : third.state.origin.map (·.value.values[1]?) = some (some .null) := by
    decide +kernel
  refine ⟨held, noSetter, (settable "KIND" (.text "dog")).mpr noSetter, o, ho, fun same => ?_⟩
  obtain ⟨v, w, stored, current, equal⟩ :=
    (derived o ho).mp same 1 (by decide +kernel) (by decide +kernel)
  have assigned : third.stored 1 = some (.int 3) := by decide +kernel
  rw [ho, Option.map_some, Option.some.injEq, current, Option.some.injEq] at values
  rw [assigned, Option.some.injEq] at stored
  rw [← stored, values] at equal
  cases equal

end Recordwright
