import Recordwright.Proofs.Assignments
import Recordwright.Proofs.Session

/-!
# What builds give

The two builds of a well-formed builder, field by field: `get?_freshRecord` and `get?_derivedRecord`
say what the look-up by name finds in the new record, `missing_eq_nil_iff` when a fresh build
succeeds, and `isChanged_eq_false_iff` when a derived build hands back its origin.

The main statement, `Session.Reachable.derived_build`, is about a builder that derives from any
record of a reachable session and on which any assignments were tried.  Its build succeeds.  It
gives the origin itself iff each assigned value is equal to the origin's, and else a record at a new
place that differs from the origin in the assigned fields only.  The comparison speaks of assigned
fields alone: a NaN that was assigned always makes a new record, and one that the origin holds in
another field never does.
-/

namespace Recordwright

namespace Builder

variable {b : Builder} {o : Shared Record} {i : Nat} {d : Descriptor} {t : FieldType}

/-! ### Fresh builds -/

/-- A fresh build lacks no field iff something is stored for each required one. -/
theorem WellFormed.missing_eq_nil_iff (h : b.WellFormed) :
    b.missing = [] ↔ ∀ (i : Nat) (d : Descriptor), b.schema.value.fields[i]? = some d →
      d.required = true → ∃ v, b.stored i = some v := by
  refine (BuildState.missing_eq_nil_iff h.schema.descriptors.ordinal_eq).trans ?_
  simp only [h.isAssigned_eq, Option.isSome_iff_exists]
  rfl

/-- The value of a field in the record of a fresh build: what is stored, or the default. -/
theorem WellFormed.get?_freshRecord (h : b.WellFormed) (hd : b.schema.value.fields[i]? = some d)
    (typed : b.schema.value.type? i = some t) :
    b.freshRecord.get? d.name = some ((b.stored i).getD t.default) := by
  have found : b.freshRecord.get? d.name = b.freshRecord.values[i]? := Record.get?_name h.schema hd
  rw [found]
  exact h.getElem?_freshValues typed

/-! ### Derived builds -/

/-- The value of a field in the record of a derived build: what is stored, or the origin's value. -/
theorem WellFormed.get?_derivedRecord (h : b.WellFormed) (ho : b.state.origin = some o)
    (hd : b.schema.value.fields[i]? = some d) :
    (b.derivedRecord o.value).get? d.name = (b.stored i).or (o.value.get? d.name) := by
  obtain ⟨w, current, old⟩ := h.origin_value ho hd
  have inside : i < b.schema.value.size := (List.getElem?_eq_some_iff.mp hd).1
  have new : (b.derivedRecord o.value).get? d.name = (b.derivedRecord o.value).values[i]? :=
    Record.get?_name h.schema hd
  rw [new, old, Builder.derivedRecord, h.getElem?_derivedValues o.value inside current]
  cases b.stored i <;> rfl

/-- A derived build finds no change iff each value that is stored is equal to the origin's. -/
theorem WellFormed.isChanged_eq_false_iff (h : b.WellFormed) (ho : b.state.origin = some o) :
    b.isChanged o.value = false ↔
      ∀ (i : Nat) (d : Descriptor) (v : Value), b.schema.value.fields[i]? = some d →
        b.stored i = some v → ∃ w, o.value.get? d.name = some w ∧ v.equal w = true := by
  rw [← Bool.not_eq_true, h.isChanged_iff ho]
  constructor
  · intro unchanged i d v hd stored
    obtain ⟨w, current, found⟩ := h.origin_value ho hd
    refine ⟨w, found, ?_⟩
    by_contra unequal
    exact unchanged ⟨i, v, w, stored, current, by simpa using unequal⟩
  · -- a value that is stored lies at the position of a field
    rintro all ⟨i, v, w, stored, current, unequal⟩
    obtain ⟨d, hd⟩ := h.exists_field_of_stored stored
    obtain ⟨w', current', found'⟩ := h.origin_value ho hd
    obtain ⟨w'', found, equal⟩ := all i d v hd stored
    have same : w = w'' := by
      rw [current, Option.some.injEq] at current'
      rw [found', Option.some.injEq] at found
      exact current'.trans found
    rw [← same, unequal] at equal
    cases equal

/-- A build gives the origin iff it finds no change: a new record lies at a new place. -/
theorem result_build_eq_origin_iff (ho : b.state.origin = some o) {heap : Heap}
    (old : heap.HandedOut o) :
    (b.build heap).result = .ok o ↔ b.isChanged o.value = false := by
  rw [build_derive ho]
  cases changed : b.isChanged o.value with
  | false => simp
  | true =>
    have new : (⟨heap.next, b.derivedRecord o.value⟩ : Shared Record) ≠ o := by
      intro equal
      exact old.next_ne (by rw [← equal])
    simpa using new

/-! ### Builds after assignments -/

/-- What a field stores after assignments to a fresh builder. -/
theorem stored_fresh_attemptAll {x : Shared Schema} (h : x.value.WellFormed)
    (hd : x.value.fields[i]? = some d) (as : List Assignment) :
    ((fresh x).attemptAll as).stored i = lastValue d.name ((fresh x).accepted as) := by
  rw [(WellFormed.fresh h).stored_attemptAll hd, stored_fresh, Option.or_none]

/-- What a field stores after assignments to a builder with an origin. -/
theorem stored_derive_attemptAll (h : o.value.WellFormed)
    (hd : o.value.schema.value.fields[i]? = some d) (as : List Assignment) :
    ((derive o).attemptAll as).stored i = lastValue d.name ((derive o).accepted as) := by
  rw [(WellFormed.derive h).stored_attemptAll hd, stored_derive, Option.or_none]

/-- A derived build finds no change iff the last accepted values are equal to the origin's. -/
theorem isChanged_derive_attemptAll (h : o.value.WellFormed) (as : List Assignment) :
    ((derive o).attemptAll as).isChanged o.value = false ↔
      ∀ field v, lastValue field ((derive o).accepted as) = some v →
        ∃ w, o.value.get? field = some w ∧ v.equal w = true := by
  have wellFormed := (WellFormed.derive h).attemptAll as
  have schema : ((derive o).attemptAll as).schema = o.value.schema := schema_attemptAll _ as
  rw [wellFormed.isChanged_eq_false_iff (origin_attemptAll _ as), schema]
  constructor
  · intro all field v last
    obtain ⟨i, d, t, hd, rfl, -, -⟩ := (WellFormed.derive h).accepts_lastValue last
    exact all i d v hd (by rw [stored_derive_attemptAll h hd, last])
  · intro all i d v hd stored
    rw [stored_derive_attemptAll h hd] at stored
    exact all d.name v stored

/-- The value of a field in the record of a derived build that finds a change: the last accepted
value, or the origin's. -/
theorem get?_derivedRecord_attemptAll (h : o.value.WellFormed) (as : List Assignment)
    (hd : o.value.schema.value.fields[i]? = some d) :
    (((derive o).attemptAll as).derivedRecord o.value).get? d.name =
      (lastValue d.name ((derive o).accepted as)).or (o.value.get? d.name) := by
  have wellFormed := (WellFormed.derive h).attemptAll as
  have schema : ((derive o).attemptAll as).schema = o.value.schema := schema_attemptAll _ as
  rw [wellFormed.get?_derivedRecord (origin_attemptAll _ as) (by rwa [schema]),
    stored_derive_attemptAll h hd]

end Builder

/-! ### Derived builds of reachable sessions -/

/-- **Derived build, exactly.** Let `o` be a record of a reachable session, and try any assignments
on a builder that derives from it.  The build, then or later, gives a record `r`.

* `r` is `o` itself iff each assigned value is equal to the value that `o` has, and then nothing is
  allocated; so it is if nothing was assigned.
* Otherwise `r` is a new object, of the same schema, in which each assigned field has the last
  accepted value and each other field the very value that it has in `o`.
* If a NaN is assigned, `r` is not `o`. -/
theorem Session.Reachable.derived_build {s : Session} (h : s.Reachable) {o : Shared Record}
    (held : s.HoldsRecord o) (as : List Assignment) {heap : Heap}
    (later : s.heap.next ≤ heap.next) :
    ∃ r, (((Builder.derive o).attemptAll as).build heap).result = .ok r ∧
      (r = o ↔ ∀ field v, lastValue field ((Builder.derive o).accepted as) = some v →
        ∃ w, o.value.get? field = some w ∧ v.equal w = true) ∧
      ((Builder.derive o).accepted as = [] → r = o) ∧
      (r = o → (((Builder.derive o).attemptAll as).build heap).heap = heap) ∧
      (r ≠ o → r.place = heap.next ∧
        (((Builder.derive o).attemptAll as).build heap).heap.next = heap.next + 1 ∧
        (∀ q, s.HoldsRecord q → r.same q = false) ∧ r.value.schema = o.value.schema ∧
        ∀ d ∈ o.value.schema.value.fields, r.value.get? d.name =
          (lastValue d.name ((Builder.derive o).accepted as)).or (o.value.get? d.name)) ∧
      ∀ field v, lastValue field ((Builder.derive o).accepted as) = some v →
        v.isNaN = true → r ≠ o := by
  have wellFormed := (h.sound.holdsRecord held).1
  have old : ∀ q, s.HoldsRecord q → q.place < heap.next := fun q hq =>
    (h.sound.holdsRecord hq).2.mono later
  have origin : ((Builder.derive o).attemptAll as).state.origin = some o :=
    Builder.origin_attemptAll _ as
  have changed_iff := Builder.isChanged_derive_attemptAll wellFormed as
  rw [Builder.build_derive origin]
  by_cases changed : ((Builder.derive o).attemptAll as).isChanged o.value = true
  · -- a new record: its place is above those of all records that are held
    rw [if_pos changed]
    have new : (⟨heap.next, ((Builder.derive o).attemptAll as).derivedRecord o.value⟩ :
        Shared Record) ≠ o := by
      intro equal
      have place := old o held
      rw [← equal] at place
      exact Nat.lt_irrefl _ place
    refine ⟨_, rfl, ⟨fun equal => absurd equal new, fun all => ?_⟩, fun none => ?_,
      fun equal => absurd equal new, fun _ => ⟨rfl, rfl, fun q hq => ?_, ?_, fun d hd => ?_⟩,
      fun _ _ _ _ => new⟩
    · rw [changed_iff.mpr all] at changed
      cases changed
    · have unchanged := changed_iff.mpr fun field v last => by
        rw [none] at last
        cases last
      rw [unchanged] at changed
      cases changed
    · have place := old q hq
      simpa [Shared.same] using Nat.ne_of_gt place
    · exact Builder.schema_attemptAll _ as
    · obtain ⟨i, hi⟩ := List.getElem?_of_mem hd
      exact Builder.get?_derivedRecord_attemptAll wellFormed as hi
  · rw [if_neg changed]
    have all := changed_iff.mp (by simpa using changed)
    refine ⟨o, rfl, ⟨fun _ => all, fun _ => rfl⟩, fun _ => rfl, fun _ => rfl,
      fun different => absurd rfl different, fun field v last nan => ?_⟩
    -- a NaN is equal to nothing, so it would have been found
    obtain ⟨w, -, equal⟩ := all field v last
    rw [Value.equal_of_isNaN nan w] at equal
    cases equal

/-- The record of `Session.dogSession`. -/
def Session.drake : Shared Record :=
  (dogSession.records.get? "drake").get (by decide +kernel)

/-- A derived build that renames a record, after an assignment that is refused. -/
theorem Session.derived_build_dogSession :
    ∃ r, (((Builder.derive drake).attemptAll [("age", .text "old"), ("name", .text "Otto")]).build
        dogSession.heap).result = .ok r ∧
      r ≠ drake ∧ r.value.get? "name" = some (.text "Otto") ∧ r.value.get? "age" = some .null := by
  have reachable : dogSession.Reachable :=
    (Reachable.create "Dog" dogShape {} .memoized .start).run _
  have held : dogSession.HoldsRecord drake := .inl ⟨"drake", (Option.some_get _).symm⟩
  have last : lastValue "name" ((Builder.derive drake).accepted
      [("age", .text "old"), ("name", .text "Otto")]) = some (.text "Otto") := by decide +kernel
  have current : drake.value.get? "name" = some (.text "Drake") := by decide +kernel
  obtain ⟨r, built, same_iff, -, -, new, -⟩ := reachable.derived_build held
    [("age", .text "old"), ("name", .text "Otto")] (Nat.le_refl dogSession.heap.next)
  have changed : r ≠ drake := by
    intro same
    obtain ⟨w, found, equal⟩ := same_iff.mp same "name" _ last
    rw [current] at found
    obtain rfl := Option.some.inj found
    exact absurd equal (by decide +kernel)
  obtain ⟨-, -, -, -, fields⟩ := new changed
  refine ⟨r, built, changed, ?_, ?_⟩
  · rw [fields ⟨"name", "string", true, 0⟩ (by decide +kernel), last]
    rfl
  · rw [fields ⟨"age", "int?", false, 1⟩ (by decide +kernel)]
    decide +kernel

end Recordwright
