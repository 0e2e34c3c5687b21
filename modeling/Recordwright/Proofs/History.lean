import Recordwright.Proofs.Build
import Recordwright.Proofs.Value

/-!
# What a chain of builds remembers

A record comes from one fresh build that is followed by any number of derived builds, each from the
result of the one before.  `History schema log r` says that `r` comes from such a chain, in which
`log` are the assignments that were accepted, in their order.

A derived build that finds no change hands back its origin and drops what was assigned.  Nothing
that can be seen is lost by that: `history_law` says that each field shows the last accepted value,
up to `Value.Alike`, and that a field without one is not required and shows its default.  So the
records of two chains with one log cannot be told apart by their fields, and edits may be applied in
one derived build or in many.
-/

namespace Recordwright

/-! ### Chains of builds -/

/-- The record comes from a fresh build over the schema and from derived builds after it, and `log`
are the assignments that were accepted.  Between the builds the heap may change in any way. -/
inductive History (x : Shared Schema) : List Assignment → Shared Record → Prop where
  | fresh {heap : Heap} {r : Shared Record} (as : List Assignment) :
      (((Builder.fresh x).attemptAll as).build heap).result = .ok r →
      History x ((Builder.fresh x).accepted as) r
  | derive {heap : Heap} {log : List Assignment} {o r : Shared Record} (as : List Assignment) :
      History x log o → (((Builder.derive o).attemptAll as).build heap).result = .ok r →
      History x (log ++ (Builder.derive o).accepted as) r

/-- The record comes from another by one derived build for each batch of assignments. -/
inductive Edited : Shared Record → List (List Assignment) → Shared Record → Prop where
  | nil (o : Shared Record) : Edited o [] o
  | cons {heap : Heap} {o r q : Shared Record} {as : List Assignment}
      {batches : List (List Assignment)} :
      (((Builder.derive o).attemptAll as).build heap).result = .ok r → Edited r batches q →
      Edited o (as :: batches) q

/-- **The invariant of chains.** Each field shows the last accepted value, or its default. -/
structure Record.Remembers (x : Shared Schema) (log : List Assignment) (r : Record) : Prop where
  schema : r.schema = x
  wellFormed : r.WellFormed
  /-- A field that was assigned shows a value like the last one. -/
  assigned : ∀ d ∈ x.value.fields, ∀ v, lastValue d.name log = some v →
    ∃ w, r.get? d.name = some w ∧ w.Alike v
  /-- A field that was never assigned is not required and shows its default. -/
  unassigned : ∀ d ∈ x.value.fields, lastValue d.name log = none →
    d.required = false ∧ ∃ t, FieldType.parse? d.type = some t ∧ r.get? d.name = some t.default

section

variable {x : Shared Schema} {log : List Assignment} {o r q : Shared Record} {heap : Heap}
  {as : List Assignment} {batches : List (List Assignment)}

/-- A fresh build starts a chain. -/
theorem Record.Remembers.fresh (h : x.value.WellFormed)
    (ok : (((Builder.fresh x).attemptAll as).build heap).result = .ok r) :
    r.value.Remembers x ((Builder.fresh x).accepted as) := by
  have wellFormed := (Builder.WellFormed.fresh h).attemptAll as
  have schema : ((Builder.fresh x).attemptAll as).schema = x := Builder.schema_attemptAll _ as
  have origin : ((Builder.fresh x).attemptAll as).state.origin = none :=
    Builder.origin_attemptAll _ as
  obtain ⟨record, sameSchema, -⟩ := wellFormed.build ok
  -- the build was successful, so it lacks no required field
  rw [Builder.build_fresh origin] at ok
  by_cases none : ((Builder.fresh x).attemptAll as).missing = []
  · rw [if_pos none] at ok
    obtain rfl := Except.ok.inj ok
    rw [wellFormed.missing_eq_nil_iff, schema] at none
    refine ⟨sameSchema.trans schema, record, fun d hd v last => ?_, fun d hd last => ?_⟩
    all_goals
      obtain ⟨i, hi⟩ := List.getElem?_of_mem hd
      obtain ⟨t, typed⟩ := h.type?_isSome (List.getElem?_eq_some_iff.mp hi).1
      have stored := Builder.stored_fresh_attemptAll h hi as
      have shown := wellFormed.get?_freshRecord (by rwa [schema]) (by rwa [schema])
      rw [stored, last] at shown
    · exact ⟨v, shown, .refl v⟩
    · refine ⟨?_, t, ?_, shown⟩
      · -- a required field has a value, or the build would have failed
        by_contra required
        obtain ⟨v, assigned⟩ := none i d hi (by simpa using required)
        rw [stored, last] at assigned
        cases assigned
      · rw [← h.type?_eq i d hi, typed]
  · rw [if_neg none] at ok
    cases ok

/-- What a derived build does to a field: it shows a value like the last accepted one, or what the
origin showed.  The origin itself shows both if the build hands it back. -/
theorem Builder.get?_build_derive (h : o.value.WellFormed)
    (ok : (((Builder.derive o).attemptAll as).build heap).result = .ok r) {d : Descriptor}
    (hd : d ∈ o.value.schema.value.fields) :
    (∀ v, lastValue d.name ((Builder.derive o).accepted as) = some v →
      ∃ w, r.value.get? d.name = some w ∧ w.Alike v) ∧
    (lastValue d.name ((Builder.derive o).accepted as) = none →
      r.value.get? d.name = o.value.get? d.name) := by
  have origin : ((Builder.derive o).attemptAll as).state.origin = some o :=
    Builder.origin_attemptAll _ as
  rw [Builder.build_derive origin] at ok
  by_cases changed : ((Builder.derive o).attemptAll as).isChanged o.value = true
  · -- a new record: it shows the very values that were stored
    rw [if_pos changed] at ok
    obtain rfl := Except.ok.inj ok
    obtain ⟨i, hi⟩ := List.getElem?_of_mem hd
    have shown := Builder.get?_derivedRecord_attemptAll h as hi
    refine ⟨fun v last => ⟨v, ?_, .refl v⟩, fun last => ?_⟩
    · rw [last] at shown
      exact shown
    · rw [last] at shown
      exact shown
  · rw [if_neg changed] at ok
    obtain rfl := Except.ok.inj ok
    refine ⟨fun v last => ?_, fun _ => rfl⟩
    -- the stored value is dropped, and it is equal to the one that stays
    obtain ⟨w, shown, equal⟩ :=
      (Builder.isChanged_derive_attemptAll h as).mp (by simpa using changed) d.name v last
    exact ⟨w, shown, .inl (by rwa [Value.equal_comm])⟩

/-- A derived build goes on with a chain. -/
theorem Record.Remembers.derive (h : o.value.Remembers x log)
    (ok : (((Builder.derive o).attemptAll as).build heap).result = .ok r) :
    r.value.Remembers x (log ++ (Builder.derive o).accepted as) := by
  have wellFormed := (Builder.WellFormed.derive h.wellFormed).attemptAll as
  obtain ⟨record, sameSchema, -⟩ := wellFormed.build ok
  have schema : r.value.schema = x := by
    rw [sameSchema, Builder.schema_attemptAll]
    exact h.schema
  refine ⟨schema, record, fun d hd v last => ?_, fun d hd last => ?_⟩
  all_goals
    obtain ⟨now, before⟩ := Builder.get?_build_derive h.wellFormed ok (by rwa [h.schema])
    rw [lastValue_append] at last
    -- either this build accepted a value, or the field is as the chain left it
    cases latest : lastValue d.name ((Builder.derive o).accepted as) with
    | none =>
      rw [latest, Option.none_or] at last
      rw [before latest]
      first
        | exact h.assigned d hd v last
        | exact h.unassigned d hd last
    | some w =>
      rw [latest, Option.some_or] at last
      first
        | exact Option.some.inj last ▸ now w latest
        | cases last

/-- Every chain keeps its invariant. -/
theorem History.remembers (h : History x log r) (made : x.value.WellFormed) :
    r.value.Remembers x log := by
  induction h with
  | fresh as ok => exact .fresh made ok
  | derive as _ ok ih => exact ih.derive ok

/-- Edits go on with a chain, and the assignments that they add are those that the schema admits. -/
theorem History.edited (edited : Edited o batches r) (h : History x log o)
    (made : x.value.WellFormed) :
    History x (log ++ batches.flatten.filter x.value.admits) r := by
  -- the log grows along the edits, so it is general
  induction edited generalizing log with
  | nil o => simpa using h
  | cons ok _ ih =>
    have schema := (h.remembers made).schema
    have longer := ih (h.derive _ ok)
    rwa [Builder.accepted_eq_filter, List.append_assoc, Builder.derive, schema,
      ← List.filter_append, ← List.flatten_cons] at longer

/-- Records of one log show the same values, up to likeness. -/
theorem Record.Remembers.alike (h : r.value.Remembers x log) (k : q.value.Remembers x log)
    {d : Descriptor} (hd : d ∈ x.value.fields) :
    ∃ v w, r.value.get? d.name = some v ∧ q.value.get? d.name = some w ∧ v.Alike w := by
  cases last : lastValue d.name log with
  | none =>
    obtain ⟨-, t, parsed, shown⟩ := h.unassigned d hd last
    obtain ⟨-, t', parsed', shown'⟩ := k.unassigned d hd last
    rw [parsed, Option.some.injEq] at parsed'
    exact ⟨_, _, shown, shown', parsed' ▸ .refl _⟩
  | some u =>
    obtain ⟨v, shown, like⟩ := h.assigned d hd u last
    obtain ⟨w, shown', like'⟩ := k.assigned d hd u last
    exact ⟨v, w, shown, shown', like.trans like'.symm⟩

/-- Derived builds do not fail, so any edits can be applied. -/
theorem Edited.exists (o : Shared Record) (batches : List (List Assignment)) :
    ∃ r, Edited o batches r := by
  induction batches generalizing o with
  | nil => exact ⟨o, .nil o⟩
  | cons as rest ih =>
    have origin : ((Builder.derive o).attemptAll as).state.origin = some o :=
      Builder.origin_attemptAll _ as
    obtain ⟨r, ok⟩ : ∃ r, (((Builder.derive o).attemptAll as).build {}).result = .ok r := by
      rw [Builder.build_derive origin]
      split <;> exact ⟨_, rfl⟩
    obtain ⟨q, edited⟩ := ih r
    exact ⟨q, .cons ok edited⟩

/-- **The history law.** Let a record come from a fresh build over a made schema and any number of
derived builds.

* A field for which a value was accepted shows the last accepted one, up to equality of values, and
  bit by bit if that is a NaN.
* A field for which none was accepted is not required and shows the default of its type.
* Edits of the record can be applied, one derived build for each batch or one for all of them, and
  the fields then show the same values, again up to equality and bit by bit for NaNs. -/
theorem History.history_law (made : x.value.IsMade) (h : History x log r) :
    r.value.schema = x ∧
    (∀ d ∈ x.value.fields,
      (∀ v, lastValue d.name log = some v →
        ∃ w, r.value.get? d.name = some w ∧ (w.equal v = true ∨ w = v ∧ v.isNaN = true)) ∧
      (lastValue d.name log = none → d.required = false ∧
        ∃ t, FieldType.parse? d.type = some t ∧ r.value.get? d.name = some t.default)) ∧
    ∀ batches, (∃ p, Edited r batches p) ∧ (∃ q, Edited r [batches.flatten] q) ∧
      ∀ p q, Edited r batches p → Edited r [batches.flatten] q → ∀ d ∈ x.value.fields,
        ∃ v w, p.value.get? d.name = some v ∧ q.value.get? d.name = some w ∧ v.Alike w := by
  have remembers := h.remembers made.wellFormed
  refine ⟨remembers.schema, fun d hd => ⟨fun v last => ?_, remembers.unassigned d hd⟩,
    fun batches => ⟨Edited.exists r _, Edited.exists r _, fun p q each once d hd => ?_⟩⟩
  · obtain ⟨w, shown, equal | ⟨rfl, nan⟩⟩ := remembers.assigned d hd v last
    · exact ⟨w, shown, .inl equal⟩
    · exact ⟨w, shown, .inr ⟨rfl, nan⟩⟩
  · -- both ways lead to chains of one log
    have first := History.edited each h made.wellFormed
    have second := History.edited once h made.wellFormed
    rw [List.flatten_singleton] at second
    exact (first.remembers made.wellFormed).alike (second.remembers made.wellFormed) hd

end

/-- A schema of a shape with a required name and a weight that is zero by default. -/
def weighed : Shared Schema :=
  ⟨0, (Schema.ofShape (((Shape.named "Weighed").requiredField "name" "text").field "weight"
    "double") {}).toOption.get (by decide +kernel)⟩

/-- A record over `weighed` that shows the default. -/
def weightless : Shared Record := ⟨0, weighed, [.text "Otto", .float Binary64.zero]⟩

/-- A record that is handed back by a build that was to set its weight to the other zero. -/
theorem History.history_law_weightless :
    ∃ log, History weighed log weightless ∧
      lastValue "weight" log = some (.float Binary64.zero.negate) ∧
      ∃ w, weightless.value.get? "weight" = some w ∧
        (w.equal (.float Binary64.zero.negate) = true ∨ w = .float Binary64.zero.negate ∧
          (Value.float Binary64.zero.negate).isNaN = true) := by
  have made : weighed.value.IsMade := by
    refine ⟨((Shape.named "Weighed").requiredField "name" "text").field "weight" "double", {}, ?_⟩
    decide +kernel
  have built : (((Builder.fresh weighed).attemptAll [("name", .text "Otto")]).build ⟨0⟩).result =
      .ok weightless := by decide +kernel
  have handedBack : (((Builder.derive weightless).attemptAll
      [("weight", .float Binary64.zero.negate)]).build ⟨1⟩).result = .ok weightless := by
    decide +kernel
  have chain := History.derive _ (History.fresh _ built) handedBack
  obtain ⟨-, fields, -⟩ := History.history_law made chain
  have last : lastValue "weight" ((Builder.fresh weighed).accepted [("name", .text "Otto")] ++
      (Builder.derive weightless).accepted [("weight", .float Binary64.zero.negate)]) =
      some (.float Binary64.zero.negate) := by decide +kernel
  exact ⟨_, chain, last,
    (fields ⟨"weight", "double", false, 1⟩ (by decide +kernel)).1 _ last⟩

end Recordwright
