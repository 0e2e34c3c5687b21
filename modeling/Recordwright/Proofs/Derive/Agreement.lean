import Recordwright.Proofs.Build
import Recordwright.Proofs.Derive.Correspondence
import Recordwright.Source.Grammar.Item

/-!
# Derived builders and builders at run time agree

What the builds of two builders side by side give, by the two modes of a build
(`Simulates.build_fresh`, `Simulates.build_derived`): both fail with one error, or both hand back
their origins, or both make a new record, and then the records correspond again.

`Definition.backends_agree` gathers what there is to say of a struct whose kept fields have types as
`FieldType.ty` spells them.  Its hypotheses are that the derived builder is generated and that the
types are spelled so.
-/

namespace Recordwright

open Source TypedBuilder

variable {σ : Type} {d : Definition} {b : Blueprint} {x : Shared Schema} {i : Nat}
  {f : FieldDefinition} {t : TypedBuilder (Cell ⊕ σ)} {u : Builder} {others : FieldTraits σ}

/-- A struct that is made of all fields is complete. -/
theorem TypedBuilder.Complete.of_idents {ν : Type} {value : StructValue ν}
    (idents : value.map (·.1) = (d.kept ++ d.skipped).map (·.ident)) : Complete d value := by
  intro f hf
  have member : f ∈ d.kept ++ d.skipped := by
    rw [List.mem_append, Definition.kept, Definition.skipped, List.mem_filter, List.mem_filter]
    cases skipped : f.skipped <;> simp [hf]
  have key : f.ident ∈ value.map (·.1) := idents ▸ List.mem_map_of_mem member
  obtain ⟨e, he, equal⟩ := List.mem_map.mp key
  exact Option.isSome_iff_exists.mp
    (List.lookup_isSome_iff.mpr ⟨e, he, beq_iff_eq.mpr equal.symm⟩)

namespace Simulates

/-! ### Queries -/

/-- The query of a field and the look-up of its name answer the same. -/
theorem isSet_eq (h : Simulates d x t u) (schema : d.HasSchema x.value)
    (hf : d.kept[i]? = some f) (lead : String) :
    (FieldDefinition.methodsAt lead (f, i)).isAssigned t = u.isSet f.name := by
  have found : u.schema.value.descriptors.ordinalOf? f.name = some i := by
    rw [h.schema]
    exact schema.ordinalOf?_eq hf
  rw [Builder.isSet, found]
  exact h.isAssigned_eq schema i

/-! ### Builds -/

/-- Both sides give a field that is not assigned the same default. -/
theorem corresponds_fresh (h : Simulates d x t u) (lined : b.LinesUp d)
    (schema : d.HasSchema x.value) (written : d.Written) {value : StructValue (Cell ⊕ σ)}
    (made : IsFresh d (d.traits others) t value) : Corresponds d x value u.freshRecord := by
  refine ⟨.of_idents made.idents, h.dynamic.freshRecord, h.schema, fun f member => ?_⟩
  obtain ⟨i, hf⟩ := List.getElem?_of_mem member
  obtain ⟨type, spelled⟩ := written f member
  have left := made.kept i f hf
  have right : u.freshRecord.get? f.name = some ((u.stored i).getD type.default) :=
    h.dynamic.get?_freshRecord (by rw [h.schema]; exact schema.getElem?_fields hf)
      (by rw [h.schema]; exact schema.type?_eq hf spelled)
  -- the defaults of the type of cells and of the field type are the same
  rcases h.stored i f hf with ⟨unstored, unstored'⟩ | ⟨c, admitted, stored, stored'⟩
  · rw [unstored, lined.default_traits hf spelled] at left
    rw [unstored', ← type.ofCell_default] at right
    exact ⟨_, FieldDefinition.admits_default spelled, left, right⟩
  · rw [stored] at left
    rw [stored'] at right
    exact ⟨c, admitted, left, right⟩

/-- Both sides give a field that is not assigned the value of the origin. -/
theorem corresponds_derived (h : Simulates d x t u) (schema : d.HasSchema x.value)
    {o : StructValue (Cell ⊕ σ)} {r : Shared Record} (hr : u.state.origin = some r)
    (corresponds : Corresponds d x o r.value) {value : StructValue (Cell ⊕ σ)}
    (made : IsDerived d t o value) : Corresponds d x value (u.derivedRecord r.value) := by
  refine ⟨.of_idents made.idents, h.dynamic.derivedRecord hr, h.schema, fun f member => ?_⟩
  obtain ⟨i, hf⟩ := List.getElem?_of_mem member
  have left := made.kept i f hf
  have right : (u.derivedRecord r.value).get? f.name = (u.stored i).or (r.value.get? f.name) :=
    h.dynamic.get?_derivedRecord hr (by rw [h.schema]; exact schema.getElem?_fields hf)
  rcases h.stored i f hf with ⟨unstored, unstored'⟩ | ⟨c, admitted, stored, stored'⟩
  · obtain ⟨c, admitted, old, old'⟩ := corresponds.kept f member
    rw [unstored, Option.none_or, old] at left
    rw [unstored', Option.none_or, old'] at right
    exact ⟨c, admitted, left, right⟩
  · rw [stored, Option.some_or] at left
    rw [stored', Option.some_or] at right
    exact ⟨c, admitted, left, right⟩

/-- **Fresh builds agree.** Both fail with one error, or both make records that correspond. -/
theorem build_fresh (h : Simulates d x t u) (lined : b.LinesUp d) (schema : d.HasSchema x.value)
    (written : d.Written) (others : FieldTraits σ) (ht : t.state.origin = none)
    (hu : u.state.origin = none) (heap heap' : Heap) :
    ∃ built, t.build b (d.traits others) heap = some built ∧
      ((∃ e, built.result = .error e ∧ (u.build heap').result = .error e) ∨
        ∃ value, built.result = .ok ⟨heap.next, value⟩ ∧
          (u.build heap').result = .ok ⟨heap'.next, u.freshRecord⟩ ∧
          Corresponds d x value u.freshRecord) := by
  have same := h.missing_eq schema
  rw [Builder.build_fresh hu]
  -- both sides lack the same fields, so one check decides for both
  by_cases none : TypedBuilder.missing d t = []
  · have built := h.typed.build_fresh lined (d.traits others) ht none heap
    have made := isFresh_freshStruct lined (d.traits others) t
    refine ⟨_, built, .inr ⟨_, rfl, ?_, h.corresponds_fresh lined schema written made⟩⟩
    rw [if_pos (same ▸ none)]
  · refine ⟨_, h.typed.build_rejected lined (d.traits others) ht none heap, .inl ⟨_, rfl, ?_⟩⟩
    have record : u.schema.value.record = b.record := by
      rw [h.schema, Schema.record, schema.descriptors, Blueprint.record, lined.definition]
    rw [if_neg (same ▸ none), record, same]

/-- **Derived builds agree.** Both hand back their origins, or both make new records that
correspond. -/
theorem build_derived (h : Simulates d x t u) (lined : b.LinesUp d)
    (schema : d.HasSchema x.value) (written : d.Written) (others : FieldTraits σ)
    {o : Shared (StructValue (Cell ⊕ σ))} {r : Shared Record}
    (ht : t.state.origin = some o) (hu : u.state.origin = some r)
    (corresponds : Corresponds d x o.value r.value) (heap heap' : Heap) :
    ∃ built, t.build b (d.traits others) heap = some built ∧
      (built.result = .ok o ∧ (u.build heap').result = .ok r ∨
        ∃ value, built.result = .ok ⟨heap.next, value⟩ ∧
          (u.build heap').result = .ok ⟨heap'.next, u.derivedRecord r.value⟩ ∧
          Corresponds d x value (u.derivedRecord r.value)) := by
  have same := h.changes_iff schema written others hu corresponds
  rw [Builder.build_derive hu]
  -- both sides find a change or none does
  by_cases changes : Changes d (d.traits others) t o.value
  · obtain ⟨value, built, values⟩ :=
      h.typed.build_changed lined (d.traits others) ht corresponds.complete changes heap
    have made := isDerived_of_values lined values
    refine ⟨_, built, .inr ⟨value, rfl, ?_, h.corresponds_derived schema hu corresponds made⟩⟩
    rw [if_pos (same.mp changes)]
  · have built :=
      h.typed.build_unchanged lined (d.traits others) ht corresponds.complete changes heap
    refine ⟨_, built, .inl ⟨rfl, ?_⟩⟩
    rw [if_neg fun changed => changes (same.mpr changed)]

end Simulates

/-! ### Agreement -/

/-- **The two backends agree.** Let a struct have a derived builder, and let its kept fields have
types of known spellings.  Then a schema can be made of its shape.  Take a derived builder and a
builder over that schema to which the same assignments were made, from nothing or from origins that
correspond.

* For each field that is kept, both sides answer alike whether it is set, and any value of its type
  can be assigned on both sides.
* A build is never stuck.  Either both builds fail with the same error, and so with the same list of
  missing fields; or both succeed with records that correspond, and then the one is its origin iff
  the other is. -/
theorem Definition.backends_agree (derived : d.blueprint = .ok b) (written : d.Written)
    (others : FieldTraits σ) :
    ∃ s, Schema.ofShape d.shape d.options = .ok s ∧
      ∀ (x : Shared Schema), x.value = s →
      ∀ (t : TypedBuilder (Cell ⊕ σ)) (u : Builder), SideBySide d b x t u →
        (∀ f ∈ d.kept, ∃ m, b.methodsOf? f.name = some m ∧ m.isAssigned t = u.isSet f.name ∧
          ∀ c, f.Admits c → ∃ u', u.set f.name (.ofCell c) = .ok u') ∧
        ∀ heap heap' : Heap, (∀ o, t.state.origin = some o → heap.HandedOut o) →
          (∀ r, u.state.origin = some r → heap'.HandedOut r) →
          ∃ built, t.build b (d.traits others) heap = some built ∧
            ((∃ e, built.result = .error e ∧ (u.build heap').result = .error e) ∨
              ∃ p q, built.result = .ok p ∧ (u.build heap').result = .ok q ∧
                Corresponds d x p.value q.value ∧
                ∀ o r, t.state.origin = some o → u.state.origin = some r →
                  p.same o = q.same r) := by
  have lined := linesUp derived
  obtain ⟨s, made, schema⟩ := exists_schema derived written
  refine ⟨s, made, ?_⟩
  rintro x rfl t u pair
  have h := pair.simulates lined schema
  refine ⟨fun f member => ?_, fun heap heap' old old' => ?_⟩
  · obtain ⟨i, hf⟩ := List.getElem?_of_mem member
    exact ⟨_, lined.methodsOf?_eq hf, h.isSet_eq schema hf _, fun c admitted =>
      h.exists_set schema written hf admitted⟩
  · rcases h.origin with ⟨ht, hu⟩ | ⟨o, r, ht, hu, corresponds⟩
    · obtain ⟨built, ok, failed | ⟨value, left, right, new⟩⟩ :=
        h.build_fresh lined schema written others ht hu heap heap'
      · exact ⟨built, ok, .inl failed⟩
      · refine ⟨built, ok, .inr ⟨_, _, left, right, new, fun o r ho => ?_⟩⟩
        rw [ht] at ho
        cases ho
    · obtain ⟨built, ok, ⟨left, right⟩ | ⟨value, left, right, new⟩⟩ :=
        h.build_derived lined schema written others ht hu corresponds heap heap'
      · refine ⟨built, ok, .inr ⟨o, r, left, right, corresponds, fun o' r' ho hr => ?_⟩⟩
        rw [ht, Option.some.injEq] at ho
        rw [hu, Option.some.injEq] at hr
        rw [← ho, ← hr, Shared.same_self, Shared.same_self]
      · refine ⟨built, ok, .inr ⟨_, _, left, right, new, fun o' r' ho hr => ?_⟩⟩
        -- a new place is above that of each origin
        have place : heap.next ≠ o'.place := Nat.ne_of_gt (old o' ho)
        have place' : heap'.next ≠ r'.place := Nat.ne_of_gt (old' r' hr)
        rw [Shared.same, Shared.same, beq_false_of_ne place, beq_false_of_ne place']

/-- The source of a struct with a required field, a nullable one and one that is skipped. -/
def petSource : String :=
  "struct Pet \x7b #[record(required)] name: String, chip: Option<Vec<u8>>, " ++
    "#[record(skip)] seen: u64 \x7d"

/-- The definition that a source is, and its blueprint. -/
def derivedOf? (source : String) : Option (Definition × Blueprint) :=
  match Item.ofText? source with
  | none => none
  | some item =>
    match Definition.ofItem item with
    | .error _ => none
    | .ok d =>
      match d.blueprint with
      | .error _ => none
      | .ok b => some (d, b)

theorem derivedOf?_eq_some {source : String} (h : derivedOf? source = some (d, b)) :
    ∃ item, Item.ofText? source = some item ∧ Definition.ofItem item = .ok d ∧
      d.blueprint = .ok b := by
  unfold derivedOf? at h
  cases parsed : Item.ofText? source with
  | none => simp [parsed] at h
  | some item =>
    cases defined : Definition.ofItem item with
    | error e => simp [parsed, defined] at h
    | ok d' =>
      cases derived : d'.blueprint with
      | error e => simp [parsed, defined, derived] at h
      | ok b' =>
        obtain ⟨rfl, rfl⟩ : d' = d ∧ b' = b := by simpa [parsed, defined, derived] using h
        exact ⟨item, rfl, defined, derived⟩

/-- The builder at run time that is assigned the fields of `petSource`. -/
def petBuilder (s : Schema) : Builder :=
  (Builder.fresh ⟨0, s⟩).attemptAll
    [("name", .text "Rex"), ("chip", .bytes [7]), ("name", .text "Max")]

/-- What the builds at run time give for `petSource`: of a builder without assignments, of
`petBuilder`, and of two that derive from its record, with another name and with the same. -/
def petBuilds (d : Definition) : Option (Bool × List Value × List Value × Bool × Bool) := do
  let s ← (Schema.ofShape d.shape d.options).toOption
  let r ← ((petBuilder s).build {}).result.toOption
  let heap : Heap := ⟨r.place + 1⟩
  let other ← (((Builder.derive r).attempt ("name", .text "Rex")).build heap).result.toOption
  let same ← (((Builder.derive r).attempt ("name", .text "Max")).build heap).result.toOption
  return (((Builder.fresh ⟨0, s⟩).build {}).result.toOption.isSome, r.value.values,
    other.value.values, other.same r, same.same r)

/-- The two fields of `petSource` that are kept, with values that they admit, and its builds. -/
theorem exists_petSource : ∃ item d b name chip, Item.ofText? petSource = some item ∧
    Definition.ofItem item = .ok d ∧ d.blueprint = .ok b ∧ d.Written ∧
    name ∈ d.kept ∧ name.name = "name" ∧ (∀ text, name.Admits (.text text)) ∧
    chip ∈ d.kept ∧ chip.name = "chip" ∧ chip.Admits (.present (.list [.integer 7])) ∧
    petBuilds d =
      some (false, [.text "Max", .bytes [7]], [.text "Rex", .bytes [7]], false, true) := by
  have spelled : (derivedOf? petSource).map (fun p =>
      p.1.kept.map fun f => (f.name, FieldType.spelled? f.type)) =
      some [("name", some ⟨.text, false⟩), ("chip", some ⟨.bytes, true⟩)] := by decide +kernel
  have run : (derivedOf? petSource).bind (fun p => petBuilds p.1) =
      some (false, [.text "Max", .bytes [7]], [.text "Rex", .bytes [7]], false, true) := by
    decide +kernel
  obtain ⟨⟨d, b⟩, found, fields⟩ := Option.map_eq_some_iff.mp spelled
  rw [found, Option.bind_some] at run
  obtain ⟨item, parsed, defined, derived⟩ := derivedOf?_eq_some found
  obtain ⟨name, rest, kept, first, fields⟩ := List.map_eq_cons_iff.mp fields
  obtain ⟨chip, none, rfl, second, none'⟩ := List.map_eq_cons_iff.mp fields
  obtain rfl := List.map_eq_nil_iff.mp none'
  obtain ⟨nameText, nameType⟩ := Prod.mk.inj first
  obtain ⟨chipText, chipType⟩ := Prod.mk.inj second
  have nameType := FieldType.spelled?_eq_some_iff.mp nameType
  have chipType := FieldType.spelled?_eq_some_iff.mp chipType
  refine ⟨item, d, b, name, chip, parsed, defined, derived, ?_, by simp [kept], nameText,
    fun text => ⟨.text, ?_, rfl⟩, by simp [kept], chipText,
    ⟨.optional (.list (.integer false 8)), ?_, rfl⟩, run⟩
  · intro f hf
    rw [kept, List.mem_cons, List.mem_singleton] at hf
    rcases hf with rfl | rfl
    · exact ⟨_, nameType⟩
    · exact ⟨_, chipType⟩
  · rw [nameType, FieldType.ofTy?_ty]
    rfl
  · rw [chipType, FieldType.ofTy?_ty]
    rfl

/-- Where both builds fail or both succeed, the success of the one at run time is one of both. -/
theorem exists_of_build_eq_ok {built? : Option (Built (StructValue (Cell ⊕ σ)))} {u : Builder}
    {heap : Heap} {Related : Shared (StructValue (Cell ⊕ σ)) → Shared Record → Prop}
    {r : Shared Record}
    (agreed : ∃ built, built? = some built ∧
      ((∃ e, built.result = .error e ∧ (u.build heap).result = .error e) ∨
        ∃ p q, built.result = .ok p ∧ (u.build heap).result = .ok q ∧ Related p q))
    (made : (u.build heap).result = .ok r) :
    ∃ p, (∃ built, built? = some built ∧ built.result = .ok p) ∧ Related p r := by
  obtain ⟨built, ok, ⟨e, -, failed⟩ | ⟨p, q, left, right, related⟩⟩ := agreed
  · rw [made] at failed
    cases failed
  · rw [made, Except.ok.injEq] at right
    exact ⟨p, ⟨built, ok, left⟩, right ▸ related⟩

/-- Pairs of builders for `petSource`.  Without assignments both builds fail.  After assignments,
one of them twice, both make records that correspond.  Of two pairs that derive from these records,
one is given another name and makes new records that correspond again; the other is given the same
name and hands the records back. -/
theorem Definition.backends_agree_pet :
    ∃ item d b s, Item.ofText? petSource = some item ∧ Definition.ofItem item = .ok d ∧
      d.blueprint = .ok b ∧ d.Written ∧ Schema.ofShape d.shape d.options = .ok s ∧
      let traits : FieldTraits (Cell ⊕ Nat) := d.traits ⟨fun _ => 0, fun _ m n => m == n⟩
      (∃ built e, b.fresh.build b traits {} = some built ∧ built.result = .error e ∧
        ((Builder.fresh ⟨0, s⟩).build {}).result = .error e) ∧
      ∃ t p q, SideBySide d b ⟨0, s⟩ t (petBuilder s) ∧
        (∀ f ∈ d.kept, ∃ m, b.methodsOf? f.name = some m ∧
          m.isAssigned t = (petBuilder s).isSet f.name) ∧
        (∃ built, t.build b traits {} = some built ∧ built.result = .ok p) ∧
        ((petBuilder s).build {}).result = .ok q ∧ Corresponds d ⟨0, s⟩ p.value q.value ∧
        q.value.values = [.text "Max", .bytes [7]] ∧
        (∃ t' p' q', t'.state.origin = some p ∧
          SideBySide d b ⟨0, s⟩ t' ((Builder.derive q).attempt ("name", .text "Rex")) ∧
          (∃ built, t'.build b traits ⟨p.place + 1⟩ = some built ∧ built.result = .ok p') ∧
          (((Builder.derive q).attempt ("name", .text "Rex")).build ⟨q.place + 1⟩).result =
            .ok q' ∧
          Corresponds d ⟨0, s⟩ p'.value q'.value ∧
          q'.value.values = [.text "Rex", .bytes [7]] ∧ p'.same p = false ∧ q'.same q = false) ∧
        ∃ t' p' q', t'.state.origin = some p ∧
          SideBySide d b ⟨0, s⟩ t' ((Builder.derive q).attempt ("name", .text "Max")) ∧
          (∃ built, t'.build b traits ⟨p.place + 1⟩ = some built ∧ built.result = .ok p') ∧
          (((Builder.derive q).attempt ("name", .text "Max")).build ⟨q.place + 1⟩).result =
            .ok q' ∧
          Corresponds d ⟨0, s⟩ p'.value q'.value ∧ p'.same p = true ∧ q'.same q = true := by
  obtain ⟨item, d, b, name, chip, parsed, defined, derived, written, nameKept, nameText, isName,
    chipKept, chipText, isChip, run⟩ := exists_petSource
  have lined := linesUp derived
  let others : FieldTraits Nat := ⟨fun _ => 0, fun _ m n => m == n⟩
  obtain ⟨s, made, agree⟩ := backends_agree derived written others
  have schema : d.HasSchema s := by
    obtain ⟨s', made', schema⟩ := exists_schema derived written
    rw [made, Except.ok.injEq] at made'
    exact made' ▸ schema
  have agree := agree ⟨0, s⟩ rfl
  -- what the builds at run time give
  obtain ⟨s', made', run⟩ := Option.bind_eq_some_iff.mp run
  rw [made] at made'
  obtain rfl := Option.some.inj made'
  obtain ⟨q, madeQ, run⟩ := Option.bind_eq_some_iff.mp run
  obtain ⟨other, madeOther, run⟩ := Option.bind_eq_some_iff.mp run
  obtain ⟨same, madeSame, run⟩ := Option.bind_eq_some_iff.mp run
  simp only [pure, Option.some.injEq, Prod.mk.injEq] at run
  obtain ⟨lacking, values, otherValues, isOther, isSame⟩ := run
  -- the pair that is given a name, a chip, and another name
  have pair₀ : @SideBySide Nat d b ⟨0, s⟩ b.fresh (.fresh ⟨0, s⟩) := .fresh
  obtain ⟨t₁, origin₁, pair₁⟩ := pair₀.attempt lined schema written nameKept (isName "Rex")
  obtain ⟨t₂, origin₂, pair₂⟩ := pair₁.attempt lined schema written chipKept isChip
  obtain ⟨t, origin, pair⟩ := pair₂.attempt lined schema written nameKept (isName "Max")
  rw [nameText, chipText] at pair
  have pair : SideBySide d b ⟨0, s⟩ t (petBuilder s) := pair
  have fresh : t.state.origin = none := origin.trans (origin₂.trans origin₁)
  have fresh' : (petBuilder s).state.origin = none := by
    simp only [petBuilder, Builder.origin_attemptAll]
    rfl
  have madeQ := eq_ok_of_toOption madeQ
  obtain ⟨p, builtP, corresponds, -⟩ := exists_of_build_eq_ok
    ((agree t _ pair).2 {} {} (fun o ho => nomatch fresh.symm.trans ho)
      (fun o ho => nomatch fresh'.symm.trans ho)) madeQ
  -- the pairs that derive from these records
  have derive : ∀ text r, (((Builder.derive q).attempt ("name", .text text)).build
      ⟨q.place + 1⟩).result = .ok r →
      ∃ t' p', t'.state.origin = some p ∧
        SideBySide d b ⟨0, s⟩ t' ((Builder.derive q).attempt ("name", .text text)) ∧
        (∃ built, t'.build b (d.traits others) ⟨p.place + 1⟩ = some built ∧
          built.result = .ok p') ∧
        Corresponds d ⟨0, s⟩ p'.value r.value ∧ p'.same p = r.same q := by
    intro text r made
    obtain ⟨t', origin', pair'⟩ :=
      (SideBySide.derive corresponds).attempt lined schema written nameKept (isName text)
    rw [nameText] at pair'
    have origin'' : ((Builder.derive q).attempt ("name", .text text)).state.origin = some q := by
      rw [Builder.origin_attempt]
      rfl
    obtain ⟨p', built', corresponds', same'⟩ := exists_of_build_eq_ok
      ((agree t' _ pair').2 ⟨p.place + 1⟩ ⟨q.place + 1⟩
        (fun o ho => Option.some.inj (origin'.symm.trans ho) ▸ Nat.lt_succ_self _)
        (fun o ho => Option.some.inj (origin''.symm.trans ho) ▸ Nat.lt_succ_self _)) made
    exact ⟨t', p', origin', pair', built', corresponds', same' _ _ origin' origin''⟩
  have madeOther := eq_ok_of_toOption madeOther
  have madeSame := eq_ok_of_toOption madeSame
  refine ⟨item, d, b, s, parsed, defined, derived, written, made, ?_, t, p, q, pair,
    fun f hf => ?_, builtP, madeQ, corresponds, values, ?_, ?_⟩
  · -- the name is required, so nothing can be built without it
    obtain ⟨built, ok, ⟨e, left, right⟩ | ⟨_, _, -, right, -⟩⟩ := (agree _ _ .fresh).2 {} {}
      (fun o ho => nomatch ho) (fun o ho => nomatch ho)
    · exact ⟨built, e, ok, left, right⟩
    · rw [right] at lacking
      cases lacking
  · obtain ⟨m, method, answer, -⟩ := (agree t _ pair).1 f hf
    exact ⟨m, method, answer⟩
  · obtain ⟨t', p', origin', pair', built', corresponds', same'⟩ := derive "Rex" other madeOther
    exact ⟨t', p', other, origin', pair', built', madeOther, corresponds', otherValues,
      same'.trans isOther, isOther⟩
  · obtain ⟨t', p', origin', pair', built', corresponds', same'⟩ := derive "Max" same madeSame
    exact ⟨t', p', same, origin', pair', built', madeSame, corresponds', same'.trans isSame, isSame⟩

end Recordwright
