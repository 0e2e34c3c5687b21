import Recordwright.Description
import Recordwright.Proofs.Descriptors

/-!
# Descriptions of well-formed builders

When a builder can be described, and what its description lists.  The methods of all fields claim
their names one after another, each name must be one that a method can have, and none may be taken.
So the claims of all fields are one search for the first name that offends (`claimNames_eq`,
`settersFrom_eq`), given the names that every builder has: there is a description iff all names pass
(`synthesize_eq_ok_iff`), and otherwise the first offender is blamed (`synthesize_eq_error_iff`).

The description then has one setter for each field, in order (`setters_of_synthesize`), and its
other lists are those of the required fields and of all fields (`lists_of_synthesize`).  A setter is
found by the name of its field, at the ordinal that the field is found at
(`ordinal_setter?_of_synthesize`).
-/

namespace Recordwright

/-! ### Names of methods -/

/-- Names are claimed unless one of them offends; each that is claimed is taken. -/
theorem claimNames_eq (record : String) (taken names : List String) :
    claimNames record taken names =
      match offender? Name.isMethodName taken names with
      | none => .ok (names.reverse ++ taken)
      | some name => .error (.setterConflict record name) := by
  induction names generalizing taken with
  | nil => rfl
  | cons first rest ih =>
    unfold claimNames offender?
    split
    · rfl
    · rw [ih, List.reverse_cons, List.append_assoc]
      rfl

/-- Claims can be made in parts, each after the one before. -/
theorem claimNames_append {record : String} {taken names rest : List String} :
    claimNames record taken (names ++ rest) =
      (claimNames record taken names).bind fun more => claimNames record more rest := by
  induction names generalizing taken with
  | nil => rfl
  | cons name names ih =>
    rw [List.cons_append, claimNames, claimNames]
    split
    · rfl
    · exact ih

namespace Descriptors

variable {ds : Descriptors} {options : Options} {description : Description}

/-- The names of the two methods of each field. -/
def methodNames (lead : String) (fields : List Descriptor) : List String :=
  fields.flatMap fun d => [(d.setter lead).method, (d.setter lead).query]

/-- The names of the methods are those that the names of the fields give. -/
theorem methodNames_eq (lead : String) (fields : List Descriptor) :
    methodNames lead fields =
      (fields.map (·.name)).flatMap fun n => [Name.setterOf lead n, Name.queryOf n] := by
  rw [List.flatMap_map]
  rfl

/-- **Claims of all fields.** The methods are described if their names can be claimed together, and
they are those of the fields, in order. -/
theorem settersFrom_eq (record lead : String) (taken : List String) (fields : List Descriptor) :
    settersFrom record lead taken fields =
      (claimNames record taken (methodNames lead fields)).map fun _ =>
        fields.map (·.setter lead) := by
  -- what the first field claims is taken for the others, so the names taken are general
  induction fields generalizing taken with
  | nil => rfl
  | cons d rest ih =>
    rw [settersFrom, methodNames, List.flatMap_cons, claimNames_append]
    cases claimed : claimNames record taken [(d.setter lead).method, (d.setter lead).query] with
    | error e => rfl
    | ok more =>
      have others := ih more
      rw [methodNames] at others
      simp only [Except.bind, others]
      cases claimNames record more _ <;> rfl

/-- What a description says, if there is one: one setter for each field, in order, and the lists of
the required fields and of all fields. -/
def described (ds : Descriptors) (options : Options) : Description where
  record := ds.record
  builder := options.builderNameFor ds.record
  setters := ds.fields.map (·.setter options.setterLead)
  freshRequired := ds.required.map (·.ordinal)
  compareOrder := ds.fields.map (·.ordinal)
  errorReason := requiredReason
  errorFields := ds.required.map (·.name)

/-- **Synthesis.** There is a description unless the name of a method offends. -/
theorem synthesize_eq (ds : Descriptors) (options : Options) :
    ds.synthesize options =
      match offender? Name.isMethodName Name.builderMethods
        (methodNames options.setterLead ds.fields) with
      | none => .ok (ds.described options)
      | some name => .error (.setterConflict ds.record name) := by
  rw [synthesize, settersFrom_eq, claimNames_eq]
  cases offender? Name.isMethodName Name.builderMethods
    (methodNames options.setterLead ds.fields) <;> rfl

/-- The names of the methods pass, given those that every builder has. -/
theorem synthesize_eq_ok_iff :
    ds.synthesize options = .ok description ↔
      Passes Name.isMethodName Name.builderMethods (methodNames options.setterLead ds.fields) ∧
        description = ds.described options := by
  rw [synthesize_eq, ← offender?_eq_none_iff]
  cases offender? Name.isMethodName Name.builderMethods
    (methodNames options.setterLead ds.fields) with
  | none => simp [eq_comm]
  | some name => simp

/-- The methods that every builder has do not offend. -/
theorem passes_builderMethods : Passes Name.isMethodName [] Name.builderMethods :=
  passes_nil_seen_iff.mpr ⟨by decide, by decide⟩

/-- A synthesis that fails blames the first name that offends, among those that every builder has
and those of the fields' methods. -/
theorem synthesize_eq_error_iff {e : ShapeError} :
    ds.synthesize options = .error e ↔
      ∃ name, IsFirstOffender Name.isMethodName
        (Name.builderMethods ++ methodNames options.setterLead ds.fields) name ∧
          e = .setterConflict ds.record name := by
  simp only [← offender?_eq_some_iff_isFirstOffender passes_builderMethods, synthesize_eq]
  cases offender? Name.isMethodName Name.builderMethods
    (methodNames options.setterLead ds.fields) with
  | none => simp
  | some name => simp [eq_comm]

/-- What a synthesis that fails blames: a method whose name no method can have, or occurs twice. -/
theorem synthesize_eq_error {e : ShapeError} (h : ds.synthesize options = .error e) :
    ∃ name ∈ methodNames options.setterLead ds.fields,
      (Name.isMethodName name = false ∨
        2 ≤ (Name.builderMethods ++ methodNames options.setterLead ds.fields).count name) ∧
      e = .setterConflict ds.record name := by
  -- The names that every builder has pass, so the offender is one of the fields' methods.
  obtain ⟨name, first, rfl⟩ := synthesize_eq_error_iff.mp h
  have found := (offender?_eq_some_iff_isFirstOffender passes_builderMethods).mpr first
  obtain ⟨before, after, split, -⟩ := offender?_eq_some_iff.mp found
  refine ⟨name, split ▸ List.mem_append_right _ List.mem_cons_self, ?_, rfl⟩
  cases fits : Name.isMethodName name with
  | false => exact .inl rfl
  | true => exact .inr (first.two_le_count fits)

/-- A description has one setter for each field, in order. -/
theorem setters_of_synthesize (h : ds.synthesize options = .ok description) :
    description.setters = ds.fields.map (·.setter options.setterLead) := by
  rw [(synthesize_eq_ok_iff.mp h).2, described]

/-- The names of the methods of a builder, if it can be described: they are fit for methods, and
differ from each other and from those that every builder has. -/
theorem exists_synthesize_iff :
    (∃ description, ds.synthesize options = .ok description) ↔
      (∀ n ∈ methodNames options.setterLead ds.fields,
        Name.isMethodName n = true ∧ n ∉ Name.builderMethods) ∧
        (methodNames options.setterLead ds.fields).Nodup := by
  simp only [synthesize_eq_ok_iff, exists_and_left, exists_eq, and_true, Passes]

/-- Both methods of each field of a description have names that are fit for methods. -/
theorem isMethodName_of_synthesize (h : ds.synthesize options = .ok description) :
    ∀ s ∈ description.setters,
      Name.isMethodName s.method = true ∧ Name.isMethodName s.query = true := by
  intro s member
  rw [setters_of_synthesize h] at member
  obtain ⟨d, hd, rfl⟩ := List.mem_map.mp member
  have fit := (exists_synthesize_iff.mp ⟨description, h⟩).1
  have method : (d.setter options.setterLead).method ∈ methodNames options.setterLead ds.fields :=
    List.mem_flatMap.mpr ⟨d, hd, List.mem_cons_self⟩
  have query : (d.setter options.setterLead).query ∈ methodNames options.setterLead ds.fields :=
    List.mem_flatMap.mpr ⟨d, hd, List.mem_cons_of_mem _ List.mem_cons_self⟩
  exact ⟨(fit _ method).1, (fit _ query).1⟩

/-! ### What a description lists -/

/-- What a description says beside the setters is read off from the descriptors. -/
theorem lists_of_synthesize (h : ds.synthesize options = .ok description) :
    description.record = ds.record ∧ description.freshRequired = ds.required.map (·.ordinal) ∧
      description.compareOrder = ds.fields.map (·.ordinal) ∧
      description.errorReason = requiredReason ∧
      description.errorFields = ds.required.map (·.name) := by
  obtain ⟨-, rfl⟩ := synthesize_eq_ok_iff.mp h
  exact ⟨rfl, rfl, rfl, rfl, rfl⟩

/-- The options name the builder. -/
theorem builder_of_synthesize (h : ds.synthesize options = .ok description) :
    description.builder = options.builderNameFor ds.record := by
  rw [(synthesize_eq_ok_iff.mp h).2, described]

/-- The setter of a name is the one of the field with this name. -/
theorem setter?_of_synthesize (h : ds.synthesize options = .ok description) (name : String) :
    description.setter? name = (ds.get? name).map (·.setter options.setterLead) := by
  rw [Description.setter?, setters_of_synthesize h, List.find?_map]
  rfl

/-- The ordinal of the setter of a name is the position of the field with this name. -/
theorem ordinal_setter?_of_synthesize (h : ds.synthesize options = .ok description)
    (name : String) : (description.setter? name).map (·.ordinal) = ds.ordinalOf? name := by
  rw [setter?_of_synthesize h, Option.map_map]
  rfl

/-- The setter that is found by a name is the one whose field has it. -/
theorem setter?_eq_some_iff (wellFormed : ds.WellFormed)
    (h : ds.synthesize options = .ok description) {name : String} {s : Setter} :
    description.setter? name = some s ↔ s ∈ description.setters ∧ s.field = name := by
  rw [setter?_of_synthesize h, setters_of_synthesize h, Option.map_eq_some_iff, List.mem_map]
  constructor
  · rintro ⟨d, found, rfl⟩
    have named : d.name = name := by simpa using List.find?_some found
    exact ⟨⟨d, List.mem_of_find?_eq_some found, rfl⟩, named⟩
  · rintro ⟨⟨d, member, rfl⟩, rfl⟩
    obtain ⟨i, field⟩ := List.getElem?_of_mem member
    exact ⟨d, wellFormed.get?_name field, rfl⟩

/-- **Synthesis, exactly.** Let `N` be the names of the methods that every builder has, followed by
the two names of the methods of each field: the lead and the snake-case form of the field's name,
and that form without leading underscores between `is_` and `_set`.

* There is a description iff the names of the fields' methods are fit for methods and no two names
  in `N` are the same.
* Otherwise the first name in `N` that is not fit or repeats an earlier one is blamed.
* A description has one setter for each field, in order, with what the descriptor says; no two
  methods share a name, and the setter found by a name is the one whose field has this name.  Its
  other lists are those of the required fields in order and of all positions. -/
theorem synthesis {shape : Shape} {limits : Limits} (extracted : shape.extract limits = .ok ds)
    (options : Options) :
    let method := fun d : Descriptor => options.setterLead ++ Name.snakeCase d.name
    let query := fun d : Descriptor =>
      "is_" ++ String.ofList ((Name.snakeCase d.name).toList.dropWhile (· == '_')) ++ "_set"
    let N := ["new", "from_origin", "build"] ++ ds.fields.flatMap fun d => [method d, query d]
    ((∃ D, ds.synthesize options = .ok D) ↔
      (∀ d ∈ ds.fields,
        Name.isMethodName (method d) = true ∧ Name.isMethodName (query d) = true) ∧ N.Nodup) ∧
    (∀ e, ds.synthesize options = .error e ↔
      ∃ name, IsFirstOffender Name.isMethodName N name ∧ e = .setterConflict ds.record name) ∧
    ∀ D, ds.synthesize options = .ok D →
      D.setters = ds.fields.map (fun d =>
        Setter.mk d.name (method d) (query d) d.type d.ordinal d.required) ∧
      (D.setters.flatMap fun s => [s.method, s.query]).Nodup ∧
      (∀ (i : Nat) d, ds.fields[i]? = some d → D.setter? d.name = D.setters[i]?) ∧
      (∀ name s, D.setter? name = some s ↔ s ∈ D.setters ∧ s.field = name) ∧
      D.freshRequired = (ds.fields.filter (·.required)).map (·.ordinal) ∧
      D.errorFields = (ds.fields.filter (·.required)).map (·.name) ∧
      D.compareOrder = List.range ds.fields.length := by
  intro method query N
  have wellFormed := Shape.wellFormed_of_extract extracted
  have names : methodNames options.setterLead ds.fields =
      ds.fields.flatMap fun d => [method d, query d] := rfl
  have all : N = Name.builderMethods ++ methodNames options.setterLead ds.fields := rfl
  have passes : Passes Name.isMethodName Name.builderMethods
      (methodNames options.setterLead ds.fields) ↔
      (∀ d ∈ ds.fields,
        Name.isMethodName (method d) = true ∧ Name.isMethodName (query d) = true) ∧ N.Nodup := by
    rw [passes_iff_nodup_append passes_builderMethods, ← all, names]
    simp only [List.forall_mem_flatMap, List.forall_mem_cons, List.not_mem_nil,
      false_imp_iff, implies_true, and_true]
  refine ⟨?_, fun e => synthesize_eq_error_iff, fun D ok => ?_⟩
  · simp only [synthesize_eq_ok_iff, exists_and_left, exists_eq, and_true, passes]
  · have setters := setters_of_synthesize ok
    obtain ⟨-, fresh, order, -, errors⟩ := lists_of_synthesize ok
    refine ⟨setters, ?_, fun i d field => ?_, fun name s => setter?_eq_some_iff wellFormed ok,
      fresh, errors, order.trans wellFormed.map_ordinal⟩
    · rw [setters, List.flatMap_map]
      exact (synthesize_eq_ok_iff.mp ok).1.2
    · rw [setter?_of_synthesize ok, wellFormed.get?_name field, setters, List.getElem?_map, field]

/-- Two fields whose names differ in their leading underscores. -/
def underscored : Descriptors :=
  ⟨"Pair", [⟨"x", "int", true, 0⟩, ⟨"_x", "int", false, 1⟩]⟩

/-- The queries of both fields have one name, and the second one is blamed although every name is
fit for a method. -/
theorem synthesis_underscored :
    Shape.extract ⟨"Pair", [⟨"x", "int", true, false⟩, ⟨"_x", "int", false, false⟩]⟩ {} =
      .ok underscored ∧
    underscored.synthesize {} = .error (.setterConflict "Pair" "is_x_set") ∧
    ¬∃ D, underscored.synthesize {} = .ok D := by
  have extracted : Shape.extract
      ⟨"Pair", [⟨"x", "int", true, false⟩, ⟨"_x", "int", false, false⟩]⟩ {} = .ok underscored := by
    decide
  obtain ⟨described, blamed, -⟩ := synthesis extracted {}
  refine ⟨extracted, (blamed _).mpr ⟨"is_x_set", ?_, rfl⟩, fun success => ?_⟩
  · exact ⟨["new", "from_origin", "build", "with_x", "is_x_set", "with__x"], [],
      by decide, by decide, by decide, .inr (by decide)⟩
  · exact absurd (described.mp success).2 (by decide)

end Descriptors

end Recordwright
