import Mathlib.Data.List.Nodup
import Recordwright.Proofs.AssignedSet
import Recordwright.BuildState

/-!
# Checks of a build

What the two checks of a build find.  The check for required fields either finds none that is
missing and is silent, or fails with one entry for each missing field, in the order of the
descriptors, and reports their number (`checkRequired_eq`).  The comparison of one field finds a
difference iff the field was assigned and its value is not equal to the current one (`differs_eq`).

A validation error can be read as a list, by the name of a field, and as a map.  The map drops an
earlier entry where a later one has the same field; if no field has two entries, it has all of them
(`ValidationError.toMap_eq`).  The error for missing fields then answers alike in all three ways
(`get?_missingError`, `toMap_missingError`).
-/

namespace Recordwright

/-! ### Errors as maps -/

namespace ValidationError

/-- Entries for fields of different names, none of which is in the map yet, are put behind it. -/
theorem foldl_put (errors : List FieldError) (m : List (String × String))
    (h : (m.map (·.1) ++ errors.map (·.field)).Nodup) :
    errors.foldl (fun m f => (m.filter (·.1 != f.field)) ++ [(f.field, f.reason)]) m =
      m ++ errors.map fun f => (f.field, f.reason) := by
  -- the map grows along the list, so it is general
  induction errors generalizing m with
  | nil => simp
  | cons f rest ih =>
    have new : m.filter (·.1 != f.field) = m := by
      rw [List.filter_eq_self]
      intro entry member
      refine bne_iff_ne.mpr fun same => ?_
      have before : f.field ∈ m.map (·.1) := same ▸ List.mem_map_of_mem member
      exact (List.nodup_append.mp h).2.2 _ before _ List.mem_cons_self rfl
    have longer : ((m ++ [(f.field, f.reason)]).map (·.1) ++ rest.map (·.field)).Nodup := by
      rw [List.map_append, List.append_assoc]
      exact h
    rw [List.foldl_cons, new, ih _ longer, List.map_cons, List.append_assoc, List.singleton_append]

/-- If no field has two entries, the map has all entries. -/
theorem toMap_eq {e : ValidationError} (h : e.fields.Nodup) :
    e.toMap = e.errors.map fun f => (f.field, f.reason) :=
  foldl_put e.errors [] h

end ValidationError

namespace BuildState

variable {ρ ν : Type} {s : BuildState ρ}

@[simp] theorem isAssigned_fresh (size i : Nat) :
    (fresh size : BuildState ρ).isAssigned i = false :=
  AssignedSet.contains_empty size i

@[simp] theorem isAssigned_derived (origin : Shared ρ) (size i : Nat) :
    (derived origin size).isAssigned i = false :=
  AssignedSet.contains_empty size i

/-- Marking a field in range assigns that field and no other. -/
theorem isAssigned_mark (tight : s.assigned.Tight) {i : Nat} (hi : i < s.assigned.size) (j : Nat) :
    (s.mark i).isAssigned j = (s.isAssigned j || decide (j = i)) := by
  unfold isAssigned mark
  rw [AssignedSet.contains_insert tight, decide_eq_true hi, Bool.and_true]

/-! ### Required fields -/

/-- One more error for each field, in order. -/
theorem foldl_addRequired (e : ValidationError) (fields : List Descriptor) :
    fields.foldl (fun e f => e.addRequired f.name) e =
      ⟨e.record, e.errors ++ fields.map fun f => ⟨f.name, .required, requiredReason⟩⟩ := by
  induction fields generalizing e with
  | nil => simp
  | cons f rest ih =>
    rw [List.foldl_cons, ih]
    simp [ValidationError.addRequired]

/-- The error for missing fields has one entry for each, in order. -/
theorem missingError_eq (record : String) (fields : List Descriptor) :
    missingError record fields =
      ⟨record, fields.map fun f => ⟨f.name, .required, requiredReason⟩⟩ := by
  unfold missingError
  rw [foldl_addRequired]
  rfl

@[simp] theorem fields_missingError (record : String) (fields : List Descriptor) :
    (missingError record fields).fields = fields.map (·.name) := by
  simp [missingError_eq, ValidationError.fields]

/-- The error is as long as there are missing fields. -/
@[simp] theorem size_missingError (record : String) (fields : List Descriptor) :
    (missingError record fields).size = fields.length := by
  simp [missingError_eq, ValidationError.size]

/-- The error has the same reason for each missing field, and none for any other name. -/
theorem get?_missingError (record : String) (fields : List Descriptor) (name : String) :
    (missingError record fields).get? name =
      if name ∈ fields.map (·.name) then some requiredReason else none := by
  rw [missingError_eq, ValidationError.get?]
  induction fields with
  | nil => rfl
  | cons f rest ih =>
    rw [List.map_cons, List.find?_cons]
    by_cases same : f.name = name
    · simp [same]
    · simp only [beq_false_of_ne same, ih, List.map_cons, List.mem_cons, Ne.symm same, false_or]

/-- The map of the error has one entry for each missing field. -/
theorem toMap_missingError (record : String) {fields : List Descriptor}
    (h : (fields.map (·.name)).Nodup) :
    (missingError record fields).toMap = fields.map fun f => (f.name, requiredReason) := by
  have nodup : (missingError record fields).fields.Nodup := by rwa [fields_missingError]
  rw [ValidationError.toMap_eq nodup, missingError_eq, List.map_map]
  rfl

/-- A field is missing iff it is required and was not assigned. -/
theorem mem_missing {fields : List Descriptor} {f : Descriptor} :
    f ∈ s.missing fields ↔ f ∈ fields ∧ f.required = true ∧ s.isAssigned f.ordinal = false := by
  simp [missing]

/-- In a numbered list of fields none is missing iff each required one is assigned. -/
theorem missing_eq_nil_iff {fields : List Descriptor}
    (numbered : ∀ (i : Nat) (d : Descriptor), fields[i]? = some d → d.ordinal = i) :
    s.missing fields = [] ↔ ∀ (i : Nat) (d : Descriptor),
      fields[i]? = some d → d.required = true → s.isAssigned i = true := by
  rw [List.eq_nil_iff_forall_not_mem]
  constructor
  -- the ordinal that a field is asked by is its position
  · intro none i d hd required
    have present := none d
    rw [mem_missing, numbered i d hd] at present
    by_contra absent
    exact present ⟨List.mem_of_getElem? hd, required, by simpa using absent⟩
  · intro all d hd
    obtain ⟨member, required, absent⟩ := mem_missing.mp hd
    obtain ⟨i, hi⟩ := List.getElem?_of_mem member
    rw [numbered i d hi, all i d hi required] at absent
    cases absent

/-- What is missing depends on the assigned fields alone. -/
theorem missing_congr {ρ' : Type} {s' : BuildState ρ'} (fields : List Descriptor)
    (same : ∀ i, s.isAssigned i = s'.isAssigned i) : s.missing fields = s'.missing fields := by
  unfold missing
  simp only [same]

/-- **The check for required fields** is silent if none is missing, and else names and counts those
that are. -/
theorem checkRequired_eq (s : BuildState ρ) (record : String) (fields : List Descriptor) :
    s.checkRequired record fields =
      if s.missing fields = [] then (.ok (), [])
      else (.error (missingError record (s.missing fields)),
        [.rejected record (s.missing fields).length]) := by
  unfold checkRequired
  rw [missingError_eq]
  cases s.missing fields with
  | nil => rfl
  | cons f rest =>
    simp [ValidationError.toResult, ValidationError.isEmpty, ValidationError.size]

/-! ### Differences -/

/-- A field differs iff it was assigned a value that is not equal to the current one. -/
theorem differs_eq {i : Nat} {assigned : Option ν} (slot : s.isAssigned i = assigned.isSome)
    (equal : ν → ν → Bool) (current : ν) :
    s.differs equal i assigned current = assigned.any fun v => !equal v current := by
  unfold differs
  rw [slot]
  cases assigned <;> rfl

end BuildState

end Recordwright
