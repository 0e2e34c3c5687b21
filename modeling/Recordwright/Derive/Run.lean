import Recordwright.BuildState
import Recordwright.Derive.Blueprint

/-!
# Running a derived builder

What the code of a blueprint does when it runs.  The values of fields are of any kind: of their types
only the default and the comparison matter, and a copy is the value itself.  A run is stuck, and gives
nothing, where the blueprint names a field, a value or a descriptor that there is not.
-/

namespace Recordwright

open Source

/-- What the type of each field provides. -/
structure FieldTraits (ν : Type) where
  /-- The value of a field that was never given one. -/
  default : Ident → ν
  /-- The comparison of a field's values. -/
  equal : Ident → ν → ν → Bool

/-- The value of a struct: its fields with their values. -/
abbrev StructValue (ν : Type) := List (Ident × ν)

/-- A builder that runs by a blueprint. -/
structure TypedBuilder (ν : Type) where
  state : BuildState (StructValue ν)
  /-- The fields of the builder with what they store. -/
  storage : List (Ident × Option ν)

namespace Blueprint

variable {ν : Type} (b : Blueprint)

/-- The fields of a builder that stores nothing. -/
def emptyStorage : List (Ident × Option ν) := b.storage.map fun s => (s.1, none)

/-- A builder without an origin. -/
def fresh : TypedBuilder ν := ⟨.fresh b.size, b.emptyStorage⟩

/-- A builder with this origin. -/
def derive (origin : Shared (StructValue ν)) : TypedBuilder ν :=
  ⟨.derived origin b.size, b.emptyStorage⟩

end Blueprint

namespace FieldMethods

variable {ν : Type}

/-- Stores a value in the field of the builder with this name. -/
def store (target : Ident) (value : ν) (storage : List (Ident × Option ν)) :
    List (Ident × Option ν) :=
  storage.map fun s => if s.1 = target then (s.1, some value) else s

/-- Calls the method that assigns the field. -/
def assign (m : FieldMethods) (value : ν) (t : TypedBuilder ν) : TypedBuilder ν :=
  ⟨t.state.mark m.ordinal, store m.target value t.storage⟩

/-- Calls the method that tells whether the field was assigned. -/
def isAssigned (m : FieldMethods) (t : TypedBuilder ν) : Bool := t.state.isAssigned m.ordinal

@[simp] theorem origin_assign (m : FieldMethods) (value : ν) (t : TypedBuilder ν) :
    (m.assign value t).state.origin = t.state.origin := rfl

end FieldMethods

namespace TypedBuilder

variable {ν : Type}

/-- The values that a build works on, by their numbers. -/
abbrev Locals (ν : Type) := List (Nat × ν)

/-- Takes the values out of the builder. -/
def bind (storage : List (Ident × Option ν)) : List Binding → Option (Locals (Option ν))
  | [] => some []
  | s :: rest => do
    let value ← storage.lookup s.source
    return (s.slot, value) :: (← bind storage rest)

/-- Takes the values that a fresh build must have; the first that is lacking is an error. -/
def takeAll (record : String) (fields : List Descriptor) (locals : Locals (Option ν)) :
    List Take → Option (Except ValidationError (Locals ν))
  | [] => some (.ok [])
  | t :: rest => do
    let field ← fields[t.ordinal]?
    let value ← locals.lookup t.slot
    match BuildState.require record field value with
    | .error e => return .error e
    | .ok v =>
      match ← takeAll record fields locals rest with
      | .error e => return .error e
      | .ok more => return .ok ((t.slot, v) :: more)

/-- The value of a field of a fresh record. -/
def freshValue (traits : FieldTraits ν) (locals : Locals (Option ν)) (taken : Locals ν)
    (field : Ident) : FreshValue → Option ν
  | .taken slot => taken.lookup slot
  | .orDefault slot => (locals.lookup slot).map (·.getD (traits.default field))
  | .default => some (traits.default field)

/-- The value of a field of a derived record. -/
def derivedValue (locals : Locals (Option ν)) (origin : StructValue ν) :
    DerivedValue → Option ν
  | .orOrigin slot field => do
    let value ← locals.lookup slot
    let current ← origin.lookup field
    return value.getD current
  | .origin field => origin.lookup field

/-- Does an assigned value differ from the origin's? -/
def isChanged (traits : FieldTraits ν) (state : BuildState (StructValue ν))
    (locals : Locals (Option ν)) (origin : StructValue ν) : List Difference → Option Bool
  | [] => some false
  | d :: rest => do
    let value ← locals.lookup d.slot
    let current ← origin.lookup d.field
    if state.differs (traits.equal d.field) d.ordinal value current then return true
    else isChanged traits state locals origin rest

/-- The fields of a new record. -/
def fields {κ : Type} (value : Ident → κ → Option ν) : List (Ident × κ) → Option (StructValue ν)
  | [] => some []
  | (field, how) :: rest => do
    let v ← value field how
    return (field, v) :: (← fields value rest)

/-- Finishes a builder by the blueprint that it was made by. -/
def build (b : Blueprint) (traits : FieldTraits ν) (t : TypedBuilder ν) (heap : Heap) :
    Option (Built (StructValue ν)) := do
  let locals ← bind t.storage b.bindings
  match t.state.origin with
  | none =>
    match t.state.checkRequired b.record b.descriptors with
    | (.error e, events) => return ⟨.error e, heap, events⟩
    | (.ok (), events) =>
      -- No required field is missing any more, so every value that must be there is.
      match ← takeAll b.record b.descriptors locals b.takes with
      | .error e => return ⟨.error e, heap, events⟩
      | .ok taken =>
        let value ← fields (freshValue traits locals taken) b.freshValues
        let ((record, heap), event) := t.state.finish heap b.record value
        return ⟨.ok record, heap, events ++ [event]⟩
  | some origin =>
    if ← isChanged traits t.state locals origin.value b.differences then
      let value ← fields (fun _ => derivedValue locals origin.value) b.derivedValues
      let ((record, heap), event) := t.state.finish heap b.record value
      return ⟨.ok record, heap, [event]⟩
    else
      let (record, event) := t.state.unchanged b.record origin
      return ⟨.ok record, heap, [event]⟩

end TypedBuilder

end Recordwright
