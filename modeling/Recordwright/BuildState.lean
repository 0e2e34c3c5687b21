import Recordwright.AssignedSet
import Recordwright.Descriptors
import Recordwright.Shared

/-!
# The state of a build

A builder has an origin or none, and the set of the fields that were assigned.  Without an origin the
build is fresh: every required field must be assigned.  With an origin the build is derived: if no
assigned value differs from the origin's, the origin itself is the result.
-/

namespace Recordwright

/-- The origin of a builder and its assigned fields. -/
structure BuildState (ρ : Type) where
  origin : Option (Shared ρ)
  assigned : AssignedSet
  deriving DecidableEq

/-- What a build gives: the record or the missing fields, the heap after it, and what it reports. -/
structure Built (ρ : Type) where
  result : Except ValidationError (Shared ρ)
  heap : Heap
  events : List Event

namespace BuildState

variable {ρ ν : Type}

/-- The state of a builder without an origin. -/
def fresh (size : Nat) : BuildState ρ := ⟨none, AssignedSet.empty size⟩

/-- The state of a builder with this origin. -/
def derived (origin : Shared ρ) (size : Nat) : BuildState ρ :=
  ⟨some origin, AssignedSet.empty size⟩

/-- Is there an origin? -/
def isDerived (s : BuildState ρ) : Bool := s.origin.isSome

/-- The state in which one more field is assigned. -/
def mark (s : BuildState ρ) (ordinal : Nat) : BuildState ρ :=
  { s with assigned := s.assigned.insert ordinal }

/-- Was the field assigned? -/
def isAssigned (s : BuildState ρ) (ordinal : Nat) : Bool := s.assigned.contains ordinal

/-- The required fields that were not assigned, in order. -/
def missing (s : BuildState ρ) (fields : List Descriptor) : List Descriptor :=
  fields.filter fun f => f.required && !s.isAssigned f.ordinal

/-- The error that names these fields. -/
def missingError (record : String) (missing : List Descriptor) : ValidationError :=
  missing.foldl (fun e f => e.addRequired f.name) (ValidationError.empty record)

/-- Are all required fields assigned?  If not, all that are missing are named. -/
def checkRequired (s : BuildState ρ) (record : String) (fields : List Descriptor) :
    Except ValidationError Unit × List Event :=
  let error := missingError record (s.missing fields)
  (error.toResult, if error.isEmpty then [] else [.rejected record error.size])

/-- The value of a required field, or the error that names the field. -/
def require (record : String) (field : Descriptor) (value : Option ν) :
    Except ValidationError ν :=
  match value with
  | some v => .ok v
  | none => .error ((ValidationError.empty record).addRequired field.name)

/-- Was the field assigned a value that differs from the current one? -/
def differs (s : BuildState ρ) (equal : ν → ν → Bool) (ordinal : Nat) (assigned : Option ν)
    (current : ν) : Bool :=
  s.isAssigned ordinal &&
    match assigned with
    | some v => !equal v current
    | none => false

/-- The result of a derived build that changed nothing: the origin itself. -/
def unchanged (s : BuildState ρ) (record : String) (origin : Shared ρ) : Shared ρ × Event :=
  (origin, .returnedOrigin record s.assigned.count)

/-- The result of a build that made a new record. -/
def finish (s : BuildState ρ) (heap : Heap) (record : String) (value : ρ) :
    (Shared ρ × Heap) × Event :=
  (heap.allocate value, .built record s.assigned.count s.isDerived)

@[simp] theorem origin_mark (s : BuildState ρ) (i : Nat) : (s.mark i).origin = s.origin := rfl

@[simp] theorem isDerived_mark (s : BuildState ρ) (i : Nat) :
    (s.mark i).isDerived = s.isDerived := rfl

@[simp] theorem isDerived_fresh (size : Nat) : (fresh size : BuildState ρ).isDerived = false := rfl

@[simp] theorem isDerived_derived (origin : Shared ρ) (size : Nat) :
    (derived origin size).isDerived = true := rfl

end BuildState

end Recordwright
