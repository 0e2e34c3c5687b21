import Recordwright.Json.Fault

/-!
# What can go wrong with a record

A shape can be unusable, a build can lack required fields, and a builder can be handed a field or a
value that its record does not have.  Each has a message, and an error of any kind, the unreadable
description of a shape included, names its kind in front of it.
-/

namespace Recordwright

/-- Why no builder can be made for a shape. -/
inductive ShapeError where
  /-- The record has no name. -/
  | emptyRecordName
  /-- A field is not named by an identifier. -/
  | invalidFieldName (record field : String)
  /-- Two fields have one name. -/
  | duplicateField (record field : String)
  /-- There are more fields than allowed. -/
  | tooManyFields (record : String) (count greatest : Nat)
  /-- A method of the builder has a name that is taken or that no method can have. -/
  | setterConflict (record method : String)
  /-- The declared type has no storage type. -/
  | unsupportedType (record field type : String)
  deriving DecidableEq, Repr

/-- What is wrong with a field in a build. -/
inductive FieldFault where
  /-- The field is required and was not assigned. -/
  | required
  deriving DecidableEq, Repr

/-- The reason given for a required field that was not assigned. -/
def requiredReason : String := "required but not set"

/-- A field that is wrong in a build. -/
structure FieldError where
  field : String
  fault : FieldFault
  reason : String
  deriving DecidableEq, Repr

/-- The fields that are wrong in a build of a record. -/
structure ValidationError where
  record : String
  errors : List FieldError
  deriving DecidableEq, Repr

/-- How a builder was used against its schema. -/
inductive UsageError where
  /-- The record has no such field. -/
  | unknownField (record field : String)
  /-- The value is not of the field's type. -/
  | typeMismatch (record field expected found : String)
  deriving DecidableEq, Repr

/-- The message of a shape error. -/
def ShapeError.message : ShapeError → String
  | .emptyRecordName => "record shape has an empty name"
  | .invalidFieldName record field => record ++ ": `" ++ field ++ "` is not a valid field name"
  | .duplicateField record field => record ++ ": field `" ++ field ++ "` is declared more than once"
  | .tooManyFields record count greatest =>
    record ++ ": " ++ toString count ++ " fields exceed the configured maximum of " ++
      toString greatest
  | .setterConflict record method =>
    record ++ ": builder method `" ++ method ++ "` is not a usable method name"
  | .unsupportedType record field type =>
    record ++ ": field `" ++ field ++ "` has unsupported type `" ++ type ++ "`"

namespace ValidationError

/-- No field is wrong yet. -/
def empty (record : String) : ValidationError := ⟨record, []⟩

/-- One more required field that was not assigned. -/
def addRequired (e : ValidationError) (field : String) : ValidationError :=
  { e with errors := e.errors ++ [⟨field, .required, requiredReason⟩] }

/-- Are no fields wrong? -/
def isEmpty (e : ValidationError) : Bool := e.errors.isEmpty

/-- The number of wrong fields. -/
def size (e : ValidationError) : Nat := e.errors.length

/-- The names of the wrong fields. -/
def fields (e : ValidationError) : List String := e.errors.map (·.field)

/-- The reason given for a field, if it is wrong. -/
def get? (e : ValidationError) (field : String) : Option String :=
  (e.errors.find? (·.field == field)).map (·.reason)

/-- The wrong fields without repetition, each with its last reason. -/
def toMap (e : ValidationError) : List (String × String) :=
  e.errors.foldl (fun m f => (m.filter (·.1 != f.field)) ++ [(f.field, f.reason)]) []

/-- Success if no field is wrong. -/
def toResult (e : ValidationError) : Except ValidationError Unit :=
  if e.isEmpty then .ok () else .error e

/-- One line for the record and one for each wrong field. -/
def message (e : ValidationError) : String :=
  "error building " ++ e.record ++ ", the following fields have errors:" ++
    String.join (e.errors.map fun f => "\n   " ++ f.field ++ ": " ++ f.reason)

@[simp] theorem fields_empty (record : String) : (empty record).fields = [] := rfl

@[simp] theorem record_addRequired (e : ValidationError) (field : String) :
    (e.addRequired field).record = e.record := rfl

@[simp] theorem fields_addRequired (e : ValidationError) (field : String) :
    (e.addRequired field).fields = e.fields ++ [field] := by
  simp [fields, addRequired]

end ValidationError

/-- The message of a usage error. -/
def UsageError.message : UsageError → String
  | .unknownField record field => record ++ " has no field `" ++ field ++ "`"
  | .typeMismatch record field expected found =>
    record ++ "." ++ field ++ ": expected a value of type " ++ expected ++ ", found " ++ found

/-- An error of any kind. -/
inductive AnyError where
  | shape (e : ShapeError)
  | validation (e : ValidationError)
  | usage (e : UsageError)
  | description (f : Json.Fault)
  deriving DecidableEq, Repr

namespace AnyError

/-- The message without the kind. -/
def source : AnyError → String
  | .shape e => e.message
  | .validation e => e.message
  | .usage e => e.message
  | .description f => f.message

/-- The message with the kind in front of it. -/
def message : AnyError → String
  | .shape e => "shape error: " ++ e.message
  | .validation e => "validation error: " ++ e.message
  | .usage e => "usage error: " ++ e.message
  | .description f => "invalid shape description: " ++ f.message

end AnyError

end Recordwright
