import Recordwright.Error
import Recordwright.Event
import Recordwright.Field.Name
import Recordwright.Options
import Recordwright.Shape
import Recordwright.Text.Blank

/-!
# Field descriptors

`extract` turns a shape into the ordered list of the fields that each record has.  Static fields are
left out and the others are numbered from zero in the order of their declarations.  A shape is
refused for a blank name, else for its first field whose name is no identifier or repeats an earlier
one, else for too many fields.
-/

namespace Recordwright

/-- One field of a record. -/
structure Descriptor where
  name : String
  /-- The type as it was declared. -/
  type : String
  required : Bool
  /-- The position among the fields. -/
  ordinal : Nat
  deriving DecidableEq, Repr

/-- The fields of a record in order. -/
structure Descriptors where
  record : String
  fields : List Descriptor
  deriving DecidableEq, Repr

namespace Descriptors

/-- The number of fields. -/
def size (ds : Descriptors) : Nat := ds.fields.length

/-- Has the record no fields? -/
def isEmpty (ds : Descriptors) : Bool := ds.fields.isEmpty

/-- The field with this name. -/
def get? (ds : Descriptors) (name : String) : Option Descriptor :=
  ds.fields.find? (·.name == name)

/-- The position of the field with this name. -/
def ordinalOf? (ds : Descriptors) (name : String) : Option Nat := (ds.get? name).map (·.ordinal)

/-- The required fields in order. -/
def required (ds : Descriptors) : List Descriptor := ds.fields.filter (·.required)

end Descriptors

/-- The JSON value of a descriptor. -/
def Descriptor.toTree (d : Descriptor) : Json.Tree :=
  .object [("name", .string d.name), ("ty", .string d.type), ("required", .bool d.required),
    ("ordinal", Json.Tree.ofNat d.ordinal)]

/-- The JSON value of descriptors. -/
def Descriptors.toTree (ds : Descriptors) : Json.Tree :=
  .object [("record", .string ds.record), ("fields", .array (ds.fields.map Descriptor.toTree))]

namespace Shape

/-- The descriptors of the declarations, given the names before them and the next position. -/
def describe (record : String) :
    List String → Nat → List FieldDeclaration → Except ShapeError (List Descriptor)
  | _, _, [] => .ok []
  | seen, ordinal, d :: rest =>
    if !Name.isFieldName d.name then .error (.invalidFieldName record d.name)
    else if seen.contains d.name then .error (.duplicateField record d.name)
    else
      match describe record (d.name :: seen) (ordinal + 1) rest with
      | .ok ds => .ok (⟨d.name, d.type, d.required, ordinal⟩ :: ds)
      | .error e => .error e

/-- The descriptors of a shape within the limits. -/
def extract (s : Shape) (limits : Limits) : Except ShapeError Descriptors :=
  if Text.isBlankText s.name then .error .emptyRecordName
  else
    match describe s.name [] 0 s.kept with
    | .error e => .error e
    | .ok fields =>
      match limits.maxFields with
      | none => .ok ⟨s.name, fields⟩
      | some greatest =>
        if greatest < fields.length then
          .error (.tooManyFields s.name fields.length greatest)
        else .ok ⟨s.name, fields⟩

/-- What the extraction of these descriptors reports. -/
def extractionEvent (s : Shape) (ds : Descriptors) : Event :=
  .extracted s.name ds.size (s.fields.length - ds.size)

/-- The descriptors of a shape and what their extraction reports. -/
def extractReporting (s : Shape) (limits : Limits) :
    Except ShapeError Descriptors × List Event :=
  match s.extract limits with
  | .ok ds => (.ok ds, [s.extractionEvent ds])
  | .error e => (.error e, [])

end Shape

end Recordwright
