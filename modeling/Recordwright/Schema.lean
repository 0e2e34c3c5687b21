import Recordwright.Description
import Recordwright.Field.Type
import Recordwright.Memo

/-!
# Schemas

A schema is a record described at run time: its descriptors, the description of its builder and the
type of each field.  Two schemas are equal when their descriptors are; the options that named the
builder do not matter.
-/

namespace Recordwright

/-- A record described at run time. -/
structure Schema where
  descriptors : Descriptors
  description : Description
  types : List FieldType
  deriving DecidableEq

namespace Schema

/-- The name of the record. -/
def record (s : Schema) : String := s.descriptors.record

/-- The fields in order. -/
def fields (s : Schema) : List Descriptor := s.descriptors.fields

/-- The number of fields. -/
def size (s : Schema) : Nat := s.fields.length

/-- The type of the field at a position. -/
def type? (s : Schema) (ordinal : Nat) : Option FieldType := s.types[ordinal]?

/-- Have both schemas the same descriptors? -/
def equal (s t : Schema) : Bool := s.descriptors == t.descriptors

/-- The types of fields, or the first field whose type has no storage type. -/
def typesOf (record : String) : List Descriptor → Except ShapeError (List FieldType)
  | [] => .ok []
  | d :: rest =>
    match FieldType.parse? d.type with
    | none => .error (.unsupportedType record d.name d.type)
    | some t =>
      match typesOf record rest with
      | .ok ts => .ok (t :: ts)
      | .error e => .error e

/-- The schema with these descriptors. -/
def ofDescriptors (ds : Descriptors) (options : Options) : Except ShapeError Schema := do
  let description ← ds.synthesize options
  let types ← typesOf ds.record ds.fields
  return { descriptors := ds, description, types }

/-- The schema of a shape. -/
def ofShape (shape : Shape) (options : Options) : Except ShapeError Schema := do
  ofDescriptors (← shape.extract options.limits) options

/-- What the making of a schema reports. -/
def creationEvent (s : Schema) : Event :=
  .schemaCreated s.record s.description.builder s.descriptors.size

/-- The schema of a shape and what its making reports. -/
def ofShapeReporting (shape : Shape) (options : Options) :
    Except ShapeError Schema × List Event :=
  match shape.extract options.limits with
  | .error e => (.error e, [])
  | .ok ds =>
    match ofDescriptors ds options with
    | .error e => (.error e, [shape.extractionEvent ds])
    | .ok s => (.ok s, [shape.extractionEvent ds, s.creationEvent])

/-- The schema of a shape, with descriptors from the memo if it has them. -/
def ofShapeMemoized (memo : Memo) (heap : Heap) (shape : Shape) (options : Options) :
    Except ShapeError Schema × Memo × Heap :=
  match memo.extract heap shape options.limits with
  | (.error e, memo, heap) => (.error e, memo, heap)
  | (.ok ds, memo, heap) => (ofDescriptors ds.value options, memo, heap)

/-- The same, and what it reports. -/
def ofShapeMemoizedReporting (memo : Memo) (heap : Heap) (shape : Shape) (options : Options) :
    (Except ShapeError Schema × Memo × Heap) × List Event :=
  let made := ofShapeMemoized memo heap shape options
  (made, memo.extractionEvents shape options.limits ++
    match made.1 with
    | .error _ => []
    | .ok s => [s.creationEvent])

@[simp] theorem ofShapeMemoizedReporting_fst (memo : Memo) (heap : Heap) (shape : Shape)
    (options : Options) : (ofShapeMemoizedReporting memo heap shape options).1 =
      ofShapeMemoized memo heap shape options := rfl

@[simp] theorem equal_self (s : Schema) : s.equal s = true := by simp [equal]

end Schema

end Recordwright
