import Recordwright.Json.Members

/-!
# Shapes

A shape declares a record: its name and its fields in order.  A field is declared with a name, a
type as it is written, and whether a fresh build must assign it; a static field belongs to the class
of records and not to each of them.  Shapes are written to and read from JSON.
-/

namespace Recordwright

/-- The declaration of one field. -/
structure FieldDeclaration where
  name : String
  type : String
  required : Bool := false
  isStatic : Bool := false
  deriving DecidableEq, Repr

/-- The declaration of a record. -/
structure Shape where
  name : String
  fields : List FieldDeclaration := []
  deriving DecidableEq, Repr

namespace FieldDeclaration

/-- The declaration, required. -/
def asRequired (d : FieldDeclaration) : FieldDeclaration := { d with required := true }

/-- The declaration, static. -/
def asStatic (d : FieldDeclaration) : FieldDeclaration := { d with isStatic := true }

/-- The JSON value of a declaration. -/
def toTree (d : FieldDeclaration) : Json.Tree :=
  .object [("name", .string d.name), ("type", .string d.type),
    ("required", .bool d.required), ("static", .bool d.isStatic)]

/-- What was read of a declaration. -/
structure Draft where
  name : Option String := none
  type : Option String := none
  required : Option Bool := none
  isStatic : Option Bool := none

/-- How a declaration is read.  It is neither required nor static unless it says so. -/
def members : Json.Members Draft FieldDeclaration where
  expected := "struct FieldDecl"
  empty := {}
  members := [
    { key := "name", optional := false, seen := (·.name.isSome)
      read := fun _ d => do return { d with name := some (← Json.Reader.string "a string") } },
    { key := "type", optional := false, seen := (·.type.isSome)
      read := fun _ d => do return { d with type := some (← Json.Reader.string "a string") } },
    { key := "required", optional := true, seen := (·.required.isSome)
      read := fun _ d => do return { d with required := some (← Json.Reader.bool) } },
    { key := "static", optional := true, seen := (·.isStatic.isSome)
      read := fun _ d => do return { d with isStatic := some (← Json.Reader.bool) } }]
  finish := fun d =>
    match d.name, d.type with
    | none, _ => .error (.missingField "name")
    | _, none => .error (.missingField "type")
    | some name, some type => .ok ⟨name, type, d.required.getD false, d.isStatic.getD false⟩

end FieldDeclaration

namespace Shape

/-- A shape without fields. -/
def named (name : String) : Shape := ⟨name, []⟩

/-- The shape with one more field. -/
def push (s : Shape) (d : FieldDeclaration) : Shape := { s with fields := s.fields ++ [d] }

/-- The shape with one more optional field. -/
def field (s : Shape) (name type : String) : Shape := s.push ⟨name, type, false, false⟩

/-- The shape with one more required field. -/
def requiredField (s : Shape) (name type : String) : Shape :=
  s.push (FieldDeclaration.asRequired ⟨name, type, false, false⟩)

/-- The shape with one more static field. -/
def staticField (s : Shape) (name type : String) : Shape :=
  s.push (FieldDeclaration.asStatic ⟨name, type, false, false⟩)

/-- The declarations of the fields that each record has, in order. -/
def kept (s : Shape) : List FieldDeclaration := s.fields.filter fun d => !d.isStatic

/-- The JSON value of a shape. -/
def toTree (s : Shape) : Json.Tree :=
  .object [("name", .string s.name), ("fields", .array (s.fields.map FieldDeclaration.toTree))]

/-- The JSON text of a shape. -/
def toJson (s : Shape) : String := s.toTree.compact

/-- What was read of a shape. -/
structure Draft where
  name : Option String := none
  fields : Option (List FieldDeclaration) := none

/-- How a shape is read.  It has no fields unless it says so. -/
def members : Json.Members Draft Shape where
  expected := "struct RecordShape"
  empty := {}
  members := [
    { key := "name", optional := false, seen := (·.name.isSome)
      read := fun _ d => do return { d with name := some (← Json.Reader.string "a string") } },
    { key := "fields", optional := true, seen := (·.fields.isSome)
      read := fun depth d => do
        return { d with fields := some (← Json.Reader.list FieldDeclaration.members.read depth) } }]
  finish := fun d =>
    match d.name with
    | none => .error (.missingField "name")
    | some name => .ok ⟨name, d.fields.getD []⟩

/-- The shape that a JSON text describes. -/
def ofJson (text : String) : Except Json.Fault Shape :=
  (members.read Json.greatestDepth).run text

end Shape

end Recordwright
