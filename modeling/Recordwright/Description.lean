import Recordwright.Descriptors

/-!
# Descriptions of builders

`Descriptors.synthesize` says what builder belongs to a record: the method that assigns each field
and the one that asks for it, what a fresh build checks, what a derived build compares and how a
failed build reads.  No two methods may share a name, none may have the name of a method that every
builder has, and each must be a name that a method can have.
-/

namespace Recordwright

/-- The two methods of one field. -/
structure Setter where
  field : String
  /-- The method that assigns the field. -/
  method : String
  /-- The method that tells whether the field was assigned. -/
  query : String
  /-- The type of the field as it was declared. -/
  parameterType : String
  ordinal : Nat
  required : Bool
  deriving DecidableEq, Repr

/-- The builder of a record. -/
structure Description where
  record : String
  builder : String
  setters : List Setter
  /-- The positions of the fields that a fresh build must have. -/
  freshRequired : List Nat
  /-- The positions of the fields that a derived build compares, in order. -/
  compareOrder : List Nat
  /-- The reason that a failed build gives for each field. -/
  errorReason : String
  /-- The fields that a failed build can name, in order. -/
  errorFields : List String
  deriving DecidableEq, Repr

/-- The methods of a field. -/
def Descriptor.setter (d : Descriptor) (lead : String) : Setter where
  field := d.name
  method := Name.setterOf lead d.name
  query := Name.queryOf d.name
  parameterType := d.type
  ordinal := d.ordinal
  required := d.required

/-- The first of these names that no method can have or that is taken, or all names taken. -/
def claimNames (record : String) :
    List String → List String → Except ShapeError (List String)
  | taken, [] => .ok taken
  | taken, name :: rest =>
    if !Name.isMethodName name || taken.contains name then .error (.setterConflict record name)
    else claimNames record (name :: taken) rest

namespace Descriptors

/-- The methods of the fields, given the names that are taken. -/
def settersFrom (record lead : String) :
    List String → List Descriptor → Except ShapeError (List Setter)
  | _, [] => .ok []
  | taken, d :: rest =>
    let setter := d.setter lead
    match claimNames record taken [setter.method, setter.query] with
    | .error e => .error e
    | .ok taken =>
      match settersFrom record lead taken rest with
      | .error e => .error e
      | .ok setters => .ok (setter :: setters)

/-- The description of the builder of a record. -/
def synthesize (ds : Descriptors) (options : Options) : Except ShapeError Description :=
  match settersFrom ds.record options.setterLead Name.builderMethods ds.fields with
  | .error e => .error e
  | .ok setters => .ok
    { record := ds.record
      builder := options.builderNameFor ds.record
      setters
      freshRequired := ds.required.map (·.ordinal)
      compareOrder := ds.fields.map (·.ordinal)
      errorReason := requiredReason
      errorFields := ds.required.map (·.name) }

end Descriptors

namespace Setter

/-- The JSON value of the methods of a field. -/
def toTree (s : Setter) : Json.Tree :=
  .object [("field", .string s.field), ("method", .string s.method), ("query", .string s.query),
    ("param_type", .string s.parameterType), ("ordinal", Json.Tree.ofNat s.ordinal),
    ("required", .bool s.required)]

/-- The line for a field. -/
def text (s : Setter) : String :=
  "  [" ++ toString s.ordinal ++ "] " ++ s.method ++ "(" ++ s.field ++ ": " ++ s.parameterType ++
    ")" ++ (if s.required then " (required)" else "")

end Setter

namespace Description

/-- The methods of the field with this name. -/
def setter? (d : Description) (field : String) : Option Setter :=
  d.setters.find? (·.field == field)

/-- The JSON value of a description. -/
def toTree (d : Description) : Json.Tree :=
  .object [("record", .string d.record), ("builder", .string d.builder),
    ("setters", .array (d.setters.map Setter.toTree)),
    ("fresh_build", .object [("required", .array (d.freshRequired.map Json.Tree.ofNat))]),
    ("derived_build", .object [("compare_order", .array (d.compareOrder.map Json.Tree.ofNat))]),
    ("error_shape", .object [("reason", .string d.errorReason),
      ("fields", Json.Tree.ofStrings d.errorFields)])]

/-- The JSON text of a description, with line breaks. -/
def toJson (d : Description) : String := d.toTree.pretty

/-- A line for the builder, one for each field, and one for the builds. -/
def text (d : Description) : String :=
  "builder " ++ d.builder ++ " for " ++ d.record ++ "\n" ++
    String.join (d.setters.map fun s => s.text ++ "\n") ++
    "  fresh build checks " ++ toString d.freshRequired.length ++
    " required field(s); derived build compares " ++ toString d.compareOrder.length ++ " field(s)"

end Description

end Recordwright
