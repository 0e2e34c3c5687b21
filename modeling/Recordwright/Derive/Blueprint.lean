import Recordwright.Derive.Definition

/-!
# Blueprints of builders

A blueprint lists what the generated builder of a record consists of and what its two builds do, as
lists that are independent of each other: which fields store the assigned values, which method
stores into which field, which values a fresh build takes, which differences a derived build looks
for, and how each field of the new record is made.  The values that a build works on are numbered by
the ordinals of their fields, so no name of a field can hide one.
-/

namespace Recordwright

open Source

/-- The two methods of a field. -/
structure FieldMethods where
  /-- The name of the field. -/
  field : String
  setter : String
  query : String
  /-- The field of the builder that the first method stores into. -/
  target : Ident
  type : Ty
  /-- The number that the first method marks and the second one asks for. -/
  ordinal : Nat

/-- A value that a build takes out of the builder: the field it is stored in, and its number. -/
structure Binding where
  source : Ident
  slot : Nat

/-- A value that a fresh build must have: its number and the ordinal of its descriptor. -/
structure Take where
  slot : Nat
  ordinal : Nat

/-- What a derived build compares: the ordinal, the value's number, and the origin's field. -/
structure Difference where
  ordinal : Nat
  slot : Nat
  field : Ident

/-- How a fresh build makes the value of a field. -/
inductive FreshValue where
  /-- The value with this number, which was taken. -/
  | taken (slot : Nat)
  /-- The value with this number, or the default of its type. -/
  | orDefault (slot : Nat)
  /-- The default of the type. -/
  | default

/-- How a derived build makes the value of a field. -/
inductive DerivedValue where
  /-- The value with this number, or that of the origin's field. -/
  | orOrigin (slot : Nat) (field : Ident)
  /-- The value of the origin's field. -/
  | origin (field : Ident)

/-- What the builder of a record consists of and does. -/
structure Blueprint where
  definition : Definition
  /-- The name of the builder. -/
  builder : Ident
  /-- The fields that the record declares. -/
  descriptors : List Descriptor
  /-- The fields of the builder, that of its state aside. -/
  storage : List (Ident × Ty)
  methods : List FieldMethods
  bindings : List Binding
  takes : List Take
  freshValues : List (Ident × FreshValue)
  differences : List Difference
  derivedValues : List (Ident × DerivedValue)

namespace Blueprint

/-- A field of the builder with its methods as the description names them. -/
abbrev Part := FieldDefinition × Setter

namespace Part

/-- What the record declares of a field. -/
def descriptor (p : Part) : Descriptor :=
  ⟨p.2.field, p.2.parameterType, p.2.required, p.2.ordinal⟩

/-- The methods of a field. -/
def methods (p : Part) : FieldMethods :=
  ⟨p.2.field, p.2.method, p.2.query, p.1.ident, p.1.type, p.2.ordinal⟩

/-- How a fresh build makes the field. -/
def freshValue (p : Part) : Ident × FreshValue :=
  (p.1.ident, if p.2.required then .taken p.2.ordinal else .orDefault p.2.ordinal)

/-- How a derived build makes the field. -/
def derivedValue (p : Part) : Ident × DerivedValue :=
  (p.1.ident, .orOrigin p.2.ordinal p.1.ident)

/-- The name of the value of a field in a build. -/
def slotName (p : Part) : String := "__recordkit_v" ++ toString p.2.ordinal

/-- The names that generated code coins for a field: of its methods, and of its value in a build. -/
def coined (p : Part) : List String := [p.2.method, p.2.query, p.slotName]

end Part

/-- The blueprint for a definition whose builder is described so. -/
def ofParts (definition : Definition) (builder : Ident) (parts : List Part) : Blueprint where
  definition
  builder
  descriptors := parts.map Part.descriptor
  storage := parts.map fun p => (p.1.ident, p.1.type)
  methods := parts.map Part.methods
  bindings := parts.map fun p => ⟨p.1.ident, p.2.ordinal⟩
  takes := (parts.filter (·.2.required)).map fun p => ⟨p.2.ordinal, p.2.ordinal⟩
  freshValues := parts.map Part.freshValue ++
    definition.skipped.map fun f => (f.ident, .default)
  differences := parts.map fun p => ⟨p.2.ordinal, p.2.ordinal, p.1.ident⟩
  derivedValues := parts.map Part.derivedValue ++
    definition.skipped.map fun f => (f.ident, .origin f.ident)

/-- The number of fields of the builder, that of its state aside. -/
def size (b : Blueprint) : Nat := b.definition.kept.length

/-- The name of the record. -/
def record (b : Blueprint) : String := b.definition.name

/-- The methods of the field with this name. -/
def methodsOf? (b : Blueprint) (field : String) : Option FieldMethods :=
  b.methods.find? (·.field == field)

end Blueprint

/-- The name of the builder as an identifier. -/
def builderIdent (name : String) : Except DeriveError Ident :=
  match Parser.runText Parser.ident name with
  | .ok i => .ok i
  | .error _ => .error (.builderName name)

/-- The blueprint of the builder of a definition. -/
def Definition.blueprint (d : Definition) : Except DeriveError Blueprint :=
  match d.describe with
  | .error e => .error e
  | .ok description =>
    match builderIdent description.builder with
    | .error e => .error e
    | .ok builder => .ok (.ofParts d builder (d.kept.zip description.setters))

/-- The blueprint as it is generated.  Every coined name is made an identifier on the way; there is
no outcome, not even an error, if one of them is none. -/
def Definition.generate? (d : Definition) : Option (Except DeriveError Blueprint) :=
  match d.describe with
  | .error e => some (.error e)
  | .ok description =>
    match builderIdent description.builder with
    | .error e => some (.error e)
    | .ok builder =>
      let parts := d.kept.zip description.setters
      if (parts.flatMap Blueprint.Part.coined).all fun name => (Ident.ofName? false name).isSome
      then some (.ok (.ofParts d builder parts))
      else none

end Recordwright
