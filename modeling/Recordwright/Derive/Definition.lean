import Recordwright.Derive.Entry
import Recordwright.Description
import Recordwright.Source.Grammar.Item
import Recordwright.Text.Replace

/-!
# Definitions of records

What is read of the declaration of a struct: its name, its generic parameters, its fields and the
settings of its builder.  The definition has a shape like a record described at run time, and that
shape is extracted and its builder described by the same rules.  Skipped fields are static.
-/

namespace Recordwright

open Source

/-- A field of a struct. -/
structure FieldDefinition where
  ident : Ident
  type : Ty
  required : Bool
  /-- Is the field no part of the builder? -/
  skipped : Bool

/-- A struct for which a builder is derived. -/
structure Definition where
  ident : Ident
  visibility : Visibility
  generics : Generics
  /-- The fields in order, those that are skipped included. -/
  fields : List FieldDefinition
  options : Options
  /-- The path of the library in generated code. -/
  library : Path

namespace FieldDefinition

/-- The name without the raw mark. -/
def name (f : FieldDefinition) : String := f.ident.name

/-- The field with these marks.  A field that only marks the struct is skipped unasked. -/
def ofMarks (ident : Ident) (type : Ty) (marks : List FieldMark) : FieldDefinition where
  ident
  type
  required := marks.contains .required
  skipped := marks.contains .skip || type.isPhantom

/-- What a field of a declaration says. -/
def ofField (f : Field) : Except DeriveError FieldDefinition :=
  if f.ident.isWord stateField then .error .reservedField
  else
    match Entry.ofAttributes Entry.fieldMark f.attributes with
    | .error e => .error e
    | .ok marks =>
      let field := ofMarks f.ident f.type marks
      if field.required && field.skipped then .error .skippedRequired else .ok field

/-- What the fields of a declaration say; the first that is wrong decides the error. -/
def ofFields : List Field → Except DeriveError (List FieldDefinition)
  | [] => .ok []
  | f :: rest =>
    match ofField f with
    | .error e => .error e
    | .ok first =>
      match ofFields rest with
      | .error e => .error e
      | .ok more => .ok (first :: more)

end FieldDefinition

/-- The replacements that take the blanks out of the text of a type, in order. -/
def typeSpacing : List (String × String) :=
  [(" <", "<"), ("< ", "<"), (" >", ">"), (" ,", ","), (" :: ", "::"), (":: ", "::"), ("& ", "&")]

/-- The text of a type as it is declared in a shape. -/
def typeName (t : Ty) : String :=
  typeSpacing.foldl (fun text r => Text.replaced r.1 r.2 text) (Token.text t.tokens)

namespace Definition

/-- The path of the library unless a setting gives another. -/
def defaultLibrary : Path := .mk true [.mk ⟨false, "recordkit", by decide⟩ .none]

/-- The options after a setting. -/
def applyOption (o : Options) : Setting → Options
  | .builderName name => o.withBuilderName name
  | .builderSuffix suffix => o.withBuilderSuffix suffix
  | .setterLead lead => o.withSetterLead lead
  | .maxFields n => o.withMaxFields n
  | .library _ => o

/-- The library's path after a setting. -/
def applyLibrary (p : Path) : Setting → Path
  | .library p' => p'
  | _ => p

/-- The fields of an item. -/
def fieldsOf : Body → Except DeriveError (List FieldDefinition)
  | .named fields => FieldDefinition.ofFields fields
  | .unit => .ok []
  | .unnamed => .error .unnamedFields
  | .choice => .error .choice
  | .overlay => .error .overlay

/-- The definition that an item is. -/
def ofItem (item : Item) : Except DeriveError Definition :=
  -- The attributes come first, so that a wrong one is reported of an item of any kind.
  match Entry.ofAttributes Entry.setting item.attributes with
  | .error e => .error e
  | .ok settings =>
    match fieldsOf item.body with
    | .error e => .error e
    | .ok fields => .ok
      { ident := item.ident
        visibility := item.visibility
        generics := item.generics
        fields
        options := settings.foldl applyOption {}
        library := settings.foldl applyLibrary defaultLibrary }

/-- The name of the record. -/
def name (d : Definition) : String := d.ident.text

/-- The fields of the builder in order. -/
def kept (d : Definition) : List FieldDefinition := d.fields.filter fun f => !f.skipped

/-- The fields that are no part of the builder, in order. -/
def skipped (d : Definition) : List FieldDefinition := d.fields.filter (·.skipped)

/-- The declaration of a field in the shape. -/
def declaration (f : FieldDefinition) : FieldDeclaration :=
  ⟨f.name, typeName f.type, f.required, f.skipped⟩

/-- The shape of the record. -/
def shape (d : Definition) : Shape := ⟨d.name, d.fields.map declaration⟩

/-- The fields that each record has. -/
def descriptors (d : Definition) : Except DeriveError Descriptors :=
  match d.shape.extract d.options.limits with
  | .ok ds => .ok ds
  | .error e => .error (.shape e)

/-- The description of the builder. -/
def describe (d : Definition) : Except DeriveError Description :=
  match d.descriptors with
  | .error e => .error e
  | .ok ds =>
    match ds.synthesize d.options with
    | .ok description => .ok description
    | .error e => .error (.shape e)

end Definition

end Recordwright
