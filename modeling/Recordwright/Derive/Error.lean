import Recordwright.Error
import Recordwright.Source.Parser

/-!
# Why no builder is derived

A builder is derived from the declaration of a struct.  The declaration can be of the wrong kind,
its attributes can be malformed or contradict each other, its shape can be unusable, and the name of
the builder can be no identifier.
-/

namespace Recordwright

open Source (ParseFault)

/-- What an attribute stands on. -/
inductive AttributeTarget where
  | record
  | field
  deriving DecidableEq, Repr

/-- Why no builder is derived. -/
inductive DeriveError where
  /-- An attribute is malformed. -/
  | malformed (f : ParseFault)
  /-- An entry of an attribute has no meaning. -/
  | unknownEntry (target : AttributeTarget) (entry : String)
  /-- The value of an entry is no text. -/
  | textExpected
  /-- The value of an entry is no integer. -/
  | integerExpected
  /-- The value of an entry is a negative integer. -/
  | negative
  /-- The value of an entry does not fit 64 bits. -/
  | tooLarge
  /-- The path of the library is no path. -/
  | libraryPath (f : ParseFault)
  /-- The item is an enum. -/
  | choice
  /-- The item is a union. -/
  | overlay
  /-- The fields have no names. -/
  | unnamedFields
  /-- A field has the name of the builder's own. -/
  | reservedField
  /-- A field is both required and skipped. -/
  | skippedRequired
  /-- The shape is unusable. -/
  | shape (e : ShapeError)
  /-- The builder cannot be called this. -/
  | builderName (name : String)
  deriving DecidableEq, Repr

/-- The name of the field in which a builder keeps its state. -/
def stateField : String := "__recordkit_state"

namespace DeriveError

/-- The entries that have a meaning. -/
def validEntries : AttributeTarget → String
  | .record =>
    "Valid struct attributes are: builder, builder_suffix, setter_prefix, max_fields, crate"
  | .field => "Valid field attributes are: required, skip"

/-- The message of an error. -/
def message : DeriveError → String
  | .malformed f => f.text
  | .unknownEntry target entry =>
    "unknown record attribute `" ++ entry ++ "`. " ++ validEntries target
  | .textExpected => "expected string literal"
  | .integerExpected => "expected integer literal"
  | .negative => "invalid integer: invalid digit found in string"
  | .tooLarge => "invalid integer: number too large to fit in target type"
  | .libraryPath f => "invalid crate path: " ++ f.text
  | .choice => "Record can only be derived for structs, not enums"
  | .overlay => "Record can only be derived for structs, not unions"
  | .unnamedFields => "Record requires a struct with named fields"
  | .reservedField => "`" ++ stateField ++ "` is reserved for the generated builder"
  | .skippedRequired => "a skipped field cannot be required"
  | .shape e => e.message
  | .builderName name => "`" ++ name ++ "` is not a valid builder name"

end DeriveError

end Recordwright
