import Recordwright.Text.Blank
import Recordwright.Text.Case
import Recordwright.Value.Basic

/-!
# Declared types

A declared type is the name of a storage type, in any letter case, that may be marked as nullable:
by a question mark behind it or by `Option<…>` around it.  Blanks are allowed at both ends and next
to the mark.
-/

namespace Recordwright

/-- A storage type and whether `null` may stand for a value of it. -/
structure FieldType where
  storage : StorageType
  nullable : Bool
  deriving DecidableEq, Repr

namespace FieldType

/-- The names of each storage type, in lower case. -/
def names : List (String × StorageType) :=
  [("bool", .bool), ("boolean", .bool),
   ("int", .int), ("integer", .int), ("i64", .int), ("long", .int),
   ("float", .float), ("double", .float), ("f64", .float),
   ("string", .text), ("text", .text), ("str", .text),
   ("bytes", .bytes), ("blob", .bytes), ("vec<u8>", .bytes)]

/-- The storage type with this name, in any letter case. -/
def storageOf? (name : List Char) : Option StorageType :=
  let lower := Text.lowered name
  (names.find? fun n => n.1.toList == lower).map (·.2)

/-- What precedes a last character that is a question mark. -/
def beforeMark? (s : List Char) : Option (List Char) :=
  match s.reverse with
  | '?' :: rest => some rest.reverse
  | _ => none

/-- The opening of the nullable form. -/
def opening : List Char := ['O', 'p', 't', 'i', 'o', 'n', '<']

/-- What stands between the opening and a last closing bracket. -/
def insideOption? (s : List Char) : Option (List Char) :=
  if opening.isPrefixOf s then
    match (s.drop opening.length).reverse with
    | '>' :: rest => some rest.reverse
    | _ => none
  else none

/-- The name inside a declaration without outer blanks, and whether it is marked as nullable. -/
def unmarked (s : List Char) : List Char × Bool :=
  match beforeMark? s with
  | some inner => (Text.trimBlanks inner, true)
  | none =>
    match insideOption? s with
    | some inner => (Text.trimBlanks inner, true)
    | none => (s, false)

/-- The type that a declaration names. -/
def parseChars? (declared : List Char) : Option FieldType :=
  let (name, nullable) := unmarked (Text.trimBlanks declared)
  (storageOf? name).map fun storage => ⟨storage, nullable⟩

/-- The type that a declaration names. -/
def parse? (declared : String) : Option FieldType := parseChars? declared.toList

/-- The value of a field that was never given one. -/
def default (t : FieldType) : Value := if t.nullable then .null else t.storage.default

/-- May the value be stored in a field of this type? -/
def accepts (t : FieldType) (v : Value) : Bool :=
  match v.storageType with
  | none => t.nullable
  | some s => s == t.storage

/-- The canonical spelling. -/
def text (t : FieldType) : String := if t.nullable then t.storage.name ++ "?" else t.storage.name

@[simp] theorem accepts_null (t : FieldType) : t.accepts .null = t.nullable := rfl

/-- A field accepts its own default. -/
theorem accepts_default (t : FieldType) : t.accepts t.default = true := by
  cases h : t.nullable <;> simp [accepts, default, h]

end FieldType

end Recordwright
