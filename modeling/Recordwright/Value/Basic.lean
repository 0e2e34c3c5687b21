import Recordwright.Binary64.Basic

/-!
# Values

The values that a field of a record described at run time can hold, and the storage types that sort
them.  `null` has no storage type.  Two values are equal when they have one type and one content;
floating-point numbers compare by value, so a NaN differs from itself and the two zeros are equal.
-/

namespace Recordwright

/-- The storage type of a value. -/
inductive StorageType where
  | bool
  | int
  | float
  | text
  | bytes
  deriving DecidableEq, Repr

/-- A value. -/
inductive Value where
  | null
  | bool (b : Bool)
  | int (n : Int64)
  | float (x : Binary64)
  | text (s : String)
  | bytes (bs : List UInt8)
  deriving DecidableEq

namespace StorageType

/-- All storage types, in the order in which they are listed. -/
def all : List StorageType := [.bool, .int, .float, .text, .bytes]

/-- The name of a storage type. -/
def name : StorageType → String
  | .bool => "bool"
  | .int => "int"
  | .float => "float"
  | .text => "text"
  | .bytes => "bytes"

/-- The storage type with this name. -/
def ofName? (s : String) : Option StorageType := all.find? (·.name == s)

/-- The value of a field of this type that was never given one. -/
def default : StorageType → Value
  | .bool => .bool false
  | .int => .int 0
  | .float => .float Binary64.zero
  | .text => .text ""
  | .bytes => .bytes []

end StorageType

namespace Value

/-- The storage type; `null` has none. -/
def storageType : Value → Option StorageType
  | .null => none
  | .bool _ => some .bool
  | .int _ => some .int
  | .float _ => some .float
  | .text _ => some .text
  | .bytes _ => some .bytes

/-- The name of the value's type. -/
def typeName (v : Value) : String :=
  match v.storageType with
  | some t => t.name
  | none => "null"

/-- Is the value `null`? -/
def isNull : Value → Bool
  | .null => true
  | _ => false

/-- The text of a text. -/
def text? : Value → Option String
  | .text s => some s
  | _ => none

/-- The integer of an integer. -/
def int? : Value → Option Int64
  | .int n => some n
  | _ => none

/-- The truth value of a truth value. -/
def bool? : Value → Option Bool
  | .bool b => some b
  | _ => none

/-- The number of a floating-point number. -/
def float? : Value → Option Binary64
  | .float x => some x
  | _ => none

/-- `null` for nothing, or the value made of what is there. -/
def ofOption {α : Type} (f : α → Value) : Option α → Value
  | none => .null
  | some a => f a

/-- Equality of values.  Floating-point numbers compare by value. -/
def equal : Value → Value → Bool
  | .null, .null => true
  | .bool a, .bool b => a == b
  | .int a, .int b => a == b
  | .float a, .float b => a.equal b
  | .text a, .text b => a == b
  | .bytes a, .bytes b => a == b
  | _, _ => false

/-- Is the value a NaN? -/
def isNaN : Value → Bool
  | .float x => x.isNaN
  | _ => false

@[simp] theorem storageType_null : storageType .null = none := rfl

@[simp] theorem typeName_null : typeName .null = "null" := rfl

@[simp] theorem ofOption_none {α : Type} (f : α → Value) : ofOption f none = .null := rfl

@[simp] theorem ofOption_some {α : Type} (f : α → Value) (a : α) :
    ofOption f (some a) = f a := rfl

/-- Every value but a NaN equals itself. -/
theorem equal_self {v : Value} (h : v.isNaN = false) : v.equal v = true := by
  cases v with
  | float x => exact Binary64.equal_self h
  | _ => simp [equal]

/-- A NaN equals nothing. -/
theorem equal_of_isNaN {v : Value} (h : v.isNaN = true) (w : Value) : v.equal w = false := by
  cases v with
  | float x =>
    cases w with
    | float y => exact Binary64.equal_of_isNaN h y
    | _ => rfl
  | _ => simp [isNaN] at h

/-- The default of a storage type has that type. -/
@[simp] theorem storageType_default (t : StorageType) :
    t.default.storageType = some t := by
  cases t <;> rfl

end Value

end Recordwright
