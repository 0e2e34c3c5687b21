import Recordwright.Json.Reader
import Recordwright.Value.Basic

/-!
# Values as JSON

A value is written as the JSON value that shows it: bytes are an array of numbers, and a floating
number that is not finite is `null`.  Reading goes by the form alone: an integer that fits
sixty-four bits is an integer, any other number is floating, and an array of numbers below 256 is
bytes.  Objects and other arrays are no values.
-/

namespace Recordwright.Value

/-- The JSON value that shows a value. -/
def toTree : Value → Json.Tree
  | .null => .null
  | .bool b => .bool b
  | .int n => .number (.integer n.toInt)
  | .float x => .number (.float x)
  | .text s => .string s
  | .bytes bs => .array (bs.map fun b => .number (.integer b.toNat))

/-- The JSON text of a value. -/
def toJson (v : Value) : String := v.toTree.compact

/-- A byte, if the JSON value is a number in range. -/
def byte? : Json.Tree → Option UInt8
  | .number (.integer n) => if 0 ≤ n ∧ n < 256 then some (UInt8.ofNat n.toNat) else none
  | _ => none

/-- The integer, if it fits sixty-four bits, or the nearest floating-point number. -/
def ofInt (n : Int) : Value :=
  if -0x8000000000000000 ≤ n ∧ n < 0x8000000000000000 then .int (Int64.ofInt n) else .float (Binary64.ofInt n)

/-- The value that a JSON value shows. -/
def ofTree? : Json.Tree → Option Value
  | .null => some .null
  | .bool b => some (.bool b)
  | .number (.integer n) => some (ofInt n)
  | .number (.float x) => some (.float x)
  | .string s => some (.text s)
  | .array es => (es.mapM byte?).map .bytes
  | .object _ => none

/-- The value that a JSON text holds. -/
def ofJson (text : String) : Except Json.Fault Value := do
  let t ← (do
    let t ← Json.Reader.value Json.greatestDepth
    match ofTree? t with
    | some v => return v
    | none => Json.Reader.misfit (.noVariant "Value") : Json.Reader Value).run text
  return t

end Recordwright.Value

namespace Recordwright.StorageType

/-- The name of a storage type; another name is no variant. -/
def ofVariant (name : String) : Json.Reader StorageType :=
  match ofName? name with
  | some t => return t
  | none => Json.Reader.misfit (.unknownVariant name (all.map StorageType.name))

/-- A storage type: its name, or an object whose one member is the name with `null`. -/
def reader : Json.Reader StorageType := do
  match ← Json.Reader.peek with
  | some '\x7b' =>
    Json.Reader.advance
    let t ← ofVariant (← Json.Reader.string "variant identifier")
    Json.Reader.colon
    match ← Json.Reader.peek with
    | some 'n' => Json.Reader.literal "null".toList
    | _ => Json.Reader.wrongType "unit"
    match ← Json.Reader.peek with
    | some '\x7d' => Json.Reader.advance
    | some _ => throw .malformed
    | none => throw .ended
    return t
  | some '\"' => ofVariant (← Json.Reader.string "variant identifier")
  | some _ => throw .malformed
  | none => throw .ended

/-- The storage type that a JSON text names. -/
def ofJson (text : String) : Except Json.Fault StorageType := reader.run text

end Recordwright.StorageType
