import Recordwright.Binary64.Text
import Recordwright.Text.Quoted

/-!
# What can be wrong with a JSON text

A text can end too early, be malformed, or be well formed as far as it was read and not fit what is
expected there.  Only the last kind has a message.
-/

namespace Recordwright.Json

/-- What a reader met where it expected something else. -/
inductive Met where
  | null
  | boolean (b : Bool)
  | integer (n : Int)
  | float (x : Binary64)
  | string (s : String)
  | sequence
  | map
  deriving DecidableEq, Repr

/-- How well-formed JSON can fail to fit. -/
inductive Misfit where
  /-- A member that has no default is absent. -/
  | missingField (name : String)
  /-- A member occurs twice. -/
  | duplicateField (name : String)
  /-- A value of another type. -/
  | invalidType (met : Met) (expected : String)
  /-- A value of the right type out of range. -/
  | invalidValue (met : Met) (expected : String)
  /-- A sequence that is too short. -/
  | invalidLength (length : Nat) (expected : String)
  /-- A name that is none of the variants. -/
  | unknownVariant (name : String) (expected : List String)
  /-- A value that fits no variant. -/
  | noVariant (type : String)
  deriving DecidableEq, Repr

/-- Why a text was not read. -/
inductive Fault where
  /-- The text ended early. -/
  | ended
  /-- The text is malformed. -/
  | malformed
  /-- The text does not fit. -/
  | misfit (m : Misfit)
  deriving DecidableEq, Repr

/-- The description of what was met. -/
def Met.text : Met → String
  | .null => "null"
  | .boolean b => "boolean `" ++ (if b then "true" else "false") ++ "`"
  | .integer n => "integer `" ++ toString n ++ "`"
  | .float x => "floating point `" ++ x.text ++ "`"
  | .string s => "string " ++ Text.quoted s
  | .sequence => "sequence"
  | .map => "map"

/-- The message of a misfit. -/
def Misfit.message : Misfit → String
  | .missingField name => "missing field `" ++ name ++ "`"
  | .duplicateField name => "duplicate field `" ++ name ++ "`"
  | .invalidType met expected => "invalid type: " ++ met.text ++ ", expected " ++ expected
  | .invalidValue met expected => "invalid value: " ++ met.text ++ ", expected " ++ expected
  | .invalidLength length expected =>
    "invalid length " ++ toString length ++ ", expected " ++ expected
  | .unknownVariant name expected =>
    "unknown variant `" ++ name ++ "`, expected one of " ++
      ", ".intercalate (expected.map fun e => "`" ++ e ++ "`")
  | .noVariant type => "data did not match any variant of untagged enum " ++ type

/-- The message of a fault. -/
def Fault.message : Fault → String
  | .ended => "the text ended early"
  | .malformed => "the text is malformed"
  | .misfit m => m.message

end Recordwright.Json
