import Recordwright.Json.Tree
import Recordwright.Schema
import Recordwright.Value.Json

/-!
# Records

A record has a schema and one value for each of its fields.  Two records are equal when their schemas
are equal and their values are, in order; a record that holds a NaN differs from itself.
-/

namespace Recordwright

/-- A record described at run time. -/
structure Record where
  schema : Shared Schema
  values : List Value
  deriving DecidableEq

namespace Record

/-- The value of the field with this name. -/
def get? (r : Record) (field : String) : Option Value := do
  r.values[← r.schema.value.descriptors.ordinalOf? field]?

/-- The names of the fields with their values, in order. -/
def entries (r : Record) : List (String × Value) :=
  (r.schema.value.fields.map (·.name)).zip r.values

/-- Are the values of both lists equal, one by one? -/
def equalValues : List Value → List Value → Bool
  | [], [] => true
  | v :: vs, w :: ws => v.equal w && equalValues vs ws
  | _, _ => false

/-- Equality of records. -/
def equal (r s : Record) : Bool :=
  r.schema.value.equal s.schema.value && equalValues r.values s.values

/-- The JSON object of a record, one member for each field, by ascending names. -/
def toTree (r : Record) : Json.Tree :=
  .object (Json.Tree.byKey (r.entries.map fun e => (e.1, e.2.toTree)))

/-- The JSON text of a record. -/
def toJson (r : Record) : String := r.toTree.compact

end Record

end Recordwright
