import Recordwright.BuildState
import Recordwright.Record

/-!
# Builders

A builder gathers values for the fields of a schema.  An assignment that names no field, or hands a
value that the field's type does not accept, is refused and changes nothing.  A fresh build fails
iff a required field was not assigned and gives every other field its default; a derived build
always succeeds, hands back its origin if no assigned value differs from it, and keeps the origin's
value in every field that was not assigned.
-/

namespace Recordwright

/-- The values assigned so far, one slot for each field. -/
structure Builder where
  schema : Shared Schema
  state : BuildState Record
  slots : List (Option Value)
  deriving DecidableEq

namespace Builder

/-- A builder without an origin. -/
def fresh (schema : Shared Schema) : Builder where
  schema
  state := .fresh schema.value.size
  slots := List.replicate schema.value.size none

/-- A builder with this origin. -/
def derive (origin : Shared Record) : Builder where
  schema := origin.value.schema
  state := .derived origin origin.value.schema.value.size
  slots := List.replicate origin.value.schema.value.size none

/-- The error for a name that is no field. -/
def unknownField (b : Builder) (field : String) : UsageError :=
  .unknownField b.schema.value.record field

/-- The builder with a value assigned to the field at a position, if it has a slot there. -/
def store (b : Builder) (ordinal : Nat) (value : Value) : Builder :=
  if ordinal < b.slots.length then
    { b with state := b.state.mark ordinal, slots := b.slots.set ordinal (some value) }
  else b

/-- Assigns a field, over an earlier assignment. -/
def set (b : Builder) (field : String) (value : Value) : Except UsageError Builder :=
  match b.schema.value.descriptors.ordinalOf? field with
  | none => .error (b.unknownField field)
  | some ordinal =>
    match b.schema.value.type? ordinal with
    | none => .error (b.unknownField field)
    | some type =>
      if type.accepts value then .ok (b.store ordinal value)
      else .error (.typeMismatch b.schema.value.record field type.text value.typeName)

/-- Was the field with this name assigned? -/
def isSet (b : Builder) (field : String) : Bool :=
  match b.schema.value.descriptors.ordinalOf? field with
  | some ordinal => b.state.isAssigned ordinal
  | none => false

/-- The values of a fresh build: what was assigned, else the default of the field's type. -/
def freshValues : List (Option Value) → List FieldType → List Value
  | slot :: slots, type :: types => slot.getD type.default :: freshValues slots types
  | _, _ => []

/-- The values of a derived build: what was assigned, else the origin's value. -/
def derivedValues : List (Option Value) → List Value → List Value
  | slot :: slots, current :: values => slot.getD current :: derivedValues slots values
  | _, _ => []

/-- Does an assigned value differ from the origin's? -/
def isChanged (b : Builder) (origin : Record) : Bool :=
  b.schema.value.fields.any fun f =>
    match b.slots[f.ordinal]?, origin.values[f.ordinal]? with
    | some assigned, some current => b.state.differs Value.equal f.ordinal assigned current
    | _, _ => false

/-- Finishes a builder. -/
def build (b : Builder) (heap : Heap) : Built Record :=
  let name := b.schema.value.record
  match b.state.origin with
  | none =>
    match b.state.checkRequired name b.schema.value.fields with
    | (.error e, events) => ⟨.error e, heap, events⟩
    | (.ok (), events) =>
      -- Only fields that are not required can still be without a value.
      let values := freshValues b.slots b.schema.value.types
      let ((record, heap), event) := b.state.finish heap name ⟨b.schema, values⟩
      ⟨.ok record, heap, events ++ [event]⟩
  | some origin =>
    if b.isChanged origin.value then
      let values := derivedValues b.slots origin.value.values
      let ((record, heap), event) := b.state.finish heap name ⟨b.schema, values⟩
      ⟨.ok record, heap, [event]⟩
    else
      let (record, event) := b.state.unchanged name origin
      ⟨.ok record, heap, [event]⟩

@[simp] theorem schema_store (b : Builder) (i : Nat) (v : Value) :
    (b.store i v).schema = b.schema := by
  unfold store
  split <;> rfl

@[simp] theorem origin_store (b : Builder) (i : Nat) (v : Value) :
    (b.store i v).state.origin = b.state.origin := by
  unfold store
  split <;> rfl

end Builder

end Recordwright
