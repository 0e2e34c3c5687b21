import Recordwright.Json.Tree

/-!
# Events

What the library reports while it works: the extraction of descriptors or that the memo had them,
the making of a schema and the end of a build.  Nothing is reported that did not happen, so a failed
extraction is silent.
-/

namespace Recordwright

/-- How a build ended. -/
inductive BuildOutcome where
  /-- A new record without an origin. -/
  | fresh
  /-- The origin itself. -/
  | unchanged
  /-- A new record that differs from its origin. -/
  | cloned
  deriving DecidableEq, Repr

/-- The name of an outcome. -/
def BuildOutcome.name : BuildOutcome → String
  | .fresh => "fresh"
  | .unchanged => "unchanged"
  | .cloned => "cloned"

/-- What is reported. -/
inductive Event where
  /-- The fields of a shape were extracted and its static fields skipped. -/
  | extracted (record : String) (fields skipped : Nat)
  /-- The memo had the descriptors of a shape. -/
  | memoHit (record : String)
  /-- A schema was made. -/
  | schemaCreated (record builder : String) (fields : Nat)
  /-- A fresh build lacked required fields. -/
  | rejected (record : String) (missing : Nat)
  /-- A new record was made; `derived` tells whether it has an origin. -/
  | built (record : String) (assigned : Nat) (derived : Bool)
  /-- The origin was handed back. -/
  | returnedOrigin (record : String) (assigned : Nat)
  deriving DecidableEq, Repr

namespace Event

/-- The level of an event. -/
def level : Event → String
  | .extracted .. | .schemaCreated .. => "DEBUG"
  | .memoHit .. | .rejected .. | .built .. | .returnedOrigin .. => "TRACE"

/-- The message of an event. -/
def message : Event → String
  | .extracted .. => "Extracted field descriptors"
  | .memoHit .. => "Descriptor cache hit"
  | .schemaCreated .. => "Created dynamic schema"
  | .rejected .. => "Fresh build rejected, required fields not set"
  | .built .. => "Built record"
  | .returnedOrigin .. => "Derived build returned origin"

/-- The outcome that the event of a finished build reports. -/
def outcome : Event → Option BuildOutcome
  | .built _ _ derived => some (if derived then .cloned else .fresh)
  | .returnedOrigin .. => some .unchanged
  | _ => none

/-- What else an event tells. -/
def details : Event → List (String × Json.Tree)
  | .extracted record fields skipped =>
    [("record", .string record), ("fields", Json.Tree.ofNat fields),
      ("skipped", Json.Tree.ofNat skipped)]
  | .memoHit record => [("record", .string record)]
  | .schemaCreated record builder fields =>
    [("record", .string record), ("builder", .string builder), ("fields", Json.Tree.ofNat fields)]
  | .rejected record missing => [("record", .string record), ("missing", Json.Tree.ofNat missing)]
  | .built record assigned derived =>
    [("record", .string record), ("assigned", Json.Tree.ofNat assigned),
      ("outcome", .string (if derived then BuildOutcome.cloned else .fresh).name)]
  | .returnedOrigin record assigned =>
    [("record", .string record), ("assigned", Json.Tree.ofNat assigned),
      ("outcome", .string BuildOutcome.unchanged.name)]

/-- The JSON value of an event. -/
def toTree (e : Event) : Json.Tree :=
  .object (("level", .string e.level) :: ("message", .string e.message) :: e.details)

end Event

end Recordwright
