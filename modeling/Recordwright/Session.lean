import Recordwright.Builder
import Recordwright.Registers

/-!
# Sessions

A session is a script of steps over named schemas, builders and records.  Each step gives an answer
and reports events; a step that fails leaves the session as it was, apart from a builder that was
used up.  A builder is used up by its build, whether or not that succeeds.
-/

namespace Recordwright

/-- How a schema is made. -/
inductive SchemaSource where
  /-- Without the memo. -/
  | extracted
  /-- Through the memo. -/
  | memoized
  deriving DecidableEq, Repr

/-- A step of a session. -/
inductive Command where
  /-- Makes a schema from the JSON texts of a shape and of options. -/
  | schema (register shape : String) (options : Option String) (source : SchemaSource)
  /-- A builder without an origin. -/
  | fresh (builder schema : String)
  /-- A builder whose origin is a record. -/
  | derive (builder record : String)
  /-- A second builder with the same state. -/
  | clone (builder copy : String)
  /-- Assigns a field; the builder stays if that is refused. -/
  | set (builder field : String) (value : Value)
  /-- Assigns a field; the builder is used up if that is refused. -/
  | assign (builder field : String) (value : Value)
  /-- Were these fields assigned? -/
  | isSet (builder : String) (fields : List String)
  /-- Finishes a builder. -/
  | build (builder record : String)
  /-- The fields of a record with their values. -/
  | show (record : String)
  /-- The values of a record. -/
  | values (record : String)
  /-- The values of these fields. -/
  | get (record : String) (fields : List String)
  /-- The JSON text of a record. -/
  | toJson (record : String)
  /-- Compares two records. -/
  | compare (record other : String)

/-- What a step can name in vain. -/
inductive Missing where
  | schema
  | builder
  | record
  deriving DecidableEq, Repr

/-- The word for what is missing. -/
def Missing.name : Missing → String
  | .schema => "schema"
  | .builder => "builder"
  | .record => "record"

/-- The answer to a step. -/
inductive Answer where
  | done
  | missing (what : Missing)
  | failed (e : AnyError)
  | unreadable (f : Json.Fault)
  | schema (s : Schema)
  | flags (bs : List Bool)
  | built (entries : List (String × Value)) (sameAs : List String)
  | entries (es : List (String × Value))
  | values (vs : List Value)
  | lookups (vs : List (Option Value))
  | text (s : String)
  | compared (equal same sameSchema equalSchema : Bool)

/-- What a session holds. -/
structure Session where
  heap : Heap := {}
  memo : Memo := {}
  schemas : Registers (Shared Schema) := {}
  builders : Registers Builder := {}
  records : Registers (Shared Record) := {}

/-- What a step gives: the session after it, the answer and the events. -/
structure Step where
  session : Session
  answer : Answer
  events : List Event := []

namespace Session

/-- Makes a schema of a shape and keeps it in a register.  If that fails, the register stays. -/
def keepSchema (s : Session) (register : String) (shape : Shape) (options : Options)
    (source : SchemaSource) : Step :=
  let (result, s, events) := match source with
    | .extracted =>
      let (result, events) := Schema.ofShapeReporting shape options
      (result, s, events)
    | .memoized =>
      let ((result, memo, heap), events) :=
        Schema.ofShapeMemoizedReporting s.memo s.heap shape options
      (result, { s with memo, heap }, events)
  match result with
  | .error e => ⟨s, .failed (.shape e), events⟩
  | .ok schema =>
    let (shared, heap) := s.heap.allocate schema
    ⟨{ s with heap, schemas := s.schemas.put register shared }, .schema schema, events⟩

/-- Reads options and a shape, and makes a schema of them. -/
def makeSchema (s : Session) (register shape : String) (options : Option String)
    (source : SchemaSource) : Step :=
  match Options.ofOptionalJson options with
  | .error f => ⟨s, .unreadable f, []⟩
  | .ok options =>
    match Shape.ofJson shape with
    | .error f => ⟨s, .failed (.description f), []⟩
    | .ok shape => s.keepSchema register shape options source

/-- Finishes a builder and keeps the record in a register. -/
def finish (s : Session) (builder : String) (b : Builder) (record : String) : Step :=
  let s := { s with builders := s.builders.erase builder }
  let built := b.build s.heap
  match built.result with
  | .error e => ⟨{ s with heap := built.heap }, .failed (.validation e), built.events⟩
  | .ok r =>
    let sameAs := s.records.namesWhere (·.same r)
    ⟨{ s with heap := built.heap, records := s.records.put record r },
      .built r.value.entries sameAs, built.events⟩

/-- One step of a session. -/
def step (s : Session) : Command → Step
  | .schema register shape options source => s.makeSchema register shape options source
  | .fresh builder schema =>
    match s.schemas.get? schema with
    | none => ⟨s, .missing .schema, []⟩
    | some schema => ⟨{ s with builders := s.builders.put builder (.fresh schema) }, .done, []⟩
  | .derive builder record =>
    match s.records.get? record with
    | none => ⟨s, .missing .record, []⟩
    | some r => ⟨{ s with builders := s.builders.put builder (.derive r) }, .done, []⟩
  | .clone builder copy =>
    match s.builders.get? builder with
    | none => ⟨s, .missing .builder, []⟩
    | some b => ⟨{ s with builders := s.builders.put copy b }, .done, []⟩
  | .set builder field value =>
    match s.builders.get? builder with
    | none => ⟨s, .missing .builder, []⟩
    | some b =>
      match b.set field value with
      | .ok b => ⟨{ s with builders := s.builders.put builder b }, .done, []⟩
      | .error e => ⟨s, .failed (.usage e), []⟩
  | .assign builder field value =>
    match s.builders.get? builder with
    | none => ⟨s, .missing .builder, []⟩
    | some b =>
      match b.set field value with
      | .ok b => ⟨{ s with builders := s.builders.put builder b }, .done, []⟩
      | .error e => ⟨{ s with builders := s.builders.erase builder }, .failed (.usage e), []⟩
  | .isSet builder fields =>
    match s.builders.get? builder with
    | none => ⟨s, .missing .builder, []⟩
    | some b => ⟨s, .flags (fields.map b.isSet), []⟩
  | .build builder record =>
    match s.builders.get? builder with
    | none => ⟨s, .missing .builder, []⟩
    | some b => s.finish builder b record
  | .show record =>
    match s.records.get? record with
    | none => ⟨s, .missing .record, []⟩
    | some r => ⟨s, .entries r.value.entries, []⟩
  | .values record =>
    match s.records.get? record with
    | none => ⟨s, .missing .record, []⟩
    | some r => ⟨s, .values r.value.values, []⟩
  | .get record fields =>
    match s.records.get? record with
    | none => ⟨s, .missing .record, []⟩
    | some r => ⟨s, .lookups (fields.map r.value.get?), []⟩
  | .toJson record =>
    match s.records.get? record with
    | none => ⟨s, .missing .record, []⟩
    | some r => ⟨s, .text r.value.toJson, []⟩
  | .compare record other =>
    match s.records.get? record, s.records.get? other with
    | some r, some o =>
      ⟨s, .compared (r.value.equal o.value) (r.same o) (r.value.schema.same o.value.schema)
        (r.value.schema.value.equal o.value.schema.value), []⟩
    | _, _ => ⟨s, .missing .record, []⟩

/-- The answers and events of a script, and the session after it. -/
def run (s : Session) : List Command → List (Answer × List Event) × Session
  | [] => ([], s)
  | c :: rest =>
    let next := s.step c
    let (answers, s) := next.session.run rest
    ((next.answer, next.events) :: answers, s)

end Session

end Recordwright
