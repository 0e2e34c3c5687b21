import Recordwright.Registers
import Recordwright.Trial.Sample

/-!
# Trials

A trial is a script of steps over the builders and records of one sample struct.  It goes on after a
step that fails.  A builder is used up by its build, whether or not that succeeds, and by the
assignment of a field that there is not.
-/

namespace Recordwright

open Source

namespace Trial

/-- A step of a trial. -/
inductive Command where
  /-- The name of the record and its fields. -/
  | describe
  /-- A builder without an origin. -/
  | fresh (builder : String)
  /-- A builder whose origin is a record. -/
  | derive (builder record : String)
  /-- A record made without a builder. -/
  | literal (record : String) (values : List (String × Cell))
  /-- Assigns a field. -/
  | set (builder field : String) (value : Cell)
  /-- Were these fields assigned? -/
  | isSet (builder : String) (fields : List String)
  /-- Finishes a builder. -/
  | build (builder record : String)
  /-- The fields of a record with their values. -/
  | show (record : String)

/-- What a step can name in vain. -/
inductive Missing where
  | builder
  | record
  | field
  deriving DecidableEq, Repr

/-- The word for what is missing. -/
def Missing.name : Missing → String
  | .builder => "builder"
  | .record => "record"
  | .field => "field"

/-- The answer to a step. -/
inductive Answer where
  | done
  | missing (what : Missing)
  | failed (e : ValidationError)
  /-- A value is lacking or not of its field's type, or the blueprint is stuck. -/
  | unfit
  | described (name : String) (fields : List Descriptor)
  | flags (bs : List Bool)
  | built (entries : List (String × Cell)) (sameAs : List String)
  | entries (es : List (String × Cell))

end Trial

/-- What a trial holds. -/
structure Trial where
  sample : Sample
  heap : Heap := {}
  builders : Registers (TypedBuilder Cell) := {}
  records : Registers (Shared (StructValue Cell)) := {}

namespace Trial

/-- What a step gives: the trial after it, the answer and the events. -/
structure Step where
  trial : Trial
  answer : Answer
  events : List Event := []

/-- Makes a record without a builder and keeps it in a register. -/
def makeLiteral (t : Trial) (record : String) (values : List (String × Cell)) : Step :=
  match t.sample.literal? values with
  | none => ⟨t, .unfit, []⟩
  | some value =>
    let (shared, heap) := t.heap.allocate value
    ⟨{ t with heap, records := t.records.put record shared }, .entries (Sample.entries value), []⟩

/-- Assigns a field of a builder. -/
def assign (t : Trial) (builder : String) (b : TypedBuilder Cell) (field : String)
    (value : Cell) : Step :=
  match t.sample.blueprint.methodsOf? field with
  -- The builder was handed to a method that it does not have.
  | none => ⟨{ t with builders := t.builders.erase builder }, .missing .field, []⟩
  | some m =>
    if (t.sample.type? field).any (·.accepts value) then
      ⟨{ t with builders := t.builders.put builder (m.assign value b) }, .done, []⟩
    else ⟨t, .unfit, []⟩

/-- Finishes a builder and keeps the record in a register. -/
def finish (t : Trial) (builder : String) (b : TypedBuilder Cell) (record : String) : Step :=
  let t := { t with builders := t.builders.erase builder }
  match b.build t.sample.blueprint t.sample.traits t.heap with
  | none => ⟨t, .unfit, []⟩
  | some built =>
    match built.result with
    | .error e => ⟨{ t with heap := built.heap }, .failed e, built.events⟩
    | .ok r =>
      let sameAs := t.records.namesWhere (·.same r)
      ⟨{ t with heap := built.heap, records := t.records.put record r },
        .built (Sample.entries r.value) sameAs, built.events⟩

/-- One step of a trial. -/
def step (t : Trial) : Command → Step
  | .describe =>
    ⟨t, .described t.sample.blueprint.record t.sample.blueprint.descriptors, []⟩
  | .fresh builder =>
    ⟨{ t with builders := t.builders.put builder t.sample.blueprint.fresh }, .done, []⟩
  | .derive builder record =>
    match t.records.get? record with
    | none => ⟨t, .missing .record, []⟩
    | some r =>
      ⟨{ t with builders := t.builders.put builder (t.sample.blueprint.derive r) }, .done, []⟩
  | .literal record values => t.makeLiteral record values
  | .set builder field value =>
    match t.builders.get? builder with
    | none => ⟨t, .missing .builder, []⟩
    | some b => t.assign builder b field value
  | .isSet builder fields =>
    match t.builders.get? builder with
    | none => ⟨t, .missing .builder, []⟩
    | some b =>
      match fields.mapM t.sample.blueprint.methodsOf? with
      | none => ⟨t, .missing .field, []⟩
      | some ms => ⟨t, .flags (ms.map (·.isAssigned b)), []⟩
  | .build builder record =>
    match t.builders.get? builder with
    | none => ⟨t, .missing .builder, []⟩
    | some b => t.finish builder b record
  | .show record =>
    match t.records.get? record with
    | none => ⟨t, .missing .record, []⟩
    | some r => ⟨t, .entries (Sample.entries r.value), []⟩

/-- The answers and events of a script, and the trial after it. -/
def run (t : Trial) : List Command → List (Answer × List Event) × Trial
  | [] => ([], t)
  | c :: rest =>
    let next := t.step c
    let (answers, t) := next.trial.run rest
    ((next.answer, next.events) :: answers, t)

end Trial

end Recordwright
