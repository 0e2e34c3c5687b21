import Recordwright.Proofs.Registers
import Recordwright.Session

/-!
# What a step does to a session

Most steps look into a register, and only say so if it is empty.  `Session.perform` is the same step
with these looks spelled out (`step_eq_perform`): what holds of every look-up is then said once, and
a proof about steps has one short case for each.

A step of a session only answers, or it makes a schema, puts a builder into a register, uses a
builder up without building, or finishes a builder.  `change_step` says this once, by the cases of
the step, and says of each change where what is new comes from: a builder that is put into a
register has no origin, has a record of the session as its origin, is a copy, or comes from a
builder of the session by an assignment that was accepted (`Session.Offers`).

Every invariant of sessions goes by these five changes and never through the steps again.  What is
held after a change is read off once as well: the builders are such as the session before it offers
(`Change.offers`), and a record that is new is what a builder's build gave (`Change.records`).
-/

namespace Recordwright.Session

variable {s t : Session} {b : Builder} {r : Shared Record}

/-! ### Steps, register by register -/

/-- Goes on with what a register holds.  If it is empty, nothing is done. -/
def ifHeld {α : Type} (s : Session) (what : Missing) (held : Option α) (go : α → Step) : Step :=
  held.elim ⟨s, .missing what, []⟩ go

/-- Puts a builder into a register. -/
def keepBuilder (s : Session) (register : String) (b : Builder) : Step :=
  ⟨{ s with builders := s.builders.put register b }, .done, []⟩

/-- Keeps the builder that an assignment gave.  If it was refused, `refused` is left. -/
def settle (s : Session) (register : String) (refused : Session) :
    Except UsageError Builder → Step
  | .ok b => s.keepBuilder register b
  | .error e => ⟨refused, .failed (.usage e), []⟩

/-- A step by the registers that it looks into. -/
def perform (s : Session) : Command → Step
  | .schema register shape options source => s.makeSchema register shape options source
  | .fresh builder schema => s.ifHeld .schema (s.schemas.get? schema) fun x =>
    s.keepBuilder builder (.fresh x)
  | .derive builder record => s.ifHeld .record (s.records.get? record) fun r =>
    s.keepBuilder builder (.derive r)
  | .clone builder copy => s.ifHeld .builder (s.builders.get? builder) (s.keepBuilder copy)
  -- both kinds of assignment differ in what is left when a value is refused
  | .set builder field value => s.ifHeld .builder (s.builders.get? builder) fun b =>
    s.settle builder s (b.set field value)
  | .assign builder field value => s.ifHeld .builder (s.builders.get? builder) fun b =>
    s.settle builder { s with builders := s.builders.erase builder } (b.set field value)
  | .isSet builder fields => s.ifHeld .builder (s.builders.get? builder) fun b =>
    ⟨s, .flags (fields.map b.isSet), []⟩
  | .build builder record => s.ifHeld .builder (s.builders.get? builder) fun b =>
    s.finish builder b record
  | .show record => s.ifHeld .record (s.records.get? record) fun r =>
    ⟨s, .entries r.value.entries, []⟩
  | .values record => s.ifHeld .record (s.records.get? record) fun r =>
    ⟨s, .values r.value.values, []⟩
  | .get record fields => s.ifHeld .record (s.records.get? record) fun r =>
    ⟨s, .lookups (fields.map r.value.get?), []⟩
  | .toJson record => s.ifHeld .record (s.records.get? record) fun r =>
    ⟨s, .text r.value.toJson, []⟩
  | .compare record other => s.ifHeld .record (s.records.get? record) fun r =>
    s.ifHeld .record (s.records.get? other) fun o =>
      ⟨s, .compared (r.value.equal o.value) (r.same o) (r.value.schema.same o.value.schema)
        (r.value.schema.value.equal o.value.schema.value), []⟩

theorem step_eq_perform (s : Session) (c : Command) : s.step c = s.perform c := by
  -- Each command either finds its register empty, or goes on with what is in it.
  cases c with
  | schema => rfl
  | fresh builder schema =>
    rw [step, perform]
    cases s.schemas.get? schema <;> rfl
  | set builder field value | assign builder field value =>
    rw [step, perform]
    cases s.builders.get? builder with
    | none => rfl
    | some b =>
      simp only [ifHeld, Option.elim_some]
      cases b.set field value <;> rfl
  | clone builder | isSet builder | build builder =>
    rw [step, perform]
    cases s.builders.get? builder <;> rfl
  | derive _ record | «show» record | values record | get record | toJson record =>
    rw [step, perform]
    cases s.records.get? record <;> rfl
  | compare record other =>
    rw [step, perform]
    cases s.records.get? record with
    | none => rfl
    | some r => cases s.records.get? other <;> rfl

/-! ### Changes -/

/-- The builders that a step can put into a register. -/
inductive Offers (s : Session) : Builder → Prop where
  | fresh {x : Shared Schema} : s.schemas.Holds x → Offers s (.fresh x)
  | derive {r : Shared Record} : s.records.Holds r → Offers s (.derive r)
  | copy {b : Builder} : s.builders.Holds b → Offers s b
  | assigned {b c : Builder} {field : String} {v : Value} :
      s.builders.Holds b → b.set field v = .ok c → Offers s c

/-- What a step can make of a session. -/
inductive Change (s : Session) : Session → Prop where
  /-- The step only answers, or what it needs is missing. -/
  | none : Change s s
  /-- A schema is made, or the attempt leaves its traces in the memo. -/
  | schema (register : String) (shape : Shape) (options : Options) (source : SchemaSource) :
      Change s (s.keepSchema register shape options source).session
  | put (register : String) {b : Builder} : s.Offers b →
      Change s { s with builders := s.builders.put register b }
  /-- A builder is used up by an assignment that is refused. -/
  | erase (register : String) : Change s { s with builders := s.builders.erase register }
  | finish (builder record : String) {b : Builder} : s.builders.Holds b →
      Change s (s.finish builder b record).session

/-- To look into a register in vain changes nothing. -/
theorem Change.ifHeld {α : Type} {what : Missing} {held : Option α} {go : α → Step}
    (each : ∀ a, held = some a → s.Change (go a).session) :
    s.Change (s.ifHeld what held go).session := by
  cases held with
  | none => exact .none
  | some a => exact each a rfl

theorem Change.settle (register : String) {refused : Session} (hb : s.builders.Holds b)
    (left : s.Change refused) (field : String) (v : Value) :
    s.Change (s.settle register refused (b.set field v)).session := by
  cases ok : b.set field v with
  | error e => exact left
  | ok c => exact .put register (.assigned hb ok)

/-- **A step is a change.** -/
theorem change_step (s : Session) (c : Command) : s.Change (s.step c).session := by
  rw [step_eq_perform]
  cases c with
  | schema register shape options source =>
    rw [perform, makeSchema]
    split
    · exact .none
    · split
      · exact .none
      · exact .schema register _ _ source
  | fresh builder schema =>
    exact .ifHeld fun x found => .put builder (.fresh ⟨schema, found⟩)
  | derive builder record =>
    exact .ifHeld fun r found => .put builder (.derive ⟨record, found⟩)
  | clone builder copy =>
    exact .ifHeld fun b found => .put copy (.copy ⟨builder, found⟩)
  | set builder field value =>
    exact .ifHeld fun b found => .settle builder ⟨builder, found⟩ .none field value
  | assign builder field value =>
    exact .ifHeld fun b found => .settle builder ⟨builder, found⟩ (.erase builder) field value
  | build builder record =>
    exact .ifHeld fun b found => .finish builder record ⟨builder, found⟩
  -- the other steps only answer
  | isSet | «show» | values | get | toJson => exact .ifHeld fun _ _ => .none
  | compare => exact .ifHeld fun _ _ => .ifHeld fun _ _ => .none

/-! ### What is held after a change -/

/-- The making of a schema leaves builders and records alone. -/
theorem exists_keepSchema_eq (s : Session) (register : String) (shape : Shape) (options : Options)
    (source : SchemaSource) : ∃ heap memo schemas,
      (s.keepSchema register shape options source).session = { s with heap, memo, schemas } := by
  unfold keepSchema
  cases source with
  | extracted =>
    obtain ⟨result, events⟩ := Schema.ofShapeReporting shape options
    cases result <;> exact ⟨_, _, _, rfl⟩
  | memoized =>
    obtain ⟨⟨result, memo, heap⟩, events⟩ :=
      Schema.ofShapeMemoizedReporting s.memo s.heap shape options
    cases result <;> exact ⟨_, _, _, rfl⟩

/-- The builder is used up, whatever its build gives. -/
@[simp] theorem builders_finish (s : Session) (builder : String) (b : Builder) (record : String) :
    (s.finish builder b record).session.builders = s.builders.erase builder := by
  rw [finish]
  split <;> rfl

/-- **The builders after a change** are such as the session before it offers. -/
theorem Change.offers (h : s.Change t) (held : t.builders.Holds b) : s.Offers b := by
  cases h with
  | none => exact .copy held
  | schema register shape options source =>
    obtain ⟨heap, memo, schemas, same⟩ := s.exists_keepSchema_eq register shape options source
    rw [same] at held
    exact .copy held
  | put register offered =>
    rcases held.of_put with rfl | old
    · exact offered
    · exact .copy old
  | erase register => exact .copy held.of_erase
  | finish builder record =>
    rw [builders_finish] at held
    exact .copy held.of_erase

/-- **The records after a change.** Each was held before, or is what the build of a builder gave. -/
theorem Change.records (h : s.Change t) (held : t.records.Holds r) :
    s.records.Holds r ∨ ∃ b, s.builders.Holds b ∧ (b.build s.heap).result = .ok r := by
  cases h with
  | none | put | erase => exact .inl held
  | schema register shape options source =>
    obtain ⟨heap, memo, schemas, same⟩ := s.exists_keepSchema_eq register shape options source
    rw [same] at held
    exact .inl held
  | @finish builder record b hb =>
    rw [Session.finish] at held
    cases built : (b.build s.heap).result with
    | error e =>
      simp only [built] at held
      exact .inl held
    | ok new =>
      simp only [built] at held
      rcases held.of_put with rfl | old
      · exact .inr ⟨b, hb, built⟩
      · exact .inl old

end Recordwright.Session
