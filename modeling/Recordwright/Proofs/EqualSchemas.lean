import Recordwright.Proofs.DeclarationOrder

/-!
# Equal schemas behave alike

Schemas are compared by their descriptors alone.  The types of a made schema are those that its
descriptors declare, so equal ones differ at most in the descriptions of their builders, and in the
places where they lie.  Neither decides anything when records are built.

To say so, both are taken away: `Session.plain` is the session in which every schema, also that of a
builder or of a record, lies at one place and has the description that default options give.  A step
from there does what the step does from the session itself (`Session.plain_step`), but it cannot
tell whether two records have one schema object (`Answer.plain`).  Hence two sessions that are the
same when plain stay so along every script, and give the same answers (`Session.plain_run`); these
are the very same if nothing is compared (`Session.answers_eq_of_plain`).

The main statement is `Session.Reachable.equal_schemas`.
-/

namespace Recordwright

/-- The function applied to the value; the place stays. -/
def Shared.map {α β : Type} (f : α → β) (a : Shared α) : Shared β := ⟨a.place, f a.value⟩

/-! ### Without descriptions -/

/-- The schema with the description that default options give. -/
def Schema.plain (s : Schema) : Schema := { s with description := s.descriptors.described {} }

/-- The schema at the first place. -/
def Schema.placed (s : Schema) : Shared Schema := ⟨0, s.plain⟩

/-- The record with its schema plain. -/
def Record.plain (r : Record) : Record := { r with schema := r.schema.value.placed }

/-- The builder with its schema and its origin plain. -/
def Builder.plain (b : Builder) : Builder where
  schema := b.schema.value.placed
  state := { b.state with origin := b.state.origin.map (Shared.map Record.plain) }
  slots := b.slots

/-- The outcome of a build with its record plain. -/
def Built.plain (b : Built Record) : Built Record :=
  { b with result := b.result.map (Shared.map Record.plain) }

/-- Does this step compare two records? -/
def Command.isComparison : Command → Bool
  | .compare .. => true
  | _ => false

/-- The answer that does not tell whether two records have one schema object. -/
def Answer.plain : Answer → Answer
  | .compared equal same _ equalSchema => .compared equal same true equalSchema
  | a => a

/-- The session with all of its schemas plain. -/
def Session.plain (s : Session) : Session :=
  { s with
    schemas := s.schemas.map fun x => x.value.placed
    builders := s.builders.map Builder.plain
    records := s.records.map (Shared.map Record.plain) }

/-- The outcome of a step with its session and its answer plain. -/
def Step.plain (x : Step) : Step := ⟨x.session.plain, x.answer.plain, x.events⟩

namespace Schema

variable {s t : Schema}

@[simp] theorem type?_plain (s : Schema) (ordinal : Nat) :
    s.plain.type? ordinal = s.type? ordinal := rfl

@[simp] theorem value_placed (s : Schema) : s.placed.value = s.plain := rfl

@[simp] theorem placed_plain (s : Schema) : s.plain.placed = s.placed := rfl

/-- **Equal schemas differ in their descriptions alone**: the types of a made schema are those that
its descriptors declare. -/
theorem IsMade.plain_eq (hs : s.IsMade) (ht : t.IsMade) (equal : s.equal t = true) :
    s.plain = t.plain := by
  obtain ⟨p, options, madeS⟩ := hs
  obtain ⟨q, others, madeT⟩ := ht
  obtain ⟨_, -, ofS⟩ := ofShape_eq_ok_iff.mp madeS
  obtain ⟨_, -, ofT⟩ := ofShape_eq_ok_iff.mp madeT
  obtain ⟨rfl, -, typesS⟩ := ofDescriptors_eq_ok_iff.mp ofS
  obtain ⟨rfl, -, typesT⟩ := ofDescriptors_eq_ok_iff.mp ofT
  have descriptors : s.descriptors = t.descriptors := beq_iff_eq.mp equal
  have types : s.types = t.types := by
    rw [descriptors, typesT] at typesS
    exact (Except.ok.inj typesS).symm
  rw [plain, plain, descriptors, types]

/-- Options decide whether a shape has a schema, and not what its descriptors are. -/
theorem equal_of_ofShape {shape : Shape} {options others : Options}
    (left : ofShape shape options = .ok s) (right : ofShape shape others = .ok t) :
    s.equal t = true := by
  obtain ⟨_, extractS, ofS⟩ := ofShape_eq_ok_iff.mp left
  obtain ⟨_, extractT, ofT⟩ := ofShape_eq_ok_iff.mp right
  obtain ⟨rfl, -, -⟩ := ofDescriptors_eq_ok_iff.mp ofS
  obtain ⟨rfl, -, -⟩ := ofDescriptors_eq_ok_iff.mp ofT
  rw [Schema.equal, beq_iff_eq, (Shape.extract_eq_ok extractS).1, (Shape.extract_eq_ok extractT).1]

end Schema

/-! ### Records -/

namespace Record

@[simp] theorem equal_plain (r q : Record) : r.plain.equal q.plain = r.equal q := rfl

/-- Values are equal to themselves iff none of them is a NaN. -/
theorem equalValues_self_iff (vs : List Value) :
    equalValues vs vs = true ↔ ∀ v ∈ vs, v.isNaN = false := by
  induction vs with
  | nil => exact iff_of_true rfl fun v member => absurd member List.not_mem_nil
  | cons v vs ih =>
    rw [equalValues, Bool.and_eq_true, ih, List.forall_mem_cons]
    refine and_congr_left' ⟨fun equal => ?_, Value.equal_self⟩
    rw [← Bool.not_eq_true]
    intro nan
    rw [Value.equal_of_isNaN nan] at equal
    cases equal

/-- Records that are the same when plain have the same values, and are equal unless they hold a
NaN. -/
theorem values_eq_and_equal_iff {r q : Record} (h : r.plain = q.plain) :
    r.values = q.values ∧ (r.equal q = true ↔ ∀ v ∈ r.values, v.isNaN = false) := by
  have values : r.values = q.values := congrArg (·.values) h
  have equal : r.equal q = q.equal q := by rw [← equal_plain, h, equal_plain]
  refine ⟨values, ?_⟩
  rw [equal, Record.equal, Schema.equal_self, Bool.true_and, equalValues_self_iff, values]

end Record

/-! ### Builders -/

namespace Builder

theorem plain_plain (b : Builder) : b.plain.plain = b.plain := by
  simp only [plain, Schema.value_placed, Schema.placed_plain, Option.map_map]
  rfl

theorem plain_store (b : Builder) (ordinal : Nat) (v : Value) :
    (b.store ordinal v).plain = b.plain.store ordinal v := by
  have slots : b.plain.slots = b.slots := rfl
  unfold store
  rw [slots]
  split <;> rfl

/-- An assignment is accepted or refused whatever the description. -/
@[simp] theorem plain_set (b : Builder) (field : String) (v : Value) :
    b.plain.set field v = (b.set field v).map plain := by
  have ordinals : b.plain.schema.value.descriptors = b.schema.value.descriptors := rfl
  have types : b.plain.schema.value.type? = b.schema.value.type? := rfl
  unfold set
  rw [ordinals]
  cases b.schema.value.descriptors.ordinalOf? field with
  | none => rfl
  | some ordinal =>
    simp only [types]
    cases b.schema.value.type? ordinal with
    | none => rfl
    | some type =>
      by_cases accepted : type.accepts v = true
      · simp only [if_pos accepted, Except.map, plain_store]
      · simp only [if_neg accepted]
        rfl

/-- A build gives the same record or error whatever the description. -/
@[simp] theorem plain_build (b : Builder) (heap : Heap) :
    b.plain.build heap = (b.build heap).plain := by
  -- what is missing and what has changed go by descriptors and values alone
  cases origin : b.state.origin with
  | none =>
    have origin' : b.plain.state.origin = none := congrArg (Option.map _) origin
    have missing : b.plain.missing = b.missing := rfl
    rw [build_fresh origin, build_fresh origin', missing]
    split <;> rfl
  | some o =>
    have origin' : b.plain.state.origin = some (o.map Record.plain) :=
      congrArg (Option.map _) origin
    have changed : b.plain.isChanged (o.map Record.plain).value = b.isChanged o.value := rfl
    rw [build_derive origin, build_derive origin', changed]
    split <;> rfl

end Builder

/-! ### Sessions -/

namespace Session

variable {s t : Session}

@[simp] theorem get?_schemas_plain (s : Session) (name : String) :
    s.plain.schemas.get? name = (s.schemas.get? name).map fun x => x.value.placed :=
  Registers.get?_map _ s.schemas name

@[simp] theorem get?_builders_plain (s : Session) (name : String) :
    s.plain.builders.get? name = (s.builders.get? name).map Builder.plain :=
  Registers.get?_map _ s.builders name

@[simp] theorem get?_records_plain (s : Session) (name : String) :
    s.plain.records.get? name = (s.records.get? name).map (Shared.map Record.plain) :=
  Registers.get?_map _ s.records name

theorem plain_putSchema (s : Session) (name : String) (x : Shared Schema) :
    { s.plain with schemas := s.plain.schemas.put name x.value.placed } =
      ({ s with schemas := s.schemas.put name x } : Session).plain :=
  congrArg (fun schemas => { s.plain with schemas })
    (Registers.map_put (·.value.placed) s.schemas name x).symm

theorem plain_putBuilder (s : Session) (name : String) (b : Builder) :
    { s.plain with builders := s.plain.builders.put name b.plain } =
      ({ s with builders := s.builders.put name b } : Session).plain :=
  congrArg (fun builders => { s.plain with builders }) (Registers.map_put _ s.builders name b).symm

theorem plain_eraseBuilder (s : Session) (name : String) :
    { s.plain with builders := s.plain.builders.erase name } =
      ({ s with builders := s.builders.erase name } : Session).plain :=
  congrArg (fun builders => { s.plain with builders }) (Registers.map_erase _ s.builders name).symm

/-- A plain session does not get plainer. -/
@[simp] theorem plain_plain (s : Session) : s.plain.plain = s.plain := by
  have schemas : s.plain.schemas.map (fun x => x.value.placed) = s.plain.schemas := by
    show (s.schemas.map fun x => x.value.placed).map (fun x => x.value.placed) = _
    rw [Registers.map_map]
    rfl
  have builders : s.plain.builders.map Builder.plain = s.plain.builders := by
    have twice : Builder.plain ∘ Builder.plain = Builder.plain := funext Builder.plain_plain
    show (s.builders.map Builder.plain).map Builder.plain = _
    rw [Registers.map_map, twice]
    rfl
  have records : s.plain.records.map (Shared.map Record.plain) = s.plain.records := by
    show (s.records.map (Shared.map Record.plain)).map (Shared.map Record.plain) = _
    rw [Registers.map_map]
    rfl
  rw [plain, schemas, builders, records]

end Session

/-- A plain outcome does not get plainer. -/
theorem Step.plain_plain (x : Step) : x.plain.plain = x.plain := by
  have answer : x.answer.plain.plain = x.answer.plain := by cases x.answer <;> rfl
  rw [plain, plain, Session.plain_plain, answer]

namespace Session

variable {s t : Session}

/-- The end of a build in the plain session. -/
theorem plain_finish (s : Session) (builder : String) (b : Builder) (record : String) :
    s.plain.finish builder b.plain record = (s.finish builder b record).plain := by
  have built : b.plain.build s.plain.heap = (b.build s.heap).plain := b.plain_build s.heap
  unfold finish
  simp only [built]
  cases outcome : (b.build s.heap).result with
  | error e =>
    have outcome' : (b.build s.heap).plain.result = .error e := by rw [Built.plain, outcome]; rfl
    simp only [outcome', Step.plain, plain, Registers.map_erase]
    rfl
  | ok r =>
    have outcome' : (b.build s.heap).plain.result = .ok (r.map Record.plain) := by
      rw [Built.plain, outcome]; rfl
    -- the same records lie at the place of the new one
    have sameAs : s.plain.records.namesWhere (·.same (r.map Record.plain)) =
        s.records.namesWhere (·.same r) := Registers.namesWhere_map _ s.records _
    simp only [outcome', sameAs, Step.plain]
    simp only [plain, Registers.map_erase, Registers.map_put]
    rfl

/-- A register of the plain session is empty iff that of the session is. -/
theorem plain_ifHeld {α β : Type} (s : Session) (what : Missing) (held : Option α) (f : α → β)
    {go : α → Step} {go' : β → Step} (each : ∀ a, (go' (f a)).plain = (go a).plain) :
    (s.plain.ifHeld what (held.map f) go').plain = (s.ifHeld what held go).plain := by
  cases held with
  | none => exact congrArg (fun t : Session => (⟨t, .missing what, []⟩ : Step)) s.plain_plain
  | some a => exact each a

theorem plain_keepBuilder (s : Session) (register : String) (b : Builder) :
    s.plain.keepBuilder register b.plain = (s.keepBuilder register b).plain := by
  rw [keepBuilder, plain_putBuilder]
  rfl

theorem plain_settle (s refused : Session) (register : String) (b : Builder) (field : String)
    (v : Value) : s.plain.settle register refused.plain (b.plain.set field v) =
      (s.settle register refused (b.set field v)).plain := by
  rw [b.plain_set]
  cases b.set field v with
  | error e => rfl
  | ok c => exact s.plain_keepBuilder register c

/-- A schema that is kept, when nothing but the plain session is known. -/
theorem plain_putSchema_plain (s : Session) (name : String) (x : Shared Schema) :
    ({ s.plain with schemas := s.plain.schemas.put name x } : Session).plain =
      ({ s with schemas := s.schemas.put name x } : Session).plain := by
  rw [← plain_putSchema s.plain, plain_plain, plain_putSchema]

/-- The making of a schema in the plain session: descriptors come from the memo or from the shape,
and never from the schemas that are held. -/
theorem plain_keepSchema (s : Session) (register : String) (shape : Shape) (options : Options)
    (source : SchemaSource) :
    (s.plain.keepSchema register shape options source).plain =
      (s.keepSchema register shape options source).plain := by
  cases source with
  | extracted =>
    -- both schemas lie at the next place, which is the same in both sessions
    unfold keepSchema
    obtain ⟨result, events⟩ := Schema.ofShapeReporting shape options
    cases result with
    | error e => simp only [Step.plain, plain_plain]
    | ok x =>
      have kept := plain_putSchema_plain s register ⟨s.heap.next, x⟩
      exact congrArg (fun t : Session => Step.mk { t with heap := ⟨s.heap.next + 1⟩ } _ _) kept
  | memoized =>
    have memo : s.plain.memo = s.memo := rfl
    have heap : s.plain.heap = s.heap := rfl
    unfold keepSchema
    rw [memo, heap]
    obtain ⟨⟨result, memo', heap'⟩, events⟩ :=
      Schema.ofShapeMemoizedReporting s.memo s.heap shape options
    cases result with
    | error e =>
      exact congrArg (fun t : Session => Step.mk { t with memo := memo', heap := heap' } _ _)
        s.plain_plain
    | ok x =>
      have kept := plain_putSchema_plain s register ⟨heap'.next, x⟩
      exact congrArg
        (fun t : Session => Step.mk { t with memo := memo', heap := ⟨heap'.next + 1⟩ } _ _) kept

/-- **A step is the same from the plain session**, up to what is not plain in its outcome. -/
theorem plain_step (s : Session) (c : Command) : (s.plain.step c).plain = (s.step c).plain := by
  have settled {x y : Step} (equal : x = y.plain) : x.plain = y.plain := by
    rw [equal, y.plain_plain]
  rw [step_eq_perform, step_eq_perform]
  -- what is in a register of the plain session is what was in it, made plain
  cases c with
  | schema register shape options source =>
    rw [perform, perform, makeSchema, makeSchema]
    cases Options.ofOptionalJson options with
    | error f => exact settled rfl
    | ok options =>
      cases Shape.ofJson shape with
      | error f => exact settled rfl
      | ok shape => exact plain_keepSchema s register shape options source
  | fresh builder schema =>
    rw [perform, perform, get?_schemas_plain]
    exact s.plain_ifHeld _ _ _ fun x => settled (s.plain_keepBuilder builder (.fresh x))
  | derive builder record =>
    rw [perform, perform, get?_records_plain]
    exact s.plain_ifHeld _ _ _ fun r => settled (s.plain_keepBuilder builder (.derive r))
  | clone builder copy =>
    rw [perform, perform, get?_builders_plain]
    exact s.plain_ifHeld _ _ _ fun b => settled (s.plain_keepBuilder copy b)
  | set builder field value =>
    rw [perform, perform, get?_builders_plain]
    exact s.plain_ifHeld _ _ _ fun b => settled (s.plain_settle s builder b field value)
  | assign builder field value =>
    rw [perform, perform, get?_builders_plain, plain_eraseBuilder]
    exact s.plain_ifHeld _ _ _ fun b => settled (s.plain_settle _ builder b field value)
  | build builder record =>
    rw [perform, perform, get?_builders_plain]
    exact s.plain_ifHeld _ _ _ fun b => settled (s.plain_finish builder b record)
  | isSet builder fields =>
    rw [perform, perform, get?_builders_plain]
    exact s.plain_ifHeld _ _ _ fun b => settled rfl
  | «show» record | values record | get record fields | toJson record =>
    rw [perform, perform, get?_records_plain]
    exact s.plain_ifHeld _ _ _ fun r => settled rfl
  | compare record other =>
    rw [perform, perform, get?_records_plain, get?_records_plain]
    refine s.plain_ifHeld _ _ _ fun r => s.plain_ifHeld _ _ _ fun o => ?_
    rw [Step.plain, Step.plain, plain_plain]
    rfl

/-- **Sessions that are the same when plain** stay so along a script, and give the same answers. -/
theorem plain_run (same : s.plain = t.plain) (script : List Command) :
    List.Forall₂ (fun a b => a.1.plain = b.1.plain ∧ a.2 = b.2) (s.run script).1 (t.run script).1 ∧
      (s.run script).2.plain = (t.run script).2.plain := by
  -- the sessions change along the script, so both are general
  induction script generalizing s t with
  | nil => exact ⟨.nil, same⟩
  | cons c rest ih =>
    have first : (s.step c).plain = (t.step c).plain := by
      rw [← plain_step s, same, plain_step t]
    obtain ⟨session, answer, events⟩ := Step.mk.inj first
    obtain ⟨answers, sessions⟩ := ih session
    exact ⟨.cons ⟨answer, events⟩ answers, sessions⟩

theorem plain_answer_ifHeld {α : Type} (s : Session) (what : Missing) (held : Option α)
    {go : α → Step} (each : ∀ a, (go a).answer.plain = (go a).answer) :
    (s.ifHeld what held go).answer.plain = (s.ifHeld what held go).answer := by
  cases held with
  | none => rfl
  | some a => exact each a

/-- Only a comparison tells whether two records have one schema object. -/
theorem plain_answer_step (s : Session) {c : Command} (other : c.isComparison = false) :
    (s.step c).answer.plain = (s.step c).answer := by
  rw [step_eq_perform]
  cases c with
  | compare => cases other
  | schema register shape options source =>
    rw [perform, makeSchema]
    cases Options.ofOptionalJson options with
    | error f => rfl
    | ok options =>
      cases Shape.ofJson shape with
      | error f => rfl
      | ok shape =>
        cases source
        all_goals
          dsimp only [keepSchema]
          split <;> rfl
  | set builder field value | assign builder field value =>
    refine s.plain_answer_ifHeld _ _ fun b => ?_
    cases b.set field value <;> rfl
  | build builder record =>
    refine s.plain_answer_ifHeld _ _ fun b => ?_
    rw [finish]
    split <;> rfl
  | fresh | derive | clone | isSet | «show» | values | get | toJson =>
    exact s.plain_answer_ifHeld _ _ fun _ => rfl

/-- Without comparisons, sessions that are the same when plain give the very same answers. -/
theorem answers_eq_of_plain (same : s.plain = t.plain) {script : List Command}
    (others : ∀ c ∈ script, c.isComparison = false) : (s.run script).1 = (t.run script).1 := by
  induction script generalizing s t with
  | nil => rfl
  | cons c rest ih =>
    have first : (s.step c).plain = (t.step c).plain := by
      rw [← plain_step s, same, plain_step t]
    obtain ⟨other, others⟩ := List.forall_mem_cons.mp others
    obtain ⟨session, answer, events⟩ := Step.mk.inj first
    rw [plain_answer_step s other, plain_answer_step t other] at answer
    rw [run, run, answer, show (s.step c).events = (t.step c).events from events]
    exact congrArg (_ :: ·) (ih session others)

/-- Sessions that are the same when plain hold the same records when plain. -/
theorem rel_records_of_plain (same : s.plain = t.plain) (name : String) :
    Option.Rel (fun r o => r.place = o.place ∧ r.value.plain = o.value.plain)
      (s.records.get? name) (t.records.get? name) := by
  have held : (s.records.get? name).map (Shared.map Record.plain) =
      (t.records.get? name).map (Shared.map Record.plain) := by
    rw [← get?_records_plain, same, get?_records_plain]
  cases left : s.records.get? name with
  | none =>
    rw [left, Option.map_none, eq_comm, Option.map_eq_none_iff] at held
    rw [held]
    exact .none
  | some r =>
    rw [left, Option.map_some, eq_comm, Option.map_eq_some_iff] at held
    obtain ⟨o, right, equal⟩ := held
    obtain ⟨place, value⟩ := Shared.mk.inj equal
    rw [right]
    exact .some ⟨place.symm, value.symm⟩

/-- **Equal schemas behave alike.**  Let sessions that can be reached hold two schemas that compare
equal, whatever options they were made with.

* Both have the same type at every position.
* Put each into one register of the same session, and run any script on both sessions: fresh and
  derived builders, copies, assignments, queries, builds, look-ups, comparisons, further schemas.
  Both runs give the same answers and errors, and report the same events; a comparison alone may
  answer otherwise whether two records have one schema object.  Under each name both hold a record
  or neither does, at the same place, and both records have the very same values.  These records are
  equal unless they hold a NaN.
* All schemas that are made of one shape compare equal, so this applies to them: neither the names
  of setters nor the name of the builder ever matters. -/
theorem Reachable.equal_schemas {s t : Session} (hs : s.Reachable) (ht : t.Reachable)
    {x y : Shared Schema} (hx : s.schemas.Holds x) (hy : t.schemas.Holds y)
    (equal : x.value.equal y.value = true) :
    (∀ ordinal, x.value.type? ordinal = y.value.type? ordinal) ∧
    (∀ (u : Session) (register : String) (script : List Command),
      let left := ({ u with schemas := u.schemas.put register x } : Session).run script
      let right := ({ u with schemas := u.schemas.put register y } : Session).run script
      List.Forall₂ (fun a b => a.1.plain = b.1.plain ∧ a.2 = b.2) left.1 right.1 ∧
      ((∀ c ∈ script, c.isComparison = false) → left.1 = right.1) ∧
      ∀ name, Option.Rel
        (fun r o => r.place = o.place ∧ r.value.values = o.value.values ∧
          (r.value.equal o.value = true ↔ ∀ v ∈ r.value.values, v.isNaN = false))
        (left.2.records.get? name) (right.2.records.get? name)) ∧
    ∀ (shape : Shape) (options others : Options) (a b : Schema),
      Schema.ofShape shape options = .ok a → Schema.ofShape shape others = .ok b →
      a.equal b = true := by
  -- Equal schemas are one schema once they are plain, and plain sessions run alike.
  have plain : x.value.plain = y.value.plain :=
    Schema.IsMade.plain_eq (hs.sound.schemas x hx) (ht.sound.schemas y hy) equal
  refine ⟨fun ordinal => ?_, fun u register script => ?_, fun _ _ _ _ _ => Schema.equal_of_ofShape⟩
  · rw [← Schema.type?_plain, plain, Schema.type?_plain]
  · have placed : x.value.placed = y.value.placed := congrArg (Shared.mk 0) plain
    have start : ({ u with schemas := u.schemas.put register x } : Session).plain =
        ({ u with schemas := u.schemas.put register y } : Session).plain := by
      rw [← plain_putSchema, ← plain_putSchema, placed]
    obtain ⟨answers, sessions⟩ := plain_run start script
    refine ⟨answers, answers_eq_of_plain start, fun name => ?_⟩
    rcases Registers.rel_cases (rel_records_of_plain sessions name) with
      ⟨none, none'⟩ | ⟨r, o, held, held', place, same⟩
    · rw [none, none']
      exact .none
    · rw [held, held']
      exact .some ⟨place, Record.values_eq_and_equal_iff same⟩

/-- Two schemas of dogs, whose builders and setters have other names: a renamed dog is the same. -/
theorem equal_schemas_renameDog :
    let others : Options := { builderName := some "Kennel", setterLead := "set_" }
    let s := (({} : Session).keepSchema "Dog" dogShape {} .memoized).session
    let t := (({} : Session).keepSchema "Dog" dogShape others .extracted).session
    ∃ x y, s.schemas.get? "Dog" = some x ∧ t.schemas.get? "Dog" = some y ∧
      x.value.equal y.value = true ∧ x.value.description ≠ y.value.description ∧
      (let left := ({ s with schemas := s.schemas.put "Dog" x } : Session).run renameDog
      let right := ({ s with schemas := s.schemas.put "Dog" y } : Session).run renameDog
      left.1 = right.1 ∧
      (left.2.records.get? "otto").map (·.value.values) = some [.text "Otto", .null] ∧
      Option.Rel
        (fun r o => r.place = o.place ∧ r.value.values = o.value.values ∧
          (r.value.equal o.value = true ↔ ∀ v ∈ r.value.values, v.isNaN = false))
        (left.2.records.get? "otto") (right.2.records.get? "otto")) := by
  intro others s t
  let x := (s.schemas.get? "Dog").get (by decide +kernel)
  let y := (t.schemas.get? "Dog").get (by decide +kernel)
  have hx : s.schemas.get? "Dog" = some x := @Option.eq_some_of_isSome _ (s.schemas.get? "Dog") _
  have hy : t.schemas.get? "Dog" = some y := @Option.eq_some_of_isSome _ (t.schemas.get? "Dog") _
  have equal : x.value.equal y.value = true := by decide +kernel
  obtain ⟨-, runs, -⟩ :=
    Reachable.equal_schemas (.create "Dog" dogShape {} .memoized .start)
      (.create "Dog" dogShape others .extracted .start) ⟨"Dog", hx⟩ ⟨"Dog", hy⟩ equal
  obtain ⟨-, answers, records⟩ := runs s "Dog" renameDog
  exact ⟨x, y, hx, hy, equal, by decide +kernel, answers (by decide), by decide +kernel,
    records "otto"⟩

end Session

end Recordwright
