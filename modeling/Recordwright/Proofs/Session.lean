import Recordwright.Proofs.Builder
import Recordwright.Proofs.Steps

/-!
# Reachable sessions

A session is reachable when the empty session leads to it by steps, in any order and number: the
making of schemas, with or without the memo, from any shape; builders without an origin and with any
record as origin; copies of builders; assignments, accepted or refused; and builds, successful or
not (`Session.Reachable`).

`Session.Sound` is the invariant of all of them: the memo is sound, every schema is one that the
extraction of a shape leads to, every builder and record is well formed, and the place of each
record was handed out before.  The last clause is what tells a new record from every record that is
held.  It is kept by every change that a step can make (`Sound.change`) and so holds by the
induction over changes (`Reachable.changes`), which also carries `Session.MadeSchemas`: the schemas
that builders and records were given are made ones, too.

The main statement is `Reachable.store_invariant`.  It says of every reachable session how
descriptors, types, slots, bits and values hang together, and that no builder in it ever comes to a
case that the code guards against only for safety (`Builder.NoFallback`).
-/

namespace Recordwright

/-- Was the place of this object handed out? -/
def Heap.HandedOut {α : Type} (heap : Heap) (x : Shared α) : Prop := x.place < heap.next

/-- Places are not taken back. -/
theorem Heap.HandedOut.mono {α : Type} {heap later : Heap} {x : Shared α} (h : heap.HandedOut x)
    (le : heap.next ≤ later.next) : later.HandedOut x :=
  Nat.lt_of_lt_of_le h le

/-- The place that is handed out next is not the place of this object. -/
theorem Heap.HandedOut.next_ne {α : Type} {heap : Heap} {x : Shared α} (h : heap.HandedOut x) :
    heap.next ≠ x.place :=
  Nat.ne_of_gt h

/-- A schema that the extraction of some shape leads to. -/
def Schema.IsMade (s : Schema) : Prop :=
  ∃ shape options, Schema.ofShape shape options = .ok s

theorem Schema.IsMade.wellFormed {s : Schema} (h : s.IsMade) : s.WellFormed := by
  obtain ⟨shape, options, made⟩ := h
  exact wellFormed_of_ofShape made

namespace Session

variable {s : Session} {x : Shared Schema} {b : Builder} {r : Shared Record}

/-- The sessions that steps lead to.  Shapes need not come from a JSON text. -/
inductive Reachable : Session → Prop where
  | start : Reachable {}
  | create {s : Session} (register : String) (shape : Shape) (options : Options)
      (source : SchemaSource) : Reachable s →
      Reachable (s.keepSchema register shape options source).session
  | step {s : Session} (c : Command) : Reachable s → Reachable (s.step c).session

/-- The records of a session: those in registers and the origins of builders. -/
def HoldsRecord (s : Session) (r : Shared Record) : Prop :=
  s.records.Holds r ∨ ∃ b, s.builders.Holds b ∧ b.state.origin = some r

/-- **The invariant of sessions.** -/
structure Sound (s : Session) : Prop where
  memo : s.memo.Sound
  schemas : ∀ x, s.schemas.Holds x → x.value.IsMade
  builders : ∀ b, s.builders.Holds b →
    b.WellFormed ∧ ∀ o, b.state.origin = some o → s.heap.HandedOut o
  records : ∀ r, s.records.Holds r → r.value.WellFormed ∧ s.heap.HandedOut r

/-! ### What steps do to a sound session -/

namespace Sound

theorem start : Sound {} where
  memo := Memo.sound_empty
  schemas := fun x h => absurd h (Registers.not_holds_empty x)
  builders := fun b h => absurd h (Registers.not_holds_empty b)
  records := fun r h => absurd h (Registers.not_holds_empty r)

/-- Handing out places keeps a session sound. -/
theorem setHeap (h : s.Sound) {heap : Heap} (le : s.heap.next ≤ heap.next) :
    Sound { s with heap } where
  memo := h.memo
  schemas := h.schemas
  builders := fun b hb =>
    ⟨(h.builders b hb).1, fun o ho => ((h.builders b hb).2 o ho).mono le⟩
  records := fun r hr => ⟨(h.records r hr).1, (h.records r hr).2.mono le⟩

theorem setMemo (h : s.Sound) {memo : Memo} (sound : memo.Sound) : Sound { s with memo } :=
  { h with memo := sound }

theorem putSchema (h : s.Sound) (made : x.value.IsMade) (register : String) :
    Sound { s with schemas := s.schemas.put register x } :=
  { h with
    schemas := fun y hy => by
      rcases hy.of_put with rfl | old
      · exact made
      · exact h.schemas y old }

theorem putBuilder (h : s.Sound) (wellFormed : b.WellFormed)
    (origin : ∀ o, b.state.origin = some o → s.heap.HandedOut o) (register : String) :
    Sound { s with builders := s.builders.put register b } :=
  { h with
    builders := fun c hc => by
      rcases hc.of_put with rfl | old
      · exact ⟨wellFormed, origin⟩
      · exact h.builders c old }

theorem eraseBuilder (h : s.Sound) (register : String) :
    Sound { s with builders := s.builders.erase register } :=
  { h with builders := fun c hc => h.builders c hc.of_erase }

theorem putRecord (h : s.Sound) (wellFormed : r.value.WellFormed) (place : s.heap.HandedOut r)
    (register : String) : Sound { s with records := s.records.put register r } :=
  { h with
    records := fun q hq => by
      rcases hq.of_put with rfl | old
      · exact ⟨wellFormed, place⟩
      · exact h.records q old }

/-- Every record that is held is well formed and at a place that was handed out. -/
theorem holdsRecord (h : s.Sound) (held : s.HoldsRecord r) :
    r.value.WellFormed ∧ s.heap.HandedOut r := by
  rcases held with inRegister | ⟨b, hb, origin⟩
  · exact h.records r inRegister
  · exact ⟨(h.builders b hb).1.origin r origin, (h.builders b hb).2 r origin⟩

/-- A made schema keeps a session sound, whatever the source of its descriptors. -/
theorem keepSchema (h : s.Sound) (register : String) (shape : Shape) (options : Options)
    (source : SchemaSource) : (s.keepSchema register shape options source).session.Sound := by
  cases source with
  -- without the memo only the heap and the schemas change
  | extracted =>
    unfold Session.keepSchema
    simp only [Schema.ofShapeReporting_fst]
    cases made : Schema.ofShape shape options with
    | error e => exact h
    | ok schema =>
      exact (h.setHeap (Nat.le_succ _)).putSchema (x := ⟨s.heap.next, schema⟩)
        ⟨shape, options, made⟩ register
  -- with it the memo changes too, also when no schema is made
  | memoized =>
    have memo : (Schema.ofShapeMemoized s.memo s.heap shape options).2.1.Sound := by
      rw [Schema.ofShapeMemoized_snd]
      exact h.memo.extract s.heap shape options.limits
    have later : s.heap.next ≤ (Schema.ofShapeMemoized s.memo s.heap shape options).2.2.next := by
      rw [Schema.ofShapeMemoized_snd]
      exact s.memo.next_le_extract s.heap shape options.limits
    unfold Session.keepSchema
    cases made : (Schema.ofShapeMemoized s.memo s.heap shape options).1 with
    | error e =>
      simp only [Schema.ofShapeMemoizedReporting_fst, made]
      exact (h.setHeap later).setMemo memo
    | ok schema =>
      simp only [Schema.ofShapeMemoizedReporting_fst, made]
      exact ((h.setHeap (Nat.le_succ_of_le later)).setMemo memo).putSchema
        (x := ⟨(Schema.ofShapeMemoized s.memo s.heap shape options).2.2.next, schema⟩)
        ⟨shape, options, Schema.ofShape_of_ofShapeMemoized h.memo made⟩ register

/-- Every builder that a sound session offers is well formed, with an origin that is held. -/
theorem offers (h : s.Sound) (offered : s.Offers b) :
    b.WellFormed ∧ ∀ o, b.state.origin = some o → s.heap.HandedOut o := by
  cases offered with
  | @fresh x hx => exact ⟨.fresh (h.schemas x hx).wellFormed, fun o ho => by cases ho⟩
  | @derive r hr =>
    obtain ⟨wellFormed, place⟩ := h.records r hr
    refine ⟨.derive wellFormed, fun o ho => ?_⟩
    rw [← Option.some.inj ho]
    exact place
  | copy hb => exact h.builders b hb
  | @assigned old _ field v hold ok =>
    obtain ⟨wellFormed, origin⟩ := h.builders old hold
    refine ⟨wellFormed.set ok, fun o ho => origin o ?_⟩
    obtain ⟨i, t, -, -, -, rfl⟩ := Builder.set_eq_ok_iff.mp ok
    rwa [Builder.origin_store] at ho

/-- A build keeps a session sound: its record is the origin, or lies at a new place. -/
theorem finish (h : s.Sound) (held : s.builders.Holds b) (builder record : String) :
    (s.finish builder b record).session.Sound := by
  obtain ⟨wellFormed, origin⟩ := h.builders b held
  have erased := h.eraseBuilder builder
  have later : s.heap.next ≤ (b.build s.heap).heap.next := b.next_le_build s.heap
  unfold Session.finish
  cases built : (b.build s.heap).result with
  | error e => simpa only [built] using erased.setHeap later
  | ok r =>
    simp only [built]
    -- the origin's place was handed out before, a new record's by this build
    obtain ⟨recordWellFormed, -, old | ⟨place, heap⟩⟩ := wellFormed.build built
    · exact (erased.setHeap later).putRecord recordWellFormed
        ((origin r old.1).mono later) record
    · refine (erased.setHeap later).putRecord recordWellFormed ?_ record
      rw [heap]
      exact place ▸ Nat.lt_succ_self _

/-- **Every change keeps a session sound.** -/
theorem change {t : Session} (h : s.Sound) (changed : s.Change t) : t.Sound := by
  cases changed with
  | none => exact h
  | schema register shape options source => exact h.keepSchema register shape options source
  | put register offered =>
    obtain ⟨wellFormed, origin⟩ := h.offers offered
    exact h.putBuilder wellFormed origin register
  | erase register => exact h.eraseBuilder register
  | finish builder record hb => exact h.finish hb builder record

end Sound

/-! ### Reachable sessions -/

/-- **Induction over changes.** What holds of the empty session and is kept by every change holds of
every reachable session. -/
theorem Reachable.changes {P : Session → Prop} (start : P {})
    (change : ∀ {s t : Session}, s.Reachable → P s → s.Change t → P t) (h : s.Reachable) : P s := by
  induction h with
  | start => exact start
  | create register shape options source reachable ih =>
    exact change reachable ih (.schema register shape options source)
  | @step s c reachable ih => exact change reachable ih (s.change_step c)

/-- Every reachable session is sound. -/
theorem Reachable.sound (h : s.Reachable) : s.Sound :=
  h.changes .start fun _ sound changed => sound.change changed

/-- A script leads from a reachable session to a reachable one. -/
theorem Reachable.run (h : s.Reachable) (script : List Command) : (s.run script).2.Reachable := by
  induction script generalizing s with
  | nil => exact h
  | cons c rest ih => exact ih (h.step c)

/-! ### The schemas of builders and records -/

/-- The schemas that builders and records were given are made ones. -/
structure MadeSchemas (s : Session) : Prop where
  builders : ∀ b, s.builders.Holds b → b.schema.value.IsMade
  records : ∀ r, s.records.Holds r → r.value.schema.value.IsMade

/-- A change keeps it so: what it adds has a schema of the session. -/
theorem MadeSchemas.change {t : Session} (h : s.MadeSchemas) (sound : s.Sound)
    (changed : s.Change t) : t.MadeSchemas where
  builders := fun b held => by
    cases changed.offers held with
    | @fresh x hx => exact sound.schemas x hx
    | @derive r hr => exact h.records r hr
    | copy hb => exact h.builders b hb
    | @assigned old _ field v hold ok =>
      obtain ⟨i, t, -, -, -, rfl⟩ := Builder.set_eq_ok_iff.mp ok
      rw [Builder.schema_store]
      exact h.builders old hold
  records := fun r held => by
    rcases changed.records held with old | ⟨b, hb, built⟩
    · exact h.records r old
    · obtain ⟨-, same, -⟩ := (sound.builders b hb).1.build built
      rw [same]
      exact h.builders b hb

/-- **Only made schemas are in use.** In a reachable session the schema of every builder and of
every record is one that the extraction of a shape leads to. -/
theorem Reachable.madeSchemas (h : s.Reachable) : s.MadeSchemas :=
  h.changes
    ⟨fun b hb => absurd hb (Registers.not_holds_empty b),
      fun r hr => absurd hr (Registers.not_holds_empty r)⟩
    fun reachable made changed => made.change reachable.sound changed

/-! ### The store invariant -/

/-- **The store invariant.** In a reachable session

* every schema has one type for each descriptor, the one that it declares, and descriptors are
  numbered by their positions (`Schema.WellFormed`);
* every builder has one slot and one bit for each descriptor, a slot holds a value iff its bit is
  set, the value is accepted by the field's type, and an origin has the builder's schema
  (`Builder.WellFormed`);
* every record has one value for each descriptor, accepted by the field's type and so `null` only if
  that is nullable; the look-up by name gives the value at the field's position, and nothing for
  other names;
* no operation of a builder comes to a case that is guarded against for safety
  (`Builder.NoFallback`). -/
theorem Reachable.store_invariant (h : s.Reachable) :
    (∀ x, s.schemas.Holds x → x.value.WellFormed) ∧
    (∀ b, s.builders.Holds b → b.WellFormed ∧ b.NoFallback) ∧
    (∀ r, s.HoldsRecord r →
      r.value.WellFormed ∧
      (∀ i d, r.value.schema.value.fields[i]? = some d →
        ∃ t v, r.value.schema.value.type? i = some t ∧ r.value.values[i]? = some v ∧
          t.accepts v = true ∧ (v = .null → t.nullable = true) ∧ r.value.get? d.name = some v) ∧
      ∀ name, (∀ d ∈ r.value.schema.value.fields, d.name ≠ name) → r.value.get? name = none) := by
  refine ⟨fun x hx => (h.sound.schemas x hx).wellFormed, fun b hb => ?_, fun r hr => ?_⟩
  · have wellFormed := (h.sound.builders b hb).1
    exact ⟨wellFormed, wellFormed.noFallback⟩
  · have wellFormed := (h.sound.holdsRecord hr).1
    refine ⟨wellFormed, fun i d hd => ?_, fun name => Record.get?_eq_none⟩
    obtain ⟨t, v, typed, value, accepted, found⟩ := wellFormed.get?_name hd
    refine ⟨t, v, typed, value, accepted, ?_, found⟩
    rintro rfl
    exact accepted

/-- A shape with a required, a nullable and a static field. -/
def dogShape : Shape :=
  (((Shape.named "Dog").requiredField "name" "string").field "age" "int?").staticField "KIND" "text"

/-- A session that holds a schema, a record, and a builder that derives from it. -/
def dogSession : Session :=
  (((({} : Session).keepSchema "Dog" dogShape {} .memoized).session).run
    [.fresh "first" "Dog", .set "first" "name" (.text "Drake"), .set "first" "name" .null,
      .build "first" "drake", .derive "second" "drake", .clone "second" "third",
      .assign "third" "age" (.int 3), .assign "second" "KIND" (.text "dog")]).2

/-- The store invariant of a session with one schema, one record and one builder. -/
theorem store_invariant_dogSession :
    dogSession.Reachable ∧
    (dogSession.schemas.get? "Dog").map (·.value.size) = some 2 ∧
    (dogSession.records.get? "drake").map (·.value.values) = some [.text "Drake", .null] ∧
    (dogSession.builders.get? "third").map (·.slots) = some [none, some (.int 3)] ∧
    (∀ x, dogSession.schemas.Holds x → x.value.WellFormed) ∧
    (∀ b, dogSession.builders.Holds b → b.WellFormed ∧ b.NoFallback) ∧
    (∀ r, dogSession.HoldsRecord r → r.value.WellFormed) := by
  have reachable : dogSession.Reachable :=
    (Reachable.create "Dog" dogShape {} .memoized .start).run _
  obtain ⟨schemas, builders, records⟩ := reachable.store_invariant
  exact ⟨reachable, by decide +kernel, by decide +kernel, by decide +kernel, schemas, builders,
    fun r hr => (records r hr).1⟩

end Session

end Recordwright
