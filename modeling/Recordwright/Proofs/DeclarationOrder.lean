import Recordwright.Proofs.Reordered
import Recordwright.Proofs.Session

/-!
# Declaration order decides only order

Two runs of one script are compared.  The first works on a schema of a shape, the second on a
schema of the same shape with its fields declared in another order.  The steps of the script go by
the names of fields (`Command.isByName`): new builders with and without an origin, copies,
assignments, queries, builds and look-ups.

The sessions of both runs stay related (`Session.Reordered`): the same registers hold builders,
records and schemas that agree on every name, and records lie at the same places.  This is kept by
one step (`Session.Reordered.step`), whose answers agree up to the order of fields
(`Answer.Reordered`), and so by the whole run (`Session.Reordered.run`).

The main statement is `Session.declaration_order`.
-/

namespace Recordwright

/-- Does this step go by the names of fields?  The others read JSON texts, give values by position,
or compare the descriptors of records. -/
def Command.isByName : Command → Bool
  | .schema .. | .values .. | .toJson .. | .compare .. => false
  | _ => true

/-- The same answer, up to the order in which it lists fields. -/
inductive Answer.Reordered : Answer → Answer → Prop where
  | same (a : Answer) : Reordered a a
  | failed {e f : ValidationError} : e.Reordered f →
      Reordered (.failed (.validation e)) (.failed (.validation f))
  | built {es fs : List (String × Value)} (sameAs : List String) : es.Perm fs →
      Reordered (.built es sameAs) (.built fs sameAs)
  | entries {es fs : List (String × Value)} : es.Perm fs → Reordered (.entries es) (.entries fs)

/-- The same registers hold what agrees on every name, and the same places were handed out. -/
structure Session.Reordered (s t : Session) : Prop where
  heap : s.heap = t.heap
  schemas : Registers.Related (Shared.Rel Schema.Reordered) s.schemas t.schemas
  builders : Registers.Related Builder.Reordered s.builders t.builders
  records : Registers.Related (Shared.Rel Record.Reordered) s.records t.records

/-- Answers and events that agree, and sessions that still do. -/
structure Step.Reordered (x y : Step) : Prop where
  session : x.session.Reordered y.session
  answer : x.answer.Reordered y.answer
  events : x.events = y.events

namespace Session

variable {s t : Session} {b c : Builder}

namespace Reordered

theorem start : Reordered {} {} where
  heap := rfl
  schemas := .empty
  builders := .empty
  records := .empty

/-- A step that changes nothing and gives one answer in both. -/
theorem same (h : s.Reordered t) (a : Answer) : Step.Reordered ⟨s, a, []⟩ ⟨t, a, []⟩ :=
  ⟨h, .same a, rfl⟩

/-- A register is empty in both sessions, or it holds related things in both. -/
theorem ifHeld {α β : Type} {R : α → β → Prop} (h : s.Reordered t) (what : Missing) {x : Option α}
    {y : Option β} (held : Option.Rel R x y) {go : α → Step} {go' : β → Step}
    (each : ∀ a c, R a c → (go a).Reordered (go' c)) :
    (s.ifHeld what x go).Reordered (t.ifHeld what y go') := by
  cases held with
  | none => exact h.same _
  | some related => exact each _ _ related

theorem keepBuilder (h : s.Reordered t) (register : String) (related : b.Reordered c) :
    (s.keepBuilder register b).Reordered (t.keepBuilder register c) :=
  ⟨{ h with builders := h.builders.put register related }, .same _, rfl⟩

theorem eraseBuilder (h : s.Reordered t) (register : String) :
    Reordered { s with builders := s.builders.erase register }
      { t with builders := t.builders.erase register } :=
  { h with builders := h.builders.erase register }

/-- Schemas of shapes that differ in their order are kept alike, if any are made. -/
theorem keepSchema (h : s.Reordered t) {p q : Shape} (order : p.Reordered q) (register : String)
    (options : Options) :
    (s.keepSchema register p options .extracted).session.Reordered
      (t.keepSchema register q options .extracted).session := by
  have accepted := order.exists_ofShape_iff options
  unfold Session.keepSchema
  simp only [Schema.ofShapeReporting_fst]
  cases left : Schema.ofShape p options with
  | error e =>
    cases right : Schema.ofShape q options with
    | error f => exact h
    | ok y =>
      obtain ⟨x, made⟩ := accepted.mpr ⟨y, right⟩
      rw [left] at made
      cases made
  | ok x =>
    cases right : Schema.ofShape q options with
    | error f =>
      obtain ⟨y, made⟩ := accepted.mp ⟨x, left⟩
      rw [right] at made
      cases made
    | ok y =>
      -- both schemas lie at the next place
      have place : s.heap.next = t.heap.next := by rw [h.heap]
      have related : Shared.Rel Schema.Reordered ⟨s.heap.next, x⟩ ⟨t.heap.next, y⟩ :=
        ⟨place, order.ofShape left right⟩
      have heap : (⟨s.heap.next + 1⟩ : Heap) = ⟨t.heap.next + 1⟩ := by rw [place]
      exact { h with heap := heap, schemas := h.schemas.put register related }

/-- The builds of related builders leave related sessions. -/
theorem finish (h : s.Reordered t) (related : b.Reordered c) (builder record : String) :
    (s.finish builder b record).Reordered (t.finish builder c record) := by
  obtain ⟨outcome, heap, events⟩ := related.build s.heap
  have erased := h.eraseBuilder builder
  unfold Session.finish
  rw [← h.heap]
  rcases outcome.cases with ⟨e, f, left, right, errors⟩ | ⟨r, q, left, right, records⟩
  · simp only [left, right]
    exact ⟨{ erased with heap := heap }, .failed errors, events⟩
  · simp only [left, right]
    -- a record that is held is the new one's object in both sessions or in neither
    have sameAs : s.records.namesWhere (·.same r) = t.records.namesWhere (·.same q) := by
      refine h.records.namesWhere fun o p held => ?_
      rw [Shared.same, Shared.same, held.1, records.1]
    rw [sameAs]
    exact ⟨{ erased with heap := heap, records := h.records.put record records },
      .built _ records.2.entries_perm, events⟩

/-- Both builders accept a value, or they refuse it with one error. -/
theorem settle (h : s.Reordered t) (register : String) {s' t' : Session}
    (refused : s'.Reordered t') (related : b.Reordered c) (field : String) (v : Value) :
    (s.settle register s' (b.set field v)).Reordered (t.settle register t' (c.set field v)) := by
  rcases (related.set field v).cases with
    ⟨e, f, left, right, rfl⟩ | ⟨b', c', left, right, related'⟩
  · rw [left, right]
    exact refused.same _
  · rw [left, right]
    exact h.keepBuilder register related'

/-- **One step by name** keeps sessions related, and its answers agree. -/
theorem step (h : s.Reordered t) {c : Command} (byName : c.isByName = true) :
    (s.step c).Reordered (t.step c) := by
  rw [step_eq_perform, step_eq_perform]
  cases c with
  | schema | values | toJson | compare => cases byName
  | fresh builder schema =>
    exact h.ifHeld _ (h.schemas.get? schema) fun _ _ related =>
      h.keepBuilder builder (.fresh related)
  | derive builder record =>
    exact h.ifHeld _ (h.records.get? record) fun _ _ related =>
      h.keepBuilder builder (.derive related)
  | clone builder copy =>
    exact h.ifHeld _ (h.builders.get? builder) fun _ _ related => h.keepBuilder copy related
  | set builder field value =>
    exact h.ifHeld _ (h.builders.get? builder) fun _ _ related =>
      h.settle builder h related field value
  | assign builder field value =>
    exact h.ifHeld _ (h.builders.get? builder) fun _ _ related =>
      h.settle builder (h.eraseBuilder builder) related field value
  | isSet builder fields =>
    refine h.ifHeld _ (h.builders.get? builder) fun b c related => ?_
    have flags : b.isSet = c.isSet := funext related.isSet
    rw [flags]
    exact h.same _
  | build builder record =>
    exact h.ifHeld _ (h.builders.get? builder) fun _ _ related => h.finish related builder record
  | «show» record =>
    exact h.ifHeld _ (h.records.get? record) fun _ _ related =>
      ⟨h, .entries related.2.entries_perm, rfl⟩
  | get record fields =>
    refine h.ifHeld _ (h.records.get? record) fun r q related => ?_
    have lookups : r.value.get? = q.value.get? := funext related.2.get?
    rw [lookups]
    exact h.same _

/-- **A script by name** keeps sessions related, and its answers agree one by one. -/
theorem run (h : s.Reordered t) {script : List Command}
    (byName : ∀ c ∈ script, c.isByName = true) :
    List.Forall₂ (fun x y => x.1.Reordered y.1 ∧ x.2 = y.2) (s.run script).1 (t.run script).1 ∧
      (s.run script).2.Reordered (t.run script).2 := by
  -- the sessions change along the script, so both are general
  induction script generalizing s t with
  | nil => exact ⟨.nil, h⟩
  | cons c rest ih =>
    have first := h.step (byName c List.mem_cons_self)
    obtain ⟨answers, sessions⟩ :=
      ih first.session fun c member => byName c (List.mem_cons_of_mem _ member)
    exact ⟨.cons ⟨first.answer, first.events⟩ answers, sessions⟩

end Reordered

/-- **Declaration order decides only order.** Let two shapes differ in the order of their fields.
Either a schema is made of both, or of neither.  Run any script by name on both.

* Both runs give the same answers, step by step, except that entries of records and of errors for
  missing fields are listed in another order; and they report the same events.
* Under each name both hold a record or neither does, at the same place, and both records show the
  same under every name.
* Under each name both hold a builder or neither does.  Both builders have the same fields set, and
  both accept an assignment or refuse it with the same error.  Both builds succeed, or both fail and
  lack the same fields.  If there are origins, both builds give their origin or neither does. -/
theorem declaration_order {p q : Shape} (order : p.Reordered q) (options : Options)
    (register : String) {script : List Command} (byName : ∀ c ∈ script, c.isByName = true) :
    let left := (({} : Session).keepSchema register p options .extracted).session.run script
    let right := (({} : Session).keepSchema register q options .extracted).session.run script
    ((∃ s, Schema.ofShape p options = .ok s) ↔ ∃ t, Schema.ofShape q options = .ok t) ∧
    List.Forall₂ (fun x y => x.1.Reordered y.1 ∧ x.2 = y.2) left.1 right.1 ∧
    (∀ name, Option.Rel
      (fun r o => r.place = o.place ∧ ∀ field, r.value.get? field = o.value.get? field)
      (left.2.records.get? name) (right.2.records.get? name)) ∧
    ∀ name, Option.Rel
      (fun b c => (∀ field, b.isSet field = c.isSet field) ∧
        (∀ field v, SameOutcome Eq (fun _ _ => True) (b.set field v) (c.set field v)) ∧
        SameOutcome ValidationError.Reordered
          (fun r o => r.place = o.place ∧ ∀ field, r.value.get? field = o.value.get? field)
          (b.build left.2.heap).result (c.build right.2.heap).result ∧
        Option.Rel (fun r o => (b.build left.2.heap).result = .ok r ↔
          (c.build right.2.heap).result = .ok o) b.state.origin c.state.origin)
      (left.2.builders.get? name) (right.2.builders.get? name) := by
  intro left right
  -- The two sessions are related once the schemas are made, and they stay so step by step.
  have made : Session.Reordered _ _ := Reordered.start.keepSchema order register options
  obtain ⟨answers, sessions⟩ := made.run byName
  have soundLeft : left.2.Sound :=
    ((Reachable.create register p options .extracted .start).run script).sound
  have soundRight : right.2.Sound :=
    ((Reachable.create register q options .extracted .start).run script).sound
  refine ⟨order.exists_ofShape_iff options, answers, fun name => ?_, fun name => ?_⟩
  · rcases Registers.rel_cases (sessions.records.get? name) with
      ⟨none, none'⟩ | ⟨r, o, held, held', related⟩
    · rw [none, none']
      exact .none
    · rw [held, held']
      exact .some ⟨related.1, related.2.get?⟩
  · rcases Registers.rel_cases (sessions.builders.get? name) with
      ⟨none, none'⟩ | ⟨b, c, held, held', related⟩
    · rw [none, none']
      exact .none
    · rw [held, held']
      refine .some ⟨related.isSet, fun field v => ?_, ?_, ?_⟩
      · exact (related.set field v).mono (fun _ _ same => same) fun _ _ _ => trivial
      · have heaps : left.2.heap = right.2.heap := sessions.heap
        rw [← heaps]
        exact (related.build left.2.heap).1.mono (fun _ _ errors => errors)
          fun r o same => ⟨same.1, same.2.get?⟩
      · rcases Registers.rel_cases related.origin with
          ⟨fresh, fresh'⟩ | ⟨r, o, origin, origin', same⟩
        · rw [fresh, fresh']
          exact .none
        · -- both origins were made before, so only a change can lead to a new record
          have old := (soundLeft.builders b ⟨name, held⟩).2 r origin
          have old' := (soundRight.builders c ⟨name, held'⟩).2 o origin'
          rw [origin, origin']
          refine .some ?_
          rw [Builder.result_build_eq_origin_iff origin old,
            Builder.result_build_eq_origin_iff origin' old',
            related.isChanged_eq origin origin' same.2]

/-- A dog is built, and one of another name is derived from it.  One assignment is refused. -/
def renameDog : List Command :=
  [.fresh "first" "Dog", .set "first" "name" (.text "Drake"), .set "first" "age" (.text "old"),
    .build "first" "drake", .derive "second" "drake", .set "second" "name" (.text "Otto"),
    .build "second" "otto"]

/-- With the fields in either order the values of the renamed dog stand in different orders, and
both records show the same. -/
theorem declaration_order_renameDog :
    let q : Shape := ⟨"Dog", dogShape.fields.reverse⟩
    let left := (({} : Session).keepSchema "Dog" dogShape {} .extracted).session.run renameDog
    let right := (({} : Session).keepSchema "Dog" q {} .extracted).session.run renameDog
    dogShape.Reordered q ∧ (∀ c ∈ renameDog, c.isByName = true) ∧
    (left.2.records.get? "otto").map (·.value.values) = some [.text "Otto", .null] ∧
    (right.2.records.get? "otto").map (·.value.values) = some [.null, .text "Otto"] ∧
    Option.Rel (fun r o => r.place = o.place ∧ ∀ field, r.value.get? field = o.value.get? field)
      (left.2.records.get? "otto") (right.2.records.get? "otto") := by
  intro q left right
  have order : dogShape.Reordered q := ⟨rfl, dogShape.fields.reverse_perm.symm⟩
  have byName : ∀ c ∈ renameDog, c.isByName = true := by decide
  obtain ⟨-, -, records, -⟩ := declaration_order order {} "Dog" byName
  exact ⟨order, byName, by decide +kernel, by decide +kernel, records "otto"⟩

end Session

end Recordwright
