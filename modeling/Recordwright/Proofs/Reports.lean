import Mathlib.Data.List.Dedup
import Recordwright.Proofs.ByName
import Recordwright.Proofs.Derive.Calls
import Recordwright.Proofs.Described
import Recordwright.Proofs.Session

/-!
# Reports tell the truth

What is reported is an account of what happened, made by those who let it happen.  Here the account
is compared with what a user sees.

What is seen of an event is its level, its message and what else it tells (`Report`).
`Report.ofResult` is what should be seen of a build: it is made of the result of the build, of the
origin of the builder and of the number of fields that were assigned.  A build is truthful if this is
seen of it and nothing else, and if it puts a record at a new place unless it says that the origin
was handed back (`Built.Truthful`).  The builds of both kinds of builders are
(`Builder.truthful_build`, `TypedBuilder.WellFormed.truthful_build`), although the outcome that they
report is that of their mode.  The number of assigned fields, which they get by counting bits, is
that of the different names for which an assignment was accepted
(`Builder.WellFormed.count_attemptAll`, `TypedBuilder.WellFormed.count_callAll`).

The main statement, `Event.truthful`, is about every making of a schema and every build of a builder
of a reachable session or of derived code.  `Schema.reports_memoized` says what is seen of the making
of a schema through the memo.
-/

namespace Recordwright

/-- Lists without repetition that have the same elements are equally long. -/
theorem length_eq_of_nodup {α : Type} {l l' : List α} (h : l.Nodup) (h' : l'.Nodup)
    (same : ∀ a, a ∈ l ↔ a ∈ l') : l.length = l'.length :=
  ((List.perm_ext_iff_of_nodup h h').mpr same).length_eq

/-! ### What is seen of an event -/

/-- What is seen of an event. -/
structure Report where
  level : String
  message : String
  details : List (String × Json.Tree)

/-- What is seen of this event. -/
def Event.report (e : Event) : Report := ⟨e.level, e.message, e.details⟩

section

variable {ρ : Type}

/-- How a build ended, by its result: with a record that has an origin, is it this origin? -/
def BuildOutcome.ofResult? (origin : Option (Shared ρ)) :
    Except ValidationError (Shared ρ) → Option BuildOutcome
  | .error _ => none
  | .ok r =>
    match origin with
    | none => some .fresh
    | some o => if r.same o then some .unchanged else some .cloned

/-- The report that tells the result of a build: whether a record was made or handed back, or how
many fields were lacking. -/
def Report.ofResult (record : String) (origin : Option (Shared ρ)) (assigned : Nat) :
    Except ValidationError (Shared ρ) → Report
  | .error e =>
    ⟨"TRACE", "Fresh build rejected, required fields not set",
      [("record", .string record), ("missing", .ofNat e.size)]⟩
  | .ok r =>
    match origin with
    | none =>
      ⟨"TRACE", "Built record",
        [("record", .string record), ("assigned", .ofNat assigned), ("outcome", .string "fresh")]⟩
    | some o =>
      if r.same o then
        ⟨"TRACE", "Derived build returned origin",
          [("record", .string record), ("assigned", .ofNat assigned),
            ("outcome", .string "unchanged")]⟩
      else
        ⟨"TRACE", "Built record",
          [("record", .string record), ("assigned", .ofNat assigned),
            ("outcome", .string "cloned")]⟩

/-! ### Truthful builds -/

/-- **A truthful build.** Of a builder with this origin, and with so many fields assigned. -/
structure Built.Truthful (built : Built ρ) (record : String) (origin : Option (Shared ρ))
    (assigned : Nat) (heap : Heap) : Prop where
  /-- One event is reported, and it tells the result. -/
  events : ∃ event, built.events = [event] ∧
    event.report = .ofResult record origin assigned built.result ∧
    event.outcome = BuildOutcome.ofResult? origin built.result
  /-- Only a fresh build is rejected. -/
  rejected : ∀ e, built.result = .error e → origin = none
  /-- What is said to be the origin is the origin, and nothing was made. -/
  unchanged : ∀ r o, built.result = .ok r → origin = some o → r.same o = true →
    r = o ∧ built.heap = heap
  /-- Every other record was made and put at a new place. -/
  made : ∀ r, built.result = .ok r → (∀ o, origin = some o → r.same o = false) →
    r.place = heap.next ∧ built.heap.next = heap.next + 1

variable {record : String} {assigned : Nat} {heap : Heap} {value : ρ} {o : Shared ρ}

theorem Built.truthful_rejected (e : ValidationError) :
    (⟨.error e, heap, [.rejected record e.size]⟩ : Built ρ).Truthful record none assigned heap where
  events := ⟨_, rfl, rfl, rfl⟩
  rejected := fun _ _ => rfl
  unchanged := fun _ _ ok => nomatch ok
  made := fun _ ok => nomatch ok

theorem Built.truthful_fresh :
    (⟨.ok ⟨heap.next, value⟩, ⟨heap.next + 1⟩, [.built record assigned false]⟩ : Built ρ).Truthful
      record none assigned heap where
  events := ⟨_, rfl, rfl, rfl⟩
  rejected := fun _ failed => nomatch failed
  unchanged := fun _ _ _ origin => nomatch origin
  made := fun r ok _ => by
    obtain rfl := Except.ok.inj ok
    exact ⟨rfl, rfl⟩

theorem Built.truthful_cloned (old : heap.HandedOut o) :
    (⟨.ok ⟨heap.next, value⟩, ⟨heap.next + 1⟩, [.built record assigned true]⟩ : Built ρ).Truthful
      record (some o) assigned heap := by
  -- the place is new, and so not that of the origin
  have other : (⟨heap.next, value⟩ : Shared ρ).same o = false := beq_false_of_ne old.next_ne
  constructor
  case events =>
    refine ⟨_, rfl, ?_, ?_⟩
    · simp only [Report.ofResult, other, Bool.false_eq_true, if_false]
      rfl
    · simp only [BuildOutcome.ofResult?, other, Bool.false_eq_true, if_false]
      rfl
  case rejected =>
    rintro _ ⟨⟩
  case unchanged =>
    rintro _ _ ⟨⟩ ⟨⟩ same
    rw [other] at same
    cases same
  case made =>
    rintro _ ⟨⟩ _
    exact ⟨rfl, rfl⟩

theorem Built.truthful_unchanged :
    (⟨.ok o, heap, [.returnedOrigin record assigned]⟩ : Built ρ).Truthful
      record (some o) assigned heap := by
  constructor
  case events =>
    refine ⟨_, rfl, ?_, ?_⟩
    · simp only [Report.ofResult, o.same_self, if_true]
      rfl
    · simp only [BuildOutcome.ofResult?, o.same_self, if_true]
      rfl
  case rejected =>
    rintro _ ⟨⟩
  case unchanged =>
    rintro _ _ ⟨⟩ ⟨⟩ _
    exact ⟨rfl, rfl⟩
  case made =>
    rintro _ ⟨⟩ other
    have apart := other o rfl
    rw [o.same_self] at apart
    cases apart

end

/-! ### Builders of sessions -/

namespace Builder

variable {b : Builder} {heap : Heap}

/-- **Builds tell the truth.**  The outcome that is reported is that of the mode, which is that of
what happened. -/
theorem truthful_build (b : Builder) (old : ∀ o, b.state.origin = some o → heap.HandedOut o) :
    (b.build heap).Truthful b.schema.value.record b.state.origin b.state.assigned.count heap := by
  cases origin : b.state.origin with
  | none =>
    rw [build_fresh origin]
    -- the event counts the missing fields, the result lists them
    by_cases none : b.missing = []
    · rw [if_pos none]
      exact Built.truthful_fresh
    · rw [if_neg none, ← BuildState.size_missingError b.schema.value.record]
      exact Built.truthful_rejected _
  | some o =>
    rw [build_derive origin]
    by_cases changed : b.isChanged o.value = true
    · rw [if_pos changed]
      exact Built.truthful_cloned (old o origin)
    · rw [if_neg changed]
      exact Built.truthful_unchanged

/-- After assignments to a builder that stores nothing, a name has the last accepted value. -/
theorem WellFormed.value?_attemptAll (h : b.WellFormed) (empty : ∀ i, b.stored i = none)
    (as : List Assignment) (name : String) :
    (b.attemptAll as).value? name = lastValue name (b.accepted as) := by
  have wellFormed := h.attemptAll as
  cases found : b.schema.value.descriptors.ordinalOf? name with
  | none =>
    -- nothing is accepted for a name that no field has
    have nowhere := Descriptors.ordinalOf?_eq_none_iff.mp found
    have last : lastValue name (b.accepted as) = none := by
      refine Option.eq_none_iff_forall_ne_some.mpr fun v last => ?_
      obtain ⟨i, d, t, hd, same, -⟩ := h.accepts_lastValue last
      exact nowhere d (List.mem_of_getElem? hd) same
    rw [last, value?, schema_attemptAll, found]
    rfl
  | some i =>
    obtain ⟨d, hd, rfl⟩ := h.schema.descriptors.ordinalOf?_eq_some_iff.mp found
    have hd' : (b.attemptAll as).schema.value.fields[i]? = some d := by rwa [schema_attemptAll]
    rw [wellFormed.value?_name hd', h.stored_attemptAll hd, empty, Option.or_none]

/-- **Assigned fields are counted right.** The bits of a builder are as many as the different names
for which an assignment was accepted. -/
theorem WellFormed.count_attemptAll (h : b.WellFormed) (empty : ∀ i, b.stored i = none)
    (as : List Assignment) :
    (b.attemptAll as).state.assigned.count = ((b.accepted as).map (·.1)).dedup.length := by
  have wellFormed := h.attemptAll as
  rw [wellFormed.count_eq]
  refine length_eq_of_nodup wellFormed.nodup_setNames (List.nodup_dedup _) fun name => ?_
  rw [wellFormed.mem_setNames, h.value?_attemptAll empty, List.mem_dedup, isSome_lastValue]

/-- The builder as it was before anything was assigned. -/
def start (b : Builder) : Builder :=
  match b.state.origin with
  | none => .fresh b.schema
  | some o => .derive o

theorem start_attempt (b : Builder) (a : Assignment) : (b.attempt a).start = b.start := by
  unfold start
  rw [origin_attempt, schema_attempt]

/-- A builder begins well formed, and with nothing stored. -/
theorem WellFormed.start (h : b.WellFormed)
    (origins : ∀ o, b.state.origin = some o → o.value.WellFormed) :
    b.start.WellFormed ∧ ∀ i, b.start.stored i = none := by
  unfold Builder.start
  cases origin : b.state.origin with
  | none => exact ⟨.fresh h.schema, stored_fresh b.schema⟩
  | some o => exact ⟨.derive (origins o origin), stored_derive o⟩

end Builder

namespace Session

variable {s : Session} {b : Builder}

/-- **Where builders come from.** What a builder of a reachable session holds was assigned to it. -/
theorem Reachable.exists_assigned (h : s.Reachable) (held : s.builders.Holds b) :
    ∃ as, b = b.start.attemptAll as := by
  -- along the changes of the session, for all of its builders at once
  revert b
  refine h.changes (P := fun s => ∀ {b : Builder}, s.builders.Holds b →
    ∃ as, b = b.start.attemptAll as) (fun held => absurd held (Registers.not_holds_empty _)) ?_
  intro s t _ ih changed b held
  cases changed.offers held with
  | fresh => exact ⟨[], rfl⟩
  | derive => exact ⟨[], rfl⟩
  | copy old => exact ih old
  | @assigned old _ field v hold ok =>
    -- one more assignment than the builder before it
    obtain ⟨as, grown⟩ := ih hold
    have next : b = old.attempt (field, v) := by simp only [Builder.attempt, ok]
    refine ⟨as ++ [(field, v)], ?_⟩
    rw [next, Builder.start_attempt, Builder.attemptAll_append, ← grown]
    rfl

/-- A builder of a reachable session tells the truth, then or later. -/
theorem Reachable.truthful_build (h : s.Reachable) (held : s.builders.Holds b)
    {as : List Assignment} (assigned : b = b.start.attemptAll as) {heap : Heap}
    (later : s.heap.next ≤ heap.next) :
    (b.build heap).Truthful b.schema.value.record b.state.origin
      ((b.start.accepted as).map (·.1)).dedup.length heap := by
  obtain ⟨wellFormed, old⟩ := h.sound.builders b held
  have origins : ∀ o, b.state.origin = some o → o.value.WellFormed := fun o origin =>
    (h.sound.holdsRecord (.inr ⟨b, held, origin⟩)).1
  obtain ⟨begun, empty⟩ := wellFormed.start origins
  rw [← begun.count_attemptAll empty, ← assigned]
  exact b.truthful_build fun o origin => (old o origin).mono later

end Session

/-! ### Builders of derived code -/

namespace TypedBuilder

variable {ν : Type} {d : Definition} {b : Blueprint} {t : TypedBuilder ν}
  {calls : List (FieldMethods × ν)}

/-- The names of the fields that are assigned. -/
def assignedNames (d : Definition) (t : TypedBuilder ν) : List String :=
  (d.kept.zipIdx.filter fun p => t.state.isAssigned p.2).map (·.1.name)

/-- There are as many bits as names of assigned fields. -/
theorem WellFormed.count_eq (h : t.WellFormed d) :
    t.state.assigned.count = (assignedNames d t).length := by
  have positions : d.kept.zipIdx.map (·.2) = List.range d.kept.length := by
    rw [List.zipIdx_map_snd, List.range_eq_range']
  rw [h.assigned_tight.count_eq, h.assigned_size, ← positions, List.countP_map, assignedNames,
    List.length_map, List.countP_eq_length_filter]
  rfl

theorem nodup_assignedNames (lined : b.LinesUp d) (t : TypedBuilder ν) :
    (assignedNames d t).Nodup := by
  have names : d.kept.zipIdx.map (·.1.name) = d.kept.map (·.name) := by
    conv_rhs => rw [← List.zipIdx_map_fst 0 d.kept, List.map_map]
    rfl
  exact (names ▸ lined.names_nodup).sublist (List.filter_sublist.map _)

/-- **Assigned fields are counted right.** After calls on a builder that stores nothing, its bits
are as many as the different fields whose methods were called. -/
theorem WellFormed.count_callAll (h : t.WellFormed d) (lined : b.LinesUp d)
    (empty : ∀ i, t.stored i = none) (methods : ∀ c ∈ calls, c.1 ∈ b.methods) :
    (t.callAll calls).state.assigned.count = (calls.map (·.1.field)).dedup.length := by
  have wellFormed := h.callAll lined methods
  -- a field is assigned iff it was given a value
  have assigned : ∀ (i : Nat) (f : FieldDefinition), d.kept[i]? = some f →
      (t.callAll calls).state.isAssigned i = (lastGiven f.name calls).isSome := by
    intro i f hf
    rw [wellFormed.isAssigned_eq, h.stored_callAll lined methods hf, empty, Option.or_none]
  rw [wellFormed.count_eq]
  refine length_eq_of_nodup (nodup_assignedNames lined _) (List.nodup_dedup _) fun name => ?_
  rw [List.mem_dedup, assignedNames, List.mem_map, List.mem_map]
  constructor
  · rintro ⟨⟨f, i⟩, member, rfl⟩
    obtain ⟨place, set⟩ := List.mem_filter.mp member
    rw [assigned i f (List.mem_zipIdx_iff_getElem?.mp place)] at set
    exact isSome_lastGiven.mp set
  · rintro ⟨c, member, rfl⟩
    obtain ⟨i, f, hf, equal⟩ := lined.mem_methods.mp (methods c member)
    have name : c.1.field = f.name := by rw [equal]; rfl
    refine ⟨(f, i), List.mem_filter.mpr ⟨List.mem_zipIdx_iff_getElem?.mpr hf, ?_⟩, name.symm⟩
    rw [assigned i f hf]
    exact isSome_lastGiven.mpr ⟨c, member, name⟩

/-- **Builds tell the truth**, those of derived code as well. -/
theorem WellFormed.truthful_build (h : t.WellFormed d) (lined : b.LinesUp d)
    (traits : FieldTraits ν) (heap : Heap)
    (origins : ∀ o, t.state.origin = some o → heap.HandedOut o ∧ Complete d o.value) :
    ∃ built, t.build b traits heap = some built ∧
      built.Truthful b.record t.state.origin t.state.assigned.count heap := by
  cases origin : t.state.origin with
  | none =>
    by_cases none : missing d t = []
    · exact ⟨_, h.build_fresh lined traits origin none heap, Built.truthful_fresh⟩
    · refine ⟨_, h.build_rejected lined traits origin none heap, ?_⟩
      rw [← BuildState.size_missingError b.record]
      exact Built.truthful_rejected _
  | some o =>
    obtain ⟨old, complete⟩ := origins o origin
    by_cases changes : Changes d traits t o.value
    · obtain ⟨value, built, -⟩ := h.build_changed lined traits origin complete changes heap
      exact ⟨_, built, Built.truthful_cloned old⟩
    · exact ⟨_, h.build_unchanged lined traits origin complete changes heap,
        Built.truthful_unchanged⟩

/-- A builder that stores nothing tells the truth after any calls. -/
theorem WellFormed.truthful_build_callAll (h : t.WellFormed d) (lined : b.LinesUp d)
    (empty : ∀ i, t.stored i = none) (traits : FieldTraits ν)
    (methods : ∀ c ∈ calls, c.1 ∈ b.methods) (heap : Heap)
    (origins : ∀ o, t.state.origin = some o → heap.HandedOut o ∧ Complete d o.value) :
    ∃ built, (t.callAll calls).build b traits heap = some built ∧
      built.Truthful b.record t.state.origin (calls.map (·.1.field)).dedup.length heap := by
  have truthful := (h.callAll lined methods).truthful_build lined traits heap
    (by rwa [origin_callAll])
  rwa [origin_callAll, h.count_callAll lined empty methods] at truthful

end TypedBuilder

/-! ### The making of schemas -/

namespace Shape

/-- The number of static declarations. -/
def statics (s : Shape) : Nat := (s.fields.filter (·.isStatic)).length

/-- Extraction skips the static declarations and keeps all others. -/
theorem size_add_statics {s : Shape} {limits : Limits} {ds : Descriptors}
    (h : s.extract limits = .ok ds) : ds.size + s.statics = s.fields.length := by
  obtain ⟨rfl, -⟩ := extract_eq_ok h
  have parts := List.length_eq_length_filter_add (l := s.fields) (·.isStatic)
  rw [Descriptors.size, length_numbered, Shape.kept, statics, parts, Nat.add_comm]

/-- What should be seen of the extraction of these descriptors. -/
def extractionReport (s : Shape) (ds : Descriptors) : Report :=
  ⟨"DEBUG", "Extracted field descriptors",
    [("record", .string s.name), ("fields", .ofNat ds.size), ("skipped", .ofNat s.statics)]⟩

/-- The event of an extraction counts the static declarations. -/
theorem report_extractionEvent {s : Shape} {limits : Limits} {ds : Descriptors}
    (h : s.extract limits = .ok ds) : (s.extractionEvent ds).report = s.extractionReport ds := by
  have all := size_add_statics h
  rw [extractionEvent, ← all, Nat.add_sub_cancel_left]
  rfl

end Shape

namespace Schema

/-- What should be seen of the making of a schema. -/
def creationReport (s : Schema) : Report :=
  ⟨"DEBUG", "Created dynamic schema",
    [("record", .string s.record), ("builder", .string s.description.builder),
      ("fields", .ofNat s.size)]⟩

variable {shape : Shape} {options : Options} {ds : Descriptors}

/-- Behind an extraction, a later step decides whether a schema is reported. -/
theorem reports_ofShape (extracted : shape.extract options.limits = .ok ds) :
    (∀ e, (ofShapeReporting shape options).1 = .error e →
      (ofShapeReporting shape options).2.map Event.report = [shape.extractionReport ds]) ∧
    ∀ s, (ofShapeReporting shape options).1 = .ok s →
      (ofShapeReporting shape options).2.map Event.report =
        [shape.extractionReport ds, s.creationReport] := by
  have extraction := Shape.report_extractionEvent extracted
  cases later : ofDescriptors ds options with
  | error e =>
    have reporting : ofShapeReporting shape options = (.error e, [shape.extractionEvent ds]) := by
      simp only [ofShapeReporting, extracted, later]
    rw [reporting]
    refine ⟨fun _ _ => ?_, ?_⟩
    · rw [List.map_singleton, extraction]
    · rintro s ⟨⟩
  | ok s =>
    have reporting : ofShapeReporting shape options =
        (.ok s, [shape.extractionEvent ds, s.creationEvent]) := by
      simp only [ofShapeReporting, extracted, later]
    rw [reporting]
    constructor
    · rintro e ⟨⟩
    · rintro _ ⟨⟩
      rw [List.map_cons, List.map_singleton, extraction]
      rfl

/-- **Through the memo** the same is seen as without it, but that the memo had the descriptors is
seen in place of their extraction. -/
theorem reports_memoized (memo : Memo) (heap : Heap) (shape : Shape) (options : Options) :
    (memo.lookup? shape options.limits = none →
      (ofShapeMemoizedReporting memo heap shape options).2 =
        (ofShapeReporting shape options).2) ∧
    ∀ found, memo.lookup? shape options.limits = some found →
      (ofShapeMemoizedReporting memo heap shape options).2.map Event.report =
        ⟨"TRACE", "Descriptor cache hit", [("record", .string shape.name)]⟩ ::
          match ofDescriptors found.value options with
          | .error _ => []
          | .ok s => [s.creationReport] := by
  refine ⟨fun missed => ?_, fun found hit => ?_⟩
  · rw [ofShapeMemoizedReporting, ofShapeMemoized, Memo.extract, Memo.extractionEvents, missed]
    simp only [Shape.extractReporting, ofShapeReporting]
    cases shape.extract options.limits with
    | error e => rfl
    | ok ds => cases made : ofDescriptors ds options <;> simp [made]
  · simp only [ofShapeMemoizedReporting, ofShapeMemoized, Memo.extract, Memo.extractionEvents, hit]
    cases ofDescriptors found.value options <;> rfl

end Schema

/-! ### All reports -/

open TypedBuilder

/-- **Reports tell the truth.**

* The making of a schema reports nothing if the extraction fails, the extraction alone if a later
  step fails, and the extraction and the new schema if it succeeds.  The extracted and the skipped
  fields that are reported are all declarations, and the skipped ones are the static ones.
* A builder of a reachable session is what the assignments to it made of one that stores nothing.
  Its build, then or later, is truthful (`Built.Truthful`): it reports one event, which tells what
  the build gave, and as many assigned fields as there are different names for which an assignment
  was accepted.
* So is every build of derived code, and there it is the fields whose methods were called. -/
theorem Event.truthful :
    (∀ (s : Session) (register : String) (shape : Shape) (options : Options),
      (s.keepSchema register shape options .extracted).events =
        (Schema.ofShapeReporting shape options).2 ∧
      (∀ e, shape.extract options.limits = .error e →
        (Schema.ofShapeReporting shape options).2 = []) ∧
      ∀ ds, shape.extract options.limits = .ok ds →
        ds.size + shape.statics = shape.fields.length ∧
        (∀ e, (Schema.ofShapeReporting shape options).1 = .error e →
          (Schema.ofShapeReporting shape options).2.map Event.report =
            [shape.extractionReport ds]) ∧
        ∀ x, (Schema.ofShapeReporting shape options).1 = .ok x →
          (Schema.ofShapeReporting shape options).2.map Event.report =
            [shape.extractionReport ds, x.creationReport]) ∧
    (∀ (s : Session), s.Reachable → ∀ (register : String) (b : Builder),
      s.builders.get? register = some b →
      (∀ record, (s.step (.build register record)).events = (b.build s.heap).events) ∧
      (∃ as, b = b.start.attemptAll as) ∧
      ∀ as, b = b.start.attemptAll as → ∀ heap : Heap, s.heap.next ≤ heap.next →
        (b.build heap).Truthful b.schema.value.record b.state.origin
          ((b.start.accepted as).map (·.1)).dedup.length heap) ∧
    ∀ (ν : Type) (d : Definition) (b : Blueprint), d.blueprint = .ok b →
      ∀ (traits : FieldTraits ν) (calls : List (FieldMethods × ν)),
        (∀ c ∈ calls, c.1 ∈ b.methods) → ∀ heap : Heap,
        (∃ built, (b.fresh.callAll calls).build b traits heap = some built ∧
          built.Truthful b.record none (calls.map (·.1.field)).dedup.length heap) ∧
        ∀ o, heap.HandedOut o → Complete d o.value →
          ∃ built, ((b.derive o).callAll calls).build b traits heap = some built ∧
            built.Truthful b.record (some o) (calls.map (·.1.field)).dedup.length heap := by
  refine ⟨fun s register shape options => ⟨?_, fun e failed => ?_, fun ds extracted => ?_⟩,
    fun s h register b held => ⟨fun record => ?_, h.exists_assigned ⟨register, held⟩,
      fun as assigned heap later => h.truthful_build ⟨register, held⟩ assigned later⟩,
    fun ν d b derived traits calls methods heap => ?_⟩
  · -- a session hands on what the making of a schema reports
    unfold Session.keepSchema
    cases made : (Schema.ofShapeReporting shape options).1 <;> simp [made]
  · rw [Schema.ofShapeReporting, failed]
  · exact ⟨Shape.size_add_statics extracted, Schema.reports_ofShape extracted⟩
  · -- and what a build reports
    simp only [Session.step, held, Session.finish]
    cases (b.build s.heap).result <;> rfl
  · have lined := d.linesUp derived
    -- both kinds of derived builders begin with nothing stored
    refine ⟨?_, fun o old complete => ?_⟩
    · refine (WellFormed.fresh lined).truthful_build_callAll lined
        (stored_emptyStorage lined _) traits methods heap fun o origin => ?_
      cases origin
    · refine (WellFormed.derive lined o).truthful_build_callAll lined
        (stored_emptyStorage lined _) traits methods heap fun o' origin => ?_
      obtain rfl := Option.some.inj origin
      exact ⟨old, complete⟩

/-- The making of a schema with a static field; a derived build after an assignment that is refused
and one over another; a fresh build of derived code after two calls of one method. -/
theorem Event.truthful_dog_pet :
    (Session.keepSchema {} "Dog" Session.dogShape {} .extracted).events.map Event.report =
      [⟨"DEBUG", "Extracted field descriptors",
          [("record", .string "Dog"), ("fields", .ofNat 2), ("skipped", .ofNat 1)]⟩,
        ⟨"DEBUG", "Created dynamic schema",
          [("record", .string "Dog"), ("builder", .string "DogBuilder"), ("fields", .ofNat 2)]⟩] ∧
    (Session.dogSession.step (.build "third" "drake")).events.map Event.report =
      [⟨"TRACE", "Built record",
        [("record", .string "Dog"), ("assigned", .ofNat 1), ("outcome", .string "cloned")]⟩] ∧
    ∃ d b m built, derivedOf? petSource = some (d, b) ∧ m ∈ b.methods ∧
      (b.fresh.callAll [(m, 1), (m, 2)]).build b ⟨fun _ => 0, fun _ v w => v == w⟩ {} = some built ∧
      built.events.map Event.report =
        [⟨"TRACE", "Built record",
          [("record", .string "Pet"), ("assigned", .ofNat 1), ("outcome", .string "fresh")]⟩] := by
  obtain ⟨creations, sessions, derivations⟩ := Event.truthful
  refine ⟨?_, ?_, ?_⟩
  · obtain ⟨same, -, reports⟩ := creations {} "Dog" Session.dogShape {}
    have extracted : Session.dogShape.extract ({} : Options).limits =
        .ok ⟨"Dog", [⟨"name", "string", true, 0⟩, ⟨"age", "int?", false, 1⟩]⟩ := by decide +kernel
    obtain ⟨-, -, created⟩ := reports _ extracted
    have made : ∃ x, (Schema.ofShapeReporting Session.dogShape {}).1 = .ok x ∧ x.record = "Dog" ∧
        x.description.builder = "DogBuilder" ∧ x.size = 2 := by
      refine ⟨(Schema.ofShapeReporting Session.dogShape {}).1.toOption.get (by decide +kernel), ?_⟩
      decide +kernel
    obtain ⟨x, made, record, builder, size⟩ := made
    rw [same, created x made, Schema.creationReport, record, builder, size]
    rfl
  · have reachable : Session.dogSession.Reachable :=
      (Session.Reachable.create "Dog" Session.dogShape {} .memoized .start).run _
    have held : Session.dogSession.builders.get? "third" = some Session.third :=
      (Option.some_get _).symm
    obtain ⟨same, -, truthful⟩ := sessions _ reachable "third" _ held
    have assigned : Session.third = Session.third.start.attemptAll
        [("age", .null), ("KIND", .text "dog"), ("age", .int 3)] := by decide +kernel
    obtain ⟨event, one, report, -⟩ := (truthful _ assigned _ (Nat.le_refl _)).events
    rw [same, one, List.map_singleton, report]
    rfl
  · have facts : (derivedOf? petSource).map (fun p => (p.2.record, p.2.methods.head?.bind fun m =>
        ((p.2.fresh.callAll [(m, 1), (m, 2)]).build p.2 ⟨fun _ => 0, fun _ v w => v == w⟩ {}).map
          (·.result.toOption.isSome))) = some ("Pet", some true) := by decide +kernel
    obtain ⟨⟨d, b⟩, found, run⟩ := Option.map_eq_some_iff.mp facts
    obtain ⟨record, run⟩ := Prod.mk.inj run
    obtain ⟨m, first, run⟩ := Option.bind_eq_some_iff.mp run
    obtain ⟨item, -, -, derived⟩ := derivedOf?_eq_some found
    have member : m ∈ b.methods := List.mem_of_head? first
    obtain ⟨⟨built, ok, truthful⟩, -⟩ := derivations Nat d b derived
      ⟨fun _ => 0, fun _ v w => v == w⟩ [(m, 1), (m, 2)] (by simp [member]) {}
    have once : ([(m, 1), (m, 2)].map (·.1.field)).dedup.length = 1 := by simp
    obtain ⟨event, one, report, -⟩ := truthful.events
    rw [ok, Option.map_some, Option.some.injEq] at run
    cases result : built.result with
    | error e =>
      rw [result] at run
      cases run
    | ok r =>
      refine ⟨d, b, m, built, found, member, ok, ?_⟩
      rw [one, List.map_singleton, report, once, result, record]
      rfl

end Recordwright
