import Recordwright.Proofs.Builder

/-!
# Sequences of assignments

A sequence of assignments is tried on a builder one by one; a refused one leaves the builder as it
was (`Builder.attemptAll`).  `Builder.accepted` are those that succeed, in their order, and
`lastValue` is the value that the last of them gives to a field.

Whether an assignment succeeds depends on the schema alone (`accepted_eq_filter`), so builders of
one schema accept the same ones.  In a well-formed builder a field then stores the last accepted
value, or what it stored before if none was accepted (`WellFormed.stored_attemptAll`).
-/

namespace Recordwright

/-- The name of a field and the value for it. -/
abbrev Assignment := String × Value

/-- The value that the last assignment to a field gives. -/
def lastValue (field : String) (as : List Assignment) : Option Value :=
  ((as.filter fun a => a.1 == field).getLast?).map (·.2)

@[simp] theorem lastValue_nil (field : String) : lastValue field [] = none := rfl

/-- Later assignments go over earlier ones. -/
theorem lastValue_append (field : String) (as more : List Assignment) :
    lastValue field (as ++ more) = (lastValue field more).or (lastValue field as) := by
  unfold lastValue
  rw [List.filter_append, List.getLast?_append]
  cases (more.filter fun a => a.1 == field).getLast? <;> rfl

theorem lastValue_singleton (field : String) (a : Assignment) :
    lastValue field [a] = if a.1 = field then some a.2 else none := by
  unfold lastValue
  by_cases same : a.1 = field <;> simp [same]

theorem lastValue_cons (field : String) (a : Assignment) (rest : List Assignment) :
    lastValue field (a :: rest) =
      (lastValue field rest).or (if a.1 = field then some a.2 else none) := by
  rw [← List.singleton_append, lastValue_append, lastValue_singleton]

/-- The last value of a field is that of one of the assignments. -/
theorem mem_of_lastValue {field : String} {as : List Assignment} {v : Value}
    (h : lastValue field as = some v) : (field, v) ∈ as := by
  obtain ⟨⟨name, w⟩, last, rfl⟩ := Option.map_eq_some_iff.mp h
  have member := List.mem_filter.mp (List.mem_of_getLast? last)
  have same : name = field := by simpa using member.2
  exact same ▸ member.1

/-- A field has a last value iff something is assigned to it. -/
theorem isSome_lastValue {field : String} {as : List Assignment} :
    (lastValue field as).isSome = true ↔ field ∈ as.map (·.1) := by
  unfold lastValue
  rw [Option.isSome_map, List.getLast?_filter, List.find?_isSome]
  simp

/-- A field to which nothing is assigned has no last value. -/
theorem lastValue_eq_none {field : String} {as : List Assignment} (h : ∀ a ∈ as, a.1 ≠ field) :
    lastValue field as = none :=
  Option.eq_none_iff_forall_ne_some.mpr fun _ last => h _ (mem_of_lastValue last) rfl

/-- A field to which one value is assigned has this value in the end. -/
theorem lastValue_of_mem {field : String} {as : List Assignment} {v : Value}
    (names : (as.map (·.1)).Nodup) (member : (field, v) ∈ as) : lastValue field as = some v := by
  cases last : lastValue field as with
  | none =>
    have filtered : (as.filter fun a => a.1 == field) = [] :=
      List.getLast?_eq_none_iff.mp (Option.map_eq_none_iff.mp last)
    exact absurd (beq_self_eq_true field) (List.filter_eq_nil_iff.mp filtered _ member)
  | some w =>
    have same := List.inj_on_of_nodup_map names (mem_of_lastValue last) member rfl
    exact congrArg some (Prod.mk.inj same).2

namespace Schema

/-- Is this the name of a field with a value that its type accepts? -/
def admits (s : Schema) (a : Assignment) : Bool :=
  match s.descriptors.ordinalOf? a.1 with
  | some i => (s.type? i).any (·.accepts a.2)
  | none => false

/-- An admitted value is accepted by the type of its field. -/
theorem WellFormed.admits_iff {s : Schema} (h : s.WellFormed) {a : Assignment} :
    s.admits a = true ↔ ∃ i d t, s.fields[i]? = some d ∧ d.name = a.1 ∧ s.type? i = some t ∧
      t.accepts a.2 = true := by
  unfold admits
  cases found : s.descriptors.ordinalOf? a.1 with
  | none =>
    constructor
    · intro h
      cases h
    · rintro ⟨i, d, -, hd, name, -⟩
      exact absurd name (Descriptors.ordinalOf?_eq_none_iff.mp found d (List.mem_of_getElem? hd))
  | some i =>
    obtain ⟨d, hd, name⟩ := h.descriptors.ordinalOf?_eq_some_iff.mp found
    simp only [Option.any_eq_true]
    constructor
    · rintro ⟨t, typed, accepted⟩
      exact ⟨i, d, t, hd, name, typed, accepted⟩
    · rintro ⟨j, e, t, he, name', typed, accepted⟩
      rw [← h.descriptors.position_unique he hd (name'.trans name.symm)]
      exact ⟨t, typed, accepted⟩

end Schema

namespace Builder

variable {b b' c : Builder}

/-- The builder after an assignment was tried.  A refused one leaves it as it was. -/
def attempt (b : Builder) (a : Assignment) : Builder :=
  match b.set a.1 a.2 with
  | .ok b => b
  | .error _ => b

/-- The builder after assignments were tried one by one. -/
def attemptAll (b : Builder) (as : List Assignment) : Builder := as.foldl attempt b

/-- The assignments that succeed, in their order. -/
def accepted (b : Builder) : List Assignment → List Assignment
  | [] => []
  | a :: rest =>
    match b.set a.1 a.2 with
    | .ok b => a :: b.accepted rest
    | .error _ => b.accepted rest

@[simp] theorem attemptAll_nil (b : Builder) : b.attemptAll [] = b := rfl

@[simp] theorem attemptAll_cons (b : Builder) (a : Assignment) (rest : List Assignment) :
    b.attemptAll (a :: rest) = (b.attempt a).attemptAll rest := rfl

/-- Some assignments, and then others. -/
theorem attemptAll_append (b : Builder) (as more : List Assignment) :
    b.attemptAll (as ++ more) = (b.attemptAll as).attemptAll more :=
  List.foldl_append

/-! ### What an attempt keeps -/

/-- An assignment succeeds iff the schema admits it. -/
theorem exists_set_eq_ok_iff {a : Assignment} :
    (∃ b', b.set a.1 a.2 = .ok b') ↔ b.schema.value.admits a = true := by
  unfold Schema.admits
  constructor
  · rintro ⟨b', ok⟩
    obtain ⟨i, t, found, typed, accepted, -⟩ := set_eq_ok_iff.mp ok
    simp only [found, typed, Option.any_some, accepted]
  · intro h
    split at h
    case h_1 i found =>
      obtain ⟨t, typed, accepted⟩ := (Option.any_eq_true _ _).mp h
      exact ⟨_, set_eq_ok_iff.mpr ⟨i, t, found, typed, accepted, rfl⟩⟩
    case h_2 => cases h

/-- The schema does not admit what is refused. -/
theorem not_admits_of_refused {a : Assignment} {e : UsageError}
    (refused : b.set a.1 a.2 = .error e) : ¬ b.schema.value.admits a = true := by
  intro admitted
  obtain ⟨b', ok⟩ := exists_set_eq_ok_iff.mpr admitted
  rw [refused] at ok
  cases ok

/-- An attempt leaves the builder alone, or it stores the value. -/
theorem attempt_cases (b : Builder) (a : Assignment) :
    b.attempt a = b ∨ ∃ i, b.attempt a = b.store i a.2 := by
  unfold attempt
  cases ok : b.set a.1 a.2 with
  | error e => exact .inl rfl
  | ok b' =>
    obtain ⟨i, t, -, -, -, rfl⟩ := set_eq_ok_iff.mp ok
    exact .inr ⟨i, rfl⟩

@[simp] theorem schema_attempt (b : Builder) (a : Assignment) :
    (b.attempt a).schema = b.schema := by
  obtain same | ⟨i, stored⟩ := b.attempt_cases a
  · rw [same]
  · rw [stored, schema_store]

@[simp] theorem origin_attempt (b : Builder) (a : Assignment) :
    (b.attempt a).state.origin = b.state.origin := by
  obtain same | ⟨i, stored⟩ := b.attempt_cases a
  · rw [same]
  · rw [stored, origin_store]

@[simp] theorem schema_attemptAll (b : Builder) (as : List Assignment) :
    (b.attemptAll as).schema = b.schema := by
  induction as generalizing b with
  | nil => rfl
  | cons a rest ih => rw [attemptAll_cons, ih, schema_attempt]

@[simp] theorem origin_attemptAll (b : Builder) (as : List Assignment) :
    (b.attemptAll as).state.origin = b.state.origin := by
  induction as generalizing b with
  | nil => rfl
  | cons a rest ih => rw [attemptAll_cons, ih, origin_attempt]

theorem WellFormed.attempt (h : b.WellFormed) (a : Assignment) : (b.attempt a).WellFormed := by
  unfold Builder.attempt
  cases ok : b.set a.1 a.2 with
  | error e => exact h
  | ok b' => exact h.set ok

theorem WellFormed.attemptAll (h : b.WellFormed) (as : List Assignment) :
    (b.attemptAll as).WellFormed := by
  induction as generalizing b with
  | nil => exact h
  | cons a rest ih => exact ih (h.attempt a)

/-! ### What is accepted and stored -/

/-- One attempt at a time: an assignment is accepted iff the schema admits it. -/
theorem accepted_cons (b : Builder) (a : Assignment) (rest : List Assignment) :
    b.accepted (a :: rest) =
      if b.schema.value.admits a then a :: (b.attempt a).accepted rest
      else (b.attempt a).accepted rest := by
  rw [accepted, attempt]
  cases ok : b.set a.1 a.2 with
  | ok b' => rw [if_pos (exists_set_eq_ok_iff.mp ⟨b', ok⟩)]
  | error e => rw [if_neg (not_admits_of_refused ok)]

/-- **Acceptance depends on the schema alone.** -/
theorem accepted_eq_filter (b : Builder) (as : List Assignment) :
    b.accepted as = as.filter b.schema.value.admits := by
  induction as generalizing b with
  | nil => rfl
  | cons a rest ih => rw [accepted_cons, ih, schema_attempt, List.filter_cons]

/-- What is accepted of a sequence is accepted of its parts. -/
theorem accepted_append (b : Builder) (as more : List Assignment) :
    b.accepted (as ++ more) = b.accepted as ++ b.accepted more := by
  simp only [accepted_eq_filter, List.filter_append]

/-- What is accepted is among what was tried. -/
theorem mem_of_mem_accepted {a : Assignment} {as : List Assignment} (h : a ∈ b.accepted as) :
    a ∈ as := by
  rw [accepted_eq_filter] at h
  exact List.mem_of_mem_filter h

/-- Assignments that the schema admits are all accepted. -/
theorem accepted_eq_self {as : List Assignment}
    (h : ∀ a ∈ as, b.schema.value.admits a = true) : b.accepted as = as := by
  rw [accepted_eq_filter]
  exact List.filter_eq_self.mpr h

/-- What a field stores after an attempt. -/
theorem WellFormed.stored_attempt (h : b.WellFormed) {i : Nat} {d : Descriptor}
    (hd : b.schema.value.fields[i]? = some d) (a : Assignment) :
    (b.attempt a).stored i =
      if b.schema.value.admits a = true ∧ a.1 = d.name then some a.2 else b.stored i := by
  unfold Builder.attempt
  cases ok : b.set a.1 a.2 with
  | error e => rw [if_neg fun both => not_admits_of_refused ok both.1]
  | ok b' =>
    have admitted := exists_set_eq_ok_iff.mp ⟨b', ok⟩
    obtain ⟨j, t, found, -, -, rfl⟩ := set_eq_ok_iff.mp ok
    obtain ⟨e, he, name⟩ := h.schema.descriptors.ordinalOf?_eq_some_iff.mp found
    -- there is a slot, so the value is not dropped
    have inside : j < b.slots.length := by
      rw [h.slots_length]
      exact h.schema.descriptors.lt_of_ordinalOf? found
    -- the positions are equal iff the names are
    have same : i = j ↔ a.1 = d.name := by
      rw [← name]
      constructor
      · rintro rfl
        have equal : some e = some d := he.symm.trans hd
        rw [Option.some.inj equal]
      · intro equal
        exact h.schema.descriptors.position_unique hd he equal.symm
    rw [stored_store inside]
    simp only [same, admitted, true_and]

/-- **What a field stores** after a sequence of assignments: the last accepted value, or what it
stored before. -/
theorem WellFormed.stored_attemptAll (h : b.WellFormed) {i : Nat} {d : Descriptor}
    (hd : b.schema.value.fields[i]? = some d) (as : List Assignment) :
    (b.attemptAll as).stored i = (lastValue d.name (b.accepted as)).or (b.stored i) := by
  -- the builder changes with each attempt, and stays well formed
  induction as generalizing b with
  | nil => rfl
  | cons a rest ih =>
    rw [attemptAll_cons, ih (h.attempt a) (by rwa [schema_attempt]), h.stored_attempt hd,
      accepted_cons]
    by_cases admitted : b.schema.value.admits a = true
    · rw [if_pos admitted, lastValue_cons, Option.or_assoc]
      by_cases name : a.1 = d.name
      · rw [if_pos ⟨admitted, name⟩, if_pos name]
        rfl
      · rw [if_neg fun both => name both.2, if_neg name]
        rfl
    · rw [if_neg admitted, if_neg fun both => admitted both.1]

/-- The last accepted value of a field is one that its type accepts. -/
theorem WellFormed.accepts_lastValue (h : b.WellFormed) {as : List Assignment} {field : String}
    {v : Value} (last : lastValue field (b.accepted as) = some v) :
    ∃ i d t, b.schema.value.fields[i]? = some d ∧ d.name = field ∧
      b.schema.value.type? i = some t ∧ t.accepts v = true := by
  have member := mem_of_lastValue last
  rw [accepted_eq_filter, List.mem_filter] at member
  exact h.schema.admits_iff.mp member.2

end Builder

end Recordwright
