import Mathlib.Data.List.Forall2
import Recordwright.Registers

/-!
# What registers hold

After `put` a register holds what was put and every other one holds what it held; after `erase` it
holds nothing.  So everything that is held afterwards is new or was held before, which is what an
invariant of all contents needs (`Holds.of_put`, `Holds.of_erase`).

Registers of two sessions are *related* (`Registers.Related`) when the same names hold related
things.  All operations keep that, so a relation of contents can be carried through two runs.  The
operations also commute with a function on what is held (`Registers.map`).
-/

namespace Recordwright.Registers

variable {α : Type} {r : Registers α} {a b : α}

/-- Does some register hold this? -/
def Holds (r : Registers α) (a : α) : Prop := ∃ name, r.get? name = some a

theorem not_holds_empty (a : α) : ¬ ({} : Registers α).Holds a := by
  rintro ⟨name, h⟩
  cases h

/-- An erased register holds nothing, and the others hold what they held. -/
theorem get?_erase (r : Registers α) (name other : String) :
    (r.erase name).get? other = if other = name then none else r.get? other := by
  unfold erase get?
  rw [List.find?_filter]
  by_cases same : other = name
  · subst same
    rw [if_pos rfl, Option.map_eq_none_iff, List.find?_eq_none]
    simp
  · -- an entry of another name is found before and after
    rw [if_neg same]
    congr 2
    funext e
    by_cases equal : e.1 = other
    · simp [equal, same]
    · simp [equal]

/-- A register holds what was put last, and the others hold what they held. -/
theorem get?_put (r : Registers α) (name other : String) (a : α) :
    (r.put name a).get? other = if other = name then some a else r.get? other := by
  by_cases same : other = name
  · subst same
    rw [if_pos rfl, get?_put_self]
  · have rest : (r.put name a).get? other = (r.erase name).get? other := by
      unfold put get?
      rw [List.find?_cons_of_neg (by simpa using fun equal => same equal.symm)]
    rw [rest, get?_erase, if_neg same, if_neg same]

/-- What is held after a `put` was put or was held before. -/
theorem Holds.of_put {name : String} (h : (r.put name a).Holds b) : b = a ∨ r.Holds b := by
  obtain ⟨other, found⟩ := h
  rw [get?_put] at found
  by_cases same : other = name
  · rw [if_pos same, Option.some.injEq] at found
    exact .inl found.symm
  · rw [if_neg same] at found
    exact .inr ⟨other, found⟩

/-- What is held after an `erase` was held before. -/
theorem Holds.of_erase {name : String} (h : (r.erase name).Holds b) : r.Holds b := by
  obtain ⟨other, found⟩ := h
  rw [get?_erase] at found
  by_cases same : other = name
  · rw [if_pos same] at found
    cases found
  · rw [if_neg same] at found
    exact ⟨other, found⟩

/-! ### Related registers -/

/-- Two options that are related are both nothing, or hold related things. -/
theorem rel_cases {β : Type} {R : α → β → Prop} {x : Option α} {y : Option β}
    (h : Option.Rel R x y) : (x = none ∧ y = none) ∨ ∃ a b, x = some a ∧ y = some b ∧ R a b := by
  cases h with
  | none => exact .inl ⟨rfl, rfl⟩
  | some related => exact .inr ⟨_, _, rfl, rfl, related⟩

/-- The same names hold related things, and in the same order. -/
def Related {β : Type} (R : α → β → Prop) (r : Registers α) (q : Registers β) : Prop :=
  List.Forall₂ (fun e f => e.1 = f.1 ∧ R e.2 f.2) r.entries q.entries

section

variable {β : Type} {R : α → β → Prop} {q : Registers β} {c : β}

theorem Related.empty : Related R {} {} := List.Forall₂.nil

/-- A name holds related things, or nothing in both. -/
theorem Related.get? (h : Related R r q) (name : String) :
    Option.Rel R (r.get? name) (q.get? name) := by
  obtain ⟨es⟩ := r
  obtain ⟨fs⟩ := q
  replace h : List.Forall₂ (fun e f => e.1 = f.1 ∧ R e.2 f.2) es fs := h
  show Option.Rel R ((es.find? (·.1 == name)).map (·.2)) ((fs.find? (·.1 == name)).map (·.2))
  induction h with
  | nil => exact .none
  | @cons e f _ _ same _ ih =>
    rw [List.find?_cons, List.find?_cons, ← same.1]
    -- the first entry of the name is at one position in both
    cases e.1 == name with
    | true => exact .some same.2
    | false => exact ih

/-- What is left by an `erase` is related. -/
theorem Related.erase (h : Related R r q) (name : String) :
    Related R (r.erase name) (q.erase name) := by
  refine List.rel_filter (fun e f same => ?_) h
  show (e.1 != name) = true ↔ (f.1 != name) = true
  rw [same.1]

/-- What is put may be anything related. -/
theorem Related.put (h : Related R r q) (name : String) (related : R a c) :
    Related R (r.put name a) (q.put name c) :=
  .cons ⟨rfl, related⟩ (h.erase name)

/-- Related entries have the same names. -/
theorem map_fst_eq {es : List (String × α)} {fs : List (String × β)}
    (h : List.Forall₂ (fun e f => e.1 = f.1 ∧ R e.2 f.2) es fs) :
    es.map (·.1) = fs.map (·.1) := by
  induction h with
  | nil => rfl
  | cons same _ ih => rw [List.map_cons, List.map_cons, same.1, ih]

/-- The same names hold what satisfies predicates that agree on related things. -/
theorem Related.namesWhere (h : Related R r q) {P : α → Bool} {Q : β → Bool}
    (agree : ∀ a c, R a c → P a = Q c) : r.namesWhere P = q.namesWhere Q := by
  have filtered : List.Forall₂ (fun e f => e.1 = f.1 ∧ R e.2 f.2)
      (r.entries.filter fun e => P e.2) (q.entries.filter fun e => Q e.2) := by
    refine List.rel_filter (fun e f same => ?_) h
    show P e.2 = true ↔ Q f.2 = true
    rw [agree e.2 f.2 same.2]
  rw [Registers.namesWhere, Registers.namesWhere, map_fst_eq filtered]

end

/-! ### Mapped registers -/

/-- The same names hold what a function makes of what they held. -/
def map {β : Type} (f : α → β) (r : Registers α) : Registers β :=
  ⟨r.entries.map fun e => (e.1, f e.2)⟩

section

variable {β : Type} (f : α → β)

@[simp] theorem get?_map (r : Registers α) (name : String) :
    (r.map f).get? name = (r.get? name).map f := by
  unfold map get?
  rw [List.find?_map, Option.map_map, Option.map_map]
  rfl

@[simp] theorem map_erase (r : Registers α) (name : String) :
    (r.erase name).map f = (r.map f).erase name := by
  unfold map erase
  rw [List.filter_map]
  rfl

@[simp] theorem map_put (r : Registers α) (name : String) (a : α) :
    (r.put name a).map f = (r.map f).put name (f a) := by
  have others := congrArg entries (map_erase f r name)
  exact congrArg (fun es => (⟨(name, f a) :: es⟩ : Registers β)) others

theorem map_map {γ : Type} (g : β → γ) (r : Registers α) :
    (r.map f).map g = r.map (g ∘ f) := by
  unfold map
  rw [List.map_map]
  rfl

/-- The names of what satisfies a predicate after the function is applied. -/
@[simp] theorem namesWhere_map (r : Registers α) (P : β → Bool) :
    (r.map f).namesWhere P = r.namesWhere (P ∘ f) := by
  unfold map namesWhere
  rw [List.filter_map, List.map_map]
  rfl

end

end Recordwright.Registers
