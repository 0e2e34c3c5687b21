import Mathlib.Data.List.Nodup

/-!
# The first name that offends

The names of fields and the names of methods are checked alike, one after the other.  A name
*offends* if it is not fit for its purpose or was seen before, and the first name that offends
decides the whole check.  `offender?` finds it along the list, with the names seen so far at hand.

Names *pass* if none of them offends.  The check of a list is that of its first name and, with this
name seen, that of the others (`passes_cons_iff`).  So nothing is found iff all names pass
(`offender?_eq_none_iff`), and a name that is found has only names in front of it that pass
(`offender?_eq_some_iff`).

`IsFirstOffender` says the latter of a list alone.  Names that were seen before may as well stand in
front of the list, as long as they pass themselves (`offender?_eq_some_iff_isFirstOffender`).
-/

namespace Recordwright

/-- The first of these names that is not fit or was seen before. -/
def offender? (fit : String → Bool) : List String → List String → Option String
  | _, [] => none
  | seen, name :: rest =>
    if !fit name || seen.contains name then some name else offender? fit (name :: seen) rest

/-- The name is not fit or repeats an earlier one, and no name in front of it is or does so. -/
def IsFirstOffender (fit : String → Bool) (names : List String) (name : String) : Prop :=
  ∃ before after, names = before ++ name :: after ∧ (∀ n ∈ before, fit n = true) ∧ before.Nodup ∧
    (fit name = false ∨ name ∈ before)

/-- All names are fit, none was seen before and no two are the same. -/
def Passes (fit : String → Bool) (seen names : List String) : Prop :=
  (∀ n ∈ names, fit n = true ∧ n ∉ seen) ∧ names.Nodup

variable {fit : String → Bool} {seen names front rest : List String} {name first : String}

theorem IsFirstOffender.mem (h : IsFirstOffender fit names name) : name ∈ names := by
  obtain ⟨before, after, rfl, -⟩ := h
  exact List.mem_append_right before List.mem_cons_self

/-- What offends although it is fit occurs twice. -/
theorem IsFirstOffender.two_le_count (h : IsFirstOffender fit names name)
    (fits : fit name = true) : 2 ≤ names.count name := by
  obtain ⟨before, after, rfl, -, -, offends⟩ := h
  have again : name ∈ before := offends.resolve_left (by simp [fits])
  have earlier : 0 < before.count name := List.count_pos_iff.mpr again
  rw [List.count_append, List.count_cons_self]
  omega

theorem passes_nil : Passes fit seen [] := ⟨by simp, List.nodup_nil⟩

theorem passes_cons_iff :
    Passes fit seen (first :: rest) ↔
      (fit first = true ∧ first ∉ seen) ∧ Passes fit (first :: seen) rest := by
  unfold Passes
  rw [List.forall_mem_cons, List.nodup_cons]
  constructor
  · rintro ⟨⟨fine, others⟩, fresh, distinct⟩
    refine ⟨fine, fun n member => ?_, distinct⟩
    have differs : n ≠ first := fun same => fresh (same ▸ member)
    exact ⟨(others n member).1, List.not_mem_cons_of_ne_of_not_mem differs (others n member).2⟩
  · rintro ⟨fine, others, distinct⟩
    have fresh : first ∉ rest := fun member => (others first member).2 List.mem_cons_self
    refine ⟨⟨fine, fun n member => ?_⟩, fresh, distinct⟩
    exact ⟨(others n member).1, fun old => (others n member).2 (List.mem_cons_of_mem first old)⟩

/-- A list that has nothing seen before it passes if its names are fit and distinct. -/
theorem passes_nil_seen_iff : Passes fit [] names ↔ (∀ n ∈ names, fit n = true) ∧ names.Nodup := by
  simp [Passes]

/-! ### The search -/

theorem offender?_cons_of_offends (h : ¬(fit first = true ∧ first ∉ seen)) :
    offender? fit seen (first :: rest) = some first := by
  rw [offender?, if_pos]
  by_contra fine
  simp only [Bool.or_eq_true, Bool.not_eq_true', List.contains_eq_mem, decide_eq_true_eq, not_or,
    Bool.not_eq_false] at fine
  exact h fine

theorem offender?_cons_of_fine (h : fit first = true ∧ first ∉ seen) :
    offender? fit seen (first :: rest) = offender? fit (first :: seen) rest := by
  rw [offender?, if_neg]
  simp [h.1, h.2]

/-- Nothing is found iff all names pass. -/
theorem offender?_eq_none_iff : offender? fit seen names = none ↔ Passes fit seen names := by
  -- a name that is fine is seen by the rest, so the names seen are general
  induction names generalizing seen with
  | nil => exact iff_of_true rfl passes_nil
  | cons first rest ih =>
    rw [passes_cons_iff]
    by_cases fine : fit first = true ∧ first ∉ seen
    · rw [offender?_cons_of_fine fine, ih, and_iff_right fine]
    · rw [offender?_cons_of_offends fine]
      exact iff_of_false (by simp) fun passes => fine passes.1

/-- The name that is found offends, and the names in front of it pass. -/
theorem offender?_eq_some_iff :
    offender? fit seen names = some name ↔
      ∃ before after, names = before ++ name :: after ∧ Passes fit seen before ∧
        (fit name = false ∨ name ∈ before ∨ name ∈ seen) := by
  induction names generalizing seen with
  | nil => simp [offender?]
  | cons first rest ih =>
    by_cases fine : fit first = true ∧ first ∉ seen
    · rw [offender?_cons_of_fine fine, ih]
      constructor
      · rintro ⟨before, after, rfl, passes, offends⟩
        refine ⟨first :: before, after, rfl, passes_cons_iff.mpr ⟨fine, passes⟩, ?_⟩
        rw [List.mem_cons] at offends ⊢
        tauto
      · rintro ⟨before, after, split, passes, offends⟩
        cases before with
        | nil =>
          -- the first name is fine, so it is not the one that offends
          obtain ⟨rfl, rfl⟩ := List.cons.inj split
          simp [fine] at offends
        | cons front before =>
          obtain ⟨rfl, rfl⟩ := List.cons.inj split
          refine ⟨before, after, rfl, (passes_cons_iff.mp passes).2, ?_⟩
          rw [List.mem_cons] at offends ⊢
          tauto
    · rw [offender?_cons_of_offends fine, Option.some.injEq]
      constructor
      · rintro rfl
        refine ⟨[], rest, rfl, passes_nil, ?_⟩
        rw [not_and_or, Bool.not_eq_true, not_not] at fine
        exact fine.imp_right .inr
      · rintro ⟨before, after, split, passes, -⟩
        cases before with
        | nil => exact (List.cons.inj split).1
        | cons front before =>
          -- the first name would stand in front of the one that offends, and pass
          obtain ⟨rfl, rfl⟩ := List.cons.inj split
          exact absurd (passes_cons_iff.mp passes).1 fine

/-! ### Names in front of the list -/

/-- Names pass behind others that pass iff they are fit and no two of all are the same. -/
theorem passes_iff_nodup_append (fine : Passes fit [] front) :
    Passes fit front names ↔ (∀ n ∈ names, fit n = true) ∧ (front ++ names).Nodup := by
  rw [List.nodup_append]
  constructor
  · rintro ⟨passes, distinct⟩
    refine ⟨fun n member => (passes n member).1, fine.2, distinct, fun a old b new same => ?_⟩
    exact (passes b new).2 (same ▸ old)
  · rintro ⟨fits, -, distinct, differ⟩
    exact ⟨fun n member => ⟨fits n member, fun old => differ n old n member rfl⟩, distinct⟩

/-- Names that pass may be seen before the list or stand in front of it. -/
theorem offender?_eq_some_iff_isFirstOffender (fine : Passes fit [] front) :
    offender? fit front names = some name ↔ IsFirstOffender fit (front ++ names) name := by
  obtain ⟨fits, distinct⟩ := passes_nil_seen_iff.mp fine
  rw [offender?_eq_some_iff]
  constructor
  · rintro ⟨before, after, rfl, ⟨passes, different⟩, offends⟩
    refine ⟨front ++ before, after, (List.append_assoc front before _).symm, ?_, ?_, ?_⟩
    · rw [List.forall_mem_append]
      exact ⟨fits, fun n member => (passes n member).1⟩
    · rw [List.nodup_append]
      refine ⟨distinct, different, fun a old b new same => ?_⟩
      exact (passes b new).2 (same ▸ old)
    · rw [List.mem_append]
      tauto
  · rintro ⟨before, after, split, passes, different, offends⟩
    rcases List.append_eq_append_iff.mp split with ⟨between, rfl, rfl⟩ | ⟨between, rfl, tail⟩
    · -- the name stands behind the front
      rw [List.forall_mem_append] at passes
      rw [List.nodup_append] at different
      rw [List.mem_append] at offends
      refine ⟨between, after, rfl, ⟨fun n member => ⟨passes.2 n member, fun old => ?_⟩,
        different.2.1⟩, by tauto⟩
      exact different.2.2 n old n member rfl
    · cases between with
      | nil =>
        refine ⟨[], after, tail.symm, passes_nil, ?_⟩
        rw [List.append_nil]
        exact offends.imp_right .inr
      | cons first between =>
        -- a name of the front does not offend
        obtain ⟨rfl, rfl⟩ := List.cons.inj tail
        have fit' := fits name (List.mem_append_right _ List.mem_cons_self)
        rw [fit'] at offends
        have old := offends.resolve_left Bool.noConfusion
        rw [List.nodup_append] at distinct
        exact absurd rfl (distinct.2.2 name old name List.mem_cons_self)

/-- A list without anything before it is searched for its first offender. -/
theorem offender?_nil_eq_some_iff :
    offender? fit [] names = some name ↔ IsFirstOffender fit names name :=
  offender?_eq_some_iff_isFirstOffender passes_nil

end Recordwright
