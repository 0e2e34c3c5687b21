import Mathlib.Data.Finset.Sort
import Recordwright.Proofs.AssignedSet

/-!
# Sets of assigned positions as finite sets

What a set of assigned positions stands for is a finite set of numbers below its size.
`AssignedSet.Represents` relates the two: the set is tight, and the positions that it contains are
the elements.

An insertion keeps that relation, with one more element if the position is in range
(`Represents.insert`), and so does any number of insertions, by induction along the list
(`Represents.insertAll`).  Whatever is asked of the set can then be answered from the elements
alone.  This includes the questions that are put to the raw words: the number of ones is the number
of elements (`Represents.count_eq`), all words are zero iff there is no element
(`Represents.isClear_iff`), and words are equal iff elements are (`Represents.eq_iff`).

`AssignedSet.refines_finset` is all of this for a run of insertions from no position or from all.
-/

namespace Recordwright.AssignedSet

variable {s t : AssignedSet} {size i : Nat} {S T : Finset Nat}

/-- The set has this size and its words, and it contains the elements of `S`. -/
structure Represents (s : AssignedSet) (size : Nat) (S : Finset Nat) : Prop where
  tight : s.Tight
  size_eq : s.size = size
  contains_iff : ∀ i, s.contains i = true ↔ i ∈ S

/-! ### Runs -/

theorem represents_empty (size : Nat) : (empty size).Represents size ∅ where
  tight := tight_empty size
  size_eq := rfl
  contains_iff i := by simp

/-- An insertion adds its position to the elements if it is in range. -/
theorem Represents.insert (h : s.Represents size S) (i : Nat) :
    (s.insert i).Represents size (S ∪ ({i} : Finset Nat).filter (· < size)) where
  tight := h.tight.insert i
  size_eq := (size_insert s i).trans h.size_eq
  contains_iff j := by
    rw [contains_insert h.tight, Bool.or_eq_true, h.contains_iff, h.size_eq, Finset.mem_union,
      Finset.mem_filter, Finset.mem_singleton, Bool.and_eq_true, decide_eq_true_eq,
      decide_eq_true_eq]
    -- the bound is on the position that is inserted, which is the one asked for
    constructor
    · rintro (old | ⟨rfl, inside⟩)
      · exact .inl old
      · exact .inr ⟨rfl, inside⟩
    · rintro (old | ⟨rfl, inside⟩)
      · exact .inl old
      · exact .inr ⟨rfl, inside⟩

/-- Insertions add those of their positions that are in range. -/
theorem Represents.insertAll (h : s.Represents size S) (positions : List Nat) :
    (positions.foldl AssignedSet.insert s).Represents size
      (S ∪ positions.toFinset.filter (· < size)) := by
  induction positions generalizing s S with
  | nil => simpa using h
  | cons i rest ih =>
    have next := ih (h.insert i)
    have elements : S ∪ (i :: rest).toFinset.filter (· < size) =
        S ∪ ({i} : Finset Nat).filter (· < size) ∪ rest.toFinset.filter (· < size) := by
      rw [List.toFinset_cons, Finset.insert_eq, Finset.filter_union, Finset.union_assoc]
    rwa [List.foldl_cons, elements]

theorem represents_full (size : Nat) : (full size).Represents size (Finset.range size) := by
  have all := (represents_empty size).insertAll (List.range size)
  have elements : ∅ ∪ (List.range size).toFinset.filter (· < size) = Finset.range size := by
    ext i
    simp
  rwa [elements] at all

/-! ### Questions -/

/-- An element is in range. -/
theorem Represents.lt_of_mem (h : s.Represents size S) (member : i ∈ S) : i < size := by
  have contained := (h.contains_iff i).mpr member
  rw [contains_eq_bitAt, Bool.and_eq_true, decide_eq_true_eq, h.size_eq] at contained
  exact contained.1

/-- The elements are the positions in range that are contained. -/
theorem Represents.eq_filter (h : s.Represents size S) :
    S = (Finset.range size).filter fun i => s.contains i = true := by
  ext i
  rw [Finset.mem_filter, Finset.mem_range, h.contains_iff]
  exact ⟨fun member => ⟨h.lt_of_mem member, member⟩, fun both => both.2⟩

/-- A position is assigned iff it is in range. -/
theorem Represents.assign_eq (h : s.Represents size S) (i : Nat) :
    s.assign i = (decide (i < size), s.insert i) := by
  rw [h.tight.assign_eq, inRange, h.size_eq]

/-- The positions are listed in ascending order. -/
theorem Represents.toList_eq (h : s.Represents size S) : s.toList = S.sort := by
  have ascending : s.toList.Pairwise (· ≤ ·) :=
    List.Pairwise.filter s.contains (List.pairwise_lt_range.imp Nat.le_of_lt)
  have distinct : s.toList.Nodup := List.nodup_range.filter s.contains
  have elements : s.toList.toFinset = S := by
    rw [h.eq_filter, ← h.size_eq, toList]
    ext i
    simp
  rw [← elements, (List.toFinset_sort (· ≤ ·) distinct).mpr ascending]

/-- The ones of all words are counted, and they are as many as the elements. -/
theorem Represents.count_eq (h : s.Represents size S) : s.count = S.card := by
  calc s.count
      = (List.range s.size).countP s.contains := h.tight.count_eq
    _ = s.toList.length := List.countP_eq_length_filter
    _ = S.card := by rw [h.toList_eq, Finset.length_sort]

/-- Sets of one size are equal iff their elements are. -/
theorem Represents.eq_iff (h : s.Represents size S) (g : t.Represents size T) :
    s = t ↔ S = T := by
  constructor
  · rintro rfl
    ext i
    rw [← h.contains_iff, g.contains_iff]
  · rintro rfl
    refine h.tight.ext g.tight (h.size_eq.trans g.size_eq.symm) fun i => ?_
    rw [Bool.eq_iff_iff, h.contains_iff, g.contains_iff]

/-- All words are zero iff there are no elements. -/
theorem Represents.isClear_iff (h : s.Represents size S) : s.isClear = true ↔ S = ∅ := by
  rw [← h.eq_iff (represents_empty size), isClear, List.all_eq_true]
  constructor
  · intro zero
    -- a bit that is set would be one of a word that is not zero
    refine h.tight.ext (tight_empty size) h.size_eq fun i => ?_
    have word : s.words[i / 64]?.getD 0 = 0 := by
      cases found : s.words[i / 64]? with
      | none => rfl
      | some w => exact eq_of_beq (zero w (Array.mem_toList_iff.mpr (Array.mem_of_getElem? found)))
    rw [contains_empty, contains_eq_bitAt, bitAt, word]
    simp
  · rintro rfl w member
    rw [empty, Array.toList_replicate] at member
    rw [List.eq_of_mem_replicate member]
    rfl

/-- A bit that is set belongs to a position in range. -/
theorem Represents.lt_of_testBit (h : s.Represents size S) {k b : Nat} (hk : k < s.words.size)
    (set : (s.words[k]).toNat.testBit b = true) : 64 * k + b < size := by
  have inside : b < 64 := by
    by_contra beyond
    rw [testBit_eq_false _ (Nat.le_of_not_lt beyond)] at set
    cases set
  have word : (64 * k + b) / 64 = k := by omega
  have bit : (64 * k + b) % 64 = b := by omega
  rw [← h.size_eq]
  refine h.tight.lt_of_bitAt _ ?_
  rw [bitAt, word, bit, Array.getElem?_eq_getElem hk]
  exact set

/-! ### A run of insertions -/

/-- How a run begins: with no position, or with all. -/
inductive Start where
  | empty
  | full

/-- The set at the beginning of a run. -/
def Start.set (size : Nat) : Start → AssignedSet
  | .empty => AssignedSet.empty size
  | .full => AssignedSet.full size

/-- The positions at the beginning of a run. -/
def Start.positions (size : Nat) : Start → Finset Nat
  | .empty => ∅
  | .full => Finset.range size

theorem Start.represents (start : Start) (size : Nat) :
    (start.set size).Represents size (start.positions size) := by
  cases start with
  | empty => exact represents_empty size
  | full => exact represents_full size

/-- **Refinement.** After any insertions, from no position or from all, let `s` be the set and `S`
the positions in range that were there or were inserted.

* An assignment is an insertion, and it is done iff the position is in range.  It then adds this
  position alone, and otherwise changes nothing.
* `s` contains the elements of `S`, lists them in ascending order and counts them, and it is clear
  iff there are none.
* The words are as many as the size asks for, and no bit at or beyond the size is set.
* Another run on the same size ends in the same words iff it ends in the same elements. -/
theorem refines_finset (size : Nat) (start : Start) (positions : List Nat) :
    let s := positions.foldl insert (start.set size)
    let S := start.positions size ∪ positions.toFinset.filter (· < size)
    (∀ i, s.assign i = (decide (i < size), s.insert i) ∧
      (i < size → ∀ j, (s.insert i).contains j = true ↔ s.contains j = true ∨ j = i) ∧
      (size ≤ i → s.insert i = s)) ∧
    (∀ i, s.contains i = true ↔ i ∈ S) ∧ s.toList = S.sort ∧ s.count = S.card ∧
    (s.isClear = true ↔ S = ∅) ∧
    s.size = size ∧ s.words.size = (size + 63) / 64 ∧
    (∀ (k : Nat) (hk : k < s.words.size) (b : Nat),
      (s.words[k]).toNat.testBit b = true → 64 * k + b < size) ∧
    ∀ (start' : Start) (positions' : List Nat),
      positions'.foldl insert (start'.set size) = s ↔
        start'.positions size ∪ positions'.toFinset.filter (· < size) = S := by
  intro s S
  -- Every claim is about a set that represents a finite one, and the run keeps that.
  have run : s.Represents size S := (start.represents size).insertAll positions
  refine ⟨fun i => ⟨run.assign_eq i, fun inside j => ?_, fun outside => ?_⟩, run.contains_iff,
    run.toList_eq, run.count_eq, run.isClear_iff, run.size_eq, ?_,
    fun k hk b => run.lt_of_testBit hk, fun start' positions' => ?_⟩
  · rw [contains_insert run.tight, run.size_eq, decide_eq_true inside, Bool.and_true,
      Bool.or_eq_true, decide_eq_true_eq]
  · refine insert_of_not_lt ?_
    rw [run.size_eq]
    exact Nat.not_lt.mpr outside
  · rw [run.tight.words_size, run.size_eq]
  · exact ((start'.represents size).insertAll positions').eq_iff run

end Recordwright.AssignedSet
