import Mathlib.Data.Nat.Bitwise
import Recordwright.AssignedSet

/-!
# Bits of assigned positions

A set of positions is stored as words of sixty-four bits, and this module reads it back as the
predicate `contains`.  `bitAt` is the bit that a position has in its word, whatever the size of the
set; `contains` is that bit within the size (`contains_eq_bitAt`).

`AssignedSet.Tight` says that the words are those that the size asks for and that no bit lies beyond
the size.  The empty set is tight and an insertion keeps that, so every set that a builder holds is.
In a tight set an insertion adds its own position and no other one (`contains_insert`): a position
never falls onto another one's bit, because position and bit determine each other within a word.
So a tight set is determined by its size and the positions that it contains (`Tight.ext`), and the
number of ones in all words is the number of positions that are contained (`Tight.count_eq`).
-/

namespace Recordwright.AssignedSet

variable {s : AssignedSet} {i j : Nat}

/-! ### One word -/

/-- The mask of a position is a power of two. -/
theorem toNat_bit (i : Nat) : (bit i).toNat = 2 ^ (i % 64) := by
  have lower : i % 64 < 64 := Nat.mod_lt _ (by decide)
  have power : 2 ^ (i % 64) < 2 ^ 64 := Nat.pow_lt_pow_right (by decide) lower
  have amount : i % 64 % 2 ^ 64 % 64 = i % 64 := by omega
  unfold bit
  rw [UInt64.toNat_shiftLeft, UInt64.toNat_ofNat', amount, UInt64.toNat_one, Nat.one_shiftLeft]
  exact Nat.mod_eq_of_lt power

/-- Masking a word tests the bit of the position. -/
theorem and_bit_ne_zero (word : UInt64) (i : Nat) :
    ((word &&& bit i) != 0) = word.toNat.testBit (i % 64) := by
  have value : (word &&& bit i).toNat = (word.toNat.testBit (i % 64)).toNat * 2 ^ (i % 64) := by
    rw [UInt64.toNat_and, toNat_bit, Nat.and_two_pow]
  rw [Bool.eq_iff_iff, bne_iff_ne, ne_eq, ← UInt64.toNat_inj, value]
  cases word.toNat.testBit (i % 64) <;> simp

/-- Setting the bit of a position in a word changes that bit alone. -/
theorem testBit_or_bit (word : UInt64) (i k : Nat) :
    (word ||| bit i).toNat.testBit k = (word.toNat.testBit k || decide (i % 64 = k)) := by
  rw [UInt64.toNat_or, toNat_bit, Nat.testBit_or, Nat.testBit_two_pow]

/-- A word has no bit beyond its sixty-four. -/
theorem testBit_eq_false (word : UInt64) {k : Nat} (h : 64 ≤ k) :
    word.toNat.testBit k = false := by
  have small : word.toNat < 2 ^ k :=
    Nat.lt_of_lt_of_le word.toNat_lt (Nat.pow_le_pow_right (by decide) h)
  exact Nat.testBit_lt_two_pow small

/-! ### The bit of a position -/

/-- The bit of a position in its word. -/
def bitAt (s : AssignedSet) (i : Nat) : Bool := (s.words[i / 64]?.getD 0).toNat.testBit (i % 64)

/-- A position is contained iff it is in range and its bit is set. -/
theorem contains_eq_bitAt (s : AssignedSet) (i : Nat) :
    s.contains i = (decide (i < s.size) && s.bitAt i) := by
  unfold contains bitAt
  rw [and_bit_ne_zero]

/-- The words are those that the size asks for, and no bit lies beyond the size. -/
structure Tight (s : AssignedSet) : Prop where
  /-- One word for each sixty-four positions that were begun. -/
  words_size : s.words.size = (s.size + 63) / 64
  /-- A bit that is set belongs to a position in range. -/
  lt_of_bitAt : ∀ i, s.bitAt i = true → i < s.size

/-- In a tight set the bits are the positions. -/
theorem Tight.contains_eq (h : s.Tight) (i : Nat) : s.contains i = s.bitAt i := by
  rw [contains_eq_bitAt]
  cases set : s.bitAt i with
  | false => simp
  | true => simp [h.lt_of_bitAt i set]

/-! ### The empty set -/

@[simp] theorem bitAt_empty (n i : Nat) : (empty n).bitAt i = false := by
  unfold bitAt empty
  rw [Array.getElem?_replicate]
  split <;> simp

@[simp] theorem contains_empty (n i : Nat) : (empty n).contains i = false := by
  simp [contains_eq_bitAt]

theorem tight_empty (n : Nat) : (empty n).Tight where
  words_size := by simp [empty]
  lt_of_bitAt := fun i h => absurd h (by simp)

/-! ### Insertion -/

/-- An insertion in range sets one bit. -/
theorem bitAt_insert (h : s.Tight) (hi : i < s.size) (j : Nat) :
    (s.insert i).bitAt j = (s.bitAt j || decide (j = i)) := by
  have inside : i / 64 < s.words.size := by
    rw [h.words_size]
    omega
  unfold insert bitAt
  rw [if_pos hi, Array.getElem?_modify]
  by_cases word : i / 64 = j / 64
  · -- both positions lie in one word, so they are equal iff their bits are
    have same : (j = i) ↔ (i % 64 = j % 64) := by omega
    obtain ⟨w, hw⟩ : ∃ w, s.words[j / 64]? = some w :=
      ⟨_, Array.getElem?_eq_getElem (word ▸ inside)⟩
    rw [if_pos word, hw, Option.map_some, Option.getD_some, Option.getD_some, testBit_or_bit]
    simp only [same]
  · have differ : j ≠ i := fun equal => word (by rw [equal])
    rw [if_neg word, decide_eq_false differ, Bool.or_false]

theorem Tight.insert (h : s.Tight) (i : Nat) : (s.insert i).Tight := by
  -- out of range nothing is inserted
  by_cases hi : i < s.size
  · refine ⟨?_, fun j set => ?_⟩
    · rw [size_insert, ← h.words_size]
      simp [AssignedSet.insert, hi]
    · rw [bitAt_insert h hi, Bool.or_eq_true, decide_eq_true_eq] at set
      rw [size_insert]
      rcases set with old | rfl
      · exact h.lt_of_bitAt j old
      · exact hi
  · rw [insert_of_not_lt hi]
    exact h

/-- **Insertion.** It adds its own position, if that is in range, and no other one. -/
theorem contains_insert (h : s.Tight) (i j : Nat) :
    (s.insert i).contains j = (s.contains j || (decide (j = i) && decide (i < s.size))) := by
  by_cases hi : i < s.size
  · rw [(h.insert i).contains_eq, bitAt_insert h hi, h.contains_eq, decide_eq_true hi,
      Bool.and_true]
  · rw [insert_of_not_lt hi, decide_eq_false hi, Bool.and_false, Bool.or_false]

/-- Every position in range has a word, so its assignment is an insertion. -/
theorem Tight.assign_eq (h : s.Tight) (i : Nat) : s.assign i = (s.inRange i, s.insert i) := by
  unfold assign inRange AssignedSet.insert
  by_cases hi : i < s.size
  · have inside : i / 64 < s.words.size := by
      rw [h.words_size]
      omega
    have words : s.words.setIfInBounds (i / 64) (s.words[i / 64] ||| bit i) =
        s.words.modify (i / 64) (· ||| bit i) := by
      refine Array.ext_getElem? fun k => ?_
      rw [Array.getElem?_setIfInBounds, Array.getElem?_modify]
      by_cases same : i / 64 = k
      · subst same
        simp [inside]
      · simp [same]
    rw [if_pos hi, if_pos hi, decide_eq_true hi, Array.getElem?_eq_getElem inside]
    simp only [words]
  · rw [if_neg hi, if_neg hi, decide_eq_false hi]

/-! ### Equality -/

/-- **Extensionality.** Tight sets of one size are equal if they contain the same positions: every
bit of a word is that of a position. -/
theorem Tight.ext {t : AssignedSet} (hs : s.Tight) (ht : t.Tight) (size : s.size = t.size)
    (same : ∀ i, s.contains i = t.contains i) : s = t := by
  have lengths : s.words.size = t.words.size := by rw [hs.words_size, ht.words_size, size]
  have words : s.words = t.words := by
    refine Array.ext lengths fun k hk hk' => UInt64.toNat_inj.mp ?_
    refine Nat.eq_of_testBit_eq fun j => ?_
    by_cases inside : j < 64
    · -- this is the bit of position `64 * k + j`
      have word : (64 * k + j) / 64 = k := by omega
      have bit : (64 * k + j) % 64 = j := by omega
      have bits : s.bitAt (64 * k + j) = t.bitAt (64 * k + j) := by
        rw [← hs.contains_eq, ← ht.contains_eq, same]
      unfold bitAt at bits
      rwa [word, bit, Array.getElem?_eq_getElem hk, Array.getElem?_eq_getElem hk',
        Option.getD_some, Option.getD_some] at bits
    · have beyond := Nat.le_of_not_lt inside
      rw [testBit_eq_false _ beyond, testBit_eq_false _ beyond]
  obtain ⟨n, ws⟩ := s
  obtain ⟨m, vs⟩ := t
  obtain rfl : n = m := size
  obtain rfl : ws = vs := words
  rfl

/-! ### Counting -/

/-- The ones of some words are the bits of as many positions as the words have room for. -/
theorem sum_ones_eq (words : List UInt64) :
    words.foldr (fun word n => ones word + n) 0 =
      (List.range (64 * words.length)).countP fun i =>
        (words[i / 64]?.getD 0).toNat.testBit (i % 64) := by
  induction words with
  | nil => rfl
  | cons word rest ih =>
    -- the positions of the first word, and those of the others moved by sixty-four
    have room : 64 * (word :: rest).length = 64 + 64 * rest.length := by
      rw [List.length_cons]
      omega
    have first : ones word = (List.range 64).countP fun i =>
        ((word :: rest)[i / 64]?.getD 0).toNat.testBit (i % 64) := by
      unfold ones
      refine List.countP_congr fun i member => ?_
      have small : i < 64 := List.mem_range.mp member
      rw [Nat.div_eq_of_lt small, Nat.mod_eq_of_lt small]
      rfl
    have others : (List.range (64 * rest.length)).countP (fun i =>
          (rest[i / 64]?.getD 0).toNat.testBit (i % 64)) =
        (List.range (64 * rest.length)).countP fun i =>
          ((word :: rest)[(64 + i) / 64]?.getD 0).toNat.testBit ((64 + i) % 64) := by
      refine List.countP_congr fun i _ => ?_
      have next : (64 + i) / 64 = i / 64 + 1 := by omega
      rw [next, Nat.add_mod_left, List.getElem?_cons_succ]
    rw [List.foldr_cons, ih, room, List.range_add, List.countP_append, List.countP_map, first,
      others]
    rfl

/-- **Counting.** In a tight set the number of assigned positions is that of the positions in range
that are contained. -/
theorem Tight.count_eq (h : s.Tight) : s.count = (List.range s.size).countP s.contains := by
  have room : 64 * s.words.toList.length = s.size + (64 * s.words.toList.length - s.size) := by
    rw [Array.length_toList, h.words_size]
    omega
  have bits : (fun i => (s.words.toList[i / 64]?.getD 0).toNat.testBit (i % 64)) = s.bitAt := by
    funext i
    rw [Array.getElem?_toList, bitAt]
  -- no bit beyond the size is set
  have beyond : (List.range (64 * s.words.toList.length - s.size)).countP
      (s.bitAt ∘ fun i => s.size + i) = 0 := by
    rw [List.countP_eq_zero]
    intro i _ set
    have inside : s.size + i < s.size := h.lt_of_bitAt _ set
    omega
  have contained : (List.range s.size).countP s.bitAt = (List.range s.size).countP s.contains :=
    List.countP_congr fun i _ => by rw [h.contains_eq]
  rw [count, sum_ones_eq, bits, room, List.range_add, List.countP_append, List.countP_map, beyond,
    Nat.add_zero, contained]

end Recordwright.AssignedSet
