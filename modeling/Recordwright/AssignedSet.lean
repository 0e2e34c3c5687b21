/-!
# Sets of assigned positions

Which of the positions `0, …, size - 1` were assigned, as bits in words of sixty-four.  A position
outside of the range is refused and never falls onto another position's bit.
-/

namespace Recordwright

/-- A set of positions below `size`. -/
structure AssignedSet where
  size : Nat
  words : Array UInt64
  deriving DecidableEq, Repr

namespace AssignedSet

/-- The empty set of positions below `size`. -/
def empty (size : Nat) : AssignedSet := ⟨size, Array.replicate ((size + 63) / 64) 0⟩

/-- The bit of a position in its word. -/
def bit (position : Nat) : UInt64 := 1 <<< UInt64.ofNat (position % 64)

/-- The set with one more position.  A position out of range changes nothing. -/
def insert (s : AssignedSet) (position : Nat) : AssignedSet :=
  if position < s.size then
    { s with words := s.words.modify (position / 64) (· ||| bit position) }
  else s

/-- Can the position be assigned? -/
def inRange (s : AssignedSet) (position : Nat) : Bool := position < s.size

/-- Assigns the position and tells whether that was done.  A position out of range or without a word
changes nothing. -/
def assign (s : AssignedSet) (position : Nat) : Bool × AssignedSet :=
  if position < s.size then
    match s.words[position / 64]? with
    | some word =>
      (true, { s with words := s.words.setIfInBounds (position / 64) (word ||| bit position) })
    | none => (false, s)
  else (false, s)

/-- Was the position assigned? -/
def contains (s : AssignedSet) (position : Nat) : Bool :=
  position < s.size && (s.words[position / 64]?.getD 0 &&& bit position) != 0

/-- The set of all positions below `size`. -/
def full (size : Nat) : AssignedSet := (List.range size).foldl insert (empty size)

/-- The number of ones in a word. -/
def ones (word : UInt64) : Nat := (List.range 64).countP fun i => word.toNat.testBit i

/-- The number of assigned positions. -/
def count (s : AssignedSet) : Nat := s.words.toList.foldr (fun word n => ones word + n) 0

/-- Is no position assigned? -/
def isClear (s : AssignedSet) : Bool := s.words.toList.all (· == 0)

/-- Are there no positions? -/
def isEmpty (s : AssignedSet) : Bool := s.size == 0

/-- The assigned positions in ascending order. -/
def toList (s : AssignedSet) : List Nat := (List.range s.size).filter s.contains

@[simp] theorem size_empty (n : Nat) : (empty n).size = n := rfl

@[simp] theorem size_insert (s : AssignedSet) (i : Nat) : (s.insert i).size = s.size := by
  unfold insert
  split <;> rfl

/-- A position out of range changes nothing. -/
theorem insert_of_not_lt {s : AssignedSet} {i : Nat} (h : ¬ i < s.size) : s.insert i = s := by
  simp [insert, h]

end AssignedSet

end Recordwright
