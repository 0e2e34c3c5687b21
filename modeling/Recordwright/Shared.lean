/-!
# Shared values

A shared value is a value together with the place where it was put.  Two shared values are the same
object when they lie at one place.  The heap hands out each place once.
-/

namespace Recordwright

/-- A value at a place. -/
structure Shared (α : Type) where
  place : Nat
  value : α
  deriving DecidableEq, Repr

/-- The next place that was never handed out. -/
structure Heap where
  next : Nat := 0
  deriving DecidableEq, Repr

namespace Shared

variable {α : Type}

/-- Are both the same object? -/
def same (a b : Shared α) : Bool := a.place == b.place

@[simp] theorem same_self (a : Shared α) : a.same a = true := by simp [same]

end Shared

namespace Heap

variable {α : Type}

/-- Puts a value at a place of its own. -/
def allocate (h : Heap) (value : α) : Shared α × Heap := (⟨h.next, value⟩, ⟨h.next + 1⟩)

@[simp] theorem allocate_value (h : Heap) (value : α) : (h.allocate value).1.value = value := rfl

@[simp] theorem allocate_place (h : Heap) (value : α) : (h.allocate value).1.place = h.next := rfl

@[simp] theorem allocate_next (h : Heap) (value : α) : (h.allocate value).2.next = h.next + 1 := rfl

end Heap

end Recordwright
