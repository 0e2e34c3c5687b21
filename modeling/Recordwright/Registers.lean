/-!
# Registers

Named places that hold what a script of steps works on.
-/

namespace Recordwright

/-- Names with what they hold; an earlier entry hides a later one. -/
structure Registers (α : Type) where
  entries : List (String × α) := []
  deriving Repr

namespace Registers

variable {α : Type}

/-- What a name holds. -/
def get? (r : Registers α) (name : String) : Option α :=
  (r.entries.find? (·.1 == name)).map (·.2)

/-- The registers without a name. -/
def erase (r : Registers α) (name : String) : Registers α :=
  ⟨r.entries.filter (·.1 != name)⟩

/-- The registers in which a name holds this. -/
def put (r : Registers α) (name : String) (a : α) : Registers α :=
  ⟨(name, a) :: (r.erase name).entries⟩

/-- The names of what satisfies `p`, in ascending order. -/
def namesWhere (r : Registers α) (p : α → Bool) : List String :=
  ((r.entries.filter fun e => p e.2).map (·.1)).mergeSort (· ≤ ·)

@[simp] theorem get?_put_self (r : Registers α) (name : String) (a : α) :
    (r.put name a).get? name = some a := by
  simp [get?, put]

end Registers

end Recordwright
