/-!
# Sets of code points given by their boundaries

A property of code points is stored as the ascending list of the places where it switches: from
the first boundary on it holds, from the second on it fails, and so forth.
-/

namespace Recordwright.Text

/-- Does `n` lie in the set with these ascending boundaries? -/
def Boundaries.contains (n : Nat) : List Nat → Bool
  | [] => false
  | [first] => Nat.ble first n
  | first :: past :: rest =>
    if Nat.ble past n then Boundaries.contains n rest else Nat.ble first n

@[simp] theorem Boundaries.contains_nil (n : Nat) : Boundaries.contains n [] = false := rfl

end Recordwright.Text
