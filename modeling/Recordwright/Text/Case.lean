import Recordwright.Text.Boundaries
import Recordwright.Text.Identifier
import Recordwright.Text.Case.Table

/-!
# Letter case

Upper case, lower case and the lower-case form of a character, for the whole of Unicode.  Every
character but one has a lower-case form of one character.
-/

namespace Recordwright.Text

/-- Is the character upper case? -/
def isUpper (c : Char) : Bool :=
  if c.val < 128 then 65 ≤ c.val && c.val ≤ 90
  else Boundaries.contains c.toNat Case.upperBoundaries

/-- Is the character lower case? -/
def isLower (c : Char) : Bool :=
  if c.val < 128 then 97 ≤ c.val && c.val ≤ 122
  else Boundaries.contains c.toNat Case.lowerBoundaries

/-- Is `n` one of the run's code points? -/
def Case.Run.contains (r : Case.Run) (n : Nat) : Bool :=
  r.first ≤ n && n ≤ r.last && (n - r.first) % r.step == 0

/-- The lower-case form of one character.  A capital I with a dot keeps its dot as a combining
mark; all other forms are single characters. -/
def lowerForm (c : Char) : List Char :=
  if c.val < 128 then
    if isUpper c then [Char.ofNat (c.toNat + 32)] else [c]
  else if c.val == 0x130 then ['i', Char.ofNat 0x307]
  else match Case.lowerRuns.find? (·.contains c.toNat) with
    | some r => [Char.ofNat (c.toNat + r.shift).toNat]
    | none => [c]

/-- The text with every character replaced by its lower-case form. -/
def lowered (s : List Char) : List Char := s.flatMap lowerForm

@[simp] theorem lowered_nil : lowered [] = [] := rfl

@[simp] theorem lowered_cons (c : Char) (s : List Char) :
    lowered (c :: s) = lowerForm c ++ lowered s := rfl

@[simp] theorem lowered_append (s t : List Char) : lowered (s ++ t) = lowered s ++ lowered t := by
  simp [lowered]

end Recordwright.Text
