import Recordwright.Binary64.Basic
import Recordwright.Source.Type

/-!
# Cells

The values that fields of sample structs hold, by the types that they are declared with: truth
values, integers of some width, floating-point numbers, texts, lists, optional values, and markers
that hold nothing.  Floating-point numbers compare by value also inside of lists and optional
values.
-/

namespace Recordwright

open Source

/-- The type of a field of a sample struct. -/
inductive CellType where
  | bool
  | integer (signed : Bool) (bits : Nat)
  | float
  | text
  | list (element : CellType)
  | optional (inner : CellType)
  | marker
  deriving DecidableEq, Repr

/-- The value of a field of a sample struct. -/
inductive Cell where
  | bool (b : Bool)
  | integer (n : Int)
  | float (x : Binary64)
  | text (s : String)
  | list (elements : List Cell)
  | absent
  | present (inner : Cell)
  | marker

namespace Cell

mutual

/-- Equality of cells. -/
def equal : Cell → Cell → Bool
  | .bool a, .bool b => a == b
  | .integer a, .integer b => a == b
  | .float a, .float b => a.equal b
  | .text a, .text b => a == b
  | .list as, .list bs => equalLists as bs
  | .absent, .absent => true
  | .present a, .present b => equal a b
  | .marker, .marker => true
  | _, _ => false

/-- Equality of lists of cells, one by one. -/
def equalLists : List Cell → List Cell → Bool
  | [], [] => true
  | a :: as, b :: bs => equal a b && equalLists as bs
  | _, _ => false

end

/-- Does the cell hold nothing? -/
def isMarker : Cell → Bool
  | .marker => true
  | _ => false

end Cell

namespace CellType

/-- The value of a field that was never given one. -/
def default : CellType → Cell
  | .bool => .bool false
  | .integer .. => .integer 0
  | .float => .float Binary64.zero
  | .text => .text ""
  | .list _ => .list []
  | .optional _ => .absent
  | .marker => .marker

/-- The least integer of a type. -/
def least (signed : Bool) (bits : Nat) : Int := if signed then -Int.pow 2 (bits - 1) else 0

/-- The greatest integer of a type. -/
def greatest (signed : Bool) (bits : Nat) : Int :=
  Int.pow 2 (if signed then bits - 1 else bits) - 1

mutual

/-- Has the cell this type? -/
def accepts : CellType → Cell → Bool
  | .bool, .bool _ => true
  | .integer signed bits, .integer n => least signed bits ≤ n && n ≤ greatest signed bits
  | .float, .float _ => true
  | .text, .text _ => true
  | .list element, .list cs => acceptsAll element cs
  | .optional _, .absent => true
  | .optional inner, .present c => accepts inner c
  | .marker, .marker => true
  | _, _ => false

/-- Have all cells this type? -/
def acceptsAll (element : CellType) : List Cell → Bool
  | [] => true
  | c :: cs => accepts element c && acceptsAll element cs

end

/-- The types that are one word. -/
def words : List (String × CellType) :=
  [("bool", .bool), ("i8", .integer true 8), ("i16", .integer true 16), ("i32", .integer true 32),
    ("i64", .integer true 64), ("u8", .integer false 8), ("u16", .integer false 16),
    ("u32", .integer false 32), ("u64", .integer false 64), ("f64", .float), ("String", .text)]

/-- The type that a declared type stands for, given what each generic parameter stands for. -/
def ofTy? (parameters : List (String × CellType)) : Ty → Option CellType
  | .path (.mk false [.mk name .none]) => (parameters ++ words).lookup name.name
  | .path (.mk false [.mk name (.angle false [.type t] _)]) =>
    if name.name = "Vec" then (ofTy? parameters t).map .list
    else if name.name = "Option" then (ofTy? parameters t).map .optional
    else if name.name = "PhantomData" then some .marker
    else none
  | _ => none

/-- Zero lies between the bounds of every integer type. -/
theorem zero_within (signed : Bool) (bits : Nat) :
    least signed bits ≤ 0 ∧ 0 ≤ greatest signed bits := by
  have lower : 0 < Int.pow 2 (bits - 1) := Int.pow_pos (by decide)
  have upper : 0 < Int.pow 2 bits := Int.pow_pos (by decide)
  cases signed with
  | true =>
    refine ⟨?_, ?_⟩
    · rw [least, if_pos rfl]
      exact Int.neg_nonpos_of_nonneg (Int.le_of_lt lower)
    · rw [greatest, if_pos rfl]
      exact Int.le_sub_one_of_lt lower
  | false =>
    refine ⟨?_, ?_⟩
    · simp [least]
    · rw [greatest, if_neg Bool.false_ne_true]
      exact Int.le_sub_one_of_lt upper

/-- The default of a type has that type. -/
theorem accepts_default (t : CellType) : t.accepts t.default = true := by
  cases t with
  | integer signed bits =>
    obtain ⟨lower, upper⟩ := zero_within signed bits
    simp [default, accepts, lower, upper]
  | list element => simp [default, accepts, acceptsAll]
  | _ => simp [default, accepts]

end CellType

end Recordwright
