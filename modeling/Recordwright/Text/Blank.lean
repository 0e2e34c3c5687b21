/-!
# Blank characters

The white-space characters of the Unicode standard, and trimming them from the ends of a text.
-/

namespace Recordwright.Text

/-- The white-space property of the Unicode standard. -/
def isBlank (c : Char) : Bool :=
  (0x09 ≤ c.val && c.val ≤ 0x0D) || c.val == 0x20 || c.val == 0x85 || c.val == 0xA0 ||
  c.val == 0x1680 || (0x2000 ≤ c.val && c.val ≤ 0x200A) || c.val == 0x2028 || c.val == 0x2029 ||
  c.val == 0x202F || c.val == 0x205F || c.val == 0x3000

/-- The text without the blanks at both of its ends. -/
def trimBlanks (s : List Char) : List Char :=
  ((s.dropWhile isBlank).reverse.dropWhile isBlank).reverse

/-- Nothing but blanks, the empty text included. -/
def isBlankText (s : String) : Bool := s.toList.all isBlank

@[simp] theorem trimBlanks_nil : trimBlanks [] = [] := rfl

end Recordwright.Text
