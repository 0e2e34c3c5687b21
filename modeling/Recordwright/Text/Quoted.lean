import Recordwright.Text.Boundaries
import Recordwright.Text.Quoted.Table

/-!
# Text inside double quotes

How a character is spelled inside a quoted text: the common control characters by letter, the quote
and the backslash after a backslash, and a character that cannot stand visibly on its own by its
code point in braces.
-/

namespace Recordwright.Text

/-- A hexadecimal digit, lower case. -/
def hexDigit (n : Nat) : Char := if n < 10 then Char.ofNat (48 + n) else Char.ofNat (87 + n)

/-- The hexadecimal digits of `n`, most significant first and without leading zeros. -/
def hexDigits (n : Nat) : List Char := (Nat.toDigits 16 n)

/-- Exactly `width` hexadecimal digits of `n`, lower case. -/
def hexPadded : Nat → Nat → List Char
  | 0, _ => []
  | width + 1, n => hexPadded width (n / 16) ++ [hexDigit (n % 16)]

/-- The value of a hexadecimal digit of either case. -/
def hexValue? (c : Char) : Option Nat :=
  if '0' ≤ c ∧ c ≤ '9' then some (c.toNat - 48)
  else if 'a' ≤ c ∧ c ≤ 'f' then some (c.toNat - 87)
  else if 'A' ≤ c ∧ c ≤ 'F' then some (c.toNat - 55)
  else none

/-- Can the character be shown by itself? -/
def isVisible (c : Char) : Bool :=
  if c.val < 128 then 32 ≤ c.val && c.val < 127
  else !Boundaries.contains c.toNat Quoted.extenderBoundaries &&
    !Boundaries.contains c.toNat Quoted.hiddenBoundaries

/-- A character by its code point. -/
def codePointEscape (c : Char) : List Char :=
  ['\\', 'u', '\x7b'] ++ hexDigits c.toNat ++ ['\x7d']

/-- The spelling of a character between double quotes. -/
def quotedForm (c : Char) : List Char :=
  if c.val == 0 then ['\\', '0']
  else if c == '\t' then ['\\', 't']
  else if c == '\r' then ['\\', 'r']
  else if c == '\n' then ['\\', 'n']
  else if c == '\"' then ['\\', '\"']
  else if c == '\\' then ['\\', '\\']
  else if isVisible c then [c]
  else codePointEscape c

/-- A text between double quotes. -/
def quoted (s : String) : String :=
  String.ofList ('\"' :: (s.toList.flatMap quotedForm ++ ['\"']))

end Recordwright.Text
