/-!
# Replacing parts of a text

Every occurrence of a pattern is replaced, from left to right.  A replacement is not searched again,
and occurrences that overlap an earlier one are left alone.
-/

namespace Recordwright.Text

/-- The characters with each occurrence of the pattern replaced, after `skip` characters that an
occurrence already covers. -/
def replaceFrom (pattern replacement : List Char) : Nat → List Char → List Char
  | _, [] => []
  | skip + 1, _ :: rest => replaceFrom pattern replacement skip rest
  | 0, c :: rest =>
    if pattern.isPrefixOf (c :: rest) then
      replacement ++ replaceFrom pattern replacement (pattern.length - 1) rest
    else c :: replaceFrom pattern replacement 0 rest

/-- The text with each occurrence of the pattern replaced. -/
def replaced (pattern replacement text : String) : String :=
  String.ofList (replaceFrom pattern.toList replacement.toList 0 text.toList)

@[simp] theorem replaceFrom_nil (pattern replacement : List Char) (skip : Nat) :
    replaceFrom pattern replacement skip [] = [] := by
  cases skip <;> rfl

theorem replaceFrom_of_not_prefix {pattern replacement : List Char} {c : Char} {rest : List Char}
    (h : pattern.isPrefixOf (c :: rest) = false) :
    replaceFrom pattern replacement 0 (c :: rest) =
      c :: replaceFrom pattern replacement 0 rest := by
  simp [replaceFrom, h]

end Recordwright.Text
