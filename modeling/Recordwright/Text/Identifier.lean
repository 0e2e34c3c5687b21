import Recordwright.Text.Boundaries
import Recordwright.Text.Identifier.Table

/-!
# Identifiers

An identifier begins with a letter-like character or an underscore and goes on with letter-like
characters, digits, marks and connectors, as the Unicode standard's identifier properties say.
Which characters these are grows with the editions of the standard: `Alphabet` is one reader's
knowledge of them.  The names of fields are judged by the settled characters, sources by the current
ones, and `isIdentifier_current` says that the latter admit every identifier of the former.
-/

namespace Recordwright.Text

/-- An ASCII letter. -/
def isAsciiLetter (c : Char) : Bool :=
  (97 ≤ c.val && c.val ≤ 122) || (65 ≤ c.val && c.val ≤ 90)

/-- An ASCII digit. -/
def isAsciiDigit (c : Char) : Bool := 48 ≤ c.val && c.val ≤ 57

/-- Which characters beyond ASCII make identifiers: boundary lists of those that may begin one, and
of those that may continue one. -/
structure Alphabet where
  starts : List (List Nat)
  continues : List (List Nat)

/-- The settled characters. -/
def settled : Alphabet := ⟨[Identifier.startBoundaries], [Identifier.continueBoundaries]⟩

/-- The settled characters and the recent ones. -/
def current : Alphabet :=
  ⟨[Identifier.startBoundaries, Identifier.recentStartBoundaries],
   [Identifier.continueBoundaries, Identifier.recentContinueBoundaries]⟩

namespace Alphabet

variable (a : Alphabet)

/-- May an identifier begin with this character, the underscore aside? -/
def isStart (c : Char) : Bool :=
  if c.val < 128 then isAsciiLetter c
  else a.starts.any (Boundaries.contains c.toNat)

/-- May an identifier go on with this character? -/
def isContinue (c : Char) : Bool :=
  if c.val < 128 then isAsciiLetter c || isAsciiDigit c || c == '_'
  else a.continues.any (Boundaries.contains c.toNat)

/-- The identifiers: a start character or an underscore, then any number of continuing ones. -/
def isIdentifierChars : List Char → Bool
  | [] => false
  | c :: rest => (a.isStart c || c == '_') && rest.all a.isContinue

/-- Is the text an identifier? -/
def isIdentifier (s : String) : Bool := a.isIdentifierChars s.toList

@[simp] theorem isIdentifierChars_nil : a.isIdentifierChars [] = false := rfl

@[simp] theorem isIdentifierChars_cons (c : Char) (rest : List Char) :
    a.isIdentifierChars (c :: rest) =
      ((a.isStart c || c == '_') && rest.all a.isContinue) := rfl

/-- A continuation lengthens an identifier to an identifier. -/
theorem isIdentifierChars_append {s t : List Char} (hs : a.isIdentifierChars s = true)
    (ht : t.all a.isContinue = true) : a.isIdentifierChars (s ++ t) = true := by
  cases s with
  | nil => simp at hs
  | cons c rest =>
    simp only [isIdentifierChars_cons, Bool.and_eq_true, List.cons_append, List.all_append] at *
    exact ⟨hs.1, hs.2, ht⟩

end Alphabet

/-- A settled start character is a current one: editions only add characters. -/
theorem isStart_current {c : Char} (h : settled.isStart c = true) :
    current.isStart c = true := by
  simp only [Alphabet.isStart, settled, current, List.any_cons, List.any_nil] at *
  split at h <;> simp_all

/-- A settled continuing character is a current one. -/
theorem isContinue_current {c : Char} (h : settled.isContinue c = true) :
    current.isContinue c = true := by
  simp only [Alphabet.isContinue, settled, current, List.any_cons, List.any_nil] at *
  split at h <;> simp_all

/-- An identifier in settled characters is one in current characters. -/
theorem isIdentifier_current {s : String} (h : settled.isIdentifier s = true) :
    current.isIdentifier s = true := by
  unfold Alphabet.isIdentifier at *
  cases hs : s.toList with
  | nil => simp [hs] at h
  | cons c rest =>
    simp only [hs, Alphabet.isIdentifierChars_cons, Bool.and_eq_true, Bool.or_eq_true,
      List.all_eq_true] at *
    exact ⟨h.1.imp isStart_current id, fun d hd => isContinue_current (h.2 d hd)⟩

end Recordwright.Text
