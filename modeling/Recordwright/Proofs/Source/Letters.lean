import Mathlib.Data.List.TakeWhile
import Recordwright.Proofs.Source.Spelled

/-!
# Letters

What a character tells that an identifier can have (`isLetter`).  The reader of tokens tries blanks,
comments, brackets, numbers and punctuation before it comes to identifiers, and each of them begins
with a character, or needs one further on, that no identifier has (`not_starts`).
-/

namespace Recordwright.Source

namespace Lexer

variable {c d : Char} {cs rest : List Char} {name lead : String}

/-! ### Characters of identifiers -/

/-- A character that identifiers can have, at their beginning or further on. -/
def isLetter (c : Char) : Bool := isStart c || Text.current.isContinue c

/-- An identifier does not begin with a character that begins none. -/
theorem ne_of_isStart (h : isStart c = true) (other : isStart d = false) : c ≠ d := by
  rintro rfl
  exact absurd h (by rw [other]; decide)

/-- An identifier is made of such characters. -/
theorem isLetter_of_isIdentifier (h : Text.current.isIdentifierChars (c :: rest) = true) :
    isStart c = true ∧ ∀ d ∈ c :: rest, isLetter d = true := by
  rw [Text.Alphabet.isIdentifierChars_cons, Bool.and_eq_true, Bool.or_comm, List.all_eq_true] at h
  refine ⟨h.1, List.forall_mem_cons.mpr ⟨?_, fun d hd => ?_⟩⟩
  · rw [isLetter, isStart, h.1, Bool.true_or]
  · rw [isLetter, h.2 d hd, Bool.or_true]

/-- A text of such characters does not begin with a text that has another one. -/
theorem not_starts (letters : ∀ d ∈ cs, isLetter d = true)
    (other : lead.toList.any (!isLetter ·) = true) : starts lead cs = false := by
  rw [← Bool.not_eq_true, starts, List.isPrefixOf_iff_prefix]
  intro begins
  obtain ⟨d, member, strange⟩ := List.any_eq_true.mp other
  rw [letters d (begins.subset member)] at strange
  cases strange

theorem expect_eq_none (letters : ∀ d ∈ cs, isLetter d = true)
    (other : lead.toList.any (!isLetter ·) = true) : expect lead cs = none := by
  rw [expect, not_starts letters other]
  rfl

/-- An identifier begins with none of the characters of these numbers. -/
theorem toNat_notMem (h : isStart c = true) {numbers : List Nat}
    (others : ∀ n ∈ numbers, isStart (Char.ofNat n) = false) : c.toNat ∉ numbers := by
  intro member
  have other := others _ member
  rw [Char.ofNat_toNat, h] at other
  cases other

/-- The numbers of the characters that are skipped in front of a token: the blanks, and the mark for
the order of bytes. -/
def blanks : List Nat :=
  List.range' 0x09 5 ++ List.range' 0x2000 11 ++
    [0x20, 0x85, 0xA0, 0x1680, 0x200E, 0x200F, 0x2028, 0x2029, 0x202F, 0x205F, 0x3000, 0xFEFF]

theorem mem_blanks_of_isSpace (h : isSpace c = true) : c.toNat ∈ blanks := by
  simp only [isSpace, Text.isBlank, Bool.or_eq_true, Bool.and_eq_true, decide_eq_true_eq,
    beq_iff_eq, UInt32.le_iff_toNat_le, ← UInt32.toNat_inj, UInt32.reduceToNat] at h
  change c.val.toNat ∈ blanks
  simp only [blanks, List.mem_append, List.mem_range'_1, List.mem_cons, List.not_mem_nil, or_false]
  omega

theorem notMem_blanks (h : isStart c = true) : c.toNat ∉ blanks :=
  toNat_notMem h (by decide +kernel)

/-- No blank begins an identifier. -/
theorem not_isSpace (h : isStart c = true) : isSpace c = false := by
  rw [← Bool.not_eq_true]
  exact fun space => notMem_blanks h (mem_blanks_of_isSpace space)

/-- No digit begins an identifier. -/
theorem not_isAsciiDigit (h : isStart c = true) : Text.isAsciiDigit c = false := by
  rw [← Bool.not_eq_true]
  intro digit
  simp only [Text.isAsciiDigit, Bool.and_eq_true, decide_eq_true_eq, UInt32.le_iff_toNat_le,
    UInt32.reduceToNat] at digit
  have member : c.toNat ∈ List.range' 48 10 :=
    List.mem_range'_1.mpr ⟨digit.1, Nat.lt_succ_of_le digit.2⟩
  exact toNat_notMem h (by decide) member

/-! ### Stages that give nothing -/

/-- The text begins no comment. -/
def NoComment (cs : List Char) : Prop := starts "//" cs = false ∧ starts "/*" cs = false

/-- What the text does not begin with, it does not begin with in a longer form. -/
theorem not_starts_longer {longer : String} (h : starts lead cs = false)
    (begins : lead.toList <+: longer.toList) : starts longer cs = false := by
  rw [← Bool.not_eq_true, starts, List.isPrefixOf_iff_prefix] at h ⊢
  exact fun found => h (begins.trans found)

theorem skipSpaces_eq (comment : NoComment (c :: rest)) (solid : c.toNat ∉ blanks) (fuel : Nat) :
    skipSpaces fuel (c :: rest) = c :: rest := by
  cases fuel with
  | zero => rfl
  | succ fuel =>
    have space : isSpace c = false := by
      rw [← Bool.not_eq_true]
      exact fun space => solid (mem_blanks_of_isSpace space)
    have line : plainLine (c :: rest) = false := by
      rw [plainLine, comment.1]
      rfl
    have block : plainBlock (c :: rest) = false := by
      rw [plainBlock, comment.2, not_starts_longer comment.2 (by decide)]
      rfl
    simp only [skipSpaces, line, block, space, Bool.false_eq_true, if_false]

theorem documentation?_eq_none (comment : NoComment cs) : documentation? cs = none := by
  have inner : starts "//!" cs = false := not_starts_longer comment.1 (by decide)
  have innerBlock : starts "/*!" cs = false := not_starts_longer comment.2 (by decide)
  have outer : starts "///" cs = false := not_starts_longer comment.1 (by decide)
  have outerBlock : starts "/**" cs = false := not_starts_longer comment.2 (by decide)
  simp [documentation?, inner, innerBlock, outer, outerBlock]

theorem bracket?_eq_none (start : isStart c = true) : bracket? c = none := by
  unfold bracket?
  split
  case h_7 => rfl
  all_goals exact absurd start (by decide)

/-- A letter that is a digit to a greater base is none to base ten. -/
theorem ten_le_hexValue? (digit : Text.isAsciiDigit c = false) {n : Nat}
    (value : Text.hexValue? c = some n) : 10 ≤ n := by
  simp only [Text.isAsciiDigit, Bool.and_eq_false_iff, decide_eq_false_iff_not,
    UInt32.le_iff_toNat_le, UInt32.reduceToNat] at digit
  simp only [Text.hexValue?, Char.le_def, UInt32.le_iff_toNat_le, Char.toNat, Char.reduceVal,
    UInt32.reduceToNat] at value
  split at value
  · omega
  · split at value
    · cases value
      omega
    · split at value
      · cases value
        omega
      · cases value

/-- No number, as its first digit is lacking. -/
theorem int_unled (digit : Text.isAsciiDigit c = false) (cs : List Char) :
    int (c :: cs) = none := by
  have zero : '0' ≠ c := by
    rintro rfl
    cases digit
  have based : ∀ lead ∈ ["0x", "0o", "0b"], starts lead (c :: cs) = false := by
    simp [starts, List.isPrefixOf, zero]
  simp only [List.forall_mem_cons, List.not_mem_nil, false_implies, implies_true, and_true] at based
  have digits : intDigits 10 true (c :: cs) = none := by
    rw [intDigits]
    split
    · rfl
    · cases value : Text.hexValue? c with
      | none => rfl
      | some n => simp [Nat.not_lt.mpr (ten_le_hexValue? digit value)]
  simp [int, based, digits]

theorem punct?_eq_none (start : isStart c = true) : punct? (c :: rest) = none := by
  have mark : c ∉ punctuation := by
    have others : punctuation.all (!isStart ·) = true := by decide
    intro member
    have other := List.all_eq_true.mp others c member
    rw [start] at other
    cases other
  have none : punctuation? (c :: rest) = none := by
    simp [punctuation?, mark]
  rw [punct?, none]

theorem name?_eq (h : Text.current.isIdentifierChars (c :: rest) = true) :
    name? (c :: rest) = some (String.ofList (c :: rest), []) := by
  obtain ⟨start, -⟩ := isLetter_of_isIdentifier h
  rw [Text.Alphabet.isIdentifierChars_cons, Bool.and_eq_true] at h
  have all : rest.takeWhile Text.current.isContinue = rest := by
    rw [List.takeWhile_eq_self_iff]
    exact List.all_eq_true.mp h.2
  have nothing : rest.dropWhile Text.current.isContinue = [] := by
    rw [List.dropWhile_eq_nil_iff]
    exact List.all_eq_true.mp h.2
  simp [name?, start, all, nothing]

end Lexer

end Recordwright.Source
