import Recordwright.Proofs.Source.Literals

/-!
# Leaves before stops

The reader of tokens finds a literal, an identifier or a raw identifier as a whole wherever a stop
follows (`leaf?_literal`, `leaf?_word`, `leaf?_rawWord`), and a punctuation character by itself;
what follows a punctuation character tells only whether it clings to it (`leaf?_punct`).
-/

namespace Recordwright.Source.Lexer

variable {c d : Char} {cs w r rest : List Char} {lead : String} {q : Quoting}

/-- A literal is found with its own spelling: what it leaves is what follows it. -/
theorem leaf?_literal (stopped : Stopped rest) (done : literal w = some []) :
    leaf? (w ++ rest) = some (.literal (String.ofList w), rest) := by
  have all : (w ++ rest).take ((w ++ rest).length - rest.length) = w := by
    rw [List.length_append, Nat.add_sub_cancel, List.take_left]
  rw [leaf?, literal_append stopped done, List.nil_append]
  simp only [all]

/-! ### Words -/

/-- No raw text, as its opening quote is lacking. -/
theorem raw_eq_none_of_head (h : ∀ d ∈ cs.head?, d ≠ '#' ∧ d ≠ '\"') (q : Quoting) :
    raw q cs = none := by
  cases cs with
  | nil => rfl
  | cons d cs =>
    obtain ⟨hash, quote⟩ := h d rfl
    simp [raw, hash, quote]

/-- The next character is a letter or a stop. -/
theorem head_apart (letters : ∀ d ∈ w, isLetter d = true) (stopped : Stopped rest) :
    ∀ d ∈ (w ++ rest).head?, d ≠ '#' ∧ d ≠ '\"' := by
  intro d member
  cases w with
  | nil =>
    have stop : d ∈ stops := stopped d member
    exact ⟨ne_of_stop stop (by decide), ne_of_stop stop (by decide)⟩
  | cons c w =>
    obtain rfl : c = d := Option.some.inj member
    have letter := letters c List.mem_cons_self
    constructor
    all_goals
      rintro rfl
      exact absurd letter (by decide)

/-- A word is no quoted literal.  A lead with a quote in it does not stand there, and a raw lead may
stand there, but no quote behind it. -/
theorem quotedLiteral_word (letters : ∀ d ∈ w, isLetter d = true) (stopped : Stopped rest)
    {plain rawLead : String} (other : plain.toList.any (!isLetter ·) = true)
    (others : Unstopped (plain.toList ++ rawLead.toList)) (q : Quoting) :
    quotedLiteral q plain rawLead (w ++ rest) = none := by
  obtain ⟨plains, raws⟩ := List.forall_mem_append.mp others
  rw [quotedLiteral, expect_append stopped plains, expect_eq_none letters other,
    expect_append stopped raws]
  -- behind a raw lead the word goes on, or a stop comes
  cases found : expect rawLead w with
  | none => rfl
  | some body =>
    have behind : body <:+ w := by
      simp only [expect, Option.ite_none_right_eq_some, Option.some.injEq] at found
      exact found.2 ▸ List.drop_suffix _ _
    exact raw_eq_none_of_head
      (head_apart (fun d member => letters d (behind.subset member)) stopped) q

/-- A word is no literal of any kind. -/
theorem literal_word (start : isStart c = true) (letters : ∀ d ∈ c :: w, isLetter d = true)
    (stopped : Stopped rest) : literal (c :: w ++ rest) = none := by
  have float : float (c :: w ++ rest) = none := by
    rw [float_append stopped, float_unled (not_isAsciiDigit start)]
    rfl
  have int : int (c :: w ++ rest) = none := by
    rw [int_append stopped, int_unled (not_isAsciiDigit start)]
    rfl
  have byte : expect "b'" (c :: w ++ rest) = none := by
    rw [expect_append stopped (by decide), expect_eq_none letters (by decide)]
    rfl
  have char : expect "'" (c :: w ++ rest) = none := by
    rw [expect_append stopped (by decide), expect_eq_none letters (by decide)]
    rfl
  rw [literal, quotedLiteral_word letters stopped (by decide) (by decide),
    quotedLiteral_word letters stopped (by decide) (by decide),
    quotedLiteral_word letters stopped (by decide) (by decide), byte, char, float, int]
  rfl

section Word

variable (h : Text.current.isIdentifierChars (c :: w) = true) (stopped : Stopped rest)

include h stopped

/-- A word is found as a name. -/
theorem name?_word : name? (c :: w ++ rest) = some (String.ofList (c :: w), rest) := by
  rw [name?_append stopped, name?_eq h]
  rfl

theorem anyIdent?_word :
    anyIdent? (c :: w ++ rest) = some (false, String.ofList (c :: w), rest) := by
  have letters := (isLetter_of_isIdentifier h).2
  rw [anyIdent?, starts_append stopped (by decide), not_starts letters (by decide),
    name?_word h stopped]
  rfl

/-- A word is found as an identifier, as it is neither a literal nor a mark. -/
theorem leaf?_word :
    leaf? (c :: w ++ rest) = some (.ident false (String.ofList (c :: w)), rest) := by
  obtain ⟨start, letters⟩ := isLetter_of_isIdentifier h
  have leads : literalLeads.any (starts · (c :: w ++ rest)) = false := by
    rw [List.any_eq_false]
    intro lead member
    have other : ∀ lead ∈ literalLeads, lead.toList.any (!isLetter ·) = true := by decide
    have others : ∀ lead ∈ literalLeads, Unstopped lead.toList := by decide
    rw [starts_append stopped (others lead member), not_starts letters (other lead member)]
    decide
  rw [leaf?, literal_word start letters stopped, List.cons_append, punct?_eq_none start, ident?,
    ← List.cons_append, leads, anyIdent?_word h stopped]
  rfl

/-! ### Words with a raw mark -/

variable (allowed : neverRaw.contains (String.ofList (c :: w)) = false)

include allowed

/-- The raw mark is passed over, and the word behind it must not be one of those that are never
raw. -/
theorem anyIdent?_rawWord :
    anyIdent? ('r' :: '#' :: (c :: w ++ rest)) = some (true, String.ofList (c :: w), rest) := by
  have marked : starts "r#" ('r' :: '#' :: (c :: w ++ rest)) = true := rfl
  have behind : ('r' :: '#' :: (c :: w ++ rest)).drop 2 = c :: w ++ rest := rfl
  rw [anyIdent?, if_pos marked, behind, name?_word h stopped]
  simp only [allowed]
  rfl

/-- A word with a raw mark is found as a raw identifier.  Its mark begins like the lead of a raw
text. -/
theorem leaf?_rawWord :
    leaf? ('r' :: '#' :: (c :: w ++ rest)) = some (.ident true (String.ofList (c :: w)), rest) := by
  obtain ⟨start, letters⟩ := isLetter_of_isIdentifier h
  have quote : c ≠ '\"' := ne_of_isStart start (by decide)
  have hash : c ≠ '#' := ne_of_isStart start (by decide)
  -- no text, since a letter stands where a quote or one more hash mark would
  have literal : literal ('r' :: '#' :: (c :: w ++ rest)) = none := by
    rw [literal_text (.inr rfl)]
    show raw textQuoting ('#' :: (c :: w ++ rest)) = none
    simp [raw, hash, quote]
  have leads : literalLeads.any (starts · ('r' :: '#' :: (c :: w ++ rest))) = false := by
    show (('\"' == c && true) || (('#' == c && true) || false)) = false
    rw [beq_false_of_ne quote.symm, beq_false_of_ne hash.symm]
    rfl
  rw [leaf?, literal, punct?_eq_none (by decide), ident?, leads,
    anyIdent?_rawWord h stopped allowed]
  rfl

end Word

/-! ### Identifiers, raw or not -/

/-- A raw identifier has its mark in front. -/
theorem toList_rawText (cs : List Char) :
    (identText true (String.ofList cs)).toList = 'r' :: '#' :: cs := by
  have name : (String.ofList cs).toList = cs := String.toList_ofList
  rw [identText, if_pos rfl, String.toList_append, name]
  rfl

section Ident

variable {isRaw : Bool} {name : String} (h : Text.current.isIdentifier name = true)

include h

/-- An identifier has a first character. -/
theorem exists_chars : ∃ c w, name = String.ofList (c :: w) ∧
    Text.current.isIdentifierChars (c :: w) = true := by
  rw [Text.Alphabet.isIdentifier] at h
  cases chars : name.toList with
  | nil =>
    rw [chars] at h
    cases h
  | cons c w => exact ⟨c, w, by rw [← chars, String.ofList_toList], chars ▸ h⟩

/-- The characters of an identifier begin with a letter, and no other one is a single quote. -/
theorem identText_cons (isRaw : Bool) : ∃ c w, (identText isRaw name).toList = c :: w ∧
    isStart c = true ∧ ∀ d ∈ w, d ≠ '\'' := by
  obtain ⟨c, w, rfl, chars⟩ := exists_chars h
  obtain ⟨start, letters⟩ := isLetter_of_isIdentifier chars
  have quotes : ∀ d ∈ c :: w, d ≠ '\'' := by
    rintro d member rfl
    exact absurd (letters _ member) (by decide)
  cases isRaw with
  | false =>
    refine ⟨c, w, String.toList_ofList, start, ?_⟩
    exact fun d member => quotes d (List.mem_cons_of_mem c member)
  | true =>
    exact ⟨'r', '#' :: c :: w, toList_rawText _, by decide,
      List.forall_mem_cons.mpr ⟨by decide, quotes⟩⟩

/-- No character between single quotes, as the second quote is lacking. -/
theorem quotedChar_ident (isRaw : Bool) (stopped : Stopped rest) :
    quotedChar textQuoting ((identText isRaw name).toList ++ rest) = none := by
  obtain ⟨c, w, chars, start, quotes⟩ := identText_cons h isRaw
  -- The first character would be taken as one between quotes.
  have escape : c ≠ '\\' := ne_of_isStart start (by decide)
  have taken : quotedUnit textQuoting (c :: (w ++ rest)) = some (w ++ rest) := by
    rw [quotedUnit]
    · rfl
    · exact fun _ _ same _ => escape same
    · exact fun same _ => escape same
  rw [chars, List.cons_append, quotedChar_eq, taken]
  cases w with
  | cons d w =>
    have quote : d ≠ '\'' := quotes d List.mem_cons_self
    simp [quote]
  | nil =>
    cases rest with
    | nil => rfl
    | cons d rest =>
      have quote : d ≠ '\'' := ne_of_stop stopped.head (by decide)
      simp [quote]

variable (allowed : isRaw = true → neverRaw.contains name = false) (stopped : Stopped rest)

include allowed stopped

theorem anyIdent?_ident :
    anyIdent? ((identText isRaw name).toList ++ rest) = some (isRaw, name, rest) := by
  obtain ⟨c, w, rfl, chars⟩ := exists_chars h
  cases isRaw with
  | false =>
    rw [identText, if_neg Bool.false_ne_true, String.toList_ofList, anyIdent?_word chars stopped]
  | true =>
    rw [toList_rawText]
    exact anyIdent?_rawWord chars stopped (allowed rfl)

/-- **Identifiers** are found before stops, raw or not. -/
theorem leaf?_ident :
    leaf? ((identText isRaw name).toList ++ rest) = some (.ident isRaw name, rest) := by
  obtain ⟨c, w, rfl, chars⟩ := exists_chars h
  cases isRaw with
  | false =>
    rw [identText, if_neg Bool.false_ne_true, String.toList_ofList, leaf?_word chars stopped]
  | true =>
    rw [toList_rawText]
    exact leaf?_rawWord chars stopped (allowed rfl)

end Ident

/-! ### Punctuation -/

/-- Comments begin with a slash. -/
theorem noComment_of_ne (h : c ≠ '/') (cs : List Char) : NoComment (c :: cs) := by
  have apart : ('/' == c) = false := beq_false_of_ne h.symm
  constructor
  all_goals
    show ('/' == c && _) = false
    rw [apart]
    rfl

/-- A slash begins a comment only if a slash or a star follows it. -/
theorem noComment_slash (h : ∀ d ∈ cs.head?, d ≠ '/' ∧ d ≠ '*') : NoComment ('/' :: cs) := by
  cases cs with
  | nil => exact ⟨rfl, rfl⟩
  | cons d cs =>
    obtain ⟨slash, star⟩ := h d rfl
    constructor
    · show ('/' == d && true) = false
      rw [beq_false_of_ne slash.symm]
      rfl
    · show ('*' == d && true) = false
      rw [beq_false_of_ne star.symm]
      rfl

theorem punctuation?_cons (h : NoComment (c :: cs)) :
    punctuation? (c :: cs) = if punctuation.contains c then some c else none := by
  simp [punctuation?, h.1, h.2]

/-- No literal begins with a punctuation character. -/
theorem literal_mark (mark : c ∈ punctuation) (other : c ≠ '\'') (cs : List Char) :
    literal (c :: cs) = none := by
  have apart : ∀ c ∈ punctuation, c ≠ '\'' →
      c ∉ quotedLeads ∧ Text.isAsciiDigit c = false :=
    List.all_iff_forall_prop.mp (by decide)
  obtain ⟨quoted, digit⟩ := apart c mark other
  cases found : literal (c :: cs) with
  | none => rfl
  | some r =>
    obtain lead | number := head_of_literal found
    · exact absurd lead quoted
    · rw [digit] at number
      cases number

/-- **Marks** are found by themselves; the next character tells whether they cling to it. -/
theorem leaf?_punct (mark : c ∈ punctuation) (other : c ≠ '\'') (comment : NoComment (c :: rest)) :
    leaf? (c :: rest) = some (.punct c (punctuation? rest).isSome, rest) := by
  have found : punctuation? (c :: rest) = some c := by
    rw [punctuation?_cons comment, if_pos (List.contains_iff_mem.mpr mark)]
  rw [leaf?, literal_mark mark other, punct?, found]
  simp only [if_neg other, List.drop_one, List.tail_cons]

/-- A single quote before a word is the mark of a lifetime. -/
theorem leaf?_quote {isRaw : Bool} {name : String} {after : List Char}
    (word : anyIdent? rest = some (isRaw, name, after))
    (noChar : quotedChar textQuoting rest = none) (stopped : Stopped after) :
    leaf? ('\'' :: rest) = some (.punct '\'' true, rest) := by
  have found : punctuation? ('\'' :: rest) = some '\'' := by
    rw [punctuation?_cons (noComment_of_ne (by decide) rest)]
    rfl
  have quote : starts "'" after = false := starts_append stopped (by decide) []
  have hash : starts "#" after = false := starts_append stopped (by decide) []
  rw [leaf?, literal_char, noChar, punct?, found]
  simp only [List.drop_one, List.tail_cons, word, quote, hash]
  rfl

end Recordwright.Source.Lexer
