import Recordwright.Proofs.Source.Ended

/-!
# Where literals end

A number is found to end by its own characters, so before a stop it is read, or not, as if nothing
followed.  Quoted literals are told apart by their first characters.  Together a literal that is the
whole text is also read as this literal where a stop follows (`literal_append`).
-/

namespace Recordwright.Source.Lexer

variable {c d : Char} {cs w r rest : List Char} {lead : String} {q : Quoting}

/-! ### Numbers -/

/-- A stop goes on with no word. -/
theorem wordBreak_append (stopped : Stopped rest) (w : List Char) :
    wordBreak (w ++ rest) = (wordBreak w).map (· ++ rest) := by
  cases w with
  | cons c w =>
    simp only [List.cons_append, wordBreak]
    split
    · rfl
    · rfl
  | nil =>
    cases rest with
    | nil => rfl
    | cons c rest => simp [wordBreak, (stop_apart c stopped.head).2.1]

/-- The suffix of a number ends before a stop. -/
theorem numberEnd_append (stopped : Stopped rest) (w : List Char) :
    numberEnd (w ++ rest) = (numberEnd w).map (· ++ rest) := by
  cases w with
  | cons c w =>
    simp only [List.cons_append, numberEnd]
    rw [← List.cons_append, name?_append stopped, wordBreak_append stopped]
    split
    · cases name? (c :: w) with
      | none => rfl
      | some found => exact wordBreak_append stopped found.2
    · rfl
  | nil =>
    cases rest with
    | nil => rfl
    | cons c rest =>
      obtain ⟨start, continued, -⟩ := stop_apart c stopped.head
      simp [numberEnd, wordBreak, start, continued]

/-- No exponent begins with a stop, so one that has a digit ends there. -/
theorem exponent_stopped (stopped : Stopped rest) (e : Exponent) :
    exponent e rest = if e.digit then some rest else none := by
  cases rest with
  | nil => rfl
  | cons c rest =>
    have sign : ¬(c = '+' ∨ c = '-') := by
      rintro (rfl | rfl) <;> exact absurd stopped.head (by decide)
    have score : c ≠ '_' := ne_of_stop stopped.head (by decide)
    simp [exponent, sign, score, (stop_apart c stopped.head).2.2.1]

/-- Exponents end before a stop, or they are none, with the stop as without it. -/
theorem exponent_append (stopped : Stopped rest) (e : Exponent) (w : List Char) :
    exponent e (w ++ rest) = (exponent e w).map (· ++ rest) := by
  fun_induction exponent e w with
  | case1 e digit => rw [List.nil_append, exponent_stopped stopped, if_pos digit]; rfl
  | case2 e digit => rw [List.nil_append, exponent_stopped stopped, if_neg digit]; rfl
  | _ => simp_all [exponent]

/-- A point is followed by no second point and no name. -/
theorem floatDigits_cons (dot : Bool) (c : Char) (cs : List Char) : floatDigits dot (c :: cs) =
    if Text.isAsciiDigit c ∨ c = '_' then floatDigits dot cs
    else if c = '.' then
      if dot then some (c :: cs)
      else if cs.head?.any (fun d => d == '.' || isStart d) then none else floatDigits true cs
    else if c = 'e' ∨ c = 'E' then
      match exponent {} cs with
      | some rest => some rest
      | none => if dot then some (c :: cs) else none
    else if dot then some (c :: cs)
    else none := by
  cases cs with
  | nil => rfl
  | cons d cs =>
    have next : ((d :: cs).head?.any fun d => d == '.' || isStart d) =
        (d == '.' || isStart d) := rfl
    rw [floatDigits, next]
    congr 3
    simp

/-- Digits with a point end before a stop. -/
theorem floatDigits_stopped (stopped : Stopped rest) (dot : Bool) :
    floatDigits dot rest = if dot then some rest else none := by
  cases rest with
  | nil => rfl
  | cons c rest =>
    have score : c ≠ '_' := ne_of_stop stopped.head (by decide)
    have point : c ≠ '.' := ne_of_stop stopped.head (by decide)
    have e : c ≠ 'e' := ne_of_stop stopped.head (by decide)
    have e' : c ≠ 'E' := ne_of_stop stopped.head (by decide)
    simp [floatDigits_cons, point, score, e, e', (stop_apart c stopped.head).2.2.1]

theorem floatDigits_append (stopped : Stopped rest) (dot : Bool) (w : List Char) :
    floatDigits dot (w ++ rest) = (floatDigits dot w).map (· ++ rest) := by
  induction w generalizing dot with
  | nil =>
    rw [List.nil_append, floatDigits_stopped stopped]
    cases dot with
    | true => rfl
    | false => rfl
  | cons c w ih =>
    -- The point looks one character ahead, maybe at the stop, which is none of those it asks for.
    have next : (w ++ rest).head?.any (fun d => d == '.' || isStart d) =
        w.head?.any fun d => d == '.' || isStart d := by
      cases w with
      | cons d w => rfl
      | nil =>
        cases rest with
        | nil => rfl
        | cons d rest =>
          have other : ∀ d ∈ stops, (d == '.' || isStart d) = false :=
            List.all_iff_forall_prop.mp (by decide)
          exact other d stopped.head
    rw [List.cons_append, floatDigits_cons, floatDigits_cons, next, exponent_append stopped, ih,
      ih]
    -- in each case the same is left over, with the same in front of it
    split
    · rfl
    · split
      · cases dot with
        | true => rfl
        | false =>
          simp only [Bool.false_eq_true, if_false]
          split
          · rfl
          · rfl
      · split
        · cases exponent {} w with
          | some r => rfl
          | none =>
            cases dot with
            | true => rfl
            | false => rfl
        · cases dot with
          | true => rfl
          | false => rfl

/-- **Whether a float is read, and how far, does not depend on what is behind a stop.** -/
theorem float_append (stopped : Stopped rest) (w : List Char) :
    float (w ++ rest) = (float w).map (· ++ rest) := by
  cases w with
  | nil =>
    cases rest with
    | nil => rfl
    | cons c rest => simp [float, (stop_apart c stopped.head).2.2.1]
  | cons c w =>
    simp only [List.cons_append, float]
    split
    · rw [floatDigits_append stopped]
      cases floatDigits false w with
      | none => rfl
      | some r => exact numberEnd_append stopped r
    · rfl

/-- Digits end before a stop, which is no digit to any base. -/
theorem intDigits_append (stopped : Stopped rest) (base : Nat) (empty : Bool) (w : List Char) :
    intDigits base empty (w ++ rest) = (intDigits base empty w).map (· ++ rest) := by
  induction w generalizing empty with
  | nil =>
    cases rest with
    | nil => cases empty <;> rfl
    | cons c rest =>
      have score : c ≠ '_' := ne_of_stop stopped.head (by decide)
      simp [intDigits, score, (stop_apart c stopped.head).2.2.2]
      cases empty <;> rfl
  | cons c w ih =>
    rw [List.cons_append, intDigits, intDigits]
    split
    · split
      · rfl
      · exact ih empty
    · cases Text.hexValue? c with
      | none => cases empty <;> rfl
      | some d =>
        simp only
        split
        · exact ih false
        · split
          · rfl
          · cases empty <;> rfl

/-- **Whether an integer is read, and how far, does not depend on what is behind a stop.** -/
theorem int_append (stopped : Stopped rest) (w : List Char) :
    int (w ++ rest) = (int w).map (· ++ rest) := by
  -- The sign of a base has two characters, which are both in front of the stop.
  have based (lead : String) (base : Nat) (two : lead.length = 2)
      (found : starts lead w = true) : intDigits base true ((w ++ rest).drop 2) =
        (intDigits base true (w.drop 2)).map (· ++ rest) := by
    have begins : lead.toList <+: w := List.isPrefixOf_iff_prefix.mp found
    have fits : 2 ≤ w.length := two ▸ begins.length_le
    rw [List.drop_append_of_le_length fits, intDigits_append stopped]
  have closed (digits : Option (List Char)) :
      (digits.map (· ++ rest)).bind numberEnd = (digits.bind numberEnd).map (· ++ rest) := by
    cases digits with
    | none => rfl
    | some r => exact numberEnd_append stopped r
  simp only [int]
  rw [starts_append stopped (by decide), starts_append stopped (by decide),
    starts_append stopped (by decide), ← closed]
  congr 1
  split
  next found => exact based "0x" 16 rfl found
  next =>
    split
    next found => exact based "0o" 8 rfl found
    next =>
      split
      next found => exact based "0b" 2 rfl found
      next => exact intDigits_append stopped 10 true w

/-! ### Literals -/

/-- A quoted literal has one of its two beginnings. -/
theorem quotedLiteral_unled {plain rawLead : String} (h : starts plain cs = false)
    (h' : starts rawLead cs = false) (q : Quoting) : quotedLiteral q plain rawLead cs = none := by
  simp [quotedLiteral, expect, h, h']

/-- Floats begin with a digit. -/
theorem float_unled (h : Text.isAsciiDigit c = false) (cs : List Char) :
    float (c :: cs) = none := by
  simp [float, h]

/-- The characters that quoted literals begin with. -/
def quotedLeads : List Char := ['\"', 'r', 'b', 'c', '\'']

/-! What a literal is when it begins with one of them: a number is out of the question, and so are
the other kinds. -/

theorem literal_text (h : c = '\"' ∨ c = 'r') (cs : List Char) :
    literal (c :: cs) = quotedLiteral textQuoting "\"" "r" (c :: cs) := by
  have number : int (c :: cs) = none := int_unled (by rcases h with rfl | rfl <;> decide) cs
  have float : float (c :: cs) = none := float_unled (by rcases h with rfl | rfl <;> decide) cs
  have others : quotedLiteral byteQuoting "b\"" "br" (c :: cs) = none ∧
      quotedLiteral zeroEndedQuoting "c\"" "cr" (c :: cs) = none ∧
      expect "b'" (c :: cs) = none ∧ expect "'" (c :: cs) = none := by
    rcases h with rfl | rfl
    all_goals
      exact ⟨quotedLiteral_unled rfl rfl _, quotedLiteral_unled rfl rfl _, rfl, rfl⟩
  rw [literal, others.1, others.2.1, others.2.2.1, others.2.2.2, float, number]
  cases quotedLiteral textQuoting "\"" "r" (c :: cs) with
  | none => rfl
  | some r => rfl

theorem literal_byte (cs : List Char) :
    literal ('b' :: cs) = (quotedLiteral byteQuoting "b\"" "br" ('b' :: cs) <|>
      (expect "b'" ('b' :: cs)).bind (quotedChar byteQuoting)) := by
  have text : quotedLiteral textQuoting "\"" "r" ('b' :: cs) = none :=
    quotedLiteral_unled rfl rfl _
  have zeroEnded : quotedLiteral zeroEndedQuoting "c\"" "cr" ('b' :: cs) = none :=
    quotedLiteral_unled rfl rfl _
  have char : expect "'" ('b' :: cs) = none := rfl
  rw [literal, text, zeroEnded, char, float_unled (by decide), int_unled (by decide)]
  cases quotedLiteral byteQuoting "b\"" "br" ('b' :: cs) with
  | some r => rfl
  | none =>
    cases (expect "b'" ('b' :: cs)).bind (quotedChar byteQuoting) with
    | none => rfl
    | some r => rfl

theorem literal_zeroEnded (cs : List Char) :
    literal ('c' :: cs) = quotedLiteral zeroEndedQuoting "c\"" "cr" ('c' :: cs) := by
  have text : quotedLiteral textQuoting "\"" "r" ('c' :: cs) = none :=
    quotedLiteral_unled rfl rfl _
  have byte : quotedLiteral byteQuoting "b\"" "br" ('c' :: cs) = none :=
    quotedLiteral_unled rfl rfl _
  have byteChar : expect "b'" ('c' :: cs) = none := rfl
  have char : expect "'" ('c' :: cs) = none := rfl
  rw [literal, text, byte, byteChar, char, float_unled (by decide), int_unled (by decide)]
  cases quotedLiteral zeroEndedQuoting "c\"" "cr" ('c' :: cs) with
  | none => rfl
  | some r => rfl

theorem literal_char (cs : List Char) :
    literal ('\'' :: cs) = quotedChar textQuoting cs := by
  have text : quotedLiteral textQuoting "\"" "r" ('\'' :: cs) = none :=
    quotedLiteral_unled rfl rfl _
  have byte : quotedLiteral byteQuoting "b\"" "br" ('\'' :: cs) = none :=
    quotedLiteral_unled rfl rfl _
  have zeroEnded : quotedLiteral zeroEndedQuoting "c\"" "cr" ('\'' :: cs) = none :=
    quotedLiteral_unled rfl rfl _
  have byteChar : expect "b'" ('\'' :: cs) = none := rfl
  have char : expect "'" ('\'' :: cs) = some cs := rfl
  rw [literal, text, byte, zeroEnded, byteChar, char, float_unled (by decide),
    int_unled (by decide), Option.bind_some]
  cases quotedChar textQuoting cs with
  | none => rfl
  | some r => rfl

/-- With none of these characters in front there can only be a number. -/
theorem literal_number (h : c ∉ quotedLeads) (cs : List Char) :
    literal (c :: cs) = (float (c :: cs) <|> int (c :: cs)) := by
  -- Every other kind of literal begins with one of those characters.
  have unled (lead : String) (first : ∃ d ∈ quotedLeads, ∃ ds, lead.toList = d :: ds) :
      starts lead (c :: cs) = false := by
    obtain ⟨d, member, ds, chars⟩ := first
    have apart : (d == c) = false := beq_false_of_ne (by rintro rfl; exact h member)
    rw [starts, chars]
    simp [List.isPrefixOf, apart]
  have text : quotedLiteral textQuoting "\"" "r" (c :: cs) = none :=
    quotedLiteral_unled (unled _ ⟨_, by decide, _, rfl⟩) (unled _ ⟨_, by decide, _, rfl⟩) _
  have byte : quotedLiteral byteQuoting "b\"" "br" (c :: cs) = none :=
    quotedLiteral_unled (unled _ ⟨_, by decide, _, rfl⟩) (unled _ ⟨_, by decide, _, rfl⟩) _
  have zeroEnded : quotedLiteral zeroEndedQuoting "c\"" "cr" (c :: cs) = none :=
    quotedLiteral_unled (unled _ ⟨_, by decide, _, rfl⟩) (unled _ ⟨_, by decide, _, rfl⟩) _
  have byteChar : expect "b'" (c :: cs) = none := by
    rw [expect, unled _ ⟨_, by decide, _, rfl⟩]
    rfl
  have char : expect "'" (c :: cs) = none := by
    rw [expect, unled _ ⟨_, by decide, _, rfl⟩]
    rfl
  rw [literal, text, byte, zeroEnded, byteChar, char]
  rfl

/-- A `b` begins bytes in double quotes or a byte in single ones. -/
theorem literal_byte_append (stopped : Stopped rest) (done : literal ('b' :: w) = some r) :
    literal ('b' :: (w ++ rest)) = some (r ++ rest) := by
  rw [literal_byte] at done ⊢
  cases found : quotedLiteral byteQuoting "b\"" "br" ('b' :: w) with
  | some r' =>
    have found' := quotedLiteral_append skips_hexByte stopped (by decide) found
    rw [List.cons_append] at found'
    rw [found] at done
    rw [found', Option.some.inj done]
    rfl
  | none =>
    rw [found] at done
    obtain ⟨body, begins, done⟩ :=
      Option.bind_eq_some_iff.mp (show (expect "b'" ('b' :: w)).bind _ = some r from done)
    have begins' : expect "b'" ('b' :: w ++ rest) = _ := expect_append stopped (by decide) _
    -- a single quote behind the letter is no double quote
    have unled : quotedLiteral byteQuoting "b\"" "br" ('b' :: (w ++ rest)) = none := by
      cases w with
      | nil => cases begins
      | cons d w =>
        have opening : starts "b'" ('b' :: d :: w) = true := by
          by_contra other
          rw [expect, if_neg other] at begins
          cases begins
        have same : (('\'' == d) && true) = true := opening
        obtain rfl : '\'' = d := eq_of_beq ((Bool.and_eq_true _ _).mp same).1
        exact quotedLiteral_unled rfl rfl _
    rw [unled, ← List.cons_append, begins', begins]
    exact quotedChar_append skips_hexByte stopped done

/-- A number ends before a stop, whatever is behind that. -/
theorem literal_number_append (stopped : Stopped rest) (number : c ∉ quotedLeads) (w : List Char) :
    literal (c :: (w ++ rest)) = (literal (c :: w)).map (· ++ rest) := by
  rw [literal_number number, literal_number number, ← List.cons_append, float_append stopped,
    int_append stopped]
  cases float (c :: w) with
  | some r => rfl
  | none => cases int (c :: w) <;> rfl

/-- **A literal is read as the same literal where a stop follows.** -/
theorem literal_append (stopped : Stopped rest) (done : literal w = some r) :
    literal (w ++ rest) = some (r ++ rest) := by
  -- The first character tells which kind of literal it is, and it is there in both texts.
  cases w with
  | nil => cases done
  | cons c w =>
    rw [List.cons_append]
    by_cases quoted : c ∈ quotedLeads
    · simp only [quotedLeads, List.mem_cons, List.not_mem_nil, or_false] at quoted
      rcases quoted with rfl | rfl | rfl | rfl | rfl
      · rw [literal_text (.inl rfl)] at done ⊢
        exact quotedLiteral_append skips_hexChar stopped (by decide) done
      · rw [literal_text (.inr rfl)] at done ⊢
        exact quotedLiteral_append skips_hexChar stopped (by decide) done
      · exact literal_byte_append stopped done
      · rw [literal_zeroEnded] at done ⊢
        exact quotedLiteral_append skips_hexNonzero stopped (by decide) done
      · rw [literal_char] at done ⊢
        exact quotedChar_append skips_hexChar stopped done
    · rw [literal_number_append stopped quoted, done, Option.map_some]

/-- Neither of the two ends with a stop. -/
theorem literal_byte_concat_ne (stop : c ∈ stops) (w : List Char) :
    literal ('b' :: (w ++ [c])) ≠ some [] := by
  intro done
  rw [literal_byte] at done
  cases found : quotedLiteral byteQuoting "b\"" "br" ('b' :: (w ++ [c])) with
  | some r =>
    rw [found] at done
    obtain rfl := Option.some.inj done
    exact quotedLiteral_concat_ne skips_hexByte stop ('b' :: w) found
  | none =>
    rw [found] at done
    obtain ⟨body, begins, done⟩ := Option.bind_eq_some_iff.mp
      (show (expect "b'" ('b' :: (w ++ [c]))).bind _ = some [] from done)
    obtain rfl | ⟨v, rfl⟩ := expect_concat (w := 'b' :: w) begins
    · cases done
    · exact quotedChar_concat_ne skips_hexByte stop v done

/-- No literal ends with a stop. -/
theorem literal_concat_ne (stop : c ∈ stops) (w : List Char) : literal (w ++ [c]) ≠ some [] := by
  intro done
  have stopped : Stopped [c] := stopped_cons.mpr stop
  cases w with
  | nil =>
    have alone : ∀ c ∈ stops, literal [c] ≠ some [] := List.all_iff_forall_prop.mp (by decide)
    exact alone c stop done
  | cons d w =>
    rw [List.cons_append] at done
    by_cases quoted : d ∈ quotedLeads
    · simp only [quotedLeads, List.mem_cons, List.not_mem_nil, or_false] at quoted
      rcases quoted with rfl | rfl | rfl | rfl | rfl
      · rw [literal_text (.inl rfl)] at done
        exact quotedLiteral_concat_ne skips_hexChar stop ('\"' :: w) done
      · rw [literal_text (.inr rfl)] at done
        exact quotedLiteral_concat_ne skips_hexChar stop ('r' :: w) done
      · exact literal_byte_concat_ne stop w done
      · rw [literal_zeroEnded] at done
        exact quotedLiteral_concat_ne skips_hexNonzero stop ('c' :: w) done
      · rw [literal_char] at done
        exact quotedChar_concat_ne skips_hexChar stop w done
    · -- the stop is left over from a number
      rw [literal_number_append stopped quoted, Option.map_eq_some_iff] at done
      obtain ⟨r, -, nothing⟩ := done
      exact List.append_ne_nil_of_right_ne_nil r (List.cons_ne_nil c []) nothing

/-- What a literal may begin with. -/
theorem head_of_literal (done : literal (c :: cs) = some r) :
    c ∈ quotedLeads ∨ Text.isAsciiDigit c = true := by
  by_contra neither
  rw [not_or, Bool.not_eq_true] at neither
  obtain ⟨quoted, digit⟩ := neither
  rw [literal_number quoted, float_unled digit, int_unled digit] at done
  cases done

end Recordwright.Source.Lexer
