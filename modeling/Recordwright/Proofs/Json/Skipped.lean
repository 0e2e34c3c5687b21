import Recordwright.Proofs.Json.Spelled

/-!
# Any value can be skipped

What a reader of records does not know, it skips, and for this only the form of a value matters.
Every well-formed value is skipped up to its last character and no further (`takes_skipValue`): no
nesting is too deep, no number too large, and escapes that stand for half a pair are no obstacle.

The proof is an induction on how the value is formed.  The reader counts its steps down from twice
the length of the text, and a value takes no more steps than it has characters; inside an array or
object each item takes one step beside its own, for which it has a comma or a bracket.
-/

namespace Recordwright.Json

open Reader

variable {text rest ds : List Char} {c : Char} {fuel : Nat}

/-! ### Strings -/

theorem IsStringBody.skipText_append (h : IsStringBody text) (enough : text.length < fuel)
    (rest : List Char) : skipText fuel (text ++ '\"' :: rest) = .ok rest := by
  -- an escape is skipped in one step, though it has more characters
  induction h generalizing fuel with
  | nil =>
    obtain ⟨fuel, rfl⟩ := Nat.exists_eq_add_one.mpr enough
    rfl
  | @self c body plain others ih =>
    obtain ⟨fuel, rfl⟩ := Nat.exists_eq_add_one.mpr (Nat.zero_lt_of_lt enough)
    have visible : isControl c = false := decide_eq_false (Nat.not_lt_of_le plain.high)
    rw [List.cons_append, skipText.eq_def]
    simp only [plain.quote, plain.backslash, visible, ↓reduceIte, Bool.false_eq_true]
    exact ih (Nat.lt_of_succ_lt_succ enough)
  | @letter e c body escape others ih =>
    obtain ⟨fuel, rfl⟩ := Nat.exists_eq_add_one.mpr (Nat.zero_lt_of_lt enough)
    obtain ⟨letter, named⟩ := namedEscape?_of_mem escape
    rw [List.length_cons, List.length_cons] at enough
    rw [List.cons_append, List.cons_append, skipText.eq_def]
    simp only [Char.reduceEq, ↓reduceIte, named, Option.isSome_some]
    exact ih (by omega)
  | @number ds body n unit others ih =>
    obtain ⟨fuel, rfl⟩ := Nat.exists_eq_add_one.mpr (Nat.zero_lt_of_lt enough)
    rw [List.length_cons, List.length_cons, List.length_append] at enough
    rw [List.cons_append, List.cons_append, List.append_assoc, skipText.eq_def]
    simp only [Char.reduceEq, ↓reduceIte, unit.readUnit_append, bind, Except.bind]
    exact ih (by omega)

theorem IsString.exists_eq_cons (h : IsString text) :
    ∃ body, text = '\"' :: body ∧ ∀ rest, skipString (body ++ rest) = .ok rest := by
  obtain ⟨chars⟩ := h
  refine ⟨_, rfl, fun rest => ?_⟩
  rw [List.append_assoc, List.cons_append, List.nil_append, skipString]
  refine chars.skipText_append ?_ rest
  rw [List.length_append]
  omega

/-! ### Numbers -/

theorem IsDigits.exists_eq_cons (h : IsDigits ds) :
    ∃ c cs, ds = c :: cs ∧ (digit? c).isSome = true ∧ ∀ d ∈ cs, d.isDigit = true := by
  obtain ⟨c, cs, rfl⟩ := List.exists_cons_of_ne_nil h.nonempty
  obtain ⟨digit, others⟩ := List.forall_mem_cons.mp h.digits
  exact ⟨c, cs, rfl, isSome_digit? digit, others⟩

theorem skipExponent_append {sign : List Char} (signs : sign ∈ [[], ['+'], ['-']])
    (h : IsDigits ds) (ends : EndsDigits rest) :
    skipExponent (sign ++ (ds ++ rest)) = .ok rest := by
  obtain ⟨c, cs, rfl, digit, others⟩ := h.exists_eq_cons
  have read : (if (digit? c).isSome then Except.ok (dropDigits (cs ++ rest))
      else Except.error Fault.malformed) = .ok rest := by
    rw [if_pos digit, dropDigits_append others ends]
  simp only [List.mem_cons, List.not_mem_nil, or_false] at signs
  rcases signs with rfl | rfl | rfl
  · -- a digit is no sign
    rw [List.nil_append, List.cons_append]
    unfold skipExponent
    split
    next plus => obtain rfl := (List.cons.inj plus).1; contradiction
    next minus => obtain rfl := (List.cons.inj minus).1; contradiction
    next => exact read
  · exact read
  · exact read

/-- What may follow the digits before the point begins with no digit. -/
theorem IsExponentPart.endsDigits (h : IsExponentPart text) (ends : EndsNumber rest) :
    EndsDigits (text ++ rest) := by
  cases h with
  | absent => exact ends.endsDigits
  | digits letter signs h =>
    rcases letter with rfl | rfl
    all_goals exact endsDigits_cons rfl

theorem IsExponentPart.skipTail_append (h : IsExponentPart text) (ends : EndsNumber rest) :
    skipTail (text ++ rest) = .ok rest := by
  cases h with
  | absent =>
    rw [List.nil_append]
    unfold skipTail
    split
    next e => exact absurd rfl (ends _ rfl).2.2.1
    next e => exact absurd rfl (ends _ rfl).2.2.2
    next => rfl
  | digits letter signs h =>
    rw [List.cons_append, List.append_assoc]
    rcases letter with rfl | rfl
    all_goals exact skipExponent_append signs h ends.endsDigits

theorem IsFractionPart.skipFraction_append {fraction exponent : List Char}
    (h : IsFractionPart fraction) (scale : IsExponentPart exponent) (ends : EndsNumber rest) :
    skipFraction (fraction ++ (exponent ++ rest)) = .ok rest := by
  cases h with
  | absent =>
    -- no point comes next, neither in an exponent nor behind the number
    have point : (exponent ++ rest).head? ≠ some '.' := by
      intro point
      cases scale with
      | absent => exact (ends '.' point).2.1 rfl
      | digits letter _ _ =>
        obtain rfl := Option.some.inj point
        rcases letter with e | e <;> cases e
    rw [List.nil_append]
    unfold skipFraction
    split
    next dot => rw [dot] at point; exact absurd rfl point
    next dot => rw [dot] at point; exact absurd rfl point
    next => exact scale.skipTail_append ends
  | digits h =>
    obtain ⟨c, cs, rfl, digit, others⟩ := h.exists_eq_cons
    rw [List.cons_append, List.cons_append, skipFraction, if_pos digit,
      dropDigits_append others (scale.endsDigits ends)]
    exact scale.skipTail_append ends

/-- The parts of a number behind its whole digits begin with no digit. -/
theorem IsFractionPart.endsDigits {fraction exponent : List Char} (h : IsFractionPart fraction)
    (scale : IsExponentPart exponent) (ends : EndsNumber rest) :
    EndsDigits (fraction ++ (exponent ++ rest)) := by
  cases h with
  | absent => exact scale.endsDigits ends
  | digits h => exact endsDigits_cons rfl

/-- A minus before a digit makes no difference. -/
theorem skipNumber_minus (digit : (digit? c).isSome = true) (rest : List Char) :
    skipNumber ('-' :: c :: rest) = skipNumber (c :: rest) := by
  conv_rhs => unfold skipNumber
  split
  next minus => obtain rfl := (List.cons.inj minus).1; contradiction
  next => rfl

/-- The whole digits of a number are skipped, and what is behind them is skipped next. -/
theorem IsNumeral.skipNumber_append (h : IsNumeral ds) (ends : EndsDigits rest) :
    skipNumber ('-' :: (ds ++ rest)) = skipFraction rest := by
  rcases h.eq_zero_or_cons with rfl | ⟨c, cs, rfl, digit, lead, others⟩
  · have zero : digit? '0' = some 0 := rfl
    rw [List.cons_append, List.nil_append]
    unfold skipNumber
    simp only [zero]
    cases rest with
    | nil => rfl
    | cons c rest =>
      have stop : digit? c = none := ends c rfl
      simp only [stop, Option.isSome_none, Bool.false_eq_true, if_false]
  · have value := digit?_of_isDigit digit
    -- a zero would have a branch of its own
    obtain ⟨k, hk⟩ := Nat.exists_eq_add_one.mpr (toNat_sub_pos digit lead)
    rw [hk] at value
    rw [List.cons_append]
    unfold skipNumber
    simp only [value]
    rw [dropDigits_append others ends]

/-- A number begins with nothing that no number begins with. -/
theorem StartsNumber.ne {d : Char} (h : StartsNumber c) (other : ¬ StartsNumber d) : c ≠ d := by
  rintro rfl
  exact other h

theorem IsNumber.exists_eq_cons (h : IsNumber text) : ∃ c cs, text = c :: cs ∧ StartsNumber c := by
  obtain ⟨signs, whole, -, -⟩ := h
  obtain ⟨c, cs, rfl, digit, -⟩ := whole.exists_eq_cons
  simp only [List.mem_cons, List.not_mem_nil, or_false] at signs
  rcases signs with rfl | rfl
  · exact ⟨c, _, rfl, .inr (isSome_digit? digit)⟩
  · exact ⟨'-', _, rfl, .inl rfl⟩

theorem IsNumber.skipNumber_append (h : IsNumber text) (ends : EndsNumber rest) :
    skipNumber (text ++ rest) = .ok rest := by
  cases h with
  | @mk sign ds fraction exponent signs whole behind scale =>
    have unsigned : skipNumber ('-' :: (ds ++ (fraction ++ (exponent ++ rest)))) = .ok rest := by
      rw [whole.skipNumber_append (behind.endsDigits scale ends)]
      exact behind.skipFraction_append scale ends
    simp only [List.append_assoc]
    simp only [List.mem_cons, List.not_mem_nil, or_false] at signs
    rcases signs with rfl | rfl
    · obtain ⟨c, cs, rfl, digit, -⟩ := whole.exists_eq_cons
      rw [List.nil_append, List.cons_append, ← skipNumber_minus (isSome_digit? digit)]
      exact unsigned
    · exact unsigned

/-! ### Values -/

theorem IsValue.opens (h : IsValue text) : Opens text := by
  cases h with
  | null => exact ⟨'n', _, rfl, rfl, by decide⟩
  | bool b spelled => exact spelled.opens
  | number h =>
    obtain ⟨c, cs, rfl, starts⟩ := h.exists_eq_cons
    exact ⟨c, cs, rfl, starts.isSpace_eq, starts.ne (by decide)⟩
  | string h =>
    obtain ⟨body, rfl, -⟩ := h.exists_eq_cons
    exact ⟨'\"', body, rfl, rfl, by decide⟩
  | array => exact ⟨'[', _, rfl, rfl, by decide⟩
  | object => exact ⟨'\x7b', _, rfl, rfl, by decide⟩

/-- As many steps as the text has characters are enough to skip it. -/
def Skips (text : List Char) : Prop :=
  ∀ ⦃fuel : Nat⦄, text.length ≤ fuel → Takes (skip fuel) text ()

/-- The elements of an array and its bracket. -/
theorem reads_skipElements {first : Bool} {es : List (List Char)}
    (listed : Listing Eq ']' first es text) (values : ∀ e ∈ es, IsValue e)
    (skips : ∀ e ∈ es, Skips e) (enough : text.length ≤ fuel) (rest : List Char) :
    Reads (skipElements fuel first) (text ++ rest) () rest := by
  -- The fuel is as long as the text, of which each element takes at least one character.
  induction es generalizing fuel first text with
  | nil =>
    obtain ⟨fuel, rfl⟩ := Nat.exists_eq_add_one.mpr (Nat.lt_of_lt_of_le listed.length_pos enough)
    rw [skipElements]
    exact (listed.no_element rest).bind (reads_advance _ _)
  | cons e es ih =>
    obtain ⟨fuel, rfl⟩ := Nat.exists_eq_add_one.mpr (Nat.lt_of_lt_of_le listed.length_pos enough)
    obtain ⟨value, others⟩ := List.forall_mem_cons.mp values
    obtain ⟨skip, skipOthers⟩ := List.forall_mem_cons.mp skips
    obtain ⟨item, tail, rfl, opens, more, length, found⟩ :=
      listed.next_element fun item same => same ▸ value.opens
    have positive := opens.length_pos
    have nonempty := more.length_pos
    have ends := more.endsNumber (.inl rfl) rest
    rw [skipElements]
    refine (found rest).bind ?_
    refine (skip (by omega) blank_nil ends).bind ?_
    exact ih more others skipOthers (by omega)

/-- The members of an object and its brace. -/
theorem reads_skipMembers {first : Bool} {ms : List (List Char × List Char)}
    (listed : Listing (SpellsEntry Eq) '\x7d' first ms text) (keys : ∀ m ∈ ms, IsString m.1)
    (skips : ∀ m ∈ ms, Skips m.2) (enough : text.length ≤ fuel) (rest : List Char) :
    Reads (skipMembers fuel first) (text ++ rest) () rest := by
  induction ms generalizing fuel first text with
  | nil =>
    obtain ⟨fuel, rfl⟩ := Nat.exists_eq_add_one.mpr (Nat.lt_of_lt_of_le listed.length_pos enough)
    rw [skipMembers]
    exact (listed.no_entry rest).bind (reads_advance _ _)
  | cons m ms ih =>
    obtain ⟨fuel, rfl⟩ := Nat.exists_eq_add_one.mpr (Nat.lt_of_lt_of_le listed.length_pos enough)
    obtain ⟨key, others⟩ := List.forall_mem_cons.mp keys
    obtain ⟨skip, skipOthers⟩ := List.forall_mem_cons.mp skips
    obtain ⟨body, quoted, skipKey⟩ := key.exists_eq_cons
    obtain ⟨item, tail, one, more, length, found⟩ :=
      listed.next_entry fun item one => by
        obtain ⟨rfl, -, -⟩ := one
        exact ⟨_, congrArg (· ++ _) quoted⟩
    cases one with
    | @mk k value behind front spelled same after before =>
      obtain rfl : k = spelled := same
      have nonempty := more.length_pos
      have ends := more.endsNumber (.inr rfl) rest
      -- Behind the quote: the rest of the key, a colon among blanks, and the value.
      have shown : k ++ (behind ++ ':' :: (front ++ value)) ++ (tail ++ rest) =
          '\"' :: (body ++ (behind ++ ':' :: (front ++ (value ++ (tail ++ rest))))) := by
        rw [show k = '\"' :: body from quoted]
        simp only [List.cons_append, List.append_assoc]
      simp only [List.length_append, List.length_cons] at length
      rw [skipMembers]
      refine (found rest).bind ?_
      rw [shown]
      refine (reads_advance _ _).bind ?_
      refine (reads_ofFunction (by rw [skipKey]; rfl)).bind ?_
      refine (reads_colon_behind after _).bind ?_
      refine (skip (show value.length ≤ fuel by omega) before ends).bind ?_
      exact ih more others skipOthers (by omega)

/-- A text is not empty, and so skipping it takes a first step. -/
theorem skips_of_succ (opens : Opens text)
    (h : ∀ ⦃fuel⦄, text.length ≤ fuel + 1 → Takes (skip (fuel + 1)) text ()) : Skips text := by
  intro fuel enough
  obtain ⟨fuel, rfl⟩ := Nat.exists_eq_add_one.mpr (Nat.lt_of_lt_of_le opens.length_pos enough)
  exact h enough

theorem takes_skip_number (h : IsNumber text) : Takes (skip (fuel + 1)) text () := by
  obtain ⟨c, cs, rfl, starts⟩ := h.exists_eq_cons
  rw [skip]
  apply Takes.of_peek starts.isSpace_eq
  intro rest ends
  have skipped := h.skipNumber_append ends
  rw [List.cons_append] at skipped
  -- no other value starts as a number does
  split
  case h_1 none => cases none
  case h_8 other =>
    obtain rfl := Option.some.inj other
    rw [if_pos (show c = '-' ∨ (digit? c).isSome = true from starts)]
    exact reads_ofFunction (by rw [skipped]; rfl)
  all_goals
    next other =>
      obtain rfl := Option.some.inj other
      exact absurd starts (by decide)

/-- **A well-formed value is skipped to its end.** -/
theorem IsValue.skips (h : IsValue text) : Skips text := by
  -- One case for each form; the first character tells the reader which one it is.
  induction h with
  | null =>
    refine skips_of_succ IsValue.null.opens fun fuel _ => ?_
    rw [skip]
    apply Takes.of_peek rfl
    intro rest _
    exact reads_literal "null".toList rest
  | bool b spelled =>
    refine skips_of_succ spelled.opens fun fuel _ => ?_
    obtain rfl := spelled
    rw [skip]
    cases b with
    | true =>
      apply Takes.of_peek rfl
      intro rest _
      exact reads_literal "true".toList rest
    | false =>
      apply Takes.of_peek rfl
      intro rest _
      exact reads_literal "false".toList rest
  | number h => exact skips_of_succ (IsValue.number h).opens fun fuel _ => takes_skip_number h
  | string h =>
    refine skips_of_succ (IsValue.string h).opens fun fuel _ => ?_
    obtain ⟨body, rfl, skipped⟩ := h.exists_eq_cons
    rw [skip]
    apply Takes.of_peek rfl
    intro rest _
    refine (reads_advance _ _).bind ?_
    exact reads_ofFunction (by rw [skipped]; rfl)
  | array listed values ih =>
    refine skips_of_succ (IsValue.array listed values).opens fun fuel enough => ?_
    rw [skip]
    apply Takes.of_peek rfl
    intro rest _
    refine (reads_advance _ _).bind ?_
    exact reads_skipElements listed values ih (Nat.le_of_succ_le_succ enough) rest
  | object listed keys values ih =>
    refine skips_of_succ (IsValue.object listed keys values).opens fun fuel enough => ?_
    rw [skip]
    apply Takes.of_peek rfl
    intro rest _
    refine (reads_advance _ _).bind ?_
    exact reads_skipMembers listed keys ih (Nat.le_of_succ_le_succ enough) rest

/-- **Skipping.** Any well-formed value is skipped, however deep it nests. -/
theorem takes_skipValue (h : IsValue text) : Takes skipValue text () := by
  intro front rest blank ends
  have enough : text.length ≤ 2 * (front ++ (text ++ rest)).length + 2 := by
    simp only [List.length_append]
    omega
  have run : StateT.run skipValue (front ++ (text ++ rest)) =
      StateT.run (skip (2 * (front ++ (text ++ rest)).length + 2)) (front ++ (text ++ rest)) := by
    rw [skipValue, StateT.run_bind, StateT.run_get, pure_bind]
  rw [Reads, run]
  exact h.skips enough blank ends

end Recordwright.Json
