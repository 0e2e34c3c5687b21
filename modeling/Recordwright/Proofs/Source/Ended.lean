import Mathlib.Data.Bool.AllAny
import Recordwright.Proofs.Source.Letters

/-!
# Where quoted literals end

An identifier or a literal ends at the latest before a blank, a bracket that closes, or one of a few
marks (`stops`).  So what is read of it does not depend on what follows such a character.  For
identifiers this holds of failures as well, as what ends them is a single character
(`name?_append`).  A quoted literal that is read to its end is read alike where more follows
(`quotedLiteral_append`, `quotedChar_append`); one that is not closed may find its quote in what
follows.
-/

namespace Recordwright.Source.Lexer

variable {c d : Char} {cs w r rest : List Char} {lead : String} {q : Quoting}

/-! ### Stops -/

/-- The characters that end identifiers and literals and can stand right behind them. -/
def stops : List Char := [' ', ')', ']', '<', '>', ',', ':', '&']

/-- The text is at its end or begins with a stop. -/
def Stopped (rest : List Char) : Prop := ∀ c ∈ rest.head?, c ∈ stops

theorem stopped_cons : Stopped (c :: rest) ↔ c ∈ stops := by
  simp [Stopped]

theorem Stopped.head (h : Stopped (c :: rest)) : c ∈ stops := stopped_cons.mp h

/-- What no stop is. -/
theorem stop_apart : ∀ c ∈ stops, isStart c = false ∧ Text.current.isContinue c = false ∧
    Text.isAsciiDigit c = false ∧ Text.hexValue? c = none :=
  List.all_iff_forall_prop.mp (by decide)

/-- A stop is none of the other characters. -/
theorem ne_of_stop (h : c ∈ stops) (other : d ∉ stops) : c ≠ d := by
  rintro rfl
  exact other h

/-- No stop is among the characters. -/
def Unstopped (cs : List Char) : Prop := ∀ d ∈ cs, d ∉ stops

instance (cs : List Char) : Decidable (Unstopped cs) := List.decidableBAll _ _

theorem unstopped_hashes (hashes : Nat) : Unstopped (List.replicate hashes '#') := by
  intro d member
  rw [List.eq_of_mem_replicate member]
  decide

/-! ### Beginnings -/

/-- What begins with no stop does not reach into a text that does. -/
theorem isPrefixOf_append (stopped : Stopped rest) (others : Unstopped cs) (w : List Char) :
    cs.isPrefixOf (w ++ rest) = cs.isPrefixOf w := by
  induction cs generalizing w with
  | nil => rfl
  | cons d cs ih =>
    obtain ⟨other, others⟩ := List.forall_mem_cons.mp others
    cases w with
    | cons c w =>
      rw [List.cons_append, List.isPrefixOf, List.isPrefixOf, ih others]
    | nil =>
      cases rest with
      | nil => rfl
      | cons c rest =>
        have apart : (d == c) = false := beq_false_of_ne (ne_of_stop stopped.head other).symm
        simp [List.isPrefixOf, apart]

/-- Whether a text starts with a lead does not depend on what follows a stop. -/
theorem starts_append (stopped : Stopped rest) (others : Unstopped lead.toList)
    (w : List Char) : starts lead (w ++ rest) = starts lead w :=
  isPrefixOf_append stopped others w

/-- Nor does what is left behind the lead, but for that text. -/
theorem expect_append (stopped : Stopped rest) (others : Unstopped lead.toList)
    (w : List Char) : expect lead (w ++ rest) = (expect lead w).map (· ++ rest) := by
  unfold expect
  rw [starts_append stopped others]
  cases found : starts lead w with
  | false => rfl
  | true =>
    have begins : lead.toList <+: w := List.isPrefixOf_iff_prefix.mp found
    have fits : lead.length ≤ w.length := begins.length_le
    simp only [if_true, Option.map_some, List.drop_append_of_le_length fits]

/-! ### Identifiers -/

/-- A run of characters that are no stops does not reach into a text that begins with one. -/
theorem takeWhile_append_stopped {p : Char → Bool} (others : ∀ c ∈ stops, p c = false)
    (stopped : Stopped rest) (w : List Char) : (w ++ rest).takeWhile p = w.takeWhile p := by
  have nothing : rest.takeWhile p = [] := by
    cases rest with
    | nil => rfl
    | cons c rest =>
      exact List.takeWhile_cons_of_neg (ne_true_of_eq_false (others c stopped.head))
  rw [List.takeWhile_append, nothing, List.append_nil]
  split
  next whole => exact ((List.takeWhile_prefix _).eq_of_length whole).symm
  next => rfl

/-- What is behind the run stays in front of that text. -/
theorem dropWhile_append_stopped {p : Char → Bool} (others : ∀ c ∈ stops, p c = false)
    (stopped : Stopped rest) (w : List Char) :
    (w ++ rest).dropWhile p = w.dropWhile p ++ rest := by
  have all : rest.dropWhile p = rest := by
    cases rest with
    | nil => rfl
    | cons c rest =>
      exact List.dropWhile_cons_of_neg (ne_true_of_eq_false (others c stopped.head))
  rw [List.dropWhile_append, all]
  split
  next nothing => rw [List.isEmpty_iff.mp nothing, List.nil_append]
  next => rfl

theorem not_isContinue_of_stop (c : Char) (stop : c ∈ stops) :
    Text.current.isContinue c = false := (stop_apart c stop).2.1

/-- **Identifiers** end before a stop, and so does the look for one that finds none. -/
theorem name?_append (stopped : Stopped rest) (w : List Char) :
    name? (w ++ rest) = (name? w).map fun found => (found.1, found.2 ++ rest) := by
  cases w with
  | nil =>
    cases rest with
    | nil => rfl
    | cons c rest => simp [name?, (stop_apart c stopped.head).1]
  | cons c w =>
    rw [List.cons_append, name?, name?, takeWhile_append_stopped not_isContinue_of_stop stopped,
      dropWhile_append_stopped not_isContinue_of_stop stopped]
    split
    · rfl
    · rfl

/-- The name behind a literal ends before a stop as well. -/
theorem suffix_append (stopped : Stopped rest) (w : List Char) :
    suffix (w ++ rest) = suffix w ++ rest := by
  rw [suffix, suffix, name?_append stopped]
  cases name? w with
  | none => rfl
  | some found => rfl

/-! ### Quoted literals -/

/-- What the reader leaves is the end of the text, and it leaves as much more when more follows. -/
def Skips (f : Skip) : Prop :=
  ∀ {w r : List Char}, f w = some r → r <:+ w ∧ ∀ rest, f (w ++ rest) = some (r ++ rest)

/-- A reader that takes two characters, if they are such as it allows. -/
theorem skips_pair {f : Skip} {allowed : Char → Char → Prop} [∀ a b, Decidable (allowed a b)]
    (empty : f [] = none) (single : ∀ a, f [a] = none)
    (pair : ∀ a b w, f (a :: b :: w) = if allowed a b then some w else none) : Skips f := by
  intro w r done
  match w with
  | [] =>
    rw [empty] at done
    cases done
  | [a] =>
    rw [single] at done
    cases done
  | a :: b :: w =>
    rw [pair, Option.ite_none_right_eq_some, Option.some.injEq] at done
    obtain ⟨digits, rfl⟩ := done
    exact ⟨⟨[a, b], rfl⟩, fun rest => (pair a b (w ++ rest)).trans (if_pos digits)⟩

theorem skips_hexChar : Skips hexChar := skips_pair rfl (fun _ => rfl) fun _ _ _ => rfl

theorem skips_hexByte : Skips hexByte := skips_pair rfl (fun _ => rfl) fun _ _ _ => rfl

/-- The same with two noughts refused. -/
theorem skips_hexNonzero : Skips hexNonzero := by
  intro w r done
  match w with
  | a :: b :: w =>
    simp only [hexNonzero, List.cons_append] at done ⊢
    split at done
    next => cases done
    next => cases done; exact ⟨⟨[a, b], rfl⟩, fun rest => rfl⟩
    next => cases done

/-- Blanks behind a line break that is hidden end at a character that has to be there. -/
theorem skips_hiddenBlanks : Skips hiddenBlanks := by
  intro w r done
  fun_induction hiddenBlanks w with
  | case1 => cases done
  | case2 w ih | case3 w ih | case4 w ih =>
    obtain ⟨behind, more⟩ := ih done
    exact ⟨behind.trans (List.suffix_cons _ _), more⟩
  | case5 w ih =>
    obtain ⟨behind, more⟩ := ih done
    exact ⟨behind.trans ⟨['\r', '\n'], rfl⟩, more⟩
  | case6 => cases done
  | case7 w ok =>
    obtain rfl := Option.some.inj done
    refine ⟨List.suffix_rfl, fun rest => ?_⟩
    -- the first character is the same, so none of the other rows applies
    obtain ⟨c, w, rfl⟩ := List.exists_cons_of_ne_nil ok
    rw [List.cons_append]
    unfold hiddenBlanks
    split <;> simp_all

/-- The digits of a code point are read up to the brace that closes them. -/
theorem codePointDigits_skips {value count n : Nat}
    (done : codePointDigits value count w = some (n, r)) :
    r <:+ w ∧ ∀ rest, codePointDigits value count (w ++ rest) = some (n, r ++ rest) := by
  fun_induction codePointDigits value count w with
  | case1 | case2 | case4 | case6 | case8 => cases done
  | case3 value count w some ih =>
    obtain ⟨behind, more⟩ := ih done
    refine ⟨behind.trans (List.suffix_cons _ _), fun rest => ?_⟩
    rw [List.cons_append, codePointDigits, if_pos rfl, if_neg some, more]
  | case5 value count w score closed =>
    cases done
    refine ⟨List.suffix_cons _ _, fun rest => ?_⟩
    rw [List.cons_append, codePointDigits, if_neg score, if_pos rfl, if_neg closed]
  | case7 value count c w score open' d digit few ih =>
    obtain ⟨behind, more⟩ := ih done
    refine ⟨behind.trans (List.suffix_cons _ _), fun rest => ?_⟩
    rw [List.cons_append, codePointDigits, if_neg score, if_neg open', digit]
    simp only [if_neg few, more]

/-- So is a code point between braces. -/
theorem codePoint?_skips {n : Nat} (done : codePoint? w = some (n, r)) :
    r <:+ w ∧ ∀ rest, codePoint? (w ++ rest) = some (n, r ++ rest) := by
  unfold codePoint? at done
  split at done
  next w =>
    obtain ⟨behind, more⟩ := codePointDigits_skips done
    exact ⟨behind.trans (List.suffix_cons _ _), more⟩
  next => cases done

/-- Behind a backslash: what an escape takes. -/
def escape (q : Quoting) : Skip
  | [] => none
  | e :: after =>
    if e = 'x' then q.hex after
    else if e = 'u' then
      if q.codePoints then
        match codePoint? after with
        | some (n, after) => if n = 0 ∧ !q.zero then none else some after
        | none => none
      else none
    else if e = '\n' ∨ e = '\r' then hiddenBlanks (e :: after)
    else if q.named.contains e then some after
    else none

/-- What a character that is not the closing quote takes. -/
def unit (q : Quoting) (c : Char) : Skip := fun rest =>
  if c = '\r' then
    match rest with
    | '\n' :: rest => some rest
    | _ => none
  else if c = '\\' then escape q rest
  else if c.val = 0 ∧ !q.zero then none
  else if q.ascii ∧ 128 ≤ c.val then none
  else some rest

/-- A text in quotes is read unit by unit up to the quote that closes it. -/
theorem cooked_cons (fuel : Nat) : cooked q (fuel + 1) (c :: rest) =
    if c = '\"' then some (suffix rest) else (unit q c rest).bind (cooked q fuel) := by
  -- both sides ask the same questions of the character, in the same order
  conv => lhs; unfold cooked
  unfold unit
  split
  · rfl
  · split
    · split
      · rfl
      · simp
    · split
      · cases rest with
        | nil => rfl
        | cons e after =>
          simp only [escape]
          split
          · rfl
          · split
            · split
              · cases codePoint? after with
                | none => rfl
                | some found =>
                  show (if _ then _ else _) = Option.bind (if _ then _ else _) _
                  split
                  · rfl
                  · rfl
              · rfl
            · split
              · rfl
              · split
                · rfl
                · rfl
      · split
        · rfl
        · split
          · rfl
          · rfl

/-- An escape is taken alike where more follows, as is what it takes of the digits behind it. -/
theorem skips_escape (hex : Skips q.hex) : Skips (escape q) := by
  -- The letter behind the backslash is there in both texts and decides in both alike.
  intro w r done
  cases w with
  | nil => cases done
  | cons e w =>
    simp only [List.cons_append, escape] at done ⊢
    split at done
    next x =>
      obtain ⟨behind, more⟩ := hex done
      exact ⟨behind.trans (List.suffix_cons _ _), fun rest => by rw [if_pos x, more]⟩
    next x =>
      simp only [if_neg x]
      split at done
      next point =>
        simp only [if_pos point]
        split at done
        next allowed =>
          simp only [if_pos allowed]
          split at done
          next n after found =>
            obtain ⟨behind, more⟩ := codePoint?_skips found
            split at done
            next => cases done
            next other =>
              cases done
              refine ⟨behind.trans (List.suffix_cons _ _), fun rest => ?_⟩
              simp only [more, if_neg other]
          next => cases done
        next => cases done
      next point =>
        simp only [if_neg point]
        split at done
        next hidden =>
          obtain ⟨behind, more⟩ := skips_hiddenBlanks done
          exact ⟨behind, fun rest => by rw [if_pos hidden, ← List.cons_append, more]⟩
        next hidden =>
          split at done
          next known =>
            cases done
            exact ⟨List.suffix_cons _ _, fun rest => by rw [if_neg hidden, if_pos known]⟩
          next => cases done

/-- Every unit of a text in quotes is taken alike where more follows. -/
theorem skips_unit (hex : Skips q.hex) (c : Char) : Skips (unit q c) := by
  intro w r done
  -- A carriage return needs its line feed; every other character is judged by itself.
  unfold unit at done ⊢
  split at done
  next ret =>
    simp only [if_pos ret]
    split at done
    next w => cases done; exact ⟨List.suffix_cons _ _, fun rest => rfl⟩
    next => cases done
  next ret =>
    simp only [if_neg ret]
    split at done
    next slash =>
      obtain ⟨behind, more⟩ := skips_escape hex done
      exact ⟨behind, fun rest => by rw [if_pos slash, more]⟩
    next slash =>
      split at done
      next => cases done
      next zero =>
        split at done
        next => cases done
        next ascii =>
          cases done
          refine ⟨List.suffix_rfl, fun rest => ?_⟩
          rw [if_neg slash, if_neg zero, if_neg ascii]

/-- A text is read to its closing quote, and the name behind that to the next stop. -/
theorem cooked_append (hex : Skips q.hex) (stopped : Stopped rest) {fuel fuel' : Nat}
    (enough : fuel ≤ fuel') (done : cooked q fuel w = some r) :
    cooked q fuel' (w ++ rest) = some (r ++ rest) := by
  -- each step takes one unit of the text, so the fuel that was enough for it still is
  induction fuel generalizing fuel' w with
  | zero => cases done
  | succ fuel ih =>
    obtain ⟨fuel', rfl⟩ := Nat.exists_eq_succ_of_ne_zero (Nat.ne_of_gt (Nat.zero_lt_of_lt enough))
    cases w with
    | nil => cases done
    | cons c w =>
      rw [cooked_cons] at done
      rw [List.cons_append, cooked_cons]
      split at done
      next quote => rw [if_pos quote, suffix_append stopped, Option.some.inj done]
      next quote =>
        obtain ⟨after, taken, done⟩ := Option.bind_eq_some_iff.mp done
        rw [if_neg quote, (skips_unit hex c taken).2]
        exact ih (Nat.le_of_succ_le_succ enough) done

/-- A raw text is closed by its quote and as many hash marks as it opened with; no stop is one. -/
theorem rawBody_append (stopped : Stopped rest) {hashes : Nat}
    (done : rawBody q hashes w = some r) : rawBody q hashes (w ++ rest) = some (r ++ rest) := by
  fun_induction rawBody q hashes w with
  | case1 => cases done
  | case2 w closing =>
    have fits : hashes ≤ w.length := by
      simpa using (List.isPrefixOf_iff_prefix.mp closing).length_le
    rw [List.cons_append, rawBody, isPrefixOf_append stopped (unstopped_hashes hashes),
      if_pos closing, List.drop_append_of_le_length fits, suffix_append stopped,
      Option.some.inj done]
  | case3 w open' ih =>
    rw [List.cons_append, rawBody, isPrefixOf_append stopped (unstopped_hashes hashes),
      if_neg open', ih done]
  | case4 w ih => exact ih done
  | case5 w other => cases done
  | case6 c w quote ret zero => cases done
  | case7 c w quote ret zero other ascii => cases done
  | case8 c w quote _ other zero ascii ih =>
    rw [List.cons_append, rawBody, if_neg zero, if_neg ascii, ih done]
    · exact quote
    · exact fun _ ret _ => other ret
    · exact other

/-- So the hash marks are counted alike, and the raw text behind them is read alike. -/
theorem raw_append (stopped : Stopped rest) (done : raw q w = some r) :
    raw q (w ++ rest) = some (r ++ rest) := by
  have marks : ∀ c ∈ stops, (c == '#') = false := List.all_iff_forall_prop.mp (by decide)
  have hashes := takeWhile_append_stopped (p := (· == '#')) marks stopped w
  have fits := (List.takeWhile_prefix (p := (· == '#')) (l := w)).length_le
  simp only [raw] at done ⊢
  rw [hashes, List.drop_append_of_le_length fits]
  split at done
  next body opening =>
    rw [opening, List.cons_append]
    simp only
    split at done
    next few => rw [if_pos few, rawBody_append stopped done]
    next => cases done
  next => cases done

/-- **Quoted literals.** One that is read to its end is read alike where more follows a stop. -/
theorem quotedLiteral_append (hex : Skips q.hex) (stopped : Stopped rest)
    {plain rawLead : String} (others : Unstopped (plain.toList ++ rawLead.toList))
    (done : quotedLiteral q plain rawLead w = some r) :
    quotedLiteral q plain rawLead (w ++ rest) = some (r ++ rest) := by
  obtain ⟨plains, raws⟩ := List.forall_mem_append.mp others
  unfold quotedLiteral at done ⊢
  rw [expect_append stopped plains]
  cases found : expect plain w with
  | some body =>
    rw [found] at done
    exact cooked_append hex stopped (by simp) done
  | none =>
    rw [found] at done
    obtain ⟨body, begins, done⟩ := Option.bind_eq_some_iff.mp done
    rw [expect_append stopped raws, begins]
    exact raw_append stopped done

/-- What a character between single quotes takes. -/
def quotedUnit (q : Quoting) : Skip
  | [] => none
  | '\\' :: e :: rest =>
    if e = 'x' then q.hex rest
    else if e = 'u' ∧ q.codePoints then (codePoint? rest).map (·.2)
    else if q.named.contains e then some rest
    else none
  | ['\\'] => none
  | c :: rest => if q.ascii ∧ 128 ≤ c.val then none else some rest

theorem quotedChar_eq (cs : List Char) : quotedChar q cs =
    match quotedUnit q cs with
    | some ('\'' :: rest) => some (suffix rest)
    | _ => none := rfl

/-- One character or one escape, of which a lone backslash is neither. -/
theorem skips_quotedUnit (hex : Skips q.hex) : Skips (quotedUnit q) := by
  intro w r done
  fun_cases quotedUnit q w with
  | case1 | case6 => cases done
  | case2 w =>
    obtain ⟨behind, more⟩ := hex done
    exact ⟨behind.trans ⟨['\\', 'x'], rfl⟩, more⟩
  | case3 e w letter point =>
    rw [quotedUnit, if_neg letter, if_pos point, Option.map_eq_some_iff] at done
    obtain ⟨found, digits, rfl⟩ := done
    obtain ⟨behind, more⟩ := codePoint?_skips digits
    refine ⟨behind.trans ⟨['\\', e], rfl⟩, fun rest => ?_⟩
    rw [List.cons_append, List.cons_append, quotedUnit, if_neg letter, if_pos point, more]
    rfl
  | case4 e w letter point known =>
    rw [quotedUnit, if_neg letter, if_neg point, if_pos known] at done
    cases done
    refine ⟨⟨['\\', e], rfl⟩, fun rest => ?_⟩
    rw [List.cons_append, List.cons_append, quotedUnit, if_neg letter, if_neg point, if_pos known]
  | case5 e w letter point known =>
    rw [quotedUnit, if_neg letter, if_neg point, if_neg known] at done
    cases done
  | case7 c w slash slash' strange =>
    rw [quotedUnit, if_pos strange] at done
    · cases done
    · exact slash
    · exact slash'
  | case8 c w slash slash' plain =>
    have other : c ≠ '\\' := by
      rintro rfl
      cases w with
      | nil => exact slash' rfl rfl
      | cons e w => exact slash e w rfl rfl
    rw [quotedUnit, if_neg plain] at done
    · cases done
      refine ⟨List.suffix_cons _ _, fun rest => ?_⟩
      rw [List.cons_append, quotedUnit, if_neg plain]
      · exact fun _ _ same _ => other same
      · exact fun same _ => other same
    · exact slash
    · exact slash'

/-- **Characters between single quotes** are read alike where more follows a stop. -/
theorem quotedChar_append (hex : Skips q.hex) (stopped : Stopped rest)
    (done : quotedChar q w = some r) : quotedChar q (w ++ rest) = some (r ++ rest) := by
  rw [quotedChar_eq] at done ⊢
  split at done
  next after taken =>
    rw [(skips_quotedUnit hex taken).2, ← Option.some.inj done]
    exact congrArg some (suffix_append stopped after)
  next => cases done

/-! ### Last characters -/

/-- A name behind a literal does not end with a stop. -/
theorem suffix_concat_ne_nil (stop : c ∈ stops) (w : List Char) : suffix (w ++ [c]) ≠ [] := by
  rw [suffix_append (stopped_cons.mpr stop)]
  exact List.append_ne_nil_of_right_ne_nil _ (List.cons_ne_nil _ _)

/-- A text in quotes does not end with a stop: either the stop would be the closing quote, or it is
behind that in a name, or it is left when the text in front of it is used up. -/
theorem cooked_concat_ne (hex : Skips q.hex) (stop : c ∈ stops) (fuel : Nat) (w : List Char) :
    cooked q fuel (w ++ [c]) ≠ some [] := by
  -- What is left of the text ends with the stop as long as anything is left.
  induction fuel generalizing w with
  | zero => exact fun done => by cases done
  | succ fuel ih =>
    intro done
    obtain ⟨d, cs, split⟩ := List.exists_cons_of_ne_nil
      (List.append_ne_nil_of_right_ne_nil w (List.cons_ne_nil c []))
    have behind : cs <:+ w ++ [c] := split ▸ List.suffix_cons d cs
    rw [split, cooked_cons] at done
    split at done
    next quote =>
      obtain rfl | ⟨w', rfl, -⟩ := List.suffix_concat_iff.mp behind
      · -- the quote is the last character
        have last : c = d := by simpa using congrArg List.getLast? split
        exact absurd stop (by rw [last, quote]; decide)
      · exact suffix_concat_ne_nil stop w' (Option.some.inj done)
    next =>
      obtain ⟨after, taken, done⟩ := Option.bind_eq_some_iff.mp done
      obtain rfl | ⟨w', rfl, -⟩ :=
        List.suffix_concat_iff.mp ((skips_unit hex d taken).1.trans behind)
      · cases fuel <;> cases done
      · exact ih w' done

/-- What is behind the first character of a text with a last one is nothing or ends with it. -/
theorem eq_nil_or_concat {w' : List Char} (split : w ++ [c] = d :: w') :
    (w = [] ∧ d = c ∧ w' = []) ∨ ∃ v, w = d :: v ∧ w' = v ++ [c] := by
  cases w with
  | nil => cases split; exact .inl ⟨rfl, rfl, rfl⟩
  | cons e v => cases split; exact .inr ⟨v, rfl, rfl⟩

/-- Neither does a raw text, whose last characters are hash marks or a name behind them. -/
theorem rawBody_concat_ne (stop : c ∈ stops) {hashes : Nat} (w : List Char) :
    rawBody q hashes (w ++ [c]) ≠ some [] := by
  intro done
  -- In each row the character that is looked at is the stop, or the stop is still to come.
  generalize split : w ++ [c] = cs at done
  fun_induction rawBody q hashes cs generalizing w with
  | case1 => cases done
  | case2 cs closing =>
    obtain ⟨-, same, -⟩ | ⟨v, -, rfl⟩ := eq_nil_or_concat split
    · exact absurd (same ▸ stop) (by decide)
    · rw [isPrefixOf_append (stopped_cons.mpr stop) (unstopped_hashes hashes)] at closing
      have fits : hashes ≤ v.length := by
        simpa using (List.isPrefixOf_iff_prefix.mp closing).length_le
      rw [List.drop_append_of_le_length fits] at done
      exact suffix_concat_ne_nil stop _ (Option.some.inj done)
  | case3 cs _ ih =>
    obtain ⟨-, same, -⟩ | ⟨v, -, rfl⟩ := eq_nil_or_concat split
    · exact absurd (same ▸ stop) (by decide)
    · exact ih v rfl done
  | case4 cs ih =>
    obtain ⟨-, same, -⟩ | ⟨v, -, behind⟩ := eq_nil_or_concat split
    · exact absurd (same ▸ stop) (by decide)
    · obtain ⟨-, same, -⟩ | ⟨v', -, rfl⟩ := eq_nil_or_concat behind.symm
      · exact absurd (same ▸ stop) (by decide)
      · exact ih v' rfl done
  | case5 => cases done
  | case6 => cases done
  | case7 => cases done
  | case8 d cs _ _ _ _ _ ih =>
    obtain ⟨-, -, rfl⟩ | ⟨v, -, rfl⟩ := eq_nil_or_concat split
    · cases done
    · exact ih v rfl done

/-- The hash marks in front of it make no difference. -/
theorem raw_concat_ne (stop : c ∈ stops) (w : List Char) : raw q (w ++ [c]) ≠ some [] := by
  intro done
  simp only [raw] at done
  split at done
  next body opening =>
    have behind : body <:+ w ++ [c] :=
      (List.suffix_cons _ _).trans (opening ▸ List.drop_suffix _ _)
    split at done
    next =>
      obtain rfl | ⟨w', rfl, -⟩ := List.suffix_concat_iff.mp behind
      · cases done
      · exact rawBody_concat_ne stop w' done
    next => cases done
  next => cases done

/-- Behind a lead there is nothing left, or the same last character. -/
theorem expect_concat (found : expect lead (w ++ [c]) = some r) : r = [] ∨ ∃ v, r = v ++ [c] := by
  simp only [expect, Option.ite_none_right_eq_some, Option.some.injEq] at found
  obtain rfl | ⟨v, rfl, -⟩ := List.suffix_concat_iff.mp (found.2 ▸ List.drop_suffix _ _)
  · exact .inl rfl
  · exact .inr ⟨v, rfl⟩

/-- **No quoted literal ends with a stop.** -/
theorem quotedLiteral_concat_ne (hex : Skips q.hex) (stop : c ∈ stops)
    {plain rawLead : String} (w : List Char) :
    quotedLiteral q plain rawLead (w ++ [c]) ≠ some [] := by
  intro done
  unfold quotedLiteral at done
  split at done
  next body found =>
    obtain rfl | ⟨v, rfl⟩ := expect_concat found
    · cases done
    · exact cooked_concat_ne hex stop _ v done
  next =>
    obtain ⟨body, found, done⟩ := Option.bind_eq_some_iff.mp done
    obtain rfl | ⟨v, rfl⟩ := expect_concat found
    · cases done
    · exact raw_concat_ne stop v done

/-- **Nor does a character between single quotes.** -/
theorem quotedChar_concat_ne (hex : Skips q.hex) (stop : c ∈ stops) (w : List Char) :
    quotedChar q (w ++ [c]) ≠ some [] := by
  intro done
  rw [quotedChar_eq] at done
  split at done
  next after taken =>
    obtain impossible | ⟨v, split, -⟩ :=
      List.suffix_concat_iff.mp (skips_quotedUnit hex taken).1
    · cases impossible
    · obtain ⟨-, same, -⟩ | ⟨v', -, rfl⟩ := eq_nil_or_concat split.symm
      · exact absurd (same ▸ stop) (by decide)
      · exact suffix_concat_ne_nil stop v' (Option.some.inj done)
  next => cases done

end Recordwright.Source.Lexer
