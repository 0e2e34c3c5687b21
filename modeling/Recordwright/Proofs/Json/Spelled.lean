import Mathlib.Tactic.IntervalCases
import Recordwright.Json.Text
import Recordwright.Proofs.Json.Decimal
import Recordwright.Proofs.Json.Grammar
import Recordwright.Proofs.Json.Tree

/-!
# Spelled values are read

However a string is spelled, the reader takes it as the string it is (`takes_string`), and a value
of which only the form counts is skipped to its very end (`takes_skipValue`).  `Takes` is `Reads`
for a text that may have blanks in front and anything behind it that cannot go on with a number;
this is how values stand in objects and arrays.

A loop over items asks for the next one again and again.  What it is told and where it then stands
is one lemma for arrays and one for objects (`Listing.next_element`, `Listing.next_entry`), whatever
the loop does with the items.
-/

namespace Recordwright.Json

variable {text rest body front behind cs : List Char} {c : Char} {n : Nat}

/-! ### Blanks -/

theorem Blank.isSpace (h : Blank cs) : ∀ c ∈ cs, isSpace c = true := by
  intro c member
  have one := h c member
  simp only [List.mem_cons, List.not_mem_nil, or_false] at one
  rcases one with rfl | rfl | rfl | rfl <;> rfl

theorem blank_nil : Blank [] := fun _ member => absurd member List.not_mem_nil

/-- Blanks are skipped up to the first character that is none. -/
theorem skipSpaces_append (blank : Blank front) (visible : isSpace c = false) :
    skipSpaces (front ++ c :: rest) = c :: rest := by
  have stop : ¬ isSpace c = true := by rw [visible]; exact Bool.false_ne_true
  rw [skipSpaces, List.dropWhile_append_of_pos blank.isSpace, List.dropWhile_cons_of_neg stop]

/-- A number ends before a blank. -/
theorem Blank.endsNumber (blank : Blank front) (ends : EndsNumber rest) :
    EndsNumber (front ++ rest) := by
  cases front with
  | nil => exact ends
  | cons c front =>
    have one := blank c List.mem_cons_self
    simp only [List.mem_cons, List.not_mem_nil, or_false] at one
    rcases one with rfl | rfl | rfl | rfl <;>
      exact endsNumber_cons rfl (by decide) (by decide) (by decide)

namespace Reader

variable {α β : Type} {r : Reader α} {a : α} {b : β}

/-- What is not blank comes next, however many blanks stand before it. -/
theorem reads_peek_behind (blank : Blank front) (visible : isSpace c = false) :
    Reads peek (front ++ c :: rest) (some c) (c :: rest) := by
  have read : StateT.run peek (front ++ c :: rest) =
      .ok ((skipSpaces (front ++ c :: rest)).head?, skipSpaces (front ++ c :: rest)) := rfl
  rw [Reads, read, skipSpaces_append blank visible]
  rfl

/-- The reader takes the text, with blanks before it, whatever follows that cannot go on with a
number. -/
def Takes (r : Reader α) (text : List Char) (a : α) : Prop :=
  ∀ ⦃front rest : List Char⦄, Blank front → EndsNumber rest →
    Reads r (front ++ (text ++ rest)) a rest

/-- What is taken is put into something larger. -/
theorem Takes.into {put : α → β} (h : Takes r text a) (made : put a = b) :
    Takes (do return put (← r)) text b := by
  intro front rest blank ends
  exact (h blank ends).bind (made ▸ reads_pure (put a) rest)

/-- What begins with a peek reads on from the first character that is not blank. -/
theorem Takes.of_peek {k : Option Char → Reader α} (visible : isSpace c = false)
    (h : ∀ ⦃rest⦄, EndsNumber rest → Reads (k (some c)) (c :: (cs ++ rest)) a rest) :
    Takes (peek >>= k) (c :: cs) a := by
  intro front rest blank ends
  rw [List.cons_append]
  exact (reads_peek_behind blank visible).bind (h ends)

/-- The reader of a whole text takes a value with blanks around it. -/
theorem run_of_takes {whole : String} {inner : List Char} (h : Takes r inner a)
    (before : Blank front) (after : Blank behind)
    (spelled : whole.toList = front ++ (inner ++ behind)) : r.run whole = .ok a := by
  have ends : EndsNumber behind := by
    have none := after.endsNumber endsNumber_nil
    rwa [List.append_nil] at none
  have finish : Reads finished behind () [] := by
    have blank : skipSpaces behind = [] := by
      rw [← List.append_nil behind, skipSpaces, List.dropWhile_append_of_pos after.isSpace,
        List.dropWhile_nil]
    have peeked : StateT.run peek behind = .ok ((skipSpaces behind).head?, skipSpaces behind) := rfl
    rw [blank] at peeked
    exact Reads.bind (r := peek) peeked rfl
  have all : Reads (do let a ← r; finished; return a) whole.toList a [] := by
    rw [spelled]
    exact (h before ends).bind (finish.bind (reads_pure a []))
  unfold Reads at all
  rw [Reader.run, StateT.run'_eq, all]
  rfl

end Reader

open Reader

/-! ### Strings -/

theorem SpellsDigit.lt {c : Char} (h : SpellsDigit c n) : n < 16 := by
  rcases h with lower | upper
  · exact (List.getElem?_eq_some_iff.mp lower).1
  · exact (List.getElem?_eq_some_iff.mp upper).1

/-- A digit in either letter case has its value. -/
theorem SpellsDigit.hexValue? {c : Char} (h : SpellsDigit c n) : Text.hexValue? c = some n := by
  have small := h.lt
  -- the digit is one of sixteen, in one of two cases
  rcases h with lower | upper
  · interval_cases n <;> (obtain rfl := Option.some.inj lower; rfl)
  · interval_cases n <;> (obtain rfl := Option.some.inj upper; rfl)

/-- Four digits are read as their number. -/
theorem SpellsUnit.readUnit_append (h : SpellsUnit text n) (rest : List Char) :
    readUnit (text ++ rest) = .ok (n, rest) := by
  obtain ⟨first, second, third, fourth⟩ := h
  simp only [List.cons_append, List.nil_append, readUnit, first.hexValue?, second.hexValue?,
    third.hexValue?, fourth.hexValue?]

/-- The number of a character is not that of half a pair. -/
theorem not_isLeading_toNat (c : Char) :
    isLeading c.toNat = false ∧ isTrailing c.toNat = false := by
  have valid : c.toNat < 0xD800 ∨ 0xDFFF < c.toNat ∧ c.toNat < 0x110000 := c.valid
  constructor
  · rw [isLeading, Bool.and_eq_false_iff, decide_eq_false_iff_not, decide_eq_false_iff_not]
    omega
  · rw [isTrailing, Bool.and_eq_false_iff, decide_eq_false_iff_not, decide_eq_false_iff_not]
    omega

/-- A character by its number. -/
theorem readNumbered_unit (h : SpellsUnit text c.toNat) (rest : List Char) :
    readNumbered (text ++ rest) = .ok (c, rest) := by
  obtain ⟨leading, trailing⟩ := not_isLeading_toNat c
  rw [readNumbered, h.readUnit_append]
  simp [leading, trailing, bind, Except.bind, pure, Except.pure]

/-- A character beyond sixteen bits, by the numbers of both halves of its pair. -/
theorem readNumbered_pair {ds es : List Char} {m : Nat} (leading : SpellsUnit ds (0xD800 + n))
    (trailing : SpellsUnit es (0xDC00 + m)) (above : n < 0x400) (below : m < 0x400)
    (number : c.toNat = 0x10000 + n * 0x400 + m) (rest : List Char) :
    readNumbered (ds ++ '\\' :: 'u' :: (es ++ rest)) = .ok (c, rest) := by
  have first : isTrailing (0xD800 + n) = false ∧ isLeading (0xD800 + n) = true := by
    simp only [isTrailing, isLeading, Bool.and_eq_false_iff, Bool.and_eq_true,
      decide_eq_false_iff_not, decide_eq_true_eq]
    omega
  have second : isTrailing (0xDC00 + m) = true := by
    simp only [isTrailing, Bool.and_eq_true, decide_eq_true_eq]
    omega
  have sum : (0xD800 + n - 0xD800) * 0x400 + (0xDC00 + m - 0xDC00) + 0x10000 = c.toNat := by omega
  rw [readNumbered, leading.readUnit_append]
  simp only [bind, Except.bind, first.1, first.2, Bool.false_eq_true, if_false, if_true,
    trailing.readUnit_append, second, sum, Char.ofNat_toNat, pure, Except.pure]

/-- What `readText` reads if it reads this character and goes on. -/
def followedBy (c : Char) (text : Except Fault (List Char × List Char)) :
    Except Fault (List Char × List Char) :=
  text.map fun r => (c :: r.1, r.2)

/-! What the reader of a string does with one character: behind a backslash with a letter, by
itself, or behind a backslash by its number. -/

theorem readText_named (fuel : Nat) (rest : List Char) {e c : Char} (letter : e ≠ 'u')
    (escape : namedEscape? e = some c) :
    readText (fuel + 1) ('\\' :: e :: rest) = followedBy c (readText fuel rest) := by
  rw [readText.eq_def]
  simp only [Char.reduceEq, ↓reduceIte, escape]
  cases readText fuel rest <;> rfl

theorem readText_self (fuel : Nat) (rest : List Char) {c : Char} (quote : c ≠ '\"')
    (backslash : c ≠ '\\') (high : ¬c.val < 32) :
    readText (fuel + 1) (c :: rest) = followedBy c (readText fuel rest) := by
  have visible : isControl c = false := decide_eq_false high
  rw [readText.eq_def]
  simp only [quote, backslash, visible, ↓reduceIte, Bool.false_eq_true]
  cases readText fuel rest <;> rfl

theorem readText_unit {fuel : Nat} {text : List Char}
    (number : readNumbered text = .ok (c, rest)) :
    readText (fuel + 1) ('\\' :: 'u' :: text) = followedBy c (readText fuel rest) := by
  rw [readText.eq_def]
  simp only [Char.reduceEq, ↓reduceIte, number, bind, Except.bind]
  cases readText fuel rest <;> rfl

/-- A letter that stands behind a backslash means its character, and none is the letter for
numbers. -/
theorem namedEscape?_of_mem {e : Char} (h : (e, c) ∈ escapes) :
    e ≠ 'u' ∧ namedEscape? e = some c := by
  have all : ∀ p ∈ escapes, p.1 ≠ 'u' ∧ namedEscape? p.1 = some p.2 := by decide
  exact all (e, c) h

/-- A spelled character is read as this character, and what is behind it is read next. -/
theorem SpellsChar.readText_append (h : SpellsChar text c) (fuel : Nat) (rest : List Char) :
    readText (fuel + 1) (text ++ rest) = followedBy c (readText fuel rest) := by
  cases h with
  | self plain =>
    have high : ¬ c.val < 32 := Nat.not_lt_of_le plain.high
    exact readText_self fuel rest plain.quote plain.backslash high
  | letter escape =>
    obtain ⟨letter, named⟩ := namedEscape?_of_mem escape
    exact readText_named fuel rest letter named
  | number unit => exact readText_unit (readNumbered_unit unit rest)
  | pair leading trailing above below number =>
    rw [List.cons_append, List.cons_append, List.append_assoc, List.cons_append, List.cons_append]
    exact readText_unit (readNumbered_pair leading trailing above below number rest)

/-- The characters of a string are read up to the closing quote. -/
theorem SpellsChars.readText_append (h : SpellsChars text cs) {fuel : Nat}
    (enough : cs.length < fuel) (rest : List Char) :
    readText fuel (text ++ '\"' :: rest) = .ok (cs, rest) := by
  -- a step of the reader takes the whole spelling of a character
  induction h generalizing fuel with
  | nil =>
    obtain ⟨fuel, rfl⟩ := Nat.exists_eq_add_one.mpr enough
    rfl
  | cons first others ih =>
    obtain ⟨fuel, rfl⟩ := Nat.exists_eq_add_one.mpr (Nat.zero_lt_of_lt enough)
    rw [List.append_assoc, first.readText_append, ih (Nat.lt_of_succ_lt_succ enough)]
    rfl

/-- A string is no longer than its spelling. -/
theorem SpellsChars.length_le (h : SpellsChars text cs) : cs.length ≤ text.length := by
  induction h with
  | nil => exact Nat.le_refl 0
  | cons first others ih =>
    have nonempty : ∀ {text c}, SpellsChar text c → 0 < text.length := by
      intro text c spelled
      cases spelled <;> exact Nat.succ_pos _
    rw [List.length_cons, List.length_append]
    have := nonempty first
    omega

/-- Behind its opening quote a spelled string is read as this string. -/
theorem SpellsString.exists_eq_cons {s : String} (h : SpellsString text s) :
    ∃ body, text = '\"' :: body ∧ ∀ rest, readString (body ++ rest) = .ok (s, rest) := by
  obtain ⟨chars⟩ := h
  refine ⟨_, rfl, fun rest => ?_⟩
  rw [List.append_assoc, List.cons_append, List.nil_append, readString, chars.readText_append]
  · exact congrArg (fun s => Except.ok (s, rest)) String.ofList_toList
  · -- the reader counts the characters of the text
    have := chars.length_le
    rw [List.length_append]
    omega

theorem SpellsString.opens {s : String} (h : SpellsString text s) : Opens text := by
  obtain ⟨chars⟩ := h
  exact ⟨'\"', _, rfl, rfl, by decide⟩

/-- However a string is spelled, it is read as the string it is. -/
theorem takes_string {s : String} (h : SpellsString text s) (expected : String) :
    Takes (Reader.string expected) text s := by
  obtain ⟨body, rfl, read⟩ := h.exists_eq_cons
  apply Takes.of_peek rfl
  intro rest _
  exact (reads_advance _ _).bind (reads_ofFunction (read rest))

/-! ### Truth values -/

theorem SpellsBool.opens {b : Bool} (h : SpellsBool text b) : Opens text := by
  obtain rfl := h
  cases b with
  | true => exact ⟨'t', _, rfl, rfl, by decide⟩
  | false => exact ⟨'f', _, rfl, rfl, by decide⟩

/-- A truth value is read by its first character and then as a whole word. -/
theorem takes_bool {b : Bool} (h : SpellsBool text b) : Takes Reader.bool text b := by
  obtain rfl := h
  cases b with
  | true =>
    apply Takes.of_peek rfl
    intro rest _
    exact (reads_literal "true".toList rest).bind (reads_pure _ _)
  | false =>
    apply Takes.of_peek rfl
    intro rest _
    exact (reads_literal "false".toList rest).bind (reads_pure _ _)

/-! ### Items between brackets -/

/-- The end of an array, behind blanks. -/
theorem reads_hasElement_close (blank : Blank front) (first : Bool) (rest : List Char) :
    Reads (hasElement first) (front ++ ']' :: rest) false (']' :: rest) := by
  refine (reads_peek_behind blank rfl).bind ?_
  cases first <;> rfl

/-- The end of an object, behind blanks. -/
theorem reads_hasKey_close (blank : Blank front) (first : Bool) (rest : List Char) :
    Reads (hasKey first) (front ++ '\x7d' :: rest) false ('\x7d' :: rest) := by
  refine (reads_peek_behind blank rfl).bind ?_
  cases first <;> rfl

namespace Listing

variable {α : Type} {spells : List Char → α → Prop} {close : Char} {first : Bool} {a : α}
  {as : List α}

theorem length_pos (h : Listing spells close first as text) : 0 < text.length := by
  induction h with
  | close blank => rw [List.length_append]; exact Nat.lt_add_left _ Nat.one_pos
  | first before one others ih => rw [List.length_append, List.length_append]; omega
  | next after before one others ih => rw [List.length_append, List.length_cons]; omega

/-- A number that is the value of an item ends with it. -/
theorem endsNumber (h : Listing spells close false as text)
    (closes : close = ']' ∨ close = '\x7d') (rest : List Char) : EndsNumber (text ++ rest) := by
  cases h with
  | close blank =>
    rw [List.append_assoc]
    apply blank.endsNumber
    rcases closes with rfl | rfl
    all_goals exact endsNumber_cons rfl (by decide) (by decide) (by decide)
  | next after before one others =>
    rw [List.append_assoc]
    apply after.endsNumber
    exact endsNumber_cons rfl (by decide) (by decide) (by decide)

/-- Behind the last element the loop over an array finds the bracket. -/
theorem no_element (h : Listing spells ']' first [] text) (rest : List Char) :
    Reads (hasElement first) (text ++ rest) false (']' :: rest) := by
  cases h with
  | close blank =>
    rw [List.append_assoc]
    exact reads_hasElement_close blank first rest

/-- Before an element the loop over an array steps to its first character. -/
theorem next_element (h : Listing spells ']' first (a :: as) text)
    (opens : ∀ item, spells item a → Opens item) :
    ∃ item tail, spells item a ∧ Opens item ∧ Listing spells ']' false as tail ∧
      item.length + tail.length ≤ text.length ∧
      ∀ rest, Reads (hasElement first) (text ++ rest) true (item ++ (tail ++ rest)) := by
  cases h with
  | @first _ _ front item tail before one others =>
    obtain ⟨c, cs, rfl, visible, more⟩ := opens item one
    refine ⟨_, tail, one, ⟨c, cs, rfl, visible, more⟩, others, ?_, fun rest => ?_⟩
    · simp only [List.length_append]
      omega
    · rw [List.append_assoc, List.append_assoc, List.cons_append]
      refine (reads_peek_behind before visible).bind ?_
      split
      case h_1 none => cases none
      case h_2 close => exact absurd (Option.some.inj close) more
      case h_3 => rfl
      case h_4 => rfl
  | @next _ _ behind front item tail after before one others =>
    obtain ⟨c, cs, rfl, visible, more⟩ := opens item one
    refine ⟨_, tail, one, ⟨c, cs, rfl, visible, more⟩, others, ?_, fun rest => ?_⟩
    · simp only [List.length_append, List.length_cons]
      omega
    · rw [List.append_assoc, List.cons_append, List.append_assoc, List.append_assoc,
        List.cons_append]
      refine (reads_peek_behind after rfl).bind ?_
      refine (reads_advance _ _).bind ?_
      refine (reads_peek_behind before visible).bind ?_
      split
      case h_1 close => exact absurd (Option.some.inj close) more
      case h_2 => rfl
      case h_3 none => cases none

/-- Behind the last entry the loop over an object finds the brace. -/
theorem no_entry (h : Listing spells '\x7d' first [] text) (rest : List Char) :
    Reads (hasKey first) (text ++ rest) false ('\x7d' :: rest) := by
  cases h with
  | close blank =>
    rw [List.append_assoc]
    exact reads_hasKey_close blank first rest

/-- Before an entry the loop over an object steps to the quote of its key. -/
theorem next_entry (h : Listing spells '\x7d' first (a :: as) text)
    (quoted : ∀ item, spells item a → ∃ body, item = '\"' :: body) :
    ∃ item tail, spells item a ∧ Listing spells '\x7d' false as tail ∧
      item.length + tail.length ≤ text.length ∧
      ∀ rest, Reads (hasKey first) (text ++ rest) true (item ++ (tail ++ rest)) := by
  cases h with
  | @first _ _ front item tail before one others =>
    obtain ⟨body, rfl⟩ := quoted item one
    refine ⟨_, tail, one, others, ?_, fun rest => ?_⟩
    · simp only [List.length_append]
      omega
    · rw [List.append_assoc, List.append_assoc]
      exact (reads_peek_behind before rfl).bind rfl
  | @next _ _ behind front item tail after before one others =>
    obtain ⟨body, rfl⟩ := quoted item one
    refine ⟨_, tail, one, others, ?_, fun rest => ?_⟩
    · simp only [List.length_append, List.length_cons]
      omega
    · rw [List.append_assoc, List.cons_append, List.append_assoc, List.append_assoc]
      refine (reads_peek_behind after rfl).bind ?_
      refine (reads_advance _ _).bind ?_
      exact (reads_peek_behind before rfl).bind rfl

end Listing

/-- The colon behind a key, with blanks before it. -/
theorem reads_colon_behind (blank : Blank behind) (rest : List Char) :
    Reads colon (behind ++ ':' :: rest) () rest :=
  (reads_peek_behind blank rfl).bind (reads_advance _ _)

end Recordwright.Json
