import Recordwright.Proofs.Json.Number

/-!
# What spells what

One value has many JSON texts: blanks may stand between any two tokens, each character of a string
may be spelled by its number, and the members of an object come in any order.  This file says which
texts are meant, without looking at how texts are read.

* `SpellsString` and `SpellsBool` relate a text to the string or truth value that it spells.
* `Listing` is about what stands behind an opening bracket: items of one kind with commas between
  them, blanks wherever they may be, and the closing bracket.
* `IsValue` holds of every well-formed value.  Nothing is said about what it is the value of, and so
  numbers may be of any size and escapes in strings may name half a pair of units.
* `SpellsRecord` relates a text to what is said of a record's members (`Slot`).  As an object the
  text has these members in any order and may have others; as an array it has them by position, and
  may end before members that need not be said.
-/

namespace Recordwright.Json

/-- Nothing but what may stand between two tokens. -/
def Blank (cs : List Char) : Prop := ∀ c ∈ cs, c ∈ [' ', '\t', '\n', '\r']

/-! ### Strings -/

/-- The letters that stand behind a backslash, each with the character that it means. -/
def escapes : List (Char × Char) :=
  [('\"', '\"'), ('\\', '\\'), ('/', '/'), ('b', '\x08'), ('f', '\x0c'), ('n', '\n'), ('r', '\r'),
   ('t', '\t')]

/-- May the character stand in a string as it is? -/
structure IsPlain (c : Char) : Prop where
  high : 32 ≤ c.toNat
  quote : c ≠ '\"'
  backslash : c ≠ '\\'

/-- A hexadecimal digit of either case. -/
def SpellsDigit (c : Char) (n : Nat) : Prop :=
  "0123456789abcdef".toList[n]? = some c ∨ "0123456789ABCDEF".toList[n]? = some c

/-- Four hexadecimal digits. -/
inductive SpellsUnit : List Char → Nat → Prop
  | mk {a b c d : Char} {i j k l : Nat} (first : SpellsDigit a i) (second : SpellsDigit b j)
      (third : SpellsDigit c k) (fourth : SpellsDigit d l) :
      SpellsUnit [a, b, c, d] (((i * 16 + j) * 16 + k) * 16 + l)

/-- One character of a string. -/
inductive SpellsChar : List Char → Char → Prop
  | self {c : Char} (plain : IsPlain c) : SpellsChar [c] c
  | letter {e c : Char} (escape : (e, c) ∈ escapes) : SpellsChar ['\\', e] c
  | number {ds : List Char} {c : Char} (unit : SpellsUnit ds c.toNat) :
      SpellsChar ('\\' :: 'u' :: ds) c
  /-- A character above the first plane is a pair of units. -/
  | pair {ds es : List Char} {n m : Nat} {c : Char} (leading : SpellsUnit ds (0xD800 + n))
      (trailing : SpellsUnit es (0xDC00 + m)) (above : n < 0x400) (below : m < 0x400)
      (number : c.toNat = 0x10000 + n * 0x400 + m) :
      SpellsChar ('\\' :: 'u' :: (ds ++ '\\' :: 'u' :: es)) c

/-- Characters in a row. -/
inductive SpellsChars : List Char → List Char → Prop
  | nil : SpellsChars [] []
  | cons {text rest cs : List Char} {c : Char} (first : SpellsChar text c)
      (others : SpellsChars rest cs) : SpellsChars (text ++ rest) (c :: cs)

/-- A string between its quotes. -/
inductive SpellsString : List Char → String → Prop
  | mk {body : List Char} {s : String} (chars : SpellsChars body s.toList) :
      SpellsString ('\"' :: (body ++ ['\"'])) s

/-- The inside of a string of which only the form counts. -/
inductive IsStringBody : List Char → Prop
  | nil : IsStringBody []
  | self {c : Char} {rest : List Char} (plain : IsPlain c) (others : IsStringBody rest) :
      IsStringBody (c :: rest)
  | letter {e c : Char} {rest : List Char} (escape : (e, c) ∈ escapes)
      (others : IsStringBody rest) : IsStringBody ('\\' :: e :: rest)
  | number {ds rest : List Char} {n : Nat} (unit : SpellsUnit ds n) (others : IsStringBody rest) :
      IsStringBody ('\\' :: 'u' :: (ds ++ rest))

/-- A string of which only the form counts. -/
inductive IsString : List Char → Prop
  | mk {body : List Char} (chars : IsStringBody body) : IsString ('\"' :: (body ++ ['\"']))

/-! ### Truth values and numbers -/

/-- A truth value. -/
def SpellsBool (text : List Char) (b : Bool) : Prop :=
  text = if b then "true".toList else "false".toList

/-- Digits, one at least. -/
structure IsDigits (ds : List Char) : Prop where
  digits : ∀ c ∈ ds, c.isDigit = true
  nonempty : ds ≠ []

/-- What may stand behind the point of a number, with the point. -/
inductive IsFractionPart : List Char → Prop
  | absent : IsFractionPart []
  | digits {ds : List Char} (h : IsDigits ds) : IsFractionPart ('.' :: ds)

/-- An exponent with its letter. -/
inductive IsExponentPart : List Char → Prop
  | absent : IsExponentPart []
  | digits {e : Char} {sign ds : List Char} (letter : e = 'e' ∨ e = 'E')
      (signs : sign ∈ [[], ['+'], ['-']]) (h : IsDigits ds) : IsExponentPart (e :: (sign ++ ds))

/-- A number of any size and precision. -/
inductive IsNumber : List Char → Prop
  | mk {sign ds fraction exponent : List Char} (signs : sign ∈ [[], ['-']]) (whole : IsNumeral ds)
      (behind : IsFractionPart fraction) (scale : IsExponentPart exponent) :
      IsNumber (sign ++ (ds ++ (fraction ++ exponent)))

/-! ### Items between brackets -/

section Listing

variable {α κ : Type}

/-- Items with commas between them, up to and with the closing bracket.  `first` tells whether no
item stands before them. -/
inductive Listing (spells : List Char → α → Prop) (close : Char) : Bool → List α → List Char → Prop
  | close {first : Bool} {blanks : List Char} (blank : Blank blanks) :
      Listing spells close first [] (blanks ++ [close])
  | first {a : α} {as : List α} {front item tail : List Char} (before : Blank front)
      (one : spells item a) (others : Listing spells close false as tail) :
      Listing spells close true (a :: as) (front ++ (item ++ tail))
  | next {a : α} {as : List α} {behind front item tail : List Char} (after : Blank behind)
      (before : Blank front) (one : spells item a) (others : Listing spells close false as tail) :
      Listing spells close false (a :: as) (behind ++ ',' :: (front ++ (item ++ tail)))

/-- A key, a colon and the text of a value. -/
inductive SpellsEntry (spellsKey : List Char → κ → Prop) : List Char → κ × List Char → Prop
  | mk {text value behind front : List Char} {key : κ} (said : spellsKey text key)
      (after : Blank behind) (before : Blank front) :
      SpellsEntry spellsKey (text ++ (behind ++ ':' :: (front ++ value))) (key, value)

end Listing

/-- Any well-formed value. -/
inductive IsValue : List Char → Prop
  | null : IsValue "null".toList
  | bool (b : Bool) {text : List Char} (spelled : SpellsBool text b) : IsValue text
  | number {text : List Char} (h : IsNumber text) : IsValue text
  | string {text : List Char} (h : IsString text) : IsValue text
  | array {es : List (List Char)} {body : List Char} (listed : Listing Eq ']' true es body)
      (values : ∀ e ∈ es, IsValue e) : IsValue ('[' :: body)
  | object {ms : List (List Char × List Char)} {body : List Char}
      (listed : Listing (SpellsEntry Eq) '\x7d' true ms body) (keys : ∀ m ∈ ms, IsString m.1)
      (values : ∀ m ∈ ms, IsValue m.2) : IsValue ('\x7b' :: body)

/-! ### Records -/

/-- What is said of one member of a record. -/
structure Slot where
  key : String
  /-- The texts of the member's value. -/
  spells : List Char → Prop
  /-- Does the value go without saying? -/
  Omissible : Prop

/-- The texts that entries give to a key, in order. -/
def valuesOf (key : String) (entries : List (String × List Char)) : List (List Char) :=
  (entries.filter (·.1 == key)).map (·.2)

/-- The member is said once, or it is not said and need not be. -/
def Slot.IsSaid (s : Slot) (entries : List (String × List Char)) : Prop :=
  (∃ value, valuesOf s.key entries = [value] ∧ s.spells value) ∨
    valuesOf s.key entries = [] ∧ s.Omissible

/-- A record with these members. -/
inductive SpellsRecord (slots : List Slot) : List Char → Prop
  | object {entries : List (String × List Char)} {body : List Char}
      (listed : Listing (SpellsEntry SpellsString) '\x7d' true entries body)
      (said : ∀ s ∈ slots, s.IsSaid entries)
      (others : ∀ e ∈ entries, (∀ s ∈ slots, s.key ≠ e.1) → IsValue e.2) :
      SpellsRecord slots ('\x7b' :: body)
  | array {written left : List Slot} {body : List Char} (all : slots = written ++ left)
      (listed : Listing (fun text s => s.spells text) ']' true written body)
      (omissible : ∀ s ∈ left, s.Omissible) : SpellsRecord slots ('[' :: body)

/-- A whole text: the value with blanks around it. -/
def Spaced (spells : List Char → Prop) (text : String) : Prop :=
  ∃ front inner behind, Blank front ∧ spells inner ∧ Blank behind ∧
    text.toList = front ++ (inner ++ behind)

end Recordwright.Json
