import Recordwright.Json.Tree

/-!
# Reading JSON as a stream

A reader takes what it expects from the front of the text, so the first problem met decides.
Arrays and objects may nest `greatestDepth - 1` deep; a value that is skipped may nest as deep as
the text is long.
-/

namespace Recordwright.Json

/-- Takes a result from the front of a text. -/
abbrev Reader := StateT (List Char) (Except Fault)

/-- The nesting that is too deep. -/
def greatestDepth : Nat := 128

/-- A blank between tokens. -/
def isSpace (c : Char) : Bool := c == ' ' || c == '\n' || c == '\t' || c == '\r'

/-- The text behind its leading blanks. -/
def skipSpaces (cs : List Char) : List Char := cs.dropWhile isSpace

namespace Reader

/-- Fails with a misfit. -/
def misfit {α : Type} (m : Misfit) : Reader α := throw (.misfit m)

/-- The next character behind blanks, left in place. -/
def peek : Reader (Option Char) := do
  let cs := skipSpaces (← get)
  set cs
  return cs.head?

/-- Drops the next character. -/
def advance : Reader Unit := modify List.tail

/-- Takes these characters, none else. -/
def literal : List Char → Reader Unit
  | [] => pure ()
  | c :: rest => do
    match ← get with
    | [] => throw .ended
    | d :: cs =>
      if c = d then
        set cs
        literal rest
      else throw .malformed

/-- A reader from a function on texts. -/
def ofFunction {α : Type} (f : List Char → Except Fault (α × List Char)) : Reader α := f

/-- Describes the value that comes next: the type error where `expected` was wanted.  The value is
read as far as its description needs it. -/
def wrongType {α : Type} (expected : String) : Reader α := do
  match ← peek with
  | some 'n' => literal "null".toList; misfit (.invalidType .null expected)
  | some 't' => literal "true".toList; misfit (.invalidType (.boolean true) expected)
  | some 'f' => literal "false".toList; misfit (.invalidType (.boolean false) expected)
  | some '\"' =>
    advance
    let s ← ofFunction readString
    misfit (.invalidType (.string s) expected)
  | some '[' => misfit (.invalidType .sequence expected)
  | some '\x7b' => misfit (.invalidType .map expected)
  | some c =>
    if c = '-' ∨ (digit? c).isSome then
      match ← ofFunction readNumber with
      | .integer n => misfit (.invalidType (.integer n) expected)
      | .float x => misfit (.invalidType (.float x) expected)
    else throw .malformed
  | none => throw .ended

/-- A string. -/
def string (expected : String) : Reader String := do
  match ← peek with
  | some '\"' => advance; ofFunction readString
  | _ => wrongType expected

/-- A truth value. -/
def bool : Reader Bool := do
  match ← peek with
  | some 't' => literal "true".toList; return true
  | some 'f' => literal "false".toList; return false
  | _ => wrongType "a boolean"

/-- A natural number of sixty-four bits. -/
def size (expected : String) : Reader Nat := do
  match ← peek with
  | some c =>
    if c = '-' ∨ (digit? c).isSome then
      match ← ofFunction readNumber with
      | .integer n =>
        if 0 ≤ n then return n.toNat else misfit (.invalidValue (.integer n) expected)
      | .float x => misfit (.invalidType (.float x) expected)
    else wrongType expected
  | none => throw .ended

/-- `null` or what the reader reads. -/
def option {α : Type} (r : Reader α) : Reader (Option α) := do
  match ← peek with
  | some 'n' => literal "null".toList; return none
  | _ => some <$> r

/-- Steps behind the separator before the next element, or finds the sequence at its end. -/
def hasElement (first : Bool) : Reader Bool := do
  match ← peek with
  | none => throw .ended
  | some ']' => return false
  | some ',' =>
    if first then return true
    else
      advance
      match ← peek with
      | some ']' => throw .malformed
      | some _ => return true
      | none => throw .ended
  | some _ => if first then return true else throw .malformed

/-- Steps to the next key, or finds the object at its end. -/
def hasKey (first : Bool) : Reader Bool := do
  match ← peek with
  | none => throw .ended
  | some '\x7d' => return false
  | some ',' =>
    if first then throw .malformed
    else
      advance
      match ← peek with
      | some '\"' => return true
      | some _ => throw .malformed
      | none => throw .ended
  | some '\"' => if first then return true else throw .malformed
  | some _ => throw .malformed

/-- The key that comes next and the colon behind it; `known` sees the key before the colon is
asked for. -/
def key : Reader String := do
  advance
  ofFunction readString

/-- The colon between a key and its value. -/
def colon : Reader Unit := do
  match ← peek with
  | some ':' => advance
  | some _ => throw .malformed
  | none => throw .ended

/-- The bracket that closes a sequence. -/
def endSequence : Reader Unit := do
  match ← peek with
  | some ']' => advance
  | some _ => throw .malformed
  | none => throw .ended

/-- The brace that closes an object. -/
def endObject : Reader Unit := do
  match ← peek with
  | some '\x7d' => advance
  | some _ => throw .malformed
  | none => throw .ended

mutual

/-- Skips one value. -/
def skip : Nat → Reader Unit
  | 0 => throw .ended
  | fuel + 1 => do
    match ← peek with
    | none => throw .ended
    | some 'n' => literal "null".toList
    | some 't' => literal "true".toList
    | some 'f' => literal "false".toList
    | some '\"' =>
      advance
      ofFunction fun cs => (skipString cs).map fun rest => ((), rest)
    | some '[' => advance; skipElements fuel true
    | some '\x7b' => advance; skipMembers fuel true
    | some c =>
      if c = '-' ∨ (digit? c).isSome then
        ofFunction fun cs => (skipNumber cs).map fun rest => ((), rest)
      else throw .malformed

/-- Skips the elements of a sequence and its end. -/
def skipElements : Nat → Bool → Reader Unit
  | 0, _ => throw .ended
  | fuel + 1, first => do
    if ← hasElement first then
      skip fuel
      skipElements fuel false
    else advance

/-- Skips the members of an object and its end. -/
def skipMembers : Nat → Bool → Reader Unit
  | 0, _ => throw .ended
  | fuel + 1, first => do
    if ← hasKey first then
      advance
      ofFunction fun cs => (skipString cs).map fun rest => ((), rest)
      colon
      skip fuel
      skipMembers fuel false
    else advance

end

/-- Skips one value, however deep. -/
def skipValue : Reader Unit := do skip (2 * (← get).length + 2)

mutual

/-- One value, nested less than `depth` deep. -/
def tree : Nat → Nat → Reader Tree
  | 0, _ => throw .ended
  | fuel + 1, depth => do
    match ← peek with
    | none => throw .ended
    | some 'n' => literal "null".toList; return .null
    | some 't' => literal "true".toList; return .bool true
    | some 'f' => literal "false".toList; return .bool false
    | some '\"' =>
      advance
      return .string (← ofFunction readString)
    | some '[' =>
      if depth ≤ 1 then throw .malformed
      advance
      return .array (← elements fuel (depth - 1) true)
    | some '\x7b' =>
      if depth ≤ 1 then throw .malformed
      advance
      return .object (← members fuel (depth - 1) true)
    | some c =>
      if c = '-' ∨ (digit? c).isSome then return .number (← ofFunction readNumber)
      else throw .malformed

/-- The elements of a sequence and its end. -/
def elements : Nat → Nat → Bool → Reader (List Tree)
  | 0, _, _ => throw .ended
  | fuel + 1, depth, first => do
    if ← hasElement first then
      let e ← tree fuel depth
      return e :: (← elements fuel depth false)
    else
      advance
      return []

/-- The members of an object and its end. -/
def members : Nat → Nat → Bool → Reader (List (String × Tree))
  | 0, _, _ => throw .ended
  | fuel + 1, depth, first => do
    if ← hasKey first then
      let k ← key
      colon
      let v ← tree fuel depth
      return (k, v) :: (← members fuel depth false)
    else
      advance
      return []

end

/-- One value of any type, nested less than `depth` deep. -/
def value (depth : Nat) : Reader Tree := do tree (2 * (← get).length + 2) depth

/-- Nothing but blanks may follow. -/
def finished : Reader Unit := do
  match ← peek with
  | none => pure ()
  | some _ => throw .malformed

/-- The result of a reader on a whole text. -/
def run {α : Type} (r : Reader α) (text : String) : Except Fault α :=
  (do let a ← r; finished; return a : Reader α).run' text.toList

end Reader

/-- The JSON value that a text holds. -/
def Tree.ofText (text : String) : Except Fault Tree :=
  (Reader.value greatestDepth).run text

end Recordwright.Json
