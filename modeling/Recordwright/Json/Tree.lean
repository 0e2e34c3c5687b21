import Recordwright.Json.Number
import Recordwright.Json.Text

/-!
# JSON values

A JSON value keeps the members of its objects in the order given.  `Tree.compact` writes it without
blanks, `Tree.pretty` with one member or element a line and two spaces for each level.  What is not
a finite number is written `null`.  `Tree.sorted` puts the members of every object into the order of
their keys and keeps the last of those that share one.
-/

namespace Recordwright.Json

/-- A JSON value. -/
inductive Tree where
  | null
  | bool (b : Bool)
  | number (n : Number)
  | string (s : String)
  | array (elements : List Tree)
  | object (members : List (String × Tree))
  deriving Repr

/-- The text of a number. -/
def Number.text : Number → String
  | .integer n => toString n
  | .float x => if x.isFinite then x.text else "null"

namespace Tree

/-- A natural number. -/
def ofNat (n : Nat) : Tree := .number (.integer n)

/-- A list of strings. -/
def ofStrings (ss : List String) : Tree := .array (ss.map .string)

/-- `null` for nothing. -/
def ofOption {α : Type} (f : α → Tree) : Option α → Tree
  | none => .null
  | some a => f a

/-- The texts with a separator between them. -/
def joined (separator : List Char) : List (List Char) → List Char
  | [] => []
  | [t] => t
  | t :: ts => t ++ separator ++ joined separator ts

mutual

/-- The characters of a value, without blanks. -/
def compactChars : Tree → List Char
  | .null => "null".toList
  | .bool b => if b then "true".toList else "false".toList
  | .number n => n.text.toList
  | .string s => writtenText s
  | .array es => '[' :: (joined [','] (compactElements es) ++ [']'])
  | .object ms => '\x7b' :: (joined [','] (compactMembers ms) ++ ['\x7d'])

/-- The characters of each element. -/
def compactElements : List Tree → List (List Char)
  | [] => []
  | e :: es => compactChars e :: compactElements es

/-- The characters of each member. -/
def compactMembers : List (String × Tree) → List (List Char)
  | [] => []
  | (k, v) :: ms => (writtenText k ++ ':' :: compactChars v) :: compactMembers ms

end

/-- A line break and the blanks of the level. -/
def newline (level : Nat) : List Char := '\n' :: List.replicate (2 * level) ' '

mutual

/-- The characters of a value at this level, one element or member a line. -/
def prettyChars (level : Nat) : Tree → List Char
  | .null => "null".toList
  | .bool b => if b then "true".toList else "false".toList
  | .number n => n.text.toList
  | .string s => writtenText s
  | .array [] => ['[', ']']
  | .array (e :: es) =>
    '[' :: (newline (level + 1) ++
      joined (',' :: newline (level + 1)) (prettyElements (level + 1) (e :: es)) ++
      newline level ++ [']'])
  | .object [] => ['\x7b', '\x7d']
  | .object (m :: ms) =>
    '\x7b' :: (newline (level + 1) ++
      joined (',' :: newline (level + 1)) (prettyMembers (level + 1) (m :: ms)) ++
      newline level ++ ['\x7d'])

/-- The characters of each element. -/
def prettyElements (level : Nat) : List Tree → List (List Char)
  | [] => []
  | e :: es => prettyChars level e :: prettyElements level es

/-- The characters of each member. -/
def prettyMembers (level : Nat) : List (String × Tree) → List (List Char)
  | [] => []
  | (k, v) :: ms => (writtenText k ++ [':', ' '] ++ prettyChars level v) :: prettyMembers level ms

end

/-- The text of a value without blanks. -/
def compact (t : Tree) : String := String.ofList (compactChars t)

/-- The text of a value with line breaks. -/
def pretty (t : Tree) : String := String.ofList (prettyChars 0 t)

/-- A member put into its place among members with ascending keys, over one with its key. -/
def placed {α : Type} (k : String) (v : α) : List (String × α) → List (String × α)
  | [] => [(k, v)]
  | (k', v') :: ms =>
    if k < k' then (k, v) :: (k', v') :: ms
    else if k = k' then (k, v) :: ms
    else (k', v') :: placed k v ms

/-- Members by ascending keys; of members with one key the last is kept. -/
def byKey {α : Type} (ms : List (String × α)) : List (String × α) :=
  ms.foldl (fun sorted m => placed m.1 m.2 sorted) []

mutual

/-- The value with the members of each object by ascending keys. -/
def sorted : Tree → Tree
  | .null => .null
  | .bool b => .bool b
  | .number n => .number n
  | .string s => .string s
  | .array es => .array (sortedElements es)
  | .object ms => .object (byKey (sortedMembers ms))

/-- Each element sorted. -/
def sortedElements : List Tree → List Tree
  | [] => []
  | e :: es => sorted e :: sortedElements es

/-- Each member's value sorted. -/
def sortedMembers : List (String × Tree) → List (String × Tree)
  | [] => []
  | (k, v) :: ms => (k, sorted v) :: sortedMembers ms

end

/-- The last member with this key. -/
def member? (key : String) : Tree → Option Tree
  | .object ms => (ms.reverse.find? fun m => m.1 == key).map (·.2)
  | _ => none

end Tree

end Recordwright.Json
