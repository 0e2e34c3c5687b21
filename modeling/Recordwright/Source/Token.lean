import Recordwright.Text.Quoted

/-!
# Tokens

A source text is a list of tokens: identifiers, punctuation characters, literals, and groups of
tokens in brackets.  `Token.text` writes tokens with one blank between them, none behind a
punctuation character that is joined to the next token, and none inside round and square brackets.
-/

namespace Recordwright.Source

/-- The brackets around a group. -/
inductive Delimiter where
  | parenthesis
  | bracket
  | brace
  deriving DecidableEq, Repr

/-- A token. -/
inductive Token where
  /-- An identifier; `raw` tells whether it is marked so as to be no keyword. -/
  | ident (raw : Bool) (name : String)
  /-- A punctuation character; `joined` tells whether it clings to the next token. -/
  | punct (c : Char) (joined : Bool)
  /-- A literal as it is spelled. -/
  | literal (spelling : String)
  /-- The tokens between two brackets. -/
  | group (d : Delimiter) (content : List Token)
  deriving Repr

/-- The opening bracket, with the blank that follows it. -/
def Delimiter.opening : Delimiter → List Char
  | .parenthesis => ['(']
  | .bracket => ['[']
  | .brace => ['\x7b', ' ']

/-- The closing bracket. -/
def Delimiter.closing : Delimiter → Char
  | .parenthesis => ')'
  | .bracket => ']'
  | .brace => '\x7d'

/-- The text of an identifier. -/
def identText (raw : Bool) (name : String) : String := if raw then "r#" ++ name else name

namespace Token

/-- A plain word. -/
def word (name : String) : Token := .ident false name

/-- A punctuation character that stands alone. -/
def mark (c : Char) : Token := .punct c false

/-- Does the token cling to the next one? -/
def isJoined : Token → Bool
  | .punct _ joined => joined
  | _ => false

mutual

/-- The characters of a token. -/
def chars : Token → List Char
  | .ident raw name => (identText raw name).toList
  | .punct c _ => [c]
  | .literal spelling => spelling.toList
  | .group d content =>
    d.opening ++ listChars content ++
      (if d = .brace ∧ content.length ≠ 0 then [' '] else []) ++ [d.closing]

/-- The characters of tokens in a row. -/
def listChars : List Token → List Char
  | [] => []
  | t :: rest =>
    chars t ++ (if t.isJoined || rest.isEmpty then [] else [' ']) ++ listChars rest

end

/-- The text of tokens in a row. -/
def text (ts : List Token) : String := String.ofList (listChars ts)

mutual

/-- The number of tokens in a token, itself included. -/
def weight : Token → Nat
  | .group _ content => listWeight content + 1
  | _ => 1

/-- The number of tokens in a row, those in groups included. -/
def listWeight : List Token → Nat
  | [] => 0
  | t :: rest => weight t + listWeight rest

end

@[simp] theorem listChars_nil : listChars [] = [] := rfl

@[simp] theorem listWeight_nil : listWeight [] = 0 := rfl

theorem listWeight_append (ts us : List Token) :
    listWeight (ts ++ us) = listWeight ts + listWeight us := by
  induction ts with
  | nil => simp
  | cons t ts ih => rw [List.cons_append, listWeight, listWeight, ih, Nat.add_assoc]

end Token

/-- A mark of several characters; the last one stands alone. -/
def operator (s : String) : List Token :=
  match s.toList.reverse with
  | [] => []
  | last :: before => before.reverse.map (Token.punct · true) ++ [Token.punct last false]

/-- The literal of a text between double quotes. -/
def quotedSpelling (s : String) : String :=
  String.ofList ('\"' :: (spell s.toList ++ ['\"']))
where
  /-- A zero before an octal digit is spelled so that the digit does not join it. -/
  spell : List Char → List Char
    | [] => []
    | c :: rest =>
      if c.val = 0 then
        (match rest with
          | d :: _ => if '0' ≤ d ∧ d ≤ '7' then ['\\', 'x', '0', '0'] else ['\\', '0']
          | [] => ['\\', '0']) ++ spell rest
      else Text.quotedForm c ++ spell rest

/-- A text as a literal token. -/
def quotedToken (s : String) : Token := .literal (quotedSpelling s)

end Recordwright.Source
