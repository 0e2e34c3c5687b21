import Recordwright.Source.Ident
import Recordwright.Source.Literal

/-!
# Reading tokens

A parser takes what it expects from the front of a list of tokens.  What it says when it fails names
what was expected; at the end of the tokens most failures say that as well.

A group that is not read to its end is noted, and reading goes on.  The first such group is reported
only if nothing else fails.
-/

namespace Recordwright.Source

/-- Why tokens were not read. -/
inductive ParseFault where
  /-- The text is no sequence of tokens. -/
  | noTokens
  /-- Something else was expected; `atEnd` tells whether there was nothing left. -/
  | expected (what : String) (atEnd : Bool)
  /-- A keyword where an identifier was expected. -/
  | keyword (word : String)
  /-- Tokens were left over, in brackets of this kind or outside of any. -/
  | leftOver (d : Option Delimiter)
  /-- A failure with a message of its own. -/
  | message (text : String)
  deriving DecidableEq, Repr

/-- The message of a failure. -/
def ParseFault.text : ParseFault → String
  | .noTokens => "cannot parse string into token stream"
  | .expected what atEnd => if atEnd then "unexpected end of input, " ++ what else what
  | .keyword word => "expected identifier, found keyword `" ++ word ++ "`"
  | .leftOver none => "unexpected token"
  | .leftOver (some d) =>
    "unexpected token, expected `" ++ String.singleton d.closing ++ "`"
  | .message text => text

/-- The kind of brackets around the first group that was not read to its end. -/
abbrev LeftOver := StateT (Option Delimiter) (Except ParseFault)

/-- Takes a result from the front of a list of tokens. -/
abbrev Parser := StateT (List Token) LeftOver

namespace Parser

variable {α β : Type}

/-- Fails; at the end of the tokens the message says so. -/
def fail (what : String) : Parser α := do throw (.expected what (← get).isEmpty)

/-- What is said when one of several things was expected. -/
def oneOf : List String → String
  | [a] => "expected " ++ a
  | [a, b] => "expected " ++ a ++ " or " ++ b
  | as => "expected one of: " ++ ", ".intercalate as

/-- Fails because none of these comes next. -/
def failOneOf (as : List String) : Parser α := fail (oneOf as)

/-- Fails without saying what was expected. -/
def failUnnamed : Parser α := do
  throw (.message (if (← get).isEmpty then "unexpected end of input" else "unexpected token"))

/-- Fails with this message, also at the end of the tokens. -/
def failPlainly (what : String) : Parser α := throw (.expected what false)

/-- Are no tokens left? -/
def isEmpty : Parser Bool := return (← get).isEmpty

/-- Do the tokens begin with these characters, joined to one another? -/
def startsWith : List Char → List Token → Bool
  | [], _ => true
  | [c], .punct d _ :: _ => c == d
  | c :: rest, .punct d true :: ts => c == d && startsWith rest ts
  | _, _ => false

/-- Does this mark come next? -/
def peekMark (mark : String) : Parser Bool := return startsWith mark.toList (← get)

/-- Does this plain word come next? -/
def peekWord (word : String) : Parser Bool := do
  match ← get with
  | .ident false name :: _ => return name == word
  | _ => return false

/-- Does a group in these brackets come next? -/
def peekGroup (d : Delimiter) : Parser Bool := do
  match ← get with
  | .group d' _ :: _ => return d == d'
  | _ => return false

/-- Does an identifier, keyword or not, come next? -/
def peekAnyIdent : Parser Bool := do
  match ← get with
  | .ident .. :: _ => return true
  | _ => return false

/-- Is the identifier with this text no keyword? -/
def isName (raw : Bool) (name : String) : Bool := !Ident.keywords.contains (identText raw name)

/-- Does an identifier that is no keyword come next? -/
def peekIdent : Parser Bool := do
  match ← get with
  | .ident raw name :: _ => return isName raw name
  | _ => return false

/-- Does a lifetime come next? -/
def peekLifetime : Parser Bool := do
  match ← get with
  | .punct '\'' true :: .ident .. :: _ => return true
  | _ => return false

/-- The tokens behind the next one; a lifetime counts as one. -/
def behindNext : List Token → List Token
  | .punct '\'' true :: .ident .. :: rest => rest
  | _ :: rest => rest
  | [] => []

/-- What a parser makes of these tokens, and the rest; nothing if it fails. -/
def tried? (p : Parser α) (ts : List Token) : Option (α × List Token) :=
  match (p.run ts).run none with
  | .ok (found, _) => some found
  | .error _ => none

/-- Looks ahead with a parser behind the next `n` tokens. -/
def peekBehind (n : Nat) (p : Parser Bool) : Parser Bool := do
  match tried? p (n.repeat behindNext (← get)) with
  | some (b, _) => return b
  | none => return false

/-- Would the parser succeed? -/
def peekWith (p : Parser α) : Parser Bool := return (tried? p (← get)).isSome

/-- What a parser gives; if it fails, nothing is taken. -/
def attempt? (p : Parser α) : Parser (Option α) := fun ts left =>
  match (p.run ts).run left with
  | .ok ((a, rest), left) => .ok ((some a, rest), left)
  | .error _ => .ok ((none, ts), left)

/-- The mark's tokens; the last of its characters stands alone. -/
def mark (s : String) : Parser (List Token) := do
  let ts ← get
  if startsWith s.toList ts then
    set (ts.drop s.length)
    return operator s
  else failPlainly ("expected `" ++ s ++ "`")

/-- Takes the mark if it comes next. -/
def mark? (s : String) : Parser Bool := do
  if ← peekMark s then
    let _ ← mark s
    return true
  else return false

/-- Takes a plain word. -/
def word (w : String) : Parser Unit := do
  if ← peekWord w then modify List.tail
  else fail ("expected `" ++ w ++ "`")

/-- Takes the plain word if it comes next. -/
def word? (w : String) : Parser Bool := do
  if ← peekWord w then
    modify List.tail
    return true
  else return false

/-- An identifier that is no keyword. -/
def ident : Parser Ident := do
  match ← get with
  | .ident raw name :: rest =>
    if isName raw name then
      match Ident.ofName? raw name with
      | some i =>
        set rest
        return i
      | none => fail "expected identifier"
    else throw (.keyword (identText raw name))
  | _ => fail "expected identifier"

/-- An identifier or a keyword. -/
def anyIdent : Parser Ident := do
  match ← get with
  | .ident raw name :: rest =>
    match Ident.ofName? raw name with
    | some i =>
      set rest
      return i
    | none => fail "expected ident"
  | _ => fail "expected ident"

/-- A lifetime. -/
def lifetime : Parser Ident := do
  match ← get with
  | .punct '\'' true :: .ident raw name :: rest =>
    match Ident.ofName? raw name with
    | some i =>
      set rest
      return i
    | none => fail "expected lifetime"
  | _ => fail "expected lifetime"

/-- Reads a whole list of tokens. -/
def runAll (p : Parser α) (ts : List Token) : Except ParseFault α :=
  match (p.run ts).run none with
  | .error f => .error f
  | .ok (_, some d) => .error (.leftOver (some d))
  | .ok ((a, rest), none) => if rest.isEmpty then .ok a else .error (.leftOver none)

/-- Notes that tokens are left over in a group, if there are any and no group was noted before. -/
def noteLeftOver (d : Delimiter) : Parser Unit := do
  if !(← get).isEmpty then
    let note : LeftOver Unit := modify (·.or (some d))
    note

/-- Reads the content of a group in these brackets. -/
def inside (d : Delimiter) (p : Parser α) : Parser α := do
  match ← get with
  | .group d' content :: rest =>
    if d = d' then
      set content
      let a ← p
      noteLeftOver d
      set rest
      return a
    else fail (wanted d)
  | _ => fail (wanted d)
where
  /-- What is said when a group is lacking. -/
  wanted : Delimiter → String
    | .parenthesis => "expected parentheses"
    | .bracket => "expected square brackets"
    | .brace => "expected curly braces"

/-- The next group, as it is. -/
def anyGroup : Parser (Delimiter × List Token) := do
  match ← get with
  | .group d content :: rest =>
    set rest
    return (d, content)
  | _ => fail "expected delimiter"

/-- Repeats a parser until it gives nothing, at most `fuel` times. -/
def repeatUpTo (p : Parser (Option α)) : Nat → Parser (List α)
  | 0 => return []
  | fuel + 1 => do
    match ← p with
    | none => return []
    | some a => return a :: (← repeatUpTo p fuel)

/-- Repeats a parser until it gives nothing.  Each round takes a token. -/
def repeated (p : Parser (Option α)) : Parser (List α) := do repeatUpTo p ((← get).length + 1)

/-- Elements up to a stop, with a separator between them; tells whether a separator follows the
last one. -/
def separatedUpTo (stop : Parser Bool) (element : Parser α) (separator : String) :
    Nat → Parser (List α × Bool)
  | 0 => return ([], false)
  | fuel + 1 => do
    if ← stop then return ([], true)
    let a ← element
    if ← stop then return ([a], false)
    let _ ← mark separator
    let (as, trailing) ← separatedUpTo stop element separator fuel
    return (a :: as, trailing)

/-- Repeats a parser up to the end of the tokens.  Each round takes a token. -/
def untilEnd (p : Parser α) : Parser (List α) :=
  repeated do if ← isEmpty then return none else return some (← p)

/-- Elements up to a stop, with commas between them; tells whether a comma follows the last. -/
def commaSeparated (stop : Parser Bool) (element : Parser α) : Parser (List α × Bool) := do
  let (as, trailing) ← separatedUpTo stop element "," ((← get).length + 1)
  return (as, trailing && !as.isEmpty)

/-- Elements with plus signs between them: they end before a stop, or where no plus sign follows. -/
def plusUpTo (stop : Parser Bool) (element : Parser α) : Nat → Parser (List α × Bool)
  | 0 => return ([], false)
  | fuel + 1 => do
    if ← stop then return ([], true)
    let a ← element
    if ← mark? "+" then
      let (as, trailing) ← plusUpTo stop element fuel
      return (a :: as, trailing)
    else return ([a], false)

/-- Elements with plus signs between them; tells whether a plus sign follows the last. -/
def plusSeparated (stop : Parser Bool) (element : Parser α) : Parser (List α × Bool) := do
  let (as, trailing) ← plusUpTo stop element ((← get).length + 1)
  return (as, trailing && !as.isEmpty)

/-- A literal, a truth value, or a negative number: its tokens and what it denotes. -/
def literal : Parser (List Token × Literal) := do
  match ← get with
  | .literal spelling :: rest =>
    set rest
    return ([.literal spelling], .ofSpelling spelling)
  | .ident false "true" :: rest =>
    set rest
    return ([Token.word "true"], .other)
  | .ident false "false" :: rest =>
    set rest
    return ([Token.word "false"], .other)
  | .punct '-' _ :: .literal spelling :: rest =>
    match Literal.ofNegative? spelling with
    | some l =>
      set rest
      return ([Token.mark '-', .literal spelling], l)
    | none => fail "expected literal"
  | _ => fail "expected literal"

/-- Does a literal come next? -/
def peekLiteral : Parser Bool := peekWith literal

/-- The tokens that were taken of these. -/
def since (before : List Token) : Parser (List Token) :=
  return before.take (before.length - (← get).length)

/-- Reads a whole text. -/
def runText (p : Parser α) (source : String) : Except ParseFault α :=
  match Lexer.tokens? source with
  | none => throw .noTokens
  | some ts => p.runAll ts

end Parser

end Recordwright.Source
