import Recordwright.Source.Grammar.Declaration
import Recordwright.Source.Grammar.Expression

/-!
# Parsing statements

What a block holds: bindings, declarations, expansions and expressions.  An expression that ends
with a block needs no semicolon, and a statement that begins with a block ends with it.
-/

namespace Recordwright.Source.Grammar

open Recordwright.Source.Parser

variable (k : Knot)

/-- What a statement may begin with when it is a path behind which a macro is expanded. -/
inductive Expanding where
  /-- No such thing. -/
  | no
  /-- A macro in curly braces, which is a statement of its own. -/
  | statement
  /-- A macro that is given a name to declare. -/
  | declaration

/-- Does a macro come next? -/
def peekExpanding : Parser Expanding := do
  match tried? plainPath (← get) with
  | none => return .no
  | some (_, rest) =>
    let behind (n : Nat) (p : Parser Bool) : Bool :=
      ((tried? (peekBehind n p) rest).map (·.1)).getD false
    if !startsWith ['!'] rest then return .no
    else if behind 1 peekIdent || behind 1 (peekWord "try") then return .declaration
    else if behind 1 (peekGroup .brace) && !(behind 2 peekDot || behind 2 (peekMark "?")) then
      return .statement
    else return .no

/-- A macro in curly braces, and the semicolon behind it. -/
def expandingStatement : Parser (List Token) := do
  let path ← plainPath
  let bang ← mark "!"
  let (d, content) ← anyGroup
  let semicolon ← if ← mark? ";" then pure [Token.mark ';'] else pure []
  return path.tokens ++ bang ++ [.group d content] ++ semicolon

/-- A binding: a pattern, its type and its value, and what is done where the pattern does not
match. -/
def binding : Parser (List Token) := do
  word "let"
  let p ← k.pattern
  let type ← if ← mark? ":" then pure (Token.mark ':' :: (← k.type true).tokens) else pure []
  let value ←
    if ← mark? "=" then
      let value ← k.expression true
      let otherwise ←
        if !value.endsWithBraces && (← peekWord "else") then
          word "else"
          pure (Token.word "else" :: (← block k))
        else pure []
      pure (Token.mark '=' :: value.tokens ++ otherwise)
    else pure []
  let semicolon ← mark ";"
  return Token.word "let" :: p.tokens ++ type ++ value ++ semicolon

/-- Does a declaration come next? -/
def peekDeclaration : Parser Bool := do
  let next (n : Nat) (w : String) : Parser Bool := peekBehind n (peekWord w)
  let static := (← next 1 "mut") || (← peekBehind 1 peekIdent)
  let constant :=
    !((← peekBehind 1 (peekGroup .brace)) || (← next 1 "static") ||
      ((← next 1 "async") &&
        !((← next 2 "unsafe") || (← next 2 "extern") || (← next 2 "fn"))) ||
      (← next 1 "move") || (← peekBehind 1 (peekMark "|")))
  let async := (← next 1 "unsafe") || (← next 1 "extern") || (← next 1 "fn")
  return (← peekWord "pub") ||
    ((← peekWord "crate") && !(← peekBehind 1 (peekMark "::"))) || (← peekWord "extern") ||
    (← peekWord "use") || ((← peekWord "static") && static) ||
    ((← peekWord "const") && constant) ||
    ((← peekWord "unsafe") && !(← peekBehind 1 (peekGroup .brace))) ||
    ((← peekWord "async") && async) || (← peekWord "fn") || (← peekWord "mod") ||
    (← peekWord "type") || (← peekWord "struct") || (← peekWord "enum") ||
    ((← peekWord "union") && (← peekBehind 1 peekIdent)) ||
    ((← peekWord "auto") && (← next 1 "trait")) || (← peekWord "trait") ||
    ((← peekWord "default") && ((← next 1 "unsafe") || (← next 1 "impl"))) ||
    (← peekWord "impl") || (← peekWord "macro")

/-- A statement, and whether a semicolon must come before another one. -/
def statement : Parser (List Token × Bool) := do
  let before ← get
  let as ← attributes k
  let lead := Attribute.listTokens as
  match ← peekExpanding with
  | .statement => return (lead ++ (← expandingStatement), false)
  | .declaration => return (← declarationBehind k before as, false)
  | .no =>
    if ← peekWord "let" then return (lead ++ (← binding k), false)
    else if ← peekDeclaration then return (← declarationBehind k before as, false)
    else
      let p := (← bounded k).marked lead
      if ← mark? ";" then return (p.tokens ++ [Token.mark ';'], false)
      else return (p.tokens, p.needsSemicolon)

/-- At most `fuel` statements.  Each takes a token. -/
def statementsUpTo : Nat → Parser (List Token)
  | 0 => return []
  | fuel + 1 => do
    if ← mark? ";" then return Token.mark ';' :: (← statementsUpTo fuel)
    else if ← isEmpty then return []
    else
      let (first, unfinished) ← statement k
      if ← isEmpty then return first
      else if unfinished then fail "unexpected token, expected `;`"
      else return first ++ (← statementsUpTo fuel)

/-- Statements up to the end of the tokens. -/
def statements : Parser (List Token) := do statementsUpTo k ((← get).length + 1)

end Recordwright.Source.Grammar
