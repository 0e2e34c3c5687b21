import Recordwright.Source.Grammar.Generics
import Recordwright.Source.Grammar.Pattern

/-!
# Parsing expressions

Expressions stand for the lengths of arrays and the values of constants.  An expression is kept as
its tokens, with the marks of each operator joined; what operators it has matters only for where it
ends and which operators may follow.

An operand is read with its leading operators and what follows it closely; `continued` then reads
the operators between operands, from those that bind most tightly outwards.
-/

namespace Recordwright.Source.Grammar

open Recordwright.Source.Parser

variable (k : Knot)

/-! ### Operators -/

/-- How tightly an operator binds. -/
inductive Tightness where
  | loosest
  | assignment
  | range
  | or
  | and
  | comparison
  | bitOr
  | bitXor
  | bitAnd
  | shift
  | sum
  | product
  | cast
  deriving DecidableEq, Repr

/-- The rank of a tightness: the larger, the tighter. -/
def Tightness.rank : Tightness → Nat
  | .loosest => 0
  | .assignment => 1
  | .range => 2
  | .or => 3
  | .and => 4
  | .comparison => 5
  | .bitOr => 6
  | .bitXor => 7
  | .bitAnd => 8
  | .shift => 9
  | .sum => 10
  | .product => 11
  | .cast => 12

/-- The operators between two operands.  An operator comes before those that it begins with. -/
def operators : List (String × Tightness) :=
  [("+=", .assignment), ("-=", .assignment), ("*=", .assignment), ("/=", .assignment),
   ("%=", .assignment), ("^=", .assignment), ("&=", .assignment), ("|=", .assignment),
   ("<<=", .assignment), (">>=", .assignment), ("&&", .and), ("||", .or), ("<<", .shift),
   (">>", .shift), ("==", .comparison), ("<=", .comparison), ("!=", .comparison),
   (">=", .comparison), ("+", .sum), ("-", .sum), ("*", .product), ("/", .product),
   ("%", .product), ("^", .bitXor), ("&", .bitAnd), ("|", .bitOr), ("<", .comparison),
   (">", .comparison)]

/-- The operator between two operands that comes next. -/
def peekOperator : Parser (Option (String × Tightness)) := do
  let ts ← get
  return operators.find? fun (m, _) => startsWith m.toList ts

/-- Does the sign that gives a value come next? -/
def peekAssignment : Parser Bool := return (← peekMark "=") && !(← peekMark "=>")

/-- How tightly what comes next binds. -/
def peekTightness : Parser Tightness := do
  match ← peekOperator with
  | some (_, tightness) => return tightness
  | none =>
    if ← peekAssignment then return .assignment
    else if ← peekMark ".." then return .range
    else if ← peekWord "as" then return .cast
    else return .loosest

/-- Does a dot come next that begins no range? -/
def peekDot : Parser Bool := return (← peekMark ".") && !(← peekMark "..")

/-- The marks in front of which the end of a range may be left out. -/
def rangeEnders : List String :=
  [",", ";", "?", "=>", "=", "+", "/", "%", "^", ">", "<=", "!=", "-=", "*=", "&=", "|=", "<<="]

/-- Is the end of a range left out here?  `braces` tells whether a brace begins an operand. -/
def peekRangeEnd (braces : Bool) : Parser Bool := do
  if (← isEmpty) || (← peekDot) || (!braces && (← peekGroup .brace)) || (← peekWord "as") then
    return true
  let ts ← get
  return rangeEnders.any fun m => startsWith m.toList ts

/-- Nothing may follow the type of a cast closely. -/
def checkCast : Parser Unit := do
  let what? ←
    if ← peekDot then
      if ← peekBehind 1 (peekWord "await") then pure (some "`.await`")
      else if (← peekBehind 1 peekIdent) &&
          ((← peekBehind 2 (peekGroup .parenthesis)) || (← peekBehind 2 (peekMark "::"))) then
        pure (some "a method call")
      else pure (some "a field access")
    else if ← peekMark "?" then pure (some "`?`")
    else if ← peekGroup .bracket then pure (some "indexing")
    else if ← peekGroup .parenthesis then pure (some "a function call")
    else pure none
  match what? with
  | some what => fail ("casts cannot be followed by " ++ what)
  | none => return

mutual

/-- The expression that begins with `left` and goes on with operators that bind at least as tightly
as `base`. -/
def continued : Nat → Bool → Tightness → Phrase → Parser Phrase
  | 0, _, _, left => return left
  | fuel + 1, braces, base, left => do
    -- A range is no operand.
    if left.form = .range then return left
    match ← peekOperator with
    | some (m, tightness) =>
      if tightness.rank < base.rank then return left
      let compares := tightness = .comparison
      if compares && left.form = .comparison then
        fail "comparison operators cannot be chained"
      else
        let sign ← mark m
        let right ← k.operand braces
        let right ← settled fuel braces tightness right
        let form := if compares then .comparison else .other
        continued fuel braces base (left.joined form (sign ++ right.tokens))
    | none =>
      if base.rank ≤ Tightness.assignment.rank && (← peekAssignment) then
        let sign ← mark "="
        let right ← k.operand braces
        let right ← settled fuel braces .assignment right
        continued fuel braces base (left.joined .other (sign ++ right.tokens))
      else if base.rank ≤ Tightness.range.rank && (← peekMark "..") then
        let sign ← rangeMark false
        return left.ranged (sign ++ (← rangeStop fuel braces sign))
      else if ← word? "as" then
        let t ← k.type false
        checkCast
        continued fuel braces base (left.joined .other (Token.word "as" :: t.tokens))
      else return left

/-- The right operand of an operator of this tightness, gone on with the operators that bind more
tightly.  Assignments go on with assignments. -/
def settled : Nat → Bool → Tightness → Phrase → Parser Phrase
  | 0, _, _, right => return right
  | fuel + 1, braces, tightness, right => do
    let next ← peekTightness
    if tightness.rank < next.rank || (next = .assignment && tightness = .assignment) then
      let before := (← get).length
      let right ← continued fuel braces next right
      -- Nothing is taken behind a range.
      if (← get).length = before then return right else settled fuel braces tightness right
    else return right

/-- The end of a range behind its mark; none where it may be left out. -/
def rangeStop : Nat → Bool → List Token → Parser (List Token)
  | 0, _, _ => return []
  | fuel + 1, braces, sign => do
    if !isClosed sign && (← peekRangeEnd braces) then return []
    else
      let stop ← k.operand braces
      return (← settled fuel braces .range stop).tokens

end

/-- More rounds than `continued` and its companions can take on these tokens. -/
def rounds (ts : List Token) : Nat := 2 * ts.length + 4

/-- The expression that begins with this operand. -/
def withOperators (braces : Bool) (base : Tightness) (first : Phrase) : Parser Phrase := do
  continued k (rounds (← get)) braces base first

/-! ### What follows an operand closely -/

/-- Nothing, an expression, or several with commas between them, in round brackets. -/
def arguments : Parser (List Token) := do
  let (es, trailing) ←
    inside .parenthesis (commaSeparated isEmpty (Phrase.tokens <$> k.expression true))
  return [.group .parenthesis (separated [Token.mark ','] trailing es)]

/-- Splits a spelling at its dots. -/
def splitDots : List Char → List (List Char)
  | [] => [[]]
  | '.' :: rest => [] :: splitDots rest
  | c :: rest =>
    match splitDots rest with
    | first :: more => (c :: first) :: more
    | [] => [[c]]

/-- The positions of members that a floating-point number spells, with dots between them, and
whether a dot follows the last. -/
def positions (negative : Bool) (spelling : String) :
    Except ParseFault (List (List Token) × Bool) :=
  let parts := splitDots spelling.toList
  let trailing := parts.getLast? == some []
  let rec each (negative : Bool) : List (List Char) → Except ParseFault (List (List Token))
    | [] => .ok []
    | part :: rest =>
      match position negative part with
      | .error f => .error f
      | .ok ts => (each false rest).map (ts :: ·)
  (each negative (if trailing then parts.dropLast else parts)).map fun found => (found, trailing)

/-- The positions that come next as a floating-point number, if one does. -/
def positions? : Parser (Option (List (List Token) × Bool)) := do
  match ← get with
  | .literal spelling :: rest =>
    if Literal.isFloating spelling then
      set rest
      return some (← (positions false spelling : Except ParseFault (List (List Token) × Bool)))
    else return none
  | .punct '-' _ :: .literal spelling :: rest =>
    if Literal.isFloating spelling then
      set rest
      return some (← (positions true spelling : Except ParseFault (List (List Token) × Bool)))
    else return none
  | _ => return none

/-- A member behind its dot: awaiting, a method with its arguments, or a field. -/
def access : Parser (List Token) := do
  if ← word? "await" then return [Token.word "await"]
  else
    let (named, name) ← member
    let generic ←
      if named && (← peekMark "::") then pure (← angleArguments k).tokens else pure []
    if named && (!generic.isEmpty || (← peekGroup .parenthesis)) then
      return name ++ generic ++ (← arguments k)
    else return name ++ generic

/-- Members behind a dot.  Positions with a dot between them come as one number. -/
def accesses : Parser (List Token) := do
  let dot ← mark "."
  match ← positions? with
  | none => return dot ++ (← access k)
  | some (found, trailing) =>
    let taken := found.flatMap (dot ++ ·)
    if trailing then return taken ++ dot ++ (← access k) else return taken

/-- What follows an operand: arguments, a member, an index, or a question mark. -/
def trailer? (range : Bool) : Parser (Option (List Token)) := do
  if ← peekGroup .parenthesis then return some (← arguments k)
  else if !range && (← peekDot) then return some (← accesses k)
  else if ← peekGroup .bracket then
    inside .bracket do return some [.group .bracket (← k.expression true).tokens]
  else if !range && (← peekMark "?") then return some (← mark "?")
  else return none

/-- An operand with all that follows it closely. -/
def trailedUpTo : Nat → Phrase → Parser Phrase
  | 0, p => return p
  | fuel + 1, p => do
    match ← trailer? k (p.form = .range) with
    | none => return p
    | some ts => trailedUpTo fuel (.plain (p.tokens ++ ts))

/-- An operand with all that follows it closely. -/
def trailed (p : Phrase) : Parser Phrase := do trailedUpTo k ((← get).length + 1) p

/-! ### Control structures -/

/-- The tokens of a block. -/
def blockPhrase (lead : List Token) (content : Parser (List Token)) : Parser Phrase := do
  return .ofForm .block (lead ++ (← content))

/-- A condition with its block, and what follows otherwise. -/
def conditional : Nat → Parser (List Token)
  | 0 => fail "expected `if`"
  | fuel + 1 => do
    word "if"
    let condition ← k.expression false
    let taken := Token.word "if" :: condition.tokens ++ (← block k)
    if ← word? "else" then
      if ← peekWord "if" then return taken ++ Token.word "else" :: (← conditional fuel)
      else if ← peekGroup .brace then return taken ++ Token.word "else" :: (← block k)
      else failOneOf ["`if`", "curly braces"]
    else return taken

/-- A block that is repeated as long as a condition holds. -/
def whileLoop : Parser (List Token) := do
  word "while"
  let condition ← k.expression false
  return Token.word "while" :: condition.tokens ++ (← attributedBlock k)

/-- A block that is repeated for each of several values. -/
def forLoop : Parser (List Token) := do
  word "for"
  let p ← alternatives k
  word "in"
  let source ← k.expression false
  return Token.word "for" :: p.tokens ++ Token.word "in" :: source.tokens ++
    (← attributedBlock k)

/-- A block that is repeated for ever. -/
def endlessLoop : Parser (List Token) := do
  word "loop"
  return Token.word "loop" :: (← attributedBlock k)

/-- An arm of a match. -/
def arm : Parser (List Token) := do
  let as := Attribute.listTokens (← attributes k)
  let p ← alternatives k
  let guard ←
    if ← word? "if" then pure (Token.word "if" :: (← k.expression true).tokens) else pure []
  let arrow ← mark "=>"
  let body ← k.bounded
  let comma ← do
    if body.needsComma && !(← isEmpty) then mark ","
    else if ← mark? "," then pure [Token.mark ',']
    else pure []
  return as ++ p.tokens ++ guard ++ arrow ++ body.tokens ++ comma

/-- A choice by patterns. -/
def matching : Parser (List Token) := do
  word "match"
  let value ← k.expression false
  let content ← inside .brace do
    let as ← innerAttributes k
    return as ++ (← untilEnd (arm k)).flatten
  return Token.word "match" :: value.tokens ++ [.group .brace content]

/-- A loop or a block behind its label. -/
def labeled : Parser Phrase := do
  let l ← lifetime
  let colon ← mark ":"
  let lead := Lifetime.tokens l ++ colon
  if ← peekWord "while" then blockPhrase lead (whileLoop k)
  else if ← peekWord "for" then blockPhrase lead (forLoop k)
  else if ← peekWord "loop" then blockPhrase lead (endlessLoop k)
  else if ← peekGroup .brace then blockPhrase lead (attributedBlock k)
  else fail "expected loop or block expression"

/-- A block or a control structure that ends with one, if it comes next. -/
def blockLike? : Parser (Option Phrase) := do
  let opens ← peekBehind 1 (peekGroup .brace)
  if ← peekWord "if" then
    return some (← blockPhrase [] (do conditional k ((← get).length + 1)))
  else if ← peekWord "while" then return some (← blockPhrase [] (whileLoop k))
  else if (← peekWord "for") && !(← peekBehind 1 peekParameters) then
    return some (← blockPhrase [] (forLoop k))
  else if ← peekWord "loop" then return some (← blockPhrase [] (endlessLoop k))
  else if ← peekWord "match" then return some (← blockPhrase [] (matching k))
  else if (← peekWord "try") && opens then
    word "try"
    return some (← blockPhrase [Token.word "try"] (block k))
  else if ← peekWord "unsafe" then
    word "unsafe"
    return some (← blockPhrase [Token.word "unsafe"] (attributedBlock k))
  else if (← peekWord "const") && opens then
    word "const"
    return some (← blockPhrase [Token.word "const"] (attributedBlock k))
  else if ← peekGroup .brace then return some (← blockPhrase [] (attributedBlock k))
  else if ← peekLifetime then return some (← labeled k)
  else return none

/-! ### Closures -/

/-- An argument of a closure. -/
def closureInput : Parser (List Token) := do
  let as := Attribute.listTokens (← attributes k)
  let p ← k.pattern
  if ← peekMark ":" then
    let colon ← mark ":"
    return as ++ p.tokens ++ colon ++ (← k.type true).tokens
  else return (p.marked as).tokens

/-- The arguments of a closure up to the bar behind them. -/
def closureInputs : Nat → Parser (List Token)
  | 0 => return []
  | fuel + 1 => do
    if ← peekMark "|" then return []
    let first ← closureInput k
    if ← peekMark "|" then return first
    let comma ← mark ","
    return first ++ comma ++ (← closureInputs fuel)

/-- A closure. -/
def closure (braces : Bool) : Parser Phrase := do
  let lead ← binder k
  let constant ← wordTokens "const"
  let static ← wordTokens "static"
  let async ← wordTokens "async"
  let move ← wordTokens "move"
  let opening ← mark "|"
  let inputs ← closureInputs k ((← get).length + 1)
  let closing ← mark "|"
  let head := lead ++ constant ++ static ++ async ++ move ++ opening ++ inputs ++ closing
  if ← mark? "->" then
    let t ← k.type true
    return .plain (head ++ arrow ++ t.tokens ++ (← block k))
  else return .plain (head ++ (← k.expression braces).tokens)

/-! ### Jumps -/

/-- Does an expression come next? -/
def peekExpression : Parser Bool := do
  let ts ← get
  let begins (m : String) (excluded : List String) : Bool :=
    startsWith m.toList ts && !excluded.any fun e => startsWith e.toList ts
  return ((← peekAnyIdent) && !(← peekWord "as")) || (← peekGroup .parenthesis) ||
    (← peekGroup .bracket) || (← peekGroup .brace) || (← peekLiteral) || begins "!" ["!="] ||
    begins "-" ["-=", "->"] || begins "*" ["*="] || begins "|" ["|="] || begins "&" ["&="] ||
    begins ".." [] || begins "<" ["<=", "<<="] || begins "::" [] || (← peekLifetime) ||
    begins "#" []

/-- The value behind a word, if one is given. -/
def valueBehind (w : String) : Parser Phrase := do
  word w
  let value ← if ← peekExpression then Phrase.tokens <$> k.expression true else pure []
  return .plain (Token.word w :: value)

/-- The end of a loop, possibly with its label and its value. -/
def breaking (braces : Bool) : Parser Phrase := do
  word "break"
  if (← peekLifetime) && (← peekBehind 1 (peekMark ":")) then
    let _ ← k.expression true
    throw (.message "parentheses required")
  let label ← if ← peekLifetime then pure (Lifetime.tokens (← lifetime)) else pure []
  let value ←
    if (← peekExpression) && (braces || !(← peekGroup .brace)) then
      Phrase.tokens <$> k.expression true
    else pure []
  return .plain (Token.word "break" :: label ++ value)

/-- The next round of a loop, possibly with its label. -/
def continuing : Parser Phrase := do
  word "continue"
  let label ← if ← peekLifetime then pure (Lifetime.tokens (← lifetime)) else pure []
  return .plain (Token.word "continue" :: label)

/-- A call in place of the caller. -/
def becoming : Parser Phrase := do
  let before ← get
  word "become"
  let _ ← k.expression true
  return .ofForm .verbatim (← since before)

/-! ### Atoms -/

/-- A form that is built into the language: its tokens are kept as they were written. -/
def builtIn : Parser Unit := do
  let _ ← anyIdent
  let _ ← mark "#"
  let _ ← ident
  inside .parenthesis (set ([] : List Token))

/-- Does a form that is built into the language come next? -/
def peekBuiltIn : Parser Bool :=
  return (← peekWord "builtin") && (← peekBehind 1 (peekMark "#"))

/-- Expressions in square brackets, or one and how often it is repeated. -/
def arrayOf : Parser (List Token) := do
  inside .bracket do
    if ← isEmpty then return [.group .bracket []]
    let first := (← k.expression true).tokens
    if (← isEmpty) || (← peekMark ",") then
      let comma ← if ← mark? "," then pure [Token.mark ','] else pure []
      let (es, trailing) ← commaSeparated isEmpty (Phrase.tokens <$> k.expression true)
      return [.group .bracket (first ++ comma ++ separated [Token.mark ','] trailing es)]
    else if ← mark? ";" then
      return [.group .bracket (first ++ [Token.mark ';'] ++ (← k.expression true).tokens)]
    else failOneOf ["`,`", "`;`"]

/-- A field of a struct and its value. -/
def fieldValue : Parser (List Token) := do
  let as := Attribute.listTokens (← attributes k)
  let (named, name) ← member
  if !named || (← peekMark ":") then
    let colon ← mark ":"
    return as ++ name ++ colon ++ (← k.expression true).tokens
  else return as ++ name

/-- The fields of a struct and their values.  Two dots stand for all others, possibly taken of
another struct. -/
def fieldValues : Nat → Parser (List Token)
  | 0 => return []
  | fuel + 1 => do
    if ← isEmpty then return []
    else if ← mark? ".." then
      let base ← if ← isEmpty then pure [] else Phrase.tokens <$> k.expression true
      return operator ".." ++ base
    else
      let first ← fieldValue k
      if ← isEmpty then return first
      let comma ← mark ","
      return first ++ comma ++ (← fieldValues fuel)

/-- A path, what a macro of that name expands to, or a struct of that name. -/
def named (braces : Bool) : Parser Phrase := do
  let path ← qualifiedPath k true
  match ← expansion? path with
  | some found => return .ofForm (.expansion found.1) (expansionTokens path found)
  | none =>
    if braces && (← peekGroup .brace) then
      let content ← inside .brace do fieldValues k ((← get).length + 1)
      return .plain (path.tokens ++ [.group .brace content])
    else return .plain path.tokens

/-- A pattern and the value that must match it. -/
def letting (braces : Bool) : Parser Phrase := do
  word "let"
  let p ← alternatives k
  let sign ← mark "="
  let value ← k.operand braces
  let value ← withOperators k braces .comparison value
  return .plain (Token.word "let" :: p.tokens ++ sign ++ value.tokens)

/-- Does a closure come next? -/
def peekClosure : Parser Bool := do
  return (← peekMark "|") || (← peekWord "move") ||
    ((← peekWord "for") && (← peekBehind 1 peekParameters)) ||
    ((← peekWord "const") && !(← peekBehind 1 (peekGroup .brace))) || (← peekWord "static") ||
    ((← peekWord "async") &&
      ((← peekBehind 1 (peekMark "|")) || (← peekBehind 1 (peekWord "move"))))

/-- Does a block of its own time come next? -/
def peekAsyncBlock : Parser Bool := do
  return (← peekWord "async") &&
    ((← peekBehind 1 (peekGroup .brace)) ||
      ((← peekBehind 1 (peekWord "move")) && (← peekBehind 2 (peekGroup .brace))))

/-- An operand without leading operators and without what may follow it. -/
def atom (braces : Bool) : Parser Phrase := do
  if ← peekLiteral then return .plain (← literal).1
  else if ← peekAsyncBlock then
    word "async"
    let move ← wordTokens "move"
    return .plain (Token.word "async" :: move ++ (← block k))
  else if ← peekClosure then closure k braces
  else if ← peekBuiltIn then
    let before ← get
    builtIn
    return .ofForm .verbatim (← since before)
  else if (← peekPlainSegment) || (← peekMark "::") || (← peekMark "<") ||
      ((← peekWord "try") &&
        ((← peekBehind 1 (peekMark "!")) || (← peekBehind 1 (peekMark "::")))) then
    named k braces
  else if ← peekGroup .parenthesis then return .plain (← arguments k)
  else if ← peekWord "break" then breaking k braces
  else if ← peekWord "continue" then continuing
  else if ← peekWord "return" then valueBehind k "return"
  else if ← peekWord "become" then becoming k
  else if ← peekGroup .bracket then return .plain (← arrayOf k)
  else if ← peekWord "let" then letting k braces
  else if ← peekWord "yield" then valueBehind k "yield"
  else if ← peekMark ".." then
    let sign ← rangeMark false
    return .ofForm .range (sign ++ (← rangeStop k (rounds (← get)) braces sign))
  else if ← word? "_" then return .plain [Token.word "_"]
  else
    match ← blockLike? k with
    | some p => return p
    | none => fail "expected an expression"

/-! ### Operands and expressions -/

/-- What is between the sign of a reference and what is referred to. -/
def referenceWords : Parser (List Token) := do
  let raw := (← peekWord "raw") &&
    ((← peekBehind 1 (peekWord "mut")) || (← peekBehind 1 (peekWord "const")))
  if raw then
    word "raw"
    let kind ← anyIdent
    return [Token.word "raw", kind.token]
  else wordTokens "mut"

/-- An operand: leading operators, an atom, and what follows it closely. -/
def operand (braces : Bool) : Parser Phrase := do
  let before ← get
  let as := Attribute.listTokens (← attributes k)
  if ← mark? "&" then
    let words ← referenceWords
    return .plain (as ++ Token.mark '&' :: words ++ (← k.operand braces).tokens)
  else if ← mark? "*" then return .plain (as ++ Token.mark '*' :: (← k.operand braces).tokens)
  else if ← mark? "!" then return .plain (as ++ Token.mark '!' :: (← k.operand braces).tokens)
  else if ← mark? "-" then return .plain (as ++ Token.mark '-' :: (← k.operand braces).tokens)
  else
    let first ← atom k braces
    let p ← trailed k first
    if p.form = .verbatim then return .ofForm .verbatim (← since before)
    else if p.form = .range && !as.isEmpty then
      throw (.message "attributes are not allowed on range expressions starting with `..`")
    else return p.marked as

/-- An expression; `braces` tells whether the fields of a struct may follow a path. -/
def expression (braces : Bool) : Parser Phrase := do
  let first ← operand k braces
  withOperators k braces .loosest first

/-- An expression that ends where a statement ends: a block is not gone on with, unless a dot or a
question mark follows it. -/
def bounded : Parser Phrase := do
  let as := Attribute.listTokens (← attributes k)
  let first ←
    match ← blockLike? k with
    | some p => pure p
    | none => operand k true
  if first.form != .block then withOperators k true .loosest (first.marked as)
  else if (← peekDot) || (← peekMark "?") then
    let p ← trailed k first
    withOperators k true .loosest (p.marked as)
  else return first.marked as

end Recordwright.Source.Grammar
