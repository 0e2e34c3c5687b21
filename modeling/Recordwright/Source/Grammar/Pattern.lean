import Recordwright.Source.Grammar.Path

/-!
# Parsing patterns

A pattern is what a value is matched against.  It is kept as its tokens; of its form only what the
grammar asks about later is remembered.
-/

namespace Recordwright.Source.Grammar

open Recordwright.Source.Parser

/-! ### Members -/

/-- The least number that is too large for the position of a member. -/
def positionLimit : Nat := 0x100000000

/-- The tokens of the position of a member that is spelled like this. -/
def position (negative : Bool) (spelling : List Char) : Except ParseFault (List Token) :=
  match Literal.digits? spelling with
  | none => .error (.message "expected integer literal")
  | some (value, suffix) =>
    if !suffix.isEmpty then .error (.message "expected unsuffixed integer")
    else if negative then .error (.message "invalid digit found in string")
    else if value < positionLimit then .ok [.literal (toString value)]
    else .error (.message "number too large to fit in target type")

/-- The name of a member, or its position: whether it is a name, and its token. -/
def member : Parser (Bool × List Token) := do
  match ← get with
  | .literal spelling :: rest =>
    match Literal.ofSpelling spelling with
    | .integer .. =>
      set rest
      return (false, ← (position false spelling.toList : Except ParseFault (List Token)))
    | _ => fail expected
  | .punct '-' _ :: .literal spelling :: rest =>
    match Literal.ofNegative? spelling with
    | some (.integer ..) =>
      set rest
      return (false, ← (position true spelling.toList : Except ParseFault (List Token)))
    | _ => fail expected
  | _ => if ← peekIdent then return (true, [(← ident).token]) else fail expected
where
  /-- What is said when a member is lacking. -/
  expected : String := "expected identifier or integer"

variable (k : Knot)

/-! ### Expansions -/

/-- Are all segments of a path without arguments? -/
def isPlain (p : Path) : Bool :=
  p.segments.all fun s =>
    match s.arguments with
    | .none => true
    | _ => false

/-- The brackets behind the mark of a macro of this name, and what they hold, if the mark comes
next. -/
def expansion? (t : Ty) : Parser (Option (Delimiter × List Token)) := do
  match t with
  | .path p =>
    -- `!=` is no sign of an expansion.
    if (← peekMark "!") && !(← peekMark "!=") && isPlain p then
      let _ ← mark "!"
      return some (← anyGroup)
    else return none
  | _ => return none

/-- The tokens of what a macro of this name expands to. -/
def expansionTokens (t : Ty) (found : Delimiter × List Token) : List Token :=
  t.tokens ++ [Token.mark '!', .group found.1 found.2]

/-! ### Ranges -/

/-- Two dots, or two dots and an equals sign; `dots` tells whether three dots stand for the
latter. -/
def rangeMark (dots : Bool) : Parser (List Token) := do
  if ← peekMark "..=" then mark "..="
  else if ← peekMark "..." then
    if dots then
      let _ ← mark "..."
      return operator "..="
    else failOneOf ["`..=`"]
  else mark ".."

/-- Is the end of the range part of it? -/
def isClosed (sign : List Token) : Bool := sign.length == 3

/-- The end of a range of patterns; nothing where it is left out. -/
def rangeBound : Parser (Option (List Token)) := do
  if (← isEmpty) || (← peekMark "|") || (← peekMark "=") ||
      ((← peekMark ":") && !(← peekMark "::")) || (← peekMark ",") || (← peekMark ";") ||
      (← peekWord "if") then
    return none
  else if ← peekLiteral then return some (← literal).1
  else if (← peekPlainSegment) || (← peekMark "::") || (← peekMark "<") then
    return some (← qualifiedPath k true).tokens
  else if ← peekWord "const" then
    word "const"
    return some (Token.word "const" :: (← attributedBlock k))
  else
    failOneOf
      ["literal", "identifier", "`::`", "`<`", "`self`", "`Self`", "`super`", "`crate`", "`const`"]

/-- The range that begins with these tokens. -/
def rangeFrom (start : List Token) : Parser Pattern := do
  let sign ← rangeMark true
  match ← rangeBound k with
  | some stop => return ⟨start ++ sign ++ stop, .range true⟩
  | none =>
    if isClosed sign then fail "expected range upper bound"
    else return ⟨start ++ sign, .range false⟩

/-- A range without a start, or two dots alone. -/
def rangeTo : Parser Pattern := do
  let sign ← rangeMark false
  match ← rangeBound k with
  | some stop => return ⟨sign ++ stop, .range false⟩
  | none =>
    if isClosed sign then fail "expected range upper bound" else return ⟨sign, .rest⟩

/-- A literal or a constant, alone or as the start of a range. -/
def constantPattern : Parser Pattern := do
  match ← rangeBound k with
  | none => fail "expected literal"
  | some start =>
    if ← peekMark ".." then rangeFrom k start else return { tokens := start }

/-! ### Alternatives -/

/-- Does another alternative follow? -/
def peekAlternative : Parser Bool := do
  return (← peekMark "|") && !(← peekMark "||") && !(← peekMark "|=")

/-- Alternatives, possibly behind a bar. -/
def alternatives : Parser Pattern := do
  let leading ← mark? "|"
  let first ← k.pattern
  let more ← repeated do
    if ← peekAlternative then
      let bar ← mark "|"
      return some (bar ++ (← k.pattern).tokens)
    else return none
  if leading || !more.isEmpty then
    let bar := if leading then [Token.mark '|'] else []
    return { tokens := bar ++ first.tokens ++ more.flatten }
  else return first

/-- Alternatives with commas between them, and whether a comma follows the last. -/
def patternList : Parser (List Pattern × Bool) := commaSeparated isEmpty (alternatives k)

/-- Patterns with commas between them. -/
def listTokens (ps : List Pattern × Bool) : List Token :=
  separated [Token.mark ','] ps.2 (ps.1.map (·.tokens))

/-! ### Patterns of structure -/

/-- The pattern of a field. -/
def fieldPattern : Parser (List Token) := do
  let before ← get
  let boxed ← word? "box"
  let referred ← word? "ref"
  let changing ← word? "mut"
  let marked := boxed || referred || changing
  let (named, name) ← if marked then pure (true, [(← ident).token]) else member
  if (!marked && (← peekMark ":")) || !named then
    let colon ← mark ":"
    return name ++ colon ++ (← alternatives k).tokens
  else if boxed then since before
  else
    return (if referred then [Token.word "ref"] else []) ++
      (if changing then [Token.word "mut"] else []) ++ name

/-- The patterns of fields, at most `fuel` of them.  Two dots stand for all others. -/
def fieldPatterns : Nat → Parser (List Token)
  | 0 => return []
  | fuel + 1 => do
    if ← isEmpty then return []
    let as := Attribute.listTokens (← attributes k)
    if ← peekMark ".." then return as ++ (← mark "..")
    let first ← fieldPattern k
    if ← isEmpty then return as ++ first
    let comma ← mark ","
    return as ++ first ++ comma ++ (← fieldPatterns fuel)

/-- A pattern that begins with a path. -/
def pathPattern : Parser Pattern := do
  let path ← qualifiedPath k true
  match ← expansion? path with
  | some found => return { tokens := expansionTokens path found }
  | none =>
    if ← peekGroup .brace then
      inside .brace do
        let content ← fieldPatterns k ((← get).length + 1)
        return { tokens := path.tokens ++ [.group .brace content] }
    else if ← peekGroup .parenthesis then
      let content ← inside .parenthesis (patternList k)
      return { tokens := path.tokens ++ [.group .parenthesis (listTokens content)] }
    else if ← peekMark ".." then rangeFrom k path.tokens
    else return { tokens := path.tokens }

/-- A name for the value, and the pattern that it must match as well. -/
def namePattern : Parser Pattern := do
  let referred ← word? "ref"
  let changing ← word? "mut"
  let name ← if ← peekWord "self" then anyIdent else ident
  let inner ←
    if ← mark? "@" then pure (Token.mark '@' :: (← k.pattern).tokens) else pure []
  return { tokens :=
    (if referred then [Token.word "ref"] else []) ++
      (if changing then [Token.word "mut"] else []) ++ [name.token] ++ inner }

/-- A pattern in square brackets.  A range without one of its ends must have brackets around it. -/
def slicePattern : Parser Pattern := do
  let content ← inside .bracket <| commaSeparated isEmpty do
    let p ← alternatives k
    if p.form = .range false then
      throw (.message "range pattern is not allowed unparenthesized inside slice pattern")
    else return p
  return { tokens := [.group .bracket (listTokens content)] }

/-! ### Patterns -/

/-- Does a pattern that begins with a path come next, and not just a name? -/
def peekPathPattern : Parser Bool := do
  let opens := (← peekBehind 1 (peekMark "::")) || (← peekBehind 1 (peekMark "!")) ||
    (← peekBehind 1 (peekGroup .brace)) || (← peekBehind 1 (peekGroup .parenthesis)) ||
    (← peekBehind 1 (peekMark ".."))
  return ((← peekIdent) && opens) ||
    ((← peekWord "self") && (← peekBehind 1 (peekMark "::"))) || (← peekMark "::") ||
    (← peekMark "<") || (← peekWord "Self") || (← peekWord "super") || (← peekWord "crate")

/-- A pattern without alternatives. -/
def pattern : Parser Pattern := do
  if ← peekPathPattern then pathPattern k
  else if ← word? "_" then return { tokens := [Token.word "_"] }
  else if ← peekWord "box" then
    let before ← get
    word "box"
    let _ ← k.pattern
    return ⟨← since before, .verbatim⟩
  else if (← peekMark "-") || (← peekLiteral) || (← peekWord "const") then constantPattern k
  else if (← peekWord "ref") || (← peekWord "mut") || (← peekWord "self") || (← peekIdent) then
    namePattern k
  else if ← mark? "&" then
    let changing := if ← word? "mut" then [Token.word "mut"] else []
    return { tokens := Token.mark '&' :: changing ++ (← k.pattern).tokens }
  else if ← peekGroup .parenthesis then
    let content ← inside .parenthesis (patternList k)
    return { tokens := [.group .parenthesis (listTokens content)] }
  else if ← peekGroup .bracket then slicePattern k
  else if (← peekMark "..") && !(← peekMark "...") then rangeTo k
  else
    -- Three dots begin no pattern, but they do begin with two dots.
    let dots := if ← peekMark ".." then [] else ["`..`"]
    failOneOf
      (["identifier", "`::`", "`<`", "`_`", "literal", "`const`", "`ref`", "`mut`", "`&`",
        "parentheses", "square brackets"] ++ dots ++ ["`const`"])

end Recordwright.Source.Grammar
