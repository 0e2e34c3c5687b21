import Recordwright.Source.Grammar.Knot

/-!
# Parsing paths

Paths with and without arguments, the bounds on types, attributes, blocks and generic parameters.
-/

namespace Recordwright.Source.Grammar

open Recordwright.Source.Parser

/-! ### Paths without arguments -/

/-- Does a segment of a plain path come next? -/
def peekPlainSegment : Parser Bool := do
  return (← peekIdent) || (← peekWord "super") || (← peekWord "self") || (← peekWord "Self") ||
    (← peekWord "crate")

/-- The segments of a path without arguments. -/
def plainSegments : Nat → Parser (List Segment)
  | 0 => return []
  | fuel + 1 => do
    if ← peekPlainSegment then
      let i ← anyIdent
      if ← mark? "::" then
        if ← peekPlainSegment then return .mk i .none :: (← plainSegments fuel)
        else fail "expected path segment after `::`"
      else return [.mk i .none]
    else
      let _ ← ident
      return []

/-- A path without arguments. -/
def plainPath : Parser Path := do
  let leading ← mark? "::"
  return .mk leading (← plainSegments ((← get).length + 1))

/-! ### Words -/

/-- The plain word as a token, if it comes next. -/
def wordTokens (w : String) : Parser (List Token) :=
  return if ← word? w then [Token.word w] else []

/-- The calling convention of a function, if the word for it comes next. -/
def convention? : Parser (List Token) := do
  if ← word? "extern" then
    match ← get with
    | .literal spelling :: rest =>
      match Literal.ofSpelling spelling with
      | .text _ =>
        set rest
        return [Token.word "extern", .literal spelling]
      | _ => return [Token.word "extern"]
    | _ => return [Token.word "extern"]
  else return []

variable (k : Knot)

/-! ### Attributes -/

/-- What stands behind the path of an attribute. -/
def attributeContent : Parser Meta := do
  match ← get with
  | .group d content :: rest =>
    set rest
    return .list d content
  | ts =>
    if startsWith ['='] ts && !startsWith ['=', '='] ts && !startsWith ['=', '>'] ts then
      let _ ← mark "="
      -- A literal alone is kept as it is; anything longer is an expression.
      match tried? literal (← get) with
      | some ((ts, _), []) =>
        set ([] : List Token)
        return .value ts
      | _ =>
        if (← peekMark "#") && (← peekBehind 1 (peekGroup .bracket)) then
          fail "unexpected attribute inside of attribute"
        else return .value (← k.expression true).tokens
    else return .bare

/-- The path of an attribute. -/
def attributePath : Parser Path := do
  if ← peekWord "unsafe" then return Path.ofIdent (← anyIdent) else plainPath

/-- An attribute in its brackets. -/
def bracketed : Parser Attribute :=
  inside .bracket do
    let path ← attributePath
    return ⟨path, ← attributeContent k⟩

/-- The attributes that come next. -/
def attributes : Parser (List Attribute) :=
  repeated do if ← mark? "#" then return some (← bracketed k) else return none

/-- The tokens of the attributes of what encloses them that come next. -/
def innerAttributes : Parser (List Token) := do
  let as ← repeated do
    if (← peekMark "#") && (← peekBehind 1 (peekMark "!")) then
      let _ ← mark "#"
      let _ ← mark "!"
      return some (← bracketed k)
    else return none
  return as.flatMap Attribute.innerTokens

/-! ### Blocks -/

/-- Statements in curly braces. -/
def block : Parser (List Token) :=
  inside .brace do return [.group .brace (← k.statements)]

/-- Attributes and statements in curly braces. -/
def attributedBlock : Parser (List Token) :=
  inside .brace do
    let as ← innerAttributes k
    return [.group .brace (as ++ (← k.statements))]

/-! ### Arguments in round brackets -/

/-- A literal, a name or a block where a constant is wanted. -/
def constant : Parser (List Token) := do
  if ← peekLiteral then return (← literal).1
  else if ← peekIdent then return [(← ident).token]
  else if ← peekGroup .brace then attributedBlock k
  else failUnnamed

/-- The result behind an arrow. -/
def output (plus : Bool) : Parser (Option Ty) := do
  if ← mark? "->" then return some (← k.type plus) else return none

/-- Arguments in round brackets and the result behind them. -/
def parenthesizedArguments : Parser Arguments := do
  let (inputs, trailing) ← inside .parenthesis (commaSeparated isEmpty (k.type true))
  return .paren inputs trailing (← output k false)

/-- Is there no argument? -/
def noArguments : Arguments → Bool
  | .none => true
  | .angle _ as _ => as.isEmpty
  | .paren .. => false

/-- Do arguments in round brackets come next, possibly behind double colons? -/
def peekParenthesized : Parser Bool := do
  if ← peekGroup .parenthesis then return true
  else if ← peekMark "::" then peekBehind 2 (peekGroup .parenthesis)
  else return false

/-- The path with the arguments in round brackets that come next behind its last segment. -/
def withParenthesized (p : Path) : Parser Path := do
  match p.segments.getLast? with
  | none => return p
  | some last =>
    if noArguments last.arguments && (← peekParenthesized) then
      let _ ← mark? "::"
      let arguments ← parenthesizedArguments k
      return .mk p.leading (p.segments.dropLast ++ [.mk last.ident arguments])
    else return p

/-! ### Bounds -/

/-- The lifetimes that a trait or a function type binds: `for<'a>`. -/
def binder : Parser (List Token) := do
  if ← word? "for" then
    let (parameters, trailing) ← k.parameters false
    let inner := separated [Token.mark ','] trailing (parameters.map (Parameter.tokens true))
    return [Token.word "for", Token.mark '<'] ++ inner ++ [Token.mark '>']
  else return []

/-- Is the trait bound conditionally?  The mark for that is taken. -/
def conditionalMark (allowed : Bool) : Parser Bool := do
  if ← peekGroup .bracket then
    inside .bracket (word "const")
    if allowed then return true else throw (.message "`[const]` is not allowed here")
  else if ← word? "const" then
    if allowed then return true else throw (.message "`const` is not allowed here")
  else return false

/-- A trait as a bound, or nothing if it is bound conditionally. -/
def traitBound (conditional : Bool) : Parser (Option (List Token × Path)) := do
  let before ← binder k
  let isConditional ← conditionalMark conditional
  let relaxed ← mark? "?"
  let behind ← if before.isEmpty && relaxed then binder k else pure []
  let p ← withParenthesized k (← k.path)
  -- A relaxed trait binds nothing, neither before its mark nor behind it.
  if relaxed && !(before ++ behind).isEmpty then
    throw (.message "`for<...>` binder not allowed with `?` trait polarity modifier")
  if isConditional then return none
  else return some ((if relaxed then [Token.mark '?'] else before), p)

/-- The parameters that a bound captures, in angle brackets; the flag marks lifetimes. -/
def capturedUpTo : Nat → Parser (List (Bool × List Token) × Bool)
  | 0 => return ([], false)
  | fuel + 1 => do
    if ← peekMark ">" then return ([], true)
    let first ←
      if ← peekLifetime then pure (true, Lifetime.tokens (← lifetime))
      else if (← peekIdent) || (← peekWord "Self") then pure (false, [(← anyIdent).token])
      else failOneOf ["lifetime", "identifier", "`>`"]
    if ← mark? "," then
      let (more, trailing) ← capturedUpTo fuel
      return (first :: more, trailing)
    else if ← peekMark ">" then return ([first], false)
    else failOneOf ["`,`", "`>`"]

/-- The tokens of captured parameters behind the word `use`, lifetimes first. -/
def captured : Parser (List Token) := do
  word "use"
  let _ ← mark "<"
  let (names, trailing) ← capturedUpTo ((← get).length + 1)
  let _ ← mark ">"
  return [Token.word "use", Token.mark '<'] ++
    lifetimesFirst (trailing && !names.isEmpty) names ++ [Token.mark '>']

/-- A bound.  Captured parameters and conditional traits are allowed in some places only. -/
def bound (capture conditional : Bool) : Parser Bound := do
  if ← peekLifetime then return .lifetime (← lifetime)
  else if ← peekWord "use" then
    let ts ← captured
    if capture then return .verbatim ts
    else throw (.message "`use<...>` precise capturing syntax is not allowed here")
  else
    let before ← get
    let parenthesized ← peekGroup .parenthesis
    let found ←
      if parenthesized then inside .parenthesis (traitBound k conditional)
      else traitBound k conditional
    match found with
    | some (lead, p) => return .view parenthesized lead p
    | none => return .verbatim (← since before)

/-- May a bound follow a plus sign here? -/
def peekBound (conditional : Bool) : Parser Bool := do
  return (← peekAnyIdent) || (← peekMark "::") || (← peekMark "?") || (← peekLifetime) ||
    (← peekGroup .parenthesis) ||
    (conditional && ((← peekGroup .bracket) || (← peekWord "const")))

/-- Bounds joined with plus signs, as long as a bound follows; only one unless `plus`. -/
def bounds (plus capture conditional : Bool) : Parser (List Bound × Bool) := do
  let first ← bound k capture conditional
  if plus && (← peekMark "+") then
    let _ ← mark "+"
    let stop : Parser Bool := return !(← peekBound conditional)
    if ← stop then return ([first], true)
    let (more, trailing) ← plusSeparated stop (bound k capture conditional)
    return (first :: more, trailing)
  else return ([first], false)

/-- Is there a bound that is no lifetime? -/
def anyTrait (bs : List Bound) : Bool :=
  bs.any fun
    | .lifetime _ => false
    | _ => true

/-! ### Arguments in angle brackets -/

/-- Is the type a name with arguments in angle brackets at most? -/
def asName? : Ty → Option (Ident × Arguments)
  | .path (.mk false [.mk i .none]) => some (i, .none)
  | .path (.mk false [.mk i (.angle m as t)]) => some (i, .angle m as t)
  | _ => none

/-- An argument in angle brackets. -/
def argument : Parser Argument := do
  if (← peekLifetime) && !(← peekBehind 1 (peekMark "+")) then return .lifetime (← lifetime)
  else if (← peekLiteral) || (← peekGroup .brace) then return .const (← constant k)
  else
    let t ← k.type true
    match asName? t with
    | none => return .type t
    | some (name, arguments) =>
      if ← mark? "=" then
        if (← peekLiteral) || (← peekGroup .brace) then
          return .equalsConst name arguments (← constant k)
        else return .equals name arguments (← k.type true)
      else if ← mark? ":" then
        let stop : Parser Bool := return (← peekMark ",") || (← peekMark ">")
        let (bs, trailing) ← plusSeparated stop (bound k false true)
        return .bounded name arguments bs trailing
      else return .type t

/-- Arguments in angle brackets, possibly behind double colons. -/
def angleArguments : Parser Arguments := do
  let marked ← mark? "::"
  let _ ← mark "<"
  let (arguments, trailing) ← commaSeparated (peekMark ">") (argument k)
  let _ ← mark ">"
  return .angle marked arguments trailing

/-! ### Paths -/

/-- A segment of a path.  In an expression its arguments follow double colons. -/
def segment (inExpression : Bool) : Parser Segment := do
  if (← peekWord "super") || (← peekWord "self") || (← peekWord "crate") || (← peekWord "try") then
    return .mk (← anyIdent) .none
  else
    let i ← if ← peekWord "Self" then anyIdent else ident
    let opens ←
      -- In an expression a lone angle bracket compares.
      if ← peekMark "<" then
        pure (!inExpression && !(← peekMark "<=") && !(← peekMark "<<="))
      else if ← peekMark "::" then peekBehind 2 (peekMark "<")
      else pure false
    if opens then return .mk i (← angleArguments k) else return .mk i .none

/-- The segments of a path behind the first. -/
def moreSegments (inExpression : Bool) : Parser (List Segment) :=
  repeated do
    -- Double colons before round brackets belong to the arguments, not to a further segment.
    if (← peekMark "::") && !(← peekBehind 2 (peekGroup .parenthesis)) then
      let _ ← mark "::"
      return some (← segment k inExpression)
    else return none

/-- A path. -/
def path (inExpression : Bool) : Parser Path := do
  let leading ← mark? "::"
  let first ← segment k inExpression
  return .mk leading (first :: (← moreSegments k inExpression))

/-- A path that begins with a type in angle brackets, as that type, the trait that it is seen as,
and the segments; or a plain path. -/
def qualifiedPath (inExpression : Bool) : Parser Ty := do
  if ← mark? "<" then
    let self ← k.type true
    let view ← if ← word? "as" then some <$> path k false else pure none
    let _ ← mark ">"
    let _ ← mark "::"
    let first ← segment k inExpression
    let more ← repeated do
      if ← mark? "::" then return some (← segment k inExpression) else return none
    return .qualified self view (first :: more)
  else return .path (← path k inExpression)

/-! ### Generic parameters -/

/-- Does the list of bounds on a parameter end here? -/
def peekParameterEnd : Parser Bool := return (← peekMark ",") || (← peekMark ">")

/-- The kinds of generic parameters in the order in which they are looked for. -/
def parameterKinds (blank : Bool) : List String :=
  if blank then ["lifetime", "identifier", "`const`"] else ["identifier", "lifetime", "`const`"]

/-- A generic parameter; `blank` tells whether a blank is one. -/
def parameter (blank : Bool) : Parser Parameter := do
  let as ← attributes k
  if ← peekLifetime then
    let l ← lifetime
    let (bs, trailing) ←
      if ← mark? ":" then plusSeparated peekParameterEnd lifetime else pure ([], false)
    return .lifetime as l bs trailing
  else if ← peekIdent then
    let i ← ident
    let (bs, trailing) ←
      if ← mark? ":" then
        let stop : Parser Bool := return (← peekParameterEnd) || (← peekMark "=")
        plusSeparated stop (bound k false true)
      else pure ([], false)
    let default ← if ← mark? "=" then some <$> k.type true else pure none
    return .type as i bs trailing default
  else if ← word? "const" then
    let i ← ident
    let _ ← mark ":"
    let t ← k.type true
    let default ← if ← mark? "=" then some <$> constant k else pure none
    return .const as i t default
  else if blank && (← peekWord "_") then return .type as (← anyIdent) [] false none
  else failOneOf (parameterKinds blank)

/-- Generic parameters in angle brackets. -/
def parameters (blank : Bool) : Parser (List Parameter × Bool) := do
  let _ ← mark "<"
  let ps ← commaSeparated (peekMark ">") (parameter k blank)
  let _ ← mark ">"
  return ps

end Recordwright.Source.Grammar
