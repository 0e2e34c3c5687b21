import Recordwright.Source.Grammar.Expression

/-!
# Parsing types

A plus sign between bounds belongs to a type only where that is allowed; so `&a + b` is not a
reference to a sum.  A path that is a type takes no arguments in round brackets: those belong to
traits alone.
-/

namespace Recordwright.Source.Grammar

open Recordwright.Source.Parser

variable (k : Knot)

/-! ### Bounds -/

/-- The further bounds behind plus signs; each sign must be followed by a bound. -/
def boundsBehindPlus : Parser (List Bound) :=
  repeated do
    if ← mark? "+" then return some (← bound k false false) else return none

/-- Is the bound a list of captured parameters? -/
def isCaptured : Bound → Bool
  | .verbatim (.ident false "use" :: _) => true
  | _ => false

/-- The bounds of an object type.  One of them must be a trait. -/
def objectBounds (plus : Bool) : Parser (List Bound × Bool) := do
  let (bs, trailing) ← bounds k plus false false
  if anyTrait bs then return (bs, trailing)
  else throw (.message "at least one trait is required for an object type")

/-- A hidden type behind the word `impl`. -/
def hiddenType (plus : Bool) : Parser Ty := do
  word "impl"
  let (bs, trailing) ← bounds k plus true true
  if anyTrait (bs.filter fun b => !isCaptured b) then return .hidden bs trailing
  else throw (.message "at least one trait must be specified")

/-- An object type that begins with the word `dyn`.  With a star it is kept as it was written. -/
def markedObject (plus : Bool) : Parser Ty := do
  let before ← get
  word "dyn"
  let starred ← mark? "*"
  let (bs, trailing) ← objectBounds k plus
  if starred then return .verbatim (← since before) else return .object true bs trailing

/-! ### Types in round brackets -/

/-- The bound that a type in round brackets is, if a plus sign follows. -/
def asBound? : Ty → Option Bound
  | .path p => some (.view true [] p)
  | .object false [.view _ lead p] false => some (.view true lead p)
  | .object false [b] false => some b
  | _ => none

/-- What round brackets hold. -/
inductive Enclosed where
  | done (t : Ty)
  /-- A single type. -/
  | single (t : Ty)
  /-- A relaxed trait. -/
  | relaxed (b : Bound)

/-- The content of round brackets. -/
def enclosed : Parser Enclosed := do
  if ← isEmpty then return .done (.tuple [] false)
  else if ← peekLifetime then
    let (bs, trailing) ← objectBounds k true
    return .done (.paren (.object false bs trailing))
  else if ← peekMark "?" then
    match ← traitBound k false with
    | some (lead, p) => return .relaxed (.view true lead p)
    | none => fail "expected identifier"
  else
    let first ← k.type true
    if ← mark? "," then
      let (more, trailing) ← commaSeparated isEmpty (k.type true)
      return .done (.tuple (first :: more) (more.isEmpty || trailing))
    else return .single first

/-- A type that begins with a round bracket. -/
def parenthesized (plus : Bool) : Parser Ty := do
  match ← inside .parenthesis (enclosed k) with
  | .done t => return t
  | .relaxed b => return .object false (b :: (← boundsBehindPlus k)) false
  | .single t =>
    -- Before a plus sign the brackets surround a bound, not a type.
    if plus && (← peekMark "+") then
      match asBound? t with
      | some b => return .object false (b :: (← boundsBehindPlus k)) false
      | none => return .paren t
    else return .paren t

/-! ### Function types -/

/-- Does the argument that takes any number of values come next? -/
def peekVariadic : Parser Bool := do
  return (← peekMark "...") ||
    (((← peekIdent) || (← peekWord "_")) && (← peekBehind 1 (peekMark ":")) &&
      (← peekBehind 2 (peekMark "...")))

/-- The argument that takes any number of values. -/
def variadic (attributes : List Attribute) : Parser (List Token) := do
  let name ←
    if ← peekMark "..." then pure []
    else
      let i ← anyIdent
      pure (i.token :: (← mark ":"))
  let dots ← mark "..."
  let comma ← if ← mark? "," then pure [Token.mark ','] else pure []
  return Attribute.listTokens attributes ++ name ++ dots ++ comma

/-- An argument of a function type.  The first may be the receiver; one that may change is kept as
it was written. -/
def functionInput (attributes : List Attribute) (first : Bool) : Parser Input := do
  let lead := Attribute.listTokens attributes
  let before ← get
  let mutableSelf : Parser Bool :=
    return first && (← peekWord "mut") && (← peekBehind 1 (peekWord "self"))
  let changes ← mutableSelf
  if changes then word "mut"
  let isSelf := first && (← peekWord "self")
  let mayName := (← peekIdent) || (← peekWord "_") || isSelf
  let named := mayName && (← peekBehind 1 (peekMark ":")) && !(← peekBehind 1 (peekMark "::"))
  let name ←
    if named then
      let name ← anyIdent
      pure (name.token :: (← mark ":"))
    else pure []
  if !(named && isSelf) && (← mutableSelf) then
    word "mut"
    word "self"
    return .mk lead (.verbatim (← since before))
  else if changes && !named then
    word "self"
    return .mk lead (.verbatim (← since before))
  else
    let t ← k.type true
    if changes then return .mk lead (.verbatim (← since before))
    else return .mk (lead ++ name) t

/-- The arguments of a function type, whether a comma follows the last, and the argument that takes
any number of values. -/
def functionInputs : Nat → Bool → Parser (List Input × Bool × Option (List Token))
  | 0, _ => return ([], false, none)
  | fuel + 1, first => do
    if ← isEmpty then return ([], !first, none)
    let as ← attributes k
    if ← peekVariadic then return ([], !first, some (← variadic as))
    let i ← functionInput k as first
    if ← isEmpty then return ([i], false, none)
    let _ ← mark ","
    let (is, trailing, rest) ← functionInputs fuel false
    return (i :: is, trailing, rest)

/-- A function type behind the lifetimes that it binds. -/
def functionType (lead : List Token) : Parser Ty := do
  let inert ← wordTokens "unsafe"
  let convention ← convention?
  word "fn"
  let (inputs, trailing, rest) ←
    inside .parenthesis do functionInputs k ((← get).length + 1) true
  let head := lead ++ inert ++ convention ++ [Token.word "fn"]
  return .function head inputs trailing rest (← output k false)

/-! ### Types that are paths -/

/-- The bounds behind a trait that begins an object type. -/
def boundsBehind (first : Bound) : Nat → Parser (List Bound × Bool)
  | 0 => return ([first], false)
  | fuel + 1 => do
    if ← mark? "+" then
      if ← peekBound false then
        let next ← bound k false false
        let (more, trailing) ← boundsBehind next fuel
        return (first :: more, trailing)
      else return ([first], true)
    else return ([first], false)

/-- A type that is a path, or begins with one. -/
def pathType (lead : List Token) (plus : Bool) : Parser Ty := do
  match ← qualifiedPath k false with
  | .path p =>
    match ← expansion? (.path p) with
    | some (d, content) => return .expansion p d content
    | none =>
      if !lead.isEmpty || (plus && (← peekMark "+")) then
        let first := Bound.view false lead p
        let (bs, trailing) ←
          if plus then boundsBehind k first ((← get).length + 1) else pure ([first], false)
        return .object false bs trailing
      else return .path p
  | t => return t

/-! ### Types -/

/-- Does a path come next? -/
def peekPath : Parser Bool := do
  return (← peekPlainSegment) || (← peekMark "::") || (← peekMark "<")

/-- Does a function type come next? -/
def peekFunction : Parser Bool := do
  return (← peekWord "fn") || (← peekWord "unsafe") || (← peekWord "extern")

/-- A type; `plus` tells whether bounds may be joined with plus signs. -/
def type (plus : Bool) : Parser Ty := do
  let before ← get
  let builtInType : Parser Ty := do
    builtIn
    return .verbatim (← since before)
  if ← peekWord "for" then
    let lead ← binder k
    if ← peekFunction then functionType k lead
    else if ← peekBuiltIn then builtInType
    else if ← peekPlainSegment then pathType k lead plus
    else
      fail "expected one of: identifier, `fn`, `unsafe`, `extern`, `super`, `self`, `Self`, `crate`"
  else if ← peekGroup .parenthesis then parenthesized k plus
  else if ← peekFunction then functionType k []
  else if ← peekBuiltIn then builtInType
  else if ← peekPath then pathType k [] plus
  else if ← peekWord "dyn" then markedObject k plus
  else if ← peekGroup .bracket then
    inside .bracket do
      let element ← k.type true
      if ← mark? ";" then return .array element (← k.expression true).tokens else return .slice element
  else if ← mark? "*" then
    if ← word? "const" then return .pointer false (← k.type false)
    else if ← word? "mut" then return .pointer true (← k.type false)
    else fail "expected `const` or `mut`"
  else if ← mark? "&" then
    let l ← if ← peekLifetime then some <$> lifetime else pure none
    let mutable ← word? "mut"
    return .reference l mutable (← k.type false)
  else if ← mark? "!" then return .never
  else if ← peekWord "impl" then hiddenType k plus
  else if ← word? "_" then return .inferred
  else if ← peekLifetime then
    let (bs, trailing) ← objectBounds k true
    return .object false bs trailing
  else
    fail ("expected one of: `for`, parentheses, `fn`, `unsafe`, `extern`, identifier, `::`, `<`, " ++
      "`dyn`, square brackets, `*`, `&`, `!`, `impl`, `_`, lifetime")

end Recordwright.Source.Grammar
