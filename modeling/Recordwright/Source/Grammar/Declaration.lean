import Recordwright.Source.Grammar.Field
import Recordwright.Source.Grammar.Pattern

/-!
# Parsing declarations inside of blocks

A block may declare functions, types, constants, modules, traits and implementations.  A declaration
is kept as its tokens.  Some forms that have no meaning, or none yet, are accepted as well; those
are kept as they were written, and so are not put in order.
-/

namespace Recordwright.Source.Grammar

open Recordwright.Source.Parser

variable (k : Knot)

/-- The tokens of a declaration, or that it is kept as it was written. -/
inductive Declared where
  | tokens (ts : List Token)
  | asWritten

/-- The tokens of a declaration, of which `before` was to be read, with attributes in front. -/
def declared (before : List Token) (as : List Attribute) : Declared → Parser (List Token)
  | .tokens ts => return Attribute.listTokens as ++ ts
  | .asWritten => since before

/-- An identifier, or the blank. -/
def identOrBlank : Parser (List Token) := do
  if (← peekIdent) || (← peekWord "_") then return [(← anyIdent).token]
  else failOneOf ["identifier", "`_`"]

/-- What a declaration is called instead. -/
def newName : Parser (List Token) := do
  if (← peekIdent) || (← peekWord "_") then return [(← anyIdent).token]
  else fail "expected identifier or underscore"

/-- The result behind an arrow. -/
def resultTokens : Parser (List Token) := return outputTokens (← output k true)

/-! ### Functions -/

/-- Does the head of a function come next?  `safe` tells whether it may be called safe. -/
def peekHead (safe : Bool) : Parser Bool :=
  peekBehind 0 do
    let _ ← word? "const"
    let _ ← word? "async"
    if safe && (← peekWord "safe") then word "safe"
    else
      let _ ← word? "unsafe"
    let _ ← convention?
    peekWord "fn"

/-- The receiver of a method. -/
def receiver : Parser (List Token) := do
  let reference ←
    if ← mark? "&" then
      let l ← if ← peekLifetime then pure (Lifetime.tokens (← lifetime)) else pure []
      pure (Token.mark '&' :: l)
    else pure []
  let changing ← wordTokens "mut"
  word "self"
  let type ←
    if reference.isEmpty && (← peekMark ":") then
      pure ((← mark ":") ++ (← k.type true).tokens)
    else pure []
  return reference ++ changing ++ [Token.word "self"] ++ type

/-- An argument of a function. -/
inductive FunctionArgument where
  | receiver (ts : List Token)
  | typed (ts : List Token)
  /-- It takes any number of values. -/
  | variadic (ts : List Token)

/-- An argument of a function. -/
def functionArgument : Parser FunctionArgument := do
  let as := Attribute.listTokens (← attributes k)
  if ← peekMark "..." then return .variadic (as ++ (← mark "..."))
  match ← attempt? (receiver k) with
  | some ts => return .receiver (as ++ ts)
  | none =>
    -- A type alone has a blank for its name.
    if (← peekIdent) && (← peekBehind 1 (peekMark "<")) then
      return .typed (as ++ [Token.word "_", Token.mark ':'] ++ (← k.type true).tokens)
    else
      let p ← k.pattern
      let colon ← mark ":"
      if ← peekMark "..." then return .variadic (as ++ p.tokens ++ colon ++ (← mark "..."))
      else return .typed (as ++ p.tokens ++ colon ++ (← k.type true).tokens)

/-- The arguments of a function.  Only the first may be the receiver. -/
def functionArguments (received : Bool) : Nat → Bool → Parser (List Token)
  | 0, _ => return []
  | fuel + 1, first => do
    if ← isEmpty then return []
    match ← functionArgument k with
    | .variadic ts => if ← isEmpty then return ts else return ts ++ (← mark ",")
    | .receiver ts =>
      if received then throw (.message "unexpected second method receiver")
      else if !first then throw (.message "unexpected method receiver")
      else if ← isEmpty then return ts
      else
        let comma ← mark ","
        return ts ++ comma ++ (← functionArguments true fuel false)
    | .typed ts =>
      if ← isEmpty then return ts
      else
        let comma ← mark ","
        return ts ++ comma ++ (← functionArguments received fuel false)

/-- The head of a function up to its body, and whether it is called safe. -/
def head (safe : Bool) : Parser (List Token × Bool) := do
  let constant ← wordTokens "const"
  let async ← wordTokens "async"
  let inert ← wordTokens "unsafe"
  let isSafe ← if safe && inert.isEmpty then word? "safe" else pure false
  let convention ← convention?
  word "fn"
  let name ← ident
  let g ← generics k
  let inputs ← inside .parenthesis do functionArguments k false ((← get).length + 1) true
  let result ← resultTokens k
  let g := g.withConditions (← conditions? k)
  return (constant ++ async ++ inert ++ convention ++ [Token.word "fn", name.token] ++
    g.declaration ++ [.group .parenthesis inputs] ++ result ++ g.conditions, isSafe)

/-- A function behind its visibility. -/
def function (lead : List Token) : Parser Declared := do
  let (ts, _) ← head k false
  if ← mark? ";" then return .asWritten else return .tokens (lead ++ ts ++ (← attributedBlock k))

/-! ### Types with bounds and definitions -/

/-- Where the conditions of a type may stand. -/
inductive Place where
  | beforeDefinition
  | behindDefinition
  | either
  deriving DecidableEq, Repr

/-- The parts of a type with bounds or a definition; its visibility belongs to the head. -/
structure NamedType where
  head : List Token
  /-- Does a colon follow the head? -/
  bounded : Bool
  bounds : List Token
  definition : Option (List Token)
  conditions : List Token

/-- Bounds joined with plus signs, up to a stop. -/
def boundsUpTo (stop : Parser Bool) : Parser (List Token) := do
  let (bs, trailing) ←
    separatedUpTo stop (bound k false true) "+" ((← get).length + 1)
  return separated [Token.mark '+'] (trailing && !bs.isEmpty) (boundTokens bs)

/-- A type with bounds or a definition. -/
def namedType (default : Bool) (place : Place) : Parser NamedType := do
  let v ← visibility
  let lead ← if default then wordTokens "default" else pure []
  word "type"
  let name ← ident
  let g ← generics k
  let bounded ← mark? ":"
  let bounds ←
    if bounded then
      boundsUpTo k (return (← peekWord "where") || (← peekMark "=") || (← peekMark ";"))
    else pure []
  let before ← if place ≠ .behindDefinition then conditions? k else pure none
  let definition ← if ← mark? "=" then some <$> (Ty.tokens <$> k.type true) else pure none
  let behind ←
    if place ≠ .beforeDefinition && before.isNone then conditions? k else pure none
  let _ ← mark ";"
  let g := g.withConditions (before.or behind)
  return {
    head := v.tokens ++ lead ++ [Token.word "type", name.token] ++ g.declaration
    bounded
    bounds
    definition
    conditions := g.conditions }

/-! ### Macros -/

/-- A macro with the name that it declares. -/
def macroDeclaration (name : Bool) : Parser (List Token) := do
  let path ← plainPath
  let bang ← mark "!"
  let name ←
    if !name then pure []
    else if (← peekWord "try") || (← peekIdent) then pure [(← anyIdent).token]
    else pure []
  let (d, content) ← anyGroup
  let semicolon ← if d = .brace then pure [] else mark ";"
  return path.tokens ++ bang ++ name ++ [.group d content] ++ semicolon

/-- The rules of a macro, which are kept as they were written. -/
def ruledMacro : Parser Declared := do
  word "macro"
  let _ ← ident
  let inputs ← peekGroup .parenthesis
  if inputs then
    let _ ← anyGroup
  if ← peekGroup .brace then
    let _ ← anyGroup
    return .asWritten
  else if inputs then failOneOf ["curly braces"]
  else failOneOf ["parentheses", "curly braces"]

/-- Does the path of a macro come next? -/
def peekMacro : Parser Bool := do
  return (← peekIdent) || (← peekWord "self") || (← peekWord "super") || (← peekWord "crate") ||
    (← peekMark "::")

/-! ### Imports -/

/-- The tree of what is imported, and whether the forms that begin at the root occur inside of
braces, which is kept as it was written. -/
def importTree : Nat → Bool → Parser (List Token × Bool)
  | 0, _ => fail "expected identifier"
  | fuel + 1, root => do
    if (← peekIdent) || (← peekWord "self") || (← peekWord "super") || (← peekWord "crate") ||
        (← peekWord "try") then
      let name ← anyIdent
      if ← mark? "::" then
        let (ts, _) ← importTree fuel false
        return (name.token :: colons ++ ts, false)
      else if ← word? "as" then return ([name.token, Token.word "as"] ++ (← newName), false)
      else return ([name.token], false)
    else if ← mark? "*" then return ([Token.mark '*'], false)
    else if ← peekGroup .brace then
      inside .brace do
        let (trees, trailing) ← commaSeparated isEmpty do
          let rooted ← if root then mark? "::" else pure false
          let (ts, deeper) ← importTree fuel (root && !rooted)
          return (ts, rooted || deeper)
        let ts := separated [Token.mark ','] trailing (trees.map (·.1))
        return ([.group .brace ts], trees.any (·.2))
    else
      failOneOf ["identifier", "`self`", "`super`", "`crate`", "`try`", "`*`", "curly braces"]

/-- An import behind its visibility. -/
def importing (lead : List Token) : Parser Declared := do
  word "use"
  let leading ← mark? "::"
  let (ts, rooted) ← importTree (Token.listWeight (← get) + 1) (!leading)
  let semicolon ← mark ";"
  if rooted then return .asWritten
  else
    return .tokens (lead ++ [Token.word "use"] ++ (if leading then colons else []) ++ ts ++
      semicolon)

/-- The import of a library behind its visibility. -/
def libraryImport (lead : List Token) : Parser Declared := do
  word "extern"
  word "crate"
  let name ← if ← peekWord "self" then anyIdent else ident
  let rename ←
    if ← word? "as" then
      let name ← if ← peekWord "_" then anyIdent else ident
      pure [Token.word "as", name.token]
    else pure []
  let semicolon ← mark ";"
  return .tokens (lead ++ [Token.word "extern", Token.word "crate", name.token] ++ rename ++
    semicolon)

/-! ### Constants -/

/-- A constant behind the word for it: its name, its type and its value; `plain` tells whether it
is generic in nothing. -/
structure Constant where
  tokens : List Token
  plain : Bool
  valued : Bool

/-- A constant behind the word for it. -/
def constantBehind : Parser Constant := do
  let name ← identOrBlank
  let g? ← parameters? k
  let colon ← mark ":"
  let t ← k.type true
  let value ←
    if ← mark? "=" then pure (Token.mark '=' :: (← k.expression true).tokens) else pure []
  let where? ← conditions? k
  let semicolon ← mark ";"
  return ⟨name ++ colon ++ t.tokens ++ value ++ semicolon, g?.isNone && where?.isNone,
    !value.isEmpty⟩

/-- A constant behind its visibility. -/
def constantDeclaration (lead : List Token) : Parser Declared := do
  word "const"
  let c ← constantBehind k
  if c.plain && c.valued then return .tokens (lead ++ Token.word "const" :: c.tokens)
  else return .asWritten

/-- A value with an address, behind its visibility. -/
def static (lead : List Token) : Parser Declared := do
  word "static"
  let changing ← wordTokens "mut"
  let name ← ident
  if ← mark? "=" then
    let _ ← k.expression true
    let _ ← mark ";"
    return .asWritten
  else
    let colon ← mark ":"
    let t ← k.type true
    if ← mark? ";" then return .asWritten
    else
      let sign ← mark "="
      let value ← k.expression true
      let semicolon ← mark ";"
      return .tokens (lead ++ [Token.word "static"] ++ changing ++ [name.token] ++ colon ++
        t.tokens ++ sign ++ value.tokens ++ semicolon)

/-! ### Structs, enums and unions -/

/-- A struct behind its visibility. -/
def structDeclaration (lead : List Token) : Parser Declared := do
  word "struct"
  let name ← ident
  let g ← generics k
  let (where?, body) ← structBody k
  let g := g.withConditions where?
  let start := lead ++ [Token.word "struct", name.token] ++ g.declaration
  match body with
  | .named fs trailing =>
    return .tokens (start ++ g.conditions ++
      [.group .brace (separated [Token.mark ','] trailing (fs.map Field.tokens))])
  | .unnamed ts => return .tokens (start ++ ts ++ g.conditions ++ [Token.mark ';'])
  | .unit => return .tokens (start ++ g.conditions ++ [Token.mark ';'])

/-- An enum or a union behind its visibility. -/
def bracedDeclaration (w : String) (body : Parser (List Token)) (lead : List Token) :
    Parser Declared := do
  word w
  let name ← ident
  let g ← generics k
  let g := g.withConditions (← conditions? k)
  return .tokens (lead ++ [Token.word w, name.token] ++ g.declaration ++ g.conditions ++
    (← body))

/-- A name for a type behind its visibility. -/
def typeName : Parser Declared := do
  let t ← namedType k false .beforeDefinition
  match t.definition with
  | some definition =>
    if t.bounded then return .asWritten
    else
      return .tokens (t.head ++ t.conditions ++ [Token.mark '='] ++ definition ++
        [Token.mark ';'])
  | none => return .asWritten

/-! ### Traits -/

/-- Inner attributes and members in curly braces. -/
def members (one : Parser (List Token)) : Parser (List Token) :=
  inside .brace do
    let as ← innerAttributes k
    return [.group .brace (as ++ (← untilEnd one).flatten)]

/-- A member of a trait. -/
def traitMember : Parser (List Token) := do
  let before ← get
  let as ← attributes k
  let v ← visibility
  let default ← word? "default"
  let isPlain := v.tokens.isEmpty && !default
  let found : Declared ← do
    if ← peekHead false then
      let (ts, _) ← head k false
      if ← peekGroup .brace then pure (.tokens (ts ++ (← attributedBlock k)))
      else if ← mark? ";" then pure (.tokens (ts ++ [Token.mark ';']))
      else failOneOf ["curly braces", "`;`"]
    else if ← peekWord "const" then
      let start ← get
      word "const"
      if (← peekIdent) || (← peekWord "_") then
        let c ← constantBehind k
        pure (if c.plain then .tokens (Token.word "const" :: c.tokens) else .asWritten)
      else if (← peekWord "async") || (← peekWord "unsafe") || (← peekWord "extern") then
        set start
        pure (.tokens (← head k false).1)
      else failOneOf ["identifier", "`_`", "`async`", "`unsafe`", "`extern`", "`fn`"]
    else if ← peekWord "type" then
      let t ← namedType k false .behindDefinition
      let definition := match t.definition with
        | some ts => Token.mark '=' :: ts
        | none => []
      let bounds := if t.bounds.isEmpty then [] else Token.mark ':' :: t.bounds
      pure (.tokens (t.head ++ bounds ++ definition ++ t.conditions ++ [Token.mark ';']))
    else if isPlain && (← peekMacro) then pure (.tokens (← macroDeclaration false))
    else if isPlain then
      failOneOf
        ["`fn`", "`const`", "`type`", "identifier", "`self`", "`super`", "`crate`", "`::`"]
    else failOneOf ["`fn`", "`const`", "`type`"]
  declared before as (if isPlain then found else .asWritten)

/-- A trait behind its name: its bounds, its conditions and its members. -/
def traitBehind (lead : List Token) (g : Generics) : Parser Declared := do
  let bounds ←
    if ← mark? ":" then boundsUpTo k (return (← peekWord "where") || (← peekGroup .brace))
    else pure []
  let g := g.withConditions (← conditions? k)
  return .tokens (lead ++ g.declaration ++
    (if bounds.isEmpty then [] else Token.mark ':' :: bounds) ++ g.conditions ++
    (← members k (traitMember k)))

/-- Another name for bounds, behind the name. -/
def traitAliasBehind (lead : List Token) (g : Generics) : Parser Declared := do
  let sign ← mark "="
  let bounds ← boundsUpTo k (return (← peekWord "where") || (← peekMark ";"))
  let g := g.withConditions (← conditions? k)
  let semicolon ← mark ";"
  return .tokens (lead ++ g.declaration ++ sign ++ bounds ++ g.conditions ++ semicolon)

/-- A trait behind its visibility, possibly marked. -/
def traitDeclaration (lead : List Token) : Parser Declared := do
  let inert ← wordTokens "unsafe"
  let auto ← wordTokens "auto"
  word "trait"
  let name ← ident
  let g ← generics k
  let start := lead ++ inert ++ auto ++ [Token.word "trait", name.token]
  if !inert.isEmpty || !auto.isEmpty then traitBehind k start g
  else if (← peekGroup .brace) || (← peekMark ":") || (← peekWord "where") then
    traitBehind k start g
  else if ← peekMark "=" then traitAliasBehind k start g
  else failOneOf ["curly braces", "`:`", "`where`", "`=`"]

/-! ### Implementations -/

/-- A member of an implementation. -/
def implementationMember : Parser (List Token) := do
  let before ← get
  let as ← attributes k
  let start ← get
  let v ← visibility
  let default ←
    if (← peekWord "default") && !(← peekBehind 1 (peekMark "!")) then wordTokens "default"
    else pure []
  let lead := v.tokens ++ default
  let isPlain := lead.isEmpty
  let found : Declared ← do
    if ← peekHead false then
      let (ts, _) ← head k false
      if ← mark? ";" then pure .asWritten
      else pure (.tokens (lead ++ ts ++ (← attributedBlock k)))
    else if ← word? "const" then
      let c ← constantBehind k
      pure (if c.plain && c.valued then .tokens (lead ++ Token.word "const" :: c.tokens)
        else .asWritten)
    else if ← peekWord "type" then
      set start
      let t ← namedType k true .behindDefinition
      match t.definition with
      | some definition =>
        pure (if t.bounded then .asWritten
          else .tokens (t.head ++ [Token.mark '='] ++ definition ++ t.conditions ++
            [Token.mark ';']))
      | none => pure .asWritten
    else if isPlain && (← peekMacro) then pure (.tokens (← macroDeclaration false))
    else if !default.isEmpty then failOneOf ["`fn`", "`const`", "`type`"]
    else if v.tokens.isEmpty then
      failOneOf
        ["`default`", "`fn`", "`const`", "`type`", "identifier", "`self`", "`super`", "`crate`",
         "`::`"]
    else failOneOf ["`default`", "`fn`", "`const`", "`type`"]
  declared before as found

/-- The path that a type is, if it is one. -/
def asTrait? : Ty → Option (List Token)
  | .path p => some p.tokens
  | _ => none

/-- An implementation behind its visibility. -/
def implementation (visible : Bool) : Parser Declared := do
  let default ← wordTokens "default"
  let inert ← wordTokens "unsafe"
  word "impl"
  let g ← if ← peekParameters then generics k else pure {}
  let constant :=
    (← peekWord "const") || ((← peekMark "?") && (← peekBehind 1 (peekWord "const")))
  if constant then
    let _ ← mark? "?"
    word "const"
  let denied ←
    if (← peekMark "!") && !(← peekBehind 1 (peekGroup .brace)) then mark? "!" else pure false
  let first ← k.type true
  let lead := default ++ inert ++ [Token.word "impl"] ++ g.declaration
  let isFor ← word? "for"
  -- What is implemented for a type must be a path.
  let subject? : Option (List Token) ←
    if isFor then
      let t ← k.type true
      pure ((asTrait? first).map fun ts =>
        (if denied then [Token.mark '!'] else []) ++ ts ++ [Token.word "for"] ++ t.tokens)
    else if denied then throw (.message "inherent impls cannot be negative")
    else pure (some first.tokens)
  let g := g.withConditions (← conditions? k)
  let content ← members k (implementationMember k)
  match subject? with
  | some subject =>
    if visible || constant then return .asWritten
    else return .tokens (lead ++ subject ++ g.conditions ++ content)
  | none => return .asWritten

/-! ### Modules and foreign functions -/

/-- A module behind its visibility. -/
def moduleDeclaration (lead : List Token) : Parser Declared := do
  let inert ← wordTokens "unsafe"
  word "mod"
  let name ← if ← peekWord "try" then anyIdent else ident
  let start := lead ++ inert ++ [Token.word "mod", name.token]
  if ← mark? ";" then return .tokens (start ++ [Token.mark ';'])
  else if ← peekGroup .brace then return .tokens (start ++ (← members k k.declaration))
  else failOneOf ["`;`", "curly braces"]

/-- A declaration of something foreign. -/
def foreignMember : Parser (List Token) := do
  let before ← get
  let as ← attributes k
  let start ← get
  let v ← visibility
  let found : Declared ← do
    if ← peekHead true then
      let (ts, safe) ← head k true
      if ← peekGroup .brace then
        let _ ← attributedBlock k
        pure .asWritten
      else
        let semicolon ← mark ";"
        pure (if safe then .asWritten else .tokens (v.tokens ++ ts ++ semicolon))
    else if (← peekWord "static") ||
        (((← peekWord "unsafe") || (← peekWord "safe")) && (← peekBehind 1 (peekWord "static")))
        then
      let inert ← word? "unsafe"
      let safe ← if inert then pure false else word? "safe"
      word "static"
      let changing ← wordTokens "mut"
      let name ← ident
      let colon ← mark ":"
      let t ← k.type true
      let valued ← mark? "="
      if valued then
        let _ ← k.expression true
      let semicolon ← mark ";"
      pure (if inert || safe || valued then .asWritten
        else .tokens (v.tokens ++ [Token.word "static"] ++ changing ++ [name.token] ++ colon ++
          t.tokens ++ semicolon))
    else if ← peekWord "type" then
      set start
      let t ← namedType k false .either
      pure (if t.bounded || t.definition.isSome then .asWritten
        else .tokens (t.head ++ t.conditions ++ [Token.mark ';']))
    else if v.tokens.isEmpty && (← peekMacro) then pure (.tokens (← macroDeclaration false))
    else if v.tokens.isEmpty then
      failOneOf
        ["`fn`", "`static`", "`type`", "identifier", "`self`", "`super`", "`crate`", "`::`"]
    else failOneOf ["`fn`", "`static`", "`type`"]
  declared before as found

/-- Foreign declarations with their calling convention. -/
def foreignBlock : Parser Declared := do
  let inert ← wordTokens "unsafe"
  let convention ← convention?
  if convention.isEmpty then word "extern"
  return .tokens (inert ++ convention ++ (← members k (foreignMember k)))

/-! ### Declarations -/

/-- A declaration behind its attributes; `before` are the tokens from the attributes on. -/
def declarationBehind (before : List Token) (as : List Attribute) : Parser (List Token) := do
  let start ← get
  let v ← visibility
  let lead := v.tokens
  let inherited := lead.isEmpty
  let found ← do
    if ← peekHead false then function k lead
    else if ← peekWord "extern" then
      if ← peekBehind 1 (peekWord "crate") then libraryImport lead
      else
        let convention ← convention?
        if ← peekGroup .brace then
          -- A block of foreign declarations has no visibility.
          set start
          foreignBlock k
        else if convention.length = 1 then
          failOneOf ["`crate`", "curly braces", "string literal"]
        else failOneOf ["curly braces"]
    else if ← peekWord "use" then importing lead
    else if ← peekWord "static" then static k lead
    else if ← peekWord "const" then constantDeclaration k lead
    else if ← peekWord "unsafe" then
      let next (w : String) : Parser Bool := peekBehind 1 (peekWord w)
      if (← next "trait") || ((← next "auto") && (← peekBehind 2 (peekWord "trait"))) then
        traitDeclaration k lead
      else if ← next "impl" then implementation k !inherited
      else if ← next "extern" then
        set start
        foreignBlock k
      else if ← next "mod" then moduleDeclaration k lead
      else
        word "unsafe"
        failOneOf ["`trait`", "`auto`", "`impl`", "`extern`", "`mod`"]
    else if ← peekWord "mod" then moduleDeclaration k lead
    else if ← peekWord "type" then
      set start
      typeName k
    else if ← peekWord "struct" then structDeclaration k lead
    else if ← peekWord "enum" then bracedDeclaration k "enum" (choices k) lead
    else if (← peekWord "union") && (← peekBehind 1 peekIdent) then
      bracedDeclaration k "union" (namedFieldTokens k) lead
    else if (← peekWord "trait") ||
        ((← peekWord "auto") && (← peekBehind 1 (peekWord "trait"))) then
      traitDeclaration k lead
    else if (← peekWord "impl") ||
        ((← peekWord "default") && !(← peekBehind 1 (peekMark "!"))) then
      implementation k !inherited
    else if ← peekWord "macro" then ruledMacro
    else if inherited && (← peekMacro) then .tokens <$> macroDeclaration true
    else if inherited then
      failOneOf (kinds (← get) ++ ["identifier", "`self`", "`super`", "`crate`", "`::`"])
    else failOneOf (kinds (← get))
  declared before as found
where
  /-- The words that begin a declaration, but for the one that is there already. -/
  kinds (ts : List Token) : List String :=
    let found := match ts with
      | .ident false name :: _ => name
      | _ => ""
    let words :=
      ["fn", "extern", "use", "static", "const", "unsafe", "mod", "type", "struct", "enum",
       "union", "trait", "auto", "impl", "default", "macro"]
    (words.filter (· != found)).map fun w => "`" ++ w ++ "`"

/-- A declaration. -/
def declaration : Parser (List Token) := do
  let before ← get
  declarationBehind k before (← attributes k)

end Recordwright.Source.Grammar
