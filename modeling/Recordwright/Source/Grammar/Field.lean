import Recordwright.Source.Grammar.Generics

/-!
# Parsing the fields of structs and the choices of enums

Who may see an item, fields with and without names, and the body of a struct.
-/

namespace Recordwright.Source.Grammar

open Recordwright.Source.Parser

variable (k : Knot)

/-! ### Visibility -/

/-- The visibility that comes next. -/
def visibility : Parser Visibility := do
  if ← word? "pub" then
    match ← get with
    | .group .parenthesis content :: rest =>
      match content with
      | [.ident false name] =>
        -- Any other word in the brackets begins a type in round brackets.
        if name = "crate" || name = "self" || name = "super" then
          set rest
          return .within content
        else if name = "in" then within
        else return .everyone
      | .ident false "in" :: _ => within
      | _ => return .everyone
    | _ => return .everyone
  else return .inherited
where
  /-- The path of a module in round brackets. -/
  within : Parser Visibility := do
    let path ← inside .parenthesis do
      word "in"
      plainPath
    return .within (Token.word "in" :: path.tokens)

/-! ### Fields -/

/-- The type of a field that stands for several: its declaration in braces. -/
def nestedBody (fields : Parser (List Field)) : Parser Ty := do
  let before ← get
  let _ ← anyIdent
  let _ ← inside .brace fields
  return .verbatim (← since before)

/-- A field with a name.  `nested` parses the fields of a declaration in place of its type. -/
def namedField (nested : Parser (List Field)) : Parser Field := do
  let as ← attributes k
  let v ← visibility
  let isBlank ← peekWord "_"
  let name ← if isBlank then anyIdent else ident
  let _ ← mark ":"
  let declares := (← peekWord "struct") ||
    ((← peekWord "union") && (← peekBehind 1 (peekGroup .brace)))
  let t ← if isBlank && declares then nestedBody nested else k.type true
  return ⟨as, v, name, t⟩

/-- The fields in braces, at most `fuel` levels of them deep, and whether a comma follows the
last. -/
def fields : Nat → Parser (List Field × Bool)
  | 0 => return ([], false)
  | fuel + 1 =>
    commaSeparated isEmpty (namedField k (Prod.fst <$> fields fuel))

/-- Fields in braces, and whether a comma follows the last. -/
def namedFields : Parser (List Field × Bool) := do
  let fuel := Token.listWeight (← get) + 1
  inside .brace (fields k fuel)

/-- The tokens of fields in braces. -/
def namedFieldTokens : Parser (List Token) := do
  let (fs, trailing) ← namedFields k
  return [.group .brace (separated [Token.mark ','] trailing (fs.map Field.tokens))]

/-- The tokens of a field without a name. -/
def unnamedField : Parser (List Token) := do
  let as ← attributes k
  let v ← visibility
  return Attribute.listTokens as ++ v.tokens ++ (← k.type true).tokens

/-- The tokens of fields in round brackets. -/
def unnamedFields : Parser (List Token) := do
  let (fs, trailing) ← inside .parenthesis (commaSeparated isEmpty (unnamedField k))
  return [.group .parenthesis (separated [Token.mark ','] trailing fs)]

/-! ### Bodies -/

/-- What a struct consists of. -/
inductive StructBody where
  | named (fields : List Field) (trailing : Bool)
  /-- Fields without names, as their tokens. -/
  | unnamed (ts : List Token)
  | unit

/-- What a struct consists of, and the conditions before or behind it. -/
def structBody : Parser (Option (List Predicate × Bool) × StructBody) := do
  let before ← conditions? k
  -- Fields without names come before the conditions, fields with names behind them.
  if before.isNone && (← peekGroup .parenthesis) then
    let ts ← unnamedFields k
    let behind ← conditions? k
    if ← mark? ";" then return (behind, .unnamed ts)
    else if behind.isNone then failOneOf ["`where`", "`;`"]
    else failOneOf ["`;`"]
  else if ← peekGroup .brace then
    let (fs, trailing) ← namedFields k
    return (before, .named fs trailing)
  else if ← mark? ";" then return (before, .unit)
  else if before.isNone then failOneOf ["`where`", "parentheses", "curly braces", "`;`"]
  else failOneOf ["curly braces", "`;`"]

/-- The tokens of one of the choices of an enum.  Its visibility is not kept. -/
def choice : Parser (List Token) := do
  let as ← attributes k
  let _ ← visibility
  let name ← ident
  let content ←
    if ← peekGroup .brace then namedFieldTokens k
    else if ← peekGroup .parenthesis then unnamedFields k
    else pure []
  let value ←
    if ← mark? "=" then pure (Token.mark '=' :: (← k.expression true).tokens) else pure []
  return Attribute.listTokens as ++ [name.token] ++ content ++ value

/-- The tokens of the choices of an enum in braces. -/
def choices : Parser (List Token) := do
  let (cs, trailing) ← inside .brace (commaSeparated isEmpty (choice k))
  return [.group .brace (separated [Token.mark ','] trailing cs)]

end Recordwright.Source.Grammar
