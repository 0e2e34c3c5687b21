import Recordwright.Source.Type

/-!
# Items in sources

The declaration of a struct, with its attributes, visibility, generic parameters and fields, and the
tokens of its parts.  Of enums and unions only the kind is kept.
-/

namespace Recordwright.Source

/-- What stands behind the path of an attribute. -/
inductive Meta where
  /-- Nothing. -/
  | bare
  /-- A group. -/
  | list (d : Delimiter) (content : List Token)
  /-- An equals sign and a value. -/
  | value (ts : List Token)

/-- An attribute. -/
structure Attribute where
  path : Path
  content : Meta

/-- An attribute in its brackets. -/
def Attribute.bracketed (a : Attribute) : Token :=
  .group .bracket <| a.path.tokens ++
    match a.content with
    | .bare => []
    | .list d ts => [.group d ts]
    | .value ts => Token.mark '=' :: ts

/-- The tokens of an attribute in front of what it speaks of. -/
def Attribute.tokens (a : Attribute) : List Token := [Token.mark '#', a.bracketed]

/-- The tokens of an attribute of what encloses it. -/
def Attribute.innerTokens (a : Attribute) : List Token :=
  [Token.mark '#', Token.mark '!', a.bracketed]

/-- The tokens of attributes in a row. -/
def Attribute.listTokens (as : List Attribute) : List Token := as.flatMap Attribute.tokens

/-- Who may see an item. -/
inductive Visibility where
  /-- Its module. -/
  | inherited
  /-- Everyone. -/
  | everyone
  /-- The module that the tokens in parentheses name. -/
  | within (ts : List Token)

/-- The tokens of a visibility. -/
def Visibility.tokens : Visibility → List Token
  | .inherited => []
  | .everyone => [Token.word "pub"]
  | .within ts => [Token.word "pub", .group .parenthesis ts]

/-- A generic parameter. -/
inductive Parameter where
  | lifetime (attributes : List Attribute) (l : Ident) (bounds : List Ident) (trailing : Bool)
  | type (attributes : List Attribute) (ident : Ident) (bounds : List Bound) (trailing : Bool)
      (default : Option Ty)
  | const (attributes : List Attribute) (ident : Ident) (t : Ty) (default : Option (List Token))

namespace Parameter

/-- Is the parameter a lifetime? -/
def isLifetime : Parameter → Bool
  | .lifetime .. => true
  | _ => false

/-- The tokens of bounds behind their colon; none without bounds. -/
def boundsTokens (bounds : List (List Token)) (trailing : Bool) : List Token :=
  if bounds.isEmpty then [] else Token.mark ':' :: separated [Token.mark '+'] trailing bounds

/-- The tokens of a parameter where it is bound; its default is left out unless asked for. -/
def tokens (defaults : Bool) : Parameter → List Token
  | .lifetime as l bounds trailing =>
    Attribute.listTokens as ++ Lifetime.tokens l ++
      boundsTokens (bounds.map Lifetime.tokens) trailing
  | .type as ident bounds trailing default =>
    Attribute.listTokens as ++ [ident.token] ++ boundsTokens (boundTokens bounds) trailing ++
      (match default with
        | some t => if defaults then Token.mark '=' :: t.tokens else []
        | none => [])
  | .const as ident t default =>
    Attribute.listTokens as ++ [Token.word "const", ident.token, Token.mark ':'] ++ t.tokens ++
      (match default with
        | some ts => if defaults then Token.mark '=' :: ts else []
        | none => [])

/-- The tokens of a parameter where it is used. -/
def useTokens : Parameter → List Token
  | .lifetime _ l _ _ => Lifetime.tokens l
  | .type _ ident _ _ _ => [ident.token]
  | .const _ ident _ _ => [ident.token]

end Parameter

/-- A condition on types or lifetimes. -/
inductive Predicate where
  | lifetime (l : Ident) (bounds : List Ident) (trailing : Bool)
  | type (binder : List Token) (t : Ty) (bounds : List Bound) (trailing : Bool)

/-- The tokens of a condition. -/
def Predicate.tokens : Predicate → List Token
  | .lifetime l bounds trailing =>
    Lifetime.tokens l ++ [Token.mark ':'] ++
      separated [Token.mark '+'] trailing (bounds.map Lifetime.tokens)
  | .type binder t bounds trailing =>
    binder ++ t.tokens ++ [Token.mark ':'] ++
      separated [Token.mark '+'] trailing (boundTokens bounds)

/-- Generic parameters and the conditions on them. -/
structure Generics where
  parameters : List Parameter := []
  trailing : Bool := false
  predicates : List Predicate := []
  predicatesTrailing : Bool := false

namespace Generics

/-- Parameters in angle brackets, lifetimes first; nothing without parameters. -/
def angled (g : Generics) (f : Parameter → List Token) : List Token :=
  if g.parameters.isEmpty then []
  else
    [Token.mark '<'] ++
      lifetimesFirst g.trailing (g.parameters.map fun p => (p.isLifetime, f p)) ++
      [Token.mark '>']

/-- The parameters as they are declared. -/
def declaration (g : Generics) : List Token := g.angled (Parameter.tokens true)

/-- The parameters where an implementation binds them: without defaults. -/
def binding (g : Generics) : List Token := g.angled (Parameter.tokens false)

/-- The parameters where the type is used: names alone. -/
def use (g : Generics) : List Token := g.angled Parameter.useTokens

/-- The conditions; nothing without conditions. -/
def conditions (g : Generics) : List Token :=
  if g.predicates.isEmpty then []
  else
    Token.word "where" ::
      separated [Token.mark ','] g.predicatesTrailing (g.predicates.map Predicate.tokens)

end Generics

/-- A field of a struct. -/
structure Field where
  attributes : List Attribute
  visibility : Visibility
  ident : Ident
  type : Ty

/-- The tokens of a field. -/
def Field.tokens (f : Field) : List Token :=
  Attribute.listTokens f.attributes ++ f.visibility.tokens ++ [f.ident.token, Token.mark ':'] ++
    f.type.tokens

/-- What an item consists of. -/
inductive Body where
  /-- A struct with named fields. -/
  | named (fields : List Field)
  /-- A struct whose fields have no names. -/
  | unnamed
  /-- A struct without a body. -/
  | unit
  | choice
  | overlay

/-- An item. -/
structure Item where
  attributes : List Attribute
  visibility : Visibility
  ident : Ident
  generics : Generics
  body : Body

end Recordwright.Source
