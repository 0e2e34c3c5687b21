import Recordwright.Source.Ident

/-!
# Types in sources

The types that a field can be declared with, and the tokens that they are written as.  Expressions
inside of types, such as the length of an array, are kept as tokens.  Lists remember whether a
separator follows their last element.  Lifetimes are written before the other arguments of a path,
in whatever order they were given.
-/

namespace Recordwright.Source

mutual

/-- A type. -/
inductive Ty where
  /-- `a::b<c>` -/
  | path (p : Path)
  /-- `<a as b>::c` -/
  | qualified (self : Ty) (view : Option Path) (rest : List Segment)
  /-- `&'a mut t` -/
  | reference (lifetime : Option Ident) (mutable : Bool) (target : Ty)
  /-- `*const t` -/
  | pointer (mutable : Bool) (target : Ty)
  /-- `[t]` -/
  | slice (element : Ty)
  /-- `[t; n]` -/
  | array (element : Ty) (length : List Token)
  /-- `(a, b)` -/
  | tuple (elements : List Ty) (trailing : Bool)
  /-- `(t)` -/
  | paren (inner : Ty)
  /-- `fn(a) -> b`, with what precedes the arguments -/
  | function (head : List Token) (inputs : List Input) (trailing : Bool)
      (variadic : Option (List Token)) (output : Option Ty)
  /-- `dyn a + b` -/
  | object (marked : Bool) (bounds : List Bound) (trailing : Bool)
  /-- `impl a + b` -/
  | hidden (bounds : List Bound) (trailing : Bool)
  /-- `!` -/
  | never
  /-- `_` -/
  | inferred
  /-- `a!(…)` -/
  | expansion (p : Path) (d : Delimiter) (content : List Token)
  /-- A form that is kept as its tokens. -/
  | verbatim (ts : List Token)

/-- A path: segments between double colons. -/
inductive Path where
  | mk (leading : Bool) (segments : List Segment)

/-- A segment of a path. -/
inductive Segment where
  | mk (ident : Ident) (arguments : Arguments)

/-- The arguments of a segment. -/
inductive Arguments where
  | none
  /-- `<a, b>`; `marked` tells whether double colons precede it. -/
  | angle (marked : Bool) (arguments : List Argument) (trailing : Bool)
  /-- `(a, b) -> c` -/
  | paren (inputs : List Ty) (trailing : Bool) (output : Option Ty)

/-- An argument in angle brackets. -/
inductive Argument where
  | lifetime (l : Ident)
  | type (t : Ty)
  /-- A literal or a block. -/
  | const (ts : List Token)
  /-- `a = t` -/
  | equals (ident : Ident) (arguments : Arguments) (t : Ty)
  /-- `a = 1` -/
  | equalsConst (ident : Ident) (arguments : Arguments) (ts : List Token)
  /-- `a: b + c` -/
  | bounded (ident : Ident) (arguments : Arguments) (bounds : List Bound) (trailing : Bool)

/-- What a type must satisfy. -/
inductive Bound where
  | lifetime (l : Ident)
  /-- A trait; `binder` is what precedes its path. -/
  | view (parenthesized : Bool) (binder : List Token) (p : Path)
  /-- A form that is kept as its tokens. -/
  | verbatim (ts : List Token)

/-- An argument of a function type: what precedes its type, and the type. -/
inductive Input where
  | mk (lead : List Token) (t : Ty)

end

/-- The double colons. -/
def colons : List Token := [.punct ':' true, .punct ':' false]

/-- The arrow before a result. -/
def arrow : List Token := [.punct '-' true, .punct '>' false]

/-- Tokens with a separator after each, the last one's only if `trailing`. -/
def separated (separator : List Token) (trailing : Bool) : List (List Token) → List Token
  | [] => []
  | [ts] => if trailing then ts ++ separator else ts
  | ts :: rest => ts ++ separator ++ separated separator trailing rest

/-- Lifetimes and other arguments in one order: lifetimes first.  Each keeps the comma that followed
it, and a comma is put in where one is lacking. -/
def lifetimesFirst (trailing : Bool) (args : List (Bool × List Token)) : List Token :=
  let count := args.length
  let marked := args.zipIdx.map fun (a, i) =>
    (a.1, a.2, if i + 1 < count || trailing then [Token.mark ','] else [])
  let first := marked.filter (·.1)
  let others := marked.filter (!·.1)
  -- The lifetimes end with a comma unless the very last argument is a lifetime without one.
  let lead := first.flatMap fun (_, ts, comma) => ts ++ comma
  let closed := match first.getLast? with
    | some (_, _, comma) => !comma.isEmpty
    | none => true
  lead ++ rest closed others
where
  /-- The other arguments; `closed` tells whether a comma precedes. -/
  rest : Bool → List (Bool × List Token × List Token) → List Token
    | _, [] => []
    | closed, (_, ts, comma) :: more =>
      (if closed then [] else [Token.mark ',']) ++ ts ++ comma ++ rest (!comma.isEmpty) more

/-- Is the argument a lifetime? -/
def Argument.isLifetime : Argument → Bool
  | .lifetime _ => true
  | _ => false

mutual

/-- The tokens of a type. -/
def Ty.tokens : Ty → List Token
  | .path p => p.tokens
  | .qualified self view rest =>
    [Token.mark '<'] ++ self.tokens ++ viewTokens view ++ [Token.mark '>'] ++
      (segmentTokens rest).flatMap (colons ++ ·)
  | .reference lifetime mutable target =>
    [Token.mark '&'] ++ (match lifetime with | some l => Lifetime.tokens l | none => []) ++
      (if mutable then [Token.word "mut"] else []) ++ target.tokens
  | .pointer mutable target =>
    [Token.mark '*', Token.word (if mutable then "mut" else "const")] ++ target.tokens
  | .slice element => [.group .bracket element.tokens]
  | .array element length => [.group .bracket (element.tokens ++ [Token.mark ';'] ++ length)]
  | .tuple elements trailing =>
    [.group .parenthesis (separated [Token.mark ','] trailing (typeTokens elements))]
  | .paren inner => [.group .parenthesis inner.tokens]
  | .function head inputs trailing variadic output =>
    let arguments := separated [Token.mark ','] trailing (inputTokens inputs)
    let variadic := match variadic with
      | none => []
      | some ts => (if inputs.isEmpty || trailing then [] else [Token.mark ',']) ++ ts
    head ++ [.group .parenthesis (arguments ++ variadic)] ++ outputTokens output
  | .object marked bounds trailing =>
    (if marked then [Token.word "dyn"] else []) ++
      separated [Token.mark '+'] trailing (boundTokens bounds)
  | .hidden bounds trailing =>
    Token.word "impl" :: separated [Token.mark '+'] trailing (boundTokens bounds)
  | .never => [Token.mark '!']
  | .inferred => [Token.word "_"]
  | .expansion p d content => p.tokens ++ [Token.mark '!', .group d content]
  | .verbatim ts => ts

/-- The tokens of a path. -/
def Path.tokens : Path → List Token
  | .mk leading segments =>
    (if leading then colons else []) ++ separated colons false (segmentTokens segments)

/-- The tokens of a segment. -/
def Segment.tokens : Segment → List Token
  | .mk ident arguments => ident.token :: arguments.tokens

/-- The tokens of the arguments of a segment. -/
def Arguments.tokens : Arguments → List Token
  | .none => []
  | .angle marked arguments trailing =>
    (if marked then colons else []) ++ [Token.mark '<'] ++
      lifetimesFirst trailing (argumentTokens arguments) ++ [Token.mark '>']
  | .paren inputs trailing output =>
    [.group .parenthesis (separated [Token.mark ','] trailing (typeTokens inputs))] ++
      outputTokens output

/-- The tokens of an argument. -/
def Argument.tokens : Argument → List Token
  | .lifetime l => Lifetime.tokens l
  | .type t => t.tokens
  | .const ts => ts
  | .equals ident arguments t => ident.token :: arguments.tokens ++ [Token.mark '='] ++ t.tokens
  | .equalsConst ident arguments ts => ident.token :: arguments.tokens ++ [Token.mark '='] ++ ts
  | .bounded ident arguments bounds trailing =>
    ident.token :: arguments.tokens ++ [Token.mark ':'] ++
      separated [Token.mark '+'] trailing (boundTokens bounds)

/-- The tokens of a bound. -/
def Bound.tokens : Bound → List Token
  | .lifetime l => Lifetime.tokens l
  | .view parenthesized binder p =>
    if parenthesized then [.group .parenthesis (binder ++ p.tokens)] else binder ++ p.tokens
  | .verbatim ts => ts

/-- The tokens of an argument of a function type. -/
def Input.tokens : Input → List Token
  | .mk lead t => lead ++ t.tokens

/-- The tokens of the trait that a type is seen as. -/
def viewTokens : Option Path → List Token
  | none => []
  | some p => Token.word "as" :: p.tokens

/-- The tokens of a result. -/
def outputTokens : Option Ty → List Token
  | none => []
  | some t => arrow ++ t.tokens

/-- The tokens of each type. -/
def typeTokens : List Ty → List (List Token)
  | [] => []
  | t :: rest => t.tokens :: typeTokens rest

/-- The tokens of each segment. -/
def segmentTokens : List Segment → List (List Token)
  | [] => []
  | s :: rest => s.tokens :: segmentTokens rest

/-- The tokens of each argument, and whether it is a lifetime. -/
def argumentTokens : List Argument → List (Bool × List Token)
  | [] => []
  | a :: rest => (a.isLifetime, a.tokens) :: argumentTokens rest

/-- The tokens of each bound. -/
def boundTokens : List Bound → List (List Token)
  | [] => []
  | b :: rest => b.tokens :: boundTokens rest

/-- The tokens of each argument of a function type. -/
def inputTokens : List Input → List (List Token)
  | [] => []
  | i :: rest => i.tokens :: inputTokens rest

end

namespace Path

/-- Do double colons precede the first segment? -/
def leading : Path → Bool
  | .mk leading _ => leading

/-- The segments. -/
def segments : Path → List Segment
  | .mk _ segments => segments

/-- The path of one plain word. -/
def ofIdent (i : Ident) : Path := .mk false [.mk i .none]

/-- Is the path this one word? -/
def isWord (p : Path) (word : String) : Bool :=
  match p with
  | .mk false [.mk i .none] => i.isWord word
  | _ => false

end Path

namespace Segment

/-- The name of a segment. -/
def ident : Segment → Ident
  | .mk i _ => i

/-- The arguments of a segment. -/
def arguments : Segment → Arguments
  | .mk _ a => a

end Segment

/-- The last segment of a type that is a path. -/
def Ty.lastSegment? : Ty → Option Segment
  | .path p => p.segments.getLast?
  | .qualified _ _ rest => rest.getLast?
  | _ => none

/-- Does the type only mark the record and hold nothing? -/
def Ty.isPhantom (t : Ty) : Bool :=
  match t.lastSegment? with
  | some s => s.ident.isWord "PhantomData"
  | none => false

end Recordwright.Source
