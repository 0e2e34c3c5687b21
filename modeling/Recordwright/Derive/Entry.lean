import Recordwright.Derive.Error
import Recordwright.Source.Grammar.Depth

/-!
# Entries of attributes

An attribute called `record` holds entries with commas between them.  On a struct an entry gives a
setting its value, on a field it marks the field.  Attributes with any other path are left alone.
Entries are read one by one, so the first that is wrong decides the error.
-/

namespace Recordwright

open Source Source.Parser

/-- A setting of a struct. -/
inductive Setting where
  | builderName (name : String)
  | builderSuffix (suffix : String)
  | setterLead (lead : String)
  | maxFields (n : Nat)
  /-- The path of the library in generated code. -/
  | library (p : Path)

/-- A mark on a field. -/
inductive FieldMark where
  | required
  | skip
  deriving DecidableEq, Repr

namespace Entry

variable {α : Type}

/-- Reads the tokens of an attribute. -/
abbrev Reader := StateT (List Token) (Except DeriveError)

/-- Reads with a parser. -/
def taking (p : Parser α) : Reader α := fun ts =>
  match (p.run ts).run none with
  | .ok (found, _) => .ok found
  | .error f => .error (.malformed f)

/-- The path that an entry begins with.  Keywords are names here. -/
def path : Parser Path := do
  let leading ← mark? "::"
  if ← peekAnyIdent then
    let first ← anyIdent
    let more ← repeated do
      if ← mark? "::" then return some (← anyIdent) else return none
    return .mk leading ((first :: more).map fun i => .mk i .none)
  else if ← Parser.isEmpty then fail "expected nested attribute"
  else if ← peekLiteral then fail "unexpected literal in nested attribute, expected ident"
  else fail "unexpected token in nested attribute, expected ident"

/-- The literal behind an equals sign. -/
def literal : Reader Literal := do
  let _ ← taking (mark "=")
  return (← taking Parser.literal).2

/-- The text behind an equals sign. -/
def text : Reader String := do
  match ← literal with
  | .text s => return s
  | _ => throw .textExpected

/-- The least number that does not fit 64 bits. -/
def sizeLimit : Nat := 0x10000000000000000

/-- The integer behind an equals sign; it must fit 64 bits. -/
def size : Reader Nat := do
  match ← literal with
  | .integer negative n =>
    if negative then throw .negative
    else if n < sizeLimit then return n
    else throw .tooLarge
  | _ => throw .integerExpected

/-- The path that a text is. -/
def libraryPath (source : String) : Except DeriveError Path :=
  let ts := (Lexer.tokens? source).getD []
  match runText (Grammar.path (Knot.forTokens ts) false) source with
  | .ok p => .ok p
  | .error f => .error (.libraryPath f)

/-- The setting behind its key. -/
def setting (key : Path) : Reader Setting := do
  if key.isWord "builder" then return .builderName (← text)
  else if key.isWord "builder_suffix" then return .builderSuffix (← text)
  else if key.isWord "setter_prefix" then return .setterLead (← text)
  else if key.isWord "max_fields" then return .maxFields (← size)
  else if key.isWord "crate" then return .library (← libraryPath (← text))
  else throw (.unknownEntry .record (Token.text key.tokens))

/-- The mark that a word is. -/
def fieldMark (word : Path) : Reader FieldMark := do
  if word.isWord "required" then return .required
  else if word.isWord "skip" then return .skip
  else throw (.unknownEntry .field (Token.text word.tokens))

/-- At most `fuel` entries with commas between them.  Each takes a token. -/
def upTo (entry : Path → Reader α) : Nat → Reader (List α)
  | 0 => return []
  | fuel + 1 => do
    let first ← entry (← taking path)
    if (← get).isEmpty then return [first]
    let _ ← taking (mark ",")
    -- A comma may follow the last entry.
    if (← get).isEmpty then return [first]
    return first :: (← upTo entry fuel)

/-- The entries of one attribute. -/
def ofContent (entry : Path → Reader α) : Meta → Except DeriveError (List α)
  | .bare =>
    .error (.malformed
      (.message "expected attribute arguments in parentheses: #[record(...)]"))
  | .value _ => .error (.malformed (.message "expected parentheses: #[record(...)]"))
  | .list _ ts =>
    if ts.isEmpty then .ok []
    else
      match (upTo entry (ts.length + 1)).run ts with
      | .ok (entries, _) => .ok entries
      | .error e => .error e

/-- The entries of all attributes called `record`, in order. -/
def ofAttributes (entry : Path → Reader α) : List Attribute → Except DeriveError (List α)
  | [] => .ok []
  | a :: rest =>
    if a.path.isWord "record" then
      match ofContent entry a.content with
      | .error e => .error e
      | .ok first =>
        match ofAttributes entry rest with
        | .error e => .error e
        | .ok more => .ok (first ++ more)
    else ofAttributes entry rest

end Entry

end Recordwright
