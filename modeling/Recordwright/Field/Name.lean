import Recordwright.Text.Case

/-!
# Names of fields and methods

A field is named by an identifier.  The methods of a builder carry the field's name in snake case:
lower-case words with underscores between them.  A word begins at an upper-case character that
follows a lower-case one or a digit, and at the last of several upper-case characters if a
lower-case one follows it.
-/

namespace Recordwright.Name

/-- Can a field be called this?  Its characters must be settled ones. -/
def isFieldName (name : String) : Bool := Text.settled.isIdentifier name

/-- Does a word begin at an upper-case character between these two? -/
def startsWord (previous next : Option Char) : Bool :=
  match previous with
  | none => false
  | some p =>
    if p == '_' then false
    else if Text.isLower p || Text.isAsciiDigit p then true
    else if Text.isUpper p then
      match next with
      | some n => Text.isLower n
      | none => false
    else false

/-- The snake-case form of the characters that follow `previous`. -/
def snakeFrom (previous : Option Char) : List Char → List Char
  | [] => []
  | c :: rest =>
    let tail := snakeFrom (some c) rest
    if Text.isUpper c then
      if startsWord previous rest.head? then '_' :: (Text.lowerForm c ++ tail)
      else Text.lowerForm c ++ tail
    else c :: tail

/-- The snake-case form of a name. -/
def snakeCase (name : String) : String := String.ofList (snakeFrom none name.toList)

/-- Words that name no method. -/
def keywords : List String :=
  ["as", "async", "await", "break", "const", "continue", "crate", "dyn", "else", "enum",
   "extern", "false", "fn", "for", "gen", "if", "impl", "in", "let", "loop", "match", "mod",
   "move", "mut", "pub", "ref", "return", "self", "Self", "static", "struct", "super", "trait",
   "true", "type", "unsafe", "use", "where", "while"]

/-- Can a method be called this? -/
def isMethodName (name : String) : Bool :=
  isFieldName name && name != "_" && !keywords.contains name

/-- The methods that every builder has. -/
def builderMethods : List String := ["new", "from_origin", "build"]

/-- The name of the method that assigns the field. -/
def setterOf (lead field : String) : String := lead ++ snakeCase field

/-- The name of the method that tells whether the field was assigned. -/
def queryOf (field : String) : String :=
  "is_" ++ String.ofList ((snakeCase field).toList.dropWhile (· == '_')) ++ "_set"

end Recordwright.Name
