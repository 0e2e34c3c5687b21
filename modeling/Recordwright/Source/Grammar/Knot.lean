import Recordwright.Source.Item
import Recordwright.Source.Parser
import Recordwright.Source.Phrase

/-!
# The knot of the grammar

Types, paths, generic parameters, patterns, expressions, statements and declarations contain each
other.  Their parsers are therefore written over a `Knot` that parses what is nested inside; the
knot is tied once, as deep as there are tokens.
-/

namespace Recordwright.Source

/-- How what is nested is parsed. -/
structure Knot where
  /-- A type; `plus` tells whether bounds may be joined with plus signs. -/
  type : Bool → Parser Ty
  /-- A path with arguments. -/
  path : Parser Path
  /-- Generic parameters in angle brackets, and whether a comma follows the last; the flag tells
  whether a blank is a parameter. -/
  parameters : Bool → Parser (List Parameter × Bool)
  /-- An expression; the flag tells whether the fields of a struct may follow a path. -/
  expression : Bool → Parser Phrase
  /-- An expression without operators between operands; the flag is the same. -/
  operand : Bool → Parser Phrase
  /-- An expression that ends where a statement ends. -/
  bounded : Parser Phrase
  /-- A pattern without alternatives. -/
  pattern : Parser Pattern
  /-- The content of a block. -/
  statements : Parser (List Token)
  /-- A declaration inside of a block. -/
  declaration : Parser (List Token)

namespace Knot

/-- The knot that parses nothing. -/
def loose : Knot where
  type := fun _ => Parser.fail "expected type"
  path := Parser.fail "expected path"
  parameters := fun _ => Parser.fail "expected parameters"
  expression := fun _ => Parser.fail "expected expression"
  operand := fun _ => Parser.fail "expected expression"
  bounded := Parser.fail "expected expression"
  pattern := Parser.fail "expected pattern"
  statements := Parser.fail "expected statements"
  declaration := Parser.fail "expected declaration"

end Knot

end Recordwright.Source
