import Recordwright.Source.Grammar.Statement
import Recordwright.Source.Grammar.Type

/-!
# The depth of the grammar

The knot that ties the parsers of types, patterns, expressions, statements and declarations
together, as deep as there are tokens.
-/

namespace Recordwright.Source.Knot

/-- The knot that parses this many levels. -/
def level : Nat → Knot
  | 0 => loose
  | n + 1 =>
    let k := level n
    { type := Grammar.type k
      path := Grammar.path k false
      parameters := Grammar.parameters k
      expression := Grammar.expression k
      operand := Grammar.operand k
      bounded := Grammar.bounded k
      pattern := Grammar.pattern k
      statements := Grammar.statements k
      declaration := Grammar.declaration k }

/-- A knot that is deep enough for these tokens: two levels down take a token. -/
def forTokens (ts : List Token) : Knot := level (2 * Token.listWeight ts + 4)

end Recordwright.Source.Knot
