import Recordwright.Source.Token

/-!
# Expressions and patterns as tokens

An expression or a pattern inside of a type is kept as its tokens.  Beside them stands what the
grammar still asks about it when it goes on: whether it is a range, a comparison, a block and the
like.
-/

namespace Recordwright.Source

/-- The kinds of expressions that the grammar tells apart. -/
inductive Form where
  /-- A block, or a control structure that ends with one. -/
  | block
  /-- What a macro in these brackets expands to. -/
  | expansion (d : Delimiter)
  | range
  /-- Two operands with a comparison between them. -/
  | comparison
  /-- A form that is kept as it was written. -/
  | verbatim
  | other
  deriving DecidableEq, Repr

/-- An expression. -/
structure Phrase where
  tokens : List Token
  form : Form
  /-- Do attributes in front of it get lost?  They do where the leftmost operand is kept as it was
  written. -/
  losesAttributes : Bool

namespace Phrase

/-- An expression of this form. -/
def ofForm (form : Form) (ts : List Token) : Phrase := ⟨ts, form, form == .verbatim⟩

/-- An expression of no particular form. -/
def plain (ts : List Token) : Phrase := ofForm .other ts

/-- The expression with an operator and an operand behind it. -/
def joined (left : Phrase) (form : Form) (ts : List Token) : Phrase :=
  ⟨left.tokens ++ ts, form, left.losesAttributes⟩

/-- The range that begins with this expression. -/
def ranged (left : Phrase) (ts : List Token) : Phrase := ofForm .range (left.tokens ++ ts)

/-- The expression behind attributes.  A range is put into brackets, so that they belong to the
whole of it. -/
def marked (attributes : List Token) (p : Phrase) : Phrase :=
  if attributes.isEmpty || p.losesAttributes then p
  else if p.form = .range then
    { p with tokens := attributes ++ [.group .parenthesis p.tokens] }
  else { p with tokens := attributes ++ p.tokens }

/-- Must a comma follow the expression if an arm of a match ends with it? -/
def needsComma (p : Phrase) : Bool := p.form != .block

/-- Must a semicolon follow the expression if another statement comes behind it? -/
def needsSemicolon (p : Phrase) : Bool := p.form != .block && p.form != .expansion .brace

/-- Does the expression end with curly braces? -/
def endsWithBraces (p : Phrase) : Bool :=
  match p.tokens.getLast? with
  | some (.group .brace _) => true
  | _ => false

@[simp] theorem marked_nil (p : Phrase) : p.marked [] = p := rfl

@[simp] theorem needsSemicolon_block (ts : List Token) :
    (ofForm .block ts).needsSemicolon = false := rfl

end Phrase

/-- The kinds of patterns that the grammar tells apart. -/
inductive PatternForm where
  /-- Two dots alone. -/
  | rest
  /-- A range; `closed` tells whether it has both of its ends. -/
  | range (closed : Bool)
  /-- A form that is kept as it was written. -/
  | verbatim
  | other
  deriving DecidableEq, Repr

/-- A pattern. -/
structure Pattern where
  tokens : List Token
  form : PatternForm := .other

/-- The pattern behind attributes.  A range is put into brackets, so that they belong to the whole
of it; a form that is kept as it was written loses them. -/
def Pattern.marked (attributes : List Token) (p : Pattern) : Pattern :=
  if attributes.isEmpty then p
  else
    match p.form with
    | .verbatim => p
    | .range _ => { p with tokens := attributes ++ [.group .parenthesis p.tokens] }
    | _ => { p with tokens := attributes ++ p.tokens }

end Recordwright.Source
