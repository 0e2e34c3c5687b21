import Recordwright.Source.Grammar.Depth

/-!
# Parsing items

A source is one item: a struct, an enum or a union.  What is read of the latter two is checked, but
only their kind is kept.
-/

namespace Recordwright.Source.Grammar

open Recordwright.Source.Parser

variable (k : Knot)

/-! ### Items -/

/-- What a struct consists of, without the comma behind its fields. -/
def StructBody.toBody : StructBody → Body
  | .named fields _ => .named fields
  | .unnamed _ => .unnamed
  | .unit => .unit

/-- An item. -/
def item : Parser Item := do
  let as ← attributes k
  let v ← visibility
  if ← word? "struct" then
    let name ← ident
    let g ← generics k
    let (where?, body) ← structBody k
    return ⟨as, v, name, g.withConditions where?, body.toBody⟩
  else
    let isChoice ← word? "enum"
    if !isChoice then word "union"
    let name ← ident
    let g ← generics k
    let g := g.withConditions (← conditions? k)
    if isChoice then
      let _ ← choices k
      return ⟨as, v, name, g, .choice⟩
    else
      let _ ← namedFields k
      return ⟨as, v, name, g, .overlay⟩

end Recordwright.Source.Grammar

namespace Recordwright.Source

open Recordwright.Source.Parser

/-- The item that a source text is; nothing if it is no single item. -/
def Item.ofText? (source : String) : Option Item :=
  match Lexer.tokens? source with
  | none => none
  | some ts => ((Grammar.item (Knot.forTokens ts)).runAll ts).toOption

/-- The type that a text is; nothing if it is no single type. -/
def Ty.ofText? (source : String) : Option Ty :=
  match Lexer.tokens? source with
  | none => none
  | some ts => ((Grammar.type (Knot.forTokens ts) true).runAll ts).toOption

end Recordwright.Source
