import Recordwright.Source.Token
import Recordwright.Text.Identifier

/-!
# Identifiers in sources

An identifier of a source is a name, possibly marked as raw.  The raw mark lets a keyword be a name;
it is no part of the name.
-/

namespace Recordwright.Source

/-- An identifier. -/
structure Ident where
  raw : Bool
  name : String
  isIdentifier : Text.current.isIdentifier name = true
  deriving DecidableEq, Repr

namespace Ident

/-- The identifier of this name, if it is one. -/
def ofName? (raw : Bool) (name : String) : Option Ident :=
  if h : Text.current.isIdentifier name = true then some ⟨raw, name, h⟩ else none

/-- The identifier as it is written. -/
def text (i : Ident) : String := identText i.raw i.name

/-- The token of an identifier. -/
def token (i : Ident) : Token := .ident i.raw i.name

/-- Is this identifier written as the plain word? -/
def isWord (i : Ident) (word : String) : Bool := !i.raw && i.name == word

/-- The words that are no names unless they are marked as raw. -/
def keywords : List String :=
  ["_", "abstract", "as", "async", "await", "become", "box", "break", "const", "continue", "crate",
   "do", "dyn", "else", "enum", "extern", "false", "final", "fn", "for", "if", "impl", "in", "let",
   "loop", "macro", "match", "mod", "move", "mut", "override", "priv", "pub", "ref", "return",
   "Self", "self", "static", "struct", "super", "trait", "true", "try", "type", "typeof", "unsafe",
   "unsized", "use", "virtual", "where", "while", "yield"]

@[simp] theorem text_of_not_raw {i : Ident} (h : i.raw = false) : i.text = i.name := by
  simp [text, identText, h]

end Ident

/-- A lifetime, without its quote. -/
abbrev Lifetime := Ident

/-- The tokens of a lifetime. -/
def Lifetime.tokens (l : Lifetime) : List Token := [.punct '\'' true, l.token]

end Recordwright.Source
