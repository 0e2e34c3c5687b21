import Recordwright.Json.Fault

/-!
# Strings in JSON texts

`writtenText` is the spelling of a string; `readText` reads the characters behind the opening quote
up to the closing one.  Escapes by number stand for one unit of sixteen bits, and a character above
the first plane is two of them.  A skipped string need not pair its units.
-/

namespace Recordwright.Json

/-- The spelling of a character in a string. -/
def writtenChar (c : Char) : List Char :=
  if c = '\"' then ['\\', '\"']
  else if c = '\\' then ['\\', '\\']
  else if c.val = 8 then ['\\', 'b']
  else if c.val = 12 then ['\\', 'f']
  else if c = '\n' then ['\\', 'n']
  else if c = '\r' then ['\\', 'r']
  else if c = '\t' then ['\\', 't']
  else if c.val < 32 then ['\\', 'u'] ++ Text.hexPadded 4 c.toNat
  else [c]

/-- A string in quotes. -/
def writtenText (s : String) : List Char := '\"' :: (s.toList.flatMap writtenChar ++ ['\"'])

/-- The bytes of a text in its eight-bit form. -/
def byteLength (cs : List Char) : Nat := cs.foldl (fun n c => n + c.utf8Size) 0

/-- Four hexadecimal digits.  Fewer than four bytes before the end mean that the text ended. -/
def readUnit (cs : List Char) : Except Fault (Nat × List Char) :=
  match cs with
  | a :: b :: c :: d :: rest =>
    match Text.hexValue? a, Text.hexValue? b, Text.hexValue? c, Text.hexValue? d with
    | some a, some b, some c, some d => .ok (((a * 16 + b) * 16 + c) * 16 + d, rest)
    | _, _, _, _ => .error .malformed
  | cs => if byteLength cs < 4 then .error .ended else .error .malformed

/-- Is the unit the first half of a pair? -/
def isLeading (n : Nat) : Bool := 0xD800 ≤ n && n ≤ 0xDBFF

/-- Is the unit the second half of a pair? -/
def isTrailing (n : Nat) : Bool := 0xDC00 ≤ n && n ≤ 0xDFFF

/-- The character given by number behind a backslash and the letter for it. -/
def readNumbered (cs : List Char) : Except Fault (Char × List Char) := do
  let (n, rest) ← readUnit cs
  if isTrailing n then throw .malformed
  else if isLeading n then
    match rest with
    | [] => throw .ended
    | '\\' :: rest =>
      match rest with
      | [] => throw .ended
      | 'u' :: rest =>
        let (m, rest) ← readUnit rest
        if isTrailing m then
          return (Char.ofNat ((n - 0xD800) * 0x400 + (m - 0xDC00) + 0x10000), rest)
        else throw .malformed
      | _ => throw .malformed
    | _ => throw .malformed
  else return (Char.ofNat n, rest)

/-- The character that a letter stands for behind a backslash. -/
def namedEscape? (c : Char) : Option Char :=
  match c with
  | '\"' => some '\"'
  | '\\' => some '\\'
  | '/' => some '/'
  | 'b' => some (Char.ofNat 8)
  | 'f' => some (Char.ofNat 12)
  | 'n' => some '\n'
  | 'r' => some '\r'
  | 't' => some '\t'
  | _ => none

/-- Is the character one that a string must not hold as it is? -/
def isControl (c : Char) : Bool := c.val < 32

/-- The characters up to the closing quote. -/
def readText : Nat → List Char → Except Fault (List Char × List Char)
  | 0, _ => .error .ended
  | _ + 1, [] => .error .ended
  | fuel + 1, c :: rest =>
    if c = '\"' then .ok ([], rest)
    else if c = '\\' then
      match rest with
      | [] => .error .ended
      | 'u' :: rest => do
        let (c, rest) ← readNumbered rest
        let (cs, rest) ← readText fuel rest
        return (c :: cs, rest)
      | e :: rest =>
        match namedEscape? e with
        | none => .error .malformed
        | some c => do
          let (cs, rest) ← readText fuel rest
          return (c :: cs, rest)
    else if isControl c then .error .malformed
    else do
      let (cs, rest) ← readText fuel rest
      return (c :: cs, rest)

/-- The string whose opening quote was read. -/
def readString (cs : List Char) : Except Fault (String × List Char) := do
  let (s, rest) ← readText (cs.length + 1) cs
  return (String.ofList s, rest)

/-- Skips to behind the closing quote. -/
def skipText : Nat → List Char → Except Fault (List Char)
  | 0, _ => .error .ended
  | _ + 1, [] => .error .ended
  | fuel + 1, c :: rest =>
    if c = '\"' then .ok rest
    else if c = '\\' then
      match rest with
      | [] => .error .ended
      | 'u' :: rest => do
        let (_, rest) ← readUnit rest
        skipText fuel rest
      | e :: rest => if (namedEscape? e).isSome then skipText fuel rest else .error .malformed
    else if isControl c then .error .malformed
    else skipText fuel rest

/-- Skips the string whose opening quote was read. -/
def skipString (cs : List Char) : Except Fault (List Char) := skipText (cs.length + 1) cs

end Recordwright.Json
