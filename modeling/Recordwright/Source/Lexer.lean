import Recordwright.Source.Token
import Recordwright.Text.Blank
import Recordwright.Text.Identifier

/-!
# From characters to tokens

Blanks and comments are skipped, documentation comments become attributes, and brackets must match.
A literal is kept as it is spelled once its escapes are found to be in order.
-/

namespace Recordwright.Source.Lexer

/-- The rest of a text behind a piece of it; nothing if the piece is not there. -/
abbrev Skip := List Char → Option (List Char)

/-- The characters that are punctuation. -/
def punctuation : List Char :=
  ['~', '!', '@', '#', '$', '%', '^', '&', '*', '-', '=', '+', '|', ';', ':', ',', '<', '.', '>',
   '/', '?', '\'']

/-- Does the text begin with these characters? -/
def starts (lead : String) (cs : List Char) : Bool := lead.toList.isPrefixOf cs

/-- Skips these characters. -/
def expect (lead : String) : Skip := fun cs =>
  if starts lead cs then some (cs.drop lead.length) else none

/-- May an identifier begin with this character? -/
def isStart (c : Char) : Bool := c == '_' || Text.current.isStart c

/-- Splits an identifier off the text. -/
def name? (cs : List Char) : Option (String × List Char) :=
  match cs with
  | c :: rest =>
    if isStart c then
      some (String.ofList (c :: rest.takeWhile Text.current.isContinue),
        rest.dropWhile Text.current.isContinue)
    else none
  | [] => none

/-- Skips an identifier behind a literal, if there is one. -/
def suffix (cs : List Char) : List Char :=
  match name? cs with
  | some (_, rest) => rest
  | none => cs

/-- The names that cannot be marked as raw. -/
def neverRaw : List String := ["_", "super", "self", "Self", "crate"]

/-- Splits a possibly raw identifier off the text. -/
def anyIdent? (cs : List Char) : Option (Bool × String × List Char) :=
  if starts "r#" cs then
    match name? (cs.drop 2) with
    | some (name, rest) => if neverRaw.contains name then none else some (true, name, rest)
    | none => none
  else
    match name? cs with
    | some (name, rest) => some (false, name, rest)
    | none => none

/-- The beginnings of literals that are not identifiers. -/
def literalLeads : List String :=
  ["r\"", "r#\"", "r##", "b\"", "b\'", "br\"", "br#", "c\"", "cr\"", "cr#"]

/-- Splits an identifier off the text that does not begin a literal. -/
def ident? (cs : List Char) : Option (Bool × String × List Char) :=
  if literalLeads.any (starts · cs) then none else anyIdent? cs

/-! ### Escapes -/

/-- The named escapes of texts. -/
def named : List Char := ['n', 'r', 't', '\\', '\'', '\"', '0']

/-- Two hexadecimal digits below 128. -/
def hexChar : Skip
  | a :: b :: rest =>
    if '0' ≤ a ∧ a ≤ '7' ∧ (Text.hexValue? b).isSome then some rest else none
  | _ => none

/-- Two hexadecimal digits. -/
def hexByte : Skip
  | a :: b :: rest =>
    if (Text.hexValue? a).isSome ∧ (Text.hexValue? b).isSome then some rest else none
  | _ => none

/-- Two hexadecimal digits that are not both zero. -/
def hexNonzero : Skip
  | a :: b :: rest =>
    match Text.hexValue? a, Text.hexValue? b with
    | some 0, some 0 => none
    | some _, some _ => some rest
    | _, _ => none
  | _ => none

/-- Is the number a character? -/
def isScalar (n : Nat) : Bool := n < 0xD800 || (0xDFFF < n && n < 0x110000)

/-- The digits of a code point up to the closing brace, with the value and the count so far. -/
def codePointDigits (value count : Nat) : List Char → Option (Nat × List Char)
  | [] => none
  | c :: rest =>
    if c = '_' then if count = 0 then none else codePointDigits value count rest
    else if c = '\x7d' then if count = 0 ∨ !isScalar value then none else some (value, rest)
    else
      match Text.hexValue? c with
      | some d => if count = 6 then none else codePointDigits (value * 16 + d) (count + 1) rest
      | none => none

/-- A code point in braces: its value and the rest. -/
def codePoint? : List Char → Option (Nat × List Char)
  | '\x7b' :: rest => codePointDigits 0 0 rest
  | _ => none

/-- The blanks behind a line break that a backslash hides.  A carriage return must precede a line
break, and the literal must go on. -/
def hiddenBlanks : List Char → Option (List Char)
  | [] => none
  | ' ' :: rest => hiddenBlanks rest
  | '\t' :: rest => hiddenBlanks rest
  | '\n' :: rest => hiddenBlanks rest
  | '\r' :: '\n' :: rest => hiddenBlanks rest
  | '\r' :: _ => none
  | cs => some cs

/-! ### Quoted literals -/

/-- What a kind of quoted literal admits. -/
structure Quoting where
  /-- The digits behind `\x`. -/
  hex : Skip
  /-- The escapes by letter. -/
  named : List Char
  /-- Are escapes by code point allowed? -/
  codePoints : Bool
  /-- Is zero allowed? -/
  zero : Bool
  /-- May there be only ASCII characters? -/
  ascii : Bool

/-- The rules of texts. -/
def textQuoting : Quoting := ⟨hexChar, named, true, true, false⟩

/-- The rules of byte texts. -/
def byteQuoting : Quoting := ⟨hexByte, named, false, true, true⟩

/-- The rules of texts that end with a zero. -/
def zeroEndedQuoting : Quoting :=
  ⟨hexNonzero, ['n', 'r', 't', '\\', '\'', '\"'], true, false, false⟩

/-- Skips to behind the closing quote. -/
def cooked (q : Quoting) : Nat → Skip
  | 0, _ => none
  | _ + 1, [] => none
  | fuel + 1, c :: rest =>
    if c = '\"' then some (suffix rest)
    else if c = '\r' then
      match rest with
      | '\n' :: rest => cooked q fuel rest
      | _ => none
    else if c = '\\' then
      match rest with
      | [] => none
      | e :: after =>
        if e = 'x' then (q.hex after).bind (cooked q fuel)
        else if e = 'u' then
          if q.codePoints then
            match codePoint? after with
            | some (n, after) => if n = 0 ∧ !q.zero then none else cooked q fuel after
            | none => none
          else none
        else if e = '\n' ∨ e = '\r' then (hiddenBlanks rest).bind (cooked q fuel)
        else if q.named.contains e then cooked q fuel after
        else none
    else if c.val = 0 ∧ !q.zero then none
    else if q.ascii ∧ 128 ≤ c.val then none
    else cooked q fuel rest

/-- Skips to behind the quote that is followed by this many hash marks. -/
def rawBody (q : Quoting) (hashes : Nat) : Skip
  | [] => none
  | '\"' :: rest =>
    if (List.replicate hashes '#').isPrefixOf rest then some (suffix (rest.drop hashes))
    else rawBody q hashes rest
  | '\r' :: '\n' :: rest => rawBody q hashes rest
  | '\r' :: _ => none
  | c :: rest =>
    if c.val = 0 ∧ !q.zero then none
    else if q.ascii ∧ 128 ≤ c.val then none
    else rawBody q hashes rest

/-- Skips a raw text behind its letters. -/
def raw (q : Quoting) : Skip := fun cs =>
  let hashes := (cs.takeWhile (· == '#')).length
  match cs.drop hashes with
  | '\"' :: rest => if hashes ≤ 255 then rawBody q hashes rest else none
  | _ => none

/-- Skips a quoted literal of one kind: cooked behind `plain`, raw behind `rawLead`. -/
def quotedLiteral (q : Quoting) (plain rawLead : String) : Skip := fun cs =>
  match expect plain cs with
  | some rest => cooked q (rest.length + 1) rest
  | none => (expect rawLead cs).bind (raw q)

/-- Skips one character between single quotes, the first of which was read. -/
def quotedChar (q : Quoting) : Skip := fun cs =>
  let body := match cs with
    | [] => none
    | '\\' :: e :: rest =>
      if e = 'x' then q.hex rest
      else if e = 'u' ∧ q.codePoints then (codePoint? rest).map (·.2)
      else if q.named.contains e then some rest
      else none
    | ['\\'] => none
    | c :: rest => if q.ascii ∧ 128 ≤ c.val then none else some rest
  match body with
  | some ('\'' :: rest) => some (suffix rest)
  | _ => none

/-! ### Numbers -/

/-- The number may not run into an identifier. -/
def wordBreak : Skip := fun cs =>
  match cs with
  | c :: _ => if Text.current.isContinue c then none else some cs
  | [] => some []

/-- Skips the suffix of a number. -/
def numberEnd : Skip := fun cs =>
  match cs with
  | c :: _ => if isStart c then (name? cs).bind (wordBreak ·.2) else wordBreak cs
  | [] => some []

/-- What the digits of an exponent amount to. -/
structure Exponent where
  /-- Was a sign given? -/
  sign : Bool := false
  /-- Was a digit given? -/
  digit : Bool := false

/-- Skips the exponent behind its letter; nothing if it is no exponent. -/
def exponent (e : Exponent) : Skip
  | [] => if e.digit then some [] else none
  | c :: rest =>
    if c = '+' ∨ c = '-' then
      if e.digit then some (c :: rest)
      else if e.sign then none
      else exponent { e with sign := true } rest
    else if Text.isAsciiDigit c then exponent { e with digit := true } rest
    else if c = '_' then exponent e rest
    else if e.digit then some (c :: rest)
    else none

/-- Skips the digits of a floating-point number; `dot` tells whether its point was passed. -/
def floatDigits (dot : Bool) : Skip
  | [] => if dot then some [] else none
  | c :: rest =>
    if Text.isAsciiDigit c ∨ c = '_' then floatDigits dot rest
    else if c = '.' then
      if dot then some (c :: rest)
      else
        match rest with
        | d :: _ => if d = '.' ∨ isStart d then none else floatDigits true rest
        | [] => some []
    else if c = 'e' ∨ c = 'E' then
      match exponent {} rest with
      | some rest => some rest
      | none => if dot then some (c :: rest) else none
    else if dot then some (c :: rest)
    else none

/-- Skips a floating-point number. -/
def float : Skip := fun cs =>
  match cs with
  | c :: rest => if Text.isAsciiDigit c then (floatDigits false rest).bind numberEnd else none
  | [] => none

/-- Skips the digits of an integer; `empty` tells whether none was passed. -/
def intDigits (base : Nat) : Bool → Skip
  | empty, [] => if empty then none else some []
  | empty, c :: rest =>
    if c = '_' then if empty ∧ base = 10 then none else intDigits base empty rest
    else
      match Text.hexValue? c with
      | some d =>
        if d < base then intDigits base false rest
        else if d < 10 then none
        else if empty then none else some (c :: rest)
      | none => if empty then none else some (c :: rest)

/-- Skips an integer. -/
def int : Skip := fun cs =>
  let digits :=
    if starts "0x" cs then intDigits 16 true (cs.drop 2)
    else if starts "0o" cs then intDigits 8 true (cs.drop 2)
    else if starts "0b" cs then intDigits 2 true (cs.drop 2)
    else intDigits 10 true cs
  digits.bind numberEnd

/-- Skips a literal. -/
def literal : Skip := fun cs =>
  (quotedLiteral textQuoting "\"" "r" cs) <|> (quotedLiteral byteQuoting "b\"" "br" cs) <|>
  (quotedLiteral zeroEndedQuoting "c\"" "cr" cs) <|>
  ((expect "b\'" cs).bind (quotedChar byteQuoting)) <|>
  ((expect "\'" cs).bind (quotedChar textQuoting)) <|>
  (float cs) <|> (int cs)

/-! ### Comments -/

/-- A blank between tokens.  The marks for the direction of writing count as blanks. -/
def isSpace (c : Char) : Bool := Text.isBlank c || c.val == 0x200E || c.val == 0x200F

/-- The rest of the line and what follows it. -/
def lineRest : List Char → List Char × List Char
  | [] => ([], [])
  | '\n' :: rest => ([], '\n' :: rest)
  | '\r' :: '\n' :: rest => ([], '\n' :: rest)
  | c :: rest =>
    let (line, after) := lineRest rest
    (c :: line, after)

/-- The content of a comment up to the end of its nesting, and what follows it.  `depth` counts
the comments that are open. -/
def blockRest : Nat → List Char → Option (List Char × List Char)
  | depth, '/' :: '*' :: rest =>
    (blockRest (depth + 1) rest).map fun (body, after) => ('/' :: '*' :: body, after)
  | depth, '*' :: '/' :: rest =>
    if depth ≤ 1 then some ([], rest)
    else (blockRest (depth - 1) rest).map fun (body, after) => ('*' :: '/' :: body, after)
  | depth, c :: rest => (blockRest depth rest).map fun (body, after) => (c :: body, after)
  | _, [] => none

/-- The comment that the text begins with: its content behind the two opening characters, and what
follows it. -/
def blockComment? (cs : List Char) : Option (List Char × List Char) :=
  match cs with
  | '/' :: '*' :: rest => blockRest 1 rest
  | _ => none

/-- Is every carriage return followed by a line break? -/
def returnsPaired : List Char → Bool
  | [] => true
  | '\r' :: '\n' :: rest => returnsPaired rest
  | '\r' :: _ => false
  | _ :: rest => returnsPaired rest

/-- Does a plain comment begin here? -/
def plainLine (cs : List Char) : Bool :=
  starts "//" cs && (!starts "///" cs || starts "////" cs) && !starts "//!" cs

/-- Does a plain comment over several lines begin here? -/
def plainBlock (cs : List Char) : Bool :=
  starts "/**/" cs ||
    (starts "/*" cs && (!starts "/**" cs || starts "/***" cs) && !starts "/*!" cs)

/-- Skips blanks and plain comments. -/
def skipSpaces : Nat → List Char → List Char
  | 0, cs => cs
  | _ + 1, [] => []
  | fuel + 1, c :: rest =>
    if plainLine (c :: rest) then skipSpaces fuel (lineRest (c :: rest)).2
    else if plainBlock (c :: rest) then
      match blockComment? (c :: rest) with
      | some (_, after) => skipSpaces fuel after
      | none => c :: rest
    else if isSpace c then skipSpaces fuel rest
    else c :: rest

/-- The documentation comment that the text begins with: whether it speaks of what encloses it, its
content, and what follows it. -/
def documentation? (cs : List Char) : Option (Bool × List Char × List Char) :=
  let found :=
    if starts "//!" cs then
      let (line, after) := lineRest (cs.drop 3)
      some (true, line, after)
    else if starts "/*!" cs then
      (blockComment? cs).map fun (body, after) => (true, body.drop 1, after)
    else if starts "///" cs then
      let (line, after) := lineRest (cs.drop 3)
      if starts "/" (cs.drop 3) then none else some (false, line, after)
    else if starts "/**" cs && !starts "*" (cs.drop 3) then
      (blockComment? cs).map fun (body, after) => (false, body.drop 1, after)
    else none
  match found with
  | some (inner, body, after) => if returnsPaired body then some (inner, body, after) else none
  | none => none

/-- The attribute that a documentation comment stands for. -/
def documentationTokens (inner : Bool) (body : List Char) : List Token :=
  [Token.mark '#'] ++ (if inner then [Token.mark '!'] else []) ++
    [.group .bracket [Token.word "doc", Token.mark '=', quotedToken (String.ofList body)]]

/-! ### Tokens -/

/-- A piece of the text: a bracket or tokens. -/
inductive Piece where
  | opening (d : Delimiter)
  | closing (d : Delimiter)
  | tokens (ts : List Token)

/-- The punctuation character that the text begins with. -/
def punctuation? (cs : List Char) : Option Char :=
  if starts "//" cs || starts "/*" cs then none
  else
    match cs with
    | c :: _ => if punctuation.contains c then some c else none
    | [] => none

/-- The punctuation token that the text begins with.  A single quote must begin a lifetime. -/
def punct? (cs : List Char) : Option (Token × List Char) :=
  match punctuation? cs with
  | none => none
  | some c =>
    let rest := cs.drop 1
    if c = '\'' then
      match anyIdent? rest with
      | none => none
      | some (_, _, after) =>
        if starts "\'" after || (starts "#" after && !starts "r#" rest) then none
        else some (.punct c true, rest)
    else some (.punct c (punctuation? rest).isSome, rest)

/-- A pair of brackets around this comment is a literal without a value. -/
def placeholder : String := "(/*ERROR*/)"

/-- The token, not a group, that the text begins with. -/
def leaf? (cs : List Char) : Option (Token × List Char) :=
  match literal cs with
  | some rest => some (.literal (String.ofList (cs.take (cs.length - rest.length))), rest)
  | none =>
    match punct? cs with
    | some found => some found
    | none =>
      match ident? cs with
      | some (isRaw, name, rest) => some (.ident isRaw name, rest)
      | none => (expect placeholder cs).map fun rest => (.literal placeholder, rest)

/-- The bracket that a character is. -/
def bracket? (c : Char) : Option Piece :=
  match c with
  | '(' => some (.opening .parenthesis)
  | '[' => some (.opening .bracket)
  | '\x7b' => some (.opening .brace)
  | ')' => some (.closing .parenthesis)
  | ']' => some (.closing .bracket)
  | '\x7d' => some (.closing .brace)
  | _ => none

/-- The pieces of a text. -/
def pieces? : Nat → List Char → Option (List Piece)
  | 0, _ => none
  | fuel + 1, cs =>
    let cs := skipSpaces (cs.length + 1) cs
    match documentation? cs with
    | some (inner, body, after) =>
      (pieces? fuel after).map (.tokens (documentationTokens inner body) :: ·)
    | none =>
      match cs with
      | [] => some []
      | c :: rest =>
        match if starts placeholder cs then none else bracket? c with
        | some b => (pieces? fuel rest).map (b :: ·)
        | none =>
          match leaf? (c :: rest) with
          | some (t, after) => (pieces? fuel after).map (.tokens [t] :: ·)
          | none => none

/-- Groups the pieces by their brackets.  The groups that are open hold the tokens before them and
their own tokens so far, last first. -/
def nest? : List (Delimiter × List Token) → List Token → List Piece → Option (List Token)
  | [], before, [] => some before.reverse
  | _ :: _, _, [] => none
  | outer, before, .tokens ts :: rest => nest? outer (ts.reverse ++ before) rest
  | outer, before, .opening d :: rest => nest? ((d, before) :: outer) [] rest
  | [], _, .closing _ :: _ => none
  | (d, before) :: outer, content, .closing d' :: rest =>
    if d = d' then nest? outer (.group d content.reverse :: before) rest else none

/-- The tokens of a text; nothing if it is no sequence of tokens. -/
def tokens? (source : String) : Option (List Token) :=
  let cs := source.toList
  let cs := match cs with
    | c :: rest => if c.val = 0xFEFF then rest else c :: rest
    | [] => []
  (pieces? (cs.length + 1) cs).bind (nest? [] [])

end Recordwright.Source.Lexer
