import Recordwright.Source.Lexer

/-!
# The values of literals

What a literal denotes: a text with its escapes replaced, an integer in decimal digits, or a literal
of another kind.
-/

namespace Recordwright.Source

/-- What a literal denotes. -/
inductive Literal where
  | text (value : String)
  | integer (negative : Bool) (value : Nat)
  | other
  deriving DecidableEq, Repr

namespace Literal

/-- The characters of a cooked text up to its closing quote, the escapes replaced. -/
def cookedValue : Nat → List Char → List Char
  | 0, _ => []
  | _ + 1, [] => []
  | fuel + 1, c :: rest =>
    if c = '\"' then []
    else if c = '\r' then
      match rest with
      | '\n' :: rest => '\n' :: cookedValue fuel rest
      | rest => c :: cookedValue fuel rest
    else if c = '\\' then
      match rest with
      | [] => []
      | e :: after =>
        match e with
        | 'x' =>
          match after with
          | a :: b :: after =>
            Char.ofNat ((Text.hexValue? a).getD 0 * 16 + (Text.hexValue? b).getD 0) ::
              cookedValue fuel after
          | _ => []
        | 'u' =>
          match Lexer.codePoint? after with
          | some (n, after) => Char.ofNat n :: cookedValue fuel after
          | none => []
        | 'n' => '\n' :: cookedValue fuel after
        | 'r' => '\r' :: cookedValue fuel after
        | 't' => '\t' :: cookedValue fuel after
        | '0' => Char.ofNat 0 :: cookedValue fuel after
        | '\n' => cookedValue fuel ((Lexer.hiddenBlanks rest).getD [])
        | '\r' => cookedValue fuel ((Lexer.hiddenBlanks rest).getD [])
        | e => e :: cookedValue fuel after
    else c :: cookedValue fuel rest

/-- The characters of a raw text up to the quote followed by this many hash marks. -/
def rawValue (hashes : Nat) : List Char → List Char
  | [] => []
  | '\"' :: rest =>
    if (List.replicate hashes '#').isPrefixOf rest then [] else '\"' :: rawValue hashes rest
  | c :: rest => c :: rawValue hashes rest

/-- The value of the digits of an integer in a base, and the suffix behind them; nothing if it is
no integer.  An exponent makes a number floating. -/
def integerDigits (base : Nat) : Nat → Bool → List Char → Option (Nat × List Char)
  | value, found, [] => if found then some (value, []) else none
  | value, found, c :: rest =>
    if c = '_' then integerDigits base value found rest
    else if Text.isAsciiDigit c ∨ (10 < base ∧ (Text.hexValue? c).isSome) then
      match Text.hexValue? c with
      | some d => if d < base then integerDigits base (value * base + d) true rest else none
      | none => none
    else if base = 10 ∧ c = '.' then none
    else if base = 10 ∧ (c = 'e' ∨ c = 'E') ∧ isExponent false rest then none
    else if found then some (value, c :: rest)
    else none
where
  /-- Is this the rest of a number with an exponent? -/
  isExponent : Bool → List Char → Bool
    | digits, [] => digits
    | digits, c :: rest =>
      if c = '_' then isExponent digits rest
      else if c = '+' ∨ c = '-' then true
      else if Text.isAsciiDigit c then isExponent true rest
      else digits && Text.current.isIdentifierChars (c :: rest)

/-- The value of the digits of an integer, and the suffix behind them; nothing if it is none. -/
def digits? (cs : List Char) : Option (Nat × List Char) :=
  let found := match cs with
    | '0' :: 'x' :: rest => integerDigits 16 0 false rest
    | '0' :: 'o' :: rest => integerDigits 8 0 false rest
    | '0' :: 'b' :: rest => integerDigits 2 0 false rest
    | c :: rest => if Text.isAsciiDigit c then integerDigits 10 0 false (c :: rest) else none
    | [] => none
  found.filter fun (_, rest) => rest.isEmpty || Text.current.isIdentifierChars rest

/-- The integer that a spelling denotes. -/
def integer? (negative : Bool) (cs : List Char) : Option Literal :=
  (digits? cs).map fun (value, _) => .integer negative value

/-- What a literal of this spelling denotes. -/
def ofSpelling (spelling : String) : Literal :=
  match spelling.toList with
  | '\"' :: rest => .text (String.ofList (cookedValue (rest.length + 1) rest))
  | 'r' :: rest =>
    let hashes := (rest.takeWhile (· == '#')).length
    .text (String.ofList (rawValue hashes (rest.drop (hashes + 1))))
  | cs => (integer? false cs).getD .other

/-- Does the spelling begin with a digit and denote no integer?  Then it is a floating-point
number. -/
def isFloating (spelling : String) : Bool :=
  match spelling.toList with
  | c :: rest => Text.isAsciiDigit c && (digits? (c :: rest)).isNone
  | [] => false

/-- What the negative of a literal of this spelling denotes; nothing if it is no number. -/
def ofNegative? (spelling : String) : Option Literal :=
  let cs := spelling.toList
  match integer? true cs with
  | some l => some l
  | none => if (Lexer.float cs).isSome then some .other else none

end Literal

end Recordwright.Source
