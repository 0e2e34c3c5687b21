import Recordwright.Binary64.Rounding
import Recordwright.Json.Fault

/-!
# Numbers in JSON texts

A number without fraction and exponent that fits sixty-four bits is an integer; every other number
is floating.  Digits are gathered into a significand as long as it fits sixty-four bits; later
digits before the point raise the exponent and later digits behind it are dropped.  The significand
is rounded and then multiplied or divided by a rounded power of ten, so the result can be one place
off the nearest number.
-/

namespace Recordwright.Json

/-- A number as it is read. -/
inductive Number where
  | integer (n : Int)
  | float (x : Binary64)
  deriving DecidableEq, Repr

/-- The greatest significand. -/
def greatestSignificand : Nat := 0xFFFFFFFFFFFFFFFF

/-- The greatest exponent that is read as such. -/
def greatestExponent : Nat := 0x7FFFFFFF

/-- The value of a decimal digit. -/
def digit? (c : Char) : Option Nat := if '0' ≤ c ∧ c ≤ '9' then some (c.toNat - 48) else none

/-- The rounded power of ten. -/
def powerOfTen (k : Nat) : Binary64 := Binary64.ofNat (Nat.pow 10 k)

/-- The magnitude divided by `10 ^ k`, at most `10 ^ 308` at a time.  Four steps bring every
significand down to zero. -/
def dividedByTens (x : Binary64) (k : Nat) : Nat → Binary64
  | 0 => Binary64.zero
  | steps + 1 =>
    if k ≤ 308 then x.div (powerOfTen k)
    else if x.magnitude = 0 then x
    else dividedByTens (x.div (powerOfTen 308)) (k - 308) steps

/-- `significand * 10 ^ exponent`; nothing if it is too large. -/
def ofParts? (significand : Nat) (exponent : Int) : Option Binary64 :=
  let x := Binary64.ofNat significand
  if exponent < 0 then some (dividedByTens x exponent.natAbs 5)
  else if exponent ≤ 308 then
    let y := x.mul (powerOfTen exponent.toNat)
    if y.isFinite then some y else none
  else if x.magnitude = 0 then some x
  else none

/-- The number with this sign. -/
def signed (positive : Bool) (x : Binary64) : Binary64 := if positive then x else x.negate

/-- The number made of these parts, followed by `rest`. -/
def floatOfParts (positive : Bool) (significand : Nat) (exponent : Int) (rest : List Char) :
    Except Fault (Number × List Char) :=
  match ofParts? significand exponent with
  | some x => .ok (.float (signed positive x), rest)
  | none => .error .malformed

/-- The text behind its leading digits. -/
def dropDigits : List Char → List Char
  | [] => []
  | c :: rest => if (digit? c).isSome then dropDigits rest else c :: rest

/-- The digits of an exponent behind the first one. -/
def readExponentDigits (positive positiveExponent : Bool) (significand : Nat) (start : Int) :
    Nat → List Char → Except Fault (Number × List Char)
  | exponent, cs =>
    let finish := fun rest =>
      floatOfParts positive significand
        (if positiveExponent then start + exponent else start - exponent) rest
    match cs with
    | [] => finish []
    | c :: rest =>
      match digit? c with
      | none => finish (c :: rest)
      | some d =>
        if exponent * 10 + d ≤ greatestExponent then
          readExponentDigits positive positiveExponent significand start (exponent * 10 + d) rest
        else if significand ≠ 0 ∧ positiveExponent then .error .malformed
        else .ok (.float (signed positive Binary64.zero), dropDigits rest)

/-- The exponent behind its letter. -/
def readExponent (positive : Bool) (significand : Nat) (start : Int) (cs : List Char) :
    Except Fault (Number × List Char) :=
  let (positiveExponent, cs) := match cs with
    | '+' :: rest => (true, rest)
    | '-' :: rest => (false, rest)
    | cs => (true, cs)
  match cs with
  | [] => .error .ended
  | c :: rest =>
    match digit? c with
    | none => .error .malformed
    | some d => readExponentDigits positive positiveExponent significand start d rest

/-- What may follow the digits: an exponent or the end of the number. -/
def readTail (positive : Bool) (significand : Nat) (exponent : Int) (cs : List Char) :
    Except Fault (Number × List Char) :=
  match cs with
  | 'e' :: rest => readExponent positive significand exponent rest
  | 'E' :: rest => readExponent positive significand exponent rest
  | cs => floatOfParts positive significand exponent cs

/-- The digits behind the point; `places` counts those already gathered. -/
def readFraction (positive : Bool) (before : Int) :
    Nat → Nat → List Char → Except Fault (Number × List Char)
  | significand, places, [] =>
    if places = 0 then .error .ended else floatOfParts positive significand (before - places) []
  | significand, places, c :: rest =>
    match digit? c with
    | some d =>
      if significand * 10 + d ≤ greatestSignificand then
        readFraction positive before (significand * 10 + d) (places + 1) rest
      else readTail positive significand (before - places) (dropDigits rest)
    | none =>
      if places = 0 then .error .malformed
      else readTail positive significand (before - places) (c :: rest)

/-- The digits before the point that no longer fit the significand; each raises the exponent. -/
def readLong (positive : Bool) (significand : Nat) :
    Nat → List Char → Except Fault (Number × List Char)
  | exponent, [] => floatOfParts positive significand exponent []
  | exponent, c :: rest =>
    if (digit? c).isSome then readLong positive significand (exponent + 1) rest
    else if c = '.' then readFraction positive exponent significand 0 rest
    else readTail positive significand exponent (c :: rest)

/-- An integer of this sign and magnitude.  Zero with a sign and what is below the least integer
are floating. -/
def integerOf (positive : Bool) (significand : Nat) : Number :=
  if positive then .integer significand
  else if 0 < significand ∧ significand ≤ 0x8000000000000000 then .integer (-(significand : Int))
  else .float (Binary64.ofNat significand).negate

/-- What follows the digits before the point. -/
def readAfterDigits (positive : Bool) (significand : Nat) (cs : List Char) :
    Except Fault (Number × List Char) :=
  match cs with
  | '.' :: rest => readFraction positive 0 significand 0 rest
  | 'e' :: rest => readExponent positive significand 0 rest
  | 'E' :: rest => readExponent positive significand 0 rest
  | cs => .ok (integerOf positive significand, cs)

/-- The digits before the point behind the first one. -/
def readDigits (positive : Bool) : Nat → List Char → Except Fault (Number × List Char)
  | significand, [] => .ok (integerOf positive significand, [])
  | significand, c :: rest =>
    match digit? c with
    | some d =>
      if significand * 10 + d ≤ greatestSignificand then
        readDigits positive (significand * 10 + d) rest
      else readLong positive significand 1 rest
    | none => readAfterDigits positive significand (c :: rest)

/-- A number behind its sign.  A leading zero stands alone. -/
def readUnsigned (positive : Bool) (cs : List Char) : Except Fault (Number × List Char) :=
  match cs with
  | [] => .error .ended
  | c :: rest =>
    match digit? c with
    | none => .error .malformed
    | some 0 =>
      match rest with
      | d :: _ => if (digit? d).isSome then .error .malformed else readAfterDigits positive 0 rest
      | [] => readAfterDigits positive 0 []
    | some d => readDigits positive d rest

/-- A number. -/
def readNumber (cs : List Char) : Except Fault (Number × List Char) :=
  match cs with
  | '-' :: rest => readUnsigned false rest
  | cs => readUnsigned true cs

/-- The exponent of a skipped number behind its letter. -/
def skipExponent (cs : List Char) : Except Fault (List Char) :=
  let cs := match cs with
    | '+' :: rest => rest
    | '-' :: rest => rest
    | cs => cs
  match cs with
  | [] => .error .malformed
  | c :: rest => if (digit? c).isSome then .ok (dropDigits rest) else .error .malformed

/-- What may follow the digits of a skipped number. -/
def skipTail (cs : List Char) : Except Fault (List Char) :=
  match cs with
  | 'e' :: rest => skipExponent rest
  | 'E' :: rest => skipExponent rest
  | cs => .ok cs

/-- What may follow the digits before the point of a skipped number. -/
def skipFraction (cs : List Char) : Except Fault (List Char) :=
  match cs with
  | '.' :: c :: rest =>
    if (digit? c).isSome then skipTail (dropDigits rest) else .error .malformed
  | ['.'] => .error .malformed
  | cs => skipTail cs

/-- Skips a number without giving it a value, so no exponent is too large.  A number that breaks
off is malformed. -/
def skipNumber (cs : List Char) : Except Fault (List Char) :=
  let cs := match cs with
    | '-' :: rest => rest
    | cs => cs
  match cs with
  | [] => .error .malformed
  | c :: rest =>
    match digit? c with
    | none => .error .malformed
    | some 0 =>
      match rest with
      | d :: _ => if (digit? d).isSome then .error .malformed else skipFraction rest
      | [] => .ok []
    | some _ => skipFraction (dropDigits rest)

end Recordwright.Json
