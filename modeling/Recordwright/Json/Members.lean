import Recordwright.Json.Reader

/-!
# Reading records from JSON

A record is read from an object, whose members come in any order and may include unknown ones, or
from an array, whose elements are the members by position.  What was read so far is kept in a draft;
`Members.finish` turns the draft into the result once the end is reached.
-/

namespace Recordwright.Json

/-- One member of a record that is read into a draft. -/
structure Member (δ : Type) where
  /-- The key in an object. -/
  key : String
  /-- May an array end before this member? -/
  optional : Bool
  /-- Was the member read already? -/
  seen : δ → Bool
  /-- Reads the value into the draft; `depth` bounds its nesting. -/
  read : Nat → δ → Reader δ

/-- How a record is read. -/
structure Members (δ α : Type) where
  /-- The description of the record in errors. -/
  expected : String
  /-- The draft before anything was read. -/
  empty : δ
  /-- The members in the order of an array. -/
  members : List (Member δ)
  /-- The record once the end is reached. -/
  finish : δ → Except Misfit α

namespace Members

variable {δ α : Type}

/-- The description of a record with the number of its elements. -/
def expectedElements (m : Members δ α) : String :=
  m.expected ++ " with " ++ toString m.members.length ++
    (if m.members.length = 1 then " element" else " elements")

/-- The members of an object and its end. -/
def readObject (m : Members δ α) (depth : Nat) : Nat → Bool → δ → Reader δ
  | 0, _, _ => throw .ended
  | fuel + 1, first, draft => do
    if ← Reader.hasKey first then
      let k ← Reader.key
      match m.members.find? (·.key == k) with
      | some member =>
        if member.seen draft then Reader.misfit (.duplicateField k)
        Reader.colon
        m.readObject depth fuel false (← member.read depth draft)
      | none =>
        Reader.colon
        Reader.skipValue
        m.readObject depth fuel false draft
    else return draft

/-- The elements of an array from the one with this index on. -/
def readArray (m : Members δ α) (depth : Nat) : Nat → List (Member δ) → δ → Reader δ
  | _, [], draft => pure draft
  | index, member :: rest, draft => do
    if ← Reader.hasElement (index == 0) then
      m.readArray depth (index + 1) rest (← member.read depth draft)
    else if member.optional then m.readArray depth index rest draft
    else Reader.misfit (.invalidLength index m.expectedElements)

/-- The record that a draft amounts to. -/
def close (m : Members δ α) (draft : δ) : Reader α :=
  match m.finish draft with
  | .ok a => pure a
  | .error e => Reader.misfit e

/-- A record, nested less than `depth` deep. -/
def read (m : Members δ α) (depth : Nat) : Reader α := do
  match ← Reader.peek with
  | some '[' =>
    if depth ≤ 1 then throw .malformed
    Reader.advance
    let draft ← m.readArray (depth - 1) 0 m.members m.empty
    let a ← m.close draft
    Reader.endSequence
    return a
  | some '\x7b' =>
    if depth ≤ 1 then throw .malformed
    Reader.advance
    let draft ← m.readObject (depth - 1) ((← get).length + 1) true m.empty
    let a ← m.close draft
    Reader.endObject
    return a
  | _ => Reader.wrongType m.expected

end Members

/-- The elements of a sequence up to its end, each taking at least one character. -/
def Reader.listElements {α : Type} (r : Reader α) : Nat → Bool → Reader (List α)
  | 0, _ => throw .ended
  | fuel + 1, first => do
    if ← Reader.hasElement first then
      let a ← r
      return a :: (← Reader.listElements r fuel false)
    else return []

/-- A sequence of values, nested less than `depth` deep.  `r` is told the depth left. -/
def Reader.list {α : Type} (r : Nat → Reader α) (depth : Nat) : Reader (List α) := do
  match ← Reader.peek with
  | some '[' =>
    if depth ≤ 1 then throw .malformed
    Reader.advance
    let as ← Reader.listElements (r (depth - 1)) ((← get).length + 1) true
    Reader.endSequence
    return as
  | _ => Reader.wrongType "a sequence"

end Recordwright.Json
