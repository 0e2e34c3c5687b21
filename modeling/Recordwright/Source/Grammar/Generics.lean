import Recordwright.Source.Grammar.Path

/-!
# Parsing generic parameters and their conditions

The parameters of a declaration stand behind its name, the conditions on them further on.  Angle
brackets may begin parameters or a type that is seen as a trait; `peekParameters` tells them apart
by the two tokens behind the bracket.
-/

namespace Recordwright.Source.Grammar

open Recordwright.Source.Parser

variable (k : Knot)

/-! ### Conditions -/

/-- Do conditions end here?  A pair of colons begins a path, unless `lifetimes` alone may follow. -/
def peekConditionsEnd (lifetimes : Bool) : Parser Bool := do
  return (← isEmpty) || (← peekGroup .brace) || (← peekMark ",") || (← peekMark ";") ||
    ((← peekMark ":") && (lifetimes || !(← peekMark "::"))) || (← peekMark "=")

/-- A condition. -/
def condition : Parser Predicate := do
  if (← peekLifetime) && (← peekBehind 1 (peekMark ":")) then
    let l ← lifetime
    let _ ← mark ":"
    let (bs, trailing) ← plusSeparated (peekConditionsEnd true) lifetime
    return .lifetime l bs trailing
  else
    let lead ← binder k
    let t ← k.type true
    let _ ← mark ":"
    let (bs, trailing) ← plusSeparated (peekConditionsEnd false) (bound k false true)
    return .type lead t bs trailing

/-- Do generic parameters, and no type in angle brackets, come next? -/
def peekParameters : Parser Bool := do
  if !(← peekMark "<") then return false
  let named := (← peekBehind 1 peekLifetime) || (← peekBehind 1 peekIdent)
  let listed := (← peekBehind 2 (peekMark ">")) || (← peekBehind 2 (peekMark ",")) ||
    (← peekBehind 2 (peekMark "=")) ||
    ((← peekBehind 2 (peekMark ":")) && !(← peekBehind 2 (peekMark "::")))
  return (← peekBehind 1 (peekMark ">")) || (← peekBehind 1 (peekMark "#")) ||
    (← peekBehind 1 (peekWord "const")) || (named && listed)

/-- Conditions up to where they end, at most `fuel` of them. -/
def conditionsUpTo : Nat → Parser (List Predicate × Bool)
  | 0 => return ([], false)
  | fuel + 1 => do
    if ← peekConditionsEnd false then return ([], true)
    let p ← condition k
    if ← mark? "," then
      let (ps, trailing) ← conditionsUpTo fuel
      return (p :: ps, trailing)
    else return ([p], false)

/-- The conditions on generic parameters that come next, if the word for them does. -/
def conditions? : Parser (Option (List Predicate × Bool)) := do
  if ← word? "where" then
    if ← peekParameters then
      throw (.message "generic parameters on `where` clauses are reserved for future use")
    let (ps, trailing) ← conditionsUpTo k ((← get).length + 1)
    return some (ps, trailing && !ps.isEmpty)
  else return none

/-! ### Generic parameters of a declaration -/

/-- The generic parameters that come next, if an angle bracket does. -/
def parameters? : Parser (Option Generics) := do
  if ← peekMark "<" then
    let (ps, trailing) ← k.parameters true
    return some { parameters := ps, trailing }
  else return none

/-- The generic parameters that come next; there may be none. -/
def generics : Parser Generics := return (← parameters? k).getD {}

end Recordwright.Source.Grammar

namespace Recordwright.Source.Generics

/-- The parameters with these conditions on them. -/
def withConditions (g : Generics) (found : Option (List Predicate × Bool)) : Generics :=
  match found with
  | some (predicates, predicatesTrailing) => { g with predicates, predicatesTrailing }
  | none => g

end Recordwright.Source.Generics
