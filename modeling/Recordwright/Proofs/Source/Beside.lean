import Recordwright.Proofs.Source.Clung
import Recordwright.Proofs.Source.Plain
import Recordwright.Proofs.Source.Taken

/-!
# What stands beside types

A type ends before a comma, a semicolon, the angle bracket that closes, or where the tokens end
(`EndsType`), and a plain type begins with a name, a bracket or one of a few marks (`BeginsType`).
So the looks of the parser at what comes next are decided there.

`Retakes` says that a parser takes tokens where a type may end behind them, also where marks newly
cling.  Lists are taken if their elements are (`takes_commaSeparated`, `takes_repeated_all`).
-/

namespace Recordwright.Source

open Token (listClung)
open Recordwright.Source.Parser

variable {α : Type} {ts us rest : List Token} {a : α} {w : String}

/-! ### What types end before -/

/-- The tokens begin with no mark, or with one that ends a type. -/
def EndsType (rest : List Token) : Prop :=
  ∀ c joined more, rest = .punct c joined :: more → c ∈ [',', '>', ';']

theorem endsType_nil : EndsType [] := nofun

theorem endsType_punct {c : Char} (h : c ∈ [',', '>', ';']) (joined : Bool) (more : List Token) :
    EndsType (.punct c joined :: more) := by
  rintro _ _ _ ⟨⟩
  exact h

theorem EndsType.startsWith_eq_false {c : Char} (h : EndsType rest) (other : c ∉ [',', '>', ';'])
    (cs : List Char) : startsWith (c :: cs) rest = false := by
  refine Parser.startsWith_eq_false fun joined more same => ?_
  exact other (h c joined more same)

/-! ### What plain types begin with -/

/-- A token that a plain type may begin with. -/
def BeginsType : Token → Prop
  | .ident raw name => isName raw name = true ∨ raw = false ∧ name = "_"
  | .punct c _ => c ∈ ['&', '*', '!', ':']
  | .literal _ => False
  | .group d _ => d ≠ .brace

theorem beginsType_punct {c : Char} (h : c ∈ ['&', '*', '!', ':']) (joined : Bool) :
    BeginsType (.punct c joined) := h

/-- The tokens of a plain type begin so, whatever clings. -/
theorem Ty.IsPlain.exists_begins {t : Ty} (h : t.IsPlain) (clung : listClung t.tokens us) :
    ∃ u us', us = u :: us' ∧ BeginsType u := by
  have punct {c : Char} {ts : List Token} (mark : c ∈ ['&', '*', '!', ':']) {joined : Bool}
      (clung : listClung (.punct c joined :: ts) us) : ∃ u us', us = u :: us' ∧ BeginsType u := by
    obtain ⟨u, us, rfl, ⟨joined, rfl, -⟩, -⟩ := clung
    exact ⟨_, us, rfl, beginsType_punct mark joined⟩
  have group {d : Delimiter} {content : List Token} (clung : listClung [.group d content] us)
      (other : d ≠ .brace) : ∃ u us', us = u :: us' ∧ BeginsType u := by
    obtain ⟨u, us, rfl, ⟨content, rfl, -⟩, -⟩ := clung
    exact ⟨_, us, rfl, other⟩
  cases t
  case path p =>
    match p, h with
    | .mk true segments, _ => exact punct (by decide) clung
    | .mk false (⟨i, arguments⟩ :: segments), ⟨_, ⟨named, _⟩, _⟩ =>
      rw [Ty.tokens, Path.tokens, segmentTokens_eq, List.map_cons, separated_colons] at clung
      obtain ⟨u, us, rfl, rfl, -⟩ := clung
      exact ⟨_, us, rfl, .inl named.1⟩
  case reference lifetime mutable target =>
    cases lifetime with
    | none => exact punct (by decide) clung
    | some l => exact punct (by decide) clung
  case pointer mutable target => exact punct (by decide) clung
  case never => exact punct (by decide) clung
  case inferred =>
    obtain ⟨u, us, rfl, rfl, -⟩ := clung
    exact ⟨_, us, rfl, .inr ⟨rfl, rfl⟩⟩
  case slice element => exact group clung nofun
  case array element length => exact group clung nofun
  case tuple elements trailing => exact group clung nofun
  case paren inner => exact group clung nofun
  all_goals exact h.elim

section BeginsType

variable {u : Token} (h : BeginsType u) (more : List Token)
include h

theorem BeginsType.startsWith_eq_false {c : Char} (other : c ∉ ['&', '*', '!', ':'])
    (cs : List Char) : startsWith (c :: cs) (u :: more) = false := by
  refine Parser.startsWith_eq_false ?_
  rintro joined _ ⟨⟩
  exact other h

/-- A plain type does not begin with a word that is a keyword, but for the blank. -/
theorem BeginsType.name_ne {name : String} (word : u = .ident false name)
    (keyword : w ∈ Ident.keywords) (other : w ≠ "_") : name ≠ w := by
  subst word
  rintro rfl
  rcases h with named | ⟨-, blank⟩
  · simp [isName, identText, keyword] at named
  · exact other blank

theorem BeginsType.takes_peekWord (keyword : w ∈ Ident.keywords) (other : w ≠ "_") :
    Takes (peekWord w) (u :: more) false (u :: more) := by
  cases u with
  | ident raw name =>
    cases raw with
    | true => exact fun _ => rfl
    | false =>
      have apart := beq_eq_false_iff_ne.mpr (h.name_ne rfl keyword other)
      intro left
      show Except.ok ((name == w, _), left) = _
      rw [apart]
  | _ => exact fun _ => rfl

theorem BeginsType.takes_peekLifetime : Takes peekLifetime (u :: more) false (u :: more) := by
  cases u with
  | punct c joined =>
    obtain rfl | rfl | rfl | rfl : c = '&' ∨ c = '*' ∨ c = '!' ∨ c = ':' := by
      simpa [BeginsType] using h
    all_goals exact fun _ => rfl
  | _ => exact fun _ => rfl

theorem BeginsType.takes_peekLiteral : Takes peekLiteral (u :: more) false (u :: more) := by
  cases u with
  | ident raw name =>
    cases raw with
    | true => exact fun _ => rfl
    | false =>
      have yes := h.name_ne (w := "true") rfl (by decide) (by decide)
      have no := h.name_ne (w := "false") rfl (by decide) (by decide)
      have none : tried? literal (.ident false name :: more) = none := by
        rw [tried?, run_literal_ident yes no]
      intro left
      show Except.ok (((tried? literal (.ident false name :: more)).isSome, _), left) = _
      rw [none]
      rfl
  | punct c joined =>
    obtain rfl | rfl | rfl | rfl : c = '&' ∨ c = '*' ∨ c = '!' ∨ c = ':' := by
      simpa [BeginsType] using h
    all_goals exact fun _ => rfl
  | literal spelling => exact h.elim
  | group d content => exact fun _ => rfl

end BeginsType

/-! ### Lists -/

/-- Whatever newly clings, the parser takes the tokens where a type may end behind them. -/
def Retakes (p : Parser α) (ts : List Token) (a : α) : Prop :=
  ∀ us rest, listClung ts us → EndsType rest → Takes p (us ++ rest) a rest

/-- Unless an element is the last and no comma follows it, it ends before a comma, whatever clings,
and the further elements stand behind that. -/
theorem exists_comma {tss : List (List Token)} {trailing : Bool}
    (more : tss = [] → trailing = true)
    (clung : listClung (separated [Token.mark ','] trailing (ts :: tss)) us) :
    ∃ u joined u', us = u ++ .punct ',' joined :: u' ∧ listClung ts u ∧
      listClung (separated [Token.mark ','] trailing tss) u' := by
  cases tss with
  | nil =>
    rw [more rfl] at clung ⊢
    obtain ⟨u, -, rfl, h, -, -, rfl, ⟨joined, rfl, -⟩, rfl⟩ := Token.listClung_append.mp clung
    exact ⟨u, joined, [], rfl, h, rfl⟩
  | cons ts' tss =>
    obtain ⟨first, u', rfl, both, h'⟩ := Token.listClung_append.mp clung
    obtain ⟨u, -, rfl, h, -, -, rfl, ⟨joined, rfl, -⟩, rfl⟩ := Token.listClung_append.mp both
    exact ⟨u, joined, u', List.append_assoc _ _ _, h, h'⟩

section Lists

variable {p : Parser α} {stop : Parser Bool} {toks : α → List Token}
variable (goesOn : ∀ joined more,
    Takes stop (.punct ',' joined :: more) false (.punct ',' joined :: more))
variable (ends : Takes stop rest true rest) (behind : EndsType rest)
variable {as : List α} (each : ∀ a ∈ as, Retakes p (toks a) a)
variable (begins : ∀ a ∈ as, ∀ us more, listClung (toks a) us →
    Takes stop (us ++ more) false (us ++ more))
include goesOn ends behind each begins

theorem takes_separatedUpTo (trailing : Bool) {fuel : Nat} (enough : as.length < fuel)
    (clung : listClung (separated [Token.mark ','] trailing (as.map toks)) us) :
    Takes (separatedUpTo stop p "," fuel) (us ++ rest) (as, as.isEmpty || trailing) rest := by
  induction as generalizing fuel us with
  | nil =>
    obtain ⟨fuel, rfl⟩ := Nat.exists_eq_add_of_lt enough
    rw [show us = [] from clung]
    exact ends.choose (takes_pure _ _)
  | cons a as ih =>
    obtain ⟨fuel, rfl⟩ : ∃ n, fuel = n + 1 := ⟨fuel - 1, by omega⟩
    rw [List.length_cons, Nat.add_lt_add_iff_right] at enough
    obtain ⟨first, others⟩ := List.forall_mem_cons.mp each
    obtain ⟨start, starts⟩ := List.forall_mem_cons.mp begins
    by_cases last : as = [] ∧ trailing = false
    · obtain ⟨rfl, rfl⟩ := last
      refine (start us _ clung).skip ?_
      refine (first us _ clung behind).bind ?_
      exact ends.choose (takes_pure _ _)
    · rw [not_and, Bool.not_eq_false] at last
      obtain ⟨u, joined, u', rfl, h, h'⟩ :=
        exists_comma (fun none => last (List.map_eq_nil_iff.mp none)) clung
      have tail : (as.isEmpty || trailing) = trailing := by
        cases as with
        | nil => rw [last rfl, Bool.or_true]
        | cons b bs => rfl
      rw [List.append_assoc, List.cons_append]
      refine (start u _ h).skip ?_
      refine (first u _ h (endsType_punct (by decide) joined _)).bind ?_
      refine (goesOn joined _).skip ?_
      refine (takes_mark (s := ",") rfl).bind ?_
      refine (ih others starts enough h').bind ?_
      rw [tail]
      exact takes_pure _ _

theorem takes_commaSeparated (full : ∀ a ∈ as, toks a ≠ []) {trailing : Bool}
    (some : as = [] → trailing = false)
    (clung : listClung (separated [Token.mark ','] trailing (as.map toks)) us) :
    Takes (commaSeparated stop p) (us ++ rest) (as, trailing) rest := by
  have full : ∀ ts ∈ as.map toks, ts ≠ [] := by
    intro ts member
    obtain ⟨a, there, rfl⟩ := List.mem_map.mp member
    exact full a there
  have enough : as.length < (us ++ rest).length + 1 := by
    have := length_le_separated [Token.mark ','] trailing full
    rw [← Token.length_eq_of_listClung clung, List.length_map] at this
    rw [List.length_append]
    omega
  refine (takes_get _).bind ?_
  refine (takes_separatedUpTo goesOn ends behind each begins trailing enough clung).bind ?_
  cases as with
  | nil =>
    rw [some rfl]
    exact takes_pure _ _
  | cons a as =>
    show Takes (pure (a :: as, (false || trailing) && true)) _ _ _
    rw [Bool.false_or, Bool.and_true]
    exact takes_pure _ _

end Lists

/-- A parser that is repeated takes all elements, up to where it finds nothing.  Behind each stands
what may stand there. -/
theorem takes_repeated_all {p : Parser (Option α)} {toks : α → List Token}
    {Behind : List Token → Prop} (last : Takes p rest none rest) (behind : Behind rest)
    {as : List α} (full : ∀ a ∈ as, toks a ≠ [])
    (starts : ∀ a ∈ as, ∀ us more, listClung (toks a) us → Behind (us ++ more))
    (each : ∀ a ∈ as, ∀ us more, listClung (toks a) us → Behind more →
      Takes p (us ++ more) (some a) more)
    (clung : listClung (as.flatMap toks) us) :
    Takes (repeated p) (us ++ rest) as rest ∧ Behind (us ++ rest) := by
  have all {fuel : Nat} (enough : us.length < fuel) :
      Takes (repeatUpTo p fuel) (us ++ rest) as rest ∧ Behind (us ++ rest) := by
    induction as generalizing fuel us with
    | nil =>
      obtain ⟨fuel, rfl⟩ : ∃ n, fuel = n + 1 := ⟨fuel - 1, by omega⟩
      rw [show us = [] from clung]
      exact ⟨takes_repeatUpTo_none last fuel, behind⟩
    | cons a as ih =>
      obtain ⟨fuel, rfl⟩ : ∃ n, fuel = n + 1 := ⟨fuel - 1, by omega⟩
      obtain ⟨some, full⟩ := List.forall_mem_cons.mp full
      obtain ⟨start, starts⟩ := List.forall_mem_cons.mp starts
      obtain ⟨first, others⟩ := List.forall_mem_cons.mp each
      rw [List.flatMap_cons] at clung
      obtain ⟨u, u', rfl, h, h'⟩ := Token.listClung_append.mp clung
      have one := List.length_pos_iff.mpr some
      rw [← Token.length_eq_of_listClung h] at one
      rw [List.length_append] at enough
      obtain ⟨more, next⟩ := ih full starts others h' (by omega : u'.length < fuel)
      rw [List.append_assoc]
      exact ⟨takes_repeatUpTo_some (first u _ h next) more, start u _ h⟩
  refine ⟨takes_repeated (all ?_).1, (all (Nat.lt_succ_self _)).2⟩
  rw [List.length_append]
  omega

end Recordwright.Source
