import Recordwright.Proofs.Source.Spelled

/-!
# What parsers take

`Parser.Takes` says what a parser takes from the front of the tokens and what it leaves.  Parsers in
a row compose (`Takes.bind`), so what is known of marks and words carries over to what is made of
them.  A parser that takes something notes nothing: no group was left before its end.
-/

namespace Recordwright.Source.Parser

variable {α β : Type} {ts mid rest : List Token} {a : α} {b : β} {s w : String}

/-! ### Parsers in a row -/

/-- The parser takes a result from the front of the tokens and leaves the rest. -/
def Takes (p : Parser α) (ts : List Token) (a : α) (rest : List Token) : Prop :=
  ∀ left, (p.run ts).run left = .ok ((a, rest), left)

/-- What comes second runs on what the first parser leaves. -/
theorem Takes.run_bind {p : Parser α} {k : α → Parser β} (first : Takes p ts a mid)
    (left : Option Delimiter) : ((p >>= k).run ts).run left = ((k a).run mid).run left := by
  rw [StateT.run_bind, StateT.run_bind, first left]
  rfl

theorem Takes.bind {p : Parser α} {k : α → Parser β} (first : Takes p ts a mid)
    (next : Takes (k a) mid b rest) : Takes (p >>= k) ts b rest := by
  intro left
  rw [first.run_bind left]
  exact next left

theorem takes_pure (a : α) (ts : List Token) : Takes (pure a) ts a ts := fun _ => rfl

theorem takes_get (ts : List Token) : Takes (get : Parser (List Token)) ts ts ts := fun _ => rfl

/-- A look that finds nothing leads to the second branch. -/
theorem Takes.skip {p : Parser Bool} {q r : Parser α} (no : Takes p ts false mid)
    (next : Takes q mid a rest) : Takes (p >>= fun b => if b = true then r else q) ts a rest :=
  no.bind next

/-- A look that finds something leads to the first branch. -/
theorem Takes.choose {p : Parser Bool} {q r : Parser α} (yes : Takes p ts true mid)
    (next : Takes r mid a rest) : Takes (p >>= fun b => if b = true then r else q) ts a rest :=
  yes.bind next

theorem Takes.map {p : Parser α} {f : α → β} (h : Takes p ts a rest) :
    Takes (f <$> p) ts (f a) rest := by
  intro left
  rw [StateT.run_map, StateT.run_map, h left]
  rfl

/-! ### Looks -/

theorem takes_peekMark (s : String) (ts : List Token) :
    Takes (peekMark s) ts (startsWith s.toList ts) ts := fun _ => rfl

/-- A mark whose first character does not come next does not come next. -/
theorem startsWith_eq_false {c : Char} {cs : List Char}
    (h : ∀ joined more, ts ≠ .punct c joined :: more) : startsWith (c :: cs) ts = false := by
  match ts, cs with
  | [], [] | [], _ :: _ => rfl
  | .ident .. :: _, [] | .ident .. :: _, _ :: _ => rfl
  | .literal _ :: _, [] | .literal _ :: _, _ :: _ => rfl
  | .group .. :: _, [] | .group .. :: _, _ :: _ => rfl
  | .punct d joined :: more, cs =>
    have other : (c == d) = false := by
      rw [beq_eq_false_iff_ne]
      rintro rfl
      exact h joined more rfl
    cases cs with
    | nil => exact other
    | cons c' cs =>
      cases joined with
      | false => rfl
      | true =>
        show (c == d && _) = false
        rw [other, Bool.false_and]

theorem startsWith_punct {c d : Char} (other : c ≠ d) (cs : List Char) (joined : Bool)
    (more : List Token) : startsWith (c :: cs) (.punct d joined :: more) = false := by
  refine startsWith_eq_false ?_
  rintro _ _ ⟨⟩
  exact other rfl

/-- A mark does not come next if what is behind its first character does not come next there. -/
theorem startsWith_cons_eq_false {c d : Char} {cs : List Char} (some : cs ≠ [])
    (h : startsWith cs ts = false) (joined : Bool) :
    startsWith (c :: cs) (.punct d joined :: ts) = false := by
  cases cs with
  | nil => exact absurd rfl some
  | cons c' cs =>
    cases joined with
    | false => rfl
    | true =>
      show (c == d && startsWith (c' :: cs) ts) = false
      rw [h, Bool.and_false]

/-- Looking for a word takes nothing. -/
theorem exists_takes_peekWord (w : String) (ts : List Token) :
    ∃ b, Takes (peekWord w) ts b ts := by
  match ts with
  | .ident false name :: _ => exact ⟨name == w, fun _ => rfl⟩
  | .ident true _ :: _ => exact ⟨false, fun _ => rfl⟩
  | .punct .. :: _ => exact ⟨false, fun _ => rfl⟩
  | .literal _ :: _ => exact ⟨false, fun _ => rfl⟩
  | .group .. :: _ => exact ⟨false, fun _ => rfl⟩
  | [] => exact ⟨false, fun _ => rfl⟩

/-- Looking ahead takes nothing. -/
theorem exists_takes_peekBehind (n : Nat) (p : Parser Bool) (ts : List Token) :
    ∃ b, Takes (peekBehind n p) ts b ts := by
  cases found : tried? p (n.repeat behindNext ts) with
  | none =>
    refine ⟨false, (takes_get ts).bind ?_⟩
    rw [found]
    exact takes_pure _ _
  | some found' =>
    refine ⟨found'.1, (takes_get ts).bind ?_⟩
    rw [found]
    exact takes_pure _ _

theorem takes_peekBehind (n : Nat) (s : String) (ts : List Token) :
    Takes (peekBehind n (peekMark s)) ts (startsWith s.toList (n.repeat behindNext ts)) ts :=
  fun _ => rfl

/-! ### Marks -/

/-- A mark is taken where it stands, and refused where it does not. -/
theorem mark_run (s : String) (ts : List Token) (left : Option Delimiter) :
    ((mark s).run ts).run left = if startsWith s.toList ts then
        .ok ((operator s, ts.drop s.length), left)
      else .error (.expected ("expected `" ++ s ++ "`") false) := by
  have run : (mark s).run ts =
      (if startsWith s.toList ts then do set (ts.drop s.length); return operator s
      else failPlainly ("expected `" ++ s ++ "`")).run ts := rfl
  rw [run]
  cases startsWith s.toList ts <;> rfl

/-- A mark that stands there is taken. -/
theorem takes_mark (h : startsWith s.toList ts = true) :
    Takes (mark s) ts (operator s) (ts.drop s.length) := by
  intro left
  rw [mark_run, if_pos h]

theorem mark_run_error (h : startsWith s.toList ts = false) (left : Option Delimiter) :
    ((mark s).run ts).run left = .error (.expected ("expected `" ++ s ++ "`") false) := by
  rw [mark_run, if_neg (ne_true_of_eq_false h)]

/-- Where a mark may stand, it is taken if it does. -/
theorem takes_mark?_true (h : startsWith s.toList ts = true) :
    Takes (mark? s) ts true (ts.drop s.length) := by
  refine (takes_peekMark s ts).bind ?_
  rw [h]
  exact (takes_mark h).bind (takes_pure _ _)

theorem takes_mark?_false (h : startsWith s.toList ts = false) : Takes (mark? s) ts false ts := by
  refine (takes_peekMark s ts).bind ?_
  rw [h]
  exact takes_pure _ _

/-! ### Groups -/

/-- The content of a group is read to its end. -/
theorem Takes.inside {p : Parser α} {d : Delimiter} {content : List Token}
    (h : Takes p content a []) (rest : List Token) :
    Takes (Parser.inside d p) (.group d content :: rest) a rest := by
  intro left
  have run : (Parser.inside d p).run (.group d content :: rest) =
      (do set content; let a ← p; noteLeftOver d; set rest; return a : Parser α).run
        (.group d content :: rest) := by
    simp [Parser.inside]
  have enter : Takes (set content) (.group d content :: rest) () content := fun _ => rfl
  have leave : Takes (do noteLeftOver d; set rest; return a) [] a rest := fun _ => rfl
  rw [run]
  exact enter.bind (h.bind leave) left

/-! ### Identifiers -/

theorem takes_peekAnyIdent (i : Ident) (rest : List Token) :
    Takes peekAnyIdent (i.token :: rest) true (i.token :: rest) := fun _ => rfl

theorem takes_anyIdent (i : Ident) (rest : List Token) :
    Takes anyIdent (i.token :: rest) i rest := by
  intro left
  -- the token holds the spelling alone, which is checked again
  have made : Ident.ofName? i.raw i.name = some i := Ident.ofName?_eq_some i.raw i.isIdentifier
  show ((anyIdent.run (i.token :: rest)).run left) = _
  simp only [anyIdent, Ident.token, StateT.run_bind, StateT.run_get, pure_bind, made]
  rfl

section Names

variable {i : Ident}

/-- A name is no keyword. -/
theorem takes_peekWord_name (h : isName i.raw i.name = true) (keyword : w ∈ Ident.keywords) :
    Takes (peekWord w) (i.token :: ts) false (i.token :: ts) := by
  obtain ⟨raw, name, identifier⟩ := i
  cases raw with
  | true => exact fun _ => rfl
  | false =>
    have other : (name == w) = false := by
      rw [beq_eq_false_iff_ne]
      rintro rfl
      simp [isName, identText, keyword] at h
    intro left
    show Except.ok ((name == w, _), left) = _
    rw [other]

theorem takes_peekIdent_name (h : isName i.raw i.name = true) :
    Takes peekIdent (i.token :: ts) true (i.token :: ts) := by
  intro left
  show Except.ok ((isName i.raw i.name, _), left) = _
  rw [h]

theorem takes_ident_name (h : isName i.raw i.name = true) (rest : List Token) :
    Takes ident (i.token :: rest) i rest := by
  have made : Ident.ofName? i.raw i.name = some i := Ident.ofName?_eq_some i.raw i.isIdentifier
  intro left
  simp only [ident, Ident.token, StateT.run_bind, StateT.run_get, pure_bind, h, if_true, made]
  rfl

theorem takes_lifetime (l : Ident) (rest : List Token) :
    Takes lifetime (Lifetime.tokens l ++ rest) l rest := by
  have made : Ident.ofName? l.raw l.name = some l := Ident.ofName?_eq_some l.raw l.isIdentifier
  intro left
  show ((lifetime.run (.punct '\'' true :: .ident l.raw l.name :: rest)).run left) = _
  simp only [lifetime, StateT.run_bind, StateT.run_get, pure_bind, made]
  rfl

end Names

/-! ### Literals -/

/-- The only words that are literals are the two truth values. -/
theorem run_literal_ident {name : String} (yes : name ≠ "true") (no : name ≠ "false")
    (rest : List Token) : (literal.run (.ident false name :: rest)).run none =
      .error (.expected "expected literal" false) := by
  simp [literal, yes, no]
  rfl

/-- The only mark that begins a literal is a minus sign. -/
theorem run_literal_punct {c : Char} (minus : c ≠ '-') (joined : Bool) (rest : List Token) :
    (literal.run (.punct c joined :: rest)).run none =
      .error (.expected "expected literal" false) := by
  simp [literal, minus]
  rfl

/-! ### Repetition -/

/-- The first look that finds nothing ends a repetition. -/
theorem takes_repeatUpTo_none {p : Parser (Option α)} (h : Takes p ts none rest) (fuel : Nat) :
    Takes (repeatUpTo p fuel.succ) ts [] rest := h.bind (takes_pure _ _)

/-- A look that finds something is followed by others. -/
theorem takes_repeatUpTo_some {p : Parser (Option α)} {as : List α} {fuel : Nat}
    (first : Takes p ts (some a) mid) (more : Takes (repeatUpTo p fuel) mid as rest) :
    Takes (repeatUpTo p fuel.succ) ts (a :: as) rest :=
  first.bind (more.bind (takes_pure _ _))

/-- A repetition may go on for as long as there are tokens. -/
theorem takes_repeated {p : Parser (Option α)} {as : List α}
    (h : Takes (repeatUpTo p (ts.length + 1)) ts as rest) : Takes (repeated p) ts as rest :=
  (takes_get ts).bind h

end Recordwright.Source.Parser
