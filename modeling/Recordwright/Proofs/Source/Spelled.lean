import Recordwright.Source.Parser

/-!
# Identifiers among tokens

Every identifier among the tokens of a source is one by its characters, with a raw mark or without,
and however deep in brackets it stands (`Lexer.spelled_of_tokens?`).  An identifier that the parser
takes carries this fact beside its name, and to have it the parser looks at the characters again.
On tokens of a source that look never fails: what is refused there is refused for being a keyword
(`Parser.ident_run`).
-/

namespace Recordwright.Source

/-- All identifiers in a token, at any depth, are such by their characters. -/
inductive Token.Spelled : Token → Prop
  | ident (raw : Bool) {name : String} (h : Text.current.isIdentifier name = true) :
      Spelled (.ident raw name)
  | punct (c : Char) (joined : Bool) : Spelled (.punct c joined)
  | literal (spelling : String) : Spelled (.literal spelling)
  | group (d : Delimiter) {content : List Token} (h : ∀ t ∈ content, Spelled t) :
      Spelled (.group d content)

namespace Lexer

variable {cs rest : List Char} {name source : String} {isRaw : Bool} {t : Token} {ts : List Token}

/-! ### One token -/

/-- What is split off a text is a start character and continuing ones. -/
theorem isIdentifier_of_name? (h : name? cs = some (name, rest)) :
    Text.current.isIdentifier name = true := by
  cases cs with
  | nil => cases h
  | cons c cs =>
    by_cases start : isStart c = true
    case neg => simp [name?, start] at h
    rw [name?, if_pos start, Option.some.injEq, Prod.mk.injEq] at h
    obtain ⟨rfl, -⟩ := h
    have continued : (cs.takeWhile Text.current.isContinue).all Text.current.isContinue = true :=
      List.all_takeWhile
    rw [isStart, Bool.or_comm] at start
    rw [Text.Alphabet.isIdentifier, String.toList_ofList, Text.Alphabet.isIdentifierChars_cons,
      start, continued, Bool.and_self]

/-- A raw mark is no part of the name. -/
theorem isIdentifier_of_anyIdent? (h : anyIdent? cs = some (isRaw, name, rest)) :
    Text.current.isIdentifier name = true := by
  unfold anyIdent? at h
  split at h
  · cases split : name? (cs.drop 2) with
    | none => simp [split] at h
    | some found =>
      obtain ⟨word, after⟩ := found
      simp only [split] at h
      split at h
      · cases h
      · rw [Option.some.injEq, Prod.mk.injEq, Prod.mk.injEq] at h
        exact h.2.1 ▸ isIdentifier_of_name? split
  · cases split : name? cs with
    | none => simp [split] at h
    | some found =>
      obtain ⟨word, after⟩ := found
      simp only [split, Option.some.injEq, Prod.mk.injEq] at h
      exact h.2.1 ▸ isIdentifier_of_name? split

theorem isIdentifier_of_ident? (h : ident? cs = some (isRaw, name, rest)) :
    Text.current.isIdentifier name = true := by
  unfold ident? at h
  split at h
  · cases h
  · exact isIdentifier_of_anyIdent? h

theorem spelled_of_punct? (h : punct? cs = some (t, rest)) : t.Spelled := by
  unfold punct? at h
  dsimp only at h
  split at h
  · cases h
  · split at h
    · split at h
      · cases h
      · split at h
        · cases h
        · obtain ⟨rfl, -⟩ := Prod.mk.inj (Option.some.inj h)
          exact .punct _ _
    · obtain ⟨rfl, -⟩ := Prod.mk.inj (Option.some.inj h)
      exact .punct _ _

theorem spelled_of_leaf? (h : leaf? cs = some (t, rest)) : t.Spelled := by
  unfold leaf? at h
  -- what a stage refuses is left to the next one
  cases literal : literal cs with
  | some after =>
    obtain ⟨rfl, -⟩ := Prod.mk.inj (Option.some.inj (literal ▸ h))
    exact .literal _
  | none =>
    cases punct : punct? cs with
    | some found =>
      simp only [literal, punct, Option.some.injEq] at h
      subst h
      exact spelled_of_punct? punct
    | none =>
      cases word : ident? cs with
      | some found =>
        obtain ⟨isRaw, name, after⟩ := found
        simp only [literal, punct, word, Option.some.injEq, Prod.mk.injEq] at h
        rw [← h.1]
        exact .ident isRaw (isIdentifier_of_ident? word)
      | none =>
        simp only [literal, punct, word, Option.map_eq_some_iff, Prod.mk.injEq] at h
        obtain ⟨-, -, rfl, -⟩ := h
        exact .literal _

/-- The attribute for a comment has one word in it. -/
theorem spelled_documentationTokens (inner : Bool) (body : List Char) :
    ∀ t ∈ documentationTokens inner body, t.Spelled := by
  have doc : Text.current.isIdentifier "doc" = true := by decide
  have content : ∀ t ∈ [Token.word "doc", Token.mark '=', quotedToken (String.ofList body)],
      t.Spelled := by
    simp only [List.forall_mem_cons, List.not_mem_nil, false_implies, implies_true, and_true]
    exact ⟨.ident _ doc, .punct _ _, .literal _⟩
  intro t member
  rw [documentationTokens, List.mem_append, List.mem_append] at member
  rcases member with (member | member) | member
  · rw [List.mem_singleton.mp member]
    exact .punct _ _
  · split at member
    · rw [List.mem_singleton.mp member]
      exact .punct _ _
    · cases member
  · rw [List.mem_singleton.mp member]
    exact .group _ content

/-! ### All tokens -/

/-- The tokens of a piece are spelled so. -/
def Piece.Spelled : Piece → Prop
  | .tokens ts => ∀ t ∈ ts, t.Spelled
  | _ => True

theorem Piece.spelled_of_bracket? {c : Char} {p : Piece} (h : bracket? c = some p) :
    p.Spelled := by
  unfold bracket? at h
  split at h
  case h_7 => cases h
  all_goals
    obtain rfl := Option.some.inj h
    exact trivial

theorem spelled_of_pieces? {fuel : Nat} {ps : List Piece} (h : pieces? fuel cs = some ps) :
    ∀ p ∈ ps, p.Spelled := by
  induction fuel generalizing cs ps with
  | zero => cases h
  | succ fuel ih =>
    -- whatever the first piece is, the others are those of a rest
    have put : ∀ (first : Piece) {after : List Char}, first.Spelled →
        (pieces? fuel after).map (first :: ·) = some ps → ∀ p ∈ ps, p.Spelled := by
      intro first after spelled found
      obtain ⟨others, split, rfl⟩ := Option.map_eq_some_iff.mp found
      exact List.forall_mem_cons.mpr ⟨spelled, ih split⟩
    unfold pieces? at h
    dsimp only at h
    split at h
    · exact put (.tokens _) (spelled_documentationTokens _ _) h
    · split at h
      · obtain rfl := Option.some.inj h
        exact fun p member => absurd member List.not_mem_nil
      · split at h
        · rename_i bracket
          split at bracket
          · cases bracket
          · exact put _ (Piece.spelled_of_bracket? bracket) h
        · split at h
          · rename_i leaf
            exact put (.tokens _) (List.forall_mem_singleton.mpr (spelled_of_leaf? leaf)) h
          · cases h

/-- Grouping keeps the tokens: of the groups that are open, of the innermost one, and of the pieces
to come. -/
theorem spelled_of_nest? {outer : List (Delimiter × List Token)} {before : List Token}
    {ps : List Piece} (h : nest? outer before ps = some ts)
    (opened : ∀ g ∈ outer, ∀ t ∈ g.2, t.Spelled) (innermost : ∀ t ∈ before, t.Spelled)
    (pieces : ∀ p ∈ ps, p.Spelled) : ∀ t ∈ ts, t.Spelled := by
  fun_induction nest? outer before ps with
  | case1 before =>
    obtain rfl := Option.some.inj h
    exact fun t member => innermost t (List.mem_reverse.mp member)
  | case2 => cases h
  | case3 outer before more ps ih =>
    -- tokens join those of the innermost group
    obtain ⟨first, others⟩ := List.forall_mem_cons.mp pieces
    refine ih h opened (fun t member => ?_) others
    rcases List.mem_append.mp member with new | old
    · exact first t (List.mem_reverse.mp new)
    · exact innermost t old
  | case4 outer before d ps ih =>
    exact ih h (List.forall_mem_cons.mpr ⟨innermost, opened⟩) (fun t member => by cases member)
      (List.forall_mem_cons.mp pieces).2
  | case5 => cases h
  | case6 before outer content d ps ih =>
    -- a group that is closed becomes a token of the group around it
    obtain ⟨enclosing, others⟩ := List.forall_mem_cons.mp opened
    have closed : (Token.group d content.reverse).Spelled :=
      .group d fun t member => innermost t (List.mem_reverse.mp member)
    exact ih h others (List.forall_mem_cons.mpr ⟨closed, enclosing⟩)
      (List.forall_mem_cons.mp pieces).2
  | case7 => cases h

/-- **Identifiers of a source are identifiers.** -/
theorem spelled_of_tokens? (h : tokens? source = some ts) : ∀ t ∈ ts, t.Spelled := by
  obtain ⟨ps, pieces, nested⟩ := Option.bind_eq_some_iff.mp h
  exact spelled_of_nest? nested (fun g member => by cases member)
    (fun t member => by cases member) (spelled_of_pieces? pieces)

end Lexer

/-! ### The parser of identifiers -/

/-- The look at the characters of an identifier finds it. -/
theorem Ident.ofName?_eq_some (raw : Bool) {name : String}
    (h : Text.current.isIdentifier name = true) : ofName? raw name = some ⟨raw, name, h⟩ := by
  rw [ofName?, dif_pos h]

namespace Parser

variable {raw : Bool} {name : String} {rest : List Token}

/-- An identifier of a source is taken unless it is a keyword. -/
theorem ident_run (h : Text.current.isIdentifier name = true) (left : Option Delimiter) :
    (ident.run (.ident raw name :: rest)).run left =
      if isName raw name then .ok ((⟨raw, name, h⟩, rest), left)
      else .error (.keyword (identText raw name)) := by
  have made := Ident.ofName?_eq_some raw h
  by_cases found : isName raw name = true
  · rw [if_pos found]
    simp only [ident, StateT.run_bind, StateT.run_get, pure_bind, found, if_true, made]
    rfl
  · rw [if_neg found]
    simp only [ident, StateT.run_bind, StateT.run_get, pure_bind, found]
    rfl

end Parser

end Recordwright.Source
