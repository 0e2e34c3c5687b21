import Recordwright.Proofs.Source.Leaves

/-!
# Layouts

Tokens in a row are brackets, words, marks and literals in a row (`Bit`), and a text of them is a
layout: bits with blanks among them.  `Token.text` writes the layout `Token.listLayout`.

A layout that fits is read back bit by bit (`pieces?_laid`).  What its blanks decide is only whether
a mark clings to what follows it.
-/

namespace Recordwright.Source

open Lexer

/-- A bracket or a token that is no group. -/
inductive Bit where
  | opening (d : Delimiter)
  | closing (d : Delimiter)
  | word (raw : Bool) (name : String)
  | mark (c : Char) (joined : Bool)
  | literal (spelling : String)
  deriving DecidableEq

namespace Bit

/-- The characters of a bit. -/
def chars : Bit → List Char
  | .opening d => d.opening.take 1
  | .closing d => [d.closing]
  | .word raw name => (identText raw name).toList
  | .mark c _ => [c]
  | .literal spelling => spelling.toList

/-- The piece that a bit is for the reader of tokens. -/
def piece : Bit → Piece
  | .opening d => .opening d
  | .closing d => .closing d
  | .word raw name => .tokens [.ident raw name]
  | .mark c joined => .tokens [.punct c joined]
  | .literal spelling => .tokens [.literal spelling]

/-- What is read where the bit stands in front of a text. -/
def reread (after : List Char) : Bit → Bit
  | .mark c _ => .mark c (c == '\'' || (punctuation? after).isSome)
  | b => b

end Bit

/-- Bits with blanks among them. -/
abbrev Layout := List (Option Bit)

/-- The text of a layout. -/
def laid : Layout → List Char
  | [] => []
  | none :: L => ' ' :: laid L
  | some b :: L => b.chars ++ laid L

/-- The bits that are read off the text of a layout. -/
def reread : Layout → List Bit
  | [] => []
  | none :: L => reread L
  | some b :: L => b.reread (laid L) :: reread L

namespace Token

mutual

/-- The bits of a token. -/
def flat : Token → List Bit
  | .group d content => .opening d :: (listFlat content ++ [.closing d])
  | .ident raw name => [.word raw name]
  | .punct c joined => [.mark c joined]
  | .literal spelling => [.literal spelling]

/-- The bits of tokens in a row. -/
def listFlat : List Token → List Bit
  | [] => []
  | t :: rest => flat t ++ listFlat rest

end

mutual

/-- The bits of a token with the blanks that its text has. -/
def layout : Token → Layout
  | .group d content =>
    some (.opening d) :: ((if d = .brace then [none] else []) ++ listLayout content ++
      (if d = .brace ∧ content.length ≠ 0 then [none] else []) ++ [some (.closing d)])
  | .ident raw name => [some (.word raw name)]
  | .punct c joined => [some (.mark c joined)]
  | .literal spelling => [some (.literal spelling)]

/-- The bits of tokens in a row with the blanks that their text has. -/
def listLayout : List Token → Layout
  | [] => []
  | t :: rest =>
    layout t ++ (if t.isJoined || rest.isEmpty then [] else [none]) ++ listLayout rest

end

end Token

variable {L M : Layout} {ts : List Token} {b : Bit}

theorem laid_append (L M : Layout) : laid (L ++ M) = laid L ++ laid M := by
  induction L with
  | nil => rfl
  | cons cell L ih =>
    cases cell with
    | none => rw [List.cons_append, laid, laid, ih, List.cons_append]
    | some b => rw [List.cons_append, laid, laid, ih, List.append_assoc]

theorem laid_ite (blank : Prop) [Decidable blank] :
    laid (if blank then [none] else []) = if blank then [' '] else [] := by
  split
  · rfl
  · rfl

/-! ### The layout of a text -/

mutual

/-- The layout of a token is its text. -/
theorem Token.laid_layout (t : Token) : laid t.layout = t.chars := by
  cases t with
  | group d content =>
    have lead : (Bit.opening d).chars ++ (if d = .brace then [' '] else []) = d.opening := by
      cases d with
      | parenthesis => rfl
      | bracket => rfl
      | brace => rfl
    rw [layout, laid, laid_append, laid_append, laid_append, Token.laid_listLayout, laid_ite,
      laid_ite, chars, ← lead, List.append_assoc, List.append_assoc, List.append_assoc]
    simp [laid, Bit.chars]
  | ident raw name => exact List.append_nil _
  | punct c joined => rfl
  | literal spelling => exact List.append_nil _

theorem Token.laid_listLayout (ts : List Token) :
    laid (Token.listLayout ts) = Token.listChars ts := by
  cases ts with
  | nil => rfl
  | cons t rest =>
    have gap : laid (if (t.isJoined || rest.isEmpty) = true then [] else [none]) =
        if (t.isJoined || rest.isEmpty) = true then [] else [' '] := by
      split
      · rfl
      · rfl
    rw [listLayout, laid_append, laid_append, Token.laid_layout, Token.laid_listLayout, gap,
      listChars]

end

/-- **The text of tokens is their layout.** -/
theorem Token.toList_text (ts : List Token) :
    (Token.text ts).toList = laid (Token.listLayout ts) := by
  rw [Token.text, String.toList_ofList, Token.laid_listLayout]

/-! ### Brackets make groups -/

section Nest

mutual

/-- The bits of a token, read inside of any open groups, add the token to the innermost of them. -/
theorem nest?_flat (t : Token) (outer : List (Delimiter × List Token)) (before : List Token)
    (more : List Piece) :
    nest? outer before (t.flat.map Bit.piece ++ more) = nest? outer (t :: before) more := by
  cases t with
  | group d content =>
    -- The opening bracket puts what is before it aside, and the closing one takes it up again.
    have inner := nest?_listFlat content ((d, before) :: outer) [] (.closing d :: more)
    rw [List.append_nil] at inner
    simp only [Token.flat, List.map_cons, List.map_append, List.map_nil, List.cons_append,
      List.append_assoc, List.nil_append, Bit.piece, nest?, inner, if_true, List.reverse_reverse]
  | ident raw name => simp [Token.flat, Bit.piece, nest?]
  | punct c joined => simp [Token.flat, Bit.piece, nest?]
  | literal spelling => simp [Token.flat, Bit.piece, nest?]

theorem nest?_listFlat (ts : List Token) (outer : List (Delimiter × List Token))
    (before : List Token) (more : List Piece) :
    nest? outer before ((Token.listFlat ts).map Bit.piece ++ more) =
      nest? outer (ts.reverse ++ before) more := by
  cases ts with
  | nil => rfl
  | cons t rest =>
    rw [Token.listFlat, List.map_append, List.append_assoc, nest?_flat, nest?_listFlat,
      List.reverse_cons, List.append_assoc]
    rfl

end

/-- **Brackets are matched again.** -/
theorem nest?_bits (ts : List Token) :
    nest? [] [] ((Token.listFlat ts).map Bit.piece) = some ts := by
  have all := nest?_listFlat ts [] [] []
  rw [List.append_nil, List.append_nil] at all
  rw [all, nest?, List.reverse_reverse]

end Nest

/-! ### Layouts that fit -/

/-- The bit can be told from the layout behind it. -/
def Bit.Fits (L : Layout) : Bit → Prop
  | .opening _ => True
  | .closing _ => True
  | .word raw name =>
    Text.current.isIdentifier name = true ∧ (raw = true → neverRaw.contains name = false) ∧
      Stopped (laid L)
  | .literal spelling => Lexer.literal spelling.toList = some [] ∧ Stopped (laid L)
  | .mark c _ =>
    -- A single quote is the mark of a lifetime, so it is followed by a word at once.
    if c = '\'' then ∃ raw name, L.head? = some (some (.word raw name))
    else c ∈ punctuation ∧ (c = '/' → ∀ d ∈ (laid L).head?, d ≠ '/' ∧ d ≠ '*')

/-- Every bit can be told from what is behind it. -/
def Fits : Layout → Prop
  | [] => True
  | none :: L => Fits L
  | some b :: L => b.Fits L ∧ Fits L

namespace Lexer

variable {c : Char} {cs rest after : List Char} {t : Token}

/-- A blank in front of the text is skipped. -/
theorem pieces?_blank (fuel : Nat) (cs : List Char) :
    pieces? (fuel + 1) (' ' :: cs) = pieces? (fuel + 1) cs := rfl

/-- Only a parenthesis begins a placeholder for something that could not be read. -/
theorem starts_placeholder (other : c ≠ '(') (cs : List Char) :
    starts placeholder (c :: cs) = false := by
  simp [starts, placeholder, List.isPrefixOf, other.symm]

/-- A bracket is read off as a piece of its own. -/
theorem pieces?_bracket {p : Piece} (found : bracket? c = some p) (comment : NoComment rest)
    (fuel : Nat) : pieces? (fuel + 1) (c :: rest) = (pieces? fuel rest).map (p :: ·) := by
  have bracket : c ∈ ['(', '[', '\x7b', ')', ']', '\x7d'] := by
    revert found
    unfold bracket?
    split <;> simp
  have solid : ∀ c ∈ ['(', '[', '\x7b', ')', ']', '\x7d'], c.toNat ∉ blanks ∧ c ≠ '/' :=
    List.all_iff_forall_prop.mp (by decide)
  obtain ⟨solid, slash⟩ := solid c bracket
  have comment' : NoComment (c :: rest) := noComment_of_ne slash rest
  -- The placeholder has a comment in it, which the text behind the parenthesis does not begin.
  have full : starts placeholder (c :: rest) = false := by
    by_cases parenthesis : c = '('
    · subst parenthesis
      show starts "/*ERROR*/)" rest = false
      exact not_starts_longer comment.2 (by decide)
    · exact starts_placeholder parenthesis rest
  rw [pieces?, skipSpaces_eq comment' solid]
  simp only [documentation?_eq_none comment', full, found, Bool.false_eq_true, if_false]

/-- A token that is no group is read off where it stands. -/
theorem pieces?_leaf (solid : c.toNat ∉ blanks) (comment : NoComment (c :: cs))
    (bracket : bracket? c = none) (found : leaf? (c :: cs) = some (t, rest)) (fuel : Nat) :
    pieces? (fuel + 1) (c :: cs) = (pieces? fuel rest).map (.tokens [t] :: ·) := by
  rw [pieces?, skipSpaces_eq comment solid]
  simp only [documentation?_eq_none comment, bracket, ite_self, found]

/-- A character that can begin a token that is no group. -/
def Leads (c : Char) : Prop := c.toNat ∉ blanks ∧ bracket? c = none

theorem leads_of_isStart (start : isStart c = true) : Leads c :=
  ⟨notMem_blanks start, bracket?_eq_none start⟩

theorem leads_of_punctuation : ∀ c ∈ punctuation, Leads c := by
  unfold Leads
  exact List.all_iff_forall_prop.mp (by decide)

/-- A quote, a prefix of one, or a digit. -/
theorem leads_of_literal (done : literal (c :: cs) = some rest) : Leads c ∧ c ≠ '/' := by
  obtain lead | number := head_of_literal done
  · have all : ∀ c ∈ quotedLeads, Leads c ∧ c ≠ '/' := by
      unfold Leads
      exact List.all_iff_forall_prop.mp (by decide)
    exact all c lead
  · have all : ∀ n ∈ List.range' 48 10, Leads (Char.ofNat n) ∧ Char.ofNat n ≠ '/' := by
      unfold Leads
      decide
    simp only [Text.isAsciiDigit, Bool.and_eq_true, decide_eq_true_eq, UInt32.le_iff_toNat_le,
      UInt32.reduceToNat] at number
    have digit := all c.toNat (List.mem_range'_1.mpr ⟨number.1, Nat.lt_succ_of_le number.2⟩)
    rwa [Char.ofNat_toNat] at digit

/-- A literal has a first character. -/
theorem exists_literal {spelling : String} (done : literal spelling.toList = some []) :
    ∃ c w, spelling = String.ofList (c :: w) ∧ literal (c :: w) = some [] := by
  cases chars : spelling.toList with
  | nil =>
    rw [chars] at done
    cases done
  | cons c w => exact ⟨c, w, by rw [← chars, String.ofList_toList], chars ▸ done⟩

end Lexer

/-! ### Reading a layout that fits -/

/-- The first character of a bit that fits, and what can follow it. -/
theorem Bit.Fits.head (fits : b.Fits L) :
    ∃ c w, b.chars = c :: w ∧ c.toNat ∉ blanks ∧ NoComment (c :: (w ++ laid L)) := by
  cases b with
  | opening d => cases d <;> exact ⟨_, _, rfl, by decide, noComment_of_ne (by decide) _⟩
  | closing d => cases d <;> exact ⟨_, _, rfl, by decide, noComment_of_ne (by decide) _⟩
  | word isRaw name =>
    obtain ⟨c, w, chars, start, -⟩ := identText_cons fits.1 isRaw
    have slash : c ≠ '/' := ne_of_isStart start (by decide)
    exact ⟨c, w, chars, (leads_of_isStart start).1, noComment_of_ne slash _⟩
  | literal spelling =>
    obtain ⟨c, w, rfl, all⟩ := exists_literal fits.1
    obtain ⟨leads, slash⟩ := leads_of_literal all
    exact ⟨c, w, String.toList_ofList, leads.1, noComment_of_ne slash _⟩
  | mark c joined =>
    rw [Bit.Fits] at fits
    split at fits
    next quote =>
      subst quote
      exact ⟨_, _, rfl, by decide, noComment_of_ne (by decide) _⟩
    next =>
      obtain ⟨mark, comment⟩ := fits
      refine ⟨c, [], rfl, (leads_of_punctuation c mark).1, ?_⟩
      by_cases slash : c = '/'
      · subst slash
        exact noComment_slash (comment rfl)
      · exact noComment_of_ne slash _

/-- A layout that fits begins no comment. -/
theorem Fits.noComment (fits : Fits L) : NoComment (laid L) := by
  match L, fits with
  | [], _ => exact ⟨rfl, rfl⟩
  | none :: L, _ => exact noComment_of_ne (by decide) _
  | some b :: L, fits =>
    obtain ⟨c, w, chars, -, comment⟩ := fits.1.head
    rw [laid, chars]
    exact comment

/-- **A bit is read off the layout that it stands in front of.** -/
theorem pieces?_bit (here : b.Fits L) (fits : Fits L) (fuel : Nat) :
    pieces? (fuel + 1) (b.chars ++ laid L) =
      (pieces? fuel (laid L)).map ((b.reread (laid L)).piece :: ·) := by
  obtain ⟨c, w, chars, solid, comment⟩ := here.head
  cases b with
  | opening d => cases d <;> exact pieces?_bracket rfl fits.noComment fuel
  | closing d => cases d <;> exact pieces?_bracket rfl fits.noComment fuel
  | word isRaw name =>
    obtain ⟨identifier, allowed, stopped⟩ := here
    have leaf := leaf?_ident identifier allowed stopped
    obtain ⟨c', w', chars', start, -⟩ := identText_cons identifier isRaw
    rw [chars'] at leaf
    have comment : NoComment (c' :: (w' ++ laid L)) :=
      noComment_of_ne (ne_of_isStart start (by decide)) _
    rw [Bit.chars, chars']
    exact pieces?_leaf (notMem_blanks start) comment (bracket?_eq_none start) leaf fuel
  | literal spelling =>
    obtain ⟨done, stopped⟩ := here
    obtain ⟨c, w, rfl, all⟩ := exists_literal done
    obtain ⟨leads, slash⟩ := leads_of_literal all
    have leaf := leaf?_literal stopped all
    rw [Bit.chars, String.toList_ofList]
    exact pieces?_leaf leads.1 (noComment_of_ne slash _) leads.2 leaf fuel
  | mark c joined =>
    rw [Bit.Fits] at here
    split at here
    next quote =>
      -- The word behind the quote has to be looked at: with another quote behind its first
      -- character it would be a character in quotes and no lifetime.
      subst quote
      obtain ⟨isRaw, name, next⟩ := here
      obtain ⟨L, rfl⟩ := List.head?_eq_some_iff.mp next
      obtain ⟨identifier, allowed, stopped⟩ := fits.1
      have leaf := leaf?_quote (anyIdent?_ident identifier allowed stopped)
        (quotedChar_ident identifier isRaw stopped) stopped
      exact pieces?_leaf (by decide) (noComment_of_ne (by decide) _) rfl leaf fuel
    next other =>
      obtain ⟨mark, -⟩ := here
      cases chars
      have leaf := leaf?_punct mark other comment
      have leads := leads_of_punctuation c mark
      have told : (Bit.mark c joined).reread (laid L) =
          .mark c (punctuation? (laid L)).isSome := by
        rw [Bit.reread, beq_false_of_ne other, Bool.false_or]
      rw [told]
      exact pieces?_leaf leads.1 comment leads.2 leaf fuel

/-- **All bits of a layout are read off it**, given fuel for every character and the end. -/
theorem pieces?_laid (fits : Fits L) {fuel : Nat} (enough : (laid L).length < fuel) :
    pieces? fuel (laid L) = some ((reread L).map Bit.piece) := by
  -- Blanks are skipped without fuel, and a bit has at least one character.
  induction L generalizing fuel with
  | nil =>
    cases fuel with
    | zero => exact absurd enough (Nat.not_lt_zero _)
    | succ fuel => rfl
  | cons cell L ih =>
    obtain ⟨fuel, rfl⟩ := Nat.exists_eq_add_one_of_ne_zero (Nat.ne_zero_of_lt enough)
    cases cell with
    | none =>
      rw [laid, pieces?_blank]
      exact ih fits (Nat.lt_of_succ_lt enough)
    | some b =>
      obtain ⟨here, fits⟩ := fits
      obtain ⟨c, w, chars, -⟩ := here.head
      have shorter : (laid L).length < fuel := by
        rw [laid, chars, List.length_append, List.length_cons] at enough
        omega
      rw [laid, pieces?_bit here fits, ih fits shorter]
      rfl

/-- No layout begins with a mark for the order of bytes. -/
theorem Fits.unmarked (fits : Fits L) : ∀ c ∈ (laid L).head?, c.val ≠ 0xFEFF := by
  match L, fits with
  | [], _ => exact fun c member => nomatch member
  | none :: L, _ =>
    intro c member
    cases member
    decide
  | some b :: L, fits =>
    obtain ⟨c, w, chars, solid, -⟩ := fits.1.head
    rw [laid, chars]
    intro c' member mark
    cases member
    have number : c.toNat = 0xFEFF := congrArg UInt32.toNat mark
    exact solid (number ▸ by decide)

/-- **A layout that fits is read as the tokens with the bits that are reread.** -/
theorem tokens?_laid (fits : Fits L) {source : String} (text : source.toList = laid L)
    (bits : reread L = Token.listFlat ts) : tokens? source = some ts := by
  have pieces : pieces? ((laid L).length + 1) (laid L) =
      some ((Token.listFlat ts).map Bit.piece) := by
    rw [pieces?_laid fits (Nat.lt_succ_self _), bits]
  -- The reader looks at the first character for a mark for the order of bytes.
  have order := fits.unmarked
  cases chars : laid L with
  | nil =>
    rw [chars] at pieces
    simp only [tokens?, text, chars, pieces, Option.bind_some, nest?_bits]
  | cons c rest =>
    rw [chars] at pieces order
    simp only [tokens?, text, chars, if_neg (order c rfl), pieces, Option.bind_some, nest?_bits]

/-! ### Tokens that can be told apart -/

/-- Tokens that can be told apart in their text: words are identifiers and literals are literals,
and a mark that clings does so to a mark, or to a literal that begins like one.  A single quote
clings to the word of its lifetime. -/
inductive Legible : List Token → Prop
  | nil : Legible []
  | word {isRaw : Bool} {name : String} {rest : List Token}
      (identifier : Text.current.isIdentifier name = true)
      (allowed : isRaw = true → neverRaw.contains name = false) :
      Legible rest → Legible (.ident isRaw name :: rest)
  | literal {spelling : String} {rest : List Token} (done : literal spelling.toList = some []) :
      Legible rest → Legible (.literal spelling :: rest)
  | group (d : Delimiter) {content rest : List Token} :
      Legible content → Legible rest → Legible (.group d content :: rest)
  | alone {c : Char} {rest : List Token} (mark : c ∈ punctuation) (other : c ≠ '\'') :
      Legible rest → Legible (.punct c false :: rest)
  | joined {c d : Char} {t : Token} {rest : List Token} (mark : c ∈ punctuation) (other : c ≠ '\'')
      (next : t.chars.head? = some d) (mark' : d ∈ punctuation)
      (comment : c = '/' → d ≠ '/' ∧ d ≠ '*') :
      Legible (t :: rest) → Legible (.punct c true :: t :: rest)
  | lifetime {isRaw : Bool} {name : String} {rest : List Token} :
      Legible (.ident isRaw name :: rest) →
      Legible (.punct '\'' true :: .ident isRaw name :: rest)

/-- What stands behind a mark is found by its first character, as no comment hides it. -/
theorem punctuation?_laid (fits : Fits L) :
    punctuation? (laid L) = (laid L).head?.filter punctuation.contains := by
  have comment := fits.noComment
  cases chars : laid L with
  | nil => rfl
  | cons c rest =>
    rw [chars] at comment
    rw [punctuation?_cons comment, List.head?_cons, Option.filter_some]

/-- Blanks do not matter for whether a layout fits. -/
theorem fits_gap (blank : Prop) [Decidable blank] :
    Fits ((if blank then [none] else []) ++ L) ↔ Fits L := by
  split
  · exact Iff.rfl
  · exact Iff.rfl

/-- Blanks in front are not read as bits. -/
theorem reread_gap (blank : Prop) [Decidable blank] :
    reread ((if blank then [none] else []) ++ L) = reread L := by
  split
  · rfl
  · rfl

/-- The text is at its end, or a token ends in front of it to which nothing clings. -/
def Closed (cs : List Char) : Prop := ∀ c ∈ cs.head?, c ∈ [' ', ')', ']']

theorem closed_apart : ∀ c ∈ [' ', ')', ']'],
    c ∈ stops ∧ punctuation.contains c = false ∧ c ≠ '/' ∧ c ≠ '*' :=
  List.all_iff_forall_prop.mp (by decide)

theorem Closed.stopped {cs : List Char} (closed : Closed cs) : Stopped cs :=
  fun c member => (closed_apart c (closed c member)).1

theorem Closed.punctuation? (fits : Fits L) (closed : Closed (laid L)) :
    punctuation? (laid L) = none := by
  rw [punctuation?_laid fits, Option.filter_eq_none_iff]
  intro c member
  rw [(closed_apart c (closed c member)).2.1]
  exact Bool.false_ne_true

/-- The layout behind a token that does not cling to what follows it. -/
def behind (rest : List Token) (after : Layout) : Layout :=
  (if rest.isEmpty then [] else [none]) ++ (Token.listLayout rest ++ after)

/-- The layout of tokens, taken apart behind the first of them. -/
theorem listLayout_cons {t : Token} (alone : t.isJoined = false) (rest : List Token)
    (after : Layout) : Token.listLayout (t :: rest) ++ after = t.layout ++ behind rest after := by
  rw [Token.listLayout, alone, Bool.false_or, behind, List.append_assoc, List.append_assoc]

section Behind

variable {rest : List Token} {after : Layout}

theorem fits_behind (fits : Fits (Token.listLayout rest ++ after)) : Fits (behind rest after) := by
  cases rest with
  | nil => exact fits
  | cons t rest => exact fits

theorem reread_behind : reread (behind rest after) = reread (Token.listLayout rest ++ after) := by
  cases rest with
  | nil => rfl
  | cons t rest => rfl

theorem closed_behind (closed : Closed (laid after)) : Closed (laid (behind rest after)) := by
  cases rest with
  | nil => exact closed
  | cons t rest =>
    intro c member
    cases member
    decide

end Behind

/-- What is behind the content of a group: the closing bracket, with a blank before a brace. -/
def closer (d : Delimiter) (content : List Token) (after : Layout) : Layout :=
  (if d = .brace ∧ content.length ≠ 0 then [none] else []) ++ some (.closing d) :: after

/-- The layout of a group, taken apart behind its opening bracket. -/
theorem layout_group (d : Delimiter) (content : List Token) (after : Layout) :
    (Token.group d content).layout ++ after = some (.opening d) ::
      ((if d = .brace then [none] else []) ++
        (Token.listLayout content ++ closer d content after)) := by
  simp [Token.layout, closer]

/-- The last token of a group ends in front of the closing bracket or the blank before it. -/
theorem closed_closer {d : Delimiter} {content : List Token} (some : content ≠ [])
    (after : Layout) : Closed (laid (closer d content after)) := by
  have full : content.length ≠ 0 := mt List.eq_nil_of_length_eq_zero some
  cases d with
  | parenthesis =>
    intro c member
    cases member
    decide
  | bracket =>
    intro c member
    cases member
    decide
  | brace =>
    rw [closer, if_pos ⟨rfl, full⟩]
    intro c member
    cases member
    decide

theorem head?_laid_listLayout {t : Token} {c : Char} (first : t.chars.head? = some c)
    (rest : List Token) (after : Layout) :
    (laid (Token.listLayout (t :: rest) ++ after)).head? = some c := by
  rw [laid_append, Token.laid_listLayout, Token.listChars]
  simp [first]

/-! ### Tokens in front of a layout -/

/-- Tokens are read back in front of a layout: theirs fits there, and its bits are their own. -/
structure ReadBack (ts : List Token) (after : Layout) : Prop where
  fits : Fits (Token.listLayout ts ++ after)
  bits : reread (Token.listLayout ts ++ after) = Token.listFlat ts ++ reread after

section ReadBack

variable {rest content : List Token} {after : Layout} {c d : Char}

/-- A token of one bit that does not cling to what follows it. -/
theorem ReadBack.alone (h : ReadBack rest after) {t : Token} (single : t.layout = [some b])
    (flat : t.flat = [b]) (alone : t.isJoined = false) (here : b.Fits (behind rest after))
    (told : b.reread (laid (behind rest after)) = b) : ReadBack (t :: rest) after := by
  have split : Token.listLayout (t :: rest) ++ after = some b :: behind rest after := by
    rw [listLayout_cons alone, single]
    rfl
  constructor
  · rw [split]
    exact ⟨here, fits_behind h.fits⟩
  · rw [split, reread, told, reread_behind, h.bits, Token.listFlat, flat]
    rfl

/-- A mark that clings to what follows it. -/
theorem ReadBack.clinging (h : ReadBack rest after)
    (here : (Bit.mark c true).Fits (Token.listLayout rest ++ after))
    (told : (Bit.mark c true).reread (laid (Token.listLayout rest ++ after)) = .mark c true) :
    ReadBack (.punct c true :: rest) after := by
  have split : Token.listLayout (.punct c true :: rest) ++ after =
      some (.mark c true) :: (Token.listLayout rest ++ after) := rfl
  constructor
  · exact ⟨here, h.fits⟩
  · rw [split, reread, told, h.bits]
    rfl

/-- A group, inside of which the closing bracket comes next. -/
theorem ReadBack.group (h : ReadBack rest after) {d : Delimiter}
    (inner : ReadBack content (closer d content (behind rest after))) :
    ReadBack (.group d content :: rest) after := by
  have last : reread (closer d content (behind rest after)) =
      .closing d :: reread (behind rest after) := reread_gap _
  constructor
  · rw [listLayout_cons rfl, layout_group]
    exact ⟨trivial, (fits_gap _).mpr inner.fits⟩
  · rw [listLayout_cons rfl, layout_group, Token.listFlat, Token.flat, reread, reread_gap,
      inner.bits, last, reread_behind, h.bits]
    simp [Bit.reread]

theorem fits_closer (fits : Fits (behind rest after)) (d : Delimiter) (content : List Token) :
    Fits (closer d content (behind rest after)) :=
  (fits_gap _).mpr ⟨trivial, fits⟩

/-- A mark before a stop stays for itself. -/
theorem Closed.fits_mark (closed : Closed (laid L)) (fits : Fits L) (mark : c ∈ punctuation)
    (other : c ≠ '\'') :
    (Bit.mark c false).Fits L ∧ (Bit.mark c false).reread (laid L) = .mark c false := by
  constructor
  · rw [Bit.Fits, if_neg other]
    exact ⟨mark, fun _ d member => (closed_apart d (closed d member)).2.2⟩
  · rw [Bit.reread, closed.punctuation? fits, beq_false_of_ne other]
    rfl

/-- A mark before another mark clings to it, unless both begin a comment. -/
theorem fits_clinging (fits : Fits L) (first : (laid L).head? = some d) (mark : c ∈ punctuation)
    (other : c ≠ '\'') (mark' : d ∈ punctuation) (comment : c = '/' → d ≠ '/' ∧ d ≠ '*') :
    (Bit.mark c true).Fits L ∧ (Bit.mark c true).reread (laid L) = .mark c true := by
  constructor
  · rw [Bit.Fits, if_neg other, first]
    refine ⟨mark, ?_⟩
    rintro slash d ⟨⟩
    exact comment slash
  · rw [Bit.reread, punctuation?_laid fits, first, Option.filter_some,
      if_pos (List.contains_iff_mem.mpr mark'), Option.isSome_some, Bool.or_true]

end ReadBack

/-- Legible tokens are read back in front of any layout before which a token may end. -/
theorem Legible.readBack (legible : Legible ts) (after : Layout) (fits : Fits after)
    (closed : ts ≠ [] → Closed (laid after)) : ReadBack ts after := by
  -- For every layout behind: the content of a group has its closing bracket there.
  induction legible generalizing after with
  | nil => exact ⟨fits, rfl⟩
  | word identifier allowed _ ih =>
    have closed := closed (List.cons_ne_nil _ _)
    exact (ih after fits fun _ => closed).alone rfl rfl rfl
      ⟨identifier, allowed, (closed_behind closed).stopped⟩ rfl
  | literal done _ ih =>
    have closed := closed (List.cons_ne_nil _ _)
    exact (ih after fits fun _ => closed).alone rfl rfl rfl
      ⟨done, (closed_behind closed).stopped⟩ rfl
  | group d _ _ ihContent ih =>
    have closed := closed (List.cons_ne_nil _ _)
    have others := ih after fits fun _ => closed
    exact others.group (ihContent _ (fits_closer (fits_behind others.fits) d _)
      fun some => closed_closer some _)
  | alone mark other _ ih =>
    have closed := closed (List.cons_ne_nil _ _)
    have others := ih after fits fun _ => closed
    obtain ⟨here, told⟩ := (closed_behind closed).fits_mark (fits_behind others.fits) mark other
    exact others.alone rfl rfl rfl here told
  | joined mark other next mark' comment _ ih =>
    have others := ih after fits fun _ => closed (List.cons_ne_nil _ _)
    obtain ⟨here, told⟩ := fits_clinging others.fits (head?_laid_listLayout next _ after) mark other
      mark' comment
    exact others.clinging here told
  | lifetime _ ih =>
    have others := ih after fits fun _ => closed (List.cons_ne_nil _ _)
    exact others.clinging ⟨_, _, rfl⟩ rfl

/-- **Legible tokens are read back from their text.** -/
theorem tokens?_text (legible : Legible ts) : tokens? (Token.text ts) = some ts := by
  obtain ⟨fits, bits⟩ := legible.readBack [] trivial (fun _ c member => nomatch member)
  rw [List.append_nil] at fits bits
  exact tokens?_laid fits (Token.toList_text ts) (bits.trans (List.append_nil _))

end Recordwright.Source
