import Mathlib.Logic.Relation
import Recordwright.Derive.Blueprint
import Recordwright.Proofs.Derive.Definition
import Recordwright.Proofs.Source.Retaken

/-!
# The spacing of types

The text of a type is its tokens with a blank between them, out of which `typeSpacing` takes blanks
by replacing parts of the text.  The replacements know nothing of tokens.  Nothing but blanks is
taken out (`typeName_unspaced`), but a literal can lose blanks as well, and is another one then
(`exists_typeName_altered`).

Where no literal has one of the patterns in it, every occurrence of a pattern is made of blanks and
marks of the layout (`exists_occurrence`): words have no such characters, and no literal ends with
one.  Replacing it then takes blanks out of the layout (`Tightens`), which keeps every bit apart
from its neighbours; only marks that stood alone may cling to what follows them (`Closer`).  So the
text is read back as the tokens of the type up to that (`exists_tokens?_typeName`).

Two marks that newly cling may be one operator then, as a colon and the double colons behind it are.
Where no two marks would become one, the tokens that are read mean what those of the type mean
(`exists_tokens?_typeName_of_apart`).  In a plain type two ampersands may become one, but the parser
takes them one at a time; so the text of a plain type is read back as that type
(`ofText?_typeName`).
-/

namespace Recordwright

open Source Lexer
open Relation (ReflTransGen)

/-! ### Replacements, one at a time -/

namespace Text

/-- One occurrence of a pattern is replaced. -/
inductive Rewrites (pattern replacement : List Char) : List Char → List Char → Prop
  | here (before after : List Char) :
      Rewrites pattern replacement (before ++ (pattern ++ after)) (before ++ (replacement ++ after))

variable {pattern replacement cs : List Char}

/-- A replaced part is passed over as a whole. -/
theorem replaceFrom_skip (pattern replacement : List Char) (n : Nat) (cs : List Char) :
    replaceFrom pattern replacement n cs = replaceFrom pattern replacement 0 (cs.drop n) := by
  induction n generalizing cs with
  | zero => rfl
  | succ n ih =>
    cases cs with
    | nil => rw [replaceFrom_nil, List.drop_nil, replaceFrom_nil]
    | cons c cs => rw [replaceFrom, ih, List.drop_succ_cons]

/-- An occurrence at the start gives way to the replacement, and the search goes on behind it. -/
theorem replaceFrom_prefix (some : pattern ≠ []) (after : List Char) :
    replaceFrom pattern replacement 0 (pattern ++ after) =
      replacement ++ replaceFrom pattern replacement 0 after := by
  cases pattern with
  | nil => exact absurd rfl some
  | cons c rest =>
    have found : (c :: rest).isPrefixOf (c :: (rest ++ after)) = true :=
      List.isPrefixOf_iff_prefix.mpr (List.prefix_append (c :: rest) after)
    rw [List.cons_append, replaceFrom, if_pos found, replaceFrom_skip, List.length_cons,
      Nat.add_sub_cancel, List.drop_left]

/-- **Replacing every occurrence is replacing one after the other.** -/
theorem rewrites_replaceFrom (some : pattern ≠ []) (before cs : List Char) :
    ReflTransGen (Rewrites pattern replacement) (before ++ cs)
      (before ++ replaceFrom pattern replacement 0 cs) := by
  -- On the length of what is left: behind an occurrence the search goes on several characters on.
  induction h : cs.length using Nat.strong_induction_on generalizing before cs with
  | _ n ih =>
    cases cs with
    | nil => rw [replaceFrom_nil]
    | cons c rest =>
      cases found : pattern.isPrefixOf (c :: rest) with
      | false =>
        rw [ replaceFrom_of_not_prefix found]
        have run := ih rest.length (by rw [← h]; exact Nat.lt_succ_self _) (before ++ [c]) rest rfl
        simpa using run
      | true =>
        obtain ⟨after, text⟩ := List.isPrefixOf_iff_prefix.mp found
        have shorter : after.length < n := by
          rw [← h, ← text, List.length_append]
          have : 0 < pattern.length := List.length_pos_iff.mpr some
          omega
        have run := ih after.length shorter (before ++ replacement) after rfl
        rw [← text, replaceFrom_prefix some]
        refine ReflTransGen.head (.here before after) ?_
        simpa using run

/-- What a replacement keeps of its pattern stays in the whole text. -/
theorem Rewrites.filter {cs' : List Char} (keep : Char → Bool)
    (same : replacement.filter keep = pattern.filter keep)
    (step : Rewrites pattern replacement cs cs') : cs'.filter keep = cs.filter keep := by
  obtain ⟨before, after⟩ := step
  simp only [List.filter_append, same]

/-- What every single replacement keeps, all of them keep. -/
theorem filter_replaceFrom (keep : Char → Bool) (some : pattern ≠ [])
    (same : replacement.filter keep = pattern.filter keep) (cs : List Char) :
    (replaceFrom pattern replacement 0 cs).filter keep = cs.filter keep := by
  have run : ReflTransGen (Rewrites pattern replacement) cs
    (replaceFrom pattern replacement 0 cs) := rewrites_replaceFrom some [] cs
  generalize replaceFrom pattern replacement 0 cs = cs' at run
  induction run with
  | refl => rfl
  | tail _ step ih => rw [step.filter keep same, ih]

end Text

namespace Source

/-! ### Blanks beside marks -/

/-- Blanks are taken out behind some marks and in front of others. -/
def Closes (c d : Char) : Prop := c ∈ ['<', ':', '&'] ∨ d ∈ ['<', '>', ',', ':']

/-- A blank is taken out of a layout, behind a mark or in front of one. -/
inductive Tightens : Layout → Layout → Prop
  | before {c : Char} (tight : c ∈ ['<', '>', ',', ':']) (joined : Bool) (L : Layout) :
      Tightens (none :: some (.mark c joined) :: L) (some (.mark c joined) :: L)
  | behind {c : Char} (tight : c ∈ ['<', ':', '&']) (joined : Bool) (L : Layout) :
      Tightens (some (.mark c joined) :: none :: L) (some (.mark c joined) :: L)
  | cons (cell : Option Bit) {L L' : Layout} : Tightens L L' → Tightens (cell :: L) (cell :: L')

variable {L L' : Layout} {b : Bit}

/-- Whether a bit fits depends only on the first cell and the first character behind it. -/
theorem Bit.Fits.congr (first : L.head? = L'.head?) (first' : (laid L).head? = (laid L').head?)
    (fits : b.Fits L) : b.Fits L' := by
  cases b with
  | opening d => trivial
  | closing d => trivial
  | word isRaw name =>
    obtain ⟨identifier, allowed, stopped⟩ := fits
    exact ⟨identifier, allowed, by rwa [Stopped, first'] at stopped⟩
  | literal spelling =>
    obtain ⟨done, stopped⟩ := fits
    exact ⟨done, by rwa [Stopped, first'] at stopped⟩
  | mark c joined =>
    rw [Bit.Fits] at fits ⊢
    rwa [← first, ← first']

/-- Where the first cell stays, the first character stays. -/
theorem Tightens.head (step : Tightens L L') (fits : Fits L) :
    (L.head? = L'.head? ∧ (laid L).head? = (laid L').head?) ∨
      ∃ c ∈ ['<', '>', ',', ':'], ∃ joined M,
        L = none :: some (.mark c joined) :: M ∧ L' = some (.mark c joined) :: M := by
  cases step with
  | @before c tight joined M => exact .inr ⟨c, tight, joined, M, rfl, rfl⟩
  | behind tight joined M => exact .inl ⟨rfl, rfl⟩
  | cons cell step =>
    refine .inl ⟨rfl, ?_⟩
    cases cell with
    | none => rfl
    | some b =>
      obtain ⟨c, w, chars, -⟩ := fits.1.head
      rw [laid, laid, chars]
      rfl

/-- A bit still fits when a blank is taken out of what follows it. -/
theorem Bit.Fits.tightens (here : b.Fits L) (step : Tightens L L') (fits : Source.Fits L) :
    b.Fits L' := by
  obtain ⟨first, first'⟩ | ⟨c, tight, joined, M, rfl, rfl⟩ := step.head fits
  · exact here.congr first first'
  -- The blank stood right behind the bit.  The mark that is there now ends a word or a number as
  -- well as the blank did, and begins no comment.
  · have apart : ∀ c ∈ ['<', '>', ',', ':'], c ∈ stops ∧ c ≠ '/' ∧ c ≠ '*' :=
      List.all_iff_forall_prop.mp (by decide)
    obtain ⟨stop, comment⟩ := apart c tight
    have stopped : Stopped (laid (some (.mark c joined) :: M)) := stopped_cons.mpr stop
    cases b with
    | opening d => trivial
    | closing d => trivial
    | word isRaw name => exact ⟨here.1, here.2.1, stopped⟩
    | literal spelling => exact ⟨here.1, stopped⟩
    | mark d joined' =>
      rw [Bit.Fits] at here ⊢
      split at here
      next quote =>
        -- no blank is behind a single quote
        obtain ⟨isRaw, name, next⟩ := here
        cases next
      next other =>
        rw [if_neg other]
        refine ⟨here.1, ?_⟩
        rintro - d ⟨⟩
        exact comment

/-- **Layouts still fit when a blank beside a mark is taken out.** -/
theorem Tightens.fits (step : Tightens L L') (fits : Fits L) : Fits L' := by
  induction step with
  | before tight joined M => exact fits
  | @behind c tight joined M =>
    have mark : ∀ c ∈ ['<', ':', '&'], c ≠ '\'' ∧ c ∈ punctuation ∧ c ≠ '/' :=
      List.all_iff_forall_prop.mp (by decide)
    obtain ⟨quote, mark, slash⟩ := mark c tight
    refine ⟨?_, fits.2⟩
    rw [Bit.Fits, if_neg quote]
    exact ⟨mark, fun equal => absurd equal slash⟩
  | cons cell step ih =>
    cases cell with
    | none => exact ih fits
    | some b => exact ⟨fits.1.tightens step fits.2, ih fits.2⟩

/-! ### What clings -/

/-- The same bits, but for marks that newly cling to what follows them, where they may. -/
inductive Closer (Clings : Char → Char → Prop) : List Bit → List Bit → Prop
  | nil : Closer Clings [] []
  | keep (b : Bit) {bs bs' : List Bit} : Closer Clings bs bs' → Closer Clings (b :: bs) (b :: bs')
  | cling {c d : Char} {b : Bit} {bs bs' : List Bit} (clings : Clings c d)
      (mark : d ∈ punctuation) (next : b.chars.head? = some d) :
      Closer Clings (b :: bs) bs' → Closer Clings (.mark c false :: b :: bs) (.mark c true :: bs')

namespace Closer

variable {Clings : Char → Char → Prop} {bs bs' bs'' : List Bit}

theorem refl (bs : List Bit) : Closer Clings bs bs := by
  induction bs with
  | nil => exact .nil
  | cons b bs ih => exact .keep b ih

/-- Closer bits are the same bits but for marks that newly cling. -/
theorem clung (closer : Closer Clings bs bs') : List.Forall₂ Bit.Clung bs bs' := by
  induction closer with
  | nil => exact .nil
  | keep b _ ih => exact .cons (.same b) ih
  | cling _ _ _ _ ih => exact .cons (.mark _) ih

/-- Their first bits have the same characters. -/
theorem head (closer : Closer Clings bs (b :: bs')) :
    ∃ b' more, bs = b' :: more ∧ b'.chars = b.chars := by
  cases closer with
  | keep b closer => exact ⟨b, _, rfl, rfl⟩
  | cling clings mark next closer => exact ⟨_, _, rfl, rfl⟩

/-- The first of two runs decides which marks cling that did not; the second can only add some. -/
theorem trans (first : Closer Clings bs bs') (second : Closer Clings bs' bs'') :
    Closer Clings bs bs'' := by
  induction first generalizing bs'' with
  | nil => exact second
  | keep b first ih =>
    cases second with
    | keep b second => exact .keep b (ih second)
    | cling clings mark next second =>
      obtain ⟨b', more, rfl, chars⟩ := first.head
      exact .cling clings mark (chars ▸ next) (ih second)
  | cling clings mark next first ih =>
    cases second with
    | keep b second => exact .cling clings mark next (ih second)

end Closer

/-- The operators of several characters. -/
def operators : List String :=
  ["&&", "||", "<<", ">>", "==", "!=", "<=", ">=", "+=", "-=", "*=", "/=", "%=", "^=", "&=", "|=",
    "..", "->", "<-", "=>", "::"]

/-- Joined to one another, the two marks are another token or begin one. -/
def Merges (c d : Char) : Prop := String.ofList [c, d] ∈ operators

/-- Joined to one another, the two marks are read as before.  Two angle brackets that close are as
good joined as apart, since each of them ends arguments of its own. -/
def Harmless (c d : Char) : Prop := Merges c d → c = '>' ∧ d = '>'

/-- No mark that stands alone would merge with a mark behind it. -/
def Apart (bs : List Bit) : Prop :=
  bs.IsChain fun b b' => ∀ c d, b = .mark c false → b'.chars.head? = some d → Harmless c d

/-- Where marks are apart, none merges with another when it newly clings. -/
theorem Closer.harmless {bs bs' : List Bit} (closer : Closer Closes bs bs') (apart : Apart bs) :
    Closer Harmless bs bs' := by
  induction closer with
  | nil => exact .nil
  | keep b closer ih => exact .keep b (ih apart.of_cons)
  | @cling c d b bs bs' closes mark next closer ih =>
    exact .cling ((List.isChain_cons_cons.mp apart).1 c d rfl next) mark next (ih apart.of_cons)

/-- Reading a bit again looks no further than the first character behind it. -/
theorem Bit.reread_congr (first : (laid L).head? = (laid L').head?) (fits : Source.Fits L)
    (fits' : Source.Fits L') : b.reread (laid L) = b.reread (laid L') := by
  cases b with
  | mark c joined =>
    rw [Bit.reread, Bit.reread, punctuation?_laid fits, punctuation?_laid fits', first]
  | _ => rfl

theorem Bit.chars_reread (b : Bit) (after : List Char) : (b.reread after).chars = b.chars := by
  cases b <;> rfl

/-- A punctuation character begins the first bit. -/
theorem head_of_punctuation? {d : Char} (fits : Fits L) (found : punctuation? (laid L) = some d) :
    d ∈ punctuation ∧ ∃ b bs, reread L = b :: bs ∧ b.chars.head? = some d := by
  rw [punctuation?_laid fits, Option.filter_eq_some_iff] at found
  obtain ⟨first, mark⟩ := found
  have mark := List.contains_iff_mem.mp mark
  refine ⟨mark, ?_⟩
  match L, fits with
  | [], _ => cases first
  | none :: L, _ =>
    cases first
    exact absurd mark (by decide)
  | some b :: L, fits =>
    obtain ⟨c, w, chars, -⟩ := fits.1.head
    refine ⟨_, _, rfl, ?_⟩
    rw [Bit.chars_reread, chars]
    rw [laid, chars] at first
    exact first

/-- A mark to which others may cling is what is found where it stands. -/
theorem punctuation?_mark {c : Char} (tight : c ∈ ['<', '>', ',', ':']) {joined : Bool} {M : Layout}
    (fits : Source.Fits (some (.mark c joined) :: M)) :
    c ∈ punctuation ∧ punctuation? (laid (some (.mark c joined) :: M)) = some c := by
  have all : ∀ c ∈ ['<', '>', ',', ':'], c ∈ punctuation :=
    List.all_iff_forall_prop.mp (by decide)
  refine ⟨all c tight, ?_⟩
  rw [punctuation?_laid fits]
  exact Option.filter_some_pos (List.contains_iff_mem.mpr (all c tight))

/-- **A mark newly clings only where the blank was taken out.** -/
theorem Tightens.closer (step : Tightens L L') (fits : Fits L) :
    Closer Closes (reread L) (reread L') := by
  induction step with
  | before tight joined M => exact .refl _
  | @behind c tight joined M =>
    -- The mark stood alone in front of a blank.  It clings now if a mark is behind it.
    have quote : ∀ c ∈ ['<', ':', '&'], c ≠ '\'' := List.all_iff_forall_prop.mp (by decide)
    have inner : Fits M := fits.2
    show Closer Closes ((Bit.mark c joined).reread (laid (none :: M)) :: reread M)
      ((Bit.mark c joined).reread (laid M) :: reread M)
    rw [Bit.reread, Bit.reread, beq_false_of_ne (quote c tight), Bool.false_or, Bool.false_or]
    show Closer Closes (.mark c false :: reread M) _
    cases found : punctuation? (laid M) with
    | none => exact .refl _
    | some d =>
      obtain ⟨mark, b, bs, bits, next⟩ := head_of_punctuation? inner found
      rw [bits]
      exact .cling (.inl tight) mark next (.refl _)
  | cons cell step ih =>
    cases cell with
    | none => exact ih fits
    | some b =>
      obtain ⟨here, fits⟩ := fits
      obtain ⟨-, first⟩ | ⟨c, tight, joined, M, rfl, rfl⟩ := step.head fits
      -- Either the change is further on, or the blank stood between this bit and a mark.
      · rw [reread, reread, Bit.reread_congr first fits (step.fits fits)]
        exact .keep _ (ih fits)
      · show Closer Closes (b.reread (laid (none :: some (.mark c joined) :: M)) :: _)
          (b.reread (laid (some (.mark c joined) :: M)) :: _)
        obtain ⟨mark, found⟩ := punctuation?_mark tight (step.fits fits)
        cases b with
        | mark d joined' =>
          have quote : d ≠ '\'' := by
            rintro rfl
            obtain ⟨isRaw, name, next⟩ := here
            cases next
          rw [Bit.reread, Bit.reread, found, beq_false_of_ne quote]
          exact .cling (.inr tight) mark rfl (.refl _)
        | _ => exact .keep _ (ih fits)

/-! ### Where patterns occur -/

/-- The characters of the patterns. -/
def seams : List Char := [' ', '<', '>', ',', ':', '&']

/-- A cell of a layout that is this character of a pattern. -/
inductive Seam : Option Bit → Char → Prop
  | blank : Seam none ' '
  | mark {c : Char} (other : c ≠ ' ') (joined : Bool) : Seam (some (.mark c joined)) c

/-- No literal of the layout has one of the patterns in it. -/
def Intact (L : Layout) : Prop :=
  ∀ s, some (.literal s) ∈ L → ∀ r ∈ typeSpacing, ¬ r.1.toList <:+: s.toList

theorem stop_of_seam : ∀ c ∈ seams, c ∈ stops := List.all_iff_forall_prop.mp (by decide)

theorem seam_apart : ∀ c ∈ seams,
    isLetter c = false ∧ isStart c = false ∧ c ∉ quotedLeads ∧ Text.isAsciiDigit c = false :=
  List.all_iff_forall_prop.mp (by decide)

/-- A bit that begins like a pattern is a mark. -/
theorem eq_mark_of_seam {c : Char} {w : List Char} (here : b.Fits L) (chars : b.chars = c :: w)
    (seam : c ∈ seams) : w = [] ∧ ∃ joined, b = .mark c joined := by
  -- Brackets are in no pattern, words begin with a letter, and literals with a quote or a digit.
  obtain ⟨-, start, quoted, digit⟩ := seam_apart c seam
  cases b with
  | opening d => cases d <;> cases chars <;> exact absurd seam (by decide)
  | closing d => cases d <;> cases chars <;> exact absurd seam (by decide)
  | word isRaw name =>
    obtain ⟨c', w', chars', start', -⟩ := identText_cons here.1 isRaw
    obtain ⟨rfl, -⟩ := List.cons.inj (chars.symm.trans chars')
    rw [start] at start'
    cases start'
  | literal spelling =>
    have done : Lexer.literal (c :: w) = some [] := chars ▸ here.1
    obtain lead | number := head_of_literal done
    · exact absurd lead quoted
    · rw [digit] at number
      cases number
  | mark c' joined =>
    cases chars
    exact ⟨rfl, joined, rfl⟩

/-- A word has no character of a pattern in it. -/
theorem notMem_seams_of_word {isRaw : Bool} {name : String}
    (h : Text.current.isIdentifier name = true) :
    ∀ c ∈ (identText isRaw name).toList, c ∉ seams := by
  intro c member seam
  obtain ⟨letter, -⟩ := seam_apart c seam
  obtain ⟨d, w, rfl, chars⟩ := exists_chars h
  obtain ⟨-, letters⟩ := isLetter_of_isIdentifier chars
  cases isRaw with
  | false =>
    rw [identText, if_neg Bool.false_ne_true, String.toList_ofList] at member
    rw [letters c member] at letter
    cases letter
  | true =>
    rw [toList_rawText, List.mem_cons, List.mem_cons] at member
    obtain rfl | rfl | member := member
    · exact absurd seam (by decide)
    · exact absurd seam (by decide)
    · rw [letters c member] at letter
      cases letter

section Occurrence

variable {pattern u v w : List Char} {c : Char}

/-- An occurrence begins inside of no bit.  None is in a literal, and none begins there and ends
further on, as no literal ends with a character of a pattern. -/
theorem eq_nil_of_seam (here : b.Fits L) (chars : b.chars = u ++ c :: w)
    (inside : ∀ c ∈ pattern, c ∈ seams) (seam : c ∈ seams)
    (intact : ∀ s, b = .literal s → ¬ pattern <:+: s.toList)
    (text : pattern ++ v = c :: w ++ laid L) : u = [] := by
  have single (d : Char) (one : [d] = u ++ c :: w) : u = [] := by
    cases u with
    | nil => rfl
    | cons e u => simp at one
  cases b with
  | opening d => cases d <;> exact single _ chars
  | closing d => exact single _ chars
  | mark d joined => exact single _ chars
  | word isRaw name =>
    have member : c ∈ (identText isRaw name).toList := by
      rw [show (identText isRaw name).toList = u ++ c :: w from chars]
      exact List.mem_append_right u List.mem_cons_self
    exact absurd seam (notMem_seams_of_word here.1 c member)
  | literal spelling =>
    obtain ⟨a, rest, -⟩ | ⟨a, rest, -⟩ := List.append_eq_append_iff.mp text
    · -- the whole pattern is in the literal
      have within : spelling.toList = u ++ pattern ++ a := by
        rw [List.append_assoc, ← rest]
        exact chars
      exact absurd ⟨u, a, within.symm⟩ (intact spelling rfl)
    · -- the pattern goes on behind the literal, whose last character is then one of the pattern's
      obtain ⟨w', d, last⟩ := (List.eq_nil_or_concat (c :: w)).resolve_left (List.cons_ne_nil c w)
      have member : d ∈ pattern := by
        rw [rest, last]
        simp
      have ends : spelling.toList = (u ++ w') ++ [d] := by
        rw [List.append_assoc, ← List.concat_eq_append, ← last]
        exact chars
      have done : Lexer.literal ((u ++ w') ++ [d]) = some [] := ends ▸ here.1
      exact absurd done (literal_concat_ne (stop_of_seam d (inside d member)) (u ++ w'))

/-- An occurrence that begins between two cells is made of whole cells. -/
theorem exists_cells (fits : Fits L) (inside : ∀ c ∈ pattern, c ∈ seams)
    (text : laid L = pattern ++ v) :
    ∃ Q M, L = Q ++ M ∧ List.Forall₂ Seam Q pattern ∧ laid M = v := by
  -- On the pattern: each of its characters is the whole of a cell.
  induction pattern generalizing L with
  | nil => exact ⟨[], L, rfl, .nil, text⟩
  | cons c pattern ih =>
    obtain ⟨seam, others⟩ := List.forall_mem_cons.mp inside
    cases L with
    | nil => cases text
    | cons cell L =>
      cases cell with
      | none =>
        have fits' : Fits L := fits
        obtain ⟨rfl, behind⟩ := List.cons.inj text
        obtain ⟨Q, M, rfl, cells, rest⟩ := ih fits' others behind
        exact ⟨none :: Q, M, rfl, .cons .blank cells, rest⟩
      | some b =>
        obtain ⟨here, fits⟩ := fits
        obtain ⟨d, w, chars, solid, -⟩ := here.head
        rw [laid, chars] at text
        obtain ⟨rfl, behind⟩ := List.cons.inj text
        obtain ⟨rfl, joined, rfl⟩ := eq_mark_of_seam here chars seam
        obtain ⟨Q, M, rfl, cells, rest⟩ := ih fits others behind
        have other : d ≠ ' ' := by
          rintro rfl
          exact solid (by decide)
        exact ⟨_ :: Q, M, rfl, .cons (.mark other joined) cells, rest⟩

/-- An occurrence that begins in a cell begins with it. -/
theorem eq_nil_of_cell {cell : Option Bit} (full : pattern ≠ [])
    (inside : ∀ c ∈ pattern, c ∈ seams)
    (fits : Fits (cell :: L)) (intact : ∀ s, cell = some (.literal s) → ¬ pattern <:+: s.toList)
    (chars : laid [cell] = u ++ c :: w) (text : pattern ++ v = c :: w ++ laid L) : u = [] := by
  cases cell with
  | none =>
    cases u with
    | nil => rfl
    | cons d u => simp [laid] at chars
  | some b =>
    have seam : c ∈ seams := by
      cases pattern with
      | nil => exact absurd rfl full
      | cons d pattern =>
        obtain ⟨rfl, -⟩ := List.cons.inj text
        exact inside _ List.mem_cons_self
    have whole : laid [some b] = b.chars := List.append_nil _
    have alone : ∀ s, b = .literal s → ¬ pattern <:+: s.toList :=
      fun s same => intact s (same ▸ rfl)
    exact eq_nil_of_seam fits.1 (whole ▸ chars) inside seam alone text

/-- **Where a pattern occurs in a text, its characters are blanks and marks of the layout.** -/
theorem exists_occurrence (full : pattern ≠ []) (inside : ∀ c ∈ pattern, c ∈ seams) (fits : Fits L)
    (intact : ∀ s, some (Bit.literal s) ∈ L → ¬ pattern <:+: s.toList)
    (text : laid L = u ++ (pattern ++ v)) :
    ∃ A Q M, L = A ++ (Q ++ M) ∧ laid A = u ∧ List.Forall₂ Seam Q pattern ∧ laid M = v := by
  induction L generalizing u with
  | nil =>
    have none := List.append_eq_nil_iff.mp text.symm
    exact absurd (List.append_eq_nil_iff.mp none.2).1 full
  | cons cell L ih =>
    have intact' : ∀ s, some (Bit.literal s) ∈ L → ¬ pattern <:+: s.toList :=
      fun s member => intact s (List.mem_cons_of_mem cell member)
    have split : laid (cell :: L) = laid [cell] ++ laid L := laid_append [cell] L
    have fits' : Fits L := by
      cases cell with
      | none => exact fits
      | some b => exact fits.2
    have further (u' : List Char) (before : u = laid [cell] ++ u')
        (text : laid L = u' ++ (pattern ++ v)) : ∃ A Q M, cell :: L = A ++ (Q ++ M) ∧
          laid A = u ∧ List.Forall₂ Seam Q pattern ∧ laid M = v := by
      obtain ⟨A, Q, M, rfl, before', cells, rest⟩ := ih fits' intact' text
      refine ⟨cell :: A, Q, M, rfl, ?_, cells, rest⟩
      rw [before, ← before']
      exact laid_append [cell] A
    -- The occurrence begins behind the first cell, or in it and then with it.
    rw [split] at text
    obtain ⟨u', before, rest⟩ | ⟨w, chars, rest⟩ := List.append_eq_append_iff.mp text
    · exact further u' before rest
    · cases w with
      | nil =>
        rw [List.append_nil] at chars
        exact further [] (by rw [chars, List.append_nil]) rest.symm
      | cons c w =>
        have here : ∀ s, cell = some (Bit.literal s) → ¬ pattern <:+: s.toList :=
          fun s same => intact s (same ▸ List.mem_cons_self)
        obtain rfl := eq_nil_of_cell full inside fits here chars rest
        rw [← split] at text
        obtain ⟨Q, M, rest, cells, after⟩ := exists_cells fits inside text
        exact ⟨[], Q, M, rest, rfl, cells, after⟩

end Occurrence

/-! ### The patterns -/

/-- A step further on is a step of the whole layout. -/
theorem Tightens.append (A : Layout) (step : Tightens L L') : Tightens (A ++ L) (A ++ L') := by
  induction A with
  | nil => exact step
  | cons cell A ih => exact .cons cell ih

theorem run_append (A : Layout) (run : ReflTransGen Tightens L L') :
    ReflTransGen Tightens (A ++ L) (A ++ L') := by
  induction run with
  | refl => exact .refl
  | tail _ step ih => exact ih.tail (step.append A)

section Patterns

variable {Q : Layout} {cs : List Char} {c : Char}

theorem cells_blank (cells : List.Forall₂ Seam Q (' ' :: cs)) :
    ∃ Q', Q = none :: Q' ∧ List.Forall₂ Seam Q' cs := by
  cases cells with
  | cons first rest =>
    cases first with
    | blank => exact ⟨_, rfl, rest⟩
    | mark other joined => exact absurd rfl other

theorem cells_mark (other : c ≠ ' ') (cells : List.Forall₂ Seam Q (c :: cs)) :
    ∃ joined Q', Q = some (.mark c joined) :: Q' ∧ List.Forall₂ Seam Q' cs := by
  cases cells with
  | cons first rest =>
    cases first with
    | blank => exact absurd rfl other
    | mark _ joined => exact ⟨joined, _, rfl, rest⟩

variable (M : Layout)

/-- A blank in front of a mark. -/
theorem tighter_before (tight : c ∈ ['<', '>', ',', ':'])
    (cells : List.Forall₂ Seam Q [' ', c]) :
    ∃ Q', laid Q' = [c] ∧ ReflTransGen Tightens (Q ++ M) (Q' ++ M) := by
  have other : c ≠ ' ' := by
    rintro rfl
    exact absurd tight (by decide)
  obtain ⟨Q, rfl, rest⟩ := cells_blank cells
  obtain ⟨joined, Q, rfl, ⟨⟩⟩ := cells_mark other rest
  exact ⟨[some (.mark c joined)], rfl, .single (.before tight joined M)⟩

/-- A blank behind a mark. -/
theorem tighter_behind (tight : c ∈ ['<', ':', '&']) (cells : List.Forall₂ Seam Q [c, ' ']) :
    ∃ Q', laid Q' = [c] ∧ ReflTransGen Tightens (Q ++ M) (Q' ++ M) := by
  have other : c ≠ ' ' := by
    rintro rfl
    exact absurd tight (by decide)
  obtain ⟨joined, Q, rfl, rest⟩ := cells_mark other cells
  obtain ⟨Q, rfl, ⟨⟩⟩ := cells_blank rest
  exact ⟨[some (.mark c joined)], rfl, .single (.behind tight joined M)⟩

/-- A blank behind two colons is behind the second of them. -/
theorem tighter_colons (cells : List.Forall₂ Seam Q [':', ':', ' ']) :
    ∃ Q', laid Q' = [':', ':'] ∧ ReflTransGen Tightens (Q ++ M) (Q' ++ M) := by
  have tight : ':' ∈ ['<', ':', '&'] := by decide
  obtain ⟨joined, Q, rfl, rest⟩ := cells_mark (by decide) cells
  obtain ⟨Q', text, run⟩ := tighter_behind M tight rest
  exact ⟨some (.mark ':' joined) :: Q', congrArg (':' :: ·) text, run_append [_] run⟩

/-- Blanks on both sides of two colons: first the one behind them, then the one in front. -/
theorem tighter_spaced (cells : List.Forall₂ Seam Q [' ', ':', ':', ' ']) :
    ∃ Q', laid Q' = [':', ':'] ∧ ReflTransGen Tightens (Q ++ M) (Q' ++ M) := by
  obtain ⟨Q, rfl, rest⟩ := cells_blank cells
  obtain ⟨Q', text, run⟩ := tighter_colons M rest
  obtain ⟨joined, Q, rfl, -⟩ := cells_mark (by decide) rest
  exact ⟨Q', text, run.head (.before (by decide) joined (Q ++ M))⟩

end Patterns

/-- Where the cells of a pattern stand, blanks can be taken out until its replacement is left. -/
theorem exists_tighter {r : String × String} (member : r ∈ typeSpacing) {Q : Layout}
    (cells : List.Forall₂ Seam Q r.1.toList) (M : Layout) :
    ∃ Q', laid Q' = r.2.toList ∧ ReflTransGen Tightens (Q ++ M) (Q' ++ M) := by
  simp only [typeSpacing, List.mem_cons, List.not_mem_nil, or_false] at member
  obtain rfl | rfl | rfl | rfl | rfl | rfl | rfl := member
  · exact tighter_before M (by decide) cells
  · exact tighter_behind M (by decide) cells
  · exact tighter_before M (by decide) cells
  · exact tighter_before M (by decide) cells
  · exact tighter_spaced M cells
  · exact tighter_colons M cells
  · exact tighter_behind M (by decide) cells

/-! ### Runs -/

/-- Taking blanks out adds no cell. -/
theorem Tightens.mem {cell : Option Bit} (step : Tightens L L') (member : cell ∈ L') :
    cell ∈ L := by
  induction step with
  | before tight joined M => exact List.mem_cons_of_mem _ member
  | behind tight joined M =>
    obtain rfl | member := List.mem_cons.mp member
    · exact List.mem_cons_self
    · exact List.mem_cons_of_mem _ (List.mem_cons_of_mem _ member)
  | cons cell' step ih =>
    obtain rfl | member := List.mem_cons.mp member
    · exact List.mem_cons_self
    · exact List.mem_cons_of_mem _ (ih member)

/-- What blanks that are taken out one after the other leave of a layout. -/
structure Tighter (L L' : Layout) : Prop where
  fits : Fits L'
  intact : Intact L'
  closer : Closer Closes (reread L) (reread L')

/-- **Everything a single step keeps is kept by a run of them.** -/
theorem Tighter.of_run (run : ReflTransGen Tightens L L') (fits : Fits L) (intact : Intact L) :
    Tighter L L' := by
  induction run with
  | refl => exact ⟨fits, intact, .refl _⟩
  | tail _ step ih =>
    obtain ⟨fits, intact, closer⟩ := ih
    exact ⟨step.fits fits, fun s member => intact s (step.mem member),
      closer.trans (step.closer fits)⟩

theorem Tighter.trans {L'' : Layout} (first : Tighter L L') (second : Tighter L' L'') :
    Tighter L L'' :=
  ⟨second.fits, second.intact, first.closer.trans second.closer⟩

variable {r : String × String} {cs : List Char}

/-- **Where no literal has the pattern in it, replacing it takes blanks out of the layout.** -/
theorem exists_tighter_of_rewrites (member : r ∈ typeSpacing) (fits : Fits L) (intact : Intact L)
    (step : Text.Rewrites r.1.toList r.2.toList (laid L) cs) :
    ∃ L', laid L' = cs ∧ Tighter L L' := by
  generalize text : laid L = whole at step
  obtain ⟨u, v⟩ := step
  have patterns : ∀ r ∈ typeSpacing, r.1.toList ≠ [] ∧ r.1.toList.all (· ∈ seams) := by decide
  obtain ⟨full, inside⟩ := patterns r member
  have inside := List.all_iff_forall_prop.mp inside
  obtain ⟨A, Q, M, rfl, before, cells, after⟩ :=
    exists_occurrence full inside fits (fun s literal => intact s literal r member) text
  obtain ⟨Q', replacement, run⟩ := exists_tighter member cells M
  refine ⟨A ++ (Q' ++ M), ?_, .of_run (run_append A run) fits intact⟩
  rw [laid_append, laid_append, before, replacement, after]

/-- One round of replacements: each occurrence is replaced in a layout that still fits and still has
its literals intact, so the next one is made of blanks and marks again. -/
theorem exists_tighter_of_replaced (member : r ∈ typeSpacing) (fits : Fits L) (intact : Intact L)
    {text : String} (laidOut : text.toList = laid L) :
    ∃ L', (Text.replaced r.1 r.2 text).toList = laid L' ∧ Tighter L L' := by
  have full : ∀ r ∈ typeSpacing, r.1.toList ≠ [] := by decide
  have run : ReflTransGen (Text.Rewrites r.1.toList r.2.toList) (laid L)
      (Text.replaceFrom r.1.toList r.2.toList 0 (laid L)) :=
    Text.rewrites_replaceFrom (full r member) [] (laid L)
  rw [Text.replaced, String.toList_ofList, laidOut]
  generalize Text.replaceFrom r.1.toList r.2.toList 0 (laid L) = cs at run
  induction run with
  | refl => exact ⟨L, rfl, fits, intact, .refl _⟩
  | tail _ step ih =>
    obtain ⟨L₁, text, first⟩ := ih
    rw [text] at step
    obtain ⟨L₂, text, second⟩ := exists_tighter_of_rewrites member first.fits first.intact step
    exact ⟨L₂, text.symm, first.trans second⟩

/-- All rounds, one after the other. -/
theorem exists_tighter_of_foldl {rs : List (String × String)} (members : ∀ r ∈ rs, r ∈ typeSpacing)
    (fits : Fits L) (intact : Intact L) {text : String} (laidOut : text.toList = laid L) :
    ∃ L', (rs.foldl (fun text r => Text.replaced r.1 r.2 text) text).toList = laid L' ∧
      Tighter L L' := by
  induction rs generalizing L text with
  | nil => exact ⟨L, laidOut, fits, intact, .refl _⟩
  | cons r rs ih =>
    obtain ⟨member, members⟩ := List.forall_mem_cons.mp members
    obtain ⟨L₁, laidOut, first⟩ := exists_tighter_of_replaced member fits intact laidOut
    obtain ⟨L₂, laidOut, second⟩ := ih members first.fits first.intact laidOut
    exact ⟨L₂, laidOut, first.trans second⟩

/-- Literals are read again as they are. -/
theorem mem_reread {s : String} (member : some (Bit.literal s) ∈ L) :
    Bit.literal s ∈ reread L := by
  induction L with
  | nil => cases member
  | cons cell L ih =>
    cases cell with
    | none => exact ih (List.mem_of_ne_of_mem (by simp) member)
    | some b =>
      obtain same | member := List.mem_cons.mp member
      · cases same
        exact List.mem_cons_self
      · exact List.mem_cons_of_mem _ (ih member)

end Source

/-- **Only blanks are taken out of the text of a type.** -/
theorem typeName_unspaced (t : Ty) : (typeName t).toList.filter (· ≠ ' ') =
    (Token.text t.tokens).toList.filter (· ≠ ' ') := by
  have blanks : ∀ r ∈ typeSpacing, r.1.toList ≠ [] ∧
      r.2.toList.filter (· ≠ ' ') = r.1.toList.filter (· ≠ ' ') := by decide
  rw [typeName]
  generalize Token.text t.tokens = text
  generalize typeSpacing = rs at blanks
  induction rs generalizing text with
  | nil => rfl
  | cons r rs ih =>
    obtain ⟨⟨some, same⟩, blanks⟩ := List.forall_mem_cons.mp blanks
    rw [List.foldl_cons, ih _ blanks, Text.replaced, String.toList_ofList,
      Text.filter_replaceFrom _ some same]

/-- **The text of a type is read back as the tokens that the type is written with, up to marks that
newly cling**, where its literals have none of the patterns in them. -/
theorem exists_tokens?_typeName {t : Ty} (legible : Legible t.tokens)
    (intact : ∀ s, Bit.literal s ∈ Token.listFlat t.tokens →
      ∀ r ∈ typeSpacing, ¬ r.1.toList <:+: s.toList) :
    ∃ ts, tokens? (typeName t) = some ts ∧ Token.listClung t.tokens ts ∧
      Closer Closes (Token.listFlat t.tokens) (Token.listFlat ts) := by
  obtain ⟨fits, bits⟩ := legible.readBack [] trivial (fun _ c member => nomatch member)
  -- Printed tokens fit, and reading them again changes none of them: that is where the runs start.
  have bits : reread (Token.listLayout t.tokens) = Token.listFlat t.tokens := by
    rw [List.append_nil] at bits
    exact bits.trans (List.append_nil _)
  rw [List.append_nil] at fits
  have intact : Intact (Token.listLayout t.tokens) :=
    fun s member => intact s (bits ▸ mem_reread member)
  obtain ⟨L, text, tighter⟩ := exists_tighter_of_foldl (fun _ member => member) fits intact
    (Token.toList_text t.tokens)
  have closer := tighter.closer
  rw [bits] at closer
  obtain ⟨ts, found, clung⟩ := Token.exists_listFlat t.tokens (reread L) closer.clung
  exact ⟨ts, tokens?_laid tighter.fits text found, clung, found ▸ closer⟩

/-- **Nothing merges in the text of a type** whose marks are apart and whose literals have none of
the patterns in them: it is read back as the tokens that the type is written with, of which only
marks that are harmless there newly cling. -/
theorem exists_tokens?_typeName_of_apart {t : Ty} (legible : Legible t.tokens)
    (intact : ∀ s, Bit.literal s ∈ Token.listFlat t.tokens →
      ∀ r ∈ typeSpacing, ¬ r.1.toList <:+: s.toList)
    (apart : Apart (Token.listFlat t.tokens)) :
    ∃ ts, tokens? (typeName t) = some ts ∧ Token.listClung t.tokens ts ∧
      Closer Harmless (Token.listFlat t.tokens) (Token.listFlat ts) := by
  obtain ⟨ts, read, clung, closer⟩ := exists_tokens?_typeName legible intact
  exact ⟨ts, read, clung, closer.harmless apart⟩

-- a colon merges with the two colons behind it, and what is left is no type
example : (Ty.ofText? "fn(x: ::core::primitive::u8)").map (fun t =>
    (typeName t, (Ty.ofText? (typeName t)).isSome)) =
      some ("fn (x :::core::primitive::u8)", false) := by decide +kernel

/-- **The text of a plain type is read back as the type.** -/
theorem ofText?_typeName {t : Ty} (plain : t.IsPlain) : Ty.ofText? (typeName t) = some t := by
  obtain ⟨legible, blankless⟩ := Ty.IsPlain.neat t plain
  have intact : ∀ s, Bit.literal s ∈ Token.listFlat t.tokens →
      ∀ r ∈ typeSpacing, ¬ r.1.toList <:+: s.toList := by
    have blank : ∀ r ∈ typeSpacing, ' ' ∈ r.1.toList := by decide
    exact fun s member r replaced inside => blankless s member (inside.subset (blank r replaced))
  obtain ⟨ts, read, clung, -⟩ := exists_tokens?_typeName legible intact
  -- as many tokens are read as the type has, so the parser goes deep enough for it
  have enough : Token.listWeight t.tokens ≤ 2 * Token.listWeight ts + 5 := by
    rw [Token.listWeight_eq_of_listClung _ _ clung]
    omega
  have taken : Parser.Takes (Grammar.type (Knot.forTokens ts) true) ts t [] := by
    have taken := plain.retakes enough true ts [] clung endsType_nil
    rwa [List.append_nil] at taken
  rw [Ty.ofText?, read]
  simp only [Parser.runAll, taken none]
  rfl

-- the ampersands cling to one another then, and the double colons to the word before them
example : (Ty.ofText? "Map<&&str, *const ::core::Never>").map (fun t =>
    (Token.text t.tokens, typeName t)) =
      some ("Map < & & str , * const :: core :: Never >", "Map<&&str, * const::core::Never>") := by
  decide +kernel

/-- The source of a struct with an array as long as a text. -/
def packetSource : String := "struct Packet \x7b length: [u8; \"a < b\".len()] \x7d"

/-- **A literal with a pattern in it is altered**: the array that is as long as `a < b` is read back
as one that is as long as `a<b`. -/
theorem exists_typeName_altered :
    ∃ item d b f t, Item.ofText? packetSource = some item ∧ Definition.ofItem item = .ok d ∧
      d.blueprint = .ok b ∧ d.kept = [f] ∧ Ty.ofText? (typeName f.type) = some t ∧ t ≠ f.type ∧
      Token.text f.type.tokens = "[u8 ; \"a < b\" . len ()]" ∧
      Token.text t.tokens = "[u8 ; \"a<b\" . len ()]" := by
  have facts : ((Item.ofText? packetSource).bind fun item =>
      (Definition.ofItem item).toOption.bind fun d => d.blueprint.toOption.map fun _ =>
        d.kept.map fun f => (Token.text f.type.tokens,
          (Ty.ofText? (typeName f.type)).map fun t => Token.text t.tokens)) =
      some [("[u8 ; \"a < b\" . len ()]", some "[u8 ; \"a<b\" . len ()]")] := by decide +kernel
  obtain ⟨item, parsed, facts⟩ := Option.bind_eq_some_iff.mp facts
  obtain ⟨d, defined, facts⟩ := Option.bind_eq_some_iff.mp facts
  obtain ⟨b, derived, facts⟩ := Option.map_eq_some_iff.mp facts
  obtain ⟨f, rest, kept, texts, facts⟩ := List.map_eq_cons_iff.mp facts
  obtain rfl := List.map_eq_nil_iff.mp facts
  obtain ⟨written, read⟩ := Prod.mk.inj texts
  obtain ⟨t, read, altered⟩ := Option.map_eq_some_iff.mp read
  refine ⟨item, d, b, f, t, parsed, eq_ok_of_toOption defined, eq_ok_of_toOption derived, kept,
    read, ?_, written, altered⟩
  rintro rfl
  exact absurd (written.symm.trans altered) (by decide)

end Recordwright
