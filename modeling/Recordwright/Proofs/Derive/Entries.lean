import Mathlib.Data.List.Forall2
import Recordwright.Proofs.Derive.Definition
import Recordwright.Proofs.Source.Taken

/-!
# Entries as they are written

An attribute called `record` is written as entries with commas between them, and an entry as a path
with something behind it: nothing, a group, or an equals sign and a value (`Entry.Written`).  The
reader takes the entries one by one.  What it makes of an entry depends on this entry alone
(`Written.meaning`), since a value ends where a comma follows, and so what it makes of all the
attributes of a declaration is what it makes of the entries in order, however these are grouped
(`ofAttributes_eq_mapM`).
-/

namespace Recordwright.Entry

open Source Source.Parser

variable {α : Type} {entry : Path → Reader α} {ts tail : List Token}

/-! ### Paths -/

/-- A path of words alone. -/
structure IsPlain (p : Path) : Prop where
  segments_ne_nil : p.segments ≠ []
  arguments_eq_none : ∀ s ∈ p.segments, s.arguments = .none

/-- Words behind double colons. -/
def continued (is : List Ident) : List Token := is.flatMap fun i => colons ++ [i.token]

/-- A segment without arguments. -/
def bare (i : Ident) : Segment := .mk i .none

theorem segmentTokens_bare (is : List Ident) :
    segmentTokens (is.map bare) = is.map fun i => [i.token] := by
  induction is with
  | nil => rfl
  | cons i is ih =>
    rw [List.map_cons, segmentTokens, ih]
    rfl

theorem separated_colons (i : Ident) (is : List Ident) :
    separated colons false ((i :: is).map fun i => [i.token]) = i.token :: continued is := by
  induction is generalizing i with
  | nil => rfl
  | cons j is ih =>
    have rest := ih j
    rw [List.map_cons] at rest ⊢
    rw [List.map_cons, separated, rest]
    · show [i.token] ++ colons ++ j.token :: continued is = _
      simp [continued]
    · exact List.cons_ne_nil _ _

/-- A plain path is words in a row. -/
theorem IsPlain.exists_idents {p : Path} (h : IsPlain p) :
    ∃ leading i is, p = .mk leading ((i :: is).map bare) ∧
      p.tokens = (if leading then colons else []) ++ i.token :: continued is := by
  obtain ⟨leading, segments⟩ := p
  have all : segments = (segments.map Segment.ident).map bare := by
    rw [List.map_map]
    calc segments = segments.map id := (List.map_id segments).symm
      _ = segments.map (bare ∘ Segment.ident) := by
        refine List.map_congr_left fun s member => ?_
        obtain ⟨i, arguments⟩ := s
        have none : arguments = .none := h.arguments_eq_none _ member
        rw [none]
        rfl
  cases names : segments.map Segment.ident with
  | nil => exact absurd (List.map_eq_nil_iff.mp names) h.segments_ne_nil
  | cons i is =>
    rw [names] at all
    exact ⟨leading, i, is, by rw [all], by
      rw [Path.tokens, all, segmentTokens_bare, separated_colons]⟩

/-- The parser of one more word. -/
def another : Parser (Option Ident) := do
  if ← mark? "::" then return some (← anyIdent) else return none

/-- A word behind a double colon is taken. -/
theorem takes_another (i : Ident) (rest : List Token) :
    Takes another (colons ++ i.token :: rest) (some i) rest := by
  have colon : startsWith "::".toList (colons ++ i.token :: rest) = true := rfl
  exact (takes_mark?_true colon).bind ((takes_anyIdent i rest).bind (takes_pure _ _))

/-- Where no double colon is, the path ends. -/
theorem takes_another_none (h : startsWith "::".toList ts = false) : Takes another ts none ts :=
  (takes_mark?_false h).bind (takes_pure _ _)

/-- All words of a path are taken, given fuel for each of them and the end. -/
theorem takes_continued (is : List Ident) (h : startsWith "::".toList ts = false) {fuel : Nat}
    (enough : is.length < fuel) : Takes (repeatUpTo another fuel) (continued is ++ ts) is ts := by
  induction is generalizing fuel with
  | nil =>
    obtain ⟨fuel, rfl⟩ := Nat.exists_eq_succ_of_ne_zero (Nat.ne_of_gt enough)
    exact takes_repeatUpTo_none (takes_another_none h) fuel
  | cons i is ih =>
    obtain ⟨fuel, rfl⟩ := Nat.exists_eq_succ_of_ne_zero (Nat.ne_of_gt (Nat.zero_lt_of_lt enough))
    have split : continued (i :: is) ++ ts = colons ++ i.token :: (continued is ++ ts) := by
      simp [continued, colons]
    rw [split]
    exact takes_repeatUpTo_some (takes_another i _) (ih (Nat.lt_of_succ_lt_succ enough))

theorem length_continued (is : List Ident) : (continued is).length = 3 * is.length := by
  induction is with
  | nil => rfl
  | cons i is ih =>
    rw [continued, List.flatMap_cons, List.length_append, ← continued, ih]
    simp only [colons, List.length_append, List.length_cons, List.length_nil]
    omega

/-- A plain path is taken, if it does not go on. -/
theorem IsPlain.takes_path {p : Path} (h : IsPlain p) (ends : startsWith "::".toList ts = false) :
    Takes path (p.tokens ++ ts) p ts := by
  obtain ⟨leading, i, is, rfl, tokens⟩ := h.exists_idents
  have lead : Takes (mark? "::") (Path.tokens (.mk leading ((i :: is).map bare)) ++ ts) leading
      (i.token :: (continued is ++ ts)) := by
    rw [tokens]
    cases leading with
    | true => exact takes_mark?_true rfl
    | false => exact takes_mark?_false rfl
  refine lead.bind ((takes_peekAnyIdent i _).bind ((takes_anyIdent i _).bind ?_))
  -- The fuel is as much as there are tokens, and each word comes with two colons.
  have more : Takes (repeated another) (continued is ++ ts) is ts := by
    refine takes_repeated (takes_continued is ends ?_)
    rw [List.length_append, length_continued]
    omega
  exact more.bind (takes_pure _ _)

/-! ### Entries -/

/-- What may stand behind the path of an entry. -/
inductive IsBehind : List Token → Prop where
  | nothing : IsBehind []
  | group (d : Delimiter) (content : List Token) : IsBehind [.group d content]
  /-- A value, in which no comma follows a literal that it begins with. -/
  | value {given : List Token} (joined : Bool) (present : given ≠ [])
      (whole : ∀ found rest, tried? Parser.literal given = some (found, rest) →
        startsWith [','] rest = false) : IsBehind (.punct '=' joined :: given)

/-- An entry as it is written. -/
structure Written where
  path : Path
  behind : List Token

namespace Written

/-- A path of words with something behind it. -/
structure WellFormed (e : Written) : Prop where
  isPlain : IsPlain e.path
  isBehind : IsBehind e.behind

def tokens (e : Written) : List Token := e.path.tokens ++ e.behind

/-- What is made of an entry alone: all that stands behind its path has to be read. -/
def meaning (entry : Path → Reader α) (e : Written) : Except DeriveError α :=
  match (entry e.path).run e.behind with
  | .error f => .error f
  | .ok (a, rest) =>
    if rest.isEmpty then .ok a else .error (.malformed (.expected "expected `,`" false))

end Written

/-- The tokens are these entries with commas between them; one may follow the last. -/
inductive Listed : List Written → List Token → Prop where
  | nil : Listed [] []
  | last {e : Written} (h : e.WellFormed) : Listed [e] e.tokens
  | cons {e : Written} {es : List Written} {more : List Token} (h : e.WellFormed) (joined : Bool)
      (listed : Listed es more) : Listed (e :: es) (e.tokens ++ .punct ',' joined :: more)

/-- The attributes called `record` hold these entries in order. -/
inductive Holds : List Attribute → List Written → Prop where
  | nil : Holds [] []
  | other {a : Attribute} {as : List Attribute} {es : List Written}
      (h : a.path.isWord "record" = false) (more : Holds as es) : Holds (a :: as) es
  | record {p : Path} {content : List Token} {as : List Attribute} {first es : List Written}
      (h : p.isWord "record" = true) (d : Delimiter) (listed : Listed first content)
      (more : Holds as es) : Holds (⟨p, .list d content⟩ :: as) (first ++ es)

/-- What is read of these tokens does not depend on what follows a comma behind them, and it does
not end before any other comma. -/
structure Settles (r : Reader α) (ts : List Token) : Prop where
  run_append : ∀ joined more, r.run (ts ++ .punct ',' joined :: more) =
    (r.run ts).map fun found => (found.1, found.2 ++ .punct ',' joined :: more)
  ends : ∀ a rest, r.run ts = .ok (a, rest) → startsWith [','] rest = false

/-- The reader of entries settles on whatever may stand behind a path. -/
def Steady (entry : Path → Reader α) : Prop := ∀ p ts, IsBehind ts → Settles (entry p) ts

/-! ### Reading entries one by one -/

section Reading

variable {p : Parser α} {a : α} {rest : List Token} {s : String}

/-- What a parser takes, the reader takes. -/
theorem taking_of_takes (h : Takes p ts a rest) : (taking p).run ts = .ok (a, rest) := by
  show taking p ts = _
  unfold taking
  rw [h none]

/-- A missing mark is reported by its spelling. -/
theorem taking_mark_error (h : startsWith s.toList ts = false) :
    (taking (mark s)).run ts =
      .error (.malformed (.expected ("expected `" ++ s ++ "`") false)) := by
  show taking (mark s) ts = _
  unfold taking
  rw [mark_run_error h none]

/-- No path goes on into what stands behind it. -/
theorem IsBehind.not_colons {behind : List Token} (h : IsBehind behind)
    (ends : startsWith "::".toList tail = false) :
    startsWith "::".toList (behind ++ tail) = false := by
  cases h with
  | nothing => exact ends
  | group d content => rfl
  | value joined present whole => cases joined <;> rfl

/-- The path of an entry is read off it, and what is behind it stays. -/
theorem Written.WellFormed.taking_path {e : Written} (h : e.WellFormed)
    (ends : startsWith "::".toList tail = false) :
    (taking Entry.path).run (e.tokens ++ tail) = .ok (e.path, e.behind ++ tail) := by
  rw [Written.tokens, List.append_assoc]
  exact taking_of_takes (h.isPlain.takes_path (h.isBehind.not_colons ends))

/-- What is done behind an entry. -/
def goOn (entry : Path → Reader α) (fuel : Nat) (first : α) : Reader (List α) := do
  if (← get).isEmpty then return [first]
  let _ ← taking (mark ",")
  if (← get).isEmpty then return [first]
  return first :: (← upTo entry fuel)

/-- Where tokens are left, a comma is asked for. -/
theorem goOn_cons (fuel : Nat) (t : Token) (rest : List Token) :
    (goOn entry fuel a).run (t :: rest) =
      ((taking (mark ",")).run (t :: rest)).bind fun found =>
        StateT.run (if found.2.isEmpty then return [a] else return a :: (← upTo entry fuel))
          found.2 := rfl

/-- Something else than a comma behind an entry is refused. -/
theorem goOn_error (fuel : Nat) (present : rest ≠ []) (h : startsWith [','] rest = false) :
    (goOn entry fuel a).run rest = .error (.malformed (.expected "expected `,`" false)) := by
  obtain ⟨t, rest, rfl⟩ := List.exists_cons_of_ne_nil present
  rw [goOn_cons, taking_mark_error (s := ",") h]
  rfl

/-- A comma at the end is passed over; otherwise the entries behind it are read. -/
theorem goOn_comma (fuel : Nat) (joined : Bool) (more : List Token) :
    (goOn entry fuel a).run (.punct ',' joined :: more) =
      if more.isEmpty then .ok ([a], [])
      else ((upTo entry fuel).run more).map fun found => (a :: found.1, found.2) := by
  rw [goOn_cons, taking_of_takes (takes_mark rfl)]
  cases more with
  | nil => rfl
  | cons t more =>
    show ((upTo entry fuel).run (t :: more)).bind _ = ((upTo entry fuel).run (t :: more)).map _
    cases (upTo entry fuel).run (t :: more) with
    | error f => rfl
    | ok found => rfl

/-- One round of the reader: a path, what the entry makes of the rest, and what follows it. -/
theorem Written.WellFormed.run_upTo_eq {e : Written} (h : e.WellFormed) (fuel : Nat)
    (ends : startsWith "::".toList tail = false) :
    (upTo entry fuel.succ).run (e.tokens ++ tail) =
      ((entry e.path).run (e.behind ++ tail)).bind fun found =>
        (goOn entry fuel found.1).run found.2 := by
  show ((taking Entry.path).run (e.tokens ++ tail)).bind _ = _
  rw [h.taking_path ends]
  rfl

/-- An entry at the end or before a comma is read as if it stood alone. -/
theorem Written.WellFormed.run_upTo {e : Written} (h : e.WellFormed) (steady : Steady entry)
    (fuel : Nat) (stop : tail = [] ∨ ∃ joined more, tail = .punct ',' joined :: more) :
    (upTo entry fuel.succ).run (e.tokens ++ tail) =
      (e.meaning entry).bind fun a => (goOn entry fuel a).run tail := by
  have settles := steady e.path _ h.isBehind
  have ends : startsWith "::".toList tail = false := by
    rcases stop with rfl | ⟨joined, more, rfl⟩
    · rfl
    · cases joined <;> rfl
  -- This is where a steady reader is needed: it does not look past the comma.
  have whole : (entry e.path).run (e.behind ++ tail) =
      ((entry e.path).run e.behind).map fun found => (found.1, found.2 ++ tail) := by
    rcases stop with rfl | ⟨joined, more, rfl⟩
    · simp only [List.append_nil]
      cases (entry e.path).run e.behind <;> rfl
    · exact settles.run_append joined more
  rw [h.run_upTo_eq fuel ends, whole]
  unfold Written.meaning
  cases run : (entry e.path).run e.behind with
  | error f => rfl
  | ok found =>
    obtain ⟨a, rest⟩ := found
    cases rest with
    | nil => rfl
    | cons t rest =>
      refine goOn_error fuel (List.cons_ne_nil t _) ?_
      -- what was left over begins with no comma, whatever follows it
      have left := settles.ends a _ run
      cases t with
      | punct c joined' => cases joined' <;> exact left
      | _ => rfl

end Reading

/-! ### Reading attributes -/

/-- An entry is at least a word. -/
theorem Written.WellFormed.tokens_ne_nil {e : Written} (h : e.WellFormed) : e.tokens ≠ [] := by
  obtain ⟨leading, i, is, -, tokens⟩ := h.isPlain.exists_idents
  simp [Written.tokens, tokens]

theorem Listed.ne_nil {es : List Written} (h : Listed es ts) (present : es ≠ []) : ts ≠ [] := by
  cases h with
  | nil => exact absurd rfl present
  | last h => exact h.tokens_ne_nil
  | cons h joined listed => exact List.append_ne_nil_of_right_ne_nil _ (List.cons_ne_nil _ _)

/-- Each entry takes a token. -/
theorem Listed.length_le {es : List Written} (h : Listed es ts) : es.length ≤ ts.length := by
  induction h with
  | nil => exact Nat.le_refl 0
  | last h => exact List.length_pos_iff.mpr h.tokens_ne_nil
  | cons h joined listed ih =>
    rw [List.length_append, List.length_cons, List.length_cons]
    omega

/-- Entries with commas between them are read as if each stood alone. -/
theorem Listed.run_upTo {es : List Written} (h : Listed es ts)
    (steady : Steady entry) (present : es ≠ []) {fuel : Nat} (enough : es.length ≤ fuel) :
    (upTo entry fuel).run ts = (es.mapM (Written.meaning entry)).map fun as => (as, []) := by
  induction h generalizing fuel with
  | nil => exact absurd rfl present
  | @last e h =>
    obtain ⟨fuel, rfl⟩ := Nat.exists_eq_succ_of_ne_zero (Nat.ne_of_gt enough)
    have last : (upTo entry fuel.succ).run (e.tokens ++ []) = _ :=
      h.run_upTo steady fuel (.inl rfl)
    rw [List.append_nil] at last
    rw [last, List.mapM_cons]
    cases e.meaning entry with
    | error f => rfl
    | ok a => rfl
  | @cons e es more h joined listed ih =>
    obtain ⟨fuel, rfl⟩ := Nat.exists_eq_succ_of_ne_zero (Nat.ne_of_gt (Nat.zero_lt_of_lt enough))
    rw [h.run_upTo steady fuel (.inr ⟨joined, more, rfl⟩), List.mapM_cons]
    cases e.meaning entry with
    | error f => rfl
    | ok a =>
      show (goOn entry fuel a).run _ = _
      rw [goOn_comma]
      cases es with
      | nil =>
        -- the comma is the last token
        cases listed with
        | nil => rfl
      | cons e' es =>
        have left : more ≠ [] := listed.ne_nil (List.cons_ne_nil e' es)
        rw [if_neg (mt List.isEmpty_iff.mp left),
          ih (List.cons_ne_nil e' es) (Nat.le_of_succ_le_succ enough)]
        cases (e' :: es).mapM (Written.meaning entry) with
        | error f => rfl
        | ok as => rfl

/-- The content of one attribute is read as its entries, one by one. -/
theorem ofContent_list (d : Delimiter) {es : List Written} (h : Listed es ts)
    (steady : Steady entry) : ofContent entry (.list d ts) = es.mapM (Written.meaning entry) := by
  cases es with
  | nil =>
    cases h with
    | nil => rfl
  | cons e es =>
    have present : ts ≠ [] := h.ne_nil (List.cons_ne_nil e es)
    rw [ofContent, if_neg (mt List.isEmpty_iff.mp present),
      h.run_upTo steady (List.cons_ne_nil e es) (Nat.le_succ_of_le h.length_le)]
    cases (e :: es).mapM (Written.meaning entry) with
    | error f => rfl
    | ok as => rfl

/-- **Grouping.**  What is read of attributes is what is read of their entries, one by one and in
order.  How the entries are grouped does not matter, nor what stands between the groups. -/
theorem ofAttributes_eq_mapM {as : List Attribute} {es : List Written} (h : Holds as es)
    (steady : Steady entry) : ofAttributes entry as = es.mapM (Written.meaning entry) := by
  induction h with
  | nil => rfl
  | other h more ih =>
    rw [ofAttributes, if_neg (ne_true_of_eq_false h)]
    exact ih
  | @record p content as first es h d listed more ih =>
    rw [ofAttributes, if_pos h, ofContent_list d listed steady, ih, List.mapM_append]
    cases first.mapM (Written.meaning entry) with
    | error f => rfl
    | ok as =>
      cases es.mapM (Written.meaning entry) with
      | error f => rfl
      | ok more => rfl

end Recordwright.Entry
