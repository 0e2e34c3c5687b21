import Recordwright.Proofs.Source.Beside
import Recordwright.Source.Grammar.Item

/-!
# Plain types are read back

A plain type is taken from its tokens where a type may end behind them, also where marks newly cling
(`Ty.IsPlain.retakes`).  Of the operators that marks could merge into there, two ampersands, double
colons and two angle brackets that close, the parser takes one mark at a time or as many as before.

Each kind of type is taken if its parts are.  A part has fewer tokens, and is parsed one level
further down.
-/

namespace Recordwright.Source

open Token (listClung listWeight)
open Recordwright.Source.Parser

variable {α : Type} {ts us rest : List Token} {a : α}

/-! ### Paths -/

section Paths

variable {k : Knot} {i : Ident} {s : Segment}

open Grammar

/-- Neither arguments follow a name here nor double colons before them. -/
def Bare (ts : List Token) : Prop :=
  startsWith ['<'] ts = false ∧
    (startsWith [':', ':'] ts = true → startsWith ['<'] (Nat.repeat behindNext 2 ts) = false)

/-- A name is a segment, with the arguments that a bracket opens behind it. -/
theorem takes_segment_name (h : isName i.raw i.name = true)
    (next : Takes (do
      let opens ←
        if ← peekMark "<" then pure (!false && !(← peekMark "<=") && !(← peekMark "<<="))
        else if ← peekMark "::" then peekBehind 2 (peekMark "<")
        else pure false
      if opens then return Segment.mk i (← angleArguments k) else return .mk i .none) ts s rest) :
    Takes (segment k false) (i.token :: ts) s rest := by
  refine (takes_peekWord_name h (by decide)).bind ?_
  refine (takes_peekWord_name h (by decide)).bind ?_
  refine (takes_peekWord_name h (by decide)).bind ?_
  refine (takes_peekWord_name h (by decide)).bind ?_
  refine (takes_peekWord_name h (by decide)).skip ?_
  exact (takes_ident_name h ts).bind next

theorem takes_segment_bare (h : isName i.raw i.name = true) (bare : Bare rest) :
    Takes (segment k false) (i.token :: rest) (.mk i .none) rest := by
  refine takes_segment_name h ?_
  refine (takes_peekMark "<" rest).bind ?_
  rw [show startsWith "<".toList rest = false from bare.1]
  refine (takes_peekMark "::" rest).bind ?_
  cases colons : startsWith "::".toList rest with
  | false => exact takes_pure _ _
  | true =>
    refine (takes_peekBehind 2 "<" rest).bind ?_
    rw [show startsWith "<".toList _ = false from bare.2 colons]
    exact takes_pure _ _

theorem takes_segment_angle (h : isName i.raw i.name = true) {arguments : Arguments}
    (opens : startsWith ['<'] ts = true) (apart : startsWith ['<', '='] ts = false)
    (apart' : startsWith ['<', '<', '='] ts = false)
    (inner : Takes (angleArguments k) ts arguments rest) :
    Takes (segment k false) (i.token :: ts) (.mk i arguments) rest := by
  refine takes_segment_name h ?_
  refine (takes_peekMark "<" ts).bind ?_
  refine (takes_peekMark "::" ts).bind ?_
  rw [show startsWith "<".toList ts = true from opens]
  refine (takes_peekMark "<=" ts).bind ?_
  refine (takes_peekMark "<<=" ts).bind ?_
  rw [show startsWith "<=".toList ts = false from apart,
    show startsWith "<<=".toList ts = false from apart']
  refine (takes_pure true ts).bind ?_
  exact inner.bind (takes_pure _ _)

theorem EndsType.bare (h : EndsType rest) : Bare rest :=
  ⟨h.startsWith_eq_false (by decide) _, fun colons => by
    rw [h.startsWith_eq_false (by decide)] at colons
    cases colons⟩

/-- The tokens of double colons and a segment, whatever clings. -/
theorem exists_colons {s : Segment} (clung : listClung (colons ++ s.tokens) us) :
    ∃ joined us', us = .punct ':' true :: .punct ':' joined :: s.ident.token :: us' ∧
      listClung s.tokens (s.ident.token :: us') := by
  obtain ⟨i, arguments⟩ := s
  obtain ⟨-, -, rfl, ⟨first, rfl, joined⟩, -, us, rfl, ⟨second, rfl, -⟩, more⟩ := clung
  obtain rfl := joined rfl
  obtain ⟨u, us, rfl, rfl, arguments⟩ := more
  exact ⟨second, us, rfl, _, us, rfl, rfl, arguments⟩

/-- Segments behind double colons. -/
theorem takes_moreSegments {as : List Segment} (behind : EndsType rest)
    (each : ∀ s ∈ as, ∀ us more, listClung s.tokens us → Bare more →
      Takes (segment k false) (us ++ more) s more)
    (clung : listClung (as.flatMap fun s => colons ++ s.tokens) us) :
    Takes (moreSegments k false) (us ++ rest) as rest ∧ Bare (us ++ rest) := by
  refine takes_repeated_all ?_ behind.bare (fun s _ => List.cons_ne_nil _ _) ?_ ?_ clung
  · refine (takes_peekMark "::" rest).bind ?_
    rw [show startsWith "::".toList rest = false from behind.startsWith_eq_false (by decide) _]
    obtain ⟨b, look⟩ := exists_takes_peekBehind 2 (peekGroup .parenthesis) rest
    exact look.bind (takes_pure _ _)
  · intro s member us more clung
    obtain ⟨joined, us, rfl, -⟩ := exists_colons clung
    exact ⟨rfl, fun _ => rfl⟩
  · intro s member us more clung bare
    obtain ⟨joined, us', rfl, inner⟩ := exists_colons clung
    refine (takes_peekMark "::" _).bind ?_
    refine (Takes.bind (a := false) (fun _ => rfl) ?_)
    refine (takes_mark (s := "::") rfl).bind ?_
    exact (each s member _ more inner bare).bind (takes_pure _ _)

/-- The segments of a path one after the other, with or without double colons before the first. -/
theorem takes_path {p : Path} (behind : EndsType rest) (plain : p.IsPlain)
    (each : ∀ s ∈ p.segments, ∀ us more, listClung s.tokens us → Bare more →
      Takes (segment k false) (us ++ more) s more)
    (clung : listClung p.tokens us) : Takes (path k false) (us ++ rest) p rest := by
  match p, plain with
  | .mk leading (s :: more), ⟨_, plain, _⟩ =>
    rw [Path.tokens, segmentTokens_eq, List.map_cons, separated_colons] at clung
    obtain ⟨lead, inner, rfl, before, clung⟩ := Token.listClung_append.mp clung
    obtain ⟨first, others, rfl, h, h'⟩ := Token.listClung_append.mp clung
    rw [List.flatMap_map] at h'
    obtain ⟨start, further⟩ := List.forall_mem_cons.mp each
    obtain ⟨segments, bare⟩ := takes_moreSegments behind further h'
    have body : Takes (do
        let first ← segment k false
        return Path.mk leading (first :: (← moreSegments k false))) (first ++ others ++ rest)
          (.mk leading (s :: more)) rest := by
      rw [List.append_assoc]
      exact (start first _ h bare).bind (segments.bind (takes_pure _ _))
    cases leading with
    | true =>
      obtain ⟨-, -, rfl, ⟨joined, rfl, cling⟩, -, -, rfl, ⟨joined', rfl, -⟩, rfl⟩ := before
      obtain rfl := cling rfl
      exact (takes_mark?_true (s := "::") rfl).bind body
    | false =>
      obtain rfl : lead = [] := before
      obtain ⟨i, arguments⟩ := s
      obtain ⟨u, us, rfl, rfl, -⟩ := h
      exact (takes_mark?_false (s := "::") rfl).bind body

/-- A type that is a path, where a type ends behind it. -/
theorem takes_pathType {plus : Bool} {p : Path} (behind : EndsType rest)
    (open' : startsWith ['<'] ts = false) (h : Takes (path k false) ts p rest) :
    Takes (pathType k [] plus) ts (.path p) rest := by
  have qualified : Takes (qualifiedPath k false) ts (.path p) rest := by
    refine (takes_mark?_false (s := "<") open').bind ?_
    exact h.bind (takes_pure _ _)
  -- no macro of this name is called, and no bound follows
  have kept : Takes (expansion? (.path p)) rest none rest := by
    refine (takes_peekMark "!" rest).bind ?_
    refine (takes_peekMark "!=" rest).bind ?_
    rw [show startsWith "!".toList rest = false from behind.startsWith_eq_false (by decide) _]
    exact takes_pure _ _
  refine qualified.bind (kept.bind ?_)
  refine (takes_peekMark "+" rest).bind ?_
  rw [show startsWith "+".toList rest = false from behind.startsWith_eq_false (by decide) _,
    Bool.and_false]
  exact takes_pure _ _

/-- Types in angle brackets. -/
theorem takes_angleArguments {as : List Argument} {trailing : Bool}
    (each : ∀ a ∈ as, Retakes (argument k) a.tokens a)
    (begins : ∀ a ∈ as, ∀ us, listClung a.tokens us → ∃ u us', us = u :: us' ∧ BeginsType u)
    (some : as = [] → trailing = false)
    (clung : listClung (separated [Token.mark ','] trailing (as.map Argument.tokens)) us)
    (joined joined' : Bool) (rest : List Token) :
    Takes (angleArguments k) (.punct '<' joined :: (us ++ .punct '>' joined' :: rest))
      (.angle false as trailing) rest := by
  refine (takes_mark?_false (s := "::") (startsWith_punct (by decide) _ joined _)).bind ?_
  refine (takes_mark (s := "<") rfl).bind ?_
  refine Takes.bind (takes_commaSeparated (fun _ _ _ => rfl) (fun _ => rfl)
    (endsType_punct (by decide) joined' rest) each ?_ ?_ some clung) ?_
  · intro a member us more clung
    obtain ⟨u, us, rfl, begins⟩ := begins a member us clung
    intro left
    show Except.ok ((startsWith ['>'] (u :: (us ++ more)), _), left) = _
    rw [begins.startsWith_eq_false _ (by decide)]
  · intro a member none
    obtain ⟨u, us, same, -⟩ := begins a member [] (by rw [none]; rfl)
    cases same
  · exact (takes_mark (s := ">") rfl).bind (takes_pure _ _)

/-- A type as an argument. -/
theorem takes_argument {t : Ty} (behind : EndsType rest) {u : Token} (begins : BeginsType u)
    (h : Takes (k.type true) (u :: us) t rest) :
    Takes (argument k) (u :: us) (.type t) rest := by
  -- it is neither a lifetime nor a constant
  refine (begins.takes_peekLifetime us).bind ?_
  obtain ⟨b, look⟩ := exists_takes_peekBehind 1 (peekMark "+") (u :: us)
  refine look.bind ?_
  refine (begins.takes_peekLiteral us).bind ?_
  have brace : Takes (peekGroup .brace) (u :: us) false (u :: us) := by
    cases u with
    | group d content => cases d <;> first | exact absurd rfl begins | exact fun _ => rfl
    | _ => exact fun _ => rfl
  refine brace.bind ?_
  refine h.bind ?_
  cases asName? t with
  | none => exact takes_pure _ _
  | some found =>
    -- the name is not bound, neither to a type nor by traits
    have equals := behind.startsWith_eq_false (c := '=') (by decide) []
    have colon := behind.startsWith_eq_false (c := ':') (by decide) []
    refine (takes_mark?_false (s := "=") equals).bind ?_
    exact (takes_mark?_false (s := ":") colon).bind (takes_pure _ _)

end Paths

/-! ### Types -/

section Types

variable {k : Knot} {plus : Bool} {t : Ty}

open Grammar

/-- A name begins a path, as it is none of the words that other types begin with. -/
theorem takes_type_name {i : Ident} (h : isName i.raw i.name = true)
    (hash : startsWith ['#'] ts = false)
    (next : Takes (pathType k [] plus) (i.token :: ts) t rest) :
    Takes (type k plus) (i.token :: ts) t rest := by
  refine (takes_get _).bind ?_
  refine (takes_peekWord_name h (by decide)).skip ?_
  refine Takes.skip (fun _ => rfl) ?_
  have function : Takes peekFunction (i.token :: ts) false (i.token :: ts) := by
    refine (takes_peekWord_name h (by decide)).bind ?_
    refine (takes_peekWord_name h (by decide)).bind ?_
    exact (takes_peekWord_name h (by decide)).bind (takes_pure _ _)
  refine function.skip ?_
  -- `builtin` is no keyword, but only with a hash behind it does it begin a type of its own
  have builtIn : Takes peekBuiltIn (i.token :: ts) false (i.token :: ts) := by
    obtain ⟨b, look⟩ := exists_takes_peekWord "builtin" (i.token :: ts)
    refine look.bind ?_
    refine (takes_peekBehind 1 "#" (i.token :: ts)).bind ?_
    show Takes (pure (b && startsWith ['#'] ts)) _ _ _
    rw [hash, Bool.and_false]
    exact takes_pure _ _
  refine builtIn.skip ?_
  have path : Takes peekPath (i.token :: ts) true (i.token :: ts) := by
    have segment : Takes peekPlainSegment (i.token :: ts) true (i.token :: ts) := by
      refine (takes_peekIdent_name h).bind ?_
      refine (takes_peekWord_name h (by decide)).bind ?_
      refine (takes_peekWord_name h (by decide)).bind ?_
      refine (takes_peekWord_name h (by decide)).bind ?_
      exact (takes_peekWord_name h (by decide)).bind (takes_pure _ _)
    refine segment.bind ?_
    refine (takes_peekMark "::" _).bind ?_
    exact (takes_peekMark "<" _).bind (takes_pure _ _)
  exact path.choose next

theorem takes_type_colons {joined : Bool}
    (next : Takes (pathType k [] plus) (.punct ':' true :: .punct ':' joined :: ts) t rest) :
    Takes (type k plus) (.punct ':' true :: .punct ':' joined :: ts) t rest :=
  fun left => next left

/-- A type behind the mark of a reference. -/
theorem takes_reference (joined : Bool) {lifetime : Option Ident} {mutable : Bool} {u : Token}
    (begins : BeginsType u) (h : Takes (k.type false) (u :: us) t rest) :
    Takes (type k plus) (.punct '&' joined :: (lifetime.elim [] Lifetime.tokens ++
      ((if mutable then [Token.word "mut"] else []) ++ u :: us)))
      (.reference lifetime mutable t) rest := by
  have target : Takes (do
      let mutable ← word? "mut"
      return Ty.reference lifetime mutable (← k.type false))
      ((if mutable then [Token.word "mut"] else []) ++ u :: us) (.reference lifetime mutable t)
      rest := by
    cases mutable with
    | true => exact Takes.bind (a := true) (fun _ => rfl) (h.bind (takes_pure _ _))
    | false =>
      have missing : Takes (word? "mut") (u :: us) false (u :: us) :=
        (begins.takes_peekWord us (by decide) (by decide)).skip (takes_pure _ _)
      exact missing.bind (h.bind (takes_pure _ _))
  have reading : Takes (do
      let l ← if ← peekLifetime then some <$> Parser.lifetime else pure none
      let mutable ← word? "mut"
      return Ty.reference l mutable (← k.type false)) (lifetime.elim [] Lifetime.tokens ++
        ((if mutable then [Token.word "mut"] else []) ++ u :: us))
      (.reference lifetime mutable t) rest := by
    cases lifetime with
    | none =>
      have no : Takes peekLifetime ((if mutable then [Token.word "mut"] else []) ++ u :: us) false
          ((if mutable then [Token.word "mut"] else []) ++ u :: us) := by
        cases mutable with
        | true => exact fun _ => rfl
        | false => exact begins.takes_peekLifetime us
      exact no.bind ((takes_pure none _).bind target)
    | some l =>
      exact Takes.bind (a := true) (fun _ => rfl) ((takes_lifetime l _).map.bind target)
  intro left
  -- one ampersand is taken, also where a second one clings to it
  cases joined <;> exact reading left

theorem takes_pointer (joined mutable : Bool) (h : Takes (k.type false) ts t rest) :
    Takes (type k plus)
      (.punct '*' joined :: Token.word (if mutable then "mut" else "const") :: ts)
      (.pointer mutable t) rest := by
  intro left
  have made : Takes (do return Ty.pointer mutable (← k.type false)) ts (.pointer mutable t) rest :=
    h.bind (takes_pure _ _)
  cases mutable <;> cases joined <;> exact made left

/-- What stands in square brackets. -/
theorem takes_bracket {content : List Token} (h : Takes (do
      let element ← k.type true
      if ← mark? ";" then return .array element (← k.expression true).tokens
      else return .slice element) content t []) (rest : List Token) :
    Takes (type k plus) (.group .bracket content :: rest) t rest :=
  fun left => (h.inside (d := .bracket) rest) left

/-- What stands in round brackets. -/
theorem takes_parenthesis {content : List Token} {e : Enclosed}
    (h : Takes (enclosed k) content e [])
    (is : e = .done t ∨ ∃ inner, e = .single inner ∧ t = .paren inner) (behind : EndsType rest) :
    Takes (type k plus) (.group .parenthesis content :: rest) t rest := by
  have body : Takes (parenthesized k plus) (.group .parenthesis content :: rest) t rest := by
    refine (h.inside (d := .parenthesis) rest).bind ?_
    obtain rfl | ⟨inner, rfl, rfl⟩ := is
    · exact takes_pure _ _
    · refine (takes_peekMark "+" rest).bind ?_
      rw [show startsWith "+".toList rest = false from behind.startsWith_eq_false (by decide) _,
        Bool.and_false]
      exact takes_pure _ _
  exact fun left => body left

/-- Where a type begins in round brackets, it is taken, and what follows it. -/
theorem takes_enclosed_of_begins {u : Token} (begins : BeginsType u) {mid : List Token}
    {e : Enclosed} (h : Takes (k.type true) (u :: us) t mid)
    (next : Takes (do
      if ← mark? "," then
        let (more, trailing) ← commaSeparated isEmpty (k.type true)
        return .done (.tuple (t :: more) (more.isEmpty || trailing))
      else return .single t) mid e []) : Takes (enclosed k) (u :: us) e [] := by
  have question : Takes (peekMark "?") (u :: us) false (u :: us) := by
    have look := takes_peekMark "?" (u :: us)
    rwa [show startsWith "?".toList (u :: us) = false from
      begins.startsWith_eq_false us (by decide) []] at look
  refine Takes.skip (p := isEmpty) (fun _ => rfl) ?_
  refine (begins.takes_peekLifetime us).skip ?_
  refine question.skip ?_
  exact h.bind next

/-- Types in round brackets, with a comma between each two. -/
theorem takes_enclosed {elements : List Ty} {trailing : Bool}
    (each : ∀ t ∈ elements, Retakes (k.type true) t.tokens t)
    (begins : ∀ t ∈ elements, ∀ us, listClung t.tokens us → ∃ u us', us = u :: us' ∧ BeginsType u)
    (none : elements = [] → trailing = false) (single : elements.length = 1 → trailing = true)
    (clung : listClung (separated [Token.mark ','] trailing (elements.map Ty.tokens)) us) :
    Takes (enclosed k) us (.done (.tuple elements trailing)) [] := by
  cases elements with
  | nil =>
    obtain rfl : us = [] := clung
    rw [none rfl]
    exact fun _ => rfl
  | cons t more =>
    obtain ⟨first, others⟩ := List.forall_mem_cons.mp each
    obtain ⟨start, starts⟩ := List.forall_mem_cons.mp begins
    have comma : more.map Ty.tokens = [] → trailing = true := fun none =>
      single (by rw [List.map_eq_nil_iff.mp none, List.length_singleton])
    obtain ⟨first', comma, u', rfl, h, h'⟩ := exists_comma comma clung
    have further : ∃ trailing',
        Takes (commaSeparated isEmpty (k.type true)) u' (more, trailing') [] ∧
        (more.isEmpty || trailing') = trailing := by
      cases more with
      | nil =>
        obtain rfl : u' = [] := h'
        exact ⟨false, fun _ => rfl, (single rfl).symm⟩
      | cons b bs =>
        refine ⟨trailing, ?_, rfl⟩
        rw [← List.append_nil u']
        refine takes_commaSeparated (fun _ _ _ => rfl) (fun _ => rfl) endsType_nil others ?_ ?_
          nofun h'
        · intro t member us more clung
          obtain ⟨u, us, rfl, -⟩ := starts t member us clung
          exact fun _ => rfl
        · intro t member none
          obtain ⟨u, us, same, -⟩ := starts t member [] (by rw [none]; rfl)
          cases same
    obtain ⟨trailing', rest, same⟩ := further
    have whole := first first' (.punct ',' comma :: u') h (endsType_punct (by decide) comma u')
    obtain ⟨u, us, rfl, begins⟩ := start first' h
    refine takes_enclosed_of_begins begins whole ?_
    refine Takes.choose (takes_mark?_true (s := ",") rfl) ?_
    refine rest.bind ?_
    show Takes (pure (Enclosed.done (.tuple (t :: more) (more.isEmpty || trailing')))) _ _ _
    rw [same]
    exact takes_pure _ _

end Types

/-! ### Types from their parts -/

section Parts

variable {k : Knot} {plus : Bool}

open Grammar

/-- Behind the bracket that opens stands a type or the bracket that closes. -/
theorem startsWith_arguments_eq_false {as : List Argument} {trailing joined : Bool}
    (begins : ∀ a ∈ as, ∀ us, listClung a.tokens us → ∃ u us', us = u :: us' ∧ BeginsType u)
    (some : as = [] → trailing = false)
    (clung : listClung (separated [Token.mark ','] trailing (as.map Argument.tokens)) us)
    {c : Char} (other : c ∉ ['&', '*', '!', ':'] ∧ c ≠ '>') (cs : List Char) :
    startsWith (c :: cs) (us ++ .punct '>' joined :: rest) = false := by
  cases as with
  | nil =>
    rw [some rfl] at clung
    obtain rfl : us = [] := clung
    exact startsWith_punct other.2 _ _ _
  | cons a as =>
    obtain ⟨more, split⟩ := exists_separated [Token.mark ','] trailing a.tokens
      (as.map Argument.tokens)
    rw [List.map_cons, split] at clung
    obtain ⟨u, us, rfl, first, -⟩ := Token.listClung_append.mp clung
    obtain ⟨u, us', rfl, begins⟩ := begins a List.mem_cons_self u first
    exact begins.startsWith_eq_false _ other.1 _

/-- A segment is taken if the types in its brackets are. -/
theorem takes_segment {s : Segment} (h : s.IsPlain)
    (inner : ∀ t : Ty, t.IsPlain → listWeight t.tokens < listWeight s.tokens →
      Retakes (k.type true) t.tokens t)
    (clung : listClung s.tokens us) (bare : Bare rest) :
    Takes (segment k false) (us ++ rest) s rest := by
  obtain ⟨i, arguments⟩ := s
  obtain ⟨⟨named, -⟩, plain⟩ := h
  obtain ⟨-, us, rfl, rfl, clung⟩ := clung
  cases arguments
  case none =>
    obtain rfl : us = [] := clung
    exact takes_segment_bare named bare
  case angle marked as trailing =>
    obtain ⟨rfl, plain, some⟩ := plain
    have tokens := tokens_angle plain trailing
    rw [tokens] at clung
    obtain ⟨-, us, rfl, ⟨joined, rfl, -⟩, clung⟩ := clung
    obtain ⟨us, -, rfl, content, -, -, rfl, ⟨joined', rfl, -⟩, rfl⟩ :=
      Token.listClung_append.mp clung
    have begins : ∀ a ∈ as, ∀ us, listClung a.tokens us →
        ∃ u us', us = u :: us' ∧ BeginsType u := by
      intro a member us clung
      obtain ⟨t, rfl, plain⟩ := exists_of_argumentsPlain plain a member
      exact plain.exists_begins clung
    have each : ∀ a ∈ as, Retakes (argument k) a.tokens a := by
      intro a member us rest clung ends
      obtain ⟨t, rfl, plain⟩ := exists_of_argumentsPlain plain a member
      obtain ⟨u, us, rfl, begins⟩ := plain.exists_begins clung
      refine takes_argument ends begins (inner t plain ?_ _ _ clung ends)
      have part : listWeight t.tokens ≤
          listWeight (separated [Token.mark ','] trailing (as.map Argument.tokens)) :=
        listWeight_le_separated (List.mem_map.mpr ⟨_, member, rfl⟩)
      rw [Segment.tokens, tokens, listWeight, listWeight, Token.listWeight_append]
      have mark : (Token.mark '<').weight = 1 := rfl
      omega
    have alone {c : Char} (other : c ∉ ['&', '*', '!', ':'] ∧ c ≠ '>') (cs : List Char) :
        startsWith ('<' :: c :: cs) (.punct '<' joined :: (us ++ .punct '>' joined' :: rest)) =
          false :=
      startsWith_cons_eq_false (List.cons_ne_nil _ _)
        (startsWith_arguments_eq_false begins some content other cs) joined
    rw [List.cons_append, List.cons_append, List.append_assoc]
    refine takes_segment_angle named rfl (alone (by decide) _) (alone (by decide) _) ?_
    exact takes_angleArguments each begins some content joined joined' rest
  case paren => exact plain.elim

/-- Behind the first name of a plain path there is no hash. -/
theorem startsWith_hash_eq_false {arguments : Arguments} {more : List Segment}
    (plain : arguments.IsPlain) (behind : EndsType rest)
    (clung : listClung (arguments.tokens ++ more.flatMap fun s => colons ++ s.tokens) us) :
    startsWith ['#'] (us ++ rest) = false := by
  cases arguments
  case none =>
    cases more with
    | nil =>
      obtain rfl : us = [] := clung
      exact behind.startsWith_eq_false (by decide) _
    | cons s more =>
      obtain ⟨-, us, rfl, ⟨joined, rfl, -⟩, -⟩ := clung
      exact startsWith_punct (by decide) _ joined _
  case angle marked as trailing =>
    obtain ⟨rfl, plain, -⟩ := plain
    rw [tokens_angle plain trailing] at clung
    obtain ⟨-, us, rfl, ⟨joined, rfl, -⟩, -⟩ := clung
    exact startsWith_punct (by decide) _ joined _
  case paren => exact plain.elim

/-- A plain path is taken as a type if its segments are. -/
theorem retakes_path {p : Path} (h : p.IsPlain)
    (each : ∀ s ∈ p.segments, ∀ us more, listClung s.tokens us → Bare more →
      Takes (segment k false) (us ++ more) s more) :
    Retakes (type k plus) p.tokens (.path p) := by
  intro us rest clung behind
  have path := takes_path behind h each clung
  match p, h with
  | .mk true segments, _ =>
    obtain ⟨-, -, rfl, ⟨joined, rfl, cling⟩, -, us, rfl, ⟨joined', rfl, -⟩, -⟩ := clung
    obtain rfl := cling rfl
    exact takes_type_colons (takes_pathType behind (startsWith_punct (by decide) _ _ _) path)
  | .mk false (⟨i, arguments⟩ :: more), ⟨_, ⟨⟨named, _⟩, plain⟩, _⟩ =>
    rw [Path.tokens, segmentTokens_eq, List.map_cons, separated_colons, List.flatMap_map] at clung
    obtain ⟨-, us, rfl, rfl, clung⟩ := clung
    have hash := startsWith_hash_eq_false plain behind clung
    exact takes_type_name named hash (takes_pathType behind rfl path)

/-- Nothing newly clings in a lifetime. -/
theorem eq_of_clung_lifetime {lifetime : Option Ident}
    (clung : listClung (lifetime.elim [] Lifetime.tokens) us) :
    us = lifetime.elim [] Lifetime.tokens := by
  cases lifetime with
  | none => exact clung
  | some i =>
    obtain ⟨-, -, rfl, ⟨joined, rfl, cling⟩, -, -, rfl, rfl, rfl⟩ := clung
    obtain rfl := cling rfl
    rfl

theorem eq_of_clung_mut {mutable : Bool}
    (clung : listClung (if mutable then [Token.word "mut"] else []) us) :
    us = if mutable then [Token.word "mut"] else [] := by
  cases mutable with
  | false => exact clung
  | true =>
    obtain ⟨-, -, rfl, rfl, rfl⟩ := clung
    rfl

theorem listWeight_le_path {p : Path} {s : Segment} (member : s ∈ p.segments) :
    listWeight s.tokens ≤ listWeight p.tokens := by
  obtain ⟨leading, segments⟩ := p
  have part : listWeight s.tokens ≤
      listWeight (separated colons false (segments.map Segment.tokens)) :=
    listWeight_le_separated (List.mem_map.mpr ⟨s, member, rfl⟩)
  rw [Path.tokens, Token.listWeight_append, segmentTokens_eq]
  omega

/-- A plain type is taken if its parts are taken one level further down. -/
theorem retakes_type {n : Nat} (inner : ∀ (t : Ty) plus, t.IsPlain → listWeight t.tokens ≤ n →
      Retakes ((Knot.level n).type plus) t.tokens t)
    {t : Ty} (h : t.IsPlain) (enough : listWeight t.tokens ≤ n + 1) :
    Retakes (type (Knot.level n) plus) t.tokens t := by
  have mark (c : Char) : (Token.mark c).weight = 1 := rfl
  cases t
  case path p =>
    refine retakes_path h fun s member us more clung bare => ?_
    have plain : s.IsPlain := by
      obtain ⟨leading, segments⟩ := p
      exact forall_of_segmentsPlain h.2 s member
    have part := listWeight_le_path member
    refine takes_segment plain (fun t plain less => inner t true plain ?_) clung bare
    rw [Ty.tokens] at enough
    omega
  case reference lifetime mutable target =>
    intro us rest clung behind
    rw [tokens_reference] at clung enough
    rw [listWeight, Token.listWeight_append, Token.listWeight_append, mark] at enough
    obtain ⟨-, us, rfl, ⟨joined, rfl, -⟩, clung⟩ := clung
    obtain ⟨l, us, rfl, named, clung⟩ := Token.listClung_append.mp clung
    obtain ⟨m, us, rfl, marked, clung⟩ := Token.listClung_append.mp clung
    have whole := inner target false h.2 (by omega) us rest clung behind
    obtain ⟨u, us, rfl, begins⟩ := h.2.exists_begins clung
    obtain rfl := eq_of_clung_lifetime named
    obtain rfl := eq_of_clung_mut marked
    have taken : Takes (type (Knot.level n) plus) (.punct '&' joined ::
        (lifetime.elim [] Lifetime.tokens ++
          ((if mutable then [Token.word "mut"] else []) ++ u :: (us ++ rest))))
        (.reference lifetime mutable target) rest := takes_reference joined begins whole
    simpa using taken
  case pointer mutable target =>
    intro us rest clung behind
    obtain ⟨-, -, rfl, ⟨joined, rfl, -⟩, -, us, rfl, rfl, clung⟩ := clung
    have less : listWeight target.tokens ≤ n := by
      rw [Ty.tokens, Token.listWeight_append, listWeight, mark] at enough
      omega
    exact takes_pointer joined mutable (inner target false h less us rest clung behind)
  case slice element =>
    intro us rest clung behind
    obtain ⟨-, -, rfl, ⟨content, rfl, clung⟩, rfl⟩ := clung
    have whole := inner element true h (Nat.le_of_succ_le_succ enough) content [] clung endsType_nil
    rw [List.append_nil] at whole
    refine takes_bracket (whole.bind ?_) rest
    exact (takes_mark?_false rfl).bind (takes_pure _ _)
  case array element length =>
    intro us rest clung behind
    obtain ⟨plain, spelling, rfl, -⟩ := h
    obtain ⟨-, -, rfl, ⟨content, rfl, clung⟩, rfl⟩ := clung
    have fewer := Nat.le_of_succ_le_succ enough
    rw [List.append_assoc, Token.listWeight_append, List.singleton_append, listWeight, mark]
      at fewer
    rw [List.append_assoc] at clung
    obtain ⟨first, -, rfl, same, -, -, rfl, ⟨joined, rfl, -⟩, -, -, rfl, rfl, rfl⟩ :=
      Token.listClung_append.mp clung
    have whole := inner element true plain (by omega) first _ same
      (endsType_punct (c := ';') (by decide) joined [.literal spelling])
    -- a literal needs no more than one level
    obtain ⟨m, rfl⟩ : ∃ m, n = m + 1 := ⟨n - 1, by omega⟩
    have length : Takes ((Knot.level (m + 1)).expression true) [.literal spelling]
        (Phrase.plain [.literal spelling]) [] := fun _ => rfl
    refine takes_bracket (whole.bind ?_) rest
    exact (takes_mark?_true (s := ";") rfl).choose (length.bind (takes_pure _ _))
  case tuple elements trailing =>
    intro us rest clung behind
    obtain ⟨plain, none, single⟩ := h
    obtain ⟨-, -, rfl, ⟨content, rfl, clung⟩, rfl⟩ := clung
    rw [typeTokens_eq] at clung
    refine takes_parenthesis (takes_enclosed ?_ ?_ none single clung) (.inl rfl) behind
    · intro t member
      refine inner t true (forall_of_typesPlain plain t member) ?_
      have part : listWeight t.tokens ≤
          listWeight (separated [Token.mark ','] trailing (elements.map Ty.tokens)) :=
        listWeight_le_separated (List.mem_map.mpr ⟨t, member, rfl⟩)
      rw [← typeTokens_eq] at part
      exact part.trans (Nat.le_of_succ_le_succ enough)
    · intro t member us clung
      exact (forall_of_typesPlain plain t member).exists_begins clung
  case paren t =>
    intro us rest clung behind
    obtain ⟨-, -, rfl, ⟨content, rfl, clung⟩, rfl⟩ := clung
    have plain : t.IsPlain := h
    have whole := inner t true plain (Nat.le_of_succ_le_succ enough) content [] clung endsType_nil
    rw [List.append_nil] at whole
    obtain ⟨u, content, rfl, begins⟩ := plain.exists_begins clung
    refine takes_parenthesis (takes_enclosed_of_begins begins whole ?_) (.inr ⟨t, rfl, rfl⟩) behind
    exact (takes_mark?_false rfl).bind (takes_pure _ _)
  case never =>
    intro us rest clung behind
    obtain ⟨-, -, rfl, ⟨joined, rfl, -⟩, rfl⟩ := clung
    cases joined <;> exact fun _ => rfl
  case inferred =>
    intro us rest clung behind
    obtain ⟨-, -, rfl, rfl, rfl⟩ := clung
    exact fun _ => rfl
  all_goals exact h.elim

end Parts

/-- **A plain type is taken from its tokens**, whatever newly clings, as deep as it has tokens. -/
theorem Ty.IsPlain.retakes {t : Ty} (h : t.IsPlain) {n : Nat} (enough : listWeight t.tokens ≤ n)
    (plus : Bool) : Retakes ((Knot.level n).type plus) t.tokens t := by
  -- On the level: the parts of a type have fewer tokens and are parsed one level further down.
  induction n generalizing t plus with
  | zero =>
    intro us rest clung
    obtain ⟨u, us, rfl, -⟩ := h.exists_begins clung
    have none := (Token.listWeight_eq_of_listClung _ _ clung).trans_le enough
    cases u <;> simp [listWeight, Token.weight] at none
  | succ n ih => exact retakes_type (fun t plus plain less => ih plain less plus) h enough

end Recordwright.Source
