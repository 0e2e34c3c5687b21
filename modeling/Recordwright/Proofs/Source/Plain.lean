import Recordwright.Proofs.Source.Layout
import Recordwright.Source.Parser
import Recordwright.Source.Type

/-!
# Plain types

Most types of fields are plain: names with arguments in angle brackets, and what references,
pointers, tuples, slices and arrays make of them (`Ty.IsPlain`).  Their tokens can be told apart in
their text, and their literals have no blanks (`Ty.IsPlain.neat`).
-/

namespace Recordwright.Source

open Recordwright.Source.Parser

/-! ### Plain types -/

/-- The identifier can be written and is read as a name. -/
def Ident.IsPlain (i : Ident) : Prop :=
  isName i.raw i.name = true ∧ (i.raw = true → Lexer.neverRaw.contains i.name = false)

mutual

/-- A type is plain if it is made of paths by references, pointers and brackets, and the arguments
of paths are plain types.  An array is as long as a literal without blanks. -/
def Ty.IsPlain : Ty → Prop
  | .path p => p.IsPlain
  | .reference lifetime _ target =>
    (∀ l ∈ lifetime, l.raw = true → Lexer.neverRaw.contains l.name = false) ∧ target.IsPlain
  | .pointer _ target => target.IsPlain
  | .slice element => element.IsPlain
  | .array element length => element.IsPlain ∧ ∃ spelling, length = [.literal spelling] ∧
    Lexer.literal spelling.toList = some [] ∧ ' ' ∉ spelling.toList
  | .tuple elements trailing => typesPlain elements ∧
    (elements = [] → trailing = false) ∧ (elements.length = 1 → trailing = true)
  | .paren inner => inner.IsPlain
  | .never => True
  | .inferred => True
  | .qualified .. => False
  | .function .. => False
  | .object .. => False
  | .hidden .. => False
  | .expansion .. => False
  | .verbatim .. => False

/-- A path is plain if its segments are. -/
def Path.IsPlain : Path → Prop
  | .mk _ segments => segments ≠ [] ∧ segmentsPlain segments

/-- A segment is plain if it is a name with plain arguments. -/
def Segment.IsPlain : Segment → Prop
  | .mk ident arguments => ident.IsPlain ∧ arguments.IsPlain

/-- Plain arguments are types in angle brackets that no double colons precede. -/
def Arguments.IsPlain : Arguments → Prop
  | .none => True
  | .angle marked arguments trailing =>
    marked = false ∧ argumentsPlain arguments ∧ (arguments = [] → trailing = false)
  | .paren .. => False

/-- A plain argument is a plain type. -/
def Argument.IsPlain : Argument → Prop
  | .type t => t.IsPlain
  | .lifetime _ => False
  | .const _ => False
  | .equals .. => False
  | .equalsConst .. => False
  | .bounded .. => False

/-- All of these are plain. -/
def typesPlain : List Ty → Prop
  | [] => True
  | t :: rest => t.IsPlain ∧ typesPlain rest

/-- All of these are plain. -/
def segmentsPlain : List Segment → Prop
  | [] => True
  | s :: rest => s.IsPlain ∧ segmentsPlain rest

/-- All of these are plain. -/
def argumentsPlain : List Argument → Prop
  | [] => True
  | a :: rest => a.IsPlain ∧ argumentsPlain rest

end

-- the type `::Vec<&u8>`
example : (Ty.path (.mk true [.mk ⟨false, "Vec", by decide⟩ (.angle false
    [.type (.reference none false (.path (.ofIdent ⟨false, "u8", by decide⟩)))]
    false)])).IsPlain := by
  simp only [Ty.IsPlain, Path.IsPlain, segmentsPlain, Segment.IsPlain, Ident.IsPlain,
    Arguments.IsPlain, argumentsPlain, Argument.IsPlain, Path.ofIdent]
  decide +kernel

theorem forall_of_typesPlain {ts : List Ty} (h : typesPlain ts) : ∀ t ∈ ts, t.IsPlain := by
  induction ts with
  | nil => exact fun _ member => nomatch member
  | cons t ts ih =>
    rw [typesPlain] at h
    exact List.forall_mem_cons.mpr ⟨h.1, ih h.2⟩

theorem forall_of_segmentsPlain {ss : List Segment} (h : segmentsPlain ss) :
    ∀ s ∈ ss, s.IsPlain := by
  induction ss with
  | nil => exact fun _ member => nomatch member
  | cons s ss ih =>
    rw [segmentsPlain] at h
    exact List.forall_mem_cons.mpr ⟨h.1, ih h.2⟩

theorem exists_of_argumentsPlain {as : List Argument} (h : argumentsPlain as) :
    ∀ a ∈ as, ∃ t : Ty, a = .type t ∧ t.IsPlain := by
  induction as with
  | nil => exact fun _ member => nomatch member
  | cons a as ih =>
    rw [argumentsPlain] at h
    refine List.forall_mem_cons.mpr ⟨?_, ih h.2⟩
    cases a
    case type t => exact ⟨t, rfl, h.1⟩
    all_goals exact h.1.elim

/-! ### Tokens of lists -/

theorem typeTokens_eq (ts : List Ty) : typeTokens ts = ts.map Ty.tokens := by
  induction ts with
  | nil => rfl
  | cons t ts ih => rw [typeTokens, ih, List.map_cons]

theorem segmentTokens_eq (ss : List Segment) : segmentTokens ss = ss.map Segment.tokens := by
  induction ss with
  | nil => rfl
  | cons s ss ih => rw [segmentTokens, ih, List.map_cons]

theorem argumentTokens_eq (as : List Argument) :
    argumentTokens as = as.map fun a => (a.isLifetime, a.tokens) := by
  induction as with
  | nil => rfl
  | cons a as ih => rw [argumentTokens, ih, List.map_cons]

theorem exists_separated (separator : List Token) (trailing : Bool) (ts : List Token)
    (tss : List (List Token)) : ∃ more, separated separator trailing (ts :: tss) = ts ++ more := by
  cases tss with
  | nil =>
    cases trailing with
    | false => exact ⟨[], (List.append_nil ts).symm⟩
    | true => exact ⟨separator, rfl⟩
  | cons ts' tss => exact ⟨_, List.append_assoc _ _ _⟩

theorem length_le_separated (separator : List Token) (trailing : Bool) {tss : List (List Token)}
    (full : ∀ ts ∈ tss, ts ≠ []) : tss.length ≤ (separated separator trailing tss).length := by
  induction tss with
  | nil => exact Nat.zero_le _
  | cons ts tss ih =>
    obtain ⟨first, others⟩ := List.forall_mem_cons.mp full
    have one := List.length_pos_iff.mpr first
    cases tss with
    | nil => cases trailing <;> simp [separated] <;> omega
    | cons ts' tss =>
      have more := ih others
      show _ ≤ (ts ++ separator ++ separated separator trailing (ts' :: tss)).length
      rw [List.length_append, List.length_append, List.length_cons]
      omega

/-- Separated tokens are no lighter than each of them. -/
theorem listWeight_le_separated {ts separator : List Token} {trailing : Bool}
    {tss : List (List Token)} (member : ts ∈ tss) :
    Token.listWeight ts ≤ Token.listWeight (separated separator trailing tss) := by
  induction tss with
  | nil => cases member
  | cons first tss ih =>
    cases tss with
    | nil =>
      obtain rfl := List.mem_singleton.mp member
      cases trailing
      · exact Nat.le_refl _
      · show _ ≤ Token.listWeight (ts ++ separator)
        rw [Token.listWeight_append]
        exact Nat.le_add_right _ _
    | cons next tss =>
      show _ ≤ Token.listWeight (first ++ separator ++ separated separator trailing (next :: tss))
      rw [Token.listWeight_append, Token.listWeight_append]
      obtain rfl | member := List.mem_cons.mp member
      · omega
      · have := ih member
        omega

/-- Between segments there are double colons, and none behind the last. -/
theorem separated_colons (ts : List Token) (tss : List (List Token)) :
    separated colons false (ts :: tss) = ts ++ tss.flatMap (colons ++ ·) := by
  induction tss generalizing ts with
  | nil => simp [separated]
  | cons ts' tss ih =>
    show ts ++ colons ++ separated colons false (ts' :: tss) = _
    rw [ih, List.flatMap_cons, List.append_assoc, List.append_assoc]

/-- Arguments of which none is a lifetime stay as they are. -/
theorem rest_marked (trailing : Bool) (args : List (Bool × List Token)) (i count : Nat)
    (h : count = i + args.length) :
    lifetimesFirst.rest true ((args.zipIdx i).map fun (a, i) =>
      (a.1, a.2, if i + 1 < count || trailing then [Token.mark ','] else [])) =
    separated [Token.mark ','] trailing (args.map (·.2)) := by
  induction args generalizing i with
  | nil => rfl
  | cons a args ih =>
    cases args with
    | nil =>
      obtain rfl : count = i + 1 := h
      cases trailing <;> simp [lifetimesFirst.rest, separated]
    | cons b args =>
      have inside : i + 1 < count := by rw [h, List.length_cons, List.length_cons]; omega
      have := ih (i + 1) (by rw [h, List.length_cons]; omega)
      rw [List.zipIdx_cons, List.map_cons, lifetimesFirst.rest]
      simp only [inside, decide_true, Bool.true_or, if_true]
      show _ ++ lifetimesFirst.rest true _ = _
      rw [this]
      simp [separated]

theorem lifetimesFirst_eq (trailing : Bool) (args : List (Bool × List Token))
    (h : ∀ a ∈ args, a.1 = false) :
    lifetimesFirst trailing args = separated [Token.mark ','] trailing (args.map (·.2)) := by
  rw [← rest_marked trailing args 0 args.length (Nat.zero_add _).symm]
  have others : ∀ m ∈ args.zipIdx.map fun (a, i) =>
      (a.1, a.2, if i + 1 < args.length || trailing then [Token.mark ','] else []),
      m.1 = false := by
    intro m member
    obtain ⟨⟨a, i⟩, paired, rfl⟩ := List.mem_map.mp member
    exact h a (List.fst_mem_of_mem_zipIdx paired)
  have none := List.filter_eq_nil_iff.mpr fun m member => Bool.eq_false_iff.mp (others m member)
  have all := List.filter_eq_self.mpr fun m member => congrArg (!·) (others m member)
  unfold lifetimesFirst
  simp only [none, all]
  rfl

/-- The tokens of types in angle brackets. -/
theorem tokens_angle {as : List Argument} (plain : argumentsPlain as) (trailing : Bool) :
    (Arguments.angle false as trailing).tokens = Token.mark '<' ::
      (separated [Token.mark ','] trailing (as.map Argument.tokens) ++ [Token.mark '>']) := by
  have others : ∀ a ∈ argumentTokens as, a.1 = false := by
    rw [argumentTokens_eq]
    intro a member
    obtain ⟨a, there, rfl⟩ := List.mem_map.mp member
    obtain ⟨t, rfl, -⟩ := exists_of_argumentsPlain plain a there
    rfl
  rw [Arguments.tokens, lifetimesFirst_eq _ _ others, argumentTokens_eq, List.map_map]
  rfl

theorem tokens_reference (lifetime : Option Ident) (mutable : Bool) (target : Ty) :
    (Ty.reference lifetime mutable target).tokens = Token.mark '&' ::
      (lifetime.elim [] Lifetime.tokens ++
        ((if mutable then [Token.word "mut"] else []) ++ target.tokens)) := by
  cases lifetime <;> cases mutable <;> rfl

/-! ### Neat tokens -/

theorem Legible.append {ts us : List Token} (h : Legible ts) (h' : Legible us) :
    Legible (ts ++ us) := by
  induction h with
  | nil => exact h'
  | word identifier allowed _ ih => exact .word identifier allowed ih
  | literal done _ ih => exact .literal done ih
  | group d content _ _ ih => exact .group d content ih
  | alone mark other _ ih => exact .alone mark other ih
  | joined mark other next mark' comment _ ih => exact .joined mark other next mark' comment ih
  | lifetime _ ih => exact .lifetime ih

theorem Token.listFlat_append (ts us : List Token) :
    listFlat (ts ++ us) = listFlat ts ++ listFlat us := by
  induction ts with
  | nil => rfl
  | cons t ts ih => rw [List.cons_append, listFlat, listFlat, ih, List.append_assoc]

/-- The tokens can be told apart in their text, and no literal has a blank in it. -/
structure Neat (ts : List Token) : Prop where
  legible : Legible ts
  blankless : ∀ s, Bit.literal s ∈ Token.listFlat ts → ' ' ∉ s.toList

namespace Neat

variable {ts us : List Token} {i : Ident}

theorem nil : Neat [] := ⟨.nil, fun _ member => nomatch member⟩

theorem append (h : Neat ts) (h' : Neat us) : Neat (ts ++ us) := by
  refine ⟨h.legible.append h'.legible, fun s member => ?_⟩
  rw [Token.listFlat_append, List.mem_append] at member
  exact member.elim (h.blankless s) (h'.blankless s)

theorem mark {c : Char} (mark : c ∈ Lexer.punctuation) (other : c ≠ '\'') : Neat [Token.mark c] :=
  ⟨.alone mark other .nil, by simp [Token.mark, Token.listFlat, Token.flat]⟩

theorem colons : Neat colons :=
  ⟨.joined (d := ':') (by decide) (by decide) rfl (by decide) (by decide)
    (.alone (by decide) (by decide) .nil), by simp [Source.colons, Token.listFlat, Token.flat]⟩

theorem token (allowed : i.raw = true → Lexer.neverRaw.contains i.name = false) :
    Neat [i.token] :=
  ⟨.word i.isIdentifier allowed .nil, by simp [Ident.token, Token.listFlat, Token.flat]⟩

theorem lifetime (allowed : i.raw = true → Lexer.neverRaw.contains i.name = false) :
    Neat (Lifetime.tokens i) :=
  ⟨.lifetime (.word i.isIdentifier allowed .nil),
    by simp [Lifetime.tokens, Ident.token, Token.listFlat, Token.flat]⟩

theorem word {name : String} (identifier : Text.current.isIdentifier name = true) :
    Neat [Token.word name] :=
  ⟨.word identifier nofun .nil, by simp [Token.word, Token.listFlat, Token.flat]⟩

theorem literal {spelling : String} (done : Lexer.literal spelling.toList = some [])
    (blankless : ' ' ∉ spelling.toList) : Neat [.literal spelling] :=
  ⟨.literal done .nil, by simpa [Token.listFlat, Token.flat] using blankless⟩

theorem group (d : Delimiter) (h : Neat ts) : Neat [.group d ts] := by
  refine ⟨.group d h.legible .nil, fun s member => h.blankless s ?_⟩
  simpa [Token.listFlat, Token.flat] using member

/-- Separated tokens are neat if all of them are. -/
theorem separated {separator : List Token} (between : Neat separator) (trailing : Bool)
    {tss : List (List Token)} (each : ∀ ts ∈ tss, Neat ts) :
    Neat (separated separator trailing tss) := by
  induction tss with
  | nil => exact nil
  | cons ts tss ih =>
    obtain ⟨first, others⟩ := List.forall_mem_cons.mp each
    cases tss with
    | nil =>
      cases trailing with
      | false => exact first
      | true => exact first.append between
    | cons ts' tss => exact (first.append between).append (ih others)

end Neat

mutual

/-- **Plain types are neat.** -/
theorem Ty.IsPlain.neat (t : Ty) (h : t.IsPlain) : Neat t.tokens := by
  cases t
  case path p => exact Path.IsPlain.neat p h
  case reference lifetime mutable target =>
    rw [tokens_reference]
    refine (Neat.mark (by decide) (by decide)).append (.append ?_ (.append ?_ ?_))
    · cases lifetime with
      | none => exact .nil
      | some l => exact .lifetime (h.1 l rfl)
    · cases mutable with
      | false => exact .nil
      | true => exact .word (by decide)
    · exact Ty.IsPlain.neat target h.2
  case pointer mutable target =>
    refine ((Neat.mark (by decide) (by decide)).append ?_).append (Ty.IsPlain.neat target h)
    cases mutable <;> exact .word (by decide)
  case slice element => exact .group _ (Ty.IsPlain.neat element h)
  case array element length =>
    obtain ⟨plain, spelling, rfl, done, blankless⟩ := h
    refine .group _ (((Ty.IsPlain.neat element plain).append ?_).append (.literal done blankless))
    exact .mark (by decide) (by decide)
  case tuple elements trailing =>
    refine .group _ (.separated (.mark (by decide) (by decide)) _ ?_)
    exact typesPlain_neat elements h.1
  case paren inner => exact .group _ (Ty.IsPlain.neat inner h)
  case never => exact .mark (by decide) (by decide)
  case inferred => exact .word (by decide)
  all_goals exact h.elim

theorem Path.IsPlain.neat (p : Path) (h : p.IsPlain) : Neat p.tokens := by
  cases p with
  | mk leading segments =>
    rw [Path.IsPlain] at h
    have inner := Neat.separated .colons false (segmentsPlain_neat segments h.2)
    rw [Path.tokens]
    cases leading with
    | false => exact inner
    | true => exact .append .colons inner

theorem Segment.IsPlain.neat (s : Segment) (h : s.IsPlain) : Neat s.tokens := by
  cases s with
  | mk ident arguments =>
    rw [Segment.IsPlain] at h
    rw [Segment.tokens]
    exact (Neat.token h.1.2).append (Arguments.IsPlain.neat arguments h.2)

theorem Arguments.IsPlain.neat (a : Arguments) (h : a.IsPlain) : Neat a.tokens := by
  cases a
  case none => exact .nil
  case angle marked arguments trailing =>
    obtain ⟨rfl, plain, -⟩ := h
    rw [tokens_angle plain]
    refine (Neat.mark (by decide) (by decide)).append (.append ?_ (.mark (by decide) (by decide)))
    refine .separated (.mark (by decide) (by decide)) _ fun ts member => ?_
    obtain ⟨a, there, rfl⟩ := List.mem_map.mp member
    exact argumentsPlain_neat arguments plain a there
  case paren => exact h.elim

theorem typesPlain_neat (ts : List Ty) (h : typesPlain ts) : ∀ us ∈ typeTokens ts, Neat us := by
  cases ts with
  | nil => exact fun _ member => nomatch member
  | cons t rest =>
    rw [typesPlain] at h
    rw [typeTokens]
    exact List.forall_mem_cons.mpr ⟨Ty.IsPlain.neat t h.1, typesPlain_neat rest h.2⟩

theorem segmentsPlain_neat (ss : List Segment) (h : segmentsPlain ss) :
    ∀ us ∈ segmentTokens ss, Neat us := by
  cases ss with
  | nil => exact fun _ member => nomatch member
  | cons s rest =>
    rw [segmentsPlain] at h
    rw [segmentTokens]
    exact List.forall_mem_cons.mpr ⟨Segment.IsPlain.neat s h.1, segmentsPlain_neat rest h.2⟩

theorem argumentsPlain_neat (as : List Argument) (h : argumentsPlain as) :
    ∀ a ∈ as, Neat a.tokens := by
  cases as with
  | nil => exact fun _ member => nomatch member
  | cons a rest =>
    rw [argumentsPlain] at h
    refine List.forall_mem_cons.mpr ⟨?_, argumentsPlain_neat rest h.2⟩
    cases a <;> rw [Argument.IsPlain] at h
    case type t => exact Ty.IsPlain.neat t h.1
    all_goals exact h.1.elim

end

end Recordwright.Source
