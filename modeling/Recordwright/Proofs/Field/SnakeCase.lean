import Mathlib.Data.List.DropRight
import Recordwright.Field.Name

/-!
# Snake case

The snake-case form of a name is made by a loop that looks at the neighbours of each character, and
that decides about an underscore and about a lower-case form at once.  `Separates` says what comes
out: each upper-case character is replaced by its lower-case form, every other one stays, and an
underscore stands before the characters at which a word begins (`BeginsWord`), and nowhere else.

A word begins neither at the start of a name nor next to an underscore, and no lower-case form has
an underscore in it or is empty.  So the underscores of the name and the new ones stay apart: the
form has as many leading, trailing and doubled underscores as the name.

If the upper-case characters of a name have lower-case forms without upper-case characters
(`Text.LowersFully`), then the form has none either, and it is its own form.
-/

namespace Recordwright

namespace Text

variable {c : Char}

/-! ### Lower-case forms -/

/-- What holds of the first 128 characters, by their numbers, holds of each ASCII character. -/
theorem of_ascii {P : Char → Prop} (all : ∀ n < 128, P (Char.ofNat n)) (low : c.val < 128) :
    P c := by
  have one := all c.toNat (UInt32.lt_iff_toNat_lt.mp low)
  rwa [Char.ofNat_toNat] at one

/-- A lower-case form has a character. -/
theorem lowerForm_ne_nil (c : Char) : lowerForm c ≠ [] := by
  unfold lowerForm
  repeat' split
  all_goals exact List.cons_ne_nil _ _

/-- The lower-case forms of a run lie on one side of the underscore. -/
theorem shift_ne_underscore {r : Case.Run} (known : r ∈ Case.lowerRuns) {n : Nat}
    (member : r.contains n = true) : (n + r.shift).toNat ≠ '_'.toNat := by
  have apart : ∀ r ∈ Case.lowerRuns, r.last + r.shift < 95 ∨ 95 < r.first + r.shift := by
    decide +kernel
  have bounds : r.first ≤ n ∧ n ≤ r.last := by
    simp only [Case.Run.contains, Bool.and_eq_true, decide_eq_true_eq] at member
    exact member.1
  have value : '_'.toNat = 95 := rfl
  have side := apart r known
  omega

/-- A character with another number is not the underscore, and neither is what stands for a number
that no character has. -/
theorem ofNat_ne_underscore {n : Nat} (other : n ≠ '_'.toNat) : Char.ofNat n ≠ '_' := by
  intro same
  by_cases valid : n.isValidChar
  · have known : Char.ofNat n = Char.ofNatAux n valid := dif_pos valid
    exact other (congrArg Char.toNat (known.symm.trans same))
  · have none : Char.ofNat n = '\x00' := dif_neg valid
    exact absurd (none.symm.trans same) (by decide)

/-- No lower-case form of an upper-case character has an underscore in it. -/
theorem underscore_notMem_lowerForm (upper : isUpper c = true) : '_' ∉ lowerForm c := by
  -- ASCII characters one by one; beyond them a form is found by the run that the character is in.
  by_cases low : c.val < 128
  · have all : ∀ n < 128, isUpper (Char.ofNat n) = true → '_' ∉ lowerForm (Char.ofNat n) := by
      decide +kernel
    exact of_ascii (P := fun c => isUpper c = true → '_' ∉ lowerForm c) all low upper
  · rw [lowerForm, if_neg low]
    split
    · decide
    split
    next r found =>
      have known := List.mem_of_find?_eq_some found
      have member := List.find?_some found
      rw [List.mem_singleton]
      exact (ofNat_ne_underscore (shift_ne_underscore known member)).symm
    next =>
      rw [List.mem_singleton]
      rintro rfl
      exact low (by decide)

/-- The upper-case characters of the text have lower-case forms without upper-case characters. -/
def LowersFully (s : List Char) : Prop :=
  ∀ c ∈ s, isUpper c = true → ∀ d ∈ lowerForm c, isUpper d = false

instance (s : List Char) : Decidable (LowersFully s) :=
  decidable_of_iff (s.all fun c => !isUpper c || (lowerForm c).all fun d => !isUpper d) <| by
    simp [LowersFully, Decidable.imp_iff_not_or]

/-- ASCII capitals have small letters. -/
theorem lowersFully_of_ascii {s : List Char} (ascii : ∀ c ∈ s, c.val < 128) : LowersFully s := by
  have all : ∀ n < 128, (lowerForm (Char.ofNat n)).all (fun d => !isUpper d) = true := by
    decide +kernel
  intro c member _ d lower
  have one := of_ascii (P := fun c => (lowerForm c).all (fun d => !isUpper d) = true) all
    (ascii c member)
  simpa using List.all_eq_true.mp one d lower

end Text

/-! ### Runs at the end of a list -/

section Runs

variable {α : Type} {p : α → Bool} {as bs : List α}

theorem rtakeWhile_append_of_forall (all : ∀ b ∈ bs, p b = true) :
    (as ++ bs).rtakeWhile p = as.rtakeWhile p ++ bs := by
  have reversed : ∀ b ∈ bs.reverse, p b = true := fun b member => all b (List.mem_reverse.mp member)
  rw [List.rtakeWhile, List.reverse_append, List.takeWhile_append_of_pos reversed,
    List.reverse_append, List.reverse_reverse, List.rtakeWhile]

theorem rtakeWhile_append_of_not_forall (other : ¬∀ b ∈ bs, p b = true) :
    (as ++ bs).rtakeWhile p = bs.rtakeWhile p := by
  have stops : (bs.reverse.takeWhile p).length ≠ bs.reverse.length := by
    intro whole
    have same := (List.takeWhile_prefix p).eq_of_length whole
    exact other fun b member => List.takeWhile_eq_self_iff.mp same b (List.mem_reverse.mpr member)
  rw [List.rtakeWhile, List.reverse_append, List.takeWhile_append, if_neg stops, List.rtakeWhile]

/-- Lists that end alike behind lists that end alike end alike, if both or neither are runs. -/
theorem rtakeWhile_append_congr {cs ds : List α} (front : as.rtakeWhile p = cs.rtakeWhile p)
    (back : bs.rtakeWhile p = ds.rtakeWhile p)
    (whole : (∀ b ∈ bs, p b = true) ↔ ∀ d ∈ ds, p d = true) :
    (as ++ bs).rtakeWhile p = (cs ++ ds).rtakeWhile p := by
  by_cases run : ∀ d ∈ ds, p d = true
  · have same : bs = ds := by
      rwa [List.rtakeWhile_eq_self_iff.mpr run, List.rtakeWhile_eq_self_iff.mpr (whole.mpr run)]
        at back
    rw [rtakeWhile_append_of_forall run, same, rtakeWhile_append_of_forall run, front]
  · rw [rtakeWhile_append_of_not_forall run,
      rtakeWhile_append_of_not_forall fun all => run (whole.mp all), back]

end Runs

namespace Name

open Text (isUpper isLower isAsciiDigit lowerForm LowersFully)

variable {previous next : Option Char} {c : Char} {cs rest out part : List Char}

/-! ### Words -/

/-- An upper-case character in lower case, and every other one as it is. -/
def lowerUpper (c : Char) : List Char := if isUpper c then lowerForm c else [c]

/-- A word begins at the character between these two: it is upper case, and it stands behind a
lower-case character or a digit, or between an upper-case and a lower-case character. -/
structure BeginsWord (previous : Option Char) (c : Char) (next : Option Char) : Prop where
  upper : isUpper c = true
  behind : ∃ p, previous = some p ∧ p ≠ '_' ∧
    (isLower p = true ∨ isAsciiDigit p = true ∨
      isUpper p = true ∧ ∃ n, next = some n ∧ isLower n = true)

/-- The characters that follow `previous`, in lower case, with one underscore before each at which a
word begins. -/
inductive Separates : Option Char → List Char → List Char → Prop
  | nil {previous : Option Char} : Separates previous [] []
  | within {previous : Option Char} {c : Char} {rest out : List Char}
      (stays : ¬ BeginsWord previous c rest.head?) (others : Separates (some c) rest out) :
      Separates previous (c :: rest) (lowerUpper c ++ out)
  | word {previous : Option Char} {c : Char} {rest out : List Char}
      (begins : BeginsWord previous c rest.head?) (others : Separates (some c) rest out) :
      Separates previous (c :: rest) ('_' :: (lowerUpper c ++ out))

/-- What the loop asks of the neighbours. -/
theorem startsWord_iff :
    startsWord previous next = true ↔ ∃ p, previous = some p ∧ p ≠ '_' ∧
      (isLower p = true ∨ isAsciiDigit p = true ∨
        isUpper p = true ∧ ∃ n, next = some n ∧ isLower n = true) := by
  unfold startsWord
  cases previous with
  | none => simp
  | some p =>
    cases next with
    | none => grind
    | some n => grind

theorem beginsWord_iff :
    BeginsWord previous c next ↔ isUpper c = true ∧ startsWord previous next = true := by
  rw [startsWord_iff]
  exact ⟨fun h => ⟨h.upper, h.behind⟩, fun h => ⟨h.1, h.2⟩⟩

/-- **The loop separates words.** -/
theorem separates_snakeFrom (previous : Option Char) (cs : List Char) :
    Separates previous cs (snakeFrom previous cs) := by
  induction cs generalizing previous with
  | nil => exact .nil
  | cons c rest ih =>
    rw [snakeFrom]
    split
    next upper =>
      have lower : lowerUpper c = lowerForm c := if_pos upper
      rw [← lower]
      split
      next starts => exact .word (beginsWord_iff.mpr ⟨upper, starts⟩) (ih _)
      next stays => exact .within (fun begins => stays (beginsWord_iff.mp begins).2) (ih _)
    next other =>
      have same : lowerUpper c = [c] := if_neg other
      have stays : ¬ BeginsWord previous c rest.head? := fun begins => other begins.upper
      have kept := Separates.within stays (ih (some c))
      rwa [same] at kept

/-! ### Underscores -/

/-- How many underscores stand directly behind another one. -/
def doubled (cs : List Char) : Nat := (cs.zip cs.tail).count ('_', '_')

/-- One character more in front: it counts if it is an underscore before an underscore. -/
theorem doubled_cons (c : Char) (cs : List Char) :
    doubled (c :: cs) = doubled cs + if c = '_' ∧ cs.head? = some '_' then 1 else 0 := by
  cases cs with
  | nil => simp [doubled]
  | cons d cs =>
    simp only [doubled, List.tail_cons, List.zip_cons_cons, List.count_cons, List.head?_cons,
      beq_iff_eq, Prod.mk.injEq, Option.some.injEq]

theorem doubled_cons_of_ne (other : c ≠ '_') : doubled (c :: cs) = doubled cs := by
  rw [doubled_cons, if_neg fun both => other both.1, Nat.add_zero]

theorem doubled_append_of_notMem (absent : '_' ∉ part) : doubled (part ++ out) = doubled out := by
  induction part with
  | nil => rfl
  | cons d part ih =>
    rw [List.mem_cons, not_or] at absent
    rw [List.cons_append, doubled_cons_of_ne (Ne.symm absent.1), ih absent.2]

theorem lowerUpper_underscore : lowerUpper '_' = ['_'] := rfl

/-- What stands for another character than the underscore has no underscore in it. -/
theorem notMem_lowerUpper (other : c ≠ '_') : '_' ∉ lowerUpper c := by
  unfold lowerUpper
  split
  next upper => exact Text.underscore_notMem_lowerForm upper
  next => exact fun member => other (List.mem_singleton.mp member).symm

/-- What stands for a character other than the underscore begins with no underscore. -/
theorem exists_lowerUpper_eq_cons (other : c ≠ '_') :
    ∃ d part, lowerUpper c = d :: part ∧ d ≠ '_' := by
  have nonempty : lowerUpper c ≠ [] := by
    unfold lowerUpper
    split
    · exact Text.lowerForm_ne_nil c
    · exact List.cons_ne_nil _ _
  obtain ⟨d, part, lower⟩ := List.exists_cons_of_ne_nil nonempty
  refine ⟨d, part, lower, ?_⟩
  rintro rfl
  exact notMem_lowerUpper other (lower ▸ List.mem_cons_self)

theorem rtakeWhile_singleton_of_ne (other : c ≠ '_') : [c].rtakeWhile (· == '_') = [] :=
  List.rtakeWhile_concat_neg _ [] c (by simpa using other)

/-- So it ends any run of underscores. -/
theorem rtakeWhile_append_lowerUpper (front : List Char) (other : c ≠ '_') :
    (front ++ lowerUpper c).rtakeWhile (· == '_') = [] := by
  obtain ⟨d, part, lower, -⟩ := exists_lowerUpper_eq_cons other
  rw [List.rtakeWhile_eq_nil_iff]
  intro nonempty last
  -- the last character is one of the lower-case form
  have member : (front ++ lowerUpper c).getLast nonempty ∈ lowerUpper c := by
    rw [List.getLast_append_of_ne_nil nonempty (by simp [lower])]
    exact List.getLast_mem _
  exact notMem_lowerUpper other (beq_iff_eq.mp last ▸ member)

/-- No word begins with an underscore. -/
theorem BeginsWord.ne_underscore (h : BeginsWord previous c next) : c ≠ '_' := by
  rintro rfl
  exact absurd h.upper (by decide)

/-- Behind an underscore no word begins. -/
theorem not_beginsWord_underscore : ¬ BeginsWord (some '_') c next := by
  rintro ⟨-, p, same, other, -⟩
  exact other (Option.some.inj same).symm

namespace Separates

/-- Behind an underscore the form begins with another one iff the name goes on with one. -/
theorem head?_eq_iff (h : Separates (some '_') cs out) :
    out.head? = some '_' ↔ cs.head? = some '_' := by
  cases h with
  | nil => rfl
  | word begins others => exact absurd begins not_beginsWord_underscore
  | @within _ c rest out stays others =>
    by_cases underscore : c = '_'
    · subst underscore
      exact iff_of_true rfl rfl
    · obtain ⟨d, part, lower, different⟩ := exists_lowerUpper_eq_cons underscore
      rw [lower, List.cons_append, List.head?_cons, List.head?_cons, Option.some.injEq,
        Option.some.injEq]
      exact iff_of_false different underscore

/-- **Leading underscores** are those of the name. -/
theorem takeWhile_eq (h : Separates previous cs out) (start : ∀ p, previous = some p → p = '_') :
    out.takeWhile (· == '_') = cs.takeWhile (· == '_') := by
  -- as long as there are underscores, the next character stands behind one
  induction h with
  | nil => rfl
  | @within previous c rest out stays others ih =>
    by_cases underscore : c = '_'
    · subst underscore
      have tail := ih fun p same => (Option.some.inj same).symm
      rw [lowerUpper_underscore, List.singleton_append, List.takeWhile_cons, List.takeWhile_cons,
        tail]
    · obtain ⟨d, part, lower, different⟩ := exists_lowerUpper_eq_cons underscore
      rw [lower, List.cons_append, List.takeWhile_cons, List.takeWhile_cons,
        beq_false_of_ne different, beq_false_of_ne underscore]
      rfl
  | word begins others ih =>
    obtain ⟨p, behind, other, -⟩ := begins.behind
    exact absurd (start p behind) other

/-- The form is made of underscores alone iff the name is. -/
theorem forall_eq_underscore_iff (h : Separates previous cs out) :
    (∀ d ∈ out, (d == '_') = true) ↔ ∀ c ∈ cs, (c == '_') = true := by
  -- Any other character leaves one in the form that is no underscore.
  have stops : ∀ (front : List Char) {c : Char} {part : List Char}, c ≠ '_' →
      ¬∀ d ∈ front ++ (lowerUpper c ++ part), (d == '_') = true := by
    intro front c part other all
    obtain ⟨d, lowered, lower, different⟩ := exists_lowerUpper_eq_cons other
    have member : d ∈ front ++ (lowerUpper c ++ part) := by simp [lower]
    exact different (beq_iff_eq.mp (all d member))
  induction h with
  | nil => rfl
  | @within previous c rest out stays others ih =>
    by_cases underscore : c = '_'
    · subst underscore
      rw [lowerUpper_underscore, List.singleton_append, List.forall_mem_cons, List.forall_mem_cons]
      exact and_congr_right fun _ => ih
    · exact iff_of_false (stops [] underscore)
        fun all => underscore (beq_iff_eq.mp (all c List.mem_cons_self))
  | @word previous c rest out begins others ih =>
    have other := begins.ne_underscore
    exact iff_of_false (stops ['_'] other)
      fun all => other (beq_iff_eq.mp (all c List.mem_cons_self))

/-- **Trailing underscores** are those of the name. -/
theorem rtakeWhile_eq (h : Separates previous cs out) :
    out.rtakeWhile (· == '_') = cs.rtakeWhile (· == '_') := by
  -- From the back: what a character stands for matters only if underscores alone are behind it.
  induction h with
  | nil => rfl
  | @within previous c rest out stays others ih =>
    rw [← List.singleton_append]
    refine rtakeWhile_append_congr ?_ ih others.forall_eq_underscore_iff
    by_cases underscore : c = '_'
    · rw [underscore, lowerUpper_underscore]
    · rw [← List.nil_append (lowerUpper c), rtakeWhile_append_lowerUpper [] underscore,
        rtakeWhile_singleton_of_ne underscore]
  | @word previous c rest out begins others ih =>
    have other := begins.ne_underscore
    rw [← List.singleton_append (l := rest), ← List.cons_append]
    refine rtakeWhile_append_congr ?_ ih others.forall_eq_underscore_iff
    rw [← List.singleton_append, rtakeWhile_append_lowerUpper ['_'] other,
      rtakeWhile_singleton_of_ne other]

/-- **Doubled underscores** are those of the name. -/
theorem doubled_eq (h : Separates previous cs out) : doubled out = doubled cs := by
  induction h with
  | nil => rfl
  | @within previous c rest out stays others ih =>
    by_cases underscore : c = '_'
    · subst underscore
      rw [lowerUpper_underscore, List.singleton_append, doubled_cons, doubled_cons, ih]
      simp only [others.head?_eq_iff]
    · rw [doubled_append_of_notMem (notMem_lowerUpper underscore), doubled_cons_of_ne underscore,
        ih]
  | @word previous c rest out begins others ih =>
    have other := begins.ne_underscore
    -- the new underscore is followed by a lower-case form
    obtain ⟨d, part, lower, different⟩ := exists_lowerUpper_eq_cons other
    have single : ¬('_' = '_' ∧ (lowerUpper c ++ out).head? = some '_') := by
      rw [lower, List.cons_append, List.head?_cons, Option.some.injEq]
      exact fun both => different both.2
    rw [doubled_cons, if_neg single, Nat.add_zero,
      doubled_append_of_notMem (notMem_lowerUpper other), doubled_cons_of_ne other, ih]

/-! ### Upper-case characters -/

/-- Where all upper-case characters can be lowered, none is left. -/
theorem isUpper_eq_false (h : Separates previous cs out) (lowers : LowersFully cs) :
    ∀ d ∈ out, isUpper d = false := by
  have lowered : ∀ {c : Char} {rest : List Char}, LowersFully (c :: rest) →
      ∀ d ∈ lowerUpper c, isUpper d = false := by
    intro c rest lowers d member
    unfold lowerUpper at member
    split at member
    next upper => exact lowers c List.mem_cons_self upper d member
    next other => rwa [List.mem_singleton.mp member, ← Bool.not_eq_true]
  induction h with
  | nil => exact fun d member => absurd member List.not_mem_nil
  | within stays others ih =>
    rw [List.forall_mem_append]
    exact ⟨lowered lowers, ih fun c member => lowers c (List.mem_cons_of_mem _ member)⟩
  | word begins others ih =>
    rw [List.forall_mem_cons, List.forall_mem_append]
    exact ⟨rfl, lowered lowers, ih fun c member => lowers c (List.mem_cons_of_mem _ member)⟩

/-- A name without upper-case characters is its own form. -/
theorem eq_of_not_isUpper (h : Separates previous cs out) (none : ∀ c ∈ cs, isUpper c = false) :
    out = cs := by
  induction h with
  | nil => rfl
  | @within previous c rest out stays others ih =>
    obtain ⟨first, behind⟩ := List.forall_mem_cons.mp none
    have same : lowerUpper c = [c] := by
      rw [lowerUpper, first]
      rfl
    rw [same, ih behind, List.singleton_append]
  | word begins others ih =>
    have upper := begins.upper
    rw [none _ List.mem_cons_self] at upper
    cases upper

end Separates

/-- A whole name has nothing in front of it. -/
theorem separates_snakeCase (s : String) : Separates none s.toList (snakeCase s).toList := by
  rw [snakeCase, String.toList_ofList]
  exact separates_snakeFrom none s.toList

/-- **Snake case, exactly.** For every name,

* its snake-case form has the lower-case form of each upper-case character and every other character
  as it is, and before each character at which a word begins one underscore more; a word begins at
  an upper-case character, neither first in the name nor behind an underscore;
* the underscores at the start, at the end and behind another one are as many as in the name;
* if all upper-case characters have lower-case forms without upper-case characters, the form has no
  upper-case character and is its own snake-case form;
* names of ASCII characters alone are such names. -/
theorem words_separated (s : String) :
    Separates none s.toList (snakeCase s).toList ∧
    (snakeCase s).toList.takeWhile (· == '_') = s.toList.takeWhile (· == '_') ∧
    (snakeCase s).toList.rtakeWhile (· == '_') = s.toList.rtakeWhile (· == '_') ∧
    doubled (snakeCase s).toList = doubled s.toList ∧
    (LowersFully s.toList →
      (∀ d ∈ (snakeCase s).toList, isUpper d = false) ∧ snakeCase (snakeCase s) = snakeCase s) ∧
    ((∀ c ∈ s.toList, c.val < 128) → LowersFully s.toList) := by
  have separates := separates_snakeCase s
  refine ⟨separates, separates.takeWhile_eq nofun, separates.rtakeWhile_eq, separates.doubled_eq,
    fun lowers => ?_, Text.lowersFully_of_ascii⟩
  have lower := separates.isUpper_eq_false lowers
  refine ⟨lower, String.toList_inj.mp ?_⟩
  exact (separates_snakeCase (snakeCase s)).eq_of_not_isUpper lower

/-- Capitals in a row, one beyond ASCII, a digit and underscores of the name itself. -/
theorem words_separated_mixed :
    LowersFully "_HTTPÄrger2Go__X_".toList ∧
    snakeCase "_HTTPÄrger2Go__X_" = "_http_ärger2_go__x_" ∧
    snakeCase "_http_ärger2_go__x_" = "_http_ärger2_go__x_" := by
  have lowers : LowersFully "_HTTPÄrger2Go__X_".toList := by decide +kernel
  have form : snakeCase "_HTTPÄrger2Go__X_" = "_http_ärger2_go__x_" := by decide +kernel
  obtain ⟨-, -, -, -, settled, -⟩ := words_separated "_HTTPÄrger2Go__X_"
  have own := (settled lowers).2
  rw [form] at own
  exact ⟨lowers, form, own⟩

-- a capital without a lower-case form: behind the small letter it begins a word
example : snakeCase "A𝐀" = "a𝐀" ∧ snakeCase "a𝐀" = "a_𝐀" := by decide +kernel

end Name

end Recordwright
