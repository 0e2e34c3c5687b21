import Mathlib.Data.List.DropRight
import Mathlib.Data.List.Nodup
import Recordwright.Field.Type
import Recordwright.Proofs.Source.Letters

/-!
# How types are declared

The texts that name a type, by a grammar.  A `Spelling` takes such a text apart: the name of a
storage type in any letter case, a mark that may be around or behind it, and the blanks next to
both.  The reader of declarations takes blanks away from outside, looks for a question mark, then
for `Option<…>`, and only then for a name.  It never goes back, but it need not: a name begins and
ends with no blank, does not end with a question mark and does not begin like the opening of the
wrapped form.  So each accepted text has one spelling only (`FieldType.declared_iff`), and a type
that is nullable cannot be marked once more.
-/

namespace Recordwright

namespace Text

variable {s core before after : List Char}

/-! ### Blanks at the ends -/

/-- Nothing but blanks. -/
def AllBlank (s : List Char) : Prop := ∀ c ∈ s, isBlank c = true

/-- There is a character, and neither the first nor the last one is blank. -/
structure Solid (s : List Char) : Prop where
  ne_nil : s ≠ []
  head : ∀ c ∈ s.head?, isBlank c = false
  last : ∀ c ∈ s.getLast?, isBlank c = false

theorem trimBlanks_eq_rdropWhile (s : List Char) :
    trimBlanks s = (s.dropWhile isBlank).rdropWhile isBlank := rfl

/-- What trimming takes away are blanks. -/
theorem exists_eq_append_trimBlanks (s : List Char) :
    ∃ before after, AllBlank before ∧ AllBlank after ∧ s = before ++ trimBlanks s ++ after := by
  refine ⟨s.takeWhile isBlank, (s.dropWhile isBlank).rtakeWhile isBlank, ?_, ?_, ?_⟩
  · intro c member
    exact List.mem_takeWhile_imp member
  · intro c member
    exact List.mem_rtakeWhile_imp member
  · rw [trimBlanks_eq_rdropWhile, List.append_assoc, List.rdropWhile_append_rtakeWhile,
      List.takeWhile_append_dropWhile]

/-- Blanks in front are passed over. -/
theorem AllBlank.dropWhile_append (blanks : AllBlank before) (s : List Char) :
    (before ++ s).dropWhile isBlank = s.dropWhile isBlank := by
  rw [List.dropWhile_append, List.dropWhile_eq_nil_iff.mpr blanks]
  rfl

theorem AllBlank.takeWhile_append (blanks : AllBlank before) (s : List Char) :
    (before ++ s).takeWhile isBlank = before ++ s.takeWhile isBlank := by
  rw [List.takeWhile_append, List.takeWhile_eq_self_iff.mpr blanks, if_pos rfl]

/-- In front of a solid text nothing is passed over, whatever is behind it. -/
theorem Solid.dropWhile_append (solid : Solid core) (s : List Char) :
    (core ++ s).dropWhile isBlank = core ++ s := by
  obtain ⟨c, rest, rfl⟩ := List.exists_cons_of_ne_nil solid.ne_nil
  have first : isBlank c = false := solid.head c rfl
  rw [List.cons_append, List.dropWhile_cons, first]
  rfl

theorem Solid.takeWhile_append (solid : Solid core) (s : List Char) :
    (core ++ s).takeWhile isBlank = [] := by
  obtain ⟨c, rest, rfl⟩ := List.exists_cons_of_ne_nil solid.ne_nil
  have first : isBlank c = false := solid.head c rfl
  rw [List.cons_append, List.takeWhile_cons, first]
  rfl

/-- Blanks around a solid text are taken away, and nothing else is. -/
theorem Solid.trimBlanks_append (solid : Solid core) (hb : AllBlank before) (ha : AllBlank after) :
    trimBlanks (before ++ core ++ after) = core := by
  -- Trimming at the end is trimming the reversed text at the start.
  have reversed : Solid core.reverse :=
    ⟨by simpa using solid.ne_nil, by simpa using solid.last, by simpa using solid.head⟩
  have blanks : AllBlank after.reverse := fun c member => ha c (List.mem_reverse.mp member)
  unfold trimBlanks
  rw [List.append_assoc, hb.dropWhile_append, solid.dropWhile_append, List.reverse_append,
    blanks.dropWhile_append]
  have kept := reversed.dropWhile_append []
  rw [List.append_nil] at kept
  rw [kept, List.reverse_reverse]

/-- A solid text among blanks stands in one place only. -/
theorem Solid.append_inj {core' before' after' : List Char} (solid : Solid core)
    (solid' : Solid core') (hb : AllBlank before) (hb' : AllBlank before') (ha : AllBlank after)
    (ha' : AllBlank after') (same : before ++ core ++ after = before' ++ core' ++ after') :
    before = before' ∧ core = core' ∧ after = after' := by
  have cores : core = core' := by
    rw [← solid.trimBlanks_append hb ha, same, solid'.trimBlanks_append hb' ha']
  subst cores
  have leads : before = before' := by
    have blanks := congrArg (List.takeWhile isBlank) same
    simp only [List.append_assoc, hb.takeWhile_append, hb'.takeWhile_append,
      solid.takeWhile_append, List.append_nil] at blanks
    exact blanks
  subst leads
  exact ⟨rfl, rfl, List.append_cancel_left same⟩

/-- Blanks have no letter case. -/
theorem lowerForm_of_isBlank {c : Char} (h : isBlank c = true) : lowerForm c = [c] := by
  have all : ∀ n ∈ Source.Lexer.blanks, lowerForm (Char.ofNat n) = [Char.ofNat n] := by
    decide +kernel
  have space : Source.Lexer.isSpace c = true := by
    rw [Source.Lexer.isSpace, h]
    rfl
  have known := all _ (Source.Lexer.mem_blanks_of_isSpace space)
  rwa [Char.ofNat_toNat] at known

end Text

namespace FieldType

open Text (AllBlank Solid lowered isBlank trimBlanks)

variable {name s : List Char} {storage storage' : StorageType} {t : FieldType}

/-! ### Names of storage types -/

/-- The text is a name of the storage type once its capitals are replaced. -/
def IsName (name : List Char) (storage : StorageType) : Prop :=
  (String.ofList (lowered name), storage) ∈ names

/-- The search among the names finds the storage type that the text is a name of. -/
theorem storageOf?_eq_some_iff : storageOf? name = some storage ↔ IsName name storage := by
  have distinct : (names.map (·.1)).Nodup := by decide
  unfold storageOf? IsName
  simp only [Option.map_eq_some_iff]
  constructor
  · rintro ⟨⟨word, found⟩, first, rfl⟩
    have spelled := List.find?_some first
    rw [beq_iff_eq] at spelled
    have word_eq : word = String.ofList (lowered name) := by
      rw [← spelled, String.ofList_toList]
    exact word_eq ▸ List.mem_of_find?_eq_some first
  · intro member
    refine ⟨(String.ofList (lowered name), storage), ?_, rfl⟩
    -- only one entry has this word, so it is the one that is found
    cases found : names.find? fun n => n.1.toList == lowered name with
    | none =>
      have other := List.find?_eq_none.mp found _ member
      simp at other
    | some n =>
      have spelled := List.find?_some found
      rw [beq_iff_eq] at spelled
      have same : n.1 = String.ofList (lowered name) := by
        rw [← spelled, String.ofList_toList]
      have entry := List.inj_on_of_nodup_map distinct (List.mem_of_find?_eq_some found) member same
      rw [entry]

/-- A name belongs to one storage type. -/
theorem IsName.unique (h : IsName name storage) (h' : IsName name storage') :
    storage = storage' := by
  have found := storageOf?_eq_some_iff.mpr h
  rw [storageOf?_eq_some_iff.mpr h'] at found
  exact (Option.some.inj found).symm

/-- A character without letter case that is in none of the names. -/
theorem IsName.notMem (h : IsName name storage) {c : Char} (caseless : Text.lowerForm c = [c])
    (foreign : ∀ n ∈ names, c ∉ n.1.toList) : c ∉ name := by
  intro member
  have lower : c ∈ lowered name := List.mem_flatMap.mpr ⟨c, member, by rw [caseless]; simp⟩
  have absent := foreign _ h
  rw [String.toList_ofList] at absent
  exact absent lower

/-- Names have no blanks in them. -/
theorem IsName.not_isBlank (h : IsName name storage) : ∀ c ∈ name, isBlank c = false := by
  have none : ∀ n ∈ names, n.1.toList.all (!isBlank ·) = true := by decide
  intro c member
  rw [← Bool.not_eq_true]
  intro blank
  refine h.notMem (Text.lowerForm_of_isBlank blank) (fun n entry inside => ?_) member
  have solid := List.all_eq_true.mp (none n entry) c inside
  rw [blank] at solid
  cases solid

theorem IsName.ne_nil (h : IsName name storage) : name ≠ [] := by
  rintro rfl
  have none : ∀ n ∈ names, n.1 ≠ "" := by decide
  exact none _ h rfl

/-- So nothing is trimmed from a name. -/
theorem IsName.solid (h : IsName name storage) : Solid name where
  ne_nil := h.ne_nil
  head c member := h.not_isBlank c (List.mem_of_mem_head? member)
  last c member := h.not_isBlank c (List.mem_of_mem_getLast? member)

/-- Nor have they question marks. -/
theorem IsName.question_notMem (h : IsName name storage) : '?' ∉ name :=
  h.notMem (by decide) (by decide)

/-- No name begins like the wrapped form, in whatever letter case. -/
theorem IsName.not_opening (h : IsName name storage) (rest : List Char) :
    name ≠ opening ++ rest := by
  rintro rfl
  have none : ∀ n ∈ names, (lowered opening).isPrefixOf n.1.toList = false := by decide
  have begins := none _ h
  rw [String.toList_ofList, Text.lowered_append] at begins
  rw [List.isPrefixOf_iff_prefix.mpr (List.prefix_append _ _)] at begins
  cases begins

/-! ### The grammar -/

/-- How a declaration marks its type as nullable, and with which blanks. -/
inductive Mark where
  /-- Not at all. -/
  | none
  /-- By a question mark behind the name. -/
  | question (gap : List Char)
  /-- By `Option<…>` around the name. -/
  | option (lead gap : List Char)

namespace Mark

/-- The name with its mark. -/
def around (m : Mark) (name : List Char) : List Char :=
  match m with
  | none => name
  | question gap => name ++ gap ++ ['?']
  | option lead gap => opening ++ (lead ++ name ++ gap) ++ ['>']

/-- The characters between the mark and the name. -/
def gaps : Mark → List Char
  | none => []
  | question gap => gap
  | option lead gap => lead ++ gap

/-- Is there a mark? -/
def isNullable : Mark → Bool
  | none => false
  | _ => true

theorem eq_none {m : Mark} (h : m.isNullable = false) : m = none := by
  cases m with
  | none => rfl
  | question gap => cases h
  | option lead gap => cases h

end Mark

/-- A declaration taken apart. -/
structure Spelling where
  before : List Char
  name : List Char
  mark : Mark
  after : List Char

namespace Spelling

/-- The text of a declaration. -/
def chars (p : Spelling) : List Char := p.before ++ p.mark.around p.name ++ p.after

/-- The declaration names the type: its parts are a name and blanks. -/
structure Spells (p : Spelling) (t : FieldType) : Prop where
  before : AllBlank p.before
  name : IsName p.name t.storage
  gaps : AllBlank p.mark.gaps
  after : AllBlank p.after
  nullable : p.mark.isNullable = t.nullable

end Spelling

/-! ### Marks are found -/

/-- A question mark at the end is found. -/
theorem beforeMark?_concat (s : List Char) : beforeMark? (s ++ ['?']) = some s := by
  simp [beforeMark?]

theorem beforeMark?_eq_some {inner : List Char} (h : beforeMark? s = some inner) :
    s = inner ++ ['?'] := by
  unfold beforeMark? at h
  split at h
  · next rest reversed =>
    rw [← Option.some.inj h, ← List.reverse_cons, ← reversed, List.reverse_reverse]
  · cases h

/-- Behind another last character none is. -/
theorem beforeMark?_eq_none {c : Char} (other : c ≠ '?') : beforeMark? (s ++ [c]) = none := by
  unfold beforeMark?
  rw [List.reverse_append]
  split
  · next rest reversed =>
    exact absurd (List.cons.inj reversed).1 other
  · rfl

/-- The wrapped form is found. -/
theorem insideOption?_append (inner : List Char) :
    insideOption? (opening ++ inner ++ ['>']) = some inner := by
  have begins : opening.isPrefixOf (opening ++ inner ++ ['>']) = true := by
    rw [List.append_assoc]
    exact List.isPrefixOf_iff_prefix.mpr (List.prefix_append _ _)
  rw [insideOption?, if_pos begins, List.append_assoc, List.drop_left]
  simp

theorem insideOption?_eq_some {inner : List Char} (h : insideOption? s = some inner) :
    s = opening ++ inner ++ ['>'] := by
  unfold insideOption? at h
  split at h
  next begins =>
    obtain ⟨rest, rfl⟩ := List.isPrefixOf_iff_prefix.mp begins
    rw [List.drop_left] at h
    split at h
    · next more reversed =>
      rw [← Option.some.inj h, List.append_assoc, ← List.reverse_cons, ← reversed,
        List.reverse_reverse]
    · cases h
  next => cases h

/-! ### What marks leave -/

/-- No question mark is found at a name. -/
theorem IsName.beforeMark?_eq_none (h : IsName name storage) : beforeMark? name = none := by
  obtain ⟨rest, c, rfl⟩ := (List.eq_nil_or_concat' name).resolve_left h.ne_nil
  refine FieldType.beforeMark?_eq_none ?_
  rintro rfl
  exact h.question_notMem (List.mem_append_right _ List.mem_cons_self)

/-- No wrapped form is found around a name. -/
theorem IsName.insideOption?_eq_none (h : IsName name storage) : insideOption? name = none := by
  cases found : insideOption? name with
  | none => rfl
  | some inner =>
    have wrapped := insideOption?_eq_some found
    rw [List.append_assoc] at wrapped
    exact absurd wrapped (h.not_opening _)

/-- A marked text is no name. -/
theorem IsName.ne_around (h : IsName name storage) {m : Mark} (marked : m.isNullable = true)
    (inner : List Char) : name ≠ m.around inner := by
  rintro rfl
  cases m with
  | none => cases marked
  | question gap => exact h.question_notMem (List.mem_append_right _ List.mem_cons_self)
  | option lead gap => exact h.not_opening _ (List.append_assoc _ _ _)

/-- Marks add no blank at either end. -/
theorem Mark.solid_around {m : Mark} (solid : Solid name) : Solid (m.around name) := by
  cases m with
  | none => exact solid
  | question gap =>
    obtain ⟨c, rest, rfl⟩ := List.exists_cons_of_ne_nil solid.ne_nil
    refine ⟨by simp [around], solid.head, fun d member => ?_⟩
    rw [around, List.getLast?_concat, Option.mem_some_iff] at member
    subst member
    decide
  | option lead gap =>
    refine ⟨by simp [around], fun d member => ?_, fun d member => ?_⟩
    · have first : d = 'O' := by simpa [around, opening, eq_comm] using member
      subst first
      decide
    · rw [around, List.getLast?_concat, Option.mem_some_iff] at member
      subst member
      decide

/-- Marks around solid texts can be told from each other, and from what they mark. -/
theorem Mark.around_inj {m m' : Mark} {inner inner' : List Char} (marked : m.isNullable = true)
    (marked' : m'.isNullable = true) (gaps : AllBlank m.gaps) (gaps' : AllBlank m'.gaps)
    (solid : Solid inner) (solid' : Solid inner') (same : m.around inner = m'.around inner') :
    m = m' ∧ inner = inner' := by
  have nothing : AllBlank [] := fun c member => absurd member List.not_mem_nil
  -- the last characters tell which marks they are
  have last := congrArg List.getLast? same
  cases m with
  | none => cases marked
  | question gap =>
    cases m' with
    | none => cases marked'
    | option lead' gap' => simp [around] at last
    | question gap' =>
      have before : [] ++ inner ++ gap = [] ++ inner' ++ gap' := List.append_cancel_right same
      obtain ⟨-, rfl, rfl⟩ := solid.append_inj solid' nothing nothing gaps gaps' before
      exact ⟨rfl, rfl⟩
  | option lead gap =>
    cases m' with
    | none => cases marked'
    | question gap' => simp [around] at last
    | option lead' gap' =>
      have inside := List.append_cancel_left (List.append_cancel_right same)
      obtain ⟨hl, hg⟩ := List.forall_mem_append.mp gaps
      obtain ⟨hl', hg'⟩ := List.forall_mem_append.mp gaps'
      obtain ⟨rfl, rfl, rfl⟩ := solid.append_inj solid' hl hl' hg hg' inside
      exact ⟨rfl, rfl⟩

/-- The reader takes a mark away from a name, and the blanks next to it. -/
theorem IsName.unmarked_around (h : IsName name storage) {m : Mark} (gaps : AllBlank m.gaps) :
    unmarked (m.around name) = (name, m.isNullable) := by
  have nothing : AllBlank [] := fun c member => absurd member List.not_mem_nil
  unfold unmarked
  cases m with
  | none => simp only [Mark.around, h.beforeMark?_eq_none, h.insideOption?_eq_none, Mark.isNullable]
  | question gap =>
    have trimmed : trimBlanks (name ++ gap) = name := h.solid.trimBlanks_append nothing gaps
    simp only [Mark.around, beforeMark?_concat, trimmed, Mark.isNullable]
  | option lead gap =>
    obtain ⟨hl, hg⟩ := List.forall_mem_append.mp gaps
    have trimmed : trimBlanks (lead ++ name ++ gap) = name := h.solid.trimBlanks_append hl hg
    have unquestioned : beforeMark? ((Mark.option lead gap).around name) = none :=
      FieldType.beforeMark?_eq_none (by decide)
    simp only [unquestioned]
    simp only [Mark.around, insideOption?_append, trimmed, Mark.isNullable]

/-! ### Reading -/

theorem Spelling.Spells.solid {p : Spelling} (h : p.Spells t) : Solid (p.mark.around p.name) :=
  Mark.solid_around h.name.solid

/-- What is spelled is read. -/
theorem Spelling.Spells.parseChars? {p : Spelling} (h : p.Spells t) :
    FieldType.parseChars? p.chars = some t := by
  have trimmed : trimBlanks p.chars = p.mark.around p.name :=
    h.solid.trimBlanks_append h.before h.after
  rw [FieldType.parseChars?, trimmed, h.name.unmarked_around h.gaps]
  simp only [storageOf?_eq_some_iff.mpr h.name, Option.map_some, h.nullable]

/-- What is read is spelled. -/
theorem exists_spelling_of_parseChars? (h : parseChars? s = some t) :
    ∃ p : Spelling, p.Spells t ∧ p.chars = s := by
  obtain ⟨before, after, hb, ha, whole⟩ := Text.exists_eq_append_trimBlanks s
  have nothing : AllBlank [] := fun c member => absurd member List.not_mem_nil
  rw [parseChars?] at h
  generalize trimBlanks s = core at h whole
  obtain ⟨storage, named, rfl⟩ := Option.map_eq_some_iff.mp h
  rw [storageOf?_eq_some_iff] at named
  cases question : beforeMark? core with
  | some inner =>
    simp only [question] at named ⊢
    -- a question mark; blanks in front of the name are blanks in front of it all
    obtain ⟨lead, gap, hl, hg, inside⟩ := Text.exists_eq_append_trimBlanks inner
    have blanks : AllBlank (before ++ lead) := List.forall_mem_append.mpr ⟨hb, hl⟩
    refine ⟨⟨before ++ lead, trimBlanks inner, .question gap, after⟩,
      ⟨blanks, named, hg, ha, rfl⟩, ?_⟩
    calc before ++ lead ++ (trimBlanks inner ++ gap ++ ['?']) ++ after
        = before ++ (lead ++ trimBlanks inner ++ gap ++ ['?']) ++ after := by
          simp only [List.append_assoc]
      _ = before ++ core ++ after := by rw [← inside, beforeMark?_eq_some question]
      _ = s := whole.symm
  | none =>
    cases wrapped : insideOption? core with
    | some inner =>
      simp only [question, wrapped] at named ⊢
      obtain ⟨lead, gap, hl, hg, inside⟩ := Text.exists_eq_append_trimBlanks inner
      have blanks : AllBlank (lead ++ gap) := List.forall_mem_append.mpr ⟨hl, hg⟩
      refine ⟨⟨before, trimBlanks inner, .option lead gap, after⟩,
        ⟨hb, named, blanks, ha, rfl⟩, ?_⟩
      calc before ++ (opening ++ (lead ++ trimBlanks inner ++ gap) ++ ['>']) ++ after
          = before ++ core ++ after := by rw [← inside, insideOption?_eq_some wrapped]
        _ = s := whole.symm
    | none =>
      simp only [question, wrapped] at named ⊢
      exact ⟨⟨before, core, .none, after⟩, ⟨hb, named, nothing, ha, rfl⟩, whole.symm⟩

/-- A text is spelled in one way. -/
theorem Spelling.Spells.unique {p q : Spelling} {u : FieldType} (h : p.Spells t) (h' : q.Spells u)
    (same : p.chars = q.chars) : p = q := by
  -- First the blanks around everything are told from what they surround.
  obtain ⟨before, name, mark, after⟩ := p
  obtain ⟨before', name', mark', after'⟩ := q
  obtain ⟨rfl, cores, rfl⟩ :=
    h.solid.append_inj h'.solid h.before h'.before h.after h'.after same
  -- a mark is on both names or on none
  cases marked : mark.isNullable with
  | false =>
    obtain rfl := Mark.eq_none marked
    cases marked' : mark'.isNullable with
    | false =>
      obtain rfl := Mark.eq_none marked'
      rw [show name = name' from cores]
    | true => exact absurd cores (h.name.ne_around marked' _)
  | true =>
    cases marked' : mark'.isNullable with
    | false =>
      obtain rfl := Mark.eq_none marked'
      exact absurd cores.symm (h'.name.ne_around marked _)
    | true =>
      obtain ⟨rfl, rfl⟩ :=
        Mark.around_inj marked marked' h.gaps h'.gaps h.name.solid h'.name.solid cores
      rfl

/-! ### Declared types -/

/-- Blanks next to what is marked belong to the mark, or stand in front of everything. -/
theorem exists_around_append {m : Mark} {lead tail : List Char} (marked : m.isNullable = true)
    (gaps : AllBlank m.gaps) (hl : AllBlank lead) (ht : AllBlank tail) (inner : List Char) :
    ∃ (before : List Char) (m' : Mark), AllBlank before ∧ m'.isNullable = true ∧ AllBlank m'.gaps ∧
      m.around (lead ++ inner ++ tail) = before ++ m'.around inner := by
  cases m with
  | none => cases marked
  | question gap =>
    refine ⟨lead, .question (tail ++ gap), hl, rfl, ?_, by simp [Mark.around]⟩
    exact List.forall_mem_append.mpr ⟨ht, gaps⟩
  | option lead' gap =>
    obtain ⟨first, second⟩ := List.forall_mem_append.mp gaps
    refine ⟨[], .option (lead' ++ lead) (tail ++ gap), ?_, rfl, ?_, by simp [Mark.around]⟩
    · exact fun c member => absurd member List.not_mem_nil
    · exact List.forall_mem_append.mpr
        ⟨List.forall_mem_append.mpr ⟨first, hl⟩, List.forall_mem_append.mpr ⟨ht, second⟩⟩

/-- A type that is nullable is not marked once more. -/
theorem Spelling.Spells.parseChars?_around {p : Spelling} (h : p.Spells t)
    (nullable : t.nullable = true) {m : Mark} (marked : m.isNullable = true)
    (gaps : AllBlank m.gaps) {before after : List Char} (hb : AllBlank before)
    (ha : AllBlank after) : FieldType.parseChars? (before ++ m.around p.chars ++ after) = none := by
  rw [Option.eq_none_iff_forall_ne_some]
  intro u read
  obtain ⟨q, spells, whole⟩ := exists_spelling_of_parseChars? read
  obtain ⟨lead, m', hl, marked', gaps', shifted⟩ :=
    exists_around_append marked gaps h.before h.after (p.mark.around p.name)
  -- both readings have one core, and its name would be a marked text
  have outer : q.before ++ q.mark.around q.name ++ q.after =
      before ++ lead ++ m'.around (p.mark.around p.name) ++ after := by
    calc q.before ++ q.mark.around q.name ++ q.after
        = before ++ m.around p.chars ++ after := whole
      _ = before ++ lead ++ m'.around (p.mark.around p.name) ++ after := by
        rw [chars, shifted, List.append_assoc before lead]
  have blanks : AllBlank (before ++ lead) := List.forall_mem_append.mpr ⟨hb, hl⟩
  obtain ⟨-, cores, -⟩ :=
    spells.solid.append_inj (Mark.solid_around h.solid) spells.before blanks spells.after ha outer
  cases single : q.mark.isNullable with
  | false =>
    rw [Mark.eq_none single] at cores
    exact spells.name.ne_around marked' _ cores
  | true =>
    obtain ⟨-, name⟩ :=
      Mark.around_inj single marked' spells.gaps gaps' spells.name.solid h.solid cores
    exact spells.name.ne_around (h.nullable.trans nullable) _ name

/-- **Which texts declare a type.**  A text declares a type iff it is a spelling of it: a name of
its storage type in any letter case, marked by a question mark or by `Option<…>` iff it is nullable,
with blanks around the name and around it all.  The spelling is the only one of the text.  A text
that declares a nullable type, marked once more in either way, declares none. -/
theorem declared_iff (declared : String) :
    (∀ t, parse? declared = some t ↔
      ∃ p : Spelling, p.Spells t ∧ p.chars = declared.toList) ∧
    (∀ (p q : Spelling) (t u : FieldType), p.Spells t → q.Spells u →
      p.chars = declared.toList → q.chars = declared.toList → p = q) ∧
    ∀ t, parse? declared = some t → t.nullable = true →
      ∀ (m : Mark) (before after : List Char), m.isNullable = true → AllBlank m.gaps →
        AllBlank before → AllBlank after →
          parse? (String.ofList (before ++ m.around declared.toList ++ after)) = none := by
  refine ⟨fun t => ⟨exists_spelling_of_parseChars?, ?_⟩, ?_, ?_⟩
  · rintro ⟨p, spells, whole⟩
    rw [parse?, ← whole]
    exact spells.parseChars?
  · intro p q t u spells spells' whole whole'
    exact spells.unique spells' (whole.trans whole'.symm)
  · intro t read nullable m before after marked gaps hb ha
    obtain ⟨p, spells, whole⟩ := exists_spelling_of_parseChars? read
    rw [parse?, String.toList_ofList, ← whole]
    exact spells.parseChars?_around nullable marked gaps hb ha

/-- Bytes are declared with blanks and capitals in a wrapped form, spelled in this way only.  With a
question mark behind it the text declares nothing. -/
theorem declared_iff_bytes :
    ∃ p : Spelling, p.Spells ⟨.bytes, true⟩ ∧ p.chars = " Option< VEC<U8>> ".toList ∧
      (∀ q : Spelling, q.Spells ⟨.bytes, true⟩ → q.chars = " Option< VEC<U8>> ".toList → p = q) ∧
      parse? " Option< VEC<U8>>  ? " = none := by
  obtain ⟨spelled, unique, once⟩ := declared_iff " Option< VEC<U8>> "
  have read : parse? " Option< VEC<U8>> " = some ⟨.bytes, true⟩ := by decide
  have blank : AllBlank [' '] := by simp [AllBlank, isBlank]
  have nothing : AllBlank [] := fun c member => absurd member List.not_mem_nil
  obtain ⟨p, spells, whole⟩ := (spelled _).mp read
  refine ⟨p, spells, whole, fun q spells' whole' => unique p q _ _ spells spells' whole whole', ?_⟩
  exact once _ read rfl (.question [' ']) [] [' '] rfl blank nothing blank

end FieldType

end Recordwright
