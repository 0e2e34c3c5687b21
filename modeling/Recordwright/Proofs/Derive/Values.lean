import Recordwright.Proofs.Derive.Entries
import Recordwright.Proofs.Derive.Failures

/-!
# What entries give

An entry of a field is a word and nothing else.  An entry of a struct is a word with a value behind
an equals sign, and it gives a setting (`Written.Gives`).  Whatever stands behind the word of an
entry, it is read up to the comma that follows (`steady_fieldMark`, `steady_setting`), so that
entries may be looked at one by one.
-/

namespace Recordwright

open Source Source.Parser

namespace Entry

variable {α β : Type} {e : Written} {es : List Written} {ts : List Token} {v w : String}

/-! ### Where readers end -/

/-- The reader looks at no token. -/
def Silent (r : Reader α) : Prop :=
  ∃ x : Except DeriveError α, ∀ ts, r.run ts = x.map fun a => (a, ts)

theorem silent_pure (a : α) : Silent (pure a : Reader α) := ⟨.ok a, fun _ => rfl⟩

theorem silent_throw (f : DeriveError) : Silent (throw f : Reader α) := ⟨.error f, fun _ => rfl⟩

theorem Silent.ite {c : Prop} [Decidable c] {r s : Reader α} (hr : Silent r) (hs : Silent s) :
    Silent (if c then r else s) := by
  split
  · exact hr
  · exact hs

/-- What is written behind a word begins with no comma. -/
theorem IsBehind.not_comma (h : IsBehind ts) : startsWith [','] ts = false := by
  cases h with
  | nothing => rfl
  | group d content => rfl
  | value joined present whole => cases joined <;> rfl

/-- A reader that looks at no token leaves the tokens, and a comma behind them as well. -/
theorem Silent.settles {r : Reader α} (h : Silent r) (behind : IsBehind ts) : Settles r ts := by
  obtain ⟨x, run⟩ := h
  constructor
  · intro joined more
    rw [run, run]
    cases x with
    | error f => rfl
    | ok a => rfl
  · intro a rest done
    rw [run] at done
    cases x with
    | error f => cases done
    | ok a' =>
      obtain ⟨-, rfl⟩ := Prod.mk.inj (Except.ok.inj done)
      exact behind.not_comma

/-- A reader goes on to end before the comma when what is done with its result looks at no token. -/
theorem Settles.bind {r : Reader α} {k : α → Reader β} (h : Settles r ts)
    (silent : ∀ a, Silent (k a)) : Settles (r >>= k) ts := by
  -- The second part runs on what the first one left, and takes nothing of that.
  constructor
  · intro joined more
    rw [StateT.run_bind, StateT.run_bind, h.run_append]
    cases r.run ts with
    | error f => rfl
    | ok found =>
      obtain ⟨x, run⟩ := silent found.1
      show (k found.1).run _ = ((k found.1).run found.2).map _
      rw [run, run]
      cases x with
      | error f => rfl
      | ok b => rfl
  · intro b rest done
    rw [StateT.run_bind] at done
    cases first : r.run ts with
    | error f =>
      rw [first] at done
      cases done
    | ok found =>
      obtain ⟨x, run⟩ := silent found.1
      rw [first] at done
      change (k found.1).run found.2 = _ at done
      rw [run] at done
      cases x with
      | error f => cases done
      | ok b' =>
        obtain ⟨-, rfl⟩ := Prod.mk.inj (Except.ok.inj done)
        exact h.ends found.1 _ first

/-! ### Values -/

/-- What a minus sign and a literal are read as. -/
theorem run_literal_negative (joined : Bool) (spelling : String) (rest : List Token) :
    (Parser.literal.run (.punct '-' joined :: .literal spelling :: rest)).run none =
      match Literal.ofNegative? spelling with
      | some l => .ok ((([Token.mark '-', .literal spelling], l), rest), none)
      | none => .error (.expected "expected literal" false) := by
  have run : Parser.literal.run (.punct '-' joined :: .literal spelling :: rest) =
      (match Literal.ofNegative? spelling with
        | some l => do set rest; return ([Token.mark '-', .literal spelling], l)
        | none => fail "expected literal" : Parser (List Token × Literal)).run
          (.punct '-' joined :: .literal spelling :: rest) := rfl
  rw [run]
  cases Literal.ofNegative? spelling with
  | none => rfl
  | some l => rfl

/-- A literal ends before a comma, and so does what is no literal. -/
theorem run_literal_comma {given : List Token} (present : given ≠ []) (joined : Bool)
    (more : List Token) :
    (Parser.literal.run (given ++ .punct ',' joined :: more)).run none =
      ((Parser.literal.run given).run none).map fun found =>
        ((found.1.1, found.1.2 ++ .punct ',' joined :: more), found.2) := by
  -- The reader takes one token, or two where the first is a minus sign; it never sees the comma.
  obtain ⟨t, given, rfl⟩ := List.exists_cons_of_ne_nil present
  cases t with
  | literal spelling => rfl
  | group d content => rfl
  | ident raw name =>
    cases raw with
    | true => rfl
    | false =>
      by_cases yes : name = "true"
      · subst yes
        rfl
      by_cases no : name = "false"
      · subst no
        rfl
      rw [List.cons_append, run_literal_ident yes no, run_literal_ident yes no]
      rfl
  | punct c joined' =>
    by_cases minus : c = '-'
    · subst minus
      cases given with
      | nil => rfl
      | cons t given =>
        cases t with
        | literal spelling =>
          rw [List.cons_append, List.cons_append, run_literal_negative, run_literal_negative]
          cases Literal.ofNegative? spelling with
          | none => rfl
          | some l => rfl
        | _ => rfl
    · rw [List.cons_append, run_literal_punct minus, run_literal_punct minus]
      rfl

/-- The literal that a value is, or why it is none. -/
def valueOf (given : List Token) : Except DeriveError (Literal × List Token) :=
  match (Parser.literal.run given).run none with
  | .ok (found, _) => .ok (found.1.2, found.2)
  | .error f => .error (.malformed f)

/-- A literal is read behind an equals sign. -/
theorem run_value (joined : Bool) (given : List Token) :
    literal.run (.punct '=' joined :: given) = valueOf given := by
  have run : literal.run (.punct '=' joined :: given) =
      (taking Parser.literal given).bind fun found => .ok (found.1.2, found.2) := rfl
  rw [run, taking, valueOf]
  cases (Parser.literal.run given).run none with
  | error f => rfl
  | ok found => rfl

/-- Nothing is read where no equals sign stands. -/
theorem run_literal_error (h : startsWith ['='] ts = false) :
    literal.run ts = .error (.malformed (.expected "expected `=`" false)) := by
  show ((taking (mark "=")).run ts).bind _ = _
  rw [taking_mark_error (s := "=") h]
  rfl

/-- Where a value is a literal and more, the reader stops inside of it, at something that is no
comma. -/
theorem settles_literal (behind : IsBehind ts) : Settles literal ts := by
  cases behind with
  | nothing => exact ⟨fun joined more => rfl, fun a rest done => by cases done⟩
  | group d content => exact ⟨fun joined more => rfl, fun a rest done => by cases done⟩
  | @value given joined present whole =>
    constructor
    · intro joined' more
      rw [List.cons_append, run_value, run_value, valueOf, valueOf,
        run_literal_comma present joined' more]
      cases (Parser.literal.run given).run none with
      | error f => rfl
      | ok found => rfl
    · intro l rest done
      rw [run_value, valueOf] at done
      cases run : (Parser.literal.run given).run none with
      | error f =>
        rw [run] at done
        cases done
      | ok found =>
        rw [run] at done
        obtain ⟨-, rfl⟩ := Prod.mk.inj (Except.ok.inj done)
        refine whole found.1.1 _ ?_
        rw [tried?, run]

/-- **The entries of a field may be looked at one by one.** -/
theorem steady_fieldMark : Steady fieldMark := fun _ _ behind =>
  ((silent_pure _).ite ((silent_pure _).ite (silent_throw _))).settles behind

theorem settles_text (behind : IsBehind ts) : Settles text ts := by
  refine (settles_literal behind).bind fun l => ?_
  cases l with
  | text s => exact silent_pure s
  | integer negative n => exact silent_throw _
  | other => exact silent_throw _

theorem settles_size (behind : IsBehind ts) : Settles size ts := by
  refine (settles_literal behind).bind fun l => ?_
  cases l with
  | text s => exact silent_throw _
  | integer negative n => exact (silent_throw _).ite ((silent_pure n).ite (silent_throw _))
  | other => exact silent_throw _

theorem Settles.ite {c : Prop} [Decidable c] {r s : Reader α} (hr : Settles r ts)
    (hs : Settles s ts) : Settles (if c then r else s) ts := by
  split
  · exact hr
  · exact hs

/-- **The entries of a struct may be looked at one by one.** -/
theorem steady_setting : Steady setting := by
  intro key ts behind
  have text (f : String → Setting) : Settles (do return f (← text)) ts :=
    (settles_text behind).bind fun s => silent_pure (f s)
  refine (text .builderName).ite ((text .builderSuffix).ite ((text .setterLead).ite ?_))
  refine Settles.ite ((settles_size behind).bind fun n => silent_pure _) (Settles.ite ?_ ?_)
  · refine (settles_text behind).bind fun s => ?_
    refine ⟨(libraryPath s).map .library, fun ts => ?_⟩
    show ((liftM (libraryPath s) : Reader Path).run ts).bind _ = _
    cases libraryPath s with
    | error f => rfl
    | ok p => rfl
  · exact (silent_throw _).settles behind

/-! ### Words -/

/-- A path is a word if it is an identifier spelled without `r#`. -/
theorem isWord_iff {p : Path} :
    p.isWord w = true ↔ ∃ h : Text.current.isIdentifier w = true, p = .ofIdent ⟨false, w, h⟩ := by
  constructor
  · intro word
    unfold Path.isWord at word
    split at word
    next i =>
      obtain ⟨raw, name, isIdentifier⟩ := i
      obtain ⟨plain, named⟩ := (Bool.and_eq_true _ _).mp word
      cases raw with
      | true => cases plain
      | false =>
        obtain rfl : name = w := eq_of_beq named
        exact ⟨isIdentifier, rfl⟩
    next => cases word
  · rintro ⟨h, rfl⟩
    exact beq_self_eq_true w

/-- A path is one word at most. -/
theorem isWord_unique {p : Path} (hv : p.isWord v = true) (hw : p.isWord w = true) : v = w := by
  obtain ⟨isIdentifier, rfl⟩ := isWord_iff.mp hv
  exact eq_of_beq hw

namespace Written

/-- The entry is this word and nothing else. -/
def Is (e : Written) (w : String) : Prop := e.path.isWord w = true ∧ e.behind = []

/-- The literal that is alone behind the equals sign. -/
def literal? (e : Written) : Option Literal :=
  match e.behind with
  | [.punct '=' _, .literal spelling] => some (.ofSpelling spelling)
  | _ => none

/-- The text behind the equals sign. -/
def text? (e : Written) : Option String :=
  match e.literal? with
  | some (.text s) => some s
  | _ => none

/-- The integer behind the equals sign, if it fits 64 bits. -/
def size? (e : Written) : Option Nat :=
  match e.literal? with
  | some (.integer false n) => if n < sizeLimit then some n else none
  | _ => none

/-- The path that the text behind the equals sign is. -/
def library? (e : Written) : Option Path := e.text?.bind fun s => (libraryPath s).toOption

/-- What an entry of a struct sets. -/
inductive Gives (e : Written) : Setting → Prop where
  | builderName {s : String} (key : e.path.isWord "builder" = true) (value : e.text? = some s) :
      Gives e (.builderName s)
  | builderSuffix {s : String} (key : e.path.isWord "builder_suffix" = true)
      (value : e.text? = some s) : Gives e (.builderSuffix s)
  | setterLead {s : String} (key : e.path.isWord "setter_prefix" = true)
      (value : e.text? = some s) : Gives e (.setterLead s)
  | maxFields {n : Nat} (key : e.path.isWord "max_fields" = true) (value : e.size? = some n) :
      Gives e (.maxFields n)
  | library {p : Path} (key : e.path.isWord "crate" = true) (value : e.library? = some p) :
      Gives e (.library p)

theorem literal?_eq_some {l : Literal} : e.literal? = some l ↔
    ∃ joined spelling, e.behind = [.punct '=' joined, .literal spelling] ∧
      l = .ofSpelling spelling := by
  unfold literal?
  split
  next joined spelling behind =>
    rw [behind]
    constructor
    · intro h
      exact ⟨joined, spelling, rfl, (Option.some.inj h).symm⟩
    · rintro ⟨joined', spelling', same, rfl⟩
      cases same
      rfl
  next others =>
    constructor
    · intro h
      cases h
    · rintro ⟨joined, spelling, same, -⟩
      exact absurd same (others joined spelling)

theorem text?_eq_some {s : String} : e.text? = some s ↔ e.literal? = some (.text s) := by
  unfold text?
  split
  next s' value => rw [value]; simp
  next others =>
    constructor
    · intro h
      cases h
    · intro h
      exact absurd h (others s)

theorem size?_eq_some {n : Nat} :
    e.size? = some n ↔ e.literal? = some (.integer false n) ∧ n < sizeLimit := by
  unfold size?
  split
  next m value =>
    rw [value]
    split
    next fits =>
      constructor
      · intro h
        cases h
        exact ⟨rfl, fits⟩
      · rintro ⟨h, -⟩
        cases h
        rfl
    next large =>
      constructor
      · intro h
        cases h
      · rintro ⟨h, fits⟩
        cases h
        exact absurd fits large
  next others =>
    constructor
    · intro h
      cases h
    · rintro ⟨h, -⟩
      exact absurd h (others n)

end Written

/-! ### What single entries give -/

/-- An entry means what is read behind its word, all of it. -/
theorem meaning_eq_ok {entry : Path → Reader α} {a : α} :
    e.meaning entry = .ok a ↔ (entry e.path).run e.behind = .ok (a, []) := by
  unfold Written.meaning
  cases run : (entry e.path).run e.behind with
  | error f => simp
  | ok found =>
    obtain ⟨b, rest⟩ := found
    cases rest with
    | nil => simp
    | cons t rest => simp

/-- What follows a minus sign is no text. -/
theorem ofNegative?_eq_some {spelling : String} {l : Literal}
    (h : Literal.ofNegative? spelling = some l) : l = .other ∨ ∃ n, l = .integer true n := by
  cases whole : Literal.integer? true spelling.toList with
  | some l' =>
    obtain ⟨digits, -, rfl⟩ := Option.map_eq_some_iff.mp whole
    simp only [Literal.ofNegative?, whole, Option.some.injEq] at h
    exact .inr ⟨digits.1, h.symm⟩
  | none =>
    simp only [Literal.ofNegative?, whole, Option.ite_none_right_eq_some, Option.some.injEq] at h
    exact .inl h.2.symm

/-- A literal alone is read; what else is read to the end is no text and no size. -/
theorem valueOf_eq_ok {given : List Token} {l : Literal} (h : valueOf given = .ok (l, [])) :
    (∃ spelling, given = [.literal spelling] ∧ l = .ofSpelling spelling) ∨
      l = .other ∨ ∃ n, l = .integer true n := by
  -- The first token decides: with a literal, a truth value or a minus sign something is read.
  cases given with
  | nil => cases h
  | cons t given =>
    cases t with
    | literal spelling =>
      cases h
      exact .inl ⟨spelling, rfl, rfl⟩
    | group d content => cases h
    | ident raw name =>
      cases raw with
      | true => cases h
      | false =>
        by_cases yes : name = "true"
        · subst yes
          cases h
          exact .inr (.inl rfl)
        by_cases no : name = "false"
        · subst no
          cases h
          exact .inr (.inl rfl)
        rw [valueOf, run_literal_ident yes no] at h
        cases h
    | punct c joined =>
      by_cases minus : c = '-'
      · subst minus
        cases given with
        | nil => cases h
        | cons t given =>
          cases t with
          | literal spelling =>
            rw [valueOf, run_literal_negative] at h
            cases value : Literal.ofNegative? spelling with
            | none =>
              rw [value] at h
              cases h
            | some l' =>
              rw [value] at h
              cases h
              exact .inr (ofNegative?_eq_some value)
          | _ => cases h
      · rw [valueOf, run_literal_punct minus] at h
        cases h

/-- The values that are read, but for those that no entry has a use for: truth values and what is
behind a minus sign. -/
theorem run_literal_eq_ok {l : Literal} (h : literal.run e.behind = .ok (l, [])) :
    e.literal? = some l ∨ l = .other ∨ ∃ n, l = .integer true n := by
  rw [Written.literal?_eq_some]
  generalize e.behind = behind at h
  cases equals : startsWith ['='] behind with
  | false =>
    have failed := run_literal_error equals
    rw [h] at failed
    cases failed
  | true =>
    cases behind with
    | nil => cases equals
    | cons t given =>
      cases t with
      | punct c joined =>
        obtain rfl : c = '=' := by cases joined <;> exact (eq_of_beq equals).symm
        have read := run_value joined given
        rw [h] at read
        obtain ⟨spelling, rfl, value⟩ | others := valueOf_eq_ok read.symm
        · exact .inl ⟨joined, spelling, rfl, value⟩
        · exact .inr others
      | _ => cases equals

theorem run_literal_of_eq_some {l : Literal} (h : e.literal? = some l) :
    literal.run e.behind = .ok (l, []) := by
  obtain ⟨joined, spelling, behind, rfl⟩ := Written.literal?_eq_some.mp h
  rw [behind, run_value]
  rfl

/-- A successful run is one of both parts. -/
theorem run_bind_eq_ok {r : Reader α} {k : α → Reader β} {b : β} {rest : List Token} :
    (r >>= k).run ts = .ok (b, rest) ↔
      ∃ a mid, r.run ts = .ok (a, mid) ∧ (k a).run mid = .ok (b, rest) := by
  rw [StateT.run_bind]
  constructor
  · intro h
    cases first : r.run ts with
    | error f =>
      rw [first] at h
      cases h
    | ok found =>
      rw [first] at h
      exact ⟨found.1, found.2, rfl, h⟩
  · rintro ⟨a, mid, first, h⟩
    rw [first]
    exact h

theorem run_text_eq_ok {s : String} : text.run e.behind = .ok (s, []) ↔ e.text? = some s := by
  rw [text, run_bind_eq_ok, Written.text?_eq_some]
  constructor
  · rintro ⟨l, rest, read, h⟩
    cases l with
    | text s' =>
      cases h
      obtain given | others | ⟨n, others⟩ := run_literal_eq_ok read
      · exact given
      · cases others
      · cases others
    | integer negative n => cases h
    | other => cases h
  · intro h
    exact ⟨.text s, [], run_literal_of_eq_some h, rfl⟩

theorem run_size_eq_ok {n : Nat} : size.run e.behind = .ok (n, []) ↔ e.size? = some n := by
  rw [size, run_bind_eq_ok, Written.size?_eq_some]
  constructor
  · -- of the literals only integers without a sign are let through
    rintro ⟨l, rest, read, h⟩
    cases l with
    | integer negative m =>
      cases negative with
      | true => cases h
      | false =>
        simp only [Bool.false_eq_true, if_false] at h
        split at h
        next fits =>
          cases h
          obtain given | others | ⟨n, others⟩ := run_literal_eq_ok read
          · exact ⟨given, fits⟩
          · cases others
          · cases others
        next => cases h
    | text s => cases h
    | other => cases h
  · rintro ⟨h, fits⟩
    refine ⟨.integer false n, [], run_literal_of_eq_some h, ?_⟩
    simp only [Bool.false_eq_true, if_false, if_pos fits]
    rfl

theorem run_library_eq_ok {p : Path} :
    (do let s ← text; libraryPath s : Reader Path).run e.behind = .ok (p, []) ↔
      e.library? = some p := by
  rw [run_bind_eq_ok, Written.library?, Option.bind_eq_some_iff]
  constructor
  · rintro ⟨s, rest, read, h⟩
    cases found : libraryPath s with
    | error f =>
      rw [found] at h
      cases h
    | ok p' =>
      rw [found] at h
      cases h
      exact ⟨s, run_text_eq_ok.mp read, by rw [found]; rfl⟩
  · rintro ⟨s, given, h⟩
    refine ⟨s, [], run_text_eq_ok.mpr given, ?_⟩
    rw [eq_ok_of_toOption h]
    rfl

/-- What is made of the value that a reader gives. -/
theorem run_return_eq_ok {r : Reader α} {give : α → β} {b : β} :
    (do let a ← r; return give a : Reader β).run ts = .ok (b, []) ↔
      ∃ a, r.run ts = .ok (a, []) ∧ b = give a := by
  rw [run_bind_eq_ok]
  constructor
  · rintro ⟨a, rest, read, done⟩
    cases done
    exact ⟨a, read, rfl⟩
  · rintro ⟨a, read, rfl⟩
    exact ⟨a, [], read, rfl⟩

/-- An entry alone is read iff it gives a setting. -/
theorem meaning_setting_eq_ok {s : Setting} : e.meaning setting = .ok s ↔ e.Gives s := by
  rw [meaning_eq_ok]
  constructor
  · -- one branch for each word, and in each the value behind it
    intro h
    unfold setting at h
    split_ifs at h with builder suffix lead most crate
    · obtain ⟨s, read, rfl⟩ := run_return_eq_ok.mp h
      exact .builderName builder (run_text_eq_ok.mp read)
    · obtain ⟨s, read, rfl⟩ := run_return_eq_ok.mp h
      exact .builderSuffix suffix (run_text_eq_ok.mp read)
    · obtain ⟨s, read, rfl⟩ := run_return_eq_ok.mp h
      exact .setterLead lead (run_text_eq_ok.mp read)
    · obtain ⟨n, read, rfl⟩ := run_return_eq_ok.mp h
      exact .maxFields most (run_size_eq_ok.mp read)
    · -- the text and the path it is read as are one value
      rw [← bind_assoc] at h
      obtain ⟨p, read, rfl⟩ := run_return_eq_ok.mp h
      exact .library crate (run_library_eq_ok.mp read)
    · cases h
  · -- each word is none of those asked for before it
    intro h
    cases h with
    | builderName key value =>
      obtain ⟨_, word⟩ := isWord_iff.mp key
      rw [word]
      exact run_return_eq_ok.mpr ⟨_, run_text_eq_ok.mpr value, rfl⟩
    | builderSuffix key value =>
      obtain ⟨_, word⟩ := isWord_iff.mp key
      rw [word]
      exact run_return_eq_ok.mpr ⟨_, run_text_eq_ok.mpr value, rfl⟩
    | setterLead key value =>
      obtain ⟨_, word⟩ := isWord_iff.mp key
      rw [word]
      exact run_return_eq_ok.mpr ⟨_, run_text_eq_ok.mpr value, rfl⟩
    | maxFields key value =>
      obtain ⟨_, word⟩ := isWord_iff.mp key
      rw [word]
      exact run_return_eq_ok.mpr ⟨_, run_size_eq_ok.mpr value, rfl⟩
    | library key value =>
      obtain ⟨_, word⟩ := isWord_iff.mp key
      rw [word]
      show (do let s ← text; let p ← libraryPath s; return .library p : Reader Setting).run _ = _
      rw [← bind_assoc]
      exact run_return_eq_ok.mpr ⟨_, run_library_eq_ok.mpr value, rfl⟩

/-- An entry alone is read iff it marks a field. -/
theorem meaning_fieldMark_eq_ok {m : FieldMark} : e.meaning fieldMark = .ok m ↔
    (e.Is "required" ∧ m = .required) ∨ (e.Is "skip" ∧ m = .skip) := by
  rw [meaning_eq_ok]
  constructor
  · intro h
    unfold fieldMark at h
    split_ifs at h with required skip
    · obtain ⟨rfl, behind⟩ := Prod.mk.inj (Except.ok.inj h)
      exact .inl ⟨⟨required, behind⟩, rfl⟩
    · obtain ⟨rfl, behind⟩ := Prod.mk.inj (Except.ok.inj h)
      exact .inr ⟨⟨skip, behind⟩, rfl⟩
    · cases h
  · rintro (⟨⟨key, behind⟩, rfl⟩ | ⟨⟨key, behind⟩, rfl⟩)
    all_goals
      obtain ⟨_, word⟩ := isWord_iff.mp key
      rw [word, behind]
      rfl

section Lists

variable {entry : Path → Reader α} {as : List α}

/-- All entries are read iff each of them is, alone. -/
theorem exists_mapM_meaning :
    (∃ as, es.mapM (Written.meaning entry) = .ok as) ↔
      ∀ e ∈ es, ∃ a, e.meaning entry = .ok a := by
  simp only [mapM_eq_ok]
  induction es with
  | nil => exact ⟨fun _ e member => (List.not_mem_nil member).elim, fun _ => ⟨[], .nil⟩⟩
  | cons e es ih =>
    rw [List.forall_mem_cons, ← ih]
    constructor
    · rintro ⟨_, _ | ⟨first, rest⟩⟩
      exact ⟨⟨_, first⟩, _, rest⟩
    · rintro ⟨⟨a, first⟩, as, rest⟩
      exact ⟨a :: as, .cons first rest⟩

/-- What all entries give is what single ones give. -/
theorem mem_iff_of_mapM_meaning (h : es.mapM (Written.meaning entry) = .ok as) {a : α} :
    a ∈ as ↔ ∃ e ∈ es, e.meaning entry = .ok a := by
  rw [mapM_eq_ok] at h
  induction h with
  | nil => simp
  | @cons e b es as first rest ih =>
    rw [List.mem_cons, List.exists_mem_cons_iff, ih, first, Except.ok.injEq, eq_comm]

end Lists

end Entry

end Recordwright
