import Recordwright.Proofs.Derive.Names
import Recordwright.Proofs.Source.Spelled

/-!
# Why no builder is derived

A struct whose declaration can be read may still have no builder, for one of four reasons: a name of
a field occurs twice, there are too many fields, the name of a method is no name for one, or the
name of the builder is none (`Definition.Fails`).  How the struct and its fields are spelled is
never the reason.  These names were read as identifiers; but those of fields are judged once more,
by the settled characters, so the latter holds of names on whose characters both alphabets agree
(`Text.KnownAlike`).

Generated code also has names that are nowhere in the source: those of the methods, and those of the
values that a build works on.  Each is made an identifier while the code is generated, and if one is
none there is no outcome, not even an error (`Definition.generate?`).  This never happens: names of
methods have passed the check for names of fields, and the other names are numbers behind a fixed
beginning.

`Definition.derivation_failures` has both parts, and what is said of identifiers in a source.
-/

namespace Recordwright

open Source

/-! ### Names read from a source -/

namespace Text

/-- Both alphabets say the same of each character of a text. -/
def KnownAlike (s : String) : Prop :=
  ∀ c ∈ s.toList, settled.isStart c = current.isStart c ∧
    settled.isContinue c = current.isContinue c

instance (s : String) : Decidable (KnownAlike s) :=
  decidable_of_iff (s.toList.all (fun c => settled.isStart c = current.isStart c ∧
    settled.isContinue c = current.isContinue c) = true) (by simp [KnownAlike])

theorem KnownAlike.isIdentifier_eq {s : String} (h : KnownAlike s) :
    settled.isIdentifier s = current.isIdentifier s := by
  unfold KnownAlike at h
  unfold Alphabet.isIdentifier
  cases chars : s.toList with
  | nil => rfl
  | cons c rest =>
    rw [chars, List.forall_mem_cons] at h
    have continued : rest.all settled.isContinue = rest.all current.isContinue := by
      rw [Bool.eq_iff_iff, List.all_eq_true, List.all_eq_true]
      exact forall₂_congr fun d hd => by rw [(h.2 d hd).2]
    rw [Alphabet.isIdentifierChars_cons, Alphabet.isIdentifierChars_cons, h.1.1, continued]

/-- A text with a character that is not blank is not blank. -/
theorem not_isBlankText {s : String} {c : Char} (member : c ∈ s.toList) (h : isBlank c = false) :
    isBlankText s = false := by
  rw [isBlankText, List.all_eq_false]
  exact ⟨c, member, by simp [h]⟩

theorem isContinue_of_isDigit {c : Char} (h : c.isDigit = true) : current.isContinue c = true := by
  have digit : isAsciiDigit c = true := h
  have small : c.val < 128 := by
    simp only [Char.isDigit, Bool.and_eq_true, decide_eq_true_eq] at h
    exact UInt32.lt_of_le_of_lt h.2 (by decide)
  rw [Alphabet.isContinue, if_pos small, digit, Bool.or_true, Bool.true_or]

/-- An identifier with a number behind it is one. -/
theorem isIdentifier_append_toString {s : String} (h : current.isIdentifier s = true) (n : Nat) :
    current.isIdentifier (s ++ toString n) = true := by
  have digits : ∀ c ∈ (toString n).toList, current.isContinue c = true := fun c member =>
    isContinue_of_isDigit (Nat.isDigit_of_mem_toDigits (by decide) (by decide)
      (Nat.toList_repr ▸ member))
  rw [Alphabet.isIdentifier, String.toList_append]
  exact current.isIdentifierChars_append h (List.all_eq_true.mpr digits)

end Text

/-- An identifier is not blank, and neither is a raw mark. -/
theorem Source.Ident.not_isBlankText_text (i : Ident) : Text.isBlankText i.text = false := by
  unfold text identText
  cases i.raw with
  | true =>
    have mark : 'r' ∈ ("r#" ++ i.name).toList := by simp
    exact Text.not_isBlankText mark (by decide)
  | false =>
    rw [if_neg Bool.false_ne_true]
    have identifier := i.isIdentifier
    unfold Text.Alphabet.isIdentifier at identifier
    cases chars : i.name.toList with
    | nil =>
      rw [chars] at identifier
      cases identifier
    | cons c rest =>
      rw [chars] at identifier
      have start := (Lexer.isLetter_of_isIdentifier identifier).1
      have solid := Lexer.not_isSpace start
      rw [Lexer.isSpace, Bool.or_eq_false_iff, Bool.or_eq_false_iff] at solid
      exact Text.not_isBlankText (chars ▸ List.mem_cons_self) solid.1.1

/-! ### Names coined for generated code -/

namespace Definition

variable {d : Definition} {description : Description}

/-- Coined names are identifiers. -/
theorem isIdentifier_of_mem_coined (described : d.describe = .ok description) :
    ∀ p ∈ d.kept.zip description.setters, ∀ name ∈ Blueprint.Part.coined p,
      Text.current.isIdentifier name = true := by
  intro p paired name member
  obtain ⟨method, query⟩ := Descriptors.isMethodName_of_synthesize (describe_eq_ok described).2 p.2
    (List.of_mem_zip paired).2
  simp only [Blueprint.Part.coined, List.mem_cons, List.not_mem_nil, or_false] at member
  rcases member with rfl | rfl | rfl
  · exact Name.isIdentifier_of_isMethodName method
  · exact Name.isIdentifier_of_isMethodName query
  · exact Text.isIdentifier_append_toString (by decide) p.2.ordinal

/-- **Generation has an outcome**, which is the blueprint or why there is none. -/
theorem generate?_eq (d : Definition) : d.generate? = some d.blueprint := by
  unfold generate? blueprint
  cases described : d.describe with
  | error e => rfl
  | ok description =>
    cases named : builderIdent description.builder with
    | error e => simp only [named]
    | ok builder =>
      -- so the branch without an outcome is not taken
      have all : ((d.kept.zip description.setters).flatMap Blueprint.Part.coined).all
          (fun name => (Ident.ofName? false name).isSome) = true := by
        rw [List.all_eq_true]
        intro name member
        obtain ⟨p, paired, coined⟩ := List.mem_flatMap.mp member
        rw [Ident.ofName?_eq_some false (isIdentifier_of_mem_coined described p paired name coined)]
        rfl
      simp only [named, if_pos all]

/-! ### Reasons -/

/-- Why a struct whose declaration can be read has no builder, and with which error. -/
inductive Fails (d : Definition) : DeriveError → Prop
  /-- A name of a field occurs twice. -/
  | duplicateField (field : String) (twice : 2 ≤ (d.kept.map (·.name)).count field) :
      d.Fails (.shape (.duplicateField d.name field))
  /-- There are more fields than allowed. -/
  | tooManyFields (greatest : Nat) (limit : d.options.limits.maxFields = some greatest)
      (more : greatest < d.kept.length) :
      d.Fails (.shape (.tooManyFields d.name d.kept.length greatest))
  /-- The name of a method is unfit for one, or it occurs twice. -/
  | setterConflict (method : String)
      (member : method ∈ Descriptors.methodNames d.options.setterLead d.table)
      (unusable : Name.isMethodName method = false ∨
        2 ≤ (Name.builderMethods ++
          Descriptors.methodNames d.options.setterLead d.table).count method) :
      d.Fails (.shape (.setterConflict d.name method))
  /-- The builder's name is none. -/
  | builderName (unusable : ¬ Name.Usable (d.options.builderNameFor d.name)) :
      d.Fails (.builderName (d.options.builderNameFor d.name))

/-- The names of the record and of its fields are not what a shape is refused for. -/
theorem fails_of_extract (alike : ∀ f ∈ d.kept, Text.KnownAlike f.name) {e : ShapeError}
    (h : d.shape.extract d.options.limits = .error e) : d.Fails (.shape e) := by
  have kept := d.kept_shape
  rcases Shape.extract_eq_error h with ⟨blank, -⟩ | ⟨f, member, invalid | twice⟩ | many
  -- the first two reasons are about names that were read as identifiers
  · have named : Text.isBlankText d.shape.name = false := d.ident.not_isBlankText_text
    rw [named] at blank
    cases blank
  · rw [kept] at member
    obtain ⟨f, hf, rfl⟩ := List.mem_map.mp member
    have valid : Name.isFieldName (declaration f).name = true :=
      (alike f hf).isIdentifier_eq.trans f.ident.isIdentifier
    rw [valid] at invalid
    cases invalid.1
  · obtain ⟨twice, rfl⟩ := twice
    rw [kept, List.map_map] at twice
    exact .duplicateField _ twice
  · obtain ⟨greatest, limit, more, rfl⟩ := many
    rw [kept, List.length_map] at more ⊢
    exact .tooManyFields greatest limit more

/-- What no description can be made for is the name of a method. -/
theorem fails_of_synthesize {e : ShapeError}
    (h : Descriptors.synthesize ⟨d.name, d.table⟩ d.options = .error e) : d.Fails (.shape e) := by
  obtain ⟨method, member, unusable, rfl⟩ := Descriptors.synthesize_eq_error h
  exact .setterConflict method member unusable

/-- A description fails for the shape or for a method. -/
theorem fails_of_describe (alike : ∀ f ∈ d.kept, Text.KnownAlike f.name) {e : DeriveError}
    (h : d.describe = .error e) : d.Fails e := by
  unfold describe descriptors at h
  cases extracted : d.shape.extract d.options.limits with
  | error e' =>
    simp only [extracted, Except.error.injEq] at h
    exact h ▸ fails_of_extract alike extracted
  | ok ds =>
    obtain rfl : ds = ⟨d.name, d.table⟩ := extract_eq_ok extracted
    cases described : Descriptors.synthesize ⟨d.name, d.table⟩ d.options with
    | ok description => simp [extracted, described] at h
    | error e' =>
      simp only [extracted, described, Except.error.injEq] at h
      exact h ▸ fails_of_synthesize described

/-- What is left is the name of the builder. -/
theorem fails_of_builderIdent (described : d.describe = .ok description) {e : DeriveError}
    (h : builderIdent description.builder = .error e) : d.Fails e := by
  rw [Descriptors.builder_of_synthesize (describe_eq_ok described).2] at h
  unfold builderIdent at h
  cases read : Parser.runText Parser.ident (d.options.builderNameFor d.name) with
  | ok i => simp [read] at h
  | error fault =>
    simp only [read, Except.error.injEq] at h
    subst h
    refine .builderName fun ⟨i, usable⟩ => ?_
    rw [read] at usable
    cases usable

/-- **Every failure of a blueprint has one of the four reasons.** -/
theorem fails_of_blueprint (alike : ∀ f ∈ d.kept, Text.KnownAlike f.name) {e : DeriveError}
    (h : d.blueprint = .error e) : d.Fails e := by
  unfold blueprint at h
  cases described : d.describe with
  | ok description =>
    cases named : builderIdent description.builder with
    | ok builder => simp [described, named] at h
    | error e' =>
      simp only [described, named, Except.error.injEq] at h
      exact h ▸ fails_of_builderIdent described named
  | error e' =>
    simp only [described, Except.error.injEq] at h
    subst h
    exact fails_of_describe alike described

/-! ### The derivation as a whole -/

/-- **Derivation fails with an error, and for a reason.** Every identifier that stands in a source,
with a raw mark or without, is an identifier.  Take any struct whose declaration can be read,
whatever its attributes say, and let both alphabets agree on the names of the fields that are kept.

* Its shape is refused neither for the name of the record nor for a name of a field being none.
* Every name that is coined for generated code is an identifier, so generation has an outcome.
* If that is an error, it is for one of the four reasons, of which the error is an instance. -/
theorem derivation_failures :
    (∀ source ts, Lexer.tokens? source = some ts → ∀ t ∈ ts, t.Spelled) ∧
    ∀ d : Definition, (∀ f ∈ d.kept, Text.KnownAlike f.name) →
      (d.shape.extract d.options.limits ≠ .error .emptyRecordName ∧
        ∀ record field,
          d.shape.extract d.options.limits ≠ .error (.invalidFieldName record field)) ∧
      (∀ description, d.describe = .ok description →
        ∀ p ∈ d.kept.zip description.setters, ∀ name ∈ Blueprint.Part.coined p,
          ∃ i, Ident.ofName? false name = some i) ∧
      d.generate? = some d.blueprint ∧
      ∀ e, d.generate? = some (.error e) → d.Fails e := by
  refine ⟨fun source ts lexed => Lexer.spelled_of_tokens? lexed, fun d alike => ?_⟩
  refine ⟨⟨fun empty => ?_, fun record field invalid => ?_⟩, ?_, d.generate?_eq, fun e failed => ?_⟩
  · cases fails_of_extract alike empty
  · cases fails_of_extract alike invalid
  · intro description described p paired name coined
    have identifier := isIdentifier_of_mem_coined described p paired name coined
    exact ⟨_, Ident.ofName?_eq_some false identifier⟩
  · rw [generate?_eq, Option.some.injEq] at failed
    exact fails_of_blueprint alike failed

/-- The source of a struct with names that are raw or beyond ASCII, and two words for the name of
its builder. -/
def cafeSource : String :=
  "#[record(builder = \"two words\")] " ++
    "struct Café \x7b r#größe: u8, #[record(required)] r#type: u8 \x7d"

/-- The definition that a source is. -/
def ofSource? (source : String) : Option Definition :=
  (Item.ofText? source).bind fun item => (ofItem item).toOption

/-- A source has a definition if it is read as an item, and this as a definition. -/
theorem ofSource?_eq_some {source : String} (h : ofSource? source = some d) :
    ∃ item, Item.ofText? source = some item ∧ ofItem item = .ok d := by
  obtain ⟨item, parsed, read⟩ := Option.bind_eq_some_iff.mp h
  exact ⟨item, parsed, eq_ok_of_toOption read⟩

theorem run_cafeSource :
    (ofSource? cafeSource).map (fun d => (d.kept.map (·.name), d.describe.toOption.map fun s =>
      (s.builder, (d.kept.zip s.setters).flatMap Blueprint.Part.coined))) =
    some (["größe", "type"], some ("two words", ["with_größe", "is_größe_set", "__recordkit_v0",
      "with_type", "is_type_set", "__recordkit_v1"])) := by
  decide +kernel

/-- The names in the source of a struct with two words for the name of its builder are identifiers,
and so is every name that is coined for it.  Its derivation fails for the name of the builder. -/
theorem derivation_failures_cafe :
    ∃ ts item d description, Lexer.tokens? cafeSource = some ts ∧ (∀ t ∈ ts, t.Spelled) ∧
      Item.ofText? cafeSource = some item ∧ ofItem item = .ok d ∧
      (∀ f ∈ d.kept, Text.KnownAlike f.name) ∧ d.describe = .ok description ∧
      (∀ name ∈ ["with_größe", "is_größe_set", "__recordkit_v0", "with_type", "is_type_set",
        "__recordkit_v1"], ∃ i, Ident.ofName? false name = some i) ∧
      d.generate? = some (.error (.builderName "two words")) ∧
      d.Fails (.builderName "two words") := by
  obtain ⟨d, found, run⟩ := Option.map_eq_some_iff.mp run_cafeSource
  obtain ⟨names, described⟩ := Prod.mk.inj run
  obtain ⟨item, parsed, defined⟩ := ofSource?_eq_some found
  have alike : ∀ f ∈ d.kept, Text.KnownAlike f.name := by
    have both : ∀ n ∈ ["größe", "type"], Text.KnownAlike n := by decide +kernel
    exact fun f member => both _ (names ▸ List.mem_map_of_mem member)
  obtain ⟨description, described, parts⟩ := Option.map_eq_some_iff.mp described
  have described := eq_ok_of_toOption described
  obtain ⟨builder, coined⟩ := Prod.mk.inj parts
  have unusable : builderIdent "two words" = .error (.builderName "two words") := by
    decide +kernel
  obtain ⟨ts, lexed⟩ : ∃ ts, Lexer.tokens? cafeSource = some ts :=
    Option.isSome_iff_exists.mp (by decide +kernel)
  obtain ⟨spelled, derivations⟩ := derivation_failures
  obtain ⟨-, identifiers, outcome, failures⟩ := derivations d alike
  have failed : d.generate? = some (.error (.builderName "two words")) := by
    rw [outcome, blueprint]
    simp only [described, builder, unusable]
  refine ⟨ts, item, d, description, lexed, spelled _ ts lexed, parsed, defined, alike, described,
    fun name member => ?_, failed, failures _ failed⟩
  obtain ⟨p, paired, named⟩ := List.mem_flatMap.mp (coined ▸ member)
  exact identifiers description described p paired name named

end Definition

end Recordwright
