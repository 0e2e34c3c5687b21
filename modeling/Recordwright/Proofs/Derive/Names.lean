import Recordwright.Proofs.Derive.Agreement
import Recordwright.Proofs.Source.Layout

/-!
# Names in generated code

A generated builder has functions and fields, and their names are put together from those of the
struct's fields.  Two questions are answered exactly here.

Which functions have names that a function can have?  Every name has passed the check for names of
methods, and of the keywords that check knows only some: `Name.unlisted` are the others.  So a name
can be used iff it is none of them (`Name.usable_names`).  With a lead such as the default one this
is always so (`Definition.usable_functionNames`).

Which builders have fields of different names?  The fields that store values do, but the name of the
field for the state is compared with what is written in the source, raw marks included, and so a raw
field can have that name (`Blueprint.fieldNames_nodup_iff`).
-/

namespace Recordwright

open Source

/-! ### Identifiers -/

/-- A text that is an identifier is the text of one token, and read as such. -/
theorem Source.Lexer.tokens?_of_isIdentifier {name : String}
    (h : Text.current.isIdentifier name = true) : tokens? name = some [.ident false name] := by
  have legible : Legible [.ident false name] := .word h nofun .nil
  have whole : Token.text [.ident false name] = name := by
    simp [Token.text, Token.listChars, Token.chars, identText]
  rw [← tokens?_text legible, whole]

namespace Source.Parser

/-- **An identifier is read as such unless it is a keyword.** -/
theorem runText_ident {name : String} (h : Text.current.isIdentifier name = true) :
    Parser.runText Parser.ident name =
      if name ∈ Ident.keywords then .error (.keyword name) else .ok ⟨false, name, h⟩ := by
  have read : (ident.run [.ident false name]).run none =
      if isName false name then .ok ((⟨false, name, h⟩, []), none)
      else .error (.keyword (identText false name)) := ident_run h none
  rw [runText, Lexer.tokens?_of_isIdentifier h]
  by_cases keyword : name ∈ Ident.keywords
  · have found : isName false name = false := by simp [isName, identText, keyword]
    rw [if_pos keyword]
    simp only [runAll, read, found]
    rfl
  · have found : isName false name = true := by simp [isName, identText, keyword]
    rw [if_neg keyword]
    simp only [runAll, read, found, if_true]
    rfl

end Source.Parser

/-! ### Names of methods -/

namespace Name

variable {name : String}

/-- Can a method have this name?  It must be an identifier that is no keyword. -/
def Usable (name : String) : Prop := ∃ i, Parser.runText Parser.ident name = .ok i

/-- The keywords that `keywords` does not list. -/
def unlisted : List String :=
  ["abstract", "become", "box", "do", "final", "macro", "override", "priv", "try", "typeof",
   "unsized", "virtual", "yield"]

/-- The check for names of methods lets exactly these keywords pass. -/
theorem unlisted_eq : unlisted = Ident.keywords.filter isMethodName := by decide +kernel

/-- An identifier can be the name of a method iff it is no keyword. -/
theorem usable_iff_of_isIdentifier (h : Text.current.isIdentifier name = true) :
    Usable name ↔ name ∉ Ident.keywords := by
  unfold Usable
  rw [Parser.runText_ident h]
  by_cases keyword : name ∈ Ident.keywords <;> simp [keyword]

/-- A name that passed the check for names of methods is an identifier in a source, too. -/
theorem isIdentifier_of_isMethodName (h : isMethodName name = true) :
    Text.current.isIdentifier name = true := by
  rw [isMethodName, isFieldName, Bool.and_eq_true, Bool.and_eq_true] at h
  exact Text.isIdentifier_current h.1.1

/-- A name that passed the check can be used unless it is an unlisted keyword. -/
theorem usable_iff (h : isMethodName name = true) : Usable name ↔ name ∉ unlisted := by
  rw [usable_iff_of_isIdentifier (isIdentifier_of_isMethodName h), unlisted_eq, List.mem_filter,
    and_iff_left h]

/-- A name that begins like no unlisted keyword is none. -/
theorem append_notMem_unlisted {lead : String}
    (h : ∀ w ∈ unlisted, lead.toList.isPrefixOf w.toList = false) (rest : String) :
    lead ++ rest ∉ unlisted := by
  intro member
  have other := h _ member
  rw [String.toList_append, List.isPrefixOf_iff_prefix.mpr (List.prefix_append _ _)] at other
  cases other

/-- A query begins like no keyword, whatever the field is called. -/
theorem queryOf_notMem_unlisted (field : String) : queryOf field ∉ unlisted := by
  rw [queryOf, String.append_assoc]
  exact append_notMem_unlisted (by decide) _

end Name

/-- The names of the functions of a builder. -/
def Blueprint.functionNames (b : Blueprint) : List String :=
  Name.builderMethods ++ b.methods.flatMap fun m => [m.setter, m.query]

/-- The functions of a generated builder have names that passed the check. -/
theorem Blueprint.isMethodName_of_mem_functionNames {d : Definition} {b : Blueprint}
    (h : d.blueprint = .ok b) {name : String} (member : name ∈ b.functionNames) :
    Name.isMethodName name = true := by
  obtain ⟨description, builder, described, -, rfl⟩ := Definition.blueprint_eq_ok h
  rcases List.mem_append.mp member with own | member
  · have all : ∀ n ∈ Name.builderMethods, Name.isMethodName n = true := by decide
    exact all name own
  · -- a method of a field is named as the description of the builder says
    obtain ⟨m, hm, named⟩ := List.mem_flatMap.mp member
    obtain ⟨p, paired, rfl⟩ := List.mem_map.mp hm
    obtain ⟨method, query⟩ :=
      Descriptors.isMethodName_of_synthesize (Definition.describe_eq_ok described).2 p.2
        (List.of_mem_zip paired).2
    rcases List.mem_pair.mp named with rfl | rfl
    · exact method
    · exact query

/-- **Which names of methods can be used.** In a description of a builder each query has a name
that a method can have, and a method that assigns has one unless it is called like a keyword that
the check does not know.  The same is true of all functions of any generated builder. -/
theorem Name.usable_names {ds : Descriptors} {options : Options} {description : Description}
    (described : ds.synthesize options = .ok description) :
    (∀ s ∈ description.setters, Usable s.query ∧ (Usable s.method ↔ s.method ∉ unlisted)) ∧
      ∀ {d : Definition} {b : Blueprint}, d.blueprint = .ok b →
        ∀ name ∈ b.functionNames, (Usable name ↔ name ∉ unlisted) := by
  refine ⟨fun s member => ?_, fun {d b} derived name member => ?_⟩
  · obtain ⟨method, query⟩ := Descriptors.isMethodName_of_synthesize described s member
    refine ⟨(usable_iff query).mpr ?_, usable_iff method⟩
    rw [Descriptors.setters_of_synthesize described] at member
    obtain ⟨e, -, rfl⟩ := List.mem_map.mp member
    exact queryOf_notMem_unlisted e.name
  · exact usable_iff (Blueprint.isMethodName_of_mem_functionNames derived member)

/-- The source of a struct with a field that is called like a keyword, and methods without lead. -/
def jobSource : String :=
  "#[record(setter_prefix = \"\")] struct Job \x7b r#try: i64, id: u8 \x7d"

theorem functionNames_jobSource : (derivedOf? jobSource).map (·.2.functionNames) =
    some ["new", "from_origin", "build", "try", "is_try_set", "id", "is_id_set"] := by
  decide +kernel

/-- A method that assigns a field called like an unlisted keyword, described and generated without
a lead, has a name that cannot be used; the other functions have names that can. -/
theorem Name.usable_names_job :
    ∃ description, Descriptors.synthesize ⟨"Job", [⟨"try", "i64", false, 0⟩]⟩
        (Options.withSetterLead {} "") = .ok description ∧
      (∃ s ∈ description.setters, Usable s.query ∧ ¬ Usable s.method) ∧
      ∃ d b, derivedOf? jobSource = some (d, b) ∧
        ∀ name ∈ b.functionNames, (Usable name ↔ name ≠ "try") := by
  have described : Descriptors.synthesize ⟨"Job", [⟨"try", "i64", false, 0⟩]⟩
      (Options.withSetterLead {} "") = .ok ⟨"Job", "JobBuilder",
        [⟨"try", "try", "is_try_set", "i64", 0, false⟩], [], [0], requiredReason, []⟩ := by
    decide
  obtain ⟨setters, functions⟩ := usable_names described
  obtain ⟨query, method⟩ := setters _ List.mem_cons_self
  have unusable := mt method.mp (not_not.mpr (by decide))
  obtain ⟨⟨d, b⟩, found, names⟩ := Option.map_eq_some_iff.mp functionNames_jobSource
  obtain ⟨item, -, -, derived⟩ := derivedOf?_eq_some found
  refine ⟨_, described, ⟨_, List.mem_cons_self, query, unusable⟩, d, b, found,
    fun name member => ?_⟩
  rw [functions derived name member, not_iff_not]
  have only : ∀ n ∈ ["new", "from_origin", "build", "try", "is_try_set", "id", "is_id_set"],
      (n ∈ unlisted ↔ n = "try") := by decide
  exact only name (names ▸ member)

/-- Not all functions of a generated builder have names that can be used. -/
theorem Blueprint.exists_unusable_functionName :
    ¬ ∀ (d : Definition) (b : Blueprint), d.blueprint = .ok b →
      ∀ name ∈ b.functionNames, Name.Usable name := by
  intro all
  obtain ⟨⟨d, b⟩, found, names⟩ := Option.map_eq_some_iff.mp functionNames_jobSource
  obtain ⟨item, -, -, derived⟩ := derivedOf?_eq_some found
  have passed : Name.isMethodName "try" = true := by decide
  have usable : Name.Usable "try" := all d b derived "try" (by rw [names]; decide)
  exact (Name.usable_iff passed).mp usable (by decide)

/-- With a lead that no unlisted keyword begins with, all functions have names that can be used.
The lead that is used by default is one. -/
theorem Definition.usable_functionNames {d : Definition} {b : Blueprint} (h : d.blueprint = .ok b)
    (lead : ∀ w ∈ Name.unlisted, d.options.setterLead.toList.isPrefixOf w.toList = false) :
    ∀ name ∈ b.functionNames, Name.Usable name := by
  intro name member
  refine (Name.usable_iff (Blueprint.isMethodName_of_mem_functionNames h member)).mpr ?_
  rcases List.mem_append.mp member with own | member
  · have none : ∀ n ∈ Name.builderMethods, n ∉ Name.unlisted := by decide
    exact none name own
  · obtain ⟨m, hm, named⟩ := List.mem_flatMap.mp member
    obtain ⟨i, f, -, rfl⟩ := (linesUp h).mem_methods.mp hm
    rcases List.mem_pair.mp named with rfl | rfl
    · exact Name.append_notMem_unlisted lead _
    · exact Name.queryOf_notMem_unlisted _

example : ∀ w ∈ Name.unlisted,
    ({} : Options).setterLead.toList.isPrefixOf w.toList = false := by decide

/-! ### Names of fields -/

/-- An identifier is spelled with a raw mark iff it has one. -/
theorem Source.Ident.text_eq_raw_iff {i : Ident} {word : String} :
    i.text = "r#" ++ word ↔ i.raw = true ∧ i.name = word := by
  unfold text identText
  cases raw : i.raw with
  | false =>
    refine ⟨fun same => ?_, fun h => absurd h.1 Bool.false_ne_true⟩
    -- no identifier has a hash mark in it
    have identifier := i.isIdentifier
    rw [if_neg Bool.false_ne_true] at same
    rw [same, Text.Alphabet.isIdentifier, String.toList_append] at identifier
    have hash : Text.current.isContinue '#' = false := by decide
    simp [hash] at identifier
  | true =>
    rw [if_pos rfl, and_iff_right rfl]
    refine ⟨fun same => ?_, fun same => by rw [same]⟩
    have chars := congrArg String.toList same
    rw [String.toList_append, String.toList_append] at chars
    exact String.toList_injective (List.append_cancel_left chars)

/-- No field of a struct is spelled like the builder's own, since each is looked at. -/
theorem Definition.not_isWord_of_ofItem {item : Item} {d : Definition} (h : ofItem item = .ok d) :
    ∀ f ∈ d.fields, f.ident.isWord stateField = false := by
  intro f member
  obtain ⟨declared, read⟩ := exists_ofField_of_mem h member
  obtain ⟨free, marks, -, -, rfl⟩ := FieldDefinition.ofField_eq_ok.mp read
  exact free

/-- The names of the fields of a generated builder, without raw marks: first that of its state. -/
def Blueprint.fieldNames (b : Blueprint) : List String :=
  stateField :: b.storage.map (·.1.name)

/-- **When the fields of a builder clash.** The fields that store values have different names.  One
of them is named like the field for the state iff a field that is kept is called so with a raw mark:
the check for the reserved name compares what is written. -/
theorem Blueprint.fieldNames_nodup_iff {item : Item} {d : Definition} {b : Blueprint}
    (defined : Definition.ofItem item = .ok d) (derived : d.blueprint = .ok b) :
    (b.storage.map (·.1.name)).Nodup ∧
      (b.fieldNames.Nodup ↔ ∀ f ∈ d.kept, f.ident.text ≠ "r#__recordkit_state") := by
  have lined := Definition.linesUp derived
  have names : b.storage.map (·.1.name) = d.kept.map (·.name) := by
    rw [lined.storage, List.map_map]
    rfl
  -- what is left to ask is whether a kept field is called like the one for the state
  rw [fieldNames, names, List.nodup_cons, and_iff_left lined.names_nodup]
  refine ⟨lined.names_nodup, ?_⟩
  rw [List.mem_map, not_exists]
  refine forall_congr' fun f => ?_
  rw [not_and]
  refine forall_congr' fun member => not_congr ?_
  -- a field that is named so without a mark was refused
  have passed := Definition.not_isWord_of_ofItem defined f (List.mem_of_mem_filter member)
  rw [Ident.isWord, Bool.and_eq_false_imp] at passed
  have raw : f.name = stateField → f.ident.raw = true := by
    intro named
    by_contra plain
    have other := passed (by simpa using plain)
    rw [beq_eq_false_iff_ne] at other
    exact other named
  have spelled : "r#__recordkit_state" = "r#" ++ stateField := by decide
  rw [spelled, Ident.text_eq_raw_iff]
  exact ⟨fun named => ⟨raw named, named⟩, fun h => h.2⟩

/-- The source of a struct with raw names, one of which is that of the state. -/
def rawSource : String :=
  "struct Kept \x7b r#type: u8, #[record(skip)] r#__recordkit_state: u8 \x7d"

/-- In a struct with raw names the fields of the builder do not clash if the field that is called
like the one for the state is skipped. -/
theorem Blueprint.fieldNames_nodup_skipped :
    ∃ item d b, Item.ofText? rawSource = some item ∧ Definition.ofItem item = .ok d ∧
      d.blueprint = .ok b ∧ b.fieldNames.Nodup := by
  have spelled : (derivedOf? rawSource).map (·.1.kept.map (·.ident.text)) = some ["r#type"] := by
    decide +kernel
  obtain ⟨⟨d, b⟩, found, texts⟩ := Option.map_eq_some_iff.mp spelled
  obtain ⟨item, parsed, defined, derived⟩ := derivedOf?_eq_some found
  refine ⟨item, d, b, parsed, defined, derived,
    (fieldNames_nodup_iff defined derived).2.mpr fun f member => ?_⟩
  have text : f.ident.text ∈ ["r#type"] := texts ▸ List.mem_map_of_mem member
  rw [List.mem_singleton.mp text]
  decide

/-- The fields of a generated builder may clash. -/
theorem Blueprint.exists_fieldNames_clash :
    ¬ ∀ (item : Item) (d : Definition) (b : Blueprint), Definition.ofItem item = .ok d →
      d.blueprint = .ok b → b.fieldNames.Nodup := by
  intro all
  have names : (derivedOf? "struct Odd \x7b r#__recordkit_state: u8 \x7d").map (·.2.fieldNames) =
      some ["__recordkit_state", "__recordkit_state"] := by decide +kernel
  obtain ⟨⟨d, b⟩, found, names⟩ := Option.map_eq_some_iff.mp names
  obtain ⟨item, -, defined, derived⟩ := derivedOf?_eq_some found
  have different := all item d b defined derived
  rw [names] at different
  exact absurd different (by decide)

end Recordwright
