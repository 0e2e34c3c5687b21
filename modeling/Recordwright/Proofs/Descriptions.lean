import Recordwright.Options
import Recordwright.Proofs.Json.Written
import Recordwright.Shape

/-!
# Shapes and options in JSON

A shape and the options of a builder are described by JSON texts, and each has many.  What a text
must say of each member is listed once (`Shape.slots`, `Options.slots`), and every text that says it
is read as the shape or the options, whatever the order, the form and the blanks
(`Shape.takes_read`, `Options.takes_read`).

There are two main statements.  What is written for a shape or for options is read back
(`descriptions_survive_json`), since what is written is one of the spellings.  And all
spellings of a shape are read as this shape (`Shape.spellings_read_alike`).
-/

namespace Recordwright

open Json Json.Reader

/-! ### What is said of the members -/

namespace FieldDeclaration

/-- The members of a declaration.  What is neither required nor static need not say so. -/
def slots (d : FieldDeclaration) : List Slot :=
  [⟨"name", (SpellsString · d.name), False⟩,
   ⟨"type", (SpellsString · d.type), False⟩,
   ⟨"required", (SpellsBool · d.required), d.required = false⟩,
   ⟨"static", (SpellsBool · d.isStatic), d.isStatic = false⟩]

/-- The text spells the declaration. -/
def Spells (text : List Char) (d : FieldDeclaration) : Prop := SpellsRecord d.slots text

end FieldDeclaration

namespace Shape

/-- An array of declarations. -/
inductive SpellsFields : List Char → List FieldDeclaration → Prop
  | mk {body : List Char} {ds : List FieldDeclaration}
      (listed : Listing FieldDeclaration.Spells ']' true ds body) : SpellsFields ('[' :: body) ds

/-- The members of a shape.  Without fields it need not say so. -/
def slots (s : Shape) : List Slot :=
  [⟨"name", (SpellsString · s.name), False⟩,
   ⟨"fields", (SpellsFields · s.fields), s.fields = []⟩]

/-- The text spells the shape. -/
def Spells (text : List Char) (s : Shape) : Prop := SpellsRecord s.slots text

end Shape

/-- `null` for nothing. -/
def SpellsOption {α : Type} (spells : List Char → α → Prop) (text : List Char) : Option α → Prop
  | none => text = "null".toList
  | some a => spells text a

/-- A natural number of sixty-four bits. -/
structure SpellsSize (text : List Char) (n : Nat) : Prop where
  spelled : SpellsInteger text n
  small : n < 2 ^ 64

namespace Limits

/-- The members of limits. -/
def slots (l : Limits) : List Slot :=
  [⟨"max_fields", (SpellsOption SpellsSize · l.maxFields), l.maxFields = none⟩]

end Limits

namespace Options

/-- The members of options.  What is as usual need not be said. -/
def slots (o : Options) : List Slot :=
  [⟨"builder_suffix", (SpellsString · o.builderSuffix), o.builderSuffix = "Builder"⟩,
   ⟨"builder_name", (SpellsOption SpellsString · o.builderName), o.builderName = none⟩,
   ⟨"setter_prefix", (SpellsString · o.setterLead), o.setterLead = "with_"⟩,
   ⟨"extract", SpellsRecord o.limits.slots, o.limits = {}⟩]

end Options

/-! ### Shapes -/

theorem Json.SpellsRecord.opens {slots : List Slot} {text : List Char}
    (h : SpellsRecord slots text) : Opens text := by
  cases h with
  | object => exact ⟨'\x7b', _, rfl, rfl, by decide⟩
  | array => exact ⟨'[', _, rfl, rfl, by decide⟩

variable {depth : Nat} {text : List Char} {keys : List String}

namespace FieldDeclaration

/-- The draft of a declaration when these keys were read. -/
def draft (d : FieldDeclaration) (keys : List String) : Draft where
  name := ifRead "name" d.name keys
  type := ifRead "type" d.type keys
  required := ifRead "required" d.required keys
  isStatic := ifRead "static" d.isStatic keys

/-- The members of a declaration fill its draft one by one, and the full draft is what it is. -/
theorem fills (d : FieldDeclaration) (depth : Nat) :
    members.Fills depth d.slots d.draft d where
  members := by
    -- name and type must be said, the other two need not be
    refine
      .cons ⟨rfl, False.elim, fun _ => mem_of_isSome_ifRead, fun _ => SpellsString.opens, ?_⟩ <|
      .cons ⟨rfl, False.elim, fun _ => mem_of_isSome_ifRead, fun _ => SpellsString.opens, ?_⟩ <|
      .cons ⟨rfl, fun _ => rfl, fun _ => mem_of_isSome_ifRead, fun _ => SpellsBool.opens, ?_⟩ <|
      .cons ⟨rfl, fun _ => rfl, fun _ => mem_of_isSome_ifRead, fun _ => SpellsBool.opens, ?_⟩ .nil
    all_goals intro keys text spelled
    · exact (takes_string spelled "a string").into (by simp [draft, ifRead_cons_of_ne])
    · exact (takes_string spelled "a string").into (by simp [draft, ifRead_cons_of_ne])
    · exact (takes_bool spelled).into (by simp [draft, ifRead_cons_of_ne])
    · exact (takes_bool spelled).into (by simp [draft, ifRead_cons_of_ne])
  keys_nodup := by
    show ["name", "type", "required", "static"].Nodup
    decide
  empty := rfl
  finish := by
    intro keys all
    simp only [slots, List.forall_mem_cons, or_false] at all
    obtain ⟨name, type, required, isStatic, -⟩ := all
    simp only [members, draft, ifRead_of_mem name, ifRead_of_mem type, getD_ifRead required,
      getD_ifRead isStatic]

/-- However a declaration is spelled, it is read as what it is. -/
theorem takes_read {d : FieldDeclaration} (deep : 1 ≤ depth) (h : Spells text d) :
    Takes (members.read (depth + 1)) text d := (d.fills depth).takes deep h

end FieldDeclaration

namespace Shape

/-- The draft of a shape when these keys were read. -/
def draft (s : Shape) (keys : List String) : Draft where
  name := ifRead "name" s.name keys
  fields := ifRead "fields" s.fields keys

/-- An array of declarations is read, whatever the spelling of each. -/
theorem takes_fields {ds : List FieldDeclaration} (deep : 1 ≤ depth) (h : SpellsFields text ds) :
    Takes (Reader.list FieldDeclaration.members.read (depth + 2)) text ds := by
  obtain ⟨listed⟩ := h
  exact takes_list listed (fun d _ t => SpellsRecord.opens) (Nat.succ_pos depth)
    fun d _ t => FieldDeclaration.takes_read deep

theorem SpellsFields.opens {ds : List FieldDeclaration} (h : SpellsFields text ds) :
    Opens text := by
  obtain ⟨listed⟩ := h
  exact ⟨'[', _, rfl, rfl, by decide⟩

/-- Both members of a shape fill its draft. -/
theorem fills (s : Shape) (deep : 1 ≤ depth) :
    members.Fills (depth + 2) s.slots s.draft s where
  members := by
    refine
      .cons ⟨rfl, False.elim, fun _ => mem_of_isSome_ifRead, fun _ => SpellsString.opens, ?_⟩ <|
      .cons ⟨rfl, fun _ => rfl, fun _ => mem_of_isSome_ifRead, fun _ => SpellsFields.opens, ?_⟩ .nil
    all_goals intro keys text spelled
    · exact (takes_string spelled "a string").into (by simp [draft, ifRead_cons_of_ne])
    · exact (takes_fields deep spelled).into (by simp [draft, ifRead_cons_of_ne])
  keys_nodup := by
    show ["name", "fields"].Nodup
    decide
  empty := rfl
  finish := by
    intro keys all
    simp only [slots, List.forall_mem_cons, or_false] at all
    obtain ⟨name, fields, -⟩ := all
    simp only [members, draft, ifRead_of_mem name, getD_ifRead fields]

/-- However a shape is spelled, it is read as the shape it is. -/
theorem takes_read {s : Shape} (deep : 1 ≤ depth) (h : Spells text s) :
    Takes (members.read (depth + 3)) text s := (s.fills deep).takes (by omega) h

end Shape

/-! ### Options -/

section

variable {α : Type} {spells : List Char → α → Prop} {r : Reader α} {o : Option α}

theorem opens_of_spellsOption (h : SpellsOption spells text o)
    (opens : ∀ a, spells text a → Opens text) : Opens text := by
  cases o with
  | none => obtain rfl := h; exact ⟨'n', _, rfl, rfl, by decide⟩
  | some a => exact opens a h

/-- What may be `null` is told apart by its first character. -/
theorem takes_option (h : SpellsOption spells text o)
    (takes : ∀ a, spells text a → Takes r text a)
    (starts : ∀ a, spells text a → ∃ c cs, text = c :: cs ∧ isSpace c = false ∧ c ≠ 'n') :
    Takes (Reader.option r) text o := by
  cases o with
  | none =>
    obtain rfl := h
    apply Takes.of_peek rfl
    intro rest _
    exact (reads_literal "null".toList rest).bind (reads_pure _ _)
  | some a =>
    obtain ⟨c, cs, rfl, visible, other⟩ := starts a h
    apply Takes.of_peek visible
    intro rest ends
    split
    next null => exact absurd (Option.some.inj null) other
    next => exact (takes a h).into rfl blank_nil ends

end

theorem SpellsSize.exists_eq_cons {n : Nat} (h : SpellsSize text n) :
    ∃ c cs, text = c :: cs ∧ StartsNumber c := h.spelled.exists_eq_cons

/-- A number of sixty-four bits is read as a size. -/
theorem takes_size {n : Nat} (h : SpellsSize text n) (expected : String) :
    Takes (Reader.size expected) text n := by
  obtain ⟨c, cs, rfl, starts⟩ := h.exists_eq_cons
  apply Takes.of_peek starts.isSpace_eq
  intro rest ends
  have high : (n : Int) ≤ greatestSignificand := by
    have small := h.small
    unfold greatestSignificand
    omega
  have read := h.spelled.readNumber_append (by omega) high ends
  rw [List.cons_append] at read
  simp only [if_pos (show c = '-' ∨ (digit? c).isSome = true from starts)]
  refine (reads_ofFunction read).bind ?_
  simp only [if_pos (Int.natCast_nonneg n), Int.toNat_natCast]
  exact reads_pure n rest

theorem SpellsSize.opens {n : Nat} (h : SpellsSize text n) : Opens text := by
  obtain ⟨c, cs, rfl, starts⟩ := h.exists_eq_cons
  exact ⟨c, cs, rfl, starts.isSpace_eq, starts.ne (by decide)⟩

/-- No number begins like `null`. -/
theorem SpellsSize.starts {n : Nat} (h : SpellsSize text n) :
    ∃ c cs, text = c :: cs ∧ isSpace c = false ∧ c ≠ 'n' := by
  obtain ⟨c, cs, rfl, starts⟩ := h.exists_eq_cons
  exact ⟨c, cs, rfl, starts.isSpace_eq, starts.ne (by decide)⟩

/-- No string begins like `null`. -/
theorem spellsString_starts {s : String} (h : SpellsString text s) :
    ∃ c cs, text = c :: cs ∧ isSpace c = false ∧ c ≠ 'n' := by
  obtain ⟨body, rfl, -⟩ := h.exists_eq_cons
  exact ⟨'\"', body, rfl, rfl, by decide⟩

namespace Limits

/-- The draft of limits when these keys were read. -/
def draft (l : Limits) (keys : List String) : Draft where
  maxFields := ifRead "max_fields" l.maxFields keys

/-- The only member of limits fills their draft. -/
theorem fills (l : Limits) (depth : Nat) : members.Fills depth l.slots l.draft l where
  members := by
    refine .cons ⟨rfl, fun _ => rfl, fun _ => mem_of_isSome_ifRead, ?_, ?_⟩ .nil
    · exact fun text spelled => opens_of_spellsOption spelled fun _ => SpellsSize.opens
    · intro keys text spelled
      exact (takes_option spelled (fun n size => takes_size size "usize")
        fun _ => SpellsSize.starts).into (by simp [draft])
  keys_nodup := by
    show ["max_fields"].Nodup
    decide
  empty := rfl
  finish := by
    intro keys all
    simp only [slots, List.forall_mem_cons] at all
    obtain ⟨maxFields, -⟩ := all
    simp only [members, draft, getD_ifRead maxFields]

end Limits

namespace Options

/-- The draft of options when these keys were read. -/
def draft (o : Options) (keys : List String) : Draft where
  builderSuffix := ifRead "builder_suffix" o.builderSuffix keys
  builderName := ifRead "builder_name" o.builderName keys
  setterLead := ifRead "setter_prefix" o.setterLead keys
  limits := ifRead "extract" o.limits keys

/-- The members of options fill their draft; the limits among them are a record of their own. -/
theorem fills (o : Options) (deep : 1 ≤ depth) :
    members.Fills (depth + 1) o.slots o.draft o where
  members := by
    refine
      .cons ⟨rfl, fun _ => rfl, fun _ => mem_of_isSome_ifRead, fun _ => SpellsString.opens, ?_⟩ <|
      .cons ⟨rfl, fun _ => rfl, fun _ => mem_of_isSome_ifRead, ?_, ?_⟩ <|
      .cons ⟨rfl, fun _ => rfl, fun _ => mem_of_isSome_ifRead, fun _ => SpellsString.opens, ?_⟩ <|
      .cons ⟨rfl, fun _ => rfl, fun _ => mem_of_isSome_ifRead, fun _ => SpellsRecord.opens, ?_⟩ .nil
    · intro keys text spelled
      exact (takes_string spelled "a string").into (by simp [draft, ifRead_cons_of_ne])
    · exact fun text spelled => opens_of_spellsOption spelled fun _ => SpellsString.opens
    · intro keys text spelled
      exact (takes_option spelled (fun s name => takes_string name "a string")
        fun _ => spellsString_starts).into (by simp [draft, ifRead_cons_of_ne])
    · intro keys text spelled
      exact (takes_string spelled "a string").into (by simp [draft, ifRead_cons_of_ne])
    · intro keys text spelled
      exact ((o.limits.fills depth).takes deep spelled).into (by simp [draft, ifRead_cons_of_ne])
  keys_nodup := by
    show ["builder_suffix", "builder_name", "setter_prefix", "extract"].Nodup
    decide
  empty := rfl
  finish := by
    intro keys all
    simp only [slots, List.forall_mem_cons] at all
    obtain ⟨suffix, name, lead, limits, -⟩ := all
    simp only [members, draft, getD_ifRead suffix, getD_ifRead name, getD_ifRead lead,
      getD_ifRead limits]

/-- However options are spelled, they are read as what they are. -/
theorem takes_read {o : Options} (deep : 1 ≤ depth) (h : SpellsRecord o.slots text) :
    Takes (members.read (depth + 2)) text o := (o.fills deep).takes (by omega) h

end Options

/-! ### What is written is read back -/

section

open Json.Tree (compactChars)

theorem spellsBool_compact (b : Bool) : SpellsBool (compactChars (.bool b)) b := rfl

/-- What is written for a declaration spells it. -/
theorem FieldDeclaration.spells_compact (d : FieldDeclaration) :
    Spells (compactChars d.toTree) d := by
  apply spellsRecord_compact
  · refine .cons ⟨rfl, ?_⟩ <| .cons ⟨rfl, ?_⟩ <| .cons ⟨rfl, ?_⟩ <| .cons ⟨rfl, ?_⟩ .nil
    · exact spellsString_writtenText d.name
    · exact spellsString_writtenText d.type
    · exact spellsBool_compact d.required
    · exact spellsBool_compact d.isStatic
  · exact (d.fills 0).keys_nodup

/-- What is written for a shape spells it. -/
theorem Shape.spells_compact (s : Shape) : Spells (compactChars s.toTree) s := by
  apply spellsRecord_compact
  · refine .cons ⟨rfl, ?_⟩ <| .cons ⟨rfl, ?_⟩ .nil
    · exact spellsString_writtenText s.name
    · obtain ⟨body, written, listed⟩ :=
        listing_compact fun d (_ : d ∈ s.fields) => d.spells_compact
      show SpellsFields (compactChars (.array (s.fields.map FieldDeclaration.toTree))) s.fields
      rw [written]
      exact .mk listed
  · exact (s.fills (Nat.le_refl 1)).keys_nodup

/-- So does what is written for a value that there may be. -/
theorem spellsOption_compact {α : Type} {spells : List Char → α → Prop} {tree : α → Json.Tree}
    {o : Option α} (spelled : ∀ a, o = some a → spells (compactChars (tree a)) a) :
    SpellsOption spells (compactChars (Json.Tree.ofOption tree o)) o := by
  cases o with
  | none => rfl
  | some a => exact spelled a rfl

/-- Limits are numbers of sixty-four bits, as otherwise what is written spells no size. -/
theorem Limits.spells_compact {l : Limits} (small : ∀ n, l.maxFields = some n → n < 2 ^ 64) :
    SpellsRecord l.slots (compactChars l.toTree) := by
  apply spellsRecord_compact
  · refine .cons ⟨rfl, ?_⟩ .nil
    apply spellsOption_compact
    intro n limit
    exact ⟨spellsInteger_toString n, small n limit⟩
  · exact (l.fills 0).keys_nodup

/-- What is written for options spells them. -/
theorem Options.spells_compact {o : Options}
    (small : ∀ n, o.limits.maxFields = some n → n < 2 ^ 64) :
    SpellsRecord o.slots (compactChars o.toTree) := by
  apply spellsRecord_compact
  · refine .cons ⟨rfl, ?_⟩ <| .cons ⟨rfl, ?_⟩ <| .cons ⟨rfl, ?_⟩ <| .cons ⟨rfl, ?_⟩ .nil
    · exact spellsString_writtenText o.builderSuffix
    · exact spellsOption_compact fun name _ => spellsString_writtenText name
    · exact spellsString_writtenText o.setterLead
    · exact Limits.spells_compact small
  · exact (o.fills (Nat.le_refl 1)).keys_nodup

/-- What is written without blanks is the whole text of its value. -/
theorem run_compact {α : Type} {r : Reader α} {t : Json.Tree} {a : α}
    (h : Takes r (compactChars t) a) : r.run t.compact = .ok a := by
  refine run_of_takes h blank_nil blank_nil ?_
  rw [Json.Tree.compact, String.toList_ofList, List.nil_append, List.append_nil]

/-- A shape is read back from its JSON text, and so are options, whose limit is a number of
sixty-four bits if there is one. -/
theorem descriptions_survive_json :
    (∀ s : Shape, Shape.ofJson s.toJson = .ok s) ∧
      ∀ o : Options, (∀ n, o.limits.maxFields = some n → n < 2 ^ 64) →
        Options.ofJson o.toJson = .ok o := by
  constructor
  · intro s
    exact run_compact (Shape.takes_read (by decide) s.spells_compact)
  · intro o small
    exact run_compact (Options.takes_read (by decide) (Options.spells_compact small))

/-- The greatest limit there is, and names with quotes, line breaks and characters of every
plane. -/
theorem descriptions_survive_json_greatest :
    Options.ofJson (Options.toJson ⟨"\"\n\\", some "\x01/😀", "", ⟨some (2 ^ 64 - 1)⟩⟩) =
      .ok ⟨"\"\n\\", some "\x01/😀", "", ⟨some (2 ^ 64 - 1)⟩⟩ := by
  refine descriptions_survive_json.2 _ ?_
  intro n limit
  obtain rfl : 2 ^ 64 - 1 = n := Option.some.inj limit
  decide

end

/-! ### Every spelling is read alike -/

/-- Whatever text spells a shape, with blanks around it or not, is read as this shape. -/
theorem Shape.spellings_read_alike {s : Shape} {text : String}
    (h : Spaced (Shape.Spells · s) text) : Shape.ofJson text = .ok s := by
  obtain ⟨front, inner, behind, before, spelled, after, whole⟩ := h
  exact run_of_takes (Shape.takes_read (by decide) spelled) before after whole

/-- Blanks, an unknown member with a number that no float comes near, a field by position and a
field by its members, and a letter by its number. -/
theorem Shape.spellings_read_alike_mixed :
    Shape.ofJson ("\n\x7b\"v\": [1e999],\"fields\":[[\"x\",\"i64\",true],\x7b\"type\":\"str\"," ++
        "\"name\":\"y\"\x7d],\"name\":\"\\u0050\"\x7d") =
      .ok ⟨"P", [⟨"x", "i64", true, false⟩, ⟨"y", "str", false, false⟩]⟩ := by
  have line : Blank ['\n'] := List.forall_mem_singleton.mpr (by decide)
  have space : Blank [' '] := List.forall_mem_singleton.mpr (by decide)
  have entry (key : String) {front : List Char} (blank : Blank front) (value : List Char) :
      SpellsEntry SpellsString _ (key, value) :=
    .mk (spellsString_writtenText key) blank_nil blank
  -- the unknown member: a number in an array
  have large : IsNumber ([] ++ (['1'] ++ ([] ++ 'e' :: ([] ++ ['9', '9', '9'])))) :=
    .mk (by decide) (isNumeral_toDigits 1) .absent
      (.digits (.inl rfl) (by decide) ⟨List.all_eq_true.mp rfl, by decide⟩)
  have unknown := IsValue.array (.first blank_nil rfl (.close blank_nil))
    (List.forall_mem_singleton.mpr (.number large))
  -- the name of the shape, by the number of its letter
  have unit : SpellsUnit ['0', '0', '5', '0'] (((0 * 16 + 0) * 16 + 5) * 16 + 0) :=
    .mk (.inl rfl) (.inl rfl) (.inl rfl) (.inl rfl)
  have letter : SpellsString _ "P" := .mk (.cons (@SpellsChar.number _ 'P' unit) .nil)
  -- both fields, in two forms
  have x : SpellsRecord (FieldDeclaration.slots ⟨"x", "i64", true, false⟩) _ :=
    @SpellsRecord.array _ [_, _, _] [_] _ rfl
      (.first blank_nil (spellsString_writtenText "x") <|
        .next blank_nil blank_nil (spellsString_writtenText "i64") <|
        .next blank_nil blank_nil rfl <| .close blank_nil)
      (List.forall_mem_singleton.mpr rfl)
  have y : SpellsRecord (FieldDeclaration.slots ⟨"y", "str", false, false⟩) _ :=
    .object (.first blank_nil (entry "type" blank_nil (writtenText "str")) <|
        .next blank_nil blank_nil (entry "name" blank_nil (writtenText "y")) <| .close blank_nil)
      (by
        simp only [FieldDeclaration.slots, List.forall_mem_cons]
        exact ⟨.inl ⟨_, rfl, spellsString_writtenText "y"⟩,
          .inl ⟨_, rfl, spellsString_writtenText "str"⟩, .inr ⟨rfl, trivial⟩,
          .inr ⟨rfl, trivial⟩, nofun⟩)
      (by simp [FieldDeclaration.slots])
  have fields := Shape.SpellsFields.mk
    (.first blank_nil x <| .next blank_nil blank_nil y <| .close blank_nil)
  have shape : SpellsRecord
      (Shape.slots ⟨"P", [⟨"x", "i64", true, false⟩, ⟨"y", "str", false, false⟩]⟩) _ :=
    .object (.first blank_nil (entry "v" space _) <|
        .next blank_nil blank_nil (entry "fields" blank_nil _) <|
        .next blank_nil blank_nil (entry "name" blank_nil _) <| .close blank_nil)
      (by
        simp only [Shape.slots, List.forall_mem_cons]
        exact ⟨.inl ⟨_, rfl, letter⟩, .inl ⟨_, rfl, fields⟩, nofun⟩)
      (by
        simp only [Shape.slots, List.forall_mem_cons]
        exact ⟨fun _ => unknown, by simp, by simp, nofun⟩)
  exact Shape.spellings_read_alike ⟨_, _, _, line, shape, blank_nil, by decide⟩

end Recordwright
