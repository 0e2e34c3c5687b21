import Recordwright.Proofs.Field.Declared
import Recordwright.Proofs.Reordered

/-!
# Declared types in other letter cases

Two declarations that differ in the case of ASCII letters only (`Text.Recased`) are taken apart
alike: blanks stay blanks, and a name stays a name of the same storage type.  So does the question
mark.  The opening of the wrapped form does not, since it is compared as it is written:
`Option<int>` declares a type, and `option<int>` none.

Hence letter case matters for wrapped declarations alone, and for these it matters only whether the
opening is written the one right way (`FieldType.recased_iff`).  The same is said of shapes.
-/

namespace Recordwright

namespace Text

variable {s t a b : List Char} {c d : Char}

/-- The texts differ in the case of ASCII letters at most. -/
def Recased (s t : List Char) : Prop := s.map Char.toLower = t.map Char.toLower

instance (s t : List Char) : Decidable (Recased s t) :=
  inferInstanceAs (Decidable (s.map Char.toLower = t.map Char.toLower))

theorem Recased.symm (h : Recased s t) : Recased t s := Eq.symm h

/-- Texts are recased iff they are one text in lower case. -/
theorem recased_iff_toLower (s t : String) :
    Recased s.toList t.toList ↔ s.toLower = t.toLower := by
  rw [Recased, ← String.toList_map, ← String.toList_map, String.toList_inj]
  rfl

/-! ### Characters -/

/-- What holds of the twenty-six capitals and of every character that stays, holds of all. -/
theorem toLower_cases {P : Char → Char → Prop}
    (capitals : ∀ n ∈ List.range' 65 26, P (Char.ofNat n) (Char.ofNat n).toLower)
    (same : P c c) : P c c.toLower := by
  by_cases capital : c.val ≥ 'A'.val ∧ c.val ≤ 'Z'.val
  · have member : c.toNat ∈ List.range' 65 26 := by
      rw [List.mem_range'_1]
      exact ⟨UInt32.le_iff_toNat_le.mp capital.1,
        Nat.lt_succ_of_le (UInt32.le_iff_toNat_le.mp capital.2)⟩
    have one := capitals _ member
    rwa [Char.ofNat_toNat] at one
  · have stays : c.toLower = c := dif_neg capital
    rwa [stays]

/-! Letter case is no matter to lower-case forms, nor to what is blank or a letter. -/

theorem lowerForm_toLower (c : Char) : lowerForm c.toLower = lowerForm c :=
  toLower_cases (P := fun c d => lowerForm d = lowerForm c) (by decide) rfl

theorem isBlank_toLower (c : Char) : isBlank c.toLower = isBlank c :=
  toLower_cases (P := fun c d => isBlank d = isBlank c) (by decide) rfl

theorem isAsciiLetter_toLower (c : Char) : isAsciiLetter c.toLower = isAsciiLetter c :=
  toLower_cases (P := fun c d => isAsciiLetter d = isAsciiLetter c) (by decide) rfl

theorem toLower_eq_self : isAsciiLetter c = false → c.toLower = c :=
  toLower_cases (P := fun c d => isAsciiLetter c = false → d = c) (by decide) fun _ => rfl

/-- A character that is no letter differs from all others in more than letter case. -/
theorem eq_of_toLower_eq (h : d.toLower = c.toLower) (other : isAsciiLetter c = false) : d = c := by
  have same : isAsciiLetter d = false := by
    rw [← isAsciiLetter_toLower, h, isAsciiLetter_toLower, other]
  rw [← toLower_eq_self same, h, toLower_eq_self other]

/-! ### Parts of a text -/

/-- A recased text has the same parts, each of them recased. -/
theorem Recased.append_left (h : Recased (a ++ b) t) :
    ∃ a' b', t = a' ++ b' ∧ Recased a a' ∧ Recased b b' := by
  have split : t.map Char.toLower = a.map Char.toLower ++ b.map Char.toLower := by
    rw [← List.map_append]
    exact h.symm
  obtain ⟨a', b', rfl, first, second⟩ := List.map_eq_append_iff.mp split
  exact ⟨a', b', rfl, first.symm, second.symm⟩

/-- A single character that is no letter stays. -/
theorem Recased.eq_singleton (h : Recased [c] t) (other : isAsciiLetter c = false) : t = [c] := by
  obtain ⟨d, rfl, lower⟩ := List.map_eq_singleton_iff.mp h.symm
  rw [eq_of_toLower_eq lower other]

theorem Recased.length_eq (h : Recased s t) : s.length = t.length := by
  simpa using congrArg List.length h

/-- Recased texts have one lower-case form. -/
theorem Recased.lowered_eq (h : Recased s t) : lowered s = lowered t := by
  have through : ∀ u : List Char, lowered u = (u.map Char.toLower).flatMap lowerForm := by
    intro u
    rw [lowered, List.flatMap_map]
    exact List.flatMap_congr fun c _ => (lowerForm_toLower c).symm
  rw [through s, through t, h]

/-- Blanks stand at the same places. -/
theorem Recased.isBlank_eq (h : Recased s t) : s.map isBlank = t.map isBlank := by
  have through : ∀ u : List Char, u.map isBlank = (u.map Char.toLower).map isBlank := by
    intro u
    rw [List.map_map]
    exact List.map_congr_left fun c _ => (isBlank_toLower c).symm
  rw [through s, through t, h]

theorem Recased.allBlank (h : Recased s t) (blanks : AllBlank s) : AllBlank t := by
  intro c member
  have image : isBlank c ∈ s.map isBlank := h.isBlank_eq ▸ List.mem_map_of_mem member
  obtain ⟨d, original, same⟩ := List.mem_map.mp image
  rw [← same]
  exact blanks d original

theorem Recased.solid (h : Recased s t) (solid : Solid s) : Solid t := by
  have blanks := h.isBlank_eq
  refine ⟨?_, ?_, ?_⟩
  · rintro rfl
    exact solid.ne_nil (List.map_eq_nil_iff.mp blanks)
  · intro c member
    have first := congrArg List.head? blanks
    rw [List.head?_map, List.head?_map, Option.mem_def.mp member] at first
    obtain ⟨d, original, same⟩ := Option.map_eq_some_iff.mp first
    rw [← same]
    exact solid.head d original
  · intro c member
    have last := congrArg List.getLast? blanks
    rw [List.getLast?_map, List.getLast?_map, Option.mem_def.mp member] at last
    obtain ⟨d, original, same⟩ := Option.map_eq_some_iff.mp last
    rw [← same]
    exact solid.last d original

end Text

/-! ### Declared types -/

namespace FieldType

open Text (Recased AllBlank Solid)

variable {name name' s s' : List Char} {storage : StorageType} {t u : FieldType} {p : Spelling}
  {declared other : String}

/-- A name stays a name of the same storage type. -/
theorem IsName.recased (h : IsName name storage) (r : Recased name name') :
    IsName name' storage := by
  rw [IsName, ← r.lowered_eq]
  exact h

/-- Is the mark the wrapped form? -/
def Mark.isOption : Mark → Bool
  | option _ _ => true
  | _ => false

/-- The text declares a type, and marks it by `Option<…>`. -/
def IsWrapped (declared : String) : Prop :=
  ∃ (p : Spelling) (t : FieldType), p.Spells t ∧ p.mark.isOption = true ∧
    p.chars = declared.toList

/-- A spelling without the wrapped form can be recased. -/
theorem Spelling.Spells.recased (h : p.Spells t) (plain : p.mark.isOption = false)
    (r : Recased p.chars s') :
    ∃ q : Spelling, q.Spells t ∧ q.mark.isOption = false ∧ q.chars = s' := by
  -- The other text is taken apart at the places where this one is put together.
  obtain ⟨before, name, mark, after⟩ := p
  obtain ⟨front, after', rfl, r, back⟩ := r.append_left
  obtain ⟨before', core, rfl, lead, r⟩ := r.append_left
  cases mark with
  | option lead gap => cases plain
  | none =>
    exact ⟨⟨before', core, .none, after'⟩,
      ⟨lead.allBlank h.before, h.name.recased r, h.gaps, back.allBlank h.after, h.nullable⟩,
      rfl, rfl⟩
  | question gap =>
    obtain ⟨inner, last, rfl, r, question⟩ := r.append_left
    obtain ⟨name', gap', rfl, named, blanks⟩ := r.append_left
    obtain rfl := question.eq_singleton (by decide)
    exact ⟨⟨before', name', .question gap', after'⟩,
      ⟨lead.allBlank h.before, h.name.recased named, blanks.allBlank h.gaps,
        back.allBlank h.after, h.nullable⟩, rfl, rfl⟩

/-- One with the wrapped form can be if the result has that form, too. -/
theorem Spelling.Spells.recased_wrapped (h : p.Spells t) (wrapped : p.mark.isOption = true)
    (r : Recased p.chars other.toList) (also : IsWrapped other) :
    ∃ q : Spelling, q.Spells t ∧ q.mark.isOption = true ∧ q.chars = other.toList := by
  obtain ⟨before, name, mark, after⟩ := p
  cases mark with
  | none => cases wrapped
  | question gap => cases wrapped
  | option lead gap =>
    obtain ⟨front, after', whole, r, back⟩ := r.append_left
    obtain ⟨before', core, rfl, front, r⟩ := r.append_left
    have solid : Solid core := r.solid (Mark.solid_around h.name.solid)
    obtain ⟨begun, last, rfl, r, closing⟩ := r.append_left
    obtain ⟨opening', inside, rfl, opened, r⟩ := r.append_left
    obtain ⟨begun, gap', rfl, r, second⟩ := r.append_left
    obtain ⟨lead', name', rfl, first, named⟩ := r.append_left
    obtain rfl := closing.eq_singleton (by decide)
    obtain ⟨hl, hg⟩ := List.forall_mem_append.mp h.gaps
    have hb := front.allBlank h.before
    have ha := back.allBlank h.after
    have gaps : AllBlank (lead' ++ gap') :=
      List.forall_mem_append.mpr ⟨first.allBlank hl, second.allBlank hg⟩
    -- the other spelling has the same core, so the core begins with the opening as it must be
    obtain ⟨q, u, spells, option, found⟩ := also
    have place : before' ++ (opening' ++ (lead' ++ name' ++ gap') ++ ['>']) ++ after' =
        q.before ++ q.mark.around q.name ++ q.after := whole.symm.trans found.symm
    obtain ⟨-, cores, -⟩ :=
      solid.append_inj spells.solid hb spells.before ha spells.after place
    have begins : opening' = opening := by
      cases mark : q.mark with
      | none => simp [mark, Mark.isOption] at option
      | question gap => simp [mark, Mark.isOption] at option
      | option l g =>
        have split : opening' ++ (lead' ++ name' ++ gap' ++ ['>']) =
            opening ++ (l ++ q.name ++ g ++ ['>']) := by
          rw [mark] at cores
          simpa only [Mark.around, List.append_assoc] using cores
        exact (List.append_inj split opened.length_eq.symm).1
    subst begins
    exact ⟨⟨before', name', .option lead' gap', after'⟩,
      ⟨hb, h.name.recased named, gaps, ha, h.nullable⟩, rfl, whole.symm⟩

/-- What is wrapped stays wrapped if it still declares a type. -/
theorem IsWrapped.recased (h : IsWrapped declared) (r : Recased declared.toList other.toList)
    (read : parse? other = some u) : IsWrapped other := by
  obtain ⟨p, t, spells, wrapped, whole⟩ := h
  obtain ⟨q, spells', found⟩ := exists_spelling_of_parseChars? read
  cases option : q.mark.isOption with
  | true => exact ⟨q, u, spells', option, found⟩
  | false =>
    -- recased back it would be a second spelling of what is wrapped
    rw [← found] at r
    obtain ⟨p', again, plain, same⟩ := spells'.recased option r.symm
    obtain rfl := spells.unique again (whole.trans same.symm)
    rw [wrapped] at plain
    cases plain

/-- What one text declares the other declares, if both are wrapped or neither is. -/
theorem parse?_of_recased (r : Recased declared.toList other.toList)
    (alike : IsWrapped declared ↔ IsWrapped other) (read : parse? declared = some t) :
    parse? other = some t := by
  obtain ⟨p, spells, whole⟩ := exists_spelling_of_parseChars? read
  have r' : Recased p.chars other.toList := by rwa [whole]
  cases option : p.mark.isOption with
  | false =>
    obtain ⟨q, again, -, found⟩ := spells.recased option r'
    rw [parse?, ← found]
    exact again.parseChars?
  | true =>
    have also : IsWrapped other := alike.mp ⟨p, t, spells, option, whole⟩
    obtain ⟨q, again, -, found⟩ := spells.recased_wrapped option r' also
    rw [parse?, ← found]
    exact again.parseChars?

/-- **Letter case matters for the opening of the wrapped form only.** -/
theorem parse?_eq_iff_of_recased (r : Recased declared.toList other.toList) :
    parse? declared = parse? other ↔ (IsWrapped declared ↔ IsWrapped other) := by
  constructor
  · intro same
    -- what is wrapped declares a type, hence so does the other text
    have read : ∀ {d : String}, IsWrapped d → ∃ t, parse? d = some t := by
      rintro d ⟨p, t, spells, -, whole⟩
      exact ⟨t, by rw [parse?, ← whole, spells.parseChars?]⟩
    constructor
    · intro wrapped
      obtain ⟨t, found⟩ := read wrapped
      exact wrapped.recased r (same ▸ found)
    · intro wrapped
      obtain ⟨t, found⟩ := read wrapped
      exact wrapped.recased r.symm (same ▸ found)
  · intro alike
    ext t
    exact ⟨parse?_of_recased r alike, parse?_of_recased r.symm alike.symm⟩

end FieldType

/-! ### Shapes -/

/-- The declarations differ in the letter case of their types at most. -/
structure FieldDeclaration.Recased (d e : FieldDeclaration) : Prop where
  name : d.name = e.name
  type : d.type.toLower = e.type.toLower
  required : d.required = e.required
  isStatic : d.isStatic = e.isStatic

/-- The shapes differ in the letter case of declared types at most. -/
structure Shape.Recased (p q : Shape) : Prop where
  name : p.name = q.name
  fields : List.Forall₂ FieldDeclaration.Recased p.fields q.fields

/-- The schema of a shape has the types that are read. -/
theorem Shape.map_parse?_kept {p : Shape} {options : Options} {s : Schema}
    (made : Schema.ofShape p options = .ok s) :
    p.kept.map (fun d => FieldType.parse? d.type) = s.types.map some := by
  obtain ⟨ds, extracted, made⟩ := Schema.ofShape_eq_ok_iff.mp made
  obtain ⟨rfl, -, typed⟩ := Schema.ofDescriptors_eq_ok_iff.mp made
  have types := Schema.typesOf_eq_ok_iff.mp typed
  rw [(extract_eq_ok extracted).1] at types
  calc p.kept.map (fun d => FieldType.parse? d.type)
      = (p.kept.map (·.type)).map FieldType.parse? := by rw [List.map_map]; rfl
    _ = (numbered 0 p.kept).map (fun d => FieldType.parse? d.type) := by
      rw [← map_type_numbered 0 p.kept, List.map_map]
      rfl
    _ = s.types.map some := types

/-- Both declarations mark their types by `Option<…>`, or neither does. -/
def FieldDeclaration.WrappedAlike (d e : FieldDeclaration) : Prop :=
  FieldType.IsWrapped d.type ↔ FieldType.IsWrapped e.type

theorem FieldDeclaration.Recased.symm {d e : FieldDeclaration} (h : d.Recased e) : e.Recased d :=
  ⟨h.name.symm, h.type.symm, h.required.symm, h.isStatic.symm⟩

/-- Their types are recased texts. -/
theorem FieldDeclaration.Recased.texts {d e : FieldDeclaration} (h : d.Recased e) :
    Text.Recased d.type.toList e.type.toList := (Text.recased_iff_toLower _ _).mpr h.type

/-- Where all types are read, the wrapped forms are the same. -/
theorem FieldDeclaration.wrappedAlike_of_read {ds es : List FieldDeclaration}
    (r : List.Forall₂ FieldDeclaration.Recased ds es)
    (left : ∀ d ∈ ds, ∃ t, FieldType.parse? d.type = some t)
    (right : ∀ e ∈ es, ∃ t, FieldType.parse? e.type = some t) :
    List.Forall₂ FieldDeclaration.WrappedAlike ds es := by
  induction r with
  | nil => exact .nil
  | cons one rest ih =>
    obtain ⟨⟨t, read⟩, left⟩ := List.forall_mem_cons.mp left
    obtain ⟨⟨u, read'⟩, right⟩ := List.forall_mem_cons.mp right
    exact .cons ⟨fun wrapped => wrapped.recased one.texts read',
      fun wrapped => wrapped.recased one.symm.texts read⟩ (ih left right)

namespace Shape.Recased

variable {p q : Shape} {options : Options} {s t : Schema}

theorem symm (h : p.Recased q) : q.Recased p :=
  ⟨h.name.symm, List.Forall₂.flip (h.fields.imp fun _ _ r => r.symm)⟩

/-- The same declarations are kept. -/
theorem kept (h : p.Recased q) : List.Forall₂ FieldDeclaration.Recased p.kept q.kept := by
  refine List.rel_filter (fun d e r => ?_) h.fields
  show (!d.isStatic) = true ↔ (!e.isStatic) = true
  rw [r.isStatic]

theorem names_eq (h : p.Recased q) : p.kept.map (·.name) = q.kept.map (·.name) :=
  List.forall₂_eq_eq_eq ▸ List.rel_map (fun _ _ r => FieldDeclaration.Recased.name r) h.kept

/-- With the same wrapped forms the same types are read. -/
theorem map_parse?_eq (h : p.Recased q)
    (alike : List.Forall₂ FieldDeclaration.WrappedAlike p.kept q.kept) :
    p.kept.map (fun d => FieldType.parse? d.type) =
      q.kept.map fun d => FieldType.parse? d.type := by
  rw [← List.forall₂_eq_eq_eq, List.forall₂_map_left_iff, List.forall₂_map_right_iff]
  refine h.kept.mp (fun d e r wrapped => ?_) alike
  exact (FieldType.parse?_eq_iff_of_recased (FieldDeclaration.Recased.texts r)).mpr wrapped

/-- Once the first shape has a schema, it depends on the types alone whether the second has one. -/
theorem exists_ofShape_iff (h : p.Recased q) (made : Schema.ofShape p options = .ok s) :
    (∃ t, Schema.ofShape q options = .ok t) ↔
      ∀ type ∈ q.kept.map (·.type), ∃ t, FieldType.parse? type = some t := by
  -- All other conditions for a schema are about names and numbers of fields, which are the same.
  obtain ⟨⟨named, fit, nodup, within⟩, methods, -⟩ := Shape.exists_ofShape_iff.mp ⟨s, made⟩
  have lengths : p.kept.length = q.kept.length := h.kept.length_eq
  have names : p.methodNames options = q.methodNames options := by
    rw [methodNames, methodNames, h.names_eq]
  rw [names] at methods
  rw [Shape.exists_ofShape_iff]
  refine ⟨fun all => all.2.2, fun types => ⟨⟨?_, ?_, ?_, ?_⟩, methods, types⟩⟩
  · rw [← h.name]
    exact named
  · have all : ∀ n ∈ p.kept.map (·.name), Name.isFieldName n = true :=
      List.forall_mem_map.mpr fit
    rw [h.names_eq] at all
    exact List.forall_mem_map.mp all
  · rw [← h.names_eq]
    exact nodup
  · intro greatest limit
    rw [← lengths]
    exact within greatest limit

/-- It does iff the wrapped forms are the same. -/
theorem exists_ofShape_iff_wrappedAlike (h : p.Recased q)
    (made : Schema.ofShape p options = .ok s) :
    (∃ t, Schema.ofShape q options = .ok t) ↔
      List.Forall₂ FieldDeclaration.WrappedAlike p.kept q.kept := by
  have read : ∀ type ∈ p.kept.map (·.type), ∃ t, FieldType.parse? type = some t :=
    (Shape.exists_ofShape_iff.mp ⟨s, made⟩).2.2
  rw [h.exists_ofShape_iff made]
  constructor
  · intro also
    exact FieldDeclaration.wrappedAlike_of_read h.kept
      (fun d kept => read _ (List.mem_map_of_mem kept))
      fun e kept => also _ (List.mem_map_of_mem kept)
  · intro alike
    have texts := h.map_parse?_eq alike
    rw [map_parse?_kept made] at texts
    intro type member
    -- what is read of the type is among the types of the first schema
    obtain ⟨e, declared, rfl⟩ := List.mem_map.mp member
    have found : FieldType.parse? e.type ∈ s.types.map some := texts ▸ List.mem_map_of_mem declared
    obtain ⟨t, -, same⟩ := List.mem_map.mp found
    exact ⟨t, same.symm⟩

/-- If both have schemas, these have the same types. -/
theorem types_eq (h : p.Recased q) (made : Schema.ofShape p options = .ok s)
    (made' : Schema.ofShape q options = .ok t) : s.types = t.types := by
  have alike := (h.exists_ofShape_iff_wrappedAlike made).mp ⟨t, made'⟩
  have texts := h.map_parse?_eq alike
  rw [map_parse?_kept made, map_parse?_kept made'] at texts
  exact List.map_injective_iff.mpr (fun _ _ => Option.some.inj) texts

end Shape.Recased

/-- **Declared types in another letter case.**  Two texts that differ in the case of ASCII letters
are read alike iff both mark a type by `Option<…>` or neither does.

Let two shapes differ in the case of their declared types.  If one has a schema, the other one has
iff the wrapped forms are in the same places, and then both schemas have the same types.  With the
wrapped forms in the same places both have a schema or neither has. -/
theorem FieldType.recased_iff {declared other : String} {p q : Shape} (options : Options)
    (same : declared.toLower = other.toLower) (recased : p.Recased q) :
    (parse? declared = parse? other ↔ (IsWrapped declared ↔ IsWrapped other)) ∧
      (∀ s, Schema.ofShape p options = .ok s →
        ((∃ t, Schema.ofShape q options = .ok t) ↔
          List.Forall₂ FieldDeclaration.WrappedAlike p.kept q.kept) ∧
        ∀ t, Schema.ofShape q options = .ok t → s.types = t.types) ∧
      (List.Forall₂ FieldDeclaration.WrappedAlike p.kept q.kept →
        ((∃ s, Schema.ofShape p options = .ok s) ↔ ∃ t, Schema.ofShape q options = .ok t)) := by
  refine ⟨parse?_eq_iff_of_recased ((Text.recased_iff_toLower _ _).mpr same),
    fun s made => ?_, fun alike => ?_⟩
  · exact ⟨recased.exists_ofShape_iff_wrappedAlike made, fun t => recased.types_eq made⟩
  · have back : List.Forall₂ FieldDeclaration.WrappedAlike q.kept p.kept :=
      List.Forall₂.flip (alike.imp fun _ _ => Iff.symm)
    constructor
    · rintro ⟨s, made⟩
      exact (recased.exists_ofShape_iff_wrappedAlike made).mpr alike
    · rintro ⟨t, made⟩
      exact (recased.symm.exists_ofShape_iff_wrappedAlike made).mpr back

/-- A shape of one field. -/
def Shape.ageOf (type : String) : Shape := ⟨"Dog", [⟨"age", type, false, false⟩]⟩

theorem Shape.recased_ageOf {type type' : String} (same : type.toLower = type'.toLower) :
    (ageOf type).Recased (ageOf type') := ⟨rfl, .cons ⟨rfl, same, rfl, rfl⟩ .nil⟩

/-- A name can be recased, within the wrapped form too; the form itself cannot. -/
theorem FieldType.recased_iff_int :
    (IsWrapped "Option<INT>" ↔ IsWrapped "Option<int>") ∧
      (∃ s t, Schema.ofShape (.ageOf "Option<INT>") {} = .ok s ∧
        Schema.ofShape (.ageOf "Option<int>") {} = .ok t ∧ s.types = t.types) ∧
      ¬ ∃ t, Schema.ofShape (.ageOf "option<int>") {} = .ok t := by
  have same : "Option<INT>".toLower = "Option<int>".toLower :=
    (Text.recased_iff_toLower _ _).mp (by decide)
  have same' : "Option<INT>".toLower = "option<int>".toLower :=
    (Text.recased_iff_toLower _ _).mp (by decide)
  have read : parse? "Option<INT>" = parse? "Option<int>" := by decide
  have unread : parse? "Option<INT>" ≠ parse? "option<int>" := by decide
  obtain ⟨s, made⟩ : ∃ s, Schema.ofShape (.ageOf "Option<INT>") {} = .ok s :=
    ⟨⟨⟨"Dog", [⟨"age", "Option<INT>", false, 0⟩]⟩, ⟨"Dog", "DogBuilder",
      [⟨"age", "with_age", "is_age_set", "Option<INT>", 0, false⟩], [], [0], requiredReason, []⟩,
      [⟨.int, true⟩]⟩, by decide⟩
  obtain ⟨texts, shapes, -⟩ := recased_iff {} same (Shape.recased_ageOf same)
  obtain ⟨texts', shapes', -⟩ := recased_iff {} same' (Shape.recased_ageOf same')
  have alike := texts.mp read
  obtain ⟨recased, types⟩ := shapes s made
  obtain ⟨t, made'⟩ := recased.mpr (.cons alike .nil)
  refine ⟨alike, ⟨s, t, made, made', types t made'⟩, fun accepted => ?_⟩
  have forms := (shapes' s made).1.mp accepted
  cases forms with
  | cons also rest => exact unread (texts'.mpr also)

/-- Letter case matters after all: no capital may be lacking in the opening of the wrapped form. -/
theorem FieldType.exists_parse?_ne_of_recased :
    ¬ ∀ declared other : String, declared.toLower = other.toLower →
      parse? declared = parse? other := by
  intro all
  have same : parse? "Option<int>" = parse? "option<int>" :=
    all _ _ ((Text.recased_iff_toLower _ _).mp (by decide))
  exact absurd same (by decide)

end Recordwright
