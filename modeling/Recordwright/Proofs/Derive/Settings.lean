import Recordwright.Proofs.Derive.Values

/-!
# Marks and settings

A field is marked by its entries, whatever their order and however often a mark is given.  The last
entry of a setting decides its value.  How entries are grouped does not matter to either, and the
order of entries matters only where one setting is given twice (`entries_regrouped`).
-/

namespace Recordwright

open Source

namespace FieldDefinition

open Entry

variable {f g : Field} {a : FieldDefinition} {es es' : List Written}

/-- The word is one of the entries. -/
def Occurs (w : String) (es : List Written) : Prop := ∃ e ∈ es, e.Is w

/-- The field is left out of the builder: by an entry, or by its type. -/
def LeftOut (f : Field) (es : List Written) : Prop :=
  Occurs "skip" es ∨ f.type.isPhantom = true

/-- The field may be declared with these entries. -/
structure Admissible (f : Field) (es : List Written) : Prop where
  notReserved : f.ident.isWord stateField = false
  known : ∀ e ∈ es, e.Is "required" ∨ e.Is "skip"
  consistent : ¬(Occurs "required" es ∧ LeftOut f es)

/-- What a field with these entries tells. -/
structure Tells (f : Field) (es : List Written) (a : FieldDefinition) : Prop where
  ident : a.ident = f.ident
  type : a.type = f.type
  required : a.required = true ↔ Occurs "required" es
  skipped : a.skipped = true ↔ LeftOut f es

theorem mem_required {marks : List FieldMark}
    (read : es.mapM (Written.meaning fieldMark) = .ok marks) :
    FieldMark.required ∈ marks ↔ Occurs "required" es := by
  simp [mem_iff_of_mapM_meaning read, meaning_fieldMark_eq_ok, Occurs]

theorem mem_skip {marks : List FieldMark}
    (read : es.mapM (Written.meaning fieldMark) = .ok marks) :
    FieldMark.skip ∈ marks ↔ Occurs "skip" es := by
  simp [mem_iff_of_mapM_meaning read, meaning_fieldMark_eq_ok, Occurs]

/-- The marks that are read are the entries that occur. -/
theorem tells_ofMarks {marks : List FieldMark}
    (read : es.mapM (Written.meaning fieldMark) = .ok marks) :
    Tells f es (ofMarks f.ident f.type marks) where
  ident := rfl
  type := rfl
  required := List.contains_iff_mem.trans (mem_required read)
  skipped := Bool.or_eq_true_iff.trans
    (or_congr_left (List.contains_iff_mem.trans (mem_skip read)))

/-- What is told leaves nothing open. -/
theorem Tells.unique {c : FieldDefinition} (ha : Tells f es a) (hc : Tells f es c) : a = c := by
  obtain ⟨ident, type, required, skipped⟩ := a
  obtain ⟨ident', type', required', skipped'⟩ := c
  obtain rfl : ident = ident' := ha.ident.trans hc.ident.symm
  obtain rfl : type = type' := ha.type.trans hc.type.symm
  obtain rfl : required = required' := Bool.eq_iff_iff.mpr (ha.required.trans hc.required.symm)
  obtain rfl : skipped = skipped' := Bool.eq_iff_iff.mpr (ha.skipped.trans hc.skipped.symm)
  rfl

/-- A field is read iff its entries are admissible, and it tells what they say. -/
theorem ofField_eq_ok_iff (held : Holds f.attributes es) :
    ofField f = .ok a ↔ Admissible f es ∧ Tells f es a := by
  have known : (∃ marks, es.mapM (Written.meaning fieldMark) = .ok marks) ↔
      ∀ e ∈ es, e.Is "required" ∨ e.Is "skip" := by
    simp [exists_mapM_meaning, meaning_fieldMark_eq_ok, exists_or]
  rw [ofField_eq_ok, ofAttributes_eq_mapM held steady_fieldMark]
  constructor
  · rintro ⟨free, marks, read, consistent, rfl⟩
    have tells := tells_ofMarks (f := f) read
    rw [tells.required, tells.skipped] at consistent
    exact ⟨⟨free, known.mp ⟨marks, read⟩, consistent⟩, tells⟩
  · rintro ⟨⟨free, entries, consistent⟩, tells⟩
    obtain ⟨marks, read⟩ := known.mpr entries
    rw [← tells.required, ← tells.skipped] at consistent
    exact ⟨free, marks, read, consistent, tells.unique (tells_ofMarks read)⟩

/-- Neither order nor number of the entries matters to whether a word occurs. -/
theorem occurs_congr (same : ∀ e, e ∈ es' ↔ e ∈ es) (w : String) :
    Occurs w es' ↔ Occurs w es := by
  simp only [Occurs, same]

/-- Fields with one name and one type and the same entries say the same. -/
theorem ofField_congr (hf : Holds f.attributes es) (hg : Holds g.attributes es')
    (ident : g.ident = f.ident) (type : g.type = f.type) (same : ∀ e, e ∈ es' ↔ e ∈ es) :
    ofField g = .ok a ↔ ofField f = .ok a := by
  have leftOut : LeftOut g es' ↔ LeftOut f es := by
    rw [LeftOut, LeftOut, occurs_congr same, type]
  rw [ofField_eq_ok_iff hf, ofField_eq_ok_iff hg]
  constructor
  · rintro ⟨⟨free, known, consistent⟩, tells⟩
    exact ⟨⟨ident ▸ free, fun e member => known e ((same e).mpr member),
        by rwa [occurs_congr same, leftOut] at consistent⟩,
      ⟨tells.ident.trans ident, tells.type.trans type,
        tells.required.trans (occurs_congr same _), tells.skipped.trans leftOut⟩⟩
  · rintro ⟨⟨free, known, consistent⟩, tells⟩
    exact ⟨⟨ident ▸ free, fun e member => known e ((same e).mp member),
        by rwa [occurs_congr same, leftOut]⟩,
      ⟨tells.ident.trans ident.symm, tells.type.trans type.symm,
        tells.required.trans (occurs_congr same _).symm, tells.skipped.trans leftOut.symm⟩⟩

end FieldDefinition

/-- The word that gives a setting. -/
def Setting.key : Setting → String
  | .builderName _ => "builder"
  | .builderSuffix _ => "builder_suffix"
  | .setterLead _ => "setter_prefix"
  | .maxFields _ => "max_fields"
  | .library _ => "crate"

namespace Entry

variable {es : List Written} {ss : List Setting} {β σ : Type} {read : Written → Option β}
  {w : String}

/-- The last entry with this word. -/
def lastNamed (w : String) (es : List Written) : Option Written :=
  (es.filter (·.path.isWord w)).getLast?

/-- The value of the last entry with this word. -/
def finalValue (read : Written → Option β) (w : String) (es : List Written) : Option β :=
  (lastNamed w es).bind read

theorem lastNamed_cons_of_isWord {e : Written} (h : e.path.isWord w = true) :
    lastNamed w (e :: es) = some ((lastNamed w es).getD e) := by
  rw [lastNamed, List.filter_cons, if_pos h, List.getLast?_cons]
  rfl

theorem lastNamed_cons_of_not_isWord {e : Written} (h : e.path.isWord w = false) :
    lastNamed w (e :: es) = lastNamed w es := by
  rw [lastNamed, List.filter_cons, if_neg (ne_true_of_eq_false h)]
  rfl

theorem Written.Gives.isWord {e : Written} {s : Setting} (h : e.Gives s) :
    e.path.isWord s.key = true := by
  cases h with
  | _ key value => exact key

/-- The last entry with a word decides what is kept of the settings. -/
theorem foldl_eq_finalValue (apply : σ → Setting → σ) (get : σ → β) (w : String)
    (read : Written → Option β)
    (named : ∀ {e s} o, Written.Gives e s → s.key = w → read e = some (get (apply o s)))
    (others : ∀ {s} o, s.key ≠ w → get (apply o s) = get o)
    (given : List.Forall₂ Written.Gives es ss) (o : σ) :
    get (ss.foldl apply o) = (finalValue read w es).getD (get o) := by
  -- On the entries from the front: what is kept from before gives way to each entry with the word.
  have settled : (lastNamed w es = none → get (ss.foldl apply o) = get o) ∧
      ∀ e, lastNamed w es = some e → read e = some (get (ss.foldl apply o)) := by
    induction given generalizing o with
    | nil => exact ⟨fun _ => rfl, fun e last => by cases last⟩
    | @cons e s es ss first rest ih =>
      obtain ⟨kept, last⟩ := ih (apply o s)
      rw [List.foldl_cons]
      cases word : e.path.isWord w with
      | false =>
        rw [lastNamed_cons_of_not_isWord word]
        have other : s.key ≠ w := fun same =>
          Bool.false_ne_true (word.symm.trans (same ▸ first.isWord))
        exact ⟨fun h => (kept h).trans (others o other), last⟩
      | true =>
        rw [lastNamed_cons_of_isWord word]
        refine ⟨fun h => absurd h (Option.some_ne_none _), fun e' h => ?_⟩
        cases later : lastNamed w es with
        | none =>
          -- this entry is the last one with the word
          obtain rfl : e = e' := by simpa [later] using h
          rw [kept later]
          exact named o first (isWord_unique first.isWord word)
        | some e'' =>
          obtain rfl : e'' = e' := by simpa [later] using h
          exact last e'' later
  unfold finalValue
  cases last : lastNamed w es with
  | none => exact settled.1 last
  | some e =>
    rw [Option.bind_some, settled.2 e last]
    rfl

/-- What is made of the value of the last entry. -/
theorem finalValue_map {γ : Type} (f : β → γ) :
    finalValue (fun e => (read e).map f) w es = (finalValue read w es).map f := by
  unfold finalValue
  cases lastNamed w es with
  | none => rfl
  | some e => rfl

end Entry

namespace Definition

open Entry (finalValue lastNamed Holds)

variable {x y : Item} {d : Definition} {es es' : List Entry.Written} {ss : List Setting}

/-- The options that entries give: each by its last entry, or else the default. -/
def optionsOf (es : List Entry.Written) : Options where
  builderSuffix :=
    (finalValue Entry.Written.text? "builder_suffix" es).getD ({} : Options).builderSuffix
  builderName := finalValue Entry.Written.text? "builder" es
  setterLead := (finalValue Entry.Written.text? "setter_prefix" es).getD ({} : Options).setterLead
  limits := ⟨finalValue Entry.Written.size? "max_fields" es⟩

/-- The path of the library that entries give. -/
def libraryOf (es : List Entry.Written) : Path :=
  (finalValue Entry.Written.library? "crate" es).getD defaultLibrary

/-- The path of the library is that of the last entry that gives one. -/
theorem foldl_applyLibrary (given : List.Forall₂ Entry.Written.Gives es ss) :
    ss.foldl applyLibrary defaultLibrary = libraryOf es := by
  refine Entry.foldl_eq_finalValue applyLibrary id "crate" _ ?_ ?_ given defaultLibrary
  · intro e s o gives key
    cases gives with
    | library word value => exact value
    | _ word value => exact absurd key (by simp [Setting.key])
  · intro s o other
    cases s with
    | library p => exact absurd rfl other
    | _ => rfl

/-- Each option is that of the last entry that gives it. -/
theorem foldl_applyOption (given : List.Forall₂ Entry.Written.Gives es ss) :
    ss.foldl applyOption {} = optionsOf es := by
  have suffix := Entry.foldl_eq_finalValue applyOption Options.builderSuffix "builder_suffix"
    Entry.Written.text?
    (fun o gives key => by
      cases gives <;> simp_all [Setting.key, applyOption, Options.withBuilderSuffix])
    (fun {s} o other => by cases s <;> first | rfl | exact absurd rfl other) given {}
  have lead := Entry.foldl_eq_finalValue applyOption Options.setterLead "setter_prefix"
    Entry.Written.text?
    (fun o gives key => by
      cases gives <;> simp_all [Setting.key, applyOption, Options.withSetterLead])
    (fun {s} o other => by cases s <;> first | rfl | exact absurd rfl other) given {}
  have name := Entry.foldl_eq_finalValue applyOption Options.builderName "builder"
    (fun e => e.text?.map some)
    (fun o gives key => by
      cases gives <;> simp_all [Setting.key, applyOption, Options.withBuilderName])
    (fun {s} o other => by cases s <;> first | rfl | exact absurd rfl other) given {}
  have limits := Entry.foldl_eq_finalValue applyOption Options.limits "max_fields"
    (fun e => e.size?.map fun n => ⟨some n⟩)
    (fun o gives key => by
      cases gives <;> simp_all [Setting.key, applyOption, Options.withMaxFields])
    (fun {s} o other => by cases s <;> first | rfl | exact absurd rfl other) given {}
  -- These two are given under `some`: without an entry the default is none at all.
  rw [Entry.finalValue_map] at name limits
  have name' : (ss.foldl applyOption {}).builderName = (optionsOf es).builderName := by
    rw [name, optionsOf]
    cases finalValue Entry.Written.text? "builder" es with
    | none => rfl
    | some name => rfl
  have limits' : (ss.foldl applyOption {}).limits = (optionsOf es).limits := by
    rw [limits, optionsOf]
    cases finalValue Entry.Written.size? "max_fields" es with
    | none => rfl
    | some n => rfl
  have parts (o : Options) : o = ⟨o.builderSuffix, o.builderName, o.setterLead, o.limits⟩ := rfl
  rw [parts (ss.foldl applyOption {}), suffix, name', lead, limits']
  rfl

/-- What a struct with these entries and these fields is. -/
def ofEntries (x : Item) (es : List Entry.Written) (fields : List FieldDefinition) :
    Definition where
  ident := x.ident
  visibility := x.visibility
  generics := x.generics
  fields
  options := optionsOf es
  library := libraryOf es

/-- An item is read iff each of its entries gives a setting and its body is read. -/
theorem ofItem_eq_ok_iff (held : Holds x.attributes es) :
    ofItem x = .ok d ↔ (∀ e ∈ es, ∃ s, e.Gives s) ∧
      ∃ fields, fieldsOf x.body = .ok fields ∧ d = ofEntries x es fields := by
  have known : (∃ ss, es.mapM (Entry.Written.meaning Entry.setting) = .ok ss) ↔ _ :=
    Entry.exists_mapM_meaning
  simp only [Entry.meaning_setting_eq_ok] at known
  rw [ofItem_eq_ok, Entry.ofAttributes_eq_mapM held Entry.steady_setting, ← known]
  -- the settings that are read are those that the entries give, one by one
  have given {ss : List Setting} (read : es.mapM (Entry.Written.meaning Entry.setting) = .ok ss) :
      List.Forall₂ Entry.Written.Gives es ss :=
    (mapM_eq_ok.mp read).imp fun e s => Entry.meaning_setting_eq_ok.mp
  constructor
  · rintro ⟨settings, fields, read, body, rfl⟩
    refine ⟨⟨settings, read⟩, fields, body, ?_⟩
    rw [foldl_applyOption (given read), foldl_applyLibrary (given read)]
    rfl
  · rintro ⟨⟨settings, read⟩, fields, body, rfl⟩
    refine ⟨settings, fields, read, body, ?_⟩
    rw [foldl_applyOption (given read), foldl_applyLibrary (given read)]
    rfl

/-- Entries in another order: those with one word keep theirs. -/
structure Reordered (es es' : List Entry.Written) : Prop where
  perm : es'.Perm es
  byWord : ∀ w, es'.filter (·.path.isWord w) = es.filter (·.path.isWord w)

/-- Neighbours with different words may change places. -/
theorem reordered_swap {e e' : Entry.Written}
    (apart : ∀ w, e.path.isWord w = true → e'.path.isWord w = false)
    (before after : List Entry.Written) :
    Reordered (before ++ e :: e' :: after) (before ++ e' :: e :: after) where
  perm := (List.Perm.swap e e' after).append_left before
  byWord w := by
    rw [List.filter_append, List.filter_append]
    congr 1
    cases word : e.path.isWord w with
    | false => simp [List.filter_cons, word]
    | true => simp [word, apart w word]

/-- Items whose entries are reordered are read alike. -/
theorem ofItem_congr (hx : Holds x.attributes es) (hy : Holds y.attributes es')
    (rest : y = { x with attributes := y.attributes }) (reordered : Reordered es es') :
    ofItem y = .ok d ↔ ofItem x = .ok d := by
  have last (w : String) : lastNamed w es' = lastNamed w es := by
    rw [lastNamed, lastNamed, reordered.byWord]
  have options : optionsOf es' = optionsOf es := by
    simp only [optionsOf, finalValue, last]
  have library : libraryOf es' = libraryOf es := by
    simp only [libraryOf, finalValue, last]
  rw [ofItem_eq_ok_iff hx, ofItem_eq_ok_iff hy, rest]
  simp only [ofEntries, options, library, reordered.perm.mem_iff]

/-- **Order and grouping of entries.**  Let the attributes of two fields and of two structs hold
entries, in whatever groups and among whatever other attributes.

* A field is read iff its entries are `required` and `skip`, it is not the reserved one, and it is
  not both required and left out.  It is required iff `required` occurs somewhere, and skipped iff
  `skip` does or its type is a marker.  Fields with one name and one type are read alike if the same
  entries occur, in any order and any number; with the same list they fail alike, too.
* A struct is read iff each entry gives a setting and its body is read.  Each option and the path of
  the library are those of its last entry, or else the default.  Structs that differ in attributes
  are read alike if those of their entries that have one word stand in one order; with the same list
  they fail alike, too. -/
theorem entries_regrouped {f g : Field} {es es' : List Entry.Written}
    {us us' : List Entry.Written} (hf : Holds f.attributes es) (hg : Holds g.attributes es')
    (hx : Holds x.attributes us) (hy : Holds y.attributes us') :
    ((∀ a, FieldDefinition.ofField f = .ok a ↔
        FieldDefinition.Admissible f es ∧ FieldDefinition.Tells f es a) ∧
      (g.ident = f.ident → g.type = f.type →
        (es' = es → FieldDefinition.ofField g = FieldDefinition.ofField f) ∧
        ((∀ e, e ∈ es' ↔ e ∈ es) → ∀ a,
          FieldDefinition.ofField g = .ok a ↔ FieldDefinition.ofField f = .ok a))) ∧
    ((∀ d, ofItem x = .ok d ↔ (∀ e ∈ us, ∃ s, e.Gives s) ∧
        ∃ fields, fieldsOf x.body = .ok fields ∧ d = ofEntries x us fields) ∧
      (y = { x with attributes := y.attributes } →
        (us' = us → ofItem y = ofItem x) ∧
        (Reordered us us' → ∀ d, ofItem y = .ok d ↔ ofItem x = .ok d))) := by
  refine ⟨⟨fun a => FieldDefinition.ofField_eq_ok_iff hf, fun ident type => ⟨?_, ?_⟩⟩,
    fun d => ofItem_eq_ok_iff hx, fun rest => ⟨?_, ?_⟩⟩
  · rintro rfl
    rw [FieldDefinition.ofField, FieldDefinition.ofField, ident, type,
      Entry.ofAttributes_eq_mapM hf Entry.steady_fieldMark,
      Entry.ofAttributes_eq_mapM hg Entry.steady_fieldMark]
  · intro same a
    exact FieldDefinition.ofField_congr hf hg ident type same
  · rintro rfl
    rw [rest]
    rw [ofItem, ofItem, Entry.ofAttributes_eq_mapM hx Entry.steady_setting,
      Entry.ofAttributes_eq_mapM hy Entry.steady_setting]
  · intro reordered d
    exact ofItem_congr hx hy rest reordered

section Kennel

/-- The path of a plain word. -/
def wordPath (w : String) (h : Text.current.isIdentifier w = true) : Path := .ofIdent ⟨false, w, h⟩

theorem isPlain_wordPath (w : String) (h : Text.current.isIdentifier w = true) :
    Entry.IsPlain (wordPath w h) where
  segments_ne_nil := List.cons_ne_nil _ _
  arguments_eq_none := List.forall_mem_singleton.mpr rfl

def requiredEntry : Entry.Written := ⟨wordPath "required" (by decide), []⟩

/-- A word and a literal behind an equals sign. -/
def valueEntry (w spelling : String) (h : Text.current.isIdentifier w = true) : Entry.Written :=
  ⟨wordPath w h, [.punct '=' false, .literal spelling]⟩

def builderEntry (spelling : String) : Entry.Written := valueEntry "builder" spelling (by decide)

def mostEntry : Entry.Written := valueEntry "max_fields" "4" (by decide)

theorem wellFormed_requiredEntry : requiredEntry.WellFormed :=
  ⟨isPlain_wordPath _ _, .nothing⟩

theorem wellFormed_valueEntry (w spelling : String) (h : Text.current.isIdentifier w = true) :
    (valueEntry w spelling h).WellFormed := by
  refine ⟨isPlain_wordPath w h, .value false (List.cons_ne_nil _ _) ?_⟩
  intro found rest read
  cases read
  rfl

/-- An attribute with entries. -/
def recordAttribute (content : List Token) : Attribute :=
  ⟨wordPath "record" (by decide), .list .parenthesis content⟩

def noteAttribute : Attribute := ⟨wordPath "doc" (by decide), .value [quotedToken "kept"]⟩

theorem isIdentifier_name : Text.current.isIdentifier "name" = true := by decide

def kennelField (attributes : List Attribute) : Field :=
  ⟨attributes, .inherited, ⟨false, "name", isIdentifier_name⟩, StorageType.text.ty⟩

def kennelItem (attributes : List Attribute) : Item where
  attributes
  visibility := .inherited
  ident := ⟨false, "Kennel", by decide⟩
  generics := {}
  body := .unit

def comma : Token := .punct ',' false

/-- A field that is required twice, and a struct whose builder is named twice, with other attributes
in between: the field is required, and the last name stays when the entries are put together and
the number of fields is given first. -/
theorem entries_regrouped_kennel :
    let f := kennelField [recordAttribute requiredEntry.tokens, noteAttribute,
      recordAttribute (requiredEntry.tokens ++ [comma])]
    let g := kennelField [recordAttribute requiredEntry.tokens]
    let x := kennelItem [
      recordAttribute ((builderEntry "\"Den\"").tokens ++ comma :: mostEntry.tokens),
      noteAttribute, recordAttribute ((builderEntry "\"Pen\"").tokens ++ [comma])]
    let y := kennelItem [recordAttribute (mostEntry.tokens ++ comma ::
      ((builderEntry "\"Den\"").tokens ++ comma :: (builderEntry "\"Pen\"").tokens))]
    (∃ a, FieldDefinition.ofField f = .ok a ∧ FieldDefinition.ofField g = .ok a ∧
      a.required = true ∧ a.skipped = false) ∧
    ∃ d, ofItem x = .ok d ∧ ofItem y = .ok d ∧ d.options.builderName = some "Pen" ∧
      d.options.limits.maxFields = some 4 := by
  intro f g x y
  have hf : Holds f.attributes [requiredEntry, requiredEntry] :=
    .record rfl .parenthesis (.last wellFormed_requiredEntry) (.other rfl
      (.record rfl .parenthesis (.cons wellFormed_requiredEntry false .nil) .nil))
  have hg : Holds g.attributes [requiredEntry] :=
    .record rfl .parenthesis (.last wellFormed_requiredEntry) .nil
  have hx : Holds x.attributes [builderEntry "\"Den\"", mostEntry, builderEntry "\"Pen\""] :=
    .record rfl .parenthesis
      (.cons (wellFormed_valueEntry _ _ _) false (.last (wellFormed_valueEntry _ _ _))) (.other rfl
      (.record rfl .parenthesis (.cons (wellFormed_valueEntry _ _ _) false .nil) .nil))
  have hy : Holds y.attributes [mostEntry, builderEntry "\"Den\"", builderEntry "\"Pen\""] :=
    .record rfl .parenthesis (.cons (wellFormed_valueEntry _ _ _) false
      (.cons (wellFormed_valueEntry _ _ _) false (.last (wellFormed_valueEntry _ _ _)))) .nil
  obtain ⟨⟨field, fields⟩, item, items⟩ := entries_regrouped hf hg hx hy
  constructor
  · have required : ∀ e ∈ [requiredEntry, requiredEntry], e = requiredEntry := by simp
    have unskipped : ¬FieldDefinition.LeftOut f [requiredEntry, requiredEntry] := by
      rintro (⟨e, member, skip, -⟩ | phantom)
      · rw [required e member] at skip
        exact absurd skip (by decide)
      · exact absurd phantom (by decide)
    have read : FieldDefinition.ofField f = .ok ⟨f.ident, f.type, true, false⟩ :=
      (field _).mpr ⟨⟨by decide, fun e member => .inl (required e member ▸ ⟨by decide, rfl⟩),
          fun both => unskipped both.2⟩,
        rfl, rfl, iff_of_true rfl ⟨requiredEntry, List.mem_cons_self, by decide, rfl⟩,
        iff_of_false Bool.false_ne_true unskipped⟩
    exact ⟨_, read, ((fields rfl rfl).2 (by simp) _).mpr read, rfl, rfl⟩
  · have given : ∀ e ∈ [builderEntry "\"Den\"", mostEntry, builderEntry "\"Pen\""],
        ∃ s, e.Gives s := by
      simp only [List.forall_mem_cons]
      have den : (builderEntry "\"Den\"").text? = some "Den" := by decide +kernel
      have pen : (builderEntry "\"Pen\"").text? = some "Pen" := by decide +kernel
      exact ⟨⟨_, .builderName (by decide) den⟩, ⟨_, .maxFields rfl rfl⟩,
        ⟨_, .builderName (by decide) pen⟩, fun e member => (List.not_mem_nil member).elim⟩
    have read := (item _).mpr ⟨given, [], rfl, rfl⟩
    have reordered : Reordered [builderEntry "\"Den\"", mostEntry, builderEntry "\"Pen\""]
        [mostEntry, builderEntry "\"Den\"", builderEntry "\"Pen\""] := by
      refine reordered_swap (fun w builder => ?_) [] [builderEntry "\"Pen\""]
      obtain rfl : "builder" = w := eq_of_beq builder
      decide
    exact ⟨_, read, ((items rfl).2 reordered _).mpr read, by decide +kernel, by decide +kernel⟩

end Kennel

end Definition

end Recordwright
