import Recordwright.Proofs.Json.Reading
import Recordwright.Proofs.Json.Written

/-!
# Written values are read back

A value is written without blanks (`Tree.compact`), or with one element or member a line, indented
by its level (`Tree.pretty`).  Line breaks and indentation stand only where blanks may, so both
texts spell the value that they were written for (`Tree.Readable.spells_compact`,
`Tree.Readable.spells_pretty`).  Hence they are well formed and are read as this value
(`Tree.Readable.ofText_compact`, `Tree.Readable.ofText_pretty`).
-/

namespace Recordwright.Json.Tree

variable {t : Tree} {depth : Nat}

section

variable {es : List Tree} {ms : List (String × Tree)} {body : List Char} {text : Tree → List Char}

/-- Elements whose texts are made of them. -/
theorem Spells.array_map (listed : Listing Eq ']' true (es.map text) body)
    (each : ∀ e ∈ es, Spells (text e) e) : Spells ('[' :: body) (.array es) := by
  have pairs : ∀ e ∈ es.map fun e => (text e, e), Spells e.1 e.2 := List.forall_mem_map.mpr each
  have values : (es.map fun e => (text e, e)).map (·.2) = es := by
    rw [List.map_map]
    exact List.map_id es
  rw [← values]
  refine .array ?_ pairs
  rwa [List.map_map]

/-- Members whose texts are made of them. -/
theorem Spells.object_map
    (listed : Listing (SpellsEntry SpellsString) '\x7d' true (ms.map fun m => (m.1, text m.2)) body)
    (each : ∀ m ∈ ms, Spells (text m.2) m.2) : Spells ('\x7b' :: body) (.object ms) := by
  have triples : ∀ m ∈ ms.map fun m => (m.1, text m.2, m.2), Spells m.2.1 m.2.2 :=
    List.forall_mem_map.mpr each
  have values : (ms.map fun m => (m.1, text m.2, m.2)).map (fun m => (m.1, m.2.2)) = ms := by
    rw [List.map_map]
    exact List.map_id ms
  rw [← values]
  refine .object ?_ triples
  rwa [List.map_map]

end

/-! ### Without blanks -/

/-- **Written without blanks**, a readable value is spelled. -/
theorem Readable.spells_compact (h : t.Readable depth) : Spells (compactChars t) t := by
  induction h with
  | null => exact .null
  | bool b => exact .bool rfl
  | integer => exact .integer (spellsInteger_toString _)
  | string s => exact .string (spellsString_writtenText s)
  -- What is between the elements is a comma and no blanks; the brackets stand at once around them.
  | array _ ih =>
    rw [compactChars, compactElements_eq]
    exact Spells.array_map (listing_joined (List.forall₂_same.mpr fun _ _ => rfl)) ih
  | @object depth ms _ ih =>
    exact Spells.object_map (listing_joined (spellsEntries_compactMembers ms)) ih

/-- The reader of single values takes the text of a readable value, whatever follows it that cannot
go on with a number. -/
theorem Readable.reads_value {rest : List Char} (h : t.Readable depth) (ends : EndsNumber rest) :
    Reader.Reads (Reader.value depth) (compactChars t ++ rest) t rest := by
  have taken := h.spells_compact.takes_value h blank_nil ends
  rwa [List.nil_append] at taken

/-- A text that was written for a readable value holds this value. -/
theorem Readable.ofText_compact (h : t.Readable greatestDepth) : ofText t.compact = .ok t := by
  refine Spells.ofText ⟨[], compactChars t, [], blank_nil, h.spells_compact, blank_nil, ?_⟩ h
  rw [List.nil_append, List.append_nil]
  exact String.toList_ofList

/-! ### With line breaks -/

/-- A line break and the indentation behind it. -/
theorem blank_newline (level : Nat) : Blank (newline level) := by
  intro c member
  rcases List.mem_cons.mp member with rfl | member
  · decide
  · obtain rfl := List.eq_of_mem_replicate member
    decide

/-- Elements are written one by one. -/
theorem prettyElements_eq (level : Nat) (es : List Tree) :
    prettyElements level es = es.map (prettyChars level) := by
  induction es with
  | nil => rfl
  | cons e es ih => rw [prettyElements, List.map_cons, ih]

/-- A member with a blank behind its colon spells the member. -/
theorem spellsEntries_prettyMembers (level : Nat) (ms : List (String × Tree)) :
    List.Forall₂ (SpellsEntry SpellsString) (prettyMembers level ms)
      (ms.map fun m => (m.1, prettyChars level m.2)) := by
  have blank : Blank [' '] := by
    intro c member
    obtain rfl := List.mem_singleton.mp member
    decide
  induction ms with
  | nil => exact .nil
  | cons m ms ih =>
    rw [prettyMembers, List.append_assoc]
    exact .cons (.mk (spellsString_writtenText m.1) blank_nil blank) ih

/-- The elements of an array stand behind equal gaps. -/
theorem exists_prettyChars_array (level : Nat) (es : List Tree) :
    ∃ gap last, Blank gap ∧ Blank last ∧ prettyChars level (.array es) =
      '[' :: (gap ++ (joined (',' :: gap) (prettyElements (level + 1) es) ++ (last ++ [']']))) := by
  -- An empty array has no line break in it.
  cases es with
  | nil => exact ⟨[], [], blank_nil, blank_nil, rfl⟩
  | cons e es =>
    refine ⟨newline (level + 1), newline level, blank_newline _, blank_newline _, ?_⟩
    rw [prettyChars, List.append_assoc, List.append_assoc]

/-- The members of an object stand behind equal gaps. -/
theorem exists_prettyChars_object (level : Nat) (ms : List (String × Tree)) :
    ∃ gap last, Blank gap ∧ Blank last ∧ prettyChars level (.object ms) =
      '\x7b' :: (gap ++
        (joined (',' :: gap) (prettyMembers (level + 1) ms) ++ (last ++ ['\x7d']))) := by
  cases ms with
  | nil => exact ⟨[], [], blank_nil, blank_nil, rfl⟩
  | cons m ms =>
    refine ⟨newline (level + 1), newline level, blank_newline _, blank_newline _, ?_⟩
    rw [prettyChars, List.append_assoc, List.append_assoc]

/-- **Written with line breaks**, a readable value is spelled at every level. -/
theorem Readable.spells_pretty (h : t.Readable depth) (level : Nat) :
    Spells (prettyChars level t) t := by
  induction h generalizing level with
  | null => exact .null
  | bool b => exact .bool rfl
  | integer => exact .integer (spellsInteger_toString _)
  | string s => exact .string (spellsString_writtenText s)
  | @array depth es _ ih =>
    obtain ⟨gap, last, between, behind, text⟩ := exists_prettyChars_array level es
    rw [text, prettyElements_eq]
    exact Spells.array_map
      (listing_spread between behind (List.forall₂_same.mpr fun _ _ => rfl))
      fun e member => ih e member (level + 1)
  | @object depth ms _ ih =>
    obtain ⟨gap, last, between, behind, text⟩ := exists_prettyChars_object level ms
    rw [text]
    exact Spells.object_map
      (listing_spread between behind (spellsEntries_prettyMembers (level + 1) ms))
      fun m member => ih m member (level + 1)

/-- The text of a readable value with line breaks holds this value. -/
theorem Readable.ofText_pretty (h : t.Readable greatestDepth) : ofText t.pretty = .ok t := by
  refine Spells.ofText ⟨[], prettyChars 0 t, [], blank_nil, h.spells_pretty 0, blank_nil, ?_⟩ h
  rw [List.nil_append, List.append_nil]
  exact String.toList_ofList

end Recordwright.Json.Tree
