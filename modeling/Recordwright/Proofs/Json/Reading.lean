import Recordwright.Proofs.Json.Members

/-!
# Spelled values of any type are read

`Tree.Spells` relates a text to the JSON value that it spells: blanks may stand between any two
tokens, each character of a string has all of its spellings, and the members of an object are kept
in the order of the text.  What spells something is a well-formed value (`Tree.Spells.isValue`).

However a readable value is spelled, the reader of single values takes the text as this value
(`Tree.Spells.takes_value`), and so does the reader of whole texts (`Tree.Spells.ofText`).  The
induction is on how the text spells the value; it is the one of `IsValue.skips`, with the values
kept.
-/

namespace Recordwright.Json

open Reader

variable {text rest cs : List Char} {c : Char} {depth fuel : Nat}

/-! ### The form of what is spelled -/

theorem SpellsInteger.isNumber {n : Int} (h : SpellsInteger text n) : IsNumber text := by
  cases h with
  | natural numeral =>
    have number : IsNumber ([] ++ (_ ++ ([] ++ []))) := .mk (by decide) numeral .absent .absent
    simpa only [List.nil_append, List.append_nil] using number
  | negative numeral =>
    have number : IsNumber (['-'] ++ (_ ++ ([] ++ []))) := .mk (by decide) numeral .absent .absent
    simpa only [List.singleton_append, List.append_nil] using number

theorem SpellsChar.isStringBody (h : SpellsChar text c) (others : IsStringBody rest) :
    IsStringBody (text ++ rest) := by
  cases h with
  | self plain => exact .self plain others
  | letter escape => exact .letter escape others
  | number unit => exact .number unit others
  | pair leading trailing =>
    -- each half of a pair is an escape of its own
    rw [List.cons_append, List.cons_append, List.append_assoc]
    exact .number leading (.number trailing others)

theorem SpellsChars.isStringBody (h : SpellsChars text cs) : IsStringBody text := by
  induction h with
  | nil => exact .nil
  | cons first others ih => exact first.isStringBody ih

theorem SpellsString.isString {s : String} (h : SpellsString text s) : IsString text := by
  obtain ⟨chars⟩ := h
  exact .mk chars.isStringBody

/-- Entries whose keys are spelled are entries of the texts of these keys. -/
theorem Listing.exists_keys {first : Bool} {close : Char} {es : List (String × List Char)}
    (h : Listing (SpellsEntry SpellsString) close first es text) :
    ∃ ms : List (List Char × List Char), Listing (SpellsEntry Eq) close first ms text ∧
      (∀ m ∈ ms, IsString m.1) ∧ ms.map (·.2) = es.map (·.2) := by
  induction h with
  | close blank => exact ⟨[], .close blank, fun _ member => absurd member List.not_mem_nil, rfl⟩
  | first before one _ ih =>
    obtain ⟨ms, listed, keys, values⟩ := ih
    obtain ⟨said, colon, value⟩ := one
    exact ⟨(_, _) :: ms, .first before (.mk rfl colon value) listed,
      List.forall_mem_cons.mpr ⟨said.isString, keys⟩, congrArg (_ :: ·) values⟩
  | next after before one _ ih =>
    obtain ⟨ms, listed, keys, values⟩ := ih
    obtain ⟨said, colon, value⟩ := one
    exact ⟨(_, _) :: ms, .next after before (.mk rfl colon value) listed,
      List.forall_mem_cons.mpr ⟨said.isString, keys⟩, congrArg (_ :: ·) values⟩

namespace Tree

variable {t : Tree}

/-- A text and the value that it spells.  Elements and members come with their texts. -/
inductive Spells : List Char → Tree → Prop
  | null : Spells "null".toList .null
  | bool {b : Bool} {text : List Char} (spelled : SpellsBool text b) : Spells text (.bool b)
  | integer {n : Int} {text : List Char} (spelled : SpellsInteger text n) :
      Spells text (.number (.integer n))
  | string {s : String} {text : List Char} (spelled : SpellsString text s) : Spells text (.string s)
  | array {es : List (List Char × Tree)} {body : List Char}
      (listed : Listing Eq ']' true (es.map (·.1)) body) (each : ∀ e ∈ es, Spells e.1 e.2) :
      Spells ('[' :: body) (.array (es.map (·.2)))
  | object {ms : List (String × List Char × Tree)} {body : List Char}
      (listed : Listing (SpellsEntry SpellsString) '\x7d' true (ms.map fun m => (m.1, m.2.1)) body)
      (each : ∀ m ∈ ms, Spells m.2.1 m.2.2) :
      Spells ('\x7b' :: body) (.object (ms.map fun m => (m.1, m.2.2)))

/-- What spells a value is well formed. -/
theorem Spells.isValue (h : Spells text t) : IsValue text := by
  induction h with
  | null => exact .null
  | bool spelled => exact .bool _ spelled
  | integer spelled => exact .number spelled.isNumber
  | string spelled => exact .string spelled.isString
  | array listed _ ih =>
    exact .array listed (List.forall_mem_map.mpr ih)
  | object listed _ ih =>
    obtain ⟨ms, listed, keys, values⟩ := listed.exists_keys
    refine .object listed keys fun m member => ?_
    have value : m.2 ∈ ms.map (·.2) := List.mem_map_of_mem member
    rw [values, List.map_map, List.mem_map] at value
    obtain ⟨e, there, same⟩ := value
    rw [← same]
    exact ih e there

/-! ### Reading -/

/-- As many steps as the text has characters are enough to read it as the value. -/
def ReadAs (depth : Nat) (text : List Char) (t : Tree) : Prop :=
  ∀ ⦃fuel : Nat⦄, text.length ≤ fuel → Takes (tree fuel depth) text t

/-- The elements of an array and its bracket. -/
theorem reads_elements_of_listing {first : Bool} {es : List (List Char × Tree)}
    (listed : Listing Eq ']' first (es.map (·.1)) text) (opens : ∀ e ∈ es, Opens e.1)
    (each : ∀ e ∈ es, ReadAs depth e.1 e.2) (enough : text.length ≤ fuel) (rest : List Char) :
    Reads (elements fuel depth first) (text ++ rest) (es.map (·.2)) rest := by
  -- A round takes an element and what stands before it, so fuel for the whole text lasts.
  induction es generalizing fuel first text with
  | nil =>
    obtain ⟨fuel, rfl⟩ := Nat.exists_eq_add_one.mpr (Nat.lt_of_lt_of_le listed.length_pos enough)
    rw [elements]
    exact (listed.no_element rest).bind ((reads_advance _ _).bind (reads_pure _ _))
  | cons e es ih =>
    obtain ⟨fuel, rfl⟩ := Nat.exists_eq_add_one.mpr (Nat.lt_of_lt_of_le listed.length_pos enough)
    obtain ⟨first, others⟩ := List.forall_mem_cons.mp opens
    obtain ⟨read, readOthers⟩ := List.forall_mem_cons.mp each
    obtain ⟨item, tail, same, -, more, length, found⟩ :=
      listed.next_element fun item same => same ▸ first
    obtain rfl : item = e.1 := same
    have positive := first.length_pos
    have nonempty := more.length_pos
    have ends := more.endsNumber (.inl rfl) rest
    have short : e.1.length ≤ fuel := by omega
    rw [elements]
    refine (found rest).bind ?_
    refine (read short blank_nil ends).bind ?_
    exact (ih more others readOthers (by omega)).bind (reads_pure _ _)

/-- The members of an object and its brace. -/
theorem reads_members_of_listing {first : Bool} {ms : List (String × List Char × Tree)}
    (listed : Listing (SpellsEntry SpellsString) '\x7d' first (ms.map fun m => (m.1, m.2.1)) text)
    (each : ∀ m ∈ ms, ReadAs depth m.2.1 m.2.2) (enough : text.length ≤ fuel) (rest : List Char) :
    Reads (members fuel depth first) (text ++ rest) (ms.map fun m => (m.1, m.2.2)) rest := by
  induction ms generalizing fuel first text with
  | nil =>
    obtain ⟨fuel, rfl⟩ := Nat.exists_eq_add_one.mpr (Nat.lt_of_lt_of_le listed.length_pos enough)
    rw [members]
    exact (listed.no_entry rest).bind ((reads_advance _ _).bind (reads_pure _ _))
  | cons m ms ih =>
    obtain ⟨fuel, rfl⟩ := Nat.exists_eq_add_one.mpr (Nat.lt_of_lt_of_le listed.length_pos enough)
    obtain ⟨read, readOthers⟩ := List.forall_mem_cons.mp each
    obtain ⟨item, tail, entry, more, length, found⟩ :=
      listed.next_entry fun item entry => entry.exists_quote
    have nonempty := more.length_pos
    have ends := more.endsNumber (.inr rfl) rest
    have shorter : m.2.1.length < item.length := entry.length_lt
    obtain ⟨behind, front, after, before, readKey⟩ := entry.reads_key
    rw [members]
    refine (found rest).bind ?_
    refine (readKey (tail ++ rest)).bind ?_
    refine (reads_colon_behind after _).bind ?_
    refine (read (by omega) before ends).bind ?_
    exact (ih more readOthers (by omega)).bind (reads_pure _ _)

/-- A text is not empty, and so its reading takes a first step. -/
theorem readAs_of_succ (opens : Opens text)
    (h : ∀ ⦃fuel⦄, text.length ≤ fuel + 1 → Takes (tree (fuel + 1) depth) text t) :
    ReadAs depth text t := by
  intro fuel enough
  obtain ⟨fuel, rfl⟩ := Nat.exists_eq_add_one.mpr (Nat.lt_of_lt_of_le opens.length_pos enough)
  exact h enough

/-- However an integer is spelled, it is read as the integer it is. -/
theorem takes_integer {n : Int} (spelled : SpellsInteger text n) (low : -0x8000000000000000 ≤ n)
    (high : n ≤ greatestSignificand) :
    Takes (tree (fuel + 1) depth) text (.number (.integer n)) := by
  intro front rest blank ends
  have read := spelled.readNumber_append low high ends
  obtain ⟨c, cs, rfl, starts⟩ := spelled.exists_eq_cons
  have behind : StateT.run (tree (fuel + 1) depth) (front ++ c :: (cs ++ rest)) =
      StateT.run (tree (fuel + 1) depth) (c :: (cs ++ rest)) := by
    rw [tree, (reads_peek_behind blank starts.isSpace_eq).run_bind,
      (reads_peek starts.isSpace_eq).run_bind]
  rw [List.cons_append] at read ⊢
  rw [Reads, behind, run_tree_of_startsNumber starts, read]
  rfl

/-- **Reading.** However a readable value is spelled, the text is read as this value. -/
theorem Spells.readAs (h : Spells text t) (readable : t.Readable depth) : ReadAs depth text t := by
  -- On the spelling, for every depth, since elements and members are read one level further down.
  have opens := h.isValue.opens
  induction h generalizing depth with
  | null =>
    refine readAs_of_succ opens fun fuel _ => ?_
    rw [tree]
    apply Takes.of_peek rfl
    intro rest _
    exact (reads_literal "null".toList rest).bind (reads_pure _ _)
  | @bool b _ spelled =>
    refine readAs_of_succ opens fun fuel _ => ?_
    obtain rfl := spelled
    rw [tree]
    cases b with
    | true =>
      apply Takes.of_peek rfl
      intro rest _
      exact (reads_literal "true".toList rest).bind (reads_pure _ _)
    | false =>
      apply Takes.of_peek rfl
      intro rest _
      exact (reads_literal "false".toList rest).bind (reads_pure _ _)
  | integer spelled =>
    cases readable with
    | integer low high => exact readAs_of_succ opens fun fuel _ => takes_integer spelled low high
  | string spelled =>
    refine readAs_of_succ opens fun fuel _ => ?_
    obtain ⟨body, rfl, read⟩ := spelled.exists_eq_cons
    rw [tree]
    apply Takes.of_peek rfl
    intro rest _
    refine (reads_advance _ _).bind ?_
    exact (reads_ofFunction (read rest)).bind (reads_pure _ _)
  | array listed each ih =>
    refine readAs_of_succ opens fun fuel enough => ?_
    cases readable with
    | @array depth _ readable =>
      rw [tree]
      apply Takes.of_peek rfl
      intro rest _
      -- the value is an array, so it does not nest too deep
      show Reads (if depth + 2 ≤ 1 then _ else do
        advance
        return Tree.array (← elements fuel (depth + 1) true)) _ _ _
      rw [if_neg (by omega)]
      refine (reads_advance _ _).bind ?_
      have each' := fun e member =>
        ih e member (List.forall_mem_map.mp readable e member) (each e member).isValue.opens
      exact (reads_elements_of_listing listed (fun e member => (each e member).isValue.opens) each'
        (Nat.le_of_succ_le_succ enough) rest).bind (reads_pure _ _)
  | object listed each ih =>
    refine readAs_of_succ opens fun fuel enough => ?_
    cases readable with
    | @object depth _ readable =>
      rw [tree]
      apply Takes.of_peek rfl
      intro rest _
      show Reads (if depth + 2 ≤ 1 then _ else do
        advance
        return Tree.object (← members fuel (depth + 1) true)) _ _ _
      rw [if_neg (by omega)]
      refine (reads_advance _ _).bind ?_
      have each' := fun m member =>
        ih m member (List.forall_mem_map.mp readable m member) (each m member).isValue.opens
      exact (reads_members_of_listing listed each' (Nat.le_of_succ_le_succ enough) rest).bind
        (reads_pure _ _)

/-- The reader of single values takes whatever spells a readable value. -/
theorem Spells.takes_value (h : Spells text t) (readable : t.Readable depth) :
    Takes (value depth) text t := by
  intro front rest blank ends
  have enough : text.length ≤ 2 * (front ++ (text ++ rest)).length + 2 := by
    simp only [List.length_append]
    omega
  rw [Reads, run_value]
  exact h.readAs readable enough blank ends

/-- A text that spells a readable value, with blanks around it, holds this value. -/
theorem Spells.ofText {whole : String} (h : Spaced (Spells · t) whole)
    (readable : t.Readable greatestDepth) : ofText whole = .ok t := by
  obtain ⟨front, inner, behind, before, spelled, after, all⟩ := h
  exact run_of_takes (spelled.takes_value readable) before after all

end Tree

end Recordwright.Json
