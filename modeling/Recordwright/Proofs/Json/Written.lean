import Recordwright.Proofs.Json.Members

/-!
# Written texts are spellings

What is written without blanks is one of the spellings of what it was written for: of a string
(`spellsString_writtenText`), of items between brackets (`listing_joined`), and of a record whose
members are written in their order, none of them left out (`spellsRecord_compact`).
-/

namespace Recordwright.Json

/-! ### Strings -/

theorem spellsDigit_hexDigit {n : Nat} (h : n < 16) : SpellsDigit (Text.hexDigit n) n := by
  have all : ∀ n < 16, "0123456789abcdef".toList[n]? = some (Text.hexDigit n) := by decide
  exact .inl (all n h)

theorem spellsUnit_hexPadded {n : Nat} (h : n < 0x10000) :
    SpellsUnit (Text.hexPadded 4 n) n := by
  have digit (k : Nat) : SpellsDigit (Text.hexDigit (k % 16)) (k % 16) :=
    spellsDigit_hexDigit (Nat.mod_lt k (by decide))
  have number : ((n / 16 / 16 / 16 % 16 * 16 + n / 16 / 16 % 16) * 16 + n / 16 % 16) * 16 + n % 16 =
      n := by omega
  have unit := SpellsUnit.mk (digit (n / 16 / 16 / 16)) (digit (n / 16 / 16)) (digit (n / 16))
    (digit n)
  rw [number] at unit
  exact unit

/-- A character is spelled as it is, by a letter or by its number. -/
theorem spellsChar_writtenChar (c : Char) : SpellsChar (writtenChar c) c := by
  -- the branches are those of `writtenChar`
  unfold writtenChar
  split
  next quote => subst quote; exact .letter (by decide)
  split
  next backslash => subst backslash; exact .letter (by decide)
  split
  next backspace =>
    obtain rfl : c = Char.ofNat 8 := Char.val_inj.mp backspace
    exact .letter (by decide)
  split
  next formFeed =>
    obtain rfl : c = Char.ofNat 12 := Char.val_inj.mp formFeed
    exact .letter (by decide)
  split
  next newline => subst newline; exact .letter (by decide)
  split
  next carriageReturn => subst carriageReturn; exact .letter (by decide)
  split
  next tab => subst tab; exact .letter (by decide)
  split
  next low =>
    have small : c.toNat < 32 := low
    exact .number (spellsUnit_hexPadded (by omega))
  next quote backslash _ _ _ _ _ high => exact .self ⟨Nat.le_of_not_lt high, quote, backslash⟩

theorem spellsString_writtenText (s : String) : SpellsString (writtenText s) s := by
  have chars : ∀ cs : List Char, SpellsChars (cs.flatMap writtenChar) cs := by
    intro cs
    induction cs with
    | nil => exact .nil
    | cons c cs ih => exact .cons (spellsChar_writtenChar c) ih
  exact .mk (chars s.toList)

/-! ### Items between brackets -/

/-- The texts behind the first one, each behind a separator. -/
theorem Tree.joined_cons (separator cs : List Char) (css : List (List Char)) :
    joined separator (cs :: css) = cs ++ css.flatMap (separator ++ ·) := by
  induction css generalizing cs with
  | nil => rw [joined, List.flatMap_nil, List.append_nil]
  | cons ds css ih =>
    rw [joined, ih, List.flatMap_cons, List.append_assoc, List.append_assoc]
    exact fun none => nomatch none

section

variable {α : Type} {spells : List Char → α → Prop} {close : Char} {texts : List (List Char)}
  {as : List α}

/-- Items behind the first one: a comma and a gap stand before each of them. -/
theorem listing_next {gap last : List Char} (between : Blank gap) (behind : Blank last)
    (h : List.Forall₂ spells texts as) :
    Listing spells close false as (texts.flatMap (',' :: gap ++ ·) ++ (last ++ [close])) := by
  induction h with
  | nil => exact .close behind
  | cons one others ih =>
    rw [List.flatMap_cons, List.append_assoc, List.append_assoc]
    show Listing spells close false _ ([] ++ ',' :: (gap ++ (_ ++ _)))
    exact .next blank_nil between one ih

/-- Items with a gap before each of them and one before the bracket. -/
theorem listing_spread {gap last : List Char} (between : Blank gap) (behind : Blank last)
    (h : List.Forall₂ spells texts as) :
    Listing spells close true as
      (gap ++ (Tree.joined (',' :: gap) texts ++ (last ++ [close]))) := by
  cases h with
  | nil =>
    have blank : Blank (gap ++ last) := fun c member =>
      (List.mem_append.mp member).elim (between c) (behind c)
    show Listing spells close true [] (gap ++ (last ++ [close]))
    rw [← List.append_assoc]
    exact .close blank
  | cons one others =>
    rw [Tree.joined_cons, List.append_assoc]
    exact .first between one (listing_next between behind others)

theorem listing_joined (h : List.Forall₂ spells texts as) :
    Listing spells close true as (Tree.joined [','] texts ++ [close]) :=
  listing_spread blank_nil blank_nil h

end

/-! ### Records -/

open Json.Tree (compactChars compactElements compactMembers)

variable {slots : List Slot} {ms : List (String × Tree)}

theorem compactElements_eq (ts : List Tree) : compactElements ts = ts.map compactChars := by
  induction ts with
  | nil => rfl
  | cons t ts ih => rw [compactElements, List.map_cons, ih]

/-- An array is written as the list of what its elements spell. -/
theorem listing_compact {α : Type} {spells : List Char → α → Prop} {tree : α → Tree} {as : List α}
    (spelled : ∀ a ∈ as, spells (compactChars (tree a)) a) :
    ∃ body, compactChars (.array (as.map tree)) = '[' :: body ∧
      Listing spells ']' true as body := by
  refine ⟨_, rfl, listing_joined ?_⟩
  rw [compactElements_eq, List.map_map, List.forall₂_map_left_iff, List.forall₂_same]
  exact spelled

theorem spellsEntries_compactMembers (ms : List (String × Tree)) :
    List.Forall₂ (SpellsEntry SpellsString) (compactMembers ms)
      (ms.map fun m => (m.1, compactChars m.2)) := by
  induction ms with
  | nil => exact .nil
  | cons m ms ih =>
    exact .cons (.mk (spellsString_writtenText m.1) blank_nil blank_nil) ih

/-- Among entries with different keys each gives its key the only value. -/
theorem valuesOf_eq_singleton {entries : List (String × List Char)}
    (nodup : (entries.map (·.1)).Nodup) {e : String × List Char} (member : e ∈ entries) :
    valuesOf e.1 entries = [e.2] := by
  induction entries with
  | nil => cases member
  | cons first entries ih =>
    rw [List.map_cons, List.nodup_cons] at nodup
    rcases List.mem_cons.mp member with rfl | member
    · have none : valuesOf e.1 entries = [] := by
        rw [valuesOf, List.map_eq_nil_iff, List.filter_eq_nil_iff]
        intro other there same
        exact nodup.1 (List.mem_map.mpr ⟨other, there, beq_iff_eq.mp same⟩)
      rw [valuesOf_cons_self rfl, none]
    · have other : first.1 ≠ e.1 := fun same =>
        nodup.1 (same ▸ List.mem_map_of_mem member)
      rw [valuesOf_cons_of_ne other, ih nodup.2 member]

theorem exists_left_of_mem {α β : Type} {r : α → β → Prop} {as : List α} {bs : List β}
    (h : List.Forall₂ r as bs) {b : β} (member : b ∈ bs) : ∃ a ∈ as, r a b := by
  induction h with
  | nil => cases member
  | cons one others ih =>
    rcases List.mem_cons.mp member with rfl | member
    · exact ⟨_, List.mem_cons_self, one⟩
    · obtain ⟨a, there, related⟩ := ih member
      exact ⟨a, List.mem_cons_of_mem _ there, related⟩

/-- An object whose members are those of the record, in order, spells the record. -/
theorem spellsRecord_compact
    (h : List.Forall₂ (fun (m : String × Tree) (s : Slot) =>
      m.1 = s.key ∧ s.spells (compactChars m.2)) ms slots)
    (nodup : (slots.map (·.key)).Nodup) : SpellsRecord slots (compactChars (.object ms)) := by
  have keys : ms.map (·.1) = slots.map (·.key) := by
    rw [← List.forall₂_eq_eq_eq, List.forall₂_map_left_iff, List.forall₂_map_right_iff]
    exact h.imp fun _ _ one => one.1
  have entryKeys : (ms.map fun m => (m.1, compactChars m.2)).map (·.1) = slots.map (·.key) := by
    rw [List.map_map, ← keys]
    rfl
  -- The keys are those of the slots, each once, so every member is said and none is unknown.
  refine .object (listing_joined (spellsEntries_compactMembers ms)) ?_ ?_
  · intro s member
    obtain ⟨m, there, same, spelled⟩ := exists_left_of_mem h member
    refine .inl ⟨compactChars m.2, ?_, spelled⟩
    have entry : (m.1, compactChars m.2) ∈ ms.map fun m => (m.1, compactChars m.2) :=
      List.mem_map.mpr ⟨m, there, rfl⟩
    rw [← same]
    exact valuesOf_eq_singleton (entryKeys ▸ nodup) entry
  · -- every key is one of the record's
    intro e member unknown
    have known : e.1 ∈ slots.map (·.key) := entryKeys ▸ List.mem_map_of_mem member
    obtain ⟨s, there, same⟩ := List.mem_map.mp known
    exact absurd same (unknown s there)

end Recordwright.Json
