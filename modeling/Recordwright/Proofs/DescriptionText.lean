import Recordwright.Proofs.Description
import Recordwright.Proofs.Json.ReadBack

/-!
# The text of a description loses nothing

A description is written as a JSON object with line breaks.  Whatever strings it holds and however
many setters, its text is a well-formed value and is read as the object that it was written for, and
this object gives away every part of the description.  So two descriptions never have one text.

A JSON reader tells natural numbers apart up to sixty-four bits.  The numbers in a description are
positions of fields, which are such numbers (`Description.positions`).

The main statement is `Descriptors.description_text`.
-/

namespace Recordwright

open Json

namespace Json.Tree

variable {depth : Nat}

/-- Numbers are written as they are. -/
theorem ofNat_injective : Function.Injective ofNat := by
  intro n m same
  simpa only [ofNat, number.injEq, Number.integer.injEq, Int.natCast_inj] using same

theorem readable_ofNat {n : Nat} (small : n < 2 ^ 64) : (ofNat n).Readable depth := by
  -- The reader tells integers apart up to the greatest of sixty-four bits.
  have high : (n : Int) ≤ greatestSignificand := by
    unfold greatestSignificand
    omega
  exact .integer (by omega) high

theorem readable_ofNats {ns : List Nat} (small : ∀ n ∈ ns, n < 2 ^ 64) :
    (Tree.array (ns.map ofNat)).Readable (depth + 2) :=
  .array (List.forall_mem_map.mpr fun n member => readable_ofNat (small n member))

theorem readable_ofStrings (ss : List String) : (ofStrings ss).Readable (depth + 2) :=
  .array (List.forall_mem_map.mpr fun s _ => .string s)

end Json.Tree

/-! ### Setters -/

namespace Setter

/-- The JSON value gives away every part of the setter. -/
theorem toTree_injective : Function.Injective toTree := by
  rintro ⟨_, _, _, _, _, _⟩ ⟨_, _, _, _, _, _⟩ same
  simpa only [toTree, Tree.object.injEq, List.cons.injEq, Prod.mk.injEq, Tree.string.injEq,
    Tree.ofNat_injective.eq_iff, Tree.bool.injEq, true_and, and_true, Setter.mk.injEq] using same

/-- The JSON value of a setter reads back. -/
theorem readable_toTree {s : Setter} (small : s.ordinal < 2 ^ 64) {depth : Nat} :
    s.toTree.Readable (depth + 2) := by
  refine .object ?_
  simp only [List.forall_mem_cons, List.not_mem_nil, false_implies, implies_true, and_true]
  exact ⟨.string _, .string _, .string _, .string _, Tree.readable_ofNat small, .bool _⟩

end Setter

/-! ### Descriptions -/

namespace Description

variable {d other : Description}

/-- The JSON value gives away every part of the description. -/
theorem toTree_injective : Function.Injective toTree := by
  rintro ⟨_, _, _, _, _, _, _⟩ ⟨_, _, _, _, _, _, _⟩ same
  -- Lists are written element by element, so a list of injective texts is injective, too.
  have strings : Function.Injective Tree.string := fun s t => Tree.string.inj
  simpa only [toTree, Tree.ofStrings, Tree.object.injEq, Tree.array.injEq, List.cons.injEq,
    Prod.mk.injEq, Tree.string.injEq, true_and, and_true, Setter.toTree_injective.list_map.eq_iff,
    Tree.ofNat_injective.list_map.eq_iff, strings.list_map.eq_iff, and_assoc,
    Description.mk.injEq] using same

/-- The positions of fields that the description mentions. -/
def positions (d : Description) : List Nat :=
  d.setters.map (·.ordinal) ++ d.freshRequired ++ d.compareOrder

/-- The JSON value of a description reads back. -/
theorem readable_toTree (small : ∀ n ∈ d.positions, n < 2 ^ 64) :
    d.toTree.Readable greatestDepth := by
  simp only [positions, List.forall_mem_append, List.forall_mem_map] at small
  obtain ⟨⟨setters, fresh⟩, order⟩ := small
  have methods : ∀ e ∈ d.setters.map Setter.toTree, e.Readable (greatestDepth - 2) :=
    List.forall_mem_map.mpr fun s member => Setter.readable_toTree (setters s member)
  refine .object ?_
  simp only [List.forall_mem_cons, List.not_mem_nil, false_implies, implies_true, and_true]
  refine ⟨.string _, .string _, .array methods, .object ?_, .object ?_, .object ?_⟩
  all_goals
    simp only [List.forall_mem_cons, List.not_mem_nil, false_implies, implies_true, and_true]
  · exact Tree.readable_ofNats fresh
  · exact Tree.readable_ofNats order
  · exact ⟨.string _, Tree.readable_ofStrings _⟩

theorem toList_toJson (d : Description) : d.toJson.toList = Tree.prettyChars 0 d.toTree :=
  String.toList_ofList

/-- The text of a description is well formed. -/
theorem isValue_toJson (small : ∀ n ∈ d.positions, n < 2 ^ 64) : IsValue d.toJson.toList := by
  rw [toList_toJson]
  exact ((readable_toTree small).spells_pretty 0).isValue

/-- The text of a description is read as the object that it was written for. -/
theorem ofText_toJson (small : ∀ n ∈ d.positions, n < 2 ^ 64) :
    Tree.ofText d.toJson = .ok d.toTree :=
  (readable_toTree small).ofText_pretty

/-- Descriptions that have one text are one description. -/
theorem eq_of_toJson_eq (small : ∀ n ∈ d.positions, n < 2 ^ 64)
    (smallOther : ∀ n ∈ other.positions, n < 2 ^ 64) (same : d.toJson = other.toJson) :
    d = other := by
  -- one text is read in one way
  have read := ofText_toJson small
  rw [same, ofText_toJson smallOther] at read
  exact toTree_injective (Except.ok.inj read).symm

end Description

namespace Descriptors

variable {ds : Descriptors} {options : Options} {d : Description}

/-- A description mentions positions of fields and no others. -/
theorem positions_of_synthesize (h : ds.synthesize options = .ok d)
    (small : ∀ f ∈ ds.fields, f.ordinal < 2 ^ 64) : ∀ n ∈ d.positions, n < 2 ^ 64 := by
  obtain ⟨-, rfl⟩ := synthesize_eq_ok_iff.mp h
  simp only [Description.positions, described, List.forall_mem_append, List.forall_mem_map]
  exact ⟨⟨small, fun f member => small f (List.mem_of_mem_filter member)⟩, small⟩

/-- **The text of a description is well formed and loses nothing.**  Let the builder of a record be
described, whatever the names and declared types of the record and its fields and whatever the
options.  Positions are numbers of sixty-four bits.

* The text of the description is a well-formed value.
* Read as JSON it is an object with the members listed here, in order: the very strings, numbers,
  truth values and list elements of the description.
* Another description never has the same text. -/
theorem description_text (h : ds.synthesize options = .ok d)
    (small : ∀ f ∈ ds.fields, f.ordinal < 2 ^ 64) :
    IsValue d.toJson.toList ∧
    Tree.ofText d.toJson = .ok (.object [
      ("record", .string d.record),
      ("builder", .string d.builder),
      ("setters", .array (d.setters.map fun s => .object [
        ("field", .string s.field), ("method", .string s.method), ("query", .string s.query),
        ("param_type", .string s.parameterType), ("ordinal", .number (.integer s.ordinal)),
        ("required", .bool s.required)])),
      ("fresh_build", .object [
        ("required", .array (d.freshRequired.map fun n : Nat => .number (.integer n)))]),
      ("derived_build", .object [
        ("compare_order", .array (d.compareOrder.map fun n : Nat => .number (.integer n)))]),
      ("error_shape", .object [
        ("reason", .string d.errorReason), ("fields", .array (d.errorFields.map .string))])]) ∧
    ∀ (ds' : Descriptors) (options' : Options) (d' : Description),
      ds'.synthesize options' = .ok d' → (∀ f ∈ ds'.fields, f.ordinal < 2 ^ 64) →
      d'.toJson = d.toJson → d' = d := by
  have positions := positions_of_synthesize h small
  exact ⟨Description.isValue_toJson positions, Description.ofText_toJson positions,
    fun _ _ _ h' small' same =>
      Description.eq_of_toJson_eq (positions_of_synthesize h' small') positions same⟩

/-- A record whose name is to be escaped and whose only field need not be assigned. -/
def escaped : Descriptors := ⟨"a \"\\\n\x01😀", [⟨"x", "Öl\t", false, 0⟩]⟩

/-- The name is written with escapes, and it is read as it was. -/
theorem description_text_escaped :
    escaped.synthesize {} = .ok (escaped.described {}) ∧
    "\x7b\n  \"record\": \"a \\\"\\\\\\n\\u0001😀\",".toList <+:
      (escaped.described {}).toJson.toList ∧
    (∀ f ∈ escaped.fields, f.ordinal < 2 ^ 64) ∧
    IsValue (escaped.described {}).toJson.toList ∧
    Tree.ofText (escaped.described {}).toJson = .ok (escaped.described {}).toTree := by
  have made : escaped.synthesize {} = .ok (escaped.described {}) := by decide +kernel
  have start : "\x7b\n  \"record\": \"a \\\"\\\\\\n\\u0001😀\",".toList <+:
      (escaped.described {}).toJson.toList := by
    rw [Description.toList_toJson]
    decide +kernel
  have small : ∀ f ∈ escaped.fields, f.ordinal < 2 ^ 64 := by decide
  obtain ⟨formed, read, -⟩ := description_text made small
  exact ⟨made, start, small, formed, read⟩

end Descriptors

end Recordwright
