import Recordwright.Proofs.Json.Decimal
import Recordwright.Proofs.Value.Json

/-!
# The variant that a number is read as

A number in a JSON text is read as an integer or as a floating number, and nothing but its form
decides between them.  The text of a finite floating number has a fraction or an exponent and stays
floating, although its last digit may change.  A number that is not finite is written as `null`, and
so this is what it comes back as.

A text that spells an integer is read as this very integer if it fits sixty-four bits with their
sign.  If it does not, it is read as a floating number or not at all, so no integer is read as
another one (`ofJson_eq_int_iff`).  Together with the values that are no floating numbers these are
all texts of values (`survives_text`).
-/

namespace Recordwright.Value

open Json

variable {text : String} {n : Int}

/-! ### Numbers -/

/-- The value that shows a number. -/
def ofNumber : Number → Value
  | .integer n => ofInt n
  | .float x => .float x

theorem ofTree?_number (n : Number) : ofTree? (.number n) = some (ofNumber n) := by
  cases n <;> rfl

/-- The reader of single values reads what starts as a number does as one. -/
theorem run_value_of_startsNumber {c : Char} {cs : List Char} (starts : StartsNumber c) :
    StateT.run (Reader.value greatestDepth) (c :: cs) =
      (readNumber (c :: cs)).map fun r => (.number r.1, r.2) := by
  rw [Tree.run_value, Tree.run_tree_of_startsNumber starts]

/-- A text that is a number holds its value. -/
theorem ofJson_of_readNumber {number : Number}
    (starts : ∃ c cs, text.toList = c :: cs ∧ StartsNumber c)
    (read : readNumber text.toList = .ok (number, [])) : ofJson text = .ok (ofNumber number) := by
  obtain ⟨c, cs, spelled, starts⟩ := starts
  have tree : Reader.Reads (Reader.value greatestDepth) text.toList (.number number) [] := by
    rw [spelled] at read ⊢
    rw [Reader.Reads, run_value_of_startsNumber starts, read]
    rfl
  rw [ofJson]
  refine Reader.run_of_reads (tree.bind ?_)
  rw [ofTree?_number]
  exact Reader.reads_pure _ []

/-- A text that is a number with a fault holds no value. -/
theorem ofJson_of_readNumber_error {fault : Fault}
    (starts : ∃ c cs, text.toList = c :: cs ∧ StartsNumber c)
    (read : readNumber text.toList = .error fault) : ofJson text = .error fault := by
  obtain ⟨c, cs, spelled, starts⟩ := starts
  have tree : StateT.run (Reader.value greatestDepth) text.toList = .error fault := by
    rw [spelled] at read ⊢
    rw [run_value_of_startsNumber starts, read]
    rfl
  rw [ofJson, Reader.run, StateT.run'_eq, StateT.run_bind, StateT.run_bind, tree]
  rfl

/-! ### Floating numbers -/

theorem toList_toJson_float {x : Binary64} (finite : x.isFinite = true) :
    (Value.float x).toJson.toList = x.finiteText := by
  have text : (Value.float x).toJson.toList = (Number.float x).text.toList := String.toList_ofList
  rw [text, Number.text, if_pos finite, Binary64.text, if_pos finite, String.toList_ofList]

/-- The text of a finite number is read as a floating number. -/
theorem exists_ofJson_toJson_float {x : Binary64} (finite : x.isFinite = true) :
    ∃ y, ofJson (Value.float x).toJson = .ok (.float y) := by
  obtain ⟨y, read⟩ := readsFloat_finiteText finite endsNumber_nil
  have starts := exists_finiteText_eq_cons finite
  rw [List.append_nil] at read
  rw [← toList_toJson_float finite] at starts read
  exact ⟨y, ofJson_of_readNumber starts read⟩

/-- What is not finite is read as `null`. -/
theorem ofJson_toJson_of_not_finite {x : Binary64} (infinite : x.isFinite = false) :
    ofJson (Value.float x).toJson = .ok .null := by
  have text : (Value.float x).toJson = Value.null.toJson := by
    have number : (Number.float x).text = "null" := by
      rw [Number.text, if_neg (by rw [infinite]; exact Bool.false_ne_true)]
    exact congrArg (fun t : String => String.ofList t.toList) number
  rw [text]
  exact ofJson_toJson (by decide)

/-! ### Integers -/

theorem ofInt_eq_int_iff {m : Int64} : ofInt n = .int m ↔ m.toInt = n := by
  constructor
  · intro same
    unfold ofInt at same
    split at same
    next range =>
      obtain rfl := Value.int.inj same
      exact Int64.toInt_ofInt_of_le range.1 range.2
    next => cases same
  · rintro rfl
    exact ofInt_toInt m

/-- **Integers.** A text that spells an integer is read as this integer or as none. -/
theorem ofJson_eq_int_iff (spells : SpellsInteger text.toList n) (m : Int64) :
    ofJson text = .ok (.int m) ↔ m.toInt = n := by
  have starts := spells.exists_eq_cons
  by_cases range : -0x8000000000000000 ≤ n ∧ n ≤ greatestSignificand
  · have read := spells.readNumber_append range.1 range.2 endsNumber_nil
    rw [List.append_nil] at read
    rw [ofJson_of_readNumber starts read, Except.ok.injEq]
    exact ofInt_eq_int_iff
  · -- what is read is no integer, and the text does not spell one of sixty-four bits
    have low := m.le_toInt
    have high := m.toInt_lt
    have far : n < -0x8000000000000000 ∨ greatestSignificand < n := by omega
    refine iff_of_false ?_ ?_
    · rcases spells.readNumber_of_not_fits far with ⟨x, read⟩ | ⟨fault, read⟩
      · rw [ofJson_of_readNumber starts read]
        exact fun same => nomatch same
      · rw [ofJson_of_readNumber_error starts read]
        exact fun same => nomatch same
    · rintro rfl
      unfold greatestSignificand at far
      omega

/-! ### Values -/

/-- **Values survive their texts.** A value that is no floating number is regained, a finite number
stays floating, and any other number becomes `null`.  A text that spells an integer is read as this
integer if it fits sixty-four bits, and as no other one. -/
theorem survives_text :
    (∀ v : Value, v.storageType ≠ some .float → ofJson v.toJson = .ok v) ∧
    (∀ x : Binary64, x.isFinite = true → ∃ y, ofJson (Value.float x).toJson = .ok (.float y)) ∧
    (∀ x : Binary64, x.isFinite = false → ofJson (Value.float x).toJson = .ok .null) ∧
    (∀ (text : String) (n : Int), SpellsInteger text.toList n →
      ∀ m : Int64, ofJson text = .ok (.int m) ↔ m.toInt = n) :=
  ⟨fun _ plain => ofJson_toJson plain, fun _ finite => exists_ofJson_toJson_float finite,
    fun _ infinite => ofJson_toJson_of_not_finite infinite,
    fun _ _ spells m => ofJson_eq_int_iff spells m⟩

/-- No bytes at all, a tenth, infinity, and the least natural number that does not fit. -/
theorem survives_text_limits :
    ofJson (Value.bytes []).toJson = .ok (.bytes []) ∧
      (∃ y, ofJson (Value.float ⟨0x3FB999999999999A⟩).toJson = .ok (.float y)) ∧
      ofJson (Value.float ⟨0x7FF0000000000000⟩).toJson = .ok .null ∧
      ∀ m : Int64, ofJson (toString (0x8000000000000000 : Int)) ≠ .ok (.int m) := by
  obtain ⟨plain, finite, infinite, integer⟩ := survives_text
  refine ⟨plain _ (by decide), finite _ (by decide), infinite _ (by decide), fun m read => ?_⟩
  have same := (integer _ _ (spellsInteger_toString _) m).mp read
  have := m.toInt_lt
  omega

end Recordwright.Value
