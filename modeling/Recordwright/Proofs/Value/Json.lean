import Recordwright.Proofs.Json.ReadBack
import Recordwright.Value.Json

/-!
# Values survive their JSON texts

Nothing in the JSON text of a value names its type: reading goes by the form alone.  For all values
but floating numbers the form gives the type away, and the text is read back as the very value
(`Value.ofJson_toJson`).
-/

namespace Recordwright.Value

open Json

/-- A byte is regained from its number. -/
theorem byte?_toNat (b : UInt8) : byte? (.number (.integer b.toNat)) = some b := by
  have range : (0 : Int) ≤ b.toNat ∧ (b.toNat : Int) < 256 := by
    have := b.toNat_lt
    omega
  rw [byte?, if_pos range, Int.toNat_natCast, UInt8.ofNat_toNat]

/-- Bytes are regained from their numbers. -/
theorem mapM_byte? (bs : List UInt8) :
    (bs.map fun b => Tree.number (.integer b.toNat)).mapM byte? = some bs := by
  induction bs with
  | nil => rfl
  | cons b bs ih =>
    rw [List.map_cons, List.mapM_cons, byte?_toNat, ih]
    rfl

/-- An integer is regained from its number. -/
theorem ofInt_toInt (n : Int64) : ofInt n.toInt = .int n := by
  have range : -0x8000000000000000 ≤ n.toInt ∧ n.toInt < 0x8000000000000000 :=
    ⟨n.le_toInt, n.toInt_lt⟩
  rw [ofInt, if_pos range, Int64.ofInt_toInt]

/-- The JSON value of a value shows that value alone. -/
theorem ofTree?_toTree (v : Value) : ofTree? v.toTree = some v := by
  cases v with
  | int n => rw [toTree, ofTree?, ofInt_toInt]
  | bytes bs => rw [toTree, ofTree?, mapM_byte?, Option.map_some]
  | _ => rfl

/-- The JSON value of a value that is no floating number reads back. -/
theorem readable_toTree {v : Value} (h : v.storageType ≠ some .float) {depth : Nat} :
    v.toTree.Readable (depth + 2) := by
  cases v with
  | null => exact .null
  | bool b => exact .bool b
  | int n =>
    have high : n.toInt ≤ greatestSignificand :=
      Int.le_trans (Int.le_of_lt n.toInt_lt) (by decide)
    exact .integer n.le_toInt high
  | float x => exact absurd rfl h
  | text s => exact .string s
  | bytes bs =>
    refine .array fun e member => ?_
    obtain ⟨b, -, rfl⟩ := List.mem_map.mp member
    have := b.toNat_lt
    refine .integer (by omega) ?_
    have small : (b.toNat : Int) ≤ 255 := by omega
    exact Int.le_trans small (by decide)

/-- **Values survive their texts.** The text of a value that is no floating number is read as this
value. -/
theorem ofJson_toJson {v : Value} (h : v.storageType ≠ some .float) : ofJson v.toJson = .ok v := by
  have readable : v.toTree.Readable greatestDepth := readable_toTree h
  have text : v.toJson.toList = Tree.compactChars v.toTree := String.toList_ofList
  have tree := readable.reads_value endsNumber_nil
  rw [List.append_nil, ← text] at tree
  rw [ofJson]
  refine Reader.run_of_reads (tree.bind ?_)
  rw [ofTree?_toTree]
  exact Reader.reads_pure v []

end Recordwright.Value
