import Mathlib.Data.List.Basic
import Recordwright.Derive.Definition
import Recordwright.Field.Type
import Recordwright.Trial.Cell

/-!
# Types as they are written in structs

Each field type has a spelling in the source of a struct (`FieldType.ty`): `bool`, `i64`, `f64`,
`String` or `Vec<u8>`, or `Option<…>` around one of these.  `FieldType.spelled?` recognizes it.  The
text of the spelling is declared in the shape of the struct, and it names the field type again
(`FieldType.parse?_typeName`).

The values of a struct's field are cells and the values of a record are values, and `Value.ofCell`
converts the one to the other.  For the types that are written so, both sides have the same defaults
(`FieldType.ofCell_default`), a converted cell is accepted (`FieldType.accepts_ofCell`), and two
cells are equal iff the values are (`FieldType.equal_ofCell`).
-/

namespace Recordwright

open Source

/-! ### Spellings -/

namespace Source.Ty

/-- A plain word. -/
def word (name : String) (h : Text.current.isIdentifier name = true) : Ty :=
  .path (.mk false [.mk ⟨false, name, h⟩ .none])

/-- A plain word with one type in angle brackets. -/
def applied (name : String) (h : Text.current.isIdentifier name = true) (inner : Ty) : Ty :=
  .path (.mk false [.mk ⟨false, name, h⟩ (.angle false [.type inner] false)])

/-- The plain word that a type is. -/
def word? : Ty → Option String
  | .path (.mk false [.mk ⟨false, name, _⟩ .none]) => some name
  | _ => none

/-- The plain word and the type in angle brackets that a type is. -/
def applied? : Ty → Option (String × Ty)
  | .path (.mk false [.mk ⟨false, name, _⟩ (.angle false [.type inner] false)]) =>
    some (name, inner)
  | _ => none

/-- A type that is a plain word is built by `word`. -/
theorem eq_word {ty : Ty} {name : String} (found : ty.word? = some name) :
    ∃ h, ty = word name h := by
  unfold word? at found
  split at found
  · next name' h =>
    obtain rfl := Option.some.inj found
    exact ⟨h, rfl⟩
  · cases found

/-- A type that is a word with one type in angle brackets is built by `applied`. -/
theorem eq_applied {ty inner : Ty} {name : String} (found : ty.applied? = some (name, inner)) :
    ∃ h, ty = applied name h inner := by
  unfold applied? at found
  split at found
  · next name' h inner' =>
    obtain ⟨rfl, rfl⟩ := Prod.mk.inj (Option.some.inj found)
    exact ⟨h, rfl⟩
  · cases found

end Source.Ty

/-- The spelling of a storage type. -/
def StorageType.ty : StorageType → Ty
  | .bool => .word "bool" (by decide)
  | .int => .word "i64" (by decide)
  | .float => .word "f64" (by decide)
  | .text => .word "String" (by decide)
  | .bytes => .applied "Vec" (by decide) (.word "u8" (by decide))

/-- The spelling of a field type. -/
def FieldType.ty (t : FieldType) : Ty :=
  if t.nullable then .applied "Option" (by decide) t.storage.ty else t.storage.ty

/-- The storage type that a type spells. -/
def StorageType.spelled? (ty : Ty) : Option StorageType :=
  match ty.word? with
  | some "bool" => some .bool
  | some "i64" => some .int
  | some "f64" => some .float
  | some "String" => some .text
  | _ =>
    match ty.applied? with
    | some ("Vec", inner) => if inner.word? = some "u8" then some .bytes else none
    | _ => none

/-- The field type that a type spells. -/
def FieldType.spelled? (ty : Ty) : Option FieldType :=
  match ty.applied? with
  | some ("Option", inner) => (StorageType.spelled? inner).map (⟨·, true⟩)
  | _ => (StorageType.spelled? ty).map (⟨·, false⟩)

/-- A type spells a storage type iff it is the spelling. -/
theorem StorageType.spelled?_eq_some_iff {ty : Ty} {t : StorageType} :
    spelled? ty = some t ↔ ty = t.ty := by
  -- Four of the types are plain words, and the last one is a word with a type in angle brackets.
  constructor
  · intro found
    unfold spelled? at found
    split at found
    case h_1 spelled | h_2 spelled | h_3 spelled | h_4 spelled =>
      obtain ⟨h, rfl⟩ := Ty.eq_word spelled
      rw [← Option.some.inj found]
      rfl
    case h_5 =>
      split at found
      case h_1 inner spelled =>
        obtain ⟨h, rfl⟩ := Ty.eq_applied spelled
        by_cases byte : inner.word? = some "u8"
        · obtain ⟨h', rfl⟩ := Ty.eq_word byte
          rw [if_pos byte] at found
          rw [← Option.some.inj found]
          rfl
        · rw [if_neg byte] at found
          cases found
      case h_2 => cases found
  · rintro rfl
    cases t <;> rfl

/-- A type spells a field type iff it is the spelling. -/
theorem FieldType.spelled?_eq_some_iff {ty : Ty} {t : FieldType} :
    spelled? ty = some t ↔ ty = t.ty := by
  constructor
  · intro found
    unfold spelled? at found
    split at found
    · next inner spelled =>
      obtain ⟨h, rfl⟩ := Ty.eq_applied spelled
      obtain ⟨storage, inside, rfl⟩ := Option.map_eq_some_iff.mp found
      rw [StorageType.spelled?_eq_some_iff.mp inside]
      rfl
    · obtain ⟨storage, inside, rfl⟩ := Option.map_eq_some_iff.mp found
      exact StorageType.spelled?_eq_some_iff.mp inside
  · rintro rfl
    obtain ⟨storage, nullable⟩ := t
    cases storage <;> cases nullable <;> rfl

/-- **The text of a spelling names the type.** -/
theorem FieldType.parse?_typeName (t : FieldType) : FieldType.parse? (typeName t.ty) = some t := by
  obtain ⟨storage, nullable⟩ := t
  cases storage <;> cases nullable <;> decide +kernel

/-! ### Cells -/

/-- The type of cells for a storage type. -/
def StorageType.cellType : StorageType → CellType
  | .bool => .bool
  | .int => .integer true 64
  | .float => .float
  | .text => .text
  | .bytes => .list (.integer false 8)

/-- The type of cells for a field type. -/
def FieldType.cellType (t : FieldType) : CellType :=
  if t.nullable then .optional t.storage.cellType else t.storage.cellType

/-- A spelling stands for the type of cells. -/
theorem FieldType.ofTy?_ty (t : FieldType) : CellType.ofTy? [] t.ty = some t.cellType := by
  obtain ⟨storage, nullable⟩ := t
  cases storage <;> cases nullable <;> decide +kernel

/-- The byte that a cell holds. -/
def Cell.byte : Cell → UInt8
  | .integer n => UInt8.ofNat n.toNat
  | _ => 0

/-- The conversion of a cell.  Lists are lists of bytes, and what has no conversion gives `null`. -/
def Value.ofCell : Cell → Value
  | .bool b => .bool b
  | .integer n => .int (Int64.ofInt n)
  | .float x => .float x
  | .text s => .text s
  | .list cs => .bytes (cs.map Cell.byte)
  | .absent => .null
  | .present c => .ofCell c
  | .marker => .null

namespace StorageType

variable {t : StorageType} {a c : Cell}

/-- A converted cell has the storage type. -/
theorem storageType_ofCell (h : t.cellType.accepts c = true) :
    (Value.ofCell c).storageType = some t := by
  cases t <;> cases c <;> first | rfl | cases h

/-- A converted cell is not `null`. -/
theorem null_equal_ofCell (h : t.cellType.accepts c = true) :
    Value.null.equal (.ofCell c) = false := by
  cases t <;> cases c <;> first | rfl | cases h

/-- Nor is `null` such a cell. -/
theorem ofCell_equal_null (h : t.cellType.accepts c = true) :
    (Value.ofCell c).equal .null = false := by
  cases t <;> cases c <;> first | rfl | cases h

/-- Integers of 64 bits are converted one to one. -/
theorem ofInt_eq_iff {m n : Int} (hm : (CellType.integer true 64).accepts (.integer m) = true)
    (hn : (CellType.integer true 64).accepts (.integer n) = true) :
    Int64.ofInt m = Int64.ofInt n ↔ m = n := by
  have least : CellType.least true 64 = -9223372036854775808 := by decide
  have greatest : CellType.greatest true 64 = 9223372036854775807 := by decide
  simp only [CellType.accepts, least, greatest, Bool.and_eq_true, decide_eq_true_eq] at hm hn
  -- within these bounds nothing is wrapped
  constructor
  · intro same
    have values := congrArg Int64.toInt same
    rwa [Int64.toInt_ofInt_of_le hm.1 (by omega), Int64.toInt_ofInt_of_le hn.1 (by omega)] at values
  · rintro rfl
    rfl

/-- Cells that are bytes are equal iff the bytes are. -/
theorem equal_byte (ha : (CellType.integer false 8).accepts a = true)
    (hc : (CellType.integer false 8).accepts c = true) :
    a.equal c = (a.byte == c.byte) := by
  have least : CellType.least false 8 = 0 := by decide
  have greatest : CellType.greatest false 8 = 255 := by decide
  cases a <;> first | cases ha | skip
  cases c <;> first | cases hc | skip
  rename_i m n
  simp only [CellType.accepts, least, greatest, Bool.and_eq_true, decide_eq_true_eq] at ha hc
  rw [Bool.eq_iff_iff, Cell.equal, Cell.byte, Cell.byte, beq_iff_eq, beq_iff_eq]
  constructor
  · rintro rfl
    rfl
  · intro same
    have values := congrArg UInt8.toNat same
    rw [UInt8.toNat_ofNat', UInt8.toNat_ofNat'] at values
    omega

/-- Lists of bytes are equal iff the bytes are. -/
theorem equalLists_bytes {as cs : List Cell}
    (ha : CellType.acceptsAll (.integer false 8) as = true)
    (hc : CellType.acceptsAll (.integer false 8) cs = true) :
    Cell.equalLists as cs = (as.map Cell.byte == cs.map Cell.byte) := by
  induction as generalizing cs with
  | nil => cases cs <;> rfl
  | cons a as ih =>
    cases cs with
    | nil => rfl
    | cons c cs =>
      rw [CellType.acceptsAll, Bool.and_eq_true] at ha hc
      rw [Cell.equalLists, List.map_cons, List.map_cons, List.cons_beq_cons, equal_byte ha.1 hc.1,
        ih ha.2 hc.2]

/-- Cells are equal iff the values are. -/
theorem equal_ofCell (ha : t.cellType.accepts a = true) (hc : t.cellType.accepts c = true) :
    (Value.ofCell a).equal (Value.ofCell c) = a.equal c := by
  -- Cells of a storage type are of one kind; pairs of other kinds contradict the hypotheses.
  cases t <;> cases a <;> first | exact absurd ha Bool.false_ne_true | skip
  all_goals cases c <;> first | exact absurd hc Bool.false_ne_true | skip
  case bool.bool.bool => rfl
  case int.integer.integer m n =>
    rw [Bool.eq_iff_iff, Value.ofCell, Value.ofCell, Value.equal, Cell.equal, beq_iff_eq,
      beq_iff_eq]
    exact ofInt_eq_iff ha hc
  case float.float.float => rfl
  case text.text.text => rfl
  case bytes.list.list => exact (equalLists_bytes ha hc).symm

end StorageType

namespace FieldType

variable {t : FieldType} {a c : Cell}

/-- Cells of a nullable type are absent, or present ones of the storage type. -/
theorem accepts_cellType_iff : t.cellType.accepts c = true ↔
    t.nullable = false ∧ t.storage.cellType.accepts c = true ∨
    t.nullable = true ∧ (c = .absent ∨ ∃ inner, c = .present inner ∧
      t.storage.cellType.accepts inner = true) := by
  unfold cellType
  cases t.nullable with
  | false => simp
  | true => cases c <;> simp [CellType.accepts]

/-- The defaults are the same. -/
theorem ofCell_default (t : FieldType) : Value.ofCell t.cellType.default = t.default := by
  obtain ⟨storage, nullable⟩ := t
  cases storage <;> cases nullable <;> rfl

/-- A converted cell is accepted. -/
theorem accepts_ofCell (h : t.cellType.accepts c = true) : t.accepts (Value.ofCell c) = true := by
  rcases accepts_cellType_iff.mp h with ⟨-, stored⟩ | ⟨nullable, rfl | ⟨inner, rfl, stored⟩⟩
  · simp [accepts, StorageType.storageType_ofCell stored]
  · exact nullable
  · simp [accepts, Value.ofCell, StorageType.storageType_ofCell stored]

/-- **Cells are equal iff the values are.** -/
theorem equal_ofCell (ha : t.cellType.accepts a = true) (hc : t.cellType.accepts c = true) :
    (Value.ofCell a).equal (Value.ofCell c) = a.equal c := by
  -- both cells are of the storage type, or both may be absent
  rcases accepts_cellType_iff.mp ha with ⟨plain, stored⟩ | ⟨nullable, optional⟩
  · rcases accepts_cellType_iff.mp hc with ⟨-, stored'⟩ | ⟨nullable, -⟩
    · exact StorageType.equal_ofCell stored stored'
    · rw [plain] at nullable
      cases nullable
  · rcases accepts_cellType_iff.mp hc with ⟨plain, -⟩ | ⟨-, optional'⟩
    · rw [plain] at nullable
      cases nullable
    · rcases optional with rfl | ⟨inner, rfl, stored⟩ <;>
        rcases optional' with rfl | ⟨inner', rfl, stored'⟩
      · rfl
      · have unequal : Value.null.equal (.ofCell inner') = false :=
          StorageType.null_equal_ofCell stored'
        exact unequal
      · have unequal : (Value.ofCell inner).equal .null = false :=
          StorageType.ofCell_equal_null stored
        exact unequal
      · rw [Value.ofCell, Value.ofCell, Cell.equal]
        exact StorageType.equal_ofCell stored stored'

end FieldType

end Recordwright
