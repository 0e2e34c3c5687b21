import Recordwright.Derive.Run
import Recordwright.Trial.Cell

/-!
# Sample structs

Structs on which derived builders are tried.  A sample is the source text of a struct, its blueprint,
and what each generic parameter stands for.
-/

namespace Recordwright

open Source

/-- A struct to try a derived builder on. -/
structure Sample where
  blueprint : Blueprint
  /-- The fields of the struct with their types, in the order of their declarations. -/
  types : List (Ident × CellType)

namespace Sample

/-- The type of each field; nothing if one of them is of no known type. -/
def typesOf? (parameters : List (String × CellType)) :
    List FieldDefinition → Option (List (Ident × CellType))
  | [] => some []
  | f :: rest => do
    let t ← CellType.ofTy? parameters f.type
    return (f.ident, t) :: (← typesOf? parameters rest)

/-- The sample that a source text is. -/
def ofSource? (parameters : List (String × CellType)) (source : String) : Option Sample := do
  let item ← Item.ofText? source
  let blueprint ← (Definition.ofItem item >>= Definition.blueprint).toOption
  let types ← typesOf? parameters blueprint.definition.fields
  return ⟨blueprint, types⟩

/-- What the types of the fields provide. -/
def traits (s : Sample) : FieldTraits Cell where
  default field := ((s.types.lookup field).map (·.default)).getD .marker
  equal _ := Cell.equal

/-- The type of the field with this name. -/
def type? (s : Sample) (field : String) : Option CellType :=
  (s.types.find? (·.1.name == field)).map (·.2)

/-- The fields of a struct with these values by their names, in the order in which a build makes
them.  A field that holds nothing needs no value. -/
def literal? (s : Sample) (values : List (String × Cell)) : Option (StructValue Cell) :=
  s.blueprint.freshValues.mapM fun (field, _) =>
    match s.type? field.name with
    | some .marker => some (field, .marker)
    | _ => (values.lookup field.name).map (field, ·)

/-- The fields of a struct with their values, those that hold nothing left out. -/
def entries (value : StructValue Cell) : List (String × Cell) :=
  (value.filter fun e => !e.2.isMarker).map fun e => (e.1.name, e.2)

/-- The names of the samples, what their parameters stand for, and their sources. -/
def catalogue : List (String × List (String × CellType) × String) :=
  let opening := "\x7b"
  let closing := "\x7d"
  let tagged := "struct Tagged<T> " ++ opening ++
    " #[record(required)] value: T, label: String, marker: PhantomData<T> " ++ closing
  [("Dog", [],
      "struct Dog " ++ opening ++ " #[record(required)] name: String, breed: String " ++ closing),
    ("Person", [],
      "struct Person " ++ opening ++ " #[record(required)] FirstName: String, " ++
        "#[record(required)] LastName: String " ++ closing),
    ("Profile", [],
      "struct Profile " ++ opening ++ " #[record(required)] id: u32, " ++
        "#[record(required)] handle: String, bio: String, age: Option<u8>, verified: bool " ++
        closing),
    ("Ticket", [],
      "#[record(builder = \"TicketDraft\", setter_prefix = \"set_\")] struct Ticket " ++ opening ++
        " #[record(required)] title: String, r#type: String, #[record(skip)] views: u64 " ++
        closing),
    ("Tagged<i64>", [("T", .integer true 64)], tagged),
    ("Tagged<f64>", [("T", .float)], tagged),
    ("Empty", [], "struct Empty;"),
    ("Hidden", [],
      "struct Hidden " ++ opening ++ " #[record(required)] __origin: i64, __state: String, " ++
        "__record: bool, __fields: u8 " ++ closing),
    ("Sample", [],
      "#[record(builder_suffix = \"Draft\", max_fields = 4)] struct Sample " ++ opening ++
        " ratio: f64, #[record(skip)] seen: u64, #[record(required)] HTTPCode: i64, " ++
        "_tags: Vec<i64>, #[record(required)] größe: u32 " ++ closing)]

/-- The sample with this name. -/
def named? (name : String) : Option Sample := do
  let (parameters, source) ← catalogue.lookup name
  ofSource? parameters source

end Sample

end Recordwright
