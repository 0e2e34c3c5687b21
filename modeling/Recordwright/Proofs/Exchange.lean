import Recordwright.Proofs.ByName
import Recordwright.Proofs.FreshBuild
import Recordwright.Proofs.Value.Json

/-!
# Records through JSON

The JSON object of a record has one member for each field, sorted by name.  Reading the members back
and assigning them undoes this, as long as no value is a floating number: each value survives its
text, the type of its field accepts it still, and as no two members share a name, the order of the
assignments does not matter.

The main statement is `Session.Reachable.export_import`.  On a fresh builder the assignments make a
record with the very same values.  On one that derives from the record they assign what it holds
already, and so the build hands back the record itself.
-/

namespace Recordwright

/-! ### Members by key -/

namespace Json.Tree

variable {α β : Type} {k : String} {v : α} {ms sorted : List (String × α)}

/-- A member with a new key is put among the others, none of which is dropped. -/
theorem perm_placed (new : k ∉ ms.map (·.1)) : (placed k v ms).Perm ((k, v) :: ms) := by
  induction ms with
  | nil => exact .refl _
  | cons m ms ih =>
    rw [List.map_cons, List.mem_cons, not_or] at new
    obtain ⟨k', v'⟩ := m
    unfold placed
    split
    · exact .refl _
    · rw [if_neg new.1]
      exact ((ih new.2).cons _).trans (.swap _ _ _)

/-- Members with different keys are sorted, and none is dropped. -/
theorem perm_foldl_placed (keys : ((ms ++ sorted).map (·.1)).Nodup) :
    (ms.foldl (fun sorted m => placed m.1 m.2 sorted) sorted).Perm (ms ++ sorted) := by
  induction ms generalizing sorted with
  | nil => exact .refl _
  | cons m ms ih =>
    rw [List.cons_append, List.map_cons, List.nodup_cons, List.map_append, List.mem_append,
      not_or] at keys
    -- the key is new among those that are sorted, or an older member would be replaced
    have put : (placed m.1 m.2 sorted).Perm (m :: sorted) := perm_placed keys.1.2
    -- the member moves to the front of those that are sorted already
    have moved : (ms ++ placed m.1 m.2 sorted).Perm (m :: (ms ++ sorted)) :=
      (put.append_left ms).trans List.perm_middle
    refine (ih ?_).trans moved
    rw [(moved.map _).nodup_iff, List.map_cons, List.nodup_cons, List.map_append, List.mem_append,
      not_or]
    exact keys

theorem perm_byKey (keys : (ms.map (·.1)).Nodup) : (byKey ms).Perm ms := by
  have all : (byKey ms).Perm (ms ++ []) := perm_foldl_placed (by rwa [List.append_nil])
  rwa [List.append_nil] at all

theorem placed_map (f : α → β) (k : String) (v : α) (ms : List (String × α)) :
    placed k (f v) (ms.map fun m => (m.1, f m.2)) =
      (placed k v ms).map fun m => (m.1, f m.2) := by
  induction ms with
  | nil => rfl
  | cons m ms ih =>
    simp only [List.map_cons, placed]
    split
    · rfl
    · split
      · rfl
      · rw [ih, List.map_cons]

theorem byKey_map (f : α → β) (ms : List (String × α)) :
    byKey (ms.map fun m => (m.1, f m.2)) = (byKey ms).map fun m => (m.1, f m.2) := by
  have sorted : ∀ sorted : List (String × α),
      (ms.map fun m => (m.1, f m.2)).foldl (fun sorted m => placed m.1 m.2 sorted)
        (sorted.map fun m => (m.1, f m.2)) =
      (ms.foldl (fun sorted m => placed m.1 m.2 sorted) sorted).map fun m => (m.1, f m.2) := by
    induction ms with
    | nil => exact fun _ => rfl
    | cons m ms ih =>
      intro sorted
      have put := placed_map f m.1 m.2 sorted
      rw [List.map_cons, List.foldl_cons, List.foldl_cons, ← ih, ← put]
  exact sorted []

end Json.Tree

/-! ### Reading members back -/

namespace Record

variable {r : Record} {field : String} {v : Value}

/-- The assignment that a member of an object amounts to: its value is read from the text of the
member. -/
def readMember (m : String × Json.Tree) : Except Json.Fault Assignment :=
  (Value.ofJson m.2.compact).map fun v => (m.1, v)

/-- The assignments that the members of an object amount to. -/
def readMembers (ms : List (String × Json.Tree)) : Except Json.Fault (List Assignment) :=
  ms.mapM readMember

/-- Members made of values that are no floating numbers are read back. -/
theorem readMembers_toTree {es : List (String × Value)}
    (plain : ∀ e ∈ es, e.2.storageType ≠ some .float) :
    readMembers (es.map fun e => (e.1, e.2.toTree)) = .ok es := by
  induction es with
  | nil => rfl
  | cons e es ih =>
    have one : readMember (e.1, e.2.toTree) = .ok e := by
      have value : Value.ofJson e.2.toTree.compact = .ok e.2 :=
        Value.ofJson_toJson (plain e List.mem_cons_self)
      rw [readMember, value]
      rfl
    have rest := ih fun e member => plain e (List.mem_cons_of_mem _ member)
    unfold readMembers at *
    rw [List.map_cons, List.mapM_cons, one, rest]
    rfl

/-- The object of a record is made of its entries by ascending names. -/
theorem toTree_eq (r : Record) :
    r.toTree = .object ((Json.Tree.byKey r.entries).map fun e => (e.1, e.2.toTree)) :=
  congrArg Json.Tree.object (Json.Tree.byKey_map Value.toTree r.entries)

theorem WellFormed.map_fst_entries (h : r.WellFormed) :
    r.entries.map (·.1) = r.schema.value.fields.map (·.name) := by
  refine List.map_fst_zip ?_
  rw [List.length_map, h.values_length]
  exact Nat.le_refl _

/-- The schema of a record admits its entries. -/
theorem WellFormed.admits_entry (h : r.WellFormed) {e : Assignment} (member : e ∈ r.entries) :
    r.schema.value.admits e = true := by
  obtain ⟨i, d, hd, name, value⟩ := h.exists_field_of_get? (h.mem_entries.mp member)
  obtain ⟨t, typed⟩ := h.schema.type?_isSome (List.getElem?_eq_some_iff.mp hd).1
  exact h.schema.admits_iff.mpr ⟨i, d, t, hd, name, typed, h.accepts i t e.2 typed value⟩

/-- In any order, the entries of a record give each field the value that the record has. -/
theorem WellFormed.lastValue_entries (h : r.WellFormed) {order : List Assignment}
    (perm : order.Perm r.entries) (field : String) : lastValue field order = r.get? field := by
  have names : (order.map (·.1)).Nodup := by
    rw [(perm.map _).nodup_iff, h.map_fst_entries]
    exact h.schema.descriptors.names_nodup
  cases shown : r.get? field with
  | none =>
    refine lastValue_eq_none fun e member same => ?_
    have there : r.get? e.1 = some e.2 := h.mem_entries.mp (perm.mem_iff.mp member)
    rw [same, shown] at there
    cases there
  | some v =>
    exact lastValue_of_mem names (perm.mem_iff.mpr (h.mem_entries.mpr shown))

/-- Records of one schema are equal if they show the same values. -/
theorem WellFormed.ext {q : Record} (hr : r.WellFormed) (hq : q.WellFormed)
    (schema : r.schema = q.schema)
    (shown : ∀ (i : Nat) (d : Descriptor), r.schema.value.fields[i]? = some d →
      r.get? d.name = q.get? d.name) : r = q := by
  have values : r.values = q.values := by
    refine List.ext_getElem? fun i => ?_
    -- each value is that of a field, and no value is behind the last field
    cases hd : r.schema.value.fields[i]? with
    | none =>
      have beyond : r.schema.value.size ≤ i := List.getElem?_eq_none_iff.mp hd
      rw [List.getElem?_eq_none (hr.values_length ▸ beyond),
        List.getElem?_eq_none (by rwa [hq.values_length, ← schema])]
    | some d =>
      rw [← Record.get?_name hr.schema hd, ← Record.get?_name hq.schema (schema ▸ hd)]
      exact shown i d hd
  obtain ⟨rSchema, rValues⟩ := r
  obtain ⟨qSchema, qValues⟩ := q
  obtain rfl : rSchema = qSchema := schema
  obtain rfl : rValues = qValues := values
  rfl

end Record

/-! ### Assigning what was read -/

namespace Builder

variable {r : Shared Record} {order : List Assignment}

/-- The entries of a record, in any order, make a record with the same values. -/
theorem build_fresh_entries (h : r.value.WellFormed) (perm : order.Perm r.value.entries)
    (heap : Heap) :
    (fresh r.value.schema).accepted order = order ∧
    (((fresh r.value.schema).attemptAll order).build heap).result = .ok ⟨heap.next, r.value⟩ := by
  have accepted : (fresh r.value.schema).accepted order = order :=
    accepted_eq_self fun e member => h.admits_entry (perm.mem_iff.mp member)
  have schema : ((fresh r.value.schema).attemptAll order).schema = r.value.schema :=
    schema_attemptAll _ order
  -- each field has a value, so none is missing
  have complete : ((fresh r.value.schema).attemptAll order).missing = [] := by
    refine (missing_fresh_eq_nil_iff h.schema order).mpr fun d hd _ => ?_
    obtain ⟨i, hi⟩ := List.getElem?_of_mem hd
    obtain ⟨t, v, -, -, -, shown⟩ := h.get?_name hi
    rw [isSet_fresh_attemptAll h.schema hi, accepted, h.lastValue_entries perm, shown]
    rfl
  have same : ((fresh r.value.schema).attemptAll order).freshRecord = r.value := by
    refine ((WellFormed.fresh h.schema).attemptAll order).freshRecord.ext h schema fun i d hd => ?_
    have hd : r.value.schema.value.fields[i]? = some d := schema ▸ hd
    obtain ⟨t, v, -, -, -, shown⟩ := h.get?_name hd
    obtain ⟨_, -, -, -, get⟩ := freshRecord_attemptAll h.schema hd order
    rw [get, accepted, h.lastValue_entries perm, shown, Option.getD_some]
  rw [build_fresh (origin_attemptAll _ order), if_pos complete, same]
  exact ⟨accepted, rfl⟩

/-- The entries of a record, in any order, change nothing of it, unless it holds a NaN. -/
theorem build_derive_entries (h : r.value.WellFormed) (perm : order.Perm r.value.entries)
    (numbers : ∀ v ∈ r.value.values, v.isNaN = false) (heap : Heap) :
    (derive r).accepted order = order ∧ (((derive r).attemptAll order).build heap).result = .ok r ∧
      (((derive r).attemptAll order).build heap).heap = heap := by
  have accepted : (derive r).accepted order = order :=
    accepted_eq_self fun e member => h.admits_entry (perm.mem_iff.mp member)
  -- what is assigned last is what the record has, and no other value than a NaN differs from itself
  have unchanged : ((derive r).attemptAll order).isChanged r.value = false := by
    refine (isChanged_derive_attemptAll h order).mpr fun field v last => ?_
    rw [accepted, h.lastValue_entries perm] at last
    obtain ⟨i, -, -, -, value⟩ := h.exists_field_of_get? last
    exact ⟨v, last, Value.equal_self (numbers v (List.mem_of_getElem? value))⟩
  rw [build_derive (origin_attemptAll _ order), unchanged]
  exact ⟨accepted, rfl, rfl⟩

end Builder

/-- **Export, then import.** Let `r` be a record of a reachable session none of whose values is a
floating number.

* Its JSON text holds an object with one member for each field, and no two members share a name.
* The text of each member is read as a value, which gives an assignment to the field of its name.
* In any order, all of these assignments are accepted.  On a fresh builder over the schema of `r`
  they make a record with the values of `r`; on a builder that derives from `r` they make no change,
  and the build gives `r` itself. -/
theorem Session.Reachable.export_import {s : Session} (h : s.Reachable) {r : Shared Record}
    (held : s.HoldsRecord r) (plain : ∀ v ∈ r.value.values, v.storageType ≠ some .float) :
    ∃ members as,
      r.value.toTree = .object members ∧
      Json.Tree.ofText r.value.toJson = .ok (.object members) ∧
      (members.map (·.1)).Perm (r.value.schema.value.fields.map (·.name)) ∧
      (members.map (·.1)).Nodup ∧
      Record.readMembers members = .ok as ∧
      ∀ order : List Assignment, order.Perm as → ∀ heap,
        (Builder.fresh r.value.schema).accepted order = order ∧
        (∃ copy : Shared Record, copy.value = r.value ∧
          (((Builder.fresh r.value.schema).attemptAll order).build heap).result = .ok copy) ∧
        (Builder.derive r).accepted order = order ∧
        (((Builder.derive r).attemptAll order).build heap).result = .ok r ∧
        (((Builder.derive r).attemptAll order).build heap).heap = heap := by
  have wellFormed := (h.sound.holdsRecord held).1
  have names : (r.value.entries.map (·.1)).Nodup := by
    rw [wellFormed.map_fst_entries]
    exact wellFormed.schema.descriptors.names_nodup
  have sorted : (Json.Tree.byKey r.value.entries).Perm r.value.entries := Json.Tree.perm_byKey names
  have values : ∀ e ∈ Json.Tree.byKey r.value.entries, e.2 ∈ r.value.values := fun e member =>
    (List.of_mem_zip (sorted.mem_iff.mp member)).2
  have readable : r.value.toTree.Readable Json.greatestDepth := by
    rw [Record.toTree_eq]
    refine .object fun m member => ?_
    obtain ⟨e, there, rfl⟩ := List.mem_map.mp member
    exact Value.readable_toTree (plain e.2 (values e there))
  -- the names of the members are those of the entries, which are those of the fields
  have keys : ((Json.Tree.byKey r.value.entries).map fun e => (e.1, e.2.toTree)).map (·.1) =
      (Json.Tree.byKey r.value.entries).map (·.1) := List.map_map
  have fields : ((Json.Tree.byKey r.value.entries).map (·.1)).Perm
      (r.value.schema.value.fields.map (·.name)) := wellFormed.map_fst_entries ▸ sorted.map _
  have read := Record.readMembers_toTree fun e member => plain e.2 (values e member)
  refine ⟨_, Json.Tree.byKey r.value.entries, r.value.toTree_eq, ?_, ?_, ?_, read, ?_⟩
  · rw [← Record.toTree_eq]
    exact readable.ofText_compact
  · rw [keys]
    exact fields
  · rw [keys, fields.nodup_iff]
    exact wellFormed.schema.descriptors.names_nodup
  · intro order perm heap
    have entries := perm.trans sorted
    have numbers : ∀ v ∈ r.value.values, v.isNaN = false := by
      intro v member
      cases v with
      | float x => exact absurd rfl (plain _ member)
      | _ => rfl
    obtain ⟨accepted, built⟩ := Builder.build_fresh_entries wellFormed entries heap
    have derived := Builder.build_derive_entries wellFormed entries numbers heap
    exact ⟨accepted, ⟨⟨heap.next, r.value⟩, rfl, built⟩, derived⟩

/-- A record of a session as a text, and back from there, the members in the other order. -/
theorem Session.export_import_dogSession :
    (∀ v ∈ drake.value.values, v.storageType ≠ some .float) ∧
    drake.value.toJson = "\x7b\"age\":null,\"name\":\"Drake\"\x7d" ∧
    Json.Tree.ofText drake.value.toJson =
      .ok (.object [("age", .null), ("name", .string "Drake")]) ∧
    (((Builder.derive drake).attemptAll [("name", .text "Drake"), ("age", .null)]).build
      dogSession.heap).result = .ok drake := by
  have reachable : dogSession.Reachable :=
    (Reachable.create "Dog" dogShape {} .memoized .start).run _
  have held : dogSession.HoldsRecord drake := .inl ⟨"drake", (Option.some_get _).symm⟩
  have plain : ∀ v ∈ drake.value.values, v.storageType ≠ some .float := by decide +kernel
  obtain ⟨members, as, tree, text, -, -, read, imports⟩ := reachable.export_import held plain
  have entries : Json.Tree.byKey drake.value.entries =
      [("age", .null), ("name", .text "Drake")] := by decide +kernel
  rw [Record.toTree_eq, entries] at tree
  obtain rfl := Json.Tree.object.inj tree
  rw [Record.readMembers_toTree (by decide)] at read
  obtain rfl := Except.ok.inj read
  obtain ⟨-, -, -, built, -⟩ := imports _ (.swap _ _ _) dogSession.heap
  exact ⟨plain, by decide +kernel, text, built⟩

end Recordwright
