import Recordwright.Proofs.Descriptors
import Recordwright.Memo

/-!
# What the memo holds

The memo is *sound* (`Memo.Sound`) when each of its entries holds the descriptors that the
extraction of its key gives.  The empty memo is sound and every call keeps that, whatever the key
and whether or not the call succeeds (`Sound.extract`).  From a sound memo a call answers what the
extraction without a memo answers (`Sound.map_extract`), so the memo shows in the places of
descriptors only.

A call finds an entry, fails, or adds one; `extract_cases` says what it does in each case, and the
other statements about a call are read off from it.  In particular a call never touches the entries
that are there: they are a suffix of those after it (`suffix_extract`), no key gets a second one
(`nodup_keys_extract`), and so what was once found for a key is found ever after
(`lookup?_of_suffix`).
-/

namespace Recordwright.Memo

variable {m later : Memo} {heap : Heap} {shape : Shape} {limits : Limits}

/-! ### Entries -/

/-- The keys that have an entry. -/
def keys (m : Memo) : List (Shape × Limits) := m.entries.map (·.1)

/-- Nothing is found for a key iff it has no entry. -/
theorem lookup?_eq_none_iff : m.lookup? shape limits = none ↔ (shape, limits) ∉ m.keys := by
  rw [lookup?, Option.map_eq_none_iff, List.find?_eq_none, keys, List.mem_map, not_exists]
  refine forall_congr' fun entry => ?_
  rw [beq_iff_eq, not_and]

/-- What is found for a key is in an entry of that key. -/
theorem mem_of_lookup? {ds : Shared Descriptors} (found : m.lookup? shape limits = some ds) :
    ((shape, limits), ds) ∈ m.entries := by
  obtain ⟨⟨key, ds'⟩, entry, rfl⟩ := Option.map_eq_some_iff.mp found
  have equal : key = (shape, limits) := by simpa using List.find?_some entry
  exact equal ▸ List.mem_of_find?_eq_some entry

/-- If no key has two entries, what is found for a key is what its entry holds. -/
theorem lookup?_eq_some_iff (unique : m.keys.Nodup) {ds : Shared Descriptors} :
    m.lookup? shape limits = some ds ↔ ((shape, limits), ds) ∈ m.entries := by
  refine ⟨mem_of_lookup?, fun entry => ?_⟩
  cases found : m.lookup? shape limits with
  | none =>
    have listed : (shape, limits) ∈ m.keys := List.mem_map_of_mem (f := (·.1)) entry
    exact absurd listed (lookup?_eq_none_iff.mp found)
  | some old =>
    -- both entries have one key, so they are one entry
    have same : ((shape, limits), old) = ((shape, limits), ds) :=
      List.inj_on_of_nodup_map unique (mem_of_lookup? found) entry rfl
    rw [(Prod.mk.inj same).2]

/-- What is found for a key is still found when entries for other keys were added in front. -/
theorem lookup?_of_suffix (unique : later.keys.Nodup) (kept : m.entries <:+ later.entries)
    {ds : Shared Descriptors} (found : m.lookup? shape limits = some ds) :
    later.lookup? shape limits = some ds :=
  (lookup?_eq_some_iff unique).mpr (kept.subset (mem_of_lookup? found))

/-! ### Soundness -/

/-- Each entry holds what the extraction of its key gives. -/
def Sound (m : Memo) : Prop :=
  ∀ key ds, (key, ds) ∈ m.entries → Shape.extract key.1 key.2 = .ok ds.value

theorem sound_empty : Sound {} := fun _ _ h => absurd h List.not_mem_nil

/-- What the memo has for a key is what the extraction gives. -/
theorem Sound.of_lookup? (h : m.Sound) {ds : Shared Descriptors}
    (found : m.lookup? shape limits = some ds) : shape.extract limits = .ok ds.value :=
  h (shape, limits) ds (mem_of_lookup? found)

/-! ### Offers -/

theorem insertIfAbsent_of_none (none : m.lookup? shape limits = none) (ds : Shared Descriptors) :
    m.insertIfAbsent shape limits ds = ⟨((shape, limits), ds) :: m.entries⟩ := by
  rw [insertIfAbsent, none]

theorem insertIfAbsent_of_some {old : Shared Descriptors}
    (found : m.lookup? shape limits = some old) (ds : Shared Descriptors) :
    m.insertIfAbsent shape limits ds = m := by
  rw [insertIfAbsent, found]

/-- After an offer the key has the entry that it had before, or else what was offered. -/
theorem lookup?_insertIfAbsent (m : Memo) (shape : Shape) (limits : Limits)
    (ds : Shared Descriptors) :
    (m.insertIfAbsent shape limits ds).lookup? shape limits =
      some ((m.lookup? shape limits).getD ds) := by
  cases found : m.lookup? shape limits with
  | some old => rw [insertIfAbsent_of_some found, found, Option.getD_some]
  | none =>
    rw [insertIfAbsent_of_none found]
    simp [lookup?]

/-- An entry that holds what the extraction gives may be offered. -/
theorem Sound.insertIfAbsent (h : m.Sound) {ds : Shared Descriptors}
    (extracted : shape.extract limits = .ok ds.value) :
    (m.insertIfAbsent shape limits ds).Sound := by
  cases found : m.lookup? shape limits with
  -- another call was first, and its entry stays
  | some old => rwa [insertIfAbsent_of_some found]
  | none =>
    rw [insertIfAbsent_of_none found]
    intro key ds' member
    rcases List.mem_cons.mp member with equal | old
    · obtain ⟨rfl, rfl⟩ := Prod.mk.inj equal
      exact extracted
    · exact h key ds' old

/-- An offer keeps the entries that are there. -/
theorem suffix_insertIfAbsent (m : Memo) (shape : Shape) (limits : Limits)
    (ds : Shared Descriptors) : m.entries <:+ (m.insertIfAbsent shape limits ds).entries := by
  cases found : m.lookup? shape limits with
  | some old =>
    simp only [insertIfAbsent_of_some found, List.suffix_rfl]
  | none =>
    rw [insertIfAbsent_of_none found]
    exact List.suffix_cons _ _

theorem nodup_keys_insertIfAbsent (unique : m.keys.Nodup) (shape : Shape) (limits : Limits)
    (ds : Shared Descriptors) : (m.insertIfAbsent shape limits ds).keys.Nodup := by
  cases found : m.lookup? shape limits with
  | some old => rwa [insertIfAbsent_of_some found]
  | none =>
    rw [insertIfAbsent_of_none found, keys, List.map_cons, List.nodup_cons]
    exact ⟨lookup?_eq_none_iff.mp found, unique⟩

/-! ### Calls -/

/-- **What a call does.** It finds an entry and leaves all as it is, or the extraction fails and all
is left as it is too, or what was extracted is put at a new place and entered. -/
theorem extract_cases (m : Memo) (heap : Heap) (shape : Shape) (limits : Limits) :
    (∃ found, m.lookup? shape limits = some found ∧
      m.extract heap shape limits = (.ok found, m, heap)) ∨
    (∃ e, m.lookup? shape limits = none ∧ shape.extract limits = .error e ∧
      m.extract heap shape limits = (.error e, m, heap)) ∨
    ∃ ds, m.lookup? shape limits = none ∧ shape.extract limits = .ok ds ∧
      m.extract heap shape limits =
        (.ok ⟨heap.next, ds⟩, m.insertIfAbsent shape limits ⟨heap.next, ds⟩, ⟨heap.next + 1⟩) := by
  unfold extract
  cases found : m.lookup? shape limits with
  | some old => exact .inl ⟨old, rfl, rfl⟩
  | none =>
    cases extracted : shape.extract limits with
    | error e => exact .inr (.inl ⟨e, rfl, rfl, rfl⟩)
    | ok ds => exact .inr (.inr ⟨ds, rfl, rfl, rfl⟩)

theorem Sound.extract (h : m.Sound) (heap : Heap) (shape : Shape) (limits : Limits) :
    (m.extract heap shape limits).2.1.Sound := by
  -- only the last kind of call changes the memo, and what it enters was extracted
  obtain ⟨found, -, call⟩ | ⟨e, -, -, call⟩ | ⟨ds, -, extracted, call⟩ :=
    m.extract_cases heap shape limits
  · rwa [call]
  · rwa [call]
  · rw [call]
    exact h.insertIfAbsent extracted

/-- **A call answers what the extraction answers**: the same descriptors, or the same error. -/
theorem Sound.map_extract (h : m.Sound) (heap : Heap) (shape : Shape) (limits : Limits) :
    (m.extract heap shape limits).1.map (·.value) = shape.extract limits := by
  -- an entry that is found holds what the extraction gives, since the memo is sound
  obtain ⟨found, old, call⟩ | ⟨e, -, failed, call⟩ | ⟨ds, -, extracted, call⟩ :=
    m.extract_cases heap shape limits
  · rw [call, h.of_lookup? old]
    rfl
  · rw [call, failed]
    rfl
  · rw [call, extracted]
    rfl

theorem suffix_extract (m : Memo) (heap : Heap) (shape : Shape) (limits : Limits) :
    m.entries <:+ (m.extract heap shape limits).2.1.entries := by
  obtain ⟨found, -, call⟩ | ⟨e, -, -, call⟩ | ⟨ds, -, -, call⟩ := m.extract_cases heap shape limits
  · simp only [call, List.suffix_rfl]
  · simp only [call, List.suffix_rfl]
  · rw [call]
    exact m.suffix_insertIfAbsent shape limits _

theorem nodup_keys_extract (unique : m.keys.Nodup) (heap : Heap) (shape : Shape)
    (limits : Limits) : (m.extract heap shape limits).2.1.keys.Nodup := by
  obtain ⟨found, -, call⟩ | ⟨e, -, -, call⟩ | ⟨ds, -, -, call⟩ := m.extract_cases heap shape limits
  · rwa [call]
  · rwa [call]
  · rw [call]
    exact nodup_keys_insertIfAbsent unique shape limits _

/-- If the extraction fails, a call leaves the memo as it is. -/
theorem Sound.extract_of_error (h : m.Sound) {e : ShapeError}
    (failed : shape.extract limits = .error e) (heap : Heap) :
    m.extract heap shape limits = (.error e, m, heap) := by
  obtain ⟨found, old, -⟩ | ⟨e', -, failed', call⟩ | ⟨ds, -, extracted, -⟩ :=
    m.extract_cases heap shape limits
  · -- an entry would hold what the extraction gives
    rw [h.of_lookup? old] at failed
    cases failed
  · rw [failed, Except.error.injEq] at failed'
    rw [call, failed']
  · rw [extracted] at failed
    cases failed

/-- After a call that succeeds the memo has its answer. -/
theorem lookup?_extract {ds : Shared Descriptors} (ok : (m.extract heap shape limits).1 = .ok ds) :
    (m.extract heap shape limits).2.1.lookup? shape limits = some ds := by
  obtain ⟨found, old, call⟩ | ⟨e, -, -, call⟩ | ⟨fresh, none, -, call⟩ :=
    m.extract_cases heap shape limits
  · rw [call, Except.ok.injEq] at ok
    rw [call, ← ok]
    exact old
  · rw [call] at ok
    cases ok
  · rw [call, Except.ok.injEq] at ok
    rw [call, ← ok, lookup?_insertIfAbsent, none, Option.getD_none]

theorem extract_of_lookup? {ds : Shared Descriptors} (found : m.lookup? shape limits = some ds)
    (heap : Heap) : m.extract heap shape limits = (.ok ds, m, heap) := by
  rw [Memo.extract, found]

theorem next_le_extract (m : Memo) (heap : Heap) (shape : Shape) (limits : Limits) :
    heap.next ≤ (m.extract heap shape limits).2.2.next := by
  obtain ⟨found, -, call⟩ | ⟨e, -, -, call⟩ | ⟨ds, -, -, call⟩ := m.extract_cases heap shape limits
  · simp only [call, Nat.le_refl]
  · simp only [call, Nat.le_refl]
  · rw [call]
    exact Nat.le_succ _

end Recordwright.Memo
