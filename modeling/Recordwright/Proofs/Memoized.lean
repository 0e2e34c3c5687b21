import Recordwright.Memo.Call
import Recordwright.Proofs.Schema

/-!
# The memo does not show

Descriptors are extracted and schemas are made through one memo, call after call, for any shapes and
options (`MemoUse`).  `MemoState.after` is what such calls leave behind, whether they succeed or
fail.

A schema asks the memo for descriptors as an extraction does, so both kinds of calls do the same to
it (`memo_use`).  Hence one invariant carries everything, `MemoState.Consistent`: each entry holds
what the extraction of its key gives, and no key has two entries.  The main statement,
`MemoState.memo_invisible`, says that entries are only ever added, and that every answer is the one
that is given without a memo.
-/

namespace Recordwright

/-- What goes through the memo. -/
inductive MemoUse where
  /-- The extraction of descriptors. -/
  | extract (shape : Shape) (limits : Limits)
  /-- The making of a schema. -/
  | schema (shape : Shape) (options : Options)

namespace MemoUse

/-- The shape that is extracted. -/
def shape : MemoUse → Shape
  | .extract shape _ => shape
  | .schema shape _ => shape

/-- The limits within which it is extracted. -/
def limits : MemoUse → Limits
  | .extract _ limits => limits
  | .schema _ options => options.limits

end MemoUse

namespace MemoState

variable {s : MemoState}

/-- The state after a use.  A schema that is made is put at a place of its own. -/
def use (s : MemoState) : MemoUse → MemoState
  | .extract shape limits =>
    let (_, memo, heap) := s.memo.extract s.heap shape limits
    ⟨memo, heap⟩
  | .schema shape options =>
    match Schema.ofShapeMemoized s.memo s.heap shape options with
    | (.error _, memo, heap) => ⟨memo, heap⟩
    | (.ok schema, memo, heap) => ⟨memo, (heap.allocate schema).2⟩

/-- The state after uses one by one. -/
def after (s : MemoState) (uses : List MemoUse) : MemoState := uses.foldl use s

/-! ### One use -/

/-- Every use does to the memo what the extraction of its key does. -/
theorem memo_use (s : MemoState) (u : MemoUse) :
    (s.use u).memo = (s.memo.extract s.heap u.shape u.limits).2.1 := by
  cases u with
  | extract shape limits => rfl
  | schema shape options =>
    have memo : (Schema.ofShapeMemoized s.memo s.heap shape options).2.1 =
        (s.memo.extract s.heap shape options.limits).2.1 :=
      congrArg Prod.fst (Schema.ofShapeMemoized_snd s.memo s.heap shape options)
    show (s.use (.schema shape options)).memo = (s.memo.extract s.heap shape options.limits).2.1
    rw [← memo, use]
    -- a schema that is made changes the heap alone
    rcases Schema.ofShapeMemoized s.memo s.heap shape options with ⟨_ | schema, memo', heap⟩ <;> rfl

/-- **The invariant of the memo.** Each entry holds what the extraction of its key gives, and no key
has two entries. -/
structure Consistent (s : MemoState) : Prop where
  sound : s.memo.Sound
  unique : s.memo.keys.Nodup

theorem Consistent.start : Consistent {} where
  sound := Memo.sound_empty
  unique := List.nodup_nil

/-- A use keeps the invariant. -/
theorem Consistent.use (h : s.Consistent) (u : MemoUse) : (s.use u).Consistent where
  sound := by
    rw [memo_use]
    exact h.sound.extract s.heap u.shape u.limits
  unique := by
    rw [memo_use]
    exact Memo.nodup_keys_extract h.unique s.heap u.shape u.limits

/-- A use keeps the entries that are there. -/
theorem suffix_use (s : MemoState) (u : MemoUse) : s.memo.entries <:+ (s.use u).memo.entries := by
  rw [memo_use]
  exact s.memo.suffix_extract s.heap u.shape u.limits

/-- A use whose extraction fails adds no entry. -/
theorem Consistent.memo_use_of_error (h : s.Consistent) {u : MemoUse} {e : ShapeError}
    (failed : u.shape.extract u.limits = .error e) : (s.use u).memo = s.memo := by
  rw [memo_use, h.sound.extract_of_error failed]

/-! ### Any number of uses -/

/-- So it holds after any number of them. -/
theorem Consistent.after (h : s.Consistent) (uses : List MemoUse) : (s.after uses).Consistent := by
  induction uses generalizing s with
  | nil => exact h
  | cons u rest ih => exact ih (h.use u)

/-- Entries stay for good. -/
theorem suffix_after (s : MemoState) (uses : List MemoUse) :
    s.memo.entries <:+ (s.after uses).memo.entries := by
  induction uses generalizing s with
  | nil => exact List.suffix_rfl
  | cons u rest ih => exact (s.suffix_use u).trans (ih (s.use u))

/-- A key that was extracted once is answered with the same object ever after. -/
theorem Consistent.extract_again (h : s.Consistent) {shape : Shape} {limits : Limits}
    {ds : Shared Descriptors} (ok : (s.memo.extract s.heap shape limits).1 = .ok ds)
    (uses : List MemoUse) (heap : Heap) :
    ((s.use (.extract shape limits)).after uses).memo.extract heap shape limits =
      (.ok ds, ((s.use (.extract shape limits)).after uses).memo, heap) := by
  -- the call leaves an entry with its answer, and entries stay
  have entered : (s.use (.extract shape limits)).memo.lookup? shape limits = some ds := by
    rw [memo_use]
    exact Memo.lookup?_extract ok
  have later := (h.use (.extract shape limits)).after uses
  have kept := (s.use (.extract shape limits)).suffix_after uses
  exact Memo.extract_of_lookup? (Memo.lookup?_of_suffix later.unique kept entered) heap

/-- **The memo does not show.** Start from the empty memo, and let `s` be the state after any uses.

* Each entry holds what the extraction of its key gives, and no key has two entries.
* Whatever is done next, the entries of `s` stay as they are, and an extraction that fails adds
  none.
* To extract a shape from `s` gives the descriptors, or the error, that it gives without a memo.
* If that succeeds, every later extraction of the shape within the limits gives the same object.
* To make a schema from `s` gives the schema — descriptors, description and types — or the error
  that it gives without a memo. -/
theorem memo_invisible (uses more : List MemoUse) (shape : Shape) (limits : Limits)
    (options : Options) :
    let s := MemoState.after {} uses
    (∀ key ds, (key, ds) ∈ s.memo.entries → Shape.extract key.1 key.2 = .ok ds.value) ∧
    s.memo.keys.Nodup ∧
    s.memo.entries <:+ (s.after more).memo.entries ∧
    (∀ (u : MemoUse) (e : ShapeError), u.shape.extract u.limits = .error e →
      (s.use u).memo = s.memo) ∧
    (s.memo.extract s.heap shape limits).1.map (·.value) = shape.extract limits ∧
    (∀ ds, (s.memo.extract s.heap shape limits).1 = .ok ds →
      let t := (s.use (.extract shape limits)).after more
      (t.memo.extract t.heap shape limits).1 = .ok ds) ∧
    (Schema.ofShapeMemoized s.memo s.heap shape options).1 = Schema.ofShape shape options := by
  intro s
  have consistent : s.Consistent := Consistent.start.after uses
  refine ⟨consistent.sound, consistent.unique, s.suffix_after more, ?_, ?_, ?_, ?_⟩
  · intro u e failed
    exact consistent.memo_use_of_error failed
  · exact consistent.sound.map_extract s.heap shape limits
  · intro ds ok t
    rw [consistent.extract_again ok more t.heap]
  · exact Schema.ofShapeMemoized_fst consistent.sound s.heap shape options

/-- A shape with two fields. -/
def pairShape : Shape := ((Shape.named "Pair").requiredField "left" "int").field "right" "text?"

/-- A schema was made of a shape, and the shape failed within narrower limits.  There is one entry;
the shape fails again within those limits, and within the first ones it is the same object before
and after it was extracted within wider ones. -/
theorem memo_invisible_pair :
    let s := MemoState.after {} [.schema pairShape {}, .extract pairShape ⟨some 1⟩]
    let t := (s.use (.extract pairShape {})).after [.extract pairShape ⟨some 2⟩]
    s.memo.keys = [(pairShape, {})] ∧ t.memo.keys = [(pairShape, ⟨some 2⟩), (pairShape, {})] ∧
    (s.memo.extract s.heap pairShape ⟨some 1⟩).1.map (·.value) =
      .error (.tooManyFields "Pair" 2 1) ∧
    ∃ ds, (s.memo.extract s.heap pairShape {}).1 = .ok ds ∧
      (t.memo.extract t.heap pairShape {}).1 = .ok ds := by
  intro s t
  obtain ⟨-, -, -, -, narrow, -, -⟩ :=
    memo_invisible [.schema pairShape {}, .extract pairShape ⟨some 1⟩] [] pairShape ⟨some 1⟩ {}
  obtain ⟨-, -, -, -, -, again, -⟩ :=
    memo_invisible [.schema pairShape {}, .extract pairShape ⟨some 1⟩]
      [.extract pairShape ⟨some 2⟩] pairShape {} {}
  have first : ∃ ds, (s.memo.extract s.heap pairShape {}).1 = .ok ds := by
    cases answer : (s.memo.extract s.heap pairShape {}).1 with
    | ok ds => exact ⟨ds, rfl⟩
    | error e =>
      have found : (s.memo.extract s.heap pairShape {}).1.isOk = true := by decide +kernel
      rw [answer] at found
      cases found
  obtain ⟨ds, ok⟩ := first
  refine ⟨by decide +kernel, by decide +kernel, narrow.trans (by decide +kernel), ds, ok, ?_⟩
  exact again ds ok

end MemoState

end Recordwright
