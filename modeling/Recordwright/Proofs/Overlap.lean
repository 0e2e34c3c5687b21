import Recordwright.Proofs.Memoized

/-!
# Calls of the memo that overlap

Any number of calls run on one memo, and a schedule says whose step is next.  A call looks its key
up, extracts on a miss, and offers what it extracted; another call may take all of its steps in
between.  So two calls can miss one key, and each keeps what it extracted: calls that overlap may
give different objects for one key (`Call.not_all_shared`).

What holds under every schedule is said by `Call.overlapping_calls`.  A call ends after three steps
of its own, all answers are those of the extraction, a key never has two entries, entries stay, and
once some call for a key has succeeded, each call for this key that begins later gives the object
that the memo holds.
-/

namespace Recordwright.Call

variable {s : MemoState} {key : Shape × Limits} {call : Call} {keys : List (Shape × Limits)}
  {calls : List Call}

/-- Calls for these keys before their first step. -/
def beginAll (keys : List (Shape × Limits)) : List Call := keys.map fun k => .begun k.1 k.2

/-- A call for a key on its way: what it extracted or answers is what the extraction gives, and if
it succeeded, the memo has an entry for the key. -/
def Fits (s : MemoState) (key : Shape × Limits) : Call → Prop
  | .begun shape limits => key = (shape, limits)
  | .missed shape limits => key = (shape, limits)
  | .extracted shape limits ds => key = (shape, limits) ∧ shape.extract limits = .ok ds.value
  | .ended answer => answer.map (·.value) = key.1.extract key.2 ∧
      ∀ ds, answer = .ok ds → ∃ e, s.memo.lookup? key.1 key.2 = some e

/-! ### One step -/

/-- A call still fits when other calls have added entries. -/
theorem Fits.later {t : MemoState} (h : call.Fits s key) (unique : t.memo.keys.Nodup)
    (kept : s.memo.entries <:+ t.memo.entries) : call.Fits t key := by
  cases call with
  | begun | missed | extracted => exact h
  | ended answer =>
    refine ⟨h.1, fun ds ok => ?_⟩
    obtain ⟨e, found⟩ := h.2 ds ok
    exact ⟨e, Memo.lookup?_of_suffix unique kept found⟩

/-- **One step** keeps the memo consistent and its entries, and the call still fits. -/
theorem Fits.step (h : call.Fits s key) (consistent : s.Consistent) :
    (call.step s).2.Consistent ∧ s.memo.entries <:+ (call.step s).2.memo.entries ∧
      (call.step s).1.Fits (call.step s).2 key := by
  cases call with
  | begun shape limits =>
    obtain rfl := h
    rw [Call.step]
    cases found : s.memo.lookup? shape limits with
    | none => exact ⟨consistent, List.suffix_rfl, rfl⟩
    | some e =>
      -- another call has entered what this one looks for
      have extracted := consistent.sound.of_lookup? found
      exact ⟨consistent, List.suffix_rfl, extracted.symm, fun ds _ => ⟨e, found⟩⟩
  | missed shape limits =>
    obtain rfl := h
    rw [Call.step]
    cases extracted : shape.extract limits with
    | error e => exact ⟨consistent, List.suffix_rfl, extracted.symm, fun ds ok => by cases ok⟩
    | ok ds => exact ⟨⟨consistent.sound, consistent.unique⟩, List.suffix_rfl, rfl, extracted⟩
  | extracted shape limits ds =>
    obtain ⟨rfl, extracted⟩ := h
    have sound := consistent.sound.insertIfAbsent extracted
    have unique := Memo.nodup_keys_insertIfAbsent consistent.unique shape limits ds
    have kept := s.memo.suffix_insertIfAbsent shape limits ds
    -- the offer is taken or another call was faster, so there is an entry in any case
    have entered := s.memo.lookup?_insertIfAbsent shape limits ds
    exact ⟨⟨sound, unique⟩, kept, extracted.symm, fun _ _ => ⟨_, entered⟩⟩
  | ended answer => exact ⟨consistent, List.suffix_rfl, h⟩

/-! ### Any schedule -/

/-- The memo is consistent, and at each position is a call for the key at this position. -/
structure Underway (keys : List (Shape × Limits)) (calls : List Call) (s : MemoState) : Prop where
  consistent : s.Consistent
  length : calls.length = keys.length
  fits : ∀ (i : Nat) (key : Shape × Limits) (call : Call),
    keys[i]? = some key → calls[i]? = some call → call.Fits s key

theorem Underway.start (keys : List (Shape × Limits)) : Underway keys (beginAll keys) {} where
  consistent := .start
  length := List.length_map _
  fits := by
    intro i key call hk hc
    rw [beginAll, List.getElem?_map, hk, Option.map_some, Option.some.injEq] at hc
    obtain rfl := hc
    rfl

/-- The step of one call, said by position. -/
theorem stepAt_of_getElem? {i : Nat} (hc : calls[i]? = some call) :
    stepAt i calls s = (calls.set i (call.step s).1, (call.step s).2) := by
  rw [stepAt, hc]

theorem stepAt_of_none {i : Nat} (hc : calls[i]? = none) : stepAt i calls s = (calls, s) := by
  rw [stepAt, hc]

/-- The other calls stand where they stood. -/
theorem getElem?_stepAt_of_ne {i j : Nat} (ne : j ≠ i) (hc : calls[i]? = some call) :
    (stepAt j calls s).1[i]? = some call := by
  cases hj : calls[j]? with
  | none => rwa [stepAt_of_none hj]
  | some other => rwa [stepAt_of_getElem? hj, List.getElem?_set_ne ne]

/-- The call that takes the step stands at the same position after it. -/
theorem getElem?_stepAt_self {i : Nat} (hc : calls[i]? = some call) :
    (stepAt i calls s).1[i]? = some (call.step s).1 := by
  have inside : i < calls.length := (List.getElem?_eq_some_iff.mp hc).1
  rw [stepAt_of_getElem? hc, List.getElem?_set_self inside]

theorem Underway.stepAt (h : Underway keys calls s) (i : Nat) :
    Underway keys (Call.stepAt i calls s).1 (Call.stepAt i calls s).2 ∧
      s.memo.entries <:+ (Call.stepAt i calls s).2.memo.entries := by
  cases hc : calls[i]? with
  | none =>
    rw [stepAt_of_none hc]
    exact ⟨h, List.suffix_rfl⟩
  | some call =>
    have inside : i < calls.length := (List.getElem?_eq_some_iff.mp hc).1
    obtain ⟨key, hk⟩ : ∃ key, keys[i]? = some key :=
      ⟨_, List.getElem?_eq_getElem (h.length ▸ inside)⟩
    obtain ⟨consistent, kept, fits⟩ := (h.fits i key call hk hc).step h.consistent
    rw [stepAt_of_getElem? hc]
    refine ⟨⟨consistent, by rw [List.length_set, h.length], fun j key' call' hk' hc' => ?_⟩, kept⟩
    by_cases same : j = i
    · subst same
      rw [List.getElem?_set_self inside, Option.some.injEq] at hc'
      rw [hk, Option.some.injEq] at hk'
      rw [← hc', ← hk']
      exact fits
    · -- the other calls stand where they stood
      rw [List.getElem?_set_ne fun equal => same equal.symm] at hc'
      exact (h.fits j key' call' hk' hc').later consistent.unique kept

/-- **A run by any schedule** keeps the calls underway and the entries in place. -/
theorem Underway.run (h : Underway keys calls s) (schedule : List Nat) :
    Underway keys (Call.run schedule calls s).1 (Call.run schedule calls s).2 ∧
      s.memo.entries <:+ (Call.run schedule calls s).2.memo.entries := by
  -- the calls and the state change along the schedule, so both are general
  induction schedule generalizing calls s with
  | nil => exact ⟨h, List.suffix_rfl⟩
  | cons i rest ih =>
    obtain ⟨next, kept⟩ := h.stepAt i
    obtain ⟨last, kept'⟩ := ih next
    exact ⟨last, kept.trans kept'⟩

/-! ### Calls that begin late -/

/-- A call that has not begun, or has found this object. -/
def WillFind (e : Shared Descriptors) (key : Shape × Limits) (call : Call) : Prop :=
  call = .begun key.1 key.2 ∨ call = .ended (.ok e)

/-- A call that begins when its key has an entry finds that. -/
theorem WillFind.step {e : Shared Descriptors} (h : WillFind e key call)
    (found : s.memo.lookup? key.1 key.2 = some e) : WillFind e key (call.step s).1 := by
  rcases h with rfl | rfl
  · rw [Call.step, found]
    exact .inr rfl
  · exact .inr rfl

/-- So it is under every schedule, since the entry stays. -/
theorem WillFind.run {e : Shared Descriptors} {i : Nat} (h : WillFind e key call)
    (underway : Underway keys calls s) (hc : calls[i]? = some call)
    (found : s.memo.lookup? key.1 key.2 = some e) (schedule : List Nat) :
    ∃ late, (Call.run schedule calls s).1[i]? = some late ∧ WillFind e key late := by
  -- while other calls step, the entry stays and this call stands
  induction schedule generalizing calls s call with
  | nil => exact ⟨call, hc, h⟩
  | cons j rest ih =>
    obtain ⟨next, kept⟩ := underway.stepAt j
    have found' := Memo.lookup?_of_suffix next.consistent.unique kept found
    by_cases same : j = i
    · subst same
      exact ih (h.step found) next (getElem?_stepAt_self hc) found'
    · exact ih h next (getElem?_stepAt_of_ne same hc) found'

/-! ### Calls end -/

/-- How many more steps a call can need. -/
def stepsLeft : Call → Nat
  | .begun .. => 3
  | .missed .. => 2
  | .extracted .. => 1
  | .ended _ => 0

theorem stepsLeft_step (call : Call) (s : MemoState) :
    (call.step s).1.stepsLeft ≤ call.stepsLeft - 1 := by
  cases call with
  | begun shape limits =>
    rw [step]
    cases s.memo.lookup? shape limits <;> simp [stepsLeft]
  | missed shape limits =>
    rw [step]
    cases shape.extract limits <;> simp [stepsLeft]
  | extracted shape limits ds => exact Nat.le_refl _
  | ended answer => exact Nat.le_refl _

theorem exists_answer_of_stepsLeft (h : call.stepsLeft = 0) : ∃ answer, call = .ended answer := by
  cases call with
  | ended answer => exact ⟨answer, rfl⟩
  | begun | missed | extracted => cases h

/-- A call that the schedule names often enough ends, whatever the others do in between. -/
theorem exists_answer_run {i : Nat} (hc : calls[i]? = some call) (schedule : List Nat)
    (enough : call.stepsLeft ≤ schedule.count i) :
    ∃ answer, (run schedule calls s).1[i]? = some (.ended answer) := by
  induction schedule generalizing calls s call with
  | nil =>
    rw [List.count_nil, Nat.le_zero] at enough
    obtain ⟨answer, rfl⟩ := exists_answer_of_stepsLeft enough
    exact ⟨answer, hc⟩
  | cons j rest ih =>
    by_cases same : j = i
    · -- one of its own steps
      subst same
      rw [List.count_cons_self] at enough
      have left : (call.step s).1.stepsLeft ≤ rest.count j :=
        Nat.le_trans (stepsLeft_step call s) (Nat.sub_le_of_le_add enough)
      exact ih (getElem?_stepAt_self hc) left
    · rw [List.count_cons_of_ne same] at enough
      exact ih (getElem?_stepAt_of_ne same hc) enough

/-! ### Main statements -/

/-- **Calls that overlap.** Begin any calls with the empty memo, run them by any schedule, and then
on by another one.

* A call that was given three steps has its answer, and each answer is the one that the extraction
  of the key gives.
* No key has two entries, and entries stay.
* If a call has succeeded, the memo has an entry for its key, with the same descriptors; and each
  call for this key that had not begun by then can only answer with the object of this entry. -/
theorem overlapping_calls (keys : List (Shape × Limits)) (first rest : List Nat) :
    let r := run first (beginAll keys) {}
    let t := run rest r.1 r.2
    (∀ (i : Nat), i < keys.length → 3 ≤ first.count i →
      ∃ answer, r.1[i]? = some (.ended answer)) ∧
    (∀ (i : Nat) (key : Shape × Limits) (answer : Except ShapeError (Shared Descriptors)),
      keys[i]? = some key → r.1[i]? = some (.ended answer) →
        answer.map (·.value) = key.1.extract key.2) ∧
    r.2.memo.keys.Nodup ∧ r.2.memo.entries <:+ t.2.memo.entries ∧
    ∀ (i : Nat) (key : Shape × Limits) (ds : Shared Descriptors),
      keys[i]? = some key → r.1[i]? = some (.ended (.ok ds)) →
        ∃ e, r.2.memo.lookup? key.1 key.2 = some e ∧ e.value = ds.value ∧
          ∀ (j : Nat) (answer : Except ShapeError (Shared Descriptors)),
            r.1[j]? = some (.begun key.1 key.2) → t.1[j]? = some (.ended answer) →
              answer = .ok e := by
  intro r t
  -- The invariant holds after any steps, and entries stay; only the last claim looks at two runs.
  obtain ⟨underway, -⟩ := (Underway.start keys).run first
  obtain ⟨-, kept⟩ := underway.run rest
  refine ⟨fun i inside enough => ?_, fun i key answer hk hc => (underway.fits i key _ hk hc).1,
    underway.consistent.unique, kept, fun i key ds hk hc => ?_⟩
  · have begun : (beginAll keys)[i]? = some (.begun keys[i].1 keys[i].2) := by
      rw [beginAll, List.getElem?_map, List.getElem?_eq_getElem inside, Option.map_some]
    exact exists_answer_run begun first enough
  · obtain ⟨answers, entered⟩ := underway.fits i key _ hk hc
    obtain ⟨e, found⟩ := entered ds rfl
    refine ⟨e, found, ?_, fun j answer waiting ended => ?_⟩
    · -- both are what the extraction gives
      have extracted := underway.consistent.sound.of_lookup? found
      rw [← answers] at extracted
      exact (Except.ok.inj extracted).symm
    · -- a call that has its answer is not one that has not begun
      obtain ⟨late, hl, finds⟩ := WillFind.run (.inl rfl) underway waiting found rest
      have same : late = .ended answer := Option.some.inj (hl.symm.trans ended)
      rcases finds with begun | found
      · rw [same] at begun
        cases begun
      · rw [same] at found
        exact Call.ended.inj found

/-- **Calls that overlap need not share.**  Two calls for one key that take their steps in turn both
miss, and each answers with an object of its own. -/
theorem not_all_shared :
    ¬ ∀ (keys : List (Shape × Limits)) (schedule : List Nat) (i j : Nat) (a b : Shared Descriptors),
      keys[i]? = keys[j]? →
      (run schedule (beginAll keys) {}).1[i]?.bind answer? = some (.ok a) →
      (run schedule (beginAll keys) {}).1[j]?.bind answer? = some (.ok b) → a.same b = true := by
  intro shared
  let ds : Descriptors := ⟨"Pair", numbered 0 MemoState.pairShape.kept⟩
  have same : (⟨0, ds⟩ : Shared Descriptors).same ⟨1, ds⟩ = true :=
    shared [(MemoState.pairShape, {}), (MemoState.pairShape, {})] [0, 1, 0, 1, 0, 1] 0 1 _ _ rfl
      (by decide +kernel) (by decide +kernel)
  exact absurd same (by decide)

end Recordwright.Call
