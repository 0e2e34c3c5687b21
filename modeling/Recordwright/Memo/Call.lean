import Recordwright.Memo

/-!
# Calls of the memo that overlap

A call looks its key up, extracts on a miss, and then offers what it extracted.  Other calls may
take their steps in between.  A schedule says whose step is next; each step is atomic.  A call that
runs alone does what `Memo.extract` does (`Call.alone_eq_extract`).
-/

namespace Recordwright

/-- Where a call stands. -/
inductive Call where
  /-- Nothing was done yet. -/
  | begun (shape : Shape) (limits : Limits)
  /-- The memo had no entry. -/
  | missed (shape : Shape) (limits : Limits)
  /-- The descriptors were extracted and are to be offered to the memo. -/
  | extracted (shape : Shape) (limits : Limits) (ds : Shared Descriptors)
  /-- The call has its answer. -/
  | ended (answer : Except ShapeError (Shared Descriptors))

/-- The memo that calls share, and the heap. -/
structure MemoState where
  memo : Memo := {}
  heap : Heap := {}

namespace Call

/-- The next step of a call.  A call that has its answer stays as it is. -/
def step (s : MemoState) : Call → Call × MemoState
  | .begun shape limits =>
    match s.memo.lookup? shape limits with
    | some found => (.ended (.ok found), s)
    | none => (.missed shape limits, s)
  | .missed shape limits =>
    match shape.extract limits with
    | .error e => (.ended (.error e), s)
    | .ok ds =>
      let (shared, heap) := s.heap.allocate ds
      (.extracted shape limits shared, { s with heap })
  | .extracted shape limits ds =>
    -- The call keeps its own descriptors, also if another call was faster.
    (.ended (.ok ds), { s with memo := s.memo.insertIfAbsent shape limits ds })
  | .ended answer => (.ended answer, s)

/-- The answer of a call that has one. -/
def answer? : Call → Option (Except ShapeError (Shared Descriptors))
  | .ended answer => some answer
  | _ => none

/-- One step of the call at this position. -/
def stepAt (position : Nat) (calls : List Call) (s : MemoState) : List Call × MemoState :=
  match calls[position]? with
  | none => (calls, s)
  | some call =>
    let (call, s) := call.step s
    (calls.set position call, s)

/-- Runs calls by a schedule, which names the call that takes the next step. -/
def run : List Nat → List Call → MemoState → List Call × MemoState
  | [], calls, s => (calls, s)
  | position :: schedule, calls, s =>
    let (calls, s) := stepAt position calls s
    run schedule calls s

/-- Three steps end a call that nothing interrupts, with the answer, the memo and the heap of
`Memo.extract`. -/
theorem alone_eq_extract (s : MemoState) (shape : Shape) (limits : Limits) :
    run [0, 0, 0] [.begun shape limits] s =
      ([.ended (s.memo.extract s.heap shape limits).1],
        ⟨(s.memo.extract s.heap shape limits).2.1, (s.memo.extract s.heap shape limits).2.2⟩) := by
  cases found : s.memo.lookup? shape limits with
  | some ds => simp [run, stepAt, step, Memo.extract, found]
  | none =>
    cases extracted : shape.extract limits with
    | error e => simp [run, stepAt, step, Memo.extract, found, extracted]
    | ok ds => simp [run, stepAt, step, Memo.extract, found, extracted]

end Call

end Recordwright
