import Recordwright.Descriptors
import Recordwright.Shared

/-!
# The memo of extracted descriptors

Descriptors that were extracted before are shared.  A lookup and an insertion are steps of their
own: a caller that finds nothing extracts, offers its result, and keeps its own result even if
another caller was faster; the memo keeps what it has.  A failed extraction leaves no entry.
-/

namespace Recordwright

/-- Shapes and limits, each with its shared descriptors. -/
structure Memo where
  entries : List ((Shape × Limits) × Shared Descriptors) := []
  deriving DecidableEq

namespace Memo

/-- The shared descriptors of a shape within limits. -/
def lookup? (m : Memo) (shape : Shape) (limits : Limits) : Option (Shared Descriptors) :=
  (m.entries.find? (·.1 == (shape, limits))).map (·.2)

/-- The memo with an entry for this key, unless it has one. -/
def insertIfAbsent (m : Memo) (shape : Shape) (limits : Limits) (ds : Shared Descriptors) : Memo :=
  match m.lookup? shape limits with
  | some _ => m
  | none => ⟨((shape, limits), ds) :: m.entries⟩

/-- The descriptors of a shape within limits, from the memo if it has them, and the memo after
that.  `heap` supplies the place of descriptors that are extracted. -/
def extract (m : Memo) (heap : Heap) (shape : Shape) (limits : Limits) :
    Except ShapeError (Shared Descriptors) × Memo × Heap :=
  match m.lookup? shape limits with
  | some found => (.ok found, m, heap)
  | none =>
    match shape.extract limits with
    | .error e => (.error e, m, heap)
    | .ok ds =>
      let (shared, heap) := heap.allocate ds
      (.ok shared, m.insertIfAbsent shape limits shared, heap)

/-- What a look-up and, if need be, an extraction report. -/
def extractionEvents (m : Memo) (shape : Shape) (limits : Limits) : List Event :=
  match m.lookup? shape limits with
  | some _ => [.memoHit shape.name]
  | none => (shape.extractReporting limits).2

end Memo

end Recordwright
