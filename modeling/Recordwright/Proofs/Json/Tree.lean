import Recordwright.Json.Reader
import Recordwright.Proofs.Json.Number

/-!
# What readers take

`Reader.Reads` says what a reader takes from the front of a text and what it leaves.  Readers in a
row compose (`Reader.Reads.bind`), so what is known of single tokens carries over to values.

A value is readable if it holds no floating number, if its integers fit sixty-four bits and if it
does not nest too deep (`Tree.Readable`).
-/

namespace Recordwright.Json

namespace Reader

variable {α β : Type} {text mid rest : List Char} {a : α} {b : β} {c : Char}

/-! ### Readers in a row -/

/-- The reader takes a result from the front of the text and leaves the rest. -/
def Reads (r : Reader α) (text : List Char) (a : α) (rest : List Char) : Prop :=
  StateT.run r text = .ok (a, rest)

theorem Reads.run_bind {r : Reader α} {k : α → Reader β} (first : Reads r text a mid) :
    StateT.run (r >>= k) text = StateT.run (k a) mid := by
  rw [StateT.run_bind, (first : StateT.run r text = _)]
  rfl

theorem Reads.bind {r : Reader α} {k : α → Reader β} (first : Reads r text a mid)
    (next : Reads (k a) mid b rest) : Reads (r >>= k) text b rest :=
  first.run_bind.trans next

theorem reads_pure (a : α) (text : List Char) : Reads (pure a) text a text := rfl

theorem reads_ofFunction {f : List Char → Except Fault (α × List Char)}
    (h : f text = .ok (a, rest)) : Reads (ofFunction f) text a rest := h

/-- What a reader makes of a whole text. -/
theorem run_of_reads {r : Reader α} {text : String} (h : Reads r text.toList a []) :
    r.run text = .ok a := by
  have whole : Reads (do let a ← r; finished; return a) text.toList a [] := h.bind rfl
  unfold Reads at whole
  rw [Reader.run, StateT.run'_eq, whole]
  rfl

/-! ### Tokens -/

theorem reads_advance (c : Char) (text : List Char) : Reads advance (c :: text) () text := rfl

/-- What is not blank comes next and stays in place. -/
theorem reads_peek (visible : isSpace c = false) : Reads peek (c :: text) (some c) (c :: text) := by
  have kept : skipSpaces (c :: text) = c :: text := by
    rw [skipSpaces, List.dropWhile_cons_of_neg (by rw [visible]; exact Bool.false_ne_true)]
  have read : StateT.run peek (c :: text) =
      .ok ((skipSpaces (c :: text)).head?, skipSpaces (c :: text)) := rfl
  rw [Reads, read, kept]
  rfl

theorem reads_literal (cs rest : List Char) : Reads (literal cs) (cs ++ rest) () rest := by
  induction cs with
  | nil => rfl
  | cons c cs ih =>
    have step : StateT.run (literal (c :: cs)) (c :: (cs ++ rest)) =
        StateT.run (if c = c then (do set (cs ++ rest); literal cs) else throw .malformed)
          (c :: (cs ++ rest)) := rfl
    rw [Reads, List.cons_append, step, if_pos rfl]
    exact ih

/-- The text begins with a character that is not blank and closes no sequence. -/
def Opens (text : List Char) : Prop := ∃ c cs, text = c :: cs ∧ isSpace c = false ∧ c ≠ ']'

theorem Opens.length_pos (h : Opens text) : 0 < text.length := by
  obtain ⟨c, cs, rfl, -⟩ := h
  exact Nat.succ_pos _

end Reader

/-- No number starts with a blank. -/
theorem StartsNumber.isSpace_eq {c : Char} (h : StartsNumber c) : isSpace c = false := by
  rw [← Bool.not_eq_true]
  intro blank
  simp only [isSpace, Bool.or_eq_true, beq_iff_eq] at blank
  rcases blank with ((rfl | rfl) | rfl) | rfl
  all_goals exact absurd h (by decide)

/-! ### Single values -/

namespace Tree

/-- The value nests less than `depth` deep, holds no floating number, and its integers fit
sixty-four bits, with a sign or without one. -/
inductive Readable : Nat → Tree → Prop
  | null {depth : Nat} : Readable depth .null
  | bool {depth : Nat} (b : Bool) : Readable depth (.bool b)
  | integer {depth : Nat} {n : Int} (low : -0x8000000000000000 ≤ n)
      (high : n ≤ greatestSignificand) : Readable depth (.number (.integer n))
  | string {depth : Nat} (s : String) : Readable depth (.string s)
  | array {depth : Nat} {es : List Tree} (elements : ∀ e ∈ es, Readable (depth + 1) e) :
      Readable (depth + 2) (.array es)
  | object {depth : Nat} {ms : List (String × Tree)}
      (members : ∀ m ∈ ms, Readable (depth + 1) m.2) : Readable (depth + 2) (.object ms)

variable {depth fuel : Nat}

/-- What starts as a number does is read as one. -/
theorem run_tree_of_startsNumber {c : Char} {cs : List Char} (starts : StartsNumber c) :
    StateT.run (Reader.tree (fuel + 1) depth) (c :: cs) =
      (readNumber (c :: cs)).map fun r => (.number r.1, r.2) := by
  rw [Reader.tree, (Reader.reads_peek starts.isSpace_eq).run_bind]
  -- no other value starts as a number does
  split
  case h_1 none => cases none
  case h_8 other =>
    obtain rfl := Option.some.inj other
    rw [if_pos (show c = '-' ∨ (digit? c).isSome = true from starts)]
    rfl
  all_goals
    next other =>
      obtain rfl := Option.some.inj other
      exact absurd starts (by decide)

/-- Twice as many steps as the text has characters are enough for a single value. -/
theorem run_value (depth : Nat) (text : List Char) :
    StateT.run (Reader.value depth) text =
      StateT.run (Reader.tree (2 * text.length + 2) depth) text := by
  rw [Reader.value, StateT.run_bind, StateT.run_get, pure_bind]

end Tree

end Recordwright.Json
