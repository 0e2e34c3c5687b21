import Recordwright.Value.Basic

/-!
# Values alike

Equality of values is symmetric and transitive, but a NaN is not equal to itself.  `Value.Alike`
adds this case: two values are alike when they are equal or are one and the same NaN.  It is what a
record can be said to keep of a value when an equal one may stand in for it, as zeros of different
signs do.
-/

namespace Recordwright

/-- Equality of numbers is transitive. -/
theorem Binary64.equal_trans {x y z : Binary64} (h : x.equal y = true) (k : y.equal z = true) :
    x.equal z = true := by
  simp only [Binary64.equal, Bool.and_eq_true, Bool.or_eq_true, Bool.not_eq_true',
    beq_iff_eq] at h k ⊢
  -- equal numbers have the same bits or are both zeros
  obtain ⟨⟨hx, -⟩, same | zeros⟩ := h
  · have equal : x = y := by
      cases x
      cases y
      exact congrArg _ same
    rwa [equal]
  · obtain ⟨⟨-, hz⟩, same | zeros'⟩ := k
    · refine ⟨⟨hx, hz⟩, .inr ⟨zeros.1, ?_⟩⟩
      rw [← zeros.2, Binary64.magnitude, Binary64.magnitude, same]
    · exact ⟨⟨hx, hz⟩, .inr ⟨zeros.1, zeros'.2⟩⟩

namespace Value

variable {u v w : Value}

/-- Equality of values is symmetric. -/
theorem equal_comm (v w : Value) : v.equal w = w.equal v := by
  cases v <;> cases w <;> first | rfl | exact Binary64.equal_comm _ _ | exact BEq.comm

/-- Equality of values is transitive. -/
theorem equal_trans (h : u.equal v = true) (k : v.equal w = true) : u.equal w = true := by
  -- only values of one type are equal
  cases u <;> cases v <;> first | exact absurd h Bool.false_ne_true | skip
  all_goals cases w <;> first | exact absurd k Bool.false_ne_true | skip
  case null.null.null => rfl
  case float.float.float => exact Binary64.equal_trans h k
  all_goals
    rw [equal, beq_iff_eq] at h k ⊢
    exact h.trans k

/-- Equal, or one and the same NaN. -/
def Alike (v w : Value) : Prop := v.equal w = true ∨ v = w ∧ v.isNaN = true

/-- Each value is like itself. -/
theorem Alike.refl (v : Value) : v.Alike v := by
  cases nan : v.isNaN with
  | false => exact .inl (equal_self nan)
  | true => exact .inr ⟨rfl, nan⟩

theorem Alike.symm (h : v.Alike w) : w.Alike v := by
  rcases h with equal | ⟨rfl, nan⟩
  · exact .inl (by rwa [equal_comm])
  · exact .inr ⟨rfl, nan⟩

theorem Alike.trans (h : u.Alike v) (k : v.Alike w) : u.Alike w := by
  rcases h with equal | ⟨rfl, -⟩
  · rcases k with equal' | ⟨rfl, -⟩
    · exact .inl (equal_trans equal equal')
    · exact .inl equal
  · exact k

end Value

end Recordwright
