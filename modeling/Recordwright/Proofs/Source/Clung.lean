import Mathlib.Data.List.Forall2
import Recordwright.Proofs.Source.Layout

/-!
# Marks that newly cling

Where a blank is taken out between two marks, the first one newly clings to the second.  Tokens that
differ in nothing else are as many and stand in the same brackets (`Token.Clung`), and this is so
for tokens whose bits differ in nothing else (`Token.exists_listFlat`).
-/

namespace Recordwright.Source

/-- The same bit, or a mark that clings and did not. -/
inductive Bit.Clung : Bit → Bit → Prop
  | same (b : Bit) : Clung b b
  | mark (c : Char) : Clung (.mark c false) (.mark c true)

mutual

/-- The same token, but for marks that newly cling. -/
def Token.Clung : Token → Token → Prop
  | .ident raw name, t => t = .ident raw name
  | .punct c joined, t => ∃ joined', t = .punct c joined' ∧ (joined = true → joined' = true)
  | .literal spelling, t => t = .literal spelling
  | .group d content, t => ∃ content', t = .group d content' ∧ Token.listClung content content'

/-- The same tokens, but for marks that newly cling. -/
def Token.listClung : List Token → List Token → Prop
  | [], us => us = []
  | t :: ts, us => ∃ u us', us = u :: us' ∧ Token.Clung t u ∧ Token.listClung ts us'

end

open Token (listClung)

theorem Token.listClung_append {ts ts' us : List Token} :
    listClung (ts ++ ts') us ↔ ∃ u u', us = u ++ u' ∧ listClung ts u ∧ listClung ts' u' := by
  induction ts generalizing us with
  | nil =>
    constructor
    · exact fun h => ⟨[], us, rfl, rfl, h⟩
    · rintro ⟨-, u', rfl, rfl, h⟩
      exact h
  | cons t ts ih =>
    simp only [List.cons_append, listClung, ih]
    constructor
    · rintro ⟨u, -, rfl, first, v, v', rfl, h, h'⟩
      exact ⟨u :: v, v', rfl, ⟨u, v, rfl, first, h⟩, h'⟩
    · rintro ⟨-, u', rfl, ⟨u, v, rfl, first, h⟩, h'⟩
      exact ⟨u, v ++ u', rfl, first, v, u', rfl, h, h'⟩

theorem Token.length_eq_of_listClung (clung : listClung ts us) : us.length = ts.length := by
  induction ts generalizing us with
  | nil => rw [clung]
  | cons t ts ih =>
    obtain ⟨u, us, rfl, -, more⟩ := clung
    rw [List.length_cons, List.length_cons, ih more]

mutual

/-- What newly clings is no further token. -/
theorem Token.weight_eq_of_clung (t u : Token) (h : t.Clung u) : u.weight = t.weight := by
  cases t with
  | group d content =>
    obtain ⟨content', rfl, same⟩ := h
    rw [weight, weight, Token.listWeight_eq_of_listClung content content' same]
  | ident raw name => rw [h]
  | literal spelling => rw [h]
  | punct c joined =>
    obtain ⟨joined', rfl, -⟩ := h
    rfl

theorem Token.listWeight_eq_of_listClung (ts us : List Token) (h : listClung ts us) :
    listWeight us = listWeight ts := by
  cases ts with
  | nil => rw [h]
  | cons t ts =>
    obtain ⟨u, us, rfl, first, more⟩ := h
    rw [listWeight, listWeight, Token.weight_eq_of_clung t u first,
      Token.listWeight_eq_of_listClung ts us more]

end

theorem forall₂_append {α β : Type} {R : α → β → Prop} {as as' : List α} {bs : List β}
    (h : List.Forall₂ R (as ++ as') bs) :
    ∃ b b', bs = b ++ b' ∧ List.Forall₂ R as b ∧ List.Forall₂ R as' b' := by
  induction as generalizing bs with
  | nil => exact ⟨[], bs, rfl, .nil, h⟩
  | cons a as ih =>
    obtain ⟨b, bs, first, more, rfl⟩ := List.forall₂_cons_left_iff.mp h
    obtain ⟨c, c', rfl, same, rest⟩ := ih more
    exact ⟨b :: c, c', rfl, .cons first same, rest⟩

mutual

/-- Bits that differ from those of a token only in marks that newly cling are those of a token. -/
theorem Token.exists_flat (t : Token) (bs : List Bit) (h : List.Forall₂ Bit.Clung t.flat bs) :
    ∃ t' : Token, bs = t'.flat ∧ t.Clung t' := by
  cases t with
  | group d content =>
    obtain ⟨first, more, opens, behind, rfl⟩ := List.forall₂_cons_left_iff.mp h
    obtain ⟨inner, last, rfl, within, ends⟩ := forall₂_append behind
    obtain ⟨content', rfl, same⟩ := Token.exists_listFlat content inner within
    obtain ⟨closing, others, closes, none, rfl⟩ := List.forall₂_cons_left_iff.mp ends
    cases opens
    cases closes
    cases none
    exact ⟨.group d content', rfl, content', rfl, same⟩
  | ident raw name =>
    obtain ⟨b, none, same, ⟨⟩, rfl⟩ := List.forall₂_cons_left_iff.mp h
    cases same
    exact ⟨.ident raw name, rfl, rfl⟩
  | punct c joined =>
    obtain ⟨b, none, same, ⟨⟩, rfl⟩ := List.forall₂_cons_left_iff.mp h
    cases same with
    | same => exact ⟨.punct c joined, rfl, joined, rfl, id⟩
    | mark => exact ⟨.punct c true, rfl, true, rfl, fun _ => rfl⟩
  | literal spelling =>
    obtain ⟨b, none, same, ⟨⟩, rfl⟩ := List.forall₂_cons_left_iff.mp h
    cases same
    exact ⟨.literal spelling, rfl, rfl⟩

theorem Token.exists_listFlat (ts : List Token) (bs : List Bit)
    (h : List.Forall₂ Bit.Clung (Token.listFlat ts) bs) :
    ∃ ts' : List Token, bs = Token.listFlat ts' ∧ listClung ts ts' := by
  cases ts with
  | nil =>
    cases h
    exact ⟨[], rfl, rfl⟩
  | cons t rest =>
    obtain ⟨first, more, rfl, left, right⟩ := forall₂_append h
    obtain ⟨t', rfl, same⟩ := Token.exists_flat t first left
    obtain ⟨rest', rfl, same'⟩ := Token.exists_listFlat rest more right
    exact ⟨t' :: rest', rfl, t', rest', rfl, same, same'⟩

end

end Recordwright.Source
