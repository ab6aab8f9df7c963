import Mathlib.Data.List.GetD
import Mathlib.Order.PiLex

/-!
# Lists padded with a default

Two lists are compared at the first index at which they differ, where a list that has ended goes on with
a default. This is the lexicographic order of functions of the index.
-/

namespace PvpDuel.Padded

variable {α : Type} [LinearOrder α] (zero : α)

def padded (xs : List α) (i : ℕ) : α := xs.getD i zero

def Less (xs ys : List α) : Prop := toLex (padded zero xs) < toLex (padded zero ys)

theorem less_iff {xs ys : List α} : Less zero xs ys ↔
    ∃ i, (∀ j < i, padded zero xs j = padded zero ys j) ∧ padded zero xs i < padded zero ys i :=
  Iff.rfl

theorem less_irrefl (xs : List α) : ¬ Less zero xs xs := lt_irrefl _

theorem less_asymm {xs ys : List α} (h : Less zero xs ys) : ¬ Less zero ys xs := lt_asymm h

theorem less_cons_cons {x y : α} {xs ys : List α} :
    Less zero (x :: xs) (y :: ys) ↔ x < y ∨ x = y ∧ Less zero xs ys := by
  rw [less_iff, less_iff]
  constructor
  · rintro ⟨i, hbefore, hlt⟩
    cases i with
    | zero => exact .inl hlt
    | succ i =>
        exact .inr ⟨hbefore 0 (Nat.succ_pos i), i,
          fun j hj => hbefore (j + 1) (Nat.succ_lt_succ hj), hlt⟩
  · rintro (hlt | ⟨rfl, i, hbefore, hlt⟩)
    · exact ⟨0, fun j hj => absurd hj (Nat.not_lt_zero j), hlt⟩
    · refine ⟨i + 1, fun j hj => ?_, hlt⟩
      cases j with
      | zero => rfl
      | succ j => exact hbefore j (Nat.lt_of_succ_lt_succ hj)

omit [LinearOrder α] in
theorem padded_of_length_le {xs : List α} {i : ℕ} (h : xs.length ≤ i) : padded zero xs i = zero :=
  List.getD_eq_default _ _ h

/-- The first index at which the lists differ, as far as one of them goes. -/
def firstDifference (xs ys : List α) : Option ℕ :=
  (List.range (max xs.length ys.length)).find? fun i => padded zero ys i ≠ padded zero xs i

theorem less_iff_firstDifference {xs ys : List α} : Less zero xs ys ↔
    ∃ i, firstDifference zero xs ys = some i ∧ padded zero xs i < padded zero ys i := by
  rw [less_iff]
  refine exists_congr fun i => and_congr_left fun hlt => ?_
  rw [firstDifference, List.find?_range_eq_some]
  simp only [ne_eq, decide_not, Bool.not_eq_true', decide_eq_false_iff_not, List.mem_range,
    Bool.not_not, decide_eq_true_eq]
  constructor
  · intro hbefore
    refine ⟨hlt.ne', ?_, fun j hj => (hbefore j hj).symm⟩
    by_contra hpast
    rw [padded_of_length_le zero (le_trans (le_max_left _ _) (not_lt.1 hpast)),
      padded_of_length_le zero (le_trans (le_max_right _ _) (not_lt.1 hpast))] at hlt
    exact lt_irrefl _ hlt
  · rintro ⟨-, -, hbefore⟩ j hj
    exact (hbefore j hj).symm

end PvpDuel.Padded
