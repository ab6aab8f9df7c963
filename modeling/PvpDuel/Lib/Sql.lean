import Mathlib.Data.List.Dedup
import Mathlib.Data.List.Induction

/-!
# Queries of SQL

Three-valued logic, and the meaning of a query with a left join, a grouping and filtered counts, on
lists of rows. A null is `none`, and so is a truth value that is unknown. The rows of an answer come in
no promised order; a statement that depends on the order speaks about one row.
-/

namespace PvpDuel.Sql

variable {α β γ κ : Type}

/-! ### Truth values -/

abbrev Truth := Option Bool

/-- `=`, unknown when a side is null. -/
def equal [DecidableEq α] : Option α → Option α → Truth
  | some a, some b => some (decide (a = b))
  | _, _ => none

def negation (t : Truth) : Truth := t.map not

/-- `<>`. -/
def differ [DecidableEq α] (a b : Option α) : Truth := negation (equal a b)

def isNull (a : Option α) : Truth := some a.isNone

def disjunction : Truth → Truth → Truth
  | some true, _ => some true
  | _, some true => some true
  | some false, some false => some false
  | _, _ => none

def conjunction : Truth → Truth → Truth
  | some false, _ => some false
  | _, some false => some false
  | some true, some true => some true
  | _, _ => none

/-- A condition of `WHERE`, `ON` or `FILTER` selects a row when it is true. -/
def Truth.selects (t : Truth) : Bool := t == some true

/-- A `CHECK` refuses a row only when it is false. -/
def Truth.permits (t : Truth) : Bool := t != some false

section Selects

variable {a b : Option α} {s t : Truth}

@[simp] theorem selects_some (x : Bool) : Truth.selects (some x) = x := by
  cases x <;> rfl

@[simp] theorem equal_some_some [DecidableEq α] (x y : α) :
    equal (some x) (some y) = some (decide (x = y)) := rfl

@[simp] theorem selects_equal [DecidableEq α] : (equal a b).selects = true ↔ ∃ x, a = some x ∧ b = some x := by
  cases a <;> cases b <;> simp [equal, Truth.selects, eq_comm]

@[simp] theorem selects_differ [DecidableEq α] :
    (differ a b).selects = true ↔ ∃ x y, a = some x ∧ b = some y ∧ x ≠ y := by
  cases a <;> cases b <;> simp [differ, negation, equal, Truth.selects]

@[simp] theorem selects_isNull : (isNull a).selects = true ↔ a = none := by
  cases a <;> simp [isNull, Truth.selects]

@[simp] theorem selects_isNotNull : (negation (isNull a)).selects = true ↔ a.isSome = true := by
  cases a <;> simp [isNull, negation, Truth.selects]

@[simp] theorem selects_disjunction :
    (disjunction s t).selects = true ↔ s.selects = true ∨ t.selects = true := by
  cases s with
  | none => cases t with
    | none => simp [disjunction, Truth.selects]
    | some t => cases t <;> simp [disjunction, Truth.selects]
  | some s => cases s <;> cases t with
    | none => simp [disjunction, Truth.selects]
    | some t => cases t <;> simp [disjunction, Truth.selects]

@[simp] theorem selects_conjunction :
    (conjunction s t).selects = true ↔ s.selects = true ∧ t.selects = true := by
  cases s with
  | none => cases t with
    | none => simp [conjunction, Truth.selects]
    | some t => cases t <;> simp [conjunction, Truth.selects]
  | some s => cases s <;> cases t with
    | none => simp [conjunction, Truth.selects]
    | some t => cases t <;> simp [conjunction, Truth.selects]

theorem permits_of_selects (h : t.selects = true) : t.permits = true := by
  have ht : t = some true := by simpa [Truth.selects] using h
  rw [ht]
  rfl

end Selects

/-! ### Queries -/

/-- The rows that a row of the left table becomes: without a partner it is joined to nulls. -/
def joinRow (on : α → β → Truth) (right : List β) (a : α) : List (α × Option β) :=
  match right.filter fun b => (on a b).selects with
  | [] => [(a, none)]
  | partners => partners.map fun b => (a, some b)

/-- `LEFT JOIN`. -/
def leftJoin (on : α → β → Truth) (left : List α) (right : List β) : List (α × Option β) :=
  left.flatMap (joinRow on right)

/-- `GROUP BY`. -/
def groupBy [DecidableEq κ] (key : α → κ) (rows : List α) : List (κ × List α) :=
  (rows.map key).dedup.map fun k => (k, rows.filter fun row => key row = k)

/-- `COUNT` of an expression: the rows where it is not null. -/
def count (expression : α → Option γ) (rows : List α) : Nat :=
  rows.countP fun row => (expression row).isSome

/-- `COUNT` with a `FILTER`. -/
def countFilter (expression : α → Option γ) (condition : α → Truth) (rows : List α) : Nat :=
  count expression (rows.filter fun row => (condition row).selects)

variable {on : α → β → Truth} {left : List α} {right : List β} {a : α} {rows : List α}

theorem joinRow_ne_nil : joinRow on right a ≠ [] := by
  unfold joinRow
  split
  · exact List.cons_ne_nil _ _
  · rename_i hpartners
    simpa using hpartners

theorem fst_of_mem_joinRow {row : α × Option β} (h : row ∈ joinRow on right a) : row.1 = a := by
  unfold joinRow at h
  split at h
  · rw [List.mem_singleton.1 h]
  · obtain ⟨b, -, rfl⟩ := List.mem_map.1 h
    rfl

theorem leftJoin_singleton : leftJoin on [a] right = joinRow on right a := List.flatMap_singleton _ _

theorem filter_leftJoin (p : α → Bool) : (leftJoin on left right).filter (fun row => p row.1) =
    leftJoin on (left.filter p) right := by
  induction left with
  | nil => rfl
  | cons a left ih =>
      rw [leftJoin, List.flatMap_cons, List.filter_append]
      by_cases hp : p a = true
      · rw [List.filter_cons_of_pos hp, leftJoin, List.flatMap_cons, List.filter_eq_self.2]
        · exact congrArg (_ ++ ·) ih
        · intro row hrow
          rw [fst_of_mem_joinRow hrow]
          exact hp
      · rw [List.filter_cons_of_neg hp, List.filter_eq_nil_iff.2, List.nil_append]
        · exact ih
        · intro row hrow
          rw [fst_of_mem_joinRow hrow]
          exact hp

theorem filter_key [DecidableEq κ] {key : α → κ} (hnodup : (rows.map key).Nodup) (ha : a ∈ rows) :
    rows.filter (fun row => key row = key a) = [a] := by
  induction rows with
  | nil => cases ha
  | cons row rows ih =>
      rw [List.map_cons, List.nodup_cons] at hnodup
      obtain rfl | ha := List.mem_cons.1 ha
      · have hrest : rows.filter (fun row => key row = key a) = [] := by
          rw [List.filter_eq_nil_iff]
          intro other hother hkey
          exact hnodup.1 (List.mem_map.2 ⟨other, hother, of_decide_eq_true hkey⟩)
        simp [hrest]
      · have hne : key row ≠ key a := fun hkey => hnodup.1 (hkey ▸ List.mem_map_of_mem ha)
        simp [hne, ih hnodup.2 ha]

theorem groupBy_of_forall [DecidableEq κ] {key : α → κ} {k : κ} (hne : rows ≠ [])
    (hkey : ∀ row ∈ rows, key row = k) : groupBy key rows = [(k, rows)] := by
  have hmap : rows.map key = List.replicate rows.length k := by
    rw [List.eq_replicate_iff]
    refine ⟨List.length_map _, ?_⟩
    intro x hx
    obtain ⟨row, hrow, rfl⟩ := List.mem_map.1 hx
    exact hkey row hrow
  have hlength : rows.length ≠ 0 := fun h => hne (List.length_eq_zero_iff.1 h)
  rw [groupBy, hmap, List.replicate_dedup hlength, List.map_singleton, List.filter_eq_self.2]
  intro row hrow
  rw [hkey row hrow, decide_eq_true rfl]

/-- A count of a column of the right table leaves out the row joined to nulls. -/
theorem countFilter_joinRow {column : β → γ} {condition : α × Option β → Truth} :
    countFilter (fun row => row.2.map column) condition (joinRow on right a) =
      right.countP fun b => (on a b).selects && (condition (a, some b)).selects := by
  have hcount : right.countP (fun b => (on a b).selects && (condition (a, some b)).selects) =
      (right.filter fun b => (on a b).selects).countP fun b => (condition (a, some b)).selects := by
    rw [List.countP_filter]
    refine List.countP_congr ?_
    intro b _
    rw [Bool.and_comm]
  rw [hcount, joinRow]
  split
  · rename_i hnone
    rw [hnone]
    by_cases hcondition : (condition (a, none)).selects = true
    · simp [countFilter, count, hcondition]
    · simp [countFilter, count, hcondition]
  · rw [countFilter, count, List.countP_filter, List.countP_map]
    refine List.countP_congr ?_
    intro b _
    simp

theorem count_eq_countFilter {expression : α → Option γ} :
    count expression rows = countFilter expression (fun _ => some true) rows := by
  rw [countFilter, List.filter_eq_self.2]
  intro row _
  rfl

end PvpDuel.Sql
