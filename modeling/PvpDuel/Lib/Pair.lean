import Mathlib.Logic.Basic

/-!
# Pairs indexed by a side

Two-element arrays indexed by the two constructors of `Side`, with the maps and updates that act on
one or both entries. Everything about a pair is read off its two entries by `Pair.ext_get`.
-/

namespace PvpDuel

inductive Side
  | a
  | b
deriving DecidableEq, Repr

namespace Side

/-- The index `1 - side`. -/
def other : Side → Side
  | .a => .b
  | .b => .a

@[simp] theorem other_a : Side.a.other = .b := rfl

@[simp] theorem other_b : Side.b.other = .a := rfl

@[simp] theorem other_other (i : Side) : i.other.other = i := by
  cases i <;> rfl

theorem other_ne (i : Side) : i.other ≠ i := by
  cases i <;> decide

theorem eq_or_eq_other (i j : Side) : j = i ∨ j = i.other := by
  cases i <;> cases j <;> simp

theorem eq_other_of_ne {i j : Side} (h : j ≠ i) : j = i.other :=
  (eq_or_eq_other i j).resolve_left h

end Side

structure Pair (α : Type) where
  a : α
  b : α
deriving DecidableEq, Repr

namespace Pair

variable {α β : Type}

def get (p : Pair α) : Side → α
  | .a => p.a
  | .b => p.b

def set (p : Pair α) (i : Side) (x : α) : Pair α :=
  match i with
  | .a => { p with a := x }
  | .b => { p with b := x }

def map (f : α → β) (p : Pair α) : Pair β := ⟨f p.a, f p.b⟩

def ofFn (f : Side → α) : Pair α := ⟨f .a, f .b⟩

@[simp] theorem get_a (p : Pair α) : p.get .a = p.a := rfl

@[simp] theorem get_b (p : Pair α) : p.get .b = p.b := rfl

@[simp] theorem get_map (f : α → β) (p : Pair α) (i : Side) : (p.map f).get i = f (p.get i) := by
  cases i <;> rfl

@[simp] theorem get_ofFn (f : Side → α) (i : Side) : (ofFn f).get i = f i := by
  cases i <;> rfl

@[simp] theorem get_set_self (p : Pair α) (i : Side) (x : α) : (p.set i x).get i = x := by
  cases i <;> rfl

@[simp] theorem get_set_other (p : Pair α) (i : Side) (x : α) :
    (p.set i x).get i.other = p.get i.other := by
  cases i <;> rfl

theorem get_set_of_ne (p : Pair α) {i j : Side} (x : α) (h : j ≠ i) :
    (p.set i x).get j = p.get j := by
  rw [Side.eq_other_of_ne h, get_set_other]

theorem get_set (p : Pair α) (i j : Side) (x : α) :
    (p.set i x).get j = if j = i then x else p.get j := by
  split
  · subst j
    exact get_set_self p i x
  · exact get_set_of_ne p x ‹_›

theorem ext_get {p q : Pair α} (h : ∀ i, p.get i = q.get i) : p = q := by
  have ha : p.a = q.a := h .a
  have hb : p.b = q.b := h .b
  cases p
  cases q
  simp_all

end Pair

end PvpDuel
