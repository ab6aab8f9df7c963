import Mathlib.Tactic.Common

/-!
# The client's pending commands

`PendingActionQueue` numbers the edge actions of the local player and keeps each until the server has
acknowledged it.
-/

namespace PvpDuel.Client

inductive Action
  | moveUp
  | moveDown
  | moveLeft
  | moveRight
  | dash
  | lightAttack
deriving DecidableEq, Repr

structure InputFrame where
  moveX : Int8
  moveY : Int8
  pressed : List Action
  held : List Action
deriving DecidableEq, Repr

structure ActionCommand where
  sequence : UInt32
  action : Action
deriving DecidableEq, Repr

def isEdgeAction (action : Action) : Bool :=
  action = .dash || action = .lightAttack

def maximumSize : Nat := 8

structure PendingActionQueue where
  nextSequence : UInt32
  pending : List ActionCommand
  bounded : pending.length ≤ maximumSize
deriving DecidableEq

namespace PendingActionQueue

def empty : PendingActionQueue where
  nextSequence := 1
  pending := []
  bounded := Nat.zero_le _

/-- `Enqueue`; sequence zero comes after the last sequence and is never used. -/
def enqueue (q : PendingActionQueue) (action : Action) : Bool × PendingActionQueue :=
  if h : isEdgeAction action = false ∨ q.pending.length ≥ maximumSize ∨ q.nextSequence = 0 then
    (false, q)
  else
    (true, {
      nextSequence := q.nextSequence + 1
      pending := q.pending ++ [⟨q.nextSequence, action⟩]
      bounded := by
        rw [List.length_append]
        exact Nat.lt_of_not_le fun hfull => h (.inr (.inl hfull)) })

def acknowledge (q : PendingActionQueue) (sequence : UInt32) : PendingActionQueue where
  nextSequence := q.nextSequence
  pending := q.pending.filter fun command => sequence < command.sequence
  bounded := Nat.le_trans (List.length_filter_le _ _) q.bounded

/-- `Enqueue` appends a command with the next sequence, or fails and changes nothing. -/
theorem enqueue_cases (q : PendingActionQueue) (action : Action) :
    q.enqueue action = (false, q) ∨
    ∃ q', q.enqueue action = (true, q') ∧ isEdgeAction action = true ∧
      q.pending.length < maximumSize ∧ q.nextSequence ≠ 0 ∧
      q'.nextSequence = q.nextSequence + 1 ∧
      q'.pending = q.pending ++ [⟨q.nextSequence, action⟩] := by
  by_cases h : isEdgeAction action = false ∨ q.pending.length ≥ maximumSize ∨ q.nextSequence = 0
  · exact .inl (dif_pos h)
  · refine .inr ⟨_, dif_neg h, ?_, ?_, ?_, rfl, rfl⟩
    · exact eq_true_of_ne_false fun hedge => h (.inl hedge)
    · exact Nat.lt_of_not_le fun hfull => h (.inr (.inl hfull))
    · exact fun hzero => h (.inr (.inr hzero))

/-- Enqueue actions in order, whether each succeeds or not. -/
def enqueueAll (q : PendingActionQueue) (actions : List Action) : PendingActionQueue :=
  actions.foldl (fun queue action => (queue.enqueue action).2) q

theorem enqueueAll_induction {P : PendingActionQueue → Prop}
    (henqueue : ∀ q action, P q → P (q.enqueue action).2) {q : PendingActionQueue} (hq : P q)
    (actions : List Action) : P (q.enqueueAll actions) := by
  induction actions generalizing q with
  | nil => exact hq
  | cons action actions ih => exact ih (henqueue q action hq)

theorem enqueueAll_of_not_edge {q : PendingActionQueue} {actions : List Action}
    (h : ∀ action ∈ actions, isEdgeAction action = false) : q.enqueueAll actions = q := by
  induction actions with
  | nil => rfl
  | cons action actions ih =>
      rw [List.forall_mem_cons] at h
      have hnone : (q.enqueue action).2 = q :=
        congrArg Prod.snd (dif_pos (.inl h.1) : q.enqueue action = (false, q))
      rw [enqueueAll, List.foldl_cons, hnone]
      exact ih h.2

end PendingActionQueue

end PvpDuel.Client
