import Mathlib.Order.Lattice
import Mathlib.Data.List.Basic

/-!
# Replaying what is not acknowledged

A client applies its operations to its own copy of a state before the owner of the state has seen them.
It keeps them, in the order of their keys, until the owner acknowledges a key; then it starts again
from the owner's state and replays the rest. As long as what it adopts acknowledges no less than
before, dropping from the front of the queue drops what is acknowledged and nothing else.
-/

namespace PvpDuel.Replay

variable {σ α κ : Type} [LinearOrder κ] (key : α → κ) (apply : σ → α → σ)

/-- The operations of a log above the acknowledged key. -/
def unacknowledged (log : List α) (ack : κ) : List α := log.filter fun x => ack < key x

/-- The queue is what is not acknowledged of the log, and the copy is the owner's state with the queue
replayed on it. -/
structure Tracks (log : List α) (ack : κ) (base : σ) (pending : List α) (copy : σ) : Prop where
  queue : pending = unacknowledged key log ack
  state : copy = pending.foldl apply base

variable {key apply} {log pending : List α} {ack ack' : κ} {base copy : σ}

/-- In a sorted queue, what is at most the acknowledged key comes first. -/
theorem dropWhile_le_eq (hsorted : log.Pairwise fun x y => key x < key y) :
    (log.dropWhile fun x => key x ≤ ack) = unacknowledged key log ack := by
  induction log with
  | nil => rfl
  | cons x log ih =>
      obtain ⟨hx, hlog⟩ := List.pairwise_cons.1 hsorted
      by_cases hacked : key x ≤ ack
      · have hbelow : ¬ ack < key x := not_lt_of_ge hacked
        rw [List.dropWhile_cons, if_pos (decide_eq_true hacked), ih hlog, unacknowledged,
          unacknowledged, List.filter_cons, if_neg fun habove => hbelow (of_decide_eq_true habove)]
      · have habove : ∀ y ∈ x :: log, decide (ack < key y) = true := by
          intro y hy
          apply decide_eq_true
          rcases List.mem_cons.1 hy with rfl | hy
          · exact lt_of_not_ge hacked
          · exact lt_trans (lt_of_not_ge hacked) (hx y hy)
        rw [List.dropWhile_cons, if_neg fun hbelow => hacked (of_decide_eq_true hbelow),
          unacknowledged, List.filter_eq_self.2 habove]

theorem unacknowledged_of_le (hle : ack ≤ ack') :
    unacknowledged key (unacknowledged key log ack) ack' = unacknowledged key log ack' := by
  unfold unacknowledged
  rw [List.filter_filter]
  refine List.filter_congr fun x _ => ?_
  by_cases habove : ack' < key x
  · simp [habove, lt_of_le_of_lt hle habove]
  · simp [habove]

namespace Tracks

theorem concat (h : Tracks key apply log ack base pending copy) {x : α} (hx : ack < key x) :
    Tracks key apply (log ++ [x]) ack base (pending ++ [x]) (apply copy x) := by
  constructor
  · rw [h.queue, unacknowledged, unacknowledged, List.filter_append, List.filter_singleton,
      decide_eq_true hx]
    rfl
  · rw [List.foldl_append, ← h.state]
    rfl

theorem rebase (h : Tracks key apply log ack base pending copy)
    (hsorted : log.Pairwise fun x y => key x < key y) (hle : ack ≤ ack') (base' : σ) :
    Tracks key apply log ack' base' (pending.dropWhile fun x => key x ≤ ack')
      ((pending.dropWhile fun x => key x ≤ ack').foldl apply base') := by
  refine ⟨?_, rfl⟩
  have hpending : pending.Pairwise fun x y => key x < key y := by
    rw [h.queue]
    exact hsorted.filter _
  rw [dropWhile_le_eq hpending, h.queue, unacknowledged_of_le hle]

/-- When the owner itself replays the log, it has applied what it acknowledges, and the copy is ahead
of it by the rest. -/
theorem replayed {earlier later : List α} {start : σ}
    (h : Tracks key apply (earlier ++ later) ack (earlier.foldl apply start) pending copy)
    (hearlier : ∀ x ∈ earlier, key x ≤ ack) (hlater : ∀ x ∈ later, ack < key x) :
    copy = (earlier ++ later).foldl apply start := by
  have hnone : earlier.filter (fun x => ack < key x) = [] :=
    List.filter_eq_nil_iff.2 fun x hx habove =>
      not_lt_of_ge (hearlier x hx) (of_decide_eq_true habove)
  have hall : later.filter (fun x => ack < key x) = later :=
    List.filter_eq_self.2 fun x hx => decide_eq_true (hlater x hx)
  have hqueue : pending = later := by
    rw [h.queue, unacknowledged, List.filter_append, hnone, hall]
    rfl
  rw [h.state, hqueue, List.foldl_append]

end Tracks

end PvpDuel.Replay
