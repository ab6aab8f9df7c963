import Mathlib.Data.List.Basic
import Mathlib.Tactic.Common

/-!
# Sliding windows over a numbered log

A sender numbers the entries of its log from one and sends all those not yet acknowledged, at most
`size` of them; a receiver collects entries and consumes all it holds at once, acknowledging the last.
A `Flow` is the joint state of the two. Packets and acknowledgements can be lost, repeated and
delayed: every packet ever sent stays acceptable, and what is consumed is a prefix of the log.
-/

namespace PvpDuel.SlidingWindow

variable {α β : Type}

/-! ### Segments of a log -/

/-- The entries with the numbers above `first` up to `last`. -/
def segment (log : List α) (first last : Nat) : List α := (log.take last).drop first

def Numbered (number : α → Nat) (log : List α) : Prop :=
  ∀ (i : Nat) (h : i < log.length), number log[i] = i + 1

@[simp] theorem segment_length (log : List α) (first : Nat) :
    segment log first log.length = log.drop first := by
  rw [segment, List.take_length]

theorem length_segment {log : List α} {last : Nat} (h : last ≤ log.length) (first : Nat) :
    (segment log first last).length = last - first := by
  rw [segment, List.length_drop, List.length_take, Nat.min_eq_left h]

theorem segment_of_le {first last : Nat} (h : last ≤ first) (log : List α) :
    segment log first last = [] := by
  apply List.drop_eq_nil_of_le
  rw [List.length_take]
  omega

theorem segment_map (f : α → β) (log : List α) (first last : Nat) :
    segment (log.map f) first last = (segment log first last).map f := by
  rw [segment, segment, List.map_drop, List.map_take]

theorem segment_append_log {log : List α} {last : Nat} (h : last ≤ log.length) (more : List α)
    (first : Nat) : segment (log ++ more) first last = segment log first last := by
  rw [segment, segment, List.take_append_of_le_length h]

theorem segment_succ {log : List α} {first last : Nat} (h : first ≤ last) (hlt : last < log.length) :
    segment log first (last + 1) = segment log first last ++ [log[last]] := by
  rw [segment, segment, List.take_succ_eq_append_getElem hlt]
  apply List.drop_append_of_le_length
  rw [List.length_take]
  omega

theorem take_append_segment (log : List α) {first last : Nat} (h : first ≤ last) :
    log.take first ++ segment log first last = log.take last := by
  have htake : (log.take last).take first = log.take first := by
    rw [List.take_take, Nat.min_eq_left h]
  rw [← htake, segment, List.take_append_drop]

theorem mem_of_mem_segment {log : List α} {first last : Nat} {x : α}
    (h : x ∈ segment log first last) : x ∈ log :=
  List.mem_of_mem_take (List.mem_of_mem_drop h)

theorem getElem_mem_segment {log : List α} {first last i : Nat} (h : i < log.length)
    (hfirst : first ≤ i) (hlast : i < last) : log[i] ∈ segment log first last := by
  have hlength : i - first < (segment log first last).length := by
    rw [segment, List.length_drop, List.length_take]
    omega
  refine List.mem_of_getElem (h := hlength) ?_
  simp only [segment, List.getElem_drop, List.getElem_take]
  congr 1
  omega

section Numbered

variable {number : α → Nat} {log : List α}

theorem Numbered.concat (h : Numbered number log) {x : α} (hx : number x = log.length + 1) :
    Numbered number (log ++ [x]) := by
  intro i hi
  rcases Nat.lt_or_ge i log.length with hlt | hge
  · rw [List.getElem_append_left hlt]
    exact h i hlt
  · rw [List.length_append, List.length_singleton] at hi
    obtain rfl : i = log.length := by omega
    rw [List.getElem_concat_length rfl]
    exact hx

/-- Filtering a segment by a bound on the numbers cuts it off from below. -/
theorem Numbered.filter_segment (h : Numbered number log) (first bound : Nat) {last : Nat}
    (hlast : last ≤ log.length) : (segment log first last).filter (fun x => bound < number x) =
      segment log (max first bound) last := by
  induction last with
  | zero => simp [segment]
  | succ last ih =>
      rcases Nat.lt_or_ge last first with hlt | hge
      · rw [segment_of_le hlt, segment_of_le (by omega)]
        rfl
      have hnumber := h last hlast
      rw [segment_succ hge hlast, List.filter_append, ih (Nat.le_of_succ_le hlast),
        List.filter_singleton, hnumber]
      rcases Nat.lt_or_ge last bound with hbound | hbound
      · rw [segment_of_le (by omega), segment_of_le (by omega)]
        simp [Nat.not_lt.2 hbound]
      · rw [segment_succ (Nat.max_le.2 ⟨hge, hbound⟩) hlast]
        simp [Nat.lt_succ_of_le hbound]

theorem Numbered.mem_segment (h : Numbered number log) {first last : Nat} {x : α}
    (hx : x ∈ segment log first last) : first < number x ∧ number x ≤ last := by
  obtain ⟨i, hi, rfl⟩ := List.getElem_of_mem hx
  have hlength := hi
  rw [segment, List.length_drop, List.length_take] at hlength
  have hnumber := h (first + i) (by omega)
  have hget : (segment log first last)[i] = log[first + i] := by
    simp only [segment, List.getElem_drop, List.getElem_take]
  rw [hget, hnumber]
  omega

theorem Numbered.mem_segment_of (h : Numbered number log) {first last : Nat} {x : α} (hx : x ∈ log)
    (hfirst : first < number x) (hlast : number x ≤ last) : x ∈ segment log first last := by
  obtain ⟨i, hi, rfl⟩ := List.getElem_of_mem hx
  rw [h i hi] at hfirst hlast
  exact getElem_mem_segment hi (Nat.le_of_lt_succ hfirst) hlast

theorem Numbered.pairwise (h : Numbered number log) :
    log.Pairwise fun first second => number first < number second := by
  rw [List.pairwise_iff_getElem]
  intro i j hi hj hlt
  rw [h i hi, h j hj]
  omega

theorem Numbered.map {f : β → α} {log : List β} (h : Numbered (fun x => number (f x)) log) :
    Numbered number (log.map f) := by
  intro i hi
  rw [List.getElem_map]
  exact h i (by rwa [List.length_map] at hi)

end Numbered

/-! ### The joint state -/

/-- The log of the sender with how much of it is acknowledged at the sender, consumed at the
receiver, and received there. -/
structure Flow (α : Type) (size : Nat) where
  log : List α
  acked : Nat
  consumed : Nat
  received : Nat
  acked_le : acked ≤ consumed
  consumed_le : consumed ≤ received
  received_le : received ≤ log.length
  window : log.length ≤ acked + size

structure Packet where
  first : Nat
  last : Nat

namespace Flow

variable {size : Nat}

def empty : Flow α size where
  log := []
  acked := 0
  consumed := 0
  received := 0
  acked_le := Nat.le_refl 0
  consumed_le := Nat.le_refl 0
  received_le := Nat.le_refl 0
  window := Nat.zero_le _

def pending (f : Flow α size) : List α := segment f.log f.acked f.log.length

def held (f : Flow α size) : List α := segment f.log f.consumed f.received

def output (f : Flow α size) : List α := f.log.take f.consumed

def packet (f : Flow α size) : Packet := ⟨f.acked, f.log.length⟩

structure Sent (f : Flow α size) (p : Packet) : Prop where
  first_le : p.first ≤ f.acked
  last_le : p.last ≤ f.log.length
  size_le : p.last ≤ p.first + size

def push (f : Flow α size) (x : α) (h : f.log.length < f.acked + size) : Flow α size where
  log := f.log ++ [x]
  acked := f.acked
  consumed := f.consumed
  received := f.received
  acked_le := f.acked_le
  consumed_le := f.consumed_le
  received_le := Nat.le_trans f.received_le (by rw [List.length_append]; omega)
  window := by rw [List.length_append, List.length_singleton]; omega

def acknowledge (f : Flow α size) (ack : Nat) (h : ack ≤ f.consumed) : Flow α size where
  log := f.log
  acked := max f.acked ack
  consumed := f.consumed
  received := f.received
  acked_le := Nat.max_le.2 ⟨f.acked_le, h⟩
  consumed_le := f.consumed_le
  received_le := f.received_le
  window := Nat.le_trans f.window (Nat.add_le_add_right (Nat.le_max_left _ _) _)

def accept (f : Flow α size) {p : Packet} (h : f.Sent p) : Flow α size where
  log := f.log
  acked := f.acked
  consumed := f.consumed
  received := max f.received p.last
  acked_le := f.acked_le
  consumed_le := Nat.le_trans f.consumed_le (Nat.le_max_left _ _)
  received_le := Nat.max_le.2 ⟨f.received_le, h.last_le⟩
  window := f.window

def consume (f : Flow α size) : Flow α size where
  log := f.log
  acked := f.acked
  consumed := f.received
  received := f.received
  acked_le := Nat.le_trans f.acked_le f.consumed_le
  consumed_le := Nat.le_refl _
  received_le := f.received_le
  window := f.window

structure Extends (f f' : Flow α size) : Prop where
  log : f.log <+: f'.log
  acked : f.acked ≤ f'.acked
  consumed : f.consumed ≤ f'.consumed

structure SameReceiver (f f' : Flow α size) : Prop where
  log : f.log <+: f'.log
  acked : f.acked ≤ f'.acked
  consumed : f'.consumed = f.consumed
  received : f'.received = f.received

theorem SameReceiver.extends {f f' : Flow α size} (h : f.SameReceiver f') : f.Extends f' :=
  ⟨h.log, h.acked, Nat.le_of_eq h.consumed.symm⟩

theorem SameReceiver.refl (f : Flow α size) : f.SameReceiver f :=
  ⟨List.prefix_refl _, Nat.le_refl _, rfl, rfl⟩

theorem SameReceiver.trans {f f' f'' : Flow α size} (h : f.SameReceiver f')
    (h' : f'.SameReceiver f'') : f.SameReceiver f'' :=
  ⟨h.log.trans h'.log, Nat.le_trans h.acked h'.acked, h'.consumed.trans h.consumed,
    h'.received.trans h.received⟩

theorem sameReceiver_push (f : Flow α size) (x : α) (h : f.log.length < f.acked + size) :
    f.SameReceiver (f.push x h) :=
  ⟨List.prefix_append _ _, Nat.le_refl _, rfl, rfl⟩

theorem sameReceiver_acknowledge (f : Flow α size) (ack : Nat) (h : ack ≤ f.consumed) :
    f.SameReceiver (f.acknowledge ack h) :=
  ⟨List.prefix_refl _, Nat.le_max_left _ _, rfl, rfl⟩

structure SameSender (f f' : Flow α size) : Prop where
  log : f'.log = f.log
  acked : f'.acked = f.acked
  consumed : f.consumed ≤ f'.consumed

theorem SameSender.extends {f f' : Flow α size} (h : f.SameSender f') : f.Extends f' :=
  ⟨h.log ▸ List.prefix_refl _, Nat.le_of_eq h.acked.symm, h.consumed⟩

theorem SameSender.refl (f : Flow α size) : f.SameSender f := ⟨rfl, rfl, Nat.le_refl _⟩

theorem sameSender_accept (f : Flow α size) {p : Packet} (h : f.Sent p) :
    f.SameSender (f.accept h) :=
  ⟨rfl, rfl, Nat.le_refl _⟩

theorem sameSender_consume (f : Flow α size) : f.SameSender f.consume := ⟨rfl, rfl, f.consumed_le⟩

theorem Sent.extends {f f' : Flow α size} {p : Packet} (h : f.Sent p) (hextends : f.Extends f') :
    f'.Sent p :=
  ⟨Nat.le_trans h.first_le hextends.acked, Nat.le_trans h.last_le hextends.log.length_le, h.size_le⟩

theorem Extends.segment {f f' : Flow α size} (h : f.Extends f') {last : Nat}
    (hlast : last ≤ f.log.length) (first : Nat) :
    segment f'.log first last = segment f.log first last := by
  obtain ⟨more, hmore⟩ := h.log
  rw [← hmore]
  exact segment_append_log hlast more first

theorem consumed_le_length (f : Flow α size) : f.consumed ≤ f.log.length :=
  Nat.le_trans f.consumed_le f.received_le

theorem acked_le_length (f : Flow α size) : f.acked ≤ f.log.length :=
  Nat.le_trans f.acked_le f.consumed_le_length

theorem SameReceiver.held {f f' : Flow α size} (h : f.SameReceiver f') : f'.held = f.held := by
  rw [Flow.held, h.consumed, h.received]
  exact h.extends.segment f.received_le _

theorem SameReceiver.output {f f' : Flow α size} (h : f.SameReceiver f') : f'.output = f.output := by
  rw [Flow.output, h.consumed]
  exact h.extends.segment f.consumed_le_length 0

theorem sent_packet (f : Flow α size) : f.Sent f.packet :=
  ⟨Nat.le_refl _, Nat.le_refl _, f.window⟩

theorem length_pending (f : Flow α size) : f.pending.length = f.log.length - f.acked :=
  length_segment (Nat.le_refl _) _

theorem pending_push (f : Flow α size) (x : α) (h : f.log.length < f.acked + size) :
    (f.push x h).pending = f.pending ++ [x] := by
  change segment (f.log ++ [x]) f.acked (f.log ++ [x]).length = _
  rw [pending, segment_length, segment_length, List.drop_append_of_le_length f.acked_le_length]

@[simp] theorem held_consume (f : Flow α size) : f.consume.held = [] :=
  segment_of_le (Nat.le_refl f.received) f.log

theorem output_consume (f : Flow α size) : f.consume.output = f.output ++ f.held :=
  (take_append_segment f.log f.consumed_le).symm

theorem mem_output (f : Flow α size) {x : α} (hx : x ∈ f.log) (hpending : x ∉ f.pending) :
    x ∈ f.output := by
  rw [pending, segment_length] at hpending
  rw [← List.take_append_drop f.acked f.log, List.mem_append] at hx
  exact (List.take_prefix_take_left f.acked_le).subset (hx.resolve_right hpending)

end Flow

end PvpDuel.SlidingWindow
