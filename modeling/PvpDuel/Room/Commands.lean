import Mathlib.Data.List.Induction
import PvpDuel.Lib.FixedWidth
import PvpDuel.Room.Actions

/-!
# Commands against arbitrary clients

Whatever a client sends, its queue stays strictly sorted, bounded and inside the window above the
last acknowledged sequence. A step consumes the whole queue, so the commands consumed over a run
have strictly increasing sequences and the acknowledgement is the last of them.
-/

namespace PvpDuel.Simulation

/-- The commands a call consumes: the queue that `acknowledgeRejectedActions` or `processActions`
runs through when `Step` is called. -/
def Room.consumed (r : Room) (i : Side) : Event → List ActionCommand
  | .step => if r.status = .finished then [] else (r.seats.get i).pendingActions
  | .submitInput _ _ => []

/-- The commands of one player consumed over a run, in order. -/
def Room.consumedOver (i : Side) : Room → List Event → List ActionCommand
  | _, [] => []
  | r, event :: events => r.consumed i event ++ consumedOver i (r.apply event) events

theorem Room.consumedOver_concat (i : Side) (r : Room) (events : List Event) (event : Event) :
    r.consumedOver i (events ++ [event]) = r.consumedOver i events ++ (r.run events).consumed i event := by
  induction events generalizing r with
  | nil => simp [consumedOver]
  | cons first events ih =>
      rw [List.cons_append, consumedOver, consumedOver, ih, List.append_assoc, run_cons]

/-! ### The queue -/

/-- A pending queue over the last acknowledged sequence: sorted, bounded, and in the window. -/
structure Queued (ack : UInt32) (pending : List ActionCommand) : Prop where
  sorted : KeyedQueue.Sorted ActionCommand.sequence pending
  bounded : pending.length ≤ maxPendingActions
  above : ∀ command ∈ pending, ack < command.sequence
  within : ∀ command ∈ pending,
    command.sequence.toNat ≤ ack.toNat + maxActionSequenceAhead.toNat

theorem Queued.nil (ack : UInt32) : Queued ack [] where
  sorted := List.Pairwise.nil
  bounded := Nat.zero_le _
  above := by simp
  within := by simp

/-- The window test of `queueAction` in unsigned arithmetic is the window over the naturals. -/
theorem window_iff (ack sequence : UInt32) :
    ¬ (sequence ≤ ack ∨ sequence - ack > maxActionSequenceAhead) ↔
      ack < sequence ∧ sequence.toNat ≤ ack.toNat + maxActionSequenceAhead.toNat := by
  rw [not_or, UInt32.not_le]
  refine and_congr_right fun h => ?_
  have hlt := UInt32.lt_iff_toNat_lt.1 h
  have hsub := FixedWidth.uint32_toNat_sub (Nat.le_of_lt hlt)
  rw [gt_iff_lt, UInt32.not_lt, UInt32.le_iff_toNat_le, hsub]
  omega

theorem Queued.queueAction {ack : UInt32} {pending : List ActionCommand} (h : Queued ack pending)
    (command : ActionCommand) : Queued ack (Seat.queueAction ack pending command) := by
  unfold Seat.queueAction
  split_ifs with hwindow
  · exact h
  · obtain ⟨habove, hwithin⟩ := (window_iff ack command.sequence).1 hwindow
    constructor
    · exact h.sorted.insert command
    · exact KeyedQueue.length_insert_le _ h.bounded command
    · intro other hother
      rcases KeyedQueue.mem_of_mem_insert _ hother with hold | rfl
      · exact h.above other hold
      · exact habove
    · intro other hother
      rcases KeyedQueue.mem_of_mem_insert _ hother with hold | rfl
      · exact h.within other hold
      · exact hwithin

theorem Queued.foldl_queueAction {ack : UInt32} {pending : List ActionCommand}
    (h : Queued ack pending) (commands : List ActionCommand) :
    Queued ack (commands.foldl (Seat.queueAction ack) pending) := by
  induction commands generalizing pending with
  | nil => exact h
  | cons command commands ih => exact ih (h.queueAction command)

/-! ### What consuming a queue acknowledges -/

theorem lastSequence_eq_getLast (commands : List ActionCommand) (ack : UInt32) :
    lastSequence ack commands = (commands.getLast?.map ActionCommand.sequence).getD ack := by
  induction commands generalizing ack with
  | nil => rfl
  | cons command commands ih =>
      rw [lastSequence_cons, ih, List.getLast?_cons]
      cases commands.getLast? <;> rfl

theorem le_lastSequence {ack : UInt32} {commands : List ActionCommand}
    (habove : ∀ command ∈ commands, ack < command.sequence) : ack ≤ lastSequence ack commands := by
  by_cases hnil : commands = []
  · subst commands
    exact UInt32.le_refl ack
  · obtain ⟨command, hmem, hlast⟩ := lastSequence_mem ack hnil
    rw [hlast]
    exact UInt32.le_of_lt (habove command hmem)

theorem sequence_le_lastSequence {commands : List ActionCommand}
    (hsorted : KeyedQueue.Sorted ActionCommand.sequence commands) (ack : UInt32)
    {command : ActionCommand} (h : command ∈ commands) :
    command.sequence ≤ lastSequence ack commands := by
  induction commands generalizing ack with
  | nil => cases h
  | cons first commands ih =>
      obtain ⟨hfirst, hrest⟩ := List.pairwise_cons.1 hsorted
      rw [lastSequence_cons]
      rcases List.mem_cons.1 h with rfl | h
      · exact le_lastSequence hfirst
      · exact ih hrest _ h

/-! ### One seat -/

/-- What every call keeps of a seat: its queue is in the window, and the acknowledged input tick is
not above the tick of the held input. -/
structure Seat.CommandSafe (s : Seat) : Prop where
  queued : Queued s.player.lastAckedActionSequence s.pendingActions
  held : s.input.tick = s.lastInputTick
  acked : s.player.lastAckedInputTick ≤ s.lastInputTick

theorem newSeat_commandSafe (id : String) (x y hp : Int32) (facingX : Int8) :
    (newSeat id x y hp facingX).CommandSafe where
  queued := Queued.nil 0
  held := rfl
  acked := UInt32.le_refl 0

theorem Seat.CommandSafe.submitInput {s : Seat} (h : s.CommandSafe) (input : Input) :
    (s.submitInput input).CommandSafe := by
  unfold Seat.submitInput Seat.holdInput
  split_ifs with hrange hnewer
  · exact h
  · exact ⟨h.queued.foldl_queueAction _, rfl, UInt32.le_trans h.acked (UInt32.le_of_lt hnewer)⟩
  · exact ⟨h.queued.foldl_queueAction _, h.held, h.acked⟩

theorem Seat.CommandSafe.settle {s : Seat} (h : s.CommandSafe) : (s.settle s).CommandSafe :=
  ⟨Queued.nil _, h.held, h.acked⟩

theorem Room.CommandSafe.stepSeat {r : Room} {i : Side} (h : (r.seats.get i).CommandSafe) :
    (r.stepSeat i).CommandSafe := by
  obtain ⟨-, hacked, -, hinput, hlast, hpending⟩ := r.stepSeat_fields i
  constructor
  · rw [hpending]
    exact Queued.nil _
  · rw [hinput, hlast]
    exact h.held
  · rw [hacked, hlast, h.held]
    exact UInt32.le_refl _

def Room.CommandSafe (r : Room) : Prop := ∀ i, (r.seats.get i).CommandSafe

theorem initialRoom_commandSafe (playerA playerB : String) (rules : Ruleset) :
    (initialRoom playerA playerB rules).CommandSafe := by
  intro i
  cases i <;> exact newSeat_commandSafe _ _ _ _ _

theorem Room.CommandSafe.submitInput {r : Room} (h : r.CommandSafe) (playerID : String)
    (input : Input) : (r.submitInput playerID input).1.CommandSafe := by
  intro i
  rcases r.seat_submitInput playerID input i with hseat | hseat <;> rw [hseat]
  · exact h i
  · exact (h i).submitInput input

theorem Room.CommandSafe.step {r : Room} (h : r.CommandSafe) : r.step.CommandSafe := by
  intro i
  rcases r.seat_step i with ⟨-, hseat⟩ | ⟨-, hseat⟩ | ⟨-, hseat⟩ | ⟨-, -, hseat⟩ <;> rw [hseat]
  · exact h i
  · rw [Seat.acknowledgeRejectedActions_eq]
    exact (h i).settle
  · rw [Seat.acknowledgeRejectedActions_eq]
    exact ⟨(h i).settle.queued, (h i).settle.held, (h i).settle.acked⟩
  · exact Room.CommandSafe.stepSeat (h i)

theorem Room.CommandSafe.run {r : Room} (h : r.CommandSafe) (events : List Event) :
    (r.run events).CommandSafe :=
  run_induction (fun _ playerID input h => h.submitInput playerID input) (fun _ h => h.step) h events

/-! ### What one call acknowledges -/

theorem Room.lastAckedActionSequence_apply (r : Room) (event : Event) (i : Side) :
    ((r.apply event).seats.get i).player.lastAckedActionSequence =
      lastSequence (r.seats.get i).player.lastAckedActionSequence (r.consumed i event) := by
  cases event with
  | submitInput playerID input =>
      rcases r.seat_submitInput playerID input i with h | h
      · rw [apply, h]
        rfl
      · rw [apply, h, Seat.submitInput_player]
        rfl
  | step =>
      rw [apply, consumed]
      rcases r.seat_step i with ⟨hf, h⟩ | ⟨hc, h⟩ | ⟨hc, h⟩ | ⟨hf, -, h⟩
      · rw [if_pos hf, h]
        rfl
      · rw [if_neg (by rw [hc]; decide), h, Seat.acknowledgeRejectedActions_eq]
        rfl
      · rw [if_neg (by rw [hc]; decide), h, Seat.acknowledgeRejectedActions_eq]
        rfl
      · rw [if_neg hf, h]
        exact (r.stepSeat_fields i).2.2.1

theorem Room.CommandSafe.consumed {r : Room} (h : r.CommandSafe) (i : Side) (event : Event) :
    Queued (r.seats.get i).player.lastAckedActionSequence (r.consumed i event) := by
  cases event with
  | submitInput playerID input => exact Queued.nil _
  | step =>
      rw [Room.consumed]
      split_ifs
      · exact Queued.nil _
      · exact (h i).queued

theorem Room.CommandSafe.lastAckedActionSequence_le {r : Room} (h : r.CommandSafe) (i : Side)
    (event : Event) : (r.seats.get i).player.lastAckedActionSequence ≤
      ((r.apply event).seats.get i).player.lastAckedActionSequence := by
  rw [Room.lastAckedActionSequence_apply]
  exact le_lastSequence (h.consumed i event).above

theorem Room.CommandSafe.lastAckedInputTick_le {r : Room} (h : r.CommandSafe) (i : Side)
    (event : Event) : (r.seats.get i).player.lastAckedInputTick ≤
      ((r.apply event).seats.get i).player.lastAckedInputTick := by
  cases event with
  | submitInput playerID input =>
      rcases r.seat_submitInput playerID input i with hseat | hseat <;> rw [Room.apply, hseat]
      · exact UInt32.le_refl _
      · rw [Seat.submitInput_player]
        exact UInt32.le_refl _
  | step =>
      rcases r.seat_step i with ⟨-, hseat⟩ | ⟨-, hseat⟩ | ⟨-, hseat⟩ | ⟨-, -, hseat⟩ <;>
        rw [Room.apply, hseat]
      · exact UInt32.le_refl _
      · rw [Seat.acknowledgeRejectedActions_eq]
        exact UInt32.le_refl _
      · rw [Seat.acknowledgeRejectedActions_eq]
        exact UInt32.le_refl _
      · rw [(r.stepSeat_fields i).2.1, (h i).held]
        exact (h i).acked

theorem Room.CommandSafe.acks_le_run {r : Room} (h : r.CommandSafe) (i : Side)
    (events : List Event) :
    (r.seats.get i).player.lastAckedActionSequence ≤
      ((r.run events).seats.get i).player.lastAckedActionSequence ∧
    (r.seats.get i).player.lastAckedInputTick ≤
      ((r.run events).seats.get i).player.lastAckedInputTick := by
  induction events generalizing r with
  | nil => exact ⟨UInt32.le_refl _, UInt32.le_refl _⟩
  | cons event events ih =>
      have happly : (r.apply event).CommandSafe := h.run [event]
      obtain ⟨haction, hinput⟩ := ih happly
      exact ⟨UInt32.le_trans (h.lastAckedActionSequence_le i event) haction,
        UInt32.le_trans (h.lastAckedInputTick_le i event) hinput⟩

/-- Over a run, the consumed commands are sorted and the acknowledgement is the last of them. -/
theorem Room.CommandSafe.consumedOver {r : Room} (h : r.CommandSafe) (i : Side)
    (events : List Event) :
    KeyedQueue.Sorted ActionCommand.sequence (r.consumedOver i events) ∧
    ((r.run events).seats.get i).player.lastAckedActionSequence =
      lastSequence (r.seats.get i).player.lastAckedActionSequence (r.consumedOver i events) := by
  induction events using List.reverseRecOn with
  | nil => exact ⟨List.Pairwise.nil, rfl⟩
  | append_singleton events event ih =>
      obtain ⟨hsorted, hack⟩ := ih
      have hnext := (h.run events).consumed i event
      rw [Room.consumedOver_concat, Room.run_concat, Room.lastAckedActionSequence_apply, hack,
        lastSequence_append]
      refine ⟨List.pairwise_append.2 ⟨hsorted, hnext.sorted, ?_⟩, rfl⟩
      intro old hold new hnew
      have habove := hnext.above new hnew
      rw [hack] at habove
      exact UInt32.lt_of_le_of_lt (sequence_le_lastSequence hsorted _ hold) habove

/-- Whatever calls with whatever inputs a room from `New` sees, no sequence number of a player is
consumed twice or out of order, the acknowledgement is the last consumed one, both acknowledgements
only grow, the queue is sorted, bounded and in the window, and an unknown player changes nothing. -/
theorem commands_safe {playerA playerB : String} {r₀ : Room} (hnew : new playerA playerB = .ok r₀)
    (events : List Event) (i : Side) :
    let log := r₀.consumedOver i events
    let s := (r₀.run events).seats.get i
    log.Pairwise (fun first second => first.sequence < second.sequence) ∧
    s.player.lastAckedActionSequence = (log.getLast?.map ActionCommand.sequence).getD 0 ∧
    (∀ later : List Event,
      s.player.lastAckedActionSequence ≤
        ((r₀.run (events ++ later)).seats.get i).player.lastAckedActionSequence ∧
      s.player.lastAckedInputTick ≤
        ((r₀.run (events ++ later)).seats.get i).player.lastAckedInputTick) ∧
    s.pendingActions.Pairwise (fun first second => first.sequence < second.sequence) ∧
    s.pendingActions.length ≤ maxPendingActions ∧
    (∀ command ∈ s.pendingActions,
      s.player.lastAckedActionSequence.toNat < command.sequence.toNat ∧
      command.sequence.toNat ≤
        s.player.lastAckedActionSequence.toNat + maxActionSequenceAhead.toNat) ∧
    ∀ playerID input, playerID ≠ playerA → playerID ≠ playerB →
      (r₀.run events).submitInput playerID input =
        (r₀.run events, .error (.unknownPlayer playerID)) := by
  obtain ⟨-, -, -, -, rfl⟩ := newWithRuleset_ok hnew
  have hinitial := initialRoom_commandSafe playerA playerB defaultRuleset
  have hsafe := hinitial.run events
  obtain ⟨hsorted, hack⟩ := hinitial.consumedOver i events
  have hqueued := (hsafe i).queued
  refine ⟨hsorted, ?_, ?_, hqueued.sorted, hqueued.bounded, ?_, ?_⟩
  · rw [hack, lastSequence_eq_getLast]
    cases i <;> rfl
  · intro later
    rw [Room.run_append]
    exact hsafe.acks_le_run i later
  · intro command hcommand
    exact ⟨UInt32.lt_iff_toNat_lt.1 (hqueued.above command hcommand),
      hqueued.within command hcommand⟩
  · intro playerID input ha hb
    apply Room.submitInput_of_error
    apply Room.playerIndex_unknown
    intro index
    rw [Room.run_id]
    cases index
    · exact ha.symm
    · exact hb.symm

/-- A run that queues a duplicate and an out-of-order command, steps, and sends again. -/
theorem commands_safe_alice :
    new "alice" "bob" = .ok (initialRoom "alice" "bob" defaultRuleset) ∧
    ((initialRoom "alice" "bob" defaultRuleset).consumedOver .a
      [.submitInput "alice" ⟨1, 0, 0, [⟨2, .dash⟩, ⟨1, .lightAttack⟩, ⟨2, .dash⟩]⟩, .step,
        .submitInput "alice" ⟨2, 0, 0, [⟨1, .dash⟩, ⟨3, .dash⟩]⟩, .step]).Pairwise
      (fun first second => first.sequence < second.sequence) := by
  have hnew : new "alice" "bob" = .ok (initialRoom "alice" "bob" defaultRuleset) :=
    newWithRuleset_of_accepted (by decide) (by decide) (by decide) defaultRuleset_accepted
  exact ⟨hnew, (commands_safe hnew _ .a).1⟩

end PvpDuel.Simulation
