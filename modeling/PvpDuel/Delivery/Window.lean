import PvpDuel.Client.MatchController
import PvpDuel.Lib.SlidingWindow
import PvpDuel.Room.Commands

/-!
# The two ends of the flow of commands

The client's queue is the sending end of a sliding window of eight commands, the player's seat in the
room is the receiving end. Each operation of the code on its end is the operation of the window: the
bounds of the queue, of a datagram and of the seat, and the room's window of sequences never bite.
-/

namespace PvpDuel.Delivery

open Client (InputFrame MatchController MatchModel PendingActionQueue)
open Simulation (Seat)
open SlidingWindow (Flow Numbered Packet segment)

abbrev CommandFlow : Type := Flow Client.ActionCommand Client.maximumSize

def roomAction : Client.Action → Simulation.ActionType
  | .dash => .dash
  | .lightAttack => .lightAttack
  | .moveUp | .moveDown | .moveLeft | .moveRight => .unspecified

def roomCommand (command : Client.ActionCommand) : Simulation.ActionCommand where
  sequence := command.sequence
  type := roomAction command.action

/-- The commands of a datagram that can be in flight. -/
def InFlight (f : CommandFlow) (commands : List Simulation.ActionCommand) : Prop :=
  ∃ p : Packet, f.Sent p ∧ commands = (segment f.log p.first p.last).map roomCommand

theorem InFlight.extends {f f' : CommandFlow} {commands : List Simulation.ActionCommand}
    (h : InFlight f commands) (hextends : f.Extends f') : InFlight f' commands := by
  obtain ⟨p, hsent, rfl⟩ := h
  exact ⟨p, hsent.extends hextends, by rw [hextends.segment hsent.last_le]⟩

/-! ### The client -/

structure Sender (f : CommandFlow) (q : PendingActionQueue) : Prop where
  pending : q.pending = f.pending
  numbered : Numbered (fun command => command.sequence.toNat) f.log
  next : q.nextSequence.toNat = (f.log.length + 1) % 2 ^ 32
  small : f.log.length < 2 ^ 32

section Sender

variable {f f' : CommandFlow} {q : PendingActionQueue}

theorem empty_sender : Sender (Flow.empty : CommandFlow) PendingActionQueue.empty where
  pending := rfl
  numbered := fun i h => absurd h (Nat.not_lt_zero i)
  next := rfl
  small := by decide

theorem Sender.of_same (h : Sender f q) (hsame : f.SameSender f') : Sender f' q := by
  obtain ⟨hlog, hacked, -⟩ := hsame
  refine ⟨?_, by rw [hlog]; exact h.numbered, by rw [hlog]; exact h.next, by rw [hlog]; exact h.small⟩
  rw [h.pending, Flow.pending, Flow.pending, hlog, hacked]

theorem Sender.enqueue (h : Sender f q) (action : Client.Action) : ∃ f', f.SameReceiver f' ∧
    f'.acked = f.acked ∧ Sender f' (q.enqueue action).2 := by
  rcases q.enqueue_cases action with heq | ⟨q', heq, -, hroom, hnonzero, hnext, hpending⟩
  · rw [heq]
    exact ⟨f, .refl f, rfl, h⟩
  rw [heq]
  have hlength := f.acked_le_length
  have hsmall := h.small
  have hpush : f.log.length < f.acked + Client.maximumSize := by
    rw [h.pending, f.length_pending] at hroom
    omega
  have hnumber : q.nextSequence.toNat = f.log.length + 1 := by
    have hne : q.nextSequence.toNat ≠ 0 := fun hzero => hnonzero (UInt32.toNat_inj.1 hzero)
    have hmod := h.next
    omega
  refine ⟨f.push ⟨q.nextSequence, action⟩ hpush, Flow.sameReceiver_push f _ hpush, rfl, ?_⟩
  have hlog : (f.push ⟨q.nextSequence, action⟩ hpush).log = f.log ++ [⟨q.nextSequence, action⟩] := rfl
  have hlt := q.nextSequence.toNat_lt
  constructor
  · rw [hpending, Flow.pending_push, h.pending]
  · exact h.numbered.concat hnumber
  · rw [hnext, UInt32.toNat_add, hnumber, hlog, List.length_append, List.length_singleton]
    rfl
  · rw [hlog, List.length_append, List.length_singleton]
    omega

theorem Sender.acknowledge (h : Sender f q) {ack : UInt32} (hack : ack.toNat ≤ f.consumed) :
    Sender (f.acknowledge ack.toNat hack) (q.acknowledge ack) := by
  refine ⟨?_, h.numbered, h.next, h.small⟩
  have hfilter := h.numbered.filter_segment f.acked ack.toNat (Nat.le_refl f.log.length)
  change q.pending.filter (fun command => ack < command.sequence) = _
  rw [h.pending, Flow.pending, Flow.pending]
  simp only [UInt32.lt_iff_toNat_lt]
  exact hfilter

theorem actions_outgoing (m : MatchModel) (frame : InputFrame) :
    (MatchServer.inputFromProto (Client.toProtobuf (m.outgoing frame))).actions =
      m.pendingActions.pending.map roomCommand := by
  have hbounded : m.pendingActions.pending.length ≤ 8 := m.pendingActions.bounded
  have hcommand : ∀ command : Client.ActionCommand, MatchServer.actionFromProto {
      sequence := (Client.commandToProtocol command).sequence
      type := Client.actionTypeToProtobuf (Client.commandToProtocol command).type } =
        roomCommand command := by
    rintro ⟨sequence, action⟩
    cases action <;> rfl
  have hsent : (m.pendingActions.pending.map Client.commandToProtocol).take
      Client.maximumPendingActions = m.pendingActions.pending.map Client.commandToProtocol :=
    List.take_of_length_le (by rwa [List.length_map])
  have hread : ∀ commands : List Gamev1.ActionCommand,
      commands.length = m.pendingActions.pending.length →
        commands.take Simulation.maxPendingActions = commands :=
    fun commands hlength => List.take_of_length_le (by rwa [hlength])
  rw [MatchServer.inputFromProto, Client.toProtobuf, MatchModel.outgoing]
  dsimp only
  rw [hsent, hread _ (by rw [List.length_map, List.length_map]), List.map_map, List.map_map]
  exact List.map_congr_left fun command _ => hcommand command

theorem Sender.advanceTick {c : MatchController} (h : Sender f c.model.pendingActions)
    (frame : InputFrame) : ∃ f', f.SameReceiver f' ∧
      f'.log = f.log ++ (c.advanceTick frame).model.pendingActions.pending.drop
        c.model.pendingActions.pending.length ∧
      Sender f' (c.advanceTick frame).model.pendingActions := by
  have hpushed : ∃ f', f.SameReceiver f' ∧ f'.acked = f.acked ∧
      Sender f' (c.advanceTick frame).model.pendingActions := by
    refine MatchController.advanceTick_induction (P := fun q => ∃ f', f.SameReceiver f' ∧
      f'.acked = f.acked ∧ Sender f' q) ?_ frame ⟨f, .refl f, rfl, h⟩
    rintro q action ⟨f₁, hsame, hacked, hsender⟩
    obtain ⟨f₂, hpush, hkept, hsender⟩ := hsender.enqueue action
    exact ⟨f₂, hsame.trans hpush, hkept.trans hacked, hsender⟩
  obtain ⟨f', hsame, hacked, hsender⟩ := hpushed
  refine ⟨f', hsame, ?_, hsender⟩
  obtain ⟨more, hmore⟩ := hsame.log
  rw [hsender.pending, h.pending, f.length_pending, Flow.pending, SlidingWindow.segment_length, hacked,
    ← hmore, List.drop_append_of_le_length f.acked_le_length, ← List.length_drop, List.drop_left]

theorem Sender.poll {m : MatchModel} (h : Sender f m.pendingActions)
    (start : Option Gamev1.MatchStart) (snapshot : Option Gamev1.WorldSnapshot)
    (matchEnd : Option Gamev1.MatchEnd)
    (hacks : ∀ w ∈ MatchModel.polled start snapshot matchEnd, ∀ player ∈ w.players,
      player.playerID = m.localPlayerId → player.lastAckedActionSequence.toNat ≤ f.consumed) :
    ∃ f', f.SameReceiver f' ∧ f'.log = f.log ∧
      Sender f' (m.poll start snapshot matchEnd).pendingActions := by
  refine (MatchModel.poll_induction (P := fun q => ∃ f', f.SameReceiver f' ∧ f'.log = f.log ∧
    Sender f' q) ?_ ⟨f, .refl f, rfl, h⟩).1
  rintro q w hw player hplayer hlocal ⟨f', hsame, hlog, hsender⟩
  have hack := hacks w hw player hplayer hlocal
  rw [← hsame.consumed] at hack
  exact ⟨f'.acknowledge _ hack, hsame.trans (Flow.sameReceiver_acknowledge f' _ hack), hlog,
    hsender.acknowledge hack⟩

end Sender

/-! ### The room -/

structure Receiver (f : CommandFlow) (s : Seat) : Prop where
  ack : s.player.lastAckedActionSequence.toNat = f.consumed
  held : s.pendingActions = f.held.map roomCommand

section Receiver

variable {f : CommandFlow} {s : Seat}

theorem foldl_queueAction_segment {log : List Simulation.ActionCommand}
    (hnumbered : Numbered (fun command => command.sequence.toNat) log) {ack : UInt32}
    {first last received : Nat} (hfirst : first ≤ ack.toNat) (hreceived : ack.toNat ≤ received)
    (hlast : last ≤ log.length) (hsize : last ≤ first + Simulation.maxPendingActions) :
    (segment log first last).foldl (Seat.queueAction ack) (segment log ack.toNat received) =
      segment log ack.toNat (max received last) := by
  induction last with
  | zero =>
      rw [SlidingWindow.segment_of_le (Nat.zero_le _), Nat.max_eq_left (Nat.zero_le _)]
      rfl
  | succ last ih =>
      rcases Nat.lt_or_ge last first with hlt | hge
      · rw [SlidingWindow.segment_of_le hlt, Nat.max_eq_left (by omega)]
        rfl
      have hnumber : log[last].sequence.toNat = last + 1 := hnumbered last hlast
      rw [SlidingWindow.segment_succ hge hlast, List.foldl_append, ih (by omega) (by omega)]
      change Seat.queueAction ack _ log[last] = _
      rcases Nat.lt_or_ge last received with hold | hnew
      · rw [Nat.max_eq_left (Nat.le_of_lt hold), Nat.max_eq_left hold, Seat.queueAction]
        split_ifs with hrejected
        · rfl
        · have habove := (Simulation.window_iff _ _).1 hrejected
          have hack := UInt32.lt_iff_toNat_lt.1 habove.1
          exact KeyedQueue.insert_of_present _
            ⟨log[last], SlidingWindow.getElem_mem_segment hlast (by omega) hold, rfl⟩
      · rw [Nat.max_eq_right hnew, Nat.max_eq_right (Nat.le_succ_of_le hnew),
          SlidingWindow.segment_succ (Nat.le_trans hreceived hnew) hlast, Seat.queueAction, if_neg]
        · refine KeyedQueue.Sorted.insert_last ?_ ?_ ?_
          · refine List.Pairwise.imp (fun h => UInt32.lt_iff_toNat_lt.2 h)
              (List.Pairwise.sublist ?_ hnumbered.pairwise)
            exact (List.drop_sublist _ _).trans (List.take_sublist _ _)
          · intro queued hqueued
            have hbound : queued.sequence.toNat ≤ last := (hnumbered.mem_segment hqueued).2
            rw [UInt32.lt_iff_toNat_lt, hnumber]
            omega
          · rw [SlidingWindow.length_segment (Nat.le_of_lt hlast)]
            omega
        · have hahead : Simulation.maxPendingActions ≤ Simulation.maxActionSequenceAhead.toNat := by
            decide
          rw [Simulation.window_iff, UInt32.lt_iff_toNat_lt, hnumber]
          omega

theorem newSeat_receiver (id : String) (x y hp : Int32) (facingX : Int8) :
    Receiver Flow.empty (Simulation.newSeat id x y hp facingX) := ⟨rfl, rfl⟩

theorem Receiver.of_same {f' : CommandFlow} (h : Receiver f s) (hsame : f.SameReceiver f') :
    Receiver f' s :=
  ⟨h.ack.trans hsame.consumed.symm, by rw [hsame.held]; exact h.held⟩

theorem Receiver.accept (h : Receiver f s)
    (hnumbered : Numbered (fun command => command.sequence.toNat) f.log) {p : Packet} (hsent : f.Sent p)
    {input : Simulation.Input}
    (hactions : input.actions = (segment f.log p.first p.last).map roomCommand) :
    Receiver (f.accept hsent) { s.holdInput input with
      pendingActions := (input.actions.take Simulation.maxPendingActions).foldl
        (Seat.queueAction s.player.lastAckedActionSequence) s.pendingActions } := by
  have hlog : Numbered (fun command : Simulation.ActionCommand => command.sequence.toNat)
      (f.log.map roomCommand) := Numbered.map hnumbered
  have hsize : p.last ≤ p.first + Simulation.maxPendingActions := hsent.size_le
  have hlast := hsent.last_le
  have hconsumed : p.first ≤ f.consumed := Nat.le_trans hsent.first_le f.acked_le
  have htake : input.actions.take Simulation.maxPendingActions = input.actions := by
    apply List.take_of_length_le
    rw [hactions, List.length_map, SlidingWindow.length_segment hlast]
    omega
  constructor
  · change (s.holdInput input).player.lastAckedActionSequence.toNat = _
    rw [Seat.holdInput_player]
    exact h.ack
  · change (input.actions.take _).foldl _ s.pendingActions = _
    rw [htake, hactions, h.held, Flow.held, ← SlidingWindow.segment_map, ← SlidingWindow.segment_map,
      ← h.ack, foldl_queueAction_segment hlog (by rw [h.ack]; exact hconsumed)
        (by rw [h.ack]; exact f.consumed_le) (by rw [List.length_map]; exact hlast) hsize,
      SlidingWindow.segment_map, h.ack]
    rfl

theorem Receiver.submitInput (h : Receiver f s)
    (hnumbered : Numbered (fun command => command.sequence.toNat) f.log) {input : Simulation.Input}
    (hinput : InFlight f input.actions) :
    ∃ f', f.SameSender f' ∧ f'.consumed = f.consumed ∧ Receiver f' (s.submitInput input) := by
  obtain ⟨p, hsent, hactions⟩ := hinput
  unfold Seat.submitInput
  split_ifs
  · exact ⟨f, .refl f, rfl, h⟩
  · exact ⟨f.accept hsent, Flow.sameSender_accept f hsent, rfl, h.accept hnumbered hsent hactions⟩

theorem Receiver.lastSequence (h : Receiver f s)
    (hnumbered : Numbered (fun command => command.sequence.toNat) f.log) :
    (Simulation.lastSequence s.player.lastAckedActionSequence s.pendingActions).toNat =
      f.received := by
  have hlength := f.received_le
  rw [h.held, Flow.held]
  rcases Nat.lt_or_ge f.consumed f.received with hlt | hge
  · obtain ⟨last, hlast⟩ : ∃ last, f.received = last + 1 := ⟨f.received - 1, by omega⟩
    rw [hlast, SlidingWindow.segment_succ (by omega) (by omega), List.map_append,
      Simulation.lastSequence_append]
    exact hnumbered last (by omega)
  · rw [SlidingWindow.segment_of_le hge]
    exact h.ack.trans (Nat.le_antisymm f.consumed_le hge)

theorem Receiver.step {r : Simulation.Room} {i : Side} (h : Receiver f (r.seats.get i))
    (hnumbered : Numbered (fun command => command.sequence.toNat) f.log) :
    ∃ f', f.SameSender f' ∧ Receiver f' (r.step.seats.get i) ∧
      f'.output.map roomCommand = f.output.map roomCommand ++ r.consumed i .step := by
  have hack : (r.step.seats.get i).player.lastAckedActionSequence = _ :=
    r.lastAckedActionSequence_apply .step i
  rw [Simulation.Room.consumed] at hack ⊢
  by_cases hfinished : r.status = .finished
  · rw [if_pos hfinished, List.append_nil]
    refine ⟨f, .refl f, ?_, rfl⟩
    rw [Simulation.Room.step_of_finished hfinished]
    exact h
  rw [if_neg hfinished] at hack ⊢
  have hpending : (r.step.seats.get i).pendingActions = [] := by
    rcases r.seat_step i with ⟨hstatus, -⟩ | ⟨-, hseat⟩ | ⟨-, hseat⟩ | ⟨-, -, hseat⟩
    · exact absurd hstatus hfinished
    · rw [hseat]
      rfl
    · rw [hseat]
      rfl
    · rw [hseat]
      exact (r.stepSeat_fields i).2.2.2.2.2
  refine ⟨f.consume, Flow.sameSender_consume f, ⟨?_, ?_⟩, ?_⟩
  · rw [hack, h.lastSequence hnumbered]
    rfl
  · rw [hpending, Flow.held_consume]
    rfl
  · rw [Flow.output_consume, List.map_append, h.held]

end Receiver

end PvpDuel.Delivery
