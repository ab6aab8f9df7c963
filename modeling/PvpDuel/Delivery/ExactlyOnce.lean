import PvpDuel.Delivery.Network
import PvpDuel.Delivery.Window

/-!
# Commands are delivered exactly once

Whatever the network does, the client, the datagrams and the room together are a sliding window: what
the room has consumed is a prefix of what the client has enqueued, and the client only forgets what
the room has consumed.
-/

namespace PvpDuel.Delivery

open Gamev1 (PlayerInput PlayerState)
open MatchServer (Match Process RoomStep Step)
open SlidingWindow (Flow Numbered)

/-- The state of the network match is that of the window. -/
structure Represents (n : NetworkMatch) (f : CommandFlow) : Prop where
  log : f.log = n.enqueued
  sender : Sender f n.client.model.pendingActions
  receiver : Receiver f n.seat
  consumed : n.consumed = f.output.map roomCommand
  datagrams : ∀ input ∈ n.datagrams, InFlight f (MatchServer.inputFromProto input).actions
  inputs : ∀ queued ∈ n.server.inputs.buffer, queued.playerID = n.playerID →
    ∃ input ∈ n.datagrams, queued.input = MatchServer.inputFromProto input
  acks : ∀ players, n.server.Carries players → ∀ player ∈ players, player.playerID = n.playerID →
    player.lastAckedActionSequence.toNat ≤ f.consumed

section

variable {n n' : NetworkMatch} {f : CommandFlow}

/-! ### The client -/

theorem Represents.of_client (h : Represents n f) {f' : CommandFlow} (hsame : f.SameReceiver f')
    (hserver : n'.server = n.server) (hplayer : n'.player = n.player) (hlog : f'.log = n'.enqueued)
    (hsender : Sender f' n'.client.model.pendingActions) (hconsumed : n'.consumed = n.consumed)
    {sent : List PlayerInput} (hdatagrams : n'.datagrams = n.datagrams ++ sent)
    (hsent : ∀ input ∈ sent, InFlight f' (MatchServer.inputFromProto input).actions) :
    Represents n' f' := by
  have hextends := hsame.extends
  have hid : n'.playerID = n.playerID := by rw [NetworkMatch.playerID, hserver, hplayer]; rfl
  refine ⟨hlog, hsender, ?_, ?_, ?_, ?_, ?_⟩
  · rw [NetworkMatch.seat, hserver, hplayer]
    exact h.receiver.of_same hsame
  · rw [hconsumed, hsame.output]
    exact h.consumed
  · intro input hin
    rw [hdatagrams] at hin
    rcases List.mem_append.1 hin with hold | hnew
    · exact (h.datagrams input hold).extends hextends
    · exact hsent input hnew
  · rw [hserver, hid, hdatagrams]
    intro queued hin hown
    obtain ⟨input, hinput, heq⟩ := h.inputs queued hin hown
    exact ⟨input, List.mem_append_left _ hinput, heq⟩
  · rw [hserver, hid, hsame.consumed]
    exact h.acks

theorem Represents.fixedTick (h : Represents n f) (frame : Client.InputFrame) :
    ∃ f', Represents (n.fixedTick frame) f' := by
  unfold NetworkMatch.fixedTick Client.MatchController.fixedTick
  by_cases hticks : n.client.model.Ticks
  · rw [if_pos hticks]
    obtain ⟨f', hsame, hlog, hsender⟩ := h.sender.advanceTick frame
    refine ⟨f', h.of_client hsame rfl rfl ?_ hsender rfl rfl fun input hin => ?_⟩
    · rw [hlog, h.log]
      rfl
    · obtain rfl := List.mem_singleton.1 hin
      rw [actions_outgoing, hsender.pending]
      exact ⟨f'.packet, f'.sent_packet, rfl⟩
  · rw [if_neg hticks]
    refine ⟨f, h.of_client (.refl f) rfl rfl ?_ h.sender rfl rfl fun input hin => ?_⟩
    · change f.log = n.enqueued ++ n.pending.drop n.pending.length
      rw [h.log, List.drop_length, List.append_nil]
    · cases hin

theorem Represents.pollNetwork (h : Represents n f) (hhosted : Hosted n) (start : Bool)
    (snapshot matchEnd : Option Nat) (connected : Bool) :
    ∃ f', Represents (n.pollNetwork start snapshot matchEnd connected) f' := by
  have hpolled : ∀ w ∈ Client.MatchModel.polled (n.polledStart start) (n.polledSnapshot snapshot)
      (n.polledEnd matchEnd), n.server.Carries w.players :=
    forall_polled n (.start n.player) (.shown n.player) (.sent n.player) start snapshot matchEnd
  obtain ⟨f', hsame, hlog, hsender⟩ := h.sender.poll (n.polledStart start)
    (n.polledSnapshot snapshot) (n.polledEnd matchEnd) fun w hw player hplayer hlocal =>
      h.acks _ (hpolled w hw) player hplayer (hlocal.trans hhosted.client)
  exact ⟨f', h.of_client hsame rfl rfl (hlog.trans h.log) hsender rfl (List.append_nil _).symm
    fun _ hin => absurd hin List.not_mem_nil⟩

/-! ### The match -/

theorem snapshot_ack (hhosted : Hosted n) {player : PlayerState}
    (hplayer : player ∈ (MatchServer.snapshotToProto n.server.room.snapshot).players)
    (hid : player.playerID = n.playerID) :
    player.lastAckedActionSequence = n.seat.player.lastAckedActionSequence := by
  have hside : ∀ side, player = MatchServer.playerToProto (n.server.room.seats.get side).player →
      player.lastAckedActionSequence = n.seat.player.lastAckedActionSequence := by
    rintro side rfl
    have heq : side = n.player := hhosted.side_eq ((hhosted.seats side).symm.trans hid)
    rw [heq]
    rfl
  change player ∈ [_, _] at hplayer
  rcases List.mem_cons.1 hplayer with heq | hplayer
  · exact hside .a heq
  · exact hside .b (List.mem_singleton.1 hplayer)

/-- A step of the match that is known to keep the two ends and the inputs. -/
theorem Represents.of_server (h : Represents n f) {f' : CommandFlow} (hsame : f.SameSender f')
    {server : Process} {delivered : List Simulation.Input}
    {consumed : List Simulation.ActionCommand} (hstep : Step n.server server)
    (hhosted : Hosted { n with server, consumed, delivered })
    (hreceiver : Receiver f' (server.room.seats.get n.player))
    (hconsumed : consumed = f'.output.map roomCommand)
    (hinputs : ∀ queued ∈ server.inputs.buffer, queued.playerID = n.playerID →
      queued ∈ n.server.inputs.buffer ∨
        ∃ input ∈ n.datagrams, queued.input = MatchServer.inputFromProto input) :
    Represents { n with server, consumed, delivered } f' := by
  have hextends := hsame.extends
  have hid : (server.players.get n.player).playerID = n.playerID := (hstep.session n.player).playerID
  refine ⟨hsame.log.trans h.log, h.sender.of_same hsame, hreceiver, hconsumed, ?_, ?_, ?_⟩
  · exact fun input hin => (h.datagrams input hin).extends hextends
  · intro queued hin hown
    rcases hinputs queued hin (hown.trans hid) with hold | hnew
    · exact h.inputs queued hold (hown.trans hid)
    · exact hnew
  · intro players hcarries player hplayer hown
    rcases hstep.carries hcarries with hold | ⟨-, hroom, rfl⟩
    · exact Nat.le_trans (h.acks players hold player hplayer (hown.trans hid)) hsame.consumed
    · rw [← hroom] at hplayer
      rw [snapshot_ack hhosted hplayer hown]
      exact Nat.le_of_eq hreceiver.ack

theorem Represents.act (h : Represents n f) (hhosted : Hosted n) {action : Match.Action}
    (hact : n.act action = some n')
    (hown : ∀ input, action = .submitInput n.player input → input ∈ n.datagrams) :
    ∃ f', Represents n' f' := by
  have hhosted' := hhosted.act hact
  obtain ⟨server, hstep, hroom, -, rfl⟩ := hhosted.act_cases hact
  cases hroom with
  | idle hcall hroom hinputs =>
      refine ⟨f, h.of_server (.refl f) hstep hhosted' ?_ ?_ ?_⟩
      · rw [hroom]
        exact h.receiver
      · rw [NetworkMatch.consumes, hcall, List.append_nil]
        exact h.consumed
      · rw [hinputs]
        exact fun queued hin _ => .inl hin
  | submit player input haction hroom hinputs =>
      refine ⟨f, h.of_server (.refl f) hstep hhosted' ?_ ?_ ?_⟩
      · rw [hroom]
        exact h.receiver
      · rw [NetworkMatch.consumes, haction]
        exact (List.append_nil _).trans h.consumed
      · intro queued hin hqueued
        rcases hinputs with hbuffer | hsame
        · rw [hbuffer] at hin
          refine (List.mem_append.1 hin).imp_right fun hin => ?_
          obtain rfl := List.mem_singleton.1 hin
          obtain rfl : player = n.player := hhosted.side_eq hqueued
          exact ⟨input, hown input haction, rfl⟩
        · rw [hsame] at hin
          exact .inl hin
  | input queued hcall hinputs hroom =>
      have hconsumes : n.consumes action = [] := by
        rw [NetworkMatch.consumes, hcall]
        rfl
      have hleft : ∀ other ∈ server.inputs.buffer, other ∈ n.server.inputs.buffer := by
        intro other hin
        rw [hinputs]
        exact List.mem_cons_of_mem _ hin
      by_cases hplayer : queued.playerID = n.playerID
      · have hindex := Simulation.Room.playerIndex_of_id hhosted.distinct
          ((hhosted.seats n.player).trans hplayer.symm)
        obtain ⟨input, hinput, heq⟩ :=
          h.inputs queued (by rw [hinputs]; exact List.mem_cons_self ..) hplayer
        have hinflight : InFlight f queued.input.actions := by
          rw [heq]
          exact h.datagrams input hinput
        obtain ⟨f', hsame, hconsumed, hreceiver⟩ :=
          h.receiver.submitInput h.sender.numbered hinflight
        refine ⟨f', h.of_server hsame hstep hhosted' ?_ ?_ fun other hin _ => .inl (hleft other hin)⟩
        · rw [hroom, Simulation.Room.submitInput_of_ok queued.input hindex, Pair.get_set_self]
          exact hreceiver
        · rw [hconsumes, List.append_nil, h.consumed, Flow.output, Flow.output, hsame.log, hconsumed]
      · refine ⟨f, h.of_server (.refl f) hstep hhosted' ?_ ?_ fun other hin _ => .inl (hleft other hin)⟩
        · rw [hroom, Simulation.Room.submitInput_of_ne]
          · exact h.receiver
          · rw [hhosted.seats]
            exact Ne.symm hplayer
        · rw [hconsumes, List.append_nil]
          exact h.consumed
  | step hcall _ hroom hinputs =>
      obtain ⟨f', hsame, hreceiver, houtput⟩ := h.receiver.step h.sender.numbered
      refine ⟨f', h.of_server hsame hstep hhosted' ?_ ?_ ?_⟩
      · rw [hroom]
        exact hreceiver
      · rw [NetworkMatch.consumes, hcall, houtput, h.consumed]
      · rw [hinputs]
        exact fun other hin _ => .inl hin

theorem Represents.next (h : Represents n f) (hhosted : Hosted n) {action : Action}
    (hnext : n.next action = some n') : ∃ f', Represents n' f' := by
  cases action with
  | fixedTick frame =>
      cases hnext
      exact h.fixedTick frame
  | pollNetwork start snapshot matchEnd connected =>
      cases hnext
      exact h.pollNetwork hhosted start snapshot matchEnd connected
  | deliver datagram =>
      obtain ⟨input, hinput, hact⟩ := Option.bind_eq_some_iff.1 hnext
      refine h.act hhosted hact fun other heq => ?_
      cases heq
      exact List.mem_of_getElem? hinput
  | server action =>
      rw [NetworkMatch.next] at hnext
      split_ifs at hnext with hforeign
      refine h.act hhosted hnext fun input heq => ?_
      rw [heq] at hforeign
      exact absurd rfl hforeign

end

/-! ### Every run -/

theorem connect_represents {matchID playerA playerB : String} {reporter : Bool} {server : Process}
    (h : MatchServer.startMatch matchID playerA playerB reporter = .ok server) (player : Side) :
    Represents (connect server player) Flow.empty := by
  have hhosted := connect_hosted h player
  obtain ⟨duel, hduel, rfl⟩ := MatchServer.startMatch_ok h
  obtain ⟨-, -, -, -, rfl⟩ := Simulation.newWithRuleset_ok hduel
  refine ⟨rfl, empty_sender, ?_, rfl, ?_, ?_, ?_⟩
  · cases player <;> exact newSeat_receiver _ _ _ _ _
  · exact fun input hin => absurd hin List.not_mem_nil
  · exact fun queued hin => absurd hin List.not_mem_nil
  · intro players hcarries entry hentry hid
    rw [MatchServer.initialProcess_carries hcarries] at hentry
    rw [snapshot_ack hhosted hentry hid]
    cases player <;> exact Nat.le_refl 0

theorem represents_run {matchID playerA playerB : String} {reporter : Bool} {server : Process}
    {player : Side} {actions : List Action} {n : NetworkMatch}
    (hstart : MatchServer.startMatch matchID playerA playerB reporter = .ok server)
    (hrun : Transition.run NetworkMatch.next (connect server player) actions = some n) :
    Hosted n ∧ ∃ f, Represents n f :=
  Transition.run_invariant (P := fun n => Hosted n ∧ ∃ f, Represents n f)
    (fun _ _ _ ⟨hhosted, _, h⟩ hnext => ⟨hhosted.next hnext, h.next hhosted hnext⟩) hrun
    ⟨connect_hosted hstart player, _, connect_represents hstart player⟩

/-- After every run, the commands of the player that the room has consumed are the first `k` the client
enqueued, in order; `k` is the acknowledged sequence; the enqueued commands are numbered from one; and
whatever has left the client's queue is among those `k`. -/
theorem exactly_once {matchID playerA playerB : String} {reporter : Bool} {server : Process}
    {player : Side} {actions : List Action} {n : NetworkMatch}
    (hstart : MatchServer.startMatch matchID playerA playerB reporter = .ok server)
    (hrun : Transition.run NetworkMatch.next (connect server player) actions = some n) :
    ∃ k ≤ n.enqueued.length,
      n.consumed = (n.enqueued.take k).map roomCommand ∧
      n.seat.player.lastAckedActionSequence.toNat = k ∧
      (∀ (i : Nat) (h : i < n.enqueued.length), n.enqueued[i].sequence.toNat = i + 1) ∧
      ∀ command ∈ n.enqueued, command ∉ n.pending → command ∈ n.enqueued.take k := by
  obtain ⟨-, f, h⟩ := represents_run hstart hrun
  have hlog := h.log
  have hnumbered := h.sender.numbered
  have hpending : n.pending = f.pending := h.sender.pending
  refine ⟨f.consumed, ?_, ?_, h.receiver.ack, ?_, ?_⟩ <;> rw [← hlog]
  · exact f.consumed_le_length
  · exact h.consumed
  · exact hnumbered
  · rw [hpending]
    exact fun command => f.mem_output

/-! ### A run -/

def serve (actions : List Match.Action) : List Action := actions.map .server

/-- Alice's client is told of the start and, once the countdown is over, of the first active tick. -/
def countdown : List Action :=
  serve ([.acknowledgeMatchStart .a, .acknowledgeMatchStart .b, .loopStart, .loopTick, .loopNext,
      .loopNext] ++
    (List.replicate 89 [.loopTick, .loopNext, .loopNext, .loopNext, .loopNext]).flatten ++
    List.replicate 3 (.broadcastNext .a) ++ [.receiveSnapshot .a]) ++
  [.pollNetwork true (some 0) none true]

/-- Two datagrams with the same dash arrive in the wrong order, one of them twice. -/
def reordered : List Action :=
  countdown ++ [.fixedTick ⟨1, 0, [.dash], []⟩, .fixedTick ⟨0, 0, [], [.lightAttack]⟩, .deliver 1,
    .deliver 0, .deliver 1] ++ serve [.loopInput, .loopInput, .loopInput, .loopTick, .loopNext]

theorem exactly_once_reordered : ∃ server n,
    MatchServer.startMatch "match-1" "alice" "bob" true = .ok server ∧
    Transition.run NetworkMatch.next (connect server .a) reordered = some n ∧
    n.consumed.length = 2 ∧ ∃ k, n.consumed = (n.enqueued.take k).map roomCommand := by
  have hstart := MatchServer.startMatch_of_players "match-1" (show "alice" ≠ "" by decide)
    (show "bob" ≠ "" by decide) (by decide) true
  generalize hserver : MatchServer.initialProcess _ _ _ _ _ = server at hstart
  have hrun : (Transition.run NetworkMatch.next (connect server .a) reordered).map
      (fun n => n.consumed.length) = some 2 := by
    rw [← hserver]
    decide +kernel
  obtain ⟨n, hrun, hlength⟩ := Option.map_eq_some_iff.1 hrun
  obtain ⟨k, -, hconsumed, -⟩ := exactly_once hstart hrun
  exact ⟨server, n, hstart, hrun, hlength, k, hconsumed⟩

end PvpDuel.Delivery
