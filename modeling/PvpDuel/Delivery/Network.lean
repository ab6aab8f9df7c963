import PvpDuel.Client.MatchController
import PvpDuel.MatchServer.Snapshots
import PvpDuel.MatchServer.Terminal
import PvpDuel.Room.Commands

/-!
# One client, its match and the network between them

The client of one player runs against the whole match on the server. The network may hand any input
datagram the client has sent to the player's session, as often and as late as it likes, or never; and
a poll of the client may bring any snapshot or end that the session's consumer has taken to send. The
other player's inputs are arbitrary.
-/

namespace PvpDuel.Delivery

open Client (InputFrame MatchController)
open Gamev1 (MatchEnd MatchStart PlayerInput WorldSnapshot)
open MatchServer (Match Process RoomStep Step)

/-- The match with the client of one player, the input datagrams this client has sent, the commands it
has enqueued, the commands of this player the room has consumed, and the player's inputs that were
handed to the room's `SubmitInput`. -/
structure NetworkMatch where
  server : Process
  player : Side
  client : MatchController
  datagrams : List PlayerInput
  enqueued : List Client.ActionCommand
  consumed : List Simulation.ActionCommand
  delivered : List Simulation.Input
deriving DecidableEq

inductive Action
  | fixedTick (frame : InputFrame)
  | pollNetwork (start : Bool) (snapshot matchEnd : Option Nat) (connected : Bool)
  | deliver (datagram : Nat)
  | server (action : Match.Action)
deriving DecidableEq

namespace NetworkMatch

def playerID (n : NetworkMatch) : String := (n.server.players.get n.player).playerID

def seat (n : NetworkMatch) : Simulation.Seat := n.server.room.seats.get n.player

def pending (n : NetworkMatch) : List Client.ActionCommand :=
  n.client.model.pendingActions.pending

/-- The client ticks; what it enqueues goes to the end of its queue. -/
def fixedTick (n : NetworkMatch) (frame : InputFrame) : NetworkMatch :=
  { n with
    client := (n.client.fixedTick frame).1
    datagrams := n.datagrams ++ (n.client.fixedTick frame).2.toList.map Client.toProtobuf
    enqueued := n.enqueued ++
      (n.client.fixedTick frame).1.model.pendingActions.pending.drop n.pending.length }

/-- What the transport has for the client's polls. -/
def polledStart (n : NetworkMatch) (start : Bool) : Option MatchStart :=
  if start then some (n.server.players.get n.player).matchStart else none

def polledSnapshot (n : NetworkMatch) (snapshot : Option Nat) : Option WorldSnapshot :=
  snapshot.bind fun i => (n.server.received.get n.player).snapshots[i]?

def polledEnd (n : NetworkMatch) (matchEnd : Option Nat) : Option MatchEnd :=
  matchEnd.bind fun i => (n.server.received.get n.player).matchEnds[i]?

def pollNetwork (n : NetworkMatch) (start : Bool) (snapshot matchEnd : Option Nat) (connected : Bool) :
    NetworkMatch :=
  { n with client := (n.client.pollNetwork (n.polledStart start) (n.polledSnapshot snapshot)
      (n.polledEnd matchEnd) connected).2 }

/-- The commands of the player that a step of the match consumes. -/
def consumes (n : NetworkMatch) (action : Match.Action) : List Simulation.ActionCommand :=
  match n.server.roomCall action with
  | some call => n.server.room.consumed n.player call
  | none => []

/-- The input of the player that a step of the match hands to the room. -/
def submits (n : NetworkMatch) (action : Match.Action) : List Simulation.Input :=
  match n.server.roomCall action with
  | some (.submitInput playerID input) => if playerID = n.playerID then [input] else []
  | _ => []

def act (n : NetworkMatch) (action : Match.Action) : Option NetworkMatch :=
  (n.server.next action).map fun server => { n with
    server
    consumed := n.consumed ++ n.consumes action
    delivered := n.delivered ++ n.submits action }

/-- Only datagrams of the client reach the player's session. -/
def Foreign (player : Side) : Match.Action → Prop
  | .submitInput other _ => other ≠ player
  | _ => True

instance (player : Side) (action : Match.Action) : Decidable (Foreign player action) := by
  unfold Foreign
  split <;> infer_instance

def next (n : NetworkMatch) : Action → Option NetworkMatch
  | .fixedTick frame => some (n.fixedTick frame)
  | .pollNetwork start snapshot matchEnd connected =>
      some (n.pollNetwork start snapshot matchEnd connected)
  | .deliver datagram =>
      n.datagrams[datagram]?.bind fun input => n.act (.submitInput n.player input)
  | .server action => if Foreign n.player action then n.act action else none

end NetworkMatch

/-- The client of a player connects to a match that has just been started. -/
def connect (server : Process) (player : Side) : NetworkMatch where
  server := server
  player := player
  client := Client.newMatchController (server.players.get player).playerID
  datagrams := []
  enqueued := []
  consumed := []
  delivered := []

/-! ### What every step keeps of the parties -/

/-- The parties know each other by the IDs of the players. -/
structure Hosted (n : NetworkMatch) : Prop where
  safe : n.server.Safe
  seats : ∀ side, (n.server.room.seats.get side).player.id = (n.server.players.get side).playerID
  distinct : n.server.room.seats.a.player.id ≠ n.server.room.seats.b.player.id
  client : n.client.model.localPlayerId = n.playerID

section

variable {n n' : NetworkMatch}

/-- What a poll brings was the start of the match or has reached the session of the player. -/
theorem forall_polled (n : NetworkMatch) {P : WorldSnapshot → Prop}
    (hstart : P (n.server.players.get n.player).matchStart.initialSnapshot)
    (hshown : ∀ w ∈ n.server.shown n.player, P w)
    (hsent : ∀ e ∈ n.server.sent n.player, P e.finalSnapshot) (start : Bool)
    (snapshot matchEnd : Option Nat) :
    ∀ w ∈ Client.MatchModel.polled (n.polledStart start) (n.polledSnapshot snapshot)
      (n.polledEnd matchEnd), P w := by
  intro w hw
  rcases List.mem_append.1 hw with hw | hw
  · rcases List.mem_append.1 hw with hw | hw
    · cases start with
      | false => cases hw
      | true =>
          obtain rfl := List.mem_singleton.1 hw
          exact hstart
    · obtain ⟨i, -, hget⟩ := Option.bind_eq_some_iff.1 (Option.mem_toList.1 hw)
      exact hshown w (List.mem_append_left _ (List.mem_of_getElem? hget))
  · obtain ⟨e, he, rfl⟩ := List.mem_map.1 hw
    obtain ⟨i, -, hget⟩ := Option.bind_eq_some_iff.1 (Option.mem_toList.1 he)
    exact hsent e (List.mem_append_left _ (List.mem_of_getElem? hget))

theorem Hosted.side_eq (h : Hosted n) {side other : Side}
    (heq : (n.server.players.get side).playerID = (n.server.players.get other).playerID) :
    side = other := by
  rw [← h.seats, ← h.seats] at heq
  cases side <;> cases other
  · rfl
  · exact absurd heq h.distinct
  · exact absurd heq.symm h.distinct
  · rfl

/-- A step of the match is one of its goroutines, and it does not panic. -/
theorem Hosted.act_cases (h : Hosted n) {action : Match.Action} (hact : n.act action = some n') :
    ∃ server, Step n.server server ∧ RoomStep n.server server action ∧ server.Safe ∧ n' = { n with
      server
      consumed := n.consumed ++ n.consumes action
      delivered := n.delivered ++ n.submits action } := by
  obtain ⟨server, hnext, rfl⟩ := Option.map_eq_some_iff.1 hact
  obtain ⟨-, hdone | ⟨hpanicked, -⟩⟩ := Process.next_cases hnext
  · exact ⟨server, Process.step_done h.safe.wired.barrier hdone, Process.step_roomStep hdone,
      h.safe.next hnext, rfl⟩
  · exact absurd hpanicked (h.safe.step_ne_panicked action)

theorem Hosted.act (h : Hosted n) {action : Match.Action} (hact : n.act action = some n') :
    Hosted n' := by
  obtain ⟨server, hstep, hroom, hsafe, rfl⟩ := h.act_cases hact
  refine ⟨hsafe, fun side => ?_, ?_, ?_⟩
  · rw [hroom.id_eq, h.seats]
    exact (hstep.session side).playerID.symm
  · have ha := hroom.id_eq .a
    have hb := hroom.id_eq .b
    rw [Pair.get_a, Pair.get_a] at ha
    rw [Pair.get_b, Pair.get_b] at hb
    rw [ha, hb]
    exact h.distinct
  · exact h.client.trans (hstep.session n.player).playerID.symm

theorem fixedTick_localPlayerId (c : MatchController) (frame : InputFrame) :
    (c.fixedTick frame).1.model.localPlayerId = c.model.localPlayerId := by
  unfold MatchController.fixedTick
  split_ifs
  · exact (c.advanceTick_fields frame).2
  · rfl

theorem pollNetwork_localPlayerId (c : MatchController) (start : Option MatchStart)
    (snapshot : Option WorldSnapshot) (matchEnd : Option MatchEnd) (connected : Bool) :
    (c.pollNetwork start snapshot matchEnd connected).2.model.localPlayerId =
      c.model.localPlayerId :=
  (Client.MatchModel.poll_induction (P := fun _ => True) (fun _ _ _ _ _ _ _ => trivial) trivial).2

theorem Hosted.next (h : Hosted n) {action : Action} (hnext : n.next action = some n') :
    Hosted n' := by
  cases action with
  | fixedTick frame =>
      cases hnext
      exact ⟨h.safe, h.seats, h.distinct, (fixedTick_localPlayerId n.client frame).trans h.client⟩
  | pollNetwork start snapshot matchEnd connected =>
      cases hnext
      exact ⟨h.safe, h.seats, h.distinct,
        (pollNetwork_localPlayerId n.client _ _ _ connected).trans h.client⟩
  | deliver datagram =>
      obtain ⟨input, -, hact⟩ := Option.bind_eq_some_iff.1 hnext
      exact h.act hact
  | server action =>
      rw [NetworkMatch.next] at hnext
      split_ifs at hnext
      exact h.act hnext

theorem connect_hosted {matchID playerA playerB : String} {reporter : Bool} {server : Process}
    (h : MatchServer.startMatch matchID playerA playerB reporter = .ok server) (player : Side) :
    Hosted (connect server player) := by
  obtain ⟨duel, hduel, rfl⟩ := MatchServer.startMatch_ok h
  obtain ⟨-, -, hne, -, rfl⟩ := Simulation.newWithRuleset_ok hduel
  refine ⟨MatchServer.initialProcess_safe _ _ _ _ _, fun side => ?_, hne, rfl⟩
  cases side <;> rfl

end

end PvpDuel.Delivery
