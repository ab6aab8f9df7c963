import PvpDuel.Lib.Channel
import PvpDuel.Lib.Transition
import PvpDuel.MatchServer.Authenticate
import PvpDuel.Protocol.Messages
import PvpDuel.Room.Run

/-!
# A running match

What `newMatch` starts: the goroutine that runs the room loop and closes `roomSnapshots`, the
broadcast goroutine, and the sessions' `SubmitInput`, `AcknowledgeMatchStart` and `Close`, with the
consumers of the sessions' channels. Every operation on something shared is one step of its goroutine.

No code closes the channel of inputs or the ticker's, so the branches of `Loop.Run` for a closed one
are left out. A `SubmitInput` that takes the branch of a canceled context changes nothing and is no
step either.
-/

namespace PvpDuel.MatchServer

open Simulation (Input Room RoomError Snapshot)
open Gamev1 (MatchEnd MatchStart PlayerInput WorldSnapshot)

/-! ### The data -/

structure QueuedInput where
  playerID : String
  input : Input
deriving DecidableEq, Repr

structure TerminalResult where
  matchID : String
  playerAID : String
  playerBID : String
  winnerID : String
  reason : Gamev1.MatchFinishReason
  endedAt : Nat
deriving DecidableEq, Repr

structure PlayerSession where
  playerID : String
  matchStart : MatchStart
  snapshots : Channel WorldSnapshot
  matchEnds : Channel MatchEnd
  startAckOnce : Once
  closeOnce : Once
deriving DecidableEq

/-- The match, with the room and the channel its two goroutines share. The map `players` has two
keys, one for each side; `reports` are the calls of `reportTerminal` that have not reported yet. -/
structure Match where
  canceled : Bool
  room : Room
  inputs : Channel QueuedInput
  roomSnapshots : Channel Snapshot
  players : Pair PlayerSession
  startBarrier : Channel Unit
  startCount : Nat
  lastSnapshot : WorldSnapshot
  terminalOnce : Once
  cancelOnce : Once
  matchID : String
  playerAID : String
  playerBID : String
  reporter : Bool
  reports : List MatchEnd
deriving DecidableEq

/-- Where a call of `finalize` stands: at the `Once`, or sending to the players that are left. -/
inductive Finalizing
  | entering
  | sending (left : List Side)
deriving DecidableEq, Repr

/-- Where a call of `publishLatest` stands: at its first, second or third `select`. -/
inductive Publishing
  | send
  | drop
  | resend
deriving DecidableEq, Repr

inductive LoopPhase
  | waiting
  | selecting
  | draining
  | publishing (snapshot : Snapshot)
  | dropping (snapshot : Snapshot)
  | resending (snapshot : Snapshot)
  | closing
  | returned
deriving DecidableEq

/-- A channel that the deferred function of `broadcast` closes. -/
inductive Closing
  | snapshots (player : Side)
  | matchEnds (player : Side)
deriving DecidableEq, Repr

inductive BroadcastPhase
  | receiving
  | updating (snapshot : Snapshot)
  | finalizing (matchEnd : MatchEnd) (phase : Finalizing)
  | publishing (snapshot : WorldSnapshot) (stage : Publishing) (left : List Side)
  | closing (left : List Closing)
  | returned
deriving DecidableEq

/-- A call of `Close`. -/
inductive ClosePhase
  | closing
  | disconnecting
  | finalizing (matchEnd : MatchEnd) (phase : Finalizing)
  | aborting
  | leaving
  | returned
deriving DecidableEq

structure CloseCall where
  player : Side
  phase : ClosePhase
deriving DecidableEq

structure Received where
  snapshots : List WorldSnapshot
  matchEnds : List MatchEnd
deriving DecidableEq

/-- The match with its goroutines, its consumers and the reports made of it. -/
structure Process extends Match where
  loop : LoopPhase
  broadcast : BroadcastPhase
  closes : List CloseCall
  received : Pair Received
  reported : List TerminalResult
  panicked : Bool
deriving DecidableEq

/-! ### The start -/

def newPlayerSession (playerID : String) (start : MatchStart) : PlayerSession where
  playerID := playerID
  matchStart := start
  snapshots := .make 1
  matchEnds := .make 1
  startAckOnce := .idle
  closeOnce := .idle

def matchStartOf (initialSnapshot : WorldSnapshot) : MatchStart where
  initialSnapshot := initialSnapshot
  tickRate := Simulation.tickRate
  countdownTicks := Simulation.countdownTicks
  matchDurationTicks := Simulation.matchDurationTicks
  arenaID := initialSnapshot.arenaID

/-- The match `newMatch` builds around its room. -/
def initialMatch (matchID playerA playerB : String) (reporter : Bool) (duel : Room) : Match where
  canceled := false
  room := duel
  inputs := .make (Simulation.tickRate.toNat * 4)
  roomSnapshots := .make 1
  players := {
    a := newPlayerSession playerA (matchStartOf (snapshotToProto duel.snapshot))
    b := newPlayerSession playerB (matchStartOf (snapshotToProto duel.snapshot)) }
  startBarrier := .make 0
  startCount := 0
  lastSnapshot := snapshotToProto duel.snapshot
  terminalOnce := .idle
  cancelOnce := .idle
  matchID := matchID
  playerAID := playerA
  playerBID := playerB
  reporter := reporter
  reports := []

def initialProcess (matchID playerA playerB : String) (reporter : Bool) (duel : Room) : Process where
  toMatch := initialMatch matchID playerA playerB reporter duel
  loop := .waiting
  broadcast := .receiving
  closes := []
  received := ⟨⟨[], []⟩, ⟨[], []⟩⟩
  reported := []
  panicked := false

/-- `newMatch`, with the goroutines it starts. -/
def startMatch (matchID playerA playerB : String) (reporter : Bool) : Except RoomError Process :=
  match (newMatch matchID playerA playerB).room with
  | .error err => .error err
  | .ok duel => .ok (initialProcess matchID playerA playerB reporter duel)

theorem startMatch_ok {matchID playerA playerB : String} {reporter : Bool} {s : Process}
    (h : startMatch matchID playerA playerB reporter = .ok s) :
    ∃ duel, (newMatch matchID playerA playerB).room = .ok duel ∧
      s = initialProcess matchID playerA playerB reporter duel := by
  unfold startMatch at h
  split at h
  · cases h
  · cases h
    exact ⟨_, ‹_›, rfl⟩

theorem startMatch_of_players (matchID : String) {playerA playerB : String} (ha : playerA ≠ "")
    (hb : playerB ≠ "") (hne : playerA ≠ playerB) (reporter : Bool) :
    startMatch matchID playerA playerB reporter =
      .ok (initialProcess matchID playerA playerB reporter (Simulation.initialRoom playerA playerB
        (Simulation.arenaRuleset (arenaIDForMatch matchID)))) := by
  rw [startMatch, newMatch_room matchID ha hb hne]

/-! ### The methods -/

namespace Match

def setPlayer (m : Match) (player : Side) (session : PlayerSession) : Match :=
  { m with players := m.players.set player session }

/-- `acknowledgeStart`, under its mutex. -/
def acknowledgeStart (m : Match) : Outcome Match :=
  if m.startCount + 1 = 2 then
    m.startBarrier.close.map fun startBarrier =>
      { m with startCount := m.startCount + 1, startBarrier }
  else
    .done { m with startCount := m.startCount + 1 }

/-- `AcknowledgeMatchStart`; what it guards does not wait, so its `Once` is never seen running. -/
def acknowledgeMatchStart (m : Match) (player : Side) : Outcome Match :=
  match (m.players.get player).startAckOnce with
  | .idle =>
      (m.setPlayer player { m.players.get player with startAckOnce := .done }).acknowledgeStart
  | .running => .blocked
  | .done => .done m

def updateLastSnapshot (m : Match) (snapshot : WorldSnapshot) : Match :=
  { m with lastSnapshot := snapshot }

/-- `opponentID`; it is called with the ID of one of the two players. -/
def opponentID (m : Match) (playerID : String) : String :=
  if m.players.a.playerID ≠ playerID then m.players.a.playerID
  else if m.players.b.playerID ≠ playerID then m.players.b.playerID
  else ""

/-- The outcome that `playerDisconnected` hands to `finalize`. -/
def disconnectEnd (m : Match) (playerID : String) : MatchEnd where
  finalSnapshot := { m.lastSnapshot with
    status := .finished
    winnerPlayerID := m.opponentID playerID
    countdownTicksRemaining := 0
    matchTicksRemaining := 0 }
  winnerPlayerID := m.opponentID playerID
  reason := .disconnect

def sendMatchEnd (m : Match) (player : Side) (matchEnd : MatchEnd) : Outcome Match :=
  ((m.players.get player).matchEnds.send matchEnd).map fun matchEnds =>
    m.setPlayer player { m.players.get player with matchEnds }

/-- One step of `finalize`, and where the call stands after it unless it returns. The map of players
is iterated over in the given order. -/
def finalize (m : Match) (matchEnd : MatchEnd) (first : Side) :
    Finalizing → Outcome (Option Finalizing × Match)
  | .entering =>
      match m.terminalOnce with
      | .idle =>
          .done (some (.sending [first, first.other]), { m with terminalOnce := .running })
      | .running => .blocked
      | .done => .done (none, m)
  | .sending (player :: left) =>
      (m.sendMatchEnd player matchEnd).map fun m => (some (.sending left), m)
  | .sending [] =>
      .done (none, { m with terminalOnce := .done, reports := m.reports ++ [matchEnd] })

def abort (m : Match) : Match :=
  match m.cancelOnce with
  | .idle => { m with cancelOnce := .done, canceled := true }
  | _ => m

/-- One step of `publishLatest` for a player's session. -/
def publishLatest (m : Match) (player : Side) (snapshot : WorldSnapshot) :
    Publishing → Outcome (Option Publishing × Match)
  | .send => ((m.players.get player).snapshots.trySend snapshot).map fun (sent, snapshots) =>
      (if sent then none else some .drop, m.setPlayer player { m.players.get player with snapshots })
  | .drop => .done (some .resend, m.setPlayer player { m.players.get player with
      snapshots := (m.players.get player).snapshots.tryDrop })
  | .resend => ((m.players.get player).snapshots.trySend snapshot).map fun (_, snapshots) =>
      (none, m.setPlayer player { m.players.get player with snapshots })

/-- `SubmitInput` of a session; a full channel drops the input. -/
def submitInput (m : Match) (player : Side) (input : PlayerInput) : Outcome Match :=
  (m.inputs.trySend ⟨(m.players.get player).playerID, inputFromProto input⟩).map
    fun (_, inputs) => { m with inputs }

/-- One closing of the deferred function of `broadcast`. -/
def closeChannel (m : Match) : Closing → Outcome Match
  | .snapshots player => (m.players.get player).snapshots.close.map fun snapshots =>
      m.setPlayer player { m.players.get player with snapshots }
  | .matchEnds player => (m.players.get player).matchEnds.close.map fun matchEnds =>
      m.setPlayer player { m.players.get player with matchEnds }

/-- The result that `reportTerminal` reports. -/
def terminalResult (m : Match) (matchEnd : MatchEnd) (endedAt : Nat) : TerminalResult where
  matchID := m.matchID
  playerAID := m.playerAID
  playerBID := m.playerBID
  winnerID := matchEnd.winnerPlayerID
  reason := matchEnd.reason
  endedAt := endedAt

end Match

/-! ### The goroutines -/

/-- Where the room loop goes once `publish` has returned true. -/
def afterPublish (snapshot : Snapshot) : LoopPhase :=
  if snapshot.status = .finished then .closing else .selecting

/-- Where the broadcast goroutine goes with the players that are left to publish to. -/
def publishTo (snapshot : WorldSnapshot) : List Side → BroadcastPhase
  | [] => .receiving
  | player :: left => .publishing snapshot .send (player :: left)

/-- Where the broadcast goroutine goes with the channels that are left to close. -/
def closeRest : List Closing → BroadcastPhase
  | [] => .returned
  | closing :: left => .closing (closing :: left)

/-- The closings of the deferred function of `broadcast`, in the order of the map. -/
def closings (first : Side) : List Closing :=
  [.snapshots first, .matchEnds first, .snapshots first.other, .matchEnds first.other]

/-- The outcome that `broadcast` hands to `finalize`. -/
def roomEnd (snapshot : Snapshot) : MatchEnd where
  finalSnapshot := snapshotToProto snapshot
  winnerPlayerID := snapshot.winnerID
  reason := finishReasonToProto snapshot.finishReason

namespace Process

/-- The room loop at a `select` takes the branch of the canceled context. -/
def loopDone (s : Process) : Outcome Process :=
  if s.canceled then
    match s.loop with
    | .waiting | .selecting => .done { s with loop := .closing }
    | .resending snapshot =>
        if snapshot.status = .finished then .done { s with loop := .closing } else .blocked
    | _ => .blocked
  else .blocked

/-- The goroutine of the loop finds the start barrier closed. -/
def loopStart (s : Process) : Outcome Process :=
  match s.loop with
  | .waiting => s.startBarrier.receive.map fun _ => { s with loop := .selecting }
  | _ => .blocked

/-- The room loop, in `Run` or in `drainInputs`, receives an input and submits it. -/
def loopInput (s : Process) : Outcome Process :=
  match s.loop, s.inputs.receive with
  | .selecting, .done (some queued, inputs) | .draining, .done (some queued, inputs) =>
      .done { s with inputs, room := (s.room.submitInput queued.playerID queued.input).1 }
  | _, _ => .blocked

def loopTick (s : Process) : Outcome Process :=
  match s.loop with
  | .selecting => .done { s with loop := .draining }
  | _ => .blocked

/-- The next statement of the room loop where it has no choice: `Step` once the inputs are drained,
the operations of `publish`, and closing its channel. -/
def loopNext (s : Process) : Outcome Process :=
  match s.loop with
  | .draining =>
      if s.inputs.buffer = [] then
        .done { s with room := s.room.step, loop := .publishing s.room.step.snapshot }
      else .blocked
  | .publishing snapshot =>
      (s.roomSnapshots.trySend snapshot).map fun (sent, roomSnapshots) =>
        { s with
          roomSnapshots
          loop := if sent then afterPublish snapshot else .dropping snapshot }
  | .dropping snapshot =>
      .done { s with roomSnapshots := s.roomSnapshots.tryDrop, loop := .resending snapshot }
  | .resending snapshot =>
      if snapshot.status = .finished then
        (s.roomSnapshots.send snapshot).map fun roomSnapshots =>
          { s with roomSnapshots, loop := afterPublish snapshot }
      else
        (s.roomSnapshots.trySend snapshot).map fun (_, roomSnapshots) =>
          { s with roomSnapshots, loop := afterPublish snapshot }
  | .closing =>
      s.roomSnapshots.close.map fun roomSnapshots => { s with roomSnapshots, loop := .returned }
  | .waiting | .selecting | .returned => .blocked

/-- The next statement of the broadcast goroutine. Where it begins to iterate over the players, the
order is the given one. -/
def broadcastNext (s : Process) (first : Side) : Outcome Process :=
  match s.broadcast with
  | .receiving =>
      s.roomSnapshots.receive.map fun
        | (some snapshot, roomSnapshots) => { s with roomSnapshots, broadcast := .updating snapshot }
        | (none, _) => { s with broadcast := closeRest (closings first) }
  | .updating snapshot =>
      .done { s with
        toMatch := s.updateLastSnapshot (snapshotToProto snapshot)
        broadcast :=
          if snapshot.status = .finished then .finalizing (roomEnd snapshot) .entering
          else publishTo (snapshotToProto snapshot) [first, first.other] }
  | .finalizing matchEnd phase =>
      (s.finalize matchEnd first phase).map fun
        | (some phase, m) => { s with toMatch := m, broadcast := .finalizing matchEnd phase }
        | (none, m) => { s with toMatch := m, broadcast := .receiving }
  | .publishing snapshot stage (player :: left) =>
      (s.publishLatest player snapshot stage).map fun
        | (some stage, m) =>
            { s with toMatch := m, broadcast := .publishing snapshot stage (player :: left) }
        | (none, m) => { s with toMatch := m, broadcast := publishTo snapshot left }
  | .closing (closing :: left) =>
      (s.closeChannel closing).map fun m => { s with toMatch := m, broadcast := closeRest left }
  | .publishing _ _ [] | .closing [] | .returned => .blocked

def setClose (s : Process) (call : Nat) (player : Side) (phase : ClosePhase) : Process :=
  { s with closes := s.closes.set call ⟨player, phase⟩ }

/-- The next statement of a call of `Close`. -/
def closeNext (s : Process) (call : Nat) (first : Side) : Outcome Process :=
  match s.closes[call]? with
  | none => .blocked
  | some ⟨player, phase⟩ =>
      match phase with
      | .closing =>
          match (s.players.get player).closeOnce with
          | .idle => .done { s.setClose call player .disconnecting with
              toMatch := s.setPlayer player { s.players.get player with closeOnce := .running } }
          | .running => .blocked
          | .done => .done (s.setClose call player .returned)
      | .disconnecting => .done (s.setClose call player
          (.finalizing (s.disconnectEnd (s.players.get player).playerID) .entering))
      | .finalizing matchEnd phase =>
          (s.finalize matchEnd first phase).map fun
            | (some phase, m) =>
                { s.setClose call player (.finalizing matchEnd phase) with toMatch := m }
            | (none, m) => { s.setClose call player .aborting with toMatch := m }
      | .aborting => .done { s.setClose call player .leaving with toMatch := s.abort }
      | .leaving => .done { s.setClose call player .returned with
          toMatch := s.setPlayer player { s.players.get player with closeOnce := .done } }
      | .returned => .blocked

/-- The consumer of a session receives a snapshot. -/
def receiveSnapshot (s : Process) (player : Side) : Outcome Process :=
  match (s.players.get player).snapshots.receive with
  | .done (some snapshot, snapshots) =>
      .done { s with
        toMatch := s.setPlayer player { s.players.get player with snapshots }
        received := s.received.set player { s.received.get player with
          snapshots := (s.received.get player).snapshots ++ [snapshot] } }
  | _ => .blocked

/-- The consumer of a session receives the end of the match. -/
def receiveMatchEnd (s : Process) (player : Side) : Outcome Process :=
  match (s.players.get player).matchEnds.receive with
  | .done (some matchEnd, matchEnds) =>
      .done { s with
        toMatch := s.setPlayer player { s.players.get player with matchEnds }
        received := s.received.set player { s.received.get player with
          matchEnds := (s.received.get player).matchEnds ++ [matchEnd] } }
  | _ => .blocked

/-- A call of `reportTerminal` reports, if the match has a reporter. -/
def report (s : Process) (endedAt : Nat) : Outcome Process :=
  match s.reports with
  | [] => .blocked
  | matchEnd :: reports => .done { s with
      reports
      reported :=
        if s.reporter then s.reported ++ [s.terminalResult matchEnd endedAt] else s.reported }

end Process

/-! ### Interleavings -/

namespace Match

/-- What can happen next. A number is that of a call of `Close`, in the order the calls begin. -/
inductive Action
  | acknowledgeMatchStart (player : Side)
  | submitInput (player : Side) (input : PlayerInput)
  | loopDone
  | loopStart
  | loopInput
  | loopTick
  | loopNext
  | broadcastNext (first : Side)
  | close (player : Side)
  | closeNext (call : Nat) (first : Side)
  | receiveSnapshot (player : Side)
  | receiveMatchEnd (player : Side)
  | report (endedAt : Nat)
deriving DecidableEq, Repr

end Match

namespace Process

def step (s : Process) : Match.Action → Outcome Process
  | .acknowledgeMatchStart player =>
      (s.acknowledgeMatchStart player).map fun m => { s with toMatch := m }
  | .submitInput player input => (s.submitInput player input).map fun m => { s with toMatch := m }
  | .loopDone => s.loopDone
  | .loopStart => s.loopStart
  | .loopInput => s.loopInput
  | .loopTick => s.loopTick
  | .loopNext => s.loopNext
  | .broadcastNext first => s.broadcastNext first
  | .close player => .done { s with closes := s.closes ++ [⟨player, .closing⟩] }
  | .closeNext call first => s.closeNext call first
  | .receiveSnapshot player => s.receiveSnapshot player
  | .receiveMatchEnd player => s.receiveMatchEnd player
  | .report endedAt => s.report endedAt

/-- The transitions of a match; a panic ends the process. -/
def next (s : Process) (action : Match.Action) : Option Process :=
  if s.panicked then none
  else
    match s.step action with
    | .done t => some t
    | .blocked => none
    | .panicked => some { s with panicked := true }

end Process

end PvpDuel.MatchServer
