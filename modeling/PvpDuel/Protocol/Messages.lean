import PvpDuel.Room.Rules

/-!
# The game messages

The messages of `game.v1` and the conversions between them and the room's own records. The client's
structs have the fields of the messages and `FromProtobuf` copies every one of them, so one type
stands for both.
-/

namespace PvpDuel.Gamev1

/-- Any number can arrive as an action type; the others are only sent by the server. -/
inductive ActionType
  | unspecified
  | dash
  | lightAttack
  | unrecognized (value : Int32)
deriving DecidableEq, Repr

structure ActionCommand where
  sequence : UInt32
  type : ActionType
deriving DecidableEq, Repr

structure PlayerInput where
  tick : UInt32
  moveX : Int32
  moveY : Int32
  pendingActions : List ActionCommand
deriving DecidableEq, Repr

inductive PlayerActionState
  | idle
  | move
  | dash
  | lightAttackWindup
  | lightAttackActive
  | lightAttackRecovery
  | hit
  | ko
deriving DecidableEq, Repr

structure PlayerState where
  playerID : String
  positionX : Int32
  positionY : Int32
  hp : Int32
  lastAckedInputTick : UInt32
  facingX : Int32
  facingY : Int32
  lastAckedActionSequence : UInt32
  actionState : PlayerActionState
  actionStartedServerTick : UInt32
  actionTicksRemaining : UInt32
deriving DecidableEq, Repr

inductive MatchStatus
  | active
  | finished
  | waiting
  | countdown
deriving DecidableEq, Repr

inductive MatchFinishReason
  | unspecified
  | ko
  | timeLimit
  | disconnect
deriving DecidableEq, Repr

structure WorldSnapshot where
  serverTick : UInt32
  players : List PlayerState
  status : MatchStatus
  winnerPlayerID : String
  countdownTicksRemaining : UInt32
  matchTicksRemaining : UInt32
  arenaID : String
deriving DecidableEq, Repr

structure MatchStart where
  initialSnapshot : WorldSnapshot
  tickRate : UInt32
  countdownTicks : UInt32
  matchDurationTicks : UInt32
  arenaID : String
deriving DecidableEq, Repr

structure MatchEnd where
  finalSnapshot : WorldSnapshot
  winnerPlayerID : String
  reason : MatchFinishReason
deriving DecidableEq, Repr

end PvpDuel.Gamev1

namespace PvpDuel.MatchServer

open Simulation (Snapshot)

/-! ### To the room -/

def actionTypeFromProto : Gamev1.ActionType → Simulation.ActionType
  | .dash => .dash
  | .lightAttack => .lightAttack
  | .unspecified | .unrecognized _ => .unspecified

def clampProtoAxis (axis : Int32) : Int8 :=
  if axis < -1 then -1 else if axis > 1 then 1 else axis.toInt8

/-- The conversion of one pending command in `SubmitInput`. -/
def actionFromProto (command : Gamev1.ActionCommand) : Simulation.ActionCommand where
  sequence := command.sequence
  type := actionTypeFromProto command.type

/-- The input `SubmitInput` queues for the room. -/
def inputFromProto (input : Gamev1.PlayerInput) : Simulation.Input where
  tick := input.tick
  moveX := clampProtoAxis input.moveX
  moveY := clampProtoAxis input.moveY
  actions := (input.pendingActions.take Simulation.maxPendingActions).map actionFromProto

/-! ### From the room -/

def actionStateToProto : Simulation.ActionState → Gamev1.PlayerActionState
  | .move => .move
  | .dash => .dash
  | .lightAttackWindup => .lightAttackWindup
  | .lightAttackActive => .lightAttackActive
  | .lightAttackRecovery => .lightAttackRecovery
  | .hit => .hit
  | .ko => .ko
  | .idle => .idle

def finishReasonToProto : Simulation.FinishReason → Gamev1.MatchFinishReason
  | .ko => .ko
  | .timeLimit => .timeLimit
  | .none => .unspecified

/-- The `switch` over the status in `snapshotToProto`. -/
def statusToProto : Simulation.MatchStatus → Gamev1.MatchStatus
  | .finished => .finished
  | .waiting => .waiting
  | .countdown => .countdown
  | .active => .active

/-- The loop body of `snapshotToProto`. -/
def playerToProto (player : Simulation.PlayerState) : Gamev1.PlayerState where
  playerID := player.id
  positionX := player.positionX
  positionY := player.positionY
  hp := player.hp
  lastAckedInputTick := player.lastAckedInputTick
  facingX := player.facingX.toInt32
  facingY := player.facingY.toInt32
  lastAckedActionSequence := player.lastAckedActionSequence
  actionState := actionStateToProto player.actionState
  actionStartedServerTick := player.actionStartedServerTick
  actionTicksRemaining := player.actionTicksRemaining

def snapshotToProto (snapshot : Snapshot) : Gamev1.WorldSnapshot where
  serverTick := snapshot.serverTick
  players := [playerToProto snapshot.players.a, playerToProto snapshot.players.b]
  status := statusToProto snapshot.status
  winnerPlayerID := snapshot.winnerID
  countdownTicksRemaining := snapshot.countdownTicksRemaining
  matchTicksRemaining := snapshot.matchTicksRemaining
  arenaID := snapshot.arenaID

end PvpDuel.MatchServer
