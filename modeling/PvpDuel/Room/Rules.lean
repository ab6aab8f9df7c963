import Mathlib.Tactic.Common
import PvpDuel.Lib.Pair

/-!
# The room's data

The constants, the ruleset and the records of package `room`. `Room` keeps seven arrays of length
two; here the entries of one index sit together in a `Seat`, and the room holds a pair of seats.
-/

namespace PvpDuel.Simulation

def tickRate : UInt32 := 30
def countdownTicks : UInt32 := 3 * tickRate
def matchDurationTicks : UInt32 := 90 * tickRate
def initialHP : Int32 := 100
def movementPerTick : Int32 := 10
def attackDamage : Int32 := 20
def attackHitboxDepth : Int32 := 80
def attackHitboxHalfWidth : Int32 := 45
def playerHitboxHalfExtent : Int32 := 20
def lightAttackCooldown : UInt32 := 15
def lightAttackWindup : UInt32 := 3
def lightAttackActive : UInt32 := 1
def lightAttackRecovery : UInt32 := 6
def dashCooldown : UInt32 := 30
def dashDistance : Int32 := 120
def maxPendingActions : Nat := 8
def maxActionSequenceAhead : UInt32 := 64
def maxInputTickAdvance : UInt32 := 120

def arenaMinX : Int32 := -500
def arenaMaxX : Int32 := 500
def arenaMinY : Int32 := -300
def arenaMaxY : Int32 := 300

def playerASpawnX : Int32 := -250
def playerBSpawnX : Int32 := 250

def arenaIDNeonRooftop : String := "neon_rooftop"
def arenaIDEmberFoundry : String := "ember_foundry"

/-- The errors of package `room`. -/
inductive RoomError
  | invalidPlayers
  | invalidRuleset
  | unknownPlayer (playerID : String)
deriving DecidableEq, Repr

/-- The text of an error; an unknown player is wrapped with its ID. -/
def RoomError.text : RoomError → String
  | .invalidPlayers => "room needs two distinct player IDs"
  | .invalidRuleset => "invalid room ruleset"
  | .unknownPlayer playerID => "unknown player: " ++ playerID

structure ArenaDefinition where
  id : String
  minX : Int32
  maxX : Int32
  minY : Int32
  maxY : Int32
  spawnAX : Int32
  spawnAY : Int32
  spawnBX : Int32
  spawnBY : Int32
deriving DecidableEq, Repr

structure ActionDefinition where
  cooldownTicks : UInt32
  windupTicks : UInt32
  activeTicks : UInt32
  recoveryTicks : UInt32
  damage : Int32
  dashDistance : Int32
deriving DecidableEq, Repr

structure Ruleset where
  tickRate : UInt32
  countdownTicks : UInt32
  matchDurationTicks : UInt32
  initialHP : Int32
  movementPerTick : Int32
  attackDepth : Int32
  attackHalfWidth : Int32
  playerHalfExtent : Int32
  arena : ArenaDefinition
  dash : ActionDefinition
  lightAttack : ActionDefinition
deriving DecidableEq, Repr

def defaultRuleset : Ruleset where
  tickRate := Simulation.tickRate
  countdownTicks := Simulation.countdownTicks
  matchDurationTicks := Simulation.matchDurationTicks
  initialHP := Simulation.initialHP
  movementPerTick := Simulation.movementPerTick
  attackDepth := attackHitboxDepth
  attackHalfWidth := attackHitboxHalfWidth
  playerHalfExtent := playerHitboxHalfExtent
  arena := {
    id := arenaIDNeonRooftop
    minX := arenaMinX, maxX := arenaMaxX, minY := arenaMinY, maxY := arenaMaxY
    spawnAX := playerASpawnX, spawnAY := 0, spawnBX := playerBSpawnX, spawnBY := 0 }
  dash := {
    cooldownTicks := dashCooldown, windupTicks := 0, activeTicks := 0, recoveryTicks := 0
    damage := 0, dashDistance := Simulation.dashDistance }
  lightAttack := {
    cooldownTicks := lightAttackCooldown, windupTicks := lightAttackWindup
    activeTicks := lightAttackActive, recoveryTicks := lightAttackRecovery
    damage := attackDamage, dashDistance := 0 }

/-- The ruleset of a match: the default one with the arena chosen for it. -/
def arenaRuleset (arenaID : String) : Ruleset :=
  { defaultRuleset with arena := { defaultRuleset.arena with id := arenaID } }

inductive MatchStatus
  | active
  | finished
  | waiting
  | countdown
deriving DecidableEq, Repr

inductive FinishReason
  | none
  | ko
  | timeLimit
deriving DecidableEq, Repr

inductive ActionType
  | unspecified
  | dash
  | lightAttack
deriving DecidableEq, Repr

inductive ActionState
  | idle
  | move
  | dash
  | lightAttackWindup
  | lightAttackActive
  | lightAttackRecovery
  | hit
  | ko
deriving DecidableEq, Repr

structure ActionCommand where
  sequence : UInt32
  type : ActionType
deriving DecidableEq, Repr

structure Input where
  tick : UInt32
  moveX : Int8
  moveY : Int8
  actions : List ActionCommand
deriving DecidableEq, Repr

structure ActionFacing where
  x : Int8
  y : Int8
deriving DecidableEq, Repr

structure PlayerState where
  id : String
  positionX : Int32
  positionY : Int32
  hp : Int32
  lastAckedInputTick : UInt32
  facingX : Int8
  facingY : Int8
  lastAckedActionSequence : UInt32
  actionState : ActionState
  actionStartedServerTick : UInt32
  actionTicksRemaining : UInt32
deriving DecidableEq, Repr

structure Snapshot where
  arenaID : String
  serverTick : UInt32
  players : Pair PlayerState
  status : MatchStatus
  winnerID : String
  finishReason : FinishReason
  countdownTicksRemaining : UInt32
  matchTicksRemaining : UInt32
deriving DecidableEq, Repr

/-- What the room keeps at one index: `players`, `inputs`, `pendingActions`, `attackFacing`,
`nextDashTick`, `nextAttackTick` and `lastInputTick`. -/
structure Seat where
  player : PlayerState
  input : Input
  pendingActions : List ActionCommand
  attackFacing : ActionFacing
  nextDashTick : UInt32
  nextAttackTick : UInt32
  lastInputTick : UInt32
deriving DecidableEq, Repr

structure Room where
  rules : Ruleset
  seats : Pair Seat
  tick : UInt32
  activeTicks : UInt32
  status : MatchStatus
  winnerID : String
  finishReason : FinishReason
deriving DecidableEq, Repr

/-- The seat of a freshly created player; everything the constructor does not name is zero. -/
def newSeat (id : String) (positionX positionY hp : Int32) (facingX : Int8) : Seat where
  player := {
    id, positionX, positionY, hp, facingX
    lastAckedInputTick := 0, facingY := 0, lastAckedActionSequence := 0
    actionState := .idle, actionStartedServerTick := 0, actionTicksRemaining := 0 }
  input := { tick := 0, moveX := 0, moveY := 0, actions := [] }
  pendingActions := []
  attackFacing := { x := 0, y := 0 }
  nextDashTick := 0
  nextAttackTick := 0
  lastInputTick := 0

/-- The checks `NewWithRuleset` makes on a ruleset. -/
def Ruleset.Accepted (rules : Ruleset) : Prop :=
  ¬ (rules.tickRate = 0 ∨ rules.countdownTicks = 0 ∨ rules.matchDurationTicks = 0 ∨
    rules.initialHP ≤ 0 ∨ rules.movementPerTick < 0 ∨ rules.lightAttack.activeTicks = 0 ∨
    rules.lightAttack.damage < 0 ∨ rules.arena.id = "" ∨
    rules.arena.minX ≥ rules.arena.maxX ∨ rules.arena.minY ≥ rules.arena.maxY)

instance (rules : Ruleset) : Decidable rules.Accepted := by
  unfold Ruleset.Accepted
  infer_instance

/-- The room `NewWithRuleset` builds once its checks have passed. -/
def initialRoom (playerA playerB : String) (rules : Ruleset) : Room where
  rules := rules
  seats := {
    a := newSeat playerA rules.arena.spawnAX rules.arena.spawnAY rules.initialHP 1
    b := newSeat playerB rules.arena.spawnBX rules.arena.spawnBY rules.initialHP (-1) }
  tick := 0
  activeTicks := 0
  status := .countdown
  winnerID := ""
  finishReason := .none

def newWithRuleset (playerA playerB : String) (rules : Ruleset) : Except RoomError Room :=
  if playerA = "" ∨ playerB = "" ∨ playerA = playerB then
    .error .invalidPlayers
  else if ¬ rules.Accepted then
    .error .invalidRuleset
  else
    .ok (initialRoom playerA playerB rules)

def new (playerA playerB : String) : Except RoomError Room :=
  newWithRuleset playerA playerB defaultRuleset

theorem newWithRuleset_ok {playerA playerB : String} {rules : Ruleset} {r : Room}
    (h : newWithRuleset playerA playerB rules = .ok r) :
    playerA ≠ "" ∧ playerB ≠ "" ∧ playerA ≠ playerB ∧ rules.Accepted ∧
      r = initialRoom playerA playerB rules := by
  unfold newWithRuleset at h
  split_ifs at h with hplayers hrules
  push Not at hplayers
  cases h
  exact ⟨hplayers.1, hplayers.2.1, hplayers.2.2, hrules, rfl⟩

theorem newWithRuleset_of_accepted {playerA playerB : String} {rules : Ruleset}
    (ha : playerA ≠ "") (hb : playerB ≠ "") (hne : playerA ≠ playerB) (hrules : rules.Accepted) :
    newWithRuleset playerA playerB rules = .ok (initialRoom playerA playerB rules) := by
  rw [newWithRuleset, if_neg (by push Not; exact ⟨ha, hb, hne⟩), if_neg (not_not.2 hrules)]

theorem defaultRuleset_accepted : defaultRuleset.Accepted := by
  decide

end PvpDuel.Simulation
