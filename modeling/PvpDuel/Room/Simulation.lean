import PvpDuel.Lib.KeyedQueue
import PvpDuel.Room.Rules

/-!
# The authoritative simulation

`SubmitInput`, `Step` and `Snapshot` of package `room`. A loop over the two indices whose body only
touches its own index is a `Pair.map` of that body; the one phase that reads across, the hits of
`applyActiveAttacks`, is written with both seats at hand.
-/

namespace PvpDuel.Simulation

def clampAxis (axis : Int8) : Int8 :=
  if axis < -1 then -1 else if axis > 1 then 1 else axis

def clampPosition (position minimum maximum : Int32) : Int32 :=
  min (max position minimum) maximum

def absolute (value : Int) : Int :=
  if value < 0 then -value else value

def rangesOverlap (firstMin firstMax secondMin secondMax : Int32) : Bool :=
  firstMin ≤ secondMax && secondMin ≤ firstMax

def attackHitboxIntersects (attacker target : PlayerState) (facing : ActionFacing)
    (rules : Ruleset) : Bool :=
  let targetMinX := target.positionX - rules.playerHalfExtent
  let targetMaxX := target.positionX + rules.playerHalfExtent
  let targetMinY := target.positionY - rules.playerHalfExtent
  let targetMaxY := target.positionY + rules.playerHalfExtent
  if facing.x > 0 then
    rangesOverlap attacker.positionX (attacker.positionX + rules.attackDepth)
        targetMinX targetMaxX &&
      rangesOverlap (attacker.positionY - rules.attackHalfWidth)
        (attacker.positionY + rules.attackHalfWidth) targetMinY targetMaxY
  else if facing.x < 0 then
    rangesOverlap (attacker.positionX - rules.attackDepth) attacker.positionX
        targetMinX targetMaxX &&
      rangesOverlap (attacker.positionY - rules.attackHalfWidth)
        (attacker.positionY + rules.attackHalfWidth) targetMinY targetMaxY
  else if facing.y > 0 then
    rangesOverlap (attacker.positionX - rules.attackHalfWidth)
        (attacker.positionX + rules.attackHalfWidth) targetMinX targetMaxX &&
      rangesOverlap attacker.positionY (attacker.positionY + rules.attackDepth)
        targetMinY targetMaxY
  else
    rangesOverlap (attacker.positionX - rules.attackHalfWidth)
        (attacker.positionX + rules.attackHalfWidth) targetMinX targetMaxX &&
      rangesOverlap (attacker.positionY - rules.attackDepth) attacker.positionY
        targetMinY targetMaxY

namespace PlayerState

def updateFacing (player : PlayerState) (input : Input) : PlayerState :=
  if input.moveX = 0 ∧ input.moveY = 0 then
    player
  else if absolute input.moveX.toInt ≥ absolute input.moveY.toInt then
    { player with facingX := input.moveX, facingY := 0 }
  else
    { player with facingX := 0, facingY := input.moveY }

/-- `IDLE` or `MOVE`. -/
def inLocomotion (player : PlayerState) : Bool :=
  player.actionState = .idle || player.actionState = .move

def canStartAction (player : PlayerState) : Bool :=
  player.hp > 0 && player.inLocomotion

def setLocomotionState (input : Input) (player : PlayerState) : PlayerState :=
  { player with
    actionState := if input.moveX ≠ 0 ∨ input.moveY ≠ 0 then .move else .idle
    actionStartedServerTick := 0
    actionTicksRemaining := 0 }

/-- The timer part of `advanceActionStates`. -/
def tickDown (player : PlayerState) : PlayerState :=
  if player.actionTicksRemaining > 0 then
    { player with actionTicksRemaining := player.actionTicksRemaining - 1 }
  else
    player

/-- The `switch` of `advanceActionStates`, reached when the timer has run out. -/
def enterNextPhase (rules : Ruleset) (input : Input) (player : PlayerState) : PlayerState :=
  match player.actionState with
  | .lightAttackWindup =>
      { player with
        actionState := .lightAttackActive
        actionTicksRemaining := rules.lightAttack.activeTicks }
  | .lightAttackActive =>
      if rules.lightAttack.recoveryTicks > 0 then
        { player with
          actionState := .lightAttackRecovery
          actionTicksRemaining := rules.lightAttack.recoveryTicks }
      else
        player.setLocomotionState input
  | .lightAttackRecovery | .dash | .hit => player.setLocomotionState input
  | .idle | .move | .ko => player

/-- The loop body of `advanceActionStates`. -/
def advanceActionState (rules : Ruleset) (input : Input) (player : PlayerState) : PlayerState :=
  if player.actionState = .ko ∨ player.inLocomotion then
    player
  else if player.tickDown.actionTicksRemaining > 0 then
    player.tickDown
  else
    player.tickDown.enterNextPhase rules input

/-- The two clamped sums of `applyMovement`. -/
def move (rules : Ruleset) (input : Input) (player : PlayerState) : PlayerState :=
  { player with
    positionX := clampPosition
      (player.positionX + input.moveX.toInt32 * rules.movementPerTick)
      rules.arena.minX rules.arena.maxX
    positionY := clampPosition
      (player.positionY + input.moveY.toInt32 * rules.movementPerTick)
      rules.arena.minY rules.arena.maxY }

/-- The loop body of `applyMovement`. The attack phases permit movement but keep the facing of the
attack's start, so the facing and the locomotion state change in `IDLE` and `MOVE` only. -/
def applyMovement (rules : Ruleset) (input : Input) (player : PlayerState) : PlayerState :=
  let player := { player with lastAckedInputTick := input.tick }
  if player.hp ≤ 0 ∨ player.actionState = .dash ∨ player.actionState = .hit ∨
      player.actionState = .ko then
    player
  else if player.inLocomotion then
    ((player.updateFacing input).move rules input).setLocomotionState input
  else
    player.move rules input

/-- The second loop body of `applyActiveAttacks`. -/
def applyDamage (tick : UInt32) (damage : Int32) (player : PlayerState) : PlayerState :=
  if damage = 0 then
    player
  else
    let hp := max (player.hp - damage) 0
    { player with
      hp
      actionStartedServerTick := tick
      actionState := if hp = 0 then .ko else .hit
      actionTicksRemaining := if hp = 0 then 0 else 1 }

end PlayerState

namespace Seat

/-- The pending commands after `queueAction`, given the player's last acknowledged sequence. The
sequences of a queue are distinct, so `sort.Slice` orders it in one way only. -/
def queueAction (ack : UInt32) (pendingActions : List ActionCommand) (command : ActionCommand) :
    List ActionCommand :=
  if command.sequence ≤ ack ∨ command.sequence - ack > maxActionSequenceAhead then
    pendingActions
  else
    KeyedQueue.insert ActionCommand.sequence maxPendingActions pendingActions command

/-- The first half of `SubmitInput` past the tick check: the newest input replaces the held one. -/
def holdInput (s : Seat) (input : Input) : Seat :=
  if input.tick > s.lastInputTick then
    { s with
      input := {
        tick := input.tick, moveX := clampAxis input.moveX, moveY := clampAxis input.moveY
        actions := [] }
      lastInputTick := input.tick }
  else
    s

/-- `SubmitInput` past the lookup of the player index. -/
def submitInput (s : Seat) (input : Input) : Seat :=
  if input.tick = 0 ∨ input.tick > s.lastInputTick + maxInputTickAdvance then
    s
  else
    { s.holdInput input with
      pendingActions := (input.actions.take maxPendingActions).foldl
        (queueAction s.player.lastAckedActionSequence) s.pendingActions }

/-- The acknowledgement both loops over pending commands begin with. -/
def acknowledge (s : Seat) (command : ActionCommand) : Seat :=
  { s with player := { s.player with lastAckedActionSequence := command.sequence } }

/-- The loop body of `acknowledgeRejectedActions`. -/
def acknowledgeRejectedActions (s : Seat) : Seat :=
  { s.pendingActions.foldl acknowledge s with pendingActions := [] }

def activate (tick : UInt32) (s : Seat) : Seat :=
  { s with
    input := { tick := s.input.tick, moveX := 0, moveY := 0, actions := [] }
    nextAttackTick := tick + 1
    nextDashTick := tick + 1 }

def advanceActionState (rules : Ruleset) (s : Seat) : Seat :=
  { s with player := s.player.advanceActionState rules s.input }

def applyMovement (rules : Ruleset) (s : Seat) : Seat :=
  { s with player := s.player.applyMovement rules s.input }

/-- `tryDash` past its guard. -/
def startDash (rules : Ruleset) (tick : UInt32) (s : Seat) : Seat :=
  { s with
    player := { s.player with
      positionX := clampPosition
        (s.player.positionX + s.player.facingX.toInt32 * rules.dash.dashDistance)
        rules.arena.minX rules.arena.maxX
      positionY := clampPosition
        (s.player.positionY + s.player.facingY.toInt32 * rules.dash.dashDistance)
        rules.arena.minY rules.arena.maxY
      actionState := .dash
      actionStartedServerTick := tick
      actionTicksRemaining := 1 }
    nextDashTick := tick + rules.dash.cooldownTicks }

def tryDash (rules : Ruleset) (tick : UInt32) (s : Seat) : Seat :=
  if ¬ s.player.canStartAction ∨ tick < s.nextDashTick then s else s.startDash rules tick

/-- `tryLightAttack` past its guard; a ruleset without windup starts in the active phase. -/
def startLightAttack (rules : Ruleset) (tick : UInt32) (s : Seat) : Seat :=
  { s with
    attackFacing := { x := s.player.facingX, y := s.player.facingY }
    player := { s.player with
      actionStartedServerTick := tick
      actionState :=
        if rules.lightAttack.windupTicks = 0 then .lightAttackActive else .lightAttackWindup
      actionTicksRemaining :=
        if rules.lightAttack.windupTicks = 0 then rules.lightAttack.activeTicks
        else rules.lightAttack.windupTicks }
    nextAttackTick := tick + rules.lightAttack.cooldownTicks }

def tryLightAttack (rules : Ruleset) (tick : UInt32) (s : Seat) : Seat :=
  if ¬ s.player.canStartAction ∨ tick < s.nextAttackTick then s else s.startLightAttack rules tick

/-- The body of the inner loop of `processActions`. -/
def processAction (rules : Ruleset) (tick : UInt32) (s : Seat) (command : ActionCommand) : Seat :=
  match command.type with
  | .dash => (s.acknowledge command).tryDash rules tick
  | .lightAttack => (s.acknowledge command).tryLightAttack rules tick
  | .unspecified => s.acknowledge command

/-- The loop body of `processActions`. -/
def processActions (rules : Ruleset) (tick : UInt32) (s : Seat) : Seat :=
  { s.pendingActions.foldl (processAction rules tick) s with pendingActions := [] }

/-- Whether this attacker hits this target in `applyActiveAttacks`. -/
def hits (rules : Ruleset) (attacker target : Seat) : Bool :=
  attacker.player.actionState = .lightAttackActive &&
    attackHitboxIntersects attacker.player target.player attacker.attackFacing rules

def applyDamage (tick : UInt32) (damage : Int32) (s : Seat) : Seat :=
  { s with player := s.player.applyDamage tick damage }

end Seat

namespace Room

def playerIndex (r : Room) (playerID : String) : Except RoomError Side :=
  if r.seats.a.player.id = playerID then .ok .a
  else if r.seats.b.player.id = playerID then .ok .b
  else .error (.unknownPlayer playerID)

def submitInput (r : Room) (playerID : String) (input : Input) : Room × Except RoomError Unit :=
  match r.playerIndex playerID with
  | .error err => (r, .error err)
  | .ok index =>
      ({ r with seats := r.seats.set index ((r.seats.get index).submitInput input) }, .ok ())

def snapshot (r : Room) : Snapshot where
  arenaID := r.rules.arena.id
  serverTick := r.tick
  players := r.seats.map Seat.player
  status := r.status
  winnerID := r.winnerID
  finishReason := r.finishReason
  countdownTicksRemaining :=
    if r.status = .countdown ∧ r.tick < r.rules.countdownTicks then
      r.rules.countdownTicks - r.tick
    else 0
  matchTicksRemaining :=
    if r.status = .active ∧ r.activeTicks < r.rules.matchDurationTicks then
      r.rules.matchDurationTicks - r.activeTicks
    else 0

def acknowledgeRejectedActions (r : Room) : Room :=
  { r with seats := r.seats.map Seat.acknowledgeRejectedActions }

def advanceActionStates (r : Room) : Room :=
  { r with seats := r.seats.map (Seat.advanceActionState r.rules) }

def applyMovement (r : Room) : Room :=
  { r with seats := r.seats.map (Seat.applyMovement r.rules) }

def processActions (r : Room) : Room :=
  { r with seats := r.seats.map (Seat.processActions r.rules r.tick) }

/-- The damage the first loop of `applyActiveAttacks` collects for the player at an index. -/
def damage (r : Room) (target : Side) : Int32 :=
  if Seat.hits r.rules (r.seats.get target.other) (r.seats.get target) then
    r.rules.lightAttack.damage
  else 0

def applyActiveAttacks (r : Room) : Room :=
  { r with seats := Pair.ofFn fun index =>
      (r.seats.get index).applyDamage r.tick (r.damage index) }

def finishFromKO (r : Room) : Room :=
  let playerAAlive := r.seats.a.player.hp > 0
  let playerBAlive := r.seats.b.player.hp > 0
  if playerAAlive ∧ playerBAlive then
    r
  else
    { r with
      status := .finished
      finishReason := .ko
      winnerID :=
        if playerAAlive then r.seats.a.player.id
        else if playerBAlive then r.seats.b.player.id
        else r.winnerID }

def finishFromTimeLimit (r : Room) : Room :=
  { r with
    status := .finished
    finishReason := .timeLimit
    winnerID :=
      if r.seats.a.player.hp > r.seats.b.player.hp then r.seats.a.player.id
      else if r.seats.b.player.hp > r.seats.a.player.hp then r.seats.b.player.id
      else r.winnerID }

/-- The countdown branch of `Step`. -/
def stepCountdown (r : Room) : Room :=
  let r := r.acknowledgeRejectedActions
  if r.tick ≥ r.rules.countdownTicks then
    { r with status := .active, seats := r.seats.map (Seat.activate r.tick) }
  else
    r

/-- The active branch of `Step` up to the point where hits are decided. -/
def stepToHits (r : Room) : Room :=
  let r := { r with activeTicks := r.activeTicks + 1 }
  r.advanceActionStates.applyMovement.processActions

/-- The end of the active branch of `Step`: a knockout, or else the time limit, ends the match. -/
def finish (r : Room) : Room :=
  let r := r.finishFromKO
  if r.status ≠ .finished ∧ r.activeTicks ≥ r.rules.matchDurationTicks then
    r.finishFromTimeLimit
  else
    r

/-- The active branch of `Step`. -/
def stepActive (r : Room) : Room :=
  r.stepToHits.applyActiveAttacks.finish

/-- `Step`; the snapshot it returns is that of the resulting room. -/
def step (r : Room) : Room :=
  if r.status = .finished then
    r
  else
    let r := { r with tick := r.tick + 1 }
    if r.status = .countdown then r.stepCountdown else r.stepActive

end Room

end PvpDuel.Simulation
