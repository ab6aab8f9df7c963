import PvpDuel.Room.Timeline

/-!
# The simulation over the integers

The same step with the sums and products of `applyMovement`, `tryDash` and `attackHitboxIntersects`,
and the sums that give `nextDashTick` and `nextAttackTick`, taken over the integers: it has no result
when one of them does not fit the type it is stored in. A range that `&&` would skip is computed as
well.
-/

namespace PvpDuel.Simulation

open FixedWidth (int32 uint32)

/-- A coordinate moved along an axis and cut off at the borders. -/
def exactPosition (position : Int32) (axis : Int8) (distance minimum maximum : Int32) :
    Option Int32 := do
  let offset ← int32 (axis.toInt * distance.toInt)
  let moved ← int32 (position.toInt + offset.toInt)
  return clampPosition moved minimum maximum

def exactAttackHitboxIntersects (attacker target : PlayerState) (facing : ActionFacing)
    (rules : Ruleset) : Option Bool := do
  let targetMinX ← int32 (target.positionX.toInt - rules.playerHalfExtent.toInt)
  let targetMaxX ← int32 (target.positionX.toInt + rules.playerHalfExtent.toInt)
  let targetMinY ← int32 (target.positionY.toInt - rules.playerHalfExtent.toInt)
  let targetMaxY ← int32 (target.positionY.toInt + rules.playerHalfExtent.toInt)
  if facing.x > 0 then
    let maxX ← int32 (attacker.positionX.toInt + rules.attackDepth.toInt)
    let minY ← int32 (attacker.positionY.toInt - rules.attackHalfWidth.toInt)
    let maxY ← int32 (attacker.positionY.toInt + rules.attackHalfWidth.toInt)
    return rangesOverlap attacker.positionX maxX targetMinX targetMaxX &&
      rangesOverlap minY maxY targetMinY targetMaxY
  else if facing.x < 0 then
    let minX ← int32 (attacker.positionX.toInt - rules.attackDepth.toInt)
    let minY ← int32 (attacker.positionY.toInt - rules.attackHalfWidth.toInt)
    let maxY ← int32 (attacker.positionY.toInt + rules.attackHalfWidth.toInt)
    return rangesOverlap minX attacker.positionX targetMinX targetMaxX &&
      rangesOverlap minY maxY targetMinY targetMaxY
  else if facing.y > 0 then
    let minX ← int32 (attacker.positionX.toInt - rules.attackHalfWidth.toInt)
    let maxX ← int32 (attacker.positionX.toInt + rules.attackHalfWidth.toInt)
    let maxY ← int32 (attacker.positionY.toInt + rules.attackDepth.toInt)
    return rangesOverlap minX maxX targetMinX targetMaxX &&
      rangesOverlap attacker.positionY maxY targetMinY targetMaxY
  else
    let minX ← int32 (attacker.positionX.toInt - rules.attackHalfWidth.toInt)
    let maxX ← int32 (attacker.positionX.toInt + rules.attackHalfWidth.toInt)
    let minY ← int32 (attacker.positionY.toInt - rules.attackDepth.toInt)
    return rangesOverlap minX maxX targetMinX targetMaxX &&
      rangesOverlap minY attacker.positionY targetMinY targetMaxY

namespace PlayerState

def exactMove (rules : Ruleset) (input : Input) (player : PlayerState) : Option PlayerState := do
  let positionX ← exactPosition player.positionX input.moveX rules.movementPerTick
    rules.arena.minX rules.arena.maxX
  let positionY ← exactPosition player.positionY input.moveY rules.movementPerTick
    rules.arena.minY rules.arena.maxY
  return { player with positionX, positionY }

def exactApplyMovement (rules : Ruleset) (input : Input) (player : PlayerState) :
    Option PlayerState :=
  let player := { player with lastAckedInputTick := input.tick }
  if player.hp ≤ 0 ∨ player.actionState = .dash ∨ player.actionState = .hit ∨
      player.actionState = .ko then
    some player
  else if player.inLocomotion then
    ((player.updateFacing input).exactMove rules input).map (setLocomotionState input)
  else
    player.exactMove rules input

end PlayerState

namespace Seat

def exactApplyMovement (rules : Ruleset) (s : Seat) : Option Seat :=
  (s.player.exactApplyMovement rules s.input).map fun player => { s with player }

def exactActivate (tick : UInt32) (s : Seat) : Option Seat :=
  (uint32 (tick.toNat + 1)).map fun ready => { s with
    input := { tick := s.input.tick, moveX := 0, moveY := 0, actions := [] }
    nextAttackTick := ready
    nextDashTick := ready }

def exactStartDash (rules : Ruleset) (tick : UInt32) (s : Seat) : Option Seat := do
  let positionX ← exactPosition s.player.positionX s.player.facingX rules.dash.dashDistance
    rules.arena.minX rules.arena.maxX
  let positionY ← exactPosition s.player.positionY s.player.facingY rules.dash.dashDistance
    rules.arena.minY rules.arena.maxY
  let nextDashTick ← uint32 (tick.toNat + rules.dash.cooldownTicks.toNat)
  return { s with
    player := { s.player with
      positionX, positionY
      actionState := .dash
      actionStartedServerTick := tick
      actionTicksRemaining := 1 }
    nextDashTick }

def exactTryDash (rules : Ruleset) (tick : UInt32) (s : Seat) : Option Seat :=
  if ¬ s.player.canStartAction ∨ tick < s.nextDashTick then some s
  else s.exactStartDash rules tick

def exactStartLightAttack (rules : Ruleset) (tick : UInt32) (s : Seat) : Option Seat :=
  (uint32 (tick.toNat + rules.lightAttack.cooldownTicks.toNat)).map fun nextAttackTick =>
    { s.startLightAttack rules tick with nextAttackTick }

def exactTryLightAttack (rules : Ruleset) (tick : UInt32) (s : Seat) : Option Seat :=
  if ¬ s.player.canStartAction ∨ tick < s.nextAttackTick then some s
  else s.exactStartLightAttack rules tick

def exactProcessAction (rules : Ruleset) (tick : UInt32) (s : Seat) (command : ActionCommand) :
    Option Seat :=
  match command.type with
  | .dash => (s.acknowledge command).exactTryDash rules tick
  | .lightAttack => (s.acknowledge command).exactTryLightAttack rules tick
  | .unspecified => some (s.acknowledge command)

def exactProcessActions (rules : Ruleset) (tick : UInt32) (s : Seat) : Option Seat :=
  (s.pendingActions.foldlM (exactProcessAction rules tick) s).map fun s =>
    { s with pendingActions := [] }

def exactToHits (rules : Ruleset) (tick : UInt32) (s : Seat) : Option Seat :=
  ((s.advanceActionState rules).exactApplyMovement rules).bind (exactProcessActions rules tick)

def exactHits (rules : Ruleset) (attacker target : Seat) : Option Bool :=
  if attacker.player.actionState = .lightAttackActive then
    exactAttackHitboxIntersects attacker.player target.player attacker.attackFacing rules
  else
    some false

end Seat

namespace Room

/-- The active branch of `Step`; the two indices take turns in each phase. -/
def exactStepActive (r : Room) : Option Room := do
  let a ← r.seats.a.exactToHits r.rules r.tick
  let b ← r.seats.b.exactToHits r.rules r.tick
  let hitsB ← a.exactHits r.rules b
  let hitsA ← b.exactHits r.rules a
  let damageA := if hitsA then r.rules.lightAttack.damage else 0
  let damageB := if hitsB then r.rules.lightAttack.damage else 0
  return ({ r with
    activeTicks := r.activeTicks + 1
    seats := ⟨a.applyDamage r.tick damageA, b.applyDamage r.tick damageB⟩ } : Room).finish

def exactStepCountdown (r : Room) : Option Room :=
  let r := r.acknowledgeRejectedActions
  if r.tick ≥ r.rules.countdownTicks then do
    let a ← r.seats.a.exactActivate r.tick
    let b ← r.seats.b.exactActivate r.tick
    return { r with status := .active, seats := ⟨a, b⟩ }
  else
    some r

def exactStep (r : Room) : Option Room :=
  if r.status = .finished then
    some r
  else
    let r := { r with tick := r.tick + 1 }
    if r.status = .countdown then r.exactStepCountdown else r.exactStepActive

def exactApply (r : Room) : Event → Option Room
  | .submitInput playerID input => some (r.submitInput playerID input).1
  | .step => r.exactStep

def exactRun (r : Room) (events : List Event) : Option Room := events.foldlM exactApply r

end Room

end PvpDuel.Simulation
