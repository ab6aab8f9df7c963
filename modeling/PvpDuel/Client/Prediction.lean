import PvpDuel.Protocol.Messages

/-!
# Prediction of the local player

The predicted position with the inputs the server has not acknowledged yet. The drawn position, which
follows the predicted one in floating point, is left out.
-/

namespace PvpDuel.Client

open Gamev1 (PlayerState)

structure PredictedPosition where
  x : Int32
  y : Int32
deriving DecidableEq, Repr

structure PendingInput where
  tick : UInt32
  moveX : Int8
  moveY : Int8
deriving DecidableEq, Repr

structure Prediction where
  predicted : PredictedPosition
  pending : List PendingInput
deriving DecidableEq, Repr

def movementPerTick : Int32 := 10
def arenaMinX : Int32 := -500
def arenaMaxX : Int32 := 500
def arenaMinY : Int32 := -300
def arenaMaxY : Int32 := 300

/-- `std::clamp` at 32-bit integers. -/
def clamp (value minimum maximum : Int32) : Int32 :=
  if value < minimum then minimum else if maximum < value then maximum else value

def clampAxis (axis : Int32) : Int8 := (clamp axis (-1) 1).toInt8

def applyMovement (position : PredictedPosition) (moveX moveY : Int8) : PredictedPosition where
  x := clamp (position.x + moveX.toInt32 * movementPerTick) arenaMinX arenaMaxX
  y := clamp (position.y + moveY.toInt32 * movementPerTick) arenaMinY arenaMaxY

namespace Prediction

def initial : Prediction := ⟨⟨0, 0⟩, []⟩

def applyInput (p : Prediction) (tick : UInt32) (moveX moveY : Int32) : Prediction where
  predicted := applyMovement p.predicted (clampAxis moveX) (clampAxis moveY)
  pending := p.pending ++ [⟨tick, clampAxis moveX, clampAxis moveY⟩]

/-- The inputs `Reconcile` keeps. -/
def unacknowledged (p : Prediction) (authoritative : PlayerState) : List PendingInput :=
  p.pending.dropWhile fun input => input.tick ≤ authoritative.lastAckedInputTick

def reconcile (p : Prediction) (authoritative : PlayerState) : Prediction where
  predicted := (p.unacknowledged authoritative).foldl
    (fun position input => applyMovement position input.moveX input.moveY)
    ⟨authoritative.positionX, authoritative.positionY⟩
  pending := p.unacknowledged authoritative

end Prediction

end PvpDuel.Client
