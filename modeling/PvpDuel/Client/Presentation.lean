import Mathlib.Data.List.Basic
import Mathlib.Logic.Function.Basic
import PvpDuel.Protocol.Messages

/-!
# What is drawn of a match

`MatchPresentation` is shown snapshots and keeps what is drawn of each player. It compares a snapshot
with the last one it was shown and tells by the difference that a player was hit or began an action.
-/

namespace PvpDuel.Client

open Gamev1 (PlayerActionState PlayerState WorldSnapshot)

inductive AnimationState
  | idle
  | run
  | dash
  | attackWindup
  | attackActive
  | attackRecovery
  | hit
  | ko
deriving DecidableEq, Repr

inductive PresentationEventType
  | attackStarted
  | dashStarted
  | playerHit
deriving DecidableEq, Repr

structure PresentationEvent where
  type : PresentationEventType
  playerId : String
  damage : Int32
deriving DecidableEq, Repr

structure PlayerPresentation where
  animation : AnimationState
  actionElapsedTicks : UInt32
  actionTicksRemaining : UInt32
  lastDamage : Int32
  attackFlashSeconds : Float32
  hitFlashSeconds : Float32
  damageTextSeconds : Float32

structure ObservedPlayer where
  hp : Int32
  actionState : PlayerActionState
  actionStartedServerTick : UInt32
deriving DecidableEq, Repr

structure MatchPresentation where
  views : String → Option PlayerPresentation
  observed : String → Option ObservedPlayer
  events : List PresentationEvent

def attackFlashDuration : Float32 := 0.18

def hitFlashDuration : Float32 := 0.35

def damageTextDuration : Float32 := 0.65

def isAttack (state : PlayerActionState) : Bool :=
  state = .lightAttackWindup || state = .lightAttackActive || state = .lightAttackRecovery

def animationFromAuthoritative : PlayerActionState → AnimationState
  | .move => .run
  | .dash => .dash
  | .lightAttackWindup => .attackWindup
  | .lightAttackActive => .attackActive
  | .lightAttackRecovery => .attackRecovery
  | .hit => .hit
  | .ko => .ko
  | .idle => .idle

def newPlayerPresentation : PlayerPresentation where
  animation := .idle
  actionElapsedTicks := 0
  actionTicksRemaining := 0
  lastDamage := 0
  attackFlashSeconds := 0
  hitFlashSeconds := 0
  damageTextSeconds := 0

/-! ### One player of a snapshot -/

def actionElapsed (serverTick : UInt32) (player : PlayerState) : UInt32 :=
  if player.actionStartedServerTick ≠ 0 ∧ player.actionStartedServerTick ≤ serverTick then
    serverTick - player.actionStartedServerTick
  else 0

namespace ObservedPlayer

def ofPlayer (player : PlayerState) : ObservedPlayer where
  hp := player.hp
  actionState := player.actionState
  actionStartedServerTick := player.actionStartedServerTick

def newTimeline (previous : ObservedPlayer) (player : PlayerState) : Bool :=
  player.actionStartedServerTick ≠ previous.actionStartedServerTick

/-- The events `ApplySnapshot` pushes for a player who was observed before. -/
def newEvents (previous : ObservedPlayer) (player : PlayerState) : List PresentationEvent :=
  (if player.hp < previous.hp then
    [{ type := .playerHit, playerId := player.playerID, damage := previous.hp - player.hp }]
  else []) ++
  if previous.newTimeline player && isAttack player.actionState then
    [{ type := .attackStarted, playerId := player.playerID, damage := 0 }]
  else if previous.newTimeline player && player.actionState = .dash then
    [{ type := .dashStarted, playerId := player.playerID, damage := 0 }]
  else []

end ObservedPlayer

namespace PlayerPresentation

def showAction (view : PlayerPresentation) (serverTick : UInt32) (player : PlayerState) :
    PlayerPresentation :=
  { view with
    animation := animationFromAuthoritative player.actionState
    actionTicksRemaining := player.actionTicksRemaining
    actionElapsedTicks := actionElapsed serverTick player }

def showHit (view : PlayerPresentation) (previous : ObservedPlayer) (player : PlayerState) :
    PlayerPresentation :=
  if player.hp < previous.hp then
    { view with
      lastDamage := previous.hp - player.hp
      hitFlashSeconds := hitFlashDuration
      damageTextSeconds := damageTextDuration }
  else view

def showStart (view : PlayerPresentation) (previous : ObservedPlayer) (player : PlayerState) :
    PlayerPresentation :=
  if previous.newTimeline player && isAttack player.actionState then
    { view with attackFlashSeconds := attackFlashDuration }
  else view

/-- `std::max` of zero and what is left. -/
def countDown (left elapsed : Float32) : Float32 :=
  if 0 < left - elapsed then left - elapsed else 0

/-- The loop body of `Advance`. -/
def advance (view : PlayerPresentation) (elapsed : Float32) : PlayerPresentation :=
  { view with
    attackFlashSeconds := countDown view.attackFlashSeconds elapsed
    hitFlashSeconds := countDown view.hitFlashSeconds elapsed
    damageTextSeconds := countDown view.damageTextSeconds elapsed }

end PlayerPresentation

/-! ### The presentation -/

namespace MatchPresentation

def reset (m : MatchPresentation) : MatchPresentation :=
  { m with
    views := fun _ => none
    observed := fun _ => none
    events := [] }

/-- The view of a player after the loop body of `ApplySnapshot`. -/
def viewAfter (m : MatchPresentation) (serverTick : UInt32) (player : PlayerState) :
    PlayerPresentation :=
  let view := ((m.views player.playerID).getD newPlayerPresentation).showAction serverTick player
  (m.observed player.playerID).elim view fun previous =>
    (view.showHit previous player).showStart previous player

/-- The loop body of `ApplySnapshot`. -/
def applyPlayer (serverTick : UInt32) (m : MatchPresentation) (player : PlayerState) :
    MatchPresentation where
  views := Function.update m.views player.playerID (some (m.viewAfter serverTick player))
  observed := Function.update m.observed player.playerID (some (.ofPlayer player))
  events := m.events ++
    (m.observed player.playerID).elim [] fun previous => previous.newEvents player

def applySnapshot (m : MatchPresentation) (snapshot : WorldSnapshot) : MatchPresentation :=
  snapshot.players.foldl (applyPlayer snapshot.serverTick) m

def advance (m : MatchPresentation) (elapsedSeconds : Float32) : MatchPresentation :=
  let elapsed := if 0 < elapsedSeconds then elapsedSeconds else 0
  { m with views := fun playerId => (m.views playerId).map fun view => view.advance elapsed }

def viewFor (m : MatchPresentation) (playerId : String) : Option PlayerPresentation :=
  m.views playerId

def drainEvents (m : MatchPresentation) : List PresentationEvent × MatchPresentation :=
  (m.events, { m with events := [] })

section

variable (serverTick : UInt32) (m : MatchPresentation) (player : PlayerState)

@[simp] theorem applyPlayer_views_self : (m.applyPlayer serverTick player).views player.playerID =
    some (m.viewAfter serverTick player) := Function.update_self ..

@[simp] theorem applyPlayer_observed_self :
    (m.applyPlayer serverTick player).observed player.playerID =
      some (ObservedPlayer.ofPlayer player) := Function.update_self ..

@[simp] theorem applyPlayer_events : (m.applyPlayer serverTick player).events = m.events ++
    (m.observed player.playerID).elim [] fun previous => previous.newEvents player := rfl

variable {player} {id : String}

theorem applyPlayer_views_of_ne (h : player.playerID ≠ id) :
    (m.applyPlayer serverTick player).views id = m.views id := Function.update_of_ne h.symm ..

theorem applyPlayer_observed_of_ne (h : player.playerID ≠ id) :
    (m.applyPlayer serverTick player).observed id = m.observed id :=
  Function.update_of_ne h.symm ..

end

end MatchPresentation

/-! ### A run -/

inductive PresentationCall
  | applySnapshot (snapshot : WorldSnapshot)
  | advance (elapsedSeconds : Float32)
  | drainEvents

def PresentationCall.fed : PresentationCall → List WorldSnapshot
  | .applySnapshot snapshot => [snapshot]
  | .advance _ => []
  | .drainEvents => []

def fedSnapshots (calls : List PresentationCall) : List WorldSnapshot :=
  calls.flatMap PresentationCall.fed

theorem fedSnapshots_concat (calls : List PresentationCall) (next : PresentationCall) :
    fedSnapshots (calls ++ [next]) = fedSnapshots calls ++ next.fed := by
  simp [fedSnapshots]

/-- A presentation with the events it has handed over. -/
structure Screen where
  presentation : MatchPresentation
  drained : List PresentationEvent

namespace Screen

def call (s : Screen) : PresentationCall → Screen
  | .applySnapshot snapshot => { s with presentation := s.presentation.applySnapshot snapshot }
  | .advance elapsedSeconds => { s with presentation := s.presentation.advance elapsedSeconds }
  | .drainEvents =>
      { presentation := s.presentation.drainEvents.2
        drained := s.drained ++ s.presentation.drainEvents.1 }

/-- The calls made after a `Reset`. -/
def play (m : MatchPresentation) (calls : List PresentationCall) : Screen :=
  calls.foldl call { presentation := m.reset, drained := [] }

def events (s : Screen) : List PresentationEvent := s.drained ++ s.presentation.events

theorem play_concat (m : MatchPresentation) (calls : List PresentationCall)
    (next : PresentationCall) : play m (calls ++ [next]) = (play m calls).call next := by
  simp [play]

end Screen

end PvpDuel.Client
