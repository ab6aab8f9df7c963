import PvpDuel.Client.Input
import PvpDuel.Client.Prediction

/-!
# The client's match

`MatchController` with the model it drives: each fixed tick turns a frame of input into a message for
the server, and the messages polled from the transport move the model's world. What is only drawn,
the interpolated opponent and the presentation, is left out.
-/

namespace PvpDuel.Client

open Gamev1 (ActionType MatchEnd MatchStart PlayerInput PlayerState WorldSnapshot)

/-! ### To the wire -/

def protocolAction : Action → ActionType
  | .dash => .dash
  | .lightAttack => .lightAttack
  | .moveUp | .moveDown | .moveLeft | .moveRight => .unspecified

/-- The conversion of one pending command in `FixedTick`. -/
def commandToProtocol (command : ActionCommand) : Gamev1.ActionCommand where
  sequence := command.sequence
  type := protocolAction command.action

def actionTypeToProtobuf : ActionType → ActionType
  | .dash => .dash
  | .lightAttack => .lightAttack
  | .unspecified | .unrecognized _ => .unspecified

def maximumPendingActions : Nat := 8

def toProtobuf (input : PlayerInput) : PlayerInput where
  tick := input.tick
  moveX := input.moveX
  moveY := input.moveY
  pendingActions := (input.pendingActions.take maximumPendingActions).map fun command =>
    { sequence := command.sequence, type := actionTypeToProtobuf command.type }

/-! ### The model -/

structure MatchModel where
  localPlayerId : String
  world : WorldSnapshot
  matchEnd : Option MatchEnd
  arenaId : String
  tickRate : UInt32
  started : Bool
  inputTick : UInt32
  pendingActions : PendingActionQueue
  localPrediction : Prediction
deriving DecidableEq

structure NetworkUpdate where
  started : Bool
  ended : Bool
  disconnected : Bool
deriving DecidableEq, Repr

structure MatchController where
  model : MatchModel
  nextLightAttackTick : UInt32
deriving DecidableEq

def initialWorld : WorldSnapshot where
  serverTick := 0
  players := []
  status := .waiting
  winnerPlayerID := ""
  countdownTicksRemaining := 0
  matchTicksRemaining := 0
  arenaID := ""

def newMatchModel (localPlayerId : String) : MatchModel where
  localPlayerId := localPlayerId
  world := initialWorld
  matchEnd := none
  arenaId := ""
  tickRate := 30
  started := false
  inputTick := 0
  pendingActions := .empty
  localPrediction := .initial

def newMatchController (localPlayerId : String) : MatchController where
  model := newMatchModel localPlayerId
  nextLightAttackTick := 0

def lightAttackRepeatIntervalTicks : UInt32 := 15

namespace MatchModel

/-- The loop body of `ApplySnapshot`; an opponent only moves the interpolation. -/
def applyPlayer (m : MatchModel) (player : PlayerState) : MatchModel :=
  if player.playerID = m.localPlayerId then
    { m with
      pendingActions := m.pendingActions.acknowledge player.lastAckedActionSequence
      localPrediction := m.localPrediction.reconcile player }
  else
    m

/-- The arena after a snapshot; once known, it stays. -/
def arenaAfter (m : MatchModel) (snapshot : WorldSnapshot) : String :=
  if m.arenaId = "" ∧ snapshot.arenaID ≠ "" then snapshot.arenaID else m.arenaId

/-- The end of `ApplySnapshot`. -/
def setWorld (m : MatchModel) (snapshot : WorldSnapshot) : MatchModel :=
  { m with
    arenaId := m.arenaAfter snapshot
    world := { snapshot with arenaID := m.arenaAfter snapshot } }

/-- `ApplySnapshot`; a snapshot older than the world is ignored. -/
def applySnapshot (m : MatchModel) (snapshot : WorldSnapshot) : MatchModel :=
  if m.started ∧ snapshot.serverTick < m.world.serverTick then m
  else (snapshot.players.foldl applyPlayer m).setWorld snapshot

/-- The first branch of `PollNetwork`. -/
def applyStart (m : MatchModel) (start : MatchStart) : MatchModel :=
  applySnapshot { m with
    tickRate := if start.tickRate = 0 then 30 else start.tickRate
    arenaId := if start.arenaID ≠ "" then start.arenaID else start.initialSnapshot.arenaID
    started := true } start.initialSnapshot

/-- The last branch of `PollNetwork`. -/
def applyEnd (m : MatchModel) (matchEnd : MatchEnd) : MatchModel :=
  { m.applySnapshot matchEnd.finalSnapshot with matchEnd := some matchEnd }

/-- The early return of `FixedTick` is not taken. -/
def Ticks (m : MatchModel) : Prop :=
  m.started = true ∧ m.matchEnd = none ∧ m.world.status = .active

instance (m : MatchModel) : Decidable m.Ticks := by
  unfold Ticks
  infer_instance

/-- The loop over the pressed actions in `FixedTick`. -/
def enqueuePressed (m : MatchModel) (pressed : List Action) : MatchModel :=
  { m with pendingActions := pressed.foldl (fun queue action =>
      if action = .lightAttack then queue else (queue.enqueue action).2) m.pendingActions }

def predict (m : MatchModel) (frame : InputFrame) : MatchModel :=
  { m with localPrediction :=
      m.localPrediction.applyInput m.inputTick frame.moveX.toInt32 frame.moveY.toInt32 }

/-- The message `FixedTick` sends. -/
def outgoing (m : MatchModel) (frame : InputFrame) : PlayerInput where
  tick := m.inputTick
  moveX := frame.moveX.toInt32
  moveY := frame.moveY.toInt32
  pendingActions := m.pendingActions.pending.map commandToProtocol

/-- What `PollNetwork` does to the model, given what the transport has for each of its polls. -/
def poll (m : MatchModel) (start : Option MatchStart) (snapshot : Option WorldSnapshot)
    (matchEnd : Option MatchEnd) : MatchModel :=
  matchEnd.toList.foldl applyEnd (snapshot.toList.foldl applySnapshot
    (start.toList.foldl applyStart m))

end MatchModel

namespace MatchController

def pollNetwork (c : MatchController) (start : Option MatchStart) (snapshot : Option WorldSnapshot)
    (matchEnd : Option MatchEnd) (connected : Bool) : NetworkUpdate × MatchController :=
  ({ started := start.isSome
     ended := matchEnd.isSome
     disconnected := matchEnd.isNone && !connected },
    { c with model := c.model.poll start snapshot matchEnd })

/-- The light attack of `FixedTick`: a held button repeats it once the cooldown is over. -/
def enqueueLightAttack (c : MatchController) (frame : InputFrame) : MatchController :=
  if (Action.lightAttack ∈ frame.pressed ∨ Action.lightAttack ∈ frame.held) ∧
      c.model.inputTick ≥ c.nextLightAttackTick ∧
      (c.model.pendingActions.enqueue .lightAttack).1 = true then
    { model := { c.model with
        pendingActions := (c.model.pendingActions.enqueue .lightAttack).2 }
      nextLightAttackTick := c.model.inputTick + lightAttackRepeatIntervalTicks }
  else
    c

/-- `FixedTick` up to the prediction. -/
def enqueueActions (c : MatchController) (frame : InputFrame) : MatchController :=
  enqueueLightAttack { c with
    model := ({ c.model with inputTick := c.model.inputTick + 1 } : MatchModel).enqueuePressed
      frame.pressed } frame

/-- `FixedTick` past its early return. -/
def advanceTick (c : MatchController) (frame : InputFrame) : MatchController :=
  { c.enqueueActions frame with model := (c.enqueueActions frame).model.predict frame }

/-- `FixedTick`, with the message it hands to `SendInput` unless it returns early. -/
def fixedTick (c : MatchController) (frame : InputFrame) : MatchController × Option PlayerInput :=
  if c.model.Ticks then (c.advanceTick frame, some ((c.advanceTick frame).model.outgoing frame))
  else (c, none)

end MatchController

/-! ### What the calls do to the pending commands -/

namespace MatchModel

theorem enqueuePressed_pendingActions (m : MatchModel) (pressed : List Action) :
    (m.enqueuePressed pressed).pendingActions =
      m.pendingActions.enqueueAll (pressed.filter fun action => action ≠ .lightAttack) := by
  rw [PendingActionQueue.enqueueAll, List.foldl_filter, enqueuePressed]
  refine congrArg (fun step => pressed.foldl step m.pendingActions) (funext₂ fun queue action => ?_)
  by_cases haction : action = .lightAttack <;> simp [haction]

@[simp] theorem applyPlayer_localPlayerId (m : MatchModel) (player : PlayerState) :
    (m.applyPlayer player).localPlayerId = m.localPlayerId := by
  unfold applyPlayer
  split_ifs <;> rfl

/-- The loop of `ApplySnapshot` only acknowledges commands and reconciles. -/
theorem applyPlayers_fields (m : MatchModel) (players : List PlayerState) :
    (players.foldl applyPlayer m).started = m.started ∧
      (players.foldl applyPlayer m).localPlayerId = m.localPlayerId ∧
      (players.foldl applyPlayer m).matchEnd = m.matchEnd := by
  induction players generalizing m with
  | nil => exact ⟨rfl, rfl, rfl⟩
  | cons player players ih =>
      obtain ⟨hstarted, hid, hend⟩ := ih (m.applyPlayer player)
      refine ⟨hstarted.trans ?_, hid.trans (m.applyPlayer_localPlayerId player), hend.trans ?_⟩
      all_goals
        unfold applyPlayer
        split_ifs <;> rfl

theorem applySnapshot_inputTick (m : MatchModel) (snapshot : WorldSnapshot) :
    (m.applySnapshot snapshot).inputTick = m.inputTick := by
  have hplayers : ∀ (players : List PlayerState) (m : MatchModel),
      (players.foldl applyPlayer m).inputTick = m.inputTick := by
    intro players
    induction players with
    | nil => exact fun _ => rfl
    | cons player players ih =>
        intro m
        rw [List.foldl_cons, ih, applyPlayer]
        split_ifs <;> rfl
  unfold applySnapshot
  split_ifs
  · rfl
  · exact hplayers _ m

theorem poll_inputTick (m : MatchModel) (start : Option MatchStart) (snapshot : Option WorldSnapshot)
    (matchEnd : Option MatchEnd) : (m.poll start snapshot matchEnd).inputTick = m.inputTick := by
  have hstart : ∀ m : MatchModel, (start.toList.foldl applyStart m).inputTick = m.inputTick := by
    intro m
    cases start with
    | none => rfl
    | some start => exact applySnapshot_inputTick _ start.initialSnapshot
  have hsnapshot : ∀ m : MatchModel,
      (snapshot.toList.foldl applySnapshot m).inputTick = m.inputTick := by
    intro m
    cases snapshot with
    | none => rfl
    | some snapshot => exact applySnapshot_inputTick m snapshot
  have hend : ∀ m : MatchModel, (matchEnd.toList.foldl applyEnd m).inputTick = m.inputTick := by
    intro m
    cases matchEnd with
    | none => rfl
    | some matchEnd => exact applySnapshot_inputTick m matchEnd.finalSnapshot
  rw [poll, hend, hsnapshot, hstart]

def polled (start : Option MatchStart) (snapshot : Option WorldSnapshot) (matchEnd : Option MatchEnd) :
    List WorldSnapshot :=
  start.toList.map MatchStart.initialSnapshot ++ snapshot.toList ++
    matchEnd.toList.map MatchEnd.finalSnapshot

/-- What acknowledging the local player's entries of the given snapshots keeps of the queue. -/
def KeptBy (P : PendingActionQueue → Prop) (id : String) (snapshots : List WorldSnapshot) : Prop :=
  ∀ q, ∀ snapshot ∈ snapshots, ∀ player ∈ snapshot.players, player.playerID = id → P q →
    P (q.acknowledge player.lastAckedActionSequence)

variable {P : PendingActionQueue → Prop}

theorem applyPlayers_induction {id : String} {players : List PlayerState}
    (hack : ∀ q, ∀ player ∈ players, player.playerID = id → P q →
      P (q.acknowledge player.lastAckedActionSequence)) {m : MatchModel} (hid : m.localPlayerId = id)
    (hm : P m.pendingActions) : P (players.foldl applyPlayer m).pendingActions ∧
      (players.foldl applyPlayer m).localPlayerId = id := by
  induction players generalizing m with
  | nil => exact ⟨hm, hid⟩
  | cons player players ih =>
      refine ih (fun q other hin => hack q other (List.mem_cons_of_mem _ hin)) ?_ ?_
      · rw [applyPlayer_localPlayerId, hid]
      · unfold applyPlayer
        split_ifs with hlocal
        · exact hack _ player (List.mem_cons_self ..) (hlocal.trans hid) hm
        · exact hm

theorem applySnapshot_induction {id : String} {snapshot : WorldSnapshot}
    (hack : KeptBy P id [snapshot]) {m : MatchModel} (hid : m.localPlayerId = id)
    (hm : P m.pendingActions) :
    P (m.applySnapshot snapshot).pendingActions ∧ (m.applySnapshot snapshot).localPlayerId = id := by
  unfold applySnapshot
  split_ifs
  · exact ⟨hm, hid⟩
  · exact applyPlayers_induction (fun q => hack q snapshot (List.mem_singleton_self _)) hid hm

/-- A poll only acknowledges what the snapshots it brings acknowledge. -/
theorem poll_induction {m : MatchModel} {start : Option MatchStart} {snapshot : Option WorldSnapshot}
    {matchEnd : Option MatchEnd}
    (hack : KeptBy P m.localPlayerId (polled start snapshot matchEnd)) (hm : P m.pendingActions) :
    P (m.poll start snapshot matchEnd).pendingActions ∧
      (m.poll start snapshot matchEnd).localPlayerId = m.localPlayerId := by
  have hone : ∀ w ∈ polled start snapshot matchEnd, KeptBy P m.localPlayerId [w] := by
    intro w hw q other hother
    rw [List.mem_singleton.1 hother]
    exact hack q w hw
  have hstart : P (start.toList.foldl applyStart m).pendingActions ∧
      (start.toList.foldl applyStart m).localPlayerId = m.localPlayerId := by
    cases start with
    | none => exact ⟨hm, rfl⟩
    | some start => exact applySnapshot_induction (hone _ (by simp [polled])) (by rfl) hm
  have hsnapshot : P (snapshot.toList.foldl applySnapshot
      (start.toList.foldl applyStart m)).pendingActions ∧
      (snapshot.toList.foldl applySnapshot (start.toList.foldl applyStart m)).localPlayerId =
        m.localPlayerId := by
    cases snapshot with
    | none => exact hstart
    | some snapshot => exact applySnapshot_induction (hone _ (by simp [polled])) hstart.2 hstart.1
  cases matchEnd with
  | none => exact hsnapshot
  | some matchEnd => exact applySnapshot_induction (hone _ (by simp [polled])) hsnapshot.2 hsnapshot.1

end MatchModel

namespace MatchController

theorem enqueueLightAttack_induction {P : PendingActionQueue → Prop}
    (henqueue : ∀ q action, P q → P (q.enqueue action).2) {c : MatchController} (frame : InputFrame)
    (hc : P c.model.pendingActions) : P (c.enqueueLightAttack frame).model.pendingActions := by
  unfold enqueueLightAttack
  split_ifs
  · exact henqueue _ _ hc
  · exact hc

theorem enqueueActions_induction {P : PendingActionQueue → Prop}
    (henqueue : ∀ q action, P q → P (q.enqueue action).2) {c : MatchController} (frame : InputFrame)
    (hc : P c.model.pendingActions) : P (c.enqueueActions frame).model.pendingActions := by
  unfold enqueueActions
  apply enqueueLightAttack_induction henqueue
  dsimp only
  rw [MatchModel.enqueuePressed_pendingActions]
  exact PendingActionQueue.enqueueAll_induction henqueue hc _

theorem advanceTick_induction {P : PendingActionQueue → Prop}
    (henqueue : ∀ q action, P q → P (q.enqueue action).2) {c : MatchController} (frame : InputFrame)
    (hc : P c.model.pendingActions) : P (c.advanceTick frame).model.pendingActions := by
  unfold advanceTick MatchModel.predict
  dsimp only
  exact enqueueActions_induction henqueue frame hc

theorem enqueueLightAttack_fields (c : MatchController) (frame : InputFrame) :
    (c.enqueueLightAttack frame).model.inputTick = c.model.inputTick ∧
      (c.enqueueLightAttack frame).model.localPlayerId = c.model.localPlayerId := by
  unfold enqueueLightAttack
  split_ifs
  · exact ⟨rfl, rfl⟩
  · exact ⟨rfl, rfl⟩

theorem advanceTick_fields (c : MatchController) (frame : InputFrame) :
    (c.advanceTick frame).model.inputTick = c.model.inputTick + 1 ∧
      (c.advanceTick frame).model.localPlayerId = c.model.localPlayerId := by
  unfold advanceTick MatchModel.predict enqueueActions
  dsimp only
  rw [(enqueueLightAttack_fields _ frame).1, (enqueueLightAttack_fields _ frame).2]
  exact ⟨rfl, rfl⟩

/-- Without a dash a tick enqueues nothing, or one light attack that keeps its distance to the one
before. -/
theorem advanceTick_attacks (c : MatchController) {frame : InputFrame}
    (hdash : Action.dash ∉ frame.pressed) :
    ((c.advanceTick frame).model.pendingActions = c.model.pendingActions ∧
      (c.advanceTick frame).nextLightAttackTick = c.nextLightAttackTick) ∨
    c.nextLightAttackTick ≤ c.model.inputTick + 1 ∧
      (c.advanceTick frame).nextLightAttackTick =
        c.model.inputTick + 1 + lightAttackRepeatIntervalTicks ∧
      ∃ sequence, (c.advanceTick frame).model.pendingActions.pending =
        c.model.pendingActions.pending ++ [⟨sequence, .lightAttack⟩] := by
  have hpressed : ∀ m : MatchModel, m.enqueuePressed frame.pressed = m := by
    intro m
    have hnone : m.pendingActions.enqueueAll
        (frame.pressed.filter fun action => action ≠ .lightAttack) = m.pendingActions := by
      apply PendingActionQueue.enqueueAll_of_not_edge
      intro action haction
      obtain ⟨hmem, hne⟩ := List.mem_filter.1 haction
      cases action with
      | dash => exact absurd hmem hdash
      | lightAttack => exact absurd rfl (of_decide_eq_true hne)
      | moveUp | moveDown | moveLeft | moveRight => rfl
    rw [← MatchModel.enqueuePressed_pendingActions] at hnone
    exact congrArg (fun pendingActions => ({ m with pendingActions } : MatchModel)) hnone
  unfold advanceTick enqueueActions
  rw [hpressed]
  unfold enqueueLightAttack MatchModel.predict
  dsimp only
  split_ifs with hattack
  · obtain ⟨-, hready, henqueued⟩ := hattack
    rcases c.model.pendingActions.enqueue_cases .lightAttack with
      heq | ⟨q, heq, -, -, -, -, hpending⟩
    · rw [heq] at henqueued
      cases henqueued
    · refine .inr ⟨hready, rfl, c.model.pendingActions.nextSequence, ?_⟩
      rw [heq]
      exact hpending
  · exact .inl ⟨rfl, rfl⟩

end MatchController

end PvpDuel.Client
