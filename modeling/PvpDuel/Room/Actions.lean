import PvpDuel.Room.Run

/-!
# What processing a command queue does

`processActions` consumes every pending command of a seat, but at most one of them takes effect: the
first that passes its guard leaves `IDLE` and `MOVE`, and every guard asks for one of these. So a
whole queue amounts to nothing, one dash or one light attack, and an acknowledgement.
-/

namespace PvpDuel.Simulation

/-! ### Axes -/

/-- One of the three values a clamped axis can have. -/
def IsAxis (axis : Int8) : Prop := axis = -1 ∨ axis = 0 ∨ axis = 1

theorem clampAxis_isAxis (axis : Int8) : IsAxis (clampAxis axis) := by
  unfold clampAxis
  split_ifs with hlo hhi
  · exact .inl rfl
  · exact .inr (.inr rfl)
  · rw [gt_iff_lt, Int8.lt_iff_toInt_lt] at hhi
    rw [Int8.lt_iff_toInt_lt] at hlo
    change ¬ axis.toInt < -1 at hlo
    change ¬ 1 < axis.toInt at hhi
    unfold IsAxis
    simp only [← Int8.toInt_inj]
    change axis.toInt = -1 ∨ axis.toInt = 0 ∨ axis.toInt = 1
    omega

theorem IsAxis.clampAxis_eq {axis : Int8} (h : IsAxis axis) : clampAxis axis = axis := by
  rcases h with rfl | rfl | rfl <;> rfl

/-- The last sequence of a command list, or the given one if it is empty. -/
def lastSequence (ack : UInt32) (commands : List ActionCommand) : UInt32 :=
  commands.foldl (fun _ command => command.sequence) ack

@[simp] theorem lastSequence_cons (ack : UInt32) (command : ActionCommand)
    (commands : List ActionCommand) :
    lastSequence ack (command :: commands) = lastSequence command.sequence commands := rfl

theorem lastSequence_append (ack : UInt32) (first second : List ActionCommand) :
    lastSequence ack (first ++ second) = lastSequence (lastSequence ack first) second :=
  List.foldl_append

theorem lastSequence_mem {commands : List ActionCommand} (ack : UInt32) (h : commands ≠ []) :
    ∃ command ∈ commands, lastSequence ack commands = command.sequence := by
  induction commands generalizing ack with
  | nil => exact absurd rfl h
  | cons command commands ih =>
      cases commands with
      | nil => exact ⟨command, by simp, rfl⟩
      | cons next rest =>
          obtain ⟨last, hmem, hlast⟩ := ih command.sequence (by simp)
          exact ⟨last, List.mem_cons_of_mem _ hmem, hlast⟩

namespace Seat

/-- The seat with its last acknowledged sequence replaced. -/
def withAck (s : Seat) (ack : UInt32) : Seat :=
  { s with player := { s.player with lastAckedActionSequence := ack } }

/-- Whether a command passes the guard of `tryDash` or `tryLightAttack`. -/
def takesEffect (tick : UInt32) (s : Seat) (command : ActionCommand) : Bool :=
  match command.type with
  | .dash => s.player.canStartAction && s.nextDashTick ≤ tick
  | .lightAttack => s.player.canStartAction && s.nextAttackTick ≤ tick
  | .unspecified => false

/-- The commands of a queue that take effect when `processActions` runs through it. -/
def effects (rules : Ruleset) (tick : UInt32) : Seat → List ActionCommand → List ActionCommand
  | _, [] => []
  | s, command :: commands =>
      if s.takesEffect tick command then
        command :: effects rules tick (s.processAction rules tick command) commands
      else
        effects rules tick (s.processAction rules tick command) commands

/-- A command does nothing but be acknowledged, or passes its guard and starts its action. -/
theorem processAction_cases (rules : Ruleset) (tick : UInt32) (s : Seat) (command : ActionCommand) :
    (s.takesEffect tick command = false ∧
      s.processAction rules tick command = s.withAck command.sequence) ∨
    (s.takesEffect tick command = true ∧ command.type = .dash ∧ s.player.canStartAction = true ∧
      s.nextDashTick ≤ tick ∧
      s.processAction rules tick command = (s.startDash rules tick).withAck command.sequence) ∨
    (s.takesEffect tick command = true ∧ command.type = .lightAttack ∧
      s.player.canStartAction = true ∧ s.nextAttackTick ≤ tick ∧
      s.processAction rules tick command =
        (s.startLightAttack rules tick).withAck command.sequence) := by
  cases htype : command.type with
  | unspecified =>
      refine .inl ⟨by rw [takesEffect, htype], ?_⟩
      rw [processAction, htype]
      rfl
  | dash =>
      by_cases hguard : s.player.canStartAction = true ∧ s.nextDashTick ≤ tick
      · refine .inr (.inl ⟨?_, rfl, hguard.1, hguard.2, ?_⟩)
        · simp [takesEffect, htype, hguard]
        · rw [processAction, htype]
          exact if_neg (not_or.2 ⟨not_not.2 hguard.1, UInt32.not_lt.2 hguard.2⟩)
      · refine .inl ⟨?_, ?_⟩
        · simpa [takesEffect, htype] using hguard
        · rw [processAction, htype]
          apply if_pos
          rw [← UInt32.not_le]
          exact not_and_or.1 hguard
  | lightAttack =>
      by_cases hguard : s.player.canStartAction = true ∧ s.nextAttackTick ≤ tick
      · refine .inr (.inr ⟨?_, rfl, hguard.1, hguard.2, ?_⟩)
        · simp [takesEffect, htype, hguard]
        · rw [processAction, htype]
          exact if_neg (not_or.2 ⟨not_not.2 hguard.1, UInt32.not_lt.2 hguard.2⟩)
      · refine .inl ⟨?_, ?_⟩
        · simpa [takesEffect, htype] using hguard
        · rw [processAction, htype]
          apply if_pos
          rw [← UInt32.not_le]
          exact not_and_or.1 hguard

theorem not_canStartAction_startDash (rules : Ruleset) (tick ack : UInt32) (s : Seat) :
    ((s.startDash rules tick).withAck ack).player.canStartAction = false := by
  simp [startDash, withAck, PlayerState.canStartAction, PlayerState.inLocomotion]

theorem not_canStartAction_startLightAttack (rules : Ruleset) (tick ack : UInt32) (s : Seat) :
    ((s.startLightAttack rules tick).withAck ack).player.canStartAction = false := by
  by_cases h : rules.lightAttack.windupTicks = 0 <;>
    simp [startLightAttack, withAck, PlayerState.canStartAction, PlayerState.inLocomotion, h]

/-- A player who cannot start an action only has the commands acknowledged. -/
theorem foldl_processAction_of_busy (rules : Ruleset) (tick : UInt32) {s : Seat}
    (h : s.player.canStartAction = false) (commands : List ActionCommand) :
    s.effects rules tick commands = [] ∧ commands.foldl (processAction rules tick) s =
      s.withAck (lastSequence s.player.lastAckedActionSequence commands) := by
  induction commands generalizing s with
  | nil => exact ⟨rfl, rfl⟩
  | cons command commands ih =>
      rcases processAction_cases rules tick s command with
        ⟨heffect, hs⟩ | ⟨-, -, hstart, -, -⟩ | ⟨-, -, hstart, -, -⟩
      · have hbusy : (s.withAck command.sequence).player.canStartAction = false := h
        obtain ⟨hnone, hfold⟩ := ih hbusy
        refine ⟨?_, ?_⟩
        · rw [effects, heffect, hs]
          exact hnone
        · rw [List.foldl_cons, hs, hfold]
          rfl
      · rw [h] at hstart
        cases hstart
      · rw [h] at hstart
        cases hstart

/-- A whole queue amounts to nothing, one dash or one light attack, and an acknowledgement. -/
theorem foldl_processAction_cases (rules : Ruleset) (tick : UInt32) (commands : List ActionCommand)
    (s : Seat) :
    (s.effects rules tick commands = [] ∧ commands.foldl (processAction rules tick) s =
      s.withAck (lastSequence s.player.lastAckedActionSequence commands)) ∨
    (∃ command, s.effects rules tick commands = [command] ∧ command.type = .dash ∧
      s.player.canStartAction = true ∧ s.nextDashTick ≤ tick ∧
      commands.foldl (processAction rules tick) s = (s.startDash rules tick).withAck
        (lastSequence s.player.lastAckedActionSequence commands)) ∨
    (∃ command, s.effects rules tick commands = [command] ∧ command.type = .lightAttack ∧
      s.player.canStartAction = true ∧ s.nextAttackTick ≤ tick ∧
      commands.foldl (processAction rules tick) s = (s.startLightAttack rules tick).withAck
        (lastSequence s.player.lastAckedActionSequence commands)) := by
  induction commands generalizing s with
  | nil => exact .inl ⟨rfl, rfl⟩
  | cons command commands ih =>
      rw [List.foldl_cons, lastSequence_cons, effects]
      rcases processAction_cases rules tick s command with
        ⟨heffect, hs⟩ | ⟨heffect, htype, hstart, hready, hs⟩ | ⟨heffect, htype, hstart, hready, hs⟩
      · rw [heffect, hs]
        exact ih (s.withAck command.sequence)
      · obtain ⟨hnone, hfold⟩ := foldl_processAction_of_busy rules tick
          (not_canStartAction_startDash rules tick command.sequence s) commands
        rw [if_pos heffect, hs, hnone, hfold]
        exact .inr (.inl ⟨command, rfl, htype, hstart, hready, rfl⟩)
      · obtain ⟨hnone, hfold⟩ := foldl_processAction_of_busy rules tick
          (not_canStartAction_startLightAttack rules tick command.sequence s) commands
        rw [if_pos heffect, hs, hnone, hfold]
        exact .inr (.inr ⟨command, rfl, htype, hstart, hready, rfl⟩)

/-! ### One seat up to the hits -/

/-- The seat when `processActions` begins. -/
def beforeActions (rules : Ruleset) (s : Seat) : Seat :=
  (s.advanceActionState rules).applyMovement rules

@[simp] theorem beforeActions_pendingActions (rules : Ruleset) (s : Seat) :
    (s.beforeActions rules).pendingActions = s.pendingActions := rfl

@[simp] theorem beforeActions_input (rules : Ruleset) (s : Seat) :
    (s.beforeActions rules).input = s.input := rfl

@[simp] theorem beforeActions_lastInputTick (rules : Ruleset) (s : Seat) :
    (s.beforeActions rules).lastInputTick = s.lastInputTick := rfl

/-- The seat after its queue has been consumed and one action may have been started on it. -/
def settle (s started : Seat) : Seat :=
  { started.withAck (lastSequence s.player.lastAckedActionSequence s.pendingActions) with
    pendingActions := [] }

theorem acknowledgeRejectedActions_eq (s : Seat) : s.acknowledgeRejectedActions = s.settle s := by
  have hfold : ∀ (commands : List ActionCommand) (s : Seat), commands.foldl acknowledge s =
      s.withAck (lastSequence s.player.lastAckedActionSequence commands) := by
    intro commands
    induction commands with
    | nil => exact fun _ => rfl
    | cons command commands ih =>
        intro s
        rw [List.foldl_cons, ih]
        rfl
  rw [acknowledgeRejectedActions, hfold]
  rfl

theorem processActions_cases (rules : Ruleset) (tick : UInt32) (s : Seat) :
    (s.effects rules tick s.pendingActions = [] ∧ s.processActions rules tick = s.settle s) ∨
    (∃ command, s.effects rules tick s.pendingActions = [command] ∧ command.type = .dash ∧
      s.player.canStartAction = true ∧ s.nextDashTick ≤ tick ∧
      s.processActions rules tick = s.settle (s.startDash rules tick)) ∨
    (∃ command, s.effects rules tick s.pendingActions = [command] ∧ command.type = .lightAttack ∧
      s.player.canStartAction = true ∧ s.nextAttackTick ≤ tick ∧
      s.processActions rules tick = s.settle (s.startLightAttack rules tick)) := by
  rcases foldl_processAction_cases rules tick s.pendingActions s with
    ⟨heffects, hs⟩ | ⟨command, heffects, htype, hstart, hready, hs⟩ |
    ⟨command, heffects, htype, hstart, hready, hs⟩
  · refine .inl ⟨heffects, ?_⟩
    rw [processActions, hs]
    rfl
  · refine .inr (.inl ⟨command, heffects, htype, hstart, hready, ?_⟩)
    rw [processActions, hs]
    rfl
  · refine .inr (.inr ⟨command, heffects, htype, hstart, hready, ?_⟩)
    rw [processActions, hs]
    rfl

end Seat

/-! ### Which fields a phase can change -/

namespace PlayerState

/-- `advanceActionStates` changes the action state and its timers only. -/
theorem advanceActionState_eq (rules : Ruleset) (input : Input) (player : PlayerState) :
    ∃ actionState actionStartedServerTick actionTicksRemaining,
      player.advanceActionState rules input = { player with
        actionState, actionStartedServerTick, actionTicksRemaining } := by
  have htick : ∃ remaining, player.tickDown = { player with actionTicksRemaining := remaining } := by
    unfold tickDown
    split_ifs
    · exact ⟨_, rfl⟩
    · exact ⟨player.actionTicksRemaining, rfl⟩
  obtain ⟨remaining, hdown⟩ := htick
  unfold advanceActionState
  rw [hdown]
  split_ifs
  · exact ⟨player.actionState, _, _, rfl⟩
  · exact ⟨player.actionState, _, _, rfl⟩
  · unfold enterNextPhase
    split
    · exact ⟨_, _, _, rfl⟩
    · split_ifs
      · exact ⟨_, _, _, rfl⟩
      · exact ⟨_, _, _, rfl⟩
    all_goals exact ⟨_, _, _, rfl⟩

theorem updateFacing_eq (input : Input) (player : PlayerState) : ∃ facingX facingY,
    player.updateFacing input = { player with facingX, facingY } := by
  unfold updateFacing
  split_ifs
  · exact ⟨player.facingX, player.facingY, rfl⟩
  · exact ⟨_, _, rfl⟩
  · exact ⟨_, _, rfl⟩

/-- `applyMovement` acknowledges the held tick and changes position, facing and the action state. -/
theorem applyMovement_eq (rules : Ruleset) (input : Input) (player : PlayerState) :
    ∃ positionX positionY facingX facingY actionState actionStartedServerTick actionTicksRemaining,
      player.applyMovement rules input = { player with
        positionX, positionY, facingX, facingY, actionState, actionStartedServerTick
        actionTicksRemaining
        lastAckedInputTick := input.tick } := by
  unfold applyMovement
  dsimp only
  split_ifs
  · exact ⟨player.positionX, player.positionY, player.facingX, player.facingY, player.actionState,
      player.actionStartedServerTick, player.actionTicksRemaining, rfl⟩
  · obtain ⟨facingX, facingY, h⟩ :=
      updateFacing_eq input { player with lastAckedInputTick := input.tick }
    rw [h]
    exact ⟨(player.move rules input).positionX, (player.move rules input).positionY, facingX,
      facingY, (player.setLocomotionState input).actionState, 0, 0, rfl⟩
  · exact ⟨(player.move rules input).positionX, (player.move rules input).positionY,
      player.facingX, player.facingY, player.actionState, player.actionStartedServerTick,
      player.actionTicksRemaining, rfl⟩

theorem applyDamage_eq (tick : UInt32) (damage : Int32) (player : PlayerState) :
    ∃ hp actionState actionStartedServerTick actionTicksRemaining,
      player.applyDamage tick damage = { player with
        hp, actionState, actionStartedServerTick, actionTicksRemaining } := by
  unfold applyDamage
  split_ifs
  · exact ⟨player.hp, player.actionState, _, _, rfl⟩
  · exact ⟨_, _, _, _, rfl⟩

end PlayerState

namespace Seat

theorem beforeActions_player (rules : Ruleset) (s : Seat) : ∃ positionX positionY facingX facingY
    actionState actionStartedServerTick actionTicksRemaining,
    (s.beforeActions rules).player = { s.player with
      positionX, positionY, facingX, facingY, actionState, actionStartedServerTick
      actionTicksRemaining
      lastAckedInputTick := s.input.tick } := by
  obtain ⟨_, _, _, hadvance⟩ := s.player.advanceActionState_eq rules s.input
  obtain ⟨x, y, facingX, facingY, state, started, remaining, hmove⟩ :=
    (s.player.advanceActionState rules s.input).applyMovement_eq rules s.input
  refine ⟨x, y, facingX, facingY, state, started, remaining, ?_⟩
  change (s.player.advanceActionState rules s.input).applyMovement rules s.input = _
  rw [hmove, hadvance]

@[simp] theorem beforeActions_hp (rules : Ruleset) (s : Seat) :
    (s.beforeActions rules).player.hp = s.player.hp := by
  obtain ⟨_, _, _, _, _, _, _, h⟩ := s.beforeActions_player rules
  rw [h]

@[simp] theorem beforeActions_id (rules : Ruleset) (s : Seat) :
    (s.beforeActions rules).player.id = s.player.id := by
  obtain ⟨_, _, _, _, _, _, _, h⟩ := s.beforeActions_player rules
  rw [h]

@[simp] theorem beforeActions_lastAckedInputTick (rules : Ruleset) (s : Seat) :
    (s.beforeActions rules).player.lastAckedInputTick = s.input.tick := by
  obtain ⟨_, _, _, _, _, _, _, h⟩ := s.beforeActions_player rules
  rw [h]

@[simp] theorem beforeActions_lastAckedActionSequence (rules : Ruleset) (s : Seat) :
    (s.beforeActions rules).player.lastAckedActionSequence =
      s.player.lastAckedActionSequence := by
  obtain ⟨_, _, _, _, _, _, _, h⟩ := s.beforeActions_player rules
  rw [h]

theorem toHits_eq (rules : Ruleset) (tick : UInt32) (s : Seat) :
    s.toHits rules tick = (s.beforeActions rules).processActions rules tick := rfl

/-- Starting an action keeps everything but the player's position and action, the attack facing and
the cooldowns, so the fields below are read off the seat before it. -/
theorem toHits_fields (rules : Ruleset) (tick : UInt32) (s : Seat) :
    (s.toHits rules tick).player.id = s.player.id ∧
    (s.toHits rules tick).player.hp = s.player.hp ∧
    (s.toHits rules tick).player.lastAckedInputTick = s.input.tick ∧
    (s.toHits rules tick).player.lastAckedActionSequence =
      lastSequence s.player.lastAckedActionSequence s.pendingActions ∧
    (s.toHits rules tick).input = s.input ∧
    (s.toHits rules tick).lastInputTick = s.lastInputTick ∧
    (s.toHits rules tick).pendingActions = [] := by
  rw [toHits_eq, ← beforeActions_id rules s, ← beforeActions_hp rules s,
    ← beforeActions_lastAckedInputTick rules s, ← beforeActions_lastAckedActionSequence rules s,
    ← beforeActions_input rules s, ← beforeActions_lastInputTick rules s,
    ← beforeActions_pendingActions rules s]
  generalize s.beforeActions rules = t
  rcases processActions_cases rules tick t with
    ⟨-, h⟩ | ⟨_, -, -, -, -, h⟩ | ⟨_, -, -, -, -, h⟩ <;> rw [h]
  · exact ⟨rfl, rfl, rfl, rfl, rfl, rfl, rfl⟩
  · exact ⟨rfl, rfl, rfl, rfl, rfl, rfl, rfl⟩
  · exact ⟨rfl, rfl, rfl, rfl, rfl, rfl, rfl⟩

end Seat

namespace Room

/-- The fields of a seat after an active step that neither movement nor combat decides. -/
theorem stepSeat_fields (r : Room) (i : Side) :
    (r.stepSeat i).player.id = (r.seats.get i).player.id ∧
    (r.stepSeat i).player.lastAckedInputTick = (r.seats.get i).input.tick ∧
    (r.stepSeat i).player.lastAckedActionSequence =
      lastSequence (r.seats.get i).player.lastAckedActionSequence (r.seats.get i).pendingActions ∧
    (r.stepSeat i).input = (r.seats.get i).input ∧
    (r.stepSeat i).lastInputTick = (r.seats.get i).lastInputTick ∧
    (r.stepSeat i).pendingActions = [] := by
  obtain ⟨hid, -, hacked, hsequence, hinput, hlast, hpending⟩ :=
    (r.seats.get i).toHits_fields r.rules (r.tick + 1)
  obtain ⟨_, _, _, _, hdamage⟩ := ((r.seats.get i).toHits r.rules (r.tick + 1)).player.applyDamage_eq
    (r.tick + 1) (r.stepDamage i)
  refine ⟨?_, ?_, ?_, hinput, hlast, hpending⟩
  all_goals
    simp only [stepSeat, Seat.applyDamage]
    rw [hdamage]
  · exact hid
  · exact hacked
  · exact hsequence

theorem step_id (r : Room) (i : Side) :
    (r.step.seats.get i).player.id = (r.seats.get i).player.id := by
  rcases r.seat_step i with ⟨-, h⟩ | ⟨-, h⟩ | ⟨-, h⟩ | ⟨-, -, h⟩ <;> rw [h]
  · rw [Seat.acknowledgeRejectedActions_eq]
    rfl
  · rw [Seat.acknowledgeRejectedActions_eq]
    rfl
  · exact (r.stepSeat_fields i).1

theorem step_lastInputTick (r : Room) (i : Side) :
    (r.step.seats.get i).lastInputTick = (r.seats.get i).lastInputTick := by
  rcases r.seat_step i with ⟨-, h⟩ | ⟨-, h⟩ | ⟨-, h⟩ | ⟨-, -, h⟩ <;> rw [h]
  · rw [Seat.acknowledgeRejectedActions_eq]
    rfl
  · rw [Seat.acknowledgeRejectedActions_eq]
    rfl
  · exact (r.stepSeat_fields i).2.2.2.2.1

@[simp] theorem run_id (r : Room) (events : List Event) (i : Side) :
    ((r.run events).seats.get i).player.id = (r.seats.get i).player.id :=
  run_induction (P := fun room => (room.seats.get i).player.id = (r.seats.get i).player.id)
    (fun room playerID input h => by rw [submitInput_id, h])
    (fun room h => by rw [step_id, h]) rfl events

theorem run_distinct {r : Room} (h : r.seats.a.player.id ≠ r.seats.b.player.id)
    (events : List Event) : (r.run events).seats.a.player.id ≠ (r.run events).seats.b.player.id := by
  have ha := r.run_id events .a
  have hb := r.run_id events .b
  rw [Pair.get_a, Pair.get_a] at ha
  rw [Pair.get_b, Pair.get_b] at hb
  rw [ha, hb]
  exact h

end Room

end PvpDuel.Simulation
