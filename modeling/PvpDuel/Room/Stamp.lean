import Mathlib.Logic.Function.Basic
import PvpDuel.Room.Actions

/-!
# The numbers of the inputs

An input leaves four numbers with the seat of its player: the tick of the held input, the newest tick and
the two acknowledgements. A `stamp` replaces these four. Every phase of an active step commutes with it,
so the numbers reach nothing but the guards of `SubmitInput`.
-/

namespace PvpDuel.Simulation

/-- The numbers a player's inputs leave with his seat. -/
structure Stamp where
  heldTick : UInt32
  lastInputTick : UInt32
  ackedTick : UInt32
  ackedSequence : UInt32

theorem lastSequence_eq {commands : List ActionCommand} (h : commands ≠ []) (ack ack' : UInt32) :
    lastSequence ack commands = lastSequence ack' commands := by
  cases commands with
  | nil => exact absurd rfl h
  | cons command commands => rfl

/-! ### One player -/

namespace PlayerState

def stamp (t : Stamp) (player : PlayerState) : PlayerState :=
  { player with lastAckedInputTick := t.ackedTick, lastAckedActionSequence := t.ackedSequence }

variable (t : Stamp) (rules : Ruleset) (input : Input) (player : PlayerState)

theorem updateFacing_stamp :
    (player.stamp t).updateFacing { input with tick := t.heldTick } =
      (player.updateFacing input).stamp t := by
  unfold updateFacing
  split_ifs <;> rfl

theorem tickDown_stamp : (player.stamp t).tickDown = player.tickDown.stamp t := by
  unfold tickDown
  split_ifs with htick htick' htick'
  · rfl
  · exact absurd htick htick'
  · exact absurd htick' htick
  · rfl

theorem enterNextPhase_stamp :
    (player.stamp t).enterNextPhase rules { input with tick := t.heldTick } =
      (player.enterNextPhase rules input).stamp t := by
  have hstate : (player.stamp t).actionState = player.actionState := rfl
  unfold enterNextPhase
  rw [hstate]
  cases player.actionState with
  | lightAttackActive => split_ifs <;> rfl
  | _ => rfl

theorem advanceActionState_stamp :
    (player.stamp t).advanceActionState rules { input with tick := t.heldTick } =
      (player.advanceActionState rules input).stamp t := by
  have hstate : (player.stamp t).actionState = player.actionState := rfl
  have hloc : (player.stamp t).inLocomotion = player.inLocomotion := rfl
  have hremaining : (player.tickDown.stamp t).actionTicksRemaining =
      player.tickDown.actionTicksRemaining := rfl
  rw [advanceActionState, advanceActionState, hstate, hloc, tickDown_stamp, hremaining,
    enterNextPhase_stamp]
  split_ifs <;> rfl

theorem applyMovement_stamp :
    (player.stamp t).applyMovement rules { input with tick := t.heldTick } =
      (player.applyMovement rules input).stamp { t with ackedTick := t.heldTick } := by
  let acked : PlayerState := { player with lastAckedInputTick := input.tick }
  let t' : Stamp := { t with ackedTick := t.heldTick }
  have hfacing : (acked.stamp t').updateFacing { input with tick := t.heldTick } =
      (acked.updateFacing input).stamp t' := acked.updateFacing_stamp t' input
  by_cases hstopped : acked.hp ≤ 0 ∨ acked.actionState = .dash ∨ acked.actionState = .hit ∨
      acked.actionState = .ko
  · have hstamped : (player.stamp t).applyMovement rules { input with tick := t.heldTick } =
        acked.stamp t' := if_pos hstopped
    have hplain : player.applyMovement rules input = acked := if_pos hstopped
    rw [hstamped, hplain]
  by_cases hloc : acked.inLocomotion = true
  · have hstamped : (player.stamp t).applyMovement rules { input with tick := t.heldTick } =
        (((acked.stamp t').updateFacing { input with tick := t.heldTick }).move rules
          { input with tick := t.heldTick }).setLocomotionState { input with tick := t.heldTick } :=
      (if_neg hstopped).trans (if_pos hloc)
    have hplain : player.applyMovement rules input =
        ((acked.updateFacing input).move rules input).setLocomotionState input :=
      (if_neg hstopped).trans (if_pos hloc)
    rw [hstamped, hplain, hfacing]
    rfl
  · have hstamped : (player.stamp t).applyMovement rules { input with tick := t.heldTick } =
        (acked.stamp t').move rules { input with tick := t.heldTick } :=
      (if_neg hstopped).trans (if_neg hloc)
    have hplain : player.applyMovement rules input = acked.move rules input :=
      (if_neg hstopped).trans (if_neg hloc)
    rw [hstamped, hplain]
    rfl

theorem applyDamage_stamp (tick : UInt32) (damage : Int32) :
    (player.stamp t).applyDamage tick damage = (player.applyDamage tick damage).stamp t := by
  unfold applyDamage
  split_ifs <;> rfl

end PlayerState

/-! ### One seat -/

namespace Seat

def stampOf (s : Seat) : Stamp where
  heldTick := s.input.tick
  lastInputTick := s.lastInputTick
  ackedTick := s.player.lastAckedInputTick
  ackedSequence := s.player.lastAckedActionSequence

def stamp (t : Stamp) (s : Seat) : Seat :=
  { s with
    player := s.player.stamp t
    input := { s.input with tick := t.heldTick }
    lastInputTick := t.lastInputTick }

@[simp] theorem stampOf_stamp (t : Stamp) (s : Seat) : (s.stamp t).stampOf = t := rfl

@[simp] theorem stamp_stamp (t t' : Stamp) (s : Seat) : (s.stamp t').stamp t = s.stamp t := rfl

variable (t : Stamp) (rules : Ruleset) (tick : UInt32) (s : Seat)

theorem beforeActions_stamp : (s.stamp t).beforeActions rules =
    (s.beforeActions rules).stamp { t with ackedTick := t.heldTick } := by
  have hplayer : ((s.stamp t).beforeActions rules).player =
      (s.beforeActions rules).player.stamp { t with ackedTick := t.heldTick } := by
    change ((s.player.stamp t).advanceActionState rules _).applyMovement rules _ = _
    rw [show (s.stamp t).input = { s.input with tick := t.heldTick } from rfl,
      PlayerState.advanceActionState_stamp]
    exact PlayerState.applyMovement_stamp t rules _ _
  change { s.stamp t with player := ((s.stamp t).beforeActions rules).player } = _
  rw [hplayer]
  rfl

theorem tryDash_stamp : (s.stamp t).tryDash rules tick = (s.tryDash rules tick).stamp t := by
  by_cases hguard : ¬ s.player.canStartAction ∨ tick < s.nextDashTick
  · have hplain : s.tryDash rules tick = s := if_pos hguard
    rw [hplain]
    exact if_pos hguard
  · have hplain : s.tryDash rules tick = s.startDash rules tick := if_neg hguard
    rw [hplain]
    exact if_neg hguard

theorem tryLightAttack_stamp :
    (s.stamp t).tryLightAttack rules tick = (s.tryLightAttack rules tick).stamp t := by
  by_cases hguard : ¬ s.player.canStartAction ∨ tick < s.nextAttackTick
  · have hplain : s.tryLightAttack rules tick = s := if_pos hguard
    rw [hplain]
    exact if_pos hguard
  · have hplain : s.tryLightAttack rules tick = s.startLightAttack rules tick := if_neg hguard
    rw [hplain]
    exact if_neg hguard

/-- A command takes the same effect whatever the numbers are, and writes one of them. -/
theorem processAction_stamp (command : ActionCommand) :
    (s.stamp t).processAction rules tick command =
      (s.processAction rules tick command).stamp { t with ackedSequence := command.sequence } := by
  unfold processAction
  cases command.type with
  | unspecified => rfl
  | dash =>
      exact tryDash_stamp { t with ackedSequence := command.sequence } rules tick
        (s.acknowledge command)
  | lightAttack =>
      exact tryLightAttack_stamp { t with ackedSequence := command.sequence } rules tick
        (s.acknowledge command)

theorem processActions_stamp : (s.stamp t).processActions rules tick =
    (s.processActions rules tick).stamp
      { t with ackedSequence := lastSequence t.ackedSequence s.pendingActions } := by
  have hfold : ∀ (commands : List ActionCommand) (s : Seat) (t : Stamp),
      commands.foldl (processAction rules tick) (s.stamp t) =
        (commands.foldl (processAction rules tick) s).stamp
          { t with ackedSequence := lastSequence t.ackedSequence commands } := by
    intro commands
    induction commands with
    | nil => exact fun _ _ => rfl
    | cons command commands ih =>
        intro s t
        rw [List.foldl_cons, List.foldl_cons, processAction_stamp, ih, lastSequence_cons]
  rw [processActions, processActions, show (s.stamp t).pendingActions = s.pendingActions from rfl,
    hfold]
  rfl

/-- The numbers of a seat in an active step: the held tick and the last command are acknowledged. -/
def acknowledged (commands : List ActionCommand) : Stamp :=
  { t with ackedTick := t.heldTick, ackedSequence := lastSequence t.ackedSequence commands }

theorem toHits_stamp : (s.stamp t).toHits rules tick =
    (s.toHits rules tick).stamp (acknowledged t s.pendingActions) := by
  rw [toHits_eq, toHits_eq, beforeActions_stamp, processActions_stamp]
  rfl

variable {s}

/-- An input is newer than the last one and inside the acceptance window. -/
def IsNext (s : Seat) (input : Input) : Prop :=
  s.lastInputTick < input.tick ∧ input.tick ≤ s.lastInputTick + maxInputTickAdvance

/-- A command is above the acknowledged sequence and inside the window of sequences. -/
def Admits (ack : UInt32) (command : ActionCommand) : Prop :=
  ack < command.sequence ∧ command.sequence - ack ≤ maxActionSequenceAhead

instance (s : Seat) (input : Input) : Decidable (s.IsNext input) :=
  inferInstanceAs (Decidable (_ ∧ _))

instance (ack : UInt32) (command : ActionCommand) : Decidable (Admits ack command) :=
  inferInstanceAs (Decidable (_ ∧ _))

/-- Two acknowledgements that both admit the commands queue the same ones. -/
theorem foldl_queueAction_of_admits {ack ack' : UInt32} {commands : List ActionCommand}
    (h : ∀ command ∈ commands, Admits ack command) (h' : ∀ command ∈ commands, Admits ack' command)
    (pendingActions : List ActionCommand) : commands.foldl (queueAction ack) pendingActions =
      commands.foldl (queueAction ack') pendingActions := by
  have hopen : ∀ {ack command}, Admits ack command →
      ¬ (command.sequence ≤ ack ∨ command.sequence - ack > maxActionSequenceAhead) := by
    intro ack command hadmits hrefused
    rcases hrefused with hold | hahead
    · exact UInt32.not_le.2 hadmits.1 hold
    · exact UInt32.not_lt.2 hadmits.2 hahead
  apply List.foldl_ext
  intro pending command hcommand
  rw [queueAction, queueAction, if_neg (hopen (h command hcommand)),
    if_neg (hopen (h' command hcommand))]

/-- `SubmitInput` does the same to two seats that agree on the tick and on the commands, and they agree
on the last tick ever after. -/
theorem submitInput_stamp {input : Input} {t : Stamp}
    (htick : t.lastInputTick = s.lastInputTick ∨
      s.IsNext input ∧ (s.stamp t).IsNext input)
    (hcommands : t.ackedSequence = s.player.lastAckedActionSequence ∨
      ∀ command ∈ input.actions, Admits s.player.lastAckedActionSequence command ∧
        Admits t.ackedSequence command) :
    ∃ t' : Stamp, (s.stamp t).submitInput input = (s.submitInput input).stamp t' ∧
      t'.lastInputTick = (s.submitInput input).lastInputTick ∧ t'.ackedSequence = t.ackedSequence := by
  have hqueue : (input.actions.take maxPendingActions).foldl
      (queueAction t.ackedSequence) s.pendingActions =
      (input.actions.take maxPendingActions).foldl
        (queueAction s.player.lastAckedActionSequence) s.pendingActions := by
    rcases hcommands with heq | hadmits
    · rw [heq]
    · exact foldl_queueAction_of_admits
        (fun command hcommand => (hadmits command (List.mem_of_mem_take hcommand)).2)
        (fun command hcommand => (hadmits command (List.mem_of_mem_take hcommand)).1) _
  have hinside : ∀ {s : Seat}, s.IsNext input →
      ¬ (input.tick = 0 ∨ input.tick > s.lastInputTick + maxInputTickAdvance) := by
    intro s hnext hout
    rcases hout with hzero | hahead
    · rw [IsNext, hzero] at hnext
      exact absurd hnext.1 UInt32.not_lt_zero
    · exact UInt32.not_lt.2 hnext.2 hahead
  by_cases hrange : input.tick = 0 ∨ input.tick > s.lastInputTick + maxInputTickAdvance
  · rcases htick with heq | ⟨hnext, -⟩
    · have hstamped : (s.stamp t).submitInput input = s.stamp t :=
        if_pos (by rw [show (s.stamp t).lastInputTick = s.lastInputTick from heq]; exact hrange)
      have hplain : s.submitInput input = s := if_pos hrange
      exact ⟨t, by rw [hstamped, hplain], by rw [hplain, heq], rfl⟩
    · exact absurd hrange (hinside hnext)
  have hplain : s.submitInput input = { s.holdInput input with
      pendingActions := (input.actions.take maxPendingActions).foldl
        (queueAction s.player.lastAckedActionSequence) s.pendingActions } := if_neg hrange
  have hrange' : ¬ (input.tick = 0 ∨
      input.tick > (s.stamp t).lastInputTick + maxInputTickAdvance) := by
    rcases htick with heq | ⟨-, hnext⟩
    · rw [show (s.stamp t).lastInputTick = s.lastInputTick from heq]
      exact hrange
    · exact hinside hnext
  have hstamped : (s.stamp t).submitInput input = { (s.stamp t).holdInput input with
      pendingActions := (input.actions.take maxPendingActions).foldl
        (queueAction s.player.lastAckedActionSequence) s.pendingActions } := by
    rw [← hqueue]
    exact if_neg hrange'
  by_cases hnewer : input.tick > s.lastInputTick
  · have hnewer' : input.tick > (s.stamp t).lastInputTick := by
      rcases htick with heq | ⟨-, hnext⟩
      · rw [show (s.stamp t).lastInputTick = s.lastInputTick from heq]
        exact hnewer
      · exact hnext.1
    refine ⟨{ t with heldTick := input.tick, lastInputTick := input.tick }, ?_, ?_, rfl⟩
    · rw [hstamped, hplain, holdInput, holdInput, if_pos hnewer, if_pos hnewer']
      rfl
    · rw [hplain, holdInput, if_pos hnewer]
  · rcases htick with heq | ⟨hnext, -⟩
    · have hnewer' : ¬ input.tick > (s.stamp t).lastInputTick := by
        rw [show (s.stamp t).lastInputTick = s.lastInputTick from heq]
        exact hnewer
      refine ⟨t, ?_, ?_, rfl⟩
      · rw [hstamped, hplain, holdInput, holdInput, if_neg hnewer, if_neg hnewer']
        rfl
      · rw [hplain, holdInput, if_neg hnewer, heq]
    · exact absurd hnext.1 hnewer

end Seat

/-! ### The room -/

namespace Room

def stamp (t : Side → Stamp) (r : Room) : Room :=
  { r with seats := Pair.ofFn fun i => (r.seats.get i).stamp (t i) }

variable (t : Side → Stamp) (r : Room)

@[simp] theorem stamp_seat (i : Side) : (r.stamp t).seats.get i = (r.seats.get i).stamp (t i) :=
  Pair.get_ofFn _ _

theorem stepSeat_stamp (i : Side) : (r.stamp t).stepSeat i =
    (r.stepSeat i).stamp (Seat.acknowledged (t i) (r.seats.get i).pendingActions) := by
  have hdamage : (r.stamp t).stepDamage i = r.stepDamage i := by
    unfold stepDamage
    simp only [stamp_seat, show (r.stamp t).rules = r.rules from rfl,
      show (r.stamp t).tick = r.tick from rfl, Seat.toHits_stamp]
    rfl
  rw [stepSeat, hdamage, stamp_seat, show (r.stamp t).rules = r.rules from rfl,
    show (r.stamp t).tick = r.tick from rfl, Seat.toHits_stamp]
  unfold Seat.applyDamage
  rw [show (Seat.stamp _ _).player = PlayerState.stamp _ _ from rfl, PlayerState.applyDamage_stamp]
  rfl

theorem finishFromKO_stamp : (r.stamp t).finishFromKO = r.finishFromKO.stamp t := by
  by_cases halive : r.seats.a.player.hp > 0 ∧ r.seats.b.player.hp > 0
  · have hplain : r.finishFromKO = r := if_pos halive
    rw [hplain]
    exact if_pos halive
  · have hplain : r.finishFromKO =
        { r with status := .finished, finishReason := .ko, winnerID := r.koWinner } := if_neg halive
    rw [hplain]
    exact if_neg halive

theorem finish_stamp : (r.stamp t).finish = r.finish.stamp t := by
  unfold finish
  rw [finishFromKO_stamp]
  by_cases hlast : r.finishFromKO.status ≠ .finished ∧
      r.finishFromKO.activeTicks ≥ r.finishFromKO.rules.matchDurationTicks
  · rw [if_pos hlast]
    exact if_pos hlast
  · rw [if_neg hlast]
    exact if_neg hlast

def stepStamp (i : Side) : Stamp :=
  if r.status = .finished then t i
  else Seat.acknowledged (t i) (r.seats.get i).pendingActions

/-- Once the match is active, a step does the same whatever the numbers are. -/
theorem step_stamp (hcountdown : r.status ≠ .countdown) :
    (r.stamp t).step = r.step.stamp (r.stepStamp t) := by
  by_cases hfinished : r.status = .finished
  · have hstamped : (r.stamp t).status = .finished := hfinished
    have hsame : r.stepStamp t = t := by
      funext i
      exact if_pos hfinished
    rw [step_of_finished hstamped, step_of_finished hfinished, hsame]
  · have hmoved : r.stepStamp t = fun i =>
        Seat.acknowledged (t i) (r.seats.get i).pendingActions := by
      funext i
      exact if_neg hfinished
    have hstamped : (r.stamp t).status ≠ .finished := hfinished
    have hstamped' : (r.stamp t).status ≠ .countdown := hcountdown
    have hstruck : (r.stamp t).struck =
        r.struck.stamp fun i => Seat.acknowledged (t i) (r.seats.get i).pendingActions := by
      have hseats : (Pair.ofFn (r.stamp t).stepSeat) = Pair.ofFn fun i =>
          ((Pair.ofFn r.stepSeat).get i).stamp
            (Seat.acknowledged (t i) (r.seats.get i).pendingActions) := by
        apply Pair.ext_get
        intro i
        rw [Pair.get_ofFn, Pair.get_ofFn, Pair.get_ofFn, stepSeat_stamp]
      rw [struck, hseats]
      rfl
    rw [step_of_active hstamped hstamped', step_of_active hfinished hcountdown, hstruck,
      finish_stamp, hmoved]

@[simp] theorem stepStamp_lastInputTick (i : Side) :
    (r.stepStamp t i).lastInputTick = (t i).lastInputTick := by
  unfold stepStamp
  split_ifs <;> rfl

/-- A step that has a command to acknowledge leaves both seats with the same sequence. -/
theorem stepStamp_ackedSequence (hcountdown : r.status ≠ .countdown) (i : Side) :
    (r.stepStamp t i).ackedSequence = (r.step.seats.get i).player.lastAckedActionSequence ∨
      (r.stepStamp t i).ackedSequence = (t i).ackedSequence ∧
        (r.step.seats.get i).player.lastAckedActionSequence =
          (r.seats.get i).player.lastAckedActionSequence := by
  by_cases hfinished : r.status = .finished
  · rw [step_of_finished hfinished, stepStamp, if_pos hfinished]
    exact .inr ⟨rfl, rfl⟩
  · have hstep : r.step.seats.get i = r.stepSeat i := by
      rw [step_of_active hfinished hcountdown, finish_seats, struck, Pair.get_ofFn]
    rw [hstep, (r.stepSeat_fields i).2.2.1, stepStamp, if_neg hfinished]
    by_cases hpending : (r.seats.get i).pendingActions = []
    · rw [hpending]
      exact .inr ⟨rfl, rfl⟩
    · exact .inl (lastSequence_eq hpending _ _)

theorem submitInput_stamp_of_error {playerID : String} (input : Input) {err : RoomError}
    (h : r.playerIndex playerID = .error err) :
    ((r.stamp t).submitInput playerID input).1 = (r.submitInput playerID input).1.stamp t := by
  have hstamped : (r.stamp t).playerIndex playerID = .error err := h
  rw [submitInput_of_error input h, submitInput_of_error input hstamped]

theorem submitInput_stamp_of_ok {playerID : String} {input : Input} {index : Side}
    (h : r.playerIndex playerID = .ok index) {t' : Stamp}
    (hseat : ((r.seats.get index).stamp (t index)).submitInput input =
      ((r.seats.get index).submitInput input).stamp t') :
    ((r.stamp t).submitInput playerID input).1 =
      (r.submitInput playerID input).1.stamp (Function.update t index t') := by
  have hstamped : (r.stamp t).playerIndex playerID = .ok index := h
  have hseats : (r.stamp t).seats.set index (((r.stamp t).seats.get index).submitInput input) =
      Pair.ofFn fun i => ((r.seats.set index ((r.seats.get index).submitInput input)).get i).stamp
        (Function.update t index t' i) := by
    apply Pair.ext_get
    intro i
    rw [Pair.get_ofFn, Pair.get_set, Pair.get_set, stamp_seat]
    by_cases hi : i = index
    · subst hi
      rw [if_pos rfl, if_pos rfl, Function.update_self, hseat]
    · rw [if_neg hi, if_neg hi, Function.update_of_ne hi, stamp_seat]
  rw [submitInput_of_ok input h, submitInput_of_ok input hstamped, hseats]
  rfl

end Room

end PvpDuel.Simulation
