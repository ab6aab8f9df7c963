import PvpDuel.Lib.FixedWidth
import PvpDuel.Room.Actions

/-!
# Fairness of the two seats

Reflecting the arena in its vertical axis and exchanging the players maps runs to runs. Each phase of
a step commutes with the reflection of a seat; the hit test and the verdict commute with the exchange.
The only facts about numbers are that nothing near the arena's border is far enough to overflow.
-/

namespace PvpDuel.Simulation

/-! ### The reflection -/

def Input.mirror (input : Input) : Input := { input with moveX := -input.moveX }

def ActionFacing.mirror (facing : ActionFacing) : ActionFacing := { facing with x := -facing.x }

/-- A player on the other seat, whose ID stays with the seat. -/
def PlayerState.mirror (id : String) (player : PlayerState) : PlayerState :=
  { player with id, positionX := -player.positionX, facingX := -player.facingX }

def Seat.mirror (id : String) (s : Seat) : Seat :=
  { s with
    player := s.player.mirror id
    input := s.input.mirror
    attackFacing := s.attackFacing.mirror }

def exchange (first second id : String) : String :=
  if id = first then second else if id = second then first else id

def Event.mirror (playerA playerB : String) : Event → Event
  | .submitInput playerID input => .submitInput (exchange playerA playerB playerID) input.mirror
  | .step => .step

/-- The snapshot with the two slots exchanged, the IDs kept per slot and the arena reflected. -/
def Snapshot.mirror (view : Snapshot) : Snapshot :=
  { view with
    players := Pair.ofFn fun i => (view.players.get i.other).mirror (view.players.get i).id
    winnerID := exchange view.players.a.id view.players.b.id view.winnerID }

def Room.mirror (r : Room) : Room :=
  { r with
    seats := Pair.ofFn fun i => (r.seats.get i.other).mirror (r.seats.get i).player.id
    winnerID := exchange r.seats.a.player.id r.seats.b.player.id r.winnerID }

theorem Room.mirror_snapshot (r : Room) : r.mirror.snapshot = r.snapshot.mirror := by
  have hplayers : r.mirror.seats.map Seat.player = Pair.ofFn fun i =>
      ((r.seats.map Seat.player).get i.other).mirror ((r.seats.map Seat.player).get i).id := by
    apply Pair.ext_get
    intro i
    simp only [mirror, Pair.get_map, Pair.get_ofFn]
    rfl
  simp only [snapshot, Snapshot.mirror, hplayers]
  rfl

/-! ### Numbers -/

/-- A ruleset whose arena is symmetric and small enough for every sum of a step. -/
structure Ruleset.Symmetric (rules : Ruleset) : Prop where
  arena : rules.arena.minX = -rules.arena.maxX
  maxX_nonneg : 0 ≤ rules.arena.maxX.toInt
  maxX_le : rules.arena.maxX.toInt ≤ 2 ^ 28
  spawnX : rules.arena.spawnBX = -rules.arena.spawnAX
  spawnY : rules.arena.spawnBY = rules.arena.spawnAY
  spawnX_lo : -rules.arena.maxX.toInt ≤ rules.arena.spawnAX.toInt
  spawnX_hi : rules.arena.spawnAX.toInt ≤ rules.arena.maxX.toInt
  movement_nonneg : 0 ≤ rules.movementPerTick.toInt
  movement_le : rules.movementPerTick.toInt ≤ 2 ^ 28
  dash_nonneg : 0 ≤ rules.dash.dashDistance.toInt
  dash_le : rules.dash.dashDistance.toInt ≤ 2 ^ 28
  depth_nonneg : 0 ≤ rules.attackDepth.toInt
  depth_le : rules.attackDepth.toInt ≤ 2 ^ 28
  halfWidth_nonneg : 0 ≤ rules.attackHalfWidth.toInt
  halfWidth_le : rules.attackHalfWidth.toInt ≤ 2 ^ 28
  halfExtent_nonneg : 0 ≤ rules.playerHalfExtent.toInt
  halfExtent_le : rules.playerHalfExtent.toInt ≤ 2 ^ 28

def Ruleset.Inside (rules : Ruleset) (positionX : Int32) : Prop :=
  -rules.arena.maxX.toInt ≤ positionX.toInt ∧ positionX.toInt ≤ rules.arena.maxX.toInt

theorem IsAxis.neg {axis : Int8} (h : IsAxis axis) : IsAxis (-axis) := by
  rcases h with rfl | rfl | rfl
  · exact .inr (.inr rfl)
  · exact .inr (.inl rfl)
  · exact .inl rfl

theorem IsAxis.neg_toInt32 {axis : Int8} (h : IsAxis axis) : (-axis).toInt32 = -axis.toInt32 := by
  rcases h with rfl | rfl | rfl <;> rfl

theorem IsAxis.toInt_mul {axis : Int8} (h : IsAxis axis) (distance : Int32) :
    axis.toInt32 * distance = -distance ∨ axis.toInt32 * distance = 0 ∨
      axis.toInt32 * distance = distance := by
  rcases h with rfl | rfl | rfl
  · refine .inl ?_
    change -1 * distance = -distance
    rw [Int32.neg_mul, Int32.one_mul]
  · exact .inr (.inl Int32.zero_mul)
  · exact .inr (.inr (Int32.one_mul distance))

theorem clampPosition_mirror {position maximum : Int32} (hposition : -2 ^ 31 < position.toInt)
    (hmaximum : 0 ≤ maximum.toInt) : clampPosition (-position) (-maximum) maximum =
      -clampPosition position (-maximum) maximum := by
  have hhi := maximum.toInt_lt
  have hneg := FixedWidth.int32_toInt_neg hposition
  have hneg' := FixedWidth.int32_toInt_neg (x := maximum) (by omega)
  have hclamp : (clampPosition position (-maximum) maximum).toInt =
      min (max position.toInt (-maximum.toInt)) maximum.toInt := by
    rw [clampPosition, FixedWidth.int32_toInt_min, FixedWidth.int32_toInt_max, hneg']
  rw [← Int32.toInt_inj, FixedWidth.int32_toInt_neg (by rw [hclamp]; omega), hclamp, clampPosition,
    FixedWidth.int32_toInt_min, FixedWidth.int32_toInt_max, hneg, hneg']
  omega

theorem clampPosition_inside {rules : Ruleset} (h : rules.Symmetric) (position : Int32) :
    rules.Inside (clampPosition position rules.arena.minX rules.arena.maxX) := by
  have hhi := rules.arena.maxX.toInt_lt
  have hnonneg := h.maxX_nonneg
  have hneg := FixedWidth.int32_toInt_neg (x := rules.arena.maxX) (by omega)
  unfold Ruleset.Inside
  rw [h.arena, clampPosition, FixedWidth.int32_toInt_min, FixedWidth.int32_toInt_max, hneg]
  omega

theorem clampPosition_step_mirror {rules : Ruleset} (h : rules.Symmetric) {position : Int32}
    (hinside : rules.Inside position) {axis : Int8} (haxis : IsAxis axis) {distance : Int32}
    (hlo : 0 ≤ distance.toInt) (hhi : distance.toInt ≤ 2 ^ 28) :
    clampPosition (-position + (-axis).toInt32 * distance) rules.arena.minX rules.arena.maxX =
      -clampPosition (position + axis.toInt32 * distance) rules.arena.minX rules.arena.maxX := by
  have hmax := h.maxX_le
  obtain ⟨hmin, hle⟩ := hinside
  have hsum : -position + (-axis).toInt32 * distance = -(position + axis.toInt32 * distance) := by
    rw [haxis.neg_toInt32, Int32.neg_mul, Int32.neg_add, Int32.sub_eq_add_neg]
  have hrange : -2 ^ 31 < (position + axis.toInt32 * distance).toInt := by
    have hstep : -2 ^ 28 ≤ (axis.toInt32 * distance).toInt ∧
        (axis.toInt32 * distance).toInt ≤ 2 ^ 28 := by
      rcases haxis.toInt_mul distance with heq | heq | heq <;> rw [heq]
      · rw [FixedWidth.int32_toInt_neg (by omega)]
        omega
      · decide
      · omega
    rw [FixedWidth.int32_toInt_add (by omega) (by omega)]
    omega
  rw [hsum, h.arena]
  exact clampPosition_mirror hrange h.maxX_nonneg

theorem rangesOverlap_mirror {firstMin firstMax secondMin secondMax : Int32}
    (h₁ : -2 ^ 31 < firstMin.toInt) (h₂ : -2 ^ 31 < firstMax.toInt) (h₃ : -2 ^ 31 < secondMin.toInt)
    (h₄ : -2 ^ 31 < secondMax.toInt) :
    rangesOverlap (-firstMax) (-firstMin) (-secondMax) (-secondMin) =
      rangesOverlap firstMin firstMax secondMin secondMax := by
  unfold rangesOverlap
  simp only [Int32.le_iff_toInt_le, FixedWidth.int32_toInt_neg h₁, FixedWidth.int32_toInt_neg h₂,
    FixedWidth.int32_toInt_neg h₃, FixedWidth.int32_toInt_neg h₄, Int.neg_le_neg_iff]
  exact Bool.and_comm _ _

/-! ### The phases of one seat -/

theorem IsAxis.neg_eq_zero_iff {axis : Int8} (h : IsAxis axis) : -axis = 0 ↔ axis = 0 := by
  rcases h with rfl | rfl | rfl <;> decide

theorem IsAxis.absolute_neg {axis : Int8} (h : IsAxis axis) :
    absolute (-axis).toInt = absolute axis.toInt := by
  rcases h with rfl | rfl | rfl <;> rfl

namespace PlayerState

variable {rules : Ruleset} {input : Input}

theorem updateFacing_mirror (h : IsAxis input.moveX) (id : String) (player : PlayerState) :
    (player.mirror id).updateFacing input.mirror = (player.updateFacing input).mirror id := by
  unfold updateFacing Input.mirror
  simp only [h.neg_eq_zero_iff, h.absolute_neg]
  split_ifs
  · rfl
  · rfl
  · simp only [mirror, Int8.neg_zero]

theorem setLocomotionState_mirror (h : IsAxis input.moveX) (id : String) (player : PlayerState) :
    (player.mirror id).setLocomotionState input.mirror =
      (player.setLocomotionState input).mirror id := by
  unfold setLocomotionState Input.mirror mirror
  simp only [ne_eq, h.neg_eq_zero_iff]

theorem tickDown_mirror (id : String) (player : PlayerState) :
    (player.mirror id).tickDown = player.tickDown.mirror id := by
  unfold tickDown mirror
  dsimp only
  split_ifs <;> rfl

theorem enterNextPhase_mirror (h : IsAxis input.moveX) (rules : Ruleset) (id : String)
    (player : PlayerState) : (player.mirror id).enterNextPhase rules input.mirror =
      (player.enterNextPhase rules input).mirror id := by
  have hstate : (player.mirror id).actionState = player.actionState := rfl
  unfold enterNextPhase
  rw [hstate]
  cases player.actionState with
  | lightAttackWindup => rfl
  | lightAttackActive =>
      dsimp only
      split_ifs
      · rfl
      · exact setLocomotionState_mirror h id player
  | lightAttackRecovery => exact setLocomotionState_mirror h id player
  | dash => exact setLocomotionState_mirror h id player
  | hit => exact setLocomotionState_mirror h id player
  | idle => rfl
  | move => rfl
  | ko => rfl

theorem advanceActionState_mirror (h : IsAxis input.moveX) (rules : Ruleset) (id : String)
    (player : PlayerState) : (player.mirror id).advanceActionState rules input.mirror =
      (player.advanceActionState rules input).mirror id := by
  have hstate : (player.mirror id).actionState = player.actionState := rfl
  have hloc : (player.mirror id).inLocomotion = player.inLocomotion := rfl
  have hremaining : (player.tickDown.mirror id).actionTicksRemaining =
      player.tickDown.actionTicksRemaining := rfl
  unfold advanceActionState
  rw [hstate, hloc, tickDown_mirror, hremaining, enterNextPhase_mirror h]
  split_ifs <;> rfl

theorem move_mirror (hrules : rules.Symmetric) (h : IsAxis input.moveX) (id : String)
    {player : PlayerState} (hinside : rules.Inside player.positionX) :
    (player.mirror id).move rules input.mirror = (player.move rules input).mirror id := by
  have hx := clampPosition_step_mirror hrules hinside h hrules.movement_nonneg hrules.movement_le
  unfold move mirror Input.mirror
  simp only [hx]

theorem applyMovement_mirror (hrules : rules.Symmetric) (h : IsAxis input.moveX) (id : String)
    {player : PlayerState} (hinside : rules.Inside player.positionX) :
    (player.mirror id).applyMovement rules input.mirror =
      (player.applyMovement rules input).mirror id := by
  let acked : PlayerState := { player with lastAckedInputTick := input.tick }
  have hposition : (acked.updateFacing input).positionX = player.positionX := by
    unfold updateFacing
    split_ifs <;> rfl
  by_cases hstopped : player.hp ≤ 0 ∨ player.actionState = .dash ∨ player.actionState = .hit ∨
      player.actionState = .ko
  · have heq : player.applyMovement rules input = acked := if_pos hstopped
    have heq' : (player.mirror id).applyMovement rules input.mirror = acked.mirror id :=
      if_pos hstopped
    rw [heq, heq']
  by_cases hloc : player.inLocomotion = true
  · have heq : player.applyMovement rules input =
        ((acked.updateFacing input).move rules input).setLocomotionState input :=
      (if_neg hstopped).trans (if_pos hloc)
    have heq' : (player.mirror id).applyMovement rules input.mirror =
        (((acked.mirror id).updateFacing input.mirror).move rules
          input.mirror).setLocomotionState input.mirror :=
      (if_neg hstopped).trans (if_pos hloc)
    rw [heq, heq', updateFacing_mirror h, move_mirror hrules h id (by rwa [hposition]),
      setLocomotionState_mirror h]
  · have heq : player.applyMovement rules input = acked.move rules input :=
      (if_neg hstopped).trans (if_neg hloc)
    have heq' : (player.mirror id).applyMovement rules input.mirror =
        (acked.mirror id).move rules input.mirror :=
      (if_neg hstopped).trans (if_neg hloc)
    have hinside' : rules.Inside acked.positionX := hinside
    rw [heq, heq', move_mirror hrules h id hinside']

theorem applyDamage_mirror (tick : UInt32) (damage : Int32) (id : String) (player : PlayerState) :
    (player.mirror id).applyDamage tick damage = (player.applyDamage tick damage).mirror id := by
  unfold applyDamage
  split_ifs <;> rfl

end PlayerState

namespace Seat

/-- What the reflection asks of a seat: unit axes and a position inside the arena. -/
structure Reflectable (rules : Ruleset) (s : Seat) : Prop where
  axisX : IsAxis s.input.moveX
  facingX : IsAxis s.player.facingX
  attackX : IsAxis s.attackFacing.x
  inside : rules.Inside s.player.positionX

variable {rules : Ruleset} {s : Seat}

theorem Reflectable.submitInput (h : s.Reflectable rules) (input : Input) :
    (s.submitInput input).Reflectable rules := by
  rcases s.submitInput_cases input with heq | ⟨_, heq⟩ | ⟨_, -, heq⟩ <;> rw [heq]
  · exact h
  · exact ⟨h.axisX, h.facingX, h.attackX, h.inside⟩
  · exact ⟨clampAxis_isAxis _, h.facingX, h.attackX, h.inside⟩

theorem submitInput_mirror {input : Input} (hx : IsAxis input.moveX) (id : String) (s : Seat) :
    (s.mirror id).submitInput input.mirror = (s.submitInput input).mirror id := by
  have hclamp : clampAxis (-input.moveX) = -clampAxis input.moveX := by
    rw [hx.clampAxis_eq, hx.neg.clampAxis_eq]
  have hlast : (s.mirror id).lastInputTick = s.lastInputTick := rfl
  have hhold : (s.mirror id).holdInput input.mirror = (s.holdInput input).mirror id := by
    unfold holdInput
    rw [hlast]
    change (if input.tick > s.lastInputTick then _ else _) = _
    split_ifs
    · simp only [Input.mirror, hclamp]
      rfl
    · rfl
  unfold submitInput
  rw [hhold, hlast]
  change (if input.tick = 0 ∨ input.tick > s.lastInputTick + maxInputTickAdvance then _ else _) = _
  split_ifs <;> rfl

theorem beforeActions_mirror (hrules : rules.Symmetric) (h : s.Reflectable rules) (id : String) :
    (s.mirror id).beforeActions rules = (s.beforeActions rules).mirror id := by
  obtain ⟨_, _, _, heq⟩ := s.player.advanceActionState_eq rules s.input
  have hinside : rules.Inside (s.player.advanceActionState rules s.input).positionX := by
    rw [heq]
    exact h.inside
  have hplayer : ((s.player.mirror id).advanceActionState rules s.input.mirror).applyMovement rules
      s.input.mirror =
        ((s.player.advanceActionState rules s.input).applyMovement rules s.input).mirror id := by
    rw [PlayerState.advanceActionState_mirror h.axisX,
      PlayerState.applyMovement_mirror hrules h.axisX id hinside]
  unfold beforeActions advanceActionState applyMovement mirror
  simp only [hplayer]

theorem Reflectable.beforeActions (hrules : rules.Symmetric) (h : s.Reflectable rules) :
    (s.beforeActions rules).Reflectable rules := by
  obtain ⟨_, _, _, heq⟩ := s.player.advanceActionState_eq rules s.input
  have hmoved : ∀ player : PlayerState, IsAxis player.facingX → rules.Inside player.positionX →
      IsAxis (player.applyMovement rules s.input).facingX ∧
        rules.Inside (player.applyMovement rules s.input).positionX := by
    intro player hfacing hinside
    unfold PlayerState.applyMovement PlayerState.updateFacing
    dsimp only
    split_ifs
    · exact ⟨hfacing, hinside⟩
    · exact ⟨hfacing, clampPosition_inside hrules _⟩
    · exact ⟨h.axisX, clampPosition_inside hrules _⟩
    · exact ⟨.inr (.inl rfl), clampPosition_inside hrules _⟩
    · exact ⟨hfacing, clampPosition_inside hrules _⟩
  obtain ⟨hfacing, hinside⟩ := hmoved (s.player.advanceActionState rules s.input)
    (by rw [heq]; exact h.facingX) (by rw [heq]; exact h.inside)
  exact ⟨h.axisX, hfacing, h.attackX, hinside⟩

theorem startDash_mirror (hrules : rules.Symmetric) (h : s.Reflectable rules) (tick : UInt32)
    (id : String) : (s.mirror id).startDash rules tick = (s.startDash rules tick).mirror id := by
  have hx := clampPosition_step_mirror hrules h.inside h.facingX hrules.dash_nonneg hrules.dash_le
  unfold startDash mirror PlayerState.mirror
  simp only [hx]

/-- One command commutes with the reflection and keeps the seat reflectable. -/
theorem processAction_mirror (hrules : rules.Symmetric) (h : s.Reflectable rules) (tick : UInt32)
    (id : String) (command : ActionCommand) :
    (s.mirror id).processAction rules tick command =
      (s.processAction rules tick command).mirror id ∧
    (s.processAction rules tick command).Reflectable rules := by
  have hack : (s.mirror id).acknowledge command = (s.acknowledge command).mirror id := rfl
  have hsafe : (s.acknowledge command).Reflectable rules :=
    ⟨h.axisX, h.facingX, h.attackX, h.inside⟩
  unfold processAction
  rw [hack]
  generalize s.acknowledge command = s at hsafe
  have hstart : (s.mirror id).player.canStartAction = s.player.canStartAction := rfl
  cases command.type with
  | unspecified => exact ⟨rfl, hsafe⟩
  | dash =>
      have hready : (s.mirror id).nextDashTick = s.nextDashTick := rfl
      dsimp only [tryDash]
      rw [hstart, hready, startDash_mirror hrules hsafe]
      split_ifs
      · exact ⟨rfl, hsafe⟩
      · exact ⟨rfl, hsafe.axisX, hsafe.facingX, hsafe.attackX, clampPosition_inside hrules _⟩
  | lightAttack =>
      have hready : (s.mirror id).nextAttackTick = s.nextAttackTick := rfl
      dsimp only [tryLightAttack]
      rw [hstart, hready]
      split_ifs
      · exact ⟨rfl, hsafe⟩
      · exact ⟨rfl, hsafe.axisX, hsafe.facingX, hsafe.facingX, hsafe.inside⟩

theorem processActions_mirror (hrules : rules.Symmetric) (h : s.Reflectable rules) (tick : UInt32)
    (id : String) :
    (s.mirror id).processActions rules tick = (s.processActions rules tick).mirror id ∧
      (s.processActions rules tick).Reflectable rules := by
  have hfold : ∀ (commands : List ActionCommand) (s : Seat), s.Reflectable rules →
      commands.foldl (processAction rules tick) (s.mirror id) =
        (commands.foldl (processAction rules tick) s).mirror id ∧
      (commands.foldl (processAction rules tick) s).Reflectable rules := by
    intro commands
    induction commands with
    | nil => exact fun s h => ⟨rfl, h⟩
    | cons command commands ih =>
        intro s h
        obtain ⟨heq, hsafe⟩ := processAction_mirror hrules h tick id command
        rw [List.foldl_cons, List.foldl_cons, heq]
        exact ih _ hsafe
  obtain ⟨heq, hsafe⟩ := hfold s.pendingActions s h
  refine ⟨?_, hsafe.axisX, hsafe.facingX, hsafe.attackX, hsafe.inside⟩
  unfold processActions
  change { s.pendingActions.foldl (processAction rules tick) (s.mirror id) with
    pendingActions := [] } = _
  rw [heq]
  rfl

theorem toHits_mirror (hrules : rules.Symmetric) (h : s.Reflectable rules) (tick : UInt32)
    (id : String) : (s.mirror id).toHits rules tick = (s.toHits rules tick).mirror id ∧
      (s.toHits rules tick).Reflectable rules := by
  obtain ⟨heq, hsafe⟩ := processActions_mirror hrules (h.beforeActions hrules) tick id
  rw [toHits_eq, toHits_eq, beforeActions_mirror hrules h, heq]
  exact ⟨rfl, hsafe⟩

end Seat

/-! ### The hit test -/

theorem hitbox_mirror {rules : Ruleset} (hrules : rules.Symmetric) {attackerX targetX : Int32}
    (hattacker : rules.Inside attackerX) (htarget : rules.Inside targetX) {before after : Int32}
    (hbefore : 0 ≤ before.toInt ∧ before.toInt ≤ 2 ^ 28)
    (hafter : 0 ≤ after.toInt ∧ after.toInt ≤ 2 ^ 28) :
    rangesOverlap (-attackerX - after) (-attackerX + before) (-targetX - rules.playerHalfExtent)
        (-targetX + rules.playerHalfExtent) =
      rangesOverlap (attackerX - before) (attackerX + after) (targetX - rules.playerHalfExtent)
        (targetX + rules.playerHalfExtent) := by
  obtain ⟨hlo, hhi⟩ := hattacker
  obtain ⟨hlo', hhi'⟩ := htarget
  have hmax := hrules.maxX_le
  have hext := hrules.halfExtent_nonneg
  have hext' := hrules.halfExtent_le
  have hneg : ∀ x y : Int32, -x - y = -(x + y) := fun x y => Int32.neg_add.symm
  have hneg' : ∀ x y : Int32, -x + y = -(x - y) := by
    intro x y
    rw [Int32.neg_sub, Int32.add_comm, Int32.sub_eq_add_neg]
  rw [hneg, hneg', hneg, hneg']
  apply rangesOverlap_mirror
  · rw [FixedWidth.int32_toInt_sub (by omega) (by omega)]
    omega
  · rw [FixedWidth.int32_toInt_add (by omega) (by omega)]
    omega
  · rw [FixedWidth.int32_toInt_sub (by omega) (by omega)]
    omega
  · rw [FixedWidth.int32_toInt_add (by omega) (by omega)]
    omega

theorem attackHitboxIntersects_mirror {rules : Ruleset} (hrules : rules.Symmetric)
    {attacker target : PlayerState} (hattacker : rules.Inside attacker.positionX)
    (htarget : rules.Inside target.positionX) {facing : ActionFacing} (hfacing : IsAxis facing.x)
    (id id' : String) :
    attackHitboxIntersects (attacker.mirror id) (target.mirror id') facing.mirror rules =
      attackHitboxIntersects attacker target facing rules := by
  have hzero : (0 : Int) ≤ (0 : Int32).toInt ∧ (0 : Int32).toInt ≤ 2 ^ 28 := by decide
  have hforward := hitbox_mirror hrules hattacker htarget hzero
    ⟨hrules.depth_nonneg, hrules.depth_le⟩
  have hbackward := hitbox_mirror hrules hattacker htarget
    ⟨hrules.depth_nonneg, hrules.depth_le⟩ hzero
  have hacross := hitbox_mirror hrules hattacker htarget
    ⟨hrules.halfWidth_nonneg, hrules.halfWidth_le⟩ ⟨hrules.halfWidth_nonneg, hrules.halfWidth_le⟩
  simp only [Int32.sub_zero, Int32.add_zero] at hforward hbackward
  unfold attackHitboxIntersects
  dsimp only [PlayerState.mirror, ActionFacing.mirror]
  rcases hfacing with hx | hx | hx
  · have hleft : facing.x < 0 := by rw [hx]; decide
    have hright : ¬ facing.x > 0 := by rw [hx]; decide
    have hright' : -facing.x > 0 := by rw [hx]; decide
    simp only [hright', hright, hleft, if_true, if_false, hbackward]
  · have hleft : ¬ facing.x < 0 := by rw [hx]; decide
    have hright : ¬ facing.x > 0 := by rw [hx]; decide
    have hleft' : ¬ -facing.x < 0 := by rw [hx]; decide
    have hright' : ¬ -facing.x > 0 := by rw [hx]; decide
    simp only [hright', hleft', hright, hleft, if_false, hacross]
  · have hright : facing.x > 0 := by rw [hx]; decide
    have hleft' : -facing.x < 0 := by rw [hx]; decide
    have hright' : ¬ -facing.x > 0 := by rw [hx]; decide
    simp only [hright', hleft', hright, if_true, if_false, hforward]

theorem Seat.hits_mirror {rules : Ruleset} (hrules : rules.Symmetric) {attacker target : Seat}
    (hattacker : attacker.Reflectable rules) (htarget : target.Reflectable rules) (id id' : String) :
    hits rules (attacker.mirror id) (target.mirror id') = hits rules attacker target := by
  unfold hits
  exact congrArg (_ && ·) (attackHitboxIntersects_mirror hrules hattacker.inside htarget.inside
    hattacker.attackX id id')

/-! ### The room -/

theorem exchange_first (first second : String) : exchange first second first = second := if_pos rfl

theorem exchange_second (first second : String) : exchange first second second = first := by
  unfold exchange
  by_cases h : second = first
  · rw [if_pos h]
    exact h
  · rw [if_neg h, if_pos rfl]

namespace Room

structure Reflectable (r : Room) : Prop where
  rules : r.rules.Symmetric
  seats : ∀ i, (r.seats.get i).Reflectable r.rules
  distinct : r.seats.a.player.id ≠ r.seats.b.player.id

@[simp] theorem mirror_seat (r : Room) (i : Side) :
    r.mirror.seats.get i = (r.seats.get i.other).mirror (r.seats.get i).player.id :=
  Pair.get_ofFn _ i

theorem mirror_seat_id (r : Room) (i : Side) :
    (r.mirror.seats.get i).player.id = (r.seats.get i).player.id := by
  rw [mirror_seat]
  rfl

variable {r : Room}

theorem playerIndex_mirror (h : r.Reflectable) (playerID : String) :
    r.mirror.playerIndex (exchange r.seats.a.player.id r.seats.b.player.id playerID) =
      match r.playerIndex playerID with
      | .ok i => .ok i.other
      | .error _ => .error (.unknownPlayer playerID) := by
  have ha : r.mirror.seats.a.player.id = r.seats.a.player.id := r.mirror_seat_id .a
  have hb : r.mirror.seats.b.player.id = r.seats.b.player.id := r.mirror_seat_id .b
  have hne := h.distinct
  unfold playerIndex exchange
  rw [ha, hb]
  by_cases hA : r.seats.a.player.id = playerID
  · rw [if_pos hA.symm, if_pos hA, if_neg hne, if_pos rfl]
    rfl
  · by_cases hB : r.seats.b.player.id = playerID
    · rw [if_neg (Ne.symm hA), if_pos hB.symm, if_pos rfl, if_neg hA, if_pos hB]
      rfl
    · rw [if_neg (Ne.symm hA), if_neg (Ne.symm hB), if_neg hA, if_neg hB]

theorem submitInput_mirror (h : r.Reflectable) (playerID : String) {input : Input}
    (hx : IsAxis input.moveX) :
    (r.mirror.submitInput (exchange r.seats.a.player.id r.seats.b.player.id playerID)
      input.mirror).1 = (r.submitInput playerID input).1.mirror := by
  have hindex := playerIndex_mirror h playerID
  cases hfound : r.playerIndex playerID with
  | error err =>
      rw [hfound] at hindex
      rw [submitInput_of_error input hfound, submitInput_of_error input.mirror hindex]
  | ok i =>
      rw [hfound] at hindex
      rw [submitInput_of_ok input hfound, submitInput_of_ok input.mirror hindex]
      have hids : ∀ j, ((r.seats.set i ((r.seats.get i).submitInput input)).get j).player.id =
          (r.seats.get j).player.id := by
        intro j
        rw [Pair.get_set]
        split_ifs with hj
        · subst j
          rw [Seat.submitInput_player]
        · rfl
      have hseats : r.mirror.seats.set i.other ((r.mirror.seats.get i.other).submitInput
          input.mirror) = Pair.ofFn fun j =>
            ((r.seats.set i ((r.seats.get i).submitInput input)).get j.other).mirror
              ((r.seats.set i ((r.seats.get i).submitInput input)).get j).player.id := by
        apply Pair.ext_get
        intro j
        rw [Pair.get_ofFn, hids]
        rcases Side.eq_or_eq_other i j with rfl | rfl
        · rw [Pair.get_set_of_ne _ _ (Side.other_ne j).symm, mirror_seat, Pair.get_set_other]
        · rw [Pair.get_set_self, mirror_seat, Side.other_other, Pair.get_set_self,
            Seat.submitInput_mirror hx]
      have ha := hids .a
      have hb := hids .b
      simp only [Pair.get_a, Pair.get_b] at ha hb
      simp only [mirror] at hseats ⊢
      rw [hseats, ha, hb]

theorem Reflectable.submitInput (h : r.Reflectable) (playerID : String) (input : Input) :
    (r.submitInput playerID input).1.Reflectable := by
  refine ⟨?_, fun i => ?_, ?_⟩
  · rw [submitInput_rules]
    exact h.rules
  · rw [submitInput_rules]
    rcases r.seat_submitInput playerID input i with hseat | hseat <;> rw [hseat]
    · exact h.seats i
    · exact (h.seats i).submitInput input
  · have ha := r.submitInput_id playerID input .a
    have hb := r.submitInput_id playerID input .b
    simp only [Pair.get_a, Pair.get_b] at ha hb
    rw [ha, hb]
    exact h.distinct

/-- Up to the hits, the seats of the mirrored room are the mirrored seats. -/
theorem toHits_mirror (h : r.Reflectable) (i : Side) :
    (r.mirror.seats.get i).toHits r.mirror.rules (r.mirror.tick + 1) =
      ((r.seats.get i.other).toHits r.rules (r.tick + 1)).mirror (r.seats.get i).player.id := by
  rw [mirror_seat]
  exact (Seat.toHits_mirror h.rules (h.seats i.other) (r.tick + 1) _).1

theorem Reflectable.toHits (h : r.Reflectable) (i : Side) :
    ((r.seats.get i).toHits r.rules (r.tick + 1)).Reflectable r.rules :=
  (Seat.toHits_mirror h.rules (h.seats i) (r.tick + 1) "").2

theorem stepDamage_mirror (h : r.Reflectable) (i : Side) :
    r.mirror.stepDamage i = r.stepDamage i.other := by
  unfold stepDamage
  rw [toHits_mirror h, toHits_mirror h, Side.other_other]
  change (if Seat.hits r.rules _ _ then r.rules.lightAttack.damage else 0) = _
  rw [Seat.hits_mirror h.rules (h.toHits i) (h.toHits i.other)]

theorem stepSeat_mirror (h : r.Reflectable) (i : Side) :
    r.mirror.stepSeat i = (r.stepSeat i.other).mirror (r.seats.get i).player.id := by
  unfold stepSeat
  rw [toHits_mirror h, stepDamage_mirror h]
  unfold Seat.applyDamage
  dsimp only [Seat.mirror]
  rw [PlayerState.applyDamage_mirror]
  rfl

theorem struck_id (r : Room) (i : Side) :
    (r.struck.seats.get i).player.id = (r.seats.get i).player.id := by
  rw [struck, Pair.get_ofFn]
  exact (r.stepSeat_fields i).1

theorem struck_mirror (h : r.Reflectable) : r.mirror.struck = r.struck.mirror := by
  have hseats : Pair.ofFn r.mirror.stepSeat = Pair.ofFn fun i =>
      (r.struck.seats.get i.other).mirror (r.struck.seats.get i).player.id := by
    apply Pair.ext_get
    intro i
    rw [Pair.get_ofFn, Pair.get_ofFn, stepSeat_mirror h, struck_id, struck, Pair.get_ofFn]
  have ha := r.struck_id .a
  have hb := r.struck_id .b
  simp only [Pair.get_a, Pair.get_b] at ha hb
  unfold struck at hseats ha hb ⊢
  simp only [mirror] at hseats ⊢
  rw [hseats, ha, hb]

theorem finish_mirror (r : Room) (hs : r.status ≠ .finished) : r.mirror.finish = r.finish.mirror := by
  have hhp : ∀ i, (r.mirror.seats.get i).player.hp = (r.seats.get i.other).player.hp := by
    intro i
    rw [mirror_seat]
    rfl
  have hida : r.mirror.seats.a.player.id = r.seats.a.player.id := r.mirror_seat_id .a
  have hidb : r.mirror.seats.b.player.id = r.seats.b.player.id := r.mirror_seat_id .b
  have hhpa : r.mirror.seats.a.player.hp = r.seats.b.player.hp := hhp .a
  have hhpb : r.mirror.seats.b.player.hp = r.seats.a.player.hp := hhp .b
  have hwinner : r.mirror.winnerID =
      exchange r.seats.a.player.id r.seats.b.player.id r.winnerID := rfl
  have halive : r.mirror.BothAlive ↔ r.BothAlive := by
    rw [bothAlive_iff, bothAlive_iff, hhpa, hhpb]
    exact And.comm
  by_cases hbs : r.BothAlive
  · by_cases hend : r.activeTicks < r.rules.matchDurationTicks
    · rw [finish_of_ongoing hbs hend, finish_of_ongoing (halive.2 hbs) hend]
    · have hend' := UInt32.not_lt.1 hend
      have hverdict : r.mirror.timeLimitWinner =
          exchange r.seats.a.player.id r.seats.b.player.id r.timeLimitWinner := by
        unfold timeLimitWinner
        rw [hhpa, hhpb, hida, hidb, hwinner]
        by_cases hab : r.seats.a.player.hp > r.seats.b.player.hp
        · have hba : ¬ r.seats.b.player.hp > r.seats.a.player.hp :=
            Int32.not_lt.2 (Int32.le_of_lt hab)
          rw [if_neg hba, if_pos hab, if_pos hab, exchange_first]
        · rw [if_neg hab, if_neg hab]
          split_ifs
          · rw [exchange_second]
          · rfl
      rw [finish_of_timeLimit hbs hs hend', finish_of_timeLimit (halive.2 hbs) hs hend', hverdict]
      rfl
  · have hverdict : r.mirror.koWinner =
        exchange r.seats.a.player.id r.seats.b.player.id r.koWinner := by
      rw [bothAlive_iff] at hbs
      unfold koWinner
      rw [hhpa, hhpb, hida, hidb, hwinner]
      by_cases ha : r.seats.a.player.hp > 0
      · rw [if_neg fun hb => hbs ⟨ha, hb⟩, if_pos ha, if_pos ha, exchange_first]
      · rw [if_neg ha, if_neg ha]
        split_ifs
        · rw [exchange_second]
        · rfl
    rw [finish_of_ko hbs, finish_of_ko (mt halive.1 hbs), hverdict]
    rfl

/-- A loop over the seats that commutes with their reflection commutes with the room's. -/
theorem map_mirror {f : Seat → Seat} (hf : ∀ id s, f (s.mirror id) = (f s).mirror id)
    (hid : ∀ s, (f s).player.id = s.player.id) (r : Room) (tick : UInt32) (status : MatchStatus) :
    ({ r.mirror with tick, status, seats := r.mirror.seats.map f } : Room) =
      ({ r with tick, status, seats := r.seats.map f } : Room).mirror := by
  have hseats : r.mirror.seats.map f = Pair.ofFn fun i =>
      ((r.seats.map f).get i.other).mirror ((r.seats.map f).get i).player.id := by
    apply Pair.ext_get
    intro i
    rw [Pair.get_map, Pair.get_ofFn, Pair.get_map, Pair.get_map, mirror_seat, hf, hid]
  have ha : (r.seats.map f).a.player.id = r.seats.a.player.id := hid _
  have hb : (r.seats.map f).b.player.id = r.seats.b.player.id := hid _
  rw [hseats]
  simp only [mirror, ha, hb]

theorem step_mirror (h : r.Reflectable) : r.mirror.step = r.step.mirror := by
  by_cases hf : r.status = .finished
  · have hf' : r.mirror.status = .finished := hf
    rw [step_of_finished hf, step_of_finished hf']
  by_cases hc : r.status = .countdown
  · have hc' : r.mirror.status = .countdown := hc
    have hack : ∀ id s, (Seat.mirror id s).acknowledgeRejectedActions =
        s.acknowledgeRejectedActions.mirror id := by
      intro id s
      rw [Seat.acknowledgeRejectedActions_eq, Seat.acknowledgeRejectedActions_eq]
      rfl
    have hack' : ∀ s : Seat, s.acknowledgeRejectedActions.player.id = s.player.id := by
      intro s
      rw [Seat.acknowledgeRejectedActions_eq]
      rfl
    by_cases ht : r.tick + 1 < r.rules.countdownTicks
    · rw [step_of_counting hc ht, step_of_counting hc' ht]
      exact map_mirror hack hack' r _ _
    · have ht' := UInt32.not_lt.1 ht
      rw [step_of_activating hc ht', step_of_activating hc' ht']
      refine map_mirror (f := fun s => s.acknowledgeRejectedActions.activate (r.tick + 1))
        (fun id s => ?_) hack' r _ _
      rw [hack]
      simp only [Seat.activate, Seat.mirror, Input.mirror, Int8.neg_zero]
  · have hc' : r.mirror.status ≠ .countdown := hc
    have hf' : r.mirror.status ≠ .finished := hf
    rw [step_of_active hf hc, step_of_active hf' hc', struck_mirror h]
    exact finish_mirror r.struck hf

theorem Reflectable.step (h : r.Reflectable) : r.step.Reflectable := by
  refine ⟨by rw [step_rules]; exact h.rules, fun i => ?_, ?_⟩
  · rw [step_rules]
    rcases r.seat_step i with ⟨-, hseat⟩ | ⟨-, hseat⟩ | ⟨-, hseat⟩ | ⟨-, -, hseat⟩ <;> rw [hseat]
    · exact h.seats i
    · rw [Seat.acknowledgeRejectedActions_eq]
      exact ⟨(h.seats i).axisX, (h.seats i).facingX, (h.seats i).attackX, (h.seats i).inside⟩
    · rw [Seat.acknowledgeRejectedActions_eq]
      exact ⟨.inr (.inl rfl), (h.seats i).facingX, (h.seats i).attackX, (h.seats i).inside⟩
    · obtain ⟨_, _, _, _, heq⟩ := ((r.seats.get i).toHits r.rules (r.tick + 1)).player.applyDamage_eq
        (r.tick + 1) (r.stepDamage i)
      have hhits := h.toHits i
      rw [stepSeat, Seat.applyDamage, heq]
      exact ⟨hhits.axisX, hhits.facingX, hhits.attackX, hhits.inside⟩
  · have ha := r.step_id .a
    have hb := r.step_id .b
    simp only [Pair.get_a, Pair.get_b] at ha hb
    rw [ha, hb]
    exact h.distinct

theorem run_mirror (h : r.Reflectable) (events : List Event)
    (hclamped : ∀ playerID input, Event.submitInput playerID input ∈ events →
      IsAxis input.moveX) :
    r.mirror.run (events.map (Event.mirror r.seats.a.player.id r.seats.b.player.id)) =
      (r.run events).mirror := by
  induction events generalizing r with
  | nil => rfl
  | cons event events ih =>
      have hrest : ∀ playerID input, Event.submitInput playerID input ∈ events →
          IsAxis input.moveX := fun playerID input hin => hclamped playerID input
        (List.mem_cons_of_mem _ hin)
      rw [List.map_cons, run_cons, run_cons]
      cases event with
      | submitInput playerID input =>
          have ha := r.submitInput_id playerID input .a
          have hb := r.submitInput_id playerID input .b
          simp only [Pair.get_a, Pair.get_b] at ha hb
          have hnext := ih (h.submitInput playerID input) hrest
          rw [ha, hb] at hnext
          rw [← submitInput_mirror h playerID (hclamped playerID input List.mem_cons_self)] at hnext
          exact hnext
      | step =>
          have ha := r.step_id .a
          have hb := r.step_id .b
          simp only [Pair.get_a, Pair.get_b] at ha hb
          have hnext := ih h.step hrest
          rw [ha, hb, ← step_mirror h] at hnext
          exact hnext

end Room

theorem arenaRuleset_symmetric (arenaID : String) : (arenaRuleset arenaID).Symmetric := by
  constructor <;> dsimp only [arenaRuleset] <;> decide

theorem initialRoom_reflectable {playerA playerB : String} (hne : playerA ≠ playerB)
    {rules : Ruleset} (h : rules.Symmetric) : (initialRoom playerA playerB rules).Reflectable := by
  have hnonneg := h.maxX_nonneg
  have hhi := rules.arena.maxX.toInt_lt
  have hlo := h.spawnX_lo
  have hle := h.spawnX_hi
  refine ⟨h, fun i => ?_, hne⟩
  cases i
  · exact ⟨.inr (.inl rfl), .inr (.inr rfl), .inr (.inl rfl), hlo, hle⟩
  · refine ⟨.inr (.inl rfl), .inl rfl, .inr (.inl rfl), ?_⟩
    change rules.Inside rules.arena.spawnBX
    rw [h.spawnX, Ruleset.Inside, FixedWidth.int32_toInt_neg (by omega)]
    omega

theorem initialRoom_mirror {playerA playerB : String} (ha : playerA ≠ "") (hb : playerB ≠ "")
    {rules : Ruleset} (h : rules.Symmetric) :
    (initialRoom playerA playerB rules).mirror = initialRoom playerA playerB rules := by
  have hwinner : exchange playerA playerB "" = "" := by
    rw [exchange, if_neg (Ne.symm ha), if_neg (Ne.symm hb)]
  have hspawn : -rules.arena.spawnBX = rules.arena.spawnAX := by
    rw [h.spawnX, Int32.neg_neg]
  have hseat : ∀ id id' x y hp facingX, (newSeat id x y hp facingX).mirror id' =
      newSeat id' (-x) y hp (-facingX) := by
    intro id id' x y hp facingX
    simp only [newSeat, Seat.mirror, PlayerState.mirror, Input.mirror, ActionFacing.mirror,
      Int8.neg_zero]
  have hseats : (initialRoom playerA playerB rules).mirror.seats =
      (initialRoom playerA playerB rules).seats := by
    apply Pair.ext_get
    intro i
    rw [Room.mirror_seat]
    cases i
    · change (newSeat playerB _ _ _ (-1)).mirror playerA = _
      rw [hseat, hspawn, h.spawnY, Int8.neg_neg]
      rfl
    · change (newSeat playerA _ _ _ 1).mirror playerB = _
      rw [hseat, ← h.spawnX, ← h.spawnY]
      rfl
  simp only [Room.mirror] at hseats ⊢
  rw [hseats]
  exact congrArg (fun winnerID => { initialRoom playerA playerB rules with winnerID }) hwinner

/-- The two seats are fair: exchanging the players and reflecting their movement in every call of a
run exchanges and reflects the players of every snapshot and changes nothing else. -/
theorem seats_fair {playerA playerB arenaID : String} {r₀ : Room}
    (hnew : newWithRuleset playerA playerB (arenaRuleset arenaID) = .ok r₀) (events : List Event)
    (hclamped : ∀ playerID input, Event.submitInput playerID input ∈ events →
      IsAxis input.moveX ∧ IsAxis input.moveY) :
    (r₀.run (events.map (Event.mirror playerA playerB))).snapshot =
      (r₀.run events).snapshot.mirror := by
  obtain ⟨ha, hb, hne, -, rfl⟩ := newWithRuleset_ok hnew
  have hsymmetric := arenaRuleset_symmetric arenaID
  have hrun := Room.run_mirror (initialRoom_reflectable hne hsymmetric) events
    fun playerID input hin => (hclamped playerID input hin).1
  rw [initialRoom_mirror ha hb hsymmetric] at hrun
  rw [← Room.mirror_snapshot, ← hrun]
  rfl

/-- The first player walks and asks for a dash, and the mirror image of this. -/
theorem seats_fair_dash :
    newWithRuleset "alice" "bob" (arenaRuleset "ember_foundry") =
      .ok (initialRoom "alice" "bob" (arenaRuleset "ember_foundry")) ∧
    ((initialRoom "alice" "bob" (arenaRuleset "ember_foundry")).run
      [.submitInput "bob" ⟨1, -1, 0, [⟨1, .dash⟩]⟩, .step]).snapshot =
    ((initialRoom "alice" "bob" (arenaRuleset "ember_foundry")).run
      [.submitInput "alice" ⟨1, 1, 0, [⟨1, .dash⟩]⟩, .step]).snapshot.mirror := by
  have hnew : newWithRuleset "alice" "bob" (arenaRuleset "ember_foundry") =
      .ok (initialRoom "alice" "bob" (arenaRuleset "ember_foundry")) :=
    newWithRuleset_of_accepted (by decide) (by decide) (by decide) (by decide)
  refine ⟨hnew, seats_fair hnew [.submitInput "alice" ⟨1, 1, 0, [⟨1, .dash⟩]⟩, .step] ?_⟩
  intro playerID input hin
  rcases List.mem_cons.1 hin with heq | hin
  · cases heq
    exact ⟨.inr (.inr rfl), .inr (.inl rfl)⟩
  · rcases List.mem_cons.1 hin with heq | hin
    · cases heq
    · cases hin

end PvpDuel.Simulation
