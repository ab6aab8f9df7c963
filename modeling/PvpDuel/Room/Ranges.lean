import PvpDuel.Room.Exact
import PvpDuel.Room.Movement

/-!
# Which rulesets keep the arithmetic

`NewWithRuleset` does not look at the spawns, at most lengths or at the cooldowns. A clamped position
lies in the arena whatever its sum was, so the players stay inside exactly when they spawn inside; and
no sum or product of a step leaves its type when every length fits around the arena and every
cooldown after the last tick.
-/

namespace PvpDuel.Simulation

open FixedWidth (int32 uint32)

/-! ### The conditions -/

def ArenaDefinition.Inside (arena : ArenaDefinition) (player : PlayerState) : Prop :=
  ∀ c, arena.minimum c ≤ player.position c ∧ player.position c ≤ arena.maximum c

instance (arena : ArenaDefinition) (player : PlayerState) : Decidable (arena.Inside player) :=
  decidable_of_iff
    ((arena.minX ≤ player.positionX ∧ player.positionX ≤ arena.maxX) ∧
      arena.minY ≤ player.positionY ∧ player.positionY ≤ arena.maxY)
    ⟨fun h c => by cases c <;> [exact h.1; exact h.2], fun h => ⟨h .x, h .y⟩⟩

/-- Both spawns are in the arena. -/
def ArenaDefinition.HoldsSpawns (arena : ArenaDefinition) : Prop :=
  (arena.minX ≤ arena.spawnAX ∧ arena.spawnAX ≤ arena.maxX) ∧
  (arena.minY ≤ arena.spawnAY ∧ arena.spawnAY ≤ arena.maxY) ∧
  (arena.minX ≤ arena.spawnBX ∧ arena.spawnBX ≤ arena.maxX) ∧
  arena.minY ≤ arena.spawnBY ∧ arena.spawnBY ≤ arena.maxY

instance (arena : ArenaDefinition) : Decidable arena.HoldsSpawns := by
  unfold ArenaDefinition.HoldsSpawns
  infer_instance

namespace Ruleset

/-- The lengths a step adds to a coordinate or subtracts from it. -/
def lengths (rules : Ruleset) : List Int32 :=
  [rules.movementPerTick, rules.dash.dashDistance, rules.attackDepth, rules.attackHalfWidth,
    rules.playerHalfExtent]

def cooldowns (rules : Ruleset) : List UInt32 :=
  [rules.dash.cooldownTicks, rules.lightAttack.cooldownTicks]

/-- Every length fits around the arena, and every cooldown after the last tick of the match. -/
structure Fits (rules : Ruleset) : Prop where
  lengths : ∀ length ∈ rules.lengths, ∀ c,
    -2 ^ 31 ≤ (rules.arena.minimum c).toInt - length.toInt.natAbs ∧
      (rules.arena.maximum c).toInt + length.toInt.natAbs < 2 ^ 31
  cooldowns : ∀ cooldown ∈ rules.cooldowns,
    rules.countdownTicks.toNat + rules.matchDurationTicks.toNat + cooldown.toNat < 2 ^ 32

theorem Accepted.borders {rules : Ruleset} (h : rules.Accepted) (c : Coordinate) :
    rules.arena.minimum c < rules.arena.maximum c := by
  unfold Accepted at h
  push Not at h
  obtain ⟨-, -, -, -, -, -, -, -, hx, hy⟩ := h
  cases c
  · exact Int32.not_le.1 hx
  · exact Int32.not_le.1 hy

theorem arenaRuleset_fits (arenaID : String) : (arenaRuleset arenaID).Fits where
  lengths length hlength c := by
    have hbounds : (defaultRuleset.lengths.all fun length => length.toInt.natAbs ≤ 1000) = true := by
      decide
    have hle := of_decide_eq_true (List.all_eq_true.1 hbounds length hlength)
    have hmin : -1000 ≤ ((arenaRuleset arenaID).arena.minimum c).toInt := by
      cases c
      · exact (by decide : -1000 ≤ arenaMinX.toInt)
      · exact (by decide : -1000 ≤ arenaMinY.toInt)
    have hmax : ((arenaRuleset arenaID).arena.maximum c).toInt ≤ 1000 := by
      cases c
      · exact (by decide : arenaMaxX.toInt ≤ 1000)
      · exact (by decide : arenaMaxY.toInt ≤ 1000)
    omega
  cooldowns cooldown hcooldown := by
    have hbounds : (defaultRuleset.cooldowns.all fun cooldown => defaultRuleset.countdownTicks.toNat +
        defaultRuleset.matchDurationTicks.toNat + cooldown.toNat < 2 ^ 32) = true := by decide
    exact of_decide_eq_true (List.all_eq_true.1 hbounds cooldown hcooldown)

end Ruleset

theorem clampPosition_between (position : Int32) {minimum maximum : Int32} (h : minimum < maximum) :
    minimum ≤ clampPosition position minimum maximum ∧
      clampPosition position minimum maximum ≤ maximum := by
  rw [Int32.lt_iff_toInt_lt] at h
  rw [Int32.le_iff_toInt_le, Int32.le_iff_toInt_le, clampPosition, FixedWidth.int32_toInt_min,
    FixedWidth.int32_toInt_max]
  omega

/-! ### Players stay where the arena is -/

section

variable {rules : Ruleset} (hrules : rules.Accepted)

include hrules

theorem inside_of_clamped {before after : PlayerState} (hbefore : rules.arena.Inside before)
    (h : ∀ c, after.position c = before.position c ∨ ∃ moved, after.position c =
      clampPosition moved (rules.arena.minimum c) (rules.arena.maximum c)) :
    rules.arena.Inside after := by
  intro c
  rcases h c with heq | ⟨moved, heq⟩ <;> rw [heq]
  · exact hbefore c
  · exact clampPosition_between moved (hrules.borders c)

theorem inside_beforeActions {s : Seat} (h : rules.arena.Inside s.player) :
    rules.arena.Inside (s.beforeActions rules).player := by
  refine inside_of_clamped hrules h fun c => ?_
  rw [← s.player.advanceActionState_position rules s.input c]
  rcases (s.player.advanceActionState rules s.input).applyMovement_position rules s.input c with
    heq | heq
  · exact .inl heq
  · exact .inr ⟨_, heq⟩

theorem inside_toHits {s : Seat} (tick : UInt32) (h : rules.arena.Inside s.player) :
    rules.arena.Inside (s.toHits rules tick).player := by
  refine inside_of_clamped hrules (inside_beforeActions hrules h) fun c => ?_
  obtain ⟨-, heq | ⟨-, heq⟩⟩ := (s.beforeActions rules).processActions_position rules tick c
  · exact .inl heq
  · exact .inr ⟨_, heq⟩

end

namespace Room

/-- Both players are in the arena. -/
def AllInside (r : Room) : Prop := ∀ i, r.rules.arena.Inside (r.snapshot.players.get i)

theorem allInside_iff (r : Room) :
    r.AllInside ↔ ∀ i, r.rules.arena.Inside (r.seats.get i).player := by
  refine forall_congr' fun i => ?_
  rw [snapshot, Pair.get_map]

theorem AllInside.submitInput {r : Room} (h : r.AllInside) (playerID : String) (input : Input) :
    (r.submitInput playerID input).1.AllInside := by
  unfold AllInside
  rw [submitInput_rules, submitInput_snapshot]
  exact h

theorem AllInside.step {r : Room} (hrules : r.rules.Accepted) (h : r.AllInside) :
    r.step.AllInside := by
  rw [allInside_iff] at h ⊢
  intro i
  rw [step_rules]
  rcases r.seat_step i with ⟨-, heq⟩ | ⟨-, heq⟩ | ⟨-, heq⟩ | ⟨-, -, heq⟩ <;> rw [heq]
  · exact h i
  · rw [Seat.acknowledgeRejectedActions_eq]
    exact fun c => by cases c <;> [exact h i .x; exact h i .y]
  · rw [Seat.acknowledgeRejectedActions_eq]
    exact fun c => by cases c <;> [exact h i .x; exact h i .y]
  · intro c
    have hhits := inside_toHits hrules (r.tick + 1) (h i) c
    rwa [← (PlayerState.applyDamage_position (r.tick + 1) (r.stepDamage i) _ c).1] at hhits

theorem AllInside.run {r : Room} (hrules : r.rules.Accepted) (h : r.AllInside)
    (events : List Event) : (r.run events).AllInside := by
  have hrun := run_induction (P := fun r => r.rules.Accepted ∧ r.AllInside)
    (fun r playerID input h => ⟨by rw [submitInput_rules]; exact h.1, h.2.submitInput playerID input⟩)
    (fun r h => ⟨by rw [step_rules]; exact h.1, h.2.step h.1⟩) ⟨hrules, h⟩ events
  exact hrun.2

end Room

theorem initialRoom_allInside_iff (playerA playerB : String) (rules : Ruleset) :
    (initialRoom playerA playerB rules).AllInside ↔ rules.arena.HoldsSpawns := by
  constructor
  · intro h
    exact ⟨h .a .x, h .a .y, h .b .x, h .b .y⟩
  · rintro ⟨hax, hay, hbx, hby⟩ i c
    cases i
    · cases c
      · exact hax
      · exact hay
    · cases c
      · exact hbx
      · exact hby

/-! ### Nothing leaves its type -/

theorem exactActivate_eq {tick : UInt32} (h : tick.toNat + 1 < 2 ^ 32) (s : Seat) :
    s.exactActivate tick = some (s.activate tick) := by
  have hready : uint32 (tick.toNat + 1) = some (tick + 1) := FixedWidth.uint32_add (y := 1) h
  rw [Seat.exactActivate, hready]
  rfl

section

variable {rules : Ruleset} (hrules : rules.Accepted) (hfits : rules.Fits)

theorem Ruleset.Fits.around (hfits : rules.Fits) {length : Int32} (hlength : length ∈ rules.lengths)
    {player : PlayerState} (h : rules.arena.Inside player) (c : Coordinate) :
    int32 ((player.position c).toInt + length.toInt) = some (player.position c + length) ∧
      int32 ((player.position c).toInt - length.toInt) = some (player.position c - length) := by
  obtain ⟨hlo, hhi⟩ := hfits.lengths length hlength c
  obtain ⟨hlower, hupper⟩ := h c
  rw [Int32.le_iff_toInt_le] at hlower hupper
  exact ⟨FixedWidth.int32_add (by omega) (by omega), FixedWidth.int32_sub (by omega) (by omega)⟩

include hrules hfits

theorem exactPosition_eq {length : Int32} (hlength : length ∈ rules.lengths) {player : PlayerState}
    (h : rules.arena.Inside player) {axis : Int8} (haxis : IsAxis axis) (c : Coordinate) :
    exactPosition (player.position c) axis length (rules.arena.minimum c) (rules.arena.maximum c) =
      some (clampPosition (player.position c + axis.toInt32 * length) (rules.arena.minimum c)
        (rules.arena.maximum c)) := by
  have hborders := hrules.borders c
  obtain ⟨hlo, hhi⟩ := hfits.lengths length hlength c
  obtain ⟨hlower, hupper⟩ := h c
  rw [Int32.lt_iff_toInt_lt] at hborders
  rw [Int32.le_iff_toInt_le] at hlower hupper
  -- The least 32-bit integer fits around no arena, so the length has a negation.
  have hmul : axis.toInt * length.toInt = (axis.toInt32 * length).toInt ∧
      -(length.toInt.natAbs : Int) ≤ (axis.toInt32 * length).toInt ∧
      (axis.toInt32 * length).toInt ≤ length.toInt.natAbs := by
    rcases haxis with rfl | rfl | rfl
    · change -1 * length.toInt = (-1 * length).toInt ∧ _ ≤ (-1 * length).toInt ∧
        (-1 * length).toInt ≤ _
      rw [Int32.neg_mul, Int32.one_mul, FixedWidth.int32_toInt_neg (by omega)]
      omega
    · change 0 * length.toInt = (0 * length).toInt ∧ _ ≤ (0 * length).toInt ∧
        (0 * length).toInt ≤ _
      rw [Int32.zero_mul, Int32.toInt_zero]
      omega
    · change 1 * length.toInt = (1 * length).toInt ∧ _ ≤ (1 * length).toInt ∧
        (1 * length).toInt ≤ _
      rw [Int32.one_mul]
      omega
  obtain ⟨heq, hge, hle⟩ := hmul
  rw [exactPosition, heq, FixedWidth.int32_toInt, Option.bind_eq_bind, Option.bind_some,
    FixedWidth.int32_add (by omega) (by omega)]
  rfl

theorem exactMove_eq {player : PlayerState} (h : rules.arena.Inside player) {input : Input}
    (hx : IsAxis input.moveX) (hy : IsAxis input.moveY) :
    player.exactMove rules input = some (player.move rules input) := by
  have hlength : rules.movementPerTick ∈ rules.lengths := by simp [Ruleset.lengths]
  have hmoveX := exactPosition_eq hrules hfits hlength h hx .x
  have hmoveY := exactPosition_eq hrules hfits hlength h hy .y
  unfold PlayerState.exactMove
  rw [show exactPosition player.positionX input.moveX rules.movementPerTick rules.arena.minX
    rules.arena.maxX = _ from hmoveX, show exactPosition player.positionY input.moveY
    rules.movementPerTick rules.arena.minY rules.arena.maxY = _ from hmoveY]
  rfl

theorem exactApplyMovement_eq {player : PlayerState} (h : rules.arena.Inside player) {input : Input}
    (hx : IsAxis input.moveX) (hy : IsAxis input.moveY) :
    player.exactApplyMovement rules input = some (player.applyMovement rules input) := by
  have hacked : rules.arena.Inside { player with lastAckedInputTick := input.tick } :=
    fun c => by cases c <;> [exact h .x; exact h .y]
  unfold PlayerState.exactApplyMovement PlayerState.applyMovement
  dsimp only
  split_ifs
  · rfl
  · obtain ⟨facingX, facingY, heq⟩ :=
      PlayerState.updateFacing_eq input { player with lastAckedInputTick := input.tick }
    have hfaced : rules.arena.Inside
        (PlayerState.updateFacing { player with lastAckedInputTick := input.tick } input) := by
      rw [heq]
      exact fun c => by cases c <;> [exact h .x; exact h .y]
    rw [exactMove_eq hrules hfits hfaced hx hy]
    rfl
  · exact exactMove_eq hrules hfits hacked hx hy

omit hrules in
theorem exactAttackHitboxIntersects_eq {attacker target : PlayerState}
    (hattacker : rules.arena.Inside attacker) (htarget : rules.arena.Inside target)
    (facing : ActionFacing) : exactAttackHitboxIntersects attacker target facing rules =
      some (attackHitboxIntersects attacker target facing rules) := by
  have hextent : rules.playerHalfExtent ∈ rules.lengths := by simp [Ruleset.lengths]
  have hdepth : rules.attackDepth ∈ rules.lengths := by simp [Ruleset.lengths]
  have hwidth : rules.attackHalfWidth ∈ rules.lengths := by simp [Ruleset.lengths]
  obtain ⟨hmaxX, hminX⟩ := hfits.around hextent htarget .x
  obtain ⟨hmaxY, hminY⟩ := hfits.around hextent htarget .y
  obtain ⟨hright, hleft⟩ := hfits.around hdepth hattacker .x
  obtain ⟨htop, hbottom⟩ := hfits.around hdepth hattacker .y
  obtain ⟨hwideX, hwideX'⟩ := hfits.around hwidth hattacker .x
  obtain ⟨hwideY, hwideY'⟩ := hfits.around hwidth hattacker .y
  simp only [PlayerState.position] at *
  unfold exactAttackHitboxIntersects attackHitboxIntersects
  rw [hmaxX, hminX, hmaxY, hminY, hright, hleft, htop, hbottom, hwideX, hwideX', hwideY, hwideY']
  dsimp only [Option.bind_eq_bind, Option.bind_some]
  split_ifs <;> rfl

omit hrules in
theorem exactHits_eq {attacker target : Seat} (hattacker : rules.arena.Inside attacker.player)
    (htarget : rules.arena.Inside target.player) :
    attacker.exactHits rules target = some (Seat.hits rules attacker target) := by
  unfold Seat.exactHits Seat.hits
  by_cases hstate : attacker.player.actionState = .lightAttackActive
  · rw [if_pos hstate, exactAttackHitboxIntersects_eq hfits hattacker htarget]
    simp only [hstate, decide_true, Bool.true_and]
  · rw [if_neg hstate]
    simp only [hstate, decide_false, Bool.false_and]

theorem exactProcessAction_eq {tick : UInt32}
    (htick : tick.toNat ≤ rules.countdownTicks.toNat + rules.matchDurationTicks.toNat) {s : Seat}
    (h : rules.arena.Inside s.player) (hfaces : s.player.FacesCardinal) (command : ActionCommand) :
    s.exactProcessAction rules tick command = some (s.processAction rules tick command) ∧
      rules.arena.Inside (s.processAction rules tick command).player ∧
      (s.processAction rules tick command).player.FacesCardinal := by
  have hinside : rules.arena.Inside (s.acknowledge command).player :=
    fun c => by cases c <;> [exact h .x; exact h .y]
  have hdistance : rules.dash.dashDistance ∈ rules.lengths := by simp [Ruleset.lengths]
  have hdash := hfits.cooldowns rules.dash.cooldownTicks (by simp [Ruleset.cooldowns])
  have hattack := hfits.cooldowns rules.lightAttack.cooldownTicks (by simp [Ruleset.cooldowns])
  have hcardinal : (s.acknowledge command).player.FacesCardinal := hfaces
  unfold Seat.exactProcessAction Seat.processAction
  generalize s.acknowledge command = s at *
  cases command.type with
  | unspecified => exact ⟨rfl, hinside, hcardinal⟩
  | dash =>
      unfold Seat.exactTryDash Seat.tryDash
      dsimp only
      split_ifs
      · exact ⟨rfl, hinside, hcardinal⟩
      · have hx := exactPosition_eq hrules hfits hdistance hinside (hcardinal.isAxis .x) .x
        have hy := exactPosition_eq hrules hfits hdistance hinside (hcardinal.isAxis .y) .y
        simp only [PlayerState.position, PlayerState.facing, ArenaDefinition.minimum,
          ArenaDefinition.maximum] at hx hy
        refine ⟨?_, fun c => ?_, hcardinal⟩
        · unfold Seat.exactStartDash Seat.startDash
          rw [hx, hy, FixedWidth.uint32_add (by omega)]
          rfl
        · cases c
          · exact clampPosition_between _ (hrules.borders .x)
          · exact clampPosition_between _ (hrules.borders .y)
  | lightAttack =>
      unfold Seat.exactTryLightAttack Seat.tryLightAttack
      dsimp only
      split_ifs
      · exact ⟨rfl, hinside, hcardinal⟩
      · refine ⟨?_, fun c => by cases c <;> [exact hinside .x; exact hinside .y], hcardinal⟩
        unfold Seat.exactStartLightAttack
        rw [FixedWidth.uint32_add (by omega)]
        rfl

theorem exactProcessActions_eq {tick : UInt32}
    (htick : tick.toNat ≤ rules.countdownTicks.toNat + rules.matchDurationTicks.toNat) {s : Seat}
    (h : rules.arena.Inside s.player) (hfaces : s.player.FacesCardinal) :
    s.exactProcessActions rules tick = some (s.processActions rules tick) := by
  have hfold : ∀ (commands : List ActionCommand) (s : Seat), rules.arena.Inside s.player →
      s.player.FacesCardinal → commands.foldlM (Seat.exactProcessAction rules tick) s =
        some (commands.foldl (Seat.processAction rules tick) s) := by
    intro commands
    induction commands with
    | nil => exact fun _ _ _ => rfl
    | cons command commands ih =>
        intro s h hfaces
        obtain ⟨heq, hinside, hcardinal⟩ := exactProcessAction_eq hrules hfits htick h hfaces command
        rw [List.foldlM_cons, heq, List.foldl_cons]
        exact ih _ hinside hcardinal
  rw [Seat.exactProcessActions, hfold _ s h hfaces]
  rfl

theorem exactToHits_eq {tick : UInt32}
    (htick : tick.toNat ≤ rules.countdownTicks.toNat + rules.matchDurationTicks.toNat) {s : Seat}
    (h : rules.arena.Inside s.player) {n : Nat} (htimed : s.Timed rules n) :
    s.exactToHits rules tick = some (s.toHits rules tick) := by
  have hadvanced : rules.arena.Inside (s.player.advanceActionState rules s.input) := by
    intro c
    rw [s.player.advanceActionState_position rules s.input c]
    exact h c
  have hmove := exactApplyMovement_eq hrules hfits hadvanced htimed.axisX htimed.axisY
  have hbefore : (s.advanceActionState rules).exactApplyMovement rules =
      some (s.beforeActions rules) := by
    unfold Seat.exactApplyMovement Seat.advanceActionState
    dsimp only
    rw [hmove]
    rfl
  have hfaces : (s.beforeActions rules).player.FacesCardinal :=
    (htimed.cardinal.advanceActionState rules s.input).applyMovement htimed.axisX htimed.axisY rules
  rw [Seat.exactToHits, hbefore, Option.bind_some,
    exactProcessActions_eq hrules hfits htick (inside_beforeActions hrules h) hfaces]
  rfl

end

/-! ### The room -/

namespace Room

/-- After `n` steps under rules that fit, with both players inside the arena. -/
structure Ranged (r : Room) (n : Nat) : Prop extends r.Timeline n where
  fits : r.rules.Fits
  inside : r.AllInside

variable {r : Room} {n : Nat}

theorem Ranged.submitInput (h : r.Ranged n) (playerID : String) (input : Input) :
    (r.submitInput playerID input).1.Ranged n := by
  refine ⟨h.toTimeline.submitInput playerID input, ?_, h.inside.submitInput playerID input⟩
  rw [submitInput_rules]
  exact h.fits

theorem Ranged.step (h : r.Ranged n) : r.step.Ranged (n + 1) := by
  refine ⟨h.toTimeline.step, ?_, h.inside.step h.accepted⟩
  rw [step_rules]
  exact h.fits

theorem Ranged.run (h : r.Ranged n) (events : List Event) :
    (r.run events).Ranged (n + stepCount events) :=
  run_counted (P := Ranged) (fun _ _ playerID input h => h.submitInput playerID input)
    (fun _ _ h => h.step) h events

theorem Ranged.tick_le (h : r.Ranged n) (hs : r.status ≠ .finished) : (r.tick + 1).toNat ≤
    r.rules.countdownTicks.toNat + r.rules.matchDurationTicks.toNat := by
  have hpos := h.accepted.countdownTicks_pos
  rw [h.tick_succ hs]
  by_cases hc : n < r.rules.countdownTicks.toNat
  · omega
  · exact (h.active_or_finished (Nat.le_of_not_lt hc)).resolve_left hs |>.1

theorem Ranged.exactStepActive_eq (h : r.Ranged n) (hf : r.status ≠ .finished) :
    ({ r with tick := r.tick + 1 } : Room).exactStepActive = some r.struck.finish := by
  have hinside := (allInside_iff r).1 h.inside
  have hhits : ∀ i, (r.seats.get i).exactToHits r.rules (r.tick + 1) =
      some ((r.seats.get i).toHits r.rules (r.tick + 1)) := fun i =>
    exactToHits_eq h.accepted h.fits (h.tick_le hf) (hinside i) (h.seats i)
  have hafter : ∀ i, r.rules.arena.Inside ((r.seats.get i).toHits r.rules (r.tick + 1)).player :=
    fun i => inside_toHits h.accepted (r.tick + 1) (hinside i)
  have hdecide : ∀ i j, ((r.seats.get i).toHits r.rules (r.tick + 1)).exactHits r.rules
      ((r.seats.get j).toHits r.rules (r.tick + 1)) = some (Seat.hits r.rules
        ((r.seats.get i).toHits r.rules (r.tick + 1))
        ((r.seats.get j).toHits r.rules (r.tick + 1))) := fun i j =>
    exactHits_eq h.fits (hafter i) (hafter j)
  have ha := hhits .a
  have hb := hhits .b
  have hab := hdecide .a .b
  have hba := hdecide .b .a
  rw [Pair.get_a] at ha hab hba
  rw [Pair.get_b] at hb hab hba
  unfold exactStepActive
  simp only [ha, hb, hab, hba, Option.bind_eq_bind, Option.bind_some]
  rfl

theorem Ranged.exactStep_eq (h : r.Ranged n) : r.exactStep = some r.step := by
  by_cases hf : r.status = .finished
  · rw [step_of_finished hf, exactStep, if_pos hf]
  rw [exactStep, if_neg hf]
  dsimp only
  by_cases hc : r.status = .countdown
  · rw [if_pos hc, step_of_countdown hc]
    obtain ⟨hlt, htick, -⟩ := h.countdown hc
    have hrange := h.range
    have hpos := h.accepted.matchDurationTicks_pos
    have hactivate : ∀ s : Seat, s.exactActivate
        ({ r with tick := r.tick + 1 } : Room).acknowledgeRejectedActions.tick =
          some (s.activate (r.tick + 1)) := by
      intro s
      apply exactActivate_eq
      change (r.tick + 1).toNat + 1 < 2 ^ 32
      rw [h.tick_succ hf]
      omega
    unfold exactStepCountdown stepCountdown
    dsimp only
    split_ifs
    · simp only [hactivate, Option.bind_eq_bind, Option.bind_some]
      rfl
    · rfl
  · rw [if_neg hc, step_of_active hf hc]
    exact h.exactStepActive_eq hf

theorem Ranged.exactRun_eq (h : r.Ranged n) (events : List Event) :
    r.exactRun events = some (r.run events) := by
  induction events generalizing r n with
  | nil => rfl
  | cons event events ih =>
      rw [exactRun, List.foldlM_cons, run_cons]
      cases event with
      | submitInput playerID input => exact ih (h.submitInput playerID input)
      | step =>
          rw [exactApply, h.exactStep_eq]
          exact ih h.step

theorem initialRoom_ranged (playerA playerB : String) {rules : Ruleset} (hrules : rules.Accepted)
    (hspawns : rules.arena.HoldsSpawns) (hfits : rules.Fits) :
    (initialRoom playerA playerB rules).Ranged 0 := by
  have hrange : rules.countdownTicks.toNat + rules.matchDurationTicks.toNat < 2 ^ 32 := by
    have hcooldown := hfits.cooldowns rules.dash.cooldownTicks (by simp [Ruleset.cooldowns])
    omega
  exact ⟨initialRoom_timeline playerA playerB hrules hrange, hfits,
    (initialRoom_allInside_iff playerA playerB rules).2 hspawns⟩

end Room

theorem arenaRuleset_holdsSpawns (arenaID : String) : (arenaRuleset arenaID).arena.HoldsSpawns :=
  (by decide : defaultRuleset.arena.HoldsSpawns)

/-- Under an accepted ruleset the players are inside the arena in every run and every snapshot of it
exactly when both spawns are; and then, if the ruleset fits, every sum and product of a run is the one
over the integers. The ruleset of a match has both, whatever its arena. -/
theorem ruleset_ranges {playerA playerB : String} {rules : Ruleset} {r₀ : Room}
    (hnew : newWithRuleset playerA playerB rules = .ok r₀) :
    ((∀ events, (r₀.run events).AllInside) ↔ rules.arena.HoldsSpawns) ∧
      (rules.arena.HoldsSpawns → rules.Fits →
        ∀ events, r₀.exactRun events = some (r₀.run events)) ∧
      ∀ arenaID, rules = arenaRuleset arenaID →
        ∀ events, (r₀.run events).AllInside ∧ r₀.exactRun events = some (r₀.run events) := by
  obtain ⟨-, -, -, hrules, rfl⟩ := newWithRuleset_ok hnew
  have hspawns := initialRoom_allInside_iff playerA playerB rules
  have hexact : rules.arena.HoldsSpawns → rules.Fits → ∀ events,
      (initialRoom playerA playerB rules).exactRun events =
        some ((initialRoom playerA playerB rules).run events) :=
    fun h hfits => (Room.initialRoom_ranged playerA playerB hrules h hfits).exactRun_eq
  refine ⟨⟨fun h => hspawns.1 (h []), fun h => (hspawns.2 h).run hrules⟩, hexact, ?_⟩
  rintro arenaID rfl events
  have hholds := arenaRuleset_holdsSpawns arenaID
  exact ⟨(hspawns.2 hholds).run hrules events, hexact hholds (Ruleset.arenaRuleset_fits arenaID) events⟩

/-- The rules of a real match keep both. -/
theorem ruleset_ranges_default : ∃ r₀, new "alice" "bob" = .ok r₀ ∧
    (∀ events, (r₀.run events).AllInside) ∧ ∀ events, r₀.exactRun events = some (r₀.run events) := by
  have hnew : newWithRuleset "alice" "bob" defaultRuleset =
      .ok (initialRoom "alice" "bob" defaultRuleset) := rfl
  obtain ⟨-, -, hmatch⟩ := ruleset_ranges hnew
  have hkept := hmatch arenaIDNeonRooftop rfl
  exact ⟨_, rfl, fun events => (hkept events).1, fun events => (hkept events).2⟩

/-- Rules with one player at the end of the number line and the other outside the arena. -/
def uncheckedRuleset : Ruleset :=
  { defaultRuleset with
    countdownTicks := 1
    arena := { defaultRuleset.arena with
      maxX := 2147483647, spawnAX := 2147483647, spawnBX := -501 } }

def borderEvents : List Event :=
  [.step, .submitInput "alice" { tick := 1, moveX := 1, moveY := 0, actions := [] }, .step]

/-- Accepted rules put a player outside the arena, and a sum of theirs overflows: the step to the
right carries the other player to the left border. -/
theorem ruleset_ranges_unchecked : ∃ r₀, newWithRuleset "alice" "bob" uncheckedRuleset = .ok r₀ ∧
    ¬ r₀.AllInside ∧ r₀.exactRun borderEvents = none ∧
    (r₀.run borderEvents).seats.a.player.positionX = -500 :=
  ⟨_, rfl, fun h => absurd (h .b) (by decide), by decide +kernel, by decide +kernel⟩

end PvpDuel.Simulation
