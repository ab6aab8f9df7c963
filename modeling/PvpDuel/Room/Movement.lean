import Mathlib.Algebra.Order.Group.Abs
import Mathlib.Algebra.Order.Interval.Finset.SuccPred
import Mathlib.Data.Nat.SuccPred
import PvpDuel.Room.Gating

/-!
# How far a player gets

A step moves a player by his movement and by a dash that takes effect, both cut off at the border of
the arena. Dashes are a cooldown apart, so a window of steps holds as many as fit in it. A position
has two coordinates which the phases treat alike, so each lemma is about either.
-/

namespace PvpDuel.Simulation

/-! ### Numbers -/

/-- As many steps lie in a window as fit at their distance, rounded up. -/
theorem card_le_of_separated {distance first length : Nat} (hpos : 0 < distance)
    {steps : Finset Nat} (hin : steps ⊆ Finset.Ico first (first + length))
    (hseparated : ∀ t ∈ steps, ∀ u ∈ steps, t < u → t + distance ≤ u) :
    steps.card ≤ (length + distance - 1) / distance := by
  have hbounds : ∀ t ∈ steps, first ≤ t ∧ t < first + length := fun t ht =>
    Finset.mem_Ico.1 (hin ht)
  rw [← Finset.card_range ((length + distance - 1) / distance)]
  refine Finset.card_le_card_of_injOn (fun t => (t - first) / distance) ?_ ?_
  · intro t ht
    obtain ⟨hlo, hhi⟩ := hbounds t ht
    refine Finset.mem_coe.2 (Finset.mem_range.2 ?_)
    calc (t - first) / distance < (t - first) / distance + 1 := Nat.lt_succ_self _
      _ = (t - first + distance) / distance := (Nat.add_div_right _ hpos).symm
      _ ≤ (length + distance - 1) / distance := Nat.div_le_div_right (by omega)
  · -- Two steps of one cell would be closer than their distance.
    have hlt : ∀ t ∈ steps, ∀ u ∈ steps, t < u →
        (t - first) / distance < (u - first) / distance := by
      intro t ht u hu htu
      obtain ⟨hlo, -⟩ := hbounds t ht
      have hgap := hseparated t ht u hu htu
      calc (t - first) / distance < (t - first) / distance + 1 := Nat.lt_succ_self _
        _ = (t - first + distance) / distance := (Nat.add_div_right _ hpos).symm
        _ ≤ (u - first) / distance := Nat.div_le_div_right (by omega)
    intro t ht u hu heq
    rcases Nat.lt_trichotomy t u with hless | hsame | hmore
    · exact absurd heq (hlt t ht u hu hless).ne
    · exact hsame
    · exact absurd heq (hlt u hu t ht hmore).ne'

/-- A position between two borders that nothing near overflows. -/
structure Between (minimum maximum position : Int32) : Prop where
  lower : minimum.toInt ≤ position.toInt
  upper : position.toInt ≤ maximum.toInt
  near_lower : -2 ^ 28 ≤ minimum.toInt
  near_upper : maximum.toInt ≤ 2 ^ 28

/-- A clamped step along an axis is no longer than its distance, and none at all off the axis. -/
theorem Between.clampPosition {minimum maximum position distance : Int32}
    (h : Between minimum maximum position) {axis : Int8} (haxis : IsAxis axis)
    (hlo : 0 ≤ distance.toInt) (hhi : distance.toInt ≤ 2 ^ 28) :
    Between minimum maximum
        (Simulation.clampPosition (position + axis.toInt32 * distance) minimum maximum) ∧
      |(Simulation.clampPosition (position + axis.toInt32 * distance) minimum maximum).toInt -
        position.toInt| ≤ if axis = 0 then 0 else distance.toInt := by
  obtain ⟨hlower, hupper, hnear, hnear'⟩ := h
  have hmul : (axis.toInt32 * distance).toInt = axis.toInt * distance.toInt := by
    rcases haxis with rfl | rfl | rfl
    · change (-1 * distance).toInt = -1 * distance.toInt
      rw [Int32.neg_mul, Int32.one_mul, FixedWidth.int32_toInt_neg (by omega), Int.neg_one_mul]
    · change (0 * distance).toInt = 0 * distance.toInt
      rw [Int32.zero_mul, Int.zero_mul]
      rfl
    · change (1 * distance).toInt = 1 * distance.toInt
      rw [Int32.one_mul, Int.one_mul]
  have hstep : (axis.toInt32 * distance).toInt ≤ (if axis = 0 then 0 else distance.toInt) ∧
      -(if axis = 0 then 0 else distance.toInt) ≤ (axis.toInt32 * distance).toInt := by
    rw [hmul]
    rcases haxis with rfl | rfl | rfl
    · change -1 * distance.toInt ≤ distance.toInt ∧ -distance.toInt ≤ -1 * distance.toInt
      omega
    · change 0 * distance.toInt ≤ 0 ∧ -0 ≤ 0 * distance.toInt
      omega
    · change 1 * distance.toInt ≤ distance.toInt ∧ -distance.toInt ≤ 1 * distance.toInt
      omega
  have hlength : 0 ≤ (if axis = 0 then 0 else distance.toInt) ∧
      (if axis = 0 then 0 else distance.toInt) ≤ 2 ^ 28 := by
    split_ifs
    · exact ⟨le_refl 0, by decide⟩
    · exact ⟨hlo, hhi⟩
  generalize (if axis = 0 then 0 else distance.toInt) = length at hstep hlength ⊢
  have hclamp :
      (Simulation.clampPosition (position + axis.toInt32 * distance) minimum maximum).toInt =
        min (max (position.toInt + (axis.toInt32 * distance).toInt) minimum.toInt)
          maximum.toInt := by
    rw [Simulation.clampPosition, FixedWidth.int32_toInt_min, FixedWidth.int32_toInt_max,
      FixedWidth.int32_toInt_add (by omega) (by omega)]
  rw [abs_le]
  exact ⟨⟨by omega, by omega, hnear, hnear'⟩, by omega, by omega⟩

/-! ### The two coordinates -/

inductive Coordinate
  | x
  | y
deriving DecidableEq, Repr

def PlayerState.position (player : PlayerState) : Coordinate → Int32
  | .x => player.positionX
  | .y => player.positionY

def PlayerState.facing (player : PlayerState) : Coordinate → Int8
  | .x => player.facingX
  | .y => player.facingY

def Input.move (input : Input) : Coordinate → Int8
  | .x => input.moveX
  | .y => input.moveY

def ArenaDefinition.minimum (arena : ArenaDefinition) : Coordinate → Int32
  | .x => arena.minX
  | .y => arena.minY

def ArenaDefinition.maximum (arena : ArenaDefinition) : Coordinate → Int32
  | .x => arena.maxX
  | .y => arena.maxY

theorem PlayerState.FacesCardinal.isAxis {player : PlayerState} (h : player.FacesCardinal)
    (c : Coordinate) : IsAxis (player.facing c) := by
  simp only [FacesCardinal, List.mem_cons, ActionFacing.mk.injEq, List.not_mem_nil, or_false] at h
  cases c <;> simp only [facing, IsAxis] <;> tauto

theorem PlayerState.FacesCardinal.off {player : PlayerState} (h : player.FacesCardinal) :
    player.facing .x = 0 ∨ player.facing .y = 0 := by
  simp only [FacesCardinal, List.mem_cons, ActionFacing.mk.injEq, List.not_mem_nil, or_false] at h
  simp only [facing]
  tauto

/-- Movement leaves a player where he is or takes him a step along his axis. -/
theorem PlayerState.applyMovement_position (rules : Ruleset) (input : Input) (player : PlayerState)
    (c : Coordinate) : (player.applyMovement rules input).position c = player.position c ∨
      (player.applyMovement rules input).position c =
        clampPosition (player.position c + (input.move c).toInt32 * rules.movementPerTick)
          (rules.arena.minimum c) (rules.arena.maximum c) := by
  unfold applyMovement
  dsimp only
  split_ifs
  · refine .inl ?_
    cases c <;> rfl
  · obtain ⟨facingX, facingY, heq⟩ :=
      updateFacing_eq input { player with lastAckedInputTick := input.tick }
    rw [heq]
    refine .inr ?_
    cases c <;> rfl
  · refine .inr ?_
    cases c <;> rfl

theorem PlayerState.advanceActionState_position (rules : Ruleset) (input : Input)
    (player : PlayerState) (c : Coordinate) :
    (player.advanceActionState rules input).position c = player.position c := by
  obtain ⟨_, _, _, heq⟩ := player.advanceActionState_eq rules input
  rw [heq]
  cases c <;> rfl

theorem PlayerState.applyDamage_position (tick : UInt32) (damage : Int32) (player : PlayerState)
    (c : Coordinate) : (player.applyDamage tick damage).position c = player.position c ∧
      (player.applyDamage tick damage).facing c = player.facing c := by
  obtain ⟨_, _, _, _, heq⟩ := player.applyDamage_eq tick damage
  rw [heq]
  cases c <;> exact ⟨rfl, rfl⟩

/-- Processing a queue dashes along the facing or leaves the player where he is. -/
theorem Seat.processActions_position (rules : Ruleset) (tick : UInt32) (s : Seat) (c : Coordinate) :
    (s.processActions rules tick).player.facing c = s.player.facing c ∧
    ((s.processActions rules tick).player.position c = s.player.position c ∨
      (∃ command ∈ s.effects rules tick s.pendingActions, command.type = .dash) ∧
        (s.processActions rules tick).player.position c =
          clampPosition
            (s.player.position c + (s.player.facing c).toInt32 * rules.dash.dashDistance)
            (rules.arena.minimum c) (rules.arena.maximum c)) := by
  rcases s.processActions_cases rules tick with
    ⟨-, heq⟩ | ⟨command, heffects, htype, -, -, heq⟩ | ⟨_, -, -, -, -, heq⟩ <;> rw [heq]
  · cases c <;> exact ⟨rfl, .inl rfl⟩
  · have hdash : ∃ command ∈ s.effects rules tick s.pendingActions, command.type = .dash :=
      ⟨command, by rw [heffects, List.mem_singleton], htype⟩
    cases c <;> exact ⟨rfl, .inr ⟨hdash, rfl⟩⟩
  · cases c <;> exact ⟨rfl, .inl rfl⟩

/-! ### One step -/

/-- Distances of a ruleset small enough for every sum of a step. -/
structure Ruleset.Measured (rules : Ruleset) : Prop where
  movement_nonneg : 0 ≤ rules.movementPerTick.toInt
  movement_le : rules.movementPerTick.toInt ≤ 2 ^ 28
  dash_nonneg : 0 ≤ rules.dash.dashDistance.toInt
  dash_le : rules.dash.dashDistance.toInt ≤ 2 ^ 28

namespace Seat

theorem beforeActions_position {rules : Ruleset} (hrules : rules.Measured) {s : Seat}
    {c : Coordinate} (haxis : IsAxis (s.input.move c))
    (h : Between (rules.arena.minimum c) (rules.arena.maximum c) (s.player.position c)) :
    Between (rules.arena.minimum c) (rules.arena.maximum c)
        ((s.beforeActions rules).player.position c) ∧
      |((s.beforeActions rules).player.position c).toInt - (s.player.position c).toInt| ≤
        rules.movementPerTick.toInt := by
  have hmove : (s.beforeActions rules).player.position c = s.player.position c ∨
      (s.beforeActions rules).player.position c =
        clampPosition (s.player.position c + (s.input.move c).toInt32 * rules.movementPerTick)
          (rules.arena.minimum c) (rules.arena.maximum c) := by
    rw [← s.player.advanceActionState_position rules s.input c]
    exact (s.player.advanceActionState rules s.input).applyMovement_position rules s.input c
  rcases hmove with heq | heq
  · rw [heq, Int.sub_self, abs_zero]
    exact ⟨h, hrules.movement_nonneg⟩
  · obtain ⟨hclamped, hle⟩ := h.clampPosition haxis hrules.movement_nonneg hrules.movement_le
    rw [heq]
    refine ⟨hclamped, hle.trans ?_⟩
    split_ifs
    · exact hrules.movement_nonneg
    · exact le_refl _

/-- Up to the hits a player has moved by his movement, and by a dash along the axis he faces. -/
theorem toHits_position {rules : Ruleset} (hrules : rules.Measured) (tick : UInt32) {s : Seat}
    (haxisX : IsAxis s.input.moveX) (haxisY : IsAxis s.input.moveY)
    (hfaces : s.player.FacesCardinal) {c : Coordinate}
    (h : Between (rules.arena.minimum c) (rules.arena.maximum c) (s.player.position c)) :
    Between (rules.arena.minimum c) (rules.arena.maximum c)
        ((s.toHits rules tick).player.position c) ∧
      (|((s.toHits rules tick).player.position c).toInt - (s.player.position c).toInt| ≤
          rules.movementPerTick.toInt ∨
        (∃ command ∈ (s.beforeActions rules).effects rules tick s.pendingActions,
            command.type = .dash) ∧
          (s.toHits rules tick).player.facing c ≠ 0 ∧
          |((s.toHits rules tick).player.position c).toInt - (s.player.position c).toInt| ≤
            rules.movementPerTick.toInt + rules.dash.dashDistance.toInt) := by
  have haxis : IsAxis (s.input.move c) := by
    cases c
    · exact haxisX
    · exact haxisY
  obtain ⟨hbetween, hmoved⟩ := beforeActions_position hrules haxis h
  have hbefore : (s.beforeActions rules).player.FacesCardinal :=
    (hfaces.advanceActionState rules s.input).applyMovement haxisX haxisY rules
  obtain ⟨hfacing, heq | ⟨hdashes, heq⟩⟩ :=
    (s.beforeActions rules).processActions_position rules tick c
  · rw [toHits_eq, heq]
    exact ⟨hbetween, .inl hmoved⟩
  · obtain ⟨hclamped, hle⟩ :=
      hbetween.clampPosition (hbefore.isAxis c) hrules.dash_nonneg hrules.dash_le
    rw [← heq] at hclamped hle
    rw [toHits_eq, hfacing]
    refine ⟨hclamped, ?_⟩
    by_cases hoff : (s.beforeActions rules).player.facing c = 0
    · rw [if_pos hoff, abs_nonpos_iff, Int.sub_eq_zero, Int32.toInt_inj] at hle
      rw [hle]
      exact .inl hmoved
    · rw [if_neg hoff] at hle
      refine .inr ⟨hdashes, hoff, (abs_sub_le _ _ _).trans ((Int.add_le_add hle hmoved).trans ?_)⟩
      exact (Int.add_comm _ _).le

end Seat

namespace Room

/-- After `n` steps, with both players inside an arena whose distances fit. -/
structure Confined (r : Room) (n : Nat) : Prop extends r.Timeline n where
  measured : r.rules.Measured
  inside : ∀ i c, Between (r.rules.arena.minimum c) (r.rules.arena.maximum c)
    ((r.seats.get i).player.position c)

/-- A dash of a player takes effect in the next step. -/
def Dashes (r : Room) (i : Side) : Prop := ∃ command ∈ r.effects i, command.type = .dash

instance (r : Room) (i : Side) : Decidable (r.Dashes i) := by
  unfold Dashes
  infer_instance

theorem step_position_of_not_active {r : Room} (hwaiting : r.status ≠ .waiting)
    (ha : r.status ≠ .active) (i : Side) (c : Coordinate) :
    (r.step.seats.get i).player.position c = (r.seats.get i).player.position c := by
  rw [step_player_of_not_active hwaiting ha i]
  cases c <;> rfl

/-- A step takes a player as far as his movement, and as far as his dash on the axis he faces. -/
theorem Confined.step_position {r : Room} {n : Nat} (h : r.Confined n) (i : Side) (c : Coordinate) :
    Between (r.rules.arena.minimum c) (r.rules.arena.maximum c)
        ((r.step.seats.get i).player.position c) ∧
      |((r.step.seats.get i).player.position c).toInt -
          ((r.seats.get i).player.position c).toInt| ≤ r.rules.movementPerTick.toInt +
        if r.Dashes i ∧ (r.step.seats.get i).player.facing c ≠ 0 then
          r.rules.dash.dashDistance.toInt
        else 0 := by
  have hmovement := h.measured.movement_nonneg
  have hdash := h.measured.dash_nonneg
  by_cases ha : r.status = .active
  · have hseat := h.seats i
    obtain ⟨hbetween, hmoved⟩ := Seat.toHits_position h.measured (r.tick + 1) hseat.axisX
      hseat.axisY hseat.cardinal (h.inside i c)
    have hstep : (r.step.seats.get i).player = ((r.seats.get i).toHits r.rules
        (r.tick + 1)).player.applyDamage (r.tick + 1) (r.stepDamage i) := by
      rw [step_seat_of_active ha]
      rfl
    obtain ⟨hposition, hfacing⟩ := PlayerState.applyDamage_position (r.tick + 1) (r.stepDamage i)
      ((r.seats.get i).toHits r.rules (r.tick + 1)).player c
    rw [← hstep] at hposition hfacing
    rw [← hposition] at hbetween hmoved
    rw [← hfacing, ← effects_of_active ha] at hmoved
    refine ⟨hbetween, ?_⟩
    rcases hmoved with hmoved | ⟨hdashes, hfaces, hmoved⟩
    · split_ifs <;> omega
    · rw [if_pos ⟨hdashes, hfaces⟩]
      exact hmoved
  · rw [step_position_of_not_active h.not_waiting ha, Int.sub_self, abs_zero]
    refine ⟨h.inside i c, ?_⟩
    split_ifs <;> omega

theorem Confined.run {r : Room} {n : Nat} (h : r.Confined n) (events : List Event) :
    (r.run events).Confined (n + stepCount events) := by
  refine run_counted (P := Confined) (fun r n playerID input h => ?_) (fun r n h => ?_) h events
  · refine ⟨h.submitInput playerID input, ?_, fun i c => ?_⟩
    · rw [submitInput_rules]
      exact h.measured
    · rw [submitInput_rules]
      rcases r.seat_submitInput playerID input i with hseat | hseat <;> rw [hseat]
      · exact h.inside i c
      · rw [Seat.submitInput_player]
        exact h.inside i c
  · refine ⟨h.toTimeline.step, ?_, fun i c => ?_⟩
    · rw [step_rules]
      exact h.measured
    · rw [step_rules]
      exact (h.step_position i c).1

/-! ### A window of steps -/

variable {r : Room} {events : List Event} {i : Side}

theorem Confined.atStep (h : r.Confined 0) (events : List Event) {u : Nat}
    (hu : u ≤ stepCount events) : (r.atStep events u).Confined u := by
  have hrun := h.run (callsBefore events u)
  rwa [stepCount_callsBefore hu, Nat.zero_add] at hrun

/-- The steps of a window at which dashes of a player take effect. -/
def dashSteps (r : Room) (events : List Event) (i : Side) (u n : Nat) : Finset Nat :=
  (Finset.Ico u (u + n)).filter fun v => r.ActsAt events i .dash v

/-- Over a window a player gets as far as its steps and its dashes add up to. -/
theorem Confined.window (h : r.Confined 0) (i : Side) (c : Coordinate) (u n : Nat)
    (hn : u + n ≤ stepCount events) :
    |(((r.atStep events (u + n)).seats.get i).player.position c).toInt -
        (((r.atStep events u).seats.get i).player.position c).toInt| ≤
      r.rules.movementPerTick.toInt * n +
        r.rules.dash.dashDistance.toInt * (r.dashSteps events i u n).card := by
  induction n with
  | zero =>
      rw [Nat.add_zero, Int.sub_self, abs_zero]
      simp [dashSteps]
  | succ n ih =>
      have hlast := ((h.atStep events (by omega : u + n ≤ stepCount events)).step_position i c).2
      rw [atStep_rules, ← atStep_succ_player (by omega : u + n < stepCount events)] at hlast
      have htriangle := abs_sub_le
        (((r.atStep events (u + n + 1)).seats.get i).player.position c).toInt
        (((r.atStep events (u + n)).seats.get i).player.position c).toInt
        (((r.atStep events u).seats.get i).player.position c).toInt
      have hbefore := ih (by omega)
      rw [← Nat.add_assoc, Int.natCast_succ, Int.mul_add, Int.mul_one]
      by_cases hacts : r.ActsAt events i .dash (u + n)
      · have hcard : (r.dashSteps events i u (n + 1)).card =
            (r.dashSteps events i u n).card + 1 := by
          rw [dashSteps, ← Nat.add_assoc, ← Finset.insert_Ico_right_eq_Ico_add_one (by omega),
            Finset.filter_insert, if_pos hacts]
          exact Finset.card_insert_of_notMem (by simp)
        have hdash := h.measured.dash_nonneg
        rw [hcard, Int.natCast_succ, Int.mul_add, Int.mul_one]
        split_ifs at hlast <;> omega
      · have hsame : r.dashSteps events i u (n + 1) = r.dashSteps events i u n := by
          rw [dashSteps, ← Nat.add_assoc, ← Finset.insert_Ico_right_eq_Ico_add_one (by omega),
            Finset.filter_insert, if_neg hacts]
          rfl
        have hstill : ¬ (r.atStep events (u + n)).Dashes i :=
          fun hdashes => hacts ⟨by omega, hdashes⟩
        rw [if_neg (fun hboth => hstill hboth.1)] at hlast
        rw [hsame]
        omega

/-- As many dashes of a player take effect in a window as cooldowns fit in it. -/
theorem card_dashSteps_le (h : r.Timeline 0)
    (hrange : r.rules.countdownTicks.toNat + r.rules.matchDurationTicks.toNat +
      r.rules.dash.cooldownTicks.toNat < 2 ^ 32) (hpos : 0 < r.rules.dash.cooldownTicks.toNat)
    (i : Side) (u n : Nat) :
    (r.dashSteps events i u n).card ≤
      (n + r.rules.dash.cooldownTicks.toNat - 1) / r.rules.dash.cooldownTicks.toNat := by
  refine card_le_of_separated hpos (Finset.filter_subset _ _) fun t ht v hv htv => ?_
  have hearlier : r.ActsAt events i .dash t := (Finset.mem_filter.1 ht).2
  refine ActsAt.cooldown h ?_ hearlier (Finset.mem_filter.1 hv).2 htv
  exact hrange

end Room

theorem initialRoom_confined {playerA playerB arenaID : String}
    (h : (arenaRuleset arenaID).Accepted) :
    (initialRoom playerA playerB (arenaRuleset arenaID)).Confined 0 := by
  have hrules : defaultRuleset.Measured := ⟨by decide, by decide, by decide, by decide⟩
  have hspawnA : Between arenaMinX arenaMaxX playerASpawnX :=
    ⟨by decide, by decide, by decide, by decide⟩
  have hspawnB : Between arenaMinX arenaMaxX playerBSpawnX :=
    ⟨by decide, by decide, by decide, by decide⟩
  have hspawnY : Between arenaMinY arenaMaxY 0 := ⟨by decide, by decide, by decide, by decide⟩
  have hrange : countdownTicks.toNat + matchDurationTicks.toNat < 2 ^ 32 := by decide
  refine ⟨Room.initialRoom_timeline playerA playerB h hrange,
    ⟨hrules.1, hrules.2, hrules.3, hrules.4⟩, fun i c => ?_⟩
  cases i
  · cases c
    · exact hspawnA
    · exact hspawnY
  · cases c
    · exact hspawnB
    · exact hspawnY

/-- No input takes a player further than the rules do: `10` a step and `120` a dash, with dashes
`30` steps apart (`(n + 29) / 30` is `n / 30` rounded up), and nowhere outside the active match.
Step `u` leads from the room before it to the room before step `u + 1`. -/
theorem no_speed_hack {playerA playerB arenaID : String} {r₀ : Room}
    (hnew : newWithRuleset playerA playerB (arenaRuleset arenaID) = .ok r₀) (events : List Event)
    (i : Side) :
    (∀ c u n, u + n ≤ stepCount events →
      |(((r₀.atStep events (u + n)).seats.get i).player.position c).toInt -
          (((r₀.atStep events u).seats.get i).player.position c).toInt| ≤
        10 * n + 120 * ((n + 29) / 30 : Nat)) ∧
    (∀ c u, u < stepCount events →
      |(((r₀.atStep events u).step.seats.get i).player.position c).toInt -
          (((r₀.atStep events u).seats.get i).player.position c).toInt| ≤
        if r₀.ActsAt events i .dash u ∧
          ((r₀.atStep events u).step.seats.get i).player.facing c ≠ 0 then 130 else 10) ∧
    (∀ u, u ≤ stepCount events → ((r₀.atStep events u).seats.get i).player.facing .x = 0 ∨
      ((r₀.atStep events u).seats.get i).player.facing .y = 0) ∧
    ∀ c u, u < stepCount events → (r₀.atStep events u).status ≠ .active →
      ((r₀.atStep events (u + 1)).seats.get i).player.position c =
        ((r₀.atStep events u).seats.get i).player.position c := by
  obtain ⟨-, -, -, hrules, rfl⟩ := newWithRuleset_ok hnew
  have hconfined : (initialRoom playerA playerB (arenaRuleset arenaID)).Confined 0 :=
    initialRoom_confined hrules
  have hrange : countdownTicks.toNat + matchDurationTicks.toNat + dashCooldown.toNat < 2 ^ 32 := by
    decide
  refine ⟨fun c u n hn => ?_, fun c u hu => ?_, fun u hu => ?_, fun c u hu ha => ?_⟩
  · have hwindow := hconfined.window i c u n hn
    have hcard :
        ((initialRoom playerA playerB (arenaRuleset arenaID)).dashSteps events i u n).card ≤
          (n + 30 - 1) / 30 :=
      Room.card_dashSteps_le hconfined.toTimeline hrange (by decide : 0 < dashCooldown.toNat) i u n
    change |_| ≤ (10 : Int) * n + (120 : Int) * _ at hwindow
    rw [Nat.add_sub_assoc (by decide)] at hcard
    omega
  · have hstep := ((hconfined.atStep events hu.le).step_position i c).2
    rw [Room.atStep_rules] at hstep
    change _ ≤ (10 : Int) + (if _ then (120 : Int) else 0) at hstep
    refine hstep.trans ?_
    split_ifs with hnow hboth
    · exact le_refl _
    · exact absurd ⟨⟨hu, hnow.1⟩, hnow.2⟩ hboth
    · decide
    · exact le_refl _
  · exact (((hconfined.atStep events hu).seats i).cardinal).off
  · rw [Room.atStep_succ_player hu]
    exact Room.step_position_of_not_active (hconfined.atStep events hu.le).not_waiting ha i c

/-- A player who runs and dashes in the first active step. -/
def dashEvents : List Event :=
  List.replicate 90 .step ++
    [.submitInput "alice" { tick := 1, moveX := 1, moveY := 0, actions := [⟨1, .dash⟩] }, .step]

theorem no_speed_hack_dash :
    newWithRuleset "alice" "bob" (arenaRuleset "ember_foundry") =
      .ok (initialRoom "alice" "bob" (arenaRuleset "ember_foundry")) ∧
    let before := (initialRoom "alice" "bob" (arenaRuleset "ember_foundry")).atStep dashEvents 90
    ((before.step.seats.get .a).player.position .x).toInt -
        ((before.seats.get .a).player.position .x).toInt = 130 ∧
      |((before.step.seats.get .a).player.position .x).toInt -
        ((before.seats.get .a).player.position .x).toInt| ≤ 130 := by
  have hnew : newWithRuleset "alice" "bob" (arenaRuleset "ember_foundry") =
      .ok (initialRoom "alice" "bob" (arenaRuleset "ember_foundry")) :=
    newWithRuleset_of_accepted (by decide) (by decide) (by decide) (by decide)
  have hstep := (no_speed_hack hnew dashEvents .a).2.1 .x 90 (by decide +kernel)
  rw [if_pos (by decide +kernel)] at hstep
  refine ⟨hnew, ?_, hstep⟩
  decide +kernel

end PvpDuel.Simulation
