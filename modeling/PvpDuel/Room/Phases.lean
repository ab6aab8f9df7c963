import PvpDuel.Room.Lifecycle

/-!
# The phases of a light attack

An attack runs through windup, active and recovery. `elapsed` counts the ticks since its start from
the state and its remaining ticks; one active tick adds one to it until the attack is over, a new
attack starts it at zero, and damage ends it. `InPhase` is what makes that count meaningful.
-/

namespace PvpDuel.Simulation

namespace PlayerState

/-- Windup, active or recovery: the phases of a light attack. -/
def Attacking (player : PlayerState) : Prop :=
  player.actionState = .lightAttackWindup ∨ player.actionState = .lightAttackActive ∨
    player.actionState = .lightAttackRecovery

/-- The ticks since the start of the attack under way. -/
def elapsed (rules : Ruleset) (player : PlayerState) : Nat :=
  let remaining := player.actionTicksRemaining.toNat
  let windup := rules.lightAttack.windupTicks.toNat
  let active := rules.lightAttack.activeTicks.toNat
  let recovery := rules.lightAttack.recoveryTicks.toNat
  match player.actionState with
  | .lightAttackWindup => windup - remaining
  | .lightAttackActive => windup + active - remaining
  | .lightAttackRecovery => windup + active + recovery - remaining
  | .idle | .move | .dash | .hit | .ko => 0

/-- The remaining ticks fit the state, and a state without an action has no start. -/
def InPhase (rules : Ruleset) (player : PlayerState) : Prop :=
  let remaining := player.actionTicksRemaining.toNat
  match player.actionState with
  | .idle | .move => player.actionStartedServerTick = 0 ∧ remaining = 0
  | .dash | .hit => remaining = 1
  | .lightAttackWindup => 1 ≤ remaining ∧ remaining ≤ rules.lightAttack.windupTicks.toNat
  | .lightAttackActive => 1 ≤ remaining ∧ remaining ≤ rules.lightAttack.activeTicks.toNat
  | .lightAttackRecovery => 1 ≤ remaining ∧ remaining ≤ rules.lightAttack.recoveryTicks.toNat
  | .ko => remaining = 0

end PlayerState

/-- The length of an attack that nothing interrupts. -/
def Ruleset.attackTicks (rules : Ruleset) : Nat :=
  rules.lightAttack.windupTicks.toNat + rules.lightAttack.activeTicks.toNat +
    rules.lightAttack.recoveryTicks.toNat

namespace PlayerState

theorem not_attacking_of_inLocomotion {player : PlayerState} (h : player.inLocomotion = true) :
    ¬ player.Attacking := by
  unfold inLocomotion at h
  rintro (hstate | hstate | hstate) <;> rw [hstate] at h <;> cases h

theorem ne_ko_of_phase {player : PlayerState}
    (h : player.inLocomotion = true ∨ player.Attacking) : player.actionState ≠ .ko := by
  intro hko
  rcases h with hloc | hattack | hattack | hattack
  · simp [inLocomotion, hko] at hloc
  all_goals
    rw [hko] at hattack
    cases hattack

/-- The active phase is the window of the elapsed ticks between windup and recovery. -/
theorem InPhase.active_iff {rules : Ruleset} {player : PlayerState} (h : player.InPhase rules)
    (hattack : player.Attacking) : player.actionState = .lightAttackActive ↔
      rules.lightAttack.windupTicks.toNat ≤ player.elapsed rules ∧
      player.elapsed rules <
        rules.lightAttack.windupTicks.toNat + rules.lightAttack.activeTicks.toNat := by
  unfold InPhase at h
  unfold elapsed
  rcases hattack with hstate | hstate | hstate <;> simp only [hstate] at h ⊢
  · simp only [reduceCtorEq, false_iff]
    omega
  · simp only [true_iff]
    omega
  · simp only [reduceCtorEq, false_iff]
    omega

/-! ### One tick of the phases -/

theorem tickDown_eq (player : PlayerState) : ∃ remaining,
    player.tickDown = { player with actionTicksRemaining := remaining } ∧
    remaining.toNat = player.actionTicksRemaining.toNat - 1 := by
  unfold tickDown
  split_ifs with hpos
  · refine ⟨_, rfl, FixedWidth.uint32_toNat_sub ?_⟩
    rw [gt_iff_lt, UInt32.lt_iff_toNat_lt] at hpos
    exact hpos
  · refine ⟨player.actionTicksRemaining, rfl, ?_⟩
    rw [gt_iff_lt, UInt32.lt_iff_toNat_lt, UInt32.toNat_zero] at hpos
    omega

theorem setLocomotionState_inLocomotion (input : Input) (player : PlayerState) :
    (player.setLocomotionState input).inLocomotion = true := by
  unfold setLocomotionState inLocomotion
  dsimp only
  split_ifs <;> rfl

theorem setLocomotionState_inPhase (rules : Ruleset) (input : Input) (player : PlayerState) :
    (player.setLocomotionState input).InPhase rules := by
  unfold setLocomotionState InPhase
  dsimp only
  split_ifs <;> exact ⟨rfl, rfl⟩

/-- What a tick leaves of an attack: its next tick. -/
structure Continues (rules : Ruleset) (before after : PlayerState) : Prop where
  attacking : before.Attacking
  attacking' : after.Attacking
  elapsed : after.elapsed rules = before.elapsed rules + 1
  started : after.actionStartedServerTick = before.actionStartedServerTick
  facingX : after.facingX = before.facingX
  facingY : after.facingY = before.facingY

theorem Continues.intro {rules : Ruleset} {player : PlayerState} {actionState : ActionState}
    {actionTicksRemaining : UInt32} (hattack : player.Attacking)
    (hattack' : ({ player with actionState, actionTicksRemaining } : PlayerState).Attacking)
    (helapsed : ({ player with actionState, actionTicksRemaining } : PlayerState).elapsed rules =
      player.elapsed rules + 1) :
    Continues rules player { player with actionState, actionTicksRemaining } :=
  ⟨hattack, hattack', helapsed, rfl, rfl, rfl⟩

/-- Advancing the states continues an attack that has ticks left, and anything else is over. -/
theorem InPhase.advanceActionState {rules : Ruleset} (hrules : rules.Accepted)
    {player : PlayerState} (h : player.InPhase rules) (halive : player.actionState ≠ .ko)
    (input : Input) : (player.advanceActionState rules input).InPhase rules ∧
      (Continues rules player (player.advanceActionState rules input) ∨
        (player.advanceActionState rules input).inLocomotion = true ∧
          (player.Attacking → rules.attackTicks ≤ player.elapsed rules + 1)) := by
  have hactive := hrules.activeTicks_pos
  obtain ⟨remaining, hdown, hremaining⟩ := player.tickDown_eq
  have hover := setLocomotionState_inPhase rules input
  have hover' := setLocomotionState_inLocomotion input
  have hpos : ∀ x : UInt32, x > 0 ↔ 0 < x.toNat := fun x => UInt32.lt_iff_toNat_lt
  by_cases hlocomotion : player.inLocomotion = true
  · rw [PlayerState.advanceActionState, if_pos (.inr hlocomotion)]
    exact ⟨h, .inr ⟨hlocomotion, fun hattack =>
      absurd hattack (not_attacking_of_inLocomotion hlocomotion)⟩⟩
  rw [PlayerState.advanceActionState, if_neg (not_or.2 ⟨halive, hlocomotion⟩), hdown]
  dsimp only
  by_cases hmore : remaining > 0
  · rw [if_pos hmore]
    rw [hpos] at hmore
    unfold InPhase at h ⊢
    have hattack : player.Attacking := by
      unfold Attacking
      cases hstate : player.actionState <;> simp [hstate] at h ⊢ <;> omega
    refine ⟨?_, .inl (Continues.intro hattack hattack ?_)⟩
    · rcases hattack with hstate | hstate | hstate <;> simp only [hstate] at h ⊢ <;> omega
    · unfold elapsed
      rcases hattack with hstate | hstate | hstate <;> simp only [hstate] at h ⊢ <;> omega
  rw [if_neg hmore]
  rw [hpos] at hmore
  have hover'' : (player.Attacking → rules.attackTicks ≤ player.elapsed rules + 1) →
      (({ player with actionTicksRemaining := remaining } :
        PlayerState).setLocomotionState input).InPhase rules ∧
      (Continues rules player (({ player with actionTicksRemaining := remaining } :
        PlayerState).setLocomotionState input) ∨
        (({ player with actionTicksRemaining := remaining } :
          PlayerState).setLocomotionState input).inLocomotion = true ∧
          (player.Attacking → rules.attackTicks ≤ player.elapsed rules + 1)) :=
    fun hlast => ⟨hover _, .inr ⟨hover' _, hlast⟩⟩
  unfold InPhase at h
  unfold enterNextPhase
  cases hstate : player.actionState with
  | idle => simp [inLocomotion, hstate] at hlocomotion
  | move => simp [inLocomotion, hstate] at hlocomotion
  | ko => exact absurd hstate halive
  | dash => exact hover'' fun hattack => by simp [Attacking, hstate] at hattack
  | hit => exact hover'' fun hattack => by simp [Attacking, hstate] at hattack
  | lightAttackWindup =>
      simp only [hstate] at h ⊢
      refine ⟨?_, .inl (Continues.intro (.inl hstate) (.inr (.inl rfl)) ?_)⟩
      · simp only [InPhase]
        omega
      · simp only [elapsed, hstate]
        omega
  | lightAttackActive =>
      simp only [hstate] at h ⊢
      by_cases hrecovery : rules.lightAttack.recoveryTicks > 0
      · rw [if_pos hrecovery]
        rw [hpos] at hrecovery
        refine ⟨?_, .inl (Continues.intro (.inr (.inl hstate)) (.inr (.inr rfl)) ?_)⟩
        · simp only [InPhase]
          omega
        · simp only [elapsed, hstate]
          omega
      · rw [if_neg hrecovery]
        rw [hpos] at hrecovery
        refine hover'' fun _ => ?_
        simp only [elapsed, hstate, Ruleset.attackTicks]
        omega
  | lightAttackRecovery =>
      refine hover'' fun _ => ?_
      simp only [hstate] at h
      simp only [elapsed, hstate, Ruleset.attackTicks]
      omega

/-- Movement keeps the phase; in an attack it keeps the facing as well. -/
theorem applyMovement_phase (rules : Ruleset) (input : Input) (player : PlayerState) :
    (player.inLocomotion = true →
      (player.applyMovement rules input).inLocomotion = true) ∧
    (player.InPhase rules → (player.applyMovement rules input).InPhase rules) ∧
    (player.Attacking → (player.applyMovement rules input).Attacking ∧
      (player.applyMovement rules input).elapsed rules = player.elapsed rules ∧
      (player.applyMovement rules input).actionStartedServerTick =
        player.actionStartedServerTick ∧
      (player.applyMovement rules input).facingX = player.facingX ∧
      (player.applyMovement rules input).facingY = player.facingY) := by
  unfold PlayerState.applyMovement
  dsimp only
  split_ifs with hstopped hlocomotion
  · exact ⟨fun h => h, fun h => h, fun h => ⟨h, rfl, rfl, rfl, rfl⟩⟩
  · exact ⟨fun _ => setLocomotionState_inLocomotion input _,
      fun _ => setLocomotionState_inPhase rules input _,
      fun h => absurd h
        (not_attacking_of_inLocomotion (show player.inLocomotion = true from hlocomotion))⟩
  · exact ⟨fun h => h, fun h => h, fun h => ⟨h, rfl, rfl, rfl, rfl⟩⟩

theorem InPhase.applyDamage {rules : Ruleset} {player : PlayerState} (h : player.InPhase rules)
    (tick : UInt32) (damage : Int32) : (player.applyDamage tick damage).InPhase rules := by
  unfold PlayerState.applyDamage
  split_ifs with hzero
  · exact h
  · unfold InPhase
    dsimp only
    by_cases hko : max (player.hp - damage) 0 = 0
    · rw [if_pos hko, if_pos hko]
      rfl
    · rw [if_neg hko, if_neg hko]
      rfl

theorem not_attacking_applyDamage {tick : UInt32} {damage : Int32} (hdamage : damage ≠ 0)
    (player : PlayerState) : ¬ (player.applyDamage tick damage).Attacking := by
  rw [PlayerState.applyDamage, if_neg hdamage]
  unfold Attacking
  dsimp only
  split_ifs <;> decide

end PlayerState

/-! ### One seat -/

namespace Seat

open PlayerState

/-- Processing the queue of this seat starts a light attack. -/
def StartsLightAttack (rules : Ruleset) (tick : UInt32) (s : Seat) : Prop :=
  ∃ command ∈ (s.beforeActions rules).effects rules tick s.pendingActions,
    command.type = .lightAttack

instance (rules : Ruleset) (tick : UInt32) (s : Seat) : Decidable (s.StartsLightAttack rules tick) := by
  unfold StartsLightAttack
  infer_instance

/-- When the actions are processed, an attack with ticks left goes on and nothing else does. -/
theorem beforeActions_phase {rules : Ruleset} (hrules : rules.Accepted) {s : Seat}
    (h : s.player.InPhase rules) (halive : s.player.actionState ≠ .ko) :
    (s.beforeActions rules).player.InPhase rules ∧
      (Continues rules s.player (s.beforeActions rules).player ∨
        (s.beforeActions rules).player.inLocomotion = true ∧
          (s.player.Attacking → rules.attackTicks ≤ s.player.elapsed rules + 1)) := by
  obtain ⟨hphase, hcontinues | ⟨hover, hlast⟩⟩ := h.advanceActionState hrules halive s.input
  all_goals
    obtain ⟨hloc, hinphase, hattacking⟩ :=
      applyMovement_phase rules s.input (s.player.advanceActionState rules s.input)
    refine ⟨hinphase hphase, ?_⟩
  · obtain ⟨hattack, helapsed, hstarted, hx, hy⟩ := hattacking hcontinues.attacking'
    exact .inl ⟨hcontinues.attacking, hattack, helapsed.trans hcontinues.elapsed,
      hstarted.trans hcontinues.started, hx.trans hcontinues.facingX, hy.trans hcontinues.facingY⟩
  · exact .inr ⟨hloc hover, hlast⟩

theorem startLightAttack_phase {rules : Ruleset} (hrules : rules.Accepted) (tick : UInt32)
    (s : Seat) : (s.startLightAttack rules tick).player.InPhase rules ∧
      (s.startLightAttack rules tick).player.Attacking ∧
      (s.startLightAttack rules tick).player.elapsed rules = 0 := by
  have hactive := hrules.activeTicks_pos
  by_cases hwindup : rules.lightAttack.windupTicks = 0
  · have hstate : (s.startLightAttack rules tick).player.actionState = .lightAttackActive :=
      if_pos hwindup
    have hremaining : (s.startLightAttack rules tick).player.actionTicksRemaining =
        rules.lightAttack.activeTicks := if_pos hwindup
    have hzero : rules.lightAttack.windupTicks.toNat = 0 := by rw [hwindup]; rfl
    refine ⟨?_, .inr (.inl hstate), ?_⟩
    · simp only [InPhase, hstate, hremaining]
      omega
    · simp only [elapsed, hstate, hremaining]
      omega
  · have hstate : (s.startLightAttack rules tick).player.actionState = .lightAttackWindup :=
      if_neg hwindup
    have hremaining : (s.startLightAttack rules tick).player.actionTicksRemaining =
        rules.lightAttack.windupTicks := if_neg hwindup
    have hpos := Nat.pos_of_ne_zero fun hzero => hwindup (UInt32.toNat_inj.1 hzero)
    refine ⟨?_, .inl hstate, ?_⟩
    · simp only [InPhase, hstate, hremaining]
      omega
    · simp only [elapsed, hstate, hremaining]
      omega

/-- A seat up to the hits: its attack goes on, it starts an attack, or it is not attacking. -/
inductive HitsPhase (rules : Ruleset) (tick : UInt32) (before after : Seat) : Prop
  | continues (h : Continues rules before.player after.player)
      (hfacing : after.attackFacing = before.attackFacing)
      (hstarts : ¬ before.StartsLightAttack rules tick)
  | starts (hattack : after.player.Attacking) (helapsed : after.player.elapsed rules = 0)
      (hstarted : after.player.actionStartedServerTick = tick)
      (hfacing : after.attackFacing = { x := after.player.facingX, y := after.player.facingY })
      (hstarts : before.StartsLightAttack rules tick)
      (hlast : before.player.Attacking → rules.attackTicks ≤ before.player.elapsed rules + 1)
  | dashes (hstate : after.player.actionState = .dash)
      (hstarted : after.player.actionStartedServerTick = tick)
      (hstarts : ¬ before.StartsLightAttack rules tick)
      (hlast : before.player.Attacking → rules.attackTicks ≤ before.player.elapsed rules + 1)
  | rests (hloc : after.player.inLocomotion = true)
      (hstarts : ¬ before.StartsLightAttack rules tick)
      (hlast : before.player.Attacking → rules.attackTicks ≤ before.player.elapsed rules + 1)

theorem toHits_phase {rules : Ruleset} (hrules : rules.Accepted) (tick : UInt32) {s : Seat}
    (h : s.player.InPhase rules) (halive : s.player.actionState ≠ .ko) :
    (s.toHits rules tick).player.InPhase rules ∧ HitsPhase rules tick s (s.toHits rules tick) := by
  have hactive := hrules.activeTicks_pos
  obtain ⟨hphase, hbefore⟩ := beforeActions_phase hrules h halive
  have hfree : (s.beforeActions rules).player.canStartAction = true →
      s.player.Attacking → rules.attackTicks ≤ s.player.elapsed rules + 1 := by
    intro hstart
    rcases hbefore with hcontinues | ⟨-, hlast⟩
    · have hloc : (s.beforeActions rules).player.inLocomotion = true := by
        rw [PlayerState.canStartAction, Bool.and_eq_true] at hstart
        exact hstart.2
      exact absurd hcontinues.attacking' (not_attacking_of_inLocomotion hloc)
    · exact hlast
  rw [toHits_eq]
  rcases (s.beforeActions rules).processActions_cases rules tick with
    ⟨heffects, heq⟩ | ⟨command, heffects, htype, hstart, -, heq⟩ |
    ⟨command, heffects, htype, hstart, -, heq⟩ <;>
    rw [heq] <;> rw [beforeActions_pendingActions] at heffects
  · have hstarts : ¬ s.StartsLightAttack rules tick := by
      rw [StartsLightAttack, heffects]
      simp
    have hfacing : (s.beforeActions rules).attackFacing = s.attackFacing := rfl
    clear heq heffects hfree
    generalize s.beforeActions rules = b at hphase hbefore hfacing ⊢
    refine ⟨hphase, ?_⟩
    rcases hbefore with hcontinues | ⟨hloc, hlast⟩
    · exact .continues ⟨hcontinues.attacking, hcontinues.attacking', hcontinues.elapsed,
        hcontinues.started, hcontinues.facingX, hcontinues.facingY⟩ hfacing hstarts
    · exact .rests hloc hstarts hlast
  · have hstarts : ¬ s.StartsLightAttack rules tick := by
      rw [StartsLightAttack, heffects]
      simp [htype]
    exact ⟨rfl, .dashes rfl rfl hstarts (hfree hstart)⟩
  · have hstarts : s.StartsLightAttack rules tick := by
      rw [StartsLightAttack, heffects]
      exact ⟨command, List.mem_singleton.2 rfl, htype⟩
    have hlast := hfree hstart
    clear heq heffects hfree hbefore hphase hstart
    generalize s.beforeActions rules = b
    obtain ⟨hphase, hattack, helapsed⟩ := startLightAttack_phase hrules tick b
    exact ⟨hphase, .starts hattack helapsed rfl rfl hstarts hlast⟩

theorem HitsPhase.ne_ko {rules : Ruleset} {tick : UInt32} {before after : Seat}
    (h : HitsPhase rules tick before after) : after.player.actionState ≠ .ko := by
  cases h with
  | continues hcontinues _ _ => exact ne_ko_of_phase (.inr hcontinues.attacking')
  | starts hattack _ _ _ _ _ => exact ne_ko_of_phase (.inr hattack)
  | dashes hstate _ _ _ =>
      rw [hstate]
      decide
  | rests hloc _ _ => exact ne_ko_of_phase (.inl hloc)

end Seat

/-! ### The room -/

namespace Room

/-- After `n` steps: nobody acts before the match begins, every state fits its timer, and exactly
the players without hit points are down. -/
structure Phased (r : Room) (n : Nat) : Prop extends r.Lifecycle n where
  quiet : r.status = .countdown → ∀ i, (r.seats.get i).player.inLocomotion = true
  inPhase : ∀ i, (r.seats.get i).player.InPhase r.rules
  ko_iff : ∀ i, (r.seats.get i).player.actionState = .ko ↔ (r.seats.get i).player.hp = 0

theorem initialRoom_phased (playerA playerB : String) {rules : Ruleset} (h : rules.Accepted) :
    (initialRoom playerA playerB rules).Phased 0 := by
  have hlife := initialRoom_lifecycle playerA playerB h
  refine ⟨hlife, fun _ i => ?_, fun i => ?_, fun i => iff_of_false ?_ ?_⟩
  · cases i <;> rfl
  · cases i <;> exact ⟨rfl, rfl⟩
  · cases i <;> exact fun hko => (by cases hko)
  · exact hlife.hp_ne_zero (fun hs => (by cases hs)) i

theorem Phased.submitInput {r : Room} {n : Nat} (h : r.Phased n) (playerID : String)
    (input : Input) : (r.submitInput playerID input).1.Phased n := by
  have hplayers := player_of_snapshot_eq (r.submitInput_snapshot playerID input)
  refine ⟨h.toLifecycle.submitInput playerID input, ?_, ?_, ?_⟩
  · simp only [hplayers, submitInput_status]
    exact h.quiet
  · simp only [hplayers, submitInput_rules]
    exact h.inPhase
  · simp only [hplayers]
    exact h.ko_iff

/-- An active step takes a seat through one of the cases of `HitsPhase`. -/
theorem Phased.toHits_phase {r : Room} {n : Nat} (h : r.Phased n) (hs : r.status ≠ .finished)
    (i : Side) : ((r.seats.get i).toHits r.rules (r.tick + 1)).player.InPhase r.rules ∧
      Seat.HitsPhase r.rules (r.tick + 1) (r.seats.get i)
        ((r.seats.get i).toHits r.rules (r.tick + 1)) :=
  (r.seats.get i).toHits_phase h.accepted (r.tick + 1) (h.inPhase i)
    (mt (h.ko_iff i).1 (h.hp_ne_zero hs i))

theorem Phased.stepSeat_ko_iff {r : Room} {n : Nat} (h : r.Phased n) (hs : r.status ≠ .finished)
    (i : Side) : (r.stepSeat i).player.actionState = .ko ↔ (r.stepSeat i).player.hp = 0 := by
  unfold stepSeat Seat.applyDamage PlayerState.applyDamage
  dsimp only
  split_ifs with hzero hhp
  · refine iff_of_false (h.toHits_phase hs i).2.ne_ko ?_
    rw [((r.seats.get i).toHits_fields r.rules (r.tick + 1)).2.1]
    exact h.hp_ne_zero hs i
  · exact iff_of_true rfl hhp
  · exact iff_of_false (fun hko => (by cases hko)) hhp

theorem Phased.step {r : Room} {n : Nat} (h : r.Phased n) : r.step.Phased (n + 1) := by
  by_cases hf : r.status = .finished
  · have hlife := h.toLifecycle.step
    rw [step_of_finished hf] at hlife ⊢
    exact ⟨hlife, h.quiet, h.inPhase, h.ko_iff⟩
  refine ⟨h.toLifecycle.step, fun hs i => ?_, fun i => ?_, fun i => ?_⟩
  · have hc := h.countdown_of_step hs
    rcases r.seat_step i with ⟨-, hseat⟩ | ⟨-, hseat⟩ | ⟨-, hseat⟩ | ⟨-, hactive, -⟩
    · rw [hseat]
      exact h.quiet hc i
    · rw [hseat, Seat.acknowledgeRejectedActions_eq]
      exact h.quiet hc i
    · rw [hseat, Seat.acknowledgeRejectedActions_eq]
      exact h.quiet hc i
    · exact absurd hc hactive
  · rw [step_rules]
    rcases r.seat_step i with ⟨-, hseat⟩ | ⟨-, hseat⟩ | ⟨-, hseat⟩ | ⟨-, -, hseat⟩ <;> rw [hseat]
    · exact h.inPhase i
    · rw [Seat.acknowledgeRejectedActions_eq]
      exact h.inPhase i
    · rw [Seat.acknowledgeRejectedActions_eq]
      exact h.inPhase i
    · exact (h.toHits_phase hf i).1.applyDamage _ _
  · rcases r.seat_step i with ⟨-, hseat⟩ | ⟨-, hseat⟩ | ⟨-, hseat⟩ | ⟨-, -, hseat⟩ <;> rw [hseat]
    · exact h.ko_iff i
    · rw [Seat.acknowledgeRejectedActions_eq]
      exact h.ko_iff i
    · rw [Seat.acknowledgeRejectedActions_eq]
      exact h.ko_iff i
    · exact h.stepSeat_ko_iff hf i

theorem Phased.run {r : Room} {n : Nat} (h : r.Phased n) (events : List Event) :
    (r.run events).Phased (n + stepCount events) :=
  run_counted (P := Phased) (fun _ _ playerID input h => h.submitInput playerID input)
    (fun _ _ h => h.step) h events

end Room

end PvpDuel.Simulation
