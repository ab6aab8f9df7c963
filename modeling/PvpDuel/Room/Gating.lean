import PvpDuel.Room.Damage
import PvpDuel.Room.Timeline

/-!
# Cooldowns and phases

`nextDashTick` and `nextAttackTick` are deadlines: an action that takes effect sets its own to the
end of its cooldown, and nothing else moves it while the match is active. So the steps at which
commands take effect are spaced as the rules ask, whatever the inputs are.
-/

namespace PvpDuel.Simulation

/-- The tick before which no command of this type takes effect. -/
def Seat.readyTick (s : Seat) : ActionType → UInt32
  | .dash => s.nextDashTick
  | .lightAttack => s.nextAttackTick
  | .unspecified => 0

def Ruleset.cooldownTicks (rules : Ruleset) : ActionType → UInt32
  | .dash => rules.dash.cooldownTicks
  | .lightAttack => rules.lightAttack.cooldownTicks
  | .unspecified => 0

/-! ### One seat -/

namespace Seat

/-- A queue takes no effect and moves no deadline, or one command takes effect and moves its own. -/
theorem processActions_readyTick (rules : Ruleset) (tick : UInt32) (s : Seat) :
    (s.effects rules tick s.pendingActions = [] ∧
      ∀ kind, (s.processActions rules tick).readyTick kind = s.readyTick kind) ∨
    ∃ command, s.effects rules tick s.pendingActions = [command] ∧
      s.player.canStartAction = true ∧ s.readyTick command.type ≤ tick ∧
      ∀ kind, (s.processActions rules tick).readyTick kind =
        if kind = command.type then tick + rules.cooldownTicks kind else s.readyTick kind := by
  rcases s.processActions_cases rules tick with
    ⟨heffects, heq⟩ | ⟨command, heffects, htype, hstart, hready, heq⟩ |
    ⟨command, heffects, htype, hstart, hready, heq⟩
  · refine .inl ⟨heffects, fun kind => ?_⟩
    rw [heq]
    cases kind <;> rfl
  · refine .inr ⟨command, heffects, hstart, htype ▸ hready, fun kind => ?_⟩
    rw [heq, htype]
    cases kind <;> rfl
  · refine .inr ⟨command, heffects, hstart, htype ▸ hready, fun kind => ?_⟩
    rw [heq, htype]
    cases kind <;> rfl

theorem submitInput_readyTick (s : Seat) (input : Input) (kind : ActionType) :
    (s.submitInput input).readyTick kind = s.readyTick kind := by
  rcases s.submitInput_cases input with heq | ⟨_, heq⟩ | ⟨_, -, heq⟩ <;> rw [heq] <;> cases kind <;>
    rfl

end Seat

namespace Room

/-- The commands of a player that take effect in the next step; only its active branch processes
actions. -/
def effects (r : Room) (i : Side) : List ActionCommand :=
  if r.status = .finished ∨ r.status = .countdown then []
  else
    ((r.seats.get i).beforeActions r.rules).effects r.rules (r.tick + 1)
      (r.seats.get i).pendingActions

/-- A command of this type takes effect at step `u` of a run. -/
def ActsAt (r : Room) (events : List Event) (i : Side) (kind : ActionType) (u : Nat) : Prop :=
  u < stepCount events ∧ ∃ command ∈ (r.atStep events u).effects i, command.type = kind

instance (r : Room) (events : List Event) (i : Side) (kind : ActionType) (u : Nat) :
    Decidable (r.ActsAt events i kind u) := by
  unfold ActsAt
  infer_instance

theorem effects_of_active {r : Room} (ha : r.status = .active) (i : Side) : r.effects i =
    ((r.seats.get i).beforeActions r.rules).effects r.rules (r.tick + 1)
      (r.seats.get i).pendingActions := by
  rw [effects, if_neg (by rw [ha]; decide)]

/-- What the step makes of a player's seat: his queue starts nothing, or it starts the action of the one
command that takes effect, and then he is hit or not. -/
def Starts (r : Room) (i : Side) : Prop :=
  let before := (r.seats.get i).beforeActions r.rules
  let hit := Seat.applyDamage (r.tick + 1) (r.stepDamage i)
  (r.effects i = [] ∧ r.step.seats.get i = hit (before.settle before)) ∨
  (∃ command, r.effects i = [command] ∧ command.type = .dash ∧
    r.step.seats.get i = hit (before.settle (before.startDash r.rules (r.tick + 1)))) ∨
  ∃ command, r.effects i = [command] ∧ command.type = .lightAttack ∧
    r.step.seats.get i = hit (before.settle (before.startLightAttack r.rules (r.tick + 1)))

theorem starts_of_active {r : Room} (ha : r.status = .active) (i : Side) : r.Starts i := by
  unfold Starts
  rw [step_seat_of_active ha, effects_of_active ha]
  rcases ((r.seats.get i).beforeActions r.rules).processActions_cases r.rules (r.tick + 1) with
    ⟨heffects, heq⟩ | ⟨command, heffects, htype, -, -, heq⟩ | ⟨command, heffects, htype, -, -, heq⟩
  · exact .inl ⟨heffects, congrArg (Seat.applyDamage _ _) heq⟩
  · exact .inr (.inl ⟨command, heffects, htype, congrArg (Seat.applyDamage _ _) heq⟩)
  · exact .inr (.inr ⟨command, heffects, htype, congrArg (Seat.applyDamage _ _) heq⟩)

theorem step_readyTick {r : Room} (ha : r.status = .active) (i : Side) :
    (r.effects i = [] ∧
      ∀ kind, (r.step.seats.get i).readyTick kind = (r.seats.get i).readyTick kind) ∨
    ∃ command, r.effects i = [command] ∧
      ((r.seats.get i).beforeActions r.rules).player.canStartAction = true ∧
      (r.seats.get i).readyTick command.type ≤ r.tick + 1 ∧
      ∀ kind, (r.step.seats.get i).readyTick kind =
        if kind = command.type then r.tick + 1 + r.rules.cooldownTicks kind
        else (r.seats.get i).readyTick kind := by
  have hbefore : ∀ kind, ((r.seats.get i).beforeActions r.rules).readyTick kind =
      (r.seats.get i).readyTick kind := by
    intro kind
    cases kind <;> rfl
  have hstep : ∀ kind, (r.step.seats.get i).readyTick kind =
      (((r.seats.get i).beforeActions r.rules).processActions r.rules (r.tick + 1)).readyTick
        kind := by
    intro kind
    rw [step_seat_of_active ha]
    cases kind <;> rfl
  rw [effects_of_active ha]
  rcases ((r.seats.get i).beforeActions r.rules).processActions_readyTick r.rules (r.tick + 1) with
    ⟨heffects, hready⟩ | ⟨command, heffects, hstart, hready, hdeadline⟩
  · exact .inl ⟨heffects, fun kind => by rw [hstep, hready, hbefore]⟩
  · rw [hbefore] at hready
    exact .inr ⟨command, heffects, hstart, hready, fun kind => by rw [hstep, hdeadline, hbefore]⟩

/-- Nothing happens to a player outside an active match but that his commands are acknowledged. -/
theorem step_player_of_not_active {r : Room} (hwaiting : r.status ≠ .waiting)
    (ha : r.status ≠ .active) (i : Side) : (r.step.seats.get i).player =
      { (r.seats.get i).player with
        lastAckedActionSequence := (r.step.seats.get i).player.lastAckedActionSequence } := by
  rcases r.seat_step i with ⟨-, heq⟩ | ⟨-, heq⟩ | ⟨-, heq⟩ | ⟨hf, hc, -⟩
  · rw [heq]
  · rw [heq, Seat.acknowledgeRejectedActions_eq]
    rfl
  · rw [heq, Seat.acknowledgeRejectedActions_eq]
    rfl
  · cases hs : r.status <;> simp_all

variable {r : Room} {events : List Event} {i : Side}

theorem run_inputs_readyTick (r : Room) {inputs : List Event} (h : ∀ event ∈ inputs, event ≠ .step)
    (i : Side) (kind : ActionType) :
    ((r.run inputs).seats.get i).readyTick kind = (r.seats.get i).readyTick kind := by
  induction inputs generalizing r with
  | nil => rfl
  | cons event inputs ih =>
      rw [List.forall_mem_cons] at h
      rw [run_cons, ih _ h.2]
      cases event with
      | step => exact absurd rfl h.1
      | submitInput playerID input =>
          rcases r.seat_submitInput playerID input i with heq | heq
          · exact congrArg (fun s => Seat.readyTick s kind) heq
          · exact (congrArg (fun s => Seat.readyTick s kind) heq).trans
              (Seat.submitInput_readyTick _ input kind)

theorem atStep_succ_readyTick {u : Nat} (hu : u < stepCount events) (i : Side) (kind : ActionType) :
    ((r.atStep events (u + 1)).seats.get i).readyTick kind =
      ((r.atStep events u).step.seats.get i).readyTick kind := by
  obtain ⟨inputs, hinputs, heq⟩ := callsBefore_succ hu
  rw [atStep, heq, run_append, run_cons]
  exact run_inputs_readyTick _ hinputs i kind

theorem Timeline.atStep (h : r.Timeline 0) (events : List Event) {u : Nat}
    (hu : u ≤ stepCount events) : (r.atStep events u).Timeline u := by
  have hrun := h.run (callsBefore events u)
  rwa [stepCount_callsBefore hu, Nat.zero_add] at hrun

theorem Timeline.active_tick (h : r.Timeline 0) {u : Nat} (hu : u ≤ stepCount events)
    (ha : (r.atStep events u).status = .active) : ((r.atStep events u).tick + 1).toNat = u + 1 ∧
      u + 1 ≤ r.rules.countdownTicks.toNat + r.rules.matchDurationTicks.toNat := by
  have hat := h.atStep events hu
  refine ⟨hat.tick_succ (by rw [ha]; decide), ?_⟩
  obtain ⟨hn, hlt⟩ := hat.active ha
  rw [atStep_rules] at hn hlt
  omega

/-- A command takes effect in an active match only, of a player who is alive. -/
theorem ActsAt.active (h : r.Phased 0) {kind : ActionType} {u : Nat}
    (hu : r.ActsAt events i kind u) : (r.atStep events u).status = .active ∧
      0 < ((r.atStep events u).seats.get i).player.hp := by
  obtain ⟨hlt, command, hcommand, -⟩ := hu
  have ha : (r.atStep events u).status = .active := by
    have hwaiting := (h.atStep events hlt.le).not_waiting
    unfold effects at hcommand
    split_ifs at hcommand with hidle
    · cases hcommand
    · cases hs : (r.atStep events u).status <;> simp_all
  refine ⟨ha, ?_⟩
  rcases step_readyTick ha i with ⟨hnone, -⟩ | ⟨_, -, hstart, -⟩
  · rw [hnone] at hcommand
    cases hcommand
  · rw [PlayerState.canStartAction, Seat.beforeActions_hp, Bool.and_eq_true] at hstart
    exact of_decide_eq_true hstart.1

theorem length_effects_le (r : Room) (i : Side) : (r.effects i).length ≤ 1 := by
  unfold effects
  split_ifs
  · exact Nat.zero_le 1
  · rcases ((r.seats.get i).beforeActions r.rules).processActions_readyTick r.rules
      (r.tick + 1) with ⟨hnone, -⟩ | ⟨command, hone, -⟩
    · exact (congrArg List.length hnone).trans_le (Nat.zero_le 1)
    · exact (congrArg List.length hone).le

/-! ### Cooldowns -/

/-- After an action has taken effect its deadline stays behind the end of the cooldown. -/
theorem readyTick_of_actsAt (h : r.Timeline 0) {kind : ActionType}
    (hrange : r.rules.countdownTicks.toNat + r.rules.matchDurationTicks.toNat +
      (r.rules.cooldownTicks kind).toNat < 2 ^ 32) {t u : Nat} (ht : r.ActsAt events i kind t)
    (htu : t < u) (hu : u ≤ stepCount events) (hactive : (r.atStep events u).status = .active) :
    t + 1 + (r.rules.cooldownTicks kind).toNat ≤
      (((r.atStep events u).seats.get i).readyTick kind).toNat := by
  induction u with
  | zero => exact absurd htu (Nat.not_lt_zero t)
  | succ u ih =>
      have htactive := (ht.active h.toPhased).1
      have hs : (r.atStep events u).status = .active :=
        active_of_between h.toPhased (Nat.lt_succ_iff.1 htu) (Nat.le_succ u) hu htactive hactive
      obtain ⟨htick, hlast⟩ := h.active_tick (Nat.le_of_succ_le hu) hs
      have hnew : (((r.atStep events u).tick + 1) + r.rules.cooldownTicks kind).toNat =
          u + 1 + (r.rules.cooldownTicks kind).toNat := by
        rw [FixedWidth.uint32_toNat_add (by rw [htick]; omega), htick]
      rw [atStep_succ_readyTick hu]
      have hold : t < u → t + 1 + (r.rules.cooldownTicks kind).toNat ≤
          (((r.atStep events u).seats.get i).readyTick kind).toNat :=
        fun hlt => ih hlt (Nat.le_of_succ_le hu) hs
      rcases step_readyTick hs i with ⟨hnone, hsame⟩ | ⟨command, hone, -, -, hdeadline⟩
      · rw [hsame]
        refine hold (Nat.lt_of_le_of_ne (Nat.lt_succ_iff.1 htu) ?_)
        rintro rfl
        obtain ⟨-, command, hcommand, -⟩ := ht
        rw [hnone] at hcommand
        cases hcommand
      · rw [hdeadline, atStep_rules]
        split_ifs with hkind
        · rw [hnew]
          omega
        · refine hold (Nat.lt_of_le_of_ne (Nat.lt_succ_iff.1 htu) ?_)
          rintro rfl
          obtain ⟨-, other, hother, htype⟩ := ht
          rw [hone, List.mem_singleton] at hother
          rw [hother] at htype
          exact hkind htype.symm

theorem ActsAt.cooldown (h : r.Timeline 0) {kind : ActionType}
    (hrange : r.rules.countdownTicks.toNat + r.rules.matchDurationTicks.toNat +
      (r.rules.cooldownTicks kind).toNat < 2 ^ 32) {t u : Nat} (ht : r.ActsAt events i kind t)
    (hu : r.ActsAt events i kind u) (htu : t < u) :
    t + (r.rules.cooldownTicks kind).toNat ≤ u := by
  have hactive := (hu.active h.toPhased).1
  have hdeadline := readyTick_of_actsAt h hrange ht htu hu.1.le hactive
  have htick := (h.active_tick hu.1.le hactive).1
  obtain ⟨-, command, hcommand, rfl⟩ := hu
  rcases step_readyTick hactive i with ⟨hnone, -⟩ | ⟨other, hone, -, hready, -⟩
  · rw [hnone] at hcommand
    cases hcommand
  · rw [hone, List.mem_singleton] at hcommand
    subst hcommand
    rw [UInt32.le_iff_toNat_le, htick] at hready
    omega

/-! ### Phases -/

theorem attackStartsAt_of_actsAt (h : r.Phased 0) {t : Nat}
    (ht : r.ActsAt events i .lightAttack t) : r.AttackStartsAt events i t := by
  have ha := (ht.active h).1
  obtain ⟨hlt, command, hcommand, htype⟩ := ht
  rw [effects_of_active ha, atStep_rules] at hcommand
  exact ⟨hlt, ha, command, hcommand, htype⟩

theorem ActsAt.after_attack (h : r.Phased 0) {kind : ActionType} {t u : Nat}
    (ht : r.ActsAt events i .lightAttack t) (hu : r.ActsAt events i kind u) (htu : t < u)
    (hfree : ∀ v, t ≤ v → v < u → ¬ r.DamagedAt events i v) : t + r.rules.attackTicks ≤ u := by
  by_contra hlt
  have ha := (hu.active h).1
  have hat := h.atStep events hu.1.le
  obtain ⟨hattack, helapsed⟩ := attack_goes_on h (attackStartsAt_of_actsAt h ht) htu hu.1.le ha
    (by omega) hfree
  obtain ⟨-, command, hcommand, -⟩ := hu
  rcases step_readyTick ha i with ⟨hnone, -⟩ | ⟨_, -, hstart, -⟩
  · rw [hnone] at hcommand
    cases hcommand
  obtain ⟨-, hbefore⟩ := Seat.beforeActions_phase hat.accepted (hat.inPhase i)
    (mt (hat.ko_iff i).1 (hat.hp_ne_zero (by rw [ha]; decide) i))
  rw [PlayerState.canStartAction, Bool.and_eq_true] at hstart
  rcases hbefore with hcontinues | ⟨-, hlast⟩
  · exact PlayerState.not_attacking_of_inLocomotion hstart.2 hcontinues.attacking'
  · have hend := hlast hattack
    rw [atStep_rules] at hend
    omega

end Room

/-- Dashes and light attacks that take effect are a cooldown apart, at most one action takes effect
in a step, none does while an attack goes on whose owner was not hit, and none takes effect outside
the active match or without hit points: there, a step only acknowledges. A player starts an action in a
step just when a command of his takes effect in it. Step `u` is that of tick `u + 1`. -/
theorem gating {playerA playerB : String} {rules : Ruleset} {r₀ : Room}
    (hnew : newWithRuleset playerA playerB rules = .ok r₀)
    (hdash : rules.countdownTicks.toNat + rules.matchDurationTicks.toNat +
      rules.dash.cooldownTicks.toNat < 2 ^ 32)
    (hattack : rules.countdownTicks.toNat + rules.matchDurationTicks.toNat +
      rules.lightAttack.cooldownTicks.toNat < 2 ^ 32) (events : List Event) (i : Side) :
    (∀ t u, r₀.ActsAt events i .dash t → r₀.ActsAt events i .dash u → t < u →
      t + rules.dash.cooldownTicks.toNat ≤ u) ∧
    (∀ t u, r₀.ActsAt events i .lightAttack t → r₀.ActsAt events i .lightAttack u → t < u →
      t + rules.lightAttack.cooldownTicks.toNat ≤ u) ∧
    (∀ u, ((r₀.atStep events u).effects i).length ≤ 1) ∧
    (∀ t u kind, r₀.ActsAt events i .lightAttack t → r₀.ActsAt events i kind u → t < u →
      (∀ v, t ≤ v → v < u → ¬ r₀.DamagedAt events i v) →
        t + rules.lightAttack.windupTicks.toNat + rules.lightAttack.activeTicks.toNat +
          rules.lightAttack.recoveryTicks.toNat ≤ u) ∧
    (∀ u kind, r₀.ActsAt events i kind u → (r₀.atStep events u).status = .active ∧
      (r₀.atStep events u).step.tick.toNat = u + 1 ∧
        0 < ((r₀.atStep events u).seats.get i).player.hp) ∧
    (∀ u, (r₀.atStep events u).status = .active → (r₀.atStep events u).Starts i) ∧
    ∀ u, u < stepCount events → (r₀.atStep events u).status ≠ .active →
      ((r₀.atStep events u).step.seats.get i).player =
        { ((r₀.atStep events u).seats.get i).player with
          lastAckedActionSequence :=
            ((r₀.atStep events u).step.seats.get i).player.lastAckedActionSequence } := by
  obtain ⟨-, -, -, hrules, rfl⟩ := newWithRuleset_ok hnew
  have htime := Room.initialRoom_timeline playerA playerB hrules (by omega)
  refine ⟨?_, ?_, ?_, ?_, ?_, fun u ha => Room.starts_of_active ha i, ?_⟩
  · intro t u ht hu htu
    refine Room.ActsAt.cooldown htime ?_ ht hu htu
    exact hdash
  · intro t u ht hu htu
    refine Room.ActsAt.cooldown htime ?_ ht hu htu
    exact hattack
  · intro u
    exact Room.length_effects_le _ i
  · intro t u kind ht hu htu hfree
    have hgap := Room.ActsAt.after_attack htime.toPhased ht hu htu hfree
    rwa [Ruleset.attackTicks, ← Nat.add_assoc, ← Nat.add_assoc] at hgap
  · intro u kind hu
    obtain ⟨ha, hhp⟩ := hu.active htime.toPhased
    refine ⟨ha, ?_, hhp⟩
    rw [Room.step_tick (by rw [ha]; decide)]
    exact (htime.active_tick hu.1.le ha).1
  · intro u hu ha
    exact Room.step_player_of_not_active (htime.toPhased.atStep events hu.le).not_waiting ha i

/-- A short match in which a dash takes three ticks to be ready again. -/
def nimbleRules : Ruleset :=
  { defaultRuleset with
    countdownTicks := 1, matchDurationTicks := 9
    dash := { defaultRuleset.dash with cooldownTicks := 3 } }

/-- A player sends an attack behind a dash, and dashes again as soon as he can. -/
def nimbleEvents : List Event :=
  [.step,
    .submitInput "alice"
      { tick := 1, moveX := 0, moveY := 0, actions := [⟨1, .dash⟩, ⟨2, .lightAttack⟩] },
    .step, .step, .step,
    .submitInput "alice" { tick := 2, moveX := 0, moveY := 0, actions := [⟨3, .dash⟩] }, .step]

theorem gating_nimble :
    newWithRuleset "alice" "bob" nimbleRules = .ok (initialRoom "alice" "bob" nimbleRules) ∧
    let r := initialRoom "alice" "bob" nimbleRules
    r.ActsAt nimbleEvents .a .dash 1 ∧ r.ActsAt nimbleEvents .a .dash 4 ∧ 1 + 3 ≤ 4 ∧
      ((r.atStep nimbleEvents 1).effects .a).length ≤ 1 := by
  have hnew : newWithRuleset "alice" "bob" nimbleRules =
      .ok (initialRoom "alice" "bob" nimbleRules) :=
    newWithRuleset_of_accepted (by decide) (by decide) (by decide) (by decide)
  have hfirst : (initialRoom "alice" "bob" nimbleRules).ActsAt nimbleEvents .a .dash 1 := by
    decide +kernel
  have hsecond : (initialRoom "alice" "bob" nimbleRules).ActsAt nimbleEvents .a .dash 4 := by
    decide +kernel
  obtain ⟨hdash, -, hone, -⟩ := gating hnew (by decide) (by decide) nimbleEvents .a
  exact ⟨hnew, hfirst, hsecond, hdash 1 4 hfirst hsecond (by decide), hone 1⟩

end PvpDuel.Simulation
