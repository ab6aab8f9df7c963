import PvpDuel.Room.Phases

/-!
# The action timeline of a snapshot

A player's state, its start and its remaining ticks agree with the server tick in every snapshot.
`Timed` is that agreement for one seat; each phase of an active tick keeps it or moves it to the next
tick. An attack keeps its facing from its first tick to its last, and the hit test reads that facing.
-/

namespace PvpDuel.Simulation

/-! ### Facing -/

namespace PlayerState

/-- The player faces one of the four unit directions. -/
def FacesCardinal (player : PlayerState) : Prop :=
  ({ x := player.facingX, y := player.facingY } : ActionFacing) ∈
    [{ x := 1, y := 0 }, { x := -1, y := 0 }, { x := 0, y := 1 }, ({ x := 0, y := -1 } : ActionFacing)]

theorem FacesCardinal.updateFacing {player : PlayerState} (h : player.FacesCardinal) {input : Input}
    (hx : IsAxis input.moveX) (hy : IsAxis input.moveY) :
    (player.updateFacing input).FacesCardinal := by
  unfold PlayerState.updateFacing
  split_ifs with hzero hxy
  · exact h
  · unfold FacesCardinal
    rcases hx with hx | hx | hx <;> rcases hy with hy | hy | hy <;> rw [hx, hy] at hzero hxy <;>
      simp_all <;> revert hxy <;> decide
  · unfold FacesCardinal
    rcases hx with hx | hx | hx <;> rcases hy with hy | hy | hy <;> rw [hx, hy] at hzero hxy <;>
      simp_all <;> revert hxy <;> decide

theorem FacesCardinal.advanceActionState {player : PlayerState} (h : player.FacesCardinal)
    (rules : Ruleset) (input : Input) :
    (player.advanceActionState rules input).FacesCardinal := by
  obtain ⟨_, _, _, heq⟩ := player.advanceActionState_eq rules input
  rw [heq]
  exact h

theorem FacesCardinal.applyMovement {player : PlayerState} (h : player.FacesCardinal)
    {input : Input} (hx : IsAxis input.moveX) (hy : IsAxis input.moveY) (rules : Ruleset) :
    (player.applyMovement rules input).FacesCardinal := by
  unfold PlayerState.applyMovement
  dsimp only
  split_ifs with hstopped hlocomotion
  · exact h
  · exact FacesCardinal.updateFacing (show PlayerState.FacesCardinal { player with
      lastAckedInputTick := input.tick } from h) hx hy
  · exact h

structure OnClock (rules : Ruleset) (tick : Nat) (player : PlayerState) : Prop where
  instant : player.actionState = .dash ∨ player.actionState = .hit ∨ player.actionState = .ko →
    player.actionStartedServerTick.toNat = tick
  attack : player.Attacking → player.actionStartedServerTick.toNat + player.elapsed rules = tick

theorem OnClock.of_inLocomotion {rules : Ruleset} {tick : Nat} {player : PlayerState}
    (hloc : player.inLocomotion = true) : player.OnClock rules tick where
  instant := by
    rw [PlayerState.inLocomotion] at hloc
    rintro (hstate | hstate | hstate) <;> rw [hstate] at hloc <;> cases hloc
  attack hattack := absurd hattack (not_attacking_of_inLocomotion hloc)

/-- A state that is no attack has no ticks left, or one that lasts this tick. -/
theorem OnClock.timer {rules : Ruleset} {tick : Nat} {player : PlayerState}
    (h : player.OnClock rules tick) (hphase : player.InPhase rules) :
    let e : Int := tick - player.actionStartedServerTick.toNat
    let r : Int := player.actionTicksRemaining.toNat
    (player.actionState = .idle ∨ player.actionState = .move →
      player.actionStartedServerTick = 0 ∧ r = 0) ∧
    (player.actionState = .dash ∨ player.actionState = .hit → e = 0 ∧ r = 1) ∧
    (player.actionState = .ko → e = 0 ∧ r = 0) := by
  unfold InPhase at hphase
  refine ⟨?_, ?_, ?_⟩
  · rintro (hstate | hstate) <;> simp only [hstate] at hphase <;> exact ⟨hphase.1, by omega⟩
  · intro hstate
    have hstarted := h.instant (by tauto)
    rcases hstate with hstate | hstate <;> simp only [hstate] at hphase <;> omega
  · intro hstate
    have hstarted := h.instant (.inr (.inr hstate))
    simp only [hstate] at hphase
    omega

/-- In an attack, the ticks since the start and the ticks left make up its phases so far. -/
theorem OnClock.attack_timer {rules : Ruleset} {tick : Nat} {player : PlayerState}
    (h : player.OnClock rules tick) (hphase : player.InPhase rules) :
    let e : Int := tick - player.actionStartedServerTick.toNat
    let r : Int := player.actionTicksRemaining.toNat
    let W : Int := rules.lightAttack.windupTicks.toNat
    let A : Int := rules.lightAttack.activeTicks.toNat
    let R : Int := rules.lightAttack.recoveryTicks.toNat
    (player.actionState = .lightAttackWindup → 1 ≤ r ∧ r ≤ W ∧ e = W - r) ∧
    (player.actionState = .lightAttackActive → 1 ≤ r ∧ r ≤ A ∧ e = W + A - r) ∧
    (player.actionState = .lightAttackRecovery → 1 ≤ r ∧ r ≤ R ∧ e = W + A + R - r) := by
  unfold InPhase at hphase
  refine ⟨?_, ?_, ?_⟩ <;> intro hstate
  · have helapsed := h.attack (.inl hstate)
    simp only [elapsed, hstate] at hphase helapsed
    omega
  · have helapsed := h.attack (.inr (.inl hstate))
    simp only [elapsed, hstate] at hphase helapsed
    omega
  · have helapsed := h.attack (.inr (.inr hstate))
    simp only [elapsed, hstate] at hphase helapsed
    omega

/-- Damage puts a player into a hit or a knockout that starts at once. -/
theorem OnClock.applyDamage {rules : Ruleset} {tick : UInt32} {player : PlayerState}
    (h : player.OnClock rules tick.toNat) (damage : Int32) :
    (player.applyDamage tick damage).OnClock rules tick.toNat := by
  by_cases hzero : damage = 0
  · rw [PlayerState.applyDamage, if_pos hzero]
    exact h
  · refine ⟨fun _ => ?_, fun hattack => absurd hattack (not_attacking_applyDamage hzero player)⟩
    rw [PlayerState.applyDamage, if_neg hzero]

end PlayerState

/-! ### One seat -/

structure Seat.Timed (rules : Ruleset) (tick : Nat) (s : Seat) : Prop where
  axisX : IsAxis s.input.moveX
  axisY : IsAxis s.input.moveY
  cardinal : s.player.FacesCardinal
  clock : s.player.OnClock rules tick
  locked : s.player.Attacking → s.attackFacing = { x := s.player.facingX, y := s.player.facingY }

theorem newSeat_timed (rules : Ruleset) (id : String) (x y hp : Int32) {facingX : Int8}
    (hfacing : facingX = 1 ∨ facingX = -1) : (newSeat id x y hp facingX).Timed rules 0 where
  axisX := .inr (.inl rfl)
  axisY := .inr (.inl rfl)
  cardinal := by
    rcases hfacing with rfl | rfl <;> simp [PlayerState.FacesCardinal, newSeat]
  clock := .of_inLocomotion rfl
  locked := by rintro (h | h | h) <;> cases h

theorem Seat.Timed.submitInput {rules : Ruleset} {tick : Nat} {s : Seat} (h : s.Timed rules tick)
    (input : Input) : (s.submitInput input).Timed rules tick := by
  rcases s.submitInput_cases input with heq | ⟨_, heq⟩ | ⟨_, -, heq⟩ <;> rw [heq]
  · exact h
  · exact ⟨h.axisX, h.axisY, h.cardinal, h.clock, h.locked⟩
  · exact ⟨clampAxis_isAxis _, clampAxis_isAxis _, h.cardinal, h.clock, h.locked⟩

/-- Rejecting the commands of a player who does not act keeps the seat timed at any tick. -/
theorem Seat.Timed.settle {rules : Ruleset} {tick : Nat} {s : Seat} (h : s.Timed rules tick)
    (hloc : s.player.inLocomotion = true) (tick' : Nat) : (s.settle s).Timed rules tick' :=
  ⟨h.axisX, h.axisY, h.cardinal, .of_inLocomotion hloc, h.locked⟩

theorem Seat.toHits_cardinal (rules : Ruleset) (tick : UInt32) {s : Seat}
    (h : s.player.FacesCardinal) (hx : IsAxis s.input.moveX) (hy : IsAxis s.input.moveY) :
    (s.toHits rules tick).player.FacesCardinal := by
  have hbefore : (s.beforeActions rules).player.FacesCardinal :=
    (h.advanceActionState rules s.input).applyMovement hx hy rules
  rw [Seat.toHits_eq]
  generalize s.beforeActions rules = before at hbefore ⊢
  rcases before.processActions_cases rules tick with
    ⟨-, heq⟩ | ⟨_, -, -, -, -, heq⟩ | ⟨_, -, -, -, -, heq⟩ <;> rw [heq] <;> exact hbefore

theorem Seat.Timed.toHits {rules : Ruleset} {n : Nat} {tick : UInt32} (htick : tick.toNat = n + 1)
    {s : Seat} (h : s.Timed rules n) (hphase : HitsPhase rules tick s (s.toHits rules tick)) :
    (s.toHits rules tick).Timed rules (n + 1) := by
  obtain ⟨-, -, -, -, hinput, -, -⟩ := s.toHits_fields rules tick
  have hcardinal := s.toHits_cardinal rules tick h.cardinal h.axisX h.axisY
  generalize s.toHits rules tick = after at *
  have haxisX : IsAxis after.input.moveX := by rw [hinput]; exact h.axisX
  have haxisY : IsAxis after.input.moveY := by rw [hinput]; exact h.axisY
  cases hphase with
  | continues hcontinues hfacing _ =>
      refine ⟨haxisX, haxisY, hcardinal, ⟨?_, fun _ => ?_⟩, fun _ => ?_⟩
      · rcases hcontinues.attacking' with hstate | hstate | hstate <;> rw [hstate] <;>
          exact fun hinstant => absurd hinstant (by decide)
      · rw [hcontinues.started, hcontinues.elapsed, ← h.clock.attack hcontinues.attacking,
          Nat.add_assoc]
      · rw [hfacing, hcontinues.facingX, hcontinues.facingY]
        exact h.locked hcontinues.attacking
  | starts _ helapsed hstarted hfacing _ _ =>
      refine ⟨haxisX, haxisY, hcardinal, ⟨fun _ => ?_, fun _ => ?_⟩, fun _ => hfacing⟩
      · rw [hstarted, htick]
      · rw [helapsed, hstarted, htick, Nat.add_zero]
  | dashes hstate hstarted _ _ =>
      have hattack : ¬ after.player.Attacking := by
        rintro (h | h | h) <;> rw [hstate] at h <;> cases h
      refine ⟨haxisX, haxisY, hcardinal, ⟨fun _ => ?_, fun h => absurd h hattack⟩,
        fun h => absurd h hattack⟩
      rw [hstarted, htick]
  | rests hloc _ _ =>
      exact ⟨haxisX, haxisY, hcardinal, .of_inLocomotion hloc,
        fun h => absurd h (PlayerState.not_attacking_of_inLocomotion hloc)⟩

theorem Seat.Timed.applyDamage {rules : Ruleset} {tick : UInt32} {s : Seat}
    (h : s.Timed rules tick.toNat) (damage : Int32) :
    (s.applyDamage tick damage).Timed rules tick.toNat := by
  refine ⟨h.axisX, h.axisY, ?_, h.clock.applyDamage damage, ?_⟩
  · obtain ⟨_, _, _, _, heq⟩ := s.player.applyDamage_eq tick damage
    rw [Seat.applyDamage, heq]
    exact h.cardinal
  · by_cases hzero : damage = 0
    · rw [Seat.applyDamage, PlayerState.applyDamage, if_pos hzero]
      exact h.locked
    · exact fun hattack => absurd hattack (PlayerState.not_attacking_applyDamage hzero s.player)

/-! ### The room -/

namespace Room

/-- After `n` steps of a match whose ticks fit in 32 bits: the tick counts the steps while the match
lasts, and every seat is timed. -/
structure Timeline (r : Room) (n : Nat) : Prop extends r.Phased n where
  range : r.rules.countdownTicks.toNat + r.rules.matchDurationTicks.toNat < 2 ^ 32
  ticking : r.status ≠ .finished → r.tick.toNat = n
  seats : ∀ i, (r.seats.get i).Timed r.rules r.tick.toNat

theorem initialRoom_timeline (playerA playerB : String) {rules : Ruleset} (h : rules.Accepted)
    (hrange : rules.countdownTicks.toNat + rules.matchDurationTicks.toNat < 2 ^ 32) :
    (initialRoom playerA playerB rules).Timeline 0 := by
  refine ⟨initialRoom_phased playerA playerB h, hrange, fun _ => rfl, fun i => ?_⟩
  cases i
  · exact newSeat_timed rules _ _ _ _ (.inl rfl)
  · exact newSeat_timed rules _ _ _ _ (.inr rfl)

theorem Timeline.submitInput {r : Room} {n : Nat} (h : r.Timeline n) (playerID : String)
    (input : Input) : (r.submitInput playerID input).1.Timeline n := by
  refine ⟨h.toPhased.submitInput playerID input, ?_, fun hs => ?_, fun i => ?_⟩
  · rw [submitInput_rules]
    exact h.range
  · rw [submitInput_status] at hs
    rw [submitInput_tick]
    exact h.ticking hs
  · rw [submitInput_rules, submitInput_tick]
    rcases r.seat_submitInput playerID input i with hseat | hseat <;> rw [hseat]
    · exact h.seats i
    · exact (h.seats i).submitInput input

theorem step_tick {r : Room} (h : r.status ≠ .finished) : r.step.tick = r.tick + 1 := by
  by_cases hc : r.status = .countdown
  · by_cases ht : r.tick + 1 < r.rules.countdownTicks
    · rw [step_of_counting hc ht]
    · rw [step_of_activating hc (UInt32.not_lt.1 ht)]
  · rw [step_of_active h hc, finish_tick]
    rfl

theorem Timeline.tick_succ {r : Room} {n : Nat} (h : r.Timeline n) (hs : r.status ≠ .finished) :
    (r.tick + 1).toNat = n + 1 := by
  have htick := h.ticking hs
  have hrange := h.range
  have hn : n < r.rules.countdownTicks.toNat + r.rules.matchDurationTicks.toNat := by
    by_cases hc : n < r.rules.countdownTicks.toNat
    · omega
    · exact (h.active_or_finished (Nat.le_of_not_lt hc)).resolve_left hs |>.1
  rw [FixedWidth.uint32_toNat_add (by rw [htick, UInt32.toNat_one]; omega), htick,
    UInt32.toNat_one]

theorem Timeline.step {r : Room} {n : Nat} (h : r.Timeline n) : r.step.Timeline (n + 1) := by
  have hphased := h.toPhased.step
  by_cases hf : r.status = .finished
  · rw [step_of_finished hf] at hphased ⊢
    exact ⟨hphased, h.range, fun hs => absurd hf hs, h.seats⟩
  have hnext := h.tick_succ hf
  have htick : r.step.tick.toNat = n + 1 := by rw [step_tick hf, hnext]
  refine ⟨hphased, by rw [step_rules]; exact h.range, fun _ => htick, fun i => ?_⟩
  have htimed := h.seats i
  rw [h.ticking hf] at htimed
  rw [step_rules, htick]
  rcases r.seat_step i with ⟨hfinished, -⟩ | ⟨hc, hseat⟩ | ⟨hc, hseat⟩ | ⟨-, hc, hseat⟩
  · exact absurd hfinished hf
  · rw [hseat, Seat.acknowledgeRejectedActions_eq]
    exact htimed.settle (h.quiet hc i) (n + 1)
  · rw [hseat, Seat.acknowledgeRejectedActions_eq]
    have hsettled := htimed.settle (h.quiet hc i) (n + 1)
    exact ⟨.inr (.inl rfl), .inr (.inl rfl), hsettled.cardinal, hsettled.clock, hsettled.locked⟩
  · have hhits := htimed.toHits hnext (h.toHits_phase hf i).2
    rw [hseat, ← hnext]
    rw [← hnext] at hhits
    exact hhits.applyDamage _

theorem Timeline.run {r : Room} {n : Nat} (h : r.Timeline n) (events : List Event) :
    (r.run events).Timeline (n + stepCount events) :=
  run_counted (P := Timeline) (fun _ _ playerID input h => h.submitInput playerID input)
    (fun _ _ h => h.step) h events

/-! ### Where an attack comes from -/

/-- A player's attack in one room is the attack he already had in another, with the same facing. -/
def SameAttack (before after : PlayerState) : Prop :=
  before.Attacking ∧ after.actionStartedServerTick = before.actionStartedServerTick ∧
    after.facingX = before.facingX ∧ after.facingY = before.facingY

theorem stepSeat_attacking {r : Room} {i : Side} (h : (r.stepSeat i).player.Attacking) :
    (r.stepSeat i).player = ((r.seats.get i).toHits r.rules (r.tick + 1)).player := by
  by_cases hdamage : r.stepDamage i = 0
  · exact if_pos hdamage
  · exact absurd h (PlayerState.not_attacking_applyDamage hdamage _)

theorem Timeline.apply_attacking {r : Room} {n : Nat} (htime : r.Timeline n) {event : Event} {i : Side}
    (h : ((r.apply event).seats.get i).player.Attacking) :
    SameAttack (r.seats.get i).player ((r.apply event).seats.get i).player ∨
      r.status ≠ .finished ∧
        ((r.apply event).seats.get i).player.actionStartedServerTick = r.tick + 1 := by
  cases event with
  | submitInput playerID input =>
      have hsame : ((r.apply (.submitInput playerID input)).seats.get i).player =
          (r.seats.get i).player := by
        rcases r.seat_submitInput playerID input i with hseat | hseat
        · rw [apply, hseat]
        · rw [apply, hseat, Seat.submitInput_player]
      rw [hsame] at h ⊢
      exact .inl ⟨h, rfl, rfl, rfl⟩
  | step =>
      rw [apply] at h ⊢
      rcases r.seat_step i with ⟨-, hseat⟩ | ⟨-, hseat⟩ | ⟨-, hseat⟩ | ⟨hf, -, hseat⟩
      · rw [hseat] at h ⊢
        exact .inl ⟨h, rfl, rfl, rfl⟩
      · rw [hseat, Seat.acknowledgeRejectedActions_eq] at h ⊢
        exact .inl ⟨h, rfl, rfl, rfl⟩
      · rw [hseat, Seat.acknowledgeRejectedActions_eq] at h ⊢
        exact .inl ⟨h, rfl, rfl, rfl⟩
      · rw [hseat] at h ⊢
        have hunhurt := stepSeat_attacking h
        rw [hunhurt] at h ⊢
        cases (htime.toHits_phase hf i).2 with
        | continues hcontinues _ _ =>
            exact .inl ⟨hcontinues.attacking, hcontinues.started, hcontinues.facingX,
              hcontinues.facingY⟩
        | starts _ _ hstarted _ _ _ => exact .inr ⟨hf, hstarted⟩
        | dashes hstate _ _ _ => rcases h with h | h | h <;> rw [hstate] at h <;> cases h
        | rests hloc _ _ => exact absurd h (PlayerState.not_attacking_of_inLocomotion hloc)

theorem Timeline.tick_le_step {r : Room} {n : Nat} (h : r.Timeline n) :
    r.tick.toNat ≤ r.step.tick.toNat := by
  by_cases hf : r.status = .finished
  · rw [step_of_finished hf]
  · rw [step_tick hf, h.tick_succ hf, h.ticking hf]
    exact Nat.le_succ n

theorem Timeline.tick_le_run {r : Room} {n : Nat} (h : r.Timeline n) (events : List Event) :
    r.tick.toNat ≤ (r.run events).tick.toNat :=
  (run_counted (P := fun room m => room.Timeline m ∧ r.tick.toNat ≤ room.tick.toNat)
    (fun _ _ playerID input ⟨htime, hle⟩ => ⟨htime.submitInput playerID input, by
      rw [submitInput_tick]
      exact hle⟩)
    (fun _ _ ⟨htime, hle⟩ => ⟨htime.step, hle.trans htime.tick_le_step⟩)
    ⟨h, Nat.le_refl _⟩ events).2

/-- An attack seen at the end of a run started after its first tick or was already under way. -/
theorem Timeline.attack_origin {r : Room} {n : Nat} (h : r.Timeline n) (events : List Event)
    {i : Side} (hattack : ((r.run events).seats.get i).player.Attacking) :
    SameAttack (r.seats.get i).player ((r.run events).seats.get i).player ∨
      r.tick.toNat < ((r.run events).seats.get i).player.actionStartedServerTick.toNat := by
  induction events using List.reverseRecOn with
  | nil => exact .inl ⟨hattack, rfl, rfl, rfl⟩
  | append_singleton events event ih =>
      rw [run_concat] at hattack ⊢
      rcases (h.run events).apply_attacking hattack with ⟨hbefore, hstarted, hx, hy⟩ | ⟨hf, hstarted⟩
      · rw [SameAttack, hstarted, hx, hy]
        exact ih hbefore
      · have hrun := h.run events
        have hnext := hrun.tick_succ hf
        have hle := h.tick_le_run events
        rw [hrun.ticking hf] at hle
        rw [hstarted, hnext]
        exact .inr (by omega)

/-- Every tick up to the last one is the tick of some earlier snapshot. -/
theorem Timeline.exists_tick {r : Room} {n : Nat} (h : r.Timeline n) (events : List Event) {m : Nat}
    (hlo : r.tick.toNat ≤ m) (hhi : m ≤ (r.run events).tick.toNat) :
    ∃ earlier later, events = earlier ++ later ∧ (r.run earlier).tick.toNat = m := by
  induction events using List.reverseRecOn with
  | nil => exact ⟨[], [], rfl, Nat.le_antisymm hlo hhi⟩
  | append_singleton events event ih =>
      by_cases hle : m ≤ (r.run events).tick.toNat
      · obtain ⟨earlier, later, rfl, htick⟩ := ih hle
        exact ⟨earlier, later ++ [event], (List.append_assoc _ _ _), htick⟩
      · refine ⟨events ++ [event], [], (List.append_nil _).symm, ?_⟩
        rw [run_concat] at hhi ⊢
        cases event with
        | submitInput playerID input =>
            rw [apply, submitInput_tick] at hhi
            exact absurd hhi hle
        | step =>
            by_cases hf : (r.run events).status = .finished
            · rw [apply, step_of_finished hf] at hhi
              exact absurd hhi hle
            · have hrun := h.run events
              have hnext := hrun.tick_succ hf
              have htick := hrun.ticking hf
              rw [apply, step_tick hf, hnext] at hhi ⊢
              omega

theorem Timeline.exists_start {r : Room} {n : Nat} (h : r.Timeline n) (hzero : r.tick = 0)
    (events : List Event) {i : Side} (hattack : ((r.run events).seats.get i).player.Attacking) :
    ∃ earlier later, events = earlier ++ later ∧
      (r.run earlier).tick = ((r.run events).seats.get i).player.actionStartedServerTick := by
  have helapsed := ((h.run events).seats i).clock.attack hattack
  obtain ⟨earlier, later, heq, htick⟩ := h.exists_tick events
    (by rw [hzero]; exact Nat.zero_le _) (Nat.le.intro helapsed)
  exact ⟨earlier, later, heq, UInt32.toNat_inj.1 htick⟩

theorem Timeline.same_attack {r : Room} {n : Nat} (h : r.Timeline n) (events : List Event) {i : Side}
    (hattack : ((r.run events).seats.get i).player.Attacking)
    (htick : r.tick = ((r.run events).seats.get i).player.actionStartedServerTick) :
    SameAttack (r.seats.get i).player ((r.run events).seats.get i).player := by
  rcases h.attack_origin events hattack with hsame | hlater
  · exact hsame
  · rw [htick] at hlater
    exact absurd hlater (Nat.lt_irrefl _)

theorem Timeline.hit_facing {r : Room} {n : Nat} (h : r.Timeline n) (hs : r.status = .active)
    {i : Side}
    (hstate : ((r.seats.get i).toHits r.rules (r.tick + 1)).player.actionState =
      .lightAttackActive) :
    ((r.seats.get i).toHits r.rules (r.tick + 1)).attackFacing =
      { x := (r.step.seats.get i).player.facingX, y := (r.step.seats.get i).player.facingY } := by
  have hf : r.status ≠ .finished := by
    rw [hs]
    decide
  have htimed := h.seats i
  rw [h.ticking hf] at htimed
  have hhits := htimed.toHits (h.tick_succ hf) (h.toHits_phase hf i).2
  obtain ⟨_, _, _, _, hdamage⟩ := ((r.seats.get i).toHits r.rules
    (r.tick + 1)).player.applyDamage_eq (r.tick + 1) (r.stepDamage i)
  rw [hhits.locked (.inr (.inl hstate)), step_seat_of_active hs, stepSeat, Seat.applyDamage, hdamage]

end Room

/-- In every snapshot of a match whose ticks fit in 32 bits, the state, its start and its remaining
ticks lie on the timeline the light attack's phases prescribe, the facing is cardinal, and through an
attack it is the facing the attack began with, which is also the one the hit test reads. -/
theorem timeline {playerA playerB : String} {rules : Ruleset} {r₀ : Room}
    (hnew : newWithRuleset playerA playerB rules = .ok r₀)
    (hrange : rules.countdownTicks.toNat + rules.matchDurationTicks.toNat < 2 ^ 32)
    (events : List Event) (i : Side) :
    let view := (r₀.run events).snapshot
    let p := view.players.get i
    let e : Int := view.serverTick.toNat - p.actionStartedServerTick.toNat
    let r : Int := p.actionTicksRemaining.toNat
    let W : Int := rules.lightAttack.windupTicks.toNat
    let A : Int := rules.lightAttack.activeTicks.toNat
    let R : Int := rules.lightAttack.recoveryTicks.toNat
    (p.actionState = .idle ∨ p.actionState = .move → p.actionStartedServerTick = 0 ∧ r = 0) ∧
    (p.actionState = .dash ∨ p.actionState = .hit → e = 0 ∧ r = 1) ∧
    (p.actionState = .lightAttackWindup → 1 ≤ r ∧ r ≤ W ∧ e = W - r) ∧
    (p.actionState = .lightAttackActive → 1 ≤ r ∧ r ≤ A ∧ e = W + A - r) ∧
    (p.actionState = .lightAttackRecovery → 1 ≤ r ∧ r ≤ R ∧ e = W + A + R - r) ∧
    (p.actionState = .ko ↔ p.hp = 0) ∧
    (p.actionState = .ko → e = 0 ∧ r = 0) ∧
    (p.facingX = 1 ∧ p.facingY = 0 ∨ p.facingX = -1 ∧ p.facingY = 0 ∨
      p.facingX = 0 ∧ p.facingY = 1 ∨ p.facingX = 0 ∧ p.facingY = -1) ∧
    (p.Attacking →
      ((r₀.run events).seats.get i).attackFacing = { x := p.facingX, y := p.facingY } ∧
      (∃ earlier later, events = earlier ++ later ∧
        (r₀.run earlier).snapshot.serverTick = p.actionStartedServerTick) ∧
      ∀ earlier later, events = earlier ++ later →
        (r₀.run earlier).snapshot.serverTick = p.actionStartedServerTick →
        let start := (r₀.run earlier).snapshot.players.get i
        start.actionStartedServerTick = p.actionStartedServerTick ∧
          start.facingX = p.facingX ∧ start.facingY = p.facingY) ∧
    ((r₀.run events).status = .active →
      let attacker := ((r₀.run events).seats.get i).toHits rules ((r₀.run events).tick + 1)
      let next := (r₀.run (events ++ [.step])).snapshot.players.get i
      attacker.player.actionState = .lightAttackActive →
        attacker.attackFacing = { x := next.facingX, y := next.facingY }) := by
  obtain ⟨-, -, -, hrules, rfl⟩ := newWithRuleset_ok hnew
  have htime := Room.initialRoom_timeline playerA playerB hrules hrange
  have hrun := htime.run events
  have hphase := hrun.inPhase i
  have htimed := hrun.seats i
  rw [Room.run_rules] at hphase htimed
  change PlayerState.InPhase rules _ at hphase
  change Seat.Timed rules _ _ at htimed
  have hplayers : ∀ events, ((initialRoom playerA playerB rules).run events).snapshot.players.get i =
      (((initialRoom playerA playerB rules).run events).seats.get i).player :=
    fun _ => Pair.get_map _ _ _
  have htick : ∀ events, ((initialRoom playerA playerB rules).run events).snapshot.serverTick =
      ((initialRoom playerA playerB rules).run events).tick := fun _ => rfl
  simp only [hplayers, htick]
  obtain ⟨hresting, hinstant, hko⟩ := htimed.clock.timer hphase
  obtain ⟨hwindup, hactive, hrecovery⟩ := htimed.clock.attack_timer hphase
  refine ⟨hresting, hinstant, hwindup, hactive, hrecovery, hrun.ko_iff i, hko, ?_,
    fun hattack => ⟨htimed.locked hattack, htime.exists_start rfl events hattack, ?_⟩,
    fun hactive hphase => ?_⟩
  · simpa [PlayerState.FacesCardinal] using htimed.cardinal
  · intro earlier later heq hfound
    rw [heq, Room.run_append] at hattack hfound ⊢
    obtain ⟨-, hstarted, hx, hy⟩ := (htime.run earlier).same_attack later hattack hfound
    exact ⟨hstarted.symm, hx.symm, hy.symm⟩
  · have hrules : ((initialRoom playerA playerB rules).run events).rules = rules :=
      Room.run_rules _ events
    have hfacing := hrun.hit_facing hactive (i := i)
    rw [hrules] at hfacing
    rw [Room.run_concat, Room.apply]
    exact hfacing hphase

/-- A short match in which the light attack has no windup. -/
def suddenRules : Ruleset :=
  { defaultRuleset with
    countdownTicks := 1, matchDurationTicks := 9
    lightAttack := { defaultRuleset.lightAttack with windupTicks := 0 } }

/-- A match in which the first player strikes on its first active tick. -/
def suddenEvents : List Event :=
  [.step, .submitInput "alice" { tick := 1, moveX := 0, moveY := 0, actions := [⟨1, .lightAttack⟩] },
    .step]

/-- The first active tick of such an attack. -/
theorem timeline_sudden :
    newWithRuleset "alice" "bob" suddenRules = .ok (initialRoom "alice" "bob" suddenRules) ∧
    let view := ((initialRoom "alice" "bob" suddenRules).run suddenEvents).snapshot
    view.players.a.actionState = .lightAttackActive ∧
      ((view.serverTick.toNat : Int) - view.players.a.actionStartedServerTick.toNat =
        suddenRules.lightAttack.windupTicks.toNat + suddenRules.lightAttack.activeTicks.toNat -
          view.players.a.actionTicksRemaining.toNat) := by
  have hnew : newWithRuleset "alice" "bob" suddenRules =
      .ok (initialRoom "alice" "bob" suddenRules) :=
    newWithRuleset_of_accepted (by decide) (by decide) (by decide) (by decide)
  have hstate : ((initialRoom "alice" "bob" suddenRules).run
      suddenEvents).snapshot.players.a.actionState = .lightAttackActive := by
    decide +kernel
  obtain ⟨-, -, -, hactive, -⟩ := timeline hnew (by decide) suddenEvents .a
  exact ⟨hnew, hstate, (hactive hstate).2.2⟩

end PvpDuel.Simulation
