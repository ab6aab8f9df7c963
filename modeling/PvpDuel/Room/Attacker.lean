import PvpDuel.Room.Gating

/-!
# A player who only attacks

A player who sends light attacks only and is never hit is between two attacks or in one, and an
attack is over before the next may begin. So his deadline alone decides about a queue: past it the
first command takes effect and no other does, before it none does.
-/

namespace PvpDuel.Simulation

theorem PlayerState.InPhase.elapsed_lt {rules : Ruleset} {player : PlayerState}
    (h : player.InPhase rules) (hattack : player.Attacking) :
    player.elapsed rules < rules.attackTicks := by
  unfold InPhase at h
  unfold elapsed Ruleset.attackTicks
  rcases hattack with hstate | hstate | hstate <;> simp only [hstate] at h ⊢ <;> omega

/-- The seat of such a player: an attack under way set the deadline when it began. -/
structure Seat.Attacker (rules : Ruleset) (s : Seat) : Prop where
  free : s.player.inLocomotion = true ∨ s.player.Attacking
  deadline : s.player.Attacking → s.player.actionStartedServerTick.toNat +
    rules.lightAttack.cooldownTicks.toNat = s.nextAttackTick.toNat

/-- Without an attack under way there is nothing to tell of the deadline. -/
theorem Seat.Attacker.of_inLocomotion {rules : Ruleset} {s : Seat}
    (h : s.player.inLocomotion = true) : s.Attacker rules :=
  ⟨.inl h, fun hattack => absurd hattack (PlayerState.not_attacking_of_inLocomotion h)⟩

theorem Seat.effects_subset (rules : Ruleset) (tick : UInt32) (s : Seat)
    (commands : List ActionCommand) : s.effects rules tick commands ⊆ commands := by
  induction commands generalizing s with
  | nil => exact List.Subset.refl _
  | cons command commands ih =>
      rw [effects]
      split_ifs
      · exact List.cons_subset_cons command (ih _)
      · exact List.subset_cons_of_subset command (ih _)

/-- Up to the hits such a player goes on with his attack, starts one, or moves. -/
theorem Seat.Attacker.toHits {rules : Ruleset} {tick : UInt32} {s : Seat}
    (hattacker : s.Attacker rules) (hrules : rules.Accepted)
    (hrange : tick.toNat + rules.lightAttack.cooldownTicks.toNat < 2 ^ 32)
    (hphase : s.player.InPhase rules) (halive : s.player.actionState ≠ .ko)
    (hpending : ∀ command ∈ s.pendingActions, command.type = .lightAttack) :
    (s.toHits rules tick).Attacker rules := by
  obtain ⟨-, hbefore⟩ := Seat.beforeActions_phase hrules hphase halive
  rw [Seat.toHits_eq]
  rcases (s.beforeActions rules).processActions_cases rules tick with
    ⟨-, heq⟩ | ⟨command, heffects, htype, -, -, -⟩ | ⟨_, -, -, -, -, heq⟩
  · rw [heq]
    rcases hbefore with hcontinues | ⟨hloc, -⟩
    · refine ⟨.inr hcontinues.attacking', fun _ => ?_⟩
      have hdeadline := hattacker.deadline hcontinues.attacking
      rwa [← hcontinues.started] at hdeadline
    · exact .of_inLocomotion hloc
  · have hmem : command ∈ s.pendingActions :=
      Seat.effects_subset _ _ _ _ (heffects ▸ List.mem_singleton_self _)
    rw [hpending command hmem] at htype
    cases htype
  · rw [heq]
    obtain ⟨-, hattack, -⟩ :=
      Seat.startLightAttack_phase hrules tick (s.beforeActions rules)
    refine ⟨.inr hattack, fun _ => ?_⟩
    exact (FixedWidth.uint32_toNat_add hrange).symm

theorem Seat.Attacker.submitInput {rules : Ruleset} {s : Seat} (h : s.Attacker rules)
    (input : Input) : (s.submitInput input).Attacker rules := by
  rcases s.submitInput_cases input with heq | ⟨_, heq⟩ | ⟨_, -, heq⟩ <;> rw [heq]
  · exact h
  · exact ⟨h.free, h.deadline⟩
  · exact ⟨h.free, h.deadline⟩

namespace Room

section

variable {r : Room} {n : Nat} {i : Side}

/-- Past the deadline the player may start an action: an attack under way would have been over. -/
theorem Timeline.attacker_canStartAction (h : r.Timeline n) (ha : r.status = .active)
    (hattacker : (r.seats.get i).Attacker r.rules)
    (hrules : r.rules.attackTicks ≤ r.rules.lightAttack.cooldownTicks.toNat)
    (hready : (r.seats.get i).nextAttackTick ≤ r.tick + 1) :
    ((r.seats.get i).beforeActions r.rules).player.canStartAction = true := by
  have hne : r.status ≠ .finished := by
    rw [ha]
    decide
  have hhp := (h.ongoing hne).1 i
  have hloc : ((r.seats.get i).beforeActions r.rules).player.inLocomotion = true := by
    obtain ⟨hphase, hcontinues | ⟨hloc, -⟩⟩ := Seat.beforeActions_phase h.accepted (h.inPhase i)
      (mt (h.ko_iff i).1 (h.hp_ne_zero hne i))
    · -- The attack would still be in its phases a cooldown after it began.
      have hdeadline := hattacker.deadline hcontinues.attacking
      have hclock := (h.seats i).clock.attack hcontinues.attacking
      have htick := h.tick_succ hne
      have hnow := h.ticking hne
      have hlast := hphase.elapsed_lt hcontinues.attacking'
      rw [hcontinues.elapsed] at hlast
      rw [UInt32.le_iff_toNat_le] at hready
      omega
    · exact hloc
  rw [PlayerState.canStartAction, hloc, Seat.beforeActions_hp, Bool.and_true]
  exact decide_eq_true hhp

/-- The deadline decides which commands of a queue of attacks take effect. -/
theorem Timeline.attacker_effects (h : r.Timeline n) (ha : r.status = .active)
    (hattacker : (r.seats.get i).Attacker r.rules)
    (hrules : r.rules.attackTicks ≤ r.rules.lightAttack.cooldownTicks.toNat)
    (hpending : ∀ command ∈ (r.seats.get i).pendingActions, command.type = .lightAttack) :
    r.effects i = if (r.seats.get i).nextAttackTick ≤ r.tick + 1 then
      (r.seats.get i).pendingActions.take 1 else [] := by
  split_ifs with hready
  · have hstart := h.attacker_canStartAction ha hattacker hrules hready
    rw [effects_of_active ha]
    cases hqueue : (r.seats.get i).pendingActions with
    | nil => rfl
    | cons command commands =>
        have htype : command.type = .lightAttack :=
          hpending command (by rw [hqueue]; exact List.mem_cons_self ..)
        have htakes : ((r.seats.get i).beforeActions r.rules).takesEffect (r.tick + 1) command =
            true := by
          rw [Seat.takesEffect, htype]
          exact Bool.and_eq_true_iff.2 ⟨hstart, decide_eq_true hready⟩
        rw [Seat.effects, if_pos htakes]
        rcases Seat.processAction_cases r.rules (r.tick + 1)
          ((r.seats.get i).beforeActions r.rules) command with
          ⟨hnot, -⟩ | ⟨-, hdash, -⟩ | ⟨-, -, -, -, heq⟩
        · rw [htakes] at hnot
          cases hnot
        · rw [htype] at hdash
          cases hdash
        · rw [heq, (Seat.foldl_processAction_of_busy r.rules (r.tick + 1)
            (Seat.not_canStartAction_startLightAttack ..) commands).1]
          rfl
  · rcases step_readyTick ha i with ⟨hnone, -⟩ | ⟨command, hone, -, hpast, -⟩
    · exact hnone
    · have hmem : command ∈ (r.seats.get i).pendingActions := by
        rw [effects_of_active ha] at hone
        exact Seat.effects_subset _ _ _ _ (hone ▸ List.mem_singleton_self _)
      rw [hpending command hmem] at hpast
      exact absurd hpast hready

theorem Timeline.attacker_step (h : r.Timeline n) (hattacker : (r.seats.get i).Attacker r.rules)
    (hrange : r.rules.countdownTicks.toNat + r.rules.matchDurationTicks.toNat +
      r.rules.lightAttack.cooldownTicks.toNat < 2 ^ 32)
    (hpending : ∀ command ∈ (r.seats.get i).pendingActions, command.type = .lightAttack)
    (hunhurt : (r.step.seats.get i).player.hp = (r.seats.get i).player.hp) :
    (r.step.seats.get i).Attacker r.rules := by
  rcases r.seat_step i with ⟨-, heq⟩ | ⟨hc, heq⟩ | ⟨hc, heq⟩ | ⟨hf, hc, heq⟩
  · rw [heq]
    exact hattacker
  · rw [heq, Seat.acknowledgeRejectedActions_eq]
    exact .of_inLocomotion (h.quiet hc i)
  · rw [heq, Seat.acknowledgeRejectedActions_eq]
    exact .of_inLocomotion (h.quiet hc i)
  · have ha : r.status = .active := by
      cases hs : r.status with
      | active => rfl
      | finished => exact absurd hs hf
      | countdown => exact absurd hs hc
      | waiting => exact absurd hs h.not_waiting
    have hzero : r.stepDamage i = 0 := by
      by_contra hdamage
      have hlt := (h.step_hp_lt_iff ha i).2 hdamage
      rw [hunhurt] at hlt
      exact Int32.lt_irrefl hlt
    have htick := h.tick_succ hf
    obtain ⟨hn, hlast⟩ := h.active ha
    rw [heq, stepSeat, hzero, Seat.applyDamage, PlayerState.applyDamage, if_pos rfl]
    exact hattacker.toHits h.accepted (by omega) (h.inPhase i)
      (mt (h.ko_iff i).1 (h.hp_ne_zero hf i)) hpending

/-- The step that opens the active phase lets the player attack in the next one. -/
theorem step_opens (hc : r.status = .countdown) (ha : r.step.status = .active) :
    (r.step.seats.get i).nextAttackTick = r.step.tick + 1 := by
  by_cases ht : r.tick + 1 < r.rules.countdownTicks
  · rw [step_of_counting hc ht] at ha
    cases hc.symm.trans ha
  · rw [step_of_activating hc (UInt32.not_lt.1 ht), Pair.get_map]
    rfl

theorem Timeline.active_of_step (h : r.Timeline n) (ha : r.step.status = .active) :
    r.status = .active ∨ r.status = .countdown := by
  cases hs : r.status with
  | active => exact .inl rfl
  | countdown => exact .inr rfl
  | waiting => exact absurd hs h.not_waiting
  | finished =>
      rw [step_of_finished hs, hs] at ha
      cases ha

/-- Such a player in a room after `n` steps, with the ticks at which he has started attacks: his
deadline is the end of the last cooldown, or past. -/
structure Paced (r : Room) (n : Nat) (i : Side) (starts : List Nat) : Prop extends r.Timeline n where
  attacker : (r.seats.get i).Attacker r.rules
  waits : r.status = .countdown → starts = []
  spaced : r.status = .active →
    ∀ t ∈ starts, t + r.rules.lightAttack.cooldownTicks.toNat ≤ (r.seats.get i).nextAttackTick.toNat
  due : r.status = .active → (r.seats.get i).nextAttackTick ≤ r.tick + 1 ∨ ∃ t ∈ starts,
    t + r.rules.lightAttack.cooldownTicks.toNat = (r.seats.get i).nextAttackTick.toNat

theorem Paced.submitInput {starts : List Nat} (h : r.Paced n i starts) (playerID : String)
    (input : Input) : (r.submitInput playerID input).1.Paced n i starts := by
  have hdeadline : ((r.submitInput playerID input).1.seats.get i).nextAttackTick =
      (r.seats.get i).nextAttackTick := by
    rcases r.seat_submitInput playerID input i with heq | heq <;> rw [heq]
    exact Seat.submitInput_readyTick (r.seats.get i) input .lightAttack
  refine ⟨h.toTimeline.submitInput playerID input, ?_, ?_, ?_, ?_⟩
  · rw [submitInput_rules]
    rcases r.seat_submitInput playerID input i with heq | heq <;> rw [heq]
    · exact h.attacker
    · exact h.attacker.submitInput input
  · rw [submitInput_status]
    exact h.waits
  · rw [submitInput_status, submitInput_rules, hdeadline]
    exact h.spaced
  · rw [submitInput_status, submitInput_rules, submitInput_tick, hdeadline]
    exact h.due

theorem Paced.ready_iff {starts : List Nat} (h : r.Paced n i starts) (ha : r.status = .active) :
    (r.seats.get i).nextAttackTick ≤ r.tick + 1 ↔
      ∀ t ∈ starts, t + r.rules.lightAttack.cooldownTicks.toNat ≤ (r.tick + 1).toNat := by
  rw [UInt32.le_iff_toNat_le]
  constructor
  · intro hready t ht
    exact (h.spaced ha t ht).trans hready
  · intro hover
    rcases h.due ha with hpast | ⟨t, ht, hlast⟩
    · exact UInt32.le_iff_toNat_le.1 hpast
    · rw [← hlast]
      exact hover t ht

/-- An active step leaves the deadline of a player who only attacks, or moves it a cooldown on. -/
theorem step_nextAttackTick (ha : r.status = .active)
    (hpending : ∀ command ∈ (r.seats.get i).pendingActions, command.type = .lightAttack) :
    (r.effects i = [] ∧
      (r.step.seats.get i).nextAttackTick = (r.seats.get i).nextAttackTick) ∨
    ∃ command, r.effects i = [command] ∧ (r.seats.get i).nextAttackTick ≤ r.tick + 1 ∧
      (r.step.seats.get i).nextAttackTick = r.tick + 1 + r.rules.lightAttack.cooldownTicks := by
  rcases step_readyTick ha i with ⟨hnone, hsame⟩ | ⟨command, hone, -, hready, hdeadline⟩
  · exact .inl ⟨hnone, hsame .lightAttack⟩
  · have hmem : command ∈ (r.seats.get i).pendingActions := by
      have heffects := effects_of_active ha i
      exact Seat.effects_subset _ _ _ _ (heffects ▸ hone ▸ List.mem_singleton_self _)
    have hmoved := hdeadline .lightAttack
    rw [hpending command hmem] at hready hmoved
    exact .inr ⟨command, hone, hready, hmoved⟩

/-- A step that does not hurt the player adds its tick to the starts if a command takes effect. -/
theorem Paced.step {starts : List Nat} (h : r.Paced n i starts)
    (hrange : r.rules.countdownTicks.toNat + r.rules.matchDurationTicks.toNat +
      r.rules.lightAttack.cooldownTicks.toNat < 2 ^ 32)
    (hpending : ∀ command ∈ (r.seats.get i).pendingActions, command.type = .lightAttack)
    (hunhurt : (r.step.seats.get i).player.hp = (r.seats.get i).player.hp) :
    r.step.Paced (n + 1) i (starts ++ (r.effects i).map fun _ => (r.tick + 1).toNat) := by
  have hattacker := h.attacker_step h.attacker hrange hpending hunhurt
  have hidle : r.status = .countdown → r.effects i = [] := fun hc => if_pos (.inr hc)
  refine ⟨h.toTimeline.step, ?_, fun hc => ?_, fun ha => ?_, fun ha => ?_⟩
  · rw [step_rules]
    exact hattacker
  · have hcountdown := h.countdown_of_step hc
    rw [h.waits hcountdown, hidle hcountdown]
    rfl
  · rw [step_rules]
    rcases h.active_of_step ha with hactive | hc
    swap
    · rw [h.waits hc, hidle hc]
      exact fun t ht => absurd ht List.not_mem_nil
    have htick := h.tick_succ (by rw [hactive]; decide)
    obtain ⟨hn, hlast⟩ := h.active hactive
    rcases step_nextAttackTick hactive hpending with
      ⟨hnone, hnext⟩ | ⟨command, hone, hready, hnext⟩ <;> rw [hnext]
    · rw [hnone, List.map_nil, List.append_nil]
      exact h.spaced hactive
    · have hsum : (r.tick + 1 + r.rules.lightAttack.cooldownTicks).toNat =
          (r.tick + 1).toNat + r.rules.lightAttack.cooldownTicks.toNat :=
        FixedWidth.uint32_toNat_add (by omega)
      rw [hone, hsum]
      intro t ht
      rcases List.mem_append.1 ht with hold | hnew
      · have hover := (h.ready_iff hactive).1 hready t hold
        omega
      · obtain rfl := List.mem_singleton.1 hnew
        exact le_refl _
  · rw [step_rules]
    rcases h.active_of_step ha with hactive | hc
    swap
    · rw [step_opens hc ha]
      exact .inl (UInt32.le_refl _)
    have htick := h.tick_succ (by rw [hactive]; decide)
    obtain ⟨hn, hlast⟩ := h.active hactive
    rcases step_nextAttackTick hactive hpending with
      ⟨hnone, hnext⟩ | ⟨command, hone, hready, hnext⟩ <;> rw [hnext]
    · rw [hnone, List.map_nil, List.append_nil]
      refine (h.due hactive).imp_left fun hpast => ?_
      have hlater := h.toTimeline.step.tick_succ (by rw [ha]; decide)
      rw [UInt32.le_iff_toNat_le] at hpast ⊢
      omega
    · refine .inr ⟨(r.tick + 1).toNat, ?_, ?_⟩
      · rw [hone]
        exact List.mem_append_right _ (List.mem_singleton_self _)
      · exact (FixedWidth.uint32_toNat_add (by omega)).symm

theorem initialRoom_paced (playerA playerB : String) {rules : Ruleset} (h : rules.Accepted)
    (hrange : rules.countdownTicks.toNat + rules.matchDurationTicks.toNat < 2 ^ 32) (i : Side) :
    (initialRoom playerA playerB rules).Paced 0 i [] := by
  have htime := initialRoom_timeline playerA playerB h hrange
  refine ⟨htime, .of_inLocomotion (htime.quiet rfl i), fun _ => rfl, fun ha => ?_, fun ha => ?_⟩
  · cases ha
  · cases ha

end

end Room

end PvpDuel.Simulation
