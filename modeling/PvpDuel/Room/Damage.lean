import Mathlib.Algebra.Order.BigOperators.Group.Finset
import Mathlib.Order.Interval.Finset.Nat
import PvpDuel.Room.Phases

/-!
# Damage accounting

Every loss of hit points is traced to the light attack that dealt it. The steps of a run are numbered
from zero; an attack started at step `t` is in its active phase at the steps from `t + windup` on, for
as many steps as the phase has ticks, unless its owner is damaged before.
-/

namespace PvpDuel.Simulation

namespace Room

variable (r : Room) (events : List Event) (i : Side)

/-- Step `u` of a run lowers the hit points of a player. -/
def DamagedAt (u : Nat) : Prop :=
  u < stepCount events ∧
    ((r.atStep events u).step.seats.get i).player.hp < ((r.atStep events u).seats.get i).player.hp

/-- A player starts a light attack at step `t` of a run. -/
def AttackStartsAt (t : Nat) : Prop :=
  t < stepCount events ∧ (r.atStep events t).status = .active ∧
    ((r.atStep events t).seats.get i).StartsLightAttack r.rules ((r.atStep events t).tick + 1)

instance (u : Nat) : Decidable (r.DamagedAt events i u) := by
  unfold DamagedAt
  infer_instance

instance (t : Nat) : Decidable (r.AttackStartsAt events i t) := by
  unfold AttackStartsAt
  infer_instance

/-- Step `u` belongs to the attack a player started at step `t`: it is in the active phase and the
player took no damage since the start. -/
def BelongsTo (t u : Nat) : Prop :=
  r.AttackStartsAt events i t ∧ t + r.rules.lightAttack.windupTicks.toNat ≤ u ∧
    u < t + r.rules.lightAttack.windupTicks.toNat + r.rules.lightAttack.activeTicks.toNat ∧
    ∀ v, t ≤ v → v < u → ¬ r.DamagedAt events i v

variable {r} {events} {i}

theorem Phased.atStep (h : r.Phased 0) (events : List Event) {u : Nat} (hu : u ≤ stepCount events) :
    (r.atStep events u).Phased u := by
  have hrun := h.run (callsBefore events u)
  rwa [stepCount_callsBefore hu, Nat.zero_add] at hrun

theorem atStep_succ_player {u : Nat} (hu : u < stepCount events) (i : Side) :
    ((r.atStep events (u + 1)).seats.get i).player =
      ((r.atStep events u).step.seats.get i).player :=
  player_of_snapshot_eq (r.atStep_succ_snapshot hu) i

theorem atStep_succ_status {u : Nat} (hu : u < stepCount events) :
    (r.atStep events (u + 1)).status = (r.atStep events u).step.status :=
  congrArg Snapshot.status (r.atStep_succ_snapshot hu)

theorem active_of_between (h : r.Phased 0) {t v u : Nat} (htv : t ≤ v) (hvu : v ≤ u)
    (hu : u ≤ stepCount events) (ht : (r.atStep events t).status = .active)
    (hactive : (r.atStep events u).status = .active) : (r.atStep events v).status = .active := by
  have hrest : ∀ w, (r.atStep events v).status = .finished → v + w ≤ stepCount events →
      (r.atStep events (v + w)).status = .finished := by
    intro w hv hw
    induction w with
    | zero => exact hv
    | succ w ih =>
        have hlast := ih (by omega)
        rw [← Nat.add_assoc, atStep_succ_status (by omega), step_of_finished hlast]
        exact hlast
  have hcount := ((h.atStep events (by omega : t ≤ stepCount events)).active ht).1
  rcases (h.atStep events (by omega : v ≤ stepCount events)).active_or_finished
    (by simp only [atStep_rules] at hcount ⊢; omega) with hf | ⟨-, ha⟩
  · have hfinished := hrest (u - v) hf (by omega)
    rw [Nat.add_sub_cancel' hvu, hactive] at hfinished
    cases hfinished
  · exact ha

/-! ### One step -/

/-- A step lowers the hit points of a player when it deals him damage. -/
theorem Phased.step_hp_lt_iff {r : Room} {n : Nat} (h : r.Phased n) (ha : r.status = .active)
    (i : Side) : (r.step.seats.get i).player.hp < (r.seats.get i).player.hp ↔
      r.stepDamage i ≠ 0 := by
  have hpos := Int32.lt_iff_toInt_lt.1 ((h.ongoing (by rw [ha]; decide)).1 i)
  have hdamage := stepDamage_nonneg h.accepted i
  rw [Int32.toInt_zero] at hpos
  rw [step_seat_of_active ha, Int32.lt_iff_toInt_lt, stepSeat_hp h.accepted (h.hp_nonneg i),
    Ne, ← Int32.toInt_inj, Int32.toInt_zero]
  omega

theorem active_of_damagedAt (h : r.Phased 0) {u : Nat} (hd : r.DamagedAt events i u) :
    (r.atStep events u).status = .active := by
  obtain ⟨hu, hlt⟩ := hd
  have hphased := h.atStep events hu.le
  rcases step_hp hphased.accepted (hphased.hp_nonneg i) with heq | ⟨hf, hc, -⟩
  · rw [heq] at hlt
    exact absurd hlt Int32.lt_irrefl
  · cases hs : (r.atStep events u).status with
    | active => rfl
    | finished => exact absurd hs hf
    | countdown => exact absurd hs hc
    | waiting => exact absurd hs hphased.not_waiting

/-- What an active step makes of a player: no attack when he is damaged, else a case of `HitsPhase`. -/
theorem attack_step (h : r.Phased 0) {u : Nat} (hu : u < stepCount events)
    (hactive : (r.atStep events u).status = .active) (i : Side) :
    (r.DamagedAt events i u → ¬ ((r.atStep events (u + 1)).seats.get i).player.Attacking) ∧
    (¬ r.DamagedAt events i u → ((r.atStep events (u + 1)).seats.get i).player =
      (((r.atStep events u).seats.get i).toHits r.rules ((r.atStep events u).tick + 1)).player) := by
  have hiff := (h.atStep events hu.le).step_hp_lt_iff hactive i
  rw [atStep_succ_player hu, step_seat_of_active hactive]
  refine ⟨fun hd => ?_, fun hd => ?_⟩
  · exact PlayerState.not_attacking_applyDamage (hiff.1 hd.2) _
  · have hzero : (r.atStep events u).stepDamage i = 0 := by
      by_contra hne
      exact hd ⟨hu, hiff.2 hne⟩
    rw [stepSeat, hzero, atStep_rules, Seat.applyDamage, PlayerState.applyDamage, if_pos rfl]

theorem attackStartsAt_iff (h : r.Phased 0) {u : Nat} (hu : u < stepCount events)
    (hactive : (r.atStep events u).status = .active) (i : Side) :
    Seat.HitsPhase r.rules ((r.atStep events u).tick + 1) ((r.atStep events u).seats.get i)
        (((r.atStep events u).seats.get i).toHits r.rules ((r.atStep events u).tick + 1)) ∧
      (r.AttackStartsAt events i u ↔ ((r.atStep events u).seats.get i).StartsLightAttack r.rules
        ((r.atStep events u).tick + 1)) := by
  have hphase := (h.atStep events hu.le).toHits_phase (by rw [hactive]; decide) i
  rw [atStep_rules] at hphase
  exact ⟨hphase.2, fun hs => hs.2.2, fun hs => ⟨hu, hactive, hs⟩⟩

/-! ### Where an attack comes from, and how long it lasts -/

/-- A player found attacking started this attack at an earlier step and was not damaged since. -/
theorem attack_origin (h : r.Phased 0) (i : Side) {u : Nat} (hu : u ≤ stepCount events)
    (hactive : (r.atStep events u).status = .active)
    (hattack : ((r.atStep events u).seats.get i).player.Attacking) :
    ∃ t, r.AttackStartsAt events i t ∧
      u = t + 1 + ((r.atStep events u).seats.get i).player.elapsed r.rules ∧
      ∀ v, t ≤ v → v < u → ¬ r.DamagedAt events i v := by
  induction u with
  | zero =>
      have hcount := ((h.atStep events hu).active hactive).1
      have hpos := (h.atStep events hu).accepted.countdownTicks_pos
      omega
  | succ u ih =>
      have hphased := h.atStep events (Nat.le_of_succ_le hu)
      cases hs : (r.atStep events u).status with
      | finished =>
          rw [atStep_succ_status hu, step_of_finished hs, hs] at hactive
          cases hactive
      | waiting => exact absurd hs hphased.not_waiting
      | countdown =>
          have hquiet := hphased.quiet hs i
          have hsame : ((r.atStep events (u + 1)).seats.get i).player.actionState =
              ((r.atStep events u).seats.get i).player.actionState := by
            rw [atStep_succ_player hu]
            rcases (r.atStep events u).seat_step i with
              ⟨-, hseat⟩ | ⟨-, hseat⟩ | ⟨-, hseat⟩ | ⟨-, hc, -⟩
            · rw [hseat]
            · rw [hseat, Seat.acknowledgeRejectedActions_eq]
              rfl
            · rw [hseat, Seat.acknowledgeRejectedActions_eq]
              rfl
            · exact absurd hs hc
          unfold PlayerState.Attacking at hattack
          rw [hsame] at hattack
          exact absurd hattack (PlayerState.not_attacking_of_inLocomotion hquiet)
      | active =>
          obtain ⟨hdamaged, hunhurt⟩ := attack_step h hu hs i
          obtain ⟨hphase, hstarts⟩ := attackStartsAt_iff h hu hs i
          have hd : ¬ r.DamagedAt events i u := fun hd => hdamaged hd hattack
          rw [hunhurt hd] at hattack ⊢
          have hnow : ∀ v, v < u + 1 → ¬ v < u → ¬ r.DamagedAt events i v := by
            intro v hv hvu
            rwa [show v = u by omega]
          cases hphase with
          | continues hcontinues _ _ =>
              obtain ⟨t, ht, heq, hfree⟩ := ih (Nat.le_of_succ_le hu) hs hcontinues.attacking
              refine ⟨t, ht, by rw [hcontinues.elapsed]; omega, fun v htv hv => ?_⟩
              by_cases hvu : v < u
              · exact hfree v htv hvu
              · exact hnow v hv hvu
          | starts _ helapsed _ _ hstart _ =>
              exact ⟨u, hstarts.2 hstart, by rw [helapsed], fun v huv hv => hnow v hv (by omega)⟩
          | dashes hstate _ _ _ => rcases hattack with h | h | h <;> rw [hstate] at h <;> cases h
          | rests hloc _ _ => exact absurd hattack (PlayerState.not_attacking_of_inLocomotion hloc)

theorem attack_goes_on (h : r.Phased 0) {i : Side} {t u : Nat} (ht : r.AttackStartsAt events i t)
    (htu : t < u) (hu : u ≤ stepCount events) (hactive : (r.atStep events u).status = .active)
    (hlength : u ≤ t + r.rules.attackTicks) (hfree : ∀ v, t ≤ v → v < u → ¬ r.DamagedAt events i v) :
    ((r.atStep events u).seats.get i).player.Attacking ∧
      t + 1 + ((r.atStep events u).seats.get i).player.elapsed r.rules = u := by
  induction u with
  | zero => exact absurd htu (Nat.not_lt_zero t)
  | succ u ih =>
      have hs : (r.atStep events u).status = .active :=
        active_of_between h (Nat.lt_succ_iff.1 htu) (Nat.le_succ u) hu ht.2.1 hactive
      obtain ⟨-, hunhurt⟩ := attack_step h hu hs i
      obtain ⟨hphase, hstarts⟩ := attackStartsAt_iff h hu hs i
      rw [hunhurt (hfree u (Nat.lt_succ_iff.1 htu) (Nat.lt_succ_self u))]
      by_cases heq : t = u
      · subst u
        cases hphase with
        | starts hattack helapsed _ _ _ _ => exact ⟨hattack, by rw [helapsed]⟩
        | continues _ _ hnone => exact absurd (hstarts.1 ht) hnone
        | dashes _ _ hnone _ => exact absurd (hstarts.1 ht) hnone
        | rests _ hnone _ => exact absurd (hstarts.1 ht) hnone
      · obtain ⟨hattack, helapsed⟩ := ih (by omega) (by omega) hs (by omega)
          fun v htv hv => hfree v htv (by omega)
        cases hphase with
        | continues hcontinues _ _ =>
            refine ⟨hcontinues.attacking', ?_⟩
            rw [hcontinues.elapsed]
            omega
        | starts _ _ _ _ _ hlast =>
            have hend := hlast hattack
            omega
        | dashes _ _ _ hlast =>
            have hend := hlast hattack
            omega
        | rests _ _ hlast =>
            have hend := hlast hattack
            omega

/-- The next attack of an undamaged player starts when the last one is over. -/
theorem attack_gap (h : r.Phased 0) {i : Side} {t u : Nat} (ht : r.AttackStartsAt events i t)
    (hu : r.AttackStartsAt events i u) (htu : t < u)
    (hfree : ∀ v, t ≤ v → v < u → ¬ r.DamagedAt events i v) : t + r.rules.attackTicks ≤ u := by
  by_contra hlt
  obtain ⟨hattack, helapsed⟩ := attack_goes_on h ht htu hu.1.le hu.2.1 (by omega) hfree
  have hlast : r.rules.attackTicks ≤
      ((r.atStep events u).seats.get i).player.elapsed r.rules + 1 := by
    obtain ⟨hphase, hstarts⟩ := attackStartsAt_iff h hu.1 hu.2.1 i
    cases hphase with
    | starts _ _ _ _ _ hlast => exact hlast hattack
    | continues _ _ hnone => exact absurd (hstarts.1 hu) hnone
    | dashes _ _ hnone _ => exact absurd (hstarts.1 hu) hnone
    | rests _ hnone _ => exact absurd (hstarts.1 hu) hnone
  omega

theorem BelongsTo.unique (h : r.Phased 0) {i : Side} {t t' u : Nat}
    (ht : r.BelongsTo events i t u) (ht' : r.BelongsTo events i t' u) : t = t' := by
  have hlt : ∀ t t', r.BelongsTo events i t u → r.BelongsTo events i t' u → ¬ t < t' := by
    intro t t' ht ht' hlt
    obtain ⟨hstart, -, hend, hfree⟩ := ht
    obtain ⟨hstart', hbegin', -, -⟩ := ht'
    have hgap := attack_gap h hstart hstart' hlt fun v htv hv => hfree v htv (by omega)
    unfold Ruleset.attackTicks at hgap
    omega
  have hle := hlt t t' ht ht'
  have hle' := hlt t' t ht' ht
  omega

theorem DamagedAt.belongs (h : r.Phased 0) {i : Side} {u : Nat} (hd : r.DamagedAt events i u) :
    ∃ t, r.BelongsTo events i.other t u := by
  have hs := active_of_damagedAt h hd
  have hphased := h.atStep events hd.1.le
  have hdamage := (hphased.step_hp_lt_iff hs i).1 hd.2
  have hhits : Seat.hits r.rules
      (((r.atStep events u).seats.get i.other).toHits r.rules ((r.atStep events u).tick + 1))
      (((r.atStep events u).seats.get i).toHits r.rules ((r.atStep events u).tick + 1)) = true := by
    unfold stepDamage at hdamage
    rw [atStep_rules] at hdamage
    by_contra hmiss
    exact hdamage (if_neg hmiss)
  have hstate : (((r.atStep events u).seats.get i.other).toHits r.rules
      ((r.atStep events u).tick + 1)).player.actionState = .lightAttackActive := by
    unfold Seat.hits at hhits
    rw [Bool.and_eq_true] at hhits
    exact of_decide_eq_true hhits.1
  have hinphase := (hphased.toHits_phase (by rw [hs]; decide) i.other).1
  rw [atStep_rules] at hinphase
  have hwindow := (hinphase.active_iff (.inr (.inl hstate))).1 hstate
  obtain ⟨hphase, hstarts⟩ := attackStartsAt_iff h hd.1 hs i.other
  cases hphase with
  | continues hcontinues _ _ =>
      obtain ⟨t, ht, heq, hfree⟩ := attack_origin h i.other hd.1.le hs hcontinues.attacking
      rw [hcontinues.elapsed] at hwindow
      exact ⟨t, ht, by omega, by omega, hfree⟩
  | starts _ helapsed _ _ hstart _ =>
      rw [helapsed] at hwindow
      exact ⟨u, hstarts.2 hstart, by omega, by omega, fun v huv hv => absurd hv (by omega)⟩
  | dashes hdash _ _ _ =>
      rw [hstate] at hdash
      cases hdash
  | rests hloc _ _ =>
      exact absurd (.inr (.inl hstate)) (PlayerState.not_attacking_of_inLocomotion hloc)

/-! ### Adding up -/

/-- The steps at which a player is damaged before step `u`. -/
def damagedSteps (r : Room) (events : List Event) (i : Side) (u : Nat) : Finset Nat :=
  (Finset.range u).filter fun v => r.DamagedAt events i v

theorem DamagedAt.hp (h : r.Phased 0) {u : Nat} (hd : r.DamagedAt events i u) :
    ((r.atStep events u).step.seats.get i).player.hp.toInt =
      max (((r.atStep events u).seats.get i).player.hp.toInt - r.rules.lightAttack.damage.toInt)
        0 := by
  have hs := active_of_damagedAt h hd
  have hphased := h.atStep events hd.1.le
  have hdamage := (hphased.step_hp_lt_iff hs i).1 hd.2
  have hdealt : (r.atStep events u).stepDamage i = r.rules.lightAttack.damage := by
    unfold stepDamage at hdamage ⊢
    split_ifs at hdamage ⊢ with hhits
    · rw [atStep_rules]
    · exact absurd rfl hdamage
  rw [step_seat_of_active hs, stepSeat_hp hphased.accepted (hphased.hp_nonneg i), hdealt]

theorem step_hp_of_not_damagedAt (h : r.Phased 0) {u : Nat} (hu : u < stepCount events)
    (hd : ¬ r.DamagedAt events i u) : ((r.atStep events u).step.seats.get i).player.hp =
      ((r.atStep events u).seats.get i).player.hp := by
  have hphased := h.atStep events hu.le
  rcases step_hp hphased.accepted (hphased.hp_nonneg i) with heq | ⟨-, -, heq⟩
  · exact heq
  · have hdamage := stepDamage_nonneg hphased.accepted i
    have hnonneg := hphased.hp_nonneg i
    have hnlt : ¬ ((r.atStep events u).step.seats.get i).player.hp.toInt <
        ((r.atStep events u).seats.get i).player.hp.toInt :=
      fun hlt => hd ⟨hu, Int32.lt_iff_toInt_lt.2 hlt⟩
    rw [← Int32.toInt_inj]
    omega

/-- The total loss before step `u` is at most the damage times the number of damaging steps. -/
theorem hp_loss_le (h : r.Phased 0) {u : Nat} (hu : u ≤ stepCount events) (i : Side) :
    (r.seats.get i).player.hp.toInt ≤
      ((r.atStep events u).seats.get i).player.hp.toInt +
        r.rules.lightAttack.damage.toInt * (r.damagedSteps events i u).card := by
  induction u with
  | zero =>
      have hsame := player_of_snapshot_eq (r.atStep_zero_snapshot events) i
      rw [hsame]
      change _ ≤ _ + _ * ((0 : Nat) : Int)
      omega
  | succ u ih =>
      have hle := ih (Nat.le_of_succ_le hu)
      rw [atStep_succ_player hu]
      by_cases hd : r.DamagedAt events i u
      · have hcard : (r.damagedSteps events i (u + 1)).card =
            (r.damagedSteps events i u).card + 1 := by
          rw [damagedSteps, Finset.range_add_one, Finset.filter_insert, if_pos hd]
          exact Finset.card_insert_of_notMem (by simp)
        rw [hd.hp h, hcard, Int.natCast_add, Int.mul_add]
        omega
      · have hsame : r.damagedSteps events i (u + 1) = r.damagedSteps events i u := by
          rw [damagedSteps, Finset.range_add_one, Finset.filter_insert, if_neg hd]
          rfl
        rw [step_hp_of_not_damagedAt h hu hd, hsame]
        exact hle

/-- An attack damages its target at no more steps than its active phase has ticks. -/
theorem card_belongs_le (i : Side) (t : Nat) (steps : Finset Nat)
    (h : ∀ u ∈ steps, r.BelongsTo events i t u) :
    steps.card ≤ r.rules.lightAttack.activeTicks.toNat := by
  have hsubset : steps ⊆ Finset.Ico (t + r.rules.lightAttack.windupTicks.toNat)
      (t + r.rules.lightAttack.windupTicks.toNat + r.rules.lightAttack.activeTicks.toNat) := by
    intro u hu
    obtain ⟨-, hlo, hhi, -⟩ := h u hu
    exact Finset.mem_Ico.2 ⟨hlo, hhi⟩
  have hcard := Finset.card_le_card hsubset
  rw [Nat.card_Ico] at hcard
  omega

/-- The attacks a player starts before step `u`. -/
def attacksStarted (r : Room) (events : List Event) (i : Side) (u : Nat) : Finset Nat :=
  (Finset.range u).filter fun t => r.AttackStartsAt events i t

theorem card_damagedSteps_le (events : List Event) (h : r.Phased 0) (i : Side) (u : Nat) :
    (r.damagedSteps events i u).card ≤ (r.attacksStarted events i.other u).card *
      r.rules.lightAttack.activeTicks.toNat := by
  classical
  have hcover : r.damagedSteps events i u ⊆ (r.attacksStarted events i.other u).biUnion fun t =>
      (r.damagedSteps events i u).filter fun v => r.BelongsTo events i.other t v := by
    intro v hv
    obtain ⟨hvu, hd⟩ := Finset.mem_filter.1 hv
    obtain ⟨t, ht⟩ := hd.belongs h
    have htu : t < u := by
      have hlt := Finset.mem_range.1 hvu
      have hle := ht.2.1
      omega
    exact Finset.mem_biUnion.2 ⟨t, Finset.mem_filter.2 ⟨Finset.mem_range.2 htu, ht.1⟩,
      Finset.mem_filter.2 ⟨hv, ht⟩⟩
  refine (Finset.card_le_card hcover).trans (Finset.card_biUnion_le_card_mul _ _ _ ?_)
  intro t _
  exact card_belongs_le i.other t _ fun v hv => (Finset.mem_filter.1 hv).2

theorem Phased.hp_run_le {r : Room} {n : Nat} (h : r.Phased n) (events : List Event) (i : Side) :
    ((r.run events).seats.get i).player.hp.toInt ≤ (r.seats.get i).player.hp.toInt := by
  induction events generalizing r n with
  | nil => exact Int.le_refl _
  | cons event events ih =>
      cases event with
      | submitInput playerID input =>
          have hsame := player_of_snapshot_eq (r.submitInput_snapshot playerID input) i
          rw [← hsame]
          exact ih (h.submitInput playerID input)
      | step =>
          refine (ih h.step).trans ?_
          have hdamage := stepDamage_nonneg h.accepted i
          have hnonneg := h.hp_nonneg i
          rcases step_hp h.accepted hnonneg with heq | ⟨-, -, heq⟩
          · rw [heq]
          · rw [heq]
            omega

end Room

/-- Hit points only fall, inside their bounds; every fall is the full damage and belongs to exactly
one attack of the opponent, whose owner was unharmed since its start; so an attack damages at most
`activeTicks` times and the total loss is bounded by the attacks started. Both hits of a step are
decided on the seats before either is applied. -/
theorem damage_accounting {playerA playerB : String} {rules : Ruleset} {r₀ : Room}
    (hnew : newWithRuleset playerA playerB rules = .ok r₀) (events : List Event) (i : Side) :
    let D := rules.lightAttack.damage.toInt
    let A := rules.lightAttack.activeTicks.toNat
    let W := rules.lightAttack.windupTicks.toNat
    let n := stepCount events
    let hp (room : Room) : Int := (room.seats.get i).player.hp.toInt
    (∀ earlier later, events = earlier ++ later →
      0 ≤ hp (r₀.run events) ∧ hp (r₀.run events) ≤ hp (r₀.run earlier) ∧
        hp (r₀.run earlier) ≤ rules.initialHP.toInt) ∧
    (∀ u, r₀.DamagedAt events i u →
      hp (r₀.atStep events u).step = max (hp (r₀.atStep events u) - D) 0 ∧
      ∃! t, r₀.AttackStartsAt events i.other t ∧ t + W ≤ u ∧ u < t + W + A ∧
        ∀ v, t ≤ v → v < u → ¬ r₀.DamagedAt events i.other v) ∧
    (∀ t, ∀ steps : Finset Nat,
      (∀ u ∈ steps, r₀.DamagedAt events i u ∧ r₀.BelongsTo events i.other t u) →
        steps.card ≤ A) ∧
    rules.initialHP.toInt - hp (r₀.run events) ≤
      D * A * (r₀.attacksStarted events i.other n).card ∧
    ∀ u, (r₀.atStep events u).status = .active →
      let tick := (r₀.atStep events u).tick + 1
      let before (j : Side) := ((r₀.atStep events u).seats.get j).toHits rules tick
      ∀ j, (r₀.atStep events u).step.seats.get j = (before j).applyDamage tick
        (if Seat.hits rules (before j.other) (before j) then rules.lightAttack.damage else 0) := by
  obtain ⟨-, -, -, hrules, rfl⟩ := newWithRuleset_ok hnew
  have h := Room.initialRoom_phased playerA playerB hrules
  have hinitial : ∀ i, ((initialRoom playerA playerB rules).seats.get i).player.hp =
      rules.initialHP := by
    intro i
    cases i <;> rfl
  intro D A W n hp
  refine ⟨?_, fun u hd => ⟨hd.hp h, ?_⟩, fun t steps hsteps => ?_, ?_, ?_⟩
  · intro earlier later heq
    have hearlier := h.run earlier
    refine ⟨(h.run events).hp_nonneg i, ?_, ?_⟩
    · simp only [hp]
      rw [heq, Room.run_append]
      exact hearlier.hp_run_le later i
    · have hle := h.hp_run_le earlier i
      rwa [hinitial] at hle
  · obtain ⟨t, ht⟩ := hd.belongs h
    exact ⟨t, ht, fun t' ht' => Room.BelongsTo.unique h ht' ht⟩
  · exact Room.card_belongs_le i.other t steps fun u hu => (hsteps u hu).2
  · have hloss := Room.hp_loss_le h (Nat.le_refl n) i
    have hcard := Room.card_damagedSteps_le events h i n
    have hall : (initialRoom playerA playerB rules).atStep events n =
        (initialRoom playerA playerB rules).run events := by
      rw [Room.atStep, callsBefore_of_le (Nat.le_refl n)]
    rw [hinitial, hall] at hloss
    have hD : 0 ≤ D := hrules.damage_nonneg
    have hcard' : ((Room.damagedSteps (initialRoom playerA playerB rules) events i n).card : Int) ≤
        A * ((initialRoom playerA playerB rules).attacksStarted events i.other n).card := by
      rw [Nat.mul_comm] at hcard
      exact_mod_cast hcard
    have htotal := Int.mul_le_mul_of_nonneg_left hcard' hD
    rw [← Int.mul_assoc] at htotal
    exact Int.sub_left_le_of_le_add (hloss.trans (Int.add_le_add_left htotal _))
  · intro u ha tick before j
    rw [Room.step_seat_of_active ha, Room.stepSeat, Room.stepDamage, Room.atStep_rules]
    rfl

/-- A short match of two close players in which the light attack has no windup. -/
def closeRules : Ruleset :=
  { defaultRuleset with
    countdownTicks := 1, matchDurationTicks := 9
    arena := { defaultRuleset.arena with spawnBX := -200 }
    lightAttack := { defaultRuleset.lightAttack with windupTicks := 0 } }

/-- The first player strikes on the first active tick, the step number one. -/
def closeEvents : List Event :=
  [.step, .submitInput "alice" { tick := 1, moveX := 0, moveY := 0, actions := [⟨1, .lightAttack⟩] },
    .step]

theorem damage_accounting_close :
    newWithRuleset "alice" "bob" closeRules = .ok (initialRoom "alice" "bob" closeRules) ∧
    let r := initialRoom "alice" "bob" closeRules
    r.DamagedAt closeEvents .b 1 ∧
      ∃! t, r.AttackStartsAt closeEvents .a t ∧ t + 0 ≤ 1 ∧ 1 < t + 0 + 1 ∧
        ∀ v, t ≤ v → v < 1 → ¬ r.DamagedAt closeEvents .a v := by
  have hnew : newWithRuleset "alice" "bob" closeRules =
      .ok (initialRoom "alice" "bob" closeRules) :=
    newWithRuleset_of_accepted (by decide) (by decide) (by decide) (by decide)
  have hd : (initialRoom "alice" "bob" closeRules).DamagedAt closeEvents .b 1 := by
    decide +kernel
  obtain ⟨-, hattributed, -⟩ := damage_accounting hnew closeEvents .b
  exact ⟨hnew, hd, (hattributed 1 hd).2⟩

end PvpDuel.Simulation
