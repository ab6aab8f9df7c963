import Mathlib.Order.Monotone.Basic
import PvpDuel.Room.Gating

/-!
# Where an action comes from

A player found in a dash or an attack began it at the step his timeline names, and every snapshot since
shows that timeline. So a timeline that differs from an earlier one belongs to an action that began
after it.
-/

namespace PvpDuel.Simulation

/-- The player is carrying out an action of this kind. -/
def PlayerState.Performing (player : PlayerState) : ActionType → Prop
  | .dash => player.actionState = .dash
  | .lightAttack => player.Attacking
  | .unspecified => False

theorem PlayerState.not_performing_of_inLocomotion {player : PlayerState}
    (h : player.inLocomotion = true) (kind : ActionType) : ¬ player.Performing kind := by
  cases kind with
  | unspecified => exact fun hnone => hnone
  | lightAttack => exact not_attacking_of_inLocomotion h
  | dash =>
      intro hstate
      rw [inLocomotion, show player.actionState = .dash from hstate] at h
      simp at h

theorem PlayerState.not_performing_applyDamage {tick : UInt32} {damage : Int32} (hdamage : damage ≠ 0)
    (player : PlayerState) (kind : ActionType) :
    ¬ (player.applyDamage tick damage).Performing kind := by
  cases kind with
  | unspecified => exact fun hnone => hnone
  | lightAttack => exact not_attacking_applyDamage hdamage player
  | dash =>
      rw [applyDamage, if_neg hdamage]
      unfold Performing
      dsimp only
      split_ifs <;> decide

/-- Up to the hits, an action goes on with its timeline or begins with this tick. -/
theorem Seat.toHits_performing {rules : Ruleset} (hrules : rules.Accepted) (tick : UInt32) {s : Seat}
    (h : s.player.InPhase rules) (halive : s.player.actionState ≠ .ko) {kind : ActionType}
    (hkind : (s.toHits rules tick).player.Performing kind) :
    (s.player.Performing kind ∧
      (s.toHits rules tick).player.actionStartedServerTick = s.player.actionStartedServerTick) ∨
    (∃ command ∈ (s.beforeActions rules).effects rules tick s.pendingActions, command.type = kind) ∧
      (s.toHits rules tick).player.actionStartedServerTick = tick := by
  obtain ⟨-, hbefore⟩ := beforeActions_phase hrules h halive
  rw [toHits_eq] at hkind ⊢
  rcases (s.beforeActions rules).processActions_cases rules tick with
    ⟨-, heq⟩ | ⟨command, heffects, htype, -, -, heq⟩ | ⟨command, heffects, htype, -, -, heq⟩ <;>
    rw [heq] at hkind ⊢
  · have hkind' : (s.beforeActions rules).player.Performing kind := by
      cases kind <;> exact hkind
    rcases hbefore with hcontinues | ⟨hloc, -⟩
    · cases kind with
      | unspecified => exact absurd hkind' fun hnone => hnone
      | lightAttack => exact .inl ⟨hcontinues.attacking, hcontinues.started⟩
      | dash =>
          have hdash : (s.beforeActions rules).player.actionState = .dash := hkind'
          rcases hcontinues.attacking' with hstate | hstate | hstate <;> rw [hdash] at hstate <;>
            cases hstate
    · exact absurd hkind' (PlayerState.not_performing_of_inLocomotion hloc kind)
  · rw [beforeActions_pendingActions] at heffects
    refine .inr ⟨⟨command, by rw [heffects]; exact List.mem_singleton_self _, ?_⟩, rfl⟩
    rw [htype]
    cases kind with
    | unspecified => exact absurd hkind fun hnone => hnone
    | dash => rfl
    | lightAttack => rcases hkind with hstate | hstate | hstate <;> cases hstate
  · rw [beforeActions_pendingActions] at heffects
    refine .inr ⟨⟨command, by rw [heffects]; exact List.mem_singleton_self _, ?_⟩, rfl⟩
    rw [htype]
    cases kind with
    | unspecified => exact absurd hkind fun hnone => hnone
    | lightAttack => rfl
    | dash =>
        obtain ⟨-, hattack, -⟩ := startLightAttack_phase hrules tick (s.beforeActions rules)
        have hdash : ((s.beforeActions rules).startLightAttack rules tick).player.actionState =
            .dash := hkind
        rcases hattack with hstate | hstate | hstate <;> rw [hdash] at hstate <;> cases hstate

namespace Room

variable {r : Room} {events : List Event} {i : Side}

/-- One step of the room: an action goes on with its timeline, or it takes effect in this step. -/
theorem Phased.step_performing {n : Nat} (h : r.Phased n) {kind : ActionType}
    (hkind : (r.step.seats.get i).player.Performing kind) :
    ((r.seats.get i).player.Performing kind ∧
      (r.step.seats.get i).player.actionStartedServerTick =
        (r.seats.get i).player.actionStartedServerTick) ∨
    (∃ command ∈ r.effects i, command.type = kind) ∧
      (r.step.seats.get i).player.actionStartedServerTick = r.tick + 1 := by
  by_cases ha : r.status = .active
  · rw [step_seat_of_active ha] at hkind ⊢
    have hunhurt : r.stepDamage i = 0 := by
      by_contra hdamage
      exact PlayerState.not_performing_applyDamage hdamage _ kind hkind
    have hsame : (r.stepSeat i).player = ((r.seats.get i).toHits r.rules (r.tick + 1)).player := by
      rw [stepSeat, hunhurt, Seat.applyDamage, PlayerState.applyDamage, if_pos rfl]
    rw [hsame] at hkind ⊢
    rw [effects_of_active ha]
    exact Seat.toHits_performing h.accepted (r.tick + 1) (h.inPhase i)
      (mt (h.ko_iff i).1 (h.hp_ne_zero (by rw [ha]; decide) i)) hkind
  · rw [step_player_of_not_active h.not_waiting ha] at hkind ⊢
    have hkind' : (r.seats.get i).player.Performing kind := by
      cases kind <;> exact hkind
    exact .inl ⟨hkind', rfl⟩

theorem Phased.not_performing_zero (h : r.Phased 0) (i : Side) (kind : ActionType) :
    ¬ (r.seats.get i).player.Performing kind := by
  have hpos := h.accepted.countdownTicks_pos
  refine PlayerState.not_performing_of_inLocomotion (h.quiet ?_ i) kind
  cases hs : r.status with
  | countdown => rfl
  | waiting => exact absurd hs h.not_waiting
  | active =>
      have hcount := (h.active hs).1
      omega
  | finished =>
      have hcount := (h.finished hs).1
      omega

/-- A player found performing began it at an earlier step and has shown its timeline since. -/
theorem performing_origin (h : r.Phased 0) {kind : ActionType} {u : Nat} (hu : u ≤ stepCount events)
    (hkind : ((r.atStep events u).seats.get i).player.Performing kind) :
    ∃ t < u, r.ActsAt events i kind t ∧ ∀ v, t < v → v ≤ u →
      ((r.atStep events v).seats.get i).player.actionStartedServerTick =
        (r.atStep events t).tick + 1 := by
  induction u with
  | zero =>
      rw [player_of_snapshot_eq (r.atStep_zero_snapshot events)] at hkind
      exact absurd hkind (h.not_performing_zero i kind)
  | succ u ih =>
      have hplayer := atStep_succ_player (r := r) hu i
      rw [hplayer] at hkind
      rcases (h.atStep events (Nat.le_of_succ_le hu)).step_performing hkind with
        ⟨hbefore, hsame⟩ | ⟨hacts, hstarted⟩
      · obtain ⟨t, htu, ht, hshown⟩ := ih (Nat.le_of_succ_le hu) hbefore
        refine ⟨t, Nat.lt_succ_of_lt htu, ht, fun v htv hv => ?_⟩
        rcases Nat.le_succ_iff.1 hv with hvu | rfl
        · exact hshown v htv hvu
        · rw [hplayer, hsame]
          exact hshown u htu (Nat.le_refl u)
      · refine ⟨u, Nat.lt_succ_self u, ⟨hu, hacts⟩, fun v huv hv => ?_⟩
        obtain rfl : v = u + 1 := Nat.le_antisymm hv huv
        rw [hplayer]
        exact hstarted

/-- A timeline that an earlier step did not show belongs to an action that began since. -/
theorem actsAt_of_new_timeline (h : r.Phased 0) {kind : ActionType} {u v : Nat} (huv : u ≤ v)
    (hv : v ≤ stepCount events)
    (hkind : ((r.atStep events v).seats.get i).player.Performing kind)
    (hnew : ((r.atStep events v).seats.get i).player.actionStartedServerTick ≠
      ((r.atStep events u).seats.get i).player.actionStartedServerTick) :
    ∃ t, u ≤ t ∧ t < v ∧ r.ActsAt events i kind t := by
  obtain ⟨t, htv, ht, hshown⟩ := performing_origin h hv hkind
  refine ⟨t, ?_, htv, ht⟩
  by_contra hlt
  have hlt' := Nat.lt_of_not_le hlt
  rw [hshown u hlt' huv, hshown v htv (Nat.le_refl v)] at hnew
  exact hnew rfl

theorem hp_le_of_le (h : r.Phased 0) (i : Side) {u v : Nat} (huv : u ≤ v)
    (hv : v ≤ stepCount events) : ((r.atStep events v).seats.get i).player.hp.toInt ≤
      ((r.atStep events u).seats.get i).player.hp.toInt := by
  induction v, huv using Nat.le_induction with
  | base => exact Int.le_refl _
  | succ v huv ih =>
      have hstep := (h.atStep events (Nat.le_of_succ_le hv)).hp_run_le [.step] i
      rw [atStep_succ_player hv]
      exact hstep.trans (ih (Nat.le_of_succ_le hv))

end Room

end PvpDuel.Simulation
