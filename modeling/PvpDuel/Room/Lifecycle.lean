import Mathlib.Data.List.Induction
import PvpDuel.Lib.FixedWidth
import PvpDuel.Room.Actions

/-!
# The life of a match

How many steps a room has made decides its phase: a countdown, then an active phase that ends at a
knockout or at its last tick. `Lifecycle` carries the three counters and the verdict through a run.
-/

namespace PvpDuel.Simulation

/-! ### Hit points -/

theorem Ruleset.Accepted.initialHP_pos {rules : Ruleset} (h : rules.Accepted) :
    0 < rules.initialHP.toInt := by
  unfold Accepted at h
  push Not at h
  exact Int32.lt_iff_toInt_lt.1 (Int32.not_le.1 h.2.2.2.1)

theorem Ruleset.Accepted.damage_nonneg {rules : Ruleset} (h : rules.Accepted) :
    0 ≤ rules.lightAttack.damage.toInt := by
  unfold Accepted at h
  push Not at h
  exact Int32.le_iff_toInt_le.1 (Int32.not_lt.1 h.2.2.2.2.2.2.1)

theorem Ruleset.Accepted.countdownTicks_pos {rules : Ruleset} (h : rules.Accepted) :
    0 < rules.countdownTicks.toNat := by
  unfold Accepted at h
  push Not at h
  exact Nat.pos_of_ne_zero fun hzero => h.2.1 (UInt32.toNat_inj.1 hzero)

theorem Ruleset.Accepted.matchDurationTicks_pos {rules : Ruleset} (h : rules.Accepted) :
    0 < rules.matchDurationTicks.toNat := by
  unfold Accepted at h
  push Not at h
  exact Nat.pos_of_ne_zero fun hzero => h.2.2.1 (UInt32.toNat_inj.1 hzero)

theorem Ruleset.Accepted.activeTicks_pos {rules : Ruleset} (h : rules.Accepted) :
    0 < rules.lightAttack.activeTicks.toNat := by
  unfold Accepted at h
  push Not at h
  exact Nat.pos_of_ne_zero fun hzero => h.2.2.2.2.2.1 (UInt32.toNat_inj.1 hzero)

/-- The hit points after damage, over the integers: none is lost to overflow. -/
theorem PlayerState.applyDamage_hp {player : PlayerState} {damage : Int32}
    (hhp : 0 ≤ player.hp.toInt) (hdamage : 0 ≤ damage.toInt) (tick : UInt32) :
    (player.applyDamage tick damage).hp.toInt = max (player.hp.toInt - damage.toInt) 0 := by
  unfold applyDamage
  split_ifs with hzero
  · subst damage
    change player.hp.toInt = max (player.hp.toInt - 0) 0
    omega
  · have hlt := player.hp.toInt_lt
    have hlt' := damage.toInt_lt
    change (max (player.hp - damage) 0).toInt = _
    rw [FixedWidth.int32_toInt_max, FixedWidth.int32_toInt_sub (by omega) (by omega)]
    rfl

namespace Room

theorem stepDamage_nonneg {r : Room} (h : r.rules.Accepted) (i : Side) :
    0 ≤ (r.stepDamage i).toInt := by
  unfold stepDamage
  split_ifs
  · exact h.damage_nonneg
  · decide

theorem stepSeat_hp {r : Room} (h : r.rules.Accepted) {i : Side}
    (hhp : 0 ≤ (r.seats.get i).player.hp.toInt) : (r.stepSeat i).player.hp.toInt =
      max ((r.seats.get i).player.hp.toInt - (r.stepDamage i).toInt) 0 := by
  have hsame : ((r.seats.get i).toHits r.rules (r.tick + 1)).player.hp = (r.seats.get i).player.hp :=
    ((r.seats.get i).toHits_fields r.rules (r.tick + 1)).2.1
  rw [← hsame] at hhp ⊢
  exact PlayerState.applyDamage_hp hhp (stepDamage_nonneg h i) _

theorem step_hp {r : Room} (h : r.rules.Accepted) {i : Side}
    (hhp : 0 ≤ (r.seats.get i).player.hp.toInt) :
    (r.step.seats.get i).player.hp = (r.seats.get i).player.hp ∨
    r.status ≠ .finished ∧ r.status ≠ .countdown ∧ (r.step.seats.get i).player.hp.toInt =
      max ((r.seats.get i).player.hp.toInt - (r.stepDamage i).toInt) 0 := by
  rcases r.seat_step i with ⟨-, hs⟩ | ⟨-, hs⟩ | ⟨-, hs⟩ | ⟨hf, hc, hs⟩ <;> rw [hs]
  · exact .inl rfl
  · rw [Seat.acknowledgeRejectedActions_eq]
    exact .inl rfl
  · rw [Seat.acknowledgeRejectedActions_eq]
    exact .inl rfl
  · exact .inr ⟨hf, hc, stepSeat_hp h hhp⟩

/-! ### The verdict -/

/-- The winner is the player with strictly more hit points, and nobody when they are equal. -/
structure WonByHP (r : Room) : Prop where
  winner : ∀ i, (r.seats.get i.other).player.hp < (r.seats.get i).player.hp →
    r.winnerID = (r.seats.get i).player.id
  draw : r.seats.a.player.hp = r.seats.b.player.hp → r.winnerID = ""

/-- The phase and the counters of a room after `n` steps. -/
structure Lifecycle (r : Room) (n : Nat) : Prop where
  accepted : r.rules.Accepted
  hp_nonneg : ∀ i, 0 ≤ (r.seats.get i).player.hp.toInt
  not_waiting : r.status ≠ .waiting
  countdown : r.status = .countdown →
    n < r.rules.countdownTicks.toNat ∧ r.tick.toNat = n ∧ r.activeTicks.toNat = 0
  active : r.status = .active →
    n = r.rules.countdownTicks.toNat + r.activeTicks.toNat ∧
    r.activeTicks.toNat < r.rules.matchDurationTicks.toNat
  ongoing : r.status ≠ .finished → r.BothAlive ∧ r.winnerID = "" ∧ r.finishReason = .none
  finished : r.status = .finished → r.rules.countdownTicks.toNat < n ∧ r.WonByHP ∧
    (r.finishReason = .ko ∧ ¬ r.BothAlive ∨
      r.finishReason = .timeLimit ∧ r.BothAlive ∧
        r.rules.countdownTicks.toNat + r.rules.matchDurationTicks.toNat ≤ n)

theorem initialRoom_lifecycle (playerA playerB : String) {rules : Ruleset} (h : rules.Accepted) :
    (initialRoom playerA playerB rules).Lifecycle 0 where
  accepted := h
  hp_nonneg i := by cases i <;> exact h.initialHP_pos.le
  not_waiting hwaiting := by cases hwaiting
  countdown _ := ⟨h.countdownTicks_pos, rfl, rfl⟩
  active hactive := by cases hactive
  ongoing _ := by
    refine ⟨fun i => ?_, rfl, rfl⟩
    cases i <;> exact Int32.lt_iff_toInt_lt.2 h.initialHP_pos
  finished hfinished := by cases hfinished

theorem Lifecycle.submitInput {r : Room} {n : Nat} (h : r.Lifecycle n) (playerID : String)
    (input : Input) : (r.submitInput playerID input).1.Lifecycle n := by
  rcases r.submitInput_cases playerID input with heq | ⟨index, -, heq⟩
  · rw [heq]
    exact h
  have hplayer : ∀ i, ((r.seats.set index ((r.seats.get index).submitInput input)).get i).player =
      (r.seats.get i).player := by
    intro i
    rw [Pair.get_set]
    split_ifs with hi
    · subst i
      exact Seat.submitInput_player _ input
    · rfl
  have halive : ({ r with seats := r.seats.set index ((r.seats.get index).submitInput input) } :
      Room).BothAlive ↔ r.BothAlive := by
    simp only [BothAlive, hplayer]
  have hwon : r.WonByHP → ({ r with
      seats := r.seats.set index ((r.seats.get index).submitInput input) } : Room).WonByHP := by
    refine fun hr => ⟨fun i => ?_, ?_⟩
    · simp only [hplayer]
      exact hr.winner i
    · have ha := hplayer .a
      have hb := hplayer .b
      simp only [Pair.get_a, Pair.get_b] at ha hb
      simp only [ha, hb]
      exact hr.draw
  rw [heq]
  refine ⟨h.accepted, fun i => ?_, h.not_waiting, h.countdown, h.active, fun hs => ?_, fun hs => ?_⟩
  · rw [hplayer]
    exact h.hp_nonneg i
  · rw [halive]
    exact h.ongoing hs
  · obtain ⟨hn, hw, hreason⟩ := h.finished hs
    refine ⟨hn, hwon hw, ?_⟩
    rw [halive]
    exact hreason

theorem koWinner_won {r : Room} (hp_nonneg : ∀ i, 0 ≤ (r.seats.get i).player.hp.toInt)
    (hdead : ¬ r.BothAlive) (hwinner : r.winnerID = "") (status : MatchStatus)
    (finishReason : FinishReason) :
    ({ r with status, finishReason, winnerID := r.koWinner } : Room).WonByHP := by
  have ha := hp_nonneg .a
  have hb := hp_nonneg .b
  simp only [Pair.get_a, Pair.get_b] at ha hb
  rw [bothAlive_iff, not_and_or] at hdead
  simp only [gt_iff_lt, Int32.lt_iff_toInt_lt, Int32.toInt_zero] at hdead
  constructor
  · intro i hlt
    rw [Int32.lt_iff_toInt_lt] at hlt
    cases i with
    | a =>
        change r.seats.b.player.hp.toInt < r.seats.a.player.hp.toInt at hlt
        exact if_pos (Int32.lt_iff_toInt_lt.2 (lt_of_le_of_lt hb hlt))
    | b =>
        change r.seats.a.player.hp.toInt < r.seats.b.player.hp.toInt at hlt
        have halive : 0 < r.seats.b.player.hp := Int32.lt_iff_toInt_lt.2 (lt_of_le_of_lt ha hlt)
        have hnot : ¬ r.seats.a.player.hp > 0 := by
          rw [gt_iff_lt, Int32.lt_iff_toInt_lt, Int32.toInt_zero]
          omega
        change r.koWinner = r.seats.b.player.id
        rw [koWinner, if_neg hnot, if_pos halive]
  · intro heq
    change r.seats.a.player.hp = r.seats.b.player.hp at heq
    rw [heq, or_self] at hdead
    have hnot : ¬ r.seats.b.player.hp > 0 := by
      rw [gt_iff_lt, Int32.lt_iff_toInt_lt, Int32.toInt_zero]
      exact hdead
    change r.koWinner = ""
    rw [koWinner, heq, if_neg hnot, if_neg hnot, hwinner]

theorem timeLimitWinner_won {r : Room} (hwinner : r.winnerID = "") (status : MatchStatus)
    (finishReason : FinishReason) :
    ({ r with status, finishReason, winnerID := r.timeLimitWinner } : Room).WonByHP := by
  constructor
  · intro i hlt
    cases i with
    | a => exact if_pos hlt
    | b =>
        have hnot : ¬ r.seats.a.player.hp > r.seats.b.player.hp := Int32.not_lt.2 (Int32.le_of_lt hlt)
        change r.timeLimitWinner = r.seats.b.player.id
        rw [timeLimitWinner, if_neg hnot]
        exact if_pos hlt
  · intro heq
    change r.seats.a.player.hp = r.seats.b.player.hp at heq
    change r.timeLimitWinner = ""
    rw [timeLimitWinner, heq, if_neg Int32.lt_irrefl, if_neg Int32.lt_irrefl, hwinner]

/-- A step of the countdown: the tick advances and at the last one the active phase opens. -/
theorem Lifecycle.step_of_countdown {r : Room} {n : Nat} (h : r.Lifecycle n)
    (hc : r.status = .countdown) : r.step.Lifecycle (n + 1) := by
  obtain ⟨hn, htick, hticks⟩ := h.countdown hc
  obtain ⟨halive, hwinner, hreason⟩ := h.ongoing (by rw [hc]; decide)
  have hlt := r.rules.countdownTicks.toNat_lt
  have hnext : (r.tick + 1).toNat = n + 1 := by
    rw [FixedWidth.uint32_toNat_add (by rw [htick, UInt32.toNat_one]; omega), htick,
      UInt32.toNat_one]
  have hplayer : ∀ i, (r.seats.get i).acknowledgeRejectedActions.player.hp =
      (r.seats.get i).player.hp := by
    intro i
    rw [Seat.acknowledgeRejectedActions_eq]
    rfl
  by_cases ht : r.tick + 1 < r.rules.countdownTicks
  · rw [step_of_counting hc ht]
    refine ⟨h.accepted, fun i => ?_, h.not_waiting, fun _ => ⟨?_, hnext, hticks⟩, fun hs => ?_,
      fun _ => ⟨fun i => ?_, hwinner, hreason⟩, fun hs => ?_⟩
    · rw [Pair.get_map, hplayer]
      exact h.hp_nonneg i
    · rw [← hnext]
      exact UInt32.lt_iff_toNat_lt.1 ht
    · rw [hc] at hs
      cases hs
    · rw [Pair.get_map, hplayer]
      exact halive i
    · rw [hc] at hs
      cases hs
  · have ht' := UInt32.not_lt.1 ht
    rw [step_of_activating hc ht']
    refine ⟨h.accepted, fun i => ?_, fun hs => (by cases hs), fun hs => (by cases hs), fun _ => ⟨?_, ?_⟩,
      fun _ => ⟨fun i => ?_, hwinner, hreason⟩, fun hs => (by cases hs)⟩
    · rw [Pair.get_map]
      exact (hplayer i).symm ▸ h.hp_nonneg i
    · have hle := UInt32.le_iff_toNat_le.1 ht'
      rw [hnext] at hle
      change n + 1 = r.rules.countdownTicks.toNat + r.activeTicks.toNat
      omega
    · change r.activeTicks.toNat < _
      rw [hticks]
      exact h.accepted.matchDurationTicks_pos
    · rw [Pair.get_map]
      exact (hplayer i).symm ▸ halive i

/-- A step of the active phase: a knockout or the last tick ends the match, else it goes on. -/
theorem Lifecycle.step_of_active {r : Room} {n : Nat} (h : r.Lifecycle n)
    (ha : r.status = .active) : r.step.Lifecycle (n + 1) := by
  obtain ⟨hn, hticks⟩ := h.active ha
  obtain ⟨-, hwinner, hreason⟩ := h.ongoing (by rw [ha]; decide)
  have hlt := r.rules.matchDurationTicks.toNat_lt
  have hnext : (r.activeTicks + 1).toNat = r.activeTicks.toNat + 1 :=
    FixedWidth.uint32_toNat_add (by rw [UInt32.toNat_one]; omega)
  have hhp : ∀ i, 0 ≤ (r.struck.seats.get i).player.hp.toInt := by
    intro i
    rw [struck, Pair.get_ofFn, stepSeat_hp h.accepted (h.hp_nonneg i)]
    exact le_max_right _ _
  rw [Room.step_of_active (by rw [ha]; decide) (by rw [ha]; decide)]
  by_cases halive : r.struck.BothAlive
  · by_cases hend : r.struck.activeTicks < r.struck.rules.matchDurationTicks
    · rw [finish_of_ongoing halive hend]
      have hend' := UInt32.lt_iff_toNat_lt.1 hend
      refine ⟨h.accepted, hhp, h.not_waiting, fun hs => ?_, fun _ => ⟨?_, hend'⟩,
        fun _ => ⟨halive, hwinner, hreason⟩, fun hs => ?_⟩
      · rw [struck, ha] at hs
        cases hs
      · change n + 1 = r.rules.countdownTicks.toNat + (r.activeTicks + 1).toNat
        omega
      · rw [struck, ha] at hs
        cases hs
    · have hend' := UInt32.not_lt.1 hend
      rw [finish_of_timeLimit halive (by rw [struck, ha]; decide) hend']
      refine ⟨h.accepted, hhp, fun hs => (by cases hs), fun hs => (by cases hs), fun hs => (by cases hs),
        fun hs => absurd rfl hs,
        fun _ => ⟨?_, timeLimitWinner_won (r := r.struck) hwinner _ _, .inr ⟨rfl, halive, ?_⟩⟩⟩
      · change r.rules.countdownTicks.toNat < n + 1
        omega
      · have hle := UInt32.le_iff_toNat_le.1 hend'
        change r.rules.matchDurationTicks.toNat ≤ (r.activeTicks + 1).toNat at hle
        change r.rules.countdownTicks.toNat + r.rules.matchDurationTicks.toNat ≤ n + 1
        omega
  · rw [finish_of_ko halive]
    refine ⟨h.accepted, hhp, fun hs => (by cases hs), fun hs => (by cases hs), fun hs => (by cases hs),
      fun hs => absurd rfl hs,
      fun _ => ⟨?_, koWinner_won (r := r.struck) hhp halive hwinner _ _, .inl ⟨rfl, halive⟩⟩⟩
    change r.rules.countdownTicks.toNat < n + 1
    omega

theorem Lifecycle.step {r : Room} {n : Nat} (h : r.Lifecycle n) : r.step.Lifecycle (n + 1) := by
  cases hs : r.status with
  | countdown => exact h.step_of_countdown hs
  | active => exact h.step_of_active hs
  | waiting => exact absurd hs h.not_waiting
  | finished =>
      obtain ⟨hn, hwon, hreason⟩ := h.finished hs
      rw [step_of_finished hs]
      refine ⟨h.accepted, h.hp_nonneg, h.not_waiting, fun hc => ?_, fun ha => ?_, h.ongoing,
        fun _ => ⟨by omega, hwon, ?_⟩⟩
      · rw [hs] at hc
        cases hc
      · rw [hs] at ha
        cases ha
      · rcases hreason with hko | ⟨htime, halive, hend⟩
        · exact .inl hko
        · exact .inr ⟨htime, halive, by omega⟩

theorem Lifecycle.run {r : Room} {n : Nat} (h : r.Lifecycle n) (events : List Event) :
    (r.run events).Lifecycle (n + stepCount events) :=
  run_counted (P := Lifecycle) (fun _ _ playerID input h => h.submitInput playerID input)
    (fun _ _ h => h.step) h events

theorem run_of_finished {r : Room} (h : r.status = .finished) (events : List Event) :
    (r.run events).snapshot = r.snapshot ∧ (r.run events).status = .finished := by
  refine run_induction (P := fun room => room.snapshot = r.snapshot ∧ room.status = .finished)
    ?_ ?_ ⟨rfl, h⟩ events
  · intro room playerID input hroom
    rw [submitInput_snapshot, submitInput_status]
    exact hroom
  · intro room hroom
    rw [step_of_finished hroom.2]
    exact hroom

/-- Over a finished match the reason tells a knockout from a time limit. -/
theorem Lifecycle.ko_iff {r : Room} {n : Nat} (h : r.Lifecycle n) (hf : r.status = .finished) :
    r.finishReason = .ko ↔ ∃ i, (r.seats.get i).player.hp = 0 := by
  have hzero : (¬ r.BothAlive) ↔ ∃ i, (r.seats.get i).player.hp = 0 := by
    unfold BothAlive
    push Not
    refine exists_congr fun i => ?_
    have hi := h.hp_nonneg i
    rw [Int32.not_lt, Int32.le_iff_toInt_le, ← Int32.toInt_inj, Int32.toInt_zero]
    omega
  obtain ⟨-, -, ⟨hreason, hdead⟩ | ⟨hreason, halive, -⟩⟩ := h.finished hf
  · exact iff_of_true hreason (hzero.1 hdead)
  · refine iff_of_false ?_ fun hdead => hzero.2 hdead halive
    rw [hreason]
    decide

/-- With two distinct nonempty IDs, the recorded winner says who has more hit points. -/
theorem WonByHP.winner_iff {r : Room} (h : r.WonByHP)
    (hne : r.seats.a.player.id ≠ r.seats.b.player.id)
    (hnamed : ∀ i, (r.seats.get i).player.id ≠ "") (i : Side) :
    r.winnerID = (r.seats.get i).player.id ↔
      (r.seats.get i.other).player.hp < (r.seats.get i).player.hp := by
  refine ⟨fun hwinner => ?_, h.winner i⟩
  rcases Std.lt_trichotomy (r.seats.get i).player.hp (r.seats.get i.other).player.hp with
    hlt | heq | hgt
  · have hother := h.winner i.other (by rw [Side.other_other]; exact hlt)
    rw [hwinner] at hother
    cases i
    · exact absurd hother hne
    · exact absurd hother.symm hne
  · have hdraw : r.winnerID = "" := h.draw (by cases i; exacts [heq, heq.symm])
    exact absurd (hwinner.symm.trans hdraw) (hnamed i)
  · exact hgt

theorem WonByHP.draw_iff {r : Room} (h : r.WonByHP)
    (hnamed : ∀ i, (r.seats.get i).player.id ≠ "") :
    r.winnerID = "" ↔ r.seats.a.player.hp = r.seats.b.player.hp := by
  refine ⟨fun hwinner => ?_, h.draw⟩
  rcases Std.lt_trichotomy r.seats.a.player.hp r.seats.b.player.hp with hlt | heq | hgt
  · exact absurd ((h.winner .b hlt).symm.trans hwinner) (hnamed .b)
  · exact heq
  · exact absurd ((h.winner .a hgt).symm.trans hwinner) (hnamed .a)

/-! ### What the snapshots report -/

theorem Lifecycle.snapshot_countdown {r : Room} {n : Nat} (h : r.Lifecycle n)
    (hn : n < r.rules.countdownTicks.toNat) : r.snapshot.status = .countdown ∧
      r.snapshot.countdownTicksRemaining.toNat = r.rules.countdownTicks.toNat - n := by
  have hstatus : r.status = .countdown := by
    cases hs : r.status with
    | countdown => rfl
    | active => exact absurd (h.active hs).1 (by omega)
    | waiting => exact absurd hs h.not_waiting
    | finished => exact absurd (h.finished hs).1 (by omega)
  obtain ⟨-, htick, -⟩ := h.countdown hstatus
  have hlt : r.tick < r.rules.countdownTicks := by
    rw [UInt32.lt_iff_toNat_lt, htick]
    exact hn
  refine ⟨hstatus, ?_⟩
  simp only [snapshot]
  rw [if_pos ⟨hstatus, hlt⟩, FixedWidth.uint32_toNat_sub (Nat.le_of_lt (UInt32.lt_iff_toNat_lt.1 hlt)),
    htick]

theorem Lifecycle.snapshot_active {r : Room} {n : Nat} (h : r.Lifecycle n)
    (ha : r.status = .active) : r.snapshot.matchTicksRemaining.toNat =
      r.rules.matchDurationTicks.toNat - (n - r.rules.countdownTicks.toNat) := by
  obtain ⟨hn, hticks⟩ := h.active ha
  simp only [snapshot]
  rw [if_pos ⟨ha, UInt32.lt_iff_toNat_lt.2 hticks⟩, FixedWidth.uint32_toNat_sub hticks.le]
  omega

theorem Lifecycle.countdown_of_step {r : Room} {n : Nat} (h : r.Lifecycle n)
    (hs : r.step.status = .countdown) : r.status = .countdown := by
  have hlt := (h.step.countdown hs).1
  rw [step_rules] at hlt
  exact (h.snapshot_countdown (by omega)).1

theorem Lifecycle.hp_ne_zero {r : Room} {n : Nat} (h : r.Lifecycle n) (hs : r.status ≠ .finished)
    (i : Side) : (r.seats.get i).player.hp ≠ 0 := by
  have hpos := Int32.lt_iff_toInt_lt.1 ((h.ongoing hs).1 i)
  intro hzero
  rw [hzero] at hpos
  exact absurd hpos (by decide)

/-- Past the countdown a match is active inside its duration, or finished. -/
theorem Lifecycle.active_or_finished {r : Room} {n : Nat} (h : r.Lifecycle n)
    (hn : r.rules.countdownTicks.toNat ≤ n) : r.status = .finished ∨
      n < r.rules.countdownTicks.toNat + r.rules.matchDurationTicks.toNat ∧ r.status = .active := by
  cases hs : r.status with
  | countdown => exact absurd (h.countdown hs).1 (by omega)
  | active =>
      obtain ⟨hactive, hticks⟩ := h.active hs
      exact .inr ⟨by omega, rfl⟩
  | waiting => exact absurd hs h.not_waiting
  | finished => exact .inl rfl

end Room

/-- The number of steps decides the phase and the remaining ticks; a running match has no loser, no
winner and no reason; a finished one never changes, and its reason and winner follow from the hit
points and from the step it finished at. -/
theorem lifecycle {playerA playerB : String} {rules : Ruleset} {r₀ : Room}
    (hnew : newWithRuleset playerA playerB rules = .ok r₀) (events : List Event) :
    let C := rules.countdownTicks.toNat
    let D := rules.matchDurationTicks.toNat
    let n := stepCount events
    let view := (r₀.run events).snapshot
    (n < C → view.status = .countdown ∧ view.countdownTicksRemaining.toNat = C - n) ∧
    (n = C → view.status = .active ∧ view.matchTicksRemaining.toNat = D) ∧
    (C < n → view.status = .finished ∨
      n < C + D ∧ view.status = .active ∧ view.matchTicksRemaining.toNat = D - (n - C)) ∧
    (C + D ≤ n → view.status = .finished) ∧
    (view.status ≠ .finished →
      (∀ i, 0 < (view.players.get i).hp) ∧ view.winnerID = "" ∧ view.finishReason = .none) ∧
    (view.status = .finished →
      (∀ later, (r₀.run (events ++ later)).snapshot = view) ∧
      (view.finishReason = .ko ↔ ∃ i, (view.players.get i).hp = 0) ∧
      (view.finishReason ≠ .ko → view.finishReason = .timeLimit ∧
        ∀ earlier later, events = earlier ++ later →
          ((r₀.run earlier).snapshot.status = .finished ↔ C + D ≤ stepCount earlier)) ∧
      (∀ i, view.winnerID = (view.players.get i).id ↔
        (view.players.get i.other).hp < (view.players.get i).hp) ∧
      (view.winnerID = "" ↔ view.players.a.hp = view.players.b.hp)) := by
  obtain ⟨ha, hb, hne, hrules, rfl⟩ := newWithRuleset_ok hnew
  have hrun : ∀ events, ((initialRoom playerA playerB rules).run events).Lifecycle
      (stepCount events) := by
    intro events
    have h := (Room.initialRoom_lifecycle playerA playerB hrules).run events
    rwa [Nat.zero_add] at h
  have hsame : ∀ events, ((initialRoom playerA playerB rules).run events).rules = rules :=
    fun events => Room.run_rules _ events
  have hended : ∀ events, rules.countdownTicks.toNat + rules.matchDurationTicks.toNat ≤
      stepCount events → ((initialRoom playerA playerB rules).run events).status = .finished := by
    intro events hn
    rcases (hrun events).active_or_finished (by rw [hsame]; omega) with hf | ⟨hlt, -⟩
    · exact hf
    · rw [hsame] at hlt
      omega
  have h := hrun events
  intro C D n view
  refine ⟨fun hn => ?_, fun hn => ?_, fun hn => ?_, hended events, fun hs => ?_, fun hf => ?_⟩
  · have hview := h.snapshot_countdown (by rw [hsame]; exact hn)
    rwa [hsame] at hview
  · have hD := hrules.matchDurationTicks_pos
    rcases h.active_or_finished (by rw [hsame]; exact hn.ge) with hf | ⟨-, hactive⟩
    · have hlt := (h.finished hf).1
      rw [hsame] at hlt
      omega
    · refine ⟨hactive, ?_⟩
      rw [h.snapshot_active hactive, hsame]
      omega
  · rcases h.active_or_finished (by rw [hsame]; exact hn.le) with hf | ⟨hlt, hactive⟩
    · exact .inl hf
    · rw [hsame] at hlt
      refine .inr ⟨hlt, hactive, ?_⟩
      rw [h.snapshot_active hactive, hsame]
  · obtain ⟨halive, hwinner, hreason⟩ := h.ongoing hs
    refine ⟨fun i => ?_, hwinner, hreason⟩
    simp only [view, Room.snapshot, Pair.get_map]
    exact halive i
  · have hids : ∀ i, (((initialRoom playerA playerB rules).run events).seats.get i).player.id =
        ((initialRoom playerA playerB rules).seats.get i).player.id := Room.run_id _ events
    have hnamed : ∀ i,
        (((initialRoom playerA playerB rules).run events).seats.get i).player.id ≠ "" := by
      intro i
      rw [hids]
      cases i
      · exact ha
      · exact hb
    have hwon := (h.finished hf).2.1
    refine ⟨fun later => ?_, ?_, fun hreason => ?_, fun i => ?_, hwon.draw_iff hnamed⟩
    · rw [Room.run_append]
      exact (Room.run_of_finished hf later).1
    · simp only [view, Room.snapshot, Pair.get_map]
      exact h.ko_iff hf
    · obtain ⟨-, -, ⟨hko, -⟩ | ⟨htime, -, -⟩⟩ := h.finished hf
      · exact absurd hko hreason
      refine ⟨htime, fun earlier later heq => ⟨fun hearlier => ?_, hended earlier⟩⟩
      -- The verdict was already the one of `earlier`, and a time limit is reached at `C + D` only.
      have hverdict : (Room.run (initialRoom playerA playerB rules) events).snapshot =
          (Room.run (initialRoom playerA playerB rules) earlier).snapshot := by
        rw [heq, Room.run_append]
        exact (Room.run_of_finished hearlier later).1
      obtain ⟨-, -, ⟨hko, -⟩ | ⟨-, -, hend⟩⟩ := (hrun earlier).finished hearlier
      · exact absurd ((congrArg Snapshot.finishReason hverdict).trans hko) hreason
      · rwa [hsame] at hend
    · have hiff := hwon.winner_iff (by
        have hida := hids .a
        have hidb := hids .b
        simp only [Pair.get_a, Pair.get_b] at hida hidb
        rw [hida, hidb]
        exact hne) hnamed i
      simp only [view, Room.snapshot, Pair.get_map]
      exact hiff

/-- A match of one countdown tick and two active ticks, cut off by the time limit. -/
theorem lifecycle_short_match :
    newWithRuleset "alice" "bob" { defaultRuleset with
      countdownTicks := 1, matchDurationTicks := 2 } = .ok (initialRoom "alice" "bob"
        { defaultRuleset with countdownTicks := 1, matchDurationTicks := 2 }) ∧
    ((initialRoom "alice" "bob" { defaultRuleset with
      countdownTicks := 1, matchDurationTicks := 2 }).run [.step, .step, .step]).snapshot.status =
        .finished := by
  have hnew : newWithRuleset "alice" "bob" { defaultRuleset with
      countdownTicks := 1, matchDurationTicks := 2 } = .ok (initialRoom "alice" "bob"
        { defaultRuleset with countdownTicks := 1, matchDurationTicks := 2 }) :=
    newWithRuleset_of_accepted (by decide) (by decide) (by decide) (by decide)
  exact ⟨hnew, (lifecycle hnew [.step, .step, .step]).2.2.2.1 (by decide)⟩

end PvpDuel.Simulation
