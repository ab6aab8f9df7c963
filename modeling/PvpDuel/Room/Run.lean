import PvpDuel.Room.Simulation

/-!
# Runs of a room

A run is a list of the two calls the room loop makes, `SubmitInput` and `Step`. This module says once
what each call can do: `submitInput` rewrites at most the seat of the named player, and `step` leaves
a finished room alone, counts down, opens the active phase, or puts both seats through the phases of
an active tick. Every invariant of the simulation is derived from these equations.
-/

namespace PvpDuel.Simulation

/-- The calls the room loop makes on its room. -/
inductive Event
  | submitInput (playerID : String) (input : Input)
  | step
deriving DecidableEq, Repr

/-- The number of `Step` calls in a run. -/
def stepCount (events : List Event) : Nat := events.count .step

theorem stepCount_cons_step (events : List Event) :
    stepCount (.step :: events) = stepCount events + 1 := List.count_cons_self

/-! ### The phases of one seat -/

namespace Seat

/-- One seat in an active step, up to the point where hits are decided. -/
def toHits (rules : Ruleset) (tick : UInt32) (s : Seat) : Seat :=
  ((s.advanceActionState rules).applyMovement rules).processActions rules tick

@[simp] theorem holdInput_player (s : Seat) (input : Input) :
    (s.holdInput input).player = s.player := by
  unfold holdInput
  split_ifs <;> rfl

@[simp] theorem submitInput_player (s : Seat) (input : Input) :
    (s.submitInput input).player = s.player := by
  unfold submitInput
  split_ifs
  · rfl
  · exact holdInput_player s input

/-- What `SubmitInput` can do to a seat: nothing, only queue commands, or also hold a newer input. -/
theorem submitInput_cases (s : Seat) (input : Input) :
    s.submitInput input = s ∨
    (∃ pending, s.submitInput input = { s with pendingActions := pending }) ∨
    ∃ pending, s.lastInputTick < input.tick ∧ s.submitInput input = { s with
      input := {
        tick := input.tick, moveX := clampAxis input.moveX, moveY := clampAxis input.moveY
        actions := [] }
      lastInputTick := input.tick
      pendingActions := pending } := by
  unfold submitInput holdInput
  by_cases hrange : input.tick = 0 ∨ input.tick > s.lastInputTick + maxInputTickAdvance
  · exact .inl (if_pos hrange)
  rw [if_neg hrange]
  by_cases hnewer : input.tick > s.lastInputTick
  · rw [if_pos hnewer]
    exact .inr (.inr ⟨_, hnewer, rfl⟩)
  · rw [if_neg hnewer]
    exact .inr (.inl ⟨_, rfl⟩)

end Seat

namespace Room

def apply (r : Room) : Event → Room
  | .submitInput playerID input => (r.submitInput playerID input).1
  | .step => r.step

def run (r : Room) (events : List Event) : Room := events.foldl apply r

@[simp] theorem run_nil (r : Room) : r.run [] = r := rfl

@[simp] theorem run_cons (r : Room) (event : Event) (events : List Event) :
    r.run (event :: events) = (r.apply event).run events := rfl

theorem run_append (r : Room) (first second : List Event) :
    r.run (first ++ second) = (r.run first).run second := List.foldl_append

@[simp] theorem run_concat (r : Room) (events : List Event) (event : Event) :
    r.run (events ++ [event]) = (r.run events).apply event := by
  rw [run_append]
  rfl

/-- What both calls preserve, a step counting one, holds after every run with its steps counted. -/
theorem run_counted {P : Room → Nat → Prop}
    (hsubmit : ∀ r n playerID input, P r n → P (r.submitInput playerID input).1 n)
    (hstep : ∀ r n, P r n → P r.step (n + 1)) {r : Room} {n : Nat} (hr : P r n)
    (events : List Event) : P (r.run events) (n + stepCount events) := by
  induction events generalizing r n with
  | nil => exact hr
  | cons event events ih =>
      cases event with
      | submitInput playerID input => exact ih (hsubmit r n playerID input hr)
      | step =>
          rw [run_cons, stepCount_cons_step, Nat.add_comm _ 1, ← Nat.add_assoc]
          exact ih (hstep r n hr)

/-- What both calls preserve holds after every run. -/
theorem run_induction {P : Room → Prop} (hsubmit : ∀ r playerID input, P r →
    P (r.submitInput playerID input).1) (hstep : ∀ r, P r → P r.step) {r : Room} (hr : P r)
    (events : List Event) : P (r.run events) :=
  run_counted (P := fun r _ => P r) (n := 0) (fun r _ => hsubmit r) (fun r _ => hstep r) hr events

/-! ### `SubmitInput` -/

theorem submitInput_of_error {r : Room} {playerID : String} {err : RoomError} (input : Input)
    (h : r.playerIndex playerID = .error err) : r.submitInput playerID input = (r, .error err) := by
  rw [submitInput, h]

theorem submitInput_of_ok {r : Room} {playerID : String} {index : Side} (input : Input)
    (h : r.playerIndex playerID = .ok index) : r.submitInput playerID input =
      ({ r with seats := r.seats.set index ((r.seats.get index).submitInput input) }, .ok ()) := by
  rw [submitInput, h]

theorem playerIndex_ok {r : Room} {playerID : String} {index : Side}
    (h : r.playerIndex playerID = .ok index) : (r.seats.get index).player.id = playerID := by
  unfold playerIndex at h
  split_ifs at h with ha hb
  · cases h
    exact ha
  · cases h
    exact hb

theorem playerIndex_unknown {r : Room} {playerID : String}
    (h : ∀ index, (r.seats.get index).player.id ≠ playerID) :
    r.playerIndex playerID = .error (.unknownPlayer playerID) := by
  have ha : r.seats.a.player.id ≠ playerID := h .a
  have hb : r.seats.b.player.id ≠ playerID := h .b
  rw [playerIndex, if_neg ha, if_neg hb]

theorem playerIndex_of_id {r : Room} (hne : r.seats.a.player.id ≠ r.seats.b.player.id)
    {index : Side} {playerID : String} (h : (r.seats.get index).player.id = playerID) :
    r.playerIndex playerID = .ok index := by
  cases index with
  | a => exact if_pos h
  | b =>
      have hb : r.seats.b.player.id = playerID := h
      rw [playerIndex, if_neg (by rw [← hb]; exact hne), if_pos hb]

theorem submitInput_of_ne {r : Room} {playerID : String} (input : Input) {i : Side}
    (h : (r.seats.get i).player.id ≠ playerID) :
    (r.submitInput playerID input).1.seats.get i = r.seats.get i := by
  cases hindex : r.playerIndex playerID with
  | error err => rw [submitInput_of_error input hindex]
  | ok index =>
      rw [submitInput_of_ok input hindex]
      refine Pair.get_set_of_ne _ _ fun heq => h ?_
      rw [heq]
      exact playerIndex_ok hindex

/-- `SubmitInput` rewrites one seat by `Seat.submitInput`, or changes nothing. -/
theorem submitInput_cases (r : Room) (playerID : String) (input : Input) :
    (r.submitInput playerID input).1 = r ∨
    ∃ index, r.playerIndex playerID = .ok index ∧ (r.submitInput playerID input).1 =
      { r with seats := r.seats.set index ((r.seats.get index).submitInput input) } := by
  cases h : r.playerIndex playerID with
  | error err =>
      rw [submitInput_of_error input h]
      exact .inl rfl
  | ok index =>
      rw [submitInput_of_ok input h]
      exact .inr ⟨index, rfl, rfl⟩

/-- Each seat after `SubmitInput` is itself or its `Seat.submitInput`. -/
theorem seat_submitInput (r : Room) (playerID : String) (input : Input) (i : Side) :
    (r.submitInput playerID input).1.seats.get i = r.seats.get i ∨
    (r.submitInput playerID input).1.seats.get i = (r.seats.get i).submitInput input := by
  rcases submitInput_cases r playerID input with h | ⟨index, -, h⟩
  · rw [h]
    exact .inl rfl
  · rw [h]
    by_cases hi : i = index
    · subst i
      exact .inr (Pair.get_set_self _ _ _)
    · exact .inl (Pair.get_set_of_ne _ _ hi)

@[simp] theorem submitInput_rules (r : Room) (playerID : String) (input : Input) :
    (r.submitInput playerID input).1.rules = r.rules := by
  rcases submitInput_cases r playerID input with h | ⟨index, -, h⟩ <;> rw [h]

@[simp] theorem submitInput_tick (r : Room) (playerID : String) (input : Input) :
    (r.submitInput playerID input).1.tick = r.tick := by
  rcases submitInput_cases r playerID input with h | ⟨index, -, h⟩ <;> rw [h]

@[simp] theorem submitInput_status (r : Room) (playerID : String) (input : Input) :
    (r.submitInput playerID input).1.status = r.status := by
  rcases submitInput_cases r playerID input with h | ⟨index, -, h⟩ <;> rw [h]

@[simp] theorem submitInput_snapshot (r : Room) (playerID : String) (input : Input) :
    (r.submitInput playerID input).1.snapshot = r.snapshot := by
  rcases submitInput_cases r playerID input with h | ⟨index, -, h⟩
  · rw [h]
  · have hplayers : (r.seats.set index ((r.seats.get index).submitInput input)).map Seat.player =
        r.seats.map Seat.player := by
      apply Pair.ext_get
      intro i
      rw [Pair.get_map, Pair.get_map, Pair.get_set]
      split_ifs with hi
      · subst i
        exact Seat.submitInput_player _ input
      · rfl
    rw [h]
    simp only [snapshot, hplayers]

/-! ### `Step` -/

/-- The damage a step deals to the player at an index, decided when both seats have gone through
their phases and before either hit is applied. -/
def stepDamage (r : Room) (target : Side) : Int32 :=
  if Seat.hits r.rules ((r.seats.get target.other).toHits r.rules (r.tick + 1))
      ((r.seats.get target).toHits r.rules (r.tick + 1)) then
    r.rules.lightAttack.damage
  else 0

def stepSeat (r : Room) (i : Side) : Seat :=
  ((r.seats.get i).toHits r.rules (r.tick + 1)).applyDamage (r.tick + 1) (r.stepDamage i)

/-- The room after the phases of an active step, before its end is decided. -/
def struck (r : Room) : Room :=
  { r with
    tick := r.tick + 1
    activeTicks := r.activeTicks + 1
    seats := Pair.ofFn r.stepSeat }

theorem stepActive_eq (r : Room) :
    ({ r with tick := r.tick + 1 } : Room).stepActive = r.struck.finish := by
  have hseats : (Pair.ofFn fun i => ((r.seats.map (Seat.toHits r.rules (r.tick + 1))).get i).applyDamage
      (r.tick + 1) (({ r with
        tick := r.tick + 1
        activeTicks := r.activeTicks + 1
        seats := r.seats.map (Seat.toHits r.rules (r.tick + 1)) } : Room).damage i)) =
      Pair.ofFn r.stepSeat := by
    apply Pair.ext_get
    intro i
    simp only [Pair.get_ofFn, Pair.get_map, damage, stepSeat, stepDamage]
  rw [stepActive]
  apply congrArg finish
  exact congrArg (fun seats => ({ r with
    tick := r.tick + 1, activeTicks := r.activeTicks + 1, seats } : Room)) hseats

theorem step_of_finished {r : Room} (h : r.status = .finished) : r.step = r := by
  rw [step, if_pos h]

theorem step_of_countdown {r : Room} (h : r.status = .countdown) :
    r.step = ({ r with tick := r.tick + 1 } : Room).stepCountdown := by
  rw [step, if_neg (by rw [h]; decide)]
  exact if_pos h

theorem step_of_active {r : Room} (hf : r.status ≠ .finished) (hc : r.status ≠ .countdown) :
    r.step = r.struck.finish := by
  rw [step, if_neg hf, ← stepActive_eq]
  exact if_neg hc

theorem step_of_counting {r : Room} (h : r.status = .countdown)
    (ht : r.tick + 1 < r.rules.countdownTicks) : r.step = { r with
      tick := r.tick + 1
      seats := r.seats.map Seat.acknowledgeRejectedActions } := by
  rw [step_of_countdown h]
  exact if_neg (UInt32.not_le.2 ht)

theorem step_of_activating {r : Room} (h : r.status = .countdown)
    (ht : r.rules.countdownTicks ≤ r.tick + 1) : r.step = { r with
      tick := r.tick + 1
      status := .active
      seats := r.seats.map fun s => s.acknowledgeRejectedActions.activate (r.tick + 1) } := by
  rw [step_of_countdown h]
  exact if_pos ht

/-! ### The end of an active step -/

def BothAlive (r : Room) : Prop := ∀ i, 0 < (r.seats.get i).player.hp

theorem bothAlive_iff (r : Room) :
    r.BothAlive ↔ r.seats.a.player.hp > 0 ∧ r.seats.b.player.hp > 0 := by
  refine ⟨fun h => ⟨h .a, h .b⟩, fun h i => ?_⟩
  cases i
  · exact h.1
  · exact h.2

/-- The winner `finishFromKO` names. -/
def koWinner (r : Room) : String :=
  if r.seats.a.player.hp > 0 then r.seats.a.player.id
  else if r.seats.b.player.hp > 0 then r.seats.b.player.id
  else r.winnerID

/-- The winner `finishFromTimeLimit` names. -/
def timeLimitWinner (r : Room) : String :=
  if r.seats.a.player.hp > r.seats.b.player.hp then r.seats.a.player.id
  else if r.seats.b.player.hp > r.seats.a.player.hp then r.seats.b.player.id
  else r.winnerID

theorem finish_of_ko {r : Room} (h : ¬ r.BothAlive) : r.finish = { r with
    status := .finished, finishReason := .ko, winnerID := r.koWinner } := by
  rw [bothAlive_iff] at h
  have hko : r.finishFromKO = { r with
      status := .finished, finishReason := .ko, winnerID := r.koWinner } := if_neg h
  rw [finish, hko]
  exact if_neg fun hfinished => hfinished.1 rfl

theorem finish_of_timeLimit {r : Room} (h : r.BothAlive) (hstatus : r.status ≠ .finished)
    (hticks : r.rules.matchDurationTicks ≤ r.activeTicks) : r.finish = { r with
    status := .finished, finishReason := .timeLimit, winnerID := r.timeLimitWinner } := by
  rw [bothAlive_iff] at h
  have hko : r.finishFromKO = r := if_pos h
  rw [finish, hko]
  exact if_pos ⟨hstatus, hticks⟩

theorem finish_of_ongoing {r : Room} (h : r.BothAlive)
    (hticks : r.activeTicks < r.rules.matchDurationTicks) : r.finish = r := by
  rw [bothAlive_iff] at h
  have hko : r.finishFromKO = r := if_pos h
  rw [finish, hko]
  exact if_neg fun hfinished => UInt32.not_le.2 hticks hfinished.2

/-- Ending a match writes the status, the winner and the reason, and nothing else. -/
theorem finish_eq (r : Room) : ∃ status winnerID finishReason,
    r.finish = { r with status, winnerID, finishReason } := by
  by_cases h : r.BothAlive
  · by_cases hticks : r.activeTicks < r.rules.matchDurationTicks
    · exact ⟨_, _, _, finish_of_ongoing h hticks⟩
    · by_cases hstatus : r.status = .finished
      · have hko : r.finishFromKO = r := if_pos ((bothAlive_iff r).1 h)
        refine ⟨r.status, r.winnerID, r.finishReason, ?_⟩
        rw [finish, hko]
        exact if_neg fun hfinished => hfinished.1 hstatus
      · exact ⟨_, _, _, finish_of_timeLimit h hstatus (UInt32.not_lt.1 hticks)⟩
  · exact ⟨_, _, _, finish_of_ko h⟩

@[simp] theorem finish_seats (r : Room) : r.finish.seats = r.seats := by
  obtain ⟨_, _, _, h⟩ := finish_eq r
  rw [h]

@[simp] theorem finish_tick (r : Room) : r.finish.tick = r.tick := by
  obtain ⟨_, _, _, h⟩ := finish_eq r
  rw [h]

@[simp] theorem finish_rules (r : Room) : r.finish.rules = r.rules := by
  obtain ⟨_, _, _, h⟩ := finish_eq r
  rw [h]

/-! ### What a step does to one seat -/

/-- A step leaves a seat alone, rejects its commands, opens its active phase, or puts it through the
phases of an active tick and the damage dealt to it. -/
theorem seat_step (r : Room) (i : Side) :
    (r.status = .finished ∧ r.step.seats.get i = r.seats.get i) ∨
    (r.status = .countdown ∧ r.step.seats.get i = (r.seats.get i).acknowledgeRejectedActions) ∨
    (r.status = .countdown ∧ r.step.seats.get i =
      (r.seats.get i).acknowledgeRejectedActions.activate (r.tick + 1)) ∨
    (r.status ≠ .finished ∧ r.status ≠ .countdown ∧ r.step.seats.get i = r.stepSeat i) := by
  by_cases hf : r.status = .finished
  · exact .inl ⟨hf, by rw [step_of_finished hf]⟩
  by_cases hc : r.status = .countdown
  · by_cases ht : r.tick + 1 < r.rules.countdownTicks
    · refine .inr (.inl ⟨hc, ?_⟩)
      rw [step_of_counting hc ht, Pair.get_map]
    · refine .inr (.inr (.inl ⟨hc, ?_⟩))
      rw [step_of_activating hc (UInt32.not_lt.1 ht), Pair.get_map]
  · refine .inr (.inr (.inr ⟨hf, hc, ?_⟩))
    rw [step_of_active hf hc, finish_seats, struck, Pair.get_ofFn]

theorem step_seat_of_active {r : Room} (h : r.status = .active) (i : Side) :
    r.step.seats.get i = r.stepSeat i := by
  rw [step_of_active (by rw [h]; decide) (by rw [h]; decide), finish_seats, struck, Pair.get_ofFn]

theorem submitInput_id (r : Room) (playerID : String) (input : Input) (i : Side) :
    ((r.submitInput playerID input).1.seats.get i).player.id = (r.seats.get i).player.id := by
  rcases r.seat_submitInput playerID input i with h | h <;> rw [h]
  rw [Seat.submitInput_player]

@[simp] theorem step_rules (r : Room) : r.step.rules = r.rules := by
  by_cases hf : r.status = .finished
  · rw [step_of_finished hf]
  by_cases hc : r.status = .countdown
  · by_cases ht : r.tick + 1 < r.rules.countdownTicks
    · rw [step_of_counting hc ht]
    · rw [step_of_activating hc (UInt32.not_lt.1 ht)]
  · rw [step_of_active hf hc, finish_rules, struck]

@[simp] theorem run_rules (r : Room) (events : List Event) : (r.run events).rules = r.rules :=
  run_induction (P := fun room => room.rules = r.rules)
    (fun _ _ _ h => by rw [submitInput_rules, h]) (fun _ h => by rw [step_rules, h]) rfl events

end Room

/-! ### The room at a step -/

/-- The calls before step `u`, counting steps from zero; all calls when there is no such step. -/
def callsBefore : List Event → Nat → List Event
  | [], _ => []
  | .submitInput playerID input :: events, u =>
      .submitInput playerID input :: callsBefore events u
  | .step :: _, 0 => []
  | .step :: events, u + 1 => .step :: callsBefore events u

theorem stepCount_callsBefore {events : List Event} {u : Nat} (h : u ≤ stepCount events) :
    stepCount (callsBefore events u) = u := by
  induction events generalizing u with
  | nil => exact (Nat.le_zero.1 h).symm
  | cons event events ih =>
      cases event with
      | submitInput playerID input => exact ih h
      | step =>
          cases u with
          | zero => rfl
          | succ u =>
              rw [stepCount_cons_step] at h
              rw [callsBefore, stepCount_cons_step, ih (Nat.le_of_succ_le_succ h)]

theorem callsBefore_of_le {events : List Event} {u : Nat} (h : stepCount events ≤ u) :
    callsBefore events u = events := by
  induction events generalizing u with
  | nil => rfl
  | cons event events ih =>
      cases event with
      | submitInput playerID input => exact congrArg _ (ih h)
      | step =>
          rw [stepCount_cons_step] at h
          obtain ⟨v, rfl⟩ : ∃ v, u = v + 1 := ⟨u - 1, by omega⟩
          exact congrArg _ (ih (Nat.le_of_succ_le_succ h))

theorem callsBefore_zero (events : List Event) : ∀ event ∈ callsBefore events 0, event ≠ .step := by
  induction events with
  | nil => simp [callsBefore]
  | cons event events ih =>
      cases event with
      | submitInput playerID input => simpa [callsBefore] using ih
      | step => simp [callsBefore]

theorem callsBefore_succ {events : List Event} {u : Nat} (h : u < stepCount events) :
    ∃ inputs, (∀ event ∈ inputs, event ≠ .step) ∧
      callsBefore events (u + 1) = callsBefore events u ++ .step :: inputs := by
  induction events generalizing u with
  | nil => exact absurd h (Nat.not_lt_zero u)
  | cons event events ih =>
      cases event with
      | submitInput playerID input =>
          obtain ⟨inputs, hinputs, heq⟩ := ih h
          exact ⟨inputs, hinputs, congrArg _ heq⟩
      | step =>
          rw [stepCount_cons_step] at h
          cases u with
          | zero => exact ⟨callsBefore events 0, callsBefore_zero events, rfl⟩
          | succ u =>
              obtain ⟨inputs, hinputs, heq⟩ := ih (Nat.lt_of_succ_lt_succ h)
              exact ⟨inputs, hinputs, congrArg _ heq⟩

namespace Room

/-- The room as step `u` finds it. -/
def atStep (r : Room) (events : List Event) (u : Nat) : Room := r.run (callsBefore events u)

@[simp] theorem atStep_rules (r : Room) (events : List Event) (u : Nat) :
    (r.atStep events u).rules = r.rules := run_rules r _

theorem run_inputs_snapshot (r : Room) {inputs : List Event} (h : ∀ event ∈ inputs, event ≠ .step) :
    (r.run inputs).snapshot = r.snapshot := by
  induction inputs generalizing r with
  | nil => rfl
  | cons event inputs ih =>
      rw [List.forall_mem_cons] at h
      rw [run_cons, ih _ h.2]
      cases event with
      | submitInput playerID input => exact submitInput_snapshot r playerID input
      | step => exact absurd rfl h.1

theorem atStep_zero_snapshot (r : Room) (events : List Event) :
    (r.atStep events 0).snapshot = r.snapshot :=
  run_inputs_snapshot r (callsBefore_zero events)

theorem atStep_succ_snapshot (r : Room) {events : List Event} {u : Nat}
    (h : u < stepCount events) :
    (r.atStep events (u + 1)).snapshot = (r.atStep events u).step.snapshot := by
  obtain ⟨inputs, hinputs, heq⟩ := callsBefore_succ h
  rw [atStep, heq, run_append, run_cons]
  exact run_inputs_snapshot _ hinputs

theorem player_of_snapshot_eq {r r' : Room} (h : r.snapshot = r'.snapshot) (i : Side) :
    (r.seats.get i).player = (r'.seats.get i).player := by
  have hplayers : r.seats.map Seat.player = r'.seats.map Seat.player :=
    congrArg Snapshot.players h
  rw [← Pair.get_map Seat.player, ← Pair.get_map Seat.player, hplayers]

end Room

end PvpDuel.Simulation
