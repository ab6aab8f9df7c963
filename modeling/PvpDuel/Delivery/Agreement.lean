import PvpDuel.Delivery.Adoption
import PvpDuel.Delivery.Reconciliation
import PvpDuel.Room.Lifecycle

/-!
# The client moves as the room does

The movement of a player is written twice, in the room and in the prediction, with their own constants
and their own ways to clamp. The two agree on every axis and every position, so a player who is only
walking is, after every active step, where the prediction has him with the same inputs.
-/

namespace PvpDuel.Delivery

open Client (PendingInput PredictedPosition Prediction)
open Gamev1 (PlayerInput)
open Simulation (Event Room Seat)

/-! ### One movement -/

/-- `std::clamp` and the room's minimum of a maximum are the same between bounds in order. -/
theorem clamp_eq {minimum maximum : Int32} (h : minimum ≤ maximum) (position : Int32) :
    Client.clamp position minimum maximum = Simulation.clampPosition position minimum maximum := by
  have hle := Int32.le_iff_toInt_le.1 h
  unfold Client.clamp Simulation.clampPosition
  apply Int32.toInt_inj.1
  rw [FixedWidth.int32_toInt_min, FixedWidth.int32_toInt_max]
  split_ifs with hlo hhi
  · rw [Int32.lt_iff_toInt_lt] at hlo
    omega
  · rw [Int32.lt_iff_toInt_lt] at hlo hhi
    omega
  · rw [Int32.lt_iff_toInt_lt] at hlo hhi
    omega

/-- Both sides clamp an axis to the same value, and the room leaves it there. -/
theorem clampAxis_eq (axis : Int32) :
    Client.clampAxis axis = Simulation.clampAxis (MatchServer.clampProtoAxis axis) := by
  rw [(clampProtoAxis_isAxis axis).clampAxis_eq]
  unfold Client.clampAxis Client.clamp MatchServer.clampProtoAxis
  split_ifs
  · rfl
  · rfl
  · rfl

/-- Where a player of the room is. -/
def positionOf (player : Simulation.PlayerState) : PredictedPosition :=
  ⟨player.positionX, player.positionY⟩

theorem positionOf_move (player : Simulation.PlayerState) (input : Simulation.Input) :
    positionOf (player.move Simulation.defaultRuleset input) =
      Client.applyMovement (positionOf player) input.moveX input.moveY := by
  have hx : Client.arenaMinX ≤ Client.arenaMaxX := by decide
  have hy : Client.arenaMinY ≤ Client.arenaMaxY := by decide
  rw [Client.applyMovement, clamp_eq hx, clamp_eq hy]
  rfl

/-! ### A player who only walks -/

/-- The player stands or walks at a position, unhurt and without commands. -/
structure OnFoot (s : Seat) (position : PredictedPosition) : Prop where
  position : positionOf s.player = position
  unhurt : s.player.hp = Simulation.initialHP
  walking : s.player.inLocomotion = true
  pending : s.pendingActions = []

/-- Besides, the room has adopted his inputs up to a tick and acknowledged them. -/
structure Walks (s : Seat) (tick : Nat) (position : PredictedPosition) : Prop
    extends OnFoot s position where
  held : s.input.tick.toNat = tick
  accepted : s.lastInputTick.toNat = tick
  acknowledged : s.player.lastAckedInputTick.toNat = tick

def walkInput (tick : Nat) (moveX moveY : Int32) : PlayerInput where
  tick := UInt32.ofNat tick
  moveX := moveX
  moveY := moveY
  pendingActions := []

section

variable {s : Seat} {tick : Nat} {position : PredictedPosition}

theorem Walks.submitInput (h : Walks s tick position) (htick : tick + 121 < 2 ^ 32)
    (moveX moveY : Int32) :
    s.submitInput (MatchServer.inputFromProto (walkInput (tick + 1) moveX moveY)) = { s with
      input := ⟨UInt32.ofNat (tick + 1), Client.clampAxis moveX, Client.clampAxis moveY, []⟩
      lastInputTick := UInt32.ofNat (tick + 1) } := by
  have hx := clampProtoAxis_isAxis moveX
  have hy := clampProtoAxis_isAxis moveY
  have hnew : (UInt32.ofNat (tick + 1)).toNat = tick + 1 := by
    rw [UInt32.toNat_ofNat']
    exact Nat.mod_eq_of_lt (by omega)
  have haccepted := h.accepted
  have hnewer : s.lastInputTick < UInt32.ofNat (tick + 1) := by
    rw [UInt32.lt_iff_toNat_lt, hnew]
    omega
  have hrange : UInt32.ofNat (tick + 1) ≤ s.lastInputTick + Simulation.maxInputTickAdvance := by
    have hadvance : Simulation.maxInputTickAdvance.toNat = 120 := by decide
    have hsum : (s.lastInputTick + Simulation.maxInputTickAdvance).toNat = tick + 120 := by
      rw [UInt32.toNat_add, haccepted, hadvance]
      exact Nat.mod_eq_of_lt (by omega)
    rw [UInt32.le_iff_toNat_le, hnew, hsum]
    omega
  rw [submitInput_of_newer hnewer hrange, holdInput_newer hx hy hnewer, clampAxis_eq, clampAxis_eq,
    hx.clampAxis_eq, hy.clampAxis_eq]
  change ({ s with
    input := _, lastInputTick := _, pendingActions := s.pendingActions } : Seat) = _
  rfl

theorem OnFoot.toHits (h : OnFoot s position) (now : UInt32) :
    let moved := (s.toHits Simulation.defaultRuleset now).player
    positionOf moved = Client.applyMovement position s.input.moveX s.input.moveY ∧
      moved.inLocomotion = true := by
  have hbusy : ¬ (s.player.hp ≤ 0 ∨ s.player.actionState = .dash ∨ s.player.actionState = .hit ∨
      s.player.actionState = .ko) := by
    have hwalking := h.walking
    unfold Simulation.PlayerState.inLocomotion at hwalking
    rw [h.unhurt]
    rintro (hhp | hstate | hstate | hstate)
    · exact absurd hhp (by decide)
    · rw [hstate] at hwalking
      cases hwalking
    · rw [hstate] at hwalking
      cases hwalking
    · rw [hstate] at hwalking
      cases hwalking
  have hadvance : s.player.advanceActionState Simulation.defaultRuleset s.input = s.player :=
    if_pos (.inr h.walking)
  have hmoved : (s.toHits Simulation.defaultRuleset now).player =
      ((({ s.player with lastAckedInputTick := s.input.tick } : Simulation.PlayerState).updateFacing
        s.input).move Simulation.defaultRuleset s.input).setLocomotionState s.input := by
    have hprocess : ∀ t : Seat, t.pendingActions = [] →
        (t.processActions Simulation.defaultRuleset now).player = t.player := by
      intro t hnone
      rw [Seat.processActions, hnone]
      rfl
    refine (hprocess ((s.advanceActionState _).applyMovement _) h.pending).trans ?_
    change (s.player.advanceActionState Simulation.defaultRuleset s.input).applyMovement
      Simulation.defaultRuleset s.input = _
    rw [hadvance]
    unfold Simulation.PlayerState.applyMovement
    dsimp only
    rw [if_neg hbusy]
    exact if_pos h.walking
  obtain ⟨facingX, facingY, hfacing⟩ := Simulation.PlayerState.updateFacing_eq s.input
    { s.player with lastAckedInputTick := s.input.tick }
  dsimp only
  rw [hmoved, hfacing]
  refine ⟨?_, ?_⟩
  · rw [← h.position]
    exact positionOf_move s.player s.input
  · exact Simulation.PlayerState.setLocomotionState_inLocomotion _ _

theorem Walks.acknowledgeRejectedActions (h : Walks s tick position) :
    s.acknowledgeRejectedActions = s := by
  rw [Seat.acknowledgeRejectedActions, h.pending, List.foldl_nil]
  exact congrArg (fun pending => ({ s with pendingActions := pending } : Seat)) h.pending.symm

theorem Walks.activate (h : Walks s tick position) (now : UInt32) :
    Walks (s.activate now) tick position where
  toOnFoot := ⟨h.position, h.unhurt, h.walking, h.pending⟩
  held := h.held
  accepted := h.accepted
  acknowledged := h.acknowledged

end

/-! ### A turn of the room -/

/-- The inputs the loop admits between two steps: one of the player, and any of others. -/
structure Turn where
  before : List Event
  moveX : Int32
  moveY : Int32
  after : List Event
deriving DecidableEq, Repr

/-- The calls of the turn with a tick, up to its step. -/
def Turn.events (playerID : String) (turn : Turn) (tick : Nat) : List Event :=
  turn.before ++ .submitInput playerID (MatchServer.inputFromProto
    (walkInput tick turn.moveX turn.moveY)) :: turn.after ++ [.step]

def played (playerID : String) (turns : List Turn) : List Event :=
  (turns.zipIdx 1).flatMap fun turn => turn.1.events playerID turn.2

/-- Inputs of other players. -/
def Foreign (playerID : String) (events : List Event) : Prop :=
  ∀ event ∈ events, ∃ other input, other ≠ playerID ∧ event = .submitInput other input

theorem played_concat (playerID : String) (turns : List Turn) (turn : Turn) :
    played playerID (turns ++ [turn]) =
      played playerID turns ++ turn.events playerID (turns.length + 1) := by
  rw [played, List.zipIdx_append, List.flatMap_append, Nat.add_comm 1]
  exact congrArg _ (List.append_nil _)

theorem Foreign.run {playerID : String} {events : List Event} (h : Foreign playerID events)
    {r : Room} {i : Side} (hid : (r.seats.get i).player.id = playerID) :
    (r.run events).seats.get i = r.seats.get i ∧ (r.run events).snapshot = r.snapshot := by
  induction events generalizing r with
  | nil => exact ⟨rfl, rfl⟩
  | cons event events ih =>
      obtain ⟨hevent, hevents⟩ := List.forall_mem_cons.1 h
      obtain ⟨other, input, hne, rfl⟩ := hevent
      have hseat : (r.submitInput other input).1.seats.get i = r.seats.get i :=
        Room.submitInput_of_ne input (by rw [hid]; exact hne.symm)
      obtain ⟨hrest, hsnapshot⟩ := ih hevents (r := (r.submitInput other input).1) (by rw [hseat, hid])
      refine ⟨hrest.trans hseat, hsnapshot.trans ?_⟩
      exact Room.submitInput_snapshot r other input

theorem OnFoot.stepSeat {r : Room} {i : Side} {position : PredictedPosition}
    (h : OnFoot (r.seats.get i) position) (hrules : r.rules = Simulation.defaultRuleset)
    (hunhurt : (r.stepSeat i).player.hp = Simulation.initialHP) :
    OnFoot (r.stepSeat i) (Client.applyMovement position (r.seats.get i).input.moveX
      (r.seats.get i).input.moveY) := by
  have haccepted : r.rules.Accepted := hrules ▸ Simulation.defaultRuleset_accepted
  have hpositive : 0 ≤ Simulation.initialHP.toInt := by decide
  have hdamage : r.stepDamage i = 0 := by
    have hhp := Room.stepSeat_hp haccepted (i := i) (by rw [h.unhurt]; exact hpositive)
    have hnonneg := Room.stepDamage_nonneg haccepted i
    rw [hunhurt, h.unhurt] at hhp
    apply Int32.toInt_inj.1
    change (r.stepDamage i).toInt = 0
    have hinitial : Simulation.initialHP.toInt = 100 := by decide
    omega
  have hmissed : r.stepSeat i = (r.seats.get i).toHits r.rules (r.tick + 1) := by
    rw [Room.stepSeat, hdamage]
    rfl
  obtain ⟨hposition, hwalking⟩ := h.toHits (r.tick + 1)
  rw [← hrules, ← hmissed] at hposition hwalking
  exact ⟨hposition, hunhurt, hwalking, (r.stepSeat_fields i).2.2.2.2.2⟩

theorem Turn.run_events (playerID : String) (turn : Turn) (tick : Nat) (r : Room) :
    r.run (turn.events playerID tick) = (((r.run turn.before).submitInput playerID
      (MatchServer.inputFromProto (walkInput tick turn.moveX turn.moveY))).1.run turn.after).step := by
  rw [Turn.events, Room.run_concat, Room.run_append]
  rfl

/-- In a turn that does not hurt him he moves by his input, and the room acknowledges it. -/
theorem Walks.turn {r : Room} {i : Side} {tick : Nat} {position : PredictedPosition}
    (h : Walks (r.seats.get i) tick position) (hrules : r.rules = Simulation.defaultRuleset)
    (hne : r.seats.a.player.id ≠ r.seats.b.player.id) {playerID : String}
    (hid : (r.seats.get i).player.id = playerID) (hactive : r.status = .active)
    (htick : tick + 121 < 2 ^ 32) {turn : Turn} (hbefore : Foreign playerID turn.before)
    (hafter : Foreign playerID turn.after) (hunhurt :
      ((r.run (turn.events playerID (tick + 1))).seats.get i).player.hp = Simulation.initialHP) :
    Walks ((r.run (turn.events playerID (tick + 1))).seats.get i) (tick + 1)
      (Client.applyMovement position (Client.clampAxis turn.moveX) (Client.clampAxis turn.moveY)) := by
  have hnew : (UInt32.ofNat (tick + 1)).toNat = tick + 1 := by
    rw [UInt32.toNat_ofNat']
    exact Nat.mod_eq_of_lt (by omega)
  set input := MatchServer.inputFromProto (walkInput (tick + 1) turn.moveX turn.moveY)
  set r₁ := r.run turn.before with hr₁
  set r₂ := (r₁.submitInput playerID input).1 with hr₂
  set r₃ := r₂.run turn.after with hr₃
  have hseat₁ : r₁.seats.get i = r.seats.get i := (hbefore.run hid).1
  have hindex : r₁.playerIndex playerID = .ok i := by
    have hids : ∀ side, (r₁.seats.get side).player.id = (r.seats.get side).player.id :=
      Room.run_id r turn.before
    have ha : r₁.seats.a.player.id = r.seats.a.player.id := hids .a
    have hb : r₁.seats.b.player.id = r.seats.b.player.id := hids .b
    exact Room.playerIndex_of_id (by rw [ha, hb]; exact hne) (by rw [hids, hid])
  have hseat₂ : r₂.seats.get i = { r.seats.get i with
      input := ⟨UInt32.ofNat (tick + 1), Client.clampAxis turn.moveX, Client.clampAxis turn.moveY, []⟩
      lastInputTick := UInt32.ofNat (tick + 1) } := by
    rw [hr₂, Room.submitInput_of_ok input hindex, Pair.get_set_self, hseat₁]
    exact h.submitInput htick turn.moveX turn.moveY
  have hid₂ : (r₂.seats.get i).player.id = playerID := by
    rw [hseat₂]
    exact hid
  have hseat₃ : r₃.seats.get i = r₂.seats.get i := (hafter.run hid₂).1
  have hrules₃ : r₃.rules = Simulation.defaultRuleset := by
    rw [hr₃, Room.run_rules, hr₂, Room.submitInput_rules, hr₁, Room.run_rules, hrules]
  have hactive₃ : r₃.status = .active := by
    have h₃ : r₃.status = r₂.status := congrArg Simulation.Snapshot.status (hafter.run hid₂).2
    have h₁ : r₁.status = r.status := congrArg Simulation.Snapshot.status (hbefore.run hid).2
    rw [h₃, hr₂, Room.submitInput_status, h₁, hactive]
  have hfoot : OnFoot (r₃.seats.get i) position := by
    rw [hseat₃, hseat₂]
    exact ⟨h.position, h.unhurt, h.walking, h.pending⟩
  rw [Turn.run_events] at hunhurt ⊢
  change (r₃.step.seats.get i).player.hp = _ at hunhurt
  change Walks (r₃.step.seats.get i) _ _
  rw [Room.step_seat_of_active hactive₃] at hunhurt ⊢
  have hmoved := hfoot.stepSeat hrules₃ hunhurt
  obtain ⟨-, hacked, -, hheld, hlast, -⟩ := r₃.stepSeat_fields i
  rw [hseat₃, hseat₂] at hmoved hacked hheld hlast
  refine ⟨hmoved, ?_, ?_, ?_⟩
  · rw [hheld]
    exact hnew
  · rw [hlast]
    exact hnew
  · rw [hacked]
    exact hnew

theorem Walks.opening {r : Room} {i : Side} {position : PredictedPosition} {n : Nat}
    (h : Walks (r.seats.get i) 0 position) (hlife : r.Lifecycle n) {events : List Event}
    (hforeign : ∀ event ∈ events, ∀ input,
      event ≠ .submitInput (r.seats.get i).player.id input)
    (hsteps : n + Simulation.stepCount events ≤ r.rules.countdownTicks.toNat) :
    Walks ((r.run events).seats.get i) 0 position := by
  induction events generalizing r n with
  | nil => exact h
  | cons event events ih =>
      obtain ⟨hevent, hevents⟩ := List.forall_mem_cons.1 hforeign
      cases event with
      | submitInput playerID input =>
          have hseat : (r.apply (.submitInput playerID input)).seats.get i = r.seats.get i :=
            Room.submitInput_of_ne input fun heq => hevent input (by rw [heq])
          have hrules : (r.apply (.submitInput playerID input)).rules = r.rules :=
            Room.submitInput_rules r playerID input
          refine ih (by rw [hseat]; exact h) (hlife.submitInput playerID input) ?_ ?_
          · rw [hseat]
            exact hevents
          · rw [hrules]
            exact hsteps
      | step =>
          rw [Simulation.stepCount_cons_step] at hsteps
          have hcountdown : r.status = .countdown := (hlife.snapshot_countdown (by omega)).1
          have hseat : Walks (r.step.seats.get i) 0 position := by
            rcases r.seat_step i with ⟨hf, -⟩ | ⟨-, hs⟩ | ⟨-, hs⟩ | ⟨-, hc, -⟩
            · rw [hcountdown] at hf
              cases hf
            · rw [hs, h.acknowledgeRejectedActions]
              exact h
            · rw [hs, h.acknowledgeRejectedActions]
              exact h.activate _
            · exact absurd hcountdown hc
          refine ih hseat hlife.step ?_ ?_
          · change ∀ event ∈ events, ∀ input, event ≠ .submitInput (r.step.seats.get i).player.id input
            rw [Room.step_id]
            exact hevents
          · change _ ≤ r.step.rules.countdownTicks.toNat
            rw [Room.step_rules]
            omega

theorem initialRoom_walks (playerA playerB : String) (i : Side) :
    let r := Simulation.initialRoom playerA playerB Simulation.defaultRuleset
    Walks (r.seats.get i) 0 (positionOf (r.seats.get i).player) := by
  cases i with
  | a => exact ⟨⟨rfl, rfl, rfl, rfl⟩, rfl, rfl, rfl⟩
  | b => exact ⟨⟨rfl, rfl, rfl, rfl⟩, rfl, rfl, rfl⟩

/-! ### The prediction -/

/-- The inputs of the turns as the prediction keeps them. -/
def inputLog (turns : List Turn) (first : Nat) : List PendingInput :=
  (turns.zipIdx first).map fun turn =>
    ⟨UInt32.ofNat turn.2, Client.clampAxis turn.1.moveX, Client.clampAxis turn.1.moveY⟩

/-- A prediction reconciled with an entry that applied the inputs of the turns. -/
def predictionOf (spawn : Gamev1.PlayerState) (turns : List Turn) : Prediction :=
  (turns.zipIdx 1).foldl (fun p turn => p.applyInput (UInt32.ofNat turn.2) turn.1.moveX turn.1.moveY)
    (Prediction.initial.reconcile spawn)

theorem inputLog_append (earlier later : List Turn) (first : Nat) :
    inputLog (earlier ++ later) first =
      inputLog earlier first ++ inputLog later (first + earlier.length) := by
  rw [inputLog, List.zipIdx_append, List.map_append, Nat.add_comm first]
  rfl

theorem inputLog_ticks {turns : List Turn} {first : Nat} (h : first + turns.length ≤ 2 ^ 32) :
    ((inputLog turns first).map fun input => input.tick.toNat) =
      List.range' first turns.length := by
  rw [inputLog, List.map_map, ← List.zipIdx_map_snd first turns]
  refine List.map_congr_left fun turn hturn => ?_
  have hlt := List.snd_lt_add_of_mem_zipIdx hturn
  change (UInt32.ofNat turn.2).toNat = turn.2
  rw [UInt32.toNat_ofNat']
  exact Nat.mod_eq_of_lt (by omega)

theorem mem_inputLog {turns : List Turn} {first : Nat} (h : first + turns.length ≤ 2 ^ 32)
    {input : PendingInput} (hinput : input ∈ inputLog turns first) :
    first ≤ input.tick.toNat ∧ input.tick.toNat < first + turns.length := by
  have hmem := List.mem_map_of_mem (f := fun input : PendingInput => input.tick.toNat) hinput
  rw [inputLog_ticks h] at hmem
  exact List.mem_range'_1.1 hmem

theorem inputLog_sorted {turns : List Turn} {first : Nat} (h : first + turns.length ≤ 2 ^ 32) :
    Sorted (inputLog turns first) := by
  apply List.pairwise_map.1
  rw [inputLog_ticks h]
  exact List.pairwise_lt_range'

theorem predictionOf_predicts {spawn : Gamev1.PlayerState} (hspawn : spawn.lastAckedInputTick = 0)
    {turns : List Turn} (h : 1 + turns.length ≤ 2 ^ 32) :
    Predicts (inputLog turns 1) spawn (predictionOf spawn turns) := by
  induction turns using List.reverseRecOn with
  | nil => exact Predicts.of_empty rfl
  | append_singleton turns turn ih =>
      rw [List.length_append, List.length_singleton] at h
      have hnew : (UInt32.ofNat (1 + turns.length)).toNat = 1 + turns.length := by
        rw [UInt32.toNat_ofNat']
        exact Nat.mod_eq_of_lt (by omega)
      have hpredicted : predictionOf spawn (turns ++ [turn]) = (predictionOf spawn turns).applyInput
          (UInt32.ofNat (1 + turns.length)) turn.moveX turn.moveY := by
        rw [predictionOf, List.zipIdx_append, List.foldl_append]
        rfl
      rw [inputLog_append, hpredicted]
      refine (ih (by omega)).applyInput ?_ turn.moveX turn.moveY
      rw [hspawn, UInt32.lt_iff_toNat_lt, hnew]
      change 0 < _
      omega

/-- An entry that has the player where the first inputs lead, and acknowledges them, changes nothing. -/
theorem reconcile_predicted {spawn me : Gamev1.PlayerState}
    (hspawn : spawn.lastAckedInputTick = 0) {turns : List Turn} (h : 1 + turns.length ≤ 2 ^ 32)
    {k : Nat} (hk : k ≤ turns.length) (hacked : me.lastAckedInputTick.toNat = k)
    (hme : (⟨me.positionX, me.positionY⟩ : PredictedPosition) =
      (inputLog (turns.take k) 1).foldl movedBy ⟨spawn.positionX, spawn.positionY⟩) :
    (predictionOf spawn turns).predicted =
        (inputLog turns 1).foldl movedBy ⟨spawn.positionX, spawn.positionY⟩ ∧
      ((predictionOf spawn turns).reconcile me).predicted = (predictionOf spawn turns).predicted := by
  have hpredicts := predictionOf_predicts hspawn h
  have hreconciled : Predicts (inputLog turns 1) me ((predictionOf spawn turns).reconcile me) :=
    hpredicts.reconcile (inputLog_sorted h) (by rw [hspawn]; exact UInt32.zero_le)
  have hpredicted : (predictionOf spawn turns).predicted =
      (inputLog turns 1).foldl movedBy ⟨spawn.positionX, spawn.positionY⟩ := by
    have htracks : Predicts ([] ++ inputLog turns 1) spawn (predictionOf spawn turns) := hpredicts
    refine htracks.replayed (fun input hinput => absurd hinput List.not_mem_nil) ?_
    intro input hinput
    rw [hspawn]
    exact (mem_inputLog h hinput).1
  have hsplit : inputLog turns 1 =
      inputLog (turns.take k) 1 ++ inputLog (turns.drop k) (1 + k) := by
    have hlength : (turns.take k).length = k := List.length_take_of_le hk
    have happend := inputLog_append (turns.take k) (turns.drop k) 1
    rw [List.take_append_drop, hlength] at happend
    exact happend
  refine ⟨hpredicted, ?_⟩
  rw [hpredicted]
  rw [Predicts, hme, hsplit] at hreconciled
  rw [hsplit]
  refine hreconciled.replayed (fun input hinput => ?_) (fun input hinput => ?_)
  · have hle := (mem_inputLog (by rw [List.length_take_of_le hk]; omega) hinput).2
    rw [List.length_take_of_le hk] at hle
    omega
  · have hle := (mem_inputLog (by rw [List.length_drop]; omega) hinput).1
    omega

/-! ### The agreement -/

theorem stepCount_played {playerID : String} {turns : List Turn}
    (hforeign : ∀ turn ∈ turns, Foreign playerID turn.before ∧ Foreign playerID turn.after) :
    Simulation.stepCount (played playerID turns) = turns.length := by
  have hnone : ∀ events, Foreign playerID events → Simulation.stepCount events = 0 := by
    intro events hevents
    refine List.count_eq_zero_of_not_mem fun hstep => ?_
    obtain ⟨other, input, -, heq⟩ := hevents _ hstep
    cases heq
  induction turns using List.reverseRecOn with
  | nil => rfl
  | append_singleton turns turn ih =>
      obtain ⟨hturns, hturn⟩ := List.forall_mem_append.1 hforeign
      obtain ⟨hbefore, hafter⟩ := hturn turn (List.mem_singleton_self turn)
      have hcount := ih hturns
      have hzero := hnone _ hbefore
      have hzero' := hnone _ hafter
      unfold Simulation.stepCount at hcount hzero hzero' ⊢
      rw [played_concat, List.count_append, hcount, Turn.events, List.count_append,
        List.count_append, List.count_cons, hzero, hzero', List.length_append]
      rfl

/-- After the turns of a match that never hurt him, the player is where his inputs lead. -/
theorem walks_played {r : Room} {i : Side} {position : PredictedPosition} {n : Nat}
    (h : Walks (r.seats.get i) 0 position) (hlife : r.Lifecycle n)
    (hn : r.rules.countdownTicks.toNat = n) (hrules : r.rules = Simulation.defaultRuleset)
    (hne : r.seats.a.player.id ≠ r.seats.b.player.id) {playerID : String}
    (hid : (r.seats.get i).player.id = playerID) {turns : List Turn}
    (hforeign : ∀ turn ∈ turns, Foreign playerID turn.before ∧ Foreign playerID turn.after)
    (hactive : ∀ k < turns.length, (r.run (played playerID (turns.take k))).status = .active)
    (hunhurt : ∀ k ≤ turns.length,
      ((r.run (played playerID (turns.take k))).seats.get i).player.hp = Simulation.initialHP) :
    turns.length ≤ 2700 ∧ Walks ((r.run (played playerID turns)).seats.get i) turns.length
      ((inputLog turns 1).foldl movedBy position) := by
  induction turns using List.reverseRecOn with
  | nil => exact ⟨Nat.zero_le _, h⟩
  | append_singleton turns turn ih =>
      rw [List.length_append, List.length_singleton] at hactive hunhurt ⊢
      have hshorter : ∀ k ≤ turns.length, (turns ++ [turn]).take k = turns.take k := fun k hk =>
        List.take_append_of_le_length hk
      obtain ⟨hturns, hturn⟩ := List.forall_mem_append.1 hforeign
      obtain ⟨hbefore, hafter⟩ := hturn turn (List.mem_singleton_self turn)
      obtain ⟨hlength, hwalks⟩ := ih hturns
        (fun k hk => by rw [← hshorter k hk.le]; exact hactive k (by omega))
        (fun k hk => by rw [← hshorter k hk]; exact hunhurt k (by omega))
      have hlast := hactive turns.length (by omega)
      have hafterward := hunhurt (turns.length + 1) (Nat.le_refl _)
      rw [hshorter _ (Nat.le_refl _), List.take_length] at hlast
      rw [List.take_of_length_le (by rw [List.length_append]; rfl), played_concat,
        Room.run_append] at hafterward
      have hbound : turns.length + 1 ≤ 2700 := by
        have hduration : Simulation.defaultRuleset.matchDurationTicks.toNat = 2700 := by decide
        have hlate := ((hlife.run (played playerID turns)).active hlast)
        rw [stepCount_played hturns, Room.run_rules, hn, hrules, hduration] at hlate
        omega
      refine ⟨hbound, ?_⟩
      rw [played_concat, Room.run_append, inputLog_append, List.foldl_append]
      refine hwalks.turn ?_ (Room.run_distinct hne _) ((Room.run_id r _ i).trans hid) hlast (by omega)
        hbefore hafter hafterward
      rw [Room.run_rules, hrules]

/-- Prediction and room agree: after any inputs of a player who is never hurt, the snapshot after any
of the active steps leaves his prediction where it is, and that is where the room has him. -/
theorem prediction_agrees {playerA playerB : String} {r₀ : Room}
    (hnew : Simulation.new playerA playerB = .ok r₀) (i : Side) (opening : List Event)
    (turns : List Turn) :
    let playerID := (r₀.seats.get i).player.id
    let state : Nat → Room := fun k => (r₀.run opening).run (played playerID (turns.take k))
    Simulation.stepCount opening = Simulation.countdownTicks.toNat →
    (∀ event ∈ opening, ∀ input, event ≠ .submitInput playerID input) →
    (∀ turn ∈ turns, Foreign playerID turn.before ∧ Foreign playerID turn.after) →
    (∀ k < turns.length, (state k).status = .active) →
    (∀ k ≤ turns.length, ((state k).seats.get i).player.hp = Simulation.initialHP) →
    ∃ spawn, Entry playerID (MatchServer.snapshotToProto r₀.snapshot).players spawn ∧
      (predictionOf spawn turns).predicted = positionOf ((state turns.length).seats.get i).player ∧
      ∀ k ≤ turns.length, ∃ me,
        Entry playerID (MatchServer.snapshotToProto (state k).snapshot).players me ∧
        ((predictionOf spawn turns).reconcile me).predicted = (predictionOf spawn turns).predicted := by
  intro playerID state hopening hown hforeign hactive hunhurt
  obtain ⟨-, -, hne, -, rfl⟩ := Simulation.newWithRuleset_ok hnew
  set r₀ := Simulation.initialRoom playerA playerB Simulation.defaultRuleset with hr₀
  have hlife : r₀.Lifecycle 0 :=
    Room.initialRoom_lifecycle playerA playerB Simulation.defaultRuleset_accepted
  have hopened : Walks ((r₀.run opening).seats.get i) 0 (positionOf (r₀.seats.get i).player) := by
    refine (initialRoom_walks playerA playerB i).opening hlife hown ?_
    rw [hopening, Nat.zero_add]
    exact Nat.le_refl _
  have hids := r₀.run_id opening
  have hdistinct := Room.run_distinct (r := r₀) hne opening
  have hrules : (r₀.run opening).rules = Simulation.defaultRuleset := Room.run_rules r₀ opening
  have hlife₁ : (r₀.run opening).Lifecycle Simulation.countdownTicks.toNat := by
    have hlife₁ := hlife.run opening
    rw [hopening, Nat.zero_add] at hlife₁
    exact hlife₁
  have hwalked : ∀ k ≤ turns.length, k ≤ 2700 ∧ Walks ((state k).seats.get i) k
      ((inputLog (turns.take k) 1).foldl movedBy (positionOf (r₀.seats.get i).player)) := by
    intro k hk
    have hlength : (turns.take k).length = k := List.length_take_of_le hk
    have hshorter : ∀ j ≤ k, (turns.take k).take j = turns.take j := by
      intro j hj
      rw [List.take_take, Nat.min_eq_left hj]
    have hforeign' : ∀ turn ∈ turns.take k, Foreign playerID turn.before ∧
        Foreign playerID turn.after := fun turn hturn => hforeign turn (List.mem_of_mem_take hturn)
    have hturns := walks_played hopened hlife₁ (by rw [hrules]; rfl) hrules hdistinct (hids i)
      hforeign' (fun j hj => by rw [hlength] at hj; rw [hshorter j hj.le]; exact hactive j (by omega))
      (fun j hj => by rw [hlength] at hj; rw [hshorter j hj]; exact hunhurt j (by omega))
    rw [hlength] at hturns
    exact hturns
  have hentry : ∀ k, Entry playerID (MatchServer.snapshotToProto (state k).snapshot).players
      (MatchServer.playerToProto ((state k).seats.get i).player) := by
    intro k
    have hside : ((state k).seats.get i).player.id = playerID :=
      ((r₀.run opening).run_id (played playerID (turns.take k)) i).trans (hids i)
    rw [← hside]
    exact room_entry (Room.run_distinct hdistinct (played playerID (turns.take k))) i
  have hlength : 1 + turns.length ≤ 2 ^ 32 := by
    have hbound := (hwalked turns.length (Nat.le_refl _)).1
    omega
  have hspawn : (MatchServer.playerToProto (r₀.seats.get i).player).lastAckedInputTick = 0 := by
    cases i with
    | a => rfl
    | b => rfl
  set spawn := MatchServer.playerToProto (r₀.seats.get i).player
  have hagree : ∀ k ≤ turns.length, (predictionOf spawn turns).predicted =
        (inputLog turns 1).foldl movedBy ⟨spawn.positionX, spawn.positionY⟩ ∧
      ((predictionOf spawn turns).reconcile
        (MatchServer.playerToProto ((state k).seats.get i).player)).predicted =
          (predictionOf spawn turns).predicted := fun k hk =>
    reconcile_predicted hspawn hlength hk (hwalked k hk).2.acknowledged (hwalked k hk).2.position
  refine ⟨_, room_entry (r := r₀) hne i, ?_, fun k hk => ⟨_, hentry k, (hagree k hk).2⟩⟩
  have hlast := (hwalked turns.length (Nat.le_refl _)).2.position
  rw [List.take_length] at hlast
  exact (hagree turns.length (Nat.le_refl _)).1.trans hlast.symm

/-- A player who strolls from his spawn with axes out of range while the other one turns around. -/
def strollTurns : List Turn :=
  [⟨[.submitInput "bob" ⟨1, 1, 0, []⟩], -5, 1, []⟩,
    ⟨[], -2147483648, 0, [.submitInput "eve" ⟨1, 0, 0, []⟩]⟩]

theorem prediction_agrees_stroll :
    let r₀ := Simulation.initialRoom "alice" "bob" Simulation.defaultRuleset
    let opening := List.replicate 90 Event.step
    Simulation.new "alice" "bob" = .ok r₀ ∧
    ∃ spawn, Entry "alice" (MatchServer.snapshotToProto r₀.snapshot).players spawn ∧
      (predictionOf spawn strollTurns).predicted =
        positionOf (((r₀.run opening).run (played "alice" (strollTurns.take 2))).seats.get .a).player ∧
      ∀ k ≤ 2, ∃ me, Entry "alice" (MatchServer.snapshotToProto
          ((r₀.run opening).run (played "alice" (strollTurns.take k))).snapshot).players me ∧
        ((predictionOf spawn strollTurns).reconcile me).predicted =
          (predictionOf spawn strollTurns).predicted := by
  have hnew : Simulation.new "alice" "bob" =
      .ok (Simulation.initialRoom "alice" "bob" Simulation.defaultRuleset) :=
    Simulation.newWithRuleset_of_accepted (by decide) (by decide) (by decide)
      Simulation.defaultRuleset_accepted
  refine ⟨hnew, ?_⟩
  have hagree := prediction_agrees hnew .a (List.replicate 90 .step) strollTurns
  refine hagree ?_ ?_ ?_ ?_ ?_
  · rw [Simulation.stepCount, List.count_replicate_self]
    rfl
  · intro event hevent input heq
    rw [List.eq_of_mem_replicate hevent] at heq
    cases heq
  · have hbob : Foreign "alice" [.submitInput "bob" ⟨1, 1, 0, []⟩] := by
      intro event hevent
      exact ⟨"bob", ⟨1, 1, 0, []⟩, by decide, List.mem_singleton.1 hevent⟩
    have heve : Foreign "alice" [.submitInput "eve" ⟨1, 0, 0, []⟩] := by
      intro event hevent
      exact ⟨"eve", ⟨1, 0, 0, []⟩, by decide, List.mem_singleton.1 hevent⟩
    have hnobody : Foreign "alice" [] := List.forall_mem_nil _
    exact List.forall_mem_cons.2 ⟨⟨hbob, hnobody⟩, List.forall_mem_singleton.2 ⟨hnobody, heve⟩⟩
  · decide +kernel
  · decide +kernel

end PvpDuel.Delivery
