import PvpDuel.Delivery.ExactlyOnce

/-!
# Which inputs the room adopts

The room accepts a tick up to 120 above the last one it accepted. A newest datagram inside this range
is adopted with its movement and all its commands; beyond it, after 120 datagrams or more were lost in
a row, none is, and the player is locked out.
-/

namespace PvpDuel.Delivery

open MatchServer (Match Process)
open Simulation (Seat)
open SlidingWindow (Flow Numbered)

/-- The room adopts an input: its tick and its movement become the player's, and its commands above
the acknowledged one are queued. -/
structure Adopts (before after : Seat) (input : Simulation.Input) : Prop where
  tick : after.lastInputTick = input.tick
  movement : after.input = { input with actions := [] }
  queued : ∀ command ∈ input.actions, before.player.lastAckedActionSequence < command.sequence →
    command ∈ after.pendingActions

/-- The greatest tick handed to `SubmitInput`, zero before the first. -/
def greatest (inputs : List Simulation.Input) : UInt32 :=
  inputs.foldl (fun tick input => if tick < input.tick then input.tick else tick) 0

@[simp] theorem greatest_concat (inputs : List Simulation.Input) (input : Simulation.Input) :
    greatest (inputs ++ [input]) =
      if greatest inputs < input.tick then input.tick else greatest inputs := by
  rw [greatest, List.foldl_append]
  rfl

/-! ### One input -/

theorem clampProtoAxis_isAxis (axis : Int32) : Simulation.IsAxis (MatchServer.clampProtoAxis axis) := by
  unfold MatchServer.clampProtoAxis
  split_ifs with hlo hhi
  · exact .inl rfl
  · exact .inr (.inr rfl)
  · rw [gt_iff_lt, Int32.lt_iff_toInt_lt] at hhi
    rw [Int32.lt_iff_toInt_lt] at hlo
    change ¬ axis.toInt < -1 at hlo
    change ¬ 1 < axis.toInt at hhi
    have hvalue : axis.toInt8.toInt = axis.toInt := by
      rw [Int32.toInt_toInt8]
      exact Int.bmod_eq_of_le (by omega) (by omega)
    unfold Simulation.IsAxis
    simp only [← Int8.toInt_inj, hvalue]
    change axis.toInt = -1 ∨ axis.toInt = 0 ∨ axis.toInt = 1
    omega

theorem holdInput_newer {s : Seat} {input : Simulation.Input} (hx : Simulation.IsAxis input.moveX)
    (hy : Simulation.IsAxis input.moveY) (hnewer : s.lastInputTick < input.tick) :
    s.holdInput input = { s with
      input := { input with actions := [] }
      lastInputTick := input.tick } := by
  rw [Seat.holdInput, if_pos hnewer, hx.clampAxis_eq, hy.clampAxis_eq]

/-- In range and newer than the last accepted one, an input takes neither early exit. -/
theorem submitInput_of_newer {s : Seat} {input : Simulation.Input}
    (hnewer : s.lastInputTick < input.tick)
    (hrange : input.tick ≤ s.lastInputTick + Simulation.maxInputTickAdvance) :
    s.submitInput input = { s.holdInput input with
      pendingActions := (input.actions.take Simulation.maxPendingActions).foldl
        (Seat.queueAction s.player.lastAckedActionSequence) s.pendingActions } := by
  have hzero : input.tick ≠ 0 := by
    intro hzero
    rw [hzero] at hnewer
    exact absurd (UInt32.lt_iff_toNat_lt.1 hnewer) (Nat.not_lt_zero _)
  exact if_neg (not_or.2 ⟨hzero, UInt32.not_lt.2 hrange⟩)

theorem Receiver.adopts {f : CommandFlow} {s : Seat} (h : Receiver f s)
    (hnumbered : Numbered (fun command => command.sequence.toNat) f.log) {input : Simulation.Input}
    (hinput : InFlight f input.actions) (hx : Simulation.IsAxis input.moveX)
    (hy : Simulation.IsAxis input.moveY) (hnewer : s.lastInputTick < input.tick)
    (hrange : input.tick ≤ s.lastInputTick + Simulation.maxInputTickAdvance) :
    Adopts s (s.submitInput input) input := by
  obtain ⟨p, hsent, hactions⟩ := hinput
  have hheld := holdInput_newer hx hy hnewer
  rw [submitInput_of_newer hnewer hrange]
  refine ⟨?_, ?_, ?_⟩
  · rw [hheld]
  · rw [hheld]
  · intro command hcommand hack
    have haccepted := h.accept hnumbered hsent hactions
    rw [haccepted.held]
    rw [hactions] at hcommand
    obtain ⟨sent, hsegment, rfl⟩ := List.mem_map.1 hcommand
    have hlast := (hnumbered.mem_segment hsegment).2
    refine List.mem_map_of_mem (hnumbered.mem_segment_of
      (SlidingWindow.mem_of_mem_segment hsegment) ?_ ?_)
    · change f.consumed < sent.sequence.toNat
      rw [← h.ack]
      exact UInt32.lt_iff_toNat_lt.1 hack
    · exact Nat.le_trans hlast (Nat.le_max_right _ _)

theorem submitInput_of_range {s : Seat} {input : Simulation.Input}
    (h : ¬ input.tick ≤ s.lastInputTick + Simulation.maxInputTickAdvance) :
    s.submitInput input = s :=
  if_pos (.inr (UInt32.not_le.1 h))

theorem submitInput_lastInputTick (s : Seat) (input : Simulation.Input) :
    (s.submitInput input).lastInputTick = s.lastInputTick ∨
      s.lastInputTick < input.tick ∧ (s.submitInput input).lastInputTick = input.tick := by
  rcases s.submitInput_cases input with h | ⟨_, h⟩ | ⟨_, hnewer, h⟩ <;> rw [h]
  · exact .inl rfl
  · exact .inl rfl
  · exact .inr ⟨hnewer, rfl⟩

/-! ### The inputs handed to the room -/

section

variable {n n' : NetworkMatch}

/-- A step of the match hands the room a waiting input of the player, or leaves the player's last
input tick alone. -/
theorem Hosted.act_inputs (h : Hosted n) {action : Match.Action} (hact : n.act action = some n') :
    (∃ queued ∈ n.server.inputs.buffer, queued.playerID = n.playerID ∧
      n.submits action = [queued.input] ∧ n'.seat = n.seat.submitInput queued.input) ∨
    n.submits action = [] ∧ n'.seat.lastInputTick = n.seat.lastInputTick := by
  obtain ⟨server, -, hroom, -, rfl⟩ := h.act_cases hact
  cases hroom with
  | idle hcall hroom =>
      refine .inr ⟨by rw [NetworkMatch.submits, hcall], ?_⟩
      rw [NetworkMatch.seat, hroom]
      rfl
  | submit player input haction hroom =>
      refine .inr ⟨by rw [NetworkMatch.submits, haction]; rfl, ?_⟩
      rw [NetworkMatch.seat, hroom]
      rfl
  | input queued hcall hinputs hroom =>
      by_cases hplayer : queued.playerID = n.playerID
      · refine .inl ⟨queued, by rw [hinputs]; exact List.mem_cons_self .., hplayer, ?_, ?_⟩
        · rw [NetworkMatch.submits, hcall]
          exact if_pos hplayer
        · rw [NetworkMatch.seat, hroom, Simulation.Room.submitInput_of_ok queued.input
            (Simulation.Room.playerIndex_of_id h.distinct ((h.seats n.player).trans hplayer.symm)),
            Pair.get_set_self]
          rfl
      · refine .inr ⟨?_, ?_⟩
        · rw [NetworkMatch.submits, hcall]
          exact if_neg hplayer
        · rw [NetworkMatch.seat, hroom, Simulation.Room.submitInput_of_ne]
          · rfl
          · rw [h.seats]
            exact Ne.symm hplayer
  | step hcall _ hroom =>
      refine .inr ⟨by rw [NetworkMatch.submits, hcall], ?_⟩
      rw [NetworkMatch.seat, hroom, Simulation.Room.step_lastInputTick]
      rfl

theorem act_delivered {action : Match.Action} (hact : n.act action = some n') :
    n'.delivered = n.delivered ++ n.submits action := by
  obtain ⟨server, -, rfl⟩ := Option.map_eq_some_iff.1 hact
  rfl

theorem Hosted.lastInputTick_act (h : Hosted n) {action : Match.Action}
    (hact : n.act action = some n') (hlast : n.seat.lastInputTick ≤ greatest n.delivered) :
    n'.seat.lastInputTick ≤ greatest n'.delivered := by
  rw [act_delivered hact]
  rcases h.act_inputs hact with ⟨queued, -, -, hsubmits, hseat⟩ | ⟨hsubmits, hkept⟩
  · rw [hsubmits, greatest_concat, hseat]
    rcases submitInput_lastInputTick n.seat queued.input with hkept | ⟨-, hnew⟩
    · rw [hkept]
      split_ifs with hlt
      · exact UInt32.le_trans hlast (UInt32.le_of_lt hlt)
      · exact hlast
    · rw [hnew]
      split_ifs with hlt
      · exact UInt32.le_refl _
      · exact UInt32.not_lt.1 hlt
  · rw [hsubmits, List.append_nil, hkept]
    exact hlast

/-- No tick delivered in this step is more than 120 above all those before it. -/
def NetworkMatch.Near (n : NetworkMatch) : Action → Prop
  | .server action => ∀ input ∈ n.submits action,
      input.tick ≤ greatest n.delivered + Simulation.maxInputTickAdvance
  | _ => True

instance (n : NetworkMatch) (action : Action) : Decidable (n.Near action) := by
  unfold NetworkMatch.Near
  split <;> infer_instance

/-- If no tick is too far above those before it, the greatest one is always accepted. -/
theorem Hosted.lastInputTick_near (h : Hosted n) {action : Match.Action}
    (hact : n.act action = some n') (hnear : n.Near (.server action))
    (hlast : n.seat.lastInputTick = greatest n.delivered) :
    n'.seat.lastInputTick = greatest n'.delivered := by
  rw [act_delivered hact]
  rcases h.act_inputs hact with ⟨queued, -, -, hsubmits, hseat⟩ | ⟨hsubmits, hkept⟩
  · have hrange := hnear queued.input (by rw [hsubmits]; exact List.mem_singleton_self _)
    rw [hsubmits, greatest_concat, hseat, ← hlast]
    rw [← hlast] at hrange
    split_ifs with hnewer
    · rw [submitInput_of_newer hnewer hrange, Seat.holdInput, if_pos hnewer]
    · rcases submitInput_lastInputTick n.seat queued.input with hkept | ⟨hnewer', -⟩
      · exact hkept
      · exact absurd hnewer' hnewer
  · rw [hsubmits, List.append_nil, hkept]
    exact hlast

/-- Every step is one of the client, or one of the match; a datagram that arrives is not handed to the
room yet. -/
theorem next_cases {action : Action} (hnext : n.next action = some n') :
    (n'.seat = n.seat ∧ n'.delivered = n.delivered) ∨
    ∃ step, n.act step = some n' ∧ (action = .server step ∨ n.submits step = []) := by
  cases action with
  | fixedTick frame =>
      cases hnext
      exact .inl ⟨rfl, rfl⟩
  | pollNetwork start snapshot matchEnd connected =>
      cases hnext
      exact .inl ⟨rfl, rfl⟩
  | deliver datagram =>
      obtain ⟨input, -, hact⟩ := Option.bind_eq_some_iff.1 hnext
      exact .inr ⟨_, hact, .inr rfl⟩
  | server step =>
      rw [NetworkMatch.next] at hnext
      split_ifs at hnext
      exact .inr ⟨step, hnext, .inl rfl⟩

end

/-! ### Every run -/

section

variable {matchID playerA playerB : String} {reporter : Bool} {server : Process} {player : Side}
  {actions : List Action} {n n' : NetworkMatch}

theorem connect_lastInputTick
    (hstart : MatchServer.startMatch matchID playerA playerB reporter = .ok server) :
    (connect server player).seat.lastInputTick = greatest (connect server player).delivered := by
  obtain ⟨duel, hduel, rfl⟩ := MatchServer.startMatch_ok hstart
  obtain ⟨-, -, -, -, rfl⟩ := Simulation.newWithRuleset_ok hduel
  cases player <;> rfl

theorem lastInputTick_le
    (hstart : MatchServer.startMatch matchID playerA playerB reporter = .ok server)
    (hrun : Transition.run NetworkMatch.next (connect server player) actions = some n) :
    n.seat.lastInputTick ≤ greatest n.delivered := by
  have hkept : Hosted n ∧ n.seat.lastInputTick ≤ greatest n.delivered := by
    refine Transition.run_invariant
      (P := fun n => Hosted n ∧ n.seat.lastInputTick ≤ greatest n.delivered) ?_ hrun
      ⟨connect_hosted hstart player, UInt32.le_of_eq (connect_lastInputTick hstart)⟩
    rintro n action n' ⟨hhosted, hlast⟩ hnext
    refine ⟨hhosted.next hnext, ?_⟩
    rcases next_cases hnext with ⟨hseat, hdelivered⟩ | ⟨step, hact, -⟩
    · rw [hseat, hdelivered]
      exact hlast
    · exact hhosted.lastInputTick_act hact hlast
  exact hkept.2

/-- Where no tick is too far above those before it, the greatest one delivered is the last accepted. -/
theorem lastInputTick_eq
    (hstart : MatchServer.startMatch matchID playerA playerB reporter = .ok server)
    (hrun : Transition.run NetworkMatch.next (connect server player) actions = some n)
    (hnear : Transition.Meets NetworkMatch.next NetworkMatch.Near (connect server player) actions) :
    n.seat.lastInputTick = greatest n.delivered := by
  have hkept : Hosted n ∧ n.seat.lastInputTick = greatest n.delivered := by
    refine Transition.meets_invariant
      (P := fun n => Hosted n ∧ n.seat.lastInputTick = greatest n.delivered) ?_ hrun hnear
      ⟨connect_hosted hstart player, connect_lastInputTick hstart⟩
    rintro n action n' ⟨hhosted, hlast⟩ hnear hnext
    refine ⟨hhosted.next hnext, ?_⟩
    rcases next_cases hnext with ⟨hseat, hdelivered⟩ | ⟨step, hact, rfl | hnone⟩
    · rw [hseat, hdelivered]
      exact hlast
    · exact hhosted.lastInputTick_near hact hnear hlast
    · refine hhosted.lastInputTick_near hact (fun input hin => ?_) hlast
      rw [hnone] at hin
      cases hin
  exact hkept.2

/-- Whenever the room is handed an input of the player whose tick is greater than all before, it is
that of a datagram of the client, and the room adopts it exactly if the tick is at most 120 above the
last accepted one. So it does if, here and in every step before, no tick was more than 120 above the
greatest before it. -/
theorem latest_adopted
    (hstart : MatchServer.startMatch matchID playerA playerB reporter = .ok server)
    (hrun : Transition.run NetworkMatch.next (connect server player) actions = some n)
    {step : Match.Action} (hnext : n.next (.server step) = some n') {input : Simulation.Input}
    (hsubmits : n.submits step = [input]) (hlatest : greatest n.delivered < input.tick) :
    (∃ datagram ∈ n.datagrams, input = MatchServer.inputFromProto datagram) ∧
    (Adopts n.seat n'.seat input ↔
      input.tick ≤ n.seat.lastInputTick + Simulation.maxInputTickAdvance) ∧
    (Transition.Meets NetworkMatch.next NetworkMatch.Near (connect server player)
      (actions ++ [.server step]) → Adopts n.seat n'.seat input) := by
  obtain ⟨hhosted, f, h⟩ := represents_run hstart hrun
  have hact : n.act step = some n' := by
    rw [NetworkMatch.next] at hnext
    split_ifs at hnext
    exact hnext
  have hnewer := UInt32.lt_of_le_of_lt (lastInputTick_le hstart hrun) hlatest
  rcases hhosted.act_inputs hact with ⟨queued, hqueued, hplayer, hqueue, hseat⟩ | ⟨hnone, -⟩
  · rw [hqueue] at hsubmits
    obtain rfl : queued.input = input := List.head_eq_of_cons_eq hsubmits
    obtain ⟨datagram, hdatagram, hinput⟩ := h.inputs queued hqueued hplayer
    have hadopts : queued.input.tick ≤ n.seat.lastInputTick + Simulation.maxInputTickAdvance →
        Adopts n.seat n'.seat queued.input := by
      intro hrange
      rw [hseat]
      refine h.receiver.adopts h.sender.numbered ?_ ?_ ?_ hnewer hrange <;> rw [hinput]
      · exact h.datagrams datagram hdatagram
      · exact clampProtoAxis_isAxis _
      · exact clampProtoAxis_isAxis _
    refine ⟨⟨datagram, hdatagram, hinput⟩, ⟨fun hadopted => ?_, hadopts⟩, fun hmeets => ?_⟩
    · by_contra hrange
      have hkept := hadopted.tick
      rw [hseat, submitInput_of_range hrange] at hkept
      rw [hkept] at hnewer
      exact UInt32.lt_irrefl _ hnewer
    · obtain ⟨hmeets, hnear⟩ := Transition.meets_concat hrun hmeets
      apply hadopts
      rw [lastInputTick_eq hstart hrun hmeets]
      exact hnear queued.input (by rw [hqueue]; exact List.mem_singleton_self _)
  · rw [hnone] at hsubmits
    cases hsubmits

end

/-! ### Bursts of losses -/

/-- Alice's client walks for some ticks, and only the datagram of the last of them arrives. -/
def burst (count : Nat) : List Action :=
  countdown ++ List.replicate count (.fixedTick ⟨1, 0, [.dash], []⟩) ++ [.deliver (count - 1)]

/-- The first 119 datagrams are lost, and the last is still adopted. -/
theorem latest_adopted_burst : ∃ server n n' input,
    MatchServer.startMatch "match-1" "alice" "bob" true = .ok server ∧
    Transition.run NetworkMatch.next (connect server .a) (burst 120) = some n ∧
    n.next (.server .loopInput) = some n' ∧ n.submits .loopInput = [input] ∧
    greatest n.delivered < input.tick ∧
    Transition.Meets NetworkMatch.next NetworkMatch.Near (connect server .a)
      (burst 120 ++ [.server .loopInput]) ∧
    Adopts n.seat n'.seat input := by
  have hstart := MatchServer.startMatch_of_players "match-1" (show "alice" ≠ "" by decide)
    (show "bob" ≠ "" by decide) (by decide) true
  generalize hserver : MatchServer.initialProcess _ _ _ _ _ = server at hstart
  have hrun : (Transition.run NetworkMatch.next (connect server .a) (burst 120)).map (fun n => decide
      ((n.submits .loopInput).map (fun input => input.tick) = [120] ∧ greatest n.delivered = 0 ∧
        (n.next (.server .loopInput)).isSome = true)) = some true := by
    rw [← hserver]
    decide +kernel
  have hmeets : Transition.Meets NetworkMatch.next NetworkMatch.Near (connect server .a)
      (burst 120 ++ [.server .loopInput]) := by
    rw [← hserver]
    decide +kernel
  obtain ⟨n, hrun, hstate⟩ := Option.map_eq_some_iff.1 hrun
  obtain ⟨hsubmits, hgreatest, hnext⟩ := of_decide_eq_true hstate
  obtain ⟨n', hnext⟩ := Option.isSome_iff_exists.1 hnext
  obtain ⟨input, hsubmits, htick⟩ := List.map_eq_singleton_iff.1 hsubmits
  have hlatest : greatest n.delivered < input.tick := by
    rw [hgreatest, htick]
    decide
  exact ⟨server, n, n', input, hstart, hrun, hnext, hsubmits, hlatest, hmeets,
    (latest_adopted hstart hrun hnext hsubmits hlatest).2.2 hmeets⟩

/-- The first 120 datagrams are lost: the room is active and is handed the client's latest datagram,
the first it sees of the player, and does not adopt it. -/
theorem burst_locks_out : ¬ ∀ matchID playerA playerB reporter server player actions n step n' input,
    MatchServer.startMatch matchID playerA playerB reporter = .ok server →
    Transition.run NetworkMatch.next (connect server player) actions = some n →
    n.next (.server step) = some n' → n.submits step = [input] → n.server.room.status = .active →
    input.tick = n.client.model.inputTick → greatest n.delivered < input.tick →
    Adopts n.seat n'.seat input := by
  intro hclaim
  have hstart := MatchServer.startMatch_of_players "match-1" (show "alice" ≠ "" by decide)
    (show "bob" ≠ "" by decide) (by decide) true
  generalize hserver : MatchServer.initialProcess _ _ _ _ _ = server at hstart
  have hrun : (Transition.run NetworkMatch.next (connect server .a) (burst 121)).map (fun n => decide
      ((n.submits .loopInput).map (fun input => input.tick) = [121] ∧ greatest n.delivered = 0 ∧
        n.server.room.status = .active ∧ n.client.model.inputTick = 121 ∧
        (n.next (.server .loopInput)).map (fun n' => n'.seat.lastInputTick) = some 0)) =
        some true := by
    rw [← hserver]
    decide +kernel
  obtain ⟨n, hrun, hstate⟩ := Option.map_eq_some_iff.1 hrun
  obtain ⟨hsubmits, hgreatest, hactive, hclient, hnext⟩ := of_decide_eq_true hstate
  obtain ⟨n', hnext, hlast⟩ := Option.map_eq_some_iff.1 hnext
  obtain ⟨input, hsubmits, htick⟩ := List.map_eq_singleton_iff.1 hsubmits
  have hadopts := hclaim _ _ _ _ _ _ _ _ _ _ _ hstart hrun hnext hsubmits hactive
    (htick.trans hclient.symm) (by rw [hgreatest, htick]; decide)
  have hadopted := hadopts.tick
  rw [hlast, htick] at hadopted
  cases hadopted

end PvpDuel.Delivery
