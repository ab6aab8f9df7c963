import PvpDuel.Delivery.Adoption
import PvpDuel.Lib.Replay
import PvpDuel.MatchServer.Latest

/-!
# Reconciliation

Whatever snapshots the client polls, its predicted position is the one its world has for it with the
inputs replayed that this world does not acknowledge. What keeps the two together is that all
snapshots are of one room: one with a later tick acknowledges no less, and the client adopts no
earlier one once it has sent an input.
-/

namespace PvpDuel.Delivery

open Client (MatchController MatchModel PendingInput PredictedPosition Prediction)
open Gamev1 (MatchEnd MatchStart PlayerInput PlayerState WorldSnapshot)
open MatchServer (Match Piped Process RoomStep Step)
open Replay (Tracks)

/-! ### One history -/

/-- The one entry of a player in a snapshot. -/
def Entry (id : String) (players : List PlayerState) (me : PlayerState) : Prop :=
  (players.filter fun player => player.playerID = id) = [me]

/-- What is known of the players at some ticks can be put in the order of the ticks: all of it is past,
and what is later acknowledges no less. -/
structure History (id : String) (now ack : UInt32) (Known : UInt32 → List PlayerState → Prop) :
    Prop where
  past : ∀ tick players, Known tick players → tick ≤ now ∧
    ∃ me, Entry id players me ∧ me.lastAckedInputTick ≤ ack
  ordered : ∀ tick players tick' players' me me', Known tick players → Known tick' players' →
    tick ≤ tick' → Entry id players me → Entry id players' me' →
    me.lastAckedInputTick ≤ me'.lastAckedInputTick

section

variable {id : String} {now now' ack ack' : UInt32} {players : List PlayerState} {me me' : PlayerState}
  {Known Known' : UInt32 → List PlayerState → Prop}

theorem entry_of_pair {first second : PlayerState} (hfirst : first.playerID = id)
    (hsecond : second.playerID ≠ id) :
    Entry id [first, second] first ∧ Entry id [second, first] first := by
  simp [Entry, hfirst, hsecond]

theorem room_entry {r : Simulation.Room} (hne : r.seats.a.player.id ≠ r.seats.b.player.id)
    (i : Side) :
    Entry (r.seats.get i).player.id (MatchServer.snapshotToProto r.snapshot).players
      (MatchServer.playerToProto (r.seats.get i).player) := by
  cases i with
  | a =>
      refine (entry_of_pair ?_ ?_).1
      · rfl
      · exact hne.symm
  | b =>
      refine (entry_of_pair ?_ ?_).2
      · rfl
      · exact hne

theorem Entry.unique (h : Entry id players me) (h' : Entry id players me') : me = me' :=
  List.head_eq_of_cons_eq (h.symm.trans h')

theorem History.of_subset (h : History id now ack Known)
    (hsubset : ∀ tick players, Known' tick players → Known tick players) (hnow : now ≤ now')
    (hack : ack ≤ ack') : History id now' ack' Known' := by
  refine ⟨fun tick players hknown => ?_, ?_⟩
  · obtain ⟨htick, me, hentry, hme⟩ := h.past tick players (hsubset tick players hknown)
    exact ⟨UInt32.le_trans htick hnow, me, hentry, UInt32.le_trans hme hack⟩
  · exact fun tick players tick' players' me me' hknown hknown' =>
      h.ordered tick players tick' players' me me' (hsubset _ _ hknown) (hsubset _ _ hknown')

theorem History.add (h : History id now ack Known) (hnow : now < now')
    (hentry : Entry id players me) (hack : ack ≤ me.lastAckedInputTick)
    (hadds : ∀ tick other, Known' tick other → Known tick other ∨ tick = now' ∧ other = players) :
    History id now' me.lastAckedInputTick Known' := by
  refine ⟨fun tick other hknown => ?_, ?_⟩
  · rcases hadds tick other hknown with hold | ⟨rfl, rfl⟩
    · obtain ⟨htick, entry, hold, hle⟩ := h.past tick other hold
      exact ⟨UInt32.le_trans htick (UInt32.le_of_lt hnow), entry, hold, UInt32.le_trans hle hack⟩
    · exact ⟨UInt32.le_refl _, me, hentry, UInt32.le_refl _⟩
  · intro tick first tick' second mine mine' hfirst hsecond hle hmine hmine'
    rcases hadds tick first hfirst with hold | ⟨rfl, rfl⟩ <;>
      rcases hadds tick' second hsecond with hold' | ⟨rfl, rfl⟩
    · exact h.ordered tick first tick' second mine mine' hold hold' hle hmine hmine'
    · obtain ⟨-, entry, hentry', hbefore⟩ := h.past tick first hold
      rw [hentry.unique hmine'] at hack
      rw [← hentry'.unique hmine]
      exact UInt32.le_trans hbefore hack
    · have hpast := (h.past tick' second hold').1
      exact absurd (UInt32.le_trans hle hpast) (UInt32.not_le.2 hnow)
    · rw [hmine.unique hmine']
      exact UInt32.le_refl _

end

/-! ### The client -/

def pendingOf (input : PlayerInput) : PendingInput where
  tick := input.tick
  moveX := Client.clampAxis input.moveX
  moveY := Client.clampAxis input.moveY

/-- `ApplyMovement` of a kept input. -/
def movedBy (position : PredictedPosition) (input : PendingInput) : PredictedPosition :=
  Client.applyMovement position input.moveX input.moveY

/-- The prediction is the entry of the player with the inputs replayed that it does not acknowledge. -/
abbrev Predicts (log : List PendingInput) (me : PlayerState) (p : Prediction) : Prop :=
  Tracks (fun input => input.tick.toNat) movedBy log me.lastAckedInputTick.toNat
    (⟨me.positionX, me.positionY⟩ : PredictedPosition) p.pending p.predicted

def Sorted (log : List PendingInput) : Prop :=
  log.Pairwise fun first second => first.tick.toNat < second.tick.toNat

section

variable {log : List PendingInput} {me me' : PlayerState} {p : Prediction}

theorem Predicts.reconcile (h : Predicts log me p) (hsorted : Sorted log)
    (hle : me.lastAckedInputTick ≤ me'.lastAckedInputTick) : Predicts log me' (p.reconcile me') := by
  have hunacknowledged : p.unacknowledged me' =
      p.pending.dropWhile fun input => input.tick.toNat ≤ me'.lastAckedInputTick.toNat :=
    congrArg (fun test => p.pending.dropWhile test)
      (funext fun _ => decide_eq_decide.2 UInt32.le_iff_toNat_le)
  rw [Predicts, Prediction.reconcile, hunacknowledged]
  exact Tracks.rebase h hsorted (UInt32.le_iff_toNat_le.1 hle) _

theorem Predicts.applyInput (h : Predicts log me p) {tick : UInt32}
    (hnew : me.lastAckedInputTick < tick) (moveX moveY : Int32) :
    Predicts (log ++ [⟨tick, Client.clampAxis moveX, Client.clampAxis moveY⟩]) me
      (p.applyInput tick moveX moveY) :=
  Tracks.concat h (UInt32.lt_iff_toNat_lt.1 hnew)

theorem Predicts.of_empty (hpending : p.pending = []) : Predicts [] me (p.reconcile me) := by
  have hunacknowledged : p.unacknowledged me = [] := by
    rw [Prediction.unacknowledged, hpending]
    rfl
  rw [Predicts, Prediction.reconcile, hunacknowledged]
  exact ⟨rfl, rfl⟩

end

section

variable {id : String} {m : MatchModel} {w : WorldSnapshot} {me : PlayerState}

/-- The loop of `ApplySnapshot` reconciles with every entry of the local player. -/
theorem applyPlayers_localPrediction (hid : m.localPlayerId = id) (players : List PlayerState) :
    (players.foldl MatchModel.applyPlayer m).localPrediction =
      (players.filter fun player => player.playerID = id).foldl Prediction.reconcile
        m.localPrediction := by
  induction players generalizing m with
  | nil => rfl
  | cons player players ih =>
      have hnext : (m.applyPlayer player).localPlayerId = id :=
        (m.applyPlayer_localPlayerId player).trans hid
      rw [List.foldl_cons, ih hnext, List.filter_cons, MatchModel.applyPlayer, hid]
      by_cases hlocal : player.playerID = id
      · rw [if_pos hlocal, if_pos (decide_eq_true hlocal)]
        rfl
      · rw [if_neg hlocal, if_neg fun h => hlocal (of_decide_eq_true h)]

/-- A snapshot is ignored as stale, or it becomes the world and the prediction is reconciled with the
local player's entry. -/
theorem applySnapshot_cases (hid : m.localPlayerId = id) (hentry : Entry id w.players me) :
    (m.applySnapshot w).started = m.started ∧ (m.applySnapshot w).localPlayerId = id ∧
    ((m.started = true ∧ w.serverTick < m.world.serverTick ∧ m.applySnapshot w = m) ∨
      ((m.started = true → m.world.serverTick ≤ w.serverTick) ∧
        (m.applySnapshot w).world.players = w.players ∧
        (m.applySnapshot w).world.serverTick = w.serverTick ∧
        (m.applySnapshot w).localPrediction = m.localPrediction.reconcile me)) := by
  unfold MatchModel.applySnapshot
  split_ifs with hstale
  · exact ⟨rfl, hid, .inl ⟨hstale.1, hstale.2, rfl⟩⟩
  · obtain ⟨hstarted, hid', -⟩ := m.applyPlayers_fields w.players
    refine ⟨hstarted, hid'.trans hid, .inr ⟨fun hs => ?_, rfl, rfl, ?_⟩⟩
    · exact UInt32.not_lt.1 fun hlt => hstale ⟨hs, hlt⟩
    · refine (applyPlayers_localPrediction hid w.players).trans ?_
      rw [hentry]
      rfl

end

/-- The client's world is nothing yet or known, its prediction follows it, and inputs are only sent
once it is known. -/
structure Follows (id : String) (log : List PendingInput)
    (Known : UInt32 → List PlayerState → Prop) (m : MatchModel) : Prop where
  owner : m.localPlayerId = id
  empty : log = [] → m.localPrediction.pending = []
  tracks : ∀ me, Entry id m.world.players me → Predicts log me m.localPrediction
  world : (m.world.players = [] ∧ m.world.serverTick = 0) ∨ Known m.world.serverTick m.world.players
  started : log ≠ [] → m.started = true ∧ m.world.players ≠ []

section

variable {id : String} {now ack : UInt32} {log : List PendingInput} {m : MatchModel}
  {w : WorldSnapshot} {Known : UInt32 → List PlayerState → Prop}

theorem Entry.ne_nil {players : List PlayerState} {me : PlayerState} (h : Entry id players me) :
    players ≠ [] := by
  rintro rfl
  cases h

theorem Follows.applySnapshot (h : Follows id log Known m) (hhistory : History id now ack Known)
    (hsorted : Sorted log) (hknown : Known w.serverTick w.players) :
    Follows id log Known (m.applySnapshot w) ∧
      ((m.applySnapshot w).started = true → (m.applySnapshot w).world.players ≠ []) := by
  obtain ⟨-, me, hentry, -⟩ := hhistory.past _ _ hknown
  obtain ⟨hstarted, hid, ⟨-, hstale, heq⟩ | ⟨hnewer, hplayers, htick, hprediction⟩⟩ :=
    applySnapshot_cases h.owner hentry
  · rw [heq]
    refine ⟨h, fun _ => ?_⟩
    rcases h.world with ⟨-, hzero⟩ | hworld
    · rw [hzero] at hstale
      exact absurd (UInt32.lt_iff_toNat_lt.1 hstale) (Nat.not_lt_zero _)
    · obtain ⟨-, _, hworld, -⟩ := hhistory.past _ _ hworld
      exact hworld.ne_nil
  · have hne : (m.applySnapshot w).world.players ≠ [] := by
      rw [hplayers]
      exact hentry.ne_nil
    refine ⟨⟨hid, fun hempty => ?_, fun me' hentry' => ?_, .inr ?_, fun hlog => ?_⟩, fun _ => hne⟩
    · rw [hprediction]
      change m.localPrediction.unacknowledged me = []
      rw [Prediction.unacknowledged, h.empty hempty]
      rfl
    · rw [hplayers] at hentry'
      obtain rfl := hentry.unique hentry'
      rw [hprediction]
      by_cases hempty : log = []
      · rw [hempty]
        exact Predicts.of_empty (h.empty hempty)
      · -- Inputs were sent, so the world is known and not later than the snapshot.
        obtain ⟨hs, hworld⟩ := h.started hempty
        have hknown' := h.world.resolve_left fun hnone => hworld hnone.1
        obtain ⟨-, mine, hmine, -⟩ := hhistory.past _ _ hknown'
        exact (h.tracks mine hmine).reconcile hsorted
          (hhistory.ordered _ _ _ _ mine me hknown' hknown (hnewer hs) hmine hentry)
    · rw [hplayers, htick]
      exact hknown
    · exact ⟨hstarted.trans (h.started hlog).1, hne⟩

theorem Follows.poll (h : Follows id log Known m) (hhistory : History id now ack Known)
    (hsorted : Sorted log) (hshown : m.started = true → m.world.players ≠ [])
    {start : Option MatchStart} {snapshot : Option WorldSnapshot} {matchEnd : Option MatchEnd}
    (hknown : ∀ w ∈ MatchModel.polled start snapshot matchEnd, Known w.serverTick w.players) :
    Follows id log Known (m.poll start snapshot matchEnd) ∧
      ((m.poll start snapshot matchEnd).started = true →
        (m.poll start snapshot matchEnd).world.players ≠ []) := by
  have hstart : Follows id log Known (start.toList.foldl MatchModel.applyStart m) ∧
      ((start.toList.foldl MatchModel.applyStart m).started = true →
        (start.toList.foldl MatchModel.applyStart m).world.players ≠ []) := by
    cases start with
    | none => exact ⟨h, hshown⟩
    | some start =>
        refine Follows.applySnapshot ?_ hhistory hsorted (hknown _ (by simp [MatchModel.polled]))
        exact ⟨h.owner, h.empty, h.tracks, h.world, fun hlog => ⟨rfl, (h.started hlog).2⟩⟩
  have hsnapshot : Follows id log Known (snapshot.toList.foldl MatchModel.applySnapshot
      (start.toList.foldl MatchModel.applyStart m)) ∧
      ((snapshot.toList.foldl MatchModel.applySnapshot
        (start.toList.foldl MatchModel.applyStart m)).started = true →
        (snapshot.toList.foldl MatchModel.applySnapshot
          (start.toList.foldl MatchModel.applyStart m)).world.players ≠ []) := by
    cases snapshot with
    | none => exact hstart
    | some snapshot =>
        exact hstart.1.applySnapshot hhistory hsorted (hknown _ (by simp [MatchModel.polled]))
  cases matchEnd with
  | none => exact hsnapshot
  | some matchEnd =>
      obtain ⟨hfollows, hne⟩ := hsnapshot.1.applySnapshot hhistory hsorted
        (hknown matchEnd.finalSnapshot (by simp [MatchModel.polled]))
      exact ⟨⟨hfollows.owner, hfollows.empty, hfollows.tracks, hfollows.world, hfollows.started⟩, hne⟩

theorem advanceTick_prediction (c : MatchController) (frame : Client.InputFrame) :
    (c.advanceTick frame).model.localPrediction = c.model.localPrediction.applyInput
      (c.model.inputTick + 1) frame.moveX.toInt32 frame.moveY.toInt32 ∧
    (c.advanceTick frame).model.world = c.model.world ∧
    (c.advanceTick frame).model.started = c.model.started ∧
    (c.advanceTick frame).model.matchEnd = c.model.matchEnd := by
  unfold MatchController.advanceTick MatchModel.predict MatchController.enqueueActions
    MatchController.enqueueLightAttack
  split_ifs <;> exact ⟨rfl, rfl, rfl, rfl⟩

end

/-! ### The match and its client -/

/-- A snapshot with this tick and these players is somewhere in the match, or is the client's world. -/
def NetworkMatch.Knows (n : NetworkMatch) (tick : UInt32) (players : List PlayerState) : Prop :=
  n.server.Holds tick players ∨
    (tick = n.client.model.world.serverTick ∧ players = n.client.model.world.players ∧ players ≠ [])

/-- The inputs the client has sent. -/
def NetworkMatch.log (n : NetworkMatch) : List PendingInput := n.datagrams.map pendingOf

/-- What every step keeps: the datagrams are numbered from one, nothing the room accepts is beyond
them, and what is known of the players is of one history, which the client's world follows. -/
structure Reconciling (n : NetworkMatch) : Prop where
  piped : Piped n.server
  commands : n.server.room.CommandSafe
  numbered : n.datagrams.map (fun input => input.tick.toNat) = List.range' 1 n.datagrams.length
  clock : n.client.model.inputTick.toNat = n.datagrams.length
  accepted : n.seat.lastInputTick.toNat ≤ n.datagrams.length
  history : History n.playerID n.server.room.tick n.seat.player.lastAckedInputTick n.Knows
  client : Follows n.playerID n.log n.Knows n.client.model
  shown : n.client.model.started = true → n.client.model.world.players ≠ []

section

variable {n n' : NetworkMatch}

theorem Reconciling.sorted (h : Reconciling n) : Sorted n.log := by
  have hticks : (n.log.map fun input => input.tick.toNat).Pairwise (· < ·) := by
    rw [NetworkMatch.log, List.map_map]
    change (n.datagrams.map fun input => input.tick.toNat).Pairwise (· < ·)
    rw [h.numbered]
    exact List.pairwise_lt_range'
  exact List.pairwise_map.1 hticks

theorem Reconciling.tick_le (h : Reconciling n) {input : PlayerInput} (hin : input ∈ n.datagrams) :
    input.tick.toNat ≤ n.datagrams.length := by
  have hmem : input.tick.toNat ∈ n.datagrams.map fun input => input.tick.toNat :=
    List.mem_map_of_mem hin
  rw [h.numbered, List.mem_range'_1] at hmem
  omega

theorem fixedTick_of_ticks (hticks : n.client.model.Ticks) (frame : Client.InputFrame) :
    ∃ sent enqueued, n.fixedTick frame = { n with
        client := n.client.advanceTick frame
        datagrams := n.datagrams ++ [sent]
        enqueued } ∧
      pendingOf sent = ⟨n.client.model.inputTick + 1, Client.clampAxis frame.moveX.toInt32,
        Client.clampAxis frame.moveY.toInt32⟩ := by
  unfold NetworkMatch.fixedTick MatchController.fixedTick
  rw [if_pos hticks]
  refine ⟨_, _, rfl, ?_⟩
  rw [← (n.client.advanceTick_fields frame).1]
  rfl

theorem fixedTick_of_not_ticks (hticks : ¬ n.client.model.Ticks) (frame : Client.InputFrame) :
    n.fixedTick frame = n := by
  unfold NetworkMatch.fixedTick MatchController.fixedTick
  rw [if_neg hticks]
  change ({ n with
    datagrams := n.datagrams ++ []
    enqueued := n.enqueued ++ n.pending.drop n.pending.length } : NetworkMatch) = n
  rw [List.append_nil, List.drop_length, List.append_nil]

theorem Reconciling.fixedTick (h : Reconciling n) (frame : Client.InputFrame)
    (hcount : (n.fixedTick frame).datagrams.length < 2 ^ 32) : Reconciling (n.fixedTick frame) := by
  by_cases hticks : n.client.model.Ticks
  · obtain ⟨sent, enqueued, heq, hsent⟩ := fixedTick_of_ticks hticks frame
    obtain ⟨hprediction, hworld, hstarted, -⟩ := advanceTick_prediction n.client frame
    obtain ⟨htick, hid⟩ := n.client.advanceTick_fields frame
    rw [heq] at hcount ⊢
    have hlength : (n.datagrams ++ [sent]).length = n.datagrams.length + 1 := List.length_append
    have hnext : (n.client.model.inputTick + 1).toNat = n.datagrams.length + 1 := by
      have hbound : n.datagrams.length + 1 < 2 ^ 32 := by
        rw [← hlength]
        exact hcount
      have hclock := h.clock
      rw [UInt32.toNat_add, hclock, UInt32.toNat_one]
      omega
    have hnew : sent.tick.toNat = n.datagrams.length + 1 :=
      (congrArg (fun input : PendingInput => input.tick.toNat) hsent).trans hnext
    have hne : n.client.model.world.players ≠ [] := h.shown hticks.1
    have hknown := h.client.world.resolve_left fun hnone => hne hnone.1
    have hknows : NetworkMatch.Knows { n with
        client := n.client.advanceTick frame
        datagrams := n.datagrams ++ [sent]
        enqueued } = n.Knows := by
      unfold NetworkMatch.Knows
      dsimp only
      rw [hworld]
    have hlog : (n.datagrams ++ [sent]).map pendingOf = n.log ++ [pendingOf sent] := List.map_append
    refine ⟨h.piped, h.commands, ?_, ?_, ?_, ?_, ?_, ?_⟩
    · rw [hlength, List.map_append, h.numbered, List.range'_1_concat, Nat.add_comm 1]
      exact congrArg (fun tick => _ ++ [tick]) hnew
    · rw [hlength]
      exact (congrArg UInt32.toNat htick).trans hnext
    · rw [hlength]
      exact Nat.le_succ_of_le h.accepted
    · rw [hknows]
      exact h.history
    · rw [hknows]
      refine ⟨hid.trans h.client.owner, fun hempty => ?_, fun me hentry => ?_, ?_, fun _ => ?_⟩
      · exact absurd (List.map_eq_nil_iff.1 hempty) (List.append_ne_nil_of_right_ne_nil _ (by simp))
      · rw [hworld] at hentry
        obtain ⟨-, mine, hmine, hacked⟩ := h.history.past _ _ hknown
        obtain rfl := hmine.unique hentry
        have habove : mine.lastAckedInputTick < n.client.model.inputTick + 1 := by
          have hseat := UInt32.le_iff_toNat_le.1 (UInt32.le_trans hacked (h.commands n.player).acked)
          have haccepted := h.accepted
          rw [NetworkMatch.seat] at haccepted
          rw [UInt32.lt_iff_toNat_lt, hnext]
          omega
        rw [hprediction]
        change Predicts ((n.datagrams ++ [sent]).map pendingOf) mine _
        rw [hlog, hsent]
        exact (h.client.tracks mine hentry).applyInput habove _ _
      · rw [hworld]
        exact h.client.world
      · rw [hworld, hstarted]
        exact ⟨hticks.1, hne⟩
    · rw [hstarted, hworld]
      exact h.shown
  · rw [fixedTick_of_not_ticks hticks frame]
    exact h

theorem polled_holds (n : NetworkMatch) (start : Bool) (snapshot matchEnd : Option Nat) :
    ∀ w ∈ MatchModel.polled (n.polledStart start) (n.polledSnapshot snapshot) (n.polledEnd matchEnd),
      n.server.Holds w.serverTick w.players :=
  forall_polled n (.start n.player) (.shown n.player) (.sent n.player) start snapshot matchEnd

theorem Reconciling.pollNetwork (h : Reconciling n) (start : Bool) (snapshot matchEnd : Option Nat)
    (connected : Bool) : Reconciling (n.pollNetwork start snapshot matchEnd connected) := by
  have hholds := polled_holds n start snapshot matchEnd
  obtain ⟨hfollows, hshown⟩ := h.client.poll h.history h.sorted h.shown fun w hw => .inl (hholds w hw)
  have hsubset : ∀ tick players,
      (n.pollNetwork start snapshot matchEnd connected).Knows tick players → n.Knows tick players := by
    rintro tick players (hheld | ⟨rfl, rfl, hne⟩)
    · exact .inl hheld
    · exact hfollows.world.resolve_left fun hnone => hne hnone.1
  refine ⟨h.piped, h.commands, h.numbered, ?_, h.accepted, ?_, ?_, hshown⟩
  · exact (congrArg UInt32.toNat (MatchModel.poll_inputTick _ _ _ _)).trans h.clock
  · exact h.history.of_subset hsubset (UInt32.le_refl _) (UInt32.le_refl _)
  · refine ⟨hfollows.owner, hfollows.empty, hfollows.tracks, ?_, hfollows.started⟩
    by_cases hne : (n.pollNetwork start snapshot matchEnd connected).client.model.world.players = []
    · refine hfollows.world.imp_right fun hknown => ?_
      obtain ⟨-, me, hentry, -⟩ := h.history.past _ _ hknown
      exact absurd hne hentry.ne_nil
    · exact .inr (.inr ⟨rfl, rfl, hne⟩)

theorem snapshot_entry (hhosted : Hosted n) :
    Entry n.playerID (MatchServer.snapshotToProto n.server.room.snapshot).players
      (MatchServer.playerToProto n.seat.player) := by
  have hown := hhosted.seats n.player
  unfold NetworkMatch.playerID NetworkMatch.seat
  rw [← hown]
  exact room_entry hhosted.distinct n.player

/-- A step leaves the room's clock alone or, in its loop, steps the room. -/
theorem room_cases {s t : Process} {action : Match.Action} (h : RoomStep s t action)
    (hcommands : s.room.CommandSafe) : t.room.CommandSafe ∧
      (∀ i, (s.room.seats.get i).player.lastAckedInputTick ≤
        (t.room.seats.get i).player.lastAckedInputTick) ∧
      (t.room.tick = s.room.tick ∨ s.loop = .draining ∧ t.room = s.room.step) := by
  cases h with
  | idle _ hroom =>
      rw [hroom]
      exact ⟨hcommands, fun _ => UInt32.le_refl _, .inl rfl⟩
  | submit _ _ _ hroom =>
      rw [hroom]
      exact ⟨hcommands, fun _ => UInt32.le_refl _, .inl rfl⟩
  | input queued _ _ hroom =>
      rw [hroom]
      exact ⟨hcommands.submitInput _ _,
        fun i => hcommands.lastAckedInputTick_le i (.submitInput queued.playerID queued.input),
        .inl (Simulation.Room.submitInput_tick ..)⟩
  | step _ hloop hroom =>
      rw [hroom]
      exact ⟨hcommands.step, fun i => hcommands.lastAckedInputTick_le i .step, .inr ⟨hloop, rfl⟩⟩

theorem Reconciling.act (h : Reconciling n) (hhosted : Hosted n) {f : CommandFlow}
    (hrepresents : Represents n f) {action : Match.Action} (hact : n.act action = some n') :
    Reconciling n' := by
  have hhosted' := hhosted.act hact
  have hinputs := hhosted.act_inputs hact
  obtain ⟨server, hstep, hroom, -, rfl⟩ := hhosted.act_cases hact
  have hid : (server.players.get n.player).playerID = n.playerID := (hstep.session n.player).playerID
  obtain ⟨hcommands, hacked, hclock⟩ := room_cases hroom h.commands
  have haccepted : (server.room.seats.get n.player).lastInputTick.toNat ≤ n.datagrams.length := by
    rcases hinputs with ⟨queued, hqueued, hown, -, hseat⟩ | ⟨-, hsame⟩
    · rcases submitInput_lastInputTick n.seat queued.input with hsame | ⟨-, hnew⟩
      · rw [← hseat] at hsame
        exact (congrArg UInt32.toNat hsame).trans_le h.accepted
      · obtain ⟨input, hin, heq⟩ := hrepresents.inputs queued hqueued hown
        rw [← hseat, heq] at hnew
        exact (congrArg UInt32.toNat hnew).trans_le (h.tick_le hin)
    · exact (congrArg UInt32.toNat hsame).trans_le h.accepted
  have hidle : n.server.loop = .draining → n.server.loop.Idle := fun hloop => by
    rw [hloop]
    trivial
  have hhistory : History n.playerID server.room.tick
      (server.room.seats.get n.player).player.lastAckedInputTick
      (NetworkMatch.Knows { n with
        server
        consumed := n.consumed ++ n.consumes action
        delivered := n.delivered ++ n.submits action }) := by
    rcases hclock with htick | ⟨hloop, hstepped⟩
    · refine h.history.of_subset ?_ (UInt32.le_of_eq htick.symm) (hacked n.player)
      rintro tick players (hheld | hworld)
      · refine (hstep.holds hheld).elim .inl fun ⟨_, hloop, hstepped, _⟩ => ?_
        have hlt := h.piped.tick_lt (hidle hloop) (UInt32.le_refl _)
        rw [← hstepped, htick] at hlt
        exact absurd hlt (UInt32.lt_irrefl _)
      · exact .inr hworld
    · have hentry : Entry n.playerID (MatchServer.snapshotToProto server.room.snapshot).players
          (MatchServer.playerToProto (server.room.seats.get n.player).player) := by
        rw [← hid]
        exact snapshot_entry hhosted'
      have hlt : n.server.room.tick < server.room.tick := by
        rw [hstepped]
        exact h.piped.tick_lt (hidle hloop) (UInt32.le_refl _)
      refine h.history.add hlt hentry (hacked n.player) ?_
      rintro tick players (hheld | hworld)
      · refine (hstep.holds hheld).imp .inl fun ⟨htick, _, hroom, hplayers⟩ => ⟨htick, ?_⟩
        rw [hplayers, hroom]
      · exact .inl (.inr hworld)
  refine ⟨h.piped.step hstep, hcommands, h.numbered, h.clock, haccepted, ?_, ?_, h.shown⟩
  · change History (server.players.get n.player).playerID _ _ _
    rw [hid]
    exact hhistory
  · change Follows (server.players.get n.player).playerID _ _ _
    rw [hid]
    refine ⟨h.client.owner, h.client.empty, h.client.tracks, ?_, h.client.started⟩
    by_cases hne : n.client.model.world.players = []
    · refine h.client.world.imp_right fun hknown => ?_
      obtain ⟨-, me, hentry, -⟩ := h.history.past _ _ hknown
      exact absurd hne hentry.ne_nil
    · exact .inr (.inr ⟨rfl, rfl, hne⟩)

theorem next_datagrams {action : Action} (hnext : n.next action = some n') :
    n.datagrams.length ≤ n'.datagrams.length := by
  have hact : ∀ {step}, n.act step = some n' → n.datagrams.length ≤ n'.datagrams.length := by
    intro step hact
    obtain ⟨server, -, rfl⟩ := Option.map_eq_some_iff.1 hact
    exact Nat.le_refl _
  cases action with
  | fixedTick frame =>
      cases hnext
      exact (List.length_append ▸ Nat.le_add_right _ _ : _ ≤ (n.datagrams ++ _).length)
  | pollNetwork start snapshot matchEnd connected =>
      cases hnext
      exact Nat.le_refl _
  | deliver datagram =>
      obtain ⟨input, -, hdelivered⟩ := Option.bind_eq_some_iff.1 hnext
      exact hact hdelivered
  | server action =>
      rw [NetworkMatch.next] at hnext
      split_ifs at hnext
      exact hact hnext

theorem Reconciling.next (h : Reconciling n) (hhosted : Hosted n) {f : CommandFlow}
    (hrepresents : Represents n f) {action : Action} (hnext : n.next action = some n')
    (hcount : n'.datagrams.length < 2 ^ 32) : Reconciling n' := by
  cases action with
  | fixedTick frame =>
      cases hnext
      exact h.fixedTick frame hcount
  | pollNetwork start snapshot matchEnd connected =>
      cases hnext
      exact h.pollNetwork start snapshot matchEnd connected
  | deliver datagram =>
      obtain ⟨input, -, hact⟩ := Option.bind_eq_some_iff.1 hnext
      exact h.act hhosted hrepresents hact
  | server action =>
      rw [NetworkMatch.next] at hnext
      split_ifs at hnext
      exact h.act hhosted hrepresents hnext

end

/-! ### Every run -/

section

variable {matchID playerA playerB : String} {reporter : Bool} {server : Process} {player : Side}
  {actions : List Action} {n : NetworkMatch}

theorem connect_reconciling
    (hstart : MatchServer.startMatch matchID playerA playerB reporter = .ok server) :
    Reconciling (connect server player) := by
  have hentry := snapshot_entry (connect_hosted hstart player)
  have hpiped := (MatchServer.tap_kept hstart).piped
  obtain ⟨duel, hduel, rfl⟩ := MatchServer.startMatch_ok hstart
  have hack : (duel.seats.get player).player.lastAckedInputTick = 0 ∧
      (duel.seats.get player).lastInputTick = 0 ∧ duel.CommandSafe := by
    obtain ⟨-, -, -, -, rfl⟩ := Simulation.newWithRuleset_ok hduel
    cases player <;> exact ⟨rfl, rfl, Simulation.initialRoom_commandSafe _ _ _⟩
  have hknows : ∀ tick players, (connect (MatchServer.initialProcess matchID playerA playerB reporter
      duel) player).Knows tick players → tick = duel.tick ∧
        players = (MatchServer.snapshotToProto duel.snapshot).players := by
    rintro tick players (hheld | ⟨-, hnone, hne⟩)
    · exact MatchServer.initialProcess_holds hheld
    · exact absurd hnone hne
  refine ⟨hpiped, hack.2.2, rfl, rfl, ?_, ⟨fun tick players hknown => ?_, ?_⟩,
    ⟨rfl, fun _ => rfl, fun me hme => ?_, .inl ⟨rfl, rfl⟩, fun hlog => absurd rfl hlog⟩,
    fun hstarted => by cases hstarted⟩
  · exact (congrArg UInt32.toNat hack.2.1).le
  · obtain ⟨rfl, rfl⟩ := hknows tick players hknown
    exact ⟨UInt32.le_refl _, _, hentry, UInt32.le_refl _⟩
  · intro tick first tick' second me me' hfirst hsecond _ hme hme'
    obtain ⟨rfl, rfl⟩ := hknows tick first hfirst
    obtain ⟨rfl, rfl⟩ := hknows tick' second hsecond
    rw [hme.unique hme']
    exact UInt32.le_refl _
  · cases hme

theorem reconciling_run
    (hstart : MatchServer.startMatch matchID playerA playerB reporter = .ok server)
    (hrun : Transition.run NetworkMatch.next (connect server player) actions = some n)
    (hcount : n.datagrams.length < 2 ^ 32) : Reconciling n := by
  refine (Transition.run_invariant (P := fun n => (Hosted n ∧ ∃ f, Represents n f) ∧
    (n.datagrams.length < 2 ^ 32 → Reconciling n)) ?_ hrun ⟨⟨connect_hosted hstart player, _,
      connect_represents hstart player⟩, fun _ => connect_reconciling hstart⟩).2 hcount
  rintro n action n' ⟨⟨hhosted, f, hrepresents⟩, h⟩ hnext
  refine ⟨⟨hhosted.next hnext, hrepresents.next hhosted hnext⟩, fun hcount => ?_⟩
  exact (h (Nat.lt_of_le_of_lt (next_datagrams hnext) hcount)).next hhosted hrepresents hnext hcount

/-- The inputs sent whose tick is above the one an entry acknowledges, in the order they were sent. -/
def NetworkMatch.unacknowledged (n : NetworkMatch) (me : PlayerState) : List PlayerInput :=
  n.datagrams.filter fun input => me.lastAckedInputTick < input.tick

/-- `ApplyMovement` of one input after the other. -/
def moveAlong (position : PredictedPosition) (inputs : List PlayerInput) : PredictedPosition :=
  inputs.foldl (fun position input => Client.applyMovement position (Client.clampAxis input.moveX)
    (Client.clampAxis input.moveY)) position

/-- The client's world has one entry of the player, the prediction is that entry with the inputs above
the acknowledged tick replayed on it in the order of their ticks, and it keeps exactly these. -/
def NetworkMatch.Reconciled (n : NetworkMatch) : Prop :=
  ∃ me, Entry n.playerID n.client.model.world.players me ∧
    n.client.model.localPrediction.predicted =
      moveAlong ⟨me.positionX, me.positionY⟩ (n.unacknowledged me) ∧
    n.client.model.localPrediction.pending = (n.unacknowledged me).map pendingOf ∧
    (n.unacknowledged me).Pairwise fun first second => first.tick < second.tick

/-- Once the match has started, and as long as fewer than 2³² inputs were sent, the client is
reconciled after every run. -/
theorem reconciled
    (hstart : MatchServer.startMatch matchID playerA playerB reporter = .ok server)
    (hrun : Transition.run NetworkMatch.next (connect server player) actions = some n)
    (hcount : n.datagrams.length < 2 ^ 32) (hstarted : n.client.model.started = true) :
    n.Reconciled := by
  have h := reconciling_run hstart hrun hcount
  have hne := h.shown hstarted
  obtain ⟨-, me, hentry, -⟩ := h.history.past _ _
    (h.client.world.resolve_left fun hnone => hne hnone.1)
  obtain ⟨hqueue, hstate⟩ := h.client.tracks me hentry
  have hpending : n.client.model.localPrediction.pending = (n.unacknowledged me).map pendingOf := by
    rw [hqueue, Replay.unacknowledged, NetworkMatch.log, List.filter_map, NetworkMatch.unacknowledged]
    exact congrArg (fun test => (n.datagrams.filter test).map pendingOf)
      (funext fun input => decide_eq_decide.2 UInt32.lt_iff_toNat_lt.symm)
  refine ⟨me, hentry, ?_, hpending, ?_⟩
  · rw [hstate, hpending, List.foldl_map]
    rfl
  · refine List.Pairwise.imp (fun hlt => UInt32.lt_iff_toNat_lt.2 hlt) (List.Pairwise.filter _ ?_)
    have hsorted : (n.datagrams.map pendingOf).Pairwise
        fun first second => first.tick.toNat < second.tick.toNat := h.sorted
    exact (List.pairwise_map (f := pendingOf)).1 hsorted

end

/-- Alice walks three ticks; the room has stepped with the first two, and she is told after the
second of them only. -/
def walked : List Action :=
  countdown ++ [.fixedTick ⟨1, 0, [], []⟩, .deliver 0] ++
    serve [.loopInput, .loopTick, .loopNext, .loopNext] ++
    [.fixedTick ⟨1, 1, [], []⟩, .deliver 1] ++
    serve ([.loopInput, .loopTick, .loopNext, .loopNext, .loopNext, .loopNext] ++
      List.replicate 5 (.broadcastNext .a) ++ [.receiveSnapshot .a]) ++
    [.fixedTick ⟨0, 1, [], []⟩, .pollNetwork false (some 1) none true]

theorem reconciled_walked : ∃ server n,
    MatchServer.startMatch "match-1" "alice" "bob" true = .ok server ∧
    Transition.run NetworkMatch.next (connect server .a) walked = some n ∧
    n.datagrams.length = 3 ∧ n.client.model.localPrediction.pending.length = 1 ∧ n.Reconciled := by
  have hstart := MatchServer.startMatch_of_players "match-1" (show "alice" ≠ "" by decide)
    (show "bob" ≠ "" by decide) (by decide) true
  generalize hserver : MatchServer.initialProcess _ _ _ _ _ = server at hstart
  have hrun : (Transition.run NetworkMatch.next (connect server .a) walked).map (fun n =>
      decide (n.datagrams.length = 3 ∧ n.client.model.localPrediction.pending.length = 1 ∧
        n.client.model.started = true)) = some true := by
    rw [← hserver]
    decide +kernel
  obtain ⟨n, hrun, hstate⟩ := Option.map_eq_some_iff.1 hrun
  obtain ⟨hlength, hpending, hstarted⟩ := of_decide_eq_true hstate
  exact ⟨server, n, hstart, hrun, hlength, hpending,
    reconciled hstart hrun (by rw [hlength]; decide) hstarted⟩

/-! ### The wrap-around -/

/-- A tick without input, and one that walks to the right. -/
def resting : Client.InputFrame := ⟨0, 0, [], []⟩

def walking : Client.InputFrame := ⟨1, 0, [], []⟩

/-- The client has ticked so often in an active match without moving. -/
structure Rests (n : NetworkMatch) (world : WorldSnapshot) (position : PredictedPosition)
    (count : Nat) : Prop where
  ticks : n.client.model.Ticks
  world : n.client.model.world = world
  clock : n.client.model.inputTick = UInt32.ofNat count
  predicted : n.client.model.localPrediction.predicted = position
  still : ∀ input ∈ n.datagrams, Client.clampAxis input.moveX = 0 ∧ Client.clampAxis input.moveY = 0

section

variable {n : NetworkMatch} {world : WorldSnapshot} {position : PredictedPosition} {count : Nat}

/-- Inputs that do not move leave a position inside the arena where it is. -/
theorem moveAlong_still (hposition : Client.applyMovement position 0 0 = position)
    {inputs : List PlayerInput}
    (hstill : ∀ input ∈ inputs, Client.clampAxis input.moveX = 0 ∧ Client.clampAxis input.moveY = 0) :
    moveAlong position inputs = position := by
  induction inputs with
  | nil => rfl
  | cons input inputs ih =>
      obtain ⟨hx, hy⟩ := hstill input (List.mem_cons_self ..)
      rw [moveAlong, List.foldl_cons, hx, hy, hposition]
      exact ih fun other hin => hstill other (List.mem_cons_of_mem _ hin)

theorem Rests.tick (h : Rests n world position count)
    (hposition : Client.applyMovement position 0 0 = position) :
    Rests (n.fixedTick resting) world position (count + 1) := by
  obtain ⟨sent, enqueued, heq, hsent⟩ := fixedTick_of_ticks h.ticks resting
  obtain ⟨hprediction, hworld, hstarted, hend⟩ := advanceTick_prediction n.client resting
  obtain ⟨htick, -⟩ := n.client.advanceTick_fields resting
  rw [heq]
  refine ⟨⟨?_, ?_, ?_⟩, hworld.trans h.world, ?_, ?_, fun input hin => ?_⟩
  · exact hstarted.trans h.ticks.1
  · exact hend.trans h.ticks.2.1
  · exact (congrArg WorldSnapshot.status hworld).trans h.ticks.2.2
  · rw [htick, h.clock, UInt32.ofNat_add]
    rfl
  · rw [hprediction]
    change Client.applyMovement n.client.model.localPrediction.predicted 0 0 = position
    rw [h.predicted, hposition]
  · rcases List.mem_append.1 hin with hin | hin
    · exact h.still input hin
    · rw [List.mem_singleton.1 hin]
      exact ⟨congrArg PendingInput.moveX hsent, congrArg PendingInput.moveY hsent⟩

theorem Rests.run (h : Rests n world position count)
    (hposition : Client.applyMovement position 0 0 = position) (more : Nat) : ∃ n',
    Transition.run NetworkMatch.next n (List.replicate more (.fixedTick resting)) = some n' ∧
      n'.server = n.server ∧ n'.player = n.player ∧ Rests n' world position (count + more) := by
  induction more generalizing n count with
  | zero => exact ⟨n, rfl, rfl, rfl, h⟩
  | succ more ih =>
      obtain ⟨n', hrun, hserver, hplayer, hrests⟩ := ih (h.tick hposition)
      refine ⟨n', Transition.run_cons_iff.2 ⟨_, rfl, hrun⟩, hserver, hplayer, ?_⟩
      rw [Nat.add_comm more 1, ← Nat.add_assoc]
      exact hrests

end

/-- The match is active, the client is told so, ticks 2³² - 1 times without moving and then walks. -/
def wrapped : List Action :=
  countdown ++ List.replicate (2 ^ 32 - 1) (.fixedTick resting) ++ [.fixedTick walking]

/-- The tick of that step is zero again, so it counts as acknowledged; the client has applied it. -/
theorem wrapped_not_reconciled : ¬ ∀ matchID playerA playerB reporter server player actions n,
    MatchServer.startMatch matchID playerA playerB reporter = .ok server →
    Transition.run NetworkMatch.next (connect server player) actions = some n →
    n.client.model.started = true → n.Reconciled := by
  intro hclaim
  have hstart := MatchServer.startMatch_of_players "match-1" (show "alice" ≠ "" by decide)
    (show "bob" ≠ "" by decide) (by decide) true
  generalize hserver : MatchServer.initialProcess _ _ _ _ _ = server at hstart
  have hcountdown : (Transition.run NetworkMatch.next (connect server .a) countdown).map (fun n =>
      decide (n.client.model.Ticks ∧ n.client.model.inputTick = 0 ∧ n.datagrams = [] ∧
        n.client.model.localPrediction.predicted = ⟨-250, 0⟩ ∧
        ((n.client.model.world.players.filter fun player => player.playerID = n.playerID).map
          fun me => (me.positionX, me.positionY, me.lastAckedInputTick)) = [(-250, 0, 0)])) =
        some true := by
    rw [← hserver]
    decide +kernel
  obtain ⟨n, hrun, hstate⟩ := Option.map_eq_some_iff.1 hcountdown
  obtain ⟨hticks, hclock, hnone, hpredicted, hentries⟩ := of_decide_eq_true hstate
  have hrests : Rests n n.client.model.world ⟨-250, 0⟩ 0 := by
    refine ⟨hticks, rfl, hclock, hpredicted, fun input hin => ?_⟩
    rw [hnone] at hin
    cases hin
  obtain ⟨n', hrun', hserver', hplayer', hrests'⟩ := hrests.run (by decide) (2 ^ 32 - 1)
  obtain ⟨sent, enqueued, heq, hsent⟩ := fixedTick_of_ticks hrests'.ticks walking
  obtain ⟨hprediction, hworld, hstarted, -⟩ := advanceTick_prediction n'.client walking
  have hlast : Transition.run NetworkMatch.next (connect server .a) wrapped =
      some (n'.fixedTick walking) := by
    refine Transition.run_append_iff.2 ⟨n', Transition.run_append_iff.2 ⟨n, hrun, hrun'⟩, ?_⟩
    exact Transition.run_cons_iff.2 ⟨_, rfl, rfl⟩
  obtain ⟨me, hentry, hreplayed, -⟩ :=
    hclaim _ _ _ _ _ _ _ _ hstart hlast (by rw [heq]; exact hstarted.trans hrests'.ticks.1)
  rw [heq] at hentry hreplayed
  have hme : me.positionX = -250 ∧ me.positionY = 0 ∧ me.lastAckedInputTick = 0 := by
    have hworld' : (n'.client.advanceTick walking).model.world = n.client.model.world :=
      hworld.trans hrests'.world
    have hid : (n'.server.players.get n'.player).playerID = n.playerID := by
      rw [hserver', hplayer']
      rfl
    change Entry (n'.server.players.get n'.player).playerID _ me at hentry
    dsimp only at hentry
    rw [hworld', hid] at hentry
    rw [hentry] at hentries
    simpa using hentries
  -- The last input has tick zero, so only those that do not move are replayed.
  have hstill : ∀ input ∈ n'.datagrams ++ [sent], me.lastAckedInputTick < input.tick →
      Client.clampAxis input.moveX = 0 ∧ Client.clampAxis input.moveY = 0 := by
    intro input hin habove
    rcases List.mem_append.1 hin with hin | hin
    · exact hrests'.still input hin
    · rw [List.mem_singleton.1 hin, hme.2.2] at habove
      have htick : sent.tick = 0 := by
        refine (congrArg PendingInput.tick hsent).trans ?_
        dsimp only
        rw [hrests'.clock]
        rfl
      rw [htick] at habove
      exact absurd habove (UInt32.lt_irrefl 0)
  have hpredicted' : (n'.client.advanceTick walking).model.localPrediction.predicted =
      ⟨-240, 0⟩ := by
    rw [hprediction]
    change Client.applyMovement n'.client.model.localPrediction.predicted 1 0 = ⟨-240, 0⟩
    rw [hrests'.predicted]
    decide
  change (n'.client.advanceTick walking).model.localPrediction.predicted = _ at hreplayed
  rw [hpredicted', hme.1, hme.2.1, moveAlong_still (by decide) fun input hin => ?_] at hreplayed
  · exact absurd hreplayed (by decide)
  · obtain ⟨hin, habove⟩ := List.mem_filter.1 hin
    exact hstill input hin (of_decide_eq_true habove)

end PvpDuel.Delivery
