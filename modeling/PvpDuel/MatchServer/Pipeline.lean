import PvpDuel.MatchServer.Snapshots
import PvpDuel.MatchServer.Order

/-!
# The snapshot pipeline

From the room a snapshot goes through the loop's `publish` to the broadcast goroutine and through
`publishLatest` to the consumer of each session. Read from its end to its start, the pipeline is a
list of snapshots in the order of their ticks: a step drops some of them, moves the first of a stage to
the stage after it, or adds the room's new one at the start.
-/

namespace PvpDuel.MatchServer

open Gamev1 (WorldSnapshot)
open Simulation (Room Snapshot)

/-! ### The stages -/

/-- The snapshot a call of `publish` is about. -/
def LoopPhase.inFlight : LoopPhase → List Snapshot
  | .publishing snapshot | .dropping snapshot | .resending snapshot => [snapshot]
  | .waiting | .selecting | .draining | .closing | .returned => []

/-- The snapshot the broadcast goroutine has just received. -/
def BroadcastPhase.fresh : BroadcastPhase → List Snapshot
  | .updating snapshot => [snapshot]
  | _ => []

/-- What the broadcast goroutine still has to publish to a player. -/
def BroadcastPhase.pending (player : Side) : BroadcastPhase → List WorldSnapshot
  | .updating snapshot => [snapshotToProto snapshot]
  | .publishing snapshot _ left => if player ∈ left then [snapshot] else []
  | _ => []

/-- There is a player to publish to, and none is published to twice. -/
def BroadcastPhase.Distinct : BroadcastPhase → Prop
  | .publishing _ _ left => left ≠ [] ∧ left.Nodup
  | _ => True

namespace Process

/-- What is on its way from the room to the broadcast goroutine. -/
def feed (s : Process) : List Snapshot := s.roomSnapshots.buffer ++ s.loop.inFlight

/-- What a player has received, and what is on its way to him from the broadcast goroutine. -/
def held (s : Process) (player : Side) : List WorldSnapshot :=
  (s.received.get player).snapshots ++ (s.players.get player).snapshots.buffer ++
    s.broadcast.pending player

/-- The ticks of all that a player has received or may still receive. -/
def line (s : Process) (player : Side) : List UInt32 :=
  (s.held player).map WorldSnapshot.serverTick ++ s.feed.map Snapshot.serverTick

/-- The snapshot the broadcast goroutine receives in a step. -/
def takes (s t : Process) : List Snapshot :=
  if s.broadcast = .receiving then t.broadcast.fresh else []

end Process

/-- A match with the sessions whose `AcknowledgeMatchStart` was called and the snapshots the broadcast
goroutine has received. -/
structure Tapped where
  process : Process
  acknowledged : List Side
  taken : List Snapshot
deriving DecidableEq

namespace Tapped

def next (s : Tapped) (action : Match.Action) : Option Tapped :=
  (s.process.next action).map fun t => {
    process := t
    acknowledged :=
      match action with
      | .acknowledgeMatchStart player => s.acknowledged ++ [player]
      | _ => s.acknowledged
    taken := s.taken ++ s.process.takes t }

/-- Every snapshot the broadcast goroutine has received or will. -/
def stream (s : Tapped) : List Snapshot := s.taken ++ s.process.feed

end Tapped

def tap (process : Process) : Tapped where
  process := process
  acknowledged := []
  taken := []

/-! ### What a step does to them -/

section

variable {s t : Process}

/-- `publishLatest` finds room and sends, gives up its first try, drops, or gives up its last. -/
theorem Match.publishLatest_cases {m m' : Match} {player : Side} {published : WorldSnapshot}
    {stage : Publishing} {next : Option Publishing}
    (h : m.publishLatest player published stage = .done (next, m')) : ∃ snapshots,
    m' = m.setPlayer player { m.players.get player with snapshots } ∧
      ((next = none ∧ (m.players.get player).snapshots.send published = .done snapshots) ∨
        (stage = .send ∧ next = some .drop ∧ snapshots = (m.players.get player).snapshots) ∨
        (stage = .drop ∧ next = some .resend ∧
          snapshots = (m.players.get player).snapshots.tryDrop) ∨
        (stage = .resend ∧ next = none ∧ snapshots = (m.players.get player).snapshots ∧
          (m.players.get player).snapshots.send published = .blocked)) := by
  cases stage with
  | send =>
      obtain ⟨⟨sent, snapshots⟩, htry, heq⟩ := Outcome.map_eq_done h
      cases heq
      refine ⟨snapshots, rfl, ?_⟩
      rcases Channel.trySend_eq_done htry with ⟨rfl, hsend⟩ | ⟨rfl, -, rfl⟩
      · exact .inl ⟨rfl, hsend⟩
      · exact .inr (.inl ⟨rfl, rfl, rfl⟩)
  | drop =>
      cases h
      exact ⟨_, rfl, .inr (.inr (.inl ⟨rfl, rfl, rfl⟩))⟩
  | resend =>
      obtain ⟨⟨sent, snapshots⟩, htry, heq⟩ := Outcome.map_eq_done h
      cases heq
      refine ⟨snapshots, rfl, ?_⟩
      rcases Channel.trySend_eq_done htry with ⟨-, hsend⟩ | ⟨-, hblocked, rfl⟩
      · exact .inl ⟨rfl, hsend⟩
      · exact .inr (.inr (.inr ⟨rfl, rfl, rfl, hblocked⟩))

theorem Match.Finalizes.snapshots {m m' : Match} {matchEnd : Gamev1.MatchEnd} {phase : Finalizing}
    {next : Option Finalizing} (h : m.Finalizes matchEnd phase next m') : ∀ player,
      (m'.players.get player).snapshots = (m.players.get player).snapshots := by
  cases h with
  | claim => exact fun _ => rfl
  | skip => exact fun _ => rfl
  | send => exact Match.setPlayer_same PlayerSession.snapshots rfl
  | settle => exact fun _ => rfl

theorem Match.closeChannel_done {m m' : Match} {closing : Closing}
    (h : m.closeChannel closing = .done m') (player : Side) :
    (m'.players.get player).snapshots.buffer = (m.players.get player).snapshots.buffer ∧
      (m'.players.get player).snapshots.capacity = (m.players.get player).snapshots.capacity := by
  cases closing <;> obtain ⟨_, hclosed, rfl⟩ := Outcome.map_eq_done h <;>
    obtain ⟨-, rfl⟩ := Channel.close_eq_done hclosed <;> rw [Match.get_setPlayer] <;>
    split_ifs with heq
  · rw [heq]
    exact ⟨rfl, rfl⟩
  · exact ⟨rfl, rfl⟩
  · rw [heq]
    exact ⟨rfl, rfl⟩
  · exact ⟨rfl, rfl⟩

theorem afterPublish_cases (snapshot : Snapshot) :
    (snapshot.status = .finished ∧ afterPublish snapshot = .closing) ∨
    (snapshot.status ≠ .finished ∧ afterPublish snapshot = .selecting) := by
  unfold afterPublish
  split_ifs with h
  · exact .inl ⟨h, rfl⟩
  · exact .inr ⟨h, rfl⟩

structure Idles (s t : Process) : Prop where
  loop : t.loop = s.loop
  roomSnapshots : t.roomSnapshots = s.roomSnapshots
  broadcast : t.broadcast = s.broadcast
  room : t.room = s.room
  snapshots : ∀ player, (t.players.get player).snapshots = (s.players.get player).snapshots
  received : ∀ player, (t.received.get player).snapshots = (s.received.get player).snapshots
  canceled : s.canceled = true → t.canceled = true
  started : s.startBarrier.closed = true → t.startBarrier.closed = true

/-- A step is one of the two goroutines, a consumer's, or none of the pipeline. -/
theorem Step.flow (h : Step s t) : Idles s t ∨ LoopStep s t ∨ BroadcastStep s t ∨
    ∃ player snapshot, ∃ snapshots : Channel WorldSnapshot,
      (s.players.get player).snapshots.buffer = snapshot :: snapshots.buffer ∧
      snapshots.capacity = (s.players.get player).snapshots.capacity ∧ t = { s with
        toMatch := s.setPlayer player { s.players.get player with snapshots }
        received := s.received.set player { s.received.get player with
          snapshots := (s.received.get player).snapshots ++ [snapshot] } } := by
  cases h with
  | acknowledge player m hm =>
      rcases Match.acknowledgeMatchStart_done hm with rfl | ⟨-, startBarrier, hbarrier, rfl⟩
      · exact .inl ⟨rfl, rfl, rfl, rfl, fun _ => rfl, fun _ => rfl, id, id⟩
      · refine .inl ⟨rfl, rfl, rfl, rfl, Match.setPlayer_same PlayerSession.snapshots rfl,
          fun _ => rfl, id, fun hclosed => ?_⟩
        rcases hbarrier with ⟨-, hclose⟩ | ⟨-, rfl⟩
        · obtain ⟨-, rfl⟩ := Channel.close_eq_done hclose
          rfl
        · exact hclosed
  | submit player input m hm =>
      obtain ⟨_, rfl, -⟩ := Match.submitInput_done hm
      exact .inl ⟨rfl, rfl, rfl, rfl, fun _ => rfl, fun _ => rfl, id, id⟩
  | loop hstep => exact .inr (.inl hstep)
  | broadcast hstep => exact .inr (.inr (.inl hstep))
  | call => exact .inl ⟨rfl, rfl, rfl, rfl, fun _ => rfl, fun _ => rfl, id, id⟩
  | close hstep =>
      left
      cases hstep with
      | begin =>
          exact ⟨rfl, rfl, rfl, rfl, Match.setPlayer_same PlayerSession.snapshots rfl,
            fun _ => rfl, id, id⟩
      | skip => exact ⟨rfl, rfl, rfl, rfl, fun _ => rfl, fun _ => rfl, id, id⟩
      | disconnect => exact ⟨rfl, rfl, rfl, rfl, fun _ => rfl, fun _ => rfl, id, id⟩
      | finalize _ _ _ _ _ hfinalize =>
          obtain ⟨hroom, -, hsnapshots, -⟩ := hfinalize.shared
          refine ⟨rfl, hsnapshots, rfl, hroom, hfinalize.snapshots, fun _ => rfl, ?_, ?_⟩
          · cases hfinalize <;> exact id
          · cases hfinalize <;> exact id
      | abort =>
          have habort : s.abort.canceled = true ∨ s.abort.canceled = s.canceled := by
            unfold Match.abort
            cases s.cancelOnce
            · exact .inl rfl
            · exact .inr rfl
            · exact .inr rfl
          have hkept : s.canceled = true → s.abort.canceled = true := fun hcanceled =>
            habort.elim id fun heq => heq.trans hcanceled
          obtain ⟨_, _, heq⟩ := s.abort_eq
          rw [heq] at hkept ⊢
          exact ⟨rfl, rfl, rfl, rfl, fun _ => rfl, fun _ => rfl, hkept, id⟩
      | leave =>
          exact ⟨rfl, rfl, rfl, rfl, Match.setPlayer_same PlayerSession.snapshots rfl,
            fun _ => rfl, id, id⟩
  | receiveSnapshot player snapshot snapshots hreceive =>
      obtain ⟨hbuffer, -, hcapacity⟩ := Channel.receive_some hreceive
      exact .inr (.inr (.inr ⟨player, snapshot, snapshots, hbuffer, hcapacity, rfl⟩))
  | receiveMatchEnd player =>
      refine .inl ⟨rfl, rfl, rfl, rfl, Match.setPlayer_same PlayerSession.snapshots rfl,
        fun other => ?_, id, id⟩
      change ((s.received.set player _).get other).snapshots = _
      rw [Pair.get_set]
      split_ifs with heq
      · rw [heq]
      · rfl
  | report => exact .inl ⟨rfl, rfl, rfl, rfl, fun _ => rfl, fun _ => rfl, id, id⟩

/-- What a step does to the lists: it drops from them, but a finished snapshot only when canceled or
with a later one behind it; adds the room's new snapshot at the start; or moves the oldest one on to the
broadcast goroutine. -/
inductive Flows (s t : Process) : Prop
  | drops : t.feed.Sublist s.feed →
      (∀ snapshot ∈ s.feed, snapshot.status = .finished → t.canceled = true ∨ snapshot ∈ t.feed ∨
        ∃ later, [snapshot, later].Sublist s.feed) →
      (∀ player, (t.held player).Sublist (s.held player)) → s.takes t = [] →
      t.room.snapshot = s.room.snapshot → Flows s t
  | steps : s.loop = .draining → t.room = s.room.step → t.feed = s.feed ++ [t.room.snapshot] →
      (∀ player, t.held player = s.held player) →
      s.takes t = [] → Flows s t
  | receives (snapshot : Snapshot) : s.feed = snapshot :: t.feed →
      (∀ player, t.held player = s.held player ++ [snapshotToProto snapshot]) →
      s.takes t = [snapshot] → t.room = s.room → Flows s t

theorem takes_of_same (h : t.broadcast = s.broadcast) : s.takes t = [] := by
  unfold Process.takes
  rw [h]
  split_ifs with hreceiving
  · rw [hreceiving]
    rfl
  · rfl

theorem takes_append_of_same (hbroadcast : t.broadcast = s.broadcast)
    (hsnapshots : t.roomSnapshots.buffer = s.roomSnapshots.buffer) :
    s.takes t ++ t.roomSnapshots.buffer = s.roomSnapshots.buffer := by
  rw [takes_of_same hbroadcast, hsnapshots]
  rfl

theorem Idles.flows (h : Idles s t) : Flows s t := by
  have hfeed : t.feed = s.feed := by rw [Process.feed, h.loop, h.roomSnapshots, Process.feed]
  refine .drops (hfeed ▸ .refl _) (fun snapshot hin _ => .inr (.inl (hfeed ▸ hin)))
    (fun player => ?_) (takes_of_same h.broadcast) (by rw [h.room])
  · rw [Process.held, h.broadcast, h.received, h.snapshots]
    exact .refl _

theorem LoopStep.flows (h : LoopStep s t) : Flows s t := by
  have hdrops : t.feed.Sublist s.feed → (∀ snapshot ∈ s.feed, snapshot.status = .finished →
      t.canceled = true ∨ snapshot ∈ t.feed ∨ ∃ later, [snapshot, later].Sublist s.feed) →
      t.room.snapshot = s.room.snapshot → t.broadcast = s.broadcast → t.received = s.received →
      t.players = s.players → Flows s t := by
    intro hfeed hkeeps hroom hbroadcast hreceived hplayers
    refine .drops hfeed hkeeps (fun player => ?_) (takes_of_same hbroadcast) hroom
    rw [Process.held, hbroadcast, hreceived, hplayers]
    exact .refl _
  have hsame : t.feed = s.feed → t.room.snapshot = s.room.snapshot → t.broadcast = s.broadcast →
      t.received = s.received → t.players = s.players → Flows s t := fun hfeed =>
    hdrops (hfeed ▸ .refl _) fun snapshot hin _ => .inr (.inl (hfeed ▸ hin))
  cases h with
  | quit hcanceled =>
      refine hdrops ?_ (fun _ _ _ => .inl hcanceled) rfl rfl rfl rfl
      change (s.roomSnapshots.buffer ++ []).Sublist _
      rw [List.append_nil]
      exact List.sublist_append_left ..
  | start hloop =>
      refine hsame ?_ rfl rfl rfl rfl
      rw [Process.feed, Process.feed, hloop]
      rfl
  | input queued inputs => exact hsame rfl (Room.submitInput_snapshot _ _ _) rfl rfl rfl
  | tick hloop =>
      refine hsame ?_ rfl rfl rfl rfl
      rw [Process.feed, Process.feed, hloop]
      rfl
  | step hloop =>
      refine .steps hloop rfl ?_ (fun _ => rfl) (takes_of_same rfl)
      rw [Process.feed, Process.feed, hloop]
      exact (congrArg (· ++ _) (List.append_nil _)).symm
  | publish snapshot roomSnapshots hloop hsend =>
      refine hsame ?_ rfl rfl rfl rfl
      have hafter : (afterPublish snapshot).inFlight = [] := by
        unfold afterPublish
        split_ifs <;> rfl
      have hbefore : s.loop.inFlight = [snapshot] := by
        rcases hloop with hloop | hloop <;> rw [hloop] <;> rfl
      rw [Process.feed, Process.feed, hbefore, ← (Channel.send_eq_done hsend).2.1]
      change roomSnapshots.buffer ++ (afterPublish snapshot).inFlight = _
      rw [hafter, List.append_nil]
  | full snapshot hloop =>
      refine hsame ?_ rfl rfl rfl rfl
      rw [Process.feed, Process.feed, hloop]
      rfl
  | drop snapshot hloop =>
      have hafter : ({ s with
          roomSnapshots := s.roomSnapshots.tryDrop
          loop := .resending snapshot } : Process).feed =
            s.roomSnapshots.buffer.tail ++ [snapshot] := by
        rw [← Channel.tryDrop_buffer]
        rfl
      have hbefore : s.feed = s.roomSnapshots.buffer ++ [snapshot] := by
        rw [Process.feed, hloop]
        rfl
      refine hdrops ?_ (fun other hin _ => ?_) rfl rfl rfl rfl
      · rw [hafter, hbefore]
        exact (List.tail_sublist _).append_right _
      · right
        rw [hbefore] at hin ⊢
        rw [hafter]
        cases hbuffer : s.roomSnapshots.buffer with
        | nil =>
            rw [hbuffer] at hin
            exact .inl hin
        | cons first rest =>
            rw [hbuffer] at hin
            rcases List.mem_cons.1 hin with rfl | hin
            · refine .inr ⟨snapshot, ?_⟩
              exact List.Sublist.cons_cons _ (List.sublist_append_right rest [snapshot])
            · exact .inl hin
  | skip snapshot hloop hunfinished =>
      have hbefore : s.feed = s.roomSnapshots.buffer ++ [snapshot] := by
        rw [Process.feed, hloop]
        rfl
      have hafter : ({ s with loop := .selecting } : Process).feed = s.roomSnapshots.buffer :=
        List.append_nil _
      refine hdrops ?_ (fun other hin hfinished => ?_) rfl rfl rfl rfl
      · rw [hafter, hbefore]
        exact List.sublist_append_left ..
      · rw [hbefore] at hin
        rcases List.mem_append.1 hin with hin | hin
        · exact .inr (.inl (hafter ▸ hin))
        · rw [List.mem_singleton.1 hin] at hfinished
          exact absurd hfinished hunfinished
  | close hloop =>
      refine hsame ?_ rfl rfl rfl rfl
      rw [Process.feed, Process.feed, hloop]
      rfl

/-- The broadcast goroutine takes from the channel of room snapshots and leaves the room alone. -/
theorem BroadcastStep.feed (h : BroadcastStep s t) :
    s.takes t ++ t.roomSnapshots.buffer = s.roomSnapshots.buffer ∧ t.loop = s.loop ∧
      t.room = s.room ∧ t.canceled = s.canceled ∧ t.startBarrier = s.startBarrier := by
  have hidle : s.broadcast ≠ .receiving → s.takes t = [] := fun hne => if_neg hne
  cases h with
  | receive snapshot roomSnapshots hbroadcast hreceive =>
      obtain ⟨hbuffer, -⟩ := Channel.receive_some hreceive
      refine ⟨?_, rfl, rfl, rfl, rfl⟩
      rw [Process.takes, if_pos hbroadcast, hbuffer]
      rfl
  | ended first hbroadcast =>
      refine ⟨?_, rfl, rfl, rfl, rfl⟩
      rw [Process.takes, if_pos hbroadcast]
      rfl
  | decide _ hbroadcast =>
      rw [hidle (by rw [hbroadcast]; exact BroadcastPhase.noConfusion)]
      exact ⟨rfl, rfl, rfl, rfl, rfl⟩
  | update _ _ hbroadcast =>
      rw [hidle (by rw [hbroadcast]; exact BroadcastPhase.noConfusion)]
      exact ⟨rfl, rfl, rfl, rfl, rfl⟩
  | finalize _ _ _ _ hbroadcast hfinalize =>
      rw [hidle (by rw [hbroadcast]; exact BroadcastPhase.noConfusion)]
      cases hfinalize <;> exact ⟨rfl, rfl, rfl, rfl, rfl⟩
  | publish _ _ _ _ _ _ hbroadcast hpublish =>
      obtain ⟨_, rfl, -⟩ := Match.publishLatest_cases hpublish
      rw [hidle (by rw [hbroadcast]; exact BroadcastPhase.noConfusion)]
      exact ⟨rfl, rfl, rfl, rfl, rfl⟩
  | close closing _ _ hbroadcast hclose =>
      rw [hidle (by rw [hbroadcast]; exact BroadcastPhase.noConfusion)]
      cases closing <;> obtain ⟨_, -, rfl⟩ := Outcome.map_eq_done hclose <;>
        exact ⟨rfl, rfl, rfl, rfl, rfl⟩

theorem BroadcastStep.flows (hdistinct : s.broadcast.Distinct) (h : BroadcastStep s t) :
    Flows s t := by
  obtain ⟨hbuffer, hloop, hroom, -⟩ := h.feed
  have hdrops : s.takes t = [] → (∀ player, (t.held player).Sublist (s.held player)) →
      Flows s t := by
    intro htakes hheld
    rw [htakes, List.nil_append] at hbuffer
    have hfeed : t.feed = s.feed := by rw [Process.feed, hbuffer, hloop, Process.feed]
    exact .drops (hfeed ▸ .refl _) (fun snapshot hin _ => .inr (.inl (hfeed ▸ hin))) hheld htakes
      (by rw [hroom])
  have hidle : s.broadcast ≠ .receiving → s.takes t = [] := fun hne => if_neg hne
  cases h with
  | receive snapshot roomSnapshots hbroadcast hreceive =>
      obtain ⟨hbuffer, -⟩ := Channel.receive_some hreceive
      refine .receives snapshot ?_ (fun player => ?_) (if_pos hbroadcast) rfl
      · rw [Process.feed, hbuffer]
        rfl
      · rw [Process.held, Process.held, hbroadcast]
        exact (congrArg (· ++ _) (List.append_nil _)).symm
  | ended first hbroadcast =>
      refine hdrops (if_pos hbroadcast) fun player => ?_
      rw [Process.held, Process.held, hbroadcast]
      exact .refl _
  | decide snapshot hbroadcast =>
      refine hdrops (hidle (by rw [hbroadcast]; exact BroadcastPhase.noConfusion))
        fun player => ?_
      rw [Process.held, Process.held, hbroadcast]
      exact (List.Sublist.refl _).append (List.nil_sublist _)
  | update snapshot first hbroadcast =>
      refine hdrops (hidle (by rw [hbroadcast]; exact BroadcastPhase.noConfusion))
        fun player => ?_
      rw [Process.held, Process.held, hbroadcast]
      refine (List.Sublist.refl _).append ?_
      change (if player ∈ [first, first.other] then [snapshotToProto snapshot] else []).Sublist _
      split_ifs
      · exact .refl _
      · exact List.nil_sublist _
  | finalize matchEnd phase next m hbroadcast hfinalize =>
      refine hdrops (hidle (by rw [hbroadcast]; exact BroadcastPhase.noConfusion))
        fun player => ?_
      rw [Process.held, Process.held, hbroadcast]
      change ((s.received.get player).snapshots ++ (m.players.get player).snapshots.buffer ++
        (next.elim BroadcastPhase.receiving (.finalizing matchEnd)).pending player).Sublist _
      rw [hfinalize.snapshots]
      cases next <;> exact .refl _
  | publish snapshot stage writer left next m hbroadcast hpublish =>
      obtain ⟨snapshots, rfl, hcases⟩ := Match.publishLatest_cases hpublish
      refine hdrops (hidle (by rw [hbroadcast]; exact BroadcastPhase.noConfusion))
        fun player => ?_
      rw [Process.held, Process.held, hbroadcast, List.append_assoc, List.append_assoc]
      refine (List.Sublist.refl _).append ?_
      change (((s.setPlayer writer { s.players.get writer with snapshots }).players.get
        player).snapshots.buffer ++ (next.elim (publishTo snapshot left) fun stage =>
          BroadcastPhase.publishing snapshot stage (writer :: left)).pending player).Sublist
        (_ ++ if player ∈ writer :: left then [snapshot] else [])
      have hrest : ((publishTo snapshot left).pending player).Sublist
          (if player ∈ left then [snapshot] else []) := by
        cases left <;> exact .refl _
      rw [Match.get_setPlayer]
      by_cases hwriter : player = writer
      · subst hwriter
        rw [if_pos rfl, if_pos (List.mem_cons_self ..)]
        rcases hcases with ⟨rfl, hsend⟩ | ⟨-, rfl, rfl⟩ | ⟨-, rfl, rfl⟩ | ⟨-, rfl, rfl, -⟩
        · have hnotin : player ∉ left := by
            rw [hbroadcast] at hdistinct
            exact (List.nodup_cons.1 hdistinct.2).1
          rw [if_neg hnotin, List.sublist_nil] at hrest
          rw [(Channel.send_eq_done hsend).2.1]
          change ((_ ++ [snapshot]) ++ (publishTo snapshot left).pending player).Sublist _
          rw [hrest, List.append_nil]
        · exact (List.Sublist.refl _).append (by simp [BroadcastPhase.pending])
        · refine List.Sublist.append ?_ (by simp [BroadcastPhase.pending])
          rw [Channel.tryDrop_buffer]
          exact List.tail_sublist _
        · exact (List.Sublist.refl _).append (hrest.trans (by split_ifs <;> simp))
      · rw [if_neg hwriter]
        refine (List.Sublist.refl _).append ?_
        simp only [List.mem_cons, hwriter, false_or]
        rcases hcases with ⟨rfl, -⟩ | ⟨-, rfl, -⟩ | ⟨-, rfl, -⟩ | ⟨-, rfl, -⟩
        · exact hrest
        · simp [BroadcastPhase.pending, hwriter]
        · simp [BroadcastPhase.pending, hwriter]
        · exact hrest
  | close closing left m hbroadcast hclose =>
      refine hdrops (hidle (by rw [hbroadcast]; exact BroadcastPhase.noConfusion))
        fun player => ?_
      rw [Process.held, Process.held, hbroadcast]
      change ((s.received.get player).snapshots ++ (m.players.get player).snapshots.buffer ++
        (closeRest left).pending player).Sublist _
      rw [(Match.closeChannel_done hclose player).1]
      cases left <;> exact .refl _

theorem Step.flows (h : Step s t) (hdistinct : s.broadcast.Distinct) : Flows s t := by
  rcases h.flow with hidle | hloop | hbroadcast | ⟨player, snapshot, snapshots, hbuffer, -, rfl⟩
  · exact hidle.flows
  · exact hloop.flows
  · exact hbroadcast.flows hdistinct
  · refine .drops (.refl _) (fun _ hin _ => .inr (.inl hin)) (fun other => ?_)
      (takes_of_same rfl) rfl
    rw [Process.held, Process.held]
    change List.Sublist (((s.received.set player _).get other).snapshots ++
      ((s.setPlayer player { s.players.get player with snapshots }).players.get
        other).snapshots.buffer ++ _) _
    rw [Pair.get_set, Match.get_setPlayer]
    split_ifs with heq
    · subst heq
      rw [hbuffer, List.append_assoc (s.received.get other).snapshots]
      exact .refl _
    · exact .refl _

/-- A closed start barrier stays closed, and a canceled match canceled. -/
theorem Step.mono (h : Step s t) :
    (s.startBarrier.closed = true → t.startBarrier.closed = true) ∧
      (s.canceled = true → t.canceled = true) := by
  rcases h.flow with hidle | hloop | hbroadcast | ⟨_, _, _, -, -, rfl⟩
  · exact ⟨hidle.started, hidle.canceled⟩
  · cases hloop <;> exact ⟨id, id⟩
  · obtain ⟨-, -, -, hcanceled, hbarrier⟩ := hbroadcast.feed
    rw [hcanceled, hbarrier]
    exact ⟨id, id⟩
  · exact ⟨id, id⟩

/-- A loop that leaves is canceled or has put a finished snapshot into its channel; one that has left
leaves what is in its channel to the broadcast goroutine. -/
theorem Step.left (h : Step s t) (hleft : t.loop = .closing ∨ t.loop = .returned) :
    t.canceled = true ∨ (∃ snapshot ∈ t.roomSnapshots.buffer, snapshot.status = .finished) ∨
      ((s.loop = .closing ∨ s.loop = .returned) ∧
        s.takes t ++ t.roomSnapshots.buffer = s.roomSnapshots.buffer) := by
  rcases h.flow with hidle | hloop | hbroadcast | ⟨_, _, _, -, -, rfl⟩
  · rw [hidle.loop] at hleft
    exact .inr (.inr ⟨hleft,
      takes_append_of_same hidle.broadcast (congrArg Channel.buffer hidle.roomSnapshots)⟩)
  · cases hloop with
    | quit hcanceled => exact .inl hcanceled
    | start => rcases hleft with hleft | hleft <;> cases hleft
    | input => exact .inr (.inr ⟨hleft, takes_append_of_same rfl rfl⟩)
    | tick => rcases hleft with hleft | hleft <;> cases hleft
    | step => rcases hleft with hleft | hleft <;> cases hleft
    | publish snapshot roomSnapshots _ hsend =>
        rcases afterPublish_cases snapshot with ⟨hfinished, -⟩ | ⟨-, hafter⟩
        · refine .inr (.inl ⟨snapshot, ?_, hfinished⟩)
          dsimp only
          rw [(Channel.send_eq_done hsend).2.1]
          exact List.mem_append_right _ (List.mem_singleton_self _)
        · dsimp only at hleft
          rw [hafter] at hleft
          rcases hleft with hleft | hleft <;> cases hleft
    | full => rcases hleft with hleft | hleft <;> cases hleft
    | drop => rcases hleft with hleft | hleft <;> cases hleft
    | skip => rcases hleft with hleft | hleft <;> cases hleft
    | close hloop => exact .inr (.inr ⟨.inl hloop, takes_append_of_same rfl rfl⟩)
  · obtain ⟨hbuffer, hloop, -⟩ := hbroadcast.feed
    rw [hloop] at hleft
    exact .inr (.inr ⟨hleft, hbuffer⟩)
  · exact .inr (.inr ⟨hleft, takes_append_of_same rfl rfl⟩)

/-- What the broadcast goroutine has in hand is what it took; it decides on a finished snapshot; and it
leaves its loop when the room loop has returned and left nothing in its channel. -/
structure Advances (s t : Process) : Prop where
  fresh : ∀ snapshot ∈ t.broadcast.fresh, snapshot ∈ s.broadcast.fresh ∨ snapshot ∈ s.takes t
  announced : ∀ matchEnd phase, t.broadcast = .finalizing matchEnd phase →
    (∃ phase, s.broadcast = .finalizing matchEnd phase) ∨
      ∃ snapshot ∈ s.broadcast.fresh, snapshot.status = .finished
  ended : t.Ended → s.Ended ∨ s.roomSnapshots.buffer = [] ∧ s.loop = .returned

theorem Advances.of_same (h : t.broadcast = s.broadcast) : Advances s t := by
  refine ⟨?_, ?_, ?_⟩
  · rw [h]
    exact fun _ => .inl
  · rw [h]
    exact fun _ phase hfinalizing => .inl ⟨phase, hfinalizing⟩
  · rw [Process.Ended, h]
    exact .inl

/-- A phase in the loop of the broadcast goroutine that holds nothing new and decides nothing. -/
theorem Advances.of_quiet (hfresh : t.broadcast.fresh = [])
    (hannounced : ∀ matchEnd phase, t.broadcast ≠ .finalizing matchEnd phase) (hended : ¬ t.Ended) :
    Advances s t := by
  refine ⟨?_, fun matchEnd phase heq => absurd heq (hannounced matchEnd phase),
    fun h => absurd h hended⟩
  rw [hfresh]
  exact fun _ hin => by cases hin

theorem Process.not_ended (hclosing : ∀ left, t.broadcast ≠ .closing left)
    (hreturned : t.broadcast ≠ .returned) : ¬ t.Ended := by
  rintro (⟨left, heq⟩ | heq)
  · exact hclosing left heq
  · exact hreturned heq

theorem BroadcastStep.advances (h : BroadcastStep s t)
    (hclosed : s.roomSnapshots.closed = true → s.loop = .returned) : Advances s t := by
  cases h with
  | receive snapshot _ hbroadcast =>
      refine ⟨fun other hin => .inr ?_, fun _ _ heq => (by cases heq), fun hended => ?_⟩
      · rw [Process.takes, if_pos hbroadcast]
        exact hin
      · exact absurd hended (Process.not_ended (fun _ heq => by cases heq) fun heq => by cases heq)
  | ended first hbroadcast hclose hbuffer =>
      exact ⟨fun _ hin => (by cases hin), fun _ _ heq => (by cases heq),
        fun _ => .inr ⟨hbuffer, hclosed hclose⟩⟩
  | decide snapshot hbroadcast hfinished =>
      refine ⟨fun _ hin => (by cases hin), fun _ _ _ => .inr ⟨snapshot, ?_, hfinished⟩,
        fun hended => ?_⟩
      · rw [hbroadcast]
        exact List.mem_singleton_self _
      · exact absurd hended (Process.not_ended (fun _ heq => by cases heq) fun heq => by cases heq)
  | update =>
      exact .of_quiet rfl (fun _ _ heq => by cases heq)
        (Process.not_ended (fun _ heq => by cases heq) fun heq => by cases heq)
  | finalize matchEnd phase next _ hbroadcast =>
      cases next with
      | none =>
          exact .of_quiet rfl (fun _ _ heq => by cases heq)
            (Process.not_ended (fun _ heq => by cases heq) fun heq => by cases heq)
      | some later =>
          refine ⟨fun _ hin => (by cases hin), fun other _ heq => ?_, fun hended => ?_⟩
          · cases heq
            exact .inl ⟨phase, hbroadcast⟩
          · exact absurd hended
              (Process.not_ended (fun _ heq => by cases heq) fun heq => by cases heq)
  | publish _ _ _ left next =>
      cases next <;> cases left <;> exact .of_quiet rfl (fun _ _ heq => by cases heq)
        (Process.not_ended (fun _ heq => by cases heq) fun heq => by cases heq)
  | close closing left _ hbroadcast =>
      refine ⟨?_, ?_, fun _ => .inl (.inl ⟨_, hbroadcast⟩)⟩
      · cases left <;> exact fun _ hin => by cases hin
      · cases left <;> exact fun _ _ heq => by cases heq

theorem Step.advances (h : Step s t)
    (hclosed : s.roomSnapshots.closed = true → s.loop = .returned) : Advances s t := by
  rcases h.flow with hidle | hloop | hbroadcast | ⟨_, _, _, -, -, rfl⟩
  · exact .of_same hidle.broadcast
  · refine .of_same ?_
    cases hloop <;> rfl
  · exact hbroadcast.advances hclosed
  · exact .of_same rfl

theorem Step.drained (h : Step s t) (hbuffer : s.roomSnapshots.buffer = [])
    (hloop : s.loop = .returned) : t.roomSnapshots.buffer = [] ∧ t.loop = .returned := by
  rcases h.flow with hidle | hstep | hbroadcast | ⟨_, _, _, -, -, rfl⟩
  · rw [hidle.roomSnapshots, hidle.loop]
    exact ⟨hbuffer, hloop⟩
  · cases hstep with
    | quit _ hne => exact absurd hloop hne
    | input _ _ hphase => rcases hphase with hphase | hphase <;> rw [hloop] at hphase <;> cases hphase
    | publish _ _ hphase =>
        rcases hphase with hphase | hphase <;> rw [hloop] at hphase <;> cases hphase
    | start hphase => rw [hloop] at hphase; cases hphase
    | tick hphase => rw [hloop] at hphase; cases hphase
    | step hphase => rw [hloop] at hphase; cases hphase
    | full _ hphase => rw [hloop] at hphase; cases hphase
    | drop _ hphase => rw [hloop] at hphase; cases hphase
    | skip _ hphase => rw [hloop] at hphase; cases hphase
    | close hphase => rw [hloop] at hphase; cases hphase
  · obtain ⟨heq, hsame, -⟩ := hbroadcast.feed
    rw [hbuffer] at heq
    exact ⟨(List.append_eq_nil_iff.1 heq).2, hsame.trans hloop⟩
  · exact ⟨hbuffer, hloop⟩

end

end PvpDuel.MatchServer
