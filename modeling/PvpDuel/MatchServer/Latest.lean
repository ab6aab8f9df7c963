import PvpDuel.MatchServer.Pipeline
import PvpDuel.MatchServer.Terminal
import PvpDuel.Room.Timeline

/-!
# The newest snapshot is kept

Dropping the oldest value and sending again never loses the newest one, since only one goroutine sends
to a channel that holds one value. So the ticks of the pipeline stay in order, the room's finished
snapshot comes last in it, and the broadcast goroutine receives it unless the match is canceled.
-/

namespace PvpDuel.MatchServer

open Gamev1 (WorldSnapshot)
open Simulation (Room Snapshot)

section

variable {s t : Process}

/-! ### Where the two goroutines stand -/

/-- The room loop has not taken up the room's next snapshot yet. -/
def LoopPhase.Idle : LoopPhase → Prop
  | .waiting | .selecting | .draining => True
  | _ => False

/-- The room loop is past the start barrier and has not left its loop. -/
def LoopPhase.Running : LoopPhase → Prop
  | .waiting | .closing | .returned => False
  | _ => True

/-- The channels hold one value at most, a call is at its last send only when its channel is empty, and
a call of `publish` is about the snapshot of the room. -/
structure Piped (s : Process) : Prop where
  timeline : ∃ n, s.room.Timeline n
  capacity : s.roomSnapshots.capacity = 1
  capacities : ∀ player, (s.players.get player).snapshots.capacity = 1
  distinct : s.broadcast.Distinct
  resending : ∀ snapshot, s.loop = .resending snapshot → s.roomSnapshots.buffer = []
  resendingTo : ∀ snapshot player left, s.broadcast = .publishing snapshot .resend (player :: left) →
    (s.players.get player).snapshots.buffer = []
  current : ∀ snapshot ∈ s.loop.inFlight, snapshot = s.room.snapshot
  idle : s.loop.Idle → s.room.status ≠ .finished
  barrier : s.loop.Running → s.startBarrier.closed = true

theorem Piped.idles (h : Piped s) (hidle : Idles s t) : Piped t := by
  refine ⟨?_, ?_, ?_, ?_, ?_, ?_, ?_, ?_, ?_⟩
  · rw [hidle.room]
    exact h.timeline
  · rw [hidle.roomSnapshots]
    exact h.capacity
  · exact fun player => (congrArg Channel.capacity (hidle.snapshots player)).trans (h.capacities player)
  · rw [hidle.broadcast]
    exact h.distinct
  · rw [hidle.loop, hidle.roomSnapshots]
    exact h.resending
  · rw [hidle.broadcast]
    exact fun snapshot player left hbroadcast =>
      (congrArg Channel.buffer (hidle.snapshots player)).trans
        (h.resendingTo snapshot player left hbroadcast)
  · rw [hidle.loop, hidle.room]
    exact h.current
  · rw [hidle.loop, hidle.room]
    exact h.idle
  · rw [hidle.loop]
    exact fun hrunning => hidle.started (h.barrier hrunning)

theorem Piped.loopStep (h : Piped s) (hstep : LoopStep s t) : Piped t := by
  have hkept : t.broadcast = s.broadcast ∧ t.players = s.players ∧
      t.startBarrier = s.startBarrier := by
    cases hstep <;> exact ⟨rfl, rfl, rfl⟩
  obtain ⟨hbroadcast, hplayers, hbarrier⟩ := hkept
  have hsame : (∃ n, t.room.Timeline n) → t.roomSnapshots.capacity = 1 →
      (∀ snapshot, t.loop = .resending snapshot → t.roomSnapshots.buffer = []) →
      (∀ snapshot ∈ t.loop.inFlight, snapshot = t.room.snapshot) →
      (t.loop.Idle → t.room.status ≠ .finished) →
      (t.loop.Running → s.startBarrier.closed = true) → Piped t := by
    intro htimeline hcapacity hresending hcurrent hidle hrunning
    refine ⟨htimeline, hcapacity, ?_, ?_, hresending, ?_, hcurrent, hidle, ?_⟩
    · rw [hplayers]
      exact h.capacities
    · rw [hbroadcast]
      exact h.distinct
    · rw [hbroadcast, hplayers]
      exact h.resendingTo
    · rw [hbarrier]
      exact hrunning
  cases hstep with
  | quit =>
      exact hsame h.timeline h.capacity (fun _ heq => by cases heq) (fun _ hin => by cases hin)
        False.elim False.elim
  | start hloop hclosed =>
      refine hsame h.timeline h.capacity (fun _ heq => by cases heq) (fun _ hin => by cases hin)
        (fun _ => h.idle ?_) fun _ => hclosed
      rw [hloop]
      trivial
  | input queued inputs hloop =>
      obtain ⟨n, htimeline⟩ := h.timeline
      refine hsame ⟨n, htimeline.submitInput _ _⟩ h.capacity h.resending ?_ ?_ h.barrier
      · dsimp only
        rw [Room.submitInput_snapshot]
        exact h.current
      · dsimp only
        rw [Room.submitInput_status]
        exact h.idle
  | tick hloop =>
      refine hsame h.timeline h.capacity (fun _ heq => by cases heq) (fun _ hin => by cases hin)
        (fun _ => h.idle ?_) fun _ => h.barrier ?_
      · rw [hloop]
        trivial
      · rw [hloop]
        trivial
  | step hloop =>
      obtain ⟨n, htimeline⟩ := h.timeline
      refine hsame ⟨n + 1, htimeline.step⟩ h.capacity (fun _ heq => by cases heq)
        (fun _ hin => List.mem_singleton.1 hin) False.elim fun _ => h.barrier ?_
      rw [hloop]
      trivial
  | publish snapshot roomSnapshots hloop hsend =>
      obtain ⟨-, -, -, hcapacity⟩ := Channel.send_eq_done hsend
      have hin : snapshot ∈ s.loop.inFlight := by
        rcases hloop with hloop | hloop <;> rw [hloop] <;> exact List.mem_singleton_self _
      have hrunning : s.loop.Running := by
        rcases hloop with hloop | hloop <;> rw [hloop] <;> trivial
      have hstatus : snapshot.status = s.room.status := by
        rw [h.current snapshot hin]
        rfl
      rcases afterPublish_cases snapshot with ⟨-, hafter⟩ | ⟨hunfinished, hafter⟩
      · refine hsame h.timeline (hcapacity.trans h.capacity) ?_ ?_ ?_ ?_ <;> dsimp only <;>
          rw [hafter]
        · exact fun _ heq => by cases heq
        · exact fun _ hin => by cases hin
        · exact False.elim
        · exact False.elim
      · refine hsame h.timeline (hcapacity.trans h.capacity) ?_ ?_ ?_ ?_ <;> dsimp only <;>
          rw [hafter]
        · exact fun _ heq => by cases heq
        · exact fun _ hin => by cases hin
        · exact fun _ => hstatus ▸ hunfinished
        · exact fun _ => h.barrier hrunning
  | full snapshot hloop =>
      refine hsame h.timeline h.capacity (fun _ heq => by cases heq) ?_ False.elim
        fun _ => h.barrier ?_
      · intro other hin
        refine h.current other ?_
        rw [hloop]
        exact hin
      · rw [hloop]
        trivial
  | drop snapshot hloop =>
      refine hsame h.timeline ((Channel.tryDrop_capacity _).trans h.capacity)
        (fun _ _ => Channel.tryDrop_empty h.capacity) ?_ False.elim fun _ => h.barrier ?_
      · intro other hin
        refine h.current other ?_
        rw [hloop]
        exact hin
      · rw [hloop]
        trivial
  | skip snapshot hloop hunfinished =>
      have hstatus : snapshot.status = s.room.status := by
        rw [h.current snapshot (by rw [hloop]; exact List.mem_singleton_self _)]
        rfl
      refine hsame h.timeline h.capacity (fun _ heq => by cases heq) (fun _ hin => by cases hin)
        (fun _ => hstatus ▸ hunfinished) fun _ => h.barrier ?_
      rw [hloop]
      trivial
  | close hloop =>
      exact hsame h.timeline h.capacity (fun _ heq => by cases heq) (fun _ hin => by cases hin)
        False.elim False.elim

theorem Piped.broadcastStep (h : Piped s) (hstep : BroadcastStep s t) : Piped t := by
  have hkept : t.loop = s.loop ∧ t.room = s.room ∧ t.startBarrier = s.startBarrier := by
    cases hstep with
    | receive => exact ⟨rfl, rfl, rfl⟩
    | ended => exact ⟨rfl, rfl, rfl⟩
    | decide => exact ⟨rfl, rfl, rfl⟩
    | update => exact ⟨rfl, rfl, rfl⟩
    | finalize _ _ _ _ _ hfinalize => cases hfinalize <;> exact ⟨rfl, rfl, rfl⟩
    | publish _ _ _ _ _ _ _ hpublish =>
        obtain ⟨_, rfl, -⟩ := Match.publishLatest_cases hpublish
        exact ⟨rfl, rfl, rfl⟩
    | close closing _ _ _ hclose =>
        cases closing <;> obtain ⟨_, -, rfl⟩ := Outcome.map_eq_done hclose <;> exact ⟨rfl, rfl, rfl⟩
  obtain ⟨hloop, hroom, hbarrier⟩ := hkept
  have hsame : (t.roomSnapshots.capacity = s.roomSnapshots.capacity) →
      (s.roomSnapshots.buffer = [] → t.roomSnapshots.buffer = []) →
      (∀ player, (t.players.get player).snapshots.capacity = 1) → t.broadcast.Distinct →
      (∀ snapshot player left, t.broadcast = .publishing snapshot .resend (player :: left) →
        (t.players.get player).snapshots.buffer = []) → Piped t := by
    intro hcapacity hbuffer hcapacities hdistinct hresending
    refine ⟨?_, hcapacity.trans h.capacity, hcapacities, hdistinct, ?_, hresending, ?_, ?_, ?_⟩
    · rw [hroom]
      exact h.timeline
    · rw [hloop]
      exact fun snapshot hresend => hbuffer (h.resending snapshot hresend)
    · rw [hloop, hroom]
      exact h.current
    · rw [hloop, hroom]
      exact h.idle
    · rw [hloop, hbarrier]
      exact h.barrier
  cases hstep with
  | receive snapshot roomSnapshots hbroadcast hreceive =>
      obtain ⟨hbuffer, -, hcapacity⟩ := Channel.receive_some hreceive
      refine hsame hcapacity (fun hempty => ?_) h.capacities trivial fun _ _ _ heq => by cases heq
      rw [hempty] at hbuffer
      cases hbuffer
  | ended => exact hsame rfl id h.capacities trivial fun _ _ _ heq => by cases heq
  | decide => exact hsame rfl id h.capacities trivial fun _ _ _ heq => by cases heq
  | update snapshot first =>
      refine hsame rfl id h.capacities ?_ fun _ _ _ heq => by cases heq
      change [first, first.other] ≠ [] ∧ [first, first.other].Nodup
      cases first <;> decide
  | finalize matchEnd phase next m hbroadcast hfinalize =>
      obtain ⟨-, -, hsnapshots, -⟩ := hfinalize.shared
      refine hsame (congrArg Channel.capacity hsnapshots) ?_ ?_ ?_ ?_
      · exact fun hempty => (congrArg Channel.buffer hsnapshots).trans hempty
      · exact fun player => (congrArg Channel.capacity (hfinalize.snapshots player)).trans
          (h.capacities player)
      · cases next <;> trivial
      · cases next <;> exact fun _ _ _ heq => by cases heq
  | publish snapshot stage writer left next m hbroadcast hpublish =>
      obtain ⟨snapshots, rfl, hcases⟩ := Match.publishLatest_cases hpublish
      have hdistinct := h.distinct
      rw [hbroadcast] at hdistinct
      have hleft : (publishTo snapshot left).Distinct := by
        cases left with
        | nil => trivial
        | cons player left => exact ⟨List.cons_ne_nil _ _, (List.nodup_cons.1 hdistinct.2).2⟩
      have hsends : ∀ other player rest, publishTo snapshot left ≠
          .publishing other .resend (player :: rest) := by
        intro other player rest heq
        cases left <;> cases heq
      have hcapacity : snapshots.capacity = (s.players.get writer).snapshots.capacity := by
        rcases hcases with ⟨-, hsend⟩ | ⟨-, -, rfl⟩ | ⟨-, -, rfl⟩ | ⟨-, -, rfl, -⟩
        · exact (Channel.send_eq_done hsend).2.2.2
        · rfl
        · exact Channel.tryDrop_capacity _
        · rfl
      refine hsame rfl id ?_ ?_ ?_
      · exact fun player => (Match.setPlayer_same
          (fun session => session.snapshots.capacity) hcapacity player).trans (h.capacities player)
      · rcases hcases with ⟨rfl, -⟩ | ⟨-, rfl, -⟩ | ⟨-, rfl, -⟩ | ⟨-, rfl, -⟩
        · exact hleft
        · exact hdistinct
        · exact hdistinct
        · exact hleft
      · rcases hcases with ⟨rfl, -⟩ | ⟨-, rfl, -⟩ | ⟨-, rfl, rfl⟩ | ⟨-, rfl, -⟩
        · exact fun other player rest heq => absurd heq (hsends other player rest)
        · exact fun other player rest heq => by cases heq
        · intro other player rest heq
          cases heq
          rw [Match.get_setPlayer, if_pos rfl]
          exact Channel.tryDrop_empty (h.capacities _)
        · exact fun other player rest heq => absurd heq (hsends other player rest)
  | close closing left m hbroadcast hclose =>
      have hsnapshots : m.roomSnapshots = s.roomSnapshots := by
        cases closing <;> obtain ⟨_, -, rfl⟩ := Outcome.map_eq_done hclose <;> rfl
      refine hsame (congrArg Channel.capacity hsnapshots) ?_ ?_ ?_ ?_
      · exact fun hempty => (congrArg Channel.buffer hsnapshots).trans hempty
      · exact fun player => (Match.closeChannel_done hclose player).2.trans (h.capacities player)
      · cases left <;> trivial
      · cases left <;> exact fun _ _ _ heq => by cases heq

theorem Piped.step (h : Piped s) (hstep : Step s t) : Piped t := by
  rcases hstep.flow with hidle | hloop | hbroadcast |
    ⟨player, snapshot, snapshots, hbuffer, hcapacity, rfl⟩
  · exact h.idles hidle
  · exact h.loopStep hloop
  · exact h.broadcastStep hbroadcast
  · refine ⟨h.timeline, h.capacity, ?_, h.distinct, h.resending, ?_, h.current, h.idle, h.barrier⟩
    · exact fun other => (Match.setPlayer_same
        (fun session => session.snapshots.capacity) hcapacity other).trans (h.capacities other)
    · intro published other left hbroadcast
      have hempty := h.resendingTo published other left hbroadcast
      dsimp only
      rw [Match.get_setPlayer]
      split_ifs with heq
      · subst heq
        rw [hbuffer] at hempty
        cases hempty
      · exact hempty

/-! ### The order of the stream -/

/-- What comes first has the lower tick, and a finished snapshot comes last. -/
def Precedes (first second : Snapshot) : Prop :=
  first.status ≠ .finished ∧ first.serverTick < second.serverTick

/-- The lists are in the order of the ticks, up to the room's; what is finished in them is the room's
snapshot; and once the room is finished, or the loop has left, a finished one is among them unless the
match was canceled. -/
structure Flow (s : Tapped) : Prop where
  order : s.stream.Pairwise Precedes
  line : ∀ player, (s.process.line player).Pairwise (· < ·)
  stream_le : ∀ snapshot ∈ s.stream, snapshot.serverTick ≤ s.process.room.tick
  line_le : ∀ player, ∀ tick ∈ s.process.line player, tick ≤ s.process.room.tick
  finished : ∀ snapshot ∈ s.stream, snapshot.status = .finished → snapshot = s.process.room.snapshot
  started : s.stream ≠ [] → s.process.startBarrier.closed = true
  acknowledged : ∀ player, (s.process.players.get player).startAckOnce = .done →
    player ∈ s.acknowledged
  decided : s.process.room.status = .finished → s.process.canceled = true ∨
    ∃ snapshot ∈ s.stream, snapshot.status = .finished
  left : s.process.loop = .closing ∨ s.process.loop = .returned → s.process.canceled = true ∨
    ∃ snapshot ∈ s.taken ++ s.process.roomSnapshots.buffer, snapshot.status = .finished
  fresh : ∀ snapshot ∈ s.process.broadcast.fresh, snapshot ∈ s.taken
  announced : ∀ matchEnd phase, s.process.broadcast = .finalizing matchEnd phase →
    ∃ snapshot ∈ s.taken, snapshot.status = .finished
  ended : s.process.Ended → s.process.roomSnapshots.buffer = [] ∧ s.process.loop = .returned

theorem Piped.tick_lt (h : Piped s) (hidle : s.loop.Idle) {tick : UInt32} (hle : tick ≤ s.room.tick) :
    tick < s.room.step.tick := by
  obtain ⟨n, htimeline⟩ := h.timeline
  have hs := h.idle hidle
  rw [Room.step_tick hs, UInt32.lt_iff_toNat_lt, htimeline.tick_succ hs, ← htimeline.ticking hs]
  exact Nat.lt_succ_of_le (UInt32.le_iff_toNat_le.1 hle)

theorem Precedes.of_sublist {stream : List Snapshot} (h : stream.Pairwise Precedes)
    {first second : Snapshot} (hin : [first, second].Sublist stream) : Precedes first second :=
  List.pairwise_pair.1 (h.sublist hin)

end

section

variable {s t : Tapped}

structure Taps (s t : Tapped) : Prop where
  step : Step s.process t.process
  taken : t.taken = s.taken ++ s.process.takes t.process
  mono : ∀ player ∈ s.acknowledged, player ∈ t.acknowledged
  acknowledged : ∀ player, (t.process.players.get player).startAckOnce = .done →
    (s.process.players.get player).startAckOnce = .done ∨ player ∈ t.acknowledged

/-- The lists after a step: some of what was there, or all of it and the room's new snapshot. -/
theorem Taps.lists (h : Taps s t) (hdistinct : s.process.broadcast.Distinct) :
    (t.stream.Sublist s.stream ∧ t.process.room.snapshot = s.process.room.snapshot ∧
      (∀ snapshot ∈ s.stream, snapshot.status = .finished → t.process.canceled = true ∨
        snapshot ∈ t.stream ∨ ∃ later, [snapshot, later].Sublist s.stream) ∧
      ∀ player, (t.process.line player).Sublist (s.process.line player)) ∨
    (s.process.loop = .draining ∧ t.process.room = s.process.room.step ∧
      t.stream = s.stream ++ [t.process.room.snapshot] ∧
      ∀ player, t.process.line player = s.process.line player ++ [t.process.room.tick]) := by
  have htaken := h.taken
  cases h.step.flows hdistinct with
  | drops hfeed hkeeps hheld htakes hroom =>
      rw [htakes, List.append_nil] at htaken
      refine .inl ⟨?_, hroom, fun snapshot hin hfinished => ?_, fun player => ?_⟩
      · rw [Tapped.stream, htaken]
        exact (List.Sublist.refl _).append hfeed
      · rw [Tapped.stream, htaken]
        rcases List.mem_append.1 hin with hin | hin
        · exact .inr (.inl (List.mem_append_left _ hin))
        · rcases hkeeps snapshot hin hfinished with hcanceled | hkept | ⟨later, hlater⟩
          · exact .inl hcanceled
          · exact .inr (.inl (List.mem_append_right _ hkept))
          · exact .inr (.inr ⟨later, hlater.trans (List.sublist_append_right ..)⟩)
      · exact ((hheld player).map _).append (hfeed.map _)
  | steps hloop hroom hfeed hheld htakes =>
      rw [htakes, List.append_nil] at htaken
      refine .inr ⟨hloop, hroom, ?_, fun player => ?_⟩
      · rw [Tapped.stream, htaken, hfeed, ← List.append_assoc]
        rfl
      · rw [Process.line, hheld, hfeed, List.map_append, ← List.append_assoc]
        rfl
  | receives snapshot hfeed hheld htakes hroom =>
      rw [htakes] at htaken
      have hstream : t.stream = s.stream := by
        rw [Tapped.stream, Tapped.stream, htaken, hfeed, List.append_assoc]
        rfl
      refine .inl ⟨hstream ▸ .refl _, by rw [hroom], fun other hin _ => ?_, fun player => ?_⟩
      · rw [hstream]
        exact .inr (.inl hin)
      · rw [Process.line, Process.line, hheld, hfeed, List.map_append, List.append_assoc]
        exact .refl _

theorem Taps.phases (htaps : Taps s t) (h : Flow s) (hordered : Ordered s.process) :
    (∀ snapshot ∈ t.process.broadcast.fresh, snapshot ∈ t.taken) ∧
    (∀ matchEnd phase, t.process.broadcast = .finalizing matchEnd phase →
      ∃ snapshot ∈ t.taken, snapshot.status = .finished) ∧
    (t.process.Ended → t.process.roomSnapshots.buffer = [] ∧ t.process.loop = .returned) := by
  obtain ⟨hfresh, hannounced, hended⟩ := htaps.step.advances hordered.closed
  rw [htaps.taken]
  refine ⟨fun snapshot hin => ?_, fun matchEnd phase hfinalizing => ?_, fun hleft => ?_⟩
  · exact (hfresh snapshot hin).elim
      (fun hbefore => List.mem_append_left _ (h.fresh snapshot hbefore)) (List.mem_append_right _)
  · rcases hannounced matchEnd phase hfinalizing with ⟨before, hbefore⟩ | ⟨snapshot, hin, hfinished⟩
    · obtain ⟨snapshot, hin, hfinished⟩ := h.announced matchEnd before hbefore
      exact ⟨snapshot, List.mem_append_left _ hin, hfinished⟩
    · exact ⟨snapshot, List.mem_append_left _ (h.fresh snapshot hin), hfinished⟩
  · obtain ⟨hbuffer, hloop⟩ := (hended hleft).elim h.ended id
    exact htaps.step.drained hbuffer hloop

theorem Flow.step (h : Flow s) (hpiped : Piped s.process) (hordered : Ordered s.process)
    (htaps : Taps s t) : Flow t := by
  obtain ⟨hbarrier, hcanceled⟩ := htaps.step.mono
  have hacknowledged : ∀ player, (t.process.players.get player).startAckOnce = .done →
      player ∈ t.acknowledged := fun player hdone =>
    (htaps.acknowledged player hdone).elim
      (fun hbefore => htaps.mono player (h.acknowledged player hbefore)) id
  have hleft : t.process.loop = .closing ∨ t.process.loop = .returned → t.process.canceled = true ∨
      ∃ snapshot ∈ t.taken ++ t.process.roomSnapshots.buffer, snapshot.status = .finished := by
    intro hloop
    rcases htaps.step.left hloop with hcancel | ⟨snapshot, hin, hfinished⟩ | ⟨hbefore, hbuffer⟩
    · exact .inl hcancel
    · exact .inr ⟨snapshot, List.mem_append_right _ hin, hfinished⟩
    · rw [htaps.taken, List.append_assoc, hbuffer]
      exact (h.left hbefore).imp_left hcanceled
  obtain ⟨hfresh, hannounced, hended⟩ := htaps.phases h hordered
  rcases htaps.lists hpiped.distinct with ⟨hstream, hroom, hkeeps, hline⟩ |
    ⟨hloop, hroom, hstream, hline⟩
  · have htick : t.process.room.tick = s.process.room.tick := congrArg Snapshot.serverTick hroom
    have hstatus : t.process.room.status = s.process.room.status := congrArg Snapshot.status hroom
    refine ⟨h.order.sublist hstream, fun player => (h.line player).sublist (hline player), ?_, ?_, ?_,
      fun hne => ?_, hacknowledged, fun hfinished => ?_, hleft, hfresh, hannounced, hended⟩
    · rw [htick]
      exact fun snapshot hin => h.stream_le snapshot (hstream.subset hin)
    · rw [htick]
      exact fun player tick hin => h.line_le player tick ((hline player).subset hin)
    · rw [hroom]
      exact fun snapshot hin => h.finished snapshot (hstream.subset hin)
    · refine hbarrier (h.started fun hempty => hne ?_)
      rwa [hempty, List.sublist_nil] at hstream
    · rw [hstatus] at hfinished
      rcases h.decided hfinished with hcancel | ⟨snapshot, hin, hended⟩
      · exact .inl (hcanceled hcancel)
      · rcases hkeeps snapshot hin hended with hcancel | hkept | ⟨later, hlater⟩
        · exact .inl hcancel
        · exact .inr ⟨snapshot, hkept, hended⟩
        · exact absurd hended (Precedes.of_sublist h.order hlater).1
  · have hidle : s.process.loop.Idle := by rw [hloop]; trivial
    have hnew : ∀ tick, tick ≤ s.process.room.tick → tick < t.process.room.tick := by
      rw [hroom]
      exact fun tick hle => hpiped.tick_lt hidle hle
    have hunfinished : ∀ snapshot ∈ s.stream, snapshot.status ≠ .finished := by
      intro snapshot hin hfinished
      have hsnapshot := h.finished snapshot hin hfinished
      rw [hsnapshot] at hfinished
      exact hpiped.idle hidle hfinished
    refine ⟨?_, fun player => ?_, ?_, fun player => ?_, ?_, fun _ => ?_, hacknowledged, fun hover => ?_,
      hleft, hfresh, hannounced, hended⟩
    · rw [hstream]
      refine List.pairwise_append.2 ⟨h.order, List.pairwise_singleton _ _, fun first hfirst second
        hsecond => ?_⟩
      rw [List.mem_singleton.1 hsecond]
      exact ⟨hunfinished first hfirst, hnew _ (h.stream_le first hfirst)⟩
    · rw [hline]
      refine List.pairwise_append.2 ⟨h.line player, List.pairwise_singleton _ _, fun first hfirst
        second hsecond => ?_⟩
      rw [List.mem_singleton.1 hsecond]
      exact hnew _ (h.line_le player first hfirst)
    · rw [hstream]
      intro snapshot hin
      rcases List.mem_append.1 hin with hin | hin
      · exact UInt32.le_of_lt (hnew _ (h.stream_le snapshot hin))
      · rw [List.mem_singleton.1 hin]
        exact UInt32.le_refl _
    · rw [hline]
      intro tick hin
      rcases List.mem_append.1 hin with hin | hin
      · exact UInt32.le_of_lt (hnew _ (h.line_le player tick hin))
      · rw [List.mem_singleton.1 hin]
        exact UInt32.le_refl _
    · rw [hstream]
      intro snapshot hin hfinished
      rcases List.mem_append.1 hin with hin | hin
      · exact absurd hfinished (hunfinished snapshot hin)
      · exact List.mem_singleton.1 hin
    · exact hbarrier (hpiped.barrier (by rw [hloop]; trivial))
    · rw [hstream]
      exact .inr ⟨t.process.room.snapshot, List.mem_append_right _ (List.mem_singleton_self _), hover⟩

end

section

variable {s t : Process}

/-! ### Who moves -/

theorem LoopStep.startAckOnce (h : LoopStep s t) : t.players = s.players := by
  cases h <;> rfl

theorem BroadcastStep.startAckOnce (h : BroadcastStep s t) :
    ∀ player, (t.players.get player).startAckOnce = (s.players.get player).startAckOnce := by
  cases h with
  | receive => exact fun _ => rfl
  | ended => exact fun _ => rfl
  | decide => exact fun _ => rfl
  | update => exact fun _ => rfl
  | finalize _ _ _ _ _ hfinalize =>
      cases hfinalize with
      | claim => exact fun _ => rfl
      | skip => exact fun _ => rfl
      | send => exact Match.setPlayer_same PlayerSession.startAckOnce rfl
      | settle => exact fun _ => rfl
  | publish _ _ _ _ _ _ _ hpublish =>
      obtain ⟨_, rfl, -⟩ := Match.publishLatest_cases hpublish
      exact Match.setPlayer_same PlayerSession.startAckOnce rfl
  | close closing _ _ _ hclose =>
      cases closing <;> obtain ⟨_, -, rfl⟩ := Outcome.map_eq_done hclose <;>
        exact Match.setPlayer_same PlayerSession.startAckOnce rfl

theorem CloseStep.startAckOnce {call : Nat} {closer : Side}
    (h : CloseStep s call closer t) :
    ∀ player, (t.players.get player).startAckOnce = (s.players.get player).startAckOnce := by
  cases h with
  | begin => exact Match.setPlayer_same PlayerSession.startAckOnce rfl
  | skip => exact fun _ => rfl
  | disconnect => exact fun _ => rfl
  | finalize _ _ _ _ _ hfinalize =>
      cases hfinalize with
      | claim => exact fun _ => rfl
      | skip => exact fun _ => rfl
      | send => exact Match.setPlayer_same PlayerSession.startAckOnce rfl
      | settle => exact fun _ => rfl
  | abort =>
      obtain ⟨_, _, heq⟩ := s.abort_eq
      rw [heq]
      exact fun _ => rfl
  | leave => exact Match.setPlayer_same PlayerSession.startAckOnce rfl

def Match.Action.OfLoop (action : Match.Action) : Prop :=
  action = .loopDone ∨ action = .loopStart ∨ action = .loopInput ∨ action = .loopTick ∨
    action = .loopNext

/-- The two goroutines take the steps that are theirs, and a session is marked by its own
`AcknowledgeMatchStart`. -/
theorem Process.step_owner (hbarrier : s.startBarrier.buffer = []) {action : Match.Action}
    (h : s.step action = .done t) :
    (action.OfLoop ∨ t.loop = s.loop) ∧
    ((∃ first, action = .broadcastNext first) ∨ t.broadcast = s.broadcast) ∧
    ∀ player, (t.players.get player).startAckOnce = .done →
      (s.players.get player).startAckOnce = .done ∨ action = .acknowledgeMatchStart player := by
  have hloop : action.OfLoop → LoopStep s t → (action.OfLoop ∨ t.loop = s.loop) ∧
      ((∃ first, action = .broadcastNext first) ∨ t.broadcast = s.broadcast) ∧
      ∀ player, (t.players.get player).startAckOnce = .done →
        (s.players.get player).startAckOnce = .done ∨ action = .acknowledgeMatchStart player := by
    intro hown hstep
    refine ⟨.inl hown, .inr ?_, fun player hdone => .inl ?_⟩
    · cases hstep <;> rfl
    · rwa [hstep.startAckOnce] at hdone
  cases action with
  | acknowledgeMatchStart other =>
      obtain ⟨m, hm, rfl⟩ := Outcome.map_eq_done h
      refine ⟨.inr rfl, .inr rfl, fun player hdone => ?_⟩
      rcases Match.acknowledgeMatchStart_done hm with rfl | ⟨-, startBarrier, -, rfl⟩
      · exact .inl hdone
      · by_cases heq : player = other
        · exact .inr (by rw [heq])
        · dsimp only at hdone
          rw [Match.get_setPlayer, if_neg heq] at hdone
          exact .inl hdone
  | submitInput other input =>
      obtain ⟨m, hm, rfl⟩ := Outcome.map_eq_done h
      obtain ⟨_, rfl, -⟩ := Match.submitInput_done hm
      exact ⟨.inr rfl, .inr rfl, fun _ => .inl⟩
  | loopDone => exact hloop (.inl rfl) (loopDone_done h)
  | loopStart => exact hloop (.inr (.inl rfl)) (loopStart_done hbarrier h)
  | loopInput => exact hloop (.inr (.inr (.inl rfl))) (loopInput_done h)
  | loopTick => exact hloop (.inr (.inr (.inr (.inl rfl)))) (loopTick_done h)
  | loopNext => exact hloop (.inr (.inr (.inr (.inr rfl)))) (loopNext_done h)
  | broadcastNext first =>
      have hstep := broadcastNext_done h
      exact ⟨.inr hstep.feed.2.1, .inl ⟨first, rfl⟩,
        fun player hdone => .inl (hstep.startAckOnce player ▸ hdone)⟩
  | close other =>
      cases h
      exact ⟨.inr rfl, .inr rfl, fun _ => .inl⟩
  | closeNext call first =>
      obtain ⟨_, hstep⟩ := closeNext_done h
      refine ⟨.inr ?_, .inr ?_, fun player hdone => .inl (hstep.startAckOnce player ▸ hdone)⟩
      · cases hstep <;> rfl
      · cases hstep <;> rfl
  | receiveSnapshot other =>
      rw [step, receiveSnapshot] at h
      split at h
      · cases h
        exact ⟨.inr rfl, .inr rfl, fun player hdone => .inl
          ((Match.setPlayer_same PlayerSession.startAckOnce (by rfl) player).symm.trans hdone)⟩
      · cases h
  | receiveMatchEnd other =>
      rw [step, receiveMatchEnd] at h
      split at h
      · cases h
        exact ⟨.inr rfl, .inr rfl, fun player hdone => .inl
          ((Match.setPlayer_same PlayerSession.startAckOnce (by rfl) player).symm.trans hdone)⟩
      · cases h
  | report endedAt =>
      rw [step, report] at h
      split at h
      · cases h
      · cases h
        exact ⟨.inr rfl, .inr rfl, fun _ => .inl⟩

/-! ### The last send -/

/-- A call of `publish` goes on or leaves its snapshot in the channel. -/
theorem Piped.publish_keeps (h : Piped s) (hnext : s.loopNext = .done t) :
    ∀ snapshot ∈ s.loop.inFlight,
      snapshot ∈ t.loop.inFlight ∨ snapshot ∈ t.roomSnapshots.buffer := by
  intro snapshot hin
  have hsent : ∀ {roomSnapshots}, s.roomSnapshots.send snapshot = .done roomSnapshots →
      snapshot ∈ roomSnapshots.buffer := by
    intro roomSnapshots hsend
    rw [(Channel.send_eq_done hsend).2.1]
    exact List.mem_append_right _ (List.mem_singleton_self _)
  unfold Process.loopNext at hnext
  cases hloop : s.loop with
  | publishing published =>
      rw [hloop] at hnext hin
      obtain rfl := List.mem_singleton.1 hin
      obtain ⟨⟨sent, roomSnapshots⟩, htry, rfl⟩ := Outcome.map_eq_done hnext
      rcases Channel.trySend_eq_done htry with ⟨-, hsend⟩ | ⟨rfl, -, -⟩
      · exact .inr (hsent hsend)
      · exact .inl hin
  | dropping published =>
      rw [hloop] at hnext hin
      cases hnext
      exact .inl hin
  | resending published =>
      rw [hloop] at hnext hin
      obtain rfl := List.mem_singleton.1 hin
      dsimp only at hnext
      split_ifs at hnext
      · obtain ⟨roomSnapshots, hsend, rfl⟩ := Outcome.map_eq_done hnext
        exact .inr (hsent hsend)
      · obtain ⟨⟨sent, roomSnapshots⟩, htry, rfl⟩ := Outcome.map_eq_done hnext
        rcases Channel.trySend_eq_done htry with ⟨-, hsend⟩ | ⟨-, hblocked, -⟩
        · exact .inr (hsent hsend)
        · -- The channel is empty here, so there is room.
          have hfull := Channel.send_eq_blocked hblocked
          rw [h.resending snapshot hloop, h.capacity] at hfull
          cases hfull
  | waiting => rw [hloop] at hin; cases hin
  | selecting => rw [hloop] at hin; cases hin
  | draining => rw [hloop] at hin; cases hin
  | closing => rw [hloop] at hin; cases hin
  | returned => rw [hloop] at hin; cases hin

/-- Within a call of `publish` only the loop's next statement, or the canceled context, moves it. -/
theorem Process.publish_alone {action : Match.Action} (hown : action.OfLoop)
    (hother : action ≠ .loopNext) (h : s.step action = .done t) (hcall : s.loop.inFlight ≠ []) :
    t.loop = s.loop ∨ action = .loopDone ∧ t.canceled = true := by
  rcases hown with rfl | rfl | rfl | rfl | rfl
  · rw [step, loopDone] at h
    split_ifs at h with hcanceled
    split at h
    · cases h
      exact .inr ⟨rfl, hcanceled⟩
    · cases h
      exact .inr ⟨rfl, hcanceled⟩
    · split_ifs at h
      cases h
      exact .inr ⟨rfl, hcanceled⟩
    · cases h
  · rw [step, loopStart] at h
    split at h
    · rename_i hwaiting
      exact absurd (by rw [hwaiting]; rfl) hcall
    · cases h
  · rw [step, loopInput] at h
    split at h
    · cases h
      exact .inl rfl
    · cases h
      exact .inl rfl
    · cases h
  · rw [step, loopTick] at h
    split at h
    · rename_i hselecting
      exact absurd (by rw [hselecting]; rfl) hcall
    · cases h
  · exact absurd rfl hother

/-- A call of `publishLatest` goes on or leaves its snapshot in the channel. -/
theorem Piped.publishLatest_keeps (h : Piped s) {first : Side}
    (hnext : s.broadcastNext first = .done t) (snapshot : WorldSnapshot) (stage : Publishing)
    (player : Side) (left : List Side)
    (hbroadcast : s.broadcast = .publishing snapshot stage (player :: left)) :
    (∃ stage, t.broadcast = .publishing snapshot stage (player :: left)) ∨
      snapshot ∈ (t.players.get player).snapshots.buffer := by
  unfold Process.broadcastNext at hnext
  rw [hbroadcast] at hnext
  dsimp only at hnext
  obtain ⟨⟨next, m⟩, hpublish, heq⟩ := Outcome.map_eq_done hnext
  obtain ⟨snapshots, rfl, hcases⟩ := Match.publishLatest_cases hpublish
  rcases hcases with ⟨rfl, hsend⟩ | ⟨-, rfl, -⟩ | ⟨-, rfl, -⟩ | ⟨rfl, -, -, hblocked⟩
  · cases heq
    right
    dsimp only
    rw [Match.get_setPlayer, if_pos rfl]
    dsimp only
    rw [(Channel.send_eq_done hsend).2.1]
    exact List.mem_append_right _ (List.mem_singleton_self _)
  · cases heq
    exact .inl ⟨_, rfl⟩
  · cases heq
    exact .inl ⟨_, rfl⟩
  · -- The channel is empty here, so there is room.
    have hfull := Channel.send_eq_blocked hblocked
    rw [h.resendingTo snapshot player left hbroadcast, h.capacities] at hfull
    cases hfull

/-! ### The finished snapshot arrives -/

/-- How many steps the room loop can still take to publish and close. -/
def LoopPhase.work : LoopPhase → Nat
  | .publishing _ => 5
  | .dropping _ => 4
  | .resending _ => 3
  | .closing => 1
  | .waiting | .selecting | .draining | .returned => 0

def Publishing.work : Publishing → Nat
  | .send => 3
  | .drop => 2
  | .resend => 1

/-- How many steps the broadcast goroutine can still take before it receives again. -/
def BroadcastPhase.work : BroadcastPhase → Nat
  | .updating _ => 7
  | .publishing _ stage left => 3 * (left.length - 1) + stage.work
  | _ => 0

/-- What the two goroutines still have to do once the room is finished. -/
def Process.work (s : Process) : Nat :=
  9 * (s.loop.work + s.roomSnapshots.buffer.length) + s.broadcast.work

theorem LoopStep.work_lt (hpiped : Piped s) (hfinished : s.room.status = .finished)
    (h : LoopStep s t) : t.canceled = true ∨ t.work < s.work := by
  have hbusy : ¬ s.loop.Idle := fun hidle => hpiped.idle hidle hfinished
  cases h with
  | quit hcanceled => exact .inl hcanceled
  | start hloop => exact absurd (by rw [hloop]; trivial) hbusy
  | input _ _ hloop => rcases hloop with hloop | hloop <;> exact absurd (by rw [hloop]; trivial) hbusy
  | tick hloop => exact absurd (by rw [hloop]; trivial) hbusy
  | step hloop => exact absurd (by rw [hloop]; trivial) hbusy
  | publish snapshot roomSnapshots hloop hsend =>
      right
      have hbefore : 3 ≤ s.loop.work := by
        rcases hloop with hloop | hloop <;> rw [hloop]
        · exact (by decide : 3 ≤ 5)
        · exact Nat.le_refl 3
      have hafter : (afterPublish snapshot).work ≤ 1 := by
        rcases afterPublish_cases snapshot with ⟨-, heq⟩ | ⟨-, heq⟩ <;> rw [heq] <;> decide
      have hlength : roomSnapshots.buffer.length = s.roomSnapshots.buffer.length + 1 := by
        rw [(Channel.send_eq_done hsend).2.1, List.length_append]
        rfl
      simp only [Process.work]
      omega
  | full snapshot hloop =>
      simp only [Process.work, hloop, LoopPhase.work]
      omega
  | drop snapshot hloop =>
      simp only [Process.work, hloop, LoopPhase.work, Channel.tryDrop_buffer, List.length_tail]
      omega
  | skip snapshot hloop =>
      simp only [Process.work, hloop, LoopPhase.work]
      omega
  | close hloop =>
      simp only [Process.work, hloop, LoopPhase.work]
      omega

theorem BroadcastStep.work_lt (h : BroadcastStep s t) (hended : ¬ t.Ended)
    (hdecided : ∀ matchEnd phase, t.broadcast ≠ .finalizing matchEnd phase)
    (hbefore : ∀ matchEnd phase, s.broadcast ≠ .finalizing matchEnd phase) : t.work < s.work := by
  cases h with
  | receive snapshot roomSnapshots hbroadcast hreceive =>
      obtain ⟨hbuffer, -⟩ := Channel.receive_some hreceive
      simp only [Process.work, hbroadcast, BroadcastPhase.work, hbuffer, List.length_cons]
      omega
  | ended => exact absurd (.inl ⟨_, rfl⟩) hended
  | decide => exact absurd rfl (hdecided _ _)
  | update snapshot first hbroadcast =>
      simp only [Process.work, hbroadcast, BroadcastPhase.work, Publishing.work, List.length_cons,
        List.length_nil]
      omega
  | finalize _ _ _ _ hbroadcast => exact absurd hbroadcast (hbefore _ _)
  | publish snapshot stage writer left next _ hbroadcast hpublish =>
      obtain ⟨snapshots, rfl, hcases⟩ := Match.publishLatest_cases hpublish
      have hpos : 1 ≤ stage.work := by cases stage <;> decide
      have hrest : (publishTo snapshot left).work ≤ 3 * left.length := by
        cases left with
        | nil => exact Nat.zero_le _
        | cons player left =>
            simp only [publishTo, BroadcastPhase.work, Publishing.work, List.length_cons]
            omega
      have hwork : s.broadcast.work = 3 * left.length + stage.work := by
        rw [hbroadcast]
        rfl
      refine Nat.add_lt_add_left ?_ _
      rw [hwork]
      rcases hcases with ⟨rfl, -⟩ | ⟨rfl, rfl, -⟩ | ⟨rfl, rfl, -⟩ | ⟨-, rfl, -⟩
      · change (publishTo snapshot left).work < _
        omega
      · exact Nat.lt_succ_self (3 * left.length + 2)
      · exact Nat.lt_succ_self (3 * left.length + 1)
      · change (publishTo snapshot left).work < _
        omega
  | close _ left =>
      refine absurd ?_ hended
      cases left with
      | nil => exact .inr rfl
      | cons closing left => exact .inl ⟨_, rfl⟩

end

section

variable {s t : Tapped}

/-- The room is finished, the match is not canceled, and the broadcast goroutine has not received the
finished snapshot yet. -/
structure Tapped.Awaits (s : Tapped) : Prop where
  finished : s.process.room.status = .finished
  alive : s.process.canceled = false
  waiting : ∀ snapshot ∈ s.taken, snapshot.status ≠ .finished

structure Kept (s : Tapped) : Prop where
  safe : s.process.Safe
  piped : Piped s.process
  flow : Flow s

theorem Tapped.Awaits.phases (h : s.Awaits) (hflow : Flow s) : ¬ s.process.Ended ∧
    ∀ matchEnd phase, s.process.broadcast ≠ .finalizing matchEnd phase := by
  refine ⟨fun hended => ?_, fun matchEnd phase hfinalizing => ?_⟩
  · obtain ⟨hbuffer, hloop⟩ := hflow.ended hended
    rcases hflow.left (.inr hloop) with hcanceled | ⟨snapshot, hin, hfinished⟩
    · rw [h.alive] at hcanceled
      cases hcanceled
    · rw [hbuffer, List.append_nil] at hin
      exact h.waiting snapshot hin hfinished
  · obtain ⟨snapshot, hin, hfinished⟩ := hflow.announced matchEnd phase hfinalizing
    exact h.waiting snapshot hin hfinished

theorem Process.next_of_done {s t : Process} {action : Match.Action} (hsafe : s.Safe)
    (h : s.step action = .done t) : s.next action = some t := by
  rw [next, hsafe.alive, h]
  rfl

theorem Process.Safe.isSome_next {s : Process} (hsafe : s.Safe) {action : Match.Action}
    (h : s.step action ≠ .blocked) : (s.next action).isSome := by
  cases hstep : s.step action with
  | done t =>
      rw [Process.next_of_done hsafe hstep]
      rfl
  | blocked => exact absurd hstep h
  | panicked => exact absurd hstep (hsafe.step_ne_panicked action)

theorem map_ne_blocked {σ τ : Type} {f : σ → τ} {outcome : Outcome σ} (h : outcome ≠ .blocked) :
    outcome.map f ≠ .blocked := by
  cases outcome with
  | done _ => exact fun heq => by cases heq
  | blocked => exact absurd rfl h
  | panicked => exact fun heq => by cases heq

/-- While the finished snapshot is awaited, one of the two goroutines can take a step. -/
theorem Tapped.Awaits.enabled (h : s.Awaits) (hkept : Kept s) :
    (s.process.next .loopNext).isSome ∨ (s.process.next (.broadcastNext .a)).isSome := by
  obtain ⟨hended, hfinalizing⟩ := h.phases hkept.flow
  obtain ⟨snapshot, hin, hfinished⟩ := (hkept.flow.decided h.finished).resolve_left fun hcanceled => by
    rw [h.alive] at hcanceled
    cases hcanceled
  rw [Tapped.stream, Process.feed, List.mem_append, List.mem_append] at hin
  rcases hin with hin | hin | hin
  · exact absurd hfinished (h.waiting snapshot hin)
  · refine .inr (hkept.safe.isSome_next fun hblocked => ?_)
    change s.process.broadcastNext .a = .blocked at hblocked
    unfold Process.broadcastNext at hblocked
    cases hbroadcast : s.process.broadcast with
    | receiving =>
        rw [hbroadcast] at hblocked
        revert hblocked
        refine map_ne_blocked fun hblocked => ?_
        unfold Channel.receive at hblocked
        split at hblocked
        · cases hblocked
        · rename_i hempty
          rw [hempty] at hin
          cases hin
    | updating _ =>
        rw [hbroadcast] at hblocked
        cases hblocked
    | finalizing matchEnd phase => exact absurd hbroadcast (hfinalizing matchEnd phase)
    | publishing published stage left =>
        rw [hbroadcast] at hblocked
        cases left with
        | nil =>
            have hdistinct := hkept.piped.distinct
            rw [hbroadcast] at hdistinct
            exact hdistinct.1 rfl
        | cons player left =>
            revert hblocked
            refine map_ne_blocked fun hblocked => ?_
            obtain ⟨result, hdone⟩ := hkept.safe.publishLatest hbroadcast
            rw [hdone] at hblocked
            cases hblocked
    | closing left => exact hended (.inl ⟨left, hbroadcast⟩)
    | returned => exact hended (.inr hbroadcast)
  · refine .inl (hkept.safe.isSome_next fun hblocked => ?_)
    change s.process.loopNext = .blocked at hblocked
    unfold Process.loopNext at hblocked
    cases hloop : s.process.loop with
    | publishing published =>
        rw [hloop] at hblocked
        exact map_ne_blocked (Channel.trySend_ne_blocked _ _) hblocked
    | dropping published =>
        rw [hloop] at hblocked
        cases hblocked
    | resending published =>
        rw [hloop] at hblocked
        dsimp only at hblocked
        split_ifs at hblocked
        · revert hblocked
          refine map_ne_blocked fun hblocked => ?_
          have hfull := Channel.send_eq_blocked hblocked
          rw [hkept.piped.resending published hloop, hkept.piped.capacity] at hfull
          cases hfull
        · exact map_ne_blocked (Channel.trySend_ne_blocked _ _) hblocked
    | waiting => rw [hloop] at hin; cases hin
    | selecting => rw [hloop] at hin; cases hin
    | draining => rw [hloop] at hin; cases hin
    | closing => rw [hloop] at hin; cases hin
    | returned => rw [hloop] at hin; cases hin

/-- While it is awaited, no step adds to the work of the two goroutines, and theirs do some of it. -/
theorem Tapped.Awaits.work (h : s.Awaits) (hkept : Kept s) (ht : t.Awaits) (hflow : Flow t)
    (hstep : Step s.process t.process) : t.process.work ≤ s.process.work ∧
      (LoopStep s.process t.process ∨ BroadcastStep s.process t.process →
        t.process.work < s.process.work) := by
  have hloop : LoopStep s.process t.process → t.process.work < s.process.work := fun hloop =>
    (hloop.work_lt hkept.piped h.finished).resolve_left fun hcanceled => by
      rw [ht.alive] at hcanceled
      cases hcanceled
  have hbroadcast : BroadcastStep s.process t.process → t.process.work < s.process.work :=
    fun hbroadcast => hbroadcast.work_lt (ht.phases hflow).1 (ht.phases hflow).2
      (h.phases hkept.flow).2
  refine ⟨?_, fun hown => hown.elim hloop hbroadcast⟩
  rcases hstep.flow with hidle | hown | hown | ⟨_, _, _, -, -, heq⟩
  · rw [Process.work, hidle.loop, hidle.roomSnapshots, hidle.broadcast]
    exact Nat.le_refl _
  · exact (hloop hown).le
  · exact (hbroadcast hown).le
  · rw [heq]
    exact Nat.le_refl _

/-! ### Every interleaving -/

theorem Kept.next (h : Kept s) {action : Match.Action} (hnext : s.next action = some t) :
    Kept t ∧ Taps s t := by
  obtain ⟨process, hprocess, heq⟩ := Option.map_eq_some_iff.1 hnext
  obtain ⟨-, hdone | ⟨hpanicked, -⟩⟩ := Process.next_cases hprocess
  · have hstep := Process.step_done h.safe.wired.barrier hdone
    have htaps : Taps s t := by
      subst heq
      refine ⟨hstep, rfl, fun player hin => ?_, fun player hmark => ?_⟩
      · cases action <;> first | exact hin | exact List.mem_append_left _ hin
      · rcases (Process.step_owner h.safe.wired.barrier hdone).2.2 player hmark with hbefore | rfl
        · exact .inl hbefore
        · exact .inr (List.mem_append_right _ (List.mem_singleton_self _))
    rw [← heq] at htaps ⊢
    exact ⟨⟨h.safe.next hprocess, h.piped.step hstep, h.flow.step h.piped h.safe.ordered htaps⟩, htaps⟩
  · exact absurd hpanicked (h.safe.step_ne_panicked action)

theorem Kept.run (h : Kept s) {actions : List Match.Action}
    (hrun : Transition.run Tapped.next s actions = some t) : Kept t :=
  Transition.run_invariant (fun _ _ _ h hnext => (h.next hnext).1) hrun h

theorem tap_kept {matchID playerA playerB : String} {reporter : Bool} {s : Process}
    (h : startMatch matchID playerA playerB reporter = .ok s) : Kept (tap s) := by
  obtain ⟨duel, hduel, rfl⟩ := startMatch_ok h
  have hline : ∀ player, (initialProcess matchID playerA playerB reporter duel).line player = [] := by
    intro player
    cases player <;> rfl
  obtain ⟨-, -, -, haccepted, rfl⟩ := Simulation.newWithRuleset_ok hduel
  refine ⟨initialProcess_safe _ _ _ _ _, ?_, ?_⟩
  · refine ⟨⟨0, Simulation.Room.initialRoom_timeline playerA playerB haccepted ?_⟩, rfl,
      fun player => ?_, trivial, fun _ heq => (by cases heq), fun _ _ _ heq => (by cases heq),
      fun _ hin => (by cases hin), fun _ heq => (by cases heq), False.elim⟩
    · exact (by decide : Simulation.countdownTicks.toNat + Simulation.matchDurationTicks.toNat < 2 ^ 32)
    · cases player <;> rfl
  · refine ⟨.nil, fun player => ?_, fun _ hin => (by cases hin), fun player tick hin => ?_,
      fun _ hin => (by cases hin), fun hne => absurd rfl hne, fun player hdone => ?_,
      fun heq => (by cases heq), ?_, fun _ hin => (by cases hin), fun _ _ heq => (by cases heq), ?_⟩
    · exact (hline player).symm ▸ List.Pairwise.nil
    · rw [tap, hline] at hin
      cases hin
    · cases player <;> cases hdone
    · rintro (heq | heq) <;> cases heq
    · rintro (⟨_, heq⟩ | heq) <;> cases heq

/-- The broadcast goroutine has received the room's finished snapshot, once and after all others. -/
def Tapped.Finishes (s : Tapped) : Prop :=
  s.process.room.status = .finished ∧ ∃ earlier, s.taken = earlier ++ [s.process.room.snapshot] ∧
    ∀ snapshot ∈ earlier, snapshot.status ≠ .finished

theorem Flow.finishes (h : Flow s) {snapshot : Snapshot} (hin : snapshot ∈ s.taken)
    (hfinished : snapshot.status = .finished) : s.Finishes := by
  have hroom := h.finished snapshot (List.mem_append_left _ hin) hfinished
  obtain ⟨earlier, later, htaken⟩ := List.append_of_mem hin
  have horder : s.taken.Pairwise Precedes := (List.pairwise_append.1 h.order).1
  rw [htaken, List.pairwise_append] at horder
  obtain ⟨-, hlater, hearlier⟩ := horder
  cases later with
  | nil =>
      rw [hroom] at htaken
      refine ⟨?_, earlier, htaken, fun other hother => ?_⟩
      · rw [hroom] at hfinished
        exact hfinished
      · exact (hearlier other hother snapshot (List.mem_singleton_self _)).1
  | cons next later =>
      exact absurd hfinished ((List.pairwise_cons.1 hlater).1 next (List.mem_cons_self ..)).1

/-- A step keeps it awaited and does not add to the work, unless it ends the wait. -/
theorem Tapped.Awaits.next (h : s.Awaits) (hkept : Kept s) {action : Match.Action}
    (hnext : s.next action = some t) : t.process.canceled = true ∨ t.Finishes ∨
      t.Awaits ∧ t.process.work ≤ s.process.work ∧
        ((action = .loopNext ∨ ∃ first, action = .broadcastNext first) →
          t.process.work < s.process.work) := by
  obtain ⟨hkept', htaps⟩ := hkept.next hnext
  by_cases hcanceled : t.process.canceled = true
  · exact .inl hcanceled
  by_cases hreceived : ∃ snapshot ∈ t.taken, snapshot.status = .finished
  · obtain ⟨snapshot, hin, hfinished⟩ := hreceived
    exact .inr (.inl (hkept'.flow.finishes hin hfinished))
  push Not at hreceived
  have hstatus : t.process.room.status = .finished := by
    rcases htaps.lists hkept.piped.distinct with ⟨-, hroom, -⟩ | ⟨hloop, -⟩
    · exact (congrArg Snapshot.status hroom).trans h.finished
    · exact absurd h.finished (hkept.piped.idle (by rw [hloop]; trivial))
  have ht : t.Awaits := ⟨hstatus, Bool.eq_false_iff.2 hcanceled, hreceived⟩
  obtain ⟨hle, hlt⟩ := h.work hkept ht hkept'.flow htaps.step
  refine .inr (.inr ⟨ht, hle, fun hown => hlt ?_⟩)
  obtain ⟨process, hprocess, rfl⟩ := Option.map_eq_some_iff.1 hnext
  obtain ⟨-, hdone | ⟨hpanicked, -⟩⟩ := Process.next_cases hprocess
  · rcases hown with rfl | ⟨first, rfl⟩
    · exact .inl (Process.loopNext_done hdone)
    · exact .inr (Process.broadcastNext_done hdone)
  · exact absurd hpanicked (hkept.safe.step_ne_panicked action)

/-- A step within a call of `publish` or `publishLatest` goes on with it, is canceled, or leaves the
call's snapshot in the channel. -/
theorem Kept.publishes (h : Kept s) {action : Match.Action} (hnext : s.next action = some t) :
    (∀ snapshot ∈ s.process.loop.inFlight, snapshot ∈ t.process.loop.inFlight ∨
      snapshot ∈ t.process.roomSnapshots.buffer ∨ action = .loopDone ∧ t.process.canceled = true) ∧
    ∀ snapshot stage player left,
      s.process.broadcast = .publishing snapshot stage (player :: left) →
        (∃ stage, t.process.broadcast = .publishing snapshot stage (player :: left)) ∨
          snapshot ∈ (t.process.players.get player).snapshots.buffer := by
  obtain ⟨process, hprocess, rfl⟩ := Option.map_eq_some_iff.1 hnext
  obtain ⟨-, hdone | ⟨hpanicked, -⟩⟩ := Process.next_cases hprocess
  · obtain ⟨hloop, hbroadcast, -⟩ := Process.step_owner h.safe.wired.barrier hdone
    refine ⟨fun snapshot hin => ?_, fun snapshot stage player left hcall => ?_⟩
    · by_cases hown : action = .loopNext
      · subst hown
        exact (h.piped.publish_keeps hdone snapshot hin).imp_right .inl
      · have hkeeps : process.loop = s.process.loop ∨ action = .loopDone ∧ process.canceled = true :=
          hloop.elim (fun hof => Process.publish_alone hof hown hdone (List.ne_nil_of_mem hin)) .inl
        rcases hkeeps with hsame | hcanceled
        · exact .inl (hsame ▸ hin)
        · exact .inr (.inr hcanceled)
    · rcases hbroadcast with ⟨first, rfl⟩ | hsame
      · exact h.piped.publishLatest_keeps hdone snapshot stage player left hcall
      · exact .inl ⟨stage, hsame.trans hcall⟩
  · exact absurd hpanicked (h.safe.step_ne_panicked action)

/-- In every interleaving of a match: nothing is published before both sessions have acknowledged the
start; every consumer receives snapshots with strictly increasing ticks; a call of `publish` or
`publishLatest` ends with its snapshot in the channel, unless the cancellation ends it; a finished snapshot the
broadcast goroutine receives is the room's, received once and last; it has received one, unless the
match is canceled, when it leaves its loop; and until then one of the two goroutines can take a step,
and can do so only so often. -/
theorem newest_kept {matchID playerA playerB : String} {reporter : Bool} {s₀ : Process}
    {actions : List Match.Action} (hstart : startMatch matchID playerA playerB reporter = .ok s₀)
    (hrun : Transition.run Tapped.next (tap s₀) actions = some s) :
    (s.stream ≠ [] → ∀ player, player ∈ s.acknowledged) ∧
    (∀ player, ((s.process.received.get player).snapshots.map
      WorldSnapshot.serverTick).Pairwise (· < ·)) ∧
    (∀ action t, s.next action = some t →
      (∀ snapshot ∈ s.process.loop.inFlight, snapshot ∈ t.process.loop.inFlight ∨
        snapshot ∈ t.process.roomSnapshots.buffer ∨ action = .loopDone ∧ t.process.canceled = true) ∧
      ∀ snapshot stage player left,
        s.process.broadcast = .publishing snapshot stage (player :: left) →
          (∃ stage, t.process.broadcast = .publishing snapshot stage (player :: left)) ∨
            snapshot ∈ (t.process.players.get player).snapshots.buffer) ∧
    (∀ snapshot ∈ s.taken, snapshot.status = .finished → s.Finishes) ∧
    (s.process.Ended → s.process.canceled = true ∨ s.Finishes) ∧
    (s.Awaits → ((s.process.next .loopNext).isSome ∨ (s.process.next (.broadcastNext .a)).isSome) ∧
      ∀ action t, s.next action = some t → t.process.canceled = true ∨ t.Finishes ∨
        t.Awaits ∧ t.process.work ≤ s.process.work ∧
          ((action = .loopNext ∨ ∃ first, action = .broadcastNext first) →
            t.process.work < s.process.work)) := by
  have hkept : Kept s := (tap_kept hstart).run hrun
  refine ⟨fun hne player => ?_, fun player => ?_, fun action t => hkept.publishes,
    fun snapshot => hkept.flow.finishes, fun hended => ?_,
    fun hawaits => ⟨hawaits.enabled hkept, fun action t => hawaits.next hkept⟩⟩
  · -- The closed barrier has counted two sessions, and each counts once.
    have hcount := hkept.safe.wired.started (hkept.flow.started hne)
    rw [hkept.safe.wired.count, Match.acks] at hcount
    refine hkept.flow.acknowledged player ?_
    cases player with
    | a =>
        change s.process.players.a.startAckOnce = .done
        by_contra hopen
        rw [if_neg hopen] at hcount
        split_ifs at hcount <;> omega
    | b =>
        change s.process.players.b.startAckOnce = .done
        by_contra hopen
        rw [if_neg hopen] at hcount
        split_ifs at hcount <;> omega
  · have hline := hkept.flow.line player
    rw [Process.line, Process.held, List.map_append, List.map_append, List.append_assoc,
      List.append_assoc] at hline
    exact (List.pairwise_append.1 hline).1
  · obtain ⟨hbuffer, hloop⟩ := hkept.flow.ended hended
    refine (hkept.flow.left (.inr hloop)).imp_right fun hreceived => ?_
    obtain ⟨snapshot, hin, hfinished⟩ := hreceived
    rw [hbuffer, List.append_nil] at hin
    exact hkept.flow.finishes hin hfinished

end

/-- Both sessions acknowledge, one of them twice, and a snapshot reaches Alice's channel and Alice. -/
def publishActions : List Match.Action :=
  [.acknowledgeMatchStart .b, .acknowledgeMatchStart .b, .acknowledgeMatchStart .a, .loopStart,
    .loopTick, .loopNext, .loopNext, .broadcastNext .a, .broadcastNext .a, .broadcastNext .a,
    .receiveSnapshot .a]

theorem newest_kept_published : ∃ s₀ s, startMatch "match-1" "alice" "bob" true = .ok s₀ ∧
    Transition.run Tapped.next (tap s₀) publishActions = some s ∧
      ∀ player, player ∈ s.acknowledged := by
  obtain ⟨s₀, hstart, hpublished⟩ : ∃ s₀, startMatch "match-1" "alice" "bob" true = .ok s₀ ∧
      (Transition.run Tapped.next (tap s₀) publishActions).map (fun s => s.stream.length) =
        some 1 := by
    refine ⟨_, startMatch_of_players "match-1" (by decide) (by decide) (by decide) true, ?_⟩
    decide +kernel
  obtain ⟨s, hrun, hlength⟩ := Option.map_eq_some_iff.1 hpublished
  refine ⟨s₀, s, hstart, hrun, (newest_kept hstart hrun).1 fun hempty => ?_⟩
  rw [hempty] at hlength
  cases hlength

end PvpDuel.MatchServer
