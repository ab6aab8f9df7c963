import PvpDuel.MatchServer.Outcomes
import PvpDuel.Room.Actions

/-!
# Where the snapshots of a match come from

The calls the room loop makes on the room and the inputs they take, and every place between the room
and the consumers of the sessions that holds a snapshot. No step makes up a snapshot: whatever is held
after it was held before, or is that of the room the step has just stepped.
-/

namespace PvpDuel.MatchServer

open Simulation (Event Snapshot)
open Gamev1 (MatchEnd PlayerState WorldSnapshot)

variable {s t : Process}

/-! ### The calls on the room -/

def Process.roomCall (s : Process) : Match.Action → Option Event
  | .loopInput =>
      match s.loop, s.inputs.receive with
      | .selecting, .done (some queued, _) | .draining, .done (some queued, _) =>
          some (.submitInput queued.playerID queued.input)
      | _, _ => none
  | .loopNext => if s.loop = .draining ∧ s.inputs.buffer = [] then some .step else none
  | _ => none

/-- What a step does to the room and to the inputs that wait for it. -/
inductive RoomStep (s t : Process) (action : Match.Action) : Prop
  | idle : s.roomCall action = none → t.room = s.room → t.inputs = s.inputs → RoomStep s t action
  | submit (player : Side) (input : Gamev1.PlayerInput) : action = .submitInput player input →
      t.room = s.room →
      (t.inputs.buffer = s.inputs.buffer ++ [⟨(s.players.get player).playerID, inputFromProto input⟩] ∨
        t.inputs = s.inputs) → RoomStep s t action
  | input (queued : QueuedInput) :
      s.roomCall action = some (.submitInput queued.playerID queued.input) →
      s.inputs.buffer = queued :: t.inputs.buffer →
      t.room = (s.room.submitInput queued.playerID queued.input).1 → RoomStep s t action
  | step : s.roomCall action = some .step → s.loop = .draining → t.room = s.room.step →
      t.inputs = s.inputs → RoomStep s t action

theorem RoomStep.id_eq {action : Match.Action} (h : RoomStep s t action) (side : Side) :
    (t.room.seats.get side).player.id = (s.room.seats.get side).player.id := by
  cases h with
  | idle _ hroom => rw [hroom]
  | submit _ _ _ hroom => rw [hroom]
  | input queued _ _ hroom => rw [hroom, Simulation.Room.submitInput_id]
  | step _ _ hroom => rw [hroom, Simulation.Room.step_id]

namespace Process

theorem loopDone_shared (h : s.loopDone = .done t) : t.room = s.room ∧ t.inputs = s.inputs := by
  unfold loopDone at h
  split_ifs at h
  split at h
  · cases h
    exact ⟨rfl, rfl⟩
  · cases h
    exact ⟨rfl, rfl⟩
  · split_ifs at h
    cases h
    exact ⟨rfl, rfl⟩
  · cases h

theorem loopNext_roomStep (h : s.loopNext = .done t) : RoomStep s t .loopNext := by
  have hidle : s.loop ≠ .draining → t.room = s.room → t.inputs = s.inputs →
      RoomStep s t .loopNext :=
    fun hloop => .idle (if_neg fun hdraining => hloop hdraining.1)
  unfold loopNext at h
  cases hloop : s.loop with
  | draining =>
      rw [hloop] at h
      dsimp only at h
      split_ifs at h with hinputs
      cases h
      exact .step (if_pos ⟨hloop, hinputs⟩) hloop rfl rfl
  | publishing snapshot =>
      rw [hloop] at h
      obtain ⟨_, -, rfl⟩ := Outcome.map_eq_done h
      exact hidle (by rw [hloop]; exact LoopPhase.noConfusion) rfl rfl
  | dropping snapshot =>
      rw [hloop] at h
      cases h
      exact hidle (by rw [hloop]; exact LoopPhase.noConfusion) rfl rfl
  | resending snapshot =>
      rw [hloop] at h
      dsimp only at h
      split_ifs at h
      · obtain ⟨_, -, rfl⟩ := Outcome.map_eq_done h
        exact hidle (by rw [hloop]; exact LoopPhase.noConfusion) rfl rfl
      · obtain ⟨_, -, rfl⟩ := Outcome.map_eq_done h
        exact hidle (by rw [hloop]; exact LoopPhase.noConfusion) rfl rfl
  | closing =>
      rw [hloop] at h
      obtain ⟨_, -, rfl⟩ := Outcome.map_eq_done h
      exact hidle (by rw [hloop]; exact LoopPhase.noConfusion) rfl rfl
  | waiting => rw [hloop] at h; cases h
  | selecting => rw [hloop] at h; cases h
  | returned => rw [hloop] at h; cases h

theorem loopInput_roomStep (h : s.loopInput = .done t) : RoomStep s t .loopInput := by
  unfold loopInput at h
  split at h
  · rename_i queued inputs hloop hreceive
    cases h
    exact .input queued (by rw [roomCall, hloop, hreceive]) (Channel.receive_some hreceive).1 rfl
  · rename_i queued inputs hloop hreceive
    cases h
    exact .input queued (by rw [roomCall, hloop, hreceive]) (Channel.receive_some hreceive).1 rfl
  · cases h

theorem step_roomStep {action : Match.Action} (h : s.step action = .done t) : RoomStep s t action := by
  cases action with
  | acknowledgeMatchStart player =>
      obtain ⟨m, hm, rfl⟩ := Outcome.map_eq_done h
      rcases Match.acknowledgeMatchStart_done hm with rfl | ⟨-, _, -, rfl⟩ <;> exact .idle rfl rfl rfl
  | submitInput player input =>
      obtain ⟨m, hm, rfl⟩ := Outcome.map_eq_done h
      obtain ⟨inputs, rfl, hsend | rfl⟩ := Match.submitInput_done hm
      · exact .submit player input rfl rfl (.inl (Channel.send_eq_done hsend).2.1)
      · exact .submit player input rfl rfl (.inr rfl)
  | loopDone => exact .idle rfl (loopDone_shared h).1 (loopDone_shared h).2
  | loopStart =>
      rw [step, loopStart] at h
      split at h
      · obtain ⟨_, -, rfl⟩ := Outcome.map_eq_done h
        exact .idle rfl rfl rfl
      · cases h
  | loopInput => exact loopInput_roomStep h
  | loopTick =>
      rw [step, loopTick] at h
      split at h
      · cases h
        exact .idle rfl rfl rfl
      · cases h
  | loopNext => exact loopNext_roomStep h
  | broadcastNext first =>
      have hshared := (broadcastNext_done h).shared
      exact .idle rfl hshared.1 hshared.2
  | close player =>
      cases h
      exact .idle rfl rfl rfl
  | closeNext call first =>
      obtain ⟨player, hstep⟩ := closeNext_done h
      exact .idle rfl hstep.shared.1 hstep.shared.2.1
  | receiveSnapshot player =>
      rw [step, receiveSnapshot] at h
      split at h
      · cases h
        exact .idle rfl rfl rfl
      · cases h
  | receiveMatchEnd player =>
      rw [step, receiveMatchEnd] at h
      split at h
      · cases h
        exact .idle rfl rfl rfl
      · cases h
  | report endedAt =>
      rw [step, report] at h
      split at h
      · cases h
      · cases h
        exact .idle rfl rfl rfl

end Process

/-! ### The places of a snapshot -/

namespace Process

/-- A snapshot with these players is between the room and the sessions. -/
inductive InPipeline (s : Process) : List PlayerState → Prop
  | loop (snapshot : Snapshot) : s.loop = .publishing snapshot ∨ s.loop = .dropping snapshot ∨
      s.loop = .resending snapshot → InPipeline s (snapshotToProto snapshot).players
  | buffered (snapshot : Snapshot) : snapshot ∈ s.roomSnapshots.buffer →
      InPipeline s (snapshotToProto snapshot).players
  | updating (snapshot : Snapshot) : s.broadcast = .updating snapshot →
      InPipeline s (snapshotToProto snapshot).players
  | publishing (snapshot : WorldSnapshot) (stage : Publishing) (left : List Side) :
      s.broadcast = .publishing snapshot stage left → InPipeline s snapshot.players
  | last : InPipeline s s.lastSnapshot.players

/-- The snapshots the consumer of a session has received and those that wait for it. -/
def shown (s : Process) (player : Side) : List WorldSnapshot :=
  (s.received.get player).snapshots ++ (s.players.get player).snapshots.buffer

/-- A snapshot with these players is somewhere in the match. -/
inductive Carries (s : Process) : List PlayerState → Prop
  | pipeline {players : List PlayerState} : s.InPipeline players → Carries s players
  | shown (player : Side) (snapshot : WorldSnapshot) : snapshot ∈ s.shown player →
      Carries s snapshot.players
  | outcome (caller : Caller) (matchEnd : MatchEnd) (phase : Finalizing) :
      s.outcome caller = some (matchEnd, phase) → Carries s matchEnd.finalSnapshot.players
  | sent (player : Side) (matchEnd : MatchEnd) : matchEnd ∈ s.sent player →
      Carries s matchEnd.finalSnapshot.players
  | start (player : Side) : Carries s (s.players.get player).matchStart.initialSnapshot.players

/-- A snapshot with this tick and these players is between the room and the sessions. -/
inductive Passes (s : Process) : UInt32 → List PlayerState → Prop
  | loop (snapshot : Snapshot) : s.loop = .publishing snapshot ∨ s.loop = .dropping snapshot ∨
      s.loop = .resending snapshot →
      Passes s snapshot.serverTick (snapshotToProto snapshot).players
  | buffered (snapshot : Snapshot) : snapshot ∈ s.roomSnapshots.buffer →
      Passes s snapshot.serverTick (snapshotToProto snapshot).players
  | updating (snapshot : Snapshot) : s.broadcast = .updating snapshot →
      Passes s snapshot.serverTick (snapshotToProto snapshot).players
  | publishing (snapshot : WorldSnapshot) (stage : Publishing) (left : List Side) :
      s.broadcast = .publishing snapshot stage left → Passes s snapshot.serverTick snapshot.players
  | last : Passes s s.lastSnapshot.serverTick s.lastSnapshot.players

/-- A snapshot with this tick and these players is somewhere in the match. -/
inductive Holds (s : Process) : UInt32 → List PlayerState → Prop
  | pipeline {tick : UInt32} {players : List PlayerState} : s.Passes tick players →
      Holds s tick players
  | shown (player : Side) (snapshot : WorldSnapshot) : snapshot ∈ s.shown player →
      Holds s snapshot.serverTick snapshot.players
  | outcome (caller : Caller) (matchEnd : MatchEnd) (phase : Finalizing) :
      s.outcome caller = some (matchEnd, phase) →
      Holds s matchEnd.finalSnapshot.serverTick matchEnd.finalSnapshot.players
  | sent (player : Side) (matchEnd : MatchEnd) : matchEnd ∈ s.sent player →
      Holds s matchEnd.finalSnapshot.serverTick matchEnd.finalSnapshot.players
  | start (player : Side) : Holds s (s.players.get player).matchStart.initialSnapshot.serverTick
      (s.players.get player).matchStart.initialSnapshot.players

theorem Passes.inPipeline {tick : UInt32} {players : List PlayerState} (h : s.Passes tick players) :
    s.InPipeline players := by
  cases h with
  | loop snapshot hphase => exact .loop snapshot hphase
  | buffered snapshot hbuffer => exact .buffered snapshot hbuffer
  | updating snapshot hphase => exact .updating snapshot hphase
  | publishing snapshot stage left hphase => exact .publishing snapshot stage left hphase
  | last => exact .last

theorem InPipeline.passes {players : List PlayerState} (h : s.InPipeline players) :
    ∃ tick, s.Passes tick players := by
  cases h with
  | loop snapshot hphase => exact ⟨_, .loop snapshot hphase⟩
  | buffered snapshot hbuffer => exact ⟨_, .buffered snapshot hbuffer⟩
  | updating snapshot hphase => exact ⟨_, .updating snapshot hphase⟩
  | publishing snapshot stage left hphase => exact ⟨_, .publishing snapshot stage left hphase⟩
  | last => exact ⟨_, .last⟩

theorem carries_iff {players : List PlayerState} :
    s.Carries players ↔ ∃ tick, s.Holds tick players := by
  constructor
  · intro hcarries
    cases hcarries with
    | pipeline hin =>
        obtain ⟨tick, hpasses⟩ := hin.passes
        exact ⟨tick, .pipeline hpasses⟩
    | shown player snapshot hin => exact ⟨_, .shown player snapshot hin⟩
    | outcome caller matchEnd phase houtcome => exact ⟨_, .outcome caller matchEnd phase houtcome⟩
    | sent player matchEnd hin => exact ⟨_, .sent player matchEnd hin⟩
    | start player => exact ⟨_, .start player⟩
  · rintro ⟨tick, hholds⟩
    cases hholds with
    | pipeline hpasses => exact .pipeline hpasses.inPipeline
    | shown player snapshot hin => exact .shown player snapshot hin
    | outcome caller matchEnd phase houtcome => exact .outcome caller matchEnd phase houtcome
    | sent player matchEnd hin => exact .sent player matchEnd hin
    | start player => exact .start player

/-- The players of the snapshot the loop is about to publish after a step of the room. -/
def Fresh (s t : Process) (players : List PlayerState) : Prop :=
  s.loop = .draining ∧ t.room = s.room.step ∧
    players = (snapshotToProto s.room.step.snapshot).players

end Process

section Pipeline

variable {tick : UInt32} {players : List PlayerState}

theorem SamePipeline.passes (h : SamePipeline s t) (hin : t.Passes tick players) :
    s.Passes tick players := by
  obtain ⟨hloop, hsnapshots, hbroadcast, hlast⟩ := h
  cases hin with
  | loop snapshot hphase => exact .loop snapshot (hloop ▸ hphase)
  | buffered snapshot hbuffer => exact .buffered snapshot (hsnapshots ▸ hbuffer)
  | updating snapshot hphase => exact .updating snapshot (hbroadcast ▸ hphase)
  | publishing snapshot stage left hphase => exact .publishing snapshot stage left (hbroadcast ▸ hphase)
  | last => exact hlast ▸ .last

theorem LoopStep.passes (h : LoopStep s t) (hin : t.Passes tick players) :
    s.Passes tick players ∨ tick = t.room.tick ∧ s.Fresh t players := by
  cases hin with
  | loop snapshot hphase =>
      cases h with
      | quit => rcases hphase with hphase | hphase | hphase <;> cases hphase
      | start => rcases hphase with hphase | hphase | hphase <;> cases hphase
      | tick => rcases hphase with hphase | hphase | hphase <;> cases hphase
      | skip => rcases hphase with hphase | hphase | hphase <;> cases hphase
      | close => rcases hphase with hphase | hphase | hphase <;> cases hphase
      | input => exact .inl (.loop snapshot hphase)
      | step hdraining =>
          rcases hphase with hphase | hphase | hphase <;> cases hphase
          exact .inr ⟨rfl, hdraining, rfl, rfl⟩
      | publish =>
          dsimp only [afterPublish] at hphase
          split_ifs at hphase <;> rcases hphase with hphase | hphase | hphase <;> cases hphase
      | full _ hbefore =>
          rcases hphase with hphase | hphase | hphase <;> cases hphase
          exact .inl (.loop snapshot (.inl hbefore))
      | drop _ hbefore =>
          rcases hphase with hphase | hphase | hphase <;> cases hphase
          exact .inl (.loop snapshot (.inr (.inl hbefore)))
  | buffered snapshot hbuffer =>
      cases h with
      | publish published _ hphase hsend =>
          obtain ⟨-, hafter, -⟩ := Channel.send_eq_done hsend
          change snapshot ∈ Channel.buffer _ at hbuffer
          rw [hafter] at hbuffer
          rcases List.mem_append.1 hbuffer with hbuffer | hbuffer
          · exact .inl (.buffered snapshot hbuffer)
          · obtain rfl := List.mem_singleton.1 hbuffer
            exact .inl (.loop snapshot (hphase.imp_right .inr))
      | drop =>
          refine .inl (.buffered snapshot ?_)
          rcases Channel.tryDrop_cases s.roomSnapshots with heq | ⟨first, hbefore, -⟩
          · exact heq ▸ hbuffer
          · rw [hbefore]
            exact List.mem_cons_of_mem _ hbuffer
      | quit => exact .inl (.buffered snapshot hbuffer)
      | start => exact .inl (.buffered snapshot hbuffer)
      | input => exact .inl (.buffered snapshot hbuffer)
      | tick => exact .inl (.buffered snapshot hbuffer)
      | step => exact .inl (.buffered snapshot hbuffer)
      | full => exact .inl (.buffered snapshot hbuffer)
      | skip => exact .inl (.buffered snapshot hbuffer)
      | close => exact .inl (.buffered snapshot hbuffer)
  | updating snapshot hphase => cases h <;> exact .inl (.updating snapshot hphase)
  | publishing snapshot stage left hphase =>
      cases h <;> exact .inl (.publishing snapshot stage left hphase)
  | last => cases h <;> exact .inl .last

theorem BroadcastStep.passes (h : BroadcastStep s t) (hin : t.Passes tick players) :
    s.Passes tick players := by
  have hsame : t.loop = s.loop → t.roomSnapshots = s.roomSnapshots → t.lastSnapshot = s.lastSnapshot →
      (∀ snapshot, t.broadcast = .updating snapshot →
        s.Passes snapshot.serverTick (snapshotToProto snapshot).players) →
      (∀ snapshot stage left, t.broadcast = .publishing snapshot stage left →
        s.Passes snapshot.serverTick snapshot.players) → s.Passes tick players := by
    intro hloop hsnapshots hlast hupdating hpublishing
    cases hin with
    | loop snapshot hphase => exact .loop snapshot (hloop ▸ hphase)
    | buffered snapshot hbuffer => exact .buffered snapshot (hsnapshots ▸ hbuffer)
    | updating snapshot hphase => exact hupdating snapshot hphase
    | publishing snapshot stage left hphase => exact hpublishing snapshot stage left hphase
    | last => exact hlast ▸ .last
  cases h with
  | receive received roomSnapshots _ hreceive =>
      obtain ⟨hbuffer, -⟩ := Channel.receive_some hreceive
      cases hin with
      | loop snapshot hphase => exact .loop snapshot hphase
      | buffered snapshot hin =>
          refine .buffered snapshot ?_
          rw [hbuffer]
          exact List.mem_cons_of_mem _ hin
      | updating snapshot hphase =>
          cases hphase
          refine .buffered received ?_
          rw [hbuffer]
          exact List.mem_cons_self ..
      | publishing snapshot stage left hphase => cases hphase
      | last => exact .last
  | ended =>
      refine hsame rfl rfl rfl ?_ ?_
      · intro snapshot hphase
        cases hphase
      · intro snapshot stage left hphase
        cases hphase
  | decide updated hbroadcast =>
      cases hin with
      | loop snapshot hphase => exact .loop snapshot hphase
      | buffered snapshot hbuffer => exact .buffered snapshot hbuffer
      | updating snapshot hphase => cases hphase
      | publishing snapshot stage left hphase => cases hphase
      | last => exact .updating updated hbroadcast
  | update updated first hbroadcast =>
      cases hin with
      | loop snapshot hphase => exact .loop snapshot hphase
      | buffered snapshot hbuffer => exact .buffered snapshot hbuffer
      | updating snapshot hphase => cases hphase
      | publishing snapshot stage left hphase =>
          cases hphase
          exact .updating updated hbroadcast
      | last => exact .updating updated hbroadcast
  | finalize matchEnd phase next m _ hfinalize =>
      obtain ⟨-, -, hsnapshots, hlast⟩ := hfinalize.shared
      refine hsame rfl hsnapshots hlast ?_ ?_
      · intro snapshot hphase
        cases next <;> cases hphase
      · intro snapshot stage left hphase
        cases next <;> cases hphase
  | publish published stage player left next m hbroadcast hpublish =>
      obtain ⟨_, rfl, -⟩ := Match.publishLatest_done hpublish
      refine hsame rfl rfl rfl ?_ ?_
      · intro snapshot hphase
        cases next <;> cases left <;> cases hphase
      · intro snapshot other rest hphase
        cases next <;> cases left <;> cases hphase <;> exact .publishing published stage _ hbroadcast
  | close closing left m _ hclose =>
      have hshared : m.roomSnapshots = s.roomSnapshots ∧ m.lastSnapshot = s.lastSnapshot := by
        cases closing <;> obtain ⟨_, -, rfl⟩ := Outcome.map_eq_done hclose <;> exact ⟨rfl, rfl⟩
      refine hsame rfl hshared.1 hshared.2 ?_ ?_
      · intro snapshot hphase
        cases left <;> cases hphase
      · intro snapshot stage rest hphase
        cases left <;> cases hphase

theorem Step.passes (h : Step s t) (hin : t.Passes tick players) :
    s.Passes tick players ∨ tick = t.room.tick ∧ s.Fresh t players := by
  have hsame : SamePipeline s t → s.Passes tick players ∨ tick = t.room.tick ∧ s.Fresh t players :=
    fun hsame => .inl (hsame.passes hin)
  cases h with
  | acknowledge player m hm =>
      rcases Match.acknowledgeMatchStart_done hm with rfl | ⟨-, _, -, rfl⟩ <;>
        exact hsame ⟨rfl, rfl, rfl, rfl⟩
  | submit player input m hm =>
      obtain ⟨_, rfl, -⟩ := Match.submitInput_done hm
      exact hsame ⟨rfl, rfl, rfl, rfl⟩
  | loop hstep => exact hstep.passes hin
  | broadcast hstep => exact .inl (hstep.passes hin)
  | call => exact hsame ⟨rfl, rfl, rfl, rfl⟩
  | close hstep => exact hsame hstep.shared.2.2
  | receiveSnapshot => exact hsame ⟨rfl, rfl, rfl, rfl⟩
  | receiveMatchEnd => exact hsame ⟨rfl, rfl, rfl, rfl⟩
  | report => exact hsame ⟨rfl, rfl, rfl, rfl⟩

end Pipeline

/-! ### Sessions -/

/-- What a step leaves of a session: who plays it and the start, and among what it shows nothing is new
but what the broadcast goroutine is publishing. -/
structure SameSession (s t : Process) (player : Side) : Prop where
  playerID : (t.players.get player).playerID = (s.players.get player).playerID
  matchStart : (t.players.get player).matchStart = (s.players.get player).matchStart
  shown : ∀ snapshot ∈ t.shown player, snapshot ∈ s.shown player ∨
    ∃ stage left, s.broadcast = .publishing snapshot stage left

theorem SameSession.of_same {player : Side} (hplayers : t.players = s.players)
    (hreceived : t.received = s.received) : SameSession s t player := by
  refine ⟨by rw [hplayers], by rw [hplayers], fun snapshot hin => .inl ?_⟩
  rw [Process.shown, hplayers, hreceived] at hin
  exact hin

theorem SameSession.of_setPlayer {player writer : Side} {session : PlayerSession}
    (hplayers : t.toMatch.players = (s.setPlayer writer session).players)
    (hreceived : t.received = s.received)
    (hid : session.playerID = (s.players.get writer).playerID)
    (hstart : session.matchStart = (s.players.get writer).matchStart)
    (hbuffer : ∀ snapshot ∈ session.snapshots.buffer,
      snapshot ∈ (s.players.get writer).snapshots.buffer ∨
        ∃ stage left, s.broadcast = .publishing snapshot stage left) : SameSession s t player := by
  refine ⟨?_, ?_, ?_⟩
  · rw [hplayers]
    exact Match.setPlayer_same PlayerSession.playerID hid player
  · rw [hplayers]
    exact Match.setPlayer_same PlayerSession.matchStart hstart player
  · intro snapshot hin
    rw [Process.shown, hplayers, hreceived, Match.get_setPlayer] at hin
    rcases List.mem_append.1 hin with hin | hin
    · exact .inl (List.mem_append_left _ hin)
    split_ifs at hin with heq
    · rw [heq]
      exact (hbuffer snapshot hin).imp_left (List.mem_append_right _)
    · exact .inl (List.mem_append_right _ hin)

/-- `publishLatest` puts nothing into a session's channel but what it publishes. -/
theorem Match.publishLatest_buffer {m m' : Match} {player : Side} {published : WorldSnapshot}
    {stage : Publishing} {next : Option Publishing}
    (h : m.publishLatest player published stage = .done (next, m')) : ∃ snapshots,
    m' = m.setPlayer player { m.players.get player with snapshots } ∧
      ∀ snapshot ∈ snapshots.buffer,
        snapshot ∈ (m.players.get player).snapshots.buffer ∨ snapshot = published := by
  have htry : ∀ {sent snapshots},
      (m.players.get player).snapshots.trySend published = .done (sent, snapshots) →
        ∀ snapshot ∈ snapshots.buffer,
          snapshot ∈ (m.players.get player).snapshots.buffer ∨ snapshot = published := by
    intro sent snapshots htry snapshot hin
    rcases Channel.trySend_eq_done htry with ⟨-, hsend⟩ | ⟨-, -, rfl⟩
    · rw [(Channel.send_eq_done hsend).2.1] at hin
      exact (List.mem_append.1 hin).imp_right List.mem_singleton.1
    · exact .inl hin
  cases stage with
  | send =>
      obtain ⟨⟨sent, snapshots⟩, hsent, heq⟩ := Outcome.map_eq_done h
      cases heq
      exact ⟨snapshots, rfl, htry hsent⟩
  | drop =>
      cases h
      refine ⟨_, rfl, fun snapshot hin => .inl ?_⟩
      rcases Channel.tryDrop_cases (m.players.get player).snapshots with heq | ⟨first, hbefore, -⟩
      · exact heq ▸ hin
      · rw [hbefore]
        exact List.mem_cons_of_mem _ hin
  | resend =>
      obtain ⟨⟨sent, snapshots⟩, hsent, heq⟩ := Outcome.map_eq_done h
      cases heq
      exact ⟨snapshots, rfl, htry hsent⟩

theorem SameSession.finalizes {matchEnd : MatchEnd} {phase : Finalizing} {next : Option Finalizing}
    {player : Side} (h : s.Finalizes matchEnd phase next t.toMatch)
    (hreceived : t.received = s.received) : SameSession s t player := by
  generalize hm : t.toMatch = m at h
  cases h with
  | claim => exact .of_same (by rw [hm]) hreceived
  | skip => exact .of_same (by rw [hm]) hreceived
  | settle => exact .of_same (by rw [hm]) hreceived
  | send writer left matchEnds _ =>
      exact .of_setPlayer (congrArg Match.players hm) hreceived rfl rfl fun _ hin => .inl hin

theorem BroadcastStep.session (h : BroadcastStep s t) (player : Side) : SameSession s t player := by
  cases h with
  | receive => exact .of_same rfl rfl
  | ended => exact .of_same rfl rfl
  | decide => exact .of_same rfl rfl
  | update => exact .of_same rfl rfl
  | finalize _ _ _ _ _ hfinalize => exact .finalizes hfinalize rfl
  | publish published stage writer left _ _ hbroadcast hpublish =>
      obtain ⟨snapshots, rfl, hbuffer⟩ := Match.publishLatest_buffer hpublish
      refine .of_setPlayer rfl rfl rfl rfl fun snapshot hin => ?_
      rcases hbuffer snapshot hin with hold | rfl
      · exact .inl hold
      · exact .inr ⟨stage, _, hbroadcast⟩
  | close closing _ _ _ hclose =>
      cases closing <;> obtain ⟨_, hclosed, rfl⟩ := Outcome.map_eq_done hclose <;>
        obtain ⟨-, rfl⟩ := Channel.close_eq_done hclosed <;>
        exact .of_setPlayer rfl rfl rfl rfl fun _ hin => .inl hin

theorem CloseStep.session {call : Nat} {closer : Side} (h : CloseStep s call closer t)
    (player : Side) : SameSession s t player := by
  cases h with
  | begin => exact .of_setPlayer rfl rfl rfl rfl fun _ hin => .inl hin
  | skip => exact .of_same rfl rfl
  | disconnect => exact .of_same rfl rfl
  | finalize _ _ _ _ _ hfinalize => exact .finalizes hfinalize rfl
  | abort =>
      obtain ⟨_, _, heq⟩ := s.abort_eq
      rw [heq]
      exact .of_same rfl rfl
  | leave => exact .of_setPlayer rfl rfl rfl rfl fun _ hin => .inl hin

theorem Step.session (h : Step s t) (player : Side) : SameSession s t player := by
  cases h with
  | acknowledge _ _ hm =>
      rcases Match.acknowledgeMatchStart_done hm with rfl | ⟨-, _, -, rfl⟩
      · exact .of_same rfl rfl
      · exact .of_setPlayer rfl rfl rfl rfl fun _ hin => .inl hin
  | submit _ _ _ hm =>
      obtain ⟨_, rfl, -⟩ := Match.submitInput_done hm
      exact .of_same rfl rfl
  | loop hstep => cases hstep <;> exact .of_same rfl rfl
  | broadcast hstep => exact hstep.session player
  | call => exact .of_same rfl rfl
  | close hstep => exact hstep.session player
  | receiveSnapshot reader snapshot snapshots hreceive =>
      refine ⟨Match.setPlayer_same PlayerSession.playerID (by rfl) player,
        Match.setPlayer_same PlayerSession.matchStart (by rfl) player, fun other hin => .inl ?_⟩
      obtain ⟨hbuffer, -⟩ := Channel.receive_some hreceive
      change other ∈ ((s.received.set reader _).get player).snapshots ++
        ((s.setPlayer reader _).players.get player).snapshots.buffer at hin
      rw [Pair.get_set, Match.get_setPlayer] at hin
      rw [Process.shown]
      split_ifs at hin with hreader
      · rw [hreader, hbuffer]
        rwa [List.append_assoc, List.singleton_append] at hin
      · exact hin
  | receiveMatchEnd reader matchEnd matchEnds _ =>
      refine ⟨Match.setPlayer_same PlayerSession.playerID (by rfl) player,
        Match.setPlayer_same PlayerSession.matchStart (by rfl) player, fun other hin => .inl ?_⟩
      change other ∈ ((s.received.set reader _).get player).snapshots ++
        ((s.setPlayer reader _).players.get player).snapshots.buffer at hin
      rw [Pair.get_set, Match.get_setPlayer] at hin
      rw [Process.shown]
      split_ifs at hin with hreader
      · rw [hreader]
        exact hin
      · exact hin
  | report => exact .of_same rfl rfl

/-! ### No step makes up a snapshot -/

theorem Step.holds (h : Step s t) {tick : UInt32} {players : List PlayerState}
    (hholds : t.Holds tick players) :
    s.Holds tick players ∨ tick = t.room.tick ∧ s.Fresh t players := by
  cases hholds with
  | pipeline hin => exact (h.passes hin).imp_left .pipeline
  | shown player snapshot hin =>
      refine .inl ?_
      rcases (h.session player).shown snapshot hin with hold | ⟨stage, left, hphase⟩
      · exact .shown player snapshot hold
      · exact .pipeline (.publishing snapshot stage left hphase)
  | outcome caller matchEnd phase houtcome =>
      refine .inl ?_
      rcases h.outcome_cases houtcome with ⟨before, hbefore⟩ | ⟨snapshot, -, hphase, -, rfl⟩ |
        ⟨_, _, -, -, rfl⟩
      · exact .outcome caller matchEnd before hbefore
      · exact .pipeline (.updating snapshot hphase)
      · exact .pipeline .last
  | sent player matchEnd hin =>
      refine .inl ?_
      rcases h.mem_sent hin with hold | ⟨caller, left, hsends⟩
      · exact .sent player matchEnd hold
      · exact .outcome caller matchEnd _ hsends
  | start player =>
      rw [(h.session player).matchStart]
      exact .inl (.start player)

theorem Step.carries (h : Step s t) {players : List PlayerState} (hcarries : t.Carries players) :
    s.Carries players ∨ s.Fresh t players := by
  obtain ⟨tick, hholds⟩ := Process.carries_iff.1 hcarries
  exact (h.holds hholds).imp (fun hbefore => Process.carries_iff.2 ⟨tick, hbefore⟩) And.right

theorem initialProcess_holds {matchID playerA playerB : String} {reporter : Bool}
    {duel : Simulation.Room} {tick : UInt32} {players : List PlayerState}
    (h : (initialProcess matchID playerA playerB reporter duel).Holds tick players) :
    tick = duel.tick ∧ players = (snapshotToProto duel.snapshot).players := by
  cases h with
  | pipeline hin =>
      cases hin with
      | loop _ hphase => rcases hphase with hphase | hphase | hphase <;> cases hphase
      | buffered _ hbuffer => cases hbuffer
      | updating _ hphase => cases hphase
      | publishing _ _ _ hphase => cases hphase
      | last => exact ⟨rfl, rfl⟩
  | shown player _ hin => cases player <;> cases hin
  | outcome caller _ _ houtcome => cases caller <;> cases houtcome
  | sent player _ hin => cases player <;> cases hin
  | start player => cases player <;> exact ⟨rfl, rfl⟩

theorem initialProcess_carries {matchID playerA playerB : String} {reporter : Bool}
    {duel : Simulation.Room} {players : List PlayerState}
    (h : (initialProcess matchID playerA playerB reporter duel).Carries players) :
    players = (snapshotToProto duel.snapshot).players := by
  obtain ⟨_, hholds⟩ := Process.carries_iff.1 h
  exact (initialProcess_holds hholds).2

end PvpDuel.MatchServer
