import PvpDuel.MatchServer.Match

/-!
# What each goroutine of a match can do

The steps of the room loop, of the broadcast goroutine and of a call of `Close`, each with its guard
and the state after it. Every invariant of a match is derived from these relations.
-/

namespace PvpDuel.MatchServer

open Simulation (Room Snapshot)
open Gamev1 (MatchEnd PlayerInput WorldSnapshot)

/-! ### Sessions -/

namespace Match

theorem get_setPlayer (m : Match) (player other : Side) (session : PlayerSession) :
    (m.setPlayer player session).players.get other =
      if other = player then session else m.players.get other :=
  Pair.get_set m.players player other session

/-- What an update of one session leaves alone in it, it leaves alone in both. -/
theorem setPlayer_same {β : Type} (f : PlayerSession → β) {m : Match} {player : Side}
    {session : PlayerSession} (h : f session = f (m.players.get player)) (other : Side) :
    f ((m.setPlayer player session).players.get other) = f (m.players.get other) := by
  rw [get_setPlayer]
  split_ifs with heq
  · rw [h, heq]
  · rfl

/-- `AcknowledgeMatchStart` writes the start fields and a session's own mark. -/
theorem acknowledgeMatchStart_done {m m' : Match} {player : Side}
    (h : m.acknowledgeMatchStart player = .done m') : m' = m ∨
    ((m.players.get player).startAckOnce = .idle ∧ ∃ startBarrier,
      ((m.startCount + 1 = 2 ∧ m.startBarrier.close = .done startBarrier) ∨
        (m.startCount + 1 ≠ 2 ∧ startBarrier = m.startBarrier)) ∧
      m' = { m.setPlayer player { m.players.get player with startAckOnce := .done } with
        startCount := m.startCount + 1
        startBarrier }) := by
  unfold acknowledgeMatchStart at h
  cases hack : (m.players.get player).startAckOnce with
  | idle =>
      rw [hack] at h
      dsimp only [acknowledgeStart, setPlayer] at h
      by_cases hcount : m.startCount + 1 = 2
      · rw [if_pos hcount] at h
        obtain ⟨startBarrier, hclose, rfl⟩ := Outcome.map_eq_done h
        exact .inr ⟨rfl, startBarrier, .inl ⟨hcount, hclose⟩, rfl⟩
      · rw [if_neg hcount] at h
        cases h
        exact .inr ⟨rfl, _, .inr ⟨hcount, rfl⟩, rfl⟩
  | running =>
      rw [hack] at h
      cases h
  | done =>
      rw [hack] at h
      cases h
      exact .inl rfl

theorem submitInput_done {m m' : Match} {player : Side} {input : PlayerInput}
    (h : m.submitInput player input = .done m') : ∃ inputs, m' = { m with inputs } ∧
    (m.inputs.send ⟨(m.players.get player).playerID, inputFromProto input⟩ = .done inputs ∨
      inputs = m.inputs) := by
  obtain ⟨⟨sent, inputs⟩, hsend, rfl⟩ := Outcome.map_eq_done h
  rcases Channel.trySend_eq_done hsend with ⟨-, hsend⟩ | ⟨-, -, rfl⟩
  · exact ⟨inputs, rfl, .inl hsend⟩
  · exact ⟨_, rfl, .inr rfl⟩

/-- What one step of `finalize` does to the match, with where the call stands after it. -/
inductive Finalizes (m : Match) (matchEnd : MatchEnd) : Finalizing → Option Finalizing → Match → Prop
  | claim (first : Side) : m.terminalOnce = .idle → Finalizes m matchEnd .entering
      (some (.sending [first, first.other])) { m with terminalOnce := .running }
  | skip : m.terminalOnce = .done → Finalizes m matchEnd .entering none m
  | send (player : Side) (left : List Side) (matchEnds : Channel MatchEnd) :
      (m.players.get player).matchEnds.send matchEnd = .done matchEnds →
      Finalizes m matchEnd (.sending (player :: left)) (some (.sending left))
        (m.setPlayer player { m.players.get player with matchEnds })
  | settle : Finalizes m matchEnd (.sending []) none
      { m with terminalOnce := .done, reports := m.reports ++ [matchEnd] }

theorem finalize_done {m m' : Match} {matchEnd : MatchEnd} {first : Side} {phase : Finalizing}
    {next : Option Finalizing} (h : m.finalize matchEnd first phase = .done (next, m')) :
    Finalizes m matchEnd phase next m' := by
  cases phase with
  | entering =>
      unfold finalize at h
      cases honce : m.terminalOnce with
      | idle =>
          rw [honce] at h
          cases h
          exact .claim first honce
      | running =>
          rw [honce] at h
          cases h
      | done =>
          rw [honce] at h
          cases h
          exact .skip honce
  | sending left =>
      cases left with
      | nil =>
          cases h
          exact .settle
      | cons player left =>
          obtain ⟨m'', hsend, heq⟩ := Outcome.map_eq_done h
          obtain ⟨matchEnds, hchannel, rfl⟩ := Outcome.map_eq_done hsend
          cases heq
          exact .send player left matchEnds hchannel

theorem Finalizes.shared {m m' : Match} {matchEnd : MatchEnd} {phase : Finalizing}
    {next : Option Finalizing} (h : m.Finalizes matchEnd phase next m') :
    m'.room = m.room ∧ m'.inputs = m.inputs ∧ m'.roomSnapshots = m.roomSnapshots ∧
      m'.lastSnapshot = m.lastSnapshot := by
  cases h <;> exact ⟨rfl, rfl, rfl, rfl⟩

theorem abort_eq (m : Match) : ∃ cancelOnce canceled, m.abort = { m with cancelOnce, canceled } := by
  unfold abort
  cases m.cancelOnce
  · exact ⟨_, _, rfl⟩
  · exact ⟨_, _, rfl⟩
  · exact ⟨_, _, rfl⟩

/-- `publishLatest` writes the session's snapshots, and keeps them open if they are. -/
theorem publishLatest_done {m m' : Match} {player : Side} {snapshot : WorldSnapshot}
    {stage : Publishing} {next : Option Publishing}
    (h : m.publishLatest player snapshot stage = .done (next, m')) : ∃ snapshots,
    m' = m.setPlayer player { m.players.get player with snapshots } ∧
      snapshots.closed = (m.players.get player).snapshots.closed := by
  have hopen : ∀ {sent snapshots},
      (m.players.get player).snapshots.trySend snapshot = .done (sent, snapshots) →
        snapshots.closed = (m.players.get player).snapshots.closed := by
    intro sent snapshots htry
    rcases Channel.trySend_eq_done htry with ⟨-, hsend⟩ | ⟨-, -, rfl⟩
    · obtain ⟨hbefore, -, hafter, -⟩ := Channel.send_eq_done hsend
      rw [hbefore, hafter]
    · rfl
  cases stage with
  | send =>
      obtain ⟨⟨sent, snapshots⟩, htry, heq⟩ := Outcome.map_eq_done h
      cases heq
      exact ⟨snapshots, rfl, hopen htry⟩
  | drop =>
      cases h
      refine ⟨_, rfl, ?_⟩
      rcases Channel.tryDrop_cases (m.players.get player).snapshots with heq | ⟨_, -, hclosed, -⟩
      · rw [heq]
      · exact hclosed
  | resend =>
      obtain ⟨⟨sent, snapshots⟩, htry, heq⟩ := Outcome.map_eq_done h
      cases heq
      exact ⟨snapshots, rfl, hopen htry⟩

end Match

/-! ### The goroutines -/

inductive LoopStep (s : Process) : Process → Prop
  | quit : s.canceled = true → s.loop ≠ .returned → LoopStep s { s with loop := .closing }
  | start : s.loop = .waiting → s.startBarrier.closed = true → LoopStep s { s with loop := .selecting }
  | input (queued : QueuedInput) (inputs : Channel QueuedInput) :
      s.loop = .selecting ∨ s.loop = .draining →
      s.inputs.receive = .done (some queued, inputs) → LoopStep s { s with
        inputs
        room := (s.room.submitInput queued.playerID queued.input).1 }
  | tick : s.loop = .selecting → LoopStep s { s with loop := .draining }
  | step : s.loop = .draining → LoopStep s { s with
      room := s.room.step
      loop := .publishing s.room.step.snapshot }
  | publish (snapshot : Snapshot) (roomSnapshots : Channel Snapshot) :
      s.loop = .publishing snapshot ∨ s.loop = .resending snapshot →
      s.roomSnapshots.send snapshot = .done roomSnapshots →
      LoopStep s { s with roomSnapshots, loop := afterPublish snapshot }
  | full (snapshot : Snapshot) : s.loop = .publishing snapshot →
      LoopStep s { s with loop := .dropping snapshot }
  | drop (snapshot : Snapshot) : s.loop = .dropping snapshot → LoopStep s { s with
      roomSnapshots := s.roomSnapshots.tryDrop
      loop := .resending snapshot }
  | skip (snapshot : Snapshot) : s.loop = .resending snapshot → snapshot.status ≠ .finished →
      LoopStep s { s with loop := .selecting }
  | close : s.loop = .closing → LoopStep s { s with
      roomSnapshots := { s.roomSnapshots with closed := true }
      loop := .returned }

inductive BroadcastStep (s : Process) : Process → Prop
  | receive (snapshot : Snapshot) (roomSnapshots : Channel Snapshot) : s.broadcast = .receiving →
      s.roomSnapshots.receive = .done (some snapshot, roomSnapshots) →
      BroadcastStep s { s with roomSnapshots, broadcast := .updating snapshot }
  | ended (first : Side) : s.broadcast = .receiving → s.roomSnapshots.closed = true →
      s.roomSnapshots.buffer = [] →
      BroadcastStep s { s with broadcast := .closing (closings first) }
  | decide (snapshot : Snapshot) : s.broadcast = .updating snapshot → snapshot.status = .finished →
      BroadcastStep s { s with
        lastSnapshot := snapshotToProto snapshot
        broadcast := .finalizing (roomEnd snapshot) .entering }
  | update (snapshot : Snapshot) (first : Side) : s.broadcast = .updating snapshot →
      snapshot.status ≠ .finished → BroadcastStep s { s with
        lastSnapshot := snapshotToProto snapshot
        broadcast := .publishing (snapshotToProto snapshot) .send [first, first.other] }
  | finalize (matchEnd : MatchEnd) (phase : Finalizing) (next : Option Finalizing) (m : Match) :
      s.broadcast = .finalizing matchEnd phase → s.Finalizes matchEnd phase next m →
      BroadcastStep s { s with
        toMatch := m
        broadcast := next.elim .receiving (.finalizing matchEnd) }
  | publish (snapshot : WorldSnapshot) (stage : Publishing) (player : Side) (left : List Side)
      (next : Option Publishing) (m : Match) :
      s.broadcast = .publishing snapshot stage (player :: left) →
      s.publishLatest player snapshot stage = .done (next, m) → BroadcastStep s { s with
        toMatch := m
        broadcast := next.elim (publishTo snapshot left)
          fun stage => .publishing snapshot stage (player :: left) }
  | close (closing : Closing) (left : List Closing) (m : Match) :
      s.broadcast = .closing (closing :: left) → s.closeChannel closing = .done m →
      BroadcastStep s { s with toMatch := m, broadcast := closeRest left }

/-- What a call of `Close` can do. -/
inductive CloseStep (s : Process) (call : Nat) (player : Side) : Process → Prop
  | begin : s.closes[call]? = some ⟨player, .closing⟩ → (s.players.get player).closeOnce = .idle →
      CloseStep s call player { s.setClose call player .disconnecting with
        toMatch := s.setPlayer player { s.players.get player with closeOnce := .running } }
  | skip : s.closes[call]? = some ⟨player, .closing⟩ →
      (s.players.get player).closeOnce = .done →
      CloseStep s call player (s.setClose call player .returned)
  | disconnect : s.closes[call]? = some ⟨player, .disconnecting⟩ →
      CloseStep s call player (s.setClose call player
        (.finalizing (s.disconnectEnd (s.players.get player).playerID) .entering))
  | finalize (matchEnd : MatchEnd) (phase : Finalizing) (next : Option Finalizing) (m : Match) :
      s.closes[call]? = some ⟨player, .finalizing matchEnd phase⟩ →
      s.Finalizes matchEnd phase next m →
      CloseStep s call player { s.setClose call player
        (next.elim .aborting (.finalizing matchEnd)) with toMatch := m }
  | abort : s.closes[call]? = some ⟨player, .aborting⟩ →
      CloseStep s call player { s.setClose call player .leaving with toMatch := s.abort }
  | leave : s.closes[call]? = some ⟨player, .leaving⟩ →
      CloseStep s call player { s.setClose call player .returned with
        toMatch := s.setPlayer player { s.players.get player with closeOnce := .done } }

inductive Step (s : Process) : Process → Prop
  | acknowledge (player : Side) (m : Match) : s.acknowledgeMatchStart player = .done m →
      Step s { s with toMatch := m }
  | submit (player : Side) (input : PlayerInput) (m : Match) :
      s.submitInput player input = .done m → Step s { s with toMatch := m }
  | loop {t : Process} : LoopStep s t → Step s t
  | broadcast {t : Process} : BroadcastStep s t → Step s t
  | call (player : Side) : Step s { s with closes := s.closes ++ [⟨player, .closing⟩] }
  | close {call : Nat} {player : Side} {t : Process} : CloseStep s call player t → Step s t
  | receiveSnapshot (player : Side) (snapshot : WorldSnapshot) (snapshots : Channel WorldSnapshot) :
      (s.players.get player).snapshots.receive = .done (some snapshot, snapshots) → Step s { s with
        toMatch := s.setPlayer player { s.players.get player with snapshots }
        received := s.received.set player { s.received.get player with
          snapshots := (s.received.get player).snapshots ++ [snapshot] } }
  | receiveMatchEnd (player : Side) (matchEnd : MatchEnd) (matchEnds : Channel MatchEnd) :
      (s.players.get player).matchEnds.receive = .done (some matchEnd, matchEnds) → Step s { s with
        toMatch := s.setPlayer player { s.players.get player with matchEnds }
        received := s.received.set player { s.received.get player with
          matchEnds := (s.received.get player).matchEnds ++ [matchEnd] } }
  | report (matchEnd : MatchEnd) (reports : List MatchEnd) (endedAt : Nat) :
      s.reports = matchEnd :: reports → Step s { s with
        reports
        reported :=
          if s.reporter then s.reported ++ [s.terminalResult matchEnd endedAt] else s.reported }

/-! ### What the room and its inputs see of them -/

theorem BroadcastStep.shared {s t : Process} (h : BroadcastStep s t) :
    t.room = s.room ∧ t.inputs = s.inputs := by
  cases h with
  | finalize _ _ _ _ _ hfinalize => exact ⟨hfinalize.shared.1, hfinalize.shared.2.1⟩
  | publish _ _ _ _ _ _ _ hpublish =>
      obtain ⟨_, rfl, -⟩ := Match.publishLatest_done hpublish
      exact ⟨rfl, rfl⟩
  | close closing _ _ _ hclose =>
      cases closing <;> obtain ⟨_, -, rfl⟩ := Outcome.map_eq_done hclose <;> exact ⟨rfl, rfl⟩
  | receive => exact ⟨rfl, rfl⟩
  | ended => exact ⟨rfl, rfl⟩
  | decide => exact ⟨rfl, rfl⟩
  | update => exact ⟨rfl, rfl⟩

/-- The pipeline from the room to the sessions is left alone. -/
structure SamePipeline (s t : Process) : Prop where
  loop : t.loop = s.loop
  roomSnapshots : t.roomSnapshots = s.roomSnapshots
  broadcast : t.broadcast = s.broadcast
  lastSnapshot : t.lastSnapshot = s.lastSnapshot

theorem CloseStep.shared {s t : Process} {call : Nat} {player : Side} (h : CloseStep s call player t) :
    t.room = s.room ∧ t.inputs = s.inputs ∧ SamePipeline s t := by
  cases h with
  | finalize _ _ _ _ _ hfinalize =>
      obtain ⟨hroom, hinputs, hsnapshots, hlast⟩ := hfinalize.shared
      exact ⟨hroom, hinputs, rfl, hsnapshots, rfl, hlast⟩
  | abort =>
      obtain ⟨_, _, heq⟩ := s.abort_eq
      rw [heq]
      exact ⟨rfl, rfl, rfl, rfl, rfl, rfl⟩
  | begin => exact ⟨rfl, rfl, rfl, rfl, rfl, rfl⟩
  | skip => exact ⟨rfl, rfl, rfl, rfl, rfl, rfl⟩
  | disconnect => exact ⟨rfl, rfl, rfl, rfl, rfl, rfl⟩
  | leave => exact ⟨rfl, rfl, rfl, rfl, rfl, rfl⟩

/-! ### The functions take these steps -/

namespace Process

variable {s t : Process}

theorem loopDone_done (h : s.loopDone = .done t) : LoopStep s t := by
  unfold loopDone at h
  split_ifs at h with hcanceled
  cases hloop : s.loop with
  | waiting =>
      rw [hloop] at h
      cases h
      exact .quit hcanceled (by rw [hloop]; exact LoopPhase.noConfusion)
  | selecting =>
      rw [hloop] at h
      cases h
      exact .quit hcanceled (by rw [hloop]; exact LoopPhase.noConfusion)
  | resending snapshot =>
      rw [hloop] at h
      dsimp only at h
      split_ifs at h
      cases h
      exact .quit hcanceled (by rw [hloop]; exact LoopPhase.noConfusion)
  | draining => rw [hloop] at h; cases h
  | publishing _ => rw [hloop] at h; cases h
  | dropping _ => rw [hloop] at h; cases h
  | closing => rw [hloop] at h; cases h
  | returned => rw [hloop] at h; cases h

theorem loopStart_done (hbarrier : s.startBarrier.buffer = []) (h : s.loopStart = .done t) :
    LoopStep s t := by
  unfold loopStart at h
  split at h
  · obtain ⟨⟨value, barrier⟩, hreceive, rfl⟩ := Outcome.map_eq_done h
    rcases Channel.receive_eq_done hreceive with ⟨_, -, hbuffer, -⟩ | ⟨-, -, hclosed, -⟩
    · rw [hbarrier] at hbuffer
      cases hbuffer
    · exact .start ‹_› hclosed
  · cases h

theorem loopInput_done (h : s.loopInput = .done t) : LoopStep s t := by
  unfold loopInput at h
  split at h
  · cases h
    exact .input _ _ (.inl ‹_›) ‹_›
  · cases h
    exact .input _ _ (.inr ‹_›) ‹_›
  · cases h

theorem loopTick_done (h : s.loopTick = .done t) : LoopStep s t := by
  unfold loopTick at h
  split at h
  · cases h
    exact .tick ‹_›
  · cases h

theorem loopNext_done (h : s.loopNext = .done t) : LoopStep s t := by
  unfold loopNext at h
  cases hloop : s.loop with
  | draining =>
      rw [hloop] at h
      dsimp only at h
      split_ifs at h
      cases h
      exact .step hloop
  | publishing snapshot =>
      rw [hloop] at h
      obtain ⟨⟨sent, roomSnapshots⟩, htry, rfl⟩ := Outcome.map_eq_done h
      rcases Channel.trySend_eq_done htry with ⟨rfl, hsend⟩ | ⟨rfl, -, rfl⟩
      · exact .publish snapshot roomSnapshots (.inl hloop) hsend
      · exact .full snapshot hloop
  | dropping snapshot =>
      rw [hloop] at h
      cases h
      exact .drop snapshot hloop
  | resending snapshot =>
      rw [hloop] at h
      dsimp only at h
      split_ifs at h with hfinished
      · obtain ⟨roomSnapshots, hsend, rfl⟩ := Outcome.map_eq_done h
        exact .publish snapshot roomSnapshots (.inr hloop) hsend
      · obtain ⟨⟨sent, roomSnapshots⟩, htry, rfl⟩ := Outcome.map_eq_done h
        rcases Channel.trySend_eq_done htry with ⟨-, hsend⟩ | ⟨-, -, rfl⟩
        · exact .publish snapshot roomSnapshots (.inr hloop) hsend
        · have hafter : afterPublish snapshot = .selecting := if_neg hfinished
          dsimp only
          rw [hafter]
          exact .skip snapshot hloop hfinished
  | closing =>
      rw [hloop] at h
      obtain ⟨roomSnapshots, hclose, rfl⟩ := Outcome.map_eq_done h
      obtain ⟨-, rfl⟩ := Channel.close_eq_done hclose
      exact .close hloop
  | waiting => rw [hloop] at h; cases h
  | selecting => rw [hloop] at h; cases h
  | returned => rw [hloop] at h; cases h

theorem broadcastNext_done {first : Side} (h : s.broadcastNext first = .done t) :
    BroadcastStep s t := by
  unfold broadcastNext at h
  cases hbroadcast : s.broadcast with
  | receiving =>
      rw [hbroadcast] at h
      obtain ⟨⟨value, roomSnapshots⟩, hreceive, heq⟩ := Outcome.map_eq_done h
      cases value with
      | some snapshot =>
          cases heq
          exact .receive snapshot roomSnapshots hbroadcast hreceive
      | none =>
          cases heq
          rcases Channel.receive_eq_done hreceive with ⟨_, hvalue, -⟩ | ⟨-, hbuffer, hclosed, -⟩
          · cases hvalue
          · exact .ended first hbroadcast hclosed hbuffer
  | updating snapshot =>
      rw [hbroadcast] at h
      cases h
      by_cases hfinished : snapshot.status = .finished
      · rw [if_pos hfinished]
        exact .decide snapshot hbroadcast hfinished
      · rw [if_neg hfinished]
        exact .update snapshot first hbroadcast hfinished
  | finalizing matchEnd phase =>
      rw [hbroadcast] at h
      obtain ⟨⟨next, m⟩, hfinalize, heq⟩ := Outcome.map_eq_done h
      have hstep := BroadcastStep.finalize matchEnd phase next m hbroadcast
        (Match.finalize_done hfinalize)
      cases next <;> cases heq <;> exact hstep
  | publishing snapshot stage left =>
      rw [hbroadcast] at h
      cases left with
      | nil => cases h
      | cons player left =>
          obtain ⟨⟨next, m⟩, hpublish, heq⟩ := Outcome.map_eq_done h
          have hstep := BroadcastStep.publish snapshot stage player left next m hbroadcast hpublish
          cases next <;> cases heq <;> exact hstep
  | closing left =>
      rw [hbroadcast] at h
      cases left with
      | nil => cases h
      | cons closing left =>
          obtain ⟨m, hclose, rfl⟩ := Outcome.map_eq_done h
          exact .close closing left m hbroadcast hclose
  | returned =>
      rw [hbroadcast] at h
      cases h

theorem closeNext_done {call : Nat} {first : Side} (h : s.closeNext call first = .done t) :
    ∃ player, CloseStep s call player t := by
  unfold closeNext at h
  split at h
  · cases h
  · rename_i player phase hcall
    refine ⟨player, ?_⟩
    cases phase with
    | closing =>
        dsimp only at h
        split at h
        · cases h
          exact .begin hcall ‹_›
        · cases h
        · cases h
          exact .skip hcall ‹_›
    | disconnecting =>
        cases h
        exact .disconnect hcall
    | finalizing matchEnd phase =>
        obtain ⟨⟨next, m⟩, hfinalize, heq⟩ := Outcome.map_eq_done h
        have hstep := CloseStep.finalize matchEnd phase next m hcall (Match.finalize_done hfinalize)
        cases next <;> cases heq <;> exact hstep
    | aborting =>
        cases h
        exact .abort hcall
    | leaving =>
        cases h
        exact .leave hcall
    | returned => cases h

theorem step_done {action : Match.Action} (hbarrier : s.startBarrier.buffer = [])
    (h : s.step action = .done t) : Step s t := by
  cases action with
  | acknowledgeMatchStart player =>
      obtain ⟨m, hm, rfl⟩ := Outcome.map_eq_done h
      exact .acknowledge player m hm
  | submitInput player input =>
      obtain ⟨m, hm, rfl⟩ := Outcome.map_eq_done h
      exact .submit player input m hm
  | loopDone => exact .loop (loopDone_done h)
  | loopStart => exact .loop (loopStart_done hbarrier h)
  | loopInput => exact .loop (loopInput_done h)
  | loopTick => exact .loop (loopTick_done h)
  | loopNext => exact .loop (loopNext_done h)
  | broadcastNext first => exact .broadcast (broadcastNext_done h)
  | close player =>
      cases h
      exact .call player
  | closeNext call first =>
      obtain ⟨player, hstep⟩ := closeNext_done h
      exact .close hstep
  | receiveSnapshot player =>
      rw [step, receiveSnapshot] at h
      split at h
      · cases h
        exact .receiveSnapshot player _ _ ‹_›
      · cases h
  | receiveMatchEnd player =>
      rw [step, receiveMatchEnd] at h
      split at h
      · cases h
        exact .receiveMatchEnd player _ _ ‹_›
      · cases h
  | report endedAt =>
      rw [step, report] at h
      split at h
      · cases h
      · cases h
        exact .report _ _ endedAt ‹_›

theorem next_cases {action : Match.Action} (h : s.next action = some t) : s.panicked = false ∧
    (s.step action = .done t ∨ s.step action = .panicked ∧ t = { s with panicked := true }) := by
  unfold next at h
  split_ifs at h with hpanicked
  refine ⟨Bool.eq_false_iff.2 hpanicked, ?_⟩
  cases hstep : s.step action with
  | done s' =>
      rw [hstep] at h
      cases h
      exact .inl rfl
  | blocked =>
      rw [hstep] at h
      cases h
  | panicked =>
      rw [hstep] at h
      cases h
      exact .inr ⟨rfl, rfl⟩

end Process

end PvpDuel.MatchServer
