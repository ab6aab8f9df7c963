import PvpDuel.MatchServer.Terminal

/-!
# The room's result and a late disconnect

The room's result reaches `terminalOnce` through a channel and a second goroutine. A disconnect that
begins after the room has finished and reaches the `Once` before the broadcast goroutine replaces the
result; where none does, everything delivered and reported is the result of the room.
-/

namespace PvpDuel.MatchServer

open Simulation (MatchStatus Room Snapshot)
open Gamev1 (MatchEnd)

/-! ### Snapshots in flight are the room's -/

namespace Process

def Rules (s : Process) (matchEnd : MatchEnd) : Prop :=
  s.room.status = .finished ∧ matchEnd = roomEnd s.room.snapshot

end Process

/-- A snapshot that is being published is the room's, a finished room is stepped no more, and every
finished snapshot on its way to `finalize`, and the outcome made of it, is that of the finished room. -/
structure Faithful (s : Process) : Prop where
  publishing : ∀ snapshot, s.loop = .publishing snapshot ∨ s.loop = .dropping snapshot ∨
    s.loop = .resending snapshot → snapshot = s.room.snapshot
  running : s.loop = .waiting ∨ s.loop = .selecting ∨ s.loop = .draining →
    s.room.status ≠ .finished
  buffered : ∀ snapshot ∈ s.roomSnapshots.buffer, snapshot.status = .finished →
    s.Rules (roomEnd snapshot)
  updating : ∀ snapshot, s.broadcast = .updating snapshot → snapshot.status = .finished →
    s.Rules (roomEnd snapshot)
  outcome : ∀ matchEnd phase, s.broadcast = .finalizing matchEnd phase → s.Rules matchEnd

section

variable {s t : Process}

theorem room_of_step (hstep : Step s t) :
    t.room = s.room ∨ s.loop = .selecting ∨ s.loop = .draining := by
  cases hstep with
  | acknowledge player m hm =>
      rcases Match.acknowledgeMatchStart_done hm with rfl | ⟨-, _, -, rfl⟩ <;> exact .inl rfl
  | submit player input m hm =>
      obtain ⟨_, rfl, -⟩ := Match.submitInput_done hm
      exact .inl rfl
  | loop hstep =>
      cases hstep with
      | input _ _ hphase => exact .inr hphase
      | step hphase => exact .inr (.inr hphase)
      | quit => exact .inl rfl
      | start => exact .inl rfl
      | tick => exact .inl rfl
      | publish => exact .inl rfl
      | full => exact .inl rfl
      | drop => exact .inl rfl
      | skip => exact .inl rfl
      | close => exact .inl rfl
  | broadcast hstep => exact .inl hstep.shared.1
  | call => exact .inl rfl
  | close hstep => exact .inl hstep.shared.1
  | receiveSnapshot => exact .inl rfl
  | receiveMatchEnd => exact .inl rfl
  | report => exact .inl rfl

theorem Faithful.room_eq (h : Faithful s) (hstep : Step s t) (hfinished : s.room.status = .finished) :
    t.room = s.room := by
  rcases room_of_step hstep with hroom | hphase
  · exact hroom
  · exact absurd hfinished (h.running (.inr hphase))

theorem Faithful.rules (h : Faithful s) (hstep : Step s t) {matchEnd : MatchEnd}
    (hrules : s.Rules matchEnd) : t.Rules matchEnd := by
  have hroom := h.room_eq hstep hrules.1
  rw [Process.Rules, hroom]
  exact hrules

theorem Faithful.loopStep (h : Faithful s) (hstep : LoopStep s t) : Faithful t := by
  have hrules : ∀ {matchEnd}, s.Rules matchEnd → t.Rules matchEnd := h.rules (.loop hstep)
  -- What is published was published from the room, so the loop goes on only while the room does.
  have hafter : ∀ snapshot, s.loop = .publishing snapshot ∨ s.loop = .dropping snapshot ∨
      s.loop = .resending snapshot → snapshot.status ≠ .finished → s.room.status ≠ .finished := by
    intro snapshot hphase hunfinished
    rw [h.publishing snapshot hphase] at hunfinished
    exact hunfinished
  cases hstep with
  | quit =>
      refine ⟨?_, ?_, h.buffered, h.updating, h.outcome⟩
      · rintro snapshot (hloop | hloop | hloop) <;> cases hloop
      · rintro (hloop | hloop | hloop) <;> cases hloop
  | start hphase =>
      refine ⟨?_, fun _ => h.running (.inl hphase), h.buffered, h.updating, h.outcome⟩
      rintro snapshot (hloop | hloop | hloop) <;> cases hloop
  | input queued inputs hphase =>
      have hstatus : (s.room.submitInput queued.playerID queued.input).1.status = s.room.status :=
        Room.submitInput_status _ _ _
      refine ⟨?_, ?_, fun snapshot hin hfinished => hrules (h.buffered snapshot hin hfinished),
        fun snapshot hphase hfinished => hrules (h.updating snapshot hphase hfinished),
        fun matchEnd phase hphase => hrules (h.outcome matchEnd phase hphase)⟩
      · intro snapshot hloop
        rw [h.publishing snapshot hloop]
        exact (Room.submitInput_snapshot _ _ _).symm
      · intro hloop
        change (s.room.submitInput queued.playerID queued.input).1.status ≠ _
        rw [hstatus]
        exact h.running hloop
  | tick hphase =>
      refine ⟨?_, fun _ => h.running (.inr (.inl hphase)), h.buffered, h.updating, h.outcome⟩
      rintro snapshot (hloop | hloop | hloop) <;> cases hloop
  | step hphase =>
      refine ⟨?_, ?_, fun snapshot hin hfinished => hrules (h.buffered snapshot hin hfinished),
        fun snapshot hphase hfinished => hrules (h.updating snapshot hphase hfinished),
        fun matchEnd phase hphase => hrules (h.outcome matchEnd phase hphase)⟩
      · rintro snapshot (hloop | hloop | hloop) <;> cases hloop
        rfl
      · rintro (hloop | hloop | hloop) <;> cases hloop
  | publish snapshot roomSnapshots hphase hsend =>
      obtain ⟨-, hbuffer, -⟩ := Channel.send_eq_done hsend
      have hphase' : s.loop = .publishing snapshot ∨ s.loop = .dropping snapshot ∨
          s.loop = .resending snapshot := hphase.imp_right .inr
      have hroom := h.publishing snapshot hphase'
      refine ⟨?_, ?_, ?_, h.updating, h.outcome⟩
      · intro other hloop
        dsimp only [afterPublish] at hloop
        split_ifs at hloop <;> rcases hloop with hloop | hloop | hloop <;> cases hloop
      · intro hloop
        refine hafter snapshot hphase' fun hfinished => ?_
        dsimp only [afterPublish] at hloop
        rw [if_pos hfinished] at hloop
        rcases hloop with hloop | hloop | hloop <;> cases hloop
      · intro other hin hfinished
        change other ∈ roomSnapshots.buffer at hin
        rw [hbuffer] at hin
        rcases List.mem_append.1 hin with hin | hin
        · exact h.buffered other hin hfinished
        · obtain rfl := List.mem_singleton.1 hin
          rw [hroom] at hfinished ⊢
          exact ⟨hfinished, rfl⟩
  | full snapshot hphase =>
      refine ⟨?_, ?_, h.buffered, h.updating, h.outcome⟩
      · rintro other (hloop | hloop | hloop) <;> cases hloop
        exact h.publishing snapshot (.inl hphase)
      · rintro (hloop | hloop | hloop) <;> cases hloop
  | drop snapshot hphase =>
      refine ⟨?_, ?_, ?_, h.updating, h.outcome⟩
      · rintro other (hloop | hloop | hloop) <;> cases hloop
        exact h.publishing snapshot (.inr (.inl hphase))
      · rintro (hloop | hloop | hloop) <;> cases hloop
      · intro other hin hfinished
        refine h.buffered other ?_ hfinished
        rcases Channel.tryDrop_cases s.roomSnapshots with heq | ⟨first, hbuffer, -⟩
        · exact heq ▸ hin
        · rw [hbuffer]
          exact List.mem_cons_of_mem _ hin
  | skip snapshot hphase hunfinished =>
      refine ⟨?_, fun _ => hafter snapshot (.inr (.inr hphase)) hunfinished, h.buffered, h.updating,
        h.outcome⟩
      rintro other (hloop | hloop | hloop) <;> cases hloop
  | close =>
      refine ⟨?_, ?_, h.buffered, h.updating, h.outcome⟩
      · rintro snapshot (hloop | hloop | hloop) <;> cases hloop
      · rintro (hloop | hloop | hloop) <;> cases hloop

theorem Faithful.of_same (h : Faithful s) (hroom : t.room = s.room) (hloop : t.loop = s.loop)
    (hbuffered : ∀ snapshot ∈ t.roomSnapshots.buffer, snapshot.status = .finished →
      s.Rules (roomEnd snapshot))
    (hupdating : ∀ snapshot, t.broadcast = .updating snapshot → snapshot.status = .finished →
      s.Rules (roomEnd snapshot))
    (houtcome : ∀ matchEnd phase, t.broadcast = .finalizing matchEnd phase → s.Rules matchEnd) :
    Faithful t := by
  have hrules : ∀ {matchEnd}, s.Rules matchEnd → t.Rules matchEnd := by
    intro matchEnd hrules
    rw [Process.Rules, hroom]
    exact hrules
  refine ⟨?_, ?_, fun snapshot hin hfinished => hrules (hbuffered snapshot hin hfinished),
    fun snapshot hphase hfinished => hrules (hupdating snapshot hphase hfinished),
    fun matchEnd phase hphase => hrules (houtcome matchEnd phase hphase)⟩
  · rw [hloop, hroom]
    exact h.publishing
  · rw [hloop, hroom]
    exact h.running

theorem Faithful.broadcastStep (h : Faithful s) (hstep : BroadcastStep s t) : Faithful t := by
  cases hstep with
  | receive first roomSnapshots _ hreceive =>
      obtain ⟨hbuffer, -⟩ := Channel.receive_some hreceive
      refine h.of_same rfl rfl (fun snapshot hin => h.buffered snapshot ?_) ?_ ?_
      · rw [hbuffer]
        exact List.mem_cons_of_mem _ hin
      · rintro snapshot hphase
        cases hphase
        refine h.buffered first ?_
        rw [hbuffer]
        exact List.mem_cons_self ..
      · rintro matchEnd phase hphase
        cases hphase
  | ended =>
      refine h.of_same rfl rfl h.buffered ?_ ?_
      · rintro snapshot hphase
        cases hphase
      · rintro matchEnd phase hphase
        cases hphase
  | decide snapshot hbroadcast hfinished =>
      refine h.of_same rfl rfl h.buffered ?_ ?_
      · rintro other hphase
        cases hphase
      · rintro matchEnd phase hphase
        cases hphase
        exact h.updating snapshot hbroadcast hfinished
  | update =>
      refine h.of_same rfl rfl h.buffered ?_ ?_
      · rintro snapshot hphase
        cases hphase
      · rintro matchEnd phase hphase
        cases hphase
  | finalize matchEnd phase next m hbroadcast hfinalize =>
      have hsame : m.room = s.room ∧ m.roomSnapshots = s.roomSnapshots := by
        cases hfinalize <;> exact ⟨rfl, rfl⟩
      refine h.of_same hsame.1 rfl ?_ ?_ ?_
      · change ∀ snapshot ∈ m.roomSnapshots.buffer, _
        rw [hsame.2]
        exact h.buffered
      · rintro snapshot hphase
        cases next <;> cases hphase
      · rintro other after hphase
        cases next with
        | none => cases hphase
        | some next =>
            cases hphase
            exact h.outcome matchEnd phase hbroadcast
  | publish snapshot stage player left next m hbroadcast hpublish =>
      obtain ⟨_, rfl, -⟩ := Match.publishLatest_done hpublish
      refine h.of_same rfl rfl h.buffered ?_ ?_
      · rintro other hphase
        cases next <;> cases left <;> cases hphase
      · rintro matchEnd phase hphase
        cases next <;> cases left <;> cases hphase
  | close closing left m hbroadcast hclose =>
      have hsame : m.room = s.room ∧ m.roomSnapshots = s.roomSnapshots := by
        cases closing <;> obtain ⟨_, -, rfl⟩ := Outcome.map_eq_done hclose <;> exact ⟨rfl, rfl⟩
      refine h.of_same hsame.1 rfl ?_ ?_ ?_
      · change ∀ snapshot ∈ m.roomSnapshots.buffer, _
        rw [hsame.2]
        exact h.buffered
      · rintro snapshot hphase
        cases left <;> cases hphase
      · rintro matchEnd phase hphase
        cases left <;> cases hphase

theorem Faithful.step (h : Faithful s) (hstep : Step s t) : Faithful t := by
  have hquiet : t.room = s.room → t.loop = s.loop → t.roomSnapshots = s.roomSnapshots →
      t.broadcast = s.broadcast → Faithful t := by
    intro hroom hloop hsnapshots hbroadcast
    refine h.of_same hroom hloop ?_ ?_ ?_
    · rw [hsnapshots]
      exact h.buffered
    · rw [hbroadcast]
      exact h.updating
    · rw [hbroadcast]
      exact h.outcome
  cases hstep with
  | acknowledge player m hm =>
      rcases Match.acknowledgeMatchStart_done hm with rfl | ⟨-, _, -, rfl⟩ <;>
        exact hquiet rfl rfl rfl rfl
  | submit player input m hm =>
      obtain ⟨_, rfl, -⟩ := Match.submitInput_done hm
      exact hquiet rfl rfl rfl rfl
  | loop hstep => exact h.loopStep hstep
  | broadcast hstep => exact h.broadcastStep hstep
  | call => exact hquiet rfl rfl rfl rfl
  | close hstep =>
      obtain ⟨hroom, -, hsame⟩ := hstep.shared
      exact hquiet hroom hsame.loop hsame.roomSnapshots hsame.broadcast
  | receiveSnapshot => exact hquiet rfl rfl rfl rfl
  | receiveMatchEnd => exact hquiet rfl rfl rfl rfl
  | report => exact hquiet rfl rfl rfl rfl

/-! ### Everything delivered is the room's -/

/-- Whatever was sent, is being sent, and was reported is the end of the finished room. -/
structure Decided (s : Process) : Prop where
  sent : ∀ player, ∀ matchEnd ∈ s.sent player, s.Rules matchEnd
  sends : ∀ caller matchEnd left, s.Sends caller matchEnd left → s.Rules matchEnd
  reports : ∀ matchEnd ∈ s.reports, s.Rules matchEnd
  reported : ∀ result ∈ s.reported, ∃ matchEnd, s.Rules matchEnd ∧
    result.winnerID = matchEnd.winnerPlayerID ∧ result.reason = matchEnd.reason

/-- No call of `Close` claims the `Once` in this step. -/
def NoClaim (s t : Process) : Prop :=
  ∀ call matchEnd, s.outcome (.close call) = some (matchEnd, .entering) → s.terminalOnce = .idle →
    t.outcome (.close call) = s.outcome (.close call)

theorem Decided.quiet (h : Decided s) (hfaithful : Faithful s) (hstep : Step s t)
    (hquiet : Quiet s t) : Decided t where
  sent player matchEnd hin := by
    rw [hquiet.sent] at hin
    exact hfaithful.rules hstep (h.sent player matchEnd hin)
  sends caller matchEnd left hsends :=
    hfaithful.rules hstep (h.sends caller matchEnd left ((hquiet.sends caller matchEnd left).1 hsends))
  reports matchEnd hin := by
    rw [hquiet.reports] at hin
    exact hfaithful.rules hstep (h.reports matchEnd hin)
  reported result hin := by
    rw [hquiet.reported] at hin
    obtain ⟨matchEnd, hrules, hresult⟩ := h.reported result hin
    exact ⟨matchEnd, hfaithful.rules hstep hrules, hresult⟩

/-- What a caller that stays in the `Once` sends is the room's: it claims the `Once` as the broadcast,
or holds it already. -/
theorem Decided.rules_of_delivers (h : Decided s) (hfaithful : Faithful s) (hnoclaim : NoClaim s t)
    {caller : Caller} {matchEnd : MatchEnd} {phase : Finalizing} {left : List Side}
    (hdelivers : Delivers s t caller matchEnd phase (some (.sending left))) : s.Rules matchEnd := by
  obtain ⟨hbefore, hfinalize, -, -, hafter, -⟩ := hdelivers
  generalize t.toMatch = m at hfinalize
  cases hfinalize with
  | claim first honce =>
      cases caller with
      | broadcast => exact hfaithful.outcome matchEnd .entering (Process.outcome_broadcast hbefore)
      | close call =>
          have hsame := hnoclaim call matchEnd hbefore honce
          rw [hafter, hbefore] at hsame
          cases hsame
  | send player left matchEnds => exact h.sends caller matchEnd _ hbefore

theorem Decided.delivers (h : Decided s) (hfaithful : Faithful s) (hstep : Step s t)
    (hnoclaim : NoClaim s t) {caller : Caller} {matchEnd : MatchEnd} {phase : Finalizing}
    {next : Option Finalizing} (hdelivers : Delivers s t caller matchEnd phase next) : Decided t := by
  have hrules : ∀ {matchEnd}, s.Rules matchEnd → t.Rules matchEnd := hfaithful.rules hstep
  refine ⟨fun player other hin => hrules ?_, fun other otherEnd left hsends => hrules ?_,
    fun other hin => hrules ?_, fun result hin => ?_⟩
  · rcases hdelivers.mem_sent hin with hold | ⟨rfl, left, hsends⟩
    · exact h.sent player other hold
    · exact h.sends caller other left hsends
  · by_cases heq : other = caller
    · rw [Process.Sends, heq, hdelivers.after] at hsends
      obtain ⟨after, rfl, hpair⟩ := Option.map_eq_some_iff.1 hsends
      cases hpair
      exact h.rules_of_delivers hfaithful hnoclaim hdelivers
    · rw [Process.Sends, hdelivers.others other heq] at hsends
      exact h.sends other otherEnd left hsends
  · obtain ⟨hbefore, hfinalize, -⟩ := hdelivers
    generalize t.toMatch = m at hfinalize hin
    cases hfinalize with
    | claim => exact h.reports other hin
    | skip => exact h.reports other hin
    | send => exact h.reports other hin
    | settle =>
        rcases List.mem_append.1 hin with hin | hin
        · exact h.reports other hin
        · obtain rfl := List.mem_singleton.1 hin
          exact h.sends caller _ _ hbefore
  · rw [hdelivers.reported] at hin
    obtain ⟨other, hold, hresult⟩ := h.reported result hin
    exact ⟨other, hrules hold, hresult⟩

theorem Decided.reporting (h : Decided s) (hfaithful : Faithful s) (hstep : Step s t)
    {matchEnd : MatchEnd} (hreports : Reports s t matchEnd) : Decided t := by
  have hrules : ∀ {matchEnd}, s.Rules matchEnd → t.Rules matchEnd := hfaithful.rules hstep
  have hpending : ∀ other ∈ matchEnd :: t.reports, t.Rules other := by
    rw [← hreports.reports]
    exact fun other hin => hrules (h.reports other hin)
  refine ⟨fun player other hin => ?_, fun caller other left hsends => ?_,
    fun other hin => hpending other (List.mem_cons_of_mem _ hin), fun result hin => ?_⟩
  · rw [hreports.sent] at hin
    exact hrules (h.sent player other hin)
  · exact hrules (h.sends caller other left ((hreports.sends caller other left).1 hsends))
  · have hold : result ∈ s.reported → ∃ matchEnd, t.Rules matchEnd ∧
        result.winnerID = matchEnd.winnerPlayerID ∧ result.reason = matchEnd.reason := by
      intro hin
      obtain ⟨other, hold, hresult⟩ := h.reported result hin
      exact ⟨other, hrules hold, hresult⟩
    rcases hreports.reported with heq | ⟨endedAt, heq⟩
    · rw [heq] at hin
      exact hold hin
    · rw [heq] at hin
      rcases List.mem_append.1 hin with hin | hin
      · exact hold hin
      · obtain rfl := List.mem_singleton.1 hin
        exact ⟨matchEnd, hpending matchEnd (List.mem_cons_self ..), rfl, rfl⟩

/-- A step in which no call of `Close` claims the `Once` keeps everything delivered the room's. -/
theorem Decided.step (h : Decided s) (hfaithful : Faithful s) (hstep : Step s t)
    (hnoclaim : NoClaim s t) : Decided t := by
  rcases hstep.terminal_cases with hquiet | ⟨caller, e, phase, next, hdelivers⟩ | ⟨e, hreports⟩
  · exact h.quiet hfaithful hstep hquiet
  · exact h.delivers hfaithful hstep hnoclaim hdelivers
  · exact h.reporting hfaithful hstep hreports

/-! ### Until a session is closed -/

/-- No call of `playerDisconnected` has begun. -/
def Process.Undisconnected (s : Process) : Prop :=
  ∀ player, (s.players.get player).closeOnce = .idle

theorem closeOnce_of_setPlayer {player : Side} {session : PlayerSession}
    (hplayers : t.toMatch.players = (s.setPlayer player session).players)
    (hsession : session.closeOnce = (s.players.get player).closeOnce) (other : Side) :
    (t.players.get other).closeOnce = (s.players.get other).closeOnce := by
  rw [hplayers]
  exact Match.setPlayer_same PlayerSession.closeOnce hsession other

/-- What a step leaves undisconnected was so before, and the step begins no call's work. -/
theorem undisconnected_of_step (hstep : Step s t) (ht : t.Undisconnected) : s.Undisconnected ∧
    (t.closes = s.closes ∨ (∃ player, t.closes = s.closes ++ [⟨player, .closing⟩]) ∨
      ∃ (call : Nat) (c : CloseCall), s.closes[call]? = some c ∧ c.phase ≠ .closing) := by
  have hsame : (∀ other, (t.players.get other).closeOnce = (s.players.get other).closeOnce) →
      s.Undisconnected := fun hsame other => (hsame other).symm.trans (ht other)
  cases hstep with
  | acknowledge player m hm =>
      rcases Match.acknowledgeMatchStart_done hm with rfl | ⟨-, _, -, rfl⟩
      · exact ⟨ht, .inl rfl⟩
      · exact ⟨hsame (closeOnce_of_setPlayer rfl rfl), .inl rfl⟩
  | submit player input m hm =>
      obtain ⟨_, rfl, -⟩ := Match.submitInput_done hm
      exact ⟨ht, .inl rfl⟩
  | loop hstep => cases hstep <;> exact ⟨ht, .inl rfl⟩
  | broadcast hstep =>
      cases hstep with
      | finalize _ _ _ _ _ hfinalize =>
          refine ⟨?_, .inl rfl⟩
          cases hfinalize with
          | send => exact hsame (closeOnce_of_setPlayer rfl rfl)
          | claim => exact ht
          | skip => exact ht
          | settle => exact ht
      | publish _ _ _ _ _ _ _ hpublish =>
          obtain ⟨_, rfl, -⟩ := Match.publishLatest_done hpublish
          exact ⟨hsame (closeOnce_of_setPlayer rfl rfl), .inl rfl⟩
      | close closing _ _ _ hclose =>
          cases closing <;> obtain ⟨_, -, rfl⟩ := Outcome.map_eq_done hclose <;>
            exact ⟨hsame (closeOnce_of_setPlayer rfl rfl), .inl rfl⟩
      | receive => exact ⟨ht, .inl rfl⟩
      | ended => exact ⟨ht, .inl rfl⟩
      | decide => exact ⟨ht, .inl rfl⟩
      | update => exact ⟨ht, .inl rfl⟩
  | call player => exact ⟨ht, .inr (.inl ⟨player, rfl⟩)⟩
  | @close call player _ hstep =>
      have hmarked : ∀ {once : Once}, t.toMatch.players = (s.setPlayer player
          { s.players.get player with closeOnce := once }).players → once = .idle := by
        intro once hplayers
        have hidle := ht player
        rw [hplayers, Match.get_setPlayer, if_pos rfl] at hidle
        exact hidle
      cases hstep with
      | begin => cases hmarked rfl
      | skip hcall hdone =>
          have hidle : (s.players.get player).closeOnce = .idle := ht player
          rw [hdone] at hidle
          cases hidle
      | disconnect hcall => exact ⟨ht, .inr (.inr ⟨call, _, hcall, ClosePhase.noConfusion⟩)⟩
      | finalize _ _ _ _ hcall hfinalize =>
          refine ⟨?_, .inr (.inr ⟨call, _, hcall, ClosePhase.noConfusion⟩)⟩
          cases hfinalize with
          | send => exact hsame (closeOnce_of_setPlayer rfl rfl)
          | claim => exact ht
          | skip => exact ht
          | settle => exact ht
      | abort hcall =>
          refine ⟨?_, .inr (.inr ⟨call, _, hcall, ClosePhase.noConfusion⟩)⟩
          have hplayers : s.abort.players = s.players := by
            obtain ⟨_, _, heq⟩ := s.abort_eq
            rw [heq]
          exact fun other => (congrArg (fun players => (Pair.get players other).closeOnce)
            hplayers).symm.trans (ht other)
      | leave => cases hmarked rfl
  | receiveSnapshot => exact ⟨hsame (closeOnce_of_setPlayer rfl rfl), .inl rfl⟩
  | receiveMatchEnd => exact ⟨hsame (closeOnce_of_setPlayer rfl rfl), .inl rfl⟩
  | report => exact ⟨ht, .inl rfl⟩

/-- As long as no call of `playerDisconnected` has begun, every call of `Close` is at its beginning
and everything delivered is the room's. -/
def Undisturbed (s : Process) : Prop :=
  s.Undisconnected → Decided s ∧
    ∀ (call : Nat) (c : CloseCall), s.closes[call]? = some c → c.phase = .closing

theorem Undisturbed.step (h : Undisturbed s) (hfaithful : Faithful s) (hstep : Step s t) :
    Undisturbed t := by
  intro ht
  obtain ⟨hs, hcloses⟩ := undisconnected_of_step hstep ht
  obtain ⟨hdecided, hclosing⟩ := h hs
  have hnoclaim : NoClaim s t := by
    intro call matchEnd houtcome
    cases hcall : s.closes[call]? with
    | none =>
        rw [Process.outcome, hcall] at houtcome
        cases houtcome
    | some c =>
        rw [Process.outcome_close hcall, hclosing call c hcall] at houtcome
        cases houtcome
  refine ⟨hdecided.step hfaithful hstep hnoclaim, fun call c hcall => ?_⟩
  rcases hcloses with heq | ⟨player, heq⟩ | ⟨other, c', hother, hphase⟩
  · rw [heq] at hcall
    exact hclosing call c hcall
  · rw [heq, List.getElem?_append] at hcall
    split_ifs at hcall
    · exact hclosing call c hcall
    · rw [List.getElem?_singleton] at hcall
      split_ifs at hcall
      cases hcall
      rfl
  · exact absurd (hclosing other c' hother) hphase

/-! ### The condition -/

/-- No call of `Close` enters the `Once` before the broadcast goroutine. -/
def Process.Unclaimed (s : Process) : Match.Action → Prop
  | .closeNext call _ => (s.outcome (.close call)).map Prod.snd = some .entering →
      s.terminalOnce ≠ .idle
  | _ => True

instance (s : Process) (action : Match.Action) : Decidable (s.Unclaimed action) := by
  unfold Process.Unclaimed
  split <;> infer_instance

theorem noClaim_of_unclaimed {action : Match.Action} (hdone : s.step action = .done t)
    (hunclaimed : s.Unclaimed action) : NoClaim s t := by
  intro call matchEnd houtcome hidle
  cases action with
  | closeNext other first =>
      by_cases heq : call = other
      · subst other
        exact absurd hidle (hunclaimed (by rw [houtcome]; rfl))
      · obtain ⟨player, hstep⟩ := Process.closeNext_done hdone
        have hne : Caller.close call ≠ .close other := fun h => heq (Caller.close.inj h)
        cases hstep <;> exact Process.outcome_set_of_ne hne rfl rfl
  | acknowledgeMatchStart player =>
      obtain ⟨m, -, rfl⟩ := Outcome.map_eq_done (show (s.acknowledgeMatchStart player).map _ = _ from
        hdone)
      rfl
  | submitInput player input =>
      obtain ⟨m, -, rfl⟩ := Outcome.map_eq_done (show (s.submitInput player input).map _ = _ from
        hdone)
      rfl
  | loopDone => cases Process.loopDone_done hdone <;> rfl
  | loopStart =>
      rw [Process.step, Process.loopStart] at hdone
      split at hdone
      · obtain ⟨_, -, rfl⟩ := Outcome.map_eq_done hdone
        rfl
      · cases hdone
  | loopInput => cases Process.loopInput_done hdone <;> rfl
  | loopTick => cases Process.loopTick_done hdone <;> rfl
  | loopNext => cases Process.loopNext_done hdone <;> rfl
  | broadcastNext => cases Process.broadcastNext_done hdone <;> rfl
  | close player =>
      cases hdone
      exact Process.outcome_call player _ rfl rfl
  | receiveSnapshot =>
      rw [Process.step, Process.receiveSnapshot] at hdone
      split at hdone
      · cases hdone
        rfl
      · cases hdone
  | receiveMatchEnd =>
      rw [Process.step, Process.receiveMatchEnd] at hdone
      split at hdone
      · cases hdone
        rfl
      · cases hdone
  | report =>
      rw [Process.step, Process.report] at hdone
      split at hdone
      · cases hdone
      · cases hdone
        rfl

/-! ### Every interleaving -/

/-- What every step keeps, up to the first call of `playerDisconnected`. -/
structure Process.Traced (s : Process) : Prop where
  safe : s.Safe
  faithful : Faithful s
  undisturbed : Undisturbed s

theorem Process.Traced.next (h : s.Traced) {action : Match.Action} (hnext : s.next action = some t) :
    t.Traced := by
  obtain ⟨-, hdone | ⟨hpanicked, -⟩⟩ := Process.next_cases hnext
  · have hstep := Process.step_done h.safe.wired.barrier hdone
    exact ⟨h.safe.next hnext, h.faithful.step hstep, h.undisturbed.step h.faithful hstep⟩
  · exact absurd hpanicked (h.safe.step_ne_panicked action)

theorem startMatch_traced {matchID playerA playerB : String} {reporter : Bool}
    (h : startMatch matchID playerA playerB reporter = .ok s) : s.Traced := by
  obtain ⟨duel, hduel, rfl⟩ := startMatch_ok h
  obtain ⟨-, -, -, -, rfl⟩ := Simulation.newWithRuleset_ok hduel
  refine ⟨initialProcess_safe _ _ _ _ _, ⟨?_, fun _ => MatchStatus.noConfusion, ?_, ?_, ?_⟩,
    fun _ => ⟨⟨?_, ?_, ?_, ?_⟩, ?_⟩⟩
  · rintro snapshot (hloop | hloop | hloop) <;> cases hloop
  · intro snapshot hin
    cases hin
  · intro snapshot hbroadcast
    cases hbroadcast
  · intro matchEnd phase hbroadcast
    cases hbroadcast
  · intro player matchEnd hin
    cases player <;> cases hin
  · intro caller matchEnd left hsends
    cases caller <;> cases hsends
  · intro matchEnd hin
    cases hin
  · intro result hin
    cases hin
  · intro call c hcall
    cases hcall

theorem finishReasonToProto_ne_disconnect (reason : Simulation.FinishReason) :
    finishReasonToProto reason ≠ .disconnect := by
  cases reason <;> decide

/-- Once the room has finished with no disconnect begun, every end delivered and every result reported
is the room's, as long as no call of `Close` enters the `Once` before the broadcast goroutine. -/
theorem result_stands {matchID playerA playerB : String} {reporter : Bool} {s₀ : Process}
    {before after : List Match.Action} (hstart : startMatch matchID playerA playerB reporter = .ok s₀)
    (hbefore : Transition.run Process.next s₀ before = some s)
    (hfinished : s.room.status = .finished) (hundisconnected : s.Undisconnected)
    (hafter : Transition.run Process.next s after = some t)
    (hunclaimed : Transition.Meets Process.next Process.Unclaimed s after) :
    (∀ player, ∀ matchEnd ∈ t.sent player, matchEnd.winnerPlayerID = s.room.winnerID ∧
      matchEnd.reason = finishReasonToProto s.room.finishReason ∧ matchEnd.reason ≠ .disconnect) ∧
    ∀ result ∈ t.reported, result.winnerID = s.room.winnerID ∧
      result.reason = finishReasonToProto s.room.finishReason ∧ result.reason ≠ .disconnect := by
  have htraced : s.Traced := Transition.run_invariant (fun _ _ _ h hnext => h.next hnext) hbefore
    (startMatch_traced hstart)
  obtain ⟨hdecided, hroom⟩ : Decided t ∧ t.room = s.room := by
    have hkept : t.Traced ∧ Decided t ∧ t.room = s.room := by
      refine Transition.meets_invariant (P := fun u => u.Traced ∧ Decided u ∧ u.room = s.room) ?_
        hafter hunclaimed ⟨htraced, (htraced.undisturbed hundisconnected).1, rfl⟩
      rintro u action v ⟨htraced, hdecided, hroom⟩ hunclaimed hnext
      obtain ⟨-, hdone | ⟨hpanicked, -⟩⟩ := Process.next_cases hnext
      · have hstep := Process.step_done htraced.safe.wired.barrier hdone
        refine ⟨htraced.next hnext, hdecided.step htraced.faithful hstep
          (noClaim_of_unclaimed hdone hunclaimed), ?_⟩
        rw [htraced.faithful.room_eq hstep (by rw [hroom]; exact hfinished), hroom]
      · exact absurd hpanicked (htraced.safe.step_ne_panicked action)
    exact hkept.2
  have hrules : ∀ matchEnd, t.Rules matchEnd → matchEnd.winnerPlayerID = s.room.winnerID ∧
      matchEnd.reason = finishReasonToProto s.room.finishReason ∧ matchEnd.reason ≠ .disconnect := by
    rintro matchEnd ⟨-, rfl⟩
    rw [hroom]
    exact ⟨rfl, rfl, finishReasonToProto_ne_disconnect _⟩
  refine ⟨fun player matchEnd hin => hrules matchEnd (hdecided.sent player matchEnd hin), ?_⟩
  intro result hin
  obtain ⟨matchEnd, hmatchEnd, hwinner, hreason⟩ := hdecided.reported result hin
  rw [hwinner, hreason]
  exact hrules matchEnd hmatchEnd

end

/-! ### A knockout -/

/-- Ticks of the room loop with a snapshot waiting in its channel. -/
def ticks (count : Nat) : List Match.Action :=
  (List.replicate count [.loopTick, .loopNext, .loopNext, .loopNext, .loopNext]).flatten

def attack (sequence : UInt32) : List Match.Action :=
  [.submitInput .a ⟨sequence + 2, 0, 0, [⟨sequence, .lightAttack⟩]⟩, .loopInput]

/-- After the countdown the players walk up to each other and alice hits bob five times. The last step
of the room has been taken, its snapshot is not published yet. -/
def knockout : List Match.Action :=
  [.acknowledgeMatchStart .a, .acknowledgeMatchStart .b, .loopStart, .loopTick, .loopNext, .loopNext] ++
  ticks 89 ++
  [.submitInput .a ⟨1, 1, 0, []⟩, .loopInput, .submitInput .b ⟨1, -1, 0, []⟩, .loopInput] ++ ticks 20 ++
  [.submitInput .a ⟨2, 0, 0, []⟩, .loopInput, .submitInput .b ⟨2, 0, 0, []⟩, .loopInput] ++
  attack 1 ++ ticks 15 ++ attack 2 ++ ticks 15 ++ attack 3 ++ ticks 15 ++ attack 4 ++ ticks 15 ++
  attack 5 ++ ticks 3 ++ [.loopTick, .loopNext]

/-- Bob disconnects once the broadcast goroutine has taken the `Once`, and every goroutine returns. -/
def lateDisconnect : List Match.Action :=
  List.replicate 4 .loopNext ++ List.replicate 3 (.broadcastNext .a) ++
  [.close .b, .closeNext 0 .b, .closeNext 0 .b] ++ List.replicate 3 (.broadcastNext .a) ++
  List.replicate 3 (.closeNext 0 .b) ++ List.replicate 5 (.broadcastNext .a) ++
  [.receiveMatchEnd .a, .receiveMatchEnd .b, .report 7]

theorem result_stands_knockout : ∃ s₀ s t, startMatch "match-1" "alice" "bob" true = .ok s₀ ∧
    Transition.run Process.next s₀ knockout = some s ∧
    Transition.run Process.next s lateDisconnect = some t ∧ s.room.winnerID = "alice" ∧
    (t.sent .b).length = 1 ∧ ∀ matchEnd ∈ t.sent .b, matchEnd.winnerPlayerID = s.room.winnerID := by
  have hstart := startMatch_of_players "match-1" (show "alice" ≠ "" by decide)
    (show "bob" ≠ "" by decide) (by decide) true
  generalize hs₀ : initialProcess _ _ _ _ _ = s₀ at hstart
  have hbefore : (Transition.run Process.next s₀ knockout).map (fun s => decide
      (s.room.status = .finished ∧ s.room.winnerID = "alice" ∧
        (s.players.get .a).closeOnce = .idle ∧ (s.players.get .b).closeOnce = .idle ∧
        Transition.Meets Process.next Process.Unclaimed s lateDisconnect ∧
        (Transition.run Process.next s lateDisconnect).map (fun t => (t.sent .b).length) = some 1)) =
        some true := by
    rw [← hs₀]
    decide +kernel
  obtain ⟨s, hbefore, hstate⟩ := Option.map_eq_some_iff.1 hbefore
  obtain ⟨hfinished, hwinner, ha, hb, hunclaimed, hafter⟩ := of_decide_eq_true hstate
  obtain ⟨t, hafter, hlength⟩ := Option.map_eq_some_iff.1 hafter
  have hundisconnected : s.Undisconnected := by
    intro player
    cases player
    · exact ha
    · exact hb
  have hstands := result_stands hstart hbefore hfinished hundisconnected hafter hunclaimed
  exact ⟨s₀, s, t, hstart, hbefore, hafter, hwinner, hlength,
    fun matchEnd hin => (hstands.1 .b matchEnd hin).1⟩

/-- Alice, who has won, disconnects before the finished snapshot is published: both players are told
that bob wins by a disconnect. -/
theorem disconnect_replaces_result : ¬ ∀ matchID playerA playerB reporter s₀ before s after t,
    startMatch matchID playerA playerB reporter = .ok s₀ →
    Transition.run Process.next s₀ before = some s → s.room.status = .finished →
    s.Undisconnected → Transition.run Process.next s after = some t →
    ∀ player, ∀ matchEnd ∈ t.sent player, matchEnd.winnerPlayerID = s.room.winnerID ∧
      matchEnd.reason = finishReasonToProto s.room.finishReason ∧ matchEnd.reason ≠ .disconnect := by
  intro hclaim
  have hstart := startMatch_of_players "match-1" (show "alice" ≠ "" by decide)
    (show "bob" ≠ "" by decide) (by decide) true
  generalize hs₀ : initialProcess _ _ _ _ _ = s₀ at hstart
  have hbefore : (Transition.run Process.next s₀ knockout).map (fun s => decide
      (s.room.status = .finished ∧ (s.players.get .a).closeOnce = .idle ∧
        (s.players.get .b).closeOnce = .idle ∧
        (Transition.run Process.next s (.close .a :: List.replicate 4 (.closeNext 0 .a))).map
          (fun t => (t.sent .a).map fun matchEnd => matchEnd.reason) = some [.disconnect])) =
        some true := by
    rw [← hs₀]
    decide +kernel
  obtain ⟨s, hbefore, hstate⟩ := Option.map_eq_some_iff.1 hbefore
  obtain ⟨hfinished, ha, hb, hafter⟩ := of_decide_eq_true hstate
  obtain ⟨t, hafter, hreasons⟩ := Option.map_eq_some_iff.1 hafter
  have hundisconnected : s.Undisconnected := by
    intro player
    cases player
    · exact ha
    · exact hb
  obtain ⟨matchEnd, hin, hreason⟩ : ∃ matchEnd ∈ t.sent .a, matchEnd.reason = .disconnect := by
    have hmem : Gamev1.MatchFinishReason.disconnect ∈ (t.sent .a).map fun e => e.reason := by
      rw [hreasons]
      exact List.mem_singleton_self _
    exact List.mem_map.1 hmem
  exact (hclaim _ _ _ _ _ _ _ _ _ hstart hbefore hfinished hundisconnected hafter .a matchEnd
    hin).2.2 hreason

end PvpDuel.MatchServer
