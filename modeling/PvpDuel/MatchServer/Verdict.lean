import PvpDuel.MatchServer.Authority
import PvpDuel.MatchServer.Snapshots
import PvpDuel.Room.Lifecycle

/-!
# How a match is decided

The end of a match is that of its finished room, or a win of the player whose opponent's session was
closed. The result that is reported names the match, its players and what both players were told.
-/

namespace PvpDuel.MatchServer

open Simulation (Room)
open Gamev1 (MatchEnd)

section

variable {s t : Process}

/-! ### What a match keeps -/

namespace Process

/-- `Close` of the player's session was called. -/
def ClosedBy (s : Process) (player : Side) : Prop := ∃ call ∈ s.closes, call.player = player

end Process

/-- The match stays the match, and no call of `Close` is forgotten. -/
structure SameMatch (s t : Process) : Prop where
  matchID : t.matchID = s.matchID
  playerAID : t.playerAID = s.playerAID
  playerBID : t.playerBID = s.playerBID
  closes : ∀ player, s.ClosedBy player → t.ClosedBy player

theorem SameMatch.of_eq (hmatch : t.matchID = s.matchID) (ha : t.playerAID = s.playerAID)
    (hb : t.playerBID = s.playerBID) (hcloses : t.closes = s.closes) : SameMatch s t := by
  refine ⟨hmatch, ha, hb, fun player hclosed => ?_⟩
  rw [Process.ClosedBy, hcloses]
  exact hclosed

theorem SameMatch.of_setClose {call : Nat} {c : CloseCall} (hcall : s.closes[call]? = some c)
    {phase : ClosePhase} (hmatch : t.matchID = s.matchID) (ha : t.playerAID = s.playerAID)
    (hb : t.playerBID = s.playerBID) (hcloses : t.closes = s.closes.set call ⟨c.player, phase⟩) :
    SameMatch s t := by
  refine ⟨hmatch, ha, hb, ?_⟩
  rintro player ⟨other, hin, hplayer⟩
  rw [Process.ClosedBy, hcloses]
  obtain ⟨i, hi⟩ := List.mem_iff_getElem?.1 hin
  by_cases heq : call = i
  · subst heq
    rw [hcall] at hi
    cases hi
    obtain ⟨hlt, -⟩ := List.getElem?_eq_some_iff.1 hcall
    exact ⟨_, List.mem_iff_getElem?.2 ⟨call, List.getElem?_set_self hlt⟩, hplayer⟩
  · refine ⟨other, List.mem_iff_getElem?.2 ⟨i, ?_⟩, hplayer⟩
    rw [List.getElem?_set_ne heq]
    exact hi

theorem Match.Finalizes.same {m m' : Match} {matchEnd : MatchEnd} {phase : Finalizing}
    {next : Option Finalizing} (h : m.Finalizes matchEnd phase next m') :
    m'.matchID = m.matchID ∧ m'.playerAID = m.playerAID ∧ m'.playerBID = m.playerBID := by
  cases h <;> exact ⟨rfl, rfl, rfl⟩

theorem Step.same (h : Step s t) : SameMatch s t := by
  cases h with
  | acknowledge player m hm =>
      obtain rfl | ⟨-, _, -, rfl⟩ := Match.acknowledgeMatchStart_done hm
      · exact .of_eq rfl rfl rfl rfl
      · exact .of_eq rfl rfl rfl rfl
  | submit player input m hm =>
      obtain ⟨_, rfl, -⟩ := Match.submitInput_done hm
      exact .of_eq rfl rfl rfl rfl
  | loop hstep => cases hstep <;> exact .of_eq rfl rfl rfl rfl
  | broadcast hstep =>
      cases hstep with
      | finalize _ _ _ _ _ hfinalize =>
          obtain ⟨hmatch, ha, hb⟩ := hfinalize.same
          exact .of_eq hmatch ha hb rfl
      | publish _ _ _ _ _ _ _ hpublish =>
          obtain ⟨_, rfl, -⟩ := Match.publishLatest_done hpublish
          exact .of_eq rfl rfl rfl rfl
      | close closing _ _ _ hclose =>
          cases closing <;> obtain ⟨_, -, rfl⟩ := Outcome.map_eq_done hclose <;>
            exact .of_eq rfl rfl rfl rfl
      | receive | ended | decide | update => exact .of_eq rfl rfl rfl rfl
  | call player =>
      refine ⟨rfl, rfl, rfl, ?_⟩
      rintro other ⟨call, hin, hplayer⟩
      exact ⟨call, List.mem_append_left _ hin, hplayer⟩
  | close hstep =>
      cases hstep with
      | begin hcall | skip hcall | disconnect hcall | leave hcall =>
          exact .of_setClose hcall rfl rfl rfl rfl
      | finalize _ _ _ _ hcall hfinalize =>
          obtain ⟨hmatch, ha, hb⟩ := hfinalize.same
          exact .of_setClose hcall hmatch ha hb rfl
      | abort hcall =>
          have hsame : s.abort.matchID = s.matchID ∧ s.abort.playerAID = s.playerAID ∧
              s.abort.playerBID = s.playerBID := by
            obtain ⟨_, _, heq⟩ := s.abort_eq
            rw [heq]
            exact ⟨rfl, rfl, rfl⟩
          exact .of_setClose hcall hsame.1 hsame.2.1 hsame.2.2 rfl
  | receiveSnapshot | receiveMatchEnd | report => exact .of_eq rfl rfl rfl rfl

/-! ### Who decides -/

/-- The end is that of the finished room, or the win of a player whose opponent's session was closed. -/
def Process.Verdict (s : Process) (matchEnd : MatchEnd) : Prop :=
  s.Rules matchEnd ∨ ∃ player, s.ClosedBy player ∧ matchEnd.reason = .disconnect ∧
    matchEnd.winnerPlayerID = (s.players.get player.other).playerID

/-- What every step keeps of how a match is decided. -/
structure Judged (s : Process) : Prop where
  safe : s.Safe
  faithful : Faithful s
  lifecycle : ∃ n, s.room.Lifecycle n
  seats : ∀ side, (s.room.seats.get side).player.id = (s.players.get side).playerID
  players : s.playerAID = s.players.a.playerID ∧ s.playerBID = s.players.b.playerID
  distinct : s.players.a.playerID ≠ s.players.b.playerID
  outcomes : ∀ caller matchEnd phase, s.outcome caller = some (matchEnd, phase) → s.Verdict matchEnd
  sent : ∀ player, ∀ matchEnd ∈ s.sent player, s.Verdict matchEnd
  reported : ∀ result ∈ s.reported, result.matchID = s.matchID ∧ result.playerAID = s.playerAID ∧
    result.playerBID = s.playerBID

theorem opponentID_eq (m : Match) (hne : m.players.a.playerID ≠ m.players.b.playerID) (player : Side) :
    m.opponentID (m.players.get player).playerID = (m.players.get player.other).playerID := by
  unfold Match.opponentID
  cases player with
  | a =>
      change (if m.players.a.playerID ≠ m.players.a.playerID then _ else
        if m.players.b.playerID ≠ m.players.a.playerID then m.players.b.playerID else "") =
          m.players.b.playerID
      rw [if_neg (not_not_intro rfl), if_pos hne.symm]
  | b =>
      change (if m.players.a.playerID ≠ m.players.b.playerID then m.players.a.playerID else _) =
        m.players.a.playerID
      rw [if_pos hne]

theorem Judged.verdict (h : Judged s) (hstep : Step s t) {matchEnd : MatchEnd}
    (hverdict : s.Verdict matchEnd) : t.Verdict matchEnd := by
  obtain hrules | ⟨player, hclosed, hreason, hwinner⟩ := hverdict
  · exact .inl (h.faithful.rules hstep hrules)
  · refine .inr ⟨player, hstep.same.closes player hclosed, hreason, ?_⟩
    rw [(hstep.session player.other).playerID]
    exact hwinner

theorem Judged.outcome (h : Judged s) (hstep : Step s t) {caller : Caller} {matchEnd : MatchEnd}
    {phase : Finalizing} (houtcome : t.outcome caller = some (matchEnd, phase)) :
    t.Verdict matchEnd := by
  apply h.verdict hstep
  obtain ⟨before, hbefore⟩ | ⟨snapshot, -, hupdating, hfinished, rfl⟩ |
    ⟨call, player, -, hcall, rfl⟩ := hstep.outcome_cases houtcome
  · exact h.outcomes caller matchEnd before hbefore
  · exact .inl (h.faithful.updating snapshot hupdating hfinished)
  · exact .inr ⟨player, ⟨_, List.mem_of_getElem? hcall, rfl⟩, rfl,
      opponentID_eq s.toMatch h.distinct player⟩

theorem Judged.step (h : Judged s) (hstep : Step s t) (hsafe : t.Safe) {action : Match.Action}
    (hroom : RoomStep s t action) : Judged t := by
  have hsame := hstep.same
  have hid : ∀ side, (t.players.get side).playerID = (s.players.get side).playerID :=
    fun side => (hstep.session side).playerID
  have ha := hid .a
  have hb := hid .b
  rw [Pair.get_a, Pair.get_a] at ha
  rw [Pair.get_b, Pair.get_b] at hb
  refine ⟨hsafe, h.faithful.step hstep, ?_, fun side => ?_, ?_, ?_, fun caller matchEnd phase => ?_,
    fun player matchEnd hin => ?_, fun result hin => ?_⟩
  · obtain ⟨n, hlife⟩ := h.lifecycle
    cases hroom with
    | idle _ heq => exact ⟨n, heq ▸ hlife⟩
    | submit _ _ _ heq => exact ⟨n, heq ▸ hlife⟩
    | input queued _ _ heq => exact ⟨n, heq ▸ hlife.submitInput queued.playerID queued.input⟩
    | step _ _ heq => exact ⟨n + 1, heq ▸ hlife.step⟩
  · rw [hroom.id_eq, h.seats, hid]
  · rw [hsame.playerAID, hsame.playerBID, ha, hb]
    exact h.players
  · rw [ha, hb]
    exact h.distinct
  · exact h.outcome hstep
  · obtain hold | ⟨caller, left, hsends⟩ := hstep.mem_sent hin
    · exact h.verdict hstep (h.sent player matchEnd hold)
    · exact h.verdict hstep (h.outcomes caller matchEnd _ hsends)
  · rw [hsame.matchID, hsame.playerAID, hsame.playerBID]
    obtain hquiet | ⟨_, _, _, _, hdelivers⟩ | ⟨matchEnd, hreports⟩ := hstep.terminal_cases
    · exact h.reported result (hquiet.reported ▸ hin)
    · exact h.reported result (hdelivers.reported ▸ hin)
    · obtain heq | ⟨endedAt, heq⟩ := hreports.reported
      · exact h.reported result (heq ▸ hin)
      · rw [heq] at hin
        obtain hin | hin := List.mem_append.1 hin
        · exact h.reported result hin
        · obtain rfl := List.mem_singleton.1 hin
          exact ⟨rfl, rfl, rfl⟩

theorem Judged.next (h : Judged s) {action : Match.Action} (hnext : s.next action = some t) :
    Judged t := by
  obtain ⟨-, hdone | ⟨hpanicked, -⟩⟩ := Process.next_cases hnext
  · exact h.step (Process.step_done h.safe.wired.barrier hdone) (h.safe.next hnext)
      (Process.step_roomStep hdone)
  · exact absurd hpanicked (h.safe.step_ne_panicked action)

theorem startMatch_judged {matchID playerA playerB : String} {reporter : Bool}
    (h : startMatch matchID playerA playerB reporter = .ok s) : Judged s ∧
      s.matchID = matchID ∧ s.playerAID = playerA ∧ s.playerBID = playerB ∧ playerA ≠ "" ∧
        playerB ≠ "" := by
  have htraced := startMatch_traced h
  obtain ⟨duel, hduel, rfl⟩ := startMatch_ok h
  obtain ⟨ha, hb, hne, hrules, rfl⟩ := Simulation.newWithRuleset_ok hduel
  refine ⟨⟨htraced.safe, htraced.faithful, ⟨0, Room.initialRoom_lifecycle _ _ hrules⟩, fun side => ?_,
    ⟨rfl, rfl⟩, hne, fun caller matchEnd phase houtcome => ?_, fun player matchEnd hin => ?_,
    fun result hin => ?_⟩, rfl, rfl, rfl, ha, hb⟩
  · cases side <;> rfl
  · cases caller <;> cases houtcome
  · cases player <;> cases hin
  · cases hin

/-- The end of a finished room names who has more hit points, and nobody where they are equal. -/
theorem Judged.rules (h : Judged s) {matchEnd : MatchEnd} (hrules : s.Rules matchEnd) :
    matchEnd = roomEnd s.room.snapshot ∧ s.room.WonByHP ∧
      (s.room.finishReason = .ko ∧ matchEnd.reason = .ko ∨
        s.room.finishReason = .timeLimit ∧ matchEnd.reason = .timeLimit) := by
  obtain ⟨hfinished, rfl⟩ := hrules
  obtain ⟨n, hlife⟩ := h.lifecycle
  obtain ⟨-, hwon, ⟨hreason, -⟩ | ⟨hreason, -⟩⟩ := hlife.finished hfinished
  · refine ⟨rfl, hwon, .inl ⟨hreason, ?_⟩⟩
    change finishReasonToProto s.room.finishReason = _
    rw [hreason]
    rfl
  · refine ⟨rfl, hwon, .inr ⟨hreason, ?_⟩⟩
    change finishReasonToProto s.room.finishReason = _
    rw [hreason]
    rfl

theorem Judged.winner (h : Judged s) {matchEnd : MatchEnd} (hverdict : s.Verdict matchEnd) :
    matchEnd.winnerPlayerID = "" ∨ matchEnd.winnerPlayerID = s.playerAID ∨
      matchEnd.winnerPlayerID = s.playerBID := by
  rw [h.players.1, h.players.2]
  have hside : ∀ side, (s.players.get side).playerID = s.players.a.playerID ∨
      (s.players.get side).playerID = s.players.b.playerID := by
    intro side
    cases side
    · exact .inl rfl
    · exact .inr rfl
  obtain hrules | ⟨player, -, -, hwinner⟩ := hverdict
  · obtain ⟨rfl, hwon, -⟩ := h.rules hrules
    change s.room.winnerID = "" ∨ s.room.winnerID = _ ∨ s.room.winnerID = _
    obtain hlt | heq | hgt := Std.lt_trichotomy s.room.seats.a.player.hp s.room.seats.b.player.hp
    · have hwinner := hwon.winner .b hlt
      rw [h.seats] at hwinner
      rw [hwinner]
      exact .inr (hside .b)
    · exact .inl (hwon.draw heq)
    · have hwinner := hwon.winner .a hgt
      rw [h.seats] at hwinner
      rw [hwinner]
      exact .inr (hside .a)
  · rw [hwinner]
    exact .inr (hside player.other)

theorem run_judged {matchID playerA playerB : String} {reporter : Bool} {s₀ : Process}
    {actions : List Match.Action} (hstart : startMatch matchID playerA playerB reporter = .ok s₀)
    (hrun : Transition.run Process.next s₀ actions = some s) : Judged s ∧
      s.matchID = matchID ∧ s.playerAID = playerA ∧ s.playerBID = playerB := by
  obtain ⟨hjudged, hmatch, ha, hb, -⟩ := startMatch_judged hstart
  refine Transition.run_invariant (P := fun s => Judged s ∧ s.matchID = matchID ∧
    s.playerAID = playerA ∧ s.playerBID = playerB) ?_ hrun ⟨hjudged, hmatch, ha, hb⟩
  rintro s action t ⟨h, hmatch, ha, hb⟩ hnext
  refine ⟨h.next hnext, ?_⟩
  obtain ⟨-, hdone | ⟨hpanicked, -⟩⟩ := Process.next_cases hnext
  · have hsame := (Process.step_done h.safe.wired.barrier hdone).same
    exact ⟨hsame.matchID.trans hmatch, hsame.playerAID.trans ha, hsame.playerBID.trans hb⟩
  · exact absurd hpanicked (h.safe.step_ne_panicked action)

theorem Judged.report (h : Judged s) {result : TerminalResult} (hin : result ∈ s.reported) :
    ∃ matchEnd, (∀ player, s.sent player = [matchEnd]) ∧ s.Verdict matchEnd ∧
      result.winnerID = matchEnd.winnerPlayerID ∧ result.reason = matchEnd.reason := by
  obtain ⟨-, -, hreported⟩ | ⟨matchEnd, hsent, hreported⟩ := h.safe.claimed.report_cases
  · rw [hreported] at hin
    cases hin
  · have hmem : matchEnd ∈ s.sent .a := by
      rw [hsent]
      exact List.mem_singleton_self matchEnd
    exact ⟨matchEnd, hsent, h.sent .a matchEnd hmem, hreported.reported result hin⟩

end

/-- In every run of a match, the end that a player is told is a disconnect that the other player wins
after `Close` of a session, or it is the last snapshot of the finished room: a knockout exactly when
somebody has no hit points, won by whoever has more of them. The one result that may be reported names the
match and its players, and tells the same end that both players were told. -/
theorem decided_by_fight_or_disconnect {matchID playerA playerB : String} {reporter : Bool}
    {s₀ s : Process} {actions : List Match.Action}
    (hstart : startMatch matchID playerA playerB reporter = .ok s₀)
    (hrun : Transition.run Process.next s₀ actions = some s) :
    (∀ player, ∀ e ∈ s.sent player,
      (e.reason = .disconnect ∧ ∃ side, s.ClosedBy side ∧
        e.winnerPlayerID = (s.players.get side.other).playerID) ∨
      s.room.status = .finished ∧ e.finalSnapshot = snapshotToProto s.room.snapshot ∧
        (e.reason = .ko ∧ (∃ side, (s.room.seats.get side).player.hp = 0) ∨
          e.reason = .timeLimit ∧ ∀ side, (s.room.seats.get side).player.hp ≠ 0) ∧
        (∀ side, e.winnerPlayerID = (s.players.get side).playerID ↔
          (s.room.seats.get side.other).player.hp < (s.room.seats.get side).player.hp) ∧
        (e.winnerPlayerID = "" ↔ s.room.seats.a.player.hp = s.room.seats.b.player.hp)) ∧
    s.reported.length ≤ 1 ∧
    ∀ result ∈ s.reported, result.matchID = matchID ∧ result.playerAID = playerA ∧
      result.playerBID = playerB ∧ ∃ e, (∀ player, s.sent player = [e]) ∧
        result.winnerID = e.winnerPlayerID ∧ result.reason = e.reason ∧
        (e.winnerPlayerID = "" ∨ e.winnerPlayerID = playerA ∨ e.winnerPlayerID = playerB) := by
  obtain ⟨h, hmatch, ha, hb⟩ := run_judged hstart hrun
  obtain ⟨-, hmatchA, hidA, hidB, hnameA, hnameB⟩ := startMatch_judged hstart
  refine ⟨fun player e hin => ?_, ?_, fun result hin => ?_⟩
  · obtain hrules | ⟨side, hclosed, hreason, hwinner⟩ := h.sent player e hin
    · right
      obtain ⟨heq, hwon, hreason⟩ := h.rules hrules
      obtain ⟨n, hlife⟩ := h.lifecycle
      have hko := hlife.ko_iff hrules.1
      have hnamed : ∀ i, (s.room.seats.get i).player.id ≠ "" := by
        intro i
        rw [h.seats]
        cases i with
        | a =>
            change s.players.a.playerID ≠ ""
            rw [← h.players.1, ha]
            exact hnameA
        | b =>
            change s.players.b.playerID ≠ ""
            rw [← h.players.2, hb]
            exact hnameB
      have hdistinct : s.room.seats.a.player.id ≠ s.room.seats.b.player.id := by
        have hseatA := h.seats .a
        have hseatB := h.seats .b
        rw [Pair.get_a, Pair.get_a] at hseatA
        rw [Pair.get_b, Pair.get_b] at hseatB
        rw [hseatA, hseatB]
        exact h.distinct
      have hwinner : e.winnerPlayerID = s.room.winnerID := by
        rw [heq]
        rfl
      refine ⟨hrules.1, ?_, ?_, fun side => ?_, ?_⟩
      · rw [heq]
        rfl
      · obtain ⟨hroom, hend⟩ | ⟨hroom, hend⟩ := hreason
        · exact .inl ⟨hend, hko.1 hroom⟩
        · refine .inr ⟨hend, fun side hzero => ?_⟩
          have hfinish := hko.2 ⟨side, hzero⟩
          rw [hroom] at hfinish
          cases hfinish
      · rw [hwinner, ← h.seats]
        exact hwon.winner_iff hdistinct hnamed side
      · rw [hwinner]
        exact hwon.draw_iff hnamed
    · exact .inl ⟨hreason, side, hclosed, hwinner⟩
  · obtain ⟨-, -, hreported⟩ | ⟨_, -, hreported⟩ := h.safe.claimed.report_cases
    · rw [hreported]
      exact Nat.zero_le 1
    · have hcount := hreported.count
      omega
  · obtain ⟨e, hsent, hverdict, hwinner, hreason⟩ := h.report hin
    obtain ⟨hresult, hplayerA, hplayerB⟩ := h.reported result hin
    have hone := h.winner hverdict
    rw [ha, hb] at hone
    exact ⟨hresult.trans hmatch, hplayerA.trans ha, hplayerB.trans hb, e, hsent, hwinner, hreason, hone⟩

/-- Bob's session is closed, and the report says what alice was told. -/
theorem decided_by_fight_or_disconnect_closed : ∃ s₀ s result e,
    startMatch "match-1" "alice" "bob" true = .ok s₀ ∧
    Transition.run Process.next s₀ disconnectActions = some s ∧ s.reported = [result] ∧
    result.matchID = "match-1" ∧ s.sent .a = [e] ∧ result.winnerID = e.winnerPlayerID := by
  obtain ⟨s₀, hstart, hreports⟩ : ∃ s₀, startMatch "match-1" "alice" "bob" true = .ok s₀ ∧
      (Transition.run Process.next s₀ disconnectActions).map (fun s => s.reported.length) =
        some 1 := by
    refine ⟨_, startMatch_of_players "match-1" (by decide) (by decide) (by decide) true, ?_⟩
    decide +kernel
  obtain ⟨s, hrun, hlength⟩ := Option.map_eq_some_iff.1 hreports
  obtain ⟨result, hreported⟩ := List.length_eq_one_iff.1 hlength
  have hin : result ∈ s.reported := by
    rw [hreported]
    exact List.mem_singleton_self result
  obtain ⟨hmatch, -, -, e, hsent, hwinner, -⟩ :=
    (decided_by_fight_or_disconnect hstart hrun).2.2 result hin
  exact ⟨s₀, s, result, e, hstart, hrun, hreported, hmatch, hsent .a, hwinner⟩

end PvpDuel.MatchServer
