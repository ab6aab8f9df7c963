import PvpDuel.MatchServer.Steps

/-!
# The outcome of a match through its steps

Which goroutines hand an outcome to `finalize`, where those calls stand, and what a step of the match
does to the `Once` they compete for, to the ends that were sent and to the reports.
-/

namespace PvpDuel.MatchServer

open Simulation (Snapshot)
open Gamev1 (MatchEnd)

/-! ### Who delivers -/

/-- Those who call `finalize`. -/
inductive Caller
  | broadcast
  | close (call : Nat)
deriving DecidableEq, Repr

/-- The outcome a goroutine hands to `finalize`, and where that call stands. -/
def BroadcastPhase.outcome : BroadcastPhase → Option (MatchEnd × Finalizing)
  | .finalizing matchEnd phase => some (matchEnd, phase)
  | _ => none

def ClosePhase.outcome : ClosePhase → Option (MatchEnd × Finalizing)
  | .finalizing matchEnd phase => some (matchEnd, phase)
  | _ => none

namespace Process

def outcome (s : Process) : Caller → Option (MatchEnd × Finalizing)
  | .broadcast => s.broadcast.outcome
  | .close call => s.closes[call]?.bind fun c => c.phase.outcome

/-- The caller is inside the `Once`, with the players that are left to send to. -/
def Sends (s : Process) (caller : Caller) (matchEnd : MatchEnd) (left : List Side) : Prop :=
  s.outcome caller = some (matchEnd, .sending left)

/-- Everything a player's channel of match ends has received. -/
def sent (s : Process) (player : Side) : List MatchEnd :=
  (s.received.get player).matchEnds ++ (s.players.get player).matchEnds.buffer

variable {s t : Process}

theorem outcome_set_self {call : Nat} {c : CloseCall} (hcall : s.closes[call]? = some c)
    {player : Side} {phase : ClosePhase} (hcloses : t.closes = s.closes.set call ⟨player, phase⟩) :
    t.outcome (.close call) = phase.outcome := by
  obtain ⟨hlt, -⟩ := List.getElem?_eq_some_iff.1 hcall
  rw [outcome, hcloses, List.getElem?_set_self hlt]
  rfl

theorem outcome_set_of_ne {call : Nat} {caller : Caller} (h : caller ≠ .close call)
    {player : Side} {phase : ClosePhase} (hcloses : t.closes = s.closes.set call ⟨player, phase⟩)
    (hbroadcast : t.broadcast = s.broadcast) : t.outcome caller = s.outcome caller := by
  cases caller with
  | broadcast =>
      rw [outcome, hbroadcast]
      rfl
  | close other =>
      have hne : call ≠ other := fun heq => h (heq ▸ rfl)
      rw [outcome, hcloses, List.getElem?_set_ne hne]
      rfl

/-- A call that has just begun has no outcome yet, like one that has not begun. -/
theorem outcome_call (player : Side) (caller : Caller)
    (hcloses : t.closes = s.closes ++ [⟨player, .closing⟩]) (hbroadcast : t.broadcast = s.broadcast) :
    t.outcome caller = s.outcome caller := by
  cases caller with
  | broadcast =>
      rw [outcome, hbroadcast]
      rfl
  | close call =>
      rw [outcome, outcome, hcloses, List.getElem?_append]
      split_ifs with hlt
      · rfl
      · rw [List.getElem?_eq_none (Nat.le_of_not_lt hlt), List.getElem?_singleton]
        split_ifs <;> rfl

theorem outcome_close {call : Nat} {c : CloseCall} (h : s.closes[call]? = some c) :
    s.outcome (.close call) = c.phase.outcome := by
  rw [outcome, h]
  rfl

theorem outcome_broadcast {matchEnd : MatchEnd} {phase : Finalizing}
    (h : s.outcome .broadcast = some (matchEnd, phase)) :
    s.broadcast = .finalizing matchEnd phase := by
  rw [outcome] at h
  cases hbroadcast : s.broadcast with
  | finalizing other phase =>
      rw [hbroadcast] at h
      cases h
      rfl
  | receiving => rw [hbroadcast] at h; cases h
  | updating _ => rw [hbroadcast] at h; cases h
  | publishing _ _ _ => rw [hbroadcast] at h; cases h
  | closing _ => rw [hbroadcast] at h; cases h
  | returned => rw [hbroadcast] at h; cases h

theorem outcome_closes (h : t.closes = s.closes) (call : Nat) :
    t.outcome (.close call) = s.outcome (.close call) := by
  rw [outcome, h]
  rfl

/-- An update of one session that leaves its buffer of match ends alone. -/
theorem sent_of_setPlayer {player : Side} {session : PlayerSession}
    (hplayers : t.toMatch.players = (s.setPlayer player session).players)
    (hbuffer : session.matchEnds.buffer = (s.players.get player).matchEnds.buffer)
    (hreceived : t.received = s.received) (other : Side) : t.sent other = s.sent other := by
  have hsame := Match.setPlayer_same (fun session => session.matchEnds.buffer) hbuffer other
  rw [sent, sent, hreceived, hplayers]
  exact congrArg (_ ++ ·) hsame

end Process

/-! ### What a step does to the outcome -/

/-- The step leaves the `Once`, what was sent, the reports and those inside the `Once` alone. -/
structure Quiet (s t : Process) : Prop where
  once : t.terminalOnce = s.terminalOnce
  sent : ∀ player, t.sent player = s.sent player
  reports : t.reports = s.reports
  reported : t.reported = s.reported
  sends : ∀ caller matchEnd left, t.Sends caller matchEnd left ↔ s.Sends caller matchEnd left

/-- The step is one of a call of `finalize`. -/
structure Delivers (s t : Process) (caller : Caller) (matchEnd : MatchEnd) (phase : Finalizing)
    (next : Option Finalizing) : Prop where
  before : s.outcome caller = some (matchEnd, phase)
  step : s.Finalizes matchEnd phase next t.toMatch
  received : t.received = s.received
  reported : t.reported = s.reported
  after : t.outcome caller = next.map (matchEnd, ·)
  others : ∀ other, other ≠ caller → t.outcome other = s.outcome other

/-- The step is one of a call of `reportTerminal`. -/
structure Reports (s t : Process) (matchEnd : MatchEnd) : Prop where
  once : t.terminalOnce = s.terminalOnce
  sent : ∀ player, t.sent player = s.sent player
  sends : ∀ caller matchEnd left, t.Sends caller matchEnd left ↔ s.Sends caller matchEnd left
  reports : s.reports = matchEnd :: t.reports
  reported : t.reported = s.reported ∨
    ∃ endedAt, t.reported = s.reported ++ [s.terminalResult matchEnd endedAt]

section

variable {s t : Process}

theorem quiet_loop (h : LoopStep s t) : Quiet s t := by
  cases h <;> exact ⟨rfl, fun _ => rfl, rfl, rfl, fun _ _ _ => Iff.rfl⟩

theorem quiet_of_outcome (caller : Caller) (once : t.terminalOnce = s.terminalOnce)
    (sent : ∀ player, t.sent player = s.sent player) (reports : t.reports = s.reports)
    (reported : t.reported = s.reported) (before : ∀ e left, ¬ s.Sends caller e left)
    (after : ∀ e left, ¬ t.Sends caller e left)
    (others : ∀ other, other ≠ caller → t.outcome other = s.outcome other) : Quiet s t := by
  refine ⟨once, sent, reports, reported, fun other e left => ?_⟩
  by_cases heq : other = caller
  · subst other
    exact ⟨fun h => absurd h (after e left), fun h => absurd h (before e left)⟩
  · rw [Process.Sends, Process.Sends, others other heq]

theorem broadcast_cases (h : BroadcastStep s t) : Quiet s t ∨
    ∃ matchEnd phase next, Delivers s t .broadcast matchEnd phase next := by
  have hothers : t.closes = s.closes → ∀ other, other ≠ Caller.broadcast →
      t.outcome other = s.outcome other := by
    intro hcloses other hne
    cases other with
    | broadcast => exact absurd rfl hne
    | close call => exact Process.outcome_closes hcloses call
  have hquiet : s.broadcast.outcome = none → t.broadcast.outcome = none ∨
      (∃ e, t.broadcast.outcome = some (e, .entering)) → t.terminalOnce = s.terminalOnce →
      (∀ player, t.sent player = s.sent player) → t.reports = s.reports →
      t.reported = s.reported → t.closes = s.closes → Quiet s t := by
    intro hbefore hafter honce hsent hreports hreported hcloses
    refine quiet_of_outcome .broadcast honce hsent hreports hreported ?_ ?_
      (hothers hcloses)
    · intro e left hsends
      rw [Process.Sends, Process.outcome, hbefore] at hsends
      cases hsends
    · intro e left hsends
      rw [Process.Sends, Process.outcome] at hsends
      rcases hafter with hnone | ⟨e', hentering⟩
      · rw [hnone] at hsends
        cases hsends
      · rw [hentering] at hsends
        cases hsends
  cases h with
  | receive snapshot roomSnapshots hbroadcast _ =>
      exact .inl (hquiet (by rw [hbroadcast]; rfl) (.inl rfl) rfl (fun _ => rfl) rfl rfl rfl)
  | ended first hbroadcast _ _ =>
      exact .inl (hquiet (by rw [hbroadcast]; rfl) (.inl rfl) rfl (fun _ => rfl) rfl rfl rfl)
  | decide snapshot hbroadcast _ =>
      exact .inl (hquiet (by rw [hbroadcast]; rfl) (.inr ⟨_, rfl⟩) rfl (fun _ => rfl) rfl rfl rfl)
  | update snapshot first hbroadcast _ =>
      exact .inl (hquiet (by rw [hbroadcast]; rfl) (.inl rfl) rfl (fun _ => rfl) rfl rfl rfl)
  | finalize matchEnd phase next m hbroadcast hstep =>
      refine .inr ⟨matchEnd, phase, next, ⟨?_, hstep, rfl, rfl, ?_, hothers rfl⟩⟩
      · rw [Process.outcome, hbroadcast]
        rfl
      · cases next <;> rfl
  | publish snapshot stage player left next m hbroadcast hpublish =>
      obtain ⟨snapshots, rfl, -⟩ := Match.publishLatest_done hpublish
      refine .inl (hquiet (by rw [hbroadcast]; rfl) (.inl ?_) rfl
        (Process.sent_of_setPlayer rfl rfl rfl) rfl rfl rfl)
      cases next with
      | none => cases left <;> rfl
      | some stage => rfl
  | close closing left m hbroadcast hclose =>
      refine .inl ?_
      have houtcome : (closeRest left).outcome = none := by cases left <;> rfl
      cases closing with
      | snapshots player =>
          obtain ⟨snapshots, -, rfl⟩ := Outcome.map_eq_done hclose
          exact hquiet (by rw [hbroadcast]; rfl) (.inl houtcome) rfl
            (Process.sent_of_setPlayer rfl rfl rfl) rfl rfl rfl
      | matchEnds player =>
          obtain ⟨matchEnds, hclosed, rfl⟩ := Outcome.map_eq_done hclose
          obtain ⟨-, rfl⟩ := Channel.close_eq_done hclosed
          exact hquiet (by rw [hbroadcast]; rfl) (.inl houtcome) rfl
            (Process.sent_of_setPlayer rfl rfl rfl) rfl rfl rfl

theorem close_cases {call : Nat} {player : Side} (h : CloseStep s call player t) : Quiet s t ∨
    ∃ matchEnd phase next, Delivers s t (.close call) matchEnd phase next := by
  have hquiet : ∀ {before after : ClosePhase} {m : Match},
      s.closes[call]? = some ⟨player, before⟩ → before.outcome = none →
      after.outcome = none ∨ (∃ e, after.outcome = some (e, .entering)) →
      m.terminalOnce = s.terminalOnce →
      (∀ other, Process.sent { s.setClose call player after with toMatch := m } other =
        s.sent other) →
      m.reports = s.reports → Quiet s { s.setClose call player after with toMatch := m } := by
    intro before after m hcall hbefore hafter honce hsent hreports
    refine quiet_of_outcome (.close call) honce hsent hreports rfl ?_ ?_ ?_
    · intro e left hsends
      rw [Process.Sends, Process.outcome_close hcall, hbefore] at hsends
      cases hsends
    · intro e left hsends
      rw [Process.Sends, Process.outcome_set_self hcall rfl] at hsends
      rcases hafter with hnone | ⟨e', hentering⟩
      · rw [hnone] at hsends
        cases hsends
      · rw [hentering] at hsends
        cases hsends
    · intro other hne
      exact Process.outcome_set_of_ne hne rfl rfl
  cases h with
  | begin hcall _ => exact .inl (hquiet hcall rfl (.inl rfl) rfl
      (Process.sent_of_setPlayer rfl rfl rfl) rfl)
  | skip hcall _ => exact .inl (hquiet hcall rfl (.inl rfl) rfl (fun _ => rfl) rfl)
  | disconnect hcall => exact .inl (hquiet hcall rfl (.inr ⟨_, rfl⟩) rfl (fun _ => rfl) rfl)
  | finalize matchEnd phase next m hcall hstep =>
      refine .inr ⟨matchEnd, phase, next, ⟨?_, hstep, rfl, rfl, ?_, ?_⟩⟩
      · rw [Process.outcome_close hcall]
        rfl
      · refine (Process.outcome_set_self hcall rfl).trans ?_
        cases next <;> rfl
      · intro other hne
        exact Process.outcome_set_of_ne hne rfl rfl
  | abort hcall =>
      obtain ⟨_, _, heq⟩ := s.abort_eq
      rw [heq]
      exact .inl (hquiet hcall rfl (.inl rfl) rfl (fun _ => rfl) rfl)
  | leave hcall => exact .inl (hquiet hcall rfl (.inl rfl) rfl
      (Process.sent_of_setPlayer rfl rfl rfl) rfl)

theorem Step.terminal_cases (h : Step s t) : Quiet s t ∨
    (∃ caller matchEnd phase next, Delivers s t caller matchEnd phase next) ∨
    ∃ matchEnd, Reports s t matchEnd := by
  cases h with
  | acknowledge player m hm =>
      refine .inl ?_
      rcases Match.acknowledgeMatchStart_done hm with rfl | ⟨-, startBarrier, -, rfl⟩
      · exact ⟨rfl, fun _ => rfl, rfl, rfl, fun _ _ _ => Iff.rfl⟩
      · exact ⟨rfl, Process.sent_of_setPlayer rfl rfl rfl, rfl, rfl, fun _ _ _ => Iff.rfl⟩
  | submit player input m hm =>
      obtain ⟨inputs, rfl, -⟩ := Match.submitInput_done hm
      exact .inl ⟨rfl, fun _ => rfl, rfl, rfl, fun _ _ _ => Iff.rfl⟩
  | loop hstep => exact .inl (quiet_loop hstep)
  | broadcast hstep =>
      rcases broadcast_cases hstep with hquiet | hdelivers
      · exact .inl hquiet
      · exact .inr (.inl ⟨_, hdelivers⟩)
  | call player =>
      refine .inl ⟨rfl, fun _ => rfl, rfl, rfl, fun caller e left => ?_⟩
      exact iff_of_eq (congrArg (· = _) (Process.outcome_call player caller rfl rfl))
  | close hstep =>
      rcases close_cases hstep with hquiet | hdelivers
      · exact .inl hquiet
      · exact .inr (.inl ⟨_, hdelivers⟩)
  | receiveSnapshot player snapshot snapshots _ =>
      refine .inl ⟨rfl, fun other => ?_, rfl, rfl, fun _ _ _ => Iff.rfl⟩
      have hends : ((s.setPlayer player { s.players.get player with snapshots }).players.get
          other).matchEnds = (s.players.get other).matchEnds :=
        Match.setPlayer_same PlayerSession.matchEnds (by rfl) other
      have hreceived : ((s.received.set player { s.received.get player with
          snapshots := (s.received.get player).snapshots ++ [snapshot] }).get other).matchEnds =
            (s.received.get other).matchEnds := by
        rw [Pair.get_set]
        split_ifs with heq
        · rw [heq]
        · rfl
      exact congrArg₂ (fun received c => received ++ Channel.buffer c) hreceived hends
  | receiveMatchEnd player matchEnd matchEnds hreceive =>
      refine .inl ⟨rfl, fun other => ?_, rfl, rfl, fun _ _ _ => Iff.rfl⟩
      obtain ⟨hbuffer, -⟩ := Channel.receive_some hreceive
      change ((s.received.set player _).get other).matchEnds ++
        ((s.setPlayer player _).players.get other).matchEnds.buffer = _
      rw [Pair.get_set, Match.get_setPlayer, Process.sent]
      split_ifs with hother
      · rw [hother, hbuffer, List.append_assoc, List.singleton_append]
      · rfl
  | report matchEnd reports endedAt hreports =>
      refine .inr (.inr ⟨matchEnd, rfl, fun _ => rfl, fun _ _ _ => Iff.rfl, hreports, ?_⟩)
      by_cases hreporter : s.reporter = true
      · exact .inr ⟨endedAt, if_pos hreporter⟩
      · exact .inl (if_neg hreporter)

end

/-- Only a send changes what was sent, and it sends the outcome of its caller. -/
theorem Delivers.mem_sent {s t : Process} {caller : Caller} {matchEnd e : MatchEnd}
    {phase : Finalizing} {next : Option Finalizing} (h : Delivers s t caller matchEnd phase next)
    {player : Side} (hin : e ∈ t.sent player) : e ∈ s.sent player ∨
      e = matchEnd ∧ ∃ left, s.Sends caller matchEnd left := by
  obtain ⟨hbefore, hfinalize, hreceived, -⟩ := h
  rw [Process.sent, hreceived] at hin
  have hold : e ∈ (s.received.get player).matchEnds ++ (s.players.get player).matchEnds.buffer →
      e ∈ s.sent player := id
  generalize t.toMatch = m at hfinalize hin
  cases hfinalize with
  | claim => exact .inl (hold hin)
  | skip => exact .inl (hold hin)
  | settle => exact .inl (hold hin)
  | send other left matchEnds hsend =>
      obtain ⟨-, hbuffer, -⟩ := Channel.send_eq_done hsend
      rw [Match.get_setPlayer] at hin
      split_ifs at hin with heq
      · subst other
        rw [hbuffer, ← List.append_assoc] at hin
        rcases List.mem_append.1 hin with hin | hin
        · exact .inl (hold hin)
        · exact .inr ⟨List.mem_singleton.1 hin, _, hbefore⟩
      · exact .inl (hold hin)

theorem Step.mem_sent {s t : Process} (h : Step s t) {player : Side} {e : MatchEnd}
    (hin : e ∈ t.sent player) : e ∈ s.sent player ∨ ∃ caller left, s.Sends caller e left := by
  rcases h.terminal_cases with hquiet | ⟨caller, matchEnd, _, _, hdelivers⟩ | ⟨_, hreports⟩
  · exact .inl (hquiet.sent player ▸ hin)
  · rcases hdelivers.mem_sent hin with hold | ⟨rfl, left, hsends⟩
    · exact .inl hold
    · exact .inr ⟨caller, left, hsends⟩
  · exact .inl (hreports.sent player ▸ hin)

/-- Every outcome handed to `finalize` was handed to it before, is that of a finished room, or that
of a player who disconnects. -/
theorem Step.outcome_cases {s t : Process} (h : Step s t) {caller : Caller} {matchEnd : MatchEnd}
    {phase : Finalizing} (houtcome : t.outcome caller = some (matchEnd, phase)) :
    (∃ phase, s.outcome caller = some (matchEnd, phase)) ∨
    (∃ snapshot, caller = .broadcast ∧ s.broadcast = .updating snapshot ∧
      snapshot.status = .finished ∧ matchEnd = roomEnd snapshot) ∨
    ∃ call player, caller = .close call ∧ s.closes[call]? = some ⟨player, .disconnecting⟩ ∧
      matchEnd = s.disconnectEnd (s.players.get player).playerID := by
  have hsame : t.outcome caller = s.outcome caller →
      ∃ phase, s.outcome caller = some (matchEnd, phase) :=
    fun heq => ⟨phase, heq.symm.trans houtcome⟩
  cases h with
  | acknowledge => exact .inl (hsame (by cases caller <;> rfl))
  | submit => exact .inl (hsame (by cases caller <;> rfl))
  | loop hstep =>
      refine .inl (hsame ?_)
      cases hstep <;> cases caller <;> rfl
  | broadcast hstep =>
      cases caller with
      | close call =>
          refine .inl (hsame ?_)
          cases hstep <;> rfl
      | broadcast =>
          cases hstep with
          | receive => cases houtcome
          | ended => cases houtcome
          | decide snapshot hbroadcast hfinished =>
              cases houtcome
              exact .inr (.inl ⟨snapshot, rfl, hbroadcast, hfinished, rfl⟩)
          | update => cases houtcome
          | finalize e before next m hbroadcast =>
              cases next with
              | none => cases houtcome
              | some next =>
                  cases houtcome
                  refine .inl ⟨before, ?_⟩
                  rw [Process.outcome, hbroadcast]
                  rfl
          | publish snapshot stage player left next =>
              cases next with
              | none => cases left <;> cases houtcome
              | some stage => cases houtcome
          | close closing left => cases left <;> cases houtcome
  | call player => exact .inl (hsame (Process.outcome_call player caller rfl rfl))
  | @close call player _ hstep =>
      by_cases heq : caller = .close call
      · subst caller
        cases hstep with
        | begin hcall =>
            rw [Process.outcome_set_self hcall rfl] at houtcome
            cases houtcome
        | skip hcall =>
            rw [Process.outcome_set_self hcall rfl] at houtcome
            cases houtcome
        | disconnect hcall =>
            rw [Process.outcome_set_self hcall rfl] at houtcome
            cases houtcome
            exact .inr (.inr ⟨call, player, rfl, hcall, rfl⟩)
        | finalize e before next m hcall =>
            rw [Process.outcome_set_self hcall rfl] at houtcome
            refine .inl ⟨before, ?_⟩
            rw [Process.outcome_close hcall]
            cases next with
            | none => cases houtcome
            | some next =>
                cases houtcome
                rfl
        | abort hcall =>
            rw [Process.outcome_set_self hcall rfl] at houtcome
            cases houtcome
        | leave hcall =>
            rw [Process.outcome_set_self hcall rfl] at houtcome
            cases houtcome
      · refine .inl (hsame ?_)
        cases hstep <;> exact Process.outcome_set_of_ne heq rfl rfl
  | receiveSnapshot => exact .inl (hsame (by cases caller <;> rfl))
  | receiveMatchEnd => exact .inl (hsame (by cases caller <;> rfl))
  | report => exact .inl (hsame (by cases caller <;> rfl))

section

variable {s t : Process}

theorem Match.Finalizes.once_done {m m' : Match} {matchEnd : MatchEnd} {phase : Finalizing}
    {next : Option Finalizing} (h : m.Finalizes matchEnd phase next m') :
    (m.terminalOnce = .done → m'.terminalOnce = .done) ∧
      (next = none → m'.terminalOnce = .done) := by
  cases h with
  | claim first honce =>
      refine ⟨fun hdone => ?_, fun hnone => by cases hnone⟩
      rw [honce] at hdone
      cases hdone
  | skip honce => exact ⟨id, fun _ => honce⟩
  | send => exact ⟨id, fun hnone => by cases hnone⟩
  | settle => exact ⟨fun _ => rfl, fun _ => rfl⟩

theorem Step.once_done (h : Step s t) (hdone : s.terminalOnce = .done) : t.terminalOnce = .done := by
  rcases h.terminal_cases with hquiet | ⟨_, _, _, _, hdelivers⟩ | ⟨_, hreports⟩
  · exact hquiet.once.trans hdone
  · exact hdelivers.step.once_done.1 hdone
  · exact hreports.once.trans hdone

end

end PvpDuel.MatchServer
