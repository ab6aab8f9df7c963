import PvpDuel.MatchServer.Order
import PvpDuel.MatchServer.Wiring

/-!
# One terminal outcome

Two goroutines and any number of `Close` calls race to end a match. `terminalOnce` lets one of them
deliver its outcome to both players; whoever closes the channels or cancels the context has been
through that `Once` before, so nothing is sent to a closed channel and both players get their end.
-/

namespace PvpDuel.MatchServer

open Simulation (Room Snapshot)
open Gamev1 (MatchEnd WorldSnapshot)

/-! ### At most one outcome -/

/-- At most one report was started, and it is one of this outcome. -/
structure Reported (s : Process) (matchEnd : MatchEnd) : Prop where
  count : s.reports.length + s.reported.length ≤ 1
  reports : ∀ e ∈ s.reports, e = matchEnd
  reported : ∀ result ∈ s.reported,
    result.winnerID = matchEnd.winnerPlayerID ∧ result.reason = matchEnd.reason

/-- The outcome is still open, or one caller is inside the `Once` and has sent it to some players, or
both players were sent it. -/
inductive Claimed (s : Process) : Prop
  | unclaimed (honce : s.terminalOnce = .idle) (hsent : ∀ player, s.sent player = [])
      (hreports : s.reports = []) (hreported : s.reported = [])
      (hnone : ∀ caller e left, ¬ s.Sends caller e left)
  | claimed (owner : Caller) (matchEnd : MatchEnd) (left : List Side)
      (honce : s.terminalOnce = .running) (howner : s.Sends owner matchEnd left)
      (honly : ∀ caller e left, s.Sends caller e left → caller = owner) (hnodup : left.Nodup)
      (hsent : ∀ player, s.sent player = if player ∈ left then [] else [matchEnd])
      (hreports : s.reports = []) (hreported : s.reported = [])
  | settled (matchEnd : MatchEnd) (honce : s.terminalOnce = .done)
      (hsent : ∀ player, s.sent player = [matchEnd]) (hreported : Reported s matchEnd)
      (hnone : ∀ caller e left, ¬ s.Sends caller e left)

section

variable {s t : Process}

theorem Claimed.quiet (h : Claimed s) (hquiet : Quiet s t) : Claimed t := by
  cases h with
  | unclaimed honce hsent hreports hreported hnone =>
      refine .unclaimed (hquiet.once.trans honce)
        (fun player => (hquiet.sent player).trans (hsent player))
        (hquiet.reports.trans hreports) (hquiet.reported.trans hreported) fun caller e left hsends => ?_
      exact hnone caller e left ((hquiet.sends caller e left).1 hsends)
  | claimed owner matchEnd left honce howner honly hnodup hsent hreports hreported =>
      refine .claimed owner matchEnd left (hquiet.once.trans honce)
        ((hquiet.sends owner matchEnd left).2 howner) (fun caller e left' hsends => ?_) hnodup
        (fun player => (hquiet.sent player).trans (hsent player)) (hquiet.reports.trans hreports)
        (hquiet.reported.trans hreported)
      exact honly caller e left' ((hquiet.sends caller e left').1 hsends)
  | settled matchEnd honce hsent hreported hnone =>
      refine .settled matchEnd (hquiet.once.trans honce)
        (fun player => (hquiet.sent player).trans (hsent player)) ?_ fun caller e left hsends => ?_
      · constructor
        · rw [hquiet.reports, hquiet.reported]
          exact hreported.count
        · rw [hquiet.reports]
          exact hreported.reports
        · rw [hquiet.reported]
          exact hreported.reported
      · exact hnone caller e left ((hquiet.sends caller e left).1 hsends)

/-- A caller inside the `Once` is its owner and sends the outcome of the claim. -/
theorem Claimed.of_sends (h : Claimed s) {caller : Caller} {matchEnd : MatchEnd} {left : List Side}
    (hsends : s.Sends caller matchEnd left) : s.terminalOnce = .running ∧
      (∀ other e left, s.Sends other e left → other = caller) ∧ left.Nodup ∧
      (∀ player, s.sent player = if player ∈ left then [] else [matchEnd]) ∧
      s.reports = [] ∧ s.reported = [] := by
  cases h with
  | unclaimed _ _ _ _ hnone => exact absurd hsends (hnone _ _ _)
  | claimed owner e left' honce howner honly hnodup hsent hreports hreported =>
      obtain rfl := honly caller _ _ hsends
      rw [Process.Sends] at howner hsends
      rw [howner] at hsends
      cases hsends
      exact ⟨honce, honly, hnodup, hsent, hreports, hreported⟩
  | settled _ _ _ _ hnone => exact absurd hsends (hnone _ _ _)

theorem Claimed.delivers (h : Claimed s) {caller : Caller} {matchEnd : MatchEnd}
    {phase : Finalizing} {next : Option Finalizing}
    (hstep : Delivers s t caller matchEnd phase next) : Claimed t := by
  obtain ⟨hbefore, hfinalize, hreceived, hreported', hafter, hothers⟩ := hstep
  have hreturns : next = none → (∀ other e left, s.Sends other e left → other = caller) →
      ∀ other e left, ¬ t.Sends other e left := by
    rintro rfl honly other e left hsends
    by_cases heq : other = caller
    · rw [Process.Sends, heq, hafter] at hsends
      cases hsends
    · rw [Process.Sends, hothers other heq] at hsends
      exact heq (honly other e left hsends)
  have honly' : (∀ other e left, s.Sends other e left → other = caller) →
      ∀ other e left, t.Sends other e left → other = caller := by
    intro honly other e left hsends
    by_contra hne
    rw [Process.Sends, hothers other hne] at hsends
    exact hne (honly other e left hsends)
  have hsame : t.toMatch.players = s.toMatch.players → ∀ player, t.sent player = s.sent player := by
    intro hplayers player
    rw [Process.sent, Process.sent, hreceived, hplayers]
  generalize hm : t.toMatch = m at hfinalize hsame
  cases hfinalize with
  | claim first honce =>
      cases h with
      | unclaimed _ hsent hreports hreported hnone =>
          refine .claimed caller matchEnd [first, first.other] ?_ hafter
            (honly' fun other e left hsends => absurd hsends (hnone other e left)) ?_ ?_ ?_ ?_
          · rw [hm]
          · simpa using (Side.other_ne first).symm
          · intro player
            have hin : player ∈ [first, first.other] := by
              simpa using Side.eq_or_eq_other first player
            rw [hsame rfl, hsent, if_pos hin]
          · rw [hm]
            exact hreports
          · rw [hreported', hreported]
      | claimed _ _ _ hrunning =>
          rw [honce] at hrunning
          cases hrunning
      | settled _ hdone =>
          rw [honce] at hdone
          cases hdone
  | skip honce =>
      cases h with
      | unclaimed hidle =>
          rw [honce] at hidle
          cases hidle
      | claimed _ _ _ hrunning =>
          rw [honce] at hrunning
          cases hrunning
      | settled e _ hsent hreported hnone =>
          refine .settled e ?_ (fun player => (hsame rfl player).trans (hsent player)) ?_
            (hreturns rfl fun other e left hsends => absurd hsends (hnone other e left))
          · rw [hm, honce]
          · constructor
            · rw [hm, hreported']
              exact hreported.count
            · rw [hm]
              exact hreported.reports
            · rw [hreported']
              exact hreported.reported
  | send player left matchEnds hsend =>
      obtain ⟨honce, honly, hnodup, hsent, hreports, hreported⟩ := h.of_sends hbefore
      obtain ⟨hnotin, hnodup⟩ := List.nodup_cons.1 hnodup
      obtain ⟨-, hbuffer, -⟩ := Channel.send_eq_done hsend
      refine .claimed caller matchEnd left ?_ hafter (honly' honly) hnodup ?_ ?_ ?_
      · rw [hm]
        exact honce
      · intro other
        rw [Process.sent, hreceived, hm, Match.get_setPlayer]
        have hold := hsent other
        rw [Process.sent] at hold
        by_cases heq : other = player
        · subst other
          rw [if_pos (List.mem_cons_self ..)] at hold
          rw [if_pos rfl, if_neg hnotin, hbuffer, ← List.append_assoc, hold, List.nil_append]
        · rw [if_neg heq, hold]
          simp only [List.mem_cons, heq, false_or]
      · rw [hm]
        exact hreports
      · rw [hreported', hreported]
  | settle =>
      obtain ⟨-, honly, -, hsent, hreports, hreported⟩ := h.of_sends hbefore
      refine .settled matchEnd ?_ (fun player => ?_) ?_ (hreturns rfl honly)
      · rw [hm]
      · rw [hsame rfl, hsent, if_neg (List.not_mem_nil)]
      · constructor
        · rw [hm, hreported', hreported, hreports]
          exact Nat.le_refl 1
        · rw [hm, hreports]
          exact fun e he => List.mem_singleton.1 he
        · rw [hreported', hreported]
          exact fun result hresult => by cases hresult

theorem Claimed.reports (h : Claimed s) {matchEnd : MatchEnd} (hstep : Reports s t matchEnd) :
    Claimed t := by
  obtain ⟨honce', hsent', hsends', hreports', hreported'⟩ := hstep
  cases h with
  | unclaimed _ _ hreports =>
      rw [hreports] at hreports'
      cases hreports'
  | claimed _ _ _ _ _ _ _ _ hreports =>
      rw [hreports] at hreports'
      cases hreports'
  | settled e honce hsent hreported hnone =>
      obtain ⟨hcount, hreports, hreported⟩ := hreported
      rw [hreports'] at hcount hreports
      obtain rfl : matchEnd = e := hreports matchEnd (List.mem_cons_self ..)
      refine .settled matchEnd (honce'.trans honce)
        (fun player => (hsent' player).trans (hsent player)) ⟨?_, ?_, ?_⟩
        fun caller e left hsends => hnone caller e left ((hsends' caller e left).1 hsends)
      · rcases hreported' with heq | ⟨endedAt, heq⟩ <;> rw [heq]
        · simp only [List.length_cons] at hcount
          omega
        · simp only [List.length_cons, List.length_append, List.length_nil] at hcount ⊢
          omega
      · exact fun other hother => hreports other (List.mem_cons_of_mem _ hother)
      · intro result hresult
        rcases hreported' with heq | ⟨endedAt, heq⟩
        · rw [heq] at hresult
          exact hreported result hresult
        · rw [heq] at hresult
          rcases List.mem_append.1 hresult with hresult | hresult
          · exact hreported result hresult
          · obtain rfl := List.mem_singleton.1 hresult
            exact ⟨rfl, rfl⟩

theorem Claimed.sent_cases (h : Claimed s) :
    ∃ matchEnd, ∀ player, s.sent player = [] ∨ s.sent player = [matchEnd] := by
  cases h with
  | unclaimed _ hsent => exact ⟨roomEnd s.room.snapshot, fun player => .inl (hsent player)⟩
  | claimed _ matchEnd left _ _ _ _ hsent =>
      refine ⟨matchEnd, fun player => ?_⟩
      rw [hsent]
      split_ifs
      · exact .inl rfl
      · exact .inr rfl
  | settled matchEnd _ hsent => exact ⟨matchEnd, fun player => .inr (hsent player)⟩

theorem Claimed.report_cases (h : Claimed s) :
    (s.terminalOnce ≠ .done ∧ s.reports = [] ∧ s.reported = []) ∨
      ∃ matchEnd, (∀ player, s.sent player = [matchEnd]) ∧ Reported s matchEnd := by
  cases h with
  | unclaimed honce _ hreports hreported =>
      exact .inl ⟨by rw [honce]; decide, hreports, hreported⟩
  | claimed _ _ _ honce _ _ _ _ hreports hreported =>
      exact .inl ⟨by rw [honce]; decide, hreports, hreported⟩
  | settled matchEnd _ hsent hreported => exact .inr ⟨matchEnd, hsent, hreported⟩

theorem Claimed.step (h : Claimed s) (hstep : Step s t) : Claimed t := by
  rcases hstep.terminal_cases with hquiet | ⟨_, _, _, _, hdelivers⟩ | ⟨_, hreports⟩
  · exact h.quiet hquiet
  · exact h.delivers hdelivers
  · exact h.reports hreports

end

/-! ### The outcomes are sound -/

/-- The final snapshot is finished and names the winner. -/
def Sound (matchEnd : MatchEnd) : Prop :=
  matchEnd.finalSnapshot.status = .finished ∧
    matchEnd.finalSnapshot.winnerPlayerID = matchEnd.winnerPlayerID

theorem roomEnd_sound {snapshot : Snapshot} (h : snapshot.status = .finished) :
    Sound (roomEnd snapshot) := by
  refine ⟨?_, rfl⟩
  change statusToProto snapshot.status = _
  rw [h]
  rfl

theorem disconnectEnd_sound (m : Match) (playerID : String) : Sound (m.disconnectEnd playerID) :=
  ⟨rfl, rfl⟩

/-- Every outcome handed to `finalize` and every end sent to a player is sound. -/
structure SoundOutcomes (s : Process) : Prop where
  outcomes : ∀ caller matchEnd phase, s.outcome caller = some (matchEnd, phase) → Sound matchEnd
  sent : ∀ player, ∀ matchEnd ∈ s.sent player, Sound matchEnd

theorem SoundOutcomes.step {s t : Process} (h : SoundOutcomes s) (hstep : Step s t) :
    SoundOutcomes t := by
  constructor
  · intro caller matchEnd phase houtcome
    rcases hstep.outcome_cases houtcome with ⟨before, hbefore⟩ | ⟨snapshot, -, -, hfinished, rfl⟩ |
      ⟨_, _, -, -, rfl⟩
    · exact h.outcomes caller matchEnd before hbefore
    · exact roomEnd_sound hfinished
    · exact disconnectEnd_sound _ _
  · intro player matchEnd hsent
    rcases hstep.mem_sent hsent with hold | ⟨caller, left, hsends⟩
    · exact h.sent player matchEnd hold
    · exact h.outcomes caller matchEnd _ hsends

/-! ### No panic -/

theorem unclosed_of_not_ended {s : Process} (h : ¬ s.Ended) (closing : Closing) :
    closing ∈ s.broadcast.unclosed := by
  cases hbroadcast : s.broadcast with
  | closing left => exact absurd (.inl ⟨left, hbroadcast⟩) h
  | returned => exact absurd (.inr hbroadcast) h
  | receiving => exact mem_closings .a closing
  | updating _ => exact mem_closings .a closing
  | finalizing _ _ => exact mem_closings .a closing
  | publishing _ _ _ => exact mem_closings .a closing

structure Process.Safe (s : Process) : Prop where
  claimed : Claimed s
  sound : SoundOutcomes s
  ordered : Ordered s
  wired : Wired s
  alive : s.panicked = false

section

variable {s t : Process}

/-- While a caller is inside the `Once`, the channels it sends to are open. -/
theorem Process.Safe.open_of_sends (h : s.Safe) {caller : Caller} {matchEnd : MatchEnd}
    {left : List Side} (hsends : s.Sends caller matchEnd left) (player : Side) :
    (s.players.get player).matchEnds.closed = false := by
  have hrunning := (h.claimed.of_sends hsends).1
  have hended : ¬ s.Ended := by
    intro hended
    rw [h.ordered.ended hended] at hrunning
    cases hrunning
  exact h.wired.matchEnds player (unclosed_of_not_ended hended _)

theorem Process.Safe.send_matchEnd (h : s.Safe) {caller : Caller} {matchEnd : MatchEnd}
    {player : Side} {left : List Side} (hsends : s.Sends caller matchEnd (player :: left)) :
    ∃ m, s.sendMatchEnd player matchEnd = .done m := by
  have hsent := (h.claimed.of_sends hsends).2.2.2.1 player
  rw [if_pos (List.mem_cons_self ..)] at hsent
  have hempty : (s.players.get player).matchEnds.buffer = [] := (List.append_eq_nil_iff.1 hsent).2
  have hlt : (s.players.get player).matchEnds.buffer.length <
      (s.players.get player).matchEnds.capacity := by
    rw [hempty, h.wired.capacity player]
    exact Nat.zero_lt_one
  obtain ⟨matchEnds, hsend⟩ := Channel.send_of_open (h.open_of_sends hsends player) hlt matchEnd
  exact ⟨_, by rw [Match.sendMatchEnd, hsend]; rfl⟩

theorem Process.Safe.publishLatest (h : s.Safe) {snapshot : WorldSnapshot} {stage : Publishing}
    {player : Side} {left : List Side}
    (hbroadcast : s.broadcast = .publishing snapshot stage (player :: left)) :
    ∃ result, s.publishLatest player snapshot stage = .done result := by
  have hended : ¬ s.Ended := by
    rintro (⟨_, hclosing⟩ | hreturned)
    · rw [hbroadcast] at hclosing
      cases hclosing
    · rw [hbroadcast] at hreturned
      cases hreturned
  have hopen := h.wired.snapshots player (unclosed_of_not_ended hended _)
  have htry : ∃ result, (s.players.get player).snapshots.trySend snapshot = .done result := by
    cases htry : (s.players.get player).snapshots.trySend snapshot with
    | done result => exact ⟨result, rfl⟩
    | blocked => exact absurd htry (Channel.trySend_ne_blocked _ _)
    | panicked => exact absurd htry (Channel.trySend_of_open hopen _)
  obtain ⟨result, htry⟩ := htry
  cases stage with
  | send => exact ⟨_, by rw [Match.publishLatest, htry]; rfl⟩
  | drop => exact ⟨_, rfl⟩
  | resend => exact ⟨_, by rw [Match.publishLatest, htry]; rfl⟩

theorem Process.Safe.finalize_ne_panicked (h : s.Safe) {caller : Caller} {matchEnd : MatchEnd}
    {phase : Finalizing} (houtcome : s.outcome caller = some (matchEnd, phase)) (first : Side) :
    s.finalize matchEnd first phase ≠ .panicked := by
  intro hpanicked
  cases phase with
  | entering =>
      unfold Match.finalize at hpanicked
      cases honce : s.terminalOnce <;> rw [honce] at hpanicked <;> cases hpanicked
  | sending left =>
      cases left with
      | nil => cases hpanicked
      | cons player left =>
          obtain ⟨m, hsend⟩ := h.send_matchEnd houtcome
          rw [Match.finalize, hsend] at hpanicked
          cases hpanicked

theorem Process.Safe.loopNext_ne_panicked (h : s.Safe) : s.loopNext ≠ .panicked := by
  have hopen : s.loop ≠ .returned → s.roomSnapshots.closed = false := fun hne =>
    Bool.eq_false_iff.2 fun hclosed => hne (h.ordered.closed hclosed)
  intro hpanicked
  unfold Process.loopNext at hpanicked
  cases hloop : s.loop with
  | draining =>
      rw [hloop] at hpanicked
      dsimp only at hpanicked
      split_ifs at hpanicked
  | publishing snapshot =>
      rw [hloop] at hpanicked
      exact Channel.trySend_of_open (hopen (by rw [hloop]; exact LoopPhase.noConfusion)) snapshot
        (Outcome.map_eq_panicked hpanicked)
  | dropping snapshot =>
      rw [hloop] at hpanicked
      cases hpanicked
  | resending snapshot =>
      have hopen := hopen (by rw [hloop]; exact LoopPhase.noConfusion)
      rw [hloop] at hpanicked
      dsimp only at hpanicked
      split_ifs at hpanicked
      · rw [Channel.send_eq_panicked (Outcome.map_eq_panicked hpanicked)] at hopen
        cases hopen
      · exact Channel.trySend_of_open hopen snapshot (Outcome.map_eq_panicked hpanicked)
  | closing =>
      have hopen := hopen (by rw [hloop]; exact LoopPhase.noConfusion)
      rw [hloop] at hpanicked
      have hclose := Outcome.map_eq_panicked hpanicked
      rw [Channel.close_of_open hopen] at hclose
      cases hclose
  | waiting =>
      rw [hloop] at hpanicked
      cases hpanicked
  | selecting =>
      rw [hloop] at hpanicked
      cases hpanicked
  | returned =>
      rw [hloop] at hpanicked
      cases hpanicked

theorem Process.Safe.broadcastNext_ne_panicked (h : s.Safe) (first : Side) :
    s.broadcastNext first ≠ .panicked := by
  intro hpanicked
  unfold Process.broadcastNext at hpanicked
  cases hbroadcast : s.broadcast with
  | receiving =>
      rw [hbroadcast] at hpanicked
      exact Channel.receive_ne_panicked _ (Outcome.map_eq_panicked hpanicked)
  | updating snapshot =>
      rw [hbroadcast] at hpanicked
      cases hpanicked
  | finalizing matchEnd phase =>
      rw [hbroadcast] at hpanicked
      have houtcome : s.outcome .broadcast = some (matchEnd, phase) := by
        rw [Process.outcome, hbroadcast]
        rfl
      exact h.finalize_ne_panicked houtcome first (Outcome.map_eq_panicked hpanicked)
  | publishing snapshot stage left =>
      rw [hbroadcast] at hpanicked
      cases left with
      | nil => cases hpanicked
      | cons player left =>
          obtain ⟨result, hpublish⟩ := h.publishLatest hbroadcast
          have hpublish' := Outcome.map_eq_panicked hpanicked
          rw [hpublish] at hpublish'
          cases hpublish'
  | closing left =>
      rw [hbroadcast] at hpanicked
      cases left with
      | nil => cases hpanicked
      | cons closing left =>
          have hin : closing ∈ s.broadcast.unclosed := by
            rw [hbroadcast]
            exact List.mem_cons_self ..
          have hclose := Outcome.map_eq_panicked hpanicked
          cases closing with
          | snapshots player =>
              have hchannel := Outcome.map_eq_panicked hclose
              rw [Channel.close_of_open (h.wired.snapshots player hin)] at hchannel
              cases hchannel
          | matchEnds player =>
              have hchannel := Outcome.map_eq_panicked hclose
              rw [Channel.close_of_open (h.wired.matchEnds player hin)] at hchannel
              cases hchannel
  | returned =>
      rw [hbroadcast] at hpanicked
      cases hpanicked

theorem Process.Safe.closeNext_ne_panicked (h : s.Safe) (call : Nat) (first : Side) :
    s.closeNext call first ≠ .panicked := by
  intro hpanicked
  unfold Process.closeNext at hpanicked
  split at hpanicked
  · cases hpanicked
  · rename_i player phase hcall
    cases phase with
    | closing =>
        dsimp only at hpanicked
        split at hpanicked <;> cases hpanicked
    | disconnecting => cases hpanicked
    | finalizing matchEnd phase =>
        have houtcome : s.outcome (.close call) = some (matchEnd, phase) := by
          rw [Process.outcome_close hcall]
          rfl
        exact h.finalize_ne_panicked houtcome first (Outcome.map_eq_panicked hpanicked)
    | aborting => cases hpanicked
    | leaving => cases hpanicked
    | returned => cases hpanicked

theorem Process.Safe.acknowledge_ne_panicked (h : s.Safe) (player : Side) :
    s.acknowledgeMatchStart player ≠ .panicked := by
  intro hpanicked
  unfold Match.acknowledgeMatchStart at hpanicked
  cases hack : (s.players.get player).startAckOnce with
  | idle =>
      rw [hack] at hpanicked
      dsimp only [Match.acknowledgeStart, Match.setPlayer] at hpanicked
      split_ifs at hpanicked with hcount
      have hopen : s.startBarrier.closed = false := by
        refine Bool.eq_false_iff.2 fun hclosed => ?_
        have htwo := h.wired.started hclosed
        omega
      have hclose := Outcome.map_eq_panicked hpanicked
      rw [Channel.close_of_open hopen] at hclose
      cases hclose
  | running =>
      rw [hack] at hpanicked
      cases hpanicked
  | done =>
      rw [hack] at hpanicked
      cases hpanicked

theorem Process.Safe.step_ne_panicked (h : s.Safe) (action : Match.Action) :
    s.step action ≠ .panicked := by
  intro hpanicked
  cases action with
  | acknowledgeMatchStart player =>
      exact h.acknowledge_ne_panicked player (Outcome.map_eq_panicked hpanicked)
  | submitInput player input =>
      exact Channel.trySend_of_open h.wired.inputs _
        (Outcome.map_eq_panicked (Outcome.map_eq_panicked hpanicked))
  | loopDone =>
      rw [Process.step, Process.loopDone] at hpanicked
      split at hpanicked
      · split at hpanicked
        · cases hpanicked
        · cases hpanicked
        · split at hpanicked <;> cases hpanicked
        · cases hpanicked
      · cases hpanicked
  | loopStart =>
      rw [Process.step, Process.loopStart] at hpanicked
      split at hpanicked
      · exact Channel.receive_ne_panicked _ (Outcome.map_eq_panicked hpanicked)
      · cases hpanicked
  | loopInput =>
      rw [Process.step, Process.loopInput] at hpanicked
      split at hpanicked <;> cases hpanicked
  | loopTick =>
      rw [Process.step, Process.loopTick] at hpanicked
      split at hpanicked <;> cases hpanicked
  | loopNext => exact h.loopNext_ne_panicked hpanicked
  | broadcastNext first => exact h.broadcastNext_ne_panicked first hpanicked
  | close player => cases hpanicked
  | closeNext call first => exact h.closeNext_ne_panicked call first hpanicked
  | receiveSnapshot player =>
      rw [Process.step, Process.receiveSnapshot] at hpanicked
      split at hpanicked <;> cases hpanicked
  | receiveMatchEnd player =>
      rw [Process.step, Process.receiveMatchEnd] at hpanicked
      split at hpanicked <;> cases hpanicked
  | report endedAt =>
      rw [Process.step, Process.report] at hpanicked
      split at hpanicked <;> cases hpanicked

theorem Step.alive (h : Step s t) : t.panicked = s.panicked := by
  cases h with
  | loop hstep => cases hstep <;> rfl
  | broadcast hstep => cases hstep <;> rfl
  | close hstep => cases hstep <;> rfl
  | acknowledge => rfl
  | submit => rfl
  | call => rfl
  | receiveSnapshot => rfl
  | receiveMatchEnd => rfl
  | report => rfl

/-! ### Every interleaving -/

theorem Process.Safe.next (h : s.Safe) {action : Match.Action} (hnext : s.next action = some t) :
    t.Safe := by
  obtain ⟨halive, hdone | ⟨hpanicked, -⟩⟩ := Process.next_cases hnext
  · have hstep := Process.step_done h.wired.barrier hdone
    exact ⟨h.claimed.step hstep, h.sound.step hstep, h.ordered.step hstep, h.wired.step hstep,
      hstep.alive.trans halive⟩
  · exact absurd hpanicked (h.step_ne_panicked action)

theorem initialProcess_safe (matchID playerA playerB : String) (reporter : Bool) (duel : Room) :
    (initialProcess matchID playerA playerB reporter duel).Safe := by
  have hnone : ∀ caller,
      (initialProcess matchID playerA playerB reporter duel).outcome caller = none := by
    intro caller
    cases caller <;> rfl
  have hsent : ∀ player,
      (initialProcess matchID playerA playerB reporter duel).sent player = [] := by
    intro player
    cases player <;> rfl
  refine ⟨?_, ⟨?_, ?_⟩, ⟨?_, ?_, ?_, ?_, ?_⟩, ⟨rfl, rfl, rfl, ?_, ?_, ?_, ?_, ?_⟩, rfl⟩
  · refine .unclaimed rfl hsent rfl rfl fun caller e left hsends => ?_
    rw [Process.Sends, hnone] at hsends
    cases hsends
  · intro caller e phase houtcome
    rw [hnone] at houtcome
    cases houtcome
  · intro player e hin
    rw [hsent] at hin
    cases hin
  · exact fun hcanceled => by cases hcanceled
  · exact fun call player hcall => by cases hcall
  · rintro (hloop | hloop) <;> cases hloop
  · exact fun hclosed => by cases hclosed
  · rintro (⟨_, hended⟩ | hended) <;> cases hended
  · exact fun hclosed => by cases hclosed
  · exact closings_nodup .a
  · intro player _
    cases player <;> rfl
  · intro player _
    cases player <;> rfl
  · intro player
    cases player <;> rfl

/-- In every interleaving of a match nothing panics, a player is sent at most one end of the match and
both are sent the same, at most one report is started and it is one of that end, no send waits, both
players have their end when the broadcast goroutine returns, and an end has the finished snapshot of
its winner. -/
theorem one_outcome {matchID playerA playerB : String} {reporter : Bool} {s₀ : Process}
    {actions : List Match.Action} (hstart : startMatch matchID playerA playerB reporter = .ok s₀)
    (hrun : Transition.run Process.next s₀ actions = some s) :
    s.panicked = false ∧
    (∀ player, (s.sent player).length ≤ 1) ∧
    (∀ player other, ∀ e ∈ s.sent player, ∀ e' ∈ s.sent other, e = e') ∧
    s.reports.length + s.reported.length ≤ 1 ∧
    (∀ e ∈ s.reports, ∀ player, s.sent player = [e]) ∧
    (∀ result ∈ s.reported, ∃ e, (∀ player, s.sent player = [e]) ∧
      result.winnerID = e.winnerPlayerID ∧ result.reason = e.reason) ∧
    (∀ caller e player left, s.Sends caller e (player :: left) →
      ∃ m, s.sendMatchEnd player e = .done m) ∧
    (∀ snapshot stage player left, s.broadcast = .publishing snapshot stage (player :: left) →
      ∃ result, s.publishLatest player snapshot stage = .done result) ∧
    (s.broadcast = .returned → ∀ player, ∃ e, s.sent player = [e]) ∧
    ∀ player, ∀ e ∈ s.sent player,
      e.finalSnapshot.status = .finished ∧ e.finalSnapshot.winnerPlayerID = e.winnerPlayerID := by
  have hsafe : s.Safe := by
    obtain ⟨duel, -, rfl⟩ := startMatch_ok hstart
    exact Transition.run_invariant (fun _ _ _ h hnext => h.next hnext) hrun
      (initialProcess_safe matchID playerA playerB reporter duel)
  obtain ⟨matchEnd, hsent⟩ := hsafe.claimed.sent_cases
  refine ⟨hsafe.alive, ?_, ?_, ?_, ?_, ?_, fun _ _ _ _ => hsafe.send_matchEnd,
    fun _ _ _ _ => hsafe.publishLatest, ?_, hsafe.sound.sent⟩
  · intro player
    rcases hsent player with hsent | hsent <;> rw [hsent]
    · exact Nat.zero_le 1
    · exact Nat.le_refl 1
  · have heq : ∀ player, ∀ e ∈ s.sent player, e = matchEnd := by
      intro player e he
      rcases hsent player with hsent | hsent <;> rw [hsent] at he
      · cases he
      · exact List.mem_singleton.1 he
    intro player other e he e' he'
    rw [heq player e he, heq other e' he']
  · rcases hsafe.claimed.report_cases with ⟨-, hreports, hreported⟩ | ⟨_, -, hreported⟩
    · rw [hreports, hreported]
      exact Nat.zero_le 1
    · exact hreported.count
  · intro e he player
    rcases hsafe.claimed.report_cases with ⟨-, hreports, -⟩ | ⟨_, hsent, hreported⟩
    · rw [hreports] at he
      cases he
    · rw [hreported.reports e he, hsent]
  · intro result hresult
    rcases hsafe.claimed.report_cases with ⟨-, -, hreported⟩ | ⟨e, hsent, hreported⟩
    · rw [hreported] at hresult
      cases hresult
    · exact ⟨e, hsent, hreported.reported result hresult⟩
  · intro hreturned player
    rcases hsafe.claimed.report_cases with ⟨hopen, -⟩ | ⟨e, hsent, -⟩
    · exact absurd (hsafe.ordered.ended (.inr hreturned)) hopen
    · exact ⟨e, hsent player⟩

end

/-- Bob's session is closed after one tick, and every goroutine returns. -/
def disconnectActions : List Match.Action :=
  [.acknowledgeMatchStart .a, .acknowledgeMatchStart .b, .loopStart, .loopTick, .loopNext, .loopNext,
    .broadcastNext .a, .broadcastNext .a, .broadcastNext .a, .broadcastNext .a, .close .b] ++
  List.replicate 8 (.closeNext 0 .b) ++
  [.loopDone, .loopNext, .broadcastNext .a, .broadcastNext .a, .broadcastNext .a, .broadcastNext .a,
    .broadcastNext .a, .receiveMatchEnd .a, .report 7]

theorem one_outcome_disconnect : ∃ s₀ s, startMatch "match-1" "alice" "bob" true = .ok s₀ ∧
    Transition.run Process.next s₀ disconnectActions = some s ∧
      ∀ player, ∃ e, s.sent player = [e] := by
  obtain ⟨s₀, hstart, hreturns⟩ : ∃ s₀, startMatch "match-1" "alice" "bob" true = .ok s₀ ∧
      (Transition.run Process.next s₀ disconnectActions).map (fun s => s.broadcast) =
        some .returned := by
    refine ⟨_, startMatch_of_players "match-1" (by decide) (by decide) (by decide) true, ?_⟩
    decide +kernel
  obtain ⟨s, hrun, hreturned⟩ := Option.map_eq_some_iff.1 hreturns
  exact ⟨s₀, s, hstart, hrun, (one_outcome hstart hrun).2.2.2.2.2.2.2.2.1 hreturned⟩

end PvpDuel.MatchServer
