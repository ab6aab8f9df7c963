import PvpDuel.MatchServer.Outcomes

/-!
# The channels of a match

Which channels are open in which phase: each is closed by one goroutine, at one point of it.
-/

namespace PvpDuel.MatchServer

open Gamev1 (MatchEnd)

/-- The closings of the deferred function of `broadcast` that are still to come. -/
def BroadcastPhase.unclosed : BroadcastPhase → List Closing
  | .closing left => left
  | .returned => []
  | _ => closings .a

/-- The sessions that have acknowledged the start. -/
def Match.acks (m : Match) : Nat :=
  (if m.players.a.startAckOnce = .done then 1 else 0) +
    (if m.players.b.startAckOnce = .done then 1 else 0)

/-- A channel that its goroutine still closes is open, and so is the channel of inputs; the start
barrier is closed by the second acknowledgement. -/
structure Wired (s : Process) : Prop where
  inputs : s.inputs.closed = false
  barrier : s.startBarrier.buffer = []
  count : s.startCount = s.acks
  started : s.startBarrier.closed = true → s.startCount = 2
  distinct : s.broadcast.unclosed.Nodup
  snapshots : ∀ player, .snapshots player ∈ s.broadcast.unclosed →
    (s.players.get player).snapshots.closed = false
  matchEnds : ∀ player, .matchEnds player ∈ s.broadcast.unclosed →
    (s.players.get player).matchEnds.closed = false
  capacity : ∀ player, (s.players.get player).matchEnds.capacity = 1

theorem mem_closings (first : Side) (closing : Closing) : closing ∈ closings first := by
  cases closing with
  | snapshots player => cases first <;> cases player <;> decide
  | matchEnds player => cases first <;> cases player <;> decide

theorem closings_nodup (first : Side) : (closings first).Nodup := by
  cases first <;> decide

theorem acks_setPlayer {m : Match} {player : Side}
    (hidle : (m.players.get player).startAckOnce = .idle) :
    (m.setPlayer player { m.players.get player with startAckOnce := .done }).acks = m.acks + 1 ∧
      m.acks ≤ 1 := by
  unfold Match.acks
  cases player with
  | a =>
      have ha : m.players.a.startAckOnce = .idle := hidle
      change (if Once.done = .done then 1 else 0) +
        (if m.players.b.startAckOnce = .done then 1 else 0) = _ ∧ _
      rw [ha]
      split_ifs <;> simp_all
  | b =>
      have hb : m.players.b.startAckOnce = .idle := hidle
      change (if m.players.a.startAckOnce = .done then 1 else 0) +
        (if Once.done = .done then 1 else 0) = _ ∧ _
      rw [hb]
      split_ifs <;> simp_all

section

variable {s t : Process}

/-- A step that leaves the channels' flags, the acknowledgements and what is left to close alone. -/
theorem Wired.of_same (h : Wired s) (hinputs : t.inputs.closed = s.inputs.closed)
    (hbarrier : t.startBarrier = s.startBarrier) (hcount : t.startCount = s.startCount)
    (hacks : ∀ player, (t.players.get player).startAckOnce = (s.players.get player).startAckOnce)
    (hunclosed : t.broadcast.unclosed = s.broadcast.unclosed)
    (hsnapshots : ∀ player,
      (t.players.get player).snapshots.closed = (s.players.get player).snapshots.closed)
    (hends : ∀ player,
      (t.players.get player).matchEnds.closed = (s.players.get player).matchEnds.closed ∧
        (t.players.get player).matchEnds.capacity = (s.players.get player).matchEnds.capacity) :
    Wired t := by
  refine ⟨hinputs.trans h.inputs, ?_, ?_, ?_, ?_, ?_, ?_, ?_⟩
  · rw [hbarrier]
    exact h.barrier
  · have ha : t.players.a.startAckOnce = s.players.a.startAckOnce := hacks .a
    have hb : t.players.b.startAckOnce = s.players.b.startAckOnce := hacks .b
    rw [hcount, h.count, Match.acks, Match.acks, ha, hb]
  · rw [hbarrier, hcount]
    exact h.started
  · rw [hunclosed]
    exact h.distinct
  · rw [hunclosed]
    exact fun player hin => (hsnapshots player).trans (h.snapshots player hin)
  · rw [hunclosed]
    exact fun player hin => (hends player).1.trans (h.matchEnds player hin)
  · exact fun player => (hends player).2.trans (h.capacity player)

/-- A step that only writes one session, and nothing of it that counts here. -/
theorem Wired.of_setPlayer (h : Wired s) {player : Side} {session : PlayerSession}
    (hplayers : t.toMatch.players = (s.setPlayer player session).players)
    (hinputs : t.inputs = s.inputs) (hbarrier : t.startBarrier = s.startBarrier)
    (hcount : t.startCount = s.startCount) (hunclosed : t.broadcast.unclosed = s.broadcast.unclosed)
    (hacks : session.startAckOnce = (s.players.get player).startAckOnce)
    (hsnapshots : session.snapshots.closed = (s.players.get player).snapshots.closed)
    (hclosed : session.matchEnds.closed = (s.players.get player).matchEnds.closed)
    (hcapacity : session.matchEnds.capacity = (s.players.get player).matchEnds.capacity) :
    Wired t := by
  refine h.of_same (by rw [hinputs]) hbarrier hcount ?_ hunclosed ?_ ?_ <;> rw [hplayers]
  · exact Match.setPlayer_same PlayerSession.startAckOnce hacks
  · exact Match.setPlayer_same (fun session => session.snapshots.closed) hsnapshots
  · exact fun other =>
      ⟨Match.setPlayer_same (fun session => session.matchEnds.closed) hclosed other,
        Match.setPlayer_same (fun session => session.matchEnds.capacity) hcapacity other⟩

theorem Wired.loopStep (h : Wired s) (hstep : LoopStep s t) : Wired t := by
  have hinputs : t.inputs.closed = s.inputs.closed := by
    cases hstep with
    | input _ _ _ hreceive => exact (Channel.receive_some hreceive).2.1
    | quit => rfl
    | start => rfl
    | tick => rfl
    | step => rfl
    | publish => rfl
    | full => rfl
    | drop => rfl
    | skip => rfl
    | close => rfl
  cases hstep <;>
    exact h.of_same hinputs rfl rfl (fun _ => rfl) rfl (fun _ => rfl) fun _ => ⟨rfl, rfl⟩

theorem Wired.finalizes (h : Wired s) {matchEnd : MatchEnd} {phase : Finalizing}
    {next : Option Finalizing} (hstep : s.Finalizes matchEnd phase next t.toMatch)
    (hunclosed : t.broadcast.unclosed = s.broadcast.unclosed) : Wired t := by
  have hsame : t.inputs = s.inputs → t.startBarrier = s.startBarrier →
      t.startCount = s.startCount → t.players = s.players → Wired t := by
    intro hinputs hbarrier hcount hplayers
    refine h.of_same (by rw [hinputs]) hbarrier hcount (fun _ => by rw [hplayers]) hunclosed
      (fun _ => by rw [hplayers]) fun _ => ?_
    rw [hplayers]
    exact ⟨rfl, rfl⟩
  generalize hm : t.toMatch = m at hstep
  cases hstep with
  | claim => exact hsame (by rw [hm]) (by rw [hm]) (by rw [hm]) (by rw [hm])
  | skip => exact hsame (by rw [hm]) (by rw [hm]) (by rw [hm]) (by rw [hm])
  | settle => exact hsame (by rw [hm]) (by rw [hm]) (by rw [hm]) (by rw [hm])
  | send player left matchEnds hsend =>
      obtain ⟨hbefore, -, hafter, hcapacity⟩ := Channel.send_eq_done hsend
      refine h.of_setPlayer (congrArg Match.players hm) ?_ ?_ ?_ hunclosed rfl rfl
        (hafter.trans hbefore.symm) hcapacity <;> rw [hm] <;> rfl

theorem Wired.broadcastStep (h : Wired s) (hstep : BroadcastStep s t) : Wired t := by
  cases hstep with
  | receive _ _ hbroadcast =>
      refine h.of_same rfl rfl rfl (fun _ => rfl) ?_ (fun _ => rfl) fun _ => ⟨rfl, rfl⟩
      rw [hbroadcast]
      rfl
  | ended first hbroadcast =>
      have hall : ∀ closing, closing ∈ s.broadcast.unclosed := by
        rw [hbroadcast]
        exact mem_closings .a
      exact ⟨h.inputs, h.barrier, h.count, h.started, closings_nodup first,
        fun player _ => h.snapshots player (hall _), fun player _ => h.matchEnds player (hall _),
        h.capacity⟩
  | decide _ hbroadcast =>
      refine h.of_same rfl rfl rfl (fun _ => rfl) ?_ (fun _ => rfl) fun _ => ⟨rfl, rfl⟩
      rw [hbroadcast]
      rfl
  | update _ _ hbroadcast =>
      refine h.of_same rfl rfl rfl (fun _ => rfl) ?_ (fun _ => rfl) fun _ => ⟨rfl, rfl⟩
      rw [hbroadcast]
      rfl
  | finalize _ _ next _ hbroadcast hfinalize =>
      refine h.finalizes hfinalize ?_
      rw [hbroadcast]
      cases next <;> rfl
  | publish _ _ _ left next _ hbroadcast hpublish =>
      obtain ⟨snapshots, rfl, hclosed⟩ := Match.publishLatest_done hpublish
      refine h.of_setPlayer rfl rfl rfl rfl ?_ rfl hclosed rfl rfl
      rw [hbroadcast]
      cases next with
      | none => cases left <;> rfl
      | some _ => rfl
  | close closing left m hbroadcast hclose =>
      have hdistinct := h.distinct
      have hsnapshots := h.snapshots
      have hends := h.matchEnds
      rw [hbroadcast] at hdistinct hsnapshots hends
      obtain ⟨hnotin, hnodup⟩ := List.nodup_cons.1 hdistinct
      have hunclosed : (closeRest left).unclosed = left := by cases left <;> rfl
      have hwired : ∀ {player : Side} {session : PlayerSession},
          session.startAckOnce = (s.players.get player).startAckOnce →
          session.matchEnds.capacity = (s.players.get player).matchEnds.capacity →
          (.snapshots player ∈ left → session.snapshots.closed = false) →
          (.matchEnds player ∈ left → session.matchEnds.closed = false) →
          Wired { s with toMatch := s.setPlayer player session, broadcast := closeRest left } := by
        intro player session hack hcapacity hopen hopen'
        refine ⟨h.inputs, h.barrier, ?_, h.started, hunclosed.symm ▸ hnodup, ?_, ?_, ?_⟩
        · refine h.count.trans ?_
          cases player with
          | a => exact congrArg (fun once => (if once = Once.done then 1 else 0) + _) hack.symm
          | b => exact congrArg (fun once => _ + (if once = Once.done then 1 else 0)) hack.symm
        · intro other hin
          change _ ∈ (closeRest left).unclosed at hin
          rw [hunclosed] at hin
          change ((s.setPlayer player session).players.get other).snapshots.closed = false
          rw [Match.get_setPlayer]
          split_ifs with heq
          · exact hopen (heq ▸ hin)
          · exact hsnapshots other (List.mem_cons_of_mem _ hin)
        · intro other hin
          change _ ∈ (closeRest left).unclosed at hin
          rw [hunclosed] at hin
          change ((s.setPlayer player session).players.get other).matchEnds.closed = false
          rw [Match.get_setPlayer]
          split_ifs with heq
          · exact hopen' (heq ▸ hin)
          · exact hends other (List.mem_cons_of_mem _ hin)
        · exact fun other => (Match.setPlayer_same
            (fun session => session.matchEnds.capacity) hcapacity other).trans (h.capacity other)
      cases closing with
      | snapshots player =>
          obtain ⟨snapshots, -, rfl⟩ := Outcome.map_eq_done hclose
          exact hwired rfl rfl (fun hin => absurd hin hnotin)
            fun hin => hends player (List.mem_cons_of_mem _ hin)
      | matchEnds player =>
          obtain ⟨matchEnds, hchannel, rfl⟩ := Outcome.map_eq_done hclose
          obtain ⟨-, rfl⟩ := Channel.close_eq_done hchannel
          exact hwired rfl rfl (fun hin => hsnapshots player (List.mem_cons_of_mem _ hin))
            fun hin => absurd hin hnotin

theorem Wired.closeStep (h : Wired s) {call : Nat} {player : Side}
    (hstep : CloseStep s call player t) : Wired t := by
  cases hstep with
  | begin => exact h.of_setPlayer rfl rfl rfl rfl rfl rfl rfl rfl rfl
  | skip => exact h.of_same rfl rfl rfl (fun _ => rfl) rfl (fun _ => rfl) fun _ => ⟨rfl, rfl⟩
  | disconnect => exact h.of_same rfl rfl rfl (fun _ => rfl) rfl (fun _ => rfl) fun _ => ⟨rfl, rfl⟩
  | finalize _ _ _ _ _ hfinalize => exact h.finalizes hfinalize rfl
  | abort =>
      obtain ⟨_, _, heq⟩ := s.abort_eq
      rw [heq]
      exact h.of_same rfl rfl rfl (fun _ => rfl) rfl (fun _ => rfl) fun _ => ⟨rfl, rfl⟩
  | leave => exact h.of_setPlayer rfl rfl rfl rfl rfl rfl rfl rfl rfl

theorem Wired.step (h : Wired s) (hstep : Step s t) : Wired t := by
  cases hstep with
  | acknowledge player m hm =>
      rcases Match.acknowledgeMatchStart_done hm with rfl | ⟨hidle, startBarrier, hbarrier, rfl⟩
      · exact h
      · obtain ⟨hacks, hle⟩ := acks_setPlayer hidle
        have hsame : ∀ {β : Type} (f : PlayerSession → β),
            f { s.players.get player with startAckOnce := .done } = f (s.players.get player) →
              ∀ other, f ((s.setPlayer player
                { s.players.get player with startAckOnce := .done }).players.get other) =
                  f (s.players.get other) := fun f heq => Match.setPlayer_same f heq
        have hsnapshots := hsame PlayerSession.snapshots rfl
        have hends := hsame PlayerSession.matchEnds rfl
        refine ⟨h.inputs, ?_, ?_, ?_, h.distinct, fun other hin => ?_, fun other hin => ?_,
          fun other => ?_⟩
        · rcases hbarrier with ⟨-, hclose⟩ | ⟨-, rfl⟩
          · obtain ⟨-, rfl⟩ := Channel.close_eq_done hclose
            exact h.barrier
          · exact h.barrier
        · change s.startCount + 1 = _
          rw [h.count]
          exact hacks.symm
        · rcases hbarrier with ⟨hcount, -⟩ | ⟨hcount, rfl⟩
          · exact fun _ => hcount
          · intro hclosed
            have htwo := h.started hclosed
            rw [h.count] at htwo
            omega
        · exact (congrArg Channel.closed (hsnapshots other)).trans (h.snapshots other hin)
        · exact (congrArg Channel.closed (hends other)).trans (h.matchEnds other hin)
        · exact (congrArg Channel.capacity (hends other)).trans (h.capacity other)
  | submit player input m hm =>
      obtain ⟨inputs, rfl, hinputs⟩ := Match.submitInput_done hm
      have hopen : inputs.closed = s.inputs.closed := by
        rcases hinputs with hsend | rfl
        · obtain ⟨hbefore, -, hafter, -⟩ := Channel.send_eq_done hsend
          rw [hbefore, hafter]
        · rfl
      exact h.of_same hopen rfl rfl (fun _ => rfl) rfl (fun _ => rfl) fun _ => ⟨rfl, rfl⟩
  | loop hstep => exact h.loopStep hstep
  | broadcast hstep => exact h.broadcastStep hstep
  | call => exact h.of_same rfl rfl rfl (fun _ => rfl) rfl (fun _ => rfl) fun _ => ⟨rfl, rfl⟩
  | close hstep => exact h.closeStep hstep
  | receiveSnapshot player snapshot snapshots hreceive =>
      obtain ⟨-, hclosed, -⟩ := Channel.receive_some hreceive
      exact h.of_setPlayer rfl rfl rfl rfl rfl rfl hclosed rfl rfl
  | receiveMatchEnd player matchEnd matchEnds hreceive =>
      obtain ⟨-, hclosed, hcapacity⟩ := Channel.receive_some hreceive
      exact h.of_setPlayer rfl rfl rfl rfl rfl rfl rfl hclosed hcapacity
  | report => exact h.of_same rfl rfl rfl (fun _ => rfl) rfl (fun _ => rfl) fun _ => ⟨rfl, rfl⟩

end

end PvpDuel.MatchServer
