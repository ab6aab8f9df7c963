import PvpDuel.MatchServer.Outcomes

/-!
# Nothing ends before the outcome is settled

The context of a match is canceled by a call of `Close` that has been through `finalize`, and the
channel of room snapshots is closed by a loop that was canceled or has published a finished snapshot.
So once the broadcast goroutine leaves its loop, both players have been sent the outcome.
-/

namespace PvpDuel.MatchServer

open Simulation (Snapshot)
open Gamev1 (MatchEnd)

/-- The broadcast goroutine has a finished snapshot in hand. -/
def BroadcastPhase.Announces : BroadcastPhase → Prop
  | .updating snapshot => snapshot.status = .finished
  | .finalizing _ _ => True
  | _ => False

namespace Process

/-- The outcome is settled, or a finished snapshot is on its way to it. -/
def Announced (s : Process) : Prop :=
  s.terminalOnce = .done ∨ (∃ snapshot ∈ s.roomSnapshots.buffer, snapshot.status = .finished) ∨
    s.broadcast.Announces

/-- The broadcast goroutine has left its loop. -/
def Ended (s : Process) : Prop :=
  (∃ left, s.broadcast = .closing left) ∨ s.broadcast = .returned

end Process

/-- The context is canceled, a call of `Close` is past `finalize`, and the broadcast goroutine is past
its loop, only when the outcome is settled; the room loop returns only when one is announced. -/
structure Ordered (s : Process) : Prop where
  canceled : s.canceled = true → s.terminalOnce = .done
  aborting : ∀ (call : Nat) (player : Side), s.closes[call]? = some ⟨player, .aborting⟩ →
    s.terminalOnce = .done
  loop : s.loop = .closing ∨ s.loop = .returned → s.Announced
  closed : s.roomSnapshots.closed = true → s.loop = .returned
  ended : s.Ended → s.terminalOnce = .done

section

variable {s t : Process}

theorem Ordered.loopStep (h : Ordered s) (hstep : LoopStep s t) : Ordered t := by
  have hmono : t.terminalOnce = s.terminalOnce := (quiet_loop hstep).once
  have hsame : t.canceled = s.canceled ∧ t.closes = s.closes ∧ t.broadcast = s.broadcast := by
    cases hstep <;> exact ⟨rfl, rfl, rfl⟩
  obtain ⟨hcanceled, hcloses, hbroadcast⟩ := hsame
  refine ⟨?_, ?_, ?_, ?_, ?_⟩
  · rw [hmono, hcanceled]
    exact h.canceled
  · rw [hmono, hcloses]
    exact h.aborting
  · have hafter : ∀ snapshot roomSnapshots, s.roomSnapshots.send snapshot = .done roomSnapshots →
        afterPublish snapshot = .closing ∨ afterPublish snapshot = .returned →
          ∃ x ∈ roomSnapshots.buffer, x.status = .finished := by
      intro snapshot roomSnapshots hsend hloop
      unfold afterPublish at hloop
      split_ifs at hloop with hfinished
      · obtain ⟨-, hbuffer, -⟩ := Channel.send_eq_done hsend
        refine ⟨snapshot, ?_, hfinished⟩
        rw [hbuffer]
        exact List.mem_append_right _ (List.mem_singleton_self _)
      · rcases hloop with hloop | hloop <;> cases hloop
    intro hloop
    cases hstep with
    | quit hquit => exact .inl (h.canceled hquit)
    | start => rcases hloop with hloop | hloop <;> cases hloop
    | input _ _ hphase =>
        rcases hloop with hloop | hloop
        · exact h.loop (.inl hloop)
        · exact h.loop (.inr hloop)
    | tick => rcases hloop with hloop | hloop <;> cases hloop
    | step => rcases hloop with hloop | hloop <;> cases hloop
    | publish snapshot roomSnapshots _ hsend =>
        exact .inr (.inl (hafter snapshot roomSnapshots hsend hloop))
    | full => rcases hloop with hloop | hloop <;> cases hloop
    | drop => rcases hloop with hloop | hloop <;> cases hloop
    | skip => rcases hloop with hloop | hloop <;> cases hloop
    | close hphase => exact h.loop (.inl hphase)
  · have hopen : s.loop ≠ .returned → s.roomSnapshots.closed = false := fun hne =>
      Bool.eq_false_iff.2 fun hclosed => hne (h.closed hclosed)
    intro hclosed
    cases hstep with
    | quit _ hne =>
        rw [hopen hne] at hclosed
        cases hclosed
    | start hphase => exact absurd (h.closed hclosed) (by rw [hphase]; exact LoopPhase.noConfusion)
    | input _ _ hphase => exact h.closed hclosed
    | tick hphase => exact absurd (h.closed hclosed) (by rw [hphase]; exact LoopPhase.noConfusion)
    | step hphase => exact absurd (h.closed hclosed) (by rw [hphase]; exact LoopPhase.noConfusion)
    | publish snapshot roomSnapshots _ hsend =>
        obtain ⟨-, -, hafter, -⟩ := Channel.send_eq_done hsend
        rw [hafter] at hclosed
        cases hclosed
    | full _ hphase => exact absurd (h.closed hclosed) (by rw [hphase]; exact LoopPhase.noConfusion)
    | drop _ hphase =>
        have hdrop : s.roomSnapshots.tryDrop.closed = s.roomSnapshots.closed := by
          rcases Channel.tryDrop_cases s.roomSnapshots with heq | ⟨_, -, heq, -⟩
          · rw [heq]
          · exact heq
        rw [hdrop] at hclosed
        exact absurd (h.closed hclosed) (by rw [hphase]; exact LoopPhase.noConfusion)
    | skip _ hphase => exact absurd (h.closed hclosed) (by rw [hphase]; exact LoopPhase.noConfusion)
    | close => rfl
  · rw [hmono, Process.Ended, hbroadcast]
    exact h.ended

theorem Ordered.broadcastStep (h : Ordered s) (hstep : BroadcastStep s t) : Ordered t := by
  have hmono := (Step.broadcast hstep).once_done
  have hsame : t.canceled = s.canceled ∧ t.closes = s.closes ∧ t.loop = s.loop ∧
      t.roomSnapshots.closed = s.roomSnapshots.closed := by
    cases hstep with
    | receive snapshot roomSnapshots _ hreceive =>
        obtain ⟨-, hclosed, -⟩ := Channel.receive_some hreceive
        exact ⟨rfl, rfl, rfl, hclosed⟩
    | ended => exact ⟨rfl, rfl, rfl, rfl⟩
    | decide => exact ⟨rfl, rfl, rfl, rfl⟩
    | update => exact ⟨rfl, rfl, rfl, rfl⟩
    | finalize _ _ _ _ _ hfinalize => cases hfinalize <;> exact ⟨rfl, rfl, rfl, rfl⟩
    | publish _ _ _ _ _ _ _ hpublish =>
        obtain ⟨snapshots, rfl, -⟩ := Match.publishLatest_done hpublish
        exact ⟨rfl, rfl, rfl, rfl⟩
    | close closing _ _ _ hclose =>
        cases closing <;> obtain ⟨_, -, rfl⟩ := Outcome.map_eq_done hclose <;>
          exact ⟨rfl, rfl, rfl, rfl⟩
  obtain ⟨hcanceled, hcloses, hloop, hclosed⟩ := hsame
  refine ⟨?_, ?_, ?_, ?_, ?_⟩
  · rw [hcanceled]
    exact fun heq => hmono (h.canceled heq)
  · rw [hcloses]
    exact fun call player heq => hmono (h.aborting call player heq)
  · rw [hloop]
    intro hphase
    rcases h.loop hphase with hdone | ⟨snapshot, hin, hfinished⟩ | hannounces
    · exact .inl (hmono hdone)
    · cases hstep with
      | receive first roomSnapshots _ hreceive =>
          obtain ⟨hbuffer, -⟩ := Channel.receive_some hreceive
          rw [hbuffer] at hin
          rcases List.mem_cons.1 hin with rfl | hin
          · exact .inr (.inr hfinished)
          · exact .inr (.inl ⟨snapshot, hin, hfinished⟩)
      | ended _ _ _ hbuffer =>
          rw [hbuffer] at hin
          cases hin
      | decide => exact .inr (.inl ⟨snapshot, hin, hfinished⟩)
      | update => exact .inr (.inl ⟨snapshot, hin, hfinished⟩)
      | finalize _ _ _ _ _ hfinalize =>
          cases hfinalize <;> exact .inr (.inl ⟨snapshot, hin, hfinished⟩)
      | publish _ _ _ _ _ _ _ hpublish =>
          obtain ⟨snapshots, rfl, -⟩ := Match.publishLatest_done hpublish
          exact .inr (.inl ⟨snapshot, hin, hfinished⟩)
      | close closing _ _ _ hclose =>
          cases closing <;> obtain ⟨_, -, rfl⟩ := Outcome.map_eq_done hclose <;>
            exact .inr (.inl ⟨snapshot, hin, hfinished⟩)
    · cases hstep with
      | receive _ _ hbroadcast =>
          rw [hbroadcast] at hannounces
          exact hannounces.elim
      | ended _ hbroadcast =>
          rw [hbroadcast] at hannounces
          exact hannounces.elim
      | decide => exact .inr (.inr trivial)
      | update _ _ hbroadcast hunfinished =>
          rw [hbroadcast] at hannounces
          exact absurd hannounces hunfinished
      | finalize _ _ next _ _ hfinalize =>
          cases next with
          | none => exact .inl (hfinalize.once_done.2 rfl)
          | some _ => exact .inr (.inr trivial)
      | publish _ _ _ _ _ _ hbroadcast =>
          rw [hbroadcast] at hannounces
          exact hannounces.elim
      | close _ _ _ hbroadcast =>
          rw [hbroadcast] at hannounces
          exact hannounces.elim
  · rw [hclosed, hloop]
    exact h.closed
  · intro hended
    cases hstep with
    | receive => rcases hended with ⟨_, hended⟩ | hended <;> cases hended
    | ended first hbroadcast hend hbuffer =>
        -- The loop has returned with its channel empty, so what it announced was settled.
        rcases h.loop (.inr (h.closed hend)) with hdone | ⟨snapshot, hin, -⟩ | hannounces
        · exact hdone
        · rw [hbuffer] at hin
          cases hin
        · rw [hbroadcast] at hannounces
          exact hannounces.elim
    | decide => rcases hended with ⟨_, hended⟩ | hended <;> cases hended
    | update => rcases hended with ⟨_, hended⟩ | hended <;> cases hended
    | finalize _ _ next =>
        cases next <;> rcases hended with ⟨_, hended⟩ | hended <;> cases hended
    | publish _ _ _ left next =>
        cases next <;> cases left <;> rcases hended with ⟨_, hended⟩ | hended <;> cases hended
    | close _ _ _ hbroadcast => exact hmono (h.ended (.inl ⟨_, hbroadcast⟩))

theorem Ordered.closeStep (h : Ordered s) {call : Nat} {player : Side}
    (hstep : CloseStep s call player t) : Ordered t := by
  have hmono := (Step.close hstep).once_done
  obtain ⟨-, -, hloop, hsnapshots, hbroadcast, -⟩ := hstep.shared
  have hset : ∀ {c : CloseCall} {phase : ClosePhase}, s.closes[call]? = some c →
      t.closes = s.closes.set call ⟨player, phase⟩ →
      (phase = .aborting → t.terminalOnce = .done) → ∀ (other : Nat) (side : Side),
      t.closes[other]? = some ⟨side, .aborting⟩ → t.terminalOnce = .done := by
    intro c phase hcall hcloses hphase other side hother
    rw [hcloses] at hother
    by_cases heq : call = other
    · subst other
      rw [List.getElem?_set_self (List.getElem?_eq_some_iff.1 hcall).1] at hother
      cases hother
      exact hphase rfl
    · rw [List.getElem?_set_ne heq] at hother
      exact hmono (h.aborting other side hother)
  refine ⟨?_, ?_, ?_, ?_, ?_⟩
  · intro hcanceled
    cases hstep with
    | begin => exact h.canceled hcanceled
    | skip => exact h.canceled hcanceled
    | disconnect => exact h.canceled hcanceled
    | finalize _ _ _ _ _ hfinalize =>
        have hbefore : s.canceled = true := by cases hfinalize <;> exact hcanceled
        exact hmono (h.canceled hbefore)
    | abort hcall => exact hmono (h.aborting call player hcall)
    | leave => exact h.canceled hcanceled
  · cases hstep with
    | begin hcall => exact hset hcall rfl (fun heq => by cases heq)
    | skip hcall => exact hset hcall rfl (fun heq => by cases heq)
    | disconnect hcall => exact hset hcall rfl (fun heq => by cases heq)
    | finalize _ _ next _ hcall hfinalize =>
        refine hset hcall rfl fun heq => hfinalize.once_done.2 ?_
        cases next with
        | none => rfl
        | some _ => cases heq
    | abort hcall => exact hset hcall rfl (fun heq => by cases heq)
    | leave hcall => exact hset hcall rfl (fun heq => by cases heq)
  · rw [hloop, Process.Announced, hbroadcast, hsnapshots]
    exact fun hphase => (h.loop hphase).imp_left hmono
  · rw [hloop, hsnapshots]
    exact h.closed
  · rw [Process.Ended, hbroadcast]
    exact fun hended => hmono (h.ended hended)

/-- A step outside the loop, the broadcast and the calls of `Close` keeps the order. -/
theorem Ordered.of_same (h : Ordered s) (honce : t.terminalOnce = s.terminalOnce)
    (hcanceled : t.canceled = s.canceled) (hloop : t.loop = s.loop)
    (hbroadcast : t.broadcast = s.broadcast) (hsnapshots : t.roomSnapshots = s.roomSnapshots)
    (hcloses : ∀ (call : Nat) (player : Side), t.closes[call]? = some ⟨player, .aborting⟩ →
      s.closes[call]? = some ⟨player, .aborting⟩) : Ordered t := by
  refine ⟨?_, ?_, ?_, ?_, ?_⟩
  · rw [hcanceled, honce]
    exact h.canceled
  · rw [honce]
    exact fun call player haborting => h.aborting call player (hcloses call player haborting)
  · rw [hloop, Process.Announced, honce, hbroadcast, hsnapshots]
    exact h.loop
  · rw [hsnapshots, hloop]
    exact h.closed
  · rw [Process.Ended, hbroadcast, honce]
    exact h.ended

theorem Ordered.step (h : Ordered s) (hstep : Step s t) : Ordered t := by
  cases hstep with
  | acknowledge player m hm =>
      rcases Match.acknowledgeMatchStart_done hm with rfl | ⟨-, _, -, rfl⟩
      · exact h
      · exact h.of_same rfl rfl rfl rfl rfl fun _ _ => id
  | submit player input m hm =>
      obtain ⟨_, rfl, -⟩ := Match.submitInput_done hm
      exact h.of_same rfl rfl rfl rfl rfl fun _ _ => id
  | loop hstep => exact h.loopStep hstep
  | broadcast hstep => exact h.broadcastStep hstep
  | call player =>
      refine h.of_same rfl rfl rfl rfl rfl fun call side hcall => ?_
      rw [List.getElem?_append] at hcall
      split_ifs at hcall with hlt
      · exact hcall
      · rw [List.getElem?_singleton] at hcall
        split_ifs at hcall
        cases hcall
  | close hstep => exact h.closeStep hstep
  | receiveSnapshot => exact h.of_same rfl rfl rfl rfl rfl fun _ _ => id
  | receiveMatchEnd => exact h.of_same rfl rfl rfl rfl rfl fun _ _ => id
  | report => exact h.of_same rfl rfl rfl rfl rfl fun _ _ => id

end

end PvpDuel.MatchServer
