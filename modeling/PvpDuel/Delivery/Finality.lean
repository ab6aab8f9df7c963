import PvpDuel.Delivery.Reconciliation

/-!
# The world moves forward and ends as announced

The client judges a snapshot by its tick, and only once the match has started. So its world moves
forward, and stays the announced one after the end, as long as nothing polled before the start is
older than the world, the final snapshot is not older than what the client has, and what comes after
the end is older than it. The client promises none of this by itself.
-/

namespace PvpDuel.Delivery

open Client (MatchModel)
open Gamev1 (MatchEnd MatchStart WorldSnapshot)
open MatchServer (Match Process Sound)

/-! ### One snapshot -/

/-- The world is the snapshot, but for the arena, which a match does not change. -/
def Shows (m : MatchModel) (w : WorldSnapshot) : Prop :=
  m.world = { w with arenaID := m.world.arenaID }

section

variable {m : MatchModel} {w : WorldSnapshot}

theorem Shows.serverTick (h : Shows m w) : m.world.serverTick = w.serverTick := by
  rw [h]

theorem applySnapshot_shows (m : MatchModel) (w : WorldSnapshot) :
    (m.started = true ∧ w.serverTick < m.world.serverTick ∧ m.applySnapshot w = m) ∨
      ((m.started = true → m.world.serverTick ≤ w.serverTick) ∧ Shows (m.applySnapshot w) w) := by
  unfold MatchModel.applySnapshot
  split_ifs with hstale
  · exact .inl ⟨hstale.1, hstale.2, rfl⟩
  · exact .inr ⟨fun hstarted => UInt32.not_lt.1 fun hlt => hstale ⟨hstarted, hlt⟩, rfl⟩

theorem applySnapshot_kept (m : MatchModel) (w : WorldSnapshot) :
    (m.applySnapshot w).matchEnd = m.matchEnd ∧ (m.applySnapshot w).started = m.started := by
  unfold MatchModel.applySnapshot
  split_ifs
  · exact ⟨rfl, rfl⟩
  · obtain ⟨hstarted, -, hend⟩ := m.applyPlayers_fields w.players
    exact ⟨hend, hstarted⟩

theorem applySnapshot_forward (hstarted : m.started = true) :
    m.world.serverTick ≤ (m.applySnapshot w).world.serverTick := by
  rcases applySnapshot_shows m w with ⟨-, -, heq⟩ | ⟨hnewer, hshows⟩
  · rw [heq]
    exact UInt32.le_refl _
  · rw [hshows.serverTick]
    exact hnewer hstarted

theorem applySnapshot_fresh (hfresh : m.started = true → m.world.serverTick ≤ w.serverTick) :
    Shows (m.applySnapshot w) w := by
  rcases applySnapshot_shows m w with ⟨hstarted, hstale, -⟩ | ⟨-, hshows⟩
  · exact absurd hstale (UInt32.not_lt.2 (hfresh hstarted))
  · exact hshows

theorem applySnapshot_stale (hstarted : m.started = true)
    (hstale : w.serverTick < m.world.serverTick) : m.applySnapshot w = m :=
  if_pos ⟨hstarted, hstale⟩

/-- The world is never newer than what it was and what has been applied. -/
theorem applySnapshot_bounded {bound : UInt32} (hworld : m.world.serverTick ≤ bound)
    (hw : w.serverTick ≤ bound) : (m.applySnapshot w).world.serverTick ≤ bound := by
  rcases applySnapshot_shows m w with ⟨-, -, heq⟩ | ⟨-, hshows⟩
  · rw [heq]
    exact hworld
  · rw [hshows.serverTick]
    exact hw

end

/-! ### One poll -/

/-- The match has started once the start is polled. -/
def Begun (m : MatchModel) (start : Option MatchStart) : Prop :=
  m.started = true ∨ start.isSome = true

instance (m : MatchModel) (start : Option MatchStart) : Decidable (Begun m start) := by
  unfold Begun
  infer_instance

/-- The poll brings an end that is not older than the world and than what the poll brings besides, or
it brings none and takes no step back: before the start nothing older than the world, after the end
only what is older. -/
def Forward (m : MatchModel) (start : Option MatchStart) (snapshot : Option WorldSnapshot)
    (matchEnd : Option MatchEnd) : Prop :=
  (∀ e ∈ matchEnd.toList, m.world.serverTick ≤ e.finalSnapshot.serverTick ∧
    (Begun m start → ∀ w ∈ MatchModel.polled start snapshot none,
      w.serverTick ≤ e.finalSnapshot.serverTick)) ∧
  (matchEnd = none → m.matchEnd = none → Begun m start ∨
    ∀ w ∈ snapshot.toList, m.world.serverTick ≤ w.serverTick) ∧
  (matchEnd = none → m.matchEnd ≠ none → MatchModel.polled start snapshot none = [] ∨
    Begun m start ∧ ∀ w ∈ MatchModel.polled start snapshot none, w.serverTick < m.world.serverTick)

instance (m : MatchModel) (start : Option MatchStart) (snapshot : Option WorldSnapshot)
    (matchEnd : Option MatchEnd) : Decidable (Forward m start snapshot matchEnd) := by
  unfold Forward
  infer_instance

section

variable {m : MatchModel} {start : Option MatchStart} {snapshot : Option WorldSnapshot}
  {matchEnd : Option MatchEnd} {bound : UInt32}

theorem applyStart_eq (m : MatchModel) (start : MatchStart) : ∃ begun : MatchModel,
    begun.started = true ∧ begun.world = m.world ∧ begun.matchEnd = m.matchEnd ∧
      m.applyStart start = begun.applySnapshot start.initialSnapshot :=
  ⟨{ m with
    tickRate := if start.tickRate = 0 then 30 else start.tickRate
    arenaId := if start.arenaID ≠ "" then start.arenaID else start.initialSnapshot.arenaID
    started := true }, rfl, rfl, rfl, rfl⟩

/-- The first branch of a poll starts the match and takes the world no step back. -/
theorem applyStart_forward (m : MatchModel) (start : Option MatchStart) :
    (Begun m start → (start.toList.foldl MatchModel.applyStart m).started = true) ∧
      m.world.serverTick ≤ (start.toList.foldl MatchModel.applyStart m).world.serverTick ∧
      (start.toList.foldl MatchModel.applyStart m).matchEnd = m.matchEnd := by
  cases start with
  | none => exact ⟨fun h => h.resolve_right (by decide), UInt32.le_refl _, rfl⟩
  | some start =>
      obtain ⟨begun, hstarted, hworld, hend, heq⟩ := applyStart_eq m start
      obtain ⟨hsameEnd, hsameStarted⟩ := applySnapshot_kept begun start.initialSnapshot
      change (Begun m (some start) → (m.applyStart start).started = true) ∧
        m.world.serverTick ≤ (m.applyStart start).world.serverTick ∧
        (m.applyStart start).matchEnd = m.matchEnd
      rw [heq, ← hworld, ← hend]
      exact ⟨fun _ => hsameStarted.trans hstarted, applySnapshot_forward hstarted, hsameEnd⟩

/-- Before the end a poll without one keeps the world from going back. -/
theorem poll_forward_before (hforward : Begun m start ∨
    ∀ w ∈ snapshot.toList, m.world.serverTick ≤ w.serverTick) :
    m.world.serverTick ≤ (m.poll start snapshot none).world.serverTick := by
  obtain ⟨hbegun, hstart, -⟩ := applyStart_forward m start
  unfold MatchModel.poll
  cases snapshot with
  | none => exact hstart
  | some w =>
      by_cases hstarted : Begun m start
      · exact UInt32.le_trans hstart (applySnapshot_forward (hbegun hstarted))
      · have hnone : start = none := by
          rw [← Option.not_isSome_iff_eq_none]
          exact fun h => hstarted (.inr h)
        have hnewer := hforward.resolve_left hstarted w (List.mem_singleton_self w)
        subst start
        have hshows := applySnapshot_fresh fun _ => hnewer
        change _ ≤ (m.applySnapshot w).world.serverTick
        rw [hshows.serverTick]
        exact hnewer

/-- After the end a poll that only brings what is older changes nothing but the arena's name. -/
theorem poll_forward_after (hforward : MatchModel.polled start snapshot none = [] ∨
    Begun m start ∧ ∀ w ∈ MatchModel.polled start snapshot none, w.serverTick < m.world.serverTick) :
    (m.poll start snapshot none).world = m.world ∧
      (m.poll start snapshot none).matchEnd = m.matchEnd := by
  have hstart : (start.toList.foldl MatchModel.applyStart m).world = m.world ∧
      (start.toList.foldl MatchModel.applyStart m).matchEnd = m.matchEnd := by
    refine ⟨?_, (applyStart_forward m start).2.2⟩
    cases start with
    | none => rfl
    | some start =>
        obtain hnone | ⟨-, hstale⟩ := hforward
        · cases hnone
        · have holder := hstale start.initialSnapshot (List.mem_cons_self ..)
          obtain ⟨begun, hstarted, hworld, -, heq⟩ := applyStart_eq m start
          rw [← hworld] at holder
          change (m.applyStart start).world = m.world
          rw [heq, applySnapshot_stale hstarted holder, hworld]
  unfold MatchModel.poll
  cases snapshot with
  | none => exact hstart
  | some w =>
      obtain hnone | ⟨hbegun, hstale⟩ := hforward
      · exact absurd (List.append_eq_nil_iff.1 hnone).1 (by simp)
      · have holder := hstale w (by simp [MatchModel.polled])
        have hsame := applySnapshot_stale (m := start.toList.foldl MatchModel.applyStart m)
          ((applyStart_forward m start).1 hbegun) (by rw [hstart.1]; exact holder)
        change ((start.toList.foldl MatchModel.applyStart m).applySnapshot w).world = _ ∧
          ((start.toList.foldl MatchModel.applyStart m).applySnapshot w).matchEnd = _
        rw [hsame]
        exact hstart

/-- An end that is not older than what the client has, and than what comes with it, is the world. -/
theorem poll_forward_end {e : MatchEnd} (hworld : m.world.serverTick ≤ e.finalSnapshot.serverTick)
    (hpolled : Begun m start → ∀ w ∈ MatchModel.polled start snapshot none,
      w.serverTick ≤ e.finalSnapshot.serverTick) :
    Shows (m.poll start snapshot (some e)) e.finalSnapshot ∧
      (m.poll start snapshot (some e)).matchEnd = some e := by
  refine ⟨?_, rfl⟩
  set m₁ := start.toList.foldl MatchModel.applyStart m with hm₁
  set m₂ := snapshot.toList.foldl MatchModel.applySnapshot m₁ with hm₂
  change Shows (m₂.applySnapshot e.finalSnapshot) e.finalSnapshot
  apply applySnapshot_fresh
  intro hstarted
  have hkept : m₂.started = m₁.started := by
    rw [hm₂]
    cases snapshot with
    | none => rfl
    | some w => exact (applySnapshot_kept m₁ w).2
  have hbegun : Begun m start := by
    rw [hkept, hm₁] at hstarted
    cases start with
    | none => exact .inl hstarted
    | some start => exact .inr rfl
  have hbound := hpolled hbegun
  have hfirst : m₁.world.serverTick ≤ e.finalSnapshot.serverTick := by
    rw [hm₁]
    cases start with
    | none => exact hworld
    | some start =>
        obtain ⟨begun, -, hsame, -, heq⟩ := applyStart_eq m start
        rw [← hsame] at hworld
        change (m.applyStart start).world.serverTick ≤ _
        rw [heq]
        exact applySnapshot_bounded hworld (hbound _ (List.mem_cons_self ..))
  rw [hm₂]
  cases snapshot with
  | none => exact hfirst
  | some w => exact applySnapshot_bounded hfirst (hbound w (by simp [MatchModel.polled]))

end

/-! ### A run -/

/-- The stream hands over the start once, and the end once. -/
def NetworkMatch.Reliable (n : NetworkMatch) : Action → Prop
  | .pollNetwork start _ matchEnd _ =>
      (start = true → n.client.model.started = false) ∧
        ((n.polledEnd matchEnd).isSome = true → n.client.model.matchEnd = none)
  | _ => True

instance (n : NetworkMatch) (action : Action) : Decidable (n.Reliable action) := by
  unfold NetworkMatch.Reliable
  split <;> infer_instance

/-- Every poll takes the world forward. -/
def NetworkMatch.MovesForward (n : NetworkMatch) : Action → Prop
  | .pollNetwork start snapshot matchEnd _ =>
      Forward n.client.model (n.polledStart start) (n.polledSnapshot snapshot) (n.polledEnd matchEnd)
  | _ => True

instance (n : NetworkMatch) (action : Action) : Decidable (n.MovesForward action) := by
  unfold NetworkMatch.MovesForward
  split <;> infer_instance

section

variable {n n' : NetworkMatch} {e : MatchEnd}

/-- The client has been told of an end, and shows it. -/
structure Ended (e : MatchEnd) (n : NetworkMatch) : Prop where
  told : n.client.model.matchEnd = some e
  shows : Shows n.client.model e.finalSnapshot

theorem fixedTick_shown (n : NetworkMatch) (frame : Client.InputFrame) :
    (n.fixedTick frame).client.model.world = n.client.model.world ∧
      (n.fixedTick frame).client.model.matchEnd = n.client.model.matchEnd := by
  unfold NetworkMatch.fixedTick Client.MatchController.fixedTick
  split_ifs
  · obtain ⟨-, hworld, -, hend⟩ := advanceTick_prediction n.client frame
    exact ⟨hworld, hend⟩
  · exact ⟨rfl, rfl⟩

theorem next_shown {action : Action} (hnext : n.next action = some n') :
    (n'.client.model.world = n.client.model.world ∧
      n'.client.model.matchEnd = n.client.model.matchEnd) ∨
    ∃ start snapshot matchEnd connected, action = .pollNetwork start snapshot matchEnd connected ∧
      n' = n.pollNetwork start snapshot matchEnd connected := by
  cases action with
  | fixedTick frame =>
      cases hnext
      exact .inl (fixedTick_shown n frame)
  | pollNetwork start snapshot matchEnd connected =>
      cases hnext
      exact .inr ⟨start, snapshot, matchEnd, connected, rfl, rfl⟩
  | deliver datagram =>
      obtain ⟨input, -, hact⟩ := Option.bind_eq_some_iff.1 hnext
      obtain ⟨server, -, rfl⟩ := Option.map_eq_some_iff.1 hact
      exact .inl ⟨rfl, rfl⟩
  | server action =>
      rw [NetworkMatch.next] at hnext
      split_ifs at hnext
      obtain ⟨server, -, rfl⟩ := Option.map_eq_some_iff.1 hnext
      exact .inl ⟨rfl, rfl⟩

theorem next_forward {action : Action} (hforward : n.MovesForward action)
    (hnext : n.next action = some n') :
    n.client.model.world.serverTick ≤ n'.client.model.world.serverTick := by
  rcases next_shown hnext with ⟨hworld, -⟩ | ⟨start, snapshot, matchEnd, connected, rfl, rfl⟩
  · rw [hworld]
    exact UInt32.le_refl _
  · change Forward n.client.model (n.polledStart start) (n.polledSnapshot snapshot)
      (n.polledEnd matchEnd) at hforward
    change _ ≤ (n.client.model.poll (n.polledStart start) (n.polledSnapshot snapshot)
      (n.polledEnd matchEnd)).world.serverTick
    obtain ⟨hend, hbefore, hafter⟩ := hforward
    cases hpolled : n.polledEnd matchEnd with
    | some e =>
        rw [hpolled] at hend
        obtain ⟨hworld, hpolled⟩ := hend e (List.mem_singleton_self e)
        rw [(poll_forward_end hworld hpolled).1.serverTick]
        exact hworld
    | none =>
        by_cases hended : n.client.model.matchEnd = none
        · exact poll_forward_before (hbefore hpolled hended)
        · rw [(poll_forward_after (hafter hpolled hended)).1]
          exact UInt32.le_refl _

theorem pollNetwork_ended {start : Bool} {snapshot matchEnd : Option Nat} {connected : Bool}
    (hforward : n.MovesForward (.pollNetwork start snapshot matchEnd connected))
    (hpolled : n.polledEnd matchEnd = some e) :
    Ended e (n.pollNetwork start snapshot matchEnd connected) := by
  change Forward n.client.model (n.polledStart start) (n.polledSnapshot snapshot)
    (n.polledEnd matchEnd) at hforward
  rw [hpolled] at hforward
  obtain ⟨hworld, hother⟩ := hforward.1 e (List.mem_singleton_self e)
  obtain ⟨hshows, htold⟩ := poll_forward_end hworld hother
  rw [← hpolled] at hshows htold
  exact ⟨htold.trans hpolled, hshows⟩

/-- The end stays what the client shows. -/
theorem Ended.next (h : Ended e n) {action : Action} (hreliable : n.Reliable action)
    (hforward : n.MovesForward action) (hnext : n.next action = some n') : Ended e n' := by
  rcases next_shown hnext with ⟨hworld, hend⟩ | ⟨start, snapshot, matchEnd, connected, rfl, rfl⟩
  · refine ⟨hend.trans h.told, ?_⟩
    rw [Shows, hworld]
    exact h.shows
  · have htold := h.told
    have hnone : n.polledEnd matchEnd = none := by
      rw [← Option.not_isSome_iff_eq_none]
      intro hsome
      rw [hreliable.2 hsome] at htold
      cases htold
    have hafter := hforward.2.2 hnone (by rw [htold]; exact Option.some_ne_none e)
    obtain ⟨hworld, hend⟩ := poll_forward_after hafter
    rw [← hnone] at hworld hend
    refine ⟨hend.trans htold, ?_⟩
    unfold Shows
    change (n.client.model.poll (n.polledStart start) (n.polledSnapshot snapshot)
      (n.polledEnd matchEnd)).world = { e.finalSnapshot with
        arenaID := (n.client.model.poll (n.polledStart start) (n.polledSnapshot snapshot)
          (n.polledEnd matchEnd)).world.arenaID }
    rw [hworld]
    exact h.shows

end

/-- In every run whose polls all move forward the world never goes back, and from the poll that brings
the end on it is the final snapshot: finished, with the winner of the end. -/
theorem world_forward {matchID playerA playerB : String} {reporter : Bool} {server : Process}
    (hstart : MatchServer.startMatch matchID playerA playerB reporter = .ok server) {player : Side}
    {earlier later : List Action} {start connected : Bool} {snapshot matchEnd : Option Nat}
    {n n' n'' : NetworkMatch}
    (hearlier : Transition.run NetworkMatch.next (connect server player) earlier = some n)
    (hnext : n.next (.pollNetwork start snapshot matchEnd connected) = some n')
    (hlater : Transition.run NetworkMatch.next n' later = some n'')
    (hmeets : Transition.Meets NetworkMatch.next (fun n action => n.Reliable action ∧
        n.MovesForward action) (connect server player)
      (earlier ++ .pollNetwork start snapshot matchEnd connected :: later)) :
    n.client.model.world.serverTick ≤ n'.client.model.world.serverTick ∧
    ∀ e, n.polledEnd matchEnd = some e →
      n''.client.model.world =
        { e.finalSnapshot with arenaID := n''.client.model.world.arenaID } ∧
      n''.client.model.world.status = .finished ∧
      n''.client.model.world.winnerPlayerID = e.winnerPlayerID := by
  have hsafe : n.server.Safe := (Transition.run_invariant (fun _ _ _ h hnext => Hosted.next h hnext)
    hearlier (connect_hosted hstart player)).safe
  have hmeets' := (Transition.meets_append hearlier hmeets).2
  obtain ⟨⟨-, hforward⟩, hmeets''⟩ := Transition.meets_cons hmeets' hnext
  refine ⟨next_forward hforward hnext, fun e hpolled => ?_⟩
  have hended : Ended e n'' := by
    refine Transition.meets_invariant (fun _ _ _ h hcondition hnext =>
      h.next hcondition.1 hcondition.2 hnext) hlater hmeets'' ?_
    cases hnext
    exact pollNetwork_ended hforward hpolled
  obtain ⟨hstatus, hwinner⟩ : Sound e := by
    obtain ⟨i, -, hget⟩ := Option.bind_eq_some_iff.1 hpolled
    exact hsafe.sound.sent n.player e (List.mem_append_left _ (List.mem_of_getElem? hget))
  have hshows := hended.shows
  refine ⟨hshows, ?_, ?_⟩
  · rw [hshows]
    exact hstatus
  · rw [hshows]
    exact hwinner

/-- Bob leaves after one tick of the room. Alice is told of the start and of that tick. -/
def departed : List Action :=
  serve (MatchServer.disconnectActions ++ [.receiveSnapshot .a]) ++
    [.pollNetwork true (some 0) none true]

theorem world_forward_departed : ∃ server n n' e,
    MatchServer.startMatch "match-1" "alice" "bob" true = .ok server ∧
    Transition.run NetworkMatch.next (connect server .a) departed = some n ∧
    n.next (.pollNetwork false none (some 0) true) = some n' ∧ n.polledEnd (some 0) = some e ∧
    n.client.model.world.serverTick ≤ n'.client.model.world.serverTick ∧
    n'.client.model.world = { e.finalSnapshot with arenaID := n'.client.model.world.arenaID } ∧
    n'.client.model.world.status = .finished ∧
    n'.client.model.world.winnerPlayerID = e.winnerPlayerID := by
  have hstart := MatchServer.startMatch_of_players "match-1" (show "alice" ≠ "" by decide)
    (show "bob" ≠ "" by decide) (by decide) true
  generalize hserver : MatchServer.initialProcess _ _ _ _ _ = server at hstart
  have hrun : (Transition.run NetworkMatch.next (connect server .a) departed).map (fun n =>
      (n.polledEnd (some 0)).isSome) = some true := by
    rw [← hserver]
    decide +kernel
  have hmeets : Transition.Meets NetworkMatch.next (fun n action => n.Reliable action ∧
      n.MovesForward action) (connect server .a) (departed ++ [.pollNetwork false none (some 0) true]) := by
    rw [← hserver]
    decide +kernel
  obtain ⟨n, hrun, hpolled⟩ := Option.map_eq_some_iff.1 hrun
  obtain ⟨e, hpolled⟩ := Option.isSome_iff_exists.1 hpolled
  obtain ⟨hforward, hend⟩ := world_forward hstart hrun rfl rfl hmeets
  exact ⟨server, n, _, e, hstart, hrun, rfl, hpolled, hforward, hend e hpolled⟩

/-- The same datagram, polled once more after the end, takes the world back to the countdown. -/
theorem departed_not_final : ¬ ∀ matchID playerA playerB reporter server player earlier start snapshot
    matchEnd connected later n n' n'',
    MatchServer.startMatch matchID playerA playerB reporter = .ok server →
    Transition.run NetworkMatch.next (connect server player) earlier = some n →
    n.next (.pollNetwork start snapshot matchEnd connected) = some n' →
    Transition.run NetworkMatch.next n' later = some n'' →
    Transition.Meets NetworkMatch.next NetworkMatch.Reliable (connect server player)
      (earlier ++ .pollNetwork start snapshot matchEnd connected :: later) →
    n.client.model.world.serverTick ≤ n'.client.model.world.serverTick ∧
    ∀ e, n.polledEnd matchEnd = some e →
      n''.client.model.world =
        { e.finalSnapshot with arenaID := n''.client.model.world.arenaID } ∧
      n''.client.model.world.status = .finished ∧
      n''.client.model.world.winnerPlayerID = e.winnerPlayerID := by
  intro hclaim
  have hstart := MatchServer.startMatch_of_players "match-1" (show "alice" ≠ "" by decide)
    (show "bob" ≠ "" by decide) (by decide) true
  generalize hserver : MatchServer.initialProcess _ _ _ _ _ = server at hstart
  have hrun : (Transition.run NetworkMatch.next (connect server .a) departed).map (fun n =>
      decide ((n.polledEnd (some 0)).isSome = true ∧
        ((n.pollNetwork false none (some 0) true).pollNetwork false (some 0) none
          true).client.model.world.status ≠ .finished)) = some true := by
    rw [← hserver]
    decide +kernel
  have hmeets : Transition.Meets NetworkMatch.next NetworkMatch.Reliable (connect server .a)
      (departed ++ [.pollNetwork false none (some 0) true, .pollNetwork false (some 0) none true]) := by
    rw [← hserver]
    decide +kernel
  obtain ⟨n, hrun, hstate⟩ := Option.map_eq_some_iff.1 hrun
  obtain ⟨hpolled, hunfinished⟩ := of_decide_eq_true hstate
  obtain ⟨e, hpolled⟩ := Option.isSome_iff_exists.1 hpolled
  obtain ⟨-, hend⟩ := hclaim _ _ _ _ _ _ _ _ _ _ _ _ _ _ _ hstart hrun rfl rfl hmeets
  exact hunfinished (hend e hpolled).2.1

end PvpDuel.Delivery
