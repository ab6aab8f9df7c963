import PvpDuel.MatchServer.Pairing

/-!
# Pairings that fail

A pairing marks its match ID as used before the waiting player has its session. Where the waiting
player is canceled in between, the pairing call takes the branch `<-waiting.canceled`: it returns an
error and the mark stays, so both tickets are refused until they expire. Every other way to fail
leaves no mark.
-/

namespace PvpDuel.MatchServer

def Phase.RunsFor (matchID : String) : Phase → Prop
  | .verified claims | .waiting claims | .leaving claims | .pairing _ claims
  | .offering _ claims _ => claims.matchID = matchID
  | .failing partner _ => partner.claims.matchID = matchID
  | .returned _ => False

instance (matchID : String) (phase : Phase) : Decidable (phase.RunsFor matchID) := by
  unfold Phase.RunsFor
  split <;> infer_instance

/-- No call for the match ID is running, and no session of it was returned. -/
structure Manager.Unmatched (s : Manager) (matchID : String) : Prop where
  idle : ∀ phase ∈ s.calls, ¬ phase.RunsFor matchID
  unmet : ∀ (call : Nat) session game, s.calls[call]? = some (.returned (.ok session)) →
    s.started[session.game]? = some game → game.matchID ≠ matchID

/-- No call that paired takes the branch of a canceled waiting player. -/
def Action.HandsOver : Action → Prop
  | .giveUp _ => False
  | _ => True

instance (action : Action) : Decidable action.HandsOver := by
  unfold Action.HandsOver
  split <;> infer_instance

/-- The call paired for this match ID and has not returned. -/
def Phase.Marks (matchID : String) : Phase → Prop
  | .pairing _ claims | .offering _ claims _ => claims.matchID = matchID
  | _ => False

theorem Phase.Marks.runsFor {matchID : String} {phase : Phase} (h : phase.Marks matchID) :
    phase.RunsFor matchID := by
  cases phase <;> simp_all [Marks, RunsFor]

/-- A mark stands for a call that is handing a session over or for a session that was returned. -/
def Manager.Accounted (s : Manager) : Prop :=
  ∀ matchID, s.used matchID ≠ none →
    (∃ (call : Nat) (phase : Phase), s.calls[call]? = some phase ∧ phase.Marks matchID) ∨
    ∃ (call : Nat) (session : Session) (game : StartedMatch),
      s.calls[call]? = some (.returned (.ok session)) ∧ s.started[session.game]? = some game ∧
        game.matchID = matchID

variable {parse : Nat → String → Option Claims} {begun : List Attempt} {s t : Manager}

theorem Unmatched.waiting {matchID : String} (hunmatched : s.Unmatched matchID)
    (h : Paired parse begun s) : s.waiting matchID = none := by
  rw [Option.eq_none_iff_forall_ne_some]
  intro w hw
  obtain ⟨hid, phase, hphase, rfl | rfl⟩ := h.listed matchID w hw <;>
    exact hunmatched.idle _ (List.mem_of_getElem? hphase) hid

theorem Paired.accounted (h : Paired parse begun s) (haccounted : s.Accounted) {action : Action}
    (hover : action.HandsOver) (hnext : MatchServer.next parse s action = some t) : t.Accounted := by
  intro matchID hmark
  rcases next_mark hnext hmark with hmark | ⟨call, w, c, -, hid, -, hpairing⟩
  swap
  · exact .inl ⟨call, _, hpairing, hid⟩
  obtain ⟨call, phase, hcall, hmarks⟩ | ⟨call, session, game, hcall, hgame, hid⟩ :=
    haccounted matchID hmark
  swap
  · exact .inr ⟨call, session, game, next_returned hnext hcall, next_started hnext hgame, hid⟩
  rcases next_moves hnext hcall with hsame | ⟨new, hnew, hmoves⟩
  · exact .inl ⟨call, phase, hsame, hmarks⟩
  cases hmoves with
  | start =>
      rw [h.afterNewMatch hcall] at hnew
      exact .inl ⟨call, _, hnew, hmarks⟩
  | offer =>
      have hgame := (h.offered call _ _ _ hcall).1
      exact .inr ⟨call, _, _, hnew, next_started hnext hgame, hmarks⟩
  | giveUp => exact absurd hover id
  | giveUpError => exact absurd hover id
  | _ => exact absurd hmarks id

theorem begin_of_claims {request : AuthenticateRequest} {c : Claims}
    (h : Attempt.claims parse ⟨s.clock, request⟩ = some c) :
    s.begin parse request = { s with calls := s.calls ++ [.verified c] } := by
  rw [begin_eq, Attempt.phase, h]

theorem lock_of_verified {call : Nat} {c : Claims} (h : s.calls[call]? = some (.verified c)) :
    next parse s (.lock call) = some (s.purgeUsed.enter call c) := by
  simp [next, h]

/-- Two players who face each other and find no mark and nobody waiting get their sessions. -/
theorem run_of_unmatched {c c' : Claims} {first second : AuthenticateRequest} (h : Paired parse begun s)
    (hmark : s.used c.matchID = none) (hwaiting : s.waiting c.matchID = none)
    (hfirst : Attempt.claims parse ⟨s.clock, first⟩ = some c)
    (hsecond : Attempt.claims parse ⟨s.clock, second⟩ = some c') (hfaces : Faces c c') :
    ∃ t game, Transition.run (next parse) s [.verify first, .verify second, .lock s.calls.length,
        .lock (s.calls.length + 1), .newMatch (s.calls.length + 1),
        .offer (s.calls.length + 1)] = some t ∧
      t.calls[s.calls.length]? = some (.returned (.ok ⟨game, c.playerID⟩)) ∧
      t.calls[s.calls.length + 1]? = some (.returned (.ok ⟨game, c'.playerID⟩)) := by
  generalize hn : s.calls.length = n
  have h₁ : next parse s (.verify first) = some { s with calls := s.calls ++ [.verified c] } := by
    rw [← begin_of_claims hfirst]
    rfl
  have h₂ : next parse { s with calls := s.calls ++ [.verified c] } (.verify second) =
      some { s with calls := s.calls ++ [.verified c, .verified c'] } := by
    rw [show s.calls ++ [Phase.verified c, .verified c'] =
      s.calls ++ [.verified c] ++ [.verified c'] by simp]
    exact congrArg some (begin_of_claims (s := { s with calls := _ }) hsecond)
  have hpaired := (h.next h₁).next h₂
  generalize hu : ({ s with calls := s.calls ++ [.verified c, .verified c'] } : Manager) = u
    at h₂ hpaired
  have hcalls : u.calls[n]? = some (.verified c) ∧ u.calls[n + 1]? = some (.verified c') := by
    subst hu hn
    simp
  have hfree : u.purgeUsed.used c.matchID = none ∧ u.purgeUsed.waiting c.matchID = none := by
    subst hu
    simp [Manager.purgeUsed, hmark, hwaiting]
  have h₃ : next parse u (.lock n) = some (u.purgeUsed.enter n c) := lock_of_verified hcalls.1
  rw [enter_of_free hfree.1 hfree.2] at h₃
  generalize hv : ({ u.purgeUsed.setCall n (.waiting c) with
    waiting := Function.update u.purgeUsed.waiting c.matchID (some ⟨c, n⟩) } : Manager) = v at h₃
  replace hpaired := hpaired.next h₃
  have hwaits : v.calls[n]? = some (.waiting c) ∧ v.calls[n + 1]? = some (.verified c') := by
    subst hv
    exact ⟨(getElem?_set_iff hcalls.1).2 (.inl ⟨rfl, rfl⟩),
      (getElem?_set_iff hcalls.1).2 (.inr ⟨by omega, hcalls.2⟩)⟩
  have hlisted : v.purgeUsed.used c'.matchID = none ∧
      v.purgeUsed.waiting c'.matchID = some ⟨c, n⟩ := by
    rw [← hfaces.matchID]
    subst hv
    simp [Manager.purgeUsed, Manager.setCall] at hfree ⊢
    simp [hfree]
  have h₄ : next parse v (.lock (n + 1)) = some (v.purgeUsed.enter (n + 1) c') :=
    lock_of_verified hwaits.2
  rw [enter_of_faces hlisted.1 hlisted.2 hfaces] at h₄
  generalize hx : ({ v.purgeUsed.setCall (n + 1) (.pairing ⟨c, n⟩ c') with
    waiting := Function.update v.purgeUsed.waiting c'.matchID none
    used := Function.update v.purgeUsed.used c'.matchID (some c'.expiresAt) } : Manager) = x at h₄
  replace hpaired := hpaired.next h₄
  have hpairs : x.calls[n]? = some (.waiting c) ∧
      x.calls[n + 1]? = some (.pairing ⟨c, n⟩ c') := by
    subst hx
    exact ⟨(getElem?_set_iff hwaits.2).2 (.inr ⟨by omega, hwaits.1⟩),
      (getElem?_set_iff hwaits.2).2 (.inl ⟨rfl, rfl⟩)⟩
  have h₅ : next parse x (.newMatch (n + 1)) = some (x.start (n + 1) ⟨c, n⟩ c') := by
    simp [next, hpairs]
  have hoffers : (x.start (n + 1) ⟨c, n⟩ c').calls[n]? = some (.waiting c) ∧
      (x.start (n + 1) ⟨c, n⟩ c').calls[n + 1]? =
        some (.offering ⟨c, n⟩ c' x.started.length) := by
    rw [Manager.start, hpaired.afterNewMatch hpairs.2]
    exact ⟨(getElem?_set_iff hpairs.2).2 (.inr ⟨by omega, hpairs.1⟩),
      (getElem?_set_iff hpairs.2).2 (.inl ⟨rfl, rfl⟩)⟩
  replace hpaired := hpaired.next h₅
  generalize x.start (n + 1) ⟨c, n⟩ c' = y at h₅ hoffers hpaired
  have h₆ : next parse y (.offer (n + 1)) = some (y.rendezvous (n + 1) ⟨c, n⟩
      (.ok ⟨x.started.length, c.playerID⟩) (.ok ⟨x.started.length, c'.playerID⟩)) := by
    simp [next, hoffers, Manager.isWaiting]
  have hmet := (hpaired.meet hoffers.2 hoffers.1).2
  refine ⟨_, _, ?_, hmet.returned, hmet.returned'⟩
  simp [Transition.run, h₁, h₂, h₃, h₄, h₅, h₆]

/-- In every run in which no call that paired takes the branch of a canceled waiting player, a match
ID that no call is running for and no session was returned of is not marked as used; two players who
face each other with valid tickets for it still get their sessions. -/
theorem mark_taken_back {clock : Nat} {actions : List Action}
    (hrun : Transition.run (next parse) (newMatchManager clock) actions = some s)
    (hover : Transition.Meets (next parse) (fun _ action => action.HandsOver)
      (newMatchManager clock) actions) {matchID : String} (hunmatched : s.Unmatched matchID) :
    s.used matchID = none ∧ ∀ first second c c',
      Attempt.claims parse ⟨s.clock, first⟩ = some c →
      Attempt.claims parse ⟨s.clock, second⟩ = some c' → c.matchID = matchID → Faces c c' →
      ∃ t game, Transition.run (next parse) s [.verify first, .verify second,
          .lock s.calls.length, .lock (s.calls.length + 1), .newMatch (s.calls.length + 1),
          .offer (s.calls.length + 1)] = some t ∧
        t.calls[s.calls.length]? = some (.returned (.ok ⟨game, c.playerID⟩)) ∧
        t.calls[s.calls.length + 1]? = some (.returned (.ok ⟨game, c'.playerID⟩)) := by
  have h := Paired.run hrun
  have haccounted : s.Accounted := by
    have hfinal := Transition.meets_invariant (P := fun s => (∃ begun, Paired parse begun s) ∧
      s.Accounted) ?_ hrun hover ⟨⟨[], newMatchManager_paired parse clock⟩, ?_⟩
    · exact hfinal.2
    · rintro s action t ⟨⟨begun, h⟩, haccounted⟩ hover hnext
      exact ⟨⟨_, h.next hnext⟩, h.accounted haccounted hover hnext⟩
    · intro matchID hmark
      exact absurd rfl hmark
  have hmark : s.used matchID = none := by
    by_contra hmark
    obtain ⟨call, phase, hcall, hmarks⟩ | ⟨call, session, game, hcall, hgame, hid⟩ :=
      haccounted matchID hmark
    · exact hunmatched.idle phase (List.mem_of_getElem? hcall) hmarks.runsFor
    · exact hunmatched.unmet call session game hcall hgame hid
  have hwaiting : s.waiting matchID = none := Unmatched.waiting hunmatched h
  refine ⟨hmark, ?_⟩
  rintro first second c c' hfirst hsecond rfl hfaces
  exact run_of_unmatched h hmark hwaiting hfirst hsecond hfaces

/-- A player who came alone is canceled, and both players get their sessions later. -/
theorem mark_taken_back_retry : ∃ s, Transition.run (next duelTickets) (newMatchManager 0)
      ([.verify ⟨"alice", "ticket-a"⟩, .lock 0, .cancel 0, .removeWaiting 0] : List Action) =
        some s ∧
    ∃ t game, Transition.run (next duelTickets) s [.verify ⟨"bob", "ticket-b"⟩,
        .verify ⟨"alice", "ticket-a"⟩, .lock 1, .lock 2, .newMatch 2, .offer 2] = some t ∧
      t.calls[1]? = some (.returned (.ok ⟨game, "bob"⟩)) ∧
      t.calls[2]? = some (.returned (.ok ⟨game, "alice"⟩)) := by
  have hsome : (Transition.run (next duelTickets) (newMatchManager 0)
      ([.verify ⟨"alice", "ticket-a"⟩, .lock 0, .cancel 0, .removeWaiting 0] :
        List Action)).map (fun s => (s.calls, s.clock)) =
          some ([.returned (.error .contextDone)], 0) := by
    decide +kernel
  obtain ⟨s, hrun, hfields⟩ := Option.map_eq_some_iff.1 hsome
  obtain ⟨hcalls, hclock⟩ := Prod.mk.inj hfields
  refine ⟨s, hrun, ?_⟩
  have hunmatched : s.Unmatched "match-1" := by
    constructor
    · simp [hcalls, Phase.RunsFor]
    · intro call session game hcall
      rw [hcalls] at hcall
      have hmem := List.mem_of_getElem? hcall
      simp at hmem
  have hmeet := (mark_taken_back hrun (by decide +kernel) hunmatched).2
    ⟨"bob", "ticket-b"⟩ ⟨"alice", "ticket-a"⟩ ⟨"match-1", "alice", "bob", "2", 100⟩
    ⟨"match-1", "bob", "alice", "1", 100⟩ (by rw [hclock]; decide) (by rw [hclock]; decide) rfl
    ⟨rfl, by decide, rfl, rfl⟩
  rw [hcalls] at hmeet
  exact hmeet

/-- The waiting player is canceled after the pairing: nobody gets a session, and the mark stays. -/
theorem mark_stays : ¬ ∀ parse, Tickets parse → ∀ clock actions s,
    Transition.run (next parse) (newMatchManager clock) actions = some s →
      ∀ matchID, s.Unmatched matchID → s.used matchID = none := by
  intro hclaim
  have hcalls : (Transition.run (next duelTickets) (newMatchManager 0)
      ([.verify ⟨"alice", "ticket-a"⟩, .lock 0, .verify ⟨"bob", "ticket-b"⟩, .lock 1, .cancel 0,
        .newMatch 1, .giveUp 1, .removeWaiting 0] : List Action)).map
          (fun s => (s.calls, s.used "match-1")) =
        some ([.returned (.error .contextDone), .returned (.error .canceled)], some 100) := by
    decide +kernel
  obtain ⟨s, hrun, hfinal⟩ := Option.map_eq_some_iff.1 hcalls
  obtain ⟨hcalls, hmark⟩ := Prod.mk.inj hfinal
  have hnone := hclaim duelTickets duelTickets_tickets 0 _ s hrun "match-1" ⟨?_, ?_⟩
  · rw [hmark] at hnone
    cases hnone
  · simp [hcalls, Phase.RunsFor]
  · intro call session game hcall
    rw [hcalls] at hcall
    have hmem := List.mem_of_getElem? hcall
    simp at hmem

end PvpDuel.MatchServer
