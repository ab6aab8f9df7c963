import PvpDuel.MatchServer.Authenticate

/-!
# Calls of `Authenticate`

The calls of a run by their numbers: with what each begins, and what one step can do to the phase of
one call. A call moves by its own steps, except that a call at its `select` is woken by the call that
offers to it.
-/

namespace PvpDuel.MatchServer

open Simulation (RoomError)

/-! ### Calls as they begin -/

/-- A call of `Authenticate`: its request, and the clock when it verifies the ticket. -/
structure Attempt where
  clock : Nat
  request : AuthenticateRequest
deriving DecidableEq, Repr

/-- The claims a call goes on with: those of a valid ticket of the player who presents it. -/
def Attempt.claims (parse : Nat → String → Option Claims) (a : Attempt) : Option Claims :=
  match verify parse a.clock a.request.matchToken with
  | .error _ => none
  | .ok claims =>
      if trimSpace a.request.playerID = "" ∨ trimSpace a.request.playerID ≠ claims.playerID then none
      else some claims

/-- The calls of a run from `clock`, in the order of their numbers. -/
def attempts : Nat → List Action → List Attempt
  | _, [] => []
  | clock, .elapse duration :: actions => attempts (clock + duration) actions
  | clock, .verify request :: actions => ⟨clock, request⟩ :: attempts clock actions
  | clock, _ :: actions => attempts clock actions

def elapsed : List Action → Nat
  | [] => 0
  | .elapse duration :: actions => duration + elapsed actions
  | _ :: actions => elapsed actions

theorem attempts_append (clock : Nat) (earlier later : List Action) :
    attempts clock (earlier ++ later) =
      attempts clock earlier ++ attempts (clock + elapsed earlier) later := by
  induction earlier generalizing clock with
  | nil => rfl
  | cons action earlier ih =>
      cases action <;> simp [attempts, elapsed, ih, Nat.add_assoc]

def Attempt.phase (parse : Nat → String → Option Claims) (a : Attempt) : Phase :=
  match a.claims parse with
  | some claims => .verified claims
  | none => .returned (.error .authentication)

theorem begin_eq (parse : Nat → String → Option Claims) (s : Manager)
    (request : AuthenticateRequest) : s.begin parse request =
      { s with calls := s.calls ++ [Attempt.phase parse ⟨s.clock, request⟩] } := by
  unfold Manager.begin Attempt.phase Attempt.claims
  dsimp only
  cases verify parse s.clock request.matchToken with
  | error err => rfl
  | ok claims =>
      dsimp only
      split_ifs <;> rfl

theorem Attempt.claims_ok {parse : Nat → String → Option Claims} {a : Attempt} {c : Claims}
    (h : a.claims parse = some c) : verify parse a.clock a.request.matchToken = .ok c ∧
      c.playerID = trimSpace a.request.playerID ∧ c.playerID ≠ "" := by
  unfold claims at h
  cases hverify : verify parse a.clock a.request.matchToken with
  | error err => simp [hverify] at h
  | ok found =>
      rw [hverify] at h
      dsimp only at h
      split_ifs at h with hplayer
      push Not at hplayer
      obtain rfl := Option.some.inj h
      exact ⟨rfl, hplayer.2.symm, hplayer.2 ▸ hplayer.1⟩

/-- The call with this number goes on with these claims. -/
def Presents (parse : Nat → String → Option Claims) (begun : List Attempt) (call : Nat)
    (c : Claims) : Prop :=
  ∃ a, begun[call]? = some a ∧ a.claims parse = some c

/-- Two tickets of one match whose players name each other as opponents. -/
structure Faces (c c' : Claims) : Prop where
  matchID : c.matchID = c'.matchID
  players : c.playerID ≠ c'.playerID
  opponent : c.opponentID = c'.playerID
  opponent' : c'.opponentID = c.playerID

theorem Faces.symm {c c' : Claims} (h : Faces c c') : Faces c' c :=
  ⟨h.matchID.symm, h.players.symm, h.opponent', h.opponent⟩

/-! ### What a step does to one call -/

theorem getElem?_set_iff {calls : List Phase} {i j : Nat} {old new phase : Phase}
    (hcall : calls[i]? = some old) : (calls.set i new)[j]? = some phase ↔
      (j = i ∧ phase = new) ∨ (j ≠ i ∧ calls[j]? = some phase) := by
  have hlt : i < calls.length := (List.getElem?_eq_some_iff.1 hcall).1
  by_cases hij : j = i
  · subst hij
    simp [hlt, eq_comm]
  · rw [List.getElem?_set_ne (Ne.symm hij)]
    simp [hij]

theorem getElem?_append_of {α : Type} {earlier later : List α} {i : Nat} {x : α}
    (h : earlier[i]? = some x) : (earlier ++ later)[i]? = some x := by
  rw [List.getElem?_append_left (List.getElem?_eq_some_iff.1 h).1]
  exact h

theorem getElem?_rendezvous {s : Manager} {call i : Nat} {before waiting phase : Phase}
    {w : WaitingPlayer} {theirs mine : Except AuthError Session} (hne : w.call ≠ call)
    (hcall : s.calls[call]? = some before) (hw : s.calls[w.call]? = some waiting) :
    (s.rendezvous call w theirs mine).calls[i]? = some phase ↔
      (i = call ∧ phase = .returned mine) ∨ (i = w.call ∧ phase = .returned theirs) ∨
      (i ≠ call ∧ i ≠ w.call ∧ s.calls[i]? = some phase) := by
  have hcall' : (s.calls.set w.call (.returned theirs))[call]? = some before :=
    (getElem?_set_iff hw).2 (.inr ⟨hne.symm, hcall⟩)
  show ((s.calls.set w.call _).set call _)[i]? = some phase ↔ _
  rw [getElem?_set_iff hcall', getElem?_set_iff hw]
  by_cases hi : i = call
  · simp [hi, hne.symm]
  · simp [hi]

/-- The call that an action is a step of. -/
def Manager.actor (s : Manager) : Action → Option Nat
  | .elapse _ => none
  | .verify _ => some s.calls.length
  | .lock call | .newMatch call | .offer call | .cancel call | .removeWaiting call
  | .giveUp call => some call

/-- The call that has begun and takes a step. -/
def Action.call : Action → Option Nat
  | .elapse _ | .verify _ => none
  | .lock call | .newMatch call | .offer call | .cancel call | .removeWaiting call
  | .giveUp call => some call

inductive Moves (s : Manager) (call : Nat) : Action → Phase → Phase → Prop
  | refuse {c : Claims} {err : AuthError} : err.Refuses →
      Moves s call (.lock call) (.verified c) (.returned (.error err))
  | wait {c : Claims} : s.purgeUsed.used c.matchID = none → s.waiting c.matchID = none →
      Moves s call (.lock call) (.verified c) (.waiting c)
  | pair {c : Claims} {w : WaitingPlayer} : s.purgeUsed.used c.matchID = none →
      s.waiting c.matchID = some w → Moves s call (.lock call) (.verified c) (.pairing w c)
  | start {w : WaitingPlayer} {c : Claims} : Moves s call (.newMatch call) (.pairing w c)
      (.afterNewMatch w c s.started.length (newMatch c.matchID w.claims.playerID c.playerID))
  | offer {w : WaitingPlayer} {c : Claims} {game : Nat} : s.isWaiting w = true →
      Moves s call (.offer call) (.offering w c game) (.returned (.ok ⟨game, c.playerID⟩))
  | report {w : WaitingPlayer} {err : RoomError} : s.isWaiting w = true →
      Moves s call (.offer call) (.failing w err) (.returned (.error (.room err)))
  | receive {pairer : Nat} {c c' : Claims} {game : Nat} :
      s.calls[pairer]? = some (.offering ⟨c, call⟩ c' game) →
      Moves s call (.offer pairer) (.waiting c) (.returned (.ok ⟨game, c.playerID⟩))
  | receiveError {pairer : Nat} {c : Claims} {err : RoomError} :
      s.calls[pairer]? = some (.failing ⟨c, call⟩ err) →
      Moves s call (.offer pairer) (.waiting c) (.returned (.error (.room err)))
  | cancel {c : Claims} : Moves s call (.cancel call) (.waiting c) (.leaving c)
  | remove {c : Claims} :
      Moves s call (.removeWaiting call) (.leaving c) (.returned (.error .contextDone))
  | giveUp {w : WaitingPlayer} {c : Claims} {game : Nat} : w.call ∈ s.canceled →
      Moves s call (.giveUp call) (.offering w c game) (.returned (.error .canceled))
  | giveUpError {w : WaitingPlayer} {err : RoomError} : w.call ∈ s.canceled →
      Moves s call (.giveUp call) (.failing w err) (.returned (.error (.room err)))

/-- The steps a call takes, by the phase it is in. -/
inductive Takes (call : Nat) : Action → Phase → Prop
  | lock {c : Claims} : Takes call (.lock call) (.verified c)
  | newMatch {w : WaitingPlayer} {c : Claims} : Takes call (.newMatch call) (.pairing w c)
  | offer {w : WaitingPlayer} {c : Claims} {game : Nat} :
      Takes call (.offer call) (.offering w c game)
  | offerError {w : WaitingPlayer} {err : RoomError} : Takes call (.offer call) (.failing w err)
  | cancel {c : Claims} : Takes call (.cancel call) (.waiting c)
  | removeWaiting {c : Claims} : Takes call (.removeWaiting call) (.leaving c)
  | giveUp {w : WaitingPlayer} {c : Claims} {game : Nat} :
      Takes call (.giveUp call) (.offering w c game)
  | giveUpError {w : WaitingPlayer} {err : RoomError} : Takes call (.giveUp call) (.failing w err)

section

variable {parse : Nat → String → Option Claims} {s t : Manager} {call : Nat} {old : Phase}

/-- A step of another call, or of none, that sets the phase of this one. -/
theorem moves_of_set {i : Nat} {before new : Phase} {action : Action}
    (hi : s.calls[i]? = some before) (hcalls : t.calls = s.calls.set i new)
    (hcall : s.calls[call]? = some old) (hmoves : Moves s i action before new) :
    t.calls[call]? = some old ∨ ∃ new, t.calls[call]? = some new ∧ Moves s call action old new := by
  rw [hcalls]
  by_cases heq : call = i
  · subst heq
    obtain rfl := Option.some.inj (hi.symm.trans hcall)
    exact .inr ⟨new, (getElem?_set_iff hi).2 (.inl ⟨rfl, rfl⟩), hmoves⟩
  · exact .inl ((getElem?_set_iff hi).2 (.inr ⟨heq, hcall⟩))

theorem moves_of_rendezvous {pairer : Nat} {before : Phase} {w : WaitingPlayer}
    {theirs mine : Except AuthError Session} (hpairer : s.calls[pairer]? = some before)
    (hw : s.calls[w.call]? = some (.waiting w.claims)) (hne : w.call ≠ pairer)
    (hcall : s.calls[call]? = some old)
    (hmine : Moves s pairer (.offer pairer) before (.returned mine))
    (htheirs : Moves s w.call (.offer pairer) (.waiting w.claims) (.returned theirs)) :
    (s.rendezvous pairer w theirs mine).calls[call]? = some old ∨
      ∃ new, (s.rendezvous pairer w theirs mine).calls[call]? = some new ∧
        Moves s call (.offer pairer) old new := by
  by_cases hpair : call = pairer
  · subst hpair
    obtain rfl := Option.some.inj (hpairer.symm.trans hcall)
    exact .inr ⟨_, (getElem?_rendezvous hne hpairer hw).2 (.inl ⟨rfl, rfl⟩), hmine⟩
  by_cases hwait : call = w.call
  · subst hwait
    obtain rfl := Option.some.inj (hw.symm.trans hcall)
    exact .inr ⟨_, (getElem?_rendezvous hne hpairer hw).2 (.inr (.inl ⟨rfl, rfl⟩)), htheirs⟩
  · exact .inl ((getElem?_rendezvous hne hpairer hw).2 (.inr (.inr ⟨hpair, hwait, hcall⟩)))

theorem own_takes {action : Action} (hnext : next parse s action = some t)
    (hown : action.call = some call) :
    ∃ phase, s.calls[call]? = some phase ∧ Takes call action phase := by
  cases action with
  | elapse duration => cases hown
  | verify request => cases hown
  | lock i =>
      obtain rfl := Option.some.inj hown
      obtain ⟨c, hi, -⟩ := next_lock hnext
      exact ⟨_, hi, .lock⟩
  | newMatch i =>
      obtain rfl := Option.some.inj hown
      obtain ⟨w, c, hi, -⟩ := next_newMatch hnext
      exact ⟨_, hi, .newMatch⟩
  | offer i =>
      obtain rfl := Option.some.inj hown
      obtain ⟨w, -, ⟨err, hi, -⟩ | ⟨c, game, hi, -⟩⟩ := next_offer hnext
      · exact ⟨_, hi, .offerError⟩
      · exact ⟨_, hi, .offer⟩
  | cancel i =>
      obtain rfl := Option.some.inj hown
      obtain ⟨c, hi, -⟩ := next_cancel hnext
      exact ⟨_, hi, .cancel⟩
  | removeWaiting i =>
      obtain rfl := Option.some.inj hown
      obtain ⟨c, hi, -⟩ := next_removeWaiting hnext
      exact ⟨_, hi, .removeWaiting⟩
  | giveUp i =>
      obtain rfl := Option.some.inj hown
      obtain ⟨w, -, ⟨err, hi, -⟩ | ⟨c, game, hi, -⟩⟩ := next_giveUp hnext
      · exact ⟨_, hi, .giveUpError⟩
      · exact ⟨_, hi, .giveUp⟩

theorem takes_of_phase {action : Action} (hnext : next parse s action = some t)
    (hcall : s.calls[call]? = some old) (hown : action.call = some call) :
    Takes call action old := by
  obtain ⟨phase, hphase, htakes⟩ := own_takes hnext hown
  obtain rfl := Option.some.inj (hcall.symm.trans hphase)
  exact htakes

theorem next_moves {action : Action} (hnext : next parse s action = some t)
    (hcall : s.calls[call]? = some old) : t.calls[call]? = some old ∨
      ∃ new, t.calls[call]? = some new ∧ Moves s call action old new := by
  cases action with
  | elapse duration =>
      obtain rfl := Option.some.inj hnext
      exact .inl hcall
  | verify request =>
      obtain rfl := Option.some.inj hnext
      rw [begin_eq]
      exact .inl (getElem?_append_of hcall)
  | lock i =>
      obtain ⟨claims, hi, rfl⟩ := next_lock hnext
      obtain ⟨err, herr, heq⟩ | ⟨hmark, hwaiting, heq⟩ | ⟨w, hmark, hwaiting, -, -, -, heq⟩ :=
        enter_cases s.purgeUsed i claims
      · exact moves_of_set hi (by rw [heq]; rfl) hcall (.refuse herr)
      · exact moves_of_set hi (by rw [heq]; rfl) hcall (.wait hmark hwaiting)
      · exact moves_of_set hi (by rw [heq]; rfl) hcall (.pair hmark hwaiting)
  | newMatch i =>
      obtain ⟨w, claims, hi, rfl⟩ := next_newMatch hnext
      exact moves_of_set hi rfl hcall .start
  | offer i =>
      obtain ⟨w, hwaiting, hcases⟩ := next_offer hnext
      have hw : s.calls[w.call]? = some (.waiting w.claims) := of_decide_eq_true hwaiting
      have hne : ∀ {phase : Phase}, s.calls[i]? = some phase → (∀ c, phase ≠ .waiting c) →
          w.call ≠ i := by
        rintro phase hi hphase rfl
        exact hphase _ (Option.some.inj (hi.symm.trans hw))
      obtain ⟨err, hi, rfl⟩ | ⟨claims, game, hi, rfl⟩ := hcases
      · exact moves_of_rendezvous hi hw (hne hi (by simp)) hcall (.report hwaiting)
          (.receiveError hi)
      · exact moves_of_rendezvous hi hw (hne hi (by simp)) hcall (.offer hwaiting) (.receive hi)
  | cancel i =>
      obtain ⟨claims, hi, rfl⟩ := next_cancel hnext
      exact moves_of_set hi rfl hcall .cancel
  | removeWaiting i =>
      obtain ⟨claims, hi, rfl⟩ := next_removeWaiting hnext
      exact moves_of_set hi rfl hcall .remove
  | giveUp i =>
      obtain ⟨w, hcanceled, ⟨err, hi, rfl⟩ | ⟨claims, game, hi, rfl⟩⟩ := next_giveUp hnext
      · exact moves_of_set hi rfl hcall (.giveUpError hcanceled)
      · exact moves_of_set hi rfl hcall (.giveUp hcanceled)

theorem enter_of_free {claims : Claims} (hmark : s.used claims.matchID = none)
    (hwaiting : s.waiting claims.matchID = none) : s.enter call claims =
      { s.setCall call (.waiting claims) with
        waiting := Function.update s.waiting claims.matchID (some { claims, call }) } := by
  simp [Manager.enter, hmark, hwaiting]

theorem enter_of_faces {claims : Claims} {w : WaitingPlayer}
    (hmark : s.used claims.matchID = none) (hwaiting : s.waiting claims.matchID = some w)
    (hfaces : Faces w.claims claims) : s.enter call claims =
      { s.setCall call (.pairing w claims) with
        waiting := Function.update s.waiting claims.matchID none
        used := Function.update s.used claims.matchID (some claims.expiresAt) } := by
  simp [Manager.enter, hmark, hwaiting, hfaces.players, hfaces.opponent, hfaces.opponent']

theorem enter_same (s : Manager) (call : Nat) (claims : Claims) :
    (s.enter call claims).clock = s.clock ∧ (s.enter call claims).canceled = s.canceled ∧
      (s.enter call claims).started = s.started ∧
      (s.enter call claims).calls.length = s.calls.length := by
  obtain ⟨_, -, heq⟩ | ⟨-, -, heq⟩ | ⟨_, -, -, -, -, -, heq⟩ := enter_cases s call claims <;>
    simp [heq, Manager.setCall]

/-- A step of a call that has begun keeps the clock and the number of calls. -/
theorem own_frame {action : Action} (hnext : next parse s action = some t)
    (hown : action.call = some call) :
    t.clock = s.clock ∧ t.calls.length = s.calls.length := by
  cases action with
  | elapse duration => cases hown
  | verify request => cases hown
  | lock i =>
      obtain ⟨claims, -, rfl⟩ := next_lock hnext
      obtain ⟨hclock, -, -, hlength⟩ := enter_same s.purgeUsed i claims
      exact ⟨hclock, hlength⟩
  | newMatch i =>
      obtain ⟨w, claims, -, rfl⟩ := next_newMatch hnext
      exact ⟨rfl, List.length_set⟩
  | offer i =>
      obtain ⟨w, -, ⟨err, -, rfl⟩ | ⟨claims, game, -, rfl⟩⟩ := next_offer hnext <;>
        simp [Manager.rendezvous, Manager.setCall]
  | cancel i =>
      obtain ⟨claims, -, rfl⟩ := next_cancel hnext
      exact ⟨rfl, List.length_set⟩
  | removeWaiting i =>
      obtain ⟨claims, -, rfl⟩ := next_removeWaiting hnext
      exact ⟨rfl, List.length_set⟩
  | giveUp i =>
      obtain ⟨w, -, ⟨err, -, rfl⟩ | ⟨claims, game, -, rfl⟩⟩ := next_giveUp hnext <;>
        exact ⟨rfl, List.length_set⟩

theorem next_clock {action : Action} (hnext : next parse s action = some t) :
    t.clock = s.clock + elapsed [action] := by
  cases action with
  | elapse duration =>
      obtain rfl := Option.some.inj hnext
      simp [elapsed]
  | verify request =>
      obtain rfl := Option.some.inj hnext
      rw [begin_eq]
      rfl
  | _ => exact (own_frame hnext rfl).1

theorem next_length {action : Action} (hnext : next parse s action = some t) :
    t.calls.length = s.calls.length + (attempts s.clock [action]).length := by
  cases action with
  | elapse duration =>
      obtain rfl := Option.some.inj hnext
      rfl
  | verify request =>
      obtain rfl := Option.some.inj hnext
      simp [begin_eq, attempts]
  | _ => exact (own_frame hnext rfl).2

theorem phase_of_next {action : Action} {phase : Phase} (hnext : next parse s action = some t)
    (hphase : t.calls[call]? = some phase) :
    (∃ old, s.calls[call]? = some old ∧ (phase = old ∨ Moves s call action old phase)) ∨
      ∃ request, action = .verify request ∧ s.calls.length = call ∧
        phase = Attempt.phase parse ⟨s.clock, request⟩ := by
  cases hold : s.calls[call]? with
  | some old =>
      refine .inl ⟨old, rfl, ?_⟩
      rcases next_moves hnext hold with hsame | ⟨new, hnew, hmoves⟩
      · exact .inl (Option.some.inj (hphase.symm.trans hsame))
      · obtain rfl := Option.some.inj (hphase.symm.trans hnew)
        exact .inr hmoves
  | none =>
      right
      have hlength : s.calls.length ≤ call := List.getElem?_eq_none_iff.1 hold
      have hlt : call < t.calls.length := (List.getElem?_eq_some_iff.1 hphase).1
      cases action with
      | verify request =>
          obtain rfl := Option.some.inj hnext
          rw [begin_eq] at hphase hlt
          simp only [List.length_append, List.length_singleton] at hlt
          obtain rfl : s.calls.length = call := by omega
          simp only [List.getElem?_concat_length, Option.some.injEq] at hphase
          exact ⟨request, rfl, rfl, hphase.symm⟩
      | _ =>
          rw [next_length hnext] at hlt
          simp only [attempts, List.length_nil, Nat.add_zero] at hlt
          omega

/-! ### What a step does to what the calls share -/

theorem shared_cases {action : Action} (hnext : next parse s action = some t) :
    (∃ i c, action = .lock i ∧ s.calls[i]? = some (.verified c) ∧ t = s.purgeUsed.enter i c) ∨
    (∃ i w c, action = .newMatch i ∧ s.calls[i]? = some (.pairing w c) ∧ t = s.start i w c) ∨
    (∃ i c, action = .removeWaiting i ∧ s.calls[i]? = some (.leaving c) ∧
      t = { s.setCall i (.returned (.error .contextDone)) with
        waiting :=
          if s.waiting c.matchID = some ⟨c, i⟩ then Function.update s.waiting c.matchID none
          else s.waiting }) ∨
    (t.waiting = s.waiting ∧ t.used = s.used ∧ t.started = s.started) := by
  cases action with
  | elapse duration =>
      obtain rfl := Option.some.inj hnext
      exact .inr (.inr (.inr ⟨rfl, rfl, rfl⟩))
  | verify request =>
      obtain rfl := Option.some.inj hnext
      rw [begin_eq]
      exact .inr (.inr (.inr ⟨rfl, rfl, rfl⟩))
  | lock i =>
      obtain ⟨c, hi, rfl⟩ := next_lock hnext
      exact .inl ⟨i, c, rfl, hi, rfl⟩
  | newMatch i =>
      obtain ⟨w, c, hi, rfl⟩ := next_newMatch hnext
      exact .inr (.inl ⟨i, w, c, rfl, hi, rfl⟩)
  | offer i =>
      obtain ⟨w, -, ⟨err, -, rfl⟩ | ⟨c, game, -, rfl⟩⟩ := next_offer hnext <;>
        exact .inr (.inr (.inr ⟨rfl, rfl, rfl⟩))
  | cancel i =>
      obtain ⟨c, -, rfl⟩ := next_cancel hnext
      exact .inr (.inr (.inr ⟨rfl, rfl, rfl⟩))
  | removeWaiting i =>
      obtain ⟨c, hi, rfl⟩ := next_removeWaiting hnext
      exact .inr (.inr (.inl ⟨i, c, rfl, hi, rfl⟩))
  | giveUp i =>
      obtain ⟨w, -, ⟨err, -, rfl⟩ | ⟨c, game, -, rfl⟩⟩ := next_giveUp hnext <;>
        exact .inr (.inr (.inr ⟨rfl, rfl, rfl⟩))

/-- An entry leaves the table by the step of its own canceled call, or when a call pairs with it. -/
theorem next_entry {action : Action} {matchID : String} {w : WaitingPlayer}
    (hnext : next parse s action = some t) (hw : s.waiting matchID = some w) :
    t.waiting matchID = some w ∨
      (action = .removeWaiting w.call ∧ s.calls[w.call]? = some (.leaving w.claims)) ∨
      ∃ call c, action = .lock call ∧ c.matchID = matchID ∧ s.calls[call]? = some (.verified c) ∧
        t.calls[call]? = some (.pairing w c) := by
  obtain ⟨i, c, rfl, hi, rfl⟩ | ⟨i, w', c, -, -, rfl⟩ | ⟨i, c, rfl, hi, rfl⟩ | ⟨hwaiting, -, -⟩ :=
    shared_cases hnext
  · obtain ⟨err, -, heq⟩ | ⟨-, hwaiting, heq⟩ | ⟨w', -, hwaiting, -, -, -, heq⟩ :=
      enter_cases s.purgeUsed i c
    · rw [heq]
      exact .inl hw
    · left
      have hid : matchID ≠ c.matchID := by
        rintro rfl
        exact absurd (hw.symm.trans hwaiting) (by simp)
      rw [heq]
      show Function.update s.waiting c.matchID _ matchID = some w
      rw [Function.update_of_ne hid]
      exact hw
    · rw [heq]
      by_cases hid : matchID = c.matchID
      · subst hid
        obtain rfl := Option.some.inj (hwaiting.symm.trans hw)
        exact .inr (.inr ⟨i, c, rfl, rfl, hi, (getElem?_set_iff hi).2 (.inl ⟨rfl, rfl⟩)⟩)
      · left
        show Function.update s.waiting c.matchID none matchID = some w
        rw [Function.update_of_ne hid]
        exact hw
  · exact .inl hw
  · by_cases hown : s.waiting c.matchID = some ⟨c, i⟩ ∧ matchID = c.matchID
    · obtain ⟨hown, rfl⟩ := hown
      obtain rfl := Option.some.inj (hown.symm.trans hw)
      exact .inr (.inl ⟨rfl, hi⟩)
    · left
      dsimp only
      split_ifs with hself
      · rw [Function.update_of_ne fun hid => hown ⟨hself, hid⟩]
        exact hw
      · exact hw
  · exact .inl ((congrFun hwaiting matchID).trans hw)

theorem next_mark {action : Action} {matchID : String} (hnext : next parse s action = some t)
    (hmark : t.used matchID ≠ none) : s.used matchID ≠ none ∨
      ∃ call w c, action = .lock call ∧ c.matchID = matchID ∧
        s.calls[call]? = some (.verified c) ∧ t.calls[call]? = some (.pairing w c) := by
  obtain ⟨i, c, rfl, hi, rfl⟩ | ⟨i, w, c, -, -, rfl⟩ | ⟨i, c, -, -, rfl⟩ | ⟨-, hused, -⟩ :=
    shared_cases hnext
  · have hpurge : s.purgeUsed.used matchID ≠ none → s.used matchID ≠ none := by
      intro hpurged hnone
      simp [Manager.purgeUsed, hnone] at hpurged
    obtain ⟨err, -, heq⟩ | ⟨-, -, heq⟩ | ⟨w, -, -, -, -, -, heq⟩ := enter_cases s.purgeUsed i c
    · rw [heq] at hmark
      exact .inl (hpurge hmark)
    · rw [heq] at hmark
      exact .inl (hpurge hmark)
    · rw [heq] at hmark ⊢
      by_cases hid : c.matchID = matchID
      · exact .inr ⟨i, w, c, rfl, hid, hi, (getElem?_set_iff hi).2 (.inl ⟨rfl, rfl⟩)⟩
      · dsimp only at hmark
        rw [Function.update_of_ne (Ne.symm hid)] at hmark
        exact .inl (hpurge hmark)
  · exact .inl hmark
  · exact .inl hmark
  · rw [hused] at hmark
    exact .inl hmark

theorem next_listed {action : Action} {matchID : String} {w : WaitingPlayer}
    (hnext : next parse s action = some t) (hw : t.waiting matchID = some w) :
    s.waiting matchID = some w ∨
      (action = .lock w.call ∧ w.claims.matchID = matchID ∧
        s.calls[w.call]? = some (.verified w.claims)) := by
  have hother : ∀ {id : String} {entry : Option WaitingPlayer}, matchID ≠ id →
      Function.update s.waiting id entry matchID = some w → s.waiting matchID = some w := by
    intro id entry hid h
    rwa [Function.update_of_ne hid] at h
  have hremoved : ∀ {id : String}, Function.update s.waiting id none matchID = some w →
      s.waiting matchID = some w := by
    intro id h
    by_cases hid : matchID = id
    · simp [hid] at h
    · exact hother hid h
  obtain ⟨i, c, rfl, hi, rfl⟩ | ⟨i, w', c, -, -, rfl⟩ | ⟨i, c, -, -, rfl⟩ | ⟨hwaiting, -, -⟩ :=
    shared_cases hnext
  · obtain ⟨err, -, heq⟩ | ⟨-, -, heq⟩ | ⟨w', -, -, -, -, -, heq⟩ := enter_cases s.purgeUsed i c
    · rw [heq] at hw
      exact .inl hw
    · rw [heq] at hw
      by_cases hid : matchID = c.matchID
      · subst hid
        dsimp only at hw
        rw [Function.update_self] at hw
        obtain rfl := Option.some.inj hw
        exact .inr ⟨rfl, rfl, hi⟩
      · exact .inl (hother hid hw)
    · rw [heq] at hw
      exact .inl (hremoved hw)
  · exact .inl hw
  · dsimp only at hw
    split_ifs at hw
    · exact .inl (hremoved hw)
    · exact .inl hw
  · exact .inl ((congrFun hwaiting matchID).symm.trans hw)

theorem next_started {action : Action} {number : Nat} {game : StartedMatch}
    (hnext : next parse s action = some t) (hgame : s.started[number]? = some game) :
    t.started[number]? = some game := by
  obtain ⟨i, c, -, -, rfl⟩ | ⟨i, w, c, -, -, rfl⟩ | ⟨i, c, -, -, rfl⟩ | ⟨-, -, hstarted⟩ :=
    shared_cases hnext
  · rw [(enter_same s.purgeUsed i c).2.2.1]
    exact hgame
  · exact getElem?_append_of hgame
  · exact hgame
  · rw [hstarted]
    exact hgame

theorem next_returned {action : Action} {result : Except AuthError Session}
    (hnext : next parse s action = some t) (hcall : s.calls[call]? = some (.returned result)) :
    t.calls[call]? = some (.returned result) := by
  rcases next_moves hnext hcall with hsame | ⟨new, -, hmoves⟩
  · exact hsame
  · cases hmoves

theorem next_canceled_iff {action : Action} (hnext : next parse s action = some t) :
    call ∈ t.canceled ↔ call ∈ s.canceled ∨ action = .cancel call := by
  cases action with
  | elapse duration =>
      obtain rfl := Option.some.inj hnext
      simp
  | verify request =>
      obtain rfl := Option.some.inj hnext
      simp [begin_eq]
  | lock i =>
      obtain ⟨claims, -, rfl⟩ := next_lock hnext
      rw [(enter_same s.purgeUsed i claims).2.1]
      simp [Manager.purgeUsed]
  | newMatch i =>
      obtain ⟨w, claims, -, rfl⟩ := next_newMatch hnext
      simp [Manager.start, Manager.setCall]
  | offer i =>
      obtain ⟨w, -, ⟨err, -, rfl⟩ | ⟨claims, game, -, rfl⟩⟩ := next_offer hnext <;>
        simp [Manager.rendezvous, Manager.setCall]
  | cancel i =>
      obtain ⟨claims, -, rfl⟩ := next_cancel hnext
      simp [or_comm, eq_comm]
  | removeWaiting i =>
      obtain ⟨claims, -, rfl⟩ := next_removeWaiting hnext
      simp [Manager.setCall]
  | giveUp i =>
      obtain ⟨w, -, ⟨err, -, rfl⟩ | ⟨claims, game, -, rfl⟩⟩ := next_giveUp hnext <;>
        simp [Manager.setCall]

end

end PvpDuel.MatchServer
