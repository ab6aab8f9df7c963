import Mathlib.Logic.Function.Basic
import PvpDuel.Lib.Transition
import PvpDuel.Room.Rules

/-!
# Match tickets and pairing

`matchticket.Manager.Verify` and `MatchManager.Authenticate`. A call of `Authenticate` is a thread: it
verifies its ticket, goes through the section under the mutex, and then either waits for an opponent
or creates the match and offers the waiting call its session. Each of these is one action; calls are
numbered in the order they begin, and a waiting player is identified by the call that waits.

The JWT library is the parameter `parse`: what `ParseWithClaims` returns for a raw token at a time.
-/

namespace PvpDuel.MatchServer

open Simulation

/-! ### Tickets -/

structure Claims where
  matchID : String
  opponentID : String
  subject : String
  id : String
  expiresAt : Nat
deriving DecidableEq, Repr

def Claims.playerID (c : Claims) : String := c.subject

/-- The error `ErrInvalid` of package `matchticket`. -/
inductive TicketError
  | invalid
deriving DecidableEq, Repr

def TicketError.text : TicketError → String
  | .invalid => "match ticket: invalid"

/-- `Verify` of a ticket manager whose clock shows `now`. -/
def verify (parse : Nat → String → Option Claims) (now : Nat) (raw : String) :
    Except TicketError Claims :=
  match parse now raw with
  | none => .error .invalid
  | some claims =>
      if claims.matchID = "" ∨ claims.playerID = "" ∨ claims.opponentID = "" ∨ claims.id = "" then
        .error .invalid
      else
        .ok claims

theorem verify_ok {parse : Nat → String → Option Claims} {now : Nat} {raw : String}
    {claims : Claims} (h : verify parse now raw = .ok claims) : parse now raw = some claims := by
  unfold verify at h
  cases hparse : parse now raw with
  | none =>
      rw [hparse] at h
      cases h
  | some found =>
      rw [hparse] at h
      dsimp only at h
      split_ifs at h
      cases h
      rfl

/-! ### Requests -/

structure AuthenticateRequest where
  playerID : String
  matchToken : String
deriving DecidableEq, Repr

/-- `unicode.IsSpace`. -/
def isSpace (c : Char) : Bool :=
  c.val ∈ [0x09, 0x0A, 0x0B, 0x0C, 0x0D, 0x20, 0x85, 0xA0, 0x1680, 0x2028, 0x2029, 0x202F, 0x205F,
    0x3000] || (0x2000 ≤ c.val && c.val ≤ 0x200A)

/-- `strings.TrimSpace`. -/
def trimSpace (s : String) : String :=
  String.ofList ((s.toList.dropWhile isSpace).reverse.dropWhile isSpace).reverse

/-- What `Authenticate` returns instead of a session. -/
inductive AuthError
  | authentication
  | samePlayer
  | ticketUsed
  | contextDone
  | canceled
  | room (err : RoomError)
deriving DecidableEq, Repr

/-- The errors of the checks of `Authenticate` itself. -/
inductive AuthError.Refuses : AuthError → Prop
  | authentication : Refuses .authentication
  | samePlayer : Refuses .samePlayer
  | ticketUsed : Refuses .ticketUsed

/-- The texts of the package's own errors; the others are those of the context and of the room. -/
def AuthError.text : AuthError → Option String
  | .authentication => some "invalid match credentials"
  | .samePlayer => some "a player cannot duel itself"
  | .ticketUsed => some "match ticket already used"
  | .contextDone => none
  | .canceled => some "context canceled"
  | .room err => some err.text

/-- The choice of an arena by the FNV-1a hash of the match ID. -/
def arenaIDForMatch (matchID : String) : String :=
  let hash : UInt32 := matchID.toUTF8.toList.foldl
    (fun hash byte => (hash ^^^ byte.toUInt32) * 16777619) 2166136261
  if hash % 2 = 0 then arenaIDNeonRooftop else arenaIDEmberFoundry

/-! ### The manager -/

/-- A waiting player, with the call that waits on its `result` channel. -/
structure WaitingPlayer where
  claims : Claims
  call : Nat
deriving DecidableEq, Repr

/-- One call of `newMatch`: its players and the room it made. -/
structure StartedMatch where
  matchID : String
  playerA : String
  playerB : String
  room : Except RoomError Room
deriving DecidableEq

/-- `newMatch`, as far as a call of `Authenticate` observes it. -/
def newMatch (matchID playerA playerB : String) : StartedMatch where
  matchID := matchID
  playerA := playerA
  playerB := playerB
  room := newWithRuleset playerA playerB (arenaRuleset (arenaIDForMatch matchID))

theorem arenaRuleset_accepted (matchID : String) :
    (arenaRuleset (arenaIDForMatch matchID)).Accepted := by
  unfold arenaIDForMatch
  dsimp only
  split_ifs <;> decide

theorem newMatch_room (matchID : String) {playerA playerB : String} (ha : playerA ≠ "")
    (hb : playerB ≠ "") (hne : playerA ≠ playerB) :
    (newMatch matchID playerA playerB).room =
      .ok (initialRoom playerA playerB (arenaRuleset (arenaIDForMatch matchID))) :=
  newWithRuleset_of_accepted ha hb hne (arenaRuleset_accepted matchID)

/-- A session: the match it belongs to, by its number, and the player. -/
structure Session where
  game : Nat
  playerID : String
deriving DecidableEq, Repr

/-- Where a call of `Authenticate` stands. -/
inductive Phase
  | verified (claims : Claims)
  | waiting (claims : Claims)
  | leaving (claims : Claims)
  | pairing (partner : WaitingPlayer) (claims : Claims)
  | failing (partner : WaitingPlayer) (err : RoomError)
  | offering (partner : WaitingPlayer) (claims : Claims) (game : Nat)
  | returned (result : Except AuthError Session)
deriving DecidableEq

/-- The error check that follows `newMatch`; a match is known by its number. -/
def Phase.afterNewMatch (partner : WaitingPlayer) (claims : Claims) (number : Nat)
    (game : StartedMatch) : Phase :=
  match game.room with
  | .error err => .failing partner err
  | .ok _ => .offering partner claims number

/-- The manager, its clock, its calls and the matches it created. -/
structure Manager where
  clock : Nat
  waiting : String → Option WaitingPlayer
  used : String → Option Nat
  calls : List Phase
  canceled : List Nat
  started : List StartedMatch
  aborted : List Nat

def newMatchManager (clock : Nat) : Manager where
  clock := clock
  waiting := fun _ => none
  used := fun _ => none
  calls := []
  canceled := []
  started := []
  aborted := []

/-- What can happen next. The numbers are those of calls. -/
inductive Action
  | elapse (duration : Nat)
  | verify (request : AuthenticateRequest)
  | lock (call : Nat)
  | newMatch (call : Nat)
  | offer (call : Nat)
  | cancel (call : Nat)
  | removeWaiting (call : Nat)
  | giveUp (call : Nat)
deriving DecidableEq, Repr

namespace Manager

def setCall (s : Manager) (call : Nat) (phase : Phase) : Manager :=
  { s with calls := s.calls.set call phase }

/-- `Authenticate` up to the mutex: the first of the actions of a call, which gives it its number. -/
def begin (parse : Nat → String → Option Claims) (s : Manager) (request : AuthenticateRequest) :
    Manager :=
  let playerID := trimSpace request.playerID
  match MatchServer.verify parse s.clock request.matchToken with
  | .error _ => { s with calls := s.calls ++ [.returned (.error .authentication)] }
  | .ok claims =>
      if playerID = "" ∨ playerID ≠ claims.playerID then
        { s with calls := s.calls ++ [.returned (.error .authentication)] }
      else
        { s with calls := s.calls ++ [.verified claims] }

def purgeUsed (s : Manager) : Manager :=
  { s with used := fun matchID =>
      match s.used matchID with
      | some expiresAt => if s.clock < expiresAt then some expiresAt else none
      | none => none }

/-- The section under the mutex past the purge. The caller's player ID is that of its claims. -/
def enter (s : Manager) (call : Nat) (claims : Claims) : Manager :=
  if (s.used claims.matchID).isSome then
    s.setCall call (.returned (.error .ticketUsed))
  else
    match s.waiting claims.matchID with
    | none =>
        { s.setCall call (.waiting claims) with
          waiting := Function.update s.waiting claims.matchID (some { claims, call }) }
    | some waiting =>
        if waiting.claims.playerID = claims.playerID then
          s.setCall call (.returned (.error .samePlayer))
        else if waiting.claims.opponentID ≠ claims.playerID ∨
            claims.opponentID ≠ waiting.claims.playerID then
          s.setCall call (.returned (.error .authentication))
        else
          { s.setCall call (.pairing waiting claims) with
            waiting := Function.update s.waiting claims.matchID none
            used := Function.update s.used claims.matchID (some claims.expiresAt) }

/-- The call of `newMatch`. -/
def start (s : Manager) (call : Nat) (partner : WaitingPlayer) (claims : Claims) : Manager :=
  let game := newMatch claims.matchID partner.claims.playerID claims.playerID
  { s.setCall call (.afterNewMatch partner claims s.started.length game) with
    started := s.started ++ [game] }

/-- The waiting call receives from its `result` channel and both calls return. -/
def rendezvous (s : Manager) (call : Nat) (partner : WaitingPlayer)
    (theirs mine : Except AuthError Session) : Manager :=
  (s.setCall partner.call (.returned theirs)).setCall call (.returned mine)

/-- Whether the call of a waiting player is at its `select`. -/
def isWaiting (s : Manager) (partner : WaitingPlayer) : Bool :=
  s.calls[partner.call]? = some (.waiting partner.claims)

end Manager

/-- The transitions of the manager. -/
def next (parse : Nat → String → Option Claims) (s : Manager) : Action → Option Manager
  | .elapse duration => some { s with clock := s.clock + duration }
  | .verify request => some (s.begin parse request)
  | .lock call =>
      match s.calls[call]? with
      | some (.verified claims) => some (s.purgeUsed.enter call claims)
      | _ => none
  | .newMatch call =>
      match s.calls[call]? with
      | some (.pairing partner claims) => some (s.start call partner claims)
      | _ => none
  | .offer call =>
      match s.calls[call]? with
      | some (.failing partner err) =>
          if s.isWaiting partner then
            some (s.rendezvous call partner (.error (.room err)) (.error (.room err)))
          else none
      | some (.offering partner claims game) =>
          if s.isWaiting partner then
            some (s.rendezvous call partner (.ok { game, playerID := partner.claims.playerID })
              (.ok { game, playerID := claims.playerID }))
          else none
      | _ => none
  | .cancel call =>
      match s.calls[call]? with
      | some (.waiting claims) =>
          some { s.setCall call (.leaving claims) with canceled := call :: s.canceled }
      | _ => none
  | .removeWaiting call =>
      match s.calls[call]? with
      | some (.leaving claims) =>
          some { s.setCall call (.returned (.error .contextDone)) with
            waiting :=
              if s.waiting claims.matchID = some ⟨claims, call⟩ then
                Function.update s.waiting claims.matchID none
              else s.waiting }
      | _ => none
  | .giveUp call =>
      match s.calls[call]? with
      | some (.failing partner err) =>
          if partner.call ∈ s.canceled then
            some (s.setCall call (.returned (.error (.room err))))
          else none
      | some (.offering partner _ game) =>
          if partner.call ∈ s.canceled then
            some { s.setCall call (.returned (.error .canceled)) with aborted := game :: s.aborted }
          else none
      | _ => none

/-! ### What an action can do -/

section Inversion

variable {parse : Nat → String → Option Claims} {s t : Manager} {call : Nat}

theorem next_lock (h : next parse s (.lock call) = some t) : ∃ claims,
    s.calls[call]? = some (.verified claims) ∧ t = s.purgeUsed.enter call claims := by
  simp only [next] at h
  split at h
  · cases h
    exact ⟨_, ‹_›, rfl⟩
  · cases h

theorem next_newMatch (h : next parse s (.newMatch call) = some t) : ∃ partner claims,
    s.calls[call]? = some (.pairing partner claims) ∧ t = s.start call partner claims := by
  simp only [next] at h
  split at h
  · cases h
    exact ⟨_, _, ‹_›, rfl⟩
  · cases h

theorem next_offer (h : next parse s (.offer call) = some t) : ∃ partner,
    s.isWaiting partner = true ∧
    ((∃ err, s.calls[call]? = some (.failing partner err) ∧
        t = s.rendezvous call partner (.error (.room err)) (.error (.room err))) ∨
      ∃ claims game, s.calls[call]? = some (.offering partner claims game) ∧
        t = s.rendezvous call partner (.ok { game, playerID := partner.claims.playerID })
          (.ok { game, playerID := claims.playerID })) := by
  simp only [next] at h
  split at h
  · split_ifs at h with hwaiting
    cases h
    exact ⟨_, hwaiting, .inl ⟨_, ‹_›, rfl⟩⟩
  · split_ifs at h with hwaiting
    cases h
    exact ⟨_, hwaiting, .inr ⟨_, _, ‹_›, rfl⟩⟩
  · cases h

theorem next_cancel (h : next parse s (.cancel call) = some t) : ∃ claims,
    s.calls[call]? = some (.waiting claims) ∧
      t = { s.setCall call (.leaving claims) with canceled := call :: s.canceled } := by
  simp only [next] at h
  split at h
  · cases h
    exact ⟨_, ‹_›, rfl⟩
  · cases h

theorem next_removeWaiting (h : next parse s (.removeWaiting call) = some t) : ∃ claims,
    s.calls[call]? = some (.leaving claims) ∧
      t = { s.setCall call (.returned (.error .contextDone)) with
        waiting :=
          if s.waiting claims.matchID = some ⟨claims, call⟩ then
            Function.update s.waiting claims.matchID none
          else s.waiting } := by
  simp only [next] at h
  split at h
  · cases h
    exact ⟨_, ‹_›, rfl⟩
  · cases h

theorem next_giveUp (h : next parse s (.giveUp call) = some t) : ∃ partner,
    partner.call ∈ s.canceled ∧
    ((∃ err, s.calls[call]? = some (.failing partner err) ∧
        t = s.setCall call (.returned (.error (.room err)))) ∨
      ∃ claims game, s.calls[call]? = some (.offering partner claims game) ∧
        t = { s.setCall call (.returned (.error .canceled)) with
          aborted := game :: s.aborted }) := by
  simp only [next] at h
  split at h
  · split_ifs at h with hcanceled
    cases h
    exact ⟨_, hcanceled, .inl ⟨_, ‹_›, rfl⟩⟩
  · split_ifs at h with hcanceled
    cases h
    exact ⟨_, hcanceled, .inr ⟨_, _, ‹_›, rfl⟩⟩
  · cases h

/-- The section under the mutex refuses the call, lets it wait, or pairs it with the waiting one. -/
theorem enter_cases (s : Manager) (call : Nat) (claims : Claims) :
    (∃ err : AuthError, err.Refuses ∧
      s.enter call claims = s.setCall call (.returned (.error err))) ∨
    (s.used claims.matchID = none ∧ s.waiting claims.matchID = none ∧
      s.enter call claims = { s.setCall call (.waiting claims) with
        waiting := Function.update s.waiting claims.matchID (some { claims, call }) }) ∨
    ∃ partner, s.used claims.matchID = none ∧ s.waiting claims.matchID = some partner ∧
      partner.claims.playerID ≠ claims.playerID ∧ partner.claims.opponentID = claims.playerID ∧
      claims.opponentID = partner.claims.playerID ∧
      s.enter call claims = { s.setCall call (.pairing partner claims) with
        waiting := Function.update s.waiting claims.matchID none
        used := Function.update s.used claims.matchID (some claims.expiresAt) } := by
  unfold Manager.enter
  by_cases hused : (s.used claims.matchID).isSome = true
  · exact .inl ⟨.ticketUsed, .ticketUsed, if_pos hused⟩
  have hmark : s.used claims.matchID = none := Option.not_isSome_iff_eq_none.1 hused
  rw [if_neg hused]
  cases hwaiting : s.waiting claims.matchID with
  | none => exact .inr (.inl ⟨hmark, rfl, rfl⟩)
  | some partner =>
      dsimp only
      by_cases hsame : partner.claims.playerID = claims.playerID
      · exact .inl ⟨.samePlayer, .samePlayer, if_pos hsame⟩
      by_cases hother : partner.claims.opponentID ≠ claims.playerID ∨
          claims.opponentID ≠ partner.claims.playerID
      · refine .inl ⟨.authentication, .authentication, ?_⟩
        rw [if_neg hsame, if_pos hother]
      · rw [if_neg hsame, if_neg hother]
        push Not at hother
        exact .inr (.inr ⟨partner, hmark, rfl, hsame, hother.1, hother.2, rfl⟩)

end Inversion

end PvpDuel.MatchServer
