import PvpDuel.MatchServer.Authenticate

/-!
# Matchmaking

`matchticket.Manager.Issue` and the queue of `matchmaking.Service`. Every method of the service holds
its mutex from beginning to end, so a history is a list of calls with the time that passes between
them. What a call of `Join` draws while it runs, its UUIDs and the time between its readings of the
clock, comes with the call.

The JWT library is the parameter `sign`: what `SignedString` returns for the claims of a ticket.
-/

namespace PvpDuel.Matchmaking

open MatchServer (Claims)

/-! ### Tickets -/

/-- What `uuid.NewString` returns. -/
structure UUID where
  text : String
  nonempty : text ≠ ""
deriving DecidableEq

/-- `jwt.NewNumericDate`, which truncates to seconds. Times are in nanoseconds. -/
def numericDate (t : Nat) : Nat := t / 1000000000 * 1000000000

/-- The claims that `Issue` signs. -/
structure TicketClaims extends Claims where
  issuer : String
  audience : List String
  notBefore : Nat
  issuedAt : Nat
deriving DecidableEq, Repr

structure TicketManager where
  issuer : String
  audience : String
  ttl : Nat
  ttl_pos : 0 < ttl

/-- The errors of `Issue`. -/
inductive IssueError
  | invalid
  | sign (err : String)
deriving DecidableEq, Repr

def IssueError.text : IssueError → String
  | .invalid => "match ticket: invalid"
  | .sign err => "sign match ticket: " ++ err

namespace TicketManager

/-- The claims of a ticket issued at `now`. -/
def claims (m : TicketManager) (now : Nat) (ticketID : UUID) (matchID playerID opponentID : String) :
    TicketClaims where
  matchID := matchID
  opponentID := opponentID
  subject := playerID
  id := ticketID.text
  expiresAt := numericDate (now + m.ttl)
  issuer := m.issuer
  audience := [m.audience]
  notBefore := numericDate now
  issuedAt := numericDate now

/-- `Issue`: the signed ticket and its expiry. -/
def issue (sign : TicketClaims → Except String String) (m : TicketManager) (now : Nat)
    (ticketID : UUID) (matchID playerID opponentID : String) : Except IssueError (String × Nat) :=
  if matchID = "" ∨ playerID = "" ∨ opponentID = "" ∨ playerID = opponentID then
    .error .invalid
  else
    match sign (m.claims now ticketID matchID playerID opponentID) with
    | .error err => .error (.sign err)
    | .ok raw => .ok (raw, now + m.ttl)

end TicketManager

/-! ### The service -/

inductive Status
  | notQueued
  | waiting
  | matched
deriving DecidableEq, Repr

def Status.text : Status → String
  | .notQueued => "notQueued"
  | .waiting => "waiting"
  | .matched => "matched"

structure Result where
  status : Status
  matchID : String
  opponentID : String
  serverAddr : String
  matchTicket : String
  ticketExpiry : Nat
deriving DecidableEq, Repr

/-- `Result{Status: status}`. -/
def Result.ofStatus (status : Status) : Result where
  status := status
  matchID := ""
  opponentID := ""
  serverAddr := ""
  matchTicket := ""
  ticketExpiry := 0

structure Entry where
  result : Result
  joinedAt : Nat
deriving DecidableEq, Repr

structure Service where
  tickets : TicketManager
  serverAddr : String
  waitingTTL : Int
  clock : Nat
  entries : String → Option Entry
  waiting : List String

/-- The error of `New`. -/
inductive ConfigError
  | invalid
deriving DecidableEq, Repr

def ConfigError.text : ConfigError → String
  | .invalid => "matchmaking: invalid configuration"

/-- `New`, at a time. -/
def new (tickets : Option TicketManager) (serverAddr : String) (waitingTTL : Int) (clock : Nat) :
    Except ConfigError Service :=
  match tickets with
  | none => .error .invalid
  | some tickets =>
      if serverAddr = "" ∨ waitingTTL ≤ 0 then
        .error .invalid
      else
        .ok { tickets, serverAddr, waitingTTL, clock, entries := fun _ => none, waiting := [] }

/-- What a call of `Join` draws: UUIDs for the match and the two tickets, and how much time passes
before the player's ticket is issued and from there to the opponent's. -/
structure Draw where
  matchID : UUID
  playerTicketID : UUID
  opponentTicketID : UUID
  playerDelay : Nat
  opponentDelay : Nat

/-- The errors of `Join`. -/
inductive JoinError
  | invalidPlayer
  | playerTicket (err : IssueError)
  | opponentTicket (err : IssueError)
deriving DecidableEq, Repr

def JoinError.text : JoinError → String
  | .invalidPlayer => "matchmaking: invalid player"
  | .playerTicket err => "issue player match ticket: " ++ err.text
  | .opponentTicket err => "issue opponent match ticket: " ++ err.text

/-- The loop of `nextWaiting`: the candidate, or the empty string, and what is left of the list. -/
def nextWaiting (entries : String → Option Entry) (playerID : String) :
    List String → String × List String
  | [] => ("", [])
  | candidate :: waiting =>
      if candidate = playerID then
        nextWaiting entries playerID waiting
      else
        match entries candidate with
        | some current =>
            if current.result.status = .waiting then (candidate, waiting)
            else nextWaiting entries playerID waiting
        | none => nextWaiting entries playerID waiting

namespace Service

/-- Whether `purgeExpired` deletes an entry. -/
def Expired (s : Service) (now : Nat) (current : Entry) : Prop :=
  match current.result.status with
  | .waiting => (now : Int) - current.joinedAt ≥ s.waitingTTL
  | .matched => ¬ now < current.result.ticketExpiry
  | .notQueued => False

instance (s : Service) (now : Nat) (current : Entry) : Decidable (s.Expired now current) := by
  unfold Expired
  split <;> infer_instance

def purgeExpired (s : Service) (now : Nat) : Service :=
  { s with entries := fun playerID =>
      match s.entries playerID with
      | some current => if s.Expired now current then none else some current
      | none => none }

def results (s : Service) (matchID playerID opponentID playerTicket opponentTicket : String)
    (expiry : Nat) : Result × Result :=
  ({ status := .matched, matchID, opponentID, serverAddr := s.serverAddr
     matchTicket := playerTicket, ticketExpiry := expiry },
    { status := .matched, matchID, opponentID := playerID, serverAddr := s.serverAddr
      matchTicket := opponentTicket, ticketExpiry := expiry })

/-- `Join` from the choice of the opponent on, with the time of its own reading of the clock. -/
def pair (sign : TicketClaims → Except String String) (s : Service) (now : Nat) (draw : Draw)
    (playerID opponentID : String) : Service × Except JoinError Result :=
  let issuedAt := now + draw.playerDelay
  match s.tickets.issue sign issuedAt draw.playerTicketID draw.matchID.text playerID opponentID with
  | .error err => ({ s with clock := issuedAt }, .error (.playerTicket err))
  | .ok (playerTicket, expiry) =>
      let done := issuedAt + draw.opponentDelay
      match s.tickets.issue sign done draw.opponentTicketID draw.matchID.text opponentID playerID with
      | .error err => ({ s with clock := done }, .error (.opponentTicket err))
      | .ok (opponentTicket, _) =>
          let (playerResult, opponentResult) :=
            s.results draw.matchID.text playerID opponentID playerTicket opponentTicket expiry
          ({ s with
              clock := done
              entries := Function.update
                (Function.update s.entries playerID (some ⟨playerResult, now⟩))
                opponentID (some ⟨opponentResult, now⟩) },
            .ok playerResult)

def join (sign : TicketClaims → Except String String) (s : Service) (playerID : String)
    (draw : Draw) : Service × Except JoinError Result :=
  if playerID = "" then
    (s, .error .invalidPlayer)
  else
    let now := s.clock
    let s := s.purgeExpired now
    match s.entries playerID with
    | some existing => (s, .ok existing.result)
    | none =>
        let (opponentID, waiting) := nextWaiting s.entries playerID s.waiting
        let s := { s with waiting }
        if opponentID = "" then
          let result := Result.ofStatus .waiting
          ({ s with
              entries := Function.update s.entries playerID (some ⟨result, now⟩)
              waiting := s.waiting ++ [playerID] }, .ok result)
        else
          s.pair sign now draw playerID opponentID

def playerStatus (s : Service) (playerID : String) : Service × Result :=
  let s := s.purgeExpired s.clock
  match s.entries playerID with
  | some existing => (s, existing.result)
  | none => (s, Result.ofStatus .notQueued)

def leave (s : Service) (playerID : String) : Service :=
  { s with entries := Function.update s.entries playerID none }

end Service

/-- The calls of the service, and the time that passes between them. -/
inductive Action
  | elapse (duration : Nat)
  | join (playerID : String) (draw : Draw)
  | playerStatus (playerID : String)
  | leave (playerID : String)

namespace Service

def apply (sign : TicketClaims → Except String String) (s : Service) : Action → Service
  | .elapse duration => { s with clock := s.clock + duration }
  | .join playerID draw => (s.join sign playerID draw).1
  | .playerStatus playerID => (s.playerStatus playerID).1
  | .leave playerID => s.leave playerID

def run (sign : TicketClaims → Except String String) (s : Service) (actions : List Action) :
    Service := actions.foldl (apply sign) s

end Service

/-! ### What a call can do -/

def IsWaiting (entries : String → Option Entry) (playerID : String) : Prop :=
  ∃ current, entries playerID = some current ∧ current.result.status = .waiting

/-- `nextWaiting` drops the list up to the first other player who is waiting. -/
theorem nextWaiting_cases (entries : String → Option Entry) (playerID : String)
    (waiting : List String) :
    (nextWaiting entries playerID waiting = ("", []) ∧
      ∀ q ∈ waiting, q ≠ playerID → ¬ IsWaiting entries q) ∨
    ∃ skipped q rest, waiting = skipped ++ q :: rest ∧
      nextWaiting entries playerID waiting = (q, rest) ∧ q ≠ playerID ∧ IsWaiting entries q := by
  induction waiting with
  | nil => exact .inl ⟨rfl, by simp⟩
  | cons candidate waiting ih =>
      have hskip : nextWaiting entries playerID (candidate :: waiting) =
          nextWaiting entries playerID waiting →
          (candidate ≠ playerID → ¬ IsWaiting entries candidate) →
          (nextWaiting entries playerID (candidate :: waiting) = ("", []) ∧
            ∀ q ∈ candidate :: waiting, q ≠ playerID → ¬ IsWaiting entries q) ∨
          ∃ skipped q rest, candidate :: waiting = skipped ++ q :: rest ∧
            nextWaiting entries playerID (candidate :: waiting) = (q, rest) ∧ q ≠ playerID ∧
            IsWaiting entries q := by
        intro heq hnot
        rw [heq]
        rcases ih with ⟨hnone, hall⟩ | ⟨skipped, q, rest, rfl, hfound, hne, hwaiting⟩
        · refine .inl ⟨hnone, fun q hq hne => ?_⟩
          rcases List.mem_cons.1 hq with rfl | hq
          · exact hnot hne
          · exact hall q hq hne
        · exact .inr ⟨candidate :: skipped, q, rest, rfl, hfound, hne, hwaiting⟩
      by_cases hself : candidate = playerID
      · exact hskip (by simp [nextWaiting, hself]) (absurd hself)
      cases hcurrent : entries candidate with
      | none =>
          refine hskip (by simp [nextWaiting, hself, hcurrent]) fun _ hwaiting => ?_
          simp [IsWaiting, hcurrent] at hwaiting
      | some current =>
          by_cases hstatus : current.result.status = .waiting
          · refine .inr ⟨[], candidate, waiting, rfl, ?_, hself, current, hcurrent, hstatus⟩
            simp [nextWaiting, hself, hcurrent, hstatus]
          · refine hskip (by simp [nextWaiting, hself, hcurrent, hstatus]) fun _ hwaiting => ?_
            simp [IsWaiting, hcurrent, hstatus] at hwaiting

namespace Service

variable {sign : TicketClaims → Except String String}

@[simp] theorem purgeExpired_waiting (s : Service) (now : Nat) :
    (s.purgeExpired now).waiting = s.waiting := rfl

@[simp] theorem purgeExpired_clock (s : Service) (now : Nat) :
    (s.purgeExpired now).clock = s.clock := rfl

theorem purgeExpired_entry {s : Service} {now : Nat} {playerID : String} {current : Entry} :
    (s.purgeExpired now).entries playerID = some current ↔
      s.entries playerID = some current ∧ ¬ s.Expired now current := by
  unfold purgeExpired
  dsimp only
  cases s.entries playerID with
  | none => simp
  | some found =>
      by_cases hexpired : s.Expired now found
      · simp only [hexpired, if_true]
        constructor
        · simp
        · rintro ⟨heq, hnot⟩
          exact absurd (Option.some.inj heq ▸ hexpired) hnot
      · simp only [hexpired, if_false]
        constructor
        · intro heq
          exact ⟨heq, Option.some.inj heq ▸ hexpired⟩
        · exact fun h => h.1

/-- The results of the two players of a match whose tickets are issued from `now` on. -/
def matchResults (s : Service) (now : Nat) (draw : Draw) (playerID opponentID playerTicket
    opponentTicket : String) : Result × Result :=
  s.results draw.matchID.text playerID opponentID playerTicket opponentTicket
    (now + draw.playerDelay + s.tickets.ttl)

/-- The claims of the player's ticket, and of the opponent's. -/
def matchClaims (s : Service) (now : Nat) (draw : Draw) (playerID opponentID : String) :
    TicketClaims × TicketClaims :=
  (s.tickets.claims (now + draw.playerDelay) draw.playerTicketID draw.matchID.text playerID
      opponentID,
    s.tickets.claims (now + draw.playerDelay + draw.opponentDelay) draw.opponentTicketID
      draw.matchID.text opponentID playerID)

/-- The entries after a match are the two new ones and those of the other players. -/
theorem entry_of_update {entries : String → Option Entry} {playerID opponentID p : String}
    {first second current : Entry}
    (h : Function.update (Function.update entries playerID (some first)) opponentID (some second) p =
      some current) :
    (p = opponentID ∧ current = second) ∨ (p = playerID ∧ current = first) ∨
      (p ≠ opponentID ∧ p ≠ playerID ∧ entries p = some current) := by
  by_cases hopponent : p = opponentID
  · subst hopponent
    rw [Function.update_self] at h
    exact .inl ⟨rfl, (Option.some.inj h).symm⟩
  rw [Function.update_of_ne hopponent] at h
  by_cases hplayer : p = playerID
  · subst hplayer
    rw [Function.update_self] at h
    exact .inr (.inl ⟨rfl, (Option.some.inj h).symm⟩)
  · rw [Function.update_of_ne hplayer] at h
    exact .inr (.inr ⟨hopponent, hplayer, h⟩)

/-- A call of `Join` that found an opponent fails to issue the player's ticket, or the opponent's, or
matches the two. -/
theorem pair_outcomes (sign : TicketClaims → Except String String) (s : Service) (now : Nat)
    (draw : Draw) {playerID opponentID : String} (hplayer : playerID ≠ "")
    (hopponent : opponentID ≠ "") (hne : opponentID ≠ playerID) :
    (∃ err text, sign (s.matchClaims now draw playerID opponentID).1 = .error text ∧
      s.pair sign now draw playerID opponentID =
        ({ s with clock := now + draw.playerDelay }, .error err)) ∨
    (∃ raw err text, sign (s.matchClaims now draw playerID opponentID).1 = .ok raw ∧
      sign (s.matchClaims now draw playerID opponentID).2 = .error text ∧
      s.pair sign now draw playerID opponentID =
        ({ s with clock := now + draw.playerDelay + draw.opponentDelay }, .error err)) ∨
    ∃ playerTicket opponentTicket,
      sign (s.matchClaims now draw playerID opponentID).1 = .ok playerTicket ∧
      sign (s.matchClaims now draw playerID opponentID).2 = .ok opponentTicket ∧
      s.pair sign now draw playerID opponentID =
        ({ s with
            clock := now + draw.playerDelay + draw.opponentDelay
            entries := Function.update (Function.update s.entries playerID (some
                ⟨(s.matchResults now draw playerID opponentID playerTicket opponentTicket).1, now⟩))
              opponentID (some
                ⟨(s.matchResults now draw playerID opponentID playerTicket opponentTicket).2, now⟩) },
          .ok (s.matchResults now draw playerID opponentID playerTicket opponentTicket).1) := by
  have hnames : ¬ (draw.matchID.text = "" ∨ playerID = "" ∨ opponentID = "" ∨
      playerID = opponentID) := by
    simp [draw.matchID.nonempty, hplayer, hopponent, Ne.symm hne]
  have hnames' : ¬ (draw.matchID.text = "" ∨ opponentID = "" ∨ playerID = "" ∨
      opponentID = playerID) := by
    simp [draw.matchID.nonempty, hplayer, hopponent, hne]
  simp only [pair, TicketManager.issue, if_neg hnames, if_neg hnames', matchClaims]
  cases hfirst : sign (s.tickets.claims (now + draw.playerDelay) draw.playerTicketID
      draw.matchID.text playerID opponentID) with
  | error text => exact .inl ⟨_, text, rfl, rfl⟩
  | ok playerTicket =>
      right
      dsimp only
      cases hsecond : sign (s.tickets.claims (now + draw.playerDelay + draw.opponentDelay)
          draw.opponentTicketID draw.matchID.text opponentID playerID) with
      | error text => exact .inl ⟨playerTicket, _, text, rfl, rfl, rfl⟩
      | ok opponentTicket => exact .inr ⟨playerTicket, opponentTicket, rfl, rfl, rfl⟩

/-- A call of `Join` that found an opponent fails to issue a ticket, or matches the two. -/
theorem pair_cases (sign : TicketClaims → Except String String) (s : Service) (now : Nat)
    (draw : Draw) {playerID opponentID : String} (hplayer : playerID ≠ "")
    (hopponent : opponentID ≠ "") (hne : opponentID ≠ playerID) :
    (∃ clock err, now ≤ clock ∧ (∃ c text, sign c = .error text) ∧
      s.pair sign now draw playerID opponentID = ({ s with clock }, .error err)) ∨
    ∃ playerTicket opponentTicket,
      sign (s.matchClaims now draw playerID opponentID).1 = .ok playerTicket ∧
      sign (s.matchClaims now draw playerID opponentID).2 = .ok opponentTicket ∧
      s.pair sign now draw playerID opponentID =
        ({ s with
            clock := now + draw.playerDelay + draw.opponentDelay
            entries := Function.update (Function.update s.entries playerID (some
                ⟨(s.matchResults now draw playerID opponentID playerTicket opponentTicket).1, now⟩))
              opponentID (some
                ⟨(s.matchResults now draw playerID opponentID playerTicket opponentTicket).2, now⟩) },
          .ok (s.matchResults now draw playerID opponentID playerTicket opponentTicket).1) := by
  rcases s.pair_outcomes sign now draw hplayer hopponent hne with
    ⟨err, text, hfirst, hpair⟩ | ⟨_, err, text, -, hsecond, hpair⟩ | hmatched
  · exact .inl ⟨now + draw.playerDelay, err, by omega, ⟨_, _, hfirst⟩, hpair⟩
  · exact .inl ⟨now + draw.playerDelay + draw.opponentDelay, err, by omega, ⟨_, _, hsecond⟩, hpair⟩
  · exact .inr hmatched

/-- A call of `Join` rejects its player, finds its entry, joins the queue, or looks for an opponent
with what is left of it. -/
theorem join_cases (sign : TicketClaims → Except String String) (s : Service) (playerID : String)
    (draw : Draw) :
    (playerID = "" ∧ s.join sign playerID draw = (s, .error .invalidPlayer)) ∨
    (∃ existing, (s.purgeExpired s.clock).entries playerID = some existing ∧
      s.join sign playerID draw = (s.purgeExpired s.clock, .ok existing.result)) ∨
    (playerID ≠ "" ∧ (s.purgeExpired s.clock).entries playerID = none ∧
      ((∃ rest, nextWaiting (s.purgeExpired s.clock).entries playerID s.waiting = ("", rest) ∧
        s.join sign playerID draw = ({ s.purgeExpired s.clock with
          entries := Function.update (s.purgeExpired s.clock).entries playerID
            (some ⟨Result.ofStatus .waiting, s.clock⟩)
          waiting := rest ++ [playerID] }, .ok (Result.ofStatus .waiting))) ∨
      (∃ opponentID rest, opponentID ≠ "" ∧
        nextWaiting (s.purgeExpired s.clock).entries playerID s.waiting = (opponentID, rest) ∧
        s.join sign playerID draw = Service.pair sign { s.purgeExpired s.clock with waiting := rest }
          s.clock draw playerID opponentID))) := by
  by_cases hplayer : playerID = ""
  · exact .inl ⟨hplayer, by simp [join, hplayer]⟩
  right
  cases hentry : (s.purgeExpired s.clock).entries playerID with
  | some existing => exact .inl ⟨existing, rfl, by simp [join, hplayer, hentry]⟩
  | none =>
      refine .inr ⟨hplayer, rfl, ?_⟩
      rcases hfound : nextWaiting (s.purgeExpired s.clock).entries playerID s.waiting with
        ⟨opponentID, rest⟩
      by_cases hopponent : opponentID = ""
      · subst hopponent
        exact .inl ⟨rest, rfl, by simp [join, hplayer, hentry, hfound]⟩
      · exact .inr ⟨opponentID, rest, hopponent, rfl, by
          simp [join, hplayer, hentry, hfound, hopponent]⟩

theorem nextWaiting_found {entries : String → Option Entry} {playerID q : String}
    {waiting rest : List String} (hq : q ≠ "")
    (hfound : nextWaiting entries playerID waiting = (q, rest)) :
    q ≠ playerID ∧ IsWaiting entries q ∧ ∃ skipped, waiting = skipped ++ q :: rest := by
  rcases nextWaiting_cases entries playerID waiting with
    ⟨hnone, -⟩ | ⟨skipped, q', rest', hlist, hsome, hne, hwaiting⟩
  · rw [hnone] at hfound
    exact absurd (Prod.mk.inj hfound).1.symm hq
  · rw [hsome] at hfound
    obtain ⟨rfl, rfl⟩ := Prod.mk.inj hfound
    exact ⟨hne, hwaiting, skipped, hlist⟩

theorem join_entry {s : Service} {playerID : String} {draw : Draw} {result : Result}
    (h : (s.join sign playerID draw).2 = .ok result) :
    ∃ joinedAt, (s.join sign playerID draw).1.entries playerID = some ⟨result, joinedAt⟩ := by
  obtain ⟨-, heq⟩ | ⟨existing, hexisting, heq⟩ | ⟨hplayer, -, ⟨rest, -, heq⟩ |
    ⟨q, rest, hq, hfound, heq⟩⟩ := join_cases sign s playerID draw
  · simp [heq] at h
  · rw [heq] at h ⊢
    obtain rfl := Except.ok.inj h
    exact ⟨existing.joinedAt, hexisting⟩
  · rw [heq] at h ⊢
    obtain rfl := Except.ok.inj h
    exact ⟨s.clock, Function.update_self ..⟩
  · obtain ⟨hne, -⟩ := nextWaiting_found hq hfound
    rcases pair_cases sign { s.purgeExpired s.clock with waiting := rest } s.clock draw hplayer hq
      hne with ⟨_, _, -, -, hpair⟩ | ⟨_, _, -, -, hpair⟩
    · rw [heq, hpair] at h
      cases h
    · rw [heq, hpair] at h ⊢
      obtain rfl := Except.ok.inj h
      exact ⟨s.clock, (Function.update_of_ne hne.symm _ _).trans (Function.update_self ..)⟩

end Service

end PvpDuel.Matchmaking
