import PvpDuel.Matchmaking.Meeting

/-!
# Tickets that are handed out

The queue forgets a match at the instant the player's ticket was issued for, to the resolution of the
clock; the ticket itself carries the whole second before its own instant. A ledger records when each
ticket was issued, so the two can be compared for every result that is returned.
-/

namespace PvpDuel.Matchmaking

open MatchServer (Claims verify)

structure Issuing where
  issuedAt : Nat
  claims : TicketClaims
  raw : String
deriving DecidableEq, Repr

namespace Service

/-- When a call issues its tickets, as far as it comes. -/
def issueTimes (s : Service) : Action → List Nat
  | .join _ draw => [s.clock + draw.playerDelay, s.clock + draw.playerDelay + draw.opponentDelay]
  | _ => []

/-- The tickets that a call signs, with their instants. -/
def issuings (sign : TicketClaims → Except String String) (s : Service) (action : Action) :
    List Issuing :=
  List.zipWith (fun issuedAt ticket => ⟨issuedAt, ticket.1, ticket.2⟩) (s.issueTimes action)
    (s.signed sign action)

end Service

structure Ledger where
  service : Service
  issuings : List Issuing

namespace Ledger

def start (s : Service) : Ledger := ⟨s, []⟩

def apply (sign : TicketClaims → Except String String) (l : Ledger) (action : Action) : Ledger where
  service := l.service.apply sign action
  issuings := l.issuings ++ l.service.issuings sign action

def run (sign : TicketClaims → Except String String) (l : Ledger) (actions : List Action) : Ledger :=
  actions.foldl (apply sign) l

end Ledger

theorem numericDate_le (t : Nat) : numericDate t ≤ t := Nat.div_mul_le_self t _

/-- The library parses these tokens as they were signed, before the stored expiry and not before the
stored not-before. -/
def Parses (parse : Nat → String → Option Claims) (issuings : List Issuing) : Prop :=
  ∀ issuing ∈ issuings, ∀ now, parse now issuing.raw =
    if issuing.claims.notBefore ≤ now ∧ now < issuing.claims.expiresAt then
      some issuing.claims.toClaims
    else none

/-- What `Issue` signed by some instant: a ticket for two players, by the clock of its own instant. -/
def Issuing.Dated (m : TicketManager) (now : Nat) (issuing : Issuing) : Prop :=
  issuing.issuedAt ≤ now ∧ ∃ ticketID matchID playerID opponentID,
    issuing.claims = m.claims issuing.issuedAt ticketID matchID playerID opponentID ∧
      matchID ≠ "" ∧ playerID ≠ "" ∧ opponentID ≠ ""

theorem Issuing.Dated.mono {m : TicketManager} {now later : Nat} {issuing : Issuing}
    (h : issuing.Dated m now) (hle : now ≤ later) : issuing.Dated m later :=
  ⟨Nat.le_trans h.1 hle, h.2⟩

/-- The result's ticket is one of these, and names the player, the opponent and the match. -/
def Holds (issuings : List Issuing) (playerID : String) (r : Result) : Prop :=
  ∃ issuing ∈ issuings, issuing.raw = r.matchTicket ∧ issuing.claims.matchID = r.matchID ∧
    issuing.claims.subject = playerID ∧ issuing.claims.opponentID = r.opponentID

theorem Holds.mono {issuings : List Issuing} {playerID : String} {r : Result}
    (h : Holds issuings playerID r) (new : List Issuing) : Holds (issuings ++ new) playerID r := by
  obtain ⟨issuing, hmem, hfields⟩ := h
  exact ⟨issuing, List.mem_append_left _ hmem, hfields⟩

/-- Every ticket was issued by now, and every match comes with a ticket. -/
structure Accounted (m : TicketManager) (l : Ledger) : Prop where
  manager : l.service.tickets = m
  dated : ∀ issuing ∈ l.issuings, issuing.Dated m l.service.clock
  entries : ∀ p current, l.service.entries p = some current → current.result.status = .matched →
    Holds l.issuings p current.result

section

variable {sign : TicketClaims → Except String String} {s : Service} {m : TicketManager}

theorem apply_tickets (s : Service) (action : Action) : (s.apply sign action).tickets = s.tickets := by
  cases action with
  | elapse duration => rfl
  | join playerID draw =>
      change (s.join sign playerID draw).1.tickets = s.tickets
      obtain ⟨-, heq⟩ | ⟨existing, -, heq⟩ | ⟨hplayer, -, ⟨rest, -, heq⟩ | ⟨q, rest, hq, hfound, heq⟩⟩ :=
        Service.join_cases sign s playerID draw <;> rw [heq]
      · rfl
      · rfl
      obtain ⟨hne, -⟩ := Service.nextWaiting_found hq hfound
      rcases Service.pair_outcomes sign { s.purgeExpired s.clock with waiting := rest } s.clock draw
        hplayer hq hne with ⟨_, _, -, hpair⟩ | ⟨_, _, _, -, -, hpair⟩ | ⟨_, _, -, -, hpair⟩ <;>
        rw [hpair] <;> rfl
  | playerStatus playerID =>
      unfold Service.apply Service.playerStatus
      dsimp only
      split <;> rfl
  | leave playerID => rfl

/-- What a call of `Join` signs, and when, and that it returns no earlier. -/
theorem issuings_join (s : Service) (playerID : String) (draw : Draw) :
    s.clock ≤ (s.join sign playerID draw).1.clock ∧
    ∀ issuing ∈ s.issuings sign (.join playerID draw),
      issuing.Dated s.tickets (s.join sign playerID draw).1.clock := by
  obtain ⟨hplayer, heq⟩ | ⟨existing, hexisting, heq⟩ | ⟨hplayer, hnone, ⟨rest, hfound, heq⟩ |
    ⟨q, rest, hq, hfound, heq⟩⟩ := Service.join_cases sign s playerID draw
  · rw [heq]
    refine ⟨Nat.le_refl _, ?_⟩
    simp [Service.issuings, Service.signed, hplayer]
  · rw [heq]
    refine ⟨Nat.le_refl _, ?_⟩
    simp [Service.issuings, Service.signed, hexisting]
  · rw [heq]
    refine ⟨Nat.le_refl _, ?_⟩
    simp [Service.issuings, Service.signed, hfound]
  obtain ⟨hne, -⟩ := Service.nextWaiting_found hq hfound
  have hfirst : ∀ raw later, s.clock + draw.playerDelay ≤ later →
      Issuing.Dated s.tickets later
        ⟨s.clock + draw.playerDelay, (s.matchClaims s.clock draw playerID q).1, raw⟩ :=
    fun raw later hle => ⟨hle, draw.playerTicketID, draw.matchID.text, playerID, q, rfl,
      draw.matchID.nonempty, hplayer, hq⟩
  have hsecond : ∀ raw later, s.clock + draw.playerDelay + draw.opponentDelay ≤ later →
      Issuing.Dated s.tickets later ⟨s.clock + draw.playerDelay + draw.opponentDelay,
        (s.matchClaims s.clock draw playerID q).2, raw⟩ :=
    fun raw later hle => ⟨hle, draw.opponentTicketID, draw.matchID.text, q, playerID, rfl,
      draw.matchID.nonempty, hq, hplayer⟩
  rcases Service.pair_outcomes sign { s.purgeExpired s.clock with waiting := rest } s.clock draw
    hplayer hq hne with ⟨err, text, hfailed, hpair⟩ | ⟨raw, err, text, hraw, hfailed, hpair⟩ |
      ⟨raw, raw', hraw, hraw', hpair⟩
  · change sign (s.matchClaims s.clock draw playerID q).1 = _ at hfailed
    have hsigned : s.signed sign (.join playerID draw) = [] := by
      simp [Service.signed, hplayer, hnone, hfound, hq, hfailed]
    rw [heq, hpair, Service.issuings, hsigned]
    exact ⟨Nat.le_add_right _ _, by simp⟩
  · change sign (s.matchClaims s.clock draw playerID q).1 = _ at hraw
    change sign (s.matchClaims s.clock draw playerID q).2 = _ at hfailed
    have hsigned : s.signed sign (.join playerID draw) =
        [((s.matchClaims s.clock draw playerID q).1, raw)] := by
      simp [Service.signed, hplayer, hnone, hfound, hq, hraw, hfailed]
    rw [heq, hpair, Service.issuings, hsigned]
    refine ⟨by dsimp only; omega, fun issuing hissuing => ?_⟩
    obtain rfl := List.mem_singleton.1 hissuing
    exact hfirst raw _ (Nat.le_add_right _ _)
  · change sign (s.matchClaims s.clock draw playerID q).1 = _ at hraw
    change sign (s.matchClaims s.clock draw playerID q).2 = _ at hraw'
    rw [heq, hpair, Service.issuings, signed_of_pair hplayer hnone hq hfound hraw hraw']
    refine ⟨by dsimp only; omega, fun issuing hissuing => ?_⟩
    rcases List.mem_cons.1 hissuing with rfl | hissuing
    · exact hfirst raw _ (Nat.le_add_right _ _)
    · obtain rfl := List.mem_singleton.1 hissuing
      exact hsecond raw' _ (Nat.le_refl _)

theorem holds_of_carries {playerID p : String} {draw : Draw} {r : Result}
    (h : Carries (s.signed sign (.join playerID draw)) p r) :
    Holds (s.issuings sign (.join playerID draw)) p r := by
  obtain ⟨c, hc, hid, hsubject, hopponent⟩ := h
  have hlength : (s.signed sign (.join playerID draw)).length ≤ 2 := by
    unfold Service.signed
    dsimp only
    split_ifs
    · simp
    · simp
    split
    · simp
    · split <;> simp
  obtain ⟨n, hn, hget⟩ := List.getElem_of_mem hc
  have htimes : n < (s.issueTimes (.join playerID draw)).length := by
    change n < 2
    omega
  refine ⟨⟨(s.issueTimes (.join playerID draw))[n], c, r.matchTicket⟩, ?_, rfl, hid, hsubject,
    hopponent⟩
  rw [Service.issuings, List.mem_iff_getElem]
  refine ⟨n, by rw [List.length_zipWith]; omega, ?_⟩
  rw [List.getElem_zipWith, hget]

theorem Accounted.apply {l : Ledger} (h : Accounted m l) (action : Action) :
    Accounted m (l.apply sign action) := by
  have hquiet : l.service.issuings sign action = [] →
      l.service.clock ≤ (l.service.apply sign action).clock →
      (∀ p current, (l.service.apply sign action).entries p = some current →
        l.service.entries p = some current) → Accounted m (l.apply sign action) := by
    intro hnone hclock hentries
    refine ⟨(apply_tickets _ _).trans h.manager, fun issuing hissuing => ?_, fun p current hcurrent => ?_⟩
    · rw [Ledger.apply, hnone, List.append_nil] at hissuing
      exact (h.dated issuing hissuing).mono hclock
    · rw [Ledger.apply, hnone, List.append_nil]
      exact h.entries p current (hentries p current hcurrent)
  cases action with
  | elapse duration =>
      exact hquiet rfl (Nat.le_add_right _ _) fun _ _ hcurrent => hcurrent
  | join playerID draw =>
      obtain ⟨hclock, hdated⟩ : l.service.clock ≤ (l.service.join sign playerID draw).1.clock ∧ _ :=
        issuings_join l.service playerID draw
      refine ⟨(apply_tickets _ _).trans h.manager, fun issuing hissuing => ?_,
        fun p current hcurrent hstatus => ?_⟩
      · rcases List.mem_append.1 hissuing with hold | hnew
        · exact (h.dated issuing hold).mono hclock
        · exact h.manager ▸ hdated issuing hnew
      · rcases join_entries hcurrent hstatus with hold | hcarries
        · exact (h.entries p current hold hstatus).mono _
        · obtain ⟨issuing, hissuing, hfields⟩ := holds_of_carries hcarries
          exact ⟨issuing, List.mem_append_right _ hissuing, hfields⟩
  | playerStatus playerID =>
      have hpurged : l.service.apply sign (.playerStatus playerID) =
          l.service.purgeExpired l.service.clock := by
        unfold Service.apply Service.playerStatus
        dsimp only
        split <;> rfl
      refine hquiet rfl (by rw [hpurged]; exact Nat.le_refl _) fun p current hcurrent => ?_
      rw [hpurged] at hcurrent
      exact (Service.purgeExpired_entry.1 hcurrent).1
  | leave playerID =>
      refine hquiet rfl (Nat.le_refl _) fun p current hcurrent => ?_
      change Function.update l.service.entries playerID none p = some current at hcurrent
      by_cases heq : p = playerID
      · rw [heq, Function.update_self] at hcurrent
        cases hcurrent
      · rwa [Function.update_of_ne heq] at hcurrent

theorem Accounted.run {l : Ledger} (h : Accounted m l) (actions : List Action) :
    Accounted m (l.run sign actions) := by
  induction actions generalizing l with
  | nil => exact h
  | cons action actions ih => exact ih (h.apply action)

theorem start_accounted {serverAddr : String} {waitingTTL : Int} {clock : Nat}
    (h : new (some m) serverAddr waitingTTL clock = .ok s) : Accounted m (Ledger.start s) := by
  unfold new at h
  dsimp only at h
  split_ifs at h
  cases h
  exact ⟨rfl, fun _ hissuing => absurd hissuing List.not_mem_nil,
    fun _ _ hcurrent => by cases hcurrent⟩

/-- A matched result that a call returns is that of an entry the call leaves. -/
theorem entry_of_answer {action : Action} {p : String} {r : Result}
    (hanswer : (p, r) ∈ s.answers sign action) (hstatus : r.status = .matched) :
    ∃ joinedAt, (s.apply sign action).entries p = some ⟨r, joinedAt⟩ := by
  cases action with
  | elapse duration => cases hanswer
  | leave playerID => cases hanswer
  | join playerID draw =>
      cases hresult : (s.join sign playerID draw).2 with
      | error err =>
          rw [Service.answers, hresult] at hanswer
          cases hanswer
      | ok result =>
          rw [Service.answers, hresult] at hanswer
          obtain ⟨rfl, rfl⟩ := Prod.mk.inj (List.mem_singleton.1 hanswer)
          exact Service.join_entry hresult
  | playerStatus playerID =>
      obtain ⟨rfl, rfl⟩ := Prod.mk.inj (List.mem_singleton.1 hanswer)
      unfold Service.apply
      unfold Service.playerStatus at hstatus ⊢
      cases hentry : (s.purgeExpired s.clock).entries p with
      | none =>
          simp only [hentry] at hstatus
          cases hstatus
      | some existing =>
          simp only [hentry]
          exact ⟨existing.joinedAt, rfl⟩

end

/-- In every history, each result `matched` that is returned comes with a ticket that was issued by
then, and it verifies then, for the player, the opponent and the match, exactly when the call returns
before the whole second of the instant for which the ticket was issued. -/
theorem handed_out_ticket_usable_iff {sign : TicketClaims → Except String String}
    {parse : Nat → String → Option Claims} {m : TicketManager} {serverAddr : String}
    {waitingTTL : Int} {clock : Nat} {s₀ : Service}
    (hnew : new (some m) serverAddr waitingTTL clock = .ok s₀) {actions : List Action} {l l' : Ledger}
    (hrun : (Ledger.start s₀).run sign actions = l) {action : Action} (happly : l.apply sign action = l')
    (hjwt : Parses parse l'.issuings) {p : String} {r : Result}
    (hanswer : (p, r) ∈ l.service.answers sign action) (hstatus : r.status = .matched) :
    (∃ issuing ∈ l'.issuings, issuing.raw = r.matchTicket) ∧
    ∀ issuing ∈ l'.issuings, issuing.raw = r.matchTicket →
      ((∃ c, verify parse l'.service.clock r.matchTicket = .ok c ∧ c.playerID = p ∧
        c.opponentID = r.opponentID ∧ c.matchID = r.matchID) ↔
        l'.service.clock < numericDate (issuing.issuedAt + m.ttl)) := by
  have h : Accounted m l' := by
    rw [← happly, ← hrun]
    exact ((start_accounted hnew).run actions).apply action
  obtain ⟨joinedAt, hentry⟩ := entry_of_answer hanswer hstatus
  rw [show l.service.apply sign action = l'.service by rw [← happly]; rfl] at hentry
  obtain ⟨held, hheld, hraw, hmatch, hsubject, hopponent⟩ :=
    h.entries p _ hentry hstatus
  refine ⟨⟨held, hheld, hraw⟩, fun issuing hissuing hsame => ?_⟩
  obtain ⟨hle, ticketID, matchID, playerID, opponentID, hclaims, -⟩ := h.dated issuing hissuing
  have hexpires : issuing.claims.expiresAt = numericDate (issuing.issuedAt + m.ttl) := by
    rw [hclaims]
    rfl
  have hstarted : issuing.claims.notBefore ≤ l'.service.clock := by
    rw [hclaims]
    exact Nat.le_trans (numericDate_le _) hle
  have hparse := hjwt issuing hissuing l'.service.clock
  rw [hsame, hexpires] at hparse
  constructor
  · rintro ⟨c, hverify, -⟩
    rw [MatchServer.verify_ok hverify] at hparse
    by_contra hlate
    rw [if_neg fun hlive => hlate hlive.2] at hparse
    cases hparse
  · intro hlive
    rw [if_pos ⟨hstarted, hlive⟩] at hparse
    have hparse' := hjwt held hheld l'.service.clock
    rw [hraw, hparse] at hparse'
    have heq : held.claims.toClaims = issuing.claims.toClaims := by
      split_ifs at hparse'
      exact (Option.some.inj hparse').symm
    obtain ⟨-, ticketID', matchID', playerID', opponentID', hclaims', hmatchID, hplayerID,
      hopponentID⟩ := h.dated held hheld
    have hnames : ¬ (held.claims.matchID = "" ∨ held.claims.toClaims.playerID = "" ∨
        held.claims.opponentID = "" ∨ held.claims.id = "") := by
      rw [hclaims']
      simp only [TicketManager.claims, Claims.playerID, not_or]
      exact ⟨hmatchID, hplayerID, hopponentID, ticketID'.nonempty⟩
    refine ⟨held.claims.toClaims, ?_, hsubject, hopponent, hmatch⟩
    rw [verify, hparse, ← heq]
    exact if_neg hnames

/-! ### A match half a second after the full one -/

/-- Alice and bob are matched half a second after the full one, for a minute. -/
def halfSecondCalls (duration : Nat) : List Action :=
  [.elapse 500000000, .join "alice" duelDraw, .join "bob" duelDraw, .elapse duration]

def halfSecondTickets : List Issuing :=
  [⟨500000000, duelService.tickets.claims 500000000 duelDraw.playerTicketID "match-1" "bob" "alice",
      "ticket-b"⟩,
    ⟨500000000, duelService.tickets.claims 500000000 duelDraw.opponentTicketID "match-1" "alice" "bob",
      "ticket-a"⟩]

def halfSecondParse (now : Nat) (raw : String) : Option Claims :=
  match halfSecondTickets.find? (fun issuing => issuing.raw = raw) with
  | none => none
  | some issuing =>
      if issuing.claims.notBefore ≤ now ∧ now < issuing.claims.expiresAt then
        some issuing.claims.toClaims
      else none

theorem halfSecondParse_parses : Parses halfSecondParse halfSecondTickets := by
  intro issuing hissuing now
  simp only [halfSecondTickets, List.mem_cons, List.not_mem_nil, or_false] at hissuing
  rcases hissuing with rfl | rfl <;> rfl

/-- What alice's status shows a minute, less a fifth of a second, after the match was made. -/
def halfSecondResult : Result where
  status := .matched
  matchID := "match-1"
  opponentID := "bob"
  serverAddr := "127.0.0.1:4433"
  matchTicket := "ticket-a"
  ticketExpiry := 60500000000

theorem handed_out_ticket_usable_iff_alice : ∃ c, verify halfSecondParse 30500000000 "ticket-a" = .ok c ∧
    c.playerID = "alice" ∧ c.opponentID = "bob" ∧ c.matchID = "match-1" := by
  have husable := handed_out_ticket_usable_iff (p := "alice") (r := halfSecondResult)
    duelService_new
    (rfl : (Ledger.start duelService).run (fun c => .ok c.id) (halfSecondCalls 30000000000) = _)
    (rfl : Ledger.apply (fun c => .ok c.id) _ (.playerStatus "alice") = _)
    (halfSecondParse_parses) (by decide +kernel) rfl
  exact (husable.2 _ (List.mem_cons_of_mem _ (List.mem_singleton_self _)) rfl).2 (by decide +kernel)

/-- In the last half second the queue hands out a ticket that no longer verifies. -/
theorem handed_out_ticket_expired :
    let l := (Ledger.start duelService).run (fun c => .ok c.id) (halfSecondCalls 59700000000)
    new (some duelService.tickets) "127.0.0.1:4433" 300000000000 0 = .ok duelService ∧
      Parses halfSecondParse (l.apply (fun c => .ok c.id) (.playerStatus "alice")).issuings ∧
      l.service.clock = 60200000000 ∧
      (l.service.playerStatus "alice").2 = halfSecondResult ∧
      verify halfSecondParse 60200000000 halfSecondResult.matchTicket = .error .invalid :=
  ⟨duelService_new, halfSecondParse_parses, rfl, by decide +kernel, by decide +kernel⟩

end PvpDuel.Matchmaking
