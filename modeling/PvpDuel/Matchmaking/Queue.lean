import PvpDuel.Matchmaking.Service

/-!
# The queue never strands two players

The map of entries and the list of waiting players are updated by different calls: `Leave` and the
expiry touch only the map, so the list can hold a stale name. It never holds more than one: a player
joins the list only after `nextWaiting` has emptied it.
-/

namespace PvpDuel.Matchmaking

/-- The list has at most one name, that of the waiting player if there is one, and nobody is matched
with itself. -/
structure Queued (s : Service) : Prop where
  listed : ∀ q, IsWaiting s.entries q → s.waiting = [q]
  short : s.waiting.length ≤ 1
  named : ∀ q ∈ s.waiting, q ≠ ""
  opponents : ∀ p current, s.entries p = some current → current.result.status = .matched →
    current.result.opponentID ≠ p

theorem new_queued {tickets : Option TicketManager} {serverAddr : String} {waitingTTL : Int}
    {clock : Nat} {s : Service} (h : new tickets serverAddr waitingTTL clock = .ok s) : Queued s := by
  unfold new at h
  split at h
  · cases h
  · split_ifs at h
    cases h
    constructor <;> simp [IsWaiting]

section

variable {sign : TicketClaims → Except String String} {s : Service}

theorem isWaiting_of_purgeExpired {now : Nat} {q : String}
    (h : IsWaiting (s.purgeExpired now).entries q) : IsWaiting s.entries q := by
  obtain ⟨current, hcurrent, hstatus⟩ := h
  exact ⟨current, (Service.purgeExpired_entry.1 hcurrent).1, hstatus⟩

theorem Queued.purgeExpired (h : Queued s) (now : Nat) : Queued (s.purgeExpired now) :=
  ⟨fun q hq => h.listed q (isWaiting_of_purgeExpired hq), h.short, h.named,
    fun p current hcurrent => h.opponents p current (Service.purgeExpired_entry.1 hcurrent).1⟩

/-- The only name on the list is the opponent that `nextWaiting` finds. -/
theorem Queued.nextWaiting_opponent (h : Queued s) {playerID q : String} {rest : List String}
    (hq : q ≠ "") (hfound : nextWaiting s.entries playerID s.waiting = (q, rest)) :
    q ≠ playerID ∧ IsWaiting s.entries q ∧ s.waiting = [q] ∧ rest = [] := by
  obtain ⟨hne, hwaiting, skipped, hlist⟩ := Service.nextWaiting_found hq hfound
  have hsingle := h.listed q hwaiting
  refine ⟨hne, hwaiting, hsingle, ?_⟩
  have hlength := congrArg List.length (hlist.symm.trans hsingle)
  simp only [List.length_append, List.length_cons, List.length_nil] at hlength
  exact List.eq_nil_of_length_eq_zero (by omega)

/-- Where `nextWaiting` finds nobody, it has emptied the list, and nobody else is waiting. -/
theorem Queued.nextWaiting_none (h : Queued s) {playerID : String} {rest : List String}
    (hfound : nextWaiting s.entries playerID s.waiting = ("", rest)) :
    rest = [] ∧ ∀ q, q ≠ playerID → ¬ IsWaiting s.entries q := by
  rcases nextWaiting_cases s.entries playerID s.waiting with
    ⟨hnone, hall⟩ | ⟨skipped, q, rest', hlist, hsome, -, -⟩
  · rw [hnone] at hfound
    refine ⟨(Prod.mk.inj hfound).2.symm, fun q hne hq => hall q ?_ hne hq⟩
    simp [h.listed q hq]
  · rw [hsome] at hfound
    refine absurd (Prod.mk.inj hfound).1 (h.named q ?_)
    simp [hlist]

/-- A player without a live entry who joins while another one waits is matched with it. -/
theorem Queued.join_matches (hsign : ∀ c, ∃ raw, sign c = .ok raw) (h : Queued s)
    {playerID q : String} (draw : Draw) (hplayer : playerID ≠ "") (hne : q ≠ playerID)
    (hnone : (s.purgeExpired s.clock).entries playerID = none)
    (hq : IsWaiting (s.purgeExpired s.clock).entries q) :
    ∃ playerTicket opponentTicket t, s.join sign playerID draw =
        (t, .ok (s.matchResults s.clock draw playerID q playerTicket opponentTicket).1) ∧
      t.waiting = [] ∧
      t.entries = Function.update (Function.update (s.purgeExpired s.clock).entries playerID (some
          ⟨(s.matchResults s.clock draw playerID q playerTicket opponentTicket).1, s.clock⟩)) q
        (some ⟨(s.matchResults s.clock draw playerID q playerTicket opponentTicket).2, s.clock⟩) := by
  have hpurged := h.purgeExpired s.clock
  obtain ⟨rfl, -⟩ | ⟨existing, hexisting, -⟩ |
    ⟨-, -, ⟨rest, hfound, -⟩ | ⟨q', rest, hq', hfound, heq⟩⟩ :=
    Service.join_cases sign s playerID draw
  · exact absurd rfl hplayer
  · rw [hnone] at hexisting
    cases hexisting
  · exact absurd hq ((hpurged.nextWaiting_none hfound).2 q hne)
  obtain ⟨hne', -, hlist, rfl⟩ := hpurged.nextWaiting_opponent hq' hfound
  obtain rfl : q' = q := by
    have hsame := hlist.symm.trans (hpurged.listed q hq)
    simpa using hsame
  rw [heq]
  rcases Service.pair_cases sign { s.purgeExpired s.clock with waiting := [] } s.clock draw hplayer
    hq' hne with ⟨_, _, -, ⟨c, text, herr⟩, -⟩ | ⟨playerTicket, opponentTicket, -, -, hpair⟩
  · obtain ⟨raw, hraw⟩ := hsign c
    rw [herr] at hraw
    cases hraw
  · exact ⟨playerTicket, opponentTicket, _, hpair, rfl, rfl⟩

theorem Queued.join (hsign : ∀ c, ∃ raw, sign c = .ok raw) (h : Queued s) (playerID : String)
    (draw : Draw) : Queued (s.join sign playerID draw).1 := by
  have hpurged := h.purgeExpired s.clock
  obtain ⟨-, heq⟩ | ⟨existing, -, heq⟩ |
    ⟨hplayer, hnone, ⟨rest, hfound, heq⟩ | ⟨q, rest, hq, hfound, -⟩⟩ :=
    Service.join_cases sign s playerID draw
  · rw [heq]
    exact h
  · rw [heq]
    exact hpurged
  · rw [heq]
    obtain ⟨rfl, hnobody⟩ := hpurged.nextWaiting_none hfound
    refine ⟨?_, by simp, by simpa using hplayer, ?_⟩
    · rintro q ⟨current, hcurrent, hstatus⟩
      by_cases heq : q = playerID
      · simp [heq]
      · simp only [ne_eq, heq, not_false_eq_true, Function.update_of_ne] at hcurrent
        exact absurd ⟨current, hcurrent, hstatus⟩ (hnobody q heq)
    · intro p current hcurrent hstatus
      by_cases heq : p = playerID
      · simp only [heq, Function.update_self, Option.some.injEq] at hcurrent
        subst hcurrent
        simp [Result.ofStatus] at hstatus
      · simp only [ne_eq, heq, not_false_eq_true, Function.update_of_ne] at hcurrent
        exact hpurged.opponents p current hcurrent hstatus
  · obtain ⟨hne, hwaiting, hlist, rfl⟩ := hpurged.nextWaiting_opponent hq hfound
    obtain ⟨playerTicket, opponentTicket, t, heq, hempty, hentries⟩ :=
      h.join_matches hsign draw hplayer hne hnone hwaiting
    rw [heq]
    refine ⟨?_, by simp [hempty], by simp [hempty], ?_⟩
    · rintro p ⟨current, hcurrent, hstatus⟩
      rw [hentries] at hcurrent
      rcases Service.entry_of_update hcurrent with ⟨-, rfl⟩ | ⟨-, rfl⟩ | ⟨hpq, -, hcurrent⟩
      · simp [Service.matchResults, Service.results] at hstatus
      · simp [Service.matchResults, Service.results] at hstatus
      · have hsame := (hpurged.listed p ⟨current, hcurrent, hstatus⟩).symm.trans hlist
        simp only [List.cons.injEq, and_true] at hsame
        exact absurd hsame hpq
    · intro p current hcurrent hstatus
      rw [hentries] at hcurrent
      rcases Service.entry_of_update hcurrent with ⟨rfl, rfl⟩ | ⟨rfl, rfl⟩ | ⟨-, -, hcurrent⟩
      · exact hne.symm
      · exact hne
      · exact hpurged.opponents p current hcurrent hstatus

theorem Queued.playerStatus (h : Queued s) (playerID : String) :
    Queued (s.playerStatus playerID).1 := by
  unfold Service.playerStatus
  dsimp only
  split <;> exact h.purgeExpired s.clock

theorem Queued.leave (h : Queued s) (playerID : String) : Queued (s.leave playerID) := by
  have hbefore : ∀ p current, (s.leave playerID).entries p = some current →
      s.entries p = some current := by
    intro p current hcurrent
    by_cases heq : p = playerID
    · simp [Service.leave, heq] at hcurrent
    · simpa [Service.leave, heq] using hcurrent
  refine ⟨?_, h.short, h.named, fun p current hcurrent => h.opponents p current (hbefore _ _ hcurrent)⟩
  rintro q ⟨current, hcurrent, hstatus⟩
  exact h.listed q ⟨current, hbefore _ _ hcurrent, hstatus⟩

theorem Queued.apply (hsign : ∀ c, ∃ raw, sign c = .ok raw) (h : Queued s) (action : Action) :
    Queued (s.apply sign action) := by
  cases action with
  | elapse duration => exact ⟨h.listed, h.short, h.named, h.opponents⟩
  | join playerID draw => exact h.join hsign playerID draw
  | playerStatus playerID => exact h.playerStatus playerID
  | leave playerID => exact h.leave playerID

theorem Queued.run (hsign : ∀ c, ∃ raw, sign c = .ok raw) (h : Queued s) (actions : List Action) :
    Queued (s.run sign actions) := by
  induction actions generalizing s with
  | nil => exact h
  | cons action actions ih => exact ih (h.apply hsign action)

end

/-- A matched entry is what `PlayerStatus` shows until its ticket expires. -/
theorem playerStatus_of_matched {s : Service} {playerID : String} {current : Entry} {duration : Nat}
    (hcurrent : s.entries playerID = some current) (hstatus : current.result.status = .matched)
    (hlive : s.clock + duration < current.result.ticketExpiry) :
    (Service.playerStatus { s with clock := s.clock + duration } playerID).2 = current.result := by
  have hentry : (Service.purgeExpired { s with clock := s.clock + duration }
      (s.clock + duration)).entries playerID = some current := by
    rw [Service.purgeExpired_entry]
    refine ⟨hcurrent, ?_⟩
    simpa [Service.Expired, hstatus] using hlive
  simp [Service.playerStatus, hentry]

/-- Where tickets can always be issued, in every history at most one player is waiting, and its name
is all there is on the list. So a player without a live entry who joins while another one waits is
matched with it, and both see the match until the ticket expires; nobody is matched with itself. -/
theorem queue_never_strands {sign : TicketClaims → Except String String}
    (hsign : ∀ c, ∃ raw, sign c = .ok raw) {tickets : Option TicketManager} {serverAddr : String}
    {waitingTTL : Int} {clock : Nat} {s₀ s : Service}
    (hnew : new tickets serverAddr waitingTTL clock = .ok s₀) {actions : List Action}
    (hrun : s₀.run sign actions = s) :
    (∀ p q, IsWaiting s.entries p → IsWaiting s.entries q → p = q) ∧
    (∀ q, IsWaiting s.entries q → s.waiting = [q]) ∧
    (∀ p q draw, p ≠ "" → q ≠ p → (s.purgeExpired s.clock).entries p = none →
      IsWaiting (s.purgeExpired s.clock).entries q →
      ∃ t mine theirs, s.join sign p draw = (t, .ok mine) ∧
        mine.status = .matched ∧ mine.opponentID = q ∧
        theirs.status = .matched ∧ theirs.opponentID = p ∧ theirs.matchID = mine.matchID ∧
        (∃ joinedAt, t.entries p = some ⟨mine, joinedAt⟩ ∧ t.entries q = some ⟨theirs, joinedAt⟩) ∧
        ∀ duration, t.clock + duration < mine.ticketExpiry →
          (Service.playerStatus { t with clock := t.clock + duration } p).2 = mine ∧
          (Service.playerStatus { t with clock := t.clock + duration } q).2 = theirs) ∧
    (∀ p current, s.entries p = some current → current.result.status = .matched →
      current.result.opponentID ≠ p) ∧
    ∀ p draw result, (s.join sign p draw).2 = .ok result → result.status = .matched →
      result.opponentID ≠ p := by
  have h : Queued s := hrun ▸ (new_queued hnew).run hsign actions
  refine ⟨?_, h.listed, ?_, h.opponents, ?_⟩
  · intro p q hp hq
    simpa using (h.listed p hp).symm.trans (h.listed q hq)
  · intro p q draw hp hne hnone hq
    obtain ⟨playerTicket, opponentTicket, t, heq, -, hentries⟩ :=
      h.join_matches hsign draw hp hne hnone hq
    have hmine := congrFun hentries p
    rw [Function.update_of_ne hne.symm, Function.update_self] at hmine
    have htheirs := congrFun hentries q
    rw [Function.update_self] at htheirs
    exact ⟨t, _, (s.matchResults s.clock draw p q playerTicket opponentTicket).2, heq, rfl, rfl, rfl,
      rfl, rfl, ⟨s.clock, hmine, htheirs⟩,
      fun duration hlive => ⟨playerStatus_of_matched hmine rfl hlive,
        playerStatus_of_matched htheirs rfl hlive⟩⟩
  · intro p draw result hresult hstatus
    obtain ⟨joinedAt, hentry⟩ := Service.join_entry hresult
    exact (h.join hsign p draw).opponents p _ hentry hstatus

/-- A service whose tickets are signed by their UUIDs. -/
def duelService : Service where
  tickets := ⟨"gateway", "matchserver", 60000000000, by decide⟩
  serverAddr := "127.0.0.1:4433"
  waitingTTL := 300000000000
  clock := 0
  entries := fun _ => none
  waiting := []

def duelDraw : Draw :=
  ⟨⟨"match-1", by decide⟩, ⟨"ticket-b", by decide⟩, ⟨"ticket-a", by decide⟩, 0, 0⟩

theorem duelService_new : new (some duelService.tickets) "127.0.0.1:4433" 300000000000 0 =
    .ok duelService := rfl

/-- The wait of carol expires, and alice leaves and comes back. -/
def rejoinCalls : List Action :=
  [.join "carol" duelDraw, .elapse 300000000000, .join "alice" duelDraw, .leave "alice",
    .join "alice" duelDraw]

/-- Whoever joins next is matched with alice. -/
theorem queue_never_strands_rejoin : ∃ t mine theirs,
    (duelService.run (fun c => .ok c.id) rejoinCalls).join (fun c => .ok c.id) "bob" duelDraw =
      (t, .ok mine) ∧ mine.opponentID = "alice" ∧ theirs.opponentID = "bob" ∧
      ∃ joinedAt, t.entries "bob" = some ⟨mine, joinedAt⟩ ∧
        t.entries "alice" = some ⟨theirs, joinedAt⟩ := by
  have hnever := queue_never_strands (fun c => ⟨c.id, rfl⟩) duelService_new
    (rfl : duelService.run (fun c => .ok c.id) rejoinCalls = _)
  obtain ⟨t, mine, theirs, hjoin, -, hmine, -, htheirs, -, hentries, -⟩ :=
    hnever.2.2.1 "bob" "alice" duelDraw (by decide) (by decide) (by decide +kernel)
      ⟨⟨Result.ofStatus .waiting, 300000000000⟩, by decide +kernel, rfl⟩
  exact ⟨t, mine, theirs, hjoin, hmine, htheirs, hentries⟩

end PvpDuel.Matchmaking
