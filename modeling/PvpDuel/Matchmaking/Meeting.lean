import PvpDuel.Matchmaking.Queue
import PvpDuel.MatchServer.Arrival
import PvpDuel.MatchServer.Replay

/-!
# A matched pair can meet

The service and the match server share nothing but the tickets. A history of the service records the
tickets it signed and the results it returned; where every match has a UUID of its own, the tickets
of a match are the two of its players, which face each other. With a JWT library that accepts these
tickets and no others, the two calls that present them get the two sessions of one match.
-/

namespace PvpDuel.Matchmaking

open MatchServer (Claims Attempt Faces Manager Coming attempts newMatchManager trimSpace)

/-! ### Histories -/

namespace Service

/-- The tickets that a call signs, with their claims. -/
def signed (sign : TicketClaims → Except String String) (s : Service) :
    Action → List (TicketClaims × String)
  | .join playerID draw =>
      let live := s.purgeExpired s.clock
      if playerID = "" ∨ (live.entries playerID).isSome then []
      else
        let opponentID := (nextWaiting live.entries playerID s.waiting).1
        if opponentID = "" then []
        else
          let claims := s.matchClaims s.clock draw playerID opponentID
          match sign claims.1 with
          | .error _ => []
          | .ok playerTicket =>
              match sign claims.2 with
              | .error _ => [(claims.1, playerTicket)]
              | .ok opponentTicket => [(claims.1, playerTicket), (claims.2, opponentTicket)]
  | _ => []

/-- The results that a call returns, with the player it returns them to. -/
def answers (sign : TicketClaims → Except String String) (s : Service) :
    Action → List (String × Result)
  | .join playerID draw =>
      match (s.join sign playerID draw).2 with
      | .error _ => []
      | .ok result => [(playerID, result)]
  | .playerStatus playerID => [(playerID, (s.playerStatus playerID).2)]
  | _ => []

end Service

/-- A service, all tickets it signed and all results it returned. -/
structure History where
  service : Service
  tickets : List (TicketClaims × String)
  results : List (String × Result)

namespace History

def start (s : Service) : History := ⟨s, [], []⟩

def apply (sign : TicketClaims → Except String String) (h : History) (action : Action) : History where
  service := h.service.apply sign action
  tickets := h.tickets ++ h.service.signed sign action
  results := h.results ++ h.service.answers sign action

def run (sign : TicketClaims → Except String String) (h : History) (actions : List Action) :
    History := actions.foldl (apply sign) h

end History

/-- The UUID that the match of a call gets, if it makes one. -/
def Action.matchID : Action → Option String
  | .join _ draw => some draw.matchID.text
  | _ => none

/-- The result's ticket carries its match ID, the player as subject and the opponent as opponent. -/
def Carries (tickets : List (TicketClaims × String)) (playerID : String) (r : Result) : Prop :=
  ∃ c, (c, r.matchTicket) ∈ tickets ∧ c.matchID = r.matchID ∧ c.subject = playerID ∧
    c.opponentID = r.opponentID

theorem Carries.mono {tickets : List (TicketClaims × String)} {playerID : String} {r : Result}
    (h : Carries tickets playerID r) (new : List (TicketClaims × String)) :
    Carries (tickets ++ new) playerID r := by
  obtain ⟨c, hc, hfields⟩ := h
  exact ⟨c, List.mem_append_left _ hc, hfields⟩

/-- The tickets of a match are those of its two players, and every result comes with its ticket. -/
structure Recorded (h : History) (drawn : List String) : Prop where
  drawn : ∀ t ∈ h.tickets, t.1.matchID ∈ drawn
  sound : ∀ t ∈ h.tickets,
    t.1.matchID ≠ "" ∧ t.1.subject ≠ "" ∧ t.1.opponentID ≠ "" ∧ t.1.id ≠ "" ∧
      t.1.opponentID ≠ t.1.subject
  pair : ∀ t ∈ h.tickets, ∀ t' ∈ h.tickets, t.1.matchID = t'.1.matchID →
    t = t' ∨ Faces t.1.toClaims t'.1.toClaims
  entries : ∀ p current, h.service.entries p = some current → current.result.status = .matched →
    Carries h.tickets p current.result
  results : ∀ p r, (p, r) ∈ h.results → r.status = .matched → Carries h.tickets p r

variable {sign : TicketClaims → Except String String}

/-- What a call signs is one of the two tickets of a match between the player and another. -/
theorem mem_signed {s : Service} {playerID : String} {draw : Draw} {t : TicketClaims × String}
    (ht : t ∈ s.signed sign (.join playerID draw)) : ∃ opponentID rest, playerID ≠ "" ∧
      opponentID ≠ "" ∧ nextWaiting (s.purgeExpired s.clock).entries playerID s.waiting =
        (opponentID, rest) ∧ sign t.1 = .ok t.2 ∧
      (t.1 = (s.matchClaims s.clock draw playerID opponentID).1 ∨
        t.1 = (s.matchClaims s.clock draw playerID opponentID).2) := by
  unfold Service.signed at ht
  dsimp only at ht
  split_ifs at ht with hplayer hopponent
  · cases ht
  · cases ht
  push Not at hplayer
  refine ⟨_, (nextWaiting (s.purgeExpired s.clock).entries playerID s.waiting).2, hplayer.1,
    hopponent, rfl, ?_⟩
  split at ht
  · cases ht
  · split at ht
    · obtain rfl := List.mem_singleton.1 ht
      exact ⟨‹_›, .inl rfl⟩
    · rcases List.mem_cons.1 ht with rfl | ht
      · exact ⟨‹_›, .inl rfl⟩
      · obtain rfl := List.mem_singleton.1 ht
        exact ⟨‹_›, .inr rfl⟩

theorem signed_of_pair {s : Service} {playerID opponentID playerTicket opponentTicket : String}
    {draw : Draw} {rest : List String} (hplayer : playerID ≠ "")
    (hnone : (s.purgeExpired s.clock).entries playerID = none) (hopponent : opponentID ≠ "")
    (hfound : nextWaiting (s.purgeExpired s.clock).entries playerID s.waiting = (opponentID, rest))
    (hfirst : sign (s.matchClaims s.clock draw playerID opponentID).1 = .ok playerTicket)
    (hsecond : sign (s.matchClaims s.clock draw playerID opponentID).2 = .ok opponentTicket) :
    s.signed sign (.join playerID draw) =
      [((s.matchClaims s.clock draw playerID opponentID).1, playerTicket),
        ((s.matchClaims s.clock draw playerID opponentID).2, opponentTicket)] := by
  simp [Service.signed, hplayer, hnone, hfound, hopponent, hfirst, hsecond]

theorem Recorded.extend {hist hist' : History} {drawn ids : List String}
    {new : List (TicketClaims × String)} (h : Recorded hist drawn)
    (htickets : hist'.tickets = hist.tickets ++ new) (hids : ∀ t ∈ new, t.1.matchID ∈ ids)
    (hfresh : ∀ id ∈ ids, id ∉ drawn)
    (hsound : ∀ t ∈ new, t.1.matchID ≠ "" ∧ t.1.subject ≠ "" ∧ t.1.opponentID ≠ "" ∧
      t.1.id ≠ "" ∧ t.1.opponentID ≠ t.1.subject)
    (hpair : ∀ t ∈ new, ∀ t' ∈ new, t = t' ∨ Faces t.1.toClaims t'.1.toClaims)
    (hentries : ∀ p current, hist'.service.entries p = some current →
      current.result.status = .matched → hist.service.entries p = some current ∨
        Carries hist'.tickets p current.result)
    (hresults : ∀ p r, (p, r) ∈ hist'.results → r.status = .matched →
      (p, r) ∈ hist.results ∨ Carries hist'.tickets p r) : Recorded hist' (drawn ++ ids) := by
  have hnew : ∀ t ∈ hist.tickets, ∀ t' ∈ new, t.1.matchID ≠ t'.1.matchID := by
    intro t ht t' ht' heq
    exact hfresh _ (hids t' ht') (heq ▸ h.drawn t ht)
  constructor
  · intro t ht
    rw [htickets, List.mem_append] at ht
    rcases ht with ht | ht
    · exact List.mem_append_left _ (h.drawn t ht)
    · exact List.mem_append_right _ (hids t ht)
  · intro t ht
    rw [htickets, List.mem_append] at ht
    exact ht.elim (h.sound t) (hsound t)
  · intro t ht t' ht' heq
    rw [htickets, List.mem_append] at ht ht'
    rcases ht with ht | ht <;> rcases ht' with ht' | ht'
    · exact h.pair t ht t' ht' heq
    · exact absurd heq (hnew t ht t' ht')
    · exact absurd heq.symm (hnew t' ht' t ht)
    · exact hpair t ht t' ht'
  · intro p current hcurrent hstatus
    rcases hentries p current hcurrent hstatus with hold | hcarries
    · rw [htickets]
      exact (h.entries p current hold hstatus).mono new
    · exact hcarries
  · intro p r hr hstatus
    rcases hresults p r hr hstatus with hold | hcarries
    · rw [htickets]
      exact (h.results p r hold hstatus).mono new
    · exact hcarries

theorem matchClaims_faces (s : Service) (now : Nat) (draw : Draw) {playerID opponentID : String}
    (hne : opponentID ≠ playerID) :
    Faces (s.matchClaims now draw playerID opponentID).1.toClaims
      (s.matchClaims now draw playerID opponentID).2.toClaims :=
  ⟨rfl, hne.symm, rfl, rfl⟩

/-- A matched entry after a call of `Join` was there before, or comes with a ticket it signed. -/
theorem join_entries {s : Service} {playerID : String} {draw : Draw} {p : String} {current : Entry}
    (hcurrent : (s.join sign playerID draw).1.entries p = some current)
    (hstatus : current.result.status = .matched) : s.entries p = some current ∨
      Carries (s.signed sign (.join playerID draw)) p current.result := by
  obtain ⟨-, heq⟩ | ⟨existing, -, heq⟩ | ⟨hplayer, hnone, ⟨rest, -, heq⟩ |
    ⟨q, rest, hq, hfound, heq⟩⟩ := Service.join_cases sign s playerID draw
  · rw [heq] at hcurrent
    exact .inl hcurrent
  · rw [heq] at hcurrent
    exact .inl (Service.purgeExpired_entry.1 hcurrent).1
  · rw [heq] at hcurrent
    by_cases hp : p = playerID
    · simp only [hp, Function.update_self, Option.some.injEq] at hcurrent
      subst hcurrent
      simp [Result.ofStatus] at hstatus
    · simp only [ne_eq, hp, not_false_eq_true, Function.update_of_ne] at hcurrent
      exact .inl (Service.purgeExpired_entry.1 hcurrent).1
  · obtain ⟨hne, -⟩ := Service.nextWaiting_found hq hfound
    rw [heq] at hcurrent
    rcases Service.pair_cases sign { s.purgeExpired s.clock with waiting := rest } s.clock draw
      hplayer hq hne with ⟨_, _, -, -, hpair⟩ | ⟨playerTicket, opponentTicket, hfirst, hsecond, hpair⟩
    · rw [hpair] at hcurrent
      exact .inl (Service.purgeExpired_entry.1 hcurrent).1
    · rw [hpair] at hcurrent
      rw [signed_of_pair hplayer hnone hq hfound hfirst hsecond]
      rcases Service.entry_of_update hcurrent with ⟨rfl, rfl⟩ | ⟨rfl, rfl⟩ | ⟨-, -, hcurrent⟩
      · exact .inr ⟨_, List.mem_cons_of_mem _ (List.mem_singleton_self _), rfl, rfl, rfl⟩
      · exact .inr ⟨_, List.mem_cons_self, rfl, rfl, rfl⟩
      · exact .inl (Service.purgeExpired_entry.1 hcurrent).1

theorem Recorded.join {hist : History} {drawn : List String} (h : Recorded hist drawn)
    (playerID : String) (draw : Draw) (hfresh : draw.matchID.text ∉ drawn) :
    Recorded (hist.apply sign (.join playerID draw)) (drawn ++ [draw.matchID.text]) := by
  refine h.extend rfl ?_ (by simpa using hfresh) ?_
    ?_ ?_ ?_
  · intro t ht
    obtain ⟨q, rest, -, -, -, -, heq | heq⟩ := mem_signed ht <;> rw [heq] <;>
      simp [Service.matchClaims, TicketManager.claims]
  · intro t ht
    obtain ⟨q, rest, hplayer, hq, hfound, -, hcase⟩ := mem_signed ht
    obtain ⟨hne, -⟩ := Service.nextWaiting_found hq hfound
    rcases hcase with heq | heq <;> rw [heq]
    · exact ⟨draw.matchID.nonempty, hplayer, hq, draw.playerTicketID.nonempty, hne⟩
    · exact ⟨draw.matchID.nonempty, hq, hplayer, draw.opponentTicketID.nonempty, hne.symm⟩
  · intro t ht t' ht'
    obtain ⟨q, rest, -, hq, hfound, hsign, hcase⟩ := mem_signed ht
    obtain ⟨q', rest', -, -, hfound', hsign', hcase'⟩ := mem_signed ht'
    obtain ⟨rfl, -⟩ := Prod.mk.inj (hfound.symm.trans hfound')
    obtain ⟨hne, -⟩ := Service.nextWaiting_found hq hfound
    have hfaces := matchClaims_faces hist.service hist.service.clock draw hne
    have hsame : t.1 = t'.1 → t = t' := by
      intro heq
      rw [heq, hsign'] at hsign
      exact Prod.ext heq (Except.ok.inj hsign).symm
    rcases hcase with heq | heq <;> rcases hcase' with heq' | heq'
    · exact .inl (hsame (heq.trans heq'.symm))
    · rw [heq, heq']
      exact .inr hfaces
    · rw [heq, heq']
      exact .inr hfaces.symm
    · exact .inl (hsame (heq.trans heq'.symm))
  · intro p current hcurrent hstatus
    rcases join_entries hcurrent hstatus with hold | ⟨c, hc, hfields⟩
    · exact .inl hold
    · exact .inr ⟨c, List.mem_append_right _ hc, hfields⟩
  · intro p r hr hstatus
    rcases List.mem_append.1 hr with hold | hnew
    · exact .inl hold
    right
    unfold Service.answers at hnew
    dsimp only at hnew
    split at hnew
    · cases hnew
    · obtain ⟨rfl, rfl⟩ := Prod.mk.inj (List.mem_singleton.1 hnew)
      obtain ⟨joinedAt, hentry⟩ := Service.join_entry ‹_›
      rcases join_entries hentry hstatus with hold | ⟨c, hc, hfields⟩
      · exact (h.entries _ _ hold hstatus).mono _
      · exact ⟨c, List.mem_append_right _ hc, hfields⟩

/-- A call that signs nothing, adds no entry and returns the result of one at most. -/
theorem Recorded.quiet {hist : History} {drawn : List String} (h : Recorded hist drawn)
    {action : Action} (hsigned : hist.service.signed sign action = [])
    (hid : action.matchID = none)
    (hentries : ∀ p current, (hist.service.apply sign action).entries p = some current →
      hist.service.entries p = some current)
    (hanswers : ∀ p r, (p, r) ∈ hist.service.answers sign action → r.status = .matched →
      ∃ current, hist.service.entries p = some current ∧ current.result = r) :
    Recorded (hist.apply sign action) (drawn ++ action.matchID.toList) := by
  refine h.extend rfl ?_ (by simp [hid]) ?_ ?_
    (fun p current hcurrent _ => .inl (hentries p current hcurrent)) ?_
  · simp [hsigned]
  · simp [hsigned]
  · simp [hsigned]
  · intro p r hr hstatus
    rcases List.mem_append.1 hr with hold | hnew
    · exact .inl hold
    · obtain ⟨current, hcurrent, rfl⟩ := hanswers p r hnew hstatus
      exact .inr ((h.entries p current hcurrent hstatus).mono _)

theorem Recorded.apply {hist : History} {drawn : List String} (h : Recorded hist drawn)
    (action : Action) (hfresh : ∀ id ∈ action.matchID.toList, id ∉ drawn) :
    Recorded (hist.apply sign action) (drawn ++ action.matchID.toList) := by
  cases action with
  | elapse duration =>
      exact h.quiet rfl rfl (fun _ _ hcurrent => hcurrent) (by simp [Service.answers])
  | join playerID draw => exact h.join playerID draw (hfresh _ (List.mem_singleton_self _))
  | playerStatus playerID =>
      have hpurged : (hist.service.playerStatus playerID).1 =
          hist.service.purgeExpired hist.service.clock := by
        unfold Service.playerStatus
        dsimp only
        split <;> rfl
      refine h.quiet rfl rfl (fun p current hcurrent => ?_) fun p r hr hstatus => ?_
      · rw [Service.apply, hpurged] at hcurrent
        exact (Service.purgeExpired_entry.1 hcurrent).1
      · obtain ⟨rfl, rfl⟩ := Prod.mk.inj (List.mem_singleton.1 hr)
        unfold Service.playerStatus at hstatus ⊢
        dsimp only at hstatus ⊢
        split at hstatus
        · rename_i existing hexisting
          exact ⟨existing, (Service.purgeExpired_entry.1 hexisting).1, by simp⟩
        · simp [Result.ofStatus] at hstatus
  | leave playerID =>
      refine h.quiet rfl rfl (fun p current hcurrent => ?_) (by simp [Service.answers])
      by_cases hp : p = playerID
      · simp [Service.apply, Service.leave, hp] at hcurrent
      · simpa [Service.apply, Service.leave, hp] using hcurrent

theorem Recorded.run {hist : History} {drawn : List String} (h : Recorded hist drawn)
    {actions : List Action} (hfresh : (drawn ++ actions.filterMap Action.matchID).Nodup) :
    ∃ drawn', Recorded (hist.run sign actions) drawn' := by
  induction actions generalizing hist drawn with
  | nil => exact ⟨drawn, h⟩
  | cons action actions ih =>
      have hsplit : (action :: actions).filterMap Action.matchID =
          action.matchID.toList ++ actions.filterMap Action.matchID := by
        cases hid : action.matchID <;> simp [hid]
      rw [hsplit, ← List.append_assoc] at hfresh
      refine ih (h.apply action fun id hin hdrawn => ?_) hfresh
      have hnodup := (List.nodup_append.1 (List.nodup_append.1 hfresh).1).2.2
      exact hnodup id hdrawn id hin rfl

/-! ### Verified tickets -/

/-- The library accepts exactly these tickets, before their expiry, and returns the signed claims. -/
structure Verifies (parse : Nat → String → Option Claims) (tickets : List (TicketClaims × String)) :
    Prop where
  accepts : ∀ now c raw, (c, raw) ∈ tickets → now < c.expiresAt → parse now raw = some c.toClaims
  only : ∀ now raw c, parse now raw = some c →
    now < c.expiresAt ∧ ∃ signed, (signed, raw) ∈ tickets ∧ signed.toClaims = c

variable {parse : Nat → String → Option Claims} {hist : History} {drawn : List String}

theorem Recorded.claims_of_ticket (h : Recorded hist drawn) (hjwt : Verifies parse hist.tickets)
    {c : TicketClaims} {raw : String} {now : Nat} (hc : (c, raw) ∈ hist.tickets)
    (hlive : now < c.expiresAt) (hspaces : trimSpace c.subject = c.subject) :
    Attempt.claims parse ⟨now, ⟨c.subject, raw⟩⟩ = some c.toClaims := by
  obtain ⟨hmatch, hsubject, hopponent, hid, -⟩ := h.sound _ hc
  simp [Attempt.claims, MatchServer.verify, hjwt.accepts now c raw hc hlive, hmatch, hopponent, hid,
    Claims.playerID, hsubject, hspaces]

/-- Claims for the match of a pair are those of its two tickets, each presented by its player. -/
theorem Recorded.claims_of_pair (h : Recorded hist drawn) (hjwt : Verifies parse hist.tickets)
    {c c' : TicketClaims} {raw raw' : String} (hc : (c, raw) ∈ hist.tickets)
    (hc' : (c', raw') ∈ hist.tickets) (hfaces : Faces c.toClaims c'.toClaims) {att : Attempt}
    {found : Claims} (hfound : att.claims parse = some found) (hid : found.matchID = c.matchID) :
    (trimSpace att.request.playerID = c.subject ∧ att.request.matchToken = raw) ∨
      (trimSpace att.request.playerID = c'.subject ∧ att.request.matchToken = raw') := by
  obtain ⟨hverify, hplayer, -⟩ := Attempt.claims_ok hfound
  obtain ⟨-, signed, hsigned, rfl⟩ := hjwt.only _ _ _ (MatchServer.verify_ok hverify)
  rcases h.pair _ hsigned _ hc hid with heq | hother
  · obtain ⟨rfl, htoken⟩ := Prod.mk.inj heq
    exact .inl ⟨hplayer.symm, htoken⟩
  · rcases h.pair _ hsigned _ hc' (hid.trans hfaces.matchID) with heq | hother'
    · obtain ⟨rfl, htoken⟩ := Prod.mk.inj heq
      exact .inr ⟨hplayer.symm, htoken⟩
    · exact absurd (hother.opponent'.symm.trans hfaces.opponent) hother'.players

/-- What a history of the service signs is what the match server takes for granted of its tickets. -/
theorem Recorded.tickets (h : Recorded hist drawn) (hjwt : Verifies parse hist.tickets) :
    MatchServer.Tickets parse := by
  refine ⟨fun now raw c hparse => (hjwt.only now raw c hparse).1, ?_, ?_⟩
  · rintro c c' ⟨now, raw, hparse⟩ ⟨now', raw', hparse'⟩ hid hplayer
    obtain ⟨-, signed, hsigned, rfl⟩ := hjwt.only _ _ _ hparse
    obtain ⟨-, signed', hsigned', rfl⟩ := hjwt.only _ _ _ hparse'
    rcases h.pair _ hsigned _ hsigned' hid with heq | hfaces
    · rw [(Prod.mk.inj heq).1]
    · exact absurd hplayer hfaces.players
  · rintro c c' ⟨now, raw, hparse⟩ ⟨now', raw', hparse'⟩ hid
    obtain ⟨-, signed, hsigned, rfl⟩ := hjwt.only _ _ _ hparse
    obtain ⟨-, signed', hsigned', rfl⟩ := hjwt.only _ _ _ hparse'
    rcases h.pair _ hsigned _ hsigned' hid with heq | hfaces
    · exact .inl (by rw [(Prod.mk.inj heq).1])
    · exact .inr hfaces.opponent.symm

/-- The calls `i` and `j` of a run from `s` present the two tickets, unexpired and once each, and are
not canceled. All others come as another player or with another ticket. -/
structure Presented (s : Manager) (calls : List MatchServer.Action) (c c' : TicketClaims)
    (raw raw' : String) (i j : Nat) : Prop where
  first : ∃ k now, i = s.calls.length + k ∧
    (attempts s.clock calls)[k]? = some ⟨now, ⟨c.subject, raw⟩⟩ ∧ now < c.expiresAt
  second : ∃ k now, j = s.calls.length + k ∧
    (attempts s.clock calls)[k]? = some ⟨now, ⟨c'.subject, raw'⟩⟩ ∧ now < c'.expiresAt
  others : ∀ (k : Nat) att, (attempts s.clock calls)[k]? = some att → s.calls.length + k ≠ i →
    s.calls.length + k ≠ j →
      ¬ (trimSpace att.request.playerID = c.subject ∧ att.request.matchToken = raw) ∧
      ¬ (trimSpace att.request.playerID = c'.subject ∧ att.request.matchToken = raw')
  stays : .cancel i ∉ calls
  stays' : .cancel j ∉ calls

theorem Recorded.coming (h : Recorded hist drawn) (hjwt : Verifies parse hist.tickets)
    (hspaces : ∀ t ∈ hist.tickets, trimSpace t.1.subject = t.1.subject) {c c' : TicketClaims}
    {raw raw' : String} (hc : (c, raw) ∈ hist.tickets) (hc' : (c', raw') ∈ hist.tickets)
    (hfaces : Faces c.toClaims c'.toClaims) {s : Manager} {calls : List MatchServer.Action}
    {i j : Nat} (hpresented : Presented s calls c c' raw raw' i j) :
    i ≠ j ∧ Coming parse s i j c.toClaims c'.toClaims calls := by
  obtain ⟨x, now, hi, hx, hlive⟩ := hpresented.first
  obtain ⟨y, now', hj, hy, hlive'⟩ := hpresented.second
  refine ⟨?_, ⟨?_, ?_, ?_, hpresented.stays, hpresented.stays'⟩⟩
  · intro heq
    obtain rfl : x = y := by omega
    have hsame := hx.symm.trans hy
    simp only [Option.some.injEq, Attempt.mk.injEq, MatchServer.AuthenticateRequest.mk.injEq]
      at hsame
    exact hfaces.players hsame.2.1
  · intro k att hatt heq
    obtain rfl : k = x := by omega
    obtain rfl := Option.some.inj (hx.symm.trans hatt)
    exact h.claims_of_ticket hjwt hc hlive (hspaces (c, raw) hc)
  · intro k att hatt heq
    obtain rfl : k = y := by omega
    obtain rfl := Option.some.inj (hy.symm.trans hatt)
    exact h.claims_of_ticket hjwt hc' hlive' (hspaces (c', raw') hc')
  · intro k att found hatt hki hkj hfound hid
    obtain ⟨hfirst, hsecond⟩ := hpresented.others k att hatt hki hkj
    exact (h.claims_of_pair hjwt hc hc' hfaces hfound hid).elim hfirst hsecond

theorem start_recorded {tickets : Option TicketManager} {serverAddr : String} {waitingTTL : Int}
    {clock : Nat} {s : Service} (hnew : new tickets serverAddr waitingTTL clock = .ok s) :
    Recorded (History.start s) [] := by
  have hnone : ∀ p, s.entries p = none := by
    unfold new at hnew
    split at hnew
    · cases hnew
    · split_ifs at hnew
      cases hnew
      simp
  constructor <;> simp [History.start, hnone]

/-- In every history of the service with a fresh UUID for every match, a match ID is returned to two
players at most, who are named as each other's opponents, and each result comes with a ticket that
says so. Where the two players of a match present their tickets once each, in either order, to a match
server that has no mark for the match and runs no call for it, they get its two sessions: after four
steps of theirs both have returned them, before that one of them has a step to take other than to give
up, and none of their steps fails. All other calls, which come as another player or with another ticket,
return no session of the match. -/
theorem matched_pair_meets {tickets : Option TicketManager} {serverAddr : String} {waitingTTL : Int}
    {start : Nat} {s₀ : Service} (hnew : new tickets serverAddr waitingTTL start = .ok s₀)
    {actions : List Action} (hrun : (History.start s₀).run sign actions = hist)
    (hfresh : (actions.filterMap Action.matchID).Nodup) (hjwt : Verifies parse hist.tickets)
    (hspaces : ∀ t ∈ hist.tickets, trimSpace t.1.subject = t.1.subject) :
    (∀ p r, (p, r) ∈ hist.results → r.status = .matched → Carries hist.tickets p r ∧
      r.opponentID ≠ p ∧ ∀ p' r', (p', r') ∈ hist.results → r'.status = .matched →
        r'.matchID = r.matchID → (p' = p ∧ r'.opponentID = r.opponentID) ∨
          (p' = r.opponentID ∧ r'.opponentID = p)) ∧
    ∀ c raw c' raw', (c, raw) ∈ hist.tickets → (c', raw') ∈ hist.tickets →
      Faces c.toClaims c'.toClaims → ∀ clock past s calls t i j,
      Transition.run (MatchServer.next parse) (newMatchManager clock) past = some s →
      s.Unmatched c.matchID → s.used c.matchID = none →
      Transition.run (MatchServer.next parse) s calls = some t →
      Presented s calls c c' raw raw' i j →
        MatchServer.ownSteps i j calls ≤ 4 ∧
        (MatchServer.ownSteps i j calls = 4 →
          ∃ game, t.calls[i]? = some (.returned (.ok ⟨game, c.subject⟩)) ∧
            t.calls[j]? = some (.returned (.ok ⟨game, c'.subject⟩))) ∧
        (MatchServer.ownSteps i j calls ≠ 4 →
          ∃ action u, (action.call = some i ∨ action.call = some j) ∧
            (∀ call, action ≠ .cancel call) ∧ MatchServer.next parse t action = some u) ∧
        (∀ call err, call = i ∨ call = j → t.calls[call]? ≠ some (.returned (.error err))) ∧
        ∀ (call : Nat) session game, call ≠ i → call ≠ j →
          t.calls[call]? = some (.returned (.ok session)) → t.started[session.game]? = some game →
            game.matchID ≠ c.matchID := by
  obtain ⟨drawn, h⟩ : ∃ drawn, Recorded hist drawn :=
    hrun ▸ (start_recorded hnew).run (by simpa using hfresh)
  refine ⟨?_, ?_⟩
  · intro p r hr hstatus
    obtain ⟨c, hc, hid, rfl, hopponent⟩ := h.results p r hr hstatus
    refine ⟨⟨c, hc, hid, rfl, hopponent⟩, ?_, ?_⟩
    · exact hopponent ▸ (h.sound _ hc).2.2.2.2
    · intro p' r' hr' hstatus' hsame
      obtain ⟨c', hc', hid', rfl, hopponent'⟩ := h.results p' r' hr' hstatus'
      rcases h.pair _ hc _ hc' (hid.trans (hsame.symm.trans hid'.symm)) with heq | hfaces
      · left
        rw [← hopponent, ← hopponent', (Prod.mk.inj heq).1]
        exact ⟨rfl, rfl⟩
      · right
        rw [← hopponent, ← hopponent']
        exact ⟨hfaces.opponent.symm, hfaces.opponent'⟩
  · intro c raw c' raw' hc hc' hfaces clock past s calls t i j hpast hunmatched hmark hcalls hpresented
    obtain ⟨hne, hcoming⟩ := h.coming hjwt hspaces hc hc' hfaces hpresented
    obtain ⟨x, now, hi, hx, -⟩ := hpresented.first
    obtain ⟨y, now', hj, hy, -⟩ := hpresented.second
    have hbegun : ∀ (k : Nat) att, (attempts s.clock calls)[k]? = some att →
        s.calls.length + k < t.calls.length := by
      intro k att hatt
      have hlt := (List.getElem?_eq_some_iff.1 hatt).1
      have hcount := ((MatchServer.Paired.run hpast).run_from hcalls).counted
      rw [List.length_append, (MatchServer.Paired.run hpast).counted] at hcount
      omega
    obtain ⟨hsteps, hmeet, hgoes, herr, helse⟩ := MatchServer.arrive hpast hcalls hfaces hne (by omega)
      (by omega) hcoming hunmatched hmark (hi ▸ hbegun x _ hx) (hj ▸ hbegun y _ hy)
    exact ⟨hsteps, hmeet, hgoes, herr, helse.unmet⟩

/-- A library that accepts the tickets of alice and bob. -/
def meetingTickets : List (TicketClaims × String) :=
  [(duelService.tickets.claims 0 duelDraw.playerTicketID "match-1" "bob" "alice", "ticket-b"),
    (duelService.tickets.claims 0 duelDraw.opponentTicketID "match-1" "alice" "bob", "ticket-a")]

def meetingParse (now : Nat) (raw : String) : Option Claims :=
  match meetingTickets.find? (fun t => t.2 = raw) with
  | none => none
  | some t => if now < t.1.expiresAt then some t.1.toClaims else none

theorem meetingParse_verifies : Verifies meetingParse meetingTickets := by
  constructor
  · intro now c raw hc hlive
    simp only [meetingTickets, List.mem_cons, Prod.mk.injEq, List.not_mem_nil, or_false] at hc
    obtain ⟨rfl, rfl⟩ | ⟨rfl, rfl⟩ := hc <;> simp [meetingParse, meetingTickets, hlive]
  · intro now raw c hparse
    unfold meetingParse at hparse
    split at hparse
    · cases hparse
    · rename_i t hfind
      split_ifs at hparse with hlive
      obtain rfl := Option.some.inj hparse
      obtain rfl : t.2 = raw := by simpa using List.find?_some hfind
      exact ⟨hlive, t.1, List.mem_of_find?_eq_some hfind, rfl⟩

/-- Alice and bob come with their tickets, and mallory presents the ticket of alice before they meet. -/
def meetingCalls : List MatchServer.Action :=
  [.verify ⟨"bob", "ticket-b"⟩, .verify ⟨"mallory", "ticket-a"⟩, .lock 0,
    .verify ⟨"alice", "ticket-a"⟩, .lock 2, .newMatch 2, .offer 2]

theorem matched_pair_meets_mallory : ∃ t,
    Transition.run (MatchServer.next meetingParse) (newMatchManager 0) meetingCalls = some t ∧
    ∃ game, t.calls[0]? = some (.returned (.ok ⟨game, "bob"⟩)) ∧
      t.calls[2]? = some (.returned (.ok ⟨game, "alice"⟩)) := by
  have hrun : (History.start duelService).run (fun c => .ok c.id)
      [.join "alice" { duelDraw with matchID := ⟨"match-0", by decide⟩ }, .join "bob" duelDraw] =
        ⟨_, meetingTickets, _⟩ := rfl
  have hsome : (Transition.run (MatchServer.next meetingParse) (newMatchManager 0)
      meetingCalls).isSome = true := by
    decide +kernel
  obtain ⟨t, ht⟩ := Option.isSome_iff_exists.1 hsome
  have hmeets := (matched_pair_meets duelService_new hrun (by decide +kernel)
    meetingParse_verifies (by decide +kernel)).2 _ "ticket-b" _ "ticket-a" List.mem_cons_self
      (List.mem_cons_of_mem _ (List.mem_singleton_self _)) ⟨rfl, by decide, rfl, rfl⟩ 0 []
      (newMatchManager 0) meetingCalls t 0 2 rfl ?_ rfl ht ?_
  · exact ⟨t, ht, hmeets.2.1 (by decide)⟩
  · constructor <;> simp [newMatchManager]
  · refine ⟨⟨0, 0, rfl, rfl, by decide⟩, ⟨2, 0, rfl, rfl, by decide⟩, ?_, by decide, by decide⟩
    intro k att hatt hbob halice
    rcases k with _ | _ | _ | k
    · exact absurd rfl hbob
    · obtain rfl := Option.some.inj hatt
      decide
    · exact absurd rfl halice
    · cases hatt

end PvpDuel.Matchmaking
