import Mathlib.Data.Set.Finite.Basic
import PvpDuel.Matchmaking.Queue

/-!
# A failed Join

The list holds at most one name whatever the library fails to sign: `nextWaiting` empties it. When an
issuing fails, the opponent it took off the list keeps its waiting entry, which no later call of `Join`
finds: until the entry expires or is removed, the player waits in vain.
-/

namespace PvpDuel.Matchmaking

/-- A call of the service, with what the library signs while it runs. -/
structure Call where
  sign : TicketClaims → Except String String
  action : Action

namespace Service

def runCalls (s : Service) (calls : List Call) : Service :=
  calls.foldl (fun s call => s.apply call.sign call.action) s

/-- `Join` takes another player off the list, and one of the two issuings fails, at a time when somebody
waits whose wait is not over. -/
def IssuingFails (sign : TicketClaims → Except String String) (s : Service) (playerID : String)
    (draw : Draw) : Prop :=
  let claims := s.matchClaims s.clock draw playerID
  let issuedAt := s.clock + draw.playerDelay
  let done := issuedAt + draw.opponentDelay
  playerID ≠ "" ∧ (s.purgeExpired s.clock).entries playerID = none ∧ ∃ q ∈ s.waiting, q ≠ playerID ∧
    IsWaiting (s.purgeExpired s.clock).entries q ∧
    ((∃ err, sign (claims q).1 = .error err ∧
        ∃ waiter, IsWaiting (s.purgeExpired issuedAt).entries waiter) ∨
      ∃ raw err, sign (claims q).1 = .ok raw ∧ sign (claims q).2 = .error err ∧
        ∃ waiter, IsWaiting (s.purgeExpired done).entries waiter)

/-- No call of `Join` in a run fails at an issuing. -/
def Issues : Service → List Call → Prop
  | _, [] => True
  | s, call :: calls =>
      (∀ playerID draw, call.action = .join playerID draw →
        ¬ s.IssuingFails call.sign playerID draw) ∧
      Issues (s.apply call.sign call.action) calls

/-- Every player who waits, his wait not expired, is on the list. -/
def Listed (s : Service) : Prop :=
  ∀ q, IsWaiting (s.purgeExpired s.clock).entries q → q ∈ s.waiting

/-- A call that left the service as `t` did no harm: its player has no entry, and everyone who was
waiting still is. The next player who joins is matched with him, as if the call had not been made. -/
def Unharmed (s t : Service) (playerID : String) : Prop :=
  t.entries playerID = none ∧
  ∀ q, IsWaiting (s.purgeExpired s.clock).entries q →
    IsWaiting t.entries q ∧
    ∀ clock third draw sign, t.clock ≤ clock → third ≠ "" → third ≠ playerID → third ≠ q →
      (∀ c, ∃ raw, sign c = .ok raw) →
      (purgeExpired { t with clock } clock).entries third = none →
      IsWaiting (purgeExpired { t with clock } clock).entries q →
      ∃ result, (join sign { t with clock } third draw).2 = .ok result ∧
        (join sign { s with clock } third draw).2 = .ok result ∧
        result.status = .matched ∧ result.opponentID = q

/-- When this call of `Join` fails, it does no harm. -/
def LosesNobody (sign : TicketClaims → Except String String) (s : Service) (playerID : String)
    (draw : Draw) : Prop :=
  ∀ t err, s.join sign playerID draw = (t, .error err) → s.Unharmed t playerID

end Service

/-! ### Every reachable state -/

/-- What every call keeps, whatever the library fails to sign. -/
structure Standing (s : Service) : Prop where
  short : s.waiting.length ≤ 1
  named : ∀ q ∈ s.waiting, q ≠ ""
  nobody : s.entries "" = none
  finite : {p | s.entries p ≠ none}.Finite

theorem new_standing {tickets : Option TicketManager} {serverAddr : String} {waitingTTL : Int}
    {clock : Nat} {s : Service} (h : new tickets serverAddr waitingTTL clock = .ok s) :
    Standing s := by
  unfold new at h
  split at h
  · cases h
  · split_ifs at h
    cases h
    constructor <;> simp

namespace Standing

variable {sign : TicketClaims → Except String String} {s : Service}

theorem of_entries {s' : Service} (h : Standing s) (hwaiting : s'.waiting = s.waiting)
    (hentries : ∀ p, s.entries p = none → s'.entries p = none) : Standing s' where
  short := by rw [hwaiting]; exact h.short
  named := by rw [hwaiting]; exact h.named
  nobody := hentries "" h.nobody
  finite := h.finite.subset fun p hp hnone => hp (hentries p hnone)

theorem purgeExpired (h : Standing s) (now : Nat) : Standing (s.purgeExpired now) := by
  refine h.of_entries rfl fun p hp => ?_
  simp [Service.purgeExpired, hp]

theorem nextWaiting_empty (h : Standing s) {entries : String → Option Entry} {playerID q : String}
    {rest : List String} (hfound : nextWaiting entries playerID s.waiting = (q, rest)) :
    rest = [] ∧ (q ≠ "" → s.waiting = [q]) := by
  have hshort := h.short
  rcases nextWaiting_cases entries playerID s.waiting with
    ⟨hnone, -⟩ | ⟨skipped, q', rest', hlist, hsome, -, -⟩
  · rw [hnone] at hfound
    obtain ⟨hq, hrest⟩ := Prod.mk.inj hfound
    exact ⟨hrest.symm, fun hne => absurd hq.symm hne⟩
  · rw [hsome] at hfound
    obtain ⟨hq, hrest⟩ := Prod.mk.inj hfound
    subst hq hrest
    rw [hlist, List.length_append, List.length_cons] at hshort
    have hskipped : skipped = [] := List.eq_nil_of_length_eq_zero (by omega)
    have hempty : rest' = [] := List.eq_nil_of_length_eq_zero (by omega)
    exact ⟨hempty, fun _ => by rw [hlist, hskipped, hempty, List.nil_append]⟩

theorem finite_update (h : Standing s) (p : String) (current : Entry) :
    {q | Function.update s.entries p (some current) q ≠ none}.Finite := by
  refine (h.finite.insert p).subset fun q hq => ?_
  by_cases heq : q = p
  · exact .inl heq
  · rw [Set.mem_ofPred_eq, Function.update_of_ne heq] at hq
    exact .inr hq

theorem join (h : Standing s) (playerID : String) (draw : Draw) :
    Standing (s.join sign playerID draw).1 := by
  have hpurged := h.purgeExpired s.clock
  obtain ⟨-, heq⟩ | ⟨existing, -, heq⟩ | ⟨hplayer, -, ⟨rest, hfound, heq⟩ |
    ⟨q, rest, hq, hfound, heq⟩⟩ := Service.join_cases sign s playerID draw
  · rw [heq]
    exact h
  · rw [heq]
    exact hpurged
  · obtain ⟨rfl, -⟩ := h.nextWaiting_empty hfound
    rw [heq]
    exact ⟨by simp, by simpa using hplayer,
      (Function.update_of_ne hplayer.symm _ _).trans hpurged.nobody, hpurged.finite_update _ _⟩
  · obtain ⟨rfl, -⟩ := h.nextWaiting_empty hfound
    obtain ⟨hne, -⟩ := Service.nextWaiting_found hq hfound
    have hemptied : Standing { s.purgeExpired s.clock with waiting := [] } :=
      ⟨by simp, by simp, hpurged.nobody, hpurged.finite⟩
    rw [heq]
    rcases Service.pair_cases sign { s.purgeExpired s.clock with waiting := [] } s.clock draw hplayer
      hq hne with ⟨_, _, -, -, hpair⟩ | ⟨playerTicket, opponentTicket, -, -, hpair⟩
    · rw [hpair]
      exact hemptied.of_entries rfl fun _ hp => hp
    · rw [hpair]
      refine ⟨by simp, by simp, ?_, ?_⟩
      · exact (Function.update_of_ne hq.symm _ _).trans
          ((Function.update_of_ne hplayer.symm _ _).trans hpurged.nobody)
      · refine ((hpurged.finite.insert playerID).insert q).subset fun p hp => ?_
        by_cases hpq : p = q
        · exact .inl hpq
        by_cases hpp : p = playerID
        · exact .inr (.inl hpp)
        · rw [Set.mem_ofPred_eq] at hp
          dsimp only at hp
          rw [Function.update_of_ne hpq, Function.update_of_ne hpp] at hp
          exact .inr (.inr hp)

theorem apply (h : Standing s) (action : Action) : Standing (s.apply sign action) := by
  cases action with
  | elapse duration => exact h.of_entries rfl fun _ hp => hp
  | join playerID draw => exact h.join playerID draw
  | playerStatus playerID =>
      have hpurged := h.purgeExpired s.clock
      unfold Service.apply Service.playerStatus
      dsimp only
      split <;> exact hpurged
  | leave playerID =>
      refine h.of_entries rfl fun p hp => ?_
      by_cases heq : p = playerID
      · rw [heq]
        exact Function.update_self ..
      · exact (Function.update_of_ne heq _ _).trans hp

theorem runCalls (h : Standing s) (calls : List Call) : Standing (s.runCalls calls) := by
  induction calls generalizing s with
  | nil => exact h
  | cons call calls ih => exact ih (h.apply call.action)

theorem exists_third (h : Standing s) (names : List String) :
    ∃ third, third ∉ names ∧ s.entries third = none := by
  obtain ⟨third, hthird⟩ := (h.finite.union names.finite_toSet).exists_notMem
  rw [Set.mem_union, not_or] at hthird
  exact ⟨third, hthird.2, not_not.1 hthird.1⟩

end Standing

/-! ### Who is on the list -/

section

variable {sign : TicketClaims → Except String String} {s : Service}

theorem isWaiting_purgeExpired {now : Nat} {q : String} :
    IsWaiting (s.purgeExpired now).entries q ↔ ∃ current, s.entries q = some current ∧
      current.result.status = .waiting ∧ (now : Int) - current.joinedAt < s.waitingTTL := by
  constructor
  · rintro ⟨current, hcurrent, hstatus⟩
    obtain ⟨hentry, hlive⟩ := Service.purgeExpired_entry.1 hcurrent
    simp only [Service.Expired, hstatus] at hlive
    exact ⟨current, hentry, hstatus, not_le.1 hlive⟩
  · rintro ⟨current, hentry, hstatus, hlive⟩
    refine ⟨current, Service.purgeExpired_entry.2 ⟨hentry, ?_⟩, hstatus⟩
    simp only [Service.Expired, hstatus]
    exact not_le.2 hlive

theorem isWaiting_purgeExpired_of_le {now later : Nat} (hle : now ≤ later) {q : String}
    (h : IsWaiting (s.purgeExpired later).entries q) : IsWaiting (s.purgeExpired now).entries q := by
  rw [isWaiting_purgeExpired] at h ⊢
  obtain ⟨current, hentry, hstatus, hlive⟩ := h
  exact ⟨current, hentry, hstatus, by omega⟩

theorem isWaiting_of_purged {now later : Nat} {s' : Service} (hle : now ≤ later)
    (hentries : s'.entries = (s.purgeExpired now).entries) (hTTL : s'.waitingTTL = s.waitingTTL)
    {q : String} : IsWaiting (s'.purgeExpired later).entries q ↔
      IsWaiting (s.purgeExpired later).entries q := by
  rw [isWaiting_purgeExpired, isWaiting_purgeExpired, hentries, hTTL]
  constructor
  · rintro ⟨current, hentry, hstatus, hlive⟩
    exact ⟨current, (Service.purgeExpired_entry.1 hentry).1, hstatus, hlive⟩
  · rintro ⟨current, hentry, hstatus, hlive⟩
    refine ⟨current, Service.purgeExpired_entry.2 ⟨hentry, ?_⟩, hstatus, hlive⟩
    simp only [Service.Expired, hstatus]
    omega

theorem mem_purged_or_eq {p q : String} {entries : String → Option Entry} {current : Entry}
    (h : IsWaiting (Function.update entries p (some current)) q) : q = p ∨ IsWaiting entries q := by
  obtain ⟨found, hfound, hstatus⟩ := h
  by_cases heq : q = p
  · exact .inl heq
  · rw [Function.update_of_ne heq] at hfound
    exact .inr ⟨found, hfound, hstatus⟩

/-- A call of `Join` that leaves no opponent behind keeps everyone who waits on the list. -/
theorem listed_join (h : Standing s) (hlisted : s.Listed) (playerID : String) (draw : Draw)
    (hissues : ¬ s.IssuingFails sign playerID draw) : (s.join sign playerID draw).1.Listed := by
  have hwaits : ∀ q, IsWaiting (s.purgeExpired s.clock).entries q → q ∈ s.waiting := hlisted
  obtain ⟨-, heq⟩ | ⟨existing, -, heq⟩ | ⟨hplayer, hnone, ⟨rest, hfound, heq⟩ |
    ⟨q, rest, hq, hfound, heq⟩⟩ := Service.join_cases sign s playerID draw
  · rw [heq]
    exact hlisted
  · rw [heq]
    exact fun q hq => hwaits q ((isWaiting_of_purged le_rfl rfl rfl).1 hq)
  · rw [heq]
    intro p hp
    rcases mem_purged_or_eq (isWaiting_of_purgeExpired hp) with rfl | hwaiting
    · simp
    · rcases nextWaiting_cases (s.purgeExpired s.clock).entries playerID s.waiting with
        ⟨-, hall⟩ | ⟨skipped, q, rest', hlist, hsome, -, -⟩
      · by_cases hself : p = playerID
        · simp [hself]
        · exact absurd hwaiting (hall p (hwaits p hwaiting) hself)
      · rw [hsome] at hfound
        refine absurd (Prod.mk.inj hfound).1 (h.named q ?_)
        simp [hlist]
  · obtain ⟨rfl, hsingle⟩ := h.nextWaiting_empty hfound
    obtain ⟨hne, hwaiting, -⟩ := Service.nextWaiting_found hq hfound
    have hmem : q ∈ s.waiting := by simp [hsingle hq]
    have honly : ∀ p, IsWaiting (s.purgeExpired s.clock).entries p → p = q := by
      intro p hp
      have hp := hwaits p hp
      rwa [hsingle hq, List.mem_singleton] at hp
    rw [heq]
    intro p hp
    rcases Service.pair_outcomes sign { s.purgeExpired s.clock with waiting := [] } s.clock draw hplayer
      hq hne with ⟨err, text, hfirst, hpair⟩ | ⟨raw, err, text, hfirst, hsecond, hpair⟩ |
      ⟨playerTicket, opponentTicket, -, -, hpair⟩ <;> rw [hpair] at hp
    · have hle : s.clock ≤ s.clock + draw.playerDelay := by omega
      have hlive := (isWaiting_of_purged (s := s) hle rfl rfl).1 hp
      obtain rfl := honly p (isWaiting_purgeExpired_of_le hle hlive)
      exact absurd ⟨hplayer, hnone, p, hmem, hne, hwaiting, .inl ⟨text, hfirst, p, hlive⟩⟩ hissues
    · have hle : s.clock ≤ s.clock + draw.playerDelay + draw.opponentDelay := by omega
      have hlive := (isWaiting_of_purged (s := s) hle rfl rfl).1 hp
      obtain rfl := honly p (isWaiting_purgeExpired_of_le hle hlive)
      exact absurd ⟨hplayer, hnone, p, hmem, hne, hwaiting,
        .inr ⟨raw, text, hfirst, hsecond, p, hlive⟩⟩ hissues
    · obtain ⟨current, hcurrent, hstatus⟩ := isWaiting_of_purgeExpired hp
      rcases Service.entry_of_update hcurrent with ⟨-, rfl⟩ | ⟨-, rfl⟩ | ⟨hother, -, hcurrent⟩
      · simp [Service.matchResults, Service.results] at hstatus
      · simp [Service.matchResults, Service.results] at hstatus
      · exact absurd (honly p ⟨current, hcurrent, hstatus⟩) hother

theorem listed_apply (h : Standing s) (hlisted : s.Listed) (call : Call)
    (hissues : ∀ playerID draw, call.action = .join playerID draw →
      ¬ s.IssuingFails call.sign playerID draw) : (s.apply call.sign call.action).Listed := by
  cases haction : call.action with
  | elapse duration =>
      intro q hq
      exact hlisted q (isWaiting_purgeExpired_of_le (Nat.le_add_right s.clock duration) hq)
  | join playerID draw => exact listed_join h hlisted playerID draw (hissues playerID draw haction)
  | playerStatus playerID =>
      have hpurged : (s.purgeExpired s.clock).Listed :=
        fun q hq => hlisted q ((isWaiting_of_purged le_rfl rfl rfl).1 hq)
      unfold Service.apply Service.playerStatus
      dsimp only
      split <;> exact hpurged
  | leave playerID =>
      intro q hq
      rw [isWaiting_purgeExpired] at hq
      obtain ⟨current, hcurrent, hstatus, hlive⟩ := hq
      change Function.update s.entries playerID none q = some current at hcurrent
      by_cases heq : q = playerID
      · rw [heq, Function.update_self] at hcurrent
        cases hcurrent
      · rw [Function.update_of_ne heq] at hcurrent
        exact hlisted q (isWaiting_purgeExpired.2 ⟨current, hcurrent, hstatus, hlive⟩)

theorem listed_runCalls (h : Standing s) (hlisted : s.Listed) {calls : List Call}
    (hissues : s.Issues calls) : (s.runCalls calls).Listed := by
  induction calls generalizing s with
  | nil => exact hlisted
  | cons call calls ih => exact ih (h.apply call.action) (listed_apply h hlisted call hissues.1) hissues.2

/-! ### What a failed call leaves -/

/-- A player without an entry who is matched by `Join` is matched with one who was on the list. -/
theorem mem_waiting_of_matched {third : String} {draw : Draw} {result : Result}
    (hnone : (s.purgeExpired s.clock).entries third = none)
    (h : (s.join sign third draw).2 = .ok result) (hstatus : result.status = .matched) :
    result.opponentID ∈ s.waiting := by
  obtain ⟨-, heq⟩ | ⟨existing, hexisting, -⟩ | ⟨hplayer, -, ⟨rest, -, heq⟩ |
    ⟨q, rest, hq, hfound, heq⟩⟩ := Service.join_cases sign s third draw
  · rw [heq] at h
    cases h
  · rw [hnone] at hexisting
    cases hexisting
  · rw [heq] at h
    cases h
    cases hstatus
  · obtain ⟨hne, -, skipped, hlist⟩ := Service.nextWaiting_found hq hfound
    rcases Service.pair_cases sign { s.purgeExpired s.clock with waiting := rest } s.clock draw
      hplayer hq hne with ⟨_, _, -, -, hpair⟩ | ⟨playerTicket, opponentTicket, -, -, hpair⟩
    · rw [heq, hpair] at h
      cases h
    · rw [heq, hpair] at h
      cases h
      change q ∈ s.waiting
      simp [hlist]

/-- The only player on the list, if he waits, is whom the next player without an entry gets. -/
theorem join_of_listed {q third : String} (hsingle : s.waiting = [q]) (hq : q ≠ "") (draw : Draw)
    (hsign : ∀ c, ∃ raw, sign c = .ok raw) (hthird : third ≠ "") (hne : third ≠ q)
    (hnone : (s.purgeExpired s.clock).entries third = none)
    (hwaiting : IsWaiting (s.purgeExpired s.clock).entries q) :
    ∃ result, (s.join sign third draw).2 = .ok result ∧ result.status = .matched ∧
      result.opponentID = q := by
  have hnext : nextWaiting (s.purgeExpired s.clock).entries third s.waiting = (q, []) := by
    obtain ⟨current, hcurrent, hstatus⟩ := hwaiting
    rw [hsingle, nextWaiting, if_neg hne.symm, hcurrent]
    exact if_pos hstatus
  obtain ⟨rfl, -⟩ | ⟨existing, hexisting, -⟩ | ⟨-, -, ⟨rest, hfound, -⟩ |
    ⟨q', rest, hq', hfound, heq⟩⟩ := Service.join_cases sign s third draw
  · exact absurd rfl hthird
  · rw [hnone] at hexisting
    cases hexisting
  · rw [hnext] at hfound
    exact absurd (Prod.mk.inj hfound).1 hq
  · obtain ⟨rfl, rfl⟩ := Prod.mk.inj (hnext.symm.trans hfound)
    rw [heq]
    rcases Service.pair_cases sign { s.purgeExpired s.clock with waiting := [] } s.clock draw hthird
      hq hne.symm with ⟨_, _, -, ⟨c, text, herr⟩, -⟩ | ⟨playerTicket, opponentTicket, -, -, hpair⟩
    · obtain ⟨raw, hraw⟩ := hsign c
      rw [herr] at hraw
      cases hraw
    · rw [hpair]
      exact ⟨_, rfl, rfl, rfl⟩

/-- Whoever waits after a failed call that lost nobody is on the list. -/
theorem Service.LosesNobody.mem_waiting {playerID : String} {draw : Draw}
    (h : s.LosesNobody sign playerID draw) {t : Service} {err : JoinError} (ht : Standing t)
    (hjoin : s.join sign playerID draw = (t, .error err)) {q : String}
    (hbefore : IsWaiting (s.purgeExpired s.clock).entries q)
    (hq : IsWaiting (t.purgeExpired t.clock).entries q) : q ∈ t.waiting := by
  obtain ⟨third, hthird, hnone⟩ := ht.exists_third ["", playerID, q]
  simp only [List.mem_cons, List.not_mem_nil, or_false, not_or] at hthird
  have hnone' : (t.purgeExpired t.clock).entries third = none := by
    simp [Service.purgeExpired, hnone]
  obtain ⟨result, hresult, -, hstatus, hopponent⟩ := ((h t err hjoin).2 q hbefore).2 t.clock third
    ⟨⟨"match", by decide⟩, ⟨"first", by decide⟩, ⟨"second", by decide⟩, 0, 0⟩ (fun c => .ok c.id)
    le_rfl hthird.1 hthird.2.1 hthird.2.2 (fun c => ⟨c.id, rfl⟩) hnone' hq
  rw [← hopponent]
  exact mem_waiting_of_matched hnone' hresult hstatus

theorem join_eq_pair (h : Standing s) {playerID q : String} {draw : Draw} (hplayer : playerID ≠ "")
    (hnone : (s.purgeExpired s.clock).entries playerID = none) (hmem : q ∈ s.waiting)
    (hne : q ≠ playerID) (hlive : IsWaiting (s.purgeExpired s.clock).entries q) :
    s.join sign playerID draw = Service.pair sign { s.purgeExpired s.clock with waiting := [] } s.clock
      draw playerID q := by
  have hq := h.named q hmem
  rcases nextWaiting_cases (s.purgeExpired s.clock).entries playerID s.waiting with
    ⟨-, hall⟩ | ⟨skipped, q', rest, hlist, hfound, -, -⟩
  · exact absurd hlive (hall q hmem hne)
  · obtain ⟨hrest, hsingle⟩ := h.nextWaiting_empty hfound
    have hq' : q' ≠ "" := h.named q' (by simp [hlist])
    rw [hsingle hq', List.mem_singleton] at hmem
    subst hmem hrest
    simp [Service.join, hplayer, hnone, hfound, hq]

theorem not_losesNobody_of_issuingFails (h : Standing s) {playerID : String} {draw : Draw}
    (hfails : s.IssuingFails sign playerID draw) : ¬ s.LosesNobody sign playerID draw := by
  intro hloses
  obtain ⟨hplayer, hnone, q, hmem, hne, hlive, hfails⟩ := hfails
  have hjoin : s.join sign playerID draw = _ := join_eq_pair h hplayer hnone hmem hne hlive
  have hstanding : Standing (s.join sign playerID draw).1 := h.join playerID draw
  have hlost : ∀ {clock err waiter}, s.clock ≤ clock → s.join sign playerID draw =
      ({ s.purgeExpired s.clock with waiting := [], clock }, .error err) →
      ¬ IsWaiting (s.purgeExpired clock).entries waiter := by
    intro clock err waiter hle heq hwaits
    rw [heq] at hstanding
    have hmem := hloses.mem_waiting hstanding heq (isWaiting_purgeExpired_of_le hle hwaits)
      ((isWaiting_of_purged (s := s) hle rfl rfl).2 hwaits)
    cases hmem
  rcases Service.pair_outcomes sign { s.purgeExpired s.clock with waiting := [] } s.clock draw hplayer
    (h.named q hmem) hne with ⟨err, text, hfirst, hpair⟩ | ⟨raw, err, text, hfirst, hsecond, hpair⟩ |
    ⟨playerTicket, opponentTicket, hfirst, hsecond, -⟩
  · rcases hfails with ⟨-, -, waiter, hwaits⟩ | ⟨raw, -, hsigned, -⟩
    · exact hlost (by omega) (hjoin.trans hpair) hwaits
    · exact absurd (hfirst.symm.trans hsigned) (by simp)
  · rcases hfails with ⟨err', hfailed, -⟩ | ⟨-, -, -, -, waiter, hwaits⟩
    · exact absurd (hfirst.symm.trans hfailed) (by simp)
    · exact hlost (by omega) (hjoin.trans hpair) hwaits
  · rcases hfails with ⟨err', hfailed, -⟩ | ⟨-, err', -, hfailed, -⟩
    · exact absurd (hfirst.symm.trans hfailed) (by simp)
    · exact absurd (hsecond.symm.trans hfailed) (by simp)

theorem losesNobody_of_issues (h : Standing s) {playerID : String} {draw : Draw}
    (hplayer : playerID ≠ "") (hissues : ¬ s.IssuingFails sign playerID draw) :
    s.LosesNobody sign playerID draw := by
  intro t err hjoin
  obtain ⟨rfl, -⟩ | ⟨existing, -, heq⟩ | ⟨-, hnone, ⟨rest, -, heq⟩ | ⟨q, rest, hq, hfound, heq⟩⟩ :=
    Service.join_cases sign s playerID draw
  · exact absurd rfl hplayer
  · rw [heq] at hjoin
    cases hjoin
  · rw [heq] at hjoin
    cases hjoin
  obtain ⟨rfl, -⟩ := h.nextWaiting_empty hfound
  obtain ⟨hne, hlive, skipped, hlist⟩ := Service.nextWaiting_found hq hfound
  have hmem : q ∈ s.waiting := by simp [hlist]
  have hunharmed : ∀ {clock}, t = { s.purgeExpired s.clock with waiting := [], clock } →
      s.clock ≤ clock → (∀ waiter, ¬ IsWaiting (s.purgeExpired clock).entries waiter) →
      s.Unharmed t playerID := by
    intro clock ht hle hnobody
    subst ht
    refine ⟨hnone, fun waiter hwaiter => ⟨hwaiter, ?_⟩⟩
    intro later _ _ _ hlater _ _ _ _ _ hwaits
    refine absurd (isWaiting_purgeExpired_of_le hlater ?_) (hnobody waiter)
    exact (isWaiting_of_purged (s := s) (hle.trans hlater) rfl rfl).1 hwaits
  rcases Service.pair_outcomes sign { s.purgeExpired s.clock with waiting := [] } s.clock draw hplayer
    hq hne with ⟨err', text, hfirst, hpair⟩ | ⟨raw, err', text, hfirst, hsecond, hpair⟩ |
    ⟨playerTicket, opponentTicket, -, -, hpair⟩ <;> rw [heq, hpair] at hjoin
  · refine hunharmed (Prod.mk.inj hjoin).1.symm (by omega) fun waiter hwaits => hissues ?_
    exact ⟨hplayer, hnone, q, hmem, hne, hlive, .inl ⟨text, hfirst, waiter, hwaits⟩⟩
  · refine hunharmed (Prod.mk.inj hjoin).1.symm (by omega) fun waiter hwaits => hissues ?_
    exact ⟨hplayer, hnone, q, hmem, hne, hlive, .inr ⟨raw, text, hfirst, hsecond, waiter, hwaits⟩⟩
  · cases (Prod.mk.inj hjoin).2

theorem losesNobody_unnamed (h : Standing s) (draw : Draw) :
    s.LosesNobody sign "" draw ↔ s.Listed := by
  have hjoin : s.join sign "" draw = (s, .error .invalidPlayer) := if_pos rfl
  constructor
  · intro hloses q hq
    exact hloses.mem_waiting h hjoin hq hq
  · intro hlisted t err heq
    obtain ⟨rfl, -⟩ := Prod.mk.inj (hjoin.symm.trans heq)
    refine ⟨h.nobody, fun q hq => ⟨isWaiting_of_purgeExpired hq, ?_⟩⟩
    intro clock third draw' sign' hlater hthird _ hne hsign hnone hwaits
    have hmem := hlisted q hq
    have hsingle : s.waiting = [q] := by
      have hshort := h.short
      cases hlist : s.waiting with
      | nil =>
          rw [hlist] at hmem
          cases hmem
      | cons first rest =>
          rw [hlist, List.length_cons] at hshort
          obtain rfl : rest = [] := List.eq_nil_of_length_eq_zero (by omega)
          rw [hlist, List.mem_singleton] at hmem
          rw [hmem]
    obtain ⟨result, hresult, hstatus, hopponent⟩ := join_of_listed (s := { s with clock }) hsingle
      (h.named q hmem) draw' hsign hthird hne hnone hwaits
    exact ⟨result, hresult, hresult, hstatus, hopponent⟩

end

/-- In every state that calls with any pattern of failures can reach, a failed call of `Join` loses
nobody exactly when no issuing of it fails while somebody waits, and for the call with the empty name,
which changes nothing, when everyone who waits was on the list. This was so as long as no issuing has
failed before. -/
theorem failed_join_loses_nobody_iff {tickets : Option TicketManager} {serverAddr : String}
    {waitingTTL : Int} {clock : Nat} {s₀ : Service}
    (hnew : new tickets serverAddr waitingTTL clock = .ok s₀) (calls : List Call)
    (sign : TicketClaims → Except String String) (playerID : String) (draw : Draw) :
    ((s₀.runCalls calls).LosesNobody sign playerID draw ↔
      ¬ (s₀.runCalls calls).IssuingFails sign playerID draw ∧
        (playerID = "" → (s₀.runCalls calls).Listed)) ∧
    (s₀.Issues calls → (s₀.runCalls calls).Listed) := by
  have hstanding := (new_standing hnew).runCalls calls
  refine ⟨?_, fun hissues => ?_⟩
  · by_cases hplayer : playerID = ""
    · subst hplayer
      rw [losesNobody_unnamed hstanding draw]
      constructor
      · exact fun hlisted => ⟨fun hfails => hfails.1 rfl, fun _ => hlisted⟩
      · exact fun h => h.2 rfl
    · constructor
      · intro hloses
        exact ⟨fun hfails => not_losesNobody_of_issuingFails hstanding hfails hloses,
          fun heq => absurd heq hplayer⟩
      · exact fun h => losesNobody_of_issues hstanding hplayer h.1
  · have hempty : s₀.Listed := by
      unfold new at hnew
      split at hnew
      · cases hnew
      · split_ifs at hnew
        cases hnew
        rintro q ⟨current, hcurrent, -⟩
        cases hcurrent
    exact listed_runCalls (new_standing hnew) hempty hissues

/-- Alice waits, and no ticket can be signed for bob. -/
theorem failed_join_loses_nobody_iff_bob :
    ¬ (duelService.runCalls [⟨fun c => .ok c.id, .join "alice" duelDraw⟩]).LosesNobody
      (fun _ => .error "no key") "bob" duelDraw := by
  intro hloses
  have hfails : (duelService.runCalls [⟨fun c => .ok c.id, .join "alice" duelDraw⟩]).IssuingFails
      (fun _ => .error "no key") "bob" duelDraw := by
    refine ⟨by decide, by decide +kernel, "alice", by decide +kernel, by decide,
      ⟨⟨Result.ofStatus .waiting, 0⟩, by decide +kernel, rfl⟩, .inl ⟨"no key", rfl, "alice",
        ⟨Result.ofStatus .waiting, 0⟩, by decide +kernel, rfl⟩⟩
  exact ((failed_join_loses_nobody_iff duelService_new
    [⟨fun c => .ok c.id, .join "alice" duelDraw⟩] (fun _ => .error "no key") "bob" duelDraw).1.1
      hloses).1 hfails

/-- Alice is stranded: carol, who comes next, waits as well. -/
theorem failed_join_strands_alice :
    let s := duelService.runCalls [⟨fun c => .ok c.id, .join "alice" duelDraw⟩]
    let t := (s.join (fun _ => .error "no key") "bob" duelDraw).1
    new (some duelService.tickets) "127.0.0.1:4433" 300000000000 0 = .ok duelService ∧
      ¬ s.LosesNobody (fun _ => .error "no key") "bob" duelDraw ∧
      (t.join (fun c => .ok c.id) "carol" duelDraw).2 = .ok (Result.ofStatus .waiting) := by
  intro s t
  have hnext : (t.join (fun c => .ok c.id) "carol" duelDraw).2 = .ok (Result.ofStatus .waiting) := by
    decide +kernel
  refine ⟨duelService_new, fun hloses => ?_, hnext⟩
  have hwaits : ∀ u : Service, u.entries "alice" = some ⟨Result.ofStatus .waiting, 0⟩ →
      IsWaiting u.entries "alice" := fun u hu => ⟨_, hu, rfl⟩
  have hfailed : s.join (fun _ => .error "no key") "bob" duelDraw =
      (t, .error (.playerTicket (.sign "no key"))) := rfl
  obtain ⟨result, hresult, -, hstatus, -⟩ := ((hloses t _ hfailed).2 "alice"
    (hwaits (s.purgeExpired s.clock) (by decide +kernel))).2 0 "carol" duelDraw (fun c => .ok c.id)
      (by decide +kernel) (by decide) (by decide) (by decide) (fun c => ⟨c.id, rfl⟩) (by decide +kernel)
      (hwaits (Service.purgeExpired { t with clock := 0 } 0) (by decide +kernel))
  have hsame : { t with clock := 0 } = t := rfl
  rw [hsame, hnext] at hresult
  cases hresult
  cases hstatus

end PvpDuel.Matchmaking
