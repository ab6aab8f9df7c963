import PvpDuel.MatchServer.Calls

/-!
# Replayed tickets

A pairing marks its match ID as used until the ticket that completed it expires. A replay of that
ticket which was verified before the expiry and reaches the mutex after it finds the mark purged, so
two replays start the match again. Where no such ticket is that late, a match ID starts one match.
-/

namespace PvpDuel.MatchServer

/-! ### What is known of the tickets -/

/-- Claims that the JWT library accepts at some time from some token. -/
def Issued (parse : Nat → String → Option Claims) (c : Claims) : Prop :=
  ∃ now raw, parse now raw = some c

/-- The library accepts a ticket before its expiry only, a player has one ticket of a match, and the
tickets of a match are those of its two players. -/
structure Tickets (parse : Nat → String → Option Claims) : Prop where
  fresh : ∀ now raw c, parse now raw = some c → now < c.expiresAt
  one : ∀ c c', Issued parse c → Issued parse c' → c.matchID = c'.matchID →
    c.playerID = c'.playerID → c = c'
  two : ∀ c c', Issued parse c → Issued parse c' → c.matchID = c'.matchID →
    c'.playerID = c.playerID ∨ c'.playerID = c.opponentID

/-- The phase is a pairing that this ticket completed. -/
def Phase.completes (c : Claims) : Phase → Bool
  | .pairing _ claims => claims = c
  | _ => false

namespace Manager

/-- This ticket completed a pairing: `newMatch` was called for it or is about to be. -/
def Completed (s : Manager) (c : Claims) : Prop :=
  (∃ game ∈ s.started, game.matchID = c.matchID ∧ game.playerB = c.playerID) ∨
    ∃ partner, Phase.pairing partner c ∈ s.calls

theorem completed_iff {s : Manager} {c : Claims} : s.Completed c ↔
    (∃ game ∈ s.started, game.matchID = c.matchID ∧ game.playerB = c.playerID) ∨
      ∃ phase ∈ s.calls, phase.completes c = true := by
  refine or_congr Iff.rfl ⟨?_, ?_⟩
  · rintro ⟨partner, hin⟩
    exact ⟨_, hin, decide_eq_true rfl⟩
  · rintro ⟨phase, hin, hphase⟩
    cases phase with
    | pairing partner claims => exact ⟨partner, of_decide_eq_true hphase ▸ hin⟩
    | verified _ => cases hphase
    | waiting _ => cases hphase
    | leaving _ => cases hphase
    | failing _ _ => cases hphase
    | offering _ _ _ => cases hphase
    | returned _ => cases hphase

instance (s : Manager) (c : Claims) : Decidable (s.Completed c) :=
  decidable_of_iff _ completed_iff.symm

/-- No call enters the section under the mutex with a ticket that completed a pairing and has
expired. -/
def Timely (s : Manager) : Action → Prop
  | .lock call =>
      match s.calls[call]? with
      | some (.verified claims) => s.Completed claims → s.clock < claims.expiresAt
      | _ => True
  | _ => True

instance (s : Manager) (action : Action) : Decidable (s.Timely action) := by
  unfold Timely
  split
  · split <;> infer_instance
  · infer_instance

theorem Timely.lock {s : Manager} {call : Nat} {claims : Claims} (h : s.Timely (.lock call))
    (hcall : s.calls[call]? = some (.verified claims)) :
    s.Completed claims → s.clock < claims.expiresAt := by
  rw [Timely, hcall] at h
  exact h

/-- The calls of `newMatch` for a match ID. -/
def newMatchCalls (s : Manager) (matchID : String) : Nat :=
  s.started.countP fun game => game.matchID = matchID

end Manager

/-! ### The invariant -/

namespace Phase

/-- The phase is a pairing for this match ID on the way to `newMatch`. -/
def pairs (matchID : String) : Phase → Bool
  | .pairing _ claims => claims.matchID = matchID
  | _ => false

/-- The phase still carries these claims of its own call. -/
def Holds (c : Claims) : Phase → Prop
  | .verified claims | .waiting claims | .leaving claims | .pairing _ claims => claims = c
  | .failing _ _ | .offering _ _ _ | .returned _ => False

def Idle (phase : Phase) : Prop := ∀ matchID, phase.pairs matchID = false

end Phase

/-- At most one pairing of a match ID has reached or will reach `newMatch`; until the ticket that
completed it expires it is marked as used, and only the other player may wait. -/
structure StartedOnce (parse : Nat → String → Option Claims) (s : Manager) : Prop where
  issued : ∀ phase ∈ s.calls, ∀ c, phase.Holds c → Issued parse c
  completed : ∀ game ∈ s.started,
    ∃ c, Issued parse c ∧ c.matchID = game.matchID ∧ c.playerID = game.playerB
  once : ∀ matchID, s.newMatchCalls matchID + s.calls.countP (Phase.pairs matchID) ≤ 1
  held : ∀ c, Issued parse c → s.Completed c →
    s.used c.matchID = some c.expiresAt ∨ c.expiresAt ≤ s.clock
  apart : ∀ c, Issued parse c → s.Completed c → ∀ partner, s.waiting c.matchID = some partner →
    partner.claims.playerID ≠ c.playerID ∧ c.expiresAt ≤ s.clock

theorem newMatchManager_once (parse : Nat → String → Option Claims) (clock : Nat) :
    StartedOnce parse (newMatchManager clock) := by
  have hnone : ∀ c, ¬ (newMatchManager clock).Completed c := by
    rintro c (⟨game, hgame, -⟩ | ⟨partner, hpartner⟩)
    · cases hgame
    · cases hpartner
  constructor
  · intro phase hphase
    cases hphase
  · intro game hgame
    cases hgame
  · intro matchID
    exact Nat.zero_le 1
  · exact fun c _ hc => absurd hc (hnone c)
  · exact fun c _ hc => absurd hc (hnone c)

variable {parse : Nat → String → Option Claims} {s t : Manager}

/-- A step that makes no pairing and no match, adds nobody to the table of waiting players and drops
expired marks only. -/
theorem StartedOnce.of_quiet (h : StartedOnce parse s) (hstarted : t.started = s.started)
    (hclock : s.clock ≤ t.clock) (hcount : ∀ matchID,
      t.calls.countP (Phase.pairs matchID) = s.calls.countP (Phase.pairs matchID))
    (hpairing : ∀ partner c, Phase.pairing partner c ∈ t.calls → Phase.pairing partner c ∈ s.calls)
    (hissued : ∀ phase ∈ t.calls, ∀ c, phase.Holds c → Issued parse c)
    (hused : ∀ matchID expiresAt, s.used matchID = some expiresAt →
      t.used matchID = some expiresAt ∨ expiresAt ≤ t.clock)
    (hwaiting : ∀ matchID partner, t.waiting matchID = some partner →
      s.waiting matchID = some partner) : StartedOnce parse t := by
  have hcompleted : ∀ c, t.Completed c → s.Completed c := by
    rintro c (⟨game, hgame, heq⟩ | ⟨partner, hpartner⟩)
    · rw [hstarted] at hgame
      exact .inl ⟨game, hgame, heq⟩
    · exact .inr ⟨partner, hpairing partner c hpartner⟩
  refine ⟨hissued, ?_, fun matchID => ?_, fun c hc hdone => ?_, fun c hc hdone partner hin => ?_⟩
  · rw [hstarted]
    exact h.completed
  · rw [Manager.newMatchCalls, hstarted, hcount]
    exact h.once matchID
  · rcases h.held c hc (hcompleted c hdone) with hmark | hexpired
    · exact hused _ _ hmark
    · exact .inr (Nat.le_trans hexpired hclock)
  · obtain ⟨hne, hexpired⟩ := h.apart c hc (hcompleted c hdone) partner (hwaiting _ _ hin)
    exact ⟨hne, Nat.le_trans hexpired hclock⟩

/-! ### One call moves on -/

theorem countP_setCall {call : Nat} {old new : Phase} (hcall : s.calls[call]? = some old)
    (hold : old.Idle) (hnew : new.Idle) (matchID : String) :
    (s.setCall call new).calls.countP (Phase.pairs matchID) =
      s.calls.countP (Phase.pairs matchID) := by
  obtain ⟨hlt, hget⟩ := List.getElem?_eq_some_iff.1 hcall
  rw [Manager.setCall, List.countP_set hlt, hget, hold, hnew]
  rfl

theorem mem_setCall {call : Nat} {new phase : Phase} (h : phase ∈ (s.setCall call new).calls) :
    phase ∈ s.calls ∨ phase = new :=
  List.mem_or_eq_of_mem_set h

/-- A call that goes from one phase without pairing to another changes nothing else. -/
theorem StartedOnce.setCall (h : StartedOnce parse s) {call : Nat} {old : Phase}
    (hcall : s.calls[call]? = some old) (hold : old.Idle) (new : Phase) (hnew : new.Idle)
    (hholds : ∀ c, new.Holds c → Issued parse c) : StartedOnce parse (s.setCall call new) := by
  refine h.of_quiet rfl (Nat.le_refl _) (countP_setCall hcall hold hnew) ?_ ?_
    (fun _ _ hmark => .inl hmark) (fun _ _ hin => hin)
  · intro partner c hin
    rcases mem_setCall hin with hin | rfl
    · exact hin
    · have hpairs := hnew c.matchID
      simp [Phase.pairs] at hpairs
  · intro phase hin c hc
    rcases mem_setCall hin with hin | rfl
    · exact h.issued phase hin c hc
    · exact hholds c hc

/-- A call begins with its ticket verified or has returned, and a verified ticket was issued. -/
theorem Attempt.phase_idle (parse : Nat → String → Option Claims) (attempt : Attempt) :
    (attempt.phase parse).Idle ∧ ∀ c, (attempt.phase parse).Holds c → Issued parse c := by
  unfold Attempt.phase
  cases hclaims : attempt.claims parse with
  | none => exact ⟨fun _ => rfl, fun _ hc => hc.elim⟩
  | some claims =>
      refine ⟨fun _ => rfl, fun c hc => ?_⟩
      obtain rfl : claims = c := hc
      exact ⟨_, _, verify_ok (Attempt.claims_ok hclaims).1⟩

theorem StartedOnce.begin (h : StartedOnce parse s) (request : AuthenticateRequest) :
    StartedOnce parse (s.begin parse request) := by
  rw [begin_eq]
  obtain ⟨hidle, hholds⟩ := Attempt.phase_idle parse ⟨s.clock, request⟩
  generalize Attempt.phase parse ⟨s.clock, request⟩ = phase at hidle hholds ⊢
  refine h.of_quiet rfl (Nat.le_refl _) (fun matchID => ?_) ?_ ?_ (fun _ _ hmark => .inl hmark)
    (fun _ _ hin => hin)
  · rw [List.countP_append, List.countP_singleton, hidle matchID]
    rfl
  · intro partner c hin
    rcases List.mem_append.1 hin with hin | hin
    · exact hin
    · obtain rfl := List.mem_singleton.1 hin
      have hpairs := hidle c.matchID
      simp [Phase.pairs] at hpairs
  · intro other hin c hc
    rcases List.mem_append.1 hin with hin | hin
    · exact h.issued other hin c hc
    · obtain rfl := List.mem_singleton.1 hin
      exact hholds c hc

/-! ### The section under the mutex -/

theorem StartedOnce.purgeUsed (h : StartedOnce parse s) : StartedOnce parse s.purgeUsed := by
  refine h.of_quiet rfl (Nat.le_refl _) (fun _ => rfl) (fun _ _ hin => hin) h.issued ?_
    (fun _ _ hin => hin)
  intro matchID expiresAt hmark
  unfold Manager.purgeUsed
  dsimp only
  rw [hmark]
  by_cases hlive : s.clock < expiresAt
  · exact .inl (if_pos hlive)
  · exact .inr (Nat.not_lt.1 hlive)

/-- A match ID that is not marked belongs to no completed pairing that is unexpired. -/
theorem StartedOnce.expired_of_unmarked (h : StartedOnce parse s) {c : Claims} (hc : Issued parse c)
    (hdone : s.Completed c) (hmark : s.used c.matchID = none) : c.expiresAt ≤ s.clock := by
  rcases h.held c hc hdone with hheld | hexpired
  · rw [hmark] at hheld
    cases hheld
  · exact hexpired

theorem StartedOnce.not_completed (h : StartedOnce parse s) {claims : Claims}
    (hissued : Issued parse claims)
    (htimely : s.Completed claims → s.clock < claims.expiresAt)
    (hmark : s.used claims.matchID = none) : ¬ s.Completed claims := by
  intro hdone
  exact Nat.not_lt.2 (h.expired_of_unmarked hissued hdone hmark) (htimely hdone)

theorem StartedOnce.wait (htickets : Tickets parse) (h : StartedOnce parse s) {call : Nat}
    {claims : Claims}
    (hcall : s.calls[call]? = some (.verified claims))
    (htimely : s.Completed claims → s.clock < claims.expiresAt)
    (hmark : s.used claims.matchID = none) :
    StartedOnce parse { s.setCall call (.waiting claims) with
      waiting := Function.update s.waiting claims.matchID (some { claims, call }) } := by
  have hissued : Issued parse claims := h.issued _ (List.mem_of_getElem? hcall) claims rfl
  have hnew := h.not_completed hissued htimely hmark
  have hset := h.setCall hcall (fun _ => rfl) (.waiting claims) (fun _ => rfl)
    (fun c hc => hc ▸ hissued)
  have hcompleted : ∀ c, (s.setCall call (.waiting claims)).Completed c → s.Completed c := by
    rintro c (hgame | ⟨partner, hpartner⟩)
    · exact .inl hgame
    · rcases mem_setCall hpartner with hin | heq
      · exact .inr ⟨partner, hin⟩
      · cases heq
  refine ⟨hset.issued, hset.completed, hset.once, hset.held, fun c hc hdone partner hin => ?_⟩
  change Function.update s.waiting claims.matchID _ c.matchID = some partner at hin
  by_cases heq : c.matchID = claims.matchID
  · rw [heq, Function.update_self] at hin
    cases hin
    have hdone' := hcompleted c hdone
    refine ⟨fun hplayer => ?_, h.expired_of_unmarked hc hdone' (by rw [heq]; exact hmark)⟩
    rw [htickets.one claims c hissued hc heq.symm hplayer] at hnew
    exact hnew hdone'
  · rw [Function.update_of_ne heq] at hin
    exact hset.apart c hc hdone partner hin

theorem StartedOnce.pair (htickets : Tickets parse) (h : StartedOnce parse s) {call : Nat}
    {claims : Claims}
    (hcall : s.calls[call]? = some (.verified claims))
    (htimely : s.Completed claims → s.clock < claims.expiresAt)
    (hmark : s.used claims.matchID = none) {partner : WaitingPlayer}
    (hpartner : s.waiting claims.matchID = some partner)
    (hopponent : claims.opponentID = partner.claims.playerID) :
    StartedOnce parse { s.setCall call (.pairing partner claims) with
      waiting := Function.update s.waiting claims.matchID none
      used := Function.update s.used claims.matchID (some claims.expiresAt) } := by
  have hissued : Issued parse claims := h.issued _ (List.mem_of_getElem? hcall) claims rfl
  -- Whoever completed a pairing before is not the waiting player, so he is this one, and too late.
  have hnone : ∀ c, Issued parse c → c.matchID = claims.matchID → ¬ s.Completed c := by
    intro c hc heq hdone
    obtain ⟨hne, hexpired⟩ := h.apart c hc hdone partner (by rw [heq]; exact hpartner)
    rcases htickets.two claims c hissued hc heq.symm with hsame | hother
    · rw [htickets.one c claims hc hissued heq hsame] at hdone
      exact h.not_completed hissued htimely hmark hdone
    · exact hne (hother.trans hopponent).symm
  have hcompleted : ∀ c, ({ s.setCall call (.pairing partner claims) with
      waiting := Function.update s.waiting claims.matchID none
      used := Function.update s.used claims.matchID (some claims.expiresAt) } : Manager).Completed
        c → s.Completed c ∨ c = claims := by
    rintro c (hgame | ⟨other, hother⟩)
    · exact .inl (.inl hgame)
    · rcases mem_setCall hother with hin | heq
      · exact .inl (.inr ⟨other, hin⟩)
      · cases heq
        exact .inr rfl
  constructor
  · intro phase hin c hc
    rcases mem_setCall hin with hin | rfl
    · exact h.issued phase hin c hc
    · exact hc ▸ hissued
  · exact h.completed
  · intro matchID
    obtain ⟨hlt, hget⟩ := List.getElem?_eq_some_iff.1 hcall
    have hcount := h.once matchID
    change s.newMatchCalls matchID + (s.calls.set call (.pairing partner claims)).countP _ ≤ 1
    rw [List.countP_set hlt, hget]
    by_cases heq : claims.matchID = matchID
    · subst heq
      have hgames : s.newMatchCalls claims.matchID = 0 := by
        rw [Manager.newMatchCalls, List.countP_eq_zero]
        intro game hgame hid
        obtain ⟨c, hc, hmatch, hplayer⟩ := h.completed game hgame
        exact hnone c hc (hmatch.trans (of_decide_eq_true hid))
          (.inl ⟨game, hgame, hmatch.symm, hplayer.symm⟩)
      have hpairings : s.calls.countP (Phase.pairs claims.matchID) = 0 := by
        rw [List.countP_eq_zero]
        intro phase hin hpairs
        cases phase with
        | pairing other c =>
            exact hnone c (h.issued _ hin c rfl) (of_decide_eq_true hpairs) (.inr ⟨other, hin⟩)
        | verified _ => cases hpairs
        | waiting _ => cases hpairs
        | leaving _ => cases hpairs
        | failing _ _ => cases hpairs
        | offering _ _ _ => cases hpairs
        | returned _ => cases hpairs
      rw [hgames, hpairings]
      simp [Phase.pairs]
    · simp only [Phase.pairs, heq, decide_false]
      exact hcount
  · intro c hc hdone
    rcases hcompleted c hdone with hold | rfl
    · have hne : c.matchID ≠ claims.matchID := fun heq => hnone c hc heq hold
      rcases h.held c hc hold with hheld | hexpired
      · left
        change Function.update s.used claims.matchID _ c.matchID = _
        rw [Function.update_of_ne hne]
        exact hheld
      · exact .inr hexpired
    · left
      change Function.update s.used c.matchID _ c.matchID = _
      rw [Function.update_self]
  · intro c hc hdone other hin
    change Function.update s.waiting claims.matchID none c.matchID = some other at hin
    rcases hcompleted c hdone with hold | rfl
    · have hne : c.matchID ≠ claims.matchID := fun heq => hnone c hc heq hold
      rw [Function.update_of_ne hne] at hin
      exact h.apart c hc hold other hin
    · rw [Function.update_self] at hin
      cases hin

theorem StartedOnce.enter (htickets : Tickets parse) (h : StartedOnce parse s) {call : Nat}
    {claims : Claims}
    (hcall : s.calls[call]? = some (.verified claims))
    (htimely : s.Completed claims → s.clock < claims.expiresAt) :
    StartedOnce parse (s.enter call claims) := by
  obtain ⟨err, -, heq⟩ | ⟨hmark, -, heq⟩ | ⟨partner, hmark, hpartner, -, -, hopponent, heq⟩ :=
    enter_cases s call claims
  · rw [heq]
    exact h.setCall hcall (fun _ => rfl) _ (fun _ => rfl) (fun _ hc => hc.elim)
  · rw [heq]
    exact h.wait htickets hcall htimely hmark
  · rw [heq]
    exact h.pair htickets hcall htimely hmark hpartner hopponent

/-! ### The other steps -/

theorem afterNewMatch_idle (partner : WaitingPlayer) (claims : Claims) (number : Nat)
    (game : StartedMatch) : (Phase.afterNewMatch partner claims number game).Idle ∧
      ∀ c, ¬ (Phase.afterNewMatch partner claims number game).Holds c := by
  unfold Phase.afterNewMatch
  cases game.room with
  | error err => exact ⟨fun _ => rfl, fun _ hc => hc⟩
  | ok _ => exact ⟨fun _ => rfl, fun _ hc => hc⟩

theorem StartedOnce.start (htickets : Tickets parse) (h : StartedOnce parse s) {call : Nat}
    {partner : WaitingPlayer} {claims : Claims}
    (hcall : s.calls[call]? = some (.pairing partner claims)) :
    StartedOnce parse (s.start call partner claims) := by
  have hin := List.mem_of_getElem? hcall
  have hissued : Issued parse claims := h.issued _ hin claims rfl
  have hdone : s.Completed claims := .inr ⟨partner, hin⟩
  obtain ⟨hlt, hget⟩ := List.getElem?_eq_some_iff.1 hcall
  unfold Manager.start
  dsimp only
  have hidle := afterNewMatch_idle partner claims s.started.length
    (newMatch claims.matchID partner.claims.playerID claims.playerID)
  generalize Phase.afterNewMatch partner claims s.started.length
    (newMatch claims.matchID partner.claims.playerID claims.playerID) = phase at hidle ⊢
  have hcompleted : ∀ c, Issued parse c → ({ s.setCall call phase with
      started := s.started ++ [newMatch claims.matchID partner.claims.playerID claims.playerID] } :
        Manager).Completed c → s.Completed c := by
    rintro c hc (⟨game, hgame, hmatch, hplayer⟩ | ⟨other, hother⟩)
    · rcases List.mem_append.1 hgame with hgame | hgame
      · exact .inl ⟨game, hgame, hmatch, hplayer⟩
      · obtain rfl := List.mem_singleton.1 hgame
        rw [htickets.one c claims hc hissued hmatch.symm hplayer.symm]
        exact hdone
    · rcases mem_setCall hother with hold | heq
      · exact .inr ⟨other, hold⟩
      · have hpairs := hidle.1 c.matchID
        rw [← heq] at hpairs
        simp [Phase.pairs] at hpairs
  refine ⟨?_, ?_, ?_, fun c hc hc' => h.held c hc (hcompleted c hc hc'),
    fun c hc hc' => h.apart c hc (hcompleted c hc hc')⟩
  · intro other hother c hc
    rcases mem_setCall hother with hold | rfl
    · exact h.issued other hold c hc
    · exact absurd hc (hidle.2 c)
  · intro game hgame
    rcases List.mem_append.1 hgame with hgame | hgame
    · exact h.completed game hgame
    · obtain rfl := List.mem_singleton.1 hgame
      exact ⟨claims, hissued, rfl, rfl⟩
  · intro matchID
    have hcount := h.once matchID
    change (s.started ++ [newMatch claims.matchID partner.claims.playerID claims.playerID]).countP
      _ + (s.calls.set call phase).countP _ ≤ 1
    rw [List.countP_append, List.countP_singleton, List.countP_set hlt, hget, hidle.1]
    unfold Manager.newMatchCalls at hcount
    have hpos : Phase.pairs matchID (.pairing partner claims) = true →
        0 < s.calls.countP (Phase.pairs matchID) := fun hpairs =>
      List.countP_pos_iff.2 ⟨_, hin, hpairs⟩
    by_cases heq : claims.matchID = matchID
    · have hpairs : Phase.pairs matchID (.pairing partner claims) = true := decide_eq_true heq
      have hpos' := hpos hpairs
      rw [if_pos hpairs, if_pos (decide_eq_true (by exact heq))]
      simp only [Bool.false_eq_true, if_false]
      omega
    · have hpairs : ¬ Phase.pairs matchID (.pairing partner claims) = true :=
        fun hpairs => heq (of_decide_eq_true hpairs)
      have hgame : ¬ decide ((newMatch claims.matchID partner.claims.playerID
          claims.playerID).matchID = matchID) = true := fun hgame => heq (of_decide_eq_true hgame)
      rw [if_neg hpairs, if_neg hgame]
      simp only [Bool.false_eq_true, if_false]
      exact hcount

theorem StartedOnce.rendezvous (h : StartedOnce parse s) {call : Nat} {phase : Phase}
    (hcall : s.calls[call]? = some phase) (hidle : phase.Idle) (hoffers : ∀ c, ¬ phase.Holds c)
    {partner : WaitingPlayer} (hwaiting : s.isWaiting partner = true)
    (theirs mine : Except AuthError Session) :
    StartedOnce parse (s.rendezvous call partner theirs mine) := by
  have hpartner : s.calls[partner.call]? = some (.waiting partner.claims) :=
    of_decide_eq_true hwaiting
  have hne : partner.call ≠ call := by
    intro heq
    rw [heq, hcall] at hpartner
    cases hpartner
    exact hoffers _ rfl
  have hfirst := h.setCall hpartner (fun _ => rfl) (.returned theirs) (fun _ => rfl)
    (fun _ hc => hc.elim)
  have hcall' : (s.setCall partner.call (.returned theirs)).calls[call]? = some phase := by
    rw [← hcall]
    exact List.getElem?_set_ne hne
  exact hfirst.setCall hcall' hidle _ (fun _ => rfl) (fun _ hc => hc.elim)

theorem StartedOnce.next (htickets : Tickets parse) (h : StartedOnce parse s) {action : Action}
    (htimely : s.Timely action) (hnext : next parse s action = some t) : StartedOnce parse t := by
  cases action with
  | elapse duration =>
      cases hnext
      exact h.of_quiet rfl (Nat.le_add_right _ _) (fun _ => rfl) (fun _ _ hin => hin) h.issued
        (fun _ _ hmark => .inl hmark) (fun _ _ hin => hin)
  | verify request =>
      cases hnext
      exact h.begin request
  | lock call =>
      obtain ⟨claims, hcall, rfl⟩ := next_lock hnext
      exact h.purgeUsed.enter htickets hcall (htimely.lock hcall)
  | newMatch call =>
      obtain ⟨partner, claims, hcall, rfl⟩ := next_newMatch hnext
      exact h.start htickets hcall
  | offer call =>
      obtain ⟨partner, hwaiting, ⟨err, hcall, rfl⟩ | ⟨claims, game, hcall, rfl⟩⟩ := next_offer hnext
      · exact h.rendezvous hcall (fun _ => rfl) (fun _ hc => hc) hwaiting _ _
      · exact h.rendezvous hcall (fun _ => rfl) (fun _ hc => hc) hwaiting _ _
  | cancel call =>
      obtain ⟨claims, hcall, rfl⟩ := next_cancel hnext
      have hset := h.setCall hcall (fun _ => rfl) (.leaving claims) (fun _ => rfl)
        fun c hc => hc ▸ h.issued _ (List.mem_of_getElem? hcall) claims rfl
      exact ⟨hset.issued, hset.completed, hset.once, hset.held, hset.apart⟩
  | removeWaiting call =>
      obtain ⟨claims, hcall, rfl⟩ := next_removeWaiting hnext
      have hset := h.setCall hcall (fun _ => rfl) (.returned (.error .contextDone))
        (fun _ => rfl) (fun _ hc => hc.elim)
      refine hset.of_quiet rfl (Nat.le_refl _) (fun _ => rfl) (fun _ _ hin => hin) hset.issued
        (fun _ _ hmark => .inl hmark) fun matchID partner hin => ?_
      dsimp only at hin
      split_ifs at hin
      · by_cases heq : matchID = claims.matchID
        · rw [heq, Function.update_self] at hin
          cases hin
        · rw [Function.update_of_ne heq] at hin
          exact hin
      · exact hin
  | giveUp call =>
      obtain ⟨partner, -, ⟨err, hcall, rfl⟩ | ⟨claims, game, hcall, rfl⟩⟩ := next_giveUp hnext
      · exact h.setCall hcall (fun _ => rfl) _ (fun _ => rfl) (fun _ hc => hc.elim)
      · have hset := h.setCall hcall (fun _ => rfl) (.returned (.error .canceled))
          (fun _ => rfl) (fun _ hc => hc.elim)
        exact ⟨hset.issued, hset.completed, hset.once, hset.held, hset.apart⟩

/-- In every interleaving of `Authenticate` calls in which no ticket that completed a pairing enters
the section under the mutex after its expiry, `newMatch` is called at most once for a match ID. -/
theorem starts_at_most_once (htickets : Tickets parse) {clock : Nat} {actions : List Action}
    (hrun : Transition.run (next parse) (newMatchManager clock) actions = some s)
    (htimely : Transition.Meets (next parse) Manager.Timely (newMatchManager clock) actions)
    (matchID : String) : s.newMatchCalls matchID ≤ 1 := by
  have honce : StartedOnce parse s := Transition.meets_invariant
    (fun _ _ _ h htimely hnext => h.next htickets htimely hnext) hrun htimely
    (newMatchManager_once parse clock)
  have hcount := honce.once matchID
  omega

/-! ### A duel and its replay -/

/-- A library that knows the two tickets of one match. -/
def duelTickets (now : Nat) (raw : String) : Option Claims :=
  if now < 100 ∧ raw = "ticket-a" then
    some { matchID := "match-1", opponentID := "bob", subject := "alice", id := "1", expiresAt := 100 }
  else if now < 100 ∧ raw = "ticket-b" then
    some { matchID := "match-1", opponentID := "alice", subject := "bob", id := "2", expiresAt := 100 }
  else none

theorem duelTickets_tickets : Tickets duelTickets := by
  have hcases : ∀ now raw c, duelTickets now raw = some c → now < 100 ∧
      (c = { matchID := "match-1", opponentID := "bob", subject := "alice", id := "1"
             expiresAt := 100 } ∨
        c = { matchID := "match-1", opponentID := "alice", subject := "bob", id := "2"
              expiresAt := 100 }) := by
    intro now raw c hparse
    unfold duelTickets at hparse
    split_ifs at hparse with ha hb <;> cases hparse
    · exact ⟨ha.1, .inl rfl⟩
    · exact ⟨hb.1, .inr rfl⟩
  refine ⟨fun now raw c hparse => ?_, ?_, ?_⟩
  · obtain ⟨hnow, rfl | rfl⟩ := hcases now raw c hparse <;> exact hnow
  · rintro c c' ⟨now, raw, hc⟩ ⟨now', raw', hc'⟩ - hplayer
    obtain ⟨-, rfl | rfl⟩ := hcases now raw c hc <;> obtain ⟨-, rfl | rfl⟩ := hcases now' raw' c' hc'
    · rfl
    · exact absurd hplayer (by decide)
    · exact absurd hplayer (by decide)
    · rfl
  · rintro c c' ⟨now, raw, hc⟩ ⟨now', raw', hc'⟩ -
    obtain ⟨-, rfl | rfl⟩ := hcases now raw c hc <;>
      obtain ⟨-, rfl | rfl⟩ := hcases now' raw' c' hc' <;> decide

/-- Both players authenticate, and both replay their tickets. -/
def duelCalls : List Action :=
  [.verify ⟨"alice", "ticket-a"⟩, .verify ⟨"bob", "ticket-b"⟩, .verify ⟨"alice", "ticket-a"⟩,
    .verify ⟨"bob", "ticket-b"⟩, .lock 0, .lock 1, .newMatch 1, .offer 1]

/-- While the tickets are valid, the replays are refused. -/
theorem starts_at_most_once_duel :
    ∃ s, Transition.run (next duelTickets) (newMatchManager 0) (duelCalls ++ [.lock 2, .lock 3]) =
      some s ∧ s.newMatchCalls "match-1" ≤ 1 := by
  have hsome : (Transition.run (next duelTickets) (newMatchManager 0)
      (duelCalls ++ [.lock 2, .lock 3])).isSome = true := by
    decide +kernel
  obtain ⟨s, hrun⟩ := Option.isSome_iff_exists.1 hsome
  exact ⟨s, hrun, starts_at_most_once duelTickets_tickets hrun (by decide +kernel) "match-1"⟩

/-- Replays verified before the expiry that reach the mutex after it start the match again. -/
theorem replay_starts_again : ¬ ∀ parse, Tickets parse → ∀ clock actions s,
    Transition.run (next parse) (newMatchManager clock) actions = some s →
      ∀ matchID, s.newMatchCalls matchID ≤ 1 := by
  intro hclaim
  have hcalls : (Transition.run (next duelTickets) (newMatchManager 0)
      (duelCalls ++ [.elapse 100, .lock 2, .lock 3, .newMatch 3])).map
        (fun s => s.newMatchCalls "match-1") = some 2 := by
    decide +kernel
  obtain ⟨s, hrun, hcount⟩ := Option.map_eq_some_iff.1 hcalls
  have hle := hclaim duelTickets duelTickets_tickets 0 _ s hrun "match-1"
  omega

end PvpDuel.MatchServer
