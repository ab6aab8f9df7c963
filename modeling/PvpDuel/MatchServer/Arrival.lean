import PvpDuel.MatchServer.HandOver

/-!
# The arrival of a pair

Two calls come with the two tickets of a match, and nobody else has a call for it. Whoever reaches
the mutex first waits, the other one pairs, makes the match and offers the session: each of the four
steps brings the two one stage further, no step of another call takes them back, and a stage short of
the last one leaves one of the two a step to take.
-/

namespace PvpDuel.MatchServer

/-- The call has not begun, or has not reached the mutex. -/
def Manager.Before (s : Manager) (call : Nat) (c : Claims) : Prop :=
  s.calls.length ≤ call ∨ s.calls[call]? = some (.verified c)

/-- How far two calls have come, the first of which is the one that waits. -/
inductive Stage (s : Manager) (a b : Nat) (ca cb : Claims) : Nat → Prop
  | arriving : s.Before a ca → s.Before b cb → s.used ca.matchID = none →
      s.waiting ca.matchID = none → Stage s a b ca cb 0
  | waits : s.calls[a]? = some (.waiting ca) → s.Before b cb → s.used ca.matchID = none →
      s.waiting ca.matchID = some ⟨ca, a⟩ → Stage s a b ca cb 1
  | pairs : s.calls[a]? = some (.waiting ca) → s.calls[b]? = some (.pairing ⟨ca, a⟩ cb) →
      Stage s a b ca cb 2
  | offers {game : Nat} : s.calls[a]? = some (.waiting ca) →
      s.calls[b]? = some (.offering ⟨ca, a⟩ cb game) → Stage s a b ca cb 3
  | met {game : Nat} : s.calls[a]? = some (.returned (.ok ⟨game, ca.playerID⟩)) →
      s.calls[b]? = some (.returned (.ok ⟨game, cb.playerID⟩)) → Stage s a b ca cb 4

/-- The calls other than the two are not for their match, and returned no session of it. -/
structure Manager.Elsewhere (s : Manager) (a b : Nat) (matchID : String) : Prop where
  idle : ∀ (call : Nat) phase, call ≠ a → call ≠ b → s.calls[call]? = some phase →
    ¬ phase.RunsFor matchID
  unmet : ∀ (call : Nat) session game, call ≠ a → call ≠ b →
    s.calls[call]? = some (.returned (.ok session)) → s.started[session.game]? = some game →
      game.matchID ≠ matchID

/-- A call is canceled only as it leaves its `select`. -/
def Manager.CanceledLeft (s : Manager) : Prop :=
  ∀ call ∈ s.canceled, (∃ c, s.calls[call]? = some (.leaving c)) ∨
    s.calls[call]? = some (.returned (.error .contextDone))

/-- The action begins no call but the two for their match, with these tickets, and cancels neither. -/
structure Action.Suits (parse : Nat → String → Option Claims) (a b : Nat) (ca cb : Claims)
    (s : Manager) (action : Action) : Prop where
  first : ∀ request, action = .verify request → s.calls.length = a →
    Attempt.claims parse ⟨s.clock, request⟩ = some ca
  second : ∀ request, action = .verify request → s.calls.length = b →
    Attempt.claims parse ⟨s.clock, request⟩ = some cb
  others : ∀ request c, action = .verify request → s.calls.length ≠ a → s.calls.length ≠ b →
    Attempt.claims parse ⟨s.clock, request⟩ = some c → c.matchID ≠ ca.matchID
  stays : action ≠ .cancel a
  stays' : action ≠ .cancel b

variable {parse : Nat → String → Option Claims} {begun : List Attempt} {s t : Manager}
  {action : Action} {a b : Nat} {ca cb : Claims}

theorem Action.Suits.symm (h : action.Suits parse a b ca cb s) (hid : ca.matchID = cb.matchID) :
    action.Suits parse b a cb ca s :=
  ⟨h.second, h.first, fun request c hverify hb ha => hid ▸ h.others request c hverify ha hb,
    h.stays', h.stays⟩

theorem CanceledLeft.next (h : s.CanceledLeft) (hnext : next parse s action = some t) :
    t.CanceledLeft := by
  intro call hcall
  rcases (next_canceled_iff hnext).1 hcall with hold | rfl
  · rcases h call hold with ⟨c, hc⟩ | hc
    · rcases next_moves hnext hc with hsame | ⟨new, hnew, hmoves⟩
      · exact .inl ⟨c, hsame⟩
      · cases hmoves
        exact .inr hnew
    · exact .inr (next_returned hnext hc)
  · obtain ⟨c, hc, rfl⟩ := next_cancel hnext
    exact .inl ⟨c, (getElem?_set_iff hc).2 (.inl ⟨rfl, rfl⟩)⟩

theorem before_next {call : Nat} {c : Claims} (h : s.Before call c)
    (hnext : next parse s action = some t) (hown : action.call ≠ some call)
    (hbegin : ∀ request, action = .verify request → s.calls.length = call →
      Attempt.claims parse ⟨s.clock, request⟩ = some c) : t.Before call c := by
  rcases h with hlater | hverified
  · cases action with
    | verify request =>
        obtain rfl := Option.some.inj hnext
        rw [begin_eq]
        rcases Nat.eq_or_lt_of_le hlater with heq | hlt
        · right
          subst heq
          simp [Attempt.phase, hbegin request rfl rfl]
        · left
          rw [List.length_append, List.length_singleton]
          exact hlt
    | _ =>
        left
        rw [next_length hnext]
        exact hlater
  · rcases next_moves hnext hverified with hsame | ⟨new, -, hmoves⟩
    · exact .inr hsame
    · cases hmoves <;> exact absurd rfl hown

section Steps

variable (hfaces : Faces ca cb) (hne : a ≠ b) (h : Paired parse begun s) (hleft : s.CanceledLeft)
  (helse : s.Elsewhere a b ca.matchID) (hsuits : action.Suits parse a b ca cb s)
  (hnext : next parse s action = some t)

include helse hnext in
theorem used_of_others (ha : action.call ≠ some a) (hb : action.call ≠ some b)
    (hmark : s.used ca.matchID = none) : t.used ca.matchID = none := by
  by_contra hmark'
  rcases next_mark hnext hmark' with hold | ⟨call, w, c, rfl, hid, hverified, -⟩
  · exact hold hmark
  · refine helse.idle call _ ?_ ?_ hverified hid
    · rintro rfl
      exact ha rfl
    · rintro rfl
      exact hb rfl

include helse hnext in
theorem unlisted_of_others (ha : action.call ≠ some a) (hb : action.call ≠ some b)
    (hwaiting : s.waiting ca.matchID = none) : t.waiting ca.matchID = none := by
  rw [Option.eq_none_iff_forall_ne_some]
  intro w hw
  rcases next_listed hnext hw with hold | ⟨rfl, hid, hverified⟩
  · rw [hwaiting] at hold
    cases hold
  · refine helse.idle w.call _ ?_ ?_ hverified hid
    · rintro rfl
      exact ha rfl
    · rintro rfl
      exact hb rfl

include helse hnext in
theorem listed_of_others (ha : action.call ≠ some a) (hb : action.call ≠ some b)
    (hwaiting : s.waiting ca.matchID = some ⟨ca, a⟩) :
    t.waiting ca.matchID = some ⟨ca, a⟩ := by
  rcases next_entry hnext hwaiting with hsame | ⟨rfl, -⟩ | ⟨call, c, rfl, hid, hverified, -⟩
  · exact hsame
  · exact absurd rfl ha
  · refine absurd hid (helse.idle call _ ?_ ?_ hverified)
    · rintro rfl
      exact ha rfl
    · rintro rfl
      exact hb rfl

/-- The step of a call that has not passed the mutex is the section under it. -/
theorem before_own {call : Nat} {c : Claims} (hbefore : s.Before call c)
    (hnext : next parse s action = some t) (hown : action.call = some call) :
    action = .lock call ∧ s.calls[call]? = some (.verified c) ∧ t = s.purgeUsed.enter call c := by
  rcases hbefore with hlater | hverified
  · obtain ⟨phase, hcall, -⟩ := own_takes hnext hown
    rw [List.getElem?_eq_none hlater] at hcall
    cases hcall
  · cases takes_of_phase hnext hverified hown
    obtain ⟨c', hcall, rfl⟩ := next_lock hnext
    rw [hverified] at hcall
    obtain rfl := Phase.verified.inj (Option.some.inj hcall)
    exact ⟨rfl, hverified, rfl⟩

/-- The only step of a call at its `select` is to leave it for a canceled context. -/
theorem canceled_of_waiting {call : Nat} {c : Claims} (hcall : s.calls[call]? = some (.waiting c))
    (hnext : next parse s action = some t) (hown : action.call = some call) :
    action = .cancel call := by
  cases takes_of_phase hnext hcall hown
  rfl

include hne hnext in
theorem Stage.wait (hbefore : s.Before a ca) (hbefore' : s.Before b cb)
    (hmark : s.used ca.matchID = none) (hwaiting : s.waiting ca.matchID = none)
    (hown : action.call = some a) : Stage t a b ca cb 1 := by
  obtain ⟨rfl, hverified, ht⟩ := before_own hbefore hnext hown
  have hpurged : s.purgeUsed.used ca.matchID = none := by
    simp [Manager.purgeUsed, hmark]
  have hlater : t.Before b cb := by
    refine before_next hbefore' hnext (fun hb => hne (Option.some.inj hb)) ?_
    simp
  rw [enter_of_free hpurged hwaiting] at ht
  subst ht
  refine .waits ((getElem?_set_iff hverified).2 (.inl ⟨rfl, rfl⟩)) hlater hpurged ?_
  exact Function.update_self ..

include hfaces hne hnext in
theorem Stage.pair (hcall : s.calls[a]? = some (.waiting ca)) (hbefore : s.Before b cb)
    (hmark : s.used ca.matchID = none) (hwaiting : s.waiting ca.matchID = some ⟨ca, a⟩)
    (hown : action.call = some b) : Stage t a b ca cb 2 := by
  obtain ⟨rfl, hverified, ht⟩ := before_own hbefore hnext hown
  have hpurged : s.purgeUsed.used cb.matchID = none := by
    simp [Manager.purgeUsed, hfaces.matchID ▸ hmark]
  have hlisted : s.purgeUsed.waiting cb.matchID = some ⟨ca, a⟩ := hfaces.matchID ▸ hwaiting
  rw [enter_of_faces hpurged hlisted hfaces] at ht
  subst ht
  exact .pairs ((getElem?_set_iff hverified).2 (.inr ⟨hne, hcall⟩))
    ((getElem?_set_iff hverified).2 (.inl ⟨rfl, rfl⟩))

theorem not_own_of_returned {call : Nat} {result : Except AuthError Session}
    (hcall : s.calls[call]? = some (.returned result)) (hnext : next parse s action = some t) :
    action.call ≠ some call := by
  intro hown
  cases takes_of_phase hnext hcall hown

include h hnext in
/-- A call at its `select` that is not canceled stays there, unless it is offered a session. -/
theorem waiting_or_offered (hcall : s.calls[a]? = some (.waiting ca)) (hstays : action ≠ .cancel a) :
    t.calls[a]? = some (.waiting ca) ∨ ∃ pairer c game, action = .offer pairer ∧
      s.calls[pairer]? = some (.offering ⟨ca, a⟩ c game) := by
  rcases next_moves hnext hcall with hsame | ⟨new, -, hmoves⟩
  · exact .inl hsame
  cases hmoves with
  | receive hpairer => exact .inr ⟨_, _, _, rfl, hpairer⟩
  | receiveError hpairer => exact absurd hpairer (h.accepted _ _ _)
  | cancel => exact absurd rfl hstays

include hfaces hne h hleft hsuits hnext in
theorem Stage.next_own {n : Nat} (hstage : Stage s a b ca cb n)
    (hown : action.call = some a ∨ action.call = some b) :
    Stage t a b ca cb (n + 1) ∨ Stage t b a cb ca (n + 1) := by
  have hnotWaiting : s.calls[a]? = some (.waiting ca) → action.call ≠ some a :=
    fun hcall ha => hsuits.stays (canceled_of_waiting hcall hnext ha)
  cases hstage with
  | arriving hbefore hbefore' hmark hwaiting =>
      rcases hown with ha | hb
      · exact .inl (Stage.wait hne hnext hbefore hbefore' hmark hwaiting ha)
      · rw [hfaces.matchID] at hmark hwaiting
        exact .inr (Stage.wait hne.symm hnext hbefore' hbefore hmark hwaiting hb)
  | waits hcall hbefore hmark hwaiting =>
      have hb := hown.resolve_left (hnotWaiting hcall)
      exact .inl (Stage.pair hfaces hne hnext hcall hbefore hmark hwaiting hb)
  | pairs hcall hpairing =>
      have hb := hown.resolve_left (hnotWaiting hcall)
      cases takes_of_phase hnext hpairing hb
      obtain ⟨w, c, hstart, rfl⟩ := next_newMatch hnext
      rw [hpairing] at hstart
      obtain ⟨rfl, rfl⟩ := Phase.pairing.inj (Option.some.inj hstart)
      left
      rw [Manager.start, h.afterNewMatch hpairing]
      exact .offers ((getElem?_set_iff hpairing).2 (.inr ⟨hne, hcall⟩))
        ((getElem?_set_iff hpairing).2 (.inl ⟨rfl, rfl⟩))
  | offers hcall hoffering =>
      have hb := hown.resolve_left (hnotWaiting hcall)
      cases takes_of_phase hnext hoffering hb with
      | offer =>
          obtain ⟨w, hwaiting, ⟨err, hfailing, -⟩ | ⟨c, game, hoffer, rfl⟩⟩ := next_offer hnext
          · exact absurd hfailing (h.accepted _ _ _)
          · rw [hoffering] at hoffer
            obtain ⟨rfl, rfl, rfl⟩ := Phase.offering.inj (Option.some.inj hoffer)
            have hmet := (h.meet hoffering hcall).2
            exact .inl (.met hmet.returned hmet.returned')
      | giveUp =>
          obtain ⟨w, hcanceled, ⟨err, hfailing, -⟩ | ⟨c, game, hoffer, -⟩⟩ := next_giveUp hnext
          · exact absurd hfailing (h.accepted _ _ _)
          · rw [hoffering] at hoffer
            obtain ⟨rfl, rfl, rfl⟩ := Phase.offering.inj (Option.some.inj hoffer)
            rcases hleft a hcanceled with ⟨_, hother⟩ | hother <;> simp [hcall] at hother
  | met hcall hcall' =>
      rcases hown with ha | hb
      · exact absurd ha (not_own_of_returned hcall hnext)
      · exact absurd hb (not_own_of_returned hcall' hnext)

include h helse hsuits hnext in
theorem Stage.next_other {n : Nat} (hstage : Stage s a b ca cb n) (ha : action.call ≠ some a)
    (hb : action.call ≠ some b) : Stage t a b ca cb n := by
  cases hstage with
  | arriving hbefore hbefore' hmark hwaiting =>
      exact .arriving (before_next hbefore hnext ha hsuits.first)
        (before_next hbefore' hnext hb hsuits.second) (used_of_others helse hnext ha hb hmark)
        (unlisted_of_others helse hnext ha hb hwaiting)
  | waits hcall hbefore hmark hwaiting =>
      rcases waiting_or_offered h hnext hcall hsuits.stays with hcall | ⟨pairer, c, game, -, hpairer⟩
      · exact .waits hcall (before_next hbefore hnext hb hsuits.second)
          (used_of_others helse hnext ha hb hmark) (listed_of_others helse hnext ha hb hwaiting)
      · exact absurd hwaiting ((h.taken pairer _ _ hpairer rfl).2.2 _)
  | pairs hcall hpairing =>
      rcases waiting_or_offered h hnext hcall hsuits.stays with hcall | ⟨pairer, c, game, -, hpairer⟩
      · rcases next_moves hnext hpairing with hsame | ⟨new, -, hmoves⟩
        · exact .pairs hcall hsame
        · cases hmoves
          exact absurd rfl hb
      · obtain rfl := h.alone pairer b _ _ _ _ hpairer hpairing rfl rfl rfl
        rw [hpairing] at hpairer
        cases hpairer
  | offers hcall hoffering =>
      rcases waiting_or_offered h hnext hcall hsuits.stays with hcall | ⟨pairer, c, game, rfl, hpairer⟩
      · rcases next_moves hnext hoffering with hsame | ⟨new, -, hmoves⟩
        · exact .offers hcall hsame
        · cases hmoves <;> exact absurd rfl hb
      · obtain rfl := h.alone pairer b _ _ _ _ hpairer hoffering rfl rfl rfl
        exact absurd rfl hb
  | met hcall hcall' => exact .met (next_returned hnext hcall) (next_returned hnext hcall')

include h hnext in
/-- A call that runs for a match ID ran for it before or begins with a ticket for it. -/
theorem runsFor_of_next {call : Nat} {phase : Phase} {matchID : String}
    (hphase : t.calls[call]? = some phase) (hruns : phase.RunsFor matchID) :
    (∃ old, s.calls[call]? = some old ∧ old.RunsFor matchID) ∨
      ∃ request c, action = .verify request ∧ s.calls.length = call ∧
        Attempt.claims parse ⟨s.clock, request⟩ = some c ∧ c.matchID = matchID := by
  rcases phase_of_next hnext hphase with ⟨old, hold, rfl | hmoves⟩ | ⟨request, hverify, hlength, rfl⟩
  · exact .inl ⟨_, hold, hruns⟩
  · left
    cases hmoves with
    | start =>
        rw [h.afterNewMatch hold] at hruns
        exact ⟨_, hold, hruns⟩
    | wait => exact ⟨_, hold, hruns⟩
    | pair => exact ⟨_, hold, hruns⟩
    | cancel => exact ⟨_, hold, hruns⟩
    | _ => exact absurd hruns id
  · right
    unfold Attempt.phase at hruns
    cases hclaims : Attempt.claims parse ⟨s.clock, request⟩ with
    | none => simp [hclaims, Phase.RunsFor] at hruns
    | some c =>
        rw [hclaims] at hruns
        exact ⟨request, c, hverify, hlength, hclaims, hruns⟩

include h hnext in
theorem session_of_next {call : Nat} {session : Session} {game : StartedMatch}
    (hcall : t.calls[call]? = some (.returned (.ok session)))
    (hgame : t.started[session.game]? = some game) :
    (s.calls[call]? = some (.returned (.ok session)) ∧ s.started[session.game]? = some game) ∨
      ∃ old, s.calls[call]? = some old ∧ old.RunsFor game.matchID := by
  rcases phase_of_next hnext hcall with ⟨old, hold, rfl | hmoves⟩ | ⟨request, -, -, hphase⟩
  · left
    obtain ⟨_, _, _, _, hmet, -⟩ := h.met call session hold
    refine ⟨hold, ?_⟩
    rw [hmet.started, ← hgame, next_started hnext hmet.started]
  · right
    generalize hnew : Phase.returned (.ok session) = new at hmoves
    cases hmoves with
    | offer =>
        cases hnew
        have hstarted := (h.offered call _ _ _ hold).1
        rw [next_started hnext hstarted] at hgame
        obtain rfl := Option.some.inj hgame
        exact ⟨_, hold, rfl⟩
    | receive hpairer =>
        cases hnew
        have hstarted := (h.offered _ _ _ _ hpairer).1
        rw [next_started hnext hstarted] at hgame
        obtain rfl := Option.some.inj hgame
        exact ⟨_, hold, (h.faces _ _ _ _ hpairer rfl rfl).matchID⟩
    | start =>
        rw [h.afterNewMatch hold] at hnew
        cases hnew
    | _ => cases hnew
  · unfold Attempt.phase at hphase
    split at hphase <;> cases hphase

include h helse hsuits hnext in
theorem elsewhere_next : t.Elsewhere a b ca.matchID := by
  constructor
  · intro call phase ha hb hphase hruns
    rcases runsFor_of_next h hnext hphase hruns with
      ⟨old, hold, hran⟩ | ⟨request, c, hverify, hlength, hclaims, hid⟩
    · exact helse.idle call old ha hb hold hran
    · exact hsuits.others request c hverify (by omega) (by omega) hclaims hid
  · intro call session game ha hb hcall hgame hid
    rcases session_of_next h hnext hcall hgame with ⟨hcall, hgame⟩ | ⟨old, hold, hran⟩
    · exact helse.unmet call session game ha hb hcall hgame hid
    · exact helse.idle call old ha hb hold (hid ▸ hran)

/-- A stage short of the last leaves one of the two a step to take, besides giving up at its `select`. -/
theorem Stage.enabled (parse : Nat → String → Option Claims) {n : Nat} (hstage : Stage s a b ca cb n)
    (ha : a < s.calls.length) (hb : b < s.calls.length) (hn : n ≠ 4) :
    ∃ action t, (action.call = some a ∨ action.call = some b) ∧ (∀ call, action ≠ .cancel call) ∧
      next parse s action = some t := by
  have hverified : ∀ {call : Nat} {c : Claims}, call < s.calls.length → s.Before call c →
      next parse s (.lock call) = some (s.purgeUsed.enter call c) := by
    rintro call c hlt (hle | hcall)
    · omega
    · exact lock_of_verified hcall
  cases hstage with
  | arriving hbefore _ _ _ => exact ⟨.lock a, _, .inl rfl, by simp, hverified ha hbefore⟩
  | waits _ hbefore _ _ => exact ⟨.lock b, _, .inr rfl, by simp, hverified hb hbefore⟩
  | pairs _ hpairing =>
      exact ⟨.newMatch b, s.start b ⟨ca, a⟩ cb, .inr rfl, by simp, by simp [next, hpairing]⟩
  | @offers game hcall hoffering =>
      refine ⟨.offer b, s.rendezvous b ⟨ca, a⟩ (.ok ⟨game, ca.playerID⟩) (.ok ⟨game, cb.playerID⟩),
        .inr rfl, by simp, ?_⟩
      simp [next, hoffering, Manager.isWaiting, hcall]
  | met => exact absurd rfl hn

end Steps

/-! ### Runs -/

/-- The steps of the two calls in a run. -/
def ownSteps (a b : Nat) (actions : List Action) : Nat :=
  actions.countP fun action => action.call = some a ∨ action.call = some b

/-- The calls that begin in a run are the two with their tickets and others that are not for their
match, and the two are not canceled. -/
structure Coming (parse : Nat → String → Option Claims) (s : Manager) (a b : Nat) (ca cb : Claims)
    (actions : List Action) : Prop where
  first : ∀ k att, (attempts s.clock actions)[k]? = some att → s.calls.length + k = a →
    att.claims parse = some ca
  second : ∀ k att, (attempts s.clock actions)[k]? = some att → s.calls.length + k = b →
    att.claims parse = some cb
  others : ∀ k att c, (attempts s.clock actions)[k]? = some att → s.calls.length + k ≠ a →
    s.calls.length + k ≠ b → att.claims parse = some c → c.matchID ≠ ca.matchID
  stays : .cancel a ∉ actions
  stays' : .cancel b ∉ actions

theorem Coming.cons {actions : List Action} (h : Coming parse s a b ca cb (action :: actions))
    (hnext : next parse s action = some t) :
    action.Suits parse a b ca cb s ∧ Coming parse t a b ca cb actions := by
  have hstays := h.stays
  have hstays' := h.stays'
  simp only [List.mem_cons, not_or] at hstays hstays'
  have hlater : ∀ (k : Nat) att, (attempts t.clock actions)[k]? = some att →
      ∃ k', (attempts s.clock (action :: actions))[k']? = some att ∧
        s.calls.length + k' = t.calls.length + k := by
    intro k att hatt
    refine ⟨(attempts s.clock [action]).length + k, ?_, by rw [next_length hnext]; omega⟩
    rw [← List.singleton_append, attempts_append, ← next_clock hnext,
      List.getElem?_append_right (Nat.le_add_right _ _), Nat.add_sub_cancel_left]
    exact hatt
  refine ⟨⟨?_, ?_, ?_, Ne.symm hstays.1, Ne.symm hstays'.1⟩, ⟨?_, ?_, ?_, hstays.2, hstays'.2⟩⟩
  · rintro request rfl hlength
    exact h.first 0 _ rfl hlength
  · rintro request rfl hlength
    exact h.second 0 _ rfl hlength
  · rintro request c rfl ha hb hclaims
    exact h.others 0 _ c rfl ha hb hclaims
  · intro k att hatt hlength
    obtain ⟨k', hk', heq⟩ := hlater k att hatt
    exact h.first k' att hk' (heq.trans hlength)
  · intro k att hatt hlength
    obtain ⟨k', hk', heq⟩ := hlater k att hatt
    exact h.second k' att hk' (heq.trans hlength)
  · intro k att c hatt ha hb hclaims
    obtain ⟨k', hk', heq⟩ := hlater k att hatt
    exact h.others k' att c hk' (heq ▸ ha) (heq ▸ hb) hclaims

theorem Elsewhere.symm (h : s.Elsewhere a b ca.matchID) (hid : ca.matchID = cb.matchID) :
    s.Elsewhere b a cb.matchID :=
  ⟨fun call phase hb ha hphase => hid ▸ h.idle call phase ha hb hphase,
    fun call session game hb ha hcall hgame => hid ▸ h.unmet call session game ha hb hcall hgame⟩

/-- Along a run, the two are at the stage of the number of their steps. -/
theorem stage_of_run (hfaces : Faces ca cb) (hne : a ≠ b) {n : Nat} {actions : List Action}
    (hrun : Transition.run (next parse) s actions = some t)
    (hcoming : Coming parse s a b ca cb actions) (h : Paired parse begun s)
    (hleft : s.CanceledLeft) (helse : s.Elsewhere a b ca.matchID)
    (hstage : Stage s a b ca cb n ∨ Stage s b a cb ca n) :
    (Stage t a b ca cb (n + ownSteps a b actions) ∨
        Stage t b a cb ca (n + ownSteps a b actions)) ∧ t.Elsewhere a b ca.matchID := by
  induction actions generalizing s begun n with
  | nil =>
      obtain rfl := Option.some.inj hrun
      exact ⟨hstage, helse⟩
  | cons action actions ih =>
      obtain ⟨u, hu, hrest⟩ := Transition.run_cons_iff.1 hrun
      obtain ⟨hsuits, hlater⟩ := hcoming.cons hu
      have hsuits' := hsuits.symm hfaces.matchID
      have helse' := Elsewhere.symm helse hfaces.matchID
      have hafter := elsewhere_next h helse hsuits hu
      by_cases hown : action.call = some a ∨ action.call = some b
      · have hcount : ownSteps a b (action :: actions) = ownSteps a b actions + 1 := by
          rw [ownSteps, List.countP_cons_of_pos (by simpa using hown)]
          rfl
        rw [hcount, Nat.add_comm _ 1, ← Nat.add_assoc]
        apply ih hrest hlater (h.next hu) (CanceledLeft.next hleft hu) hafter
        rcases hstage with hstage | hstage
        · exact hstage.next_own hfaces hne h hleft hsuits hu hown
        · exact (hstage.next_own hfaces.symm hne.symm h hleft hsuits' hu hown.symm).symm
      · have hcount : ownSteps a b (action :: actions) = ownSteps a b actions := by
          rw [ownSteps, List.countP_cons_of_neg (by simpa using hown)]
          rfl
        rw [hcount]
        push Not at hown
        apply ih hrest hlater (h.next hu) (CanceledLeft.next hleft hu) hafter
        rcases hstage with hstage | hstage
        · exact .inl (hstage.next_other h helse hsuits hu hown.1 hown.2)
        · exact .inr (hstage.next_other h helse' hsuits' hu hown.2 hown.1)

theorem Stage.le_four {n : Nat} (h : Stage s a b ca cb n) : n ≤ 4 := by
  cases h <;> omega

theorem Stage.no_error {n : Nat} (h : Stage s a b ca cb n) (ha : a < s.calls.length)
    (hb : b < s.calls.length) {call : Nat} (hcall : call = a ∨ call = b) (err : AuthError) :
    s.calls[call]? ≠ some (.returned (.error err)) := by
  have hbefore : ∀ {i : Nat} {c : Claims}, i < s.calls.length → s.Before i c →
      s.calls[i]? ≠ some (.returned (.error err)) := by
    rintro i c hlt (hle | hverified)
    · omega
    · simp [hverified]
  cases h with
  | arriving hfirst hsecond _ _ =>
      rcases hcall with rfl | rfl
      · exact hbefore ha hfirst
      · exact hbefore hb hsecond
  | waits hfirst hsecond _ _ =>
      rcases hcall with rfl | rfl
      · simp [hfirst]
      · exact hbefore hb hsecond
  | pairs hfirst hsecond => rcases hcall with rfl | rfl <;> simp [hfirst, hsecond]
  | offers hfirst hsecond => rcases hcall with rfl | rfl <;> simp [hfirst, hsecond]
  | met hfirst hsecond => rcases hcall with rfl | rfl <;> simp [hfirst, hsecond]

/-- The two calls come with their tickets to a manager that has no mark for their match and runs no
other call for it. Until they have taken four steps, one of them has another one to take; after the fourth
both have returned the two sessions of one match. No other call returns a session of their match. -/
theorem arrive {clock : Nat} {past actions : List Action}
    (hpast : Transition.run (next parse) (newMatchManager clock) past = some s)
    (hrun : Transition.run (next parse) s actions = some t) (hfaces : Faces ca cb) (hne : a ≠ b)
    (ha : s.calls.length ≤ a) (hb : s.calls.length ≤ b)
    (hcoming : Coming parse s a b ca cb actions) (hunmatched : s.Unmatched ca.matchID)
    (hmark : s.used ca.matchID = none) (ha' : a < t.calls.length) (hb' : b < t.calls.length) :
    ownSteps a b actions ≤ 4 ∧
    (ownSteps a b actions = 4 → ∃ game, t.calls[a]? = some (.returned (.ok ⟨game, ca.playerID⟩)) ∧
      t.calls[b]? = some (.returned (.ok ⟨game, cb.playerID⟩))) ∧
    (ownSteps a b actions ≠ 4 → ∃ action u, (action.call = some a ∨ action.call = some b) ∧
      (∀ call, action ≠ .cancel call) ∧ next parse t action = some u) ∧
    (∀ call err, call = a ∨ call = b → t.calls[call]? ≠ some (.returned (.error err))) ∧
    t.Elsewhere a b ca.matchID := by
  have h := Paired.run hpast
  have hleft : s.CanceledLeft := by
    refine Transition.run_invariant (fun _ _ _ h hnext => CanceledLeft.next h hnext) hpast ?_
    simp [Manager.CanceledLeft, newMatchManager]
  have hwaiting : s.waiting ca.matchID = none := Unmatched.waiting hunmatched h
  have hstage := stage_of_run hfaces hne hrun hcoming h hleft
    ⟨fun call phase _ _ hphase => hunmatched.idle phase (List.mem_of_getElem? hphase),
      fun call session game _ _ hcall hgame => hunmatched.unmet call session game hcall hgame⟩
    (.inl (.arriving (.inl ha) (.inl hb) hmark hwaiting))
  rw [Nat.zero_add] at hstage
  obtain ⟨hstage, helse⟩ := hstage
  refine ⟨?_, fun hlast => ?_, fun hshort => ?_, ?_, helse⟩
  · rcases hstage with hstage | hstage <;> exact hstage.le_four
  · rw [hlast] at hstage
    obtain hstage | hstage := hstage
    · cases hstage with
      | met hfirst hsecond => exact ⟨_, hfirst, hsecond⟩
    · cases hstage with
      | met hfirst hsecond => exact ⟨_, hsecond, hfirst⟩
  · obtain hstage | hstage := hstage
    · exact hstage.enabled parse ha' hb' hshort
    · obtain ⟨action, u, hown, hstays, hnext⟩ := hstage.enabled parse hb' ha' hshort
      exact ⟨action, u, hown.symm, hstays, hnext⟩
  · intro call err hcall
    rcases hstage with hstage | hstage
    · exact hstage.no_error ha' hb' hcall err
    · exact hstage.no_error hb' ha' hcall.symm err

end PvpDuel.MatchServer
