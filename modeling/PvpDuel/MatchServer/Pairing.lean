import PvpDuel.MatchServer.Replay

/-!
# Pairing is all or nothing

Two calls of `Authenticate` return the two sessions of a match together or neither returns one. The
invariant follows a waiting player from the table to the call that takes it: the table lists calls
that are at their `select` or on their way out, a call that paired holds the only reference to its
partner, and a match number is held by one call that offers it or by two that returned with it.
-/

namespace PvpDuel.MatchServer

open Simulation (RoomError)

/-! ### What a phase holds -/

namespace Phase

def ticket : Phase → Option Claims
  | .verified claims | .waiting claims | .leaving claims | .pairing _ claims
  | .offering _ claims _ => some claims
  | .failing _ _ | .returned _ => none

/-- The waiting player the call took from the table. -/
def partner : Phase → Option WaitingPlayer
  | .pairing partner _ | .failing partner _ | .offering partner _ _ => some partner
  | _ => none

/-- The match whose session the call offers or returned. -/
def game : Phase → Option Nat
  | .offering _ _ game => some game
  | .returned (.ok session) => some session.game
  | _ => none

/-- The call is at its `select`, or has left it for a canceled context and not returned. -/
def Listed (c : Claims) (phase : Phase) : Prop := phase = .waiting c ∨ phase = .leaving c

/-- The call is at its `select`, or has left it for a canceled context. -/
def Unmet (c : Claims) (phase : Phase) : Prop :=
  phase.Listed c ∨ phase = .returned (.error .contextDone)

theorem Listed.unique {c c' : Claims} {phase : Phase} (h : phase.Listed c) (h' : phase.Unmet c') :
    c = c' := by
  obtain rfl | rfl := h <;> simpa [Unmet, Listed] using h'

end Phase

/-! ### The invariant -/

/-- The table lists calls under the match IDs of their tickets, and none that is marked as used. -/
structure Tabled (s : Manager) : Prop where
  apart : ∀ matchID, s.waiting matchID = none ∨ s.used matchID = none
  listed : ∀ matchID w, s.waiting matchID = some w → w.claims.matchID = matchID ∧
    ∃ phase, s.calls[w.call]? = some phase ∧ phase.Listed w.claims

/-- A call that paired took a call that faces it from the table, and is the only one that did. -/
structure Engaged (parse : Nat → String → Option Claims) (begun : List Attempt) (s : Manager) :
    Prop where
  counted : begun.length = s.calls.length
  ticket : ∀ (i : Nat) (phase : Phase) (c : Claims), s.calls[i]? = some phase →
    phase.ticket = some c → Presents parse begun i c
  taken : ∀ (i : Nat) (phase : Phase) (w : WaitingPlayer), s.calls[i]? = some phase →
    phase.partner = some w →
    Presents parse begun w.call w.claims ∧
      (∃ other, s.calls[w.call]? = some other ∧ other.Unmet w.claims) ∧
      ∀ matchID, s.waiting matchID ≠ some w
  faces : ∀ (i : Nat) (phase : Phase) (w : WaitingPlayer) (c : Claims), s.calls[i]? = some phase →
    phase.partner = some w → phase.ticket = some c → Faces w.claims c
  alone : ∀ (i j : Nat) (phase other : Phase) (w w' : WaitingPlayer),
    s.calls[i]? = some phase → s.calls[j]? = some other → phase.partner = some w →
      other.partner = some w' → w.call = w'.call → i = j

/-- A waiting call and the call that paired with it returned the two sessions of a match. -/
structure Met (parse : Nat → String → Option Claims) (begun : List Attempt) (s : Manager)
    (waiter pairer game : Nat) (c c' : Claims) : Prop where
  ne : waiter ≠ pairer
  presents : Presents parse begun waiter c
  presents' : Presents parse begun pairer c'
  faces : Faces c c'
  started : s.started[game]? = some (newMatch c.matchID c.playerID c'.playerID)
  returned : s.calls[waiter]? = some (.returned (.ok ⟨game, c.playerID⟩))
  returned' : s.calls[pairer]? = some (.returned (.ok ⟨game, c'.playerID⟩))
  only : ∀ (k : Nat) (phase : Phase), s.calls[k]? = some phase → phase.game = some game →
    k = waiter ∨ k = pairer

/-- A match is held by the one call that offers it or by the two that returned with it. -/
structure Numbered (parse : Nat → String → Option Claims) (begun : List Attempt) (s : Manager) :
    Prop where
  accepted : ∀ (i : Nat) (w : WaitingPlayer) (err : RoomError), s.calls[i]? ≠ some (.failing w err)
  offered : ∀ (i : Nat) (w : WaitingPlayer) (c : Claims) (game : Nat),
    s.calls[i]? = some (.offering w c game) →
      s.started[game]? = some (newMatch c.matchID w.claims.playerID c.playerID) ∧
      ∀ (j : Nat) (phase : Phase), s.calls[j]? = some phase → phase.game = some game → j = i
  met : ∀ (i : Nat) (session : Session), s.calls[i]? = some (.returned (.ok session)) →
    ∃ waiter pairer c c', Met parse begun s waiter pairer session.game c c' ∧ (i = waiter ∨ i = pairer)

structure Paired (parse : Nat → String → Option Claims) (begun : List Attempt) (s : Manager) :
    Prop extends Tabled s, Engaged parse begun s, Numbered parse begun s

theorem newMatchManager_paired (parse : Nat → String → Option Claims) (clock : Nat) :
    Paired parse [] (newMatchManager clock) := by
  constructor <;> constructor <;> simp [newMatchManager]

variable {parse : Nat → String → Option Claims} {begun : List Attempt} {s t : Manager}

/-! ### One call moves on -/

section

variable {i : Nat} {old new : Phase}

theorem Tabled.move (h : Tabled s) (hcall : s.calls[i]? = some old)
    (hcalls : t.calls = s.calls.set i new)
    (hwaiting : ∀ matchID w, t.waiting matchID = some w → s.waiting matchID = some w)
    (hused : ∀ matchID, s.used matchID = none → t.used matchID = none)
    (hlisted : ∀ matchID c, old.Listed c → t.waiting matchID = some ⟨c, i⟩ → new.Listed c) :
    Tabled t := by
  constructor
  · intro matchID
    rcases h.apart matchID with hnone | hnone
    · left
      rw [Option.eq_none_iff_forall_ne_some]
      intro w hw
      simp [hwaiting matchID w hw] at hnone
    · exact .inr (hused matchID hnone)
  · intro matchID w hw
    obtain ⟨hid, phase, hphase, hlist⟩ := h.listed matchID w (hwaiting matchID w hw)
    refine ⟨hid, ?_⟩
    by_cases hwi : w.call = i
    · rw [hwi, hcall] at hphase
      obtain rfl := Option.some.inj hphase
      refine ⟨new, ?_, hlisted matchID w.claims hlist (hwi ▸ hw)⟩
      rw [hcalls, getElem?_set_iff hcall]
      exact .inl ⟨hwi, rfl⟩
    · refine ⟨phase, ?_, hlist⟩
      rw [hcalls, getElem?_set_iff hcall]
      exact .inr ⟨hwi, hphase⟩

theorem Engaged.move (h : Engaged parse begun s) (hcall : s.calls[i]? = some old)
    (hcalls : t.calls = s.calls.set i new)
    (hwaiting : ∀ matchID w, t.waiting matchID = some w → s.waiting matchID = some w)
    (hticket : ∀ c, new.ticket = some c → old.ticket = some c)
    (hpartner : ∀ w, new.partner = some w → old.partner = some w)
    (hunmet : ∀ c, old.Unmet c → new.Unmet c) : Engaged parse begun t := by
  have hbefore : ∀ (j : Nat) (phase : Phase), t.calls[j]? = some phase →
      ∃ before, s.calls[j]? = some before ∧ (∀ c, phase.ticket = some c → before.ticket = some c) ∧
      ∀ w, phase.partner = some w → before.partner = some w := by
    intro j phase hphase
    rw [hcalls, getElem?_set_iff hcall] at hphase
    obtain ⟨rfl, rfl⟩ | ⟨-, hphase⟩ := hphase
    · exact ⟨old, hcall, hticket, hpartner⟩
    · exact ⟨phase, hphase, fun _ hc => hc, fun _ hw => hw⟩
  refine ⟨?_, ?_, ?_, ?_, ?_⟩
  · rw [h.counted, hcalls, List.length_set]
  · intro j phase c hphase hc
    obtain ⟨before, hj, htick, -⟩ := hbefore j phase hphase
    exact h.ticket j before c hj (htick c hc)
  · intro j phase w hphase hw
    obtain ⟨before, hj, -, hpart⟩ := hbefore j phase hphase
    obtain ⟨hpresents, ⟨other, hother, hmet⟩, hunlisted⟩ := h.taken j before w hj (hpart w hw)
    refine ⟨hpresents, ?_, fun matchID hlist => hunlisted matchID (hwaiting matchID w hlist)⟩
    rw [hcalls]
    by_cases hwi : w.call = i
    · rw [hwi, hcall] at hother
      obtain rfl := Option.some.inj hother
      exact ⟨new, (getElem?_set_iff hcall).2 (.inl ⟨hwi, rfl⟩), hunmet _ hmet⟩
    · exact ⟨other, (getElem?_set_iff hcall).2 (.inr ⟨hwi, hother⟩), hmet⟩
  · intro j phase w c hphase hw hc
    obtain ⟨before, hj, htick, hpart⟩ := hbefore j phase hphase
    exact h.faces j before w c hj (hpart w hw) (htick c hc)
  · intro j k phase other w w' hphase hother hw hw' heq
    obtain ⟨before, hj, -, hpart⟩ := hbefore j phase hphase
    obtain ⟨before', hk, -, hpart'⟩ := hbefore k other hother
    exact h.alone j k before before' w w' hj hk (hpart w hw) (hpart' w' hw') heq

theorem Met.of_step {begun' : List Attempt} {waiter pairer game : Nat} {c c' : Claims}
    (h : Met parse begun s waiter pairer game c c')
    (hbegun : ∀ k c, Presents parse begun k c → Presents parse begun' k c)
    (hreturned : ∀ (k : Nat) result, s.calls[k]? = some (.returned result) →
      t.calls[k]? = some (.returned result))
    (hstarted : ∀ (number : Nat) started, s.started[number]? = some started →
      t.started[number]? = some started)
    (hgame : ∀ (k : Nat) (phase : Phase), t.calls[k]? = some phase → phase.game = some game →
      ∃ before, s.calls[k]? = some before ∧ before.game = some game) :
    Met parse begun' t waiter pairer game c c' := by
  refine ⟨h.ne, hbegun _ _ h.presents, hbegun _ _ h.presents', h.faces, hstarted _ _ h.started,
    hreturned _ _ h.returned, hreturned _ _ h.returned', ?_⟩
  intro k phase hphase hk
  obtain ⟨before, hbefore, hbeforeGame⟩ := hgame k phase hphase hk
  exact h.only k before hbefore hbeforeGame

theorem Numbered.move (h : Numbered parse begun s) (hcall : s.calls[i]? = some old)
    (hcalls : t.calls = s.calls.set i new) (hstarted : t.started = s.started)
    (hrunning : ∀ result, old ≠ .returned result) (hgame : new.game = none)
    (hfailing : ∀ w err, new ≠ .failing w err) : Numbered parse begun t := by
  have hbefore : ∀ (j : Nat) phase, t.calls[j]? = some phase → phase = new ∨
      (j ≠ i ∧ s.calls[j]? = some phase) := by
    intro j phase hphase
    rw [hcalls, getElem?_set_iff hcall] at hphase
    exact hphase.imp And.right id
  refine ⟨?_, ?_, ?_⟩
  · intro j w err hphase
    rcases hbefore j _ hphase with heq | ⟨-, hphase⟩
    · exact hfailing w err heq.symm
    · exact h.accepted j w err hphase
  · intro j w c game hphase
    rcases hbefore j _ hphase with rfl | ⟨-, hphase⟩
    · simp [Phase.game] at hgame
    · obtain ⟨hmatch, honly⟩ := h.offered j w c game hphase
      rw [hstarted]
      refine ⟨hmatch, fun k other hother hk => ?_⟩
      rcases hbefore k other hother with rfl | ⟨-, hother⟩
      · simp [hgame] at hk
      · exact honly k other hother hk
  · intro j session hphase
    rcases hbefore j _ hphase with rfl | ⟨-, hphase⟩
    · simp [Phase.game] at hgame
    · obtain ⟨waiter, pairer, c, c', hmet, hj⟩ := h.met j session hphase
      refine ⟨waiter, pairer, c, c', hmet.of_step (fun _ _ hk => hk) ?_ ?_ ?_, hj⟩
      · intro k result hk
        rw [hcalls, getElem?_set_iff hcall]
        refine .inr ⟨?_, hk⟩
        rintro rfl
        rw [hcall] at hk
        exact hrunning result (Option.some.inj hk)
      · rw [hstarted]
        exact fun _ _ hk => hk
      · intro k phase hk hphaseGame
        rcases hbefore k phase hk with rfl | ⟨-, hk⟩
        · simp [hgame] at hphaseGame
        · exact ⟨phase, hk, hphaseGame⟩

end

/-- A step that touches no call, no match and no entry of the table, and at most drops marks. -/
theorem Paired.of_same (h : Paired parse begun s) (hcalls : t.calls = s.calls)
    (hwaiting : t.waiting = s.waiting) (hstarted : t.started = s.started)
    (hused : ∀ matchID, s.used matchID = none → t.used matchID = none) : Paired parse begun t := by
  refine ⟨⟨fun matchID => ?_, ?_⟩, ⟨?_, ?_, ?_, ?_, ?_⟩, ⟨?_, ?_, ?_⟩⟩
  · rw [hwaiting]
    exact (h.apart matchID).imp_right (hused matchID)
  · rw [hwaiting, hcalls]
    exact h.listed
  · rw [hcalls]
    exact h.counted
  · rw [hcalls]
    exact h.ticket
  · rw [hcalls, hwaiting]
    exact h.taken
  · rw [hcalls]
    exact h.faces
  · rw [hcalls]
    exact h.alone
  · rw [hcalls]
    exact h.accepted
  · rw [hcalls, hstarted]
    exact h.offered
  · rw [hcalls]
    intro i session hi
    obtain ⟨waiter, pairer, c, c', hmet, hcase⟩ := h.met i session hi
    refine ⟨waiter, pairer, c, c', hmet.of_step (fun _ _ hk => hk) ?_ ?_ ?_, hcase⟩
    · simp [hcalls]
    · simp [hstarted]
    · intro k phase hphase hgame
      rw [hcalls] at hphase
      exact ⟨phase, hphase, hgame⟩

theorem Paired.purgeUsed (h : Paired parse begun s) : Paired parse begun s.purgeUsed := by
  refine h.of_same (t := s.purgeUsed) rfl rfl rfl fun matchID hmark => ?_
  simp [Manager.purgeUsed, hmark]

theorem Paired.free (h : Paired parse begun s) {matchID : String} {w w' : WaitingPlayer} {i : Nat}
    {phase : Phase} (hw : s.waiting matchID = some w) (hi : s.calls[i]? = some phase)
    (hw' : phase.partner = some w') : w'.call ≠ w.call := by
  intro heq
  obtain ⟨-, listed, hlisted, hlist⟩ := h.listed matchID w hw
  obtain ⟨-, ⟨other, hother, hmet⟩, hunlisted⟩ := h.taken i phase w' hi hw'
  rw [heq, hlisted] at hother
  have hclaims : w.claims = w'.claims := hlist.unique (Option.some.inj hother ▸ hmet)
  have hsame : w = w' := by
    cases w
    cases w'
    simp_all
  exact hunlisted matchID (hsame ▸ hw)

/-! ### The actions of one call -/

section

variable {call : Nat} {claims : Claims}

/-- A call that does not wait returns an error, and the table keeps its entries or loses some. -/
theorem Paired.refuse (h : Paired parse begun s) {old : Phase} (hcall : s.calls[call]? = some old)
    (hold : ∀ c, ¬ old.Unmet c) (hrunning : ∀ result, old ≠ .returned result) (err : AuthError) :
    Paired parse begun (s.setCall call (.returned (.error err))) := by
  refine ⟨h.toTabled.move hcall rfl (fun _ _ hw => hw) (fun _ hused => hused) ?_,
    h.toEngaged.move hcall rfl (fun _ _ hw => hw) ?_ ?_ ?_,
    h.toNumbered.move hcall rfl rfl hrunning rfl ?_⟩
  · exact fun _ c hc _ => absurd (.inl hc) (hold c)
  · simp [Phase.ticket]
  · simp [Phase.partner]
  · exact fun c hc => absurd hc (hold c)
  · simp

theorem Paired.begin (h : Paired parse begun s) (request : AuthenticateRequest) :
    Paired parse (begun ++ [⟨s.clock, request⟩]) (s.begin parse request) := by
  rw [begin_eq]
  have hphase : ∀ c, (Attempt.phase parse ⟨s.clock, request⟩).ticket = some c →
      Attempt.claims parse ⟨s.clock, request⟩ = some c := by
    intro c hc
    unfold Attempt.phase at hc
    cases hclaims : Attempt.claims parse ⟨s.clock, request⟩ with
    | none => simp [hclaims, Phase.ticket] at hc
    | some claims => simpa [hclaims, Phase.ticket] using hc
  have hnew : (Attempt.phase parse ⟨s.clock, request⟩).partner = none ∧
      (Attempt.phase parse ⟨s.clock, request⟩).game = none := by
    unfold Attempt.phase
    cases Attempt.claims parse ⟨s.clock, request⟩ <;> exact ⟨rfl, rfl⟩
  generalize Attempt.phase parse ⟨s.clock, request⟩ = new at hphase hnew ⊢
  obtain ⟨hpartner, hgame⟩ := hnew
  have hcases : ∀ (i : Nat) phase, (s.calls ++ [new])[i]? = some phase →
      s.calls[i]? = some phase ∨ (i = s.calls.length ∧ phase = new) := by
    intro i phase hi
    rcases Nat.lt_trichotomy i s.calls.length with hlt | rfl | hgt
    · rw [List.getElem?_append_left hlt] at hi
      exact .inl hi
    · simp only [List.getElem?_concat_length, Option.some.injEq] at hi
      exact .inr ⟨rfl, hi.symm⟩
    · rw [List.getElem?_eq_none (by simp; omega)] at hi
      cases hi
  have hpresents : ∀ i c, Presents parse begun i c →
      Presents parse (begun ++ [⟨s.clock, request⟩]) i c := by
    rintro i c ⟨a, ha, hc⟩
    exact ⟨a, getElem?_append_of ha, hc⟩
  have hlast : ∀ (i : Nat) phase, (s.calls ++ [new])[i]? = some phase →
      phase.partner ≠ none ∨ phase.game ≠ none → s.calls[i]? = some phase := by
    intro i phase hi hholds
    rcases hcases i phase hi with hi | ⟨-, rfl⟩
    · exact hi
    · simp [hpartner, hgame] at hholds
  refine ⟨⟨h.apart, ?_⟩, ⟨?_, ?_, ?_, ?_, ?_⟩, ⟨?_, ?_, ?_⟩⟩
  · intro matchID w hw
    obtain ⟨hid, phase, hi, hlisted⟩ := h.listed matchID w hw
    exact ⟨hid, phase, getElem?_append_of hi, hlisted⟩
  · simp [h.counted]
  · intro i phase c hi hc
    rcases hcases i phase hi with hi | ⟨rfl, rfl⟩
    · exact hpresents i c (h.ticket i phase c hi hc)
    · refine ⟨⟨s.clock, request⟩, ?_, hphase c hc⟩
      rw [← h.counted]
      exact List.getElem?_concat_length
  · intro i phase w hi hw
    obtain ⟨hp, ⟨other, hother, hunmet⟩, hunlisted⟩ :=
      h.taken i phase w (hlast i phase hi (.inl (by simp [hw]))) hw
    exact ⟨hpresents _ _ hp, ⟨other, getElem?_append_of hother, hunmet⟩, hunlisted⟩
  · intro i phase w c hi hw
    exact h.faces i phase w c (hlast i phase hi (.inl (by simp [hw]))) hw
  · intro i j phase other w w' hi hj hw hw'
    exact h.alone i j phase other w w' (hlast i phase hi (.inl (by simp [hw])))
      (hlast j other hj (.inl (by simp [hw']))) hw hw'
  · intro i w err hi
    exact h.accepted i w err (hlast i _ hi (.inl (by simp [Phase.partner])))
  · intro i w c game hi
    obtain ⟨hmatch, honly⟩ := h.offered i w c game (hlast i _ hi (.inl (by simp [Phase.partner])))
    exact ⟨hmatch, fun j phase hj hg => honly j phase (hlast j phase hj (.inr (by simp [hg]))) hg⟩
  · intro i session hi
    obtain ⟨waiter, pairer, c, c', hmet, hcase⟩ :=
      h.met i session (hlast i _ hi (.inr (by simp [Phase.game])))
    refine ⟨waiter, pairer, c, c', hmet.of_step hpresents (fun _ _ hk => getElem?_append_of hk)
      (fun _ _ hk => hk) ?_, hcase⟩
    intro k phase hk hg
    exact ⟨phase, hlast k phase hk (.inr (by simp [hg])), hg⟩

theorem Paired.cancel (h : Paired parse begun s) (hcall : s.calls[call]? = some (.waiting claims)) :
    Paired parse begun { s.setCall call (.leaving claims) with canceled := call :: s.canceled } := by
  have hlisted : ∀ c, Phase.Unmet c (.waiting claims) → Phase.Unmet c (.leaving claims) ∧
      Phase.Listed c (.leaving claims) := by
    intro c hc
    simp only [Phase.Unmet, Phase.Listed, Phase.waiting.injEq, reduceCtorEq, or_false] at hc
    simp [Phase.Unmet, Phase.Listed, hc]
  refine ⟨h.toTabled.move hcall rfl (fun _ _ hw => hw) (fun _ hused => hused)
      fun _ c hc _ => (hlisted c (.inl hc)).2,
    h.toEngaged.move hcall rfl (fun _ _ hw => hw) ?_ ?_ fun c hc => (hlisted c hc).1,
    h.toNumbered.move hcall rfl rfl ?_ rfl ?_⟩
  · simp [Phase.ticket]
  · simp [Phase.partner]
  · simp
  · simp

theorem Paired.removeWaiting (h : Paired parse begun s)
    (hcall : s.calls[call]? = some (.leaving claims)) :
    Paired parse begun { s.setCall call (.returned (.error .contextDone)) with
      waiting :=
        if s.waiting claims.matchID = some ⟨claims, call⟩ then
          Function.update s.waiting claims.matchID none
        else s.waiting } := by
  have hwaiting : ∀ matchID w, (if s.waiting claims.matchID = some ⟨claims, call⟩ then
      Function.update s.waiting claims.matchID none else s.waiting) matchID = some w →
        s.waiting matchID = some w ∧ w ≠ ⟨claims, call⟩ := by
    intro matchID w hw
    have hkey : s.waiting matchID = some ⟨claims, call⟩ → matchID = claims.matchID := fun hsome =>
      (h.listed matchID _ hsome).1.symm
    split_ifs at hw with hown
    · by_cases hid : matchID = claims.matchID
      · simp [hid] at hw
      · rw [Function.update_of_ne hid] at hw
        exact ⟨hw, fun heq => hid (hkey (heq ▸ hw))⟩
    · exact ⟨hw, fun heq => hown (hkey (heq ▸ hw) ▸ heq ▸ hw)⟩
  refine ⟨h.toTabled.move hcall rfl (fun matchID w hw => (hwaiting matchID w hw).1)
      (fun _ hused => hused) ?_,
    h.toEngaged.move hcall rfl (fun matchID w hw => (hwaiting matchID w hw).1) ?_ ?_ ?_,
    h.toNumbered.move hcall rfl rfl ?_ rfl ?_⟩
  · intro matchID c hc hw
    have hclaims : claims = c := by simpa [Phase.Listed] using hc
    exact absurd (hclaims ▸ rfl) (hwaiting matchID _ hw).2
  · simp [Phase.ticket]
  · simp [Phase.partner]
  · exact fun c _ => .inr rfl
  · simp
  · simp

theorem Paired.wait (h : Paired parse begun s) (hcall : s.calls[call]? = some (.verified claims))
    (hmark : s.used claims.matchID = none) :
    Paired parse begun { s.setCall call (.waiting claims) with
      waiting := Function.update s.waiting claims.matchID (some { claims, call }) } := by
  have hticket := h.ticket call _ claims hcall rfl
  have hunmet : ∀ c, ¬ Phase.Unmet c (.verified claims) := by
    simp [Phase.Unmet, Phase.Listed]
  have hself : (s.setCall call (.waiting claims)).calls[call]? = some (.waiting claims) :=
    (getElem?_set_iff hcall).2 (.inl ⟨rfl, rfl⟩)
  have htable : Tabled (s.setCall call (.waiting claims)) :=
    h.toTabled.move hcall rfl (fun _ _ hw => hw) (fun _ hused => hused)
      fun _ c hc _ => absurd (.inl hc) (hunmet c)
  have hengaged : Engaged parse begun (s.setCall call (.waiting claims)) := by
    refine h.toEngaged.move hcall rfl (fun _ _ hw => hw) ?_ ?_ ?_
    · simp [Phase.ticket]
    · simp [Phase.partner]
    · exact fun c hc => absurd hc (hunmet c)
  refine ⟨⟨?_, ?_⟩, ⟨hengaged.counted, hengaged.ticket, ?_, hengaged.faces, hengaged.alone⟩,
    h.toNumbered.move hcall rfl rfl ?_ rfl ?_⟩
  · intro matchID
    by_cases hid : matchID = claims.matchID
    · exact .inr (hid ▸ hmark)
    · show Function.update s.waiting claims.matchID _ matchID = none ∨ s.used matchID = none
      rw [Function.update_of_ne hid]
      exact h.apart matchID
  · intro matchID w hw
    by_cases hid : matchID = claims.matchID
    · simp only [hid, Function.update_self, Option.some.injEq] at hw
      subst hw
      exact ⟨hid.symm, _, hself, .inl rfl⟩
    · simp only [ne_eq, hid, not_false_eq_true, Function.update_of_ne] at hw
      exact htable.listed matchID w hw
  · intro i phase w hi hw
    obtain ⟨hp, hother, hunlisted⟩ := hengaged.taken i phase w hi hw
    refine ⟨hp, hother, fun matchID hlist => ?_⟩
    by_cases hid : matchID = claims.matchID
    · simp only [hid, Function.update_self, Option.some.injEq] at hlist
      have hbefore : s.calls[i]? = some phase := by
        rcases (getElem?_set_iff hcall).1 hi with ⟨-, rfl⟩ | ⟨-, hi⟩
        · simp [Phase.partner] at hw
        · exact hi
      obtain ⟨-, ⟨other, hcallee, hmet⟩, -⟩ := h.taken i phase w hbefore hw
      rw [← hlist, hcall] at hcallee
      exact hunmet _ (Option.some.inj hcallee ▸ hmet)
    · simp only [ne_eq, hid, not_false_eq_true, Function.update_of_ne] at hlist
      exact hunlisted matchID hlist
  · simp
  · simp

theorem Paired.pair (h : Paired parse begun s) (hcall : s.calls[call]? = some (.verified claims))
    {w : WaitingPlayer} (hw : s.waiting claims.matchID = some w)
    (hplayers : w.claims.playerID ≠ claims.playerID)
    (hopponent : w.claims.opponentID = claims.playerID)
    (hopponent' : claims.opponentID = w.claims.playerID) :
    Paired parse begun { s.setCall call (.pairing w claims) with
      waiting := Function.update s.waiting claims.matchID none
      used := Function.update s.used claims.matchID (some claims.expiresAt) } := by
  have hunmet : ∀ c, ¬ Phase.Unmet c (.verified claims) := by
    simp [Phase.Unmet, Phase.Listed]
  obtain ⟨hid, partner, hpartner, hlisted⟩ := h.listed claims.matchID w hw
  have hne : w.call ≠ call := by
    intro heq
    rw [heq, hcall] at hpartner
    exact hunmet _ (.inl (Option.some.inj hpartner ▸ hlisted))
  have hfaces : Faces w.claims claims := ⟨hid, hplayers, hopponent, hopponent'⟩
  have hwaiting : ∀ matchID w', Function.update s.waiting claims.matchID none matchID = some w' →
      s.waiting matchID = some w' ∧ matchID ≠ claims.matchID := by
    intro matchID w' hw'
    by_cases heq : matchID = claims.matchID
    · simp [heq] at hw'
    · rw [Function.update_of_ne heq] at hw'
      exact ⟨hw', heq⟩
  have hbefore : ∀ (i : Nat) phase, (s.calls.set call (.pairing w claims))[i]? = some phase →
      (i = call ∧ phase = .pairing w claims) ∨ (i ≠ call ∧ s.calls[i]? = some phase) :=
    fun i phase hi => (getElem?_set_iff hcall).1 hi
  have hkeeps : ∀ (i : Nat) phase, i ≠ call → s.calls[i]? = some phase →
      (s.calls.set call (.pairing w claims))[i]? = some phase :=
    fun i phase hi hphase => (getElem?_set_iff hcall).2 (.inr ⟨hi, hphase⟩)
  refine ⟨⟨?_, ?_⟩, ⟨?_, ?_, ?_, ?_, ?_⟩, h.toNumbered.move hcall rfl rfl ?_ rfl ?_⟩
  · intro matchID
    by_cases heq : matchID = claims.matchID
    · simp [heq]
    · simpa [heq] using h.apart matchID
  · intro matchID w' hw'
    obtain ⟨hold, heq⟩ := hwaiting matchID w' hw'
    obtain ⟨hid', phase, hphase, hlist⟩ := h.listed matchID w' hold
    refine ⟨hid', phase, hkeeps _ _ (fun hc => ?_) hphase, hlist⟩
    rw [hc, hcall] at hphase
    exact hunmet _ (.inl (Option.some.inj hphase ▸ hlist))
  · simp [h.counted, Manager.setCall]
  · intro i phase c hi hc
    rcases hbefore i phase hi with ⟨rfl, rfl⟩ | ⟨-, hi⟩
    · exact h.ticket i _ c hcall hc
    · exact h.ticket i phase c hi hc
  · intro i phase w' hi hw'
    rcases hbefore i phase hi with ⟨rfl, rfl⟩ | ⟨-, hi⟩
    · obtain rfl := Option.some.inj hw'
      have hpresents : Presents parse begun w.call w.claims := by
        obtain rfl | rfl := hlisted <;> exact h.ticket _ _ _ hpartner rfl
      refine ⟨hpresents, ⟨partner, hkeeps _ _ hne hpartner, .inl hlisted⟩, fun matchID hlist => ?_⟩
      obtain ⟨hold, heq⟩ := hwaiting matchID w hlist
      exact heq ((h.listed matchID w hold).1.symm.trans hid)
    · obtain ⟨hp, ⟨other, hother, hmet⟩, hunlisted⟩ := h.taken i phase w' hi hw'
      refine ⟨hp, ⟨other, hkeeps _ _ (fun hc => ?_) hother, hmet⟩,
        fun matchID hlist => hunlisted matchID (hwaiting matchID w' hlist).1⟩
      rw [hc, hcall] at hother
      exact hunmet _ (Option.some.inj hother ▸ hmet)
  · intro i phase w' c hi hw' hc
    rcases hbefore i phase hi with ⟨rfl, rfl⟩ | ⟨-, hi⟩
    · obtain rfl := Option.some.inj hw'
      obtain rfl := Option.some.inj hc
      exact hfaces
    · exact h.faces i phase w' c hi hw' hc
  · intro i j phase other w₁ w₂ hi hj h₁ h₂ heq
    rcases hbefore i phase hi with ⟨rfl, rfl⟩ | ⟨-, hold⟩ <;>
      rcases hbefore j other hj with ⟨rfl, rfl⟩ | ⟨-, hold'⟩
    · rfl
    · obtain rfl := Option.some.inj h₁
      exact absurd heq.symm (h.free hw hold' h₂)
    · obtain rfl := Option.some.inj h₂
      exact absurd heq (h.free hw hold h₁)
    · exact h.alone i j phase other w₁ w₂ hold hold' h₁ h₂ heq
  · simp
  · simp

theorem Paired.enter (h : Paired parse begun s) (hcall : s.calls[call]? = some (.verified claims)) :
    Paired parse begun (s.enter call claims) := by
  obtain ⟨err, -, heq⟩ | ⟨hmark, -, heq⟩ | ⟨w, -, hw, hplayers, hopponent, hopponent', heq⟩ :=
    enter_cases s call claims
  · rw [heq]
    apply h.refuse hcall
    · simp [Phase.Unmet, Phase.Listed]
    · simp
  · rw [heq]
    exact h.wait hcall hmark
  · rw [heq]
    exact h.pair hcall hw hplayers hopponent hopponent'

/-- `newMatch` makes a room for the two players: they are different and have names. -/
theorem Paired.afterNewMatch (h : Paired parse begun s) {w : WaitingPlayer}
    (hcall : s.calls[call]? = some (.pairing w claims)) (number : Nat) :
    Phase.afterNewMatch w claims number
      (newMatch claims.matchID w.claims.playerID claims.playerID) = .offering w claims number := by
  have hfaces := h.faces call _ w claims hcall rfl rfl
  obtain ⟨a, -, ha⟩ := h.ticket call _ claims hcall rfl
  obtain ⟨⟨a', -, ha'⟩, -⟩ := h.taken call _ w hcall rfl
  rw [Phase.afterNewMatch, newMatch_room claims.matchID (Attempt.claims_ok ha').2.2
    (Attempt.claims_ok ha).2.2 hfaces.players]

theorem Paired.start (h : Paired parse begun s) {w : WaitingPlayer}
    (hcall : s.calls[call]? = some (.pairing w claims)) :
    Paired parse begun (s.start call w claims) := by
  rw [Manager.start, h.afterNewMatch hcall]
  have hunmet : ∀ c, ¬ Phase.Unmet c (.pairing w claims) := by
    simp [Phase.Unmet, Phase.Listed]
  have hbefore : ∀ (i : Nat) phase,
      (s.calls.set call (.offering w claims s.started.length))[i]? = some phase →
        (i = call ∧ phase = .offering w claims s.started.length) ∨
          (i ≠ call ∧ s.calls[i]? = some phase) :=
    fun i phase hi => (getElem?_set_iff hcall).1 hi
  have hfresh : ∀ (i : Nat) phase game, s.calls[i]? = some phase → phase.game = some game →
      game < s.started.length := by
    intro i phase game hi hgame
    cases phase with
    | offering w' c number =>
        obtain rfl := Option.some.inj hgame
        exact (List.getElem?_eq_some_iff.1 (h.offered i w' c number hi).1).1
    | returned result =>
        cases result with
        | error err => simp [Phase.game] at hgame
        | ok session =>
            obtain rfl := Option.some.inj hgame
            obtain ⟨_, _, _, _, hmet, -⟩ := h.met i session hi
            exact (List.getElem?_eq_some_iff.1 hmet.started).1
    | _ => simp [Phase.game] at hgame
  refine ⟨h.toTabled.move hcall rfl (fun _ _ hw => hw) (fun _ hused => hused)
      fun _ c hc _ => absurd (.inl hc) (hunmet c),
    h.toEngaged.move hcall rfl (fun _ _ hw => hw) ?_ ?_ fun c hc => absurd hc (hunmet c),
    ⟨?_, ?_, ?_⟩⟩
  · simp [Phase.ticket]
  · simp [Phase.partner]
  · intro i w' err hi
    rcases hbefore i _ hi with ⟨-, hphase⟩ | ⟨-, hi⟩
    · simp at hphase
    · exact h.accepted i w' err hi
  · intro i w' c game hi
    rcases hbefore i _ hi with ⟨rfl, hphase⟩ | ⟨-, hi⟩
    · simp only [Phase.offering.injEq] at hphase
      obtain ⟨rfl, rfl, rfl⟩ := hphase
      refine ⟨List.getElem?_concat_length, fun j phase hj hgame => ?_⟩
      rcases hbefore j phase hj with ⟨rfl, -⟩ | ⟨-, hj⟩
      · rfl
      · exact absurd (hfresh j phase _ hj hgame) (Nat.lt_irrefl _)
    · obtain ⟨hstarted, honly⟩ := h.offered i w' c game hi
      refine ⟨getElem?_append_of hstarted, fun j phase hj hgame => ?_⟩
      rcases hbefore j phase hj with ⟨-, rfl⟩ | ⟨-, hj⟩
      · obtain rfl := Option.some.inj hgame
        exact absurd (hfresh i _ _ hi rfl) (Nat.lt_irrefl _)
      · exact honly j phase hj hgame
  · intro i session hi
    rcases hbefore i _ hi with ⟨-, hphase⟩ | ⟨-, hi⟩
    · simp at hphase
    obtain ⟨waiter, pairer, c, c', hmet, hcase⟩ := h.met i session hi
    refine ⟨waiter, pairer, c, c', hmet.of_step (fun _ _ hk => hk) ?_
      (fun _ _ hk => getElem?_append_of hk) ?_, hcase⟩
    · intro k result hk
      refine (getElem?_set_iff hcall).2 (.inr ⟨?_, hk⟩)
      rintro rfl
      simp [hcall] at hk
    · intro k phase hk hgame
      rcases hbefore k phase hk with ⟨-, rfl⟩ | ⟨-, hk⟩
      · exact absurd (Option.some.inj hgame) (Nat.ne_of_gt (hfresh i _ _ hi rfl))
      · exact ⟨phase, hk, hgame⟩

/-- The pairing call hands the waiting call its session, and both return. -/
structure HandsSession (s t : Manager) (call : Nat) (w : WaitingPlayer) (claims : Claims)
    (game : Nat) : Prop where
  offering : s.calls[call]? = some (.offering w claims game)
  waits : s.calls[w.call]? = some (.waiting w.claims)
  waiting : t.waiting = s.waiting
  used : t.used = s.used
  started : t.started = s.started
  length : t.calls.length = s.calls.length
  calls : ∀ (i : Nat) phase, t.calls[i]? = some phase ↔
    (i = call ∧ phase = .returned (.ok ⟨game, claims.playerID⟩)) ∨
    (i = w.call ∧ phase = .returned (.ok ⟨game, w.claims.playerID⟩)) ∨
    (i ≠ call ∧ i ≠ w.call ∧ s.calls[i]? = some phase)

theorem rendezvous_handsSession {w : WaitingPlayer} {game : Nat}
    (hcall : s.calls[call]? = some (.offering w claims game))
    (hpartner : s.calls[w.call]? = some (.waiting w.claims)) :
    HandsSession s (s.rendezvous call w (.ok ⟨game, w.claims.playerID⟩)
      (.ok ⟨game, claims.playerID⟩)) call w claims game := by
  have hne : w.call ≠ call := by
    intro heq
    simp [heq, hcall] at hpartner
  refine ⟨hcall, hpartner, rfl, rfl, rfl, ?_, fun i phase => getElem?_rendezvous hne hcall hpartner⟩
  simp [Manager.rendezvous, Manager.setCall]

section

variable {w : WaitingPlayer} {game : Nat}

theorem HandsSession.before (hands : HandsSession s t call w claims game) {i : Nat} {phase : Phase}
    (hi : t.calls[i]? = some phase) (hphase : ∀ session, phase ≠ .returned (.ok session)) :
    i ≠ call ∧ i ≠ w.call ∧ s.calls[i]? = some phase := by
  rcases (hands.calls i phase).1 hi with ⟨-, rfl⟩ | ⟨-, rfl⟩ | hrest
  · exact absurd rfl (hphase _)
  · exact absurd rfl (hphase _)
  · exact hrest

theorem HandsSession.before_of_holds (hands : HandsSession s t call w claims game) {i : Nat}
    {phase : Phase} (hi : t.calls[i]? = some phase)
    (hphase : phase.ticket ≠ none ∨ phase.partner ≠ none) :
    i ≠ call ∧ i ≠ w.call ∧ s.calls[i]? = some phase := by
  refine hands.before hi ?_
  rintro session rfl
  simp [Phase.ticket, Phase.partner] at hphase

theorem HandsSession.met (hands : HandsSession s t call w claims game) (h : Paired parse begun s) :
    Met parse begun t w.call call game w.claims claims := by
  obtain ⟨hpresents, -, -⟩ := h.taken call _ w hands.offering rfl
  obtain ⟨hstarted, honly⟩ := h.offered call w claims game hands.offering
  have hfaces := h.faces call _ w claims hands.offering rfl rfl
  refine ⟨fun heq => ?_, hpresents, h.ticket call _ claims hands.offering rfl, hfaces, ?_,
    (hands.calls _ _).2 (.inr (.inl ⟨rfl, rfl⟩)), (hands.calls _ _).2 (.inl ⟨rfl, rfl⟩), ?_⟩
  · have hwaits := hands.waits
    simp [heq, hands.offering] at hwaits
  · rw [hands.started, hfaces.matchID]
    exact hstarted
  · intro k phase hk hgame
    rcases (hands.calls k phase).1 hk with ⟨rfl, -⟩ | ⟨rfl, -⟩ | ⟨-, -, hk⟩
    · exact .inr rfl
    · exact .inl rfl
    · exact .inr (honly k phase hk hgame)

theorem HandsSession.tabled (hands : HandsSession s t call w claims game)
    (h : Paired parse begun s) : Tabled t := by
  refine ⟨?_, ?_⟩
  · rw [hands.waiting, hands.used]
    exact h.apart
  · rw [hands.waiting]
    intro matchID w' hw'
    obtain ⟨hid, phase, hphase, hlisted⟩ := h.listed matchID w' hw'
    refine ⟨hid, phase, (hands.calls _ _).2 (.inr (.inr ⟨fun heq => ?_, ?_, hphase⟩)), hlisted⟩
    · rw [heq, hands.offering] at hphase
      obtain rfl := Option.some.inj hphase
      simp [Phase.Listed] at hlisted
    · exact (h.free hw' hands.offering rfl).symm

theorem HandsSession.engaged (hands : HandsSession s t call w claims game)
    (h : Paired parse begun s) : Engaged parse begun t := by
  refine ⟨?_, ?_, ?_, ?_, ?_⟩
  · rw [h.counted, hands.length]
  · intro i phase c hi hc
    obtain ⟨-, -, hi⟩ := hands.before_of_holds hi (.inl (by simp [hc]))
    exact h.ticket i phase c hi hc
  · intro i phase w' hi hw'
    obtain ⟨hicall, -, hi⟩ := hands.before_of_holds hi (.inr (by simp [hw']))
    obtain ⟨hp, ⟨other, hother, hunmet⟩, hlist⟩ := h.taken i phase w' hi hw'
    rw [hands.waiting]
    refine ⟨hp, ⟨other, (hands.calls _ _).2 (.inr (.inr ⟨fun heq => ?_, fun heq => ?_, hother⟩)),
      hunmet⟩, hlist⟩
    · rw [heq, hands.offering] at hother
      obtain rfl := Option.some.inj hother
      simp [Phase.Unmet, Phase.Listed] at hunmet
    · exact hicall (h.alone i call phase _ w' w hi hands.offering hw' rfl heq)
  · intro i phase w' c hi hw' hc
    obtain ⟨-, -, hi⟩ := hands.before_of_holds hi (.inr (by simp [hw']))
    exact h.faces i phase w' c hi hw' hc
  · intro i j phase other w₁ w₂ hi hj h₁ h₂ heq
    obtain ⟨-, -, hi⟩ := hands.before_of_holds hi (.inr (by simp [h₁]))
    obtain ⟨-, -, hj⟩ := hands.before_of_holds hj (.inr (by simp [h₂]))
    exact h.alone i j phase other w₁ w₂ hi hj h₁ h₂ heq

theorem HandsSession.game_before (hands : HandsSession s t call w claims game) {game' k : Nat}
    (hother : game ≠ game') {phase : Phase} (hk : t.calls[k]? = some phase)
    (hgame : phase.game = some game') : s.calls[k]? = some phase := by
  rcases (hands.calls k phase).1 hk with ⟨-, rfl⟩ | ⟨-, rfl⟩ | ⟨-, -, hk⟩
  · exact absurd (Option.some.inj hgame) hother
  · exact absurd (Option.some.inj hgame) hother
  · exact hk

theorem HandsSession.numbered (hands : HandsSession s t call w claims game)
    (h : Paired parse begun s) : Numbered parse begun t := by
  refine ⟨?_, ?_, ?_⟩
  · intro i w' err hi
    exact h.accepted i w' err (hands.before hi (by simp)).2.2
  · intro i w' c game' hi
    obtain ⟨hicall, -, hi⟩ := hands.before hi (by simp)
    obtain ⟨hstarted', honly'⟩ := h.offered i w' c game' hi
    rw [hands.started]
    refine ⟨hstarted', fun j phase hj hgame => ?_⟩
    have hother : game ≠ game' := by
      rintro rfl
      exact hicall ((h.offered call w claims game hands.offering).2 i _ hi rfl)
    exact honly' j phase (hands.game_before hother hj hgame) hgame
  · intro i session hi
    rcases (hands.calls i _).1 hi with ⟨rfl, hsession⟩ | ⟨rfl, hsession⟩ | ⟨-, -, hi⟩
    · obtain rfl : session = ⟨game, claims.playerID⟩ := by simpa using hsession
      exact ⟨_, _, _, _, hands.met h, .inr rfl⟩
    · obtain rfl : session = ⟨game, w.claims.playerID⟩ := by simpa using hsession
      exact ⟨_, _, _, _, hands.met h, .inl rfl⟩
    obtain ⟨waiter, pairer, c, c', hold, hcase⟩ := h.met i session hi
    have hother : game ≠ session.game := by
      intro heq
      rcases hold.only call _ hands.offering (congrArg some heq) with rfl | rfl
      · exact absurd (hands.offering.symm.trans hold.returned) (by simp)
      · exact absurd (hands.offering.symm.trans hold.returned') (by simp)
    refine ⟨waiter, pairer, c, c', hold.of_step (fun _ _ hk => hk) ?_ ?_ ?_, hcase⟩
    · intro k result hk
      refine (hands.calls k _).2 (.inr (.inr ⟨?_, ?_, hk⟩))
      · rintro rfl
        simp [hands.offering] at hk
      · rintro rfl
        simp [hands.waits] at hk
    · rw [hands.started]
      exact fun _ _ hk => hk
    · exact fun k phase hk hgame => ⟨phase, hands.game_before hother hk hgame, hgame⟩

end

theorem Paired.meet (h : Paired parse begun s) {w : WaitingPlayer} {game : Nat}
    (hcall : s.calls[call]? = some (.offering w claims game))
    (hpartner : s.calls[w.call]? = some (.waiting w.claims)) :
    Paired parse begun (s.rendezvous call w (.ok ⟨game, w.claims.playerID⟩)
        (.ok ⟨game, claims.playerID⟩)) ∧
      Met parse begun (s.rendezvous call w (.ok ⟨game, w.claims.playerID⟩)
        (.ok ⟨game, claims.playerID⟩)) w.call call game w.claims claims := by
  have hands := rendezvous_handsSession hcall hpartner
  exact ⟨⟨hands.tabled h, hands.engaged h, hands.numbered h⟩, hands.met h⟩

end

/-! ### Every step and every run -/

theorem Paired.next (h : Paired parse begun s) {action : Action}
    (hnext : next parse s action = some t) :
    Paired parse (begun ++ attempts s.clock [action]) t := by
  cases action with
  | elapse duration =>
      obtain rfl := Option.some.inj hnext
      rw [show attempts s.clock [.elapse duration] = [] from rfl, List.append_nil]
      exact h.of_same rfl rfl rfl fun _ hmark => hmark
  | verify request =>
      obtain rfl := Option.some.inj hnext
      exact h.begin request
  | lock call =>
      obtain ⟨claims, hcall, rfl⟩ := next_lock hnext
      simpa [attempts] using h.purgeUsed.enter hcall
  | newMatch call =>
      obtain ⟨w, claims, hcall, rfl⟩ := next_newMatch hnext
      simpa [attempts] using h.start hcall
  | offer call =>
      obtain ⟨w, hwaiting, ⟨err, hcall, rfl⟩ | ⟨claims, game, hcall, rfl⟩⟩ := next_offer hnext
      · exact absurd hcall (h.accepted call w err)
      · have hmeet := h.meet hcall (of_decide_eq_true hwaiting)
        simpa [attempts] using hmeet.1
  | cancel call =>
      obtain ⟨claims, hcall, rfl⟩ := next_cancel hnext
      simpa [attempts] using h.cancel hcall
  | removeWaiting call =>
      obtain ⟨claims, hcall, rfl⟩ := next_removeWaiting hnext
      simpa [attempts] using h.removeWaiting hcall
  | giveUp call =>
      obtain ⟨w, -, ⟨err, hcall, rfl⟩ | ⟨claims, game, hcall, rfl⟩⟩ := next_giveUp hnext
      · exact absurd hcall (h.accepted call w err)
      · have hrefuse := h.refuse hcall (by simp [Phase.Unmet, Phase.Listed]) (by simp) .canceled
        simpa [attempts] using hrefuse.of_same (t := { s.setCall call
          (.returned (.error .canceled)) with aborted := game :: s.aborted }) rfl rfl rfl
          fun _ hmark => hmark

theorem Paired.run_from (h : Paired parse begun s) {actions : List Action}
    (hrun : Transition.run (MatchServer.next parse) s actions = some t) :
    Paired parse (begun ++ attempts s.clock actions) t := by
  induction actions generalizing s begun with
  | nil =>
      obtain rfl := Option.some.inj hrun
      simpa [attempts] using h
  | cons action actions ih =>
      obtain ⟨u, hu, hrest⟩ := Transition.run_cons_iff.1 hrun
      have hfinal := ih (h.next hu) hrest
      rw [List.append_assoc, next_clock hu, ← attempts_append] at hfinal
      exact hfinal

theorem Paired.run {clock : Nat} {actions : List Action}
    (hrun : Transition.run (MatchServer.next parse) (newMatchManager clock) actions = some s) :
    Paired parse (attempts clock actions) s :=
  (newMatchManager_paired parse clock).run_from hrun

/-! ### Sessions come in pairs -/

/-- The call returned a session of this match. -/
def Manager.ReturnsSession (s : Manager) (call game : Nat) : Prop :=
  ∃ playerID, s.calls[call]? = some (.returned (.ok ⟨game, playerID⟩))

theorem Met.returnsSession {waiter pairer game : Nat} {c c' : Claims}
    (h : Met parse begun s waiter pairer game c c') (call : Nat) :
    s.ReturnsSession call game ↔ call = waiter ∨ call = pairer := by
  constructor
  · rintro ⟨playerID, hcall⟩
    exact h.only call _ hcall rfl
  · rintro (rfl | rfl)
    · exact ⟨_, h.returned⟩
    · exact ⟨_, h.returned'⟩

theorem Paired.returnsSession_iff (h : Paired parse begun s) (call game : Nat) :
    s.ReturnsSession call game ↔ ∃! other, other ≠ call ∧ s.ReturnsSession other game := by
  constructor
  · rintro ⟨playerID, hcall⟩
    obtain ⟨waiter, pairer, c, c', hmet, hcase⟩ := h.met call _ hcall
    simp only [hmet.returnsSession]
    have hne := hmet.ne
    rcases hcase with rfl | rfl
    · exact ⟨pairer, ⟨hne.symm, .inr rfl⟩, fun other hother => hother.2.resolve_left hother.1⟩
    · exact ⟨waiter, ⟨hne, .inl rfl⟩, fun other hother => hother.2.resolve_right hother.1⟩
  · rintro ⟨other, ⟨hne, playerID, hother⟩, honly⟩
    obtain ⟨waiter, pairer, c, c', hmet, -⟩ := h.met other _ hother
    simp only [hmet.returnsSession] at honly ⊢
    by_contra hcall
    push Not at hcall
    exact hmet.ne ((honly waiter ⟨hcall.1.symm, .inl rfl⟩).trans
      (honly pairer ⟨hcall.2.symm, .inr rfl⟩).symm)

/-! ### What a call that fails leaves behind -/

/-- A call that paired is on its way to its partner, returned its session, or found it canceled. -/
def Manager.HandsOver (s : Manager) (call : Nat) (w : WaitingPlayer) : Prop :=
  (∃ phase, s.calls[call]? = some phase ∧ phase.partner = some w) ∨
    (∃ session, s.calls[call]? = some (.returned (.ok session))) ∨
    (s.calls[call]? = some (.returned (.error .canceled)) ∧ w.call ∈ s.canceled)

theorem Paired.handsOver (h : Paired parse begun s) {action : Action}
    (hnext : MatchServer.next parse s action = some t) {call : Nat} {w : WaitingPlayer}
    (hcall : s.HandsOver call w) : t.HandsOver call w := by
  obtain ⟨phase, hphase, hw⟩ | ⟨session, hsession⟩ | ⟨hcanceled, hw⟩ := hcall
  · rcases next_moves hnext hphase with hsame | ⟨new, hnew, hmoves⟩
    · exact .inl ⟨phase, hsame, hw⟩
    cases hmoves with
    | start =>
        refine .inl ⟨_, hnew, ?_⟩
        unfold Phase.afterNewMatch
        split <;> exact hw
    | offer => exact .inr (.inl ⟨_, hnew⟩)
    | report => exact absurd hphase (h.accepted call _ _)
    | giveUp hcanceled =>
        obtain rfl := Option.some.inj hw
        exact .inr (.inr ⟨hnew, (next_canceled_iff hnext).2 (.inl hcanceled)⟩)
    | giveUpError => exact absurd hphase (h.accepted call _ _)
    | _ => simp [Phase.partner] at hw
  · exact .inr (.inl ⟨session, next_returned hnext hsession⟩)
  · exact .inr (.inr ⟨next_returned hnext hcanceled, (next_canceled_iff hnext).2 (.inl hw)⟩)

/-- A call that paired and returned an error found its partner canceled. -/
theorem Paired.canceled_of_error (h : Paired parse begun s) {actions : List Action}
    (hrun : Transition.run (MatchServer.next parse) s actions = some t) {call : Nat}
    {w : WaitingPlayer} {c : Claims} {err : AuthError}
    (hcall : s.calls[call]? = some (.pairing w c))
    (herr : t.calls[call]? = some (.returned (.error err))) :
    err = .canceled ∧ w.call ∈ t.canceled := by
  have hfinal := Transition.run_invariant (P := fun s => (∃ begun, Paired parse begun s) ∧
    s.HandsOver call w) ?_ hrun ⟨⟨begun, h⟩, .inl ⟨_, hcall, rfl⟩⟩
  · obtain ⟨-, ⟨phase, hphase, hw⟩ | ⟨session, hsession⟩ | ⟨hcanceled, hw⟩⟩ := hfinal
    · rw [herr] at hphase
      simp [← Option.some.inj hphase, Phase.partner] at hw
    · simp [herr] at hsession
    · rw [herr] at hcanceled
      exact ⟨by simpa using hcanceled, hw⟩
  · rintro s action t ⟨⟨begun, h⟩, hcall⟩ hnext
    exact ⟨⟨_, h.next hnext⟩, h.handsOver hnext hcall⟩

/-- A step of a call that returned an error in the end moves no other call. -/
theorem Paired.others_stay (h : Paired parse begun s) {u : Manager} {action : Action}
    {later : List Action} (hnext : MatchServer.next parse s action = some t)
    (hrun : Transition.run (MatchServer.next parse) t later = some u) {call : Nat}
    (hactor : s.actor action = some call) {err : AuthError}
    (herr : u.calls[call]? = some (.returned (.error err))) {other : Nat} {phase : Phase}
    (hne : other ≠ call) (hother : s.calls[other]? = some phase) :
    t.calls[other]? = some phase := by
  have hreturned : ∀ result, t.calls[call]? = some (.returned result) → result = .error err := by
    intro result hresult
    have hfinal := Transition.run_invariant (P := fun s => s.calls[call]? = some (.returned result))
      (fun _ _ _ hs hnext => next_returned hnext hs) hrun hresult
    simpa [herr, eq_comm] using hfinal
  rcases next_moves hnext hother with hsame | ⟨new, -, hmoves⟩
  · exact hsame
  cases hmoves with
  | receive hpairer =>
      obtain rfl := Option.some.inj hactor
      obtain ⟨w, hwaiting, ⟨_, hcall, -⟩ | ⟨c, game, hcall, rfl⟩⟩ := next_offer hnext
      · exact absurd hcall (h.accepted _ _ _)
      · have hmeet := (h.meet hcall (of_decide_eq_true hwaiting)).2
        exact absurd (hreturned _ hmeet.returned') (by simp)
  | receiveError hpairer => exact absurd hpairer (h.accepted _ _ _)
  | _ => exact absurd (Option.some.inj hactor) hne

/-- A step of a call that returned an error in the end removes or replaces no entry of another call,
unless the call paired and its partner was canceled. -/
theorem Paired.entries_stay (h : Paired parse begun s) {u : Manager} {action : Action}
    {later : List Action} (hnext : MatchServer.next parse s action = some t)
    (hrun : Transition.run (MatchServer.next parse) t later = some u) {call : Nat}
    (hactor : s.actor action = some call) {err : AuthError}
    (herr : u.calls[call]? = some (.returned (.error err))) {matchID : String} {w : WaitingPlayer}
    (hne : w.call ≠ call) (hw : s.waiting matchID = some w) :
    t.waiting matchID = some w ∨ (err = .canceled ∧ w.call ∈ u.canceled) := by
  rcases next_entry hnext hw with hsame | ⟨rfl, -⟩ | ⟨i, c, rfl, -, -, hpairing⟩
  · exact .inl hsame
  · exact absurd (Option.some.inj hactor) hne
  · obtain rfl := Option.some.inj hactor
    exact .inr ((h.next hnext).canceled_of_error hrun hpairing herr)

/-- In every interleaving of calls of `Authenticate` and cancellations of their contexts, a call
returns a session of a match exactly if one other call returns the other session; the two belong to
players whose tickets for that match name each other. A step of a call that returns an error wakes no
other call and leaves the entries of other calls in the table; only a call that paired with a player
whose own call was canceled has taken that player's entry. No match ID is both waited for and used. -/
theorem pairing_all_or_nothing {clock : Nat} {actions : List Action}
    (hrun : Transition.run (next parse) (newMatchManager clock) actions = some s) :
    (∀ call game, s.ReturnsSession call game ↔
      ∃! other, other ≠ call ∧ s.ReturnsSession other game) ∧
    (∀ call other game, other ≠ call → s.ReturnsSession call game → s.ReturnsSession other game →
      ∃ c c', Met parse (attempts clock actions) s call other game c c' ∨
        Met parse (attempts clock actions) s other call game c c') ∧
    (∀ earlier action later before after call err, actions = earlier ++ action :: later →
      Transition.run (next parse) (newMatchManager clock) earlier = some before →
      next parse before action = some after → before.actor action = some call →
      s.calls[call]? = some (.returned (.error err)) →
        (∀ (other : Nat) phase, other ≠ call → before.calls[other]? = some phase →
          after.calls[other]? = some phase) ∧
        ∀ matchID w, before.waiting matchID = some w → w.call ≠ call →
          after.waiting matchID = some w ∨ (err = .canceled ∧ w.call ∈ s.canceled)) ∧
    ∀ matchID, s.waiting matchID = none ∨ s.used matchID = none := by
  have h := Paired.run hrun
  refine ⟨h.returnsSession_iff, ?_, ?_, h.apart⟩
  · rintro call other game hne ⟨playerID, hcall⟩ hother
    obtain ⟨waiter, pairer, c, c', hmet, hcase⟩ := h.met call _ hcall
    have hother' := (hmet.returnsSession other).1 hother
    rcases hcase with rfl | rfl
    · obtain rfl := hother'.resolve_left hne
      exact ⟨c, c', .inl hmet⟩
    · obtain rfl := hother'.resolve_right hne
      exact ⟨c, c', .inr hmet⟩
  · rintro earlier action later before after call err rfl hbefore hafter hactor herr
    obtain ⟨before', hbefore', hrest⟩ := Transition.run_append_iff.1 hrun
    obtain rfl := Option.some.inj (hbefore.symm.trans hbefore')
    obtain ⟨after', hafter', hlater⟩ := Transition.run_cons_iff.1 hrest
    obtain rfl := Option.some.inj (hafter.symm.trans hafter')
    have hpaired := Paired.run hbefore
    exact ⟨fun other phase hne hother => hpaired.others_stay hafter hlater hactor herr hne hother,
      fun matchID w hw hne => hpaired.entries_stay hafter hlater hactor herr hne hw⟩

/-- A canceled call and a refused one leave the pair to meet. -/
theorem pairing_all_or_nothing_duel : ∃ s, Transition.run (next duelTickets) (newMatchManager 0)
      ([.verify ⟨"alice", "ticket-a"⟩, .lock 0, .cancel 0, .verify ⟨"alice", "ticket-a"⟩,
        .lock 1, .removeWaiting 0, .verify ⟨"alice", "ticket-a"⟩, .lock 2,
        .verify ⟨"bob", "ticket-b"⟩, .lock 3, .newMatch 3, .offer 3] : List Action) = some s ∧
    (s.ReturnsSession 2 0 ↔ ∃! other, other ≠ 2 ∧ s.ReturnsSession other 0) := by
  have hsome : (Transition.run (next duelTickets) (newMatchManager 0)
      ([.verify ⟨"alice", "ticket-a"⟩, .lock 0, .cancel 0, .verify ⟨"alice", "ticket-a"⟩,
        .lock 1, .removeWaiting 0, .verify ⟨"alice", "ticket-a"⟩, .lock 2,
        .verify ⟨"bob", "ticket-b"⟩, .lock 3, .newMatch 3, .offer 3] : List Action)).isSome =
          true := by
    decide +kernel
  obtain ⟨s, hrun⟩ := Option.isSome_iff_exists.1 hsome
  exact ⟨s, hrun, (pairing_all_or_nothing hrun).1 2 0⟩

end PvpDuel.MatchServer
