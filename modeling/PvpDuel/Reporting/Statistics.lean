import PvpDuel.Gateway.Handlers
import PvpDuel.Reporting.Provenance

/-!
# What profiles show of the matches

A profile counts no result that its match did not report, and none twice. When every report has succeeded
and no two matches share their ID, it counts exactly what the matches reported.
-/

namespace PvpDuel.Reporting

open Gateway (Kept Server)
open MatchServer (Judged Process TerminalResult)
open Profiles (MatchResult countResults payload tally)

variable {η : Type} {server : Server η} {secret : String} {s : Deployment η}

/-- The results that the matches have reported, as the service sees them. -/
def Deployment.reports (s : Deployment η) : List MatchResult :=
  (s.processes.flatMap fun p => p.reported).map fun result => (payload result).trimmed

/-- Lists with keys: each item of the one is counted in the other, under its key. -/
theorem countP_le_of_key {α κ : Type} {key : α → κ} {p : α → Bool} {l₁ l₂ : List α}
    (hnodup : (l₁.map key).Nodup) (h : ∀ a ∈ l₁, p a = true → ∃ b ∈ l₂, p b = true ∧ key b = key a) :
    l₁.countP p ≤ l₂.countP p := by
  have hsub : (l₁.filter p).map key ⊆ (l₂.filter p).map key := by
    intro k hk
    obtain ⟨a, ha, rfl⟩ := List.mem_map.1 hk
    obtain ⟨hin, hp⟩ := List.mem_filter.1 ha
    obtain ⟨b, hb, hpb, hkey⟩ := h a hin hp
    exact List.mem_map.2 ⟨b, List.mem_filter.2 ⟨hb, hpb⟩, hkey⟩
  have hfiltered : ((l₁.filter p).map key).Nodup := hnodup.sublist (List.filter_sublist.map key)
  have hlength := (List.subperm_of_subset hfiltered hsub).length_le
  rw [List.length_map, List.length_map] at hlength
  rwa [List.countP_eq_length_filter, List.countP_eq_length_filter]

theorem outcome_stamped (userID : String) (now : Nat) (result : MatchResult) :
    (result.stamped now).outcome userID = result.outcome userID := by
  unfold MatchResult.stamped
  split <;> rfl

/-! ### Reports -/

theorem reported_cases {p : Process} (h : Judged p) :
    p.reported = [] ∨ ∃ result, p.reported = [result] ∧ result.matchID = p.matchID := by
  obtain ⟨-, -, hreported⟩ | ⟨_, -, hreported⟩ := h.safe.claimed.report_cases
  · exact .inl hreported
  · cases hlist : p.reported with
    | nil => exact .inl rfl
    | cons result rest =>
        have hcount : p.reported.length ≤ 1 := by
          have := hreported.count
          omega
        rw [hlist, List.length_cons] at hcount
        obtain rfl := List.length_eq_zero_iff.1 (Nat.le_zero.1 (Nat.le_of_succ_le_succ hcount))
        refine .inr ⟨result, rfl, (h.reported result ?_).1⟩
        rw [hlist]
        exact List.mem_singleton_self result

theorem reports_sublist : ∀ {processes : List Process}, (∀ p ∈ processes, Judged p) →
    (((processes.flatMap fun p => p.reported).map fun result => (payload result).trimmed).map
      MatchResult.matchID).Sublist (processes.map fun p => MatchServer.trimSpace p.matchID) := by
  intro processes hjudged
  induction processes with
  | nil => exact List.Sublist.refl _
  | cons p processes ih =>
      have htail := ih fun q hq => hjudged q (List.mem_cons_of_mem _ hq)
      rw [List.flatMap_cons, List.map_append, List.map_append, List.map_cons]
      obtain hnone | ⟨result, hone, hid⟩ := reported_cases (hjudged p List.mem_cons_self)
      · rw [hnone]
        exact htail.cons _
      · rw [hone, ← hid]
        exact htail.cons_cons _

/-! ### The store against the reports -/

theorem Sound.origin (h : Sound server secret s) {r : MatchResult} (hr : r ∈ s.gateway.profiles.values) :
    ∃ p ∈ s.processes, ∃ result ∈ p.reported, ∃ now, r = (payload result).trimmed.stamped now := by
  obtain ⟨exchange, hin, value, now, ⟨b, hrequest, -, hvalue⟩, rfl⟩ := h.records.results r hr
  obtain ⟨result, hsent, rfl⟩ := h.requests exchange.request (List.mem_map_of_mem hin) b hrequest
  obtain ⟨p, hp, hreported⟩ := h.reported_of_post hsent
  cases hvalue
  exact ⟨p, hp, result, hreported, now, rfl⟩

theorem mem_reports {result : TerminalResult} {p : Process} (hp : p ∈ s.processes)
    (hresult : result ∈ p.reported) : (payload result).trimmed ∈ s.reports :=
  List.mem_map_of_mem (List.mem_flatMap.2 ⟨p, hp, hresult⟩)

theorem Sound.countP_le (h : Sound server secret s) (userID : String) (q : Option Profiles.Outcome → Bool) :
    s.gateway.profiles.values.countP (fun r => q (r.outcome userID)) ≤
      s.reports.countP fun r => q (r.outcome userID) := by
  refine countP_le_of_key h.records.nodup fun r hr hq => ?_
  obtain ⟨p, hp, result, hresult, now, rfl⟩ := h.origin hr
  refine ⟨_, mem_reports hp hresult, ?_, (Gateway.stamped_matchID now _).symm⟩
  rwa [outcome_stamped] at hq

theorem Sound.countP_ge (h : Sound server secret s) (hids : (s.processes.map fun p =>
    MatchServer.trimSpace p.matchID).Nodup) (hreturned : ∀ call ∈ s.calls, call.phase = .returned true)
    (userID : String) (q : Option Profiles.Outcome → Bool) : s.reports.countP (fun r => q (r.outcome userID)) ≤
      s.gateway.profiles.values.countP fun r => q (r.outcome userID) := by
  have hnodup : (s.reports.map MatchResult.matchID).Nodup := hids.sublist (reports_sublist h.judged)
  refine countP_le_of_key hnodup fun x hx hq => ?_
  obtain ⟨result, hresult, rfl⟩ := List.mem_map.1 hx
  obtain ⟨p, hp, hreported⟩ := List.mem_flatMap.1 hresult
  obtain ⟨call, hcall, rfl⟩ := List.mem_map.1 (h.call_of_reported hp hreported)
  obtain ⟨i, hi⟩ := List.mem_iff_getElem?.1 hcall
  have hpaced := (h.paced i call hi).2
  rw [hreturned call hcall] at hpaced
  obtain ⟨r, hr, hid⟩ := hpaced
  refine ⟨r, hr, ?_, hid⟩
  obtain ⟨other, hother, result, hfound, now, rfl⟩ := h.origin hr
  rw [Gateway.stamped_matchID] at hid
  rw [List.inj_on_of_nodup_map hnodup (mem_reports hother hfound) hx hid, outcome_stamped]
  exact hq

/-! ### Runs -/

variable [DecidableEq η]

theorem run_sound {clock : Nat} {queue : Matchmaking.Service} {actions : List Action}
    (hrun : Transition.run (Deployment.next server secret) (newDeployment clock queue) actions = some s)
    (hmeets : Transition.Meets (Deployment.next server secret) (Secret server) (newDeployment clock queue)
      actions) : Sound server secret s :=
  Transition.meets_invariant (fun _ _ _ hsound hsecret hnext => hsound.next hsecret hnext) hrun hmeets
    newDeployment_sound

/-- When nobody else sends results with the internal secret, whatever is lost, late or sent again: a
stored result is one that a match reported, and tells the end that both players of that match were told;
no match is stored twice; each report has one call of `RetryReport`, which sends it three times at most, and
when it returns, its match is stored or the attempts or the deadline are exhausted. So a profile never shows
more of any outcome than the matches reported, and it shows exactly that when every report has succeeded and
the IDs of the matches differ. -/
theorem results_reach_profiles {clock : Nat} {queue : Matchmaking.Service} {actions : List Action}
    (hrun : Transition.run (Deployment.next server secret) (newDeployment clock queue) actions = some s)
    (hmeets : Transition.Meets (Deployment.next server secret) (Secret server) (newDeployment clock queue)
      actions) :
    (∀ r ∈ s.gateway.profiles.values, ∃ p ∈ s.processes, ∃ result ∈ p.reported, ∃ now e,
      r = (payload result).trimmed.stamped now ∧ result.matchID = p.matchID ∧
        result.playerAID = p.playerAID ∧ result.playerBID = p.playerBID ∧
        (∀ player, p.sent player = [e]) ∧ p.Verdict e ∧ result.winnerID = e.winnerPlayerID ∧
        result.reason = e.reason) ∧
    (s.gateway.profiles.values.map MatchResult.matchID).Nodup ∧
    (s.calls.map Call.result).Perm (s.processes.flatMap fun p => p.reported) ∧
    (∀ post ∈ s.posts, ∃ call, s.calls[post.call]? = some call ∧ call.result = post.result) ∧
    (∀ (i : Nat) call, s.calls[i]? = some call → s.sent i ≤ 3 ∧
      (call.phase = .returned true → Kept s.gateway (payload call.result)) ∧
      (call.phase = .returned false → call.attempt = 3 ∨ call.deadline ≤ s.clock)) ∧
    ∀ userID order, order.Perm s.gateway.profiles.values →
      (countResults userID order).played ≤ (tally userID s.reports).played ∧
      (countResults userID order).wins ≤ (tally userID s.reports).wins ∧
      (countResults userID order).losses ≤ (tally userID s.reports).losses ∧
      (countResults userID order).draws ≤ (tally userID s.reports).draws ∧
      ((s.processes.map fun p => MatchServer.trimSpace p.matchID).Nodup →
        (∀ call ∈ s.calls, call.phase = .returned true) →
          countResults userID order = tally userID s.reports) := by
  have h := run_sound hrun hmeets
  refine ⟨fun r hr => ?_, h.records.nodup, h.paired, fun post hpost => ?_, fun i call hi => ?_,
    fun userID order hperm => ?_⟩
  · obtain ⟨p, hp, result, hresult, now, heq⟩ := h.origin hr
    have hjudged := h.judged p hp
    obtain ⟨e, hsent, hverdict, hwinner, hreason⟩ := hjudged.report hresult
    obtain ⟨hmatch, ha, hb⟩ := hjudged.reported result hresult
    exact ⟨p, hp, result, hresult, now, e, heq, hmatch, ha, hb, hsent, hverdict, hwinner, hreason⟩
  · have hsends := h.sends post hpost
    rw [List.getElem?_map] at hsends
    exact Option.map_eq_some_iff.1 hsends
  · obtain ⟨hthree, hphase⟩ := h.paced i call hi
    refine ⟨hthree, fun hreturned => ?_, fun hreturned => ?_⟩
    · rw [hreturned] at hphase
      exact hphase
    · rw [hreturned] at hphase
      exact hphase
  · rw [Profiles.countResults_eq_tally hperm]
    have hle := h.countP_le userID
    refine ⟨hle Option.isSome, hle fun o => o = some .win, hle fun o => o = some .loss,
      hle fun o => o = some .draw, fun hids hreturned => ?_⟩
    have hge := h.countP_ge hids hreturned userID
    ext
    · exact Nat.le_antisymm (hle Option.isSome) (hge Option.isSome)
    · exact Nat.le_antisymm (hle fun o => o = some .win) (hge fun o => o = some .win)
    · exact Nat.le_antisymm (hle fun o => o = some .loss) (hge fun o => o = some .loss)
    · exact Nat.le_antisymm (hle fun o => o = some .draw) (hge fun o => o = some .draw)

/-- Bob leaves, and the response to the first request is lost: the report is sent again. -/
def lostResponse : List Action :=
  .start "match-1" "alice" "bob" :: MatchServer.disconnectActions.map (.play 0) ++
  [.post 0, .arrive 0, .gateway (.handle 0 Matchmaking.duelDraw []), .fail 0, .elapse 100000000, .wake 0,
    .post 0, .arrive 1, .gateway (.handle 1 Matchmaking.duelDraw []), .answer 0]

theorem results_reach_profiles_lost : ∃ s,
    Transition.run (Deployment.next Gateway.duelServer Gateway.duelServer.internalSecret)
      (newDeployment 0 Matchmaking.duelService) lostResponse = some s ∧
    (s.gateway.profiles.values.map MatchResult.matchID).Nodup ∧
    (countResults "alice" s.gateway.profiles.values) = tally "alice" s.reports ∧
    (tally "alice" s.reports).wins = 1 := by
  have hends : (Transition.run (Deployment.next Gateway.duelServer Gateway.duelServer.internalSecret)
      (newDeployment 0 Matchmaking.duelService) lostResponse).map (fun s =>
        (s.processes.map fun p => MatchServer.trimSpace p.matchID, s.calls.map Call.phase,
          tally "alice" s.reports)) = some (["match-1"], [.returned true], ⟨1, 1, 0, 0⟩) := by
    decide +kernel
  obtain ⟨s, hrun, hend⟩ := Option.map_eq_some_iff.1 hends
  obtain ⟨hids, hrest⟩ := Prod.mk.inj hend
  obtain ⟨hphases, htally⟩ := Prod.mk.inj hrest
  have hmeets : Transition.Meets (Deployment.next Gateway.duelServer Gateway.duelServer.internalSecret)
      (Secret Gateway.duelServer) (newDeployment 0 Matchmaking.duelService) lostResponse := by
    decide +kernel
  obtain ⟨-, hnodup, -, -, -, hprofile⟩ := results_reach_profiles hrun hmeets
  have hreturned : ∀ call ∈ s.calls, call.phase = .returned true := by
    intro call hin
    have hphase : call.phase ∈ s.calls.map Call.phase := List.mem_map_of_mem hin
    rw [hphases] at hphase
    exact List.mem_singleton.1 hphase
  obtain ⟨-, -, -, -, hexact⟩ := hprofile "alice" _ (List.Perm.refl _)
  refine ⟨s, hrun, hnodup, hexact ?_ hreturned, ?_⟩
  · rw [hids]
    decide
  · rw [htally]

end PvpDuel.Reporting
