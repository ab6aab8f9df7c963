import PvpDuel.Reporting.Deployment

/-!
# Where stored results come from

A stored result goes back to a request, the request to a call of `RetryReport`, the call to the one report
of a match, and the report to the end that both players were told. A call sends three requests at most,
and when it has succeeded the store has its match.
-/

namespace PvpDuel.Reporting

open Gateway (Exchange Follows Kept Records Response Server map_set_of_eq)
open MatchServer (Judged Process TerminalResult)
open Profiles (MatchResult payload)

variable {η : Type} {server : Server η} {secret : String} {s t : Deployment η} {i n : Nat} {call : Call}

/-! ### Processes -/

theorem reported_next {p q : Process} (h : Judged p) {action : MatchServer.Match.Action}
    (hnext : p.next action = some q) : Judged q ∧ ∃ new, q.reported = p.reported ++ new := by
  refine ⟨h.next hnext, ?_⟩
  obtain ⟨-, hdone | ⟨hpanicked, -⟩⟩ := Process.next_cases hnext
  · obtain hquiet | ⟨_, _, _, _, hdelivers⟩ | ⟨_, hreports⟩ :=
      (Process.step_done h.safe.wired.barrier hdone).terminal_cases
    · exact ⟨[], by rw [hquiet.reported, List.append_nil]⟩
    · exact ⟨[], by rw [hdelivers.reported, List.append_nil]⟩
    · obtain heq | ⟨endedAt, heq⟩ := hreports.reported
      · exact ⟨[], by rw [heq, List.append_nil]⟩
      · exact ⟨_, heq⟩
  · exact absurd hpanicked (h.safe.step_ne_panicked action)

theorem startMatch_reported {matchID playerA playerB : String} {reporter : Bool} {p : Process}
    (h : MatchServer.startMatch matchID playerA playerB reporter = .ok p) : p.reported = [] := by
  obtain ⟨duel, -, rfl⟩ := MatchServer.startMatch_ok h
  rfl

theorem flatMap_set_perm {α β : Type} {f : α → List β} {old new : α} {more : List β}
    (hmore : f new = f old ++ more) {l : List α} {i : Nat} (hi : l[i]? = some old) :
    ((l.set i new).flatMap f).Perm (l.flatMap f ++ more) := by
  induction l generalizing i with
  | nil => cases hi
  | cons a l ih =>
      cases i with
      | zero =>
          cases hi
          rw [List.set_cons_zero, List.flatMap_cons, List.flatMap_cons, hmore, List.append_assoc, List.append_assoc]
          exact List.Perm.append_left _ List.perm_append_comm
      | succ i =>
          rw [List.set_cons_succ, List.flatMap_cons, List.flatMap_cons, List.append_assoc]
          exact List.Perm.append_left _ (ih hi)

/-! ### What holds of a call -/

/-- How many requests the call has sent. -/
def Deployment.sent (s : Deployment η) (i : Nat) : Nat := s.posts.countP fun post => post.call = i

/-- The number of requests of a call keeps pace with its attempts, and a call that has succeeded has its
match stored. -/
def Paced (s : Deployment η) (i : Nat) (call : Call) : Prop :=
  s.sent i ≤ 3 ∧
    match call.phase with
    | .posting => s.sent i ≤ call.attempt ∧ call.attempt < 3
    | .awaiting n => s.sent i ≤ call.attempt + 1 ∧ call.attempt < 3 ∧
        ∃ post, s.posts[n]? = some post ∧ post.result = call.result
    | .pausing _ => s.sent i ≤ call.attempt + 1 ∧ call.attempt < 3
    | .returned true => Kept s.gateway (payload call.result)
    | .returned false => call.attempt = 3 ∨ call.deadline ≤ s.clock

structure Later (s t : Deployment η) : Prop where
  clock : s.clock ≤ t.clock
  posts : ∀ (n : Nat) post, s.posts[n]? = some post →
    ∃ later, t.posts[n]? = some later ∧ later.result = post.result
  gateway : Follows s.gateway t.gateway

theorem Paced.mono (h : Later s t) (hsent : t.sent i = s.sent i) (hpaced : Paced s i call) :
    Paced t i call := by
  unfold Paced at hpaced ⊢
  rw [hsent]
  refine hpaced.imp_right fun hphase => ?_
  cases hcall : call.phase with
  | posting =>
      rw [hcall] at hphase
      exact hphase
  | awaiting n =>
      rw [hcall] at hphase
      obtain ⟨hcount, hattempt, post, hpost, hresult⟩ := hphase
      obtain ⟨later, hlater, hsame⟩ := h.posts n post hpost
      exact ⟨hcount, hattempt, later, hlater, hsame.trans hresult⟩
  | pausing time =>
      rw [hcall] at hphase
      exact hphase
  | returned delivered =>
      rw [hcall] at hphase
      cases delivered with
      | true => exact Kept.mono h.gateway hphase
      | false => exact hphase.imp_right fun hle => Nat.le_trans hle h.clock

theorem paced_failed (hthree : s.sent i ≤ 3) (hcount : s.sent i ≤ call.attempt + 1)
    (hattempt : call.attempt < 3) : Paced s i (call.failed s.clock) := by
  unfold Call.failed
  split
  · rename_i hdone
    exact ⟨hthree, .inr hdone⟩
  · exact ⟨hthree, hcount, hattempt⟩

theorem paced_retry (hthree : s.sent i ≤ 3) (hcount : s.sent i ≤ call.attempt + 1)
    (hattempt : call.attempt < 3) : Paced s i call.retry := by
  unfold Call.retry
  split
  · rename_i hmore
    exact ⟨hthree, hcount, hmore⟩
  · refine ⟨hthree, .inl ?_⟩
    show call.attempt + 1 = 3
    omega

theorem failed_result (now : Nat) : (call.failed now).result = call.result := by
  unfold Call.failed
  split <;> rfl

theorem retry_result : call.retry.result = call.result := by
  unfold Call.retry
  split <;> rfl

/-! ### What every step keeps -/

structure Sound (server : Server η) (secret : String) (s : Deployment η) : Prop where
  judged : ∀ p ∈ s.processes, Judged p
  paired : (s.calls.map Call.result).Perm (s.processes.flatMap fun p => p.reported)
  paced : ∀ (i : Nat) call, s.calls[i]? = some call → Paced s i call
  sends : ∀ post ∈ s.posts, (s.calls.map Call.result)[post.call]? = some post.result
  arrived : ∀ post ∈ s.posts, ∀ k, post.exchange = some k → ∃ exchange,
    s.gateway.exchanges[k]? = some exchange ∧ exchange.request = .matchResult secret (body post.result)
  records : Records server s.gateway
  requests : ∀ request ∈ s.gateway.exchanges.map Exchange.request, ∀ b,
    request = .matchResult server.internalSecret b → ∃ result ∈ s.posts.map Post.result, b = body result

theorem newDeployment_sound {clock : Nat} {queue : Matchmaking.Service} :
    Sound server secret (newDeployment clock queue) where
  judged := fun _ hin => absurd hin List.not_mem_nil
  paired := List.Perm.refl _
  paced := fun _ _ hcall => nomatch hcall
  sends := fun _ hin => absurd hin List.not_mem_nil
  arrived := fun _ hin => absurd hin List.not_mem_nil
  records := Gateway.newSystem_records
  requests := fun _ hin => absurd hin List.not_mem_nil

theorem Sound.call_of_reported (h : Sound server secret s) {p : Process} (hp : p ∈ s.processes)
    {result : TerminalResult} (hresult : result ∈ p.reported) : result ∈ s.calls.map Call.result :=
  h.paired.mem_iff.2 (List.mem_flatMap.2 ⟨p, hp, hresult⟩)

theorem Sound.reported_of_post (h : Sound server secret s) {result : TerminalResult}
    (hresult : result ∈ s.posts.map Post.result) : ∃ p ∈ s.processes, result ∈ p.reported := by
  obtain ⟨post, hpost, rfl⟩ := List.mem_map.1 hresult
  exact List.mem_flatMap.1 (h.paired.mem_iff.1 (List.mem_of_getElem? (h.sends post hpost)))

theorem Sound.sent_eq_zero (h : Sound server secret s) (hi : s.calls.length ≤ i) : s.sent i = 0 := by
  refine List.countP_eq_zero.2 fun post hin heq => ?_
  have hsame : post.call = i := of_decide_eq_true heq
  have hsends := h.sends post hin
  rw [hsame, List.getElem?_eq_none (by rwa [List.length_map])] at hsends
  cases hsends

theorem Sound.set (h : Sound server secret s) (hi : s.calls[i]? = some call) {call' : Call}
    (hresult : call'.result = call.result) (hpaced : Paced s i call') :
    Sound server secret { s with calls := s.calls.set i call' } := by
  have hmap : (s.calls.set i call').map Call.result = s.calls.map Call.result := map_set_of_eq hi hresult
  refine
    { judged := h.judged
      paired := hmap.symm ▸ h.paired
      paced := fun j other hj => ?_
      sends := fun post hin => hmap.symm ▸ h.sends post hin
      arrived := h.arrived
      records := h.records
      requests := h.requests }
  change (s.calls.set i call')[j]? = some other at hj
  rw [List.getElem?_set] at hj
  split_ifs at hj with heq hlt
  · cases hj
    exact heq ▸ hpaced
  · exact h.paced j other hj

def Post.origin (post : Post) : Nat × TerminalResult := (post.call, post.result)

theorem sent_eq_of_origin (hposts : t.posts.map Post.origin = s.posts.map Post.origin) :
    t.sent i = s.sent i := by
  have hcount : ∀ u : Deployment η, u.sent i =
      (u.posts.map Post.origin).countP fun origin => origin.1 = i := by
    intro u
    rw [List.countP_map]
    rfl
  rw [hcount t, hcount s, hposts]

theorem results_eq_of_origin (hposts : t.posts.map Post.origin = s.posts.map Post.origin) :
    t.posts.map Post.result = s.posts.map Post.result := by
  have hresults : ∀ u : Deployment η, u.posts.map Post.result = (u.posts.map Post.origin).map Prod.snd := by
    intro u
    rw [List.map_map]
    rfl
  rw [hresults t, hresults s, hposts]

theorem later_of_origin (hposts : t.posts.map Post.origin = s.posts.map Post.origin)
    (hclock : s.clock ≤ t.clock) (hgateway : Follows s.gateway t.gateway) : Later s t := by
  refine ⟨hclock, fun n post hpost => ?_, hgateway⟩
  have horigin := congrArg (fun origins => origins[n]?) hposts
  rw [List.getElem?_map, List.getElem?_map, hpost] at horigin
  obtain ⟨later, hlater, heq⟩ := Option.map_eq_some_iff.1 horigin
  exact ⟨later, hlater, congrArg Prod.snd heq⟩

theorem Sound.later (h : Sound server secret s) (hposts : t.posts.map Post.origin = s.posts.map Post.origin)
    (hclock : s.clock ≤ t.clock) (hgateway : Follows s.gateway t.gateway) (hcalls : t.calls = s.calls)
    (hjudged : ∀ p ∈ t.processes, Judged p)
    (hreported : (t.processes.flatMap fun p => p.reported) = s.processes.flatMap fun p => p.reported)
    (harrived : ∀ post ∈ t.posts, ∀ k, post.exchange = some k → ∃ exchange,
      t.gateway.exchanges[k]? = some exchange ∧
        exchange.request = .matchResult secret (body post.result))
    (hrecords : Records server t.gateway)
    (hrequests : ∀ request ∈ t.gateway.exchanges.map Exchange.request, ∀ b,
      request = .matchResult server.internalSecret b → ∃ result ∈ s.posts.map Post.result, b = body result) :
    Sound server secret t where
  judged := hjudged
  paired := by
    rw [hcalls, hreported]
    exact h.paired
  paced := fun j other hj => by
    rw [hcalls] at hj
    exact (h.paced j other hj).mono (later_of_origin hposts hclock hgateway) (sent_eq_of_origin hposts)
  sends := fun post hin => by
    rw [hcalls]
    have horigin : post.origin ∈ s.posts.map Post.origin := hposts ▸ List.mem_map_of_mem hin
    obtain ⟨old, hold, heq⟩ := List.mem_map.1 horigin
    obtain ⟨hcall, hresult⟩ := Prod.mk.inj heq
    rw [← hcall, ← hresult]
    exact h.sends old hold
  arrived := harrived
  records := hrecords
  requests := fun request hin b heq => by
    rw [results_eq_of_origin hposts]
    exact hrequests request hin b heq

theorem Sound.arrived_follow (h : Sound server secret s) {gateway : Gateway.System η}
    (hfollows : Follows s.gateway gateway) {post : Post} (hin : post ∈ s.posts) {k : Nat}
    (hk : post.exchange = some k) : ∃ exchange, gateway.exchanges[k]? = some exchange ∧
      exchange.request = .matchResult secret (body post.result) := by
  obtain ⟨exchange, hexchange, hrequest⟩ := h.arrived post hin k hk
  obtain ⟨later, hlater, hsame, -⟩ := hfollows.exchanges k exchange hexchange
  exact ⟨later, hlater, hsame.trans hrequest⟩

theorem follows_refl (gateway : Gateway.System η) : Follows gateway gateway :=
  ⟨fun _ hin => hin, fun _ exchange hk => ⟨exchange, hk, rfl, fun _ _ hpoint => hpoint⟩⟩

theorem Sound.answered (h : Sound server secret s) (hi : s.calls[i]? = some call)
    (hphase : call.phase = .awaiting n) {response : Response} (hresponse : s.response n = some response) :
    Paced s i (s.answered call response) := by
  have hpaced := h.paced i call hi
  unfold Paced at hpaced
  rw [hphase] at hpaced
  obtain ⟨hthree, hcount, hattempt, post, hpost, hresult⟩ := hpaced
  unfold Deployment.answered
  split
  · rename_i hstatus
    refine ⟨hthree, ?_⟩
    obtain ⟨found, hfound, hrest⟩ := Option.bind_eq_some_iff.1 hresponse
    obtain rfl := Option.some.inj (hpost.symm.trans hfound)
    obtain ⟨k, hk, hexchange⟩ := Option.bind_eq_some_iff.1 hrest
    obtain ⟨exchange, hexchange, hpoint⟩ := Option.bind_eq_some_iff.1 hexchange
    obtain ⟨arrived, harrived, hrequest⟩ := h.arrived post (List.mem_of_getElem? hpost) k hk
    obtain rfl := Option.some.inj (hexchange.symm.trans harrived)
    obtain ⟨result, hrecording⟩ | ⟨admission, written, hwritten, hanswers⟩ :=
      (h.records.exchanges exchange (List.mem_of_getElem? hexchange)).answers _ _ hrequest
    · rw [hrecording] at hpoint
      cases hpoint
    · rw [hwritten] at hpoint
      cases hpoint
      obtain ⟨-, result, hvalue, hkept⟩ | ⟨hother, -⟩ := hanswers
      · cases hvalue
        show Kept s.gateway (payload call.result)
        rw [← hresult]
        exact hkept
      · exact absurd hstatus hother
  · exact paced_failed hthree hcount hattempt

theorem answered_result {response : Response} : (s.answered call response).result = call.result := by
  unfold Deployment.answered
  split
  · rfl
  · exact failed_result s.clock

/-! ### Steps -/

theorem Sound.elapse (h : Sound server secret s) (duration : Nat) :
    Sound server secret { s with clock := s.clock + duration } :=
  h.later rfl (Nat.le_add_right _ _) (follows_refl _) rfl h.judged rfl h.arrived h.records h.requests

theorem Sound.move (h : Sound server secret s) {step : Call → Option Call}
    (hstep : ∀ call call', s.calls[i]? = some call → step call = some call' →
      call'.result = call.result ∧ Paced s i call') (hmove : s.move i step = some t) :
    Sound server secret t := by
  obtain ⟨call, hi, hmapped⟩ := Option.bind_eq_some_iff.1 hmove
  obtain ⟨call', hcall, rfl⟩ := Option.map_eq_some_iff.1 hmapped
  obtain ⟨hresult, hpaced⟩ := hstep call call' hi hcall
  exact h.set hi hresult hpaced

section Steps

variable [DecidableEq η]

theorem Sound.start (h : Sound server secret s) {matchID playerA playerB : String}
    (hnext : s.next server secret (.start matchID playerA playerB) = some t) : Sound server secret t := by
  dsimp only [Deployment.next] at hnext
  split at hnext
  · cases hnext
  · rename_i process hstart
    cases hnext
    refine h.later rfl (Nat.le_refl _) (follows_refl _) rfl (fun p hin => ?_) ?_ h.arrived h.records h.requests
    · obtain hold | hnew := List.mem_append.1 hin
      · exact h.judged p hold
      · obtain rfl := List.mem_singleton.1 hnew
        exact (MatchServer.startMatch_judged hstart).1
    · show ((s.processes ++ [process]).flatMap fun p => p.reported) = _
      rw [List.flatMap_append, List.flatMap_singleton, startMatch_reported hstart, List.append_nil]

theorem Sound.play (h : Sound server secret s) {action : MatchServer.Match.Action}
    (hnext : s.next server secret (.play i action) = some t) : Sound server secret t := by
  obtain ⟨process, hi, hmapped⟩ := Option.bind_eq_some_iff.1 hnext
  obtain ⟨process', hstep, rfl⟩ := Option.map_eq_some_iff.1 hmapped
  have hin := List.mem_of_getElem? hi
  obtain ⟨hjudged, new, hnew⟩ := reported_next (h.judged process hin) hstep
  have hdrop : process'.reported.drop process.reported.length = new := by
    rw [hnew, List.drop_left]
  rw [hdrop]
  have hresults : (new.map (newCall s.clock)).map Call.result = new := by
    rw [List.map_map]
    exact List.map_id new
  have hmap : (s.calls ++ new.map (newCall s.clock)).map Call.result = s.calls.map Call.result ++ new := by
    rw [List.map_append, hresults]
  have hlater : Later s { s with
      processes := s.processes.set i process'
      calls := s.calls ++ new.map (newCall s.clock) } :=
    later_of_origin rfl (Nat.le_refl _) (follows_refl _)
  refine
    { judged := fun p hp => ?_
      paired := ?_
      paced := fun j other hj => ?_
      sends := fun post hpost => ?_
      arrived := h.arrived
      records := h.records
      requests := h.requests }
  · obtain hold | rfl := List.mem_or_eq_of_mem_set hp
    · exact h.judged p hold
    · exact hjudged
  · show ((s.calls ++ new.map (newCall s.clock)).map Call.result).Perm
      ((s.processes.set i process').flatMap fun p => p.reported)
    rw [hmap]
    exact (h.paired.append_right new).trans (flatMap_set_perm hnew hi).symm
  · change (s.calls ++ new.map (newCall s.clock))[j]? = some other at hj
    rw [List.getElem?_append] at hj
    split at hj
    · exact (h.paced j other hj).mono hlater rfl
    · rename_i hlength
      rw [List.getElem?_map] at hj
      obtain ⟨result, -, rfl⟩ := Option.map_eq_some_iff.1 hj
      have hzero := h.sent_eq_zero (Nat.le_of_not_lt hlength)
      have hsame : Deployment.sent { s with
          processes := s.processes.set i process'
          calls := s.calls ++ new.map (newCall s.clock) } j = s.sent j := rfl
      unfold Paced
      rw [hsame, hzero]
      exact ⟨Nat.zero_le _, Nat.zero_le _, Nat.zero_lt_succ _⟩
  · show ((s.calls ++ new.map (newCall s.clock)).map Call.result)[post.call]? = some post.result
    have hsends := h.sends post hpost
    rw [hmap, List.getElem?_append_left (List.getElem?_eq_some_iff.1 hsends).1]
    exact hsends

theorem Sound.post (h : Sound server secret s) (hnext : s.next server secret (.post i) = some t) :
    Sound server secret t := by
  obtain ⟨call, hi, hmapped⟩ := Option.bind_eq_some_iff.1 hnext
  split at hmapped
  · rename_i hphase
    cases hmapped
    have hmap : (s.calls.set i { call with phase := .awaiting s.posts.length }).map Call.result =
        s.calls.map Call.result := map_set_of_eq hi rfl
    have hsent : ∀ j, Deployment.sent { s with
        posts := s.posts ++ [⟨i, call.result, none⟩]
        calls := s.calls.set i { call with phase := .awaiting s.posts.length } } j =
          s.sent j + if i = j then 1 else 0 := by
      intro j
      show (s.posts ++ [(⟨i, call.result, none⟩ : Post)]).countP (fun post => post.call = j) = _
      rw [List.countP_append, List.countP_singleton]
      by_cases heq : i = j <;> simp [Deployment.sent, heq]
    have hlater : Later s { s with
        posts := s.posts ++ [⟨i, call.result, none⟩]
        calls := s.calls.set i { call with phase := .awaiting s.posts.length } } := by
      refine ⟨Nat.le_refl _, fun n post hpost => ⟨post, ?_, rfl⟩, follows_refl _⟩
      show (s.posts ++ [(⟨i, call.result, none⟩ : Post)])[n]? = some post
      rw [List.getElem?_append_left (List.getElem?_eq_some_iff.1 hpost).1]
      exact hpost
    refine
      { judged := h.judged
        paired := hmap.symm ▸ h.paired
        paced := fun j other hj => ?_
        sends := fun post hpost => ?_
        arrived := fun post hpost k hk => ?_
        records := h.records
        requests := fun request hrequest b heq => ?_ }
    · change (s.calls.set i { call with phase := .awaiting s.posts.length })[j]? = some other at hj
      rw [List.getElem?_set] at hj
      split_ifs at hj with heq hlt
      · cases hj
        have hpaced := h.paced i call hi
        unfold Paced at hpaced ⊢
        rw [hphase] at hpaced
        obtain ⟨-, hcount, hattempt⟩ := hpaced
        rw [hsent, if_pos heq, ← heq]
        refine ⟨by omega, Nat.succ_le_succ hcount, hattempt, ⟨i, call.result, none⟩, ?_, rfl⟩
        exact List.getElem?_concat_length
      · refine (h.paced j other hj).mono hlater ?_
        rw [hsent, if_neg heq, Nat.add_zero]
    · show ((s.calls.set i { call with phase := .awaiting s.posts.length }).map Call.result)[post.call]? = _
      rw [hmap]
      obtain hold | hnew := List.mem_append.1 hpost
      · exact h.sends post hold
      · obtain rfl := List.mem_singleton.1 hnew
        rw [List.getElem?_map, hi]
        rfl
    · obtain hold | hnew := List.mem_append.1 hpost
      · exact h.arrived post hold k hk
      · obtain rfl := List.mem_singleton.1 hnew
        cases hk
    · obtain ⟨result, hresult, hb⟩ := h.requests request hrequest b heq
      refine ⟨result, ?_, hb⟩
      show result ∈ (s.posts ++ [(⟨i, call.result, none⟩ : Post)]).map Post.result
      rw [List.map_append]
      exact List.mem_append_left _ hresult
  · cases hmapped

theorem Sound.arrive (h : Sound server secret s) (hnext : s.next server secret (.arrive n) = some t) :
    Sound server secret t := by
  obtain ⟨post, hn, hmapped⟩ := Option.bind_eq_some_iff.1 hnext
  split at hmapped
  · obtain ⟨gateway, hgateway, rfl⟩ := Option.map_eq_some_iff.1 hmapped
    obtain ⟨hfollows, hrecords⟩ := h.records.next hgateway
    obtain ⟨request, point, hrequest, hexchanges⟩ | ⟨hnone, -⟩ := Gateway.requests_next hgateway
    · cases hrequest
      have horigin : (s.posts.set n { post with exchange := some s.gateway.exchanges.length }).map Post.origin =
          s.posts.map Post.origin := map_set_of_eq hn rfl
      refine h.later horigin (Nat.le_refl _) hfollows rfl h.judged rfl (fun other hother k hk => ?_) hrecords
        (fun request hin b heq => ?_)
      · obtain hold | rfl := List.mem_or_eq_of_mem_set hother
        · exact h.arrived_follow hfollows hold hk
        · cases hk
          refine ⟨⟨.matchResult secret (body post.result), point⟩, ?_, rfl⟩
          show gateway.exchanges[s.gateway.exchanges.length]? = _
          rw [hexchanges]
          exact List.getElem?_concat_length
      · change request ∈ gateway.exchanges.map Exchange.request at hin
        rw [hexchanges, List.map_append] at hin
        obtain hold | hnew := List.mem_append.1 hin
        · exact h.requests request hold b heq
        · obtain rfl := List.mem_singleton.1 hnew
          cases heq
          exact ⟨post.result, List.mem_map_of_mem (List.mem_of_getElem? hn), rfl⟩
    · exact absurd rfl (hnone _)
  · cases hmapped

/-- Nobody else sends results with the secret. -/
def Secret (server : Server η) (_ : Deployment η) : Action → Prop
  | .gateway (.request (.matchResult secret _)) => secret ≠ server.internalSecret
  | _ => True

instance (server : Server η) (s : Deployment η) (action : Action) : Decidable (Secret server s action) := by
  unfold Secret
  split <;> infer_instance

theorem Sound.gateway (h : Sound server secret s) {action : Gateway.Action}
    (hsecret : Secret server s (.gateway action))
    (hnext : s.next server secret (.gateway action) = some t) : Sound server secret t := by
  obtain ⟨gateway, hgateway, rfl⟩ := Option.map_eq_some_iff.1 hnext
  obtain ⟨hfollows, hrecords⟩ := h.records.next hgateway
  refine h.later rfl (Nat.le_refl _) hfollows rfl h.judged rfl
    (fun post hpost k hk => h.arrived_follow hfollows hpost hk) hrecords (fun request hin b heq => ?_)
  change request ∈ gateway.exchanges.map Exchange.request at hin
  obtain ⟨found, point, rfl, hexchanges⟩ | ⟨-, hsame⟩ := Gateway.requests_next hgateway
  · rw [hexchanges, List.map_append] at hin
    obtain hold | hnew := List.mem_append.1 hin
    · exact h.requests request hold b heq
    · obtain rfl := List.mem_singleton.1 hnew
      cases heq
      exact absurd rfl hsecret
  · rw [hsame] at hin
    exact h.requests request hin b heq

theorem Sound.next (h : Sound server secret s) {action : Action} (hsecret : Secret server s action)
    (hnext : s.next server secret action = some t) : Sound server secret t := by
  cases action with
  | elapse duration =>
      cases hnext
      exact h.elapse duration
  | start matchID playerA playerB => exact h.start hnext
  | play i action => exact h.play hnext
  | post i => exact h.post hnext
  | arrive n => exact h.arrive hnext
  | answer i =>
      refine h.move (fun call call' hi hstep => ?_) hnext
      split at hstep
      · obtain ⟨response, hresponse, rfl⟩ := Option.map_eq_some_iff.1 hstep
        exact ⟨answered_result, h.answered hi ‹_› hresponse⟩
      · cases hstep
  | fail i =>
      refine h.move (fun call call' hi hstep => ?_) hnext
      have hpaced := h.paced i call hi
      unfold Paced at hpaced
      split at hstep
      · rename_i hphase
        cases hstep
        rw [hphase] at hpaced
        obtain ⟨hthree, hcount, hattempt⟩ := hpaced
        exact ⟨failed_result _, paced_failed hthree (Nat.le_succ_of_le hcount) hattempt⟩
      · rename_i hphase
        cases hstep
        rw [hphase] at hpaced
        obtain ⟨hthree, hcount, hattempt, -⟩ := hpaced
        exact ⟨failed_result _, paced_failed hthree hcount hattempt⟩
      · cases hstep
  | wake i =>
      refine h.move (fun call call' hi hstep => ?_) hnext
      have hpaced := h.paced i call hi
      unfold Paced at hpaced
      split at hstep
      · rename_i hphase
        rw [hphase] at hpaced
        obtain ⟨hthree, hcount, hattempt⟩ := hpaced
        split at hstep
        · cases hstep
          exact ⟨retry_result, paced_retry hthree hcount hattempt⟩
        · cases hstep
      · cases hstep
  | cancel i =>
      refine h.move (fun call call' hi hstep => ?_) hnext
      have hpaced := h.paced i call hi
      split at hstep
      · split at hstep
        · rename_i hdone
          cases hstep
          exact ⟨rfl, hpaced.1, .inr hdone⟩
        · cases hstep
      · cases hstep
  | gateway action => exact h.gateway hsecret hnext

end Steps

end PvpDuel.Reporting
