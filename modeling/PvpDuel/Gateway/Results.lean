import PvpDuel.Gateway.Admission

/-!
# What the gateway does with match results

A request to `handleInternalMatchResult` is answered with 200 when its match is stored, by itself or by an
earlier one, and with an error when it has no business here or its result is refused. No answer is taken
back and no stored result is lost.
-/

namespace PvpDuel.Gateway

open Matchmaking (Draw)
open Profiles (MatchResult)

variable {η : Type} {server : Server η} {s t u : System η} {exchange : Exchange} {request : Request}
  {i : Nat} {draw : Draw} {order : List MatchResult}

theorem map_set_of_eq {α β : Type} {f : α → β} {l : List α} {i : Nat} {a b : α} (hi : l[i]? = some a)
    (heq : f b = f a) : (l.set i b).map f = l.map f := by
  obtain ⟨hlt, -⟩ := List.getElem?_eq_some_iff.1 hi
  rw [List.map_set]
  refine List.ext_getElem? fun j => ?_
  by_cases hj : i = j
  · subst hj
    rw [List.getElem?_set_self (by rwa [List.length_map]), List.getElem?_map, hi, heq]
    rfl
  · rw [List.getElem?_set_ne hj]

/-! ### One result -/

/-- The match of a result is stored. -/
def Kept (s : System η) (result : MatchResult) : Prop :=
  ∃ r ∈ s.profiles.values, r.matchID = result.trimmed.matchID

def Answers (server : Server η) (s : System η) (secret : String) (body : Body MatchResult)
    (response : Response) : Prop :=
  response.status = 200 ∧ (∃ result, body.value = some result ∧ Kept s result) ∨
    response.status ≠ 200 ∧ (secret ≠ server.internalSecret ∨ server.internalSecret = "" ∨
      body.ended = false ∨ ∀ result, body.value = some result → result.trimmed.Refused)

theorem stamped_matchID (now : Nat) (result : MatchResult) :
    (result.stamped now).matchID = result.matchID := by
  unfold MatchResult.stamped
  split <;> rfl

/-- The store is asked for a result that is not refused, has it afterwards and answers without an error. -/
theorem record_spec {kept : List MatchResult} (hkept : s.profiles.Holds kept) (result : MatchResult) :
    (∃ kept', (Server.record s result).1.profiles.Holds kept') ∧
      (∀ r ∈ s.profiles.values, r ∈ (Server.record s result).1.profiles.values) ∧
      ((Server.record s result).2.status = 200 ∧ Kept (Server.record s result).1 result ∨
        (Server.record s result).2.status ≠ 200 ∧ result.trimmed.Refused) := by
  have hvalues : ∀ {store : Profiles.MemoryStore} {kept : List MatchResult}, store.Holds kept →
      ∀ {r}, r ∈ store.values ↔ r ∈ kept := fun hholds => hholds.values_perm.mem_iff
  by_cases hrefused : result.trimmed.Refused
  · have hrecord : Server.record s result = (s, writeError 400 "INVALID_RESULT" "invalid match result") := by
      unfold Server.record Profiles.recordMatchResult
      dsimp only
      rw [if_pos hrefused]
    rw [hrecord]
    exact ⟨⟨kept, hkept⟩, fun _ hin => hin, .inr ⟨show 400 ≠ 200 by decide, hrefused⟩⟩
  have hrecord : Server.record s result =
      ({ s with profiles := (Profiles.MemoryStore.recordMatchResult s.profiles
          (result.trimmed.stamped s.auth.memory.clock) : _ × Except Empty Bool).1 },
        ⟨200, .recorded (decide (result.trimmed.matchID ∉ kept.map MatchResult.matchID))⟩) := by
    unfold Server.record Profiles.recordMatchResult
    dsimp only
    rw [if_neg hrefused]
    by_cases hmem : (result.trimmed.stamped s.auth.memory.clock).matchID ∈ kept.map MatchResult.matchID
    · rw [hkept.record_of_mem hmem]
      rw [stamped_matchID] at hmem
      simp only [hmem, not_true_eq_false, decide_false]
    · obtain ⟨store, hstore, -⟩ := @Profiles.MemoryStore.Holds.record_of_notMem Empty _ _ _ hkept hmem
      rw [hstore]
      rw [stamped_matchID] at hmem
      simp only [hmem, not_false_eq_true, decide_true]
  rw [hrecord]
  by_cases hmem : (result.trimmed.stamped s.auth.memory.clock).matchID ∈ kept.map MatchResult.matchID
  · rw [hkept.record_of_mem hmem]
    obtain ⟨old, hold, hid⟩ := List.mem_map.1 hmem
    rw [stamped_matchID] at hid
    exact ⟨⟨kept, hkept⟩, fun _ hin => hin, .inl ⟨rfl, old, (hvalues hkept).2 hold, hid⟩⟩
  · obtain ⟨store, hstore, hholds⟩ := @Profiles.MemoryStore.Holds.record_of_notMem Empty _ _ _ hkept hmem
    rw [hstore]
    refine ⟨⟨_, hholds⟩, fun r hin => ?_,
      .inl ⟨rfl, _, (hvalues hholds).2 ?_, stamped_matchID s.auth.memory.clock _⟩⟩
    · exact (hvalues hholds).2 (List.mem_append_left _ ((hvalues hkept).1 hin))
    · exact List.mem_append_right _ (List.mem_singleton_self _)

/-! ### Steps -/

/-- Later states keep the results and the answers. -/
structure Follows (s t : System η) : Prop where
  values : ∀ r ∈ s.profiles.values, r ∈ t.profiles.values
  exchanges : ∀ (i : Nat) exchange, s.exchanges[i]? = some exchange →
    ∃ later, t.exchanges[i]? = some later ∧ later.request = exchange.request ∧
      ∀ admission response, exchange.point = .answered admission response →
        later.point = .answered admission response

theorem Kept.mono (h : Follows s t) {result : MatchResult} (hkept : Kept s result) : Kept t result := by
  obtain ⟨r, hin, hid⟩ := hkept
  exact ⟨r, h.values r hin, hid⟩

theorem Answers.mono (h : Follows s t) {secret : String} {body : Body MatchResult} {response : Response}
    (hanswers : Answers server s secret body response) : Answers server t secret body response := by
  obtain ⟨hstatus, result, hvalue, hkept⟩ | hrefused := hanswers
  · exact .inl ⟨hstatus, result, hvalue, hkept.mono h⟩
  · exact .inr hrefused

/-- A request with a result stands at the store, with the secret, or is answered rightly; no other request
stands there. -/
structure Right (server : Server η) (s : System η) (exchange : Exchange) : Prop where
  recording : ∀ result, exchange.point = .recording result → Delivers server exchange.request result
  answers : ∀ secret body, exchange.request = .matchResult secret body →
    (∃ result, exchange.point = .recording result) ∨ ∃ admission response,
      exchange.point = .answered admission response ∧ Answers server s secret body response

theorem Right.mono (h : Follows s t) (hright : Right server s exchange) : Right server t exchange := by
  refine ⟨hright.recording, fun secret body hrequest => ?_⟩
  obtain hrecording | ⟨admission, response, hpoint, hanswers⟩ := hright.answers secret body hrequest
  · exact .inl hrecording
  · exact .inr ⟨admission, response, hpoint, hanswers.mono h⟩

structure Records (server : Server η) (s : System η) : Prop where
  store : ∃ kept, s.profiles.Holds kept
  results : ∀ r ∈ s.profiles.values, Stored server s r
  exchanges : ∀ exchange ∈ s.exchanges, Right server s exchange

theorem Stored.follow (h : Follows s t) {r : MatchResult} (hstored : Stored server s r) :
    Stored server t r := by
  obtain ⟨exchange, hin, result, now, ⟨body, hrequest, hrest⟩, hr⟩ := hstored
  obtain ⟨i, hi⟩ := List.mem_iff_getElem?.1 hin
  obtain ⟨later, hlater, hsame, -⟩ := h.exchanges i exchange hi
  exact ⟨later, List.mem_of_getElem? hlater, result, now, ⟨body, hsame.trans hrequest, hrest⟩, hr⟩

/-- A step that leaves the store alone, and the requests that it does not answer rightly. -/
theorem Records.of_follows (h : Records server s) (hfollows : Follows s t) (hprofiles : t.profiles = s.profiles)
    (hexchanges : ∀ exchange ∈ t.exchanges, exchange ∈ s.exchanges ∨ Right server s exchange) :
    Records server t := by
  refine ⟨?_, fun r hin => ?_, fun exchange hin => ?_⟩
  · rw [hprofiles]
    exact h.store
  · rw [hprofiles] at hin
    exact (h.results r hin).follow hfollows
  · obtain hold | hright := hexchanges exchange hin
    · exact (h.exchanges exchange hold).mono hfollows
    · exact hright.mono hfollows

theorem follows_append {auth : AuthServer.System η} {new : Exchange} :
    Follows s { s with auth, exchanges := s.exchanges ++ [new] } := by
  refine ⟨fun _ hin => hin, fun i exchange hi => ⟨exchange, ?_, rfl, fun _ _ hpoint => hpoint⟩⟩
  show (s.exchanges ++ [new])[i]? = some exchange
  rw [List.getElem?_append_left (List.getElem?_eq_some_iff.1 hi).1]
  exact hi

/-- The request at `i` moves on from a point where it was not answered. -/
theorem follows_set {point : Point} (hi : s.exchanges[i]? = some exchange)
    (hexchanges : u.exchanges = s.exchanges) (hvalues : ∀ r ∈ s.profiles.values, r ∈ u.profiles.values)
    (hopen : ∀ admission response, exchange.point ≠ .answered admission response) :
    Follows s { u with exchanges := u.exchanges.set i { exchange with point } } := by
  refine ⟨hvalues, fun j other hj => ?_⟩
  show ∃ later, (u.exchanges.set i { exchange with point })[j]? = some later ∧ _
  rw [hexchanges]
  by_cases heq : i = j
  · subst heq
    obtain rfl := Option.some.inj (hi.symm.trans hj)
    refine ⟨{ exchange with point }, ?_, rfl, fun admission response hpoint => ?_⟩
    · rw [List.getElem?_set_self (List.getElem?_eq_some_iff.1 hi).1]
    · exact absurd hpoint (hopen admission response)
  · refine ⟨other, ?_, rfl, fun _ _ hpoint => hpoint⟩
    rw [List.getElem?_set_ne heq]
    exact hj

/-- A handler that has nothing to do with results changes neither the requests nor the store. -/
theorem serve_keeps {route : Route} {admission : Admission} {served : System η × Response}
    (hserve : server.serve s draw order admission route = some served) :
    served.1.exchanges = s.exchanges ∧ served.1.profiles = s.profiles := by
  cases route with
  | me =>
      cases hserve
      exact ⟨rfl, rfl⟩
  | profile =>
      dsimp only [Server.serve] at hserve
      split at hserve
      · cases hserve
        exact ⟨rfl, rfl⟩
      · cases hserve
  | queueJoin =>
      cases hserve
      unfold Server.handleQueueJoin
      split
      · exact ⟨rfl, rfl⟩
      · split <;> exact ⟨rfl, rfl⟩
  | queueStatus =>
      cases hserve
      unfold Server.handleQueueStatus
      split <;> exact ⟨rfl, rfl⟩
  | queueLeave =>
      cases hserve
      unfold Server.handleQueueLeave
      split <;> exact ⟨rfl, rfl⟩

theorem record_exchanges (s : System η) (result : MatchResult) : (Server.record s result).1.exchanges = s.exchanges := by
  unfold Server.record
  split <;> rfl

theorem Records.set (h : Records server s) (hi : s.exchanges[i]? = some exchange)
    (hexchanges : u.exchanges = s.exchanges) (hprofiles : u.profiles = s.profiles)
    (hrecording : ∀ result, exchange.point ≠ .recording result)
    (hopen : ∀ admission response, exchange.point ≠ .answered admission response)
    {admission : Option Admission} {response : Response} :
    Follows s { u with exchanges := u.exchanges.set i ⟨exchange.request, .answered admission response⟩ } ∧
      Records server
        { u with exchanges := u.exchanges.set i ⟨exchange.request, .answered admission response⟩ } := by
  have hfollows : Follows s
      { u with exchanges := u.exchanges.set i ⟨exchange.request, .answered admission response⟩ } :=
    follows_set hi hexchanges (fun r hr => hprofiles.symm ▸ hr) hopen
  refine ⟨hfollows, h.of_follows hfollows hprofiles fun other hother => ?_⟩
  obtain hold | rfl := List.mem_or_eq_of_mem_set hother
  · rw [hexchanges] at hold
    exact .inl hold
  · refine .inr ⟨nofun, fun secret body hrequest => ?_⟩
    obtain ⟨result, hpoint⟩ | ⟨_, _, hpoint, -⟩ :=
      (h.exchanges exchange (List.mem_of_getElem? hi)).answers secret body hrequest
    · exact absurd hpoint (hrecording result)
    · exact absurd hpoint (hopen _ _)

theorem Records.record (h : Records server s) (hi : s.exchanges[i]? = some exchange) {result : MatchResult}
    (hpoint : exchange.point = .recording result) {response : Response}
    (hu : (Server.record s result).1 = u) (hresponse : (Server.record s result).2 = response) :
    Follows s { u with exchanges := u.exchanges.set i ⟨exchange.request, .answered none response⟩ } ∧
      Records server
        { u with exchanges := u.exchanges.set i ⟨exchange.request, .answered none response⟩ } := by
  obtain ⟨kept, hkept⟩ := h.store
  obtain ⟨hstore, hvalues, hanswer⟩ := record_spec hkept result
  have hexchanges := record_exchanges s result
  have hin := List.mem_of_getElem? hi
  have hdelivers := (h.exchanges exchange hin).recording result hpoint
  have hadded : ∀ r ∈ (Server.record s result).1.profiles.values, r ∈ s.profiles.values ∨
      ∃ now, r = result.trimmed.stamped now := by
    intro r hr
    have hcases : r ∈ (Profiles.recordMatchResult (@Profiles.MemoryStore.recordMatchResult Empty) s.profiles
        s.auth.memory.clock result).1.values → _ := mem_values_of_record
    unfold Server.record at hr
    split at hr
    · rename_i heq
      rw [heq] at hcases
      exact (hcases hr).imp_right fun hsame => ⟨_, hsame⟩
    · rename_i heq
      rw [heq] at hcases
      exact (hcases hr).imp_right fun hsame => ⟨_, hsame⟩
    · rename_i heq
      rw [heq] at hcases
      exact (hcases hr).imp_right fun hsame => ⟨_, hsame⟩
  rw [hu] at hstore hvalues hanswer hexchanges hadded
  rw [hresponse] at hanswer
  have hfollows : Follows s
      { u with exchanges := u.exchanges.set i ⟨exchange.request, .answered none response⟩ } := by
    refine follows_set hi hexchanges hvalues fun _ _ heq => ?_
    rw [hpoint] at heq
    cases heq
  refine ⟨hfollows, hstore, fun r hr => ?_, fun other hother => ?_⟩
  · obtain hold | ⟨now, rfl⟩ := hadded r hr
    · exact (h.results r hold).follow hfollows
    · exact Stored.follow hfollows ⟨exchange, hin, result, now, hdelivers, rfl⟩
  · obtain hold | rfl := List.mem_or_eq_of_mem_set hother
    · rw [hexchanges] at hold
      exact (h.exchanges other hold).mono hfollows
    · refine ⟨nofun, fun secret body hrequest => .inr ⟨none, response, rfl, ?_⟩⟩
      obtain ⟨_, hsame, -, hvalue⟩ := hdelivers
      cases hrequest.symm.trans hsame
      obtain ⟨hstatus, hstored⟩ | ⟨hstatus, hrefused⟩ := hanswer
      · exact .inl ⟨hstatus, result, hvalue, hstored⟩
      · refine .inr ⟨hstatus, .inr (.inr (.inr fun other hother => ?_))⟩
        rw [hvalue] at hother
        cases hother
        exact hrefused

theorem newSystem_records {queue : Matchmaking.Service} : Records server (newSystem queue) :=
  ⟨⟨_, Profiles.holds_newMemoryStore⟩, fun _ hin => absurd hin List.not_mem_nil,
    fun _ hin => absurd hin List.not_mem_nil⟩

theorem Records.nodup (h : Records server s) : (s.profiles.values.map MatchResult.matchID).Nodup := by
  obtain ⟨kept, hkept⟩ := h.store
  have hkeys : s.profiles.results.keys.Nodup := s.profiles.results.keys_nodup
  have hsame : s.profiles.values.map MatchResult.matchID = s.profiles.results.keys := by
    show (s.profiles.results.entries.map Sigma.snd).map MatchResult.matchID =
      s.profiles.results.entries.map Sigma.fst
    rw [hkept, List.map_map, List.map_map, List.map_map]
    rfl
  rw [hsame]
  exact hkeys

variable [DecidableEq η]

theorem accept_matchResult {secret : String} {body : Body MatchResult}
    {accepted : AuthServer.System η × Point}
    (haccept : server.accept s (.matchResult secret body) = some accepted) :
    (∃ result, accepted.2 = .recording result ∧
        Delivers server (.matchResult secret body) result) ∨
      ∃ response, accepted.2 = .answered none response ∧ Answers server s secret body response := by
  dsimp only [Server.accept] at haccept
  split at haccept
  · rename_i hsecret
    cases haccept
    exact .inr ⟨_, rfl, .inr ⟨show 401 ≠ 200 by decide, hsecret.symm.imp_right .inl⟩⟩
  · rename_i hsecret
    obtain ⟨hnonempty, hsame⟩ := not_or.1 hsecret
    unfold decodeJSON at haccept
    cases hvalue : body.value with
    | none =>
        rw [hvalue] at haccept
        cases haccept
        refine .inr ⟨_, rfl, .inr ⟨show 400 ≠ 200 by decide, .inr (.inr (.inr ?_))⟩⟩
        rw [hvalue]
        nofun
    | some result =>
        rw [hvalue] at haccept
        dsimp only at haccept
        cases hended : body.ended with
        | false =>
            rw [hended] at haccept
            cases haccept
            exact .inr ⟨_, rfl, .inr ⟨show 400 ≠ 200 by decide, .inr (.inr (.inl hended))⟩⟩
        | true =>
            rw [hended] at haccept
            cases haccept
            refine .inl ⟨result, rfl, body, ?_, hnonempty, hvalue⟩
            rw [not_not.1 hsame]

theorem right_of_accept {accepted : AuthServer.System η × Point}
    (haccept : server.accept s request = some accepted) : Right server s ⟨request, accepted.2⟩ := by
  have hother : (∀ secret body, request ≠ .matchResult secret body) →
      (∀ result, accepted.2 ≠ .recording result) → Right server s ⟨request, accepted.2⟩ :=
    fun hrequest hpoint => ⟨fun result heq => absurd heq (hpoint result),
      fun secret body heq => absurd heq (hrequest secret body)⟩
  have hcall : ∀ {action}, server.call s action = some accepted →
      ∀ result, accepted.2 ≠ .recording result := by
    intro action hcall
    obtain ⟨auth, -, rfl⟩ := Option.map_eq_some_iff.1 hcall
    nofun
  have hrefuse : ∀ {response}, Server.refuse s response = some accepted →
      ∀ result, accepted.2 ≠ .recording result := by
    intro response hrefuse
    cases hrefuse
    nofun
  cases request with
  | health =>
      cases haccept
      exact hother nofun nofun
  | matchResult secret body =>
      obtain ⟨result, hpoint, hdelivers⟩ | ⟨response, hpoint, hanswers⟩ := accept_matchResult haccept
      · rw [hpoint]
        exact ⟨fun _ heq => Point.recording.inj heq ▸ hdelivers, fun _ _ _ => .inl ⟨result, rfl⟩⟩
      · rw [hpoint]
        refine ⟨nofun, fun _ _ heq => .inr ⟨none, response, rfl, ?_⟩⟩
        cases heq
        exact hanswers
  | guarded route authorization =>
      dsimp only [Server.accept] at haccept
      split at haccept
      · exact hother nofun (hrefuse haccept)
      · cases haccept
        exact hother nofun nofun
  | _ =>
      dsimp only [Server.accept] at haccept
      split at haccept
      · exact hother nofun (hrefuse haccept)
      · exact hother nofun (hcall haccept)

theorem Records.next (h : Records server s) {action : Action} (hnext : server.next s action = some t) :
    Follows s t ∧ Records server t := by
  cases action with
  | elapse duration =>
      cases hnext
      have hfollows : Follows s { s with
          auth.memory.clock := s.auth.memory.clock + duration
          queue.clock := s.queue.clock + duration } :=
        ⟨fun _ hin => hin, fun i exchange hi => ⟨exchange, hi, rfl, fun _ _ hpoint => hpoint⟩⟩
      exact ⟨hfollows, h.of_follows hfollows rfl fun _ hin => .inl hin⟩
  | request request =>
      obtain ⟨⟨auth, point⟩, haccept, rfl⟩ := Option.map_eq_some_iff.1 hnext
      refine ⟨follows_append, h.of_follows follows_append rfl fun exchange hin => ?_⟩
      obtain hold | hnew := List.mem_append.1 hin
      · exact .inl hold
      · obtain rfl := List.mem_singleton.1 hnew
        exact .inr (right_of_accept haccept)
  | step call answers =>
      obtain ⟨point, -, hmapped⟩ := Option.bind_eq_some_iff.1 hnext
      obtain ⟨auth, -, rfl⟩ := Option.map_eq_some_iff.1 hmapped
      have hfollows : Follows s { s with auth, issued := s.issued ++ server.newlyIssued s point answers } :=
        ⟨fun _ hin => hin, fun i exchange hi => ⟨exchange, hi, rfl, fun _ _ hpoint => hpoint⟩⟩
      exact ⟨hfollows, h.of_follows hfollows rfl fun _ hin => .inl hin⟩
  | handle i draw order =>
      obtain ⟨exchange, hi, hmapped⟩ := Option.bind_eq_some_iff.1 hnext
      obtain ⟨⟨u, point⟩, hhandle, rfl⟩ := Option.map_eq_some_iff.1 hmapped
      unfold Server.handle at hhandle
      cases hpoint : exchange.point with
      | calling call =>
          rw [hpoint] at hhandle
          obtain ⟨response, -, heq⟩ := Option.map_eq_some_iff.1 hhandle
          cases heq
          refine h.set hi rfl rfl ?_ ?_
          · rw [hpoint]
            nofun
          · rw [hpoint]
            nofun
      | handling route admission =>
          rw [hpoint] at hhandle
          obtain ⟨served, hserve, heq⟩ := Option.map_eq_some_iff.1 hhandle
          cases heq
          obtain ⟨hexchanges, hprofiles⟩ := serve_keeps hserve
          refine h.set hi hexchanges hprofiles ?_ ?_
          · rw [hpoint]
            nofun
          · rw [hpoint]
            nofun
      | recording result =>
          rw [hpoint] at hhandle
          obtain ⟨hu, rfl⟩ := Prod.mk.inj (Option.some.inj hhandle)
          exact h.record hi hpoint hu rfl
      | answered admitted response =>
          rw [hpoint] at hhandle
          cases hhandle

theorem requests_next {action : Action} (hnext : server.next s action = some t) :
    (∃ request point, action = .request request ∧ t.exchanges = s.exchanges ++ [⟨request, point⟩]) ∨
      (∀ request, action ≠ .request request) ∧
        t.exchanges.map Exchange.request = s.exchanges.map Exchange.request := by
  cases action with
  | elapse duration =>
      cases hnext
      exact .inr ⟨nofun, rfl⟩
  | request request =>
      obtain ⟨⟨auth, point⟩, -, rfl⟩ := Option.map_eq_some_iff.1 hnext
      exact .inl ⟨request, point, rfl, rfl⟩
  | step call answers =>
      obtain ⟨point, -, hmapped⟩ := Option.bind_eq_some_iff.1 hnext
      obtain ⟨auth, -, rfl⟩ := Option.map_eq_some_iff.1 hmapped
      exact .inr ⟨nofun, rfl⟩
  | handle i draw order =>
      obtain ⟨exchange, hi, hmapped⟩ := Option.bind_eq_some_iff.1 hnext
      obtain ⟨⟨u, point⟩, hhandle, rfl⟩ := Option.map_eq_some_iff.1 hmapped
      have hexchanges : u.exchanges = s.exchanges := by
        unfold Server.handle at hhandle
        split at hhandle
        · obtain ⟨response, -, heq⟩ := Option.map_eq_some_iff.1 hhandle
          cases heq
          rfl
        · obtain ⟨served, hserve, heq⟩ := Option.map_eq_some_iff.1 hhandle
          cases heq
          exact (serve_keeps hserve).1
        · obtain ⟨rfl, -⟩ := Prod.mk.inj (Option.some.inj hhandle)
          exact record_exchanges s _
        · cases hhandle
      refine .inr ⟨nofun, ?_⟩
      show (u.exchanges.set i { exchange with point }).map Exchange.request = _
      rw [hexchanges]
      exact map_set_of_eq hi rfl

end PvpDuel.Gateway
