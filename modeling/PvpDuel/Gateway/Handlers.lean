import PvpDuel.AuthServer.SingleUse
import PvpDuel.Gateway.Admission
import PvpDuel.Matchmaking.Queue

/-!
# Whom the gateway serves

Every request behind `requireAccess` is on behalf of a user who was created, and it was let in while an
access token of that user was valid. What the handlers put into the queue, the results and the responses
follows that user.
-/

namespace PvpDuel.Gateway

open AuthServer (AccessClaims User)
open Matchmaking (Draw Entry Result TicketClaims)
open Profiles (MatchResult)

variable {η : Type} {server : Server η} {s t : System η} {request : Request} {admission : Admission}

/-! ### Handlers -/

/-- What the step of a handler does, up to the point where its request stands. -/
structure Handles (server : Server η) (s u : System η) (exchange : Exchange) (point : Point) : Prop where
  threads : u.auth.threads = s.auth.threads
  store : u.auth.memory.store = s.auth.memory.store
  history : u.auth.memory.history = s.auth.memory.history
  issued : u.issued = s.issued
  exchanges : u.exchanges = s.exchanges
  le : s.auth.memory.clock ≤ u.auth.memory.clock
  clock : u.queue.clock = u.auth.memory.clock
  queue : ∀ p current, u.queue.entries p = some current → Placed server u p current
  results : ∀ r ∈ u.profiles.values, r ∈ s.profiles.values ∨
    ∃ result now, Delivers server exchange.request result ∧ r = result.trimmed.stamped now
  holds : Holds server u exchange.request point
  admission : ∀ admission, exchange.point.admission = some admission → point.admission = some admission

variable {u : System η} {exchange : Exchange} {point : Point} {i : Nat}

theorem Handles.extends (h : Handles server s u exchange point) : Extends s u := by
  refine ⟨h.le, fun event hin => ?_, fun token hin => ?_, fun other hin => ?_⟩
  · rw [h.history]
    exact hin
  · rw [h.issued]
    exact hin
  · rw [h.exchanges]
    exact ⟨other, hin, rfl, fun _ hkept => hkept⟩

theorem Handles.extends_set (h : Handles server s u exchange point) (hi : s.exchanges[i]? = some exchange) :
    Extends u { u with exchanges := u.exchanges.set i { exchange with point } } := by
  refine ⟨Nat.le_refl _, fun _ hin => hin, fun _ hin => hin, fun other hin => ?_⟩
  rw [h.exchanges] at hin
  show ∃ later ∈ u.exchanges.set i { exchange with point }, _
  rw [h.exchanges]
  obtain ⟨j, hj⟩ := List.mem_iff_getElem?.1 hin
  have hlt := (List.getElem?_eq_some_iff.1 hi).1
  by_cases heq : i = j
  · subst heq
    obtain rfl := Option.some.inj (hi.symm.trans hj)
    refine ⟨{ exchange with point }, List.mem_iff_getElem?.2 ⟨i, ?_⟩, rfl, h.admission⟩
    rw [List.getElem?_set_self hlt]
  · refine ⟨other, List.mem_iff_getElem?.2 ⟨j, ?_⟩, rfl, fun _ hkept => hkept⟩
    rw [List.getElem?_set_ne heq]
    exact hj

theorem Sound.handled (h : Sound server s) (hi : s.exchanges[i]? = some exchange)
    (hhandles : Handles server s u exchange point) :
    Sound server { u with exchanges := u.exchanges.set i { exchange with point } } := by
  have hfirst := hhandles.extends
  have hset := hhandles.extends_set hi
  have hin := List.mem_of_getElem? hi
  refine
    { clock := hhandles.clock
      registered := ⟨fun id user hfound => ?_, fun login id hfound => ?_⟩
      served := fun call found hfound user hserved => ?_
      access := fun call found hfound raw haccess => ?_
      issued := fun token htoken => ?_
      exchanges := fun other hother => ?_
      queue := fun p current hcurrent => (hhandles.queue p current hcurrent).mono hset
      results := fun r hr => ?_ }
  · change u.auth.memory.store.usersByID id = some user at hfound
    rw [hhandles.store] at hfound
    exact (h.registered.users id user hfound).imp_right (hfirst.history _)
  · change u.auth.memory.store.userIDByLogin login = some id at hfound
    show (u.auth.memory.store.usersByID id).isSome
    rw [hhandles.store] at hfound ⊢
    exact h.registered.logins login id hfound
  · change u.auth.threads[call]? = some found at hfound
    rw [hhandles.threads] at hfound
    exact hfirst.history _ (h.served call found hfound user hserved)
  · change u.auth.threads[call]? = some found at hfound
    rw [hhandles.threads] at hfound
    obtain ⟨user, hserved, hsigned⟩ := h.access call found hfound raw haccess
    exact ⟨user, hserved, (hsigned.mono hfirst).mono hset⟩
  · change token ∈ u.issued at htoken
    rw [hhandles.issued] at htoken
    obtain ⟨user, time, id, hcreated, hle, hclaims⟩ := h.issued token htoken
    exact ⟨user, time, id, hfirst.history _ hcreated, hle.trans hfirst.clock, hclaims⟩
  · obtain hold | rfl := List.mem_or_eq_of_mem_set hother
    · rw [hhandles.exchanges] at hold
      exact ((h.exchanges other hold).mono hfirst).mono hset
    · exact hhandles.holds.mono hset
  · obtain hold | ⟨result, now, hdelivers, hr⟩ := hhandles.results r hr
    · exact ((h.results r hold).mono hfirst).mono hset
    · refine Stored.mono hset ⟨exchange, ?_, result, now, hdelivers, hr⟩
      rw [hhandles.exchanges]
      exact hin

section Routes

variable {route : Route} {draw : Draw} {order : List MatchResult} {response : Response}

theorem Sound.handles_stay (h : Sound server s) (hholds : Holds server s exchange.request point)
    (hadmission : ∀ admission, exchange.point.admission = some admission →
      point.admission = some admission) : Handles server s s exchange point where
  threads := rfl
  store := rfl
  history := rfl
  issued := rfl
  exchanges := rfl
  le := Nat.le_refl _
  clock := h.clock
  queue := h.queue
  results := fun _ hin => .inl hin
  holds := hholds
  admission := hadmission

theorem Sound.handles_queue (h : Sound server s) {queue : Matchmaking.Service}
    (hle : s.queue.clock ≤ queue.clock)
    (hqueue : ∀ p current, queue.entries p = some current → Placed server (Server.withQueue s queue) p current)
    (hholds : Holds server (Server.withQueue s queue) exchange.request point)
    (hadmission : ∀ admission, exchange.point.admission = some admission →
      point.admission = some admission) : Handles server s (Server.withQueue s queue) exchange point where
  threads := rfl
  store := rfl
  history := rfl
  issued := rfl
  exchanges := rfl
  le := h.clock ▸ hle
  clock := rfl
  queue := hqueue
  results := fun _ hin => .inl hin
  holds := hholds
  admission := hadmission

theorem Sound.extends_withQueue (h : Sound server s) {queue : Matchmaking.Service}
    (hle : s.queue.clock ≤ queue.clock) : Extends s (Server.withQueue s queue) :=
  ⟨h.clock ▸ hle, fun _ hin => hin, fun _ hin => hin, fun other hin => ⟨other, hin, rfl, fun _ hkept => hkept⟩⟩

theorem Genuine.playerID (h : Genuine s admission) :
    playerIDFromContext admission = some admission.claims.subject :=
  if_neg h.subject

theorem Joined.later {playerID : String} {time later : Nat} (h : Joined s playerID time)
    (hle : time ≤ later) : Joined s playerID later := by
  obtain ⟨other, hin, found, hadmits, hsubject, htime⟩ := h
  exact ⟨other, hin, found, hadmits, hsubject, htime.trans hle⟩

/-- What the queue holds after a call of `Join` for the bearer of a token. -/
theorem Sound.placed_of_join (h : Sound server s) (hin : exchange ∈ s.exchanges)
    (hadmits : exchange.Admits .queueJoin admission) (hgenuine : Genuine s admission) {p : String}
    {current : Entry}
    (hcurrent : (s.queue.join server.sign admission.claims.subject draw).1.entries p = some current) :
    Placed server (Server.withQueue s (s.queue.join server.sign admission.claims.subject draw).1) p current := by
  have hle : s.queue.clock ≤ (s.queue.join server.sign admission.claims.subject draw).1.clock :=
    clock_le_join
  have hextends := h.extends_withQueue hle
  obtain hold | hadds := adds_of_join hcurrent
  · exact (h.queue p current hold).mono hextends
  have hjoined : ∀ q, q = admission.claims.subject ∨ (s.queue.entries q).isSome →
      Joined s q current.joinedAt := by
    rintro q (rfl | hsome)
    · refine ⟨exchange, hin, admission, hadmits, rfl, ?_⟩
      rw [hadds.joinedAt, h.clock]
      exact hgenuine.past
    · obtain ⟨earlier, hearlier⟩ := Option.isSome_iff_exists.1 hsome
      have hplaced := h.queue q earlier hearlier
      refine hplaced.joined.later ?_
      rw [hadds.joinedAt, h.clock]
      exact hplaced.past
  refine ⟨(hjoined p hadds.mine).mono hextends, ?_, fun hstatus => ?_⟩
  · rw [hadds.joinedAt]
    exact hle
  · obtain ⟨hopponent, hticketed⟩ := hadds.matched hstatus
    exact ⟨(hjoined _ hopponent).mono hextends, hticketed⟩

theorem Sound.handles_join (h : Sound server s) (hin : exchange ∈ s.exchanges)
    (hadmits : exchange.Admits .queueJoin admission) (hgenuine : Genuine s admission)
    (hrequest : ∃ route authorization, exchange.request = .guarded route authorization ∧
      bearer authorization = some admission.raw)
    (hadmission : ∀ other, exchange.point.admission = some other → some admission = some other) :
    Handles server s (server.handleQueueJoin s draw admission).1 exchange
      (.answered (some admission) (server.handleQueueJoin s draw admission).2) := by
  have hle : s.queue.clock ≤ (s.queue.join server.sign admission.claims.subject draw).1.clock :=
    clock_le_join
  have hplaced : ∀ p current,
      (s.queue.join server.sign admission.claims.subject draw).1.entries p = some current → _ :=
    fun p current => h.placed_of_join hin hadmits hgenuine
  have hanswer : ∀ result, (s.queue.join server.sign admission.claims.subject draw).2 = .ok result → _ :=
    fun result => Matchmaking.Service.join_entry
  unfold Server.handleQueueJoin
  rw [hgenuine.playerID]
  dsimp only
  generalize s.queue.join server.sign admission.claims.subject draw = joined at hle hplaced hanswer ⊢
  obtain ⟨queue, answer⟩ := joined
  cases answer with
  | error err =>
      refine h.handles_queue hle hplaced ⟨hrequest, hgenuine.mono (h.extends_withQueue hle), trivial⟩ hadmission
  | ok result =>
      refine h.handles_queue hle hplaced
        ⟨hrequest, hgenuine.mono (h.extends_withQueue hle), fun hstatus => ?_⟩ hadmission
      obtain ⟨joinedAt, hentry⟩ := hanswer result rfl
      have hplace := hplaced _ _ hentry
      exact (hplace.matched hstatus).imp_left fun hjoined => hjoined.later hplace.past

theorem Sound.handles_status (h : Sound server s) (hgenuine : Genuine s admission)
    (hrequest : ∃ route authorization, exchange.request = .guarded route authorization ∧
      bearer authorization = some admission.raw)
    (hadmission : ∀ other, exchange.point.admission = some other → some admission = some other) :
    Handles server s (Server.handleQueueStatus s admission).1 exchange
      (.answered (some admission) (Server.handleQueueStatus s admission).2) := by
  unfold Server.handleQueueStatus
  rw [hgenuine.playerID]
  have hqueue : (s.queue.playerStatus admission.claims.subject).1 = s.queue.purgeExpired s.queue.clock :=
    playerStatus_fst
  have hle : s.queue.clock ≤ (s.queue.playerStatus admission.claims.subject).1.clock := by
    rw [hqueue]
    exact Nat.le_refl _
  have hextends := h.extends_withQueue hle
  refine h.handles_queue hle (fun p current hcurrent => ?_) ⟨hrequest, hgenuine.mono hextends, fun hstatus => ?_⟩
    hadmission
  · rw [hqueue] at hcurrent
    exact (h.queue p current (Matchmaking.Service.purgeExpired_entry.1 hcurrent).1).mono hextends
  · obtain ⟨current, hcurrent, hresult⟩ := entry_of_playerStatus hstatus
    have hplace := h.queue _ current hcurrent
    have hmatched := hplace.matched (hresult ▸ hstatus)
    rw [hresult] at hmatched
    exact hmatched.imp_left fun hjoined => (hjoined.mono hextends).later (hplace.past.trans hextends.clock)

theorem Sound.handles_leave (h : Sound server s) (hgenuine : Genuine s admission)
    (hrequest : ∃ route authorization, exchange.request = .guarded route authorization ∧
      bearer authorization = some admission.raw)
    (hadmission : ∀ other, exchange.point.admission = some other → some admission = some other) :
    Handles server s (Server.handleQueueLeave s admission).1 exchange
      (.answered (some admission) (Server.handleQueueLeave s admission).2) := by
  unfold Server.handleQueueLeave
  rw [hgenuine.playerID]
  have hextends : Extends s (Server.withQueue s (s.queue.leave admission.claims.subject)) :=
    h.extends_withQueue (Nat.le_refl _)
  refine h.handles_queue (Nat.le_refl _) (fun p current hcurrent => ?_)
    ⟨hrequest, hgenuine.mono hextends, trivial⟩ hadmission
  change Function.update s.queue.entries admission.claims.subject none p = some current at hcurrent
  by_cases hp : p = admission.claims.subject
  · rw [hp, Function.update_self] at hcurrent
    cases hcurrent
  · rw [Function.update_of_ne hp] at hcurrent
    exact (h.queue p current hcurrent).mono hextends

theorem Sound.reveals_me (h : Sound server s) :
    Reveals server s admission.claims.subject (Server.handleMe s admission).payload := by
  unfold Server.handleMe
  cases huser : s.auth.memory.store.userByID admission.claims.subject with
  | error err => trivial
  | ok user => exact (h.registered.userByID huser).1

theorem Sound.reveals_profile (h : Sound server s) (hgenuine : Genuine s admission) :
    Reveals server s admission.claims.subject (Server.handleProfile s order admission).payload := by
  unfold Server.handleProfile
  rw [hgenuine.playerID]
  dsimp only
  cases hprofile : Profiles.profileByUserID s.auth.memory.store order admission.claims.subject with
  | error err =>
      dsimp only
      split <;> trivial
  | ok profile =>
      unfold Profiles.profileByUserID at hprofile
      split at hprofile
      · cases hprofile
      · cases hprofile
        exact (h.registered.userByID ‹_›).1

theorem Sound.handles_serve (h : Sound server s) (hin : exchange ∈ s.exchanges)
    (hpoint : exchange.point = .handling route admission) {served : System η × Response}
    (hserve : server.serve s draw order admission route = some served) :
    Handles server s served.1 exchange (.answered (some admission) served.2) := by
  have hholds := h.exchanges exchange hin
  rw [hpoint] at hholds
  obtain ⟨⟨authorization, hrequest, hbearer⟩, hgenuine⟩ := hholds
  have hknown : ∃ route authorization, exchange.request = .guarded route authorization ∧
      bearer authorization = some admission.raw := ⟨route, authorization, hrequest, hbearer⟩
  have hadmission : ∀ other, exchange.point.admission = some other → some admission = some other := by
    intro other hother
    rw [hpoint] at hother
    exact hother
  cases route with
  | me =>
      cases hserve
      exact h.handles_stay ⟨hknown, hgenuine, h.reveals_me⟩ hadmission
  | profile =>
      dsimp only [Server.serve] at hserve
      split at hserve
      · cases hserve
        exact h.handles_stay ⟨hknown, hgenuine, h.reveals_profile hgenuine⟩ hadmission
      · cases hserve
  | queueJoin =>
      cases hserve
      have hadmits : exchange.Admits .queueJoin admission := by
        refine ⟨⟨authorization, hrequest, hbearer⟩, ?_⟩
        rw [hpoint]
        rfl
      exact h.handles_join hin hadmits hgenuine hknown hadmission
  | queueStatus =>
      cases hserve
      exact h.handles_status hgenuine hknown hadmission
  | queueLeave =>
      cases hserve
      exact h.handles_leave hgenuine hknown hadmission

theorem grants_writeAuthError (err : AuthServer.AuthError) : Grants s (writeAuthError err).payload := by
  unfold writeAuthError
  split_ifs <;> trivial

theorem Sound.grants_authAnswer (h : Sound server s) {call : Nat} {phase : AuthServer.Phase η}
    (hphase : s.auth.threads[call]? = some phase)
    (hanswer : Server.authAnswer request phase = some response) : Grants s response.payload := by
  cases phase with
  | authenticated user tokens =>
      obtain ⟨owner, hserved, hsigned⟩ := h.access call _ hphase tokens.accessToken rfl
      obtain rfl := Option.some.inj hserved
      dsimp only [Server.authAnswer] at hanswer
      split at hanswer
      · cases hanswer
        exact ⟨user, rfl, hsigned⟩
      · cases hanswer
        exact ⟨user, rfl, hsigned⟩
  | refreshed raw user tokens =>
      obtain ⟨owner, hserved, hsigned⟩ := h.access call _ hphase tokens.accessToken rfl
      obtain rfl := Option.some.inj hserved
      cases hanswer
      exact ⟨user, rfl, hsigned⟩
  | loggedOut raw =>
      cases hanswer
      trivial
  | failed err =>
      dsimp only [Server.authAnswer] at hanswer
      split at hanswer
      · cases hanswer
        trivial
      · cases hanswer
        exact grants_writeAuthError err
  | _ => cases hanswer

theorem Sound.handles_record (h : Sound server s) {result : MatchResult}
    (hdelivers : Delivers server exchange.request result)
    (hadmission : exchange.point.admission = none) :
    Handles server s (Server.record s result).1 exchange (.answered none (Server.record s result).2) := by
  have hnone : ∀ admission, exchange.point.admission = some admission → none = some admission := by
    intro admission hsome
    rw [hadmission] at hsome
    exact hsome
  have hvalues : ∀ r ∈ (Profiles.recordMatchResult (@Profiles.MemoryStore.recordMatchResult Empty) s.profiles
      s.auth.memory.clock result).1.values, r ∈ s.profiles.values ∨
        ∃ result now, Delivers server exchange.request result ∧ r = result.trimmed.stamped now := by
    intro r hr
    exact (mem_values_of_record hr).imp_right fun hsame => ⟨result, _, hdelivers, hsame⟩
  have hstatus : ∀ {response : Response} route authorization,
      exchange.request = .guarded route authorization → response.status = 401 := by
    intro response route authorization hguarded
    obtain ⟨body, hrequest, -⟩ := hdelivers
    rw [hrequest] at hguarded
    cases hguarded
  have hchanged : ∀ {profiles : Profiles.MemoryStore} {response : Response},
      (∀ r ∈ profiles.values, r ∈ s.profiles.values ∨
        ∃ result now, Delivers server exchange.request result ∧ r = result.trimmed.stamped now) →
      Grants s response.payload →
      Handles server s { s with profiles } exchange (.answered none response) := by
    intro profiles response hresults hgrants
    have hextends : Extends s { s with profiles } :=
      ⟨Nat.le_refl _, fun _ hin => hin, fun _ hin => hin, fun other hin => ⟨other, hin, rfl, fun _ hkept => hkept⟩⟩
    exact ⟨rfl, rfl, rfl, rfl, rfl, Nat.le_refl _, h.clock,
      fun p current hcurrent => (h.queue p current hcurrent).mono hextends, hresults,
      ⟨hgrants.mono hextends, hstatus⟩, hnone⟩
  unfold Server.record
  split
  · rename_i heq
    rw [heq] at hvalues
    exact hchanged hvalues trivial
  · rename_i heq
    rw [heq] at hvalues
    exact hchanged hvalues trivial
  · rename_i heq
    rw [heq] at hvalues
    exact hchanged hvalues trivial

theorem Sound.next_handle [DecidableEq η] (h : Sound server s)
    (hnext : server.next s (.handle i draw order) = some t) : Sound server t := by
  obtain ⟨exchange, hi, hmapped⟩ := Option.bind_eq_some_iff.1 hnext
  obtain ⟨⟨u, point⟩, hhandle, rfl⟩ := Option.map_eq_some_iff.1 hmapped
  refine h.handled hi ?_
  have hin := List.mem_of_getElem? hi
  have hholds := h.exchanges exchange hin
  unfold Server.handle at hhandle
  cases hpoint : exchange.point with
  | calling call =>
      rw [hpoint] at hhandle hholds
      obtain ⟨response, hanswer, heq⟩ := Option.map_eq_some_iff.1 hhandle
      cases heq
      obtain ⟨phase, hphase, hwritten⟩ := Option.bind_eq_some_iff.1 hanswer
      refine h.handles_stay ⟨h.grants_authAnswer hphase hwritten, fun route authorization hguarded =>
        absurd hguarded (hholds route authorization)⟩ ?_
      rw [hpoint]
      nofun
  | handling route admission =>
      rw [hpoint] at hhandle
      obtain ⟨served, hserve, heq⟩ := Option.map_eq_some_iff.1 hhandle
      cases heq
      exact h.handles_serve hin hpoint hserve
  | recording result =>
      rw [hpoint] at hhandle hholds
      cases hhandle
      refine h.handles_record hholds ?_
      rw [hpoint]
      rfl
  | answered admitted response =>
      rw [hpoint] at hhandle
      cases hhandle

end Routes

/-! ### Runs -/

/-- The request was let in with an access token that was issued to a created user and was valid then. -/
structure Bears (server : Server η) (s : System η) (admission : Admission) (user : User)
    (time : Nat) (id : String) : Prop where
  issued : (admission.claims, admission.raw) ∈ s.issued
  claims : admission.claims = server.tokens.claims server.auth.accessTTL time user id
  created : .created user ∈ s.auth.memory.history
  subject : admission.claims.subject = user.id
  login : admission.claims.login = user.login
  signed : time ≤ s.auth.memory.clock
  since : Matchmaking.numericDate time ≤ admission.time
  before : admission.time < Matchmaking.numericDate (time + server.auth.accessTTL)

theorem Sound.bears_of_genuine (h : Sound server s) (hgenuine : Genuine s admission) :
    ∃ user time id, Bears server s admission user time id := by
  obtain ⟨user, time, id, hcreated, hle, hclaims⟩ := h.issued _ hgenuine.issued
  dsimp only at hclaims
  have hsubject : admission.claims.subject = user.id := by
    rw [hclaims]
    rfl
  have hlogin : admission.claims.login = user.login := by
    rw [hclaims]
    rfl
  have hsince := hgenuine.since
  have hbefore := hgenuine.before
  rw [hclaims] at hsince hbefore
  exact ⟨user, time, id, hgenuine.issued, hclaims, hcreated, hsubject, hlogin, hle, hsince, hbefore⟩

section Runs

variable [DecidableEq η]

theorem Sound.next_elapse (h : Sound server s) {duration : Nat}
    (hnext : server.next s (.elapse duration) = some t) : Sound server t := by
  cases hnext
  have hextends : Extends s { s with
      auth.memory.clock := s.auth.memory.clock + duration
      queue.clock := s.queue.clock + duration } :=
    ⟨Nat.le_add_right _ _, fun _ hin => hin, fun _ hin => hin,
      fun other hin => ⟨other, hin, rfl, fun _ hkept => hkept⟩⟩
  refine
    { clock := congrArg (· + duration) h.clock
      registered := ⟨h.registered.users, h.registered.logins⟩
      served := h.served
      access := fun call found hfound raw haccess => ?_
      issued := fun token hin => ?_
      exchanges := fun other hin => (h.exchanges other hin).mono hextends
      queue := fun p current hcurrent => (h.queue p current hcurrent).mono hextends
      results := fun r hin => (h.results r hin).mono hextends }
  · obtain ⟨user, hserved, hsigned⟩ := h.access call found hfound raw haccess
    exact ⟨user, hserved, hsigned.mono hextends⟩
  · obtain ⟨user, time, id, hcreated, hle, hclaims⟩ := h.issued token hin
    exact ⟨user, time, id, hcreated, hle.trans hextends.clock, hclaims⟩

theorem Sound.next (h : Sound server s) (hvalid : server.tokens.Validates) {action : Action}
    (hunforged : Unforged server s action) (hnext : server.next s action = some t) : Sound server t := by
  cases action with
  | elapse duration => exact h.next_elapse hnext
  | request request => exact h.next_request hvalid hunforged hnext
  | step call answers => exact h.next_step hnext
  | handle i draw order => exact h.next_handle hnext

/-- On memory stores, when nobody else can sign access tokens: a request behind `requireAccess` is answered
with 401, or it was let in with an access token that the gateway had issued to a created user and that was
valid then, and its answer is about that user; the tokens of a response were signed for the user it names;
whoever has a place in the queue, or is an opponent there, was let in before to join it, and a match ticket
is for the player who gets it against that opponent; and every stored result came with the internal secret,
which is not empty. -/
theorem gateway_serves_its_users (hvalid : server.tokens.Validates)
    {tickets : Option Matchmaking.TicketManager} {serverAddr : String} {waitingTTL : Int} {clock : Nat}
    {queue : Matchmaking.Service} (hqueue : Matchmaking.new tickets serverAddr waitingTTL clock = .ok queue)
    {actions : List Action} (hrun : Transition.run server.next (newSystem queue) actions = some s)
    (hmeets : Transition.Meets server.next (Unforged server) (newSystem queue) actions) :
    (∀ exchange ∈ s.exchanges, ∀ route authorization,
      exchange.request = .guarded route authorization →
      (∃ response, exchange.point = .answered none response ∧ response.status = 401) ∨
      ∃ admission user time id, exchange.Admits route admission ∧ Bears server s admission user time id ∧
        ∀ response, exchange.point = .answered (some admission) response →
          Reveals server s user.id response.payload) ∧
    (∀ exchange ∈ s.exchanges, ∀ status response,
      exchange.point = .answered none ⟨status, .auth response⟩ →
      ∃ user, response.user = toUserResponse user ∧ Signed s user response.accessToken) ∧
    (∀ playerID current, s.queue.entries playerID = some current →
      Joined s playerID current.joinedAt ∧ (current.result.status = .matched →
        Joined s current.result.opponentID current.joinedAt ∧
          Ticketed server.sign playerID current.result.matchID current.result.opponentID
            current.result.matchTicket)) ∧
    ∀ r ∈ s.profiles.values, Stored server s r := by
  have hempty : ∀ p, queue.entries p = none := by
    unfold Matchmaking.new at hqueue
    split at hqueue
    · cases hqueue
    · split_ifs at hqueue
      cases hqueue
      exact fun _ => rfl
  have h : Sound server s := Transition.meets_invariant
    (fun _ _ _ hsound hunforged hnext => Sound.next hsound hvalid hunforged hnext) hrun hmeets
    (newSystem_sound hempty)
  refine ⟨fun exchange hin route authorization hguarded => ?_, fun exchange hin status response hpoint => ?_,
    fun playerID current hcurrent => ?_, h.results⟩
  · have hholds := h.exchanges exchange hin
    cases hpoint : exchange.point with
    | calling call =>
        rw [hpoint] at hholds
        exact absurd hguarded (hholds route authorization)
    | recording result =>
        rw [hpoint] at hholds
        obtain ⟨body, hrequest, -⟩ := hholds
        rw [hguarded] at hrequest
        cases hrequest
    | handling found admission =>
        rw [hpoint] at hholds
        obtain ⟨⟨header, hrequest, hbearer⟩, hgenuine⟩ := hholds
        obtain ⟨user, time, id, hbears⟩ := h.bears_of_genuine hgenuine
        cases hguarded.symm.trans hrequest
        refine .inr ⟨admission, user, time, id, ⟨⟨authorization, hrequest, hbearer⟩, ?_⟩, hbears,
          fun _ hanswered => ?_⟩
        · rw [hpoint]
          rfl
        · cases hanswered
    | answered admitted response =>
        rw [hpoint] at hholds
        cases admitted with
        | none => exact .inl ⟨response, rfl, hholds.2 route authorization hguarded⟩
        | some admission =>
            obtain ⟨⟨found, header, hrequest, hbearer⟩, hgenuine, hreveals⟩ := hholds
            obtain ⟨user, time, id, hbears⟩ := h.bears_of_genuine hgenuine
            cases hguarded.symm.trans hrequest
            refine .inr ⟨admission, user, time, id, ⟨⟨authorization, hrequest, hbearer⟩, ?_⟩, hbears,
              fun other hother => ?_⟩
            · rw [hpoint]
              rfl
            · cases hother
              exact hbears.subject ▸ hreveals
  · have hholds := h.exchanges exchange hin
    rw [hpoint] at hholds
    exact hholds.1
  · have hplaced := h.queue playerID current hcurrent
    exact ⟨hplaced.joined, hplaced.matched⟩

end Runs

/-- A library whose tokens are the subjects of two users. -/
def duelTokens : AuthServer.TokenManager where
  issuer := "gateway"
  audience := "client"
  signedString := fun claims => .ok claims.subject
  parseWithClaims := fun now raw =>
    if now < 900000000000 then
      if raw = "id-a" then some ⟨"alice", "gateway", raw, ["client"], 900000000000, 0, 0, raw⟩
      else if raw = "id-b" then some ⟨"bobby", "gateway", raw, ["client"], 900000000000, 0, 0, raw⟩
      else none
    else none

theorem duelTokens_validates : duelTokens.Validates := by
  have hparse : ∀ now raw claims, duelTokens.parseWithClaims now raw = some claims →
      claims.issuer = "gateway" ∧ claims.audience = ["client"] ∧ claims.notBefore = 0 ∧
        claims.expiresAt = 900000000000 ∧ now < 900000000000 := by
    intro now raw claims hfound
    dsimp only [duelTokens] at hfound
    split_ifs at hfound with hnow
    · cases hfound
      exact ⟨rfl, rfl, rfl, rfl, hnow⟩
    · cases hfound
      exact ⟨rfl, rfl, rfl, rfl, hnow⟩
  refine ⟨fun now raw claims hfound => (hparse now raw claims hfound).1,
    fun now raw claims hfound => ?_, fun now raw claims hfound => ?_⟩
  · rw [(hparse now raw claims hfound).2.1]
    exact List.mem_singleton_self _
  · obtain ⟨-, -, hsince, hbefore, hnow⟩ := hparse now raw claims hfound
    omega

def duelServer : Server String where
  auth := { AuthServer.plainService with accessTTL := 900000000000 }
  tokens := duelTokens
  sign := fun claims => .ok claims.id
  internalSecret := "0123456789abcdef0123456789abcdef"

/-- Alice and bobby register and join the queue; a third request has a token that nobody signed. -/
def duelRequests : List Action :=
  .request (.register ⟨some ⟨"alice", "long password"⟩, true⟩) ::
    List.replicate 5 (.step 0 { AuthServer.plainAnswers 97 with newID := "id-a" }) ++
  .request (.register ⟨some ⟨"bobby", "long password"⟩, true⟩) ::
    List.replicate 5 (.step 1 { AuthServer.plainAnswers 98 with newID := "id-b" }) ++
  [.request (.guarded .queueJoin "Bearer id-a"), .request (.guarded .queueJoin "bearer id-b"),
    .request (.guarded .queueJoin "Bearer id-c"), .handle 2 Matchmaking.duelDraw [],
    .handle 3 Matchmaking.duelDraw []]

theorem gateway_serves_its_users_duel : ∃ s current,
    Transition.run duelServer.next (newSystem Matchmaking.duelService) duelRequests = some s ∧
    s.queue.entries "id-b" = some current ∧ Joined s "id-b" 0 ∧ Joined s "id-a" 0 ∧
    Ticketed duelServer.sign "id-b" "match-1" "id-a" "ticket-b" := by
  have hentries : (Transition.run duelServer.next (newSystem Matchmaking.duelService) duelRequests).map
      (fun s => s.queue.entries "id-b") =
        some (some ⟨⟨.matched, "match-1", "id-a", "127.0.0.1:4433", "ticket-b", 60000000000⟩, 0⟩) := by
    decide +kernel
  obtain ⟨s, hrun, hentry⟩ := Option.map_eq_some_iff.1 hentries
  have hmeets : Transition.Meets duelServer.next (Unforged duelServer) (newSystem Matchmaking.duelService)
      duelRequests := by
    decide +kernel
  obtain ⟨-, -, hplaces, -⟩ := gateway_serves_its_users duelTokens_validates Matchmaking.duelService_new
    hrun hmeets
  obtain ⟨hjoined, hmatched⟩ := hplaces _ _ hentry
  exact ⟨s, _, hrun, hentry, hjoined, hmatched rfl⟩

end PvpDuel.Gateway
