import PvpDuel.Gateway.Server

/-!
# Who is let in

What the gateway knows of its requests, its queue and its results: whose access token a request came
with, and what follows from it. Requests that come in and steps of the auth service keep this, as long as
nobody else can sign access tokens.
-/

namespace PvpDuel.Gateway

open AuthServer (AccessClaims User)
open Matchmaking (Draw Entry Result TicketClaims)
open Profiles (MatchResult)

/-! ### The queue and the results -/

/-- The result comes with a signed ticket for the player against that opponent. -/
def Ticketed (sign : TicketClaims → Except String String) (playerID matchID opponentID matchTicket : String) :
    Prop :=
  ∃ claims, sign claims = .ok matchTicket ∧ claims.subject = playerID ∧ claims.matchID = matchID ∧
    claims.opponentID = opponentID

section Queue

open Matchmaking.Service (join_cases pair_cases nextWaiting_found entry_of_update purgeExpired_entry)

variable {sign : TicketClaims → Except String String} {queue : Matchmaking.Service} {playerID p : String}
  {draw : Draw} {current : Entry}

/-- What a call of `Join` adds to the queue. -/
structure Adds (sign : TicketClaims → Except String String) (queue : Matchmaking.Service)
    (playerID p : String) (current : Entry) : Prop where
  joinedAt : current.joinedAt = queue.clock
  mine : p = playerID ∨ (queue.entries p).isSome
  matched : current.result.status = .matched →
    (current.result.opponentID = playerID ∨ (queue.entries current.result.opponentID).isSome) ∧
      Ticketed sign p current.result.matchID current.result.opponentID current.result.matchTicket

theorem adds_of_join (h : (queue.join sign playerID draw).1.entries p = some current) :
    queue.entries p = some current ∨ Adds sign queue playerID p current := by
  obtain ⟨-, heq⟩ | ⟨existing, -, heq⟩ | ⟨hplayer, -, ⟨rest, -, heq⟩ | ⟨q, rest, hq, hfound, heq⟩⟩ :=
    join_cases sign queue playerID draw
  · rw [heq] at h
    exact .inl h
  · rw [heq] at h
    exact .inl (purgeExpired_entry.1 h).1
  · rw [heq] at h
    change Function.update (queue.purgeExpired queue.clock).entries playerID _ p = some current at h
    by_cases hp : p = playerID
    · rw [hp, Function.update_self] at h
      obtain rfl := Option.some.inj h
      exact .inr ⟨rfl, .inl hp, fun hstatus => nomatch hstatus⟩
    · rw [Function.update_of_ne hp] at h
      exact .inl (purgeExpired_entry.1 h).1
  · obtain ⟨hne, ⟨waiting, hwaiting, -⟩, -⟩ := nextWaiting_found hq hfound
    have hlive : (queue.entries q).isSome := by
      rw [(purgeExpired_entry.1 hwaiting).1]
      rfl
    rw [heq] at h
    obtain ⟨_, _, -, -, hpair⟩ | ⟨playerTicket, opponentTicket, hfirst, hsecond, hpair⟩ :=
      pair_cases sign { queue.purgeExpired queue.clock with waiting := rest } queue.clock draw hplayer hq hne
    · rw [hpair] at h
      exact .inl (purgeExpired_entry.1 h).1
    · rw [hpair] at h
      obtain ⟨rfl, rfl⟩ | ⟨rfl, rfl⟩ | ⟨-, -, hold⟩ := entry_of_update h
      · exact .inr ⟨rfl, .inr hlive, fun _ => ⟨.inl rfl, _, hsecond, rfl, rfl, rfl⟩⟩
      · exact .inr ⟨rfl, .inl rfl, fun _ => ⟨.inr hlive, _, hfirst, rfl, rfl, rfl⟩⟩
      · exact .inl (purgeExpired_entry.1 hold).1

theorem clock_le_join : queue.clock ≤ (queue.join sign playerID draw).1.clock := by
  obtain ⟨-, heq⟩ | ⟨existing, -, heq⟩ | ⟨hplayer, -, ⟨rest, -, heq⟩ | ⟨q, rest, hq, hfound, heq⟩⟩ :=
    join_cases sign queue playerID draw
  · rw [heq]
  · rw [heq]
    exact Nat.le_refl _
  · rw [heq]
    exact Nat.le_refl _
  · obtain ⟨hne, -, -⟩ := nextWaiting_found hq hfound
    rw [heq]
    obtain ⟨clock, _, hle, -, hpair⟩ | ⟨_, _, -, -, hpair⟩ :=
      pair_cases sign { queue.purgeExpired queue.clock with waiting := rest } queue.clock draw hplayer hq hne
    · rw [hpair]
      exact hle
    · rw [hpair]
      show queue.clock ≤ queue.clock + draw.playerDelay + draw.opponentDelay
      omega

theorem playerStatus_fst : (queue.playerStatus playerID).1 = queue.purgeExpired queue.clock := by
  unfold Matchmaking.Service.playerStatus
  dsimp only
  split <;> rfl

theorem entry_of_playerStatus (h : (queue.playerStatus playerID).2.status = .matched) :
    ∃ current, queue.entries playerID = some current ∧ current.result = (queue.playerStatus playerID).2 := by
  unfold Matchmaking.Service.playerStatus at h ⊢
  dsimp only at h ⊢
  cases hentry : (queue.purgeExpired queue.clock).entries playerID with
  | none =>
      rw [hentry] at h
      cases h
  | some existing => exact ⟨existing, (purgeExpired_entry.1 hentry).1, rfl⟩

end Queue

theorem mem_values_of_insert {ε : Type} {store : Profiles.MemoryStore} {result r : MatchResult}
    (h : r ∈ (store.recordMatchResult result : _ × Except ε Bool).1.values) : r ∈ store.values ∨ r = result := by
  unfold Profiles.MemoryStore.recordMatchResult at h
  cases hlookup : store.results.lookup result.matchID with
  | some old =>
      rw [hlookup] at h
      exact .inl h
  | none =>
      rw [hlookup] at h
      unfold Profiles.MemoryStore.values at h ⊢
      rw [AList.entries_insert_of_notMem (AList.lookup_eq_none.1 hlookup), List.map_cons] at h
      obtain h | h := List.mem_cons.1 h
      · exact .inr h
      · exact .inl h

theorem mem_values_of_record {ε : Type} {store : Profiles.MemoryStore} {now : Nat} {result r : MatchResult}
    (h : r ∈ (Profiles.recordMatchResult (@Profiles.MemoryStore.recordMatchResult ε) store now result).1.values) :
    r ∈ store.values ∨ r = result.trimmed.stamped now := by
  unfold Profiles.recordMatchResult at h
  dsimp only at h
  split at h
  · exact .inl h
  · have hcases : r ∈ (Profiles.MemoryStore.recordMatchResult store (result.trimmed.stamped now) :
        _ × Except ε Bool).1.values → _ := mem_values_of_insert
    split at h
    · rename_i heq
      rw [heq] at hcases
      exact hcases h
    · rename_i heq
      rw [heq] at hcases
      exact hcases h

/-! ### What the system knows -/

def Point.admission : Point → Option Admission
  | .handling _ admission => some admission
  | .answered admission _ => admission
  | _ => none

/-- The request was let in to the route. -/
def Exchange.Admits (exchange : Exchange) (route : Route) (admission : Admission) : Prop :=
  (∃ authorization, exchange.request = .guarded route authorization ∧
    bearer authorization = some admission.raw) ∧ exchange.point.admission = some admission

variable {η : Type} {server : Server η} {s t : System η} {request : Request} {admission : Admission}

/-- The player has asked to join the queue by then. -/
def Joined (s : System η) (playerID : String) (time : Nat) : Prop :=
  ∃ exchange ∈ s.exchanges, ∃ admission, exchange.Admits .queueJoin admission ∧
    admission.claims.subject = playerID ∧ admission.time ≤ time

/-- The user has been created, and the token was signed for it. -/
def Signed (s : System η) (user : User) (raw : String) : Prop :=
  .created user ∈ s.auth.memory.history ∧ ∃ claims, (claims, raw) ∈ s.issued ∧ claims.subject = user.id ∧
    claims.login = user.login

/-- The token was one of those signed, and it was valid. -/
structure Genuine (s : System η) (admission : Admission) : Prop where
  issued : (admission.claims, admission.raw) ∈ s.issued
  subject : admission.claims.subject ≠ ""
  since : admission.claims.notBefore ≤ admission.time
  before : admission.time < admission.claims.expiresAt
  past : admission.time ≤ s.auth.memory.clock

/-- What a response tells the bearer of a token is about its subject. -/
def Reveals (server : Server η) (s : System η) (playerID : String) : Payload → Prop
  | .empty => True
  | .error _ => True
  | .user user => user.id = playerID
  | .profile profile => profile.id = playerID
  | .queue place => place.status = .matched →
      Joined s place.opponentID s.auth.memory.clock ∧
        Ticketed server.sign playerID place.matchID place.opponentID place.matchTicket
  | _ => False

def Grants (s : System η) : Payload → Prop
  | .auth response => ∃ user, response.user = toUserResponse user ∧ Signed s user response.accessToken
  | .user _ => False
  | .profile _ => False
  | .queue _ => False
  | _ => True

def Delivers (server : Server η) (request : Request) (result : MatchResult) : Prop :=
  ∃ body, request = .matchResult server.internalSecret body ∧ server.internalSecret ≠ "" ∧
    body.value = some result

def Holds (server : Server η) (s : System η) (request : Request) : Point → Prop
  | .calling _ => ∀ route authorization, request ≠ .guarded route authorization
  | .handling route admission => (∃ authorization, request = .guarded route authorization ∧
      bearer authorization = some admission.raw) ∧ Genuine s admission
  | .recording result => Delivers server request result
  | .answered (some admission) response => (∃ route authorization,
      request = .guarded route authorization ∧ bearer authorization = some admission.raw) ∧
      Genuine s admission ∧ Reveals server s admission.claims.subject response.payload
  | .answered none response => Grants s response.payload ∧
      ∀ route authorization, request = .guarded route authorization → response.status = 401

structure Placed (server : Server η) (s : System η) (playerID : String) (current : Entry) : Prop where
  joined : Joined s playerID current.joinedAt
  past : current.joinedAt ≤ s.auth.memory.clock
  matched : current.result.status = .matched → Joined s current.result.opponentID current.joinedAt ∧
    Ticketed server.sign playerID current.result.matchID current.result.opponentID
      current.result.matchTicket

/-! ### What later states keep -/

structure Extends (s t : System η) : Prop where
  clock : s.auth.memory.clock ≤ t.auth.memory.clock
  history : ∀ event ∈ s.auth.memory.history, event ∈ t.auth.memory.history
  issued : ∀ token ∈ s.issued, token ∈ t.issued
  exchanges : ∀ exchange ∈ s.exchanges, ∃ later ∈ t.exchanges, later.request = exchange.request ∧
    ∀ admission, exchange.point.admission = some admission → later.point.admission = some admission

section Extends

variable (h : Extends s t)

include h

theorem Joined.mono {playerID : String} {time : Nat} (hjoined : Joined s playerID time) :
    Joined t playerID time := by
  obtain ⟨exchange, hin, admission, ⟨⟨authorization, hrequest, hbearer⟩, hpoint⟩, hrest⟩ := hjoined
  obtain ⟨later, hlater, hsame, hkept⟩ := h.exchanges exchange hin
  exact ⟨later, hlater, admission, ⟨⟨authorization, hsame.trans hrequest, hbearer⟩, hkept _ hpoint⟩, hrest⟩

theorem Signed.mono {user : User} {raw : String} (hsigned : Signed s user raw) : Signed t user raw := by
  obtain ⟨hcreated, claims, hin, hclaims⟩ := hsigned
  exact ⟨h.history _ hcreated, claims, h.issued _ hin, hclaims⟩

theorem Genuine.mono (hgenuine : Genuine s admission) : Genuine t admission :=
  ⟨h.issued _ hgenuine.issued, hgenuine.subject, hgenuine.since, hgenuine.before,
    hgenuine.past.trans h.clock⟩

theorem Reveals.mono {playerID : String} {payload : Payload} (hreveals : Reveals server s playerID payload) :
    Reveals server t playerID payload := by
  cases payload with
  | queue place =>
      intro hstatus
      obtain ⟨⟨exchange, hin, admission, hadmits, hsubject, htime⟩, hticketed⟩ := hreveals hstatus
      exact ⟨Joined.mono h ⟨exchange, hin, admission, hadmits, hsubject, htime.trans h.clock⟩, hticketed⟩
  | _ => exact hreveals

theorem Grants.mono {payload : Payload} (hgrants : Grants s payload) : Grants t payload := by
  cases payload with
  | auth response =>
      obtain ⟨user, huser, hsigned⟩ := hgrants
      exact ⟨user, huser, hsigned.mono h⟩
  | _ => exact hgrants

theorem Holds.mono {point : Point} (hholds : Holds server s request point) :
    Holds server t request point := by
  cases point with
  | calling call => exact hholds
  | handling route admission => exact hholds.imp_right (Genuine.mono h)
  | recording result => exact hholds
  | answered admitted response =>
      cases admitted with
      | none => exact hholds.imp_left (Grants.mono h)
      | some admission => exact ⟨hholds.1, hholds.2.1.mono h, hholds.2.2.mono h⟩

theorem Placed.mono {playerID : String} {current : Entry} (hplaced : Placed server s playerID current) :
    Placed server t playerID current :=
  ⟨hplaced.joined.mono h, hplaced.past.trans h.clock, fun hstatus =>
    (hplaced.matched hstatus).imp_left (Joined.mono h)⟩

end Extends

/-! ### What every step keeps -/

/-- The result came with the secret, and it was stored as the profile service stores it. -/
def Stored (server : Server η) (s : System η) (r : MatchResult) : Prop :=
  ∃ exchange ∈ s.exchanges, ∃ result now, Delivers server exchange.request result ∧
    r = result.trimmed.stamped now

structure Sound (server : Server η) (s : System η) : Prop where
  clock : s.queue.clock = s.auth.memory.clock
  registered : s.auth.memory.Registered
  served : ∀ (call : Nat) point, s.auth.threads[call]? = some point →
    ∀ user, point.served = some user → .created user ∈ s.auth.memory.history
  access : ∀ (call : Nat) point, s.auth.threads[call]? = some point →
    ∀ raw, point.access = some raw → ∃ user, point.served = some user ∧ Signed s user raw
  issued : ∀ token ∈ s.issued, ∃ user time id, .created user ∈ s.auth.memory.history ∧
    time ≤ s.auth.memory.clock ∧
    token.1 = server.tokens.claims server.auth.accessTTL time user id
  exchanges : ∀ exchange ∈ s.exchanges, Holds server s exchange.request exchange.point
  queue : ∀ p current, s.queue.entries p = some current → Placed server s p current
  results : ∀ r ∈ s.profiles.values, Stored server s r

/-- A token that the library accepts is one of those signed. -/
def Unforged (server : Server η) (s : System η) : Action → Prop
  | .request (.guarded _ authorization) => ∀ raw ∈ bearer authorization,
      ∀ claims ∈ server.tokens.parseWithClaims s.auth.memory.clock raw, (claims, raw) ∈ s.issued
  | _ => True

instance (server : Server η) (s : System η) (action : Action) : Decidable (Unforged server s action) := by
  unfold Unforged
  split <;> infer_instance

theorem Stored.mono (h : Extends s t) {r : MatchResult} (hstored : Stored server s r) :
    Stored server t r := by
  obtain ⟨exchange, hin, result, now, ⟨body, hrequest, hrest⟩, hr⟩ := hstored
  obtain ⟨later, hlater, hsame, -⟩ := h.exchanges exchange hin
  exact ⟨later, hlater, result, now, ⟨body, hsame.trans hrequest, hrest⟩, hr⟩

theorem newSystem_sound {queue : Matchmaking.Service} (hempty : ∀ p, queue.entries p = none) :
    Sound server (newSystem queue) where
  clock := rfl
  registered := ⟨fun _ _ hfound => (nomatch hfound), fun _ _ hfound => nomatch hfound⟩
  served := fun _ _ hpoint => nomatch hpoint
  access := fun _ _ hpoint => nomatch hpoint
  issued := fun _ hin => nomatch hin
  exchanges := fun _ hin => nomatch hin
  queue := fun p _ hcurrent => by
    rw [newSystem, hempty p] at hcurrent
    cases hcurrent
  results := fun _ hin => nomatch hin

section Requests

theorem requireAccess_cases (server : Server η) (now : Nat) (authorization : String) :
    (∃ message, server.requireAccess now authorization = .error (unauthorized message)) ∨
      ∃ raw claims, bearer authorization = some raw ∧
        server.tokens.parseWithClaims now raw = some claims ∧ claims.subject ≠ "" ∧
        server.requireAccess now authorization = .ok ⟨raw, claims, now⟩ := by
  unfold Server.requireAccess
  cases hbearer : bearer authorization with
  | none => exact .inl ⟨_, rfl⟩
  | some raw =>
      dsimp only
      cases hparse : server.tokens.parseAccess now raw with
      | error err => exact .inl ⟨_, rfl⟩
      | ok claims =>
          obtain ⟨hlibrary, hsubject, -⟩ := AuthServer.TokenManager.parseAccess_eq_ok.1 hparse
          exact .inr ⟨raw, claims, rfl, hlibrary, hsubject, rfl⟩

theorem grants_decodeJSON {α : Type} {body : Body α} {response : Response}
    (h : decodeJSON body = .error response) : Grants s response.payload := by
  unfold decodeJSON at h
  split at h
  · cases h
    trivial
  · split at h
    · cases h
    · cases h
      trivial

theorem begins_refuse {response : Response} {accepted : AuthServer.System η × Point}
    (hgrants : Grants s response.payload)
    (hstatus : ∀ route authorization, request = .guarded route authorization → response.status = 401)
    (hrefuse : Server.refuse s response = some accepted) :
    AuthServer.Begins s.auth accepted.1 ∧ Holds server s request accepted.2 := by
  cases hrefuse
  exact ⟨⟨rfl, rfl, fun _ hin => hin, fun _ _ hpoint => .inl hpoint⟩, hgrants, hstatus⟩

variable [DecidableEq η]

theorem begins_call {action : AuthServer.Action} {accepted : AuthServer.System η × Point}
    (hbegins : ∀ auth, server.auth.next s.auth action = some auth → AuthServer.Begins s.auth auth)
    (hother : ∀ route authorization, request ≠ .guarded route authorization)
    (hcall : server.call s action = some accepted) :
    AuthServer.Begins s.auth accepted.1 ∧ Holds server s request accepted.2 := by
  obtain ⟨auth, hnext, rfl⟩ := Option.map_eq_some_iff.1 hcall
  exact ⟨hbegins auth hnext, hother⟩

/-- A request that comes in is refused, or let in with a valid token, or it begins a call. -/
theorem accept_holds (hvalid : server.tokens.Validates)
    (hunforged : Unforged server s (.request request)) {accepted : AuthServer.System η × Point}
    (haccept : server.accept s request = some accepted) :
    AuthServer.Begins s.auth accepted.1 ∧ Holds server s request accepted.2 := by
  cases request with
  | health =>
      cases haccept
      exact ⟨⟨rfl, rfl, fun _ hin => hin, fun _ _ hpoint => .inl hpoint⟩, trivial, nofun⟩
  | register body =>
      dsimp only [Server.accept] at haccept
      split at haccept
      · exact begins_refuse (grants_decodeJSON ‹_›) nofun haccept
      · exact begins_call (fun _ => AuthServer.begins_register) nofun haccept
  | login body =>
      dsimp only [Server.accept] at haccept
      split at haccept
      · exact begins_refuse (grants_decodeJSON ‹_›) nofun haccept
      · exact begins_call (fun _ => AuthServer.begins_login) nofun haccept
  | refresh body =>
      dsimp only [Server.accept] at haccept
      split at haccept
      · exact begins_refuse (grants_decodeJSON ‹_›) nofun haccept
      · exact begins_call (fun _ => AuthServer.begins_refresh) nofun haccept
  | logout body =>
      dsimp only [Server.accept] at haccept
      split at haccept
      · exact begins_refuse (grants_decodeJSON ‹_›) nofun haccept
      · exact begins_call (fun _ => AuthServer.begins_logout) nofun haccept
  | matchResult secret body =>
      dsimp only [Server.accept] at haccept
      split at haccept
      · exact begins_refuse (show Grants s (unauthorized _).payload from trivial) nofun haccept
      · rename_i hsecret
        split at haccept
        · exact begins_refuse (grants_decodeJSON ‹_›) nofun haccept
        · rename_i result hdecode
          cases haccept
          obtain ⟨hnonempty, hsame⟩ := not_or.1 hsecret
          refine ⟨⟨rfl, rfl, fun _ hin => hin, fun _ _ hpoint => .inl hpoint⟩, body, ?_, hnonempty, ?_⟩
          · rw [not_not.1 hsame]
          · unfold decodeJSON at hdecode
            split at hdecode
            · cases hdecode
            · rename_i value hvalue
              split at hdecode
              · cases hdecode
                exact hvalue
              · cases hdecode
  | guarded route authorization =>
      dsimp only [Server.accept] at haccept
      obtain ⟨message, hcheck⟩ | ⟨raw, claims, hbearer, hparse, hsubject, hcheck⟩ :=
        requireAccess_cases server s.auth.memory.clock authorization
      · rw [hcheck] at haccept
        exact begins_refuse (show Grants s (unauthorized message).payload from trivial)
          (fun _ _ _ => rfl) haccept
      · rw [hcheck] at haccept
        cases haccept
        obtain ⟨hsince, hbefore⟩ := hvalid.time _ raw claims hparse
        exact ⟨⟨rfl, rfl, fun _ hin => hin, fun _ _ hpoint => .inl hpoint⟩,
          ⟨authorization, rfl, hbearer⟩, hunforged raw hbearer claims hparse, hsubject, hsince, hbefore,
          Nat.le_refl _⟩

theorem Sound.next_request (h : Sound server s) (hvalid : server.tokens.Validates)
    (hunforged : Unforged server s (.request request))
    (hnext : server.next s (.request request) = some t) : Sound server t := by
  obtain ⟨⟨auth, point⟩, haccept, rfl⟩ := Option.map_eq_some_iff.1 hnext
  obtain ⟨hbegins, hholds⟩ := accept_holds hvalid hunforged haccept
  have hextends : Extends s { s with auth, exchanges := s.exchanges ++ [⟨request, point⟩] } :=
    ⟨Nat.le_of_eq hbegins.clock.symm, hbegins.history, fun _ hin => hin,
      fun exchange hin => ⟨exchange, List.mem_append_left _ hin, rfl, fun _ hkept => hkept⟩⟩
  refine
    { clock := h.clock.trans hbegins.clock.symm
      registered := ⟨fun id user hfound => ?_, fun login id hfound => ?_⟩
      served := fun call found hfound user hserved => ?_
      access := fun call found hfound raw haccess => ?_
      issued := fun token hin => ?_
      exchanges := fun exchange hin => ?_
      queue := fun p current hcurrent => (h.queue p current hcurrent).mono hextends
      results := fun r hin => (h.results r hin).mono hextends }
  · change auth.memory.store.usersByID id = some user at hfound
    rw [hbegins.store] at hfound
    exact (h.registered.users id user hfound).imp_right (hbegins.history _)
  · change auth.memory.store.userIDByLogin login = some id at hfound
    show (auth.memory.store.usersByID id).isSome
    rw [hbegins.store] at hfound ⊢
    exact h.registered.logins login id hfound
  · obtain hold | ⟨hnone, -⟩ := hbegins.threads call found hfound
    · exact hbegins.history _ (h.served call found hold user hserved)
    · rw [hnone] at hserved
      cases hserved
  · obtain hold | ⟨-, hnone⟩ := hbegins.threads call found hfound
    · obtain ⟨user, hserved, hsigned⟩ := h.access call found hold raw haccess
      exact ⟨user, hserved, hsigned.mono hextends⟩
    · rw [hnone] at haccess
      cases haccess
  · obtain ⟨user, time, id, hcreated, hle, hclaims⟩ := h.issued token hin
    exact ⟨user, time, id, hextends.history _ hcreated, hle.trans hextends.clock, hclaims⟩
  · obtain hold | hnew := List.mem_append.1 hin
    · exact (h.exchanges exchange hold).mono hextends
    · obtain rfl := List.mem_singleton.1 hnew
      exact hholds.mono hextends

end Requests

section Steps

variable {answers : AuthServer.Answers}

theorem newlyIssued_of_signs {point : AuthServer.Phase η} {user : User} {raw : String}
    (hsigns : point.signs = some user) (hsigned : (server.signing s point answers).signed = .ok raw) :
    (server.signedClaims s user answers, raw) ∈ server.newlyIssued s point answers := by
  unfold Server.signing at hsigned
  rw [hsigns] at hsigned
  change server.tokens.signedString (server.signedClaims s user answers) = .ok raw at hsigned
  unfold Server.newlyIssued
  simp only [hsigns, hsigned]
  exact List.mem_singleton_self _

theorem signs_of_newlyIssued {point : AuthServer.Phase η} {token : AccessClaims × String}
    (hin : token ∈ server.newlyIssued s point answers) :
    ∃ user, point.signs = some user ∧ token.1 = server.signedClaims s user answers := by
  unfold Server.newlyIssued at hin
  split at hin
  · cases hin
  · rename_i user hsigns
    split at hin
    · cases hin
    · obtain rfl := List.mem_singleton.1 hin
      exact ⟨user, hsigns, rfl⟩

variable [DecidableEq η]

theorem Sound.next_step (h : Sound server s) {call : Nat}
    (hnext : server.next s (.step call answers) = some t) : Sound server t := by
  obtain ⟨point, hpoint, hmapped⟩ := Option.bind_eq_some_iff.1 hnext
  obtain ⟨auth, hauth, rfl⟩ := Option.map_eq_some_iff.1 hmapped
  obtain ⟨found, memory, new, hfound, hadvance, rfl⟩ := Threads.State.step_eq_some.1 hauth
  obtain rfl := Option.some.inj (hpoint.symm.trans hfound)
  have hserves := h.registered.advance (h.served call point hpoint) hadvance
  have hextends : Extends s { s with
      auth := s.auth.move call memory new
      issued := s.issued ++ server.newlyIssued s point answers } :=
    ⟨Nat.le_of_eq hserves.clock.symm, hserves.history, fun _ => List.mem_append_left _,
      fun exchange hin => ⟨exchange, hin, rfl, fun _ hkept => hkept⟩⟩
  refine
    { clock := h.clock.trans hserves.clock.symm
      registered := hserves.registered
      served := fun i other hother user hserved => ?_
      access := fun i other hother raw haccess => ?_
      issued := fun token hin => ?_
      exchanges := fun exchange hin => (h.exchanges exchange hin).mono hextends
      queue := fun p current hcurrent => (h.queue p current hcurrent).mono hextends
      results := fun r hin => (h.results r hin).mono hextends }
  · obtain ⟨rfl, rfl⟩ | ⟨-, hold⟩ := (Threads.State.getElem?_move hpoint).1 hother
    · exact hserves.served user hserved
    · exact hextends.history _ (h.served i other hold user hserved)
  · obtain ⟨rfl, rfl⟩ | ⟨-, hold⟩ := (Threads.State.getElem?_move hpoint).1 hother
    · obtain ⟨hold, hsame⟩ | ⟨hsame, hsome, hsigned⟩ := AuthServer.access_of_advance hadvance haccess
      · obtain ⟨user, hserved, huser⟩ := h.access i point hpoint raw hold
        exact ⟨user, hsame.trans hserved, huser.mono hextends⟩
      · obtain ⟨user, hsigns⟩ := Option.isSome_iff_exists.1 hsome
        refine ⟨user, hsame.trans hsigns, hserves.served user (hsame.trans hsigns),
          server.signedClaims s user answers, ?_, rfl, rfl⟩
        exact List.mem_append_right _ (newlyIssued_of_signs hsigns hsigned)
    · obtain ⟨user, hserved, huser⟩ := h.access i other hold raw haccess
      exact ⟨user, hserved, huser.mono hextends⟩
  · obtain hold | hnew := List.mem_append.1 hin
    · obtain ⟨user, time, id, hcreated, hle, hclaims⟩ := h.issued token hold
      exact ⟨user, time, id, hextends.history _ hcreated, hle.trans hextends.clock, hclaims⟩
    · obtain ⟨user, hsigns, hclaims⟩ := signs_of_newlyIssued hnew
      exact ⟨user, s.auth.memory.clock, answers.newID,
        hextends.history _ (h.served call point hpoint user (AuthServer.Phase.served_of_signs hsigns)),
        hextends.clock, hclaims⟩

end Steps

end PvpDuel.Gateway
