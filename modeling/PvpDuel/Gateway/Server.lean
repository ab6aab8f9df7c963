import PvpDuel.AuthServer.Access
import PvpDuel.AuthServer.Store
import PvpDuel.Profiles.Counting

/-!
# The gateway

The handlers of package `gateway` over the auth service, the queue and the profiles, all with their
memory stores. A request comes in and goes through its checks; from there a call of the auth service
takes its own steps, and what a handler does to the queue or to the results is one more step. In between
anything else can happen.

The mux, the HTTP headers of a response and the JSON encoding are left out: a request is given by its
route, and a body by what the decoder makes of it.
-/

namespace PvpDuel.Gateway

open AuthServer (AccessClaims AuthError TokenManager Tokens User)
open Matchmaking (Draw Result TicketClaims)
open Profiles (MatchResult Profile Statistics)

/-! ### Requests -/

structure CredentialsRequest where
  login : String
  password : String
deriving DecidableEq, Repr

/-- What the decoder makes of a body: the first value, if it decodes, and whether the body ends there. -/
structure Body (α : Type) where
  value : Option α
  ended : Bool
deriving DecidableEq, Repr

/-- The routes behind `requireAccess`. -/
inductive Route
  | me
  | profile
  | queueJoin
  | queueStatus
  | queueLeave
deriving DecidableEq, Repr

/-- A header that is not there is empty. -/
inductive Request
  | health
  | register (body : Body CredentialsRequest)
  | login (body : Body CredentialsRequest)
  | refresh (body : Body String)
  | logout (body : Body String)
  | matchResult (secret : String) (body : Body MatchResult)
  | guarded (route : Route) (authorization : String)
deriving DecidableEq

/-! ### Responses -/

structure ApiError where
  code : String
  message : String
deriving DecidableEq, Repr

structure UserResponse where
  id : String
  login : String
  createdAt : Nat
deriving DecidableEq, Repr

structure AuthResponse where
  user : UserResponse
  accessToken : String
  refreshToken : String
  tokenType : String
  expiresAt : Nat
deriving DecidableEq, Repr

structure ProfileResponse where
  id : String
  login : String
  createdAt : Nat
  statistics : Statistics
deriving DecidableEq, Repr

structure QueueResponse where
  status : Matchmaking.Status
  matchID : String
  opponentID : String
  serverAddr : String
  matchTicket : String
  ticketExpiresAt : Option Nat
deriving DecidableEq, Repr

inductive Payload
  | empty
  | error (err : ApiError)
  | health (status : String)
  | auth (response : AuthResponse)
  | user (response : UserResponse)
  | profile (response : ProfileResponse)
  | queue (response : QueueResponse)
  | recorded (recorded : Bool)
deriving DecidableEq, Repr

structure Response where
  status : Nat
  payload : Payload
deriving DecidableEq, Repr

def writeError (status : Nat) (code message : String) : Response :=
  ⟨status, .error ⟨code, message⟩⟩

def unauthorized (message : String) : Response := writeError 401 "UNAUTHORIZED" message

def internalError : Response := writeError 500 "INTERNAL_ERROR" "internal server error"

def writeAuthError (err : AuthError) : Response :=
  if err.is .invalidLogin then
    writeError 400 "INVALID_LOGIN" "login must match [a-z0-9_]\x7b3,32\x7d"
  else if err.is .invalidPassword then
    writeError 400 "INVALID_PASSWORD" "password must contain 10-72 UTF-8 bytes"
  else if err.is .userExists then
    writeError 409 "LOGIN_TAKEN" "login is already registered"
  else if err.is .invalidCredentials then
    writeError 401 "INVALID_CREDENTIALS" "invalid login or password"
  else if err.is .refreshTokenInvalid then
    writeError 401 "INVALID_REFRESH_TOKEN" "invalid or expired refresh token"
  else
    internalError

def toUserResponse (user : User) : UserResponse := ⟨user.id, user.login, user.createdAt⟩

def newAuthResponse (user : User) (tokens : Tokens) : AuthResponse where
  user := toUserResponse user
  accessToken := tokens.accessToken
  refreshToken := tokens.refreshToken
  tokenType := "Bearer"
  expiresAt := tokens.accessExpiresAt

def newQueueResponse (result : Result) : QueueResponse where
  status := result.status
  matchID := result.matchID
  opponentID := result.opponentID
  serverAddr := result.serverAddr
  matchTicket := result.matchTicket
  ticketExpiresAt := if result.ticketExpiry = 0 then none else some result.ticketExpiry

def newProfileResponse (profile : Profile) : ProfileResponse :=
  ⟨profile.userID, profile.login, profile.createdAt, profile.statistics⟩

/-! ### Checks -/

def decodeJSON {α : Type} (body : Body α) : Except Response α :=
  match body.value with
  | none => .error (writeError 400 "INVALID_REQUEST" "invalid JSON request")
  | some request =>
      if body.ended then .ok request
      else .error (writeError 400 "INVALID_REQUEST" "request must contain one JSON object")

/-- `strings.Cut` at the first blank. -/
def cut (header : String) : Option (String × String) :=
  match header.toList.dropWhile (· ≠ ' ') with
  | [] => none
  | _ :: rest => some (String.ofList (header.toList.takeWhile (· ≠ ' ')), String.ofList rest)

/-- `strings.EqualFold` with the word `Bearer`, whose letters no other letters fold to than their own
two cases. -/
def equalFoldBearer (scheme : String) : Bool :=
  scheme.toList.map Char.toLower = ['b', 'e', 'a', 'r', 'e', 'r']

/-- The token of an `Authorization` header. -/
def bearer (authorization : String) : Option String :=
  match cut authorization with
  | none => none
  | some (scheme, token) => if equalFoldBearer scheme ∧ token ≠ "" then some token else none

example : bearer "Bearer a.b.c" = some "a.b.c" ∧ bearer "bEARER x y" = some "x y" ∧
    bearer "Bearer" = none ∧ bearer "Bearer " = none ∧ bearer " a.b.c" = none := by
  decide

/-- What `requireAccess` puts into the context of a request, with the token and the time. -/
structure Admission where
  raw : String
  claims : AccessClaims
  time : Nat
deriving DecidableEq, Repr

def playerIDFromContext (admission : Admission) : Option String :=
  if admission.claims.subject = "" then none else some admission.claims.subject

/-! ### The server -/

/-- The services that the server is made from, with what they call of the JWT library. -/
structure Server (η : Type) where
  auth : AuthServer.Service η
  tokens : TokenManager
  sign : TicketClaims → Except String String
  internalSecret : String

/-- Where a request stands: at a call of the auth service, past its checks, or answered. -/
inductive Point
  | calling (call : Nat)
  | handling (route : Route) (admission : Admission)
  | recording (result : MatchResult)
  | answered (admission : Option Admission) (response : Response)
deriving DecidableEq

structure Exchange where
  request : Request
  point : Point
deriving DecidableEq

/-- The services' state, every request so far, and the access tokens that have been signed; no step reads
the last. -/
structure System (η : Type) where
  auth : AuthServer.System η
  queue : Matchmaking.Service
  profiles : Profiles.MemoryStore
  exchanges : List Exchange
  issued : List (AccessClaims × String)

/-- What can happen next: time passes, a request comes in, a call of the auth service takes a step, or a
handler goes on. A draw and the order of a range are for the handlers that need them. -/
inductive Action
  | elapse (duration : Nat)
  | request (request : Request)
  | step (call : Nat) (answers : AuthServer.Answers)
  | handle (exchange : Nat) (draw : Draw) (order : List MatchResult)

namespace Server

variable {η : Type} [DecidableEq η] (server : Server η)

def requireAccess (now : Nat) (authorization : String) : Except Response Admission :=
  match bearer authorization with
  | none => .error (unauthorized "authentication required")
  | some raw =>
      match server.tokens.parseAccess now raw with
      | .error _ => .error (unauthorized "invalid or expired access token")
      | .ok claims => .ok ⟨raw, claims, now⟩

def call (s : System η) (action : AuthServer.Action) : Option (AuthServer.System η × Point) :=
  (server.auth.next s.auth action).map fun auth => (auth, .calling s.auth.threads.length)

/-- A request that fails a check is answered at once. -/
def refuse (s : System η) (response : Response) : Option (AuthServer.System η × Point) :=
  some (s.auth, .answered none response)

/-- A request from its arrival to the first step that it shares with others. -/
def accept (s : System η) : Request → Option (AuthServer.System η × Point)
  | .health => some (s.auth, .answered none ⟨200, .health "ok"⟩)
  | .register body =>
      match decodeJSON body with
      | .error response => refuse s response
      | .ok request => server.call s (.register request.login request.password)
  | .login body =>
      match decodeJSON body with
      | .error response => refuse s response
      | .ok request => server.call s (.login request.login request.password)
  | .refresh body =>
      match decodeJSON body with
      | .error response => refuse s response
      | .ok raw => server.call s (.refresh raw)
  | .logout body =>
      match decodeJSON body with
      | .error response => refuse s response
      | .ok raw => server.call s (.logout raw)
  | .matchResult secret body =>
      if server.internalSecret = "" ∨ secret ≠ server.internalSecret then
        refuse s (unauthorized "internal authentication required")
      else
        match decodeJSON body with
        | .error response => refuse s response
        | .ok result => some (s.auth, .recording result)
  | .guarded route authorization =>
      match server.requireAccess s.auth.memory.clock authorization with
      | .error response => refuse s response
      | .ok admission => some (s.auth, .handling route admission)

/-- What `handleRegister`, `handleLogin`, `handleRefresh` and `handleLogout` write when their call has
returned. -/
def authAnswer (request : Request) : AuthServer.Phase η → Option Response
  | .authenticated user tokens =>
      match request with
      | .register _ => some ⟨201, .auth (newAuthResponse user tokens)⟩
      | _ => some ⟨200, .auth (newAuthResponse user tokens)⟩
  | .refreshed _ user tokens => some ⟨200, .auth (newAuthResponse user tokens)⟩
  | .loggedOut _ => some ⟨204, .empty⟩
  | .failed err =>
      match request with
      | .logout _ => some internalError
      | _ => some (writeAuthError err)
  | _ => none

def handleMe (s : System η) (admission : Admission) : Response :=
  match s.auth.memory.store.userByID admission.claims.subject with
  | .error _ => unauthorized "authentication required"
  | .ok user => ⟨200, .user (toUserResponse user)⟩

/-- `Get` wraps what the store returns. -/
def handleProfile (s : System η) (order : List MatchResult) (admission : Admission) : Response :=
  match playerIDFromContext admission with
  | none => unauthorized "authentication required"
  | some playerID =>
      match Profiles.profileByUserID s.auth.memory.store order playerID with
      | .error err =>
          if (AuthError.wrapped "get profile" err).is .userNotFound then
            unauthorized "authentication required"
          else
            internalError
      | .ok profile => ⟨200, .profile (newProfileResponse profile)⟩

def withQueue (s : System η) (queue : Matchmaking.Service) : System η :=
  { s with queue, auth.memory.clock := queue.clock }

def handleQueueJoin (s : System η) (draw : Draw) (admission : Admission) : System η × Response :=
  match playerIDFromContext admission with
  | none => (s, unauthorized "authentication required")
  | some playerID =>
      match s.queue.join server.sign playerID draw with
      | (queue, .error _) => (withQueue s queue, internalError)
      | (queue, .ok result) => (withQueue s queue, ⟨200, .queue (newQueueResponse result)⟩)

def handleQueueStatus (s : System η) (admission : Admission) : System η × Response :=
  match playerIDFromContext admission with
  | none => (s, unauthorized "authentication required")
  | some playerID =>
      let (queue, result) := s.queue.playerStatus playerID
      (withQueue s queue, ⟨200, .queue (newQueueResponse result)⟩)

/-- `Leave` of the service returns no error. -/
def handleQueueLeave (s : System η) (admission : Admission) : System η × Response :=
  match playerIDFromContext admission with
  | none => (s, unauthorized "authentication required")
  | some playerID => (withQueue s (s.queue.leave playerID), ⟨204, .empty⟩)

/-- The handler of a route behind `requireAccess`; the order is one in which a range may take the
results. -/
def serve (s : System η) (draw : Draw) (order : List MatchResult) (admission : Admission) :
    Route → Option (System η × Response)
  | .me => some (s, handleMe s admission)
  | .profile =>
      if order.Perm s.profiles.values then some (s, handleProfile s order admission) else none
  | .queueJoin => some (server.handleQueueJoin s draw admission)
  | .queueStatus => some (handleQueueStatus s admission)
  | .queueLeave => some (handleQueueLeave s admission)

/-- `handleInternalMatchResult` past its checks. -/
def record (s : System η) (result : MatchResult) : System η × Response :=
  match Profiles.recordMatchResult (@Profiles.MemoryStore.recordMatchResult Empty) s.profiles
      s.auth.memory.clock result with
  | (profiles, .error .invalidResult) =>
      ({ s with profiles }, writeError 400 "INVALID_RESULT" "invalid match result")
  | (profiles, .error (.store _)) => ({ s with profiles }, internalError)
  | (profiles, .ok recorded) => ({ s with profiles }, ⟨200, .recorded recorded⟩)

def handle (s : System η) (draw : Draw) (order : List MatchResult) (exchange : Exchange) :
    Option (System η × Point) :=
  match exchange.point with
  | .calling call =>
      (s.auth.threads[call]?.bind (authAnswer exchange.request)).map fun response =>
        (s, .answered none response)
  | .handling route admission =>
      (server.serve s draw order admission route).map fun served =>
        (served.1, .answered (some admission) served.2)
  | .recording result =>
      let recorded := record s result
      some (recorded.1, .answered none recorded.2)
  | .answered .. => none

/-- The claims that a call of the auth service signs at its next step. -/
def signedClaims (s : System η) (user : User) (answers : AuthServer.Answers) : AccessClaims :=
  server.tokens.claims server.auth.accessTTL s.auth.memory.clock user answers.newID

/-- What `SignedString` answers is what it returns for those claims. -/
def signing (s : System η) (point : AuthServer.Phase η) (answers : AuthServer.Answers) :
    AuthServer.Answers :=
  match point.signs with
  | none => answers
  | some user => { answers with signed := server.tokens.signedString (server.signedClaims s user answers) }

def newlyIssued (s : System η) (point : AuthServer.Phase η) (answers : AuthServer.Answers) :
    List (AccessClaims × String) :=
  match point.signs with
  | none => []
  | some user =>
      match server.tokens.signedString (server.signedClaims s user answers) with
      | .error _ => []
      | .ok raw => [(server.signedClaims s user answers, raw)]

/-- The transitions of the gateway. -/
def next (s : System η) : Action → Option (System η)
  | .elapse duration => some { s with
      auth.memory.clock := s.auth.memory.clock + duration
      queue.clock := s.queue.clock + duration }
  | .request request =>
      (server.accept s request).map fun accepted =>
        { s with auth := accepted.1, exchanges := s.exchanges ++ [⟨request, accepted.2⟩] }
  | .step call answers =>
      s.auth.threads[call]?.bind fun point =>
        (server.auth.next s.auth (.step call (server.signing s point answers))).map fun auth =>
          { s with auth, issued := s.issued ++ server.newlyIssued s point answers }
  | .handle i draw order =>
      s.exchanges[i]?.bind fun exchange =>
        (server.handle s draw order exchange).map fun handled =>
          { handled.1 with exchanges := handled.1.exchanges.set i { exchange with point := handled.2 } }

end Server

/-- A server that starts at this time, over a queue that was made then. -/
def newSystem {η : Type} (queue : Matchmaking.Service) : System η where
  auth := AuthServer.newSystem queue.clock
  queue := queue
  profiles := Profiles.newMemoryStore
  exchanges := []
  issued := []

end PvpDuel.Gateway
