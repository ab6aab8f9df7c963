import Mathlib.Logic.Function.Basic
import PvpDuel.Lib.Threads
import PvpDuel.Lib.Transition
import PvpDuel.MatchServer.Authenticate

/-!
# The auth service over its memory store

`auth.Service` and `auth.MemoryStore`. A call is a thread: every store call, and every reading of the
clock, is one of its steps. What bcrypt, the UUID and JWT libraries and the random source answer is
an input of the step that asks them.

Beside the store stands a history of the users created, the refresh tokens issued and exchanged, and
the logouts. No step reads it.
-/

namespace PvpDuel.AuthServer

open Threads

variable {η : Type} [DecidableEq η]

/-! ### The store -/

/-- The errors of the package, those of the libraries it calls, and what `fmt.Errorf` wraps. -/
inductive AuthError
  | invalidCredentials
  | invalidLogin
  | invalidPassword
  | userExists
  | userNotFound
  | refreshTokenInvalid
  | library (text : String)
  | wrapped (context : String) (err : AuthError)
deriving DecidableEq, Repr

def AuthError.text : AuthError → String
  | .invalidCredentials => "auth: invalid credentials"
  | .invalidLogin => "auth: invalid login"
  | .invalidPassword => "auth: invalid password"
  | .userExists => "auth: user already exists"
  | .userNotFound => "auth: user not found"
  | .refreshTokenInvalid => "auth: refresh token invalid"
  | .library text => text
  | .wrapped context err => context ++ ": " ++ err.text

structure User where
  id : String
  login : String
  passwordHash : List UInt8
  createdAt : Nat
deriving DecidableEq, Repr

structure RefreshToken (η : Type) where
  hash : η
  userID : String
  expiresAt : Nat
  createdAt : Nat
deriving DecidableEq, Repr

structure MemoryStore (η : Type) where
  usersByID : String → Option User
  userIDByLogin : String → Option String
  refreshTokens : η → Option (RefreshToken η)

def newMemoryStore : MemoryStore η where
  usersByID := fun _ => none
  userIDByLogin := fun _ => none
  refreshTokens := fun _ => none

namespace MemoryStore

def createUser (s : MemoryStore η) (user : User) : Except AuthError (MemoryStore η) :=
  match s.userIDByLogin user.login with
  | some _ => .error .userExists
  | none => .ok { s with
      usersByID := Function.update s.usersByID user.id (some user)
      userIDByLogin := Function.update s.userIDByLogin user.login (some user.id) }

def userByID (s : MemoryStore η) (id : String) : Except AuthError User :=
  match s.usersByID id with
  | none => .error .userNotFound
  | some user => .ok user

/-- The second lookup is an index expression: it yields the zero value when there is no such key. -/
def userByLogin (s : MemoryStore η) (login : String) : Except AuthError User :=
  match s.userIDByLogin login with
  | none => .error .userNotFound
  | some id => .ok ((s.usersByID id).getD ⟨"", "", [], 0⟩)

def saveRefreshToken (s : MemoryStore η) (token : RefreshToken η) : MemoryStore η :=
  { s with refreshTokens := Function.update s.refreshTokens token.hash (some token) }

def revokeRefreshToken (s : MemoryStore η) (hash : η) : MemoryStore η :=
  { s with refreshTokens := Function.update s.refreshTokens hash none }

def rotateRefreshToken (s : MemoryStore η) (now : Nat) (oldHash : η) (replacement : RefreshToken η) :
    MemoryStore η × Except AuthError String :=
  match s.refreshTokens oldHash with
  | none => (s.revokeRefreshToken oldHash, .error .refreshTokenInvalid)
  | some old =>
      if now < old.expiresAt then
        ((s.revokeRefreshToken oldHash).saveRefreshToken { replacement with userID := old.userID },
          .ok old.userID)
      else
        (s.revokeRefreshToken oldHash, .error .refreshTokenInvalid)

end MemoryStore

/-! ### The service -/

structure Tokens where
  accessToken : String
  refreshToken : String
  accessExpiresAt : Nat
  refreshExpiresAt : Nat
deriving DecidableEq, Repr

/-- A service with its token manager, and the pure library functions it calls: `strings.ToLower`,
bcrypt's `CompareHashAndPassword`, the base64 encoding and the SHA-256 of a raw token. -/
structure Service (η : Type) where
  accessTTL : Nat
  refreshTTL : Nat
  toLower : String → String
  compareHashAndPassword : List UInt8 → String → Bool
  encodeToString : List UInt8 → String
  refreshHash : String → η

/-- What the libraries answer in a step: bcrypt's `GenerateFromPassword`, `uuid.NewString`,
`SignedString` and `rand.Read`; the step uses what it asks for. -/
structure Answers where
  passwordHash : Except String (List UInt8)
  newID : String
  signed : Except String String
  random : Except String (List UInt8)
deriving DecidableEq

/-- Whether `loginPattern` matches. -/
def loginPattern (login : String) : Bool :=
  login.toList.all (fun c => ('a' ≤ c && c ≤ 'z') || ('0' ≤ c && c ≤ '9') || c == '_') &&
    3 ≤ login.length && login.length ≤ 32

/-- A Lean string is always valid UTF-8. -/
def validatePassword (password : String) : Except AuthError Unit :=
  if password.utf8ByteSize < 10 ∨ 72 < password.utf8ByteSize then .error .invalidPassword else .ok ()

namespace Service

variable (service : Service η)

def normalizeLogin (login : String) : String :=
  service.toLower (MatchServer.trimSpace login)

/-- `IssueAccess`: the signed token and its expiry. -/
def issueAccess (now : Nat) (answers : Answers) : Except AuthError (String × Nat) :=
  match answers.signed with
  | .error text => .error (.wrapped "sign access token" (.library text))
  | .ok signed => .ok (signed, now + service.accessTTL)

/-- `NewRefresh`: a raw token and the token to store. -/
def newRefresh (now : Nat) (userID : String) (answers : Answers) :
    Except AuthError (String × RefreshToken η) :=
  match answers.random with
  | .error text => .error (.wrapped "generate refresh token" (.library text))
  | .ok bytes =>
      let raw := service.encodeToString bytes
      .ok (raw, ⟨service.refreshHash raw, userID, now + service.refreshTTL, now⟩)

end Service

/-! ### Calls -/

/-- Where a call stands: past its checks or its last step, with the local variables it still needs. -/
inductive Phase (η : Type)
  | registering (login password : String)
  | creating (user : User)
  | loggingIn (login password : String)
  | issuing (user : User)
  | generating (user : User) (access : String × Nat)
  | saving (user : User) (access : String × Nat) (raw : String) (token : RefreshToken η)
  | authenticated (user : User) (tokens : Tokens)
  | refreshing (raw : String)
  | rotating (raw newRaw : String) (replacement : RefreshToken η)
  | rotated (raw newRaw : String) (replacement : RefreshToken η) (userID : String)
  | signing (raw newRaw : String) (replacement : RefreshToken η) (user : User)
  | refreshed (raw : String) (user : User) (tokens : Tokens)
  | loggingOut (raw : String)
  | loggedOut (raw : String)
  | failed (err : AuthError)
deriving DecidableEq

/-- What has happened to users and refresh tokens. The number is that of the call that exchanged a token
or that returned from its logout; `now` is what the clock showed to the exchange. -/
inductive Event (η : Type)
  | created (user : User)
  | issued (user : User) (token : RefreshToken η)
  | exchanged (call : Nat) (raw : String) (replacement : RefreshToken η) (now : Nat)
  | loggedOut (call : Nat) (raw : String)
deriving DecidableEq

structure Memory (η : Type) where
  clock : Nat
  store : MemoryStore η
  history : List (Event η)

def Memory.record (m : Memory η) (store : MemoryStore η) (event : Event η) : Memory η :=
  { m with store := store, history := m.history ++ [event] }

abbrev System (η : Type) := State (Memory η) (Phase η)

def newSystem (clock : Nat) : System η where
  memory := ⟨clock, newMemoryStore, []⟩
  threads := []

/-- What can happen next: time passes, a call begins, or a call takes its next step. -/
inductive Action
  | elapse (duration : Nat)
  | register (login password : String)
  | login (login password : String)
  | refresh (raw : String)
  | logout (raw : String)
  | step (call : Nat) (answers : Answers)
deriving DecidableEq

namespace Service

variable (service : Service η)

/-- `Register` up to the hash of the password. -/
def register (login password : String) : Phase η :=
  let login := service.normalizeLogin login
  if loginPattern login then
    match validatePassword password with
    | .error err => .failed err
    | .ok _ => .registering login password
  else
    .failed .invalidLogin

/-- `Register` from there to the store. -/
def hashPassword (m : Memory η) (login : String) (answers : Answers) : Phase η :=
  match answers.passwordHash with
  | .error text => .failed (.wrapped "hash password" (.library text))
  | .ok passwordHash => .creating ⟨answers.newID, login, passwordHash, m.clock⟩

def create (m : Memory η) (user : User) : Memory η × Phase η :=
  match m.store.createUser user with
  | .error err => (m, .failed (.wrapped "create user" err))
  | .ok store => (m.record store (.created user), .issuing user)

/-- `Login` up to the tokens. -/
def authenticate (m : Memory η) (login password : String) : Phase η :=
  match m.store.userByLogin login with
  | .error .userNotFound => .failed .invalidCredentials
  | .error err => .failed (.wrapped "get user by login" err)
  | .ok user =>
      if service.compareHashAndPassword user.passwordHash password then .issuing user
      else .failed .invalidCredentials

/-- The first step of `issueTokens`. -/
def issue (m : Memory η) (user : User) (answers : Answers) : Phase η :=
  match service.issueAccess m.clock answers with
  | .error err => .failed err
  | .ok access => .generating user access

def generate (m : Memory η) (user : User) (access : String × Nat) (answers : Answers) : Phase η :=
  match service.newRefresh m.clock user.id answers with
  | .error err => .failed err
  | .ok (raw, token) => .saving user access raw token

/-- The last step of `issueTokens`; the memory store does not fail here. -/
def save (m : Memory η) (user : User) (access : String × Nat) (raw : String)
    (token : RefreshToken η) : Memory η × Phase η :=
  (m.record (m.store.saveRefreshToken token) (.issued user token),
    .authenticated user ⟨access.1, raw, access.2, token.expiresAt⟩)

/-- `Refresh` before its replacement is made. -/
def refresh (raw : String) : Phase η :=
  if raw = "" then .failed .refreshTokenInvalid else .refreshing raw

def replace (m : Memory η) (raw : String) (answers : Answers) : Phase η :=
  match service.newRefresh m.clock "" answers with
  | .error err => .failed err
  | .ok (newRaw, replacement) => .rotating raw newRaw replacement

def rotate (m : Memory η) (call : Nat) (raw newRaw : String) (replacement : RefreshToken η) :
    Memory η × Phase η :=
  match m.store.rotateRefreshToken m.clock (service.refreshHash raw) replacement with
  | (store, .error .refreshTokenInvalid) => ({ m with store }, .failed .refreshTokenInvalid)
  | (store, .error err) => ({ m with store }, .failed (.wrapped "rotate refresh token" err))
  | (store, .ok userID) =>
      (m.record store (.exchanged call raw replacement m.clock),
        .rotated raw newRaw replacement userID)

def findUser (m : Memory η) (raw newRaw : String) (replacement : RefreshToken η)
    (userID : String) : Phase η :=
  match m.store.userByID userID with
  | .error err => .failed (.wrapped "get refresh token user" err)
  | .ok user => .signing raw newRaw replacement user

def sign (m : Memory η) (raw newRaw : String) (replacement : RefreshToken η) (user : User)
    (answers : Answers) : Phase η :=
  match service.issueAccess m.clock answers with
  | .error err => .failed err
  | .ok access => .refreshed raw user ⟨access.1, newRaw, access.2, replacement.expiresAt⟩

/-- `Logout` before the store; with an empty token it returns at once. -/
def logout (m : Memory η) (call : Nat) (raw : String) : Memory η × Phase η :=
  if raw = "" then (m.record m.store (.loggedOut call raw), .loggedOut raw)
  else (m, .loggingOut raw)

def revoke (m : Memory η) (call : Nat) (raw : String) : Memory η × Phase η :=
  (m.record (m.store.revokeRefreshToken (service.refreshHash raw)) (.loggedOut call raw),
    .loggedOut raw)

def advance (call : Nat) (m : Memory η) (point : Phase η) (answers : Answers) :
    Option (Memory η × Phase η) :=
  match point with
  | .registering login _ => some (m, hashPassword m login answers)
  | .creating user => some (create m user)
  | .loggingIn login password => some (m, service.authenticate m login password)
  | .issuing user => some (m, service.issue m user answers)
  | .generating user access => some (m, service.generate m user access answers)
  | .saving user access raw token => some (save m user access raw token)
  | .refreshing raw => some (m, service.replace m raw answers)
  | .rotating raw newRaw replacement => some (service.rotate m call raw newRaw replacement)
  | .rotated raw newRaw replacement userID => some (m, findUser m raw newRaw replacement userID)
  | .signing raw newRaw replacement user => some (m, service.sign m raw newRaw replacement user answers)
  | .loggingOut raw => some (service.revoke m call raw)
  | .authenticated .. => none
  | .refreshed .. => none
  | .loggedOut .. => none
  | .failed .. => none

/-- The transitions of the service. -/
def next (s : System η) : Action → Option (System η)
  | .elapse duration => some { s with memory.clock := s.memory.clock + duration }
  | .register login password => some (s.spawn (service.register login password))
  | .login login password => some (s.spawn (.loggingIn (service.normalizeLogin login) password))
  | .refresh raw => some (s.spawn (refresh raw))
  | .logout raw =>
      let begun := logout s.memory s.threads.length raw
      some (State.spawn { s with memory := begun.1 } begun.2)
  | .step call answers => s.step service.advance call answers

end Service

end PvpDuel.AuthServer
