import PvpDuel.Lib.Threads
import PvpDuel.Lib.Transition

/-!
# The session manager

`SessionManager` and its calls, each a thread of its own. A step is one access under `mutex_`, one
call of the gateway, one call of the storage, or taking and giving back `refreshMutex_`; what the
gateway and the storage return comes with the step, so they are free to fail.
-/

namespace PvpDuel.Auth

structure AuthSession where
  userId : String
  login : String
  accessToken : String
  refreshToken : String
deriving DecidableEq, Repr

inductive QueueState
  | notQueued | waiting | matched
deriving DecidableEq, Repr

structure ProfileStatistics where
  played : Int := 0
  wins : Int := 0
  losses : Int := 0
  draws : Int := 0
deriving DecidableEq, Repr

structure Profile where
  userId : String := ""
  login : String := ""
  createdAt : String := ""
  statistics : ProfileStatistics := {}
deriving DecidableEq, Repr

structure QueueStatus where
  state : QueueState := .notQueued
  matchId : String := ""
  opponentId : String := ""
  serverAddr : String := ""
  matchTicket : String := ""
deriving DecidableEq, Repr

/-- `api::Result`: `status` is the HTTP status, zero where there was no response. -/
structure Result (α : Type) where
  value : α
  error : String := ""
  status : Int := 0
deriving DecidableEq, Repr

/-- `Result::operator bool`. -/
def Result.ok {α : Type} (r : Result α) : Prop := r.error = ""

instance {α : Type} (r : Result α) : Decidable r.ok := inferInstanceAs (Decidable (r.error = ""))

/-- The authenticated requests, which differ in the call of the gateway only. -/
inductive Request
  | joinQueue | queueStatus | leaveQueue | profile
deriving DecidableEq, Repr

inductive Value
  | flag (value : Bool)
  | session (value : AuthSession)
  | queue (value : QueueStatus)
  | profile (value : Profile)
deriving DecidableEq, Repr

/-- A value-initialised `Result::value`. -/
def Request.empty : Request → Value
  | .joinQueue | .queueStatus => .queue {}
  | .leaveQueue => .flag false
  | .profile => .profile {}

/-! ### The gateway -/

structure HTTPResponse where
  status : Int
  body : String
deriving DecidableEq, Repr

/-- What the JSON library and the HTTP library read out of a response: the message of an error body
if it has one, the session of an authentication body or what the exception says, and the name of
the error of a request without a response. -/
structure Libraries where
  message : String → Option String
  session : String → Except String AuthSession
  errorName : Nat → String

def responseError (lib : Libraries) : Except Nat HTTPResponse → String
  | .error err => "Gateway connection failed: " ++ lib.errorName err
  | .ok response =>
      match lib.message response.body with
      | some message => message
      | none => "Gateway returned HTTP " ++ toString response.status

def parseAuth (lib : Libraries) (response : Except Nat HTTPResponse) : Result AuthSession :=
  match response with
  | .error _ => ⟨⟨"", "", "", ""⟩, responseError lib response, 0⟩
  | .ok answered =>
      if answered.status < 200 ∨ answered.status ≥ 300 then
        ⟨⟨"", "", "", ""⟩, responseError lib response, answered.status⟩
      else
        match lib.session answered.body with
        | .ok session => ⟨session, "", 0⟩
        | .error what => ⟨⟨"", "", "", ""⟩, "Invalid auth response: " ++ what, answered.status⟩

/-! ### The manager -/

/-- The fields of a `SessionManager`; `stored` is what its storage holds under `storageKey_`, and
`refreshMutex` the call that holds the mutex. -/
structure SessionManager where
  stored : Option String
  refreshMutex : Option Nat := none
  session : Option AuthSession := none
  warning : String := ""
deriving DecidableEq, Repr

/-- `storage_.Store`, with the error that it returns. -/
def SessionManager.store (m : SessionManager) (token error : String) : SessionManager :=
  if error = "" then { m with stored := some token } else m

/-- `storage_.Erase`, with the error that it returns. -/
def SessionManager.erase (m : SessionManager) (error : String) : SessionManager :=
  if error = "" then { m with stored := none } else m

namespace SessionManager

@[simp] theorem store_session (m : SessionManager) (token error : String) :
    (m.store token error).session = m.session := by
  unfold store
  split <;> rfl

@[simp] theorem store_refreshMutex (m : SessionManager) (token error : String) :
    (m.store token error).refreshMutex = m.refreshMutex := by
  unfold store
  split <;> rfl

@[simp] theorem erase_session (m : SessionManager) (error : String) :
    (m.erase error).session = m.session := by
  unfold erase
  split <;> rfl

@[simp] theorem erase_refreshMutex (m : SessionManager) (error : String) :
    (m.erase error).refreshMutex = m.refreshMutex := by
  unfold erase
  split <;> rfl

theorem erase_stored (m : SessionManager) (error : String) :
    (m.erase error).stored = m.stored ∨ (m.erase error).stored = none := by
  unfold erase
  split
  · exact .inr rfl
  · exact .inl rfl

end SessionManager

/-- What a call does after `SetSession`. -/
inductive After
  | restored
  | signedIn (result : Result AuthSession)
  | refreshed (request : Request) (rejected : String)
deriving DecidableEq, Repr

/-- Where a call is: before the step of this name. -/
inductive Phase
  -- `Restore`
  | load
  | restore (token : String)
  | forget (error : String)
  -- `Login` and `Register`
  | signIn (registering : Bool) (login password : String)
  -- `SetSession` and `AddWarning`
  | store (session : AuthSession) (after : After)
  | assign (session : AuthSession) (after : After)
  | addWarning (warning : String) (rest : Phase)
  -- `Logout`
  | logout
  | clear (session : Option AuthSession)
  | revoke (token : String)
  | erase (error : String)
  -- the authenticated requests
  | request (request : Request)
  | send (request : Request) (accessToken : String)
  | retry (request : Request)
  | resend (request : Request) (accessToken : String)
  -- `RefreshAfterUnauthorized`
  | lock (request : Request) (rejected : String)
  | check (request : Request) (rejected : String)
  | refresh (request : Request) (rejected : String) (before : AuthSession)
  | failed (request : Request) (rejected error : String)
  | clearRejected (request : Request) (rejected error : String)
  | eraseRejected (request : Request) (error : String)
  | issued (request : Request) (rejected : String) (session : AuthSession)
  | hasSession (request : Request)
  | unlock (request : Request) (refused : Option String)
  | returned (result : Result Value)
deriving DecidableEq, Repr

inductive Reply
  /-- An access under a mutex has no reply. -/
  | none
  | auth (result : Result AuthSession)
  | revoked (result : Result Bool)
  | answer (result : Result Value)
  | storage (error : String)
deriving DecidableEq, Repr

/-- `Result` of another type. -/
def Result.map {α β : Type} (f : α → β) (r : Result α) : Result β :=
  ⟨f r.value, r.error, r.status⟩

def notAuthenticated (request : Request) : Phase :=
  .returned ⟨request.empty, "Not authenticated", 0⟩

/-- `AddWarning`, where the storage returned an error. -/
def warned (text storageError : String) (rest : Phase) : Phase :=
  if storageError = "" then rest else .addWarning (text ++ storageError) rest

/-- Where the call is once the warnings are added. -/
def Phase.pastWarning : Phase → Phase
  | .addWarning _ rest => rest.pastWarning
  | phase => phase

@[simp] theorem pastWarning_warned (text storageError : String) (rest : Phase) :
    (warned text storageError rest).pastWarning = rest.pastWarning := by
  unfold warned
  split <;> rfl

/-- After `SetSession`. -/
def After.phase : After → Phase
  | .restored => .returned ⟨.flag true, "", 0⟩
  | .signedIn result => .returned (result.map .session)
  | .refreshed request _ => .hasSession request

namespace SessionManager

def restore (m : SessionManager) : Phase → Reply → Option (SessionManager × Phase)
  | .load, .storage error =>
      if error ≠ "" then some (m, .returned ⟨.flag false, error, 0⟩)
      else
        match m.stored with
        | none => some (m, .returned ⟨.flag false, "", 0⟩)
        | some token =>
            if token = "" then some (m, .returned ⟨.flag false, "", 0⟩)
            else some (m, .restore token)
  | .restore _, .auth result =>
      if result.ok then some (m, .store result.value .restored) else some (m, .forget result.error)
  | .forget error, .storage storageError =>
      some (m.erase storageError, warned "Could not remove invalid saved session: " storageError
        (.returned ⟨.flag false, error, 0⟩))
  | _, _ => none

def setSession (m : SessionManager) : Phase → Reply → Option (SessionManager × Phase)
  | .store session after, .storage storageError =>
      some (m.store session.refreshToken storageError,
        warned "Session will not persist: " storageError (.assign session after))
  | .assign session after, .none => some ({ m with session := some session }, after.phase)
  | _, _ => none

def logout (m : SessionManager) : Phase → Reply → Option (SessionManager × Phase)
  | .logout, .none => some (m, .clear m.session)
  | .clear session, .none =>
      some ({ m with session := none },
        match session with
        | some session =>
            if session.refreshToken = "" then .erase "" else .revoke session.refreshToken
        | none => .erase "")
  | .revoke _, .revoked result => some (m, .erase (if result.ok then "" else result.error))
  | .erase error, .storage storageError =>
      some (m.erase storageError,
        .returned (if error ≠ "" then ⟨.flag false, error, 0⟩
          else if storageError ≠ "" then ⟨.flag false, storageError, 0⟩
          else ⟨.flag true, "", 0⟩))
  | _, _ => none

/-- `JoinQueue`, `QueueStatus`, `LeaveQueue` and `Profile`. -/
def request (m : SessionManager) : Phase → Reply → Option (SessionManager × Phase)
  | .request request, .none =>
      match m.session with
      | none => some (m, notAuthenticated request)
      | some session => some (m, .send request session.accessToken)
  | .send request accessToken, .answer result =>
      if result.status ≠ 401 then some (m, .returned result)
      else some (m, .lock request accessToken)
  | .retry request, .none =>
      match m.session with
      | none => some (m, notAuthenticated request)
      | some session => some (m, .resend request session.accessToken)
  | .resend _ _, .answer result => some (m, .returned result)
  | _, _ => none

def refreshAfterUnauthorized (call : Nat) (m : SessionManager) :
    Phase → Reply → Option (SessionManager × Phase)
  | .lock request rejected, .none =>
      if m.refreshMutex = none then
        some ({ m with refreshMutex := some call }, .check request rejected)
      else none
  | .check request rejected, .none =>
      match m.session with
      | none => some (m, .unlock request (some "Not authenticated"))
      | some before =>
          -- A concurrent request already performed the one permitted refresh.
          if before.accessToken ≠ rejected then some (m, .unlock request none)
          else some (m, .refresh request rejected before)
  | .refresh request rejected _, .auth result =>
      if result.ok then some (m, .issued request rejected result.value)
      else some (m, .failed request rejected result.error)
  | .failed request rejected error, .none =>
      if m.session.map AuthSession.accessToken = some rejected then
        some (m, .clearRejected request rejected error)
      else some (m, .unlock request (some error))
  | .clearRejected request _ error, .none =>
      some ({ m with session := none }, .eraseRejected request error)
  | .eraseRejected request error, .storage storageError =>
      some (m.erase storageError, warned "Could not remove invalid saved session: " storageError
        (.unlock request (some error)))
  | .issued request rejected session, .none =>
      if m.session.map AuthSession.accessToken = some rejected then
        some (m, .store session (.refreshed request rejected))
      else some (m, .hasSession request)
  | .hasSession request, .none =>
      -- Where it returns false, `error` is still empty.
      some (m, .unlock request (if m.session.isSome then none else some ""))
  | .unlock request refused, .none =>
      some ({ m with refreshMutex := none },
        match refused with
        | none => .retry request
        | some error => .returned ⟨request.empty, error, 0⟩)
  | _, _ => none

def advance (call : Nat) (m : SessionManager) (phase : Phase) (reply : Reply) :
    Option (SessionManager × Phase) :=
  match phase with
  | .load | .restore _ | .forget _ => m.restore phase reply
  | .signIn _ _ _ =>
      match reply with
      | .auth result =>
          if result.ok then some (m, .store result.value (.signedIn result))
          else some (m, .returned (result.map .session))
      | _ => none
  | .store _ _ | .assign _ _ => m.setSession phase reply
  | .addWarning warning rest =>
      match reply with
      | .none => some ({ m with warning := warning }, rest)
      | _ => none
  | .logout | .clear _ | .revoke _ | .erase _ => m.logout phase reply
  | .request _ | .send _ _ | .retry _ | .resend _ _ => m.request phase reply
  | .returned _ => none
  | _ => m.refreshAfterUnauthorized call phase reply

inductive Moves (call : Nat) (m : SessionManager) :
    Phase → Reply → SessionManager → Phase → Prop
  | notRestored {error result} : Moves call m .load (.storage error) m (.returned result)
  | found {token} (hstored : m.stored = some token) :
      Moves call m .load (.storage "") m (.restore token)
  | restored {token result} (hok : result.ok) :
      Moves call m (.restore token) (.auth result) m (.store result.value .restored)
  | invalid {token result} (hfails : ¬ result.ok) :
      Moves call m (.restore token) (.auth result) m (.forget result.error)
  | forgot {error storageError result} : Moves call m (.forget error) (.storage storageError)
      (m.erase storageError)
      (warned "Could not remove invalid saved session: " storageError (.returned result))
  | signedIn {registering login password result} (hok : result.ok) :
      Moves call m (.signIn registering login password) (.auth result) m
        (.store result.value (.signedIn result))
  | refused {registering login password result value} (hfails : ¬ result.ok) :
      Moves call m (.signIn registering login password) (.auth result) m (.returned value)
  | stored {session after storageError} : Moves call m (.store session after)
      (.storage storageError) (m.store session.refreshToken storageError)
      (warned "Session will not persist: " storageError (.assign session after))
  | assigned {session after} :
      Moves call m (.assign session after) .none { m with session := some session } after.phase
  | addedWarning {warning rest} :
      Moves call m (.addWarning warning rest) .none { m with warning := warning } rest
  | loggingOut : Moves call m .logout .none m (.clear m.session)
  | clearedToken {session token} :
      Moves call m (.clear session) .none { m with session := none } (.revoke token)
  | cleared {session} : Moves call m (.clear session) .none { m with session := none } (.erase "")
  | revoked {token result error} : Moves call m (.revoke token) (.revoked result) m (.erase error)
  | erased {error storageError result} : Moves call m (.erase error) (.storage storageError)
      (m.erase storageError) (.returned result)
  | unauthenticated {request} : Moves call m (.request request) .none m (notAuthenticated request)
  | sent {request session} (hsession : m.session = some session) :
      Moves call m (.request request) .none m (.send request session.accessToken)
  | answered {request accessToken result} :
      Moves call m (.send request accessToken) (.answer result) m (.returned result)
  | unauthorized {request accessToken result} (hstatus : result.status = 401) :
      Moves call m (.send request accessToken) (.answer result) m (.lock request accessToken)
  | signedOut {request} : Moves call m (.retry request) .none m (notAuthenticated request)
  | resent {request session} (hsession : m.session = some session) :
      Moves call m (.retry request) .none m (.resend request session.accessToken)
  | reanswered {request accessToken result} :
      Moves call m (.resend request accessToken) (.answer result) m (.returned result)
  | locked {request rejected} (hfree : m.refreshMutex = none) : Moves call m
      (.lock request rejected) .none { m with refreshMutex := some call } (.check request rejected)
  | unneeded {request rejected refused} :
      Moves call m (.check request rejected) .none m (.unlock request refused)
  | checked {request before} (hsession : m.session = some before) :
      Moves call m (.check request before.accessToken) .none m
        (.refresh request before.accessToken before)
  | refreshed {request rejected before result} (hok : result.ok) :
      Moves call m (.refresh request rejected before) (.auth result) m
        (.issued request rejected result.value)
  | notRefreshed {request rejected before result} (hfails : ¬ result.ok) :
      Moves call m (.refresh request rejected before) (.auth result) m
        (.failed request rejected result.error)
  | stillRejected {request rejected error}
      (hsession : m.session.map AuthSession.accessToken = some rejected) :
      Moves call m (.failed request rejected error) .none m (.clearRejected request rejected error)
  | failedLate {request rejected error}
      (hsession : m.session.map AuthSession.accessToken ≠ some rejected) :
      Moves call m (.failed request rejected error) .none m (.unlock request (some error))
  | clearedRejected {request rejected error} :
      Moves call m (.clearRejected request rejected error) .none { m with session := none }
        (.eraseRejected request error)
  | erasedRejected {request error storageError} : Moves call m (.eraseRejected request error)
      (.storage storageError) (m.erase storageError)
      (warned "Could not remove invalid saved session: " storageError
        (.unlock request (some error)))
  | adopted {request rejected session}
      (hsession : m.session.map AuthSession.accessToken = some rejected) :
      Moves call m (.issued request rejected session) .none m
        (.store session (.refreshed request rejected))
  | issuedLate {request rejected session}
      (hsession : m.session.map AuthSession.accessToken ≠ some rejected) :
      Moves call m (.issued request rejected session) .none m (.hasSession request)
  | lookedUp {request refused} :
      Moves call m (.hasSession request) .none m (.unlock request refused)
  | unlocked {request refused} : Moves call m (.unlock request refused) .none
      { m with refreshMutex := none } (.retry request)
  | unlockedFailed {request refused result} : Moves call m (.unlock request refused) .none
      { m with refreshMutex := none } (.returned result)

theorem restore_moves {call : Nat} {m m' : SessionManager} {phase phase' : Phase} {reply : Reply}
    (h : m.restore phase reply = some (m', phase')) : Moves call m phase reply m' phase' := by
  unfold restore at h
  split at h
  · split at h
    · cases h
      exact .notRestored
    · rename_i hload
      obtain rfl := not_not.1 hload
      split at h
      · cases h
        exact .notRestored
      · split at h
        · cases h
          exact .notRestored
        · cases h
          exact .found ‹_›
  · split at h <;> cases h
    · exact .restored ‹_›
    · exact .invalid ‹_›
  · cases h
    exact .forgot
  · cases h

theorem setSession_moves {call : Nat} {m m' : SessionManager} {phase phase' : Phase} {reply : Reply}
    (h : m.setSession phase reply = some (m', phase')) : Moves call m phase reply m' phase' := by
  unfold setSession at h
  split at h <;> cases h
  · exact .stored
  · exact .assigned

theorem logout_moves {call : Nat} {m m' : SessionManager} {phase phase' : Phase} {reply : Reply}
    (h : m.logout phase reply = some (m', phase')) : Moves call m phase reply m' phase' := by
  unfold logout at h
  split at h <;> cases h
  · exact .loggingOut
  · split
    · split
      · exact .cleared
      · exact .clearedToken
    · exact .cleared
  · exact .revoked
  · exact .erased

theorem request_moves {call : Nat} {m m' : SessionManager} {phase phase' : Phase} {reply : Reply}
    (h : m.request phase reply = some (m', phase')) : Moves call m phase reply m' phase' := by
  unfold request at h
  split at h
  · split at h <;> cases h
    · exact .unauthenticated
    · exact .sent ‹_›
  · split at h <;> cases h
    · exact .answered
    · exact .unauthorized (not_not.1 ‹_›)
  · split at h <;> cases h
    · exact .signedOut
    · exact .resent ‹_›
  · cases h
    exact .reanswered
  · cases h

theorem refreshAfterUnauthorized_moves {call : Nat} {m m' : SessionManager} {phase phase' : Phase}
    {reply : Reply} (h : m.refreshAfterUnauthorized call phase reply = some (m', phase')) :
    Moves call m phase reply m' phase' := by
  unfold refreshAfterUnauthorized at h
  split at h
  · split at h <;> cases h
    exact .locked ‹_›
  · split at h
    · cases h
      exact .unneeded
    · split at h <;> cases h
      · exact .unneeded
      · rename_i hsession hrejected
        obtain rfl := not_not.1 hrejected
        exact .checked hsession
  · split at h <;> cases h
    · exact .refreshed ‹_›
    · exact .notRefreshed ‹_›
  · split at h <;> cases h
    · exact .stillRejected ‹_›
    · exact .failedLate ‹_›
  · cases h
    exact .clearedRejected
  · cases h
    exact .erasedRejected
  · split at h <;> cases h
    · exact .adopted ‹_›
    · exact .issuedLate ‹_›
  · cases h
    exact .lookedUp
  · cases h
    split
    · exact .unlocked
    · exact .unlockedFailed
  · cases h

theorem advance_moves {call : Nat} {m m' : SessionManager} {phase phase' : Phase} {reply : Reply}
    (h : m.advance call phase reply = some (m', phase')) : Moves call m phase reply m' phase' := by
  unfold advance at h
  split at h
  · exact restore_moves h
  · exact restore_moves h
  · exact restore_moves h
  · split at h
    · split at h <;> cases h
      · exact .signedIn ‹_›
      · exact .refused ‹_›
    · cases h
  · exact setSession_moves h
  · exact setSession_moves h
  · split at h <;> cases h
    exact .addedWarning
  · exact logout_moves h
  · exact logout_moves h
  · exact logout_moves h
  · exact logout_moves h
  · exact request_moves h
  · exact request_moves h
  · exact request_moves h
  · exact request_moves h
  · cases h
  · exact refreshAfterUnauthorized_moves h

end SessionManager

/-! ### Calls -/

inductive Operation
  | restore
  | login (login password : String)
  | register (login password : String)
  | logout
  | request (request : Request)
deriving DecidableEq, Repr

def Operation.phase : Operation → Phase
  | .restore => .load
  | .login name password => .signIn false name password
  | .register name password => .signIn true name password
  | .logout => .logout
  | .request wanted => .request wanted

/-- A call of `GatewayClient::Refresh`: the access token that was rejected, which `Restore` has
none of, the refresh token that was presented and the result. -/
structure RefreshCall where
  rejected : Option String
  token : String
  result : Result AuthSession
deriving DecidableEq, Repr

/-- The manager, and a record of the `Refresh` calls and of the sessions that the gateway issued. -/
structure Memory where
  manager : SessionManager
  refreshes : List RefreshCall := []
  issued : List AuthSession := []
deriving DecidableEq, Repr

def Phase.refreshes : Phase → Reply → List RefreshCall
  | .restore token, .auth result => [⟨none, token, result⟩]
  | .refresh _ rejected before, .auth result => [⟨some rejected, before.refreshToken, result⟩]
  | _, _ => []

def Reply.issued : Reply → List AuthSession
  | .auth result => if result.ok then [result.value] else []
  | _ => []

def Memory.record (m : Memory) (manager : SessionManager) (phase : Phase) (reply : Reply) :
    Memory :=
  ⟨manager, m.refreshes ++ phase.refreshes reply, m.issued ++ reply.issued⟩

def Memory.advance (call : Nat) (m : Memory) (phase : Phase) (reply : Reply) :
    Option (Memory × Phase) :=
  (m.manager.advance call phase reply).map fun result =>
    (m.record result.1 phase reply, result.2)

abbrev State := Threads.State Memory Phase

inductive Action
  | begin (operation : Operation)
  | takeWarning
  | step (call : Nat) (reply : Reply)
deriving DecidableEq, Repr

def next (s : State) : Action → Option State
  | .begin operation => some (s.spawn operation.phase)
  | .takeWarning =>
      some { s with memory := { s.memory with manager := { s.memory.manager with warning := "" } } }
  | .step call reply => s.step Memory.advance call reply

def newSessionManager (stored : Option String) : State :=
  ⟨{ manager := { stored } }, []⟩

def Phase.Returned : Phase → Prop
  | .returned _ => True
  | _ => False

instance (phase : Phase) : Decidable phase.Returned := by
  unfold Phase.Returned
  split <;> infer_instance

theorem next_cases {s t : State} {action : Action} (h : next s action = some t) :
    (∃ operation, action = .begin operation ∧ t = s.spawn operation.phase) ∨
    (action = .takeWarning ∧
      t = { s with memory := { s.memory with manager := { s.memory.manager with warning := "" } } }) ∨
    ∃ call reply phase manager phase', action = .step call reply ∧
      s.threads[call]? = some phase ∧
      SessionManager.Moves call s.memory.manager phase reply manager phase' ∧
      t = s.move call (s.memory.record manager phase reply) phase' := by
  cases action with
  | begin operation => exact .inl ⟨operation, rfl, (Option.some.inj h).symm⟩
  | takeWarning => exact .inr (.inl ⟨rfl, (Option.some.inj h).symm⟩)
  | step call reply =>
      obtain ⟨phase, memory, phase', hphase, hadvance, rfl⟩ := Threads.State.step_eq_some.1 h
      obtain ⟨⟨manager, point⟩, hmanager, heq⟩ := Option.map_eq_some_iff.1 hadvance
      obtain ⟨rfl, rfl⟩ := Prod.mk.inj heq
      exact .inr (.inr ⟨call, reply, phase, manager, point, rfl, hphase,
        SessionManager.advance_moves hmanager, rfl⟩)

end PvpDuel.Auth
