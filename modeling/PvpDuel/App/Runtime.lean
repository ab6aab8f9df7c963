import PvpDuel.Client.MatchController
import PvpDuel.Client.SessionManager
import PvpDuel.Client.Settings
import PvpDuel.Updater.Version

/-!
# The client's main loop

`Application::Run` over the session manager. A frame takes what has become ready, polls the match and
draws one screen, whose buttons begin further tasks. The tasks run beside the frames: a call of the session
manager takes its steps at any time, and the other tasks become ready when they like.

What would block the loop or use what is gone is recorded as a hazard. Sounds, drawing and the times that
only move pictures are left out; the number of fixed ticks in a frame comes with it.
-/

namespace PvpDuel.App

open Auth (AuthSession Operation Profile QueueStatus Result Value)
open Client (InputBindings InputCode InputFrame MatchController SettingsLoadResult SettingsSaveResult)
open Gamev1 (MatchEnd MatchFinishReason MatchStart WorldSnapshot)

/-! ### Matches and endpoints -/

inductive RuntimeState
  | login | restoring | authPending | ready | queuePending | waiting | connectPending | playing
  | result | profile | settings | logoutPending | error
deriving DecidableEq, Repr

structure Endpoint where
  host : List Char
  port : Nat
deriving DecidableEq, Repr

/-- The host is what stands before the last colon. -/
def parseEndpoint (address : List Char) : Option Endpoint :=
  let port := (address.reverse.takeWhile (· ≠ ':')).reverse
  let host := address.take (address.length - port.length - 1)
  if ':' ∉ address ∨ host = [] ∨ port = [] then none
  else
    match Updater.stoi port with
    | .error _ => none
    | .ok port => if port ≤ 0 ∨ port > 65535 then none else some ⟨host, port.toNat⟩

def matchFinishReasonLabel : MatchFinishReason → String
  | .ko => "Knockout"
  | .timeLimit => "Time limit"
  | .disconnect => "Opponent disconnected"
  | .unspecified => "Match finished"

/-- `MatchmakingCleanup`. -/
structure MatchmakingCleanup where
  queueResetRequired : Bool := false
deriving DecidableEq, Repr

namespace MatchmakingCleanup

def matchAccepted (_ : MatchmakingCleanup) : MatchmakingCleanup := ⟨true⟩

def connectionFailed (c : MatchmakingCleanup) : MatchmakingCleanup := c

def matchEnded (_ : MatchmakingCleanup) : MatchmakingCleanup := ⟨true⟩

def queueResetSucceeded (_ : MatchmakingCleanup) : MatchmakingCleanup := ⟨false⟩

end MatchmakingCleanup

/-! ### The state of the loop -/

/-- The task of `beginQueueRequest`: it waits for `LeaveQueue`, it waits for `JoinQueue` or `QueueStatus`,
or it has failed to leave. -/
inductive QueueTask
  | leaving (call : Nat)
  | asking (call : Nat)
  | refused (error : String)
deriving DecidableEq, Repr

/-- What `Load` hands over: the constructor of `InputBindings` does not throw. -/
structure Loaded where
  result : SettingsLoadResult
  complete : Client.Complete result.settings.bindings

/-- An assignment to a future whose task may be running waits for it. A transport is gone while the
controller or the connecting task refers to it, or a pointer or an optional is empty where it is used. -/
inductive Hazard
  | blocked
  | dangling
  | empty
deriving DecidableEq, Repr

/-- What is done about the queue, in order: a match is accepted, `LeaveQueue` has succeeded, `JoinQueue` is
called. -/
inductive Event
  | accepted
  | left
  | joins
deriving DecidableEq, Repr

/-- The variables of `Run`. A future is `none` where it is not valid; that of a call of the session manager
is its number. A transport is known by its number, and the controller comes with that of its transport.
`signedOut` is the last call of `Logout` while nobody has begun to sign in again. -/
structure Runtime where
  screen : RuntimeState
  manager : Auth.State
  session : AuthSession
  message : String
  restoreFuture : Option Nat
  authFuture : Option Nat
  queueFuture : Option QueueTask
  connectFuture : Option (Option Bool)
  profileFuture : Option Nat
  logoutFuture : Option Nat
  settingsLoadFuture : Option (Option Loaded)
  settingsSaveFuture : Option (Option SettingsSaveResult)
  networks : Nat
  network : Option Nat
  matchController : Option (Nat × MatchController)
  queueRequestReset : Bool
  matchmakingCleanup : MatchmakingCleanup
  nextPoll : Nat
  profile : Option Profile
  profileMessage : String
  inputBindings : InputBindings
  settingsDraft : InputBindings
  pendingBindings : Option InputBindings
  captureAction : Option Client.Action
  settingsMessage : String
  settingsLoaded : Bool
  hazards : List Hazard
  events : List Event
  signedOut : Option Nat

/-! ### The screens -/

inductive LoginAction
  | none | login | register
deriving DecidableEq, Repr

inductive MainMenuAction
  | none | findMatch | profile | settings | logout | back
deriving DecidableEq, Repr

inductive ProfileAction
  | none | back
deriving DecidableEq, Repr

inductive ResultAction
  | none | backToMenu | findAnother
deriving DecidableEq, Repr

inductive SettingsAction
  | none | save | resetDefaults | back
deriving DecidableEq, Repr

/-- What comes with a frame: the time, what the transport has, the input of its fixed ticks, and where the
player clicks on each screen. -/
structure Frame where
  now : Nat
  login : String
  password : String
  start : Option MatchStart
  snapshot : Option WorldSnapshot
  matchEnd : Option MatchEnd
  connected : Bool
  networkError : String
  inputFrames : List InputFrame
  loginClick : LoginAction
  menuClick : MainMenuAction
  profileClick : ProfileAction
  resultClick : ResultAction
  settingsClick : SettingsAction
  captureClick : Option Client.Action
  pressedInputCode : Option InputCode

def drawLogin (actionsEnabled : Bool) (click : LoginAction) : LoginAction :=
  if actionsEnabled then click else .none

def drawMainMenu (ready error settingsReady : Bool) : MainMenuAction → MainMenuAction
  | .findMatch => if ready then .findMatch else .none
  | .profile => if ready then .profile else .none
  | .settings => if ready && settingsReady then .settings else .none
  | .logout => if ready then .logout else .none
  | .back => if error then .back else .none
  | .none => .none

def drawResult (controller : MatchController) (click : ResultAction) : ResultAction :=
  if controller.model.matchEnd.isSome then click else .none

def drawSettings (savePending : Bool) : SettingsAction → SettingsAction
  | .save => if savePending then .none else .save
  | .resetDefaults => if savePending then .none else .resetDefaults
  | action => action

/-! ### Values of the calls -/

def sessionOf : Value → AuthSession
  | .session session => session
  | _ => ⟨"", "", "", ""⟩

def queueOf : Value → QueueStatus
  | .queue status => status
  | _ => {}

def flagOf : Value → Bool
  | .flag flag => flag
  | _ => false

def profileOf : Value → Profile
  | .profile profile => profile
  | _ => {}

namespace Runtime

/-- The result of a call of the session manager, when it has returned. -/
def resultOf (r : Runtime) (call : Nat) : Option (Result Value) :=
  match r.manager.threads[call]? with
  | some (.returned result) => some result
  | _ => none

def beginCall (r : Runtime) (operation : Operation) : Runtime :=
  { r with manager := r.manager.spawn operation.phase }

/-- `CurrentSession`. -/
def currentSession (r : Runtime) : Option AuthSession := r.manager.memory.manager.session

def risk (r : Runtime) (danger : Bool) (hazard : Hazard) : Runtime :=
  if danger then { r with hazards := r.hazards ++ [hazard] } else r

/-! ### Beginning a task -/

def beginAuth (r : Runtime) (registration : Bool) (login password : String) : Runtime :=
  if login = "" ∨ password = "" then { r with message := "Enter login and password" }
  else
    let r := (r.risk r.authFuture.isSome .blocked).beginCall
      (if registration then .register login password else .login login password)
    { r with
      authFuture := some (r.manager.threads.length - 1)
      screen := .authPending
      signedOut := none
      message := if registration then "Creating account..." else "Signing in..." }

/-- The connecting task uses the transport, so it must not be reset under it. -/
def resetNetwork (r : Runtime) : Runtime :=
  let r := r.risk r.connectFuture.isSome .dangling
  { r with matchController := none, network := none }

/-- The task of `beginQueueRequest`. -/
def startQueueTask (r : Runtime) (join resetCompletedMatch : Bool) : Runtime :=
  let r := (r.risk r.queueFuture.isSome .blocked).beginCall
    (.request (if resetCompletedMatch then .leaveQueue else if join then .joinQueue else .queueStatus))
  let call := r.manager.threads.length - 1
  { r with
    queueFuture := some (if resetCompletedMatch then .leaving call else .asking call)
    queueRequestReset := resetCompletedMatch
    events := if join && !resetCompletedMatch then r.events ++ [.joins] else r.events
    screen := .queuePending
    message := if join then "Joining queue..." else "Checking queue..." }

def beginQueueRequest (r : Runtime) (join : Bool) : Runtime :=
  (if join then r.resetNetwork else r).startQueueTask join
    (join && r.matchmakingCleanup.queueResetRequired)

def beginProfileLoad (r : Runtime) : Runtime :=
  let r := if r.profileFuture.isSome then r
    else
      let r := r.beginCall (.request .profile)
      { r with
        profile := none
        profileMessage := "Loading profile..."
        profileFuture := some (r.manager.threads.length - 1) }
  { r with screen := .profile }

def beginLogout (r : Runtime) : Runtime :=
  let r := (r.risk r.logoutFuture.isSome .blocked).beginCall .logout
  { r with
    logoutFuture := some (r.manager.threads.length - 1)
    signedOut := some (r.manager.threads.length - 1)
    screen := .logoutPending
    message := "Logging out..." }

def beginSettingsSave (r : Runtime) : Runtime :=
  let r := r.risk r.settingsSaveFuture.isSome .blocked
  { r with
    pendingBindings := some r.settingsDraft
    settingsSaveFuture := some none
    settingsMessage := "Saving settings..." }

/-! ### Taking what is ready -/

def takeSettingsLoad (r : Runtime) : Runtime :=
  match r.settingsLoadFuture with
  | some (some loaded) =>
      let bindings : InputBindings := ⟨loaded.result.settings.bindings, loaded.complete⟩
      { r with
        settingsLoadFuture := none
        inputBindings := bindings
        settingsDraft := bindings
        settingsMessage :=
          if loaded.result.warning = "" then "Select a control to rebind" else loaded.result.warning
        settingsLoaded := true }
  | _ => r

def takeSettingsSave (r : Runtime) : Runtime :=
  match r.settingsSaveFuture with
  | some (some result) =>
      match if result.ok then r.pendingBindings else none with
      | some bindings =>
          { r with
            settingsSaveFuture := none
            pendingBindings := none
            inputBindings := bindings
            settingsMessage := "Settings saved" }
      | none =>
          { r with
            settingsSaveFuture := none
            pendingBindings := none
            settingsMessage := "Settings save failed: " ++ result.error }
  | _ => r

def expire (r : Runtime) : Runtime :=
  { r with
    session := ⟨"", "", "", ""⟩
    message := "Your session expired. Please log in again."
    screen := .login }

def takeProfile (r : Runtime) : Runtime :=
  match if r.screen = .profile then r.profileFuture.bind r.resultOf else none with
  | some result =>
      let r := { r with profileFuture := none }
      if result.ok then { r with profile := some (profileOf result.value), profileMessage := "" }
      else if r.currentSession = none then { r.expire with profile := none }
      else { r with profileMessage := result.error }
  | none => r

def takeLogout (r : Runtime) : Runtime :=
  match if r.screen = .logoutPending then r.logoutFuture.bind r.resultOf else none with
  | some result =>
      { r with
        logoutFuture := none
        session := ⟨"", "", "", ""⟩
        profile := none
        message := if result.ok then "Logged out" else "Logged out locally: " ++ result.error
        screen := .login }
  | none => r

def takeRestore (r : Runtime) : Runtime :=
  match if r.screen = .restoring then r.restoreFuture.bind r.resultOf else none with
  | some result =>
      let r := { r with restoreFuture := none }
      if result.ok then
        match if flagOf result.value then r.currentSession else none with
        | some restored =>
            { r with session := restored, message := "Welcome back, " ++ restored.login, screen := .ready }
        | none => { r with message := "Login or create an account", screen := .login }
      else
        { r with message := "Saved session could not be restored: " ++ result.error, screen := .login }
  | none => r

def takeAuth (r : Runtime) : Runtime :=
  match if r.screen = .authPending then r.authFuture.bind r.resultOf else none with
  | some result =>
      let r := { r with authFuture := none }
      if result.ok then
        let session := sessionOf result.value
        let warning := r.manager.memory.manager.warning
        { r with
          session
          message := "Welcome, " ++ session.login ++ (if warning = "" then "" else "\n" ++ warning)
          manager.memory.manager.warning := ""
          screen := .ready }
      else { r with message := result.error, screen := .login }
  | none => r

/-- The result of the task of `beginQueueRequest`, when it is ready. -/
def queueResult (r : Runtime) : QueueTask → Option (Result QueueStatus)
  | .leaving _ => none
  | .asking call => (r.resultOf call).map (Auth.Result.map queueOf)
  | .refused error => some ⟨{}, error, 0⟩

def handleQueueResult (r : Runtime) (now : Nat) (result : Result QueueStatus) : Runtime :=
  if ¬ result.ok then
    if r.currentSession = none then r.expire
    else { r with message := result.error, screen := .error }
  else
    match result.value.state with
    | .waiting =>
        { r with message := "Waiting for opponent...", screen := .waiting, nextPoll := now + 1000000000 }
    | .notQueued => { r with message := "Ready to find a match", screen := .ready }
    | .matched =>
        let r := { r with
          matchmakingCleanup := r.matchmakingCleanup.matchAccepted
          events := r.events ++ [Event.accepted] }
        match parseEndpoint result.value.serverAddr.toList with
        | none => { r with message := "Gateway returned an invalid match server address", screen := .error }
        | some _ =>
            let r := r.risk (r.matchController.isSome || r.connectFuture.isSome) .dangling
            { r with
              network := some r.networks
              networks := r.networks + 1
              connectFuture := some none
              screen := .connectPending
              message := "Connecting to match server..." }

def settleQueue (r : Runtime) (result : Result QueueStatus) : Runtime :=
  { r with
    queueFuture := none
    matchmakingCleanup :=
      if r.queueRequestReset ∧ result.ok then r.matchmakingCleanup.queueResetSucceeded
      else r.matchmakingCleanup
    queueRequestReset := false }

def takeQueue (r : Runtime) (now : Nat) : Runtime :=
  match if r.screen = .queuePending then r.queueFuture.bind r.queueResult else none with
  | some result => (r.settleQueue result).handleQueueResult now result
  | none => r

def pollQueue (r : Runtime) (now : Nat) : Runtime :=
  if r.screen = .waiting ∧ r.nextPoll ≤ now then r.beginQueueRequest false else r

def takeConnect (r : Runtime) (networkError : String) : Runtime :=
  match if r.screen = .connectPending then r.connectFuture else none with
  | some (some true) =>
      let r := { r with connectFuture := none }
      match r.network with
      | some network =>
          { r with
            matchController := some (network, Client.newMatchController r.session.userId)
            message := "Waiting for match start..."
            screen := .playing }
      | none => r.risk true .empty
  | some (some false) =>
      let r := ({ r with connectFuture := none }).risk r.network.isNone .empty
      { r with
        matchmakingCleanup := r.matchmakingCleanup.connectionFailed
        message := "Match connection failed: " ++ networkError
        screen := .error }
  | _ => r

/-! ### Playing -/

/-- The match after `PollNetwork`. -/
def follow (r : Runtime) (frame : Frame) (network : Nat) (controller : MatchController)
    (update : Client.NetworkUpdate) : Runtime :=
  let r := { r with
    matchController := some (network, controller)
    message := if update.started then "Match starting" else r.message }
  if update.ended then
    match controller.model.matchEnd with
    | some matchEnd =>
        { r with
          matchmakingCleanup := r.matchmakingCleanup.matchEnded
          screen := .result
          message := matchFinishReasonLabel matchEnd.reason }
    | none => r.risk true .empty
  else if update.disconnected then
    { r with
      matchmakingCleanup := r.matchmakingCleanup.connectionFailed
      message := "Network error: " ++ frame.networkError
      screen := .error }
  else
    { r with matchController := some (network,
        frame.inputFrames.foldl (fun c inputFrame => (c.fixedTick inputFrame).1) controller) }

def play (r : Runtime) (frame : Frame) : Runtime :=
  match if r.screen = .playing then r.matchController else none with
  | some (network, controller) =>
      let r := r.risk (r.network ≠ some network) .dangling
      let polled := controller.pollNetwork frame.start frame.snapshot frame.matchEnd frame.connected
      r.follow frame network polled.2 polled.1
  | none => r

/-! ### Drawing -/

def clickLogin (r : Runtime) (frame : Frame) : Runtime :=
  match drawLogin (r.screen = .login) frame.loginClick with
  | .login => r.beginAuth false frame.login frame.password
  | .register => r.beginAuth true frame.login frame.password
  | .none => r

def backToMenu (r : Runtime) : Runtime := { r with screen := .ready, message := "Ready to find a match" }

def clickResult (r : Runtime) (frame : Frame) (controller : MatchController) : Runtime :=
  match drawResult controller frame.resultClick with
  | .backToMenu => r.backToMenu
  | .findAnother => r.beginQueueRequest true
  | .none => r

def capture (r : Runtime) : Option Client.Action → Runtime
  | some action => { r with
      captureAction := some action, settingsMessage := "Press a key for the selected action" }
  | none => r

/-- The key for the action that is being captured. -/
def captureKey (r : Runtime) (pressed : Option InputCode) : Runtime :=
  match r.captureAction, pressed with
  | some action, some input =>
      match r.settingsDraft.rebind action input with
      | .ok draft => { r with
          settingsDraft := draft, captureAction := none, settingsMessage := "Binding changed; save to apply" }
      | .error validationError => { r with settingsMessage := validationError }
  | _, _ => r

def applySettings (r : Runtime) : SettingsAction → Runtime
  | .save => if r.settingsSaveFuture.isSome then r else r.beginSettingsSave
  | .resetDefaults =>
      if r.settingsSaveFuture.isSome then r
      else beginSettingsSave { r with settingsDraft := InputBindings.defaults, captureAction := none }
  | .back => backToMenu { r with captureAction := none }
  | .none => r

def clickSettings (r : Runtime) (frame : Frame) : Runtime :=
  ((r.capture frame.captureClick).captureKey frame.pressedInputCode).applySettings
    (drawSettings r.settingsSaveFuture.isSome frame.settingsClick)

def clickMainMenu (r : Runtime) (frame : Frame) : Runtime :=
  match drawMainMenu (r.screen = .ready) (r.screen = .error) r.settingsLoaded frame.menuClick with
  | .findMatch => r.beginQueueRequest true
  | .profile => r.beginProfileLoad
  | .settings => { r with
      settingsDraft := r.inputBindings
      captureAction := none
      settingsMessage := "Select a control to rebind"
      screen := .settings }
  | .logout => r.beginLogout
  | .back =>
      if r.session.accessToken = "" then
        { r with screen := .login, message := "Login or create an account" }
      else r.backToMenu
  | .none => r

def draw (r : Runtime) (frame : Frame) : Runtime :=
  if r.screen = .login ∨ r.screen = .authPending then r.clickLogin frame
  else
    match r.screen, r.matchController with
    | .playing, some _ => r
    | .result, some (_, controller) => r.clickResult frame controller
    | .profile, _ => if frame.profileClick = .back then r.backToMenu else r
    | .settings, _ => r.clickSettings frame
    | _, _ => r.clickMainMenu frame

def frame (r : Runtime) (frame : Frame) : Runtime :=
  let r := r.takeSettingsLoad.takeSettingsSave.takeProfile.takeLogout.takeRestore.takeAuth
  let r := ((r.takeQueue frame.now).pollQueue frame.now).takeConnect frame.networkError
  (r.play frame).draw frame

end Runtime

/-! ### Runs -/

/-- A frame, a step of a call of the session manager, or a step of another task. -/
inductive Action
  | frame (frame : Frame)
  | step (call : Nat) (reply : Auth.Reply)
  | queue
  | connect (connected : Bool)
  | load (loaded : Loaded)
  | save (result : SettingsSaveResult)

namespace Runtime

/-- The task of `beginQueueRequest` has left the queue. -/
def afterLeave (r : Runtime) (result : Result Value) : Runtime :=
  if result.ok then
    let r := r.beginCall (.request .joinQueue)
    { r with
      queueFuture := some (.asking (r.manager.threads.length - 1))
      events := r.events ++ [.left, .joins] }
  else { r with queueFuture := some (.refused result.error) }

def next (r : Runtime) : Action → Option Runtime
  | .frame frame => some (r.frame frame)
  | .step call reply =>
      (r.manager.step Auth.Memory.advance call reply).map fun manager => { r with manager }
  | .queue =>
      match r.queueFuture with
      | some (.leaving call) => (r.resultOf call).map r.afterLeave
      | _ => none
  | .connect connected =>
      if r.connectFuture = some none then some { r with connectFuture := some (some connected) } else none
  | .load loaded =>
      match r.settingsLoadFuture with
      | some none => some { r with settingsLoadFuture := some (some loaded) }
      | _ => none
  | .save result =>
      if r.settingsSaveFuture = some none then some { r with settingsSaveFuture := some (some result) }
      else none

/-- `Run` up to its loop, over what the storage holds. -/
def start (stored : Option String) : Runtime where
  screen := .restoring
  manager := (Auth.newSessionManager stored).spawn Operation.restore.phase
  session := ⟨"", "", "", ""⟩
  message := "Login or create an account"
  restoreFuture := some 0
  authFuture := none
  queueFuture := none
  connectFuture := none
  profileFuture := none
  logoutFuture := none
  settingsLoadFuture := some none
  settingsSaveFuture := none
  networks := 0
  network := none
  matchController := none
  queueRequestReset := false
  matchmakingCleanup := {}
  nextPoll := 0
  profile := none
  profileMessage := ""
  inputBindings := InputBindings.defaults
  settingsDraft := InputBindings.defaults
  pendingBindings := none
  captureAction := none
  settingsMessage := "Loading settings..."
  settingsLoaded := false
  hazards := []
  events := []
  signedOut := none

end Runtime

end PvpDuel.App
