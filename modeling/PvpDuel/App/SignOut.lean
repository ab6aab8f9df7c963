import PvpDuel.App.Runs

/-!
# What a logout leaves behind

The frames begin `Logout` on a screen that waits for nothing, so the only other call that may be running is
a load of the profile. When there is none, the logout is final until somebody begins to sign in.
-/

namespace PvpDuel.App

open Auth (Leaves Operation Phase Result Value)
open Client (MatchController)

variable {r r' : Runtime} {call : Nat} {result : Result Value}

@[simp] theorem risk_manager (danger : Bool) (hazard : Hazard) :
    (r.risk danger hazard).manager = r.manager := by
  unfold Runtime.risk
  split <;> rfl

@[simp] theorem risk_logoutFuture (danger : Bool) (hazard : Hazard) :
    (r.risk danger hazard).logoutFuture = r.logoutFuture := by
  unfold Runtime.risk
  split <;> rfl

@[simp] theorem risk_profileFuture (danger : Bool) (hazard : Hazard) :
    (r.risk danger hazard).profileFuture = r.profileFuture := by
  unfold Runtime.risk
  split <;> rfl

@[simp] theorem risk_signedOut (danger : Bool) (hazard : Hazard) :
    (r.risk danger hazard).signedOut = r.signedOut := by
  unfold Runtime.risk
  split <;> rfl

/-! ### What is kept -/

/-- Nobody signs in after the last logout, and no other call runs beside one. -/
structure SignsOut (r : Runtime) : Prop where
  leaves : ∀ call, r.signedOut = some call → Leaves call r.manager
  alone : ∀ call, r.logoutFuture = some call → ∀ (other : Nat) phase,
    r.manager.threads[other]? = some phase → other = call ∨ phase.Returned

/-- The load of the profile, if there is one, has returned. -/
def Finished (r : Runtime) : Prop := ∀ call ∈ r.profileFuture, (r.resultOf call).isSome = true

instance (r : Runtime) : Decidable (Finished r) :=
  inferInstanceAs (Decidable (∀ call ∈ r.profileFuture, (r.resultOf call).isSome = true))

theorem Finished.returned (h : Finished r) (hcall : r.profileFuture = some call) :
    ∃ result, r.manager.threads[call]? = some (.returned result) := by
  obtain ⟨result, hresult⟩ := Option.isSome_iff_exists.1 (h call hcall)
  exact ⟨result, resultOf_eq_some hresult⟩

/-- What a part of a frame does to the session manager, unless it begins to sign in or out. -/
structure Follows (r r' : Runtime) : Prop where
  manager : r'.manager = r.manager ∨ Auth.next r.manager .takeWarning = some r'.manager ∨
    r.screen.running = {} ∧ ∃ wanted, Auth.next r.manager (.begin (.request wanted)) = some r'.manager
  logoutFuture : ∀ call, r'.logoutFuture = some call → r.logoutFuture = some call
  signedOut : r'.signedOut = r.signedOut

theorem SignsOut.follow (h : Sound r) (hout : SignsOut r) (hfollows : Follows r r') : SignsOut r' := by
  obtain ⟨hmanager, hlogout, hsigned⟩ := hfollows
  refine ⟨fun call hcall => ?_, fun call hcall other phase hother => ?_⟩
  · have hleaves := hout.leaves call (hsigned ▸ hcall)
    obtain hsame | hwarning | ⟨-, wanted, hbegin⟩ := hmanager
    · rw [hsame]
      exact hleaves
    · refine hleaves.next ?_ ?_ ?_ hwarning
      · exact nofun
      · exact trivial
      · exact trivial
    · refine hleaves.next ?_ ?_ ?_ hbegin
      · intro operation heq
        cases heq
        exact id
      · exact trivial
      · exact trivial
  · have hcall := hlogout call hcall
    obtain hsame | hwarning | ⟨hidle, -⟩ := hmanager
    · rw [hsame] at hother
      exact hout.alone call hcall other phase hother
    · rw [← Option.some.inj hwarning] at hother
      exact hout.alone call hcall other phase hother
    · have hpending := h.logoutFuture
      rw [hidle, hcall] at hpending
      cases hpending

theorem Finished.follow (hfinished : Finished r) (hfollows : Follows r r')
    (hprofile : ∀ call, r'.profileFuture = some call → r.profileFuture = some call) : Finished r' := by
  intro call hcall
  obtain ⟨result, hresult⟩ := hfinished.returned (hprofile call hcall)
  suffices hkept : r'.manager.threads[call]? = some (.returned result) by
    unfold Runtime.resultOf
    rw [hkept]
    rfl
  obtain hsame | hwarning | ⟨-, wanted, hbegin⟩ := hfollows.manager
  · rw [hsame]
    exact hresult
  · rw [← Option.some.inj hwarning]
    exact hresult
  · rw [← Option.some.inj hbegin]
    exact Threads.State.getElem?_spawn_of hresult

/-! ### The parts of a frame -/

theorem follows_of_eq (hmanager : r'.manager = r.manager) (hlogout : r'.logoutFuture = r.logoutFuture)
    (hsigned : r'.signedOut = r.signedOut) : Follows r r' :=
  ⟨.inl hmanager, fun _ hcall => hlogout ▸ hcall, hsigned⟩

/-- A part of a frame that begins no load of the profile. -/
structure Continues (r r' : Runtime) : Prop extends Follows r r' where
  profileFuture : ∀ call, r'.profileFuture = some call → r.profileFuture = some call

theorem continues_refl (r : Runtime) : Continues r r := ⟨follows_of_eq rfl rfl rfl, fun _ => id⟩

theorem continues_takeSettingsLoad : Continues r r.takeSettingsLoad := by
  unfold Runtime.takeSettingsLoad
  split
  · exact ⟨follows_of_eq rfl rfl rfl, fun _ => id⟩
  · exact continues_refl r

theorem continues_takeSettingsSave : Continues r r.takeSettingsSave := by
  unfold Runtime.takeSettingsSave
  split
  · split
    · exact ⟨follows_of_eq rfl rfl rfl, fun _ => id⟩
    · exact ⟨follows_of_eq rfl rfl rfl, fun _ => id⟩
  · exact continues_refl r

theorem continues_takeProfile : Continues r r.takeProfile := by
  unfold Runtime.takeProfile
  split
  · dsimp only
    split_ifs
    · exact ⟨follows_of_eq rfl rfl rfl, fun _ hcall => nomatch hcall⟩
    · exact ⟨follows_of_eq rfl rfl rfl, fun _ hcall => nomatch hcall⟩
    · exact ⟨follows_of_eq rfl rfl rfl, fun _ hcall => nomatch hcall⟩
  · exact continues_refl r

theorem continues_takeLogout : Continues r r.takeLogout := by
  unfold Runtime.takeLogout
  split
  · exact ⟨⟨.inl rfl, fun _ hcall => (nomatch hcall), rfl⟩, fun _ => id⟩
  · exact continues_refl r

theorem continues_takeRestore : Continues r r.takeRestore := by
  unfold Runtime.takeRestore
  split
  · dsimp only
    split
    · split
      · exact ⟨follows_of_eq rfl rfl rfl, fun _ => id⟩
      · exact ⟨follows_of_eq rfl rfl rfl, fun _ => id⟩
    · exact ⟨follows_of_eq rfl rfl rfl, fun _ => id⟩
  · exact continues_refl r

theorem continues_takeAuth : Continues r r.takeAuth := by
  unfold Runtime.takeAuth
  split
  · dsimp only
    split
    · exact ⟨⟨.inr (.inl rfl), fun _ => id, rfl⟩, fun _ => id⟩
    · exact ⟨follows_of_eq rfl rfl rfl, fun _ => id⟩
  · exact continues_refl r

theorem continues_takeQueue (now : Nat) : Continues r (r.takeQueue now) := by
  unfold Runtime.takeQueue
  split
  · unfold Runtime.handleQueueResult
    split
    · split
      · exact ⟨follows_of_eq rfl rfl rfl, fun _ => id⟩
      · exact ⟨follows_of_eq rfl rfl rfl, fun _ => id⟩
    · split
      · exact ⟨follows_of_eq rfl rfl rfl, fun _ => id⟩
      · exact ⟨follows_of_eq rfl rfl rfl, fun _ => id⟩
      · dsimp only
        split
        · exact ⟨follows_of_eq rfl rfl rfl, fun _ => id⟩
        · refine ⟨follows_of_eq (risk_manager _ _) (risk_logoutFuture _ _) (risk_signedOut _ _), ?_⟩
          intro call hcall
          change (Runtime.risk _ _ _).profileFuture = some call at hcall
          rw [risk_profileFuture] at hcall
          exact hcall
  · exact continues_refl r

theorem continues_beginQueueRequest (hidle : r.screen.running = {}) (join : Bool) :
    Continues r (r.beginQueueRequest join) := by
  have hreset : (if join then r.resetNetwork else r).manager = r.manager ∧
      (if join then r.resetNetwork else r).logoutFuture = r.logoutFuture ∧
      (if join then r.resetNetwork else r).signedOut = r.signedOut ∧
      (if join then r.resetNetwork else r).profileFuture = r.profileFuture := by
    cases join with
    | false => exact ⟨rfl, rfl, rfl, rfl⟩
    | true => exact ⟨risk_manager _ _, risk_logoutFuture _ _, risk_signedOut _ _, risk_profileFuture _ _⟩
  obtain ⟨hmanager, hlogout, hsigned, hprofile⟩ := hreset
  unfold Runtime.beginQueueRequest
  generalize (if join then r.resetNetwork else r) = reset at hmanager hlogout hsigned hprofile ⊢
  refine ⟨⟨.inr (.inr ⟨hidle, if join && r.matchmakingCleanup.queueResetRequired then .leaveQueue
    else if join then .joinQueue else .queueStatus, ?_⟩), fun call hcall => ?_, ?_⟩, fun call hcall => ?_⟩
  · show _ = some (Threads.State.spawn (reset.risk _ _).manager _)
    rw [risk_manager, hmanager]
    rfl
  · change (reset.risk _ _).logoutFuture = some call at hcall
    rw [risk_logoutFuture, hlogout] at hcall
    exact hcall
  · exact (risk_signedOut _ _).trans hsigned
  · change (reset.risk _ _).profileFuture = some call at hcall
    rw [risk_profileFuture, hprofile] at hcall
    exact hcall

theorem continues_pollQueue (now : Nat) : Continues r (r.pollQueue now) := by
  unfold Runtime.pollQueue
  split_ifs with hpoll
  · refine continues_beginQueueRequest ?_ false
    rw [hpoll.1]
    rfl
  · exact continues_refl r

theorem Continues.risk (h : Continues r r') (danger : Bool) (hazard : Hazard) :
    Continues r (r'.risk danger hazard) := by
  cases danger with
  | false => exact h
  | true => exact ⟨⟨h.manager, h.logoutFuture, h.signedOut⟩, h.profileFuture⟩

theorem Continues.of_risk {danger : Bool} {hazard : Hazard} (h : Continues (r.risk danger hazard) r') :
    Continues r r' := by
  cases danger with
  | false => exact h
  | true => exact ⟨⟨h.manager, h.logoutFuture, h.signedOut⟩, h.profileFuture⟩

theorem continues_takeConnect (networkError : String) : Continues r (r.takeConnect networkError) := by
  unfold Runtime.takeConnect
  split
  · dsimp only
    split
    · exact ⟨follows_of_eq rfl rfl rfl, fun _ => id⟩
    · refine Continues.risk ?_ true .empty
      exact ⟨follows_of_eq rfl rfl rfl, fun _ => id⟩
  · have htaken : Continues r { r with connectFuture := none } :=
      ⟨follows_of_eq rfl rfl rfl, fun _ => id⟩
    have hrisk := htaken.risk r.network.isNone .empty
    exact ⟨⟨hrisk.manager, hrisk.logoutFuture, hrisk.signedOut⟩, hrisk.profileFuture⟩
  · exact continues_refl r

theorem continues_follow {frame : Frame} {network : Nat} {controller : MatchController}
    {update : Client.NetworkUpdate} : Continues r (r.follow frame network controller update) := by
  unfold Runtime.follow
  dsimp only
  split
  · split
    · exact ⟨follows_of_eq rfl rfl rfl, fun _ => id⟩
    · refine Continues.risk ?_ true .empty
      exact ⟨follows_of_eq rfl rfl rfl, fun _ => id⟩
  · split
    · exact ⟨follows_of_eq rfl rfl rfl, fun _ => id⟩
    · exact ⟨follows_of_eq rfl rfl rfl, fun _ => id⟩

theorem continues_play (frame : Frame) : Continues r (r.play frame) := by
  unfold Runtime.play
  split
  · exact continues_follow.of_risk
  · exact continues_refl r

theorem continues_backToMenu : Continues r r.backToMenu := ⟨follows_of_eq rfl rfl rfl, fun _ => id⟩

theorem continues_clickResult (hscreen : r.screen = .result) (frame : Frame)
    (controller : MatchController) : Continues r (r.clickResult frame controller) := by
  unfold Runtime.clickResult
  split
  · exact continues_backToMenu
  · refine continues_beginQueueRequest ?_ true
    rw [hscreen]
    rfl
  · exact continues_refl r

/-! ### The settings -/

/-- Nothing here has to do with the session manager. -/
structure Same (r r' : Runtime) : Prop where
  manager : r'.manager = r.manager
  logoutFuture : r'.logoutFuture = r.logoutFuture
  signedOut : r'.signedOut = r.signedOut
  profileFuture : r'.profileFuture = r.profileFuture

theorem Same.trans {r'' : Runtime} (h : Same r r') (h' : Same r' r'') : Same r r'' :=
  ⟨h'.manager.trans h.manager, h'.logoutFuture.trans h.logoutFuture, h'.signedOut.trans h.signedOut,
    h'.profileFuture.trans h.profileFuture⟩

theorem same_capture (click : Option Client.Action) : Same r (r.capture click) := by
  cases click with
  | none => exact ⟨rfl, rfl, rfl, rfl⟩
  | some action => exact ⟨rfl, rfl, rfl, rfl⟩

theorem same_captureKey (pressed : Option Client.InputCode) : Same r (r.captureKey pressed) := by
  unfold Runtime.captureKey
  split
  · split
    · exact ⟨rfl, rfl, rfl, rfl⟩
    · exact ⟨rfl, rfl, rfl, rfl⟩
  · exact ⟨rfl, rfl, rfl, rfl⟩

theorem same_beginSettingsSave : Same r r.beginSettingsSave :=
  ⟨risk_manager _ _, risk_logoutFuture _ _, risk_signedOut _ _, risk_profileFuture _ _⟩

theorem same_applySettings (action : SettingsAction) : Same r (r.applySettings action) := by
  cases action with
  | none => exact ⟨rfl, rfl, rfl, rfl⟩
  | back => exact ⟨rfl, rfl, rfl, rfl⟩
  | save =>
      unfold Runtime.applySettings
      dsimp only
      split_ifs
      · exact ⟨rfl, rfl, rfl, rfl⟩
      · exact same_beginSettingsSave
  | resetDefaults =>
      unfold Runtime.applySettings
      dsimp only
      split_ifs
      · exact ⟨rfl, rfl, rfl, rfl⟩
      · refine Same.trans ?_ same_beginSettingsSave
        exact ⟨rfl, rfl, rfl, rfl⟩

theorem same_clickSettings (frame : Frame) : Same r (r.clickSettings frame) :=
  ((same_capture _).trans (same_captureKey _)).trans (same_applySettings _)

/-! ### Signing in and out -/

theorem SignsOut.beginAuth (h : Sound r) (hout : SignsOut r) (hscreen : r.screen = .login)
    (registration : Bool) (login password : String) : SignsOut (r.beginAuth registration login password) := by
  unfold Runtime.beginAuth
  split
  · exact ⟨hout.leaves, hout.alone⟩
  · refine ⟨fun _ hcall => (nomatch hcall), fun call hcall => ?_⟩
    change (Runtime.risk _ _ _).logoutFuture = some call at hcall
    rw [risk_logoutFuture] at hcall
    have hpending := h.logoutFuture
    rw [hscreen, hcall] at hpending
    cases hpending

theorem SignsOut.beginLogout (h : Sound r) (hscreen : r.screen = .ready) (hfinished : Finished r) :
    SignsOut r.beginLogout := by
  have hrestore := h.restoreFuture
  have hauth := h.authFuture
  have hqueue := h.queueFuture
  have hlogout := h.logoutFuture
  rw [hscreen] at hrestore hauth hqueue hlogout
  have hsigners : r.signers = [] := by
    unfold Runtime.signers
    rw [eq_none_of_isSome hrestore, eq_none_of_isSome hauth]
    rfl
  unfold Runtime.beginLogout
  rw [risk_false hlogout]
  dsimp only
  rw [length_beginCall]
  refine ⟨fun call hcall => ?_, fun call hcall other phase hother => ?_⟩
  · obtain rfl := Option.some.inj hcall
    refine Auth.leaves_begin fun phase hin hsigns => ?_
    obtain ⟨i, hi⟩ := List.mem_iff_getElem?.1 hin
    have hsigner := h.signing i phase hi hsigns
    rw [hsigners] at hsigner
    exact absurd hsigner List.not_mem_nil
  · obtain rfl := Option.some.inj hcall
    obtain hold | ⟨rfl, -⟩ := Threads.State.getElem?_spawn hother
    · by_contra hruns
      obtain hin | hin | hin | hin | hin := mem_calls.1 (h.owned other phase hold fun hreturned =>
        hruns (.inr hreturned))
      · rw [eq_none_of_isSome hrestore] at hin
        cases hin
      · rw [eq_none_of_isSome hauth] at hin
        cases hin
      · rw [eq_none_of_isSome hqueue] at hin
        cases hin
      · obtain ⟨result, hresult⟩ := hfinished.returned hin
        rw [hresult] at hold
        cases hold
        exact hruns (.inr trivial)
      · rw [eq_none_of_isSome hlogout] at hin
        cases hin
    · exact .inl rfl

theorem drawMainMenu_click (ready error settingsReady : Bool) (click : MainMenuAction) :
    drawMainMenu ready error settingsReady click = .none ∨
      drawMainMenu ready error settingsReady click = click := by
  cases click with
  | none => exact .inl rfl
  | back =>
      cases error with
      | false => exact .inl rfl
      | true => exact .inr rfl
  | settings =>
      cases ready <;> cases settingsReady
      · exact .inl rfl
      · exact .inl rfl
      · exact .inl rfl
      · exact .inr rfl
  | findMatch | profile | logout =>
      cases ready with
      | false => exact .inl rfl
      | true => exact .inr rfl

theorem SignsOut.clickMainMenu (h : Sound r) (hout : SignsOut r) {frame : Frame}
    (hfinished : frame.menuClick = .logout → Finished r) : SignsOut (r.clickMainMenu frame) := by
  have hdrawn : ∀ action, drawMainMenu (r.screen = .ready) (r.screen = .error) r.settingsLoaded
      frame.menuClick = action → action.Drawn (r.screen = .ready) (r.screen = .error) r.settingsLoaded :=
    fun action haction => haction ▸ drawMainMenu_drawn frame.menuClick
  have hready : ∀ {screen : RuntimeState}, decide (r.screen = screen) = true → screen.running = {} →
      r.screen.running = {} := fun hscreen hrunning => (of_decide_eq_true hscreen).symm ▸ hrunning
  unfold Runtime.clickMainMenu
  split
  · rename_i hmenu
    exact hout.follow h (continues_beginQueueRequest (hready (hdrawn _ hmenu) rfl) true).toFollows
  · rename_i hmenu
    have hidle := hready (hdrawn _ hmenu) rfl
    unfold Runtime.beginProfileLoad
    split
    · exact ⟨hout.leaves, hout.alone⟩
    · refine hout.follow h ⟨.inr (.inr ⟨hidle, .profile, rfl⟩), fun _ => id, rfl⟩
  · exact ⟨hout.leaves, hout.alone⟩
  · rename_i hmenu
    obtain hnone | hclick := drawMainMenu_click (r.screen = .ready) (r.screen = .error) r.settingsLoaded
      frame.menuClick
    · cases hnone.symm.trans hmenu
    · exact SignsOut.beginLogout h (of_decide_eq_true (hdrawn _ hmenu)) (hfinished (hclick.symm.trans hmenu))
  · split
    · exact ⟨hout.leaves, hout.alone⟩
    · exact ⟨hout.leaves, hout.alone⟩
  · exact hout

theorem SignsOut.draw (h : Sound r) (hout : SignsOut r) {frame : Frame}
    (hfinished : frame.menuClick = .logout → Finished r) : SignsOut (r.draw frame) := by
  unfold Runtime.draw
  split
  · unfold Runtime.clickLogin drawLogin
    by_cases hscreen : r.screen = .login
    · rw [decide_eq_true hscreen, if_pos rfl]
      cases frame.loginClick with
      | none => exact hout
      | login => exact hout.beginAuth h hscreen false frame.login frame.password
      | register => exact hout.beginAuth h hscreen true frame.login frame.password
    · rw [decide_eq_false hscreen, if_neg Bool.false_ne_true]
      exact hout
  · split
    · exact hout
    · exact hout.follow h (continues_clickResult ‹_› frame _).toFollows
    · split
      · exact ⟨hout.leaves, hout.alone⟩
      · exact hout
    · obtain ⟨hmanager, hlogout, hsigned, -⟩ := same_clickSettings (r := r) frame
      exact hout.follow h (follows_of_eq hmanager hlogout hsigned)
    · exact hout.clickMainMenu h hfinished

theorem SignsOut.continues (h : Sound r) (hout : SignsOut r) {click : Prop} (hfinished : click → Finished r)
    (hcontinues : Continues r r') : SignsOut r' ∧ (click → Finished r') :=
  ⟨hout.follow h hcontinues.toFollows, fun hclick =>
    (hfinished hclick).follow hcontinues.toFollows hcontinues.profileFuture⟩

theorem SignsOut.frame (h : Sound r) (hout : SignsOut r) {frame : Frame}
    (hfinished : frame.menuClick = .logout → Finished r) : SignsOut (r.frame frame) := by
  obtain ⟨hout, hfinished⟩ := hout.continues h hfinished continues_takeSettingsLoad
  have h := h.takeSettingsLoad
  obtain ⟨hout, hfinished⟩ := hout.continues h hfinished continues_takeSettingsSave
  have h := h.takeSettingsSave
  obtain ⟨hout, hfinished⟩ := hout.continues h hfinished continues_takeProfile
  have h := h.takeProfile
  obtain ⟨hout, hfinished⟩ := hout.continues h hfinished continues_takeLogout
  have h := h.takeLogout
  obtain ⟨hout, hfinished⟩ := hout.continues h hfinished continues_takeRestore
  have h := h.takeRestore
  obtain ⟨hout, hfinished⟩ := hout.continues h hfinished continues_takeAuth
  have h := h.takeAuth
  obtain ⟨hout, hfinished⟩ := hout.continues h hfinished (continues_takeQueue frame.now)
  have h := h.takeQueue frame.now
  obtain ⟨hout, hfinished⟩ := hout.continues h hfinished (continues_pollQueue frame.now)
  have h := h.pollQueue frame.now
  obtain ⟨hout, hfinished⟩ := hout.continues h hfinished (continues_takeConnect frame.networkError)
  have h := h.takeConnect frame.networkError
  obtain ⟨hout, hfinished⟩ := hout.continues h hfinished (continues_play frame)
  have h := h.play frame
  unfold Runtime.frame
  exact hout.draw h hfinished

/-! ### Runs -/

/-- Nobody logs out while a profile is being loaded, and the storage does not fail. -/
def LogsOutAlone (r : Runtime) : Action → Prop
  | .frame frame => frame.menuClick = .logout → Finished r
  | .step call reply => (Auth.Action.step call reply).StorageWorks
  | _ => True

instance (r : Runtime) (action : Action) : Decidable (LogsOutAlone r action) := by
  unfold LogsOutAlone
  cases action <;> infer_instance

theorem returned_not_setsSession {phase : Phase} (h : phase.Returned) : ¬ phase.SetsSession := by
  cases phase with
  | returned result => exact id
  | _ => exact absurd h id

theorem SignsOut.clearsLast (h : Sound r) (hout : SignsOut r) (reply : Auth.Reply) :
    (Auth.Action.step call reply).ClearsLast r.manager := by
  unfold Auth.Action.ClearsLast
  dsimp only
  split
  · rename_i session hclear
    have hlogout := Option.mem_toList.1 (h.leaving call _ hclear trivial)
    intro phase hin
    obtain ⟨i, hi⟩ := List.mem_iff_getElem?.1 hin
    obtain rfl | hreturned := hout.alone call hlogout i phase hi
    · obtain rfl := Option.some.inj (hclear.symm.trans hi)
      exact id
    · exact returned_not_setsSession hreturned
  · exact trivial

theorem SignsOut.step (h : Sound r) (hout : SignsOut r) {reply : Auth.Reply} {manager : Auth.State}
    (hstorage : (Auth.Action.step call reply).StorageWorks)
    (hstep : Auth.next r.manager (.step call reply) = some manager) : SignsOut { r with manager } := by
  refine ⟨fun other hother => (hout.leaves other hother).next ?_ (hout.clearsLast h reply) hstorage hstep,
    fun other hother third phase hthird => ?_⟩
  · exact nofun
  · obtain ⟨_, hbegin, -⟩ | ⟨hwarning, -⟩ | ⟨_, _, before, m, after, heq, hbefore, hmoves, rfl⟩ :=
      Auth.next_cases hstep
    · cases hbegin
    · cases hwarning
    cases heq
    obtain ⟨rfl, -⟩ | ⟨-, hold⟩ := (Threads.State.getElem?_move hbefore).1 hthird
    · exact .inl ((hout.alone other hother third before hbefore).resolve_right (moves_not_returned hmoves))
    · exact hout.alone other hother third phase hold

theorem SignsOut.afterLeave (h : Sound r) (hout : SignsOut r) {task : QueueTask}
    (hqueue : r.queueFuture = some task) : SignsOut (r.afterLeave result) := by
  have hscreen := h.queuePending_iff.1 (Option.isSome_of_mem hqueue)
  have hlogout := h.logoutFuture
  rw [hscreen] at hlogout
  have hnone := eq_none_of_isSome hlogout
  unfold Runtime.afterLeave
  split
  · refine ⟨fun call hcall => ?_, absent hnone⟩
    refine (hout.leaves call hcall).next ?_ ?_ ?_ (show Auth.next r.manager
      (.begin (.request .joinQueue)) = some _ from rfl)
    · intro operation heq
      cases heq
      exact id
    · exact trivial
    · exact trivial
  · exact ⟨hout.leaves, hout.alone⟩

theorem SignsOut.next (h : Sound r) (hout : SignsOut r) {action : Action} (halone : LogsOutAlone r action)
    (hnext : r.next action = some r') : SignsOut r' := by
  cases action with
  | frame frame =>
      obtain rfl := Option.some.inj hnext
      exact hout.frame h halone
  | step call reply =>
      obtain ⟨manager, hstep, rfl⟩ := Option.map_eq_some_iff.1 hnext
      exact hout.step h halone hstep
  | queue =>
      dsimp only [Runtime.next] at hnext
      split at hnext
      · obtain ⟨result, -, rfl⟩ := Option.map_eq_some_iff.1 hnext
        exact hout.afterLeave h ‹_›
      · cases hnext
  | connect connected =>
      dsimp only [Runtime.next] at hnext
      split at hnext
      · cases hnext
        exact ⟨hout.leaves, hout.alone⟩
      · cases hnext
  | load loaded =>
      dsimp only [Runtime.next] at hnext
      split at hnext
      · cases hnext
        exact ⟨hout.leaves, hout.alone⟩
      · cases hnext
  | save result =>
      dsimp only [Runtime.next] at hnext
      split at hnext
      · cases hnext
        exact ⟨hout.leaves, hout.alone⟩
      · cases hnext

/-- In every run of the client in which nobody logs out while a profile is being loaded and the storage
does not fail: once a `Logout` has returned, and until somebody begins to sign in again, there is no
session and no refresh token is stored. -/
theorem logout_leaves_nothing {stored : Option String} {actions : List Action}
    (hrun : Transition.run Runtime.next (Runtime.start stored) actions = some r)
    (hmeets : Transition.Meets Runtime.next LogsOutAlone (Runtime.start stored) actions)
    (hsigned : r.signedOut = some call) (hresult : r.resultOf call = some result) :
    r.currentSession = none ∧ r.manager.memory.manager.stored = none := by
  have hboth : Sound r ∧ SignsOut r := by
    refine Transition.meets_invariant (P := fun r => Sound r ∧ SignsOut r) ?_ hrun hmeets
      ⟨start_sound stored, absent rfl, absent rfl⟩
    intro r action r' h halone hnext
    exact ⟨h.1.next hnext, h.2.next h.1 halone hnext⟩
  obtain ⟨phase, hphase, hleaves⟩ := (hboth.2.leaves call hsigned).logout
  obtain rfl := Option.some.inj (hphase.symm.trans (resultOf_eq_some hresult))
  exact ⟨hleaves.1.session, hleaves.2⟩

def logoutActions : List Action :=
  [.step 0 (.storage ""), .frame quietFrame, .frame { quietFrame with loginClick := .login },
    .step 1 (.auth ⟨⟨"id-a", "alice", "access", "refresh"⟩, "", 200⟩), .step 1 (.storage ""), .step 1 .none,
    .frame quietFrame, .frame { quietFrame with menuClick := .logout }, .step 2 .none, .step 2 .none,
    .step 2 (.revoked ⟨true, "", 204⟩), .step 2 (.storage ""), .frame quietFrame]

theorem logout_leaves_nothing_alice : ∃ r, Transition.run Runtime.next (Runtime.start none) logoutActions =
      some r ∧ r.screen = .login ∧ r.currentSession = none ∧ r.manager.memory.manager.stored = none := by
  have hends : (Transition.run Runtime.next (Runtime.start none) logoutActions).map (fun r =>
      (r.screen, r.signedOut, (r.resultOf 2).isSome)) = some (.login, some 2, true) := by
    decide +kernel
  have hmeets : Transition.Meets Runtime.next LogsOutAlone (Runtime.start none) logoutActions := by
    decide +kernel
  obtain ⟨r, hrun, hend⟩ := Option.map_eq_some_iff.1 hends
  obtain ⟨hscreen, hend⟩ := Prod.mk.inj hend
  obtain ⟨hsigned, hreturned⟩ := Prod.mk.inj hend
  obtain ⟨result, hresult⟩ := Option.isSome_iff_exists.1 hreturned
  exact ⟨r, hrun, hscreen, logout_leaves_nothing hrun hmeets hsigned hresult⟩

end PvpDuel.App
