import PvpDuel.App.Order

/-!
# Frames

What each part of a frame does to the tasks, the transports and the queue.
-/

namespace PvpDuel.App

open Auth (Operation Phase QueueStatus Result Value)
open Client (MatchController)

variable {r : Runtime} {call now : Nat} {result : Result Value}

theorem resultOf_eq_some (h : r.resultOf call = some result) :
    r.manager.threads[call]? = some (.returned result) := by
  unfold Runtime.resultOf at h
  split at h
  · rename_i hcall
    cases h
    exact hcall
  · cases h

theorem eq_none_of_isSome {α : Type} {o : Option α} (h : o.isSome = false) : o = none :=
  Option.isSome_eq_false_iff.1 h |> Option.isNone_iff_eq_none.1

theorem length_beginCall {operation : Operation} :
    (r.beginCall operation).manager.threads.length - 1 = r.manager.threads.length := by
  show (r.manager.threads ++ [operation.phase]).length - 1 = _
  rw [List.length_append, List.length_singleton, Nat.add_sub_cancel]

theorem absent {α : Type} {o : Option α} {P : α → Prop} (h : o = none) (c : α) (hc : o = some c) : P c := by
  rw [h] at hc
  cases hc

/-! ### Beginning a task -/

theorem Sound.beginAuth (h : Sound r) (hscreen : r.screen = .login) (registration : Bool)
    (login password : String) : Sound (r.beginAuth registration login password) := by
  have htasks := h.tasks
  have hauth := h.authFuture
  rw [hscreen] at htasks hauth
  have hnone := eq_none_of_isSome hauth
  unfold Runtime.beginAuth
  split
  · exact { h with }
  · rw [risk_false hauth]
    dsimp only
    rw [length_beginCall]
    refine
      { h with
        tasks := ?_
        shown := trivial
        loaded := fun hcase => h.loaded (hcase.imp_right nofun)
        owned := ?_
        signing := ?_
        leaving := h.leaving.concat (List.Subset.refl _) fun hleaves => ?_ }
    · show Running.mk r.restoreFuture.isSome true r.queueFuture.isSome r.connectFuture.isSome
        r.logoutFuture.isSome = { auth := true }
      obtain ⟨hrestore, -, hqueue, hconnect, hlogout⟩ := Running.mk.inj htasks
      rw [hrestore, hqueue, hconnect, hlogout]
    · refine h.owned.concat (calls_subset [] (fun _ => .inr) (absent hnone) (fun _ => .inr) (fun _ => .inr)
        fun _ => .inr) fun _ => ?_
      simp [Runtime.calls]
    · refine h.signing.concat (signers_subset [] (fun _ => .inr) (absent hnone)) fun _ => ?_
      simp [Runtime.signers]
    · cases registration <;> exact absurd hleaves id

theorem Sound.joins (h : Sound r) {join reset : Bool}
    (hreset : join = true → reset = false → owes r.events = false) :
    Clean (if join && !reset then r.events ++ [.joins] else r.events) ∧
      owes (if join && !reset then r.events ++ [.joins] else r.events) = owes r.events := by
  cases hjoins : join && !reset with
  | false => exact ⟨h.clean, rfl⟩
  | true =>
      obtain ⟨hjoin, hreset'⟩ := (Bool.and_eq_true _ _).mp hjoins
      exact ⟨h.clean.concat fun _ => hreset hjoin ((Bool.not_eq_true' _).mp hreset'), owes_concat _ _⟩

/-- The task of the queue begins, while no screen waits for another task. -/
theorem Sound.startQueueTask (h : Sound r) (hidle : r.screen.running = {}) {network : Option Nat}
    {controller : Option (Nat × MatchController)} (hcontroller : controller = none) {join reset : Bool}
    (hreset : join = true → reset = false → owes r.events = false) :
    Sound (Runtime.startQueueTask { r with network, matchController := controller } join reset) := by
  have htasks := h.tasks
  rw [hidle] at htasks
  obtain ⟨hrestore, hauth, hqueue, hconnect, hlogout⟩ := Running.mk.inj htasks
  have hnone := eq_none_of_isSome hqueue
  unfold Runtime.startQueueTask
  rw [risk_false hqueue]
  dsimp only
  rw [length_beginCall]
  refine
    { h with
      tasks := ?_
      refers := fun _ _ hsome => absurd (hcontroller.symm.trans hsome) nofun
      shown := hcontroller
      loaded := fun hcase => h.loaded (hcase.imp_right nofun)
      clean := ?_
      owing := fun howing => h.owing ?_
      settled := fun hsent call heq => ?_
      refusal := fun error heq => ?_
      owned := ?_
      signing := ?_
      leaving := h.leaving.concat (List.Subset.refl _) fun hleaves => absurd hleaves id }
  · show Running.mk r.restoreFuture.isSome r.authFuture.isSome true r.connectFuture.isSome
      r.logoutFuture.isSome = { queue := true }
    rw [hrestore, hauth, hconnect, hlogout]
  · exact (h.joins hreset).1
  · rw [← (h.joins hreset).2]
    exact howing
  · change reset = true at hsent
    rw [hsent] at heq
    cases heq
  · cases reset <;> cases heq
  · refine h.owned.concat (calls_subset [] (fun _ => .inr) (fun _ => .inr) ?_ (fun _ => .inr)
      fun _ => .inr) fun _ => ?_
    · rw [hnone]
      exact fun _ hc => nomatch hc
    · cases reset <;> simp [Runtime.calls, QueueTask.waitsFor]
  · exact h.signing.concat (signers_subset [] (fun _ => .inr) fun _ => .inr) fun hsigns => absurd hsigns id

theorem Sound.beginQueueRequest (h : Sound r) (hidle : r.screen.running = {}) {join : Bool}
    (hjoin : join = false → r.matchController = none) : Sound (r.beginQueueRequest join) := by
  have hconnect := h.connectFuture
  rw [hidle] at hconnect
  unfold Runtime.beginQueueRequest
  cases join with
  | false => exact h.startQueueTask hidle (hjoin rfl) nofun
  | true =>
      show Sound (r.resetNetwork.startQueueTask true r.matchmakingCleanup.queueResetRequired)
      unfold Runtime.resetNetwork
      rw [risk_false hconnect]
      refine h.startQueueTask hidle rfl fun _ hrequired => ?_
      by_contra howing
      rw [h.owing (Bool.eq_true_of_not_eq_false howing)] at hrequired
      cases hrequired

theorem Sound.beginProfileLoad (h : Sound r) (hidle : r.screen.running = {}) :
    Sound r.beginProfileLoad := by
  unfold Runtime.beginProfileLoad
  cases hprofile : r.profileFuture with
  | some call =>
      exact { h with
        tasks := h.tasks.trans hidle
        shown := trivial
        loaded := fun hcase => h.loaded (hcase.imp_right nofun) }
  | none =>
      dsimp only [Option.isSome_none, Bool.false_eq_true, if_false]
      rw [if_neg Bool.false_ne_true, length_beginCall]
      exact { h with
        tasks := h.tasks.trans hidle
        shown := trivial
        loaded := fun hcase => h.loaded (hcase.imp_right nofun)
        owned := h.owned.concat (calls_subset [] (fun _ => .inr) (fun _ => .inr) (fun _ => .inr)
          (absent hprofile) fun _ => .inr) fun _ => by simp [Runtime.calls]
        signing := h.signing.concat (signers_subset [] (fun _ => .inr) fun _ => .inr)
          fun hsigns => absurd hsigns id
        leaving := h.leaving.concat (List.Subset.refl _) fun hleaves => absurd hleaves id }

theorem Sound.beginLogout (h : Sound r) (hidle : r.screen.running = {}) : Sound r.beginLogout := by
  have htasks := h.tasks
  rw [hidle] at htasks
  obtain ⟨hrestore, hauth, hqueue, hconnect, hlogout⟩ := Running.mk.inj htasks
  unfold Runtime.beginLogout
  rw [risk_false hlogout]
  dsimp only
  rw [length_beginCall]
  refine
    { h with
      tasks := ?_
      shown := trivial
      loaded := fun hcase => h.loaded (hcase.imp_right nofun)
      owned := ?_
      signing := ?_
      leaving := h.leaving.concat ?_ fun _ => List.mem_singleton_self _ }
  · show Running.mk r.restoreFuture.isSome r.authFuture.isSome r.queueFuture.isSome r.connectFuture.isSome
      true = { logout := true }
    rw [hrestore, hauth, hqueue, hconnect]
  · refine h.owned.concat (calls_subset [] (fun _ => .inr) (fun _ => .inr) (fun _ => .inr) (fun _ => .inr)
      (absent (eq_none_of_isSome hlogout))) fun _ => ?_
    simp [Runtime.calls]
  · exact h.signing.concat (signers_subset [] (fun _ => .inr) fun _ => .inr) fun hsigns => absurd hsigns id
  · rw [eq_none_of_isSome hlogout]
    exact List.nil_subset _

theorem Sound.beginSettingsSave (h : Sound r) (hsave : r.settingsSaveFuture = none)
    (hloaded : r.settingsLoaded = true) : Sound r.beginSettingsSave := by
  unfold Runtime.beginSettingsSave
  rw [risk_false (by rw [hsave]; rfl)]
  exact { h with saving := rfl, loaded := fun _ => hloaded }

/-! ### Taking what is ready -/

theorem Sound.takeSettingsLoad (h : Sound r) : Sound r.takeSettingsLoad := by
  unfold Runtime.takeSettingsLoad
  split
  · exact { h with loading := rfl, loaded := fun _ => rfl }
  · exact h

theorem Sound.takeSettingsSave (h : Sound r) : Sound r.takeSettingsSave := by
  unfold Runtime.takeSettingsSave
  split
  · split
    · exact { h with saving := rfl, loaded := fun hcase => h.loaded (hcase.imp_left nofun) }
    · exact { h with saving := rfl, loaded := fun hcase => h.loaded (hcase.imp_left nofun) }
  · exact h

theorem taken_eq_some {α β : Type} {screen : RuntimeState} {future : Option α} {ready : α → Option β}
    {b : β} (h : (if r.screen = screen then future.bind ready else none) = some b) :
    r.screen = screen ∧ ∃ a, future = some a ∧ ready a = some b := by
  split_ifs at h with hscreen
  exact ⟨hscreen, Option.bind_eq_some_iff.1 h⟩

theorem Sound.goes (h : Sound r) (hidle : r.screen.running = {}) (screen : RuntimeState)
    (hscreen : screen.running = {}) (hshown : Shown screen r.network r.matchController)
    (hsettings : screen ≠ .settings) : Sound { r with screen } :=
  { h with
    tasks := h.tasks.trans (hidle.trans hscreen.symm)
    shown := hshown
    loaded := fun hcase => h.loaded (hcase.imp_right fun heq => absurd heq hsettings) }

theorem Sound.takeProfile (h : Sound r) : Sound r.takeProfile := by
  unfold Runtime.takeProfile
  split
  · rename_i result htaken
    obtain ⟨hscreen, call, hcall, hresult⟩ := taken_eq_some htaken
    have hidle : r.screen.running = {} := by
      rw [hscreen]
      rfl
    have hreturned := resultOf_eq_some hresult
    have htaken : Sound { r with profileFuture := none } :=
      { h with
        owned := h.owned.drop hreturned (not_not_intro trivial) (calls_subset [call] (fun _ => .inr)
          (fun _ => .inr) (fun _ => .inr) (fun c hc => .inl ?_) fun _ => .inr)
        signing := h.signing }
    · dsimp only
      split_ifs
      · exact { htaken with }
      · exact { htaken.goes hidle .login rfl trivial nofun with }
      · exact { htaken with }
    · obtain rfl := Option.some.inj (hcall.symm.trans hc)
      exact List.mem_singleton_self call
  · exact h

theorem mem_of_taken {future : Option Nat} {P : Nat → Prop} (hcall : future = some call) (c : Nat)
    (hc : future = some c) : c ∈ [call] ∨ P c := by
  obtain rfl := Option.some.inj (hcall.symm.trans hc)
  exact .inl (List.mem_singleton_self call)

theorem Sound.logoutTaken (h : Sound r) (hscreen : r.screen = .logoutPending)
    (hcall : r.logoutFuture = some call) (hresult : r.resultOf call = some result) :
    Sound { r with logoutFuture := none, screen := .login } := by
  have htasks := h.tasks
  rw [hscreen] at htasks
  obtain ⟨hrestore, hauth, hqueue, hconnect, -⟩ := Running.mk.inj htasks
  refine
    { h with
      tasks := ?_
      shown := trivial
      loaded := fun hcase => h.loaded (hcase.imp_right nofun)
      owned := h.owned.drop (resultOf_eq_some hresult) (not_not_intro trivial) (calls_subset [call]
        (fun _ => .inr) (fun _ => .inr) (fun _ => .inr) (fun _ => .inr) (mem_of_taken hcall))
      signing := h.signing
      leaving := h.leaving.drop (resultOf_eq_some hresult) id fun c hc => ?_ }
  · show Running.mk r.restoreFuture.isSome r.authFuture.isSome r.queueFuture.isSome r.connectFuture.isSome
      false = {}
    rw [hrestore, hauth, hqueue, hconnect]
  · rw [hcall] at hc
    exact hc

theorem Sound.takeLogout (h : Sound r) : Sound r.takeLogout := by
  unfold Runtime.takeLogout
  split
  · rename_i result htaken
    obtain ⟨hscreen, call, hcall, hresult⟩ := taken_eq_some htaken
    exact { h.logoutTaken hscreen hcall hresult with }
  · exact h

theorem Sound.restoreTaken (h : Sound r) (hscreen : r.screen = .restoring)
    (hcall : r.restoreFuture = some call) (hresult : r.resultOf call = some result) :
    Sound { r with restoreFuture := none, screen := .login } := by
  have htasks := h.tasks
  rw [hscreen] at htasks
  obtain ⟨-, hauth, hqueue, hconnect, hlogout⟩ := Running.mk.inj htasks
  refine
    { h with
      tasks := ?_
      shown := trivial
      loaded := fun hcase => h.loaded (hcase.imp_right nofun)
      owned := h.owned.drop (resultOf_eq_some hresult) (not_not_intro trivial) (calls_subset [call]
        (mem_of_taken hcall) (fun _ => .inr) (fun _ => .inr) (fun _ => .inr) (fun _ => .inr))
      signing := h.signing.drop (resultOf_eq_some hresult) id (signers_subset [call] (mem_of_taken hcall)
        fun _ => .inr) }
  show Running.mk false r.authFuture.isSome r.queueFuture.isSome r.connectFuture.isSome
    r.logoutFuture.isSome = {}
  rw [hauth, hqueue, hconnect, hlogout]

theorem Sound.takeRestore (h : Sound r) : Sound r.takeRestore := by
  unfold Runtime.takeRestore
  split
  · rename_i result htaken
    obtain ⟨hscreen, call, hcall, hresult⟩ := taken_eq_some htaken
    have htaken := h.restoreTaken hscreen hcall hresult
    dsimp only
    split
    · split
      · exact { htaken.goes rfl .ready rfl trivial nofun with }
      · exact { htaken with }
    · exact { htaken with }
  · exact h

theorem Sound.authTaken (h : Sound r) (hscreen : r.screen = .authPending)
    (hcall : r.authFuture = some call) (hresult : r.resultOf call = some result) :
    Sound { r with authFuture := none, screen := .login } := by
  have htasks := h.tasks
  rw [hscreen] at htasks
  obtain ⟨hrestore, -, hqueue, hconnect, hlogout⟩ := Running.mk.inj htasks
  refine
    { h with
      tasks := ?_
      shown := trivial
      loaded := fun hcase => h.loaded (hcase.imp_right nofun)
      owned := h.owned.drop (resultOf_eq_some hresult) (not_not_intro trivial) (calls_subset [call]
        (fun _ => .inr) (mem_of_taken hcall) (fun _ => .inr) (fun _ => .inr) (fun _ => .inr))
      signing := h.signing.drop (resultOf_eq_some hresult) id (signers_subset [call] (fun _ => .inr)
        (mem_of_taken hcall)) }
  show Running.mk r.restoreFuture.isSome false r.queueFuture.isSome r.connectFuture.isSome
    r.logoutFuture.isSome = {}
  rw [hrestore, hqueue, hconnect, hlogout]

theorem Sound.takeAuth (h : Sound r) : Sound r.takeAuth := by
  unfold Runtime.takeAuth
  split
  · rename_i result htaken
    obtain ⟨hscreen, call, hcall, hresult⟩ := taken_eq_some htaken
    have htaken := h.authTaken hscreen hcall hresult
    dsimp only
    split
    · exact { htaken.goes rfl .ready rfl trivial nofun with }
    · exact { htaken with }
  · exact h

theorem queueResult_cases {task : QueueTask} {answer : Result QueueStatus}
    (hready : r.queueResult task = some answer) :
    (∃ call result, task = .asking call ∧ r.resultOf call = some result ∧
      answer = result.map queueOf) ∨ ∃ error, task = .refused error ∧ answer = ⟨{}, error, 0⟩ := by
  cases task with
  | leaving call => cases hready
  | asking call =>
      obtain ⟨result, hresult, rfl⟩ := Option.map_eq_some_iff.1 hready
      exact .inl ⟨call, result, rfl, hresult, rfl⟩
  | refused error => exact .inr ⟨error, rfl, (Option.some.inj hready).symm⟩

theorem Sound.queueTaken (h : Sound r) (hscreen : r.screen = .queuePending) {task : QueueTask}
    (htask : r.queueFuture = some task) {answer : Result QueueStatus}
    (hready : r.queueResult task = some answer) :
    Sound { r.settleQueue answer with screen := .ready } ∧ r.matchController = none := by
  have htasks := h.tasks
  have hshown := h.shown
  rw [hscreen] at htasks hshown
  obtain ⟨hrestore, hauth, -, hconnect, hlogout⟩ := Running.mk.inj htasks
  refine ⟨?_, hshown⟩
  refine
    { h with
      tasks := ?_
      shown := trivial
      loaded := fun hcase => h.loaded (hcase.imp_right nofun)
      owing := fun howing => ?_
      settled := fun hsent => (Bool.false_ne_true hsent).elim
      refusal := nofun
      owned := ?_
      signing := h.signing }
  · show Running.mk r.restoreFuture.isSome r.authFuture.isSome false r.connectFuture.isSome
      r.logoutFuture.isSome = {}
    rw [hrestore, hauth, hconnect, hlogout]
  · show (if r.queueRequestReset ∧ answer.ok then r.matchmakingCleanup.queueResetSucceeded
      else r.matchmakingCleanup).queueResetRequired = true
    split_ifs with hsucceeded
    · exfalso
      obtain ⟨call, result, rfl, -, -⟩ | ⟨error, rfl, rfl⟩ := queueResult_cases hready
      · have hsettled := h.settled hsucceeded.1 call htask
        exact absurd (hsettled.symm.trans howing) nofun
      · exact h.refusal error htask hsucceeded.2
    · exact h.owing howing
  · obtain ⟨call, result, rfl, hresult, -⟩ | ⟨error, rfl, -⟩ := queueResult_cases hready
    · refine h.owned.drop (resultOf_eq_some hresult) (not_not_intro trivial) (calls_subset [call]
        (fun _ => .inr) (fun _ => .inr) (mem_of_taken ?_) (fun _ => .inr) (fun _ => .inr))
      rw [htask]
      rfl
    · refine h.owned.mono (calls_subset [] (fun _ => .inr) (fun _ => .inr) (absent ?_) (fun _ => .inr)
        (fun _ => .inr))
      rw [htask]
      rfl

/-- What is done with the result, given the state that comes back to the menu. -/
theorem Sound.handleQueueResult (h : Sound { r with screen := .ready }) (hcontroller : r.matchController = none)
    (now : Nat) (answer : Result QueueStatus) : Sound (r.handleQueueResult now answer) := by
  unfold Runtime.handleQueueResult
  split
  · split
    · exact { h.goes rfl .login rfl trivial nofun with }
    · exact { h.goes rfl .error rfl trivial nofun with }
  · split
    · exact { h.goes rfl .waiting rfl hcontroller nofun with }
    · exact { h with }
    · have haccepted : Sound { r with
          matchmakingCleanup := r.matchmakingCleanup.matchAccepted
          events := r.events ++ [Event.accepted]
          screen := .ready } :=
        { h with
          clean := h.clean.concat nofun
          owing := fun _ => rfl
          settled := fun hsent call hqueue => absurd (h.settled hsent call hqueue) ?_ }
      · dsimp only
        split
        · exact { haccepted.goes rfl .error rfl trivial nofun with }
        · have hconnect := h.connectFuture
          rw [risk_false]
          · refine
              { haccepted with
                tasks := ?_
                refers := fun _ _ hsome => absurd (hcontroller.symm.trans hsome) nofun
                shown := ⟨hcontroller, nofun⟩
                loaded := fun hcase => haccepted.loaded (hcase.imp_right nofun) }
            obtain ⟨hrestore, hauth, hqueue, -, hlogout⟩ := Running.mk.inj h.tasks
            show Running.mk r.restoreFuture.isSome r.authFuture.isSome r.queueFuture.isSome true
              r.logoutFuture.isSome = { connect := true }
            rw [hrestore, hauth, hqueue, hlogout]
          · show (r.matchController.isSome || r.connectFuture.isSome) = false
            rw [hcontroller, hconnect]
            rfl
      · have hnone := eq_none_of_isSome h.queueFuture
        exact absurd (hnone.symm.trans hqueue) nofun

theorem Sound.takeQueue (h : Sound r) (now : Nat) : Sound (r.takeQueue now) := by
  unfold Runtime.takeQueue
  split
  · rename_i answer htaken
    obtain ⟨hscreen, task, htask, hready⟩ := taken_eq_some htaken
    obtain ⟨htaken, hcontroller⟩ := h.queueTaken hscreen htask hready
    exact Sound.handleQueueResult htaken hcontroller now answer
  · exact h

theorem Sound.pollQueue (h : Sound r) (now : Nat) : Sound (r.pollQueue now) := by
  unfold Runtime.pollQueue
  split_ifs with hpoll
  · have hshown := h.shown
    rw [hpoll.1] at hshown
    refine h.beginQueueRequest ?_ fun _ => hshown
    rw [hpoll.1]
    rfl
  · exact h

theorem Sound.takeConnect (h : Sound r) (networkError : String) : Sound (r.takeConnect networkError) := by
  unfold Runtime.takeConnect
  split
  · rename_i htaken
    split_ifs at htaken with hscreen
    have htasks := h.tasks
    have hshown := h.shown
    rw [hscreen] at htasks hshown
    obtain ⟨hrestore, hauth, hqueue, -, hlogout⟩ := Running.mk.inj htasks
    dsimp only
    split
    · rename_i network hnetwork
      refine
        { h with
          tasks := ?_
          refers := fun other controller hsome => ?_
          shown := ⟨network, _, rfl, rfl⟩
          loaded := fun hcase => h.loaded (hcase.imp_right nofun) }
      · show Running.mk r.restoreFuture.isSome r.authFuture.isSome r.queueFuture.isSome false
          r.logoutFuture.isSome = {}
        rw [hrestore, hauth, hqueue, hlogout]
      · obtain ⟨rfl, -⟩ := Prod.mk.inj (Option.some.inj hsome)
        exact hnetwork
    · rename_i hnetwork
      exact absurd hnetwork hshown.2
  · rename_i htaken
    split_ifs at htaken with hscreen
    have htasks := h.tasks
    have hshown := h.shown
    rw [hscreen] at htasks hshown
    obtain ⟨hrestore, hauth, hqueue, -, hlogout⟩ := Running.mk.inj htasks
    rw [risk_false]
    · refine
        { h with
          tasks := ?_
          shown := trivial
          loaded := fun hcase => h.loaded (hcase.imp_right nofun) }
      show Running.mk r.restoreFuture.isSome r.authFuture.isSome r.queueFuture.isSome false
        r.logoutFuture.isSome = {}
      rw [hrestore, hauth, hqueue, hlogout]
    · show r.network.isNone = false
      rw [Option.isNone_eq_false_iff, Option.isSome_iff_ne_none]
      exact hshown.2
  · exact h

/-! ### Playing -/

theorem fixedTick_matchEnd (c : MatchController) (frame : Client.InputFrame) :
    (c.fixedTick frame).1.model.matchEnd = c.model.matchEnd := by
  have henqueue : (c.enqueueActions frame).model.matchEnd = c.model.matchEnd := by
    unfold MatchController.enqueueActions MatchController.enqueueLightAttack
    split_ifs <;> rfl
  unfold MatchController.fixedTick
  split_ifs
  · unfold MatchController.advanceTick Client.MatchModel.predict
    exact henqueue
  · rfl

theorem applySnapshot_matchEnd (m : Client.MatchModel) (snapshot : Gamev1.WorldSnapshot) :
    (m.applySnapshot snapshot).matchEnd = m.matchEnd := by
  unfold Client.MatchModel.applySnapshot
  split_ifs
  · rfl
  · exact (m.applyPlayers_fields snapshot.players).2.2

theorem pollNetwork_matchEnd (c : MatchController) (frame : Frame) :
    (c.pollNetwork frame.start frame.snapshot frame.matchEnd frame.connected).2.model.matchEnd =
      frame.matchEnd.or c.model.matchEnd := by
  have hstart : ∀ m : Client.MatchModel,
      (frame.start.toList.foldl Client.MatchModel.applyStart m).matchEnd = m.matchEnd := by
    intro m
    cases frame.start with
    | none => rfl
    | some start => exact applySnapshot_matchEnd _ start.initialSnapshot
  have hsnapshot : ∀ m : Client.MatchModel,
      (frame.snapshot.toList.foldl Client.MatchModel.applySnapshot m).matchEnd = m.matchEnd := by
    intro m
    cases frame.snapshot with
    | none => rfl
    | some snapshot => exact applySnapshot_matchEnd m snapshot
  show (c.model.poll frame.start frame.snapshot frame.matchEnd).matchEnd = _
  unfold Client.MatchModel.poll
  cases frame.matchEnd with
  | none => exact (hsnapshot _).trans (hstart _)
  | some matchEnd => rfl

theorem Sound.follow (h : Sound r) (hscreen : r.screen = .playing) {frame : Frame} {network : Nat}
    {controller : MatchController} {update : Client.NetworkUpdate} (hrefers : r.network = some network)
    (hended : update.ended = controller.model.matchEnd.isSome) :
    Sound (r.follow frame network controller update) := by
  have hidle : r.screen.running = {} := by
    rw [hscreen]
    rfl
  have hkept : ∀ c : MatchController, ∀ other c', some (network, c) = some (other, c') →
      r.network = some other := by
    intro c other c' heq
    obtain ⟨rfl, -⟩ := Prod.mk.inj (Option.some.inj heq)
    exact hrefers
  unfold Runtime.follow
  dsimp only
  rw [hended]
  cases hend : controller.model.matchEnd with
  | some matchEnd =>
      exact { h with
        tasks := h.tasks.trans hidle
        refers := hkept _
        shown := ⟨network, controller, rfl, by rw [hend]; exact Option.some_ne_none matchEnd⟩
        loaded := fun hcase => h.loaded (hcase.imp_right nofun)
        owing := fun _ => rfl }
  | none =>
      dsimp only [Option.isSome_none, Bool.false_eq_true]
      rw [if_neg Bool.false_ne_true]
      cases update.disconnected with
      | true =>
          exact { h with
            tasks := h.tasks.trans hidle
            refers := hkept _
            shown := trivial
            loaded := fun hcase => h.loaded (hcase.imp_right nofun) }
      | false =>
          refine { h with refers := hkept _, shown := ?_ }
          show Shown r.screen r.network _
          rw [hscreen]
          refine ⟨network, _, rfl, ?_⟩
          have hticks : ∀ (inputFrames : List Client.InputFrame) (c : MatchController),
              (inputFrames.foldl (fun c inputFrame => (c.fixedTick inputFrame).1) c).model.matchEnd =
                c.model.matchEnd := by
            intro inputFrames
            induction inputFrames with
            | nil => exact fun _ => rfl
            | cons first rest ih => exact fun c => (ih _).trans (fixedTick_matchEnd c first)
          exact (hticks frame.inputFrames controller).trans hend

theorem Sound.play (h : Sound r) (frame : Frame) : Sound (r.play frame) := by
  unfold Runtime.play
  split
  · rename_i network controller htaken
    split_ifs at htaken with hscreen
    have hshown := h.shown
    rw [hscreen] at hshown
    obtain ⟨_, _, hsome, hend⟩ := hshown
    obtain ⟨rfl, rfl⟩ := Prod.mk.inj (Option.some.inj (htaken.symm.trans hsome))
    have hrefers := h.refers network controller htaken
    dsimp only
    rw [risk_false (decide_eq_false (not_not_intro hrefers))]
    refine h.follow hscreen hrefers ?_
    rw [pollNetwork_matchEnd, hend, Option.or_none]
    rfl
  · exact h

/-! ### Drawing -/

theorem Sound.clickLogin (h : Sound r) (frame : Frame) : Sound (r.clickLogin frame) := by
  unfold Runtime.clickLogin drawLogin
  by_cases hscreen : r.screen = .login
  · rw [decide_eq_true hscreen, if_pos rfl]
    cases frame.loginClick with
    | none => exact h
    | login => exact h.beginAuth hscreen false frame.login frame.password
    | register => exact h.beginAuth hscreen true frame.login frame.password
  · rw [decide_eq_false hscreen, if_neg Bool.false_ne_true]
    exact h

theorem Sound.backToMenu (h : Sound r) (hidle : r.screen.running = {}) : Sound r.backToMenu :=
  { h.goes hidle .ready rfl trivial nofun with }

theorem Sound.clickResult (h : Sound r) (hscreen : r.screen = .result) (frame : Frame)
    (controller : MatchController) : Sound (r.clickResult frame controller) := by
  have hidle : r.screen.running = {} := by
    rw [hscreen]
    rfl
  unfold Runtime.clickResult
  split
  · exact h.backToMenu hidle
  · exact h.beginQueueRequest hidle nofun
  · exact h

theorem Sound.captured (h : Sound r) (click : Option Client.Action) (pressed : Option Client.InputCode) :
    Sound ((r.capture click).captureKey pressed) ∧
      ((r.capture click).captureKey pressed).screen = r.screen := by
  have hcapture : Sound (r.capture click) ∧ (r.capture click).screen = r.screen := by
    cases click with
    | none => exact ⟨h, rfl⟩
    | some action => exact ⟨{ h with }, rfl⟩
  obtain ⟨hcapture, hscreen⟩ := hcapture
  rw [← hscreen]
  unfold Runtime.captureKey
  split
  · split
    · exact ⟨{ hcapture with }, rfl⟩
    · exact ⟨{ hcapture with }, rfl⟩
  · exact ⟨hcapture, rfl⟩

theorem Sound.applySettings (h : Sound r) (hscreen : r.screen = .settings) (action : SettingsAction) :
    Sound (r.applySettings action) := by
  have hidle : r.screen.running = {} := by
    rw [hscreen]
    rfl
  have hloaded := h.loaded (.inr hscreen)
  cases action with
  | none => exact h
  | save =>
      show Sound (if r.settingsSaveFuture.isSome then r else r.beginSettingsSave)
      split_ifs with hsave
      · exact h
      · exact h.beginSettingsSave (eq_none_of_isSome (Bool.eq_false_iff.2 hsave)) hloaded
  | resetDefaults =>
      show Sound (if r.settingsSaveFuture.isSome then r else Runtime.beginSettingsSave _)
      split_ifs with hsave
      · exact h
      · have hreset : Sound { r with
            settingsDraft := Client.InputBindings.defaults, captureAction := none } := { h with }
        exact hreset.beginSettingsSave (eq_none_of_isSome (Bool.eq_false_iff.2 hsave)) hloaded
  | back =>
      have hreset : Sound { r with captureAction := none } := { h with }
      exact hreset.backToMenu hidle

def MainMenuAction.Drawn (ready error settingsReady : Bool) : MainMenuAction → Prop
  | .none => True
  | .back => error = true
  | .settings => ready = true ∧ settingsReady = true
  | .findMatch | .profile | .logout => ready = true

theorem drawMainMenu_drawn {ready error settingsReady : Bool} (click : MainMenuAction) :
    (drawMainMenu ready error settingsReady click).Drawn ready error settingsReady := by
  cases click with
  | none => trivial
  | back => cases error <;> trivial
  | settings => cases ready <;> cases settingsReady <;> trivial
  | findMatch | profile | logout => cases ready <;> trivial

theorem Sound.clickMainMenu (h : Sound r) (frame : Frame) : Sound (r.clickMainMenu frame) := by
  have hidle : ∀ {screen : RuntimeState}, decide (r.screen = screen) = true → screen.running = {} →
      r.screen.running = {} := fun hscreen hrunning => (of_decide_eq_true hscreen).symm ▸ hrunning
  have hdrawn : ∀ action, drawMainMenu (r.screen = .ready) (r.screen = .error) r.settingsLoaded
      frame.menuClick = action → action.Drawn (r.screen = .ready) (r.screen = .error) r.settingsLoaded :=
    fun action haction => haction ▸ drawMainMenu_drawn frame.menuClick
  unfold Runtime.clickMainMenu
  split
  · rename_i hmenu
    exact h.beginQueueRequest (hidle (hdrawn _ hmenu) rfl) nofun
  · rename_i hmenu
    exact h.beginProfileLoad (hidle (hdrawn _ hmenu) rfl)
  · rename_i hmenu
    obtain ⟨hready, hloaded⟩ := hdrawn _ hmenu
    exact { h with
      tasks := h.tasks.trans (hidle hready rfl)
      shown := trivial
      loaded := fun _ => hloaded }
  · rename_i hmenu
    exact h.beginLogout (hidle (hdrawn _ hmenu) rfl)
  · rename_i hmenu
    have herror := hidle (hdrawn _ hmenu) rfl
    split
    · exact { h.goes herror .login rfl trivial nofun with }
    · exact h.backToMenu herror
  · exact h

theorem Sound.draw (h : Sound r) (frame : Frame) : Sound (r.draw frame) := by
  unfold Runtime.draw
  split
  · exact h.clickLogin frame
  · split
    · exact h
    · exact h.clickResult ‹_› frame _
    · rename_i hscreen
      split
      · refine h.backToMenu ?_
        rw [hscreen]
        rfl
      · exact h
    · rename_i hscreen
      obtain ⟨hcaptured, hsame⟩ := h.captured frame.captureClick frame.pressedInputCode
      exact hcaptured.applySettings (hsame.trans hscreen) _
    · exact h.clickMainMenu frame

theorem Sound.frame (h : Sound r) (frame : Frame) : Sound (r.frame frame) :=
  (((((h.takeSettingsLoad.takeSettingsSave.takeProfile.takeLogout.takeRestore.takeAuth).takeQueue
    frame.now).pollQueue frame.now).takeConnect frame.networkError).play frame).draw frame

end PvpDuel.App
