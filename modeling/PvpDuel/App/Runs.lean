import PvpDuel.App.Frames
import PvpDuel.Lib.Transition

/-!
# Runs of the client

The tasks keep what the frames keep. So in every run no frame blocks or uses what is gone, a screen that
waits has what it waits for, and whoever has accepted a match leaves the queue before joining it again.
-/

namespace PvpDuel.App

open Auth (Operation Phase Result Value)
open Client (MatchController)

variable {r r' : Runtime} {call : Nat} {result : Result Value}

/-! ### The other tasks -/

section Moves

open Auth.SessionManager (Moves)

variable {m m' : Auth.SessionManager} {phase phase' : Phase} {reply : Auth.Reply}

theorem moves_not_returned (h : Moves call m phase reply m' phase') : ¬ phase.Returned := by
  cases h <;> exact id

theorem logsOut_of_moves (h : Moves call m phase reply m' phase') (hlogsOut : LogsOut phase') :
    LogsOut phase := by
  cases h with
  | stored | forgot | erasedRejected =>
      rw [LogsOut, Auth.pastWarning_warned] at hlogsOut
      exact hlogsOut
  | addedWarning => exact hlogsOut
  | assigned =>
      rename_i after
      cases after <;> exact hlogsOut
  | loggingOut | clearedToken | cleared | revoked | erased => exact trivial
  | _ => exact hlogsOut

end Moves

theorem Sound.step (h : Sound r) {reply : Auth.Reply} {manager : Auth.State}
    (hstep : r.manager.step Auth.Memory.advance call reply = some manager) :
    Sound { r with manager } := by
  have hnext : Auth.next r.manager (.step call reply) = some manager := hstep
  obtain ⟨_, hbegin, -⟩ | ⟨hwarning, -⟩ | ⟨_, _, phase, m, phase', heq, hphase, hmoves, rfl⟩ :=
    Auth.next_cases hnext
  · cases hbegin
  · cases hwarning
  cases heq
  refine
    { h with
      owned := h.owned.set hphase fun _ => moves_not_returned hmoves
      signing := h.signing.set hphase fun hsigns => ?_
      leaving := h.leaving.set hphase (logsOut_of_moves hmoves) }
  by_contra hnot
  exact hmoves.not_signsIn hnot hsigns

theorem Sound.afterLeave (h : Sound r) (hqueue : r.queueFuture = some (.leaving call))
    (hresult : r.resultOf call = some result) : Sound (r.afterLeave result) := by
  have htasks := h.tasks
  unfold Runtime.running at htasks
  rw [hqueue] at htasks
  have hwaits : r.queueFuture.bind QueueTask.waitsFor = some call := by
    rw [hqueue]
    rfl
  have hdropped : Within (fun phase => ¬ phase.Returned) r.manager.threads
      { r with queueFuture := none }.calls :=
    h.owned.drop (resultOf_eq_some hresult) (not_not_intro trivial) (calls_subset [call] (fun _ => .inr)
      (fun _ => .inr) (mem_of_taken hwaits) (fun _ => .inr) fun _ => .inr)
  unfold Runtime.afterLeave
  split
  · dsimp only
    rw [length_beginCall]
    have hclean : Clean (r.events ++ [.left]) := by
      refine h.clean.concat fun hjoins => ?_
      cases hjoins
    have hleft : owes (r.events ++ [.left]) = false := owes_concat _ _
    have hevents : r.events ++ [Event.left, .joins] = (r.events ++ [.left]) ++ [.joins] := by
      rw [List.append_assoc]
      rfl
    have howes : owes (r.events ++ [.left, .joins]) = false := by
      rw [hevents, owes_concat, hleft]
    refine
      { h with
        tasks := htasks
        clean := hevents ▸ hclean.concat fun _ => hleft
        owing := fun howing => absurd (howes.symm.trans howing) Bool.false_ne_true
        settled := fun _ _ _ => howes
        refusal := fun _ hrefused => by cases hrefused
        owned := ?_
        signing := h.signing.concat (List.Subset.refl _) fun hsigns => absurd hsigns id
        leaving := h.leaving.concat (List.Subset.refl _) fun hleaves => absurd hleaves id }
    refine hdropped.concat (calls_subset [] (fun _ => .inr) (fun _ => .inr) (absent rfl) (fun _ => .inr)
      fun _ => .inr) fun _ => ?_
    simp [Runtime.calls, QueueTask.waitsFor]
  · rename_i hfails
    refine { h with tasks := htasks, settled := ?_, refusal := ?_, owned := hdropped }
    · intro _ _ hasking
      cases hasking
    · intro error heq
      cases heq
      exact hfails

theorem Sound.next (h : Sound r) {action : Action} (hnext : r.next action = some r') : Sound r' := by
  cases action with
  | frame frame =>
      obtain rfl := Option.some.inj hnext
      exact h.frame frame
  | step call reply =>
      obtain ⟨manager, hstep, rfl⟩ := Option.map_eq_some_iff.1 hnext
      exact h.step hstep
  | queue =>
      dsimp only [Runtime.next] at hnext
      split at hnext
      · obtain ⟨result, hresult, rfl⟩ := Option.map_eq_some_iff.1 hnext
        exact h.afterLeave ‹_› hresult
      · cases hnext
  | connect connected =>
      dsimp only [Runtime.next] at hnext
      split at hnext
      · rename_i hpending
        cases hnext
        have htasks := h.tasks
        refine { h with tasks := ?_ }
        unfold Runtime.running at htasks ⊢
        rw [hpending] at htasks
        exact htasks
      · cases hnext
  | load loaded =>
      dsimp only [Runtime.next] at hnext
      split at hnext
      · rename_i hpending
        cases hnext
        have hloading := h.loading
        rw [hpending] at hloading
        exact { h with loading := hloading }
      · cases hnext
  | save result =>
      dsimp only [Runtime.next] at hnext
      split at hnext
      · rename_i hpending
        cases hnext
        have hsaving := h.saving
        rw [hpending] at hsaving
        exact { h with saving := hsaving }
      · cases hnext

theorem run_sound {stored : Option String} {actions : List Action}
    (hrun : Transition.run Runtime.next (Runtime.start stored) actions = some r) : Sound r :=
  Transition.run_invariant (fun _ _ _ hsound hnext => Sound.next hsound hnext) hrun (start_sound stored)

theorem screen_iff {part : Running → Bool} {future : Bool} {screen : RuntimeState}
    (hfuture : future = part r.screen.running) (hpart : ∀ s : RuntimeState, part s.running = true ↔ s = screen) :
    future = true ↔ r.screen = screen := by
  rw [hfuture]
  exact hpart r.screen

theorem Sound.restoring_iff (h : Sound r) : r.restoreFuture.isSome = true ↔ r.screen = .restoring :=
  screen_iff h.restoreFuture fun s => by cases s <;> decide

theorem Sound.authPending_iff (h : Sound r) : r.authFuture.isSome = true ↔ r.screen = .authPending :=
  screen_iff h.authFuture fun s => by cases s <;> decide

theorem Sound.queuePending_iff (h : Sound r) : r.queueFuture.isSome = true ↔ r.screen = .queuePending :=
  screen_iff h.queueFuture fun s => by cases s <;> decide

theorem Sound.connectPending_iff (h : Sound r) : r.connectFuture.isSome = true ↔ r.screen = .connectPending :=
  screen_iff h.connectFuture fun s => by cases s <;> decide

theorem Sound.logoutPending_iff (h : Sound r) : r.logoutFuture.isSome = true ↔ r.screen = .logoutPending :=
  screen_iff h.logoutFuture fun s => by cases s <;> decide

/-- Besides a load of the profile, the call that the screen waits for is alone. -/
theorem Sound.alone (h : Sound r) {other : Nat} (hcall : r.restoreFuture = some call ∨
    r.authFuture = some call ∨ r.logoutFuture = some call) (hin : other ∈ r.calls) :
    other = call ∨ r.profileFuture = some other := by
  have hrestore : ∀ c, r.restoreFuture = some c → r.screen = .restoring :=
    fun c hc => h.restoring_iff.1 (Option.isSome_of_mem hc)
  have hauth : ∀ c, r.authFuture = some c → r.screen = .authPending :=
    fun c hc => h.authPending_iff.1 (Option.isSome_of_mem hc)
  have hqueue : ∀ c, r.queueFuture.bind QueueTask.waitsFor = some c → r.screen = .queuePending := by
    intro c hc
    obtain ⟨task, htask, -⟩ := Option.bind_eq_some_iff.1 hc
    exact h.queuePending_iff.1 (Option.isSome_of_mem htask)
  have hlogout : ∀ c, r.logoutFuture = some c → r.screen = .logoutPending :=
    fun c hc => h.logoutPending_iff.1 (Option.isSome_of_mem hc)
  have hone : ∀ {future : Option Nat}, future = some call → future = some other → other = call :=
    fun hfuture hother => Option.some.inj (hother.symm.trans hfuture)
  have htwo : ∀ {first second : RuntimeState}, r.screen = first → r.screen = second → first ≠ second →
      False := fun hfirst hsecond hne => hne (hfirst.symm.trans hsecond)
  obtain hin | hin | hin | hin | hin := mem_calls.1 hin
  · obtain hcall | hcall | hcall := hcall
    · exact .inl (hone hcall hin)
    · exact (htwo (hauth _ hcall) (hrestore _ hin) nofun).elim
    · exact (htwo (hlogout _ hcall) (hrestore _ hin) nofun).elim
  · obtain hcall | hcall | hcall := hcall
    · exact (htwo (hrestore _ hcall) (hauth _ hin) nofun).elim
    · exact .inl (hone hcall hin)
    · exact (htwo (hlogout _ hcall) (hauth _ hin) nofun).elim
  · obtain hcall | hcall | hcall := hcall
    · exact (htwo (hrestore _ hcall) (hqueue _ hin) nofun).elim
    · exact (htwo (hauth _ hcall) (hqueue _ hin) nofun).elim
    · exact (htwo (hlogout _ hcall) (hqueue _ hin) nofun).elim
  · exact .inr hin
  · obtain hcall | hcall | hcall := hcall
    · exact (htwo (hrestore _ hcall) (hlogout _ hin) nofun).elim
    · exact (htwo (hauth _ hcall) (hlogout _ hin) nofun).elim
    · exact .inl (hone hcall hin)

/-- In every run of the client: no assignment to a future can block a frame, nothing refers to a transport
that is gone, and no pointer or optional is empty where it is used. A screen that waits has its task, and
no task that a screen waits for is there on another screen; a match is played over the transport it was
connected with until its end is there, and its result is shown with the end. Settings are saved only after
they were loaded. A call that signs in or out runs beside one load of a profile at most. -/
theorem runtime_in_order {stored : Option String} {actions : List Action}
    (hrun : Transition.run Runtime.next (Runtime.start stored) actions = some r) :
    r.hazards = [] ∧
    (r.restoreFuture.isSome = true ↔ r.screen = .restoring) ∧
    (r.authFuture.isSome = true ↔ r.screen = .authPending) ∧
    (r.queueFuture.isSome = true ↔ r.screen = .queuePending) ∧
    (r.connectFuture.isSome = true ↔ r.screen = .connectPending) ∧
    (r.logoutFuture.isSome = true ↔ r.screen = .logoutPending) ∧
    (∀ network controller, r.matchController = some (network, controller) → r.network = some network) ∧
    (r.screen = .playing → ∃ network controller, r.matchController = some (network, controller) ∧
      controller.model.matchEnd = none) ∧
    (r.screen = .result → ∃ network controller, r.matchController = some (network, controller) ∧
      controller.model.matchEnd ≠ none) ∧
    (r.settingsSaveFuture.isSome = true → r.settingsLoadFuture = none ∧ r.pendingBindings ≠ none) ∧
    ∀ call, r.restoreFuture = some call ∨ r.authFuture = some call ∨ r.logoutFuture = some call →
      ∀ (other : Nat) phase, r.manager.threads[other]? = some phase → ¬ phase.Returned →
        other = call ∨ r.profileFuture = some other := by
  have h := run_sound hrun
  refine ⟨h.hazards, h.restoring_iff, h.authPending_iff, h.queuePending_iff, h.connectPending_iff,
    h.logoutPending_iff, h.refers, fun hscreen => ?_, fun hscreen => ?_, fun hsaving => ?_,
    fun call hcall other phase hother hruns => h.alone hcall (h.owned other phase hother hruns)⟩
  · have hshown := h.shown
    rw [hscreen] at hshown
    exact hshown
  · have hshown := h.shown
    rw [hscreen] at hshown
    exact hshown
  · have hpending : r.pendingBindings.isSome = true := h.saving ▸ hsaving
    have hloading := h.loading
    rw [h.loaded (.inl hpending)] at hloading
    exact ⟨eq_none_of_isSome hloading, Option.isSome_iff_ne_none.1 hpending⟩

/-- In every run of the client: between a match that was accepted and the next call of `JoinQueue` there
is a call of `LeaveQueue` that has succeeded. -/
theorem leaves_before_joining {stored : Option String} {actions : List Action}
    (hrun : Transition.run Runtime.next (Runtime.start stored) actions = some r)
    {earlier between later : List Event} (heq : r.events = earlier ++ .accepted :: between ++ .joins :: later) :
    Event.left ∈ between :=
  (run_sound hrun).clean.left heq

def quietFrame : Frame where
  now := 0
  login := "alice"
  password := "long password"
  start := none
  snapshot := none
  matchEnd := none
  connected := true
  networkError := ""
  inputFrames := []
  loginClick := .none
  menuClick := .none
  profileClick := .none
  resultClick := .none
  settingsClick := .none
  captureClick := none
  pressedInputCode := none

def matchActions : List Action :=
  [.step 0 (.storage ""), .frame quietFrame, .frame { quietFrame with loginClick := .login },
    .step 1 (.auth ⟨⟨"id-a", "alice", "access", "refresh"⟩, "", 200⟩), .step 1 (.storage ""), .step 1 .none,
    .frame { quietFrame with menuClick := .findMatch }, .step 2 .none,
    .step 2 (.answer ⟨.queue ⟨.matched, "match-1", "id-b", "127.0.0.1:4433", "ticket"⟩, "", 200⟩),
    .frame quietFrame, .connect true, .frame quietFrame,
    .frame { quietFrame with matchEnd := some ⟨Client.initialWorld, "id-a", .ko⟩ }]

/-- She leaves the queue and looks for another match. -/
def anotherMatch : List Action :=
  [.frame { quietFrame with resultClick := .findAnother }, .step 3 .none,
    .step 3 (.answer ⟨.flag true, "", 200⟩), .queue]

theorem runtime_in_order_ended : ∃ r, Transition.run Runtime.next (Runtime.start none) matchActions = some r ∧
    r.hazards = [] ∧ r.message = "Knockout" ∧
    ∃ network controller, r.matchController = some (network, controller) ∧ controller.model.matchEnd ≠ none := by
  have hends : (Transition.run Runtime.next (Runtime.start none) matchActions).map (fun r =>
      (r.screen, r.message)) = some (.result, "Knockout") := by
    decide +kernel
  obtain ⟨r, hrun, hend⟩ := Option.map_eq_some_iff.1 hends
  obtain ⟨hscreen, hmessage⟩ := Prod.mk.inj hend
  obtain ⟨hhazards, -, -, -, -, -, -, -, hresult, -⟩ := runtime_in_order hrun
  exact ⟨r, hrun, hhazards, hmessage, hresult hscreen⟩

theorem leaves_before_joining_another : ∃ r, Transition.run Runtime.next (Runtime.start none)
      (matchActions ++ anotherMatch) = some r ∧
    r.events = [.joins] ++ .accepted :: [.left] ++ .joins :: [] ∧ Event.left ∈ [Event.left] := by
  have hevents : (Transition.run Runtime.next (Runtime.start none) (matchActions ++ anotherMatch)).map
      Runtime.events = some [.joins, .accepted, .left, .joins] := by
    decide +kernel
  obtain ⟨r, hrun, hevents⟩ := Option.map_eq_some_iff.1 hevents
  have hsplit : r.events = [.joins] ++ .accepted :: [.left] ++ .joins :: [] := hevents
  exact ⟨r, hrun, hsplit, leaves_before_joining hrun hsplit⟩

end PvpDuel.App
