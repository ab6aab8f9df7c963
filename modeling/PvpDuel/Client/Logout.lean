import PvpDuel.Client.SessionManager

/-!
# Logout against the requests in flight

`RefreshAfterUnauthorized` looks at the session once more before it stores the new one, and
`SetSession` stores and assigns in steps of their own. A logout that clears the session before the
look is final. One that clears it between the look and the assignment is undone.
-/

namespace PvpDuel.Auth

/-- A `Restore`, `Login` or `Register`. -/
def Operation.SignsIn : Operation → Prop
  | .restore | .login _ _ | .register _ _ => True
  | _ => False

/-- The session comes from `Restore`, `Login` or `Register`. -/
def After.SignsIn : After → Prop
  | .restored | .signedIn _ => True
  | .refreshed _ _ => False

instance (after : After) : Decidable after.SignsIn := by
  unfold After.SignsIn
  split <;> infer_instance

namespace Phase

/-- Inside `SetSession`. -/
def SetsSession (phase : Phase) : Prop :=
  match phase.pastWarning with
  | .store _ _ | .assign _ _ => True
  | _ => False

instance (phase : Phase) : Decidable phase.SetsSession := by
  unfold SetsSession
  split <;> infer_instance

/-- Inside `Restore`, `Login` or `Register`. -/
def SignsIn (phase : Phase) : Prop :=
  match phase.pastWarning with
  | .load | .restore _ | .forget _ | .signIn _ _ _ => True
  | .store _ after | .assign _ after => after.SignsIn
  | _ => False

instance (phase : Phase) : Decidable phase.SignsIn := by
  unfold SignsIn
  split <;> infer_instance

end Phase

/-- No call sets the session where a call of `Logout` clears it. -/
def Action.ClearsLast (s : State) : Action → Prop
  | .step call _ =>
      match s.threads[call]? with
      | some (.clear _) => ∀ phase ∈ s.threads, ¬ phase.SetsSession
      | _ => True
  | _ => True

instance (s : State) (action : Action) : Decidable (action.ClearsLast s) := by
  unfold Action.ClearsLast
  split
  · split <;> infer_instance
  · infer_instance

/-- The storage does not fail. -/
def Action.StorageWorks : Action → Prop
  | .step _ (.storage error) => error = ""
  | _ => True

instance (action : Action) : Decidable action.StorageWorks := by
  unfold Action.StorageWorks
  split <;> infer_instance

namespace SessionManager.Moves

variable {call : Nat} {m m' : SessionManager} {phase phase' : Phase} {reply : Reply}

theorem not_signsIn (h : Moves call m phase reply m' phase') (hphase : ¬ phase.SignsIn) :
    ¬ phase'.SignsIn := by
  cases h with
  | stored =>
      rw [Phase.SignsIn, pastWarning_warned]
      exact hphase
  | addedWarning => exact hphase
  | assigned =>
      rename_i after
      cases after <;> exact id
  | _ => simp_all [Phase.SignsIn, Phase.pastWarning, notAuthenticated, After.SignsIn]

/-- Where there is no session, nobody sets one but the calls that are about to. -/
theorem quiet (h : Moves call m phase reply m' phase') (hsession : m.session = none)
    (hsigns : ¬ phase.SignsIn) (hsets : ¬ phase.SetsSession) :
    m'.session = none ∧ ¬ phase'.SetsSession ∧ (m.stored = none → m'.stored = none) := by
  cases h with
  | stored => exact absurd trivial hsets
  | assigned => exact absurd trivial hsets
  | addedWarning => exact ⟨hsession, hsets, id⟩
  | adopted hstill =>
      rw [hsession] at hstill
      cases hstill
  | forgot => exact absurd trivial hsigns
  | erased =>
      exact ⟨(m.erase_session _).trans hsession, id,
        fun hstored => by simpa [hstored] using m.erase_stored _⟩
  | erasedRejected =>
      refine ⟨(m.erase_session _).trans hsession, ?_,
        fun hstored => by simpa [hstored] using m.erase_stored _⟩
      simp [Phase.SetsSession, Phase.pastWarning]
  | _ => simp_all [Phase.SignsIn, Phase.SetsSession, Phase.pastWarning, notAuthenticated]

end SessionManager.Moves

/-- No call sets the session again, so what is gone stays gone. -/
structure Quiet (s : State) : Prop where
  session : s.memory.manager.session = none
  sets : s.Each fun _ _ phase => ¬ phase.SetsSession
  signsIn : s.Each fun _ _ phase => ¬ phase.SignsIn

/-- What a call of `Logout` at this point has achieved. -/
def LeavesAt (s : State) : Phase → Prop
  | .logout | .clear _ => True
  | .revoke _ | .erase _ => Quiet s
  | .returned _ => Quiet s ∧ s.memory.manager.stored = none
  | _ => False

/-- Nobody signs in while this call of `Logout` runs. -/
structure Leaves (call : Nat) (s : State) : Prop where
  signsIn : s.Each fun _ _ phase => ¬ phase.SignsIn
  logout : ∃ phase, s.threads[call]? = some phase ∧ LeavesAt s phase

variable {s t : State} {action : Action}

theorem phase_of_operation {operation : Operation} (h : ¬ operation.SignsIn) :
    ¬ operation.phase.SignsIn ∧ ¬ operation.phase.SetsSession := by
  cases operation <;> simp_all [Operation.SignsIn, Operation.phase, Phase.SignsIn,
    Phase.SetsSession, Phase.pastWarning]

theorem each_not_signsIn (h : s.Each fun _ _ phase => ¬ phase.SignsIn)
    (hbegin : ∀ operation, action = .begin operation → ¬ operation.SignsIn)
    (hnext : next s action = some t) : t.Each fun _ _ phase => ¬ phase.SignsIn := by
  obtain ⟨operation, rfl, rfl⟩ | ⟨rfl, rfl⟩ |
    ⟨call, reply, phase, manager, phase', rfl, hphase, hmoves, rfl⟩ := next_cases hnext
  · exact h.spawn (phase_of_operation (hbegin operation rfl)).1
  · exact h
  · exact h.move hphase (hmoves.not_signsIn (h call phase hphase)) fun _ _ _ _ hother => hother

theorem Quiet.next (h : Quiet s)
    (hbegin : ∀ operation, action = .begin operation → ¬ operation.SignsIn)
    (hnext : PvpDuel.Auth.next s action = some t) :
    Quiet t ∧ (s.memory.manager.stored = none → t.memory.manager.stored = none) := by
  have hsigns := each_not_signsIn h.signsIn hbegin hnext
  obtain ⟨operation, rfl, rfl⟩ | ⟨rfl, rfl⟩ |
    ⟨call, reply, phase, manager, phase', rfl, hphase, hmoves, rfl⟩ := next_cases hnext
  · exact ⟨⟨h.session, h.sets.spawn (phase_of_operation (hbegin operation rfl)).2, hsigns⟩, id⟩
  · exact ⟨⟨h.session, h.sets, hsigns⟩, id⟩
  · obtain ⟨hsession, hsets, hstored⟩ := hmoves.quiet h.session (h.signsIn call phase hphase)
      (h.sets call phase hphase)
    exact ⟨⟨hsession, h.sets.move hphase hsets fun _ _ _ _ hother => hother, hsigns⟩, hstored⟩

theorem LeavesAt.next {phase : Phase} (h : LeavesAt s phase)
    (hbegin : ∀ operation, action = .begin operation → ¬ operation.SignsIn)
    (hnext : PvpDuel.Auth.next s action = some t) : LeavesAt t phase := by
  cases phase with
  | logout => exact trivial
  | clear session => exact trivial
  | revoke token => exact (Quiet.next h hbegin hnext).1
  | erase error => exact (Quiet.next h hbegin hnext).1
  | returned result =>
      obtain ⟨hquiet, hstored⟩ := h
      exact ⟨(hquiet.next hbegin hnext).1, (hquiet.next hbegin hnext).2 hstored⟩
  | _ => exact absurd h id

theorem Leaves.own {call : Nat} (h : Leaves call s) {reply : Reply}
    (hclears : (Action.step call reply).ClearsLast s) (hstorage : (Action.step call reply).StorageWorks)
    (hnext : PvpDuel.Auth.next s (.step call reply) = some t) :
    ∃ phase, t.threads[call]? = some phase ∧ LeavesAt t phase := by
  have hsigns := each_not_signsIn h.signsIn (by simp) hnext
  have hquiet : Quiet s → Quiet t := fun hquiet => (hquiet.next (by simp) hnext).1
  obtain ⟨phase, hphase, hleaves⟩ := h.logout
  obtain ⟨operation, hstep, -⟩ | ⟨hstep, -⟩ |
    ⟨own, reply, before, manager, phase', hstep, hbefore, hmoves, rfl⟩ := next_cases hnext
  · cases hstep
  · cases hstep
  cases hstep
  rw [hbefore] at hphase
  obtain rfl := Option.some.inj hphase
  refine ⟨phase', (Threads.State.getElem?_move hbefore).2 (.inl ⟨rfl, rfl⟩), ?_⟩
  have hlast : ∀ session, before = .clear session → manager.session = none →
      ¬ phase'.SetsSession → Quiet (s.move call (s.memory.record manager before reply) phase') := by
    rintro session rfl hsession hsets
    rw [Action.ClearsLast, hbefore] at hclears
    exact ⟨hsession, (Threads.State.each_iff_forall_mem.2 hclears).move hbefore hsets
      fun _ _ _ _ hother => hother, hsigns⟩
  cases hmoves with
  | loggingOut => exact trivial
  | clearedToken => exact hlast _ rfl rfl id
  | cleared => exact hlast _ rfl rfl id
  | revoked => exact hquiet hleaves
  | erased =>
      refine ⟨hquiet hleaves, ?_⟩
      rw [show _ = "" from hstorage]
      rfl
  | _ => exact absurd hleaves id

theorem Leaves.next {call : Nat} (h : Leaves call s)
    (hbegin : ∀ operation, action = .begin operation → ¬ operation.SignsIn)
    (hclears : action.ClearsLast s) (hstorage : action.StorageWorks)
    (hnext : PvpDuel.Auth.next s action = some t) : Leaves call t := by
  refine ⟨each_not_signsIn h.signsIn hbegin hnext, ?_⟩
  obtain ⟨phase, hphase, hleaves⟩ := h.logout
  have hleaves' := hleaves.next hbegin hnext
  obtain ⟨operation, rfl, rfl⟩ | ⟨rfl, rfl⟩ |
    ⟨own, reply, before, manager, phase', rfl, hbefore, hmoves, rfl⟩ := next_cases hnext
  · exact ⟨phase, Threads.State.getElem?_spawn_of hphase, hleaves'⟩
  · exact ⟨phase, hphase, hleaves'⟩
  · by_cases hown : call = own
    · subst hown
      exact h.own hclears hstorage hnext
    · exact ⟨phase, (Threads.State.getElem?_move hbefore).2 (.inr ⟨hown, hphase⟩), hleaves'⟩

theorem leaves_begin (h : ∀ phase ∈ s.threads, ¬ phase.SignsIn) :
    Leaves s.threads.length (s.spawn .logout) := by
  refine ⟨(Threads.State.each_iff_forall_mem.2 h).spawn id, .logout, ?_, trivial⟩
  simp [Threads.State.spawn]

/-- In every run in which a call of `Logout` clears the session while no call is inside
`SetSession`, nobody signs in from then on and the storage does not fail: once the call has returned
there is no session, and no refresh token is stored. -/
theorem logout_final {actions : List Action} (hsigns : ∀ phase ∈ s.threads, ¬ phase.SignsIn)
    (hrun : Transition.run next s (.begin .logout :: actions) = some t)
    (hbegin : ∀ operation, .begin operation ∈ actions → ¬ operation.SignsIn)
    (hstorage : ∀ action ∈ actions, action.StorageWorks)
    (hmeets : Transition.Meets next (fun s action => action.ClearsLast s) s
      (.begin .logout :: actions))
    (hreturned : ∃ result, t.threads[s.threads.length]? = some (.returned result)) :
    t.memory.manager.session = none ∧ t.memory.manager.stored = none := by
  obtain ⟨u, hu, hrest⟩ := Transition.run_cons_iff.1 hrun
  obtain ⟨-, hmeets⟩ := Transition.meets_cons hmeets hu
  obtain rfl := Option.some.inj hu
  have hleaves : Leaves s.threads.length t := by
    refine Transition.meets_invariant (P := Leaves s.threads.length) ?_ hrest
      (Transition.meets_and_forall hmeets
        (Q := fun action => (∀ operation, action = .begin operation → ¬ operation.SignsIn) ∧
          action.StorageWorks) ?_) (leaves_begin hsigns)
    · rintro s action t h ⟨hclears, hbegin, hstorage⟩ hnext
      exact h.next hbegin hclears hstorage hnext
    · intro action haction
      refine ⟨?_, hstorage action haction⟩
      rintro operation rfl
      exact hbegin operation haction
  obtain ⟨phase, hphase, hleft⟩ := hleaves.logout
  obtain ⟨result, hresult⟩ := hreturned
  rw [hresult] at hphase
  obtain rfl := Option.some.inj hphase
  exact ⟨hleft.1.session, hleft.2⟩

/-- The session of a login, and the one that a refresh gets for it. -/
def duelSession (accessToken refreshToken : String) : AuthSession :=
  ⟨"user-1", "alice", accessToken, refreshToken⟩

/-- A profile is requested with an expired access token, and the gateway is asked for another. -/
def profileCalls : List Action :=
  [.begin (.login "alice" "password"), .step 0 (.auth ⟨duelSession "expired" "initial", "", 0⟩),
    .step 0 (.storage ""), .step 0 .none,
    .begin (.request .profile), .step 1 .none, .step 1 (.answer ⟨.profile {}, "expired", 401⟩),
    .step 1 .none, .step 1 .none]

def inFlight : State where
  memory :=
    { manager :=
        { stored := some "initial", refreshMutex := some 1,
          session := some (duelSession "expired" "initial") }
      issued := [duelSession "expired" "initial"] }
  threads :=
    [.returned ⟨.session (duelSession "expired" "initial"), "", 0⟩,
      .refresh .profile "expired" (duelSession "expired" "initial")]

/-- The refresh comes back while the logout is waiting for the gateway. -/
def logoutCalls : List Action :=
  [.step 2 .none, .step 2 .none, .step 1 (.auth ⟨duelSession "fresh" "rotated", "", 0⟩),
    .step 1 .none, .step 1 .none, .step 1 .none, .step 2 (.revoked ⟨true, "", 204⟩),
    .step 2 (.storage "")]

/-- The request drops the session that it gets after the logout. -/
theorem logout_final_profile :
    Transition.run next (newSessionManager none) profileCalls = some inFlight ∧
    ∃ t, Transition.run next inFlight (.begin .logout :: logoutCalls) = some t ∧
      (∀ phase ∈ t.threads, phase.Returned) ∧
      t.memory.manager.session = none ∧ t.memory.manager.stored = none := by
  have hreturned : (Transition.run next inFlight (.begin .logout :: logoutCalls)).map
      (fun t => (t.threads[2]?, decide (∀ phase ∈ t.threads, phase.Returned))) =
        some (some (.returned ⟨.flag true, "", 0⟩), true) := by
    decide +kernel
  obtain ⟨t, hrun, hthreads⟩ := Option.map_eq_some_iff.1 hreturned
  obtain ⟨hlogout, hall⟩ := Prod.mk.inj hthreads
  refine ⟨by decide +kernel, t, hrun, of_decide_eq_true hall, ?_⟩
  exact logout_final (by decide) hrun (by simp [logoutCalls])
    (by decide) (by decide +kernel) ⟨_, hlogout⟩

/-- The same request has got its session and looked at the old one a second time. -/
def storing : State where
  memory :=
    { manager := inFlight.memory.manager
      refreshes := [⟨some "expired", "initial", ⟨duelSession "fresh" "rotated", "", 0⟩⟩]
      issued := [duelSession "expired" "initial", duelSession "fresh" "rotated"] }
  threads :=
    [.returned ⟨.session (duelSession "expired" "initial"), "", 0⟩,
      .store (duelSession "fresh" "rotated") (.refreshed .profile "expired")]

/-- The logout does all it has to before the request takes its next step. -/
def undoneCalls : List Action :=
  [.step 2 .none, .step 2 .none, .step 2 (.revoked ⟨true, "", 204⟩), .step 2 (.storage ""),
    .step 1 (.storage ""), .step 1 .none, .step 1 .none, .step 1 .none, .step 1 .none,
    .step 1 (.answer ⟨.profile {}, "", 0⟩)]

/-- The request stores and assigns the session that it got after the logout. -/
theorem logout_undone : ¬ ∀ stored earlier s actions t,
    Transition.run next (newSessionManager stored) earlier = some s →
    (∀ phase ∈ s.threads, ¬ phase.SignsIn) →
    Transition.run next s (.begin .logout :: actions) = some t →
    (∀ operation, .begin operation ∉ actions) →
    (∀ action ∈ earlier ++ actions, action.StorageWorks) →
    (∀ phase ∈ t.threads, phase.Returned) →
      t.memory.manager.session = none ∧ t.memory.manager.stored = none := by
  intro hclaim
  have hfinal : (Transition.run next storing (.begin .logout :: undoneCalls)).map
      (fun t => (t.memory.manager.session, decide (∀ phase ∈ t.threads, phase.Returned))) =
        some (some (duelSession "fresh" "rotated"), true) := by
    decide +kernel
  obtain ⟨t, hrun, hstate⟩ := Option.map_eq_some_iff.1 hfinal
  obtain ⟨hsession, hall⟩ := Prod.mk.inj hstate
  have hnone := hclaim none (profileCalls ++ [.step 1 (.auth ⟨duelSession "fresh" "rotated", "", 0⟩),
    .step 1 .none]) storing undoneCalls t (by decide +kernel) (by decide) hrun
    (by simp [undoneCalls]) (by decide) (of_decide_eq_true hall)
  rw [hsession] at hnone
  cases hnone.1

end PvpDuel.Auth
