import PvpDuel.Client.SessionManager

/-!
# When the saved refresh token is erased

`Restore` and `RefreshAfterUnauthorized` erase it after every `Refresh` that fails, whatever the
failure is. Where `Refresh` fails with 401 only, what they erase is the token that they presented, as
long as no other call replaces it in the meantime.
-/

namespace PvpDuel.Auth

/-- Between reading the saved token or its session for a refresh and dealing with the failure, or
inside `SetSession`. -/
def Phase.UsesSaved (phase : Phase) : Prop :=
  match phase.pastWarning with
  | .restore _ | .forget _ | .store _ _ | .assign _ _ | .check _ _ | .refresh _ _ _ | .failed _ _ _
  | .clearRejected _ _ _ | .eraseRejected _ _ => True
  | _ => False

instance (phase : Phase) : Decidable phase.UsesSaved := by
  unfold Phase.UsesSaved
  generalize phase.pastWarning = past
  induction past using Phase.casesOn <;> first | exact isTrue trivial | exact isFalse not_false

/-- No two calls use the saved token. -/
def OneUses (s : State) : Prop :=
  s.threads.Pairwise fun phase other => ¬ (phase.UsesSaved ∧ other.UsesSaved)

instance (s : State) : Decidable (OneUses s) := inferInstanceAs (Decidable (List.Pairwise _ _))

/-- `Refresh` does not fail other than with 401, and `Store` does not fail. -/
def Phase.Clean (phase : Phase) : Reply → Prop
  | .auth result =>
      match phase with
      | .restore _ | .refresh _ _ _ => result.ok ∨ result.status = 401
      | _ => True
  | .storage error =>
      match phase with
      | .store _ _ => error = ""
      | _ => True
  | _ => True

instance (phase : Phase) (reply : Reply) : Decidable (phase.Clean reply) := by
  unfold Phase.Clean
  split
  · split <;> infer_instance
  · split <;> infer_instance
  · infer_instance

def Action.Clean (s : State) : Action → Prop
  | .step call reply => ∀ phase ∈ s.threads[call]?, phase.Clean reply
  | _ => True

instance (s : State) : ∀ action : Action, Decidable (action.Clean s)
  | .step call reply => inferInstanceAs (Decidable (∀ phase ∈ s.threads[call]?, phase.Clean reply))
  | .begin _ | .takeWarning => isTrue trivial

/-- A `Refresh` that presented the token was answered with 401. -/
def Rejected (refreshes : List RefreshCall) (token : String) : Prop :=
  ∃ refresh ∈ refreshes, refresh.token = token ∧ refresh.result.status = 401

theorem Rejected.mono {refreshes later : List RefreshCall} {token : String}
    (h : Rejected refreshes token) (hsub : refreshes ⊆ later) : Rejected later token := by
  obtain ⟨refresh, hin, hrefresh⟩ := h
  exact ⟨refresh, hsub hin, hrefresh⟩

def SavedAt (m : Memory) (phase : Phase) : Prop :=
  ∀ token, m.manager.stored = some token →
    match phase.pastWarning with
    | .restore presented => token = presented
    | .refresh _ _ before => token = before.refreshToken
    | .assign session _ => token = session.refreshToken
    | .forget _ | .failed _ _ _ | .clearRejected _ _ _ | .eraseRejected _ _ =>
        Rejected m.refreshes token
    | _ => True

theorem savedAt_of_not_usesSaved {m : Memory} {phase : Phase} (h : ¬ phase.UsesSaved) :
    SavedAt m phase := by
  intro token _
  unfold Phase.UsesSaved at h
  split <;> simp_all

theorem SavedAt.mono {m m' : Memory} {phase : Phase} (h : SavedAt m phase)
    (hstored : ∀ token, m'.manager.stored = some token → m.manager.stored = some token)
    (hrefreshes : m.refreshes ⊆ m'.refreshes) : SavedAt m' phase := by
  intro token htoken
  have hat := h token (hstored token htoken)
  split at hat <;> first | exact hat | exact hat.mono hrefreshes

/-- Inside `SetSession`, after `Store`. -/
def Phase.Assigns (phase : Phase) : Prop :=
  match phase.pastWarning with
  | .assign _ _ => True
  | _ => False

/-- The saved token is that of the session, unless the session is about to be assigned. -/
structure Saved (s : State) : Prop where
  each : s.Each fun m _ phase => SavedAt m phase
  session : ∀ x token, s.memory.manager.session = some x → s.memory.manager.stored = some token →
    token = x.refreshToken ∨
      ∃ (i : Nat) (phase : Phase), s.threads[i]? = some phase ∧ phase.Assigns

namespace SessionManager.Moves

variable {call : Nat} {m m' : SessionManager} {phase phase' : Phase} {reply : Reply}

theorem stored_cases (h : Moves call m phase reply m' phase') :
    m'.stored = m.stored ∨ m'.stored = none ∨ ∃ session after, phase = .store session after := by
  cases h with
  | stored => exact .inr (.inr ⟨_, _, rfl⟩)
  | forgot | erased | erasedRejected => exact (m.erase_stored _).imp_right .inl
  | _ => exact .inl rfl

theorem together_cases (h : Moves call m phase reply m' phase') :
    m'.session = none ∨ phase'.Assigns ∨
      (∃ session after, phase = .assign session after ∧ m'.session = some session ∧
        m'.stored = m.stored) ∨
      m'.session = m.session ∧ (m'.stored = m.stored ∨ m'.stored = none) ∧ ¬ phase.Assigns := by
  cases h with
  | clearedToken | cleared | clearedRejected => exact .inl rfl
  | stored =>
      right; left
      unfold Phase.Assigns
      rw [pastWarning_warned]
      exact trivial
  | assigned => exact .inr (.inr (.inl ⟨_, _, rfl, rfl, rfl⟩))
  | addedWarning =>
      by_cases hrest : phase'.Assigns
      · exact .inr (.inl hrest)
      · exact .inr (.inr (.inr ⟨rfl, .inl rfl, hrest⟩))
  | forgot | erased | erasedRejected =>
      exact .inr (.inr (.inr ⟨m.erase_session _, m.erase_stored _, id⟩))
  | _ => exact .inr (.inr (.inr ⟨rfl, .inl rfl, id⟩))

theorem savedAt {m : Memory} (h : Moves call m.manager phase reply m' phase')
    (hat : SavedAt m phase) (hclean : phase.Clean reply)
    (hcheck : phase.UsesSaved → ¬ phase.Assigns → ∀ x token, m.manager.session = some x →
      m.manager.stored = some token → token = x.refreshToken) :
    SavedAt (m.record m' phase reply) phase' := by
  have hsub : m.refreshes ⊆ (m.record m' phase reply).refreshes := List.subset_append_left _ _
  intro token htoken
  cases h with
  | found hstored => exact Option.some.inj (htoken.symm.trans hstored)
  | invalid hfails =>
      exact ⟨_, List.mem_append_right _ (List.mem_singleton_self _), (hat token htoken).symm,
        hclean.resolve_left hfails⟩
  | notRefreshed hfails =>
      exact ⟨_, List.mem_append_right _ (List.mem_singleton_self _), (hat token htoken).symm,
        hclean.resolve_left hfails⟩
  | @stored session after storageError =>
      rw [pastWarning_warned]
      obtain rfl : storageError = "" := hclean
      exact (Option.some.inj htoken).symm
  | @addedWarning warning =>
      have hrest : SavedAt m phase' := hat
      have hlater : SavedAt (m.record { m.manager with warning := warning }
          (.addWarning warning phase') .none) phase' := hrest.mono (fun _ => id) hsub
      exact hlater token htoken
  | checked hsession => exact hcheck trivial id _ token hsession htoken
  | stillRejected => exact Rejected.mono (hat token htoken) hsub
  | clearedRejected => exact Rejected.mono (hat token htoken) hsub
  | forgot | erasedRejected =>
      rw [pastWarning_warned]
      exact trivial
  | @assigned session after => cases after <;> exact trivial
  | _ => exact trivial

end SessionManager.Moves

variable {s t : State} {action : Action}

theorem OneUses.eq (h : OneUses s) {i j : Nat} {phase other : Phase}
    (hi : s.threads[i]? = some phase) (hj : s.threads[j]? = some other) (hphase : phase.UsesSaved)
    (hother : other.UsesSaved) : i = j := by
  by_contra hne
  have hapart := Threads.State.apart_of_pairwise (fun _ _ h => h ∘ And.symm) h
  exact hapart i j phase other hne hi hj ⟨hphase, hother⟩

theorem Phase.Assigns.usesSaved {phase : Phase} (h : phase.Assigns) : phase.UsesSaved := by
  unfold Phase.Assigns at h
  unfold Phase.UsesSaved
  split at h <;> simp_all

namespace Saved

/-- A call that uses the saved token and has not stored another finds that of the session. -/
theorem together (h : Saved s) (hone : OneUses s) {call : Nat} {phase : Phase}
    (hphase : s.threads[call]? = some phase) (huses : phase.UsesSaved) (hassigns : ¬ phase.Assigns)
    (x : AuthSession) (token : String) (hx : s.memory.manager.session = some x)
    (htoken : s.memory.manager.stored = some token) : token = x.refreshToken := by
  rcases h.session x token hx htoken with heq | ⟨i, other, hother, hassigns'⟩
  · exact heq
  · obtain rfl := hone.eq hother hphase hassigns'.usesSaved huses
    rw [hphase] at hother
    obtain rfl := Option.some.inj hother
    exact absurd hassigns' hassigns

theorem move (h : Saved s) (hone : OneUses s) {call : Nat} {phase phase' : Phase} {reply : Reply}
    {manager : SessionManager} (hphase : s.threads[call]? = some phase)
    (hmoves : SessionManager.Moves call s.memory.manager phase reply manager phase')
    (hclean : phase.Clean reply) :
    Saved (s.move call (s.memory.record manager phase reply) phase') := by
  constructor
  · refine h.each.move hphase (hmoves.savedAt (h.each call phase hphase) hclean
      (h.together hone hphase)) ?_
    intro j other hj hother hat
    rcases hmoves.stored_cases with hsame | hnone | ⟨session, after, rfl⟩
    · exact hat.mono (fun token htoken => hsame ▸ htoken) (List.subset_append_left _ _)
    · refine hat.mono (fun token htoken => ?_) (List.subset_append_left _ _)
      rw [show (s.memory.record manager phase reply).manager.stored = none from hnone] at htoken
      cases htoken
    · -- No other call uses the saved token while it is replaced.
      exact savedAt_of_not_usesSaved fun huses => hj (hone.eq hother hphase huses trivial)
  · intro x token hx htoken
    have hmoved : phase'.Assigns → ∃ (i : Nat) (point : Phase),
        (s.move call (s.memory.record manager phase reply) phase').threads[i]? = some point ∧
          point.Assigns :=
      fun hassigns => ⟨call, phase', (Threads.State.getElem?_move hphase).2 (.inl ⟨rfl, rfl⟩),
        hassigns⟩
    rcases hmoves.together_cases with hnone | hassigns | ⟨session, after, rfl, hsession, hstored⟩ |
      ⟨hsession, hstored, hassigns⟩
    · cases hx.symm.trans hnone
    · exact .inr (hmoved hassigns)
    · obtain rfl := Option.some.inj (hsession.symm.trans hx)
      exact .inl (h.each call _ hphase token (hstored.symm.trans htoken))
    · rcases hstored with hstored | hstored
      · rcases h.session x token (hsession.symm.trans hx) (hstored.symm.trans htoken) with
          heq | ⟨i, point, hpoint, hpoint'⟩
        · exact .inl heq
        · refine .inr ⟨i, point, (Threads.State.getElem?_move hphase).2 (.inr ⟨?_, hpoint⟩), hpoint'⟩
          rintro rfl
          rw [hphase] at hpoint
          obtain rfl := Option.some.inj hpoint
          exact hassigns hpoint'
      · cases htoken.symm.trans hstored

theorem next (h : Saved s) (hone : OneUses s) (hclean : action.Clean s)
    (hnext : PvpDuel.Auth.next s action = some t) : Saved t := by
  obtain ⟨operation, rfl, rfl⟩ | ⟨rfl, rfl⟩ |
    ⟨call, reply, phase, manager, phase', rfl, hphase, hmoves, rfl⟩ := next_cases hnext
  · refine ⟨h.each.spawn ?_, fun x token hx htoken => (h.session x token hx htoken).imp_right ?_⟩
    · apply savedAt_of_not_usesSaved
      cases operation <;> exact id
    · rintro ⟨i, phase, hphase, hassigns⟩
      exact ⟨i, phase, Threads.State.getElem?_spawn_of hphase, hassigns⟩
  · exact ⟨h.each, h.session⟩
  · exact h.move hone hphase hmoves (hclean phase hphase)

end Saved

theorem newSessionManager_saved (stored : Option String) : Saved (newSessionManager stored) := by
  constructor
  · intro i phase hphase
    simp [newSessionManager] at hphase
  · rintro x token ⟨⟩

/-- What may erase the saved token. -/
def Erasable (s : State) (action : Action) (token : String) : Prop :=
  (∃ call reply error, action = .step call reply ∧ s.threads[call]? = some (.erase error)) ∨
    Rejected s.memory.refreshes token

/-- In every run in which a `Refresh` that fails is answered with 401, `Store` does not fail and no
two calls use the saved token at once, it is erased by `Logout` or after a `Refresh` that presented
it was answered with 401. -/
theorem erased_only_when_invalid {stored : Option String} {actions : List Action} {token : String}
    (hrun : Transition.run next (newSessionManager stored) actions = some s)
    (hmeets : Transition.Meets next (fun s action => OneUses s ∧ action.Clean s)
      (newSessionManager stored) (actions ++ [action]))
    (hnext : next s action = some t) (hstored : s.memory.manager.stored = some token)
    (herased : t.memory.manager.stored = none) : Erasable s action token := by
  obtain ⟨hmeets, hone, hclean⟩ := Transition.meets_concat hrun hmeets
  have h : Saved s := by
    refine Transition.meets_invariant ?_ hrun hmeets (newSessionManager_saved stored)
    rintro s action t h ⟨hone, hclean⟩ hnext
    exact h.next hone hclean hnext
  obtain ⟨operation, rfl, rfl⟩ | ⟨rfl, rfl⟩ |
    ⟨call, reply, phase, manager, phase', rfl, hphase, hmoves, rfl⟩ := next_cases hnext
  · cases hstored.symm.trans herased
  · cases hstored.symm.trans herased
  have hat := h.each call phase hphase token hstored
  change manager.stored = none at herased
  cases hmoves with
  | forgot | erasedRejected => exact .inr hat
  | erased => exact .inl ⟨call, _, _, rfl, hphase⟩
  | stored =>
      unfold SessionManager.store at herased
      split at herased
      · cases herased
      · cases hstored.symm.trans herased
  | _ => cases hstored.symm.trans herased

/-- A saved login is restored, and its refresh token is rejected later. -/
def rejectedCalls : List Action :=
  [.begin .restore, .step 0 (.storage ""),
    .step 0 (.auth ⟨⟨"user-1", "alice", "access", "rotated"⟩, "", 0⟩), .step 0 (.storage ""),
    .step 0 .none, .begin (.request .profile), .step 1 .none,
    .step 1 (.answer ⟨.profile {}, "expired", 401⟩), .step 1 .none, .step 1 .none,
    .step 1 (.auth ⟨⟨"", "", "", ""⟩, "refresh token is invalid", 401⟩), .step 1 .none, .step 1 .none]

theorem erased_only_when_invalid_rejected : ∃ s t,
    Transition.run next (newSessionManager (some "saved")) rejectedCalls = some s ∧
    next s (.step 1 (.storage "")) = some t ∧ s.memory.manager.stored = some "rotated" ∧
    t.memory.manager.stored = none ∧ Erasable s (.step 1 (.storage "")) "rotated" := by
  have hsome : (Transition.run next (newSessionManager (some "saved")) rejectedCalls).map
      (fun s => (s.memory.manager.stored,
        (next s (.step 1 (.storage ""))).map (fun t => t.memory.manager.stored))) =
          some (some "rotated", some none) := by
    decide +kernel
  obtain ⟨s, hrun, hfinal⟩ := Option.map_eq_some_iff.1 hsome
  obtain ⟨hstored, hlast⟩ := Prod.mk.inj hfinal
  obtain ⟨t, hnext, herased⟩ := Option.map_eq_some_iff.1 hlast
  exact ⟨s, t, hrun, hnext, hstored, herased,
    erased_only_when_invalid hrun (by decide +kernel) hnext hstored herased⟩

/-- The libraries of a client that is started offline. -/
def offline : Libraries where
  message := fun _ => none
  session := fun _ => .error "no body"
  errorName := fun _ => "Could not establish connection"

/-- `Restore` gets no response. -/
def offlineCalls : List Action :=
  [.begin .restore, .step 0 (.storage ""), .step 0 (.auth (parseAuth offline (.error 2)))]

def offlineState : State where
  memory :=
    { manager := { stored := some "saved" }
      refreshes := [⟨none, "saved", parseAuth offline (.error 2)⟩] }
  threads := [.forget "Gateway connection failed: Could not establish connection"]

/-- It erases the saved token. -/
theorem offline_restore_erases : ¬ ∀ stored actions s action t token,
    Transition.run next (newSessionManager stored) actions = some s → next s action = some t →
    s.memory.manager.stored = some token → t.memory.manager.stored = none →
      Erasable s action token := by
  intro hclaim
  have herasable := hclaim (some "saved") offlineCalls offlineState (.step 0 (.storage "")) _ "saved"
    (by decide +kernel) rfl rfl rfl
  rcases herasable with ⟨call, reply, error, haction, hcall⟩ | ⟨refresh, hrefresh, -, hstatus⟩
  · obtain ⟨rfl, rfl⟩ := Action.step.inj haction
    cases hcall
  · obtain rfl := List.mem_singleton.1 hrefresh
    cases hstatus

end PvpDuel.Auth
