import Mathlib.Data.List.Nodup
import PvpDuel.Client.SessionManager

/-!
# Refresh tokens are presented once

An access token is rejected, refreshed and replaced under `refreshMutex_`. Every session that the
gateway issues is assigned once at most, so a session that was refreshed and replaced never comes
back, and the look at the current access token under the mutex is enough.
-/

namespace PvpDuel.Auth

namespace Phase

/-- Inside `RefreshAfterUnauthorized`, with the mutex. -/
def Refreshes (phase : Phase) : Prop :=
  match phase.pastWarning with
  | .check _ _ | .refresh _ _ _ | .failed _ _ _ | .clearRejected _ _ _ | .eraseRejected _ _
  | .issued _ _ _ | .hasSession _ | .unlock _ _ => True
  | .store _ (.refreshed _ _) | .assign _ (.refreshed _ _) => True
  | _ => False

/-- The access token whose session was refreshed and may still be the session. -/
def settling (phase : Phase) : Option String :=
  match phase.pastWarning with
  | .failed _ rejected _ | .clearRejected _ rejected _ | .issued _ rejected _ => some rejected
  | .store _ (.refreshed _ rejected) | .assign _ (.refreshed _ rejected) => some rejected
  | _ => none

def carried (phase : Phase) : Option AuthSession :=
  match phase.pastWarning with
  | .issued _ _ session | .store session _ | .assign session _ => some session
  | _ => none

/-- The rejected access token and the session of it that is to be refreshed. -/
def presents (phase : Phase) : Option (String × AuthSession) :=
  match phase.pastWarning with
  | .refresh _ rejected before => some (rejected, before)
  | _ => none

/-- Inside `Restore`. -/
def Restores (phase : Phase) : Prop :=
  match phase.pastWarning with
  | .load | .restore _ | .forget _ => True
  | _ => False

theorem refreshes_of_settling {phase : Phase} {rejected : String}
    (h : phase.settling = some rejected) : phase.Refreshes := by
  unfold settling at h
  unfold Refreshes
  split at h <;> simp_all

theorem refreshes_of_presents {phase : Phase} {presented : String × AuthSession}
    (h : phase.presents = some presented) : phase.Refreshes := by
  unfold presents at h
  unfold Refreshes
  split at h <;> simp_all

end Phase

/-- The tokens of a session are not among those that were issued. -/
def NewTokens (issued : List AuthSession) (session : AuthSession) : Prop :=
  session.accessToken ∉ issued.map AuthSession.accessToken ∧
    session.refreshToken ∉ issued.map AuthSession.refreshToken

instance (issued : List AuthSession) (session : AuthSession) :
    Decidable (NewTokens issued session) := inferInstanceAs (Decidable (_ ∧ _))

/-- A session that was just issued has another access token than those issued before. -/
theorem NewTokens.ne {issued : List AuthSession} {session other : AuthSession}
    (h : NewTokens issued session) (hother : other ∈ issued) :
    session.accessToken ≠ other.accessToken :=
  fun heq => h.1 (heq ▸ List.mem_map_of_mem hother)

/-- The gateway issues tokens that it has not issued before. -/
def Action.Fresh (s : State) : Action → Prop
  | .step _ reply => ∀ session ∈ reply.issued, NewTokens s.memory.issued session
  | _ => True

instance (s : State) : ∀ action : Action, Decidable (action.Fresh s)
  | .step _ reply =>
      inferInstanceAs (Decidable (∀ session ∈ reply.issued, NewTokens s.memory.issued session))
  | .begin _ | .takeWarning => isTrue trivial

namespace SessionManager.Moves

variable {call : Nat} {m m' : SessionManager} {phase phase' : Phase} {reply : Reply}

theorem not_restores (h : Moves call m phase reply m' phase') (hphase : ¬ phase.Restores) :
    ¬ phase'.Restores := by
  cases h with
  | assigned =>
      rename_i after
      cases after <;> exact id
  | addedWarning => exact hphase
  | _ => simp_all [Phase.Restores, Phase.pastWarning, notAuthenticated]

theorem refreshMutex (h : Moves call m phase reply m' phase')
    (hphase : phase.Refreshes → m.refreshMutex = some call) :
    (phase'.Refreshes → m'.refreshMutex = some call) ∧
      (m'.refreshMutex = m.refreshMutex ∨ m.refreshMutex = none ∨ m.refreshMutex = some call) := by
  cases h with
  | @stored session after storageError =>
      unfold Phase.Refreshes
      rw [pastWarning_warned]
      cases after <;> simp_all [Phase.Refreshes, Phase.pastWarning]
  | @assigned session after =>
      cases after <;> simp_all [Phase.Refreshes, Phase.pastWarning, After.phase]
  | addedWarning => exact ⟨hphase, .inl rfl⟩
  | _ => simp_all [Phase.Refreshes, Phase.pastWarning, notAuthenticated]

theorem session_cases (h : Moves call m phase reply m' phase') :
    m'.session = m.session ∨ m'.session = none ∨
      ∃ session, phase.carried = some session ∧ m'.session = some session := by
  cases h with
  | assigned => exact .inr (.inr ⟨_, rfl, rfl⟩)
  | clearedToken | cleared | clearedRejected => exact .inr (.inl rfl)
  | stored => exact .inl (m.store_session _ _)
  | forgot | erased | erasedRejected => exact .inl (m.erase_session _)
  | _ => exact .inl rfl

/-- A session that is to be assigned was just issued or was to be assigned before, and then the step
is not the assignment. -/
theorem carried (h : Moves call m phase reply m' phase') {session : AuthSession}
    (hcarried : phase'.carried = some session) :
    session ∈ reply.issued ∨ phase.carried = some session ∧
      (m'.session = m.session ∨ m'.session = none) := by
  cases h with
  | stored =>
      unfold Phase.carried at hcarried
      rw [pastWarning_warned] at hcarried
      exact .inr ⟨hcarried, .inl (m.store_session _ _)⟩
  | @assigned session after => cases after <;> cases hcarried
  | addedWarning | adopted => exact .inr ⟨hcarried, .inl rfl⟩
  | restored hok | signedIn hok | refreshed hok =>
      cases hcarried
      simp [Reply.issued, hok]
  | forgot | erasedRejected => simp [Phase.carried, Phase.pastWarning] at hcarried
  | _ => cases hcarried

/-- A session is to be refreshed where it was the session, under the mutex. -/
theorem presents (h : Moves call m phase reply m' phase') {rejected : String}
    {before : AuthSession} (hpresents : phase'.presents = some (rejected, before)) :
    reply = .none ∧ (phase.presents = some (rejected, before) ∨
      phase.Refreshes ∧ phase.settling = none ∧ m.session = some before ∧
        before.accessToken = rejected) := by
  cases h with
  | stored | forgot | erasedRejected => simp [Phase.presents, Phase.pastWarning] at hpresents
  | @assigned session after => cases after <;> cases hpresents
  | addedWarning => exact ⟨rfl, .inl hpresents⟩
  | checked hsession =>
      cases hpresents
      exact ⟨rfl, .inr ⟨trivial, rfl, hsession, rfl⟩⟩
  | _ => cases hpresents

theorem refreshes_cases (h : Moves call m phase reply m' phase') (hphase : ¬ phase.Restores) :
    phase.refreshes reply = [] ∨ ∃ rejected before result,
      phase.presents = some (rejected, before) ∧ phase'.settling = some rejected ∧
      phase.refreshes reply = [⟨some rejected, before.refreshToken, result⟩] := by
  cases h with
  | restored | invalid => exact absurd trivial hphase
  | refreshed | notRefreshed => exact .inr ⟨_, _, _, rfl, rfl, rfl⟩
  | _ => exact .inl rfl

/-- A refreshed session is settled where it is not the session any more. -/
theorem settling (h : Moves call m phase reply m' phase') {rejected : String}
    (hsettling : phase.settling = some rejected) :
    phase'.settling = some rejected ∨ m'.session.map AuthSession.accessToken ≠ some rejected ∨
      ∃ session, phase.carried = some session ∧ m'.session = some session := by
  cases h with
  | @stored session after storageError =>
      unfold Phase.settling
      rw [pastWarning_warned]
      cases after <;> exact .inl hsettling
  | assigned => exact .inr (.inr ⟨_, rfl, rfl⟩)
  | addedWarning | stillRejected | adopted => exact .inl hsettling
  | clearedRejected => exact .inr (.inl (by simp))
  | failedLate hsession | issuedLate hsession =>
      cases hsettling
      exact .inr (.inl hsession)
  | _ => cases hsettling

end SessionManager.Moves

/-! ### What holds in every state -/

/-- Where a rejected access token is when a refresh token was presented for it: it is the access
token of an issued session, and that is the session no more or about to be replaced. -/
structure Presented (used : List String) (s : State) (call : RefreshCall) (x : AuthSession) :
    Prop where
  issued : x ∈ s.memory.issued
  rejected : call.rejected = some x.accessToken
  token : call.token = x.refreshToken
  used : x.accessToken ∈ used
  settled : s.memory.manager.session.map AuthSession.accessToken ≠ some x.accessToken ∨
    ∃ (i : Nat) (phase : Phase), s.threads[i]? = some phase ∧ phase.settling = some x.accessToken

/-- The access tokens in `used` have been those of the session. -/
structure Rotating (used : List String) (s : State) : Prop where
  locked : s.Locked Phase.Refreshes fun m => m.manager.refreshMutex
  restores : s.Each fun _ _ phase => ¬ phase.Restores
  accessTokens : (s.memory.issued.map AuthSession.accessToken).Nodup
  refreshTokens : (s.memory.issued.map AuthSession.refreshToken).Nodup
  used_issued : used ⊆ s.memory.issued.map AuthSession.accessToken
  session : ∀ x, s.memory.manager.session = some x → x ∈ s.memory.issued ∧ x.accessToken ∈ used
  carried : s.Each fun m _ phase => ∀ x, phase.carried = some x →
    x ∈ m.issued ∧ x.accessToken ∉ used
  apart : s.Apart fun phase other => ∀ x y, phase.carried = some x → other.carried = some y →
    x.accessToken ≠ y.accessToken
  presents : s.Each fun m _ phase => ∀ rejected before, phase.presents = some (rejected, before) →
    before ∈ m.issued ∧ before.accessToken = rejected ∧ rejected ∈ used ∧
      some rejected ∉ m.refreshes.map RefreshCall.rejected
  presented : ∀ call ∈ s.memory.refreshes, ∃ x, Presented used s call x
  once : (s.memory.refreshes.map RefreshCall.rejected).Nodup

variable {s t : State} {action : Action} {used : List String}

@[simp] theorem refreshes_none (phase : Phase) : phase.refreshes .none = [] := by
  cases phase <;> rfl

theorem nodup_issued {token : AuthSession → String} {issued : List AuthSession} {reply : Reply}
    (h : (issued.map token).Nodup) (hfresh : ∀ x ∈ reply.issued, token x ∉ issued.map token) :
    ((issued ++ reply.issued).map token).Nodup := by
  rw [List.map_append, List.nodup_append]
  refine ⟨h, ?_, ?_⟩
  · unfold Reply.issued
    split
    · split <;> simp
    · exact List.nodup_nil
  · intro a ha b hb heq
    obtain ⟨x, hx, rfl⟩ := List.mem_map.1 hb
    exact hfresh x hx (heq ▸ ha)

namespace Rotating

section Move

variable {call : Nat} {phase phase' : Phase} {reply : Reply} {manager : SessionManager}
  (h : Rotating used s) (hphase : s.threads[call]? = some phase)
  (hmoves : SessionManager.Moves call s.memory.manager phase reply manager phase')

include h hphase hmoves

theorem move_presented {used' : List String} (hused : used ⊆ used') {refresh : RefreshCall}
    {x : AuthSession} (hx : Presented used s refresh x) :
    Presented used' (s.move call (s.memory.record manager phase reply) phase') refresh x := by
  refine ⟨List.mem_append_left _ hx.issued, hx.rejected, hx.token, hused hx.used, ?_⟩
  have hassigned : (∃ session, phase.carried = some session ∧ manager.session = some session) →
      manager.session.map AuthSession.accessToken ≠ some x.accessToken := by
    rintro ⟨session, hcarried, hsession⟩ heq
    rw [hsession] at heq
    have hnew := (h.carried call phase hphase session hcarried).2
    rw [show session.accessToken = x.accessToken from Option.some.inj heq] at hnew
    exact hnew hx.used
  show manager.session.map AuthSession.accessToken ≠ some x.accessToken ∨ _
  rcases hx.settled with hsettled | ⟨i, point, hpoint, hsettling⟩
  · left
    rcases hmoves.session_cases with hsame | hnone | hnew
    · rwa [hsame]
    · simp [hnone]
    · exact hassigned hnew
  · by_cases hi : i = call
    · subst hi
      rw [hphase] at hpoint
      obtain rfl := Option.some.inj hpoint
      rcases hmoves.settling hsettling with hstill | hgone | hnew
      · exact .inr ⟨i, phase', (Threads.State.getElem?_move hphase).2 (.inl ⟨rfl, rfl⟩), hstill⟩
      · exact .inl hgone
      · exact .inl (hassigned hnew)
    · exact .inr ⟨i, point, (Threads.State.getElem?_move hphase).2 (.inr ⟨hi, hpoint⟩), hsettling⟩

theorem move_used : ∃ used', used ⊆ used' ∧
    (∀ x, manager.session = some x → x ∈ s.memory.issued ∧ x.accessToken ∈ used') ∧
    ∀ token ∈ used', token ∈ used ∨
      ∃ x, phase.carried = some x ∧ x.accessToken = token ∧ manager.session = some x := by
  rcases hmoves.session_cases with hsame | hnone | ⟨x, hcarried, hsession⟩
  · exact ⟨used, List.Subset.refl _, hsame ▸ h.session, fun token htoken => .inl htoken⟩
  · exact ⟨used, List.Subset.refl _, by simp [hnone], fun token htoken => .inl htoken⟩
  · refine ⟨x.accessToken :: used, List.subset_cons_self _ _, ?_, ?_⟩
    · rintro y hy
      obtain rfl := Option.some.inj (hsession.symm.trans hy)
      exact ⟨(h.carried call phase hphase x hcarried).1, List.mem_cons_self⟩
    · intro token htoken
      rcases List.mem_cons.1 htoken with rfl | hold
      · exact .inr ⟨x, hcarried, rfl, hsession⟩
      · exact .inl hold

/-- Nobody was refreshed for the session that a call is about to refresh. -/
theorem move_presents {rejected : String} {before : AuthSession}
    (hpresents : phase'.presents = some (rejected, before)) :
    before ∈ s.memory.issued ∧ before.accessToken = rejected ∧ rejected ∈ used ∧
      some rejected ∉ s.memory.refreshes.map RefreshCall.rejected := by
  obtain ⟨rfl, hold | ⟨hrefreshes, hsettling, hsession, rfl⟩⟩ := hmoves.presents hpresents
  · exact h.presents call phase hphase rejected before hold
  refine ⟨(h.session before hsession).1, rfl, (h.session before hsession).2, ?_⟩
  intro hmem
  obtain ⟨refresh, hrefresh, hrejected⟩ := List.mem_map.1 hmem
  obtain ⟨x, hx⟩ := h.presented refresh hrefresh
  have haccess : x.accessToken = before.accessToken :=
    Option.some.inj (hx.rejected.symm.trans hrejected)
  rcases hx.settled with hsettled | ⟨i, point, hpoint, hstill⟩
  · rw [hsession, haccess] at hsettled
    exact hsettled rfl
  · -- Only the call that holds the mutex settles a session, and this one does not.
    obtain rfl := h.locked.unique hpoint hphase (Phase.refreshes_of_settling hstill) hrefreshes
    rw [hphase] at hpoint
    obtain rfl := Option.some.inj hpoint
    rw [hsettling] at hstill
    cases hstill

theorem move_carried (hfresh : ∀ session ∈ reply.issued, NewTokens s.memory.issued session)
    {used' : List String} (hnew : ∀ token ∈ used', token ∈ used ∨
      ∃ x, phase.carried = some x ∧ x.accessToken = token ∧ manager.session = some x)
    {x : AuthSession} (hx : phase'.carried = some x) :
    x ∈ s.memory.issued ++ reply.issued ∧ x.accessToken ∉ used' := by
  rcases hmoves.carried hx with hin | ⟨hold, hsame⟩
  · refine ⟨List.mem_append_right _ hin, fun hmem => ?_⟩
    rcases hnew _ hmem with hmem | ⟨y, hy, heq, -⟩
    · exact (hfresh x hin).1 (h.used_issued hmem)
    · exact (hfresh x hin).ne (h.carried call phase hphase y hy).1 heq.symm
  · obtain ⟨hin, hunused⟩ := h.carried call phase hphase x hold
    refine ⟨List.mem_append_left _ hin, fun hmem => ?_⟩
    rcases hnew _ hmem with hmem | ⟨y, hy, heq, hassigned⟩
    · exact hunused hmem
    · rcases hsame with hsame | hnone
      · exact hunused (heq ▸ (h.session y (hsame ▸ hassigned)).2)
      · rw [hassigned] at hnone
        cases hnone

/-- Every refresh was of an issued session, also the one of this step. -/
theorem move_refreshes {used' : List String} (hused : used ⊆ used') {refresh : RefreshCall}
    (hrefresh : refresh ∈ s.memory.refreshes ++ phase.refreshes reply) :
    ∃ x, Presented used' (s.move call (s.memory.record manager phase reply) phase') refresh x := by
  rcases List.mem_append.1 hrefresh with hold | hpresent
  · obtain ⟨x, hx⟩ := h.presented refresh hold
    exact ⟨x, h.move_presented hphase hmoves hused hx⟩
  · rcases hmoves.refreshes_cases (h.restores call phase hphase) with
      hnil | ⟨rejected, before, result, hpresents, hsettling, heq⟩
    · rw [hnil] at hpresent
      cases hpresent
    · rw [heq] at hpresent
      obtain rfl := List.mem_singleton.1 hpresent
      obtain ⟨hin, rfl, hmem, -⟩ := h.presents call phase hphase rejected before hpresents
      exact ⟨before, List.mem_append_left _ hin, rfl, rfl, hused hmem, .inr ⟨call, phase',
        (Threads.State.getElem?_move hphase).2 (.inl ⟨rfl, rfl⟩), hsettling⟩⟩

theorem move_once : ((s.memory.refreshes ++ phase.refreshes reply).map
    RefreshCall.rejected).Nodup := by
  rcases hmoves.refreshes_cases (h.restores call phase hphase) with
    hnil | ⟨rejected, before, result, hpresents, -, heq⟩
  · rw [hnil, List.append_nil]
    exact h.once
  · rw [heq, List.map_append, List.map_singleton, ← List.concat_eq_append, List.nodup_concat]
    exact ⟨(h.presents call phase hphase rejected before hpresents).2.2.2, h.once⟩

theorem move (hfresh : ∀ session ∈ reply.issued, NewTokens s.memory.issued session) :
    ∃ used', Rotating used' (s.move call (s.memory.record manager phase reply) phase') := by
  obtain ⟨used', hused, hsession, hnew⟩ := h.move_used hphase hmoves
  refine ⟨used', ?_⟩
  have hissued : s.memory.issued ⊆ (s.memory.record manager phase reply).issued :=
    List.subset_append_left _ _
  obtain ⟨hinside, hholder⟩ := hmoves.refreshMutex (h.locked call phase hphase)
  exact {
    locked := h.locked.move hphase hinside hholder
    restores := h.restores.move hphase (hmoves.not_restores (h.restores call phase hphase))
      fun _ _ _ _ hrest => hrest
    accessTokens := nodup_issued h.accessTokens fun x hx => (hfresh x hx).1
    refreshTokens := nodup_issued h.refreshTokens fun x hx => (hfresh x hx).2
    used_issued := by
      intro token htoken
      refine List.map_subset _ hissued ?_
      rcases hnew token htoken with hold | ⟨x, hx, rfl, -⟩
      · exact h.used_issued hold
      · exact List.mem_map_of_mem (h.carried call phase hphase x hx).1
    session := fun x hx => ⟨hissued (hsession x hx).1, (hsession x hx).2⟩
    carried := by
      refine h.carried.move hphase (fun x hx => h.move_carried hphase hmoves hfresh hnew hx) ?_
      intro j other hj hpoint hold y hy
      refine ⟨hissued (hold y hy).1, fun hmem => ?_⟩
      rcases hnew _ hmem with hmem | ⟨x, hx, heq, -⟩
      · exact (hold y hy).2 hmem
      · exact h.apart call j phase other hj.symm hphase hpoint x y hx hy heq
    apart := by
      refine h.apart.move (fun _ _ hne x y hx hy => (hne y x hy hx).symm) hphase ?_
      intro j other hj hpoint x y hx hy
      rcases hmoves.carried hx with hin | ⟨hold, -⟩
      · exact (hfresh x hin).ne (h.carried j other hpoint y hy).1
      · exact h.apart call j phase other hj.symm hphase hpoint x y hold hy
    presents := by
      refine h.presents.move hphase ?_ ?_
      · intro rejected before hpresents
        obtain ⟨hin, haccess, hmem, hnone⟩ := h.move_presents hphase hmoves hpresents
        refine ⟨hissued hin, haccess, hused hmem, ?_⟩
        rw [(hmoves.presents hpresents).1]
        simpa [Memory.record] using hnone
      · intro j other hj hpoint hold rejected before hpresents
        obtain ⟨hin, haccess, hmem, hnone⟩ := hold rejected before hpresents
        refine ⟨hissued hin, haccess, hused hmem, ?_⟩
        have hnil : phase.refreshes reply = [] := by
          rcases hmoves.refreshes_cases (h.restores call phase hphase) with
            hnil | ⟨_, _, _, hmine, -⟩
          · exact hnil
          · exact absurd (h.locked.unique hpoint hphase (Phase.refreshes_of_presents hpresents)
              (Phase.refreshes_of_presents hmine)) hj
        simpa [Memory.record, hnil] using hnone
    presented := fun refresh hrefresh => h.move_refreshes hphase hmoves hused hrefresh
    once := h.move_once hphase hmoves }

end Move

theorem spawn (h : Rotating used s) {operation : Operation} (hrestore : operation ≠ .restore) :
    Rotating used (s.spawn operation.phase) := by
  have hnone : ¬ operation.phase.Refreshes ∧ ¬ operation.phase.Restores ∧
      operation.phase.carried = none ∧ operation.phase.presents = none := by
    cases operation <;> simp_all [Operation.phase, Phase.Refreshes, Phase.Restores, Phase.carried,
      Phase.presents, Phase.pastWarning]
  obtain ⟨hrefreshes, hrestores, hcarried, hpresents⟩ := hnone
  exact {
    h with
    locked := Threads.State.Each.spawn h.locked fun hin => absurd hin hrefreshes
    restores := h.restores.spawn hrestores
    carried := h.carried.spawn (by simp [hcarried])
    apart := h.apart.spawn (fun _ _ hne x y hx hy => (hne y x hy hx).symm) (by simp [hcarried])
    presents := h.presents.spawn (by simp [hpresents])
    presented := by
      intro refresh hrefresh
      obtain ⟨x, hx⟩ := h.presented refresh hrefresh
      refine ⟨x, { hx with settled := hx.settled.imp_right ?_ }⟩
      rintro ⟨i, phase, hphase, hsettling⟩
      exact ⟨i, phase, Threads.State.getElem?_spawn_of hphase, hsettling⟩ }

theorem next (h : Rotating used s) (hrestore : action ≠ .begin .restore)
    (hfresh : action.Fresh s) (hnext : PvpDuel.Auth.next s action = some t) :
    ∃ used', Rotating used' t := by
  obtain ⟨operation, rfl, rfl⟩ | ⟨rfl, rfl⟩ |
    ⟨call, reply, phase, manager, phase', rfl, hphase, hmoves, rfl⟩ := next_cases hnext
  · exact ⟨used, h.spawn (fun heq => hrestore (heq ▸ rfl))⟩
  · exact ⟨used, { h with
      presented := fun refresh hrefresh => (h.presented refresh hrefresh).imp
        fun x hx => { hx with } }⟩
  · exact h.move hphase hmoves hfresh

theorem nodup_tokens (h : Rotating used s) : (s.memory.refreshes.map RefreshCall.token).Nodup := by
  refine List.Nodup.map_on ?_ h.once.of_map
  intro refresh hrefresh other hother htoken
  obtain ⟨x, hx⟩ := h.presented refresh hrefresh
  obtain ⟨y, hy⟩ := h.presented other hother
  rw [hx.token, hy.token] at htoken
  obtain rfl := List.inj_on_of_nodup_map h.refreshTokens hx.issued hy.issued htoken
  exact List.inj_on_of_nodup_map h.once hrefresh hother (hx.rejected.trans hy.rejected.symm)

end Rotating

/-- A manager with this session, or without one, that no call is running of. -/
def idleManager (stored : Option String) (session : Option AuthSession) : State :=
  ⟨{ manager := { stored, session }, issued := session.toList }, []⟩

theorem idleManager_rotating (stored : Option String) (session : Option AuthSession) :
    Rotating ((idleManager stored session).memory.issued.map AuthSession.accessToken)
      (idleManager stored session) := by
  cases session <;> constructor <;>
    simp [idleManager, Threads.State.Locked, Threads.State.Each, Threads.State.Apart]

/-- In every run without a `Restore`, against a gateway whose tokens are always new, no refresh
token is presented twice, and a rejected access token is refreshed once at most. -/
theorem refresh_presented_once {stored : Option String} {session : Option AuthSession}
    {actions : List Action}
    (hrun : Transition.run next (idleManager stored session) actions = some s)
    (hrestore : .begin .restore ∉ actions)
    (hfresh : Transition.Meets next (fun s action => action.Fresh s) (idleManager stored session)
      actions) :
    (s.memory.refreshes.map RefreshCall.token).Nodup ∧
      ∀ accessToken, (s.memory.refreshes.map RefreshCall.rejected).count (some accessToken) ≤ 1 := by
  have hrotating : ∃ used, Rotating used s := by
    refine Transition.meets_invariant (P := fun s => ∃ used, Rotating used s) ?_ hrun
      (Transition.meets_and_forall hfresh (Q := fun action => action ≠ .begin .restore) ?_)
      ⟨_, idleManager_rotating stored session⟩
    · rintro s action t ⟨used, h⟩ ⟨hfresh, hrestore⟩ hnext
      exact h.next hrestore hfresh hnext
    · rintro action haction rfl
      exact hrestore haction
  obtain ⟨used, h⟩ := hrotating
  exact ⟨h.nodup_tokens, fun accessToken => List.nodup_iff_count_le_one.1 h.once _⟩

/-- Two requests are rejected under one access token, and a third one under the next. -/
def sharedCalls : List Action :=
  [.begin (.request .profile), .begin (.request .joinQueue), .step 0 .none, .step 1 .none,
    .step 0 (.answer ⟨.profile {}, "expired", 401⟩), .step 1 (.answer ⟨.queue {}, "expired", 401⟩),
    .step 0 .none, .step 0 .none,
    .step 0 (.auth ⟨⟨"user-1", "alice", "access-1", "refresh-1"⟩, "", 0⟩), .step 0 .none,
    .step 0 (.storage ""), .step 0 .none, .step 0 .none, .step 0 .none,
    .step 1 .none, .step 1 .none, .step 1 .none, .step 1 .none, .step 1 (.answer ⟨.queue {}, "", 0⟩),
    .begin (.request .queueStatus), .step 2 .none, .step 2 (.answer ⟨.queue {}, "expired", 401⟩),
    .step 2 .none, .step 2 .none,
    .step 2 (.auth ⟨⟨"user-1", "alice", "access-2", "refresh-2"⟩, "", 0⟩)]

theorem refresh_presented_once_shared : ∃ s,
    Transition.run next
      (idleManager (some "refresh-0") (some ⟨"user-1", "alice", "access-0", "refresh-0"⟩))
      sharedCalls = some s ∧
    s.memory.refreshes.map RefreshCall.token = ["refresh-0", "refresh-1"] ∧
    (s.memory.refreshes.map RefreshCall.token).Nodup ∧
    (s.memory.refreshes.map RefreshCall.rejected).count (some "access-0") ≤ 1 := by
  have htokens : (Transition.run next
      (idleManager (some "refresh-0") (some ⟨"user-1", "alice", "access-0", "refresh-0"⟩))
      sharedCalls).map (fun s => s.memory.refreshes.map RefreshCall.token) =
        some ["refresh-0", "refresh-1"] := by
    decide +kernel
  obtain ⟨s, hrun, hrefreshes⟩ := Option.map_eq_some_iff.1 htokens
  obtain ⟨hnodup, hcount⟩ := refresh_presented_once hrun (by decide) (by decide +kernel)
  exact ⟨s, hrun, hrefreshes, hnodup, hcount "access-0"⟩

end PvpDuel.Auth
