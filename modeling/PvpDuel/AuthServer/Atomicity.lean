import PvpDuel.AuthServer.Store

/-!
# Calls that fail in the middle

A call of `Refresh` that fails before the rotation, and a call of `Register` that fails before the user is
created, leave the store as it was. Nothing is undone after that: the exchanged token is gone, and the
user stays.
-/

namespace PvpDuel.AuthServer

variable {η σ : Type} [DecidableEq η]

namespace Store

variable (store : Store σ η) (service : Service η)

/-! ### What a failed call must leave -/

/-- A later call of `Refresh` in which nothing fails exchanges the token, from what a store holds. -/
def Accepts (m : MemoryStore η) (raw : String) (later : Draw) : Prop :=
  ∃ result, (memoryStore.refresh service m raw later).2 = .ok result

/-- A later call of `Register` in which nothing fails succeeds, from what a store holds. -/
def Registers (m : MemoryStore η) (login password : String) (later : Draw) : Prop :=
  ∃ result, (memoryStore.register service m login password later).2 = .ok result

/-- When this call of `Refresh` fails with another error than that of an invalid token, the token is
still accepted by every later call that would have accepted it. -/
def KeepsToken (s : σ) (raw : String) (draw : Draw) : Prop :=
  ∀ s' err, store.refresh service s raw draw = (s', .error err) →
    err.is .refreshTokenInvalid = false →
    ∀ later : Draw, draw.rotatedAt ≤ later.rotatedAt →
      Accepts service (store.view s) raw later → Accepts service (store.view s') raw later

/-- When this call of `Register` fails with another error than its own, there is no user with the login
who was not there before, and every later call that would have succeeded still does. -/
def KeepsLogin (s : σ) (login password : String) (draw : Draw) : Prop :=
  ∀ s' err, store.register service s login password draw = (s', .error err) →
    err.is .userExists = false → err.is .invalidLogin = false → err.is .invalidPassword = false →
    (∀ id, (store.view s').userIDByLogin (service.normalizeLogin login) = some id →
      (store.view s).userIDByLogin (service.normalizeLogin login) = some id) ∧
    ∀ later, Registers service (store.view s) login password later →
      Registers service (store.view s') login password later

/-! ### When it does not -/

/-- The rotation succeeds, for a user who is there, and then the user cannot be read or the access token
cannot be signed. -/
def FailsAfterRotation (s : σ) (raw : String) (draw : Draw) : Prop :=
  raw ≠ "" ∧ ∃ newRaw replacement s₁ userID user,
    service.newRefresh draw.generatedAt "" draw.toAnswers = .ok (newRaw, replacement) ∧
    store.rotateRefreshToken s draw.rotatedAt (service.refreshHash raw) replacement =
      (s₁, .ok userID) ∧
    (store.view s).usersByID userID = some user ∧
    ((∃ err, (store.userByID s₁ userID).2 = .error err) ∨ ∃ text, draw.signed = .error text)

/-- The user is created, and then the access token cannot be signed, or the refresh token cannot be
generated or saved. -/
def FailsAfterCreation (s : σ) (login password : String) (draw : Draw) : Prop :=
  loginPattern (service.normalizeLogin login) ∧ validatePassword password = .ok () ∧
    ∃ passwordHash s₁, draw.passwordHash = .ok passwordHash ∧
      let user := newUser (service.normalizeLogin login) passwordHash draw
      store.createUser s user = (s₁, .ok ()) ∧
      ((∃ text, draw.signed = .error text) ∨ (∃ text, draw.random = .error text) ∨
        ∃ raw token err, service.newRefresh draw.generatedAt user.id draw.toAnswers = .ok (raw, token) ∧
          (store.saveRefreshToken s₁ token).2 = .error err)

/-! ### Refresh -/

section Refresh

variable {store service} {s s₁ s' : σ} {raw newRaw userID : String} {replacement : RefreshToken η}
  {draw : Draw} {err : AuthError}

omit [DecidableEq η] in
theorem issueAccess_of_signed {signed : String} (now : Nat) (h : draw.signed = .ok signed) :
    service.issueAccess now draw.toAnswers = .ok (signed, now + service.accessTTL) := by
  rw [Service.issueAccess, h]

omit [DecidableEq η] in
theorem issueAccess_of_error {text : String} (now : Nat) (h : draw.signed = .error text) :
    service.issueAccess now draw.toAnswers =
      .error (.wrapped "sign access token" (.library text)) := by
  rw [Service.issueAccess, h]

/-- After the exchange the store stays as it is, and the call fails exactly when the user cannot be read
or the access token cannot be signed. -/
theorem exchanged_cases (store : Store σ η) (service : Service η) (s₁ : σ) (userID newRaw : String)
    (replacement : RefreshToken η) (draw : Draw) :
    store.view (store.exchanged service s₁ userID newRaw replacement draw).1 = store.view s₁ ∧
    ((∃ err, (store.exchanged service s₁ userID newRaw replacement draw).2 = .error err ∧
        err.is .refreshTokenInvalid = false ∧
        ((∃ err, (store.userByID s₁ userID).2 = .error err) ∨ ∃ text, draw.signed = .error text)) ∨
      ∃ result, (store.exchanged service s₁ userID newRaw replacement draw).2 = .ok result ∧
        (∃ user, (store.userByID s₁ userID).2 = .ok user) ∧ ∃ signed, draw.signed = .ok signed) := by
  obtain ⟨hview, hspec⟩ := store.userByID_spec s₁ userID
  rcases hfound : store.userByID s₁ userID with ⟨s₂, err | user⟩
  · rw [hfound] at hview hspec
    have heq : store.exchanged service s₁ userID newRaw replacement draw =
        (s₂, .error (.wrapped "get refresh token user" err)) := by
      simp only [exchanged, hfound]
    have hnot : err.is .refreshTokenInvalid = false := by
      rcases hspec with hmemory | ⟨err', herr, hforeign⟩
      · unfold MemoryStore.userByID at hmemory
        split at hmemory
        · rw [Except.error.inj hmemory]
          rfl
        · cases hmemory
      · rw [Except.error.inj herr]
        exact hforeign.not_is id
    rw [heq]
    exact ⟨hview, .inl ⟨_, rfl, hnot, .inl ⟨err, rfl⟩⟩⟩
  · rw [hfound] at hview
    cases hsigned : draw.signed with
    | error text =>
        have heq : store.exchanged service s₁ userID newRaw replacement draw =
            (s₂, .error (.wrapped "sign access token" (.library text))) := by
          simp only [exchanged, hfound, issueAccess_of_error _ hsigned]
        rw [heq]
        exact ⟨hview, .inl ⟨_, rfl, rfl, .inr ⟨text, rfl⟩⟩⟩
    | ok signed =>
        have heq : store.exchanged service s₁ userID newRaw replacement draw =
            (s₂, .ok (user, ⟨signed, newRaw, draw.signedAt + service.accessTTL,
              replacement.expiresAt⟩)) := by
          simp only [exchanged, hfound, issueAccess_of_signed _ hsigned]
        rw [heq]
        exact ⟨hview, .inr ⟨_, rfl, ⟨user, rfl⟩, signed, rfl⟩⟩

/-- What a call of `Refresh` does: it fails with the store as it was, it finds the token invalid, or it
exchanges the token and goes on from there. -/
theorem refresh_cases (store : Store σ η) (service : Service η) (s : σ) (raw : String) (draw : Draw) :
    (∃ s' err, store.refresh service s raw draw = (s', .error err) ∧ store.view s' = store.view s) ∨
    (∃ s', store.refresh service s raw draw = (s', .error .refreshTokenInvalid)) ∨
    ∃ newRaw replacement s₁ userID, raw ≠ "" ∧
      service.newRefresh draw.generatedAt "" draw.toAnswers = .ok (newRaw, replacement) ∧
      store.rotateRefreshToken s draw.rotatedAt (service.refreshHash raw) replacement =
        (s₁, .ok userID) ∧
      (store.view s).rotateRefreshToken draw.rotatedAt (service.refreshHash raw) replacement =
        (store.view s₁, .ok userID) ∧
      store.refresh service s raw draw =
        store.exchanged service s₁ userID newRaw replacement draw := by
  by_cases hraw : raw = ""
  · exact .inr (.inl ⟨s, if_pos hraw⟩)
  rcases hnew : service.newRefresh draw.generatedAt "" draw.toAnswers with err | ⟨newRaw, replacement⟩
  · exact .inl ⟨s, err, by simp only [refresh, if_neg hraw, hnew], rfl⟩
  have hspec := store.rotateRefreshToken_spec s draw.rotatedAt (service.refreshHash raw) replacement
  rcases hrotated : store.rotateRefreshToken s draw.rotatedAt (service.refreshHash raw) replacement with
    ⟨s₁, err | userID⟩ <;> rw [hrotated] at hspec
  · rcases hspec with hmemory | ⟨hview, err', herr, hforeign⟩
    · have hinvalid : err = .refreshTokenInvalid := by
        unfold MemoryStore.rotateRefreshToken at hmemory
        split at hmemory
        · exact Except.error.inj (Prod.mk.inj hmemory).2
        · split_ifs at hmemory
          · cases (Prod.mk.inj hmemory).2
          · exact Except.error.inj (Prod.mk.inj hmemory).2
      subst hinvalid
      exact .inr (.inl ⟨s₁, by simp only [refresh, if_neg hraw, hnew, hrotated]; rfl⟩)
    · obtain rfl := Except.error.inj herr
      have hnot : err.is .refreshTokenInvalid = false := hforeign.not_is id
      refine .inl ⟨s₁, .wrapped "rotate refresh token" err, ?_, hview⟩
      simp only [refresh, if_neg hraw, hnew, hrotated, hnot, Bool.false_eq_true, if_false]
  · refine .inr (.inr ⟨newRaw, replacement, s₁, userID, hraw, rfl, hrotated, ?_, ?_⟩)
    · rcases hspec with hmemory | ⟨-, err, herr, -⟩
      · exact hmemory.symm
      · cases herr
    · simp only [refresh, if_neg hraw, hnew, hrotated]

/-- What a successful rotation leaves: the old token is gone, unless the new one has its hash. -/
theorem rotateRefreshToken_ok {m m' : MemoryStore η} {now : Nat} {oldHash : η}
    (h : m.rotateRefreshToken now oldHash replacement = (m', .ok userID)) :
    ∃ old, m.refreshTokens oldHash = some old ∧ now < old.expiresAt ∧ old.userID = userID ∧
      m'.usersByID = m.usersByID ∧
      (replacement.hash ≠ oldHash → m'.refreshTokens oldHash = none) := by
  unfold MemoryStore.rotateRefreshToken at h
  split at h
  · cases (Prod.mk.inj h).2
  · rename_i old hold
    split_ifs at h with hlive
    · obtain ⟨rfl, hid⟩ := Prod.mk.inj h
      refine ⟨old, hold, hlive, Except.ok.inj hid, rfl, fun hne => ?_⟩
      exact (Function.update_of_ne hne.symm _ _).trans (Function.update_self ..)
    · cases (Prod.mk.inj h).2

/-- A token that is stored for a user who is there is accepted before its expiry, when nothing fails. -/
theorem accepts_of_live {m : MemoryStore η} {old : RefreshToken η} {user : User} {later : Draw}
    {bytes : List UInt8} {signed : String} (hraw : raw ≠ "")
    (hold : m.refreshTokens (service.refreshHash raw) = some old) (hlive : later.rotatedAt < old.expiresAt)
    (huser : m.usersByID old.userID = some user) (hrandom : later.random = .ok bytes)
    (hsigned : later.signed = .ok signed) : Accepts service m raw later := by
  have hrotated : ∀ replacement : RefreshToken η, m.rotateRefreshToken later.rotatedAt
      (service.refreshHash raw) replacement = ((m.revokeRefreshToken (service.refreshHash raw)
        ).saveRefreshToken { replacement with userID := old.userID }, .ok old.userID) := by
    intro replacement
    simp only [MemoryStore.rotateRefreshToken, hold, if_pos hlive]
  have hfound : ∀ token, ((m.revokeRefreshToken (service.refreshHash raw)).saveRefreshToken
      token).userByID old.userID = .ok user := by
    intro token
    simp only [MemoryStore.userByID, MemoryStore.saveRefreshToken, MemoryStore.revokeRefreshToken,
      huser]
  have hnew : service.newRefresh later.generatedAt "" later.toAnswers =
      .ok (service.encodeToString bytes, ⟨service.refreshHash (service.encodeToString bytes), "",
        later.generatedAt + service.refreshTTL, later.generatedAt⟩) := by
    simp only [Service.newRefresh, hrandom]
  refine ⟨?_, ?_⟩
  · exact (user, ⟨signed, service.encodeToString bytes, later.signedAt + service.accessTTL,
      later.generatedAt + service.refreshTTL⟩)
  · simp only [refresh, if_neg hraw, hnew, memoryStore, hrotated, exchanged, hfound,
      issueAccess_of_signed _ hsigned]

theorem not_accepts_of_gone {m : MemoryStore η} {later : Draw}
    (hgone : m.refreshTokens (service.refreshHash raw) = none) : ¬ Accepts service m raw later := by
  rintro ⟨result, hresult⟩
  obtain ⟨_, err, heq, -⟩ | ⟨_, heq⟩ | ⟨newRaw, replacement, s₁, userID, -, -, hrotated, -⟩ :=
    refresh_cases memoryStore service m raw later
  · rw [heq] at hresult
    cases hresult
  · rw [heq] at hresult
    cases hresult
  · obtain ⟨old, hold, -⟩ := rotateRefreshToken_ok hrotated
    rw [hgone] at hold
    cases hold

theorem user_of_accepts {m : MemoryStore η} {old : RefreshToken η} {later : Draw}
    (h : Accepts service m raw later) (hold : m.refreshTokens (service.refreshHash raw) = some old) :
    ∃ user, m.usersByID old.userID = some user := by
  obtain ⟨result, hresult⟩ := h
  obtain ⟨_, err, heq, -⟩ | ⟨_, heq⟩ | ⟨newRaw, replacement, s₁, userID, -, -, hrotated, -, heq⟩ :=
    refresh_cases memoryStore service m raw later
  · rw [heq] at hresult
    cases hresult
  · rw [heq] at hresult
    cases hresult
  obtain ⟨old', hold', -, rfl, husers, -⟩ := rotateRefreshToken_ok hrotated
  obtain rfl := Option.some.inj (hold.symm.trans hold')
  obtain ⟨-, ⟨err, herr, -⟩ | ⟨-, -, ⟨user, huser⟩, -⟩⟩ :=
    exchanged_cases memoryStore service s₁ old.userID newRaw replacement later
  · rw [heq, herr] at hresult
    cases hresult
  · change s₁.userByID old.userID = .ok user at huser
    unfold MemoryStore.userByID at huser
    rw [husers] at huser
    split at huser
    · cases huser
    · exact ⟨_, ‹_›⟩

omit [DecidableEq η] in
theorem newRefresh_hash {now : Nat} (h : service.newRefresh now userID draw.toAnswers =
    .ok (newRaw, replacement)) : ∃ bytes, draw.random = .ok bytes ∧
      replacement.hash = service.refreshHash (service.encodeToString bytes) := by
  unfold Service.newRefresh at h
  split at h
  · cases h
  · obtain ⟨-, rfl⟩ := Prod.mk.inj (Except.ok.inj h)
    exact ⟨_, ‹_›, rfl⟩

/-- After a rotation the token is gone, unless the new one has its hash. -/
theorem gone_of_rotated {m m' : MemoryStore η}
    (hfresh : ∀ bytes, draw.random = .ok bytes →
      service.refreshHash (service.encodeToString bytes) ≠ service.refreshHash raw)
    (hnew : service.newRefresh draw.generatedAt "" draw.toAnswers = .ok (newRaw, replacement))
    (hrotated : m.rotateRefreshToken draw.rotatedAt (service.refreshHash raw) replacement =
      (m', .ok userID)) : m'.refreshTokens (service.refreshHash raw) = none := by
  obtain ⟨bytes, hrandom, hhash⟩ := newRefresh_hash hnew
  obtain ⟨old, -, -, -, -, hgone⟩ := rotateRefreshToken_ok hrotated
  exact hgone (by rw [hhash]; exact hfresh bytes hrandom)

theorem not_keepsToken_of_fails (hfresh : ∀ bytes, draw.random = .ok bytes →
      service.refreshHash (service.encodeToString bytes) ≠ service.refreshHash raw)
    (h : store.FailsAfterRotation service s raw draw) : ¬ store.KeepsToken service s raw draw := by
  intro hkeeps
  obtain ⟨hraw, newRaw, replacement, s₁, userID, user, hnew, hrotated, huser, hfails⟩ := h
  have hmemory : (store.view s).rotateRefreshToken draw.rotatedAt (service.refreshHash raw)
      replacement = (store.view s₁, .ok userID) := by
    have hspec := store.rotateRefreshToken_spec s draw.rotatedAt (service.refreshHash raw) replacement
    rw [hrotated] at hspec
    rcases hspec with hmemory | ⟨-, err, herr, -⟩
    · exact hmemory.symm
    · cases herr
  have heq : store.refresh service s raw draw =
      store.exchanged service s₁ userID newRaw replacement draw := by
    simp only [refresh, if_neg hraw, hnew, hrotated]
  obtain ⟨bytes, hrandom, -⟩ := newRefresh_hash hnew
  obtain ⟨old, hold, hlive, rfl, -, -⟩ := rotateRefreshToken_ok hmemory
  obtain ⟨hview, ⟨err, herr, hnot, -⟩ | ⟨result, -, ⟨found, hfound⟩, signed, hsigned⟩⟩ :=
    exchanged_cases store service s₁ old.userID newRaw replacement draw
  · let later : Draw := { draw with signed := .ok "" }
    have haccepts : Accepts service (store.view s) raw later :=
      accepts_of_live hraw hold hlive huser hrandom rfl
    have hfailed : store.refresh service s raw draw =
        ((store.exchanged service s₁ old.userID newRaw replacement draw).1, .error err) := by
      rw [heq, ← herr]
    refine not_accepts_of_gone ?_ (hkeeps _ err hfailed hnot later (Nat.le_refl _) haccepts)
    rw [hview]
    exact gone_of_rotated hfresh hnew hmemory
  · rcases hfails with ⟨err, herr⟩ | ⟨text, htext⟩
    · exact absurd (hfound.symm.trans herr) (by simp)
    · exact absurd (hsigned.symm.trans htext) (by simp)

theorem keepsToken_of_not_fails (hnot : ¬ store.FailsAfterRotation service s raw draw) :
    store.KeepsToken service s raw draw := by
  intro s' err hfailed hother later hlater haccepts
  obtain ⟨_, _, heq, hview⟩ | ⟨_, heq⟩ | ⟨newRaw, replacement, s₁, userID, hraw, hnew, hrotated,
    hmemory, heq⟩ := refresh_cases store service s raw draw
  · obtain ⟨rfl, -⟩ := Prod.mk.inj (hfailed.symm.trans heq)
    rwa [hview]
  · obtain ⟨-, herr⟩ := Prod.mk.inj (hfailed.symm.trans heq)
    rw [Except.error.inj herr] at hother
    cases hother
  · -- The token was not accepted before: its user is not there.
    obtain ⟨old, hold, -, rfl, -⟩ := rotateRefreshToken_ok hmemory
    obtain ⟨-, ⟨_, -, -, hfails⟩ | ⟨result, hresult, -⟩⟩ :=
      exchanged_cases store service s₁ old.userID newRaw replacement draw
    · exfalso
      obtain ⟨user, huser⟩ := user_of_accepts haccepts hold
      exact hnot ⟨hraw, newRaw, replacement, s₁, old.userID, user, hnew, hrotated, huser, hfails⟩
    · rw [hfailed] at heq
      rw [← heq] at hresult
      cases hresult

/-- A failed call of `Refresh` keeps the token exactly when it has not failed after the rotation. -/
theorem keepsToken_iff (store : Store σ η) (service : Service η) (s : σ) (raw : String) (draw : Draw)
    (hfresh : ∀ bytes, draw.random = .ok bytes →
      service.refreshHash (service.encodeToString bytes) ≠ service.refreshHash raw) :
    store.KeepsToken service s raw draw ↔ ¬ store.FailsAfterRotation service s raw draw :=
  ⟨fun hkeeps hfails => not_keepsToken_of_fails hfresh hfails hkeeps, keepsToken_of_not_fails⟩

end Refresh

/-! ### Register -/

section Register

variable {store service} {s : σ} {login password : String} {draw : Draw}

/-- `issueTokens` stores a token or leaves the store as it was, and then it fails. -/
theorem issueTokens_cases (store : Store σ η) (service : Service η) (s : σ) (user : User)
    (draw : Draw) :
    (∃ result, (store.issueTokens service s user draw).2 = .ok result ∧
      (∃ signed, draw.signed = .ok signed) ∧ (∃ bytes, draw.random = .ok bytes) ∧
      ∀ raw token, service.newRefresh draw.generatedAt user.id draw.toAnswers = .ok (raw, token) →
        (store.saveRefreshToken s token).2 = .ok ()) ∨
    (store.view (store.issueTokens service s user draw).1 = store.view s ∧
      ∃ err, (store.issueTokens service s user draw).2 = .error err ∧ err.Foreign ∧
        ((∃ text, draw.signed = .error text) ∨ (∃ text, draw.random = .error text) ∨
          ∃ raw token err, service.newRefresh draw.generatedAt user.id draw.toAnswers =
              .ok (raw, token) ∧ (store.saveRefreshToken s token).2 = .error err)) := by
  cases hsigned : draw.signed with
  | error text =>
      have heq : store.issueTokens service s user draw =
          (s, .error (.wrapped "sign access token" (.library text))) := by
        simp only [issueTokens, issueAccess_of_error _ hsigned]
      rw [heq]
      exact .inr ⟨rfl, _, rfl, trivial, .inl ⟨text, rfl⟩⟩
  | ok signed =>
      cases hrandom : draw.random with
      | error text =>
          have hnew : service.newRefresh draw.generatedAt user.id draw.toAnswers =
              .error (.wrapped "generate refresh token" (.library text)) := by
            rw [Service.newRefresh, hrandom]
          have heq : store.issueTokens service s user draw =
              (s, .error (.wrapped "generate refresh token" (.library text))) := by
            simp only [issueTokens, issueAccess_of_signed _ hsigned, hnew]
          rw [heq]
          exact .inr ⟨rfl, _, rfl, trivial, .inr (.inl ⟨text, rfl⟩)⟩
      | ok bytes =>
          rcases hnew : service.newRefresh draw.generatedAt user.id draw.toAnswers with
            err | ⟨raw, token⟩
          · rw [Service.newRefresh, hrandom] at hnew
            cases hnew
          have hspec := store.saveRefreshToken_spec s token
          rcases hsaved : store.saveRefreshToken s token with ⟨s₁, err | done⟩ <;> rw [hsaved] at hspec
          · have heq : store.issueTokens service s user draw =
                (s₁, .error (.wrapped "save refresh token" err)) := by
              simp only [issueTokens, issueAccess_of_signed _ hsigned, hnew, hsaved]
            obtain ⟨hview, err', herr, hforeign⟩ := hspec.resolve_left fun h => by cases h.1
            obtain rfl := Except.error.inj herr
            rw [heq]
            exact .inr ⟨hview, _, rfl, hforeign, .inr (.inr ⟨raw, token, err, rfl, by rw [hsaved]⟩)⟩
          · have heq : store.issueTokens service s user draw =
                (s₁, .ok ⟨signed, raw, draw.signedAt + service.accessTTL, token.expiresAt⟩) := by
              simp only [issueTokens, issueAccess_of_signed _ hsigned, hnew, hsaved]
            rw [heq]
            refine .inl ⟨_, rfl, ⟨signed, rfl⟩, ⟨bytes, rfl⟩, ?_⟩
            intro raw' token' hmade
            obtain ⟨-, rfl⟩ := Prod.mk.inj (Except.ok.inj hmade)
            rw [hsaved]

/-- Once the user is created, `Register` fails exactly when no tokens are issued for him, and he stays. -/
theorem created_cases {passwordHash : List UInt8} {s₁ : σ}
    (hlogin : loginPattern (service.normalizeLogin login) = true)
    (hpassword : validatePassword password = .ok ()) (hhash : draw.passwordHash = .ok passwordHash)
    (hcreated : store.createUser s (newUser (service.normalizeLogin login) passwordHash draw) =
      (s₁, .ok ())) :
    (∃ s' err, store.register service s login password draw = (s', .error err) ∧ err.Foreign ∧
        store.view s' = store.view s₁ ∧ store.FailsAfterCreation service s login password draw) ∨
      ((∃ s' result, store.register service s login password draw = (s', .ok result)) ∧
        ¬ store.FailsAfterCreation service s login password draw) := by
  have hcases := store.issueTokens_cases service s₁
    (newUser (service.normalizeLogin login) passwordHash draw) draw
  rcases htokens : store.issueTokens service s₁
      (newUser (service.normalizeLogin login) passwordHash draw) draw with ⟨s₂, err | tokens⟩ <;>
    rw [htokens] at hcases
  · left
    obtain ⟨hview, err', herr, hforeign, hfails⟩ := hcases.resolve_left fun h => by
      obtain ⟨_, hresult, -⟩ := h
      cases hresult
    obtain rfl := Except.error.inj herr
    refine ⟨s₂, err, ?_, hforeign, hview, hlogin, hpassword, passwordHash, s₁, hhash, hcreated,
      hfails⟩
    simp only [register, if_pos hlogin, hpassword, hhash, hcreated, htokens]
  · right
    rcases hcases with ⟨-, -, ⟨signed, hsigned⟩, ⟨bytes, hrandom⟩, hsaves⟩ | ⟨-, err, herr, -⟩
    swap
    · cases herr
    refine ⟨⟨s₂, _, by simp only [register, if_pos hlogin, hpassword, hhash, hcreated, htokens]; rfl⟩,
      ?_⟩
    rintro ⟨-, -, passwordHash', s₁', hhash', hcreated', hfails⟩
    obtain rfl := Except.ok.inj (hhash.symm.trans hhash')
    obtain ⟨rfl, -⟩ := Prod.mk.inj (hcreated.symm.trans hcreated')
    rcases hfails with ⟨text, htext⟩ | ⟨text, htext⟩ | ⟨raw, token, err, hnew, herr⟩
    · exact absurd (hsigned.symm.trans htext) (by simp)
    · exact absurd (hrandom.symm.trans htext) (by simp)
    · exact absurd ((hsaves raw token hnew).symm.trans herr) (by simp)

/-- What a call of `Register` does: it fails with the store as it was, it finds its login or its password
invalid, or it creates the user and goes on from there. -/
theorem register_cases (store : Store σ η) (service : Service η) (s : σ) (login password : String)
    (draw : Draw) :
    (∃ s' err, store.register service s login password draw = (s', .error err) ∧
      store.view s' = store.view s ∧ ¬ store.FailsAfterCreation service s login password draw) ∨
    ∃ passwordHash s₁, loginPattern (service.normalizeLogin login) = true ∧
      validatePassword password = .ok () ∧ draw.passwordHash = .ok passwordHash ∧
      store.createUser s (newUser (service.normalizeLogin login) passwordHash draw) = (s₁, .ok ()) ∧
      (store.view s).createUser (newUser (service.normalizeLogin login) passwordHash draw) =
        .ok (store.view s₁) ∧
      ((∃ s' err, store.register service s login password draw = (s', .error err) ∧ err.Foreign ∧
          store.view s' = store.view s₁ ∧ store.FailsAfterCreation service s login password draw) ∨
        ((∃ s' result, store.register service s login password draw = (s', .ok result)) ∧
          ¬ store.FailsAfterCreation service s login password draw)) := by
  by_cases hlogin : loginPattern (service.normalizeLogin login) = true
  swap
  · exact .inl ⟨s, .invalidLogin, if_neg hlogin, rfl, fun h => hlogin h.1⟩
  rcases hpassword : validatePassword password with err | done
  · refine .inl ⟨s, err, by simp only [register, if_pos hlogin, hpassword], rfl, ?_⟩
    rintro ⟨-, hvalid, -⟩
    exact absurd (hpassword.symm.trans hvalid) (by simp)
  rcases hhash : draw.passwordHash with text | passwordHash
  · refine .inl ⟨s, .wrapped "hash password" (.library text), ?_, rfl, ?_⟩
    · simp only [register, if_pos hlogin, hpassword, hhash]
    · rintro ⟨-, -, passwordHash, s₁, hhash', -⟩
      exact absurd (hhash.symm.trans hhash') (by simp)
  have hspec := store.createUser_spec s (newUser (service.normalizeLogin login) passwordHash draw)
  rcases hcreated : store.createUser s (newUser (service.normalizeLogin login) passwordHash draw) with
    ⟨s₁, err | done⟩ <;> rw [hcreated] at hspec
  · obtain ⟨hview, -⟩ := hspec.resolve_left fun h => by cases h.1
    refine .inl ⟨s₁, .wrapped "create user" err, ?_, hview, ?_⟩
    · simp only [register, if_pos hlogin, hpassword, hhash, hcreated]
    · rintro ⟨-, -, passwordHash', s₁', hhash', hcreated', -⟩
      obtain rfl := Except.ok.inj (hhash.symm.trans hhash')
      exact absurd (congrArg Prod.snd (hcreated.symm.trans hcreated')) (by simp)
  · have hmemory : (store.view s).createUser (newUser (service.normalizeLogin login) passwordHash
        draw) = .ok (store.view s₁) := by
      rcases hspec with ⟨-, hmemory⟩ | ⟨-, err, herr, -⟩
      · exact hmemory
      · cases herr
    exact .inr ⟨passwordHash, s₁, hlogin, rfl, rfl, hcreated, hmemory,
      created_cases hlogin hpassword hhash hcreated⟩

omit [DecidableEq η] in
theorem createUser_ok {m m' : MemoryStore η} {user : User} (h : m.createUser user = .ok m') :
    m.userIDByLogin user.login = none ∧ m'.userIDByLogin user.login = some user.id := by
  unfold MemoryStore.createUser at h
  split at h
  · cases h
  · refine ⟨‹_›, ?_⟩
    rw [← Except.ok.inj h]
    exact Function.update_self ..

/-- A failed call of `Register` leaves no user exactly when it has not failed after the creation. -/
theorem keepsLogin_iff (store : Store σ η) (service : Service η) (s : σ) (login password : String)
    (draw : Draw) : store.KeepsLogin service s login password draw ↔
      ¬ store.FailsAfterCreation service s login password draw := by
  obtain ⟨s', err, heq, hview, hnot⟩ | ⟨passwordHash, s₁, -, -, -, -, hmemory,
    ⟨s', err, heq, hforeign, hview, hfails⟩ | ⟨⟨s', result, heq⟩, hnot⟩⟩ :=
    register_cases store service s login password draw
  · refine iff_of_true ?_ hnot
    intro s'' err' hfailed _ _ _
    obtain ⟨rfl, -⟩ := Prod.mk.inj (heq.symm.trans hfailed)
    rw [hview]
    exact ⟨fun _ h => h, fun _ h => h⟩
  · refine iff_of_false ?_ (not_not_intro hfails)
    intro hkeeps
    obtain ⟨hold, -⟩ := hkeeps s' err heq (hforeign.not_is id) (hforeign.not_is id) (hforeign.not_is id)
    obtain ⟨hnone, hsome⟩ := createUser_ok hmemory
    rw [← hview] at hsome
    exact absurd ((hold _ hsome).symm.trans hnone) (by simp)
  · refine iff_of_true ?_ hnot
    intro s'' err' hfailed _ _ _
    rw [heq] at hfailed
    cases (Prod.mk.inj hfailed).2

end Register

end Store

end PvpDuel.AuthServer
