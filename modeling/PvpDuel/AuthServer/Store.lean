import PvpDuel.AuthServer.Service

/-!
# The auth service over any store

`Register` and `Refresh` from beginning to end, over a store whose calls may fail. A store is known by
what it holds: a call that succeeds does to that what the memory store does, a call that fails does
nothing. Which calls fail, and when, is the store's own affair.
-/

namespace PvpDuel.AuthServer

variable {η σ : Type} [DecidableEq η]

/-! ### Errors -/

/-- `errors.Is`. -/
def AuthError.is : AuthError → AuthError → Bool
  | .wrapped _ err, target => err.is target
  | err, target => err = target

/-- An error of the database or the network, and none of the package's own. -/
def AuthError.Foreign : AuthError → Prop
  | .library _ => True
  | .wrapped _ err => err.Foreign
  | _ => False

theorem AuthError.Foreign.not_is {err target : AuthError} (h : err.Foreign)
    (htarget : ¬ target.Foreign) : err.is target = false := by
  induction err with
  | library text =>
      refine decide_eq_false ?_
      rintro rfl
      exact htarget h
  | wrapped context err ih => exact ih h
  | _ => exact h.elim

/-! ### Stores -/

/-- The calls that `Register` and `Refresh` make to a store, and what it holds. The time given to a
rotation is what the clock shows to the store. -/
structure Store (σ η : Type) [DecidableEq η] where
  view : σ → MemoryStore η
  createUser : σ → User → σ × Except AuthError Unit
  userByID : σ → String → σ × Except AuthError User
  saveRefreshToken : σ → RefreshToken η → σ × Except AuthError Unit
  rotateRefreshToken : σ → Nat → η → RefreshToken η → σ × Except AuthError String
  createUser_spec : ∀ s user,
    ((createUser s user).2 = .ok () ∧
      (view s).createUser user = .ok (view (createUser s user).1)) ∨
    (view (createUser s user).1 = view s ∧
      ∃ err, (createUser s user).2 = .error err ∧ (err.Foreign ∨ err = .userExists))
  userByID_spec : ∀ s id, view (userByID s id).1 = view s ∧
    ((userByID s id).2 = (view s).userByID id ∨
      ∃ err, (userByID s id).2 = .error err ∧ err.Foreign)
  saveRefreshToken_spec : ∀ s token,
    ((saveRefreshToken s token).2 = .ok () ∧
      view (saveRefreshToken s token).1 = (view s).saveRefreshToken token) ∨
    (view (saveRefreshToken s token).1 = view s ∧
      ∃ err, (saveRefreshToken s token).2 = .error err ∧ err.Foreign)
  rotateRefreshToken_spec : ∀ s now oldHash replacement,
    (view (rotateRefreshToken s now oldHash replacement).1,
        (rotateRefreshToken s now oldHash replacement).2) =
      (view s).rotateRefreshToken now oldHash replacement ∨
    (view (rotateRefreshToken s now oldHash replacement).1 = view s ∧
      ∃ err, (rotateRefreshToken s now oldHash replacement).2 = .error err ∧ err.Foreign)

/-- The memory store, which never fails. -/
def memoryStore : Store (MemoryStore η) η where
  view := id
  createUser s user :=
    match s.createUser user with
    | .error err => (s, .error err)
    | .ok s => (s, .ok ())
  userByID s id := (s, s.userByID id)
  saveRefreshToken s token := (s.saveRefreshToken token, .ok ())
  rotateRefreshToken := MemoryStore.rotateRefreshToken
  createUser_spec s user := by
    cases hlogin : s.userIDByLogin user.login with
    | none => simp [MemoryStore.createUser, hlogin]
    | some id => simp [MemoryStore.createUser, hlogin]
  userByID_spec _ _ := ⟨rfl, .inl rfl⟩
  saveRefreshToken_spec _ _ := .inl ⟨rfl, rfl⟩
  rotateRefreshToken_spec _ _ _ _ := .inl rfl

/-! ### The calls -/

/-- What the libraries answer during a call, and what the clock shows at each of its readings. -/
structure Draw extends Answers where
  createdAt : Nat
  signedAt : Nat
  generatedAt : Nat
  rotatedAt : Nat

namespace Store

variable (store : Store σ η) (service : Service η)

def issueTokens (s : σ) (user : User) (draw : Draw) : σ × Except AuthError Tokens :=
  match service.issueAccess draw.signedAt draw.toAnswers with
  | .error err => (s, .error err)
  | .ok access =>
      match service.newRefresh draw.generatedAt user.id draw.toAnswers with
      | .error err => (s, .error err)
      | .ok (rawRefresh, refresh) =>
          match store.saveRefreshToken s refresh with
          | (s, .error err) => (s, .error (.wrapped "save refresh token" err))
          | (s, .ok _) => (s, .ok ⟨access.1, rawRefresh, access.2, refresh.expiresAt⟩)

/-- The user that `Register` creates. -/
def newUser (login : String) (passwordHash : List UInt8) (draw : Draw) : User :=
  ⟨draw.newID, login, passwordHash, draw.createdAt⟩

def register (s : σ) (login password : String) (draw : Draw) :
    σ × Except AuthError (User × Tokens) :=
  let login := service.normalizeLogin login
  if loginPattern login then
    match validatePassword password with
    | .error err => (s, .error err)
    | .ok _ =>
        match draw.passwordHash with
        | .error text => (s, .error (.wrapped "hash password" (.library text)))
        | .ok passwordHash =>
            let user := newUser login passwordHash draw
            match store.createUser s user with
            | (s, .error err) => (s, .error (.wrapped "create user" err))
            | (s, .ok _) =>
                match store.issueTokens service s user draw with
                | (s, .error err) => (s, .error err)
                | (s, .ok tokens) => (s, .ok (user, tokens))
  else
    (s, .error .invalidLogin)

/-- `Refresh` after the exchange. -/
def exchanged (s : σ) (userID newRaw : String) (replacement : RefreshToken η) (draw : Draw) :
    σ × Except AuthError (User × Tokens) :=
  match store.userByID s userID with
  | (s, .error err) => (s, .error (.wrapped "get refresh token user" err))
  | (s, .ok user) =>
      match service.issueAccess draw.signedAt draw.toAnswers with
      | .error err => (s, .error err)
      | .ok access => (s, .ok (user, ⟨access.1, newRaw, access.2, replacement.expiresAt⟩))

def refresh (s : σ) (raw : String) (draw : Draw) : σ × Except AuthError (User × Tokens) :=
  if raw = "" then
    (s, .error .refreshTokenInvalid)
  else
    match service.newRefresh draw.generatedAt "" draw.toAnswers with
    | .error err => (s, .error err)
    | .ok (newRaw, replacement) =>
        match store.rotateRefreshToken s draw.rotatedAt (service.refreshHash raw) replacement with
        | (s, .error err) =>
            if err.is .refreshTokenInvalid then (s, .error .refreshTokenInvalid)
            else (s, .error (.wrapped "rotate refresh token" err))
        | (s, .ok userID) => store.exchanged service s userID newRaw replacement draw

end Store

end PvpDuel.AuthServer
