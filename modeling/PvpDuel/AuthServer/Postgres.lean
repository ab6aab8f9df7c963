import PvpDuel.AuthServer.Atomicity
import PvpDuel.AuthServer.SingleUse

/-!
# The Postgres store

Package `postgres`, as far as `Register` and `Refresh` call it. A statement, or the end of a transaction,
can fail at any time; what a transaction has written is there from its commit on. So a call that fails
leaves the tables as they were, although a rotation takes four exchanges with the server.
-/

namespace PvpDuel.AuthServer

variable {η σ α : Type} [DecidableEq η]

/-- The committed rows of both tables, and what becomes of the next statements: an error of the driver or
nothing. The resolution of the clock is that of `TIMESTAMPTZ`. -/
structure Database (η : Type) where
  tables : MemoryStore η
  faults : List (Option String)

namespace Database

/-- A statement, and what follows if it does not fail. -/
def exec (context : String) (db : Database η)
    (next : Database η → Database η × Except AuthError α) : Database η × Except AuthError α :=
  match db.faults with
  | some text :: faults => ({ db with faults }, .error (.wrapped context (.library text)))
  | none :: faults => next { db with faults }
  | [] => next db

/-- The errors of a constraint, by the state of the server. -/
def uniqueViolation : AuthError := .library "SQLSTATE 23505"
def foreignKeyViolation : AuthError := .library "SQLSTATE 23503"

def createUser (db : Database η) (user : User) : Database η × Except AuthError Unit :=
  db.exec "insert user" fun db =>
    match db.tables.usersByID user.id with
    | some _ => (db, .error .userExists)
    | none =>
        match db.tables.createUser user with
        | .error err => (db, .error err)
        | .ok tables => ({ db with tables }, .ok ())

def userByID (db : Database η) (id : String) : Database η × Except AuthError User :=
  db.exec "scan user" fun db => (db, db.tables.userByID id)

def insertToken (context : String) (tables : MemoryStore η) (token : RefreshToken η) :
    Except AuthError (MemoryStore η) :=
  if (tables.refreshTokens token.hash).isSome then .error (.wrapped context uniqueViolation)
  else if (tables.usersByID token.userID).isNone then .error (.wrapped context foreignKeyViolation)
  else .ok (tables.saveRefreshToken token)

def saveRefreshToken (db : Database η) (token : RefreshToken η) :
    Database η × Except AuthError Unit :=
  db.exec "insert refresh token" fun db =>
    match insertToken "insert refresh token" db.tables token with
    | .error err => (db, .error err)
    | .ok tables => ({ db with tables }, .ok ())

def rotateRefreshToken (db : Database η) (now : Nat) (oldHash : η) (replacement : RefreshToken η) :
    Database η × Except AuthError String :=
  db.exec "begin refresh rotation" fun db =>
  db.exec "consume refresh token" fun db =>
    match db.tables.refreshTokens oldHash with
    | none => (db, .error .refreshTokenInvalid)
    | some old =>
        let consumed := db.tables.revokeRefreshToken oldHash
        if ¬ now < old.expiresAt then
          db.exec "delete expired refresh token" fun db =>
            ({ db with tables := consumed }, .error .refreshTokenInvalid)
        else
          db.exec "insert rotated refresh token" fun db =>
            match insertToken "insert rotated refresh token" consumed
              { replacement with userID := old.userID } with
            | .error err => (db, .error err)
            | .ok tables =>
                db.exec "commit refresh rotation" fun db => ({ db with tables }, .ok old.userID)

/-! ### What a call can do to the tables -/

omit [DecidableEq η] in
theorem exec_cases (context : String) (db : Database η)
    (next : Database η → Database η × Except AuthError α) :
    ((db.exec context next).1.tables = db.tables ∧
      ∃ err, (db.exec context next).2 = .error err ∧ err.Foreign) ∨
    ∃ db' : Database η, db'.tables = db.tables ∧ db.exec context next = next db' := by
  unfold exec
  split
  · exact .inl ⟨rfl, _, rfl, trivial⟩
  · rename_i faults _
    exact .inr ⟨{ db with faults }, rfl, rfl⟩
  · exact .inr ⟨db, rfl, rfl⟩

theorem insertToken_cases (context : String) (tables : MemoryStore η) (token : RefreshToken η) :
    (∃ err, insertToken context tables token = .error err ∧ err.Foreign) ∨
    insertToken context tables token = .ok (tables.saveRefreshToken token) := by
  unfold insertToken
  split_ifs
  · exact .inl ⟨_, rfl, trivial⟩
  · exact .inl ⟨_, rfl, trivial⟩
  · exact .inr rfl

omit [DecidableEq η] in
theorem createUser_spec (db : Database η) (user : User) :
    ((db.createUser user).2 = .ok () ∧
      db.tables.createUser user = .ok (db.createUser user).1.tables) ∨
    ((db.createUser user).1.tables = db.tables ∧
      ∃ err, (db.createUser user).2 = .error err ∧ (err.Foreign ∨ err = .userExists)) := by
  unfold createUser
  obtain ⟨htables, err, herr, hforeign⟩ | ⟨db', htables, heq⟩ := exec_cases "insert user" db _
  · exact .inr ⟨htables, err, herr, .inl hforeign⟩
  · rw [heq, ← htables]
    cases hid : db'.tables.usersByID user.id with
    | some _ => exact .inr ⟨rfl, _, rfl, .inr rfl⟩
    | none =>
        cases hlogin : db'.tables.userIDByLogin user.login with
        | some id => simp [MemoryStore.createUser, hlogin]
        | none => simp [MemoryStore.createUser, hlogin]

omit [DecidableEq η] in
theorem userByID_spec (db : Database η) (id : String) :
    (db.userByID id).1.tables = db.tables ∧
    ((db.userByID id).2 = db.tables.userByID id ∨
      ∃ err, (db.userByID id).2 = .error err ∧ err.Foreign) := by
  unfold userByID
  obtain ⟨htables, hforeign⟩ | ⟨db', htables, heq⟩ := exec_cases "scan user" db _
  · exact ⟨htables, .inr hforeign⟩
  · rw [heq, ← htables]
    exact ⟨rfl, .inl rfl⟩

theorem saveRefreshToken_spec (db : Database η) (token : RefreshToken η) :
    ((db.saveRefreshToken token).2 = .ok () ∧
      (db.saveRefreshToken token).1.tables = db.tables.saveRefreshToken token) ∨
    ((db.saveRefreshToken token).1.tables = db.tables ∧
      ∃ err, (db.saveRefreshToken token).2 = .error err ∧ err.Foreign) := by
  unfold saveRefreshToken
  obtain ⟨htables, hforeign⟩ | ⟨db', htables, heq⟩ := exec_cases "insert refresh token" db _
  · exact .inr ⟨htables, hforeign⟩
  · rw [heq, ← htables]
    obtain ⟨err, herr, hforeign⟩ | hok := insertToken_cases "insert refresh token" db'.tables token
    · rw [herr]
      exact .inr ⟨rfl, err, rfl, hforeign⟩
    · rw [hok]
      exact .inl ⟨rfl, rfl⟩

theorem revokeRefreshToken_of_none {tables : MemoryStore η} {hash : η}
    (h : tables.refreshTokens hash = none) : tables.revokeRefreshToken hash = tables := by
  have hsame : Function.update tables.refreshTokens hash none = tables.refreshTokens := by
    rw [← h]
    exact Function.update_eq_self hash tables.refreshTokens
  rw [MemoryStore.revokeRefreshToken, hsame]

theorem rotateRefreshToken_spec (db : Database η) (now : Nat) (oldHash : η)
    (replacement : RefreshToken η) :
    ((db.rotateRefreshToken now oldHash replacement).1.tables,
        (db.rotateRefreshToken now oldHash replacement).2) =
      db.tables.rotateRefreshToken now oldHash replacement ∨
    ((db.rotateRefreshToken now oldHash replacement).1.tables = db.tables ∧
      ∃ err, (db.rotateRefreshToken now oldHash replacement).2 = .error err ∧ err.Foreign) := by
  unfold rotateRefreshToken
  obtain ⟨htables, hforeign⟩ | ⟨db₁, htables₁, heq⟩ := exec_cases "begin refresh rotation" db _
  · exact .inr ⟨htables, hforeign⟩
  rw [heq, ← htables₁]
  obtain ⟨htables, hforeign⟩ | ⟨db₂, htables₂, heq⟩ := exec_cases "consume refresh token" db₁ _
  · exact .inr ⟨htables, hforeign⟩
  rw [heq, ← htables₂]
  cases hold : db₂.tables.refreshTokens oldHash with
  | none =>
      left
      dsimp only
      rw [MemoryStore.rotateRefreshToken, hold, revokeRefreshToken_of_none hold]
  | some old =>
      dsimp only
      by_cases hlive : now < old.expiresAt
      · rw [if_neg (not_not_intro hlive)]
        obtain ⟨htables, hforeign⟩ | ⟨db₃, htables₃, heq⟩ :=
          exec_cases "insert rotated refresh token" db₂ _
        · exact .inr ⟨htables, hforeign⟩
        rw [heq]
        obtain ⟨err, herr, hforeign⟩ | hok := insertToken_cases "insert rotated refresh token"
          (db₂.tables.revokeRefreshToken oldHash) { replacement with userID := old.userID }
        · rw [herr]
          exact .inr ⟨htables₃, err, rfl, hforeign⟩
        rw [hok]
        dsimp only
        obtain ⟨htables, hforeign⟩ | ⟨db₄, -, heq⟩ := exec_cases "commit refresh rotation" db₃ _
        · exact .inr ⟨htables.trans htables₃, hforeign⟩
        rw [heq, MemoryStore.rotateRefreshToken, hold]
        exact .inl (if_pos hlive).symm
      · rw [if_pos hlive]
        obtain ⟨htables, hforeign⟩ | ⟨db₃, -, heq⟩ := exec_cases "delete expired refresh token" db₂ _
        · exact .inr ⟨htables, hforeign⟩
        rw [heq, MemoryStore.rotateRefreshToken, hold]
        exact .inl (if_neg hlive).symm

end Database

/-- The store of package `postgres`. -/
def postgresStore : Store (Database η) η where
  view := Database.tables
  createUser := Database.createUser
  userByID := Database.userByID
  saveRefreshToken := Database.saveRefreshToken
  rotateRefreshToken := Database.rotateRefreshToken
  createUser_spec := Database.createUser_spec
  userByID_spec := Database.userByID_spec
  saveRefreshToken_spec := Database.saveRefreshToken_spec
  rotateRefreshToken_spec := Database.rotateRefreshToken_spec

/-! ### What the service makes of it -/

/-- Over any store, in any state and with any pattern of failures, a failed call of `Refresh` keeps the
presented token exactly when it has not failed after the rotation, and a failed call of `Register` leaves
no user exactly when it has not failed after the creation. A new token must not have the hash of the
presented one. -/
theorem auth_atomic_iff (store : Store σ η) (service : Service η) (s : σ) :
    (∀ raw draw, (∀ bytes, draw.random = .ok bytes →
        service.refreshHash (service.encodeToString bytes) ≠ service.refreshHash raw) →
      (store.KeepsToken service s raw draw ↔ ¬ store.FailsAfterRotation service s raw draw)) ∧
    ∀ login password draw, store.KeepsLogin service s login password draw ↔
      ¬ store.FailsAfterCreation service s login password draw :=
  ⟨fun raw draw hfresh => Store.keepsToken_iff store service s raw draw hfresh,
    fun login password draw => Store.keepsLogin_iff store service s login password draw⟩

/-- A database in which a duelist has the refresh token `a`. -/
def duelDatabase (faults : List (Option String)) : Database String where
  tables := ((newMemoryStore.createUser ⟨"id", "duelist", [1, 2, 3], 0⟩).toOption.getD
    newMemoryStore).saveRefreshToken ⟨"a", "id", 1000, 0⟩
  faults := faults

def plainDraw : Draw where
  toAnswers := plainAnswers 98
  createdAt := 10
  signedAt := 10
  generatedAt := 10
  rotatedAt := 10

/-- Where the rotation cannot be committed, the token is still there. -/
theorem auth_atomic_iff_commit : postgresStore.KeepsToken plainService
    (duelDatabase [none, none, none, some "connection reset"]) "a" plainDraw := by
  refine ((auth_atomic_iff postgresStore plainService _).1 "a" plainDraw ?_).2 ?_
  · intro bytes hbytes
    obtain rfl : [98] = bytes := Except.ok.inj hbytes
    decide +kernel
  · rintro ⟨-, newRaw, replacement, s₁, userID, user, hnew, hrotated, -⟩
    obtain ⟨rfl, rfl⟩ := Prod.mk.inj (Except.ok.inj hnew)
    have hfails : (postgresStore.rotateRefreshToken
        (duelDatabase [none, none, none, some "connection reset"]) 10 "a"
        ⟨"b", "", 1010, 10⟩).2.toOption = none := by
      decide +kernel
    have hsome := congrArg (fun result => result.2.toOption) hrotated
    exact absurd (hsome.symm.trans hfails) (by simp [Except.toOption])

/-- The user cannot be read after the rotation, and the token is gone; the refresh token of a new user
cannot be saved, and the user stays. -/
theorem auth_not_atomic :
    ¬ postgresStore.KeepsToken plainService
      (duelDatabase [none, none, none, none, some "connection reset"]) "a" plainDraw ∧
    ¬ postgresStore.KeepsLogin plainService
      (⟨newMemoryStore, [none, some "connection reset"]⟩ : Database String) "duelist" "long password"
      plainDraw := by
  constructor
  · intro hkeeps
    let later : Draw := plainDraw
    obtain ⟨result, hresult⟩ := hkeeps _ (.wrapped "get refresh token user" (.wrapped "scan user"
      (.library "connection reset"))) (Prod.ext rfl (by decide +kernel)) rfl later (Nat.le_refl _)
      ⟨(⟨"id", "duelist", [1, 2, 3], 0⟩, ⟨"jwt", "b", 110, 1010⟩), by decide +kernel⟩
    have hgone : (memoryStore.refresh plainService (postgresStore.refresh plainService
        (duelDatabase [none, none, none, none, some "connection reset"]) "a" plainDraw).1.tables
        "a" later).2 = .error .refreshTokenInvalid := by
      decide +kernel
    exact absurd (hresult.symm.trans hgone) (by simp)
  · intro hkeeps
    have hleft := (hkeeps _ (.wrapped "save refresh token" (.wrapped "insert refresh token"
      (.library "connection reset"))) (Prod.ext rfl (by decide +kernel)) rfl rfl rfl).1 "id"
      (by decide +kernel)
    cases hleft

end PvpDuel.AuthServer
