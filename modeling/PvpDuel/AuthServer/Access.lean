import PvpDuel.AuthServer.Service
import PvpDuel.Matchmaking.Service

/-!
# Access tokens

`IssueAccess` and `ParseAccess` of the token manager, with the claims that the one signs and the other
reads, and the users for whom the calls of the service sign them: they have been created, in every
interleaving of the calls.
-/

namespace PvpDuel.AuthServer

open Threads
open Matchmaking (numericDate)

/-! ### Tokens -/

structure AccessClaims where
  login : String
  issuer : String
  subject : String
  audience : List String
  expiresAt : Nat
  notBefore : Nat
  issuedAt : Nat
  id : String
deriving DecidableEq, Repr

/-- The error `ErrAccessTokenInvalid`. -/
inductive AccessError
  | invalid
deriving DecidableEq, Repr

def AccessError.text : AccessError → String
  | .invalid => "auth: access token invalid"

/-- A token manager with what it calls of the JWT library under its secret: `SignedString`, and
`ParseWithClaims` with the options of `ParseAccess`, at a time. -/
structure TokenManager where
  issuer : String
  audience : String
  signedString : AccessClaims → Except String String
  parseWithClaims : Nat → String → Option AccessClaims

namespace TokenManager

variable (tokens : TokenManager)

/-- The claims that `IssueAccess` signs. -/
def claims (accessTTL now : Nat) (user : User) (id : String) : AccessClaims where
  login := user.login
  issuer := tokens.issuer
  subject := user.id
  audience := [tokens.audience]
  expiresAt := numericDate (now + accessTTL)
  notBefore := numericDate now
  issuedAt := numericDate now
  id := id

def parseAccess (now : Nat) (raw : String) : Except AccessError AccessClaims :=
  match tokens.parseWithClaims now raw with
  | none => .error .invalid
  | some claims => if claims.subject = "" ∨ claims.login = "" then .error .invalid else .ok claims

/-- What the library checks of the claims of a token, beside its signature. -/
structure Validates : Prop where
  issuer : ∀ now raw claims, tokens.parseWithClaims now raw = some claims → claims.issuer = tokens.issuer
  audience : ∀ now raw claims, tokens.parseWithClaims now raw = some claims →
    tokens.audience ∈ claims.audience
  time : ∀ now raw claims, tokens.parseWithClaims now raw = some claims →
    claims.notBefore ≤ now ∧ now < claims.expiresAt

variable {tokens}

theorem parseAccess_eq_ok {now : Nat} {raw : String} {claims : AccessClaims} :
    tokens.parseAccess now raw = .ok claims ↔
      tokens.parseWithClaims now raw = some claims ∧ claims.subject ≠ "" ∧ claims.login ≠ "" := by
  unfold parseAccess
  cases tokens.parseWithClaims now raw with
  | none => simp
  | some found =>
      by_cases h : found.subject = "" ∨ found.login = ""
      · simp only [if_pos h, reduceCtorEq, Option.some.injEq, false_iff]
        rintro ⟨rfl, hsubject, hlogin⟩
        exact h.elim hsubject hlogin
      · simp only [if_neg h, Except.ok.injEq, Option.some.injEq, iff_self_and]
        rintro rfl
        exact not_or.1 h

end TokenManager

/-! ### Whom a call serves -/

variable {η : Type} {m m' : Memory η} {user : User}

section Phases

variable {point : Phase η}

def Phase.served : Phase η → Option User
  | .issuing user => some user
  | .generating user _ => some user
  | .saving user _ _ _ => some user
  | .authenticated user _ => some user
  | .signing _ _ _ user => some user
  | .refreshed _ user _ => some user
  | _ => none

/-- The user for whom the next step of a call signs an access token. -/
def Phase.signs : Phase η → Option User
  | .issuing user => some user
  | .signing _ _ _ user => some user
  | _ => none

def Phase.access : Phase η → Option String
  | .generating _ access => some access.1
  | .saving _ access _ _ => some access.1
  | .authenticated _ tokens => some tokens.accessToken
  | .refreshed _ _ tokens => some tokens.accessToken
  | _ => none

theorem Phase.served_of_signs (h : point.signs = some user) : point.served = some user := by
  cases point with
  | issuing found => exact h
  | signing raw newRaw replacement found => exact h
  | _ => cases h

end Phases

/-- The store holds created users only, each under its own identifier, and every login leads to one. -/
structure Memory.Registered (m : Memory η) : Prop where
  users : ∀ id user, m.store.usersByID id = some user → user.id = id ∧ .created user ∈ m.history
  logins : ∀ login id, m.store.userIDByLogin login = some id → (m.store.usersByID id).isSome

namespace Memory.Registered

theorem userByLogin (h : m.Registered) {login : String}
    (hfound : m.store.userByLogin login = .ok user) : .created user ∈ m.history := by
  unfold MemoryStore.userByLogin at hfound
  cases hid : m.store.userIDByLogin login with
  | none => simp [hid] at hfound
  | some id =>
      obtain ⟨found, hstored⟩ := Option.isSome_iff_exists.1 (h.logins login id hid)
      have heq : found = user := by simpa [hid, hstored] using hfound
      exact heq ▸ (h.users id found hstored).2

theorem userByID (h : m.Registered) {id : String} (hfound : m.store.userByID id = .ok user) :
    user.id = id ∧ .created user ∈ m.history := by
  unfold MemoryStore.userByID at hfound
  cases hstored : m.store.usersByID id with
  | none => simp [hstored] at hfound
  | some found =>
      have heq : found = user := by simpa [hstored] using hfound
      exact heq ▸ h.users id found hstored

theorem create (h : m.Registered) {store : MemoryStore η} (hstore : m.store.createUser user = .ok store) :
    (m.record store (.created user)).Registered := by
  unfold MemoryStore.createUser at hstore
  split at hstore
  · cases hstore
  cases hstore
  refine ⟨fun id other hother => ?_, fun login id hid => ?_⟩
  · change Function.update m.store.usersByID user.id (some user) id = some other at hother
    show other.id = id ∧ .created other ∈ m.history ++ [.created user]
    by_cases heq : id = user.id
    · rw [heq, Function.update_self] at hother
      obtain rfl := Option.some.inj hother
      exact ⟨heq.symm, List.mem_append_right _ (List.mem_singleton_self _)⟩
    · rw [Function.update_of_ne heq] at hother
      exact (h.users id other hother).imp_right (List.mem_append_left _)
  · change Function.update m.store.userIDByLogin user.login (some user.id) login = some id at hid
    show (Function.update m.store.usersByID user.id (some user) id).isSome
    by_cases heq : id = user.id
    · rw [heq, Function.update_self]
      rfl
    · rw [Function.update_of_ne heq]
      by_cases hlogin : login = user.login
      · rw [hlogin, Function.update_self] at hid
        exact absurd (Option.some.inj hid).symm heq
      · rw [Function.update_of_ne hlogin] at hid
        exact h.logins login id hid

end Memory.Registered

/-- A step of a call leaves the store's users registered and the history's events there, and goes on with
a user that has been created. -/
structure Memory.Serves (m m' : Memory η) (new : Phase η) : Prop where
  registered : m'.Registered
  clock : m'.clock = m.clock
  history : ∀ event ∈ m.history, event ∈ m'.history
  served : ∀ user, new.served = some user → .created user ∈ m'.history

section Steps

variable {service : Service η} {point new : Phase η} {call : Nat} {answers : Answers}

namespace Memory.Registered

theorem stay (h : m.Registered) (hserved : ∀ user, new.served = some user → .created user ∈ m.history) :
    m.Serves m new :=
  ⟨h, rfl, fun _ hin => hin, hserved⟩

theorem keep (h : m.Registered) (hclock : m'.clock = m.clock)
    (hhistory : ∀ event ∈ m.history, event ∈ m'.history)
    (husers : m'.store.usersByID = m.store.usersByID)
    (hlogins : m'.store.userIDByLogin = m.store.userIDByLogin)
    (hserved : ∀ user, new.served = some user → .created user ∈ m.history) : m.Serves m' new := by
  refine ⟨⟨fun id user hfound => ?_, fun login id hfound => ?_⟩, hclock, hhistory,
    fun user hnew => hhistory _ (hserved user hnew)⟩
  · rw [husers] at hfound
    exact (h.users id user hfound).imp_right (hhistory _)
  · rw [hlogins] at hfound
    rw [husers]
    exact h.logins login id hfound

theorem serves_create (h : m.Registered) : m.Serves (Service.create m user).1 (Service.create m user).2 := by
  unfold Service.create
  split
  · exact h.stay fun _ hnone => nomatch hnone
  · rename_i store hstore
    refine ⟨h.create hstore, rfl, fun _ => List.mem_append_left _, fun other hother => ?_⟩
    cases hother
    exact List.mem_append_right _ (List.mem_singleton_self _)

theorem serves_authenticate (h : m.Registered) {login password : String} :
    m.Serves m (service.authenticate m login password) := by
  refine h.stay fun user hserved => ?_
  unfold Service.authenticate at hserved
  split at hserved
  · cases hserved
  · cases hserved
  · split at hserved
    · cases hserved
      exact h.userByLogin ‹_›
    · cases hserved

theorem serves_findUser (h : m.Registered) {raw newRaw userID : String} {replacement : RefreshToken η} :
    m.Serves m (Service.findUser m raw newRaw replacement userID) := by
  refine h.stay fun user hserved => ?_
  unfold Service.findUser at hserved
  split at hserved
  · cases hserved
  · cases hserved
    exact (h.userByID ‹_›).2

variable [DecidableEq η]

theorem serves_rotate (h : m.Registered) {raw newRaw : String} {replacement : RefreshToken η} :
    m.Serves (service.rotate m call raw newRaw replacement).1
      (service.rotate m call raw newRaw replacement).2 := by
  have hstore : (m.store.rotateRefreshToken m.clock (service.refreshHash raw) replacement).1.usersByID =
        m.store.usersByID ∧
      (m.store.rotateRefreshToken m.clock (service.refreshHash raw) replacement).1.userIDByLogin =
        m.store.userIDByLogin := by
    unfold MemoryStore.rotateRefreshToken
    split
    · exact ⟨rfl, rfl⟩
    · split <;> exact ⟨rfl, rfl⟩
  unfold Service.rotate
  split
  · rename_i heq
    rw [heq] at hstore
    exact h.keep rfl (fun _ hin => hin) hstore.1 hstore.2 fun _ hnone => nomatch hnone
  · rename_i heq
    rw [heq] at hstore
    exact h.keep rfl (fun _ hin => hin) hstore.1 hstore.2 fun _ hnone => nomatch hnone
  · rename_i heq
    rw [heq] at hstore
    exact h.keep rfl (fun _ => List.mem_append_left _) hstore.1 hstore.2 fun _ hnone => nomatch hnone

theorem advance (h : m.Registered) (hpoint : ∀ user, point.served = some user → .created user ∈ m.history)
    {result : Memory η × Phase η} (hadvance : service.advance call m point answers = some result) :
    m.Serves result.1 result.2 := by
  cases point with
  | registering login password =>
      cases hadvance
      refine h.stay fun user hserved => ?_
      unfold Service.hashPassword at hserved
      split at hserved <;> cases hserved
  | creating user =>
      cases hadvance
      exact h.serves_create
  | loggingIn login password =>
      cases hadvance
      exact h.serves_authenticate
  | issuing user =>
      cases hadvance
      refine h.stay fun other hserved => ?_
      unfold Service.issue at hserved
      split at hserved
      · cases hserved
      · exact hpoint other hserved
  | generating user access =>
      cases hadvance
      refine h.stay fun other hserved => ?_
      unfold Service.generate at hserved
      split at hserved
      · cases hserved
      · exact hpoint other hserved
  | saving user access raw token =>
      cases hadvance
      exact h.keep rfl (fun _ => List.mem_append_left _) rfl rfl hpoint
  | refreshing raw =>
      cases hadvance
      refine h.stay fun user hserved => ?_
      unfold Service.replace at hserved
      split at hserved <;> cases hserved
  | rotating raw newRaw replacement =>
      cases hadvance
      exact h.serves_rotate
  | rotated raw newRaw replacement userID =>
      cases hadvance
      exact h.serves_findUser
  | signing raw newRaw replacement user =>
      cases hadvance
      refine h.stay fun other hserved => ?_
      unfold Service.sign at hserved
      split at hserved
      · cases hserved
      · exact hpoint other hserved
  | loggingOut raw =>
      cases hadvance
      exact h.keep rfl (fun _ => List.mem_append_left _) rfl rfl fun _ hnone => nomatch hnone
  | authenticated user tokens => cases hadvance
  | refreshed raw user tokens => cases hadvance
  | loggedOut raw => cases hadvance
  | failed err => cases hadvance

end Memory.Registered

/-- A call that has got an access token had it before the step, for the same user, or the step has signed
it for that user. -/
theorem access_of_advance [DecidableEq η] {result : Memory η × Phase η} {raw : String}
    (hadvance : service.advance call m point answers = some result)
    (haccess : result.2.access = some raw) :
    point.access = some raw ∧ result.2.served = point.served ∨
      result.2.served = point.signs ∧ point.signs.isSome ∧ answers.signed = .ok raw := by
  cases point with
  | issuing user =>
      cases hadvance
      unfold Service.issue Service.issueAccess at haccess ⊢
      cases hsigned : answers.signed with
      | error text =>
          rw [hsigned] at haccess
          cases haccess
      | ok signed =>
          rw [hsigned] at haccess
          cases haccess
          exact .inr ⟨rfl, rfl, rfl⟩
  | signing oldRaw newRaw replacement user =>
      cases hadvance
      unfold Service.sign Service.issueAccess at haccess ⊢
      cases hsigned : answers.signed with
      | error text =>
          rw [hsigned] at haccess
          cases haccess
      | ok signed =>
          rw [hsigned] at haccess
          cases haccess
          exact .inr ⟨rfl, rfl, rfl⟩
  | generating user access =>
      cases hadvance
      unfold Service.generate at haccess ⊢
      split at haccess
      · cases haccess
      · exact .inl ⟨haccess, rfl⟩
  | saving user access newRaw token =>
      cases hadvance
      exact .inl ⟨haccess, rfl⟩
  | registering login password =>
      cases hadvance
      unfold Service.hashPassword at haccess
      split at haccess <;> cases haccess
  | creating user =>
      cases hadvance
      unfold Service.create at haccess
      split at haccess <;> cases haccess
  | loggingIn login password =>
      cases hadvance
      unfold Service.authenticate at haccess
      split at haccess
      · cases haccess
      · cases haccess
      · split at haccess <;> cases haccess
  | refreshing oldRaw =>
      cases hadvance
      unfold Service.replace at haccess
      split at haccess <;> cases haccess
  | rotating oldRaw newRaw replacement =>
      cases hadvance
      unfold Service.rotate at haccess
      split at haccess <;> cases haccess
  | rotated oldRaw newRaw replacement userID =>
      cases hadvance
      unfold Service.findUser at haccess
      split at haccess <;> cases haccess
  | loggingOut oldRaw =>
      cases hadvance
      cases haccess
  | authenticated user tokens => cases hadvance
  | refreshed oldRaw user tokens => cases hadvance
  | loggedOut oldRaw => cases hadvance
  | failed err => cases hadvance

structure Begins (s t : System η) : Prop where
  store : t.memory.store = s.memory.store
  clock : t.memory.clock = s.memory.clock
  history : ∀ event ∈ s.memory.history, event ∈ t.memory.history
  threads : ∀ (call : Nat) point, t.threads[call]? = some point →
    s.threads[call]? = some point ∨ point.served = none ∧ point.access = none

theorem begins_spawn {s : System η} (hserved : new.served = none) (haccess : new.access = none) :
    Begins s (s.spawn new) := by
  refine ⟨rfl, rfl, fun _ hin => hin, fun call point hpoint => ?_⟩
  obtain hold | ⟨-, rfl⟩ := State.getElem?_spawn hpoint
  · exact .inl hold
  · exact .inr ⟨hserved, haccess⟩

variable {s t : System η} {login password raw : String} [DecidableEq η]

theorem begins_register (hnext : service.next s (.register login password) = some t) : Begins s t := by
  cases hnext
  unfold Service.register
  dsimp only
  split
  · split
    · exact begins_spawn rfl rfl
    · exact begins_spawn rfl rfl
  · exact begins_spawn rfl rfl

theorem begins_login (hnext : service.next s (.login login password) = some t) : Begins s t := by
  cases hnext
  exact begins_spawn rfl rfl

theorem begins_refresh (hnext : service.next s (.refresh raw) = some t) : Begins s t := by
  cases hnext
  unfold Service.refresh
  split
  · exact begins_spawn rfl rfl
  · exact begins_spawn rfl rfl

theorem begins_logout (hnext : service.next s (.logout raw) = some t) : Begins s t := by
  cases hnext
  unfold Service.logout
  split
  · refine ⟨rfl, rfl, fun _ => List.mem_append_left _, fun call point hpoint => ?_⟩
    obtain hold | ⟨-, rfl⟩ := State.getElem?_spawn hpoint
    · exact .inl hold
    · exact .inr ⟨rfl, rfl⟩
  · exact begins_spawn rfl rfl

end Steps

end PvpDuel.AuthServer
