import PvpDuel.AuthServer.Rotation

/-!
# Refresh tokens are single-use and never change hands

One step of a call keeps `Sound` and what the call relies on, and disturbs no other call. What may become
of a token follows from the rules of its exchange, read at the place of the history where it stands.
-/

namespace PvpDuel.AuthServer

open Threads

variable {η : Type} [DecidableEq η] {service : Service η} {s t : System η} {m m' : Memory η}
  {point new : Phase η} {call : Nat} {raw : String} {answers : Answers}

/-- The token that a call is about to store. -/
def Phase.generated : Phase η → Option (RefreshToken η)
  | .saving _ _ _ token => some token
  | .rotating _ _ replacement => some replacement
  | _ => none

/-- The raw token that a call of `Refresh` or `Logout` was given. -/
def Phase.presented : Phase η → Option String
  | .refreshing raw => some raw
  | .rotating raw _ _ => some raw
  | .rotated raw _ _ _ => some raw
  | .signing raw _ _ _ => some raw
  | .refreshed raw _ _ => some raw
  | .loggingOut raw => some raw
  | .loggedOut raw => some raw
  | _ => none

/-- A new token does not collide by hash: when it is stored, no token with its hash has been issued,
exchanged or logged out. -/
def Fresh (service : Service η) (s : System η) : Action → Prop
  | .step call _ => ∀ point ∈ s.threads[call]?, ∀ token ∈ point.generated,
      token.hash ∉ seen service s.memory.history
  | _ => True

instance (s : System η) (action : Action) : Decidable (Fresh service s action) := by
  cases action <;> unfold Fresh <;> infer_instance

/-! ### Steps -/

theorem holds_hashPassword {login : String} :
    Holds service m call (Service.hashPassword m login answers) := by
  unfold Service.hashPassword
  split <;> trivial

theorem Sound.holds_authenticate (hsound : Sound service m) {login password : String} :
    Holds service m call (service.authenticate m login password) := by
  unfold Service.authenticate
  split
  · trivial
  · trivial
  · rename_i user huser
    split
    · unfold MemoryStore.userByLogin at huser
      cases hid : m.store.userIDByLogin login with
      | none => simp [hid] at huser
      | some id =>
          obtain ⟨found, hfound⟩ := Option.isSome_iff_exists.1 (hsound.logins login id hid)
          have heq : found = user := by simpa [hid, hfound] using huser
          exact heq ▸ (hsound.users id found hfound).2
    · trivial

theorem holds_issue {user : User} (hcreated : .created user ∈ m.history) :
    Holds service m call (service.issue m user answers) := by
  unfold Service.issue
  split
  · trivial
  · exact hcreated

theorem holds_generate {user : User} {access : String × Nat} (hcreated : .created user ∈ m.history) :
    Holds service m call (service.generate m user access answers) := by
  unfold Service.generate Service.newRefresh
  cases answers.random with
  | error text => trivial
  | ok bytes => exact ⟨hcreated, rfl⟩

theorem holds_replace (hraw : raw ≠ "") : Holds service m call (service.replace m raw answers) := by
  unfold Service.replace
  split
  · trivial
  · exact hraw

theorem Sound.holds_findUser (hsound : Sound service m) {newRaw userID : String}
    {replacement : RefreshToken η} (hserved : Served service m call raw userID) :
    Holds service m call (Service.findUser m raw newRaw replacement userID) := by
  unfold Service.findUser MemoryStore.userByID
  cases huser : m.store.usersByID userID with
  | none => trivial
  | some user =>
      obtain ⟨hid, hcreated⟩ := hsound.users userID user huser
      exact ⟨hid ▸ hserved, hcreated⟩

theorem holds_sign {newRaw : String} {replacement : RefreshToken η} {user : User}
    (hserved : Served service m call raw user.id ∧ .created user ∈ m.history) :
    Holds service m call (service.sign m raw newRaw replacement user answers) := by
  unfold Service.sign
  split
  · trivial
  · exact hserved

structure Advances (service : Service η) (m m' : Memory η) (call : Nat) (new : Phase η) : Prop where
  sound : Sound service m'
  extend : Extends service m m'
  holds : Holds service m' call new

theorem Sound.advances (hsound : Sound service m) (hnew : Holds service m call new) :
    Advances service m m call new :=
  ⟨hsound, extends_of_history_eq rfl, hnew⟩

theorem Sound.advances_create (hsound : Sound service m) {user : User} :
    Advances service m (Service.create m user).1 call (Service.create m user).2 := by
  unfold Service.create
  split
  · exact hsound.advances trivial
  · rename_i store hstore
    refine ⟨hsound.create hstore, extends_record (by simp [Event.token]), ?_⟩
    exact List.mem_append_right _ (List.mem_singleton_self _)

theorem Sound.advances_rotate (hsound : Sound service m) {newRaw : String}
    {replacement : RefreshToken η} (hraw : raw ≠ "")
    (hnew : replacement.hash ∉ seen service m.history) :
    Advances service m (service.rotate m call raw newRaw replacement).1 call
      (service.rotate m call raw newRaw replacement).2 := by
  unfold Service.rotate
  obtain heq | ⟨old, hold, hnow, heq⟩ := MemoryStore.rotateRefreshToken_cases m.store m.clock
    (service.refreshHash raw) replacement
  · rw [heq]
    exact ⟨hsound.remove, extends_of_history_eq rfl, trivial⟩
  · rw [heq]
    have hextends : Extends service m (m.record ((m.store.revokeRefreshToken
        (service.refreshHash raw)).saveRefreshToken { replacement with userID := old.userID })
        (.exchanged call raw replacement m.clock)) := by
      refine extends_record ?_
      intro token htoken
      cases htoken
      exact hnew
    obtain ⟨owner, howner, hcreated, hid⟩ := (hsound.tokens _ old hold).owned
    obtain ⟨first, hfirst, hhash⟩ := (hsound.tokens _ old hold).stored
    obtain ⟨event, hmem, htoken⟩ := List.mem_filterMap.1 hfirst
    have hseen : service.refreshHash raw ∈ seen service m.history :=
      hhash ▸ mem_seen_of_mem hmem (Event.mem_mentions_of_token htoken)
    refine ⟨hsound.rotate hraw hold hnow hnew, hextends, ⟨replacement, m.clock, ?_⟩, owner, ?_,
      hextends.mem _ hcreated, hid⟩
    · exact List.mem_append_right _ (List.mem_singleton_self _)
    · rw [hextends.owners _ hseen]
      exact howner

theorem Sound.advance (hsound : Sound service m) (hholds : Holds service m call point)
    (hfresh : ∀ token ∈ point.generated, token.hash ∉ seen service m.history)
    {result : Memory η × Phase η} (h : service.advance call m point answers = some result) :
    Advances service m result.1 call result.2 := by
  cases point with
  | registering login password =>
      cases h
      exact hsound.advances holds_hashPassword
  | creating user =>
      cases h
      exact hsound.advances_create
  | loggingIn login password =>
      cases h
      exact hsound.advances hsound.holds_authenticate
  | issuing user =>
      cases h
      exact hsound.advances (holds_issue hholds)
  | generating user access =>
      cases h
      exact hsound.advances (holds_generate hholds)
  | saving user access raw token =>
      cases h
      have hnew := hfresh token rfl
      refine ⟨hsound.save hnew hholds.1 hholds.2, extends_record ?_, trivial⟩
      intro other hother
      cases hother
      exact hnew
  | refreshing raw =>
      cases h
      exact hsound.advances (holds_replace hholds)
  | rotating raw newRaw replacement =>
      cases h
      exact hsound.advances_rotate hholds (hfresh replacement rfl)
  | rotated raw newRaw replacement userID =>
      cases h
      exact hsound.advances (hsound.holds_findUser hholds)
  | signing raw newRaw replacement user =>
      cases h
      exact hsound.advances (holds_sign hholds)
  | loggingOut raw =>
      cases h
      refine ⟨Sound.logout hsound.remove ?_, extends_record (by simp [Event.token]), trivial⟩
      intro _
      exact Function.update_self _ _ _
  | authenticated user tokens => cases h
  | refreshed raw user tokens => cases h
  | loggedOut raw => cases h
  | failed err => cases h

/-! ### Runs -/

structure Kept (service : Service η) (s : System η) : Prop where
  sound : Sound service s.memory
  each : s.Each (Holds service)

theorem kept_newSystem (clock : Nat) : Kept service (newSystem clock) := by
  refine ⟨⟨Chronicle.justified_nil, ?_, ?_, ?_⟩, ?_⟩
  · intro h token htoken
    cases htoken
  · intro id user huser
    cases huser
  · intro login id hid
    cases hid
  · intro i point hpoint
    cases hpoint

theorem Kept.spawn (hkept : Kept service s) {memory : Memory η}
    (hsound : Sound service memory) (hextends : Extends service s.memory memory)
    (hnew : Holds service memory s.threads.length new) :
    Kept service (State.spawn { s with memory } new) := by
  refine ⟨hsound, State.Each.spawn ?_ hnew⟩
  intro i point hpoint
  exact (hkept.each i point hpoint).extend hextends

theorem Kept.next (hkept : Kept service s) {action : Action} (hfresh : Fresh service s action)
    (h : service.next s action = some t) : Kept service t := by
  cases action with
  | elapse duration =>
      cases h
      refine ⟨⟨hkept.sound.history, hkept.sound.tokens, hkept.sound.users, hkept.sound.logins⟩, ?_⟩
      intro i point hpoint
      exact (hkept.each i point hpoint).extend (extends_of_history_eq rfl)
  | register login password =>
      cases h
      refine hkept.spawn hkept.sound (extends_of_history_eq rfl) ?_
      unfold Service.register
      dsimp only
      split
      · split <;> trivial
      · trivial
  | login login password =>
      cases h
      exact hkept.spawn hkept.sound (extends_of_history_eq rfl) trivial
  | refresh raw =>
      cases h
      refine hkept.spawn hkept.sound (extends_of_history_eq rfl) ?_
      unfold Service.refresh
      split
      · trivial
      · assumption
  | logout raw =>
      cases h
      unfold Service.logout
      split
      · rename_i hraw
        exact hkept.spawn (hkept.sound.logout (absurd hraw)) (extends_record (by simp [Event.token]))
          trivial
      · rename_i hraw
        exact hkept.spawn hkept.sound (extends_of_history_eq rfl) hraw
  | step call answers =>
      obtain ⟨point, memory, new, hpoint, hadvance, rfl⟩ := State.step_eq_some.1 h
      have hadvances := hkept.sound.advance (hkept.each call point hpoint) (hfresh point hpoint)
        hadvance
      refine ⟨hadvances.sound, hkept.each.move hpoint hadvances.holds ?_⟩
      intro j other _ _ hother
      exact hother.extend hadvances.extend

theorem advance_frame {h : η} (hpresented : point.presented = some raw)
    (hne : h ≠ service.refreshHash raw) (hother : ∀ token ∈ point.generated, h ≠ token.hash)
    {result : Memory η × Phase η} (hadvance : service.advance call m point answers = some result) :
    result.1.store.refreshTokens h = m.store.refreshTokens h := by
  have hremove : (m.store.revokeRefreshToken (service.refreshHash raw)).refreshTokens h =
      m.store.refreshTokens h := Function.update_of_ne hne _ _
  cases point with
  | rotating raw newRaw replacement =>
      cases hpresented
      cases hadvance
      unfold Service.rotate
      obtain heq | ⟨old, hold, hnow, heq⟩ := MemoryStore.rotateRefreshToken_cases m.store m.clock
        (service.refreshHash raw) replacement
      · rw [heq]
        exact hremove
      · rw [heq]
        exact (Function.update_of_ne (hother replacement rfl) _ _).trans hremove
  | loggingOut raw =>
      cases hpresented
      cases hadvance
      exact hremove
  | refreshing raw =>
      cases hadvance
      rfl
  | rotated raw newRaw replacement userID =>
      cases hadvance
      rfl
  | signing raw newRaw replacement user =>
      cases hadvance
      rfl
  | refreshed raw user tokens => cases hadvance
  | loggedOut raw => cases hadvance
  | registering login password => cases hpresented
  | creating user => cases hpresented
  | loggingIn login password => cases hpresented
  | issuing user => cases hpresented
  | generating user access => cases hpresented
  | saving user access raw token => cases hpresented
  | authenticated user tokens => cases hpresented
  | failed err => cases hpresented

theorem next_frame {action : Action} (haction : action = .refresh raw ∨ action = .logout raw)
    (hnext : service.next s action = some t) : t.memory.store = s.memory.store := by
  obtain rfl | rfl := haction
  · cases hnext
    rfl
  · cases hnext
    show (Service.logout s.memory s.threads.length raw).1.store = _
    unfold Service.logout
    split <;> rfl

theorem kept_of_run {clock : Nat} {actions : List Action}
    (hrun : Transition.run service.next (newSystem clock) actions = some s)
    (hmeets : Transition.Meets service.next (Fresh service) (newSystem clock) actions) :
    Kept service s :=
  Transition.meets_invariant (fun _ _ _ hkept hfresh hnext => Kept.next hkept hfresh hnext) hrun hmeets
    (kept_newSystem clock)

theorem Sound.nodup_used (hsound : Sound service m) :
    (m.history.filterMap (Event.used service)).Nodup := by
  refine (hsound.history.mono ?_).nodup
  intro before event hrule h hused
  cases event with
  | exchanged call raw replacement now =>
      cases hused
      exact hrule.2.1
  | created user => cases hused
  | issued user token => cases hused
  | loggedOut call raw => cases hused

/-- In any interleaving of calls in which new tokens do not collide: no token is exchanged twice, and
no two calls return from an exchange of one token; a token is not exchanged after a logout with it; an
exchange is of a token stored before, and earlier than every expiry stored for it; a refresh that
returns has exchanged its token and returns the user to whom the token's chain was first issued; and
the steps of a refresh or a logout change nothing about tokens other than the one presented and its
replacement. -/
theorem refresh_tokens_single_use {clock : Nat} {actions : List Action}
    (hrun : Transition.run service.next (newSystem clock) actions = some s)
    (hmeets : Transition.Meets service.next (Fresh service) (newSystem clock) actions) :
    (s.memory.history.filterMap (Event.used service)).Nodup ∧
    (∀ (call other : Nat) raw raw' user user' tokens tokens',
      s.threads[call]? = some (.refreshed raw user tokens) →
      s.threads[other]? = some (.refreshed raw' user' tokens') →
      service.refreshHash raw = service.refreshHash raw' → call = other) ∧
    (∀ before after call raw, s.memory.history = before ++ .loggedOut call raw :: after →
      ∀ other replacement now, .exchanged other raw replacement now ∉ after) ∧
    (∀ before after call raw replacement now,
      s.memory.history = before ++ .exchanged call raw replacement now :: after →
      (∃ token ∈ before.filterMap Event.token, token.hash = service.refreshHash raw) ∧
      ∀ token ∈ before.filterMap Event.token, token.hash = service.refreshHash raw →
        now < token.expiresAt) ∧
    (∀ (call : Nat) raw user tokens, s.threads[call]? = some (.refreshed raw user tokens) →
      (∃ replacement now, .exchanged call raw replacement now ∈ s.memory.history) ∧
      ∃ owner, owners service s.memory.history (service.refreshHash raw) = some owner ∧
        user.id = owner.id ∧
        ((s.memory.history.filterMap Event.createdID).Nodup → user = owner)) ∧
    (∀ raw action t, (action = .refresh raw ∨ action = .logout raw) →
      service.next s action = some t → t.memory.store = s.memory.store) ∧
    ∀ (call : Nat) point raw answers t, s.threads[call]? = some point → point.presented = some raw →
      service.next s (.step call answers) = some t →
      ∀ h, h ≠ service.refreshHash raw → (∀ replacement ∈ point.generated, h ≠ replacement.hash) →
        t.memory.store.refreshTokens h = s.memory.store.refreshTokens h := by
  have hkept := kept_of_run hrun hmeets
  refine ⟨hkept.sound.nodup_used, ?_, ?_, ?_, ?_, fun raw action t => next_frame, ?_⟩
  · intro call other raw raw' user user' tokens tokens' hcall hother hhash
    obtain ⟨⟨⟨replacement, now, hmem⟩, -⟩, -⟩ := hkept.each call _ hcall
    obtain ⟨⟨⟨replacement', now', hmem'⟩, -⟩, -⟩ := hkept.each other _ hother
    have heq := Chronicle.eq_of_nodup hkept.sound.nodup_used hmem hmem' rfl (congrArg some hhash.symm)
    exact (Event.exchanged.inj heq).1
  · intro before after call raw heq other replacement now hmem
    have hhistory := hkept.sound.history
    rw [heq] at hhistory
    obtain ⟨past, hpast, hraw, -, hnot, -⟩ := hhistory.earlier hmem
    refine hnot (List.mem_filterMap.2 ⟨_, hpast, ?_⟩)
    simp [Event.revoked, hraw]
  · intro before after call raw replacement now heq
    obtain ⟨-, -, -, hstored, hexpiry⟩ := hkept.sound.history before _ after heq
    exact ⟨hstored, hexpiry⟩
  · intro call raw user tokens hcall
    obtain ⟨⟨hexchanged, owner, howner, hcreated, hid⟩, huser⟩ := hkept.each call _ hcall
    refine ⟨hexchanged, owner, howner, hid, ?_⟩
    intro hnodup
    have heq := Chronicle.eq_of_nodup hnodup huser hcreated rfl (congrArg some hid.symm)
    exact Event.created.inj heq
  · intro call point raw answers t hpoint hpresented hnext h hne hother
    obtain ⟨found, memory, new, hfound, hadvance, rfl⟩ := State.step_eq_some.1 hnext
    cases hpoint.symm.trans hfound
    exact advance_frame hpresented hne hother hadvance

/-- A service whose raw tokens are one character long and are their own hashes. -/
def plainService : Service String where
  accessTTL := 100
  refreshTTL := 1000
  toLower := id
  compareHashAndPassword := fun hash password => hash == password.toUTF8.toList
  encodeToString := fun bytes => String.ofList (bytes.map fun byte => Char.ofNat byte.toNat)
  refreshHash := id

def plainAnswers (byte : UInt8) : Answers where
  passwordHash := .ok [1, 2, 3]
  newID := "id"
  signed := .ok "jwt"
  random := .ok [byte]

/-- A registration issues the token `a`; two refreshes race for it and the first gets `b`, which is
then logged out before it is presented again. -/
def rotations : List Action :=
  .register " duelist " "long password" :: List.replicate 5 (.step 0 (plainAnswers 97)) ++
  [.refresh "a", .step 1 (plainAnswers 98), .refresh "a", .step 2 (plainAnswers 99), .elapse 10,
    .step 1 (plainAnswers 98), .step 2 (plainAnswers 99), .step 1 (plainAnswers 98),
    .step 1 (plainAnswers 98), .logout "b", .step 3 (plainAnswers 0), .refresh "b",
    .step 4 (plainAnswers 100), .step 4 (plainAnswers 100)]

theorem refresh_tokens_single_use_rotations : ∃ s : System String,
    Transition.run plainService.next (newSystem 0) rotations = some s ∧
    s.threads[2]? = some (.failed .refreshTokenInvalid) ∧
    s.threads[4]? = some (.failed .refreshTokenInvalid) ∧
    (s.memory.history.filterMap (Event.used plainService)).Nodup ∧
    ∃ owner, owners plainService s.memory.history "a" = some owner ∧ "id" = owner.id := by
  have hthreads : (Transition.run plainService.next (newSystem 0) rotations).map
      (fun s => (s.threads[1]?, s.threads[2]?, s.threads[4]?)) =
      some (some (.refreshed "a" ⟨"id", "duelist", [1, 2, 3], 0⟩ ⟨"jwt", "b", 110, 1000⟩),
        some (.failed .refreshTokenInvalid), some (.failed .refreshTokenInvalid)) := by
    decide +kernel
  have hmeets : Transition.Meets plainService.next (Fresh plainService) (newSystem 0) rotations := by
    decide +kernel
  obtain ⟨s, hrun, heq⟩ := Option.map_eq_some_iff.1 hthreads
  have hone := congrArg Prod.fst heq
  have htwo := congrArg (fun result => result.2.1) heq
  have hfour := congrArg (fun result => result.2.2) heq
  obtain ⟨hnodup, -, -, -, howner, -⟩ := refresh_tokens_single_use hrun hmeets
  obtain ⟨-, owner, howner, hid, -⟩ := howner 1 _ _ _ hone
  exact ⟨s, hrun, htwo, hfour, hnodup, owner, howner, hid⟩

end PvpDuel.AuthServer
