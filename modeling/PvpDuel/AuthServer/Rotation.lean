import PvpDuel.AuthServer.Service
import PvpDuel.Lib.Chronicle

/-!
# Rotation of refresh tokens

A refresh token in the store has not been exchanged or logged out, and it belongs to the user to whom
its chain of rotations was first issued. Every step keeps this as long as the tokens that are stored
are new; all the rest is read off it, one event of the history at a time.
-/

namespace PvpDuel.AuthServer

open Threads

variable {η : Type} {service : Service η} {history : List (Event η)} {event : Event η} {h : η}

/-! ### The history -/

/-- The token that an event puts into the store. -/
def Event.token : Event η → Option (RefreshToken η)
  | .issued _ token => some token
  | .exchanged _ _ replacement _ => some replacement
  | _ => none

def Event.createdID : Event η → Option String
  | .created user => some user.id
  | _ => none

section Hashes

variable (service)

/-- The hash of the token that an event exchanges. -/
def Event.used : Event η → Option η
  | .exchanged _ raw _ _ => some (service.refreshHash raw)
  | _ => none

/-- The hash of the token that an event removes by a logout. -/
def Event.revoked : Event η → Option η
  | .loggedOut _ raw => if raw = "" then none else some (service.refreshHash raw)
  | _ => none

def Event.mentions : Event η → List η
  | .created _ => []
  | .issued _ token => [token.hash]
  | .exchanged _ raw replacement _ => [service.refreshHash raw, replacement.hash]
  | .loggedOut _ raw => [service.refreshHash raw]

def seen (history : List (Event η)) : List η := history.flatMap (Event.mentions service)

end Hashes

theorem mem_seen_of_mem (hmem : event ∈ history) (hh : h ∈ event.mentions service) :
    h ∈ seen service history :=
  List.mem_flatMap.2 ⟨event, hmem, hh⟩

theorem Event.mem_mentions_of_used (event : Event η) (hh : event.used service = some h) :
    h ∈ event.mentions service := by
  cases event <;> simp_all [Event.used, Event.mentions]

theorem Event.mem_mentions_of_revoked (event : Event η) (hh : event.revoked service = some h) :
    h ∈ event.mentions service := by
  cases event <;> simp_all [Event.revoked, Event.mentions]

theorem Event.mem_mentions_of_token {token : RefreshToken η} (hh : event.token = some token) :
    token.hash ∈ event.mentions service := by
  cases event <;> simp_all [Event.token, Event.mentions]

theorem notMem_filterMap_of_notMem_seen {key : Event η → Option η} (hh : h ∉ seen service history)
    (hkey : ∀ event, key event = some h → h ∈ event.mentions service) : h ∉ history.filterMap key := by
  intro hmem
  obtain ⟨event, hevent, heq⟩ := List.mem_filterMap.1 hmem
  exact hh (mem_seen_of_mem hevent (hkey event heq))

theorem mem_filterMap_concat {β : Type} {key : Event η → Option β} {b : β} :
    b ∈ (history ++ [event]).filterMap key ↔ b ∈ history.filterMap key ∨ key event = some b := by
  simp

variable [DecidableEq η]

section Owners

variable (service)

/-- A token issued belongs to its user, a replacement to whom the exchanged token belonged. -/
def Event.assign (owners : η → Option User) : Event η → η → Option User
  | .issued user token => Function.update owners token.hash (some user)
  | .exchanged _ raw replacement _ =>
      Function.update owners replacement.hash (owners (service.refreshHash raw))
  | _ => owners

/-- The user to whom the chain of rotations that leads to a token was first issued. -/
def owners (history : List (Event η)) : η → Option User :=
  history.foldl (Event.assign service) (fun _ => none)

end Owners

theorem owners_concat : owners service (history ++ [event]) =
    event.assign service (owners service history) := by
  simp [owners]

theorem Event.assign_of_ne {owners : η → Option User}
    (hne : ∀ token, event.token = some token → h ≠ token.hash) :
    event.assign service owners h = owners h := by
  cases event with
  | issued user token => exact Function.update_of_ne (hne token rfl) _ _
  | exchanged call raw replacement now => exact Function.update_of_ne (hne replacement rfl) _ _
  | created user => rfl
  | loggedOut call raw => rfl

/-! ### Live tokens -/

/-- What holds of a token in the store under a hash. -/
structure Live (service : Service η) (history : List (Event η)) (h : η) (token : RefreshToken η) :
    Prop where
  hash_eq : token.hash = h
  unused : h ∉ history.filterMap (Event.used service)
  unrevoked : h ∉ history.filterMap (Event.revoked service)
  stored : ∃ first ∈ history.filterMap Event.token, first.hash = h
  expiry : ∀ first ∈ history.filterMap Event.token, first.hash = h → first.expiresAt = token.expiresAt
  owned : ∃ owner, owners service history h = some owner ∧ .created owner ∈ history ∧
    token.userID = owner.id

theorem Live.concat {token : RefreshToken η} (hlive : Live service history h token)
    (hused : event.used service ≠ some h) (hrevoked : event.revoked service ≠ some h)
    (hother : ∀ last, event.token = some last → h ≠ last.hash) :
    Live service (history ++ [event]) h token := by
  obtain ⟨first, hfirst, hhash⟩ := hlive.stored
  obtain ⟨owner, howner, hcreated, hid⟩ := hlive.owned
  refine ⟨hlive.hash_eq, ?_, ?_, ⟨first, mem_filterMap_concat.2 (.inl hfirst), hhash⟩, ?_,
    owner, ?_, List.mem_append_left _ hcreated, hid⟩
  · rw [mem_filterMap_concat, not_or]
    exact ⟨hlive.unused, hused⟩
  · rw [mem_filterMap_concat, not_or]
    exact ⟨hlive.unrevoked, hrevoked⟩
  · intro last hlast heq
    obtain hlast | hlast := mem_filterMap_concat.1 hlast
    · exact hlive.expiry last hlast heq
    · exact absurd heq.symm (hother last hlast)
  · rw [owners_concat, Event.assign_of_ne hother]
    exact howner

theorem Live.fresh {token : RefreshToken η} {owner : User} {userID : String}
    (hnew : token.hash ∉ seen service history) (hevent : event.token = some token)
    (hused : event.used service ≠ some token.hash)
    (hrevoked : event.revoked service ≠ some token.hash)
    (howner : owners service (history ++ [event]) token.hash = some owner)
    (hcreated : .created owner ∈ history) (hid : userID = owner.id) :
    Live service (history ++ [event]) token.hash { token with userID } := by
  refine ⟨rfl, ?_, ?_, ⟨token, mem_filterMap_concat.2 (.inr hevent), rfl⟩, ?_, owner, howner,
    List.mem_append_left _ hcreated, hid⟩
  · rw [mem_filterMap_concat, not_or]
    exact ⟨notMem_filterMap_of_notMem_seen hnew Event.mem_mentions_of_used, hused⟩
  · rw [mem_filterMap_concat, not_or]
    exact ⟨notMem_filterMap_of_notMem_seen hnew Event.mem_mentions_of_revoked, hrevoked⟩
  · intro last hlast heq
    obtain hlast | hlast := mem_filterMap_concat.1 hlast
    · obtain ⟨earlier, hmem, htoken⟩ := List.mem_filterMap.1 hlast
      have hseen : last.hash ∈ seen service history :=
        mem_seen_of_mem hmem (Event.mem_mentions_of_token htoken)
      exact absurd (heq ▸ hseen) hnew
    · rw [hevent] at hlast
      rw [← Option.some.inj hlast]

/-! ### What the memory and the calls keep -/

variable {s t : System η} {m m' : Memory η} {point : Phase η} {call : Nat} {raw : String}
  {store : MemoryStore η}

/-- An exchange is of a token that was stored, is neither exchanged nor logged out yet, and has not
expired. -/
def Rule (service : Service η) (before : List (Event η)) : Event η → Prop
  | .exchanged _ raw _ now => raw ≠ "" ∧
      service.refreshHash raw ∉ before.filterMap (Event.used service) ∧
      service.refreshHash raw ∉ before.filterMap (Event.revoked service) ∧
      (∃ token ∈ before.filterMap Event.token, token.hash = service.refreshHash raw) ∧
      ∀ token ∈ before.filterMap Event.token, token.hash = service.refreshHash raw →
        now < token.expiresAt
  | _ => True

structure Sound (service : Service η) (m : Memory η) : Prop where
  history : Chronicle.Justified (Rule service) m.history
  tokens : ∀ h token, m.store.refreshTokens h = some token → Live service m.history h token
  users : ∀ id user, m.store.usersByID id = some user → user.id = id ∧ .created user ∈ m.history
  logins : ∀ login id, m.store.userIDByLogin login = some id → (m.store.usersByID id).isSome

/-- What a step adds to the history stores no token that the history mentions. -/
structure Extends (service : Service η) (m m' : Memory η) : Prop where
  mem : ∀ event ∈ m.history, event ∈ m'.history
  owners : ∀ h ∈ seen service m.history, owners service m'.history h = owners service m.history h

theorem extends_of_history_eq (heq : m'.history = m.history) : Extends service m m' := by
  refine ⟨?_, ?_⟩ <;> simp [heq]

theorem extends_record
    (hnew : ∀ token, event.token = some token → token.hash ∉ seen service m.history) :
    Extends service m (m.record store event) := by
  refine ⟨fun other hmem => List.mem_append_left _ hmem, ?_⟩
  intro h hseen
  show owners service (m.history ++ [event]) h = owners service m.history h
  rw [owners_concat]
  refine Event.assign_of_ne ?_
  intro token htoken heq
  exact hnew token htoken (heq ▸ hseen)

/-- The call has exchanged the token, and the user of that number is its owner. -/
def Served (service : Service η) (m : Memory η) (call : Nat) (raw userID : String) : Prop :=
  (∃ replacement now, .exchanged call raw replacement now ∈ m.history) ∧
    ∃ owner, owners service m.history (service.refreshHash raw) = some owner ∧
      .created owner ∈ m.history ∧ userID = owner.id

theorem Served.extend {userID : String} (hserved : Served service m call raw userID)
    (hextends : Extends service m m') : Served service m' call raw userID := by
  obtain ⟨⟨replacement, now, hmem⟩, owner, howner, hcreated, hid⟩ := hserved
  refine ⟨⟨replacement, now, hextends.mem _ hmem⟩, owner, ?_, hextends.mem _ hcreated, hid⟩
  rw [hextends.owners _ (mem_seen_of_mem hmem (by simp [Event.mentions]))]
  exact howner

def Holds (service : Service η) (m : Memory η) (call : Nat) : Phase η → Prop
  | .issuing user => .created user ∈ m.history
  | .generating user _ => .created user ∈ m.history
  | .saving user _ _ token => .created user ∈ m.history ∧ token.userID = user.id
  | .refreshing raw => raw ≠ ""
  | .rotating raw _ _ => raw ≠ ""
  | .rotated raw _ _ userID => Served service m call raw userID
  | .signing raw _ _ user => Served service m call raw user.id ∧ .created user ∈ m.history
  | .refreshed raw user _ => Served service m call raw user.id ∧ .created user ∈ m.history
  | .loggingOut raw => raw ≠ ""
  | _ => True

theorem Holds.extend (hholds : Holds service m call point) (hextends : Extends service m m') :
    Holds service m' call point := by
  cases point with
  | issuing user => exact hextends.mem _ hholds
  | generating user access => exact hextends.mem _ hholds
  | saving user access raw token => exact hholds.imp_left (hextends.mem _)
  | rotated raw newRaw replacement userID => exact Served.extend hholds hextends
  | signing raw newRaw replacement user =>
      exact ⟨hholds.1.extend hextends, hextends.mem _ hholds.2⟩
  | refreshed raw user tokens => exact ⟨hholds.1.extend hextends, hextends.mem _ hholds.2⟩
  | refreshing raw => exact hholds
  | rotating raw newRaw replacement => exact hholds
  | loggingOut raw => exact hholds
  | registering login password => trivial
  | creating user => trivial
  | loggingIn login password => trivial
  | authenticated user tokens => trivial
  | loggedOut raw => trivial
  | failed err => trivial

/-! ### Store calls -/

theorem MemoryStore.rotateRefreshToken_cases (store : MemoryStore η) (now : Nat) (h : η)
    (replacement : RefreshToken η) :
    store.rotateRefreshToken now h replacement =
        (store.revokeRefreshToken h, .error .refreshTokenInvalid) ∨
      ∃ old, store.refreshTokens h = some old ∧ now < old.expiresAt ∧
        store.rotateRefreshToken now h replacement =
          ((store.revokeRefreshToken h).saveRefreshToken { replacement with userID := old.userID },
            .ok old.userID) := by
  unfold MemoryStore.rotateRefreshToken
  cases hold : store.refreshTokens h with
  | none => exact .inl rfl
  | some old =>
      by_cases hnow : now < old.expiresAt
      · exact .inr ⟨old, rfl, hnow, if_pos hnow⟩
      · exact .inl (if_neg hnow)

theorem MemoryStore.refreshTokens_revoke {h other : η} {token : RefreshToken η}
    (htoken : (store.revokeRefreshToken h).refreshTokens other = some token) :
    other ≠ h ∧ store.refreshTokens other = some token := by
  unfold MemoryStore.revokeRefreshToken at htoken
  by_cases heq : other = h
  · simp [heq] at htoken
  · exact ⟨heq, by simpa [heq] using htoken⟩

theorem MemoryStore.refreshTokens_save {token other : RefreshToken η}
    (hother : (store.saveRefreshToken token).refreshTokens h = some other) :
    h = token.hash ∧ other = token ∨ h ≠ token.hash ∧ store.refreshTokens h = some other := by
  unfold MemoryStore.saveRefreshToken at hother
  by_cases heq : h = token.hash
  · exact .inl ⟨heq, by simpa [heq, eq_comm] using hother⟩
  · exact .inr ⟨heq, by simpa [heq] using hother⟩

theorem Sound.create (hsound : Sound service m) {user : User}
    (hstore : m.store.createUser user = .ok store) :
    Sound service (m.record store (.created user)) := by
  unfold MemoryStore.createUser at hstore
  split at hstore
  · cases hstore
  cases hstore
  refine ⟨hsound.history.concat trivial, ?_, ?_, ?_⟩
  · intro h token htoken
    exact (hsound.tokens h token htoken).concat (by simp [Event.used]) (by simp [Event.revoked])
      (by simp [Event.token])
  · intro id other hother
    change Function.update m.store.usersByID user.id (some user) id = some other at hother
    show other.id = id ∧ .created other ∈ m.history ++ [.created user]
    by_cases heq : id = user.id
    · have hsame : user = other := by simpa [heq] using hother
      exact ⟨by rw [heq, hsame], by simp [hsame]⟩
    · have hold : m.store.usersByID id = some other := by simpa [heq] using hother
      exact (hsound.users id other hold).imp_right (List.mem_append_left _)
  · intro login id hid
    change Function.update m.store.userIDByLogin user.login (some user.id) login = some id at hid
    show (Function.update m.store.usersByID user.id (some user) id).isSome
    by_cases heq : id = user.id
    · simp [heq]
    · rw [Function.update_of_ne heq]
      refine hsound.logins login id ?_
      by_cases hlogin : login = user.login
      · rw [hlogin, Function.update_self] at hid
        exact absurd (Option.some.inj hid).symm heq
      · rwa [Function.update_of_ne hlogin] at hid

theorem Sound.save (hsound : Sound service m) {user : User} {token : RefreshToken η}
    (hnew : token.hash ∉ seen service m.history) (hcreated : .created user ∈ m.history)
    (hid : token.userID = user.id) :
    Sound service (m.record (m.store.saveRefreshToken token) (.issued user token)) := by
  refine ⟨hsound.history.concat trivial, ?_, ?_, hsound.logins⟩
  · intro h other hother
    obtain ⟨rfl, rfl⟩ | ⟨hne, hold⟩ := MemoryStore.refreshTokens_save hother
    · refine Live.fresh hnew rfl (by simp [Event.used]) (by simp [Event.revoked]) ?_ hcreated hid
      rw [owners_concat]
      exact Function.update_self _ _ _
    · refine (hsound.tokens h other hold).concat (by simp [Event.used]) (by simp [Event.revoked]) ?_
      intro last hlast
      cases hlast
      exact hne
  · intro id other hother
    exact (hsound.users id other hother).imp_right (List.mem_append_left _)

theorem Sound.remove (hsound : Sound service m) :
    Sound service { m with store := m.store.revokeRefreshToken h } := by
  refine ⟨hsound.history, ?_, hsound.users, hsound.logins⟩
  intro other token htoken
  exact hsound.tokens other token (MemoryStore.refreshTokens_revoke htoken).2

theorem Sound.rotate (hsound : Sound service m) {old replacement : RefreshToken η} (hraw : raw ≠ "")
    (hold : m.store.refreshTokens (service.refreshHash raw) = some old)
    (hnow : m.clock < old.expiresAt) (hnew : replacement.hash ∉ seen service m.history) :
    Sound service (m.record ((m.store.revokeRefreshToken (service.refreshHash raw)).saveRefreshToken
      { replacement with userID := old.userID }) (.exchanged call raw replacement m.clock)) := by
  have hlive := hsound.tokens _ old hold
  obtain ⟨first, hfirst, hhash⟩ := hlive.stored
  obtain ⟨owner, howner, hcreated, hid⟩ := hlive.owned
  have hseen : service.refreshHash raw ∈ seen service m.history := by
    obtain ⟨event, hmem, htoken⟩ := List.mem_filterMap.1 hfirst
    exact hhash ▸ mem_seen_of_mem hmem (Event.mem_mentions_of_token htoken)
  have hrule : Rule service m.history (.exchanged call raw replacement m.clock) := by
    refine ⟨hraw, hlive.unused, hlive.unrevoked, ⟨first, hfirst, hhash⟩, ?_⟩
    intro token htoken heq
    rw [hlive.expiry token htoken heq]
    exact hnow
  refine ⟨hsound.history.concat hrule, ?_, ?_, hsound.logins⟩
  · intro h other hother
    obtain ⟨heq, rfl⟩ | ⟨hne, hother⟩ := MemoryStore.refreshTokens_save hother
    · rw [heq]
      refine @Live.fresh _ service m.history (.exchanged call raw replacement m.clock) _ replacement
        owner old.userID hnew rfl ?_ (by simp [Event.revoked]) ?_ hcreated hid
      · intro hused
        exact hnew (Option.some.inj hused ▸ hseen)
      · rw [owners_concat, ← howner]
        exact Function.update_self _ _ _
    · obtain ⟨hraw, hother⟩ := MemoryStore.refreshTokens_revoke hother
      refine (hsound.tokens h other hother).concat ?_ (by simp [Event.revoked]) ?_
      · intro hused
        cases hused
        exact hraw rfl
      · intro last hlast
        cases hlast
        exact hne
  · intro id other hother
    exact (hsound.users id other hother).imp_right (List.mem_append_left _)

theorem Sound.logout (hsound : Sound service m)
    (hgone : raw ≠ "" → m.store.refreshTokens (service.refreshHash raw) = none) :
    Sound service (m.record m.store (.loggedOut call raw)) := by
  refine ⟨hsound.history.concat trivial, ?_, ?_, hsound.logins⟩
  · intro h token htoken
    refine (hsound.tokens h token htoken).concat (by simp [Event.used]) ?_ (by simp [Event.token])
    intro hrevoked
    simp only [Event.revoked] at hrevoked
    split_ifs at hrevoked with hraw
    cases hrevoked
    cases (hgone hraw).symm.trans htoken
  · intro id other hother
    exact (hsound.users id other hother).imp_right (List.mem_append_left _)

end PvpDuel.AuthServer
