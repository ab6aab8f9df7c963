import Mathlib.Data.List.AList
import PvpDuel.AuthServer.Service
import PvpDuel.MatchServer.Match

/-!
# Match results and profiles

`profile.Service` over a store, `profile.MemoryStore`, and `RetryReport` of the match server, whose
deliveries the gateway hands to the service. A time is a number, and the zero time is zero.
-/

namespace PvpDuel.Profiles

open AuthServer (AuthError)
open MatchServer (TerminalResult trimSpace)

/-! ### The data -/

structure MatchResult where
  matchID : String
  playerAID : String
  playerBID : String
  winnerID : String
  reason : String
  endedAt : Nat
deriving DecidableEq, Repr

@[ext]
structure Statistics where
  played : Nat
  wins : Nat
  losses : Nat
  draws : Nat
deriving DecidableEq, Repr

structure Profile where
  userID : String
  login : String
  createdAt : Nat
  statistics : Statistics
deriving DecidableEq, Repr

/-- What the service returns instead: `ErrInvalidResult`, or an error of its store wrapped. -/
inductive ServiceError (ε : Type)
  | invalidResult
  | store (err : ε)
deriving DecidableEq, Repr

/-- The text of an error of `RecordMatchResult`, given those of the store. -/
def ServiceError.text {ε : Type} (storeText : ε → String) : ServiceError ε → String
  | .invalidResult => "profile: invalid match result"
  | .store err => "record match result: " ++ storeText err

/-! ### The service -/

def validReason (reason : String) : Bool :=
  reason == "ko" || reason == "time_limit" || reason == "disconnect"

namespace MatchResult

/-- The result with its fields trimmed. -/
def trimmed (result : MatchResult) : MatchResult :=
  { result with
    matchID := trimSpace result.matchID
    playerAID := trimSpace result.playerAID
    playerBID := trimSpace result.playerBID
    winnerID := trimSpace result.winnerID
    reason := trimSpace result.reason }

/-- The check of `RecordMatchResult` that refuses a trimmed result. -/
def Refused (result : MatchResult) : Prop :=
  result.matchID = "" ∨ result.playerAID = "" ∨ result.playerBID = "" ∨
    result.playerAID = result.playerBID ∨ validReason result.reason = false ∨
    (result.winnerID ≠ "" ∧ result.winnerID ≠ result.playerAID ∧ result.winnerID ≠ result.playerBID)

instance (result : MatchResult) : Decidable result.Refused := by
  unfold Refused
  infer_instance

/-- A zero end is replaced by what the clock shows. -/
def stamped (now : Nat) (result : MatchResult) : MatchResult :=
  if result.endedAt = 0 then { result with endedAt := now } else result

end MatchResult

section Service

variable {σ ε : Type} (record : σ → MatchResult → σ × Except ε Bool)

/-- `RecordMatchResult` of the service over a store with this `RecordMatchResult`. -/
def recordMatchResult (s : σ) (now : Nat) (result : MatchResult) :
    σ × Except (ServiceError ε) Bool :=
  let result := result.trimmed
  if result.Refused then (s, .error .invalidResult)
  else
    match record s (result.stamped now) with
    | (s, .error err) => (s, .error (.store err))
    | (s, .ok inserted) => (s, .ok inserted)

/-- A call of the service: what its clock shows, and the result it is given. -/
abbrev Call := Nat × MatchResult

/-- The store after a sequence of calls, and what they returned. -/
def recordAll (s : σ) : List Call → σ × List (Except (ServiceError ε) Bool)
  | [] => (s, [])
  | call :: calls =>
      let first := recordMatchResult record s call.1 call.2
      let rest := recordAll first.1 calls
      (rest.1, first.2 :: rest.2)

/-! ### Reports -/

def reasonName : Gamev1.MatchFinishReason → String
  | .ko => "ko"
  | .timeLimit => "time_limit"
  | _ => "disconnect"

/-- The payload of a report, as the gateway hands it to the service. -/
def payload (result : TerminalResult) : MatchResult where
  matchID := result.matchID
  playerAID := result.playerAID
  playerBID := result.playerBID
  winnerID := result.winnerID
  reason := reasonName result.reason
  endedAt := result.endedAt

/-- What becomes of one attempt to report: when its request arrives, if it does, whether the response
comes back, and whether the context is done before the next attempt. -/
structure Attempt where
  arrives : Option Nat
  answered : Bool
  canceled : Bool
deriving DecidableEq, Repr

/-- `Report`: the store and whether the error is nil. -/
def report (s : σ) (result : TerminalResult) (attempt : Attempt) : σ × Bool :=
  match attempt.arrives with
  | none => (s, false)
  | some now =>
      let response := recordMatchResult record s now (payload result)
      (response.1, attempt.answered && response.2.isOk)

/-- The loop of `RetryReport` through the attempts that are left. -/
def retryLoop (s : σ) (result : TerminalResult) : List Attempt → σ
  | [] => s
  | attempt :: attempts =>
      let reported := report record s result attempt
      if reported.2 || attempt.canceled then reported.1 else retryLoop reported.1 result attempts

def retryReport (s : σ) (result : TerminalResult) (first second third : Attempt) : σ :=
  retryLoop record s result [first, second, third]

end Service

/-! ### The memory store -/

/-- The map `results`; the users are those of the auth store. -/
structure MemoryStore where
  results : AList fun _ : String => MatchResult

def newMemoryStore : MemoryStore where
  results := ∅

namespace MemoryStore

/-- The memory store never returns an error. -/
def recordMatchResult {ε : Type} (s : MemoryStore) (result : MatchResult) :
    MemoryStore × Except ε Bool :=
  match s.results.lookup result.matchID with
  | some _ => (s, .ok false)
  | none => ({ s with results := s.results.insert result.matchID result }, .ok true)

/-- The values of the map, in one of the orders in which a range may take them. -/
def values (s : MemoryStore) : List MatchResult := s.results.entries.map Sigma.snd

end MemoryStore

/-- One iteration of the loop of `ProfileByUserID`. -/
def Statistics.count (userID : String) (statistics : Statistics) (result : MatchResult) : Statistics :=
  if result.playerAID ≠ userID ∧ result.playerBID ≠ userID then statistics
  else
    let statistics := { statistics with played := statistics.played + 1 }
    if result.winnerID = "" then { statistics with draws := statistics.draws + 1 }
    else if result.winnerID = userID then { statistics with wins := statistics.wins + 1 }
    else { statistics with losses := statistics.losses + 1 }

/-- The loop over the results in the order of the range. -/
def countResults (userID : String) (order : List MatchResult) : Statistics :=
  order.foldl (Statistics.count userID) ⟨0, 0, 0, 0⟩

/-- `ProfileByUserID` of the memory store, given the users and the order of its range. -/
def profileByUserID {η : Type} (users : AuthServer.MemoryStore η) (order : List MatchResult)
    (userID : String) : Except AuthError Profile :=
  match users.userByID userID with
  | .error err => .error err
  | .ok user => .ok ⟨user.id, user.login, user.createdAt, countResults userID order⟩

end PvpDuel.Profiles
