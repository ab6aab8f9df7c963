import PvpDuel.Lib.Sql
import PvpDuel.Lib.Uuid
import PvpDuel.Profiles.Service

/-!
# The Postgres store of match results

The tables of the migrations and the two statements of `postgres.Store` over them. A parameter reaches
the database as text; the server reads it as the type of its place.
-/

namespace PvpDuel.Profiles

open AuthServer (AuthError)
open Sql
open Uuid (UUID)

/-! ### The tables -/

/-- A row of `users`. -/
structure UserRow where
  id : UUID
  login : String
  createdAt : Nat
deriving DecidableEq

/-- A row of `match_results`. -/
structure ResultRow where
  matchID : UUID
  playerAID : UUID
  playerBID : UUID
  winnerPlayerID : Option UUID
  finishReason : String
  endedAt : Nat
deriving DecidableEq

/-- The two tables with their primary keys. -/
structure Database where
  users : List UserRow
  matchResults : List ResultRow
  nodup_users : (users.map UserRow.id).Nodup
  nodup_matchResults : (matchResults.map ResultRow.matchID).Nodup

/-- The errors of the server that the statements can meet. -/
inductive QueryError
  | invalidUuid (text : String)
  | valueTooLong
  | checkViolation (name : String)
  | foreignKeyViolation (name : String)
deriving DecidableEq, Repr

def QueryError.text : QueryError → String
  | .invalidUuid text =>
      "ERROR: invalid input syntax for type uuid: \"" ++ text ++ "\" (SQLSTATE 22P02)"
  | .valueTooLong => "ERROR: value too long for type character varying(32) (SQLSTATE 22001)"
  | .checkViolation name => "ERROR: new row for relation \"match_results\" violates check constraint \""
      ++ name ++ "\" (SQLSTATE 23514)"
  | .foreignKeyViolation name => "ERROR: insert or update on table \"match_results\" violates foreign "
      ++ "key constraint \"" ++ name ++ "\" (SQLSTATE 23503)"

/-- A parameter of type `uuid`. -/
def uuidParameter (text : String) : Except QueryError UUID :=
  match Uuid.parse text with
  | none => .error (.invalidUuid text)
  | some id => .ok id

/-- `NULLIF($4, '')::uuid`. -/
def nullableUuid (text : String) : Except QueryError (Option UUID) :=
  if text = "" then .ok none else (uuidParameter text).map some

/-! ### The insert -/

namespace ResultRow

/-- `CHECK (finish_reason IN ('ko', 'time_limit', 'disconnect'))`. -/
def reasonCheck (row : ResultRow) : Truth :=
  disjunction (equal (some row.finishReason) (some "ko"))
    (disjunction (equal (some row.finishReason) (some "time_limit"))
      (equal (some row.finishReason) (some "disconnect")))

/-- `CHECK (player_a_id <> player_b_id)`. -/
def playersCheck (row : ResultRow) : Truth := differ (some row.playerAID) (some row.playerBID)

/-- `CHECK (winner_player_id IS NULL OR winner_player_id = player_a_id OR ...)`. -/
def winnerCheck (row : ResultRow) : Truth :=
  disjunction (isNull row.winnerPlayerID)
    (disjunction (equal row.winnerPlayerID (some row.playerAID))
      (equal row.winnerPlayerID (some row.playerBID)))

end ResultRow

/-- A reference is satisfied when it is null or names a row of `users`. -/
def Database.references (db : Database) (id : Option UUID) : Bool :=
  id.all fun id => id ∈ db.users.map UserRow.id

/-- The row of the `VALUES` clause. -/
def resultRow (result : MatchResult) : Except QueryError ResultRow := do
  let matchID ← uuidParameter result.matchID
  let playerAID ← uuidParameter result.playerAID
  let playerBID ← uuidParameter result.playerBID
  let winnerPlayerID ← nullableUuid result.winnerID
  if 32 < result.reason.length then throw .valueTooLong
  return ⟨matchID, playerAID, playerBID, winnerPlayerID, result.reason, result.endedAt⟩

def Database.append (db : Database) (row : ResultRow)
    (h : row.matchID ∉ db.matchResults.map ResultRow.matchID) : Database where
  users := db.users
  matchResults := db.matchResults ++ [row]
  nodup_users := db.nodup_users
  nodup_matchResults := by
    rw [List.map_append]
    exact List.nodup_append'.2 ⟨db.nodup_matchResults, List.nodup_singleton _, by simpa using h⟩

/-- `INSERT ... ON CONFLICT (match_id) DO NOTHING`: the checks come before the conflict, the references
are tested for a row that is inserted. The number is that of the rows affected. -/
def Database.insertResult (db : Database) (row : ResultRow) : Except QueryError (Database × Nat) :=
  if !row.reasonCheck.permits then .error (.checkViolation "match_results_finish_reason_check")
  else if !row.playersCheck.permits then .error (.checkViolation "match_results_check")
  else if !row.winnerCheck.permits then .error (.checkViolation "match_results_check1")
  else if hconflict : row.matchID ∈ db.matchResults.map ResultRow.matchID then .ok (db, 0)
  else if !db.references (some row.playerAID) then
    .error (.foreignKeyViolation "match_results_player_a_id_fkey")
  else if !db.references (some row.playerBID) then
    .error (.foreignKeyViolation "match_results_player_b_id_fkey")
  else if !db.references row.winnerPlayerID then
    .error (.foreignKeyViolation "match_results_winner_player_id_fkey")
  else .ok (db.append row hconflict, 1)

namespace Database

/-- `RecordMatchResult`. -/
def recordMatchResult (db : Database) (result : MatchResult) : Database × Except AuthError Bool :=
  match resultRow result >>= db.insertResult with
  | .error err => (db, .error (.wrapped "insert match result" (.library err.text)))
  | .ok (db, changed) => (db, .ok (changed == 1))

/-! ### The query -/

/-- `m.player_a_id = u.id OR m.player_b_id = u.id`. -/
def played (user : UserRow) (result : ResultRow) : Truth :=
  disjunction (equal (some result.playerAID) (some user.id))
    (equal (some result.playerBID) (some user.id))

/-- The column `winner_player_id` of a joined row. -/
def winner (row : UserRow × Option ResultRow) : Option UUID :=
  row.2.bind ResultRow.winnerPlayerID

def statistics (rows : List (UserRow × Option ResultRow)) : Statistics where
  played := count (fun row => row.2.map ResultRow.matchID) rows
  wins := countFilter (fun row => row.2.map ResultRow.matchID)
    (fun row => equal (winner row) (some row.1.id)) rows
  draws := countFilter (fun row => row.2.map ResultRow.matchID) (fun row => isNull (winner row)) rows
  losses := countFilter (fun row => row.2.map ResultRow.matchID)
    (fun row => conjunction (negation (isNull (winner row))) (differ (winner row) (some row.1.id))) rows

/-- The rows that the query of `ProfileByUserID` returns. -/
def profileRows (db : Database) (id : UUID) : List Profile :=
  let rows := (leftJoin played db.users db.matchResults).filter fun row =>
    (equal (some row.1.id) (some id)).selects
  (groupBy (fun row => (row.1.id, row.1.login, row.1.createdAt)) rows).map fun group =>
    ⟨group.1.1.text, group.1.2.1, group.1.2.2, statistics group.2⟩

/-- `ProfileByUserID`. -/
def profileByUserID (db : Database) (userID : String) : Except AuthError Profile :=
  match uuidParameter userID with
  | .error err => .error (.wrapped "query profile" (.library err.text))
  | .ok id =>
      match db.profileRows id with
      | [] => .error .userNotFound
      | profile :: _ => .ok profile

end Database

def newDatabase (users : List UserRow) (h : (users.map UserRow.id).Nodup) : Database where
  users := users
  matchResults := []
  nodup_users := h
  nodup_matchResults := List.nodup_nil

end PvpDuel.Profiles
