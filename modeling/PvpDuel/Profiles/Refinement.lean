import PvpDuel.Profiles.OncePerMatch
import PvpDuel.Profiles.Postgres

/-!
# The Postgres store and the memory store

The rows of `match_results` are the results kept, with their identifiers read as UUIDs and an empty
winner as a null. For results about registered users the insert then keeps the first of every match,
like the map, and the counts of the query are the tally that the loop computes.
-/

namespace PvpDuel.Profiles

open FirstWins Sql
open AuthServer (AuthError)
open Uuid (UUID)

variable {users : List UserRow} {db : Database} {row : ResultRow} {result : MatchResult}
  {kept : List MatchResult}

/-! ### Rows -/

def ResultRow.asResult (row : ResultRow) : MatchResult where
  matchID := row.matchID.text
  playerAID := row.playerAID.text
  playerBID := row.playerBID.text
  winnerID := (row.winnerPlayerID.map UUID.text).getD ""
  reason := row.finishReason
  endedAt := row.endedAt

theorem text_inj {a b : UUID} : a.text = b.text ↔ a = b :=
  ⟨Uuid.text_injective, congrArg UUID.text⟩

theorem uuidParameter_text (id : UUID) : uuidParameter id.text = .ok id := by
  rw [uuidParameter, Uuid.parse_text]

theorem nullableUuid_text (id : Option UUID) :
    nullableUuid ((id.map UUID.text).getD "") = .ok id := by
  cases id with
  | none => rfl
  | some id =>
      rw [nullableUuid, Option.map_some, Option.getD_some, if_neg (Uuid.text_ne_empty id), uuidParameter_text]
      rfl

theorem winnerID_eq_empty : row.asResult.winnerID = "" ↔ row.winnerPlayerID = none := by
  unfold ResultRow.asResult
  cases row.winnerPlayerID with
  | none => simp
  | some id => simp [Uuid.text_ne_empty id]

theorem winnerID_eq_text {id : UUID} :
    row.asResult.winnerID = id.text ↔ row.winnerPlayerID = some id := by
  unfold ResultRow.asResult
  cases row.winnerPlayerID with
  | none => simp [(Uuid.text_ne_empty id).symm]
  | some other => simp [text_inj]

theorem resultRow_asResult (h : validReason row.finishReason = true) :
    resultRow row.asResult = .ok row := by
  have hlength : ¬ 32 < row.finishReason.length := by
    simp only [validReason, Bool.or_eq_true, beq_iff_eq] at h
    obtain (h | h) | h := h <;> rw [h] <;> decide
  unfold resultRow ResultRow.asResult
  dsimp only
  rw [uuidParameter_text, uuidParameter_text, uuidParameter_text, nullableUuid_text]
  simp only [bind, Except.bind, if_neg hlength]
  rfl

/-- The match and the players of a result are named by the text of UUIDs, the players by those of
registered users. -/
structure Eligible (users : List UserRow) (result : MatchResult) : Prop where
  matchID : ∃ id : UUID, result.matchID = id.text
  playerA : ∃ id ∈ users.map UserRow.id, result.playerAID = id.text
  playerB : ∃ id ∈ users.map UserRow.id, result.playerBID = id.text

/-- The references of a row are to registered users. -/
structure ResultRow.Registered (users : List UserRow) (row : ResultRow) : Prop where
  playerA : row.playerAID ∈ users.map UserRow.id
  playerB : row.playerBID ∈ users.map UserRow.id
  winner : ∀ id, row.winnerPlayerID = some id → id ∈ users.map UserRow.id

theorem Eligible.exists_row (h : Eligible users result) (hform : result.WellFormed) :
    ∃ row : ResultRow, row.asResult = result ∧ row.Registered users := by
  obtain ⟨matchID, hmatch⟩ := h.matchID
  obtain ⟨a, ha, hplayerA⟩ := h.playerA
  obtain ⟨b, hb, hplayerB⟩ := h.playerB
  have hrow : ∀ winner : Option UUID, result.winnerID = (winner.map UUID.text).getD "" →
      (ResultRow.mk matchID a b winner result.reason result.endedAt).asResult = result := by
    intro winner hwinner
    rw [ResultRow.asResult, ← hmatch, ← hplayerA, ← hplayerB, ← hwinner]
  obtain hwinner | hwinner | hwinner := hform.winner
  · exact ⟨_, hrow none hwinner, ha, hb, by simp⟩
  · exact ⟨_, hrow (some a) (hwinner.trans hplayerA), ha, hb, by simpa using ha⟩
  · exact ⟨_, hrow (some b) (hwinner.trans hplayerB), ha, hb, by simpa using hb⟩

/-! ### The insert -/

section Checks

variable (h : row.asResult.WellFormed)

include h

theorem reasonCheck_permits : row.reasonCheck.permits = true := by
  refine permits_of_selects ?_
  have hreason : validReason row.finishReason = true := h.reason
  simp only [validReason, Bool.or_eq_true, beq_iff_eq] at hreason
  simp only [ResultRow.reasonCheck, selects_disjunction, selects_equal]
  obtain (hreason | hreason) | hreason := hreason <;> simp [hreason]

theorem playersCheck_permits : row.playersCheck.permits = true := by
  refine permits_of_selects (selects_differ.2 ⟨_, _, rfl, rfl, ?_⟩)
  intro heq
  exact h.players (congrArg UUID.text heq)

theorem winnerCheck_permits : row.winnerCheck.permits = true := by
  refine permits_of_selects ?_
  simp only [ResultRow.winnerCheck, selects_disjunction, selects_isNull, selects_equal]
  obtain hwinner | hwinner | hwinner := h.winner
  · exact .inl (winnerID_eq_empty.1 hwinner)
  · exact .inr (.inl ⟨_, winnerID_eq_text.1 hwinner, rfl⟩)
  · exact .inr (.inr ⟨_, winnerID_eq_text.1 hwinner, rfl⟩)

end Checks

/-- The database has these users, and the rows of the results kept. -/
def Database.Holds (users : List UserRow) (db : Database) (kept : List MatchResult) : Prop :=
  db.users = users ∧ db.matchResults.map ResultRow.asResult = kept

theorem Database.Holds.mem_matchIDs (h : db.Holds users kept) :
    row.asResult.matchID ∈ kept.map MatchResult.matchID ↔
      row.matchID ∈ db.matchResults.map ResultRow.matchID := by
  have hids : kept.map MatchResult.matchID =
      (db.matchResults.map ResultRow.matchID).map UUID.text := by
    rw [← h.2, List.map_map, List.map_map]
    rfl
  rw [hids]
  exact List.mem_map_of_injective fun _ _ => Uuid.text_injective

theorem ResultRow.Registered.references (h : row.Registered users) (hdb : db.users = users) :
    db.references (some row.playerAID) = true ∧ db.references (some row.playerBID) = true ∧
      db.references row.winnerPlayerID = true := by
  unfold Database.references
  rw [hdb]
  refine ⟨by simpa using h.playerA, by simpa using h.playerB, ?_⟩
  cases hwinner : row.winnerPlayerID with
  | none => rfl
  | some id => simpa using h.winner id hwinner

theorem Database.insertResult_eq (h : db.Holds users kept) (hform : row.asResult.WellFormed)
    (hregistered : row.Registered users) :
    ∃ t n, db.insertResult row = .ok (t, n) ∧
      n = (if row.asResult.matchID ∈ kept.map MatchResult.matchID then 0 else 1) ∧
      t.Holds users (insertNew MatchResult.matchID kept row.asResult) := by
  obtain ⟨ha, hb, hwinner⟩ := hregistered.references h.1
  have hreason := reasonCheck_permits hform
  have hplayers := playersCheck_permits hform
  have hcheck := winnerCheck_permits hform
  unfold Database.insertResult
  by_cases hmem : row.matchID ∈ db.matchResults.map ResultRow.matchID
  · have hkept := h.mem_matchIDs.2 hmem
    refine ⟨db, 0, by simp [hreason, hplayers, hcheck, hmem], (if_pos hkept).symm, ?_⟩
    rw [insertNew_of_mem hkept]
    exact h
  · have hkept : row.asResult.matchID ∉ kept.map MatchResult.matchID := fun hin =>
      hmem (h.mem_matchIDs.1 hin)
    refine ⟨db.append row hmem, 1, by simp [hreason, hplayers, hcheck, hmem, ha, hb, hwinner],
      (if_neg hkept).symm, h.1, ?_⟩
    rw [insertNew_of_notMem hkept, ← h.2]
    exact List.map_append

theorem Database.keepsFirst (users : List UserRow) :
    KeepsFirst Database.recordMatchResult (Database.Holds users)
      fun result => result.WellFormed ∧ Eligible users result := by
  rintro db kept result hdb ⟨hform, heligible⟩
  obtain ⟨row, rfl, hregistered⟩ := heligible.exists_row hform
  obtain ⟨t, n, hinsert, rfl, ht⟩ := Database.insertResult_eq hdb hform hregistered
  refine ⟨t, ?_, ht⟩
  have hrow : resultRow row.asResult >>= db.insertResult = db.insertResult row := by
    rw [resultRow_asResult hform.reason]
    rfl
  rw [Database.recordMatchResult, hrow, hinsert]
  by_cases hmem : row.asResult.matchID ∈ kept.map MatchResult.matchID
  · simp only [if_pos hmem, decide_eq_false (not_not_intro hmem)]
    rfl
  · simp only [if_neg hmem, decide_eq_true hmem]
    rfl

/-! ### The query -/

section Query

variable {user : UserRow}

theorem selects_played : (Database.played user row).selects = true ↔
    row.playerAID = user.id ∨ row.playerBID = user.id := by
  simp only [Database.played, selects_disjunction, equal_some_some, selects_some, decide_eq_true_eq]

/-- What a row is for a user: nothing unless the join selects it, and then its winner decides. -/
theorem outcome_asResult (user : UserRow) (row : ResultRow) :
    ((Database.played user row).selects = false ∧ row.asResult.outcome user.id.text = none) ∨
    (Database.played user row).selects = true ∧
      (row.winnerPlayerID = none ∧ row.asResult.outcome user.id.text = some .draw ∨
        row.winnerPlayerID = some user.id ∧ row.asResult.outcome user.id.text = some .win ∨
        ∃ other, row.winnerPlayerID = some other ∧ other ≠ user.id ∧
          row.asResult.outcome user.id.text = some .loss) := by
  have hother : row.asResult.playerAID ≠ user.id.text ∧ row.asResult.playerBID ≠ user.id.text ↔
      ¬ (Database.played user row).selects = true := by
    rw [selects_played, not_or]
    exact and_congr (not_congr text_inj) (not_congr text_inj)
  unfold MatchResult.outcome
  by_cases h : (Database.played user row).selects = true
  · rw [if_neg fun hn => hother.1 hn h]
    refine .inr ⟨h, ?_⟩
    cases hwinner : row.winnerPlayerID with
    | none => exact .inl ⟨rfl, if_pos (winnerID_eq_empty.2 hwinner)⟩
    | some other =>
        have hsome : ¬ row.asResult.winnerID = "" := by
          rw [winnerID_eq_empty, hwinner]
          exact Option.some_ne_none _
        rw [if_neg hsome]
        by_cases hid : other = user.id
        · exact .inr (.inl ⟨congrArg some hid, if_pos (winnerID_eq_text.2 (hid ▸ hwinner))⟩)
        · refine .inr (.inr ⟨other, rfl, hid, if_neg ?_⟩)
          rw [winnerID_eq_text, hwinner]
          exact fun heq => hid (Option.some.inj heq)
  · exact .inl ⟨Bool.eq_false_of_not_eq_true h, if_pos (hother.2 h)⟩

/-- A count of the group of a user, with a condition on the winner, is one over the results kept. -/
theorem countFilter_group (f : UUID → Option UUID → Truth) (p : Option Outcome → Bool)
    (hdb : db.matchResults.map ResultRow.asResult = kept) (hnone : p none = false)
    (hdraw : (f user.id none).selects = p (some .draw))
    (hwin : (f user.id (some user.id)).selects = p (some .win))
    (hloss : ∀ other, other ≠ user.id → (f user.id (some other)).selects = p (some .loss)) :
    countFilter (fun row => row.2.map ResultRow.matchID) (fun row => f row.1.id (Database.winner row))
        (joinRow Database.played db.matchResults user) =
      kept.countP fun result => p (result.outcome user.id.text) := by
  rw [countFilter_joinRow, ← hdb, List.countP_map]
  refine List.countP_congr ?_
  intro row _
  show ((Database.played user row).selects && (f user.id row.winnerPlayerID).selects) = true ↔
    p (row.asResult.outcome user.id.text) = true
  obtain ⟨h, ho⟩ | ⟨h, ⟨hw, ho⟩ | ⟨hw, ho⟩ | ⟨other, hw, hne, ho⟩⟩ := outcome_asResult user row
  · rw [h, ho, hnone, Bool.false_and]
  · rw [h, ho, hw, hdraw, Bool.true_and]
  · rw [h, ho, hw, hwin, Bool.true_and]
  · rw [h, ho, hw, hloss other hne, Bool.true_and]

theorem statistics_joinRow (hdb : db.matchResults.map ResultRow.asResult = kept) :
    Database.statistics (joinRow Database.played db.matchResults user) = tally user.id.text kept := by
  ext
  · refine count_eq_countFilter.trans (countFilter_group (fun _ _ => some true) Option.isSome hdb rfl rfl
      rfl ?_)
    exact fun _ _ => rfl
  · refine countFilter_group (fun id winner => equal winner (some id)) (fun o => o = some .win) hdb rfl
      rfl ?_ ?_
    · simp
    · simp
  · refine countFilter_group
      (fun id winner => conjunction (negation (isNull winner)) (differ winner (some id)))
      (fun o => o = some .loss) hdb rfl rfl ?_ ?_
    · simp [differ, negation, isNull, conjunction]
    · intro other hne
      simp [differ, negation, isNull, conjunction, hne]
  · refine countFilter_group (fun _ winner => isNull winner) (fun o => o = some .draw) hdb rfl rfl rfl ?_
    exact fun _ _ => rfl

theorem profileRows_eq (id : UUID) : db.profileRows id =
    (groupBy (fun row : UserRow × Option ResultRow => (row.1.id, row.1.login, row.1.createdAt))
      (leftJoin Database.played (db.users.filter fun user => user.id = id) db.matchResults)).map
      fun group => ⟨group.1.1.text, group.1.2.1, group.1.2.2, Database.statistics group.2⟩ := by
  have hfilter : (leftJoin Database.played db.users db.matchResults).filter (fun row => row.1.id = id) =
      leftJoin Database.played (db.users.filter fun user => user.id = id) db.matchResults :=
    filter_leftJoin fun user : UserRow => decide (user.id = id)
  unfold Database.profileRows
  simp only [equal_some_some, selects_some]
  rw [hfilter]

theorem Database.Holds.profile_of_mem (h : db.Holds users kept) (huser : user ∈ users) :
    db.profileByUserID user.id.text =
      .ok ⟨user.id.text, user.login, user.createdAt, tally user.id.text kept⟩ := by
  have hnodup := db.nodup_users
  rw [h.1] at hnodup
  have hgroup : groupBy
      (fun row : UserRow × Option ResultRow => (row.1.id, row.1.login, row.1.createdAt))
      (joinRow Database.played db.matchResults user) =
        [((user.id, user.login, user.createdAt), joinRow Database.played db.matchResults user)] := by
    refine groupBy_of_forall joinRow_ne_nil ?_
    intro row hrow
    rw [fst_of_mem_joinRow hrow]
  rw [Database.profileByUserID, uuidParameter_text]
  dsimp only
  rw [profileRows_eq, h.1, filter_key hnodup huser, leftJoin_singleton, hgroup, List.map_singleton,
    statistics_joinRow h.2]

theorem Database.Holds.profile_of_notMem (h : db.Holds users kept) {id : UUID}
    (hid : id ∉ users.map UserRow.id) : db.profileByUserID id.text = .error .userNotFound := by
  have hfilter : (db.users.filter fun user => user.id = id) = [] := by
    rw [List.filter_eq_nil_iff, h.1]
    intro user huser heq
    exact hid (List.mem_map.2 ⟨user, huser, of_decide_eq_true heq⟩)
  rw [Database.profileByUserID, uuidParameter_text]
  dsimp only
  rw [profileRows_eq, hfilter]
  rfl

end Query

/-! ### Agreement -/

/-- For users that are registered with both and every sequence of calls whose valid results are about
registered users: the two stores answer alike, in every order of the range of the memory store both
return the statistics of a registered user, and neither knows anyone else. -/
theorem stores_agree {η : Type} (users : List UserRow) (hnodup : (users.map UserRow.id).Nodup)
    (registered : AuthServer.MemoryStore η)
    (hsame : ∀ id : UUID, (∃ user, registered.userByID id.text = .ok user) ↔
      id ∈ users.map UserRow.id) (calls : List Call)
    (hcalls : ∀ call ∈ calls, ∀ result, call.validated = some result → Eligible users result) :
    (recordAll Database.recordMatchResult (newDatabase users hnodup) calls).2 =
      (recordAll (@MemoryStore.recordMatchResult AuthError) newMemoryStore calls).2 ∧
    ∀ order, order.Perm
        (recordAll (@MemoryStore.recordMatchResult AuthError) newMemoryStore calls).1.values →
      ∀ id : UUID,
        (id ∈ users.map UserRow.id → ∃ stored profile,
          (recordAll Database.recordMatchResult (newDatabase users hnodup) calls).1.profileByUserID
            id.text = .ok stored ∧
          profileByUserID registered order id.text = .ok profile ∧
          stored.statistics = profile.statistics) ∧
        (id ∉ users.map UserRow.id →
          (recordAll Database.recordMatchResult (newDatabase users hnodup) calls).1.profileByUserID
            id.text = .error .userNotFound ∧
          profileByUserID registered order id.text = .error .userNotFound) := by
  have hinitial : (newDatabase users hnodup).Holds users (recorded []) := ⟨rfl, rfl⟩
  obtain ⟨db, hdb, hholds⟩ := (Database.keepsFirst users).all hinitial
    fun call hcall result hresult => ⟨wellFormed_of_validated hresult, hcalls call hcall result hresult⟩
  obtain ⟨s, hs, hmemory⟩ := (MemoryStore.keepsFirst AuthError).all holds_newMemoryStore
    fun call (_ : call ∈ calls) _ _ => trivial
  rw [hdb, hs]
  refine ⟨rfl, ?_⟩
  intro order horder id
  constructor
  · intro hid
    obtain ⟨row, hrow, rfl⟩ := List.mem_map.1 hid
    obtain ⟨user, huser⟩ := (hsame row.id).2 hid
    refine ⟨_, _, hholds.profile_of_mem hrow, by rw [profileByUserID, huser], ?_⟩
    exact (countResults_eq_tally (horder.trans hmemory.values_perm)).symm
  · intro hid
    refine ⟨hholds.profile_of_notMem hid, ?_⟩
    rw [profileByUserID]
    cases huser : registered.userByID id.text with
    | ok user => exact absurd ((hsame id).1 ⟨user, huser⟩) hid
    | error err =>
        unfold AuthServer.MemoryStore.userByID at huser
        split at huser
        · cases huser
          rfl
        · cases huser

def plainUuid (byte : UInt8) : UUID := ⟨List.replicate 16 byte, List.length_replicate⟩

def duelists : List UserRow := [⟨plainUuid 1, "alice", 1⟩, ⟨plainUuid 2, "bob", 2⟩]

def duelistStore : AuthServer.MemoryStore Unit where
  usersByID := fun id =>
    if id = (plainUuid 1).text then some ⟨id, "alice", [], 1⟩
    else if id = (plainUuid 2).text then some ⟨id, "bob", [], 2⟩
    else none
  userIDByLogin := fun _ => none
  refreshTokens := fun _ => none

/-- A knockout, the same match reported as a draw, and a match of a player against itself. -/
def rematch : List Call :=
  [(5, ⟨" 03030303-0303-0303-0303-030303030303", (plainUuid 1).text, (plainUuid 2).text,
      (plainUuid 2).text, "ko", 0⟩),
    (6, ⟨(plainUuid 3).text, (plainUuid 2).text, (plainUuid 1).text, "", "time_limit ", 7⟩),
    (8, ⟨(plainUuid 4).text, (plainUuid 1).text, (plainUuid 1).text, "", "ko", 7⟩)]

theorem stores_agree_rematch :
    (recordAll Database.recordMatchResult (newDatabase duelists (by decide)) rematch).2 =
      (recordAll (@MemoryStore.recordMatchResult AuthError) newMemoryStore rematch).2 := by
  have hsame : ∀ id : UUID, (∃ user, duelistStore.userByID id.text = .ok user) ↔
      id ∈ duelists.map UserRow.id := by
    intro id
    show (∃ user, _ = _) ↔ id ∈ [plainUuid 1, plainUuid 2]
    simp only [AuthServer.MemoryStore.userByID, duelistStore, text_inj, List.mem_cons,
      List.not_mem_nil, or_false]
    have hne : plainUuid 2 ≠ plainUuid 1 := by decide
    by_cases hone : id = plainUuid 1
    · simp [hone]
    · by_cases htwo : id = plainUuid 2 <;> simp [hone, htwo, hne]
  refine (stores_agree duelists (by decide) duelistStore hsame rematch ?_).1
  have hvalid : rematch.map Call.validated =
      [some ⟨(plainUuid 3).text, (plainUuid 1).text, (plainUuid 2).text, (plainUuid 2).text, "ko", 5⟩,
        some ⟨(plainUuid 3).text, (plainUuid 2).text, (plainUuid 1).text, "", "time_limit", 7⟩,
        none] := by
    decide +kernel
  intro call hcall result hresult
  have hmem := List.mem_map_of_mem (f := Call.validated) hcall
  rw [hvalid, hresult] at hmem
  simp only [List.mem_cons, Option.some.injEq, List.not_mem_nil, or_false] at hmem
  obtain rfl | rfl | hnone := hmem
  · exact ⟨⟨_, rfl⟩, ⟨plainUuid 1, by decide, rfl⟩, plainUuid 2, by decide, rfl⟩
  · exact ⟨⟨_, rfl⟩, ⟨plainUuid 2, by decide, rfl⟩, plainUuid 1, by decide, rfl⟩
  · cases hnone

end PvpDuel.Profiles
