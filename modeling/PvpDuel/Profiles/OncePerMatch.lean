import Mathlib.Algebra.BigOperators.Group.Finset.Basic
import Mathlib.Algebra.BigOperators.Ring.List
import Mathlib.Algebra.Ring.Parity
import PvpDuel.Profiles.Counting

/-!
# Statistics over the results that count

A result is a win, a loss or a draw for each of its two players and nothing for anyone else. The loop
of `ProfileByUserID` counts these in any order, and over all players each result counts twice: once as
a win and once as a loss, or twice as a draw.
-/

namespace PvpDuel.Profiles

open FirstWins
open MatchServer (TerminalResult)

/-! ### Outcomes -/

inductive Outcome
  | win
  | loss
  | draw
deriving DecidableEq, Repr

/-- What a result is for a user, if the user played. -/
def MatchResult.outcome (userID : String) (result : MatchResult) : Option Outcome :=
  if result.playerAID ≠ userID ∧ result.playerBID ≠ userID then none
  else if result.winnerID = "" then some .draw
  else if result.winnerID = userID then some .win
  else some .loss

/-- The statistics of a user over the results that count. -/
def tally (userID : String) (results : List MatchResult) : Statistics where
  played := results.countP fun result => (result.outcome userID).isSome
  wins := results.countP fun result => result.outcome userID = some .win
  losses := results.countP fun result => result.outcome userID = some .loss
  draws := results.countP fun result => result.outcome userID = some .draw

variable {userID : String} {results order : List MatchResult} {result : MatchResult}

theorem tally_cons : tally userID (result :: results) =
    match result.outcome userID with
    | none => tally userID results
    | some .win => { tally userID results with
        played := (tally userID results).played + 1, wins := (tally userID results).wins + 1 }
    | some .loss => { tally userID results with
        played := (tally userID results).played + 1, losses := (tally userID results).losses + 1 }
    | some .draw => { tally userID results with
        played := (tally userID results).played + 1, draws := (tally userID results).draws + 1 } := by
  cases h : result.outcome userID with
  | none => simp [tally, h]
  | some outcome => cases outcome <;> simp [tally, h]

theorem count_eq (statistics : Statistics) : Statistics.count userID statistics result =
    match result.outcome userID with
    | none => statistics
    | some .win => { statistics with played := statistics.played + 1, wins := statistics.wins + 1 }
    | some .loss => { statistics with
        played := statistics.played + 1, losses := statistics.losses + 1 }
    | some .draw => { statistics with
        played := statistics.played + 1, draws := statistics.draws + 1 } := by
  unfold Statistics.count MatchResult.outcome
  by_cases hother : result.playerAID ≠ userID ∧ result.playerBID ≠ userID
  · rw [if_pos hother, if_pos hother]
  rw [if_neg hother, if_neg hother]
  by_cases hdraw : result.winnerID = ""
  · rw [if_pos hdraw, if_pos hdraw]
  rw [if_neg hdraw, if_neg hdraw]
  by_cases hwin : result.winnerID = userID
  · rw [if_pos hwin, if_pos hwin]
  · rw [if_neg hwin, if_neg hwin]

theorem foldl_count (statistics : Statistics) : order.foldl (Statistics.count userID) statistics =
    ⟨statistics.played + (tally userID order).played, statistics.wins + (tally userID order).wins,
      statistics.losses + (tally userID order).losses,
      statistics.draws + (tally userID order).draws⟩ := by
  induction order generalizing statistics with
  | nil => rfl
  | cons result order ih =>
      rw [List.foldl_cons, ih, count_eq, tally_cons]
      cases result.outcome userID with
      | none => rfl
      | some outcome => cases outcome <;> simp [Nat.add_assoc, Nat.add_comm 1]

theorem countResults_eq_tally (hperm : order.Perm results) :
    countResults userID order = tally userID results := by
  rw [countResults, foldl_count]
  ext
  · exact (Nat.zero_add _).trans (hperm.countP_eq _)
  · exact (Nat.zero_add _).trans (hperm.countP_eq _)
  · exact (Nat.zero_add _).trans (hperm.countP_eq _)
  · exact (Nat.zero_add _).trans (hperm.countP_eq _)

theorem tally_played : (tally userID results).played =
    (tally userID results).wins + (tally userID results).losses + (tally userID results).draws := by
  induction results with
  | nil => rfl
  | cons result results ih =>
      rw [tally_cons]
      cases result.outcome userID with
      | none => exact ih
      | some outcome => cases outcome <;> (simp only; omega)

/-! ### Over all players -/

open Finset

theorem sum_countP {ι α : Type} (users : Finset ι) (p : ι → α → Bool) (items : List α) :
    ∑ u ∈ users, items.countP (p u) = (items.map fun item => ∑ u ∈ users, (p u item).toNat).sum := by
  induction items with
  | nil => simp
  | cons item items ih =>
      rw [List.map_cons, List.sum_cons, ← ih, ← sum_add_distrib]
      refine sum_congr rfl ?_
      intro u _
      rw [List.countP_cons, Nat.add_comm]
      cases p u item <;> rfl

theorem sum_outcome (hne : result.playerAID ≠ result.playerBID) {users : Finset String}
    (ha : result.playerAID ∈ users) (hb : result.playerBID ∈ users) (p : Option Outcome → Bool)
    (hp : p none = false) : ∑ u ∈ users, (p (result.outcome u)).toNat =
      (p (result.outcome result.playerAID)).toNat + (p (result.outcome result.playerBID)).toNat := by
  have hsubset : ({result.playerAID, result.playerBID} : Finset String) ⊆ users := by
    simp [insert_subset_iff, ha, hb]
  refine (sum_subset hsubset ?_).symm.trans (sum_pair hne)
  intro u _ hu
  have hother : result.playerAID ≠ u ∧ result.playerBID ≠ u := by
    simpa [not_or, eq_comm] using hu
  rw [MatchResult.outcome, if_pos hother, hp]
  rfl

theorem MatchResult.WellFormed.outcomes (h : result.WellFormed) :
    result.outcome result.playerAID = some .win ∧ result.outcome result.playerBID = some .loss ∨
    result.outcome result.playerAID = some .loss ∧ result.outcome result.playerBID = some .win ∨
    result.outcome result.playerAID = some .draw ∧ result.outcome result.playerBID = some .draw := by
  have hne := h.players
  have ha := h.playerA
  have hb := h.playerB
  obtain hwinner | hwinner | hwinner := h.winner
  · simp [MatchResult.outcome, hwinner]
  · simp [MatchResult.outcome, hwinner, hne, ha]
  · simp [MatchResult.outcome, hwinner, hne.symm, hb]

section Conserved

variable {users : Finset String}
  (h : ∀ result ∈ results, result.WellFormed ∧ result.playerAID ∈ users ∧ result.playerBID ∈ users)

include h

theorem sum_tally (p : Option Outcome → Bool) (hp : p none = false) :
    ∑ u ∈ users, results.countP (fun result => p (result.outcome u)) =
      (results.map fun result => (p (result.outcome result.playerAID)).toNat +
        (p (result.outcome result.playerBID)).toNat).sum := by
  rw [sum_countP]
  refine congrArg List.sum (List.map_congr_left ?_)
  intro result hmem
  obtain ⟨hform, ha, hb⟩ := h result hmem
  exact sum_outcome hform.players ha hb p hp

theorem sum_wins : ∑ u ∈ users, (tally u results).wins = ∑ u ∈ users, (tally u results).losses := by
  refine (sum_tally h (fun o => o = some .win) rfl).trans
    (Eq.trans ?_ (sum_tally h (fun o => o = some .loss) rfl).symm)
  refine congrArg List.sum (List.map_congr_left ?_)
  intro result hmem
  obtain ⟨ha, hb⟩ | ⟨ha, hb⟩ | ⟨ha, hb⟩ := (h result hmem).1.outcomes <;> simp [ha, hb]

theorem even_sum_draws : Even (∑ u ∈ users, (tally u results).draws) := by
  have hsum : ∑ u ∈ users, (tally u results).draws = _ :=
    sum_tally h (fun o => o = some .draw) rfl
  rw [hsum]
  refine even_iff_two_dvd.2 (List.dvd_sum ?_)
  intro n hn
  obtain ⟨result, hmem, rfl⟩ := List.mem_map.1 hn
  obtain ⟨ha, hb⟩ | ⟨ha, hb⟩ | ⟨ha, hb⟩ := (h result hmem).1.outcomes <;> simp [ha, hb]

theorem sum_played : ∑ u ∈ users, (tally u results).played = 2 * results.length := by
  have hsum : ∑ u ∈ users, (tally u results).played = _ := sum_tally h Option.isSome rfl
  have htwo : results.map (fun result => (result.outcome result.playerAID).isSome.toNat +
      (result.outcome result.playerBID).isSome.toNat) = results.map fun _ => 2 := by
    refine List.map_congr_left ?_
    intro result hmem
    obtain ⟨ha, hb⟩ | ⟨ha, hb⟩ | ⟨ha, hb⟩ := (h result hmem).1.outcomes <;> simp [ha, hb]
  rw [hsum, htwo, List.map_const', List.sum_replicate_nat, Nat.mul_comm]

end Conserved

/-! ### Calls -/

theorem retryLoop_eq {σ ε : Type} {record : σ → MatchResult → σ × Except ε Bool} (s : σ)
    (result : TerminalResult) (attempts : List Attempt) :
    ∃ times : List Nat, times.length ≤ attempts.length ∧
      retryLoop record s result attempts =
        (recordAll record s (times.map fun now => (now, payload result))).1 := by
  induction attempts generalizing s with
  | nil => exact ⟨[], Nat.le_refl _, rfl⟩
  | cons attempt attempts ih =>
      obtain ⟨times, hlength, heq⟩ := ih (report record s result attempt).1
      rw [retryLoop]
      cases harrives : attempt.arrives with
      | none =>
          have hreport : report record s result attempt = (s, false) := by
            rw [report, harrives]
          rw [hreport] at heq ⊢
          split
          · exact ⟨[], Nat.zero_le _, rfl⟩
          · exact ⟨times, Nat.le_succ_of_le hlength, heq⟩
      | some now =>
          have hreport : (report record s result attempt).1 =
              (recordMatchResult record s now (payload result)).1 := by
            rw [report, harrives]
          rw [hreport] at heq ⊢
          split
          · refine ⟨[now], by simp, ?_⟩
            rw [List.map_cons, recordAll_cons, List.map_nil, recordAll]
          · refine ⟨now :: times, Nat.succ_le_succ hlength, ?_⟩
            rw [List.map_cons, recordAll_cons]
            exact heq

theorem MemoryStore.after_append (calls more : List Call) :
    after (calls ++ more) = (recordAll (@MemoryStore.recordMatchResult Empty) (after calls) more).1 :=
  recordAll_append

/-- After any sequence of calls: the results that count are the first valid ones of their matches; the
next call is refused and changes nothing, or repeats a match and changes nothing, or is the first of
its match and is inserted; a `RetryReport` amounts to at most three calls with its payload; the loop of
`ProfileByUserID` yields, for every user and in every order of its range, the outcomes of the results
that count; what a user played adds up; and over any users that include all players the wins are the
losses, the draws are even and the matches played are twice the matches recorded. -/
theorem match_counts_once (calls : List Call) :
    (∀ result, result ∈ recorded calls ↔ ∃ before after,
      delivered calls = before ++ result :: after ∧
        result.matchID ∉ before.map MatchResult.matchID) ∧
    (∀ call : Call,
      (call.validated = none → recordMatchResult (@MemoryStore.recordMatchResult Empty)
        (MemoryStore.after calls) call.1 call.2 =
          (MemoryStore.after calls, .error .invalidResult)) ∧
      ∀ result, call.validated = some result →
        (result.matchID ∈ (delivered calls).map MatchResult.matchID →
          recordMatchResult (@MemoryStore.recordMatchResult Empty) (MemoryStore.after calls) call.1
            call.2 = (MemoryStore.after calls, .ok false)) ∧
        (result.matchID ∉ (delivered calls).map MatchResult.matchID →
          (recordMatchResult (@MemoryStore.recordMatchResult Empty) (MemoryStore.after calls) call.1
            call.2).2 = .ok true)) ∧
    (∀ result first second third, ∃ times : List Nat, times.length ≤ 3 ∧
      retryReport (@MemoryStore.recordMatchResult Empty) (MemoryStore.after calls) result first second
        third = MemoryStore.after (calls ++ times.map fun now => (now, payload result))) ∧
    ∀ order, order.Perm (MemoryStore.after calls).values →
      (∀ (η : Type) (users : AuthServer.MemoryStore η) userID user,
        users.userByID userID = .ok user → profileByUserID users order userID =
          .ok ⟨user.id, user.login, user.createdAt, tally userID (recorded calls)⟩) ∧
      (∀ userID, countResults userID order = tally userID (recorded calls) ∧
        (countResults userID order).played = (countResults userID order).wins +
          (countResults userID order).losses + (countResults userID order).draws) ∧
      ∀ users : Finset String,
        (∀ result ∈ recorded calls, result.playerAID ∈ users ∧ result.playerBID ∈ users) →
        ∑ u ∈ users, (countResults u order).wins = ∑ u ∈ users, (countResults u order).losses ∧
        Even (∑ u ∈ users, (countResults u order).draws) ∧
        ∑ u ∈ users, (countResults u order).played = 2 * (recorded calls).length := by
  have hholds := MemoryStore.holds_after calls
  refine ⟨fun _ => mem_firsts_iff, fun call => ⟨recordMatchResult_of_none, ?_⟩, ?_, ?_⟩
  · intro result hcall
    have hkept : result.matchID ∈ (recorded calls).map MatchResult.matchID ↔
        result.matchID ∈ (delivered calls).map MatchResult.matchID := mem_map_firsts
    constructor
    · intro hmem
      exact recordMatchResult_of_some hcall (hholds.record_of_mem (hkept.2 hmem))
    · intro hnot
      obtain ⟨t, hrecord, -⟩ := hholds.record_of_notMem (hnot.imp hkept.1)
      exact congrArg Prod.snd (recordMatchResult_of_some hcall hrecord)
  · intro result first second third
    obtain ⟨times, hlength, heq⟩ := retryLoop_eq (MemoryStore.after calls) result [first, second, third]
    exact ⟨times, hlength, heq.trans (MemoryStore.after_append _ _).symm⟩
  · intro order horder
    have htally : ∀ userID, countResults userID order = tally userID (recorded calls) := by
      intro userID
      exact countResults_eq_tally (horder.trans hholds.values_perm)
    refine ⟨?_, ?_, ?_⟩
    · intro η users userID user huser
      rw [profileByUserID, huser, ← htally]
    · intro userID
      refine ⟨htally userID, ?_⟩
      rw [htally]
      exact tally_played
    · intro users husers
      have hall : ∀ result ∈ recorded calls, result.WellFormed ∧ result.playerAID ∈ users ∧
          result.playerBID ∈ users := by
        intro result hmem
        exact ⟨wellFormed_of_mem_recorded hmem, husers result hmem⟩
      simp only [htally]
      exact ⟨sum_wins hall, even_sum_draws hall, sum_played hall⟩

end PvpDuel.Profiles
