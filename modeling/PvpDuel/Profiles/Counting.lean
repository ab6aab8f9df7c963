import Mathlib.Algebra.BigOperators.Group.Finset.Basic
import PvpDuel.Lib.FirstWins
import PvpDuel.Profiles.Service

/-!
# Each match counts once

What a store of match results is for: it keeps the first valid result of every match. A store that
implements this answers every sequence of calls alike, whatever it is made of; the memory store does.
The statistics are then a count over the results kept, and what is conserved over all players is
conserved by every single result.
-/

namespace PvpDuel.Profiles

open FirstWins

/-! ### The results that count -/

/-- What a call hands to the store, if it is valid. -/
def Call.validated (call : Call) : Option MatchResult :=
  if call.2.trimmed.Refused then none else some (call.2.trimmed.stamped call.1)

/-- The valid results of a sequence of calls. -/
def delivered (calls : List Call) : List MatchResult := calls.filterMap Call.validated

/-- The first valid result of every match. -/
def recorded (calls : List Call) : List MatchResult := firsts MatchResult.matchID (delivered calls)

theorem delivered_append (calls more : List Call) :
    delivered (calls ++ more) = delivered calls ++ delivered more :=
  List.filterMap_append

theorem delivered_of_none {call : Call} (h : call.validated = none) : delivered [call] = [] :=
  List.filterMap_cons_none h

theorem delivered_of_some {call : Call} {result : MatchResult} (h : call.validated = some result) :
    delivered [call] = [result] :=
  List.filterMap_cons_some h

/-- What the service has checked of a result that it hands to its store. -/
structure MatchResult.WellFormed (result : MatchResult) : Prop where
  matchID : result.matchID ≠ ""
  playerA : result.playerAID ≠ ""
  playerB : result.playerBID ≠ ""
  players : result.playerAID ≠ result.playerBID
  reason : validReason result.reason = true
  winner : result.winnerID = "" ∨ result.winnerID = result.playerAID ∨
    result.winnerID = result.playerBID

theorem MatchResult.wellFormed_of_not_refused {result : MatchResult} (h : ¬ result.Refused) :
    result.WellFormed := by
  unfold MatchResult.Refused at h
  push Not at h
  obtain ⟨hid, ha, hb, hne, hreason, hwinner⟩ := h
  refine ⟨hid, ha, hb, hne, by simpa using hreason, ?_⟩
  by_cases hempty : result.winnerID = ""
  · exact .inl hempty
  · by_cases hwin : result.winnerID = result.playerAID
    · exact .inr (.inl hwin)
    · exact .inr (.inr (hwinner hempty hwin))

theorem MatchResult.WellFormed.stamped {result : MatchResult} (h : result.WellFormed) (now : Nat) :
    (result.stamped now).WellFormed := by
  unfold MatchResult.stamped
  split
  · exact ⟨h.matchID, h.playerA, h.playerB, h.players, h.reason, h.winner⟩
  · exact h

theorem wellFormed_of_validated {call : Call} {result : MatchResult}
    (h : call.validated = some result) : result.WellFormed := by
  unfold Call.validated at h
  split_ifs at h with hrefused
  cases h
  exact (MatchResult.wellFormed_of_not_refused hrefused).stamped call.1

theorem wellFormed_of_mem_recorded {calls : List Call} {result : MatchResult}
    (h : result ∈ recorded calls) : result.WellFormed := by
  obtain ⟨before, after, heq, -⟩ := mem_firsts_iff.1 h
  have hmem : result ∈ delivered calls := by
    rw [heq]
    simp
  obtain ⟨call, -, hcall⟩ := List.mem_filterMap.1 hmem
  exact wellFormed_of_validated hcall

/-! ### Stores that keep the first result -/

section Stores

variable {σ ε : Type} {record : σ → MatchResult → σ × Except ε Bool}
  {Holds : σ → List MatchResult → Prop} {Admits : MatchResult → Prop} {s : σ}
  {calls more : List Call} {call : Call} {result : MatchResult}

/-- The store keeps the first result of every match it is given, and says whether it is the first. -/
def KeepsFirst (record : σ → MatchResult → σ × Except ε Bool) (Holds : σ → List MatchResult → Prop)
    (Admits : MatchResult → Prop) : Prop :=
  ∀ s kept result, Holds s kept → Admits result →
    ∃ t, record s result = (t, .ok (decide (result.matchID ∉ kept.map MatchResult.matchID))) ∧
      Holds t (insertNew MatchResult.matchID kept result)

/-- What the service answers when the store has these results. -/
def answer (kept : List MatchResult) (call : Call) : Except (ServiceError ε) Bool :=
  match call.validated with
  | none => .error .invalidResult
  | some result => .ok (decide (result.matchID ∉ kept.map MatchResult.matchID))

/-- The answers to a sequence of calls, from a store with the results of earlier ones. -/
def answers (earlier : List Call) : List Call → List (Except (ServiceError ε) Bool)
  | [] => []
  | call :: calls => answer (recorded earlier) call :: answers (earlier ++ [call]) calls

theorem recordMatchResult_of_none (h : call.validated = none) :
    recordMatchResult record s call.1 call.2 = (s, .error .invalidResult) := by
  unfold Call.validated at h
  split_ifs at h with hrefused
  exact if_pos hrefused

theorem recordMatchResult_of_some (h : call.validated = some result) {t : σ} {inserted : Bool}
    (hrecord : record s result = (t, .ok inserted)) :
    recordMatchResult record s call.1 call.2 = (t, .ok inserted) := by
  unfold Call.validated at h
  split_ifs at h with hrefused
  cases h
  show (if call.2.trimmed.Refused then _ else _) = _
  rw [if_neg hrefused, hrecord]

theorem KeepsFirst.one (h : KeepsFirst record Holds Admits) (hs : Holds s (recorded calls))
    (hadmits : ∀ result, call.validated = some result → Admits result) :
    ∃ t, recordMatchResult record s call.1 call.2 = (t, answer (recorded calls) call) ∧
      Holds t (recorded (calls ++ [call])) ∧ (call.validated = none → t = s) := by
  cases hcall : call.validated with
  | none =>
      refine ⟨s, ?_, ?_, fun _ => rfl⟩
      · rw [recordMatchResult_of_none hcall, answer, hcall]
      · rw [recorded, delivered_append, delivered_of_none hcall, List.append_nil]
        exact hs
  | some result =>
      obtain ⟨t, hrecord, ht⟩ := h s _ result hs (hadmits result hcall)
      refine ⟨t, ?_, ?_, by simp⟩
      · rw [recordMatchResult_of_some hcall hrecord, answer, hcall]
      · rw [recorded, delivered_append, delivered_of_some hcall, firsts_concat]
        exact ht

/-- Every sequence of calls. -/
theorem KeepsFirst.all (h : KeepsFirst record Holds Admits) (hs : Holds s (recorded calls))
    (hadmits : ∀ call ∈ more, ∀ result, call.validated = some result → Admits result) :
    ∃ t, recordAll record s more = (t, answers calls more) ∧
      Holds t (recorded (calls ++ more)) := by
  induction more generalizing s calls with
  | nil =>
      refine ⟨s, rfl, ?_⟩
      rwa [List.append_nil]
  | cons call more ih =>
      rw [List.forall_mem_cons] at hadmits
      obtain ⟨t, hcall, ht, -⟩ := h.one hs hadmits.1
      obtain ⟨u, hmore, hu⟩ := ih ht hadmits.2
      refine ⟨u, ?_, by simpa using hu⟩
      rw [recordAll, hcall]
      dsimp only
      rw [hmore]
      rfl

theorem recordAll_cons : (recordAll record s (call :: calls)).1 =
    (recordAll record (recordMatchResult record s call.1 call.2).1 calls).1 := by
  rw [recordAll]

theorem recordAll_append : (recordAll record s (calls ++ more)).1 =
    (recordAll record (recordAll record s calls).1 more).1 := by
  induction calls generalizing s with
  | nil => rfl
  | cons call calls ih =>
      rw [List.cons_append, recordAll_cons, recordAll_cons]
      exact ih

end Stores

/-! ### The memory store -/

/-- The entries of the map are the results kept, the latest first. -/
def MemoryStore.Holds (s : MemoryStore) (kept : List MatchResult) : Prop :=
  s.results.entries = kept.reverse.map fun result => ⟨result.matchID, result⟩

theorem holds_newMemoryStore : newMemoryStore.Holds (recorded []) := rfl

theorem MemoryStore.Holds.mem_keys {s : MemoryStore} {kept : List MatchResult} (h : s.Holds kept)
    {id : String} : id ∈ s.results ↔ id ∈ kept.map MatchResult.matchID := by
  have hkeys : s.results.keys = kept.reverse.map MatchResult.matchID := by
    show s.results.entries.map Sigma.fst = _
    rw [h, List.map_map]
    rfl
  rw [AList.mem_keys, hkeys, List.map_reverse, List.mem_reverse]

section Record

variable {ε : Type} {s : MemoryStore} {kept : List MatchResult} {result : MatchResult}

theorem MemoryStore.Holds.record_of_mem (hs : s.Holds kept)
    (hmem : result.matchID ∈ kept.map MatchResult.matchID) :
    s.recordMatchResult result = (s, (.ok false : Except ε Bool)) := by
  obtain ⟨old, hold⟩ := Option.isSome_iff_exists.1 (AList.lookup_isSome.2 (hs.mem_keys.2 hmem))
  rw [MemoryStore.recordMatchResult, hold]

theorem MemoryStore.Holds.record_of_notMem (hs : s.Holds kept)
    (hmem : result.matchID ∉ kept.map MatchResult.matchID) :
    ∃ t, s.recordMatchResult result = (t, (.ok true : Except ε Bool)) ∧ t.Holds (kept ++ [result]) := by
  have hnot : result.matchID ∉ s.results := fun hin => hmem (hs.mem_keys.1 hin)
  refine ⟨⟨s.results.insert result.matchID result⟩, ?_, ?_⟩
  · rw [MemoryStore.recordMatchResult, AList.lookup_eq_none.2 hnot]
  · show (s.results.insert result.matchID result).entries = _
    rw [AList.entries_insert_of_notMem hnot, hs]
    simp

end Record

theorem MemoryStore.keepsFirst (ε : Type) :
    KeepsFirst (@MemoryStore.recordMatchResult ε) MemoryStore.Holds fun _ => True := by
  intro s kept result hs _
  by_cases hmem : result.matchID ∈ kept.map MatchResult.matchID
  · refine ⟨s, ?_, ?_⟩
    · rw [hs.record_of_mem hmem, decide_eq_false (not_not_intro hmem)]
    · rw [insertNew_of_mem hmem]
      exact hs
  · obtain ⟨t, hrecord, ht⟩ := hs.record_of_notMem hmem
    refine ⟨t, ?_, ?_⟩
    · rw [hrecord, decide_eq_true hmem]
    · rw [insertNew_of_notMem hmem]
      exact ht

/-- The store after a sequence of calls of the service. -/
def MemoryStore.after (calls : List Call) : MemoryStore :=
  (recordAll (@MemoryStore.recordMatchResult Empty) newMemoryStore calls).1

theorem MemoryStore.holds_after (calls : List Call) : (after calls).Holds (recorded calls) := by
  obtain ⟨t, heq, ht⟩ := (MemoryStore.keepsFirst Empty).all holds_newMemoryStore
    (fun call (_ : call ∈ calls) _ _ => trivial)
  rw [after, heq]
  exact ht

theorem MemoryStore.Holds.values_perm {s : MemoryStore} {kept : List MatchResult} (h : s.Holds kept) :
    s.values.Perm kept := by
  rw [MemoryStore.values, h, List.map_map]
  show (kept.reverse.map id).Perm kept
  rw [List.map_id]
  exact kept.reverse_perm

end PvpDuel.Profiles
