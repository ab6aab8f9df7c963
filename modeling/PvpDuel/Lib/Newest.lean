import Mathlib.Data.List.Basic

/-!
# A place for the newest

Values arrive and wait, some perhaps replaced by later ones, until a poll hands out the newest that
waits and drops the others. Then the values handed out are a part of those that arrived, in their order,
and the newest of all is never among the dropped ones.
-/

namespace PvpDuel

variable {α : Type*} {handed waiting arrived : List α}

/-- What was handed out and what waits, against what has arrived. -/
structure Newest (handed waiting arrived : List α) : Prop where
  sublist : (handed ++ waiting).Sublist arrived
  newest : (handed ++ waiting).getLast? = arrived.getLast?

namespace Newest

theorem start : Newest ([] : List α) [] [] := ⟨List.Sublist.refl [], rfl⟩

theorem put (h : Newest handed waiting arrived) (later : List α) :
    Newest handed (waiting ++ later) (arrived ++ later) := by
  constructor
  · rw [← List.append_assoc]
    exact h.sublist.append (List.Sublist.refl later)
  · have hsplit : ∀ earlier : List α,
        (earlier ++ later).getLast? = later.getLast?.or earlier.getLast? :=
      fun _ => List.getLast?_append
    rw [← List.append_assoc, hsplit, hsplit, h.newest]

theorem replace (h : Newest handed waiting arrived) (x : α) :
    Newest handed [x] (arrived ++ [x]) := by
  constructor
  · exact ((List.sublist_append_left handed waiting).trans h.sublist).append (List.Sublist.refl [x])
  · rw [List.getLast?_concat, List.getLast?_concat]

theorem poll (h : Newest handed waiting arrived) :
    Newest (handed ++ waiting.getLast?.toList) [] arrived := by
  cases hlast : waiting.getLast? with
  | none =>
      obtain rfl := List.getLast?_eq_none_iff.1 hlast
      rw [Option.toList_none, List.append_nil]
      exact h
  | some x =>
      obtain ⟨earlier, rfl⟩ := List.getLast?_eq_some_iff.1 hlast
      rw [Option.toList_some]
      constructor
      · rw [List.append_nil]
        refine List.Sublist.trans ?_ h.sublist
        exact (List.Sublist.refl handed).append (List.sublist_append_right earlier [x])
      · rw [List.append_nil, List.getLast?_concat, ← h.newest, ← List.append_assoc,
          List.getLast?_concat]

theorem take {slot : Option α} (h : Newest handed slot.toList arrived) :
    Newest (handed ++ slot.toList) [] arrived := by
  have hslot : slot.toList.getLast? = slot := by
    cases slot <;> rfl
  have hpoll := h.poll
  rwa [hslot] at hpoll

end Newest

end PvpDuel
