import Mathlib.Data.List.Induction
import Mathlib.Data.List.Nodup

/-!
# The first of every key

A log in which only the first item with a key counts. The items that count are kept in the order in
which they came; a later item with the key of an earlier one changes nothing.
-/

namespace PvpDuel.FirstWins

variable {α κ : Type} [DecidableEq κ] (key : α → κ)

def insertNew (kept : List α) (item : α) : List α :=
  if key item ∈ kept.map key then kept else kept ++ [item]

def firsts (items : List α) : List α := items.foldl (insertNew key) []

variable {key} {items before after kept : List α} {item : α}

@[simp] theorem firsts_nil : firsts key [] = [] := rfl

theorem firsts_concat : firsts key (items ++ [item]) = insertNew key (firsts key items) item := by
  simp [firsts]

theorem insertNew_of_mem (h : key item ∈ kept.map key) : insertNew key kept item = kept := if_pos h

theorem insertNew_of_notMem (h : key item ∉ kept.map key) :
    insertNew key kept item = kept ++ [item] := if_neg h

theorem mem_map_firsts {k : κ} : k ∈ (firsts key items).map key ↔ k ∈ items.map key := by
  induction items using List.reverseRecOn with
  | nil => simp
  | append_singleton items item ih =>
      rw [firsts_concat, List.map_append, List.mem_append, ← ih]
      by_cases hmem : key item ∈ (firsts key items).map key
      · rw [insertNew_of_mem hmem]
        constructor
        · exact .inl
        · rintro (hk | hk)
          · exact hk
          · simp only [List.map_cons, List.map_nil, List.mem_singleton] at hk
            exact hk ▸ hmem
      · rw [insertNew_of_notMem hmem, List.map_append, List.mem_append]

theorem mem_firsts_iff : item ∈ firsts key items ↔
    ∃ before after, items = before ++ item :: after ∧ key item ∉ before.map key := by
  induction items using List.reverseRecOn with
  | nil => simp
  | append_singleton items last ih =>
      have hsplit : (∃ before after, items ++ [last] = before ++ item :: after ∧
          key item ∉ before.map key) ↔
          (∃ before after, items = before ++ item :: after ∧ key item ∉ before.map key) ∨
            item = last ∧ key item ∉ items.map key := by
        constructor
        · rintro ⟨before, after, heq, hnot⟩
          induction after using List.reverseRecOn with
          | nil =>
              obtain ⟨rfl, hlast⟩ := List.append_inj' heq rfl
              exact .inr ⟨(List.cons.inj hlast).1.symm, hnot⟩
          | append_singleton after other _ =>
              rw [← List.cons_append, ← List.append_assoc] at heq
              obtain ⟨hitems, -⟩ := List.append_inj' heq rfl
              exact .inl ⟨before, after, hitems, hnot⟩
        · rintro (⟨before, after, rfl, hnot⟩ | ⟨rfl, hnot⟩)
          · exact ⟨before, after ++ [last], by simp, hnot⟩
          · exact ⟨items, [], rfl, hnot⟩
      rw [hsplit, ← ih, firsts_concat]
      by_cases hmem : key last ∈ (firsts key items).map key
      · rw [insertNew_of_mem hmem]
        constructor
        · exact .inl
        · rintro (hitem | ⟨rfl, hnot⟩)
          · exact hitem
          · exact absurd (mem_map_firsts.1 hmem) hnot
      · rw [insertNew_of_notMem hmem, List.mem_append, List.mem_singleton]
        constructor
        · rintro (hitem | rfl)
          · exact .inl hitem
          · exact .inr ⟨rfl, fun hmem' => hmem (mem_map_firsts.2 hmem')⟩
        · exact Or.imp_right And.left

end PvpDuel.FirstWins
