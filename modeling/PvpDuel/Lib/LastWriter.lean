import Mathlib.Data.List.Basic

/-!
# Registers in which the newest write wins

A write replaces the content of a register when its key is above the key of the content. When writes of
one key are equal, the content depends on the set of the writes only: neither their order nor how often
each of them comes matters.
-/

namespace PvpDuel.LastWriter

variable {α κ : Type} [LT κ] [DecidableLT κ] (key : α → κ)

def write (current written : α) : α := if key current < key written then written else current

variable [LE κ] [Std.IsLinearOrder κ] [Std.LawfulOrderLT κ]

theorem le_write (current written : α) :
    key current ≤ key (write key current written) ∧ key written ≤ key (write key current written) := by
  unfold write
  split_ifs with hnewer
  · exact ⟨Std.le_of_lt hnewer, Std.le_refl _⟩
  · exact ⟨Std.le_refl _, Std.not_lt.1 hnewer⟩

theorem le_foldl_write (current : α) (writes : List α) :
    key current ≤ key (writes.foldl (write key) current) ∧
      ∀ written ∈ writes, key written ≤ key (writes.foldl (write key) current) := by
  induction writes generalizing current with
  | nil => exact ⟨Std.le_refl _, by simp⟩
  | cons first writes ih =>
      obtain ⟨hcurrent, hfirst⟩ := le_write key current first
      obtain ⟨hle, hwrites⟩ := ih (write key current first)
      refine ⟨Std.le_trans hcurrent hle, ?_⟩
      intro written hwritten
      rcases List.mem_cons.1 hwritten with rfl | hwritten
      · exact Std.le_trans hfirst hle
      · exact hwrites written hwritten

/-- The content after the writes is the old one or one of the writes, and then it is newer. -/
theorem foldl_write_cases (current : α) (writes : List α) :
    writes.foldl (write key) current = current ∨
      writes.foldl (write key) current ∈ writes ∧
        key current < key (writes.foldl (write key) current) := by
  induction writes generalizing current with
  | nil => exact .inl rfl
  | cons first writes ih =>
      rw [List.foldl_cons]
      by_cases hnewer : key current < key first
      · rw [write, if_pos hnewer]
        rcases ih first with heq | ⟨hmem, hlt⟩
        · rw [heq]
          exact .inr ⟨List.mem_cons_self, hnewer⟩
        · exact .inr ⟨List.mem_cons_of_mem _ hmem, Std.lt_trans hnewer hlt⟩
      · rw [write, if_neg hnewer]
        rcases ih current with heq | ⟨hmem, hlt⟩
        · exact .inl heq
        · exact .inr ⟨List.mem_cons_of_mem _ hmem, hlt⟩

/-- The same writes in any order, each any number of times, leave the same content. -/
theorem foldl_write_congr {writes writes' : List α}
    (hmem : ∀ written, written ∈ writes ↔ written ∈ writes')
    (hvalue : ∀ first ∈ writes, ∀ second ∈ writes, key first = key second → first = second)
    (current : α) : writes.foldl (write key) current = writes'.foldl (write key) current := by
  obtain ⟨hle, hwrites⟩ := le_foldl_write key current writes
  obtain ⟨hle', hwrites'⟩ := le_foldl_write key current writes'
  rcases foldl_write_cases key current writes with heq | ⟨hlast, hlt⟩ <;>
    rcases foldl_write_cases key current writes' with heq' | ⟨hlast', hlt'⟩
  · rw [heq, heq']
  · have hold := hwrites _ ((hmem _).2 hlast')
    rw [heq] at hold
    exact absurd hlt' (Std.not_lt.2 hold)
  · have hold := hwrites' _ ((hmem _).1 hlast)
    rw [heq'] at hold
    exact absurd hlt (Std.not_lt.2 hold)
  · exact hvalue _ hlast _ ((hmem _).2 hlast')
      (Std.le_antisymm (hwrites' _ ((hmem _).1 hlast)) (hwrites _ ((hmem _).2 hlast')))

end PvpDuel.LastWriter
