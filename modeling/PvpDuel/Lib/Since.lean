import Mathlib.Tactic.Common
import Mathlib.Data.List.Induction

/-!
# What has happened since

In a list of steps, some step with a property and, after it, none that resets. The property may depend on
the steps before.
-/

namespace PvpDuel

variable {α : Type} {reset : α → Prop} {p q : List α → α → Prop} {steps : List α}

def Since (reset : α → Prop) (p : List α → α → Prop) (steps : List α) : Prop :=
  ∃ earlier step later, steps = earlier ++ step :: later ∧ p earlier step ∧ ∀ x ∈ later, ¬ reset x

theorem not_since_nil : ¬ Since reset p [] := by
  rintro ⟨earlier, step, later, h, -⟩
  simp at h

theorem Since.imp (h : Since reset p steps) (hpq : ∀ earlier step, p earlier step → q earlier step) :
    Since reset q steps := by
  obtain ⟨earlier, step, later, heq, hp, hlater⟩ := h
  exact ⟨earlier, step, later, heq, hpq earlier step hp, hlater⟩

theorem since_concat {step : α} :
    Since reset p (steps ++ [step]) ↔ p steps step ∨ ¬ reset step ∧ Since reset p steps := by
  constructor
  · rintro ⟨earlier, other, later, heq, hp, hlater⟩
    obtain rfl | ⟨later, last, rfl⟩ := later.eq_nil_or_concat
    · obtain ⟨rfl, hstep⟩ := List.append_inj' heq rfl
      exact .inl (List.singleton_inj.1 hstep ▸ hp)
    · have hlast : steps ++ [step] = (earlier ++ other :: later) ++ [last] := by simpa using heq
      obtain ⟨hsteps, hstep⟩ := List.append_inj' hlast rfl
      obtain rfl := List.singleton_inj.1 hstep
      refine .inr ⟨hlater step (by simp), earlier, other, later, hsteps, hp, fun x hx => ?_⟩
      exact hlater x (by simp [hx])
  · rintro (hp | ⟨hreset, earlier, other, later, rfl, hp, hlater⟩)
    · exact ⟨steps, step, [], rfl, hp, by simp⟩
    · refine ⟨earlier, other, later ++ [step], by simp, hp, fun x hx => ?_⟩
      rcases List.mem_append.1 hx with hx | hx
      · exact hlater x hx
      · exact List.mem_singleton.1 hx ▸ hreset

end PvpDuel
