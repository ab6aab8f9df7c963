import Mathlib.Algebra.BigOperators.Group.List.Basic
import Mathlib.Data.List.Induction

/-!
# Watching a run by samples

A watcher is shown some states of a run, in order, and reports on each two that follow one another.
What a report adds up telescopes to the first and the last sample; and when every report has a cause
between its two samples, different reports have different causes.
-/

namespace PvpDuel.Sampling

variable {α β γ : Type*}

/-- The reports on each two samples that follow one another. -/
def reports (report : α → α → List β) : List α → List β
  | [] => []
  | [_] => []
  | before :: after :: rest => report before after ++ reports report (after :: rest)

variable {report : α → α → List β} {samples : List α}

@[simp] theorem reports_nil : reports report [] = [] := rfl

@[simp] theorem reports_singleton (sample : α) : reports report [sample] = [] := rfl

@[simp] theorem reports_cons_cons (before after : α) (rest : List α) :
    reports report (before :: after :: rest) =
      report before after ++ reports report (after :: rest) := rfl

theorem reports_concat (samples : List α) (sample : α) : reports report (samples ++ [sample]) =
    reports report samples ++ samples.getLast?.elim [] fun last => report last sample := by
  induction samples with
  | nil => rfl
  | cons before rest ih =>
      cases rest with
      | nil => simp
      | cons after rest =>
          rw [List.getLast?_cons_cons, List.cons_append, List.cons_append, reports_cons_cons,
            ← List.cons_append, ih, reports_cons_cons, List.append_assoc]

theorem filter_reports (p : β → Bool) (samples : List α) : (reports report samples).filter p =
    reports (fun before after => (report before after).filter p) samples := by
  induction samples with
  | nil => rfl
  | cons before rest ih =>
      cases rest with
      | nil => rfl
      | cons after rest =>
          rw [reports_cons_cons, List.filter_append, ih, reports_cons_cons]

/-- When each report adds up to a difference, all of them add up to the difference of the first and
the last sample. -/
theorem sum_reports [AddCommGroup γ] {weight : β → γ} {value : α → γ} {R : α → α → Prop}
    (h : ∀ before after, R before after →
      ((report before after).map weight).sum = value before - value after)
    (hsamples : samples.Pairwise R) : ∀ first ∈ samples.head?, ∀ last ∈ samples.getLast?,
      ((reports report samples).map weight).sum = value first - value last := by
  induction samples with
  | nil => simp
  | cons before rest ih =>
      intro first hfirst last hlast
      obtain rfl : before = first := by simpa using hfirst
      obtain ⟨hbefore, hrest⟩ := List.pairwise_cons.1 hsamples
      cases rest with
      | nil =>
          obtain rfl : before = last := by simpa using hlast
          simp
      | cons after rest =>
          rw [List.getLast?_cons_cons] at hlast
          have hsum := ih hrest after rfl last hlast
          rw [reports_cons_cons, List.map_append, List.sum_append, hsum,
            h before after (hbefore after List.mem_cons_self), sub_add_sub_cancel]

/-- When two samples give at most one report, and it has a cause between them, the reports have as
many causes, all different and none before the first sample. -/
theorem exists_causes [Preorder α] {cause : α → Prop} {R : α → α → Prop}
    (hle : ∀ before after, R before after → before ≤ after)
    (h : ∀ before after, R before after → report before after = [] ∨
      (report before after).length = 1 ∧ ∃ t, before ≤ t ∧ t < after ∧ cause t)
    (hsamples : samples.Pairwise R) : ∃ causes : List α, causes.Pairwise (· < ·) ∧
      causes.length = (reports report samples).length ∧
      ∀ t ∈ causes, cause t ∧ ∃ first ∈ samples.head?, first ≤ t := by
  induction samples with
  | nil => exact ⟨[], by simp⟩
  | cons before rest ih =>
      obtain ⟨hbefore, hrest⟩ := List.pairwise_cons.1 hsamples
      cases rest with
      | nil => exact ⟨[], by simp⟩
      | cons after rest =>
          have hnext := hbefore after List.mem_cons_self
          obtain ⟨causes, hincreasing, hlength, hcauses⟩ := ih hrest
          have hlate : ∀ t ∈ causes, after ≤ t := by
            intro t ht
            obtain ⟨-, first, hfirst, hafter⟩ := hcauses t ht
            obtain rfl : after = first := by simpa using hfirst
            exact hafter
          rcases h before after hnext with hnone | ⟨hone, t, hbt, hta, ht⟩
          · refine ⟨causes, hincreasing, by simp [hnone, hlength], fun t ht => ?_⟩
            exact ⟨(hcauses t ht).1, before, rfl, (hle before after hnext).trans (hlate t ht)⟩
          · refine ⟨t :: causes, ?_, ?_, ?_⟩
            · exact List.pairwise_cons.2 ⟨fun s hs => hta.trans_le (hlate s hs), hincreasing⟩
            · rw [List.length_cons, hlength, reports_cons_cons, List.length_append, hone,
                Nat.add_comm]
            · intro s hs
              rcases List.mem_cons.1 hs with rfl | hs
              · exact ⟨ht, before, rfl, hbt⟩
              · exact ⟨(hcauses s hs).1, before, rfl,
                  (hle before after hnext).trans (hlate s hs)⟩

end PvpDuel.Sampling
