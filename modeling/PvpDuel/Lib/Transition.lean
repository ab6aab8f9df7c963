import Mathlib.Tactic.Common

/-!
# Executable transition systems

A system is a partial function from a state and an action to the next state: `none` says that the
action is not enabled. Interleavings are lists of actions. The rules below turn what one step keeps
into what every run keeps, also when the steps are only promised to meet a condition.
-/

namespace PvpDuel.Transition

variable {σ α : Type} (next : σ → α → Option σ)

def run : σ → List α → Option σ
  | s, [] => some s
  | s, action :: actions => (next s action).bind fun t => run t actions

/-- Every step of a run meets a condition on the action and the state before it. -/
def Meets (condition : σ → α → Prop) : σ → List α → Prop
  | _, [] => True
  | s, action :: actions => condition s action ∧
      match next s action with
      | some t => Meets condition t actions
      | none => True

instance decidableMeets (condition : σ → α → Prop) [∀ s action, Decidable (condition s action)] :
    ∀ s actions, Decidable (Meets next condition s actions)
  | _, [] => isTrue trivial
  | s, action :: actions =>
      match h : next s action with
      | some t =>
          have := decidableMeets condition t actions
          decidable_of_iff (condition s action ∧ Meets next condition t actions) (by rw [Meets, h])
      | none => decidable_of_iff (condition s action ∧ True) (by rw [Meets, h])

variable {next}

theorem run_cons_iff {s u : σ} {action : α} {actions : List α} :
    run next s (action :: actions) = some u ↔
      ∃ t, next s action = some t ∧ run next t actions = some u :=
  Option.bind_eq_some_iff

theorem run_append_iff {s u : σ} {earlier later : List α} :
    run next s (earlier ++ later) = some u ↔
      ∃ t, run next s earlier = some t ∧ run next t later = some u := by
  induction earlier generalizing s with
  | nil => simp [run]
  | cons action earlier ih =>
      simp only [List.cons_append, run_cons_iff, ih]
      constructor
      · rintro ⟨v, hv, t, ht, hu⟩
        exact ⟨t, ⟨v, hv, ht⟩, hu⟩
      · rintro ⟨t, ⟨v, hv, ht⟩, hu⟩
        exact ⟨v, hv, t, ht, hu⟩

theorem run_invariant {P : σ → Prop} (hstep : ∀ s action t, P s → next s action = some t → P t)
    {s u : σ} {actions : List α} (hrun : run next s actions = some u) (hs : P s) : P u := by
  induction actions generalizing s with
  | nil => exact Option.some.inj hrun ▸ hs
  | cons action actions ih =>
      obtain ⟨t, ht, hrest⟩ := run_cons_iff.1 hrun
      exact ih hrest (hstep s action t hs ht)

theorem meets_cons {condition : σ → α → Prop} {s t : σ} {action : α} {actions : List α}
    (h : Meets next condition s (action :: actions)) (ht : next s action = some t) :
    condition s action ∧ Meets next condition t actions := by
  rw [Meets, ht] at h
  exact h

theorem meets_append {condition : σ → α → Prop} {s t : σ} {earlier later : List α}
    (hrun : run next s earlier = some t) (h : Meets next condition s (earlier ++ later)) :
    Meets next condition s earlier ∧ Meets next condition t later := by
  induction earlier generalizing s with
  | nil =>
      cases hrun
      exact ⟨trivial, h⟩
  | cons action earlier ih =>
      obtain ⟨u, hu, hrest⟩ := run_cons_iff.1 hrun
      obtain ⟨hcondition, hmeets⟩ := meets_cons h hu
      obtain ⟨hearlier, hlater⟩ := ih hrest hmeets
      refine ⟨?_, hlater⟩
      rw [Meets, hu]
      exact ⟨hcondition, hearlier⟩

theorem meets_concat {condition : σ → α → Prop} {s t : σ} {actions : List α} {action : α}
    (hrun : run next s actions = some t) (h : Meets next condition s (actions ++ [action])) :
    Meets next condition s actions ∧ condition t action :=
  (meets_append hrun h).imp_right And.left

theorem meets_and_forall {condition : σ → α → Prop} {Q : α → Prop} {s : σ} {actions : List α}
    (h : Meets next condition s actions) (hforall : ∀ action ∈ actions, Q action) :
    Meets next (fun s action => condition s action ∧ Q action) s actions := by
  induction actions generalizing s with
  | nil => trivial
  | cons action actions ih =>
      rw [List.forall_mem_cons] at hforall
      refine ⟨⟨h.1, hforall.1⟩, ?_⟩
      cases hnext : next s action with
      | none => trivial
      | some t => exact ih (meets_cons h hnext).2 hforall.2

/-- What every step that meets the condition keeps holds at the end of every run that meets it. -/
theorem meets_invariant {condition : σ → α → Prop} {P : σ → Prop}
    (hstep : ∀ s action t, P s → condition s action → next s action = some t → P t) {s u : σ}
    {actions : List α} (hrun : run next s actions = some u) (hmeets : Meets next condition s actions)
    (hs : P s) : P u := by
  induction actions generalizing s with
  | nil => exact Option.some.inj hrun ▸ hs
  | cons action actions ih =>
      obtain ⟨t, ht, hrest⟩ := run_cons_iff.1 hrun
      obtain ⟨hcondition, hlater⟩ := meets_cons hmeets ht
      exact ih hrest hlater (hstep s action t hs hcondition ht)

/-- A simulation that may stutter: each step is matched by no step or by one that meets the condition. So
every run is matched by a run whose steps all meet it. -/
theorem run_simulates {τ β : Type} {next' : τ → β → Option τ} {C : τ → β → Prop}
    {R : σ → τ → Prop}
    (hstep : ∀ s t action s', R s t → next s action = some s' → R s' t ∨
      ∃ action' t', next' t action' = some t' ∧ C t action' ∧ R s' t')
    {s s' : σ} {t : τ} {actions : List α} (hrun : run next s actions = some s') (h : R s t) :
    ∃ actions' t', run next' t actions' = some t' ∧ Meets next' C t actions' ∧ R s' t' := by
  induction actions generalizing s t with
  | nil => exact ⟨[], t, rfl, trivial, Option.some.inj hrun ▸ h⟩
  | cons action actions ih =>
      obtain ⟨u, hnext, hrest⟩ := run_cons_iff.1 hrun
      obtain hstutter | ⟨action', t', hnext', hcondition, hrelated⟩ := hstep s t action u h hnext
      · exact ih hrest hstutter
      · obtain ⟨actions', t'', hrun', hmeets, hlast⟩ := ih hrest hrelated
        refine ⟨action' :: actions', t'', run_cons_iff.2 ⟨t', hnext', hrun'⟩, ⟨hcondition, ?_⟩, hlast⟩
        rw [hnext']
        exact hmeets

end PvpDuel.Transition
