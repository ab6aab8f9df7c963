import Mathlib.Data.List.Induction
import Mathlib.Data.List.Nodup

/-!
# Chronicles

A chronicle is the list of what has happened, the latest last. It is justified when every event in it
is justified by those before it; an event is only ever added at the end, so this is kept by justifying
one event at a time.
-/

namespace PvpDuel.Chronicle

variable {α κ : Type} {P Q : List α → α → Prop} {events before after : List α} {event : α}

def Justified (P : List α → α → Prop) (events : List α) : Prop :=
  ∀ before event after, events = before ++ event :: after → P before event

theorem justified_nil : Justified P [] := by
  intro before event after h
  simp at h

theorem Justified.concat (h : Justified P events) (hevent : P events event) :
    Justified P (events ++ [event]) := by
  intro before other after heq
  induction after using List.reverseRecOn with
  | nil =>
      obtain ⟨rfl, hlast⟩ := List.append_inj' heq rfl
      cases hlast
      exact hevent
  | append_singleton after last _ =>
      rw [← List.cons_append, ← List.append_assoc] at heq
      obtain ⟨hevents, -⟩ := List.append_inj' heq rfl
      exact h before other after hevents

theorem Justified.earlier (h : Justified P (before ++ event :: after)) {later : α}
    (hlater : later ∈ after) : ∃ past, event ∈ past ∧ P past later := by
  obtain ⟨between, rest, rfl⟩ := List.append_of_mem hlater
  refine ⟨before ++ event :: between, by simp, h _ later rest ?_⟩
  rw [List.append_assoc]
  rfl

/-- When no event repeats the key of an earlier one, the keys are distinct. -/
theorem Justified.nodup {key : α → Option κ}
    (h : Justified (fun before event => ∀ k, key event = some k → k ∉ before.filterMap key) events) :
    (events.filterMap key).Nodup := by
  induction events using List.reverseRecOn with
  | nil => exact List.nodup_nil
  | append_singleton events event ih =>
      have hearlier : (events.filterMap key).Nodup := by
        refine ih fun before other after heq => h before other (after ++ [event]) ?_
        rw [heq, List.append_assoc]
        rfl
      have hlast := h events event [] rfl
      rw [List.filterMap_append]
      cases hkey : key event with
      | none => simpa [hkey] using hearlier
      | some k =>
          refine List.nodup_append'.2 ⟨hearlier, by simp [hkey], ?_⟩
          simpa [hkey] using hlast k hkey

/-- Two events with the same key, where the keys are distinct, are one. -/
theorem eq_of_nodup {key : α → Option κ} (h : (events.filterMap key).Nodup) {other : α} {k : κ}
    (hevent : event ∈ events) (hother : other ∈ events) (hkey : key event = some k)
    (hsame : key other = some k) : event = other := by
  induction events with
  | nil => cases hevent
  | cons head tail ih =>
      have htail : (tail.filterMap key).Nodup := by
        refine h.sublist ?_
        rw [← List.singleton_append, List.filterMap_append]
        exact List.sublist_append_right _ _
      have hhead : key head = some k → ∀ past ∈ tail, key past ≠ some k := by
        intro hk past hpast heq
        rw [List.filterMap_cons_some hk, List.nodup_cons] at h
        exact h.1 (List.mem_filterMap.2 ⟨past, hpast, heq⟩)
      rw [List.mem_cons] at hevent hother
      obtain rfl | hevent := hevent
      · obtain rfl | hother := hother
        · rfl
        · exact absurd hsame (hhead hkey other hother)
      · obtain rfl | hother := hother
        · exact absurd hkey (hhead hsame event hevent)
        · exact ih htail hevent hother

theorem Justified.mono (h : Justified P events) (hmono : ∀ before event, P before event → Q before event) :
    Justified Q events :=
  fun before event after heq => hmono before event (h before event after heq)

end PvpDuel.Chronicle
