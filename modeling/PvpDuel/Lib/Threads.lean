import Mathlib.Tactic.Common

/-!
# Threads that share a memory

A thread is known by its number and stands at a point of its program; `advance` says what it does
from there to the memory, in one atomic step. What a thread relies on holds in every state when its
own steps establish it and the steps of the others do not disturb it.
-/

namespace PvpDuel.Threads

variable {μ φ ι : Type}

/-- The shared memory, and the point at which every thread stands. -/
structure State (μ φ : Type) where
  memory : μ
  threads : List φ
deriving DecidableEq

namespace State

def spawn (s : State μ φ) (point : φ) : State μ φ :=
  { s with threads := s.threads ++ [point] }

/-- A thread leaves the memory so and moves to a point. -/
def move (s : State μ φ) (i : Nat) (memory : μ) (point : φ) : State μ φ :=
  ⟨memory, s.threads.set i point⟩

/-- Thread `i` takes its next step. -/
def step (advance : Nat → μ → φ → ι → Option (μ × φ)) (s : State μ φ) (i : Nat) (input : ι) :
    Option (State μ φ) :=
  s.threads[i]?.bind fun point =>
    (advance i s.memory point input).map fun result => s.move i result.1 result.2

variable {s t : State μ φ} {i : Nat} {input : ι} {memory : μ} {point new : φ}

theorem step_eq_some {advance : Nat → μ → φ → ι → Option (μ × φ)} :
    s.step advance i input = some t ↔ ∃ point memory new, s.threads[i]? = some point ∧
      advance i s.memory point input = some (memory, new) ∧ s.move i memory new = t := by
  simp [step, Option.bind_eq_some_iff]

theorem getElem?_spawn {j : Nat} {other : φ} (h : (s.spawn new).threads[j]? = some other) :
    s.threads[j]? = some other ∨ j = s.threads.length ∧ other = new := by
  unfold spawn at h
  rw [List.getElem?_append] at h
  split at h
  · exact .inl h
  · rw [List.getElem?_singleton] at h
    split at h
    · exact .inr ⟨by omega, (Option.some.inj h).symm⟩
    · cases h

theorem getElem?_spawn_of (h : s.threads[i]? = some point) :
    (s.spawn new).threads[i]? = some point := by
  rw [spawn, List.getElem?_append_left (List.getElem?_eq_some_iff.1 h).1]
  exact h

theorem getElem?_move {j : Nat} {other : φ} (hi : s.threads[i]? = some point) :
    (s.move i memory new).threads[j]? = some other ↔
      j = i ∧ other = new ∨ j ≠ i ∧ s.threads[j]? = some other := by
  have hlt : i < s.threads.length := (List.getElem?_eq_some_iff.1 hi).1
  unfold move
  rw [List.getElem?_set]
  by_cases h : i = j
  · subst h
    simp [hlt, eq_comm]
  · simp [h, Ne.symm h]

/-! ### What the threads rely on -/

/-- Every thread has what it relies on at the point where it stands. -/
def Each (P : μ → Nat → φ → Prop) (s : State μ φ) : Prop :=
  ∀ i point, s.threads[i]? = some point → P s.memory i point

variable {P Q : μ → Nat → φ → Prop}

theorem each_iff_forall_mem {R : φ → Prop} :
    s.Each (fun _ _ point => R point) ↔ ∀ point ∈ s.threads, R point := by
  simp only [Each, List.mem_iff_getElem?, forall_exists_index]
  exact forall_comm

theorem Each.spawn (h : s.Each P) (hnew : P s.memory s.threads.length new) : (s.spawn new).Each P := by
  intro j other hother
  rcases getElem?_spawn hother with hother | ⟨rfl, rfl⟩
  · exact h j other hother
  · exact hnew

theorem Each.move (h : s.Each P) (hi : s.threads[i]? = some point) (hown : Q memory i new)
    (hothers : ∀ j other, j ≠ i → s.threads[j]? = some other → P s.memory j other →
      Q memory j other) : (s.move i memory new).Each Q := by
  intro j other hother
  rcases (getElem?_move hi).1 hother with ⟨rfl, rfl⟩ | ⟨hne, hother⟩
  · exact hown
  · exact hothers j other hne hother (h j other hother)

/-- Two threads always stand at points that do not conflict. -/
def Apart (R : φ → φ → Prop) (s : State μ φ) : Prop :=
  ∀ (i j : Nat) (point other : φ), i ≠ j → s.threads[i]? = some point →
    s.threads[j]? = some other → R point other

variable {R : φ → φ → Prop}

theorem Apart.spawn (h : s.Apart R) (hsymm : ∀ point other, R point other → R other point)
    (hnew : ∀ other, R new other) : (s.spawn new).Apart R := by
  intro i j point other hne hpoint hother
  rcases getElem?_spawn hpoint with hpoint | ⟨rfl, rfl⟩
  · rcases getElem?_spawn hother with hother | ⟨rfl, rfl⟩
    · exact h i j point other hne hpoint hother
    · exact hsymm _ _ (hnew point)
  · exact hnew other

theorem Apart.move (h : s.Apart R) (hsymm : ∀ point other, R point other → R other point)
    (hi : s.threads[i]? = some point)
    (hnew : ∀ j other, j ≠ i → s.threads[j]? = some other → R new other) :
    (s.move i memory new).Apart R := by
  intro j k first second hne hfirst hsecond
  rw [getElem?_move hi] at hfirst hsecond
  rcases hfirst with ⟨rfl, rfl⟩ | ⟨hj, hfirst⟩ <;> rcases hsecond with ⟨rfl, rfl⟩ | ⟨hk, hsecond⟩
  · exact absurd rfl hne
  · exact hnew k second hk hsecond
  · exact hsymm _ _ (hnew j first hj hfirst)
  · exact h j k first second hne hfirst hsecond

theorem apart_of_pairwise (hsymm : ∀ point other, R point other → R other point)
    (h : s.threads.Pairwise R) : s.Apart R := by
  rw [List.pairwise_iff_getElem] at h
  intro i j point other hne hpoint hother
  obtain ⟨hi, rfl⟩ := List.getElem?_eq_some_iff.1 hpoint
  obtain ⟨hj, rfl⟩ := List.getElem?_eq_some_iff.1 hother
  rcases Nat.lt_or_gt_of_ne hne with hlt | hgt
  · exact h i j hi hj hlt
  · exact hsymm _ _ (h j i hj hi hgt)

/-! ### Locks -/

/-- The threads that stand inside the lock are its holder. -/
def Locked (inside : φ → Prop) (holder : μ → Option Nat) (s : State μ φ) : Prop :=
  s.Each fun memory i point => inside point → holder memory = some i

variable {inside : φ → Prop} {holder : μ → Option Nat}

theorem Locked.unique (h : s.Locked inside holder) {j : Nat} {other : φ}
    (hi : s.threads[i]? = some point) (hj : s.threads[j]? = some other) (hpoint : inside point)
    (hother : inside other) : i = j :=
  Option.some.inj ((h i point hi hpoint).symm.trans (h j other hj hother))

/-- A thread that takes a free lock, gives its own back or leaves the lock alone. -/
theorem Locked.move (h : s.Locked inside holder) (hi : s.threads[i]? = some point)
    (hown : inside new → holder memory = some i)
    (hholder : holder memory = holder s.memory ∨ holder s.memory = none ∨
      holder s.memory = some i) : (s.move i memory new).Locked inside holder := by
  refine Each.move h hi hown ?_
  intro j other hne _ hheld hinside
  have hj := hheld hinside
  rcases hholder with heq | hfree | hmine
  · exact heq.trans hj
  · rw [hfree] at hj
    cases hj
  · rw [hmine] at hj
    exact absurd (Option.some.inj hj).symm hne

end State

end PvpDuel.Threads
