import Mathlib.Tactic.Common

/-!
# Bounded channels and one-time actions

A bounded channel as a value: sending, receiving and closing are functions whose outcome says whether
the operation is done, has to wait, or panics. `Once` is the state of a one-time action whose callers
wait until the first of them has finished it.
-/

namespace PvpDuel

/-- What an operation on shared state does to the goroutine that tries it. -/
inductive Outcome (σ : Type)
  | done (next : σ)
  | blocked
  | panicked
deriving DecidableEq, Repr

namespace Outcome

variable {σ τ : Type}

def map (f : σ → τ) : Outcome σ → Outcome τ
  | .done s => .done (f s)
  | .blocked => .blocked
  | .panicked => .panicked

theorem map_eq_done {f : σ → τ} {outcome : Outcome σ} {t : τ} (h : outcome.map f = .done t) :
    ∃ s, outcome = .done s ∧ f s = t := by
  cases outcome with
  | done s =>
      cases h
      exact ⟨s, rfl, rfl⟩
  | blocked => cases h
  | panicked => cases h

theorem map_eq_panicked {f : σ → τ} {outcome : Outcome σ} (h : outcome.map f = .panicked) :
    outcome = .panicked := by
  cases outcome with
  | done s => cases h
  | blocked => cases h
  | panicked => rfl

end Outcome

structure Channel (α : Type) where
  capacity : Nat
  buffer : List α
  closed : Bool
  bounded : buffer.length ≤ capacity
deriving DecidableEq

namespace Channel

variable {α : Type}

def make (capacity : Nat) : Channel α where
  capacity := capacity
  buffer := []
  closed := false
  bounded := Nat.zero_le capacity

theorem bounded_concat {c : Channel α} (h : c.buffer.length < c.capacity) (x : α) :
    (c.buffer ++ [x]).length ≤ c.capacity := by
  rw [List.length_append]
  exact h

def send (c : Channel α) (x : α) : Outcome (Channel α) :=
  if c.closed then .panicked
  else if h : c.buffer.length < c.capacity then
    .done { c with buffer := c.buffer ++ [x], bounded := bounded_concat h x }
  else .blocked

/-- A receive; `none` is what a closed channel yields once it is empty. -/
def receive (c : Channel α) : Outcome (Option α × Channel α) :=
  match h : c.buffer with
  | x :: rest =>
      .done (some x, { c with
        buffer := rest
        bounded := Nat.le_trans (Nat.le_succ _) (by simpa [h] using c.bounded) })
  | [] => if c.closed then .done (none, c) else .blocked

def close (c : Channel α) : Outcome (Channel α) :=
  if c.closed then .panicked else .done { c with closed := true }

/-- A send in a `select` with a `default` branch. -/
def trySend (c : Channel α) (x : α) : Outcome (Bool × Channel α) :=
  match c.send x with
  | .done c => .done (true, c)
  | .blocked => .done (false, c)
  | .panicked => .panicked

/-- A receive in a `select` with a `default` branch, the value dropped. -/
def tryDrop (c : Channel α) : Channel α :=
  match c.receive with
  | .done (_, c) => c
  | _ => c

theorem send_eq_done {c c' : Channel α} {x : α} (h : c.send x = .done c') :
    c.closed = false ∧ c'.buffer = c.buffer ++ [x] ∧ c'.closed = false ∧
      c'.capacity = c.capacity := by
  unfold send at h
  split_ifs at h with hclosed hlt
  cases h
  have hopen := Bool.eq_false_iff.2 hclosed
  exact ⟨hopen, rfl, hopen, rfl⟩

theorem send_of_open {c : Channel α} (hopen : c.closed = false)
    (hlt : c.buffer.length < c.capacity) (x : α) : ∃ c', c.send x = .done c' := by
  refine ⟨{ c with buffer := c.buffer ++ [x], bounded := bounded_concat hlt x }, ?_⟩
  rw [send, if_neg (by rw [hopen]; exact Bool.false_ne_true), dif_pos hlt]

theorem send_eq_panicked {c : Channel α} {x : α} (h : c.send x = .panicked) : c.closed = true := by
  unfold send at h
  split_ifs at h with hclosed
  exact hclosed

theorem send_eq_blocked {c : Channel α} {x : α} (h : c.send x = .blocked) :
    c.capacity ≤ c.buffer.length := by
  unfold send at h
  split_ifs at h with _ hlt
  exact Nat.le_of_not_lt hlt

theorem receive_eq_done {c c' : Channel α} {value : Option α} (h : c.receive = .done (value, c')) :
    (∃ x, value = some x ∧ c.buffer = x :: c'.buffer ∧ c'.closed = c.closed ∧
      c'.capacity = c.capacity) ∨
    (value = none ∧ c.buffer = [] ∧ c.closed = true ∧ c' = c) := by
  unfold receive at h
  split at h
  · rename_i x rest hbuffer
    cases h
    exact .inl ⟨x, rfl, hbuffer, rfl, rfl⟩
  · rename_i hbuffer
    split_ifs at h with hclosed
    cases h
    exact .inr ⟨rfl, hbuffer, hclosed, rfl⟩

theorem receive_some {c c' : Channel α} {x : α} (h : c.receive = .done (some x, c')) :
    c.buffer = x :: c'.buffer ∧ c'.closed = c.closed ∧ c'.capacity = c.capacity := by
  rcases receive_eq_done h with ⟨_, heq, hsame⟩ | ⟨heq, -⟩
  · cases heq
    exact hsame
  · cases heq

theorem receive_ne_panicked (c : Channel α) : c.receive ≠ .panicked := by
  intro h
  unfold receive at h
  split at h
  · cases h
  · split_ifs at h

theorem close_eq_done {c c' : Channel α} (h : c.close = .done c') :
    c.closed = false ∧ c' = { c with closed := true } := by
  unfold close at h
  split_ifs at h with hclosed
  cases h
  exact ⟨Bool.eq_false_iff.2 hclosed, rfl⟩

theorem close_of_open {c : Channel α} (hopen : c.closed = false) :
    c.close = .done { c with closed := true } := by
  rw [close, if_neg (by rw [hopen]; exact Bool.false_ne_true)]

theorem trySend_eq_done {c c' : Channel α} {x : α} {sent : Bool}
    (h : c.trySend x = .done (sent, c')) :
    (sent = true ∧ c.send x = .done c') ∨ (sent = false ∧ c.send x = .blocked ∧ c' = c) := by
  unfold trySend at h
  cases hsend : c.send x with
  | done c'' =>
      rw [hsend] at h
      cases h
      exact .inl ⟨rfl, rfl⟩
  | blocked =>
      rw [hsend] at h
      cases h
      exact .inr ⟨rfl, rfl, rfl⟩
  | panicked =>
      rw [hsend] at h
      cases h

theorem trySend_of_open {c : Channel α} (hopen : c.closed = false) (x : α) :
    c.trySend x ≠ .panicked := by
  intro h
  unfold trySend at h
  cases hsend : c.send x with
  | done c' => rw [hsend] at h; cases h
  | blocked => rw [hsend] at h; cases h
  | panicked =>
      rw [send_eq_panicked hsend] at hopen
      cases hopen

theorem trySend_ne_blocked (c : Channel α) (x : α) : c.trySend x ≠ .blocked := by
  intro h
  unfold trySend at h
  cases hsend : c.send x <;> rw [hsend] at h <;> cases h

theorem tryDrop_cases (c : Channel α) : c.tryDrop = c ∨
    ∃ x, c.buffer = x :: c.tryDrop.buffer ∧ c.tryDrop.closed = c.closed ∧
      c.tryDrop.capacity = c.capacity := by
  unfold tryDrop
  cases hreceive : c.receive with
  | done result =>
      obtain ⟨value, c'⟩ := result
      rcases receive_eq_done hreceive with ⟨x, -, hbuffer, hclosed, hcapacity⟩ | ⟨-, -, -, heq⟩
      · exact .inr ⟨x, hbuffer, hclosed, hcapacity⟩
      · exact .inl heq
  | blocked => exact .inl rfl
  | panicked => exact .inl rfl

theorem tryDrop_buffer (c : Channel α) : c.tryDrop.buffer = c.buffer.tail := by
  unfold tryDrop
  cases hreceive : c.receive with
  | done result =>
      obtain ⟨value, c'⟩ := result
      rcases receive_eq_done hreceive with ⟨x, -, hbuffer, -⟩ | ⟨-, hbuffer, -, rfl⟩
      · rw [hbuffer]
        rfl
      · rw [hbuffer]
        rfl
  | blocked =>
      unfold receive at hreceive
      split at hreceive
      · cases hreceive
      · dsimp only
        rw [‹c.buffer = []›]
        rfl
  | panicked => exact absurd hreceive (receive_ne_panicked c)

theorem tryDrop_capacity (c : Channel α) : c.tryDrop.capacity = c.capacity := by
  rcases tryDrop_cases c with heq | ⟨_, -, -, hcapacity⟩
  · rw [heq]
  · exact hcapacity

theorem tryDrop_empty {c : Channel α} (h : c.capacity = 1) : c.tryDrop.buffer = [] := by
  have hbounded := c.bounded
  rw [tryDrop_buffer, ← List.length_eq_zero_iff, List.length_tail]
  omega

end Channel

/-- A one-time action: not begun, being done by its first caller, or finished. -/
inductive Once
  | idle
  | running
  | done
deriving DecidableEq, Repr

end PvpDuel
