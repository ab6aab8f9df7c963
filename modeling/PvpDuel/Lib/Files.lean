import Mathlib.Logic.Function.Basic
import Mathlib.Tactic.Common

/-!
# Programs over files

Files under their paths, and programs of operations on them. An operation can fail, and a program can be
stopped after any of them, so that what is wanted of it must hold in the state after each.
-/

namespace PvpDuel.Files

/-! ### Programs that can be stopped -/

/-- A program goes on by whether an operation has succeeded. -/
inductive Program (Op α : Type)
  | done (value : α)
  | call (op : Op) (next : Bool → Program Op α)

namespace Program

variable {Op φ σ α : Type} (exec : Op → φ → σ → Bool × σ)

/-- The states after the operations, each with its outcome. -/
def states : Program Op α → (ℕ → φ) → σ → List σ
  | .done _, _, _ => []
  | .call op next, outcomes, s =>
      (exec op (outcomes 0) s).2 ::
        (next (exec op (outcomes 0) s).1).states (fun n => outcomes (n + 1)) (exec op (outcomes 0) s).2

def result : Program Op α → (ℕ → φ) → σ → α × σ
  | .done value, _, s => (value, s)
  | .call op next, outcomes, s =>
      (next (exec op (outcomes 0) s).1).result (fun n => outcomes (n + 1)) (exec op (outcomes 0) s).2

/-- In one run every operation leaves a state with `I`, and the program ends with `Q`. -/
def Along (I : σ → Prop) (Q : α → σ → Prop) (p : Program Op α) (outcomes : ℕ → φ) (s : σ) : Prop :=
  (∀ t ∈ p.states exec outcomes s, I t) ∧
    Q (p.result exec outcomes s).1 (p.result exec outcomes s).2

def Ensures (I : σ → Prop) (Q : α → σ → Prop) (p : Program Op α) (s : σ) : Prop :=
  ∀ outcomes, p.Along exec I Q outcomes s

variable {exec} {I : σ → Prop} {Q : α → σ → Prop} {outcomes : ℕ → φ} {s : σ}

theorem along_done {value : α} : (done value : Program Op α).Along exec I Q outcomes s ↔ Q value s :=
  and_iff_right fun _ ht => absurd ht List.not_mem_nil

theorem along_call {op : Op} {next : Bool → Program Op α} :
    (call op next).Along exec I Q outcomes s ↔ I (exec op (outcomes 0) s).2 ∧
      (next (exec op (outcomes 0) s).1).Along exec I Q (fun n => outcomes (n + 1))
        (exec op (outcomes 0) s).2 := by
  rw [Along, states, List.forall_mem_cons, and_assoc]
  rfl

theorem Ensures.of_done {value : α} (h : Q value s) : Ensures exec I Q (.done value) s :=
  fun _ => along_done.2 h

theorem Ensures.imp {Q' : α → σ → Prop} {p : Program Op α} (h : Ensures exec I Q p s)
    (hQ : ∀ value t, Q value t → Q' value t) : Ensures exec I Q' p s :=
  fun outcomes => ⟨(h outcomes).1, hQ _ _ (h outcomes).2⟩

theorem Ensures.of_call {op : Op} {next : Bool → Program Op α}
    (h : ∀ outcome, I (exec op outcome s).2 ∧
      Ensures exec I Q (next (exec op outcome s).1) (exec op outcome s).2) :
    Ensures exec I Q (.call op next) s :=
  fun _ => along_call.2 ⟨(h _).1, (h _).2 _⟩

end Program

/-! ### Operations on files -/

/-- What becomes of an operation. A write that fails has reached the file with a part of its data, and
a write through a buffer can lose the rest unnoticed, when the buffer is written at last. -/
inductive OpOutcome
  | done
  | fails (reached : ℕ)
  | unnoticed (reached : ℕ)
deriving DecidableEq, Repr

def OpOutcome.isFailure : OpOutcome → Bool
  | .fails _ => true
  | _ => false

inductive Op (π β : Type)
  | createDirectories
  | remove (path : π)
  /-- Opens a file for writing, which empties it. -/
  | truncate (path : π)
  /-- Writes at the end of an open file, and asks for the buffer to be written or not. -/
  | write (path : π) (data : List β) (flushed : Bool)
  | chmod (path : π)
  | rename (source target : π)

abbrev Disk (π β : Type) := π → Option (List β)

variable {π β : Type} [DecidableEq π]

/-- Whether an operation succeeds, and the files after it. A rename is atomic. -/
def exec : Op π β → OpOutcome → Disk π β → Bool × Disk π β
  | .write path data flushed, outcome, disk =>
      let written := (disk path).getD []
      match outcome with
      | .done => (true, Function.update disk path (some (written ++ data)))
      | .fails reached => (false, Function.update disk path (some (written ++ data.take reached)))
      | .unnoticed reached => (!flushed, Function.update disk path (some (written ++ data.take reached)))
  | .createDirectories, .done, disk => (true, disk)
  | .remove path, .done, disk => (true, Function.update disk path none)
  | .truncate path, .done, disk => (true, Function.update disk path (some []))
  | .chmod path, .done, disk => ((disk path).isSome, disk)
  | .rename source target, .done, disk =>
      match disk source with
      | none => (false, disk)
      | some content => (true, Function.update (Function.update disk source none) target (some content))
  | _, _, disk => (false, disk)

def Op.paths : Op π β → List π
  | .createDirectories => []
  | .remove path => [path]
  | .truncate path => [path]
  | .write path _ _ => [path]
  | .chmod _ => []
  | .rename source target => [source, target]

theorem exec_of_notMem {op : Op π β} {path : π} (h : path ∉ op.paths) (outcome : OpOutcome)
    (disk : Disk π β) : (exec op outcome disk).2 path = disk path := by
  cases op with
  | createDirectories => cases outcome <;> rfl
  | remove file =>
      have hne : path ≠ file := by simpa [Op.paths] using h
      cases outcome <;> simp [exec, hne]
  | truncate file =>
      have hne : path ≠ file := by simpa [Op.paths] using h
      cases outcome <;> simp [exec, hne]
  | write file data flushed =>
      have hne : path ≠ file := by simpa [Op.paths] using h
      cases outcome <;> simp [exec, hne]
  | chmod file => cases outcome <;> rfl
  | rename source target =>
      have hne : path ≠ source ∧ path ≠ target := by simpa [Op.paths] using h
      cases outcome with
      | done => cases hsource : disk source <;> simp [exec, hsource, hne]
      | fails reached => rfl
      | unnoticed reached => rfl

theorem exec_of_ne_done {op : Op π β} (hop : ∀ path data flushed, op ≠ .write path data flushed)
    {outcome : OpOutcome} (h : outcome ≠ .done) (disk : Disk π β) : exec op outcome disk = (false, disk) := by
  cases op with
  | write path data flushed => exact absurd rfl (hop path data flushed)
  | createDirectories => cases outcome <;> simp_all [exec]
  | remove path => cases outcome <;> simp_all [exec]
  | truncate path => cases outcome <;> simp_all [exec]
  | chmod path => cases outcome <;> simp_all [exec]
  | rename source target => cases outcome <;> simp_all [exec]

theorem exec_truncate (path : π) (outcome : OpOutcome) (disk : Disk π β) :
    exec (.truncate path) outcome disk = (true, Function.update disk path (some [])) ∨
    exec (.truncate path) outcome disk = (false, disk) := by
  cases outcome with
  | done => exact .inl rfl
  | fails reached => exact .inr rfl
  | unnoticed reached => exact .inr rfl

/-- Where the buffer is asked for, a write that succeeds has reached the file. -/
theorem exec_write_flushed (path : π) (data : List β) (outcome : OpOutcome) (disk : Disk π β) :
    exec (.write path data true) outcome disk =
      (true, Function.update disk path (some ((disk path).getD [] ++ data))) ∨
    (exec (.write path data true) outcome disk).1 = false := by
  cases outcome with
  | done => exact .inl rfl
  | fails reached => exact .inr rfl
  | unnoticed reached => exact .inr rfl

theorem exec_rename (source target : π) (outcome : OpOutcome) (disk : Disk π β) :
    (∃ content, disk source = some content ∧ exec (.rename source target) outcome disk =
      (true, Function.update (Function.update disk source none) target (some content))) ∨
    exec (.rename source target) outcome disk = (false, disk) := by
  cases outcome with
  | done =>
      cases hsource : disk source with
      | none => exact .inr (by simp [exec, hsource])
      | some content => exact .inl ⟨content, rfl, by simp [exec, hsource]⟩
  | fails reached => exact .inr rfl
  | unnoticed reached => exact .inr rfl

end PvpDuel.Files
