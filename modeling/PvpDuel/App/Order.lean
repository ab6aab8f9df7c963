import Mathlib.Data.List.Induction
import PvpDuel.App.Runtime
import PvpDuel.Client.Logout

/-!
# The order of the client's tasks

A screen that waits has its task, and no other screen has one of those that screens wait for. So no
assignment to a future blocks the loop, nothing refers to a transport that is gone, and the call of the
session manager that is running is one of a future.
-/

namespace PvpDuel.App

open Auth (Operation Phase Result Value)
open Client (MatchController)

variable {r : Runtime} {call : Nat}

/-! ### What a screen needs -/

/-- Which of the tasks are there that a screen waits for. -/
structure Running where
  restore : Bool := false
  auth : Bool := false
  queue : Bool := false
  connect : Bool := false
  logout : Bool := false
deriving DecidableEq

def RuntimeState.running : RuntimeState → Running
  | .restoring => { restore := true }
  | .authPending => { auth := true }
  | .queuePending => { queue := true }
  | .connectPending => { connect := true }
  | .logoutPending => { logout := true }
  | _ => {}

def Runtime.running (r : Runtime) : Running :=
  ⟨r.restoreFuture.isSome, r.authFuture.isSome, r.queueFuture.isSome, r.connectFuture.isSome,
    r.logoutFuture.isSome⟩

/-- The transport and the controller that a screen needs. -/
def Shown (screen : RuntimeState) (network : Option Nat)
    (controller : Option (Nat × MatchController)) : Prop :=
  match screen with
  | .queuePending | .waiting => controller = none
  | .connectPending => controller = none ∧ network ≠ none
  | .playing => ∃ n c, controller = some (n, c) ∧ c.model.matchEnd = none
  | .result => ∃ n c, controller = some (n, c) ∧ c.model.matchEnd ≠ none
  | _ => True

/-! ### Events -/

/-- A match was accepted, and nobody has left the queue since. -/
def owes (events : List Event) : Bool :=
  events.foldl (fun owing event =>
    match event with
    | .accepted => true
    | .left => false
    | .joins => owing) false

/-- Whoever joins the queue owes nothing. -/
def Clean (events : List Event) : Prop :=
  ∀ earlier later, events = earlier ++ .joins :: later → owes earlier = false

theorem owes_concat (events : List Event) (event : Event) : owes (events ++ [event]) =
    match event with
    | .accepted => true
    | .left => false
    | .joins => owes events := by
  unfold owes
  rw [List.foldl_append]
  cases event <;> rfl

theorem Clean.concat {events : List Event} (h : Clean events) {event : Event}
    (hjoins : event = .joins → owes events = false) : Clean (events ++ [event]) := by
  intro earlier later heq
  obtain ⟨rest, hrest, hconcat⟩ | ⟨rest, hrest, hconcat⟩ := List.append_eq_append_iff.1 heq
  · cases rest with
    | nil =>
        rw [List.append_nil] at hrest
        rw [hrest]
        exact hjoins (List.cons.inj hconcat).1
    | cons first rest =>
        have hnil := (List.cons.inj hconcat).2
        exact absurd hnil.symm (List.append_ne_nil_of_right_ne_nil rest (List.cons_ne_nil _ _))
  · cases rest with
    | nil =>
        rw [List.append_nil] at hrest
        rw [← hrest]
        exact hjoins (List.cons.inj hconcat).1.symm
    | cons first rest =>
        rw [List.cons_append] at hconcat
        obtain ⟨rfl, -⟩ := List.cons.inj hconcat
        exact h earlier rest hrest

theorem Clean.left {events earlier between later : List Event} (h : Clean events)
    (heq : events = earlier ++ .accepted :: between ++ .joins :: later) : Event.left ∈ between := by
  have howes := h (earlier ++ .accepted :: between) later heq
  by_contra hnone
  have hkeeps : ∀ rest : List Event, Event.left ∉ rest → owes (earlier ++ .accepted :: rest) = true := by
    intro rest
    induction rest using List.reverseRecOn with
    | nil =>
        intro _
        rw [owes_concat]
    | append_singleton rest event ih =>
        intro hleft
        rw [List.mem_append, List.mem_singleton, not_or] at hleft
        have hrest := ih hleft.1
        rw [← List.cons_append, ← List.append_assoc, owes_concat]
        cases event with
        | accepted => rfl
        | left => exact absurd rfl hleft.2
        | joins => exact hrest
  rw [hkeeps between hnone] at howes
  cases howes

/-! ### Calls -/

def QueueTask.waitsFor : QueueTask → Option Nat
  | .leaving call | .asking call => some call
  | .refused _ => none

/-- The calls of the session manager that a future stands for. -/
def Runtime.calls (r : Runtime) : List Nat :=
  r.restoreFuture.toList ++ r.authFuture.toList ++ (r.queueFuture.bind QueueTask.waitsFor).toList ++
    r.profileFuture.toList ++ r.logoutFuture.toList

def Runtime.signers (r : Runtime) : List Nat := r.restoreFuture.toList ++ r.authFuture.toList

theorem mem_calls {c : Nat} : c ∈ r.calls ↔ r.restoreFuture = some c ∨ r.authFuture = some c ∨
    r.queueFuture.bind QueueTask.waitsFor = some c ∨ r.profileFuture = some c ∨ r.logoutFuture = some c := by
  unfold Runtime.calls
  simp only [List.mem_append, Option.mem_toList, or_assoc]

theorem calls_subset {r r' : Runtime} (extra : List Nat)
    (hrestore : ∀ c, r.restoreFuture = some c → c ∈ extra ∨ r'.restoreFuture = some c)
    (hauth : ∀ c, r.authFuture = some c → c ∈ extra ∨ r'.authFuture = some c)
    (hqueue : ∀ c, r.queueFuture.bind QueueTask.waitsFor = some c →
      c ∈ extra ∨ r'.queueFuture.bind QueueTask.waitsFor = some c)
    (hprofile : ∀ c, r.profileFuture = some c → c ∈ extra ∨ r'.profileFuture = some c)
    (hlogout : ∀ c, r.logoutFuture = some c → c ∈ extra ∨ r'.logoutFuture = some c) :
    r.calls ⊆ extra ++ r'.calls := by
  intro c hc
  rw [List.mem_append, mem_calls]
  obtain hc | hc | hc | hc | hc := mem_calls.1 hc
  · exact (hrestore c hc).imp_right .inl
  · exact (hauth c hc).imp_right fun hc => .inr (.inl hc)
  · exact (hqueue c hc).imp_right fun hc => .inr (.inr (.inl hc))
  · exact (hprofile c hc).imp_right fun hc => .inr (.inr (.inr (.inl hc)))
  · exact (hlogout c hc).imp_right fun hc => .inr (.inr (.inr (.inr hc)))

theorem signers_subset {r r' : Runtime} (extra : List Nat)
    (hrestore : ∀ c, r.restoreFuture = some c → c ∈ extra ∨ r'.restoreFuture = some c)
    (hauth : ∀ c, r.authFuture = some c → c ∈ extra ∨ r'.authFuture = some c) :
    r.signers ⊆ extra ++ r'.signers := by
  intro c hc
  unfold Runtime.signers at hc ⊢
  simp only [List.mem_append, Option.mem_toList] at hc ⊢
  obtain hc | hc := hc
  · exact (hrestore c hc).imp_right .inl
  · exact (hauth c hc).imp_right .inr

/-- Inside `Logout`. -/
def LogsOut (phase : Phase) : Prop :=
  match phase.pastWarning with
  | .logout | .clear _ | .revoke _ | .erase _ => True
  | _ => False

/-- A call that satisfies the condition is one of these. -/
def Within (P : Phase → Prop) (threads : List Phase) (calls : List Nat) : Prop :=
  ∀ (call : Nat) phase, threads[call]? = some phase → P phase → call ∈ calls

variable {P : Phase → Prop} {threads : List Phase} {calls calls' : List Nat}

theorem Within.mono (h : Within P threads calls) (hsub : calls ⊆ calls') : Within P threads calls' :=
  fun call phase hcall hphase => hsub (h call phase hcall hphase)

theorem Within.drop (h : Within P threads calls) {phase : Phase} (hcall : threads[call]? = some phase)
    (hnot : ¬ P phase) (hsub : calls ⊆ call :: calls') : Within P threads calls' := by
  intro other found hother hfound
  obtain rfl | hin := List.mem_cons.1 (hsub (h other found hother hfound))
  · obtain rfl := Option.some.inj (hcall.symm.trans hother)
    exact absurd hfound hnot
  · exact hin

theorem Within.concat (h : Within P threads calls) {phase : Phase} (hsub : calls ⊆ calls')
    (hnew : P phase → threads.length ∈ calls') : Within P (threads ++ [phase]) calls' := by
  intro other found hother hfound
  rw [List.getElem?_append] at hother
  split at hother
  · exact hsub (h other found hother hfound)
  · rename_i hlength
    rw [List.getElem?_singleton] at hother
    split at hother
    · cases hother
      have heq : other = threads.length := by omega
      exact heq ▸ hnew hfound
    · cases hother

theorem Within.set (h : Within P threads calls) {phase phase' : Phase} (hcall : threads[call]? = some phase)
    (hstep : P phase' → P phase) : Within P (threads.set call phase') calls := by
  intro other found hother hfound
  rw [List.getElem?_set] at hother
  split_ifs at hother with heq
  · cases hother
    exact heq ▸ h call phase hcall (hstep hfound)
  · exact h other found hother hfound

/-! ### What every step keeps -/

structure Sound (r : Runtime) : Prop where
  hazards : r.hazards = []
  tasks : r.running = r.screen.running
  refers : ∀ network controller, r.matchController = some (network, controller) → r.network = some network
  shown : Shown r.screen r.network r.matchController
  loading : r.settingsLoadFuture.isSome = !r.settingsLoaded
  saving : r.settingsSaveFuture.isSome = r.pendingBindings.isSome
  loaded : r.pendingBindings.isSome = true ∨ r.screen = .settings → r.settingsLoaded = true
  clean : Clean r.events
  owing : owes r.events = true → r.matchmakingCleanup.queueResetRequired = true
  settled : r.queueRequestReset = true → ∀ call, r.queueFuture = some (.asking call) → owes r.events = false
  refusal : ∀ error, r.queueFuture = some (.refused error) → error ≠ ""
  owned : Within (fun phase => ¬ phase.Returned) r.manager.threads r.calls
  signing : Within Phase.SignsIn r.manager.threads r.signers
  leaving : Within LogsOut r.manager.threads r.logoutFuture.toList

theorem start_sound (stored : Option String) : Sound (Runtime.start stored) where
  hazards := rfl
  tasks := rfl
  refers := fun _ _ hcontroller => nomatch hcontroller
  shown := trivial
  loading := rfl
  saving := rfl
  loaded := nofun
  clean := fun earlier later heq => by
    have hlength := congrArg List.length heq
    rw [List.length_append, List.length_cons] at hlength
    exact absurd hlength (by simp [Runtime.start])
  owing := nofun
  settled := nofun
  refusal := nofun
  owned := fun call phase hcall _ => by
    obtain ⟨hlt, -⟩ := List.getElem?_eq_some_iff.1 hcall
    obtain rfl : call = 0 := Nat.lt_one_iff.1 hlt
    exact List.mem_singleton_self 0
  signing := fun call phase hcall _ => by
    obtain ⟨hlt, -⟩ := List.getElem?_eq_some_iff.1 hcall
    obtain rfl : call = 0 := Nat.lt_one_iff.1 hlt
    exact List.mem_singleton_self 0
  leaving := fun call phase hcall hphase => by
    obtain ⟨hlt, hget⟩ := List.getElem?_eq_some_iff.1 hcall
    obtain rfl : call = 0 := Nat.lt_one_iff.1 hlt
    subst hget
    exact absurd hphase id

/-! ### What a screen says of the futures -/

theorem Sound.restoreFuture (h : Sound r) : r.restoreFuture.isSome = r.screen.running.restore :=
  congrArg Running.restore h.tasks

theorem Sound.authFuture (h : Sound r) : r.authFuture.isSome = r.screen.running.auth :=
  congrArg Running.auth h.tasks

theorem Sound.queueFuture (h : Sound r) : r.queueFuture.isSome = r.screen.running.queue :=
  congrArg Running.queue h.tasks

theorem Sound.connectFuture (h : Sound r) : r.connectFuture.isSome = r.screen.running.connect :=
  congrArg Running.connect h.tasks

theorem Sound.logoutFuture (h : Sound r) : r.logoutFuture.isSome = r.screen.running.logout :=
  congrArg Running.logout h.tasks

theorem risk_false {danger : Bool} {hazard : Hazard} (h : danger = false) : r.risk danger hazard = r := by
  rw [h]
  rfl

end PvpDuel.App
