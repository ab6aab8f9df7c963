import PvpDuel.Delivery.ExactlyOnce
import PvpDuel.Room.Attacker

/-!
# Held attacks

The client counts fifteen of its ticks between two attacks it enqueues, the room fifteen of its own
between two attacks it starts. The network decides how long a command is on its way, so a command
starts its attack unless it came faster than one that started before it. The run below is watched with
two logs: when each command was enqueued, and what became of it when the room consumed it.
-/

namespace PvpDuel.Delivery

open Client (InputFrame MatchController MatchModel)
open MatchServer (Match Process)
open SlidingWindow (Flow)

/-! ### Watching a run -/

/-- The two clocks that alternate: `FixedTick` of the client and `Step` of the room. -/
inductive Clock
  | client
  | server
deriving DecidableEq, Repr

/-- What became of a command: the room consumed it at a tick, in the active phase or not, and it
started an attack or was only acknowledged. Times count steps of the room. -/
structure Handling where
  command : Simulation.ActionCommand
  enqueuedAt : Nat
  tick : Nat
  active : Bool
  started : Bool
deriving DecidableEq, Repr

/-- How many steps of the room a command was on its way. -/
def Handling.delay (h : Handling) : Int := h.tick - h.enqueuedAt

/-- The match with the number of its steps, the clock that ticked last, the times at which the client
enqueued its commands, and what became of those the room has consumed. -/
structure Watched extends NetworkMatch where
  steps : Nat
  last : Option Clock
  enqueuedAt : List Nat
  handled : List Handling
deriving DecidableEq

/-- The room of the match ticks; a `Step` of a finished room is none. -/
def NetworkMatch.Steps (n : NetworkMatch) : Action → Prop
  | .server action => n.server.roomCall action = some .step ∧ n.server.room.status ≠ .finished
  | _ => False

instance (n : NetworkMatch) : ∀ action, Decidable (n.Steps action)
  | .fixedTick _ => inferInstanceAs (Decidable False)
  | .pollNetwork .. => inferInstanceAs (Decidable False)
  | .deliver _ => inferInstanceAs (Decidable False)
  | .server action => inferInstanceAs
      (Decidable (n.server.roomCall action = some .step ∧ n.server.room.status ≠ .finished))

theorem NetworkMatch.Steps.unfinished {n : NetworkMatch} {action : Action} (h : n.Steps action) :
    n.server.room.status ≠ .finished := by
  cases action with
  | server step => exact h.2
  | _ => exact absurd h id

namespace Watched

/-- What becomes of a command, with the time it was enqueued at, in the next step. -/
def handle (w : Watched) (entry : Simulation.ActionCommand × Nat) : Handling where
  command := entry.1
  enqueuedAt := entry.2
  tick := (w.server.room.tick + 1).toNat
  active := w.server.room.status = .active
  started := entry.1 ∈ w.server.room.effects w.player

/-- What becomes of the commands that the next step consumes; they are the next of those enqueued. -/
def handles (w : Watched) : List Handling :=
  ((w.server.room.consumed w.player .step).zip (w.enqueuedAt.drop w.handled.length)).map w.handle

def lastAfter (w : Watched) : Action → Option Clock
  | .fixedTick _ => some .client
  | action => if w.Steps action then some .server else w.last

def next (w : Watched) (action : Action) : Option Watched :=
  (w.toNetworkMatch.next action).map fun n => {
    toNetworkMatch := n
    steps := if w.Steps action then w.steps + 1 else w.steps
    last := w.lastAfter action
    enqueuedAt :=
      w.enqueuedAt ++ List.replicate (n.enqueued.length - w.enqueued.length) w.steps
    handled := if w.Steps action then w.handled ++ w.handles else w.handled }

end Watched

def watch (n : NetworkMatch) : Watched where
  toNetworkMatch := n
  steps := 0
  last := none
  enqueuedAt := []
  handled := []

/-- `FixedTick` and `Step` alternate. -/
def Alternates (w : Watched) : Action → Prop
  | .fixedTick _ => w.last ≠ some .client
  | action => w.Steps action → w.last ≠ some .server

instance (w : Watched) : ∀ action, Decidable (Alternates w action)
  | .fixedTick _ => inferInstanceAs (Decidable (w.last ≠ some .client))
  | .pollNetwork start snapshot matchEnd connected => inferInstanceAs (Decidable
      (w.Steps (.pollNetwork start snapshot matchEnd connected) → w.last ≠ some .server))
  | .deliver datagram =>
      inferInstanceAs (Decidable (w.Steps (.deliver datagram) → w.last ≠ some .server))
  | .server action =>
      inferInstanceAs (Decidable (w.Steps (.server action) → w.last ≠ some .server))

def Unhurt (w : Watched) (action : Action) : Prop :=
  w.Steps action → (w.server.room.step.seats.get w.player).player.hp = w.seat.player.hp

def OnlyAttacks : Action → Prop
  | .fixedTick frame => Client.Action.dash ∉ frame.pressed
  | _ => True

instance : ∀ action, Decidable (OnlyAttacks action)
  | .fixedTick frame => inferInstanceAs (Decidable (Client.Action.dash ∉ frame.pressed))
  | .pollNetwork .. | .deliver _ | .server _ => inferInstanceAs (Decidable True)

/-- What the runs of a held attack are promised to keep to. -/
def Held (w : Watched) (action : Action) : Prop :=
  Alternates w action ∧ Unhurt w action ∧ OnlyAttacks action

instance (w : Watched) (action : Action) : Decidable (Held w action) :=
  inferInstanceAs (Decidable (_ ∧ (_ → _) ∧ _))

/-! ### The client's clock -/

section

variable {n n' : NetworkMatch}

/-- Without a dash a tick of the client enqueues nothing, or one light attack. -/
theorem fixedTick_attacks (n : NetworkMatch) {frame : InputFrame}
    (hdash : Client.Action.dash ∉ frame.pressed) :
    ((n.fixedTick frame).enqueued = n.enqueued ∧
      (n.fixedTick frame).client.nextLightAttackTick = n.client.nextLightAttackTick ∧
      ((n.fixedTick frame).client.model.inputTick = n.client.model.inputTick ∨
        (n.fixedTick frame).client.model.inputTick = n.client.model.inputTick + 1)) ∨
    n.client.nextLightAttackTick ≤ n.client.model.inputTick + 1 ∧
      (n.fixedTick frame).client.nextLightAttackTick =
        n.client.model.inputTick + 1 + Client.lightAttackRepeatIntervalTicks ∧
      (n.fixedTick frame).client.model.inputTick = n.client.model.inputTick + 1 ∧
      ∃ sequence, (n.fixedTick frame).enqueued = n.enqueued ++ [⟨sequence, .lightAttack⟩] := by
  unfold NetworkMatch.fixedTick MatchController.fixedTick
  by_cases hticks : n.client.model.Ticks
  · rw [if_pos hticks]
    have hclock := (n.client.advanceTick_fields frame).1
    rcases n.client.advanceTick_attacks hdash with
      ⟨hqueue, hnext⟩ | ⟨hready, hnext, sequence, hqueue⟩
    · refine .inl ⟨?_, hnext, .inr hclock⟩
      dsimp only
      rw [hqueue, NetworkMatch.pending, List.drop_length, List.append_nil]
    · refine .inr ⟨hready, hnext, hclock, sequence, ?_⟩
      dsimp only
      rw [hqueue, NetworkMatch.pending, List.drop_left]
  · rw [if_neg hticks]
    refine .inl ⟨?_, rfl, .inl rfl⟩
    dsimp only
    rw [NetworkMatch.pending, List.drop_length, List.append_nil]

theorem next_client {action : Action} (hnext : n.next action = some n')
    (hother : ∀ frame, action ≠ .fixedTick frame) : n'.enqueued = n.enqueued ∧
      n'.client.model.inputTick = n.client.model.inputTick ∧
      n'.client.nextLightAttackTick = n.client.nextLightAttackTick := by
  cases action with
  | fixedTick frame => exact absurd rfl (hother frame)
  | pollNetwork start snapshot matchEnd connected =>
      cases hnext
      exact ⟨rfl, MatchModel.poll_inputTick .., rfl⟩
  | deliver datagram =>
      obtain ⟨input, -, hact⟩ := Option.bind_eq_some_iff.1 hnext
      obtain ⟨server, -, rfl⟩ := Option.map_eq_some_iff.1 hact
      exact ⟨rfl, rfl, rfl⟩
  | server action =>
      rw [NetworkMatch.next] at hnext
      split_ifs at hnext
      obtain ⟨server, -, rfl⟩ := Option.map_eq_some_iff.1 hnext
      exact ⟨rfl, rfl, rfl⟩

end

/-- The client enqueues light attacks only, one for each time of the log, fifteen steps apart: its
clock is no faster than that of the room. -/
structure Sending (w : Watched) : Prop where
  attacks : ∀ command ∈ w.enqueued, command.action = .lightAttack
  times : w.enqueuedAt.length = w.enqueued.length
  apart : w.enqueuedAt.Pairwise fun t u => t + 15 ≤ u
  clock : w.client.model.inputTick.toNat ≤ w.steps + if w.last = some .client then 1 else 0
  interval : ∀ t ∈ w.enqueuedAt, w.client.model.inputTick.toNat + 15 + t +
    (if w.last = some .client then 0 else 1) ≤ w.client.nextLightAttackTick.toNat + w.steps

section

variable {w w' : Watched}

theorem Sending.fixedTick (h : Sending w) {frame : InputFrame} (hlast : w.last ≠ some .client)
    (hdash : Client.Action.dash ∉ frame.pressed) (hsmall : w.steps + 16 < 2 ^ 32) :
    Sending ⟨w.toNetworkMatch.fixedTick frame, w.steps, some .client,
      w.enqueuedAt ++ List.replicate
        ((w.toNetworkMatch.fixedTick frame).enqueued.length - w.enqueued.length) w.steps,
      w.handled⟩ := by
  have hclock := h.clock
  have hinterval := h.interval
  rw [if_neg hlast] at hclock hinterval
  have htick : (w.client.model.inputTick + 1).toNat = w.client.model.inputTick.toNat + 1 :=
    FixedWidth.uint32_toNat_add (by rw [UInt32.toNat_one]; omega)
  rcases fixedTick_attacks w.toNetworkMatch hdash with
    ⟨henqueued, hnext, hinput⟩ | ⟨hready, hnext, hinput, sequence, henqueued⟩
  · have hadvanced : (w.toNetworkMatch.fixedTick frame).client.model.inputTick.toNat ≤
        w.client.model.inputTick.toNat + 1 := by
      rcases hinput with heq | heq <;> rw [heq]
      · exact Nat.le_succ _
      · exact htick.le
    rw [henqueued, Nat.sub_self, List.replicate_zero, List.append_nil]
    refine ⟨?_, ?_, h.apart, ?_, fun t ht => ?_⟩
    · rw [henqueued]
      exact h.attacks
    · rw [henqueued]
      exact h.times
    · dsimp only
      rw [if_pos rfl]
      omega
    · have hbefore := hinterval t ht
      dsimp only
      rw [if_pos rfl, hnext]
      omega
  · have hdeadline : (w.client.model.inputTick + 1 +
        Client.lightAttackRepeatIntervalTicks).toNat = w.client.model.inputTick.toNat + 16 := by
      have hfifteen : Client.lightAttackRepeatIntervalTicks.toNat = 15 := rfl
      rw [FixedWidth.uint32_toNat_add (by omega), htick, hfifteen]
    rw [UInt32.le_iff_toNat_le, htick] at hready
    have hapart : ∀ t ∈ w.enqueuedAt, t + 15 ≤ w.steps := by
      intro t ht
      have hbefore := hinterval t ht
      omega
    rw [henqueued, List.length_append, List.length_singleton, Nat.add_sub_cancel_left,
      List.replicate_one]
    refine ⟨?_, ?_, ?_, ?_, fun t ht => ?_⟩
    · rw [henqueued]
      intro command hcommand
      rcases List.mem_append.1 hcommand with hold | hnew
      · exact h.attacks command hold
      · rw [List.mem_singleton.1 hnew]
    · rw [henqueued, List.length_append, List.length_append, h.times]
      rfl
    · refine List.pairwise_append.2 ⟨h.apart, List.pairwise_singleton _ _, fun t ht u hu => ?_⟩
      rw [List.mem_singleton.1 hu]
      exact hapart t ht
    · dsimp only
      rw [if_pos rfl, hinput, htick]
      omega
    · dsimp only
      rw [if_pos rfl, hnext, hinput, hdeadline, htick]
      rcases List.mem_append.1 ht with hold | hnew
      · have hpast := hapart t hold
        omega
      · rw [List.mem_singleton.1 hnew]
        omega

/-- What the client does not do leaves its log alone, and the room's clock may tick. -/
theorem Sending.other (h : Sending w) {n : NetworkMatch} {action : Action}
    (hnext : w.toNetworkMatch.next action = some n) (hother : ∀ frame, action ≠ .fixedTick frame)
    {steps : Nat} {last : Option Clock} {handled : List Handling}
    (hclock : steps = w.steps ∧ last = w.last ∨ steps = w.steps + 1 ∧ last = some .server) :
    Sending ⟨n, steps, last,
      w.enqueuedAt ++ List.replicate (n.enqueued.length - w.enqueued.length) w.steps, handled⟩ := by
  obtain ⟨henqueued, hinput, hdeadline⟩ := next_client hnext hother
  rw [henqueued, Nat.sub_self, List.replicate_zero, List.append_nil]
  have hbefore := h.clock
  refine ⟨?_, ?_, h.apart, ?_, fun t ht => ?_⟩
  · rw [henqueued]
    exact h.attacks
  · rw [henqueued]
    exact h.times
  · dsimp only
    rw [hinput]
    rcases hclock with ⟨rfl, rfl⟩ | ⟨rfl, rfl⟩
    · exact hbefore
    · rw [if_neg (by decide)]
      split_ifs at hbefore <;> omega
  · have hinterval := h.interval t ht
    dsimp only
    rw [hinput, hdeadline]
    rcases hclock with ⟨rfl, rfl⟩ | ⟨rfl, rfl⟩
    · exact hinterval
    · rw [if_neg (by decide)]
      split_ifs at hinterval <;> omega

end

/-! ### What becomes of the commands -/

/-- What a step makes of the commands it consumes: the first starts an attack if the player is ready
for one, no other does. -/
inductive Batch (tick : Nat) (ready : Prop) : List Handling → Prop
  | nothing : Batch tick ready []
  | commands {first : Handling} {rest : List Handling} (htick : first.tick = tick)
      (hstarted : first.started = true ↔ ready)
      (hrest : ∀ h ∈ rest, h.tick = tick ∧ h.started = false) : Batch tick ready (first :: rest)

/-- A command consumed in the active phase starts an attack exactly when every attack started before
it is fifteen ticks ago. -/
def Explained (handled : List Handling) : Prop :=
  ∀ earlier h later, handled = earlier ++ h :: later → h.active = true →
    (h.started = true ↔ ∀ g ∈ earlier, g.started = true → g.tick + 15 ≤ h.tick)

theorem Explained.append {handled batch : List Handling} {tick : Nat} {ready : Prop}
    (h : Explained handled) (hbatch : Batch tick ready batch)
    (hready : (∃ g ∈ batch, g.active = true) →
      (ready ↔ ∀ g ∈ handled, g.started = true → g.tick + 15 ≤ tick)) :
    Explained (handled ++ batch) := by
  have hnew : ∀ before x later, batch = before ++ x :: later → x.active = true →
      (x.started = true ↔
        ∀ g ∈ handled ++ before, g.started = true → g.tick + 15 ≤ x.tick) := by
    intro before x later heq hactive
    have hiff := hready ⟨x, heq ▸ List.mem_append_right _ (List.mem_cons_self ..), hactive⟩
    cases hbatch with
    | nothing => simp at heq
    | @commands first rest htick hstarted hrest =>
        cases before with
        | nil =>
            obtain ⟨rfl, -⟩ := List.cons.inj heq
            rw [List.append_nil, hstarted, htick, hiff]
        | cons earlier before =>
            obtain ⟨rfl, rfl⟩ := List.cons.inj heq
            obtain ⟨hxtick, hxstarted⟩ :=
              hrest x (List.mem_append_right _ (List.mem_cons_self ..))
            rw [hxstarted, hxtick]
            refine iff_of_false Bool.false_ne_true fun hover => ?_
            have hfirst := hstarted.2 (hiff.2 fun g hg => hover g (List.mem_append_left _ hg))
            have hlate := hover first
              (List.mem_append_right _ (List.mem_cons_self ..)) hfirst
            omega
  intro earlier x later heq hactive
  rcases List.append_eq_append_iff.1 heq with ⟨before, rfl, hsplit⟩ | ⟨middle, hhandled, hsplit⟩
  · exact hnew before x later hsplit hactive
  · cases middle with
    | nil =>
        rw [List.append_nil] at hhandled
        have hlast := hnew [] x later hsplit.symm hactive
        rwa [List.append_nil, hhandled] at hlast
    | cons first middle =>
        obtain ⟨rfl, -⟩ := List.cons.inj hsplit
        exact h earlier x middle hhandled hactive

/-! ### The room's clock -/

/-- The room plays by the default rules of its arena, and the log of the player's attacks is that of
the starts his deadline follows. -/
structure Receiving (w : Watched) : Prop where
  rules : ∃ arenaID, w.server.room.rules = Simulation.arenaRuleset arenaID
  paced : w.server.room.Paced w.steps w.player
    ((w.handled.filter Handling.started).map Handling.tick)
  bounded : w.steps ≤ 2790

section

variable {w : Watched}

theorem Receiving.numbers (h : Receiving w) : w.server.room.rules.countdownTicks.toNat = 90 ∧
    w.server.room.rules.matchDurationTicks.toNat = 2700 ∧
    w.server.room.rules.lightAttack.cooldownTicks.toNat = 15 ∧
    w.server.room.rules.attackTicks = 10 := by
  obtain ⟨arenaID, hrules⟩ := h.rules
  rw [hrules]
  exact ⟨rfl, rfl, rfl, rfl⟩

/-- The first command of the queue takes effect if the player is ready, no other does. -/
theorem Receiving.effects (h : Receiving w) (hfinished : w.server.room.status ≠ .finished)
    (hattacks : ∀ command ∈ w.seat.pendingActions, command.type = .lightAttack) :
    ((w.server.room.status = .active ∧ w.seat.nextAttackTick ≤ w.server.room.tick + 1) ∧
      w.server.room.effects w.player = w.seat.pendingActions.take 1) ∨
    ¬ (w.server.room.status = .active ∧ w.seat.nextAttackTick ≤ w.server.room.tick + 1) ∧
      w.server.room.effects w.player = [] := by
  obtain ⟨-, -, hcooldown, hticks⟩ := h.numbers
  by_cases ha : w.server.room.status = .active
  · have heffects := h.paced.attacker_effects ha h.paced.attacker (by omega) hattacks
    by_cases hready : w.seat.nextAttackTick ≤ w.server.room.tick + 1
    · exact .inl ⟨⟨ha, hready⟩, heffects.trans (if_pos hready)⟩
    · exact .inr ⟨fun hboth => hready hboth.2, heffects.trans (if_neg hready)⟩
  · refine .inr ⟨fun hboth => ha hboth.1, if_pos (.inr ?_)⟩
    cases hs : w.server.room.status with
    | active => exact absurd hs ha
    | finished => exact absurd hs hfinished
    | waiting => exact absurd hs h.paced.not_waiting
    | countdown => rfl

theorem Receiving.handles (h : Receiving w) (hfinished : w.server.room.status ≠ .finished)
    (hattacks : ∀ command ∈ w.seat.pendingActions, command.type = .lightAttack)
    (hnodup : w.seat.pendingActions.Nodup)
    (hlength : w.seat.pendingActions.length ≤ (w.enqueuedAt.drop w.handled.length).length) :
    Batch (w.server.room.tick + 1).toNat
      (w.server.room.status = .active ∧ w.seat.nextAttackTick ≤ w.server.room.tick + 1) w.handles ∧
    (w.handles.filter Handling.started).map Handling.tick =
      (w.server.room.effects w.player).map fun _ => (w.server.room.tick + 1).toNat := by
  have heffects := h.effects hfinished hattacks
  have hconsumed : w.server.room.consumed w.player .step = w.seat.pendingActions :=
    if_neg hfinished
  rw [Watched.handles, hconsumed]
  generalize w.seat.pendingActions = pending at heffects hnodup hlength ⊢
  generalize w.enqueuedAt.drop w.handled.length = times at hlength ⊢
  cases pending with
  | nil =>
      have hnone : w.server.room.effects w.player = [] := by
        rcases heffects with ⟨-, heq⟩ | ⟨-, heq⟩ <;> exact heq
      rw [hnone]
      exact ⟨.nothing, rfl⟩
  | cons command commands =>
      cases times with
      | nil => exact absurd hlength (Nat.not_succ_le_zero _)
      | cons time times =>
          obtain ⟨hnotin, -⟩ := List.nodup_cons.1 hnodup
          have hrest : ∀ x ∈ commands, x ∉ w.server.room.effects w.player := by
            intro x hx hin
            rcases heffects with ⟨-, heq⟩ | ⟨-, heq⟩ <;> rw [heq] at hin
            · rw [List.mem_singleton.1 hin] at hx
              exact hnotin hx
            · cases hin
          have hlater : ∀ x ∈ (commands.zip times).map w.handle,
              x.tick = (w.server.room.tick + 1).toNat ∧ x.started = false := by
            intro x hx
            obtain ⟨entry, hentry, rfl⟩ := List.mem_map.1 hx
            exact ⟨rfl, decide_eq_false (hrest entry.1 (List.of_mem_zip hentry).1)⟩
          have hnone : ((commands.zip times).map w.handle).filter Handling.started = [] := by
            rw [List.filter_eq_nil_iff]
            intro x hx hstarted
            rw [(hlater x hx).2] at hstarted
            cases hstarted
          rw [List.zip_cons_cons, List.map_cons, List.filter_cons, hnone]
          rcases heffects with ⟨hready, heq⟩ | ⟨hready, heq⟩
          · have hstarted : (w.handle (command, time)).started = true :=
              decide_eq_true (by rw [heq]; exact List.mem_singleton_self _)
            refine ⟨.commands rfl (iff_of_true hstarted hready) hlater, ?_⟩
            rw [if_pos hstarted, heq]
            rfl
          · have hstarted : (w.handle (command, time)).started = false :=
              decide_eq_false (by rw [heq]; exact List.not_mem_nil)
            refine ⟨.commands rfl (iff_of_false ?_ hready) hlater, ?_⟩
            · rw [hstarted]
              exact Bool.false_ne_true
            · rw [hstarted, if_neg Bool.false_ne_true, heq]
              rfl

theorem handles_command
    (hlength : (w.server.room.consumed w.player .step).length ≤
      (w.enqueuedAt.drop w.handled.length).length) :
    w.handles.map Handling.command = w.server.room.consumed w.player .step := by
  rw [Watched.handles, List.map_map]
  exact List.map_fst_zip hlength

theorem handles_enqueuedAt
    (hlength : (w.server.room.consumed w.player .step).length ≤
      (w.enqueuedAt.drop w.handled.length).length) :
    w.handles.map Handling.enqueuedAt =
      (w.enqueuedAt.drop w.handled.length).take (w.server.room.consumed w.player .step).length := by
  rw [Watched.handles, List.map_map, List.zip_eq_zip_take_min, Nat.min_eq_left hlength,
    List.take_length]
  exact List.map_snd_zip (List.length_take_le _ _)

theorem Receiving.step (h : Receiving w) {n : NetworkMatch} {last : Option Clock}
    {enqueuedAt : List Nat} (hfinished : w.server.room.status ≠ .finished)
    (hroom : n.server.room = w.server.room.step) (hplayer : n.player = w.player)
    (hattacks : ∀ command ∈ w.seat.pendingActions, command.type = .lightAttack)
    (hstarts : (w.handles.filter Handling.started).map Handling.tick =
      (w.server.room.effects w.player).map fun _ => (w.server.room.tick + 1).toNat)
    (hunhurt : (w.server.room.step.seats.get w.player).player.hp = w.seat.player.hp) :
    Receiving ⟨n, w.steps + 1, last, enqueuedAt, w.handled ++ w.handles⟩ := by
  obtain ⟨hcountdown, hduration, hcooldown, -⟩ := h.numbers
  constructor
  · rw [hroom, Simulation.Room.step_rules]
    exact h.rules
  · rw [hroom, hplayer, List.filter_append, List.map_append, hstarts]
    exact h.paced.step (by omega) hattacks hunhurt
  · dsimp only
    cases hs : w.server.room.status with
    | finished => exact absurd hs hfinished
    | waiting => exact absurd hs h.paced.not_waiting
    | countdown =>
        have hlt := (h.paced.countdown hs).1
        omega
    | active =>
        obtain ⟨hn, hlt⟩ := h.paced.active hs
        omega

theorem Receiving.other (h : Receiving w) {n : NetworkMatch} {last : Option Clock}
    {enqueuedAt : List Nat} (hroom : n.server.room = w.server.room ∨
      ∃ playerID input, n.server.room = (w.server.room.submitInput playerID input).1)
    (hplayer : n.player = w.player) :
    Receiving ⟨n, w.steps, last, enqueuedAt, w.handled⟩ := by
  rcases hroom with hroom | ⟨playerID, input, hroom⟩
  · refine ⟨?_, ?_, h.bounded⟩
    · rw [hroom]
      exact h.rules
    · rw [hroom, hplayer]
      exact h.paced
  · refine ⟨?_, ?_, h.bounded⟩
    · rw [hroom, Simulation.Room.submitInput_rules]
      exact h.rules
    · rw [hroom, hplayer]
      exact h.paced.submitInput playerID input

end

/-! ### Every run -/

section

variable {n n' : NetworkMatch}

/-- The room holds different attacks, no more than the client has enqueued beyond those consumed. -/
theorem Represents.pending_attacks {f : CommandFlow} (h : Represents n f)
    (hattacks : ∀ command ∈ n.enqueued, command.action = .lightAttack) :
    (∀ command ∈ n.seat.pendingActions, command.type = .lightAttack) ∧
      n.seat.pendingActions.Nodup ∧
      n.consumed.length + n.seat.pendingActions.length ≤ n.enqueued.length := by
  have hle := f.received_le
  have hlog := h.log
  rw [h.receiver.held, h.consumed]
  refine ⟨?_, ?_, ?_⟩
  · intro command hcommand
    obtain ⟨enqueued, henqueued, rfl⟩ := List.mem_map.1 hcommand
    have hin := SlidingWindow.mem_of_mem_segment henqueued
    rw [hlog] at hin
    rw [roomCommand, hattacks enqueued hin]
    rfl
  · have hsorted : (f.held.map roomCommand).Pairwise fun command other =>
        command.sequence.toNat < other.sequence.toNat := by
      rw [List.pairwise_map]
      refine List.Pairwise.sublist ?_ h.sender.numbered.pairwise
      exact (List.drop_sublist _ _).trans (List.take_sublist _ _)
    refine hsorted.imp fun hlt heq => ?_
    rw [heq] at hlt
    exact Nat.lt_irrefl _ hlt
  · rw [List.length_map, List.length_map, Flow.held, Flow.output, List.length_take,
      SlidingWindow.length_segment hle, ← hlog]
    have hconsumed := f.consumed_le
    omega

theorem Hosted.act_room (h : Hosted n) {step : Match.Action} (hact : n.act step = some n') :
    n'.player = n.player ∧ ((n.Steps (.server step) ∧ n'.server.room = n.server.room.step ∧
        n'.consumed = n.consumed ++ n.server.room.consumed n.player .step) ∨
      ¬ n.Steps (.server step) ∧ n'.consumed = n.consumed ∧ (n'.server.room = n.server.room ∨
        ∃ playerID input, n'.server.room = (n.server.room.submitInput playerID input).1)) := by
  obtain ⟨server, -, hroom, -, rfl⟩ := h.act_cases hact
  refine ⟨rfl, ?_⟩
  dsimp only
  cases hroom with
  | idle hcall hroom =>
      refine .inr ⟨fun hsteps => ?_, ?_, .inl hroom⟩
      · cases hcall.symm.trans hsteps.1
      · rw [NetworkMatch.consumes, hcall, List.append_nil]
  | submit player input haction hroom =>
      refine .inr ⟨fun hsteps => ?_, ?_, .inl hroom⟩
      · rw [haction] at hsteps
        cases hsteps.1
      · rw [NetworkMatch.consumes, haction]
        exact List.append_nil _
  | input queued hcall _ hroom =>
      refine .inr ⟨fun hsteps => ?_, ?_, .inr ⟨_, _, hroom⟩⟩
      · cases hcall.symm.trans hsteps.1
      · rw [NetworkMatch.consumes, hcall]
        exact List.append_nil _
  | step hcall _ hroom =>
      have hconsumes : n.consumes step = n.server.room.consumed n.player .step := by
        rw [NetworkMatch.consumes, hcall]
      rw [hconsumes]
      by_cases hfinished : n.server.room.status = .finished
      · refine .inr ⟨fun hsteps => hsteps.2 hfinished, ?_, .inl ?_⟩
        · rw [Simulation.Room.consumed, if_pos hfinished, List.append_nil]
        · rw [hroom, Simulation.Room.step_of_finished hfinished]
      · exact .inl ⟨⟨hcall, hfinished⟩, hroom, rfl⟩

theorem Hosted.next_room (h : Hosted n) {action : Action} (hnext : n.next action = some n') :
    n'.player = n.player ∧ ((n.Steps action ∧ n'.server.room = n.server.room.step ∧
        n'.consumed = n.consumed ++ n.server.room.consumed n.player .step) ∨
      ¬ n.Steps action ∧ n'.consumed = n.consumed ∧ (n'.server.room = n.server.room ∨
        ∃ playerID input, n'.server.room = (n.server.room.submitInput playerID input).1)) := by
  cases action with
  | fixedTick frame =>
      cases hnext
      exact ⟨rfl, .inr ⟨id, rfl, .inl rfl⟩⟩
  | pollNetwork start snapshot matchEnd connected =>
      cases hnext
      exact ⟨rfl, .inr ⟨id, rfl, .inl rfl⟩⟩
  | deliver datagram =>
      obtain ⟨input, -, hdelivered⟩ := Option.bind_eq_some_iff.1 hnext
      obtain ⟨hplayer, ⟨hsteps, -⟩ | ⟨-, hkept⟩⟩ := h.act_room hdelivered
      · cases hsteps.1
      · exact ⟨hplayer, .inr ⟨id, hkept⟩⟩
  | server step =>
      rw [NetworkMatch.next] at hnext
      split_ifs at hnext
      exact h.act_room hnext

end

structure Kept (w : Watched) : Prop where
  hosted : Hosted w.toNetworkMatch
  window : ∃ f, Represents w.toNetworkMatch f
  sending : Sending w
  receiving : Receiving w
  commands : w.handled.map Handling.command = w.consumed
  aligned : w.handled.map Handling.enqueuedAt = w.enqueuedAt.take w.handled.length
  explained : Explained w.handled

section

variable {w w' : Watched}

theorem Kept.length_handled (h : Kept w) : w.handled.length = w.consumed.length := by
  rw [← h.commands, List.length_map]

/-- The room ticks. -/
theorem Kept.step (h : Kept w) {action : Action} {n : NetworkMatch}
    (hn : w.toNetworkMatch.next action = some n) (hsteps : w.Steps action)
    (hother : ∀ frame, action ≠ .fixedTick frame) (hunhurt : Unhurt w action) :
    Kept ⟨n, w.steps + 1, some .server,
      w.enqueuedAt ++ List.replicate (n.enqueued.length - w.enqueued.length) w.steps,
      w.handled ++ w.handles⟩ := by
  obtain ⟨f, hf⟩ := h.window
  obtain ⟨hpending, hnodup, hlength⟩ := hf.pending_attacks h.sending.attacks
  obtain ⟨hplayer, ⟨-, hroom, hconsumed⟩ | ⟨hstill, -⟩⟩ := h.hosted.next_room hn
  swap
  · exact absurd hsteps hstill
  have hfinished := hsteps.unfinished
  have htimes := h.sending.times
  have hhandled := h.length_handled
  have hdrop : w.seat.pendingActions.length ≤ (w.enqueuedAt.drop w.handled.length).length := by
    rw [List.length_drop]
    omega
  have hqueue : w.server.room.consumed w.player .step = w.seat.pendingActions := if_neg hfinished
  obtain ⟨hbatch, hstarts⟩ := h.receiving.handles hfinished hpending hnodup hdrop
  refine ⟨h.hosted.next hn, hf.next h.hosted hn, h.sending.other hn hother (.inr ⟨rfl, rfl⟩),
    h.receiving.step hfinished hroom hplayer hpending hstarts (hunhurt hsteps), ?_, ?_, ?_⟩
  · rw [List.map_append, handles_command (by rwa [hqueue]), h.commands]
    exact hconsumed.symm
  · have hkept := (next_client hn hother).1
    dsimp only
    rw [hkept, Nat.sub_self, List.replicate_zero, List.append_nil, List.map_append, h.aligned,
      handles_enqueuedAt (by rwa [hqueue]), ← List.take_add, List.length_append,
      ← handles_command (by rwa [hqueue]), List.length_map]
  · refine h.explained.append hbatch fun hactive => ?_
    obtain ⟨g, hg, hactive⟩ := hactive
    obtain ⟨entry, -, rfl⟩ := List.mem_map.1 hg
    have ha : w.server.room.status = .active := of_decide_eq_true hactive
    have hready := h.receiving.paced.ready_iff ha
    rw [h.receiving.numbers.2.2.1] at hready
    refine (and_iff_right ha).trans (hready.trans ⟨fun hover x hx hstarted => ?_, ?_⟩)
    · exact hover x.tick (List.mem_map_of_mem (List.mem_filter.2 ⟨hx, hstarted⟩))
    · intro hover t ht
      obtain ⟨x, hx, rfl⟩ := List.mem_map.1 ht
      obtain ⟨hin, hstarted⟩ := List.mem_filter.1 hx
      exact hover x hin hstarted

/-- The room does not tick. -/
theorem Kept.other (h : Kept w) {action : Action} {n : NetworkMatch}
    (hn : w.toNetworkMatch.next action = some n) (hsteps : ¬ w.Steps action)
    {last : Option Clock} {enqueuedAt : List Nat} (hfirst : w.enqueuedAt <+: enqueuedAt)
    (hsending : Sending ⟨n, w.steps, last, enqueuedAt, w.handled⟩) :
    Kept ⟨n, w.steps, last, enqueuedAt, w.handled⟩ := by
  obtain ⟨f, hf⟩ := h.window
  obtain ⟨hplayer, ⟨hticks, -⟩ | ⟨-, hconsumed, hroom⟩⟩ := h.hosted.next_room hn
  · exact absurd hticks hsteps
  refine ⟨h.hosted.next hn, hf.next h.hosted hn, hsending, h.receiving.other hroom hplayer, ?_, ?_,
    h.explained⟩
  · exact h.commands.trans hconsumed.symm
  · have hle : w.handled.length ≤ w.enqueuedAt.length := by
      have hlength := (hf.pending_attacks h.sending.attacks).2.2
      rw [h.length_handled, h.sending.times]
      omega
    obtain ⟨more, rfl⟩ := hfirst
    rw [List.take_append_of_le_length hle]
    exact h.aligned

theorem Kept.next (h : Kept w) {action : Action} (hheld : Held w action)
    (hnext : w.next action = some w') : Kept w' := by
  obtain ⟨n, hn, rfl⟩ := Option.map_eq_some_iff.1 hnext
  obtain ⟨halternates, hunhurt, hattacks⟩ := hheld
  by_cases hsteps : w.Steps action
  · have hother : ∀ frame, action ≠ .fixedTick frame := by
      rintro frame rfl
      exact hsteps
    have hlast : w.lastAfter action = some .server := by
      cases action with
      | fixedTick frame => exact absurd rfl (hother frame)
      | pollNetwork => exact absurd hsteps id
      | deliver => exact absurd hsteps id
      | server step => exact if_pos hsteps
    rw [if_pos hsteps, if_pos hsteps, hlast]
    exact h.step hn hsteps hother hunhurt
  · rw [if_neg hsteps, if_neg hsteps]
    refine h.other hn hsteps (List.prefix_append _ _) ?_
    cases action with
    | fixedTick frame =>
        cases hn
        exact h.sending.fixedTick halternates hattacks (by have := h.receiving.bounded; omega)
    | pollNetwork => exact h.sending.other hn (fun _ => Action.noConfusion) (.inl ⟨rfl, rfl⟩)
    | deliver => exact h.sending.other hn (fun _ => Action.noConfusion) (.inl ⟨rfl, rfl⟩)
    | server step =>
        exact h.sending.other hn (fun _ => Action.noConfusion) (.inl ⟨rfl, if_neg hsteps⟩)

end

theorem watch_kept {matchID playerA playerB : String} {reporter : Bool} {server : Process}
    (h : MatchServer.startMatch matchID playerA playerB reporter = .ok server) (player : Side) :
    Kept (watch (connect server player)) := by
  have hhosted := connect_hosted h player
  have hwindow := connect_represents h player
  obtain ⟨duel, hduel, rfl⟩ := MatchServer.startMatch_ok h
  obtain ⟨-, -, -, hrules, rfl⟩ := Simulation.newWithRuleset_ok hduel
  refine ⟨hhosted, ⟨_, hwindow⟩, ?_, ?_, rfl, rfl, ?_⟩
  · refine ⟨fun command hcommand => ?_, rfl, List.Pairwise.nil, Nat.zero_le _, fun t ht => ?_⟩
    · cases hcommand
    · cases ht
  · have hrange :
        Simulation.countdownTicks.toNat + Simulation.matchDurationTicks.toNat < 2 ^ 32 := by decide
    exact ⟨⟨_, rfl⟩, Simulation.Room.initialRoom_paced playerA playerB hrules hrange player,
      Nat.zero_le _⟩
  · intro earlier x later heq
    exact absurd heq.symm (by simp [watch])

theorem run_network {w w' : Watched} {actions : List Action}
    (h : Transition.run Watched.next w actions = some w') :
    Transition.run NetworkMatch.next w.toNetworkMatch actions = some w'.toNetworkMatch := by
  induction actions generalizing w with
  | nil =>
      cases h
      rfl
  | cons action actions ih =>
      obtain ⟨v, hnext, hrest⟩ := Transition.run_cons_iff.1 h
      obtain ⟨n, hn, rfl⟩ := Option.map_eq_some_iff.1 hnext
      exact Transition.run_cons_iff.2 ⟨n, hn, ih hrest⟩

/-- The commands of a held attack are enqueued fifteen steps apart. One that is consumed in the
active phase starts its attack exactly when the attacks started before it are fifteen ticks ago, and so
it does unless it was on its way for less time than one of theirs. -/
theorem held_attacks {matchID playerA playerB : String} {reporter : Bool} {server : Process}
    {player : Side} {actions : List Action} {w : Watched}
    (hstart : MatchServer.startMatch matchID playerA playerB reporter = .ok server)
    (hrun : Transition.run Watched.next (watch (connect server player)) actions = some w)
    (hheld : Transition.Meets Watched.next Held (watch (connect server player)) actions) :
    Transition.run NetworkMatch.next (connect server player) actions = some w.toNetworkMatch ∧
    w.handled.map Handling.command = w.consumed ∧
    w.handled.map Handling.enqueuedAt = w.enqueuedAt.take w.handled.length ∧
    w.enqueuedAt.Pairwise (fun t u => t + 15 ≤ u) ∧
    ∀ earlier h later, w.handled = earlier ++ h :: later → h.active = true →
      (h.started = true ↔ ∀ g ∈ earlier, g.started = true → g.tick + 15 ≤ h.tick) ∧
      ((∀ g ∈ earlier, g.started = true → g.delay ≤ h.delay) → h.started = true) := by
  have hkept : Kept w := Transition.meets_invariant (fun _ _ _ h hheld hnext => h.next hheld hnext)
    hrun hheld (watch_kept hstart player)
  refine ⟨run_network hrun, hkept.commands, hkept.aligned, hkept.sending.apart, ?_⟩
  intro earlier h later heq hactive
  have hiff := hkept.explained earlier h later heq hactive
  refine ⟨hiff, fun hdelays => hiff.2 fun g hg hstarted => ?_⟩
  -- The two commands were enqueued fifteen steps apart, and the later one took no less time.
  have happart : g.enqueuedAt + 15 ≤ h.enqueuedAt := by
    have htimes := hkept.sending.apart.sublist (List.take_sublist w.handled.length _)
    rw [← hkept.aligned, List.pairwise_map, heq, List.pairwise_append] at htimes
    exact htimes.2.2 g hg h (List.mem_cons_self ..)
  have hdelay := hdelays g hg hstarted
  unfold Handling.delay at hdelay
  omega

def hold : Action := .fixedTick ⟨0, 0, [], [.lightAttack]⟩

/-- The countdown with the client's ticks; they return early until the first active snapshot. -/
def heldCountdown : List Action :=
  serve [.acknowledgeMatchStart .a, .acknowledgeMatchStart .b, .loopStart] ++
    hold :: serve [.loopTick, .loopNext, .loopNext] ++
    (List.replicate 89
      (hold :: serve [.loopTick, .loopNext, .loopNext, .loopNext, .loopNext])).flatten ++
    serve (List.replicate 3 (.broadcastNext .a) ++ [.receiveSnapshot .a]) ++
    [.pollNetwork true (some 0) none true]

/-- The datagram with the first attack is lost, so the next one brings it a tick later; the second
attack is not delayed. -/
def jittered : List Action :=
  heldCountdown ++ hold :: serve [.loopTick, .loopNext, .loopNext] ++
    [hold, .deliver 1] ++
    serve [.loopInput, .loopTick, .loopNext, .loopNext, .loopNext, .loopNext] ++
    (List.replicate 13
      (hold :: serve [.loopTick, .loopNext, .loopNext, .loopNext, .loopNext])).flatten ++
    [hold, .deliver 15] ++ serve [.loopInput, .loopTick, .loopNext]

theorem jittered_run : ∃ server w,
    MatchServer.startMatch "match-1" "alice" "bob" true = .ok server ∧
    Transition.run Watched.next (watch (connect server .a)) jittered = some w ∧
    Transition.Meets Watched.next Held (watch (connect server .a)) jittered ∧
    w.handled.map (fun h => (h.active, h.started)) = [(true, true), (true, false)] := by
  have hstart := MatchServer.startMatch_of_players "match-1" (show "alice" ≠ "" by decide)
    (show "bob" ≠ "" by decide) (by decide) true
  generalize hserver : MatchServer.initialProcess _ _ _ _ _ = server at hstart
  have hrun : (Transition.run Watched.next (watch (connect server .a)) jittered).map
      (fun w => w.handled.map fun h => (h.active, h.started)) =
        some [(true, true), (true, false)] := by
    rw [← hserver]
    decide +kernel
  have hheld : Transition.Meets Watched.next Held (watch (connect server .a)) jittered := by
    rw [← hserver]
    decide +kernel
  obtain ⟨w, hw, hhandled⟩ := Option.map_eq_some_iff.1 hrun
  exact ⟨server, w, hstart, hw, hheld, hhandled⟩

/-- A command of a held attack is consumed in the active phase and starts nothing. -/
theorem held_attack_rejected : ∃ server w,
    MatchServer.startMatch "match-1" "alice" "bob" true = .ok server ∧
    Transition.run Watched.next (watch (connect server .a)) jittered = some w ∧
    Transition.Meets Watched.next Held (watch (connect server .a)) jittered ∧
    ∃ h ∈ w.handled, h.active = true ∧ h.started = false := by
  obtain ⟨server, w, hstart, hrun, hheld, hhandled⟩ := jittered_run
  have hrejected : (true, false) ∈ w.handled.map fun h => (h.active, h.started) := by
    rw [hhandled]
    decide
  obtain ⟨h, hin, heq⟩ := List.mem_map.1 hrejected
  exact ⟨server, w, hstart, hrun, hheld, h, hin, congrArg Prod.fst heq, congrArg Prod.snd heq⟩

theorem held_attacks_jittered : ∃ (server : Process) (w : Watched),
    MatchServer.startMatch "match-1" "alice" "bob" true = .ok server ∧
    Transition.run NetworkMatch.next (connect server .a) jittered = some w.toNetworkMatch ∧
    w.handled.map Handling.command = w.consumed ∧ w.handled.length = 2 := by
  obtain ⟨server, w, hstart, hrun, hheld, hhandled⟩ := jittered_run
  obtain ⟨hnetwork, hcommands, -⟩ := held_attacks hstart hrun hheld
  have hlength := congrArg List.length hhandled
  rw [List.length_map] at hlength
  exact ⟨server, w, hstart, hnetwork, hcommands, hlength⟩

end PvpDuel.Delivery
