import Mathlib.Data.List.Dedup
import PvpDuel.Lib.LastWriter
import PvpDuel.Room.Commands
import PvpDuel.Room.Stamp

/-!
# Inputs between two ticks

Until the next step the inputs of a player go to two places: the newest of them is held, a register in
which the newest write wins, and their commands go to a bounded queue sorted by the sequence. Both depend
on the set of the inputs only. The window of ticks moves with the newest input, upwards as long as its
end does not wrap, so it never refuses an input that it once contained.
-/

namespace PvpDuel.Simulation

namespace Seat

def held (input : Input) : Input where
  tick := input.tick
  moveX := clampAxis input.moveX
  moveY := clampAxis input.moveY
  actions := []

def hold (s : Seat) (input : Input) : Seat := { s with input, lastInputTick := input.tick }

/-- The commands of a list of inputs that the queue does not ignore. -/
def admitted (s : Seat) (inputs : List Input) : List ActionCommand :=
  (inputs.flatMap Input.actions).filter (Admits s.player.lastAckedActionSequence)

/-- The seat after a list of inputs, of which all are in the window. -/
def merge (s : Seat) (inputs : List Input) : Seat :=
  { s.hold ((inputs.map held).foldl (LastWriter.write Input.tick) s.input) with
    pendingActions := (s.admitted inputs).foldl
      (KeyedQueue.insert ActionCommand.sequence maxPendingActions) s.pendingActions }

theorem holdInput_eq {s : Seat} (hheld : s.input.tick = s.lastInputTick) (input : Input) :
    s.holdInput input = s.hold (LastWriter.write Input.tick s.input (held input)) := by
  by_cases hnewer : input.tick > s.lastInputTick
  · have hwritten : s.input.tick < (held input).tick := by rwa [hheld]
    rw [holdInput, if_pos hnewer, LastWriter.write, if_pos hwritten]
    rfl
  · have hkept : ¬ s.input.tick < (held input).tick := by rwa [hheld]
    rw [holdInput, if_neg hnewer, LastWriter.write, if_neg hkept, hold, hheld]

theorem foldl_queueAction_eq (ack : UInt32) (commands pendingActions : List ActionCommand) :
    commands.foldl (queueAction ack) pendingActions =
      (commands.filter (Admits ack)).foldl
        (KeyedQueue.insert ActionCommand.sequence maxPendingActions) pendingActions := by
  rw [List.foldl_filter]
  congr 1
  funext pending command
  by_cases hadmits : Admits ack command
  · have hopen : ¬ (command.sequence ≤ ack ∨ command.sequence - ack > maxActionSequenceAhead) := by
      rw [not_or, UInt32.not_le, gt_iff_lt, UInt32.not_lt]
      exact hadmits
    rw [queueAction, if_neg hopen, if_pos (decide_eq_true hadmits)]
  · have hclosed : command.sequence ≤ ack ∨ command.sequence - ack > maxActionSequenceAhead := by
      by_contra hopen
      rw [not_or, UInt32.not_le, gt_iff_lt, UInt32.not_lt] at hopen
      exact hadmits hopen
    rw [queueAction, if_pos hclosed, if_neg (by rwa [decide_eq_true_iff])]

/-- What the inputs of one player between two ticks have to satisfy for their order not to matter. -/
structure Mergeable (s : Seat) (inputs : List Input) : Prop where
  unwrapped : s.lastInputTick.toNat + maxInputTickAdvance.toNat < 2 ^ 32
  inWindow : ∀ input ∈ inputs, 1 ≤ input.tick.toNat ∧
    input.tick.toNat ≤ s.lastInputTick.toNat + maxInputTickAdvance.toNat
  movement : ∀ first ∈ inputs, ∀ second ∈ inputs, first.tick = second.tick →
    first.moveX = second.moveX ∧ first.moveY = second.moveY
  fewActions : ∀ input ∈ inputs, input.actions.length ≤ maxPendingActions
  types : ∀ first ∈ s.pendingActions ++ inputs.flatMap Input.actions,
    ∀ second ∈ s.pendingActions ++ inputs.flatMap Input.actions,
      first.sequence = second.sequence → first.type = second.type
  bounded : (s.pendingActions ++ s.admitted inputs).dedup.length ≤ maxPendingActions

/-- As long as no window wraps, inputs of the first window are never refused. -/
theorem foldl_submitInput_eq {s : Seat} (hheld : s.input.tick = s.lastInputTick) {inputs : List Input}
    (hunwrapped : s.lastInputTick.toNat + maxInputTickAdvance.toNat < 2 ^ 32)
    (hin : ∀ input ∈ inputs, 1 ≤ input.tick.toNat ∧
      input.tick.toNat ≤ s.lastInputTick.toNat + maxInputTickAdvance.toNat)
    (hfew : ∀ input ∈ inputs, input.actions.length ≤ maxPendingActions)
    (hnewest : ∀ input ∈ inputs, input.tick.toNat + maxInputTickAdvance.toNat < 2 ^ 32) :
    inputs.foldl submitInput s = s.merge inputs := by
  induction inputs generalizing s with
  | nil => rw [List.foldl_nil, merge, List.map_nil, List.foldl_nil, hold, hheld]; rfl
  | cons input inputs ih =>
      obtain ⟨hpositive, hle⟩ := hin input List.mem_cons_self
      have haccepted : ¬ (input.tick = 0 ∨ input.tick > s.lastInputTick + maxInputTickAdvance) := by
        rintro (hzero | hahead)
        · rw [hzero] at hpositive
          exact absurd hpositive (by decide)
        · rw [gt_iff_lt, UInt32.lt_iff_toNat_lt, FixedWidth.uint32_toNat_add hunwrapped] at hahead
          exact absurd hle (Nat.not_le.2 hahead)
      let next := LastWriter.write Input.tick s.input (held input)
      have hnext : s.submitInput input = { s.hold next with
          pendingActions := (s.admitted [input]).foldl
            (KeyedQueue.insert ActionCommand.sequence maxPendingActions) s.pendingActions } := by
        rw [submitInput, if_neg haccepted, holdInput_eq hheld,
          List.take_of_length_le (hfew input List.mem_cons_self), foldl_queueAction_eq, admitted,
          List.flatMap_singleton]
      have hcases : next = s.input ∨ next = held input := by
        by_cases hnewer : s.input.tick < (held input).tick
        · exact .inr (if_pos hnewer)
        · exact .inl (if_neg hnewer)
      have hunwrapped' : next.tick.toNat + maxInputTickAdvance.toNat < 2 ^ 32 := by
        rcases hcases with heq | heq
        · rw [heq, hheld]
          exact hunwrapped
        · rw [heq]
          exact hnewest input List.mem_cons_self
      have hgrown : s.lastInputTick.toNat ≤ next.tick.toNat := by
        rw [← hheld]
        exact UInt32.le_iff_toNat_le.1 (LastWriter.le_write Input.tick s.input (held input)).1
      rw [List.foldl_cons, hnext, ih (s := { s.hold next with pendingActions := _ }) rfl hunwrapped'
        (fun other hother => ?_) (fun other hother => hfew other (List.mem_cons_of_mem _ hother))
        (fun other hother => hnewest other (List.mem_cons_of_mem _ hother))]
      · simp only [merge, admitted, List.map_cons, List.foldl_cons, List.flatMap_cons,
          List.flatMap_nil, List.append_nil, List.filter_append, List.foldl_append]
        rfl
      · obtain ⟨hone, hwithin⟩ := hin other (List.mem_cons_of_mem _ hother)
        exact ⟨hone, hwithin.trans (Nat.add_le_add_right hgrown _)⟩

theorem merge_congr {s : Seat} (hs : s.CommandSafe) {inputs inputs' : List Input}
    (hsame : ∀ input, input ∈ inputs ↔ input ∈ inputs') (h : s.Mergeable inputs) :
    s.merge inputs = s.merge inputs' := by
  have hheld : (inputs.map held).foldl (LastWriter.write Input.tick) s.input =
      (inputs'.map held).foldl (LastWriter.write Input.tick) s.input := by
    refine LastWriter.foldl_write_congr Input.tick (fun written => ?_) ?_ s.input
    · simp only [List.mem_map, hsame]
    · intro first hfirst second hsecond htick
      obtain ⟨input, hinput, rfl⟩ := List.mem_map.1 hfirst
      obtain ⟨input', hinput', rfl⟩ := List.mem_map.1 hsecond
      obtain ⟨hx, hy⟩ := h.movement input hinput input' hinput' htick
      have htick' : input.tick = input'.tick := htick
      rw [held, held, htick', hx, hy]
  have hsub : s.pendingActions ++ s.admitted inputs ⊆
      s.pendingActions ++ inputs.flatMap Input.actions := by
    intro command hcommand
    rw [List.mem_append] at hcommand ⊢
    exact hcommand.imp_right List.mem_of_mem_filter
  have hpending : (s.admitted inputs).foldl
      (KeyedQueue.insert ActionCommand.sequence maxPendingActions) s.pendingActions =
      (s.admitted inputs').foldl
        (KeyedQueue.insert ActionCommand.sequence maxPendingActions) s.pendingActions := by
    refine hs.queued.sorted.foldl_insert_congr (fun command => ?_) ?_ ?_
    · simp only [admitted, List.mem_filter, List.mem_flatMap, hsame]
    · intro first hfirst second hsecond hsequence
      have htype := h.types first (hsub hfirst) second (hsub hsecond) hsequence
      cases first
      cases second
      cases hsequence
      cases htype
      rfl
    · intro part hnodup hpart
      have hdedup : part ⊆ (s.pendingActions ++ s.admitted inputs).dedup :=
        fun command hcommand => List.mem_dedup.2 (hpart hcommand)
      exact (List.subperm_of_subset hnodup hdedup).length_le.trans h.bounded
  rw [merge, merge, hheld, hpending]

end Seat

/-! ### The room -/

/-- The inputs of one player among those that arrive. -/
def inputsOf (playerID : String) (arrived : List (String × Input)) : List Input :=
  (arrived.filter fun sent => sent.1 = playerID).map Prod.snd

/-- The calls `drainInputs` makes for what has arrived. -/
def submissions (arrived : List (String × Input)) : List Event :=
  arrived.map fun sent => .submitInput sent.1 sent.2

theorem mem_inputsOf {playerID : String} {arrived : List (String × Input)} {input : Input} :
    input ∈ inputsOf playerID arrived ↔ (playerID, input) ∈ arrived := by
  simp [inputsOf]

/-- Inputs between two ticks go to the seats of their players, and each seat sees its own only. -/
theorem Room.run_submissions {r : Room} (hne : r.seats.a.player.id ≠ r.seats.b.player.id)
    (arrived : List (String × Input)) : r.run (submissions arrived) = { r with
      seats := Pair.ofFn fun i => (inputsOf (r.seats.get i).player.id arrived).foldl Seat.submitInput
        (r.seats.get i) } := by
  induction arrived using List.reverseRecOn with
  | nil => rfl
  | append_singleton arrived sent ih =>
      have hids := r.run_id (submissions arrived)
      have hne' := Room.run_distinct hne (submissions arrived)
      have hsplit : ∀ i, inputsOf (r.seats.get i).player.id (arrived ++ [sent]) =
          inputsOf (r.seats.get i).player.id arrived ++
            if sent.1 = (r.seats.get i).player.id then [sent.2] else [] := by
        intro i
        rw [inputsOf, inputsOf, List.filter_append, List.map_append]
        congr 1
        by_cases hid : sent.1 = (r.seats.get i).player.id
        · simp [hid]
        · simp [hid]
      have hlast : (r.run (submissions (arrived ++ [sent]))) =
          ((r.run (submissions arrived)).submitInput sent.1 sent.2).1 := by
        rw [submissions, List.map_append, List.map_singleton, run_concat]
        rfl
      rw [hlast]
      by_cases hknown : ∃ i, (r.seats.get i).player.id = sent.1
      · obtain ⟨index, hindex⟩ := hknown
        rw [submitInput_of_ok sent.2 (playerIndex_of_id hne' ((hids index).trans hindex)), ih]
        let seats : Pair Seat := Pair.ofFn fun i =>
          (inputsOf (r.seats.get i).player.id arrived).foldl Seat.submitInput (r.seats.get i)
        have hseats : seats.set index ((seats.get index).submitInput sent.2) = Pair.ofFn fun i =>
            (inputsOf (r.seats.get i).player.id (arrived ++ [sent])).foldl Seat.submitInput
              (r.seats.get i) := by
          apply Pair.ext_get
          intro i
          rw [Pair.get_set, Pair.get_ofFn, Pair.get_ofFn, Pair.get_ofFn, hsplit]
          by_cases hi : i = index
          · subst i
            rw [if_pos rfl, if_pos hindex.symm, List.foldl_append]
            rfl
          · have hother : sent.1 ≠ (r.seats.get i).player.id := by
              rw [← hindex, Side.eq_other_of_ne hi]
              cases index
              · exact hne
              · exact hne.symm
            rw [if_neg hi, if_neg hother, List.append_nil]
        rw [← hseats]
      · have hunknown : ∀ i, ((r.run (submissions arrived)).seats.get i).player.id ≠ sent.1 := by
          intro i hid
          exact hknown ⟨i, (hids i).symm.trans hid⟩
        rw [submitInput_of_error sent.2 (playerIndex_unknown hunknown), ih]
        have hsame : ∀ i, inputsOf (r.seats.get i).player.id (arrived ++ [sent]) =
            inputsOf (r.seats.get i).player.id arrived := by
          intro i
          have hother : sent.1 ≠ (r.seats.get i).player.id :=
            fun hid => hknown ⟨i, hid.symm⟩
          rw [hsplit, if_neg hother, List.append_nil]
        simp only [hsame]

/-- Between two ticks neither the order in which the inputs arrive nor how often each of them arrives
makes a difference, when the window of ticks above the newest of them does not wrap. -/
theorem arrival_order_irrelevant {playerA playerB : String} {rules : Ruleset} {r₀ : Room}
    (hnew : newWithRuleset playerA playerB rules = .ok r₀) (events : List Event)
    {arrived arrived' : List (String × Input)} (hsame : ∀ sent, sent ∈ arrived ↔ sent ∈ arrived')
    (hmergeable : ∀ i, ((r₀.run events).seats.get i).Mergeable
      (inputsOf ((r₀.run events).seats.get i).player.id arrived))
    (hnewest : ∀ i, ∀ input ∈ inputsOf ((r₀.run events).seats.get i).player.id arrived,
      input.tick.toNat + maxInputTickAdvance.toNat < 2 ^ 32) :
    (r₀.run events).run (submissions arrived) = (r₀.run events).run (submissions arrived') := by
  obtain ⟨-, -, hne, -, rfl⟩ := newWithRuleset_ok hnew
  have hsafe := (initialRoom_commandSafe playerA playerB rules).run events
  have hdistinct := Room.run_distinct (r := initialRoom playerA playerB rules) hne events
  generalize (initialRoom playerA playerB rules).run events = r at *
  have hsame' : ∀ i input, input ∈ inputsOf (r.seats.get i).player.id arrived ↔
      input ∈ inputsOf (r.seats.get i).player.id arrived' := by
    intro i input
    rw [mem_inputsOf, mem_inputsOf, hsame]
  have hseat : ∀ i, (inputsOf (r.seats.get i).player.id arrived).foldl Seat.submitInput
      (r.seats.get i) = (inputsOf (r.seats.get i).player.id arrived').foldl Seat.submitInput
        (r.seats.get i) := by
    intro i
    have h := hmergeable i
    rw [Seat.foldl_submitInput_eq (hsafe i).held h.unwrapped h.inWindow h.fewActions (hnewest i),
      Seat.foldl_submitInput_eq (hsafe i).held h.unwrapped
        (fun input hinput => h.inWindow input ((hsame' i input).2 hinput))
        (fun input hinput => h.fewActions input ((hsame' i input).2 hinput))
        (fun input hinput => hnewest i input ((hsame' i input).2 hinput))]
    exact Seat.merge_congr (hsafe i) (hsame' i) h
  rw [Room.run_submissions hdistinct, Room.run_submissions hdistinct]
  simp only [hseat]

/-- A lost first command, a later input and the first one again, in the other order. -/
theorem arrival_order_irrelevant_lost :
    let r₀ := initialRoom "alice" "bob" defaultRuleset
    let first : String × Input := ("alice", ⟨1, 1, 0, [⟨1, .dash⟩]⟩)
    let second : String × Input := ("alice", ⟨2, 0, 1, [⟨1, .dash⟩, ⟨2, .lightAttack⟩]⟩)
    (r₀.run []).run (submissions [second, first, second]) =
      (r₀.run []).run (submissions [first, second]) := by
  have hnew : newWithRuleset "alice" "bob" defaultRuleset =
      .ok (initialRoom "alice" "bob" defaultRuleset) :=
    newWithRuleset_of_accepted (by decide) (by decide) (by decide) defaultRuleset_accepted
  refine arrival_order_irrelevant hnew [] (fun sent => ?_) (fun i => ?_) (fun i => ?_)
  · simp only [List.mem_cons, List.not_mem_nil, or_false]
    tauto
  · cases i <;> constructor <;> decide
  · cases i <;> decide

/-! ### The end of the ticks -/

/-- Inputs of "alice" up to the tick `120 * n + 56`, each at the end of the window before it. -/
def climb (n : Nat) : List Event :=
  (List.range (n + 1)).map fun j => .submitInput "alice" ⟨UInt32.ofNat (120 * j + 56), 0, 0, []⟩

def climbed (n : Nat) : Seat :=
  (newSeat "alice" defaultRuleset.arena.spawnAX defaultRuleset.arena.spawnAY defaultRuleset.initialHP
    1).hold ⟨UInt32.ofNat (120 * n + 56), 0, 0, []⟩

theorem submitInput_climbed {n : Nat} (hn : 120 * (n + 1) + 56 < 2 ^ 32) :
    (climbed n).submitInput ⟨UInt32.ofNat (120 * (n + 1) + 56), 0, 0, []⟩ = climbed (n + 1) := by
  have hold : (climbed n).lastInputTick.toNat = 120 * n + 56 :=
    UInt32.toNat_ofNat_of_lt' (by change _ < 2 ^ 32; omega)
  have hnew : (UInt32.ofNat (120 * (n + 1) + 56)).toNat = 120 * (n + 1) + 56 :=
    UInt32.toNat_ofNat_of_lt' hn
  have hadvance : maxInputTickAdvance.toNat = 120 := rfl
  have hwindow : ((climbed n).lastInputTick + maxInputTickAdvance).toNat = 120 * n + 56 + 120 := by
    rw [FixedWidth.uint32_toNat_add (by omega), hold, hadvance]
  have haccepted : ¬ (UInt32.ofNat (120 * (n + 1) + 56) = 0 ∨
      UInt32.ofNat (120 * (n + 1) + 56) > (climbed n).lastInputTick + maxInputTickAdvance) := by
    rintro (hzero | hahead)
    · rw [hzero, UInt32.toNat_zero] at hnew
      omega
    · rw [gt_iff_lt, UInt32.lt_iff_toNat_lt] at hahead
      omega
  have hnewer : UInt32.ofNat (120 * (n + 1) + 56) > (climbed n).lastInputTick := by
    rw [gt_iff_lt, UInt32.lt_iff_toNat_lt]
    omega
  rw [Seat.submitInput, if_neg haccepted, Seat.holdInput, if_pos hnewer]
  rfl

theorem run_climb {n : Nat} (hn : 120 * n + 56 < 2 ^ 32) :
    (initialRoom "alice" "bob" defaultRuleset).run (climb n) =
      { initialRoom "alice" "bob" defaultRuleset with
        seats := (initialRoom "alice" "bob" defaultRuleset).seats.set .a (climbed n) } := by
  induction n with
  | zero => decide +kernel
  | succ n ih =>
      have hclimb : climb (n + 1) = climb n ++
          [.submitInput "alice" ⟨UInt32.ofNat (120 * (n + 1) + 56), 0, 0, []⟩] := by
        rw [climb, List.range_succ, List.map_append]
        rfl
      rw [hclimb, Room.run_concat, ih (by omega), Room.apply, Room.submitInput_of_ok _ rfl]
      change ({ initialRoom "alice" "bob" defaultRuleset with
        seats := Pair.set _ .a ((climbed n).submitInput _) } : Room) = _
      rw [submitInput_climbed hn]
      rfl

/-- Near the end of the ticks the order makes a difference: the newest input wraps the window, and an
older one that comes after it is refused with its commands. -/
theorem arrival_order_matters_at_the_end :
    let r₀ := initialRoom "alice" "bob" defaultRuleset
    let newest : String × Input := ("alice", ⟨4294967196, 0, 0, []⟩)
    let older : String × Input := ("alice", ⟨4294967146, 0, 0, [⟨1, .dash⟩]⟩)
    newWithRuleset "alice" "bob" defaultRuleset = .ok r₀ ∧
      (∀ i, ((r₀.run (climb 35791392)).seats.get i).Mergeable
        (inputsOf ((r₀.run (climb 35791392)).seats.get i).player.id [newest, older])) ∧
      (r₀.run (climb 35791392)).run (submissions [newest, older]) ≠
        (r₀.run (climb 35791392)).run (submissions [older, newest]) := by
  intro r₀ newest older
  have hclimb : r₀.run (climb 35791392) = { r₀ with seats := r₀.seats.set .a (climbed 35791392) } :=
    run_climb (by decide)
  rw [hclimb]
  refine ⟨newWithRuleset_of_accepted (by decide) (by decide) (by decide) defaultRuleset_accepted, ?_,
    by decide +kernel⟩
  intro i
  cases i <;> constructor <;> decide +kernel

end PvpDuel.Simulation
