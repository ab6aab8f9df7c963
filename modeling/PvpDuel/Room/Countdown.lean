import PvpDuel.Room.Lifecycle
import PvpDuel.Room.Stamp

/-!
# What the countdown leaves behind

The inputs of a countdown leave nothing but a stamp on each seat, once the activation has cleared the
held movement and the queue. Two runs whose rooms are stamps of one another stay so under the same calls:
the two numbers that guard `SubmitInput` are those of the activation until the first input, or the first
command, that both accept, and the same in both runs from then on.
-/

namespace PvpDuel.Simulation

theorem Room.Lifecycle.run_status_ne_countdown {r : Room} {n : Nat} (h : r.Lifecycle n)
    (hstatus : r.status ≠ .countdown) (events : List Event) :
    (r.run events).status ≠ .countdown := by
  induction events using List.reverseRecOn with
  | nil => exact hstatus
  | append_singleton events event ih =>
      rw [Room.run_concat]
      cases event with
      | submitInput playerID input => rwa [Room.apply, Room.submitInput_status]
      | step => exact fun hcountdown => ih ((h.run events).countdown_of_step hcountdown)

/-! ### Two runs -/

/-- The inputs of a player: the commands of all of them are open to the seat as it is at the start, and
the first of them comes next on it. -/
def Seat.Fresh (s : Seat) (events : List Event) : Prop :=
  ∀ before input after, events = before ++ .submitInput s.player.id input :: after →
    (∀ command ∈ input.actions, Admits s.player.lastAckedActionSequence command) ∧
    ((∀ earlier, .submitInput s.player.id earlier ∉ before) → s.IsNext input)

theorem Seat.fresh_of_single {s : Seat} {playerID : String} {input : Input} {rest : List Event}
    (hrest : ∀ event ∈ rest, event = .step) (h : s.player.id = playerID →
      (∀ command ∈ input.actions, Admits s.player.lastAckedActionSequence command) ∧
        s.IsNext input) : s.Fresh (.submitInput playerID input :: rest) := by
  intro before other after hevents
  cases before with
  | nil =>
      obtain ⟨hhead, -⟩ := List.cons.inj hevents
      obtain ⟨rfl, rfl⟩ := Event.submitInput.inj hhead
      exact ⟨(h rfl).1, fun _ => (h rfl).2⟩
  | cons event before =>
      obtain ⟨-, htail⟩ := List.cons.inj hevents
      have hstep := hrest (.submitInput s.player.id other) (by rw [htail]; simp)
      cases hstep

/-- A seat and its stamp in another run: they agree on the two numbers that guard `SubmitInput`, or
still have those they started with. -/
structure Seat.AlikeFrom (first second : Seat) (before : List Event) (s : Seat) (t : Stamp) :
    Prop where
  tick : t.lastInputTick = s.lastInputTick ∨
    (∀ earlier, .submitInput first.player.id earlier ∉ before) ∧
      s.lastInputTick = first.lastInputTick ∧ t.lastInputTick = second.lastInputTick
  sequence : t.ackedSequence = s.player.lastAckedActionSequence ∨
    s.player.lastAckedActionSequence = first.player.lastAckedActionSequence ∧
      t.ackedSequence = second.player.lastAckedActionSequence

section

variable {first second s : Seat} {before : List Event} {t : Stamp} {input : Input}

theorem Seat.AlikeFrom.concat (h : first.AlikeFrom second before s t) {event : Event}
    (hother : ∀ earlier, event ≠ .submitInput first.player.id earlier) :
    first.AlikeFrom second (before ++ [event]) s t := by
  refine ⟨h.tick.imp_right ?_, h.sequence⟩
  rintro ⟨hsilent, hsame⟩
  refine ⟨fun earlier hearlier => ?_, hsame⟩
  rcases List.mem_append.1 hearlier with hin | hin
  · exact hsilent earlier hin
  · exact hother earlier (List.mem_singleton.1 hin).symm

/-- A fresh input finds the same window in both runs, or comes next in both. -/
theorem Seat.AlikeFrom.isNext (h : first.AlikeFrom second before s t)
    (hnext : (∀ earlier, .submitInput first.player.id earlier ∉ before) → first.IsNext input)
    (hnext' : (∀ earlier, .submitInput first.player.id earlier ∉ before) → second.IsNext input) :
    t.lastInputTick = s.lastInputTick ∨ s.IsNext input ∧ (s.stamp t).IsNext input := by
  refine h.tick.imp_right ?_
  rintro ⟨hsilent, hsame, hsame'⟩
  have hstamped : (s.stamp t).lastInputTick = second.lastInputTick := hsame'
  rw [IsNext, IsNext, hsame, hstamped]
  exact ⟨hnext hsilent, hnext' hsilent⟩

theorem Seat.AlikeFrom.admits (h : first.AlikeFrom second before s t)
    (hopen : ∀ command ∈ input.actions, Admits first.player.lastAckedActionSequence command)
    (hopen' : ∀ command ∈ input.actions, Admits second.player.lastAckedActionSequence command) :
    t.ackedSequence = s.player.lastAckedActionSequence ∨
      ∀ command ∈ input.actions,
        Admits s.player.lastAckedActionSequence command ∧ Admits t.ackedSequence command := by
  refine h.sequence.imp_right ?_
  rintro ⟨hsame, hsame'⟩
  rw [hsame, hsame']
  exact fun command hcommand => ⟨hopen command hcommand, hopen' command hcommand⟩

end

namespace Room

/-- Two rooms that started as stamps of one another still are, after the same calls. -/
def Alike (first second : Room) (before : List Event) : Prop :=
  ∃ t : Side → Stamp, second.run before = (first.run before).stamp t ∧
    ∀ i, (first.seats.get i).AlikeFrom (second.seats.get i) before
      ((first.run before).seats.get i) (t i)

section

variable {first second : Room} {before : List Event}

theorem Alike.step (h : Alike first second before)
    (hcountdown : (first.run before).status ≠ .countdown) :
    Alike first second (before ++ [.step]) := by
  obtain ⟨t, hstamp, halike⟩ := h
  refine ⟨(first.run before).stepStamp t, ?_, fun i => ?_⟩
  · rw [run_concat, run_concat, hstamp]
    exact step_stamp t (first.run before) hcountdown
  have hother : ∀ earlier, Event.step ≠ .submitInput (first.seats.get i).player.id earlier := by simp
  obtain ⟨htick, hsequence⟩ := (halike i).concat hother
  rw [run_concat]
  change Seat.AlikeFrom _ _ _ ((first.run before).step.seats.get i) _
  refine ⟨?_, ?_⟩
  · rw [stepStamp_lastInputTick, step_lastInputTick]
    exact htick
  · rcases (first.run before).stepStamp_ackedSequence t hcountdown i with heq | ⟨hkept, hkept'⟩
    · exact .inl heq
    · rw [hkept, hkept']
      exact hsequence

theorem Alike.submitInput (h : Alike first second before)
    (hdistinct : first.seats.a.player.id ≠ first.seats.b.player.id)
    (hid : ∀ i, (second.seats.get i).player.id = (first.seats.get i).player.id)
    {events after : List Event} {playerID : String} {input : Input}
    (hevents : events = before ++ .submitInput playerID input :: after)
    (hfresh : ∀ i, (first.seats.get i).Fresh events) (hfresh' : ∀ i, (second.seats.get i).Fresh events) :
    Alike first second (before ++ [.submitInput playerID input]) := by
  obtain ⟨t, hstamp, halike⟩ := h
  have hids : ∀ i, ((first.run before).seats.get i).player.id = (first.seats.get i).player.id :=
    run_id first before
  have hother : ∀ i, (first.seats.get i).player.id ≠ playerID →
      (first.seats.get i).AlikeFrom (second.seats.get i) (before ++ [.submitInput playerID input])
        ((first.run before).seats.get i) (t i) :=
    fun i hi => (halike i).concat fun earlier heq => hi (Event.submitInput.inj heq).1.symm
  cases hindex : (first.run before).playerIndex playerID with
  | error err =>
      refine ⟨t, ?_, fun i => ?_⟩
      · rw [run_concat, run_concat, hstamp]
        exact submitInput_stamp_of_error t (first.run before) input hindex
      · have hsame : ((first.run before).submitInput playerID input).1 = first.run before := by
          rw [submitInput_of_error input hindex]
        rw [run_concat]
        change Seat.AlikeFrom _ _ _
          (((first.run before).submitInput playerID input).1.seats.get i) _
        rw [hsame]
        refine hother i fun hi => ?_
        have hfound := playerIndex_of_id (run_distinct hdistinct before) ((hids i).trans hi)
        rw [hindex] at hfound
        cases hfound
  | ok index =>
      have hnamed : (first.seats.get index).player.id = playerID :=
        (hids index).symm.trans (playerIndex_ok hindex)
      obtain ⟨hopen, hnext⟩ := hfresh index before input after (by rw [hnamed]; exact hevents)
      obtain ⟨hopen', hnext'⟩ :=
        hfresh' index before input after (by rw [hid, hnamed]; exact hevents)
      rw [hid] at hnext'
      obtain ⟨t', hseat, hlast, hacked⟩ := Seat.submitInput_stamp
        ((halike index).isNext hnext hnext') ((halike index).admits hopen hopen')
      refine ⟨Function.update t index t', ?_, fun i => ?_⟩
      · rw [run_concat, run_concat, hstamp]
        exact submitInput_stamp_of_ok t (first.run before) hindex hseat
      rw [run_concat]
      change Seat.AlikeFrom _ _ _ (((first.run before).submitInput playerID input).1.seats.get i) _
      rw [submitInput_of_ok input hindex, Pair.get_set]
      by_cases hi : i = index
      · subst hi
        rw [if_pos rfl, Function.update_self]
        refine ⟨.inl hlast, ?_⟩
        rw [hacked, Seat.submitInput_player]
        exact (halike i).sequence
      · rw [if_neg hi, Function.update_of_ne hi]
        refine hother i fun heq => ?_
        have hsame : (first.seats.get i).player.id = (first.seats.get index).player.id :=
          heq.trans hnamed.symm
        cases i <;> cases index <;> simp_all

/-- The two runs stay alike under the same calls, whose inputs are fresh to both. -/
theorem alike_run {n : Nat} (hlife : first.Lifecycle n) (hactive : first.status ≠ .countdown)
    (hstart : Alike first second [])
    (hdistinct : first.seats.a.player.id ≠ first.seats.b.player.id)
    (hid : ∀ i, (second.seats.get i).player.id = (first.seats.get i).player.id)
    {events after : List Event} (hevents : events = before ++ after)
    (hfresh : ∀ i, (first.seats.get i).Fresh events)
    (hfresh' : ∀ i, (second.seats.get i).Fresh events) : Alike first second before := by
  induction before using List.reverseRecOn generalizing after with
  | nil => exact hstart
  | append_singleton before event ih =>
      have halike := ih (hevents.trans (List.append_assoc before [event] after))
      cases event with
      | step => exact halike.step (hlife.run_status_ne_countdown hactive before)
      | submitInput playerID input =>
          exact halike.submitInput hdistinct hid
            (hevents.trans (List.append_assoc before [.submitInput playerID input] after)) hfresh
            hfresh'

end

end Room

/-! ### The countdown -/

def Seat.dormant (s : Seat) : Seat :=
  { s.stamp ⟨0, 0, 0, 0⟩ with
    input := { tick := 0, moveX := 0, moveY := 0, actions := [] }
    pendingActions := [] }

theorem Seat.submitInput_dormant (s : Seat) (input : Input) :
    (s.submitInput input).dormant = s.dormant := by
  rcases s.submitInput_cases input with heq | ⟨_, heq⟩ | ⟨_, -, heq⟩ <;> rw [heq] <;> rfl

namespace Room

def dormant (r : Room) : Room := { r with tick := 0, seats := r.seats.map Seat.dormant }

theorem submitInput_dormant (r : Room) (playerID : String) (input : Input) :
    (r.submitInput playerID input).1.dormant = r.dormant := by
  rcases r.submitInput_cases playerID input with heq | ⟨index, -, heq⟩
  · rw [heq]
  · have hseats : (r.seats.set index ((r.seats.get index).submitInput input)).map Seat.dormant =
        r.seats.map Seat.dormant := by
      apply Pair.ext_get
      intro i
      rw [Pair.get_map, Pair.get_map, Pair.get_set]
      by_cases hi : i = index
      · rw [if_pos hi, Seat.submitInput_dormant, hi]
      · rw [if_neg hi]
    rw [heq, dormant, dormant, hseats]

/-- While the countdown lasts, only the tick and the traces of the inputs change. -/
theorem run_dormant {r : Room} {n : Nat} (h : r.Lifecycle n) {events : List Event}
    (hs : (r.run events).status = .countdown) : (r.run events).dormant = r.dormant := by
  induction events using List.reverseRecOn with
  | nil => rfl
  | append_singleton events event ih =>
      rw [run_concat] at hs ⊢
      cases event with
      | submitInput playerID input =>
          rw [apply, submitInput_status] at hs
          exact (submitInput_dormant _ playerID input).trans (ih hs)
      | step =>
          have hbefore := (h.run events).countdown_of_step hs
          rw [← ih hbefore]
          change (r.run events).step.status = .countdown at hs
          change (r.run events).step.dormant = (r.run events).dormant
          by_cases hlast : (r.run events).tick + 1 < (r.run events).rules.countdownTicks
          · have hseats : ((r.run events).seats.map Seat.acknowledgeRejectedActions).map Seat.dormant =
                (r.run events).seats.map Seat.dormant := by
              apply Pair.ext_get
              intro i
              rw [Pair.get_map, Pair.get_map, Pair.get_map, Seat.acknowledgeRejectedActions_eq]
              rfl
            rw [step_of_counting hbefore hlast, dormant, dormant, hseats]
          · rw [step_of_activating hbefore (UInt32.not_lt.1 hlast)] at hs
            cases hs

def opened (r : Room) (tick : UInt32) : Room :=
  { r with tick, status := .active, seats := r.seats.map (Seat.activate tick) }

/-- The step that ends the countdown leaves nothing of its inputs but a stamp. -/
theorem step_of_opening {r : Room} (hs : r.status = .countdown) (hactive : r.step.status = .active) :
    r.step = (r.dormant.opened (r.tick + 1)).stamp fun i => (r.step.seats.get i).stampOf := by
  have hlast : r.rules.countdownTicks ≤ r.tick + 1 := by
    by_contra hmore
    rw [step_of_counting hs (UInt32.not_le.1 hmore)] at hactive
    rw [hs] at hactive
    cases hactive
  have hstep := step_of_activating hs hlast
  have hseats : r.step.seats = Pair.ofFn fun i =>
      ((r.dormant.opened (r.tick + 1)).seats.get i).stamp (r.step.seats.get i).stampOf := by
    apply Pair.ext_get
    intro i
    rw [hstep, Pair.get_ofFn, Pair.get_map, Seat.acknowledgeRejectedActions_eq, opened, Pair.get_map,
      dormant, Pair.get_map]
    rfl
  rw [stamp, ← hseats, hstep]
  rfl

theorem Lifecycle.tick_of_opening {r : Room} {n : Nat} (h : r.Lifecycle n)
    (hs : r.status = .countdown) (hactive : r.step.status = .active) :
    r.tick.toNat + 1 = r.rules.countdownTicks.toNat := by
  obtain ⟨hn, htick, -⟩ := h.countdown hs
  obtain ⟨hcount, -⟩ := h.step.active hactive
  rw [step_rules] at hcount
  omega

/-- Rooms that differ in the traces of their inputs only open on stamps of one another. -/
theorem alike_of_opening {r r' : Room} (hs : r.status = .countdown) (hactive : r.step.status = .active)
    (hs' : r'.status = .countdown) (hactive' : r'.step.status = .active)
    (hdormant : r'.dormant = r.dormant) (htick : r'.tick = r.tick) : Alike r.step r'.step [] := by
  refine ⟨fun i => (r'.step.seats.get i).stampOf, ?_, fun i => ⟨?_, ?_⟩⟩
  · have hopened := step_of_opening hs hactive
    have hopened' := step_of_opening hs' hactive'
    rw [hdormant, htick] at hopened'
    rw [run_nil, run_nil, hopened', hopened]
    simp [stamp]
  · exact .inr ⟨fun _ => List.not_mem_nil, rfl, rfl⟩
  · exact .inr ⟨rfl, rfl⟩

end Room

/-- A snapshot without the acknowledgements of the inputs. -/
def Snapshot.fight (view : Snapshot) : Snapshot :=
  { view with players := view.players.map (PlayerState.stamp ⟨0, 0, 0, 0⟩) }

theorem Room.fight_stamp (t : Side → Stamp) (r : Room) :
    (r.stamp t).snapshot.fight = r.snapshot.fight := by
  have hplayers : (r.stamp t).snapshot.players.map (PlayerState.stamp ⟨0, 0, 0, 0⟩) =
      r.snapshot.players.map (PlayerState.stamp ⟨0, 0, 0, 0⟩) := by
    apply Pair.ext_get
    intro i
    rw [Pair.get_map, Pair.get_map, Room.snapshot, Room.snapshot, Pair.get_map, Pair.get_map,
      Room.stamp_seat]
    rfl
  rw [Snapshot.fight, Snapshot.fight, hplayers]
  rfl

/-- Two countdowns of one match, whatever inputs they had, are followed by the same fight, when the
inputs after them are the same and fresh to both: no snapshot differs in anything but in what it
acknowledges. -/
theorem countdown_leaves_no_trace {playerA playerB : String} {rules : Ruleset} {r₀ : Room}
    (hnew : newWithRuleset playerA playerB rules = .ok r₀) {opening opening' : List Event}
    (hcountdown : (r₀.run opening).status = .countdown)
    (hopened : (r₀.run (opening ++ [.step])).status = .active)
    (hcountdown' : (r₀.run opening').status = .countdown)
    (hopened' : (r₀.run (opening' ++ [.step])).status = .active) {events before after : List Event}
    (hfresh : ∀ i, ((r₀.run (opening ++ [.step])).seats.get i).Fresh events)
    (hfresh' : ∀ i, ((r₀.run (opening' ++ [.step])).seats.get i).Fresh events)
    (hevents : events = before ++ after) :
    (r₀.run (opening ++ [.step] ++ before)).snapshot.fight =
      (r₀.run (opening' ++ [.step] ++ before)).snapshot.fight := by
  obtain ⟨-, -, hne, hrules, rfl⟩ := newWithRuleset_ok hnew
  have hlife := Room.initialRoom_lifecycle playerA playerB hrules
  have hids := Room.run_id (initialRoom playerA playerB rules)
  have hdistinct : (initialRoom playerA playerB rules).seats.a.player.id ≠
      (initialRoom playerA playerB rules).seats.b.player.id := hne
  generalize initialRoom playerA playerB rules = r₀ at *
  have hactive : (r₀.run opening).step.status = .active := by rwa [Room.run_concat] at hopened
  have hactive' : (r₀.run opening').step.status = .active := by rwa [Room.run_concat] at hopened'
  have htick : (r₀.run opening').tick = (r₀.run opening).tick := by
    have hlast := (hlife.run opening).tick_of_opening hcountdown hactive
    have hlast' := (hlife.run opening').tick_of_opening hcountdown' hactive'
    rw [Room.run_rules] at hlast hlast'
    exact UInt32.toNat_inj.1 (Nat.succ.inj (hlast'.trans hlast.symm))
  have hstart : Room.Alike (r₀.run (opening ++ [.step])) (r₀.run (opening' ++ [.step])) [] := by
    rw [Room.run_concat, Room.run_concat]
    refine Room.alike_of_opening hcountdown hactive hcountdown' hactive' ?_ htick
    rw [Room.run_dormant hlife hcountdown', Room.run_dormant hlife hcountdown]
  obtain ⟨t, hstamp, -⟩ := Room.alike_run (hlife.run (opening ++ [.step]))
    (by rw [hopened]; decide) hstart (Room.run_distinct hdistinct (opening ++ [.step]))
    (fun i => by rw [hids, hids]) hevents hfresh hfresh'
  rw [Room.run_append _ _ before, Room.run_append _ _ before, hstamp, Room.fight_stamp]

def steadyRules : Ruleset := { defaultRuleset with countdownTicks := 2, matchDurationTicks := 9 }

/-- A player runs and asks for a dash while the countdown lasts. -/
def eagerOpening : List Event :=
  [.submitInput "alice" { tick := 4, moveX := 1, moveY := 0, actions := [⟨1, .dash⟩] }, .step,
    .submitInput "alice" { tick := 5, moveX := 1, moveY := 0, actions := [⟨2, .dash⟩] }]

def steadyEvents : List Event :=
  [.submitInput "alice" { tick := 6, moveX := -1, moveY := 0, actions := [⟨3, .lightAttack⟩] }, .step]

theorem countdown_leaves_no_trace_eager :
    let r₀ := initialRoom "alice" "bob" steadyRules
    ((r₀.run eagerOpening).seats.get .a).lastInputTick = 5 ∧
      (r₀.run (eagerOpening ++ [.step] ++ steadyEvents)).snapshot.fight =
        (r₀.run ([.step] ++ [.step] ++ steadyEvents)).snapshot.fight := by
  have hnew : newWithRuleset "alice" "bob" steadyRules =
      .ok (initialRoom "alice" "bob" steadyRules) :=
    newWithRuleset_of_accepted (by decide) (by decide) (by decide) (by decide)
  have hfresh : ∀ s : Seat, (s.player.id = "alice" → s.IsNext
        { tick := 6, moveX := -1, moveY := 0, actions := [⟨3, .lightAttack⟩] } ∧
      Seat.Admits s.player.lastAckedActionSequence ⟨3, .lightAttack⟩) → s.Fresh steadyEvents := by
    intro s hopen
    refine Seat.fresh_of_single (by simp) fun hid => ⟨?_, (hopen hid).1⟩
    simpa using (hopen hid).2
  refine ⟨by decide +kernel, ?_⟩
  refine countdown_leaves_no_trace hnew (by decide +kernel) (by decide +kernel) (by decide +kernel)
    (by decide +kernel) (fun i => hfresh _ ?_) (fun i => hfresh _ ?_)
    (List.append_nil steadyEvents).symm
  · cases i <;> decide +kernel
  · cases i <;> decide +kernel

end PvpDuel.Simulation
