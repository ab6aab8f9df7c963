import PvpDuel.Client.Presentation
import PvpDuel.Delivery.Reconciliation
import PvpDuel.Lib.Sampling
import PvpDuel.Room.Starts

/-!
# What is drawn is what happened

The presentation sees a match by samples, as many as the network lets through. The events it tells of
a player are the reports on consecutive samples of him, and each report is settled by what the room
can do between two steps: hit points only fall, and a new timeline is an action begun since.
-/

namespace PvpDuel.Delivery

open Client (AnimationState MatchPresentation ObservedPlayer PlayerPresentation PresentationCall
  PresentationEvent PresentationEventType Screen fedSnapshots)
open Gamev1 (PlayerState WorldSnapshot)
open MatchServer (actionStateToProto playerToProto snapshotToProto)
open Sampling (reports)
open Simulation (ActionType Event Room Ruleset initialRoom newWithRuleset stepCount)

/-! ### One player on the screen -/

def eventsAbout (id : String) (events : List PresentationEvent) : List PresentationEvent :=
  events.filter fun event => event.playerId = id

@[simp] theorem eventsAbout_append (id : String) (events events' : List PresentationEvent) :
    eventsAbout id (events ++ events') = eventsAbout id events ++ eventsAbout id events' :=
  List.filter_append ..

theorem eventsAbout_newEvents {id : String} (previous : ObservedPlayer) (player : PlayerState) :
    eventsAbout id (previous.newEvents player) =
      if player.playerID = id then previous.newEvents player else [] := by
  unfold eventsAbout ObservedPlayer.newEvents
  split_ifs <;> simp_all

structure AgreeOn (id : String) (m m' : MatchPresentation) : Prop where
  views : m.views id = m'.views id
  observed : m.observed id = m'.observed id
  events : eventsAbout id m.events = eventsAbout id m'.events

namespace AgreeOn

variable {id : String} {m m' : MatchPresentation} {serverTick : UInt32} {player : PlayerState}

theorem applyPlayer_of_ne (h : AgreeOn id m m') (hne : player.playerID ≠ id) :
    AgreeOn id (m.applyPlayer serverTick player) m' where
  views := (m.applyPlayer_views_of_ne serverTick hne).trans h.views
  observed := (m.applyPlayer_observed_of_ne serverTick hne).trans h.observed
  events := by
    rw [← h.events, MatchPresentation.applyPlayer_events, eventsAbout_append]
    cases m.observed player.playerID with
    | none => exact List.append_nil _
    | some previous => simp [eventsAbout_newEvents, hne]

theorem applyPlayer (h : AgreeOn id m m') (hid : player.playerID = id) :
    AgreeOn id (m.applyPlayer serverTick player) (m'.applyPlayer serverTick player) := by
  subst hid
  have hview : m.viewAfter serverTick player = m'.viewAfter serverTick player := by
    rw [MatchPresentation.viewAfter, MatchPresentation.viewAfter, h.views, h.observed]
  refine ⟨?_, ?_, ?_⟩
  · simp [hview]
  · simp
  · simp [h.events, h.observed]

theorem applyPlayers (h : AgreeOn id m m') (players : List PlayerState) :
    AgreeOn id (players.foldl (MatchPresentation.applyPlayer serverTick) m)
      ((players.filter fun player => player.playerID = id).foldl
        (MatchPresentation.applyPlayer serverTick) m') := by
  induction players generalizing m m' with
  | nil => exact h
  | cons player players ih =>
      rw [List.foldl_cons, List.filter_cons]
      by_cases hid : player.playerID = id
      · rw [if_pos (decide_eq_true hid), List.foldl_cons]
        exact ih (h.applyPlayer hid)
      · rw [if_neg (by simpa using hid)]
        exact ih (h.applyPlayer_of_ne hid)

end AgreeOn

theorem entry_playerID {id : String} {players : List PlayerState} {me : PlayerState}
    (hentry : Entry id players me) : me.playerID = id := by
  have hmem : me ∈ players.filter fun player => player.playerID = id := by
    rw [show (players.filter fun player => player.playerID = id) = [me] from hentry]
    exact List.mem_singleton_self me
  exact of_decide_eq_true (List.mem_filter.1 hmem).2

/-- A snapshot with one entry of a player does to him what the loop body does with this entry. -/
theorem applySnapshot_agrees {id : String} {snapshot : WorldSnapshot} {me : PlayerState}
    (hentry : Entry id snapshot.players me) (m : MatchPresentation) :
    AgreeOn id (m.applySnapshot snapshot) (m.applyPlayer snapshot.serverTick me) := by
  have hagree : AgreeOn id m m := ⟨rfl, rfl, rfl⟩
  have hplayers : AgreeOn id (m.applySnapshot snapshot)
      ((snapshot.players.filter fun player => player.playerID = id).foldl
        (MatchPresentation.applyPlayer snapshot.serverTick) m) :=
    hagree.applyPlayers snapshot.players
  rw [show (snapshot.players.filter fun player => player.playerID = id) = [me] from hentry]
    at hplayers
  exact hplayers

/-! ### A run of the screen -/

/-- What a view shows of a player's timeline. -/
def timeline (view : PlayerPresentation) : AnimationState × UInt32 × UInt32 :=
  (view.animation, view.actionElapsedTicks, view.actionTicksRemaining)

def timelineOf (snapshot : WorldSnapshot) (me : PlayerState) : AnimationState × UInt32 × UInt32 :=
  (Client.animationFromAuthoritative me.actionState, Client.actionElapsed snapshot.serverTick me,
    me.actionTicksRemaining)

theorem timeline_viewAfter (m : MatchPresentation) (snapshot : WorldSnapshot) (me : PlayerState) :
    timeline (m.viewAfter snapshot.serverTick me) = timelineOf snapshot me := by
  have hhit : ∀ (view : PlayerPresentation) (previous : ObservedPlayer),
      timeline (view.showHit previous me) = timeline view := by
    intro view previous
    rw [PlayerPresentation.showHit]
    split_ifs <;> rfl
  have hstart : ∀ (view : PlayerPresentation) (previous : ObservedPlayer),
      timeline (view.showStart previous me) = timeline view := by
    intro view previous
    rw [PlayerPresentation.showStart]
    split_ifs <;> rfl
  rw [MatchPresentation.viewAfter]
  cases m.observed me.playerID with
  | none => rfl
  | some previous =>
      rw [Option.elim_some, hstart, hhit]
      rfl

def told (before after : PlayerState) : List PresentationEvent :=
  (ObservedPlayer.ofPlayer before).newEvents after

section

variable {ι : Type} {id : String} {sent : ι → WorldSnapshot} {me : ι → PlayerState}
  {samples : List ι} {s : Screen}

/-- A screen that was shown these samples of a player. -/
structure Sampled (id : String) (sent : ι → WorldSnapshot) (me : ι → PlayerState)
    (samples : List ι) (s : Screen) : Prop where
  observed : s.presentation.observed id =
    samples.getLast?.map fun last => ObservedPlayer.ofPlayer (me last)
  events : eventsAbout id s.events =
    reports (fun before after => told (me before) (me after)) samples
  view : (s.presentation.viewFor id).map timeline =
    samples.getLast?.map fun last => timelineOf (sent last) (me last)

theorem Sampled.applySnapshot (h : Sampled id sent me samples s) {next : ι}
    (hentry : Entry id (sent next).players (me next)) :
    Sampled id sent me (samples ++ [next]) (s.call (.applySnapshot (sent next))) := by
  obtain ⟨hviews, hobserved, hevents⟩ := applySnapshot_agrees hentry s.presentation
  obtain rfl := entry_playerID hentry
  refine ⟨?_, ?_, ?_⟩
  · rw [List.getLast?_concat, Screen.call, hobserved, MatchPresentation.applyPlayer_observed_self]
    rfl
  · have htold : (s.presentation.observed (me next).playerID).elim [] (fun previous =>
        previous.newEvents (me next)) =
        samples.getLast?.elim [] fun last => told (me last) (me next) := by
      rw [h.observed]
      cases samples.getLast? with
      | none => rfl
      | some last => rfl
    have habout : eventsAbout (me next).playerID
        (samples.getLast?.elim [] fun last => told (me last) (me next)) =
        samples.getLast?.elim [] fun last => told (me last) (me next) := by
      cases samples.getLast? with
      | none => rfl
      | some last =>
          rw [Option.elim_some, told, eventsAbout_newEvents, if_pos rfl]
    rw [Sampling.reports_concat, ← h.events, Screen.call, Screen.events, Screen.events,
      eventsAbout_append, hevents, MatchPresentation.applyPlayer_events, eventsAbout_append, htold,
      habout, eventsAbout_append, List.append_assoc]
  · rw [List.getLast?_concat, Screen.call, MatchPresentation.viewFor, hviews,
      MatchPresentation.applyPlayer_views_self, Option.map_some, Option.map_some,
      timeline_viewAfter]

theorem Sampled.advance (h : Sampled id sent me samples s) (elapsedSeconds : Float32) :
    Sampled id sent me samples (s.call (.advance elapsedSeconds)) where
  observed := h.observed
  events := h.events
  view := by
    rw [← h.view, Screen.call, MatchPresentation.viewFor, MatchPresentation.advance,
      Option.map_map, MatchPresentation.viewFor]
    rfl

theorem Sampled.drainEvents (h : Sampled id sent me samples s) :
    Sampled id sent me samples (s.call .drainEvents) where
  observed := h.observed
  events := by
    rw [← h.events, Screen.call, Screen.events, MatchPresentation.drainEvents, List.append_nil]
    rfl
  view := h.view

/-- However its calls are interleaved, a screen has been shown the samples it was fed. -/
theorem sampled_play (m : MatchPresentation) {calls : List PresentationCall}
    (hfed : fedSnapshots calls = samples.map sent)
    (hentry : ∀ u ∈ samples, Entry id (sent u).players (me u)) :
    Sampled id sent me samples (Screen.play m calls) := by
  induction calls using List.reverseRecOn generalizing samples with
  | nil =>
      obtain rfl : samples = [] := List.map_eq_nil_iff.1 hfed.symm
      exact ⟨rfl, rfl, rfl⟩
  | append_singleton calls next ih =>
      rw [Client.fedSnapshots_concat] at hfed
      rw [Screen.play_concat]
      cases next with
      | advance elapsedSeconds =>
          rw [PresentationCall.fed, List.append_nil] at hfed
          exact (ih hfed hentry).advance elapsedSeconds
      | drainEvents =>
          rw [PresentationCall.fed, List.append_nil] at hfed
          exact (ih hfed hentry).drainEvents
      | applySnapshot snapshot =>
          obtain ⟨before, after, rfl, hbefore, hafter⟩ := List.map_eq_append_iff.1 hfed.symm
          obtain ⟨last, rfl, rfl⟩ := List.map_eq_singleton_iff.1 hafter
          have hsampled := ih hbefore.symm fun u hu => hentry u (List.mem_append_left _ hu)
          exact hsampled.applySnapshot (hentry last (by simp))

end

/-! ### The events of one type -/

/-- The events of one type about a player. -/
def eventsOf (id : String) (type : PresentationEventType) (events : List PresentationEvent) :
    List PresentationEvent := (eventsAbout id events).filter fun event => event.type = type

theorem Sampled.eventsOf {ι : Type} {id : String} {sent : ι → WorldSnapshot} {me : ι → PlayerState}
    {samples : List ι} {s : Screen} (h : Sampled id sent me samples s) (type : PresentationEventType) :
    eventsOf id type s.events = reports (fun before after =>
      (told (me before) (me after)).filter fun event => event.type = type) samples := by
  rw [Delivery.eventsOf, h.events, Sampling.filter_reports]

theorem sum_told_playerHit {before after : PlayerState} (hnonneg : 0 ≤ after.hp.toInt)
    (hle : after.hp.toInt ≤ before.hp.toInt) :
    (((told before after).filter fun event => event.type = .playerHit).map
      fun event => event.damage.toInt).sum = before.hp.toInt - after.hp.toInt := by
  have hhits : ((told before after).filter fun event => event.type = .playerHit) =
      if after.hp < before.hp then
        [{ type := .playerHit, playerId := after.playerID, damage := before.hp - after.hp }]
      else [] := by
    unfold told ObservedPlayer.newEvents
    split_ifs <;> simp_all [ObservedPlayer.ofPlayer]
  rw [hhits]
  split_ifs with hlower
  · have hlt := before.hp.toInt_lt
    rw [List.map_singleton, List.sum_singleton, FixedWidth.int32_toInt_sub (by omega) (by omega)]
  · rw [Int32.lt_iff_toInt_lt] at hlower
    rw [List.map_nil, List.sum_nil]
    omega

/-- The events that tell of the beginning of an action. -/
inductive Announces : PresentationEventType → ActionType → Prop
  | attack : Announces .attackStarted .lightAttack
  | dash : Announces .dashStarted .dash

/-- Two samples tell at most once of a beginning: of what the second shows, under a new timeline. -/
theorem told_announces {type : PresentationEventType} {kind : ActionType} (h : Announces type kind)
    (before after : Simulation.PlayerState) :
    let events := (told (playerToProto before) (playerToProto after)).filter
      fun event => event.type = type
    events = [] ∨ events.length = 1 ∧ after.Performing kind ∧
      after.actionStartedServerTick ≠ before.actionStartedServerTick := by
  have hstate : (playerToProto after).actionState = actionStateToProto after.actionState := rfl
  have hnew : (ObservedPlayer.ofPlayer (playerToProto before)).newTimeline (playerToProto after) =
      decide (after.actionStartedServerTick ≠ before.actionStartedServerTick) := rfl
  unfold told ObservedPlayer.newEvents
  rw [hstate, hnew]
  cases h with
  | attack =>
      unfold Simulation.PlayerState.Performing Simulation.PlayerState.Attacking
      cases after.actionState <;> split_ifs <;> simp_all [actionStateToProto, Client.isAttack]
  | dash =>
      unfold Simulation.PlayerState.Performing
      cases after.actionState <;> split_ifs <;> simp_all [actionStateToProto, Client.isAttack]

/-! ### The room shown by samples -/

/-- The snapshot the room has for everybody before step `u`. -/
def snapshotAt (r : Room) (events : List Event) (u : Nat) : WorldSnapshot :=
  snapshotToProto (r.atStep events u).snapshot

/-- The timeline a snapshot alone gives for a player. -/
def shownIn (id : String) (snapshot : WorldSnapshot) : Option (AnimationState × UInt32 × UInt32) :=
  (snapshot.players.find? fun player => player.playerID = id).map (timelineOf snapshot)

theorem shownIn_of_entry {id : String} {snapshot : WorldSnapshot} {me : PlayerState}
    (hentry : Entry id snapshot.players me) : shownIn id snapshot = some (timelineOf snapshot me) := by
  have hfound : (snapshot.players.find? fun player => player.playerID = id) = some me := by
    rw [← List.head?_filter,
      show (snapshot.players.filter fun player => player.playerID = id) = [me] from hentry]
    rfl
  rw [shownIn, hfound, Option.map_some]

section

variable {r : Room} {events : List Event} {i : Side} {steps : List Nat} {s : Screen}

/-- The entry of a player in the snapshot of a step. -/
def entryAt (r : Room) (events : List Event) (i : Side) (u : Nat) : PlayerState :=
  playerToProto ((r.atStep events u).seats.get i).player

theorem entry_snapshotAt (hne : r.seats.a.player.id ≠ r.seats.b.player.id) (u : Nat) :
    Entry (r.seats.get i).player.id (snapshotAt r events u).players (entryAt r events i u) := by
  have hids : ∀ j, ((r.atStep events u).seats.get j).player.id = (r.seats.get j).player.id :=
    r.run_id _
  rw [← hids i]
  refine room_entry ?_ i
  change ((r.atStep events u).seats.get .a).player.id ≠ ((r.atStep events u).seats.get .b).player.id
  rw [hids, hids]
  exact hne

variable (h : r.Phased 0) (hordered : steps.Pairwise fun u v => u ≤ v ∧ v ≤ stepCount events)
  (hsampled : Sampled (r.seats.get i).player.id (snapshotAt r events) (entryAt r events i) steps s)

include h hordered hsampled

theorem sum_playerHit : ∀ first ∈ steps.head?, ∀ last ∈ steps.getLast?,
    ((eventsOf (r.seats.get i).player.id .playerHit s.events).map
      fun event => event.damage.toInt).sum =
        (entryAt r events i first).hp.toInt - (entryAt r events i last).hp.toInt := by
  rw [hsampled.eventsOf]
  refine Sampling.sum_reports ?_ hordered
  intro before after hbetween
  exact sum_told_playerHit ((h.atStep events hbetween.2).hp_nonneg i)
    (Room.hp_le_of_le h i hbetween.1 hbetween.2)

theorem exists_beginnings {type : PresentationEventType} {kind : ActionType}
    (hannounces : Announces type kind) : ∃ begun : List Nat, begun.Pairwise (· < ·) ∧
      begun.length = (eventsOf (r.seats.get i).player.id type s.events).length ∧
      ∀ t ∈ begun, r.ActsAt events i kind t ∧ ∃ first ∈ steps.head?, first ≤ t := by
  rw [hsampled.eventsOf]
  refine Sampling.exists_causes (fun _ _ hbetween => hbetween.1) ?_ hordered
  intro before after hbetween
  rcases told_announces hannounces ((r.atStep events before).seats.get i).player
    ((r.atStep events after).seats.get i).player with hnone | ⟨hone, hkind, hnew⟩
  · exact .inl hnone
  · exact .inr ⟨hone, Room.actsAt_of_new_timeline h hbetween.1 hbetween.2 hkind hnew⟩

end

/-- Whatever snapshots of a run reach the screen in the order of the run, some lost, some repeated, and
however the other calls fall between them: the hits told of a player add up to the hit points he lost
from the first to the last of them; every attack told is another attack he began since the first, and
every dash another dash; and his timeline on the screen is what the last one says. -/
theorem presentation_matches_fight {playerA playerB : String} {rules : Ruleset} {r₀ : Room}
    (hnew : newWithRuleset playerA playerB rules = .ok r₀) (events : List Event)
    {steps : List Nat} (hsteps : steps.Pairwise (· ≤ ·)) (hrun : ∀ u ∈ steps, u ≤ stepCount events)
    (m : MatchPresentation) {calls : List PresentationCall}
    (hfed : fedSnapshots calls = steps.map (snapshotAt r₀ events)) (i : Side) :
    let id := (r₀.seats.get i).player.id
    let screen := Screen.play m calls
    (∀ first ∈ steps.head?, ∀ last ∈ steps.getLast?,
      ((eventsOf id .playerHit screen.events).map fun event => event.damage.toInt).sum =
        ((r₀.atStep events first).seats.get i).player.hp.toInt -
          ((r₀.atStep events last).seats.get i).player.hp.toInt) ∧
    (∃ attacks : List Nat, attacks.Pairwise (· < ·) ∧
      attacks.length = (eventsOf id .attackStarted screen.events).length ∧
      ∀ t ∈ attacks, r₀.ActsAt events i .lightAttack t ∧ ∃ first ∈ steps.head?, first ≤ t) ∧
    (∃ dashes : List Nat, dashes.Pairwise (· < ·) ∧
      dashes.length = (eventsOf id .dashStarted screen.events).length ∧
      ∀ t ∈ dashes, r₀.ActsAt events i .dash t ∧ ∃ first ∈ steps.head?, first ≤ t) ∧
    (screen.presentation.viewFor id).map timeline = (fedSnapshots calls).getLast?.bind (shownIn id) := by
  obtain ⟨-, -, hne, hrules, rfl⟩ := Simulation.newWithRuleset_ok hnew
  have hphased := Simulation.Room.initialRoom_phased playerA playerB hrules
  have hordered : steps.Pairwise fun u v => u ≤ v ∧ v ≤ stepCount events :=
    hsteps.imp_of_mem fun _ hv huv => ⟨huv, hrun _ hv⟩
  have hentry : ∀ u, Entry ((initialRoom playerA playerB rules).seats.get i).player.id
      (snapshotAt (initialRoom playerA playerB rules) events u).players
      (entryAt (initialRoom playerA playerB rules) events i u) := entry_snapshotAt hne
  have hsampled := sampled_play m hfed fun u _ => hentry u
  refine ⟨?_, ?_, ?_, ?_⟩
  · exact sum_playerHit hphased hordered hsampled
  · exact exists_beginnings hphased hordered hsampled .attack
  · exact exists_beginnings hphased hordered hsampled .dash
  · rw [hsampled.view, hfed, List.getLast?_map]
    cases steps.getLast? with
    | none => rfl
    | some last => exact (shownIn_of_entry (hentry last)).symm

/-- The strike of `closeEvents`, of which the screen sees the snapshots before and after. -/
def closeCalls : List PresentationCall :=
  let sent := snapshotAt (initialRoom "alice" "bob" Simulation.closeRules) Simulation.closeEvents
  [.applySnapshot (sent 1), .drainEvents, .applySnapshot (sent 2), .advance 1, .drainEvents,
    .applySnapshot (sent 2)]

theorem presentation_matches_fight_close :
    newWithRuleset "alice" "bob" Simulation.closeRules =
      .ok (initialRoom "alice" "bob" Simulation.closeRules) ∧
    let r := initialRoom "alice" "bob" Simulation.closeRules
    let screen := Screen.play ⟨fun _ => none, fun _ => none, []⟩ closeCalls
    ((eventsOf "bob" .playerHit screen.events).map fun event => event.damage.toInt).sum = 100 - 80 ∧
      (∃ t, r.ActsAt Simulation.closeEvents .a .lightAttack t ∧ 1 ≤ t) ∧
      (screen.presentation.viewFor "alice").map timeline = some (.attackActive, 0, 1) := by
  have hnew : newWithRuleset "alice" "bob" Simulation.closeRules =
      .ok (initialRoom "alice" "bob" Simulation.closeRules) :=
    Simulation.newWithRuleset_of_accepted (by decide) (by decide) (by decide) (by decide)
  have hsteps : [1, 2, 2].Pairwise (· ≤ ·) := by decide
  have hrun : ∀ u ∈ [1, 2, 2], u ≤ stepCount Simulation.closeEvents := by decide
  have hfed : fedSnapshots closeCalls = [1, 2, 2].map
      (snapshotAt (initialRoom "alice" "bob" Simulation.closeRules) Simulation.closeEvents) := rfl
  have hmatches := presentation_matches_fight hnew Simulation.closeEvents hsteps hrun
    ⟨fun _ => none, fun _ => none, []⟩ hfed
  obtain ⟨hhits, -, -, -⟩ := hmatches .b
  obtain ⟨-, ⟨attacks, -, hlength, hattacks⟩, -, hview⟩ := hmatches .a
  refine ⟨hnew, ?_, ?_, ?_⟩
  · have hlost : (((initialRoom "alice" "bob" Simulation.closeRules).atStep Simulation.closeEvents
          1).seats.get .b).player.hp.toInt -
        (((initialRoom "alice" "bob" Simulation.closeRules).atStep Simulation.closeEvents
          2).seats.get .b).player.hp.toInt = 100 - 80 := by
      decide +kernel
    exact (hhits 1 rfl 2 rfl).trans hlost
  · have hone : (eventsOf "alice" .attackStarted
        (Screen.play ⟨fun _ => none, fun _ => none, []⟩ closeCalls).events).length = 1 := by
      decide +kernel
    obtain ⟨t, ht⟩ := List.exists_mem_of_length_pos (by rw [hlength.trans hone]; decide)
    obtain ⟨hacts, first, hfirst, hle⟩ := hattacks t ht
    obtain rfl : 1 = first := Option.some.inj hfirst
    exact ⟨t, hacts, hle⟩
  · refine hview.trans ?_
    decide +kernel

end PvpDuel.Delivery
