import Mathlib.Data.List.Nodup
import Mathlib.Logic.Function.Basic
import PvpDuel.Client.Bindings
import PvpDuel.Lib.Since

/-!
# The input sampler

`InputSampler` gathers key presses over render frames until the next fixed tick. What it is given are the
bindings of others, who may change them between frames.
-/

namespace PvpDuel.Client

structure InputSource where
  isDown : InputCode → Bool
  isPressed : InputCode → Bool

/-- The bindings are a pointer. -/
structure InputSampler (π : Type) where
  bindings : π
  moveX : Int8
  moveY : Int8
  pendingPressed : List Action
  heldActions : List Action

def down (bindings : InputBindings) (source : InputSource) (action : Action) : Bool :=
  match bindings.inputFor action with
  | none => false
  | some code => source.isDown code

/-- One pass of the loop over the actions, on the held and the pending ones. -/
def observeAction (bindings : InputBindings) (source : InputSource) (lists : List Action × List Action)
    (action : Action) : List Action × List Action :=
  match bindings.inputFor action with
  | none => lists
  | some code =>
      if isEdgeAction action = false then lists
      else
        (if source.isDown code then lists.1 ++ [action] else lists.1,
          if source.isPressed code = true ∧ action ∉ lists.2 then lists.2 ++ [action] else lists.2)

namespace InputSampler

variable {π : Type}

def new (bindings : π) : InputSampler π := ⟨bindings, 0, 0, [], []⟩

def setBindings (s : InputSampler π) (bindings : π) : InputSampler π := { s with bindings }

/-- `Observe`, where the pointer is to `bindings`. -/
def observe (s : InputSampler π) (bindings : InputBindings) (source : InputSource) : InputSampler π :=
  let lists := kActions.foldl (observeAction bindings source) ([], s.pendingPressed)
  { s with
    moveX := Int8.ofInt ((down bindings source .moveRight).toNat - (down bindings source .moveLeft).toNat)
    moveY := Int8.ofInt ((down bindings source .moveDown).toNat - (down bindings source .moveUp).toNat)
    heldActions := lists.1
    pendingPressed := lists.2 }

def consumeFixedTick (s : InputSampler π) : InputFrame × InputSampler π :=
  (⟨s.moveX, s.moveY, s.pendingPressed, s.heldActions⟩, { s with pendingPressed := [] })

end InputSampler

/-! ### Runs -/

/-- The bindings there are, and a sampler that has a pointer to some of them. -/
structure SamplerWorld (π : Type) where
  objects : π → InputBindings
  sampler : InputSampler π

inductive SamplerStep (π : Type)
  | observe (source : InputSource)
  | setBindings (pointer : π)
  | rebind (pointer : π) (action : Action) (input : InputCode)
  /-- Other bindings are assigned to an object. -/
  | assign (pointer : π) (bindings : InputBindings)
  | consumeFixedTick

namespace SamplerWorld

variable {π : Type} [DecidableEq π]

def bindings (w : SamplerWorld π) : InputBindings := w.objects w.sampler.bindings

def next (w : SamplerWorld π) : SamplerStep π → SamplerWorld π
  | .observe source => { w with sampler := w.sampler.observe w.bindings source }
  | .setBindings pointer => { w with sampler := w.sampler.setBindings pointer }
  | .rebind pointer action input =>
      match (w.objects pointer).rebind action input with
      | .error _ => w
      | .ok rebound => { w with objects := Function.update w.objects pointer rebound }
  | .assign pointer bindings => { w with objects := Function.update w.objects pointer bindings }
  | .consumeFixedTick => { w with sampler := w.sampler.consumeFixedTick.2 }

def run (w : SamplerWorld π) (steps : List (SamplerStep π)) : SamplerWorld π := steps.foldl next w

def frame (w : SamplerWorld π) : InputFrame := w.sampler.consumeFixedTick.1

end SamplerWorld

/-! ### What one observation does -/

/-- The source shows the input of an edge action as pressed. -/
def Presses (bindings : InputBindings) (source : InputSource) (action : Action) : Prop :=
  isEdgeAction action = true ∧
    ∃ code, bindings.inputFor action = some code ∧ source.isPressed code = true

/-- The edge actions that are down, in their order. -/
def heldIn (bindings : InputBindings) (source : InputSource) (actions : List Action) : List Action :=
  actions.filter fun action => isEdgeAction action && down bindings source action

section Observing

variable {bindings : InputBindings} {source : InputSource} {action other : Action}
  {lists : List Action × List Action}

theorem observeAction_held : (observeAction bindings source lists action).1 =
    lists.1 ++ heldIn bindings source [action] := by
  unfold observeAction heldIn down
  cases hcode : bindings.inputFor action with
  | none => simp [hcode]
  | some code =>
      by_cases hedge : isEdgeAction action = true
      · cases hdown : source.isDown code <;> simp [hcode, hedge, hdown]
      · simp [hedge]

theorem mem_observeAction : other ∈ (observeAction bindings source lists action).2 ↔
    other ∈ lists.2 ∨ other = action ∧ Presses bindings source action := by
  unfold observeAction Presses
  cases hcode : bindings.inputFor action with
  | none => simp
  | some code =>
      by_cases hedge : isEdgeAction action = true
      · by_cases hnew : source.isPressed code = true ∧ action ∉ lists.2
        · simp [hedge, hnew]
        · simp only [hedge, hnew, if_false, true_and, Option.some.injEq, exists_eq_left', Bool.true_eq_false]
          refine ⟨.inl, fun h => h.elim id ?_⟩
          rintro ⟨rfl, hpressed⟩
          by_contra hmem
          exact hnew ⟨hpressed, hmem⟩
      · simp [hedge]

theorem nodup_observeAction (h : lists.2.Nodup) :
    (observeAction bindings source lists action).2.Nodup := by
  unfold observeAction
  cases bindings.inputFor action with
  | none => exact h
  | some code =>
      show (ite _ _ _ : List Action × List Action).2.Nodup
      by_cases hedge : isEdgeAction action = false
      · rwa [if_pos hedge]
      · rw [if_neg hedge]
        show (ite _ _ _ : List Action).Nodup
        split
        · rename_i hnew
          exact List.nodup_append'.2 ⟨h, List.nodup_singleton _, List.disjoint_singleton.2 hnew.2⟩
        · exact h

theorem observe_spec (bindings : InputBindings) (source : InputSource) (actions : List Action) (lists : List Action × List Action)
    (hnodup : lists.2.Nodup) :
    (actions.foldl (observeAction bindings source) lists).1 =
        lists.1 ++ heldIn bindings source actions ∧
      (actions.foldl (observeAction bindings source) lists).2.Nodup ∧
      ∀ other, other ∈ (actions.foldl (observeAction bindings source) lists).2 ↔
        other ∈ lists.2 ∨ other ∈ actions ∧ Presses bindings source other := by
  induction actions generalizing lists with
  | nil => simp [heldIn, hnodup]
  | cons action actions ih =>
      obtain ⟨hheld, hkept, hmem⟩ := ih (observeAction bindings source lists action)
        (nodup_observeAction hnodup)
      refine ⟨?_, hkept, fun other => ?_⟩
      · rw [List.foldl_cons, hheld, observeAction_held, List.append_assoc]
        rw [heldIn, heldIn, ← List.filter_append]
        rfl
      · rw [List.foldl_cons, hmem, mem_observeAction, List.mem_cons, or_assoc]
        refine or_congr_right ⟨?_, ?_⟩
        · rintro (⟨rfl, hpresses⟩ | ⟨hmem, hpresses⟩)
          · exact ⟨.inl rfl, hpresses⟩
          · exact ⟨.inr hmem, hpresses⟩
        · rintro ⟨rfl | hmem, hpresses⟩
          · exact .inl ⟨rfl, hpresses⟩
          · exact .inr ⟨hmem, hpresses⟩

end Observing

structure Shows (bindings : InputBindings) (source : InputSource) (frame : InputFrame) : Prop where
  moveX : frame.moveX.toInt =
    (down bindings source .moveRight).toNat - (down bindings source .moveLeft).toNat
  moveY : frame.moveY.toInt =
    (down bindings source .moveDown).toNat - (down bindings source .moveUp).toNat
  held : frame.held = [.dash, .lightAttack].filter (down bindings source)

theorem Shows.of_eq {bindings : InputBindings} {source : InputSource} {frame frame' : InputFrame}
    (h : Shows bindings source frame) (hx : frame'.moveX = frame.moveX) (hy : frame'.moveY = frame.moveY)
    (hheld : frame'.held = frame.held) : Shows bindings source frame' :=
  ⟨hx ▸ h.moveX, hy ▸ h.moveY, hheld ▸ h.held⟩

theorem toInt_axis (positive negative : Bool) :
    (Int8.ofInt (positive.toNat - negative.toNat)).toInt = positive.toNat - negative.toNat := by
  cases positive <;> cases negative <;> rfl

namespace SamplerWorld

variable {π : Type} [DecidableEq π] {w : SamplerWorld π}

theorem next_observe (hnodup : w.frame.pressed.Nodup) (source : InputSource) :
    Shows w.bindings source (w.next (.observe source)).frame ∧
      (w.next (.observe source)).frame.pressed.Nodup ∧
      ∀ action, action ∈ (w.next (.observe source)).frame.pressed ↔
        action ∈ w.frame.pressed ∨ Presses w.bindings source action := by
  obtain ⟨hheld, hkept, hmem⟩ :=
    observe_spec w.bindings source kActions ([], w.frame.pressed) hnodup
  refine ⟨⟨toInt_axis _ _, toInt_axis _ _, hheld.trans rfl⟩, hkept, fun action => ?_⟩
  exact (hmem action).trans (or_congr_right (and_iff_right (mem_kActions action)))

theorem next_frame {step : SamplerStep π} (hobserve : ∀ source, step ≠ .observe source)
    (htick : step ≠ .consumeFixedTick) : (w.next step).frame = w.frame := by
  cases step with
  | observe source => exact absurd rfl (hobserve source)
  | setBindings pointer => rfl
  | rebind pointer action input =>
      unfold next
      dsimp only
      split <;> rfl
  | assign pointer bindings => rfl
  | consumeFixedTick => exact absurd rfl htick

theorem run_concat (w : SamplerWorld π) (steps : List (SamplerStep π)) (step : SamplerStep π) :
    w.run (steps ++ [step]) = (w.run steps).next step := by
  simp [run]

def start (objects : π → InputBindings) (pointer : π) : SamplerWorld π := ⟨objects, .new pointer⟩

/-- An observation, in the world in which it is made. -/
def Observed (w : SamplerWorld π) (P : InputBindings → InputSource → Prop)
    (earlier : List (SamplerStep π)) (step : SamplerStep π) : Prop :=
  ∃ source, step = .observe source ∧ P (w.run earlier).bindings source

theorem since_of_not_observe {P : InputBindings → InputSource → Prop} {reset : SamplerStep π → Prop}
    {steps : List (SamplerStep π)} {step : SamplerStep π} (hobserve : ∀ source, step ≠ .observe source) :
    Since reset (w.Observed P) (steps ++ [step]) ↔ ¬ reset step ∧ Since reset (w.Observed P) steps := by
  rw [since_concat]
  exact or_iff_right fun ⟨source, heq, _⟩ => hobserve source heq

/-- The frame's axes and held actions are those of the latest observation, if there is one. -/
def Latest (w : SamplerWorld π) (steps : List (SamplerStep π)) (frame : InputFrame) : Prop :=
  Since (∃ source, · = .observe source)
      (w.Observed fun bindings source => Shows bindings source frame) steps ∨
    (∀ source, .observe source ∉ steps) ∧ frame.moveX = 0 ∧ frame.moveY = 0 ∧ frame.held = []

theorem Latest.concat {steps : List (SamplerStep π)} {step : SamplerStep π} {frame frame' : InputFrame}
    (h : w.Latest steps frame) (hobserve : ∀ source, step ≠ .observe source)
    (hx : frame'.moveX = frame.moveX) (hy : frame'.moveY = frame.moveY)
    (hheld : frame'.held = frame.held) : w.Latest (steps ++ [step]) frame' := by
  obtain hsince | ⟨hnone, hmoveX, hmoveY, hnothing⟩ := h
  · refine .inl ((since_of_not_observe hobserve).2 ⟨fun ⟨source, heq⟩ => hobserve source heq, ?_⟩)
    refine hsince.imp ?_
    rintro earlier other ⟨source, heq, hshows⟩
    exact ⟨source, heq, hshows.of_eq hx hy hheld⟩
  · refine .inr ⟨fun source hmem => ?_, hx.trans hmoveX, hy.trans hmoveY, hheld.trans hnothing⟩
    rcases List.mem_append.1 hmem with hmem | hmem
    · exact hnone source hmem
    · exact hobserve source (List.mem_singleton.1 hmem).symm

/-- Between two ticks the frame gathers presses, each once, and keeps the rest of the latest
observation. -/
structure Gathers (w : SamplerWorld π) (steps : List (SamplerStep π)) : Prop where
  nodup : (w.run steps).frame.pressed.Nodup
  pressed : ∀ action, action ∈ (w.run steps).frame.pressed ↔
    Since (· = .consumeFixedTick) (w.Observed fun bindings source => Presses bindings source action) steps
  latest : w.Latest steps (w.run steps).frame

theorem Gathers.concat {steps : List (SamplerStep π)} (h : w.Gathers steps) (step : SamplerStep π) :
    w.Gathers (steps ++ [step]) := by
  by_cases hobserve : ∃ source, step = .observe source
  · obtain ⟨source, rfl⟩ := hobserve
    obtain ⟨hshows, hnodup, hmem⟩ := next_observe h.nodup source
    rw [← run_concat] at hshows hnodup hmem
    refine ⟨hnodup, fun action => ?_, .inl (since_concat.2 (.inl ⟨source, rfl, hshows⟩))⟩
    rw [hmem, h.pressed, since_concat, or_comm]
    refine or_congr ⟨fun hpresses => ⟨source, rfl, hpresses⟩, ?_⟩ (and_iff_right (by simp)).symm
    rintro ⟨other, heq, hpresses⟩
    rwa [SamplerStep.observe.inj heq]
  · push Not at hobserve
    by_cases htick : step = .consumeFixedTick
    · subst htick
      have hframe : (w.run (steps ++ [.consumeFixedTick])).frame =
          { (w.run steps).frame with pressed := [] } := by
        rw [run_concat]
        rfl
      refine ⟨hframe ▸ List.nodup_nil, fun action => ?_, ?_⟩
      · rw [since_of_not_observe hobserve, hframe]
        exact iff_of_false List.not_mem_nil fun hsince => hsince.1 rfl
      · rw [hframe]
        exact h.latest.concat hobserve rfl rfl rfl
    · have hframe : (w.run (steps ++ [step])).frame = (w.run steps).frame := by
        rw [run_concat, next_frame hobserve htick]
      refine ⟨hframe ▸ h.nodup, fun action => ?_, ?_⟩
      · rw [since_of_not_observe hobserve, hframe, h.pressed, and_iff_right htick]
      · rw [hframe]
        exact h.latest.concat hobserve rfl rfl rfl

theorem gathers (objects : π → InputBindings) (pointer : π) (steps : List (SamplerStep π)) :
    (start objects pointer).Gathers steps := by
  induction steps using List.reverseRecOn with
  | nil =>
      refine ⟨List.nodup_nil, fun action => ?_, .inr ⟨by simp, rfl, rfl, rfl⟩⟩
      exact iff_of_false List.not_mem_nil not_since_nil
  | append_singleton steps step ih => exact ih.concat step

end SamplerWorld

open SamplerWorld in
/-- Whatever the bindings and the frames between, a tick consumes exactly the edge actions pressed since
the last one, each once, with the axes and held actions of the latest observation. -/
theorem presses_consumed_once {π : Type} [DecidableEq π] (objects : π → InputBindings) (pointer : π)
    (steps : List (SamplerStep π)) :
    let w := start objects pointer
    let frame := (w.run steps).sampler.consumeFixedTick.1
    (∀ action, action ∈ frame.pressed ↔ isEdgeAction action = true ∧
      Since (· = .consumeFixedTick) (w.Observed fun bindings source =>
        ∃ code, bindings.inputFor action = some code ∧ source.isPressed code = true) steps) ∧
    frame.pressed.Nodup ∧ w.Latest steps frame := by
  obtain ⟨hnodup, hpressed, hlatest⟩ := gathers objects pointer steps
  refine ⟨fun action => (hpressed action).trans ⟨fun hsince => ?_, fun h => ?_⟩, hnodup, hlatest⟩
  · have hedge : isEdgeAction action = true := by
      obtain ⟨earlier, step, later, -, ⟨source, -, hpresses⟩, -⟩ := hsince
      exact hpresses.1
    refine ⟨hedge, hsince.imp ?_⟩
    rintro earlier step ⟨source, heq, hpresses⟩
    exact ⟨source, heq, hpresses.2⟩
  · refine h.2.imp ?_
    rintro earlier step ⟨source, heq, hbound⟩
    exact ⟨source, heq, h.1, hbound⟩

end PvpDuel.Client
