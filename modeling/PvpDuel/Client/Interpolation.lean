import Mathlib.Algebra.Order.Ring.Rat
import Mathlib.Analysis.Convex.Segment
import Mathlib.Data.List.Induction

/-!
# Interpolation of the opponent

`InterpolationBuffer`: positions arrive with ticks of the server and are shown a little later, between
the two around a clock that follows the newest tick. The numbers of type `float` are rational.
-/

namespace PvpDuel.Client

/-- The tick as a number of type `float`. -/
def tickOf (tick : UInt32) : ℚ := tick.toNat

structure Point where
  tick : UInt32
  x : ℚ
  y : ℚ
deriving DecidableEq, Repr

structure InterpolationBuffer where
  delayTicks : UInt32
  capacity : Nat
  renderTick : ℚ
  initialized : Bool
  points : List Point
deriving DecidableEq

/-- The oldest points go while there are too many. -/
def popFront (capacity : Nat) : List Point → List Point
  | [] => []
  | front :: rest =>
      if (front :: rest).length > capacity then popFront capacity rest else front :: rest

/-- The loop of `Sample`, behind a previous point. -/
def sampleFrom (targetTick : ℚ) (previous : Point) : List Point → ℚ × ℚ
  | [] => (previous.x, previous.y)
  | next :: rest =>
      if targetTick > tickOf next.tick then sampleFrom targetTick next rest
      else
        let span := tickOf (next.tick - previous.tick)
        let offset := targetTick - tickOf previous.tick
        let blend := if span > 0 then offset / span else 0
        (previous.x + (next.x - previous.x) * blend, previous.y + (next.y - previous.y) * blend)

namespace InterpolationBuffer

def new (delayTicks : UInt32) (capacity : Nat) : InterpolationBuffer where
  delayTicks := delayTicks
  capacity := max capacity 2
  renderTick := 0
  initialized := false
  points := []

def push (b : InterpolationBuffer) (serverTick : UInt32) (x y : Int32) : InterpolationBuffer :=
  if b.points.getLast?.any fun back => serverTick ≤ back.tick then b
  else
    { b with
      renderTick := if b.initialized then b.renderTick else tickOf serverTick
      initialized := true
      points := popFront b.capacity (b.points ++ [⟨serverTick, x.toInt, y.toInt⟩]) }

def advance (b : InterpolationBuffer) (elapsedSeconds : ℚ) : InterpolationBuffer :=
  match b.points.head?, b.points.getLast? with
  | some front, some back =>
      let delayedTick := if back.tick > b.delayTicks then back.tick - b.delayTicks else 0
      let targetTick := max (tickOf front.tick) (tickOf delayedTick)
      { b with renderTick := min (b.renderTick + max elapsedSeconds 0 * 30) targetTick }
  | _, _ => b

def sample (b : InterpolationBuffer) : ℚ × ℚ :=
  match b.points with
  | [] => (0, 0)
  | front :: rest =>
      if b.renderTick ≤ tickOf front.tick then (front.x, front.y)
      else sampleFrom b.renderTick front rest

inductive Step
  | push (serverTick : UInt32) (x y : Int32)
  | advance (elapsedSeconds : ℚ)

def next (b : InterpolationBuffer) : Step → InterpolationBuffer
  | .push serverTick x y => b.push serverTick x y
  | .advance elapsedSeconds => b.advance elapsedSeconds

def run (b : InterpolationBuffer) (steps : List Step) : InterpolationBuffer := steps.foldl next b

def Step.pushed : Step → List UInt32
  | .push serverTick _ _ => [serverTick]
  | .advance _ => []

end InterpolationBuffer

/-! ### Ticks as numbers -/

theorem tickOf_nonneg (tick : UInt32) : 0 ≤ tickOf tick := Nat.cast_nonneg _

theorem tickOf_le {first second : UInt32} : tickOf first ≤ tickOf second ↔ first ≤ second := by
  rw [tickOf, tickOf, Nat.cast_le, UInt32.le_iff_toNat_le]

theorem tickOf_lt {first second : UInt32} : tickOf first < tickOf second ↔ first < second := by
  rw [tickOf, tickOf, Nat.cast_lt, UInt32.lt_iff_toNat_lt]

theorem tickOf_sub {first second : UInt32} (h : first ≤ second) :
    tickOf (second - first) = tickOf second - tickOf first := by
  rw [tickOf, UInt32.toNat_sub_of_le _ _ h, Nat.cast_sub (UInt32.le_iff_toNat_le.1 h)]
  rfl

theorem max_delayed (first back delay : UInt32) :
    max (tickOf first) (tickOf (if back > delay then back - delay else 0)) =
      max (tickOf first) (tickOf back - tickOf delay) := by
  by_cases h : back > delay
  · rw [if_pos h, tickOf_sub (UInt32.le_of_lt h)]
  · have hle : tickOf back ≤ tickOf delay := tickOf_le.2 (UInt32.not_lt.1 h)
    have hzero : tickOf 0 = 0 := rfl
    rw [if_neg h, hzero, max_eq_left (tickOf_nonneg first), max_eq_left]
    exact le_trans (sub_nonpos.2 hle) (tickOf_nonneg first)

/-! ### The points -/

theorem popFront_eq (capacity : Nat) (points : List Point) :
    popFront capacity points = points.drop (points.length - capacity) := by
  induction points with
  | nil => rw [popFront, List.drop_nil]
  | cons front rest ih =>
      rw [popFront, List.length_cons]
      by_cases h : rest.length + 1 > capacity
      · rw [if_pos h, ih, show rest.length + 1 - capacity = rest.length - capacity + 1 by omega,
          List.drop_succ_cons]
      · rw [if_neg h, Nat.sub_eq_zero_of_le (by omega), List.drop_zero]

def Sorted (points : List Point) : Prop := points.Pairwise fun first second => first.tick < second.tick

theorem Sorted.head_le {points : List Point} (h : Sorted points) {front point : Point}
    (hhead : points.head? = some front) (hpoint : point ∈ points) : front.tick ≤ point.tick := by
  obtain ⟨rest, rfl⟩ := List.head?_eq_some_iff.1 hhead
  rcases List.mem_cons.1 hpoint with rfl | hrest
  · exact UInt32.le_refl _
  · exact UInt32.le_of_lt ((List.pairwise_cons.1 h).1 point hrest)

theorem Sorted.le_last {points : List Point} (h : Sorted points) {back point : Point}
    (hlast : points.getLast? = some back) (hpoint : point ∈ points) : point.tick ≤ back.tick := by
  obtain ⟨rest, rfl⟩ := List.getLast?_eq_some_iff.1 hlast
  rcases List.mem_append.1 hpoint with hrest | hback
  · exact UInt32.le_of_lt ((List.pairwise_append.1 h).2.2 point hrest back (List.mem_singleton_self back))
  · exact List.mem_singleton.1 hback ▸ UInt32.le_refl _

/-- A newer point at the end, and no more points than there is room for. -/
theorem Sorted.popFront_concat {points : List Point} (h : Sorted points) (point : Point)
    {front back : Point} (hhead : points.head? = some front) (hlast : points.getLast? = some back)
    (hnewer : back.tick < point.tick) {capacity : Nat} (hcapacity : 2 ≤ capacity) :
    ∃ first, (popFront capacity (points ++ [point])).head? = some first ∧ front.tick ≤ first.tick ∧
      (popFront capacity (points ++ [point])).getLast? = some point ∧
      Sorted (popFront capacity (points ++ [point])) ∧
      (popFront capacity (points ++ [point])).length ≤ capacity := by
  have hall : Sorted (points ++ [point]) := by
    refine List.pairwise_append.2 ⟨h, List.pairwise_singleton _ _, fun first hfirst second hsecond => ?_⟩
    rw [List.mem_singleton.1 hsecond]
    exact UInt32.lt_of_le_of_lt (h.le_last hlast hfirst) hnewer
  have hhead' : (points ++ [point]).head? = some front := by
    rw [List.head?_append, hhead]
    rfl
  rw [popFront_eq]
  have hkept : (points ++ [point]).length - capacity < (points ++ [point]).length := by
    rw [List.length_append, List.length_singleton]
    omega
  have hsorted := hall.drop (i := (points ++ [point]).length - capacity)
  refine ⟨(points ++ [point])[(points ++ [point]).length - capacity], ?_, ?_, ?_, hsorted, ?_⟩
  · rw [List.head?_drop, List.getElem?_eq_getElem hkept]
  · exact hall.head_le hhead' (List.getElem_mem hkept)
  · rw [List.getLast?_drop, if_neg (Nat.not_le.2 hkept), List.getLast?_concat]
  · rw [List.length_drop]
    omega

/-- A point of the segment between two positions, in the ratio of a tick between theirs. -/
theorem mem_segment_of_between {first second blend : ℚ} {x y : ℚ × ℚ} (hspan : first < second)
    (hfirst : first ≤ blend) (hsecond : blend ≤ second) :
    (x.1 + (y.1 - x.1) * ((blend - first) / (second - first)),
      x.2 + (y.2 - x.2) * ((blend - first) / (second - first))) ∈ segment ℚ x y := by
  have hpos : 0 < second - first := sub_pos.2 hspan
  rw [segment_eq_image']
  refine ⟨(blend - first) / (second - first), ⟨?_, ?_⟩, ?_⟩
  · exact div_nonneg (sub_nonneg.2 hfirst) hpos.le
  · rw [div_le_one hpos]
    exact sub_le_sub_right hsecond first
  · ext
    · simp [mul_comm]
    · simp [mul_comm]

theorem sampleFrom_between {targetTick : ℚ} {previous : Point} {rest : List Point}
    (hsorted : Sorted (previous :: rest)) (hpast : tickOf previous.tick < targetTick)
    {back : Point} (hback : back ∈ rest) (hreached : targetTick ≤ tickOf back.tick) :
    ∃ before p q after, previous :: rest = before ++ p :: q :: after ∧ tickOf p.tick ≤ targetTick ∧
      targetTick ≤ tickOf q.tick ∧
      sampleFrom targetTick previous rest ∈ segment ℚ (p.x, p.y) (q.x, q.y) := by
  induction rest generalizing previous with
  | nil => exact absurd hback List.not_mem_nil
  | cons next rest ih =>
      obtain ⟨hfirst, hrest⟩ := List.pairwise_cons.1 hsorted
      by_cases hnext : targetTick > tickOf next.tick
      · rw [sampleFrom, if_pos hnext]
        have hlater : back ∈ rest := by
          rcases List.mem_cons.1 hback with rfl | hlater
          · exact absurd hreached (not_le.2 hnext)
          · exact hlater
        obtain ⟨before, p, q, after, heq, hbetween⟩ := ih hrest hnext hlater
        exact ⟨previous :: before, p, q, after, by rw [heq, List.cons_append], hbetween⟩
      · have hlt : tickOf previous.tick < tickOf next.tick := tickOf_lt.2 (hfirst next List.mem_cons_self)
        have hspan : tickOf (next.tick - previous.tick) = tickOf next.tick - tickOf previous.tick :=
          tickOf_sub (UInt32.le_of_lt (tickOf_lt.1 hlt))
        refine ⟨[], previous, next, rest, rfl, hpast.le, not_lt.1 hnext, ?_⟩
        rw [sampleFrom, if_neg hnext, hspan]
        dsimp only
        rw [if_pos (sub_pos.2 hlt)]
        exact mem_segment_of_between (x := (previous.x, previous.y)) (y := (next.x, next.y)) hlt hpast.le
          (not_lt.1 hnext)

/-! ### Runs -/

namespace InterpolationBuffer

/-- The clock may go up to the newest tick less the delay, or to the oldest point. -/
def limit (b : InterpolationBuffer) (front back : Point) : ℚ :=
  max (tickOf front.tick) (tickOf back.tick - tickOf b.delayTicks)

structure Running (b : InterpolationBuffer) (pushed : List UInt32) (front back : Point) : Prop where
  head : b.points.head? = some front
  last : b.points.getLast? = some back
  sorted : Sorted b.points
  capacity : 2 ≤ b.capacity
  bounded : b.points.length ≤ b.capacity
  initialized : b.initialized = true
  newest : IsGreatest {tick | tick ∈ pushed} back.tick
  limited : b.renderTick ≤ b.limit front back

variable {b : InterpolationBuffer} {pushed : List UInt32} {front back : Point} {serverTick : UInt32}

theorem Running.advance (h : b.Running pushed front back) (elapsedSeconds : ℚ) :
    (b.advance elapsedSeconds).Running pushed front back ∧
      b.renderTick ≤ (b.advance elapsedSeconds).renderTick := by
  have hadvance : b.advance elapsedSeconds =
      { b with renderTick := min (b.renderTick + max elapsedSeconds 0 * 30) (b.limit front back) } := by
    unfold InterpolationBuffer.advance
    rw [h.head, h.last]
    simp only [max_delayed]
    rfl
  rw [hadvance]
  refine ⟨⟨h.head, h.last, h.sorted, h.capacity, h.bounded, h.initialized, h.newest,
    min_le_right _ _⟩, ?_⟩
  refine le_min ?_ h.limited
  have helapsed : 0 ≤ max elapsedSeconds 0 * 30 := by positivity
  exact le_add_of_nonneg_right helapsed

theorem push_of_fresh (hfresh : ∀ back, b.points.getLast? = some back → back.tick < serverTick)
    (x y : Int32) : b.push serverTick x y =
      { b with
        renderTick := if b.initialized then b.renderTick else tickOf serverTick
        initialized := true
        points := popFront b.capacity (b.points ++ [⟨serverTick, x.toInt, y.toInt⟩]) } := by
  rw [InterpolationBuffer.push, if_neg]
  cases hlast : b.points.getLast? with
  | none => simp
  | some back => simpa using hfresh back hlast

theorem running_push_of_empty (hpoints : b.points = []) (hinitialized : b.initialized = false)
    (hcapacity : 2 ≤ b.capacity) (x y : Int32) :
    (b.push serverTick x y).Running [serverTick] ⟨serverTick, x.toInt, y.toInt⟩
      ⟨serverTick, x.toInt, y.toInt⟩ := by
  have hone : popFront b.capacity [⟨serverTick, x.toInt, y.toInt⟩] =
      [⟨serverTick, x.toInt, y.toInt⟩] := by
    rw [popFront, if_neg]
    simp only [List.length_cons, List.length_nil]
    omega
  rw [push_of_fresh (by simp [hpoints]), hpoints, List.nil_append, hone, hinitialized]
  refine ⟨rfl, rfl, List.pairwise_singleton _ _, hcapacity, ?_, rfl, ?_, le_max_left _ _⟩
  · exact le_trans (by simp) hcapacity
  · simp [IsGreatest, upperBounds]

theorem Running.push (h : b.Running pushed front back) (serverTick : UInt32) (x y : Int32) :
    (∃ front back, (b.push serverTick x y).Running (pushed ++ [serverTick]) front back) ∧
      b.renderTick ≤ (b.push serverTick x y).renderTick := by
  by_cases hstale : serverTick ≤ back.tick
  · have hsame : b.push serverTick x y = b := by
      rw [InterpolationBuffer.push, if_pos]
      rw [h.last]
      simpa using hstale
    rw [hsame]
    refine ⟨⟨front, back, { h with newest := ⟨List.mem_append_left _ h.newest.1, ?_⟩ }⟩, le_rfl⟩
    intro tick htick
    rcases List.mem_append.1 htick with htick | htick
    · exact h.newest.2 htick
    · exact List.mem_singleton.1 htick ▸ hstale
  · have hfresh : back.tick < serverTick := UInt32.not_le.1 hstale
    rw [push_of_fresh fun other hother => Option.some.inj (h.last.symm.trans hother) ▸ hfresh,
      h.initialized, if_pos rfl]
    obtain ⟨first, hhead, hfirst, hlast, hsorted, hbounded⟩ := h.sorted.popFront_concat
      ⟨serverTick, x.toInt, y.toInt⟩ h.head h.last hfresh h.capacity
    have hlimit : b.limit front back ≤ b.limit first ⟨serverTick, x.toInt, y.toInt⟩ :=
      max_le_max (tickOf_le.2 hfirst) (sub_le_sub_right (tickOf_le.2 (UInt32.le_of_lt hfresh)) _)
    refine ⟨⟨first, ⟨serverTick, x.toInt, y.toInt⟩, hhead, hlast, hsorted, h.capacity, hbounded, rfl,
      ?_, h.limited.trans hlimit⟩, le_rfl⟩
    refine ⟨List.mem_append_right _ (List.mem_singleton_self _), fun tick htick => ?_⟩
    rcases List.mem_append.1 htick with htick | htick
    · exact UInt32.le_of_lt (UInt32.lt_of_le_of_lt (h.newest.2 htick) hfresh)
    · exact List.mem_singleton.1 htick ▸ UInt32.le_refl _

theorem Running.next (h : b.Running pushed front back) (step : Step) :
    (∃ front back, (b.next step).Running (pushed ++ step.pushed) front back) ∧
      b.renderTick ≤ (b.next step).renderTick := by
  cases step with
  | push serverTick x y => exact h.push serverTick x y
  | advance elapsedSeconds =>
      obtain ⟨hrunning, hle⟩ := h.advance elapsedSeconds
      exact ⟨⟨front, back, (List.append_nil pushed).symm ▸ hrunning⟩, hle⟩

theorem Running.run (h : b.Running pushed front back) (steps : List Step) :
    (∃ front back, (b.run steps).Running (pushed ++ steps.flatMap Step.pushed) front back) ∧
      b.renderTick ≤ (b.run steps).renderTick := by
  induction steps generalizing b pushed front back with
  | nil => exact ⟨⟨front, back, (List.append_nil pushed).symm ▸ h⟩, le_rfl⟩
  | cons step steps ih =>
      obtain ⟨⟨front', back', hnext⟩, hle⟩ := h.next step
      obtain ⟨hrun, hle'⟩ := ih hnext
      rw [List.flatMap_cons, ← List.append_assoc]
      exact ⟨hrun, hle.trans hle'⟩

theorem advance_of_empty (hpoints : b.points = []) (elapsedSeconds : ℚ) :
    b.advance elapsedSeconds = b := by
  rw [InterpolationBuffer.advance, hpoints]
  rfl

theorem run_new (delayTicks : UInt32) (capacity : Nat) (steps : List Step) :
    steps.flatMap Step.pushed = [] ∧ (new delayTicks capacity).run steps = new delayTicks capacity ∨
    ∃ front back, ((new delayTicks capacity).run steps).Running (steps.flatMap Step.pushed) front back := by
  induction steps using List.reverseRecOn with
  | nil => exact .inl ⟨rfl, rfl⟩
  | append_singleton steps step ih =>
      have hconcat : (new delayTicks capacity).run (steps ++ [step]) =
          ((new delayTicks capacity).run steps).next step := by
        rw [run, run, List.foldl_append]
        rfl
      have hpushed : (steps ++ [step]).flatMap Step.pushed = steps.flatMap Step.pushed ++ step.pushed := by
        simp
      rw [hconcat, hpushed]
      obtain ⟨hnone, hnew⟩ | ⟨front, back, hrunning⟩ := ih
      · rw [hnone, hnew, List.nil_append]
        cases step with
        | push serverTick x y =>
            exact .inr ⟨_, _, running_push_of_empty rfl rfl (le_max_right _ _) x y⟩
        | advance elapsedSeconds =>
            exact .inl ⟨rfl, advance_of_empty (b := new delayTicks capacity) rfl elapsedSeconds⟩
      · exact .inr (hrunning.next step).1

/-- Where a sample lies: on the first point while the clock is not past it, and otherwise between two
neighbours around the clock. -/
def Sampled (b : InterpolationBuffer) (position : ℚ × ℚ) : Prop :=
  (∃ front, b.points.head? = some front ∧ b.renderTick ≤ tickOf front.tick ∧
    position = (front.x, front.y)) ∨
  ∃ before p q after, b.points = before ++ p :: q :: after ∧ tickOf p.tick ≤ b.renderTick ∧
    b.renderTick ≤ tickOf q.tick ∧ position ∈ segment ℚ (p.x, p.y) (q.x, q.y)

theorem Running.sampled (h : b.Running pushed front back) : b.Sampled b.sample := by
  obtain ⟨rest, hpoints⟩ := List.head?_eq_some_iff.1 h.head
  rw [sample, hpoints]
  by_cases hpast : b.renderTick ≤ tickOf front.tick
  · exact .inl ⟨front, h.head, hpast, if_pos hpast⟩
  · have hback : b.renderTick ≤ tickOf back.tick := by
      have hdelayed : tickOf back.tick - tickOf b.delayTicks ≤ tickOf back.tick :=
        sub_le_self _ (tickOf_nonneg _)
      rcases le_max_iff.1 h.limited with hfront | hlimit
      · exact absurd hfront hpast
      · exact hlimit.trans hdelayed
    have hmem : back ∈ rest := by
      have hback' : back ∈ b.points := List.mem_of_getLast? h.last
      rw [hpoints] at hback'
      rcases List.mem_cons.1 hback' with rfl | hrest
      · exact absurd hback hpast
      · exact hrest
    obtain ⟨before, p, q, after, heq, hbetween⟩ :=
      sampleFrom_between (hpoints ▸ h.sorted) (not_le.1 hpast) hmem hback
    refine .inr ⟨before, p, q, after, hpoints.trans heq, ?_⟩
    dsimp only
    rw [if_neg hpast]
    exact hbetween

theorem next_parameters (b : InterpolationBuffer) (step : Step) :
    (b.next step).delayTicks = b.delayTicks ∧ (b.next step).capacity = b.capacity := by
  cases step with
  | push serverTick x y =>
      show (ite _ _ _ : InterpolationBuffer).delayTicks = _ ∧ (ite _ _ _ : InterpolationBuffer).capacity = _
      split <;> exact ⟨rfl, rfl⟩
  | advance elapsedSeconds =>
      show (b.advance elapsedSeconds).delayTicks = _ ∧ (b.advance elapsedSeconds).capacity = _
      unfold InterpolationBuffer.advance
      split <;> exact ⟨rfl, rfl⟩

theorem run_parameters (b : InterpolationBuffer) (steps : List Step) :
    (b.run steps).delayTicks = b.delayTicks ∧ (b.run steps).capacity = b.capacity := by
  induction steps generalizing b with
  | nil => exact ⟨rfl, rfl⟩
  | cons step steps ih =>
      have hnext := b.next_parameters step
      exact ⟨(ih _).1.trans hnext.1, (ih _).2.trans hnext.2⟩

end InterpolationBuffer

open InterpolationBuffer in
/-- From the first point on the buffered ticks are in order, with the newest, and the clock goes forward
as far as they allow; what is shown lies between two neighbours. -/
theorem interpolation_forward (delayTicks : UInt32) (capacity : Nat) (earlier later : List Step)
    (serverTick : UInt32) (x y : Int32) :
    let steps := earlier ++ .push serverTick x y :: later
    let b := (new delayTicks capacity).run steps
    Sorted b.points ∧ b.points.length ≤ max capacity 2 ∧
    (∃ front back, b.points.head? = some front ∧ b.points.getLast? = some back ∧
      IsGreatest {tick | tick ∈ steps.flatMap Step.pushed} back.tick ∧
      b.renderTick ≤ max (tickOf front.tick) (tickOf back.tick - tickOf delayTicks)) ∧
    (∀ more, b.renderTick ≤ (b.run more).renderTick) ∧ b.Sampled b.sample := by
  intro steps b
  have hkept := run_parameters (new delayTicks capacity) steps
  have hpushed : steps.flatMap Step.pushed ≠ [] := by simp [steps, Step.pushed]
  obtain ⟨hnone, -⟩ | ⟨front, back, h⟩ := run_new delayTicks capacity steps
  · exact absurd hnone hpushed
  · refine ⟨h.sorted, ?_, ⟨front, back, h.head, h.last, h.newest, ?_⟩, fun more => (h.run more).2,
      h.sampled⟩
    · exact h.bounded.trans_eq hkept.2
    · have hlimited := h.limited
      rwa [limit, hkept.1] at hlimited

end PvpDuel.Client
