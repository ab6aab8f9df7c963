import Mathlib.Algebra.Order.Ring.Cast
import Mathlib.Tactic.NormNum
import PvpDuel.Lib.Plane
import PvpDuel.Room.Damage
import PvpDuel.Room.Ranges

/-!
# The shape of an attack

`attackHitboxIntersects` writes its ranges out for each facing. Where no sum of them overflows they are
one test: whether a rectangle ahead of the attacker and a square around the target share a point, in the
frame of the facing.
-/

namespace PvpDuel.Simulation

open FixedWidth (int32)

/-! ### Facings and places in the plane -/

/-- One of the four unit directions. -/
def ActionFacing.Cardinal (facing : ActionFacing) : Prop :=
  facing ∈ [⟨1, 0⟩, ⟨-1, 0⟩, ⟨0, 1⟩, ⟨0, -1⟩]

instance (facing : ActionFacing) : Decidable facing.Cardinal :=
  inferInstanceAs (Decidable (facing ∈ [_, _, _, _]))

section

variable (K : Type) [CommRing K]

def PlayerState.place (player : PlayerState) : K × K :=
  (player.positionX.toInt, player.positionY.toInt)

def ActionFacing.axis (facing : ActionFacing) : K × K := (facing.x.toInt, facing.y.toInt)

/-- Where the target is from the attacker, in the frame of the facing. -/
def offset (attacker target : PlayerState) (facing : ActionFacing) : K × K :=
  Plane.along (facing.axis K) (target.place K - attacker.place K)

variable [LinearOrder K]

/-- Where an attack hits. -/
def hitbox (attacker : PlayerState) (facing : ActionFacing) (rules : Ruleset) : Set (K × K) :=
  Plane.rectangle (attacker.place K) (facing.axis K) rules.attackDepth.toInt rules.attackHalfWidth.toInt

/-- Where a player can be hit, in the frame of the attack. -/
def hurtbox (target : PlayerState) (facing : ActionFacing) (rules : Ruleset) : Set (K × K) :=
  Plane.square (target.place K) (facing.axis K) rules.playerHalfExtent.toInt

end

theorem isAxis_of_sq_le {axis : Int8} (h : axis.toInt ^ 2 ≤ 1) : IsAxis axis := by
  have hlo : -1 ≤ axis.toInt := by nlinarith
  have hhi : axis.toInt ≤ 1 := by nlinarith
  rw [IsAxis, ← Int8.toInt_inj, ← Int8.toInt_inj, ← Int8.toInt_inj]
  change axis.toInt = -1 ∨ axis.toInt = 0 ∨ axis.toInt = 1
  omega

theorem ActionFacing.cardinal_iff {facing : ActionFacing} :
    facing.Cardinal ↔ facing.x.toInt ^ 2 + facing.y.toInt ^ 2 = 1 := by
  obtain ⟨x, y⟩ := facing
  constructor
  · intro h
    simp only [Cardinal, List.mem_cons, List.not_mem_nil, or_false] at h
    rcases h with h | h | h | h <;> rw [h] <;> rfl
  · intro h
    have hx : IsAxis x := isAxis_of_sq_le (by nlinarith)
    have hy : IsAxis y := isAxis_of_sq_le (by nlinarith)
    rcases hx with rfl | rfl | rfl <;> rcases hy with rfl | rfl | rfl <;> revert h <;> decide

theorem ActionFacing.axis_normSq (K : Type) [CommRing K] {facing : ActionFacing} (h : facing.Cardinal) :
    Plane.normSq (facing.axis K) = 1 := by
  have hcast := congrArg (Int.cast : ℤ → K) (cardinal_iff.1 h)
  rw [Int.cast_add, Int.cast_pow, Int.cast_pow, Int.cast_one] at hcast
  exact hcast

/-! ### The ranges of one axis -/

section Overlap

variable {position target length halfExtent first minimum maximum : Int32}

theorem rangesOverlap_iff {firstMin firstMax secondMin secondMax : Int32} :
    rangesOverlap firstMin firstMax secondMin secondMax = true ↔
      firstMin.toInt ≤ secondMax.toInt ∧ secondMin.toInt ≤ firstMax.toInt := by
  rw [rangesOverlap, Bool.and_eq_true, decide_eq_true_iff, decide_eq_true_iff, Int32.le_iff_toInt_le,
    Int32.le_iff_toInt_le]

theorem rangesOverlap_ahead (hlength : int32 (position.toInt + length.toInt) = some first)
    (hmin : int32 (target.toInt - halfExtent.toInt) = some minimum)
    (hmax : int32 (target.toInt + halfExtent.toInt) = some maximum) :
    rangesOverlap position (position + length) (target - halfExtent) (target + halfExtent) = true ↔
      0 ≤ target.toInt - position.toInt + halfExtent.toInt ∧
        target.toInt - position.toInt - halfExtent.toInt ≤ length.toInt := by
  rw [rangesOverlap_iff, (FixedWidth.int32_add_some hlength).2, (FixedWidth.int32_sub_some hmin).2,
    (FixedWidth.int32_add_some hmax).2]
  omega

theorem rangesOverlap_behind (hlength : int32 (position.toInt - length.toInt) = some first)
    (hmin : int32 (target.toInt - halfExtent.toInt) = some minimum)
    (hmax : int32 (target.toInt + halfExtent.toInt) = some maximum) :
    rangesOverlap (position - length) position (target - halfExtent) (target + halfExtent) = true ↔
      0 ≤ position.toInt - target.toInt + halfExtent.toInt ∧
        position.toInt - target.toInt - halfExtent.toInt ≤ length.toInt := by
  rw [rangesOverlap_iff, (FixedWidth.int32_sub_some hlength).2, (FixedWidth.int32_sub_some hmin).2,
    (FixedWidth.int32_add_some hmax).2]
  omega

/-- Both sides are alike, so that the sign of the distance does not matter. -/
theorem rangesOverlap_aside {last : Int32} (hlo : int32 (position.toInt - length.toInt) = some first)
    (hhi : int32 (position.toInt + length.toInt) = some last)
    (hmin : int32 (target.toInt - halfExtent.toInt) = some minimum)
    (hmax : int32 (target.toInt + halfExtent.toInt) = some maximum) {distance : Int}
    (hdistance : distance = target.toInt - position.toInt ∨ distance = position.toInt - target.toInt) :
    rangesOverlap (position - length) (position + length) (target - halfExtent) (target + halfExtent) =
        true ↔
      -length.toInt ≤ distance + halfExtent.toInt ∧ distance - halfExtent.toInt ≤ length.toInt := by
  rw [rangesOverlap_iff, (FixedWidth.int32_sub_some hlo).2, (FixedWidth.int32_add_some hhi).2,
    (FixedWidth.int32_sub_some hmin).2, (FixedWidth.int32_add_some hmax).2]
  omega

end Overlap

/-! ### The four cases -/

section Exact

variable {attacker target : PlayerState} {facing : ActionFacing} {rules : Ruleset}

theorem offset_eq (attacker target : PlayerState) (facing : ActionFacing) :
    offset ℤ attacker target facing =
      ((target.positionX.toInt - attacker.positionX.toInt) * facing.x.toInt +
          (target.positionY.toInt - attacker.positionY.toInt) * facing.y.toInt,
        (target.positionY.toInt - attacker.positionY.toInt) * facing.x.toInt -
          (target.positionX.toInt - attacker.positionX.toInt) * facing.y.toInt) := rfl

theorem attackHitboxIntersects_iff (hfacing : facing.Cardinal)
    (hexact : (exactAttackHitboxIntersects attacker target facing rules).isSome) :
    attackHitboxIntersects attacker target facing rules = true ↔
      (0 ≤ (offset ℤ attacker target facing).1 + rules.playerHalfExtent.toInt ∧
        (offset ℤ attacker target facing).1 - rules.playerHalfExtent.toInt ≤ rules.attackDepth.toInt) ∧
      -rules.attackHalfWidth.toInt ≤
          (offset ℤ attacker target facing).2 + rules.playerHalfExtent.toInt ∧
        (offset ℤ attacker target facing).2 - rules.playerHalfExtent.toInt ≤
          rules.attackHalfWidth.toInt := by
  obtain ⟨hit, hhit⟩ := Option.isSome_iff_exists.1 hexact
  unfold exactAttackHitboxIntersects at hhit
  simp only [Option.bind_eq_bind, Option.bind_eq_some_iff] at hhit
  obtain ⟨_, hminX, _, hmaxX, _, hminY, _, hmaxY, hhit⟩ := hhit
  have hone : (1 : Int8).toInt = 1 := rfl
  have hminus : (-1 : Int8).toInt = -1 := rfl
  have hzero : (0 : Int8).toInt = 0 := rfl
  simp only [ActionFacing.Cardinal, List.mem_cons, List.not_mem_nil, or_false] at hfacing
  rw [attackHitboxIntersects, offset_eq]
  rcases hfacing with rfl | rfl | rfl | rfl
  · rw [if_pos (by decide)] at hhit ⊢
    simp only [Option.bind_eq_some_iff] at hhit
    obtain ⟨_, hdepth, _, hlo, _, hhi, -⟩ := hhit
    rw [Bool.and_eq_true, rangesOverlap_ahead hdepth hminX hmaxX,
      rangesOverlap_aside hlo hhi hminY hmaxY (.inl rfl)]
    simp only [hone, hzero, mul_one, mul_zero, add_zero, sub_zero]
  · rw [if_neg (by decide), if_pos (by decide)] at hhit ⊢
    simp only [Option.bind_eq_some_iff] at hhit
    obtain ⟨_, hdepth, _, hlo, _, hhi, -⟩ := hhit
    rw [Bool.and_eq_true, rangesOverlap_behind hdepth hminX hmaxX,
      rangesOverlap_aside hlo hhi hminY hmaxY (.inr rfl)]
    simp only [hminus, hzero, mul_neg, mul_one, mul_zero, add_zero, sub_zero, neg_sub]
  · rw [if_neg (by decide), if_neg (by decide), if_pos (by decide)] at hhit ⊢
    simp only [Option.bind_eq_some_iff] at hhit
    obtain ⟨_, hlo, _, hhi, _, hdepth, -⟩ := hhit
    rw [Bool.and_eq_true, rangesOverlap_aside hlo hhi hminX hmaxX (.inr rfl),
      rangesOverlap_ahead hdepth hminY hmaxY, and_comm]
    simp only [hone, hzero, mul_one, mul_zero, zero_add, zero_sub, neg_sub]
  · rw [if_neg (by decide), if_neg (by decide), if_neg (by decide)] at hhit ⊢
    simp only [Option.bind_eq_some_iff] at hhit
    obtain ⟨_, hlo, _, hhi, _, hdepth, -⟩ := hhit
    rw [Bool.and_eq_true, rangesOverlap_aside hlo hhi hminX hmaxX (.inl rfl),
      rangesOverlap_behind hdepth hminY hmaxY, and_comm]
    simp only [hminus, hzero, mul_neg, mul_one, mul_zero, zero_add, zero_sub, neg_sub]

variable {K : Type} [CommRing K]

theorem offset_cast (K : Type) [CommRing K] (attacker target : PlayerState) (facing : ActionFacing) :
    offset K attacker target facing =
      (((offset ℤ attacker target facing).1 : K), ((offset ℤ attacker target facing).2 : K)) := by
  simp [offset, Plane.along, ActionFacing.axis, PlayerState.place]

variable [LinearOrder K] [IsStrictOrderedRing K]

theorem hitbox_meets_hurtbox_iff (hfacing : facing.Cardinal) (hdepth : 0 ≤ rules.attackDepth.toInt)
    (hwidth : 0 ≤ rules.attackHalfWidth.toInt) (hextent : 0 ≤ rules.playerHalfExtent.toInt) :
    (hitbox K attacker facing rules ∩ hurtbox K target facing rules).Nonempty ↔
      (0 ≤ (offset K attacker target facing).1 + rules.playerHalfExtent.toInt ∧
        (offset K attacker target facing).1 - rules.playerHalfExtent.toInt ≤ rules.attackDepth.toInt) ∧
      -(rules.attackHalfWidth.toInt : K) ≤
          (offset K attacker target facing).2 + rules.playerHalfExtent.toInt ∧
        (offset K attacker target facing).2 - rules.playerHalfExtent.toInt ≤
          rules.attackHalfWidth.toInt :=
  Plane.shapes_meet_iff (facing.axis_normSq K hfacing) (Int.cast_nonneg hdepth)
    (Int.cast_nonneg hwidth) (Int.cast_nonneg hextent)

theorem attackHitboxIntersects_iff_meet (hfacing : facing.Cardinal) (hdepth : 0 ≤ rules.attackDepth)
    (hwidth : 0 ≤ rules.attackHalfWidth) (hextent : 0 ≤ rules.playerHalfExtent)
    (hexact : (exactAttackHitboxIntersects attacker target facing rules).isSome) :
    attackHitboxIntersects attacker target facing rules = true ↔
      (hitbox K attacker facing rules ∩ hurtbox K target facing rules).Nonempty := by
  rw [Int32.le_iff_toInt_le, Int32.toInt_zero] at hdepth hwidth hextent
  rw [attackHitboxIntersects_iff hfacing hexact, hitbox_meets_hurtbox_iff hfacing hdepth hwidth hextent,
    offset_cast K]
  dsimp only
  norm_cast

theorem cardinal_map {g : (K × K) ≃ᵃ[K] K × K} (hg : g ∈ Plane.motions K) (hfacing : facing.Cardinal)
    {facing' : ActionFacing} (h : facing'.axis K = g.linear (facing.axis K)) : facing'.Cardinal := by
  have hlength : Plane.normSq (facing'.axis K) = 1 := by
    rw [h, (Plane.motions_le_isometries hg).length, facing.axis_normSq K hfacing]
  rw [ActionFacing.cardinal_iff]
  have hcast : ((facing'.x.toInt ^ 2 + facing'.y.toInt ^ 2 : ℤ) : K) = (1 : ℤ) := by
    rw [Int.cast_add, Int.cast_pow, Int.cast_pow, Int.cast_one]
    exact hlength
  exact Int.cast_injective hcast

/-- Where no sum overflows, the four cases of the hit test are one: the rectangle ahead of the attacker
and the square around the target share a point. It has the same result when both players and the facing
are moved together. -/
theorem hit_test_is_one_shape (hfacing : facing.Cardinal) (hdepth : 0 ≤ rules.attackDepth)
    (hwidth : 0 ≤ rules.attackHalfWidth) (hextent : 0 ≤ rules.playerHalfExtent)
    (hexact : (exactAttackHitboxIntersects attacker target facing rules).isSome) :
    (attackHitboxIntersects attacker target facing rules = true ↔
      (hitbox K attacker facing rules ∩ hurtbox K target facing rules).Nonempty) ∧
    ∀ g ∈ Plane.motions K, ∀ (attacker' target' : PlayerState) (facing' : ActionFacing),
      attacker'.place K = g (attacker.place K) → target'.place K = g (target.place K) →
      facing'.axis K = g.linear (facing.axis K) →
      (exactAttackHitboxIntersects attacker' target' facing' rules).isSome →
      attackHitboxIntersects attacker' target' facing' rules =
        attackHitboxIntersects attacker target facing rules := by
  have hmeet := attackHitboxIntersects_iff_meet (K := K) hfacing hdepth hwidth hextent hexact
  refine ⟨hmeet, ?_⟩
  intro g hg attacker' target' facing' hattacker htarget haxis hexact'
  have hmeet' := attackHitboxIntersects_iff_meet (K := K) (cardinal_map hg hfacing haxis) hdepth hwidth
    hextent hexact'
  rw [Bool.eq_iff_iff, hmeet, hmeet', hitbox, hurtbox, hattacker, htarget, haxis]
  exact Plane.shapes_meet_map hg

end Exact

def standing (x y : Int32) : PlayerState := (newSeat "alice" x y 100 1).player

/-- An attack to the right, and the same one reflected in both axes, turned and carried elsewhere. -/
theorem hit_test_is_one_shape_moved :
    (hitbox ℤ (standing 0 0) ⟨1, 0⟩ defaultRuleset ∩
        hurtbox ℤ (standing 60 20) ⟨1, 0⟩ defaultRuleset).Nonempty ∧
      attackHitboxIntersects (standing 100 (-50)) (standing 120 (-110)) ⟨0, -1⟩ defaultRuleset =
        attackHitboxIntersects (standing 0 0) (standing 60 20) ⟨1, 0⟩ defaultRuleset := by
  obtain ⟨hmeet, hmoved⟩ := @hit_test_is_one_shape (standing 0 0) (standing 60 20) ⟨1, 0⟩
    defaultRuleset ℤ _ _ _ (by decide) (by decide) (by decide) (by decide) (by decide)
  refine ⟨hmeet.1 (by decide), ?_⟩
  refine hmoved (AffineEquiv.constVAdd ℤ (ℤ × ℤ) (100, -50) * (Plane.turn.toAffineEquiv *
      ((Plane.reflectFirst ℤ).toAffineEquiv * (Plane.reflectSecond ℤ).toAffineEquiv))) ?_ _ _ _ ?_ ?_ ?_
      (by decide)
  · exact mul_mem (Plane.constVAdd_mem_motions _) (mul_mem Plane.turn_mem_motions
      (mul_mem Plane.reflectFirst_mem_motions Plane.reflectSecond_mem_motions))
  · rfl
  · rfl
  · rfl

-- Ahead of the attacker, behind him and too far to the side.
example : [standing 60 0, standing (-30) 0, standing 0 66].map
    (attackHitboxIntersects (standing 0 0) · ⟨1, 0⟩ defaultRuleset) = [true, false, false] := by decide

/-! ### Strikes -/

section Strikes

variable {K : Type} [CommRing K] [LinearOrder K] [IsStrictOrderedRing K] {r : Room} {n : Nat}

namespace Room

/-- Whom an attack hits in a step of a match whose arithmetic is exact. -/
theorem Ranged.hits_iff (h : r.Ranged n) (hs : r.status = .active) (hdepth : 0 ≤ r.rules.attackDepth)
    (hwidth : 0 ≤ r.rules.attackHalfWidth) (hextent : 0 ≤ r.rules.playerHalfExtent) (i j : Side) :
    let attacker := (r.seats.get i).toHits r.rules (r.tick + 1)
    let target := (r.seats.get j).toHits r.rules (r.tick + 1)
    Seat.hits r.rules attacker target = true ↔ attacker.player.actionState = .lightAttackActive ∧
      (hitbox K attacker.player attacker.attackFacing r.rules ∩
        hurtbox K target.player attacker.attackFacing r.rules).Nonempty := by
  intro attacker target
  have hinside := (allInside_iff r).1 h.inside
  have hexact : (exactAttackHitboxIntersects attacker.player target.player attacker.attackFacing
      r.rules).isSome := by
    rw [exactAttackHitboxIntersects_eq h.fits (inside_toHits h.accepted (r.tick + 1) (hinside i))
      (inside_toHits h.accepted (r.tick + 1) (hinside j))]
    rfl
  unfold Seat.hits
  rw [Bool.and_eq_true, decide_eq_true_iff]
  refine and_congr_right fun hstate => ?_
  refine attackHitboxIntersects_iff_meet ?_ hdepth hwidth hextent hexact
  have hf : r.status ≠ .finished := by
    rw [hs]
    decide
  have htimed := h.seats i
  rw [h.ticking hf] at htimed
  have hhits := htimed.toHits (h.tick_succ hf) (h.toHits_phase hf i).2
  rw [hhits.locked (.inr (.inl hstate))]
  exact hhits.cardinal

end Room

/-- In every run under rules that fit, a step takes hit points from a player exactly when the light attack
of the other one is active and reaches him, the same way in all directions. -/
theorem strikes_by_shape {playerA playerB : String} {rules : Ruleset} {r₀ : Room}
    (hnew : newWithRuleset playerA playerB rules = .ok r₀) (hspawns : rules.arena.HoldsSpawns)
    (hfits : rules.Fits) (hdepth : 0 ≤ rules.attackDepth) (hwidth : 0 ≤ rules.attackHalfWidth)
    (hextent : 0 ≤ rules.playerHalfExtent) {events : List Event}
    (hs : (r₀.run events).status = .active) (i : Side) :
    let attacker := ((r₀.run events).seats.get i.other).toHits rules ((r₀.run events).tick + 1)
    let target := ((r₀.run events).seats.get i).toHits rules ((r₀.run events).tick + 1)
    ((r₀.run events).step.seats.get i).player.hp < ((r₀.run events).seats.get i).player.hp ↔
      rules.lightAttack.damage ≠ 0 ∧ attacker.player.actionState = .lightAttackActive ∧
        (hitbox K attacker.player attacker.attackFacing rules ∩
          hurtbox K target.player attacker.attackFacing rules).Nonempty := by
  obtain ⟨-, -, -, hrules, rfl⟩ := newWithRuleset_ok hnew
  have hranged := (Room.initialRoom_ranged playerA playerB hrules hspawns hfits).run events
  have hsame : ((initialRoom playerA playerB rules).run events).rules = rules := Room.run_rules _ events
  generalize (initialRoom playerA playerB rules).run events = r at *
  subst hsame
  intro attacker target
  rw [hranged.step_hp_lt_iff hs i, Room.stepDamage]
  refine Iff.trans ?_ (and_congr_right fun _ =>
    hranged.hits_iff (K := K) hs hdepth hwidth hextent i.other i)
  by_cases hhits : Seat.hits r.rules attacker target = true
  · rw [if_pos hhits]
    exact (and_iff_left hhits).symm
  · rw [if_neg hhits]
    exact iff_of_false (fun hne => hne rfl) fun hboth => hhits hboth.2

end Strikes

end PvpDuel.Simulation
