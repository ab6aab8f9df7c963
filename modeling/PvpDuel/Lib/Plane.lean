import Mathlib.Algebra.Group.Subgroup.Lattice
import Mathlib.Algebra.Order.Ring.Defs
import Mathlib.LinearAlgebra.AffineSpace.AffineEquiv
import Mathlib.LinearAlgebra.DFinsupp
import Mathlib.Algebra.Group.Pointwise.Set.Basic
import Mathlib.Order.Interval.Set.Basic
import Mathlib.Tactic.Abel
import Mathlib.Tactic.Linarith
import Mathlib.Tactic.LinearCombination

/-!
# Rectangles in turned frames

A frame has an origin and a first axis; its second axis is the first one after a quarter turn. Whether a
rectangle at one point and a square at another share a point is a matter of the coordinates of the one
point in the frame of the other, and it does not change under the motions of the plane.
-/

namespace PvpDuel.Plane

/-! ### Frames -/

section Frames

variable {K : Type} [CommRing K]

/-- A quarter turn, which takes the first axis to the second. -/
def turn : (K × K) ≃ₗ[K] K × K where
  toFun v := (-v.2, v.1)
  invFun v := (v.2, -v.1)
  map_add' _ _ := Prod.ext (neg_add _ _) rfl
  map_smul' _ _ := Prod.ext (mul_neg _ _).symm rfl
  left_inv _ := Prod.ext rfl (neg_neg _)
  right_inv _ := Prod.ext (neg_neg _) rfl

@[simp] theorem turn_fst (v : K × K) : (turn v).1 = -v.2 := rfl

@[simp] theorem turn_snd (v : K × K) : (turn v).2 = v.1 := rfl

def point (origin axis coordinates : K × K) : K × K :=
  origin + coordinates.1 • axis + coordinates.2 • turn axis

/-- The coordinates of a vector along an axis and its quarter turn. -/
def along (axis v : K × K) : K × K := (v.1 * axis.1 + v.2 * axis.2, v.2 * axis.1 - v.1 * axis.2)

def normSq (v : K × K) : K := v.1 ^ 2 + v.2 ^ 2

variable {origin centre axis : K × K}

theorem along_point (h : normSq axis = 1) (c : K × K) : along axis (point origin axis c - origin) = c := by
  unfold normSq at h
  refine Prod.ext ?_ ?_
  · simp [along, point]
    linear_combination c.1 * h
  · simp [along, point]
    linear_combination c.2 * h

theorem point_along (h : normSq axis = 1) (p : K × K) :
    point origin axis (along axis (p - origin)) = p := by
  unfold normSq at h
  refine Prod.ext ?_ ?_
  · simp [along, point]
    linear_combination (p.1 - origin.1) * h
  · simp [along, point]
    linear_combination (p.2 - origin.2) * h

theorem point_injective (h : normSq axis = 1) : Function.Injective (point origin axis) :=
  Function.LeftInverse.injective (g := fun p => along axis (p - origin)) (along_point h)

theorem point_add (d c : K × K) : point (point origin axis d) axis c = point origin axis (d + c) := by
  unfold point
  rw [Prod.fst_add, Prod.snd_add, add_smul, add_smul]
  abel

end Frames

/-! ### Shapes -/

section Shapes

variable {K : Type} [CommRing K] [LinearOrder K]

/-- From its origin, as far ahead as `depth`, and to both sides as far as `halfWidth`. -/
def rectangle (origin axis : K × K) (depth halfWidth : K) : Set (K × K) :=
  point origin axis '' (Set.Icc 0 depth ×ˢ Set.Icc (-halfWidth) halfWidth)

def square (centre axis : K × K) (halfExtent : K) : Set (K × K) :=
  point centre axis '' (Set.Icc (-halfExtent) halfExtent ×ˢ Set.Icc (-halfExtent) halfExtent)

variable [IsStrictOrderedRing K] {origin centre axis : K × K} {depth halfWidth halfExtent : K}

theorem neg_add_mem_Icc {d x : K} :
    -d + x ∈ Set.Icc (-halfExtent) halfExtent ↔ x ∈ Set.Icc (d - halfExtent) (d + halfExtent) := by
  rw [Set.mem_Icc, Set.mem_Icc]
  constructor
  · rintro ⟨hlo, hhi⟩
    constructor <;> linarith
  · rintro ⟨hlo, hhi⟩
    constructor <;> linarith

theorem square_eq (h : normSq axis = 1) (origin centre : K × K) : square centre axis halfExtent =
    point origin axis ''
      (Set.Icc ((along axis (centre - origin)).1 - halfExtent)
          ((along axis (centre - origin)).1 + halfExtent) ×ˢ
        Set.Icc ((along axis (centre - origin)).2 - halfExtent)
          ((along axis (centre - origin)).2 + halfExtent)) := by
  have hcentre : point centre axis =
      point origin axis ∘ fun c => along axis (centre - origin) + c := by
    funext c
    rw [Function.comp_apply, ← point_add, point_along h]
  rw [square, hcentre, Set.image_comp, Set.image_add_left]
  congr 1
  ext c
  exact and_congr neg_add_mem_Icc neg_add_mem_Icc

omit [CommRing K] [IsStrictOrderedRing K] in
theorem nonempty_Icc_inter_Icc {a b c d : K} (hab : a ≤ b) (hcd : c ≤ d) :
    (Set.Icc a b ∩ Set.Icc c d).Nonempty ↔ a ≤ d ∧ c ≤ b := by
  rw [Set.Icc_inter_Icc, Set.nonempty_Icc, sup_le_iff, le_inf_iff, le_inf_iff]
  exact ⟨fun h => ⟨h.1.2, h.2.1⟩, fun h => ⟨⟨hab, h.1⟩, h.2, hcd⟩⟩

/-- The shapes share a point when they do so along each axis of the frame. -/
theorem shapes_meet_iff (h : normSq axis = 1) (hdepth : 0 ≤ depth) (hwidth : 0 ≤ halfWidth)
    (hextent : 0 ≤ halfExtent) :
    (rectangle origin axis depth halfWidth ∩ square centre axis halfExtent).Nonempty ↔
      (0 ≤ (along axis (centre - origin)).1 + halfExtent ∧
        (along axis (centre - origin)).1 - halfExtent ≤ depth) ∧
      -halfWidth ≤ (along axis (centre - origin)).2 + halfExtent ∧
        (along axis (centre - origin)).2 - halfExtent ≤ halfWidth := by
  rw [rectangle, square_eq h origin centre, ← Set.image_inter (point_injective h),
    Set.image_nonempty, Set.prod_inter_prod, Set.prod_nonempty_iff,
    nonempty_Icc_inter_Icc hdepth (by linarith), nonempty_Icc_inter_Icc (by linarith) (by linarith)]

end Shapes

/-! ### Motions -/

section Motions

variable (K : Type) [CommRing K]

def reflectFirst : (K × K) ≃ₗ[K] K × K := (LinearEquiv.neg K).prodCongr (LinearEquiv.refl K K)

def reflectSecond : (K × K) ≃ₗ[K] K × K := (LinearEquiv.refl K K).prodCongr (LinearEquiv.neg K)

/-- All that translations, quarter turns and reflections in the two axes make up. -/
def motions : Subgroup ((K × K) ≃ᵃ[K] K × K) :=
  Subgroup.closure (Set.range (AffineEquiv.constVAdd K (K × K)) ∪
    {turn.toAffineEquiv, (reflectFirst K).toAffineEquiv, (reflectSecond K).toAffineEquiv})

variable {K}

theorem constVAdd_mem_motions (v : K × K) : AffineEquiv.constVAdd K (K × K) v ∈ motions K :=
  Subgroup.subset_closure (.inl ⟨v, rfl⟩)

theorem turn_mem_motions : turn.toAffineEquiv ∈ motions K :=
  Subgroup.subset_closure (.inr (.inl rfl))

theorem reflectFirst_mem_motions : (reflectFirst K).toAffineEquiv ∈ motions K :=
  Subgroup.subset_closure (.inr (.inr (.inl rfl)))

theorem reflectSecond_mem_motions : (reflectSecond K).toAffineEquiv ∈ motions K :=
  Subgroup.subset_closure (.inr (.inr (.inr rfl)))

/-- Lengths are kept, and so are quarter turns or all of them are turned round. -/
structure Isometry (f : (K × K) ≃ₗ[K] K × K) : Prop where
  length : ∀ v, normSq (f v) = normSq v
  turns : (∀ v, f (turn v) = turn (f v)) ∨ ∀ v, f (turn v) = -turn (f v)

theorem Isometry.mul {f g : (K × K) ≃ₗ[K] K × K} (hf : Isometry f) (hg : Isometry g) :
    Isometry (f * g) := by
  refine ⟨fun v => (hf.length (g v)).trans (hg.length v), ?_⟩
  rcases hf.turns with hf | hf
  · rcases hg.turns with hg | hg
    · exact .inl fun v => (congrArg f (hg v)).trans (hf (g v))
    · refine .inr fun v => (congrArg f (hg v)).trans ?_
      rw [map_neg, hf]
      rfl
  · rcases hg.turns with hg | hg
    · exact .inr fun v => (congrArg f (hg v)).trans (hf (g v))
    · refine .inl fun v => (congrArg f (hg v)).trans ?_
      rw [map_neg, hf, neg_neg]
      rfl

theorem Isometry.inv {f : (K × K) ≃ₗ[K] K × K} (hf : Isometry f) : Isometry f⁻¹ := by
  have hcancel : ∀ v, f (f⁻¹ v) = v := f.apply_symm_apply
  refine ⟨fun v => ?_, hf.turns.imp (fun hturn v => ?_) fun hturn v => ?_⟩
  · rw [← hf.length, hcancel]
  · apply f.injective
    rw [hcancel, hturn, hcancel]
  · apply f.injective
    rw [hcancel, map_neg, hturn, hcancel, neg_neg]

def isometries : Subgroup ((K × K) ≃ᵃ[K] K × K) where
  carrier := {g | Isometry g.linear}
  mul_mem' hf hg := hf.mul hg
  one_mem' := ⟨fun _ => rfl, .inl fun _ => rfl⟩
  inv_mem' hf := hf.inv

theorem motions_le_isometries : motions K ≤ isometries := by
  rw [motions, Subgroup.closure_le]
  rintro g (⟨v, rfl⟩ | rfl | rfl | rfl)
  · exact ⟨fun _ => rfl, .inl fun _ => rfl⟩
  · refine ⟨fun v => ?_, .inl fun _ => rfl⟩
    change (-v.2) ^ 2 + v.1 ^ 2 = v.1 ^ 2 + v.2 ^ 2
    ring
  · refine ⟨fun v => ?_, .inr fun v => Prod.ext ?_ ?_⟩
    · change (-v.1) ^ 2 + v.2 ^ 2 = v.1 ^ 2 + v.2 ^ 2
      ring
    · rfl
    · exact (neg_neg v.1).symm
  · refine ⟨fun v => ?_, .inr fun v => Prod.ext ?_ rfl⟩
    · change v.1 ^ 2 + (-v.2) ^ 2 = v.1 ^ 2 + v.2 ^ 2
      ring
    · change -v.2 = - - -v.2
      rw [neg_neg]

variable {origin centre axis : K × K} {g : (K × K) ≃ᵃ[K] K × K}

/-- A motion takes a frame to a frame, whose second axis may be turned round. -/
theorem map_point (hg : Isometry g.linear) (origin axis : K × K) :
    (∀ c, g (point origin axis c) = point (g origin) (g.linear axis) c) ∨
      ∀ c, g (point origin axis c) = point (g origin) (g.linear axis) (c.1, -c.2) := by
  have hmap : ∀ c : K × K, g (point origin axis c) =
      g origin + c.1 • g.linear axis + c.2 • g.linear (turn axis) := by
    intro c
    have hpoint : point origin axis c = (c.1 • axis + c.2 • turn axis) +ᵥ origin := by
      rw [point, vadd_eq_add, add_assoc, add_comm]
    rw [hpoint, g.map_vadd, map_add, map_smul, map_smul, vadd_eq_add, add_comm, add_assoc]
  rcases hg.turns with hturns | hturns
  · refine .inl fun c => ?_
    rw [hmap, hturns]
    rfl
  · refine .inr fun c => ?_
    rw [hmap, hturns, smul_neg, ← neg_smul]
    rfl

/-- A shape that is the same on both sides of the first axis is taken to one with the same coordinates. -/
theorem image_point (hg : Isometry g.linear) {coordinates : Set (K × K)}
    (hsides : ∀ c, (c.1, -c.2) ∈ coordinates ↔ c ∈ coordinates) :
    g '' (point origin axis '' coordinates) = point (g origin) (g.linear axis) '' coordinates := by
  rw [Set.image_image]
  rcases map_point hg origin axis with hpoint | hpoint
  · exact Set.image_congr' hpoint
  · ext p
    constructor
    · rintro ⟨c, hc, rfl⟩
      exact ⟨(c.1, -c.2), (hsides c).2 hc, (hpoint c).symm⟩
    · rintro ⟨c, hc, rfl⟩
      refine ⟨(c.1, -c.2), (hsides c).2 hc, (hpoint _).trans ?_⟩
      rw [neg_neg]

theorem neg_mem_Icc_iff [LinearOrder K] [IsStrictOrderedRing K] {bound x : K} :
    -x ∈ Set.Icc (-bound) bound ↔ x ∈ Set.Icc (-bound) bound := by
  rw [Set.mem_Icc, Set.mem_Icc, neg_le_neg_iff, neg_le]
  exact and_comm

/-- Whether the shapes share a point does not change when they are moved. -/
theorem shapes_meet_map [LinearOrder K] [IsStrictOrderedRing K] (hg : g ∈ motions K)
    {depth halfWidth halfExtent : K} :
    (rectangle (g origin) (g.linear axis) depth halfWidth ∩
        square (g centre) (g.linear axis) halfExtent).Nonempty ↔
      (rectangle origin axis depth halfWidth ∩ square centre axis halfExtent).Nonempty := by
  have hisometry : Isometry g.linear := motions_le_isometries hg
  have hrectangle : g '' rectangle origin axis depth halfWidth =
      rectangle (g origin) (g.linear axis) depth halfWidth :=
    image_point hisometry fun c => and_congr_right fun _ => neg_mem_Icc_iff
  have hsquare : g '' square centre axis halfExtent =
      square (g centre) (g.linear axis) halfExtent :=
    image_point hisometry fun c => and_congr_right fun _ => neg_mem_Icc_iff
  rw [← hrectangle, ← hsquare, ← Set.image_inter g.injective, Set.image_nonempty]

end Motions

end PvpDuel.Plane
