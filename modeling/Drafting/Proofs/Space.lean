import Drafting.Proofs.Exact
import Drafting.Vector3
import Mathlib.Analysis.InnerProductSpace.PiL2
import Mathlib.Analysis.InnerProductSpace.Projection.Basic
import Mathlib.Geometry.Euclidean.Angle.Unoriented.Basic

/-!
# Vectors in Euclidean space

Vectors of reals are points of Euclidean space, where distances and inner products are those of the
program. The distance of a point from a line of unit direction is the length of what is left of a
vector from the line to the point when its part along the line is taken away (`offLine_eq`), so no
distance changes by more than what it is measured between is moved (`abs_distance_sub_le`,
`abs_offLine_sub_le`). It is the least distance from the points of the line (`isLeast_offLine`), and
the inner product of directions tells when they are parallel and what angle they make
(`abs_dot_eq_one_iff`, `acos_clamp_dot`).
-/

namespace Drafting

namespace Vector3

open scoped InnerProductSpace

/-- A vector as a point of Euclidean space. -/
noncomputable def toSpace (v : Vector3 ℝ) : EuclideanSpace ℝ (Fin 3) :=
  WithLp.toLp _ ![v.x, v.y, v.z]

variable (p q u v : Vector3 ℝ)

lemma inner_toSpace : ⟪p.toSpace, q.toSpace⟫_ℝ = p.dot q := by
  simp [toSpace, dot, PiLp.inner_apply, Fin.sum_univ_three, mul_comm]

lemma toSpace_sub : (p.sub q).toSpace = p.toSpace - q.toSpace := by
  ext i
  fin_cases i <;> rfl

lemma sq_norm_toSpace : ‖v.toSpace‖ ^ 2 = v.dot v := by
  rw [← real_inner_self_eq_norm_sq, inner_toSpace]

lemma norm_eq : v.norm = ‖v.toSpace‖ := by
  rw [norm, ← sq_norm_toSpace, Scalar.greater_eq_max, max_eq_left (sq_nonneg _)]
  exact Real.sqrt_sq (norm_nonneg _)

lemma distance_eq : p.distance q = ‖p.toSpace - q.toSpace‖ := by
  rw [distance, norm_eq, toSpace_sub]

/-- A move along an axis is as long as it says. -/
lemma norm_toSpace_shift_sub (axis : Axis) (delta : ℝ) :
    ‖(v.shift axis delta).toSpace - v.toSpace‖ = |delta| := by
  have square : ((v.shift axis delta).sub v).dot ((v.shift axis delta).sub v) = delta ^ 2 := by
    cases axis <;> simp [shift, sub, joint, map, dot, Scalar.IsPlain.increase_eq,
      Scalar.IsPlain.after_eq, sq]
  rw [← toSpace_sub, ← sq_eq_sq₀ (norm_nonneg _) (abs_nonneg _), sq_norm_toSpace, square, sq_abs]

variable {u}

/-- The distance from a line is the length of what is not along the line. -/
lemma offLine_eq (unit : u.norm = 1) :
    p.offLine q u = ‖(ℝ ∙ u.toSpace)ᗮ.starProjection (p.toSpace - q.toSpace)‖ := by
  rw [norm_eq] at unit
  have parts := Submodule.norm_sq_eq_add_norm_sq_starProjection (p.toSpace - q.toSpace)
    (ℝ ∙ u.toSpace)
  rw [Submodule.starProjection_unit_singleton ℝ unit, norm_smul, unit, mul_one, Real.norm_eq_abs,
    sq_abs] at parts
  have square : (p.sub q).dot (p.sub q) - (p.sub q).dot u * (p.sub q).dot u =
      ‖(ℝ ∙ u.toSpace)ᗮ.starProjection (p.toSpace - q.toSpace)‖ ^ 2 := by
    rw [← sq_norm_toSpace, ← inner_toSpace, toSpace_sub, parts, real_inner_comm]
    ring
  rw [offLine, Scalar.IsPlain.after_eq, square, Scalar.greater_eq_max, max_eq_left (sq_nonneg _)]
  exact Real.sqrt_sq (norm_nonneg _)

variable (p' q' : Vector3 ℝ)

/-- A distance between two points changes by no more than the vector between them. -/
lemma abs_distance_sub_le : |p'.distance q' - p.distance q| ≤
    ‖(p'.toSpace - q'.toSpace) - (p.toSpace - q.toSpace)‖ := by
  rw [distance_eq, distance_eq]
  exact abs_norm_sub_norm_le _ _

/-- Nor does a distance of a point from a line. -/
lemma abs_offLine_sub_le (unit : u.norm = 1) : |p'.offLine q' u - p.offLine q u| ≤
    ‖(p'.toSpace - q'.toSpace) - (p.toSpace - q.toSpace)‖ := by
  rw [offLine_eq p' q' unit, offLine_eq p q unit]
  refine (abs_norm_sub_norm_le _ _).trans ?_
  rw [← map_sub]
  exact Submodule.norm_starProjection_apply_le _ _

/-! ### Lines and angles -/

section

lemma toSpace_inj {p q : Vector3 ℝ} : p.toSpace = q.toSpace ↔ p = q := by
  constructor
  · intro same
    have coordinate (i : Fin 3) := congrArg (fun v : EuclideanSpace ℝ (Fin 3) => v i) same
    obtain ⟨x, y, z⟩ := p
    obtain ⟨x', y', z'⟩ := q
    have first : x = x' := coordinate 0
    have second : y = y' := coordinate 1
    have third : z = z' := coordinate 2
    rw [first, second, third]
  · exact congrArg toSpace

/-- The vector of the same length in the opposite sense. -/
noncomputable def opposite (v : Vector3 ℝ) : Vector3 ℝ := v.map fun c => -c

lemma toSpace_opposite (v : Vector3 ℝ) : v.opposite.toSpace = -v.toSpace := by
  ext i
  fin_cases i <;> rfl

variable {v}

/-- The points of the line through a point along a direction. -/
def line (anchor direction : Vector3 ℝ) : Set (EuclideanSpace ℝ (Fin 3)) :=
  Set.range fun t : ℝ => anchor.toSpace + t • direction.toSpace

lemma distance_eq_dist : p.distance q = dist p.toSpace q.toSpace := by
  rw [distance_eq, dist_eq_norm]

/-- The distance of a point from a line is the least of its distances from the points of the
line. -/
lemma isLeast_offLine (unit : u.norm = 1) :
    IsLeast (dist p.toSpace '' line q u) (p.offLine q u) := by
  have unit' : ‖u.toSpace‖ = 1 := norm_eq u ▸ unit
  have apart (t : ℝ) : p.toSpace - (q.toSpace + t • u.toSpace) =
      p.toSpace - q.toSpace - t • u.toSpace := sub_add_eq_sub_sub ..
  rw [offLine_eq p q unit]
  constructor
  · -- the part along the line leads to the nearest of its points
    refine ⟨_, ⟨⟪u.toSpace, p.toSpace - q.toSpace⟫_ℝ, rfl⟩, ?_⟩
    rw [dist_eq_norm, apart, Submodule.starProjection_orthogonal_val,
      Submodule.starProjection_unit_singleton ℝ unit']
  · rintro _ ⟨_, ⟨t, rfl⟩, rfl⟩
    have along : (ℝ ∙ u.toSpace)ᗮ.starProjection (t • u.toSpace) = 0 := by
      rw [Submodule.starProjection_orthogonal_val, Submodule.starProjection_eq_self_iff.mpr
        (Submodule.smul_mem _ t (Submodule.mem_span_singleton_self _)), sub_self]
    have same : (ℝ ∙ u.toSpace)ᗮ.starProjection (p.toSpace - q.toSpace) =
        (ℝ ∙ u.toSpace)ᗮ.starProjection (p.toSpace - q.toSpace - t • u.toSpace) := by
      rw [map_sub _ _ (t • u.toSpace), along, sub_zero]
    rw [dist_eq_norm, apart, same]
    exact Submodule.norm_starProjection_apply_le _ _

lemma offLine_eq_iff (unit : u.norm = 1) {r : ℝ} :
    p.offLine q u = r ↔ IsLeast (dist p.toSpace '' line q u) r :=
  ⟨fun same => same ▸ isLeast_offLine p q unit, (isLeast_offLine p q unit).unique⟩

/-- The inner product of directions of unit length is one if they are equal, and minus one if they
are opposite. -/
lemma abs_dot_eq_one_iff (unit : u.norm = 1) (unit' : v.norm = 1) :
    |u.dot v| = 1 ↔ u = v ∨ u = v.opposite := by
  rw [norm_eq] at unit unit'
  rw [abs_eq zero_le_one, ← inner_toSpace, inner_eq_one_iff_of_norm_eq_one unit unit',
    inner_eq_neg_one_iff_of_norm_eq_one unit unit', ← toSpace_opposite, toSpace_inj, toSpace_inj]

/-- The arc cosine of the inner product of directions of unit length is the angle between them. -/
lemma acos_clamp_dot (unit : u.norm = 1) (unit' : v.norm = 1) :
    Scalar.acos (Scalar.clamp (u.dot v) (-1) 1) =
      InnerProductGeometry.angle u.toSpace v.toSpace := by
  rw [norm_eq] at unit unit'
  have within := abs_real_inner_le_norm u.toSpace v.toSpace
  rw [unit, unit', mul_one, inner_toSpace, abs_le] at within
  have clamped : Scalar.clamp (u.dot v) (-1) 1 = u.dot v := by
    have lesser : Scalar.lesser 1 (u.dot v) = u.dot v := by
      change (if u.dot v < 1 then u.dot v else 1) = u.dot v
      split
      · rfl
      · next above => exact le_antisymm (not_lt.mp above) within.2
    rw [Scalar.clamp, lesser, Scalar.greater_eq_max, max_eq_right within.1]
  rw [clamped, InnerProductGeometry.angle, unit, unit', mul_one, div_one, inner_toSpace]
  rfl

end

end Vector3

end Drafting
