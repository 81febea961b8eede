import Drafting.Proofs.Nudging

/-!
# What relations mean

A relation between entities that have all it needs means something in Euclidean space: that points
are the same, that directions are parallel or at right angles, that the nearest point of a line is
so far away (`Relation.Means`). In exact arithmetic, and with directions of unit length, a
constraint can be measured if and only if it means something for the entities that it names, and its
residual is zero if and only if that is true (`Constraint.residual_eq_zero_iff`).
-/

namespace Drafting


variable {ν : Type} [Name ν]

/-- What a relation means for entities that have all it needs. The entities are those that a
constraint names, in the order it names them, and a target is of account where one is driven for. -/
inductive Relation.Means (target : ℝ) : Relation → List (Entity ν ℝ) → Prop → Prop
  /-- The positions are the same. -/
  | coincident {a b : Entity ν ℝ} {rest : List (Entity ν ℝ)} {p q : Vector3 ℝ} :
      a.position = some p → b.position = some q →
      Means target .coincident (a :: b :: rest) (p = q)
  /-- The directions are the same, or opposite. -/
  | parallel {a b : Entity ν ℝ} {rest : List (Entity ν ℝ)} {u v : Vector3 ℝ} :
      a.direction = some u → b.direction = some v →
      Means target .parallel (a :: b :: rest) (u = v ∨ u = v.opposite)
  /-- The directions are at right angles. -/
  | perpendicular {a b : Entity ν ℝ} {rest : List (Entity ν ℝ)} {u v : Vector3 ℝ} :
      a.direction = some u → b.direction = some v →
      Means target .perpendicular (a :: b :: rest) (u.dot v = 0)
  /-- The point of the line that is nearest to the centre of the circle lies on the circle. -/
  | tangent {circle line : Entity ν ℝ} {rest : List (Entity ν ℝ)} {r : ℝ}
      {centre anchor u : Vector3 ℝ} :
      circle.kind = .circle → line.kind = .line → circle.properRadius? = some r →
      circle.position = some centre → line.position = some anchor → line.direction = some u →
      Means target .tangent (circle :: line :: rest)
        (IsLeast (dist centre.toSpace '' Vector3.line anchor u) r)
  /-- The direction does not rise. -/
  | horizontal {a : Entity ν ℝ} {rest : List (Entity ν ℝ)} {u : Vector3 ℝ} :
      a.direction = some u → Means target .horizontal (a :: rest) (u.y = 0)
  /-- The direction does not run. -/
  | vertical {a : Entity ν ℝ} {rest : List (Entity ν ℝ)} {u : Vector3 ℝ} :
      a.direction = some u → Means target .vertical (a :: rest) (u.x = 0)
  /-- The points are as far from each other as they should be. -/
  | distance {a b : Entity ν ℝ} {rest : List (Entity ν ℝ)} {p q : Vector3 ℝ} :
      a.kind = .point → b.kind = .point → a.position = some p → b.position = some q →
      Means target .distance (a :: b :: rest) (dist p.toSpace q.toSpace = target)
  /-- The point of the line that is nearest to a point is as far from it as it should be. -/
  | distanceOffLine {a line : Entity ν ℝ} {rest : List (Entity ν ℝ)}
      {p anchor u : Vector3 ℝ} :
      a.kind = .point → line.kind = .line → a.position = some p →
      line.position = some anchor → line.direction = some u →
      Means target .distance (a :: line :: rest)
        (IsLeast (dist p.toSpace '' Vector3.line anchor u) target)
  /-- The angle between the directions is what it should be. -/
  | angle {a b : Entity ν ℝ} {rest : List (Entity ν ℝ)} {u v : Vector3 ℝ} :
      a.direction = some u → b.direction = some v →
      Means target .angle (a :: b :: rest)
        (InnerProductGeometry.angle u.toSpace v.toSpace = target)
  /-- The radius is what it should be. -/
  | radius {a : Entity ν ℝ} {rest : List (Entity ν ℝ)} {r : ℝ} :
      a.kind.isRound = true → a.properRadius? = some r →
      Means target .radius (a :: rest) (r = target)
  /-- The lines are equally long. -/
  | equalLengths {a b : Entity ν ℝ} {rest : List (Entity ν ℝ)} {m n : ℝ} :
      a.kind = .line → b.kind = .line → a.parameters.get? (Name.ofText "length") = some m →
      b.parameters.get? (Name.ofText "length") = some n →
      Means target .equal (a :: b :: rest) (m = n)
  /-- The radii are equal. -/
  | equalRadii {a b : Entity ν ℝ} {rest : List (Entity ν ℝ)} {r s : ℝ} :
      a.kind.isRound = true → b.kind.isRound = true → a.properRadius? = some r →
      b.properRadius? = some s → Means target .equal (a :: b :: rest) (r = s)

namespace Relation.Means

variable {target : ℝ} {relation : Relation} {entities : List (Entity ν ℝ)} {statement : Prop}

/-- A difference is zero if and only if the numbers are the same. -/
lemma abs_sub_eq_zero_iff {x y : ℝ} : Scalar.abs (x - y) = 0 ↔ x = y :=
  abs_eq_zero.trans sub_eq_zero

/-- Where a relation means something for entities, its formula gives a number, and this is zero if
and only if what the relation means is true. -/
lemma exists_formula (means : relation.Means target entities statement)
    (unit : ∀ e ∈ entities, e.HasUnitDirection) :
    ∃ x, Measure.formula relation target entities = some x ∧ (x = 0 ↔ statement) := by
  cases means with
  | @coincident a b rest p q first second =>
    refine ⟨p.distance q, by simp [Measure.formula, Measure.coincident, first, second], ?_⟩
    rw [Vector3.distance_eq_dist, dist_eq_zero, Vector3.toSpace_inj]
  | @parallel a b rest u v first second =>
    refine ⟨Scalar.abs (Scalar.abs (u.dot v) - 1),
      by simp [Measure.formula, Measure.parallel, first, second], ?_⟩
    have unitU := unit a (by simp) u first
    have unitV := unit b (by simp) v second
    exact abs_sub_eq_zero_iff.trans (Vector3.abs_dot_eq_one_iff unitU unitV)
  | @perpendicular a b rest u v first second =>
    exact ⟨Scalar.abs (u.dot v), by simp [Measure.formula, Measure.perpendicular, first, second],
      abs_eq_zero⟩
  | @tangent circle line rest r centre anchor u round straight radius there anchored directed =>
    refine ⟨Scalar.abs (centre.offLine anchor u - r), by simp [Measure.formula, Measure.tangent,
      round, straight, radius, there, anchored, directed], ?_⟩
    have unitU := unit line (by simp) u directed
    exact abs_sub_eq_zero_iff.trans (Vector3.offLine_eq_iff centre anchor unitU)
  | @horizontal a rest u directed =>
    exact ⟨Scalar.abs u.y, by simp [Measure.formula, Measure.horizontal, directed], abs_eq_zero⟩
  | @vertical a rest u directed =>
    exact ⟨Scalar.abs u.x, by simp [Measure.formula, Measure.vertical, directed], abs_eq_zero⟩
  | @distance a b rest p q point point' first second =>
    refine ⟨Scalar.abs (p.distance q - target), by simp [Measure.formula, Measure.distance, point,
      point', first, second], ?_⟩
    rw [abs_sub_eq_zero_iff, Vector3.distance_eq_dist]
  | @distanceOffLine a line rest p anchor u point straight there anchored directed =>
    refine ⟨Scalar.abs (p.offLine anchor u - target), by simp [Measure.formula, Measure.distance,
      point, straight, there, anchored, directed], ?_⟩
    have unitU := unit line (by simp) u directed
    exact abs_sub_eq_zero_iff.trans (Vector3.offLine_eq_iff p anchor unitU)
  | @angle a b rest u v first second =>
    refine ⟨Scalar.abs (Scalar.acos (Scalar.clamp (u.dot v) (-1) 1) - target),
      by simp [Measure.formula, Measure.angle, first, second], ?_⟩
    have unitU := unit a (by simp) u first
    have unitV := unit b (by simp) v second
    rw [abs_sub_eq_zero_iff, Vector3.acos_clamp_dot unitU unitV]
  | @radius a rest r round there =>
    exact ⟨Scalar.abs (r - target), by simp [Measure.formula, Measure.radius, round, there],
      abs_sub_eq_zero_iff⟩
  | @equalLengths a b rest m n straight straight' first second =>
    exact ⟨Scalar.abs (m - n), by simp [Measure.formula, Measure.equal, straight, straight', first,
      second], abs_sub_eq_zero_iff⟩
  | @equalRadii a b rest r s round round' first second =>
    have curved : ¬(a.kind = .line ∧ b.kind = .line) := by
      rintro ⟨straight, -⟩
      rw [straight] at round
      cases round
    exact ⟨Scalar.abs (r - s), by simp [Measure.formula, Measure.equal, curved, round, round',
      first, second], abs_sub_eq_zero_iff⟩

end Relation.Means

section

variable {target x : ℝ} {relation : Relation} {entities : List (Entity ν ℝ)}

/-- A formula between two entities gives no number for fewer of them. -/
lemma Measure.exists_pair (measured : relation.isMeasured = true)
    (found : formula relation target entities = some x) (binary : relation.arity? = some 2) :
    ∃ a b rest, entities = a :: b :: rest := by
  match entities with
  | [] | [_] =>
    cases relation <;> simp [Relation.isMeasured, Relation.arity?, formula, coincident, parallel,
      perpendicular, tangent, distance, angle, equal] at measured binary found
  | a :: b :: rest => exact ⟨a, b, rest, rfl⟩

lemma Measure.exists_single (measured : relation.isMeasured = true)
    (found : formula relation target entities = some x) : ∃ a rest, entities = a :: rest := by
  match entities with
  | [] =>
    cases relation <;> simp [Relation.isMeasured, formula, coincident, parallel, perpendicular,
      tangent, horizontal, vertical, distance, angle, radius, equal] at measured found
  | a :: rest => exact ⟨a, rest, rfl⟩

/-- Where the formula of a relation gives a number, the relation means something for the
entities. -/
lemma Measure.exists_means (measured : relation.isMeasured = true)
    (found : formula relation target entities = some x) :
    ∃ statement, relation.Means target entities statement := by
  have pair := exists_pair measured found
  have single := exists_single measured found
  cases relation with
  | coincident =>
    obtain ⟨a, b, rest, rfl⟩ := pair rfl
    obtain ⟨p, first, found⟩ := Option.bind_eq_some_iff.mp found
    obtain ⟨q, second, -⟩ := Option.bind_eq_some_iff.mp found
    exact ⟨_, .coincident first second⟩
  | parallel =>
    obtain ⟨a, b, rest, rfl⟩ := pair rfl
    obtain ⟨u, first, found⟩ := Option.bind_eq_some_iff.mp found
    obtain ⟨v, second, -⟩ := Option.bind_eq_some_iff.mp found
    exact ⟨_, .parallel first second⟩
  | perpendicular =>
    obtain ⟨a, b, rest, rfl⟩ := pair rfl
    obtain ⟨u, first, found⟩ := Option.bind_eq_some_iff.mp found
    obtain ⟨v, second, -⟩ := Option.bind_eq_some_iff.mp found
    exact ⟨_, .perpendicular first second⟩
  | angle =>
    obtain ⟨a, b, rest, rfl⟩ := pair rfl
    obtain ⟨u, first, found⟩ := Option.bind_eq_some_iff.mp found
    obtain ⟨v, second, -⟩ := Option.bind_eq_some_iff.mp found
    exact ⟨_, .angle first second⟩
  | horizontal =>
    obtain ⟨a, rest, rfl⟩ := single
    obtain ⟨u, directed, -⟩ := Option.bind_eq_some_iff.mp found
    exact ⟨_, .horizontal directed⟩
  | vertical =>
    obtain ⟨a, rest, rfl⟩ := single
    obtain ⟨u, directed, -⟩ := Option.bind_eq_some_iff.mp found
    exact ⟨_, .vertical directed⟩
  | radius =>
    obtain ⟨a, rest, rfl⟩ := single
    obtain ⟨round, found⟩ := Option.ite_none_right_eq_some.mp found
    obtain ⟨r, there, -⟩ := Option.bind_eq_some_iff.mp found
    exact ⟨_, .radius round there⟩
  | tangent =>
    obtain ⟨a, b, rest, rfl⟩ := pair rfl
    obtain ⟨⟨round, straight⟩, found⟩ := Option.ite_none_right_eq_some.mp found
    obtain ⟨r, radius, found⟩ := Option.bind_eq_some_iff.mp found
    obtain ⟨centre, there, found⟩ := Option.bind_eq_some_iff.mp found
    obtain ⟨anchor, anchored, found⟩ := Option.bind_eq_some_iff.mp found
    obtain ⟨u, directed, -⟩ := Option.bind_eq_some_iff.mp found
    exact ⟨_, .tangent round straight radius there anchored directed⟩
  | distance =>
    obtain ⟨a, b, rest, rfl⟩ := pair rfl
    rw [formula, distance] at found
    split at found
    · next points =>
      obtain ⟨p, first, found⟩ := Option.bind_eq_some_iff.mp found
      obtain ⟨q, second, -⟩ := Option.bind_eq_some_iff.mp found
      exact ⟨_, .distance points.1 points.2 first second⟩
    · obtain ⟨⟨point, straight⟩, found⟩ := Option.ite_none_right_eq_some.mp found
      obtain ⟨p, there, found⟩ := Option.bind_eq_some_iff.mp found
      obtain ⟨anchor, anchored, found⟩ := Option.bind_eq_some_iff.mp found
      obtain ⟨u, directed, -⟩ := Option.bind_eq_some_iff.mp found
      exact ⟨_, .distanceOffLine point straight there anchored directed⟩
  | equal =>
    obtain ⟨a, b, rest, rfl⟩ := pair rfl
    rw [formula, equal] at found
    split at found
    · next straight =>
      obtain ⟨m, first, found⟩ := Option.bind_eq_some_iff.mp found
      obtain ⟨n, second, -⟩ := Option.bind_eq_some_iff.mp found
      exact ⟨_, .equalLengths straight.1 straight.2 first second⟩
    · obtain ⟨⟨round, round'⟩, found⟩ := Option.ite_none_right_eq_some.mp found
      obtain ⟨r, first, found⟩ := Option.bind_eq_some_iff.mp found
      obtain ⟨s, second, -⟩ := Option.bind_eq_some_iff.mp found
      exact ⟨_, .equalRadii round round' first second⟩
  | concentric | symmetric | fixed | unknown => cases measured

end

namespace Constraint

/-- What a constraint means for the entities that it names and that are there. -/
def Means (c : Constraint ν ℝ) (entities : Snapshot ν ℝ) (statement : Prop) : Prop :=
  c.relation.Means c.target (c.resolve entities) statement

variable {c : Constraint ν ℝ} {entities : Snapshot ν ℝ} {x : ℝ}

lemma residual_eq_measured_iff : c.residual entities = .measured x ↔
    Measure.formula c.relation c.target (c.resolve entities) = some x := by
  refine ⟨formula_of_residual, fun found => ?_⟩
  have target : (Component.ofReal c.target : ℝ) = c.target := rfl
  rw [residual, target, found]
  rfl

/-- A constraint between entities with directions of unit length can be measured if and only if it
means something for them, and then its residual is zero if and only if what it means is true. -/
theorem residual_eq_zero_iff (c : Constraint ν ℝ) (entities : Snapshot ν ℝ)
    (unit : ∀ id ∈ c.entities, ∀ e, entities id = some e → e.HasUnitDirection) :
    (c.relation.isMeasured = true →
      (c.residual entities ≠ .infeasible ↔ ∃ statement, c.Means entities statement)) ∧
    ∀ statement, c.Means entities statement →
      (c.residual entities = .measured 0 ↔ statement) := by
  have unit : ∀ e ∈ c.resolve entities, e.HasUnitDirection := by
    intro e found
    obtain ⟨id, named, found⟩ := List.mem_filterMap.mp found
    exact unit id named e found
  constructor
  · intro measured
    constructor
    · intro feasible
      cases residual : c.residual entities with
      | infeasible => exact absurd residual feasible
      | measured x => exact Measure.exists_means measured (residual_eq_measured_iff.mp residual)
    · rintro ⟨statement, means⟩ infeasible
      obtain ⟨x, found, -⟩ := means.exists_formula unit
      rw [residual_eq_measured_iff.mpr found] at infeasible
      cases infeasible
  · intro statement means
    obtain ⟨x, found, zero⟩ := means.exists_formula unit
    rw [residual_eq_measured_iff, found, Option.some.injEq]
    exact zero

end Constraint

/-- An entity without a normal and without parameters. -/
def Entity.bare (id : String) (kind : Kind) (position direction : Option (Vector3 ℝ))
    (radius : Option ℝ) : Entity String ℝ :=
  ⟨id, kind, position, direction, radius, none, .empty, nofun⟩

namespace Constraint

/-- A line that rises by three for every four that it runs, and a circle beside it. -/
noncomputable def besideLine : Snapshot String ℝ := (Table.ofList [
    ("C", Entity.bare "C" .circle (some ⟨1, 0, 0⟩) none (some 0.6)),
    ("L", Entity.bare "L" .line (some ⟨0, 0, 0⟩) (some ⟨0.8, 0.6, 0⟩) none)]).get?

/-- That the circle should touch the line. -/
def touching : Constraint String ℝ := ⟨"touch", .tangent, ["C", "L"], none, .int 0, .flag true⟩

lemma resolve_touching : touching.resolve besideLine =
    [Entity.bare "C" .circle (some ⟨1, 0, 0⟩) none (some 0.6),
      Entity.bare "L" .line (some ⟨0, 0, 0⟩) (some ⟨0.8, 0.6, 0⟩) none] := rfl

lemma hasUnitDirection_besideLine (id : String) (named : id ∈ touching.entities)
    (e : Entity String ℝ) (there : besideLine id = some e) : e.HasUnitDirection := by
  have member : e ∈ touching.resolve besideLine := List.mem_filterMap.mpr ⟨id, named, there⟩
  rw [resolve_touching] at member
  intro u direction
  have only : u = ⟨0.8, 0.6, 0⟩ := by
    simp only [List.mem_cons, List.not_mem_nil, or_false] at member
    obtain rfl | rfl := member
    · cases direction
    · exact (Option.some.inj direction).symm
  have square : (⟨0.8, 0.6, 0⟩ : Vector3 ℝ).dot ⟨0.8, 0.6, 0⟩ = 1 := by norm_num [Vector3.dot]
  rw [only, Vector3.norm, square, Scalar.greater_eq_max, max_eq_left zero_le_one]
  exact Real.sqrt_one

/-- That the circle touches the line means that its radius is the least distance of its centre from
a point of the line, and this is what a residual of zero stands for. -/
theorem residual_touching_eq_zero_iff :
    (∀ id ∈ touching.entities, ∀ e, besideLine id = some e → e.HasUnitDirection) ∧
    touching.relation.isMeasured = true ∧ touching.residual besideLine ≠ .infeasible ∧
    (touching.residual besideLine = .measured 0 ↔
      IsLeast (dist (Vector3.mk 1 0 0).toSpace ''
        Vector3.line (Vector3.mk 0 0 0) (Vector3.mk 0.8 0.6 0)) (0.6 : ℝ)) := by
  have means : touching.Means besideLine (IsLeast (dist (Vector3.mk 1 0 0).toSpace ''
      Vector3.line (Vector3.mk 0 0 0) (Vector3.mk 0.8 0.6 0)) (0.6 : ℝ)) := by
    rw [Means, resolve_touching]
    have proper : (!Scalar.isZero (0.6 : ℝ)) = true := by norm_num [Scalar.isZero]
    exact .tangent rfl rfl (if_pos proper) rfl rfl rfl
  obtain ⟨feasible, zero⟩ := residual_eq_zero_iff touching besideLine hasUnitDirection_besideLine
  exact ⟨hasUnitDirection_besideLine, rfl, (feasible rfl).mpr ⟨_, means⟩, zero _ means⟩

end Constraint

end Drafting
