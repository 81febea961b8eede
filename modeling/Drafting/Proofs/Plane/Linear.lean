import Drafting.Proofs.Linear.Solvability
import Drafting.Proofs.Plane.Planning

/-!
# Linear demands

All demands but those on distances ask of coordinates that they are equal in pairs. So their
residuals are what they leave over of equations between the slots (`Demand.allResiduals_eq_excess`),
and the coefficients of these are what central differences of any width come to, wherever they are
taken (`Demand.jacobian_eq`).
-/

namespace Drafting.Plane

/-! ### Coordinates -/

/-- A coordinate of a point: the number in a slot, or a constant. -/
inductive Coordinate where
  | slot (i : ℕ)
  | constant (x : ℝ)

namespace Coordinate

noncomputable def read (params : List ℝ) : Coordinate → ℝ
  | slot i => params.getD i 0
  | constant x => x

/-- By how much a coordinate moves with the number in a slot. -/
noncomputable def slope (j : ℕ) : Coordinate → ℝ
  | slot i => if j = i then 1 else 0
  | constant _ => 0

/-- The part of a coordinate that does not depend on slots. -/
noncomputable def offset : Coordinate → ℝ
  | slot _ => 0
  | constant x => x

lemma read_set {params : List ℝ} {j : ℕ} (inside : j < params.length) (x : ℝ) (c : Coordinate) :
    c.read (params.set j x) = c.read params + c.slope j * (x - params.getD j 0) := by
  cases c with
  | constant y => simp [read, slope]
  | slot i =>
    by_cases same : j = i
    · subst same
      simp [read, slope, inside]
    · simp [read, slope, same]

lemma dot_slope (c : Coordinate) (params : List ℝ) :
    Linear.dot ((List.range params.length).map fun j => c.slope j) params =
      c.read params - c.offset := by
  cases c with
  | slot i =>
    simp only [slope, read, offset, sub_zero]
    exact Linear.dot_indicator i params
  | constant x =>
    have level : ∀ y ∈ (List.range params.length).map fun j => slope j (constant x), y = 0 :=
      List.forall_mem_map.mpr fun _ _ => rfl
    rw [Linear.dot_of_forall_eq_zero level]
    exact (sub_self x).symm

end Coordinate

/-! ### Equations between coordinates -/

/-- The coordinates of a point. -/
def Source.coordinates : Source ℝ → Coordinate × Coordinate
  | slots x y => (.slot x, .slot y)
  | constant x y => (.constant x, .constant y)

lemma Source.locate_eq (params : List ℝ) (s : Source ℝ) :
    s.locate params = (s.coordinates.1.read params, s.coordinates.2.read params) := by
  cases s <;> rfl

/-- The coordinates of two points, in pairs. -/
def Source.pairs (p q : Source ℝ) : List (Coordinate × Coordinate) :=
  [(p.coordinates.1, q.coordinates.1), (p.coordinates.2, q.coordinates.2)]

/-- The equation that two coordinates are the same, with `n` slots as its unknowns. -/
noncomputable def meeting (n : ℕ) (pair : Coordinate × Coordinate) : Equation ℝ :=
  ⟨(List.range n).map fun j => pair.1.slope j - pair.2.slope j, pair.2.offset - pair.1.offset⟩

lemma eval_meeting_sub_value (params : List ℝ) (pair : Coordinate × Coordinate) :
    (meeting params.length pair).eval params - (meeting params.length pair).value =
      pair.1.read params - pair.2.read params := by
  rw [Equation.eval, meeting, Linear.dot_map_sub, Coordinate.dot_slope, Coordinate.dot_slope]
  ring

lemma getD_meeting {n slot : ℕ} (inside : slot < n) (pair : Coordinate × Coordinate) :
    (meeting n pair).coefficients.getD slot 0 = pair.1.slope slot - pair.2.slope slot := by
  rw [meeting, List.getD_eq_getElem _ _ (by simpa using inside), List.getElem_map,
    List.getElem_range]

namespace Demand

/-- That a demand is not on a distance. -/
def IsLinear : Demand ℝ → Prop
  | distance .. => False
  | _ => True

/-- The coordinates that a demand wants to be the same. A point without a place to be is compared
with itself. -/
def pairs : Demand ℝ → List (Coordinate × Coordinate)
  | distance .. => []
  | horizontal p q => [(p.coordinates.2, q.coordinates.2)]
  | vertical p q => [(p.coordinates.1, q.coordinates.1)]
  | coincident p q => p.pairs q
  | fixed p none => p.pairs p
  | fixed p (some (x, y)) => p.pairs (.constant x y)

lemma IsLinear.residuals_eq {d : Demand ℝ} (linear : d.IsLinear) (params : List ℝ) :
    d.residuals params = d.pairs.map fun pair => pair.1.read params - pair.2.read params := by
  cases d with
  | distance => exact absurd linear not_false
  | horizontal p q | vertical p q | coincident p q =>
    simp only [residuals, Source.locate_eq]
    rfl
  | fixed p anchor =>
    simp only [residuals, Source.locate_eq]
    obtain _ | ⟨x, y⟩ := anchor <;> rfl

/-- The equations that demands make of `n` slots. -/
noncomputable def equations (n : ℕ) (demands : List (Demand ℝ)) : List (Equation ℝ) :=
  (demands.flatMap pairs).map (meeting n)

lemma hasWidth_equations (n : ℕ) (demands : List (Demand ℝ)) :
    Linear.HasWidth n (equations n demands) := by
  refine List.forall_mem_map.mpr fun pair _ => ?_
  rw [meeting, List.length_map, List.length_range]

section

variable {demands : List (Demand ℝ)} (linear : ∀ d ∈ demands, d.IsLinear)

include linear

lemma allResiduals_eq_map (params : List ℝ) :
    allResiduals demands params =
      (demands.flatMap pairs).map fun pair => pair.1.read params - pair.2.read params := by
  rw [allResiduals, List.map_flatMap]
  exact List.flatMap_congr fun d there => (linear d there).residuals_eq params

lemma allResiduals_eq_excess (params : List ℝ) :
    allResiduals demands params = Linear.excess (equations params.length demands) params := by
  rw [allResiduals_eq_map linear, Linear.excess, equations, List.map_map]
  exact List.map_congr_left fun pair _ => (eval_meeting_sub_value params pair).symm

/-- Central differences are exact, as the residuals are linear in every slot. -/
lemma slopes_eq {epsilon : ℝ} (apart : epsilon ≠ 0) {params : List ℝ} {slot : ℕ}
    (inside : slot < params.length) :
    slopes epsilon demands params slot =
      Linear.coefficientsOf (equations params.length demands) slot := by
  have moved (x : ℝ) : residualsAt demands params slot x =
      (demands.flatMap pairs).map fun pair =>
        pair.1.read (params.set slot x) - pair.2.read (params.set slot x) :=
    allResiduals_eq_map linear _
  have width : (2.0 : ℝ) * epsilon ≠ 0 := mul_ne_zero (by norm_num) apart
  rw [slopes, moved, moved, List.zipWith_map, List.zipWith_self, Linear.coefficientsOf, equations,
    List.map_map]
  refine List.map_congr_left fun pair _ => ?_
  rw [Function.comp_apply, getD_meeting inside, div_eq_iff width]
  simp only [Coordinate.read_set inside]
  norm_num
  ring

lemma jacobian_eq {epsilon : ℝ} (apart : epsilon ≠ 0) (params : List ℝ) :
    jacobian epsilon demands params =
      (equations params.length demands).map Equation.coefficients := by
  have rows : (allResiduals demands params).length =
      (equations params.length demands).length := by
    rw [allResiduals_eq_map linear, equations, List.length_map, List.length_map]
  have columns : (List.range params.length).map (slopes epsilon demands params) =
      (List.range params.length).map (Linear.coefficientsOf (equations params.length demands)) :=
    List.map_congr_left fun slot there => slopes_eq linear apart (List.mem_range.mp there)
  rw [jacobian, rows, columns]
  exact Linear.map_getD_columns (hasWidth_equations _ demands)

end

end Demand

/-! ### Rows -/

/-- Only a row for a distance makes a demand on one. -/
lemma Row.isLinear_of_demand_eq_ok {b : Board String ℝ} {count : ℕ} {row : Row ℝ}
    {demand : Demand ℝ} (ok : row.demand b count = .ok demand)
    (straight : b.relation row.constraint ≠ .ok (.member .distance)) : demand.IsLinear := by
  obtain ⟨relation, stated, ok⟩ := Except.bind_eq_ok.mp ok
  obtain ⟨target, -, ok⟩ := Except.bind_eq_ok.mp ok
  obtain ⟨sources, -, ok⟩ := Except.bind_eq_ok.mp ok
  split at ok
  · obtain ⟨anchor, -, ok⟩ := Except.bind_eq_ok.mp ok
    cases ok
    exact True.intro
  · exact absurd stated straight
  · cases ok
    exact True.intro
  · cases ok
    exact True.intro
  · cases ok
    exact True.intro
  · cases ok

lemma Drawing.isLinear_of_demands_eq_ok {d : Drawing String ℝ} {plan : Plan ℝ}
    {demands : List (Demand ℝ)} (ok : d.demands plan = .ok demands)
    (straight : ∀ row ∈ plan.rows, d.board.relation row.constraint ≠ .ok (.member .distance)) :
    ∀ demand ∈ demands, demand.IsLinear := by
  intro demand there
  obtain ⟨row, among, made⟩ := Except.exists_of_mem_mapM ok there
  exact Row.isLinear_of_demand_eq_ok made (straight row among)

end Drafting.Plane
