import Drafting.Proofs.Plane.History
import Drafting.Proofs.Plane.Planning

/-!
# What numbers that are written back leave

Numbers that are written back go into the values of unknowns and the coordinates of registered
points. No solve reads these, so it plans and demands as before (`Drawing.IsBound.plan_written`,
`Drawing.IsBound.demands_written`), and numbers that are written back later replace all of them
(`Drawing.IsBound.written_written`).
-/

namespace Drafting.Plane

variable {α : Type} [Scalar α]

/-! ### Coordinates -/

/-- The point with another number for one of its coordinates, if there is one. -/
def Point.moveTo (p : Point String α) (axis : Kind) (x? : Option α) : Point String α :=
  match x? with
  | some x => p.put axis.name (.value (.real x))
  | none => p

/-- A point that is moved twice is where it is moved last. -/
lemma Point.moveTo_moveTo (p : Point String α) {x x' y y' : Option α}
    (sameX : x.isSome = x'.isSome) (sameY : y.isSome = y'.isSome) :
    (((p.moveTo .x x).moveTo .y y).moveTo .x x').moveTo .y y' =
      (p.moveTo .x x').moveTo .y y' := by
  cases x <;> cases x' <;> cases sameX <;> cases y <;> cases y' <;> cases sameY <;> rfl

namespace Drawing

variable {d : Drawing String α} {params params' : List α}

lemma getElem?_locate (d : Drawing String α) (id : String) (place : ℕ) (axis : Kind)
    (b : Board String α) : (d.locate id (.point place) axis b).points[place]? =
      (b.points[place]?).map (·.moveTo axis (d.param? (coordinateId id axis))) := by
  rw [locate]
  cases d.param? (coordinateId id axis) with
  | none => exact Option.map_id'.symm
  | some x => exact List.getElem?_modify_eq _ _ _

lemma getElem?_locate_of_ne (d : Drawing String α) (id : String) {place place' : ℕ}
    (apart : place ≠ place') (axis : Kind) (b : Board String α) :
    (d.locate id (.point place) axis b).points[place']? = b.points[place']? := by
  rw [locate]
  cases d.param? (coordinateId id axis) with
  | none => rfl
  | some x => exact List.getElem?_modify_ne _ _ apart

/-- A registered point is moved to the numbers in the slots of its coordinates. -/
lemma IsBound.getElem?_writePoints (bound : d.IsBound) {id : String} {place : ℕ}
    (used : (id, .point place) ∈ d.points.entries) : d.writePoints.board.points[place]? =
      (d.board.points[place]?).map fun p =>
        (p.moveTo .x (d.param? (coordinateId id .x))).moveTo .y
          (d.param? (coordinateId id .y)) := by
  refine read_foldl_of_mem (fun b : Board String α => b.points[place]?) _ used
    (d.points.nodup_keys.of_map _) (fun b => ?_) (fun other among apart b => ?_) d.board
  · exact (d.getElem?_locate id place .y _).trans
      ((congrArg _ (d.getElem?_locate id place .x b)).trans (Option.map_map _ _ _))
  · obtain ⟨place', p', same', there', named'⟩ := bound.points other among
    obtain ⟨_, p, same, there, named⟩ := bound.points _ used
    obtain rfl := Item.point.inj same
    -- a point has one id, and is registered under that alone
    have places : place' ≠ place := by
      rintro rfl
      rw [there, Option.some.injEq] at there'
      rw [← there', named, Option.some.injEq] at named'
      exact apart (List.inj_on_of_nodup_map d.points.nodup_keys among used named'.symm)
    show (d.locate other.1 other.2 .y (d.locate other.1 other.2 .x b)).points[place]? = _
    rw [same', getElem?_locate_of_ne _ _ places, getElem?_locate_of_ne _ _ places]

lemma IsBound.getElem?_writePoints_of_unused (bound : d.IsBound) {place : ℕ}
    (unused : ∀ id, (id, .point place) ∉ d.points.entries) :
    d.writePoints.board.points[place]? = d.board.points[place]? := by
  refine read_foldl (fun b : Board String α => b.points[place]?) (fun entry among b => ?_) d.board
  obtain ⟨place', p, same, -, -⟩ := bound.points entry among
  have places : place' ≠ place := by
    rintro rfl
    exact unused entry.1 (same ▸ among)
  show (d.locate entry.1 entry.2 .y (d.locate entry.1 entry.2 .x b)).points[place]? = _
  rw [same, getElem?_locate_of_ne _ _ places, getElem?_locate_of_ne _ _ places]

/-- What is written back moves registered points to the numbers in the slots of their
coordinates. -/
lemma IsBound.getElem?_points_written (bound : d.IsBound) {id : String} {place : ℕ}
    (used : (id, .point place) ∈ d.points.entries) : d.written.board.points[place]? =
      (d.board.points[place]?).map fun p =>
        (p.moveTo .x (d.param? (coordinateId id .x))).moveTo .y
          (d.param? (coordinateId id .y)) := by
  rw [← bound.writeVariables_hasIdsOf.2]
  exact bound.writeVariables.getElem?_writePoints used

lemma IsBound.getElem?_points_written_of_unused (bound : d.IsBound) {place : ℕ}
    (unused : ∀ id, (id, .point place) ∉ d.points.entries) :
    d.written.board.points[place]? = d.board.points[place]? := by
  rw [← bound.writeVariables_hasIdsOf.2]
  exact bound.writeVariables.getElem?_writePoints_of_unused unused

/-- Points that change when numbers are written back are registered, and keep their ids. -/
lemma IsBound.points_written_cases (bound : d.IsBound) (place : ℕ) :
    d.written.board.points[place]? = d.board.points[place]? ∨
      ∃ p p' id, d.board.points[place]? = some p ∧ d.written.board.points[place]? = some p' ∧
        p.id = some id ∧ p'.id = some id ∧ d.points.contains id = true := by
  by_cases used : ∃ id, (id, .point place) ∈ d.points.entries
  · obtain ⟨id, used⟩ := used
    obtain ⟨_, p, same, there, named⟩ := bound.points _ used
    obtain rfl := Item.point.inj same
    have same := bound.writeVariables.writePoints_hasIdsOf.1.trans bound.writeVariables_hasIdsOf.1
    obtain ⟨p', there', named'⟩ := same.exists_point there
    refine .inr ⟨p, p', id, there, there', named, named'.trans named, ?_⟩
    rw [Table.contains, Table.isSome_get?_iff]
    exact List.mem_map_of_mem used
  · exact .inl (bound.getElem?_points_written_of_unused (not_exists.mp used))

/-! ### Plans and demands -/

/-- What a reference is found to be does not depend on where registered points are. -/
lemma IsBound.source?_written (bound : d.IsBound) (r : Reference α) :
    d.written.source? r = d.source? r := by
  cases r with
  | value v => rfl
  | item object =>
    cases object with
    | constraint place => rfl
    | «variable» place => rfl
    | point place =>
      obtain same | ⟨p, p', id, there, there', named, named', registered⟩ :=
        bound.points_written_cases place
      · rw [source?, source?, same]
        rfl
      · have found := sourceOfPoint_of_registered named registered
        have found' := sourceOfPoint_of_registered (d := d.written) named' registered
        simp only [source?, there, there', found, found']
        rfl

lemma IsBound.constraints_written (bound : d.IsBound) :
    d.written.board.constraints = d.board.constraints :=
  bound.writeVariables.writePoints_hasIdsOf.1.constraints.trans
    bound.writeVariables_hasIdsOf.1.constraints

/-- Writing back does not change what is planned. -/
theorem IsBound.plan_written (bound : d.IsBound) : d.written.plan = d.plan := by
  refine Except.mapM_congr fun (item, position) among => ?_
  obtain ⟨place, rfl⟩ := bound.constraints item (List.fst_mem_of_mem_zipIdx among)
  have same := bound.constraints_written
  refine standing_congr ?_ (fun own name other => ?_)
    (fun _ _ _ _ _ r _ => bound.source?_written r) position
  · rw [Board.idValue, Board.idValue, same]
  · rw [Board.ofConstraint, Board.ofConstraint, same]

/-- Writing back does not change what the rows of a plan demand. -/
theorem IsBound.demands_written (bound : d.IsBound) {plan : Plan α} (planned : d.plan = .ok plan) :
    d.written.demands plan = d.demands plan := by
  refine Except.mapM_congr fun row among => ?_
  obtain ⟨place, same⟩ := bound.constraints _ (row_of_plan planned among).1
  have relation : d.written.board.relation row.constraint = d.board.relation row.constraint := by
    rw [same, Board.relation, Board.relation, Board.ofConstraint, Board.ofConstraint,
      bound.constraints_written]
  have target : d.written.board.target row.constraint = d.board.target row.constraint := by
    rw [same, Board.target, Board.target, Board.ofConstraint, Board.ofConstraint,
      bound.constraints_written]
  rw [Row.demand, Row.demand, relation, target]
  rfl

/-! ### Showing other numbers -/

/-- The drawing with other numbers, which its objects show. -/
def showing (d : Drawing String α) (params : List α) : Drawing String α :=
  written { d with params }

lemma IsBound.plan_showing (bound : d.IsBound) (short : params.length ≤ d.unknowns.length) :
    (d.showing params).plan = d.plan :=
  (bound.withParams short).plan_written

lemma isIdle_showing (same : params.length = d.params.length) (plan : Plan α) :
    (d.showing params).isIdle plan = d.isIdle plan := by
  have empty : params.isEmpty = d.params.isEmpty := by
    rw [Bool.eq_iff_iff, List.isEmpty_iff_length_eq_zero, List.isEmpty_iff_length_eq_zero, same]
  exact congrArg (· || plan.rows.isEmpty) empty

lemma IsBound.demands_showing (bound : d.IsBound) (same : params.length = d.params.length)
    {plan : Plan α} (planned : d.plan = .ok plan) :
    (d.showing params).demands plan = d.demands plan := by
  have written := IsBound.demands_written (d := { d with params })
    (bound.withParams (same.trans_le bound.short)) planned
  refine written.trans ?_
  rw [Drawing.demands, Drawing.demands, same]

/-- The numbers that are told by id are those that objects show. -/
lemma numbered_showing (d : Drawing String α) (params params' : List α) :
    numbered { d.showing params with params := params' } = numbered { d with params := params' } :=
  List.map_congr_left fun (item, x) _ => by
    show ((Drawing.written { d with params }).board.idOf item, x) = _
    rw [Drawing.written, idOf_writePoints, idOf_writeVariables]

/-! ### Writing back twice -/

lemma IsBound.isRegistered (bound : d.IsBound) (full : d.params.length = d.unknowns.length) :
    d.IsRegistered :=
  ⟨full, bound.unknown, bound.slots⟩

lemma IsBound.getElem?_writeVariables_of_unused (bound : d.IsBound) {place : ℕ}
    (unused : .variable place ∉ d.unknowns) :
    d.writeVariables.board.unknowns[place]? = d.board.unknowns[place]? := by
  refine read_foldl (fun b : Board String α => b.unknowns[place]?) (fun entry among b => ?_) d.board
  have used := (List.of_mem_zip (show (entry.1, entry.2) ∈ _ from among)).1
  obtain ⟨place', -, same⟩ := bound.unknown entry.1 used
  have places : place' ≠ place := by
    rintro rfl
    exact unused (same ▸ used)
  show (b.put entry.1 "value" (.value (.real entry.2))).unknowns[place]? = _
  rw [same]
  exact List.getElem?_modify_ne _ _ places

/-- The numbers that are told by id are those of the ids that have slots. -/
lemma IsRegistered.isSome_param? (registered : d.IsRegistered) (id : String) :
    (d.param? id).isSome = (d.slots.get? id).isSome := by
  rw [param?]
  cases found : d.slots.get? id with
  | none => rfl
  | some slot =>
    have inside := (registered.slot_lt found).trans_eq registered.full.symm
    rw [Option.bind_some, List.getElem?_eq_getElem inside]
    rfl

section

variable (bound : d.IsBound) (full : params.length = d.unknowns.length)
  (full' : params'.length = d.unknowns.length)

include bound full

lemma IsBound.showing : (d.showing params).IsBound := (bound.withParams full.le).written

/-- An unknown that is in use shows its number, whatever it showed before. -/
lemma IsBound.getElem?_unknowns_showing {place : ℕ} {u : Variable String α} {x : α}
    (used : .variable place ∈ d.unknowns) (there : d.board.unknowns[place]? = some u)
    (told : param? { d with params } u.id = some x) :
    (d.showing params).board.unknowns[place]? = some { u with value := .real x } := by
  have other : IsBound { d with params } := bound.withParams full.le
  have same : (d.showing params).board.unknowns =
      (Drawing.writeVariables { d with params }).board.unknowns :=
    other.writeVariables.writePoints_hasIdsOf.2
  rw [same, (other.isRegistered full).getElem?_writeVariables used there told]

lemma IsBound.getElem?_unknowns_showing_of_unused {place : ℕ}
    (unused : .variable place ∉ d.unknowns) :
    (d.showing params).board.unknowns[place]? = d.board.unknowns[place]? := by
  have other : IsBound { d with params } := bound.withParams full.le
  have same : (d.showing params).board.unknowns =
      (Drawing.writeVariables { d with params }).board.unknowns :=
    other.writeVariables.writePoints_hasIdsOf.2
  rw [same, other.getElem?_writeVariables_of_unused unused]

lemma IsBound.exists_param?_showing {place : ℕ} (used : .variable place ∈ d.unknowns) :
    ∃ u x, d.board.unknowns[place]? = some u ∧ param? { d with params } u.id = some x :=
  (IsBound.isRegistered (d := { d with params }) (bound.withParams full.le) full).exists_param? used

/-- A point that is in use shows its numbers, whatever it showed before. -/
lemma IsBound.getElem?_points_showing {id : String} {place : ℕ}
    (used : (id, .point place) ∈ d.points.entries) : (d.showing params).board.points[place]? =
      (d.board.points[place]?).map fun p =>
        (p.moveTo .x (param? { d with params } (coordinateId id .x))).moveTo .y
          (param? { d with params } (coordinateId id .y)) :=
  IsBound.getElem?_points_written (d := { d with params }) (bound.withParams full.le) used

lemma IsBound.getElem?_points_showing_of_unused {place : ℕ}
    (unused : ∀ id, (id, .point place) ∉ d.points.entries) :
    (d.showing params).board.points[place]? = d.board.points[place]? :=
  IsBound.getElem?_points_written_of_unused (d := { d with params }) (bound.withParams full.le)
    unused

lemma IsBound.isSome_param?_showing (id : String) :
    (param? { d with params } id).isSome = (d.slots.get? id).isSome :=
  (IsBound.isRegistered (d := { d with params }) (bound.withParams full.le) full).isSome_param? id

include full'

lemma IsBound.unknowns_showing_showing : ((d.showing params).showing params').board.unknowns =
    (d.showing params').board.unknowns := by
  have second := bound.showing full
  refine List.ext_getElem? fun place => ?_
  by_cases used : .variable place ∈ d.unknowns
  · -- both numbers are told under the id of the unknown, which no write changes
    obtain ⟨u, x, there, told⟩ := bound.exists_param?_showing full used
    obtain ⟨_, x', there', told'⟩ := bound.exists_param?_showing full' used
    obtain rfl := Option.some.inj (there.symm.trans there')
    have before := bound.getElem?_unknowns_showing full used there told
    rw [second.getElem?_unknowns_showing full' used before told',
      bound.getElem?_unknowns_showing full' used there told']
  · rw [second.getElem?_unknowns_showing_of_unused full' used,
      bound.getElem?_unknowns_showing_of_unused full used,
      bound.getElem?_unknowns_showing_of_unused full' used]

lemma IsBound.points_showing_showing : ((d.showing params).showing params').board.points =
    (d.showing params').board.points := by
  have second := bound.showing full
  refine List.ext_getElem? fun place => ?_
  by_cases used : ∃ id, (id, .point place) ∈ d.points.entries
  · obtain ⟨id, used⟩ := used
    have alike (id : String) : (param? { d with params } id).isSome =
        (param? { d with params := params' } id).isSome :=
      (bound.isSome_param?_showing full id).trans (bound.isSome_param?_showing full' id).symm
    rw [second.getElem?_points_showing full' used, bound.getElem?_points_showing full' used,
      bound.getElem?_points_showing full used, Option.map_map]
    exact Option.map_congr fun p _ => p.moveTo_moveTo (alike _) (alike _)
  · have unused := not_exists.mp used
    rw [second.getElem?_points_showing_of_unused full' unused,
      bound.getElem?_points_showing_of_unused full unused,
      bound.getElem?_points_showing_of_unused full' unused]

/-- Numbers that objects are made to show replace those that they showed before. -/
theorem IsBound.showing_showing : (d.showing params).showing params' = d.showing params' := by
  have points := bound.points_showing_showing full full'
  have unknowns := bound.unknowns_showing_showing full full'
  have constraints (e : Drawing String α) (bound : e.IsBound) (params : List α)
      (full : params.length = e.unknowns.length) :
      (e.showing params).board.constraints = e.board.constraints :=
    IsBound.constraints_written (d := { e with params }) (bound.withParams full.le)
  have constraints : ((d.showing params).showing params').board.constraints =
      (d.showing params').board.constraints := by
    rw [constraints _ (bound.showing full) _ full', constraints _ bound _ full,
      constraints _ bound _ full']
  have boards : ((d.showing params).showing params').board = (d.showing params').board := by
    generalize ((d.showing params).showing params').board = b at points unknowns constraints
    generalize (d.showing params').board = b' at points unknowns constraints
    cases b
    cases b'
    cases points
    cases unknowns
    cases constraints
    rfl
  exact congrArg (fun board => { d with params := params', board }) boards

end

end Drawing

end Drafting.Plane
