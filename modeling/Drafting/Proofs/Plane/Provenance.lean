import Drafting.Proofs.Plane.Resolution
import Drafting.Proofs.Plane.Unread

/-!
# Where residuals, slopes and labels come from

A plan is gone through three times: for the residuals of its rows, for their slopes along the slots,
and for their labels. Each time a row contributes a block of the length that its layout says, so the
three are lined up (`Plan.IsLinedUp`): at any index, the residual, the slopes and the label are of
the same row. The residuals of a row are told by the slots of its points alone, and its slopes along
any other slot are differences of a number with itself. Slopes can be found in place, by moving one
number at a time on and back; the sweep that does so leaves all numbers as they were
(`Demand.run_sweep`).
-/

namespace Drafting.Plane

variable {α : Type}

/-! ### Blocks -/

namespace Plan

/-- The row that each residual of a plan comes from. -/
def owners (p : Plan α) : List (Row α) :=
  p.rows.flatMap fun row => List.replicate row.layout.rows row

/-- What demands come to, one after the other, each thing together with the row that makes the
demand. -/
def withOwners {β : Type} (p : Plan α) (demands : List (Demand α)) (f : Demand α → List β) :
    List (Row α × β) :=
  (List.zipWith (fun row demand => (f demand).map fun x => (row, x)) p.rows demands).flatten

lemma map_label_owners (p : Plan α) : p.owners.map Row.label = p.labels := by
  simp only [owners, labels, List.map_flatMap, List.map_replicate]

section

variable {β : Type} {p : Plan α} {demands : List (Demand α)} {f : Demand α → List β}
  (sized : List.Forall₂ (fun row demand => (f demand).length = row.layout.rows) p.rows demands)

include sized

/-- There are as many things as the layouts of the rows say. -/
lemma length_flatMap_of_sized : (demands.flatMap f).length = p.owners.length := by
  rw [owners]
  generalize p.rows = rows at sized
  induction sized with
  | nil => rfl
  | cons first _ ih =>
    rw [List.flatMap_cons, List.flatMap_cons, List.length_append, List.length_append, ih, first,
      List.length_replicate]

/-- Things are in step with the rows that they come from, if each row has as many as its layout
says. -/
lemma withOwners_of_sized : p.withOwners demands f = p.owners.zip (demands.flatMap f) := by
  rw [withOwners, owners]
  generalize p.rows = rows at sized
  induction sized with
  | nil => rfl
  | @cons row demand rows demands first _ ih =>
    have block : (f demand).map (fun x => (row, x)) =
        (List.replicate row.layout.rows row).zip (f demand) := by
      rw [← first, ← List.map_const', List.map_prod_right_eq_zip]
    rw [List.zipWith_cons_cons, List.flatten_cons, List.flatMap_cons, List.flatMap_cons, ih, block,
      List.zip_append]
    rw [List.length_replicate, first]

end

end Plan

variable [Scalar α]

/-! ### Rows and their demands -/

/-- That a demand comes to as many residuals as the layout of a row says, and takes nothing into
account but where the points of the row are. -/
structure Row.Yields (row : Row α) (demand : Demand α) : Prop where
  length : ∀ params, (demand.residuals params).length = row.layout.rows
  located : ∀ params params', (∀ s ∈ row.sources, s.locate params' = s.locate params) →
    demand.residuals params' = demand.residuals params

/-- A row whose constraint states a relation yields the demand that it makes. -/
lemma Row.yields_of_demand_eq_ok {b : Board String α} {count : ℕ} {row : Row α}
    {demand : Demand α} {r : Relation} (stated : b.relation row.constraint = .ok (.member r))
    (laidOut : r.layout? = some row.layout) (enough : row.sources.length = row.layout.points)
    (made : row.demand b count = .ok demand) : row.Yields demand := by
  obtain ⟨_, relation, made⟩ := Except.bind_eq_ok.mp made
  obtain rfl := Except.ok.inj (stated.symm.trans relation)
  obtain ⟨target, -, made⟩ := Except.bind_eq_ok.mp made
  obtain ⟨sources, checked, made⟩ := Except.bind_eq_ok.mp made
  obtain rfl := Source.eq_of_mapM_check_eq_ok checked
  obtain ⟨label, layout, constraint, sources⟩ := row
  cases r with
  | fixed =>
    cases laidOut
    obtain ⟨p, rfl⟩ := List.length_eq_one_iff.mp enough
    obtain ⟨anchor, -, made⟩ := Except.bind_eq_ok.mp made
    cases made
    refine ⟨fun _ => rfl, fun params params' located => ?_⟩
    simp only [Demand.residuals, located p List.mem_cons_self]
  | distance =>
    cases laidOut
    obtain ⟨p, q, rfl⟩ := List.length_eq_two.mp enough
    obtain ⟨goal, -, made⟩ := Except.bind_eq_ok.mp made
    cases made
    refine ⟨fun _ => rfl, fun params params' located => ?_⟩
    have first := located p List.mem_cons_self
    have second := located q (List.mem_cons_of_mem p List.mem_cons_self)
    simp only [Demand.residuals, first, second]
  | horizontal | vertical | coincident =>
    cases laidOut
    obtain ⟨p, q, rfl⟩ := List.length_eq_two.mp enough
    cases made
    refine ⟨fun _ => rfl, fun params params' located => ?_⟩
    have first := located p List.mem_cons_self
    have second := located q (List.mem_cons_of_mem p List.mem_cons_self)
    simp only [Demand.residuals, first, second]
  | _ => cases laidOut

/-- A point is where it was if the numbers in its slots are what they were. -/
lemma Source.locate_congr {s : Source α} {params params' : List α}
    (same : ∀ slot, s.Reads slot → params'[slot]? = params[slot]?) :
    s.locate params' = s.locate params := by
  cases s with
  | constant x y => rfl
  | slots x y =>
    rw [locate, locate, List.getD_eq_getElem?_getD, List.getD_eq_getElem?_getD, same x (.inl rfl),
      same y (.inr rfl)]
    rfl

namespace Row.Yields

variable {rows : List (Row α)} {demands : List (Demand α)}

/-- The residuals of a row are what they were if the numbers in the slots of its points are. -/
lemma residuals_congr {row : Row α} {demand : Demand α} (yields : row.Yields demand)
    {params params' : List α}
    (same : ∀ slot, row.Ignores slot ∨ params'[slot]? = params[slot]?) :
    demand.residuals params' = demand.residuals params := by
  refine yields.located params params' fun s there => Source.locate_congr fun slot reads => ?_
  exact (same slot).resolve_left fun ignores => ignores s there reads

/-- A residual is what it was if the numbers in the slots of the points of its row are. -/
lemma getElem?_allResiduals_congr {p : Plan α} (each : List.Forall₂ Row.Yields p.rows demands)
    {params params' : List α} {i : ℕ} {row : Row α} (owner : p.owners[i]? = some row)
    (same : ∀ slot, row.Ignores slot ∨ params'[slot]? = params[slot]?) :
    (Demand.allResiduals demands params')[i]? = (Demand.allResiduals demands params)[i]? := by
  rw [Plan.owners] at owner
  generalize p.rows = rows at each owner
  induction each generalizing i with
  | nil => rfl
  | @cons first demand rows demands yields others ih =>
    have count (params : List α) := yields.length params
    rw [List.flatMap_cons] at owner
    rw [Demand.allResiduals, Demand.allResiduals, List.flatMap_cons, List.flatMap_cons]
    -- the first block has as many residuals before as after, so an index stays in its block
    by_cases inside : i < first.layout.rows
    · rw [List.getElem?_append_left (by rwa [List.length_replicate]),
        List.getElem?_replicate_of_lt inside] at owner
      obtain rfl := Option.some.inj owner
      rw [List.getElem?_append_left (by rwa [count]), List.getElem?_append_left (by rwa [count]),
        yields.residuals_congr same]
    · rw [not_lt] at inside
      rw [List.getElem?_append_right (by rwa [List.length_replicate]),
        List.length_replicate] at owner
      rw [List.getElem?_append_right (by rwa [count]), List.getElem?_append_right (by rwa [count]),
        count, count]
      exact ih owner

end Row.Yields

/-! ### Slopes -/

namespace Demand

variable {epsilon : α} {demands : List (Demand α)} {params : List α}

lemma length_jacobian (epsilon : α) (demands : List (Demand α)) (params : List α) :
    (jacobian epsilon demands params).length = (allResiduals demands params).length := by
  rw [jacobian, List.length_map, List.length_range]

lemma length_slopes (epsilon : α) (demands : List (Demand α)) (params : List α) (slot : ℕ) :
    (slopes epsilon demands params slot).length = (allResiduals demands params).length := by
  have count (x : α) : (residualsAt demands params slot x).length =
      (allResiduals demands params).length := length_allResiduals ..
  rw [slopes, List.length_zipWith, count, count, Nat.min_self]

/-- Each entry of a Jacobian is a difference of a residual before and after. -/
lemma exists_getElem?_jacobian {i slot : ℕ} {after before : α} (inside : slot < params.length)
    (forward : (residualsAt demands params slot (params.getD slot 0 + epsilon))[i]? = some after)
    (backward : (residualsAt demands params slot (params.getD slot 0 - epsilon))[i]? =
      some before) :
    ∃ row, (jacobian epsilon demands params)[i]? = some row ∧
      row[slot]? = some ((after - before) / (2.0 * epsilon)) := by
  have slope : (slopes epsilon demands params slot)[i]? =
      some ((after - before) / (2.0 * epsilon)) := by
    rw [slopes, List.getElem?_zipWith, forward, backward]
  have within : i < (allResiduals demands params).length := by
    rw [← length_slopes epsilon demands params slot]
    exact (List.getElem?_eq_some_iff.mp slope).1
  rw [jacobian, List.getElem?_map, List.getElem?_range within]
  refine ⟨_, rfl, ?_⟩
  rw [List.getElem?_map, List.getElem?_map, List.getElem?_range inside, Option.map_some,
    Option.map_some, List.getD_eq_getElem?_getD, slope, Option.getD_some]

/-- The slopes of residuals are found demand by demand. -/
lemma jacobian_cons (epsilon : α) (d : Demand α) (rest : List (Demand α)) (params : List α) :
    jacobian epsilon (d :: rest) params =
      jacobian epsilon [d] params ++ jacobian epsilon rest params := by
  have residuals (params : List α) :
      allResiduals (d :: rest) params = allResiduals [d] params ++ allResiduals rest params := by
    rw [allResiduals, List.flatMap_cons, allResiduals, List.flatMap_singleton, allResiduals]
  have columns (slot : ℕ) : slopes epsilon (d :: rest) params slot =
      slopes epsilon [d] params slot ++ slopes epsilon rest params slot := by
    simp only [slopes, residualsAt, residuals]
    exact List.zipWith_append (length_allResiduals ..)
  have count (slot : ℕ) := length_slopes epsilon [d] params slot
  -- the indices of the rows are those of the first demand, and those of the others moved on
  rw [jacobian, residuals, List.length_append, List.range_add, List.map_append]
  congr 1
  · refine List.map_congr_left fun i there => ?_
    rw [List.map_map, List.map_map]
    refine List.map_congr_left fun slot _ => ?_
    rw [Function.comp_apply, Function.comp_apply, columns,
      List.getD_append _ _ _ _ (by rw [count]; exact List.mem_range.mp there)]
  · rw [List.map_map, jacobian]
    refine List.map_congr_left fun i _ => ?_
    rw [Function.comp_apply, List.map_map, List.map_map]
    refine List.map_congr_left fun slot _ => ?_
    rw [Function.comp_apply, Function.comp_apply, columns,
      List.getD_append_right _ _ _ _ (by rw [count]; exact Nat.le_add_right _ _), count,
      Nat.add_sub_cancel_left]

lemma jacobian_eq_flatMap (epsilon : α) (demands : List (Demand α)) (params : List α) :
    jacobian epsilon demands params = demands.flatMap fun d => jacobian epsilon [d] params := by
  induction demands with
  | nil => rfl
  | cons d rest ih => rw [jacobian_cons, ih, List.flatMap_cons]

/-! ### Slopes in place -/

lemma run_probe {slot : ℕ} (inside : slot < params.length) :
    (probe epsilon demands slot).run params = (slopes epsilon demands params slot, params) := by
  have restored : ((params.set slot (params.getD slot 0 + epsilon)).set slot
      (params.getD slot 0 - epsilon)).set slot (params.getD slot 0) = params := by
    rw [List.set_set, List.set_set, List.getD_eq_getElem _ _ inside, List.set_getElem_self]
  have backward : (params.set slot (params.getD slot 0 + epsilon)).set slot
      (params.getD slot 0 - epsilon) = params.set slot (params.getD slot 0 - epsilon) :=
    List.set_set ..
  show (_, ((params.set slot _).set slot _).set slot _) = _
  rw [restored, slopes, residualsAt, residualsAt, ← backward]

lemma run_mapM_probe {slots : List ℕ} (inside : ∀ slot ∈ slots, slot < params.length) :
    (slots.mapM (probe epsilon demands)).run params =
      (slots.map (slopes epsilon demands params), params) := by
  induction slots with
  | nil => rfl
  | cons slot rest ih =>
    obtain ⟨first, others⟩ := List.forall_mem_cons.mp inside
    rw [List.mapM_cons, StateT.run_bind, run_probe first]
    show (StateT.run (rest.mapM (probe epsilon demands) >>= _) params) = _
    rw [StateT.run_bind, ih others]
    rfl

/-- A sweep finds the slopes and leaves all numbers as they were. -/
lemma run_sweep (epsilon : α) (demands : List (Demand α)) (params : List α) :
    (sweep epsilon demands).run params = (jacobian epsilon demands params, params) := by
  have probes : ((List.range params.length).mapM (probe epsilon demands)).run params =
      ((List.range params.length).map (slopes epsilon demands params), params) :=
    run_mapM_probe fun _ there => List.mem_range.mp there
  simp only [sweep, StateT.run_bind, StateT.run_get, pure_bind, probes]
  rfl

end Demand

/-! ### Plans -/

namespace Drawing

/-- That a row is the one of the constraint in use at a position: it has the label of the
constraint, and its points are what the references of the constraint are found to be. -/
structure IsRowAt (d : Drawing String α) (position : ℕ) (row : Row α) : Prop where
  label : d.label position row.constraint = .ok row.label
  points : ∃ refs, d.Asks position row.constraint row.layout refs ∧
    refs.length = row.layout.points ∧
    List.Forall₂ (fun r s => d.source? r = .ok (some s)) refs row.sources

/-- That every constraint in use states one of the relations, as a constraint does when it is made.
A text that is put in later is laid out by its name, but demands that points meet. -/
def StatesRelations (d : Drawing String α) : Prop :=
  ∀ item ∈ d.constraints, ∃ r, d.board.relation item = .ok (.member r)

variable {d : Drawing String α} {plan : Plan α} {demands : List (Demand α)}

/-- What stands at a position of a plan is the standing of the constraint in use there. -/
lemma exists_standing_eq_ok (planned : d.plan = .ok plan) {position : ℕ} {s : Standing α}
    (there : plan[position]? = some s) :
    ∃ item, d.constraints[position]? = some item ∧ d.standing position item = .ok s := by
  have each := Except.mapM_eq_ok.mp planned
  obtain ⟨inside, same⟩ := List.getElem?_eq_some_iff.mp there
  have used : position < d.constraints.zipIdx.length := each.length_eq ▸ inside
  have standing := each.get used inside
  rw [List.get_eq_getElem, List.get_eq_getElem, same, List.getElem_zipIdx,
    Nat.zero_add] at standing
  rw [List.length_zipIdx] at used
  exact ⟨_, List.getElem?_eq_getElem used, standing⟩

lemma isRowAt_of_standing {position : ℕ} {item : Item} {row : Row α}
    (used : d.constraints[position]? = some item)
    (ok : d.standing position item = .ok (.planned row)) : d.IsRowAt position row := by
  obtain ⟨enabled, on, ok⟩ := Except.bind_eq_ok.mp ok
  obtain ⟨truth, isOn, ok⟩ := Except.bind_eq_ok.mp ok
  cases truth with
  | false => cases ok
  | true =>
    obtain ⟨label, labelled, ok⟩ := Except.bind_eq_ok.mp (show (d.label _ _ >>= _) = _ from ok)
    obtain ⟨choice, stated, ok⟩ := Except.bind_eq_ok.mp ok
    obtain ⟨relation?, known, ok⟩ := Except.bind_eq_ok.mp ok
    split at ok
    · cases ok
    · next layout laidOut =>
      obtain ⟨relation, rfl, laidOut⟩ := Option.bind_eq_some_iff.mp laidOut
      obtain ⟨content, referred, ok⟩ := Except.bind_eq_ok.mp ok
      obtain ⟨refs, first, ok⟩ := Except.bind_eq_ok.mp ok
      obtain ⟨sources, located, ok⟩ := Except.bind_eq_ok.mp ok
      have each := Except.mapM_eq_ok.mp located
      have stands := Except.ok.inj ok
      rw [standingOf] at stands
      split at stands
      · next full =>
        cases stands
        obtain ⟨enough, found⟩ := full
        have all :=
          map_some_filterMap (List.reduceOption_length_eq_iff.mp (found.trans enough.symm))
        rw [← all, List.forall₂_map_right_iff] at each
        refine ⟨labelled, refs, ⟨used, ?_, ⟨relation, ?_, laidOut⟩, ?_⟩, ?_, each⟩
        · exact Except.bind_eq_ok.mpr ⟨enabled, on, isOn⟩
        · exact Except.bind_eq_ok.mpr ⟨choice, stated, known⟩
        · exact Except.bind_eq_ok.mpr ⟨content, referred, first⟩
        · exact each.length_eq.trans found
      · cases stands

lemma isRowAt_of_plan (planned : d.plan = .ok plan) {position : ℕ} {row : Row α}
    (there : plan[position]? = some (.planned row)) : d.IsRowAt position row := by
  obtain ⟨item, used, standing⟩ := exists_standing_eq_ok planned there
  exact isRowAt_of_standing used standing

/-- The rows of a plan yield the demands that they make. -/
lemma forall₂_yields (stated : d.StatesRelations) (planned : d.plan = .ok plan)
    (made : d.demands plan = .ok demands) : List.Forall₂ Row.Yields plan.rows demands := by
  have laidOut : ∀ row ∈ plan.rows, ∃ r, d.board.relation row.constraint = .ok (.member r) ∧
      r.layout? = some row.layout ∧ row.sources.length = row.layout.points := by
    intro row there
    obtain ⟨position, at_⟩ := List.mem_iff_getElem?.mp (Plan.mem_of_mem_rows there)
    obtain ⟨refs, asks, enough, each⟩ := (isRowAt_of_plan planned at_).points
    obtain ⟨r, relation⟩ := stated _ (List.mem_of_getElem? asks.used)
    obtain ⟨relation', known, laidOut⟩ := asks.laidOut
    rw [relation] at known
    obtain rfl := Option.some.inj (Except.ok.inj (show Except.ok (some r) = _ from known))
    exact ⟨r, relation, laidOut, each.length_eq.symm.trans enough⟩
  refine ((List.forall₂_and_left _ _).mpr ⟨laidOut, Except.mapM_eq_ok.mp made⟩).imp ?_
  rintro row demand ⟨⟨r, relation, laidOut, enough⟩, made⟩
  exact Row.yields_of_demand_eq_ok relation laidOut enough made

end Drawing

/-! ### In line -/

/-- That the residuals of a plan, their slopes and their labels are in step for given numbers in the
slots. -/
structure Plan.IsLinedUp (p : Plan α) (demands : List (Demand α)) (epsilon : α)
    (params : List α) : Prop where
  /-- Each row has a block of residuals, as many as its layout says, that is told by the slots of
  its points alone. -/
  blocks : List.Forall₂ (fun (row : Row α) (demand : Demand α) =>
    (demand.residuals params).length = row.layout.rows ∧
      ∀ params', (∀ slot, row.Ignores slot ∨ params'[slot]? = params[slot]?) →
        demand.residuals params' = demand.residuals params) p.rows demands
  /-- The residuals are these blocks one after the other. -/
  residuals : p.withOwners demands (Demand.residuals params) =
    p.owners.zip (Demand.allResiduals demands params)
  /-- The slopes are those of the same rows. -/
  slopes : p.withOwners demands (fun demand => Demand.jacobian epsilon [demand] params) =
    p.owners.zip (Demand.jacobian epsilon demands params)
  /-- So are the labels. -/
  labels : p.labels = p.owners.map Row.label
  length_residuals : (Demand.allResiduals demands params).length = p.owners.length
  length_slopes : (Demand.jacobian epsilon demands params).length = p.owners.length
  /-- There is a slope along each slot. -/
  columns : ∀ slopes ∈ Demand.jacobian epsilon demands params, slopes.length = params.length
  /-- Along a slot that its row ignores, a residual does not change. -/
  unread : ∀ (i slot : ℕ) (row : Row α), p.owners[i]? = some row → row.Ignores slot →
    slot < params.length → ∃ r slopes, (Demand.allResiduals demands params)[i]? = some r ∧
      (Demand.jacobian epsilon demands params)[i]? = some slopes ∧
      slopes[slot]? = some ((r - r) / (2.0 * epsilon))
  /-- The slopes can be found in place, and then all numbers are what they were. -/
  restored : (Demand.sweep epsilon demands).run params =
    (Demand.jacobian epsilon demands params, params)

lemma Plan.isLinedUp_of_yields {p : Plan α} {demands : List (Demand α)}
    (each : List.Forall₂ Row.Yields p.rows demands) (epsilon : α) (params : List α) :
    p.IsLinedUp demands epsilon params := by
  have sized : List.Forall₂ (fun row (demand : Demand α) =>
      (demand.residuals params).length = row.layout.rows) p.rows demands :=
    each.imp fun row demand yields => yields.length params
  have sized' : List.Forall₂ (fun row (demand : Demand α) =>
      (Demand.jacobian epsilon [demand] params).length = row.layout.rows) p.rows demands :=
    each.imp fun row demand yields => by
      rw [Demand.length_jacobian, Demand.allResiduals, List.flatMap_singleton, yields.length]
  have count : (Demand.allResiduals demands params).length = p.owners.length :=
    length_flatMap_of_sized sized
  constructor
  case blocks =>
    exact each.imp fun row demand yields =>
      ⟨yields.length params, fun params' same => yields.residuals_congr same⟩
  case residuals => exact withOwners_of_sized sized
  case slopes => rw [withOwners_of_sized sized', ← Demand.jacobian_eq_flatMap]
  case labels => exact p.map_label_owners.symm
  case length_residuals => exact count
  case length_slopes => exact (Demand.length_jacobian epsilon demands params).trans count
  case columns => exact Demand.length_of_mem_jacobian
  case unread =>
    intro i slot row owner ignores inside
    have within : i < (Demand.allResiduals demands params).length :=
      count ▸ (List.getElem?_eq_some_iff.mp owner).1
    -- moving the number in the slot changes nothing in the slots that the row reads
    have still (x : α) : (Demand.residualsAt demands params slot x)[i]? =
        some (Demand.allResiduals demands params)[i] := by
      rw [Demand.residualsAt, ← List.getElem?_eq_getElem within]
      refine Row.Yields.getElem?_allResiduals_congr each owner fun slot' => ?_
      refine or_iff_not_imp_left.mpr fun reads => List.getElem?_set_ne ?_
      exact fun same => reads (same ▸ ignores)
    obtain ⟨slopes, there, entry⟩ :=
      Demand.exists_getElem?_jacobian inside (still _) (still (_ - epsilon))
    exact ⟨_, slopes, List.getElem?_eq_getElem within, there, entry⟩
  case restored => exact Demand.run_sweep epsilon demands params

/-- That in a row of slopes all are zero but those along the slots of the points of its row. -/
def Plan.IsSparse (p : Plan ℝ) (demands : List (Demand ℝ)) (epsilon : ℝ) (params : List ℝ) : Prop :=
  ∀ (i : ℕ) (row : Row ℝ) slopes, p.owners[i]? = some row →
    (Demand.jacobian epsilon demands params)[i]? = some slopes →
      ∀ slot x, row.Ignores slot → slopes[slot]? = some x → x = 0

lemma Plan.IsLinedUp.isSparse {p : Plan ℝ} {demands : List (Demand ℝ)} {epsilon : ℝ}
    {params : List ℝ} (linedUp : p.IsLinedUp demands epsilon params) :
    p.IsSparse demands epsilon params := by
  intro i row slopes owner there slot x ignores entry
  have inside : slot < params.length := by
    rw [← linedUp.columns slopes (List.mem_of_getElem? there)]
    exact (List.getElem?_eq_some_iff.mp entry).1
  obtain ⟨r, slopes', -, there', entry'⟩ := linedUp.unread i slot row owner ignores inside
  obtain rfl := Option.some.inj (there.symm.trans there')
  rw [Option.some.inj (entry.symm.trans entry'), sub_self, zero_div]

namespace Drawing

/-- That what is made of the rows of a drawing is in step. -/
structure IsLinedUp (d : Drawing String α) : Prop where
  /-- If everything on the board can be planned, there are rows, and they make demands. -/
  planned : d.IsPlannable → (∀ id slot, d.slots.get? id = some slot → slot < d.params.length) →
    ∃ plan demands, d.plan = .ok plan ∧ d.demands plan = .ok demands
  /-- Each row is that of the constraint at its position. -/
  rows : ∀ plan, d.plan = .ok plan → ∀ position row, plan[position]? = some (.planned row) →
    d.IsRowAt position row
  /-- Residuals, slopes and labels are in step, whatever the numbers in the slots are. -/
  linedUp : ∀ plan demands, d.plan = .ok plan → d.demands plan = .ok demands →
    ∀ epsilon (params : List α), params.length = d.params.length →
      plan.IsLinedUp demands epsilon params
  /-- An analysis surveys the slopes, each under the label of the row that it comes from. -/
  analyzed : ∀ plan demands, d.plan = .ok plan → d.demands plan = .ok demands →
    d.isIdle plan = false → ∃ names : ℕ → Except (Fault α) (Value α),
      (∀ (i : ℕ) (row : Row α), plan.owners[i]? = some row → names i = .ok row.label) ∧
      ∀ fit, d.analyze fit = Linear.term d.options.epsilon >>= fun epsilon =>
        Linear.analyzeRows fit Linear.standardTolerance names d.params.length
          (Demand.jacobian epsilon demands d.params)

/-- An analysis surveys the slopes of its demands, each under a label. -/
lemma analyze_eq {d : Drawing String α} {plan : Plan α} {demands : List (Demand α)}
    (planned : d.plan = .ok plan) (made : d.demands plan = .ok demands)
    (busy : d.isIdle plan = false) (fit : Linear.Fit α ℕ) :
    d.analyze fit = Linear.term d.options.epsilon >>= fun epsilon =>
      Linear.analyzeRows fit Linear.standardTolerance (Linear.labelAt (.list plan.labels))
        d.params.length (Demand.jacobian epsilon demands d.params) := by
  rw [analyze, planned]
  show (if d.isIdle plan = true then _ else _) = _
  rw [busy, if_neg Bool.false_ne_true, made]
  rfl

/-- The residuals of a drawing whose constraints state relations, their slopes and their labels are
in step, and in exact arithmetic slopes are zero along all slots but those of the points of their
row. -/
theorem isLinedUp_and_isSparse :
    (∀ {α : Type} [Scalar α] (d : Drawing String α), d.StatesRelations → d.IsLinedUp) ∧
    ∀ d : Drawing String ℝ, d.StatesRelations → ∀ plan demands, d.plan = .ok plan →
      d.demands plan = .ok demands → ∀ epsilon params, params.length = d.params.length →
        plan.IsSparse demands epsilon params := by
  refine ⟨fun d stated => ?_, fun d stated plan demands planned made epsilon params _ => ?_⟩
  · constructor
    case planned =>
      intro plannable slots
      obtain ⟨plan, planned, stands⟩ := plannable.exists_plan
      obtain ⟨demands, made⟩ := plannable.exists_demands slots stands
      exact ⟨plan, demands, planned, made⟩
    case rows => exact fun plan planned position row there => isRowAt_of_plan planned there
    case linedUp =>
      intro plan demands planned made epsilon params _
      exact Plan.isLinedUp_of_yields (forall₂_yields stated planned made) epsilon params
    case analyzed =>
      intro plan demands planned made busy
      refine ⟨Linear.labelAt (.list plan.labels), fun i row owner => ?_,
        analyze_eq planned made busy⟩
      have label : plan.labels[i]? = some row.label := by
        rw [← plan.map_label_owners, List.getElem?_map, owner, Option.map_some]
      show Except.ok (plan.labels[i]?.getD _) = _
      rw [label, Option.getD_some]
  · exact (Plan.isLinedUp_of_yields (forall₂_yields stated planned made) epsilon params).isSparse

/-! #### Rows of one residual and of two, with one left out -/

/-- A drawing of two points with slots: that they are level, that the first meets one that is not
there, that the first is at the origin, and how far they are apart. -/
noncomputable def staggered : Drawing String ℝ where
  options := ⟨.int 1, .real 0, .real 1, .real 0.5, .real 0.5⟩
  board :=
    { points := [⟨.real 0, .real 1, some "p", .flag false, []⟩,
        ⟨.real 1, .real 1, some "q", .flag false, []⟩]
      unknowns := []
      constraints := [⟨.member .horizontal, .references [.item (.point 0), .item (.point 1)],
          .null, .text "level", .flag true, []⟩,
        ⟨.member .coincident, .references [.item (.point 0), .value (.text "r")],
          .null, .text "meet", .flag true, []⟩,
        ⟨.member .fixed, .references [.item (.point 0)],
          .tuple [.real 0, .real 0], .text "pin", .flag true, []⟩,
        ⟨.member .distance, .references [.item (.point 0), .value (.text "q")],
          .real 1, .text "far", .flag true, []⟩] }
  unknowns := []
  slots := .ofList [("p.x", 0), ("p.y", 1), ("q.x", 2), ("q.y", 3)]
  params := [0, 1, 1, 1]
  points := .ofList [("p", .point 0), ("q", .point 1)]
  constraints := [.constraint 0, .constraint 1, .constraint 2, .constraint 3]

lemma mem_constraints_staggered {item : Item} (used : item ∈ staggered.constraints) :
    ∃ place < 4, item = .constraint place := by
  cases item with
  | constraint place =>
    have among : place = 0 ∨ place = 1 ∨ place = 2 ∨ place = 3 := by simpa [staggered] using used
    exact ⟨place, by omega, rfl⟩
  | point place | «variable» place => simp [staggered] at used

lemma isPlannable_staggered : staggered.IsPlannable where
  board := by
    constructor
    · refine List.forall_mem_cons.mpr ⟨?_, List.forall_mem_singleton.mpr ?_⟩
      · exact ⟨⟨_, .real _⟩, ⟨_, .real _⟩⟩
      · exact ⟨⟨_, .real _⟩, ⟨_, .real _⟩⟩
    · refine List.forall_mem_cons.mpr ⟨?_, List.forall_mem_cons.mpr ⟨?_,
        List.forall_mem_cons.mpr ⟨?_, List.forall_mem_singleton.mpr ?_⟩⟩⟩
      · exact ⟨⟨_, rfl⟩, ⟨_, rfl⟩, .null, ⟨_, rfl⟩, ⟨_, rfl⟩⟩
      · exact ⟨⟨_, rfl⟩, ⟨_, rfl⟩, .null, ⟨_, rfl⟩, ⟨_, rfl⟩⟩
      · exact ⟨⟨_, rfl⟩, ⟨_, rfl⟩, .tuple ⟨_, .real _⟩ ⟨_, .real _⟩, ⟨_, rfl⟩, ⟨_, rfl⟩⟩
      · exact ⟨⟨_, rfl⟩, ⟨_, rfl⟩, .number ⟨_, .real _⟩, ⟨_, rfl⟩, ⟨_, rfl⟩⟩
  constraints := fun _ used => mem_constraints_staggered used

lemma statesRelations_staggered : staggered.StatesRelations := by
  intro item used
  obtain ⟨place, inside, rfl⟩ := mem_constraints_staggered used
  match place, inside with
  | 0, _ => exact ⟨.horizontal, rfl⟩
  | 1, _ => exact ⟨.coincident, rfl⟩
  | 2, _ => exact ⟨.fixed, rfl⟩
  | 3, _ => exact ⟨.distance, rfl⟩

lemma slots_staggered (id : String) (slot : ℕ) (found : staggered.slots.get? id = some slot) :
    slot < staggered.params.length := by
  have there : (id, slot) ∈ [("p.x", 0), ("p.y", 1), ("q.x", 2), ("q.y", 3)] :=
    Table.mem_of_get? found
  have among : slot = 0 ∨ slot = 1 ∨ slot = 2 ∨ slot = 3 := by
    simp only [List.mem_cons, Prod.mk.injEq, List.not_mem_nil, or_false] at there
    omega
  show slot < 4
  omega

/-- The point at the origin has two residuals, which are between that of the points being level and
that of their distance. -/
theorem staggered_isLinedUp_and_isSparse : staggered.StatesRelations ∧ staggered.IsPlannable ∧
    ∃ plan demands, staggered.plan = .ok plan ∧ staggered.demands plan = .ok demands ∧
      plan.labels = [.text "level", .text "pin", .text "pin", .text "far"] ∧
      plan.IsLinedUp demands 0.5 staggered.params ∧
      plan.IsSparse demands 0.5 staggered.params := by
  obtain ⟨linedUp, sparse⟩ := isLinedUp_and_isSparse
  have lined := linedUp staggered statesRelations_staggered
  obtain ⟨plan, demands, planned, made⟩ := lined.planned isPlannable_staggered slots_staggered
  have known : staggered.plan = .ok [.planned ⟨.text "level", ⟨1, 2⟩, .constraint 0,
      [.slots 0 1, .slots 2 3]⟩, .skipped (.text "meet") 2,
      .planned ⟨.text "pin", ⟨2, 1⟩, .constraint 2, [.slots 0 1]⟩,
      .planned ⟨.text "far", ⟨1, 2⟩, .constraint 3, [.slots 0 1, .slots 2 3]⟩] := rfl
  obtain rfl := Except.ok.inj (known.symm.trans planned)
  exact ⟨statesRelations_staggered, isPlannable_staggered, _, demands, planned, made, rfl,
    lined.linedUp _ demands planned made 0.5 _ rfl,
    sparse staggered statesRelations_staggered _ demands planned made 0.5 _ rfl⟩

end Drawing

end Drafting.Plane
