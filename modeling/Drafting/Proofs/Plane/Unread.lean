import Drafting.Proofs.Plane.Contraction

/-!
# Slots that no row reads

A slot that no planned row reads is a column of zeros in every linear system of a solve. So in exact
arithmetic the step along it is zero, whichever way the system is solved and whether or not it has a
solution (`Iterate.getElem?_params_next`), and however many steps a solve makes, the number in the
slot stays as it was (`Drawing.isUnmovedAt`).
-/

namespace Drafting

/-- A factor of zero makes no difference. -/
lemma Linear.Gain.getD_apply_eq_zero (gain : Gain ℝ) {xs : List ℝ} {i : ℕ}
    (zero : xs.getD i 0 = 0) : (gain.apply xs).getD i 0 = 0 := by
  rw [List.getD_eq_getElem?_getD] at zero ⊢
  cases gain with
  | uniform factor =>
    rw [apply, List.getElem?_map]
    cases found : xs[i]? with
    | none => rfl
    | some x =>
      rw [found] at zero
      exact mul_eq_zero_of_right factor zero
  | each factors =>
    rw [apply, List.getElem?_zipWith]
    cases factors[i]? with
    | none => rfl
    | some factor =>
      cases found : xs[i]? with
      | none => rfl
      | some x =>
        rw [found] at zero
        exact mul_eq_zero_of_right factor zero

namespace Plane

/-! ### Demands -/

/-- That one of the coordinates of a point is found in a slot. -/
def Source.Reads {α : Type} (slot : ℕ) : Source α → Prop
  | slots x y => x = slot ∨ y = slot
  | constant _ _ => False

/-- That no point of a row is found in a slot. -/
def Row.Ignores {α : Type} (slot : ℕ) (row : Row α) : Prop := ∀ s ∈ row.sources, ¬s.Reads slot

lemma Source.locate_set {slot : ℕ} {s : Source ℝ} (unread : ¬s.Reads slot) (params : List ℝ)
    (x : ℝ) : s.locate (params.set slot x) = s.locate params := by
  cases s with
  | constant a b => rfl
  | slots a b =>
    obtain ⟨apartX, apartY⟩ := not_or.mp unread
    simp only [locate, List.getD_eq_getElem?_getD, List.getElem?_set_ne (Ne.symm apartX),
      List.getElem?_set_ne (Ne.symm apartY)]

namespace Demand

/-- That no point of a demand is found in a slot. -/
def Ignores (slot : ℕ) (d : Demand ℝ) : Prop := ∀ s ∈ d.sources, ¬s.Reads slot

lemma Ignores.residuals_set {slot : ℕ} {d : Demand ℝ} (ignores : d.Ignores slot)
    (params : List ℝ) (x : ℝ) : d.residuals (params.set slot x) = d.residuals params := by
  have located : ∀ s ∈ d.sources, s.locate (params.set slot x) = s.locate params :=
    fun s there => Source.locate_set (ignores s there) params x
  cases d with
  | fixed p anchor => simp only [residuals, located p List.mem_cons_self]
  | distance p q goal | horizontal p q | vertical p q | coincident p q =>
    have first := located p List.mem_cons_self
    have second := located q (List.mem_cons_of_mem p List.mem_cons_self)
    simp only [residuals, first, second]

section

variable {slot : ℕ} {demands : List (Demand ℝ)} (ignored : ∀ d ∈ demands, d.Ignores slot)

include ignored

lemma residualsAt_of_ignored (params : List ℝ) (x : ℝ) :
    residualsAt demands params slot x = allResiduals demands params :=
  List.flatMap_congr fun d there => (ignored d there).residuals_set params x

/-- A slot that no demand reads is a column of zeros. -/
lemma getD_of_mem_jacobian (epsilon : ℝ) (params : List ℝ) :
    ∀ row ∈ jacobian epsilon demands params, row.getD slot 0 = 0 := by
  rw [jacobian]
  refine List.forall_mem_map.mpr fun row _ => ?_
  by_cases inside : slot < params.length
  · rw [List.getD_eq_getElem _ _ (by simpa using inside), List.getElem_map, List.getElem_map,
      List.getElem_range]
    have level : ∀ x ∈ slopes epsilon demands params slot, x = 0 :=
      slopes_eq_zero (residualsAt_of_ignored ignored params)
    exact Linear.getD_of_forall_eq_zero level row
  · exact List.getD_eq_default _ _ (by simpa using inside)

end

end Demand

/-- The demands of rows that ignore a slot do so. -/
lemma Drawing.ignores_of_demands_eq_ok {d : Drawing String ℝ} {plan : Plan ℝ}
    {demands : List (Demand ℝ)} (ok : d.demands plan = .ok demands) {slot : ℕ}
    (ignored : ∀ row ∈ plan.rows, row.Ignores slot) : ∀ demand ∈ demands, demand.Ignores slot := by
  intro demand there s among
  obtain ⟨row, used, made⟩ := Except.exists_of_mem_mapM ok there
  obtain ⟨front, -⟩ := Row.sources_of_demand_eq_ok made
  exact ignored row used s (front.subset among)

/-! ### Steps -/

section

variable {settings : Settings ℝ} {demands : List (Demand ℝ)} {slot : ℕ}
  (positive : 0 < settings.pivotTolerance) (ignored : ∀ d ∈ demands, d.Ignores slot)

include positive ignored

/-- A step leaves the number in a slot that no demand reads. -/
lemma Iterate.getElem?_params_next {i : Iterate ℝ}
    (covers : settings.damping.Covers i.params.length) :
    (i.next settings demands).params[slot]? = i.params[slot]? := by
  have still : (i.delta settings demands).getD slot 0 = 0 :=
    Linear.newtonStep_getD_of_forall_eq_zero positive Demand.length_of_mem_jacobian
      (Demand.getD_of_mem_jacobian ignored settings.epsilon i.params) i.residuals
  have change := Linear.Gain.getD_apply_eq_zero settings.damping still
  have length : (settings.damping.apply (i.delta settings demands)).length = i.params.length := by
    rw [Linear.Gain.length_apply (length_delta settings demands i ▸ covers), length_delta]
  show (List.zipWith (· + ·) i.params (settings.damping.apply _))[slot]? = _
  by_cases inside : slot < i.params.length
  · rw [List.getD_eq_getElem _ _ (length ▸ inside)] at change
    rw [List.getElem?_eq_getElem (by simpa [length] using inside), List.getElem_zipWith, change,
      add_zero, List.getElem?_eq_getElem inside]
  · rw [List.getElem?_eq_none (by simpa [length] using inside),
      List.getElem?_eq_none (Nat.le_of_not_lt inside)]

/-- Steps leave the number in a slot that no demand reads, however many they are. -/
lemma getElem?_paramsAfter {params : List ℝ} (covers : settings.damping.Covers params.length)
    (count : ℕ) : (paramsAfter settings demands params count)[slot]? = params[slot]? := by
  induction count with
  | zero => rfl
  | succ n ih =>
    have length :=
      Iterate.length_params_iterate_of_covers demands (i := .of demands params) covers n
    rw [paramsAfter, Function.iterate_succ_apply',
      Iterate.getElem?_params_next positive ignored (length ▸ covers)]
    exact ih

end

/-! ### Writing back -/

section

variable {α : Type} [Scalar α]

/-- That an unknown on a board shows a number. -/
def Board.ShowsAt (b : Board String α) (place : ℕ) (id : String) (x : α) : Prop :=
  ∃ u, b.unknowns[place]? = some u ∧ u.id = id ∧ u.value.IsNumber x

namespace Board.ShowsAt

variable {b : Board String α} {place : ℕ} {id : String} {x : α} (shown : b.ShowsAt place id x)

include shown

/-- The number is still shown after a write to another object or to another field. -/
lemma put {item : Item} {name : String} {content : Content α}
    (spared : item ≠ .variable place ∨ name = "x" ∨ name = "y") :
    (b.put item name content).ShowsAt place id x := by
  cases item with
  | point place' => exact shown
  | constraint place' => exact shown
  | «variable» place' =>
    obtain ⟨u, there, named, number⟩ := shown
    by_cases same : place' = place
    · subst same
      have other : name = "x" ∨ name = "y" := spared.resolve_left fun apart => apart rfl
      refine ⟨u.put name content, ?_, ?_⟩
      · show (b.unknowns.modify place' _)[place']? = _
        rw [List.getElem?_modify_eq, there]
        rfl
      · obtain rfl | rfl := other <;> exact ⟨named, number⟩
    · refine ⟨u, ?_, named, number⟩
      show (b.unknowns.modify place' _)[place]? = some u
      rw [List.getElem?_modify_ne _ _ same, there]

/-- The number is still shown after it is written. -/
lemma put_value :
    (b.put (.variable place) "value" (.value (.real x))).ShowsAt place id x := by
  obtain ⟨u, there, named, -⟩ := shown
  refine ⟨{ u with value := .real x }, ?_, named, .real x⟩
  show (b.unknowns.modify place _)[place]? = _
  rw [List.getElem?_modify_eq, there]
  rfl

end Board.ShowsAt

namespace Drawing

variable {d : Drawing String α} {place slot : ℕ} {id : String} {x : α}

/-- An unknown with a slot of its own goes on showing the number in it. -/
lemma showsAt_commit {params : List α} (shown : d.board.ShowsAt place id x)
    (own : ∀ i, d.unknowns[i]? = some (.variable place) → i = slot)
    (there : params[slot]? = some x) :
    (d.commit params).drawing.board.ShowsAt place id x := by
  have first : (writeVariables { d with params }).board.ShowsAt place id x := by
    refine List.foldlRecOn (motive := fun b : Board String α => b.ShowsAt place id x) _ _ shown ?_
    rintro b shown ⟨item, y⟩ among
    by_cases same : item = .variable place
    · obtain ⟨i, found⟩ := List.mem_iff_getElem?.mp among
      obtain ⟨held, number⟩ := List.getElem?_zip_eq_some.mp found
      obtain rfl := own i (same ▸ held)
      obtain rfl := Option.some.inj (number.symm.trans there)
      rw [same]
      exact shown.put_value
    · exact shown.put (.inl same)
  have located {e : Drawing String α} {id' : String} {item : Item} {axis : Kind}
      {b : Board String α} (shown : b.ShowsAt place id x)
      (coordinate : axis.name = "x" ∨ axis.name = "y") :
      (e.locate id' item axis b).ShowsAt place id x := by
    rw [locate]
    split
    · exact shown.put (.inr coordinate)
    · exact shown
  rw [commit, writeBack]
  split
  · exact first
  · refine List.foldlRecOn (motive := fun b : Board String α => b.ShowsAt place id x) _ _
      first ?_
    intro b shown entry _
    exact located (located shown (.inl rfl)) (.inr rfl)

end Drawing

end

/-! ### Solves -/

namespace Drawing

/-- That a solve leaves what is in a slot. -/
structure IsUnmovedAt (d : Drawing String ℝ) (slot : ℕ) : Prop where
  number : d.solve.drawing.params[slot]? = d.params[slot]?
  /-- The number keeps its id. -/
  numbered : d.solve.drawing.numbered[slot]? = d.numbered[slot]?
  told : ∀ solution, d.solve.result = .ok solution →
    solution.values = .ofList d.solve.drawing.numbered
  /-- The unknown whose slot it is goes on showing the number. -/
  shown : ∀ place id x, d.unknowns[slot]? = some (.variable place) →
    (∀ i, d.unknowns[i]? = some (.variable place) → i = slot) → d.params[slot]? = some x →
    d.board.ShowsAt place id x → d.solve.drawing.board.ShowsAt place id x

/-- A solve leaves what is in a slot that no planned row reads, whatever else the drawing holds and
whatever the result is. -/
theorem isUnmovedAt {d : Drawing String ℝ} {slot : ℕ}
    (positive : ∀ t, Linear.leastPivot d.options.pivotTolerance = .ok t → 0 < t)
    (covered : ∀ gain, Linear.Gain.ofValue d.params.length d.options.damping = .ok gain →
      gain.Covers d.params.length)
    (ignored : ∀ plan, d.plan = .ok plan → ∀ row ∈ plan.rows, row.Ignores slot) :
    d.IsUnmovedAt slot := by
  obtain same | ⟨plan, settings, demands, takes⟩ := d.solve_drawing_cases
  · constructor
    case number => rw [same]
    case numbered => rw [same]
    case told => exact fun solution => values_of_solve_eq_ok
    case shown =>
      rw [same]
      exact fun _ _ _ _ _ _ shown => shown
  · have kept : (Iteration.last (.of demands d.params)
        (run settings demands (.of demands d.params))).params[slot]? = d.params[slot]? := by
      obtain none | steps := takes.steps
      · rw [none]
        rfl
      · rw [last_run]
        exact getElem?_paramsAfter (positive _ steps.pivot)
          (ignores_of_demands_eq_ok takes.demands_eq_ok (ignored plan takes.plan_eq_ok))
          (covered _ steps.gain) _
    constructor
    case number => rw [takes.drawing_eq, params_commit, kept]
    case numbered =>
      rw [takes.drawing_eq, numbered_commit]
      simp only [Drawing.numbered, List.getElem?_map, List.zip_eq_zipWith, List.getElem?_zipWith,
        kept]
    case told => exact fun solution => values_of_solve_eq_ok
    case shown =>
      intro place id x held own there shown
      rw [takes.drawing_eq]
      exact showsAt_commit shown own (kept.trans there)

/-- The point of `redundant`, beside an unknown that no constraint mentions. -/
noncomputable def accompanied : Drawing String ℝ :=
  { redundant with
    board :=
      { redundant.board with
        unknowns := redundant.board.unknowns ++ [⟨"free", .real 8, .member .parameter, []⟩] }
    unknowns := [.variable 0, .variable 1, .variable 2]
    slots := .ofList [("p.x", 0), ("p.y", 1), ("free", 2)]
    params := [1, 1, 8] }

theorem accompanied_isUnmovedAt :
    (∀ t, Linear.leastPivot accompanied.options.pivotTolerance = .ok t → 0 < t) ∧
      (∀ gain, Linear.Gain.ofValue accompanied.params.length accompanied.options.damping =
        .ok gain → gain.Covers accompanied.params.length) ∧
      (∀ plan, accompanied.plan = .ok plan → plan.rows.length = 2 ∧
        ∀ row ∈ plan.rows, row.Ignores 2) ∧
      accompanied.IsUnmovedAt 2 := by
  have positive : ∀ t, Linear.leastPivot accompanied.options.pivotTolerance = .ok t → 0 < t := by
    intro t ok
    cases ok
    exact one_pos
  have covered : ∀ gain, Linear.Gain.ofValue accompanied.params.length
      accompanied.options.damping = .ok gain → gain.Covers accompanied.params.length := by
    intro gain ok
    cases ok
    exact True.intro
  have ignored : ∀ plan, accompanied.plan = .ok plan → plan.rows.length = 2 ∧
      ∀ row ∈ plan.rows, row.Ignores 2 := by
    intro plan ok
    have planned : accompanied.plan = .ok
        [.planned ⟨.text "meet", ⟨2, 2⟩, .constraint 0, [.slots 0 1, .constant 0 0]⟩,
          .planned ⟨.text "pin", ⟨2, 1⟩, .constraint 1, [.slots 0 1]⟩] := rfl
    obtain rfl := Except.ok.inj (ok.symm.trans planned)
    refine ⟨rfl, fun row there => ?_⟩
    obtain rfl | rfl : _ ∨ _ := by simpa [Plan.rows] using there
    all_goals simp [Row.Ignores, Source.Reads]
  exact ⟨positive, covered, ignored,
    isUnmovedAt positive covered fun plan ok => (ignored plan ok).2⟩

end Drawing

end Plane

end Drafting
