import Drafting.Proofs.Plane.Soundness
import Drafting.Proofs.Plane.WriteBack

/-!
# Runs of operations on a drawing

A run does one operation after the other on a drawing, while its surroundings may change any object
that is not registered. After each solve of a run the registered unknowns show the numbers that the
solution tells, and so do the registered points, except for coordinates that are stale: those whose
slots were handed to other unknowns since numbers were last written back. A solve writes back,
unless there is nothing for it to do (`Run.agrees_after_solve`).
-/

namespace Drafting.Plane

variable {α : Type} [Scalar α]

namespace Drawing

lemma isOrderly_empty {options : NewtonOptions α} {board : Board String α}
    (numbers : ∃ cap settings, Settings.IsGivenBy settings options cap) (typed : board.IsTyped) :
    (empty options board).IsOrderly where
  options := numbers
  board := typed
  constraints := List.forall_mem_nil _
  registered := ⟨rfl, List.forall_mem_nil _, fun _ _ => ⟨nofun, nofun⟩⟩

lemma agreesWith_empty (options : NewtonOptions α) (board : Board String α) :
    (empty options board).AgreesWith (empty options board).param? [] :=
  ⟨fun _ there => absurd there List.not_mem_nil, List.forall_mem_nil _⟩

/-! ### Other numbers in the slots -/

section

variable {d : Drawing String α} {params : List α}

omit [Scalar α] in
lemma exists_param?_withParams (length : params.length = d.params.length) {id : String} {x : α}
    (told : d.param? id = some x) : ∃ y, param? { d with params } id = some y := by
  obtain ⟨slot, found, there⟩ := Option.bind_eq_some_iff.mp told
  have inside : slot < params.length := length ▸ (List.getElem?_eq_some_iff.mp there).1
  refine ⟨params[slot], ?_⟩
  rw [param?, found, Option.bind_some, List.getElem?_eq_getElem inside]

omit [Scalar α] in
lemma TellsPoints.withParams (tells : d.TellsPoints) (length : params.length = d.params.length) :
    TellsPoints { d with params } := by
  intro entry used
  obtain ⟨place, p, x, y, same, there, named, toldX, toldY⟩ := tells entry used
  obtain ⟨x', toldX'⟩ := exists_param?_withParams length toldX
  obtain ⟨y', toldY'⟩ := exists_param?_withParams length toldY
  exact ⟨place, p, x', y', same, there, named, toldX', toldY'⟩

lemma IsOrderly.withParams (orderly : d.IsOrderly) (length : params.length = d.params.length) :
    IsOrderly { d with params } :=
  ⟨orderly.options, orderly.board, orderly.constraints, length.trans orderly.registered.full,
    orderly.registered.unknown, orderly.registered.slots⟩

/-- Other numbers, once they are written back, are shown by every object. -/
lemma IsOrderly.written_withParams (orderly : d.IsOrderly) {stale : List String}
    (agrees : d.AgreesWith d.param? stale) (length : params.length = d.params.length) :
    (Drawing.written { d with params }).IsOrderly ∧
      (Drawing.written { d with params }).AgreesWith (param? { d with params }) [] :=
  (orderly.withParams length).written (agrees.tellsPoints.withParams length)

end

/-! ### Solves -/

/-- Whether a solve has nothing to do. -/
def isAtRest (d : Drawing String α) : Bool :=
  match d.plan with
  | .ok plan => d.isIdle plan
  | .error _ => true

section

variable {d : Drawing String α} {stale : List String}

/-- What a run of steps comes to is shown by every object. -/
lemma AgreesWith.conclude (orderly : d.IsOrderly) (agrees : d.AgreesWith d.param? stale)
    (diagnostics : Diagnostics α) (tolerance : α) (start : Iterate α) (iterates : List (Iterate α))
    (length : (Iteration.last start iterates).params.length = d.params.length) :
    ∃ solution, (d.conclude diagnostics tolerance start iterates).result = .ok solution ∧
      (d.conclude diagnostics tolerance start iterates).drawing.IsOrderly ∧
      solution.values.get? = (d.conclude diagnostics tolerance start iterates).drawing.param? ∧
      (d.conclude diagnostics tolerance start iterates).drawing.AgreesWith solution.values.get? []
      := by
  have full : d.unknowns.length ≤ (Iteration.last start iterates).params.length :=
    (length.trans orderly.registered.full).ge
  have left : (d.conclude diagnostics tolerance start iterates).drawing =
      Drawing.written { d with params := (Iteration.last start iterates).params } := by
    rw [Drawing.conclude, commit_of_full full]
    rfl
  obtain ⟨orderly', agrees'⟩ := orderly.written_withParams agrees length
  have told := (orderly.withParams length).registered.get?_numbered
  rw [conclude_of_full _ _ _ _ full, left]
  exact ⟨_, rfl, orderly', told, told ▸ agrees'⟩

/-- A solve of a run comes to a solution, which agrees with the drawing that it leaves. -/
theorem AgreesWith.solve (orderly : d.IsOrderly) (agrees : d.AgreesWith d.param? stale) :
    ∃ solution, d.solve.result = .ok solution ∧ d.solve.drawing.IsOrderly ∧
      solution.values.get? = d.solve.drawing.param? ∧
      d.solve.drawing.AgreesWith solution.values.get? (if d.isAtRest then stale else []) := by
  obtain ⟨cap, settings, options⟩ := orderly.options
  have indexed := orderly.registered.isIndexed
  obtain ⟨plan, planned, stands⟩ := exists_plan orderly.board orderly.constraints
  have rest : d.isAtRest = d.isIdle plan := by rw [isAtRest, planned]
  cases idle : d.isIdle plan with
  | true =>
    have told := orderly.registered.get?_numbered
    rw [solve_of_idle planned idle indexed.full.ge, rest, idle, if_pos rfl]
    exact ⟨_, rfl, orderly, told, told ▸ agrees⟩
  | false =>
    obtain ⟨demands, made⟩ := exists_demands indexed.slots orderly.board orderly.constraints stands
    have length : (Iteration.last (.of demands d.params)
        (run settings demands (.of demands d.params))).params.length = d.params.length :=
      length_params_last options _
    rw [solve_of_busy options planned idle made, rest, idle, if_neg Bool.false_ne_true]
    exact agrees.conclude orderly _ _ _ _ length

/-! ### Initial numbers -/

/-- Numbers for ids are put into the slots that there are. -/
lemma assign_eq {fields : List (String × Value α)} (numeric : ∀ field ∈ fields, field.2.IsNumeric)
    (slots : ∀ id slot, d.slots.get? id = some slot → slot < d.params.length) :
    ∃ params, params.length = d.params.length ∧ d.assign fields = ⟨{ d with params }, .ok ()⟩ := by
  induction fields generalizing d with
  | nil => exact ⟨d.params, rfl, rfl⟩
  | cons field rest ih =>
    obtain ⟨⟨x, number⟩, others⟩ := List.forall_mem_cons.mp numeric
    rw [assign]
    cases found : d.slots.get? field.1 with
    | none => exact ih others slots
    | some slot =>
      have inside := slots _ slot found
      simp only [toReal_eq_ok number, if_neg (Nat.not_le_of_lt inside)]
      obtain ⟨params, length, step⟩ := ih (d := { d with params := d.params.set slot x }) others
        fun id slot found => (slots id slot found).trans_eq List.length_set.symm
      exact ⟨params, length.trans List.length_set, step⟩

/-- Setting numbers by id writes them back; what is no record of numbers leaves the drawing as it
is. -/
lemma AgreesWith.setInitial (orderly : d.IsOrderly) (agrees : d.AgreesWith d.param? stale)
    {v : Value α} (numeric : ∀ fields, v.fields? = some fields →
      ∀ field ∈ fields, field.2.IsNumeric) :
    (d.setInitial v).drawing.IsOrderly ∧
      (d.setInitial v).drawing.AgreesWith (d.setInitial v).drawing.param?
        (if v.isRecord then [] else stale) := by
  rw [Drawing.setInitial_eq, Value.isRecord]
  cases found : v.fields? with
  | none => exact ⟨orderly, agrees⟩
  | some fields =>
    obtain ⟨params, length, step⟩ :=
      assign_eq (numeric fields found) orderly.registered.isIndexed.slots
    have full : d.unknowns.length ≤ params.length := (length.trans orderly.registered.full).ge
    have back := commit_of_full full
    rw [commit] at back
    simp only [Attempt.andThen, step, back]
    exact orderly.written_withParams agrees length

end

end Drawing

/-! ### Operations -/

/-- What can be done with a drawing: with an object of its board, by its place, or with values. -/
inductive Operation (α : Type) where
  | addVariable (place : ℕ)
  | addPoint (place : ℕ)
  | addObject (r : Reference α)
  | addConstraint (place : ℕ)
  | setInitial (values : Value α)
  | analyze (fit : Linear.Fit α ℕ)
  | solve
  | clear

namespace Operation

open Drawing

/-- The drawing that an operation leaves. -/
def perform (d : Drawing String α) : Operation α → Drawing String α
  | addVariable place => (d.addVariable (.variable place)).drawing
  | addPoint place => (d.addPoint (.point place)).drawing
  | addObject r => (d.addObject r).drawing
  | addConstraint place => d.addConstraint (.constraint place)
  | setInitial values => (d.setInitial values).drawing
  | analyze _ => d
  | solve => d.solve.drawing
  | clear => d.clear

/-- That the objects of an operation are on a board, and that its values are numbers. -/
def IsTyped (b : Board String α) : Operation α → Prop
  | addVariable place => place < b.unknowns.length
  | addPoint place => place < b.points.length
  | addObject (.item item) => b.Holds item
  | addObject (.value _) => True
  | addConstraint place => place < b.constraints.length
  | setInitial values => ∀ fields, values.fields? = some fields →
      ∀ field ∈ fields, field.2.IsNumeric
  | analyze _ | solve | clear => True

/-- The ids whose numbers may not have reached the coordinates of points after an operation: those
of unknowns that have been used since numbers were last written back. -/
def stale (d : Drawing String α) (before : List String) : Operation α → List String
  | addVariable place => d.staleAfter before (.variable place)
  | addPoint place => d.staleAfter before (.point place)
  | addObject (.item item) => d.staleAfter before item
  | addObject (.value _) | addConstraint _ | analyze _ => before
  | setInitial values => if values.isRecord then [] else before
  | solve => if d.isAtRest then before else []
  | clear => []

section

variable {d : Drawing String α} {before : List String}

/-- An operation leaves a drawing orderly, with objects that show its numbers. -/
lemma perform_agrees (orderly : d.IsOrderly) (agrees : d.AgreesWith d.param? before)
    {op : Operation α} (typed : op.IsTyped d.board) :
    (op.perform d).IsOrderly ∧
      (op.perform d).AgreesWith (op.perform d).param? (op.stale d before) := by
  cases op with
  | addVariable place => exact agrees.addVariable orderly typed
  | addPoint place => exact agrees.addPoint orderly typed
  | addObject r =>
    cases r with
    | value v => exact ⟨orderly, agrees⟩
    | item object =>
      cases object with
      | «variable» place => exact agrees.addVariable orderly typed
      | point place => exact agrees.addPoint orderly typed
      | constraint place => exact ⟨orderly, agrees⟩
  | addConstraint place =>
    refine ⟨⟨orderly.options, orderly.board, ?_, orderly.registered.full,
      orderly.registered.unknown, orderly.registered.slots⟩, agrees.unknowns, fun entry used => ?_⟩
    · refine List.forall_mem_append.mpr ⟨orderly.constraints, ?_⟩
      exact List.forall_mem_singleton.mpr ⟨place, typed, rfl⟩
    · exact (agrees.points entry used).congr (fun _ _ => rfl) fun _ _ => .inl ⟨rfl, id⟩
  | setInitial values => exact agrees.setInitial orderly typed
  | analyze _ => exact ⟨orderly, agrees⟩
  | solve =>
    obtain ⟨solution, -, orderly', told, agrees'⟩ := agrees.solve orderly
    exact ⟨orderly', told ▸ agrees'⟩
  | clear => exact ⟨isOrderly_empty orderly.options orderly.board, agreesWith_empty _ _⟩

end

end Operation

/-! ### Runs -/

/-- The drawings that runs lead to, with the ids of coordinates that may be stale. Between
operations, objects may come to the board and any of its objects be changed that is not
registered. -/
inductive Run : Drawing String α → List String → Prop
  | start {options : NewtonOptions α} {board : Board String α} :
      (∃ cap settings, Settings.IsGivenBy settings options cap) → board.IsTyped →
      Run (.empty options board) []
  | outside {d : Drawing String α} {stale : List String} {board : Board String α} :
      Run d stale → d.Spares board → Run { d with board } stale
  | operate {d : Drawing String α} {stale : List String} (op : Operation α) :
      Run d stale → op.IsTyped d.board → Run (op.perform d) (op.stale d stale)

namespace Run

variable {d : Drawing String α} {stale : List String}

/-- In the course of a run, a drawing stays orderly and its objects go on showing its numbers. -/
lemma agrees (run : Run d stale) : d.IsOrderly ∧ d.AgreesWith d.param? stale := by
  induction run with
  | start options typed =>
    exact ⟨Drawing.isOrderly_empty options typed, Drawing.agreesWith_empty _ _⟩
  | outside _ spares ih => exact ⟨ih.1.onBoard spares, ih.2.onBoard spares⟩
  | operate op _ typed ih => exact Operation.perform_agrees ih.1 ih.2 typed

/-- A run leads to typed drawings. -/
theorem isTyped (run : Run d stale) : ∃ cap settings, d.IsTyped cap settings := by
  obtain ⟨orderly, -⟩ := run.agrees
  obtain ⟨cap, settings, options⟩ := orderly.options
  exact ⟨cap, settings, options, orderly.board, orderly.constraints,
    orderly.registered.isIndexed⟩

/-- After each solve of a run, every registered unknown and every coordinate of a registered point
shows the number that the solution tells under its id, but for coordinates that are stale when the
solve has nothing to do. -/
theorem agrees_after_solve (run : Run d stale) : ∃ solution, d.solve.result = .ok solution ∧
    d.solve.drawing.AgreesWith solution.values.get? (if d.isAtRest then stale else []) := by
  obtain ⟨orderly, agrees⟩ := run.agrees
  obtain ⟨solution, solved, -, -, agrees'⟩ := agrees.solve orderly
  exact ⟨solution, solved, agrees'⟩

end Run

/-! ### A coordinate that is handed over -/

/-- A board with a point, an unknown that has the id of one of its coordinates, and a constraint
that the point is at the origin. -/
noncomputable def overlaid : Board String ℝ where
  points := [⟨.real 1, .real 0, some "p", .flag false, []⟩]
  unknowns := [⟨"p.x", .real 5, .member .parameter, []⟩]
  constraints := [⟨.member .fixed, .references [.item (.point 0)], .tuple [.real 0, .real 0],
    .text "pin", .flag true, []⟩]

/-- A drawing in which the point is used and then the unknown. -/
noncomputable def handedOver : Drawing String ℝ :=
  (Operation.addVariable 0).perform ((Operation.addPoint 0).perform
    (.empty ⟨.int 1, .real 0, .real 1, .real 0.5, .real 0.5⟩ overlaid))

lemma run_handedOver : Run handedOver ["p.x"] := by
  refine .operate (.addVariable 0) (.operate (.addPoint 0) (.start ?_ ?_) ?_) ?_
  · exact ⟨1, ⟨1, 0, 0.5, 0.5, .uniform 1⟩, rfl, rfl, .real _, .real _, .real _, 1, .real _, rfl⟩
  · constructor
    · exact List.forall_mem_singleton.mpr ⟨⟨_, .real _⟩, ⟨_, .real _⟩⟩
    · exact List.forall_mem_singleton.mpr ⟨_, .real _⟩
    · exact List.forall_mem_singleton.mpr
        ⟨⟨_, rfl⟩, ⟨_, rfl⟩, .tuple ⟨_, .real _⟩ ⟨_, .real _⟩, .inr ⟨_, rfl⟩, ⟨_, rfl⟩⟩
  · exact Nat.zero_lt_one
  · exact Nat.succ_pos 2

theorem handedOver_agrees_after_solve :
    Run (handedOver.addConstraint (.constraint 0)) ["p.x"] ∧
      (handedOver.addConstraint (.constraint 0)).isAtRest = false ∧
      ∃ solution, (handedOver.addConstraint (.constraint 0)).solve.result = .ok solution ∧
        (handedOver.addConstraint (.constraint 0)).solve.drawing.AgreesWith
          solution.values.get? [] := by
  have run : Run (handedOver.addConstraint (.constraint 0)) ["p.x"] :=
    .operate (.addConstraint 0) run_handedOver Nat.zero_lt_one
  have busy : (handedOver.addConstraint (.constraint 0)).isAtRest = false := rfl
  have agrees := run.agrees_after_solve
  rw [busy, if_neg Bool.false_ne_true] at agrees
  exact ⟨run, busy, agrees⟩

lemma eq_of_isNumber_real {a b : ℝ} (number : (Value.real a).IsNumber b) : a = b := by
  cases number
  rfl

/-- A solve that has nothing to do leaves a stale coordinate as it is, although it tells another
number under its id. -/
theorem not_agrees_after_solve :
    ¬∀ (d : Drawing String ℝ) (stale : List String), Run d stale →
      ∃ solution, d.solve.result = .ok solution ∧
        d.solve.drawing.AgreesWith solution.values.get? [] := by
  intro coherent
  obtain ⟨solution, solved, agrees⟩ := coherent _ _ run_handedOver
  have result : handedOver.solve.result =
      .ok ⟨true, [], 0, .ofList handedOver.numbered, ⟨[], []⟩⟩ := rfl
  obtain rfl := Except.ok.inj (solved.symm.trans result)
  have used : ("p", .point 0) ∈ handedOver.solve.drawing.points.entries :=
    List.mem_singleton.mpr rfl
  obtain ⟨v, x, coordinate, told, number | stale⟩ :=
    (agrees.points _ used).coordinate .x List.mem_cons_self
  · have shown : handedOver.solve.drawing.board.coordinate (.point 0) .x = .ok (.real 1) := rfl
    have five : (Table.ofList handedOver.numbered).get? "p.x" = some 5 := rfl
    obtain rfl := Except.ok.inj (coordinate.symm.trans shown)
    obtain rfl := Option.some.inj (told.symm.trans five)
    have absurdity : (1 : ℝ) = 5 := eq_of_isNumber_real number
    norm_num at absurdity
  · exact List.not_mem_nil stale

end Drafting.Plane
