import Drafting.Proofs.Plane.Planning
import Drafting.Proofs.Plane.Solving
import Mathlib.Data.List.ReduceOption

/-!
# Plans of typed drawings

A board is typed if what its objects hold has the types that they are declared with. A drawing of
such a board can be planned, and every constraint in use has one standing
(`Drawing.exists_plan`): what it stands for in a solve, or why it has no part in it. For that the
ids of constraints need not be texts, as long as it is known whether they are empty
(`Drawing.IsPlannable.exists_plan`).
-/

namespace Drafting

variable {α : Type} [Scalar α]

/-- A value that is some number. -/
def Value.IsNumeric (v : Value α) : Prop := ∃ x, v.IsNumber x

/-- A value that is a target of a constraint in the plane: nothing, a number, or a place. -/
inductive Value.IsTarget : Value α → Prop
  | null : IsTarget .null
  | number {v : Value α} : v.IsNumeric → IsTarget v
  | list {v w : Value α} : v.IsNumeric → w.IsNumeric → IsTarget (.list [v, w])
  | tuple {v w : Value α} : v.IsNumeric → w.IsNumeric → IsTarget (.tuple [v, w])
  | record {fields : List (String × Value α)} {v w : Value α} : field? fields "x" = some v →
      v.IsNumeric → field? fields "y" = some w → w.IsNumeric → IsTarget (.record fields)

namespace Plane

/-- A point whose coordinates are numbers. -/
structure Point.IsTyped {ν : Type} (p : Point ν α) : Prop where
  x : p.x.IsNumeric
  y : p.y.IsNumeric

/-- A constraint that is enabled or not, and whose fields are of their sort. -/
structure Constraint.IsTyped (c : Constraint α) : Prop where
  relation : ∃ r, c.relation = .member r
  references : ∃ refs, c.references = .references refs
  target : c.target.IsTarget
  id : c.id = .null ∨ ∃ s, c.id = .text s
  enabled : ∃ b, c.enabled = .flag b

/-- A board whose objects are typed. -/
structure Board.IsTyped {ν : Type} (b : Board ν α) : Prop where
  points : ∀ p ∈ b.points, p.IsTyped
  unknowns : ∀ u ∈ b.unknowns, u.value.IsNumeric
  constraints : ∀ c ∈ b.constraints, c.IsTyped

/-- A constraint that is typed but for its id, which is empty or not. -/
structure Constraint.IsPlannable (c : Constraint α) : Prop where
  relation : ∃ r, c.relation = .member r
  references : ∃ refs, c.references = .references refs
  target : c.target.IsTarget
  id : ∃ b, c.id.truth = .ok b
  enabled : ∃ b, c.enabled = .flag b

/-- A board whose points are typed and whose constraints are typed but for their ids. -/
structure Board.IsPlannable {ν : Type} (b : Board ν α) : Prop where
  points : ∀ p ∈ b.points, p.IsTyped
  constraints : ∀ c ∈ b.constraints, c.IsPlannable

lemma Constraint.IsTyped.isPlannable {c : Constraint α} (typed : c.IsTyped) : c.IsPlannable where
  relation := typed.relation
  references := typed.references
  target := typed.target
  id := by
    obtain null | ⟨s, text⟩ := typed.id
    · exact ⟨false, by rw [null]; rfl⟩
    · exact ⟨!s.isEmpty, by rw [text]; rfl⟩
  enabled := typed.enabled

lemma Board.IsTyped.isPlannable {ν : Type} {b : Board ν α} (typed : b.IsTyped) : b.IsPlannable where
  points := typed.points
  constraints c there := (typed.constraints c there).isPlannable

/-! ### Numbers and targets -/

lemma toReal_eq_ok {v : Value α} {x : α} (number : v.IsNumber x) : v.toReal = .ok x := by
  cases number with
  | real x => rfl
  | int n x inRange below => exact Value.ofIntOrFault_eq_ok inRange

lemma exists_toReal {v : Value α} (numeric : v.IsNumeric) : ∃ x, v.toReal = .ok x := by
  obtain ⟨x, number⟩ := numeric
  exact ⟨x, toReal_eq_ok number⟩

section

variable {v : Value α}

lemma exists_goal (target : v.IsTarget) : ∃ x, goal v = .ok x := by
  cases target with
  | number numeric =>
    obtain ⟨x, number⟩ := numeric
    cases number with
    | real x => exact ⟨x, rfl⟩
    | int n x inRange below => exact ⟨x, Value.ofIntOrFault_eq_ok inRange⟩
  | null | list | tuple | record => exact ⟨0, rfl⟩

lemma exists_anchor (target : v.IsTarget) : ∃ place, anchor? v = .ok place := by
  cases target with
  | null => exact ⟨none, rfl⟩
  | number numeric =>
    obtain ⟨x, number⟩ := numeric
    cases number with
    | real x => exact ⟨none, rfl⟩
    | int n x inRange below => exact ⟨none, rfl⟩
  | list first second | tuple first second =>
    obtain ⟨x, first⟩ := exists_toReal first
    obtain ⟨y, second⟩ := exists_toReal second
    refine ⟨some (x, y), ?_⟩
    rw [anchor?, first, second]
    rfl
  | record foundX first foundY second =>
    obtain ⟨x, first⟩ := exists_toReal first
    obtain ⟨y, second⟩ := exists_toReal second
    refine ⟨some (x, y), ?_⟩
    simp only [anchor?, placeOf, needed, foundX, foundY, first, second, bind, Except.bind]
    rfl

end

/-! ### Standings -/

namespace Drawing

/-- Whether a constraint is enabled. -/
def isEnabled (d : Drawing String α) (item : Item) : Bool :=
  match d.board.enabled item with
  | .ok (.flag b) => b
  | _ => false

/-- What standing a constraint has at its position among those in use. -/
inductive Stands (d : Drawing String α) (position : ℕ) (item : Item) : Standing α → Prop
  | disabled : d.isEnabled item = false → Stands d position item .disabled
  | unsupported {r : Relation} {label : Value α} : d.isEnabled item = true →
      d.label position item = .ok label → d.board.relation item = .ok (.member r) →
      r.layout? = none → Stands d position item (.unsupported label)
  /-- Too few points are named, or one of those that are needed is not found. -/
  | skipped {r : Relation} {layout : Layout} {label : Value α} {refs : List (Reference α)} :
      d.isEnabled item = true → d.label position item = .ok label →
      d.board.relation item = .ok (.member r) → r.layout? = some layout →
      d.board.references item = .ok (.references refs) →
      (refs.length < layout.points ∨ ∃ ref ∈ refs.take layout.points, d.source? ref = .ok none) →
      Stands d position item (.skipped label layout.points)
  /-- All points that are needed are found. -/
  | planned {r : Relation} {layout : Layout} {label : Value α} {refs : List (Reference α)}
      {sources : List (Source α)} :
      d.isEnabled item = true → d.label position item = .ok label →
      d.board.relation item = .ok (.member r) → r.layout? = some layout →
      d.board.references item = .ok (.references refs) → layout.points ≤ refs.length →
      List.Forall₂ (fun ref source => d.source? ref = .ok (some source))
        (refs.take layout.points) sources →
      Stands d position item (.planned ⟨label, layout, item, sources⟩)

section

variable {d : Drawing String α}

lemma exists_sourceOfPoint {p : Point String α} (typed : p.IsTyped) :
    ∃ source?, d.sourceOfPoint p = .ok source? := by
  obtain ⟨x, first⟩ := exists_toReal typed.x
  obtain ⟨y, second⟩ := exists_toReal typed.y
  have registered : ∃ id?, d.registeredId? p = .ok id? := by
    rw [registeredId?]
    cases p.id with
    | none => exact ⟨none, rfl⟩
    | some id => exact ⟨_, rfl⟩
  obtain ⟨id?, registered⟩ := registered
  rw [sourceOfPoint, registered]
  cases id? with
  | some id => exact ⟨_, rfl⟩
  | none =>
    refine ⟨some (.constant x y), ?_⟩
    simp only [first, second]
    rfl

/-- Whatever a constraint refers to is found or is not. -/
lemma exists_source (plannable : d.board.IsPlannable) (ref : Reference α) :
    ∃ source?, d.source? ref = .ok source? := by
  cases ref with
  | value v => exact ⟨_, rfl⟩
  | item object =>
    cases object with
    | constraint place => exact ⟨_, rfl⟩
    | «variable» place => exact ⟨_, rfl⟩
    | point place =>
      rw [source?]
      cases there : d.board.points[place]? with
      | none => exact ⟨_, rfl⟩
      | some p => exact exists_sourceOfPoint (plannable.points p (List.mem_of_getElem? there))

lemma exists_sources (plannable : d.board.IsPlannable) (refs : List (Reference α)) :
    ∃ sources, refs.mapM d.source? = .ok sources := by
  obtain ⟨sources, located, -⟩ :=
    Except.exists_mapM_eq_ok (R := fun _ _ => True) fun ref (_ : ref ∈ refs) => by
      obtain ⟨source, found⟩ := exists_source plannable ref
      exact ⟨source, found, True.intro⟩
  exact ⟨sources, located⟩

omit [Scalar α] in
/-- What a constraint on the board has. -/
lemma ofConstraint_eq_ok {b : Board String α} {place : ℕ} {c : Constraint α} {β : Type}
    (there : b.constraints[place]? = some c) (own : Constraint α → β) (name : String)
    (other : Content α → β) : b.ofConstraint (.constraint place) own name other = .ok (own c) := by
  rw [Board.ofConstraint, there]
  rfl

section

variable {place : ℕ} {c : Constraint α} (there : d.board.constraints[place]? = some c)

include there

lemma exists_label (plannable : c.IsPlannable) (position : ℕ) :
    ∃ label, d.label position (.constraint place) = .ok label := by
  have id : d.board.idValue (.constraint place) = c.id := by
    rw [Board.idValue, there]
    rfl
  obtain ⟨b, truth⟩ := plannable.id
  obtain ⟨r, relation⟩ := plannable.relation
  have stated : d.board.relation (.constraint place) = .ok (.member r) := by
    rw [Board.relation, ofConstraint_eq_ok there, relation]
  rw [label, id, truth]
  cases b with
  | true => exact ⟨c.id, rfl⟩
  | false =>
    refine ⟨.text (r.name ++ "#" ++ toString position), ?_⟩
    simp only [stated]
    rfl

end

lemma map_some_filterMap {β : Type} {xs : List (Option β)} (all : ∀ x ∈ xs, x.isSome) :
    (xs.filterMap id).map some = xs := by
  induction xs with
  | nil => rfl
  | cons x rest ih =>
    obtain ⟨first, others⟩ := List.forall_mem_cons.mp all
    obtain ⟨y, rfl⟩ := Option.isSome_iff_exists.mp first
    exact congrArg (some y :: ·) (ih others)

/-- References that do not make up as many points as are needed are too few, or one of them is not
found. -/
lemma lacking_cases {refs : List (Reference α)} {sources : List (Option (Source α))} {needed : ℕ}
    (located : refs.mapM d.source? = .ok sources) (most : refs.length ≤ needed)
    (lacking : ¬(sources.length = needed ∧ (sources.filterMap id).length = needed)) :
    refs.length < needed ∨ ∃ r ∈ refs, d.source? r = .ok none := by
  have length := (Except.mapM_eq_ok.mp located).length_eq
  by_contra resolved
  rw [not_or, not_lt] at resolved
  obtain ⟨enough, resolved⟩ := resolved
  have all : ∀ s ∈ sources, s.isSome := by
    intro s among
    obtain ⟨r, there, source⟩ := Except.exists_of_mem_mapM located among
    cases s with
    | some s => rfl
    | none => exact absurd ⟨r, there, source⟩ resolved
  have found := List.reduceOption_length_eq_iff.mpr all
  exact lacking ⟨by omega, found.trans (by omega)⟩

/-- A constraint is planned or skipped, depending on what its references stand for. -/
lemma stands_standingOf {position : ℕ} {item : Item} {r : Relation} {layout : Layout}
    {label : Value α} {refs : List (Reference α)} (enabled : d.isEnabled item = true)
    (labelled : d.label position item = .ok label)
    (relation : d.board.relation item = .ok (.member r)) (laidOut : r.layout? = some layout)
    (references : d.board.references item = .ok (.references refs))
    {sources : List (Option (Source α))}
    (located : (refs.take layout.points).mapM d.source? = .ok sources) :
    d.Stands position item (standingOf label layout item sources) := by
  have each := Except.mapM_eq_ok.mp located
  have length := each.length_eq
  rw [List.length_take] at length
  rw [standingOf]
  split
  · next full =>
    obtain ⟨enough, found⟩ := full
    have all := map_some_filterMap (List.reduceOption_length_eq_iff.mp (found.trans enough.symm))
    refine .planned enabled labelled relation laidOut references (by omega) ?_
    rw [← all, List.forall₂_map_right_iff] at each
    exact each
  · next lacking =>
    refine .skipped enabled labelled relation laidOut references ?_
    refine (lacking_cases located (List.length_take_le _ _) lacking).imp_left fun few => ?_
    rw [List.length_take] at few
    omega

/-- A constraint of such a board has a standing. -/
lemma exists_standing (plannable : d.board.IsPlannable) {place : ℕ}
    (inside : place < d.board.constraints.length) (position : ℕ) :
    ∃ s, d.standing position (.constraint place) = .ok s ∧
      d.Stands position (.constraint place) s := by
  have there : d.board.constraints[place]? = some d.board.constraints[place] :=
    List.getElem?_eq_getElem inside
  have own := plannable.constraints _ (List.getElem_mem inside)
  generalize d.board.constraints[place] = c at there own
  obtain ⟨b, flag⟩ := own.enabled
  have enabled : d.board.enabled (.constraint place) = .ok (.flag b) := by
    rw [Board.enabled, ofConstraint_eq_ok there, flag]
  have isEnabled : d.isEnabled (.constraint place) = b := by rw [Drawing.isEnabled, enabled]
  cases b with
  | false =>
    refine ⟨.disabled, ?_, .disabled isEnabled⟩
    rw [standing, enabled]
    rfl
  | true =>
    obtain ⟨label, labelled⟩ := exists_label there own position
    obtain ⟨r, stated⟩ := own.relation
    obtain ⟨refs, named⟩ := own.references
    have relation : d.board.relation (.constraint place) = .ok (.member r) := by
      rw [Board.relation, ofConstraint_eq_ok there, stated]
    have references : d.board.references (.constraint place) = .ok (.references refs) := by
      rw [Board.references, ofConstraint_eq_ok there, named]
    have known : (Choice.member r : Choice Relation α).relation? = .ok (some r) := rfl
    cases laidOut : r.layout? with
    | none =>
      refine ⟨.unsupported label, ?_, .unsupported isEnabled labelled relation laidOut⟩
      simp only [standing, enabled, labelled, relation, known, Option.bind_some, laidOut,
        Value.truth, Bind.bind, Except.bind]
      rfl
    | some layout =>
      obtain ⟨sources, located⟩ := exists_sources plannable (refs.take layout.points)
      have front : (Content.references refs).front layout.points =
          .ok (refs.take layout.points) := rfl
      refine ⟨_, ?_, stands_standingOf isEnabled labelled relation laidOut references located⟩
      simp only [standing, enabled, labelled, relation, known, Option.bind_some, laidOut,
        references, front, located, Value.truth, Bind.bind, Except.bind]
      rfl

/-- Everything that a drawing uses as a constraint is a constraint on its board. -/
def HasConstraints (d : Drawing String α) : Prop :=
  ∀ item ∈ d.constraints, ∃ place < d.board.constraints.length, item = .constraint place

/-- That a plan holds the standing of every constraint in use. -/
def IsPlannedAs (d : Drawing String α) (plan : Plan α) : Prop :=
  List.Forall₂ (fun entry s => d.Stands entry.2 entry.1 s) d.constraints.zipIdx plan

/-- A drawing whose constraints are on a board on which everything can be planned. -/
structure IsPlannable (d : Drawing String α) : Prop where
  board : d.board.IsPlannable
  constraints : d.HasConstraints

/-- A drawing on whose board everything can be planned can be planned. -/
theorem IsPlannable.exists_plan (plannable : d.IsPlannable) :
    ∃ plan, d.plan = .ok plan ∧ d.IsPlannedAs plan := by
  refine Except.exists_mapM_eq_ok fun (item, position) there => ?_
  obtain ⟨place, inside, rfl⟩ := plannable.constraints item (List.fst_mem_of_mem_zipIdx there)
  exact exists_standing plannable.board inside position

/-- A typed drawing can be planned. -/
theorem exists_plan (typed : d.board.IsTyped) (placed : d.HasConstraints) :
    ∃ plan, d.plan = .ok plan ∧ d.IsPlannedAs plan :=
  IsPlannable.exists_plan ⟨typed.isPlannable, placed⟩

/-- A plan has one entry for each constraint that is enabled: it is skipped, or not supported, or
has a row. -/
lemma IsPlannedAs.countP_isEnabled {plan : Plan α} (planned : d.IsPlannedAs plan) :
    d.constraints.countP d.isEnabled =
      plan.diagnostics.skipped.length + plan.diagnostics.unsupported.length + plan.rows.length := by
  have entries : d.constraints.countP d.isEnabled =
      d.constraints.zipIdx.countP fun entry => d.isEnabled entry.1 := by
    conv_lhs => rw [← List.zipIdx_map_fst 0 d.constraints, List.countP_map]
    rfl
  rw [entries]
  unfold IsPlannedAs at planned
  generalize d.constraints.zipIdx = entries at planned
  induction planned with
  | nil => rfl
  | @cons entry s entries plan stands others ih =>
    cases stands with
    | disabled off =>
      rw [List.countP_cons, ih, off]
      rfl
    | unsupported on | skipped on | planned on =>
      rw [List.countP_cons, ih, if_pos on]
      simp only [Plan.diagnostics, Plan.rows, List.filterMap_cons, List.length_cons]
      omega

/-! ### Demands -/

/-- A row that is planned makes a demand. -/
lemma Stands.exists_demand {count : ℕ}
    (slots : ∀ id slot, d.slots.get? id = some slot → slot < count)
    (plannable : d.board.IsPlannable) {place : ℕ} (inside : place < d.board.constraints.length)
    {position : ℕ} {row : Row α} (stands : d.Stands position (.constraint place) (.planned row)) :
    ∃ demand, row.demand d.board count = .ok demand := by
  have there : d.board.constraints[place]? = some d.board.constraints[place] :=
    List.getElem?_eq_getElem inside
  have own := plannable.constraints _ (List.getElem_mem inside)
  generalize d.board.constraints[place] = c at there own
  have target : d.board.target (.constraint place) = .ok c.target := ofConstraint_eq_ok there _ _ _
  obtain ⟨x, goal⟩ := exists_goal own.target
  obtain ⟨anchor, fixed⟩ := exists_anchor own.target
  cases stands with
  | @planned r layout label refs sources enabled labelled relation laidOut references enough
      found =>
    have count_eq : sources.length = layout.points := by
      rw [← found.length_eq, List.length_take, Nat.min_eq_left enough]
    have checked : sources.mapM (Source.check count) = .ok sources := by
      rw [Except.mapM_eq_ok, List.forall₂_same]
      intro s among
      obtain ⟨ref, -, source⟩ := found.exists_of_mem_right among
      exact Source.check_eq_ok (isWithin_of_source? slots source)
    rw [Row.demand, relation, target]
    simp only [checked]
    cases r with
    | fixed =>
      cases laidOut
      obtain ⟨p, rfl⟩ := List.length_eq_one_iff.mp count_eq
      refine ⟨.fixed p anchor, ?_⟩
      simp only [Bind.bind, Except.bind, fixed]
      rfl
    | distance =>
      cases laidOut
      obtain ⟨p, q, rfl⟩ := List.length_eq_two.mp count_eq
      refine ⟨.distance p q x, ?_⟩
      simp only [Bind.bind, Except.bind, goal]
      rfl
    | horizontal | vertical | coincident =>
      cases laidOut
      obtain ⟨p, q, rfl⟩ := List.length_eq_two.mp count_eq
      exact ⟨_, rfl⟩
    | _ => cases laidOut

/-- All rows of such a drawing make their demands. -/
theorem IsPlannable.exists_demands (plannable : d.IsPlannable)
    (slots : ∀ id slot, d.slots.get? id = some slot → slot < d.params.length) {plan : Plan α}
    (planned : d.IsPlannedAs plan) : ∃ demands, d.demands plan = .ok demands := by
  have each : ∀ row ∈ plan.rows, ∃ demand,
      row.demand d.board d.params.length = .ok demand ∧ True := by
    intro row there
    obtain ⟨⟨item, position⟩, used, stands⟩ :=
      planned.exists_of_mem_right (Plan.mem_of_mem_rows there)
    obtain ⟨place, inside, rfl⟩ := plannable.constraints item (List.fst_mem_of_mem_zipIdx used)
    obtain ⟨demand, made⟩ := stands.exists_demand slots plannable.board inside
    exact ⟨demand, made, True.intro⟩
  obtain ⟨demands, made, -⟩ := Except.exists_mapM_eq_ok each
  exact ⟨demands, made⟩

/-- All rows of a typed drawing make their demands. -/
theorem exists_demands (slots : ∀ id slot, d.slots.get? id = some slot → slot < d.params.length)
    (typed : d.board.IsTyped) (placed : d.HasConstraints) {plan : Plan α}
    (planned : d.IsPlannedAs plan) : ∃ demands, d.demands plan = .ok demands :=
  IsPlannable.exists_demands ⟨typed.isPlannable, placed⟩ slots planned

end

end Drawing

/-! ### Solves -/

/-- Settings that options amount to which are the numbers that they are declared to be. -/
structure Settings.IsGivenBy (settings : Settings α) (o : NewtonOptions α) (cap : ℤ) : Prop where
  maxIterations : o.maxIterations = .int cap
  cap : settings.maxIterations = cap.toNat
  tolerance : o.tolerance.IsNumber settings.tolerance
  epsilon : o.epsilon.IsNumber settings.epsilon
  pivotTolerance : o.pivotTolerance.IsNumber settings.pivotTolerance
  damping : ∃ x, o.damping.IsNumber x ∧ settings.damping = .uniform x

lemma Settings.IsGivenBy.isOf {settings : Settings α} {o : NewtonOptions α} {cap : ℤ}
    (given : settings.IsGivenBy o cap) : settings.IsOf o where
  cap := by
    rw [given.maxIterations, given.cap]
    rfl
  bound := given.tolerance.bound_eq_ok
  term := term_eq_ok given.epsilon.countsAs
  pivot := leastPivot_eq_ok given.pivotTolerance.countsAs
  gain := by
    obtain ⟨damping, number, uniform⟩ := given.damping
    exact ⟨damping, uniform, gain_eq_ok number.countsAs⟩

namespace Drawing

variable {d : Drawing String α} {settings : Settings α} {cap : ℤ} {plan : Plan α}
  {demands : List (Demand α)}

/-- A solve that is not idle makes the steps that its options tell. -/
lemma solve_of_isOf (isOf : settings.IsOf d.options) (planned : d.plan = .ok plan)
    (busy : d.isIdle plan = false) (made : d.demands plan = .ok demands) :
    d.solve = d.conclude plan.diagnostics settings.tolerance (.of demands d.params)
      (run settings demands (.of demands d.params)) := by
  obtain ⟨damping, uniform, gain⟩ := isOf.gain
  have settled := Settings.ofOptions_of_uniform isOf.term isOf.pivot gain
    settings.maxIterations settings.tolerance (.of demands d.params)
  by_cases idle : settings.maxIterations = 0 ∨
      (Iterate.of demands d.params).isDone settings.tolerance
  · -- the options that only a step needs are not looked at, but no step is made with them either
    rw [if_pos idle] at settled
    let still : Settings α :=
      ⟨settings.maxIterations, settings.tolerance, 0, 0, .uniform 0⟩
    have steps : d.StepsWith plan still demands :=
      ⟨planned, busy, made, isOf.cap, isOf.bound, settled⟩
    have stays : run still demands (.of demands d.params) = [] := run_eq_nil idle
    rw [steps.solve_eq, stays, run_eq_nil idle]
  · rw [if_neg idle, ← uniform] at settled
    have steps : d.StepsWith plan settings demands :=
      ⟨planned, busy, made, isOf.cap, isOf.bound, settled⟩
    exact steps.solve_eq

/-- With options that are numbers, a solve that is not idle makes the steps that they tell. -/
lemma solve_of_busy (options : settings.IsGivenBy d.options cap) (planned : d.plan = .ok plan)
    (busy : d.isIdle plan = false) (made : d.demands plan = .ok demands) :
    d.solve = d.conclude plan.diagnostics settings.tolerance (.of demands d.params)
      (run settings demands (.of demands d.params)) :=
  solve_of_isOf options.isOf planned busy made

lemma length_params_of_isOf {o : NewtonOptions α} (isOf : settings.IsOf o) (start : Iterate α) :
    (Iteration.last start (run settings demands start)).params.length = start.params.length := by
  obtain ⟨damping, uniform, -⟩ := isOf.gain
  rw [run, Iteration.last_trail, Iterate.length_params_iterate demands uniform]

lemma length_params_last (options : settings.IsGivenBy d.options cap) (start : Iterate α) :
    (Iteration.last start (run settings demands start)).params.length = start.params.length :=
  length_params_of_isOf options.isOf start

lemma solve_of_idle (planned : d.plan = .ok plan) (idle : d.isIdle plan = true)
    (full : d.unknowns.length ≤ d.params.length) :
    d.solve = ⟨d, .ok ⟨true, [], 0, .ofList d.numbered, plan.diagnostics⟩⟩ := by
  rw [solve, planned, given, if_pos idle, trivial, values_of_full full]
  rfl

/-- A solve of a drawing that can be planned comes to a solution, if its options amount to
settings. -/
theorem IsPlannable.exists_solve {d : Drawing String α} (plannable : d.IsPlannable)
    (full : d.params.length = d.unknowns.length)
    (slots : ∀ id slot, d.slots.get? id = some slot → slot < d.params.length)
    (isOf : settings.IsOf d.options) : ∃ solution, d.solve.result = .ok solution := by
  obtain ⟨plan, planned, stands⟩ := plannable.exists_plan
  obtain ⟨demands, made⟩ := plannable.exists_demands slots stands
  cases idle : d.isIdle plan with
  | true =>
    rw [solve_of_idle planned idle full.ge]
    exact ⟨_, rfl⟩
  | false =>
    have last : d.unknowns.length ≤ (Iteration.last (.of demands d.params)
        (run settings demands (.of demands d.params))).params.length := by
      rw [length_params_of_isOf isOf]
      exact full.ge
    rw [solve_of_isOf isOf planned idle made, conclude_of_full _ _ _ _ last]
    exact ⟨_, rfl⟩

end Drawing

end Plane

end Drafting
