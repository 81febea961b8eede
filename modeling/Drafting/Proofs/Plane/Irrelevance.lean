import Drafting.Proofs.Linear.Labels
import Drafting.Proofs.Plane.Soundness

/-!
# Planar constraints that take no part

A constraint that is not enabled, whose relation has no layout in the plane or whose points are not
found has no influence on a solve or an analysis. Deleting such constraints moves the others to
other positions, which shows in the labels of constraints without an id only. So whichever of them
are deleted, a solve comes to the same numbers in the same steps, and an analysis to the same rank
(`Drawing.solve_without`).
-/

namespace Drafting

namespace Plane

variable {ν α : Type} [Name ν]

/-- What a solution tells, but for the labels of constraints that were left out of account: whether
it was a success, the length of the residuals after each step and at the end, and the numbers. -/
def Solution.outcome (s : Solution ν α) : Bool × List α × α × Table ν α :=
  (s.success, s.history, s.residual, s.values)

/-! ### Rows -/

/-- The row of a constraint that is planned. -/
def Standing.row? : Standing α → Option (Row α)
  | planned row => some row
  | _ => none

lemma Plan.rows_eq_filterMap (p : Plan α) : p.rows = p.filterMap Standing.row? := rfl

/-- A row under no label. -/
def Row.unlabelled (row : Row α) : Row α := { row with label := .null }

/-- The drawing with other objects in use as constraints. -/
def Drawing.withConstraints (d : Drawing ν α) (items : List Item) : Drawing ν α :=
  { d with constraints := items }

/-- That an attempt to solve with other constraints in use comes to the same, but for the labels of
constraints that were left out of account. -/
structure Attempt.Matches (items : List Item) (a' a : Attempt ν α (Solution ν α)) : Prop where
  drawing : a'.drawing = a.drawing.withConstraints items
  result : a'.result.map Solution.outcome = a.result.map Solution.outcome

namespace Drawing

/-- The drawing without the constraints at some positions. -/
def without (d : Drawing ν α) (positions : Finset ℕ) : Drawing ν α :=
  d.withConstraints ((d.constraints.zipIdx.filter fun entry => entry.2 ∉ positions).map Prod.fst)

lemma mem_of_mem_without {d : Drawing ν α} {positions : Finset ℕ} {item : Item}
    (there : item ∈ (d.without positions).constraints) : item ∈ d.constraints := by
  obtain ⟨entry, kept, rfl⟩ := List.mem_map.mp there
  exact List.fst_mem_of_mem_zipIdx (List.mem_of_mem_filter kept)

variable [Scalar α] [Named ν α]

/-- That a constraint takes no part in a solve: it is not enabled, or its relation has no layout, or
fewer points than it needs are found. Of one that is enabled it is demanded that its label can be
told. -/
inductive IsIneffective (d : Drawing ν α) (item : Item) : Prop
  | disabled : (d.board.enabled item >>= Value.truth) = .ok false → IsIneffective d item
  | unsupported {label : Value α} {relation? : Option Relation} :
      (d.board.enabled item >>= Value.truth) = .ok true → d.label 0 item = .ok label →
      (d.board.relation item >>= Choice.relation?) = .ok relation? →
      relation?.bind Relation.layout? = none → IsIneffective d item
  | unresolved {label : Value α} {relation? : Option Relation} {layout : Layout}
      {refs : List (Reference α)} {sources : List (Option (Source α))} :
      (d.board.enabled item >>= Value.truth) = .ok true → d.label 0 item = .ok label →
      (d.board.relation item >>= Choice.relation?) = .ok relation? →
      relation?.bind Relation.layout? = some layout →
      (d.board.references item >>= Content.front layout.points) = .ok refs →
      refs.mapM d.source? = .ok sources →
      (sources.length < layout.points ∨ none ∈ sources) → IsIneffective d item

/-- That each constraint in use has a text for an id, or none. -/
def HasTextIds (d : Drawing ν α) : Prop :=
  ∀ item ∈ d.constraints, d.board.idValue item = .null ∨ (d.board.idValue item).IsText

/-- That each constraint in use has an id that is not empty. -/
def HasIds (d : Drawing ν α) : Prop :=
  ∀ item ∈ d.constraints, (d.board.idValue item).truth = .ok true

variable {d : Drawing ν α} {item : Item}

/-- Whether a label can be told does not depend on the position. -/
lemma isOk_label (d : Drawing ν α) (item : Item) (position position' : ℕ) :
    (d.label position item).map (fun _ => ()) = (d.label position' item).map fun _ => () := by
  simp only [label]
  cases (d.board.idValue item).truth with
  | error fault => rfl
  | ok named =>
    cases named with
    | true => rfl
    | false =>
      simp only [Bind.bind, Except.bind, Bool.false_eq_true, if_false]
      cases d.board.relation item with
      | error fault => rfl
      | ok relation =>
        simp only
        cases relation.relationName <;> rfl

/-- The row of a constraint depends on its position by its label only. -/
lemma map_row?_standing {β : Type} {f : Row α → β} {position position' : ℕ}
    (same : ∀ label label', d.label position item = .ok label →
      d.label position' item = .ok label' →
        ∀ layout sources, f ⟨label, layout, item, sources⟩ = f ⟨label', layout, item, sources⟩) :
    (d.standing position item).map (fun s => s.row?.map f) =
      (d.standing position' item).map fun s => s.row?.map f := by
  refine Except.map_bind_congr fun enabled _ => Except.map_bind_congr fun counts _ => ?_
  split
  · refine Except.map_bind_congr_of_map_eq (isOk_label d item _ _) fun label label' told told' => ?_
    have same := same label label' told told'
    refine Except.map_bind_congr fun relation _ => Except.map_bind_congr fun relation? _ => ?_
    split
    · rfl
    · refine Except.map_bind_congr fun content _ => Except.map_bind_congr fun refs _ => ?_
      refine Except.map_bind_congr fun sources _ => ?_
      simp only [standingOf]
      split
      · exact congrArg (fun row => Except.ok (some row)) (same _ _)
      · rfl
  · rfl

omit [Scalar α] in
/-- A constraint whose points are not all found has no row. -/
lemma row?_standingOf (label : Value α) {layout : Layout} (item : Item)
    {sources : List (Option (Source α))}
    (lacking : sources.length < layout.points ∨ none ∈ sources) :
    (standingOf label layout item sources).row? = none := by
  have short : ¬(sources.length = layout.points ∧
      (sources.filterMap id).length = layout.points) := by
    rintro ⟨enough, found⟩
    obtain few | missing := lacking
    · exact few.ne enough
    · have all := List.reduceOption_length_eq_iff.mp (found.trans enough.symm)
      exact Bool.false_ne_true (all none missing)
  rw [standingOf, if_neg short]
  rfl

/-- A constraint that takes no part has no row. -/
lemma IsIneffective.row?_standing {β : Type} (idle : d.IsIneffective item) (position : ℕ)
    (f : Row α → β) : (d.standing position item).map (fun s => s.row?.map f) = .ok none := by
  -- the label at this position can be told, for that at another one can
  have labelled {label : Value α} (told : d.label 0 item = .ok label) :
      ∃ label', d.label position item = .ok label' := by
    obtain ⟨_, told', -⟩ | ⟨-, label', -, told', -⟩ :=
      Except.eq_or_of_map_eq (isOk_label d item 0 position)
    · cases told.symm.trans told'
    · exact ⟨label', told'⟩
  cases idle with
  | disabled off =>
    obtain ⟨v, enabled, truth⟩ := Except.bind_eq_ok.mp off
    simp only [standing, enabled, truth, Bind.bind, Except.bind]
    rfl
  | unsupported on told stated bare =>
    obtain ⟨v, enabled, truth⟩ := Except.bind_eq_ok.mp on
    obtain ⟨label', told⟩ := labelled told
    obtain ⟨relation, stated, known⟩ := Except.bind_eq_ok.mp stated
    simp only [standing, enabled, truth, told, stated, known, bare, Bind.bind, Except.bind]
    rfl
  | unresolved on told stated laidOut referred located lacking =>
    obtain ⟨v, enabled, truth⟩ := Except.bind_eq_ok.mp on
    obtain ⟨label', told⟩ := labelled told
    obtain ⟨relation, stated, known⟩ := Except.bind_eq_ok.mp stated
    obtain ⟨content, referred, first⟩ := Except.bind_eq_ok.mp referred
    simp only [standing, enabled, truth, told, stated, known, laidOut, referred, first, located,
      Bind.bind, Except.bind, if_true]
    exact congrArg (fun row? => Except.ok (row?.map f)) (row?_standingOf label' item lacking)

/-- What is looked at of the rows of a plan comes from each constraint in use by itself. -/
lemma map_rows_plan {β : Type} {f : Row α → β}
    (steady : ∀ item ∈ d.constraints, ∀ position,
      (d.standing position item).map (fun s => s.row?.map f) =
        (d.standing 0 item).map fun s => s.row?.map f) :
    d.plan.map (fun plan => plan.rows.map f) =
      (d.constraints.mapM fun item => (d.standing 0 item).map fun s => s.row?.map f).map
        List.reduceOption := by
  have single (plan : Plan α) : plan.rows.map f =
      (plan.map fun s => s.row?.map f).reduceOption := by
    rw [Plan.rows_eq_filterMap, List.map_filterMap, List.reduceOption, List.filterMap_map]
    rfl
  have entries : d.plan.map (List.map fun s => s.row?.map f) =
      d.constraints.mapM fun item => (d.standing 0 item).map fun s => s.row?.map f := by
    conv_rhs => rw [← List.zipIdx_map_fst 0 d.constraints, List.mapM_map]
    rw [plan, Except.map_mapM]
    exact Except.mapM_congr fun entry there =>
      steady entry.1 (List.fst_mem_of_mem_zipIdx there) entry.2
  rw [← entries]
  cases d.plan with
  | error fault => rfl
  | ok plan => exact congrArg Except.ok (single plan)

section

variable {positions : Finset ℕ}
  (idle : ∀ position ∈ positions, ∀ item, d.constraints[position]? = some item →
    d.IsIneffective item)

include idle

/-- Deleting constraints that take no part leaves the rows of the plan as they are. -/
lemma map_rows_without {β : Type} {f : Row α → β}
    (steady : ∀ item ∈ d.constraints, ∀ position,
      (d.standing position item).map (fun s => s.row?.map f) =
        (d.standing 0 item).map fun s => s.row?.map f) :
    (d.without positions).plan.map (fun plan => plan.rows.map f) =
      d.plan.map fun plan => plan.rows.map f := by
  let work (item : Item) : Except (Fault α) (Option β) :=
    (d.standing 0 item).map fun s => s.row?.map f
  have nothing : ∀ entry ∈ d.constraints.zipIdx, decide (entry.2 ∉ positions) = false →
      work entry.1 = .ok none := by
    intro (item, position) there deleted
    have used := List.mem_zipIdx_iff_getElem?.mp there
    exact (idle position (by simpa using deleted) item used).row?_standing 0 f
  have all : d.constraints.mapM work = d.constraints.zipIdx.mapM fun entry => work entry.1 := by
    conv_lhs => rw [← List.zipIdx_map_fst 0 d.constraints, List.mapM_map]
    rfl
  rw [map_rows_plan steady, map_rows_plan (d := d.without positions)
    fun item there => steady item (mem_of_mem_without there)]
  show ((d.without positions).constraints.mapM work).map _ = (d.constraints.mapM work).map _
  rw [all, ← Except.reduceOption_mapM_filter nothing, without, withConstraints, List.mapM_map]
  rfl

omit idle
end

/-! ### Solves -/

section

variable {items : List Item}

omit [Scalar α] in
lemma commit_withConstraints (params : List α) : (d.withConstraints items).commit params =
    ⟨(d.commit params).drawing.withConstraints items, (d.commit params).result⟩ := by
  simp only [commit, writeBack, withConstraints]
  by_cases short : params.length < d.unknowns.length
  · simp only [short, if_true]
    rfl
  · simp only [short, if_false]
    rfl

lemma conclude_matches (diagnostics' diagnostics : Diagnostics α) (tolerance : α)
    (start : Iterate α) (iterates : List (Iterate α)) :
    Attempt.Matches items ((d.withConstraints items).conclude diagnostics' tolerance start iterates)
      (d.conclude diagnostics tolerance start iterates) := by
  simp only [conclude, commit_withConstraints, Attempt.andThen]
  cases (d.commit (Iteration.last start iterates).params).result with
  | error fault => exact ⟨rfl, rfl⟩
  | ok _ =>
    refine ⟨rfl, ?_⟩
    show ((d.commit _).drawing.values.map _).map _ = ((d.commit _).drawing.values.map _).map _
    cases (d.commit (Iteration.last start iterates).params).drawing.values <;> rfl

lemma solveDemands_matches (diagnostics' diagnostics : Diagnostics α) (demands : List (Demand α)) :
    Attempt.Matches items ((d.withConstraints items).solveDemands diagnostics' demands)
      (d.solveDemands diagnostics demands) := by
  have options : (d.withConstraints items).options = d.options := rfl
  have params : (d.withConstraints items).params = d.params := rfl
  simp only [solveDemands, commit_withConstraints, Attempt.andThen, options, params]
  split
  · exact ⟨rfl, rfl⟩
  · cases (d.commit d.params).result <;> exact ⟨rfl, rfl⟩
  · exact ⟨rfl, rfl⟩
  · next maxIterations tolerance _ _ =>
    cases Settings.ofOptions d.options maxIterations tolerance (.of demands d.params) with
    | error fault => exact ⟨rfl, rfl⟩
    | ok settings => exact conclude_matches _ _ _ _ _

section

variable {plan plan' : Plan α}
  (same : plan'.rows.map Row.unlabelled = plan.rows.map Row.unlabelled)

include same

omit [Named ν α] in
/-- The demand of a row has nothing to do with its label. -/
lemma demands_congr : d.demands plan' = d.demands plan := by
  have unlabelled (p : Plan α) : d.demands p =
      (p.rows.map Row.unlabelled).mapM (Row.demand d.board d.params.length) := by
    rw [List.mapM_map]
    rfl
  rw [unlabelled, unlabelled, same]

omit [Named ν α] [Scalar α] in
lemma isIdle_congr : d.isIdle plan' = d.isIdle plan := by
  have unlabelled (p : Plan α) : p.rows.isEmpty = (p.rows.map Row.unlabelled).isEmpty :=
    List.isEmpty_map.symm
  rw [isIdle, isIdle, unlabelled, unlabelled, same]

end

/-- A solve with other constraints in use comes to the same if their rows are the same. -/
lemma solve_matches
    (same : (d.withConstraints items).plan.map (fun plan => plan.rows.map Row.unlabelled) =
      d.plan.map fun plan => plan.rows.map Row.unlabelled) :
    Attempt.Matches items (d.withConstraints items).solve d.solve := by
  obtain ⟨fault, planned', planned⟩ | ⟨plan', plan, planned', planned, same⟩ :=
    Except.eq_or_of_map_eq same
  · rw [solve, solve, planned, planned']
    exact ⟨rfl, rfl⟩
  · have idle : (d.withConstraints items).isIdle plan' = d.isIdle plan := isIdle_congr same
    have demands : (d.withConstraints items).demands plan' = d.demands plan := demands_congr same
    rw [solve, solve, planned, planned', given, given, idle, demands]
    cases d.isIdle plan with
    | true =>
      refine ⟨rfl, ?_⟩
      show (d.values.map _).map _ = (d.values.map _).map _
      cases d.values <;> rfl
    | false =>
      cases d.demands plan with
      | error fault => exact ⟨rfl, rfl⟩
      | ok demands => exact solveDemands_matches _ _ demands

/-- An analysis depends on which constraints are in use by their rows only. -/
lemma analyze_congr (fit : Linear.Fit α ℕ)
    (same : (d.withConstraints items).plan.map Plan.rows = d.plan.map Plan.rows) :
    (d.withConstraints items).analyze fit = d.analyze fit := by
  obtain ⟨fault, planned', planned⟩ | ⟨plan', plan, planned', planned, same⟩ :=
    Except.eq_or_of_map_eq same
  · rw [analyze, analyze, planned, planned']
    rfl
  · have unlabelled := congrArg (List.map Row.unlabelled) same
    have idle : (d.withConstraints items).isIdle plan' = d.isIdle plan := isIdle_congr unlabelled
    have demands : (d.withConstraints items).demands plan' = d.demands plan :=
      demands_congr unlabelled
    have labels : plan'.labels = plan.labels := by rw [Plan.labels, same, Plan.labels]
    rw [analyze, analyze, planned, planned']
    simp only [Bind.bind, Except.bind, idle, demands, labels]
    rfl

end

/-! ### Labels -/

section

variable {position : ℕ} {label : Value α}

/-- Where ids are texts, so are labels. -/
lemma isText_label (plain : d.board.idValue item = .null ∨ (d.board.idValue item).IsText)
    (told : d.label position item = .ok label) : label.IsText := by
  obtain ⟨named, truth, told⟩ := Except.bind_eq_ok.mp told
  cases named with
  | true =>
    cases told
    obtain null | text := plain
    · rw [null] at truth
      cases truth
    · exact text
  | false =>
    obtain ⟨relation, -, told⟩ := Except.bind_eq_ok.mp told
    obtain ⟨name, -, told⟩ := Except.bind_eq_ok.mp told
    cases told
    exact ⟨_, rfl⟩

/-- A row has the label of the constraint that it comes from. -/
lemma label_of_standing {row : Row α} (ok : d.standing position item = .ok (.planned row)) :
    d.label position item = .ok row.label := by
  obtain ⟨enabled, -, ok⟩ := Except.bind_eq_ok.mp ok
  obtain ⟨truth, -, ok⟩ := Except.bind_eq_ok.mp ok
  split at ok
  · obtain ⟨label, told, ok⟩ := Except.bind_eq_ok.mp ok
    obtain ⟨relation, -, ok⟩ := Except.bind_eq_ok.mp ok
    obtain ⟨relation?, -, ok⟩ := Except.bind_eq_ok.mp ok
    split at ok
    · cases ok
    · obtain ⟨content, -, ok⟩ := Except.bind_eq_ok.mp ok
      obtain ⟨refs, -, ok⟩ := Except.bind_eq_ok.mp ok
      obtain ⟨sources, -, ok⟩ := Except.bind_eq_ok.mp ok
      have planned := Except.ok.inj ok
      rw [standingOf] at planned
      split at planned
      · cases planned
        exact told
      · cases planned
  · cases ok

lemma isText_labels {plan : Plan α} (planned : d.plan = .ok plan) (plain : d.HasTextIds) :
    ∀ label ∈ plan.labels, label.IsText := by
  intro label there
  obtain ⟨row, among, repeated⟩ := List.mem_flatMap.mp there
  obtain rfl := List.eq_of_mem_replicate repeated
  obtain ⟨⟨item, position⟩, used, stands⟩ :=
    Except.exists_of_mem_mapM planned (Plan.mem_of_mem_rows among)
  exact isText_label (plain item (List.fst_mem_of_mem_zipIdx used)) (label_of_standing stands)

end

/-- Where ids are texts, an analysis with other constraints in use tells the same but for labels, if
their rows are the same but for labels. -/
lemma extent_analyze_congr (fit : Linear.Fit α ℕ) {items : List Item}
    (among : ∀ item ∈ items, item ∈ d.constraints) (plain : d.HasTextIds)
    (same : (d.withConstraints items).plan.map (fun plan => plan.rows.map Row.unlabelled) =
      d.plan.map fun plan => plan.rows.map Row.unlabelled) :
    ((d.withConstraints items).analyze fit).map Linear.Analysis.extent =
      (d.analyze fit).map Linear.Analysis.extent := by
  obtain ⟨fault, planned', planned⟩ | ⟨plan', plan, planned', planned, same⟩ :=
    Except.eq_or_of_map_eq same
  · rw [analyze, analyze, planned, planned']
    rfl
  · have idle : (d.withConstraints items).isIdle plan' = d.isIdle plan := isIdle_congr same
    have demands : (d.withConstraints items).demands plan' = d.demands plan := demands_congr same
    have texts' := isText_labels planned' fun item there => plain item (among item there)
    have texts := isText_labels planned plain
    rw [analyze, analyze, planned, planned']
    show Except.map _ (if (d.withConstraints items).isIdle plan' then _ else _) =
      Except.map _ (if d.isIdle plan then _ else _)
    rw [idle, demands]
    split
    · rfl
    · refine Except.map_bind_congr fun demands _ => Except.map_bind_congr fun epsilon _ => ?_
      rw [Linear.extent_analyzeRows texts', Linear.extent_analyzeRows texts]
      rfl

/-! ### Deletion -/

variable {positions : Finset ℕ}

/-- Whichever constraints are deleted of those that take no part, be it that they are not enabled,
that their relation has no layout or that their points are not found: a solve comes to the same
success, steps, residual and numbers and leaves the drawing as it would have, and an analysis to the
same numbers of rows and columns, rank and freedom. If every constraint has an id, the redundant
ones are the same, too. -/
theorem solve_without
    (idle : ∀ position ∈ positions, ∀ item, d.constraints[position]? = some item →
      d.IsIneffective item) :
    (d.without positions).solve.result.map Solution.outcome =
        d.solve.result.map Solution.outcome ∧
      (d.without positions).solve.drawing =
        d.solve.drawing.withConstraints (d.without positions).constraints ∧
      (d.HasTextIds → ∀ fit,
        ((d.without positions).analyze fit).map Linear.Analysis.extent =
          (d.analyze fit).map Linear.Analysis.extent) ∧
      (d.HasIds → ∀ fit,
        (d.without positions).analyze fit = d.analyze fit) := by
  have unlabelled := map_rows_without idle (f := Row.unlabelled) fun item _ position =>
    map_row?_standing fun _ _ _ _ _ _ => rfl
  have solves : Attempt.Matches (d.without positions).constraints (d.without positions).solve
      d.solve := solve_matches unlabelled
  refine ⟨solves.result, solves.drawing, fun plain fit => ?_, fun named fit => ?_⟩
  · exact extent_analyze_congr fit (fun item there => mem_of_mem_without there) plain unlabelled
  · have own {item : Item} (used : item ∈ d.constraints) (position : ℕ) :
        d.label position item = .ok (d.board.idValue item) := by
      simp only [label, named item used, Bind.bind, Except.bind]
      rfl
    have rows := map_rows_without idle (f := id) fun item used position =>
      map_row?_standing fun label label' told told' layout sources => by
        rw [own used] at told told'
        cases told
        cases told'
        rfl
    simp only [List.map_id_fun, id_eq] at rows
    exact analyze_congr fit rows

/-- A drawing with a constraint of each standing, every one under an id. -/
noncomputable def labelled : Drawing String ℝ where
  __ := assorted 7 0.5
  board := ((assorted 7 0.5).board.put (.constraint 2) "id" (.value (.text "touch"))).put
    (.constraint 3) "id" (.value (.text "far"))

theorem labelled_solve_without :
    (∀ position ∈ ({1, 2, 3} : Finset ℕ), ∀ item, labelled.constraints[position]? = some item →
        labelled.IsIneffective item) ∧
      labelled.HasTextIds ∧ labelled.HasIds ∧
      (labelled.without {1, 2, 3}).solve.result.map Solution.outcome =
        labelled.solve.result.map Solution.outcome ∧
      ∀ fit,
        ((labelled.without {1, 2, 3}).analyze fit).map Linear.Analysis.extent =
          (labelled.analyze fit).map Linear.Analysis.extent ∧
        (labelled.without {1, 2, 3}).analyze fit = labelled.analyze fit := by
  have located : [.item (.point 0), .value (.text "q")].mapM labelled.source? =
      .ok [some (.slots 0 1), none] := rfl
  have unresolved : labelled.IsIneffective (.constraint 1) :=
    .unresolved rfl rfl rfl rfl rfl located (.inr (List.mem_of_mem_tail List.mem_cons_self))
  have unsupported : labelled.IsIneffective (.constraint 2) := .unsupported rfl rfl rfl rfl
  have disabled : labelled.IsIneffective (.constraint 3) := .disabled rfl
  have idle : ∀ position ∈ ({1, 2, 3} : Finset ℕ), ∀ item,
      labelled.constraints[position]? = some item → labelled.IsIneffective item := by
    intro position there item used
    obtain rfl | rfl | rfl := by simpa using there
    · cases used
      exact unresolved
    · cases used
      exact unsupported
    · cases used
      exact disabled
  have plain : labelled.HasTextIds :=
    List.forall_mem_cons.mpr ⟨.inr ⟨_, rfl⟩, List.forall_mem_cons.mpr ⟨.inr ⟨_, rfl⟩,
      List.forall_mem_cons.mpr ⟨.inr ⟨_, rfl⟩, List.forall_mem_singleton.mpr (.inr ⟨_, rfl⟩)⟩⟩⟩
  have named : labelled.HasIds :=
    List.forall_mem_cons.mpr ⟨rfl, List.forall_mem_cons.mpr ⟨rfl, List.forall_mem_cons.mpr ⟨rfl,
      List.forall_mem_singleton.mpr rfl⟩⟩⟩
  obtain ⟨result, -, extent, analysis⟩ := solve_without idle
  exact ⟨idle, plain, named, result, fun fit => ⟨extent plain fit, analysis named fit⟩⟩

end Drawing

end Plane

end Drafting
