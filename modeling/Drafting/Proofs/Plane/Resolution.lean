import Drafting.Proofs.Plane.Index
import Drafting.Proofs.Plane.Typing

/-!
# What references stand for

A reference is resolved by two tables: that of the points that have been registered, and that of the
ids that have a slot. An enrolment is a history without failures that also tells under which ids
points have been registered since the drawing was last cleared. In every enrolment, a point or the
id of a point is found in the slots of its coordinates if it has been registered, and a point that
has not is constant (`Drawing.Finds`). The one exception is a text under which no point has been
registered: it is found as well if unknowns have been registered under the ids that the coordinates
of such a point would have (`not_forall_isRegistered`). An enabled constraint with a layout has a
row if all of its points are known in one of these ways, and is skipped otherwise
(`Enrolment.resolves`).
-/

namespace Drafting.Plane

variable {α : Type} [Scalar α]

/-! ### Enrolments -/

/-- The ids under which points have been registered since a drawing was last cleared. -/
def Operation.roll (b : Board String α) (before : List String) : Operation α → List String
  | addPoint place | addObject (.item (.point place)) => before ++ [b.idOf (.point place)]
  | addVariable _ | addObject _ | addConstraint _ | setInitial _ | analyze _ | solve => before
  | clear => []

/-- The drawings that histories without failures lead to, with the ids that have been registered
since they were last cleared, and those of them under which points have been registered. -/
inductive Enrolment : Drawing String α → List String → List String → Prop
  | start (options : NewtonOptions α) (board : Board String α) :
      Enrolment (.empty options board) [] []
  | outside {d : Drawing String α} {log roll : List String} {board : Board String α} :
      Enrolment d log roll → d.Keeps board → Enrolment { d with board } log roll
  | operate {d : Drawing String α} {log roll : List String} (op : Operation α) :
      Enrolment d log roll → op.IsOn d.board → op.Succeeds d →
        Enrolment (op.perform d) (op.log d.board log) (op.roll d.board roll)

namespace Drawing

variable {d : Drawing String α} {id : String}

lemma contains_addVariable (item : Item) :
    (d.addVariable item).drawing.points.contains id = d.points.contains id :=
  congrArg Option.isSome ((d.changesOnly_addVariable item).points id List.not_mem_nil)

lemma point_addCoordinate (d : Drawing String α) (own : String) (item : Item) (axis : Kind) :
    (d.addCoordinate own item axis).drawing.points.get? id = d.points.get? id :=
  (d.changesOnly_addCoordinate own item axis).points id List.not_mem_nil

/-- Using a point registers it under its id. -/
lemma contains_addPoint {item : Item} (ok : (d.addPoint item).result = .ok ()) :
    (d.addPoint item).drawing.points.contains id = true ↔
      d.points.contains id = true ∨ id = d.board.idOf item := by
  by_cases own : id = d.board.idOf item
  · refine iff_of_true ?_ (.inr own)
    obtain ⟨name, usable, step⟩ := given_of_ok ok
    obtain rfl := usableId_of_ok usable
    rw [addPoint, step] at ok ⊢
    obtain ⟨⟨⟩, -, step⟩ := Attempt.andThen_of_ok ok
    rw [step, Table.contains, point_addCoordinate, point_addCoordinate, own, registerPoint,
      Table.get?_insert_self]
    rfl
  · have same := (d.changesOnly_addPoint item).points id (mt List.mem_singleton.mp own)
    rw [Table.contains, same, or_iff_left own]
    rfl

/-- An operation that does not fail registers points under the ids that it puts on the roll. -/
lemma contains_perform {roll : List String} (op : Operation α) (succeeds : op.Succeeds d)
    (listed : d.points.contains id = true ↔ id ∈ roll) :
    (op.perform d).points.contains id = true ↔ id ∈ op.roll d.board roll := by
  have unknown (place : ℕ) :
      (d.addVariable (.variable place)).drawing.points.contains id = true ↔ id ∈ roll := by
    rw [contains_addVariable, listed]
  have point (place : ℕ) (ok : (d.addPoint (.point place)).result = .ok ()) :
      (d.addPoint (.point place)).drawing.points.contains id = true ↔
        id ∈ roll ++ [d.board.idOf (.point place)] := by
    rw [contains_addPoint ok, listed, List.mem_append, List.mem_singleton]
  have kept (d' : Drawing String α) (same : d'.points = d.points) :
      d'.points.contains id = true ↔ id ∈ roll := by
    rw [same, listed]
  cases op with
  | addVariable place => exact unknown place
  | addPoint place => exact point place succeeds
  | addObject r =>
    cases r with
    | value v => cases succeeds
    | item object =>
      cases object with
      | «variable» place => exact unknown place
      | point place => exact point place succeeds
      | constraint place => cases succeeds
  | addConstraint place => exact listed
  | setInitial values => exact kept _ (d.points_setInitial values)
  | analyze _ => exact listed
  | solve => exact kept _ d.points_solve
  | clear => exact iff_of_false Bool.false_ne_true List.not_mem_nil

end Drawing

namespace Enrolment

variable {d : Drawing String α} {log roll : List String}

lemma history (enrolment : Enrolment d log roll) :
    History (fun d op => op.Succeeds d) d log := by
  induction enrolment with
  | start options board => exact .start options board
  | outside _ keeps ih => exact .outside ih keeps
  | operate op _ on succeeds ih => exact .operate op ih on succeeds

/-- The points of a drawing are those on the roll. -/
theorem contains_iff (enrolment : Enrolment d log roll) (id : String) :
    d.points.contains id = true ↔ id ∈ roll := by
  induction enrolment with
  | start options board => exact iff_of_false Bool.false_ne_true List.not_mem_nil
  | outside _ _ ih => exact ih
  | operate op _ _ succeeds ih => exact Drawing.contains_perform op succeeds ih

end Enrolment

/-! ### References -/

namespace Drawing

/-- Where a reference leads, if the ids of a log have been registered, and points under those of a
roll. -/
inductive Finds (d : Drawing String α) (log roll : List String) : Reference α → Source α → Prop
  /-- A registered point, or its id, stands for the numbers in the slots of its coordinates. -/
  | registered {r : Reference α} {id : String} {x y : ℕ} : d.board.nameOf? r = some id →
      id ∈ roll → d.slots.get? (coordinateId id .x) = some x →
      d.slots.get? (coordinateId id .y) = some y → Finds d log roll r (.slots x y)
  /-- A point that is not registered is constant. -/
  | constant {place : ℕ} {p : Point String α} {x y : α} : d.board.points[place]? = some p →
      (∀ id, p.id = some id → id ∉ roll) → p.x.toReal = .ok x → p.y.toReal = .ok y →
      Finds d log roll (.item (.point place)) (.constant x y)
  /-- A text that is the id of no registered point stands for two unknowns that have the ids of its
  coordinates. -/
  | unknowns {v : Value α} {id : String} {x y : ℕ} : Name.text? v = some id → id ∉ roll →
      (∀ axis ∈ axes, coordinateId id axis ∈ log) →
      d.slots.get? (coordinateId id .x) = some x → d.slots.get? (coordinateId id .y) = some y →
      Finds d log roll (.value v) (.slots x y)

/-- Whether a reference is known: it is a point of the board, or a text under which a point has been
registered, or unknowns under the ids of both coordinates. -/
def Knows (d : Drawing String α) (log roll : List String) : Reference α → Prop
  | .item (.point place) => place < d.board.points.length
  | .item _ => False
  | .value v => ∃ id, Name.text? v = some id ∧
      (id ∈ roll ∨ ∀ axis ∈ axes, coordinateId id axis ∈ log)

section

variable {d : Drawing String α} {log roll : List String} {id : String} {r : Reference α}

omit [Scalar α] in
lemma slotsOf?_cases (d : Drawing String α) (id : String) :
    (∃ x y, d.slots.get? (coordinateId id .x) = some x ∧
      d.slots.get? (coordinateId id .y) = some y ∧ d.slotsOf? id = some (.slots x y)) ∨
    ((∃ axis ∈ axes, d.slots.get? (coordinateId id axis) = none) ∧ d.slotsOf? id = none) := by
  cases foundX : d.slots.get? (coordinateId id .x) with
  | none =>
    refine .inr ⟨⟨.x, x_mem_axes, foundX⟩, ?_⟩
    rw [slotsOf?, foundX]
    rfl
  | some x =>
    cases foundY : d.slots.get? (coordinateId id .y) with
    | none =>
      refine .inr ⟨⟨.y, y_mem_axes, foundY⟩, ?_⟩
      rw [slotsOf?, foundX, foundY]
      rfl
    | some y =>
      refine .inl ⟨x, y, rfl, rfl, ?_⟩
      rw [slotsOf?, foundX, foundY]
      rfl

omit [Scalar α] in
/-- The id under which a point is registered is its own. -/
lemma registeredId?_eq (d : Drawing String α) (p : Point String α) :
    d.registeredId? p = .ok (p.id.filter d.points.contains) := by
  rw [registeredId?]
  cases p.id with
  | none => rfl
  | some id =>
    rw [Option.filter_some]
    rfl

variable (aligned : d.IsAligned log) (enrolled : ∀ id, d.points.contains id = true ↔ id ∈ roll)

include aligned enrolled

/-- What names a registered point is found in its slots. -/
lemma exists_finds_of_mem (named : d.board.nameOf? r = some id) (listed : id ∈ roll) :
    ∃ s, d.slotsOf? id = some s ∧ d.Finds log roll r s := by
  have slots := aligned.points id ((enrolled id).mpr listed)
  obtain ⟨x, y, foundX, foundY, found⟩ | ⟨⟨axis, among, none⟩, -⟩ := d.slotsOf?_cases id
  · exact ⟨_, found, .registered named listed foundX foundY⟩
  · obtain ⟨slot, found⟩ := slots axis among
    rw [none] at found
    cases found

lemma source?_value_cases (v : Value α) :
    (∃ s, d.source? (.value v) = .ok (some s) ∧ d.Finds log roll (.value v) s ∧
      d.Knows log roll (.value v)) ∨
    (d.source? (.value v) = .ok none ∧ ¬d.Knows log roll (.value v)) := by
  cases text : Name.text? v with
  | none =>
    refine .inr ⟨by rw [source?, text, Option.bind_none], ?_⟩
    rintro ⟨id, named, -⟩
    rw [text] at named
    cases named
  | some id =>
    have source : d.source? (.value v) = .ok (d.slotsOf? id) := by
      rw [source?, text]
      rfl
    rw [source]
    by_cases listed : id ∈ roll
    · obtain ⟨s, found, finds⟩ := exists_finds_of_mem aligned enrolled (r := .value v) text listed
      exact .inl ⟨s, congrArg Except.ok found, finds, id, text, .inl listed⟩
    · obtain ⟨x, y, foundX, foundY, found⟩ | ⟨⟨axis, among, none⟩, lost⟩ := d.slotsOf?_cases id
      · have both : ∀ axis ∈ axes, coordinateId id axis ∈ log := by
          intro axis among
          rw [aligned.registered]
          obtain rfl | rfl := eq_or_eq_of_mem_axes among
          · exact ⟨x, foundX⟩
          · exact ⟨y, foundY⟩
        exact .inl ⟨_, congrArg Except.ok found, .unknowns text listed both foundX foundY, id, text,
          .inr both⟩
      · refine .inr ⟨congrArg Except.ok lost, ?_⟩
        rintro ⟨id', named, known⟩
        obtain rfl := Option.some.inj (text.symm.trans named)
        obtain ⟨slot, found⟩ := (aligned.registered _).mp (known.resolve_left listed axis among)
        rw [none] at found
        cases found

/-- A point on the board is found in its slots, or is constant. -/
lemma exists_finds_of_point {place : ℕ} {p : Point String α}
    (there : d.board.points[place]? = some p) {source? : Option (Source α)}
    (ok : d.sourceOfPoint p = .ok source?) :
    ∃ s, source? = some s ∧ d.Finds log roll (.item (.point place)) s := by
  rw [sourceOfPoint, registeredId?_eq] at ok
  cases registered : p.id.filter d.points.contains with
  | some id =>
    obtain ⟨own, used⟩ := Option.filter_eq_some_iff.mp registered
    have named : d.board.nameOf? (.item (.point place)) = some id := by
      rw [Board.nameOf?, there]
      exact own
    obtain ⟨s, found, finds⟩ := exists_finds_of_mem aligned enrolled named ((enrolled id).mp used)
    rw [registered] at ok
    exact ⟨s, (Except.ok.inj ok).symm.trans found, finds⟩
  | none =>
    have fresh (id : String) (own : p.id = some id) : id ∉ roll := by
      intro listed
      rw [own, Option.filter_some, if_pos ((enrolled id).mpr listed)] at registered
      cases registered
    rw [registered] at ok
    obtain ⟨x, numberX, ok⟩ := Except.bind_eq_ok.mp (show (p.x.toReal >>= _) = _ from ok)
    obtain ⟨y, numberY, ok⟩ := Except.bind_eq_ok.mp ok
    exact ⟨_, (Except.ok.inj ok).symm, .constant there fresh numberX numberY⟩

/-- What a reference stands for is where it leads, or it is not known. -/
lemma source?_cases {source? : Option (Source α)} (ok : d.source? r = .ok source?) :
    (∃ s, source? = some s ∧ d.Finds log roll r s ∧ d.Knows log roll r) ∨
      (source? = none ∧ ¬d.Knows log roll r) := by
  cases r with
  | value v =>
    obtain ⟨s, found, finds⟩ | ⟨lost, unknown⟩ := source?_value_cases aligned enrolled v
    · exact .inl ⟨s, Except.ok.inj (ok.symm.trans found), finds⟩
    · exact .inr ⟨Except.ok.inj (ok.symm.trans lost), unknown⟩
  | item object =>
    cases object with
    | constraint place => exact .inr ⟨(Except.ok.inj ok).symm, id⟩
    | «variable» place => exact .inr ⟨(Except.ok.inj ok).symm, id⟩
    | point place =>
      rw [Drawing.source?] at ok
      cases there : d.board.points[place]? with
      | none =>
        rw [there] at ok
        exact .inr ⟨(Except.ok.inj ok).symm, (List.getElem?_eq_none_iff.mp there).not_gt⟩
      | some p =>
        rw [there] at ok
        obtain ⟨s, found, finds⟩ := exists_finds_of_point aligned enrolled there ok
        exact .inl ⟨s, found, finds, (List.getElem?_eq_some_iff.mp there).1⟩

end

end Drawing

/-! ### Plans -/

namespace Plan

variable {plan : Plan α} {position : ℕ}

omit [Scalar α] in
lemma mem_rows {row : Row α} (there : plan[position]? = some (.planned row)) : row ∈ plan.rows :=
  List.mem_filterMap.mpr ⟨_, List.mem_of_getElem? there, rfl⟩

omit [Scalar α] in
lemma mem_skipped {label : Value α} {needed : ℕ}
    (there : plan[position]? = some (.skipped label needed)) : label ∈ plan.diagnostics.skipped :=
  List.mem_filterMap.mpr ⟨_, List.mem_of_getElem? there, rfl⟩

end Plan

namespace Drawing

/-- That an enabled constraint with a layout is in use at a position, with these references for its
points. -/
structure Asks (d : Drawing String α) (position : ℕ) (item : Item) (layout : Layout)
    (refs : List (Reference α)) : Prop where
  used : d.constraints[position]? = some item
  enabled : (d.board.enabled item >>= Value.truth) = .ok true
  laidOut : ∃ relation, (d.board.relation item >>= Choice.relation?) = .ok (some relation) ∧
    relation.layout? = some layout
  references : (d.board.references item >>= Content.front layout.points) = .ok refs

/-- How a plan takes such a constraint: it has a row with its points if there are enough of them and
all are known, and is skipped otherwise. -/
structure Settles (d : Drawing String α) (log roll : List String) (plan : Plan α) (position : ℕ)
    (item : Item) (layout : Layout) (refs : List (Reference α)) (label : Value α) : Prop where
  planned : refs.length = layout.points → (∀ r ∈ refs, d.Knows log roll r) →
    ∃ sources, List.Forall₂ (d.Finds log roll) refs sources ∧
      plan[position]? = some (.planned ⟨label, layout, item, sources⟩) ∧
      ⟨label, layout, item, sources⟩ ∈ plan.rows
  skipped : ¬(refs.length = layout.points ∧ ∀ r ∈ refs, d.Knows log roll r) →
    plan[position]? = some (.skipped label layout.points) ∧ label ∈ plan.diagnostics.skipped

section

variable {d : Drawing String α} {position : ℕ} {item : Item} {layout : Layout}
  {refs : List (Reference α)} {plan : Plan α} {log roll : List String}

/-- What a plan makes of such a constraint, as its references are found. -/
lemma Asks.exists_standing (asks : d.Asks position item layout refs) (planned : d.plan = .ok plan) :
    ∃ label sources, d.label position item = .ok label ∧
      List.Forall₂ (fun r s => d.source? r = .ok s) refs sources ∧
      plan[position]? = some (standingOf label layout item sources) := by
  have each := Except.mapM_eq_ok.mp planned
  have used : d.constraints.zipIdx[position]? = some (item, position) := by
    rw [List.getElem?_zipIdx, asks.used, Option.map_some, Nat.zero_add]
  obtain ⟨inside, same⟩ := List.getElem?_eq_some_iff.mp used
  have inside' : position < plan.length := each.length_eq ▸ inside
  have standing := each.get inside inside'
  rw [List.get_eq_getElem, same] at standing
  obtain ⟨enabled, on, truth⟩ := Except.bind_eq_ok.mp asks.enabled
  obtain ⟨relation, ⟨choice, stated, known⟩, laidOut⟩ :=
    asks.laidOut.imp fun _ both => both.imp_left Except.bind_eq_ok.mp
  obtain ⟨content, referred, first⟩ := Except.bind_eq_ok.mp asks.references
  simp only [Drawing.standing, on, Bind.bind, Except.bind, truth, if_true] at standing
  obtain ⟨label, labelled, standing⟩ := Except.bind_eq_ok.mp standing
  simp only [stated, known, Option.bind_some, laidOut, referred, first] at standing
  obtain ⟨sources, located, standing⟩ :=
    Except.bind_eq_ok.mp (show (refs.mapM d.source? >>= _) = _ from standing)
  refine ⟨label, sources, labelled, Except.mapM_eq_ok.mp located, ?_⟩
  rw [List.getElem?_eq_getElem inside']
  exact congrArg some (Except.ok.inj standing).symm

section

variable (aligned : d.IsAligned log) (enrolled : ∀ id, d.points.contains id = true ↔ id ∈ roll)

include aligned enrolled

/-- References that are known are found where they lead. -/
lemma exists_found {sources : List (Option (Source α))}
    (located : List.Forall₂ (fun r s => d.source? r = .ok s) refs sources)
    (known : ∀ r ∈ refs, d.Knows log roll r) :
    ∃ found, sources = found.map some ∧ List.Forall₂ (d.Finds log roll) refs found := by
  induction located with
  | nil => exact ⟨[], rfl, .nil⟩
  | cons source _ ih =>
    obtain ⟨first, others⟩ := List.forall_mem_cons.mp known
    obtain ⟨found, rfl, each⟩ := ih others
    obtain ⟨s, rfl, finds, -⟩ | ⟨-, unknown⟩ := source?_cases aligned enrolled source
    · exact ⟨s :: found, rfl, .cons finds each⟩
    · exact absurd first unknown

/-- References of which all are found are known. -/
lemma knows_of_length_filterMap {sources : List (Option (Source α))}
    (located : List.Forall₂ (fun r s => d.source? r = .ok s) refs sources)
    (full : (sources.filterMap id).length = sources.length) : ∀ r ∈ refs, d.Knows log roll r := by
  have all := List.reduceOption_length_eq_iff.mp full
  intro r there
  obtain ⟨source?, among, source⟩ := located.flip.exists_of_mem_right there
  obtain ⟨s, rfl⟩ := Option.isSome_iff_exists.mp (all source? among)
  obtain ⟨-, -, -, known⟩ | ⟨none, -⟩ := source?_cases aligned enrolled source
  · exact known
  · cases none

lemma Asks.settles (asks : d.Asks position item layout refs) (planned : d.plan = .ok plan) :
    ∃ label, d.label position item = .ok label ∧
      d.Settles log roll plan position item layout refs label := by
  obtain ⟨label, sources, labelled, located, there⟩ := asks.exists_standing planned
  have length := located.length_eq
  refine ⟨label, labelled, ?planned, ?skipped⟩
  case planned =>
    intro enough known
    obtain ⟨found, rfl, finds⟩ := exists_found aligned enrolled located known
    have all : (found.map some).filterMap id = found := by
      rw [List.filterMap_map]
      exact List.filterMap_some
    have full : (found.map some).length = layout.points ∧ found.length = layout.points := by
      rw [List.length_map] at length ⊢
      exact ⟨length.symm.trans enough, length.symm.trans enough⟩
    have stands : standingOf label layout item (found.map some) =
        .planned ⟨label, layout, item, found⟩ := by
      simp only [standingOf, all, if_pos full]
    rw [stands] at there
    exact ⟨found, finds, there, Plan.mem_rows there⟩
  case skipped =>
    intro lacking
    have few : ¬(sources.length = layout.points ∧
        (sources.filterMap id).length = layout.points) := by
      rintro ⟨enough, full⟩
      exact lacking ⟨length.trans enough,
        knows_of_length_filterMap aligned enrolled located (full.trans enough.symm)⟩
    have stands : standingOf label layout item sources = .skipped label layout.points :=
      if_neg few
    rw [stands] at there
    exact ⟨there, Plan.mem_skipped there⟩

end

/-- A solution tells what its plan leaves out. -/
lemma exists_plan_of_solve {solution : Solution String α} (ok : d.solve.result = .ok solution) :
    ∃ plan, d.plan = .ok plan ∧ solution.diagnostics = plan.diagnostics := by
  obtain ⟨plan, planned, step⟩ := given_of_ok ok
  refine ⟨plan, planned, ?_⟩
  rw [Drawing.solve, step] at ok
  split at ok
  · obtain ⟨values, -, rfl⟩ := Except.map_eq_ok.mp ok
    rfl
  · obtain ⟨demands, -, step⟩ := given_of_ok ok
    rw [step, solveDemands] at ok
    split at ok
    · cases ok
    · obtain ⟨⟨⟩, -, step⟩ := Attempt.andThen_of_ok ok
      rw [step] at ok
      cases ok
    · cases ok
    · obtain ⟨settings, -, step⟩ := given_of_ok ok
      rw [step, conclude] at ok
      obtain ⟨⟨⟩, -, step⟩ := Attempt.andThen_of_ok ok
      rw [step] at ok
      obtain ⟨values, -, rfl⟩ := Except.map_eq_ok.mp ok
      rfl

end

end Drawing

/-- In every enrolment, a constraint that is enabled and laid out has a row with its points if they
are known, and is skipped otherwise. -/
theorem Enrolment.resolves {d : Drawing String α} {log roll : List String}
    (enrolment : Enrolment d log roll) :
    (d.IsPlannable → ∃ plan, d.plan = .ok plan) ∧
    (∀ solution, d.solve.result = .ok solution →
      ∃ plan, d.plan = .ok plan ∧ solution.diagnostics = plan.diagnostics) ∧
    ∀ plan, d.plan = .ok plan → ∀ position item layout refs, d.Asks position item layout refs →
      ∃ label, d.label position item = .ok label ∧
        d.Settles log roll plan position item layout refs label := by
  refine ⟨fun plannable => ?_, fun solution ok => Drawing.exists_plan_of_solve ok, ?_⟩
  · obtain ⟨plan, planned, -⟩ := plannable.exists_plan
    exact ⟨plan, planned⟩
  · intro plan planned position item layout refs asks
    exact asks.settles enrolment.history.isAligned enrolment.contains_iff planned

/-! ### Unknowns in the place of a point -/

/-- A board with two unknowns that have the ids of coordinates, and a point and its id that
constraints refer to. -/
noncomputable def spelt : Board String ℝ where
  points := [⟨.real 0, .real 0, some "q", .flag false, []⟩]
  unknowns := [⟨"p.x", .real 1, .member .parameter, []⟩, ⟨"p.y", .real 1, .member .parameter, []⟩]
  constraints := [⟨.member .coincident, .references [.value (.text "p"), .item (.point 0)], .null,
    .text "meet", .flag true, []⟩, ⟨.member .fixed, .references [.value (.text "q")], .null,
    .text "pin", .flag true, []⟩]

/-- A drawing in which the unknowns are used, but not the point. -/
noncomputable def unenrolled : Drawing String ℝ :=
  (Operation.addConstraint 1).perform ((Operation.addConstraint 0).perform
    ((Operation.addVariable 1).perform ((Operation.addVariable 0).perform
      (.empty ⟨.int 1, .real 0, .real 1, .real 0.5, .real 0.5⟩ spelt))))

lemma enrolment_unenrolled : Enrolment unenrolled ["p.x", "p.y"] [] := by
  refine .operate (.addConstraint 1) (.operate (.addConstraint 0) (.operate (.addVariable 1)
    (.operate (.addVariable 0) (.start _ _) ?_ ?_) ?_ ?_) ?_ ?_) ?_ ?_
  · exact Nat.zero_lt_succ 1
  · rfl
  · exact Nat.one_lt_succ_succ 0
  · rfl
  · exact Nat.zero_lt_succ 1
  · trivial
  · exact Nat.one_lt_succ_succ 0
  · trivial

lemma isPlannable_unenrolled : unenrolled.IsPlannable where
  board := by
    constructor
    · exact List.forall_mem_singleton.mpr ⟨⟨_, .real _⟩, ⟨_, .real _⟩⟩
    · refine List.forall_mem_cons.mpr ⟨?_, List.forall_mem_singleton.mpr ?_⟩
      · exact ⟨⟨_, rfl⟩, ⟨_, rfl⟩, .null, ⟨_, rfl⟩, ⟨_, rfl⟩⟩
      · exact ⟨⟨_, rfl⟩, ⟨_, rfl⟩, .null, ⟨_, rfl⟩, ⟨_, rfl⟩⟩
  constraints := by
    refine List.forall_mem_cons.mpr ⟨?_, List.forall_mem_singleton.mpr ?_⟩
    · exact ⟨0, Nat.zero_lt_succ 1, rfl⟩
    · exact ⟨1, Nat.one_lt_succ_succ 0, rfl⟩

lemma asks_unenrolled : unenrolled.Asks 0 (.constraint 0) ⟨2, 2⟩
    [.value (.text "p"), .item (.point 0)] :=
  ⟨rfl, rfl, ⟨_, rfl, rfl⟩, rfl⟩

/-- The first constraint is between the unknowns and the point, and the second does not know its
point. -/
theorem unenrolled_resolves : Enrolment unenrolled ["p.x", "p.y"] [] ∧ unenrolled.IsPlannable ∧
    ∃ plan, unenrolled.plan = .ok plan ∧ .text "pin" ∈ plan.diagnostics.skipped ∧
      ∃ sources, ⟨.text "meet", ⟨2, 2⟩, .constraint 0, sources⟩ ∈ plan.rows := by
  obtain ⟨plannable, -, settles⟩ := enrolment_unenrolled.resolves
  obtain ⟨plan, planned⟩ := plannable isPlannable_unenrolled
  obtain ⟨_, labelled, first⟩ := settles plan planned 0 _ _ _ asks_unenrolled
  obtain rfl := Except.ok.inj labelled
  obtain ⟨_, labelled', second⟩ := settles plan planned 1 (.constraint 1) ⟨2, 1⟩
    [.value (.text "q")] ⟨rfl, rfl, ⟨_, rfl, rfl⟩, rfl⟩
  obtain rfl := Except.ok.inj labelled'
  have known : ∀ r ∈ [.value (.text "p"), .item (.point 0)],
      unenrolled.Knows ["p.x", "p.y"] [] r := by
    refine List.forall_mem_cons.mpr ⟨⟨"p", rfl, .inr ?_⟩, List.forall_mem_singleton.mpr ?_⟩
    · exact fun axis _ => by decide +revert
    · exact Nat.zero_lt_one
  obtain ⟨sources, -, -, row⟩ := first.planned rfl known
  refine ⟨enrolment_unenrolled, isPlannable_unenrolled, plan, planned, (second.skipped ?_).2,
    sources, row⟩
  rintro ⟨-, known⟩
  obtain ⟨id, named, listed | both⟩ := known _ List.mem_cons_self
  · cases listed
  · cases named
    exact absurd (both .x Drawing.x_mem_axes) (by decide)

/-- A text may be resolved although it is the id of no point that has been registered. -/
theorem not_forall_isRegistered :
    ¬∀ (d : Drawing String ℝ) (log roll : List String), Enrolment d log roll →
      ∀ plan, d.plan = .ok plan → ∀ position item layout refs, d.Asks position item layout refs →
        ∀ row, plan[position]? = some (.planned row) → ∀ r ∈ refs,
          (∃ place, r = .item (.point place)) ∨
            ∃ v id, r = .value v ∧ Name.text? v = some id ∧ id ∈ roll := by
  intro registered
  have planned : unenrolled.plan = .ok
      [.planned ⟨.text "meet", ⟨2, 2⟩, .constraint 0, [.slots 0 1, .constant 0 0]⟩,
        .skipped (.text "pin") 1] := rfl
  obtain ⟨place, point⟩ | ⟨v, id, -, -, listed⟩ := registered _ _ _ enrolment_unenrolled _ planned
    0 _ _ _ asks_unenrolled _ rfl (.value (.text "p")) List.mem_cons_self
  · cases point
  · cases listed

end Drafting.Plane
