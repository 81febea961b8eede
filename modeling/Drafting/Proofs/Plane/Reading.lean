import Drafting.Plane.Reading
import Drafting.Proofs.Plane.Failure
import Drafting.Proofs.Reading

/-!
# Reading planar sketches, whatever a file may hold

A planar sketch is read record by record, and what has been read so far is in step, and can be
planned. So a point that is read can be registered unless its id is empty, and an unknown always.
With that, planar sketches are read or found to be malformed as sketches are, with the same two
exceptions (`Value.IsJson.isHandled`). References may be left out, or be a text or a record.
-/

namespace Drafting

section

variable {P : Value Float → Prop} {β : Type} [Headroom]

/-- Records are taken over one by one, which keeps up an invariant and checks each of them. -/
lemma due_foldlM {I : β → Prop} {R : List (String × Value Float) → Prop}
    {add : β → Value Float → Except (Fault Float) β}
    (each : ∀ b fields, I b → AreJson P fields →
      Due P (fun b' => I b' ∧ R fields) (add b (.record fields)))
    {items : List (Value Float)} (records : ∀ item ∈ items, IsRecordOf P Any item) {b : β}
    (start : I b) :
    Due P (fun b' => I b' ∧ ∀ item ∈ items, IsRecordOf P R item) (items.foldlM add b) := by
  induction items generalizing b with
  | nil => exact ⟨start, List.forall_mem_nil _⟩
  | cons item rest ih =>
    obtain ⟨⟨fields, rfl, json, -⟩, others⟩ := List.forall_mem_cons.mp records
    rw [List.foldlM_cons]
    refine (each b fields start json).bind fun b' _ ⟨kept, holds⟩ => ?_
    refine (ih others kept).weaken (fun _ due => due) fun b'' ⟨kept, later⟩ => ⟨kept, ?_⟩
    exact List.forall_mem_cons.mpr ⟨⟨fields, rfl, json, holds⟩, later⟩

namespace Plane

variable {fields : List (String × Value Float)}

/-! ### Points and unknowns -/

/-- A point that has numbers as coordinates, and an id. -/
def Point.IsRead (p : Point String Float) : Prop :=
  p.x.IsNumeric ∧ p.y.IsNumeric ∧ ∃ id, p.id = some id

lemma Point.tame_ofFields (json : AreJson P fields) :
    Tame P Point.IsRead (ofFields fields : Except (Fault Float) (Point String Float)) := by
  refine (json.tame_needed "x").bind fun _ _ x => x.tame_toReal.bind fun x _ _ => ?_
  refine (json.tame_needed "y").bind fun _ _ y => y.tame_toReal.bind fun y _ _ => ?_
  refine (json.tame_needed "id").bind fun _ _ id => (id.tame_spell _).bind fun id _ _ => ?_
  rw [(json.fieldOrNull "fixed").truth_eq_ok]
  exact ⟨⟨x, .real x⟩, ⟨y, .real y⟩, _, rfl⟩

lemma Variable.tame_ofFields (json : AreJson P fields) :
    Tame P (fun u => u.value.IsNumeric)
      (ofFields fields : Except (Fault Float) (Variable String Float)) := by
  refine (json.tame_needed "id").bind fun _ _ id => (id.tame_spell _).bind fun _ _ _ => ?_
  refine (json.tame_needed "value").bind fun _ _ value => ?_
  refine ((json.fieldOr "kind" (.text _)).tame_member _ _ _).bind fun _ _ _ => ?_
  exact value.tame_toReal.bind fun x _ _ => ⟨x, .real x⟩

/-! ### Constraints -/

lemma tame_placeOf (json : AreJson P fields) : Tame P Any (placeOf fields) := by
  refine (json.tame_needed "x").bind fun _ _ x => x.tame_toReal.bind fun x _ _ => ?_
  exact (json.tame_needed "y").bind fun _ _ y => y.tame_toReal.bind fun y _ _ => trivial

lemma tame_targetOf {v : Value Float} (json : v.IsJson P) : Tame P Value.IsTarget (targetOf v) := by
  have real (x : Float) : (Value.real x).IsNumeric := ⟨x, .real x⟩
  have number := json.tame_toReal
  cases json with
  | null => exact .null
  | @record fields _ json =>
    refine (tame_placeOf json).map fun place _ => ?_
    exact .record rfl (real place.1) rfl (real place.2)
  | list property json =>
    refine (Value.IsJson.list property json).tame_items.bind fun items _ ⟨_, json⟩ => ?_
    split
    · next x y =>
      obtain ⟨x, rest⟩ := List.forall_mem_cons.mp json
      obtain ⟨y, -⟩ := List.forall_mem_cons.mp rest
      exact x.tame_toReal.bind fun x _ _ => y.tame_toReal.bind fun y _ _ => .tuple (real x) (real y)
    · exact Fault.isTame rfl rfl
  | _ => exact number.bind fun x _ _ => .number (real x)

lemma tame_targetField (json : AreJson P fields) : Tame P Value.IsTarget (targetField fields) := by
  rw [targetField]
  cases found : ["target", "target_value", "targetValue"].findSome? (field? fields) with
  | none => exact .null
  | some v =>
    obtain ⟨name, -, there⟩ := List.exists_of_findSome?_eq_some found
    exact tame_targetOf (json.of_field? there)

/-- Whether the references of the constraint of a record have items, if there are any. -/
def Constraint.HasItems (fields : List (String × Value Float)) : Prop :=
  ∀ v, field? fields "entities" = some v → v.HasItems

lemma Constraint.tame_subject (json : AreJson P fields) :
    Tame P (fun found => found.1.IsJson P ∧ HasItems fields) (subject fields) := by
  refine (json.tame_needed "type").bind fun _ _ relation => ?_
  have references := json.fieldOr "entities" (.list (absurd rfl) (List.forall_mem_nil _))
  refine references.tame_items.bind fun items _ ⟨has, items'⟩ => ?_
  refine (Drafting.Constraint.tame_spells items').bind fun names _ _ => ?_
  refine ⟨relation, fun v found => ?_⟩
  rwa [fieldOr, found] at has

lemma Constraint.tame_ofFields (json : AreJson P fields) :
    Tame P (fun c => c.IsPlannable ∧ c.id.IsJson P ∧ HasItems fields)
      (ofFields fields : Except (Fault Float) (Constraint Float)) := by
  refine (tame_subject json).bind fun _ _ ⟨relation, has⟩ => ?_
  refine (tame_targetField json).bind fun target _ sort => ?_
  rw [(json.fieldOr "enabled" (.flag true)).truth_eq_ok]
  refine (Drafting.Constraint.tame_relation relation).bind fun r _ _ => ?_
  refine ⟨?_, json.fieldOrNull "id", has⟩
  exact ⟨⟨r, rfl⟩, ⟨_, rfl⟩, sort, ⟨_, (json.fieldOrNull "id").truth_eq_ok⟩, ⟨_, rfl⟩⟩

namespace Drawing

variable {d : Drawing String Float}

namespace IsInStep

omit [Headroom] in
/-- Another board with the same unknowns makes no difference. -/
lemma onBoard (inStep : d.IsInStep) {board : Board String Float}
    (same : board.unknowns = d.board.unknowns) : IsInStep { d with board } where
  registered := by
    refine inStep.registered.onBoard (fun place there => ?_) fun item there => ?_
    · exact same ▸ inStep.registered.lt_of_mem there
    · obtain ⟨place, inside, rfl⟩ := inStep.registered.unknown item there
      exact idOf_congr (congrArg (fun unknowns => unknowns[place]?) same)
  numeric := same ▸ inStep.numeric

omit [Headroom] in
/-- In a drawing in step a coordinate that is a number can be used. -/
lemma exists_addCoordinate_eq (inStep : d.IsInStep) (id : String) {item : Item} {axis : Kind}
    {v : Value Float} (coordinate : d.board.coordinate item axis = .ok v) (numeric : v.IsNumeric) :
    ∃ d', d.addCoordinate id item axis = ⟨d', .ok ()⟩ ∧ d'.IsInStep ∧
      d'.board.points = d.board.points := by
  obtain ⟨x, number⟩ := numeric
  let u : Variable String Float := ⟨coordinateId id axis, .real x, .member axis, []⟩
  have placed : (d.place u).IsInStep := inStep.place ⟨x, .real x⟩
  obtain ⟨d', step, inStep'⟩ := placed.addVariable (d.lt_length_place u)
  have board := (d.place u).board_addVariable (.variable d.board.unknowns.length)
  rw [step] at board
  rw [Drawing.addCoordinate, coordinateOf_eq_ok coordinate number]
  exact ⟨d', step, inStep', (congrArg Board.points board :)⟩

omit [Headroom] in
/-- A point that has been read can be used unless its id is empty. -/
lemma addPoint_of_isRead (inStep : d.IsInStep) {place : ℕ} {p : Point String Float}
    (there : d.board.points[place]? = some p) (read : p.IsRead) :
    (d.addPoint (.point place)).result = .ok () ∨
      (d.addPoint (.point place)).result = .error .unregistrable := by
  obtain ⟨numericX, numericY, id, named⟩ := read
  by_cases empty : id = ""
  · rw [Drawing.addPoint, usableId_eq_error there (.inr (empty ▸ named))]
    exact .inr rfl
  · have start : (d.registerPoint id (.point place)).IsInStep := inStep.registerPoint id _
    obtain ⟨d₁, stepX, inStep₁, points⟩ :=
      start.exists_addCoordinate_eq id (coordinate_point there .x) numericX
    obtain ⟨d₂, stepY, -⟩ :=
      inStep₁.exists_addCoordinate_eq id (coordinate_point (points ▸ there) .y) numericY
    rw [Drawing.addPoint, usableId_eq_ok there named empty, given, Attempt.andThen, stepX]
    exact .inl (congrArg Attempt.result stepY)

end IsInStep

/-- A drawing that has been read with some options: it is in step, and can be planned, and the ids
of constraints are data. -/
structure IsRead (P : Value Float → Prop) (d : Drawing String Float) (o : NewtonOptions Float) :
    Prop where
  options : d.options = o
  inStep : d.IsInStep
  plannable : d.IsPlannable
  ids : ∀ c ∈ d.board.constraints, c.id.IsJson P

omit [Headroom] in
lemma points_addCoordinate (d : Drawing String Float) (id : String) (item : Item) (axis : Kind) :
    (d.addCoordinate id item axis).drawing.board.points = d.board.points := by
  rw [addCoordinate]
  cases d.coordinateOf id item axis with
  | error fault => rfl
  | ok v =>
    rw [given, board_addVariable]
    rfl

omit [Headroom] in
lemma points_addPoint (d : Drawing String Float) (item : Item) :
    (d.addPoint item).drawing.board.points = d.board.points := by
  rw [addPoint]
  cases d.usableId item with
  | error fault => rfl
  | ok id =>
    have first := (d.registerPoint id item).points_addCoordinate id item .x
    rw [given, Attempt.andThen]
    split
    · exact (points_addCoordinate _ id item .y).trans first
    · exact first

namespace IsRead

variable {o : NewtonOptions Float} (isRead : d.IsRead P o)

include isRead

omit [Headroom] in
/-- Using unknowns keeps to what has been read, on a board with the same constraints. -/
lemma of_changesOnly {d' : Drawing String Float} {ids points : List String}
    (inStep : d'.IsInStep) (changes : d.ChangesOnly d' ids points)
    (constraints : d'.board.constraints = d.board.constraints)
    (typed : ∀ p ∈ d'.board.points, p.IsTyped) : d'.IsRead P o where
  options := changes.options.trans isRead.options
  inStep := inStep
  plannable :=
    { board := ⟨typed, constraints ▸ isRead.plannable.board.constraints⟩
      constraints := by
        rw [HasConstraints, changes.constraints, constraints]
        exact isRead.plannable.constraints }
  ids := constraints ▸ isRead.ids

lemma due_addPointRecord (json : AreJson P fields) :
    Due P (fun d' => d'.IsRead P o ∧ Any fields) (d.addPointRecord (.record fields)) := by
  refine Ends.inRecord ?_ .point json.recordLabel
  refine (Point.tame_ofFields json).bind fun p _ read => ?_
  let placed : Drawing String Float := { d with board := d.board.addPoint p }
  let item : Item := .point d.board.points.length
  have start : placed.IsInStep := isRead.inStep.onBoard rfl
  have there : placed.board.points[d.board.points.length]? = some p := List.getElem?_concat_length
  have used : Tame P Any (placed.addPoint item).result := by
    obtain used | unnamed := start.addPoint_of_isRead there read
    · exact used ▸ True.intro
    · exact unnamed ▸ Fault.isTame rfl rfl
  have changes := ((ChangesOnly.refl d [] []).onBoard _).trans (placed.changesOnly_addPoint item)
  refine used.bind fun _ _ _ =>
    ⟨isRead.of_changesOnly (start.addPoint item) changes ?_ ?_, True.intro⟩
  · exact (placed.isPartOf_addPoint item).constraints.symm
  · rw [points_addPoint]
    refine List.forall_mem_append.mpr ⟨isRead.plannable.board.points, ?_⟩
    exact List.forall_mem_singleton.mpr ⟨read.1, read.2.1⟩

lemma due_addVariableRecord (json : AreJson P fields) :
    Due P (fun d' => d'.IsRead P o ∧ Any fields) (d.addVariableRecord (.record fields)) := by
  refine Ends.inRecord ?_ .unknown json.recordLabel
  refine (Variable.tame_ofFields json).bind fun u _ numeric => ?_
  let item : Item := .variable d.board.unknowns.length
  obtain ⟨d', step, inStep'⟩ := (isRead.inStep.place numeric).addVariable (d.lt_length_place u)
  have changes := ((ChangesOnly.refl d [] []).onBoard _).trans
    ((d.place u).changesOnly_addVariable item)
  have board := (d.place u).board_addVariable item
  rw [step] at changes board ⊢
  refine ⟨isRead.of_changesOnly inStep' changes ?_ ?_, True.intro⟩
  · exact (congrArg Board.constraints board :)
  · rw [show d'.board.points = d.board.points from (congrArg Board.points board :)]
    exact isRead.plannable.board.points

lemma due_addConstraintRecord (json : AreJson P fields) :
    Due P (fun d' => d'.IsRead P o ∧ Constraint.HasItems fields)
      (d.addConstraintRecord (.record fields)) := by
  have label := json.fieldOr "id" (.text ("#" ++ toString d.constraints.length))
  refine ((Constraint.tame_ofFields json).inRecord .constraint label).bind fun c _ ⟨own, id, has⟩ =>
    ⟨⟨isRead.options, ?_, ?_, ?_⟩, has⟩
  · have left : IsInStep { d with board := d.board.addConstraint c } := isRead.inStep.onBoard rfl
    exact ⟨⟨left.registered.full, left.registered.unknown, left.registered.slots⟩, left.numeric⟩
  · refine ⟨⟨isRead.plannable.board.points, ?_⟩, fun item there => ?_⟩
    · refine List.forall_mem_append.mpr ⟨isRead.plannable.board.constraints, ?_⟩
      exact List.forall_mem_singleton.mpr own
    · have longer : (d.board.addConstraint c).constraints.length =
          d.board.constraints.length + 1 := List.length_append
      obtain old | new := List.mem_append.mp there
      · obtain ⟨place, inside, rfl⟩ := isRead.plannable.constraints item old
        exact ⟨place, longer ▸ Nat.lt_succ_of_lt inside, rfl⟩
      · exact ⟨_, longer ▸ Nat.lt_succ_self _, List.mem_singleton.mp new⟩
  · exact List.forall_mem_append.mpr ⟨isRead.ids, List.forall_mem_singleton.mpr id⟩

end IsRead

omit [Headroom] in
lemma isRead_empty (options : NewtonOptions Float) :
    (empty options .empty : Drawing String Float).IsRead P options where
  options := rfl
  inStep := ⟨⟨rfl, List.forall_mem_nil _, fun _ _ => ⟨nofun, nofun⟩⟩, List.forall_mem_nil _⟩
  plannable := ⟨⟨List.forall_mem_nil _, List.forall_mem_nil _⟩, List.forall_mem_nil _⟩
  ids := List.forall_mem_nil _

/-- With options beside it, a planar sketch is read or found to be malformed, unless a part of it is
too much. -/
lemma due_ofRecord (json : AreJson P fields) {options : NewtonOptions Float}
    (copied : options.AreCopied P) :
    Due P (fun d => d.IsRead P options ∧ HasRecords P Constraint.HasItems (.record fields))
      (ofRecord (.record fields) (some options) : Except (Fault Float) (Drawing String Float)) := by
  refine copied.due_requireCopy.bind fun _ _ _ => ?_
  refine (due_sectionRecords json "points").bind fun points _ ⟨_, records⟩ => ?_
  refine (due_foldlM (I := (IsRead P · options)) (fun _ _ isRead => isRead.due_addPointRecord)
    records (isRead_empty options)).bind fun d _ ⟨isRead, _⟩ => ?_
  refine (due_sectionRecords json "variables").bind fun unknowns _ ⟨_, records⟩ => ?_
  refine (due_foldlM (I := (IsRead P · options)) (fun _ _ isRead => isRead.due_addVariableRecord)
    records isRead).bind fun d _ ⟨isRead, _⟩ => ?_
  refine (due_sectionRecords json "constraints").bind fun constraints _ ⟨listed, records⟩ => ?_
  refine (due_foldlM (I := (IsRead P · options)) (fun _ _ isRead => isRead.due_addConstraintRecord)
    records isRead).weaken (fun _ due => due) fun _ ⟨isRead, holds⟩ => ?_
  exact ⟨isRead, constraints, listed, holds⟩

/-- A planar sketch that has been read is in step. -/
lemma isInStep_of_ofRecord {v : Value Float} (json : v.IsJson P)
    {given? : Option (NewtonOptions Float)} {d : Drawing String Float}
    (read : ofRecord v given? = .ok d) : d.IsInStep := by
  cases json with
  | @record fields _ json =>
    obtain ⟨options, -, read⟩ := Except.bind_eq_ok.mp read
    obtain ⟨copied, -⟩ := Except.bind_unit_eq_ok.mp read
    have due := due_ofRecord json (NewtonOptions.areCopied_of_requireCopy copied)
    have again : ofRecord (.record fields) (some options) = .ok d := read
    rw [again] at due
    exact due.1.inStep
  | _ => cases read

/-- A planar sketch is read, and is in step then, or found to be malformed, unless a part of it is
too much or the options are no record. -/
theorem expected_ofRecord {v : Value Float} (json : v.IsJson P)
    {given? : Option (NewtonOptions Float)} (copied : ∀ o ∈ given?, o.AreCopied P) :
    Ends (Fault.IsExpected P (optionsOf v))
      (fun d => d.IsInStep ∧ HasRecords P Constraint.HasItems v)
      (ofRecord v given? : Except (Fault Float) (Drawing String Float)) := by
  cases json with
  | @record fields _ json =>
    have options : Ends (Fault.IsExpected P (optionsOf (.record fields)))
        (NewtonOptions.AreCopied P) (optionsFor fields given?) := by
      cases given? with
      | some options => exact copied options rfl
      | none =>
        exact (expected_newtonOptions (AreJson.fieldOrNull json "options")).weaken
          (fun _ expected => expected) fun _ read => read.2
    refine options.bind fun options _ copied => ?_
    exact (due_ofRecord json copied).weaken (fun _ => .inl) fun d ⟨isRead, has⟩ =>
      ⟨isRead.inStep, has⟩
  | _ => exact .inl (.inl rfl)

end Drawing

end Plane

/-! ### Sketches of either sort -/

/-- What comes of reading a value as a sketch of either sort. A constraint has to refer to a list;
in the plane a text or a record does as well. -/
structure Value.IsHandled (P : Value Float → Prop) (v : Value Float) : Prop where
  sketch : Ends (Fault.IsExpected P (optionsOf v)) (fun _ => HasRecords P Constraint.HasList v)
    (Sketch.ofRecord v none : Except (Fault Float) (Sketch (Value Float) Float Float))
  drawing : Ends (Fault.IsExpected P (optionsOf v))
    (fun d => d.IsInStep ∧ HasRecords P Plane.Constraint.HasItems v)
    (Plane.Drawing.ofRecord v none : Except (Fault Float) (Plane.Drawing String Float))
  /-- Options that are something, but no record, are never found to be malformed. -/
  stray : (optionsOf v).isTruthy = true → (optionsOf v).fields? = none →
    (Sketch.ofRecord v none : Except (Fault Float) (Sketch (Value Float) Float Float)) =
        .error (.missingOperation (optionsOf v).kindName "items") ∧
      (Plane.Drawing.ofRecord v none : Except (Fault Float) (Plane.Drawing String Float)) =
        .error (.missingOperation (optionsOf v).kindName "items")

omit [Headroom] in
lemma optionFields_of_stray {group : OptionGroup} {v : Value Float} (json : v.IsJson P)
    (truthy : v.isTruthy = true) (stray : v.fields? = none) :
    optionFields group v = .error (.missingOperation v.kindName "items") := by
  rw [optionFields, json.truth_eq_ok, truthy]
  cases json with
  | record => cases stray
  | _ => rfl

/-- Whatever a file holds, a sketch is read from it or it is found to be malformed, but for options
that are no record, for integers that are too large for a double or have too many digits, and for
values that are nested too deeply. -/
theorem Value.IsJson.isHandled {v : Value Float} (json : v.IsJson P) : v.IsHandled P where
  sketch := Sketch.expected_ofRecord json nofun
  drawing := Plane.Drawing.expected_ofRecord json nofun
  stray truthy stray := by
    cases json with
    | @record fields _ json =>
      have options : (fieldOrNull fields "options").IsJson P := AreJson.fieldOrNull json "options"
      constructor
      · show (DescentOptions.ofValue (fieldOrNull fields "options") >>= _) = _
        rw [DescentOptions.ofValue, optionFields_of_stray options truthy stray]
        rfl
      · show (NewtonOptions.ofValue (fieldOrNull fields "options") >>= _) = _
        rw [NewtonOptions.ofValue, optionFields_of_stray options truthy stray]
        rfl
    | _ => cases truthy

end

/-- Options that are a list, beside a constraint that refers to a text. -/
def listed : Value Float := .record [("options", .list [.int 1]), ("constraints", .list [.record
  [("id", .text "c"), ("type", .text "horizontal"), ("entities", .text "ab")]])]

lemma listed_isJson : listed.IsJson Any := by
  have options : (Value.list [.int 1] : Value Float).IsJson Any :=
    .list (fun _ => trivial) (List.forall_mem_singleton.mpr (.int trivial))
  have constraint : (Value.record [("id", .text "c"), ("type", .text "horizontal"),
      ("entities", .text "ab")] : Value Float).IsJson Any := by
    refine .record (fun _ => trivial)
      (List.forall_mem_cons.mpr ⟨.text "c", List.forall_mem_cons.mpr ⟨?_, ?_⟩⟩)
    · exact .text "horizontal"
    · exact List.forall_mem_singleton.mpr (.text "ab")
  refine .record (fun _ => trivial)
    (List.forall_mem_cons.mpr ⟨options, List.forall_mem_singleton.mpr ?_⟩)
  exact .list (fun _ => trivial) (List.forall_mem_singleton.mpr constraint)

theorem listed_isHandled : listed.IsJson (fun w => w.IsPartOf listed) ∧
    listed.IsHandled fun w => w.IsPartOf listed := by
  have json := listed_isJson.of_isPartOf (Q := fun w => w.IsPartOf listed) fun _ part => part
  exact ⟨json, json.isHandled⟩

/-- That a value is a sketch of either sort or is found to be malformed, which it is if a constraint
refers to anything but a list. -/
structure Value.IsReported (v : Value Float) : Prop where
  sketch : ∀ fault, (Sketch.ofRecord v none : Except _ (Sketch (Value Float) Float Float)) =
    .error fault → fault.isMalformed = true
  drawing : ∀ fault, (Plane.Drawing.ofRecord v none : Except _ (Plane.Drawing String Float)) =
    .error fault → fault.isMalformed = true
  sketchReferences : ∀ s : Sketch (Value Float) Float Float, Sketch.ofRecord v none = .ok s →
    HasRecords Any Constraint.HasList v
  drawingReferences : ∀ d : Plane.Drawing String Float, Plane.Drawing.ofRecord v none = .ok d →
    HasRecords Any (fun fields => ∀ references, field? fields "entities" = some references →
      ∃ items, references = .list items) v

/-- Options that are a list are not found to be malformed. -/
theorem not_isReported : ¬∀ v : Value Float, v.IsJson Any → v.IsReported := by
  intro reported
  have json : (Value.record [("options", .list [.null])] : Value Float).IsJson Any :=
    .record (fun _ => trivial) (List.forall_mem_singleton.mpr
      (.list (fun _ => trivial) (List.forall_mem_singleton.mpr .null)))
  have malformed := (reported _ json).sketch (.missingOperation "list" "items") rfl
  cases malformed

end Drafting
