import Drafting.Proofs.Plane.History
import Drafting.Proofs.Plane.Planning

/-!
# Slots in order

The slots, unknowns, numbers and points of a drawing are kept apart from each other. In a history in
which no operation fails they stay in line (`History.isAligned`): there is a slot with a number for
each id that has been registered, in the order in which the ids came first, and for each coordinate
of each point, so that no constraint between registered points is skipped.
-/

namespace Drafting.Plane

variable {α : Type} [Scalar α]

namespace Drawing

/-! ### What stays in line -/

/-- A bound drawing with a number in each slot, and slots for the ids of a log, in the order in
which they came first. -/
structure IsInLine (d : Drawing String α) (log : List String) : Prop where
  bound : d.IsBound
  full : d.params.length = d.unknowns.length
  keys : d.slots.keys = log.eraseDups

/-- That both coordinates of every point are in a log. -/
def CoversPoints (d : Drawing String α) (log : List String) : Prop :=
  ∀ id, d.points.contains id = true → ∀ axis ∈ axes, coordinateId id axis ∈ log

section

variable {d : Drawing String α} {log : List String}

/-- An unknown that is used comes last in the log. -/
lemma IsInLine.addVariable (inLine : d.IsInLine log) {place : ℕ}
    (there : d.board.Holds (.variable place))
    (ok : (d.addVariable (.variable place)).result = .ok ()) :
    (d.addVariable (.variable place)).drawing.IsInLine
      (log ++ [d.board.idOf (.variable place)]) where
  bound := inLine.bound.addVariable there
  full := full_addVariable inLine.full ok
  keys := by
    have ids := (d.binds_addVariable (.variable place)).ids inLine.bound rfl
    rw [(inLine.bound.addVariable there).keys, ids, eraseDups_concat, ← inLine.bound.keys,
      inLine.keys]

lemma IsInLine.addCoordinate (inLine : d.IsInLine log) {id : String} {item : Item} {axis : Kind}
    (ok : (d.addCoordinate id item axis).result = .ok ()) :
    (d.addCoordinate id item axis).drawing.IsInLine (log ++ [coordinateId id axis]) := by
  obtain ⟨v, built, step⟩ := given_of_ok ok
  have placed : (d.place v).IsInLine log := { inLine with bound := inLine.bound.place v }
  have named : (d.place v).board.idOf (.variable d.board.unknowns.length) = coordinateId id axis :=
    (idOf_addVariable d.board v).trans (coordinateOf_of_ok built).1
  rw [Drawing.addCoordinate, step] at ok ⊢
  rw [← named]
  exact placed.addVariable (d.lt_length_place v) ok

lemma IsInLine.addPoint (inLine : d.IsInLine log) {place : ℕ} (on : d.board.Holds (.point place))
    (ok : (d.addPoint (.point place)).result = .ok ()) :
    (d.addPoint (.point place)).drawing.IsInLine (log ++ idsOf d.board (.point place)) := by
  obtain ⟨id, usable, step⟩ := given_of_ok ok
  obtain rfl := usableId_of_ok usable
  have there := List.getElem?_eq_getElem on
  have named := id_of_usableId there usable
  rw [Drawing.addPoint, step] at ok ⊢
  obtain ⟨⟨⟩, okX, step⟩ := Attempt.andThen_of_ok ok
  rw [step] at ok ⊢
  -- the point is there before its coordinates are, which come in this order
  have registered : (d.registerPoint (d.board.idOf (.point place)) (.point place)).IsInLine log :=
    { inLine with bound := inLine.bound.registerPoint there named }
  have both := (registered.addCoordinate okX).addCoordinate ok
  rwa [List.append_assoc] at both

lemma IsInLine.writeBack (inLine : d.IsInLine log) {params : List α}
    (length : params.length ≤ d.params.length)
    (ok : (writeBack { d with params }).result = .ok ()) :
    (writeBack { d with params }).drawing.IsInLine log := by
  obtain ⟨full, written⟩ := writeBack_of_ok ok
  have full : d.unknowns.length ≤ params.length := full
  rw [written]
  have short : params.length ≤ d.unknowns.length := length.trans inLine.full.le
  exact ⟨(inLine.bound.withParams short).written, short.antisymm full, inLine.keys⟩

lemma IsInLine.setInitial (inLine : d.IsInLine log) {values : Value α}
    (ok : (d.setInitial values).result = .ok ()) :
    (d.setInitial values).drawing.IsInLine log := by
  rw [Drawing.setInitial_eq] at ok ⊢
  split at ok
  · next fields _ =>
    obtain ⟨⟨⟩, -, step⟩ := Attempt.andThen_of_ok ok
    obtain ⟨params, length, left⟩ := d.exists_assign_eq fields
    rw [step, left] at ok ⊢
    exact inLine.writeBack length.le ok
  · cases ok

lemma IsInLine.solve (inLine : d.IsInLine log) {solution : Solution String α}
    (ok : d.solve.result = .ok solution) : d.solve.drawing.IsInLine log := by
  obtain same | ⟨params, length, same, committed⟩ := d.solve_cases
  · rw [same]
    exact inLine
  · rw [same]
    exact inLine.writeBack length (committed solution ok)

/-- An operation that does not fail leaves the slots in line, and its ids come last in the log. -/
theorem IsInLine.perform (inLine : d.IsInLine log) (op : Operation α) (on : op.IsOn d.board)
    (succeeds : op.Succeeds d) : (op.perform d).IsInLine (op.log d.board log) := by
  cases op with
  | addVariable place => exact inLine.addVariable on succeeds
  | addPoint place => exact inLine.addPoint on succeeds
  | addObject r =>
    cases r with
    | value v => cases succeeds
    | item object =>
      cases object with
      | «variable» place => exact inLine.addVariable on succeeds
      | point place => exact inLine.addPoint on succeeds
      | constraint place => cases succeeds
  | addConstraint place => exact { inLine with bound := inLine.bound.addConstraint place }
  | setInitial values => exact inLine.setInitial succeeds
  | analyze _ => exact inLine
  | solve =>
    obtain ⟨solution, ok⟩ := succeeds
    exact inLine.solve ok
  | clear => exact ⟨isBound_empty d.options d.board, rfl, rfl⟩

end

/-! ### Points -/

section

variable {d : Drawing String α} {log : List String}

lemma points_writeBack (d : Drawing String α) : d.writeBack.drawing.points = d.points := by
  rw [Drawing.writeBack]
  split <;> rfl

lemma points_setInitial (d : Drawing String α) (values : Value α) :
    (d.setInitial values).drawing.points = d.points := by
  rw [Drawing.setInitial_eq]
  cases values.fields? with
  | none => rfl
  | some fields =>
    obtain ⟨params, -, left⟩ := d.exists_assign_eq fields
    simp only [Attempt.andThen]
    split
    · rw [points_writeBack, left]
    · rw [left]

lemma points_solve (d : Drawing String α) : d.solve.drawing.points = d.points := by
  obtain same | ⟨params, -, same, -⟩ := d.solve_cases
  · rw [same]
  · rw [same, commit, points_writeBack]

omit [Scalar α] in
lemma CoversPoints.mono (covers : d.CoversPoints log) {d' : Drawing String α}
    (same : d'.points = d.points) {log' : List String} (more : log ⊆ log') :
    d'.CoversPoints log' :=
  fun id registered axis among => more (covers id (same ▸ registered) axis among)

lemma CoversPoints.addVariable (covers : d.CoversPoints log) (item : Item) :
    (d.addVariable item).drawing.CoversPoints (log ++ [d.board.idOf item]) := by
  intro id registered axis among
  have same := (d.changesOnly_addVariable item).points id List.not_mem_nil
  rw [Table.contains, same] at registered
  exact List.mem_append_left _ (covers id registered axis among)

lemma CoversPoints.addPoint (covers : d.CoversPoints log) (place : ℕ) :
    (d.addPoint (.point place)).drawing.CoversPoints (log ++ idsOf d.board (.point place)) := by
  intro id registered axis among
  -- the point may have been registered before, and then comes last in the log once more
  by_cases own : id = d.board.idOf (.point place)
  · refine List.mem_append_right _ ?_
    subst own
    obtain rfl | rfl := eq_or_eq_of_mem_axes among
    · exact List.mem_cons_self
    · exact List.mem_cons_of_mem _ List.mem_cons_self
  · have same := (d.changesOnly_addPoint (.point place)).points id (mt List.mem_singleton.mp own)
    rw [Table.contains, same] at registered
    exact List.mem_append_left _ (covers id registered axis among)

/-- Every operation has the coordinates of the points that it registers in the log. -/
theorem CoversPoints.perform (covers : d.CoversPoints log) (op : Operation α) :
    (op.perform d).CoversPoints (op.log d.board log) := by
  cases op with
  | addVariable place => exact covers.addVariable _
  | addPoint place => exact covers.addPoint place
  | addObject r =>
    cases r with
    | value v => exact covers
    | item object =>
      cases object with
      | «variable» place => exact covers.addVariable _
      | point place => exact covers.addPoint place
      | constraint place => exact covers.mono rfl (List.subset_append_left _ _)
  | addConstraint place => exact covers
  | setInitial values => exact covers.mono (d.points_setInitial values) (List.Subset.refl _)
  | analyze _ => exact covers
  | solve => exact covers.mono d.points_solve (List.Subset.refl _)
  | clear => exact nofun

end

/-! ### Constraints that are skipped -/

section

variable {d : Drawing String α}

lemma length_front_le {content : Content α} {count : ℕ} {refs : List (Reference α)}
    (ok : content.front count = .ok refs) : refs.length ≤ count := by
  unfold Content.front at ok
  split at ok
  · cases ok
    exact List.length_take_le _ _
  · cases ok
  · cases ok
  · cases ok
  · split at ok
    · cases ok
      rw [List.length_map]
      exact List.length_take_le _ _
    · cases ok

/-- A constraint is skipped if it has too few references, or one of them is not resolved. -/
lemma exists_unresolved {position needed : ℕ} {item : Item} {label : Value α}
    (ok : d.standing position item = .ok (.skipped label needed)) :
    ∃ content refs, d.board.references item = .ok content ∧ content.front needed = .ok refs ∧
      (refs.length < needed ∨ ∃ r ∈ refs, d.source? r = .ok none) := by
  obtain none | ⟨_, none⟩ | ⟨label', layout, content, refs, sources, referred, first, located,
    skipped⟩ := standing_cases ok
  · cases none
  · cases none
  · rw [standingOf] at skipped
    split at skipped
    · cases skipped
    · next lacking =>
      cases skipped
      exact ⟨content, refs, referred, first,
        lacking_cases located (length_front_le first) lacking⟩

omit [Scalar α] in
lemma exists_slotsOf? {id : String}
    (coordinates : ∀ axis ∈ axes, ∃ slot, d.slots.get? (coordinateId id axis) = some slot) :
    ∃ s, d.slotsOf? id = some s := by
  obtain ⟨x, foundX⟩ := coordinates .x x_mem_axes
  obtain ⟨y, foundY⟩ := coordinates .y y_mem_axes
  refine ⟨.slots x y, ?_⟩
  rw [slotsOf?, foundX, foundY]
  rfl

/-- What is not resolved names no registered point whose coordinates have slots. -/
lemma contains_eq_false_of_source? {r : Reference α} {id : String}
    (coordinates : d.points.contains id = true →
      ∀ axis ∈ axes, ∃ slot, d.slots.get? (coordinateId id axis) = some slot)
    (unresolved : d.source? r = .ok none) (named : d.board.nameOf? r = some id) :
    d.points.contains id = false := by
  by_contra registered
  rw [Bool.not_eq_false] at registered
  obtain ⟨s, found⟩ := exists_slotsOf? (coordinates registered)
  cases r with
  | item object =>
    cases object with
    | constraint place => cases named
    | «variable» place => cases named
    | point place =>
      obtain ⟨p, there, own⟩ := Option.bind_eq_some_iff.mp named
      have source : d.source? (.item (.point place)) = .ok (some s) := by
        simp only [source?, there]
        rw [sourceOfPoint_of_registered own registered, found]
      rw [source] at unresolved
      cases unresolved
  | value v =>
    have source : d.source? (.value v) = .ok (some s) := by
      rw [source?, show Name.text? v = some id from named]
      exact congrArg Except.ok found
    rw [source] at unresolved
    cases unresolved

end

/-! ### Histories -/

/-- A drawing whose slots, unknowns, numbers and points are in line with the ids that have been
registered since it was last cleared. -/
structure IsAligned (d : Drawing String α) (log : List String) : Prop where
  /-- There are as many numbers as unknowns. -/
  full : d.params.length = d.unknowns.length
  /-- The ids that have been registered are those that have a slot. -/
  registered : ∀ id, id ∈ log ↔ ∃ slot, d.slots.get? id = some slot
  /-- The slots are counted from zero, as many as there are unknowns, and each has one id. -/
  inside : ∀ id slot, d.slots.get? id = some slot → slot < d.unknowns.length
  unique : ∀ slot < d.unknowns.length, ∃! id, d.slots.get? id = some slot
  /-- The unknown in a slot has the id of the slot. -/
  own : ∀ id slot, d.slots.get? id = some slot → ∃ place u,
    d.unknowns[slot]? = some (.variable place) ∧ d.board.unknowns[place]? = some u ∧ u.id = id
  /-- The slots are in the order in which their ids have first been registered. -/
  order : ∀ id slot, d.slots.get? id = some slot ↔ log.eraseDups[slot]? = some id
  /-- Both coordinates of every point have slots. -/
  points : ∀ id, d.points.contains id = true →
    ∀ axis ∈ axes, ∃ slot, d.slots.get? (coordinateId id axis) = some slot
  /-- A constraint that is skipped has too few references for its relation, or one of them names no
  registered point. -/
  resolved : ∀ position item label needed,
    d.standing position item = .ok (.skipped label needed) →
    ∃ content refs, d.board.references item = .ok content ∧ content.front needed = .ok refs ∧
      (refs.length < needed ∨
        ∃ r ∈ refs, ∀ id, d.board.nameOf? r = some id → d.points.contains id = false)

lemma IsInLine.aligned {d : Drawing String α} {log : List String} (inLine : d.IsInLine log)
    (covers : d.CoversPoints log) : d.IsAligned log := by
  have registered (id : String) : id ∈ log ↔ ∃ slot, d.slots.get? id = some slot := by
    rw [← List.mem_eraseDups, ← inLine.keys, ← Table.isSome_get?_iff, Option.isSome_iff_exists]
  have points (id : String) (used : d.points.contains id = true) (axis : Kind)
      (among : axis ∈ axes) : ∃ slot, d.slots.get? (coordinateId id axis) = some slot :=
    (registered _).mp (covers id used axis among)
  constructor
  case full => exact inLine.full
  case registered => exact registered
  case inside => exact fun id slot found => inLine.bound.slot_lt found
  case unique =>
    intro slot inside
    have there : d.unknowns[slot]? = some d.unknowns[slot] := List.getElem?_eq_getElem inside
    have named (id : String) :
        d.slots.get? id = some slot ↔ d.board.idOf d.unknowns[slot] = id := by
      rw [inLine.bound.slots, there, Option.map_some, Option.some.injEq]
    exact ⟨_, (named _).mpr rfl, fun id found => ((named id).mp found).symm⟩
  case own =>
    intro id slot found
    obtain ⟨item, there, named⟩ := Option.map_eq_some_iff.mp ((inLine.bound.slots id slot).mp found)
    obtain ⟨place, inside, rfl⟩ := inLine.bound.unknown item (List.mem_of_getElem? there)
    have held := List.getElem?_eq_getElem inside
    exact ⟨place, _, there, held, (idOf_of_getElem? held).symm.trans named⟩
  case order =>
    intro id slot
    rw [inLine.bound.slots, ← List.getElem?_map, ← inLine.bound.keys, inLine.keys]
  case points => exact points
  case resolved =>
    intro position item label needed skipped
    obtain ⟨content, refs, referred, first, cause⟩ := exists_unresolved skipped
    refine ⟨content, refs, referred, first, cause.imp id ?_⟩
    rintro ⟨r, there, unresolved⟩
    exact ⟨r, there, fun id => contains_eq_false_of_source? (points id) unresolved⟩

end Drawing

/-- In every history without failures, a drawing is aligned with the ids that have been
registered. -/
theorem History.isAligned {d : Drawing String α} {log : List String}
    (history : History (fun d op => op.Succeeds d) d log) : d.IsAligned log := by
  suffices inLine : d.IsInLine log ∧ d.CoversPoints log from inLine.1.aligned inLine.2
  induction history with
  | start options board => exact ⟨⟨Drawing.isBound_empty options board, rfl, rfl⟩, nofun⟩
  | outside _ keeps ih => exact ⟨{ ih.1 with bound := ih.1.bound.of_keeps keeps }, ih.2⟩
  | operate op _ on succeeds ih => exact ⟨ih.1.perform op on succeeds, ih.2.perform op⟩

/-- The point has the first two slots, and the first of them has gone over to the unknown. -/
theorem handedOver_isAligned :
    History (fun d op => op.Succeeds d) handedOver ["p.x", "p.y", "p.x"] ∧
      handedOver.IsAligned ["p.x", "p.y", "p.x"] :=
  ⟨history_handedOver, history_handedOver.isAligned⟩

end Drafting.Plane
