import Drafting.Proofs.Plane.Coherence
import Drafting.Proofs.Plane.Failure

/-!
# Histories of drawings

A history does one operation after the other on a drawing, whatever the options and the objects are
like, while objects that are not registered may change at any time. Which operations it may do is a
parameter: all of them, or only those that succeed. In every history, slots and unknowns tell each
other apart and every point is registered under its own id (`History.isBound`).
-/

namespace Drafting.Plane

variable {α : Type}

/-! ### Operations on objects that are there -/

namespace Operation

/-- That the objects of an operation are on a board. -/
def IsOn (b : Board String α) : Operation α → Prop
  | addVariable place => b.Holds (.variable place)
  | addPoint place => b.Holds (.point place)
  | addObject (.item item) => b.Holds item
  | addObject (.value _) => True
  | addConstraint place => b.Holds (.constraint place)
  | setInitial _ | analyze _ | solve | clear => True

variable [Scalar α]

/-- That an operation does not fail. -/
def Succeeds (d : Drawing String α) : Operation α → Prop
  | addVariable place => (d.addVariable (.variable place)).result = .ok ()
  | addPoint place => (d.addPoint (.point place)).result = .ok ()
  | addObject r => (d.addObject r).result = .ok ()
  | setInitial values => (d.setInitial values).result = .ok ()
  | analyze fit => ∃ analysis, d.analyze fit = .ok analysis
  | solve => ∃ solution, d.solve.result = .ok solution
  | addConstraint _ | clear => True

/-- The ids that have been registered since a drawing was last cleared, one after the other. -/
def log (b : Board String α) (before : List String) : Operation α → List String
  | addVariable place => before ++ Drawing.idsOf b (.variable place)
  | addPoint place => before ++ Drawing.idsOf b (.point place)
  | addObject (.item item) => before ++ Drawing.idsOf b item
  | addObject (.value _) | addConstraint _ | setInitial _ | analyze _ | solve => before
  | clear => []

end Operation

/-- That a change of the board leaves the registered objects as they are. -/
structure Drawing.Keeps (d : Drawing String α) (board : Board String α) : Prop where
  unknowns : ∀ place, .variable place ∈ d.unknowns →
    board.unknowns[place]? = d.board.unknowns[place]?
  points : ∀ place, .point place ∈ d.points.values → board.points[place]? = d.board.points[place]?

variable [Scalar α]

/-- The drawings that histories of admitted operations lead to, with the ids that have been
registered since they were last cleared. -/
inductive History (admits : Drawing String α → Operation α → Prop) :
    Drawing String α → List String → Prop
  | start (options : NewtonOptions α) (board : Board String α) :
      History admits (.empty options board) []
  | outside {d : Drawing String α} {log : List String} {board : Board String α} :
      History admits d log → d.Keeps board → History admits { d with board } log
  | operate {d : Drawing String α} {log : List String} (op : Operation α) :
      History admits d log → op.IsOn d.board → admits d op →
        History admits (op.perform d) (op.log d.board log)

/-! ### Boards with the same ids -/

/-- A board with the same constraints, and with unknowns and points under the same ids. -/
structure Board.HasIdsOf (b' b : Board String α) : Prop where
  points : b'.points.map Point.id = b.points.map Point.id
  unknowns : b'.unknowns.map Variable.id = b.unknowns.map Variable.id
  constraints : b'.constraints = b.constraints

namespace Board.HasIdsOf

variable {b b' b'' : Board String α}

omit [Scalar α] in
lemma refl (b : Board String α) : b.HasIdsOf b := ⟨rfl, rfl, rfl⟩

omit [Scalar α] in
lemma trans (second : b''.HasIdsOf b') (first : b'.HasIdsOf b) : b''.HasIdsOf b :=
  ⟨second.points.trans first.points, second.unknowns.trans first.unknowns,
    second.constraints.trans first.constraints⟩

omit [Scalar α] in
lemma length_unknowns (same : b'.HasIdsOf b) : b'.unknowns.length = b.unknowns.length := by
  simpa using congrArg List.length same.unknowns

lemma idOf_eq (same : b'.HasIdsOf b) (item : Item) : b'.idOf item = b.idOf item := by
  refine congrArg Named.ofAny ?_
  cases item with
  | point place =>
    have ids : (b'.points[place]?).map Point.id = (b.points[place]?).map Point.id := by
      rw [← List.getElem?_map, same.points, List.getElem?_map]
    have own (p? : Option (Point String α)) : p?.bind Point.id = (p?.map Point.id).join := by
      cases p? <;> rfl
    rw [idValue, idValue, own, own, ids]
  | «variable» place =>
    have ids : (b'.unknowns[place]?).map Variable.id = (b.unknowns[place]?).map Variable.id := by
      rw [← List.getElem?_map, same.unknowns, List.getElem?_map]
    have own (u? : Option (Variable String α)) : (u?.map fun u => (Named.toValue u.id : Value α)) =
        (u?.map Variable.id).map Named.toValue := by
      cases u? <;> rfl
    rw [idValue, idValue, own, own, ids]
  | constraint place => rw [idValue, idValue, same.constraints]

omit [Scalar α] in
lemma exists_point (same : b'.HasIdsOf b) {place : ℕ} {p : Point String α}
    (there : b.points[place]? = some p) : ∃ p', b'.points[place]? = some p' ∧ p'.id = p.id := by
  have ids := congrArg (fun ids => ids[place]?) same.points
  simp only [List.getElem?_map, there, Option.map_some] at ids
  exact Option.map_eq_some_iff.mp ids

end Board.HasIdsOf

/-! ### Writing numbers -/

omit [Scalar α] in
/-- Changing an item of a list is not seen where the change is not looked at. -/
lemma map_modify_eq {β γ : Type} {g : β → γ} {f : β → β} (kept : ∀ x, g (f x) = g x) (xs : List β)
    (i : ℕ) : (xs.modify i f).map g = xs.map g := by
  refine List.ext_getElem? fun j => ?_
  rw [List.getElem?_map, List.getElem?_map, List.getElem?_modify]
  cases xs[j]? with
  | none => rfl
  | some x => by_cases same : i = j <;> simp [same, kept]

lemma Board.hasIdsOf_put_unknown (b : Board String α) (place : ℕ) {name : String}
    (other : name ≠ "id") (content : Content α) :
    (b.put (.variable place) name content).HasIdsOf b :=
  ⟨rfl, map_modify_eq (fun u => id_put_variable u other content) _ _, rfl⟩

lemma Board.hasIdsOf_put_point (b : Board String α) (place : ℕ) {name : String}
    (other : name ≠ "id") (content : Content α) :
    (b.put (.point place) name content).HasIdsOf b :=
  ⟨map_modify_eq (fun p => id_put_point p other content) _ _, rfl, rfl⟩

namespace Drawing

/-- A drawing whose slots are told apart by the ids of its unknowns, which are on its board, whose
points are registered under their own ids, and which has at most a number for each slot. -/
structure IsBound (d : Drawing String α) : Prop where
  short : d.params.length ≤ d.unknowns.length
  unknown : ∀ item ∈ d.unknowns, ∃ place < d.board.unknowns.length, item = .variable place
  slots : ∀ id slot, d.slots.get? id = some slot ↔
    (d.unknowns[slot]?).map d.board.idOf = some id
  keys : d.slots.keys = d.unknowns.map d.board.idOf
  points : ∀ entry ∈ d.points.entries, ∃ place p, entry.2 = .point place ∧
    d.board.points[place]? = some p ∧ p.id = some entry.1
  constraints : ∀ item ∈ d.constraints, ∃ place, item = .constraint place

section

variable {d : Drawing String α}

/-- Writing numbers into unknowns changes none but unknowns, and no ids. -/
lemma IsBound.writeVariables_hasIdsOf (bound : d.IsBound) :
    d.writeVariables.board.HasIdsOf d.board ∧
      d.writeVariables.board.points = d.board.points := by
  refine List.foldlRecOn (motive := fun b : Board String α => b.HasIdsOf d.board ∧
    b.points = d.board.points) _ _ ⟨.refl _, rfl⟩ ?_
  rintro b ⟨same, points⟩ ⟨item, x⟩ among
  obtain ⟨place, -, rfl⟩ := bound.unknown item (List.of_mem_zip among).1
  exact ⟨(b.hasIdsOf_put_unknown place (by decide) _).trans same, points⟩

/-- Writing the number of a coordinate into a point changes none but points, and no ids. -/
lemma locate_hasIdsOf (d : Drawing String α) (id : String) (place : ℕ) {axis : Kind}
    (among : axis ∈ axes) (b : Board String α) :
    (d.locate id (.point place) axis b).HasIdsOf b ∧
      (d.locate id (.point place) axis b).unknowns = b.unknowns := by
  rw [locate]
  cases d.param? (coordinateId id axis) with
  | none => exact ⟨.refl b, rfl⟩
  | some x =>
    have other : axis.name ≠ "id" := by
      obtain rfl | rfl := eq_or_eq_of_mem_axes among <;> decide
    exact ⟨b.hasIdsOf_put_point place other _, rfl⟩

lemma IsBound.writePoints_hasIdsOf (bound : d.IsBound) :
    d.writePoints.board.HasIdsOf d.board ∧
      d.writePoints.board.unknowns = d.board.unknowns := by
  refine List.foldlRecOn (motive := fun b : Board String α => b.HasIdsOf d.board ∧
    b.unknowns = d.board.unknowns) _ _ ⟨.refl _, rfl⟩ ?_
  rintro b ⟨same, unknowns⟩ ⟨id, item⟩ among
  obtain ⟨place, p, rfl, -, -⟩ := bound.points _ among
  obtain ⟨sameX, unknownsX⟩ := d.locate_hasIdsOf id place x_mem_axes b
  obtain ⟨sameY, unknownsY⟩ :=
    d.locate_hasIdsOf id place y_mem_axes (d.locate id (.point place) .x b)
  exact ⟨(sameY.trans sameX).trans same, (unknownsY.trans unknownsX).trans unknowns⟩

/-! ### Other boards and numbers -/

/-- What is bound stays so on a board where the objects in use have the same ids. -/
lemma IsBound.onBoard (bound : d.IsBound) {board : Board String α}
    (unknowns : ∀ place, .variable place ∈ d.unknowns → place < board.unknowns.length ∧
      board.idOf (.variable place) = d.board.idOf (.variable place))
    (points : ∀ place p, .point place ∈ d.points.values → d.board.points[place]? = some p →
      ∃ p', board.points[place]? = some p' ∧ p'.id = p.id) :
    IsBound { d with board } where
  short := bound.short
  unknown item used := by
    obtain ⟨place, -, rfl⟩ := bound.unknown item used
    exact ⟨place, (unknowns place used).1, rfl⟩
  slots id slot := by
    rw [bound.slots]
    refine Eq.congr_left (Option.map_congr fun item there => ?_)
    have used := List.mem_of_getElem? there
    obtain ⟨place, -, rfl⟩ := bound.unknown item used
    exact (unknowns place used).2.symm
  keys := by
    rw [bound.keys]
    refine List.map_congr_left fun item used => ?_
    obtain ⟨place, -, rfl⟩ := bound.unknown item used
    exact (unknowns place used).2.symm
  points entry used := by
    obtain ⟨place, p, same, there, named⟩ := bound.points entry used
    obtain ⟨p', there', named'⟩ := points place p (same ▸ List.mem_map_of_mem used) there
    exact ⟨place, p', same, there', named'.trans named⟩
  constraints := bound.constraints

lemma IsBound.of_hasIdsOf (bound : d.IsBound) {board : Board String α}
    (same : board.HasIdsOf d.board) : IsBound { d with board } := by
  refine bound.onBoard (fun place used => ⟨?_, same.idOf_eq _⟩) fun place p _ => same.exists_point
  obtain ⟨place', inside, item⟩ := bound.unknown _ used
  rw [Item.variable.inj item, same.length_unknowns]
  exact inside

lemma IsBound.of_keeps (bound : d.IsBound) {board : Board String α} (keeps : d.Keeps board) :
    IsBound { d with board } := by
  refine bound.onBoard (fun place used => ⟨?_, idOf_congr (keeps.unknowns place used)⟩)
    fun place p used there => ⟨p, (keeps.points place used).trans there, rfl⟩
  obtain ⟨place', inside, item⟩ := bound.unknown _ used
  obtain rfl := Item.variable.inj item
  have found := (keeps.unknowns place used).trans (List.getElem?_eq_getElem inside)
  exact (List.getElem?_eq_some_iff.mp found).1

lemma IsBound.withParams (bound : d.IsBound) {params : List α}
    (short : params.length ≤ d.unknowns.length) : IsBound { d with params } :=
  { bound with short }

lemma IsBound.withOptions (bound : d.IsBound) (options : NewtonOptions α) :
    IsBound { d with options } :=
  { bound with }

lemma IsBound.writeVariables (bound : d.IsBound) : d.writeVariables.IsBound :=
  bound.of_hasIdsOf bound.writeVariables_hasIdsOf.1

lemma IsBound.writePoints (bound : d.IsBound) : d.writePoints.IsBound :=
  bound.of_hasIdsOf bound.writePoints_hasIdsOf.1

lemma IsBound.written (bound : d.IsBound) : d.written.IsBound := bound.writeVariables.writePoints

/-! ### Registering -/

variable {d' : Drawing String α} {id : String} {item : Item}

/-- What becomes of a drawing when an object is registered under an id: the slot of the id goes over
to the object, or the object gets a new one, perhaps without a number. -/
inductive Binds (d : Drawing String α) (id : String) (item : Item) : Drawing String α → Prop
  | again {slot : ℕ} {params : List α} : d.slots.get? id = some slot →
      params.length = d.params.length →
      Binds d id item { d with unknowns := d.unknowns.set slot item, params }
  | new {params : List α} : d.slots.get? id = none → d.params.length ≤ params.length →
      params.length ≤ d.params.length + 1 →
      Binds d id item { d with
        slots := d.slots.insert id d.unknowns.length
        unknowns := d.unknowns ++ [item]
        params }

lemma binds_addVariable (d : Drawing String α) (item : Item) :
    d.Binds (d.board.idOf item) item (d.addVariable item).drawing := by
  rw [addVariable, Name.require_eq_ok, given]
  cases found : d.slots.get? (d.board.idOf item) with
  | some slot =>
    simp only [rebind, given]
    split
    · split
      · exact .again found rfl
      · split
        · exact .again found List.length_set
        · exact .again found rfl
    · exact .again found rfl
  | none =>
    simp only [bind, given]
    split
    · exact .new found (by simp) (by simp)
    · exact .new found le_rfl (Nat.le_succ _)

/-- Using an unknown without a fault leaves as many numbers as there are slots. -/
lemma full_addVariable (full : d.params.length = d.unknowns.length)
    (ok : (d.addVariable item).result = .ok ()) :
    (d.addVariable item).drawing.params.length = (d.addVariable item).drawing.unknowns.length := by
  rw [addVariable, Name.require_eq_ok, given] at ok ⊢
  cases found : d.slots.get? (d.board.idOf item) with
  | some slot =>
    rw [found] at ok
    obtain ⟨v, -, step⟩ := given_of_ok ok
    simp only [rebind, step] at ok ⊢
    split at ok
    · cases ok
    · next room =>
      obtain ⟨x, -, step⟩ := given_of_ok ok
      rw [if_neg room, step]
      exact List.length_set.trans (full.trans List.length_set.symm)
  | none =>
    rw [found] at ok
    obtain ⟨x, -, step⟩ := given_of_ok ok
    simp only [Drawing.bind, step]
    rw [done, List.length_append, List.length_append, full]
    rfl

lemma IsBound.slot_lt (bound : d.IsBound) {slot : ℕ} (found : d.slots.get? id = some slot) :
    slot < d.unknowns.length := by
  obtain ⟨item, there, -⟩ := Option.map_eq_some_iff.mp ((bound.slots id slot).mp found)
  exact (List.getElem?_eq_some_iff.mp there).1

/-- The ids of the unknowns after an object has been registered: those before, and at the end the id
of the object if it is not among them. -/
lemma Binds.ids (binds : d.Binds id item d') (bound : d.IsBound)
    (named : d.board.idOf item = id) : d'.unknowns.map d'.board.idOf =
      if id ∈ d.unknowns.map d.board.idOf then d.unknowns.map d.board.idOf
      else d.unknowns.map d.board.idOf ++ [id] := by
  cases binds with
  | @again slot params found length =>
    have there := (bound.slots id slot).mp found
    rw [← List.getElem?_map] at there
    obtain ⟨inside, same⟩ := List.getElem?_eq_some_iff.mp there
    rw [if_pos (List.mem_of_getElem? there), List.map_set, named]
    exact (congrArg _ same.symm).trans (List.set_getElem_self inside)
  | @new params fresh _ _ =>
    rw [if_neg, List.map_append, List.map_singleton, named]
    intro among
    rw [← bound.keys, ← Table.isSome_get?_iff, fresh] at among
    cases among

lemma Binds.isBound (binds : d.Binds id item d') (bound : d.IsBound)
    (unknown : ∃ place < d.board.unknowns.length, item = .variable place)
    (named : d.board.idOf item = id) : d'.IsBound := by
  have ids := binds.ids bound named
  have named_iff (i : ℕ) (id' : String) : (d'.unknowns[i]?).map d'.board.idOf = some id' ↔
      (d'.unknowns.map d'.board.idOf)[i]? = some id' := by rw [List.getElem?_map]
  cases binds with
  | @again slot params found length =>
    have there := (bound.slots id slot).mp found
    rw [← List.getElem?_map] at there
    rw [if_pos (List.mem_of_getElem? there)] at ids
    -- the object has the id of the slot, so that the ids in the slots are those that were there
    refine ⟨?_, ?_, fun id' i => ?_, ids ▸ bound.keys, bound.points, bound.constraints⟩
    · rw [length, List.length_set]
      exact bound.short
    · intro item' used
      obtain before | rfl := List.mem_or_eq_of_mem_set used
      · exact bound.unknown item' before
      · exact unknown
    · rw [named_iff, ids, List.getElem?_map]
      exact bound.slots id' i
  | @new params fresh _ less =>
    have absent : id ∉ d.unknowns.map d.board.idOf := by
      rw [← bound.keys, ← Table.isSome_get?_iff, fresh]
      exact Bool.false_ne_true
    rw [if_neg absent] at ids
    refine ⟨?_, ?_, fun id' i => ?_, ?_, bound.points, bound.constraints⟩
    · rw [List.length_append]
      exact less.trans (Nat.succ_le_succ bound.short)
    · exact List.forall_mem_append.mpr ⟨bound.unknown, List.forall_mem_singleton.mpr unknown⟩
    · -- the new id has the slot after the last, and all others have the slots that they had
      rw [named_iff, ids, List.getElem?_append]
      by_cases own : id = id'
      · subst own
        rw [Table.get?_insert_self, Option.some.injEq]
        split
        · next old =>
          rw [List.length_map] at old
          exact iff_of_false old.ne' fun there => absent (List.mem_of_getElem? there)
        · next beyond =>
          rw [List.length_map] at beyond ⊢
          rw [List.getElem?_singleton]
          split <;> simp <;> omega
      · rw [Table.get?_insert_of_ne own, bound.slots, ← List.getElem?_map]
        split
        · rfl
        · next beyond =>
          rw [List.getElem?_eq_none (Nat.le_of_not_lt beyond)]
          refine iff_of_false nofun fun there => own ?_
          exact (List.mem_singleton.mp (List.mem_of_getElem? there)).symm
    · rw [ids, ← bound.keys]
      have entries : (d.slots.insert id d.unknowns.length).entries =
          d.slots.entries ++ [(id, d.unknowns.length)] :=
        Assoc.set_eq_append (show id ∉ d.slots.keys from bound.keys ▸ absent)
      rw [Table.keys, Assoc.keys, entries, List.map_append]
      rfl

/-! ### Operations -/

lemma IsBound.addVariable (bound : d.IsBound) {place : ℕ}
    (there : d.board.Holds (.variable place)) : (d.addVariable (.variable place)).drawing.IsBound :=
  (d.binds_addVariable _).isBound bound ⟨place, there, rfl⟩ rfl

lemma IsBound.place (bound : d.IsBound) (v : Variable String α) : (d.place v).IsBound := by
  refine bound.of_keeps ⟨fun place used => ?_, fun _ _ => rfl⟩
  obtain ⟨place', inside, same⟩ := bound.unknown _ used
  obtain rfl := Item.variable.inj same
  exact List.getElem?_append_left inside

lemma IsBound.addCoordinate (bound : d.IsBound) (id : String) (item : Item) (axis : Kind) :
    (d.addCoordinate id item axis).drawing.IsBound := by
  rw [Drawing.addCoordinate]
  cases d.coordinateOf id item axis with
  | error fault => exact bound
  | ok v => exact (bound.place v).addVariable (d.lt_length_place v)

lemma IsBound.registerPoint (bound : d.IsBound) {place : ℕ} {p : Point String α}
    (there : d.board.points[place]? = some p) (named : p.id = some id) :
    (d.registerPoint id (.point place)).IsBound :=
  { bound with
    points := fun entry used => by
      obtain rfl | ⟨before, -⟩ := Table.mem_insert used
      · exact ⟨place, p, rfl, there, named⟩
      · exact bound.points entry before }

lemma id_of_usableId {place : ℕ} {p : Point String α} (there : d.board.points[place]? = some p)
    (ok : d.usableId (.point place) = .ok id) : p.id = some id := by
  cases named : p.id with
  | none =>
    rw [usableId_eq_error there (.inl named)] at ok
    cases ok
  | some own => rw [usableId_of_ok ok, idOf_point there named]

lemma IsBound.addPoint (bound : d.IsBound) {place : ℕ} (on : d.board.Holds (.point place)) :
    (d.addPoint (.point place)).drawing.IsBound := by
  rw [Drawing.addPoint]
  cases usable : d.usableId (.point place) with
  | error fault => exact bound
  | ok id =>
    have there := List.getElem?_eq_getElem on
    have first := (bound.registerPoint there (id_of_usableId there usable)).addCoordinate id
      (.point place) .x
    rw [given, Attempt.andThen]
    split
    · exact first.addCoordinate id (.point place) .y
    · exact first

lemma IsBound.addConstraint (bound : d.IsBound) (place : ℕ) :
    (d.addConstraint (.constraint place)).IsBound :=
  { bound with
    constraints := List.forall_mem_append.mpr
      ⟨bound.constraints, List.forall_mem_singleton.mpr ⟨place, rfl⟩⟩ }

lemma IsBound.writeBack (bound : d.IsBound) : d.writeBack.drawing.IsBound := by
  rw [Drawing.writeBack]
  split
  · exact bound.writeVariables
  · exact bound.written

/-- Writing back fails unless there is a number for each slot. -/
lemma writeBack_of_ok (ok : d.writeBack.result = .ok ()) :
    d.unknowns.length ≤ d.params.length ∧ d.writeBack.drawing = d.written := by
  rw [Drawing.writeBack] at ok ⊢
  split at ok
  · cases ok
  · next full =>
    rw [if_neg full]
    exact ⟨Nat.le_of_not_lt full, rfl⟩

lemma IsBound.setInitial (bound : d.IsBound) (values : Value α) :
    (d.setInitial values).drawing.IsBound := by
  rw [Drawing.setInitial_eq]
  cases values.fields? with
  | none => exact bound
  | some fields =>
    obtain ⟨params, length, left⟩ := d.exists_assign_eq fields
    have assigned : (d.assign fields).drawing.IsBound :=
      left ▸ bound.withParams (length.trans_le bound.short)
    simp only [Attempt.andThen]
    split
    · exact assigned.writeBack
    · exact assigned

omit [Scalar α] in
lemma drawing_andThen {β γ : Type} {a : Attempt String α β}
    {f : Drawing String α → β → Attempt String α γ} (kept : ∀ d x, (f d x).drawing = d) :
    (a.andThen f).drawing = a.drawing := by
  rw [Attempt.andThen]
  split
  · exact kept _ _
  · rfl

/-- A solve leaves the drawing as it is, or takes over numbers that it has come to. -/
lemma solve_cases (d : Drawing String α) : d.solve.drawing = d ∨
    ∃ params, params.length ≤ d.params.length ∧ d.solve.drawing = (d.commit params).drawing ∧
      ∀ solution, d.solve.result = .ok solution → (d.commit params).result = .ok () := by
  rw [solve]
  cases d.plan with
  | error fault => exact .inl rfl
  | ok plan =>
    rw [given]
    split
    · exact .inl rfl
    · cases d.demands plan with
      | error fault => exact .inl rfl
      | ok demands =>
        rw [given, solveDemands]
        split
        · exact .inl rfl
        -- where no step may be made, the numbers are written back before the tolerance is asked for
        · refine .inr ⟨d.params, le_rfl, drawing_andThen fun _ _ => rfl, fun solution ok => ?_⟩
          obtain ⟨⟨⟩, committed, -⟩ := Attempt.andThen_of_ok ok
          exact committed
        · exact .inl rfl
        · next maxIterations tolerance _ _ =>
          cases Settings.ofOptions d.options maxIterations tolerance (.of demands d.params) with
          | error fault => exact .inl rfl
          | ok settings =>
            refine .inr ⟨_, length_params_run_le settings demands (.of demands d.params),
              drawing_andThen fun _ _ => rfl, fun solution ok => ?_⟩
            obtain ⟨⟨⟩, committed, -⟩ := Attempt.andThen_of_ok ok
            exact committed

lemma IsBound.solve (bound : d.IsBound) : d.solve.drawing.IsBound := by
  obtain same | ⟨params, length, same, -⟩ := d.solve_cases
  · rw [same]
    exact bound
  · rw [same]
    exact (bound.withParams (length.trans bound.short)).writeBack

lemma isBound_empty (options : NewtonOptions α) (board : Board String α) :
    (empty options board).IsBound :=
  ⟨le_rfl, List.forall_mem_nil _, fun _ _ => ⟨nofun, nofun⟩, rfl, List.forall_mem_nil _,
    List.forall_mem_nil _⟩

/-- Every operation leaves a drawing bound, even if it fails. -/
theorem IsBound.perform (bound : d.IsBound) (op : Operation α) (on : op.IsOn d.board) :
    (op.perform d).IsBound := by
  cases op with
  | addVariable place => exact bound.addVariable on
  | addPoint place => exact bound.addPoint on
  | addObject r =>
    cases r with
    | value v => exact bound
    | item object =>
      cases object with
      | «variable» place => exact bound.addVariable on
      | point place => exact bound.addPoint on
      | constraint place => exact bound
  | addConstraint place => exact bound.addConstraint place
  | setInitial values => exact bound.setInitial values
  | analyze _ => exact bound
  | solve => exact bound.solve
  | clear => exact isBound_empty d.options d.board

end

end Drawing

/-- In every history, whatever fails in its course, a drawing stays bound. -/
theorem History.isBound {admits : Drawing String α → Operation α → Prop} {d : Drawing String α}
    {log : List String} (history : History admits d log) : d.IsBound := by
  induction history with
  | start options board => exact Drawing.isBound_empty options board
  | outside _ keeps ih => exact ih.of_keeps keeps
  | operate op _ on _ ih => exact ih.perform op on

lemma history_handedOver :
    History (fun d op => op.Succeeds d) handedOver ["p.x", "p.y", "p.x"] := by
  refine .operate (.addVariable 0) (.operate (.addPoint 0) (.start _ _) ?_ ?_) ?_ ?_
  · exact Nat.zero_lt_one
  · rfl
  · exact Nat.succ_pos 2
  · rfl

end Drafting.Plane
