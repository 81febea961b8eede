import Drafting.Proofs.Plane.Agreement

/-!
# Calls that fail half-way

A call that takes an object into use, or sets numbers, writes at several places, and may fail
between two of them: then what it has written stays written. Whatever a call comes to, it touches
nothing but the slots of its own ids and its own point (`Drawing.ChangesOnly`). A call that fails
leaves no more behind than that, nothing if it fails before its first write, and of numbers set by
id those before the first that is none (`Call.leaves_of_error`). Slots, unknowns and numbers stay in
step. Still, a point may be left without coordinates, so that a call that fails does not leave
everything as it was (`Call.not_isUntouched`).
-/

namespace Drafting.Plane

variable {α : Type}

namespace Drawing

/-! ### Changes to some slots -/

/-- Whether a slot belongs to none of some ids. -/
def IsApart (d : Drawing String α) (ids : List String) (slot : ℕ) : Prop :=
  ∀ id ∈ ids, d.slots.get? id ≠ some slot

/-- A drawing that another is changed into at no slots but those of some ids, old or new, and with
other points under no ids but some. -/
structure ChangesOnly (d d' : Drawing String α) (ids points : List String) : Prop where
  options : d'.options = d.options
  constraints : d'.constraints = d.constraints
  points : ∀ id ∉ points, d'.points.get? id = d.points.get? id
  slots : ∀ id ∉ ids, d'.slots.get? id = d.slots.get? id
  kept : ∀ id slot, d.slots.get? id = some slot → d'.slots.get? id = some slot
  new : ∀ id slot, d'.slots.get? id = some slot →
    d.slots.get? id = some slot ∨ d.unknowns.length ≤ slot
  length : d.unknowns.length ≤ d'.unknowns.length
  unknowns : ∀ slot item, d.unknowns[slot]? = some item → d.IsApart ids slot →
    d'.unknowns[slot]? = some item
  params : ∀ slot x, slot < d.unknowns.length → d.params[slot]? = some x → d.IsApart ids slot →
    d'.params[slot]? = some x

section

variable {d d' d'' : Drawing String α} {ids ids' points points' : List String}

lemma ChangesOnly.refl (d : Drawing String α) (ids points : List String) :
    d.ChangesOnly d ids points where
  options := rfl
  constraints := rfl
  points _ _ := rfl
  slots _ _ := rfl
  kept _ _ found := found
  new _ _ found := .inl found
  length := le_rfl
  unknowns _ _ there _ := there
  params _ _ _ there _ := there

/-- An old slot that is apart stays so. -/
lemma ChangesOnly.isApart (first : d.ChangesOnly d' ids points) {slot : ℕ}
    (old : slot < d.unknowns.length) (apart : d.IsApart ids' slot) : d'.IsApart ids' slot := by
  intro id among found
  obtain before | fresh := first.new id slot found
  · exact apart id among before
  · exact Nat.not_le_of_lt old fresh

lemma ChangesOnly.trans (first : d.ChangesOnly d' ids points)
    (second : d'.ChangesOnly d'' ids' points') :
    d.ChangesOnly d'' (ids ++ ids') (points ++ points') := by
  have both {slot : ℕ} (old : slot < d.unknowns.length) (apart : d.IsApart (ids ++ ids') slot) :
      d.IsApart ids slot ∧ d'.IsApart ids' slot :=
    ⟨fun id among => apart id (List.mem_append_left _ among),
      first.isApart old fun id among => apart id (List.mem_append_right _ among)⟩
  constructor
  case options => exact second.options.trans first.options
  case constraints => exact second.constraints.trans first.constraints
  case points =>
    intro id other
    rw [List.mem_append, not_or] at other
    exact (second.points id other.2).trans (first.points id other.1)
  case slots =>
    intro id other
    rw [List.mem_append, not_or] at other
    exact (second.slots id other.2).trans (first.slots id other.1)
  case kept => exact fun id slot found => second.kept id slot (first.kept id slot found)
  case new =>
    intro id slot found
    obtain before | fresh := second.new id slot found
    · exact first.new id slot before
    · exact .inr (first.length.trans fresh)
  case length => exact first.length.trans second.length
  case unknowns =>
    intro slot item there apart
    obtain ⟨apart, apart'⟩ := both (List.getElem?_eq_some_iff.mp there).1 apart
    exact second.unknowns slot item (first.unknowns slot item there apart) apart'
  case params =>
    intro slot x old there apart
    obtain ⟨apart, apart'⟩ := both old apart
    have old' := old.trans_le first.length
    exact second.params slot x old' (first.params slot x old there apart) apart'

/-- Another board is no change of slots. -/
lemma ChangesOnly.onBoard (changes : d.ChangesOnly d' ids points) (board : Board String α) :
    d.ChangesOnly { d' with board } ids points :=
  { changes with }

/-! ### Single writes -/

/-- An old slot that goes over to another object, or gets another number. -/
lemma changesOnly_of_found {id : String} {slot : ℕ} (found : d.slots.get? id = some slot)
    {unknowns : List Item} {params : List α} (length : unknowns.length = d.unknowns.length)
    (same : ∀ i ≠ slot, unknowns[i]? = d.unknowns[i]?)
    (same' : ∀ i ≠ slot, params[i]? = d.params[i]?) :
    d.ChangesOnly { d with unknowns, params } [id] [] := by
  have other {i : ℕ} (apart : d.IsApart [id] i) : i ≠ slot := by
    rintro rfl
    exact apart id List.mem_cons_self found
  constructor
  case length => exact length.ge
  case unknowns => exact fun i item there apart => (same i (other apart)).trans there
  case params => exact fun i x _ there apart => (same' i (other apart)).trans there
  case new => exact fun _ _ found => .inl found
  case kept => exact fun _ _ found => found
  all_goals intros; rfl

/-- A new slot, perhaps without a number. -/
lemma changesOnly_of_fresh {id : String} (fresh : d.slots.get? id = none) (item : Item)
    {params : List α} (part : d.params <+: params) :
    d.ChangesOnly { d with
      slots := d.slots.insert id d.unknowns.length
      unknowns := d.unknowns ++ [item]
      params } [id] [] := by
  constructor
  case slots =>
    exact fun id' other => Table.get?_insert_of_ne (List.ne_of_not_mem_cons other).symm _ _
  case kept =>
    intro id' slot found
    rwa [Table.get?_insert_of_ne]
    rintro rfl
    rw [fresh] at found
    cases found
  case new =>
    intro id' slot found
    by_cases same : id = id'
    · subst same
      rw [Table.get?_insert_self] at found
      exact .inr (Option.some.inj found).le
    · rw [Table.get?_insert_of_ne same] at found
      exact .inl found
  case length => exact (List.prefix_append _ _).length_le
  case unknowns =>
    intro slot item' there _
    rwa [List.getElem?_append_left (List.getElem?_eq_some_iff.mp there).1]
  case params =>
    intro slot x _ there _
    rwa [Board.getElem?_of_prefix part (List.getElem?_eq_some_iff.mp there).1]
  all_goals intros; rfl

lemma changesOnly_registerPoint (d : Drawing String α) (id : String) (item : Item) :
    d.ChangesOnly (d.registerPoint id item) [] [id] :=
  { ChangesOnly.refl d [] [id] with
    points := fun _ other => Table.get?_insert_of_ne (List.ne_of_not_mem_cons other).symm _ _ }

end

/-! ### Calls -/

variable [Scalar α]

/-- Using an unknown touches the slot of its id. -/
lemma changesOnly_addVariable (d : Drawing String α) (item : Item) :
    d.ChangesOnly (d.addVariable item).drawing [d.board.idOf item] [] := by
  rw [addVariable, Name.require_eq_ok, given]
  cases found : d.slots.get? (d.board.idOf item) with
  | some slot =>
    have taken (params : List α) (same : ∀ i ≠ slot, params[i]? = d.params[i]?) :
        d.ChangesOnly { d with unknowns := d.unknowns.set slot item, params }
          [d.board.idOf item] [] :=
      changesOnly_of_found found List.length_set
        (fun i other => List.getElem?_set_ne other.symm) same
    simp only [rebind, given]
    split
    · split
      · exact taken _ fun _ _ => rfl
      · split
        · exact taken _ fun i other => List.getElem?_set_ne other.symm
        · exact taken _ fun _ _ => rfl
    · exact taken _ fun _ _ => rfl
  | none =>
    simp only [bind, given]
    split
    · exact changesOnly_of_fresh found item (List.prefix_append _ _)
    · exact changesOnly_of_fresh found item List.prefix_rfl

lemma board_addVariable (d : Drawing String α) (item : Item) :
    (d.addVariable item).drawing.board = d.board := by
  rw [addVariable, Name.require_eq_ok, given]
  cases d.slots.get? (d.board.idOf item) with
  | some slot =>
    simp only [rebind, given]
    split
    · split
      · rfl
      · split <;> rfl
    · rfl
  | none =>
    simp only [bind, given]
    split <;> rfl

omit [Scalar α] in
/-- A new unknown has a place on the board. -/
lemma lt_length_place (d : Drawing String α) (v : Variable String α) :
    d.board.unknowns.length < (d.place v).board.unknowns.length := by
  rw [place, Board.addVariable, List.length_append]
  exact Nat.lt_succ_self _

lemma coordinateOf_of_ok {d : Drawing String α} {id : String} {item : Item} {axis : Kind}
    {v : Variable String α} (ok : d.coordinateOf id item axis = .ok v) :
    v.id = coordinateId id axis ∧ v.value.IsNumeric := by
  obtain ⟨value, -, made⟩ := Except.bind_eq_ok.mp ok
  obtain ⟨kind, -, made⟩ := Except.bind_eq_ok.mp made
  obtain ⟨x, -, made⟩ := Except.bind_eq_ok.mp made
  cases made
  exact ⟨rfl, x, .real x⟩

/-- Using a coordinate touches the slot of its id. -/
lemma changesOnly_addCoordinate (d : Drawing String α) (id : String) (item : Item) (axis : Kind) :
    d.ChangesOnly (d.addCoordinate id item axis).drawing [coordinateId id axis] [] := by
  rw [addCoordinate]
  cases built : d.coordinateOf id item axis with
  | error fault => exact .refl d _ _
  | ok v =>
    have placed : d.ChangesOnly (d.place v) [] [] := (ChangesOnly.refl d [] []).onBoard _
    have used := placed.trans ((d.place v).changesOnly_addVariable
      (.variable d.board.unknowns.length))
    rwa [place, idOf_addVariable, (coordinateOf_of_ok built).1] at used

lemma isPartOf_addCoordinate (d : Drawing String α) (id : String) (item : Item) (axis : Kind) :
    d.board.IsPartOf (d.addCoordinate id item axis).drawing.board := by
  rw [addCoordinate]
  cases d.coordinateOf id item axis with
  | error fault => exact .refl d.board
  | ok v =>
    rw [given, board_addVariable]
    exact d.board.isPartOf_addVariable v

/-- The ids of the coordinates of a point. -/
def coordinateIds (id : String) : List String := [coordinateId id .x, coordinateId id .y]

/-- Using a point touches the slots of its coordinates. -/
lemma changesOnly_addPoint (d : Drawing String α) (item : Item) :
    d.ChangesOnly (d.addPoint item).drawing (coordinateIds (d.board.idOf item))
      [d.board.idOf item] := by
  rw [addPoint]
  cases usable : d.usableId item with
  | error fault => exact .refl d _ _
  | ok id =>
    obtain rfl := usableId_of_ok usable
    generalize d.board.idOf item = id
    have first := (d.changesOnly_registerPoint id item).trans
      ((d.registerPoint id item).changesOnly_addCoordinate id item .x)
    rw [given, Attempt.andThen]
    split
    · exact first.trans (changesOnly_addCoordinate _ id item .y)
    · exact first.trans (.refl _ [coordinateId id .y] [])

lemma isPartOf_addPoint (d : Drawing String α) (item : Item) :
    d.board.IsPartOf (d.addPoint item).drawing.board := by
  rw [addPoint]
  cases d.usableId item with
  | error fault => exact .refl d.board
  | ok id =>
    have first := (d.registerPoint id item).isPartOf_addCoordinate id item .x
    rw [given, Attempt.andThen]
    split
    · exact first.trans (isPartOf_addCoordinate _ id item .y)
    · exact first

/-- Putting numbers into slots touches those of their ids. -/
lemma changesOnly_assign (d : Drawing String α) (fields : List (String × Value α)) :
    d.ChangesOnly (d.assign fields).drawing (fields.map Prod.fst) [] := by
  induction fields generalizing d with
  | nil => exact .refl d [] []
  | cons field rest ih =>
    rw [assign]
    split
    · exact (ChangesOnly.refl d [field.1] []).trans (ih d)
    · next slot found =>
      split
      · exact .refl d _ _
      · next x number =>
        split
        · exact .refl d _ _
        · refine (changesOnly_of_found found rfl (fun _ _ => rfl) fun i other => ?_).trans (ih _)
          exact List.getElem?_set_ne other.symm

/-- Putting numbers into slots changes numbers. -/
lemma exists_assign_eq (d : Drawing String α) (fields : List (String × Value α)) :
    ∃ params : List α, params.length = d.params.length ∧
      (d.assign fields).drawing = { d with params } := by
  induction fields generalizing d with
  | nil => exact ⟨d.params, rfl, rfl⟩
  | cons field rest ih =>
    rw [assign]
    split
    · exact ih d
    · split
      · exact ⟨d.params, rfl, rfl⟩
      · split
        · exact ⟨d.params, rfl, rfl⟩
        · next slot _ _ x _ _ =>
          obtain ⟨params, length, left⟩ := ih { d with params := d.params.set slot x }
          exact ⟨params, length.trans List.length_set, left⟩

/-- Putting numbers into slots fails at the first of them that is no number, or has no room. -/
lemma assign_of_error {d : Drawing String α} {fields : List (String × Value α)} {fault : Fault α}
    (failed : (d.assign fields).result = .error fault) :
    ∃ before bad after slot, fields = before ++ bad :: after ∧
      d.assign before = ⟨(d.assign fields).drawing, .ok ()⟩ ∧ d.slots.get? bad.1 = some slot ∧
      ∀ x, bad.2.toReal = .ok x → d.params.length ≤ slot := by
  induction fields generalizing d with
  | nil => cases failed
  | cons field rest ih =>
    rw [assign] at failed ⊢
    split at failed
    · next free =>
      obtain ⟨before, bad, after, slot, rfl, done, found, wrong⟩ := ih failed
      refine ⟨field :: before, bad, after, slot, rfl, ?_, found, wrong⟩
      rw [assign, free]
      exact done
    · next slot found =>
      split at failed
      · next cause number =>
        refine ⟨[], field, rest, slot, rfl, rfl, found, fun x number' => ?_⟩
        rw [number] at number'
        cases number'
      · next x number =>
        split at failed
        · next short =>
          simp only [if_pos short]
          exact ⟨[], field, rest, slot, rfl, rfl, found, fun _ _ => short⟩
        · next room =>
          obtain ⟨before, bad, after, slot', rfl, done, found', wrong⟩ := ih failed
          refine ⟨field :: before, bad, after, slot', rfl, ?_, found', fun y number' => ?_⟩
          · simp only [assign, found, number, if_neg room] at done ⊢
            exact done
          · have short := wrong y number'
            rwa [List.length_set] at short

lemma assign_append_of_free {d : Drawing String α} {fields rest : List (String × Value α)}
    (free : ∀ field ∈ fields, d.slots.get? field.1 = none) :
    d.assign (fields ++ rest) = d.assign rest := by
  induction fields with
  | nil => rfl
  | cons field others ih =>
    obtain ⟨first, later⟩ := List.forall_mem_cons.mp free
    rw [List.cons_append, assign, ← ih later]
    simp only [first]

/-! ### Drawings in step -/

/-- A registered drawing whose board has a number in every unknown. -/
structure IsInStep (d : Drawing String α) : Prop where
  registered : d.IsRegistered
  numeric : ∀ u ∈ d.board.unknowns, u.value.IsNumeric

namespace IsInStep

variable {d : Drawing String α} (inStep : d.IsInStep)

include inStep

/-- In a drawing in step every unknown of the board can be used. -/
lemma addVariable {place : ℕ} (inside : place < d.board.unknowns.length) :
    ∃ d', d.addVariable (.variable place) = ⟨d', .ok ()⟩ ∧ d'.IsInStep := by
  have there := List.getElem?_eq_getElem inside
  obtain ⟨x, number⟩ := inStep.numeric _ (List.getElem_mem inside)
  obtain ⟨d', slot, step, hands⟩ := inStep.registered.addVariable_eq there number
  refine ⟨d', step, ?_, hands.board ▸ inStep.numeric⟩
  exact hands.isRegistered inStep.registered ⟨place, inside, rfl⟩ (idOf_of_getElem? there)

lemma place {u : Variable String α} (numeric : u.value.IsNumeric) : (d.place u).IsInStep where
  registered := by
    refine inStep.registered.onBoard (fun place there => ?_) fun item there => ?_
    · exact (inStep.registered.lt_of_mem there).trans_le (List.prefix_append _ _).length_le
    · obtain ⟨place, inside, rfl⟩ := inStep.registered.unknown item there
      exact idOf_congr (List.getElem?_append_left inside)
  numeric := List.forall_mem_append.mpr ⟨inStep.numeric, List.forall_mem_singleton.mpr numeric⟩

lemma addCoordinate (id : String) (item : Item) (axis : Kind) :
    (d.addCoordinate id item axis).drawing.IsInStep := by
  rw [Drawing.addCoordinate]
  cases built : d.coordinateOf id item axis with
  | error fault => exact inStep
  | ok v =>
    have placed := inStep.place (coordinateOf_of_ok built).2
    obtain ⟨d', step, inStep'⟩ := placed.addVariable (d.lt_length_place v)
    rw [given, step]
    exact inStep'

lemma registerPoint (id : String) (item : Item) : (d.registerPoint id item).IsInStep :=
  ⟨⟨inStep.registered.full, inStep.registered.unknown, inStep.registered.slots⟩, inStep.numeric⟩

/-- Using a point leaves slots, unknowns and numbers in step, even if it fails. -/
lemma addPoint (item : Item) : (d.addPoint item).drawing.IsInStep := by
  rw [Drawing.addPoint]
  cases d.usableId item with
  | error fault => exact inStep
  | ok id =>
    have first := (inStep.registerPoint id item).addCoordinate id item .x
    rw [given, Attempt.andThen]
    split
    · exact first.addCoordinate id item .y
    · exact first

lemma withParams {params : List α} (length : params.length = d.params.length) :
    IsInStep { d with params } :=
  ⟨⟨length.trans inStep.registered.full, inStep.registered.unknown, inStep.registered.slots⟩,
    inStep.numeric⟩

end IsInStep

end Drawing

/-! ### Calls that fail -/

open Drawing

/-- A call that takes an object into use or sets numbers by id. -/
inductive Call (α : Type) where
  | addVariable (item : Item)
  | addPoint (item : Item)
  | addObject (r : Reference α)
  | setInitial (values : Value α)

namespace Call

variable [Scalar α]

/-- What comes of a call. -/
def attempt (d : Drawing String α) : Call α → Attempt String α Unit
  | addVariable item => d.addVariable item
  | addPoint item => d.addPoint item
  | addObject r => d.addObject r
  | setInitial values => d.setInitial values

/-- The ids whose slots a call is about. -/
def ids (b : Board String α) : Call α → List String
  | addVariable item => [b.idOf item]
  | addPoint item => coordinateIds (b.idOf item)
  | addObject (.item (.variable place)) => [b.idOf (.variable place)]
  | addObject (.item (.point place)) => coordinateIds (b.idOf (.point place))
  | addObject _ => []
  | setInitial values => (values.fields?.getD []).map Prod.fst

/-- The ids whose points a call is about. -/
def points (b : Board String α) : Call α → List String
  | addPoint item => [b.idOf item]
  | addObject (.item (.point place)) => [b.idOf (.point place)]
  | _ => []

/-- Whether the unknowns of a call are on a board. -/
def IsOn (b : Board String α) : Call α → Prop
  | addVariable item => ∃ place < b.unknowns.length, item = .variable place
  | addObject (.item (.variable place)) => place < b.unknowns.length
  | _ => True

/-- Whether a call finds the numbers that it writes back: one for every unknown. -/
def IsSupplied (d : Drawing String α) : Call α → Prop
  | setInitial _ => d.unknowns.length ≤ d.params.length
  | _ => True

/-- Whether a call is bound to fail before it has written anything: for want of an id, by the sort
of an object, or since the first value for an id with a slot is no number. -/
def IsRefused (d : Drawing String α) : Call α → Prop
  | addVariable _ | addObject (.item (.variable _)) => False
  | addPoint item => ∀ id, d.usableId item ≠ .ok id
  | addObject (.item (.point place)) => ∀ id, d.usableId (.point place) ≠ .ok id
  | addObject _ => True
  | setInitial values => ∀ fields, values.fields? = some fields →
      ∃ before bad after, fields = before ++ bad :: after ∧
        (∀ field ∈ before, d.slots.get? field.1 = none) ∧ (d.slots.get? bad.1).isSome ∧
        ∀ x, bad.2.toReal ≠ .ok x

/-- What a call that fails leaves of a drawing. -/
structure Leaves (call : Call α) (d d' : Drawing String α) : Prop where
  changes : d.ChangesOnly d' (call.ids d.board) (call.points d.board)
  board : call.IsSupplied d → d.board.IsPartOf d'.board
  refused : call.IsRefused d → d' = d
  /-- Of numbers set by id those are left that come before the first that is none. -/
  assigned : ∀ values fields, call = .setInitial values → values.fields? = some fields →
    call.IsSupplied d → ∃ before bad after slot, fields = before ++ bad :: after ∧
      d.assign before = ⟨d', .ok ()⟩ ∧ d.slots.get? bad.1 = some slot ∧
      ∀ x, bad.2.toReal = .ok x → d.params.length ≤ slot
  inStep : call.IsOn d.board → d.IsInStep → d'.IsInStep

section

variable {d : Drawing String α} {fault : Fault α}

lemma leaves_addVariable {item : Item} (failed : (d.addVariable item).result = .error fault) :
    (addVariable item).Leaves d (d.addVariable item).drawing where
  changes := d.changesOnly_addVariable item
  board _ := d.board_addVariable item ▸ .refl d.board
  refused := nofun
  assigned := nofun
  inStep := by
    rintro ⟨place, inside, rfl⟩ inStep
    obtain ⟨d', step, -⟩ := inStep.addVariable inside
    rw [step] at failed
    cases failed

lemma leaves_addPoint (d : Drawing String α) (item : Item) :
    (addPoint item).Leaves d (d.addPoint item).drawing where
  changes := d.changesOnly_addPoint item
  board _ := d.isPartOf_addPoint item
  refused refused := by
    cases usable : d.usableId item with
    | error cause =>
      rw [Drawing.addPoint, usable]
      rfl
    | ok id => exact absurd usable (refused id)
  assigned := nofun
  inStep _ inStep := inStep.addPoint item

lemma leaves_self {call : Call α} (uncalled : ∀ values, call = .setInitial values →
    values.fields? = none) : call.Leaves d d where
  changes := .refl d _ _
  board _ := .refl d.board
  refused _ := rfl
  assigned values fields same some := by
    rw [uncalled values same] at some
    cases some
  inStep _ inStep := inStep

lemma isRefused_assign {fields : List (String × Value α)}
    (refused : ∃ before bad after, fields = before ++ bad :: after ∧
      (∀ field ∈ before, d.slots.get? field.1 = none) ∧ (d.slots.get? bad.1).isSome ∧
      ∀ x, bad.2.toReal ≠ .ok x) :
    ∃ fault, d.assign fields = d.fail fault := by
  obtain ⟨before, bad, after, rfl, free, taken, none⟩ := refused
  obtain ⟨slot, found⟩ := Option.isSome_iff_exists.mp taken
  rw [assign_append_of_free free, assign]
  simp only [found]
  cases number : bad.2.toReal with
  | error fault => exact ⟨fault, rfl⟩
  | ok x => exact absurd number (none x)

/-- Numbers are written back if every unknown has one. -/
lemma lt_of_writeBack {d : Drawing String α} (failed : d.writeBack.result = .error fault) :
    d.params.length < d.unknowns.length ∧ d.writeBack.drawing = d.writeVariables := by
  rw [writeBack] at failed ⊢
  split at failed
  · next short => exact ⟨short, by rw [if_pos short]; rfl⟩
  · cases failed

lemma leaves_setInitial {values : Value α}
    (failed : (d.setInitial values).result = .error fault) :
    (setInitial values).Leaves d (d.setInitial values).drawing := by
  rw [Drawing.setInitial_eq] at failed ⊢
  cases some : values.fields? with
  | none => exact leaves_self fun _ same => by cases same; exact some
  | some fields =>
    rw [some] at failed
    obtain ⟨params, length, left⟩ := d.exists_assign_eq fields
    have changes :
        d.ChangesOnly (d.assign fields).drawing ((setInitial values).ids d.board) [] := by
      rw [ids, some]
      exact d.changesOnly_assign fields
    simp only [Attempt.andThen] at failed ⊢
    cases result : (d.assign fields).result with
    | error cause =>
      constructor
      case changes => exact changes
      case board => exact fun _ => left ▸ .refl d.board
      case refused =>
        intro refused
        obtain ⟨fault, same⟩ := isRefused_assign (refused fields some)
        rw [same]
        rfl
      case assigned =>
        rintro _ _ ⟨⟩ given -
        cases some.symm.trans given
        exact assign_of_error result
      case inStep => exact fun _ inStep => left ▸ inStep.withParams length
    | ok =>
      -- all numbers are in their slots, but some unknown has none that could be written back
      simp only [result] at failed
      obtain ⟨short, written⟩ := lt_of_writeBack failed
      rw [left] at short
      replace short : d.params.length < d.unknowns.length := length ▸ short
      rw [written]
      constructor
      case changes => exact changes.onBoard _
      case board => exact fun supplied => absurd short supplied.not_gt
      case refused =>
        intro refused
        obtain ⟨fault, same⟩ := isRefused_assign (refused fields some)
        rw [same] at result
        cases result
      case assigned =>
        rintro _ _ ⟨⟩ _ supplied
        exact absurd short supplied.not_gt
      case inStep => exact fun _ inStep => absurd short inStep.registered.full.ge.not_gt

/-- A call that fails leaves all slots but its own, all points but its own and all objects as they
were, and everything if it fails before it has written anything. -/
theorem leaves_of_error (call : Call α) (d : Drawing String α)
    (failed : (call.attempt d).result = .error fault) : call.Leaves d (call.attempt d).drawing := by
  cases call with
  | addVariable item => exact leaves_addVariable failed
  | addPoint item => exact leaves_addPoint d item
  | setInitial values => exact leaves_setInitial failed
  | addObject r =>
    cases r with
    | value v => exact leaves_self nofun
    | item object =>
      cases object with
      | constraint place => exact leaves_self nofun
      | «variable» place =>
        have left := leaves_addVariable failed
        exact ⟨left.changes, left.board, nofun, nofun, fun on => left.inStep ⟨place, on, rfl⟩⟩
      | point place =>
        have left := leaves_addPoint d (.point place)
        exact ⟨left.changes, left.board, left.refused, nofun, left.inStep⟩

end

/-! ### A point without coordinates -/

/-- A board with a point that has an id but only one coordinate. -/
def halved : Board String Float where
  points := [⟨.real 1, .null, some "p", .flag false, []⟩]
  unknowns := []
  constraints := []

/-- A drawing in which the point is not in use. -/
def beside : Drawing String Float := .empty .standard halved

lemma addPoint_beside : ((addPoint (.point 0)).attempt beside).result =
    .error (.notNumber "NoneType") := rfl

theorem beside_leaves_of_error :
    ((addPoint (.point 0)).attempt beside).result = .error (.notNumber "NoneType") ∧
      (addPoint (.point 0)).Leaves beside ((addPoint (.point 0)).attempt beside).drawing :=
  ⟨addPoint_beside, leaves_of_error (addPoint (.point 0)) beside addPoint_beside⟩

/-- That everything in use is as it was, with all objects on the board. -/
structure IsUntouched (d d' : Drawing String Float) : Prop where
  constraints : d'.constraints = d.constraints
  unknowns : d'.unknowns = d.unknowns
  slots : d'.slots = d.slots
  points : d'.points = d.points
  params : d'.params = d.params
  board : d.board.IsPartOf d'.board

/-- A point that lacks a coordinate is registered nevertheless. -/
theorem not_isUntouched : ¬∀ (d : Drawing String Float) (call : Call Float) (fault : Fault Float),
    (call.attempt d).result = .error fault → IsUntouched d (call.attempt d).drawing := by
  intro atomic
  have untouched := atomic beside (addPoint (.point 0)) _ addPoint_beside
  have found : ((addPoint (.point 0)).attempt beside).drawing.points.get? "p" =
      some (.point 0) := rfl
  rw [untouched.points] at found
  cases found

end Call

end Drafting.Plane
