import Drafting.Proofs.Plane.Registration

/-!
# Numbers that objects show

The numbers of a drawing are kept in its slots, in the values of its unknowns and in the coordinates
of its points. A drawing agrees with the numbers that are told by id if its objects show them
(`Drawing.AgreesWith`), where the coordinates of points may be stale: a slot that is handed to
another unknown does not tell the point that it belongs to. Registering keeps up the agreement.
-/

namespace Drafting.Plane

variable {α : Type} [Scalar α]

namespace Drawing

/-- The axes of a point. -/
def axes : List Kind := [.x, .y]

lemma x_mem_axes : Kind.x ∈ axes := List.mem_cons_self

lemma y_mem_axes : Kind.y ∈ axes := List.mem_cons_of_mem _ List.mem_cons_self

lemma eq_or_eq_of_mem_axes {axis : Kind} (among : axis ∈ axes) : axis = .x ∨ axis = .y := by
  simpa [axes] using among

/-- That every unknown in use shows the number that is told under its id. -/
def ShowsUnknowns (d : Drawing String α) (number? : String → Option α) : Prop :=
  ∀ place, .variable place ∈ d.unknowns → ∃ u x, d.board.unknowns[place]? = some u ∧
    number? u.id = some x ∧ u.value.IsNumber x

/-- That an object is a point with an id, whose coordinates show the numbers that are told under
their ids, unless these are stale. -/
structure ShowsPoint (d : Drawing String α) (number? : String → Option α) (stale : List String)
    (id : String) (item : Item) : Prop where
  held : ∃ place p, item = .point place ∧ d.board.points[place]? = some p ∧ p.id = some id
  coordinate : ∀ axis ∈ axes, ∃ v x, d.board.coordinate item axis = .ok v ∧
    number? (coordinateId id axis) = some x ∧ (v.IsNumber x ∨ coordinateId id axis ∈ stale)

/-- That all objects in use show the numbers that are told by id, but for stale coordinates. -/
structure AgreesWith (d : Drawing String α) (number? : String → Option α) (stale : List String) :
    Prop where
  unknowns : d.ShowsUnknowns number?
  points : ∀ entry ∈ d.points.entries, d.ShowsPoint number? stale entry.1 entry.2

/-- A drawing that is typed and registered. -/
structure IsOrderly (d : Drawing String α) : Prop where
  options : ∃ cap settings, Settings.IsGivenBy settings d.options cap
  board : d.board.IsTyped
  constraints : d.HasConstraints
  registered : d.IsRegistered

/-- What is stale after an object is used: also the id of an unknown, and no longer those of the
coordinates of a point. -/
def staleAfter (d : Drawing String α) (stale : List String) : Item → List String
  | .variable place => d.board.idOf (.variable place) :: stale
  | .point place =>
    match d.usableId (.point place) with
    | .ok _ => stale.filter (· ∉ idsOf d.board (.point place))
    | .error _ => stale
  | .constraint _ => stale

omit [Scalar α] in
lemma coordinate_point {b : Board String α} {place : ℕ} {p : Point String α}
    (there : b.points[place]? = some p) (axis : Kind) :
    b.coordinate (.point place) axis = .ok (if axis = .y then p.y else p.x) := by
  rw [Board.coordinate, there]
  rfl

/-- A point shows its coordinates if these are told. -/
lemma ShowsPoint.of_told {d : Drawing String α} {number? : String → Option α}
    {stale : List String} {id : String} {place : ℕ} {p : Point String α} {x y : α}
    (there : d.board.points[place]? = some p) (named : p.id = some id)
    (toldX : number? (coordinateId id .x) = some x) (numberX : p.x.IsNumber x)
    (toldY : number? (coordinateId id .y) = some y) (numberY : p.y.IsNumber y) :
    d.ShowsPoint number? stale id (.point place) := by
  refine ⟨⟨place, p, rfl, there, named⟩, fun axis among => ?_⟩
  obtain rfl | rfl := eq_or_eq_of_mem_axes among
  · exact ⟨p.x, x, coordinate_point there .x, toldX, .inl numberX⟩
  · exact ⟨p.y, y, coordinate_point there .y, toldY, .inl numberY⟩

/-! ### Other objects on the board -/

/-- That a change of the board leaves the registered objects as they are, and the board typed. -/
structure Spares (d : Drawing String α) (board : Board String α) : Prop where
  typed : board.IsTyped
  unknowns : ∀ place, .variable place ∈ d.unknowns →
    board.unknowns[place]? = d.board.unknowns[place]?
  points : ∀ place, .point place ∈ d.points.values → board.points[place]? = d.board.points[place]?
  constraints : d.board.constraints.length ≤ board.constraints.length

section

variable {d : Drawing String α} {board : Board String α}

/-- What is registered stays so as long as the ids of the unknowns do. -/
lemma IsRegistered.onBoard (registered : d.IsRegistered)
    (inside : ∀ place, .variable place ∈ d.unknowns → place < board.unknowns.length)
    (ids : ∀ item ∈ d.unknowns, board.idOf item = d.board.idOf item) :
    IsRegistered { d with board } where
  full := registered.full
  unknown item there := by
    obtain ⟨place, -, rfl⟩ := registered.unknown item there
    exact ⟨place, inside place there, rfl⟩
  slots id slot := by
    rw [registered.slots]
    refine Eq.congr_left (Option.map_congr fun item there => ?_)
    exact (ids item (List.mem_of_getElem? there)).symm

omit [Scalar α] in
lemma HasConstraints.onBoard (placed : d.HasConstraints)
    (more : d.board.constraints.length ≤ board.constraints.length) :
    HasConstraints { d with board } := by
  intro item used
  obtain ⟨place, inside, rfl⟩ := placed item used
  exact ⟨place, inside.trans_le more, rfl⟩

lemma idOf_congr {b b' : Board String α} {place : ℕ}
    (same : b'.unknowns[place]? = b.unknowns[place]?) :
    b'.idOf (.variable place) = b.idOf (.variable place) := by
  rw [Board.idOf, Board.idOf, Board.idValue, Board.idValue, same]

lemma IsOrderly.onBoard (orderly : d.IsOrderly) (spares : d.Spares board) :
    IsOrderly { d with board } where
  options := orderly.options
  board := spares.typed
  constraints := orderly.constraints.onBoard spares.constraints
  registered := by
    refine orderly.registered.onBoard (fun place there => ?_) fun item there => ?_
    · have inside := orderly.registered.lt_of_mem there
      have found := (spares.unknowns place there).trans (List.getElem?_eq_getElem inside)
      exact (List.getElem?_eq_some_iff.mp found).1
    · obtain ⟨place, -, rfl⟩ := orderly.registered.unknown item there
      exact idOf_congr (spares.unknowns place there)

lemma ShowsUnknowns.onBoard {number? : String → Option α} (shown : d.ShowsUnknowns number?)
    (same : ∀ place, .variable place ∈ d.unknowns →
      board.unknowns[place]? = d.board.unknowns[place]?) :
    ShowsUnknowns { d with board } number? := by
  intro place there
  obtain ⟨u, x, held, told, number⟩ := shown place there
  exact ⟨u, x, (same place there).trans held, told, number⟩

/-- A point goes on showing its numbers as long as it stays as it is, and so do the numbers that are
told, except for those that are stale. -/
lemma ShowsPoint.congr {d' : Drawing String α} {number? number?' : String → Option α}
    {stale stale' : List String} {id : String} {item : Item}
    (shown : d.ShowsPoint number? stale id item)
    (same : ∀ place, item = .point place → d'.board.points[place]? = d.board.points[place]?)
    (told : ∀ axis ∈ axes, number?' (coordinateId id axis) = number? (coordinateId id axis) ∧
        (coordinateId id axis ∈ stale → coordinateId id axis ∈ stale') ∨
      (∃ x, number?' (coordinateId id axis) = some x) ∧ coordinateId id axis ∈ stale') :
    d'.ShowsPoint number?' stale' id item := by
  obtain ⟨place, p, rfl, there, named⟩ := shown.held
  refine ⟨⟨place, p, rfl, (same place rfl).trans there, named⟩, fun axis among => ?_⟩
  obtain ⟨v, x, coordinate, number, either⟩ := shown.coordinate axis among
  have coordinate' : d'.board.coordinate (.point place) axis = .ok v := by
    rw [← coordinate, Board.coordinate, Board.coordinate, same place rfl]
  obtain ⟨equal, kept⟩ | ⟨⟨x', number'⟩, among'⟩ := told axis among
  · exact ⟨v, x, coordinate', equal.trans number, either.imp_right kept⟩
  · exact ⟨v, x', coordinate', number', .inr among'⟩

lemma AgreesWith.onBoard {number? : String → Option α} {stale : List String}
    (agrees : d.AgreesWith number? stale) (spares : d.Spares board) :
    AgreesWith { d with board } number? stale where
  unknowns := agrees.unknowns.onBoard spares.unknowns
  points entry there := by
    refine (agrees.points entry there).congr (fun place same => ?_) fun axis _ => .inl ⟨rfl, id⟩
    exact spares.points place (same ▸ List.mem_map_of_mem there)

end

/-! ### Registering unknowns -/

section

variable {d d' : Drawing String α} {id : String} {item : Item} {slot : ℕ} {x : α}

/-- Handing a slot to an unknown that shows the number put into it keeps up the agreement of the
unknowns. -/
lemma Hands.showsUnknowns (hands : d.Hands d' id item slot x) (registered : d.IsRegistered)
    (shown : d.ShowsUnknowns d.param?) {place : ℕ} (variable_ : item = .variable place)
    {u : Variable String α} (there : d.board.unknowns[place]? = some u) (named : u.id = id)
    (number : u.value.IsNumber x) : d'.ShowsUnknowns d'.param? := by
  intro place' used
  rw [hands.board]
  obtain same | ⟨i, other, found⟩ := hands.mem_unknowns used
  · obtain rfl : place' = place := by
      rw [variable_] at same
      exact Item.variable.inj same
    exact ⟨u, x, there, named ▸ hands.param?_self, number⟩
  · obtain ⟨u', x', there', told, number'⟩ := shown place' (List.mem_of_getElem? found)
    refine ⟨u', x', there', ?_, number'⟩
    rw [hands.param?_of_ne, told]
    -- the id of an unknown that is still registered is not that of the slot
    rintro rfl
    have own : (d.unknowns[i]?).map d.board.idOf = some u'.id := by
      rw [found, Option.map_some, idOf_of_getElem? there']
    exact other (hands.own i ((registered.slots _ _).mpr own))

/-- Handing a slot to another unknown makes the coordinate stale whose slot it was. -/
lemma Hands.showsPoint (hands : d.Hands d' id item slot x) {stale stale' : List String}
    {id' : String} {item' : Item} (shown : d.ShowsPoint d.param? stale id' item')
    (kept : ∀ c ∈ stale, c ≠ id → c ∈ stale')
    (own : ∀ axis ∈ axes, coordinateId id' axis = id → id ∈ stale') :
    d'.ShowsPoint d'.param? stale' id' item' := by
  refine shown.congr (fun place _ => by rw [hands.board]) fun axis among => ?_
  by_cases same : coordinateId id' axis = id
  · exact .inr ⟨⟨x, same ▸ hands.param?_self⟩, same ▸ own axis among same⟩
  · exact .inl ⟨hands.param?_of_ne same, fun before => kept _ before same⟩

lemma Hands.isOrderly (hands : d.Hands d' id item slot x) (orderly : d.IsOrderly)
    (isUnknown : ∃ place < d.board.unknowns.length, item = .variable place)
    (named : d.board.idOf item = id) : d'.IsOrderly where
  options := hands.options ▸ orderly.options
  board := hands.board ▸ orderly.board
  constraints := by
    rw [HasConstraints, hands.constraints, hands.board]
    exact orderly.constraints
  registered := hands.isRegistered orderly.registered isUnknown named

end

/-- Using an unknown keeps up the agreement, but for the coordinate whose id it has. -/
theorem AgreesWith.addVariable {d : Drawing String α} {stale : List String}
    (orderly : d.IsOrderly) (agrees : d.AgreesWith d.param? stale) {place : ℕ}
    (inside : place < d.board.unknowns.length) :
    (d.addVariable (.variable place)).drawing.IsOrderly ∧
      (d.addVariable (.variable place)).drawing.AgreesWith
        (d.addVariable (.variable place)).drawing.param?
        (d.staleAfter stale (.variable place)) := by
  have there := List.getElem?_eq_getElem inside
  obtain ⟨x, number⟩ := orderly.board.unknowns _ (List.getElem_mem inside)
  generalize d.board.unknowns[place] = u at there number
  obtain ⟨d', slot, step, hands⟩ := orderly.registered.addVariable_eq there number
  have named := idOf_of_getElem? there
  rw [step]
  refine ⟨hands.isOrderly orderly ⟨place, inside, rfl⟩ named, ?_, fun entry used => ?_⟩
  · exact hands.showsUnknowns orderly.registered agrees.unknowns rfl there rfl number
  · rw [hands.points] at used
    rw [staleAfter, named]
    refine hands.showsPoint (agrees.points entry used) (fun c before _ => ?_) fun _ _ _ => ?_
    · exact List.mem_cons_of_mem _ before
    · exact List.mem_cons_self

/-! ### Registering points -/

lemma axes_name {axis : Kind} (among : axis ∈ axes) : axis.name.toList.length = 1 := by
  obtain rfl | rfl := eq_or_eq_of_mem_axes among
  · rfl
  · rfl

lemma name_injective : Function.Injective Kind.name := by
  intro axis axis' same
  cases axis <;> cases axis' <;> first | rfl | exact absurd same (by decide)

/-- The ids of coordinates tell points and axes apart. -/
lemma coordinateId_inj {id id' : String} {axis axis' : Kind} (among : axis ∈ axes)
    (among' : axis' ∈ axes) (same : coordinateId id axis = coordinateId id' axis') :
    id = id' ∧ axis = axis' := by
  have texts : (id ++ "." ++ axis.name).toList = (id' ++ "." ++ axis'.name).toList :=
    congrArg String.toList same
  simp only [String.toList_append] at texts
  obtain ⟨fronts, names⟩ :=
    List.append_inj' texts ((axes_name among).trans (axes_name among').symm)
  exact ⟨String.toList_inj.mp (List.append_inj' fronts rfl).1,
    name_injective (String.toList_inj.mp names)⟩

section

variable {d : Drawing String α} {id : String} {item : Item} {axis : Kind} {v : Value α} {x : α}

lemma coordinateOf_eq_ok (coordinate : d.board.coordinate item axis = .ok v)
    (number : v.IsNumber x) :
    d.coordinateOf id item axis = .ok ⟨coordinateId id axis, .real x, .member axis, []⟩ := by
  have kind : (Kind.ofValue (.text axis.name) : Except (Fault α) Kind) = .ok axis := by
    cases axis <;> rfl
  rw [coordinateOf, coordinate]
  show Variable.build (coordinateId id axis) v (.text axis.name) = _
  rw [Variable.build, kind]
  simp only [toReal_eq_ok number, Bind.bind, Except.bind]
  rfl

lemma spares_addVariable (orderly : d.IsOrderly) {u : Variable String α}
    (numeric : u.value.IsNumeric) : d.Spares (d.board.addVariable u) where
  typed :=
    { orderly.board with
      unknowns := List.forall_mem_append.mpr
        ⟨orderly.board.unknowns, List.forall_mem_singleton.mpr numeric⟩ }
  unknowns _ there := List.getElem?_append_left (orderly.registered.lt_of_mem there)
  points _ _ := rfl
  constraints := le_refl _

/-- What using a coordinate of an object makes of a drawing: a number is put under the id of the
coordinate, and the points stay as they are. -/
structure Gains (d d' : Drawing String α) (id : String) (x : α) : Prop where
  orderly : d'.IsOrderly
  unknowns : d'.ShowsUnknowns d'.param?
  points : d'.points = d.points
  places : d'.board.points = d.board.points
  told : d'.param? id = some x
  kept : ∀ id' ≠ id, d'.param? id' = d.param? id'

/-- Using a coordinate that is a number puts the number under its id. -/
lemma IsOrderly.addCoordinate_eq (orderly : d.IsOrderly) (id : String)
    (shown : d.ShowsUnknowns d.param?)
    (coordinate : d.board.coordinate item axis = .ok v) (number : v.IsNumber x) :
    ∃ d', d.addCoordinate id item axis = ⟨d', .ok ()⟩ ∧ d.Gains d' (coordinateId id axis) x := by
  let u : Variable String α := ⟨coordinateId id axis, .real x, .member axis, []⟩
  have spares : d.Spares (d.board.addVariable u) := spares_addVariable orderly ⟨x, .real x⟩
  have placed : (d.place u).IsOrderly := orderly.onBoard spares
  have shown' : (d.place u).ShowsUnknowns (d.place u).param? := shown.onBoard spares.unknowns
  have there : (d.place u).board.unknowns[d.board.unknowns.length]? = some u :=
    List.getElem?_concat_length
  obtain ⟨d', slot, step, hands⟩ := placed.registered.addVariable_eq there (.real x)
  have inside : d.board.unknowns.length < (d.place u).board.unknowns.length :=
    (List.getElem?_eq_some_iff.mp there).1
  refine ⟨d', ?_, ?_⟩
  · rw [addCoordinate, coordinateOf_eq_ok coordinate number]
    exact step
  · constructor
    case orderly => exact hands.isOrderly placed ⟨_, inside, rfl⟩ (idOf_of_getElem? there)
    case unknowns => exact hands.showsUnknowns placed.registered shown' rfl there rfl (.real x)
    case points => exact hands.points
    case places =>
      rw [hands.board]
      rfl
    case told => exact hands.param?_self
    case kept => exact fun id' other => hands.param?_of_ne other

end

section

variable {d : Drawing String α} {place : ℕ} {p : Point String α}
  (there : d.board.points[place]? = some p)

include there

lemma idValue_point :
    d.board.idValue (.point place) = (p.id.map Value.text).getD .null := by
  rw [Board.idValue, there]
  rfl

lemma idOf_point {id : String} (named : p.id = some id) : d.board.idOf (.point place) = id := by
  rw [Board.idOf, idValue_point there, named]
  rfl

lemma usableId_eq_error (unnamed : p.id = none ∨ p.id = some "") :
    d.usableId (.point place) = .error .unregistrable := by
  rw [usableId, idValue_point there]
  obtain none | empty := unnamed
  · rw [none]
    rfl
  · rw [empty]
    rfl

lemma usableId_eq_ok {id : String} (named : p.id = some id) (nonempty : id ≠ "") :
    d.usableId (.point place) = .ok id := by
  have usable : (Value.text id : Value α).truth = .ok true := by
    have : id.isEmpty = false := by simpa using nonempty
    show Except.ok (!id.isEmpty) = _
    rw [this]
    rfl
  have own : d.board.idValue (.point place) = .text id := by
    rw [idValue_point there, named]
    rfl
  rw [usableId, own, usable, idOf_point there named]
  rfl

/-- Using a point makes it show its coordinates; those of other points stay as stale as they
were. -/
lemma AgreesWith.addPoint_of_named (orderly : d.IsOrderly) {stale : List String}
    (agrees : d.AgreesWith d.param? stale) {id : String} (named : p.id = some id)
    (nonempty : id ≠ "") :
    ∃ d', d.addPoint (.point place) = ⟨d', .ok ()⟩ ∧ d'.IsOrderly ∧
      d'.AgreesWith d'.param? (stale.filter (· ∉ idsOf d.board (.point place))) := by
  obtain ⟨⟨x, numberX⟩, ⟨y, numberY⟩⟩ := orderly.board.points p (List.mem_of_getElem? there)
  -- the point is registered first, and its coordinates are used one after the other
  have start : (d.registerPoint id (.point place)).IsOrderly :=
    ⟨orderly.options, orderly.board, orderly.constraints, orderly.registered.full,
      orderly.registered.unknown, orderly.registered.slots⟩
  obtain ⟨d₁, stepX, first⟩ := start.addCoordinate_eq id agrees.unknowns
    (coordinate_point there .x) numberX
  obtain ⟨d₂, stepY, second⟩ := first.orderly.addCoordinate_eq id first.unknowns
    (coordinate_point (first.places ▸ there) .y) numberY
  have places : d₂.board.points = d.board.points := second.places.trans first.places
  have toldX : d₂.param? (coordinateId id .x) = some x := by
    rw [second.kept _ (coordinateId_ne id), first.told]
  refine ⟨d₂, ?_, second.orderly, second.unknowns, fun entry used => ?_⟩
  · rw [addPoint, usableId_eq_ok there named nonempty, given, Attempt.andThen, stepX]
    exact stepY
  · rw [second.points, first.points] at used
    obtain rfl | ⟨before, other⟩ := Table.mem_insert used
    · exact .of_told (places ▸ there) named toldX numberX second.told numberY
    · refine (agrees.points entry before).congr (fun place _ => by rw [places]) fun axis among => ?_
      have apart {axis' : Kind} (among' : axis' ∈ axes) :
          coordinateId entry.1 axis ≠ coordinateId id axis' :=
        fun same => other (coordinateId_inj among among' same).1
      have apartX := apart x_mem_axes
      have apartY := apart y_mem_axes
      refine .inl ⟨?_, fun old => List.mem_filter.mpr ⟨old, ?_⟩⟩
      · rw [second.kept _ apartY, first.kept _ apartX]
        rfl
      · simp [idsOf, idOf_point there named, apartX, apartY]

end

/-- Using a point keeps up the agreement; one without an id is not used. -/
theorem AgreesWith.addPoint {d : Drawing String α} (orderly : d.IsOrderly) {stale : List String}
    (agrees : d.AgreesWith d.param? stale) {place : ℕ} (inside : place < d.board.points.length) :
    (d.addPoint (.point place)).drawing.IsOrderly ∧
      (d.addPoint (.point place)).drawing.AgreesWith (d.addPoint (.point place)).drawing.param?
        (d.staleAfter stale (.point place)) := by
  have there := List.getElem?_eq_getElem inside
  generalize d.board.points[place] = p at there
  rw [staleAfter]
  by_cases unnamed : p.id = none ∨ p.id = some ""
  · have unused := usableId_eq_error there unnamed
    rw [Drawing.addPoint, unused]
    exact ⟨orderly, agrees⟩
  · rw [not_or] at unnamed
    obtain ⟨id, named⟩ := Option.ne_none_iff_exists'.mp unnamed.1
    have nonempty : id ≠ "" := fun empty => unnamed.2 (empty ▸ named)
    obtain ⟨d', step, orderly', agrees'⟩ := agrees.addPoint_of_named there orderly named nonempty
    rw [step, usableId_eq_ok there named nonempty]
    exact ⟨orderly', agrees'⟩

end Drawing

end Drafting.Plane
