import Drafting.Plane.Solution
import Drafting.Proofs.Plane.Growth
import Drafting.Proofs.Plane.Padding

/-!
# Plans of drawings that have grown

A plan is made of the constraints in use and of what they refer to. Growth leaves both as they are,
so that a drawing that has grown has the plan it had before (`Drawing.Extends.plan_eq`), and its
rows make the same demands, on the slots that were there before (`Drawing.Extends.demands_eq`).
-/

namespace Drafting.Plane

variable {α : Type}

/-! ### Plans -/

namespace Drawing

variable {d d' : Drawing String α} {items : List Item} {extra : List α}

lemma registeredId?_of_ok {p : Point String α} {id : String}
    (ok : d.registeredId? p = .ok (some id)) : p.id = some id := by
  rw [registeredId?] at ok
  cases named : p.id with
  | none =>
    rw [named] at ok
    cases ok
  | some own =>
    rw [named] at ok
    obtain ⟨-, ok⟩ := Except.bind_unit_eq_ok.mp ok
    split at ok
    · exact Except.ok.inj ok
    · cases ok

variable [Scalar α]

/-- A registered point is found in its slots. -/
lemma sourceOfPoint_of_registered {p : Point String α} {id : String} (named : p.id = some id)
    (registered : d.points.contains id = true) : d.sourceOfPoint p = .ok (d.slotsOf? id) := by
  have found : d.registeredId? p = .ok (some id) := by
    rw [registeredId?, named]
    exact congrArg Except.ok (if_pos registered)
  rw [sourceOfPoint, found]
  rfl

lemma Extends.slotsOf?_eq (extends_ : d.Extends d' items extra) {point : String}
    (named : d.Mentions point) : d'.slotsOf? point = d.slotsOf? point := by
  rw [slotsOf?, slotsOf?, extends_.slots point named .x (.inl rfl),
    extends_.slots point named .y (.inr rfl)]

/-- A point that a constraint names is found where it was before. -/
lemma Extends.sourceOfPoint_eq (extends_ : d.Extends d' items extra) {p : Point String α}
    (named : ∀ id, p.id = some id → d.Mentions id) : d'.sourceOfPoint p = d.sourceOfPoint p := by
  have registered : d'.registeredId? p = d.registeredId? p := by
    rw [registeredId?, registeredId?]
    split
    · rfl
    · next id own => rw [extends_.points id (named id own)]
  rw [sourceOfPoint, sourceOfPoint, registered]
  refine Except.bind_congr_of_ok fun id? found => ?_
  cases id? with
  | none => rfl
  | some id =>
    have own := registeredId?_of_ok found
    exact congrArg Except.ok (extends_.slotsOf?_eq (named id own))

/-- What a constraint refers to is found where it was before. -/
lemma Extends.source?_eq (extends_ : d.Extends d' items extra) (placed : d.IsPlaced)
    {r : Reference α} (referred : d.Refers r) : d'.source? r = d.source? r := by
  cases r with
  | item object =>
    cases object with
    | constraint place => rfl
    | «variable» place => rfl
    | point place =>
      have there := Board.getElem?_of_prefix extends_.board.points (placed.reference place referred)
      rw [source?, source?, there]
      cases found : d.board.points[place]? with
      | none => rfl
      | some p =>
        refine extends_.sourceOfPoint_eq fun id named => ⟨_, referred, ?_⟩
        rw [Board.nameOf?, found]
        exact named
  | value v =>
    cases text : Name.text? v with
    | none => rw [source?, source?, text, Option.bind_none, Option.bind_none]
    | some id =>
      have named : d.Mentions id := ⟨_, referred, text⟩
      rw [source?, source?, text]
      exact congrArg Except.ok (extends_.slotsOf?_eq named)

/-- What standing a constraint has is told by its fields and by where its points are found. -/
lemma standing_congr {item : Item} (idValue : d'.board.idValue item = d.board.idValue item)
    (fields : ∀ {β : Type} (own : Constraint α → β) (name : String) (other : Content α → β),
      d'.board.ofConstraint item own name other = d.board.ofConstraint item own name other)
    (sources : ∀ content, d.board.references item = .ok content → ∀ count refs,
      content.front count = .ok refs → ∀ r ∈ refs, d'.source? r = d.source? r) (position : ℕ) :
    d'.standing position item = d.standing position item := by
  have label : d'.label position item = d.label position item := by
    rw [Drawing.label, Drawing.label, idValue, Board.relation, fields]
    rfl
  rw [standing, standing, label]
  simp only [Board.enabled, Board.relation, Board.references, fields]
  -- what is left is where the references are found
  refine Except.bind_congr_of_ok fun enabled _ => Except.bind_congr_of_ok fun truth _ => ?_
  split
  · refine Except.bind_congr_of_ok fun label _ => Except.bind_congr_of_ok fun relation _ => ?_
    refine Except.bind_congr_of_ok fun relation? _ => ?_
    split
    · rfl
    · refine Except.bind_congr_of_ok fun content referred => ?_
      refine Except.bind_congr_of_ok fun refs first => ?_
      rw [Except.mapM_congr (sources content referred _ refs first)]
  · rfl

lemma Extends.standing_eq (extends_ : d.Extends d' items extra) (placed : d.IsPlaced)
    {item : Item} (used : item ∈ d.constraints) (position : ℕ) :
    d'.standing position item = d.standing position item := by
  have there := placed.constraint item used
  refine standing_congr (extends_.board.idValue_eq there) (extends_.board.ofConstraint_eq there)
    (fun content referred count refs first r among => ?_) position
  exact extends_.source?_eq placed ⟨item, used, content, referred, count, refs, first, among⟩

/-- A constraint that is enabled and laid out stands as its references are found. -/
lemma standing_cases {position : ℕ} {item : Item} {standing : Standing α}
    (ok : d.standing position item = .ok standing) :
    standing = .disabled ∨ (∃ label, standing = .unsupported label) ∨
      ∃ label layout content refs sources, d.board.references item = .ok content ∧
        content.front layout.points = .ok refs ∧ refs.mapM d.source? = .ok sources ∧
        standing = standingOf label layout item sources := by
  obtain ⟨enabled, -, ok⟩ := Except.bind_eq_ok.mp ok
  obtain ⟨truth, -, ok⟩ := Except.bind_eq_ok.mp ok
  split at ok
  · obtain ⟨label, -, ok⟩ := Except.bind_eq_ok.mp ok
    obtain ⟨relation, -, ok⟩ := Except.bind_eq_ok.mp ok
    obtain ⟨relation?, -, ok⟩ := Except.bind_eq_ok.mp ok
    split at ok
    · exact .inr (.inl ⟨label, (Except.ok.inj ok).symm⟩)
    · next layout _ =>
      obtain ⟨content, referred, ok⟩ := Except.bind_eq_ok.mp ok
      obtain ⟨refs, first, ok⟩ := Except.bind_eq_ok.mp ok
      obtain ⟨sources, located, ok⟩ := Except.bind_eq_ok.mp ok
      refine .inr (.inr ⟨label, layout, content, refs, sources, referred, first, located, ?_⟩)
      exact (Except.ok.inj ok).symm
  · exact .inl (Except.ok.inj ok).symm

/-- A row has the constraint that it comes from, and the points that its references are found to
be. -/
lemma row_of_standing {position : ℕ} {item : Item} {row : Row α}
    (ok : d.standing position item = .ok (.planned row)) :
    row.constraint = item ∧ ∀ s ∈ row.sources, ∃ r, d.source? r = .ok (some s) := by
  obtain none | ⟨label, none⟩ | ⟨label, layout, content, refs, sources, -, -, located, planned⟩ :=
    standing_cases ok
  · cases none
  · cases none
  · rw [standingOf] at planned
    split at planned
    · cases planned
      refine ⟨rfl, fun s there => ?_⟩
      obtain ⟨s?, among, found⟩ := List.mem_filterMap.mp there
      obtain ⟨r, -, source⟩ := Except.exists_of_mem_mapM located among
      rw [id_eq] at found
      exact ⟨r, found ▸ source⟩
    · cases planned

/-- A drawing that has grown has the plan that it had before. -/
theorem Extends.plan_eq (extends_ : d.Extends d' items extra) (placed : d.IsPlaced) :
    d'.plan = d.plan := by
  rw [plan, plan, extends_.constraints]
  refine Except.mapM_congr fun (item, position) there => ?_
  exact extends_.standing_eq placed (List.fst_mem_of_mem_zipIdx there) position

end Drawing

/-! ### Rows -/

lemma Plan.mem_of_mem_rows {plan : Plan α} {row : Row α}
    (there : row ∈ plan.rows) : .planned row ∈ plan := by
  obtain ⟨standing, among, planned⟩ := List.mem_filterMap.mp there
  split at planned
  · cases planned
    exact among
  · cases planned

lemma Source.check_eq_ok {count : ℕ} {s : Source α} (within : s.IsWithin count) :
    s.check count = .ok s := by
  cases s with
  | constant x y => rfl
  | slots x y =>
    obtain ⟨insideX, insideY⟩ := within
    rw [check, if_neg (Nat.not_le_of_lt insideX), if_neg (Nat.not_le_of_lt insideY)]

lemma Source.isWithin_of_check_eq_ok {count : ℕ} {s s' : Source α} (ok : s.check count = .ok s') :
    s'.IsWithin count := by
  cases s with
  | constant x y =>
    cases ok
    exact trivial
  | slots x y =>
    rw [check] at ok
    split at ok
    · cases ok
    · split at ok
      · cases ok
      · cases ok
        constructor <;> omega

lemma Source.IsWithin.mono {count count' : ℕ} (more : count ≤ count') {s : Source α}
    (within : s.IsWithin count) : s.IsWithin count' := by
  cases s with
  | constant x y => exact within
  | slots x y => exact ⟨within.1.trans_le more, within.2.trans_le more⟩

variable [Scalar α]

namespace Drawing

variable {d d' : Drawing String α} {items : List Item} {extra : List α}

section

variable {count : ℕ} (slots : ∀ id slot, d.slots.get? id = some slot → slot < count)

include slots

omit [Scalar α] in
lemma isWithin_of_slotsOf? {id : String} {s : Source α} (found : d.slotsOf? id = some s) :
    s.IsWithin count := by
  obtain ⟨x, foundX, rest⟩ := Option.bind_eq_some_iff.mp found
  obtain ⟨y, foundY, made⟩ := Option.bind_eq_some_iff.mp rest
  obtain rfl := Option.some.inj made
  exact ⟨slots _ x foundX, slots _ y foundY⟩

/-- What a constraint refers to is found in slots that there are. -/
lemma isWithin_of_source? {r : Reference α} {s : Source α} (ok : d.source? r = .ok (some s)) :
    s.IsWithin count := by
  unfold source? at ok
  split at ok
  · split at ok
    · next p _ =>
      obtain ⟨id?, -, ok⟩ := Except.bind_eq_ok.mp ok
      cases id? with
      | some id => exact isWithin_of_slotsOf? slots (Except.ok.inj ok)
      | none =>
        obtain ⟨x, -, ok⟩ := Except.bind_eq_ok.mp ok
        obtain ⟨y, -, ok⟩ := Except.bind_eq_ok.mp ok
        cases ok
        exact True.intro
    · cases ok
  · next v =>
    obtain ⟨id, -, found⟩ := Option.bind_eq_some_iff.mp (Except.ok.inj ok)
    exact isWithin_of_slotsOf? slots found
  · cases ok

end

/-- The rows of a plan are those of constraints in use, with the points that references are found
to be. -/
lemma row_of_plan {plan : Plan α} (ok : d.plan = .ok plan) {row : Row α}
    (there : row ∈ plan.rows) :
    row.constraint ∈ d.constraints ∧ ∀ s ∈ row.sources, ∃ r, d.source? r = .ok (some s) := by
  have among := Plan.mem_of_mem_rows there
  obtain ⟨⟨item, position⟩, used, made⟩ := Except.exists_of_mem_mapM ok among
  obtain ⟨rfl, found⟩ := row_of_standing made
  exact ⟨List.fst_mem_of_mem_zipIdx used, found⟩

/-- The rows of a plan have points that are found in slots that there are. -/
lemma IsPlaced.row_of_plan (placed : d.IsPlaced) {plan : Plan α} (ok : d.plan = .ok plan)
    {row : Row α} (there : row ∈ plan.rows) :
    row.constraint ∈ d.constraints ∧ ∀ s ∈ row.sources, s.IsWithin d.unknowns.length := by
  obtain ⟨used, found⟩ := Drawing.row_of_plan ok there
  refine ⟨used, fun s among => ?_⟩
  obtain ⟨r, source⟩ := found s among
  exact isWithin_of_source? placed.slots source

/-- The rows of a plan make the demands that they made before. -/
theorem Extends.demands_eq (extends_ : d.Extends d' items extra) (placed : d.IsPlaced)
    (full : d.params.length = d.unknowns.length) {plan : Plan α} (planned : d.plan = .ok plan) :
    d'.demands plan = d.demands plan := by
  refine Except.mapM_congr fun row among => ?_
  obtain ⟨used, within⟩ := placed.row_of_plan planned among
  rw [← full] at within
  have there := placed.constraint _ used
  have relation_eq : d'.board.relation row.constraint = d.board.relation row.constraint :=
    extends_.board.ofConstraint_eq there _ _ _
  have target_eq : d'.board.target row.constraint = d.board.target row.constraint :=
    extends_.board.ofConstraint_eq there _ _ _
  have more : d.params.length ≤ d'.params.length := by
    rw [extends_.params, List.length_append]
    exact Nat.le_add_right _ _
  have checks : row.sources.mapM (Source.check d'.params.length) =
      row.sources.mapM (Source.check d.params.length) :=
    Except.mapM_congr fun s there => by
      rw [Source.check_eq_ok (within s there), Source.check_eq_ok ((within s there).mono more)]
  rw [Row.demand, Row.demand, relation_eq, target_eq, checks]

end Drawing

/-! ### Demands -/

omit [Scalar α] in
lemma Source.eq_of_check_eq_ok {count : ℕ} {s s' : Source α} (ok : s.check count = .ok s') :
    s' = s := by
  cases s with
  | constant x y => exact (Except.ok.inj ok).symm
  | slots x y =>
    rw [check] at ok
    split at ok
    · cases ok
    · split at ok
      · cases ok
      · exact (Except.ok.inj ok).symm

omit [Scalar α] in
/-- A check leaves points as they are. -/
lemma Source.eq_of_mapM_check_eq_ok {count : ℕ} {sources sources' : List (Source α)}
    (ok : sources.mapM (Source.check count) = .ok sources') : sources = sources' := by
  rw [← List.forall₂_eq_eq_eq]
  exact (Except.mapM_eq_ok.mp ok).imp fun s s' checked => (eq_of_check_eq_ok checked).symm

/-- The points of a demand are the first ones of its row. -/
lemma Row.sources_of_demand_eq_ok {b : Board String ℝ} {count : ℕ} {row : Row ℝ}
    {demand : Demand ℝ} (ok : row.demand b count = .ok demand) :
    demand.sources <+: row.sources ∧ ∀ s ∈ row.sources, s.IsWithin count := by
  obtain ⟨relation, -, ok⟩ := Except.bind_eq_ok.mp ok
  obtain ⟨target, -, ok⟩ := Except.bind_eq_ok.mp ok
  obtain ⟨sources, found, ok⟩ := Except.bind_eq_ok.mp ok
  have within : ∀ s ∈ sources, s.IsWithin count := by
    intro s there
    obtain ⟨s', -, checked⟩ := Except.exists_of_mem_mapM found there
    exact Source.isWithin_of_check_eq_ok checked
  rw [Source.eq_of_mapM_check_eq_ok found]
  refine ⟨?_, within⟩
  split at ok
  · obtain ⟨anchor, -, ok⟩ := Except.bind_eq_ok.mp ok
    cases ok
    exact ⟨_, rfl⟩
  · obtain ⟨goal, -, ok⟩ := Except.bind_eq_ok.mp ok
    cases ok
    exact ⟨_, rfl⟩
  · cases ok
    exact ⟨_, rfl⟩
  · cases ok
    exact ⟨_, rfl⟩
  · cases ok
    exact ⟨_, rfl⟩
  · cases ok

/-- Demands are on the slots that there are. -/
lemma Row.isWithin_of_demand_eq_ok {b : Board String ℝ} {count : ℕ} {row : Row ℝ}
    {demand : Demand ℝ} (ok : row.demand b count = .ok demand) : demand.IsWithin count := by
  obtain ⟨front, within⟩ := Row.sources_of_demand_eq_ok ok
  exact fun s there => within s (front.subset there)

lemma Drawing.isWithin_of_demands_eq_ok {d : Drawing String ℝ} {plan : Plan ℝ}
    {demands : List (Demand ℝ)} (ok : d.demands plan = .ok demands) :
    ∀ demand ∈ demands, demand.IsWithin d.params.length := by
  intro demand there
  obtain ⟨row, -, made⟩ := Except.exists_of_mem_mapM ok there
  exact Row.isWithin_of_demand_eq_ok made

end Drafting.Plane
