import Drafting.Proofs.Sketch.Reachable
import Mathlib.Data.List.Forall2

/-!
# Sketches that are written and read back

The record of a sketch that operations lead to is that of a sketch like it, and reading the record
gives this one: the same options, entities and constraints in the same order, up to the signs of
priorities that are zero. Whatever a sketch is read from, its record is read as a sketch with the
same record (`Sketch.ofRecord_toRecord_isLike`). Ids are texts here, but not the names of the
parameters of a spline, of which a record keeps apart the integer 1 and the text that writes it.
-/

namespace Drafting.Sketch

section

variable {ν α : Type} [Name ν] [Scalar α]

/-- A sketch that is another but for the signs of priorities that are zero. -/
structure IsLike (s' s : Sketch ν α α) : Prop where
  options : s'.options = s.options
  entities : s'.entities = s.entities
  constraints : List.Forall₂ (fun entry' entry => entry'.1 = entry.1 ∧ entry'.2.IsLike entry.2)
    s'.constraints.entries s.constraints.entries

omit [Name ν] [Scalar α] in
lemma requireRecords_eq_ok (name : String) (index : ℕ) {items : List (Value α)}
    (all : ∀ item ∈ items, item.isRecord = true) : requireRecords name index items = .ok () := by
  induction items generalizing index with
  | nil => rfl
  | cons item rest ih =>
    obtain ⟨first, others⟩ := List.forall_mem_cons.mp all
    rw [requireRecords, if_pos first, ih _ others]

/-! ### Tables by id -/

section

variable {μ : Type} {id : μ → ν} {P : μ → Prop}

/-- The table of things by their ids. -/
def byId (id : μ → ν) (xs : List μ) : Table ν μ := .ofList (xs.map fun x => (id x, x))

lemma entries_byId {xs : List μ} (distinct : Assoc.Distinct (xs.map id)) :
    (byId id xs).entries = xs.map fun x => (id x, x) := by
  apply Table.entries_ofList_of_distinct
  rw [List.map_map]
  exact distinct

lemma Holds.map_values {t : Table ν μ} (holds : Holds id P t) :
    (t.values.map fun x => (id x, x)) = t.entries := by
  rw [Table.values, List.map_map]
  conv_rhs => rw [← List.map_id t.entries]
  exact List.map_congr_left fun entry there => Prod.ext (holds entry there).1 rfl

lemma Holds.map_id {t : Table ν μ} (holds : Holds id P t) : t.values.map id = t.keys := by
  rw [Table.keys, Assoc.keys, ← holds.map_values, List.map_map]
  rfl

lemma Holds.byId_values {t : Table ν μ} (holds : Holds id P t) : byId id t.values = t := by
  apply Table.eq_of_entries_eq
  rw [entries_byId (holds.map_id ▸ t.distinct), holds.map_values]

lemma Holds.of_mem_values {t : Table ν μ} (holds : Holds id P t) {x : μ} (there : x ∈ t.values) :
    P x := by
  obtain ⟨entry, held, rfl⟩ := List.mem_map.mp there
  exact (holds entry held).2

end

/-! ### Reading what has been written -/

variable [Named ν α]

/-- The fields of the record of a sketch. -/
def fieldsOf (options : DescentOptions α) (es : List (Entity ν α)) (records : List (Value α)) :
    List (String × Value α) :=
  [("options", .record options.toFields), ("entities", .list (es.map Entity.toRecord)),
    ("constraints", .list records)]

lemma sectionRecords_fieldsOf (options : DescentOptions α) (es : List (Entity ν α))
    {records : List (Value α)} (listed : ∀ record ∈ records, record.isRecord = true) :
    sectionRecords (fieldsOf options es records) "entities" =
        (.ok (es.map Entity.toRecord) : Except (Fault α) _) ∧
      sectionRecords (fieldsOf options es records) "constraints" = .ok records := by
  have entities : ∀ record ∈ es.map (Entity.toRecord : Entity ν α → Value α),
      record.isRecord = true := by
    intro record there
    obtain ⟨e, -, rfl⟩ := List.mem_map.mp there
    rw [e.toRecord_eq]
    rfl
  constructor
  · show (do requireRecords "entities" 0 _; return es.map Entity.toRecord) = _
    rw [requireRecords_eq_ok "entities" 0 entities]
    rfl
  · show (do requireRecords "constraints" 0 records; return records) = _
    rw [requireRecords_eq_ok "constraints" 0 listed]
    rfl

variable [Headroom] [LawfulNamed ν α]

lemma addEntityRecords_eq_ok (s : Sketch ν α α) {es : List (Entity ν α)}
    (texts : ∀ e ∈ es, Name.IsText e.id) : s.addEntityRecords (es.map Entity.toRecord) =
      .ok { s with entities := es.foldl (fun t e => t.insert e.id e) s.entities } := by
  induction es generalizing s with
  | nil => rfl
  | cons e rest ih =>
    obtain ⟨first, others⟩ := List.forall_mem_cons.mp texts
    rw [List.map_cons, addEntityRecords, Entity.ofRecord_toRecord first]
    simp only [bind, Except.bind, addEntity, LawfulNamed.require_of_isText α first]
    exact ih _ others

lemma addConstraintRecords_eq_ok (s : Sketch ν α α) {records : List (Value α)}
    {cs : List (Constraint ν α)}
    (read : List.Forall₂ (fun record c => Constraint.ofRecord record = .ok c) records cs) :
    s.addConstraintRecords records =
      .ok { s with constraints := cs.foldl (fun t c => t.insert c.id c) s.constraints } := by
  induction read generalizing s with
  | nil => rfl
  | cons first _ ih =>
    have text := (Constraint.isTyped_of_ofRecord first).2.id
    rw [addConstraintRecords, first]
    simp only [bind, Except.bind, addConstraint, LawfulNamed.require_of_isText α text]
    exact ih _

/-- The record of options, entities and constraints is read as a sketch of these. -/
lemma ofRecord_fieldsOf {options : DescentOptions α} (copied : options.requireCopy = .ok ())
    {es : List (Entity ν α)} (texts : ∀ e ∈ es, Name.IsText e.id)
    {records : List (Value α)} {cs : List (Constraint ν α)}
    (listed : ∀ record ∈ records, record.isRecord = true)
    (read : List.Forall₂ (fun record c => Constraint.ofRecord record = .ok c) records cs) :
    ofRecord (.record (fieldsOf options es records)) none =
      .ok ⟨options, byId Entity.id es, byId Constraint.id cs⟩ := by
  obtain ⟨entities, constraints⟩ := sectionRecords_fieldsOf options es listed
  have settled : optionsFor (fieldsOf options es records) none = .ok options :=
    options.ofValue_toFields
  rw [ofRecord]
  dsimp only [Value.fields?]
  rw [settled, entities, constraints]
  simp only [bind, Except.bind, copied, addEntityRecords_eq_ok _ texts,
    addConstraintRecords_eq_ok _ read, byId, Table.ofList, List.foldl_map]
  rfl

/-- Typed constraints are read as they have been written, but for the signs of priorities that are
zero, and the constraints that are read have the same records. -/
lemma exists_reread (zero : Scalar.isZero (0 : α) = true) {cs : List (Constraint ν α)}
    (typed : ∀ c ∈ cs, c.IsTyped ∧ c.IsNamed) :
    ∃ records cs', cs.mapM Constraint.toRecord = .ok records ∧
      (∀ record ∈ records, record.isRecord = true) ∧
      List.Forall₂ (fun record c => Constraint.ofRecord record = .ok c) records cs' ∧
      List.Forall₂ Constraint.IsLike cs' cs ∧ cs'.mapM Constraint.toRecord = .ok records := by
  simp only [Except.mapM_eq_ok]
  induction cs with
  | nil => exact ⟨[], [], .nil, List.forall_mem_nil _, .nil, .nil, .nil⟩
  | cons c rest ih =>
    obtain ⟨first, others⟩ := List.forall_mem_cons.mp typed
    obtain ⟨record, c', written, isRecord, read, like, again⟩ :=
      Constraint.exists_ofRecord_toRecord zero first.1 first.2
    obtain ⟨records, cs', written', areRecords, read', like', again'⟩ := ih others
    exact ⟨record :: records, c' :: cs', .cons written written',
      List.forall_mem_cons.mpr ⟨isRecord, areRecords⟩, .cons read read', .cons like like',
      .cons again again'⟩

/-- A sketch whose parts are stored under their ids is read as it has been written, but for the
signs of priorities that are zero. -/
lemma IsStored.exists_toRecord (zero : Scalar.isZero (0 : α) = true) {s : Sketch ν α α}
    (stored : s.IsStored) : ∃ record s', s.toRecord = .ok record ∧
      ofRecord record none = .ok s' ∧ s'.IsLike s ∧ s'.toRecord = .ok record := by
  obtain ⟨records, cs, written, listed, read, like, again⟩ :=
    exists_reread zero fun c there => stored.constraints.of_mem_values there
  have ids : cs.map Constraint.id = s.constraints.keys := by
    rw [← stored.constraints.map_id]
    exact List.forall₂_eq_eq_eq ▸ List.forall₂_map_left_iff.mpr
      (List.forall₂_map_right_iff.mpr (like.imp fun _ _ like => like.id))
  have entries : (byId Constraint.id cs).entries = cs.map fun c => (c.id, c) :=
    entries_byId (ids ▸ s.constraints.distinct)
  refine ⟨.record (fieldsOf s.options s.entities.values records), _, ?_,
    ofRecord_fieldsOf stored.options (fun e there => stored.entities.of_mem_values there) listed
      read, ⟨rfl, ?_, ?_⟩, ?_⟩
  · rw [toRecord, stored.options, written]
    rfl
  · exact stored.entities.byId_values
  · show List.Forall₂ _ (byId Constraint.id cs).entries _
    rw [entries, ← stored.constraints.map_values]
    refine List.forall₂_map_left_iff.mpr (List.forall₂_map_right_iff.mpr ?_)
    exact like.imp fun _ _ like => ⟨like.id, like⟩
  · have values : (byId Constraint.id cs).values = cs := by
      rw [Table.values, entries, List.map_map]
      exact List.map_id cs
    rw [toRecord, stored.options, values, again, stored.entities.byId_values]
    rfl

end

/-- Every sketch of doubles that operations lead to is read as it has been written, but for the
signs of priorities that are zero. Of a sketch that has been read, the record is read as a sketch
with this same record. -/
theorem ofRecord_toRecord_isLike [Headroom] :
    (∀ s : Sketch (Value Float) Float Float, Reachable s → ∃ record s', s.toRecord = .ok record ∧
      ofRecord record none = .ok s' ∧ s'.IsLike s) ∧
    ∀ (v : Value Float) (given? : Option (DescentOptions Float))
      (s : Sketch (Value Float) Float Float), ofRecord v given? = .ok s →
      ∃ (record : Value Float) (s' : Sketch (Value Float) Float Float),
        s.toRecord = .ok record ∧ ofRecord record none = .ok s' ∧ s'.toRecord = .ok record := by
  have zero : Scalar.isZero (0 : Float) = true := rfl
  constructor
  · intro s reachable
    obtain ⟨record, s', written, read, like, -⟩ := reachable.isStored.exists_toRecord zero
    exact ⟨record, s', written, read, like⟩
  · intro v given? s ok
    obtain ⟨record, s', written, read, -, again⟩ :=
      (reachable_of_ofRecord ok).isStored.exists_toRecord zero
    exact ⟨record, s', written, read, again⟩

/-- A curve with two parameters, an integer and the text that writes it. -/
def curve : Entity (Value Float) Float :=
  ⟨.text "A", .spline, some ⟨0, 1, 2⟩, none, some 3, none,
    .ofList [(.int 1, 2), (.text "1", 3)], fun _ _ => rfl⟩

/-- A constraint that is switched off, is of no known relation, has a negative zero as its priority,
and names an entity that is missing. -/
def stray : Constraint (Value Float) Float :=
  ⟨.text "c", .unknown, [.text "A", .text "B"], some 5, .real (-0), .flag false⟩

/-- A sketch of the curve and the constraint. -/
def dangling : Sketch (Value Float) Float Float :=
  ⟨.standard, Table.empty.insert (.text "A") curve, Table.empty.insert (.text "c") stray⟩

lemma reachable_dangling : Reachable dangling := by
  have names : ∀ name ∈ stray.entities, Name.IsText name :=
    List.forall_mem_cons.mpr ⟨⟨"A", rfl⟩, List.forall_mem_singleton.mpr ⟨"B", rfl⟩⟩
  exact .addConstraint (c := stray) (.addEntity (e := curve) (.start rfl) ⟨"A", rfl⟩ rfl)
    ⟨⟨-0, rfl⟩, ⟨false, rfl⟩⟩ ⟨⟨"c", rfl⟩, names⟩ rfl

/-- A record with fields that are left out, a name in capitals, a position by names, an id that
comes twice, and parameters that are called by an integer and by the text that writes it. -/
def scrawled : Value Float :=
  .record [("options", .record [("maxIterations", .real 9)]),
    ("entities", .list [.record [("id", .text "A"), ("kind", .text "point")],
      .record [("id", .text "A"), ("kind", .text "spline"),
        ("position", .record [("x", .real 1), ("y", .real 2)]),
        ("parameters", .list [.list [.int 1, .real 2], .list [.text "1", .real 3]])]])]

theorem dangling_ofRecord_toRecord_isLike :
    Reachable dangling ∧ (∃ record s', dangling.toRecord = .ok record ∧
      ofRecord record none = .ok s' ∧ s'.IsLike dangling) ∧
    ∃ s : Sketch (Value Float) Float Float, ofRecord scrawled none = .ok s ∧
      ∃ (record : Value Float) (s' : Sketch (Value Float) Float Float),
        s.toRecord = .ok record ∧ ofRecord record none = .ok s' ∧ s'.toRecord = .ok record := by
  have isRead : (ofRecord scrawled none : Except (Fault Float)
      (Sketch (Value Float) Float Float)).toOption.isSome = true := by decide +kernel
  obtain ⟨s, read⟩ := Option.isSome_iff_exists.mp isRead
  rw [Except.toOption_eq_some] at read
  exact ⟨reachable_dangling, ofRecord_toRecord_isLike.1 dangling reachable_dangling, s, read,
    ofRecord_toRecord_isLike.2 scrawled none s read⟩

end Drafting.Sketch
