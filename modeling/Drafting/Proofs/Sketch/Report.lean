import Drafting.Gradient.Writing
import Drafting.Proofs.Doubles
import Drafting.Proofs.Sketch.Solving

/-!
# Reports of solves

The record of a solution leaves out a residual that is not finite, and no other number. So it can be
written as strict JSON, which has finite numbers only, if and only if all numbers of the entities of
the solution are finite. Since a sum is finite only if its first term is, no step makes finite what
is not: the entities of the sketch have to be finite as well (`Sketch.isReportedBy_toRecord`).
-/

namespace Drafting

/-- Data that strict JSON can express. -/
inductive Value.IsStrict : Value Float → Prop
  | null : IsStrict .null
  | flag (b : Bool) : IsStrict (.flag b)
  | int (n : ℤ) : IsStrict (.int n)
  | real {x : Float} : x.isFinite = true → IsStrict (.real x)
  | text (s : String) : IsStrict (.text s)
  | list {items : List (Value Float)} : (∀ item ∈ items, IsStrict item) → IsStrict (.list items)
  | tuple {items : List (Value Float)} : (∀ item ∈ items, IsStrict item) → IsStrict (.tuple items)
  | record {fields : List (String × Value Float)} : (∀ field ∈ fields, IsStrict field.2) →
    IsStrict (.record fields)

namespace Value

lemma isStrict_real {x : Float} : (real x).IsStrict ↔ x.isFinite = true :=
  ⟨fun strict => by cases strict; assumption, .real⟩

lemma isStrict_list {items : List (Value Float)} :
    (list items).IsStrict ↔ ∀ item ∈ items, item.IsStrict :=
  ⟨fun strict => by cases strict; assumption, .list⟩

lemma isStrict_record {fields : List (String × Value Float)} :
    (record fields).IsStrict ↔ ∀ field ∈ fields, field.2.IsStrict :=
  ⟨fun strict => by cases strict; assumption, .record⟩

lemma isStrict_texts (names : List String) : (list (names.map text)).IsStrict := by
  refine .list fun item there => ?_
  obtain ⟨name, -, rfl⟩ := List.mem_map.mp there
  exact .text name

end Value

/-! ### Entities -/

/-- A vector of finite components. -/
structure Vector3.IsFinite (v : Vector3 Float) : Prop where
  x : v.x.isFinite = true
  y : v.y.isFinite = true
  z : v.z.isFinite = true

lemma Vector3.isStrict_toValue {v : Vector3 Float} : v.toValue.IsStrict ↔ v.IsFinite := by
  simp only [toValue, Component.toValue, Value.isStrict_list, List.forall_mem_cons,
    Value.isStrict_real]
  exact ⟨fun ⟨x, y, z, _⟩ => ⟨x, y, z⟩, fun ⟨x, y, z⟩ => ⟨x, y, z, List.forall_mem_nil _⟩⟩

namespace Entity

/-- An entity all of whose numbers are finite. -/
structure IsFinite (e : Entity String Float) : Prop where
  position : ∀ p, e.position = some p → p.IsFinite
  direction : ∀ v, e.direction = some v → v.IsFinite
  normal : ∀ v, e.normal = some v → v.IsFinite
  radius : ∀ x, e.radius = some x → x.isFinite = true
  parameters : ∀ entry ∈ e.parameters.entries, entry.2.isFinite = true

/-- That an entity is finite only if another is. -/
def NeedsFinite (e' e : Entity String Float) : Prop := e'.IsFinite → e.IsFinite

lemma isStrict_optionalField {β : Type} {name : String} {toValue : β → Value Float} {x : Option β} :
    (∀ field ∈ optionalField name toValue x, field.2.IsStrict) ↔
      ∀ y, x = some y → (toValue y).IsStrict := by
  cases x with
  | none => exact ⟨fun _ => nofun, fun _ => List.forall_mem_nil _⟩
  | some y =>
    rw [optionalField, List.forall_mem_singleton]
    exact ⟨fun strict z same => Option.some.inj same ▸ strict, fun all => all y rfl⟩

lemma isStrict_parameters {parameters : Table String Float} :
    (∀ field ∈ (if parameters.size = 0 then [] else
        [("parameters", (parameterRecord parameters : Value Float))]), field.2.IsStrict) ↔
      ∀ entry ∈ parameters.entries, entry.2.isFinite = true := by
  have record : (parameterRecord parameters : Value Float).IsStrict ↔
      ∀ entry ∈ parameters.entries, entry.2.isFinite = true := by
    have texts : (parameterRecord parameters : Value Float) =
        .record (parameters.entries.map fun entry => (entry.1, .real entry.2)) :=
      Value.ofEntries_texts Prod.fst (fun entry => .real entry.2) parameters.entries
    rw [texts, Value.isStrict_record, List.forall_mem_map]
    exact forall₂_congr fun _ _ => Value.isStrict_real
  split
  · next empty =>
    rw [List.eq_nil_of_length_eq_zero empty]
    exact iff_of_true (List.forall_mem_nil _) (List.forall_mem_nil _)
  · rw [List.forall_mem_singleton, record]

/-- The record of an entity is strict if all numbers of the entity are finite, and only then. -/
lemma isStrict_toRecord {e : Entity String Float} :
    (e.toRecord : Value Float).IsStrict ↔ e.IsFinite := by
  simp only [toRecord, Value.isStrict_record, List.forall_mem_append,
    isStrict_optionalField, isStrict_parameters, Vector3.isStrict_toValue, Component.toValue,
    Value.isStrict_real, List.forall_mem_cons]
  constructor
  · rintro ⟨⟨⟨⟨⟨-, position⟩, direction⟩, normal⟩, radius⟩, parameters⟩
    exact ⟨position, direction, normal, radius, parameters⟩
  · rintro ⟨position, direction, normal, radius, parameters⟩
    exact ⟨⟨⟨⟨⟨⟨.text _, .text _, List.forall_mem_nil _⟩, position⟩, direction⟩, normal⟩, radius⟩,
      parameters⟩

end Entity

/-! ### Steps -/

namespace Gradient

/-- An entity is finite after a step only if it was before. -/
lemma needsFinite_applySlopes {damping : Float} {e : Entity String Float}
    {own : List (Slope String Float)} : (applySlopes damping e own).NeedsFinite e := by
  intro finite
  by_cases pulled : own = []
  · rwa [pulled] at finite
  have framed := isFramedBy_applySlopes damping e own
  rw [applySlopes_eq damping e pulled] at finite framed
  constructor
  case position =>
    intro p there
    have moved := finite.position _ (congrArg (Option.map _) there)
    exact ⟨Double.isFinite_of_add moved.x, Double.isFinite_of_add moved.y,
      Double.isFinite_of_add moved.z⟩
  case direction => exact framed.direction ▸ finite.direction
  case normal => exact framed.normal ▸ finite.normal
  case radius => exact framed.radius ▸ finite.radius
  case parameters =>
    intro entry there
    have changed := finite.parameters _ (List.mem_map_of_mem there)
    dsimp only at changed
    cases change : change? damping own (.parameter entry.1) with
    | none => rwa [change] at changed
    | some delta =>
      rw [change] at changed
      exact Double.isFinite_of_add changed

/-- No number of steps makes an entity finite. -/
lemma isFinite_of_entitiesAfter {damping : Float} {plan : List (Constraint String Float)}
    {entities : Table String (Entity String Float)} {count : ℕ}
    (finite : ∀ e ∈ (entitiesAfter damping plan entities count).values, e.IsFinite) :
    ∀ e ∈ entities.values, e.IsFinite := by
  intro e there
  obtain ⟨⟨id, e⟩, among, rfl⟩ := List.mem_map.mp there
  have ran : ∃ e', (entitiesAfter damping plan entities count).get? id = some e' ∧
      e'.NeedsFinite e := by
    refine exists_get?_entitiesAfter ?_ ?_ ?_ (Table.get?_of_mem among)
    · exact fun e finite => finite
    · exact fun later sooner finite => sooner (later finite)
    · exact fun _ _ e _ => needsFinite_applySlopes
  obtain ⟨e', reached, needs⟩ := ran
  exact needs (finite e' (List.mem_map_of_mem (Table.mem_of_get? reached)))

end Gradient

/-! ### Sketches -/

namespace Sketch

open Drafting.Gradient

variable {s : Sketch String Float Float} {solution : Solution String Float}

/-- What the record of a solution of a sketch tells about the numbers in it. -/
structure IsReportedBy (s : Sketch String Float Float) (solution : Solution String Float)
    (record : Value Float) : Prop where
  fields : ∃ fields residual, record = .record fields ∧ field? fields "residual" = some residual ∧
    residual.IsStrict
  strict : record.IsStrict ↔ ∀ e ∈ solution.entities.values, e.IsFinite
  stored : record.IsStrict → ∀ e ∈ s.entities.values, e.IsFinite
  idle : solution.iterations = 0 → solution.entities = s.entities

lemma isStrict_finiteOrNull (x : Float) : (finiteOrNull x).IsStrict := by
  rw [finiteOrNull]
  split
  · next finite => exact .real finite
  · exact .null

lemma isStrict_toRecord {elapsed : Float} (finite : elapsed.isFinite = true) :
    (solution.toRecord elapsed : Value Float).IsStrict ↔
      ∀ e ∈ solution.entities.values, e.IsFinite := by
  have entities : (Value.list (solution.entities.values.map Entity.toRecord)).IsStrict ↔
      ∀ e ∈ solution.entities.values, e.IsFinite := by
    rw [Value.isStrict_list, List.forall_mem_map]
    exact forall₂_congr fun _ _ => Entity.isStrict_toRecord
  have diagnostics : (solution.diagnostics.toRecord : Value Float).IsStrict := by
    refine .record (List.forall_mem_cons.mpr ⟨Value.isStrict_texts _, ?_⟩)
    exact List.forall_mem_singleton.mpr (Value.isStrict_texts _)
  simp only [Solution.toRecord, Value.isStrict_record, List.forall_mem_cons]
  constructor
  · rintro ⟨-, -, -, -, -, -, strict, -⟩
    exact entities.mp strict
  · intro all
    refine ⟨.flag _, .int _, isStrict_finiteOrNull _, ?conflicts, .real finite, ?message,
      entities.mpr all, diagnostics, List.forall_mem_nil _⟩
    case conflicts =>
      cases solution.conflicts with
      | none => exact .null
      | some names => exact Value.isStrict_texts names
    case message =>
      cases solution.shortfall with
      | none => exact .null
      | some shortfall => exact .text _

/-- The record of a solution, after a finite time, is strict if and only if the entities of the
solution are finite, for which those of the sketch have to be finite. -/
lemma isReportedBy_toRecord {elapsed : Float} (finite : elapsed.isFinite = true)
    (solved : s.solve.result = .ok solution) :
    s.IsReportedBy solution (solution.toRecord elapsed) := by
  obtain ⟨damping, reached⟩ := exists_entities_eq solved
  constructor
  case fields => exact ⟨_, _, rfl, rfl, isStrict_finiteOrNull _⟩
  case strict => exact isStrict_toRecord finite
  case stored =>
    intro strict
    exact isFinite_of_entitiesAfter (reached ▸ (isStrict_toRecord finite).mp strict)
  case idle =>
    intro idle
    rw [reached, idle]
    rfl

end Sketch

end Drafting
