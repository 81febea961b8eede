import Drafting.Proofs.Gradient.Frame
import Drafting.Proofs.Sketch.Records
import Drafting.Proofs.Sketch.Solving

/-!
# Sketches that operations lead to

Whatever is done with a sketch, its entities and its constraints stay stored under their own ids,
and its constraints keep priorities that are numbers and stay active or not
(`Sketch.Reachable.isStored`). A sketch that is read is one that operations lead to
(`Sketch.reachable_of_ofRecord`).
-/

namespace Drafting

open Drafting.Gradient

/-! ### Tables of what has an id -/

namespace Table

variable {κ ν μ ε : Type} [BEq κ]

/-- A test that cannot fail keeps what it accepts. -/
lemma filterM?_eq_ok (t : Table κ ν) (p : κ → ν → Bool) :
    t.filterM? (fun key value => (.ok (p key value) : Except ε Bool)) = .ok (t.filter p) := by
  have marks : t.entries.mapM (fun entry => (.ok (p entry.1 entry.2) : Except ε Bool)) =
      .ok (t.entries.map fun entry => p entry.1 entry.2) :=
    List.mapM_pure
  have kept (entries : List (κ × ν)) :
      ((entries.zip (entries.map fun entry => p entry.1 entry.2)).filter Prod.snd).map Prod.fst =
        entries.filter fun entry => p entry.1 entry.2 := by
    induction entries with
    | nil => rfl
    | cons entry rest ih =>
      rw [List.map_cons, List.zip_cons_cons, List.filter_cons, List.filter_cons]
      cases p entry.1 entry.2 with
      | true => exact congrArg (entry :: ·) ih
      | false => exact ih
  rw [filterM?, marks]
  exact congrArg Except.ok (eq_of_entries_eq (kept t.entries))

/-- A test that may fail keeps some of what there is. -/
lemma mem_of_filterM? {t t' : Table κ ν} {p : κ → ν → Except ε Bool}
    (kept : t.filterM? p = .ok t') {entry : κ × ν} (there : entry ∈ t'.entries) :
    entry ∈ t.entries := by
  obtain ⟨marks, -, made⟩ := Except.bind_eq_ok.mp kept
  cases made
  obtain ⟨marked, among, rfl⟩ := List.mem_map.mp there
  exact (Assoc.map_fst_zip_sublist t.entries marks).subset
    (List.mem_map_of_mem (List.mem_of_mem_filter among))

lemma mem_mapValues {t : Table κ ν} {f : κ → ν → μ} {entry : κ × μ} :
    entry ∈ (t.mapValues f).entries ↔
      ∃ entry' ∈ t.entries, (entry'.1, f entry'.1 entry'.2) = entry :=
  List.mem_map

end Table

namespace Sketch

/-- That what a table holds is held under its own id, and has a property besides. -/
def Holds {κ ν : Type} [BEq κ] (id : ν → κ) (P : ν → Prop) (t : Table κ ν) : Prop :=
  ∀ entry ∈ t.entries, id entry.2 = entry.1 ∧ P entry.2

section

variable {κ ν ε : Type} [BEq κ] {id : ν → κ} {P : ν → Prop} {t t' : Table κ ν}

lemma Holds.insert (holds : Holds id P t) {value : ν} (kept : P value)
    (same : ∀ entry ∈ t.entries, (entry.1 == id value) = true → id value = entry.1) :
    Holds id P (t.insert (id value) value) := by
  intro entry there
  obtain rfl | ⟨old, before, equal, renewed⟩ | before := Assoc.mem_set there
  · exact ⟨rfl, kept⟩
  · rw [renewed]
    exact ⟨same (entry.1, old) before equal, kept⟩
  · exact holds entry before

lemma Holds.of_subset (holds : Holds id P t) (subset : ∀ entry ∈ t'.entries, entry ∈ t.entries) :
    Holds id P t' :=
  fun entry there => holds entry (subset entry there)

lemma Holds.mapValues (holds : Holds id P t) {f : κ → ν → ν}
    (kept : ∀ entry ∈ t.entries, id entry.2 = entry.1 → P entry.2 →
      id (f entry.1 entry.2) = entry.1 ∧ P (f entry.1 entry.2)) : Holds id P (t.mapValues f) := by
  intro entry there
  obtain ⟨entry', before, rfl⟩ := Table.mem_mapValues.mp there
  obtain ⟨own, property⟩ := holds entry' before
  exact kept entry' before own property

lemma holds_empty : Holds id P (.empty : Table κ ν) := nofun

end

variable {ν α : Type}

section

lemma without_eq_ok {μ : Type} (t : Table String μ) (id : String) :
    (without t id : Except (Fault α) _) = .ok (t.erase id) := by
  rw [without, Name.require_eq_ok]
  cases t.size == 0 <;> rfl

lemma addEntity_eq_ok {τ : Type} (s : Sketch String τ α) (e : Entity String τ) :
    s.addEntity e = .ok { s with entities := s.entities.insert e.id e } := by
  rw [addEntity, Name.require_eq_ok]
  rfl

lemma addConstraint_eq_ok {τ : Type} (s : Sketch String τ α) (c : Constraint String α) :
    s.addConstraint c = .ok { s with constraints := s.constraints.insert c.id c } := by
  rw [addConstraint, Name.require_eq_ok]
  rfl

variable {τ : Type} [Scalar α]

/-- The constraints that name an entity, in their order. -/
lemma constraintsFor_eq_ok (s : Sketch String τ α) (id : String) :
    s.constraintsFor id = .ok (s.constraints.values.filter fun c => c.entities.contains id) :=
  Except.filterM_eq_ok _ _

/-- An entity goes with all constraints that name it. -/
lemma removeEntity_eq (s : Sketch String τ α) (id : String) :
    s.removeEntity id = ⟨{ s with
      entities := s.entities.erase id
      constraints := s.constraints.filter fun _ c => !c.entities.contains id }, .ok ()⟩ := by
  have kept : (s.constraints.filterM? fun _ c =>
      ((c.references id).map not : Except (Fault α) Bool)) =
        .ok (s.constraints.filter fun _ c => !c.entities.contains id) :=
    Table.filterM?_eq_ok _ _
  rw [removeEntity, without_eq_ok]
  dsimp only
  rw [kept]

end

/-! ### What operations change -/

section

variable [Name ν] {s s' : Sketch ν α α}

lemma eq_of_addEntity {e : Entity ν α} (ok : s.addEntity e = .ok s') :
    s' = { s with entities := s.entities.insert e.id e } :=
  (Except.ok.inj (Except.bind_unit_eq_ok.mp ok).2).symm

lemma eq_of_addConstraint {c : Constraint ν α} (ok : s.addConstraint c = .ok s') :
    s' = { s with constraints := s.constraints.insert c.id c } :=
  (Except.ok.inj (Except.bind_unit_eq_ok.mp ok).2).symm

lemma eq_of_without {μ : Type} {t t' : Table ν μ} {id : ν}
    (ok : (without t id : Except (Fault α) _) = .ok t') : t' = t.erase id := by
  rw [without] at ok
  split at ok
  · exact (Except.ok.inj ok).symm
  · exact (Except.ok.inj (Except.bind_unit_eq_ok.mp ok).2).symm

variable [Scalar α] [Named ν α] {id : ν}

lemma moveEntity_eq_ok {position : Value α} (ok : s.moveEntity id position = .ok s') :
    ∃ p, s' = { s with entities := s.entities.modify id fun e => e.moveTo (some p) } := by
  obtain ⟨-, moved⟩ := Except.bind_unit_eq_ok.mp ok
  split at moved
  · obtain ⟨p, -, made⟩ := Except.bind_eq_ok.mp moved
    exact ⟨p, (Except.ok.inj made).symm⟩
  · cases moved

lemma setActive_eq_ok {active : Value α} (ok : s.setActive id active = .ok s') :
    ∃ b, s' = { s with
      constraints := s.constraints.modify id fun c => { c with active := .flag b } } := by
  obtain ⟨b, -, switched⟩ := Except.bind_eq_ok.mp ok
  obtain ⟨-, switched⟩ := Except.bind_unit_eq_ok.mp switched
  split at switched
  · exact ⟨b, (Except.ok.inj switched).symm⟩
  · cases switched

omit [Scalar α] in
/-- Whatever an entity is removed by, no more than what was there is left. -/
lemma mem_of_removeEntity (s : Sketch ν α α) (id : ν) :
    (s.removeEntity id).sketch.options = s.options ∧
      (∀ entry ∈ (s.removeEntity id).sketch.entities.entries, entry ∈ s.entities.entries) ∧
      ∀ entry ∈ (s.removeEntity id).sketch.constraints.entries, entry ∈ s.constraints.entries := by
  rw [removeEntity]
  split
  · exact ⟨rfl, fun _ there => there, fun _ there => there⟩
  · next entities left =>
    obtain rfl := eq_of_without left
    dsimp only
    split
    · exact ⟨rfl, fun _ there => List.mem_of_mem_filter there, fun _ there => there⟩
    · next constraints kept =>
      exact ⟨rfl, fun _ there => List.mem_of_mem_filter there,
        fun _ there => Table.mem_of_filterM? kept there⟩

end

/-- A sketch whose entities and constraints are stored under their own ids and have certain
properties. -/
structure ConsistsOf [Name ν] (s : Sketch ν α α) (E : Entity ν α → Prop)
    (C : Constraint ν α → Prop) : Prop where
  entities : Holds Entity.id E s.entities
  constraints : Holds Constraint.id C s.constraints

/-- Properties of what has texts as ids that are not lost when an entity is moved or nudged and when
a constraint is switched on or off. -/
structure AreLasting [Name ν] [Scalar α] (E : Entity ν α → Prop) (C : Constraint ν α → Prop) :
    Prop where
  entity_id : ∀ {e}, E e → Name.IsText e.id
  constraint_id : ∀ {c}, C c → Name.IsText c.id
  stepped : ∀ {e} damping own, E e → E (applySlopes damping e own)
  moved : ∀ {e} position, E e → E (e.moveTo (some position))
  switched : ∀ {c} b, C c → C { c with active := .flag b }

/-- Where all names are texts, it is enough to keep what is kept with the frame of an entity. -/
lemma AreLasting.of_framed [Scalar α] {E : Entity String α → Prop} {C : Constraint String α → Prop}
    (framed : ∀ {e' e}, e'.IsFramedBy e → E e → E e')
    (moved : ∀ {e} position, E e → E (e.moveTo (some position)))
    (switched : ∀ {c} b, C c → C { c with active := .flag b }) : AreLasting E C where
  entity_id _ := Name.isText_of_string _
  constraint_id _ := Name.isText_of_string _
  stepped damping own := framed (isFramedBy_applySlopes damping _ own)
  moved := moved
  switched := switched

namespace ConsistsOf

variable [Name ν] {E : Entity ν α → Prop} {C : Constraint ν α → Prop} {s s' : Sketch ν α α}

lemma clear (s : Sketch ν α α) : s.clear.ConsistsOf E C := ⟨holds_empty, holds_empty⟩

section

variable (consists : s.ConsistsOf E C)

include consists

lemma removeConstraint {id : ν} (ok : s.removeConstraint id = .ok s') : s'.ConsistsOf E C := by
  obtain ⟨constraints, left, made⟩ := Except.bind_eq_ok.mp ok
  cases made
  obtain rfl := eq_of_without left
  exact ⟨consists.entities, consists.constraints.of_subset fun _ => List.mem_of_mem_filter⟩

lemma removeEntity [Named ν α] (id : ν) : (s.removeEntity id).sketch.ConsistsOf E C := by
  obtain ⟨-, entities, constraints⟩ := mem_of_removeEntity s id
  exact ⟨consists.entities.of_subset entities, consists.constraints.of_subset constraints⟩

variable [Scalar α] [Named ν α] (lasting : AreLasting E C)

include lasting

lemma moveEntity {id : ν} {position : Value α} (ok : s.moveEntity id position = .ok s') :
    s'.ConsistsOf E C := by
  obtain ⟨p, rfl⟩ := moveEntity_eq_ok ok
  refine ⟨consists.entities.mapValues fun entry _ own property => ?_, consists.constraints⟩
  split
  · exact ⟨own, lasting.moved p property⟩
  · exact ⟨own, property⟩

lemma setActive {id : ν} {active : Value α} (ok : s.setActive id active = .ok s') :
    s'.ConsistsOf E C := by
  obtain ⟨b, rfl⟩ := setActive_eq_ok ok
  refine ⟨consists.entities, consists.constraints.mapValues fun entry _ own property => ?_⟩
  split
  · exact ⟨own, lasting.switched b property⟩
  · exact ⟨own, property⟩

/-- A solution holds entities under their own ids, with the properties of those that a solve starts
from. -/
lemma solve [Scalar.IsPlain α] {solution : Solution ν α}
    (ok : s.solve.result = .ok solution) : Holds Entity.id E solution.entities := by
  obtain ⟨damping, reached⟩ := exists_entities_eq ok
  rw [reached]
  induction solution.iterations with
  | zero => exact consists.entities
  | succ n ih =>
    rw [entitiesAfter_succ, descend_eq_mapValues]
    refine ih.mapValues fun entry _ own property => ?_
    exact ⟨(id_applySlopes damping entry.2 _).trans own, lasting.stepped damping _ property⟩

variable [LawfulNamed ν α]

lemma addEntity {e : Entity ν α} (property : E e) (ok : s.addEntity e = .ok s') :
    s'.ConsistsOf E C := by
  obtain rfl := eq_of_addEntity ok
  refine ⟨consists.entities.insert property fun entry there equal => ?_, consists.constraints⟩
  obtain ⟨own, before⟩ := consists.entities entry there
  rw [← own] at equal ⊢
  exact (LawfulNamed.eq_of_same α (lasting.entity_id before) (lasting.entity_id property)
    equal).symm

lemma addConstraint {c : Constraint ν α} (property : C c) (ok : s.addConstraint c = .ok s') :
    s'.ConsistsOf E C := by
  obtain rfl := eq_of_addConstraint ok
  refine ⟨consists.entities, consists.constraints.insert property fun entry there equal => ?_⟩
  obtain ⟨own, before⟩ := consists.constraints entry there
  rw [← own] at equal ⊢
  exact (LawfulNamed.eq_of_same α (lasting.constraint_id before) (lasting.constraint_id property)
    equal).symm

lemma commit {solution : Solution ν α} (solved : Holds Entity.id E solution.entities) :
    (s.commit solution).ConsistsOf E C := by
  refine ⟨consists.entities.mapValues fun entry _ own property => ?_, consists.constraints⟩
  cases found : solution.entities.get? entry.1 with
  | none => exact ⟨own, property⟩
  | some e =>
    obtain ⟨name, among, equal⟩ := Table.exists_mem_of_get? found
    obtain ⟨own', property'⟩ := solved _ among
    refine ⟨?_, property'⟩
    dsimp only at own'
    rw [← own', ← own] at equal
    exact (LawfulNamed.eq_of_same α (lasting.entity_id property') (lasting.entity_id property)
      equal).trans own

end

end ConsistsOf

/-- A sketch whose entities and constraints are stored under their own ids, which are texts as all
references are, where all constraints are typed and the options can be copied. -/
structure IsStored [Name ν] [Headroom] (s : Sketch ν α α) : Prop where
  options : s.options.requireCopy = .ok ()
  entities : Holds Entity.id (fun e => Name.IsText e.id) s.entities
  constraints : Holds Constraint.id (fun c => c.IsTyped ∧ c.IsNamed) s.constraints

variable [Name ν] [Scalar α]

/-- Being typed, with texts as names, is lasting. -/
lemma areLasting_isTyped :
    AreLasting (fun e : Entity ν α => Name.IsText e.id) fun c => c.IsTyped ∧ c.IsNamed where
  entity_id text := text
  constraint_id properties := properties.2.id
  stepped damping own text := (id_applySlopes damping _ own).symm ▸ text
  moved _ text := text
  switched b properties := ⟨⟨properties.1.priority, b, rfl⟩, properties.2.id, properties.2.entities⟩

variable [Named ν α] [Headroom]

/-- The sketches that operations lead to where ids and references are texts. A solution that is
committed may be one of another sketch. -/
inductive Reachable : Sketch ν α α → Prop
  | start {options : DescentOptions α} : options.requireCopy = .ok () → Reachable (.empty options)
  | addEntity {s s' : Sketch ν α α} {e : Entity ν α} : Reachable s → Name.IsText e.id →
      s.addEntity e = .ok s' → Reachable s'
  | addConstraint {s s' : Sketch ν α α} {c : Constraint ν α} : Reachable s →
      c.IsTyped → c.IsNamed → s.addConstraint c = .ok s' → Reachable s'
  | removeEntity {s : Sketch ν α α} (id : ν) : Reachable s → Reachable (s.removeEntity id).sketch
  | removeConstraint {s s' : Sketch ν α α} (id : ν) : Reachable s →
      s.removeConstraint id = .ok s' → Reachable s'
  | moveEntity {s s' : Sketch ν α α} (id : ν) (position : Value α) : Reachable s →
      s.moveEntity id position = .ok s' → Reachable s'
  | setActive {s s' : Sketch ν α α} (id : ν) (active : Value α) : Reachable s →
      s.setActive id active = .ok s' → Reachable s'
  | clear {s : Sketch ν α α} : Reachable s → Reachable s.clear
  | solve {s : Sketch ν α α} : Reachable s → Reachable s.solve.sketch
  | commit {s t : Sketch ν α α} {solution : Solution ν α} : Reachable s → Reachable t →
      t.solve.result = .ok solution → Reachable (s.commit solution)

section

variable {s : Sketch ν α α}

/-- The options of a sketch stay as they are, so they can be copied at any time. -/
lemma Reachable.requireCopy_eq_ok [Scalar.IsPlain α] (reachable : Reachable s) :
    s.options.requireCopy = .ok () := by
  induction reachable with
  | start copied => exact copied
  | addEntity _ _ ok ih => exact eq_of_addEntity ok ▸ ih
  | addConstraint _ _ _ ok ih => exact eq_of_addConstraint ok ▸ ih
  | @removeEntity s id _ ih =>
    rw [(mem_of_removeEntity s id).1]
    exact ih
  | removeConstraint id _ ok ih =>
    obtain ⟨constraints, -, made⟩ := Except.bind_eq_ok.mp ok
    exact Except.ok.inj made ▸ ih
  | moveEntity id position _ ok ih =>
    obtain ⟨p, rfl⟩ := moveEntity_eq_ok ok
    exact ih
  | setActive id active _ ok ih =>
    obtain ⟨b, rfl⟩ := setActive_eq_ok ok
    exact ih
  | clear _ ih => exact ih
  | solve _ ih =>
    rw [Sketch.solve, worn_eq_self]
    exact ih
  | commit _ _ _ ih _ => exact ih

variable [LawfulNamed ν α]

/-- Whatever is done with a sketch, everything stays stored under its own id. -/
theorem Reachable.isStored [Scalar.IsPlain α] (reachable : Reachable s) : s.IsStored := by
  have consists : s.ConsistsOf (fun e => Name.IsText e.id) fun c => c.IsTyped ∧ c.IsNamed := by
    induction reachable with
    | start copied => exact ⟨holds_empty, holds_empty⟩
    | addEntity _ text ok ih => exact ih.addEntity areLasting_isTyped text ok
    | addConstraint _ typed named ok ih =>
      exact ih.addConstraint areLasting_isTyped ⟨typed, named⟩ ok
    | removeEntity id _ ih => exact ih.removeEntity id
    | removeConstraint id _ ok ih => exact ih.removeConstraint ok
    | moveEntity id position _ ok ih => exact ih.moveEntity areLasting_isTyped ok
    | setActive id active _ ok ih => exact ih.setActive areLasting_isTyped ok
    | clear _ ih => exact .clear _
    | solve _ ih =>
      rw [Sketch.solve, worn_eq_self]
      exact ih
    | commit _ _ ok ih ih' =>
      exact ih.commit areLasting_isTyped (ih'.solve areLasting_isTyped ok)
  exact ⟨reachable.requireCopy_eq_ok, consists.entities, consists.constraints⟩

/-! ### Sketches that are read -/

lemma Reachable.addEntityRecords {items : List (Value α)} {s s' : Sketch ν α α}
    (reachable : Reachable s) (ok : s.addEntityRecords items = .ok s') : Reachable s' := by
  induction items generalizing s with
  | nil => exact Except.ok.inj ok ▸ reachable
  | cons item rest ih =>
    obtain ⟨e, read, ok⟩ := Except.bind_eq_ok.mp ok
    obtain ⟨added, ok', ok⟩ := Except.bind_eq_ok.mp ok
    exact ih (.addEntity reachable (Entity.isText_of_ofRecord read) ok') ok

lemma Reachable.addConstraintRecords {items : List (Value α)} {s s' : Sketch ν α α}
    (reachable : Reachable s) (ok : s.addConstraintRecords items = .ok s') : Reachable s' := by
  induction items generalizing s with
  | nil => exact Except.ok.inj ok ▸ reachable
  | cons item rest ih =>
    obtain ⟨c, read, ok⟩ := Except.bind_eq_ok.mp ok
    obtain ⟨added, ok', ok⟩ := Except.bind_eq_ok.mp ok
    obtain ⟨typed, named⟩ := Constraint.isTyped_of_ofRecord read
    exact ih (.addConstraint reachable typed named ok') ok

/-- Reading a sketch is adding what its record tells to one that is empty. -/
theorem reachable_of_ofRecord {v : Value α} {given? : Option (DescentOptions α)}
    (ok : ofRecord v given? = .ok s) : Reachable s := by
  rw [ofRecord] at ok
  split at ok
  · cases ok
  · obtain ⟨options, -, ok⟩ := Except.bind_eq_ok.mp ok
    obtain ⟨copied, ok⟩ := Except.bind_unit_eq_ok.mp ok
    obtain ⟨entities, -, ok⟩ := Except.bind_eq_ok.mp ok
    obtain ⟨filled, added, ok⟩ := Except.bind_eq_ok.mp ok
    obtain ⟨constraints, -, ok⟩ := Except.bind_eq_ok.mp ok
    exact ((Reachable.start copied).addEntityRecords added).addConstraintRecords ok

end

section

variable {s s' : Sketch ν α α}

lemma options_addEntityRecords {items : List (Value α)} (ok : s.addEntityRecords items = .ok s') :
    s'.options = s.options := by
  induction items generalizing s with
  | nil => exact congrArg Sketch.options (Except.ok.inj ok).symm
  | cons item rest ih =>
    obtain ⟨e, -, ok⟩ := Except.bind_eq_ok.mp ok
    obtain ⟨added, ok', ok⟩ := Except.bind_eq_ok.mp ok
    obtain rfl := eq_of_addEntity ok'
    exact (ih ok :)

lemma options_addConstraintRecords {items : List (Value α)}
    (ok : s.addConstraintRecords items = .ok s') : s'.options = s.options := by
  induction items generalizing s with
  | nil => exact congrArg Sketch.options (Except.ok.inj ok).symm
  | cons item rest ih =>
    obtain ⟨c, -, ok⟩ := Except.bind_eq_ok.mp ok
    obtain ⟨added, ok', ok⟩ := Except.bind_eq_ok.mp ok
    obtain rfl := eq_of_addConstraint ok'
    exact (ih ok :)

/-- A sketch is read with the options that are given beside it. -/
lemma options_of_ofRecord {v : Value α} {options : DescentOptions α}
    (ok : ofRecord v (some options) = .ok s) : s.options = options := by
  rw [ofRecord] at ok
  split at ok
  · cases ok
  · obtain ⟨given, same, ok⟩ := Except.bind_eq_ok.mp ok
    cases same
    obtain ⟨-, ok⟩ := Except.bind_unit_eq_ok.mp ok
    obtain ⟨entities, -, ok⟩ := Except.bind_eq_ok.mp ok
    obtain ⟨filled, added, ok⟩ := Except.bind_eq_ok.mp ok
    obtain ⟨constraints, -, ok⟩ := Except.bind_eq_ok.mp ok
    exact (options_addConstraintRecords ok).trans (options_addEntityRecords added)

end

end Sketch

end Drafting
