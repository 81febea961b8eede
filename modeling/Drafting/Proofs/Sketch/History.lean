import Drafting.Proofs.Sketch.Reachable
import Drafting.Proofs.Sketch.Soundness

/-!
# Histories of sketches

A history is a sketch in use, with the solutions that its solves have come to. Any of these can be
committed at any later time, when entities may have gone, come back or been replaced. As long as
each constraint that is added names entities that are there, no constraint of the sketch ever names
one that is not (`History.isWhole_run`).
-/

namespace Drafting

open Drafting.Gradient

/-! ### Keys of tables -/

namespace Table

variable {κ ν : Type} [BEq κ] {t : Table κ ν} {key name : κ}

lemma mem_keys_insert_of_mem (value : ν) (there : name ∈ t.keys) :
    name ∈ (t.insert key value).keys := by
  rw [keys, insert, Assoc.keys_set]
  split
  · exact there
  · exact List.mem_append_left _ there

lemma mem_keys_erase [LawfulBEq κ] :
    name ∈ (t.erase key).keys ↔ name ∈ t.keys ∧ name ≠ key := by
  simp only [keys, Assoc.keys, erase, Assoc.erase, List.mem_map, List.mem_filter, Bool.not_eq_true',
    beq_eq_false_iff_ne]
  constructor
  · rintro ⟨entry, ⟨there, other⟩, rfl⟩
    exact ⟨⟨entry, there, rfl⟩, other⟩
  · rintro ⟨⟨entry, there, rfl⟩, other⟩
    exact ⟨entry, ⟨there, other⟩, rfl⟩

end Table

namespace Sketch

variable {α : Type}

/-! ### Names that are present -/

/-- That the constraints of a sketch name nothing but entities that are there. -/
def NamesPresent (s : Sketch String α α) : Prop :=
  ∀ c ∈ s.constraints.values, ∀ id ∈ c.entities, id ∈ s.entities.keys

lemma namesPresent_clear (s : Sketch String α α) : s.clear.NamesPresent := List.forall_mem_nil _

section

variable {s : Sketch String α α}

lemma ConsistsOf.namesPresent {E : Entity String α → Prop} {ids : List String}
    (consists : s.ConsistsOf E fun c => ∀ id ∈ c.entities, id ∈ ids)
    (kept : ∀ id ∈ ids, id ∈ s.entities.keys) : s.NamesPresent := by
  intro c there id named
  obtain ⟨entry, member, rfl⟩ := List.mem_map.mp there
  exact kept id ((consists.constraints entry member).2 id named)

variable [Scalar α]

lemma NamesPresent.removeEntity (present : s.NamesPresent) (id : String) :
    (s.removeEntity id).sketch.NamesPresent := by
  rw [removeEntity_eq]
  intro c there name named
  obtain ⟨entry, member, rfl⟩ := List.mem_map.mp there
  obtain ⟨before, spared⟩ := List.mem_filter.mp member
  refine Table.mem_keys_erase.mpr ⟨present _ (List.mem_map_of_mem before) name named, ?_⟩
  rintro rfl
  rw [Bool.not_eq_true', List.contains_eq_mem, decide_eq_false_iff_not] at spared
  exact spared named

/-- Where all names are present, nothing is skipped. -/
lemma NamesPresent.skipped_eq_nil (present : s.NamesPresent) : s.diagnose.skipped = [] := by
  rw [List.eq_nil_iff_forall_not_mem]
  intro id skipped
  obtain ⟨c, there, -, -, name, named, absent⟩ := mem_skipped.mp skipped
  have known := Table.isSome_get?_iff.mpr (present c there name named)
  rw [absent] at known
  cases known

/-- That an entity takes with it the constraints that are told to name it, and no others. -/
def Cascades (s : Sketch String α α) (id : String) : Prop :=
  ∃ named, s.constraintsFor id = .ok named ∧
    s.removeEntity id = ⟨{ s with
      entities := s.entities.erase id
      constraints := s.constraints.filter fun key _ => !(named.map Constraint.id).contains key },
      .ok ()⟩

lemma ConsistsOf.cascades {E : Entity String α → Prop} {C : Constraint String α → Prop}
    (consists : s.ConsistsOf E C) (id : String) : s.Cascades id := by
  refine ⟨_, constraintsFor_eq_ok s id, ?_⟩
  have told : ∀ entry ∈ s.constraints.entries, entry.2.entities.contains id =
      ((s.constraints.values.filter fun c => c.entities.contains id).map Constraint.id).contains
        entry.1 := by
    intro entry there
    rw [Bool.eq_iff_iff, List.contains_iff_mem, List.contains_iff_mem, List.mem_map]
    constructor
    · intro named
      exact ⟨entry.2,
        List.mem_filter.mpr ⟨List.mem_map_of_mem there, List.contains_iff_mem.mpr named⟩,
        (consists.constraints entry there).1⟩
    · rintro ⟨c, dropped, key⟩
      obtain ⟨there', named⟩ := List.mem_filter.mp dropped
      obtain ⟨entry', member, rfl⟩ := List.mem_map.mp there'
      -- two entries under one key are the same
      have same : entry'.1 = entry.1 := (consists.constraints entry' member).1.symm.trans key
      rw [← List.inj_on_of_nodup_map s.constraints.nodup_keys member there same]
      exact List.contains_iff_mem.mp named
  have kept : (s.constraints.filter fun _ c => !c.entities.contains id) = s.constraints.filter
      fun key _ => !((s.constraints.values.filter fun c => c.entities.contains id).map
        Constraint.id).contains key :=
    Table.eq_of_entries_eq (List.filter_congr fun entry there => congrArg not (told entry there))
  rw [removeEntity_eq, kept]

end

/-! ### Operations -/

/-- What can be done with a sketch in use; a solution is committed by its number. -/
inductive Operation (α : Type) where
  | addEntity (e : Entity String α)
  | removeEntity (id : String)
  | moveEntity (id : String) (position : Value α)
  | addConstraint (c : Constraint String α)
  | removeConstraint (id : String)
  | setActive (id : String) (active : Value α)
  | clear
  | solve
  | commit (number : ℕ)

/-- That what an operation adds has certain properties. -/
def Operation.Adds (E : Entity String α → Prop) (C : Constraint String α → Prop) :
    Operation α → Prop
  | addEntity e => E e
  | addConstraint c => C c
  | _ => True

lemma Operation.Adds.mono {E E' : Entity String α → Prop} {C C' : Constraint String α → Prop}
    {op : Operation α} (adds : op.Adds E C) (entity : ∀ e, E e → E' e)
    (constraint : ∀ c, C c → C' c) : op.Adds E' C' := by
  cases op with
  | addEntity e => exact entity e adds
  | addConstraint c => exact constraint c adds
  | _ => exact trivial

/-- A sketch in use, and the solutions that its solves have come to so far. -/
structure History (α : Type) where
  sketch : Sketch String α α
  solutions : List (Solution String α)

namespace History

section

/-- The start of a history, with nothing in the sketch. -/
def start (options : DescentOptions α) : History α := ⟨.empty options, []⟩

/-- The history after an operation on its sketch; one that fails leaves the sketch as it is. -/
def proceed (h : History α) (result : Except (Fault α) (Sketch String α α)) : History α :=
  match result with
  | .ok sketch => { h with sketch }
  | .error _ => h

/-- What holds of a history, and of the history with whatever an operation makes of its sketch,
holds after the operation. -/
lemma proceed_induction {h : History α} {P : History α → Prop}
    {result : Except (Fault α) (Sketch String α α)} (failed : P h)
    (done : ∀ sketch, result = .ok sketch → P { h with sketch }) : P (h.proceed result) := by
  cases made : result with
  | error fault => exact failed
  | ok sketch => exact done sketch made

variable [Scalar α]

/-- The history after an operation. -/
def perform (h : History α) : Operation α → History α
  | .addEntity e => h.proceed (h.sketch.addEntity e)
  | .removeEntity id => { h with sketch := (h.sketch.removeEntity id).sketch }
  | .moveEntity id position => h.proceed (h.sketch.moveEntity id position)
  | .addConstraint c => h.proceed (h.sketch.addConstraint c)
  | .removeConstraint id => h.proceed (h.sketch.removeConstraint id)
  | .setActive id active => h.proceed (h.sketch.setActive id active)
  | .clear => { h with sketch := h.sketch.clear }
  | .solve => ⟨h.sketch.solve.sketch, h.solutions ++ h.sketch.solve.result.toOption.toList⟩
  | .commit number =>
    match h.solutions[number]? with
    | some solution => { h with sketch := h.sketch.commit solution }
    | none => h

/-- The history after one operation after the other. -/
def run (h : History α) (operations : List (Operation α)) : History α :=
  operations.foldl perform h

/-- That each constraint that operations add names entities that are there at that time. -/
def Permits (h : History α) : List (Operation α) → Prop
  | [] => True
  | op :: rest =>
    op.Adds (fun _ => True) (fun c => ∀ id ∈ c.entities, id ∈ h.sketch.entities.keys) ∧
      (h.perform op).Permits rest

end

variable {h : History α}

/-- A history with entities and constraints of certain properties, in its sketch and in its
solutions. -/
structure ConsistsOf (h : History α) (E : Entity String α → Prop)
    (C : Constraint String α → Prop) : Prop where
  sketch : h.sketch.ConsistsOf E C
  solutions : ∀ solution ∈ h.solutions, Holds Entity.id E solution.entities

lemma consistsOf_start {E : Entity String α → Prop} {C : Constraint String α → Prop}
    (options : DescentOptions α) : (start options).ConsistsOf E C :=
  ⟨⟨holds_empty, holds_empty⟩, List.forall_mem_nil _⟩

variable [Scalar α] [Scalar.IsPlain α]

section

variable {E : Entity String α → Prop} {C : Constraint String α → Prop}

/-- An operation leaves what a history consists of, if it adds nothing else. -/
lemma ConsistsOf.perform (consists : h.ConsistsOf E C) (lasting : AreLasting E C)
    {op : Operation α} (adds : op.Adds E C) : (h.perform op).ConsistsOf E C := by
  have renewed {sketch : Sketch String α α} (sketch' : sketch.ConsistsOf E C) :
      ConsistsOf { h with sketch } E C := ⟨sketch', consists.solutions⟩
  have proceeding {result : Except (Fault α) (Sketch String α α)}
      (made : ∀ sketch, result = .ok sketch → sketch.ConsistsOf E C) :
      (h.proceed result).ConsistsOf E C :=
    proceed_induction (P := fun h' => h'.ConsistsOf E C) consists
      fun sketch ok => renewed (made sketch ok)
  cases op with
  | addEntity e => exact proceeding fun _ ok => consists.sketch.addEntity lasting adds ok
  | removeEntity id => exact renewed (consists.sketch.removeEntity id)
  | moveEntity id position => exact proceeding fun _ ok => consists.sketch.moveEntity lasting ok
  | addConstraint c => exact proceeding fun _ ok => consists.sketch.addConstraint lasting adds ok
  | removeConstraint id => exact proceeding fun _ ok => consists.sketch.removeConstraint ok
  | setActive id active => exact proceeding fun _ ok => consists.sketch.setActive lasting ok
  | clear => exact renewed (.clear _)
  | solve =>
    refine ⟨?_, List.forall_mem_append.mpr ⟨consists.solutions, fun solution there => ?_⟩⟩
    · show h.sketch.worn.ConsistsOf E C
      rw [worn_eq_self]
      exact consists.sketch
    · rw [Option.mem_toList, Except.toOption_eq_some] at there
      exact consists.sketch.solve lasting there
  | commit number =>
    rw [History.perform]
    split
    · next solution there =>
      have solved := consists.solutions solution (List.mem_of_getElem? there)
      exact renewed (consists.sketch.commit lasting solved)
    · exact consists

/-- Operations leave what a history consists of, if they add nothing else. -/
lemma ConsistsOf.run (consists : h.ConsistsOf E C) (lasting : AreLasting E C)
    {operations : List (Operation α)} (adds : ∀ op ∈ operations, op.Adds E C) :
    (h.run operations).ConsistsOf E C := by
  induction operations generalizing h with
  | nil => exact consists
  | cons op rest ih =>
    obtain ⟨first, others⟩ := List.forall_mem_cons.mp adds
    exact ih (consists.perform lasting first) others

end

omit [Scalar α] [Scalar.IsPlain α] in
lemma adds_anything (op : Operation α) : op.Adds (fun _ => True) fun _ => True := by
  cases op <;> exact trivial

omit [Scalar.IsPlain α] in
lemma areLasting_anything :
    AreLasting (fun _ : Entity String α => True) fun _ : Constraint String α => True :=
  .of_framed (fun _ _ => trivial) (fun _ _ => trivial) fun _ _ => trivial

/-! ### Referential integrity -/

/-- An operation that adds no dangling constraint leaves none. -/
lemma namesPresent_perform {E : Entity String α → Prop} {C : Constraint String α → Prop}
    (consists : h.ConsistsOf E C) (present : h.sketch.NamesPresent) {op : Operation α}
    (permitted : op.Adds (fun _ => True)
      fun c => ∀ id ∈ c.entities, id ∈ h.sketch.entities.keys) :
    (h.perform op).sketch.NamesPresent := by
  -- unless an entity goes, constraints name what was there before
  have onward (kept : ∀ id ∈ h.sketch.entities.keys, id ∈ (h.perform op).sketch.entities.keys) :
      (h.perform op).sketch.NamesPresent := by
    have named : h.ConsistsOf (fun _ => True)
        fun c => ∀ id ∈ c.entities, id ∈ h.sketch.entities.keys := by
      refine ⟨⟨?_, ?_⟩, ?_⟩
      · exact fun entry there => ⟨(consists.sketch.entities entry there).1, trivial⟩
      · exact fun entry there => ⟨(consists.sketch.constraints entry there).1,
          present _ (List.mem_map_of_mem there)⟩
      · exact fun solution there entry member =>
          ⟨(consists.solutions solution there entry member).1, trivial⟩
    have lasting : AreLasting (fun _ : Entity String α => True)
        fun c => ∀ id ∈ c.entities, id ∈ h.sketch.entities.keys :=
      .of_framed (fun _ _ => trivial) (fun _ _ => trivial) fun _ named => named
    exact (named.perform lasting permitted).sketch.namesPresent kept
  have proceeding {result : Except (Fault α) (Sketch String α α)}
      (kept : ∀ s', result = .ok s' → ∀ id ∈ h.sketch.entities.keys, id ∈ s'.entities.keys) :
      ∀ id ∈ h.sketch.entities.keys, id ∈ (h.proceed result).sketch.entities.keys :=
    proceed_induction (P := fun h' => ∀ id ∈ h.sketch.entities.keys, id ∈ h'.sketch.entities.keys)
      (fun _ there => there) kept
  cases op with
  | removeEntity id => exact present.removeEntity id
  | clear => exact namesPresent_clear _
  | addEntity e =>
    refine onward (proceeding fun s' ok => ?_)
    rw [addEntity_eq_ok] at ok
    cases ok
    exact fun _ => Table.mem_keys_insert_of_mem e
  | moveEntity id position =>
    refine onward (proceeding fun s' ok => ?_)
    obtain ⟨p, rfl⟩ := moveEntity_eq_ok ok
    rw [Table.modify, Table.keys_mapValues]
    exact fun _ there => there
  | addConstraint c =>
    refine onward (proceeding fun s' ok => ?_)
    rw [addConstraint_eq_ok] at ok
    cases ok
    exact fun _ there => there
  | removeConstraint id =>
    refine onward (proceeding fun s' ok => ?_)
    rw [Sketch.removeConstraint, without_eq_ok] at ok
    cases ok
    exact fun _ there => there
  | setActive id active =>
    refine onward (proceeding fun s' ok => ?_)
    obtain ⟨b, rfl⟩ := setActive_eq_ok ok
    exact fun _ there => there
  | solve =>
    refine onward fun _ there => ?_
    show _ ∈ h.sketch.worn.entities.keys
    rw [worn_eq_self]
    exact there
  | commit number =>
    refine onward fun _ there => ?_
    rw [perform]
    split
    · rw [commit, Table.keys_mapValues]
      exact there
    · exact there

/-- Operations that add no dangling constraints leave none. -/
lemma namesPresent_run
    (consists : h.ConsistsOf (fun _ => True) fun _ => True) (present : h.sketch.NamesPresent)
    {operations : List (Operation α)} (permitted : h.Permits operations) :
    (h.run operations).sketch.NamesPresent := by
  induction operations generalizing h with
  | nil => exact present
  | cons op rest ih =>
    exact ih (consists.perform areLasting_anything (adds_anything op))
      (namesPresent_perform consists present permitted.1) permitted.2

/-! ### Options -/

lemma options_perform (op : Operation α) : (h.perform op).sketch.options = h.sketch.options := by
  cases op with
  | addEntity e => rw [perform, addEntity_eq_ok]; rfl
  | removeEntity id => rw [perform, removeEntity_eq]
  | moveEntity id position =>
    refine proceed_induction (P := fun h' => h'.sketch.options = h.sketch.options) rfl
      fun s' ok => ?_
    obtain ⟨p, rfl⟩ := moveEntity_eq_ok ok
    rfl
  | addConstraint c => rw [perform, addConstraint_eq_ok]; rfl
  | removeConstraint id => rw [perform, Sketch.removeConstraint, without_eq_ok]; rfl
  | setActive id active =>
    refine proceed_induction (P := fun h' => h'.sketch.options = h.sketch.options) rfl
      fun s' ok => ?_
    obtain ⟨b, rfl⟩ := setActive_eq_ok ok
    rfl
  | clear => rfl
  | solve =>
    show h.sketch.worn.options = h.sketch.options
    rw [worn_eq_self]
  | commit number =>
    rw [perform]
    split <;> rfl

lemma options_run (operations : List (Operation α)) :
    (h.run operations).sketch.options = h.sketch.options := by
  induction operations generalizing h with
  | nil => rfl
  | cons op rest ih => exact ih.trans (options_perform op)

/-- A sketch stays typed while constraints are added that are active or not. -/
lemma isTyped_run {cap : ℤ} {tolerance damping : α}
    (typed : h.sketch.IsTyped cap tolerance damping)
    (consists : h.ConsistsOf (fun _ => True) fun c => ∃ b, c.active = .flag b)
    {operations : List (Operation α)}
    (adds : ∀ op ∈ operations, op.Adds (fun _ => True) fun c => ∃ b, c.active = .flag b) :
    (h.run operations).sketch.IsTyped cap tolerance damping := by
  have lasting : AreLasting (fun _ : Entity String α => True) fun c => ∃ b, c.active = .flag b :=
    .of_framed (fun _ _ => trivial) (fun _ _ => trivial) fun b _ => ⟨b, rfl⟩
  have reached := (consists.run lasting adds).sketch.constraints
  have options := options_run (h := h) operations
  refine ⟨options ▸ typed.cap, options ▸ typed.tolerance, options ▸ typed.damping,
    options ▸ typed.verbose, fun c there => ?_, fun entry there => (reached entry there).1⟩
  obtain ⟨entry, member, rfl⟩ := List.mem_map.mp there
  exact (reached entry member).2

end History

/-- A sketch that holds everything under its own id, and all that its constraints name, so that a
solve skips none of them. -/
structure IsWhole [Scalar α] (s : Sketch String α α) : Prop where
  entity_id : ∀ entry ∈ s.entities.entries, entry.2.id = entry.1
  constraint_id : ∀ entry ∈ s.constraints.entries, entry.2.id = entry.1
  named : ∀ c ∈ s.constraints.values, ∀ id ∈ c.entities, s.entities.contains id = true
  skipped : ∀ solution, s.solve.result = .ok solution → solution.diagnostics.skipped = []

variable [Scalar α] [Scalar.IsPlain α]

/-- Whatever is done with a sketch, an entity goes with the constraints that name it and with no
others, and committing a solution leaves all ids where they are. As long as each constraint that is
added names entities that are there, the sketch is whole; and solving it comes to a solution, if its
options are typed and constraints are added that are active or not. -/
theorem History.isWhole_run (options : DescentOptions α) (operations : List (Operation α)) :
    let s := ((start options).run operations).sketch
    ((start options).Permits operations → s.IsWhole) ∧
      (∀ cap tolerance damping, (start options).sketch.IsTyped cap tolerance damping →
        (∀ op ∈ operations, op.Adds (fun _ => True) fun c => ∃ b, c.active = .flag b) →
          ∃ solution, s.solve = ⟨s, .ok solution⟩) ∧
      (∀ id, s.Cascades id) ∧
      ∀ solution, (s.commit solution).entities.keys = s.entities.keys ∧
        (s.commit solution).constraints = s.constraints := by
  have reached : ((start options).run operations).ConsistsOf (fun _ => True) fun _ => True :=
    (consistsOf_start options).run areLasting_anything fun op _ => adds_anything op
  refine ⟨fun permitted => ?_, fun cap tolerance damping typed adds => ?_,
    reached.sketch.cascades, fun solution => ⟨Table.keys_mapValues .., rfl⟩⟩
  · have present := namesPresent_run (consistsOf_start options) (List.forall_mem_nil _) permitted
    constructor
    case entity_id => exact fun entry there => (reached.sketch.entities entry there).1
    case constraint_id => exact fun entry there => (reached.sketch.constraints entry there).1
    case named =>
      exact fun c there id named => Table.isSome_get?_iff.mpr (present c there id named)
    case skipped =>
      intro solution solved
      rw [diagnostics_of_solve solved, present.skipped_eq_nil]
  · have typed' := isTyped_run typed (consistsOf_start options) adds
    exact ⟨_, typed'.solve_eq⟩

/-- An entity that goes and comes back, and a solution from before the other has gone. -/
noncomputable def comings : List (Operation ℝ) :=
  [.addEntity (pointAt "A" 0 0), .addEntity (pointAt "B" 1 0),
    .addConstraint (demanding "meet" .coincident ["A", "B"]), .removeEntity "A",
    .addEntity (pointAt "A" 0 1), .addConstraint (demanding "meet" .coincident ["B", "A"]),
    .moveEntity "C" .null, .solve, .removeEntity "B", .setActive "meet" (.flag false), .commit 0]

theorem History.comings_isWhole_run :
    let options : DescentOptions ℝ := ⟨.int 7, .real 0.5, .real 1, .gradientDescent, .flag false⟩
    let s := ((start options).run comings).sketch
    s.IsWhole ∧ (∃ solution, s.solve = ⟨s, .ok solution⟩) ∧ (∀ id, s.Cascades id) ∧
      ∀ solution, (s.commit solution).entities.keys = s.entities.keys ∧
        (s.commit solution).constraints = s.constraints := by
  obtain ⟨whole, solved, cascades, commits⟩ := isWhole_run
    (⟨.int 7, .real 0.5, .real 1, .gradientDescent, .flag false⟩ : DescentOptions ℝ) comings
  refine ⟨whole ?_, solved 7 0.5 1 ?_ ?_, cascades, commits⟩
  · have first : ∀ id ∈ ["A", "B"], id ∈ ["A", "B"] := fun _ there => there
    have second : ∀ id ∈ ["B", "A"], id ∈ ["B", "A"] := fun _ there => there
    exact ⟨trivial, trivial, first, trivial, trivial, second, trivial, trivial, trivial, trivial,
      trivial, trivial⟩
  · exact ⟨rfl, .real _, .real _, ⟨false, rfl⟩, List.forall_mem_nil _, List.forall_mem_nil _⟩
  · simp [comings, Operation.Adds, demanding]

end Sketch

end Drafting
