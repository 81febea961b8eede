import Drafting.Proofs.Sketch.Deletion

/-!
# Constraints that take no part

A constraint that is not active, or that names an entity that is not there, has no influence on a
solve. Whether such constraints are deleted makes no difference to the outcome, be it a solution or
a fault, but that a solution does not list them as skipped any more (`Sketch.solve_relieved`).
-/

namespace Drafting

open Drafting.Gradient

/-- A value that is known to count as true or not, counts as such. -/
lemma Value.isTruthy_of_truth {α : Type} [Scalar α] {v : Value α} {b : Bool}
    (known : v.truth = .ok b) : v.isTruthy = b := by
  cases v with
  | array kind shape data =>
    match data with
    | [] => cases known
    | [v] => cases kind <;> cases known <;> simp [isTruthy, anyTruthyElement]
    | _ :: _ :: _ => cases kind <;> cases known
  | _ => exact Except.ok.inj known

namespace Gradient

variable {ν τ α : Type} [Name ν]

/-- A solution that lists none of certain constraints as skipped, and is the same otherwise. -/
def Solution.sparing (solution : Solution ν τ) (ids : List ν) : Solution ν τ :=
  { solution with
    diagnostics := { solution.diagnostics with
      skipped := solution.diagnostics.skipped.filter fun id => !ids.contains id } }

variable [Scalar α]

/-- That a solve leaves a constraint out of account, of which it is known whether it is active. -/
def IsIdle (entities : Table ν (Entity ν τ)) (c : Constraint ν α) : Prop :=
  c.active.truth = .ok false ∨
    c.active.truth = .ok true ∧ ∃ id ∈ c.entities, entities.contains id = false

section

variable {entities : Table ν (Entity ν τ)} {c : Constraint ν α} (idle : IsIdle entities c)

include idle

lemma IsIdle.unplanned : (c.isActive && c.isResolvable (snapshot entities)) = false := by
  obtain inactive | ⟨-, id, named, absent⟩ := idle
  · rw [Constraint.isActive, Value.isTruthy_of_truth inactive, Bool.false_and]
  · have unresolved : c.isResolvable (snapshot entities) = false := by
      rw [Constraint.isResolvable, List.all_eq_false]
      exact ⟨id, named, Bool.eq_false_iff.mp absent⟩
    rw [unresolved, Bool.and_false]

/-- A constraint that takes no part does not keep the others from being planned. -/
lemma IsIdle.requirePlannable_cons [LawfulName ν] (rest : List (Constraint ν α)) :
    requirePlannable (c :: rest) = requirePlannable rest := by
  obtain known | ⟨known, -⟩ := idle <;>
    simp only [requirePlannable, known, Name.requireAll_eq_ok, bind, Except.bind, if_true,
      Bool.false_eq_true, if_false]

end

variable {entities : Table ν (Entity ν τ)} {constraints : List (Constraint ν α)}
  {keep : Constraint ν α → Bool}
  (idle : ∀ c ∈ constraints, keep c = false → IsIdle entities c)

include idle

lemma plan_filter : plan entities (constraints.filter keep) = plan entities constraints := by
  rw [plan, plan, List.filter_filter]
  refine List.filter_congr fun c there => ?_
  cases kept : keep c with
  | true => rw [Bool.and_true]
  | false => rw [(idle c there kept).unplanned, Bool.false_and]

lemma requirePlannable_filter [LawfulName ν] :
    requirePlannable (constraints.filter keep) = requirePlannable constraints := by
  induction constraints with
  | nil => rfl
  | cons c rest ih =>
    obtain ⟨first, others⟩ := List.forall_mem_cons.mp idle
    cases kept : keep c with
    | true =>
      rw [List.filter_cons_of_pos kept, requirePlannable, requirePlannable, ih others]
    | false =>
      rw [List.filter_cons_of_neg (by rw [kept]; exact Bool.false_ne_true), ih others,
        (first kept).requirePlannable_cons]

end Gradient

namespace Sketch

section

variable {ν τ α : Type} [Name ν] [Scalar α] {s : Sketch ν τ α} {ids : List ν}
  (own : ∀ entry ∈ s.constraints.entries, entry.2.id = entry.1)
  (idle : ∀ c ∈ s.constraints.values, (!ids.contains c.id) = false → IsIdle s.entities c)

include own idle

lemma plan_relieved : (s.relieved ids).plan = s.plan := by
  rw [plan, values_relieved own]
  exact plan_filter idle

/-- Deleted constraints are not reported any more. -/
lemma diagnose_relieved : (s.relieved ids).diagnose =
    { s.diagnose with skipped := s.diagnose.skipped.filter fun id => !ids.contains id } := by
  have skipped : (unresolved s.entities (s.constraints.values.filter
      fun c => !ids.contains c.id)).map Constraint.id =
        ((unresolved s.entities s.constraints.values).map Constraint.id).filter
          fun id => !ids.contains id := by
    rw [unresolved, List.filter_comm, List.filter_map]
    rfl
  have planned := plan_filter idle
  rw [diagnose, values_relieved own]
  simp only [Gradient.diagnose, relieved, diagnose, skipped, planned]

variable [Scalar τ] [Component τ α]

lemma limits_relieved :
    ((s.relieved ids).limits : Except (Fault α) (ℕ × τ × Bool)) = s.limits := by
  rw [limits, limits, plan_relieved own idle]
  rfl

lemma settings_relieved [Named ν α] : (s.relieved ids).settings = s.settings := by
  rw [settings, settings, limits_relieved own idle, plan_relieved own idle]
  rfl

/-- Solving for the constraints that are left comes to the same solution. -/
lemma solve_eq_sparing (settings : Gradient.Settings τ) :
    Gradient.solve settings s.entities (s.relieved ids).constraints.values =
      (Gradient.solve settings s.entities s.constraints.values).sparing ids := by
  have planned : Gradient.plan s.entities (s.relieved ids).constraints.values =
      Gradient.plan s.entities s.constraints.values := plan_relieved own idle
  have diagnosed : Gradient.diagnose s.entities (s.relieved ids).constraints.values = _ :=
    diagnose_relieved own idle
  obtain nothing | some := eq_or_ne (Gradient.plan s.entities s.constraints.values) []
  · rw [solve_eq_trivial (planned.trans nothing), solve_eq_trivial nothing, diagnosed]
    rfl
  · rw [solve_eq_ofRun (planned ▸ some), solve_eq_ofRun some, planned, diagnosed]
    rfl

omit [Scalar α] own idle in
lemma conclude_relieved (run : Except (Fault α) (Solution ν τ)) :
    (s.relieved ids).conclude (run.map fun solution => solution.sparing ids) =
      (s.conclude run).map fun solution => solution.sparing ids := by
  cases run with
  | error fault => rfl
  | ok solution =>
    have reportable : (s.relieved ids).requireReportable (solution.sparing ids) =
        s.requireReportable solution := rfl
    simp only [conclude, Except.map, bind, Except.bind, reportable]
    cases s.requireReportable solution <;> rfl

variable [LawfulName ν]

lemma requireMeasurable_relieved : (s.relieved ids).requireMeasurable = s.requireMeasurable := by
  rw [requireMeasurable, requireMeasurable, plan_relieved own idle, values_relieved own,
    requirePlannable_filter idle]
  rfl

lemma steps_relieved : (s.relieved ids).steps = s.steps := by
  rw [steps, steps, requireMeasurable_relieved own idle, limits_relieved own idle,
    plan_relieved own idle]

variable [Named ν α]

lemma worn_relieved : (s.relieved ids).worn = s.worn.relieved ids := by
  rw [worn, worn, steps_relieved own idle, plan_relieved own idle]
  split <;> rfl

lemma descend_relieved : ((s.relieved ids).descend : Except (Fault α) (Solution ν τ)) =
    s.descend.map fun solution => solution.sparing ids := by
  rw [descend, descend, requireMeasurable_relieved own idle, plan_relieved own idle,
    settings_relieved own idle, diagnose_relieved own idle]
  cases s.requireMeasurable with
  | error fault => rfl
  | ok _ =>
    cases s.plan.isEmpty with
    | true => rfl
    | false =>
      cases s.settings with
      | error fault => rfl
      | ok settings => exact congrArg Except.ok (solve_eq_sparing own idle settings)

omit idle in
/-- Constraints of which each is inactive or dangling can be deleted, and a solve without them comes
to the same as with them, except that it lists none of them as skipped. -/
theorem solve_of_removeConstraints
    (idle : ∀ c ∈ s.constraints.values, c.id ∈ ids → IsIdle s.entities c) :
    ∃ s', s.removeConstraints ids = .ok s' ∧
      s'.solve = ⟨s.solve.sketch.relieved ids,
        s.solve.result.map fun solution => solution.sparing ids⟩ := by
  refine ⟨_, removeConstraints_eq_ok s ids, ?_⟩
  have idle' : ∀ c ∈ s.constraints.values, (!ids.contains c.id) = false → IsIdle s.entities c := by
    intro c there deleted
    rw [Bool.not_eq_false', List.contains_iff_mem] at deleted
    exact idle c there deleted
  rw [solve, worn_relieved own idle', descend_relieved own idle', conclude_relieved]
  rfl

end

/-- Two points that are apart, with a constraint between them that counts, one that is not active
and one that names a third point, which is not there. -/
noncomputable def littered : Sketch String ℝ ℝ where
  options := (apart 7 0.5).options
  entities := (apart 7 0.5).entities
  constraints := .ofList [("meet", demanding "meet" .coincident ["A", "B"]),
    ("rest", { demanding "rest" .horizontal ["A"] with active := .flag false }),
    ("level", demanding "level" .coincident ["A", "C"])]

theorem littered_solve_of_removeConstraints :
    (∀ entry ∈ littered.constraints.entries, entry.2.id = entry.1) ∧
      (∀ c ∈ littered.constraints.values, c.id ∈ ["level", "rest"] →
        IsIdle littered.entities c) ∧
      ∃ s', littered.removeConstraints ["level", "rest"] = .ok s' ∧
        s'.solve = ⟨littered.solve.sketch.relieved ["level", "rest"],
          littered.solve.result.map fun solution => solution.sparing ["level", "rest"]⟩ := by
  have own : ∀ entry ∈ littered.constraints.entries, entry.2.id = entry.1 := by
    simp [littered, Table.entries_ofList, demanding]
  have idle : ∀ c ∈ littered.constraints.values, c.id ∈ ["level", "rest"] →
      IsIdle littered.entities c := by
    have absent : littered.entities.contains "C" = false := by
      rw [Table.contains, littered, get?_apart]
      rfl
    have dangling : IsIdle littered.entities (demanding "level" .coincident ["A", "C"]) :=
      .inr ⟨rfl, "C", by simp [demanding], absent⟩
    have inactive : IsIdle littered.entities
        { demanding "rest" .horizontal ["A"] with active := .flag false } := .inl rfl
    simpa [littered, Table.values, Table.entries_ofList, demanding] using ⟨inactive, dangling⟩
  exact ⟨own, idle, solve_of_removeConstraints own idle⟩

end Sketch

end Drafting
