import Drafting.Plane.Writing
import Drafting.Proofs.Plane.Reading
import Drafting.Proofs.Sketch.Report

/-!
# Reports of planar solves

The record of a solution holds the numbers that a solve has come to as they are, finite or not, and
the labels of what it left out. A planar step adds to numbers, too, so that it makes none finite.
With that, what holds of solves of sketches holds of planar ones (`areReported`): only the residual
is left out where strict JSON has no number for it.
-/

namespace Drafting

namespace Plane

/-- That numbers are finite only where others are. -/
def NeedsFinite (xs' xs : List Float) : Prop :=
  ∀ (i : ℕ) (x' : Float), xs'[i]? = some x' → x'.isFinite = true →
    ∃ x, xs[i]? = some x ∧ x.isFinite = true

lemma NeedsFinite.refl (xs : List Float) : NeedsFinite xs xs :=
  fun _ x there finite => ⟨x, there, finite⟩

lemma NeedsFinite.trans {xs ys zs : List Float} (first : NeedsFinite xs ys)
    (second : NeedsFinite ys zs) : NeedsFinite xs zs := by
  intro i x there finite
  obtain ⟨y, there', finite'⟩ := first i x there finite
  exact second i y there' finite'

lemma needsFinite_next (settings : Settings Float) (demands : List (Demand Float))
    (i : Iterate Float) : NeedsFinite (i.next settings demands).params i.params := by
  intro slot x' there finite
  obtain ⟨x, delta, before, -, rfl⟩ := List.getElem?_zipWith_eq_some.mp there
  exact ⟨x, before, Double.isFinite_of_add finite⟩

lemma needsFinite_run (settings : Settings Float) (demands : List (Demand Float))
    (start : Iterate Float) :
    NeedsFinite (Iteration.last start (run settings demands start)).params start.params := by
  have kept (count : ℕ) :
      NeedsFinite ((Iterate.next settings demands)^[count] start).params start.params := by
    induction count with
    | zero => exact .refl _
    | succ n ih =>
      rw [Function.iterate_succ_apply']
      exact (needsFinite_next settings demands _).trans ih
  rw [run, Iteration.last_trail]
  exact kept _

namespace Drawing

variable {d : Drawing String Float} {solution : Solution String Float}

/-- That a solve has come to numbers. -/
structure ComesTo (d : Drawing String Float) (solution : Solution String Float)
    (params : List Float) : Prop where
  values : solution.values = .ofList (numbered { d with params })
  full : d.unknowns.length ≤ params.length
  length : params.length ≤ d.params.length
  needs : NeedsFinite params d.params
  idle : solution.iterations = 0 → params = d.params

lemma comesTo_conclude {diagnostics : Diagnostics Float} {tolerance : Float}
    {settings : Settings Float} {demands : List (Demand Float)}
    (solved : (d.conclude diagnostics tolerance (.of demands d.params)
      (run settings demands (.of demands d.params))).result = .ok solution) :
    d.ComesTo solution (Iteration.last (.of demands d.params)
      (run settings demands (.of demands d.params))).params := by
  have full : d.unknowns.length ≤ (Iteration.last (.of demands d.params)
      (run settings demands (.of demands d.params))).params.length := by
    refine le_of_not_gt fun short => ?_
    have none := conclude_of_short diagnostics tolerance _ _ short
    rw [solved] at none
    cases none
  rw [conclude_of_full _ _ _ _ full] at solved
  cases solved
  constructor
  case values => rfl
  case full => exact full
  case length => exact length_params_run_le settings demands (.of demands d.params)
  case needs => exact needsFinite_run settings demands (.of demands d.params)
  case idle =>
    intro idle
    rw [List.map_eq_nil_iff.mp (List.eq_nil_of_length_eq_zero idle)]
    rfl

/-- Whatever the options are, a solve comes to the numbers that its run leads to. -/
lemma exists_comesTo (registered : d.IsRegistered) (solved : d.solve.result = .ok solution) :
    ∃ params, d.ComesTo solution params := by
  obtain ⟨plan, planned, idle | ⟨settings, demands, steps, -⟩⟩ := exists_stepsWith solved
  · rw [solve_of_idle planned idle registered.full.ge] at solved
    cases solved
    exact ⟨d.params, rfl, registered.full.ge, le_rfl, .refl _, fun _ => rfl⟩
  · rw [steps.solve_eq] at solved
    exact ⟨_, comesTo_conclude solved⟩

/-- What the record of a solution of a drawing tells about the numbers in it. -/
structure IsReportedBy (d : Drawing String Float) (solution : Solution String Float)
    (record : Value Float) : Prop where
  fields : ∃ fields residual, record = .record fields ∧ field? fields "residual" = some residual ∧
    residual.IsStrict
  strict : record.IsStrict ↔ (∀ x ∈ solution.values.values, x.isFinite = true) ∧
    (∀ label ∈ solution.diagnostics.skipped, label.IsStrict) ∧
    ∀ label ∈ solution.diagnostics.unsupported, label.IsStrict
  stored : record.IsStrict → ∀ x ∈ d.params, x.isFinite = true
  idle : solution.iterations = 0 → solution.values.values = d.params

lemma isStrict_finiteOrNull (x : Float) : (finiteOrNull x).IsStrict :=
  Sketch.isStrict_finiteOrNull x

lemma isStrict_toRecord {solution : Solution String Float} : solution.toRecord.IsStrict ↔
    (∀ x ∈ solution.values.values, x.isFinite = true) ∧
      (∀ label ∈ solution.diagnostics.skipped, label.IsStrict) ∧
      ∀ label ∈ solution.diagnostics.unsupported, label.IsStrict := by
  have values : (valuesRecord solution.values).IsStrict ↔
      ∀ x ∈ solution.values.values, x.isFinite = true := by
    have texts : valuesRecord solution.values =
        .record (solution.values.entries.map fun entry => (entry.1, .real entry.2)) :=
      Value.ofEntries_texts Prod.fst (fun entry => .real entry.2) solution.values.entries
    rw [texts, Value.isStrict_record, List.forall_mem_map, Table.values, List.forall_mem_map]
    exact forall₂_congr fun _ _ => Value.isStrict_real
  simp only [Solution.toRecord, Diagnostics.toRecord, Value.isStrict_record, Value.isStrict_list,
    List.forall_mem_cons, values]
  constructor
  · rintro ⟨-, -, -, finite, ⟨skipped, unsupported, -⟩, -⟩
    exact ⟨finite, skipped, unsupported⟩
  · rintro ⟨finite, skipped, unsupported⟩
    exact ⟨.flag _, .int _, isStrict_finiteOrNull _, finite,
      ⟨skipped, unsupported, List.forall_mem_nil _⟩, List.forall_mem_nil _⟩

lemma isReportedBy_toRecord (registered : d.IsRegistered)
    (solved : d.solve.result = .ok solution) : d.IsReportedBy solution solution.toRecord := by
  obtain ⟨params, came⟩ := exists_comesTo registered solved
  have full : params.length = d.unknowns.length :=
    le_antisymm (came.length.trans registered.full.le) came.full
  have values : solution.values.values = params := by
    rw [came.values, Table.values, registered.isIndexed.entries_ofList full,
      map_snd_numbered full]
  constructor
  case fields => exact ⟨_, _, rfl, rfl, isStrict_finiteOrNull _⟩
  case strict => exact isStrict_toRecord
  case stored =>
    intro strict x there
    obtain ⟨i, inside, rfl⟩ := List.getElem_of_mem there
    have inside' : i < params.length := by
      rwa [full, ← registered.full]
    have finite : params[i].isFinite = true :=
      (isStrict_toRecord.mp strict).1 _ (values ▸ List.getElem_mem inside')
    obtain ⟨x, same, finite⟩ := came.needs i _ (List.getElem?_eq_getElem inside') finite
    rw [List.getElem?_eq_getElem inside, Option.some.injEq] at same
    exact same ▸ finite
  case idle => exact fun idle => values.trans (came.idle idle)

end Drawing

end Plane

/-! ### Solves of either sort -/

/-- What holds of the records of solutions, of sketches in space and in the plane. -/
structure AreReported (P : Value Float → Prop) : Prop where
  sketch : ∀ (s : Sketch String Float Float) (solution : Gradient.Solution String Float)
    (elapsed : Float), elapsed.isFinite = true → s.solve.result = .ok solution →
      s.IsReportedBy solution (solution.toRecord elapsed)
  drawing : ∀ (d : Plane.Drawing String Float) (solution : Plane.Solution String Float),
    d.IsRegistered → d.solve.result = .ok solution → d.IsReportedBy solution solution.toRecord
  registered : ∀ (v : Value Float) (given? : Option (NewtonOptions Float))
    (d : Plane.Drawing String Float), v.IsJson P → Plane.Drawing.ofRecord v given? = .ok d →
      d.IsRegistered

/-- Whatever a solve comes to, the record of its solution is strict if and only if the numbers in it
are finite, which takes a sketch of finite numbers. -/
theorem areReported (P : Value Float → Prop) : AreReported P where
  sketch _ _ _ finite solved := Sketch.isReportedBy_toRecord finite solved
  drawing d _ registered solved := d.isReportedBy_toRecord registered solved
  registered _ _ _ json read := (Plane.Drawing.isInStep_of_ofRecord json read).registered

/-- A sketch of one plane that is infinitely far away. -/
def remote : Sketch String Float Float where
  options := .standard
  entities := .ofList
    [("A", ⟨"A", .plane, some ⟨1.0 / 0.0, 0, 0⟩, none, none, none, .empty, nofun⟩)]
  constraints := .empty

def remoteRecord : Value Float := .record [("entities", .list [.record [("id", .text "A"),
  ("kind", .text "plane"), ("position", .list [.real (1.0 / 0.0), .real 0, .real 0])]])]

lemma ofRecord_remoteRecord : Sketch.ofRecord remoteRecord none = .ok remote := rfl

lemma solve_remote : remote.solve.result = .ok (.trivial remote.entities ⟨[], []⟩) := rfl

/-- A planar sketch of a number. -/
def numberRecord : Value Float :=
  .record [("variables", .list [.record [("id", .text "v"), ("value", .real 2)]])]

lemma isJson_numberRecord : numberRecord.IsJson Any := by
  refine .record (fun _ => trivial) (List.forall_mem_singleton.mpr
    (.list (fun _ => trivial) (List.forall_mem_singleton.mpr ?_)))
  exact .record (fun _ => trivial)
    (List.forall_mem_cons.mpr ⟨.text "v", List.forall_mem_singleton.mpr (.real 2)⟩)

theorem remote_areReported :
    remote.IsReportedBy (.trivial remote.entities ⟨[], []⟩)
        (Gradient.Solution.toRecord (.trivial remote.entities ⟨[], []⟩) 0) ∧
      ∃ d solution, Plane.Drawing.ofRecord numberRecord none = .ok d ∧
        d.solve.result = .ok solution ∧ d.IsReportedBy solution solution.toRecord := by
  refine ⟨(areReported Any).sketch remote _ 0 (by decide +kernel) solve_remote, _, _, rfl, rfl, ?_⟩
  exact (areReported Any).drawing _ _
    ((areReported Any).registered numberRecord none _ isJson_numberRecord rfl) rfl

/-- A position that is not finite is in the record of a solution as it is. -/
theorem not_isStrict : ¬∀ (v : Value Float) (s : Sketch String Float Float)
    (solution : Gradient.Solution String Float), Sketch.ofRecord v none = .ok s →
      s.solve.result = .ok solution → (solution.toRecord 0 : Value Float).IsStrict := by
  intro strict
  have finite := (Sketch.isStrict_toRecord (by decide +kernel)).mp
    (strict remoteRecord remote _ ofRecord_remoteRecord solve_remote)
  have position := (finite _ List.mem_cons_self).position _ rfl
  exact absurd position.x (by decide +kernel)

end Drafting
