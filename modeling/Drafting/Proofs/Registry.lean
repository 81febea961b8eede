import Drafting.Plane.Reading
import Drafting.Proofs.Plane.Failure
import Drafting.Proofs.Sketch.Reachable

/-!
# Registered options

A solver that is built without options gets those that have been registered last since the registry
was reset, or the standard ones. A sketch or a drawing that is read from a record without options
gets the standard ones, whatever has been registered (`Registry.reaches_after`). So it has the
registered options only as long as these are the standard ones
(`Registry.not_forall_descentFor_eq`).
-/

namespace Drafting

/-- A record without options. -/
def Value.LacksOptions {α : Type} (v : Value α) : Prop :=
  ∃ fields, v.fields? = some fields ∧ field? fields "options" = none

/-! ### Reading without options -/

section

variable {α : Type}

lemma fieldOrNull_eq_null {fields : List (String × Value α)} {name : String}
    (absent : field? fields name = none) : fieldOrNull fields name = .null :=
  congrArg (fun field => field.getD Value.null) absent

variable [Scalar α]

/-- A sketch is read from a record without options as if the standard ones were given with it. -/
lemma Sketch.ofRecord_of_lacksOptions [Headroom] {v : Value α} (lacks : v.LacksOptions) :
    (ofRecord v none : Except (Fault α) (Sketch (Value α) α α)) = ofRecord v (some .standard) := by
  obtain ⟨fields, record, absent⟩ := lacks
  have options : optionsFor fields none =
      (.ok .standard : Except (Fault α) (DescentOptions α)) := by
    rw [optionsFor, fieldOrNull_eq_null absent]
    rfl
  rw [ofRecord, ofRecord, record]
  dsimp only
  rw [options]
  rfl

namespace Plane.Drawing

/-- A drawing is read from a record without options as if the standard ones were given with it. -/
lemma ofRecord_of_lacksOptions [Headroom] {v : Value α} (lacks : v.LacksOptions) :
    (ofRecord v none : Except (Fault α) (Drawing String α)) = ofRecord v (some .standard) := by
  obtain ⟨fields, record, absent⟩ := lacks
  have options : optionsFor fields none =
      (.ok .standard : Except (Fault α) (NewtonOptions α)) := by
    rw [optionsFor, fieldOrNull_eq_null absent]
    rfl
  rw [ofRecord, ofRecord, record]
  dsimp only
  rw [options]
  rfl

variable {d d' : Drawing String α}

lemma options_addPointRecord [Headroom] {v : Value α} (ok : d.addPointRecord v = .ok d') :
    d'.options = d.options := by
  obtain ⟨p, -, ok⟩ := Except.bind_eq_ok.mp (Except.mapError_eq_ok.mp ok)
  obtain ⟨-, -, ok⟩ := Except.bind_eq_ok.mp ok
  cases ok
  exact (changesOnly_addPoint _ _).options

lemma options_addVariableRecord [Headroom] {v : Value α} (ok : d.addVariableRecord v = .ok d') :
    d'.options = d.options := by
  obtain ⟨u, -, ok⟩ := Except.bind_eq_ok.mp (Except.mapError_eq_ok.mp ok)
  obtain ⟨-, -, ok⟩ := Except.bind_eq_ok.mp ok
  cases ok
  exact (changesOnly_addVariable _ _).options

lemma options_addConstraintRecord [Headroom] {v : Value α} (ok : d.addConstraintRecord v = .ok d') :
    d'.options = d.options := by
  obtain ⟨c, -, ok⟩ := Except.bind_eq_ok.mp ok
  cases ok
  rfl

omit [Scalar α] in
lemma options_foldlM {add : Drawing String α → Value α → Except (Fault α) (Drawing String α)}
    (kept : ∀ {d d' v}, add d v = .ok d' → d'.options = d.options) {items : List (Value α)}
    (ok : items.foldlM add d = .ok d') : d'.options = d.options := by
  induction items generalizing d with
  | nil => exact congrArg Drawing.options (Except.ok.inj ok).symm
  | cons item rest ih =>
    rw [List.foldlM_cons] at ok
    obtain ⟨added, first, ok⟩ := Except.bind_eq_ok.mp ok
    exact (ih ok).trans (kept first)

lemma options_of_ofRecord [Headroom] {v : Value α} {options : NewtonOptions α}
    (ok : ofRecord v (some options) = .ok d) : d.options = options := by
  rw [ofRecord] at ok
  split at ok
  · cases ok
  · obtain ⟨given, same, ok⟩ := Except.bind_eq_ok.mp ok
    cases same
    obtain ⟨-, ok⟩ := Except.bind_unit_eq_ok.mp ok
    obtain ⟨points, -, ok⟩ := Except.bind_eq_ok.mp ok
    obtain ⟨pointed, first, ok⟩ := Except.bind_eq_ok.mp ok
    obtain ⟨unknowns, -, ok⟩ := Except.bind_eq_ok.mp ok
    obtain ⟨filled, second, ok⟩ := Except.bind_eq_ok.mp ok
    obtain ⟨constraints, -, ok⟩ := Except.bind_eq_ok.mp ok
    exact ((options_foldlM options_addConstraintRecord ok).trans
      (options_foldlM options_addVariableRecord second)).trans
        (options_foldlM options_addPointRecord first)

end Plane.Drawing

end

/-! ### Calls of the registry -/

namespace Registry

variable {α : Type}

/-- A call that changes the registry. Options may be registered as none at all. -/
inductive Call (α : Type) where
  | setDescent (o : Option (DescentOptions α))
  | setNewton (o : Option (NewtonOptions α))
  | reset

variable [Scalar α]

def Call.apply (r : Registry α) : Call α → Registry α
  | setDescent o => r.setDescent o
  | setNewton o => r.setNewton o
  | reset => .standard

def after (calls : List (Call α)) : Registry α := calls.foldl Call.apply .standard

/-- The options of gradient descents that a call registers, if it registers such. -/
def Call.descent? : Call α → Option (Option (DescentOptions α))
  | setDescent o => some o
  | setNewton _ => none
  | reset => some (some .standard)

/-- The options of planar solvers that a call registers, if it registers such. -/
def Call.newton? : Call α → Option (Option (NewtonOptions α))
  | setDescent _ => none
  | setNewton o => some o
  | reset => some (some .standard)

/-- The options of gradient descents that calls have registered last. -/
def lastDescent (calls : List (Call α)) : Option (DescentOptions α) :=
  (calls.filterMap Call.descent?).getLastD (some .standard)

/-- The options of planar solvers that calls have registered last. -/
def lastNewton (calls : List (Call α)) : Option (NewtonOptions α) :=
  (calls.filterMap Call.newton?).getLastD (some .standard)

omit [Scalar α] in
lemma getLastD_filterMap_concat {β : Type} (registers : Call α → Option β) (calls : List (Call α))
    (call : Call α) (first : β) : ((calls ++ [call]).filterMap registers).getLastD first =
      (registers call).getD ((calls.filterMap registers).getLastD first) := by
  rw [List.filterMap_append]
  cases registered : registers call with
  | none => simp [registered]
  | some o => simp [registered]

lemma after_eq (calls : List (Call α)) : after calls = ⟨lastDescent calls, lastNewton calls⟩ := by
  -- from the end, as each call overwrites what those before it have registered
  induction calls using List.reverseRecOn with
  | nil => rfl
  | append_singleton calls call ih =>
    rw [after, List.foldl_append, ← after, ih, lastDescent, lastDescent, lastNewton, lastNewton,
      getLastD_filterMap_concat, getLastD_filterMap_concat]
    cases call <;> rfl

/-- The options that solvers have which are built without any after calls of the registry. -/
structure Reaches [Headroom] (calls : List (Call α)) : Prop where
  /-- A gradient descent has those registered last, and cannot be built if there are none. -/
  descent : ∀ o, (after calls).descentFor none = .ok o ↔ lastDescent calls = some o
  /-- A planar solver has those registered last. -/
  newton : (after calls).newtonFor none = lastNewton calls
  /-- A sketch that is read has the standard ones. -/
  read : ∀ (v : Value α) (s : Sketch (Value α) α α), v.LacksOptions →
    Sketch.ofRecord v none = .ok s → s.options = .standard
  /-- A sketch that is read has those registered last only if they are the standard ones. -/
  agrees : ∀ (v : Value α) (s : Sketch (Value α) α α), v.LacksOptions →
    Sketch.ofRecord v none = .ok s →
      ((after calls).descentFor none = .ok s.options ↔ lastDescent calls = some .standard)
  /-- A drawing that is read has the standard ones. -/
  readPlanar : ∀ (v : Value α) (d : Plane.Drawing String α), v.LacksOptions →
    Plane.Drawing.ofRecord v none = .ok d → d.options = .standard
  /-- A drawing that is read has those registered last only if they are the standard ones. -/
  agreesPlanar : ∀ (v : Value α) (d : Plane.Drawing String α), v.LacksOptions →
    Plane.Drawing.ofRecord v none = .ok d →
      ((after calls).newtonFor none = some d.options ↔ lastNewton calls = some .standard)

/-- Solvers that are built without options have those registered last, but sketches and drawings
that are read without options have the standard ones. -/
theorem reaches_after [Headroom] (calls : List (Call α)) : Reaches calls := by
  have descent (o : DescentOptions α) :
      (after calls).descentFor none = .ok o ↔ lastDescent calls = some o := by
    rw [after_eq, descentFor, Option.none_or]
    cases lastDescent calls with
    | none => exact iff_of_false nofun nofun
    | some o' => rw [Except.ok.injEq, Option.some.injEq]
  have newton : (after calls).newtonFor none = lastNewton calls := by
    rw [after_eq, newtonFor, Option.none_or]
  have read (v : Value α) (s : Sketch (Value α) α α) (lacks : v.LacksOptions)
      (ok : Sketch.ofRecord v none = .ok s) : s.options = .standard :=
    Sketch.options_of_ofRecord (Sketch.ofRecord_of_lacksOptions lacks ▸ ok)
  have readPlanar (v : Value α) (d : Plane.Drawing String α) (lacks : v.LacksOptions)
      (ok : Plane.Drawing.ofRecord v none = .ok d) : d.options = .standard :=
    Plane.Drawing.options_of_ofRecord (Plane.Drawing.ofRecord_of_lacksOptions lacks ▸ ok)
  refine ⟨descent, newton, read, fun v s lacks ok => ?_, readPlanar, fun v d lacks ok => ?_⟩
  · rw [descent, read v s lacks ok]
  · rw [newton, readPlanar v d lacks ok]

/-- A sketch that is read without options need not have those that are registered: here, seven
iterations at most. -/
theorem not_forall_descentFor_eq :
    ¬∀ (calls : List (Call Float)) (v : Value Float) (s : Sketch (Value Float) Float Float),
      v.LacksOptions → Sketch.ofRecord v none = .ok s →
        (after calls).descentFor none = .ok s.options := by
  intro agree
  let few : DescentOptions Float := { DescentOptions.standard with maxIterations := .int 7 }
  have same : (.ok few : Except (Fault Float) (DescentOptions Float)) = .ok .standard :=
    agree [.setDescent (some few)] (.record []) (.empty .standard) ⟨[], rfl, rfl⟩ rfl
  have counts := congrArg DescentOptions.maxIterations (Except.ok.inj same)
  cases counts

end Registry

end Drafting
