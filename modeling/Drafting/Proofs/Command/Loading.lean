import Drafting.Command.Report
import Drafting.Proofs.Json
import Drafting.Proofs.Plane.Reading
import Drafting.Proofs.Sketch.Reachable

/-!
# Loading sketches from files

Bytes hold a value if they are those of a text that is read as one. What a run solves is read from
such a value (`Holds.value_load`): a sketch for one of the two solvers, unless the value is no
record, or reading it fails as is expected (`expected_read`). A sketch that has been read can be
solved if its options are numbers (`Loaded.IsCountable.exists_solve`).
-/

namespace Drafting

/-! ### Options that are numbers -/

/-- A mark, an integer that is not too large for a double, or a real. -/
def Value.IsCountable (v : Value Float) : Prop := ∃ x, v.CountsAs x

/-- Options of a gradient descent that are numbers, whatever tells whether it is verbose. -/
structure DescentOptions.AreCountable (o : DescentOptions Float) : Prop where
  maxIterations : o.maxIterations.IsCountable
  tolerance : o.tolerance.IsCountable
  damping : o.damping.IsCountable

/-- Options of a planar solver that are numbers. -/
structure NewtonOptions.AreCountable (o : NewtonOptions Float) : Prop where
  maxIterations : o.maxIterations.IsCountable
  tolerance : o.tolerance.IsCountable
  damping : o.damping.IsCountable
  epsilon : o.epsilon.IsCountable
  pivotTolerance : o.pivotTolerance.IsCountable

/-- The constraints of a sketch that has been read are typed, with texts as names. -/
lemma Sketch.isTyped_of_ofRecord [Headroom] {v : Value Float}
    {given? : Option (DescentOptions Float)} {s : Sketch (Value Float) Float Float}
    (read : ofRecord v given? = .ok s) {c : Constraint (Value Float) Float}
    (there : c ∈ s.constraints.values) : c.IsTyped ∧ c.IsNamed := by
  obtain ⟨entry, inside, rfl⟩ := List.mem_map.mp there
  exact ((reachable_of_ofRecord read).isStored.constraints entry inside).2

/-- A solve of a sketch that has been read comes to a solution if its options are numbers. -/
lemma Sketch.exists_solve_of_ofRecord [Headroom] {v : Value Float} {o : DescentOptions Float}
    {s : Sketch (Value Float) Float Float} (read : ofRecord v (some o) = .ok s)
    (numbers : o.AreCountable) (verbose : ∃ b, o.verbose.truth = .ok b) :
    ∃ solution, s.solve.result = .ok solution := by
  obtain rfl := options_of_ofRecord read
  obtain ⟨_, maxIterations⟩ := numbers.maxIterations
  obtain ⟨_, tolerance⟩ := numbers.tolerance
  obtain ⟨_, damping⟩ := numbers.damping
  have solvable : s.IsSolvable :=
    { cap := maxIterations.exists_iterationCap
      bound := tolerance.exists_bound
      tolerance := ⟨_, tolerance.factor_eq_ok⟩
      damping := ⟨_, damping.factor_eq_ok⟩
      verbose := verbose
      active := fun _ there => (isTyped_of_ofRecord read there).1.active
      named := fun _ there =>
        LawfulNamed.requireAll_of_isText Float (isTyped_of_ofRecord read there).2.entities }
  exact solvable.exists_solve

/-- What a solve of a sketch that has been read leaves out of account has texts as labels. -/
lemma Sketch.isText_of_solve [Headroom] {v : Value Float} {given? : Option (DescentOptions Float)}
    {s : Sketch (Value Float) Float Float} (read : ofRecord v given? = .ok s)
    {solution : Gradient.Solution (Value Float) Float} (solved : s.solve.result = .ok solution) :
    ∀ label ∈ solution.diagnostics.skipped ++ solution.diagnostics.unsupported,
      Name.IsText label := by
  rw [diagnostics_of_solve solved]
  refine List.forall_mem_append.mpr ⟨List.forall_mem_map.mpr fun c there => ?_,
    List.forall_mem_map.mpr fun c there => ?_⟩
  · exact (isTyped_of_ofRecord read (List.mem_of_mem_filter there)).2.id
  · exact (isTyped_of_ofRecord read (List.mem_of_mem_filter (List.mem_of_mem_filter there))).2.id

/-- A solve of a planar sketch that has been read comes to a solution if its options are numbers. -/
lemma Plane.Drawing.IsRead.exists_solve {P : Value Float → Prop} {d : Drawing String Float}
    {o : NewtonOptions Float} (isRead : d.IsRead P o) (numbers : o.AreCountable) :
    ∃ solution, d.solve.result = .ok solution := by
  obtain rfl := isRead.options
  obtain ⟨_, maxIterations⟩ := numbers.maxIterations
  obtain ⟨_, tolerance⟩ := numbers.tolerance
  obtain ⟨damping, factor⟩ := numbers.damping
  obtain ⟨epsilon, width⟩ := numbers.epsilon
  obtain ⟨pivotTolerance, pivot⟩ := numbers.pivotTolerance
  obtain ⟨cap, counted⟩ := maxIterations.exists_iterationCap
  obtain ⟨bound, bounded⟩ := tolerance.exists_bound
  have settled : Settings.IsOf ⟨cap, bound, epsilon, pivotTolerance, .uniform damping⟩ d.options :=
    ⟨counted, bounded, term_eq_ok width, leastPivot_eq_ok pivot, damping, rfl, gain_eq_ok factor⟩
  have indexed := isRead.inStep.registered.isIndexed
  exact isRead.plannable.exists_solve indexed.full indexed.slots settled

namespace Command

/-! ### Sketches in files -/

/-- A sketch for one of the two solvers. -/
inductive Loaded where
  | sketch (s : Sketch (Value Float) Float Float)
  | drawing (d : Plane.Drawing String Float)

/-- The sketch that fields hold for the solver that is asked for, with options of the command
line. -/
def Arguments.read [Headroom] (a : Arguments) (fields : List (String × Value Float)) :
    Except (Fault Float) Loaded :=
  match pickEngine (a.engine.bind Setting.value?) fields with
  | .gradient => do
    let options ← DescentOptions.ofValue (fieldOrNull fields "options")
    return .sketch (← Sketch.ofRecord (.record fields) (some (a.descent options)))
  | .planar => do
    let options ← NewtonOptions.ofValue (fieldOrNull fields "options")
    return .drawing (← Plane.Drawing.ofRecord (.record fields) (some (a.newton options)))

/-- That a value is a text. -/
def IsText (v : Value Float) : Prop := ∃ s, v = .text s

namespace Loaded

/-- What is known once a sketch is solved in some time. -/
def solve (elapsed : Float) : Loaded → Except (Fault Float) Summary
  | sketch s => s.solve.result.map fun solution =>
    ⟨solution.success, gradientLines solution, solution.toRecord elapsed⟩
  | drawing d => d.solve.result.map fun solution =>
    ⟨solution.success, planarLines solution, solution.toRecord⟩

/-- Whether the options of a sketch are numbers. -/
def IsCountable : Loaded → Prop
  | sketch s => s.options.AreCountable
  | drawing d => d.options.AreCountable

/-- The labels of the planar constraints that a solve leaves out of account. -/
def labels : Loaded → List (Value Float)
  | sketch _ => []
  | drawing d => d.plan.toOption.elim [] fun plan =>
    plan.diagnostics.skipped ++ plan.diagnostics.unsupported

/-- A sketch with what solving it has come to. -/
def solved : Loaded → Solved
  | sketch s => .gradient s s.descend
  | drawing d => .planar d d.solve.result

lemma summary_solved (l : Loaded) (elapsed : Float) :
    l.solved.summary elapsed = l.solve elapsed := by
  cases l <;> rfl

end Loaded

/-- That bytes are those of a text that is read as a value. -/
def Holds (bytes : List UInt8) (v : Value Float) : Prop :=
  ∃ cs, Text.decode bytes = .ok cs ∧ Json.read (String.ofList (Text.unifyLines cs)) = .ok v

lemma Holds.unique {bytes : List UInt8} {v w : Value Float} (holds : Holds bytes v)
    (holds' : Holds bytes w) : v = w := by
  obtain ⟨cs, decoded, read⟩ := holds
  obtain ⟨cs', decoded', read'⟩ := holds'
  cases decoded.symm.trans decoded'
  exact Except.ok.inj (read.symm.trans read')

lemma Holds.isJson {bytes : List UInt8} {v : Value Float} (holds : Holds bytes v) :
    v.IsJson fun w => w.IsPartOf v := by
  obtain ⟨cs, -, read⟩ := holds
  exact (Json.isJson_of_read read).of_isPartOf fun _ part => part

/-! ### Bytes -/

/-- Failures to read bytes as a value that no status stands for. -/
inductive IsUnreadable (bytes : List UInt8) : Failure → Prop
  | bytes {failure : Text.ByteFailure} : Text.decode bytes = .error failure →
    IsUnreadable bytes (.bytes failure)
  /-- An integer has too many digits. -/
  | number {cs : List Char} {failure : Json.Failure} {count : ℕ} : Text.decode bytes = .ok cs →
    (Json.read (String.ofList (Text.unifyLines cs)) : Except _ (Value Float)) = .error failure →
    failure.complaint = .tooManyDigits count → IsUnreadable bytes (.number (.tooManyDigits count))
  /-- Lists and records are nested too deeply. -/
  | depth {cs : List Char} {failure : Json.Failure} {isArray : Bool} : Text.decode bytes = .ok cs →
    (Json.read (String.ofList (Text.unifyLines cs)) : Except _ (Value Float)) = .error failure →
    failure.complaint = .tooDeep isArray → IsUnreadable bytes (.depth (.tooDeep isArray))

lemma Holds.value_content {bytes : List UInt8} {v : Value Float} (holds : Holds bytes v)
    (path : String) : (content path bytes).value = .ok v := by
  obtain ⟨cs, decoded, read⟩ := holds
  rw [content, decoded]
  dsimp only
  rw [read]
  rfl

/-- Bytes hold a value, or a run ends with status 2 or in a failure. -/
lemma exists_value_content (path : String) (bytes : List UInt8) :
    (∃ v, Holds bytes v) ∨ (content path bytes).value = .error (.status 2) ∨
      ∃ failure, IsUnreadable bytes failure ∧
        (content path bytes).value = .error (.failed failure) := by
  rw [content]
  cases decoded : Text.decode bytes with
  | error failure => exact .inr (.inr ⟨_, .bytes decoded, rfl⟩)
  | ok cs =>
    dsimp only
    cases read : Json.read (α := Float) (String.ofList (Text.unifyLines cs)) with
    | ok v => exact .inl ⟨v, cs, decoded, read⟩
    | error failure =>
      dsimp only
      split
      · next count complaint => exact .inr (.inr ⟨_, .number decoded read complaint, rfl⟩)
      · next isArray complaint => exact .inr (.inr ⟨_, .depth decoded read complaint, rfl⟩)
      · exact .inr (.inl rfl)

/-! ### Stages -/

lemma value_next {β γ : Type} (stage : Stage β) (f : β → Stage γ) :
    (stage.next f).value = stage.value >>= fun x => (f x).value := by
  rw [Stage.next]
  cases stage.value <;> rfl

/-- How a run ends with a fault in reading. -/
def endingOf (fault : Fault Float) : Ending :=
  if fault.isMalformed then .status 2 else .failed (.fault fault)

lemma value_checked {β : Type} (path : String) (result : Except (Fault Float) β) :
    (checked path result).value = result.mapError endingOf := by
  cases result with
  | ok x => rfl
  | error cause =>
    rw [checked, Except.mapError, endingOf]
    cases cause.isMalformed <;> rfl

lemma value_reading {β : Type} (path : String) (l : Logged (Except (Fault Float) β)) :
    (reading path l).value = l.value.mapError endingOf :=
  value_checked path l.value

lemma bind_ok {ε β : Type} (x : Except ε β) : (x >>= fun y => .ok y) = x := bind_pure x

lemma value_whenOk {ε β γ : Type} (l : Logged (Except ε β)) (f : β → Logged (Except ε γ)) :
    (l.whenOk f).value = l.value >>= fun x => (f x).value := by
  rw [Logged.whenOk]
  cases l.value <;> rfl

variable [Headroom]

lemma value_call {β : Type} (name : String) (arguments : List (Value Float))
    (shown : β → Value Float) (body : Logged (Except (Fault Float) β)) :
    (Log.Reading.call name arguments shown body).value = body.value := rfl

lemma value_loadEntities (s : Sketch (Value Float) Float Float) (items : List (Value Float)) :
    (Sketch.Front.loadEntities s items).value = s.addEntityRecords items := by
  induction items generalizing s with
  | nil => rfl
  | cons item rest ih =>
    simp only [Sketch.Front.loadEntities, Sketch.addEntityRecords, value_whenOk, ih]
    rfl

lemma value_loadConstraints (s : Sketch (Value Float) Float Float) (items : List (Value Float)) :
    (Sketch.Front.loadConstraints s items).value = s.addConstraintRecords items := by
  induction items generalizing s with
  | nil => rfl
  | cons item rest ih =>
    simp only [Sketch.Front.loadConstraints, Sketch.addConstraintRecords, value_whenOk, ih]
    rfl

/-- A sketch is loaded as it is read. -/
lemma value_load_sketch (v : Value Float) (given? : Option (DescentOptions Float)) :
    (Sketch.Front.load v given? : Logged (Except (Fault Float)
      (Sketch (Value Float) Float Float))).value = Sketch.ofRecord v given? := by
  rw [Sketch.Front.load, value_call, Sketch.ofRecord]
  cases v.fields? with
  | none => rfl
  | some fields =>
    simp only [Sketch.Front.loadFields, value_whenOk, value_loadEntities, value_loadConstraints,
      bind_ok]
    cases given? <;> rfl

lemma value_loadDrawing (d : Plane.Drawing String Float) (items : List (Value Float)) :
    (Plane.Session.loadConstraints d items).value =
      items.foldlM Plane.Drawing.addConstraintRecord d := by
  induction items generalizing d with
  | nil => rfl
  | cons item rest ih =>
    simp only [Plane.Session.loadConstraints, List.foldlM_cons, value_whenOk, ih]

/-- A planar sketch is loaded as it is read. -/
lemma value_load_drawing (v : Value Float) (given? : Option (NewtonOptions Float)) :
    (Plane.Session.load v given? : Logged (Except (Fault Float)
      (Plane.Drawing String Float))).value = Plane.Drawing.ofRecord v given? := by
  rw [Plane.Session.load, value_call, Plane.Drawing.ofRecord]
  cases v.fields? with
  | none => rfl
  | some fields =>
    simp only [Plane.Session.loadFields, value_whenOk, value_loadDrawing]
    cases given? <;> rfl

lemma value_solveGradient (a : Arguments) (fields : List (String × Value Float)) :
    (solveGradient a fields).value = (do
      let options ← (DescentOptions.ofValue (fieldOrNull fields "options")).mapError endingOf
      let s : Sketch (Value Float) Float Float ←
        (Sketch.ofRecord (.record fields) (some (a.descent options))).mapError endingOf
      return .gradient s s.descend) := by
  simp only [solveGradient, value_next, value_reading, value_load_sketch]
  rfl

lemma value_solvePlanar (a : Arguments) (fields : List (String × Value Float)) :
    (solvePlanar a fields).value = (do
      let options ← (NewtonOptions.ofValue (fieldOrNull fields "options")).mapError endingOf
      let d ← (Plane.Drawing.ofRecord (.record fields) (some (a.newton options))).mapError endingOf
      return .planar d d.solve.result) := by
  simp only [solvePlanar, value_next, value_reading, value_load_drawing]
  rfl

/-- Solving what fields hold is reading it as a sketch first. -/
lemma mapError_read (a : Arguments) (fields : List (String × Value Float)) :
    ((a.read fields).mapError endingOf).map Loaded.solved =
      match pickEngine (a.engine.bind Setting.value?) fields with
      | .gradient => (solveGradient a fields).value
      | .planar => (solvePlanar a fields).value := by
  rw [Arguments.read, value_solveGradient, value_solvePlanar]
  cases pickEngine (a.engine.bind Setting.value?) fields with
  | gradient =>
    simp only [Except.mapError_bind]
    cases (DescentOptions.ofValue (fieldOrNull fields "options")).mapError endingOf with
    | error ending => rfl
    | ok options =>
      simp only [bind, Except.bind]
      cases (Sketch.ofRecord (.record fields) (some (a.descent options)) :
        Except (Fault Float) (Sketch (Value Float) Float Float)).mapError endingOf <;> rfl
  | planar =>
    simp only [Except.mapError_bind]
    cases (NewtonOptions.ofValue (fieldOrNull fields "options")).mapError endingOf with
    | error ending => rfl
    | ok options =>
      simp only [bind, Except.bind]
      cases (Plane.Drawing.ofRecord (.record fields) (some (a.newton options)) :
        Except (Fault Float) (Plane.Drawing String Float)).mapError endingOf <;> rfl

/-- Loading is reading what the file holds as a sketch. -/
lemma value_load (a : Arguments) (bytes : List UInt8) :
    (load a (.ok bytes)).value = (content a.path bytes).value >>= fun
      | .record fields => ((a.read fields).mapError endingOf).map Loaded.solved
      | _ => .error (.status 2) := by
  rw [load, payload]
  dsimp only
  rw [value_next, value_next, bind_assoc]
  congr 1
  funext v
  cases v with
  | record fields =>
    dsimp only
    rw [mapError_read]
    show (Stage.next _ _).value = _
    rw [value_next]
    cases pickEngine (a.engine.bind Setting.value?) fields <;> rfl
  | _ => rfl

/-! ### Sketches in bytes -/

section

variable {P : Value Float → Prop} {a : Arguments} {bytes : List UInt8}
  {fields : List (String × Value Float)}

/-- A setting of the command line is copied, as the option in its place is. -/
lemma due_requireCopy_setting {β : Type} {f : β → Value Float} (single : ∀ x, (f x).copyDepth = 0)
    (setting? : Option (Setting β)) {v : Value Float} (copied : Due P Any v.requireCopy) :
    Due P Any ((setting?.map (Setting.toValue f)).getD v).requireCopy := by
  match setting? with
  | none => exact copied
  | some .nothing => exact Value.due_requireCopy_of_single rfl
  | some (.value x) => exact Value.due_requireCopy_of_single (single x)

lemma areCopied_descent {o : DescentOptions Float} (copied : o.AreCopied P) :
    (a.descent o).AreCopied P where
  maxIterations := due_requireCopy_setting (fun _ => rfl) _ copied.maxIterations
  tolerance := due_requireCopy_setting (fun _ => rfl) _ copied.tolerance
  damping := due_requireCopy_setting (fun _ => rfl) _ copied.damping
  verbose := by
    rw [Arguments.descent]
    cases a.verbose with
    | true => exact Value.due_requireCopy_of_single rfl
    | false => exact copied.verbose

lemma areCopied_newton {o : NewtonOptions Float} (copied : o.AreCopied P) :
    (a.newton o).AreCopied P where
  maxIterations := due_requireCopy_setting (fun _ => rfl) _ copied.maxIterations
  tolerance := due_requireCopy_setting (fun _ => rfl) _ copied.tolerance
  damping := due_requireCopy_setting (fun _ => rfl) _ copied.damping
  epsilon := copied.epsilon
  pivotTolerance := copied.pivotTolerance

/-- Reading a sketch fails in no other way than those that are expected. -/
lemma expected_read (whole : (Value.record fields).IsJson P) {fault : Fault Float}
    (failed : a.read fields = .error fault) :
    fault.IsExpected P (fieldOrNull fields "options") := by
  have options := whole.areJson.fieldOrNull "options"
  have ends : Ends (Fault.IsExpected P (fieldOrNull fields "options")) Any (a.read fields) := by
    rw [Arguments.read]
    split
    · refine (expected_descentOptions options).bind fun o _ ⟨_, copied⟩ => ?_
      have given : ∀ o' ∈ some (a.descent o), o'.AreCopied P := by
        rintro _ ⟨⟩
        exact areCopied_descent copied
      exact (Sketch.expected_ofRecord whole given).bind fun _ _ _ => trivial
    · refine (expected_newtonOptions options).bind fun o _ ⟨_, copied⟩ => ?_
      have given : ∀ o' ∈ some (a.newton o), o'.AreCopied P := by
        rintro _ ⟨⟩
        exact areCopied_newton copied
      exact (Plane.Drawing.expected_ofRecord whole given).bind fun _ _ _ => trivial
  rw [failed] at ends
  exact ends

omit [Headroom] in
lemma isJson_setting {β : Type} {f : β → Value Float} (single : ∀ x, (f x).IsJson P)
    (setting? : Option (Setting β)) {v : Value Float} (json : v.IsJson P) :
    ((setting?.map (Setting.toValue f)).getD v).IsJson P := by
  match setting? with
  | none => exact json
  | some .nothing => exact .list (absurd rfl) (List.forall_mem_nil _)
  | some (.value x) => exact single x

/-- A sketch that has been read from fields. -/
inductive Loaded.IsRead (P : Value Float → Prop) (fields : List (String × Value Float)) :
    Loaded → Prop
  | sketch {o : DescentOptions Float} {s : Sketch (Value Float) Float Float} :
    Sketch.ofRecord (.record fields) (some o) = .ok s → (∃ b, o.verbose.truth = .ok b) →
    IsRead P fields (.sketch s)
  | drawing {o : NewtonOptions Float} {d : Plane.Drawing String Float} : d.IsRead P o →
    o.AreShown P → IsRead P fields (.drawing d)

lemma isRead_of_read (whole : (Value.record fields).IsJson P) {l : Loaded}
    (read : a.read fields = .ok l) : l.IsRead P fields := by
  have options := whole.areJson.fieldOrNull "options"
  rw [Arguments.read] at read
  split at read
  · obtain ⟨o, given, read⟩ := Except.bind_eq_ok.mp read
    obtain ⟨s, loaded, same⟩ := Except.bind_eq_ok.mp read
    cases same
    have expected := expected_descentOptions options
    rw [given] at expected
    refine .sketch loaded ?_
    rw [Arguments.descent]
    cases a.verbose with
    | true => exact ⟨true, rfl⟩
    | false => exact ⟨_, expected.1.truth_eq_ok⟩
  · obtain ⟨o, given, read⟩ := Except.bind_eq_ok.mp read
    obtain ⟨d, loaded, same⟩ := Except.bind_eq_ok.mp read
    cases same
    have expected := expected_newtonOptions options
    rw [given] at expected
    have due := Plane.Drawing.due_ofRecord whole.areJson (areCopied_newton (a := a) expected.2)
    rw [loaded] at due
    exact .drawing due.1 ⟨isJson_setting .real _ expected.1.tolerance, expected.1.pivotTolerance⟩

/-- A sketch that has been read can be solved if its options are numbers. -/
lemma Loaded.IsRead.exists_solve {l : Loaded} (isRead : l.IsRead P fields) (numbers : l.IsCountable)
    (elapsed : Float) : ∃ summary, l.solve elapsed = .ok summary := by
  cases isRead with
  | sketch loaded verbose =>
    obtain ⟨solution, solved⟩ := Sketch.exists_solve_of_ofRecord loaded
      (Sketch.options_of_ofRecord loaded ▸ numbers) verbose
    exact ⟨_, by rw [solve, solved]; rfl⟩
  | drawing isRead =>
    obtain ⟨solution, solved⟩ := isRead.exists_solve (isRead.options ▸ numbers)
    exact ⟨_, by rw [solve, solved]; rfl⟩

/-- A file that holds no record is refused. -/
lemma Holds.value_load_of_not {v : Value Float} (holds : Holds bytes v) (other : v.isRecord = false)
    (a : Arguments) : (load a (.ok bytes)).value = .error (.status 2) := by
  rw [value_load, holds.value_content]
  cases v with
  | record fields => cases other
  | _ => rfl

/-- A file that holds a record is read as a sketch. -/
lemma Holds.value_load (holds : Holds bytes (.record fields)) (a : Arguments) :
    (load a (.ok bytes)).value = ((a.read fields).mapError endingOf).map Loaded.solved := by
  rw [Command.value_load, holds.value_content]
  rfl

lemma Holds.value_load_of_error (holds : Holds bytes (.record fields)) {fault : Fault Float}
    (failed : a.read fields = .error fault) :
    (load a (.ok bytes)).value = .error (endingOf fault) := by
  rw [holds.value_load, failed]
  rfl

lemma Holds.value_load_of_ok (holds : Holds bytes (.record fields)) {l : Loaded}
    (read : a.read fields = .ok l) : (load a (.ok bytes)).value = .ok l.solved := by
  rw [holds.value_load, read]
  rfl

end

end Command

end Drafting
