import Drafting.Sketch.Reading
import Drafting.Sketch.Writing
import Drafting.Gradient.Writing
import Drafting.Log.Reading

/-!
# Sketches in use, with their log

Every operation on a sketch with the log lines it writes. A sketch is addressed directly as an
engine, or through the solver around it, which passes each call on; both trace their calls.
-/

namespace Drafting.Sketch

/-- Through what a sketch is addressed. -/
inductive Front where
  | engine
  | solver
  deriving DecidableEq, Repr

namespace Front

variable {ν τ : Type} [Name ν]

/-- The text of a sketch as it is addressed. -/
def text (front : Front) (s : Sketch ν τ Float) : String :=
  match front with
  | engine => s.engineText
  | solver => s.solverText

/-- A call of the engine. -/
def engineCall {β : Type} (s : Sketch ν τ Float) (name : String) (arguments : List (Value Float))
    (shown : β → Value Float) (body : Logged (Except (Fault Float) β)) :
    Logged (Except (Fault Float) β) :=
  let self : Value Float := .object "ConstraintSolverEngine" s.engineText .full
  (Log.Call.mk .engine ("ConstraintSolverEngine." ++ name) (self :: arguments) []).traced
    (.as shown) body

/-- A call of the solver around the engine. -/
def solverCall {β : Type} (s : Sketch ν τ Float) (name : String) (arguments : List (Value Float))
    (shown : β → Value Float) (body : Logged (Except (Fault Float) β)) :
    Logged (Except (Fault Float) β) :=
  let self : Value Float := .object "ConstraintSolver" s.solverText .full
  (Log.Call.mk .facade ("ConstraintSolver." ++ name) (self :: arguments) []).traced (.as shown) body

/-- A call of whatever a sketch is addressed through. -/
def call {β : Type} (front : Front) (s : Sketch ν τ Float) (name : String)
    (arguments : List (Value Float)) (inner outer : β → Value Float)
    (body : Logged (Except (Fault Float) β)) : Logged (Except (Fault Float) β) :=
  let passed := engineCall s name arguments inner body
  match front with
  | engine => passed
  | solver => solverCall s name arguments outer passed

/-- A call that changes the sketch and has no other result. -/
def update (front : Front) (s : Sketch ν τ Float) (name : String) (arguments : List (Value Float))
    (records : List Log.Record) (result : Except (Fault Float) (Sketch ν τ Float)) :
    Logged (Except (Fault Float) (Sketch ν τ Float)) :=
  front.call s name arguments (fun _ => .null) (fun _ => .null) ⟨records, result⟩

/-- The lines that building a sketch writes. -/
def newRecords (options : DescentOptions Float) : List Log.Record :=
  if options.method = .gradientDescent then []
  else [Gradient.engineRecord .warning ("Solve method " ++ Text.quoted options.method.name ++
    " is not implemented; the gradient-descent path will be used")]

/-- The line for a sketch that has been read. -/
def loadedRecord (s : Sketch ν τ Float) : Log.Record :=
  .plain .info .serialization ("Loaded sketch: " ++ toString s.entities.size ++ " entities, " ++
    toString s.constraints.size ++ " constraints")

/-- Removes a constraint. -/
def removeConstraint [Named ν Float] (front : Front) (s : Sketch ν τ Float) (id : ν) :
    Logged (Except (Fault Float) (Sketch ν τ Float)) :=
  front.update s "remove_constraint" [Named.toValue id] [] (s.removeConstraint id)

/-- The line for constraints that go with an entity. -/
def removalRecords [Named ν Float] (s : Sketch ν τ Float) (id : ν) : List Log.Record :=
  match (s.removeEntity id).result, s.constraintsFor id with
  | .ok (), .ok dropped@(_ :: _) =>
    [Gradient.engineRecord .debug ("Removed " ++ toString dropped.length ++
      " constraint(s) referencing " ++ Name.plain id ++ ": " ++
      Name.listText (dropped.map Constraint.id))]
  | _, _ => []

/-- Removes an entity. -/
def removeEntity [Named ν Float] (front : Front) (s : Sketch ν τ Float) (id : ν) :
    Logged (Attempt ν τ Float Unit) :=
  let attempt := s.removeEntity id
  let called := front.call s "remove_entity" [Named.toValue id] (fun _ => .null) (fun _ => .null)
    ⟨removalRecords s id, attempt.result⟩
  ⟨called.records, ⟨attempt.sketch, called.value⟩⟩

/-- Switches a constraint on or off. -/
def setActive [Named ν Float] (front : Front) (s : Sketch ν τ Float) (id : ν)
    (active : Value Float) : Logged (Except (Fault Float) (Sketch ν τ Float)) :=
  front.update s "set_constraint_active" [Named.toValue id, active] [] (s.setActive id active)

/-- Adds a constraint. -/
def addConstraint (front : Front) (s : Sketch ν τ Float) (c : Constraint ν Float) :
    Logged (Except (Fault Float) (Sketch ν τ Float)) :=
  front.update s "add_constraint" [c.toObject] [] (s.addConstraint c)

/-- Removes everything. -/
def clear (front : Front) (s : Sketch ν τ Float) :
    Logged (Except (Fault Float) (Sketch ν τ Float)) :=
  front.update s "clear" []
    [Gradient.engineRecord .debug ("Clearing " ++ toString s.entities.size ++ " entities / " ++
      toString s.constraints.size ++ " constraints")]
    (.ok s.clear)

/-- Stores the entities of a solution. -/
def commit (front : Front) (s : Sketch ν τ Float) (solution : Gradient.Solution ν τ) :
    Logged (Except (Fault Float) (Sketch ν τ Float)) :=
  front.update s "commit" [.object "ConstraintSolution" "ConstraintSolution(...)" .full] []
    (.ok (s.commit solution))

/-- The value of a call that cannot fail. -/
def settle {β : Type} (otherwise : β) (l : Logged (Except (Fault Float) β)) : Logged β :=
  ⟨l.records, l.value.toOption.getD otherwise⟩

/-- Things by their ids as a value. -/
def byId [Named ν Float] {β : Type} (show' : β → Value Float) (entries : List (ν × β)) :
    Value Float :=
  .ofEntries (entries.map fun entry => (Named.toValue entry.1, show' entry.2))

/-- The constraints. -/
def constraints [Named ν Float] (front : Front) (s : Sketch ν τ Float) :
    Logged (List (Constraint ν Float)) :=
  settle [] <| front.call s "get_constraints" []
    (fun _ => byId Constraint.toObject s.constraints.entries)
    (fun cs => .list (cs.map Constraint.toObject)) (.quiet (.ok s.constraints.values))

/-- The constraints that name an entity. -/
def constraintsFor [Named ν Float] (front : Front) (s : Sketch ν τ Float) (id : ν) :
    Logged (Except (Fault Float) (List (Constraint ν Float))) :=
  let shown (cs : List (Constraint ν Float)) : Value Float := .list (cs.map Constraint.toObject)
  front.call s "get_constraints_for_entity" [Named.toValue id] shown shown
    (.quiet (s.constraintsFor id))

/-- The record of a constraint, written out as a traced call. -/
def constraintRecord [Named ν Float] (c : Constraint ν Float) :
    Logged (Except (Fault Float) (Value Float)) :=
  (Log.Call.mk .serialization "constraint_to_dict" [c.toObject] []).traced (.as id)
    (.quiet c.toRecord)

/-- The records of the constraints. -/
def constraintRecords [Named ν Float] (front : Front) (s : Sketch ν τ Float) :
    Logged (Except (Fault Float) (List (Value Float))) :=
  (front.constraints s).andThen (Logged.each constraintRecord)

variable [Scalar τ]

/-- Adds an entity. -/
def addEntity (front : Front) (s : Sketch ν τ Float) (e : Entity ν τ) :
    Logged (Except (Fault Float) (Sketch ν τ Float)) :=
  front.update s "add_entity" [e.toObject] [] (s.addEntity e)

/-- The entities. -/
def entities [Named ν Float] (front : Front) (s : Sketch ν τ Float) : Logged (List (Entity ν τ)) :=
  settle [] <| front.call s "get_entities" []
    (fun _ => byId Entity.toObject s.entities.entries)
    (fun es => .list (es.map Entity.toObject)) (.quiet (.ok s.entities.values))

variable [Component τ Float]

/-- Moves an entity. -/
def moveEntity [Named ν Float] (front : Front) (s : Sketch ν τ Float) (id : ν)
    (position : Value Float) : Logged (Except (Fault Float) (Sketch ν τ Float)) :=
  front.update s "move_entity" [Named.toValue id, position] [] (s.moveEntity id position)

/-- Reads the entities that records describe, and adds them. -/
def loadEntities [Named ν Float] [Headroom] (s : Sketch ν τ Float) :
    List (Value Float) → Logged (Except (Fault Float) (Sketch ν τ Float))
  | [] => .quiet (.ok s)
  | item :: rest =>
    let read := Log.Reading.call "entity_from_dict" [item] Entity.toObject
      (.quiet (Entity.ofRecord item))
    read.whenOk fun e => Logged.whenOk (.quiet (s.addEntity e)) fun s => loadEntities s rest

/-- Reads the constraints that records describe, and adds them. -/
def loadConstraints [Named ν Float] [Headroom] (s : Sketch ν τ Float) :
    List (Value Float) → Logged (Except (Fault Float) (Sketch ν τ Float))
  | [] => .quiet (.ok s)
  | item :: rest =>
    let read := Log.Reading.call "constraint_from_dict" [item] Constraint.toObject
      (.quiet (Constraint.ofRecord item))
    read.whenOk fun c => Logged.whenOk (.quiet (s.addConstraint c)) fun s => loadConstraints s rest

/-- Reads a sketch with the fields of a value. -/
def loadFields [Named ν Float] [Headroom] (v : Value Float) (fields : List (String × Value Float))
    (given? : Option (DescentOptions Float)) : Logged (Except (Fault Float) (Sketch ν τ Float)) :=
  let given := fieldOrNull fields "options"
  let options := Log.Reading.optionsFor "SolverOptions" given? given (DescentOptions.ofValue given)
  options.whenOk fun options =>
  Logged.whenOk (.quiet options.requireCopy) fun _ =>
  Logged.whenOk ⟨newRecords options, .ok ()⟩ fun _ =>
  (Log.Reading.sectionRecords v fields "entities").whenOk fun entities =>
  (loadEntities (.empty options) entities).whenOk fun s =>
  (Log.Reading.sectionRecords v fields "constraints").whenOk fun constraints =>
  (loadConstraints s constraints).whenOk fun s => ⟨[loadedRecord s], .ok s⟩

/-- Reads a sketch. -/
def load [Named ν Float] [Headroom] (v : Value Float) (given? : Option (DescentOptions Float)) :
    Logged (Except (Fault Float) (Sketch ν τ Float)) :=
  Log.Reading.call "load_sketch" [v, Log.Reading.givenOptions "SolverOptions" given?]
    (fun s => .object "ConstraintSolver" s.solverText .full) <|
    match v.fields? with
    | none => .quiet (.error .notSketch)
    | some fields => loadFields v fields given?

/-- The record of an entity, written out as a traced call. -/
def entityRecord [Named ν Float] (e : Entity ν τ) : Logged (Value Float) :=
  settle .null <| (Log.Call.mk .serialization "entity_to_dict" [e.toObject] []).traced (.as id)
    (.quiet (.ok e.toRecord))

/-- The records of the entities. -/
def entityRecords [Named ν Float] (front : Front) (s : Sketch ν τ Float) :
    Logged (List (Value Float)) := do
  (← front.entities s).mapM entityRecord

/-- The record of the sketch. -/
def sketchRecord [Named ν Float] (s : Sketch ν τ Float) :
    Logged (Except (Fault Float) (Value Float)) :=
  let self : Value Float := .object "ConstraintSolver" s.solverText .full
  let record (entities constraints : List (Value Float)) : Value Float :=
    .record [("options", .record s.options.toFields), ("entities", .list entities),
      ("constraints", .list constraints)]
  let written : Logged (Except (Fault Float) (List (Value Float) × List (Value Float))) :=
    (solver.entityRecords s).andThen fun entities =>
      (solver.constraintRecords s).whenOk fun constraints => .quiet (.ok (entities, constraints))
  let called := (Log.Call.mk .serialization "dump_sketch" [self] []).traced
    (.as fun lists => record lists.1 lists.2) written
  ⟨called.records, called.value.map fun lists => record lists.1 lists.2⟩

/-- The lines of a run of the descent, which took `elapsed` seconds, from its start on. -/
def runRecords (s : Sketch ν τ Float) (run : Except (Fault Float) (Gradient.Solution ν τ))
    (elapsed : Float) : List Log.Record :=
  let start := (Gradient.startRecord? s.entities.size s.plan.length s.options.maxIterations
    s.options.tolerance s.options.damping).toList
  match run with
  | .error _ => start
  | .ok solution =>
    if s.plan.isEmpty then start
    else
      start ++ Gradient.stepRecords s.options.verbose.isTruthy solution.history ++
        match s.requireReportable solution with
        | .ok () => [Gradient.endRecord solution elapsed]
        | .error _ => []

/-- The lines of a solve, which took `elapsed` seconds. -/
def solveRecords (s : Sketch ν τ Float) (run : Except (Fault Float) (Gradient.Solution ν τ))
    (elapsed : Float) : List Log.Record :=
  Gradient.planRecords s.entities s.constraints.values ++
    match Gradient.requirePlannable s.constraints.values with
    | .ok () => runRecords s run elapsed
    | .error _ => []

/-- Solves a sketch in `elapsed` seconds. -/
def solve [Named ν Float] (s : Sketch ν τ Float) (elapsed : Float) :
    Logged (Attempt ν τ Float (Gradient.Solution ν τ)) :=
  ⟨solveRecords s s.descend elapsed, s.solve⟩

/-- The record of the solution of a sketch. Where the tolerance is an array with axes, so is the
outcome of the comparison with it. -/
def solutionRecord [Named ν Float] (s : Sketch ν τ Float) (solution : Gradient.Solution ν τ)
    (elapsed : Float) : Value Float :=
  let written := solution.toRecord elapsed
  match s.plan, s.options.tolerance, written with
  | _ :: _, .array _ (n :: shape) _, .record fields =>
    .record (Assoc.set "success" (Value.group (n :: shape) [.flag solution.success]) fields)
  | _, _, written => written

end Front

end Drafting.Sketch
