import Drafting.Log.Reading
import Drafting.Plane.Progress
import Drafting.Plane.Reading

/-!
# Drawings in use, with their log

Every operation on a drawing with the log lines it writes, among them those of the calls it makes.
A solution is turned into a record by traced calls, too.
-/

namespace Drafting.Plane.Session

variable {ν : Type} [Name ν] [Named ν Float] [Headroom]

/-- An object as a value that is no data. -/
def itemValue (b : Board ν Float) (item : Item) : Value Float :=
  .object item.kindName (b.itemText item) .full

/-- What a reference stands for as a value. -/
def referenceValue (b : Board ν Float) : Reference Float → Value Float
  | .item item => itemValue b item
  | .value v => v

/-- A traced call on a drawing. -/
def call {β : Type} (d : Drawing ν Float) (name : String) (arguments : List (Value Float))
    (shown : β → Value Float) (body : Logged (Attempt ν Float β)) : Logged (Attempt ν Float β) :=
  let call := d.call name arguments
  ⟨call.entry :: body.records ++ [call.leave (.as shown) body.value.result], body.value⟩

/-- A traced call without a result. -/
def update (d : Drawing ν Float) (name : String) (arguments : List (Value Float))
    (body : Logged (Attempt ν Float Unit)) : Logged (Attempt ν Float Unit) :=
  call d name arguments (fun _ => .null) body

/-- Goes on with a drawing, unless the call has failed. -/
def thenCall {β γ : Type} (l : Logged (Attempt ν Float β))
    (f : Drawing ν Float → β → Logged (Attempt ν Float γ)) : Logged (Attempt ν Float γ) :=
  match l.value.result with
  | .ok x => let next := f l.value.drawing x; ⟨l.records ++ next.records, next.value⟩
  | .error fault => ⟨l.records, l.value.drawing.fail fault⟩

/-- Uses an object as an unknown. -/
def addVariable (d : Drawing ν Float) (item : Item) : Logged (Attempt ν Float Unit) :=
  update d "add_variable" [itemValue d.board item] (.quiet (d.addVariable item))

/-- Uses a new unknown for one coordinate of an object with an id. -/
def addCoordinate (d : Drawing ν Float) (id : ν) (item : Item) (axis : Kind) :
    Logged (Attempt ν Float Unit) :=
  match d.coordinateOf id item axis with
  | .ok v => addVariable (d.place v) (.variable d.board.unknowns.length)
  | .error fault => .quiet (d.fail fault)

/-- Uses an object as a point, and unknowns for its coordinates. -/
def addPoint (d : Drawing ν Float) (item : Item) : Logged (Attempt ν Float Unit) :=
  update d "add_point" [itemValue d.board item] <|
    match d.usableId item with
    | .error fault => .quiet (d.fail fault)
    | .ok id =>
      thenCall (addCoordinate (d.registerPoint id item) id item .x) fun d _ =>
        addCoordinate d id item .y

/-- Uses the point or the unknown that a reference stands for. -/
def addObject (d : Drawing ν Float) (r : Reference Float) : Logged (Attempt ν Float Unit) :=
  update d "add_entity" [referenceValue d.board r] <|
    match r with
    | .item (.point place) => addPoint d (.point place)
    | .item (.variable place) => addVariable d (.variable place)
    | r => .quiet (d.addObject r)

/-- Uses an object as a constraint. -/
def addConstraint (d : Drawing ν Float) (item : Item) : Logged (Attempt ν Float Unit) :=
  update d "add_constraint" [itemValue d.board item] (.quiet (d.addConstraint item).done)

/-- Uses no object any more. -/
def clear (d : Drawing ν Float) : Logged (Attempt ν Float Unit) :=
  update d "clear" [] (.quiet d.clear.done)

/-- The numbers of the slots. -/
def values (d : Drawing ν Float) : Logged (Attempt ν Float (Table ν Float)) :=
  ⟨d.readRecords, ⟨d, d.values⟩⟩

/-- Sets the numbers of unknowns. -/
def setInitial (d : Drawing ν Float) (values : Value Float) : Logged (Attempt ν Float Unit) :=
  update d "set_initial_values" [values] <|
    match values.entries? with
    | some entries =>
      thenCall (.quiet (d.assign (Named.entries entries))) fun d _ =>
        update d "_write_back" [] (.quiet d.writeBack)
    | none => .quiet (d.setInitial values)

/-- The lines of reading the target of a constraint, which is read after its names. -/
def targetRecords (v : Value Float) : List Log.Record :=
  let fields := v.fields?.getD []
  match Constraint.subject fields with
  | .ok _ => (Log.Reading.call "_target_2d" [v] id (.quiet (targetField fields))).records
  | .error _ => []

/-- Reads the constraints that records describe, and uses them. -/
def loadConstraints (d : Drawing ν Float) :
    List (Value Float) → Logged (Except (Fault Float) (Drawing ν Float))
  | [] => .quiet (.ok d)
  | item :: rest =>
    Logged.whenOk ⟨targetRecords item, d.addConstraintRecord item⟩ fun d => loadConstraints d rest

/-- Reads a drawing with the fields of a value. -/
def loadFields (v : Value Float) (fields : List (String × Value Float))
    (given? : Option (NewtonOptions Float)) : Logged (Except (Fault Float) (Drawing ν Float)) :=
  let given := fieldOrNull fields "options"
  let options := Log.Reading.optionsFor "Solver2DOptions" given? given (NewtonOptions.ofValue given)
  options.whenOk fun options =>
  Logged.whenOk (.quiet options.requireCopy) fun _ =>
  (Log.Reading.sectionRecords v fields "points").whenOk fun points =>
  Logged.whenOk (.quiet (points.foldlM Drawing.addPointRecord (.empty options .empty))) fun d =>
  (Log.Reading.sectionRecords v fields "variables").whenOk fun unknowns =>
  Logged.whenOk (.quiet (unknowns.foldlM Drawing.addVariableRecord d)) fun d =>
  (Log.Reading.sectionRecords v fields "constraints").whenOk fun constraints =>
  loadConstraints d constraints

/-- Reads a drawing. -/
def load (v : Value Float) (given? : Option (NewtonOptions Float)) :
    Logged (Except (Fault Float) (Drawing ν Float)) :=
  Log.Reading.call "load_sketch_2d" [v, Log.Reading.givenOptions "Solver2DOptions" given?]
    (fun d => .object "Solver2D" d.text .full) <|
    match v.fields? with
    | none => .quiet (.error .notSketch)
    | some fields => loadFields v fields given?

/-- Solves for the constraints. -/
def solve (d : Drawing ν Float) : Logged (Attempt ν Float (Solution ν Float)) :=
  let attempt := d.solve
  ⟨d.solveRecords attempt.result, attempt⟩

/-- Analyses the constraints. -/
def analyze (d : Drawing ν Float) :
    Logged (Except (Fault Float) (Linear.Analysis (Value Float))) :=
  let result := d.analyze Linear.standardFit
  ⟨d.analysisRecords result, result⟩

/-- A traced call that turns something into a record. -/
def recordCall (name : String) (shown record : Value Float) (inner : List Log.Record) :
    List Log.Record :=
  ((Log.Call.mk .serialization name [shown] []).watched (ε := Empty) id ⟨inner, .ok record⟩).records

/-- The record of the solution of a drawing. -/
def solutionRecord (d : Drawing ν Float) (s : Solution ν Float) :
    Logged (Value Float) :=
  let record := d.solutionRecord s
  ⟨recordCall "to_dict" s.shown record <| recordCall "result_to_dict" s.shown record <|
    recordCall "_diagnostics_to_dict" s.diagnostics.shown s.diagnostics.toRecord [], record⟩

end Drafting.Plane.Session
