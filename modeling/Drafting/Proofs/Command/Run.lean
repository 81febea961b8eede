import Drafting.Proofs.Command.Telling

/-!
# What a run of the command comes to

A run that reads a file is refused with status 2 if the file holds no record, or none that is a
sketch. Otherwise the sketch is solved, and the run ends with status 0 or 1, depending on whether
the solve has converged, with the solution to be written. Nothing else happens
(`Arguments.isAnswered`), but for some files and options that no status stands for
(`Arguments.Fails`). Among them are planar constraints with ids that are no texts, whose summary
cannot be printed: then the solution is not written either (`not_isSettled`).
-/

namespace Drafting.Command

/-! ### Summaries -/

/-- That lines name labels: they do so if all labels are texts, and otherwise one of them cannot be
made. -/
structure Tells (labels : List (Value Float)) (lines : List (Except (Fault Float) String)) :
    Prop where
  noName : ∀ fault, .error fault ∈ lines → ∃ index, ∃ label ∈ labels, ¬IsText label ∧
    fault = .notName index label.kindName
  told : ∀ label ∈ labels, ¬IsText label → ∃ fault, .error fault ∈ lines

section

variable {labels labels' : List (Value Float)} {lines lines' : List (Except (Fault Float) String)}

lemma Tells.append (tells : Tells labels lines) (tells' : Tells labels' lines') :
    Tells (labels ++ labels') (lines ++ lines') where
  noName fault there := by
    obtain there | there := List.mem_append.mp there
    · obtain ⟨index, label, among, known⟩ := tells.noName fault there
      exact ⟨index, label, List.mem_append_left _ among, known⟩
    · obtain ⟨index, label, among, known⟩ := tells'.noName fault there
      exact ⟨index, label, List.mem_append_right _ among, known⟩
  told label among other := by
    obtain among | among := List.mem_append.mp among
    · exact (tells.told label among other).imp fun _ there => List.mem_append_left _ there
    · exact (tells'.told label among other).imp fun _ there => List.mem_append_right _ there

lemma error_notMem_texts (fault : Fault Float) (texts : List String) :
    .error fault ∉ (texts.map .ok : List (Except (Fault Float) String)) := by
  intro there
  obtain ⟨text, -, same⟩ := List.mem_map.mp there
  cases same

lemma tells_texts (texts : List String) : Tells [] (texts.map .ok) where
  noName fault there := absurd there (error_notMem_texts fault texts)
  told _ among := absurd among List.not_mem_nil

/-- Labels that are texts may be left out. -/
lemma Tells.of_texts (tells : Tells labels lines) (texts : ∀ label ∈ labels, IsText label) :
    Tells [] lines where
  noName fault there := by
    obtain ⟨-, label, among, other, -⟩ := tells.noName fault there
    exact absurd (texts label among) other
  told _ among := absurd among List.not_mem_nil

lemma namesOf_cases (index : ℕ) (labels : List (Value Float)) :
    (∃ names, namesOf index labels = .ok names ∧ ∀ label ∈ labels, IsText label) ∨
      ∃ i, ∃ label ∈ labels, ¬IsText label ∧
        namesOf index labels = .error (.notName i label.kindName) := by
  induction labels generalizing index with
  | nil => exact .inl ⟨[], rfl, List.forall_mem_nil _⟩
  | cons label rest ih =>
    cases label with
    | text s =>
      obtain ⟨names, named, texts⟩ | ⟨i, label, there, other, failed⟩ := ih (index + 1)
      · refine .inl ⟨s :: names, ?_, List.forall_mem_cons.mpr ⟨⟨s, rfl⟩, texts⟩⟩
        rw [namesOf, named]
        rfl
      · refine .inr ⟨i, label, List.mem_cons_of_mem _ there, other, ?_⟩
        rw [namesOf, failed]
        rfl
    | _ => exact .inr ⟨index, _, List.mem_cons_self, nofun, rfl⟩

lemma tells_omittedLine (title : String) (labels : List (Value Float)) :
    Tells labels (omittedLine title labels) := by
  rw [omittedLine]
  split
  · next empty =>
    rw [List.isEmpty_iff.mp empty]
    exact tells_texts []
  · obtain ⟨names, named, texts⟩ | ⟨i, label, among, other, failed⟩ := namesOf_cases 0 labels
    · rw [named]
      exact ⟨fun fault there => absurd there (error_notMem_texts fault [_]),
        fun label among other => absurd (texts label among) other⟩
    · rw [failed]
      refine ⟨fun fault there => ?_, fun _ _ _ => ⟨_, List.mem_singleton_self _⟩⟩
      cases List.mem_singleton.mp there
      exact ⟨i, label, among, other, rfl⟩

/-- Lines are printed as a whole, or up to one that is not taken, or up to one that cannot be
made. -/
lemma printed_cases [Output] (lines : List (Except (Fault Float) String)) :
    (∃ texts, lines = texts.map .ok ∧ printed lines = (texts, none)) ∨
      (∃ texts line failure, .ok line ∈ lines ∧ Output.refusal? line = some failure ∧
        printed lines = (texts, some (.file failure))) ∨
      ∃ texts fault, .error fault ∈ lines ∧ printed lines = (texts, some (.fault fault)) := by
  induction lines with
  | nil => exact .inl ⟨[], rfl, rfl⟩
  | cons first rest ih =>
    cases first with
    | error fault => exact .inr (.inr ⟨[], fault, List.mem_cons_self, rfl⟩)
    | ok line =>
      rw [printed]
      cases refused : Output.refusal? line with
      | some failure => exact .inr (.inl ⟨[], line, failure, List.mem_cons_self, refused, rfl⟩)
      | none =>
        dsimp only
        obtain ⟨texts, rfl, whole⟩ | ⟨texts, other, failure, there, refused, broken⟩ |
          ⟨texts, fault, there, broken⟩ := ih
        · rw [whole]
          exact .inl ⟨line :: texts, rfl, rfl⟩
        · rw [broken]
          exact .inr (.inl ⟨_, other, failure, List.mem_cons_of_mem _ there, refused, rfl⟩)
        · rw [broken]
          exact .inr (.inr ⟨_, fault, List.mem_cons_of_mem _ there, rfl⟩)

end

section

variable [Headroom]

/-- The summary of a solve names the labels of what was left out of account. -/
lemma Loaded.IsRead.tells {P : Value Float → Prop} {fields : List (String × Value Float)}
    {l : Loaded} (isRead : l.IsRead P fields) {elapsed : Float} {summary : Summary}
    (solved : l.solve elapsed = .ok summary) : Tells l.labels summary.lines := by
  have assembled (head tail : List String) (skipped unsupported : List (Value Float)) :
      Tells (skipped ++ unsupported) (head.map .ok ++ omittedLine "Skipped" skipped ++
        omittedLine "Unsupported" unsupported ++ tail.map .ok) := by
    have lines := (((tells_texts head).append (tells_omittedLine "Skipped" skipped)).append
      (tells_omittedLine "Unsupported" unsupported)).append (tells_texts tail)
    rwa [List.nil_append, List.append_nil] at lines
  cases isRead with
  | @sketch o s loaded _ =>
    obtain ⟨solution, reached, rfl⟩ := Except.map_eq_ok.mp solved
    refine Tells.of_texts ?_ (Sketch.isText_of_solve loaded reached)
    exact assembled _ _ _ _
  | @drawing o d _ _ =>
    obtain ⟨solution, reached, rfl⟩ := Except.map_eq_ok.mp solved
    obtain ⟨plan, planned, diagnostics⟩ := Plane.Drawing.diagnostics_of_solve reached
    rw [labels, planned]
    show Tells (plan.diagnostics.skipped ++ plan.diagnostics.unsupported) (planarLines solution)
    rw [← diagnostics]
    exact assembled _ _ _ _

/-! ### Runs -/

/-- Whether the log does not keep a run from reading fields and solving what they hold: the values
in them are not nested too deeply to be shown, or calls are not shown and all labels are texts. -/
def Arguments.IsShown (a : Arguments) (fields : List (String × Value Float)) : Prop :=
  ¬(Value.record fields).IsDeep ∨ ∃ rank, rankOf a.logLevel = .ok rank ∧ 10 < rank ∧
    ∀ l, a.read fields = .ok l → ∀ label ∈ l.labels, IsText label

variable [Output]

/-- Whether the standard output takes all lines of a summary. -/
def Summary.IsTaken (summary : Summary) : Prop :=
  ∀ line, .ok line ∈ summary.lines → Output.refusal? line = none

namespace Report

/-- That a run is refused: it ends with status 2 and does nothing else. -/
structure IsRefused (r : Report) : Prop where
  ending : r.outcome.ending = .status 2
  output : r.outcome.output = []
  pending : r.pending = none

/-- That a run prints a summary, has it written if that is asked for, and ends with the status that
tells whether the solve has converged. -/
structure Concludes (r : Report) (a : Arguments) (summary : Summary) : Prop where
  ending : r.outcome.ending = .status (if summary.success then 0 else 1)
  output : summary.lines = r.outcome.output.map .ok
  pending : r.pending = a.outputPath?.map fun path => ⟨path, summary.record⟩
  /-- Where nothing stands in the way of writing, the run ends as before. -/
  finish : ∀ path, a.outputPath? = some path →
    Output.refusal? ("Solution written to " ++ path) = none →
      (r.finish {}).ending = r.outcome.ending ∧
        (r.finish {}).output = r.outcome.output ++ ["Solution written to " ++ path]

/-- That a run breaks off at a label that is no text, with nothing to be written. -/
structure BreaksOff (r : Report) (labels : List (Value Float)) : Prop where
  ending : ∃ index, ∃ label ∈ labels, ¬IsText label ∧
    r.outcome.ending = .failed (.fault (.notName index label.kindName))
  pending : r.pending = none

omit [Headroom] in
lemma finish_of_taken {r : Report} (pending : Pending) (there : r.pending = some pending)
    (taken : Output.refusal? pending.line = none) :
    (r.finish {}).ending = r.outcome.ending ∧
      (r.finish {}).output = r.outcome.output ++ [pending.line] := by
  rw [finish, there]
  dsimp only
  rw [taken]
  exact ⟨rfl, rfl⟩

variable {labels : List (Value Float)} {summary : Summary} (tells : Tells labels summary.lines)

include tells

omit [Headroom] in
/-- A summary is printed as a whole if all labels are texts, unless a line is not taken. -/
lemma solved_cases (a : Arguments) (rank : ℕ) (records : List Log.Record) :
    (∀ label ∈ labels, IsText label) ∧ (solved a rank records summary).Concludes a summary ∨
      (∃ line failure, .ok line ∈ summary.lines ∧ Output.refusal? line = some failure ∧
        (solved a rank records summary).outcome.ending = .failed (.file failure) ∧
        (solved a rank records summary).pending = none) ∨
      (∃ label ∈ labels, ¬IsText label) ∧ (solved a rank records summary).BreaksOff labels := by
  rw [solved]
  obtain ⟨texts, same, whole⟩ | ⟨texts, line, failure, there, refused, broken⟩ |
    ⟨texts, fault, there, broken⟩ := printed_cases summary.lines
  · rw [whole]
    refine .inl ⟨fun label among => not_not.mp fun other => ?_, rfl, same, rfl, ?_⟩
    · obtain ⟨fault, there⟩ := tells.told label among other
      exact error_notMem_texts fault texts (same ▸ there)
    · intro path asked taken
      have pending : a.outputPath?.map (fun path => Pending.mk path summary.record) =
          some ⟨path, summary.record⟩ := congrArg (Option.map _) asked
      exact finish_of_taken ⟨path, summary.record⟩ pending taken
  · rw [broken]
    exact .inr (.inl ⟨line, failure, there, refused, rfl, rfl⟩)
  · rw [broken]
    obtain ⟨index, label, among, other, rfl⟩ := tells.noName fault there
    exact .inr (.inr ⟨⟨label, among, other⟩, ⟨index, label, among, other, rfl⟩, rfl⟩)

end Report

/-- Failures of runs on a file that no status stands for. -/
inductive Arguments.Fails (a : Arguments) (bytes : List UInt8) (elapsed : Float) : Failure → Prop
  | unreadable {failure : Failure} : IsUnreadable bytes failure → Fails a bytes elapsed failure
  /-- An integer in the file is too large for a double or has too many digits, or a value in it is
  nested too deeply to be written or copied. -/
  | excess {v : Value Float} {fault : Fault Float} : Holds bytes v →
    fault.IsExcess (fun w => w.IsPartOf v) → Fails a bytes elapsed (.fault fault)
  /-- The options in the file are something, but no record. -/
  | stray {v : Value Float} {fault : Fault Float} : Holds bytes v → fault.IsStray (optionsOf v) →
    Fails a bytes elapsed (.fault fault)
  /-- A value in the file is nested too deeply to be shown in the log. -/
  | hidden {fields : List (String × Value Float)} : Holds bytes (.record fields) →
    ¬a.IsShown fields → Fails a bytes elapsed (.fault .tooDeep)
  /-- An option of the file or of the command line is no number that a double can be. -/
  | noNumber {fields : List (String × Value Float)} {l : Loaded} {fault : Fault Float} :
    Holds bytes (.record fields) → a.read fields = .ok l → ¬l.IsCountable →
    l.solve elapsed = .error fault → Fails a bytes elapsed (.fault fault)
  /-- A planar constraint that is left out of account has an id that is no text. -/
  | unnamed {fields : List (String × Value Float)} {l : Loaded} {label : Value Float} (index : ℕ) :
    Holds bytes (.record fields) → a.read fields = .ok l → label ∈ l.labels → ¬IsText label →
    Fails a bytes elapsed (.fault (.notName index label.kindName))
  /-- The standard output does not take a line of the summary. -/
  | refused {fields : List (String × Value Float)} {l : Loaded} {summary : Summary} {line : String}
    {failure : FileFailure} : Holds bytes (.record fields) → a.read fields = .ok l →
    l.solve elapsed = .ok summary → .ok line ∈ summary.lines →
    Output.refusal? line = some failure → Fails a bytes elapsed (.file failure)

/-- What a run on a file comes to. -/
structure Arguments.IsAnswered (a : Arguments) (bytes : List UInt8) (elapsed : Float) (r : Report) :
    Prop where
  notRecord : ∀ v, Holds bytes v → v.isRecord = false → r.IsRefused
  malformed : ∀ fields fault, Holds bytes (.record fields) → a.IsShown fields →
    a.read fields = .error fault → fault.isMalformed = true → r.IsRefused
  solved : ∀ fields l summary, Holds bytes (.record fields) → a.IsShown fields →
    a.read fields = .ok l → l.solve elapsed = .ok summary → summary.IsTaken →
    (∀ label ∈ l.labels, IsText label) → r.Concludes a summary
  unnamed : ∀ fields l summary, Holds bytes (.record fields) → a.IsShown fields →
    a.read fields = .ok l → l.solve elapsed = .ok summary → summary.IsTaken →
    (∃ label ∈ l.labels, ¬IsText label) → r.BreaksOff l.labels
  /-- With options that are numbers, a solve comes to something. -/
  solves : ∀ fields l, Holds bytes (.record fields) → a.read fields = .ok l → l.IsCountable →
    ∃ summary, l.solve elapsed = .ok summary
  fails : ∀ failure, r.outcome.ending = .failed failure → a.Fails bytes elapsed failure

section

variable {a : Arguments} {bytes : List UInt8} {fields : List (String × Value Float)} {rank : ℕ}
  {elapsed : Float}

omit [Output] in
/-- A run whose log breaks off is one on a file with values that are nested too deeply for it. -/
lemma exists_of_breaksAt (level : rankOf a.logLevel = .ok rank)
    (cut : (recordsOf (load a (.ok bytes)) elapsed).any (breaksAt rank) = true) :
    ∃ fields, Holds bytes (.record fields) ∧ ¬a.IsShown fields := by
  obtain ⟨r, there, broken⟩ := List.any_eq_true.mp cut
  obtain ⟨passes, deep⟩ := (Bool.and_eq_true_iff ..).mp broken
  obtain ⟨fields, holds, due⟩ := exists_of_isTooDeep there deep
  obtain ⟨isDeep, excuse⟩ := due deep
  refine ⟨fields, holds, ?_⟩
  rintro (shallow | ⟨rank', level', high, texts⟩)
  · exact shallow isDeep
  · cases level.symm.trans level'
    obtain debug | ⟨l, read, label, among, other⟩ := excuse
    · rw [debug] at passes
      exact absurd (of_decide_eq_true passes) (Nat.not_le.mpr high)
    · exact other (texts l read label among)

omit [Output] in
lemma not_breaksAt (elapsed : Float) (level : rankOf a.logLevel = .ok rank)
    (shown : ∀ fields, Holds bytes (.record fields) → a.IsShown fields) :
    (recordsOf (load a (.ok bytes)) elapsed).any (breaksAt rank) = false := by
  refine Bool.eq_false_iff.mpr fun cut => ?_
  obtain ⟨fields, holds, hidden⟩ := exists_of_breaksAt level cut
  exact hidden (shown fields holds)

section

variable (level : rankOf a.logLevel = .ok rank) {stage : Stage Solved}
  (whole : (recordsOf stage elapsed).any (breaksAt rank) = false)

include level whole

lemma report_of_error {ending : Ending} (ended : stage.value = .error ending) :
    report a stage elapsed = .ended rank (recordsOf stage elapsed) ending := by
  rw [report, level]
  dsimp only
  rw [if_neg (Bool.eq_false_iff.mp whole), ended]
  rfl

lemma report_of_fault {l : Loaded} {fault : Fault Float} (handed : stage.value = .ok l.solved)
    (failed : l.solve elapsed = .error fault) : report a stage elapsed =
      .ended rank (recordsOf stage elapsed) (.failed (.fault fault)) := by
  rw [report, level]
  dsimp only
  rw [if_neg (Bool.eq_false_iff.mp whole), handed, Report.told.eq_def]
  dsimp only
  rw [l.summary_solved, failed]

lemma report_of_summary {l : Loaded} {summary : Summary} (handed : stage.value = .ok l.solved)
    (solved : l.solve elapsed = .ok summary) : report a stage elapsed =
      .solved a rank (recordsOf stage elapsed) summary := by
  rw [report, level]
  dsimp only
  rw [if_neg (Bool.eq_false_iff.mp whole), handed, Report.told.eq_def]
  dsimp only
  rw [l.summary_solved, solved]

end

/-- A run on a record fails in no other way than those that are listed. -/
lemma Holds.fails (holds : Holds bytes (.record fields)) (level : rankOf a.logLevel = .ok rank)
    (whole : (recordsOf (load a (.ok bytes)) elapsed).any (breaksAt rank) = false)
    {failure : Failure}
    (ends : (report a (load a (.ok bytes)) elapsed).outcome.ending = .failed failure) :
    a.Fails bytes elapsed failure := by
  cases read : a.read fields with
  | error fault =>
    rw [report_of_error level whole (holds.value_load_of_error read)] at ends
    replace ends : endingOf fault = .failed failure := ends
    rw [endingOf] at ends
    split at ends
    · cases ends
    · next wellFormed =>
      cases ends
      obtain (malformed | excess) | stray := expected_read holds.isJson read
      · exact absurd malformed wellFormed
      · exact .excess holds excess
      · exact .stray holds stray
  | ok l =>
    have value := holds.value_load_of_ok read
    have isRead := isRead_of_read holds.isJson read
    cases solved : l.solve elapsed with
    | error fault =>
      rw [report_of_fault level whole value solved] at ends
      cases ends
      refine .noNumber holds read (fun numbers => ?_) solved
      obtain ⟨summary, solved'⟩ := isRead.exists_solve numbers elapsed
      rw [solved] at solved'
      cases solved'
    | ok summary =>
      rw [report_of_summary level whole value solved] at ends
      obtain ⟨-, concludes⟩ | ⟨line, failure', there, refused, broken, -⟩ | ⟨-, breaksOff⟩ :=
        Report.solved_cases (isRead.tells solved) a rank _
      · rw [concludes.ending] at ends
        cases ends
      · rw [broken] at ends
        cases ends
        exact .refused holds read solved there refused
      · obtain ⟨index, label, there, other, broken⟩ := breaksOff.ending
        rw [broken] at ends
        cases ends
        exact .unnamed index holds read there other

/-- A run on a file fails in no other way than those that are listed. -/
lemma fails_of_report (level : rankOf a.logLevel = .ok rank) {failure : Failure}
    (ends : (report a (load a (.ok bytes)) elapsed).outcome.ending = .failed failure) :
    a.Fails bytes elapsed failure := by
  cases whole : (recordsOf (load a (.ok bytes)) elapsed).any (breaksAt rank) with
  | true =>
    obtain ⟨fields, holds, hidden⟩ := exists_of_breaksAt level whole
    rw [report, level] at ends
    dsimp only at ends
    rw [if_pos whole] at ends
    cases ends
    exact .hidden holds hidden
  | false =>
    have refused {ending : Ending} (value : (load a (.ok bytes)).value = .error ending) :
        ending = .failed failure := by
      rw [report_of_error level whole value] at ends
      exact ends
    obtain ⟨v, holds⟩ | invalid | ⟨failure', unreadable, value⟩ := exists_value_content a.path bytes
    · cases isRecord : v.isRecord with
      | false => cases refused (holds.value_load_of_not isRecord a)
      | true =>
        cases v with
        | record fields => exact holds.fails level whole ends
        | mapping entries => cases holds.isJson
        | _ => cases isRecord
    · have value : (load a (.ok bytes)).value = .error (.status 2) := by
        rw [value_load, invalid]
        rfl
      cases refused value
    · have value : (load a (.ok bytes)).value = .error (.failed failure') := by
        rw [Command.value_load, value]
        rfl
      cases refused value
      exact .unreadable unreadable

/-- A run either does not get as far as the file, because of its log level, or is answered. -/
theorem Arguments.isAnswered (a : Arguments) (bytes : List UInt8) (elapsed : Float) :
    (∃ failure, rankOf a.logLevel = .error failure ∧
        report a (load a (.ok bytes)) elapsed = .ended 0 [] (.failed failure)) ∨
      a.IsAnswered bytes elapsed (report a (load a (.ok bytes)) elapsed) := by
  cases level : rankOf a.logLevel with
  | error failure =>
    refine .inl ⟨failure, rfl, ?_⟩
    rw [report, level]
  | ok rank =>
    have whole {fields : List (String × Value Float)} (holds : Holds bytes (.record fields))
        (shown : a.IsShown fields) :
        (recordsOf (load a (.ok bytes)) elapsed).any (breaksAt rank) = false := by
      refine not_breaksAt elapsed level fun fields' holds' => ?_
      cases holds.unique holds'
      exact shown
    refine .inr ?_
    constructor
    case notRecord =>
      intro v holds other
      have none := not_breaksAt elapsed level fun fields holds' => by
        cases holds.unique holds'
        cases other
      rw [report_of_error level none (holds.value_load_of_not other a)]
      exact ⟨rfl, rfl, rfl⟩
    case malformed =>
      intro fields fault holds shown failed malformed
      have ends : endingOf fault = .status 2 := if_pos malformed
      rw [report_of_error level (whole holds shown) (ends ▸ holds.value_load_of_error failed)]
      exact ⟨rfl, rfl, rfl⟩
    case solved =>
      intro fields l summary holds shown read solved taken texts
      rw [report_of_summary level (whole holds shown) (holds.value_load_of_ok read) solved]
      have tells := (isRead_of_read holds.isJson read).tells solved
      obtain ⟨-, concludes⟩ | ⟨line, failure, there, refused, -⟩ | ⟨⟨label, there, other⟩, -⟩ :=
        Report.solved_cases tells a rank _
      · exact concludes
      · rw [taken line there] at refused
        cases refused
      · exact absurd (texts label there) other
    case unnamed =>
      intro fields l summary holds shown read solved taken ⟨label, there, other⟩
      rw [report_of_summary level (whole holds shown) (holds.value_load_of_ok read) solved]
      have tells := (isRead_of_read holds.isJson read).tells solved
      obtain ⟨texts, -⟩ | ⟨line, failure, there, refused, -⟩ | ⟨-, breaksOff⟩ :=
        Report.solved_cases tells a rank _
      · exact absurd (texts label there) other
      · rw [taken line there] at refused
        cases refused
      · exact breaksOff
    case solves =>
      intro fields l holds read numbers
      exact (isRead_of_read holds.isJson read).exists_solve numbers elapsed
    case fails => exact fun failure ends => fails_of_report level ends

end

end

/-- A planar sketch of one constraint, whose id is a number, as a file holds it. -/
def numbered : List Char :=
  "\x7b\"points\":[],\"constraints\":[\x7b\"id\":5,\"type\":\"fixed\"\x7d]\x7d".toList

def numberedFields : List (String × Value Float) :=
  [("points", .list []), ("constraints", .list [.record [("id", .int 5), ("type", .text "fixed")]])]

/-- Their bytes. -/
def numberedBytes : List UInt8 := numbered.map fun c => c.toNat.toUInt8

lemma holds_numbered : Holds numberedBytes (.record numberedFields) := by
  have decoded : (Text.decode numberedBytes).toOption = some numbered := by decide +kernel
  have chars : (String.ofList (Text.unifyLines numbered)).toList =
      ['\x7b', '"', 'p', 'o', 'i', 'n', 't', 's', '"', ':', '[', ']', ',', '"', 'c', 'o', 'n',
        's', 't', 'r', 'a', 'i', 'n', 't', 's', '"', ':', '[', '\x7b', '"', 'i', 'd', '"', ':',
        '5', ',', '"', 't', 'y', 'p', 'e', '"', ':', '"', 'f', 'i', 'x', 'e', 'd', '"', '\x7d',
        ']', '\x7d'] := by decide +kernel
  refine ⟨numbered, Except.toOption_eq_some.mp decoded, ?_⟩
  rw [Json.read, chars]
  rfl

/-- The drawing that is read, in which the point that is needed is missing. -/
def numberedDrawing : Plane.Drawing String Float where
  options := .standard
  board := ⟨[], [], [⟨.member .fixed, .references [], .null, .int 5, .flag true, []⟩]⟩
  unknowns := []
  slots := .empty
  params := []
  points := .empty
  constraints := [.constraint 0]

/-- What solving it comes to. -/
def numberedSolution : Plane.Solution String Float := ⟨true, [], 0, .empty, ⟨[.int 5], []⟩⟩

/-- That a run on a file is settled by its status: it ends with 2 if there is no sketch in the file,
and otherwise with 0 or 1, depending on whether the solve has converged, with the solution to be
written if that is asked for. -/
structure Arguments.IsSettled (a : Arguments) (bytes : List UInt8) (elapsed : Float) (r : Report) :
    Prop where
  notRecord : ∀ v, Holds bytes v → v.isRecord = false → r.outcome.ending = .status 2
  unloadable : ∀ fields fault, Holds bytes (.record fields) → a.read fields = .error fault →
    r.outcome.ending = .status 2
  solved : ∀ fields l summary, Holds bytes (.record fields) → a.read fields = .ok l →
    l.solve elapsed = .ok summary →
      r.outcome.ending = .status (if summary.success then 0 else 1) ∧
        r.pending = a.outputPath?.map fun path => ⟨path, summary.record⟩
  never : ∀ failure, r.outcome.ending ≠ .failed failure

/-- The solution of a planar sketch is not written if a constraint that is left out of account has
a number as its id. -/
theorem not_isSettled : ¬∀ (a : Arguments) (bytes : List UInt8) (elapsed : Float) (v : Value Float),
    Holds bytes v → a.IsSettled bytes elapsed (report a (load a (.ok bytes)) elapsed) := by
  intro settled
  let a : Arguments := { path := "sketch.json", output := some (.value "solution.json") }
  let summary : Summary := ⟨true, planarLines numberedSolution, numberedSolution.toRecord⟩
  have level : rankOf a.logLevel = .ok 20 := rfl
  have read : a.read numberedFields = .ok (.drawing numberedDrawing) := rfl
  have solved : (Loaded.drawing numberedDrawing).solve 0 = .ok summary := rfl
  obtain ⟨-, written⟩ :=
    (settled a numberedBytes 0 _ holds_numbered).solved _ _ _ holds_numbered read solved
  have shown (fields : List (String × Value Float)) (holds : Holds numberedBytes (.record fields)) :
      a.IsShown fields := by
    cases holds_numbered.unique holds
    have room : (Value.record numberedFields).showDepth + 4 ≤ Headroom.usual := by decide
    exact .inl fun ⟨_, deep⟩ => absurd deep (Nat.not_lt.mpr room)
  rw [report_of_summary level (not_breaksAt 0 level shown)
    (holds_numbered.value_load_of_ok read) solved] at written
  have tells := (isRead_of_read holds_numbered.isJson read).tells solved
  obtain ⟨texts, -⟩ | ⟨-, -, -, -, -, none⟩ | ⟨-, breaksOff⟩ := Report.solved_cases tells a 20 _
  · obtain ⟨s, same⟩ := texts (.int 5) List.mem_cons_self
    cases same
  · rw [none] at written
    cases written
  · rw [breaksOff.pending] at written
    cases written

end Drafting.Command
