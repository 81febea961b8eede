import Drafting.Proofs.Log.Transparency

/-!
# Records of calls in pairs

The records of a course are balanced: each call that is traced has a record at its start and one at
its end, and the pairs nest as the calls do. Together with what instrumenting traces and what a
traced call gives this is what becomes of a namespace that is instrumented.
-/

namespace Drafting.Log

variable {σ : Type} {verbosity : Verbosity} {arguments : Arguments}

/-- No call in a course was interrupted. -/
def Course.IsUninterrupted : Course → Prop
  | .done => True
  | .note _ _ _ rest => rest.IsUninterrupted
  | .call _ _ inner outcome rest =>
    wasInterrupted outcome = false ∧ inner.IsUninterrupted ∧ rest.IsUninterrupted

/-- Records in which those of calls come in pairs, the one at the start of a call and the one at its
end, around the pairs of the calls inside it. -/
inductive Balanced : List Record → Prop
  | nil : Balanced []
  | note {record : Record} {rest : List Record} (plain : record.isTrace = false)
      (balanced : Balanced rest) : Balanced (record :: rest)
  | call (call : Call) (shown : Shown (Value Float)) (outcome : Outcome) {inner rest : List Record}
      (inside : Balanced inner) (after : Balanced rest) :
      Balanced (call.entry :: (inner ++ call.leave shown outcome :: rest))

lemma Balanced.append {first second : List Record} (balanced : Balanced first)
    (next : Balanced second) : Balanced (first ++ second) := by
  induction balanced with
  | nil => exact next
  | note plain _ ih => exact .note plain ih
  | call call shown outcome inside _ _ ih =>
    rw [List.cons_append, List.append_assoc, List.cons_append]
    exact .call call shown outcome inside ih

lemma Call.balanced_traced {call : Call} {shown : Shown (Value Float)} {body : Logged Outcome}
    (inside : Balanced body.records) : Balanced (call.traced shown body).records :=
  .call call shown body.value inside .nil

lemma Tracing.balanced_bracket {t : Tracing} {outcome : Outcome} {records : List Record}
    (finished : wasInterrupted outcome = false) (inside : Balanced records) :
    Balanced (t.bracket verbosity arguments outcome records) := by
  by_cases on : verbosity t.channel = true
  · rw [bracket_eq_records_traced records on finished]
    exact Call.balanced_traced inside
  · rw [bracket, if_neg on]
    exact inside

lemma Operation.balanced_bracket {op : Operation σ} {outcome : Outcome} {records : List Record}
    (finished : wasInterrupted outcome = false) (inside : Balanced records) :
    Balanced (op.bracket verbosity arguments outcome records) := by
  unfold bracket
  induction op.tracing with
  | nil => exact inside
  | cons t rest ih => exact Tracing.balanced_bracket finished ih

namespace Namespace

variable {n : Namespace σ}

/-- The records of calls come in pairs that nest as the calls do. -/
lemma balanced_transcript {c : Course} (finished : c.IsUninterrupted) :
    Balanced (n.transcript verbosity c) := by
  induction c with
  | done => exact .nil
  | note severity channel text rest ih => exact .note rfl (ih finished)
  | call path arguments inner outcome rest ihInner ihRest =>
    obtain ⟨here, inside, later⟩ := finished
    refine .append ?_ (ihRest later)
    unfold bracket
    split
    · exact Operation.balanced_bracket here (ihInner inside)
    · exact ihInner inside

/-- A call of an operation with one layer of tracing has a record at its start and, unless it was
interrupted, one at its end. -/
lemma transcript_call {path : Path} {op : Operation σ} {t : Tracing} {inner rest : Course}
    {outcome : Outcome} (found : n.operation? path = some op) (layer : op.tracing = [t])
    (on : verbosity t.channel = true) :
    n.transcript verbosity (.call path arguments inner outcome rest) =
      (t.call arguments).entry :: (n.transcript verbosity inner ++ t.leave arguments outcome) ++
        n.transcript verbosity rest := by
  rw [transcript, bracket, found]
  simp [Operation.bracket, layer, Tracing.bracket, on]

/-- A call of an operation that is not traced has no records of its own. -/
lemma transcript_call_of_not_isTraced {path : Path} {op : Operation σ} {inner rest : Course}
    {outcome : Outcome} (found : n.operation? path = some op) (bare : op.isTraced = false) :
    n.transcript verbosity (.call path arguments inner outcome rest) =
      n.transcript verbosity inner ++ n.transcript verbosity rest := by
  rw [transcript, bracket, found]
  simp [Operation.bracket, Operation.tracing_of_not_isTraced bare]

/-- What instrumenting a namespace does to its operations and to calls of them. -/
structure IsInstrumented (n traced : Namespace σ) (channel : Channel) (selection : Selection) :
    Prop where
  /-- The operations that are chosen are traced. -/
  chosen : ∀ {path name op}, n.Chooses selection path name op →
    traced.operation? path = some (op.trace channel name true)
  /-- All others stay as they are. -/
  others : ∀ {path}, (∀ name op, ¬ n.Chooses selection path name op) →
    traced.operation? path = n.operation? path
  /-- No layer of tracing is added to an operation that has one, and no more than one to any. -/
  once : ∀ {path op}, traced.operation? path = some op →
    ∃ before, n.operation? path = some before ∧
      (op = before ∨ before.tracing = [] ∧ op.tracing.length = 1)
  /-- A call that can be shown gives what it gave before and leaves the same state. -/
  transparent : ∀ {verbosity depth path arguments s r},
    n.call verbosity depth path arguments s = some r →
    traced.Shows verbosity (r.whole path arguments) →
    traced.call verbosity depth path arguments s =
      some (r.retold (traced.transcript verbosity (r.whole path arguments)))
  /-- A call that gives something and can be shown gave the same before. -/
  conservative : ∀ {verbosity depth path arguments s r},
    traced.call verbosity depth path arguments s = some r →
    traced.Shows verbosity (r.whole path arguments) →
    r.records = traced.transcript verbosity (r.whole path arguments) ∧
      n.call verbosity depth path arguments s =
        some (r.retold (n.transcript verbosity (r.whole path arguments)))
  /-- A call of an operation that was not traced and is chosen has a record at its start and, unless
  it was interrupted, one at its end, around those of what happened in it. -/
  recorded : ∀ {path name op verbosity arguments inner outcome rest},
    n.Chooses selection path name op → op.isTraced = false → verbosity channel = true →
    let t : Tracing := ⟨channel, op.label name, true⟩
    traced.transcript verbosity (.call path arguments inner outcome rest) =
      (t.call arguments).entry ::
          (traced.transcript verbosity inner ++ t.leave arguments outcome) ++
        traced.transcript verbosity rest
  /-- A call of one that was not traced and is not chosen has no records of its own. -/
  unrecorded : ∀ {path op verbosity arguments inner outcome rest},
    n.operation? path = some op → op.isTraced = false →
    (∀ name op, ¬ n.Chooses selection path name op) →
    traced.transcript verbosity (.call path arguments inner outcome rest) =
      traced.transcript verbosity inner ++ traced.transcript verbosity rest
  /-- The records of calls come in pairs that nest as the calls do. -/
  balanced : ∀ {verbosity} {c : Course}, c.IsUninterrupted →
    Balanced (traced.transcript verbosity c)
  /-- Where the channel takes no records of calls, nothing is different. -/
  silent : ∀ {verbosity : Verbosity}, verbosity channel = false →
    traced.call verbosity = n.call verbosity

variable {channel : Channel} {selection : Selection}

lemma once_instrument {path : Path} {op : Operation σ}
    (found : (n.instrument channel selection).operation? path = some op) :
    ∃ before, n.operation? path = some before ∧
      (op = before ∨ before.tracing = [] ∧ op.tracing.length = 1) := by
  obtain same | ⟨label, before, was, is⟩ := n.isTracedVersion_instrument channel selection path
  · exact ⟨op, same.symm.trans found, .inl rfl⟩
  · refine ⟨before, was, ?_⟩
    obtain rfl := Option.some.inj (is.symm.trans found)
    cases traced : before.isTraced with
    | true => exact .inl (before.trace_of_isTraced label true traced)
    | false =>
      refine .inr ⟨Operation.tracing_of_not_isTraced traced, ?_⟩
      rw [Operation.tracing_trace traced, List.length_singleton]

lemma isInstrumented_instrument (n : Namespace σ) (channel : Channel) (selection : Selection) :
    n.IsInstrumented (n.instrument channel selection) channel selection := by
  have version := n.isTracedVersion_instrument channel selection
  have same := version.hasSameBodies
  refine
    { chosen := operation?_instrument_of_chooses
      others := operation?_instrument_of_not
      once := once_instrument
      transparent := fun ran shown => call_of_hasSameBodies same _ ran (version.shows shown) shown
      conservative := fun ran shown => ⟨?_, ?_⟩
      recorded := fun chosen bare on => transcript_call (operation?_instrument_of_chooses chosen)
        (Operation.tracing_trace bare) on
      unrecorded := fun found bare rest => transcript_call_of_not_isTraced
        ((operation?_instrument_of_not rest).trans found) bare
      balanced := balanced_transcript
      silent := version.call_eq }
  · -- A namespace has the same bodies as itself, so its records are those of its course.
    have told := call_of_hasSameBodies (fun _ => rfl) _ ran shown shown
    exact congrArg Run.records (Option.some.inj (ran.symm.trans told))
  · exact call_of_hasSameBodies (fun path => (same path).symm) _ ran shown (version.shows shown)

/-- Instrumenting a namespace any number of times, but at least once, is instrumenting it once, and
does not change what its operations do. -/
theorem isInstrumented_iterate (n : Namespace σ) (channel : Channel) (selection : Selection)
    (times : ℕ) :
    let traced := (fun n : Namespace σ => n.instrument channel selection)^[times + 1] n
    traced = n.instrument channel selection ∧ n.IsInstrumented traced channel selection := by
  intro traced
  have once : traced = n.instrument channel selection := n.iterate_instrument times
  exact ⟨once, once ▸ n.isInstrumented_instrument channel selection⟩

end Namespace

/-- A method that fails. -/
def delivering : Operation ℕ :=
  ⟨"deliver", some "relay", [], fun _ _ => .finish (.error (.raised "OSError" "cut"))⟩

/-- An operation that calls the method of a class and counts the call, whether it fails or not. -/
def sending : Operation ℕ :=
  ⟨"send", some "relay", [], fun _ arguments => .call ["Line", "deliver"] arguments fun _ =>
    .get fun count => .set (count + 1) (.finish (.ok .null))⟩

/-- A module with both, where the class goes by two names. -/
def relay : Namespace ℕ :=
  ⟨some "relay", [("send", .operation sending), ("Line", .group 0), ("Cable", .group 0)],
    [⟨"Line", some "relay", [("deliver", .static delivering)]⟩]⟩

/-- A call with nothing. -/
def bare : Arguments := { positional := [], named := [] }

/-- The course that the body of the operation takes when it is called with nothing. -/
def relayed : Course :=
  .call ["Line", "deliver"] bare .done (.error (.raised "OSError" "cut")) .done

/-- The class is not left out with one of its names. -/
theorem call_instrument_relay :
    let send : Call := ⟨.command, "send", [], []⟩
    let deliver : Call := ⟨.command, "Line.deliver", [], []⟩
    relay.call (fun _ => true) 2 ["send"] bare 0 = some ⟨[], .ok .null, 1, relayed⟩ ∧
      ((fun n : Namespace ℕ => n.instrument .command ⟨["Line"], true⟩)^[2] relay).call
          (fun _ => true) 2 ["send"] bare 0 =
        some ⟨[send.entry, deliver.entry, deliver.failure, send.exit .null], .ok .null, 1,
          relayed⟩ := by
  intro send deliver
  have ran : relay.call (fun _ => true) 2 ["send"] bare 0 =
      some ⟨[], .ok .null, 1, relayed⟩ := rfl
  refine ⟨ran, ?_⟩
  obtain ⟨-, instrumented⟩ := relay.isInstrumented_iterate .command ⟨["Line"], true⟩ 1
  have first : relay.Chooses ⟨["Line"], true⟩ ["send"] "send" sending :=
    .function rfl rfl (by decide)
  have second : relay.Chooses ⟨["Line"], true⟩ ["Line", "deliver"] "Line.deliver" delivering :=
    have reached : ("Cable", .group 0) ∈ relay.items := by simp [relay]
    .member rfl rfl rfl rfl reached (by decide) rfl rfl (by decide +kernel) (by decide) (by decide)
  refine (instrumented.transparent ran ⟨fun op found => ?_, ⟨fun op found => ?_, trivial, trivial⟩,
    trivial⟩).trans ?_
  · obtain rfl := Option.some.inj ((instrumented.chosen first).symm.trans found)
    intro t layer _
    obtain rfl := List.mem_singleton.mp layer
    exact ⟨rfl, rfl, nofun⟩
  · obtain rfl := Option.some.inj ((instrumented.chosen second).symm.trans found)
    intro t layer _
    obtain rfl := List.mem_singleton.mp layer
    exact ⟨rfl, rfl, nofun⟩
  · rw [Run.whole, instrumented.recorded first rfl rfl, relayed,
      instrumented.recorded second rfl rfl]
    rfl

/-- A module with an operation that gives one. -/
def sampling : Namespace Unit :=
  ⟨some "sampling", [("sample", .operation
    ⟨"sample", some "sampling", [], fun _ _ => .finish (.ok (.int 1))⟩)], []⟩

/-- Seven lengths of time, in seconds. -/
def durations : Value Float :=
  .array (.span 1 .second) [7] [.int 1, .int 2, .int 3, .int 4, .int 5, .int 6, .int 7]

/-- A traced call does not always give what the operation gives: the range of lengths of time, which
is shown of more than a few, cannot be shown. -/
theorem not_forall_call_instrument :
    ¬ ∀ (n : Namespace Unit) (channel : Channel) (selection : Selection) (verbosity : Verbosity)
      (depth : ℕ) (path : Path) (arguments : Arguments) (s : Unit) (r : Run Unit),
      n.call verbosity depth path arguments s = some r →
      ∃ r', (n.instrument channel selection).call verbosity depth path arguments s = some r' ∧
        r'.outcome = r.outcome := by
  intro transparent
  let measured : Arguments := { positional := [durations], named := [] }
  obtain ⟨r, ran, given⟩ := transparent sampling .command ⟨[], true⟩ (fun _ => true) 1 ["sample"]
    measured () ⟨[], .ok (.int 1), (), .done⟩ rfl
  have failed : ((sampling.instrument .command ⟨[], true⟩).call (fun _ => true) 1 ["sample"]
      measured ()).map (fun r => r.outcome.isOk) = some false := rfl
  rw [ran, Option.map_some, given] at failed
  cases failed

end Drafting.Log
