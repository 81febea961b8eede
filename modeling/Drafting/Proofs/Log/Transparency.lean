import Drafting.Proofs.Log.Instrument

/-!
# Traced calls give what the operations give

A traced call whose arguments and result can be shown gives what the call of the operation itself
gives and leaves the same state; what it adds are the records at its start and at its end. They
stand around the records of all that happens in between, so that the records of a whole run are
those of its course, each traced call in a bracket of its own.
-/

namespace Drafting.Log

variable {σ : Type} {verbosity : Verbosity} {arguments : Arguments}

/-- A run with other records. -/
def Run.retold (r : Run σ) (records : List Record) : Run σ := { r with records }

namespace Tracing

variable {t : Tracing}

/-- What a layer of tracing is to show of a call can be shown, and the call is not one that was
given up because something could not. -/
structure Shows (t : Tracing) (arguments : Arguments) (outcome : Outcome) : Prop where
  entry : arguments.requireShown = .ok ()
  leave : t.requireLeave arguments outcome = .ok ()
  notGivenUp : ∀ fault, outcome ≠ .error (.unshown fault)

/-- The records of a call between those of its start and its end, where these are taken. -/
def bracket (t : Tracing) (verbosity : Verbosity) (arguments : Arguments) (outcome : Outcome)
    (records : List Record) : List Record :=
  if verbosity t.channel then
    (t.call arguments).entry :: (records ++ t.leave arguments outcome)
  else records

/-- A call that is not interrupted is recorded as a call is that writes its records itself. -/
lemma bracket_eq_records_traced {outcome : Outcome} (records : List Record)
    (on : verbosity t.channel = true) (finished : wasInterrupted outcome = false) :
    t.bracket verbosity arguments outcome records =
      ((t.call arguments).traced t.shown ⟨records, outcome⟩).records := by
  rw [bracket, if_pos on, leave, finished, if_neg Bool.false_ne_true]
  rfl

lemma close_of_requireLeave {r : Run σ} (shown : t.requireLeave arguments r.outcome = .ok ()) :
    t.close arguments r =
      r.retold ((t.call arguments).entry :: (r.records ++ t.leave arguments r.outcome)) := by
  rw [close, shown]
  rfl

/-- A run is closed without its result given up only if that can be shown. -/
lemma requireLeave_of_close {r : Run σ}
    (kept : ∀ fault, (t.close arguments r).outcome ≠ .error (.unshown fault)) :
    t.requireLeave arguments r.outcome = .ok () := by
  cases required : t.requireLeave arguments r.outcome with
  | ok _ => rfl
  | error fault =>
    rw [close, required] at kept
    exact absurd rfl (kept fault)

/-- A layer of tracing adds its records and nothing else. -/
lemma around_eq_some_iff {body : σ → Option (Run σ)} {s : σ} {r : Run σ}
    (shown : verbosity t.channel = true → t.Shows arguments r.outcome) :
    t.around verbosity arguments body s = some r ↔
      ∃ inner, body s = some inner ∧
        r = inner.retold (t.bracket verbosity arguments inner.outcome inner.records) := by
  by_cases on : verbosity t.channel = true
  · obtain ⟨entered, leaves, kept⟩ := shown on
    simp only [around, bracket, if_pos on, entered, Option.map_eq_some_iff]
    refine exists_congr fun inner => and_congr_right fun _ => ?_
    -- Either way the result can be shown: else the call would have been given up for it.
    constructor
    · rintro rfl
      exact close_of_requireLeave (requireLeave_of_close kept)
    · rintro rfl
      exact close_of_requireLeave leaves
  · simp [around, bracket, on, Run.retold]

end Tracing

namespace Operation

variable {op : Operation σ}

/-- What the layers of tracing around an operation are to show of a call of it can be shown. -/
def Shows (op : Operation σ) (verbosity : Verbosity) (arguments : Arguments) (outcome : Outcome) :
    Prop :=
  ∀ t ∈ op.tracing, verbosity t.channel = true → t.Shows arguments outcome

/-- The records of a call of an operation, each layer of tracing around those inside it. -/
def bracket (op : Operation σ) (verbosity : Verbosity) (arguments : Arguments) (outcome : Outcome)
    (records : List Record) : List Record :=
  op.tracing.foldr (fun t => t.bracket verbosity arguments outcome) records

lemma foldr_around_eq_some_iff {body : σ → Option (Run σ)} {s : σ} (layers : List Tracing)
    {r : Run σ}
    (shown : ∀ t ∈ layers, verbosity t.channel = true → t.Shows arguments r.outcome) :
    layers.foldr (fun t => t.around verbosity arguments) body s = some r ↔
      ∃ inner, body s = some inner ∧
        r = inner.retold (layers.foldr (fun t => t.bracket verbosity arguments inner.outcome)
          inner.records) := by
  induction layers generalizing r with
  | nil => simp [Run.retold]
  | cons t rest ih =>
    obtain ⟨here, there⟩ := List.forall_mem_cons.mp shown
    rw [List.foldr_cons, Tracing.around_eq_some_iff here]
    constructor
    · rintro ⟨middle, ran, rfl⟩
      obtain ⟨inner, base, rfl⟩ := (ih (r := middle) there).mp ran
      exact ⟨inner, base, rfl⟩
    · rintro ⟨inner, base, rfl⟩
      let middle := inner.retold
        (rest.foldr (fun t => t.bracket verbosity arguments inner.outcome) inner.records)
      exact ⟨middle, (ih (r := middle) there).mpr ⟨inner, base, rfl⟩, rfl⟩

/-- A call of an operation is a run of its body, with the records of its tracing around. -/
lemma run_eq_some_iff {call : Path → Arguments → σ → Option (Run σ)} {s : σ} {r : Run σ}
    (shown : op.Shows verbosity arguments r.outcome) :
    op.run verbosity call arguments s = some r ↔
      ∃ inner, (op.body verbosity arguments).run call s = some inner ∧
        r = inner.retold (op.bracket verbosity arguments inner.outcome inner.records) :=
  foldr_around_eq_some_iff op.tracing shown

end Operation

/-- A call with its run, as a course of its own. -/
def Run.whole (path : Path) (arguments : Arguments) (r : Run σ) : Course :=
  .call path arguments r.course r.outcome .done

namespace Namespace

/-- What is to be shown of the calls in a course can be shown. -/
def Shows (n : Namespace σ) (verbosity : Verbosity) : Course → Prop
  | .done => True
  | .note _ _ _ rest => n.Shows verbosity rest
  | .call path arguments inner outcome rest =>
    (∀ op, n.operation? path = some op → op.Shows verbosity arguments outcome) ∧
      n.Shows verbosity inner ∧ n.Shows verbosity rest

/-- The records of a call at a path, given those of what happened in it. -/
def bracket (n : Namespace σ) (verbosity : Verbosity) (path : Path) (arguments : Arguments)
    (outcome : Outcome) (records : List Record) : List Record :=
  match n.operation? path with
  | some op => op.bracket verbosity arguments outcome records
  | none => records

/-- The records of a course: those that were written, and those of each call around what happened in
it. -/
def transcript (n : Namespace σ) (verbosity : Verbosity) : Course → List Record
  | .done => []
  | .note severity channel text rest =>
    .plain severity channel text :: n.transcript verbosity rest
  | .call path arguments inner outcome rest =>
    n.bracket verbosity path arguments outcome (n.transcript verbosity inner) ++
      n.transcript verbosity rest

/-- Two namespaces that have the same bodies, whatever is traced. -/
def HasSameBodies (n m : Namespace σ) : Prop :=
  ∀ path, (n.operation? path).map Operation.body = (m.operation? path).map Operation.body

variable {n m : Namespace σ}

/-- What a body does with calls of one namespace it does with those of another, if these give the
same. -/
lemma run_routine {call call' : Path → Arguments → σ → Option (Run σ)}
    (calls : ∀ path arguments s r, call path arguments s = some r →
      n.Shows verbosity (r.whole path arguments) → m.Shows verbosity (r.whole path arguments) →
      call' path arguments s =
        some (r.retold (m.transcript verbosity (r.whole path arguments))))
    (body : Routine σ) {s : σ} {r : Run σ} (ran : body.run call s = some r)
    (shown : n.Shows verbosity r.course) (shown' : m.Shows verbosity r.course) :
    body.run call' s = some (r.retold (m.transcript verbosity r.course)) := by
  -- What the calls give decides how the body goes on, so both runs take the same course.
  induction body generalizing s r with
  | finish outcome =>
    cases ran
    rfl
  | get next ih => exact ih s ran shown shown'
  | set s next ih => exact ih ran shown shown'
  | write severity channel text next ih =>
    obtain ⟨rest, next, rfl⟩ := Option.map_eq_some_iff.mp ran
    rw [Routine.run, ih next shown shown']
    rfl
  | call path arguments next ih =>
    obtain ⟨called, first, onward⟩ := Option.bind_eq_some_iff.mp ran
    obtain ⟨rest, last, rfl⟩ := Option.map_eq_some_iff.mp onward
    obtain ⟨here, inside, later⟩ := shown
    obtain ⟨here', inside', later'⟩ := shown'
    have again := calls path arguments s called first ⟨here, inside, trivial⟩
      ⟨here', inside', trivial⟩
    have rest := ih _ last later later'
    rw [Routine.run, again, Option.bind_some]
    refine (congrArg (Option.map _) rest).trans ?_
    simp [Run.after, Run.retold, transcript, Run.whole]

/-- A call in one namespace gives what it gives in another that has the same bodies, if both can
show what they are to show of it; its records are those of its course. -/
lemma call_of_hasSameBodies (same : n.HasSameBodies m) (depth : ℕ) {path : Path}
    {s : σ} {r : Run σ} (ran : n.call verbosity depth path arguments s = some r)
    (shown : n.Shows verbosity (r.whole path arguments))
    (shown' : m.Shows verbosity (r.whole path arguments)) :
    m.call verbosity depth path arguments s =
      some (r.retold (m.transcript verbosity (r.whole path arguments))) := by
  -- The induction is on how many calls may be open; those that the body makes have one less.
  induction depth generalizing path arguments s r with
  | zero => cases ran
  | succ depth ih =>
    obtain ⟨op, found, run⟩ := Option.bind_eq_some_iff.mp ran
    obtain ⟨op', found', body⟩ : ∃ op', m.operation? path = some op' ∧ op'.body = op.body := by
      have same := same path
      rw [found, Option.map_some] at same
      exact Option.map_eq_some_iff.mp same.symm
    obtain ⟨inner, base, rfl⟩ := (Operation.run_eq_some_iff (shown.1 op found)).mp run
    have within := run_routine (fun path arguments s r => ih) (op.body verbosity arguments) base
      shown.2.1 shown'.2.1
    have whole : m.transcript verbosity (inner.whole path arguments) =
        op'.bracket verbosity arguments inner.outcome (m.transcript verbosity inner.course) := by
      rw [Run.whole, transcript, bracket, found', transcript, List.append_nil]
    rw [call, found', Option.bind_some]
    let again := inner.retold (m.transcript verbosity (inner.whole path arguments))
    refine (Operation.run_eq_some_iff (r := again) (shown'.1 op' found')).mpr
      ⟨inner.retold (m.transcript verbosity inner.course), ?_, congrArg inner.retold whole⟩
    rw [body]
    exact within

end Namespace

namespace Operation

variable {op : Operation σ} {channel : Channel} {name : String} {showResult : Bool}

/-- An operation that was not traced gets one layer of tracing. -/
lemma tracing_trace (bare : op.isTraced = false) :
    (op.trace channel name showResult).tracing = [⟨channel, op.label name, showResult⟩] := by
  rw [trace, bare, if_neg Bool.false_ne_true, tracing_of_not_isTraced bare]

lemma shows_of_trace {outcome : Outcome}
    (shown : (op.trace channel name showResult).Shows verbosity arguments outcome) :
    op.Shows verbosity arguments outcome := by
  cases traced : op.isTraced with
  | true => rwa [op.trace_of_isTraced name showResult traced] at shown
  | false =>
    rw [Shows, tracing_of_not_isTraced traced]
    exact List.forall_mem_nil _

/-- Tracing on a channel that takes no records of calls makes no difference. -/
lemma run_trace (off : verbosity channel = false) :
    (op.trace channel name showResult).run verbosity = op.run verbosity := by
  unfold trace
  split
  · rfl
  · funext call arguments s
    simp [run, Tracing.around, off]

end Operation

namespace Namespace

variable {n traced : Namespace σ} {channel : Channel}

namespace IsTracedVersion

lemma hasSameBodies (version : n.IsTracedVersion traced channel) : n.HasSameBodies traced := by
  intro path
  obtain same | ⟨label, op, before, after⟩ := version path
  · rw [same]
  · rw [before, after, Option.map_some, Option.map_some, Operation.body_trace]

/-- What the traced version can show of a course the namespace itself can show, as it is to show no
more. -/
lemma shows (version : n.IsTracedVersion traced channel) {c : Course}
    (shown : traced.Shows verbosity c) : n.Shows verbosity c := by
  induction c with
  | done => trivial
  | note _ _ _ rest ih => exact ih shown
  | call path arguments inner outcome rest ihInner ihRest =>
    obtain ⟨here, inside, later⟩ := shown
    refine ⟨fun op found => ?_, ihInner inside, ihRest later⟩
    obtain same | ⟨label, op, before, after⟩ := version path
    · exact here op (same.trans found)
    · obtain rfl : op = _ := Option.some.inj (before.symm.trans found)
      exact Operation.shows_of_trace (here _ after)

/-- Where the channel takes no records of calls, the traced version is the namespace itself. -/
lemma call_eq (version : n.IsTracedVersion traced channel) (off : verbosity channel = false) :
    traced.call verbosity = n.call verbosity := by
  funext depth
  induction depth with
  | zero => rfl
  | succ depth ih =>
    funext path arguments s
    rw [call, call, ih]
    obtain same | ⟨label, op, before, after⟩ := version path
    · rw [same]
    · rw [before, after, Option.bind_some, Option.bind_some, Operation.run_trace off]

end IsTracedVersion

end Namespace

end Drafting.Log
