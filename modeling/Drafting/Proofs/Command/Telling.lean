import Drafting.Proofs.Command.Loading
import Drafting.Proofs.Log.Showing

/-!
# What the log of a run shows

The log of a run shows values of the file: traced calls show what they read, and lines tell the
labels of what is left out of account. A value is too deep to be shown only if the file is nested
deeply (`Value.IsDeep`), and with the records of calls left out, only if a label is no text
(`Command.exists_of_isTooDeep`). The records of a run are gone through as they are written: those
of each stage are due if those of its parts are.
-/

namespace Drafting

variable {β γ ε : Type}

/-! ### Depths -/

namespace Value

/-- The depth of data counts one level where showing it takes at least one call. -/
lemma IsJson.depth_le_showDepth {P : Value Float → Prop} {v : Value Float} (json : v.IsJson P) :
    v.depth ≤ v.showDepth := by
  induction json with
  | @list items _ _ ih =>
    refine itemDepth_le fun item there => ?_
    refine Nat.le_trans (Nat.add_le_add (ih item there) (Nat.le_succ 1)) ?_
    exact callDepth_add_le_of_mem Log.showCosts there
  | @record fields _ _ ih =>
    refine fieldDepth_le fun field there => ?_
    exact Nat.le_trans (Nat.succ_le_succ (ih field there))
      (callDepth_add_le_of_field Log.showCosts there)
  | _ => exact Nat.le_refl 0

variable {v w : Value Float}

lemma IsJson.showDepth_le (json : w.IsJson fun u => u.IsPartOf v) : w.showDepth ≤ v.showDepth := by
  cases json with
  | @list items part _ =>
    cases items with
    | nil => exact Nat.zero_le _
    | cons item rest => exact (part (List.cons_ne_nil item rest)).callDepth_le _
  | @record fields part _ =>
    cases fields with
    | nil => exact Nat.zero_le _
    | cons field rest => exact (part (List.cons_ne_nil field rest)).callDepth_le _
  | _ => exact Nat.zero_le _

/-- Whether a value is nested so deeply that there is too little room somewhere for showing it, or
for a record with it. -/
def IsDeep [Headroom] (v : Value Float) : Prop := ∃ site, Headroom.room site < v.showDepth + 4

/-- Whether it takes no more to show a value than to show a record with another. -/
abbrev IsWithin (v w : Value Float) : Prop := w.showDepth ≤ v.showDepth + 4

lemma IsJson.isWithin (json : w.IsJson fun u => u.IsPartOf v) : v.IsWithin w :=
  Nat.le_trans json.showDepth_le (Nat.le_add_right _ _)

lemma isWithin_of_eq_zero (single : w.showDepth = 0) : v.IsWithin w :=
  Nat.le_trans (Nat.le_of_eq single) (Nat.zero_le _)

end Value

variable [Headroom] {v : Value Float} {unnamed : Prop}

namespace Log

/-! ### Records -/

/-- That a record can be written, unless a value is nested deeply. If it is not for tracing,
another excuse is needed. -/
def Record.IsDue (v : Value Float) (unnamed : Prop) (r : Record) : Prop :=
  r.isTooDeep = true → v.IsDeep ∧ (r.severity = .debug ∨ unnamed)

/-- That all records are due. -/
abbrev AreDue (v : Value Float) (unnamed : Prop) (records : List Record) : Prop :=
  ∀ r ∈ records, r.IsDue v unnamed

lemma Record.IsDue.of_shown {r : Record} (shown : r.isTooDeep = false) : r.IsDue v unnamed := by
  intro deep
  rw [shown] at deep
  cases deep

lemma isDeep_of_isTooDeep {site : Site} {w : Value Float} (within : v.IsWithin w)
    (deep : isTooDeep (Headroom.room site) w = true) : v.IsDeep :=
  ⟨site, Nat.lt_of_lt_of_le (lt_showDepth_of_isTooDeep deep) within⟩

lemma areDue_whenOk {l : Logged (Except ε β)} {f : β → Logged (Except ε γ)}
    (first : AreDue v unnamed l.records)
    (rest : ∀ x, l.value = .ok x → AreDue v unnamed (f x).records) :
    AreDue v unnamed (l.whenOk f).records := by
  rw [Logged.whenOk]
  cases value : l.value with
  | ok x => exact List.forall_mem_append.mpr ⟨first, rest x value⟩
  | error cause => exact first

/-- A traced call adds two records that can be written. -/
lemma areDue_traced {call : Call} {shown : Shown β} {body : Logged (Except ε β)}
    (inner : AreDue v unnamed body.records) :
    AreDue v unnamed (call.traced shown body).records := by
  have left : (call.leave shown body.value).isTooDeep = false := by
    cases body.value with
    | error cause => rfl
    | ok x => cases shown <;> rfl
  refine List.forall_mem_append.mpr ⟨?_, List.forall_mem_singleton.mpr (.of_shown left)⟩
  exact List.forall_mem_cons.mpr ⟨.of_shown rfl, inner⟩

/-- The records of a call that is watched can be written unless a value that it shows is nested
deeply. -/
lemma areDue_watched {call : Call} {shown : β → Value Float} {body : Logged (Except ε β)}
    (arguments : ∀ w ∈ call.arguments ++ call.named.map Prod.snd, v.IsWithin w)
    (inner : AreDue v unnamed body.records)
    (result : ∀ x, body.value = .ok x → v.IsWithin (shown x)) :
    AreDue v unnamed (call.watched shown body).records := by
  refine List.forall_mem_append.mpr ⟨List.forall_mem_cons.mpr ⟨fun deep => ?_, inner⟩,
    List.forall_mem_singleton.mpr fun deep => ?_⟩
  · obtain ⟨w, there, deep⟩ := List.any_eq_true.mp deep
    exact ⟨isDeep_of_isTooDeep (arguments w there) deep, .inl rfl⟩
  · have severity : (call.watchedLeave shown body.value).severity = .debug := by
      cases body.value <;> rfl
    refine ⟨?_, .inl severity⟩
    rw [Call.watchedLeave] at deep
    cases value : body.value with
    | error cause =>
      rw [value] at deep
      cases deep
    | ok x =>
      rw [value] at deep
      exact isDeep_of_isTooDeep (result x value) deep

/-! ### Reading -/

namespace Reading

/-- What a file is read from is within it. -/
lemma areDue_call {name : String} {arguments : List (Value Float)} {shown : β → Value Float}
    {body : Logged (Except (Fault Float) β)} (within : ∀ w ∈ arguments, v.IsWithin w)
    (inner : AreDue v unnamed body.records)
    (result : ∀ x, body.value = .ok x → v.IsWithin (shown x)) :
    AreDue v unnamed (call name arguments shown body).records :=
  areDue_watched (List.forall_mem_append.mpr ⟨within, List.forall_mem_nil _⟩) inner result

/-- Options that are read from a file are shown as what they are. -/
lemma areDue_options {kind : String} {given : Value Float} {result : Except (Fault Float) β}
    (within : v.IsWithin given) : AreDue v unnamed (options kind given result).records := by
  refine areDue_call (List.forall_mem_cons.mpr ⟨within, List.forall_mem_singleton.mpr ?_⟩)
    (List.forall_mem_nil _) fun _ _ => ?_
  · exact Value.isWithin_of_eq_zero rfl
  · exact Value.isWithin_of_eq_zero rfl

variable {fields : List (String × Value Float)}

lemma isJson_of_sectionRecords {P : Value Float → Prop} (json : AreJson P fields) {name : String}
    {items : List (Value Float)} (read : Drafting.sectionRecords fields name = .ok items) :
    (Value.list items).IsJson P := by
  have due := due_sectionRecords json name
  rw [read] at due
  exact due.1 ▸ json.fieldOr name (.list (absurd rfl) (List.forall_mem_nil _))

/-- The records in a section are within the file. -/
lemma areDue_sectionRecords (whole : (Value.record fields).IsJson fun w => w.IsPartOf v)
    (name : String) : AreDue v unnamed (sectionRecords (.record fields) fields name).records := by
  refine areDue_call (List.forall_mem_cons.mpr ⟨whole.isWithin, List.forall_mem_singleton.mpr ?_⟩)
    (List.forall_mem_nil _) fun items read => ?_
  · exact Value.isWithin_of_eq_zero rfl
  · exact (isJson_of_sectionRecords whole.areJson read).isWithin

end Reading

end Log

open Log

/-! ### Sketches -/

namespace Sketch.Front

lemma areDue_loadEntities (s : Sketch (Value Float) Float Float) {items : List (Value Float)}
    (json : ∀ item ∈ items, item.IsJson fun w => w.IsPartOf v) :
    AreDue v unnamed (loadEntities s items).records := by
  induction items generalizing s with
  | nil => exact List.forall_mem_nil _
  | cons item rest ih =>
    obtain ⟨first, others⟩ := List.forall_mem_cons.mp json
    refine areDue_whenOk ?_ fun e _ => areDue_whenOk (List.forall_mem_nil _) fun s _ => ih s others
    exact Reading.areDue_call (List.forall_mem_singleton.mpr first.isWithin) (List.forall_mem_nil _)
      fun _ _ => Value.isWithin_of_eq_zero rfl

lemma areDue_loadConstraints (s : Sketch (Value Float) Float Float) {items : List (Value Float)}
    (json : ∀ item ∈ items, item.IsJson fun w => w.IsPartOf v) :
    AreDue v unnamed (loadConstraints s items).records := by
  induction items generalizing s with
  | nil => exact List.forall_mem_nil _
  | cons item rest ih =>
    obtain ⟨first, others⟩ := List.forall_mem_cons.mp json
    refine areDue_whenOk ?_ fun c _ => areDue_whenOk (List.forall_mem_nil _) fun s _ => ih s others
    exact Reading.areDue_call (List.forall_mem_singleton.mpr first.isWithin) (List.forall_mem_nil _)
      fun _ _ => Value.isWithin_of_eq_zero rfl

/-- The records of reading a sketch, with options from elsewhere, are due. -/
lemma areDue_load {fields : List (String × Value Float)}
    (whole : (Value.record fields).IsJson fun w => w.IsPartOf v) (o : DescentOptions Float) :
    AreDue v unnamed (load (.record fields) (some o) : Logged (Except (Fault Float)
      (Sketch (Value Float) Float Float))).records := by
  have inside : AreDue v unnamed (loadFields (.record fields) fields (some o) :
      Logged (Except (Fault Float) (Sketch (Value Float) Float Float))).records := by
    rw [loadFields]
    refine areDue_whenOk (List.forall_mem_nil _) fun options _ => ?_
    refine areDue_whenOk (List.forall_mem_nil _) fun _ _ => ?_
    refine areDue_whenOk ?_ fun _ _ => ?_
    · rw [newRecords]
      split
      · exact List.forall_mem_nil _
      · exact List.forall_mem_singleton.mpr (.of_shown rfl)
    refine areDue_whenOk (Reading.areDue_sectionRecords whole _) fun entities read => ?_
    have entities' := (Reading.isJson_of_sectionRecords whole.areJson read).of_list
    refine areDue_whenOk (areDue_loadEntities _ entities') fun s _ => ?_
    refine areDue_whenOk (Reading.areDue_sectionRecords whole _) fun constraints read => ?_
    have constraints' := (Reading.isJson_of_sectionRecords whole.areJson read).of_list
    refine areDue_whenOk (areDue_loadConstraints s constraints') fun s _ => ?_
    exact List.forall_mem_singleton.mpr (.of_shown rfl)
  refine Reading.areDue_call (List.forall_mem_cons.mpr ⟨whole.isWithin,
    List.forall_mem_singleton.mpr ?_⟩) inside fun _ _ => ?_
  · exact Value.isWithin_of_eq_zero rfl
  · exact Value.isWithin_of_eq_zero rfl

end Sketch.Front

/-! ### Planar sketches -/

namespace Plane

omit [Headroom] in
/-- The target of a constraint is no deeper than a place. -/
lemma ends_targetOf (w : Value Float) : Ends Any (fun target => target.showDepth ≤ 4)
    (targetOf w) := by
  have place (fields : List (String × Value Float)) :
      Ends Any (fun target => target.showDepth ≤ 4) ((placeOf fields).map placeRecord) :=
    (Ends.any _).map fun _ _ => Nat.le_add_left 1 3
  cases w with
  | null => exact Nat.zero_le _
  | record fields => exact place fields
  | mapping entries => exact place _
  | list | tuple | vector =>
    refine (Ends.any _).bind fun items _ _ => ?_
    split
    · refine (Ends.any _).bind fun x _ _ => (Ends.any _).bind fun y _ _ => ?_
      exact Nat.le_add_left 2 2
    · exact trivial
  | _ => exact (Ends.any _).bind fun x _ _ => Nat.zero_le _

omit [Headroom] in
lemma ends_targetField (fields : List (String × Value Float)) :
    Ends Any (fun target => target.showDepth ≤ 4) (targetField fields) := by
  rw [targetField]
  split
  · exact ends_targetOf _
  · exact Nat.zero_le _

namespace Session

variable {fields : List (String × Value Float)}

lemma areDue_targetRecords {item : Value Float} (json : item.IsJson fun w => w.IsPartOf v) :
    AreDue v unnamed (targetRecords item) := by
  rw [targetRecords]
  split
  · refine Reading.areDue_call (List.forall_mem_singleton.mpr json.isWithin) (List.forall_mem_nil _)
      fun target ok => ?_
    have shallow := ends_targetField (item.fields?.getD [])
    replace ok : targetField (item.fields?.getD []) = .ok target := ok
    rw [ok] at shallow
    exact Nat.le_trans shallow (Nat.le_add_left _ _)
  · exact List.forall_mem_nil _

lemma areDue_loadConstraints (d : Drawing String Float) {items : List (Value Float)}
    (json : ∀ item ∈ items, item.IsJson fun w => w.IsPartOf v) :
    AreDue v unnamed (loadConstraints d items).records := by
  induction items generalizing d with
  | nil => exact List.forall_mem_nil _
  | cons item rest ih =>
    obtain ⟨first, others⟩ := List.forall_mem_cons.mp json
    exact areDue_whenOk (areDue_targetRecords first) fun d _ => ih d others

/-- The records of reading a planar sketch, with options from elsewhere, are due. -/
lemma areDue_load (whole : (Value.record fields).IsJson fun w => w.IsPartOf v)
    (o : NewtonOptions Float) : AreDue v unnamed (load (.record fields) (some o) :
      Logged (Except (Fault Float) (Drawing String Float))).records := by
  have inside : AreDue v unnamed (loadFields (.record fields) fields (some o) :
      Logged (Except (Fault Float) (Drawing String Float))).records := by
    rw [loadFields]
    refine areDue_whenOk (List.forall_mem_nil _) fun options _ => ?_
    refine areDue_whenOk (List.forall_mem_nil _) fun _ _ => ?_
    refine areDue_whenOk (Reading.areDue_sectionRecords whole _) fun points _ => ?_
    refine areDue_whenOk (List.forall_mem_nil _) fun d _ => ?_
    refine areDue_whenOk (Reading.areDue_sectionRecords whole _) fun unknowns _ => ?_
    refine areDue_whenOk (List.forall_mem_nil _) fun d _ => ?_
    refine areDue_whenOk (Reading.areDue_sectionRecords whole _) fun constraints read => ?_
    exact areDue_loadConstraints d (Reading.isJson_of_sectionRecords whole.areJson read).of_list
  refine Reading.areDue_call (List.forall_mem_cons.mpr ⟨whole.isWithin,
    List.forall_mem_singleton.mpr ?_⟩) inside fun _ _ => ?_
  · exact Value.isWithin_of_eq_zero rfl
  · exact Value.isWithin_of_eq_zero rfl

end Session

end Plane

/-! ### Labels -/

namespace Plane

/-- That what is left out by a standing has data as its label. -/
def Standing.IsLabelled (P : Value Float → Prop) : Standing Float → Prop
  | .skipped label _ | .unsupported label => label.IsJson P
  | _ => True

namespace Drawing.IsRead

variable {P : Value Float → Prop} {d : Drawing String Float} {o : NewtonOptions Float}
  (isRead : d.IsRead P o)

include isRead

omit [Headroom]

/-- The label of a constraint is its id, which is data, or a text. -/
lemma ends_label {item : Item} (used : item ∈ d.constraints) (position : ℕ) :
    Ends Any (Value.IsJson P) (d.label position item) := by
  obtain ⟨place, inside, rfl⟩ := isRead.plannable.constraints item used
  have own : (d.board.idValue (.constraint place)).IsJson P := by
    rw [Board.idValue, List.getElem?_eq_getElem inside]
    exact isRead.ids _ (List.getElem_mem inside)
  refine (Ends.any _).bind fun truthy _ _ => ?_
  split
  · exact own
  · refine (Ends.any _).bind fun _ _ _ => (Ends.any _).bind fun name _ _ => ?_
    exact .text _

lemma ends_standing {item : Item} (used : item ∈ d.constraints) (position : ℕ) :
    Ends Any (Standing.IsLabelled P) (d.standing position item) := by
  refine (Ends.any _).bind fun _ _ _ => (Ends.any _).bind fun enabled _ _ => ?_
  split
  · refine (isRead.ends_label used position).bind fun label _ json => ?_
    refine (Ends.any _).bind fun _ _ _ => (Ends.any _).bind fun relation? _ _ => ?_
    split
    · exact json
    · refine (Ends.any _).bind fun _ _ _ => (Ends.any _).bind fun _ _ _ => ?_
      refine (Ends.any _).bind fun sources _ _ => ?_
      show (standingOf label _ item sources).IsLabelled P
      rw [standingOf]
      split
      · exact True.intro
      · exact json
  · exact True.intro

/-- The labels in a plan are data. -/
lemma isJson_of_plan {plan : Plan Float} (planned : d.plan = .ok plan) :
    ∀ label ∈ plan.diagnostics.skipped ++ plan.diagnostics.unsupported, label.IsJson P := by
  have labelled : Ends Any (fun plan => ∀ s ∈ plan, Standing.IsLabelled P s) d.plan :=
    Ends.mapM fun entry there => isRead.ends_standing (List.fst_mem_of_mem_zipIdx there) entry.2
  rw [planned] at labelled
  intro label there
  obtain skipped | unsupported := List.mem_append.mp there
  · obtain ⟨s, among, same⟩ := List.mem_filterMap.mp skipped
    split at same
    · next own needed =>
      cases same
      exact labelled _ among
    · cases same
  · obtain ⟨s, among, same⟩ := List.mem_filterMap.mp unsupported
    split at same
    · next own =>
      cases same
      exact labelled _ among
    · cases same

end Drawing.IsRead

lemma isDeep_of_textFault? {site : Site} {label : Value Float}
    (json : label.IsJson fun w => w.IsPartOf v)
    (kept : label.textFault? (Headroom.room site) = some .tooDeep) : v.IsDeep := by
  obtain ⟨-, deep, -⟩ | ⟨other, -⟩ := json.of_textFault? kept
  · exact ⟨site, calc
      _ < label.depth := deep
      _ ≤ label.showDepth := json.depth_le_showDepth
      _ ≤ v.showDepth + 4 := json.isWithin⟩
  · cases other

lemma areDue_labelled {fault? : Option (Fault Float)} {line : Log.Record}
    (shown : line.isTooDeep = false)
    (due : fault? = some .tooDeep → v.IsDeep ∧ (line.severity = .debug ∨ unnamed)) :
    AreDue v unnamed (labelled fault? line) := by
  rw [labelled.eq_def]
  split
  · exact List.forall_mem_singleton.mpr (.of_shown shown)
  · exact List.forall_mem_singleton.mpr fun _ => due rfl
  · exact List.forall_mem_nil _

lemma areDue_skipRecords {s : Standing Float} (isLabelled : s.IsLabelled fun w => w.IsPartOf v) :
    AreDue v unnamed (skipRecords s) := by
  cases s with
  | skipped label needed =>
    exact areDue_labelled rfl fun kept => ⟨isDeep_of_textFault? isLabelled kept, .inl rfl⟩
  | _ => exact List.forall_mem_nil _

/-- The line for what is ignored can be written unless a label is nested deeply; such a label is no
text. -/
lemma areDue_ignoredRecords {diagnostics : Diagnostics Float}
    (json : ∀ label ∈ diagnostics.unsupported, label.IsJson fun w => w.IsPartOf v)
    (excuse : ∀ label ∈ diagnostics.unsupported, ¬Command.IsText label → unnamed) :
    AreDue v unnamed (ignoredRecords diagnostics) := by
  rw [ignoredRecords]
  split
  · exact List.forall_mem_nil _
  · refine areDue_labelled rfl fun kept => ?_
    obtain ⟨label, there, kept⟩ := Value.exists_of_itemFault? kept
    refine ⟨isDeep_of_textFault? (json label there) kept, .inr (excuse label there ?_)⟩
    rintro ⟨s, rfl⟩
    cases kept

end Plane

/-! ### Planar solves -/

namespace Linear.Session

variable {pivotTolerance : Value Float} (pivot : v.IsWithin pivotTolerance)

include pivot

lemma areDue_call {name : String} (columns : ℕ) (rows : List (List Float)) (xs : List Float)
    {body : Outcome (List Float)} (inner : AreDue v unnamed body.records) :
    AreDue v unnamed (call name pivotTolerance (matrix columns rows) (column xs) body).records := by
  refine areDue_watched ?_ inner fun _ _ => Value.isWithin_of_eq_zero rfl
  refine List.forall_mem_cons.mpr ⟨Value.isWithin_of_eq_zero rfl, ?_⟩
  refine List.forall_mem_cons.mpr ⟨Value.isWithin_of_eq_zero rfl, ?_⟩
  exact List.forall_mem_singleton.mpr pivot

lemma areDue_newtonStep (columns : ℕ) (jacobian : List (List Float)) (residuals : List Float)
    (result : Except (Fault Float) (List Float)) :
    AreDue v unnamed (newtonStep pivotTolerance columns jacobian residuals result).records := by
  refine areDue_call pivot _ _ _ ?_
  split
  · exact areDue_call pivot _ _ _ (List.forall_mem_nil _)
  · refine List.forall_mem_cons.mpr ⟨.of_shown rfl, ?_⟩
    exact areDue_call pivot _ _ _ (areDue_call pivot _ _ _ (List.forall_mem_nil _))

end Linear.Session

namespace Plane.Drawing

variable {d : Drawing String Float}

lemma areDue_readRecords : AreDue v unnamed d.readRecords := areDue_traced (List.forall_mem_nil _)

lemma areDue_commitRecords (params : List Float) : AreDue v unnamed (d.commitRecords params) :=
  areDue_traced (List.forall_mem_nil _)

lemma areDue_concludeRecords (isDone : Bool) (count : ℕ) (final : Iterate Float) :
    AreDue v unnamed (d.concludeRecords isDone count final) := by
  refine List.forall_mem_append.mpr ⟨areDue_commitRecords _, ?_⟩
  split
  · exact List.forall_mem_cons.mpr ⟨.of_shown rfl, areDue_readRecords⟩
  · exact List.forall_mem_nil _

section

variable (pivot : v.IsWithin d.options.pivotTolerance)

include pivot

lemma areDue_stepRecords (plan : Plan Float) (demands : List (Demand Float)) (i : Iterate Float) :
    AreDue v unnamed (d.stepRecords plan demands i) := by
  refine List.forall_mem_append.mpr ⟨areDue_traced (List.forall_mem_nil _), ?_⟩
  split
  · exact List.forall_mem_nil _
  · exact Linear.Session.areDue_newtonStep pivot _ _ _ _

lemma areDue_runRecords (plan : Plan Float) (demands : List (Demand Float)) (count : ℕ)
    (from' : Iterate Float) (iterates : List (Iterate Float)) :
    AreDue v unnamed (d.runRecords plan demands count from' iterates) := by
  induction iterates generalizing count from' with
  | nil => exact List.forall_mem_nil _
  | cons reached rest ih =>
    refine List.forall_mem_append.mpr ⟨areDue_stepRecords pivot plan demands from', ?_⟩
    exact List.forall_mem_cons.mpr ⟨.of_shown rfl, ih (count + 1) reached⟩

lemma areDue_demandRecords (plan : Plan Float) (demands : List (Demand Float)) :
    AreDue v unnamed (d.demandRecords plan demands) := by
  refine List.forall_mem_cons.mpr ⟨.of_shown rfl, ?_⟩
  split
  · exact List.forall_mem_nil _
  · exact areDue_commitRecords _
  · exact List.forall_mem_nil _
  · split
    · exact areDue_stepRecords pivot plan demands _
    · exact List.forall_mem_append.mpr
        ⟨areDue_runRecords pivot plan demands 0 _ _, areDue_concludeRecords _ _ _⟩

lemma areDue_innerRecords : AreDue v unnamed d.innerRecords := by
  rw [innerRecords]
  split
  · exact List.forall_mem_nil _
  · split
    · exact List.forall_mem_cons.mpr ⟨.of_shown rfl, areDue_readRecords⟩
    · split
      · exact List.forall_mem_nil _
      · exact areDue_demandRecords pivot _ _

end

namespace IsRead

variable {o : NewtonOptions Float} (isRead : d.IsRead (fun w => w.IsPartOf v) o)

include isRead

lemma areDue_skipRecords {entries : List (Item × ℕ)}
    (used : ∀ entry ∈ entries, entry.1 ∈ d.constraints) :
    AreDue v unnamed (d.skipRecords entries) := by
  induction entries with
  | nil => exact List.forall_mem_nil _
  | cons entry rest ih =>
    obtain ⟨first, others⟩ := List.forall_mem_cons.mp used
    have labelled := isRead.ends_standing first entry.2
    rw [Drawing.skipRecords]
    split
    · next s stands =>
      rw [stands] at labelled
      exact List.forall_mem_append.mpr ⟨Plane.areDue_skipRecords labelled, ih others⟩
    · exact List.forall_mem_nil _

/-- The records of a solve are due, where labels that are no texts are an excuse. -/
lemma areDue_solveRecords (shown : o.AreShown fun w => w.IsPartOf v)
    (result : Except (Fault Float) (Solution String Float))
    (excuse : ∀ plan, d.plan = .ok plan →
      ∀ label ∈ plan.diagnostics.skipped ++ plan.diagnostics.unsupported,
        ¬Command.IsText label → unnamed) :
    AreDue v unnamed (d.solveRecords result) := by
  refine areDue_traced (List.forall_mem_append.mpr ⟨areDue_traced ?_, areDue_innerRecords ?_⟩)
  · refine List.forall_mem_append.mpr ⟨isRead.areDue_skipRecords fun entry there =>
      List.fst_mem_of_mem_zipIdx there, ?_⟩
    split
    · next plan planned =>
      exact areDue_ignoredRecords
        (fun label there => isRead.isJson_of_plan planned label (List.mem_append_right _ there))
        fun label there => excuse plan planned label (List.mem_append_right _ there)
    · exact List.forall_mem_nil _
  · exact isRead.options ▸ shown.pivotTolerance.isWithin

omit [Headroom]

lemma showDepth_diagnostics {plan : Plan Float} (planned : d.plan = .ok plan) :
    (plan.diagnostics.toRecord : Value Float).showDepth ≤ v.showDepth + 3 := by
  have list {labels : List (Value Float)}
      (json : ∀ label ∈ labels, label.IsJson fun w => w.IsPartOf v) :
      (Value.list labels).showDepth ≤ v.showDepth + 2 :=
    Value.itemDepth_le fun label there => Nat.add_le_add_right (json label there).showDepth_le 2
  obtain ⟨skipped, unsupported⟩ := List.forall_mem_append.mp (isRead.isJson_of_plan planned)
  refine Value.fieldDepth_le (List.forall_mem_cons.mpr ⟨?_, List.forall_mem_singleton.mpr ?_⟩)
  · exact Nat.succ_le_succ (list skipped)
  · exact Nat.succ_le_succ (list unsupported)

/-- The record of a solution is deeper by that of its labels. -/
lemma isWithin_solutionRecord (shown : o.AreShown fun w => w.IsPartOf v)
    {solution : Solution String Float} (solved : d.solve.result = .ok solution) :
    v.IsWithin (d.solutionRecord solution) := by
  have written : d.solutionRecord solution = solution.toRecord := by
    have tolerance := isRead.options ▸ shown.tolerance
    rw [Drawing.solutionRecord]
    split
    · next same _ =>
      rw [same] at tolerance
      cases tolerance
    · rfl
  obtain ⟨plan, planned, diagnostics⟩ := diagnostics_of_solve solved
  have values : (valuesRecord solution.values : Value Float).showDepth ≤ 1 := by
    have texts : valuesRecord solution.values =
        .record (solution.values.entries.map fun entry => (entry.1, .real entry.2)) :=
      Value.ofEntries_texts Prod.fst (fun entry => .real entry.2) solution.values.entries
    rw [texts]
    exact Value.fieldDepth_le (List.forall_mem_map.mpr fun _ _ => Nat.le_refl 1)
  have residual : (finiteOrNull solution.residual : Value Float).showDepth = 0 := by
    rw [finiteOrNull]
    split <;> rfl
  rw [written]
  refine Value.fieldDepth_le (List.forall_mem_cons.mpr ⟨Nat.le_add_left 1 _,
    List.forall_mem_cons.mpr ⟨Nat.le_add_left 1 _, List.forall_mem_cons.mpr ⟨?_,
      List.forall_mem_cons.mpr ⟨?_, List.forall_mem_singleton.mpr ?_⟩⟩⟩⟩)
  · exact Nat.le_trans (Nat.succ_le_succ (Nat.le_of_eq residual)) (Nat.le_add_left 1 _)
  · exact Nat.le_trans (Nat.succ_le_succ values) (Nat.le_add_left 2 _)
  · exact diagnostics ▸ Nat.succ_le_succ (isRead.showDepth_diagnostics planned)

end IsRead

end Plane.Drawing

namespace Plane.Session

lemma areDue_recordCall {name : String} {shown record : Value Float} {inner : List Log.Record}
    (object : shown.showDepth = 0) (within : v.IsWithin record) (due : AreDue v unnamed inner) :
    AreDue v unnamed (recordCall name shown record inner) := by
  refine areDue_watched (List.forall_mem_singleton.mpr (Value.isWithin_of_eq_zero object)) due ?_
  rintro _ ⟨⟩
  exact within

/-- The records of putting a solution into a record are due. -/
lemma areDue_solutionRecord {d : Drawing String Float} {o : NewtonOptions Float}
    (isRead : d.IsRead (fun w => w.IsPartOf v) o) (shown : o.AreShown fun w => w.IsPartOf v)
    {solution : Solution String Float} (solved : d.solve.result = .ok solution) :
    AreDue v unnamed (solutionRecord d solution).records := by
  have whole := isRead.isWithin_solutionRecord shown solved
  obtain ⟨plan, planned, diagnostics⟩ := Drawing.diagnostics_of_solve solved
  have told : v.IsWithin solution.diagnostics.toRecord :=
    Nat.le_succ_of_le (diagnostics ▸ isRead.showDepth_diagnostics planned)
  refine areDue_recordCall rfl whole (areDue_recordCall rfl whole ?_)
  exact areDue_recordCall rfl told (List.forall_mem_nil _)

end Plane.Session

/-! ### Solves in space -/

namespace Sketch.Front

/-- The records of a descent show no values of the file. -/
lemma areDue_solveRecords (s : Sketch (Value Float) Float Float)
    (run : Except (Fault Float) (Gradient.Solution (Value Float) Float)) (elapsed : Float) :
    AreDue v unnamed (solveRecords s run elapsed) := by
  have start : AreDue v unnamed (Gradient.startRecord? s.entities.size s.plan.length
      s.options.maxIterations s.options.tolerance s.options.damping).toList := by
    intro r there
    obtain ⟨_, -, made⟩ := Option.bind_eq_some_iff.mp (Option.mem_toList.mp there)
    obtain ⟨_, -, made⟩ := Option.bind_eq_some_iff.mp made
    obtain ⟨_, -, made⟩ := Option.bind_eq_some_iff.mp made
    cases made
    exact .of_shown rfl
  refine List.forall_mem_append.mpr ⟨List.forall_mem_append.mpr
    ⟨List.forall_mem_map.mpr fun _ _ => .of_shown rfl, ?_⟩, ?_⟩
  · split
    · rw [Gradient.unsupportedRecords]
      split
      · exact List.forall_mem_nil _
      · exact List.forall_mem_singleton.mpr (.of_shown rfl)
    · exact List.forall_mem_nil _
  · split
    · rw [runRecords.eq_def]
      split
      · exact start
      · split
        · exact start
        · refine List.forall_mem_append.mpr ⟨List.forall_mem_append.mpr
            ⟨start, List.forall_mem_map.mpr fun _ _ => .of_shown rfl⟩, ?_⟩
          split
          · exact List.forall_mem_singleton.mpr (.of_shown rfl)
          · exact List.forall_mem_nil _
    · exact List.forall_mem_nil _

end Sketch.Front

/-! ### Runs -/

namespace Command

variable {a : Arguments} {bytes : List UInt8} {fields : List (String × Value Float)}

lemma areDue_next {stage : Stage β} {f : β → Stage γ} (first : AreDue v unnamed stage.records)
    (rest : ∀ x, stage.value = .ok x → AreDue v unnamed (f x).records) :
    AreDue v unnamed (stage.next f).records := by
  rw [Stage.next]
  cases value : stage.value with
  | ok x => exact List.forall_mem_append.mpr ⟨first, rest x value⟩
  | error ending => exact first

lemma areDue_reading (path : String) {l : Logged (Except (Fault Float) β)}
    (inner : AreDue v unnamed l.records) : AreDue v unnamed (reading path l).records := by
  refine areDue_next inner fun _ _ => ?_
  rw [checked.eq_def]
  split
  · exact List.forall_mem_nil _
  · split
    · exact List.forall_mem_singleton.mpr (.of_shown rfl)
    · exact List.forall_mem_nil _

/-- The records of reading a sketch are due. -/
lemma areDue_solveGradient (whole : (Value.record fields).IsJson fun w => w.IsPartOf v) :
    AreDue v unnamed (solveGradient a fields).records := by
  have given := (whole.areJson.fieldOrNull "options").isWithin
  refine areDue_next (areDue_reading _ (Reading.areDue_options given)) fun o _ => ?_
  refine areDue_next (areDue_reading _ (Sketch.Front.areDue_load whole _)) fun s _ => ?_
  exact List.forall_mem_nil _

lemma areDue_solvePlanar (whole : (Value.record fields).IsJson fun w => w.IsPartOf v) :
    AreDue v unnamed (solvePlanar a fields).records := by
  have given := (whole.areJson.fieldOrNull "options").isWithin
  refine areDue_next ?_ fun _ _ => ?_
  · cases a.verbose with
    | true => exact List.forall_mem_singleton.mpr (.of_shown rfl)
    | false => exact List.forall_mem_nil _
  refine areDue_next (areDue_reading _ (Reading.areDue_options given)) fun o _ => ?_
  refine areDue_next (areDue_reading _ (Plane.Session.areDue_load whole _)) fun d _ => ?_
  exact List.forall_mem_nil _

/-- The records of a solve are due, where labels that are no texts are an excuse. -/
lemma Loaded.IsRead.areDue_records {l : Loaded} (isRead : l.IsRead (fun w => w.IsPartOf v) fields)
    (excuse : ∀ label ∈ l.labels, ¬IsText label → unnamed) (elapsed : Float) :
    AreDue v unnamed (l.solved.records elapsed) := by
  cases isRead with
  | sketch => exact Sketch.Front.areDue_solveRecords _ _ elapsed
  | @drawing o d isRead shown =>
    refine List.forall_mem_append.mpr ⟨isRead.areDue_solveRecords shown _ ?_, ?_⟩
    · intro plan planned label there
      refine excuse label ?_
      rw [labels, planned]
      exact there
    · cases solved : d.solve.result with
      | error fault => exact List.forall_mem_nil _
      | ok solution => exact Plane.Session.areDue_solutionRecord isRead shown solved

omit [Headroom] in
lemma shown_payload (path : String) (bytes : List UInt8) :
    ∀ r ∈ (payload path (.ok bytes)).records, r.isTooDeep = false := by
  have shown : ∀ r ∈ (content path bytes).records, r.isTooDeep = false := by
    rw [content]
    split
    · exact List.forall_mem_nil _
    · split
      · exact List.forall_mem_nil _
      · split
        · exact List.forall_mem_nil _
        · exact List.forall_mem_nil _
        · exact List.forall_mem_singleton.mpr rfl
  rw [payload.eq_def]
  dsimp only
  rw [Stage.next]
  split
  · refine List.forall_mem_append.mpr ⟨shown, ?_⟩
    split
    · exact List.forall_mem_nil _
    · exact List.forall_mem_singleton.mpr rfl
  · exact shown

omit [Headroom] in
lemma holds_of_payload {path : String} (ok : (payload path (.ok bytes)).value = .ok fields) :
    Holds bytes (.record fields) := by
  rw [payload.eq_def] at ok
  dsimp only at ok
  rw [value_next] at ok
  obtain ⟨v, found, ok⟩ := Except.bind_eq_ok.mp ok
  obtain ⟨w, holds⟩ | invalid | ⟨failure, -, failed⟩ := exists_value_content path bytes
  · rw [holds.value_content] at found
    cases found
    cases v with
    | record fields =>
      cases ok
      exact holds
    | _ => cases ok
  · rw [invalid] at found
    cases found
  · rw [failed] at found
    cases found

/-- The records of a run on a file with a record are due. -/
lemma Holds.areDue_recordsOf (holds : Holds bytes (.record fields)) (elapsed : Float) :
    AreDue (.record fields)
      (∃ l, a.read fields = .ok l ∧ ∃ label ∈ l.labels, ¬IsText label)
      (recordsOf (load a (.ok bytes)) elapsed) := by
  refine List.forall_mem_append.mpr ⟨?_, ?_⟩
  · refine areDue_next (fun r there => .of_shown (shown_payload _ _ r there)) fun fields' read => ?_
    have same : Value.record fields' = .record fields :=
      (holds_of_payload read).unique holds
    cases same
    refine areDue_next (List.forall_mem_singleton.mpr (.of_shown rfl)) fun _ _ => ?_
    split
    · exact areDue_solveGradient holds.isJson
    · exact areDue_solvePlanar holds.isJson
  · rw [holds.value_load]
    cases read : a.read fields with
    | error fault => exact List.forall_mem_nil _
    | ok l =>
      refine (isRead_of_read holds.isJson read).areDue_records (fun label there other => ?_) elapsed
      exact ⟨l, rfl, label, there, other⟩

/-- A record of a run that cannot be written shows a part of a file that is nested deeply. -/
theorem exists_of_isTooDeep {elapsed : Float} {r : Log.Record}
    (there : r ∈ recordsOf (load a (.ok bytes)) elapsed) (deep : r.isTooDeep = true) :
    ∃ fields, Holds bytes (.record fields) ∧ r.IsDue (.record fields)
      (∃ l, a.read fields = .ok l ∧ ∃ label ∈ l.labels, ¬IsText label) := by
  cases found : (payload a.path (.ok bytes)).value with
  | ok fields =>
    have holds := holds_of_payload found
    exact ⟨fields, holds, holds.areDue_recordsOf elapsed r there⟩
  | error ending =>
    have ended : load a (.ok bytes) = ⟨(payload a.path (.ok bytes)).records, .error ending⟩ := by
      rw [load, Stage.next, found]
    rw [ended, recordsOf] at there
    have shown := shown_payload _ _ r ((List.append_nil _ ▸ there :))
    rw [shown] at deep
    cases deep

end Command

end Drafting
