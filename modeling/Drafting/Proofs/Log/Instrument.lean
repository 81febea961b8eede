import Drafting.Log.Instrument
import Mathlib.Data.List.Basic
import Mathlib.Logic.Function.Iterate

/-!
# What instrumenting traces

Instrumenting a namespace traces the operations that are selected and leaves all others as they
were. A second time it finds every one that it selects traced already, so that it changes nothing
more, however often it is repeated.
-/

namespace Drafting.Log

variable {σ : Type} {channel : Channel} {selection : Selection}

namespace Operation

variable (op : Operation σ) (name : String) (showResult : Bool)

@[simp] lemma home_trace : (op.trace channel name showResult).home = op.home := by
  unfold trace
  split <;> rfl

@[simp] lemma body_trace : (op.trace channel name showResult).body = op.body := by
  unfold trace
  split <;> rfl

variable {op} in
lemma tracing_of_not_isTraced (bare : op.isTraced = false) : op.tracing = [] := by
  simpa [isTraced] using bare

lemma trace_of_isTraced (traced : op.isTraced = true) : op.trace channel name showResult = op :=
  if_pos traced

@[simp] lemma isTraced_trace : (op.trace channel name showResult).isTraced = true := by
  unfold trace
  split
  · assumption
  · rfl

@[simp] lemma trace_trace :
    (op.trace channel name showResult).trace channel name showResult =
      op.trace channel name showResult :=
  trace_of_isTraced _ name showResult (op.isTraced_trace name showResult)

end Operation

@[simp] lemma Member.operation?_mapOperation (m : Member σ) (f : Operation σ → Operation σ) :
    (m.mapOperation f).operation? = m.operation?.map f := by
  cases m <;> rfl

lemma Member.mapOperation_mapOperation (m : Member σ) (f g : Operation σ → Operation σ) :
    (m.mapOperation f).mapOperation g = m.mapOperation (g ∘ f) := by
  cases m <;> rfl

@[simp] lemma Item.operation?_mapOperation (item : Item σ) (f : Operation σ → Operation σ) :
    (item.mapOperation f).operation? = item.operation?.map f := by
  cases item <;> rfl

@[simp] lemma Item.place?_mapOperation (item : Item σ) (f : Operation σ → Operation σ) :
    (item.mapOperation f).place? = item.place? := by
  cases item <;> rfl

lemma Item.mapOperation_mapOperation (item : Item σ) (f g : Operation σ → Operation σ) :
    (item.mapOperation f).mapOperation g = item.mapOperation (g ∘ f) := by
  cases item <;> rfl

lemma Item.place?_eq_some_iff {item : Item σ} {place : ℕ} :
    item.place? = some place ↔ item = .group place := by
  cases item <;> simp [place?]

lemma Item.operation?_eq_some_iff {item : Item σ} {op : Operation σ} :
    item.operation? = some op ↔ item = .operation op := by
  cases item <;> simp [operation?]

/-- What is looked up among things that are changed under their names. -/
lemma lookup_map_named {α β : Type} (f : String → α → β) (things : List (String × α))
    (name : String) :
    (things.map fun thing => (thing.1, f thing.1 thing.2)).lookup name =
      (things.lookup name).map (f name) := by
  induction things with
  | nil => rfl
  | cons first rest ih =>
    rw [List.map_cons, List.lookup_cons, List.lookup_cons, ih]
    by_cases same : name = first.1
    · subst same
      simp
    · rw [beq_false_of_ne same]

namespace OperationClass

variable (g : OperationClass σ)

/-- An operation is selected if it is of the class's module and its name is neither reserved nor
skipped, alone or together with that of the class. -/
lemma selects_eq_true_iff {name : String} {op : Operation σ} :
    g.selects selection name op = true ↔
      isReserved name = false ∧ name ∉ selection.skip ∧ g.qualified name ∉ selection.skip ∧
        op.home = g.home := by
  simp [selects, and_assoc]

/-- Tracing an operation does not change whether it is selected. -/
lemma instrumentOperation_comp_self (name : String) :
    g.instrumentOperation channel selection name ∘ g.instrumentOperation channel selection name =
      g.instrumentOperation channel selection name := by
  funext op
  have same (qualified : String) : g.selects selection name (op.trace channel qualified true) =
      g.selects selection name op := by
    rw [selects, Operation.home_trace, selects]
  by_cases selected : g.selects selection name op <;> simp [instrumentOperation, selected, same]

/-- A class keeps its name and its home, so the same operations are selected when it is instrumented
again. -/
lemma instrument_instrument :
    (g.instrument channel selection).instrument channel selection =
      g.instrument channel selection := by
  have same : (g.instrument channel selection).instrumentOperation channel selection =
      g.instrumentOperation channel selection := rfl
  rw [instrument, same]
  simp only [instrument, List.map_map, Function.comp_def, Member.mapOperation_mapOperation]
  simp only [← Function.comp_def, instrumentOperation_comp_self]

lemma operation?_instrument (member : String) :
    (g.instrument channel selection).operation? member =
      (g.operation? member).map (g.instrumentOperation channel selection member) := by
  rw [operation?, instrument,
    lookup_map_named fun name => Member.mapOperation (g.instrumentOperation channel selection name),
    Option.bind_map, operation?, Option.map_bind]
  exact congrArg _ (funext fun m => m.operation?_mapOperation _)

end OperationClass

/-- Changing the things at some places of a list changes each of them once if it makes no
difference to do so again. -/
lemma getElem?_foldl_modify {α : Type} {f : α → α} (twice : ∀ x, f (f x) = f x) (places : List ℕ)
    (xs : List α) (i : ℕ) :
    (places.foldl (fun xs place => xs.modify place f) xs)[i]? =
      xs[i]?.map fun x => if i ∈ places then f x else x := by
  induction places generalizing xs with
  | nil => simp
  | cons place rest ih =>
    rw [List.foldl_cons, ih, List.getElem?_modify]
    cases xs[i]? with
    | none => rfl
    | some x =>
      by_cases here : place = i
      · by_cases later : i ∈ rest <;> simp [here, later, twice]
      · simp [here, Ne.symm here]

namespace Namespace

variable (n : Namespace σ)

/-- An operation is selected if it is of the namespace's module and its name is not skipped. -/
lemma selects_eq_true_iff {name : String} {op : Operation σ} :
    n.selects selection name op = true ↔ name ∉ selection.skip ∧ op.home = n.home := by
  simp [selects]

lemma instrumentOperation_comp_self (name : String) :
    n.instrumentOperation channel selection name ∘ n.instrumentOperation channel selection name =
      n.instrumentOperation channel selection name := by
  funext op
  have same : n.selects selection name (op.trace channel name true) =
      n.selects selection name op := by
    rw [selects, Operation.home_trace, selects]
  by_cases selected : n.selects selection name op <;> simp [instrumentOperation, selected, same]

lemma instrumentClass_instrumentClass (g : OperationClass σ) :
    n.instrumentClass channel selection (n.instrumentClass channel selection g) =
      n.instrumentClass channel selection g := by
  by_cases own : (g.home == n.home) = true
  · have still : ((g.instrument channel selection).home == n.home) = true := own
    rw [instrumentClass, instrumentClass, if_pos own, if_pos still,
      OperationClass.instrument_instrument]
  · rw [instrumentClass, instrumentClass, if_neg own, if_neg own]

/-- The places of the classes whose methods are to be traced. -/
def placesToInstrument (selection : Selection) : List ℕ :=
  n.items.filterMap (placeToInstrument? selection)

/-- The methods of a class are to be traced if one of the names that stand for it is not skipped. -/
lemma mem_placesToInstrument {place : ℕ} :
    place ∈ n.placesToInstrument selection ↔
      selection.methods = true ∧ ∃ name, (name, Item.group place) ∈ n.items ∧
        name ∉ selection.skip := by
  simp only [placesToInstrument, placeToInstrument?, List.mem_filterMap,
    Option.ite_none_right_eq_some, Item.place?_eq_some_iff, Bool.and_eq_true,
    Bool.not_eq_true', List.contains_eq_mem, decide_eq_false_iff_not]
  constructor
  · rintro ⟨⟨name, item⟩, listed, ⟨methods, kept⟩, rfl⟩
    exact ⟨methods, name, listed, kept⟩
  · rintro ⟨methods, name, listed, kept⟩
    exact ⟨(name, .group place), listed, ⟨methods, kept⟩, rfl⟩

lemma getElem?_classes_instrument (place : ℕ) :
    (n.instrument channel selection).classes[place]? = n.classes[place]?.map fun g =>
      if place ∈ n.placesToInstrument selection then n.instrumentClass channel selection g
      else g :=
  getElem?_foldl_modify n.instrumentClass_instrumentClass _ _ _

lemma placesToInstrument_instrument :
    (n.instrument channel selection).placesToInstrument selection =
      n.placesToInstrument selection := by
  simp only [placesToInstrument, instrument, List.filterMap_map]
  refine List.filterMap_congr fun item _ => ?_
  rw [Function.comp_apply, placeToInstrument?, Item.place?_mapOperation, placeToInstrument?]

/-- Instrumenting a second time changes nothing. -/
lemma instrument_instrument :
    (n.instrument channel selection).instrument channel selection =
      n.instrument channel selection := by
  have items : ((n.instrument channel selection).instrument channel selection).items =
      (n.instrument channel selection).items := by
    have same : (n.instrument channel selection).instrumentOperation channel selection =
        n.instrumentOperation channel selection := rfl
    rw [instrument, same]
    simp only [instrument, List.map_map]
    refine List.map_congr_left fun item _ => ?_
    rw [Function.comp_apply, Item.mapOperation_mapOperation, instrumentOperation_comp_self]
  have classes : ((n.instrument channel selection).instrument channel selection).classes =
      (n.instrument channel selection).classes := by
    refine List.ext_getElem? fun place => ?_
    have same : (n.instrument channel selection).instrumentClass channel selection =
        n.instrumentClass channel selection := rfl
    rw [getElem?_classes_instrument, getElem?_classes_instrument, placesToInstrument_instrument,
      same, Option.map_map]
    congr 1
    funext g
    by_cases chosen : place ∈ n.placesToInstrument selection
    · simp only [Function.comp_apply, if_pos chosen, instrumentClass_instrumentClass]
    · simp only [Function.comp_apply, if_neg chosen]
  exact congrArg₂ (Namespace.mk n.home) items classes

/-- Instrumenting any number of times, but at least once, is instrumenting once. -/
lemma iterate_instrument (times : ℕ) :
    (fun n : Namespace σ => n.instrument channel selection)^[times + 1] n =
      n.instrument channel selection := by
  rw [Function.iterate_succ_apply]
  exact Function.iterate_fixed n.instrument_instrument times

/-- The operations that are traced when a namespace is instrumented, with the names that their calls
are recorded under. -/
inductive Chooses (selection : Selection) : Path → String → Operation σ → Prop
  | function {name : String} {op : Operation σ}
      (listed : n.items.lookup name = some (.operation op))
      (ofModule : op.home = n.home) (kept : name ∉ selection.skip) :
      Chooses selection [name] name op
  | member {name other member : String} {place : ℕ} {g : OperationClass σ} {op : Operation σ}
      (methods : selection.methods = true)
      (listed : n.items.lookup name = some (.group place)) (group : n.classes[place]? = some g)
      (ofModule : g.home = n.home) (reached : (other, .group place) ∈ n.items)
      (kept : other ∉ selection.skip) (found : g.operation? member = some op)
      (ofClass : op.home = g.home) (unreserved : isReserved member = false)
      (plainKept : member ∉ selection.skip) (qualifiedKept : g.qualified member ∉ selection.skip) :
      Chooses selection [name, member] (g.qualified member) op

variable {n}

lemma Chooses.operation? {path : Path} {label : String} {op : Operation σ}
    (chosen : n.Chooses selection path label op) : n.operation? path = some op := by
  cases chosen with
  | function listed => rw [Namespace.operation?, listed, Option.bind_some, Item.operation?]
  | member _ listed group _ _ _ found =>
    rw [Namespace.operation?, group?, listed, Option.bind_some, Item.place?, Option.bind_some,
      group, Option.bind_some, found]

lemma operation?_instrument_name (name : String) :
    (n.instrument channel selection).operation? [name] =
      (n.operation? [name]).map (n.instrumentOperation channel selection name) := by
  rw [Namespace.operation?, instrument,
    lookup_map_named fun name => Item.mapOperation (n.instrumentOperation channel selection name),
    Option.bind_map, Namespace.operation?, Option.map_bind]
  exact congrArg _ (funext fun item => item.operation?_mapOperation _)

lemma operation?_member (name member : String) :
    n.operation? [name, member] = ((n.items.lookup name).bind Item.place?).bind fun place =>
      n.classes[place]?.bind fun g => g.operation? member :=
  Option.bind_assoc _ _ _

lemma operation?_instrument_member (name member : String) :
    (n.instrument channel selection).operation? [name, member] =
      ((n.items.lookup name).bind Item.place?).bind fun place => n.classes[place]?.bind fun g =>
        (if place ∈ n.placesToInstrument selection then n.instrumentClass channel selection g
          else g).operation? member := by
  have same : ((n.instrument channel selection).items.lookup name).bind Item.place? =
      (n.items.lookup name).bind Item.place? := by
    rw [instrument,
      lookup_map_named fun name => Item.mapOperation (n.instrumentOperation channel selection name),
      Option.bind_map]
    exact congrArg _ (funext fun item => item.place?_mapOperation _)
  rw [operation?_member, same]
  refine congrArg _ (funext fun place => ?_)
  rw [getElem?_classes_instrument, Option.bind_map]
  rfl

/-- Those operations are traced that are chosen. -/
lemma operation?_instrument_of_chooses {path : Path} {label : String} {op : Operation σ}
    (chosen : n.Chooses selection path label op) :
    (n.instrument channel selection).operation? path = some (op.trace channel label true) := by
  have found := chosen.operation?
  cases chosen with
  | function listed ofModule kept =>
    have selected := n.selects_eq_true_iff.mpr ⟨kept, ofModule⟩
    rw [operation?_instrument_name, found, Option.map_some, instrumentOperation, if_pos selected]
  | member methods listed group ofModule reached kept inClass ofClass unreserved plain qualified =>
    have selected := (OperationClass.selects_eq_true_iff _).mpr
      ⟨unreserved, plain, qualified, ofClass⟩
    have chosen := n.mem_placesToInstrument.mpr ⟨methods, _, reached, kept⟩
    rw [operation?_instrument_member, listed, Option.bind_some, Item.place?, Option.bind_some,
      group, Option.bind_some, if_pos chosen, instrumentClass, if_pos (beq_iff_eq.mpr ofModule),
      OperationClass.operation?_instrument, inClass, Option.map_some,
      OperationClass.instrumentOperation, if_pos selected]

/-- All other operations stay as they are. -/
lemma operation?_instrument_of_not {path : Path}
    (others : ∀ label op, ¬ n.Chooses selection path label op) :
    (n.instrument channel selection).operation? path = n.operation? path := by
  match path with
  | [] => rfl
  | [name] =>
    rw [operation?_instrument_name]
    refine (Option.map_congr fun op found => if_neg fun selected => ?_).trans Option.map_id'
    obtain ⟨item, listed, isOperation⟩ := Option.bind_eq_some_iff.mp found
    obtain rfl := Item.operation?_eq_some_iff.mp isOperation
    obtain ⟨kept, ofModule⟩ := n.selects_eq_true_iff.mp selected
    exact others _ _ (.function listed ofModule kept)
  | [name, member] =>
    rw [operation?_instrument_member, operation?_member]
    refine Option.bind_congr fun place isGroup => Option.bind_congr fun g group => ?_
    obtain ⟨item, listed, isPlace⟩ := Option.bind_eq_some_iff.mp isGroup
    obtain rfl := Item.place?_eq_some_iff.mp isPlace
    by_cases chosen : place ∈ n.placesToInstrument selection
    · rw [if_pos chosen, instrumentClass]
      by_cases own : (g.home == n.home) = true
      · obtain ⟨methods, other, reached, kept⟩ := n.mem_placesToInstrument.mp chosen
        rw [if_pos own, OperationClass.operation?_instrument]
        refine (Option.map_congr fun op found => if_neg fun selected => ?_).trans Option.map_id'
        obtain ⟨unreserved, plain, qualified, ofClass⟩ := g.selects_eq_true_iff.mp selected
        exact others _ _ (.member methods listed group (beq_iff_eq.mp own) reached kept found
          ofClass unreserved plain qualified)
      · rw [if_neg own]
    · rw [if_neg chosen]
  | _ :: _ :: _ :: _ => rfl

/-- A namespace that has the same operations as another, but for some that are traced on a
channel. -/
def IsTracedVersion (n traced : Namespace σ) (channel : Channel) : Prop :=
  ∀ path, traced.operation? path = n.operation? path ∨
    ∃ label op, n.operation? path = some op ∧
      traced.operation? path = some (op.trace channel label true)

lemma isTracedVersion_instrument (n : Namespace σ) (channel : Channel) (selection : Selection) :
    n.IsTracedVersion (n.instrument channel selection) channel := by
  intro path
  by_cases chosen : ∃ label op, n.Chooses selection path label op
  · obtain ⟨label, op, chosen⟩ := chosen
    exact .inr ⟨label, op, chosen.operation?, operation?_instrument_of_chooses chosen⟩
  · push Not at chosen
    exact .inl (operation?_instrument_of_not chosen)

end Namespace

end Drafting.Log
