import Drafting.Proofs.Excess
import Drafting.Proofs.Sketch.Reachable

/-!
# Reading whatever a file may hold

What a file can hold is read field by field. A fault is tame if it does not escape from the record
that it arises in, or if it comes from a part of the file that is too much: an integer that is too
large for a double, or has too many digits to be written, or values that are nested too deeply to be
written or copied. All faults that entities and constraints are read with are tame, so that a sketch
is read or found to be malformed, unless there is such a part, or the options are no record
(`Sketch.expected_ofRecord`).
-/

namespace Drafting

variable {P : Value Float → Prop} {β γ : Type}

/-! ### Endings -/

/-- A property that everything has. -/
abbrev Any : β → Prop := fun _ => True

/-- That a computation comes to something with a property, or to a fault of a sort. -/
def Ends (F : Fault Float → Prop) (Q : β → Prop) : Except (Fault Float) β → Prop
  | .ok x => Q x
  | .error fault => F fault

namespace Ends

variable {F F' : Fault Float → Prop} {Q : β → Prop} {R : γ → Prop}

lemma any (x : Except (Fault Float) β) : Ends Any Any x := by
  cases x <;> trivial

lemma of_ok {x : Except (Fault Float) β} {a : β} (ok : x = .ok a) : Ends F Any x :=
  ok ▸ trivial

lemma bind {x : Except (Fault Float) β} {f : β → Except (Fault Float) γ} (first : Ends F Q x)
    (rest : ∀ a, x = .ok a → Q a → Ends F R (f a)) : Ends F R (x >>= f) := by
  cases x with
  | error fault => exact first
  | ok a => exact rest a rfl first

lemma map {x : Except (Fault Float) β} {f : β → γ} (first : Ends F Q x)
    (rest : ∀ a, Q a → R (f a)) : Ends F R (x.map f) := by
  cases x with
  | error fault => exact first
  | ok a => exact rest a first

lemma mapError {x : Except (Fault Float) β} {f : Fault Float → Fault Float} (first : Ends F Q x)
    (rest : ∀ fault, F fault → F' (f fault)) : Ends F' Q (x.mapError f) := by
  cases x with
  | error fault => exact rest fault first
  | ok a => exact first

lemma mapM {f : γ → Except (Fault Float) β} {xs : List γ} (each : ∀ x ∈ xs, Ends F Q (f x)) :
    Ends F (fun ys => ∀ y ∈ ys, Q y) (xs.mapM f) := by
  induction xs with
  | nil => exact List.forall_mem_nil _
  | cons x rest ih =>
    obtain ⟨first, others⟩ := List.forall_mem_cons.mp each
    rw [List.mapM_cons]
    refine first.bind fun y _ kept => (ih others).bind fun ys _ kept' => ?_
    exact List.forall_mem_cons.mpr ⟨kept, kept'⟩

lemma weaken {x : Except (Fault Float) β} {Q' : β → Prop} (ends : Ends F Q x)
    (faults : ∀ fault, F fault → F' fault) (values : ∀ a, Q a → Q' a) : Ends F' Q' x := by
  cases x with
  | error fault => exact faults fault ends
  | ok a => exact values a ends

end Ends

variable [Headroom]

/-- That a computation has no faults but tame ones. -/
abbrev Tame (P : Value Float → Prop) (Q : β → Prop) : Except (Fault Float) β → Prop :=
  Ends (Fault.IsTame P) Q

/-- That a computation has no faults but those in the form of a sketch and those of parts that are
too much. -/
abbrev Due (P : Value Float → Prop) (Q : β → Prop) : Except (Fault Float) β → Prop :=
  Ends (Fault.IsDue P) Q

/-! ### Faults in records -/

/-- A tame fault stays tame where it is put into words. -/
lemma Fault.IsTame.stated {fault : Fault Float} (tame : fault.IsTame P) :
    fault.stated.IsTame P := by
  rw [Fault.stated]
  cases kept : fault.worded.findSome? fun (site, v) => v.textFault? (Headroom.room site) with
  | none => exact tame
  | some excess =>
    obtain ⟨⟨site, v⟩, shown, kept⟩ := List.exists_of_findSome?_eq_some kept
    exact ((tame.worded _ shown).isExcess_textFault? kept).isTame

/-- A record takes over every tame fault but those that escape, if its label can be written. -/
lemma Ends.inRecord {Q : β → Prop} {x : Except (Fault Float) β} (ends : Tame P Q x)
    (sort : RecordSort) {label : Value Float} (json : label.IsJson P) :
    Due P Q (x.mapError (.inRecord sort label)) := by
  refine ends.mapError fun fault tame => ?_
  rw [Fault.inRecord]
  split
  · next escapes => exact .inr (tame.stated.escaping escapes)
  · cases kept : label.textFault? (Headroom.room (.label sort)) with
    | none => exact .inl rfl
    | some excess => exact .inr (json.isExcess_textFault? kept)

lemma Ends.inOptions {Q : β → Prop} {x : Except (Fault Float) β} (ends : Tame P Q x)
    (group : OptionGroup) : Due P Q (x.mapError (.inOptions group)) := by
  refine ends.mapError fun fault tame => ?_
  rw [Fault.inOptions]
  split
  · next escapes => exact .inr (tame.stated.escaping escapes)
  · exact .inl rfl

/-! ### Values -/

/-- A list, a text or a record, which all have items. -/
inductive Value.HasItems : Value Float → Prop
  | list (items : List (Value Float)) : HasItems (.list items)
  | text (s : String) : HasItems (.text s)
  | record (fields : List (String × Value Float)) : HasItems (.record fields)

lemma Value.due_requireCopy_of_single {v : Value Float} (single : v.copyDepth = 0) :
    Due P Any v.requireCopy := by
  rw [requireCopy, single, if_neg (Nat.not_lt_zero _)]
  exact trivial

namespace Value.IsJson

variable {v : Value Float}

lemma tame_ofInt {n : ℤ} (known : (Scalar.ofInt? n : Option Float) = none → P (.int n)) :
    Tame P Any (ofIntOrFault n : Except (Fault Float) Float) := by
  rw [ofIntOrFault]
  cases large : (Scalar.ofInt? n : Option Float) with
  | some x => exact trivial
  | none => exact (Fault.IsExcess.tooLarge ⟨n, known large, large⟩).isTame

/-- Data is written at a place, or holds a part that is too much. -/
lemma tame_spell (json : v.IsJson P) (site : Site) : Tame P Any (v.spell site) := by
  rw [spell]
  cases kept : v.textFault? (Headroom.room site) with
  | none => exact trivial
  | some excess => exact (json.isExcess_textFault? kept).isTame

/-- Data is copied, or holds a part that is too much. -/
lemma due_requireCopy (json : v.IsJson P) : Due P Any v.requireCopy := by
  rw [requireCopy]
  split
  · next deep => exact .inr (.tooDeep (json.isDeepIn_of_copyDepth deep))
  · exact trivial

lemma tame_toReal (json : v.IsJson P) : Tame P Any v.toReal := by
  cases json with
  | flag b =>
    refine tame_ofInt fun large => absurd large ?_
    cases b <;> decide +kernel
  | int property => exact tame_ofInt fun _ => property
  | real x => exact trivial
  | text s =>
    show Tame P Any (numeralReal _ s)
    rw [numeralReal]
    split
    · exact trivial
    · exact Fault.isTame rfl rfl
  | _ => exact Fault.isTame rfl rfl

lemma tame_toReal? (json : v.IsJson P) : Tame P Any v.toReal? := by
  unfold toReal?
  split
  · exact trivial
  · exact json.tame_toReal.map fun _ _ => trivial

omit [Headroom] in
lemma truth_eq_ok (json : v.IsJson P) : v.truth = .ok v.isTruthy := by
  cases json <;> rfl

/-- The items of a value are data again. -/
lemma tame_items (json : v.IsJson P) :
    Tame P (fun items => v.HasItems ∧ ∀ item ∈ items, item.IsJson P) v.items := by
  cases json with
  | @list items _ json => exact ⟨.list items, json⟩
  | text s =>
    refine ⟨.text s, fun item there => ?_⟩
    obtain ⟨c, -, rfl⟩ := List.mem_map.mp there
    exact .text _
  | @record fields _ _ =>
    refine ⟨.record fields, fun item there => ?_⟩
    obtain ⟨field, -, rfl⟩ := List.mem_map.mp there
    exact .text _
  | _ => exact Fault.isTame rfl rfl

lemma tame_member (json : v.IsJson P) (set : NameSet) (all : List β) (name : β → String) :
    Tame P Any (v.member set all name) := by
  have looked : Tame P Any v.lookupText? := by cases json <;> exact trivial
  refine looked.bind fun s? _ _ => ?_
  split
  · exact trivial
  · exact Fault.isTame_notMember json set

end Value.IsJson

namespace AreJson

variable {fields : List (String × Value Float)} {v : Value Float} (json : AreJson P fields)

include json

omit [Headroom] in
lemma of_field? {name : String} (found : field? fields name = some v) : v.IsJson P := by
  induction fields with
  | nil => cases found
  | cons field rest ih =>
    obtain ⟨first, others⟩ := List.forall_mem_cons.mp json
    rw [field?, List.lookup_cons] at found
    split at found
    · cases found
      exact first
    · exact ih others found

omit [Headroom] in
lemma fieldOr (name : String) (otherwise : v.IsJson P) : (fieldOr fields name v).IsJson P := by
  rw [Drafting.fieldOr]
  cases found : field? fields name with
  | none => exact otherwise
  | some w => exact json.of_field? found

omit [Headroom] in
lemma fieldOrNull (name : String) : (fieldOrNull fields name).IsJson P := json.fieldOr name .null

omit [Headroom] json in
lemma eq_some_of_needed {name : String} (found : needed fields name = .ok v) :
    field? fields name = some v := by
  rw [needed] at found
  split at found
  · next there => exact there.trans (congrArg some (Except.ok.inj found))
  · cases found

lemma tame_needed (name : String) : Tame P (Value.IsJson P) (needed fields name) := by
  rw [needed]
  split
  · next found => exact json.of_field? found
  · exact Fault.isTame rfl rfl

end AreJson

/-! ### Entities -/

lemma tame_read {ν : Type} [Named ν Float] (v : Value Float) :
    Tame P Any (Named.read v : Except (Fault Float) ν) := by
  rw [Named.read]
  split
  · exact trivial
  · exact Fault.isTame rfl rfl

lemma Vector3.tame_ofComponents (xs : List Float) : Tame P Any (Vector3.ofComponents xs) := by
  unfold Vector3.ofComponents
  split
  · exact trivial
  · exact trivial
  · exact Fault.isTame rfl rfl

lemma Vector3.tame_ofFields {fields : List (String × Value Float)} (json : AreJson P fields) :
    Tame P Any (Vector3.ofFields fields) := by
  refine (json.tame_needed "x").bind fun _ _ x => x.tame_toReal.bind fun _ _ _ => ?_
  refine (json.tame_needed "y").bind fun _ _ y => y.tame_toReal.bind fun _ _ _ => ?_
  split
  · next z found => exact (json.of_field? found).tame_toReal.bind fun _ _ _ => trivial
  · exact trivial

lemma Vector3.tame_ofValue? {v : Value Float} (json : v.IsJson P) :
    Tame P Any (Vector3.ofValue? v : Except (Fault Float) (Option (Vector3 Float))) := by
  cases json with
  | null => exact trivial
  | record _ fields =>
    refine Ends.map (Q := Any) ?_ fun _ _ => trivial
    exact (tame_ofFields fields).map fun _ _ => trivial
  | list property items =>
    refine Ends.map (Q := Any) (Ends.map (Q := Any) ?_ fun _ _ => trivial) fun _ _ => trivial
    refine (Value.IsJson.list property items).tame_items.bind fun items _ ⟨_, json⟩ => ?_
    refine (Ends.mapM fun item there => (json item there).tame_toReal).bind fun xs _ _ => ?_
    exact tame_ofComponents xs
  | flag b => exact Fault.isTame_notVector (.flag b)
  | int property => exact Fault.isTame_notVector (.int property)
  | real x => exact Fault.isTame_notVector (.real x)
  | text s => exact Fault.isTame_notVector (.text s)

namespace Entity

/-- That a name and a value are data. -/
def IsNamedJson (P : Value Float → Prop) (entry : Value Float × Value Float) : Prop :=
  entry.1.IsJson P ∧ entry.2.IsJson P

lemma tame_require (key : Value Float) :
    Tame P Any (Name.require key : Except (Fault Float) Unit) := by
  rw [Name.require]
  split
  · exact Fault.isTame rfl rfl
  · exact trivial

lemma tame_pair (index : ℕ) {item : Value Float} (json : item.IsJson P) :
    Tame P (IsNamedJson P) (pair index item) := by
  have items := json.tame_items
  rw [pair]
  split
  · exact Fault.isTame rfl rfl
  · next key value found =>
    rw [found] at items
    refine (tame_require key).bind fun _ _ _ => ⟨?_, ?_⟩
    · exact items.2 key List.mem_cons_self
    · exact items.2 value (List.mem_cons_of_mem _ List.mem_cons_self)
  · exact Fault.isTame rfl rfl

lemma tame_pairs (index : ℕ) {items : List (Value Float)} (json : ∀ item ∈ items, item.IsJson P) :
    Tame P (fun entries => ∀ entry ∈ entries, IsNamedJson P entry) (pairs index items) := by
  induction items generalizing index with
  | nil => exact List.forall_mem_nil _
  | cons item rest ih =>
    obtain ⟨first, others⟩ := List.forall_mem_cons.mp json
    refine (tame_pair index first).bind fun entry _ value => ?_
    refine (ih (index + 1) others).bind fun entries _ values => ?_
    exact List.forall_mem_cons.mpr ⟨value, values⟩

omit [Headroom] in
lemma isNamedJson_foldl {found entries : List (Value Float × Value Float)}
    (all : ∀ entry ∈ entries, IsNamedJson P entry) (more : ∀ entry ∈ found, IsNamedJson P entry) :
    ∀ entry ∈ found.foldl (fun acc (key, value) => Assoc.set key value acc) entries,
      IsNamedJson P entry := by
  induction found generalizing entries with
  | nil => exact all
  | cons entry rest ih =>
    obtain ⟨first, others⟩ := List.forall_mem_cons.mp more
    exact ih (Assoc.forall_mem_set all first fun _ old => ⟨old.1, first.2⟩) others

lemma tame_namedValues {v : Value Float} (json : v.IsJson P) :
    Tame P (fun entries => ∀ entry ∈ entries, IsNamedJson P entry) (namedValues v) := by
  have listed : Tame P (fun entries => ∀ entry ∈ entries, IsNamedJson P entry) (do
      let found ← pairs 0 (← v.items)
      return found.foldl (fun acc (key, value) => Assoc.set key value acc) []) := by
    refine json.tame_items.bind fun items _ ⟨_, json⟩ => ?_
    refine (tame_pairs 0 json).bind fun found _ values => ?_
    exact isNamedJson_foldl (List.forall_mem_nil _) values
  cases json with
  | record _ fields =>
    intro entry there
    obtain ⟨field, among, rfl⟩ := List.mem_map.mp there
    exact ⟨.text field.1, fields field among⟩
  | _ => exact listed

variable {ν : Type} [Name ν] [Named ν Float]

lemma tame_checkParameters {id : Value Float} (label : id.IsJson P) {kind : Kind}
    (c : Checked ν Float kind) {parameters : List (Value Float × Value Float)}
    (json : ∀ entry ∈ parameters, IsNamedJson P entry) :
    Tame P Any (checkParameters id kind c parameters) := by
  induction parameters generalizing c with
  | nil => exact trivial
  | cons entry rest ih =>
    obtain ⟨⟨key, first⟩, others⟩ := List.forall_mem_cons.mp json
    have number := first.tame_toReal
    have shown : ∀ shown ∈ [(Site.parameter, id), (.parameter, entry.1)], shown.2.IsJson P :=
      List.forall_mem_cons.mpr ⟨label, List.forall_mem_singleton.mpr key⟩
    rw [checkParameters]
    refine (tame_read entry.1).bind fun name _ _ => ?_
    split
    · split
      · exact ih _ others
      · next large =>
        rw [large] at number
        exact number
      · exact Fault.isTame_of_worded rfl shown
    · exact Fault.isTame_of_worded rfl shown

lemma tame_ofRecordFields {fields : List (String × Value Float)} (json : AreJson P fields) :
    Tame P Any (ofRecordFields fields : Except (Fault Float) (Entity ν Float)) := by
  rw [ofRecordFields_eq]
  refine (json.tame_needed "id").bind fun _ _ id => (id.tame_spell _).bind fun id _ _ => ?_
  refine (json.tame_needed "kind").bind fun _ _ kind => ?_
  have given : Tame P (fun entries => ∀ entry ∈ entries, IsNamedJson P entry)
      (givenValues (Drafting.fieldOrNull fields "parameters")) := by
    have value := json.fieldOrNull "parameters"
    rw [givenValues, value.truth_eq_ok]
    show Ends _ _ (if _ then _ else _)
    split
    · exact tame_namedValues value
    · exact List.forall_mem_nil _
  refine given.bind fun parameters _ values => ?_
  rw [build]
  refine (kind.tame_member _ _ _).bind fun kind _ _ => ?_
  refine (Vector3.tame_ofValue? (json.fieldOrNull "position")).bind fun _ _ _ => ?_
  refine (Vector3.tame_ofValue? (json.fieldOrNull "direction")).bind fun _ _ _ => ?_
  refine (Vector3.tame_ofValue? (json.fieldOrNull "normal")).bind fun _ _ _ => ?_
  refine (json.fieldOrNull "radius").tame_toReal?.bind fun _ _ _ => ?_
  refine (tame_checkParameters (.text id) _ values).bind fun _ _ _ => ?_
  exact (tame_read (.text id)).bind fun _ _ _ => trivial

end Entity

/-! ### Constraints -/

namespace Constraint

lemma tame_referenceList {v : Value Float} (json : v.IsJson P) :
    Tame P (fun items => v = .list items ∧ ∀ item ∈ items, item.IsJson P) (referenceList v) := by
  cases json with
  | list _ json => exact ⟨rfl, json⟩
  | _ => exact Fault.isTame rfl rfl

lemma tame_relation {v : Value Float} (json : v.IsJson P) : Tame P Any (Relation.ofValue v) := by
  cases json <;> exact trivial

lemma tame_spells {references : List (Value Float)}
    (json : ∀ item ∈ references, item.IsJson P) :
    Tame P Any (references.mapM fun v => v.spell .reference) :=
  (Ends.mapM fun item there => (json item there).tame_spell _).weaken (fun _ tame => tame)
    fun _ _ => trivial

/-- Whether the references of the constraint of a record are a list. -/
def HasList (fields : List (String × Value Float)) : Prop :=
  ∃ items, field? fields "entities" = some (.list items)

/-- The constraint of a record is read only if its references are a list. -/
lemma tame_ofRecordFields {ν : Type} [Named ν Float] {fields : List (String × Value Float)}
    (json : AreJson P fields) : Tame P (fun _ => HasList fields)
      (ofRecordFields fields : Except (Fault Float) (Constraint ν Float)) := by
  rw [ofRecordFields_eq]
  refine (json.tame_needed "entities").bind fun entities found value => ?_
  refine (tame_referenceList value).bind fun references _ ⟨listed, references'⟩ => ?_
  obtain rfl := listed
  refine (json.tame_needed "id").bind fun _ _ id => (id.tame_spell _).bind fun id _ _ => ?_
  refine (json.tame_needed "type").bind fun _ _ relation => ?_
  refine (tame_spells references').bind fun names _ _ => ?_
  have priority : Tame P Any (givenPriority fields) := by
    rw [givenPriority]
    cases weight : field? fields "priority" with
    | none => exact trivial
    | some v => exact (json.of_field? weight).tame_toReal
  have activity : Tame P Any (givenActivity fields) := by
    rw [givenActivity]
    cases mark : field? fields "active" with
    | none => exact trivial
    | some v =>
      rw [Option.map_some, (json.of_field? mark).truth_eq_ok]
      exact trivial
  refine priority.bind fun _ _ _ => activity.bind fun _ _ _ => ?_
  refine (tame_relation relation).bind fun _ _ _ => ?_
  refine (json.fieldOrNull "value").tame_toReal?.bind fun _ _ _ => ?_
  refine (tame_read (.text id)).bind fun _ _ _ => ?_
  have read : Tame P Any ((names.map .text).mapM
      (Named.read : Value Float → Except (Fault Float) ν)) :=
    (Ends.mapM fun name _ => tame_read name).weaken (fun _ tame => tame) fun _ _ => trivial
  exact read.bind fun _ _ _ => ⟨references, AreJson.eq_some_of_needed found⟩

end Constraint

/-! ### Sections -/

/-- That a value is a record with a property, whose fields are data. -/
def IsRecordOf (P : Value Float → Prop) (R : List (String × Value Float) → Prop)
    (v : Value Float) : Prop :=
  ∃ fields, v = .record fields ∧ AreJson P fields ∧ R fields

lemma due_requireRecords (name : String) (index : ℕ) {items : List (Value Float)}
    (json : ∀ item ∈ items, item.IsJson P) :
    Due P (fun _ => ∀ item ∈ items, IsRecordOf P Any item) (requireRecords name index items) := by
  induction items generalizing index with
  | nil => exact List.forall_mem_nil _
  | cons item rest ih =>
    obtain ⟨first, others⟩ := List.forall_mem_cons.mp json
    rw [requireRecords]
    split
    · next there =>
      refine (ih (index + 1) others).weaken (fun _ due => due) fun _ records => ?_
      refine List.forall_mem_cons.mpr ⟨?_, records⟩
      cases first with
      | @record fields _ among => exact ⟨fields, rfl, among, trivial⟩
      | _ => cases there
    · exact .inl rfl

lemma due_sectionRecords {fields : List (String × Value Float)} (json : AreJson P fields)
    (name : String) : Due P (fun items => fieldOr fields name (.list []) = .list items ∧
      ∀ item ∈ items, IsRecordOf P Any item) (sectionRecords fields name) := by
  have found : (fieldOr fields name (.list [])).IsJson P :=
    json.fieldOr name (.list (absurd rfl) (List.forall_mem_nil _))
  rw [sectionRecords]
  rw [fieldOr] at found ⊢
  generalize (field? fields name).getD (.list []) = v at found ⊢
  cases found with
  | @list items _ each =>
    refine (due_requireRecords name 0 each).bind fun _ _ records => ?_
    exact ⟨rfl, records⟩
  | _ => exact .inl rfl

/-! ### Options -/

section

variable {group : OptionGroup} {acc fields : List (String × Value Float)}

/-- Whether all names are those of options. -/
abbrev AreOptions (group : OptionGroup) (fields : List (String × Value Float)) : Prop :=
  ∀ field ∈ fields, group.names.contains field.1 = true

lemma due_namedOptions (options : AreOptions group acc) (known : AreJson P acc)
    (json : AreJson P fields) :
    Due P (fun named => AreOptions group named ∧ AreJson P named)
      (namedOptions group acc (fields.map fun field => (.text field.1, field.2))) := by
  induction fields generalizing acc with
  | nil => exact ⟨options, known⟩
  | cons field rest ih =>
    obtain ⟨first, others⟩ := List.forall_mem_cons.mp json
    rw [List.map_cons, namedOptions]
    split
    · next among =>
      exact ih (Assoc.forall_mem_set options among fun _ known => known)
        (Assoc.forall_mem_set known first fun _ _ => first) others
    · exact .inl rfl

/-- What is wrong with options that are something, but no record. -/
def Fault.IsStray (options : Value Float) (fault : Fault Float) : Prop :=
  fault = .missingOperation options.kindName "items" ∧ options.isTruthy = true ∧
    options.fields? = none

/-- Faults of reading a sketch with options. -/
def Fault.IsExpected (P : Value Float → Prop) (options : Value Float) (fault : Fault Float) :
    Prop :=
  fault.IsDue P ∨ fault.IsStray options

lemma expected_optionFields {v : Value Float} (json : v.IsJson P) :
    Ends (Fault.IsExpected P v) (fun named => AreOptions group named ∧ AreJson P named)
      (optionFields group v) := by
  rw [optionFields, json.truth_eq_ok]
  show Ends _ _ (if _ then _ else _)
  split
  · next truthy =>
    cases json with
    | record _ json =>
      exact (due_namedOptions (List.forall_mem_nil _) (List.forall_mem_nil _) json).weaken
        (fun _ => .inl) fun _ named => named
    | _ => exact .inr ⟨rfl, truthy, rfl⟩
  · exact ⟨List.forall_mem_nil _, List.forall_mem_nil _⟩

/-- A value can be copied if it is data, or if there are no others in it. -/
lemma due_requireCopy_fieldOr (json : AreJson P fields) (name : String) {otherwise : Value Float}
    (single : otherwise.copyDepth = 0) : Due P Any (fieldOr fields name otherwise).requireCopy := by
  rw [fieldOr]
  cases found : field? fields name with
  | some v => exact (json.of_field? found).due_requireCopy
  | none => exact Value.due_requireCopy_of_single single

/-- Options of a gradient descent that can be copied unless they are too much. -/
structure DescentOptions.AreCopied (P : Value Float → Prop) (o : DescentOptions Float) : Prop where
  maxIterations : Due P Any o.maxIterations.requireCopy
  tolerance : Due P Any o.tolerance.requireCopy
  damping : Due P Any o.damping.requireCopy
  verbose : Due P Any o.verbose.requireCopy

lemma DescentOptions.AreCopied.due_requireCopy {o : DescentOptions Float} (copied : o.AreCopied P) :
    Due P Any o.requireCopy := by
  refine copied.maxIterations.bind fun _ _ _ => copied.tolerance.bind fun _ _ _ => ?_
  exact copied.damping.bind fun _ _ _ => copied.verbose.bind fun _ _ _ => trivial

/-- Options of a planar solver that can be copied unless they are too much. -/
structure NewtonOptions.AreCopied (P : Value Float → Prop) (o : NewtonOptions Float) : Prop where
  maxIterations : Due P Any o.maxIterations.requireCopy
  tolerance : Due P Any o.tolerance.requireCopy
  damping : Due P Any o.damping.requireCopy
  epsilon : Due P Any o.epsilon.requireCopy
  pivotTolerance : Due P Any o.pivotTolerance.requireCopy

lemma NewtonOptions.AreCopied.due_requireCopy {o : NewtonOptions Float} (copied : o.AreCopied P) :
    Due P Any o.requireCopy := by
  refine copied.maxIterations.bind fun _ _ _ => copied.tolerance.bind fun _ _ _ => ?_
  refine copied.damping.bind fun _ _ _ => copied.epsilon.bind fun _ _ _ => ?_
  exact copied.pivotTolerance.bind fun _ _ _ => trivial

/-- Options of a planar solver that are data where a solve shows them. -/
structure NewtonOptions.AreShown (P : Value Float → Prop) (o : NewtonOptions Float) : Prop where
  tolerance : o.tolerance.IsJson P
  pivotTolerance : o.pivotTolerance.IsJson P

/-- Options that have been copied can be copied. -/
lemma NewtonOptions.areCopied_of_requireCopy {o : NewtonOptions Float}
    (copied : o.requireCopy = .ok ()) : o.AreCopied P := by
  obtain ⟨maxIterations, copied⟩ := Except.bind_unit_eq_ok.mp copied
  obtain ⟨tolerance, copied⟩ := Except.bind_unit_eq_ok.mp copied
  obtain ⟨damping, copied⟩ := Except.bind_unit_eq_ok.mp copied
  obtain ⟨epsilon, copied⟩ := Except.bind_unit_eq_ok.mp copied
  obtain ⟨pivotTolerance, -⟩ := Except.bind_unit_eq_ok.mp copied
  exact ⟨.of_ok maxIterations, .of_ok tolerance, .of_ok damping, .of_ok epsilon,
    .of_ok pivotTolerance⟩

omit [Headroom] in
lemma requireArguments_eq_ok {function : String} {names : List String}
    (known : ∀ field ∈ fields, names.contains field.1 = true) :
    requireArguments function [] names fields = (.ok () : Except (Fault Float) Unit) := by
  have none : fields.find? (fun field => !([] ++ names).contains field.1) = none := by
    refine List.find?_eq_none.mpr fun field there unknown => ?_
    rw [List.nil_append, known field there] at unknown
    cases unknown
  rw [requireArguments, none]
  rfl

/-- Where options are read from data, it is data that tells whether a descent is verbose. -/
lemma expected_descentOptions {v : Value Float} (json : v.IsJson P) :
    Ends (Fault.IsExpected P v) (fun o => o.verbose.IsJson P ∧ o.AreCopied P)
      (DescentOptions.ofValue v) := by
  refine (expected_optionFields json).bind fun fields _ ⟨options, json⟩ => ?_
  have method := json.fieldOr "method" (.text Method.gradientDescent.name)
  refine Ends.weaken (Ends.inOptions ?_ .descent) (fun _ => .inl) fun _ copied => copied
  rw [DescentOptions.ofFields, OptionGroup.require, requireArguments_eq_ok options]
  refine (method.tame_member _ _ _).bind fun method _ _ => ?_
  refine ⟨json.fieldOr "verbose" (.flag false), ?_⟩
  constructor <;> exact due_requireCopy_fieldOr json _ rfl

lemma expected_newtonOptions {v : Value Float} (json : v.IsJson P) :
    Ends (Fault.IsExpected P v) (fun o => o.AreShown P ∧ o.AreCopied P)
      (NewtonOptions.ofValue v) := by
  refine (expected_optionFields json).bind fun fields _ ⟨options, json⟩ => ?_
  rw [NewtonOptions.ofFields, OptionGroup.require, requireArguments_eq_ok options]
  refine ⟨⟨json.fieldOr _ (.real _), json.fieldOr _ (.real _)⟩, ?_⟩
  constructor <;> exact due_requireCopy_fieldOr json _ rfl

end

/-! ### Sketches -/

/-- The options in a record. -/
def optionsOf (v : Value Float) : Value Float := fieldOrNull (v.fields?.getD []) "options"

/-- That the constraints in a record are a list, or absent, and each is a record with a property. -/
def HasRecords (P : Value Float → Prop) (R : List (String × Value Float) → Prop) (v : Value Float) :
    Prop :=
  ∃ items, fieldOr (v.fields?.getD []) "constraints" (.list []) = .list items ∧
    ∀ item ∈ items, IsRecordOf P R item

omit [Headroom] in
/-- What a record is called by is data. -/
lemma AreJson.recordLabel {fields : List (String × Value Float)} (json : AreJson P fields) :
    (recordLabel fields).IsJson P :=
  json.fieldOr "id" (.text "?")

namespace Sketch

variable {ν : Type} [Name ν] [Named ν Float] [LawfulNamed ν Float]

lemma due_addEntityRecords (s : Sketch ν Float Float) {items : List (Value Float)}
    (records : ∀ item ∈ items, IsRecordOf P Any item) : Due P Any (addEntityRecords s items) := by
  induction items generalizing s with
  | nil => exact trivial
  | cons item rest ih =>
    obtain ⟨⟨fields, rfl, json, -⟩, others⟩ := List.forall_mem_cons.mp records
    rw [addEntityRecords]
    refine ((Entity.tame_ofRecordFields json).inRecord .entity json.recordLabel).bind ?_
    intro e read _
    have text := Entity.isText_of_ofRecord (v := .record fields) read
    rw [addEntity, LawfulNamed.require_of_isText Float text]
    exact ih _ others

lemma due_addConstraintRecords (s : Sketch ν Float Float) {items : List (Value Float)}
    (records : ∀ item ∈ items, IsRecordOf P Any item) :
    Due P (fun _ => ∀ item ∈ items, IsRecordOf P Constraint.HasList item)
      (addConstraintRecords s items) := by
  induction items generalizing s with
  | nil => exact List.forall_mem_nil _
  | cons item rest ih =>
    obtain ⟨⟨fields, rfl, json, -⟩, others⟩ := List.forall_mem_cons.mp records
    rw [addConstraintRecords]
    refine ((Constraint.tame_ofRecordFields json).inRecord .constraint json.recordLabel).bind ?_
    intro c read listed
    have named := (Constraint.isTyped_of_ofRecord (v := .record fields) read).2
    rw [addConstraint, LawfulNamed.require_of_isText Float named.id]
    refine (ih _ others).weaken (fun _ due => due) fun _ later => ?_
    exact List.forall_mem_cons.mpr ⟨⟨fields, rfl, json, listed⟩, later⟩

/-- A sketch is read or found to be malformed, unless a part of it is too much or the options are no
record. -/
theorem expected_ofRecord {v : Value Float} (json : v.IsJson P)
    {given? : Option (DescentOptions Float)} (copied : ∀ o ∈ given?, o.AreCopied P) :
    Ends (Fault.IsExpected P (optionsOf v)) (fun _ => HasRecords P Constraint.HasList v)
      (ofRecord v given? : Except (Fault Float) (Sketch ν Float Float)) := by
  cases json with
  | @record fields _ json =>
    have options : Ends (Fault.IsExpected P (optionsOf (.record fields)))
        (DescentOptions.AreCopied P) (optionsFor fields given?) := by
      cases given? with
      | some options => exact copied options rfl
      | none =>
        exact (expected_descentOptions (AreJson.fieldOrNull json "options")).weaken
          (fun _ expected => expected) fun _ read => read.2
    refine options.bind fun options _ copied => Ends.weaken ?_ (fun _ => .inl) fun _ has => has
    refine copied.due_requireCopy.bind fun _ _ _ => ?_
    refine (due_sectionRecords json "entities").bind fun entities _ records => ?_
    refine (due_addEntityRecords _ records.2).bind fun s _ _ => ?_
    refine (due_sectionRecords json "constraints").bind fun constraints _ records => ?_
    refine (due_addConstraintRecords s records.2).weaken (fun _ due => due) fun _ listed => ?_
    exact ⟨constraints, records.1, listed⟩
  | _ => exact .inl (.inl rfl)

end Sketch

end Drafting
