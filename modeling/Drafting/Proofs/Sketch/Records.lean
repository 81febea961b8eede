import Drafting.Proofs.Entity
import Drafting.Sketch.Reading
import Drafting.Sketch.Writing

/-!
# Records that are written and read back

What is written of options, of an entity or of a constraint is read back as it was, if ids are
texts: the fields that are left out of a record are those that stand for nothing when they are
absent (`Entity.ofRecord_toRecord`, `Constraint.exists_ofRecord_toRecord`). Parameters may have
names of any sort. Only the sign of a priority that is zero is lost.
-/

namespace Drafting

variable {ν α : Type} [Scalar α] [Headroom]

/-! ### Texts -/

omit [Scalar α] [Headroom] in
/-- Names that are texts are made of texts. -/
lemma Name.exists_texts [Name ν] {names : List ν} (texts : ∀ name ∈ names, IsText name) :
    ∃ ss : List String, names = ss.map ofText := by
  induction names with
  | nil => exact ⟨[], rfl⟩
  | cons name rest ih =>
    obtain ⟨⟨s, rfl⟩, others⟩ := List.forall_mem_cons.mp texts
    obtain ⟨ss, rfl⟩ := ih others
    exact ⟨s :: ss, rfl⟩

namespace Value

omit [Headroom] in
lemma plain_text (s : String) : (Value.text s : Value α).plain = s := rfl

omit [Scalar α] [Headroom] in
lemma textFault?_text (room : ℕ) (s : String) : (Value.text s : Value α).textFault? room = none :=
  rfl

/-- A text is written as it is. -/
lemma spell_text (site : Site) (s : String) : (Value.text s : Value α).spell site = .ok s := by
  rw [spell, textFault?_text]
  rfl

lemma mapM_spell_texts (site : Site) (ss : List String) :
    (ss.map .text).mapM (fun v : Value α => v.spell site) = .ok ss := by
  induction ss with
  | nil => rfl
  | cons s rest ih =>
    rw [List.map_cons, List.mapM_cons, spell_text, ih]
    rfl

omit [Headroom]

omit [Scalar α] in
/-- Entries that are a record are those of the record. -/
lemma map_text_of_mapM {entries : List (Value α × Value α)} {fields : List (String × Value α)}
    (all : entries.mapM fieldOf? = some fields) :
    fields.map (fun field => (.text field.1, field.2)) = entries := by
  induction entries generalizing fields with
  | nil =>
    cases all
    rfl
  | cons entry rest ih =>
    simp only [List.mapM_cons, Option.bind_eq_bind, Option.bind_eq_some_iff] at all
    obtain ⟨field, first, fields', others, same⟩ := all
    cases same
    rw [List.map_cons, ih others]
    unfold fieldOf? at first
    split at first
    · cases first
      rfl
    · cases first

/-- Values by names can be taken from what holds them. -/
lemma namedValues_ofEntries (entries : List (Value α × Value α)) :
    Entity.namedValues (.ofEntries entries) = .ok entries := by
  rw [ofEntries]
  split
  · next fields all => exact congrArg Except.ok (map_text_of_mapM all)
  · rfl

/-- Values by names count as nothing if there are none. -/
lemma truth_ofEntries (entries : List (Value α × Value α)) :
    (ofEntries entries).truth = .ok !entries.isEmpty := by
  rw [ofEntries]
  split
  · next fields all =>
    rw [← map_text_of_mapM all, List.isEmpty_map]
    rfl
  · rfl

end Value

namespace LawfulNamed

variable [Name ν] [Named ν α] [LawfulNamed ν α]

omit [Scalar α] [Headroom] in
lemma map_toValue_texts (ss : List String) :
    (ss.map Name.ofText).map (Named.toValue : ν → Value α) = ss.map .text := by
  rw [List.map_map]
  exact List.map_congr_left fun s _ => toValue_ofText s

omit [Scalar α] [Headroom] in
lemma mapM_read_texts (ss : List String) :
    (ss.map .text).mapM (Named.read : Value α → Except (Fault α) ν) =
      .ok (ss.map Name.ofText) := by
  induction ss with
  | nil => rfl
  | cons s rest ih =>
    rw [List.map_cons, List.mapM_cons, read_text, ih]
    rfl

end LawfulNamed

/-! ### Options -/

omit [Headroom] in
/-- Options under names of their own, of which no two are the same, are named as they are. -/
lemma namedOptions_eq_ok {group : OptionGroup} (acc : List (String × Value α))
    {fields : List (String × Value α)}
    (proper : ∀ field ∈ fields, underscored field.1 = field.1 ∧ field.1 ∈ group.names)
    (distinct : (Assoc.keys (acc ++ fields)).Nodup) :
    namedOptions group acc (fields.map fun field => (.text field.1, field.2)) =
      .ok (acc ++ fields) := by
  induction fields generalizing acc with
  | nil => exact congrArg Except.ok (List.append_nil acc).symm
  | cons field rest ih =>
    obtain ⟨⟨same, known⟩, others⟩ := List.forall_mem_cons.mp proper
    have absent : field.1 ∉ Assoc.keys acc := by
      intro there
      rw [Assoc.keys, List.map_append, List.map_cons, List.nodup_append] at distinct
      exact distinct.2.2 _ there _ List.mem_cons_self rfl
    have grown : Assoc.set field.1 field.2 acc = acc ++ [field] := Assoc.set_eq_append absent
    have whole : acc ++ field :: rest = (acc ++ [field]) ++ rest := by
      rw [List.append_assoc, List.singleton_append]
    rw [List.map_cons, namedOptions, Value.plain_text, same,
      if_pos (List.contains_iff_mem.mpr known), grown, whole]
    exact ih (acc ++ [field]) others (whole ▸ distinct)

namespace DescentOptions

/-- Options are read as they have been written, whatever they are. -/
lemma ofValue_toFields (o : DescentOptions α) : ofValue (.record o.toFields) = .ok o := by
  have names : o.toFields.map Prod.fst = OptionGroup.descent.names := rfl
  have own : ∀ name ∈ OptionGroup.descent.names, underscored name = name := by decide
  have named : optionFields .descent (.record o.toFields) = .ok o.toFields := by
    refine namedOptions_eq_ok [] (fun field there => ?_) ?_
    · have known : field.1 ∈ OptionGroup.descent.names := names ▸ List.mem_map_of_mem there
      exact ⟨own _ known, known⟩
    · rw [List.nil_append, Assoc.keys, names]
      decide
  rw [ofValue, named]
  obtain ⟨maxIterations, tolerance, damping, method, verbose⟩ := o
  cases method <;> rfl

end DescentOptions

/-! ### Entities -/

namespace Entity

omit [Scalar α] [Headroom] in
/-- A field for a value that may be absent is found under its own name. -/
lemma lookup_optionalField {β : Type} (name other : String) (toValue : β → Value α) (x : Option β) :
    (optionalField name toValue x).lookup other =
      if other == name then x.map toValue else none := by
  cases x with
  | none => exact (ite_self none).symm
  | some x =>
    rw [optionalField, List.lookup_cons, List.lookup_nil]
    cases other == name <;> rfl

omit [Headroom] in
lemma ofValue?_toValue (v : Option (Vector3 α)) :
    Vector3.ofValue? ((v.map Vector3.toValue).getD (.null : Value α)) = .ok v := by
  cases v <;> rfl

/-- The named values that a value stands for, of which nothing and what is empty has none. -/
def givenValues (v : Value α) : Except (Fault α) (List (Value α × Value α)) := do
  if ← v.truth then namedValues v else .ok []

lemma ofRecordFields_eq [Name ν] [Named ν α] (fields : List (String × Value α)) :
    (ofRecordFields fields : Except (Fault α) (Entity ν α)) = (do
      let id ← (← needed fields "id").spell (.id .entity)
      let kind ← needed fields "kind"
      let parameters ← givenValues (fieldOrNull fields "parameters")
      build (.text id) kind (fieldOrNull fields "position") (fieldOrNull fields "direction")
        (fieldOrNull fields "radius") (fieldOrNull fields "normal") (.ok parameters)) := by
  rw [ofRecordFields]
  refine Except.bind_congr_of_ok fun id _ => Except.bind_congr_of_ok fun text _ => ?_
  refine Except.bind_congr_of_ok fun kind _ => ?_
  rw [givenValues, bind_assoc]
  refine Except.bind_congr_of_ok fun b _ => ?_
  cases b <;> rfl

variable [Name ν] [Named ν α]

/-- The parameters in the record of an entity, unless there are none. -/
def parameterRecord? (parameters : Table ν α) : Option (Value α) :=
  if parameters.size = 0 then none else some (parameterRecord parameters)

/-- The fields of the record of an entity. -/
def fieldsOf (e : Entity ν α) : List (String × Value α) :=
  [("id", Named.toValue e.id), ("kind", .text e.kind.name)] ++
    optionalField "position" Vector3.toValue e.position ++
    optionalField "direction" Vector3.toValue e.direction ++
    optionalField "normal" Vector3.toValue e.normal ++
    optionalField "radius" .real e.radius ++
    optionalField "parameters" (fun v => v) (parameterRecord? e.parameters)

omit [Headroom]

lemma toRecord_eq (e : Entity ν α) : (e.toRecord : Value α) = .record e.fieldsOf := by
  rw [toRecord, fieldsOf, parameterRecord?]
  split <;> rfl

lemma fieldOrNull_fieldsOf (e : Entity ν α) :
    fieldOrNull e.fieldsOf "position" = (e.position.map Vector3.toValue).getD .null ∧
      fieldOrNull e.fieldsOf "direction" = (e.direction.map Vector3.toValue).getD .null ∧
      fieldOrNull e.fieldsOf "radius" = (e.radius.map .real).getD .null ∧
      fieldOrNull e.fieldsOf "normal" = (e.normal.map Vector3.toValue).getD .null ∧
      fieldOrNull e.fieldsOf "parameters" = (parameterRecord? e.parameters).getD .null := by
  refine ⟨?_, ?_, ?_, ?_, ?_⟩
  all_goals
    simp [fieldsOf, fieldOrNull, List.lookup_append, lookup_optionalField, List.lookup_cons]

lemma givenValues_parameterRecord? (parameters : Table ν α) :
    givenValues ((parameterRecord? parameters).getD .null) =
      .ok (parameters.entries.map fun entry =>
        (Named.toValue entry.1, (.real entry.2 : Value α))) := by
  obtain ⟨entries, distinct⟩ := parameters
  cases entries with
  | nil => rfl
  | cons entry rest =>
    have some : parameterRecord? ⟨entry :: rest, distinct⟩ =
        some (parameterRecord ⟨entry :: rest, distinct⟩ : Value α) := rfl
    rw [some, Option.getD_some, givenValues, parameterRecord, Value.truth_ofEntries,
      Value.namedValues_ofEntries]
    rfl

variable [Headroom] [LawfulNamed ν α]

/-- An entity whose id is a text is read as it has been written. -/
theorem ofRecord_toRecord {e : Entity ν α} (named : Name.IsText e.id) :
    (ofRecord (e.toRecord : Value α) : Except (Fault α) (Entity ν α)) = .ok e := by
  obtain ⟨position, direction, radius, normal, parameters⟩ := fieldOrNull_fieldsOf e
  obtain ⟨s, own⟩ := named
  have id : needed e.fieldsOf "id" = .ok (.text s) := by
    show (.ok (Named.toValue e.id) : Except (Fault α) _) = _
    rw [own, LawfulNamed.toValue_ofText]
  have kind : needed e.fieldsOf "kind" = .ok (.text e.kind.name) := rfl
  have read : ofRecordFields e.fieldsOf = (.ok e : Except (Fault α) _) := by
    rw [ofRecordFields_eq, id, kind, position, direction, radius, normal, parameters,
      givenValues_parameterRecord?]
    simp only [bind, Except.bind, Value.spell_text]
    exact e.build_eq_ok (own ▸ LawfulNamed.read_text α s) (ofValue?_toValue _) (ofValue?_toValue _)
      (toReal?_real _) (ofValue?_toValue _)
  rw [toRecord_eq, ofRecord, recordFields]
  show Except.mapError _ (ofRecordFields e.fieldsOf) = _
  rw [read]
  rfl

/-- The id of an entity that has been read is a text. -/
lemma isText_of_ofRecord {v : Value α} {e : Entity ν α} (ok : ofRecord v = .ok e) :
    Name.IsText e.id := by
  obtain ⟨fields, -, read⟩ := Except.bind_eq_ok.mp ok
  replace read := Except.mapError_eq_ok.mp read
  rw [ofRecordFields_eq] at read
  obtain ⟨field, -, read⟩ := Except.bind_eq_ok.mp read
  obtain ⟨id, -, read⟩ := Except.bind_eq_ok.mp read
  obtain ⟨kind, -, read⟩ := Except.bind_eq_ok.mp read
  obtain ⟨parameters, -, read⟩ := Except.bind_eq_ok.mp read
  obtain ⟨kind, -, read⟩ := Except.bind_eq_ok.mp read
  obtain ⟨position, -, read⟩ := Except.bind_eq_ok.mp read
  obtain ⟨direction, -, read⟩ := Except.bind_eq_ok.mp read
  obtain ⟨normal, -, read⟩ := Except.bind_eq_ok.mp read
  obtain ⟨radius, -, read⟩ := Except.bind_eq_ok.mp read
  obtain ⟨parameters', -, read⟩ := Except.bind_eq_ok.mp read
  obtain ⟨checked, -, read⟩ := Except.bind_eq_ok.mp read
  rw [LawfulNamed.read_text] at read
  cases read
  exact ⟨id, rfl⟩

end Entity

/-! ### Constraints -/

namespace Constraint

omit [Headroom] in
lemma relation_ofValue_name (r : Relation) :
    (Relation.ofValue (.text r.name) : Except (Fault α) Relation) = .ok r := by
  cases r <;> rfl

/-- A constraint with a number as its priority that is active or not. -/
structure IsTyped (c : Constraint ν α) : Prop where
  priority : ∃ x, c.priority = .real x
  active : ∃ b, c.active = .flag b

/-- A constraint that is another but for the sign of a priority that is zero. -/
structure IsLike (c' c : Constraint ν α) : Prop where
  id : c'.id = c.id
  relation : c'.relation = c.relation
  entities : c'.entities = c.entities
  value : c'.value = c.value
  priority : ∃ x' x, c'.priority = .real x' ∧ c.priority = .real x ∧ Scalar.Same x' x
  active : c'.active = c.active

/-- A constraint with a text as its id that refers to texts. -/
structure IsNamed [Name ν] (c : Constraint ν α) : Prop where
  id : Name.IsText c.id
  entities : ∀ name ∈ c.entities, Name.IsText name

/-- The priority that the fields of a record give, or zero. -/
def givenPriority (fields : List (String × Value α)) : Except (Fault α) α :=
  ((field? fields "priority").map Value.toReal).getD (.ok 0)

/-- Whether the fields of a record make a constraint active, which it is by default. -/
def givenActivity (fields : List (String × Value α)) : Except (Fault α) Bool :=
  ((field? fields "active").map Value.truth).getD (.ok true)

variable [Named ν α]

lemma ofRecordFields_eq (fields : List (String × Value α)) :
    (ofRecordFields fields : Except (Fault α) (Constraint ν α)) = (do
      let references ← referenceList (← needed fields "entities")
      let id ← (← needed fields "id").spell (.id .constraint)
      let relation ← needed fields "type"
      let names ← references.mapM fun v => v.spell .reference
      let priority ← givenPriority fields
      let active ← givenActivity fields
      build (.text id) relation (.tuple (names.map .text)) (fieldOrNull fields "value")
        (.real priority) (.flag active)) := by
  rw [ofRecordFields]
  refine Except.bind_congr_of_ok fun entities _ => Except.bind_congr_of_ok fun references _ => ?_
  refine Except.bind_congr_of_ok fun id _ => Except.bind_congr_of_ok fun text _ => ?_
  refine Except.bind_congr_of_ok fun relation _ => Except.bind_congr_of_ok fun names _ => ?_
  rw [givenPriority, givenActivity]
  cases field? fields "priority" <;> cases field? fields "active" <;> rfl

/-- The fields of the record of a constraint, which is active or not. -/
def fieldsOf (c : Constraint ν α) (hasPriority : Bool) : List (String × Value α) :=
  [("id", Named.toValue c.id), ("type", .text c.relation.name),
      ("entities", .list (c.entities.map Named.toValue)), ("active", c.active)] ++
    Entity.optionalField "value" .real c.value ++
    Entity.optionalField "priority" (fun v => v) (if hasPriority then some c.priority else none)

omit [Headroom] in
lemma toRecord_eq (c : Constraint ν α) {b : Bool} (truth : c.priority.truth = .ok b) :
    c.toRecord = .ok (.record (c.fieldsOf b)) := by
  rw [toRecord, truth, fieldsOf]
  cases b <;> cases c.value <;> rfl

/-- The constraint that is read from the record of one that is active or not. -/
def reread (c : Constraint ν α) (priority : α) (active : Bool) : Constraint ν α :=
  { c with priority := .real priority, active := .flag active }

variable [Name ν] [LawfulNamed ν α]

/-- A constraint that has been read has a number as its priority and is active or not; its id and
its references are texts. -/
lemma isTyped_of_ofRecord {v : Value α} {c : Constraint ν α} (ok : ofRecord v = .ok c) :
    c.IsTyped ∧ c.IsNamed := by
  obtain ⟨fields, -, read⟩ := Except.bind_eq_ok.mp ok
  replace read := Except.mapError_eq_ok.mp read
  rw [ofRecordFields_eq] at read
  obtain ⟨entities, -, read⟩ := Except.bind_eq_ok.mp read
  obtain ⟨references, -, read⟩ := Except.bind_eq_ok.mp read
  obtain ⟨field, -, read⟩ := Except.bind_eq_ok.mp read
  obtain ⟨id, -, read⟩ := Except.bind_eq_ok.mp read
  obtain ⟨relation, -, read⟩ := Except.bind_eq_ok.mp read
  obtain ⟨names, -, read⟩ := Except.bind_eq_ok.mp read
  obtain ⟨priority, -, read⟩ := Except.bind_eq_ok.mp read
  obtain ⟨active, -, read⟩ := Except.bind_eq_ok.mp read
  obtain ⟨relation, -, read⟩ := Except.bind_eq_ok.mp read
  obtain ⟨ids, listed, read⟩ := Except.bind_eq_ok.mp read
  obtain ⟨value, -, read⟩ := Except.bind_eq_ok.mp read
  cases listed
  rw [LawfulNamed.read_text, LawfulNamed.mapM_read_texts] at read
  cases read
  refine ⟨⟨⟨priority, rfl⟩, ⟨active, rfl⟩⟩, ⟨id, rfl⟩, fun name there => ?_⟩
  obtain ⟨s, -, rfl⟩ := List.mem_map.mp there
  exact ⟨s, rfl⟩

lemma ofRecordFields_fieldsOf {c : Constraint ν α} (named : c.IsNamed) {hasPriority active : Bool}
    {x y : α} (priority : c.priority = .real x) (flag : c.active = .flag active)
    (known : y = if hasPriority then x else 0) :
    ofRecordFields (c.fieldsOf hasPriority) = (.ok (c.reread y active) : Except (Fault α) _) := by
  obtain ⟨s, own⟩ := named.id
  obtain ⟨ss, names⟩ := Name.exists_texts named.entities
  have entities : needed (c.fieldsOf hasPriority) "entities" = .ok (.list (ss.map .text)) := by
    show (.ok (Value.list (c.entities.map Named.toValue)) : Except (Fault α) _) = _
    rw [names, LawfulNamed.map_toValue_texts]
  have id : needed (c.fieldsOf hasPriority) "id" = .ok (.text s) := by
    show (.ok (Named.toValue c.id) : Except (Fault α) _) = _
    rw [own, LawfulNamed.toValue_ofText]
  have relation : needed (c.fieldsOf hasPriority) "type" = .ok (.text c.relation.name) := rfl
  have mark : field? (c.fieldsOf hasPriority) "active" = some (.flag active) := flag ▸ rfl
  have value : fieldOrNull (c.fieldsOf hasPriority) "value" = (c.value.map .real).getD .null := by
    simp [fieldsOf, fieldOrNull, List.lookup_append, Entity.lookup_optionalField, List.lookup_cons]
  have weight : field? (c.fieldsOf hasPriority) "priority" =
      if hasPriority then some (.real x) else none := by
    simp [fieldsOf, field?, List.lookup_append, Entity.lookup_optionalField, List.lookup_cons,
      priority]
  have activity : givenActivity (c.fieldsOf hasPriority) = .ok active := by
    rw [givenActivity, mark]
    rfl
  have given : givenPriority (c.fieldsOf hasPriority) = .ok y := by
    rw [givenPriority, weight, known]
    cases hasPriority <;> rfl
  rw [ofRecordFields_eq, entities, id, relation, activity, given, value]
  simp only [bind, Except.bind, referenceList, Value.spell_text, Value.mapM_spell_texts, build,
    relation_ofValue_name, Value.items, Entity.toReal?_real, LawfulNamed.read_text,
    LawfulNamed.mapM_read_texts, reread, own, names]
  rfl

/-- A constraint is read as it has been written, but for the sign of a priority that is zero. -/
theorem exists_ofRecord_toRecord (zero : Scalar.isZero (0 : α) = true) {c : Constraint ν α}
    (typed : c.IsTyped) (named : c.IsNamed) : ∃ record c', c.toRecord = .ok record ∧
      record.isRecord = true ∧ ofRecord record = .ok c' ∧ c'.IsLike c ∧
        c'.toRecord = .ok record := by
  obtain ⟨x, priority⟩ := typed.priority
  obtain ⟨b, active⟩ := typed.active
  have truth (y : α) : (Value.real y).truth = (.ok (!Scalar.isZero y) : Except (Fault α) Bool) :=
    rfl
  have written := c.toRecord_eq (priority ▸ truth x)
  have read {y : α} (known : y = if !Scalar.isZero x then x else 0) :
      ofRecord (.record (c.fieldsOf !Scalar.isZero x)) = .ok (c.reread y b) := by
    rw [ofRecord, recordFields]
    show Except.mapError _ (ofRecordFields (c.fieldsOf _)) = _
    rw [ofRecordFields_fieldsOf named priority active known]
    rfl
  cases omitted : Scalar.isZero x with
  | true =>
    rw [omitted] at written read
    have again : (c.reread 0 b).fieldsOf false = c.fieldsOf false := by
      rw [fieldsOf, fieldsOf, active]
      rfl
    refine ⟨_, c.reread 0 b, written, rfl, read rfl, ?_, ?_⟩
    · exact ⟨rfl, rfl, rfl, rfl, ⟨0, x, rfl, priority, .inr ⟨zero, omitted⟩⟩, active.symm⟩
    · rw [(c.reread 0 b).toRecord_eq (truth 0), zero, Bool.not_true, again]
  | false =>
    rw [omitted] at written read
    have again : c.reread x b = c := by
      rw [reread, ← priority, ← active]
    refine ⟨_, c.reread x b, written, rfl, read rfl, ?_, again ▸ written⟩
    exact ⟨rfl, rfl, rfl, rfl, ⟨x, x, rfl, priority, .refl x⟩, active.symm⟩

end Constraint

end Drafting
