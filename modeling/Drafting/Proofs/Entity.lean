import Drafting.Entity.Reading
import Drafting.Gradient.Descent
import Drafting.Proofs.Exact
import Drafting.Proofs.Table

/-!
# Entities and their freedoms

What of an entity a solve may change, and what it may not: the frame is all but the position and the
values of the parameters. An entity whose frame is kept passes the checks that entities are built
with (`IsFramedBy.rebuilt_eq_ok`).
-/

namespace Drafting

/-- Whether two numbers are the same but for the sign of a zero. -/
def Scalar.Same {α : Type} [Scalar α] (a b : α) : Prop :=
  a = b ∨ isZero a = true ∧ isZero b = true

lemma Scalar.Same.refl {α : Type} [Scalar α] (a : α) : Same a a := .inl rfl

lemma Scalar.Same.trans {α : Type} [Scalar α] {a b c : α} (h : Same a b) (h' : Same b c) :
    Same a c := by
  obtain rfl | ⟨zero, same⟩ := h
  · exact h'
  · obtain rfl | ⟨-, zero'⟩ := h'
    · exact .inr ⟨zero, same⟩
    · exact .inr ⟨zero, zero'⟩

variable {ν τ : Type} [Name ν]

/-- Freedoms compare as what they are. -/
instance [LawfulName ν] : LawfulBEq (Freedom ν) where
  eq_of_beq {a b} same := by
    cases a with
    | position axis =>
      cases b with
      | position axis' => exact congrArg Freedom.position (of_decide_eq_true same)
      | parameter name => cases same
    | parameter name =>
      cases b with
      | position axis => cases same
      | parameter name' => exact congrArg Freedom.parameter (eq_of_beq (α := ν) same)
  rfl {a} := by
    cases a with
    | position axis => exact decide_eq_true rfl
    | parameter name => exact beq_self_eq_true name

namespace Entity

/-- An entity that differs from another in the values of its freedoms only. -/
structure IsFramedBy (e' e : Entity ν τ) : Prop where
  id : e'.id = e.id
  kind : e'.kind = e.kind
  position : e'.position.isSome = e.position.isSome
  direction : e'.direction = e.direction
  radius : e'.radius = e.radius
  normal : e'.normal = e.normal
  names : e'.parameters.keys = e.parameters.keys

lemma IsFramedBy.refl (e : Entity ν τ) : e.IsFramedBy e := ⟨rfl, rfl, rfl, rfl, rfl, rfl, rfl⟩

lemma IsFramedBy.trans {e₁ e₂ e₃ : Entity ν τ} (h : e₁.IsFramedBy e₂) (h' : e₂.IsFramedBy e₃) :
    e₁.IsFramedBy e₃ where
  id := h.id.trans h'.id
  kind := h.kind.trans h'.kind
  position := h.position.trans h'.position
  direction := h.direction.trans h'.direction
  radius := h.radius.trans h'.radius
  normal := h.normal.trans h'.normal
  names := h.names.trans h'.names

lemma IsFramedBy.isSome_get? [LawfulName ν] {e' e : Entity ν τ} (framed : e'.IsFramedBy e)
    (name : ν) : (e'.parameters.get? name).isSome = (e.parameters.get? name).isSome := by
  rw [Bool.eq_iff_iff, Table.isSome_get?_iff, Table.isSome_get?_iff, framed.names]

lemma IsFramedBy.properRadius?_eq [Scalar τ] {e' e : Entity ν τ} (framed : e'.IsFramedBy e) :
    e'.properRadius? = e.properRadius? := by
  rw [properRadius?, properRadius?, framed.radius]

lemma isFramedBy_moveTo (e : Entity ν τ) (f : Vector3 τ → Vector3 τ) :
    (e.moveTo (e.position.map f)).IsFramedBy e :=
  { IsFramedBy.refl e with position := Option.isSome_map }

lemma isFramedBy_mapParameters (e : Entity ν τ) (f : ν → τ → τ) :
    (e.mapParameters f).IsFramedBy e :=
  { IsFramedBy.refl e with names := Table.keys_mapValues e.parameters f }

lemma mapParameters_eq_self (e : Entity ν τ) {f : ν → τ → τ}
    (still : ∀ name ∈ e.parameters.keys, ∀ v, f name v = v) : e.mapParameters f = e := by
  have same := Table.mapValues_eq_self still
  cases e
  simp only [mapParameters, same]

/-- The number of an entity along a freedom, if it has any. -/
def value? (e : Entity ν τ) : Freedom ν → Option τ
  | .position axis => e.position.map fun p => p.get axis
  | .parameter name => e.parameters.get? name

section

variable [LawfulName ν]

/-- The freedoms of an entity are those along which it has a number. -/
lemma mem_freedoms_iff {e : Entity ν τ} {freedom : Freedom ν} :
    freedom ∈ e.freedoms ↔ (e.value? freedom).isSome := by
  cases freedom with
  | position axis =>
    cases position : e.position <;> cases axis <;> simp [freedoms, value?, position, Axis.all]
  | parameter name =>
    rw [value?, Table.isSome_get?_iff]
    cases position : e.position <;> simp [freedoms, position]

lemma nodup_freedoms (e : Entity ν τ) : e.freedoms.Nodup := by
  have names : (e.parameters.keys.map Freedom.parameter).Nodup :=
    e.parameters.nodup_keys.map fun _ _ => Freedom.parameter.inj
  have axes : (Axis.all.map (Freedom.position : Axis → Freedom ν)).Nodup := by
    simp [Axis.all]
  rw [freedoms]
  split
  · refine List.nodup_append.mpr ⟨axes, names, ?_⟩
    simp
  · exact names

/-- A nudge changes the number along its freedom and no other. -/
lemma value?_nudge [Scalar τ] [Scalar.IsPlain τ] (e : Entity ν τ) (freedom other : Freedom ν)
    (delta : τ) : (e.nudge freedom delta).value? other =
      if other == freedom then (e.value? other).map (· + delta) else e.value? other := by
  cases freedom with
  | position axis =>
    cases other with
    | position axis' =>
      rw [value?, nudge, moveTo, value?]
      cases e.position with
      | none => simp
      | some p =>
        cases axis <;> cases axis' <;> simp [Vector3.shift, Vector3.get, Scalar.IsPlain.increase_eq]
    | parameter name => rfl
  | parameter name =>
    cases other with
    | position axis => rfl
    | parameter name' =>
      have names : (Freedom.parameter name' == .parameter name) = (name' == name) := rfl
      rw [value?, nudge, modifyParameter, mapParameters, Table.get?_mapValues, value?, names]
      cases e.parameters.get? name' <;> cases name' == name <;> rfl

end

variable [Scalar τ]

/-- A nudge keeps the frame. -/
lemma isFramedBy_nudge (e : Entity ν τ) (freedom : Freedom ν) (delta : τ) :
    (e.nudge freedom delta).IsFramedBy e := by
  cases freedom with
  | position axis => exact isFramedBy_moveTo e _
  | parameter name => exact isFramedBy_mapParameters e _

/-- An entity that differs from another in the signs of zeros only. -/
structure IsLike (e' e : Entity ν τ) : Prop extends e'.IsFramedBy e where
  value? (freedom : Freedom ν) : Option.Rel Scalar.Same (e'.value? freedom) (e.value? freedom)

lemma IsLike.refl (e : Entity ν τ) : e.IsLike e := by
  refine ⟨.refl e, fun freedom => ?_⟩
  cases e.value? freedom with
  | none => exact .none
  | some v => exact .some (.refl v)

lemma IsLike.trans {e₁ e₂ e₃ : Entity ν τ} (h : e₁.IsLike e₂) (h' : e₂.IsLike e₃) :
    e₁.IsLike e₃ := by
  refine ⟨h.toIsFramedBy.trans h'.toIsFramedBy, fun freedom => ?_⟩
  have first := h.value? freedom
  have second := h'.value? freedom
  generalize e₁.value? freedom = v₁ at first ⊢
  generalize e₂.value? freedom = v₂ at first second
  generalize e₃.value? freedom = v₃ at second ⊢
  cases first with
  | none => exact second
  | some same =>
    cases second with
    | some same' => exact .some (same.trans same')

/-! ### Building anew -/

section

variable {α : Type} [Scalar α]

/-- A vector that may be absent as a value. -/
def vectorValue : Option (Vector3 α) → Value α
  | some v => .vector (.real v.x) (.real v.y) (.real v.z)
  | none => .null

/-- An entity that is built, with all checks, from the parts of another but for a position and
parameters of its own. -/
def rebuiltWith (e : Entity String α) (position : Option (Vector3 α))
    (parameters : List (String × α)) : Except (Fault α) (Entity String α) :=
  build (.text e.id) (.text e.kind.name) (vectorValue position) (vectorValue e.direction)
    ((e.radius.map .real).getD .null) (vectorValue e.normal)
    (.ok (parameters.map fun entry => (.text entry.1, .real entry.2)))

omit [Scalar α] in
lemma Kind.ofValue_name (kind : Kind) :
    (Kind.ofValue (.text kind.name) : Except (Fault α) Kind) = .ok kind := by
  cases kind <;> rfl

lemma ofValue?_vectorValue (v : Option (Vector3 α)) : Vector3.ofValue? (vectorValue v) = .ok v := by
  cases v <;> rfl

section

variable [Named ν α] [LawfulNamed ν α]

/-- Parameters that a kind carries pass the check, and nothing becomes of them. -/
lemma checkParameters_eq_ok (id : Value α) {kind : Kind} {parameters : List (ν × α)}
    (carried : ∀ entry ∈ parameters, kind.carries entry.1 = true) (c : Checked ν α kind)
    (distinct : Assoc.Distinct (c.table.keys ++ parameters.map Prod.fst)) :
    ∃ c', checkParameters id kind c
        (parameters.map fun entry => (Named.toValue entry.1, .real entry.2)) = .ok c' ∧
      c'.table.entries = c.table.entries ++ parameters := by
  induction parameters generalizing c with
  | nil => exact ⟨c, rfl, (List.append_nil _).symm⟩
  | cons entry rest ih =>
    obtain ⟨first, others⟩ := List.forall_mem_cons.mp carried
    have apart : ∀ k ∈ Assoc.keys c.table.entries, (k == entry.1) = false := fun k there =>
      (List.pairwise_append.mp distinct).2.2 k there entry.1 List.mem_cons_self
    have entries : (c.insert entry.1 entry.2 first).table.entries = c.table.entries ++ [entry] :=
      Assoc.set_eq_append_of_apart apart
    obtain ⟨c', checked, whole⟩ := ih others (c.insert entry.1 entry.2 first) (by
      simpa [Table.keys, Assoc.keys, entries] using distinct)
    refine ⟨c', ?_, by rw [whole, entries, List.append_assoc, List.singleton_append]⟩
    rw [← checked, List.map_cons, checkParameters, LawfulNamed.read_toValue]
    exact dif_pos first

/-- An entity is built from values that stand for its parts. -/
lemma build_eq_ok (e : Entity ν α) {id position direction radius normal : Value α}
    (id_eq : Named.read id = .ok e.id)
    (position_eq : Vector3.ofValue? position = .ok e.position)
    (direction_eq : Vector3.ofValue? direction = .ok e.direction)
    (radius_eq : radius.toReal? = .ok e.radius)
    (normal_eq : Vector3.ofValue? normal = .ok e.normal) :
    build id (.text e.kind.name) position direction radius normal
      (.ok (e.parameters.entries.map fun entry => (Named.toValue entry.1, .real entry.2))) =
        .ok e := by
  have carried : ∀ entry ∈ e.parameters.entries, e.kind.carries entry.1 = true :=
    fun entry there => e.carried entry.1 (List.mem_map_of_mem there)
  obtain ⟨c, checked, entries⟩ := checkParameters_eq_ok id carried .none e.parameters.distinct
  have table : c.table = e.parameters := Table.eq_of_entries_eq entries
  rw [build]
  simp only [Kind.ofValue_name, position_eq, direction_eq, radius_eq, normal_eq, checked, id_eq,
    bind, Except.bind]
  obtain ⟨parameters, carried⟩ := c
  obtain rfl : parameters = e.parameters := table
  obtain ⟨id, kind, position, direction, radius, normal, parameters, carried⟩ := e
  cases radius <;> rfl

end

lemma toReal?_real (x : Option α) : ((x.map .real).getD .null : Value α).toReal? = .ok x := by
  cases x <;> rfl

/-- An entity with the frame of another can be built from the parts of that. -/
lemma IsFramedBy.rebuilt_eq_ok {e' e : Entity String α} (framed : e'.IsFramedBy e) :
    e.rebuiltWith e'.position e'.parameters.entries = .ok e' := by
  rw [rebuiltWith, ← framed.id, ← framed.kind, ← framed.direction, ← framed.radius,
    ← framed.normal]
  exact build_eq_ok e' rfl (ofValue?_vectorValue _) (ofValue?_vectorValue _) (toReal?_real _)
    (ofValue?_vectorValue _)

end

end Entity

end Drafting
