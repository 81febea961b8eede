import Drafting.Plane.Drawing
import Drafting.Proofs.Exact
import Drafting.Proofs.Naming

/-!
# Boards

What is told of an object on a board depends on that object alone: it is the same on a board with
more points and unknowns. Writing numbers into objects leaves their ids as they are, whatever sort
they are of.
-/

namespace Drafting.Plane

variable {ν α : Type}

/-! ### Larger boards -/

namespace Board

/-- Whether an object is there. -/
def Holds (b : Board ν α) : Item → Prop
  | .point place => place < b.points.length
  | .variable place => place < b.unknowns.length
  | .constraint place => place < b.constraints.length

/-- A board with more points and unknowns, or with no more. -/
structure IsPartOf (b b' : Board ν α) : Prop where
  points : b.points <+: b'.points
  unknowns : b.unknowns <+: b'.unknowns
  constraints : b.constraints = b'.constraints

lemma IsPartOf.refl (b : Board ν α) : b.IsPartOf b :=
  ⟨List.prefix_rfl, List.prefix_rfl, rfl⟩

lemma IsPartOf.trans {b b' b'' : Board ν α} (part : b.IsPartOf b') (part' : b'.IsPartOf b'') :
    b.IsPartOf b'' :=
  ⟨part.points.trans part'.points, part.unknowns.trans part'.unknowns,
    part.constraints.trans part'.constraints⟩

lemma isPartOf_addPoint (b : Board ν α) (p : Point ν α) : b.IsPartOf (b.addPoint p) :=
  ⟨List.prefix_append _ _, List.prefix_rfl, rfl⟩

lemma isPartOf_addVariable (b : Board ν α) (v : Variable ν α) : b.IsPartOf (b.addVariable v) :=
  ⟨List.prefix_rfl, List.prefix_append _ _, rfl⟩

variable {b b' : Board ν α} {item : Item}

lemma Holds.mono (part : b.IsPartOf b') (there : b.Holds item) : b'.Holds item := by
  cases item with
  | point place => exact Nat.lt_of_lt_of_le there part.points.length_le
  | «variable» place => exact Nat.lt_of_lt_of_le there part.unknowns.length_le
  | constraint place =>
    rw [Holds, ← part.constraints]
    exact there

lemma getElem?_of_prefix {β : Type} {xs ys : List β} (part : xs <+: ys) {i : ℕ}
    (inside : i < xs.length) : ys[i]? = xs[i]? := by
  obtain ⟨rest, rfl⟩ := part
  exact List.getElem?_append_left inside

lemma IsPartOf.extra_eq (part : b.IsPartOf b') (there : b.Holds item) (name : String) :
    b'.extra item name = b.extra item name := by
  have extras : b'.extras item = b.extras item := by
    cases item with
    | point place => simp only [extras, getElem?_of_prefix part.points there]
    | «variable» place => simp only [extras, getElem?_of_prefix part.unknowns there]
    | constraint place => simp only [extras, part.constraints]
  rw [extra, extra, extras]

lemma IsPartOf.idValue_eq [Named ν α] (part : b.IsPartOf b') (there : b.Holds item) :
    b'.idValue item = b.idValue item := by
  cases item with
  | point place => simp only [idValue, getElem?_of_prefix part.points there]
  | «variable» place => simp only [idValue, getElem?_of_prefix part.unknowns there]
  | constraint place => simp only [idValue, part.constraints]

lemma IsPartOf.idOf_eq [Named ν α] (part : b.IsPartOf b') (there : b.Holds item) :
    b'.idOf item = b.idOf item := by
  rw [idOf, idOf, part.idValue_eq there]

lemma IsPartOf.ofConstraint_eq {β : Type} (part : b.IsPartOf b') (there : b.Holds item)
    (own : Constraint α → β) (name : String) (other : Content α → β) :
    b'.ofConstraint item own name other = b.ofConstraint item own name other := by
  cases item with
  | constraint place => simp only [ofConstraint, part.constraints]
  | point place => simp only [ofConstraint, part.extra_eq there]
  | «variable» place => simp only [ofConstraint, part.extra_eq there]

/-! ### Writing into objects -/

variable [Named ν α] {name : String}

lemma id_put_point (p : Point ν α) (other : name ≠ "id") (content : Content α) :
    (p.put name content).id = p.id := by
  unfold Point.put
  split <;> first | rfl | exact absurd rfl other

lemma id_put_variable (u : Variable ν α) (other : name ≠ "id") (content : Content α) :
    (u.put name content).id = u.id := by
  unfold Variable.put
  split <;> first | rfl | exact absurd rfl other

lemma id_put_constraint (c : Constraint α) (other : name ≠ "id") (content : Content α) :
    (c.put name content).id = c.id := by
  unfold Constraint.put
  split <;> first | rfl | exact absurd rfl other

/-- Writing a field other than the id leaves all ids as they are. -/
lemma idValue_put (b : Board ν α) (target item : Item) (other : name ≠ "id")
    (content : Content α) : (b.put target name content).idValue item = b.idValue item := by
  -- only an object of the same sort is touched, and only at the same place
  cases target with
  | point place =>
    cases item with
    | point place' =>
      simp only [put, idValue, List.getElem?_modify]
      cases b.points[place']? with
      | none => rfl
      | some p => by_cases same : place = place' <;> simp [same, id_put_point p other]
    | «variable» place' => rfl
    | constraint place' => rfl
  | «variable» place =>
    cases item with
    | point place' => rfl
    | «variable» place' =>
      simp only [put, idValue, List.getElem?_modify]
      cases b.unknowns[place']? with
      | none => rfl
      | some u => by_cases same : place = place' <;> simp [same, id_put_variable u other]
    | constraint place' => rfl
  | constraint place =>
    cases item with
    | point place' => rfl
    | «variable» place' => rfl
    | constraint place' =>
      simp only [put, idValue, List.getElem?_modify]
      cases b.constraints[place']? with
      | none => rfl
      | some c => by_cases same : place = place' <;> simp [same, id_put_constraint c other]

lemma idOf_put (b : Board ν α) (target item : Item) (other : name ≠ "id") (content : Content α) :
    (b.put target name content).idOf item = b.idOf item := by
  rw [idOf, idOf, idValue_put b target item other]

end Board

/-! ### Writing numbers back -/

/-- What no write touches is read afterwards as before. -/
lemma read_foldl {σ β γ : Type} {write : σ → β → σ} (read : σ → γ) {xs : List β}
    (untouched : ∀ x ∈ xs, ∀ s, read (write s x) = read s) (s : σ) :
    read (xs.foldl write s) = read s := by
  induction xs generalizing s with
  | nil => rfl
  | cons x rest ih =>
    obtain ⟨first, others⟩ := List.forall_mem_cons.mp untouched
    rw [List.foldl_cons, ih others, first]

namespace Drawing

variable [Name ν] [Named ν α]

/-- Writing numbers into unknowns leaves the ids of all objects as they are. -/
lemma idOf_writeVariables (d : Drawing ν α) (item : Item) :
    d.writeVariables.board.idOf item = d.board.idOf item := by
  refine read_foldl (fun b : Board ν α => b.idOf item) (fun entry _ b => ?_) _
  exact b.idOf_put _ item (by decide) _

lemma idOf_locate (d : Drawing ν α) (id : ν) (target item : Item) {axis : Kind}
    (other : axis.name ≠ "id") (b : Board ν α) :
    (d.locate id target axis b).idOf item = b.idOf item := by
  rw [locate]
  cases d.param? (coordinateId id axis) with
  | none => rfl
  | some x => exact b.idOf_put target item other _

/-- Writing numbers into points leaves the ids of all objects as they are. -/
lemma idOf_writePoints (d : Drawing ν α) (item : Item) :
    d.writePoints.board.idOf item = d.board.idOf item := by
  refine read_foldl (fun b : Board ν α => b.idOf item) (fun entry _ b => ?_) _
  rw [idOf_locate _ _ _ _ (by decide), idOf_locate _ _ _ _ (by decide)]

end Drawing

end Drafting.Plane
