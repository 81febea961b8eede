import Drafting.Proofs.Plane.Agreement
import Mathlib.Data.List.Nodup

/-!
# Writing numbers back

The numbers of the slots are written into the unknowns and then into the points, one object after
the other. No two of these writes are to one object, so in the end each object shows its own number
(`Drawing.IsOrderly.writeBack_eq`), whatever was stale before.
-/

namespace Drafting.Plane

/-! ### Writes that are apart -/

/-- What a single write touches is read afterwards as that write makes it. -/
lemma read_foldl_of_mem {σ β γ : Type} {write : σ → β → σ} (read : σ → γ) (effect : γ → γ)
    {xs : List β} {x : β} (there : x ∈ xs) (nodup : xs.Nodup)
    (touched : ∀ s, read (write s x) = effect (read s))
    (untouched : ∀ y ∈ xs, y ≠ x → ∀ s, read (write s y) = read s) (s : σ) :
    read (xs.foldl write s) = effect (read s) := by
  induction xs generalizing s with
  | nil => cases there
  | cons y rest ih =>
    obtain ⟨absent, nodup⟩ := List.nodup_cons.mp nodup
    obtain ⟨first, others⟩ := List.forall_mem_cons.mp untouched
    rw [List.foldl_cons]
    by_cases same : x = y
    · subst same
      rw [read_foldl read fun z later => others z later fun same => absent (same ▸ later), touched]
    · rw [ih ((List.mem_cons.mp there).resolve_left same) nodup others, first (Ne.symm same)]

lemma forall_mem_modify {β : Type} {P : β → Prop} {xs : List β} {f : β → β}
    (all : ∀ x ∈ xs, P x) (kept : ∀ x, P x → P (f x)) (i : ℕ) : ∀ x ∈ xs.modify i f, P x := by
  intro x there
  obtain ⟨j, found⟩ := List.mem_iff_getElem?.mp there
  rw [List.getElem?_modify] at found
  obtain ⟨y, before, rfl⟩ := Option.map_eq_some_iff.mp found
  have holds := all y (List.mem_of_getElem? before)
  split
  · exact kept y holds
  · exact holds

variable {α : Type} [Scalar α]

/-! ### Single writes -/

namespace Board

/-- The board with numbers written into the coordinates of a point. -/
def movePoint (b : Board String α) (place : ℕ) (x y : α) : Board String α :=
  { b with points := b.points.modify place fun p => { p with x := .real x, y := .real y } }

lemma put_coordinates_eq (b : Board String α) (place : ℕ) (x y : α) :
    (b.put (.point place) "x" (.value (.real x))).put (.point place) "y" (.value (.real y)) =
      b.movePoint place x y := by
  have both : (b.points.modify place fun p => { p with x := .real x }).modify place
      (fun p => { p with y := .real y }) =
        b.points.modify place fun p => { p with x := .real x, y := .real y } :=
    List.modify_modify_eq _ _ _ _
  exact congrArg (fun points => { b with points }) both

lemma IsTyped.put_value {b : Board String α} (typed : b.IsTyped) (place : ℕ) (x : α) :
    (b.put (.variable place) "value" (.value (.real x))).IsTyped where
  points := typed.points
  unknowns := forall_mem_modify typed.unknowns (fun _ _ => ⟨x, .real x⟩) place
  constraints := typed.constraints

lemma IsTyped.movePoint {b : Board String α} (typed : b.IsTyped) (place : ℕ) (x y : α) :
    (b.movePoint place x y).IsTyped where
  points := forall_mem_modify typed.points (fun _ _ => ⟨⟨x, .real x⟩, ⟨y, .real y⟩⟩) place
  unknowns := typed.unknowns
  constraints := typed.constraints

end Board

namespace Drawing

variable {d : Drawing String α}

/-! ### Unknowns -/

/-- The numbers of the slots by the unknowns that they are written into. -/
lemma IsRegistered.mem_zip (registered : d.IsRegistered) {place : ℕ} {u : Variable String α}
    {x : α} (used : .variable place ∈ d.unknowns) (there : d.board.unknowns[place]? = some u)
    (told : d.param? u.id = some x) : (.variable place, x) ∈ d.unknowns.zip d.params := by
  obtain ⟨slot, found⟩ := List.mem_iff_getElem?.mp used
  have own : d.slots.get? u.id = some slot := by
    rw [registered.slots, found, Option.map_some, idOf_of_getElem? there]
  rw [param?, own, Option.bind_some] at told
  refine List.mem_of_getElem? (i := slot) ?_
  rw [List.getElem?_zip_eq_some]
  exact ⟨found, told⟩

/-- Every unknown in use has a number. -/
lemma IsRegistered.exists_param? (registered : d.IsRegistered) {place : ℕ}
    (used : .variable place ∈ d.unknowns) :
    ∃ u x, d.board.unknowns[place]? = some u ∧ d.param? u.id = some x := by
  have inside := registered.lt_of_mem used
  have there := List.getElem?_eq_getElem inside
  obtain ⟨slot, found⟩ := List.mem_iff_getElem?.mp used
  have inside' : slot < d.params.length :=
    registered.full ▸ (List.getElem?_eq_some_iff.mp found).1
  have own : d.slots.get? d.board.unknowns[place].id = some slot := by
    rw [registered.slots, found, Option.map_some, idOf_of_getElem? there]
  refine ⟨_, d.params[slot], there, ?_⟩
  rw [param?, own, Option.bind_some, List.getElem?_eq_getElem inside']

/-- Every unknown in use is written the number that is told under its id. -/
lemma IsRegistered.getElem?_writeVariables (registered : d.IsRegistered) {place : ℕ}
    {u : Variable String α} {x : α} (used : .variable place ∈ d.unknowns)
    (there : d.board.unknowns[place]? = some u) (told : d.param? u.id = some x) :
    d.writeVariables.board.unknowns[place]? = some { u with value := .real x } := by
  have firsts : ((d.unknowns.zip d.params).map Prod.fst).Nodup := by
    rw [List.map_fst_zip registered.full.ge]
    exact registered.nodup.of_map _
  have written : d.writeVariables.board.unknowns[place]? =
      (d.board.unknowns[place]?).map fun u => { u with value := .real x } :=
    read_foldl_of_mem (fun b : Board String α => b.unknowns[place]?) _
      (registered.mem_zip used there told) (firsts.of_map _) (fun b => ?_)
      (fun y among other b => ?_) d.board
  · rw [written, there]
    rfl
  · show (b.unknowns.modify place _)[place]? = _
    rw [List.getElem?_modify_eq]
    rfl
  · obtain ⟨item, x'⟩ := y
    obtain ⟨place', -, rfl⟩ := registered.unknown item (List.of_mem_zip among).1
    have apart : place' ≠ place := by
      rintro rfl
      exact other (List.inj_on_of_nodup_map firsts among (registered.mem_zip used there told) rfl)
    show (b.unknowns.modify place' _)[place]? = _
    exact List.getElem?_modify_ne _ _ apart

/-- Writing into unknowns keeps the board typed and touches nothing else. -/
lemma IsOrderly.writeVariables (orderly : d.IsOrderly) :
    d.writeVariables.board.IsTyped ∧ d.writeVariables.board.points = d.board.points ∧
      d.writeVariables.board.constraints = d.board.constraints ∧
      d.writeVariables.board.unknowns.length = d.board.unknowns.length := by
  refine List.foldlRecOn (motive := fun b : Board String α => b.IsTyped ∧
    b.points = d.board.points ∧ b.constraints = d.board.constraints ∧
    b.unknowns.length = d.board.unknowns.length) _ _ ⟨orderly.board, rfl, rfl, rfl⟩ ?_
  rintro b ⟨typed, points, constraints, length⟩ ⟨item, x⟩ among
  obtain ⟨place, -, rfl⟩ := orderly.registered.unknown item (List.of_mem_zip among).1
  refine ⟨typed.put_value place x, points, constraints, ?_⟩
  exact (List.length_modify _ _ _).trans length

/-! ### Points -/

/-- That all points in use are on the board under their ids, and their coordinates are told. -/
def TellsPoints (d : Drawing String α) : Prop :=
  ∀ entry ∈ d.points.entries, ∃ place p x y, entry.2 = .point place ∧
    d.board.points[place]? = some p ∧ p.id = some entry.1 ∧
    d.param? (coordinateId entry.1 .x) = some x ∧ d.param? (coordinateId entry.1 .y) = some y

lemma AgreesWith.tellsPoints {stale : List String} (agrees : d.AgreesWith d.param? stale) :
    d.TellsPoints := by
  intro entry used
  have shown := agrees.points entry used
  obtain ⟨place, p, same, there, named⟩ := shown.held
  obtain ⟨-, x, -, toldX, -⟩ := shown.coordinate .x x_mem_axes
  obtain ⟨-, y, -, toldY, -⟩ := shown.coordinate .y y_mem_axes
  exact ⟨place, p, x, y, same, there, named, toldX, toldY⟩

lemma locate_eq {id : String} {x y : α} (toldX : d.param? (coordinateId id .x) = some x)
    (toldY : d.param? (coordinateId id .y) = some y) (place : ℕ) (b : Board String α) :
    d.locate id (.point place) .y (d.locate id (.point place) .x b) = b.movePoint place x y := by
  rw [locate, toldY, locate, toldX]
  exact b.put_coordinates_eq place x y

/-- Every point in use is written the numbers that are told under the ids of its coordinates. -/
lemma TellsPoints.getElem?_writePoints (tells : d.TellsPoints) {entry : String × Item}
    (used : entry ∈ d.points.entries) {place : ℕ} {p : Point String α} {x y : α}
    (same : entry.2 = .point place) (there : d.board.points[place]? = some p)
    (named : p.id = some entry.1) (toldX : d.param? (coordinateId entry.1 .x) = some x)
    (toldY : d.param? (coordinateId entry.1 .y) = some y) :
    d.writePoints.board.points[place]? = some { p with x := .real x, y := .real y } := by
  have written : d.writePoints.board.points[place]? =
      (d.board.points[place]?).map fun p => { p with x := .real x, y := .real y } :=
    read_foldl_of_mem (fun b : Board String α => b.points[place]?) _ used
      (d.points.nodup_keys.of_map _) (fun b => ?_) (fun other among apart b => ?_) d.board
  · rw [written, there]
    rfl
  · show (d.locate entry.1 entry.2 .y (d.locate entry.1 entry.2 .x b)).points[place]? = _
    rw [same, locate_eq toldX toldY]
    exact List.getElem?_modify_eq _ _ _
  · obtain ⟨place', p', x', y', same', there', named', toldX', toldY'⟩ := tells other among
    -- a point has one id, and is registered under that alone
    have places : place' ≠ place := by
      rintro rfl
      rw [there, Option.some.injEq] at there'
      rw [← there', named, Option.some.injEq] at named'
      exact apart (List.inj_on_of_nodup_map d.points.nodup_keys among used named'.symm)
    show (d.locate other.1 other.2 .y (d.locate other.1 other.2 .x b)).points[place]? = _
    rw [same', locate_eq toldX' toldY']
    exact List.getElem?_modify_ne _ _ places

/-- Writing into points keeps the board typed and touches nothing else. -/
lemma TellsPoints.writePoints (tells : d.TellsPoints) (typed : d.board.IsTyped) :
    d.writePoints.board.IsTyped ∧ d.writePoints.board.unknowns = d.board.unknowns ∧
      d.writePoints.board.constraints = d.board.constraints := by
  refine List.foldlRecOn (motive := fun b : Board String α => b.IsTyped ∧
    b.unknowns = d.board.unknowns ∧ b.constraints = d.board.constraints) _ _ ⟨typed, rfl, rfl⟩ ?_
  rintro b ⟨typed, unknowns, constraints⟩ ⟨id, item⟩ among
  obtain ⟨place, p, x, y, same, -, -, toldX, toldY⟩ := tells _ among
  dsimp only at same toldX toldY ⊢
  rw [same, locate_eq toldX toldY]
  exact ⟨typed.movePoint place x y, unknowns, constraints⟩

/-! ### Both -/

/-- A drawing with its numbers written back. -/
def written (d : Drawing String α) : Drawing String α := d.writeVariables.writePoints

/-- Writing back makes every object in use show its numbers. -/
theorem IsOrderly.written (orderly : d.IsOrderly) (tells : d.TellsPoints) :
    d.written.IsOrderly ∧ d.written.AgreesWith d.param? [] := by
  obtain ⟨typed, points, constraints, length⟩ := orderly.writeVariables
  have tells' : d.writeVariables.TellsPoints := by
    intro entry used
    rw [points]
    exact tells entry used
  obtain ⟨typed', unknowns', constraints'⟩ := tells'.writePoints typed
  have unknowns : d.written.board.unknowns = d.writeVariables.board.unknowns := unknowns'
  have ids (item : Item) : d.written.board.idOf item = d.board.idOf item :=
    (idOf_writePoints d.writeVariables item).trans (idOf_writeVariables d item)
  have placed : HasConstraints { d with board := d.written.board } := orderly.constraints.onBoard
    (congrArg List.length (constraints'.trans constraints)).ge
  have registered : IsRegistered { d with board := d.written.board } := by
    refine orderly.registered.onBoard (fun place used => ?_) fun item _ => ids item
    rw [unknowns, length]
    exact orderly.registered.lt_of_mem used
  refine ⟨⟨orderly.options, typed', placed, registered⟩, fun place used => ?_, fun entry used => ?_⟩
  · obtain ⟨u, x, there, told⟩ := orderly.registered.exists_param? used
    refine ⟨{ u with value := .real x }, x, ?_, told, .real x⟩
    rw [unknowns]
    exact orderly.registered.getElem?_writeVariables used there told
  · obtain ⟨place, p, x, y, same, there, named, toldX, toldY⟩ := tells entry used
    have there' : d.written.board.points[place]? = some { p with x := .real x, y := .real y } :=
      tells'.getElem?_writePoints used same (points ▸ there) named toldX toldY
    rw [same]
    exact .of_told there' named toldX (.real x) toldY (.real y)

end Drawing

end Drafting.Plane
