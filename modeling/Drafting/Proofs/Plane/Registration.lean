import Drafting.Proofs.Plane.Growth
import Drafting.Proofs.Plane.Typing
import Mathlib.Data.List.Nodup

/-!
# Registered unknowns

Every slot of a drawing belongs to an unknown and holds a number, and the ids of the unknowns tell
the slots apart (`Drawing.IsRegistered`). Registering hands a slot, old or new, to an object and
leaves the others as they are (`Drawing.Hands`); what was registered stays registered.
-/

namespace Drafting.Plane

variable {α : Type} [Scalar α]

namespace Drawing

/-! ### Numbers by id -/

/-- A drawing that has a number in every slot, no slots but these, and an id for each. -/
structure IsIndexed (d : Drawing String α) : Prop where
  full : d.params.length = d.unknowns.length
  slots : ∀ id slot, d.slots.get? id = some slot → slot < d.params.length
  nodup : (d.unknowns.map d.board.idOf).Nodup

section

variable {d : Drawing String α} {params : List α}

lemma map_fst_numbered (full : params.length = d.unknowns.length) :
    (numbered { d with params }).map Prod.fst = d.unknowns.map d.board.idOf := by
  have firsts : (d.unknowns.zip params).map Prod.fst = d.unknowns :=
    List.map_fst_zip full.ge
  rw [numbered, List.map_map]
  conv_rhs => rw [← firsts, List.map_map]
  rfl

lemma map_snd_numbered (full : params.length = d.unknowns.length) :
    (numbered { d with params }).map Prod.snd = params := by
  have seconds : (d.unknowns.zip params).map Prod.snd = params :=
    List.map_snd_zip full.le
  rw [numbered, List.map_map]
  conv_rhs => rw [← seconds]
  rfl

/-- The numbers of a solution are told in the order of the slots. -/
lemma IsIndexed.entries_ofList (indexed : d.IsIndexed)
    (full : params.length = d.unknowns.length) :
    (Table.ofList (numbered { d with params })).entries = numbered { d with params } := by
  apply Table.entries_ofList
  rw [map_fst_numbered full]
  exact indexed.nodup

end

/-- A drawing whose slots are those of unknowns on its board, each with a number, and are told apart
by their ids. -/
structure IsRegistered (d : Drawing String α) : Prop where
  full : d.params.length = d.unknowns.length
  unknown : ∀ item ∈ d.unknowns, ∃ place < d.board.unknowns.length, item = .variable place
  slots : ∀ id slot, d.slots.get? id = some slot ↔
    (d.unknowns[slot]?).map d.board.idOf = some id

section

variable {d : Drawing String α}

lemma IsRegistered.lt_of_mem (registered : d.IsRegistered) {place : ℕ}
    (used : .variable place ∈ d.unknowns) : place < d.board.unknowns.length := by
  obtain ⟨place', inside, same⟩ := registered.unknown _ used
  exact Item.variable.inj same ▸ inside

lemma IsRegistered.slot_lt (registered : d.IsRegistered) {id : String} {slot : ℕ}
    (found : d.slots.get? id = some slot) : slot < d.unknowns.length := by
  have there := (registered.slots id slot).mp found
  obtain ⟨item, there, -⟩ := Option.map_eq_some_iff.mp there
  exact (List.getElem?_eq_some_iff.mp there).1

lemma IsRegistered.nodup (registered : d.IsRegistered) :
    (d.unknowns.map d.board.idOf).Nodup := by
  rw [List.nodup_iff_getElem?_ne_getElem?]
  intro i j less inside same
  rw [List.getElem?_map, List.getElem?_map] at same
  rw [List.length_map] at inside
  -- two places with one id are both the slot of it
  have there : d.unknowns[j]? = some d.unknowns[j] := List.getElem?_eq_getElem inside
  have second : (d.unknowns[j]?).map d.board.idOf = some (d.board.idOf d.unknowns[j]) := by
    rw [there]
    rfl
  have first := (registered.slots _ i).mpr (same.trans second)
  rw [(registered.slots _ j).mpr second] at first
  exact less.ne (Option.some.inj first).symm

lemma IsRegistered.isIndexed (registered : d.IsRegistered) : d.IsIndexed where
  full := registered.full
  slots _ _ found := (registered.slot_lt found).trans_eq registered.full.symm
  nodup := registered.nodup

/-- The numbers that a solution tells are those in the slots. -/
lemma IsRegistered.get?_numbered (registered : d.IsRegistered) :
    (Table.ofList d.numbered).get? = d.param? := by
  have entries : (Table.ofList d.numbered).entries = d.numbered :=
    registered.isIndexed.entries_ofList registered.full
  funext id
  cases found : d.slots.get? id with
  | none =>
    have absent : id ∉ (Table.ofList d.numbered).keys := by
      rw [Table.keys, entries]
      show id ∉ d.numbered.map Prod.fst
      rw [map_fst_numbered registered.full]
      intro among
      obtain ⟨slot, inside, same⟩ := List.getElem_of_mem among
      have there := List.getElem?_eq_some_iff.mpr ⟨inside, same⟩
      rw [List.getElem?_map, ← registered.slots, found] at there
      cases there
    rw [← Table.isSome_get?_iff, Option.not_isSome_iff_eq_none] at absent
    rw [absent, param?, found]
    rfl
  | some slot =>
    have inside := registered.slot_lt found
    have inside' : slot < d.params.length := registered.full ▸ inside
    have there := (registered.slots id slot).mp found
    rw [List.getElem?_eq_getElem inside, Option.map_some] at there
    have member : (id, d.params[slot]) ∈ (Table.ofList d.numbered).entries := by
      rw [entries, numbered, ← Option.some.inj there]
      have zipped : (d.unknowns[slot], d.params[slot]) ∈ d.unknowns.zip d.params := by
        rw [List.mem_iff_getElem]
        exact ⟨slot, by simp [inside, inside'], by simp⟩
      exact List.mem_map.mpr ⟨_, zipped, rfl⟩
    rw [Table.get?_of_mem member, param?, found, Option.bind_some,
      List.getElem?_eq_getElem inside']

end

/-! ### Handing out slots -/

/-- A drawing of which another is left with a slot handed to an object under an id, and a number put
into the slot. -/
structure Hands (d d' : Drawing String α) (id : String) (item : Item) (slot : ℕ) (x : α) :
    Prop where
  options : d'.options = d.options
  board : d'.board = d.board
  points : d'.points = d.points
  constraints : d'.constraints = d.constraints
  full : d'.params.length = d'.unknowns.length
  slot_eq : d'.slots.get? id = some slot
  unknown_eq : d'.unknowns[slot]? = some item
  param_eq : d'.params[slot]? = some x
  slots : ∀ id' ≠ id, d'.slots.get? id' = d.slots.get? id'
  unknowns : ∀ i ≠ slot, d'.unknowns[i]? = d.unknowns[i]?
  params : ∀ i ≠ slot, d'.params[i]? = d.params[i]?
  /-- The slot is that of the id, or it is new. -/
  own : ∀ i, d.slots.get? id = some i → i = slot
  apart : ∀ id' ≠ id, d.slots.get? id' ≠ some slot

section

variable {d d' : Drawing String α} {id : String} {item : Item} {slot : ℕ} {x : α}

omit [Scalar α] in
lemma Hands.param?_self (hands : d.Hands d' id item slot x) : d'.param? id = some x := by
  rw [param?, hands.slot_eq]
  exact hands.param_eq

omit [Scalar α] in
/-- The numbers under other ids stay as they are. -/
lemma Hands.param?_of_ne (hands : d.Hands d' id item slot x) {id' : String} (other : id' ≠ id) :
    d'.param? id' = d.param? id' := by
  rw [param?, param?, hands.slots id' other]
  cases found : d.slots.get? id' with
  | none => rfl
  | some i =>
    refine hands.params i fun same => hands.apart id' other ?_
    rw [found, same]

omit [Scalar α] in
/-- An unknown stays registered unless it is the one that had the slot. -/
lemma Hands.mem_unknowns (hands : d.Hands d' id item slot x) {item' : Item}
    (there : item' ∈ d'.unknowns) : item' = item ∨ ∃ i ≠ slot, d.unknowns[i]? = some item' := by
  obtain ⟨i, found⟩ := List.mem_iff_getElem?.mp there
  by_cases same : i = slot
  · rw [same, hands.unknown_eq] at found
    exact .inl (Option.some.inj found).symm
  · rw [hands.unknowns i same] at found
    exact .inr ⟨i, same, found⟩

/-- Handing a slot to an unknown under its id leaves a drawing registered. -/
lemma Hands.isRegistered (hands : d.Hands d' id item slot x) (registered : d.IsRegistered)
    (isUnknown : ∃ place < d.board.unknowns.length, item = .variable place)
    (named : d.board.idOf item = id) : d'.IsRegistered where
  full := hands.full
  unknown item' there := by
    rw [hands.board]
    obtain rfl | ⟨i, -, found⟩ := hands.mem_unknowns there
    · exact isUnknown
    · exact registered.unknown item' (List.mem_of_getElem? found)
  slots id' i := by
    rw [hands.board]
    by_cases same : i = slot
    · rw [same, hands.unknown_eq, Option.map_some, named, Option.some.injEq]
      constructor
      · intro found
        by_contra other
        rw [hands.slots id' (Ne.symm other)] at found
        exact hands.apart id' (Ne.symm other) found
      · rintro rfl
        exact hands.slot_eq
    · rw [hands.unknowns i same, ← registered.slots]
      by_cases own : id' = id
      · rw [own, hands.slot_eq, Option.some.injEq]
        exact ⟨fun back => absurd back.symm same, fun found => absurd (hands.own i found) same⟩
      · rw [hands.slots id' own]

end

/-! ### Registering -/

section

variable {d : Drawing String α} {place : ℕ} {u : Variable String α} {x : α}

lemma placed_eq_ok {v : Value α} (number : v.IsNumber x) : Linear.placed v = .ok x := by
  cases number with
  | real x => rfl
  | int n x inRange below => exact Value.ofIntOrFault_eq_ok inRange

/-- An old slot goes over to the object that is registered under its id. -/
lemma IsRegistered.rebind_eq (registered : d.IsRegistered)
    (there : d.board.unknowns[place]? = some u) (number : u.value.IsNumber x) {slot : ℕ}
    (found : d.slots.get? u.id = some slot) :
    ∃ d', d.rebind slot (.variable place) = ⟨d', .ok ()⟩ ∧
      d.Hands d' u.id (.variable place) slot x := by
  have inside := registered.slot_lt found
  have inside' : slot < d.params.length := registered.full ▸ inside
  have value : d.board.value (.variable place) = .ok u.value := by
    rw [Board.value, there]
    rfl
  refine ⟨{ d with
    unknowns := d.unknowns.set slot (.variable place), params := d.params.set slot x }, ?_, ?_⟩
  · simp only [rebind, value, given, if_neg (Nat.not_le_of_lt inside'), placed_eq_ok number, done]
  · constructor
    case full => rw [List.length_set, List.length_set, registered.full]
    case slot_eq => exact found
    case unknown_eq => exact List.getElem?_set_self inside
    case param_eq => exact List.getElem?_set_self inside'
    case unknowns => exact fun i other => List.getElem?_set_ne (Ne.symm other)
    case params => exact fun i other => List.getElem?_set_ne (Ne.symm other)
    case own =>
      intro i found'
      rw [found] at found'
      exact (Option.some.inj found').symm
    case apart =>
      intro id' other found'
      have first := (registered.slots _ slot).mp found
      rw [(registered.slots _ slot).mp found'] at first
      exact other (Option.some.inj first)
    all_goals intros; rfl

/-- A new slot comes after the others. -/
lemma IsRegistered.bind_eq (registered : d.IsRegistered)
    (there : d.board.unknowns[place]? = some u) (number : u.value.IsNumber x)
    (fresh : d.slots.get? u.id = none) :
    ∃ d', d.bind u.id (.variable place) = ⟨d', .ok ()⟩ ∧
      d.Hands d' u.id (.variable place) d.unknowns.length x := by
  have value : d.board.value (.variable place) >>= Value.toReal = .ok x := by
    rw [Board.value, there]
    exact toReal_eq_ok number
  have beyond {β : Type} {xs : List β} {y : β} {i : ℕ} (other : i ≠ xs.length) :
      (xs ++ [y])[i]? = xs[i]? := by
    rw [List.getElem?_append]
    split
    · rfl
    · rw [List.getElem?_eq_none (by simp; omega), List.getElem?_eq_none (by omega)]
  refine ⟨d.withSlot u.id (.variable place) x, ?_, ?_⟩
  · simp only [Drawing.bind, value, given, done, withSlot]
  · constructor
    case full => rw [withSlot, List.length_append, List.length_append, registered.full]; rfl
    case slot_eq => exact Table.get?_insert_self _ _ _
    case unknown_eq => exact List.getElem?_concat_length
    case param_eq =>
      rw [← registered.full]
      exact List.getElem?_concat_length
    case slots => exact fun id' other => Table.get?_insert_of_ne (Ne.symm other) _ _
    case unknowns => exact fun i other => beyond other
    case params => exact fun i other => beyond (registered.full ▸ other)
    case own =>
      intro i found
      rw [fresh] at found
      cases found
    case apart => exact fun id' other found => (registered.slot_lt found).ne rfl
    all_goals rfl

lemma idOf_of_getElem? {b : Board String α} (there : b.unknowns[place]? = some u) :
    b.idOf (.variable place) = u.id := by
  rw [Board.idOf, Board.idValue, there]
  rfl

/-- Registering an unknown whose value is a number hands a slot to it. -/
theorem IsRegistered.addVariable_eq (registered : d.IsRegistered)
    (there : d.board.unknowns[place]? = some u) (number : u.value.IsNumber x) :
    ∃ d' slot, d.addVariable (.variable place) = ⟨d', .ok ()⟩ ∧
      d.Hands d' u.id (.variable place) slot x := by
  rw [addVariable, idOf_of_getElem? there, Name.require_eq_ok, given]
  cases found : d.slots.get? u.id with
  | some slot =>
    obtain ⟨d', step, hands⟩ := registered.rebind_eq there number found
    exact ⟨d', slot, step, hands⟩
  | none =>
    obtain ⟨d', step, hands⟩ := registered.bind_eq there number found
    exact ⟨d', d.unknowns.length, step, hands⟩

end

/-- The fields of a record are its entries with texts as names. -/
lemma fields?_eq_map (v : Value α) :
    v.fields? = v.entries?.map (Named.entries : _ → List (String × Value α)) := by
  cases v with
  | record fields =>
    have same (field : String × Value α) :
        (fun entry : Value α × Value α => (Named.ofValue entry.1).map fun name => (name, entry.2))
          (Value.text field.1, field.2) = some field := rfl
    simp only [Value.fields?, Value.entries?, Option.map_some, Named.entries, List.filterMap_map,
      Function.comp_def, same, List.filterMap_some]
  | _ => rfl

/-- Where names are texts, numbers are set by the fields of a record. -/
lemma setInitial_eq (d : Drawing String α) (v : Value α) : d.setInitial v =
    match v.fields? with
    | some fields => (d.assign fields).andThen fun d _ => d.writeBack
    | none => d.fail (.missingOperation v.kindName "items") := by
  rw [setInitial, fields?_eq_map]
  cases v.entries? <;> rfl

end Drawing

end Drafting.Plane
