import Drafting.Headroom
import Drafting.Scalar.Binary64
import Mathlib.Data.Nat.Basic

/-!
# Parts of a file that are too much

A file holds data: nothing, marks, numbers and texts, in lists and records. What keeps such data
from being written is that it is nested too deeply for the place, or that an integer in it has too
many digits (`Value.IsJson.of_textFault?`). The faults that come of this, and of integers that are
too large for a double, are those of parts that are too much (`Fault.IsExcess`).
-/

namespace Drafting

variable {P : Value Float → Prop}

/-! ### Data -/

/-- Unchecked data as a file can hold it. The integers have a property, and so have the lists and
the records with something in them. -/
inductive Value.IsJson (P : Value Float → Prop) : Value Float → Prop
  | null : IsJson P .null
  | flag (b : Bool) : IsJson P (.flag b)
  | int {n : ℤ} : P (.int n) → IsJson P (.int n)
  | real (x : Float) : IsJson P (.real x)
  | text (s : String) : IsJson P (.text s)
  | list {items : List (Value Float)} : (items ≠ [] → P (.list items)) →
    (∀ item ∈ items, IsJson P item) → IsJson P (.list items)
  | record {fields : List (String × Value Float)} : (fields ≠ [] → P (.record fields)) →
    (∀ field ∈ fields, IsJson P field.2) → IsJson P (.record fields)

/-- Named data. -/
abbrev AreJson (P : Value Float → Prop) (fields : List (String × Value Float)) : Prop :=
  ∀ field ∈ fields, field.2.IsJson P

lemma Value.IsJson.areJson {fields : List (String × Value Float)}
    (json : (Value.record fields).IsJson P) : AreJson P fields := by
  cases json with
  | record _ fields => exact fields

lemma Value.IsJson.of_list {items : List (Value Float)} (json : (Value.list items).IsJson P) :
    ∀ item ∈ items, item.IsJson P := by
  cases json with
  | list _ items => exact items

/-- That a value stands somewhere in a value, or is the value itself. -/
inductive Value.IsPartOf (w : Value Float) : Value Float → Prop
  | self : IsPartOf w w
  | item {items : List (Value Float)} {item : Value Float} : item ∈ items → IsPartOf w item →
    IsPartOf w (.list items)
  | field {fields : List (String × Value Float)} {field : String × Value Float} :
    field ∈ fields → IsPartOf w field.2 → IsPartOf w (.record fields)

/-- The parts of data have every property that they are known to have. -/
lemma Value.IsJson.of_isPartOf {Q : Value Float → Prop} {v : Value Float} (json : v.IsJson P)
    (known : ∀ w, IsPartOf w v → Q w) : v.IsJson Q := by
  induction json with
  | null => exact .null
  | flag b => exact .flag b
  | int _ => exact .int (known _ .self)
  | real x => exact .real x
  | text s => exact .text s
  | list _ _ ih =>
    exact .list (fun _ => known _ .self)
      fun item there => ih item there fun w part => known w (.item there part)
  | record _ _ ih =>
    exact .record (fun _ => known _ .self)
      fun field there => ih field there fun w part => known w (.field there part)

/-! ### Faults -/

/-- Whether an integer among some values is too large for a double. -/
def ExceedsIn (P : Value Float → Prop) : Prop :=
  ∃ n, P (.int n) ∧ (Scalar.ofInt? n : Option Float) = none

/-- Whether an integer among some values has too many digits to be written. -/
def OverflowsIn (P : Value Float → Prop) : Prop :=
  ∃ n, P (.int n) ∧ Numeral.isTooLong n = true

/-- Whether a value among some is nested too deeply to be written at some place, or to be copied. -/
def IsDeepIn [Headroom] (P : Value Float → Prop) : Prop :=
  ∃ v, P v ∧ ((∃ site, Headroom.room site < v.depth) ∨ Headroom.room .option < v.copyDepth)

namespace Fault

variable [Headroom]

/-- The fault of a part that is too much. -/
inductive IsExcess (P : Value Float → Prop) : Fault Float → Prop
  | tooLarge : ExceedsIn P → IsExcess P .tooLarge
  | tooManyDigits : OverflowsIn P → IsExcess P .tooManyDigits
  | tooDeep : IsDeepIn P → IsExcess P .tooDeep

/-- A fault that a record takes over, or that of a part that is too much. It shows nothing but
data. -/
structure IsTame (P : Value Float → Prop) (fault : Fault Float) : Prop where
  escaping : fault.escapes = true → fault.IsExcess P
  worded : ∀ shown ∈ fault.worded, shown.2.IsJson P

/-- A fault in the form of a sketch, or that of a part that is too much. -/
def IsDue (P : Value Float → Prop) (fault : Fault Float) : Prop :=
  fault.isMalformed = true ∨ fault.IsExcess P

/-- A fault that does not escape is tame if it shows nothing but data. -/
lemma isTame_of_worded {fault : Fault Float} (inside : fault.escapes = false)
    (worded : ∀ shown ∈ fault.worded, shown.2.IsJson P) : fault.IsTame P where
  escaping escapes := by
    rw [inside] at escapes
    cases escapes
  worded := worded

/-- A fault that does not escape and shows no value is tame. -/
lemma isTame {fault : Fault Float} (inside : fault.escapes = false) (quiet : fault.worded = []) :
    fault.IsTame P :=
  isTame_of_worded inside (quiet ▸ List.forall_mem_nil _)

lemma isTame_notMember {v : Value Float} (json : v.IsJson P) (set : NameSet) :
    (notMember v set).IsTame P :=
  isTame_of_worded rfl (List.forall_mem_singleton.mpr json)

lemma isTame_notVector {v : Value Float} (json : v.IsJson P) : (notVector v).IsTame P :=
  isTame_of_worded rfl (List.forall_mem_singleton.mpr json)

lemma IsExcess.isTame {fault : Fault Float} (excess : fault.IsExcess P) : fault.IsTame P where
  escaping _ := excess
  worded := by cases excess <;> exact List.forall_mem_nil _

end Fault

namespace Value

variable (costs : LevelCosts)

/-- Going through a list takes what it takes for an item, and for the level of the list. -/
lemma callDepth_add_le_of_mem {items : List (Value Float)} {item : Value Float}
    (there : item ∈ items) : item.callDepth costs + costs.list ≤ (list items).callDepth costs := by
  rw [callDepth]
  induction items with
  | nil => cases there
  | cons first rest ih =>
    rw [itemDepth]
    obtain rfl | later := List.mem_cons.mp there
    · exact le_max_left _ _
    · exact Nat.le_trans (ih later) (le_max_right _ _)

lemma callDepth_add_le_of_field {fields : List (String × Value Float)}
    {field : String × Value Float} (there : field ∈ fields) :
    field.2.callDepth costs + costs.record ≤ (record fields).callDepth costs := by
  rw [callDepth]
  induction fields with
  | nil => cases there
  | cons first rest ih =>
    rw [fieldDepth]
    obtain rfl | later := List.mem_cons.mp there
    · exact le_max_left _ _
    · exact Nat.le_trans (ih later) (le_max_right _ _)

variable {costs}

/-- Going through a list takes no more than what it takes for its items, and for its own level. -/
lemma itemDepth_le {own most : ℕ} {items : List (Value Float)}
    (each : ∀ item ∈ items, item.callDepth costs + own ≤ most) :
    itemDepth costs own items ≤ most := by
  induction items with
  | nil => exact Nat.zero_le most
  | cons item rest ih =>
    obtain ⟨first, others⟩ := List.forall_mem_cons.mp each
    exact max_le first (ih others)

lemma fieldDepth_le {most : ℕ} {fields : List (String × Value Float)}
    (each : ∀ field ∈ fields, field.2.callDepth costs + costs.record ≤ most) :
    fieldDepth costs fields ≤ most := by
  induction fields with
  | nil => exact Nat.zero_le most
  | cons field rest ih =>
    obtain ⟨first, others⟩ := List.forall_mem_cons.mp each
    exact max_le first (ih others)

variable (costs)

/-- An item is nested less deeply than the list that it is in. -/
lemma depth_lt_of_mem {items : List (Value Float)} {item : Value Float} (there : item ∈ items) :
    item.depth < (list items).depth :=
  callDepth_add_le_of_mem ⟨1, 1, 1⟩ there

lemma depth_lt_of_field {fields : List (String × Value Float)} {field : String × Value Float}
    (there : field ∈ fields) : field.2.depth < (record fields).depth :=
  callDepth_add_le_of_field ⟨1, 1, 1⟩ there

/-- Going through a value goes through its parts. -/
lemma IsPartOf.callDepth_le {w v : Value Float} (part : IsPartOf w v) :
    w.callDepth costs ≤ v.callDepth costs := by
  induction part with
  | self => exact le_rfl
  | item there _ ih =>
    exact Nat.le_trans ih (Nat.le_of_add_right_le (callDepth_add_le_of_mem costs there))
  | field there _ ih =>
    exact Nat.le_trans ih (Nat.le_of_add_right_le (callDepth_add_le_of_field costs there))

/-- What keeps items from being written keeps one of them from it. -/
lemma exists_of_itemFault? {room : ℕ} {items : List (Value Float)} {fault : Fault Float}
    (kept : itemFault? room items = some fault) :
    ∃ item ∈ items, item.textFault? room = some fault := by
  induction items with
  | nil => cases kept
  | cons item rest ih =>
    rw [itemFault?, Option.or_eq_some_iff] at kept
    obtain here | ⟨-, later⟩ := kept
    · exact ⟨item, List.mem_cons_self, here⟩
    · obtain ⟨item', there, same⟩ := ih later
      exact ⟨item', List.mem_cons_of_mem item there, same⟩

lemma exists_of_fieldFault? {room : ℕ} {fields : List (String × Value Float)}
    {fault : Fault Float} (kept : fieldFault? room fields = some fault) :
    ∃ field ∈ fields, field.2.textFault? room = some fault := by
  induction fields with
  | nil => cases kept
  | cons field rest ih =>
    rw [fieldFault?, Option.or_eq_some_iff] at kept
    obtain here | ⟨-, later⟩ := kept
    · exact ⟨field, List.mem_cons_self, here⟩
    · obtain ⟨field', there, same⟩ := ih later
      exact ⟨field', List.mem_cons_of_mem field there, same⟩

/-- What keeps a value with others in it from being written is that there is no room for these, or
what keeps one of them from it. -/
lemma of_levelFault? {room : ℕ} {isEmpty : Bool} {inner : ℕ → Option (Fault Float)}
    {fault : Fault Float} (kept : levelFault? room isEmpty inner = some fault) :
    isEmpty = false ∧ (room = 0 ∧ fault = .tooDeep ∨
      ∃ less, room = less + 1 ∧ inner less = some fault) := by
  cases isEmpty with
  | true => cases kept
  | false =>
    cases room with
    | zero => exact ⟨rfl, .inl ⟨rfl, (Option.some.inj kept).symm⟩⟩
    | succ less => exact ⟨rfl, .inr ⟨less, rfl, kept⟩⟩

namespace IsJson

variable {v : Value Float}

/-- What keeps data from being written is that it has more levels than there is room for, or that an
integer has too many digits. -/
lemma of_textFault? (json : v.IsJson P) {room : ℕ} {fault : Fault Float}
    (kept : v.textFault? room = some fault) :
    fault = .tooDeep ∧ room < v.depth ∧ P v ∨ fault = .tooManyDigits ∧ OverflowsIn P := by
  induction json generalizing room with
  | @int n property =>
    rw [textFault?] at kept
    split at kept
    · next long => exact .inr ⟨(Option.some.inj kept).symm, n, property, long⟩
    · cases kept
  | @list items property _ ih =>
    rw [textFault?] at kept
    obtain ⟨filled, cause⟩ := of_levelFault? kept
    have own := property (List.isEmpty_eq_false_iff.mp filled)
    obtain ⟨rfl, rfl⟩ | ⟨less, rfl, inner⟩ := cause
    · obtain ⟨item, there⟩ := List.exists_mem_of_ne_nil items (List.isEmpty_eq_false_iff.mp filled)
      exact .inl ⟨rfl, Nat.zero_lt_of_lt (depth_lt_of_mem there), own⟩
    · obtain ⟨item, there, kept'⟩ := exists_of_itemFault? inner
      obtain ⟨rfl, deep, -⟩ | long := ih item there kept'
      · exact .inl ⟨rfl, Nat.lt_of_le_of_lt deep (depth_lt_of_mem there), own⟩
      · exact .inr long
  | @record fields property _ ih =>
    rw [textFault?] at kept
    obtain ⟨filled, cause⟩ := of_levelFault? kept
    have own := property (List.isEmpty_eq_false_iff.mp filled)
    obtain ⟨rfl, rfl⟩ | ⟨less, rfl, inner⟩ := cause
    · obtain ⟨field, there⟩ := List.exists_mem_of_ne_nil fields
        (List.isEmpty_eq_false_iff.mp filled)
      exact .inl ⟨rfl, Nat.zero_lt_of_lt (depth_lt_of_field there), own⟩
    · obtain ⟨field, there, kept'⟩ := exists_of_fieldFault? inner
      obtain ⟨rfl, deep, -⟩ | long := ih field there kept'
      · exact .inl ⟨rfl, Nat.lt_of_le_of_lt deep (depth_lt_of_field there), own⟩
      · exact .inr long
  | _ => cases kept

/-- What keeps data from being written at a place is a part that is too much. -/
lemma isExcess_textFault? [Headroom] (json : v.IsJson P) {site : Site} {fault : Fault Float}
    (kept : v.textFault? (Headroom.room site) = some fault) : fault.IsExcess P := by
  obtain ⟨rfl, deep, property⟩ | ⟨rfl, long⟩ := json.of_textFault? kept
  · exact .tooDeep ⟨v, property, .inl ⟨site, deep⟩⟩
  · exact .tooManyDigits long

/-- Data that cannot be copied is nested too deeply. -/
lemma isDeepIn_of_copyDepth [Headroom] (json : v.IsJson P)
    (deep : Headroom.room .option < v.copyDepth) : IsDeepIn P := by
  cases json with
  | @list items property _ =>
    cases items with
    | nil => exact absurd deep (Nat.not_lt_zero _)
    | cons item rest => exact ⟨_, property (List.cons_ne_nil item rest), .inr deep⟩
  | @record fields property _ =>
    cases fields with
    | nil => exact absurd deep (Nat.not_lt_zero _)
    | cons field rest => exact ⟨_, property (List.cons_ne_nil field rest), .inr deep⟩
  | _ => exact absurd deep (Nat.not_lt_zero _)

end IsJson

end Value

end Drafting
