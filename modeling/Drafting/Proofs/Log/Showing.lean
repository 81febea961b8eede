import Drafting.Log.Call
import Drafting.Proofs.Excess
import Drafting.Proofs.Naming
import Mathlib.Order.MinMax

/-!
# What can be shown

A value is shown with two calls inside each other for a list or a tuple in it and with one for a
record (`Value.showDepth`). It is too deep to be shown only where fewer calls are left
(`Log.lt_showDepth_of_isTooDeep`).
-/

namespace Drafting

namespace Value

variable {fault : Fault Float}

lemma numeralReal_ne_tooDeep (other : fault ≠ .tooDeep) (s : String) :
    numeralReal fault s ≠ .error .tooDeep := by
  rw [numeralReal]
  split
  · exact nofun
  · exact fun same => other (Except.error.inj same)

lemma bytesReal_ne_tooDeep (other : fault ≠ .tooDeep) (data : List UInt8) :
    bytesReal fault data ≠ .error .tooDeep := by
  rw [bytesReal]
  split
  · exact numeralReal_ne_tooDeep other _
  · exact fun same => other (Except.error.inj same)

lemma ofIntOrFault_ne_tooDeep (n : ℤ) :
    (ofIntOrFault n : Except (Fault Float) Float) ≠ .error .tooDeep := by
  rw [ofIntOrFault]
  split <;> exact nofun

/-- A value that is no number is not too deep for one. -/
lemma singleReal_ne_tooDeep (v : Value Float) : v.singleReal ≠ .error .tooDeep := by
  cases v with
  | flag b => exact ofIntOrFault_ne_tooDeep _
  | int n => exact ofIntOrFault_ne_tooDeep n
  | text s => exact numeralReal_ne_tooDeep (by nofun) s
  | bytes data => exact bytesReal_ne_tooDeep (by nofun) data
  | _ => exact nofun

lemma elementReal_ne_tooDeep (kind : ElementKind) (v : Value Float) :
    elementReal kind v ≠ .error .tooDeep := by
  cases v with
  | complex re im => exact nofun
  | text s => exact numeralReal_ne_tooDeep (by nofun) s
  | bytes data => exact bytesReal_ne_tooDeep (by nofun) data
  | _ => exact singleReal_ne_tooDeep _

end Value

namespace Log

lemma requireRange_ne_tooDeep (kind : ElementKind) (data : List (Value Float)) :
    requireRange kind data ≠ .error .tooDeep := by
  rw [requireRange]
  split
  · generalize endCounts kind data = counts
    induction counts with
    | nil => exact nofun
    | cons n rest ih =>
      intro deep
      replace deep : ((do let _ ← (Value.element kind.native (.int n)).toReal) >>= fun _ =>
        rest.forM fun n => do let _ ← (Value.element kind.native (.int n)).toReal) =
          (.error .tooDeep : Except (Fault Float) Unit) := deep
      cases number : (Value.element kind.native (.int n) : Value Float).toReal with
      | ok x =>
        rw [number] at deep
        exact ih deep
      | error fault =>
        rw [number] at deep
        cases deep
        exact Value.elementReal_ne_tooDeep kind.native (.int n) number
  · exact nofun

lemma requireArray_ne_tooDeep (isSmall : Bool) (kind : ElementKind) (shape : List ℕ)
    (data : List (Value Float)) : requireArray isSmall kind shape data ≠ .error .tooDeep := by
  rw [requireArray]
  split
  · split <;> exact nofun
  · exact requireRange_ne_tooDeep kind data

/-- What is inside a value is too deep, or there is no room for its level. -/
lemma of_requireLevel {room cost : ℕ} {isEmpty : Bool} {inside : ℕ → Except (Fault Float) Unit}
    (deep : requireLevel room cost isEmpty inside = .error .tooDeep) :
    isEmpty = false ∧ (room < cost ∨ cost ≤ room ∧ inside (room - cost) = .error .tooDeep) := by
  rw [requireLevel] at deep
  cases isEmpty with
  | true => cases deep
  | false =>
    refine ⟨rfl, ?_⟩
    rw [if_neg Bool.false_ne_true] at deep
    split at deep
    · next narrow => exact .inl narrow
    · next wide => exact .inr ⟨Nat.le_of_not_lt wide, deep⟩

/-- The calls that it takes to show each level of values. -/
abbrev showCosts : Value.LevelCosts := ⟨sequenceCost, sequenceCost, recordCost⟩

/-- Where there is no room for the level of a value, or too little for what is inside it, it takes
more calls than are left. -/
lemma lt_of_level {room cost inner : ℕ} (own : cost ≤ inner)
    (cause : room < cost ∨ cost ≤ room ∧ room - cost + cost < inner) : room < inner := by
  obtain narrow | ⟨wide, deep⟩ := cause
  · exact lt_of_lt_of_le narrow own
  · rwa [Nat.sub_add_cancel wide] at deep

lemma le_itemDepth {own : ℕ} {items : List (Value Float)} (filled : items.isEmpty = false) :
    own ≤ Value.itemDepth showCosts own items := by
  cases items with
  | nil => cases filled
  | cons item rest => exact Nat.le_trans (Nat.le_add_left _ _) (Nat.le_max_left _ _)

lemma le_fieldDepth {fields : List (String × Value Float)} (filled : fields.isEmpty = false) :
    recordCost ≤ Value.fieldDepth showCosts fields := by
  cases fields with
  | nil => cases filled
  | cons field rest => exact Nat.le_trans (Nat.le_add_left _ _) (Nat.le_max_left _ _)

lemma le_entryDepth {entries : List (Value Float × Value Float)}
    (filled : entries.isEmpty = false) :
    recordCost ≤ Value.entryDepth showCosts entries := by
  cases entries with
  | nil => cases filled
  | cons entry rest => exact Nat.le_trans (Nat.le_add_left _ _) (Nat.le_max_left _ _)

mutual

/-- What is too deep to be shown takes more calls than are left. -/
theorem lt_callDepth_of_requireShown (room : ℕ) (v : Value Float)
    (deep : requireShown room v = .error .tooDeep) : room < v.callDepth showCosts := by
  cases v with
  | array kind shape data => exact absurd deep (requireArray_ne_tooDeep _ kind shape data)
  | list items =>
    rw [requireShown] at deep
    obtain ⟨filled, cause⟩ := of_requireLevel deep
    exact lt_of_level (le_itemDepth filled) (cause.imp_right fun ⟨wide, inside⟩ =>
      ⟨wide, lt_itemDepth_of_requireItems _ _ sequenceCost items inside⟩)
  | tuple items =>
    rw [requireShown] at deep
    obtain ⟨filled, cause⟩ := of_requireLevel deep
    exact lt_of_level (le_itemDepth filled) (cause.imp_right fun ⟨wide, inside⟩ =>
      ⟨wide, lt_itemDepth_of_requireItems _ _ sequenceCost items inside⟩)
  | record fields =>
    rw [requireShown] at deep
    obtain ⟨filled, cause⟩ := of_requireLevel deep
    exact lt_of_level (le_fieldDepth filled) (cause.imp_right fun ⟨wide, inside⟩ =>
      ⟨wide, lt_fieldDepth_of_requireFields _ _ fields inside⟩)
  | mapping entries =>
    rw [requireShown] at deep
    obtain ⟨filled, cause⟩ := of_requireLevel deep
    exact lt_of_level (le_entryDepth filled) (cause.imp_right fun ⟨wide, inside⟩ =>
      ⟨wide, lt_entryDepth_of_requireEntries _ _ entries inside⟩)
  | object kind text brief => cases brief <;> cases deep
  | _ => cases deep
termination_by structural v

theorem lt_itemDepth_of_requireItems (room count own : ℕ) (items : List (Value Float))
    (deep : requireItems room count items = .error .tooDeep) :
    room + own < Value.itemDepth showCosts own items := by
  cases items with
  | nil => cases count <;> cases deep
  | cons item rest =>
    cases count with
    | zero => cases deep
    | succ count =>
      obtain here | ⟨⟨⟩, -, later⟩ := Except.bind_eq_error.mp deep
      · exact lt_max_of_lt_left
          (Nat.add_lt_add_right (lt_callDepth_of_requireShown room item here) own)
      · exact lt_max_of_lt_right (lt_itemDepth_of_requireItems room count own rest later)
termination_by structural items

theorem lt_fieldDepth_of_requireFields (room count : ℕ) (fields : List (String × Value Float))
    (deep : requireFields room count fields = .error .tooDeep) :
    room + recordCost < Value.fieldDepth showCosts fields := by
  match fields with
  | [] => cases count <;> cases deep
  | (name, item) :: rest =>
    cases count with
    | zero => cases deep
    | succ count =>
      obtain here | ⟨⟨⟩, -, later⟩ := Except.bind_eq_error.mp deep
      · exact lt_max_of_lt_left
          (Nat.add_lt_add_right (lt_callDepth_of_requireShown room item here) recordCost)
      · exact lt_max_of_lt_right (lt_fieldDepth_of_requireFields room count rest later)
termination_by structural fields

theorem lt_entryDepth_of_requireEntries (room count : ℕ)
    (entries : List (Value Float × Value Float))
    (deep : requireEntries room count entries = .error .tooDeep) :
    room + recordCost < Value.entryDepth showCosts entries := by
  match entries with
  | [] => cases count <;> cases deep
  | (name, item) :: rest =>
    cases count with
    | zero => cases deep
    | succ count =>
      obtain first | ⟨⟨⟩, -, onward⟩ := Except.bind_eq_error.mp deep
      · exact lt_max_of_lt_left (Nat.add_lt_add_right
          (lt_max_of_lt_left (lt_callDepth_of_requireShown room name first)) recordCost)
      obtain here | ⟨⟨⟩, -, later⟩ := Except.bind_eq_error.mp onward
      · exact lt_max_of_lt_left (Nat.add_lt_add_right
          (lt_max_of_lt_right (lt_callDepth_of_requireShown room item here)) recordCost)
      · exact lt_max_of_lt_right (lt_entryDepth_of_requireEntries room count rest later)
termination_by structural entries

end

end Log

/-- How many calls inside each other it takes to show the values in a value. -/
def Value.showDepth (v : Value Float) : ℕ := v.callDepth Log.showCosts

namespace Log

/-- A value that is too deep to be shown takes more calls than are left. -/
lemma lt_showDepth_of_isTooDeep {room : ℕ} {v : Value Float} (deep : isTooDeep room v = true) :
    room < v.showDepth := by
  rw [isTooDeep] at deep
  split at deep
  · next failed => exact lt_callDepth_of_requireShown room v failed
  · cases deep

/-! ### Data -/

/-- Something can be shown, or it is too deep. -/
def IsShownOrDeep (x : Except (Fault Float) Unit) : Prop := x = .ok () ∨ x = .error .tooDeep

/-- What is demanded one after the other is too deep if the first thing is, or else the second. -/
lemma IsShownOrDeep.andThen {x y : Except (Fault Float) Unit} (first : IsShownOrDeep x)
    (second : IsShownOrDeep y) : IsShownOrDeep (x >>= fun _ => y) := by
  obtain rfl | rfl := first
  · exact second
  · exact .inr rfl

lemma isShownOrDeep_requireLevel {room cost : ℕ} (isEmpty : Bool)
    {inside : ℕ → Except (Fault Float) Unit} (rest : ∀ room, IsShownOrDeep (inside room)) :
    IsShownOrDeep (requireLevel room cost isEmpty inside) := by
  rw [requireLevel]
  split
  · exact .inl rfl
  · split
    · exact .inr rfl
    · exact rest _

lemma isShownOrDeep_requireItems {items : List (Value Float)}
    (each : ∀ item ∈ items, ∀ room, IsShownOrDeep (requireShown room item)) (room count : ℕ) :
    IsShownOrDeep (requireItems room count items) := by
  induction items generalizing count with
  | nil => cases count <;> exact .inl rfl
  | cons item rest ih =>
    obtain ⟨first, others⟩ := List.forall_mem_cons.mp each
    cases count with
    | zero => exact .inl rfl
    | succ count => exact (first room).andThen (ih others count)

lemma isShownOrDeep_requireFields {fields : List (String × Value Float)}
    (each : ∀ field ∈ fields, ∀ room, IsShownOrDeep (requireShown room field.2)) (room count : ℕ) :
    IsShownOrDeep (requireFields room count fields) := by
  induction fields generalizing count with
  | nil => cases count <;> exact .inl rfl
  | cons field rest ih =>
    obtain ⟨first, others⟩ := List.forall_mem_cons.mp each
    cases count with
    | zero => exact .inl rfl
    | succ count => exact (first room).andThen (ih others count)

lemma isShownOrDeep_requireShown {P : Value Float → Prop} {v : Value Float} (json : v.IsJson P)
    (room : ℕ) : IsShownOrDeep (requireShown room v) := by
  induction json generalizing room with
  | list _ _ ih =>
    rw [requireShown]
    exact isShownOrDeep_requireLevel _ fun room => isShownOrDeep_requireItems ih room _
  | record _ _ ih =>
    rw [requireShown]
    exact isShownOrDeep_requireLevel _ fun room => isShownOrDeep_requireFields ih room _
  | _ => exact .inl rfl

/-- Data can be shown where there is room for it. -/
theorem requireShown_eq_ok {P : Value Float → Prop} {v : Value Float} (json : v.IsJson P)
    {room : ℕ} (enough : v.showDepth ≤ room) : requireShown room v = .ok () := by
  obtain shown | deep := isShownOrDeep_requireShown json room
  · exact shown
  · exact absurd (lt_callDepth_of_requireShown room v deep) (Nat.not_lt.mpr enough)

end Log

end Drafting
