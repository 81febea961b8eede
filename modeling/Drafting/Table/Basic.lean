/-!
# Tables in insertion order

A `Table` maps names to values and remembers the order in which the names came. Setting a name that
is present replaces its value in place and keeps the name as it first came; a new name goes to the
end. No two names in a table are equal, which the type guarantees.
-/

namespace Drafting

namespace Assoc

variable {κ ν μ : Type}

/-- The names of a list of pairs. -/
def keys (entries : List (κ × ν)) : List κ := entries.map Prod.fst

theorem keys_map (f : κ → ν → μ) (entries : List (κ × ν)) :
    keys (entries.map fun entry => (entry.1, f entry.1 entry.2)) = keys entries := by
  simp [keys, Function.comp_def]

theorem map_fst_zip_sublist {β : Type} (entries : List (κ × ν)) (marks : List β) :
    ((entries.zip marks).map Prod.fst).Sublist entries := by
  induction entries generalizing marks with
  | nil => simp
  | cons entry rest ih =>
    cases marks with
    | nil => simp
    | cons mark others => simpa using ih others

/-- No name is equal to a later one. -/
def Distinct [BEq κ] (names : List κ) : Prop := names.Pairwise fun a b => (a == b) = false

variable [BEq κ]

/-- Sets a name: a present one keeps its place, a new one goes to the end. -/
def set (key : κ) (value : ν) : List (κ × ν) → List (κ × ν)
  | [] => [(key, value)]
  | (k, v) :: rest => if k == key then (k, value) :: rest else (k, v) :: set key value rest

/-- Removes every pair with a name. -/
def erase (key : κ) (entries : List (κ × ν)) : List (κ × ν) :=
  entries.filter fun entry => !(entry.1 == key)

theorem keys_set (key : κ) (value : ν) (entries : List (κ × ν)) :
    keys (set key value entries) =
      if (keys entries).any (· == key) then keys entries else keys entries ++ [key] := by
  induction entries with
  | nil => simp [set, keys]
  | cons entry rest ih =>
    obtain ⟨k, v⟩ := entry
    cases h : k == key with
    | true => simp [set, keys, h]
    | false =>
      have step : keys (set key value ((k, v) :: rest)) = k :: keys (set key value rest) := by
        simp [set, h, keys]
      have front : keys ((k, v) :: rest) = k :: keys rest := rfl
      rw [step, ih, front, List.any_cons, h, Bool.false_or]
      split <;> rfl

theorem distinct_keys_set {key : κ} {value : ν} {entries : List (κ × ν)}
    (h : Distinct (keys entries)) : Distinct (keys (set key value entries)) := by
  rw [keys_set]
  split
  · exact h
  · next absent =>
    refine List.pairwise_append.mpr ⟨h, List.pairwise_singleton _ _, ?_⟩
    intro a ha b hb
    simp only [List.mem_singleton] at hb
    subst hb
    simp only [List.any_eq_true, not_exists, not_and, Bool.not_eq_true] at absent
    exact absent a ha

theorem distinct_keys_filter {p : κ × ν → Bool} {entries : List (κ × ν)}
    (h : Distinct (keys entries)) : Distinct (keys (entries.filter p)) :=
  List.Pairwise.sublist (List.Sublist.map _ List.filter_sublist) h

end Assoc

/-- A map from names to values that keeps the order of insertion. -/
structure Table (κ : Type) [BEq κ] (ν : Type) where
  entries : List (κ × ν)
  distinct : Assoc.Distinct (Assoc.keys entries)

namespace Table

variable {κ ν μ : Type} [BEq κ]

/-- The table without entries. -/
def empty : Table κ ν := ⟨[], by simp [Assoc.keys, Assoc.Distinct]⟩

instance : Inhabited (Table κ ν) := ⟨empty⟩

/-- The names in order. -/
def keys (t : Table κ ν) : List κ := Assoc.keys t.entries

/-- The values in order. -/
def values (t : Table κ ν) : List ν := t.entries.map Prod.snd

/-- The number of entries. -/
def size (t : Table κ ν) : Nat := t.entries.length

/-- The value of a name. -/
def get? (t : Table κ ν) (key : κ) : Option ν :=
  (t.entries.find? fun entry => entry.1 == key).map Prod.snd

/-- Whether a name is present. -/
def contains (t : Table κ ν) (key : κ) : Bool := (t.get? key).isSome

/-- Sets the value of a name. -/
def insert (t : Table κ ν) (key : κ) (value : ν) : Table κ ν :=
  ⟨Assoc.set key value t.entries, Assoc.distinct_keys_set t.distinct⟩

/-- Removes a name. -/
def erase (t : Table κ ν) (key : κ) : Table κ ν :=
  ⟨Assoc.erase key t.entries, Assoc.distinct_keys_filter t.distinct⟩

/-- Keeps the entries that a test accepts. -/
def filter (t : Table κ ν) (p : κ → ν → Bool) : Table κ ν :=
  ⟨t.entries.filter fun entry => p entry.1 entry.2, Assoc.distinct_keys_filter t.distinct⟩

/-- Keeps the entries that a test accepts, which may fail; it is made of one after the other. -/
def filterM? {ε : Type} (t : Table κ ν) (p : κ → ν → Except ε Bool) : Except ε (Table κ ν) := do
  let marks ← t.entries.mapM fun entry => p entry.1 entry.2
  return ⟨((t.entries.zip marks).filter Prod.snd).map Prod.fst, by
    refine List.Pairwise.sublist (List.Sublist.map _ ?_) t.distinct
    exact (List.Sublist.map _ List.filter_sublist).trans (Assoc.map_fst_zip_sublist _ _)⟩

/-- Changes every value, which may depend on its name. -/
def mapValues (t : Table κ ν) (f : κ → ν → μ) : Table κ μ :=
  ⟨t.entries.map fun entry => (entry.1, f entry.1 entry.2), by
    rw [Assoc.keys_map]; exact t.distinct⟩

/-- Changes the value of one name, if it is present. -/
def modify (t : Table κ ν) (key : κ) (f : ν → ν) : Table κ ν :=
  t.mapValues fun k v => if k == key then f v else v

/-- The table of a list of pairs; of two pairs with one name the later value counts. -/
def ofList (entries : List (κ × ν)) : Table κ ν :=
  entries.foldl (fun t entry => t.insert entry.1 entry.2) empty

end Table

end Drafting
