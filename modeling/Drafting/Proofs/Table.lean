import Drafting.Proofs.Naming
import Drafting.Table.Basic
import Mathlib.Data.List.Nodup

/-!
# Looking up names in tables

What a table holds under a name, after the operations that build tables. Where the names of a table
are lawful, a name is present if and only if it is among the keys. Names of any sort are told apart
by comparing them only, and a table that is built anew from its entries is the same all the same.
-/

namespace Drafting

namespace Assoc

variable {κ ν : Type} [BEq κ]

/-- A property of entries is kept where a value is set that has it under every name that has it. -/
lemma forall_mem_set {Q : κ × ν → Prop} {key : κ} {value : ν} {entries : List (κ × ν)}
    (all : ∀ entry ∈ entries, Q entry) (own : Q (key, value))
    (renewed : ∀ entry, Q entry → Q (entry.1, value)) :
    ∀ entry ∈ set key value entries, Q entry := by
  induction entries with
  | nil => exact List.forall_mem_singleton.mpr own
  | cons entry rest ih =>
    obtain ⟨first, others⟩ := List.forall_mem_cons.mp all
    rw [set]
    split
    · exact List.forall_mem_cons.mpr ⟨renewed entry first, others⟩
    · exact List.forall_mem_cons.mpr ⟨first, ih others⟩

/-- A name that equals none of those that are there goes to the end. -/
lemma set_eq_append_of_apart {key : κ} {value : ν} {entries : List (κ × ν)}
    (apart : ∀ k ∈ keys entries, (k == key) = false) :
    set key value entries = entries ++ [(key, value)] := by
  induction entries with
  | nil => rfl
  | cons entry rest ih =>
    obtain ⟨first, others⟩ := List.forall_mem_cons.mp apart
    rw [set, if_neg (ne_true_of_eq_false first), ih others, List.cons_append]

/-- After a name is set there is the name with its value, a name that equals it with this value, or
what was there before. -/
lemma mem_set {key : κ} {value : ν} {entries : List (κ × ν)} {entry : κ × ν}
    (there : entry ∈ set key value entries) : entry = (key, value) ∨
      (∃ old, (entry.1, old) ∈ entries ∧ (entry.1 == key) = true ∧ entry.2 = value) ∨
      entry ∈ entries := by
  induction entries with
  | nil => exact .inl (List.mem_singleton.mp there)
  | cons first rest ih =>
    rw [set] at there
    split at there
    · next same =>
      obtain rfl | later := List.mem_cons.mp there
      · exact .inr (.inl ⟨first.2, List.mem_cons_self, same, rfl⟩)
      · exact .inr (.inr (List.mem_cons_of_mem first later))
    · obtain rfl | later := List.mem_cons.mp there
      · exact .inr (.inr List.mem_cons_self)
      · obtain new | ⟨old, before, same, renewed⟩ | before := ih later
        · exact .inl new
        · exact .inr (.inl ⟨old, List.mem_cons_of_mem first before, same, renewed⟩)
        · exact .inr (.inr (List.mem_cons_of_mem first before))

variable [LawfulBEq κ]

/-- Names are distinct if and only if no name occurs twice. -/
lemma distinct_iff_nodup {names : List κ} : Distinct names ↔ names.Nodup := by
  simp [Distinct, List.Nodup]

/-- A name that is not there yet goes to the end. -/
lemma set_eq_append {key : κ} {value : ν} {entries : List (κ × ν)} (absent : key ∉ keys entries) :
    set key value entries = entries ++ [(key, value)] := by
  refine set_eq_append_of_apart fun k there => beq_eq_false_iff_ne.mpr ?_
  rintro rfl
  exact absent there

/-- A name that is set stands for what it has been set to. -/
lemma find?_set_self (key : κ) (value : ν) (entries : List (κ × ν)) :
    (set key value entries).find? (fun entry => entry.1 == key) = some (key, value) := by
  induction entries with
  | nil => simp [set]
  | cons entry rest ih =>
    obtain ⟨k, v⟩ := entry
    rw [set]
    split
    · next same =>
      obtain rfl := eq_of_beq same
      rw [List.find?_cons_of_pos (by exact same)]
    · next other => rw [List.find?_cons_of_neg (by exact other), ih]

/-- Setting one name leaves the others as they are. -/
lemma find?_set_of_ne {key name : κ} (other : key ≠ name) (value : ν) (entries : List (κ × ν)) :
    (set key value entries).find? (fun entry => entry.1 == name) =
      entries.find? fun entry => entry.1 == name := by
  have unequal : (key == name) = false := by simpa using other
  induction entries with
  | nil => simp [set, unequal]
  | cons entry rest ih =>
    obtain ⟨k, v⟩ := entry
    rw [set]
    split
    · next same =>
      have unequal' : (k == name) = false := by rwa [eq_of_beq same]
      rw [List.find?_cons_of_neg (by simp [unequal']), List.find?_cons_of_neg (by simp [unequal'])]
    · rw [List.find?_cons, List.find?_cons, ih]

end Assoc

namespace Table

/-- A table is what it holds. -/
lemma eq_of_entries_eq {κ ν : Type} [BEq κ] {t t' : Table κ ν} (same : t.entries = t'.entries) :
    t = t' := by
  cases t
  cases t'
  cases same
  rfl

section

variable {κ ν : Type} [BEq κ]

/-- Adding pairs with new and distinct names to a table adds them at the end. -/
lemma entries_foldl_insert (pairs : List (κ × ν)) (t : Table κ ν)
    (distinct : Assoc.Distinct (t.keys ++ pairs.map Prod.fst)) :
    (pairs.foldl (fun t entry => t.insert entry.1 entry.2) t).entries = t.entries ++ pairs := by
  induction pairs generalizing t with
  | nil => exact (List.append_nil _).symm
  | cons pair rest ih =>
    have apart : ∀ k ∈ Assoc.keys t.entries, (k == pair.1) = false := fun k there =>
      (List.pairwise_append.mp distinct).2.2 k there pair.1 List.mem_cons_self
    have entries_insert : (t.insert pair.1 pair.2).entries = t.entries ++ [pair] :=
      Assoc.set_eq_append_of_apart apart
    rw [List.foldl_cons, ih]
    · rw [entries_insert, List.append_assoc, List.singleton_append]
    · simpa [keys, Assoc.keys, entries_insert] using distinct

/-- A table of pairs with distinct names holds just these pairs. -/
lemma entries_ofList_of_distinct {pairs : List (κ × ν)}
    (distinct : Assoc.Distinct (pairs.map Prod.fst)) : (ofList pairs).entries = pairs :=
  entries_foldl_insert pairs empty distinct

/-- A value that a name stands for is held with a name that equals it. -/
lemma exists_mem_of_get? {t : Table κ ν} {key : κ} {value : ν} (found : t.get? key = some value) :
    ∃ name, (name, value) ∈ t.entries ∧ (name == key) = true := by
  obtain ⟨entry, first, rfl⟩ := Option.map_eq_some_iff.mp found
  exact ⟨entry.1, List.mem_of_find?_eq_some first, by simpa using List.find?_some first⟩

end

variable {κ ν μ : Type} [BEq κ] [LawfulBEq κ]

lemma nodup_keys (t : Table κ ν) : t.keys.Nodup := Assoc.distinct_iff_nodup.mp t.distinct

/-- A name stands for the value that it is held with. -/
lemma get?_of_mem {t : Table κ ν} {entry : κ × ν} (there : entry ∈ t.entries) :
    t.get? entry.1 = some entry.2 := by
  have found : (t.entries.find? fun other => other.1 == entry.1).isSome := by
    rw [List.find?_isSome]
    exact ⟨entry, there, beq_self_eq_true entry.1⟩
  obtain ⟨other, found⟩ := Option.isSome_iff_exists.mp found
  have same := List.find?_some found
  rw [beq_iff_eq] at same
  have among := List.mem_of_find?_eq_some found
  rw [get?, found, List.inj_on_of_nodup_map t.nodup_keys among there same]
  rfl

/-- A value that a name stands for is held with the name. -/
lemma mem_of_get? {t : Table κ ν} {key : κ} {value : ν} (found : t.get? key = some value) :
    (key, value) ∈ t.entries := by
  obtain ⟨entry, first, rfl⟩ := Option.map_eq_some_iff.mp found
  have same := List.find?_some first
  rw [beq_iff_eq] at same
  rw [← same]
  exact List.mem_of_find?_eq_some first

/-- The names that stand for something are the keys. -/
lemma isSome_get?_iff {t : Table κ ν} {key : κ} : (t.get? key).isSome ↔ key ∈ t.keys := by
  simp [get?, keys, Assoc.keys, List.find?_isSome]

omit [LawfulBEq κ] in
lemma keys_mapValues (t : Table κ ν) (f : κ → ν → μ) : (t.mapValues f).keys = t.keys :=
  Assoc.keys_map f t.entries

omit [LawfulBEq κ] in
/-- Changing every value to itself changes nothing. -/
lemma mapValues_eq_self {t : Table κ ν} {f : κ → ν → ν}
    (still : ∀ key ∈ t.keys, ∀ value, f key value = value) : t.mapValues f = t := by
  apply eq_of_entries_eq
  calc t.entries.map (fun entry => (entry.1, f entry.1 entry.2))
      = t.entries.map id := by
        refine List.map_congr_left fun entry there => ?_
        rw [still entry.1 (List.mem_map_of_mem there)]
        rfl
    _ = t.entries := List.map_id _

omit [LawfulBEq κ] in
lemma mapValues_mapValues {ω : Type} (t : Table κ ν) (f : κ → ν → μ) (g : κ → μ → ω) :
    (t.mapValues f).mapValues g = t.mapValues fun key value => g key (f key value) :=
  eq_of_entries_eq List.map_map

lemma get?_mapValues (t : Table κ ν) (f : κ → ν → μ) (key : κ) :
    (t.mapValues f).get? key = (t.get? key).map (f key) := by
  rw [get?, get?, mapValues, List.find?_map, Option.map_map, Option.map_map]
  cases found : t.entries.find? ((fun entry => entry.1 == key) ∘
      fun entry => (entry.1, f entry.1 entry.2)) with
  | none =>
    have absent : (t.entries.find? fun entry => entry.1 == key) = none := found
    rw [absent]
    rfl
  | some entry =>
    have there : (t.entries.find? fun entry => entry.1 == key) = some entry := found
    have same := List.find?_some there
    rw [beq_iff_eq] at same
    rw [there, ← same]
    rfl

/-- What a name stands for does not depend on the order of the entries. -/
lemma get?_eq_of_perm {t t' : Table κ ν} (perm : t.entries.Perm t'.entries) (key : κ) :
    t.get? key = t'.get? key := by
  cases found : t.get? key with
  | some value => exact (get?_of_mem (perm.subset (mem_of_get? found))).symm
  | none =>
    cases found' : t'.get? key with
    | none => rfl
    | some value => exact found.symm.trans (get?_of_mem (perm.symm.subset (mem_of_get? found')))

/-- Looking up every name of a table in another with the same names gives the other. -/
lemma mapValues_getD_eq {t t' : Table κ ν} (same : t.keys = t'.keys) :
    (t.mapValues fun key value => (t'.get? key).getD value) = t' := by
  have lengths : t.entries.length = t'.entries.length := by
    simpa [keys, Assoc.keys] using congrArg List.length same
  refine eq_of_entries_eq (List.ext_getElem ?_ fun i inside inside' => ?_)
  · rw [mapValues, List.length_map, lengths]
  · have here : i < t.entries.length := by rwa [lengths]
    have key : t.entries[i].1 = t'.entries[i].1 := by
      simpa [keys, Assoc.keys] using List.getElem_of_eq same (by simpa [keys, Assoc.keys])
    simp only [mapValues, List.getElem_map, key, get?_of_mem (List.getElem_mem inside'),
      Option.getD_some]

/-- A table of pairs with distinct names holds just these pairs. -/
lemma entries_ofList {pairs : List (κ × ν)} (distinct : (pairs.map Prod.fst).Nodup) :
    (ofList pairs).entries = pairs :=
  entries_ofList_of_distinct (Assoc.distinct_iff_nodup.mpr distinct)

lemma get?_insert_self (key : κ) (value : ν) (t : Table κ ν) :
    (t.insert key value).get? key = some value :=
  congrArg (Option.map Prod.snd) (Assoc.find?_set_self key value t.entries)

lemma get?_insert_of_ne {key name : κ} (other : key ≠ name) (value : ν) (t : Table κ ν) :
    (t.insert key value).get? name = t.get? name :=
  congrArg _ (Assoc.find?_set_of_ne other value t.entries)

/-- What a table holds after a name is set: the name with its value, and the others as before. -/
lemma mem_insert {key : κ} {value : ν} {t : Table κ ν} {entry : κ × ν}
    (there : entry ∈ (t.insert key value).entries) :
    entry = (key, value) ∨ entry ∈ t.entries ∧ entry.1 ≠ key := by
  have found := get?_of_mem there
  by_cases same : entry.1 = key
  · rw [same, get?_insert_self] at found
    exact .inl (Prod.ext same (Option.some.inj found).symm)
  · rw [get?_insert_of_ne (Ne.symm same)] at found
    exact .inr ⟨mem_of_get? found, same⟩

/-- Pairs with other names at the end do not change what a name stands for. -/
lemma get?_ofList_append {pairs : List (κ × ν)} {name : κ} (extra : List (κ × ν))
    (absent : name ∉ extra.map Prod.fst) :
    (ofList (pairs ++ extra)).get? name = (ofList pairs).get? name := by
  rw [ofList, List.foldl_append, ← ofList]
  generalize ofList pairs = t
  induction extra generalizing t with
  | nil => rfl
  | cons entry rest ih =>
    rw [List.map_cons, List.mem_cons, not_or] at absent
    rw [List.foldl_cons, ih absent.2, get?_insert_of_ne (Ne.symm absent.1)]

end Table

end Drafting
