import Drafting.Name
import Mathlib.Data.List.Forall2
import Mathlib.Data.List.Induction
import Mathlib.Data.List.Nodup

/-!
# Lawful names

Names that behave as texts do: two of them are the same if they are equal, and each of them can be
looked up. Whatever holds of tables with lawful keys then holds of tables by name. The module also
opens chains of computations that may fail: a chain succeeds if each of its links does.
-/

/-- Each item of a list is related to one of the list that it is matched with. -/
lemma List.Forall₂.exists_of_mem_right {α β : Type} {R : α → β → Prop} {xs : List α} {ys : List β}
    (all : List.Forall₂ R xs ys) {y : β} (there : y ∈ ys) : ∃ x ∈ xs, R x y := by
  induction all with
  | nil => cases there
  | @cons x y' xs' ys' first others ih =>
    obtain rfl | later := List.mem_cons.mp there
    · exact ⟨x, List.mem_cons_self, first⟩
    · obtain ⟨x', among, related⟩ := ih later
      exact ⟨x', List.mem_cons_of_mem x among, related⟩

/-- A text that comes last counts unless it came before. -/
lemma Drafting.eraseDups_concat (ids : List String) (id : String) : (ids ++ [id]).eraseDups =
    if id ∈ ids.eraseDups then ids.eraseDups else ids.eraseDups ++ [id] := by
  rw [List.eraseDups_append]
  split
  · next known =>
    rw [List.mem_eraseDups] at known
    have nothing : [id].removeAll ids = [] := by simp [List.removeAll, known]
    rw [nothing]
    exact List.append_nil _
  · next unknown =>
    rw [List.mem_eraseDups] at unknown
    have itself : [id].removeAll ids = [id] := by simp [List.removeAll, unknown]
    rw [itself]
    rfl

/-- Each text counts once. -/
lemma Drafting.nodup_eraseDups (ids : List String) : ids.eraseDups.Nodup := by
  induction ids using List.reverseRecOn with
  | nil => exact List.nodup_nil
  | append_singleton ids id ih =>
    rw [eraseDups_concat]
    split
    · exact ih
    · next unknown =>
      rw [← List.concat_eq_append]
      exact List.Nodup.concat unknown ih

/-- Entries with texts as names are a record. -/
lemma Drafting.Value.ofEntries_texts {α β : Type} (name : β → String) (value : β → Value α)
    (entries : List β) :
    Value.ofEntries (entries.map fun entry => (.text (name entry), value entry)) =
      .record (entries.map fun entry => (name entry, value entry)) := by
  have fields : (entries.map fun entry => (Value.text (name entry), value entry)).mapM
      Value.fieldOf? = some (entries.map fun entry => (name entry, value entry)) := by
    induction entries with
    | nil => rfl
    | cons entry rest ih => simp only [List.map_cons, List.mapM_cons, ih, Value.fieldOf?]; rfl
  rw [Value.ofEntries, fields]

namespace Except

/-- A chain succeeds if its first link does and the rest succeeds on what comes of it. -/
lemma bind_eq_ok {ε α β : Type} {x : Except ε α} {f : α → Except ε β} {b : β} :
    x >>= f = .ok b ↔ ∃ a, x = .ok a ∧ f a = .ok b := by
  cases x with
  | error e => simp [bind, Except.bind]
  | ok a => simp [bind, Except.bind]

/-- A chain of tests succeeds if each of them does. -/
lemma bind_unit_eq_ok {ε β : Type} {x : Except ε Unit} {f : Unit → Except ε β} {b : β} :
    x >>= f = .ok b ↔ x = .ok () ∧ f () = .ok b := by
  rw [bind_eq_ok]
  constructor
  · rintro ⟨⟨⟩, hx, hf⟩
    exact ⟨hx, hf⟩
  · rintro ⟨hx, hf⟩
    exact ⟨(), hx, hf⟩

/-- A chain fails if its first link does or the rest fails on what comes of it. -/
lemma bind_eq_error {ε α β : Type} {x : Except ε α} {f : α → Except ε β} {e : ε} :
    x >>= f = .error e ↔ x = .error e ∨ ∃ a, x = .ok a ∧ f a = .error e := by
  cases x with
  | error e' => simp [bind, Except.bind]
  | ok a => simp [bind, Except.bind]

/-- What is left of a computation if it succeeds. -/
lemma toOption_eq_some {ε β : Type} {x : Except ε β} {b : β} :
    x.toOption = some b ↔ x = .ok b := by
  cases x <;> simp [Except.toOption]

/-- Taking a fault for another leaves a success as it is. -/
lemma mapError_eq_ok {ε ε' β : Type} {x : Except ε β} {f : ε → ε'} {b : β} :
    x.mapError f = .ok b ↔ x = .ok b := by
  cases x <;> simp [Except.mapError]

lemma mapError_bind {ε ε' α β : Type} (f : ε → ε') (x : Except ε α) (g : α → Except ε β) :
    (x >>= g).mapError f = x.mapError f >>= fun y => (g y).mapError f := by
  cases x <;> rfl

/-- Chains are equal if they go on in the same way from what comes of their first link. -/
lemma bind_congr_of_ok {ε α β : Type} {x : Except ε α} {f g : α → Except ε β}
    (same : ∀ a, x = .ok a → f a = g a) : x >>= f = x >>= g := by
  cases x with
  | error e => rfl
  | ok a => exact same a rfl

lemma map_eq_ok {ε α β : Type} {x : Except ε α} {f : α → β} {b : β} :
    x.map f = .ok b ↔ ∃ a, x = .ok a ∧ f a = b := by
  cases x with
  | error e => simp [Except.map]
  | ok a => simp [Except.map]

/-- A computation succeeds on a list if it does on each of its items. -/
lemma mapM_eq_ok {ε α β : Type} {f : α → Except ε β} {xs : List α} {ys : List β} :
    xs.mapM f = .ok ys ↔ List.Forall₂ (fun x y => f x = .ok y) xs ys := by
  induction xs generalizing ys with
  | nil =>
    rw [List.mapM_nil, List.forall₂_nil_left_iff]
    exact ⟨fun ok => (Except.ok.inj ok).symm, congrArg Except.ok ∘ Eq.symm⟩
  | cons x rest ih =>
    rw [List.mapM_cons, bind_eq_ok, List.forall₂_cons_left_iff]
    constructor
    · rintro ⟨y, first, ok⟩
      obtain ⟨ys', others, ok⟩ := bind_eq_ok.mp ok
      exact ⟨y, ys', first, ih.mp others, (Except.ok.inj ok).symm⟩
    · rintro ⟨y, ys', first, others, rfl⟩
      exact ⟨y, first, bind_eq_ok.mpr ⟨ys', ih.mpr others, rfl⟩⟩

/-- A computation comes to a list of what it comes to on each item. -/
lemma exists_mapM_eq_ok {ε α β : Type} {f : α → Except ε β} {R : α → β → Prop} {xs : List α}
    (each : ∀ x ∈ xs, ∃ y, f x = .ok y ∧ R x y) :
    ∃ ys, xs.mapM f = .ok ys ∧ List.Forall₂ R xs ys := by
  induction xs with
  | nil => exact ⟨[], rfl, .nil⟩
  | cons x rest ih =>
    obtain ⟨⟨y, first, related⟩, others⟩ := List.forall_mem_cons.mp each
    obtain ⟨ys, later, all⟩ := ih others
    refine ⟨y :: ys, ?_, .cons related all⟩
    rw [mapM_eq_ok] at later ⊢
    exact .cons first later

lemma mapM_congr {ε α β : Type} {f g : α → Except ε β} {xs : List α}
    (same : ∀ x ∈ xs, f x = g x) : xs.mapM f = xs.mapM g := by
  induction xs with
  | nil => rfl
  | cons x rest ih =>
    obtain ⟨first, others⟩ := List.forall_mem_cons.mp same
    rw [List.mapM_cons, List.mapM_cons, first, ih others]

/-- Whatever a computation on a list comes to, comes of an item. -/
lemma exists_of_mem_mapM {ε α β : Type} {f : α → Except ε β} {xs : List α} {ys : List β} {y : β}
    (ok : xs.mapM f = .ok ys) (there : y ∈ ys) : ∃ x ∈ xs, f x = .ok y :=
  (mapM_eq_ok.mp ok).exists_of_mem_right there

/-- A test that cannot fail keeps what it accepts. -/
lemma filterM_eq_ok {ε α : Type} (p : α → Bool) (xs : List α) :
    xs.filterM (fun x => (.ok (p x) : Except ε Bool)) = .ok (xs.filter p) := by
  have kept (acc : List α) : xs.filterAuxM (fun x => (.ok (p x) : Except ε Bool)) acc =
      .ok ((xs.filter p).reverse ++ acc) := by
    induction xs generalizing acc with
    | nil => rfl
    | cons x rest ih =>
      have step : (x :: rest).filterAuxM (fun x => (.ok (p x) : Except ε Bool)) acc =
          rest.filterAuxM (fun x => .ok (p x)) (cond (p x) (x :: acc) acc) := rfl
      rw [step, ih]
      cases accepted : p x with
      | true =>
        rw [List.filter_cons_of_pos accepted, List.reverse_cons, List.append_assoc]
        rfl
      | false => rw [List.filter_cons_of_neg (by rw [accepted]; exact Bool.false_ne_true)]; rfl
  rw [List.filterM, kept, List.append_nil]
  exact congrArg Except.ok (List.reverse_reverse _)

/-- Results that agree in what is looked at are faults, or agree in that. -/
lemma eq_or_of_map_eq {ε β γ : Type} {x y : Except ε β} {f : β → γ}
    (same : x.map f = y.map f) :
    (∃ e, x = .error e ∧ y = .error e) ∨ ∃ b c, x = .ok b ∧ y = .ok c ∧ f b = f c := by
  cases x with
  | error e =>
    cases y with
    | error e' => exact .inl ⟨e, rfl, congrArg Except.error (Except.error.inj same).symm⟩
    | ok c => cases same
  | ok b =>
    cases y with
    | error e' => cases same
    | ok c => exact .inr ⟨b, c, rfl, rfl, Except.ok.inj same⟩

/-- What is looked at of chains with one first link is the same if it is of what follows. -/
lemma map_bind_congr {ε β γ δ : Type} {x : Except ε β} {f g : β → Except ε γ} {h : γ → δ}
    (same : ∀ b, x = .ok b → (f b).map h = (g b).map h) : (x >>= f).map h = (x >>= g).map h := by
  cases x with
  | error e => rfl
  | ok b => exact same b rfl

lemma map_bind_congr_of_map_eq {ε β γ δ κ : Type} {x y : Except ε β} {k : β → κ}
    {f g : β → Except ε γ} {h : γ → δ} (alike : x.map k = y.map k)
    (same : ∀ b c, x = .ok b → y = .ok c → (f b).map h = (g c).map h) :
    (x >>= f).map h = (y >>= g).map h := by
  obtain ⟨e, rfl, rfl⟩ | ⟨b, c, rfl, rfl, -⟩ := eq_or_of_map_eq alike
  · rfl
  · exact same b c rfl rfl

lemma map_mapM {ε β γ δ : Type} (f : β → Except ε γ) (g : γ → δ) (xs : List β) :
    (xs.mapM f).map (List.map g) = xs.mapM fun x => (f x).map g := by
  induction xs with
  | nil => rfl
  | cons x rest ih =>
    rw [List.mapM_cons, List.mapM_cons, ← ih]
    cases f x with
    | error e => rfl
    | ok y => cases rest.mapM f <;> rfl

/-- Items that a computation makes nothing of can be left out. -/
lemma reduceOption_mapM_filter {ε β γ : Type} {f : β → Except ε (Option γ)}
    {keep : β → Bool} {xs : List β} (idle : ∀ x ∈ xs, keep x = false → f x = .ok none) :
    ((xs.filter keep).mapM f).map List.reduceOption = (xs.mapM f).map List.reduceOption := by
  induction xs with
  | nil => rfl
  | cons x rest ih =>
    obtain ⟨first, others⟩ := List.forall_mem_cons.mp idle
    have ih := ih others
    cases kept : keep x with
    | true =>
      rw [List.filter_cons_of_pos kept, List.mapM_cons, List.mapM_cons]
      cases f x with
      | error e => rfl
      | ok y =>
        obtain ⟨e, short, long⟩ | ⟨ys, zs, short, long, same⟩ := eq_or_of_map_eq ih
        · rw [short, long]
        · rw [short, long]
          cases y with
          | none => exact congrArg Except.ok same
          | some y => exact congrArg (fun ys => Except.ok (y :: ys)) same
    | false =>
      rw [List.filter_cons_of_neg (by rw [kept]; exact Bool.false_ne_true), ih, List.mapM_cons,
        first kept]
      cases rest.mapM f <;> rfl

end Except

namespace Drafting

/-- Names that are the same only if they are equal, and that can all be looked up. -/
class LawfulName (ν : Type) [Name ν] : Prop where
  same_iff (a b : ν) : Name.same a b = true ↔ a = b
  obstacle?_eq_none (a : ν) : Name.obstacle? a = none

instance : LawfulName String where
  same_iff a b := by simp [Name.same]
  obstacle?_eq_none a := rfl

/-- Comparing lawful names decides whether they are equal. -/
instance {ν : Type} [Name ν] [LawfulName ν] : LawfulBEq ν where
  eq_of_beq {a b} h := (LawfulName.same_iff a b).mp h
  rfl {a} := (LawfulName.same_iff a a).mpr rfl

/-- A name that is a text. -/
def Name.IsText {ν : Type} [Name ν] (name : ν) : Prop := ∃ s, name = ofText s

/-- Names that can be given as values and taken from them again, among which texts are what they
are as values, and differ from each other. -/
class LawfulNamed (ν α : Type) [Name ν] [Named ν α] : Prop where
  ofValue_toValue (name : ν) : Named.ofValue (Named.toValue name : Value α) = some name
  toValue_ofText (s : String) : (Named.toValue (Name.ofText s : ν) : Value α) = .text s
  same_ofText (s t : String) : Name.same (Name.ofText s : ν) (Name.ofText t) = decide (s = t)
  obstacle?_ofText (s : String) : Name.obstacle? (Name.ofText s : ν) = none

instance {α : Type} [Scalar α] : LawfulNamed String α where
  ofValue_toValue _ := rfl
  toValue_ofText _ := rfl
  same_ofText _ _ := rfl
  obstacle?_ofText _ := rfl

instance {α : Type} [Scalar α] : LawfulNamed (Value α) α where
  ofValue_toValue _ := rfl
  toValue_ofText _ := rfl
  same_ofText s t := by
    show Value.same (.text s) (.text t) = _
    rw [Value.same]
    · rfl
    all_goals nofun
  obstacle?_ofText _ := rfl

lemma Name.isText_of_string (name : String) : Name.IsText name := ⟨name, rfl⟩

namespace LawfulNamed

variable {ν : Type} (α : Type) [Name ν] [Named ν α] [LawfulNamed ν α]

/-- A name is read as what it is. -/
lemma read_toValue (name : ν) : Named.read (Named.toValue name : Value α) = .ok name := by
  rw [Named.read, ofValue_toValue]

lemma read_text (s : String) : Named.read (.text s : Value α) = .ok (Name.ofText s : ν) := by
  rw [← toValue_ofText (ν := ν) (α := α) s, read_toValue]

include α

/-- Texts that compare as the same are the same. -/
lemma eq_of_same {a b : ν} (first : Name.IsText a) (second : Name.IsText b)
    (same : (a == b) = true) : a = b := by
  obtain ⟨s, rfl⟩ := first
  obtain ⟨t, rfl⟩ := second
  exact congrArg Name.ofText (of_decide_eq_true ((same_ofText α s t).symm.trans same))

lemma require_of_isText {β : Type} {name : ν} (text : Name.IsText name) :
    (Name.require name : Except (Fault β) Unit) = .ok () := by
  obtain ⟨s, rfl⟩ := text
  rw [Name.require, obstacle?_ofText α]

lemma requireAll_of_isText {β : Type} {names : List ν} (texts : ∀ name ∈ names, Name.IsText name) :
    (Name.requireAll names : Except (Fault β) Unit) = .ok () := by
  induction names with
  | nil => rfl
  | cons name rest ih =>
    obtain ⟨first, others⟩ := List.forall_mem_cons.mp texts
    rw [Name.requireAll, require_of_isText α first]
    exact ih others

end LawfulNamed

namespace Name

variable {ν α : Type} [Name ν] [LawfulName ν]

@[simp] lemma require_eq_ok (name : ν) : (require name : Except (Fault α) Unit) = .ok () := by
  simp [require, LawfulName.obstacle?_eq_none]

@[simp] lemma requireAll_eq_ok (names : List ν) :
    (requireAll names : Except (Fault α) Unit) = .ok () := by
  induction names with
  | nil => rfl
  | cons name rest ih =>
    rw [requireAll, require_eq_ok]
    exact ih

end Name

end Drafting
