import Drafting.Json.Parser
import Drafting.Proofs.Reading

/-!
# What is read from JSON

A text that is read as JSON gives data: nothing, marks, numbers and texts, in lists and records
(`Json.isJson_of_read`).
-/

namespace Drafting

namespace Json

variable {β γ : Type}

/-- That what is read has a property, if anything is read. -/
def Reads (R : β → Prop) (x : Except Stop (β × List Char)) : Prop :=
  ∀ found rest, x = .ok (found, rest) → R found

section

variable {R : β → Prop}

lemma reads_ok {found : β} (property : R found) (rest : List Char) :
    Reads R (.ok (found, rest)) := by
  rintro _ _ ⟨⟩
  exact property

lemma reads_error (failure : Stop) : Reads R (.error failure) := nofun

lemma Reads.bind {S : γ → Prop} {x : Except Stop (β × List Char)}
    {f : β × List Char → Except Stop (γ × List Char)} (first : Reads R x)
    (rest : ∀ found left, R found → Reads S (f (found, left))) : Reads S (x >>= f) := by
  cases x with
  | error failure => exact reads_error failure
  | ok pair => exact rest pair.1 pair.2 (first _ _ rfl)

end

lemma reads_number (start cs : List Char) (negative : Bool) :
    Reads (Value.IsJson Any) (number start cs negative) := by
  rw [number]
  split
  · exact reads_error _
  · dsimp only
    split
    · split
      · exact reads_error _
      · exact reads_ok (.int True.intro) _
    · exact reads_ok (.real _) _

lemma reads_atom (cs : List Char) : Reads (Value.IsJson Any) (atom cs) := by
  unfold atom
  split
  · exact reads_ok .null _
  · exact reads_ok (.flag true) _
  · exact reads_ok (.flag false) _
  · exact reads_ok (.real _) _
  · exact reads_ok (.real _) _
  · exact reads_ok (.real _) _
  · exact reads_number _ _ true
  · exact reads_number _ _ false

/-- With so much fuel, what is read is data, and so are its items and fields. -/
structure ReadsData (fuel : ℕ) : Prop where
  value : ∀ depth cs, Reads (Value.IsJson Any) (value fuel depth cs)
  elements : ∀ depth acc cs, (∀ item ∈ acc, item.IsJson Any) →
    Reads (fun items => ∀ item ∈ items, item.IsJson Any) (elements fuel depth acc cs)
  members : ∀ depth acc cs, AreJson Any acc → Reads (AreJson Any) (members fuel depth acc cs)

namespace ReadsData

variable {fuel : ℕ} (reads : ReadsData fuel)

include reads

lemma succ_value (depth : ℕ) (cs : List Char) :
    Reads (Value.IsJson Any) (Json.value (fuel + 1) depth cs) := by
  unfold Json.value
  split
  · refine Reads.bind (R := Any) (fun _ _ _ => trivial) fun s rest _ => ?_
    exact reads_ok (.text s) rest
  · split
    · exact reads_error _
    · split
      · exact reads_ok (.record (absurd rfl) (List.forall_mem_nil _)) _
      · refine (reads.members _ [] _ (List.forall_mem_nil _)).bind fun fields rest json => ?_
        exact reads_ok (.record (fun _ => trivial) json) rest
  · split
    · exact reads_error _
    · split
      · exact reads_ok (.list (absurd rfl) (List.forall_mem_nil _)) _
      · refine (reads.elements _ [] _ (List.forall_mem_nil _)).bind fun items rest json => ?_
        exact reads_ok (.list (fun _ => trivial) json) rest
  · exact reads_atom cs

lemma succ_elements (depth : ℕ) (acc : List (Value Float)) (cs : List Char)
    (json : ∀ item ∈ acc, item.IsJson Any) :
    Reads (fun items => ∀ item ∈ items, item.IsJson Any)
      (Json.elements (fuel + 1) depth acc cs) := by
  unfold Json.elements
  refine (reads.value depth cs).bind fun item rest own => ?_
  have more : ∀ found ∈ item :: acc, found.IsJson Any := List.forall_mem_cons.mpr ⟨own, json⟩
  dsimp only
  split
  · refine reads_ok (fun found there => ?_) _
    exact more found (List.mem_reverse.mp there)
  · exact reads.elements depth _ _ more
  · exact reads_error _

lemma succ_members (depth : ℕ) (acc : List (String × Value Float)) (cs : List Char)
    (json : AreJson Any acc) : Reads (AreJson Any) (Json.members (fuel + 1) depth acc cs) := by
  unfold Json.members
  split
  · refine Reads.bind (R := Any) (fun _ _ _ => trivial) fun name rest _ => ?_
    dsimp only
    split
    · refine (reads.value depth _).bind fun item rest own => ?_
      have more : AreJson Any (Assoc.set name item acc) :=
        Assoc.forall_mem_set json own fun _ _ => own
      dsimp only
      split
      · exact reads_ok more _
      · exact reads.members depth _ _ more
      · exact reads_error _
    · exact reads_error _
  · exact reads_error _

end ReadsData

lemma readsData (fuel : ℕ) : ReadsData fuel := by
  induction fuel with
  | zero =>
    exact ⟨fun _ _ => reads_error _, fun _ _ _ _ => reads_error _, fun _ _ _ _ => reads_error _⟩
  | succ fuel reads => exact ⟨reads.succ_value, reads.succ_elements, reads.succ_members⟩

/-- What is read from a text is data. -/
theorem isJson_of_read {s : String} {v : Value Float} (ok : read s = .ok v) : v.IsJson Any := by
  replace ok := Except.mapError_eq_ok.mp ok
  unfold document at ok
  split at ok
  · cases ok
  · obtain ⟨⟨found, rest⟩, got, ok⟩ := Except.bind_eq_ok.mp ok
    have json : found.IsJson Any := (readsData _).value _ _ _ _ got
    dsimp only at ok
    split at ok
    · cases ok
      exact json
    · cases ok

end Json

end Drafting
