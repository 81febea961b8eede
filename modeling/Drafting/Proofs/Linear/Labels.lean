import Drafting.Linear.Reading
import Drafting.Proofs.Naming
import Mathlib.Data.Set.List

/-!
# Labels of redundant rows

An analysis labels the rows that are redundant, and notes each label once. Texts can always be
noted, so that an analysis whose labels are texts comes to an end, with a rank that has nothing to
do with them (`extent_analyzeRows`), and with the labels of the redundant rows in the order in which
they come first (`analyzeRows_eq_ok`).
-/

namespace Drafting

/-- A value that is a text. -/
def Value.IsText {α : Type} (v : Value α) : Prop := ∃ s, v = .text s

namespace Linear

variable {α : Type} [Scalar α]

/-! ### Labels that are noted -/

/-- Texts can be told apart. -/
lemma isAmong_text (noted : List String) (s : String) :
    (Value.text s : Value α).isAmong (noted.map .text) = .ok (noted.contains s) := by
  induction noted with
  | nil => rfl
  | cons t rest ih =>
    have compared : (Value.text t : Value α).isEqual (.text s) = .ok (t == s) := by
      simp [Value.isEqual, Value.isArray, Value.isVoid, Value.same, Value.sameSingle, Value.bare,
        Value.sameBare]
    rw [List.map_cons, Value.isAmong, compared, ih, List.contains_cons, BEq.comm (a := s)]
    cases t == s <;> rfl

lemma addLabel_text (noted : List String) (s : String) :
    addLabel (noted.map .text) (.text s : Value α) = .ok ((noteOnce noted s).map .text) := by
  rw [addLabel, isAmong_text, noteOnce]
  show Except.ok _ = _
  split
  · rfl
  · rw [List.map_append]
    rfl

/-- Texts are noted in the order in which they come first. -/
lemma foldlM_addLabel_text (labels noted : List String) :
    (labels.map Value.text).foldlM addLabel (noted.map Value.text : List (Value α)) =
      .ok ((labels.foldl noteOnce noted).map .text) := by
  induction labels generalizing noted with
  | nil => rfl
  | cons s rest ih =>
    rw [List.map_cons, List.foldlM_cons, addLabel_text]
    exact ih _

lemma foldl_noteOnce (labels : List String) : labels.foldl noteOnce [] = labels.eraseDups := by
  induction labels using List.reverseRecOn with
  | nil => rfl
  | append_singleton labels s ih =>
    rw [List.foldl_append, ih, List.foldl_cons, List.foldl_nil, eraseDups_concat, noteOnce]
    simp only [List.contains_iff_mem]

/-! ### Analyses with labels -/

/-- What an analysis tells, but for the labels of redundant rows. -/
def Analysis.extent {ι : Type} (a : Analysis ι) : ℕ × ℕ × ℕ × ℕ :=
  (a.rows, a.columns, a.rank, a.freedom)

omit [Scalar α] in
lemma mapM_label {label : ℕ → Except (Fault α) (Value α)} {names : ℕ → String}
    {redundant : List ℕ}
    (named : ∀ index ∈ redundant, label index = .ok (.text (names index))) :
    redundant.mapM label = .ok ((redundant.map names).map .text) := by
  rw [Except.mapM_eq_ok, List.map_map, List.forall₂_map_right_iff, List.forall₂_same]
  exact named

lemma foldlM_addLabel_eraseDups (labels : List String) :
    (labels.map .text).foldlM addLabel ([] : List (Value α)) =
      .ok (labels.eraseDups.map .text) := by
  rw [← foldl_noteOnce]
  exact foldlM_addLabel_text labels []

variable {fit : Fit α ℕ} {tolerance : α} {matrix : List (List α)}

/-- An analysis notes the labels of the rows that its survey has found redundant. -/
lemma analyzeRows_eq_ok {label : ℕ → Except (Fault α) (Value α)} {names : ℕ → String}
    {s : Survey α ℕ} (surveyed : survey tolerance fit id matrix = .ok s)
    (named : ∀ index ∈ s.redundant, label index = .ok (.text (names index))) (columns : ℕ) :
    analyzeRows fit tolerance label columns matrix =
      .ok ⟨matrix.length, columns, s.kept.length,
        (s.redundant.map names).eraseDups.map .text⟩ := by
  simp only [analyzeRows, surveyRows, surveyed, mapM_label named, bind, Except.bind]
  rw [foldlM_addLabel_eraseDups]
  rfl

/-- A text is the label of a row, or stands for its index. -/
lemma labelAt_texts (names : List String) (index : ℕ) :
    labelAt (.list (names.map .text) : Value α) index =
      .ok (.text (names.getD index ("row" ++ toString index))) := by
  show Except.ok ((names.map Value.text)[index]?.getD _) = _
  rw [List.getElem?_map, List.getD_eq_getElem?_getD]
  cases names[index]? <;> rfl

/-- The rank of rows whose labels are texts has nothing to do with the labels. -/
lemma extent_analyzeRows {labels : List (Value α)} (texts : ∀ label ∈ labels, label.IsText)
    (columns : ℕ) :
    (analyzeRows fit tolerance (labelAt (.list labels)) columns matrix).map Analysis.extent =
      match survey tolerance fit id matrix with
      | .ok s => .ok (s.analysis matrix.length columns).extent
      | .error _ => .error .notFinite := by
  obtain ⟨names, rfl⟩ : labels ∈ Set.range (List.map Value.text) := by
    rw [Set.range_list_map]
    exact fun label there => (texts label there).imp fun _ => Eq.symm
  cases surveyed : survey tolerance fit id matrix with
  | ok s =>
    rw [analyzeRows_eq_ok surveyed fun index _ => labelAt_texts names index]
    rfl
  | error s =>
    simp only [analyzeRows, surveyRows, surveyed,
      mapM_label fun index _ => labelAt_texts names index, bind, Except.bind]
    rw [foldlM_addLabel_eraseDups]
    rfl

end Linear

end Drafting
