import Drafting.Proofs.Domains

/-!
# The order of scalars

Numbers that are not undefined are ordered, with the infinities at the ends, and so are residuals:
one that is infeasible counts as an upper infinity. The order of doubles is that of their heights
(`Double.lt_iff_height`): by sign, then by exponent, then by mantissa, in reverse below zero. An
undefined number is neither less nor greater than any other, so that not being less is transitive
only where the number in the middle is defined.
-/

namespace Drafting

/-- Scalars of which those that are not undefined are in order. -/
class Scalar.IsOrdered (α : Type) [Scalar α] : Prop where
  asymm {a b : α} : a < b → ¬b < a
  defined {a b : α} : a < b → b ≤ b
  not_lt_trans {a b c : α} : b ≤ b → ¬a < b → ¬b < c → ¬a < c
  not_top_lt {a b : α} : Scalar.isFinite a = false → ¬a < 0 → ¬a < b
  lt_top {a b : α} : Scalar.isFinite a = true → Scalar.isFinite b = false → b ≤ b → ¬b < 0 → a < b
  not_lt_bottom {a b : α} : Scalar.isFinite b = false → b < 0 → ¬a < b
  tenfold {a : α} : 0 ≤ a → ¬a * Gradient.conflictFactor < 0

instance : Scalar.IsOrdered ℝ where
  asymm := lt_asymm
  defined _ := le_rfl
  not_lt_trans _ first second := not_lt.mpr ((not_lt.mp second).trans (not_lt.mp first))
  not_top_lt infinite := absurd infinite Bool.noConfusion
  lt_top _ infinite := absurd infinite Bool.noConfusion
  not_lt_bottom infinite := absurd infinite Bool.noConfusion
  tenfold nonneg := by
    refine not_lt.mpr (mul_nonneg nonneg ?_)
    change (0 : ℝ) ≤ (10.0 : ℝ)
    norm_num

/-! ### Doubles -/

namespace Double

open Float.Model (Format UnpackedFloat)
open Float.Model.UnpackedFloat

/-- Where a double stands in the order of doubles. -/
def height : UnpackedFloat → ℤ ×ₗ ℤ ×ₗ ℤ
  | .notANumber => toLex (0, toLex (0, 0))
  | .infinity .negative => toLex (-2, toLex (0, 0))
  | .finite .negative m e _ => toLex (-1, toLex (-e, -m))
  | .zero _ => toLex (0, toLex (0, 0))
  | .finite .positive m e _ => toLex (1, toLex (e, m))
  | .infinity .positive => toLex (2, toLex (0, 0))

/-- Of doubles that are defined, the one that is less stands lower. -/
lemma lt_iff_height {u v : UnpackedFloat} :
    u.lt v = true ↔ u ≠ .notANumber ∧ v ≠ .notANumber ∧ height u < height v := by
  have signs : compare Sign.negative Sign.positive = .lt := rfl
  -- of finite doubles of one sign, the exponents decide, and then the mantissas
  cases u <;> cases v <;> (try cases ‹Sign›) <;> (try cases ‹Sign›) <;>
    simp [UnpackedFloat.lt, UnpackedFloat.compare, height, Prod.Lex.toLex_lt_toLex, signs,
      Ordering.then_eq_lt, Ordering.then_eq_gt, compare_lt_iff_lt, compare_gt_iff_gt]

lemma le_self_iff {u : UnpackedFloat} : u.le u = true ↔ u ≠ .notANumber := by
  cases u with
  | notANumber => exact iff_of_false Bool.false_ne_true fun defined => defined rfl
  | infinity s => cases s <;> exact iff_of_true rfl nofun
  | zero s => exact iff_of_true rfl nofun
  | finite s m e pos => cases s <;> simp [UnpackedFloat.le, UnpackedFloat.compare]

/-- Only through a double that is defined is not being less transitive. -/
lemma not_lt_trans {u v w : UnpackedFloat} (defined : v ≠ .notANumber) (first : ¬u.lt v = true)
    (second : ¬v.lt w = true) : ¬u.lt w = true := by
  rw [lt_iff_height] at first second ⊢
  rintro ⟨left, right, less⟩
  have above : height v ≤ height u := not_lt.mp fun less => first ⟨left, defined, less⟩
  have above' : height w ≤ height v := not_lt.mp fun less => second ⟨defined, right, less⟩
  exact absurd less (not_lt.mpr (above'.trans above))

lemma not_top_lt {u v : UnpackedFloat} (infinite : u.isFinite = false)
    (above : ¬u.lt (.zero .positive) = true) : ¬u.lt v = true := by
  cases u with
  | notANumber => exact Bool.false_ne_true
  | infinity s =>
    cases s with
    | negative => exact absurd rfl above
    | positive => cases v <;> (try cases ‹Sign›) <;> exact Bool.false_ne_true
  | zero | finite => cases infinite

lemma lt_top {u v : UnpackedFloat} (finite : u.isFinite = true) (infinite : v.isFinite = false)
    (defined : v ≠ .notANumber) (above : ¬v.lt (.zero .positive) = true) : u.lt v = true := by
  cases v with
  | notANumber => exact absurd rfl defined
  | infinity s =>
    cases s with
    | negative => exact absurd rfl above
    | positive => cases u <;> first | rfl | cases finite
  | zero | finite => cases infinite

lemma not_lt_bottom {u v : UnpackedFloat} (infinite : v.isFinite = false)
    (below : v.lt (.zero .positive) = true) : ¬u.lt v = true := by
  cases v with
  | notANumber => cases below
  | infinity s =>
    cases s with
    | negative => cases u <;> (try cases ‹Sign›) <;> exact Bool.false_ne_true
    | positive => cases below
  | zero | finite => cases infinite

lemma not_lt_zero_of_le {x : Float} (nonneg : 0 ≤ x) : ¬x < 0 := by
  have zero : parts 0 = .zero .positive := rfl
  rw [le_iff, zero] at nonneg
  rw [lt_iff, zero]
  generalize parts x = u at nonneg ⊢
  cases u with
  | notANumber => cases nonneg
  | infinity s | finite s => cases s <;> first | exact Bool.false_ne_true | cases nonneg
  | zero => exact Bool.false_ne_true

/-- A number that is not below zero is not below zero a positive number of times over. -/
lemma NotBelow.mul {u v : UnpackedFloat} (first : NotBelow u) (second : IsUnsigned v) :
    NotBelow (UnpackedFloat.mul .binary64 u v) := by
  cases first with
  | negativeZero => cases second <;> first | exact .negativeZero | exact .unsigned .notANumber
  | unsigned unsigned => exact .unsigned (unsigned.mul second)

end Double

instance : Scalar.IsOrdered Float where
  asymm less less' := by
    rw [Double.lt_iff, Double.lt_iff_height] at less less'
    exact lt_asymm less.2.2 less'.2.2
  defined less := by
    rw [Double.lt_iff, Double.lt_iff_height] at less
    exact (Double.le_iff _ _).mpr (Double.le_self_iff.mpr less.2.1)
  not_lt_trans defined := by
    rw [Double.le_iff, Double.le_self_iff] at defined
    simp only [Double.lt_iff]
    exact Double.not_lt_trans defined
  not_top_lt infinite := by
    simp only [Double.lt_iff]
    exact Double.not_top_lt infinite
  lt_top finite infinite defined := by
    rw [Double.le_iff, Double.le_self_iff] at defined
    simp only [Double.lt_iff]
    exact Double.lt_top finite infinite defined
  not_lt_bottom infinite := by
    simp only [Double.lt_iff]
    exact Double.not_lt_bottom infinite
  tenfold nonneg := by
    have factor : Double.parts Gradient.conflictFactor =
        .finite .positive 5629499534213120 (-49) (by decide) := rfl
    have positive : Double.IsUnsigned (Double.parts Gradient.conflictFactor) := by
      rw [factor]
      exact .finite ..
    have above := (Double.not_lt_zero_iff _).mp (Double.not_lt_zero_of_le nonneg)
    exact (above.mul positive).ofParts

/-! ### Residuals -/

namespace Residual

variable {α : Type} [Scalar α]

/-- A residual that can be compared with others: it is infeasible, or a number that is not
undefined. -/
def IsDefined : Residual α → Prop
  | infeasible => True
  | measured x => x ≤ x

lemma finite?_eq_none_iff {x : α} : (measured x).finite? = none ↔ Scalar.isFinite x = false := by
  rw [finite?]
  cases Scalar.isFinite x <;> simp

variable [Scalar.IsOrdered α] {r s t : Residual α} {bound : α}

/-- Only what is defined exceeds anything. -/
lemma isDefined_of_exceeds (exceeds : r.exceeds bound = true) : r.IsDefined := by
  cases r with
  | infeasible => trivial
  | measured x => exact Scalar.IsOrdered.defined (of_decide_eq_true exceeds)

lemma isLess_asymm (less : r.isLess s = true) : s.isLess r = false := by
  cases r with
  | infeasible => cases less
  | measured x =>
    cases s with
    | infeasible => rfl
    | measured y => exact decide_eq_false (Scalar.IsOrdered.asymm (of_decide_eq_true less))

/-- Not being less is transitive through what is defined. -/
lemma isLess_eq_false_trans (defined : s.IsDefined) (first : r.isLess s = false)
    (second : s.isLess t = false) : r.isLess t = false := by
  cases r with
  | infeasible => rfl
  | measured x =>
    cases t with
    | infeasible =>
      cases s with
      | infeasible => exact first
      | measured y =>
        -- the number in the middle is the upper infinity, so the other is
        rw [isLess, decide_eq_false_iff_not] at first
        rw [isLess, Bool.or_eq_false_iff, decide_eq_false_iff_not] at second ⊢
        constructor
        · rw [← Bool.not_eq_true]
          exact fun finite => first (Scalar.IsOrdered.lt_top finite second.1 defined second.2)
        · exact Scalar.IsOrdered.not_lt_trans defined first second.2
    | measured z =>
      rw [isLess, decide_eq_false_iff_not]
      cases s with
      | infeasible =>
        rw [isLess, Bool.or_eq_false_iff, decide_eq_false_iff_not] at first
        exact Scalar.IsOrdered.not_top_lt first.1 first.2
      | measured y =>
        rw [isLess, decide_eq_false_iff_not] at first second
        exact Scalar.IsOrdered.not_lt_trans defined first second

lemma not_isLess_total (r s : Residual α) : (!r.isLess s || !s.isLess r) = true := by
  cases less : r.isLess s with
  | false => rfl
  | true => rw [isLess_asymm less]; rfl

lemma not_isLess_trans (defined : s.IsDefined) (first : (!r.isLess s) = true)
    (second : (!s.isLess t) = true) : (!r.isLess t) = true := by
  rw [Bool.not_eq_true'] at first second ⊢
  exact isLess_eq_false_trans defined first second

/-- What is not less than a residual that exceeds something and is not finite is not finite
either. -/
lemma finite?_eq_none_of_not_isLess (exceeds : s.exceeds bound = true) (infinite : s.finite? = none)
    (above : r.isLess s = false) : r.finite? = none := by
  have defined := isDefined_of_exceeds exceeds
  cases r with
  | infeasible => rfl
  | measured x =>
    rw [finite?_eq_none_iff]
    cases s with
    | infeasible =>
      rw [isLess, Bool.or_eq_false_iff] at above
      exact above.1
    | measured y =>
      rw [isLess, decide_eq_false_iff_not] at above
      rw [finite?_eq_none_iff] at infinite
      rw [← Bool.not_eq_true]
      -- what exceeds something is not the lower infinity, so it is the upper one
      refine fun finite => above (Scalar.IsOrdered.lt_top finite infinite defined fun below => ?_)
      exact Scalar.IsOrdered.not_lt_bottom infinite below (of_decide_eq_true exceeds)

end Residual

end Drafting
