import Mathlib.Algebra.Order.Ring.Defs
import Mathlib.Tactic.Linarith
import Mathlib.Tactic.Ring

/-!
# Porter-Duff operators

A pixel covers a part of its area, `alpha`, and its colours are those of the part, multiplied by
`alpha`.  Two pixels that cover their parts independently of each other divide an area in four: the
source alone, the destination alone, both, and none of them.  An operator says in which of the first
three something is seen, and where both are, which of them (`Operator.combine`).

Graphics hardware multiplies each of the two pixels by a factor and adds the products
(`Blend.apply`).  Every operator is the blend with its own two factors
(`Operator.blend_apply`), and keeps pixels valid (`Operator.combine_valid`).
-/

namespace Lib.PorterDuff

variable {ι R : Type*}

/-- The channels of a pixel, each multiplied by `alpha`. -/
@[ext] structure Pixel (ι R : Type*) where
  colour : ι → R
  alpha : R

/-- What is seen where both pixels are. -/
inductive Overlap where
  | neither
  | source
  | destination
  deriving DecidableEq, Repr

structure Operator where
  sourceOnly : Bool
  destinationOnly : Bool
  overlap : Overlap
  deriving DecidableEq, Repr

/-- The factors that depend on nothing but the two values of `alpha`. -/
inductive Factor where
  | zero
  | one
  | sourceAlpha
  | destinationAlpha
  | invSourceAlpha
  | invDestinationAlpha
  deriving DecidableEq, Repr

structure Blend where
  sourceColour : Factor
  destinationColour : Factor
  sourceAlpha : Factor
  destinationAlpha : Factor
  deriving DecidableEq, Repr

/-! ## Operators -/

section Ring

variable [CommRing R]

/-- The share of a value of the source `s` and one of the destination `d` in the three parts of the
area. -/
def Operator.share (op : Operator) (sa da s d : R) : R :=
  (if op.sourceOnly then s * (1 - da) else 0) + (if op.destinationOnly then d * (1 - sa) else 0) +
    match op.overlap with
    | .neither => 0
    | .source => s * da
    | .destination => d * sa

/-- The pixel that is seen. -/
def Operator.combine (op : Operator) (s d : Pixel ι R) : Pixel ι R where
  colour i := op.share s.alpha d.alpha (s.colour i) (d.colour i)
  alpha := op.share s.alpha d.alpha s.alpha d.alpha

/-- The sum of both pixels, which is not one of the operators. -/
def Pixel.add (s d : Pixel ι R) : Pixel ι R where
  colour i := s.colour i + d.colour i
  alpha := s.alpha + d.alpha

/-- The pixel for a colour that has not been multiplied yet. -/
def premultiplied (s : Pixel ι R) : Pixel ι R where
  colour i := s.alpha * s.colour i
  alpha := s.alpha

/-! ## Blending -/

def Factor.value (sa da : R) : Factor → R
  | .zero => 0
  | .one => 1
  | .sourceAlpha => sa
  | .destinationAlpha => da
  | .invSourceAlpha => 1 - sa
  | .invDestinationAlpha => 1 - da

def Blend.apply (b : Blend) (s d : Pixel ι R) : Pixel ι R where
  colour i := s.colour i * b.sourceColour.value s.alpha d.alpha +
    d.colour i * b.destinationColour.value s.alpha d.alpha
  alpha := s.alpha * b.sourceAlpha.value s.alpha d.alpha +
    d.alpha * b.destinationAlpha.value s.alpha d.alpha

/-- The factor of the source. -/
def Operator.sourceFactor (op : Operator) : Factor :=
  if op.sourceOnly then if op.overlap = .source then .one else .invDestinationAlpha
  else if op.overlap = .source then .destinationAlpha else .zero

/-- The factor of the destination. -/
def Operator.destinationFactor (op : Operator) : Factor :=
  if op.destinationOnly then if op.overlap = .destination then .one else .invSourceAlpha
  else if op.overlap = .destination then .sourceAlpha else .zero

theorem Operator.share_eq (op : Operator) (sa da s d : R) :
    op.share sa da s d =
      s * op.sourceFactor.value sa da + d * op.destinationFactor.value sa da := by
  obtain ⟨sourceOnly, destinationOnly, overlap⟩ := op
  cases sourceOnly <;> cases destinationOnly <;> cases overlap <;>
    simp [Operator.share, Operator.sourceFactor, Operator.destinationFactor, Factor.value] <;> ring

theorem Operator.share_zero (op : Operator) (sa da : R) : op.share sa da 0 0 = 0 := by
  rw [op.share_eq, zero_mul, zero_mul, add_zero]

/-- A blend that treats the colours as an operator does, and comes to the same `alpha`. -/
theorem Operator.blend_apply_of_alpha (op : Operator) {b : Blend}
    (hs : b.sourceColour = op.sourceFactor) (hd : b.destinationColour = op.destinationFactor)
    (halpha : ∀ sa da : R, sa * b.sourceAlpha.value sa da + da * b.destinationAlpha.value sa da =
      op.share sa da sa da) (s d : Pixel ι R) : b.apply s d = op.combine s d := by
  ext i
  · exact (hs ▸ hd ▸ op.share_eq _ _ _ _).symm
  · exact halpha _ _

/-- Blending with the factors of an operator is the operator. -/
theorem Operator.blend_apply (op : Operator) {b : Blend} (hs : b.sourceColour = op.sourceFactor)
    (hd : b.destinationColour = op.destinationFactor) (hsa : b.sourceAlpha = op.sourceFactor)
    (hda : b.destinationAlpha = op.destinationFactor) (s d : Pixel ι R) :
    b.apply s d = op.combine s d :=
  op.blend_apply_of_alpha hs hd (fun _ _ => (hsa ▸ hda ▸ op.share_eq _ _ _ _).symm) s d

end Ring

/-! ## Pixels stay valid -/

section Order

variable [CommRing R] [LinearOrder R] [IsStrictOrderedRing R]

/-- The pixel covers a part of its area, and no channel is brighter than that part. -/
structure Pixel.Valid (p : Pixel ι R) : Prop where
  colour_nonneg : ∀ i, 0 ≤ p.colour i
  colour_le : ∀ i, p.colour i ≤ p.alpha
  alpha_nonneg : 0 ≤ p.alpha
  alpha_le_one : p.alpha ≤ 1

theorem Factor.value_nonneg {sa da : R} (hsa : 0 ≤ sa) (hsa' : sa ≤ 1) (hda : 0 ≤ da)
    (hda' : da ≤ 1) (f : Factor) : 0 ≤ f.value sa da := by
  cases f with
  | zero => exact le_rfl
  | one => exact zero_le_one
  | sourceAlpha => exact hsa
  | destinationAlpha => exact hda
  | invSourceAlpha => exact sub_nonneg.mpr hsa'
  | invDestinationAlpha => exact sub_nonneg.mpr hda'

/-- What is seen of two values grows with them. -/
theorem Operator.share_mono (op : Operator) {sa da s d s' d' : R} (hsa : 0 ≤ sa) (hsa' : sa ≤ 1)
    (hda : 0 ≤ da) (hda' : da ≤ 1) (hs : s ≤ s') (hd : d ≤ d') :
    op.share sa da s d ≤ op.share sa da s' d' := by
  have hsource := op.sourceFactor.value_nonneg hsa hsa' hda hda'
  have hdestination := op.destinationFactor.value_nonneg hsa hsa' hda hda'
  rw [op.share_eq, op.share_eq]
  exact add_le_add (mul_le_mul_of_nonneg_right hs hsource)
    (mul_le_mul_of_nonneg_right hd hdestination)

/-- The parts that an operator shows are parts of the whole area. -/
theorem Operator.share_le_one (op : Operator) {sa da : R} (hsa : 0 ≤ sa) (hsa' : sa ≤ 1)
    (hda : 0 ≤ da) (hda' : da ≤ 1) : op.share sa da sa da ≤ 1 := by
  have hboth := mul_nonneg hsa hda
  have hsource := mul_nonneg hsa (sub_nonneg.mpr hda')
  have hdestination := mul_nonneg hda (sub_nonneg.mpr hsa')
  have hnone := mul_nonneg (sub_nonneg.mpr hsa') (sub_nonneg.mpr hda')
  obtain ⟨sourceOnly, destinationOnly, overlap⟩ := op
  cases sourceOnly <;> cases destinationOnly <;> cases overlap <;>
    simp only [Operator.share, if_true, if_false, Bool.false_eq_true] <;> linarith

theorem Operator.combine_valid (op : Operator) {s d : Pixel ι R} (hs : s.Valid) (hd : d.Valid) :
    (op.combine s d).Valid := by
  have hmono {a b a' b' : R} (ha : a ≤ a') (hb : b ≤ b') :=
    op.share_mono hs.alpha_nonneg hs.alpha_le_one hd.alpha_nonneg hd.alpha_le_one ha hb
  have hzero := op.share_zero s.alpha d.alpha
  refine ⟨fun i => ?_, fun i => ?_, ?_, ?_⟩
  · exact hzero ▸ hmono (hs.colour_nonneg i) (hd.colour_nonneg i)
  · exact hmono (hs.colour_le i) (hd.colour_le i)
  · exact hzero ▸ hmono hs.alpha_nonneg hd.alpha_nonneg
  · exact op.share_le_one hs.alpha_nonneg hs.alpha_le_one hd.alpha_nonneg hd.alpha_le_one

theorem premultiplied_valid {s : Pixel ι R} (hcolour : ∀ i, 0 ≤ s.colour i ∧ s.colour i ≤ 1)
    (hnonneg : 0 ≤ s.alpha) (hle : s.alpha ≤ 1) : (premultiplied s).Valid where
  colour_nonneg i := mul_nonneg hnonneg (hcolour i).1
  colour_le i := mul_le_of_le_one_right hnonneg (hcolour i).2
  alpha_nonneg := hnonneg
  alpha_le_one := hle

end Order

end Lib.PorterDuff
