import Mathlib.Data.UInt
import VirtIOGPU.Lib.PorterDuff
import VirtIOGPU.Virgl.Decoding

/-!
# The blend objects of the operators

`pd_factors` has a row of blend factors for every operator of graphics.library up to `Plus`, and
`comp_blend_rt` makes a word of the host's format of it.  The argument has two halves.

```text
  row of pd_factors  --comp_blend_rt-->  word  --the host-->  blend     readBlend_pdFactors
  blend              --applied to two pixels-->  the operator           blend_apply_iff
```

The first half is about the fields of a word: a factor has five bits, and every field is read back
as it was written (`readRt_compBlendRt`).

The second half is about pixels, and needs a convention about their colours.  Here it is the one of
the theory for all operators alike: the colours of both pixels have been multiplied by `alpha`.
With it twelve of the thirteen rows are their operators.  The row of `SrcOverDest` multiplies the
colours of the source by `alpha` itself, as if they were straight, and so is its operator exactly
for those sources that another multiplication leaves alone, the opaque ones for instance
(`pd_factors_correct`).
-/

namespace VirtIOGPU.Compositing

open Lib.PorterDuff
open Virgl (bitsOf)

/-! ## The words -/

def pipeBlendAdd : UInt32 := 0

def pipeBlendfactorOne : UInt8 := 0x01
def pipeBlendfactorSrcAlpha : UInt8 := 0x03
def pipeBlendfactorDstAlpha : UInt8 := 0x04
def pipeBlendfactorZero : UInt8 := 0x11
def pipeBlendfactorInvSrcAlpha : UInt8 := 0x13
def pipeBlendfactorInvDstAlpha : UInt8 := 0x14

/-- The factors of a row: for the colours of source and destination, and for `alpha` of both. -/
structure FactorRow where
  srcRgb : UInt8
  dstRgb : UInt8
  srcA : UInt8
  dstA : UInt8
  deriving DecidableEq, Repr

/-- A field of a word: `VIRGL_BLEND_RT_*`, `VIRGL_RS_S0_*` and `VIRGL_SAMPLER_S0_*`. -/
def wordField (x mask shift : UInt32) : UInt32 := (x &&& mask) <<< shift

/-- `comp_blend_rt`. -/
def compBlendRt (srcRgb dstRgb srcA dstA : UInt32) : UInt32 :=
  wordField 1 0x1 0 ||| wordField pipeBlendAdd 0x7 1 ||| wordField srcRgb 0x1f 4 |||
    wordField dstRgb 0x1f 9 ||| wordField pipeBlendAdd 0x7 14 ||| wordField srcA 0x1f 17 |||
    wordField dstA 0x1f 22 ||| wordField 0xF 0xf 27

def FactorRow.rt (row : FactorRow) : UInt32 :=
  compBlendRt row.srcRgb.toUInt32 row.dstRgb.toUInt32 row.srcA.toUInt32 row.dstA.toUInt32

/-- `pd_factors`. -/
def pdFactors : List FactorRow :=
  let one := pipeBlendfactorOne
  let zero := pipeBlendfactorZero
  let src := pipeBlendfactorSrcAlpha
  let dst := pipeBlendfactorDstAlpha
  let invSrc := pipeBlendfactorInvSrcAlpha
  let invDst := pipeBlendfactorInvDstAlpha
  [⟨zero, zero, zero, zero⟩,
    ⟨one, zero, one, zero⟩,
    ⟨zero, one, zero, one⟩,
    ⟨src, invSrc, one, invSrc⟩,
    ⟨invDst, one, invDst, one⟩,
    ⟨dst, zero, dst, zero⟩,
    ⟨zero, src, zero, src⟩,
    ⟨invDst, zero, invDst, zero⟩,
    ⟨zero, invSrc, zero, invSrc⟩,
    ⟨dst, invSrc, zero, one⟩,
    ⟨invDst, src, one, zero⟩,
    ⟨invDst, invSrc, invDst, invSrc⟩,
    ⟨one, one, one, one⟩]

/-! ## Reading a word -/

/-- The fields of a render target's word. -/
structure RenderTarget where
  blendEnable : Bool
  rgbFunc : UInt32
  rgbSrcFactor : UInt32
  rgbDstFactor : UInt32
  alphaFunc : UInt32
  alphaSrcFactor : UInt32
  alphaDstFactor : UInt32
  colormask : UInt32
  deriving DecidableEq, Repr

def readRt (w : UInt32) : RenderTarget where
  blendEnable := bitsOf w 0 1 == 1
  rgbFunc := bitsOf w 1 3
  rgbSrcFactor := bitsOf w 4 5
  rgbDstFactor := bitsOf w 9 5
  alphaFunc := bitsOf w 14 3
  alphaSrcFactor := bitsOf w 17 5
  alphaDstFactor := bitsOf w 22 5
  colormask := bitsOf w 27 4

/-- `PIPE_BLENDFACTOR_*`, as far as the factors depend on `alpha` alone. -/
def readFactor (code : UInt32) : Option Factor :=
  match code with
  | 0x01 => some .one
  | 0x03 => some .sourceAlpha
  | 0x04 => some .destinationAlpha
  | 0x11 => some .zero
  | 0x13 => some .invSourceAlpha
  | 0x14 => some .invDestinationAlpha
  | _ => none

/-- The blend of a word: both products are added, and all channels are written. -/
def readBlend (w : UInt32) : Option Blend := do
  let rt := readRt w
  guard (rt.blendEnable = true ∧ rt.rgbFunc = pipeBlendAdd ∧ rt.alphaFunc = pipeBlendAdd ∧
    rt.colormask = 0xF)
  return ⟨← readFactor rt.rgbSrcFactor, ← readFactor rt.rgbDstFactor,
    ← readFactor rt.alphaSrcFactor, ← readFactor rt.alphaDstFactor⟩

/-! ## The operators -/

/-- `enPDOperator`, up to the operators that the host cannot blend. -/
inductive PDOperator where
  | clear
  | src
  | dest
  | srcOverDest
  | destOverSrc
  | srcInDest
  | destInSrc
  | srcOutDest
  | destOutSrc
  | srcAtopDest
  | destAtopSrc
  | srcXorDest
  | plus
  deriving DecidableEq, Repr

def PDOperator.code : PDOperator → ℕ
  | .clear => 0
  | .src => 1
  | .dest => 2
  | .srcOverDest => 3
  | .destOverSrc => 4
  | .srcInDest => 5
  | .destInSrc => 6
  | .srcOutDest => 7
  | .destOutSrc => 8
  | .srcAtopDest => 9
  | .destAtopSrc => 10
  | .srcXorDest => 11
  | .plus => 12

/-- Where the operator shows which pixel; `Plus` is none of the operators of the theory. -/
def PDOperator.shows : PDOperator → Option Operator
  | .clear => some ⟨false, false, .neither⟩
  | .src => some ⟨true, false, .source⟩
  | .dest => some ⟨false, true, .destination⟩
  | .srcOverDest => some ⟨true, true, .source⟩
  | .destOverSrc => some ⟨true, true, .destination⟩
  | .srcInDest => some ⟨false, false, .source⟩
  | .destInSrc => some ⟨false, false, .destination⟩
  | .srcOutDest => some ⟨true, false, .neither⟩
  | .destOutSrc => some ⟨false, true, .neither⟩
  | .srcAtopDest => some ⟨false, true, .source⟩
  | .destAtopSrc => some ⟨true, false, .destination⟩
  | .srcXorDest => some ⟨true, true, .neither⟩
  | .plus => none

/-- What the operator makes of two pixels, the colours of both multiplied by `alpha`. -/
def PDOperator.result {ι R : Type*} [CommRing R] (op : PDOperator) (s d : Pixel ι R) : Pixel ι R :=
  match op.shows with
  | none => s.add d
  | some shown => shown.combine s d

/-- The colours are the same after another multiplication by `alpha`. -/
def KeptByAlpha {ι R : Type*} [CommRing R] (s : Pixel ι R) : Prop :=
  ∀ i, s.alpha * s.colour i = s.colour i

/-! ## The fields of a word -/

section

variable {a b c d : UInt32}

theorem toNat_wordField {x mask : UInt32} {n : ℕ} (hmask : mask.toNat = 2 ^ n - 1)
    (hx : x.toNat < 2 ^ n) : (x &&& mask).toNat = x.toNat := by
  rw [UInt32.toNat_and, hmask, Nat.and_two_pow_sub_one_eq_mod, Nat.mod_eq_of_lt hx]

/-- The factors lie beside each other. -/
theorem toNat_compBlendRt (ha : a.toNat < 32) (hb : b.toNat < 32) (hc : c.toNat < 32)
    (hd : d.toNat < 32) :
    (compBlendRt a b c d).toNat = 15 * 2 ^ 27 + (d.toNat * 2 ^ 22 + (c.toNat * 2 ^ 17 +
      (b.toNat * 2 ^ 9 + (a.toNat * 2 ^ 4 + 1)))) := by
  have hfield {x : UInt32} (hx : x.toNat < 32) : (x &&& 0x1f).toNat = x.toNat :=
    toNat_wordField (n := 5) rfl hx
  have hstep (low high s : UInt32) (k : ℕ) {l h : ℕ} (hs : s.toNat = k) (hk : k < 32)
      (hl : low.toNat = l) (hh : high.toNat = h) (hlow : l < 2 ^ k) (hhigh : h * 2 ^ k < 2 ^ 32) :
      (low ||| (high <<< s)).toNat = h * 2 ^ k + l := by
    subst hl hh hs
    exact Virgl.toNat_or_shiftLeft low high s hk hlow hhigh
  have hfirst : (wordField 1 0x1 0 ||| wordField pipeBlendAdd 0x7 1).toNat = 1 := by decide
  have hadd : (pipeBlendAdd &&& 0x7).toNat = 0 := by decide
  have hall : ((0xF : UInt32) &&& 0xf).toNat = 15 := by decide
  have hrgbSrc := hstep _ _ 4 4 rfl (by decide) hfirst (hfield ha) (by omega) (by omega)
  have hrgbDst := hstep _ _ 9 9 rfl (by decide) hrgbSrc (hfield hb) (by omega) (by omega)
  have halphaFunc := hstep _ _ 14 14 rfl (by decide) hrgbDst hadd (by omega) (by decide)
  rw [Nat.zero_mul, Nat.zero_add] at halphaFunc
  have halphaSrc := hstep _ _ 17 17 rfl (by decide) halphaFunc (hfield hc) (by omega) (by omega)
  have halphaDst := hstep _ _ 22 22 rfl (by decide) halphaSrc (hfield hd) (by omega) (by omega)
  exact hstep _ _ 27 27 rfl (by decide) halphaDst hall (by omega) (by decide)

/-- A host reads what has been written. -/
theorem readRt_compBlendRt (ha : a.toNat < 32) (hb : b.toNat < 32) (hc : c.toNat < 32)
    (hd : d.toNat < 32) :
    readRt (compBlendRt a b c d) = ⟨true, pipeBlendAdd, a, b, pipeBlendAdd, c, d, 0xF⟩ := by
  have hword := toNat_compBlendRt ha hb hc hd
  generalize compBlendRt a b c d = w at *
  have henable : bitsOf w 0 1 = 1 := Virgl.bitsOf_eq (by rw [hword]; change _ = 1; omega)
  have hrgbFunc : bitsOf w 1 3 = pipeBlendAdd :=
    Virgl.bitsOf_eq (by rw [hword]; change _ = 0; omega)
  have hrgbSrc : bitsOf w 4 5 = a := Virgl.bitsOf_eq (by rw [hword]; omega)
  have hrgbDst : bitsOf w 9 5 = b := Virgl.bitsOf_eq (by rw [hword]; omega)
  have halphaFunc : bitsOf w 14 3 = pipeBlendAdd :=
    Virgl.bitsOf_eq (by rw [hword]; change _ = 0; omega)
  have halphaSrc : bitsOf w 17 5 = c := Virgl.bitsOf_eq (by rw [hword]; omega)
  have halphaDst : bitsOf w 22 5 = d := Virgl.bitsOf_eq (by rw [hword]; omega)
  have hmask : bitsOf w 27 4 = 0xF := Virgl.bitsOf_eq (by rw [hword]; change _ = 15; omega)
  rw [readRt, henable, hrgbFunc, hrgbSrc, hrgbDst, halphaFunc, halphaSrc, halphaDst, hmask]
  rfl

end

/-! ## The table -/

/-- The blend that a host reads for a row. -/
def FactorRow.blend (row : FactorRow) : Option Blend := do
  return ⟨← readFactor row.srcRgb.toUInt32, ← readFactor row.dstRgb.toUInt32,
    ← readFactor row.srcA.toUInt32, ← readFactor row.dstA.toUInt32⟩

theorem readBlend_rt {row : FactorRow} (hsrc : row.srcRgb < 32) (hdst : row.dstRgb < 32)
    (hsrcA : row.srcA < 32) (hdstA : row.dstA < 32) : readBlend row.rt = row.blend := by
  have hfield {v : UInt8} (hv : v < 32) : v.toUInt32.toNat < 32 := by
    rw [UInt8.toNat_toUInt32]
    exact UInt8.lt_iff_toNat_lt.mp hv
  unfold readBlend FactorRow.rt
  rw [readRt_compBlendRt (hfield hsrc) (hfield hdst) (hfield hsrcA) (hfield hdstA)]
  rfl

/-- Every factor of the table fits its field. -/
theorem pdFactors_fit : ∀ row ∈ pdFactors,
    row.srcRgb < 32 ∧ row.dstRgb < 32 ∧ row.srcA < 32 ∧ row.dstA < 32 := by
  decide

/-- The blend of an operator. -/
def PDOperator.blend : PDOperator → Blend
  | .clear => ⟨.zero, .zero, .zero, .zero⟩
  | .src => ⟨.one, .zero, .one, .zero⟩
  | .dest => ⟨.zero, .one, .zero, .one⟩
  | .srcOverDest => ⟨.sourceAlpha, .invSourceAlpha, .one, .invSourceAlpha⟩
  | .destOverSrc => ⟨.invDestinationAlpha, .one, .invDestinationAlpha, .one⟩
  | .srcInDest => ⟨.destinationAlpha, .zero, .destinationAlpha, .zero⟩
  | .destInSrc => ⟨.zero, .sourceAlpha, .zero, .sourceAlpha⟩
  | .srcOutDest => ⟨.invDestinationAlpha, .zero, .invDestinationAlpha, .zero⟩
  | .destOutSrc => ⟨.zero, .invSourceAlpha, .zero, .invSourceAlpha⟩
  | .srcAtopDest => ⟨.destinationAlpha, .invSourceAlpha, .zero, .one⟩
  | .destAtopSrc => ⟨.invDestinationAlpha, .sourceAlpha, .one, .zero⟩
  | .srcXorDest =>
      ⟨.invDestinationAlpha, .invSourceAlpha, .invDestinationAlpha, .invSourceAlpha⟩
  | .plus => ⟨.one, .one, .one, .one⟩

theorem readBlend_pdFactors (op : PDOperator) :
    ∃ row, pdFactors[op.code]? = some row ∧ readBlend row.rt = some op.blend := by
  have hrow : ∃ row, pdFactors[op.code]? = some row ∧ row.blend = some op.blend := by
    cases op <;> exact ⟨_, rfl, by decide⟩
  obtain ⟨row, hget, hblend⟩ := hrow
  obtain ⟨hsrc, hdst, hsrcA, hdstA⟩ := pdFactors_fit row (List.mem_of_getElem? hget)
  exact ⟨row, hget, (readBlend_rt hsrc hdst hsrcA hdstA).trans hblend⟩

section

variable {ι R : Type*} [CommRing R]

/-- Over the destination the colours of the source are multiplied once more. -/
theorem over_apply (s d : Pixel ι R) :
    PDOperator.srcOverDest.blend.apply s d =
      PDOperator.srcOverDest.result (premultiplied s) d := by
  have hresult : PDOperator.srcOverDest.result (premultiplied s) d =
      Operator.combine ⟨true, true, .source⟩ (premultiplied s) d := rfl
  rw [hresult]
  ext i
  · simp only [Blend.apply, PDOperator.blend, Factor.value, Operator.combine, Operator.share_eq,
      Operator.sourceFactor, Operator.destinationFactor, premultiplied]
    simp only [if_true, reduceCtorEq, if_false]
    ring
  · simp only [Blend.apply, PDOperator.blend, Factor.value, Operator.combine, Operator.share_eq,
      Operator.sourceFactor, Operator.destinationFactor, premultiplied]
    simp only [if_true, reduceCtorEq, if_false]

/-- All other rows are their operators. -/
theorem PDOperator.blend_apply {op : PDOperator} (hover : op ≠ .srcOverDest) (s d : Pixel ι R) :
    op.blend.apply s d = op.result s d := by
  cases op with
  | srcOverDest => exact absurd rfl hover
  | plus => ext <;> simp [Blend.apply, PDOperator.blend, Factor.value, PDOperator.result,
      PDOperator.shows, Pixel.add]
  | srcAtopDest =>
      -- what the source adds to `alpha` is what it takes from the destination
      refine Operator.blend_apply_of_alpha _ rfl rfl (fun sa da => ?_) s d
      simp only [Operator.share, PDOperator.blend, Factor.value, if_true, Bool.false_eq_true,
        if_false]
      ring
  | destAtopSrc =>
      refine Operator.blend_apply_of_alpha _ rfl rfl (fun sa da => ?_) s d
      simp only [Operator.share, PDOperator.blend, Factor.value, if_true, Bool.false_eq_true,
        if_false]
      ring
  | _ => exact Operator.blend_apply _ rfl rfl rfl rfl s d

/-- What is shown over the destination tells how bright the source is. -/
theorem over_result_iff (s s' d : Pixel ι R) (halpha : s'.alpha = s.alpha) :
    PDOperator.srcOverDest.result s' d = PDOperator.srcOverDest.result s d ↔
      s'.colour = s.colour := by
  have hcolour (p : Pixel ι R) (i : ι) : (PDOperator.srcOverDest.result p d).colour i =
      p.colour i + d.colour i * (1 - p.alpha) := by
    change Operator.share ⟨true, true, .source⟩ _ _ _ _ = _
    rw [Operator.share_eq]
    change p.colour i * 1 + d.colour i * (1 - p.alpha) = _
    rw [mul_one]
  have hwhole (p : Pixel ι R) : (PDOperator.srcOverDest.result p d).alpha =
      p.alpha + d.alpha * (1 - p.alpha) := by
    change Operator.share ⟨true, true, .source⟩ _ _ _ _ = _
    rw [Operator.share_eq]
    change p.alpha * 1 + d.alpha * (1 - p.alpha) = _
    rw [mul_one]
  constructor
  · intro hsame
    funext i
    have hi := congrArg (fun p => p.colour i) hsame
    simp only [hcolour, halpha] at hi
    exact add_right_cancel hi
  · intro hsame
    ext i
    · rw [hcolour, hcolour, hsame, halpha]
    · rw [hwhole, hwhole, halpha]

/-- Which rows are their operators, and on which pixels. -/
theorem PDOperator.blend_apply_iff (op : PDOperator) (s d : Pixel ι R) :
    op.blend.apply s d = op.result s d ↔ op ≠ .srcOverDest ∨ KeptByAlpha s := by
  by_cases hover : op = .srcOverDest
  · rw [hover, over_apply, over_result_iff s (premultiplied s) d rfl]
    constructor
    · exact fun hsame => Or.inr fun i => congrFun hsame i
    · rintro (hne | hkept)
      · exact absurd rfl hne
      · exact funext hkept
  · exact iff_of_true (PDOperator.blend_apply hover s d) (Or.inl hover)

/-- Every operator but `Plus` keeps pixels valid. -/
theorem PDOperator.result_valid [LinearOrder R] [IsStrictOrderedRing R] {op : PDOperator}
    (hplus : op ≠ .plus) {s d : Pixel ι R} (hs : s.Valid) (hd : d.Valid) :
    (op.result s d).Valid := by
  have hshown : ∃ shown, op.shows = some shown := by
    cases op with
    | plus => exact absurd rfl hplus
    | _ => exact ⟨_, rfl⟩
  obtain ⟨shown, hshown⟩ := hshown
  unfold PDOperator.result
  rw [hshown]
  exact shown.combine_valid hs hd

/-- So does every row. -/
theorem PDOperator.blend_valid [LinearOrder R] [IsStrictOrderedRing R] {op : PDOperator}
    (hplus : op ≠ .plus) {s d : Pixel ι R} (hs : s.Valid) (hd : d.Valid) :
    (op.blend.apply s d).Valid := by
  by_cases hover : op = .srcOverDest
  · have hbright : ∀ i, 0 ≤ s.colour i ∧ s.colour i ≤ 1 :=
      fun i => ⟨hs.colour_nonneg i, (hs.colour_le i).trans hs.alpha_le_one⟩
    rw [hover, over_apply]
    exact PDOperator.result_valid (by decide)
      (premultiplied_valid hbright hs.alpha_nonneg hs.alpha_le_one) hd
  · rw [PDOperator.blend_apply hover]
    exact PDOperator.result_valid hplus hs hd

end

/-- A host that is sent the word of an operator computes the operator, in every ring that the
channels are taken from, for all pixels of all rows but one: that of `SrcOverDest` multiplies the
source by `alpha` once more, and is its operator where this changes nothing.  What is computed is a
pixel again, but for `Plus`. -/
theorem pd_factors_correct (op : PDOperator) :
    ∃ row blend, pdFactors[op.code]? = some row ∧ readBlend row.rt = some blend ∧
      (∀ (ι R : Type) [CommRing R] (s d : Pixel ι R),
        (blend.apply s d = op.result s d ↔ op ≠ .srcOverDest ∨ KeptByAlpha s) ∧
          (op = .srcOverDest → blend.apply s d = op.result (premultiplied s) d)) ∧
      ∀ (ι R : Type) [CommRing R] [LinearOrder R] [IsStrictOrderedRing R] (s d : Pixel ι R),
        op ≠ .plus → s.Valid → d.Valid → (blend.apply s d).Valid := by
  obtain ⟨row, hget, hread⟩ := readBlend_pdFactors op
  refine ⟨row, op.blend, hget, hread, fun ι R _ s d => ⟨op.blend_apply_iff s d, ?_⟩, ?_⟩
  · rintro rfl
    exact over_apply s d
  · intro ι R _ _ _ s d hplus hs hd
    exact PDOperator.blend_valid hplus hs hd

end VirtIOGPU.Compositing
