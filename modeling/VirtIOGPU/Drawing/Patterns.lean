import Mathlib.Data.Nat.ModEq
import VirtIOGPU.Drawing.Pixels

/-!
# `chip_BlitTemplate` and `chip_BlitPattern`

Both expand bits into the pixels of a rectangle.  The bits of a template are those of its rows,
from a bit offset on.  Those of a pattern repeat every 16 pixels and every `2 ^ Size` rows of the
surface, whatever rectangle is drawn, so that a rectangle may be drawn in parts (`bits_expanded`).

Templates and patterns are data of their own, which drawing does not change.
-/

namespace VirtIOGPU.Drawing

open Lib.Memory

/-! ## The descriptors -/

/-- `struct ChipTemplate`: `memory` gives the byte at every offset, since rows may go backwards,
and is `none` for `NULL`. -/
structure ChipTemplate where
  memory : Option (ℤ → UInt8)
  bytesPerRow : Int16
  xOffset : UInt8
  drawMode : UInt8
  fgPen : UInt32
  bgPen : UInt32

/-- `struct ChipPattern`. -/
structure ChipPattern where
  memory : Option (ℕ → UInt8)
  xOffset : UInt16
  yOffset : UInt16
  fgPen : UInt32
  bgPen : UInt32
  size : UInt8
  drawMode : UInt8

/-! ## The functions -/

/-- `bit_set` of `chip_BlitTemplate`. -/
def templateBitSet (tmpl : ChipTemplate) (srcBase : ℤ → UInt8) (row col : ℕ) : Bool :=
  let srcRow := row * tmpl.bytesPerRow.toInt
  let bitIdx := tmpl.xOffset.toNat + col
  let byteVal := srcBase (srcRow + (bitIdx >>> 3 : ℕ))
  decide ((byteVal.toNat >>> (7 - (bitIdx &&& 7))) &&& 1 ≠ 0)

/-- `chip_BlitTemplate`. -/
def chipBlitTemplate (ri : RenderInfo) (tmpl : ChipTemplate) (r : Rect) (format : RgbfType)
    (c : Canvas) : Canvas :=
  match tmpl.memory with
  | none => c
  | some srcBase =>
    if ri.memory = 0 ∨ r.w = 0 ∨ r.h = 0 then c
    else
      { mem := expandRect ri r format tmpl.drawMode tmpl.fgPen tmpl.bgPen
          (templateBitSet tmpl srcBase) c.mem
        flushed := c.flushed ++ [r] }

/-- `bit_set` of `chip_BlitPattern`; the sums are cut to 16 bits, which the masks allow. -/
def patternBitSet (pat : ChipPattern) (patBase : ℕ → UInt8) (r : Rect) (row col : ℕ) : Bool :=
  let patH := UInt16.ofNat (1 <<< pat.size.toNat)
  let patRow := (r.y.toUInt16 + UInt16.ofNat row + pat.yOffset) &&& (patH - 1)
  let patWord := ((patBase (patRow.toNat * 2)).toUInt16 <<< 8) |||
    (patBase (patRow.toNat * 2 + 1)).toUInt16
  let patCol := (r.x.toUInt16 + UInt16.ofNat col + pat.xOffset) &&& 15
  decide ((patWord >>> (15 - patCol)) &&& 1 ≠ 0)

/-- `chip_BlitPattern`. -/
def chipBlitPattern (ri : RenderInfo) (pat : ChipPattern) (r : Rect) (format : RgbfType)
    (c : Canvas) : Canvas :=
  match pat.memory with
  | none => c
  | some patBase =>
    if ri.memory = 0 ∨ r.w = 0 ∨ r.h = 0 then c
    else
      { mem := expandRect ri r format pat.drawMode pat.fgPen pat.bgPen
          (patternBitSet pat patBase r) c.mem
        flushed := c.flushed ++ [r] }

/-! ## What they should draw -/

/-- Bit `n` of a row of bytes, each of them from its highest bit on. -/
def streamBit (row : ℕ → UInt8) (n : ℕ) : Bool := (row (n / 8)).toNat.testBit (7 - n % 8)

/-- Bit `XOffset + col` of a row of the template. -/
def templateBit (tmpl : ChipTemplate) (srcBase : ℤ → UInt8) (row col : ℕ) : Bool :=
  streamBit (fun b => srcBase (row * tmpl.bytesPerRow.toInt + b)) (tmpl.xOffset.toNat + col)

/-- The bit of a pattern for a pixel of the surface. -/
def patternBit (pat : ChipPattern) (patBase : ℕ → UInt8) (q : ℕ × ℕ) : Bool :=
  streamBit (fun b => patBase ((q.2 + pat.yOffset.toNat) % 2 ^ pat.size.toNat * 2 + b))
    ((q.1 + pat.xOffset.toNat) % 16)

/-- Rectangles that cover `r`, no two of them with a common pixel. -/
structure Partition (r : Rect) (parts : List Rect) : Prop where
  covers : ∀ q, r.Contains q ↔ ∃ p ∈ parts, p.Contains q
  disjoint : parts.Pairwise fun p p' => ∀ q, ¬ (p.Contains q ∧ p'.Contains q)

/-! ## The bits -/

theorem templateBitSet_eq (tmpl : ChipTemplate) (srcBase : ℤ → UInt8) (row col : ℕ) :
    templateBitSet tmpl srcBase row col = templateBit tmpl srcBase row col := by
  have hbyte : (tmpl.xOffset.toNat + col) >>> 3 = (tmpl.xOffset.toNat + col) / 8 :=
    Nat.shiftRight_eq_div_pow _ 3
  have hbit : (tmpl.xOffset.toNat + col) &&& 7 = (tmpl.xOffset.toNat + col) % 8 :=
    Nat.and_two_pow_sub_one_eq_mod _ 3
  unfold templateBitSet templateBit streamBit
  simp only [hbyte, hbit]
  exact bit_and_one _ _

/-- A word has the bits of its two bytes, the high one first. -/
theorem word_bit (high low : UInt8) {n : ℕ} (hn : n < 16) :
    (high.toUInt16 <<< 8 ||| low.toUInt16).toNat.testBit (15 - n) =
      streamBit (fun b => if b = 0 then high else low) n := by
  have hhigh := high.toNat_lt
  have hlow := low.toNat_lt
  have hshift : (high.toUInt16 <<< 8).toNat = high.toNat <<< 8 := by
    rw [UInt16.toNat_shiftLeft, UInt8.toNat_toUInt16]
    change high.toNat <<< 8 % 2 ^ 16 = _
    rw [Nat.shiftLeft_eq]
    omega
  rw [UInt16.toNat_or, hshift, UInt8.toNat_toUInt16, Nat.testBit_or, Nat.testBit_shiftLeft,
    streamBit]
  by_cases hfirst : n < 8
  · rw [if_pos (by omega), Nat.testBit_lt_two_pow (hlow.trans_le ?_), Bool.or_false,
      decide_eq_true (by omega), Bool.true_and]
    · exact congrArg _ (by omega)
    · exact Nat.pow_le_pow_right (by decide) (by omega)
  · rw [if_neg (by omega), decide_eq_false (by omega), Bool.false_and, Bool.false_or]
    exact congrArg _ (by omega)

/-- A sum that has been cut to 16 bits, in the low bits. -/
theorem word_sum_mod (x : Int16) (n : ℕ) (off : UInt16) {k : ℕ} (hk : k ≤ 16) :
    (x.toUInt16 + UInt16.ofNat n + off).toNat % 2 ^ k = (ulong x + n + off.toNat) % 2 ^ k := by
  have hcut (a : ℕ) : a % 2 ^ 16 ≡ a [MOD 2 ^ k] := Nat.mod_mod_of_dvd a (Nat.pow_dvd_pow 2 hk)
  have hsum : (x.toUInt16 + UInt16.ofNat n).toNat ≡ ulong x + n [MOD 2 ^ k] := by
    rw [UInt16.toNat_add, ← ulong_mod, UInt16.toNat_ofNat']
    exact (hcut _).trans ((hcut _).add (hcut _))
  rw [UInt16.toNat_add]
  exact (hcut _).trans (hsum.add_right _)

theorem patternBitSet_eq {pat : ChipPattern} (hsize : pat.size.toNat ≤ 15) (patBase : ℕ → UInt8)
    (r : Rect) (row col : ℕ) :
    patternBitSet pat patBase r row col =
      patternBit pat patBase (ulong r.x + col, ulong r.y + row) := by
  have hpatH : (UInt16.ofNat (1 <<< pat.size.toNat) - 1).toNat = 2 ^ pat.size.toNat - 1 := by
    have hlt : 2 ^ pat.size.toNat < 2 ^ 16 := Nat.pow_lt_pow_right (by decide) (by omega)
    have hpos : 0 < 2 ^ pat.size.toNat := Nat.pow_pos (by decide)
    have hheight : (UInt16.ofNat (1 <<< pat.size.toNat)).toNat = 2 ^ pat.size.toNat := by
      rw [Nat.one_shiftLeft]
      exact UInt16.toNat_ofNat_of_lt' hlt
    rw [UInt16.toNat_sub_of_le, hheight]
    · rfl
    · rw [UInt16.le_iff_toNat_le, hheight]
      exact hpos
  have hrow : ((r.y.toUInt16 + UInt16.ofNat row + pat.yOffset) &&&
      (UInt16.ofNat (1 <<< pat.size.toNat) - 1)).toNat =
      (ulong r.y + row + pat.yOffset.toNat) % 2 ^ pat.size.toNat := by
    rw [UInt16.toNat_and, hpatH, Nat.and_two_pow_sub_one_eq_mod]
    exact word_sum_mod r.y row pat.yOffset (by omega)
  have hcol : ((r.x.toUInt16 + UInt16.ofNat col + pat.xOffset) &&& 15).toNat =
      (ulong r.x + col + pat.xOffset.toNat) % 16 := by
    rw [UInt16.toNat_and]
    exact (Nat.and_two_pow_sub_one_eq_mod _ 4).trans (word_sum_mod r.x col pat.xOffset (by decide))
  unfold patternBitSet patternBit
  generalize (r.x.toUInt16 + UInt16.ofNat col + pat.xOffset) &&& 15 = patCol at *
  have hsixteen : patCol.toNat < 16 := by
    rw [hcol]
    exact Nat.mod_lt _ (by decide)
  simp only [hrow, ← hcol]
  refine (shifted_bit _ hsixteen).trans ((word_bit _ _ hsixteen).trans ?_)
  unfold streamBit
  obtain hfirst | hsecond : patCol.toNat / 8 = 0 ∨ patCol.toNat / 8 = 1 := by omega
  · rw [hfirst]
    rfl
  · rw [hsecond]
    rfl

/-! ## Drawing -/

section

variable {ri : RenderInfo} {r : Rect} {format : RgbfType} {width height : ℕ}

/-- A rectangle without pixels is left out. -/
theorem Rect.empty_or (hsurface : IsSurface ri (chipFormatBpp format) width height) (r : Rect) :
    (ri.memory = 0 ∨ r.w = 0 ∨ r.h = 0) ∧ (∀ q, ¬ r.Contains q) ∨
      ¬ (ri.memory = 0 ∨ r.w = 0 ∨ r.h = 0) := by
  by_cases hnothing : ri.memory = 0 ∨ r.w = 0 ∨ r.h = 0
  · refine Or.inl ⟨hnothing, ?_⟩
    rintro q ⟨⟨hleft, hright⟩, htop, hbottom⟩
    rcases hnothing with hnull | hw | hh
    · exact hsurface.present hnull
    · rw [hw, UInt16.toNat_zero] at hright
      omega
    · rw [hh, UInt16.toNat_zero] at hbottom
      omega
  · exact Or.inr hnothing

theorem blitTemplate_altered (h24 : chipFormatBpp format ≠ 3)
    (hsurface : IsSurface ri (chipFormatBpp format) width height) (hr : r.Within width height)
    {tmpl : ChipTemplate} {srcBase : ℤ → UInt8} (hmemory : tmpl.memory = some srcBase)
    (c : Canvas) :
    Altered (pixelAt ri (chipFormatBpp format)) (chipFormatBpp format)
      (fun q => drawn (chipFormatBpp format) tmpl.drawMode tmpl.fgPen tmpl.bgPen
        (templateBit tmpl srcBase (q.2 - ulong r.y) (q.1 - ulong r.x))) r.Contains c.mem
      (chipBlitTemplate ri tmpl r format c).mem := by
  simp only [chipBlitTemplate, hmemory]
  obtain ⟨hnothing, hnone⟩ | hsome := r.empty_or hsurface
  · rw [if_pos hnothing]
    exact Altered.none hnone
  · rw [if_neg hsome]
    apply expandRect_altered h24 hsurface hr
    intro row _ col _
    rw [templateBitSet_eq, Nat.add_sub_cancel_left, Nat.add_sub_cancel_left]

theorem blitPattern_altered (h24 : chipFormatBpp format ≠ 3)
    (hsurface : IsSurface ri (chipFormatBpp format) width height)
    (hinside : ∀ q, r.Contains q → q.1 < width ∧ q.2 < height) {pat : ChipPattern}
    {patBase : ℕ → UInt8} (hmemory : pat.memory = some patBase) (hsize : pat.size.toNat ≤ 15)
    (c : Canvas) :
    Altered (pixelAt ri (chipFormatBpp format)) (chipFormatBpp format)
      (fun q => drawn (chipFormatBpp format) pat.drawMode pat.fgPen pat.bgPen
        (patternBit pat patBase q)) r.Contains c.mem (chipBlitPattern ri pat r format c).mem := by
  simp only [chipBlitPattern, hmemory]
  obtain ⟨hnothing, hnone⟩ | hsome := r.empty_or hsurface
  · rw [if_pos hnothing]
    exact Altered.none hnone
  · have hr : r.Within width height :=
      Rect.within_of_inside (fun h => hsome (by simp [h])) (fun h => hsome (by simp [h])) hinside
    rw [if_neg hsome]
    apply expandRect_altered h24 hsurface hr
    intro row _ col _
    exact (patternBitSet_eq hsize patBase r row col).symm

/-- The parts one after the other draw what the whole draws. -/
theorem partition_same (h24 : chipFormatBpp format ≠ 3)
    (hsurface : IsSurface ri (chipFormatBpp format) width height) (hr : r.Within width height)
    {pat : ChipPattern} {patBase : ℕ → UInt8} (hmemory : pat.memory = some patBase)
    (hsize : pat.size.toNat ≤ 15) {parts : List Rect} (hparts : Partition r parts) (c : Canvas) :
    (parts.foldl (fun c p => chipBlitPattern ri pat p format c) c).mem =
      (chipBlitPattern ri pat r format c).mem := by
  have hinside : ∀ p ∈ parts, ∀ q, p.Contains q → q.1 < width ∧ q.2 < height := by
    intro p hp q hq
    exact hr.inside ((hparts.covers q).mpr ⟨p, hp, hq⟩)
  have hwhole := blitPattern_altered h24 hsurface (fun q hq => hr.inside hq) hmemory hsize c
  have hrun := Altered.run Canvas.mem (s := c)
    (fun p hp c => blitPattern_altered h24 hsurface (hinside p hp) hmemory hsize c)
    (hparts.disjoint.imp_of_mem fun hp hp' hdisjoint =>
      Rect.cells_apart hsurface (hinside _ hp) (hinside _ hp') hdisjoint)
  exact (hrun.congr hparts.covers fun _ _ => rfl).unique hwhole

end

/-! ## The result -/

/-- For every surface with pixels of 1, 2 or 4 bytes and every rectangle in it: a template or a
pattern changes no byte outside the rectangle, and each pixel as its bit says; the bit of a
pattern only depends on the place of the pixel in the surface, so that drawing the parts of a
rectangle, in any order, is drawing the rectangle. -/
theorem bits_expanded (ri : RenderInfo) (format : RgbfType) (h24 : chipFormatBpp format ≠ 3)
    {width height : ℕ} (hsurface : IsSurface ri (chipFormatBpp format) width height) (r : Rect)
    (hr : r.Within width height) (c : Canvas) :
    let bpp := chipFormatBpp format
    let x := ulong r.x
    let y := ulong r.y
    (∀ tmpl srcBase, tmpl.memory = some srcBase →
      BlitResult ri bpp x y r.w.toNat r.h.toNat
        (fun col row => drawn bpp tmpl.drawMode tmpl.fgPen tmpl.bgPen
          (templateBit tmpl srcBase row col) (pixel ri bpp c.mem (x + col) (y + row)))
        c.mem (chipBlitTemplate ri tmpl r format c).mem) ∧
    ∀ pat patBase, pat.memory = some patBase → pat.size.toNat ≤ 15 →
      BlitResult ri bpp x y r.w.toNat r.h.toNat
        (fun col row => drawn bpp pat.drawMode pat.fgPen pat.bgPen
          (patternBit pat patBase (x + col, y + row)) (pixel ri bpp c.mem (x + col) (y + row)))
        c.mem (chipBlitPattern ri pat r format c).mem ∧
      (∀ q q', q.1 % 16 = q'.1 % 16 → q.2 % 2 ^ pat.size.toNat = q'.2 % 2 ^ pat.size.toNat →
        patternBit pat patBase q = patternBit pat patBase q') ∧
      ∀ parts, Partition r parts →
        (parts.foldl (fun c p => chipBlitPattern ri pat p format c) c).mem =
          (chipBlitPattern ri pat r format c).mem := by
  intro bpp x y
  constructor
  · intro tmpl srcBase hmemory
    have hresult := BlitResult.of_altered (blitTemplate_altered h24 hsurface hr hmemory c)
    simpa only [Nat.add_sub_cancel_left] using hresult
  · intro pat patBase hmemory hsize
    refine ⟨?_, ?_, ?_⟩
    · exact BlitResult.of_altered
        (blitPattern_altered h24 hsurface (fun q hq => hr.inside hq) hmemory hsize c)
    · intro q q' hcol hrow
      unfold patternBit
      rw [Nat.add_mod q.1, Nat.add_mod q.2, hcol, hrow, ← Nat.add_mod, ← Nat.add_mod]
    · intro parts hparts
      exact partition_same h24 hsurface hr hmemory hsize hparts c

/-- Four columns of a pattern with two rows, and the same in two parts from right to left. -/
theorem bits_expanded_clut :
    let ri : RenderInfo := ⟨0x1000, 8, .clut⟩
    let pat : ChipPattern := ⟨some fun b => if b = 0 then 0xB0 else 0x0F, 3, 1, 7, 9, 1, 1⟩
    let blank : Canvas := ⟨fun _ => 0, []⟩
    let whole := chipBlitPattern ri pat ⟨2, 0, 4, 2⟩ .clut blank
    pixel ri 1 whole.mem 3 1 = [9] ∧ pixel ri 1 whole.mem 2 0 = [7] ∧
      ([⟨4, 0, 2, 2⟩, ⟨2, 0, 2, 2⟩].foldl (fun c p => chipBlitPattern ri pat p .clut c) blank).mem =
        whole.mem := by
  intro ri pat blank whole
  have hsurface : IsSurface ri 1 8 2 := ⟨by decide, by decide, by decide⟩
  have hr : (⟨2, 0, 4, 2⟩ : Rect).Within 8 2 := ⟨by decide, by decide⟩
  obtain ⟨-, hpattern⟩ := bits_expanded ri .clut (by decide) hsurface ⟨2, 0, 4, 2⟩ hr blank
  obtain ⟨hresult, -, hparts⟩ := hpattern pat _ rfl (by decide)
  refine ⟨?_, ?_, hparts _ ⟨?_, ?_⟩⟩
  · exact (hresult.pixels 1 (by decide) 1 (by decide)).trans (by decide)
  · exact (hresult.pixels 0 (by decide) 0 (by decide)).trans (by decide)
  · intro q
    simp only [List.mem_cons, List.not_mem_nil, or_false, exists_eq_or_imp, exists_eq_left]
    change (2 ≤ q.1 ∧ q.1 < 6) ∧ 0 ≤ q.2 ∧ q.2 < 2 ↔
      ((4 ≤ q.1 ∧ q.1 < 6) ∧ 0 ≤ q.2 ∧ q.2 < 2) ∨ (2 ≤ q.1 ∧ q.1 < 4) ∧ 0 ≤ q.2 ∧ q.2 < 2
    omega
  · refine List.pairwise_pair.mpr fun q hq => ?_
    have hright : 4 ≤ q.1 := hq.1.1.1
    have hleft : q.1 < 4 := hq.2.1.2
    omega

end VirtIOGPU.Drawing
