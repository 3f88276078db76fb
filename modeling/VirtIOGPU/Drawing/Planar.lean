import VirtIOGPU.Drawing.Colours
import VirtIOGPU.Drawing.Fill

/-!
# Bitmaps in planes

`chip_BlitPlanar2Chunky` and `chip_BlitPlanar2Direct` draw bitmaps in which every bit of a colour
number lies in a plane of its own.  Both collect the bits of a pixel from the planes that are
enabled; the first stores the number, the second its colour.

The planes are data of their own, which drawing does not change.  Of a plane without memory all
bits are 0.

## Strategy

```text
step                            invariant or fact                       lemma
the bits of a column            bit p of the number is that of plane p  scanPlanes_eq
a pixel, as its number          one byte                                blitPlanar2Chunky_altered
a pixel, as a colour            bpp bytes of the colour's packed form   blitPlanar2Direct_altered
the colour of a number          the entry of the table, or packed       directBytes_colour
```

The number may be masked and a plane may be missing, so `PlanarBitMap.bit` says what counts: the bit
of an enabled plane that has memory.  `planar_shows` goes on to what is seen on the screen, for the
three formats that both functions and the flush know (`DirectFormat`).
-/

namespace VirtIOGPU.Drawing

open Lib.Memory

/-! ## The descriptors -/

/-- `struct BitMap`: a plane gives the byte at every offset, and is `none` for `NULL`. -/
structure PlanarBitMap where
  bytesPerRow : UInt16
  depth : UInt8
  planes : ℕ → Option (UInt32 → UInt8)

structure ColorIndexMapping where
  colorMask : UInt32
  colors : UInt8 → UInt32

/-! ## The functions -/

/-- The body of the two inner loops up to the number of the colour. -/
def scanPlanes (bm : PlanarBitMap) (mask : UInt8) (x y : Int16) (row col : ℕ) : UInt8 :=
  let srcX := x.toInt32.toUInt32 + UInt32.ofNat col
  let byteOff := srcX >>> 3
  let bitPos := 7 - (srcX &&& 7)
  let srcYOff := (y.toInt32.toUInt32 + UInt32.ofNat row) * bm.bytesPerRow.toUInt32 + byteOff
  up (min bm.depth.toNat 8) (fun p pixel =>
    if mask.toNat &&& 1 <<< p = 0 then pixel
    else
      match bm.planes p with
      | none => pixel
      | some plane =>
        if (plane srcYOff).toNat &&& 1 <<< bitPos.toNat ≠ 0 then pixel ||| UInt8.ofNat (1 <<< p)
        else pixel) 0

/-- `chip_BlitPlanar2Chunky`; `r` is the rectangle at `dx`, `dy`. -/
def chipBlitPlanar2Chunky (bm : PlanarBitMap) (ri : RenderInfo) (x y : Int16) (r : Rect)
    (mask : UInt8) (c : Canvas) : Canvas :=
  if ri.memory = 0 ∨ r.w = 0 ∨ r.h = 0 then c
  else
    let dstBase := ri.address 1 (ulong r.x) (ulong r.y)
    { mem := up r.h.toNat (fun row =>
        let dstRow := dstBase + row * ri.bytesPerRow
        up r.w.toNat fun col => storeByte (dstRow + col) (scanPlanes bm mask x y row col)) c.mem
      flushed := c.flushed ++ [r] }

/-- The end of the inner loop of `chip_BlitPlanar2Direct`. -/
def storeDirect (clut : ColorIndexMapping) (bpp dstRow col : ℕ) (pixel : UInt8) :
    Mem UInt8 → Mem UInt8 :=
  let color := clut.colors pixel &&& clut.colorMask
  if bpp = 4 then storeLong (dstRow + col * 4) color
  else if bpp = 2 then
    let r := (color >>> 19) &&& 0x1F
    let g := (color >>> 10) &&& 0x3F
    let b := (color >>> 3) &&& 0x1F
    storeWord (dstRow + col * 2) ((r <<< 11) ||| (g <<< 5) ||| b).toUInt16
  else storeByte (dstRow + col) pixel

/-- `chip_BlitPlanar2Direct`; the sizes are signed. -/
def chipBlitPlanar2Direct (bm : PlanarBitMap) (ri : RenderInfo) (clut : ColorIndexMapping)
    (x y dx dy w h : Int16) (mask : UInt8) (c : Canvas) : Canvas :=
  if ri.memory = 0 ∨ w ≤ 0 ∨ h ≤ 0 then c
  else
    let bpp := chipFormatBpp ri.rgbFormat
    let dstBase := ri.address bpp (ulong dx) (ulong dy)
    { mem := up h.toUInt16.toNat (fun row =>
        let dstRow := dstBase + row * ri.bytesPerRow
        up w.toUInt16.toNat fun col =>
          storeDirect clut bpp dstRow col (scanPlanes bm mask x y row col)) c.mem
      flushed := c.flushed ++ [⟨dx, dy, w.toUInt16, h.toUInt16⟩] }

/-! ## What they should draw -/

/-- Bit `p` of the colour number at a place of the bitmap. -/
def PlanarBitMap.bit (bm : PlanarBitMap) (q : ℕ × ℕ) (p : ℕ) : Bool :=
  match bm.planes p with
  | none => false
  | some plane =>
    streamBit (fun b => plane (UInt32.ofNat (q.2 * bm.bytesPerRow.toNat + b))) q.1

/-- The planes that are drawn. -/
def PlanarBitMap.enabled (bm : PlanarBitMap) (mask : UInt8) (p : ℕ) : Bool :=
  decide (p < bm.depth.toNat) && mask.toNat.testBit p

/-- The colour number at a place of the bitmap, as far as its planes are enabled. -/
def PlanarBitMap.index (bm : PlanarBitMap) (mask : UInt8) (q : ℕ × ℕ) : UInt8 :=
  UInt8.ofNat (Nat.ofBits fun p : Fin 8 => bm.enabled mask p && bm.bit q p)

/-- Columns `x` to `x + w` belong to the bitmap. -/
def PlanarBitMap.HasColumns (bm : PlanarBitMap) (x : Int16) (w : ℕ) : Prop :=
  ulong x + w ≤ 8 * bm.bytesPerRow.toNat

instance (bm : PlanarBitMap) (x : Int16) (w : ℕ) : Decidable (bm.HasColumns x w) :=
  inferInstanceAs (Decidable (_ ≤ _))

/-- A colour in 16 bits. -/
def packedColour (color : UInt32) : UInt32 :=
  (((color >>> 19) &&& 0x1F) <<< 11) ||| (((color >>> 10) &&& 0x3F) <<< 5) |||
    ((color >>> 3) &&& 0x1F)

/-- The colour for a number. -/
def ColorIndexMapping.colour (clut : ColorIndexMapping) (i : UInt8) : UInt32 :=
  clut.colors i &&& clut.colorMask

/-- The bytes of a colour, or of its number where the destination has numbers. -/
def directBytes (clut : ColorIndexMapping) (bpp : ℕ) (i : UInt8) : List UInt8 :=
  if bpp = 4 then penBytes 4 (clut.colour i)
  else if bpp = 2 then penBytes 2 (packedColour (clut.colour i))
  else [i]

/-! ## Collecting bits -/

/-- A loop that sets the bits of a byte. -/
theorem collect_testBit (bit : ℕ → Bool) {n : ℕ} (hn : n ≤ 8) (k : ℕ) :
    (up n (fun p v => if bit p then v ||| UInt8.ofNat (1 <<< p) else v)
      (0 : UInt8)).toNat.testBit k = (decide (k < n) && bit k) := by
  revert k
  refine up_induction
    (P := fun i (v : UInt8) => ∀ k, v.toNat.testBit k = (decide (k < i) && bit k)) ?_ ?_
  · intro k
    simp
  · intro p hp v hv k
    have hpow : (UInt8.ofNat (1 <<< p)).toNat = 2 ^ p := by
      rw [Nat.one_shiftLeft]
      have hlt : 2 ^ p < 2 ^ 8 := Nat.pow_lt_pow_right Nat.one_lt_two (by omega)
      exact UInt8.toNat_ofNat_of_lt' hlt
    by_cases hbit : bit p = true
    · rw [if_pos hbit, UInt8.toNat_or, hpow, Nat.testBit_or, Nat.testBit_two_pow, hv]
      rcases Nat.lt_trichotomy k p with hlt | rfl | hgt
      · simp [hlt, Nat.lt_succ_of_lt hlt, Nat.ne_of_gt hlt]
      · simp [hbit]
      · simp [Nat.not_lt_of_gt hgt, Nat.not_lt_of_ge hgt, Nat.ne_of_lt hgt]
    · rw [if_neg hbit, hv]
      rcases Nat.lt_trichotomy k p with hlt | rfl | hgt
      · simp [hlt, Nat.lt_succ_of_lt hlt]
      · simp [hbit]
      · simp [Nat.not_lt_of_gt hgt, Nat.not_lt_of_ge hgt]

theorem and_bit_eq_zero (v p : ℕ) : v &&& 1 <<< p = 0 ↔ v.testBit p = false := by
  rw [Nat.one_shiftLeft, Nat.and_two_pow]
  cases v.testBit p <;> simp

section

variable {bm : PlanarBitMap} {mask : UInt8} {x y : Int16} {row col w : ℕ}

/-- The column of a place, as the loops compute it. -/
theorem source_column (hcols : bm.HasColumns x w) (hcol : col < w) :
    (x.toInt32.toUInt32 + UInt32.ofNat col).toNat = ulong x + col := by
  have hbpr := bm.bytesPerRow.toNat_lt
  unfold PlanarBitMap.HasColumns at hcols
  rw [UInt32.toNat_add, UInt32.toNat_ofNat', Nat.add_mod_mod]
  exact Nat.mod_eq_of_lt (by unfold ulong at *; omega)

/-- The bit that the loops look at is that of the place in the bitmap. -/
theorem source_bit (hcols : bm.HasColumns x w) (hcol : col < w) (plane : UInt32 → UInt8) :
    (plane ((y.toInt32.toUInt32 + UInt32.ofNat row) * bm.bytesPerRow.toUInt32 +
        ((x.toInt32.toUInt32 + UInt32.ofNat col) >>> 3))).toNat.testBit
      (7 - ((x.toInt32.toUInt32 + UInt32.ofNat col) &&& 7)).toNat =
      streamBit (fun b => plane (UInt32.ofNat ((ulong y + row) * bm.bytesPerRow.toNat + b)))
        (ulong x + col) := by
  have hsrcX := source_column hcols hcol
  generalize x.toInt32.toUInt32 + UInt32.ofNat col = srcX at *
  have hlow : (srcX &&& 7).toNat = (ulong x + col) % 8 := by
    rw [UInt32.toNat_and, hsrcX]
    exact Nat.and_two_pow_sub_one_eq_mod _ 3
  have hbit : (7 - (srcX &&& 7)).toNat = 7 - (ulong x + col) % 8 := by
    rw [UInt32.toNat_sub_of_le, hlow]
    · rfl
    · rw [UInt32.le_iff_toNat_le, hlow]
      change _ ≤ 7
      omega
  have hbyte : srcX >>> 3 = UInt32.ofNat ((ulong x + col) / 8) := by
    rw [← UInt32.toNat_inj, UInt32.toNat_shiftRight, hsrcX, UInt32.toNat_ofNat_of_lt']
    · exact Nat.shiftRight_eq_div_pow _ 3
    · have hlt := srcX.toNat_lt
      rw [hsrcX] at hlt
      exact (Nat.div_le_self _ _).trans_lt hlt
  have hrow : (y.toInt32.toUInt32 + UInt32.ofNat row) * bm.bytesPerRow.toUInt32 =
      UInt32.ofNat ((ulong y + row) * bm.bytesPerRow.toNat) := by
    rw [UInt32.ofNat_mul, UInt32.ofNat_add, ulong, UInt32.ofNat_toNat]
    congr 1
    rw [← UInt32.toNat_inj, UInt16.toNat_toUInt32, UInt32.toNat_ofNat_of_lt']
    exact bm.bytesPerRow.toNat_lt.trans (by decide)
  rw [hbit, hbyte, hrow, ← UInt32.ofNat_add]
  rfl

/-- The loop over the planes finds the colour number. -/
theorem scanPlanes_eq (hcols : bm.HasColumns x w) (hcol : col < w) :
    scanPlanes bm mask x y row col = bm.index mask (ulong x + col, ulong y + row) := by
  have hloop : scanPlanes bm mask x y row col =
      up (min bm.depth.toNat 8) (fun p v =>
        if mask.toNat.testBit p && bm.bit (ulong x + col, ulong y + row) p then
          v ||| UInt8.ofNat (1 <<< p)
        else v) 0 := by
    apply up_congr
    intro p _
    funext v
    unfold PlanarBitMap.bit
    by_cases hmask : mask.toNat.testBit p = true
    · rw [if_neg (by simp [and_bit_eq_zero, hmask]), hmask, Bool.true_and]
      cases bm.planes p with
      | none => rfl
      | some plane =>
          refine if_congr ?_ rfl rfl
          rw [Ne, and_bit_eq_zero, source_bit hcols hcol, Bool.not_eq_false]
    · rw [Bool.not_eq_true] at hmask
      rw [if_pos ((and_bit_eq_zero _ _).mpr hmask), hmask, Bool.false_and]
      rfl
  rw [hloop, ← UInt8.toNat_inj, PlanarBitMap.index,
    UInt8.toNat_ofNat_of_lt' (Nat.ofBits_lt_two_pow _)]
  apply Nat.eq_of_testBit_eq
  intro k
  rw [collect_testBit _ (Nat.min_le_right _ _), Nat.testBit_ofBits]
  by_cases hk : k < 8
  · rw [dif_pos hk]
    simp [PlanarBitMap.enabled, hk, Bool.and_assoc]
  · rw [dif_neg hk]
    simp [hk]

end

/-! ## Drawing -/

section

variable {bm : PlanarBitMap} {ri : RenderInfo} {r : Rect} {mask : UInt8} {x y : Int16}
  {width height : ℕ}

/-- The place in the bitmap for a pixel of the rectangle. -/
def sourcePlace (r : Rect) (x y : Int16) (q : ℕ × ℕ) : ℕ × ℕ :=
  (ulong x + (q.1 - ulong r.x), ulong y + (q.2 - ulong r.y))

theorem sourcePlace_rect (r : Rect) (x y : Int16) (row col : ℕ) :
    sourcePlace r x y (ulong r.x + col, ulong r.y + row) = (ulong x + col, ulong y + row) := by
  rw [sourcePlace, Nat.add_sub_cancel_left, Nat.add_sub_cancel_left]

/-- The number of the colour goes to a byte. -/
theorem blitPlanar2Chunky_altered (hsurface : IsSurface ri 1 width height)
    (hr : r.Within width height) (hcols : bm.HasColumns x r.w.toNat) (c : Canvas) :
    Altered (pixelAt ri 1) 1 (fun q _ => [bm.index mask (sourcePlace r x y q)]) r.Contains c.mem
      (chipBlitPlanar2Chunky bm ri x y r mask c).mem := by
  have hbytes : IsSurface ri (chipFormatBpp .clut) width height := hsurface
  unfold chipBlitPlanar2Chunky
  obtain ⟨hnothing, hnone⟩ | hsome := r.empty_or hbytes
  · rw [if_pos hnothing]
    exact Altered.none hnone
  · rw [if_neg hsome]
    refine paintRect_altered hsurface hr (fun row _ col hcol m => ?_) c.mem
    have haddr := pixelAt_rect ri 1 (ulong r.x) (ulong r.y) row col
    rw [Nat.mul_one] at haddr
    rw [haddr, scanPlanes_eq hcols hcol]
    refine Altered.stored fun _ => ?_
    rw [sourcePlace_rect]
    rfl

/-- A colour, or its number, goes to a pixel. -/
theorem storeDirect_altered {bpp : ℕ} (hbpp : bpp = 1 ∨ bpp = 2 ∨ bpp = 4)
    (clut : ColorIndexMapping) {new : ℕ × ℕ → List UInt8 → List UInt8} {q : ℕ × ℕ}
    {dstRow col : ℕ} {i : UInt8} (hq : dstRow + col * bpp = pixelAt ri bpp q)
    (hnew : ∀ old, new q old = directBytes clut bpp i) (m : Mem UInt8) :
    Altered (pixelAt ri bpp) bpp new (· = q) m (storeDirect clut bpp dstRow col i m) := by
  unfold storeDirect
  rcases hbpp with rfl | rfl | rfl
  · rw [if_neg (by decide), if_neg (by decide), ← Nat.mul_one col, hq]
    exact Altered.stored hnew
  · rw [if_neg (by decide), if_pos rfl, storeWord_toUInt16, hq]
    exact Altered.stored hnew
  · rw [if_pos rfl, storeLong, hq]
    refine Altered.stored fun old => (hnew old).trans ?_
    rw [directBytes, if_pos rfl]
    rfl

end

/-- A size that is not positive stands for nothing. -/
def directSize (w : Int16) : UInt16 := if w ≤ 0 then 0 else w.toUInt16

/-- The rectangle of `chip_BlitPlanar2Direct`. -/
def directRect (dx dy w h : Int16) : Rect := ⟨dx, dy, directSize w, directSize h⟩

theorem directSize_eq_zero (w : Int16) : directSize w = 0 ↔ w ≤ 0 := by
  unfold directSize
  by_cases hw : w ≤ 0
  · rw [if_pos hw]
    exact ⟨fun _ => hw, fun _ => rfl⟩
  · rw [if_neg hw]
    refine ⟨fun hzero => ?_, fun hle => absurd hle hw⟩
    have hsame : w = 0 := congrArg Int16.ofUInt16 hzero
    rw [hsame]
    decide

/-- Formats without pixels of 3 bytes. -/
theorem bpp_cases {format : RgbfType} (h24 : chipFormatBpp format ≠ 3) :
    chipFormatBpp format = 1 ∨ chipFormatBpp format = 2 ∨ chipFormatBpp format = 4 := by
  cases format <;> simp_all [chipFormatBpp]

section

variable {bm : PlanarBitMap} {ri : RenderInfo} {clut : ColorIndexMapping} {mask : UInt8}
  {x y dx dy w h : Int16} {width height : ℕ}

theorem blitPlanar2Direct_altered (h24 : chipFormatBpp ri.rgbFormat ≠ 3)
    (hsurface : IsSurface ri (chipFormatBpp ri.rgbFormat) width height)
    (hr : (directRect dx dy w h).Within width height)
    (hcols : bm.HasColumns x (directSize w).toNat) (c : Canvas) :
    Altered (pixelAt ri (chipFormatBpp ri.rgbFormat)) (chipFormatBpp ri.rgbFormat)
      (fun q _ => directBytes clut (chipFormatBpp ri.rgbFormat)
        (bm.index mask (sourcePlace (directRect dx dy w h) x y q)))
      (directRect dx dy w h).Contains c.mem
      (chipBlitPlanar2Direct bm ri clut x y dx dy w h mask c).mem := by
  have hempty := (directRect dx dy w h).empty_or hsurface
  simp only [directRect] at hempty
  unfold chipBlitPlanar2Direct
  simp only [← directSize_eq_zero]
  obtain ⟨hnothing, hnone⟩ | hsome := hempty
  · rw [if_pos hnothing]
    exact Altered.none hnone
  · have hsize : ¬ (w ≤ 0) ∧ ¬ (h ≤ 0) := by
      rw [← directSize_eq_zero, ← directSize_eq_zero]
      exact ⟨fun hw => hsome (Or.inr (Or.inl hw)), fun hh => hsome (Or.inr (Or.inr hh))⟩
    have hw : w.toUInt16 = directSize w := (if_neg hsize.1).symm
    have hh : h.toUInt16 = directSize h := (if_neg hsize.2).symm
    rw [if_neg hsome, hw, hh]
    refine paintRect_altered (r := directRect dx dy w h) hsurface hr
      (fun row _ col hcol m => ?_) c.mem
    rw [scanPlanes_eq hcols hcol]
    refine storeDirect_altered (bpp_cases h24) clut
      (pixelAt_rect ri _ (ulong dx) (ulong dy) row col) (fun _ => ?_) m
    exact congrArg (directBytes clut _ <| bm.index mask ·) (sourcePlace_rect _ x y row col)

end

/-! ## Numbers and colours -/

section

variable (bm : PlanarBitMap) (mask : UInt8) (q : ℕ × ℕ)

theorem index_testBit (p : ℕ) :
    (bm.index mask q).toNat.testBit p = (decide (p < 8) && bm.enabled mask p && bm.bit q p) := by
  rw [PlanarBitMap.index, UInt8.toNat_ofNat_of_lt' (Nat.ofBits_lt_two_pow _), Nat.testBit_ofBits]
  by_cases hp : p < 8
  · simp [hp]
  · simp [hp]

/-- Planes that are drawn together are drawn one after the other. -/
theorem index_or (mask' : UInt8) :
    bm.index (mask ||| mask') q = bm.index mask q ||| bm.index mask' q := by
  rw [← UInt8.toNat_inj, UInt8.toNat_or]
  apply Nat.eq_of_testBit_eq
  intro p
  simp only [Nat.testBit_or, index_testBit, PlanarBitMap.enabled, UInt8.toNat_or]
  cases decide (p < 8) <;> cases decide (p < bm.depth.toNat) <;> cases mask.toNat.testBit p <;>
    cases mask'.toNat.testBit p <;> cases bm.bit q p <;> rfl

end

/-- The formats whose channels `chip_BlitPlanar2Direct` puts where they belong. -/
def DirectFormat (format : RgbFormat) : Prop :=
  format = .clut ∨ format = .r5g6b5 ∨ format = .a8r8g8b8

/-- The highest bits of a channel, which is a byte of the colour. -/
def highBits (color : UInt32) (k n : ℕ) : BitVec n :=
  (byteOf color k).toBitVec.extractLsb' (8 - n) n

/-- The colour for a number: that of the palette of the screen, or that of the mapping with as many
bits as there are. -/
def directColour (calls : List ColorCall) (clut : ColorIndexMapping) (i : UInt8) :
    RgbFormat → Colour
  | .clut => colourSet calls i
  | .r5g6b5 =>
      ⟨replicated (highBits (clut.colour i) 1 5), replicated (highBits (clut.colour i) 2 6),
        replicated (highBits (clut.colour i) 3 5)⟩
  | _ => ⟨byteOf (clut.colour i) 1, byteOf (clut.colour i) 2, byteOf (clut.colour i) 3⟩

theorem toNat_channel (color s m : UInt32) {n : ℕ} (hs : s.toNat < 32)
    (hmask : m.toNat = 2 ^ n - 1) :
    ((color >>> s) &&& m).toNat = color.toNat / 2 ^ s.toNat % 2 ^ n := by
  rw [UInt32.toNat_and, hmask, Nat.and_two_pow_sub_one_eq_mod, UInt32.toNat_shiftRight,
    Nat.mod_eq_of_lt hs, Nat.shiftRight_eq_div_pow]

/-- Three channels side by side. -/
theorem toNat_packed {r g b : UInt32} (hr : r.toNat < 32) (hg : g.toNat < 64) (hb : b.toNat < 32) :
    ((r <<< 11) ||| (g <<< 5) ||| b).toNat = r.toNat * 2048 + g.toNat * 32 + b.toNat := by
  have hred : (r <<< 11).toNat = r.toNat <<< 11 := by
    rw [UInt32.toNat_shiftLeft]
    change r.toNat <<< 11 % 2 ^ 32 = _
    rw [Nat.shiftLeft_eq]
    omega
  have hgreen : (g <<< 5).toNat = g.toNat <<< 5 := by
    rw [UInt32.toNat_shiftLeft]
    change g.toNat <<< 5 % 2 ^ 32 = _
    rw [Nat.shiftLeft_eq]
    omega
  have hhigh : r.toNat <<< 11 ||| g.toNat <<< 5 = (r.toNat * 64 + g.toNat) <<< 5 := by
    rw [← Nat.shiftLeft_add_eq_or_of_lt, Nat.shiftLeft_eq, Nat.shiftLeft_eq, Nat.shiftLeft_eq]
    · omega
    · rw [Nat.shiftLeft_eq]
      omega
  rw [UInt32.toNat_or, UInt32.toNat_or, hred, hgreen, hhigh, ← Nat.shiftLeft_add_eq_or_of_lt hb,
    Nat.shiftLeft_eq]
  omega

theorem toNat_highBits (color : UInt32) (k : ℕ) {n : ℕ} (hn : n ≤ 8) :
    (highBits color k n).toNat = color.toNat / 256 ^ (3 - k) / 2 ^ (8 - n) % 2 ^ n := by
  rw [highBits, BitVec.extractLsb'_toNat, Nat.shiftRight_eq_div_pow, UInt8.toNat_toBitVec, byteOf,
    UInt8.toNat_ofNat']
  have hsplit : 2 ^ 8 = 2 ^ (8 - n) * 2 ^ n := by
    rw [← Nat.pow_add, Nat.sub_add_cancel hn]
  rw [hsplit, Nat.mod_mul_right_div_self, Nat.mod_mod]

/-- A colour of 16 bits has the highest bits of its channels. -/
theorem packed_short (color : UInt32) :
    let short := shortAt fun k => byteOf (packedColour color) (2 + k)
    short.extractLsb' 11 5 = highBits color 1 5 ∧ short.extractLsb' 5 6 = highBits color 2 6 ∧
      short.extractLsb' 0 5 = highBits color 3 5 := by
  intro short
  have hr := toNat_channel color 19 0x1F (n := 5) (by decide) rfl
  have hg := toNat_channel color 10 0x3F (n := 6) (by decide) rfl
  have hb := toNat_channel color 3 0x1F (n := 5) (by decide) rfl
  have hword : (packedColour color).toNat = _ :=
    toNat_packed (by rw [hr]; exact Nat.mod_lt _ (by decide))
    (by rw [hg]; exact Nat.mod_lt _ (by decide)) (by rw [hb]; exact Nat.mod_lt _ (by decide))
  have hlow : (byteOf (packedColour color) 3).toNat = (packedColour color).toNat % 256 := by
    rw [byteOf_three, UInt32.toNat_toUInt8]
  have hhigh : (byteOf (packedColour color) 2).toNat = (packedColour color).toNat / 256 % 256 :=
    UInt8.toNat_ofNat'
  have hshort : short.toNat = (packedColour color).toNat := by
    change ((byteOf (packedColour color) 2).toBitVec ++
      (byteOf (packedColour color) 3).toBitVec).toNat = _
    rw [BitVec.toNat_append, UInt8.toNat_toBitVec, UInt8.toNat_toBitVec,
      ← Nat.shiftLeft_add_eq_or_of_lt (byteOf (packedColour color) 3).toNat_lt, Nat.shiftLeft_eq,
      hhigh, hlow]
    omega
  have hfields : ∀ r g b : ℕ, r < 32 → g < 64 → b < 32 →
      (r * 2048 + g * 32 + b) / 2 ^ 11 % 2 ^ 5 = r ∧ (r * 2048 + g * 32 + b) / 2 ^ 5 % 2 ^ 6 = g ∧
        (r * 2048 + g * 32 + b) / 2 ^ 0 % 2 ^ 5 = b := by
    omega
  obtain ⟨hred, hgreen, hblue⟩ := hfields (color.toNat / 2 ^ 19 % 2 ^ 5)
    (color.toNat / 2 ^ 10 % 2 ^ 6) (color.toNat / 2 ^ 3 % 2 ^ 5) (Nat.mod_lt _ (by decide))
    (Nat.mod_lt _ (by decide)) (Nat.mod_lt _ (by decide))
  refine ⟨?_, ?_, ?_⟩ <;> apply BitVec.eq_of_toNat_eq <;>
    rw [BitVec.extractLsb'_toNat, hshort, hword, hr, hg, hb, Nat.shiftRight_eq_div_pow,
      toNat_highBits color _ (by decide), Nat.div_div_eq_div_mul color.toNat]
  · exact hred
  · exact hgreen
  · exact hblue

theorem directBytes_colour {format : RgbFormat} (hformat : DirectFormat format)
    (calls : List ColorCall) (clut : ColorIndexMapping) (i : UInt8) :
    pixelColour (colourSet calls)
      (fun k => (directBytes clut (formatBpp format) i).getD k 0) format =
      directColour calls clut i format := by
  rcases hformat with rfl | rfl | rfl
  · rfl
  · obtain ⟨hred, hgreen, hblue⟩ := packed_short (clut.colour i)
    have hbytes : directBytes clut (formatBpp .r5g6b5) i =
        (List.range 2).map fun k => byteOf (packedColour (clut.colour i)) (2 + k) := rfl
    have hshort : shortAt (fun k => (directBytes clut (formatBpp .r5g6b5) i).getD k 0) =
        shortAt fun k => byteOf (packedColour (clut.colour i)) (2 + k) := by
      rw [hbytes]
      rfl
    rw [pixelColour, hshort, hred, hgreen, hblue]
    rfl
  · rfl

/-! ## The results -/

/-- The memory after `chip_BlitPlanar2Direct` at the pixels of its rectangle. -/
theorem direct_pixels {bm : PlanarBitMap} {ri : RenderInfo} {clut : ColorIndexMapping}
    {mask : UInt8} {x y dx dy w h : Int16} {width height : ℕ}
    (h24 : chipFormatBpp ri.rgbFormat ≠ 3)
    (hsurface : IsSurface ri (chipFormatBpp ri.rgbFormat) width height)
    (hr : (directRect dx dy w h).Within width height)
    (hcols : bm.HasColumns x (directSize w).toNat) (c : Canvas) :
    BlitResult ri (chipFormatBpp ri.rgbFormat) (ulong dx) (ulong dy) (directSize w).toNat
      (directSize h).toNat
      (fun col row => directBytes clut (chipFormatBpp ri.rgbFormat)
        (bm.index mask (ulong x + col, ulong y + row))) c.mem
      (chipBlitPlanar2Direct bm ri clut x y dx dy w h mask c).mem := by
  have hresult := BlitResult.of_altered
    (@blitPlanar2Direct_altered bm ri clut mask x y dx dy w h _ _ h24 hsurface hr hcols c)
  have hplace := sourcePlace_rect (directRect dx dy w h) x y
  simp only [directRect] at hplace hresult
  simpa only [hplace] using hresult

theorem chunky_pixels {bm : PlanarBitMap} {ri : RenderInfo} {mask : UInt8} {x y : Int16} {r : Rect}
    {width height : ℕ} (hsurface : IsSurface ri 1 width height) (hr : r.Within width height)
    (hcols : bm.HasColumns x r.w.toNat) (c : Canvas) :
    BlitResult ri 1 (ulong r.x) (ulong r.y) r.w.toNat r.h.toNat
      (fun col row => [bm.index mask (ulong x + col, ulong y + row)]) c.mem
      (chipBlitPlanar2Chunky bm ri x y r mask c).mem := by
  have hresult := BlitResult.of_altered
    (@blitPlanar2Chunky_altered bm ri r mask x y _ _ hsurface hr hcols c)
  simpa only [sourcePlace_rect] using hresult

/-- Where the destination has colour numbers both functions store them. -/
theorem direct_eq_chunky {bm : PlanarBitMap} {ri : RenderInfo} {clut : ColorIndexMapping}
    {mask : UInt8} {x y dx dy w h : Int16} (hclut : ri.rgbFormat = .clut) (c : Canvas)
    (hw : 0 < w) (hh : 0 < h) :
    chipBlitPlanar2Direct bm ri clut x y dx dy w h mask c =
      chipBlitPlanar2Chunky bm ri x y (directRect dx dy w h) mask c := by
  have hw' : directSize w = w.toUInt16 := if_neg (Int16.not_le.mpr hw)
  have hh' : directSize h = h.toUInt16 := if_neg (Int16.not_le.mpr hh)
  have hsizes : (ri.memory = 0 ∨ w ≤ 0 ∨ h ≤ 0) ↔
      (ri.memory = 0 ∨ (directRect dx dy w h).w = 0 ∨ (directRect dx dy w h).h = 0) := by
    rw [directRect, directSize_eq_zero, directSize_eq_zero]
  unfold chipBlitPlanar2Direct chipBlitPlanar2Chunky
  refine if_congr hsizes rfl ?_
  rw [hclut]
  simp only [directRect, hw', hh', chipFormatBpp]
  rfl

/-- For every bitmap in planes, mask, place in it and destination: each pixel becomes the number
whose bits are those of the enabled planes there, or what stands for that number, and no other byte
changes; sets of planes can be drawn separately; and with numbers as the destination both functions
do the same. -/
theorem planar_drawn (bm : PlanarBitMap) (ri : RenderInfo) (clut : ColorIndexMapping) (mask : UInt8)
    (x y : Int16) (c : Canvas) {width height : ℕ} :
    (∀ q p, (bm.index mask q).toNat.testBit p =
      (decide (p < 8) && bm.enabled mask p && bm.bit q p)) ∧
    (∀ q mask', bm.index (mask ||| mask') q = bm.index mask q ||| bm.index mask' q) ∧
    (∀ r : Rect, IsSurface ri 1 width height → r.Within width height →
      bm.HasColumns x r.w.toNat →
      BlitResult ri 1 (ulong r.x) (ulong r.y) r.w.toNat r.h.toNat
        (fun col row => [bm.index mask (ulong x + col, ulong y + row)]) c.mem
        (chipBlitPlanar2Chunky bm ri x y r mask c).mem) ∧
    ∀ dx dy w h : Int16,
      (∀ bpp, bpp = chipFormatBpp ri.rgbFormat → bpp ≠ 3 → IsSurface ri bpp width height →
        (directRect dx dy w h).Within width height → bm.HasColumns x (directSize w).toNat →
        BlitResult ri bpp (ulong dx) (ulong dy) (directSize w).toNat (directSize h).toNat
          (fun col row => directBytes clut bpp (bm.index mask (ulong x + col, ulong y + row)))
          c.mem (chipBlitPlanar2Direct bm ri clut x y dx dy w h mask c).mem) ∧
      (ri.rgbFormat = .clut → 0 < w → 0 < h →
        chipBlitPlanar2Direct bm ri clut x y dx dy w h mask c =
          chipBlitPlanar2Chunky bm ri x y (directRect dx dy w h) mask c) := by
  refine ⟨index_testBit bm mask, fun q mask' => index_or bm mask q mask', ?_, ?_⟩
  · exact fun r hsurface hr hcols => chunky_pixels hsurface hr hcols c
  · intro dx dy w h
    refine ⟨?_, fun hclut hw hh => direct_eq_chunky hclut c hw hh⟩
    rintro bpp rfl h24 hsurface hr hcols
    exact direct_pixels h24 hsurface hr hcols c

/-- Four columns of one row in each of two planes. -/
def twoPlanes : PlanarBitMap where
  bytesPerRow := 2
  depth := 2
  planes p := if p = 0 then some fun _ => 0xF0 else some fun _ => 0xCC

/-- Both planes, and the second one alone, from column 1 on. -/
theorem planar_drawn_two :
    let blank : Canvas := ⟨fun _ => 0, []⟩
    let ri : RenderInfo := ⟨0x1000, 8, .clut⟩
    pixel ri 1 (chipBlitPlanar2Chunky twoPlanes ri 1 0 ⟨3, 1, 4, 1⟩ 0xFF blank).mem 4 1 = [1] ∧
      pixel ri 1 (chipBlitPlanar2Chunky twoPlanes ri 1 0 ⟨3, 1, 4, 1⟩ 2 blank).mem 3 1 = [2] := by
  intro blank ri
  have hsurface : IsSurface ri 1 8 2 := ⟨by decide, by decide, by decide⟩
  have hr : (⟨3, 1, 4, 1⟩ : Rect).Within 8 2 := ⟨by decide, by decide⟩
  have hcols : twoPlanes.HasColumns 1 4 := by decide
  have hboth := (planar_drawn twoPlanes ri ⟨0, fun _ => 0⟩ 0xFF 1 0 blank).2.2.1 _ hsurface hr hcols
  have hsecond := (planar_drawn twoPlanes ri ⟨0, fun _ => 0⟩ 2 1 0 blank).2.2.1 _ hsurface hr hcols
  constructor
  · exact (hboth.pixels 0 (by decide) 1 (by decide)).trans (by decide)
  · exact (hsecond.pixels 0 (by decide) 0 (by decide)).trans (by decide)

/-- A pixel that has been drawn, as the converter finds it. -/
theorem pixel_getD {ri : RenderInfo} {bpp px py : ℕ} {m : Mem UInt8} {bytes : List UInt8}
    (h : pixel ri bpp m px py = bytes) :
    ∀ k < bpp, m (ri.address bpp px py + k) = bytes.getD k 0 := by
  intro k hk
  rw [← h, pixel, List.getD_eq_getElem?_getD, List.getElem?_map, List.getElem?_range hk]
  rfl

/-- For every bitmap in planes that is drawn to a destination of colour numbers, of 16 bits or of
`A8R8G8B8`, and all calls of `chip_SetColorArray`: the word that the frame gets for a pixel shows
the colour of its number, with the highest bits of each channel where there are 16. -/
theorem planar_shows (bm : PlanarBitMap) (ri : RenderInfo) (clut : ColorIndexMapping) (mask : UInt8)
    (x y dx dy w h : Int16) (c : Canvas) (calls : List ColorCall) {format : RgbFormat}
    (hformat : DirectFormat format) (hri : ri.rgbFormat = rgbfType format) {width height : ℕ}
    (hsurface : IsSurface ri (formatBpp format) width height)
    (hr : (directRect dx dy w h).Within width height)
    (hcols : bm.HasColumns x (directSize w).toNat) :
    ∀ row < (directSize h).toNat, ∀ col < (directSize w).toNat,
      ShowsColour
        (directColour calls clut (bm.index mask (ulong x + col, ulong y + row)) format)
        (byteOf (converted format (paletteAfter calls)
          (chipBlitPlanar2Direct bm ri clut x y dx dy w h mask c).mem
          (ri.address (formatBpp format) (ulong dx + col) (ulong dy + row)))) := by
  intro row hrow col hcol
  have hsupported : format.hasRowConverter = true := by
    rcases hformat with rfl | rfl | rfl <;> rfl
  have h24 : chipFormatBpp ri.rgbFormat ≠ 3 := by
    rw [hri]
    rcases hformat with rfl | rfl | rfl <;> decide
  have hdrawn := @direct_pixels bm ri clut mask x y dx dy w h width height h24
    (hri.symm ▸ hsurface) hr hcols c
  rw [hri] at hdrawn
  have hbytes := pixel_getD (hdrawn.pixels row hrow col hcol)
  rw [← directBytes_colour hformat, converted_shift, converted_congr format _ hbytes]
  exact converted_shows hsupported calls _

/-- Colour 3 in 16 bits. -/
theorem planar_shows_packed :
    let clut : ColorIndexMapping := ⟨0x00FFFFFF, fun i => if i = 3 then 0x00FF8040 else 0⟩
    let ri : RenderInfo := ⟨0x1000, 16, .r5g6b5⟩
    ShowsColour ⟨0xFF, 0x82, 0x42⟩ (byteOf (converted .r5g6b5 (paletteAfter [])
      (chipBlitPlanar2Direct twoPlanes ri clut 0 0 2 0 1 1 0xFF ⟨fun _ => 0, []⟩).mem
      (ri.address 2 2 0))) := by
  intro clut ri
  have hsurface : IsSurface ri (formatBpp .r5g6b5) 8 1 := ⟨by decide, by decide, by decide⟩
  have hr : (directRect 2 0 1 1).Within 8 1 := ⟨by decide, by decide⟩
  have hshows := planar_shows twoPlanes ri clut 0xFF 0 0 2 0 1 1 ⟨fun _ => 0, []⟩ []
    (Or.inr (Or.inl rfl)) rfl hsurface hr (by decide) 0 (by decide) 0 (by decide)
  have hcolour : directColour [] clut (twoPlanes.index 0xFF (0, 0)) .r5g6b5 =
      ⟨0xFF, 0x82, 0x42⟩ := by decide
  exact hcolour ▸ hshows

end VirtIOGPU.Drawing
