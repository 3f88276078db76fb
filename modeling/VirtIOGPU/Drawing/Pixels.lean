import VirtIOGPU.Drawing.Frame
import VirtIOGPU.Lib.Cells

/-!
# Drawing pixel by pixel

What `chip_BlitTemplate`, `chip_BlitPattern` and `chip_DrawLine` do to one pixel, for the three
sizes of a pixel and the draw modes, and the loop of the first two over a rectangle.  The pixels
of a surface are cells that do not overlap, so that whatever draws them alters a set of cells
(`Lib.Memory.Altered`).

Coordinates are signed words; the address of a pixel is computed from them as `ULONG`s, and a
rectangle is in bounds when these are.
-/

namespace VirtIOGPU.Drawing

open Lib.Memory

/-! ## The canvas -/

/-- The last four arguments of a drawing function. -/
structure Rect where
  x : Int16
  y : Int16
  w : UInt16
  h : UInt16
  deriving DecidableEq, Repr

/-- Board memory, and what `chip_flush` has been called with. -/
structure Canvas where
  mem : Mem UInt8
  flushed : List Rect

/-- `(ULONG)v`. -/
def ulong (v : Int16) : ℕ := v.toInt32.toUInt32.toNat

theorem ulong_mod (v : Int16) : ulong v % 2 ^ 16 = v.toUInt16.toNat := by
  change (v.toBitVec.signExtend 32).toNat % 2 ^ 16 = v.toBitVec.toNat
  have hlt := v.toBitVec.isLt
  rw [BitVec.toNat_signExtend, BitVec.toNat_setWidth]
  split <;> omega

/-! ## One pixel -/

def COMPLEMENT : UInt8 := 2

def JAM2 : UInt8 := 1

/-- `*p = pen`, in the size of the format. -/
def setPen (format : RgbfType) (pen : UInt32) (p : ℕ) : Mem UInt8 → Mem UInt8 :=
  if format = .clut then storeByte p pen.toUInt8
  else if chipFormatBpp format = 2 then storeWord p pen.toUInt16
  else storeLong p pen

/-- `*p ^= 0xFF`, `0xFFFF` or `0xFFFFFFFF`. -/
def invert (format : RgbfType) (p : ℕ) (m : Mem UInt8) : Mem UInt8 :=
  if format = .clut then storeByte p (m p ^^^ 0xFF) m
  else if chipFormatBpp format = 2 then storeWord p (loadWord m p ^^^ 0xFFFF) m
  else storeLong p (loadLong m p ^^^ 0xFFFFFFFF) m

/-- How many bytes the two write: those of a pixel, and for the formats of three bytes one more. -/
def penSize (format : RgbfType) : ℕ :=
  if format = .clut then 1 else if chipFormatBpp format = 2 then 2 else 4

/-- The body of the inner loop of `chip_BlitTemplate` and `chip_BlitPattern`. -/
def expandBit (format : RgbfType) (drawmode : UInt8) (fg bg : UInt32) (bitSet : Bool) (p : ℕ)
    (m : Mem UInt8) : Mem UInt8 :=
  if drawmode &&& COMPLEMENT ≠ 0 then
    if bitSet then invert format p m else m
  else if drawmode &&& 0x03 = JAM2 then
    setPen format (if bitSet then fg else bg) p m
  else
    if bitSet then setPen format fg p m else m

/-! ## Single bits -/

theorem bit_and_one (x n : ℕ) : decide ((x >>> n) &&& 1 ≠ 0) = x.testBit n := by
  rw [Nat.testBit, Nat.and_comm]
  cases h : 1 &&& x >>> n with
  | zero => rfl
  | succ k => rfl

/-- Bit `n` of a word, counted from the highest one. -/
theorem shifted_bit (v : UInt16) {n : UInt16} (hn : n.toNat < 16) :
    decide ((v >>> (15 - n)) &&& 1 ≠ 0) = v.toNat.testBit (15 - n.toNat) := by
  have hshift : (15 - n).toNat % 16 = 15 - n.toNat := by
    rw [UInt16.toNat_sub_of_le]
    · change (15 - n.toNat) % 16 = _
      omega
    · rw [UInt16.le_iff_toNat_le]
      change n.toNat ≤ 15
      omega
  have hzero (v : UInt16) : v ≠ 0 ↔ v.toNat ≠ 0 := by
    rw [Ne, ← UInt16.toNat_inj]
    rfl
  simp only [hzero, UInt16.toNat_and, UInt16.toNat_shiftRight, hshift]
  exact bit_and_one _ _

/-! ## What a pixel becomes -/

/-- A pen in the bytes of a pixel. -/
def penBytes (bpp : ℕ) (pen : UInt32) : List UInt8 :=
  (List.range bpp).map fun k => byteOf pen (4 - bpp + k)

def inverted (old : List UInt8) : List UInt8 := old.map (· ^^^ 0xFF)

/-- What a pixel becomes: `COMPLEMENT` inverts it where the bit is set, `JAM2` draws with both
pens, and `JAM1` with the first one where the bit is set. -/
def drawn (bpp : ℕ) (drawmode : UInt8) (fg bg : UInt32) (bit : Bool) (old : List UInt8) :
    List UInt8 :=
  if drawmode &&& COMPLEMENT ≠ 0 then
    if bit then inverted old else old
  else if drawmode &&& 0x03 = JAM2 then
    penBytes bpp (if bit then fg else bg)
  else
    if bit then penBytes bpp fg else old

section

variable {format : RgbfType} {m : Mem UInt8} {p : ℕ}

theorem bpp_eq_one (format : RgbfType) : chipFormatBpp format = 1 ↔ format = .clut := by
  cases format <;> simp [chipFormatBpp]

theorem bpp_eq_four (h24 : chipFormatBpp format ≠ 3) (hclut : format ≠ .clut)
    (htwo : chipFormatBpp format ≠ 2) : chipFormatBpp format = 4 := by
  have hne := mt (bpp_eq_one format).mp hclut
  cases format <;> simp_all [chipFormatBpp]

theorem penSize_eq (h24 : chipFormatBpp format ≠ 3) : penSize format = chipFormatBpp format := by
  unfold penSize
  by_cases hclut : format = .clut
  · subst hclut
    rfl
  · rw [if_neg hclut]
    by_cases htwo : chipFormatBpp format = 2
    · rw [if_pos htwo, htwo]
    · rw [if_neg htwo, bpp_eq_four h24 hclut htwo]

theorem setPen_eq (pen : UInt32) :
    setPen format pen p m = overwrite p (penSize format)
      (fun k => byteOf pen (4 - penSize format + k)) m := by
  unfold setPen penSize
  by_cases hclut : format = .clut
  · rw [if_pos hclut, if_pos hclut]
    apply overwrite_congr
    intro k hk
    rw [Nat.lt_one_iff.mp hk]
    exact (byteOf_three pen).symm
  · rw [if_neg hclut, if_neg hclut]
    by_cases htwo : chipFormatBpp format = 2
    · rw [if_pos htwo, if_pos htwo]
      exact storeWord_toUInt16 p pen m
    · rw [if_neg htwo, if_neg htwo]
      apply overwrite_congr
      intro k _
      rw [Nat.sub_self, Nat.zero_add]

theorem invert_eq :
    invert format p m = overwrite p (penSize format) (fun k => m (p + k) ^^^ 0xFF) m := by
  unfold invert penSize
  by_cases hclut : format = .clut
  · rw [if_pos hclut, if_pos hclut]
    apply overwrite_congr
    intro k hk
    rw [Nat.lt_one_iff.mp hk, Nat.add_zero]
  · rw [if_neg hclut, if_neg hclut]
    by_cases htwo : chipFormatBpp format = 2
    · rw [if_pos htwo, if_pos htwo]
      exact storeWord_xor p m
    · rw [if_neg htwo, if_neg htwo]
      apply overwrite_congr
      intro k hk
      rw [byteOf_xor, byteOf_loadLong m p hk]
      obtain rfl | rfl | rfl | rfl : k = 0 ∨ k = 1 ∨ k = 2 ∨ k = 3 := by omega
      all_goals rfl

end

/-! ## Pixels are cells -/

/-- Where the cell of a pixel starts. -/
def pixelAt (ri : RenderInfo) (bpp : ℕ) (q : ℕ × ℕ) : ℕ := ri.address bpp q.1 q.2

/-- The pixel belongs to the rectangle. -/
def Rect.Contains (r : Rect) (q : ℕ × ℕ) : Prop :=
  (ulong r.x ≤ q.1 ∧ q.1 < ulong r.x + r.w.toNat) ∧
    ulong r.y ≤ q.2 ∧ q.2 < ulong r.y + r.h.toNat

/-- The rectangle lies inside `width` by `height` pixels. -/
def Rect.Within (r : Rect) (width height : ℕ) : Prop :=
  InBounds width height (ulong r.x) (ulong r.y) r.w.toNat r.h.toNat

section

variable {ri : RenderInfo} {bpp width height : ℕ}

theorem IsSurface.row_fits (hsurface : IsSurface ri bpp width height) {x y w : ℕ}
    (hright : x + w ≤ width) (hrow : y < height) :
    ri.memory ≤ ri.address bpp x y ∧
      ri.address bpp x y + w * bpp ≤ ri.memory + height * ri.bytesPerRow := by
  have hbytes := hsurface.row_le hright
  have hend : (y + 1) * ri.bytesPerRow ≤ height * ri.bytesPerRow := Nat.mul_le_mul_right _ hrow
  rw [Nat.succ_mul] at hend
  unfold RenderInfo.address
  omega

theorem IsSurface.pixel_fits (hsurface : IsSurface ri bpp width height) {x y : ℕ} (hx : x < width)
    (hy : y < height) :
    ri.memory ≤ ri.address bpp x y ∧
      ri.address bpp x y + bpp ≤ ri.memory + height * ri.bytesPerRow := by
  have hrow := hsurface.row_fits (w := 1) hx hy
  rwa [Nat.one_mul] at hrow

/-- Different pixels of a surface do not overlap. -/
theorem IsSurface.cells_apart (hsurface : IsSurface ri bpp width height) {q q' : ℕ × ℕ}
    (hq : q.1 < width) (hq' : q'.1 < width) (hne : q ≠ q') :
    Apart (pixelAt ri bpp q) bpp (pixelAt ri bpp q') bpp := by
  have hrow : (0 + width) * bpp ≤ ri.bytesPerRow := by
    rw [Nat.zero_add]
    exact hsurface.stride
  obtain ⟨hdiv, hmod⟩ := index_div_mod hq q.2
  obtain ⟨hdiv', hmod'⟩ := index_div_mod hq' q'.2
  have hindex : q.2 * width + q.1 ≠ q'.2 * width + q'.1 := by
    intro heq
    rw [heq] at hdiv hmod
    exact hne (Prod.ext (hmod.symm.trans hmod') (hdiv.symm.trans hdiv'))
  have hapart := pixels_apart (y := 0) hrow (by omega) hindex
  simp only [Nat.zero_add] at hapart
  rwa [hdiv, hmod, hdiv', hmod'] at hapart

/-- A pixel is drawn, wherever the pixels are. -/
theorem expandBit_altered {ι : Type*} {start : ι → ℕ} (format : RgbfType) (drawmode : UInt8)
    (fg bg : UInt32) (bit : ι → Bool) (q : ι) (m : Mem UInt8) :
    Altered start (penSize format)
      (fun q => drawn (penSize format) drawmode fg bg (bit q)) (· = q) m
      (expandBit format drawmode fg bg (bit q) (start q) m) := by
  have hinverted : (List.range (penSize format)).map (fun k => m (start q + k) ^^^ 0xFF) =
      inverted (cell start (penSize format) m q) := by
    rw [inverted, cell, List.map_map]
    rfl
  unfold expandBit
  by_cases hcomplement : drawmode &&& COMPLEMENT ≠ 0
  · rw [if_pos hcomplement]
    by_cases hbit : bit q = true
    · rw [if_pos hbit, invert_eq]
      apply Altered.single
      rw [drawn, if_pos hcomplement, if_pos hbit]
      exact hinverted
    · rw [if_neg hbit]
      apply Altered.keep
      rw [drawn, if_pos hcomplement, if_neg hbit]
  · rw [if_neg hcomplement]
    by_cases hjam2 : drawmode &&& 0x03 = JAM2
    · rw [if_pos hjam2, setPen_eq]
      apply Altered.single
      rw [drawn, if_neg hcomplement, if_pos hjam2, penBytes]
    · rw [if_neg hjam2]
      by_cases hbit : bit q = true
      · rw [if_pos hbit, setPen_eq]
        apply Altered.single
        rw [drawn, if_neg hcomplement, if_neg hjam2, if_pos hbit, penBytes]
      · rw [if_neg hbit]
        apply Altered.keep
        rw [drawn, if_neg hcomplement, if_neg hjam2, if_neg hbit]

end

/-! ## Rectangles -/

/-- The loops over the rows and columns of a rectangle. -/
def expandRect (ri : RenderInfo) (r : Rect) (format : RgbfType) (drawmode : UInt8)
    (fg bg : UInt32) (bitSet : ℕ → ℕ → Bool) : Mem UInt8 → Mem UInt8 :=
  let bpp := chipFormatBpp format
  let dstBase := ri.address bpp (ulong r.x) (ulong r.y)
  up r.h.toNat fun row =>
    let dstRow := dstBase + row * ri.bytesPerRow
    up r.w.toNat fun col =>
      expandBit format drawmode fg bg (bitSet row col) (dstRow + col * bpp)

section

variable {ri : RenderInfo} {r : Rect} {format : RgbfType} {width height : ℕ}

/-- The pixels of a rectangle, counted row by row. -/
theorem Rect.contains_iff (r : Rect) (q : ℕ × ℕ) :
    (∃ i < r.h.toNat * r.w.toNat, q = (ulong r.x + i % r.w.toNat, ulong r.y + i / r.w.toNat)) ↔
      r.Contains q := by
  constructor
  · rintro ⟨i, hi, rfl⟩
    have hw : 0 < r.w.toNat := Nat.pos_of_mul_pos_left (Nat.zero_lt_of_lt hi)
    have hrow : i / r.w.toNat < r.h.toNat := Nat.div_lt_of_lt_mul (by rwa [Nat.mul_comm])
    have hcol := Nat.mod_lt i hw
    exact ⟨⟨Nat.le_add_right _ _, Nat.add_lt_add_left hcol _⟩, Nat.le_add_right _ _,
      Nat.add_lt_add_left hrow _⟩
  · rintro ⟨⟨hleft, hright⟩, htop, hbottom⟩
    have hcol : q.1 - ulong r.x < r.w.toNat := by omega
    have hrow : q.2 - ulong r.y < r.h.toNat := by omega
    obtain ⟨hdiv, hmod⟩ := index_div_mod hcol (q.2 - ulong r.y)
    refine ⟨_, index_lt hcol hrow, ?_⟩
    rw [hdiv, hmod]
    exact Prod.ext (by omega) (by omega)

theorem Rect.Within.inside (hr : r.Within width height) {q : ℕ × ℕ} (hq : r.Contains q) :
    q.1 < width ∧ q.2 < height :=
  ⟨hq.1.2.trans_le hr.right, hq.2.2.trans_le hr.bottom⟩

/-- The last pixel of a rectangle shows how far it reaches. -/
theorem Rect.within_of_inside (hw : r.w ≠ 0) (hh : r.h ≠ 0)
    (hinside : ∀ q, r.Contains q → q.1 < width ∧ q.2 < height) : r.Within width height := by
  have hpos : 0 < r.w.toNat := Nat.pos_of_ne_zero fun h => hw (UInt16.toNat_inj.mp h)
  have hpos' : 0 < r.h.toNat := Nat.pos_of_ne_zero fun h => hh (UInt16.toNat_inj.mp h)
  have hlast := hinside (ulong r.x + r.w.toNat - 1, ulong r.y + r.h.toNat - 1) (by
    unfold Rect.Contains
    omega)
  exact ⟨by omega, by omega⟩

/-- A rectangle is drawn: its pixels are altered, each by the bit that belongs to it. -/
theorem expandRect_altered (h24 : chipFormatBpp format ≠ 3)
    (hsurface : IsSurface ri (chipFormatBpp format) width height) (hr : r.Within width height)
    (drawmode : UInt8) (fg bg : UInt32) {bitSet : ℕ → ℕ → Bool} {bit : ℕ × ℕ → Bool}
    (hbit : ∀ row < r.h.toNat, ∀ col < r.w.toNat,
      bit (ulong r.x + col, ulong r.y + row) = bitSet row col) (m : Mem UInt8) :
    Altered (pixelAt ri (chipFormatBpp format)) (chipFormatBpp format)
      (fun q => drawn (chipFormatBpp format) drawmode fg bg (bit q)) r.Contains m
      (expandRect ri r format drawmode fg bg bitSet m) := by
  have hflat : expandRect ri r format drawmode fg bg bitSet m =
      up (r.h.toNat * r.w.toNat) (fun i => expandBit format drawmode fg bg
        (bitSet (i / r.w.toNat) (i % r.w.toNat))
        (ri.address (chipFormatBpp format) (ulong r.x) (ulong r.y) +
          i / r.w.toNat * ri.bytesPerRow + i % r.w.toNat * chipFormatBpp format)) m :=
    (@up_mul _ _ _ (fun row col => expandBit format drawmode fg bg (bitSet row col)
      (ri.address (chipFormatBpp format) (ulong r.x) (ulong r.y) +
        row * ri.bytesPerRow + col * chipFormatBpp format)) m).symm
  rw [hflat]
  refine (Altered.loop (fun i => (ulong r.x + i % r.w.toNat, ulong r.y + i / r.w.toNat)) ?_
    ?_).congr (fun q => (r.contains_iff q).symm) fun _ _ => rfl
  · intro i hi m
    have hw : 0 < r.w.toNat := Nat.pos_of_mul_pos_left (Nat.zero_lt_of_lt hi)
    have hrow : i / r.w.toNat < r.h.toNat := Nat.div_lt_of_lt_mul (by rwa [Nat.mul_comm])
    have haddr := @address_col ri (chipFormatBpp format) (ulong r.x) (ulong r.y) (i % r.w.toNat)
      (i / r.w.toNat) 0
    rw [Nat.add_zero, Nat.add_zero] at haddr
    have hpixel := @expandBit_altered _ (pixelAt ri (chipFormatBpp format)) format drawmode fg bg
      bit (ulong r.x + i % r.w.toNat, ulong r.y + i / r.w.toNat) m
    rw [← haddr, ← hbit _ hrow _ (Nat.mod_lt i hw)]
    rwa [penSize_eq h24] at hpixel
  · intro i hi j hj
    have hw : 0 < r.w.toNat := Nat.pos_of_mul_pos_left (Nat.zero_lt_of_lt hi)
    have hrow : (ulong r.x + r.w.toNat) * chipFormatBpp format ≤ ri.bytesPerRow :=
      (Nat.mul_le_mul_right _ hr.right).trans hsurface.stride
    exact pixels_apart hrow hw (Nat.ne_of_lt hj)

/-- Altered pixels of a rectangle, row by row. -/
theorem BlitResult.of_altered {new : ℕ × ℕ → List UInt8 → List UInt8} {bpp : ℕ}
    {m t : Mem UInt8} (h : Altered (pixelAt ri bpp) bpp new r.Contains m t) :
    BlitResult ri bpp (ulong r.x) (ulong r.y) r.w.toNat r.h.toNat
      (fun col row => new (ulong r.x + col, ulong r.y + row)
        (pixel ri bpp m (ulong r.x + col) (ulong r.y + row))) m t where
  pixels row hrow col hcol := by
    apply h.inside (ulong r.x + col, ulong r.y + row)
    unfold Rect.Contains
    omega
  others a ha := by
    apply h.outside
    rintro ⟨X, Y⟩ ⟨⟨hleft, hright⟩, htop, hbottom⟩ hin
    obtain ⟨col, rfl⟩ := Nat.exists_eq_add_of_le hleft
    obtain ⟨row, rfl⟩ := Nat.exists_eq_add_of_le htop
    exact ha row (by omega) col (by omega) hin

/-- Two rectangles without a common pixel. -/
theorem Rect.cells_apart {r' : Rect} {bpp : ℕ} (hsurface : IsSurface ri bpp width height)
    (hr : ∀ q, r.Contains q → q.1 < width ∧ q.2 < height)
    (hr' : ∀ q, r'.Contains q → q.1 < width ∧ q.2 < height)
    (hdisjoint : ∀ q, ¬ (r.Contains q ∧ r'.Contains q)) :
    CellsApart (pixelAt ri bpp) bpp r.Contains r'.Contains := by
  intro q hq q' hq'
  apply hsurface.cells_apart (hr q hq).1 (hr' q' hq').1
  rintro rfl
  exact hdisjoint q ⟨hq, hq'⟩

end

end VirtIOGPU.Drawing
