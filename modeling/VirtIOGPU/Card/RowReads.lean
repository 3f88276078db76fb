import VirtIOGPU.Card.Panning

/-!
# What a flush reads of the panned bitmap

`chip_convert_rect` clamps the horizontal offset against the width of the bitmap, but not the
number of pixels that it converts, and it measures the rows in `active_format`, which `chip_SetGC`
may have overwritten since `chip_SetPanning`.  So there are two ways past the end of a row.

```text
  the bitmap is narrower than the visible part       columns beyond its width are converted
  the pixels of active_format are longer             a row of them is longer than one of the bitmap,
                                                     and every later one begins too late as well
```

The rows are those of the bitmap that the callers have selected: as many bytes as its width takes
in the format that `chip_SetPanning` gave.  A read is inside (`RowConversion.Inside`) if it lies in
a column of the bitmap and ends no later than the row that is shown there, so neither the row after
it nor, below the last one, anything beyond the bitmap is touched.

`rows_not_overrun_iff` says exactly when all reads are inside, in every state that calls of the two
callbacks reach.  Offsets do not matter, nor do shorter pixels.  Longer ones move every row away
from its place by as much as the rows before it have grown, so the last row of the window decides
(`GpuState.NoWrap.rowsFit_iff`), and it ends in time only where hardly a row is shown
(`GpuState.LongPixelsFit.rows_le`).  Only for a window that begins beyond what the 32 bits of the
driver can count is the condition one on every row.
-/

namespace VirtIOGPU.Card

open Lib Lib.Machine Lib.Memory Drawing

/-! ## The rows of a conversion -/

/-- One call of the row converter. -/
structure RowConversion where
  /-- The row of the bitmap. -/
  row : ℕ
  /-- Where the driver has it begin. -/
  line : ℕ
  src : ℕ
  dst : ℕ
  count : ℕ

/-- `src_stride`. -/
def GpuState.srcStride (gs : GpuState) : UInt32 :=
  gs.srcWidth * UInt32.ofNat (formatBpp gs.activeFormat)

def GpuState.rowConversion (address : ℕ → ℕ) (gs : GpuState) (dst : ℕ) (x w row : UInt32) :
    RowConversion :=
  let line := address gs.srcBase + ((row + gs.panY) * gs.srcStride).toNat
  { row := (row + gs.panY).toNat
    line := line
    src := line + ((x + gs.panX) * UInt32.ofNat (formatBpp gs.activeFormat)).toNat
    dst := address dst + (row * gs.fbStride).toNat + (x * 4).toNat
    count := w.toNat }

/-- The calls of `chip_convert_rect`, where the format has a converter. -/
def rowConversions (address : ℕ → ℕ) (gs : GpuState) (dst : ℕ) (x y w h : UInt32) :
    List RowConversion :=
  if gs.srcBase = 0 ∨ dst = 0 ∨ gs.activeFormat.hasRowConverter = false then []
  else
    let w := clampExtent x w gs.visibleWidth
    let h := clampExtent y h gs.visibleHeight
    if w = 0 ∨ h = 0 then []
    else
      (List.range ((y + h).toNat - y.toNat)).map fun i =>
        gs.rowConversion address dst x w (y + UInt32.ofNat i)

/-- `chip_convert_rect` makes these calls, one after the other. -/
theorem chipConvertRect_rows (address : ℕ → ℕ) (palette : Palette) (gs : GpuState) (dst : ℕ)
    (x y w h : UInt32) (m : Mem UInt8) :
    chipConvertRect address palette gs dst x y w h m =
      (rowConversions address gs dst x y w h).foldl
        (fun m r => convRow (formatBpp gs.activeFormat) (converted gs.activeFormat palette)
          r.src r.dst r.count m) m := by
  unfold chipConvertRect rowConversions
  by_cases hnull : gs.srcBase = 0 ∨ dst = 0
  · have hnone : gs.srcBase = 0 ∨ dst = 0 ∨ gs.activeFormat.hasRowConverter = false := by tauto
    rw [if_pos hnull, if_pos hnone]
    rfl
  rw [if_neg hnull]
  cases hsupported : gs.activeFormat.hasRowConverter with
  | false =>
      have hpick : chipPickRowConverter gs.activeFormat = none := by
        rw [← chipPickRowConverter_isSome] at hsupported
        exact Option.not_isSome_iff_eq_none.mp (Bool.eq_false_iff.mp hsupported)
      rw [hpick, if_pos (Or.inr (Or.inr rfl))]
      rfl
  | true =>
      obtain ⟨conv, hpick, hconv⟩ := chipPickRowConverter_eq hsupported
      have hsome : ¬ (gs.srcBase = 0 ∨ dst = 0 ∨ true = false) := by simpa using hnull
      rw [hpick, if_neg hsome]
      dsimp only
      split
      · rfl
      · rw [List.foldl_map]
        simp only [up, hconv]
        rfl

/-- There is something to convert. -/
def GpuState.Converts (gs : GpuState) : Prop :=
  gs.srcBase ≠ 0 ∧ gs.activeFormat.hasRowConverter = true ∧ gs.visibleWidth ≠ 0 ∧
    gs.visibleHeight ≠ 0

instance (gs : GpuState) : Decidable gs.Converts := inferInstanceAs (Decidable (_ ∧ _))

/-! ## The rows of the bitmap -/

/-- `chip_format_bpp`, with the formats without a converter as the headers of the system number
them. -/
def formatBytes (otherBytes : UInt32 → ℕ) : RgbFormat → ℕ
  | .other code => otherBytes code
  | format => formatBpp format

/-- Pixels in a row, and bytes in a pixel. -/
structure BitmapRows where
  width : ℕ
  bpp : ℕ

def BitmapRows.bytesPerRow (rows : BitmapRows) : ℕ := rows.width * rows.bpp

/-- The rows of the bitmap that is selected: before the first `chip_SetPanning` all of board memory
counts as a bitmap in the mode. -/
def GpuState.bitmapRows (otherBytes : UInt32 → ℕ) (gs : GpuState) : Option Selection → BitmapRows
  | none => ⟨gs.activeWidth.toNat, formatBpp gs.activeFormat⟩
  | some s => ⟨s.bitmap.width.toNat, formatBytes otherBytes s.bitmap.format⟩

/-- The pixels that the row converter reads, `bpp` bytes each, lie in columns of the bitmap and end
no later than the row does in the bitmap at `base`. -/
def RowConversion.Inside (r : RowConversion) (base bpp : ℕ) (rows : BitmapRows) : Prop :=
  ∀ col < r.count, (∃ k < rows.width, r.src + bpp * col = r.line + bpp * k) ∧
    r.src + bpp * col + bpp ≤ base + (r.row + 1) * rows.bytesPerRow

/-- Every frame that is converted from this state.  The extents may be those of an earlier
state. -/
def GpuState.ReadsInside (address : ℕ → ℕ) (gs : GpuState) (rows : BitmapRows) : Prop :=
  ∀ dst w h, ∀ r ∈ rowConversions address gs dst 0 0 w h,
    r.Inside (address gs.srcBase) (formatBpp gs.activeFormat) rows

/-- The end of a row, in pixels of `active_format`, lies no later than in the bitmap. -/
def GpuState.RowFits (gs : GpuState) (rows : BitmapRows) (row : UInt32) : Prop :=
  (row * gs.srcStride).toNat +
      (gs.panX.toNat + gs.visibleWidth.toNat) * formatBpp gs.activeFormat ≤
    (row.toNat + 1) * rows.bytesPerRow

/-! ## Longer pixels -/

/-- Where the window begins in the bitmap: the offsets of `chip_SetPanning`, none of them negative,
as far as the bitmap and the frame buffer allow. -/
def GpuState.firstColumn (gs : GpuState) (rows : BitmapRows) : ℕ :=
  min gs.panXoff.toNatClampNeg (rows.width - gs.visibleWidth.toNat)

def GpuState.firstRow (gs : GpuState) : ℕ :=
  min gs.panYoff.toNatClampNeg (gs.fbHeight.toNat - gs.visibleHeight.toNat)

/-- The 32 bits of the driver can count the bytes up to the window. -/
def GpuState.NoWrap (gs : GpuState) (rows : BitmapRows) : Prop :=
  gs.panYoff.toNatClampNeg + gs.visibleHeight.toNat < 2 ^ 32 ∧
    gs.firstRow * (rows.width * formatBpp gs.activeFormat) < 2 ^ 32

instance (gs : GpuState) (rows : BitmapRows) : Decidable (gs.NoWrap rows) :=
  inferInstanceAs (Decidable (_ ∧ _))

/-- What the rows up to the last visible one are longer by leaves room for the window in a row. -/
def GpuState.LongPixelsFit (gs : GpuState) (rows : BitmapRows) : Prop :=
  if gs.NoWrap rows then
    (gs.firstRow + gs.visibleHeight.toNat - 1) *
          (rows.width * (formatBpp gs.activeFormat - rows.bpp)) +
        (gs.firstColumn rows + gs.visibleWidth.toNat) * formatBpp gs.activeFormat ≤
      rows.bytesPerRow
  else ∀ i < gs.visibleHeight.toNat, gs.RowFits rows (UInt32.ofNat i + gs.panY)

/-! ## Where the rows are kept -/

theorem clampExtent_le (w visible : UInt32) : clampExtent 0 w visible ≤ visible := by
  unfold clampExtent
  rw [UInt32.zero_add, UInt32.sub_zero]
  split
  · exact UInt32.le_rfl
  · next hnot => exact UInt32.not_lt.mp hnot

/-- A clamped offset leaves the visible part inside, if it fits at all. -/
theorem toNat_clampPan {pan visible size : UInt32} (hle : visible.toNat ≤ size.toNat)
    (hsum : pan.toNat + visible.toNat < 2 ^ 32) :
    (clampPan pan visible size).toNat = min pan.toNat (size.toNat - visible.toNat) := by
  have hadd := toNat_add_of_lt hsum
  unfold clampPan
  split
  · next hbeyond =>
      rw [gt_iff_lt, UInt32.lt_iff_toNat_lt, hadd] at hbeyond
      split
      · rw [UInt32.toNat_sub_of_le _ _ (UInt32.le_iff_toNat_le.mpr hle)]
        omega
      · next hsame =>
          rw [gt_iff_lt, UInt32.lt_iff_toNat_lt] at hsame
          rw [UInt32.toNat_zero]
          omega
  · next hnot =>
      rw [gt_iff_lt, UInt32.lt_iff_toNat_lt, hadd] at hnot
      omega

section

variable {address : ℕ → ℕ} {gs : GpuState} {otherBytes : UInt32 → ℕ}
  {selected : Option Selection}

/-- What the conversions of a frame have in common. -/
theorem mem_rowConversions {dst : ℕ} {w h : UInt32} {r : RowConversion}
    (hr : r ∈ rowConversions address gs dst 0 0 w h) :
    gs.Converts ∧ ∃ w' ≤ gs.visibleWidth, ∃ i < gs.visibleHeight.toNat,
      r = gs.rowConversion address dst 0 w' (UInt32.ofNat i) := by
  have hw := clampExtent_le w gs.visibleWidth
  have hh := clampExtent_le h gs.visibleHeight
  unfold rowConversions at hr
  split at hr
  · exact absurd hr List.not_mem_nil
  · next hpresent =>
      dsimp only at hr
      split at hr
      · exact absurd hr List.not_mem_nil
      · next hne =>
          obtain ⟨i, hi, rfl⟩ := List.mem_map.mp hr
          refine ⟨⟨fun h0 => hpresent (Or.inl h0), ?_, fun h0 => hne (Or.inl ?_),
            fun h0 => hne (Or.inr ?_)⟩, _, hw, i, ?_, by rw [UInt32.zero_add]⟩
          · exact Bool.not_eq_false _ ▸ fun h0 => hpresent (Or.inr (Or.inr h0))
          · exact UInt32.le_zero_iff.mp (hw.trans_eq h0)
          · exact UInt32.le_zero_iff.mp (hh.trans_eq h0)
          · rw [List.mem_range, UInt32.zero_add] at hi
            have hle := UInt32.le_iff_toNat_le.mp hh
            omega

/-- The rows of a full frame. -/
theorem exists_rowConversion (address : ℕ → ℕ) (hconverts : gs.Converts) {i : ℕ}
    (hi : i < gs.visibleHeight.toNat) :
    gs.rowConversion address 1 0 gs.visibleWidth (UInt32.ofNat i) ∈
      rowConversions address gs 1 0 0 gs.visibleWidth gs.visibleHeight := by
  obtain ⟨hsrc, hsupported, hw, hh⟩ := hconverts
  unfold rowConversions
  rw [if_neg (by simp [hsrc, hsupported])]
  simp only [clampExtent_self, hw, hh, or_self, if_false]
  refine List.mem_map.mpr ⟨i, List.mem_range.mpr ?_, by rw [UInt32.zero_add]⟩
  rw [UInt32.zero_add]
  exact hi

/-- The driver knows how wide the bitmap is. -/
theorem GpuState.Follows.srcWidth_eq (hfollows : gs.Follows selected)
    (hne : (gs.bitmapRows otherBytes selected).width ≠ 0) :
    gs.srcWidth.toNat = (gs.bitmapRows otherBytes selected).width := by
  unfold GpuState.srcWidth
  cases selected with
  | none =>
      rw [if_neg (not_not_intro hfollows.1)]
      rfl
  | some s =>
      have hwidth := hfollows.width_toNat
      rw [if_pos fun h0 => hne ?_]
      · exact hwidth
      · rw [h0, UInt32.toNat_zero] at hwidth
        exact hwidth.symm

/-- The column at which the driver begins is the one where the window does. -/
theorem GpuState.Follows.panX_eq (hfollows : gs.Follows selected) (hw : gs.visibleWidth ≠ 0)
    (hwide : gs.visibleWidth.toNat ≤ (gs.bitmapRows otherBytes selected).width) :
    gs.panX.toNat = gs.firstColumn (gs.bitmapRows otherBytes selected) := by
  have hvisible := toNat_pos hw
  have hsrcWidth : gs.srcWidth.toNat = (gs.bitmapRows otherBytes selected).width :=
    hfollows.srcWidth_eq (by omega)
  unfold GpuState.firstColumn GpuState.panX
  rw [← hsrcWidth] at hwide ⊢
  cases selected with
  | none =>
      -- no offset yet
      have hzero : panOffset gs.panXoff = 0 := by
        rw [hfollows.2]
        rfl
      rw [hzero, clampPan_of_le (by rwa [UInt32.toNat_zero, Nat.zero_add]), hfollows.2]
      exact (Nat.zero_min _).symm
  | some s =>
      have hoffset := gs.panXoff.toNatClampNeg_lt
      have hsmall : gs.srcWidth.toNat < 2 ^ 16 := hsrcWidth.trans_lt s.bitmap.width.toNat_lt
      rw [toNat_clampPan hwide, panOffset_toNat]
      rw [panOffset_toNat]
      omega

/-- The window lies inside a bitmap that is wide enough. -/
theorem GpuState.Follows.panX_fits (hfollows : gs.Follows selected) (hw : gs.visibleWidth ≠ 0)
    (hwide : gs.visibleWidth.toNat ≤ (gs.bitmapRows otherBytes selected).width) :
    gs.panX.toNat < 2 ^ 16 ∧
      gs.panX.toNat + gs.visibleWidth.toNat ≤ (gs.bitmapRows otherBytes selected).width := by
  have hoffset := gs.panXoff.toNatClampNeg_lt
  rw [hfollows.panX_eq hw hwide, GpuState.firstColumn]
  omega

/-- So is the row, unless the height of the screen is close to 2³². -/
theorem GpuState.NoWrap.panY_eq {rows : BitmapRows} (hnowrap : gs.NoWrap rows) :
    gs.panY.toNat = gs.firstRow := by
  have hle : gs.visibleHeight.toNat ≤ gs.fbHeight.toNat := by
    unfold GpuState.visibleHeight
    split
    · next hlt => exact (UInt32.lt_iff_toNat_lt.mp hlt).le
    · exact le_rfl
  unfold GpuState.panY GpuState.firstRow
  rw [toNat_clampPan hle, panOffset_toNat]
  rw [panOffset_toNat]
  exact hnowrap.1

/-- Where the first pixel is read. -/
theorem rowConversion_src (hsmall : gs.panX.toNat < 2 ^ 16) (dst : ℕ) (w row : UInt32) :
    (gs.rowConversion address dst 0 w row).src =
      (gs.rowConversion address dst 0 w row).line +
        formatBpp gs.activeFormat * gs.panX.toNat := by
  have hlt : gs.panX.toNat * formatBpp gs.activeFormat < 2 ^ 32 := by
    calc
      gs.panX.toNat * formatBpp gs.activeFormat ≤ 2 ^ 16 * 4 :=
        Nat.mul_le_mul hsmall.le (formatBpp_le _)
      _ < 2 ^ 32 := by decide
  have hproduct : (gs.panX * UInt32.ofNat (formatBpp gs.activeFormat)).toNat =
      formatBpp gs.activeFormat * gs.panX.toNat := by
    rw [toNat_mul_of_lt, toNat_formatBpp, Nat.mul_comm]
    rwa [toNat_formatBpp]
  change _ + ((0 + gs.panX) * _).toNat = _
  rw [UInt32.zero_add, hproduct]
  rfl

/-- Pixels that are not longer end in time, in every row. -/
theorem GpuState.Follows.rowFits_of_short (hfollows : gs.Follows selected)
    (hw : gs.visibleWidth ≠ 0)
    (hwide : gs.visibleWidth.toNat ≤ (gs.bitmapRows otherBytes selected).width)
    (hshort : formatBpp gs.activeFormat ≤ (gs.bitmapRows otherBytes selected).bpp)
    (row : UInt32) : gs.RowFits (gs.bitmapRows otherBytes selected) row := by
  have hvisible := toNat_pos hw
  obtain ⟨-, hfits⟩ := hfollows.panX_fits hw hwide
  have hsrcWidth : gs.srcWidth.toNat = (gs.bitmapRows otherBytes selected).width :=
    hfollows.srcWidth_eq (by omega)
  generalize gs.bitmapRows otherBytes selected = rows at hfits hsrcWidth hshort ⊢
  have hrow : rows.width * formatBpp gs.activeFormat ≤ rows.bytesPerRow :=
    Nat.mul_le_mul_left _ hshort
  have hstride : gs.srcStride.toNat ≤ rows.bytesPerRow := by
    calc
      gs.srcStride.toNat ≤
          gs.srcWidth.toNat * (UInt32.ofNat (formatBpp gs.activeFormat)).toNat := by
        rw [GpuState.srcStride, UInt32.toNat_mul]
        exact Nat.mod_le _ _
      _ = rows.width * formatBpp gs.activeFormat := by rw [hsrcWidth, toNat_formatBpp]
      _ ≤ rows.bytesPerRow := hrow
  have hline : (row * gs.srcStride).toNat ≤ row.toNat * rows.bytesPerRow := by
    rw [UInt32.toNat_mul]
    exact (Nat.mod_le _ _).trans (Nat.mul_le_mul_left _ hstride)
  have hpixels : (gs.panX.toNat + gs.visibleWidth.toNat) * formatBpp gs.activeFormat ≤
      rows.bytesPerRow :=
    (Nat.mul_le_mul_right _ hfits).trans hrow
  unfold GpuState.RowFits
  rw [Nat.succ_mul]
  omega

/-- Longer ones in a row that the 32 bits reach: the rows before it are in the way. -/
theorem rowFits_iff {rows : BitmapRows} {row : UInt32} (hsrcWidth : gs.srcWidth.toNat = rows.width)
    (hsmall : rows.width < 2 ^ 16) (hlong : rows.bpp < formatBpp gs.activeFormat)
    (hreached : row.toNat * (rows.width * formatBpp gs.activeFormat) < 2 ^ 32) :
    gs.RowFits rows row ↔
      row.toNat * (rows.width * (formatBpp gs.activeFormat - rows.bpp)) +
        (gs.panX.toNat + gs.visibleWidth.toNat) * formatBpp gs.activeFormat ≤
          rows.bytesPerRow := by
  have hlt : rows.width * formatBpp gs.activeFormat < 2 ^ 32 := by
    calc
      rows.width * formatBpp gs.activeFormat ≤ 2 ^ 16 * 4 :=
        Nat.mul_le_mul hsmall.le (formatBpp_le _)
      _ < 2 ^ 32 := by decide
  have hstride : gs.srcStride.toNat = rows.width * formatBpp gs.activeFormat := by
    rw [GpuState.srcStride, toNat_mul_of_lt, hsrcWidth, toNat_formatBpp]
    rwa [hsrcWidth, toNat_formatBpp]
  have hline : (row * gs.srcStride).toNat =
      row.toNat * rows.bytesPerRow +
        row.toNat * (rows.width * (formatBpp gs.activeFormat - rows.bpp)) := by
    rw [toNat_mul_of_lt (by rwa [hstride]), hstride, BitmapRows.bytesPerRow, ← Nat.mul_add,
      ← Nat.mul_add, Nat.add_sub_cancel' hlong.le]
  rw [GpuState.RowFits, hline, Nat.succ_mul]
  omega

/-- Where longer pixels leave room, there are fewer rows than bytes in a pixel. -/
theorem few_rows {rows : BitmapRows} {row window : ℕ} {bpp : ℕ} (hwindow : 0 < window)
    (hlong : rows.bpp < bpp)
    (hfits : row * (rows.width * (bpp - rows.bpp)) + window ≤ rows.bytesPerRow) :
    row < rows.bpp := by
  have hlonger : rows.width * row ≤ row * (rows.width * (bpp - rows.bpp)) := by
    rw [Nat.mul_left_comm]
    exact Nat.mul_le_mul_left _ (Nat.le_mul_of_pos_right _ (Nat.sub_pos_of_lt hlong))
  have hlt : rows.width * row < rows.width * rows.bpp := by
    unfold BitmapRows.bytesPerRow at hfits
    omega
  exact Nat.lt_of_mul_lt_mul_left hlt

/-- The window of a screen that shows something takes space in a row. -/
theorem window_pos (hw : gs.visibleWidth ≠ 0) (column : ℕ) :
    0 < (column + gs.visibleWidth.toNat) * formatBpp gs.activeFormat :=
  Nat.mul_pos (Nat.add_pos_right _ (toNat_pos hw)) (chipFormatBpp_pos _)

/-- Longer pixels fit in three rows at most, as the bitmap has no more than three bytes in a
pixel then. -/
theorem GpuState.LongPixelsFit.rows_le {rows : BitmapRows} (hfits : gs.LongPixelsFit rows)
    (hnowrap : gs.NoWrap rows) (hw : gs.visibleWidth ≠ 0)
    (hlong : rows.bpp < formatBpp gs.activeFormat) :
    gs.firstRow + gs.visibleHeight.toNat ≤ rows.bpp := by
  rw [GpuState.LongPixelsFit, if_pos hnowrap] at hfits
  have hfew := few_rows (window_pos hw _) hlong hfits
  omega

/-- Up to the fourth row of a bitmap nothing wraps. -/
theorem reached_of_le {rows : BitmapRows} {row bpp : ℕ} (hsmall : rows.width < 2 ^ 16)
    (hbpp : bpp ≤ 4) (hrow : row ≤ bpp) : row * (rows.width * bpp) < 2 ^ 32 := by
  calc
    row * (rows.width * bpp) ≤ 4 * (2 ^ 16 * 4) :=
      Nat.mul_le_mul (hrow.trans hbpp) (Nat.mul_le_mul hsmall.le hbpp)
    _ < 2 ^ 32 := by decide

/-- A row of the window, counted in the bitmap. -/
theorem GpuState.NoWrap.rowFits_iff {rows : BitmapRows} {i : ℕ} (hnowrap : gs.NoWrap rows)
    (hsrcWidth : gs.srcWidth.toNat = rows.width) (hpanX : gs.panX.toNat = gs.firstColumn rows)
    (hsmall : rows.width < 2 ^ 16) (hlong : rows.bpp < formatBpp gs.activeFormat)
    (hi : gs.firstRow + i < 2 ^ 32)
    (hreached : (gs.firstRow + i) * (rows.width * formatBpp gs.activeFormat) < 2 ^ 32) :
    gs.RowFits rows (UInt32.ofNat i + gs.panY) ↔
      (gs.firstRow + i) * (rows.width * (formatBpp gs.activeFormat - rows.bpp)) +
        (gs.firstColumn rows + gs.visibleWidth.toNat) * formatBpp gs.activeFormat ≤
          rows.bytesPerRow := by
  have hpanY : gs.panY.toNat = gs.firstRow := hnowrap.panY_eq
  have hlt : i < 2 ^ 32 := (Nat.le_add_left _ _).trans_lt hi
  have hofNat : (UInt32.ofNat i).toNat = i := UInt32.toNat_ofNat_of_lt' hlt
  have hnumber : (UInt32.ofNat i + gs.panY).toNat = gs.firstRow + i := by
    have hsum : (UInt32.ofNat i).toNat + gs.panY.toNat < 2 ^ 32 := by omega
    rw [toNat_add_of_lt hsum, hofNat, hpanY, Nat.add_comm]
  rw [← hnumber] at hreached
  rw [Card.rowFits_iff hsrcWidth hsmall hlong hreached, hnumber, hpanX]

/-- Where nothing wraps before the window begins, all rows end in time exactly if the last one
does: the first one is one of the first three rows of the bitmap then, and the fourth one never
ends in time. -/
theorem GpuState.NoWrap.rowsFit_iff {rows : BitmapRows} (hnowrap : gs.NoWrap rows)
    (hw : gs.visibleWidth ≠ 0) (hheight : gs.visibleHeight ≠ 0)
    (hsrcWidth : gs.srcWidth.toNat = rows.width) (hpanX : gs.panX.toNat = gs.firstColumn rows)
    (hsmall : rows.width < 2 ^ 16) (hlong : rows.bpp < formatBpp gs.activeFormat) :
    (∀ i < gs.visibleHeight.toNat, gs.RowFits rows (UInt32.ofNat i + gs.panY)) ↔
      gs.LongPixelsFit rows := by
  have hrows := toNat_pos hheight
  have hbpp : formatBpp gs.activeFormat ≤ 4 := formatBpp_le _
  have hwindow := window_pos hw (gs.firstColumn rows)
  have hrow {i : ℕ} (hi : gs.firstRow + i ≤ rows.bpp) :=
    hnowrap.rowFits_iff hsrcWidth hpanX hsmall hlong (show gs.firstRow + i < 2 ^ 32 by omega)
      (reached_of_le hsmall hbpp (hi.trans hlong.le))
  have hlastRow : gs.firstRow + gs.visibleHeight.toNat - 1 =
      gs.firstRow + (gs.visibleHeight.toNat - 1) := Nat.add_sub_assoc hrows _
  rw [GpuState.LongPixelsFit, if_pos hnowrap, hlastRow]
  constructor
  · intro hall
    have hfirst : gs.firstRow < rows.bpp := by
      have hsmallRow : gs.firstRow < 2 ^ 32 := by
        have hoffset := gs.panYoff.toNatClampNeg_lt
        unfold GpuState.firstRow
        omega
      exact few_rows hwindow hlong
        ((hnowrap.rowFits_iff hsrcWidth hpanX hsmall hlong hsmallRow hnowrap.2).mp (hall 0 hrows))
    have hlast : gs.firstRow + (gs.visibleHeight.toNat - 1) < rows.bpp := by
      by_contra hbeyond
      have hfourth : gs.firstRow + (rows.bpp - gs.firstRow) ≤ rows.bpp := by omega
      have hfew := few_rows hwindow hlong ((hrow hfourth).mp (hall _ (by omega)))
      omega
    exact (hrow hlast.le).mp (hall _ (by omega))
  · intro hlast i hi
    have hfew := few_rows hwindow hlong hlast
    refine (hrow (by omega)).mpr (le_trans ?_ hlast)
    exact Nat.add_le_add_right (Nat.mul_le_mul_right _ (by omega)) _

theorem GpuState.Follows.rowsFit_iff (hfollows : gs.Follows selected) (hw : gs.visibleWidth ≠ 0)
    (hheight : gs.visibleHeight ≠ 0)
    (hwide : gs.visibleWidth.toNat ≤ (gs.bitmapRows otherBytes selected).width)
    (hlong : (gs.bitmapRows otherBytes selected).bpp < formatBpp gs.activeFormat) :
    (∀ i < gs.visibleHeight.toNat,
      gs.RowFits (gs.bitmapRows otherBytes selected) (UInt32.ofNat i + gs.panY)) ↔
        gs.LongPixelsFit (gs.bitmapRows otherBytes selected) := by
  by_cases hnowrap : gs.NoWrap (gs.bitmapRows otherBytes selected)
  · have hvisible := toNat_pos hw
    have hsmall : (gs.bitmapRows otherBytes selected).width < 2 ^ 16 := by
      cases selected with
      | none => exact absurd hlong (lt_irrefl _)
      | some s => exact s.bitmap.width.toNat_lt
    exact hnowrap.rowsFit_iff hw hheight (hfollows.srcWidth_eq (by omega))
      (hfollows.panX_eq hw hwide) hsmall hlong
  · rw [GpuState.LongPixelsFit, if_neg hnowrap]

/-- The reads of a flush are inside exactly where the bitmap is as wide as the visible part of the
screen, and its pixels are as long as those of `active_format` or the longer ones fit. -/
theorem GpuState.Follows.readsInside_iff (hfollows : gs.Follows selected) :
    gs.ReadsInside address (gs.bitmapRows otherBytes selected) ↔
      (gs.Converts →
        gs.visibleWidth.toNat ≤ (gs.bitmapRows otherBytes selected).width ∧
          (formatBpp gs.activeFormat ≤ (gs.bitmapRows otherBytes selected).bpp ∨
            gs.LongPixelsFit (gs.bitmapRows otherBytes selected))) := by
  have hbpp : 0 < formatBpp gs.activeFormat := chipFormatBpp_pos _
  constructor
  · intro hinside hconverts
    have hvisible := toNat_pos hconverts.2.2.1
    -- the last pixel of each row
    have hlast {i : ℕ} (hi : i < gs.visibleHeight.toNat) :=
      hinside 1 _ _ _ (exists_rowConversion address hconverts hi) (gs.visibleWidth.toNat - 1)
        (show gs.visibleWidth.toNat - 1 < gs.visibleWidth.toNat by omega)
    have hwide : gs.visibleWidth.toNat ≤ (gs.bitmapRows otherBytes selected).width := by
      obtain ⟨⟨k, hk, hplace⟩, -⟩ := hlast (toNat_pos hconverts.2.2.2)
      have hsrc : (gs.rowConversion address 1 0 gs.visibleWidth (UInt32.ofNat 0)).line ≤
          (gs.rowConversion address 1 0 gs.visibleWidth (UInt32.ofNat 0)).src :=
        Nat.le_add_right _ _
      have hle : formatBpp gs.activeFormat * (gs.visibleWidth.toNat - 1) ≤
          formatBpp gs.activeFormat * k := by omega
      have hcol := Nat.le_of_mul_le_mul_left hle hbpp
      omega
    obtain ⟨hsmall, -⟩ := hfollows.panX_fits hconverts.2.2.1 hwide
    refine ⟨hwide, or_iff_not_imp_left.mpr fun hlong => ?_⟩
    -- the last pixel ends inside the row, so all of them do
    refine (hfollows.rowsFit_iff hconverts.2.2.1 hconverts.2.2.2 hwide
      (Nat.lt_of_not_le hlong)).mp fun i hi => ?_
    obtain ⟨-, hend⟩ := hlast hi
    rw [rowConversion_src hsmall] at hend
    have hcount : formatBpp gs.activeFormat * (gs.visibleWidth.toNat - 1) +
        formatBpp gs.activeFormat = gs.visibleWidth.toNat * formatBpp gs.activeFormat := by
      rw [← Nat.mul_succ, Nat.succ_eq_add_one, Nat.sub_add_cancel hvisible, Nat.mul_comm]
    change address gs.srcBase + ((UInt32.ofNat i + gs.panY) * gs.srcStride).toNat + _ + _ + _ ≤
      address gs.srcBase + ((UInt32.ofNat i + gs.panY).toNat + 1) * _ at hend
    rw [GpuState.RowFits, Nat.add_mul, Nat.mul_comm gs.panX.toNat]
    omega
  · intro hwhen dst w h r hr col hcol
    obtain ⟨hconverts, w', hw', i, hi, rfl⟩ := mem_rowConversions hr
    obtain ⟨hwide, hlong⟩ := hwhen hconverts
    obtain ⟨hsmall, hfits⟩ := hfollows.panX_fits hconverts.2.2.1 hwide
    -- pixels that are no longer than those of the bitmap fit when the width does
    have hrow : gs.RowFits (gs.bitmapRows otherBytes selected) (UInt32.ofNat i + gs.panY) := by
      by_cases hshort : formatBpp gs.activeFormat ≤ (gs.bitmapRows otherBytes selected).bpp
      · exact hfollows.rowFits_of_short hconverts.2.2.1 hwide hshort _
      · exact (hfollows.rowsFit_iff hconverts.2.2.1 hconverts.2.2.2 hwide
          (Nat.lt_of_not_le hshort)).mpr (hlong.resolve_left hshort) i hi
    have hcount := UInt32.le_iff_toNat_le.mp hw'
    have hcol' : col < w'.toNat := hcol
    rw [rowConversion_src hsmall]
    refine ⟨⟨gs.panX.toNat + col, by omega, by rw [Nat.mul_add]; omega⟩, ?_⟩
    unfold GpuState.RowFits at hrow
    have hle : (gs.panX.toNat + col + 1) * formatBpp gs.activeFormat ≤
        (gs.panX.toNat + gs.visibleWidth.toNat) * formatBpp gs.activeFormat :=
      Nat.mul_le_mul_right _ (by omega)
    rw [Nat.add_mul, Nat.add_mul, Nat.one_mul, Nat.mul_comm gs.panX.toNat,
      Nat.mul_comm col] at hle
    change address gs.srcBase + ((UInt32.ofNat i + gs.panY) * gs.srcStride).toNat + _ + _ + _ ≤
      address gs.srcBase + ((UInt32.ofNat i + gs.panY).toNat + 1) * _
    omega

end

/-! ## Runs -/

/-- In every state that calls of `chip_SetGC` and `chip_SetPanning` reach, with any failures: a
flush reads only inside the rows of the bitmap that is selected if and only if nothing is converted,
or the bitmap is as wide as the visible part of the screen and the pixels of `active_format` are not
longer than its own, or fit nevertheless. -/
theorem rows_not_overrun_iff {env : InitEnv} (hinit : (chipInitCard false env .start).1 = true)
    (calls : List ScreenCall) {c : CardState}
    (hrun : run panningStep (chipInitCard false env .start).2 calls = some c) {gs : GpuState}
    (hgs : c.gs = some gs) (address : ℕ → ℕ) (otherBytes : UInt32 → ℕ) :
    gs.ReadsInside address (gs.bitmapRows otherBytes (selectedAfter calls)) ↔
      (gs.Converts →
        gs.visibleWidth.toNat ≤ (gs.bitmapRows otherBytes (selectedAfter calls)).width ∧
          (formatBpp gs.activeFormat ≤ (gs.bitmapRows otherBytes (selectedAfter calls)).bpp ∨
            gs.LongPixelsFit (gs.bitmapRows otherBytes (selectedAfter calls)))) := by
  obtain ⟨gs', hgs', hfollows⟩ := follows_run hinit calls hrun
  obtain rfl : gs' = gs := Option.some.inj (hgs'.symm.trans hgs)
  exact hfollows.readsInside_iff

/-- A bitmap of some width in the mode 640 by 480, which is then announced with some depth. -/
def bitmapOf (width : UInt16) (depth : UInt8) : List ScreenCall :=
  [.setGC ⟨⟨640, 480, 8⟩, .commandsDone true 1 true true⟩, .setPanning 100 width 16 0 .clut,
    .setGC ⟨⟨640, 480, depth⟩, .commandsDone true 1 true true⟩]

theorem bitmapOf_reached {width : UInt16} {depth : UInt8}
    (hcase : width = 320 ∧ depth = 8 ∨ width = 640 ∧ (depth = 8 ∨ depth = 32))
    (otherBytes : UInt32 → ℕ) :
    ∃ c gs, run panningStep (chipInitCard false .working .start).2 (bitmapOf width depth) = some c ∧
      c.gs = some gs ∧ gs.bitmapRows otherBytes (selectedAfter (bitmapOf width depth)) =
        ⟨width.toNat, 1⟩ ∧ gs.Converts ∧ gs.visibleWidth = 640 ∧ gs.visibleHeight = 480 ∧
          gs.panYoff = 0 ∧ gs.activeFormat = gcFormat depth := by
  have hreached : ((run panningStep (chipInitCard false .working .start).2
      (bitmapOf width depth)).any fun c => c.gs.any fun gs => gs.Converts ∧
        gs.visibleWidth = 640 ∧ gs.visibleHeight = 480 ∧ gs.panYoff = 0 ∧
          gs.activeFormat = gcFormat depth) = true := by
    rcases hcase with ⟨rfl, rfl⟩ | ⟨rfl, rfl | rfl⟩ <;> decide +kernel
  obtain ⟨c, hrun, hc⟩ := (Option.any_eq_true _ _).mp hreached
  obtain ⟨gs, hgs, hfields⟩ := (Option.any_eq_true _ _).mp hc
  exact ⟨c, gs, hrun, hgs, rfl, of_decide_eq_true hfields⟩

theorem rows_not_overrun_iff_fits :
    ∃ c gs, run panningStep (chipInitCard false .working .start).2 (bitmapOf 640 8) = some c ∧
      c.gs = some gs ∧
        gs.ReadsInside placed (gs.bitmapRows (fun _ => 3) (selectedAfter (bitmapOf 640 8))) := by
  obtain ⟨c, gs, hrun, hgs, hrows, -, hvisible, -, -, hformat⟩ :=
    bitmapOf_reached (Or.inr ⟨rfl, Or.inl rfl⟩) fun _ => 3
  refine ⟨c, gs, hrun, hgs,
    (rows_not_overrun_iff working_init _ hrun hgs placed _).mpr fun _ => ?_⟩
  rw [hrows, hvisible, hformat]
  exact ⟨by decide, Or.inl (by decide)⟩

/-- A bitmap of 320 pixels in a row is read beyond the end of the row, and so is one of 640 after
the mode has been announced in 32 bits. -/
theorem narrow_bitmap_overrun :
    (chipInitCard false .working .start).1 = true ∧
      ∀ calls ∈ [bitmapOf 320 8, bitmapOf 640 32], ∃ c gs,
        run panningStep (chipInitCard false .working .start).2 calls = some c ∧ c.gs = some gs ∧
          ¬ gs.ReadsInside placed (gs.bitmapRows (fun _ => 3) (selectedAfter calls)) := by
  refine ⟨working_init, fun calls hcalls => ?_⟩
  simp only [List.mem_cons, List.not_mem_nil, or_false] at hcalls
  rcases hcalls with rfl | rfl
  · obtain ⟨c, gs, hrun, hgs, hrows, hconverts, hvisible, -⟩ :=
      bitmapOf_reached (Or.inl ⟨rfl, rfl⟩) fun _ => 3
    obtain ⟨gs', hgs', hfollows⟩ := follows_run working_init _ hrun
    obtain rfl : gs' = gs := Option.some.inj (hgs'.symm.trans hgs)
    refine ⟨c, gs', hrun, hgs, fun hinside => ?_⟩
    obtain ⟨hwide, -⟩ := hfollows.readsInside_iff.mp hinside hconverts
    rw [hrows, hvisible] at hwide
    exact absurd hwide (by decide)
  · obtain ⟨c, gs, hrun, hgs, hrows, hconverts, hvisible, hheight, hpanY, hformat⟩ :=
      bitmapOf_reached (Or.inr ⟨rfl, Or.inr rfl⟩) fun _ => 3
    obtain ⟨gs', hgs', hfollows⟩ := follows_run working_init _ hrun
    obtain rfl : gs' = gs := Option.some.inj (hgs'.symm.trans hgs)
    refine ⟨c, gs', hrun, hgs, fun hinside => ?_⟩
    obtain ⟨-, hfit⟩ := hfollows.readsInside_iff.mp hinside hconverts
    rw [hrows] at hfit
    have hlong : 1 < formatBpp gs'.activeFormat := by
      rw [hformat]
      decide
    have hfirst : gs'.firstRow = 0 := by
      rw [GpuState.firstRow, hpanY]
      exact Nat.zero_min _
    have hnowrap : gs'.NoWrap ⟨640, 1⟩ := by
      rw [GpuState.NoWrap, hfirst, hpanY, hheight, Nat.zero_mul]
      decide
    -- 480 rows instead of one at most
    have hrowsLe := (hfit.resolve_left (Nat.not_le_of_lt hlong)).rows_le hnowrap
      hconverts.2.2.1 hlong
    rw [hheight] at hrowsLe
    exact absurd hrowsLe (Nat.not_le_of_lt (Nat.lt_add_left _ (by decide)))

end VirtIOGPU.Card
