import VirtIOGPU.Card.Ready
import VirtIOGPU.Drawing.Frame

/-!
# What is on the screen

`chip_convert_rect` reads the panned bitmap and writes the frame buffer; here it is with the
clamps as the code makes them, in 32 bits.  For a full frame whose rows lie in the address space
it is a conversion of one window (`chipConvertRect_eq`).  At the end the fields that decide about
the window, as `chip_InitCard_C` leaves them.

A pointer is a number, and `address` says where it points to.

## Strategy

The clamps are where the code and the window differ, each in 32 bits:

```text
clamp                            leaves alone                     lemma
extent to the visible size       the full extent                  clampExtent_self
pan offset to the bitmap         an offset that fits              clampPan_self
row address                      products below 2^32              srcRow_eq, dstRow_eq
```

`GpuState.InSpace` collects what the right column of this needs, and under it the loop over the
rows is the conversion of a `Frame` row by row, in the order of the code.
-/

namespace VirtIOGPU.Card

open Lib Lib.Hoare Lib.Memory Drawing

/-! ## `chip_convert_rect` -/

/-- The source: `panning_mem`, or else board memory. -/
def GpuState.srcBase (gs : GpuState) : ℕ := if gs.panningMem ≠ 0 then gs.panningMem else gs.boardMem

/-- `pw`. -/
def GpuState.srcWidth (gs : GpuState) : UInt32 :=
  if gs.panningWidth ≠ 0 then gs.panningWidth else gs.activeWidth

/-- An offset of `chip_SetPanning`, where a negative one counts as 0. -/
def panOffset (offset : Int16) : UInt32 := if offset > 0 then offset.toInt32.toUInt32 else 0

/-- The clamp of an offset. -/
def clampPan (pan visible size : UInt32) : UInt32 :=
  if pan + visible > size then (if size > visible then size - visible else 0) else pan

/-- The offsets after the clamps. -/
def GpuState.panX (gs : GpuState) : UInt32 :=
  clampPan (panOffset gs.panXoff) gs.visibleWidth gs.srcWidth

def GpuState.panY (gs : GpuState) : UInt32 :=
  clampPan (panOffset gs.panYoff) gs.visibleHeight gs.fbHeight

def chipConvertRect (address : ℕ → ℕ) (palette : Palette) (gs : GpuState) (dst : ℕ)
    (x y w h : UInt32) (m : Mem UInt8) : Mem UInt8 :=
  if gs.srcBase = 0 ∨ dst = 0 then m
  else
    match chipPickRowConverter gs.activeFormat with
    | none => m
    | some conv =>
        let srcBpp := UInt32.ofNat (formatBpp gs.activeFormat)
        let srcStride := gs.srcWidth * srcBpp
        let dstStride := gs.fbStride
        let w := clampExtent x w gs.visibleWidth
        let h := clampExtent y h gs.visibleHeight
        if w = 0 ∨ h = 0 then m
        else
          up ((y + h).toNat - y.toNat)
            (fun i m =>
              let row := y + UInt32.ofNat i
              conv
                (address gs.srcBase + ((row + gs.panY) * srcStride).toNat +
                  ((x + gs.panX) * srcBpp).toNat)
                (address dst + (row * dstStride).toNat + (x * 4).toNat) w.toNat palette m)
            m

/-! ## `chip_flush_all` -/

/-- Where a flush converts to: the back buffer, if there is one. -/
def GpuState.flushTarget (gs : GpuState) : ℕ :=
  if !gs.doubleBuffer ∨ gs.fbMem2 = 0 then gs.fbMem else gs.fbMem2

theorem flushTarget_single {gs : GpuState} (h : gs.doubleBuffer = false) :
    gs.flushTarget = gs.fbMem :=
  if_pos (Or.inl (by rw [h]; rfl))

/-- What `chip_flush_all` does to memory. -/
def GpuState.flushMem (address : ℕ → ℕ) (palette : Palette) (gs : GpuState) (m : Mem UInt8) :
    Mem UInt8 :=
  if gs.fbMem = 0 ∨ gs.visibleWidth = 0 ∨ gs.visibleHeight = 0 then m
  else
    chipConvertRect address palette gs gs.flushTarget 0 0 gs.visibleWidth gs.visibleHeight m

/-! ## A full frame is one window -/

/-- The bitmap that is shown. -/
def GpuState.bitmap (address : ℕ → ℕ) (gs : GpuState) : RenderInfo :=
  ⟨address gs.srcBase, gs.srcWidth.toNat * formatBpp gs.activeFormat, rgbfType gs.activeFormat⟩

/-- The frame buffer. -/
def GpuState.screen (address : ℕ → ℕ) (gs : GpuState) : RenderInfo :=
  ⟨address gs.fbMem, gs.fbStride.toNat, .b8g8r8a8⟩

def GpuState.frame (address : ℕ → ℕ) (palette : Palette) (gs : GpuState) : FrameSetup where
  format := gs.activeFormat
  palette := palette
  bitmap := gs.bitmap address
  screen := gs.screen address
  w := gs.visibleWidth.toNat
  h := gs.visibleHeight.toNat

/-- Window and screen lie in the address space. -/
structure GpuState.InSpace (gs : GpuState) (panX panY : ℕ) : Prop where
  width : panX + gs.visibleWidth.toNat ≤ gs.srcWidth.toNat
  bitmap : (panY + gs.visibleHeight.toNat) *
    (gs.srcWidth.toNat * formatBpp gs.activeFormat) < 2 ^ 32
  screen : gs.visibleHeight.toNat * gs.fbStride.toNat < 2 ^ 32
  present : gs.visibleWidth ≠ 0 ∧ gs.visibleHeight ≠ 0

theorem toNat_pos {v : UInt32} (h : v ≠ 0) : 0 < v.toNat := by
  rw [Nat.pos_iff_ne_zero]
  exact fun h0 => h (UInt32.toNat_inj.mp h0)

/-- The full extent is not clamped. -/
theorem clampExtent_self (v : UInt32) : clampExtent 0 v v = v := by
  unfold clampExtent
  rw [UInt32.zero_add, if_neg (UInt32.lt_irrefl v)]

theorem toNat_mul_of_lt {v w : UInt32} (h : v.toNat * w.toNat < 2 ^ 32) :
    (v * w).toNat = v.toNat * w.toNat := by
  rw [UInt32.toNat_mul, Nat.mod_eq_of_lt h]

theorem toNat_add_of_lt {v w : UInt32} (h : v.toNat + w.toNat < 2 ^ 32) :
    (v + w).toNat = v.toNat + w.toNat := by
  rw [UInt32.toNat_add, Nat.mod_eq_of_lt h]

/-- An offset with which the visible part fits is not clamped. -/
theorem clampPan_of_le {pan visible size : UInt32}
    (h : pan.toNat + visible.toNat ≤ size.toNat) : clampPan pan visible size = pan := by
  have hsum := toNat_add_of_lt (h.trans_lt size.toNat_lt)
  apply if_neg
  rw [gt_iff_lt, UInt32.lt_iff_toNat_lt, hsum]
  omega

/-- Where everything is visible, every offset is clamped to 0. -/
theorem clampPan_self {pan size : UInt32} (h : pan.toNat + size.toNat < 2 ^ 32) :
    clampPan pan size size = 0 := by
  have hsum := toNat_add_of_lt h
  unfold clampPan
  split
  · exact if_neg (UInt32.lt_irrefl size)
  · next hnot =>
      rw [gt_iff_lt, UInt32.lt_iff_toNat_lt, hsum] at hnot
      rw [← UInt32.toNat_inj, UInt32.toNat_zero]
      omega

theorem toNat_formatBpp (format : RgbFormat) :
    (UInt32.ofNat (formatBpp format)).toNat = formatBpp format :=
  UInt32.toNat_ofNat_of_lt' ((formatBpp_le format).trans_lt (by decide))

variable {address : ℕ → ℕ} {palette : Palette} {gs : GpuState}

/-- The rows of the bitmap, where the 32 bits do not wrap. -/
theorem srcRow_eq (hspace : gs.InSpace gs.panX.toNat gs.panY.toNat) {row : ℕ}
    (hrow : row < gs.visibleHeight.toNat) :
    address gs.srcBase + ((0 + UInt32.ofNat row + gs.panY) *
        (gs.srcWidth * UInt32.ofNat (formatBpp gs.activeFormat))).toNat +
      ((0 + gs.panX) * UInt32.ofNat (formatBpp gs.activeFormat)).toNat =
      (gs.bitmap address).address (formatBpp gs.activeFormat) gs.panX.toNat
        (gs.panY.toNat + row) := by
  have hbpp : 0 < formatBpp gs.activeFormat := chipFormatBpp_pos _
  have hw := toNat_pos hspace.present.1
  have hwidth := hspace.width
  have hpositive : 0 < gs.srcWidth.toNat * formatBpp gs.activeFormat := Nat.mul_pos (by omega) hbpp
  have hheight : gs.panY.toNat + gs.visibleHeight.toNat < 2 ^ 32 :=
    (Nat.le_mul_of_pos_right _ hpositive).trans_lt hspace.bitmap
  have hline : gs.srcWidth.toNat * formatBpp gs.activeFormat < 2 ^ 32 :=
    (Nat.le_mul_of_pos_left _ (by omega)).trans_lt hspace.bitmap
  have hstride : (gs.srcWidth * UInt32.ofNat (formatBpp gs.activeFormat)).toNat =
      gs.srcWidth.toNat * formatBpp gs.activeFormat := by
    rw [toNat_mul_of_lt, toNat_formatBpp]
    rwa [toNat_formatBpp]
  have hx : ((0 + gs.panX) * UInt32.ofNat (formatBpp gs.activeFormat)).toNat =
      gs.panX.toNat * formatBpp gs.activeFormat := by
    rw [UInt32.zero_add, toNat_mul_of_lt, toNat_formatBpp]
    rw [toNat_formatBpp]
    exact (Nat.mul_le_mul_right _ (by omega)).trans_lt hline
  have hrowNat : (UInt32.ofNat row).toNat = row :=
    UInt32.toNat_ofNat_of_lt' (hrow.trans gs.visibleHeight.toNat_lt)
  have hy : (0 + UInt32.ofNat row + gs.panY).toNat = gs.panY.toNat + row := by
    rw [UInt32.zero_add, toNat_add_of_lt, hrowNat, Nat.add_comm]
    rw [hrowNat]
    omega
  rw [hx, toNat_mul_of_lt, hy, hstride]
  · rfl
  · rw [hy, hstride]
    exact (Nat.mul_le_mul_right _ (by omega)).trans_lt hspace.bitmap

/-- The rows of the frame buffer. -/
theorem dstRow_eq (hspace : gs.InSpace gs.panX.toNat gs.panY.toNat) {row : ℕ}
    (hrow : row < gs.visibleHeight.toNat) :
    address gs.fbMem + ((0 + UInt32.ofNat row) * gs.fbStride).toNat + ((0 : UInt32) * 4).toNat =
      (gs.screen address).address 4 0 row := by
  have hrowNat : (UInt32.ofNat row).toNat = row :=
    UInt32.toNat_ofNat_of_lt' (hrow.trans gs.visibleHeight.toNat_lt)
  rw [UInt32.zero_add, toNat_mul_of_lt, hrowNat]
  · rfl
  · rw [hrowNat]
    exact (Nat.mul_le_mul_right _ hrow.le).trans_lt hspace.screen

/-- A full frame whose rows lie in the address space. -/
theorem chipConvertRect_eq (hsupported : gs.activeFormat.hasRowConverter = true)
    (hsrc : gs.srcBase ≠ 0) (hdst : gs.fbMem ≠ 0) (hspace : gs.InSpace gs.panX.toNat gs.panY.toNat)
    (m : Mem UInt8) :
    chipConvertRect address palette gs gs.fbMem 0 0 gs.visibleWidth gs.visibleHeight m =
      (gs.frame address palette).convert gs.panX.toNat gs.panY.toNat m := by
  obtain ⟨conv, hpick, hconv⟩ := chipPickRowConverter_eq hsupported
  unfold chipConvertRect
  rw [if_neg (by simp [hsrc, hdst]), hpick]
  simp only [clampExtent_self, hspace.present.1, hspace.present.2, or_self, if_false]
  have hcount : (0 + gs.visibleHeight).toNat - (0 : UInt32).toNat = gs.visibleHeight.toNat := by
    rw [UInt32.zero_add]
    rfl
  rw [hcount]
  apply up_congr
  intro row hrow
  funext m
  rw [hconv, srcRow_eq hspace hrow, dstRow_eq hspace hrow]
  rfl

/-- The first pixel that is written, at the start of the buffer, is converted from one place in the
memory before the loop, and the later ones leave it alone. -/
theorem chipConvertRect_first (hsupported : gs.activeFormat.hasRowConverter = true)
    (hsrc : gs.srcBase ≠ 0) {dst : ℕ} (hdst : dst ≠ 0)
    (hvisible : gs.visibleWidth ≠ 0 ∧ gs.visibleHeight ≠ 0)
    (hscreen : gs.visibleHeight.toNat * gs.fbStride.toNat < 2 ^ 32)
    (hstride : 4 ≤ gs.fbStride.toNat) :
    ∃ a, ∀ palette m, ∀ k < 4,
      chipConvertRect address palette gs dst 0 0 gs.visibleWidth gs.visibleHeight m
        (address dst + k) = byteOf (converted gs.activeFormat palette m a) k := by
  obtain ⟨conv, hpick, hconv⟩ := chipPickRowConverter_eq hsupported
  have hw := toNat_pos hvisible.1
  have hh := toNat_pos hvisible.2
  have hcount : (0 + gs.visibleHeight).toNat - (0 : UInt32).toNat = gs.visibleHeight.toNat := by
    rw [UInt32.zero_add]
    rfl
  -- where a row is written
  have hplace {row : ℕ} (hrow : row < gs.visibleHeight.toNat) :
      ((0 + UInt32.ofNat row) * gs.fbStride).toNat = row * gs.fbStride.toNat := by
    have hrowNat : (UInt32.ofNat row).toNat = row :=
      UInt32.toNat_ofNat_of_lt' (hrow.trans gs.visibleHeight.toNat_lt)
    rw [UInt32.zero_add, toNat_mul_of_lt, hrowNat]
    rw [hrowNat]
    exact (Nat.mul_le_mul_right _ hrow.le).trans_lt hscreen
  refine ⟨address gs.srcBase + ((0 + UInt32.ofNat 0 + gs.panY) *
      (gs.srcWidth * UInt32.ofNat (formatBpp gs.activeFormat))).toNat +
    ((0 + gs.panX) * UInt32.ofNat (formatBpp gs.activeFormat)).toNat, fun palette m k hk => ?_⟩
  unfold chipConvertRect
  rw [if_neg (by simp [hsrc, hdst]), hpick]
  simp only [clampExtent_self, hvisible.1, hvisible.2, or_self, if_false, hcount, hconv]
  refine (up_induction (P := fun row m' => (row = 0 → m' = m) ∧ (0 < row →
    m' (address dst + k) = byteOf (converted gs.activeFormat palette m _) k))
    ⟨fun _ => rfl, fun h => absurd h (Nat.lt_irrefl 0)⟩ fun row hrow m' h => ?_).2 hh
  refine ⟨fun h => absurd h (Nat.succ_ne_zero row), fun _ => ?_⟩
  rw [hplace hrow]
  have hzero : ((0 : UInt32) * 4).toNat = 0 := rfl
  rw [hzero, Nat.add_zero]
  rcases Nat.eq_zero_or_pos row with rfl | hpos
  · rw [h.1 rfl, Nat.zero_mul, Nat.add_zero]
    exact convRow_first _ _ _ _ hw m hk
  · have hle := Nat.le_mul_of_pos_left gs.fbStride.toNat hpos
    rw [convRow_outside _ _ _ _ _ _ (by omega)]
    exact h.2 hpos

/-! ## The screen after `chip_InitCard_C` -/

/-- The panning fields are as the allocation has cleared them. -/
structure GpuState.Unpanned (gs : GpuState) : Prop where
  width : gs.panningWidth = 0
  xOff : gs.panXoff = 0
  yOff : gs.panYoff = 0

/-- The screen shows all of board memory that is visible, from its start on. -/
structure GpuState.Installed (gs : GpuState) : Prop where
  unpanned : gs.Unpanned
  stride : gs.fbStride = gs.fbWidth * 4
  size : gs.fbSize = gs.fbHeight * (gs.fbWidth * 4)
  panningMem : gs.panningMem = gs.boardMem

/-- The program publishes such a screen when it returns `TRUE`. -/
def Installs (m : Driver Bool) : Prop :=
  ∀ c, (m c).1 = true → ∀ gs ∈ (m c).2.gs, gs.Installed

namespace Installs

variable {α : Type} {m : Driver α} {k : α → Driver Bool}

theorem of_false {m : Driver Bool} (h : ∀ c, (m c).1 = false) : Installs m := by
  intro c htrue
  rw [h c] at htrue
  cases htrue

theorem bind {Q : α → Prop} (hm : Triple (fun _ => True) m fun a _ => Q a)
    (hk : ∀ a, Q a → Installs (k a)) : Installs (m >>= k) := by
  intro c
  exact hk _ (hm c trivial) _

theorem next (hk : ∀ a, Installs (k a)) : Installs (m >>= k) :=
  bind (Q := fun _ => True) (fun _ _ => trivial) fun a _ => hk a

theorem ite {p : Prop} [Decidable p] {m m' : Driver Bool} (h : p → Installs m)
    (h' : ¬ p → Installs m') : Installs (if p then m else m') := by
  split
  · exact h ‹_›
  · exact h' ‹_›

end Installs

theorem initBoard_installs (env : InitEnv) {gs : GpuState} (hunpanned : gs.Unpanned)
    (hstride : gs.fbStride = gs.fbWidth * 4)
    (hsize : gs.fbSize = gs.fbHeight * (gs.fbWidth * 4)) : Installs (initBoard env gs) := by
  apply Installs.next
  intro mem
  apply Installs.next
  intro vsync c _ gs' hgs'
  obtain rfl : (gs.withBoardMem mem).withScreen env.mode vsync = gs' := Option.some.inj hgs'
  unfold GpuState.withBoardMem
  split
  · exact ⟨⟨hunpanned.width, hunpanned.xOff, hunpanned.yOff⟩, hstride, hsize, rfl⟩
  · exact ⟨⟨hunpanned.width, hunpanned.xOff, hunpanned.yOff⟩, hstride, hsize, rfl⟩

theorem initFbResource_state (env : InitEnv) (gs : GpuState) :
    Triple (fun _ => True) (initFbResource env gs) fun r _ =>
      r.2 = gs.withFbId 1 ∨ r.2 = (gs.withFbId 1).withBlob := by
  unfold initFbResource
  refine Triple.bind (R := fun _ _ => True) (fun _ _ => trivial) fun blob => ?_
  refine Triple.ite (fun _ => Triple.ret fun _ _ => Or.inr rfl) fun _ => ?_
  refine Triple.bind (R := fun _ _ => True) (fun _ _ => trivial) fun created => ?_
  refine Triple.ite (fun _ => Triple.ret fun _ _ => Or.inl rfl) fun _ => ?_
  refine Triple.bind (R := fun _ _ => True) (fun _ _ => trivial) fun attached => ?_
  exact Triple.ret fun _ _ => Or.inl rfl

theorem initScanout_installs (env : InitEnv) (l : Opened) {gs : GpuState} (hmem2 : gs.fbMem2 = 0)
    (hunpanned : gs.Unpanned) (hstride : gs.fbStride = gs.fbWidth * 4)
    (hsize : gs.fbSize = gs.fbHeight * (gs.fbWidth * 4)) : Installs (initScanout env l gs) := by
  apply Installs.bind (initFbResource_state env gs)
  rintro ⟨ok, gs₁⟩ hgs₁
  dsimp only at hgs₁ ⊢
  refine Installs.ite (fun _ => Installs.of_false fun _ => rfl) fun _ => ?_
  have hsame : gs₁.fbMem2 = 0 ∧ gs₁.Unpanned ∧ gs₁.fbStride = gs₁.fbWidth * 4 ∧
      gs₁.fbSize = gs₁.fbHeight * (gs₁.fbWidth * 4) := by
    rcases hgs₁ with rfl | rfl
    · exact ⟨hmem2, ⟨hunpanned.width, hunpanned.xOff, hunpanned.yOff⟩, hstride, hsize⟩
    · exact ⟨hmem2, ⟨hunpanned.width, hunpanned.xOff, hunpanned.yOff⟩, hstride, hsize⟩
  obtain ⟨hmem2, hunpanned, hstride, hsize⟩ := hsame
  rw [initBackResource_eq hmem2, pure_bind]
  apply Installs.next
  intro shown
  refine Installs.ite (fun _ => Installs.of_false fun _ => rfl) fun _ => ?_
  apply Installs.next
  intro _
  apply Installs.next
  intro _
  exact initBoard_installs env hunpanned hstride hsize

theorem initFramebuffer_installs (env : InitEnv) (l : Opened) {gs : GpuState}
    (hmem2 : gs.fbMem2 = 0) (hunpanned : gs.Unpanned) :
    Installs (initFramebuffer false env l gs) := by
  unfold initFramebuffer
  generalize (if env.mode.1 ≠ 0 then env.mode.1 else 1280) = maxW
  generalize (if env.mode.2 ≠ 0 then env.mode.2 else 800) = maxH
  apply Installs.next
  intro mem
  refine Installs.ite (fun _ => Installs.of_false fun _ => rfl) fun _ => ?_
  apply Installs.next
  intro count
  refine Installs.ite (fun _ => Installs.of_false fun _ => rfl) fun _ => ?_
  apply Installs.next
  intro list
  refine Installs.ite (fun _ => Installs.of_false fun _ => rfl) fun _ => ?_
  apply Installs.next
  intro _
  rw [initBackBuffer_false, pure_bind]
  apply initScanout_installs <;>
    dsimp only [GpuState.sized, GpuState.withFbMem, GpuState.withFbDma]
  · exact hmem2
  · exact ⟨hunpanned.width, hunpanned.xOff, hunpanned.yOff⟩

/-- What the early parts leave at zero. -/
def GpuState.NoScreen (gs : GpuState) : Prop :=
  gs.fbMem2 = 0 ∧ gs.panningWidth = 0 ∧ gs.panXoff = 0 ∧ gs.panYoff = 0

section

variable {gs : GpuState}

theorem chipVirtioInit_noScreen (h : gs.NoScreen) (a : TransportAnswer) :
    Triple (fun _ => True) (chipVirtioInit gs a) fun r _ => r.2.NoScreen := by
  unfold chipVirtioInit
  refine Triple.bind (R := fun _ _ => True) (fun _ _ => trivial) fun _ => ?_
  refine Triple.ite (fun _ => Triple.ret fun _ _ => h) fun _ => ?_
  refine Triple.ite (fun _ => Triple.ret fun _ _ => h) fun _ => ?_
  refine Triple.bind (R := fun _ _ => True) (fun _ _ => trivial) fun q => ?_
  cases q with
  | none => exact Triple.ret fun _ _ => h
  | some vq =>
      refine Triple.ite (fun _ => Triple.ret fun _ _ => h) fun _ => ?_
      refine Triple.bind (R := fun _ _ => True) (fun _ _ => trivial) fun cq => ?_
      exact Triple.ret fun _ _ => h

theorem chipIrqInstall_noScreen (h : gs.NoScreen) (a : IrqAnswer) :
    Triple (fun _ => True) (chipIrqInstall gs a) fun gs' _ => gs'.NoScreen := by
  refine Triple.ite (fun _ => Triple.ret fun _ _ => h) fun _ => ?_
  refine Triple.ite (fun _ => Triple.ret fun _ _ => h) fun _ => ?_
  refine Triple.bind (R := fun _ _ => True) (fun _ _ => trivial) fun _ => ?_
  exact Triple.ret fun _ _ => h

theorem setup3D_noScreen (h : gs.NoScreen) (a : Cmd3dAnswer) :
    Triple (fun _ => True) (setup3D gs a) fun gs' _ => gs'.NoScreen := by
  refine Triple.ite (fun _ => ?_) fun _ => Triple.ret fun _ _ => h
  refine Triple.bind (R := fun _ _ => True) (fun _ _ => trivial) fun buf => ?_
  refine Triple.ite (fun _ => Triple.ret fun _ _ => h) fun _ => ?_
  refine Triple.bind (R := fun _ _ => True) (fun _ _ => trivial) fun lock => ?_
  refine Triple.ite (fun _ => ?_) fun _ => Triple.ret fun _ _ => h
  refine Triple.bind (R := fun _ _ => True) (fun _ _ => trivial) fun _ => ?_
  exact Triple.ret fun _ _ => h

theorem initTransport_installs (env : InitEnv) (l : Opened) (h : gs.NoScreen) :
    Installs (initTransport false env l gs) := by
  apply Installs.next
  intro cmdBuf
  refine Installs.ite (fun _ => Installs.of_false fun _ => rfl) fun _ => ?_
  apply Installs.next
  intro respBuf
  refine Installs.ite (fun _ => Installs.of_false fun _ => rfl) fun _ => ?_
  apply Installs.next
  intro cursorCmdBuf
  have hbuffers : ((gs.withCmdBuf cmdBuf).withRespBufs respBuf cursorCmdBuf).NoScreen := h
  apply Installs.bind (chipVirtioInit_noScreen hbuffers _)
  intro r hr
  refine Installs.ite (fun _ => Installs.of_false fun _ => rfl) fun _ => ?_
  apply Installs.bind (chipIrqInstall_noScreen hr _)
  intro gs₂ h₂
  apply Installs.bind (setup3D_noScreen h₂ _)
  rintro gs₃ ⟨hmem2, hwidth, hxOff, hyOff⟩
  exact initFramebuffer_installs env l hmem2 ⟨hwidth, hxOff, hyOff⟩

end

/-- The screen that a successful `chip_InitCard_C` leaves. -/
theorem init_installs (env : InitEnv) : Installs (chipInitCard false env) := by
  apply Installs.next
  intro expBase
  refine Installs.ite (fun _ => Installs.of_false fun _ => rfl) fun _ => ?_
  apply Installs.next
  intro ipci
  refine Installs.ite (fun _ => Installs.of_false fun _ => rfl) fun _ => ?_
  refine Installs.ite (fun _ => Installs.of_false fun _ => rfl) fun _ => ?_
  refine Installs.ite (fun _ => Installs.of_false fun _ => rfl) fun _ => ?_
  apply Installs.next
  intro _
  apply Installs.next
  intro self
  refine Installs.ite (fun _ => Installs.of_false fun _ => rfl) fun _ => ?_
  apply Installs.next
  intro ioLock
  apply Installs.next
  intro cursorLock
  apply Installs.next
  intro allocMutex
  refine Installs.ite (fun _ => Installs.of_false fun _ => rfl) fun _ => ?_
  apply Installs.next
  intro _
  cases env.caps with
  | none => exact Installs.of_false fun _ => rfl
  | some base => exact initTransport_installs env _ ⟨rfl, rfl, rfl, rfl⟩

end VirtIOGPU.Card
