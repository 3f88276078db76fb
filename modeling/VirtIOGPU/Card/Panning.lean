import VirtIOGPU.Card.Selected

/-!
# Panning

`chip_SetPanning` stores offsets into the bitmap, and `chip_convert_rect` clamps them before it
uses them.  The horizontal one is clamped against the width of the bitmap.  The vertical one is
clamped against the height of the frame buffer, which is the visible height after every mode change
that succeeds: so every vertical offset becomes 0.  The pixels are converted from `active_format`,
which is the format of the bitmap only until `chip_SetGC` announces a depth that stands for another
one.

What should be on the screen is measured with the bitmap that the callers have selected, and not
with the fields of the driver: `PannedBitmap.window` has the pointer, the width, the offsets and the
format of the last `chip_SetPanning`.  A flush shows this window, for every palette and all
contents, in exactly the runs in which all of the following hold (`panned_shown_iff`).

```text
  vertical offset        is 0
  format                 no mode since then, or a last one whose depth stands for it
  memory                 no pixel of the window is overwritten, in this flush, before it is read
```

Each of them is necessary because of one memory in which a single byte is marked.  With another row
in place of the first one the mark is missed, with a pixel that is overwritten it is lost, and with
another format it is shown in another colour (`formats_differ`).  They are sufficient because the
flush is then one conversion of the window, by `FitsMode.flushMem_eq` and `frame_shows_iff`.
-/

namespace VirtIOGPU.Card

open Lib.Machine Lib.Memory Drawing

/-! ## Runs -/

/-- A resize that the call asks for succeeds. -/
def GpuState.Succeeds (gs : GpuState) (call : GcCall) : Prop :=
  gs.AsksForResize call.mi →
    ¬ gs.ResizeFails call.mi.width.toUInt32 call.mi.height.toUInt32 call.env

instance (gs : GpuState) (call : GcCall) : Decidable (gs.Succeeds call) :=
  inferInstanceAs (Decidable (_ → _))

/-- A call that succeeds. -/
def screenStep (c : CardState) : ScreenCall → Option CardState
  | .setGC call =>
      if ∀ gs ∈ c.gs, gs.Succeeds call then some (chipSetGC call.mi call.env c).2 else none
  | .setPanning mem width xOff yOff format => some (chipSetPanning mem width xOff yOff format c).2

/-- What every run keeps: the frame buffer has the dimensions of the mode. -/
structure FitsMode (gs : GpuState) (c : CardState) : Prop where
  state : c.gs = some gs
  fbMem : gs.fbMem ≠ 0
  fits : gs.Fits
  width_ne : gs.activeWidth ≠ 0
  height_ne : gs.activeHeight ≠ 0
  stride : gs.fbStride = gs.fbWidth * 4
  single : gs.doubleBuffer = false

theorem FitsMode.setGC {gs : GpuState} {c : CardState} (h : FitsMode gs c) {call : GcCall}
    (hsucceeds : gs.Succeeds call) : ∃ gs', FitsMode gs' (chipSetGC call.mi call.env c).2 := by
  have hcases := chipSetGC_cases call.mi call.env h.state
  generalize (chipSetGC call.mi call.env c).2 = c' at hcases
  cases hcases with
  | unchanged hmode => exact ⟨gs, h⟩
  | format hmode hdims =>
      -- no resize was asked for, so the dimensions are the old ones
      have hsame : ¬ gs.DimsChanged call.mi := fun hchanged => hdims ⟨hchanged, h.fbMem⟩
      rw [GpuState.dimsChanged_iff, not_not] at hsame
      refine ⟨_, rfl, h.fbMem, ⟨?_, ?_⟩, ?_, ?_, h.stride, h.single⟩
      · exact h.fits.1.trans hsame.1
      · exact h.fits.2.trans hsame.2
      · exact fun h0 => h.width_ne (hsame.1.trans h0)
      · exact fun h0 => h.height_ne (hsame.2.trans h0)
  | @resized hasks r _ hresized hgs =>
      -- the resize has succeeded: the same size again, or a new frame buffer
      have hnot := hsucceeds hasks
      have hfails := hresized.fails_iff
      have hok : r.1 = true := by
        cases hr : r.1 with
        | true => rfl
        | false => exact absurd (hfails.mpr hr) hnot
      generalize c'.host = host' at hresized
      generalize c'.events = events' at hresized
      cases hresized with
      | same hdims hsame =>
          refine ⟨_, hgs, ?_, ⟨?_, ?_⟩, ?_, ?_, ?_, ?_⟩ <;>
            dsimp only [GpuState.withCursorRefresh, GpuState.withMode]
          · exact h.fbMem
          · exact hsame.1.symm
          · exact hsame.2.symm
          · exact fun h0 => hdims (Or.inl h0)
          · exact fun h0 => hdims (Or.inr h0)
          · exact h.stride
          · exact h.single
      | published hneeds hmemory hswitches hmem =>
          refine ⟨_, hgs, ?_, ⟨?_, ?_⟩, ?_, ?_, ?_, ?_⟩ <;>
            dsimp only [GpuState.withCursorRefresh, GpuState.withFramebuffer, GpuState.idTaken,
              GpuState.withNextId, GpuState.withMode]
          · exact hmem
          · exact fun h0 => hneeds.1 (Or.inl h0)
          · exact fun h0 => hneeds.1 (Or.inr h0)
          · exact h.single
      | zero | memory | command => cases hok

theorem FitsMode.setPanning {gs : GpuState} {c : CardState} (h : FitsMode gs c) (mem : ℕ)
    (width : UInt16) (xOff yOff : Int16) (format : RgbFormat) :
    ∃ gs', FitsMode gs' (chipSetPanning mem width xOff yOff format c).2 := by
  unfold chipSetPanning withChipState Lib.Hoare.onlyIf
  rw [h.state]
  by_cases hmem : mem = 0
  · simp only [if_neg (not_not_intro hmem)]
    exact ⟨gs, h⟩
  · simp only [if_pos hmem]
    exact ⟨_, rfl, h.fbMem, h.fits, h.width_ne, h.height_ne, h.stride, h.single⟩

theorem FitsMode.step {c t : CardState} {call : ScreenCall} (h : ∃ gs, FitsMode gs c)
    (hstep : screenStep c call = some t) : ∃ gs, FitsMode gs t := by
  obtain ⟨gs, h⟩ := h
  cases call with
  | setGC call =>
      simp only [screenStep] at hstep
      split at hstep
      · next hsucceeds =>
          obtain rfl := Option.some.inj hstep
          exact h.setGC (hsucceeds gs h.state)
      · cases hstep
  | setPanning mem width xOff yOff format =>
      obtain rfl := Option.some.inj hstep
      exact h.setPanning mem width xOff yOff format

theorem Ready.fitsMode {gs : GpuState} {c : CardState} (h : Ready gs c)
    (hinstalled : gs.Installed) : FitsMode gs c where
  state := h.state
  fbMem := h.fbMem
  fits := ⟨h.width, h.height⟩
  width_ne := h.width_ne
  height_ne := h.height_ne
  stride := hinstalled.stride
  single := h.blank.1

theorem fitsMode_run {env : InitEnv} (hinit : (chipInitCard false env .start).1 = true)
    (calls : List ScreenCall) {c : CardState}
    (hrun : run screenStep (chipInitCard false env .start).2 calls = some c) :
    ∃ gs, FitsMode gs c := by
  obtain ⟨gs, hready⟩ := init_ready hinit
  have hinstalled := init_installs env .start hinit gs hready.state
  exact run_invariant' (fun _ _ _ => FitsMode.step) ⟨gs, hready.fitsMode hinstalled⟩ hrun

/-! ## What the screen should show -/

/-- A range of bytes in the address space. -/
def InMemory (start len : ℕ) : Prop := 0 < start ∧ start + len ≤ 2 ^ 32

/-- The offsets, where they are not negative. -/
def PannedBitmap.left (b : PannedBitmap) : ℕ := b.xOff.toNatClampNeg
def PannedBitmap.top (b : PannedBitmap) : ℕ := b.yOff.toNatClampNeg

/-- The bytes of a row. -/
def PannedBitmap.bytesPerRow (b : PannedBitmap) : ℕ := b.width.toNat * formatBpp b.format

/-- The bitmap, in its own format, in front of the frame buffer. -/
def PannedBitmap.window (address : ℕ → ℕ) (palette : Palette) (b : PannedBitmap) (gs : GpuState) :
    FrameSetup where
  format := b.format
  palette := palette
  bitmap := ⟨address b.mem, b.bytesPerRow, rgbfType b.format⟩
  screen := gs.screen address
  w := gs.visibleWidth.toNat
  h := gs.visibleHeight.toNat

/-- A bitmap in memory that is large enough, with a supported format and no negative offset. -/
structure Panned (address : ℕ → ℕ) (b : PannedBitmap) (gs : GpuState) : Prop where
  supported : b.format.hasRowConverter = true
  xOff : 0 ≤ b.xOff
  yOff : 0 ≤ b.yOff
  width : b.left + gs.visibleWidth.toNat ≤ b.width.toNat
  bitmap : InMemory (address b.mem) ((b.top + gs.visibleHeight.toNat) * b.bytesPerRow)
  screen : InMemory (address gs.fbMem) (gs.visibleHeight.toNat * gs.fbStride.toNat)

/-- Every flush shows the window at the offsets, and changes nothing else. -/
def ShowsPanned (address : ℕ → ℕ) (b : PannedBitmap) (gs : GpuState) : Prop :=
  ∀ palette m, ShowsWindow (b.window address palette gs) b.left b.top m
    (gs.flushMem address palette m)

/-- No pixel of the bitmap is overwritten, in this flush, before it is read. -/
def PannedBitmap.ReadsFirst (address : ℕ → ℕ) (b : PannedBitmap) (gs : GpuState) : Prop :=
  (b.window address blackFirst gs).ReadsFirst b.left b.top

/-! ## The clamps -/

/-- A negative offset counts as none. -/
theorem panOffset_toNat (offset : Int16) : (panOffset offset).toNat = offset.toNatClampNeg := by
  unfold panOffset
  split
  · next hpos =>
      have hle := Int16.le_iff_toInt_le.mp (Int16.le_of_lt hpos)
      rw [Int32.toNat_toUInt32_of_le, Int16.toNatClampNeg_toInt32]
      rw [Int32.le_iff_toInt_le, Int16.toInt_toInt32]
      exact hle
  · next hnot =>
      have hle : offset.toInt ≤ 0 := by
        rw [gt_iff_lt, Int16.lt_iff_toInt_lt, Int16.toInt_zero] at hnot
        exact not_lt.mp hnot
      rw [UInt32.toNat_zero]
      exact (Int.toNat_eq_zero.mpr hle).symm

theorem PannedBitmap.top_eq_zero_iff {b : PannedBitmap} (hy : 0 ≤ b.yOff) :
    b.top = 0 ↔ b.yOff = 0 := by
  constructor
  · intro h
    have hle := Int16.le_iff_toInt_le.mp hy
    rw [PannedBitmap.top, ← Int16.toNat_toInt] at h
    rw [← Int16.toInt_inj]
    change b.yOff.toInt = 0
    change 0 ≤ b.yOff.toInt at hle
    omega
  · intro h
    rw [PannedBitmap.top, h]
    rfl

section

variable {gs : GpuState} {c : CardState} {address : ℕ → ℕ} {s : Selection}

theorem FitsMode.visible (h : FitsMode gs c) :
    gs.visibleWidth = gs.activeWidth ∧ gs.visibleHeight = gs.activeHeight ∧
      gs.visibleWidth = gs.fbWidth ∧ gs.visibleHeight = gs.fbHeight := by
  unfold GpuState.visibleWidth GpuState.visibleHeight
  rw [h.fits.1, h.fits.2, ite_self, ite_self]
  exact ⟨rfl, rfl, rfl, rfl⟩

theorem FitsMode.visible_ne (h : FitsMode gs c) :
    gs.visibleWidth ≠ 0 ∧ gs.visibleHeight ≠ 0 := by
  obtain ⟨hwidth, hheight, -, -⟩ := h.visible
  exact ⟨hwidth ▸ h.width_ne, hheight ▸ h.height_ne⟩

theorem GpuState.Shows.width_toNat (hshows : gs.Shows s) :
    gs.panningWidth.toNat = s.bitmap.width.toNat := by
  rw [hshows.width, UInt16.toNat_toUInt32]

theorem Panned.top_lt (h : Panned address s.bitmap gs) (hw : gs.visibleWidth ≠ 0) :
    s.bitmap.top + gs.visibleHeight.toNat < 2 ^ 32 := by
  have hvisible := toNat_pos hw
  have hwidth := h.width
  have hbpp : 0 < formatBpp s.bitmap.format := chipFormatBpp_pos _
  have hrow : 0 < s.bitmap.bytesPerRow := Nat.mul_pos (by omega) hbpp
  have hle := Nat.le_mul_of_pos_right (s.bitmap.top + gs.visibleHeight.toNat) hrow
  obtain ⟨hstart, hend⟩ := h.bitmap
  omega

/-- No vertical offset survives the clamp. -/
theorem FitsMode.panY_eq (h : FitsMode gs c) (hshows : gs.Shows s)
    (hpanned : Panned address s.bitmap gs) : gs.panY = 0 := by
  obtain ⟨-, -, -, hheight⟩ := h.visible
  have hlt := hpanned.top_lt h.visible_ne.1
  unfold GpuState.panY
  rw [← hheight, hshows.yOff]
  apply clampPan_self
  rw [panOffset_toNat]
  exact hlt

theorem Panned.width_ne (h : Panned address s.bitmap gs) (hshows : gs.Shows s)
    (hw : gs.visibleWidth ≠ 0) : gs.panningWidth ≠ 0 := by
  intro h0
  have hvisible := toNat_pos hw
  have hwidth := h.width
  rw [← hshows.width_toNat, h0, UInt32.toNat_zero] at hwidth
  omega

/-- In its own format the bitmap is what the driver shows. -/
theorem Panned.frame_eq (h : Panned address s.bitmap gs) (hshows : gs.Shows s)
    (hformat : gs.activeFormat = s.bitmap.format) (hw : gs.visibleWidth ≠ 0) (palette : Palette) :
    gs.frame address palette = s.bitmap.window address palette gs := by
  have hmem : gs.panningMem ≠ 0 := hshows.mem ▸ hshows.mem_ne
  unfold GpuState.frame PannedBitmap.window PannedBitmap.bytesPerRow GpuState.bitmap
    GpuState.srcBase GpuState.srcWidth
  rw [if_pos hmem, if_pos (h.width_ne hshows hw), hformat, hshows.width_toNat, hshows.mem]

/-- A horizontal offset does. -/
theorem Panned.panX_eq (h : Panned address s.bitmap gs) (hshows : gs.Shows s)
    (hw : gs.visibleWidth ≠ 0) : gs.panX.toNat = s.bitmap.left := by
  have hxOff := panOffset_toNat s.bitmap.xOff
  unfold GpuState.panX GpuState.srcWidth
  rw [if_pos (h.width_ne hshows hw), hshows.xOff, clampPan_of_le, hxOff]
  · rfl
  · rw [hxOff, hshows.width_toNat]
    exact h.width

/-- In its own format a flush converts the window at the horizontal offset, from the first row of
the bitmap on. -/
theorem FitsMode.flushMem_eq (h : FitsMode gs c) (hshows : gs.Shows s)
    (hpanned : Panned address s.bitmap gs) (hformat : gs.activeFormat = s.bitmap.format)
    (palette : Palette) (m : Mem UInt8) :
    gs.flushMem address palette m =
      (s.bitmap.window address palette gs).convert s.bitmap.left 0 m := by
  obtain ⟨hw, hh⟩ := h.visible_ne
  have hsrc : gs.srcBase ≠ 0 := by
    have hmem : gs.panningMem ≠ 0 := hshows.mem ▸ hshows.mem_ne
    unfold GpuState.srcBase
    rwa [if_pos hmem]
  have hspace : gs.InSpace gs.panX.toNat gs.panY.toNat := by
    rw [hpanned.panX_eq hshows hw, h.panY_eq hshows hpanned, UInt32.toNat_zero]
    have hsrcWidth : gs.srcWidth.toNat = s.bitmap.width.toNat := by
      rw [GpuState.srcWidth, if_pos (hpanned.width_ne hshows hw), hshows.width_toNat]
    refine ⟨hsrcWidth ▸ hpanned.width, ?_, ?_, hw, hh⟩
    · obtain ⟨hstart, hend⟩ := hpanned.bitmap
      rw [hsrcWidth, hformat]
      have hle : (0 + gs.visibleHeight.toNat) * s.bitmap.bytesPerRow ≤
          (s.bitmap.top + gs.visibleHeight.toNat) * s.bitmap.bytesPerRow :=
        Nat.mul_le_mul_right _ (by omega)
      unfold PannedBitmap.bytesPerRow at hle hend
      omega
    · obtain ⟨hstart, hend⟩ := hpanned.screen
      omega
  unfold GpuState.flushMem
  rw [if_neg (by simp [h.fbMem, hw, hh]), flushTarget_single h.single,
    chipConvertRect_eq (hformat ▸ hpanned.supported) hsrc h.fbMem hspace,
    hpanned.frame_eq hshows hformat hw, hpanned.panX_eq hshows hw, h.panY_eq hshows hpanned]
  rfl

/-- The rows of the frame buffer are as long as they have to be. -/
theorem FitsMode.stride_eq (h : FitsMode gs c) (hpanned : Panned address s.bitmap gs) :
    gs.fbStride.toNat = gs.visibleWidth.toNat * 4 := by
  obtain ⟨-, -, hfbWidth, -⟩ := h.visible
  have hle := hpanned.width
  have hsmall := s.bitmap.width.toNat_lt
  have hfour : (4 : UInt32).toNat = 4 := rfl
  rw [h.stride, ← hfbWidth, toNat_mul_of_lt, hfour]
  rw [hfour]
  omega

theorem FitsMode.window_fits (h : FitsMode gs c) (hpanned : Panned address s.bitmap gs)
    (palette : Palette) : (s.bitmap.window address palette gs).Fits s.bitmap.left where
  screen := (h.stride_eq hpanned).ge
  bitmap := Nat.mul_le_mul_right _ hpanned.width

/-! ## Where the format is another one -/

theorem gcFormat_supported (depth : UInt8) : (gcFormat depth).hasRowConverter = true := by
  unfold gcFormat
  split
  · rfl
  split
  · rfl
  · rfl

theorem Selection.format_supported (hsupported : s.bitmap.format.hasRowConverter = true) :
    s.format.hasRowConverter = true := by
  unfold Selection.format
  cases s.mode with
  | none => exact hsupported
  | some mi => exact gcFormat_supported mi.depth

/-- A screen that shows the window is converted from the format of the bitmap: in another one the
first pixel has another colour, for some contents. -/
theorem FitsMode.format_kept (h : FitsMode gs c) (hshows : gs.Shows s)
    (hpanned : Panned address s.bitmap gs) (hall : ShowsPanned address s.bitmap gs) :
    gs.activeFormat = s.bitmap.format := by
  by_contra hne
  obtain ⟨hw, hh⟩ := h.visible_ne
  have hsupported : gs.activeFormat.hasRowConverter = true :=
    hshows.format ▸ Selection.format_supported hpanned.supported
  have hsrc : gs.srcBase ≠ 0 := by
    have hmem : gs.panningMem ≠ 0 := hshows.mem ▸ hshows.mem_ne
    unfold GpuState.srcBase
    rwa [if_pos hmem]
  have hstride : 4 ≤ gs.fbStride.toNat := by
    have hpos := toNat_pos hw
    rw [h.stride_eq hpanned]
    omega
  have hscreen : gs.visibleHeight.toNat * gs.fbStride.toNat < 2 ^ 32 := by
    obtain ⟨hstart, hend⟩ := hpanned.screen
    omega
  have hconverted : ∃ a, ∀ palette m, ∀ k < 4,
      chipConvertRect address palette gs gs.fbMem 0 0 gs.visibleWidth gs.visibleHeight m
        (address gs.fbMem + k) = byteOf (converted gs.activeFormat palette m a) k :=
    chipConvertRect_first hsupported hsrc h.fbMem ⟨hw, hh⟩ hscreen hstride
  obtain ⟨a, hfirst⟩ := hconverted
  obtain ⟨m, hm⟩ := formats_differ hsupported hpanned.supported hne a
    ((s.bitmap.window address blackFirst gs).bitmap.address (formatBpp s.bitmap.format)
      s.bitmap.left s.bitmap.top)
  refine hm (eq_of_byteOf fun k hk => ?_)
  have hflush : gs.flushMem address blackFirst m (address gs.fbMem + k) =
      byteOf (converted gs.activeFormat blackFirst m a) k := by
    unfold GpuState.flushMem
    rw [if_neg (by simp [h.fbMem, hw, hh]), flushTarget_single h.single]
    exact hfirst blackFirst m k hk
  -- the first pixel of the screen
  have hpixel := (hall blackFirst m).1 0 (toNat_pos hh) 0 (toNat_pos hw)
  have hbyte := congrArg (fun l => l[k]?) hpixel
  simp only [pixel, longBytes, List.getElem?_map, List.getElem?_range hk, Option.map_some,
    Nat.add_zero] at hbyte
  have hplace : (s.bitmap.window address blackFirst gs).screen.address 4 0 0 =
      address gs.fbMem := by
    simp [RenderInfo.address, PannedBitmap.window, GpuState.screen]
  rw [hplace, hflush] at hbyte
  exact Option.some.inj hbyte

/-! ## What is shown -/

/-- In its own format the bitmap is shown exactly where the vertical offset is 0 and the flush reads
each pixel before it overwrites it. -/
theorem FitsMode.shown_of_format (h : FitsMode gs c) (hshows : gs.Shows s)
    (hpanned : Panned address s.bitmap gs) (hformat : gs.activeFormat = s.bitmap.format) :
    ShowsPanned address s.bitmap gs ↔
      s.bitmap.yOff = 0 ∧ s.bitmap.ReadsFirst address gs := by
  obtain ⟨hw, hh⟩ := h.visible_ne
  have hflush : ShowsPanned address s.bitmap gs ↔ ∀ palette m,
      ShowsWindow { s.bitmap.window address blackFirst gs with palette := palette } s.bitmap.left
        s.bitmap.top m
        (FrameSetup.convert { s.bitmap.window address blackFirst gs with palette := palette }
          s.bitmap.left 0 m) := by
    unfold ShowsPanned
    simp only [h.flushMem_eq hshows hpanned hformat]
    rfl
  rw [hflush, frame_shows_iff (h.window_fits hpanned blackFirst) (toNat_pos hw) (toNat_pos hh)
    hpanned.supported, eq_comm, PannedBitmap.top_eq_zero_iff hpanned.yOff]
  rfl

theorem FitsMode.shown_iff (h : FitsMode gs c) (hshows : gs.Shows s)
    (hpanned : Panned address s.bitmap gs) :
    ShowsPanned address s.bitmap gs ↔
      s.bitmap.yOff = 0 ∧ s.KeepsFormat ∧ s.bitmap.ReadsFirst address gs := by
  rw [s.keepsFormat_iff, ← hshows.format]
  constructor
  · intro hall
    have hformat := h.format_kept hshows hpanned hall
    obtain ⟨hyOff, hreads⟩ := (h.shown_of_format hshows hpanned hformat).mp hall
    exact ⟨hyOff, hformat, hreads⟩
  · rintro ⟨hyOff, hformat, hreads⟩
    exact (h.shown_of_format hshows hpanned hformat).mpr ⟨hyOff, hreads⟩

/-- A bitmap beside the frame buffer is read first. -/
theorem FitsMode.readsFirst (h : FitsMode gs c) (hpanned : Panned address s.bitmap gs)
    (hapart : Apart (address gs.fbMem) (gs.visibleHeight.toNat * gs.fbStride.toNat)
      (address s.bitmap.mem) ((s.bitmap.top + gs.visibleHeight.toNat) * s.bitmap.bytesPerRow)) :
    s.bitmap.ReadsFirst address gs := by
  intro i hi j hj
  exact (h.window_fits hpanned blackFirst).apart hapart hi (Nat.lt_trans hj hi)

end

/-! ## Runs -/

/-- A run of calls that succeed is one of calls. -/
theorem panningStep_of_screenStep {c t : CardState} {call : ScreenCall}
    (hstep : screenStep c call = some t) : panningStep c call = some t := by
  cases call with
  | setGC call =>
      simp only [screenStep] at hstep
      split at hstep
      · exact hstep
      · cases hstep
  | setPanning mem width xOff yOff format => exact hstep

/-- After a run of successful calls the frame buffer fits the mode, and the driver shows what the
calls have selected. -/
theorem fitsMode_follows_run {env : InitEnv} (hinit : (chipInitCard false env .start).1 = true)
    (calls : List ScreenCall) {c : CardState}
    (hrun : run screenStep (chipInitCard false env .start).2 calls = some c) {gs : GpuState}
    (hgs : c.gs = some gs) : FitsMode gs c ∧ gs.Follows (selectedAfter calls) := by
  obtain ⟨gs', h⟩ := fitsMode_run hinit calls hrun
  obtain rfl : gs' = gs := Option.some.inj (h.state.symm.trans hgs)
  have hlockstep : ∃ c', run panningStep (chipInitCard false env .start).2 calls = some c' ∧
      c = c' := by
    refine run_lockstep (R := Eq) (fun u call t u' hu hstep => ?_) rfl hrun
    exact ⟨t, hu ▸ panningStep_of_screenStep hstep, rfl⟩
  obtain ⟨_, hdisplay, rfl⟩ := hlockstep
  obtain ⟨gs'', hgs'', hfollows⟩ := follows_run hinit calls hdisplay
  obtain rfl : gs'' = gs' := Option.some.inj (hgs''.symm.trans hgs)
  exact ⟨h, hfollows⟩

/-- In every state that a run of successful calls reaches, for a panned bitmap that is large enough:
every flush shows the panned window if and only if the vertical offset is 0, the last mode that was
announced since stands for the format of the bitmap, and no pixel of the window is overwritten
before it is read. -/
theorem panned_shown_iff {env : InitEnv} (hinit : (chipInitCard false env .start).1 = true)
    (calls : List ScreenCall) {c : CardState}
    (hrun : run screenStep (chipInitCard false env .start).2 calls = some c) {gs : GpuState}
    (hgs : c.gs = some gs) {s : Selection} (hselected : selectedAfter calls = some s)
    {address : ℕ → ℕ} (hpanned : Panned address s.bitmap gs) :
    ShowsPanned address s.bitmap gs ↔
      s.bitmap.yOff = 0 ∧ s.KeepsFormat ∧ s.bitmap.ReadsFirst address gs := by
  obtain ⟨h, hfollows⟩ := fitsMode_follows_run hinit calls hrun hgs
  rw [hselected] at hfollows
  exact h.shown_iff hfollows hpanned

/-- 640 by 480 in 8 bits, with a bitmap of 800 pixels in a row; then the mode is announced once
more, with some depth. -/
def scrolled (yOff : Int16) (depth : UInt8) : List ScreenCall :=
  [.setGC ⟨⟨640, 480, 8⟩, .commandsDone true 1 true true⟩, .setPanning 100 800 16 yOff .clut,
    .setGC ⟨⟨640, 480, depth⟩, .commandsDone true 1 true true⟩]

/-- Frame buffer and bitmap 4 MiB apart. -/
def placed (pointer : ℕ) : ℕ := pointer * 2 ^ 22

theorem working_init : (chipInitCard false .working .start).1 = true := by decide +kernel

theorem scrolled_fields {yOff : Int16} {depth : UInt8}
    (hcase : (yOff = 0 ∨ yOff = 10) ∧ depth = 8 ∨ yOff = 0 ∧ depth = 32) :
    ((run screenStep (chipInitCard false .working .start).2 (scrolled yOff depth)).bind
      CardState.gs).any (fun gs => gs.fbMem = 40 ∧ gs.fbStride = 2560 ∧ gs.visibleWidth = 640 ∧
        gs.visibleHeight = 480) = true := by
  rcases hcase with ⟨rfl | rfl, rfl⟩ | ⟨rfl, rfl⟩ <;> decide +kernel

theorem scrolled_panned {yOff : Int16} {depth : UInt8}
    (hcase : (yOff = 0 ∨ yOff = 10) ∧ depth = 8 ∨ yOff = 0 ∧ depth = 32) :
    ∃ c gs s, run screenStep (chipInitCard false .working .start).2 (scrolled yOff depth) =
      some c ∧ c.gs = some gs ∧ selectedAfter (scrolled yOff depth) = some s ∧
        s = ⟨⟨100, 800, 16, yOff, .clut⟩, some ⟨640, 480, depth⟩⟩ ∧ Panned placed s.bitmap gs ∧
          s.bitmap.ReadsFirst placed gs := by
  obtain ⟨gs, hgs, hfields⟩ := (Option.any_eq_true _ _).mp (scrolled_fields hcase)
  obtain ⟨c, hrun, hstate⟩ := Option.bind_eq_some_iff.mp hgs
  obtain ⟨hfbMem, hstride, hwidth, hheight⟩ := of_decide_eq_true hfields
  let s : Selection := ⟨⟨100, 800, 16, yOff, .clut⟩, some ⟨640, 480, depth⟩⟩
  have hyNat : yOff.toNatClampNeg ≤ 10 ∧ 0 ≤ yOff := by
    rcases hcase with ⟨rfl | rfl, -⟩ | ⟨rfl, -⟩ <;> decide
  have htop : s.bitmap.top ≤ 10 := hyNat.1
  have hbytes : s.bitmap.bytesPerRow = 800 := rfl
  have hpanned : Panned placed s.bitmap gs := by
    refine ⟨rfl, (by decide : (0 : Int16) ≤ 16), hyNat.2, ?_, ?_, ?_⟩
    · rw [hwidth]
      change (16 : Int16).toNatClampNeg + (640 : UInt32).toNat ≤ (800 : UInt16).toNat
      decide
    · rw [hheight, hbytes]
      refine ⟨(by decide : 0 < 100 * 2 ^ 22), ?_⟩
      change 100 * 2 ^ 22 + (s.bitmap.top + 480) * 800 ≤ 2 ^ 32
      omega
    · rw [hfbMem, hheight, hstride]
      exact ⟨by decide, by decide⟩
  obtain ⟨hfits, -⟩ := fitsMode_follows_run working_init _ hrun hstate
  refine ⟨c, gs, s, hrun, hstate, rfl, rfl, hpanned, hfits.readsFirst hpanned (Or.inl ?_)⟩
  rw [hfbMem, hheight, hstride]
  change 40 * 2 ^ 22 + 480 * 2560 ≤ 100 * 2 ^ 22
  decide

/-- Scrolled by 16 columns. -/
theorem panned_shown_iff_columns :
    ∃ c gs s, run screenStep (chipInitCard false .working .start).2 (scrolled 0 8) = some c ∧
      c.gs = some gs ∧ selectedAfter (scrolled 0 8) = some s ∧
        ShowsPanned placed s.bitmap gs := by
  obtain ⟨c, gs, s, hrun, hgs, hselected, rfl, hpanned, hreads⟩ :=
    scrolled_panned (Or.inl ⟨Or.inl rfl, rfl⟩)
  refine ⟨c, gs, _, hrun, hgs, hselected, ?_⟩
  refine (panned_shown_iff working_init _ hrun hgs hselected hpanned).mpr ⟨rfl, ?_, hreads⟩
  decide

/-- Scrolled by 10 rows as well, or after the same mode in 32 bits, the screen shows something
else. -/
theorem rows_not_scrolled :
    (∃ c gs s, run screenStep (chipInitCard false .working .start).2 (scrolled 10 8) = some c ∧
      c.gs = some gs ∧ selectedAfter (scrolled 10 8) = some s ∧ Panned placed s.bitmap gs ∧
        s.bitmap.ReadsFirst placed gs ∧ ¬ ShowsPanned placed s.bitmap gs) ∧
      ∃ c gs s, run screenStep (chipInitCard false .working .start).2 (scrolled 0 32) = some c ∧
        c.gs = some gs ∧ selectedAfter (scrolled 0 32) = some s ∧ Panned placed s.bitmap gs ∧
          s.bitmap.ReadsFirst placed gs ∧ ¬ ShowsPanned placed s.bitmap gs := by
  constructor
  · obtain ⟨c, gs, s, hrun, hgs, hselected, rfl, hpanned, hreads⟩ :=
      scrolled_panned (Or.inl ⟨Or.inr rfl, rfl⟩)
    obtain ⟨hfits, hfollows⟩ := fitsMode_follows_run working_init _ hrun hgs
    refine ⟨c, gs, _, hrun, hgs, hselected, hpanned, hreads, fun hshown => ?_⟩
    obtain ⟨hyOff, -, -⟩ := (hfits.shown_iff hfollows hpanned).mp hshown
    exact absurd hyOff (by decide)
  · obtain ⟨c, gs, s, hrun, hgs, hselected, rfl, hpanned, hreads⟩ :=
      scrolled_panned (Or.inr ⟨rfl, rfl⟩)
    obtain ⟨hfits, hfollows⟩ := fitsMode_follows_run working_init _ hrun hgs
    refine ⟨c, gs, _, hrun, hgs, hselected, hpanned, hreads, fun hshown => ?_⟩
    obtain ⟨-, hkeeps, -⟩ := (hfits.shown_iff hfollows hpanned).mp hshown
    exact absurd hkeeps (by decide)

end VirtIOGPU.Card
