import VirtIOGPU.Card.Retry
import VirtIOGPU.Card.Screen

/-!
# The bitmap that the callers have selected

`chip_SetPanning` gets a bitmap: where it is, how wide it is, from where on it is shown and which
format its pixels have.  `ChipGPUState` has a field for each of these, and `chip_SetGC` overwrites
the last one, `active_format`, with the format that the depth of its mode stands for.  So the state
of the driver does not say any more what the bitmap is; the calls do.

```text
  call                               what is selected after it
  SetPanning, mem ≠ NULL             this bitmap, and no mode since
  SetPanning, mem = NULL             what was selected before
  SetGC                              the same bitmap, and this mode
```

`selectedAfter` reads this off the calls alone, whatever the driver does.  The driver follows it
(`follows_run`): after every run of the two callbacks, whether resizes succeed or not, the fields
are those of the selected bitmap, but the format is that of the last mode if one was announced
since.
-/

namespace VirtIOGPU.Card

open Lib.Machine

/-! ## What the calls select -/

inductive ScreenCall where
  | setGC (call : GcCall)
  | setPanning (mem : ℕ) (width : UInt16) (xOff yOff : Int16) (format : RgbFormat)

/-- The arguments of `chip_SetPanning`. -/
structure PannedBitmap where
  mem : ℕ
  width : UInt16
  xOff : Int16
  yOff : Int16
  format : RgbFormat

structure Selection where
  bitmap : PannedBitmap
  /-- The last mode that was announced after the bitmap. -/
  mode : Option ModeInfo

def ScreenCall.select (selected : Option Selection) : ScreenCall → Option Selection
  | .setGC call => selected.map fun s => { s with mode := some call.mi }
  | .setPanning mem width xOff yOff format =>
      if mem ≠ 0 then some ⟨⟨mem, width, xOff, yOff, format⟩, none⟩ else selected

/-- What the calls select, the last one last. -/
def selectedAfter (calls : List ScreenCall) : Option Selection :=
  calls.foldl ScreenCall.select none

/-- The format that the driver takes the pixels for. -/
def Selection.format (s : Selection) : RgbFormat :=
  s.mode.elim s.bitmap.format fun mi => gcFormat mi.depth

/-- The depth of the last mode stands for the format of the bitmap, if there is such a mode. -/
def Selection.KeepsFormat (s : Selection) : Prop :=
  ∀ mi ∈ s.mode, gcFormat mi.depth = s.bitmap.format

instance (s : Selection) : Decidable s.KeepsFormat :=
  inferInstanceAs (Decidable (∀ mi ∈ s.mode, _))

theorem Selection.keepsFormat_iff (s : Selection) : s.KeepsFormat ↔ s.format = s.bitmap.format := by
  unfold Selection.KeepsFormat Selection.format
  cases s.mode with
  | none => simp
  | some mi => simp

/-! ## The driver follows -/

/-- The panning fields are those of the bitmap. -/
structure GpuState.Shows (gs : GpuState) (s : Selection) : Prop where
  mem : gs.panningMem = s.bitmap.mem
  mem_ne : s.bitmap.mem ≠ 0
  width : gs.panningWidth = s.bitmap.width.toUInt32
  xOff : gs.panXoff = s.bitmap.xOff
  yOff : gs.panYoff = s.bitmap.yOff
  format : gs.activeFormat = s.format

/-- Before the first bitmap the panning fields are cleared. -/
def GpuState.Follows (gs : GpuState) : Option Selection → Prop
  | none => gs.panningWidth = 0 ∧ gs.panXoff = 0
  | some s => gs.Shows s

/-- A call, whether its resize succeeds or not. -/
def panningStep (c : CardState) : ScreenCall → Option CardState
  | .setGC call => some (chipSetGC call.mi call.env c).2
  | .setPanning mem width xOff yOff format => some (chipSetPanning mem width xOff yOff format c).2

section

variable {gs : GpuState} {c : CardState}

/-- `chip_SetGC` leaves the panning fields alone, whether its resize succeeds or not. -/
theorem chipSetGC_panning (call : GcCall) (hgs : c.gs = some gs) :
    ∃ gs', (chipSetGC call.mi call.env c).2.gs = some gs' ∧ gs'.panningMem = gs.panningMem ∧
      gs'.panningWidth = gs.panningWidth ∧ gs'.panXoff = gs.panXoff ∧
        gs'.panYoff = gs.panYoff ∧ gs'.activeFormat = gcFormat call.mi.depth := by
  have hcases := chipSetGC_cases call.mi call.env hgs
  generalize (chipSetGC call.mi call.env c).2 = c' at hcases
  cases hcases with
  | unchanged hmode => exact ⟨gs, hgs, rfl, rfl, rfl, rfl, hmode.2.2⟩
  | format hmode hdims => exact ⟨_, rfl, rfl, rfl, rfl, rfl, rfl⟩
  | resized hasks hresized hgs' =>
      obtain ⟨hformat, hmem, hwidth, hxOff, hyOff⟩ := hresized.shown_kept
      exact ⟨_, hgs', hmem, hwidth, hxOff, hyOff, hformat⟩

theorem GpuState.Follows.setGC {selected : Option Selection} (h : gs.Follows selected)
    (hgs : c.gs = some gs) (call : GcCall) :
    ∃ gs', (chipSetGC call.mi call.env c).2.gs = some gs' ∧
      gs'.Follows ((ScreenCall.setGC call).select selected) := by
  obtain ⟨gs', hgs', hmem, hwidth, hxOff, hyOff, hformat⟩ := chipSetGC_panning call hgs
  refine ⟨gs', hgs', ?_⟩
  cases selected with
  | none => exact ⟨hwidth.trans h.1, hxOff.trans h.2⟩
  | some s =>
      exact ⟨hmem.trans h.mem, h.mem_ne, hwidth.trans h.width, hxOff.trans h.xOff,
        hyOff.trans h.yOff, hformat⟩

theorem GpuState.Follows.setPanning {selected : Option Selection} (h : gs.Follows selected)
    (hgs : c.gs = some gs) (mem : ℕ) (width : UInt16) (xOff yOff : Int16) (format : RgbFormat) :
    ∃ gs', (chipSetPanning mem width xOff yOff format c).2.gs = some gs' ∧
      gs'.Follows ((ScreenCall.setPanning mem width xOff yOff format).select selected) := by
  unfold chipSetPanning withChipState Lib.Hoare.onlyIf ScreenCall.select
  rw [hgs]
  by_cases hmem : mem = 0
  · simp only [if_neg (not_not_intro hmem)]
    exact ⟨gs, hgs, h⟩
  · simp only [if_pos hmem]
    exact ⟨_, rfl, rfl, hmem, rfl, rfl, rfl, rfl⟩

theorem follows_step {t : CardState} {selected : Option Selection} {call : ScreenCall}
    (h : ∃ gs, c.gs = some gs ∧ gs.Follows selected) (hstep : panningStep c call = some t) :
    ∃ gs, t.gs = some gs ∧ gs.Follows (call.select selected) := by
  obtain ⟨gs, hgs, hfollows⟩ := h
  cases call with
  | setGC call =>
      obtain rfl := Option.some.inj hstep
      exact hfollows.setGC hgs call
  | setPanning mem width xOff yOff format =>
      obtain rfl := Option.some.inj hstep
      exact hfollows.setPanning hgs mem width xOff yOff format

end

/-- After a run the driver shows what its calls have selected, in the format that they have left. -/
theorem follows_run {env : InitEnv} (hinit : (chipInitCard false env .start).1 = true)
    (calls : List ScreenCall) {c : CardState}
    (hrun : run panningStep (chipInitCard false env .start).2 calls = some c) :
    ∃ gs, c.gs = some gs ∧ gs.Follows (selectedAfter calls) := by
  obtain ⟨gs, hready⟩ := init_ready hinit
  have hinstalled := init_installs env .start hinit gs hready.state
  have hstart : gs.Follows none := ⟨hinstalled.unpanned.width, hinstalled.unpanned.xOff⟩
  have hgs : ∃ gs, (chipInitCard false env .start).2.gs = some gs ∧ gs.Follows none :=
    ⟨gs, hready.state, hstart⟩
  unfold selectedAfter
  -- over the calls, from any state and any selection
  generalize (chipInitCard false env .start).2 = start at hrun hgs
  generalize (none : Option Selection) = selected at hgs
  induction calls generalizing start selected with
  | nil =>
      obtain rfl := Option.some.inj hrun
      exact hgs
  | cons call rest ih =>
      obtain ⟨next, hstep, hrest⟩ := run_cons_eq_some.mp hrun
      exact ih next hrest _ (follows_step hgs hstep)

end VirtIOGPU.Card
