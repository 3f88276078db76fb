import VirtIOGPU.Card.Resize

/-!
# Announcing a mode again after a failed mode change

`chip_SetGC` writes `active_width`, `active_height` and `active_format` before the resize that
can fail, and recognises a mode by these fields alone.  So the frame buffer fits the announced
mode exactly when the last resize succeeded, and a mode whose resize failed is taken for a mode
that is set when it is announced again.

## Strategy

A history bit is set by a failed resize and cleared by one that succeeds.  `Tracked` says that it
is set exactly if the frame buffer does not fit, and this is kept by every call:

```text
call                                     dimensions of mode and frame buffer   bit
mode unchanged, or only the format       both stay                             stays
resize succeeds                          equal                                 cleared
resize fails                             differ                                set
```

The shortcut is taken in the first row.  With the bit set it is taken wrongly, whatever the call,
so the condition of one call is exact (`Tracked.notAgain_iff`), and by induction that of a run.
-/

namespace VirtIOGPU.Card

open Lib.Machine

/-- The card, with one bit of history. -/
structure Announced where
  card : CardState
  /-- The last resize that `chip_SetGC` asked for failed. -/
  failed : Bool

/-- The history bit after the call. -/
def GpuState.failedAfter (gs : GpuState) (call : GcCall) (failed : Bool) : Bool :=
  if gs.AsksForResize call.mi then
    decide (gs.ResizeFails call.mi.width.toUInt32 call.mi.height.toUInt32 call.env)
  else
    failed

def Announced.setGC (s : Announced) (call : GcCall) : Option Announced :=
  some
    { card := (chipSetGC call.mi call.env s.card).2
      failed :=
        match s.card.gs with
        | none => s.failed
        | some gs => gs.failedAfter call s.failed }

/-- The card after `chip_InitCard_C`; no resize has failed yet. -/
def Announced.start (env : InitEnv) : Announced := ⟨(chipInitCard false env .start).2, false⟩

/-- A call that returns through the shortcut finds a frame buffer of the requested dimensions. -/
def ShortcutSound (s : Announced) (call : GcCall) : Prop :=
  ∀ gs ∈ s.card.gs, gs.ModeUnchanged call.mi → gs.fbMem ≠ 0 →
    gs.fbWidth = call.mi.width.toUInt32 ∧ gs.fbHeight = call.mi.height.toUInt32

/-- After a failed resize the mode that is current is not announced again. -/
def NotAgain (s : Announced) (call : GcCall) : Prop :=
  s.failed = true → ∀ gs ∈ s.card.gs, ¬ gs.ModeUnchanged call.mi

instance (s : Announced) (call : GcCall) : Decidable (ShortcutSound s call) :=
  inferInstanceAs (Decidable (∀ gs ∈ s.card.gs, _))

/-- The frame buffer has the announced dimensions. -/
def GpuState.Fits (gs : GpuState) : Prop :=
  gs.fbWidth = gs.activeWidth ∧ gs.fbHeight = gs.activeHeight

/-- The history bit says whether the frame buffer fits. -/
structure Tracked (gs : GpuState) (s : Announced) : Prop where
  state : s.card.gs = some gs
  fbMem : gs.fbMem ≠ 0
  width_ne : gs.fbWidth ≠ 0
  height_ne : gs.fbHeight ≠ 0
  failed_iff : s.failed = true ↔ ¬ gs.Fits

/-! ## One call -/

/-- A call that does not ask for a resize leaves the dimensions on both sides. -/
theorem Tracked.of_dims {gs gs' : GpuState} {s t : Announced} (h : Tracked gs s)
    (hstate : t.card.gs = some gs') (hfailed : t.failed = s.failed)
    (hfb : gs'.fbMem = gs.fbMem ∧ gs'.fbWidth = gs.fbWidth ∧ gs'.fbHeight = gs.fbHeight)
    (hactive : gs'.activeWidth = gs.activeWidth ∧ gs'.activeHeight = gs.activeHeight) :
    Tracked gs' t where
  state := hstate
  fbMem := hfb.1 ▸ h.fbMem
  width_ne := hfb.2.1 ▸ h.width_ne
  height_ne := hfb.2.2 ▸ h.height_ne
  failed_iff := by
    unfold GpuState.Fits
    rw [hfailed, hfb.2.1, hfb.2.2, hactive.1, hactive.2]
    exact h.failed_iff

/-- After the resize of a mode change the result says whether the frame buffer fits. -/
theorem Resized.tracked {env : ResizeEnv} {gs : GpuState} {mi : ModeInfo} {host host' : Host}
    {events events' : List GpuEvent} {r : Bool × GpuState} {s : Announced}
    (hr : Resized env (gs.withMode mi) mi.width.toUInt32 mi.height.toUInt32 host events r host'
      events')
    (hstate : s.card.gs = some r.2.withCursorRefresh) (hfailed : s.failed = !r.1)
    (hmem : gs.fbMem ≠ 0) (hwidth : gs.fbWidth ≠ 0) (hheight : gs.fbHeight ≠ 0) :
    Tracked r.2.withCursorRefresh s := by
  have hstay (hfits : ¬ (gs.withMode mi).Fits) (hkept : r.2 = gs.withMode mi ∨
      r.2 = (gs.withMode mi).idTaken) (hbit : r.1 = false) : Tracked r.2.withCursorRefresh s := by
    refine ⟨hstate, ?_, ?_, ?_, iff_of_true (by simp [hfailed, hbit]) ?_⟩ <;>
      rcases hkept with hkept | hkept <;> rw [hkept] <;> assumption
  cases hr with
  | zero hdims =>
      refine hstay (fun hfits => ?_) (Or.inl rfl) rfl
      rcases hdims with hzero | hzero
      · exact hwidth (hfits.1.trans hzero)
      · exact hheight (hfits.2.trans hzero)
  | same hdims hsame =>
      refine ⟨hstate, hmem, hwidth, hheight, iff_of_false (by simp [hfailed]) ?_⟩
      exact not_not_intro ⟨hsame.1.symm, hsame.2.symm⟩
  | memory hneeds hmemory =>
      exact hstay (fun hfits => hneeds.2 ⟨hfits.1.symm, hfits.2.symm⟩) (Or.inl rfl) rfl
  | command hneeds hmemory hswitches hothers hnew =>
      exact hstay (fun hfits => hneeds.2 ⟨hfits.1.symm, hfits.2.symm⟩) (Or.inr rfl) rfl
  | published hneeds hmemory hswitches hmem' =>
      refine ⟨hstate, hmem', fun h => hneeds.1 (Or.inl h), fun h => hneeds.1 (Or.inr h), ?_⟩
      exact iff_of_false (by simp [hfailed]) (not_not_intro ⟨rfl, rfl⟩)

theorem Tracked.setGC {gs : GpuState} {s t : Announced} {call : GcCall} (h : Tracked gs s)
    (hstep : s.setGC call = some t) : ∃ gs', Tracked gs' t := by
  obtain rfl := Option.some.inj hstep
  have hbit : ∀ failed, (match s.card.gs with
      | none => failed
      | some gs => gs.failedAfter call failed) = gs.failedAfter call failed := by
    intro failed
    rw [h.state]
  simp only [hbit]
  have hcases := chipSetGC_cases call.mi call.env h.state
  generalize (chipSetGC call.mi call.env s.card).2 = c at hcases
  cases hcases with
  | unchanged hmode =>
      have hasks : ¬ gs.AsksForResize call.mi :=
        fun hasks => (gs.dimsChanged_iff _).mp hasks.1 ⟨hmode.1, hmode.2.1⟩
      exact ⟨gs, h.of_dims h.state (if_neg hasks) ⟨rfl, rfl, rfl⟩ ⟨rfl, rfl⟩⟩
  | format hmode hdims =>
      have hsame : ¬ gs.DimsChanged call.mi := fun hchanged => hdims ⟨hchanged, h.fbMem⟩
      rw [GpuState.dimsChanged_iff, not_not] at hsame
      exact ⟨_, h.of_dims rfl (if_neg hdims) ⟨rfl, rfl, rfl⟩ ⟨hsame.1.symm, hsame.2.symm⟩⟩
  | @resized hasks r _ hresized hgs =>
      refine ⟨_, hresized.tracked hgs ?_ h.fbMem h.width_ne h.height_ne⟩
      have hfails := hresized.fails_iff
      calc
        gs.failedAfter call s.failed = decide ((gs.withMode call.mi).ResizeFails
            call.mi.width.toUInt32 call.mi.height.toUInt32 call.env) := if_pos hasks
        _ = decide (r.1 = false) := by simp only [hfails]
        _ = !r.1 := by cases r.1 <;> rfl

/-- The shortcut is sound exactly where no failed mode is announced again. -/
theorem Tracked.notAgain_iff {gs : GpuState} {s : Announced} (h : Tracked gs s) (call : GcCall) :
    NotAgain s call ↔ ShortcutSound s call := by
  constructor
  · intro hnot gs' hgs' hmode _
    obtain rfl := Option.mem_unique hgs' h.state
    have hfits : gs'.Fits := by
      by_contra hfits
      exact hnot (h.failed_iff.mpr hfits) gs' hgs' hmode
    exact ⟨hfits.1.trans hmode.1, hfits.2.trans hmode.2.1⟩
  · intro hsound hfailed gs' hgs' hmode
    obtain rfl := Option.mem_unique hgs' h.state
    have hfb := hsound gs' hgs' hmode h.fbMem
    exact h.failed_iff.mp hfailed ⟨hfb.1.trans hmode.1.symm, hfb.2.trans hmode.2.1.symm⟩

/-! ## Runs -/

theorem Ready.tracked {gs : GpuState} {env : InitEnv}
    (h : Ready gs (chipInitCard false env .start).2) : Tracked gs (Announced.start env) where
  state := h.state
  fbMem := h.fbMem
  width_ne := h.width ▸ h.width_ne
  height_ne := h.height ▸ h.height_ne
  failed_iff := iff_of_false (by simp [Announced.start]) (not_not_intro ⟨h.width, h.height⟩)

/-- In every run of `chip_SetGC`, with any failures: the shortcut is only taken with a frame
buffer of the requested dimensions if and only if no mode is announced again, before the next
resize, after its own one failed. -/
theorem shortcut_sound_iff {env : InitEnv} (hinit : (chipInitCard false env .start).1 = true)
    (calls : List GcCall) :
    Within Announced.setGC NotAgain (.start env) calls ↔
      Within Announced.setGC ShortcutSound (.start env) calls := by
  obtain ⟨gs, hready⟩ := init_ready hinit
  refine within_congr (I := fun s => ∃ gs, Tracked gs s) ?_ ?_ calls ⟨gs, hready.tracked⟩
  · rintro s call ⟨gs, hs⟩
    exact hs.notAgain_iff call
  · rintro s call t ⟨gs, hs⟩ - hstep
    exact hs.setGC hstep

theorem shortcut_sound_working :
    Within Announced.setGC NotAgain (.start .working)
        [⟨⟨800, 600, 32⟩, .commandsDone true 1 true true⟩] ↔
      Within Announced.setGC ShortcutSound (.start .working)
        [⟨⟨800, 600, 32⟩, .commandsDone true 1 true true⟩] :=
  shortcut_sound_iff (by decide +kernel) _

/-- No memory for 800x600; the second announcement finds the frame buffer of 1024x768. -/
theorem shortcut_after_failed_resize :
    (chipInitCard false .working .start).1 = true ∧
      ¬ Within Announced.setGC ShortcutSound (.start .working)
        [⟨⟨800, 600, 32⟩, .commandsDone false 1 true true⟩,
          ⟨⟨800, 600, 32⟩, .commandsDone true 1 true true⟩] := by
  decide +kernel

end VirtIOGPU.Card
