import VirtIOGPU.Card.Resize

/-!
# Scanout and power state

`chip_SetDPMSLevel` programs scanout 0 from the power state, `chip_SetGC` programs it through
the resize without a look at the power state.  Every command succeeds here, the memory for a
new frame buffer may fail.  The scanout agrees with `ChipGPUState` after each call of a run if
and only if no mode change reaches `SET_SCANOUT` while the display is off, and each mode change
that does not reach it while the display is on leaves `min(active, fb)` as it is.

## Strategy

```text
call                                 the scanout             what it should be
SetPanning                           stays                   stays
SetDPMSLevel                         programmed from level   the same
SetGC that does not get to the host  stays                   the extent may be another one
SetGC that does                      the new frame buffer    off, if the display is off
```

The last two rows are the two cases of `DisplayModeSet`.  In the third one the scanout agrees
afterwards exactly if the display is off or the visible extent has stayed
(`expectedScanout_withMode_iff`), in the fourth exactly if the display is on.  `PowerRespected`
forbids the rest, so a call that violates it disagrees at once (`Agreed.violation`).
-/

namespace VirtIOGPU.Card

open Lib.Machine Lib.Hoare

inductive DisplayCall where
  | setGC (mi : ModeInfo) (mem : Bool) (count : UInt32) (list immu : Bool)
  | setPanning (mem : ℕ) (width : UInt16) (xOff yOff : Int16) (format : RgbFormat)
  | setDPMSLevel (level : UInt32)
  deriving DecidableEq, Repr

def DisplayCall.perform : DisplayCall → Driver Unit
  | .setGC mi mem count list immu => chipSetGC mi (.commandsDone mem count list immu)
  | .setPanning mem width xOff yOff format => chipSetPanning mem width xOff yOff format
  | .setDPMSLevel level => chipSetDPMSLevel level fun _ => .done

def displayStep (c : CardState) (call : DisplayCall) : Option CardState := some (call.perform c).2

/-- What scanout 0 is to be, for the power state. -/
def GpuState.expectedScanout (gs : GpuState) : Option Scanout :=
  if gs.dpmsLevel = 0 then some ⟨gs.resourceId, 0, 0, gs.visibleWidth, gs.visibleHeight⟩ else none

def ScanoutAgrees (c : CardState) : Prop := ∀ gs ∈ c.gs, c.host.scanout = gs.expectedScanout

instance : DecidablePred ScanoutAgrees :=
  fun c => inferInstanceAs (Decidable (∀ gs ∈ c.gs, c.host.scanout = gs.expectedScanout))

/-- The mode change gets as far as its commands. -/
def GpuState.ReachesScanout (gs : GpuState) (mi : ModeInfo) (memory : Bool) : Prop :=
  gs.AsksForResize mi ∧ gs.NeedsResize mi.width.toUInt32 mi.height.toUInt32 ∧ memory = true

/-- The part of the frame buffer that is visible stays the same. -/
def GpuState.SameExtent (gs : GpuState) (mi : ModeInfo) : Prop :=
  (gs.withMode mi).visibleWidth = gs.visibleWidth ∧
    (gs.withMode mi).visibleHeight = gs.visibleHeight

/-- While the display is off a mode change does not reach the scanout; while it is on it does,
or the visible part stays the same. -/
def PowerRespected (c : CardState) : DisplayCall → Prop
  | .setGC mi mem count list immu =>
      ∀ gs ∈ c.gs,
        if gs.dpmsLevel = 0 then
          gs.ReachesScanout mi (ResizeEnv.commandsDone mem count list immu).memory ∨
            gs.SameExtent mi
        else
          ¬ gs.ReachesScanout mi (ResizeEnv.commandsDone mem count list immu).memory
  | .setPanning .. => True
  | .setDPMSLevel _ => True

/-- The scanout agrees, and the ids are such that a new one is neither 0 nor the old one. -/
structure Agreed (gs : GpuState) (c : CardState) : Prop where
  state : c.gs = some gs
  scanout : c.host.scanout = gs.expectedScanout
  fbMem : gs.fbMem ≠ 0
  resourceId_ne : gs.resourceId ≠ 0
  fbResourceId2 : gs.fbResourceId2 = 0

theorem Agreed.scanoutAgrees {gs : GpuState} {c : CardState} (h : Agreed gs c) :
    ScanoutAgrees c := by
  intro gs' hgs'
  obtain rfl : gs' = gs := Option.mem_unique hgs' h.state
  exact h.scanout

/-! ## Panning and power -/

theorem chipSetPanning_agreed {gs : GpuState} {c : CardState} (h : Agreed gs c) (mem : ℕ)
    (width : UInt16) (xOff yOff : Int16) (format : RgbFormat) :
    ∃ gs', Agreed gs' (chipSetPanning mem width xOff yOff format c).2 := by
  unfold chipSetPanning withChipState onlyIf
  rw [h.state]
  by_cases hmem : mem = 0
  · simp only [if_neg (not_not_intro hmem)]
    exact ⟨gs, h⟩
  · simp only [if_pos hmem]
    exact ⟨_, rfl, h.scanout, h.fbMem, h.resourceId_ne, h.fbResourceId2⟩

theorem chipSetDPMSLevel_agreed {gs : GpuState} {c : CardState} (h : Agreed gs c) (level : UInt32) :
    Agreed (gs.withDpms level) (chipSetDPMSLevel level (fun _ => .done) c).2 := by
  refine ⟨?_, ?_, h.fbMem, h.resourceId_ne, h.fbResourceId2⟩
  · unfold chipSetDPMSLevel withChipState
    simp only [h.state]
    by_cases hlevel : level = 0 <;> simp only [hlevel, if_true, if_false] <;> rfl
  · unfold chipSetDPMSLevel withChipState GpuState.expectedScanout
    simp only [h.state]
    by_cases hlevel : level = 0
    · subst hlevel
      exact if_neg h.resourceId_ne
    · rw [if_neg hlevel, if_neg (show (gs.withDpms level).dpmsLevel ≠ 0 from hlevel)]
      rfl

/-! ## Mode changes -/

section ModeChange

variable {gs : GpuState} {c c' : CardState} {mi : ModeInfo}

/-- The outcomes of `chip_SetGC` when every command succeeds. -/
inductive DisplayModeSet (gs : GpuState) (mi : ModeInfo) (memory : Bool) (c c' : CardState) :
    Prop where
  | unsent (hnot : ¬ gs.ReachesScanout mi memory) {gs' : GpuState} (hgs : c'.gs = some gs')
      (hhost : c'.host = c.host)
      (hset : gs' = gs.withMode mi ∨ gs' = (gs.withMode mi).withCursorRefresh) :
      DisplayModeSet gs mi memory c c'
  | sent (hreaches : gs.ReachesScanout mi memory) {gs' : GpuState} (hgs : c'.gs = some gs')
      (hdpms : gs'.dpmsLevel = gs.dpmsLevel)
      (hscanout : c'.host.scanout =
        some ⟨gs'.resourceId, 0, 0, gs'.visibleWidth, gs'.visibleHeight⟩)
      (hfbMem : gs'.fbMem ≠ 0) (hid : gs'.resourceId ≠ 0) (hid2 : gs'.fbResourceId2 = 0) :
      DisplayModeSet gs mi memory c c'

theorem GpuState.ModeUnchanged.withMode_eq (h : gs.ModeUnchanged mi) : gs.withMode mi = gs := by
  unfold GpuState.withMode
  rw [← h.1, ← h.2.1, ← h.2.2]

/-- The new resource is on the scanout, and dropping the old one does not take it off. -/
theorem Host.dropped_scanout {host : Host} {id old : UInt32} (w h : UInt32) (hid : id ≠ 0)
    (hne : id ≠ old) (answer : GpuAnswer) :
    ((host.switched id w h).dropped old answer).scanout = some ⟨id, 0, 0, w, h⟩ := by
  have hswitched : (host.switched id w h).scanout = some ⟨id, 0, 0, w, h⟩ := if_neg hid
  have hunref : ((host.switched id w h).unref old).scanout = some ⟨id, 0, 0, w, h⟩ := by
    change Option.filter _ (host.switched id w h).scanout = _
    rw [hswitched]
    simp [hne]
  unfold Host.dropped
  split
  · exact hswitched
  · cases answer with
    | refused => exact hswitched
    | done => exact hunref
    | lost => exact hunref

theorem visible_of_fits (gs : GpuState) (mem : ℕ) (w h count : UInt32) (list : ℕ) (id : UInt32)
    (hwidth : gs.activeWidth = w) (hheight : gs.activeHeight = h) :
    (gs.withFramebuffer mem w h count list id).withCursorRefresh.visibleWidth = w ∧
      (gs.withFramebuffer mem w h count list id).withCursorRefresh.visibleHeight = h := by
  unfold GpuState.visibleWidth GpuState.visibleHeight
  constructor
  · change (if gs.activeWidth < w then gs.activeWidth else w) = w
    rw [hwidth, ite_self]
  · change (if gs.activeHeight < h then gs.activeHeight else h) = h
    rw [hheight, ite_self]

theorem Agreed.setGC_cases (h : Agreed gs c) (mi : ModeInfo) (mem : Bool) (count : UInt32)
    (list immu : Bool) :
    DisplayModeSet gs mi (ResizeEnv.commandsDone mem count list immu).memory c
      (chipSetGC mi (.commandsDone mem count list immu) c).2 := by
  have hcases := chipSetGC_cases mi (.commandsDone mem count list immu) h.state
  generalize (chipSetGC mi (.commandsDone mem count list immu) c).2 = c' at hcases
  cases hcases with
  | unchanged hmode =>
      refine .unsent (fun hreaches => ?_) h.state rfl (Or.inl hmode.withMode_eq.symm)
      exact (gs.dimsChanged_iff mi).mp hreaches.1.1 ⟨hmode.1, hmode.2.1⟩
  | format hmode hdims => exact .unsent (fun hreaches => hdims hreaches.1) rfl rfl (Or.inl rfl)
  | @resized hasks r _ hresized hgs =>
      have hkept : r.2.withCursorRefresh.SameOtherwise gs :=
        ((GpuState.SameOtherwise.withCursorRefresh _).trans hresized.sameOtherwise).trans
          (.withMode gs mi)
      generalize hhost : c'.host = host' at hresized
      generalize c'.events = events' at hresized
      cases hresized with
      | zero hdims =>
          exact .unsent (fun hreaches => hreaches.2.1.1 hdims) hgs hhost (Or.inr rfl)
      | same hdims hsame =>
          exact .unsent (fun hreaches => hreaches.2.1.2 hsame) hgs hhost (Or.inr rfl)
      | memory hneeds hmemory =>
          refine .unsent (fun hreaches => ?_) hgs hhost (Or.inr rfl)
          exact absurd (hmemory.symm.trans hreaches.2.2) (by simp)
      | command hneeds hmemory hswitches hothers hnew =>
          have hdone : (ResizeEnv.commandsDone mem count list immu).switches = true := rfl
          exact absurd (hdone.symm.trans hswitches) (by simp)
      | @published hneeds hmemory hswitches fbMem fbList hmem =>
          -- the new frame buffer is shown, and the old one is dropped
          obtain ⟨hne, hne2, -⟩ := (gs.withMode mi).allocId_ne
          have hid : (gs.withMode mi).allocId ≠ 0 := fun h0 => hne2 (h0.trans h.fbResourceId2.symm)
          refine .sent ⟨hasks, hneeds, hmemory⟩ hgs hkept.dpmsLevel ?_ hmem hid
            (hkept.fbResourceId2.trans h.fbResourceId2)
          obtain ⟨hwidth, hheight⟩ := visible_of_fits (gs.withMode mi).idTaken fbMem
            mi.width.toUInt32 mi.height.toUInt32 count fbList (gs.withMode mi).allocId rfl rfl
          rw [hhost, Host.dropped_scanout _ _ hid hne]
          exact congrArg₂ (fun w h => some (Scanout.mk (gs.withMode mi).allocId 0 0 w h))
            hwidth.symm hheight.symm

/-- Where no command is sent, the expected scanout depends on the visible part alone. -/
theorem expectedScanout_withMode_iff (hdpms : gs.dpmsLevel = 0) :
    (gs.withMode mi).expectedScanout = gs.expectedScanout ↔ gs.SameExtent mi := by
  unfold GpuState.expectedScanout
  rw [if_pos hdpms, if_pos (show (gs.withMode mi).dpmsLevel = 0 from hdpms)]
  rw [Option.some.injEq, Scanout.mk.injEq]
  exact ⟨fun h => ⟨h.2.2.2.1, h.2.2.2.2⟩, fun h => ⟨rfl, rfl, rfl, h.1, h.2⟩⟩

theorem expectedScanout_off (hdpms : gs.dpmsLevel ≠ 0) : gs.expectedScanout = none := if_neg hdpms

/-- After a mode change the scanout agrees in the permitted cases, and not in the others. -/
theorem DisplayModeSet.agreed {memory : Bool} (h : Agreed gs c)
    (hset : DisplayModeSet gs mi memory c c')
    (hpermitted : if gs.dpmsLevel = 0 then gs.ReachesScanout mi memory ∨ gs.SameExtent mi
      else ¬ gs.ReachesScanout mi memory) : ∃ gs', Agreed gs' c' := by
  cases hset with
  | @unsent hnot gs' hgs hhost hset =>
      have hsame : (gs.withMode mi).expectedScanout = gs.expectedScanout := by
        by_cases hdpms : gs.dpmsLevel = 0
        · rw [if_pos hdpms] at hpermitted
          exact (expectedScanout_withMode_iff hdpms).mpr (hpermitted.resolve_left hnot)
        · rw [expectedScanout_off hdpms]
          exact expectedScanout_off hdpms
      have hscanout : c'.host.scanout = (gs.withMode mi).expectedScanout := by
        rw [hhost, h.scanout, hsame]
      rcases hset with rfl | rfl
      · exact ⟨_, hgs, hscanout, h.fbMem, h.resourceId_ne, h.fbResourceId2⟩
      · exact ⟨_, hgs, hscanout, h.fbMem, h.resourceId_ne, h.fbResourceId2⟩
  | @sent hreaches gs' hgs hdpms' hscanout hfbMem hid hid2 =>
      have hdpms : gs.dpmsLevel = 0 := by
        by_contra hdpms
        rw [if_neg hdpms] at hpermitted
        exact hpermitted hreaches
      refine ⟨gs', hgs, ?_, hfbMem, hid, hid2⟩
      rw [hscanout]
      exact (if_pos (hdpms'.trans hdpms)).symm

theorem DisplayModeSet.disagrees {memory : Bool} (h : Agreed gs c)
    (hset : DisplayModeSet gs mi memory c c')
    (hforbidden : ¬ if gs.dpmsLevel = 0 then gs.ReachesScanout mi memory ∨ gs.SameExtent mi
      else ¬ gs.ReachesScanout mi memory) : ¬ ScanoutAgrees c' := by
  intro hagrees
  cases hset with
  | @unsent hnot gs' hgs hhost hset =>
      have hdpms : gs.dpmsLevel = 0 := by
        by_contra hdpms
        rw [if_neg hdpms] at hforbidden
        exact hforbidden hnot
      rw [if_pos hdpms] at hforbidden
      refine hforbidden (Or.inr ((expectedScanout_withMode_iff hdpms).mp ?_))
      have hexpected : gs'.expectedScanout = (gs.withMode mi).expectedScanout := by
        rcases hset with rfl | rfl <;> rfl
      calc
        (gs.withMode mi).expectedScanout = gs'.expectedScanout := hexpected.symm
        _ = c'.host.scanout := (hagrees gs' hgs).symm
        _ = c.host.scanout := congrArg Host.scanout hhost
        _ = gs.expectedScanout := h.scanout
  | @sent hreaches gs' hgs hdpms' hscanout hfbMem hid hid2 =>
      have hdpms : gs.dpmsLevel ≠ 0 := by
        intro hdpms
        rw [if_pos hdpms] at hforbidden
        exact hforbidden (Or.inl hreaches)
      have hnone : c'.host.scanout = none := by
        rw [hagrees gs' hgs]
        exact expectedScanout_off (hdpms' ▸ hdpms)
      exact absurd (hscanout.symm.trans hnone) (by simp)

end ModeChange

/-! ## Runs -/

theorem powerRespected_setGC_iff {gs : GpuState} {c : CardState} (h : Agreed gs c) (mi : ModeInfo)
    (mem : Bool) (count : UInt32) (list immu : Bool) :
    PowerRespected c (.setGC mi mem count list immu) ↔
      if gs.dpmsLevel = 0 then
        gs.ReachesScanout mi (ResizeEnv.commandsDone mem count list immu).memory ∨ gs.SameExtent mi
      else ¬ gs.ReachesScanout mi (ResizeEnv.commandsDone mem count list immu).memory := by
  unfold PowerRespected
  simp only [h.state, Option.mem_some_iff, forall_eq']

theorem Agreed.step {gs : GpuState} {c : CardState} (h : Agreed gs c) {call : DisplayCall}
    (hpermitted : PowerRespected c call) : ∃ gs', Agreed gs' (call.perform c).2 := by
  cases call with
  | setGC mi mem count list immu =>
      have hcases := h.setGC_cases mi mem count list immu
      exact hcases.agreed h ((powerRespected_setGC_iff h mi mem count list immu).mp hpermitted)
  | setPanning mem width xOff yOff format =>
      exact chipSetPanning_agreed h mem width xOff yOff format
  | setDPMSLevel level => exact ⟨_, chipSetDPMSLevel_agreed h level⟩

theorem Agreed.violation {gs : GpuState} {c : CardState} (h : Agreed gs c) {call : DisplayCall}
    (hforbidden : ¬ PowerRespected c call) : ¬ ScanoutAgrees (call.perform c).2 := by
  cases call with
  | setGC mi mem count list immu =>
      rw [powerRespected_setGC_iff h] at hforbidden
      exact (h.setGC_cases mi mem count list immu).disagrees h hforbidden
  | setPanning mem width xOff yOff format => exact absurd trivial hforbidden
  | setDPMSLevel level => exact absurd trivial hforbidden

theorem Ready.agreed {gs : GpuState} {c : CardState} (h : Ready gs c) : Agreed gs c := by
  obtain ⟨-, -, hid2, -, -, hdpms, -⟩ := h.blank
  have hid : gs.resourceId = 1 := h.resourceId.trans h.fbResourceId
  refine ⟨h.state, ?_, h.fbMem, by simp [hid], hid2⟩
  unfold GpuState.expectedScanout GpuState.visibleWidth GpuState.visibleHeight
  rw [h.scanout, if_pos hdpms, hid, h.width, h.height, ite_self, ite_self]

/-- In every run of `chip_SetGC`, `chip_SetPanning` and `chip_SetDPMSLevel` with commands that
succeed: scanout 0 agrees with `ChipGPUState` and the power state after every call if and only
if every mode change respects the power state. -/
theorem scanout_agrees_iff {env : InitEnv} (hinit : (chipInitCard false env .start).1 = true)
    (calls : List DisplayCall) :
    Within displayStep PowerRespected (chipInitCard false env .start).2 calls ↔
      Always displayStep ScanoutAgrees (chipInitCard false env .start).2 calls := by
  obtain ⟨gs, hready⟩ := init_ready hinit
  refine within_iff_always (I := fun c => ∃ gs, Agreed gs c) ?_ ?_ ?_ calls ⟨gs, hready.agreed⟩
  · rintro c ⟨gs, hc⟩
    exact hc.scanoutAgrees
  · rintro c call c' ⟨gs, hc⟩ hpermitted hstep
    obtain rfl := Option.some.inj hstep
    exact hc.step hpermitted
  · rintro c call ⟨gs, hc⟩ hforbidden
    exact ⟨_, rfl, hc.violation hforbidden⟩

theorem scanout_agrees_working :
    Within displayStep PowerRespected (chipInitCard false .working .start).2
        [.setDPMSLevel 3, .setDPMSLevel 0, .setGC ⟨800, 600, 32⟩ true 1 true true] ↔
      Always displayStep ScanoutAgrees (chipInitCard false .working .start).2
        [.setDPMSLevel 3, .setDPMSLevel 0, .setGC ⟨800, 600, 32⟩ true 1 true true] :=
  scanout_agrees_iff (by decide +kernel) _

/-- The display is switched off, and the mode change switches it on. -/
theorem scanout_shown_while_off :
    (chipInitCard false .working .start).1 = true ∧
      ¬ Always displayStep ScanoutAgrees (chipInitCard false .working .start).2
        [.setDPMSLevel 3, .setGC ⟨800, 600, 32⟩ true 1 true true] := by
  decide +kernel

end VirtIOGPU.Card
