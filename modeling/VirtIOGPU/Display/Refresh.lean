import VirtIOGPU.Display.Modes

/-!
# Synthesised timings

Where a mode comes without a timing, `chip_add_mode` makes one up whose clock is that of 60 frames a
second.  Everything is computed in the types of the fields: a total of 16 bits, a clock of 32.  The
timing is right when the exact numbers fit these (`synthesised_timing_iff`).
-/

namespace VirtIOGPU.Display

/-! ## The interval -/

/-- The clamp to 30..240 Hz. -/
def clampHz (hz : UInt32) : UInt32 :=
  let hz := if hz < 30 then 30 else hz
  if hz > 240 then 240 else hz

/-- `chip_compute_refresh_us`. -/
def chipComputeRefreshUs (mi : Option ModeInfo) : UInt32 :=
  match mi with
  | none => 16667
  | some mi =>
      if mi.pixelClock = 0 ∨ mi.horTotal = 0 ∨ mi.verTotal = 0 then 16667
      else
        let total := mi.horTotal.toUInt32 * mi.verTotal.toUInt32
        if total = 0 then 16667
        else 1000000 / clampHz (mi.pixelClock / total)

/-! ## Where sizes come from -/

/-- A size that is added without a timing. -/
inductive GivenSize where
  /-- In `chip_handle_display_change`. -/
  | host (w h : UInt32)
  /-- In `chip_register_modes`. -/
  | edid (d : Dtd)

def GivenSize.width : GivenSize → ℕ
  | .host w _ => w.toNat
  | .edid d => d.1.toNat

def GivenSize.height : GivenSize → ℕ
  | .host _ h => h.toNat
  | .edid d => d.2.toNat

/-- The call of `chip_add_mode`. -/
def GivenSize.request (slotIdx : UInt32) : GivenSize → ModeRequest
  | .host w h => ⟨w.toUInt16, h.toUInt16, Timing.none, slotIdx⟩
  | .edid d => ⟨d.1, d.2, Timing.none, slotIdx⟩

theorem request_w (slotIdx : UInt32) (size : GivenSize) :
    (size.request slotIdx).w.toNat = size.width % 65536 := by
  cases size with
  | host w h => exact UInt32.toNat_toUInt16 w
  | edid d => exact (Nat.mod_eq_of_lt d.1.toNat_lt).symm

theorem request_h (slotIdx : UInt32) (size : GivenSize) :
    (size.request slotIdx).h.toNat = size.height % 65536 := by
  cases size with
  | host w h => exact UInt32.toNat_toUInt16 h
  | edid d => exact (Nat.mod_eq_of_lt d.2.toNat_lt).symm

theorem request_timing (slotIdx : UInt32) (size : GivenSize) :
    (size.request slotIdx).timing = Timing.none := by
  cases size with
  | host w h => rfl
  | edid d => rfl

/-! ## The timing -/

/-- The mode has the given size, and the timing of 60 frames a second as exact numbers. -/
structure Exact60 (size : GivenSize) (mi : ModeInfo) : Prop where
  width : mi.width.toNat = size.width
  height : mi.height.toNat = size.height
  horTotal : mi.horTotal.toNat = size.width + 160
  verTotal : mi.verTotal.toNat = size.height + 23
  horBlank : mi.horBlankSize.toNat = 160
  verBlank : mi.verBlankSize.toNat = 23
  clock : mi.pixelClock.toNat = (size.width + 160) * (size.height + 23) * 60
  interval : chipComputeRefreshUs (some mi) = 1000000 / 60

/-- The totals fit 16 bits, and the clock 32. -/
def TimingFits (size : GivenSize) : Prop :=
  size.width + 160 < 65536 ∧ size.height + 23 < 65536 ∧
    (size.width + 160) * (size.height + 23) * 60 < 2 ^ 32

instance (size : GivenSize) : Decidable (TimingFits size) :=
  inferInstanceAs (Decidable (_ ∧ _ ∧ _))

/-- The mode that is made for some depth. -/
def synthesised (size : GivenSize) (slotIdx : UInt32) (depth : UInt8) : ModeInfo :=
  let r := size.request slotIdx
  newModeInfo r.w r.h (r.timing.orCvt r.w r.h) slotIdx depth

theorem orCvt_none (mw mh : UInt16) : Timing.none.orCvt mw mh =
    ⟨(mw + 160).toUInt32 * (mh + 23).toUInt32 * 60, mw + 160, 48, 32, mh + 23, 3, 6, polarities⟩ :=
  if_pos (.inl rfl)

section Fits

variable {size : GivenSize} (slotIdx : UInt32) (depth : UInt8)

theorem toNat_horTotal (h : TimingFits size) :
    ((size.request slotIdx).w + 160).toNat = size.width + 160 := by
  have hw := request_w slotIdx size
  have hsmall := h.1
  rw [UInt16.toNat_add, hw]
  change (size.width % 65536 + 160) % 65536 = _
  omega

theorem toNat_verTotal (h : TimingFits size) :
    ((size.request slotIdx).h + 23).toNat = size.height + 23 := by
  have hh := request_h slotIdx size
  have hsmall := h.2.1
  rw [UInt16.toNat_add, hh]
  change (size.height % 65536 + 23) % 65536 = _
  omega

/-- The product of the totals, and the clock. -/
theorem toNat_clock (h : TimingFits size) :
    let total := ((size.request slotIdx).w + 160).toUInt32 *
      ((size.request slotIdx).h + 23).toUInt32
    total.toNat = (size.width + 160) * (size.height + 23) ∧
      (total * 60).toNat = (size.width + 160) * (size.height + 23) * 60 := by
  intro total
  have hclock := h.2.2
  have htotal : total.toNat = (size.width + 160) * (size.height + 23) := by
    rw [UInt32.toNat_mul, UInt16.toNat_toUInt32, UInt16.toNat_toUInt32, toNat_horTotal slotIdx h,
      toNat_verTotal slotIdx h]
    exact Nat.mod_eq_of_lt (by omega)
  refine ⟨htotal, ?_⟩
  rw [UInt32.toNat_mul, htotal]
  exact Nat.mod_eq_of_lt hclock

/-- Sixty frames a second. -/
theorem interval_synthesised (h : TimingFits size) :
    chipComputeRefreshUs (some (synthesised size slotIdx depth)) = 1000000 / 60 := by
  obtain ⟨htotal, hclock⟩ := toNat_clock slotIdx h
  have hhor := toNat_horTotal slotIdx h
  have hver := toNat_verTotal slotIdx h
  have hpos : 0 < (size.width + 160) * (size.height + 23) :=
    Nat.mul_pos (Nat.succ_pos _) (Nat.succ_pos _)
  simp only [chipComputeRefreshUs, synthesised, request_timing, orCvt_none, newModeInfo]
  generalize ((size.request slotIdx).w + 160).toUInt32 *
    ((size.request slotIdx).h + 23).toUInt32 = total at htotal hclock ⊢
  have hsome : ¬ (total * 60 = 0 ∨ (size.request slotIdx).w + 160 = 0 ∨
      (size.request slotIdx).h + 23 = 0) := by
    rw [← UInt32.toNat_inj, ← UInt16.toNat_inj, ← UInt16.toNat_inj, hclock, hhor, hver]
    change ¬ (_ = 0 ∨ _ = 0 ∨ _ = 0)
    omega
  have htotalSome : total ≠ 0 := by
    rw [ne_eq, ← UInt32.toNat_inj, htotal]
    change ¬ _ = 0
    omega
  have hhz : total * 60 / total = 60 := by
    rw [← UInt32.toNat_inj, UInt32.toNat_div, hclock, htotal]
    exact Nat.mul_div_cancel_left 60 hpos
  rw [if_neg hsome, if_neg htotalSome, hhz]
  rfl

theorem exact60_of_fits (h : TimingFits size) : Exact60 size (synthesised size slotIdx depth) := by
  obtain ⟨-, hclock⟩ := toNat_clock slotIdx h
  have hhor := toNat_horTotal slotIdx h
  have hver := toNat_verTotal slotIdx h
  have hw := request_w slotIdx size
  have hh := request_h slotIdx size
  have hwide := h.1
  have htall := h.2.1
  refine ⟨?_, ?_, ?_, ?_, ?_, ?_, ?_, interval_synthesised slotIdx depth h⟩
  all_goals simp only [synthesised, request_timing, orCvt_none, newModeInfo]
  · omega
  · omega
  · exact hhor
  · exact hver
  · rw [UInt16.add_comm, UInt16.add_sub_cancel]
    rfl
  · rw [UInt16.add_comm, UInt16.add_sub_cancel]
    rfl
  · exact hclock

/-- The fields hold no more than their types do. -/
theorem fits_of_exact60 {mi : ModeInfo} (h : Exact60 size mi) : TimingFits size := by
  have hhor := h.horTotal
  have hver := h.verTotal
  have hclock := h.clock
  refine ⟨?_, ?_, ?_⟩
  · rw [← hhor]
    exact mi.horTotal.toNat_lt
  · rw [← hver]
    exact mi.verTotal.toNat_lt
  · rw [← hclock]
    exact mi.pixelClock.toNat_lt

end Fits

/-- The entry that a call adds. -/
theorem chipAddMode_adds {gs : ModeState} {alloc : Allocation} {bi : BoardInfo}
    (hbi : gs.bi = some bi) {mw mh : UInt16} (timing : Timing) (slotIdx : UInt32)
    (hadds : addsEntry gs alloc mw mh = true) :
    let modes := newModeInfos alloc mw mh (timing.orCvt mw mh) slotIdx
    modes ≠ [] ∧ (chipAddMode gs alloc mw mh timing slotIdx).2.bi =
      some { bi with
        resolutionsList := bi.resolutionsList ++ [newResolution bi mw mh slotIdx modes] } := by
  intro modes
  constructor
  · simp only [addsEntry, Allocation.suffices, hbi, Bool.and_eq_true] at hadds
    have hsome : modes.isEmpty = false := by
      rw [newModeInfos_isEmpty, hadds.2.2]
      rfl
    exact fun hnil => by simp [hnil] at hsome
  · rw [(chipAddMode_spec hbi alloc mw mh timing slotIdx).2, if_pos hadds]
    rfl

/-- A new mode without a timing of its own gets, for each depth, the size that was given and exactly
the timing of 60 frames a second, if and only if that timing fits its fields. -/
theorem synthesised_timing_iff {gs : ModeState} {alloc : Allocation} {bi : BoardInfo}
    (hbi : gs.bi = some bi) (size : GivenSize) (slotIdx : UInt32)
    (hadds : addsEntry gs alloc (size.request slotIdx).w (size.request slotIdx).h = true) :
    let r := size.request slotIdx
    ∃ added : Resolution,
      (chipAddMode gs alloc r.w r.h r.timing slotIdx).2.bi =
          some { bi with resolutionsList := bi.resolutionsList ++ [added] } ∧
        ((added.width.toNat = size.width ∧ added.height.toNat = size.height ∧
            ∀ mode ∈ added.modes, Exact60 size mode.2) ↔ TimingFits size) := by
  intro r
  obtain ⟨hsome, hadded⟩ := chipAddMode_adds hbi r.timing slotIdx hadds
  refine ⟨_, hadded, ?_⟩
  constructor
  · rintro ⟨-, -, hall⟩
    obtain ⟨mode, rest, hcons⟩ := List.exists_cons_of_ne_nil hsome
    have hmem : mode ∈ newModeInfos alloc r.w r.h (r.timing.orCvt r.w r.h) slotIdx := by
      rw [hcons]
      exact List.mem_cons_self ..
    exact fits_of_exact60 (hall mode hmem)
  · intro hfits
    refine ⟨?_, ?_, fun mode hmode => ?_⟩
    · have hwide := hfits.1
      exact (request_w slotIdx size).trans (Nat.mod_eq_of_lt (by omega))
    · have htall := hfits.2.1
      exact (request_h slotIdx size).trans (Nat.mod_eq_of_lt (by omega))
    · obtain ⟨entry, -, rfl⟩ := List.mem_map.mp hmode
      exact exact60_of_fits slotIdx entry.1.2 hfits

/-- The board after registration without EDID data. -/
def plainBoard : ModeState := registered 0 false ⟨[], by decide⟩ fun _ => ⟨true, fun _ => true⟩

/-- The host reports 1366 x 768. -/
theorem synthesised_timing_wide :
    let size : GivenSize := .host 1366 768
    let r := size.request 0xC0
    ∃ bi added,
      (chipAddMode plainBoard ⟨true, fun _ => true⟩ r.w r.h r.timing 0xC0).2.bi = some bi ∧
        added ∈ bi.resolutionsList ∧ added.width.toNat = 1366 ∧
        ∀ mode ∈ added.modes, Exact60 size mode.2 := by
  obtain ⟨added, hadded, hexact⟩ := synthesised_timing_iff (rfl : plainBoard.bi = some _)
    (.host 1366 768) 0xC0
    (by decide +kernel : addsEntry plainBoard ⟨true, fun _ => true⟩ _ _ = true)
  obtain ⟨hwidth, -, hall⟩ := hexact.mpr (by decide)
  exact ⟨_, added, hadded, by simp, hwidth, hall⟩

/-- The clock of 10000 x 8000 needs 33 bits, and the mode refreshes at what is taken for 30 Hz. -/
theorem synthesised_clock_wraps :
    let size : GivenSize := .host 10000 8000
    let r := size.request 0xC0
    ∃ bi added mode,
      (chipAddMode plainBoard ⟨true, fun _ => true⟩ r.w r.h r.timing 0xC0).2.bi = some bi ∧
        added ∈ bi.resolutionsList ∧ mode ∈ added.modes ∧
        (size.width + 160) * (size.height + 23) * 60 = 4890820800 ∧
        mode.2.pixelClock = 595853504 ∧ chipComputeRefreshUs (some mode.2) = 33333 ∧
        ¬ Exact60 size mode.2 := by
  obtain ⟨-, hadded⟩ := chipAddMode_adds (rfl : plainBoard.bi = some _) Timing.none 0xC0
    (by decide +kernel : addsEntry plainBoard ⟨true, fun _ => true⟩ 10000 8000 = true)
  refine ⟨_, _, (4, synthesised (.host 10000 8000) 0xC0 32), hadded,
    List.mem_append_right _ (List.mem_singleton_self _), ?_, by decide, by decide, by decide,
    fun h => absurd (fits_of_exact60 h) (by decide)⟩
  exact List.mem_map.mpr ⟨((4, 32), 2), by decide, rfl⟩

end VirtIOGPU.Display
