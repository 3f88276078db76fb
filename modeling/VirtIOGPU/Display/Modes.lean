import Mathlib.Data.List.Nodup
import VirtIOGPU.Display.Edid
import VirtIOGPU.Lib.Machine

/-!
# The list of resolutions and its DisplayIDs

`chip_register_modes` fills the list from the static table and from the EDID timings, and
`chip_handle_display_change` adds the size that the host reports.  Each of them gives
`chip_add_mode` a slot number, and the low byte of the slot is what tells two DisplayIDs apart.

The slots of the first two sources ascend and stay below `0xC0`.  Those of the third come from
a counter of which six bits are used, and the counter also advances where the size was known.

## Strategy

A DisplayID has the slot in its low byte, so DisplayIDs are distinct if and only if slots are
(`nodup_displayIds_iff`).  The slots are followed instead:

```text
added by              slot                  among themselves   and the others
static table          2, 3, ...             ascend             below the EDID timings
EDID timings          behind the table's    ascend             below 0xC0
a display change      0xC0 + (count & 63)   see DisplayIds     0xC0 and above
```

`chipAddMode_spec` says what one call adds: nothing, or one resolution with one mode for each depth,
and all of these share the slot.
-/

namespace VirtIOGPU.Display

open Lib.Machine

/-! ## Adding a mode -/

/-- The timing of a `struct ChipModeEntry`. -/
structure Timing where
  clock : UInt32
  horTotal : UInt16
  horSyncStart : UInt16
  horSyncSize : UInt16
  verTotal : UInt16
  verSyncStart : UInt16
  verSyncSize : UInt16
  flags : UInt8

structure ChipModeEntry where
  w : UInt16
  h : UInt16
  timing : Timing

def gmfHPolarity : UInt8 := 0x04
def gmfVPolarity : UInt8 := 0x08

def polarities : UInt8 := gmfHPolarity ||| gmfVPolarity

def chipModes : List ChipModeEntry :=
  [⟨0, 0, ⟨0, 0, 0, 0, 0, 0, 0, 0⟩⟩,
    ⟨640, 480, ⟨25175000, 800, 16, 96, 525, 10, 2, polarities⟩⟩,
    ⟨800, 600, ⟨40000000, 1056, 40, 128, 628, 1, 4, polarities⟩⟩,
    ⟨1024, 768, ⟨65000000, 1344, 24, 136, 806, 3, 6, polarities⟩⟩,
    ⟨1280, 720, ⟨74250000, 1650, 110, 40, 750, 5, 5, 0⟩⟩,
    ⟨1280, 800, ⟨83500000, 1440, 48, 32, 823, 3, 6, polarities⟩⟩,
    ⟨1280, 1024, ⟨108000000, 1688, 48, 112, 1066, 1, 3, 0⟩⟩,
    ⟨1440, 900, ⟨88750000, 1600, 48, 32, 926, 3, 6, polarities⟩⟩,
    ⟨1600, 900, ⟨108000000, 1800, 24, 80, 1000, 1, 3, 0⟩⟩,
    ⟨1600, 1200, ⟨162000000, 2160, 64, 192, 1250, 1, 3, 0⟩⟩,
    ⟨1920, 1080, ⟨148500000, 2200, 88, 44, 1125, 4, 5, 0⟩⟩,
    ⟨1920, 1200, ⟨154000000, 2080, 48, 32, 1235, 3, 6, polarities⟩⟩,
    ⟨2560, 1440, ⟨241500000, 2720, 48, 32, 1478, 3, 5, polarities⟩⟩,
    ⟨3840, 2160, ⟨594000000, 4400, 176, 88, 2250, 8, 10, 0⟩⟩]

def chipNumModes : UInt32 := UInt32.ofNat chipModes.length

/-- Index into `Resolution::Modes[]`, and bits per pixel. -/
def chipDepthTable : List (ℕ × UInt8) := [(1, 8), (2, 16), (4, 32)]

structure ModeInfo where
  width : UInt16
  height : UInt16
  depth : UInt8
  flags : UInt8
  horTotal : UInt16
  horBlankSize : UInt16
  horSyncStart : UInt16
  horSyncSize : UInt16
  verTotal : UInt16
  verBlankSize : UInt16
  verSyncStart : UInt16
  verSyncSize : UInt16
  pixelClock : UInt32
  clock : UInt8
  clockDiv : UInt8

/-- An entry of the list; `modes` has the occupied places of `Modes[]`. -/
structure Resolution where
  p96Id : String
  name : String
  displayId : UInt32
  width : UInt16
  height : UInt16
  flags : UInt16
  modes : List (ℕ × ModeInfo)

structure BoardInfo where
  boardNum : UInt16
  resolutionsList : List Resolution

/-- The arrays have room for 16 timings. -/
abbrev DtdList := { dtds : List Dtd // dtds.length ≤ 16 }

/-- What the three functions use of `ChipGPUState`. -/
structure ModeState where
  bi : Option BoardInfo
  hasEdid : Bool
  dtds : DtdList
  hotplugModeCount : UInt32

/-- The answers of `AllocVecTags` in a call of `chip_add_mode`: for the `Resolution`, and for
each `ModeInfo`. -/
structure Allocation where
  resolution : Bool
  modeInfo : ℕ → Bool

def p96fFamily : UInt16 := 0x0001

def chipResolutionExists (bi : BoardInfo) (w h : UInt16) : Bool :=
  bi.resolutionsList.any fun r => r.width == w && r.height == h

/-- The CVT-RB timing where the caller has none. -/
def Timing.orCvt (timing : Timing) (mw mh : UInt16) : Timing :=
  if timing.horTotal = 0 ∨ timing.verTotal = 0 then
    { clock := (mw + 160).toUInt32 * (mh + 23).toUInt32 * 60
      horTotal := mw + 160
      horSyncStart := 48
      horSyncSize := 32
      verTotal := mh + 23
      verSyncStart := 3
      verSyncSize := 6
      flags := polarities }
  else timing

def displayIdOf (slotIdx : UInt32) : UInt32 :=
  (0x00050000 : UInt32) ||| ((slotIdx &&& 0xFF) <<< 8)

def newResolution (bi : BoardInfo) (mw mh : UInt16) (slotIdx : UInt32)
    (modes : List (ℕ × ModeInfo)) : Resolution where
  p96Id := "RTG-" ++ toString (bi.boardNum % 10) ++ ":"
  name := "VIO:" ++ toString mw ++ "x" ++ toString mh
  displayId := displayIdOf slotIdx
  width := mw
  height := mh
  flags := p96fFamily
  modes := modes

def newModeInfo (mw mh : UInt16) (timing : Timing) (slotIdx : UInt32) (depth : UInt8) :
    ModeInfo where
  width := mw
  height := mh
  depth := depth
  flags := timing.flags
  horTotal := timing.horTotal
  horBlankSize := timing.horTotal - mw
  horSyncStart := timing.horSyncStart
  horSyncSize := timing.horSyncSize
  verTotal := timing.verTotal
  verBlankSize := timing.verTotal - mh
  verSyncStart := timing.verSyncStart
  verSyncSize := timing.verSyncSize
  pixelClock := timing.clock
  clock := (if slotIdx < chipNumModes then slotIdx else 1).toUInt8
  clockDiv := 1

/-- The loop over the depth table, which goes on after a failed allocation. -/
def newModeInfos (alloc : Allocation) (mw mh : UInt16) (timing : Timing) (slotIdx : UInt32) :
    List (ℕ × ModeInfo) :=
  (chipDepthTable.zipIdx.filter fun (_, d) => alloc.modeInfo d).map fun ((mc, depth), _) =>
    (mc, newModeInfo mw mh timing slotIdx depth)

/-- `AddTail`. -/
def ModeState.addTail (gs : ModeState) (bi : BoardInfo) (r : Resolution) : ModeState :=
  { gs with bi := some { bi with resolutionsList := bi.resolutionsList ++ [r] } }

def chipAddMode (gs : ModeState) (alloc : Allocation) (mw mh : UInt16) (timing : Timing)
    (slotIdx : UInt32) : Bool × ModeState :=
  match gs.bi with
  | none => (false, gs)
  | some bi =>
      if mw = 0 ∨ mh = 0 then
        (false, gs)
      else if chipResolutionExists bi mw mh then
        (true, gs)
      else if alloc.resolution then
        let modes := newModeInfos alloc mw mh (timing.orCvt mw mh) slotIdx
        -- without any `ModeInfo` the entry is freed again
        if modes.isEmpty then (false, gs)
        else (true, gs.addTail bi (newResolution bi mw mh slotIdx modes))
      else (false, gs)

/-! ## The two callers -/

/-- The arguments of a call of `chip_add_mode`. -/
structure ModeRequest where
  w : UInt16
  h : UInt16
  timing : Timing
  slotIdx : UInt32

def Timing.none : Timing := ⟨0, 0, 0, 0, 0, 0, 0, 0⟩

/-- The calls in order; the answers for memory are given by slot. -/
def addModes (alloc : UInt32 → Allocation) (gs : ModeState) (requests : List ModeRequest) :
    ModeState :=
  requests.foldl (fun gs r => (chipAddMode gs (alloc r.slotIdx) r.w r.h r.timing r.slotIdx).2) gs

/-- The first pass, which leaves out the entries 0 and 1. -/
def staticRequests : List ModeRequest :=
  (chipModes.zipIdx.drop 2).map fun (mode, m) => ⟨mode.w, mode.h, mode.timing, UInt32.ofNat m⟩

/-- The second pass. -/
def edidRequests (dtds : List Dtd) : List ModeRequest :=
  dtds.zipIdx.map fun (d, i) => ⟨d.1, d.2, Timing.none, chipNumModes + UInt32.ofNat i⟩

def chipRegisterModes (gs : ModeState) (alloc : UInt32 → Allocation) : ModeState :=
  match gs.bi with
  | none => gs
  | some _ =>
      let gs := addModes alloc gs staticRequests
      if gs.hasEdid ∧ gs.dtds.val.length > 0 then
        addModes alloc gs (edidRequests gs.dtds.val)
      else gs

def hotplugSlot (count : UInt32) : UInt32 := 0xC0 + (count &&& 0x3F)

/-- The function, given the answer of `chip_GetDisplayInfo`. -/
def chipHandleDisplayChange (gs : ModeState) (alloc : Allocation)
    (reported : Option (UInt32 × UInt32)) : ModeState :=
  match reported with
  | none => gs
  | some (newW, newH) =>
      let (added, gs) := chipAddMode gs alloc newW.toUInt16 newH.toUInt16 Timing.none
        (hotplugSlot gs.hotplugModeCount)
      if added then { gs with hotplugModeCount := gs.hotplugModeCount + 1 } else gs

/-! ## Runs -/

/-- There is memory for the `Resolution` and for at least one `ModeInfo`. -/
def Allocation.suffices (alloc : Allocation) : Bool :=
  alloc.resolution && chipDepthTable.zipIdx.any fun (_, d) => alloc.modeInfo d

/-- The call of `chip_add_mode` adds an entry: the size is proper and new, and there is memory. -/
def addsEntry (gs : ModeState) (alloc : Allocation) (mw mh : UInt16) : Bool :=
  match gs.bi with
  | none => false
  | some bi => mw != 0 && mh != 0 && !chipResolutionExists bi mw mh && alloc.suffices

/-- It returns `TRUE`: the size is proper, and it is known or there is memory. -/
def answersTrue (gs : ModeState) (alloc : Allocation) (mw mh : UInt16) : Bool :=
  match gs.bi with
  | none => false
  | some bi => mw != 0 && mh != 0 && (chipResolutionExists bi mw mh || alloc.suffices)

/-- A display-change event. -/
structure DisplayChange where
  reported : Option (UInt32 × UInt32)
  alloc : Allocation

def changeStep (gs : ModeState) (e : DisplayChange) : Option ModeState :=
  some (chipHandleDisplayChange gs e.alloc e.reported)

/-- The board after `chip_register_modes` has run on an empty list. -/
def registered (boardNum : UInt16) (hasEdid : Bool) (dtds : DtdList)
    (alloc : UInt32 → Allocation) : ModeState :=
  chipRegisterModes
    { bi := some ⟨boardNum, []⟩, hasEdid := hasEdid, dtds := dtds, hotplugModeCount := 0 } alloc

def ModeState.displayIds (gs : ModeState) : List UInt32 :=
  match gs.bi with
  | none => []
  | some bi => bi.resolutionsList.map Resolution.displayId

/-- The entries have pairwise distinct DisplayIDs. -/
def DistinctIds (gs : ModeState) : Prop := gs.displayIds.Nodup

instance : DecidablePred DistinctIds := fun gs => inferInstanceAs (Decidable gs.displayIds.Nodup)

/-! ## Slots -/

theorem hotplugSlot_toNat (count : UInt32) :
    (hotplugSlot count).toNat = 192 + count.toNat % 64 := by
  have hlow : (count &&& 0x3F).toNat = count.toNat % 64 := by
    rw [UInt32.toNat_and]
    exact Nat.and_two_pow_sub_one_eq_mod count.toNat 6
  rw [hotplugSlot, UInt32.toNat_add, hlow]
  have hbound : count.toNat % 64 < 64 := Nat.mod_lt _ (by decide)
  change (192 + count.toNat % 64) % 2 ^ 32 = _
  omega

theorem hotplugSlot_eq_iff {c d : UInt32} :
    hotplugSlot c = hotplugSlot d ↔ c.toNat % 64 = d.toNat % 64 := by
  rw [← UInt32.toNat_inj, hotplugSlot_toNat, hotplugSlot_toNat]
  omega

/-- The slot is in the DisplayID. -/
theorem slot_of_displayId {slot : UInt32} (h : slot.toNat < 256) :
    (displayIdOf slot >>> 8) &&& 0xFF = slot := by
  have hall : ∀ k : Fin 256, (displayIdOf (UInt32.ofNat k) >>> 8) &&& 0xFF = UInt32.ofNat k := by
    decide +kernel
  have hslot := hall ⟨slot.toNat, h⟩
  rwa [UInt32.ofNat_toNat] at hslot

theorem nodup_displayIds_iff {slots : List UInt32} (h : ∀ slot ∈ slots, slot.toNat < 256) :
    (slots.map displayIdOf).Nodup ↔ slots.Nodup := by
  constructor
  · exact List.Nodup.of_map displayIdOf
  · refine List.Nodup.map_on fun x hx y hy hxy => ?_
    rw [← slot_of_displayId (h x hx), hxy, slot_of_displayId (h y hy)]

/-! ## What a call adds -/

theorem displayIds_addTail (gs : ModeState) {bi : BoardInfo} (hbi : gs.bi = some bi)
    (r : Resolution) : (gs.addTail bi r).displayIds = gs.displayIds ++ [r.displayId] := by
  simp [ModeState.displayIds, ModeState.addTail, hbi]

/-- Without a `ModeInfo` for any depth. -/
theorem newModeInfos_isEmpty (alloc : Allocation) (mw mh : UInt16) (timing : Timing)
    (slotIdx : UInt32) : (newModeInfos alloc mw mh timing slotIdx).isEmpty =
      !chipDepthTable.zipIdx.any fun (_, d) => alloc.modeInfo d := by
  rw [newModeInfos, List.isEmpty_map, Bool.eq_iff_iff, List.isEmpty_iff, List.filter_eq_nil_iff,
    Bool.not_eq_true', List.any_eq_false]

/-- What a call returns, and the one entry that it may add. -/
theorem chipAddMode_spec {gs : ModeState} {bi : BoardInfo} (hbi : gs.bi = some bi)
    (alloc : Allocation) (mw mh : UInt16) (timing : Timing) (slotIdx : UInt32) :
    (chipAddMode gs alloc mw mh timing slotIdx).1 = answersTrue gs alloc mw mh ∧
      (chipAddMode gs alloc mw mh timing slotIdx).2 =
        if addsEntry gs alloc mw mh then
          gs.addTail bi (newResolution bi mw mh slotIdx
            (newModeInfos alloc mw mh (timing.orCvt mw mh) slotIdx))
        else gs := by
  simp only [chipAddMode, answersTrue, addsEntry, Allocation.suffices, hbi]
  by_cases hproper : mw = 0 ∨ mh = 0
  · rcases hproper with rfl | rfl <;> simp
  obtain ⟨hw, hh⟩ := not_or.mp hproper
  cases hknown : chipResolutionExists bi mw mh with
  | true => simp [hw, hh]
  | false =>
      cases hmemory : alloc.resolution with
      | false => simp [hw, hh]
      | true =>
          simp only [hproper, if_false, if_true, Bool.false_eq_true, newModeInfos_isEmpty]
          cases hany : chipDepthTable.zipIdx.any fun (_, d) => alloc.modeInfo d with
          | false => simp
          | true => simp [hw, hh]

/-- The call adds one entry, with the slot that it is given, or leaves the list alone. -/
theorem displayIds_chipAddMode (gs : ModeState) (alloc : Allocation) (mw mh : UInt16)
    (timing : Timing) (slotIdx : UInt32) :
    (chipAddMode gs alloc mw mh timing slotIdx).2.displayIds =
      gs.displayIds ++ if addsEntry gs alloc mw mh then [displayIdOf slotIdx] else [] := by
  cases hbi : gs.bi with
  | none => simp [chipAddMode, addsEntry, hbi]
  | some bi =>
      rw [(chipAddMode_spec hbi alloc mw mh timing slotIdx).2]
      by_cases hadds : addsEntry gs alloc mw mh = true
      · rw [if_pos hadds, if_pos hadds, displayIds_addTail gs hbi, newResolution]
      · rw [if_neg hadds, if_neg hadds, List.append_nil]

/-- The entries that a list of calls adds have slots of these calls, in the same order. -/
theorem displayIds_addModes (alloc : UInt32 → Allocation) (gs : ModeState)
    (requests : List ModeRequest) : ∃ slots : List UInt32,
      slots.Sublist (requests.map ModeRequest.slotIdx) ∧
        (addModes alloc gs requests).displayIds = gs.displayIds ++ slots.map displayIdOf := by
  induction requests generalizing gs with
  | nil => exact ⟨[], List.Sublist.slnil, (List.append_nil _).symm⟩
  | cons r rest ih =>
      obtain ⟨slots, hsub, hids⟩ :=
        ih (chipAddMode gs (alloc r.slotIdx) r.w r.h r.timing r.slotIdx).2
      rw [displayIds_chipAddMode] at hids
      by_cases hadds : addsEntry gs (alloc r.slotIdx) r.w r.h
      · rw [if_pos hadds, List.append_assoc] at hids
        exact ⟨r.slotIdx :: slots, hsub.cons_cons _, hids⟩
      · rw [if_neg hadds, List.append_nil] at hids
        exact ⟨slots, hsub.cons _, hids⟩

/-! ## The early slots -/

theorem slots_staticRequests :
    staticRequests.map ModeRequest.slotIdx = (List.range' 2 12).map UInt32.ofNat := by
  decide

theorem slots_edidRequests (dtds : List Dtd) :
    (edidRequests dtds).map ModeRequest.slotIdx =
      (List.range' 14 dtds.length).map UInt32.ofNat := by
  have hindices : dtds.zipIdx.map Prod.snd = List.range dtds.length := by
    rw [List.zipIdx_map_snd, List.range_eq_range']
  rw [edidRequests, List.map_map, List.range'_eq_map_range, List.map_map, ← hindices, List.map_map]
  apply List.map_congr_left
  intro p _
  exact (UInt32.ofNat_add 14 p.2).symm

/-- The slots of both passes ascend from 2 on. -/
theorem slots_requests (dtds : List Dtd) :
    (staticRequests ++ edidRequests dtds).map ModeRequest.slotIdx =
      (List.range' 2 (12 + dtds.length)).map UInt32.ofNat := by
  rw [List.map_append, slots_staticRequests, slots_edidRequests, ← List.map_append]
  exact congrArg _ List.range'_append_1

/-- There are at most 28 of them. -/
theorem early_of_sublist {dtds : DtdList} {slots : List UInt32} (hsub : slots.Sublist
    ((staticRequests ++ edidRequests dtds.val).map ModeRequest.slotIdx)) :
    slots.Nodup ∧ ∀ slot ∈ slots, slot.toNat < 192 := by
  rw [slots_requests] at hsub
  have hlow : ∀ k ∈ List.range' 2 (12 + dtds.val.length), (UInt32.ofNat k).toNat = k ∧ k < 192 := by
    intro k hk
    have hk' := List.mem_range'_1.mp hk
    have hlength := dtds.property
    have hlt : k < 192 := by omega
    exact ⟨UInt32.toNat_ofNat_of_lt' (Nat.lt_trans hlt (by decide)), hlt⟩
  constructor
  · refine hsub.nodup (List.Nodup.map_on (fun k hk l hl hkl => ?_) List.nodup_range')
    rw [← (hlow k hk).1, hkl, (hlow l hl).1]
  · intro slot hslot
    obtain ⟨k, hk, rfl⟩ := List.mem_map.mp (hsub.subset hslot)
    rw [(hlow k hk).1]
    exact (hlow k hk).2

/-- Adding modes leaves the timings alone. -/
theorem chipAddMode_dtds (gs : ModeState) (alloc : Allocation) (mw mh : UInt16)
    (timing : Timing) (slotIdx : UInt32) :
    (chipAddMode gs alloc mw mh timing slotIdx).2.hasEdid = gs.hasEdid ∧
      (chipAddMode gs alloc mw mh timing slotIdx).2.dtds = gs.dtds := by
  unfold chipAddMode
  cases gs.bi with
  | none => exact ⟨rfl, rfl⟩
  | some bi =>
      dsimp only
      repeat' split
      all_goals exact ⟨rfl, rfl⟩

theorem addModes_dtds (alloc : UInt32 → Allocation) (gs : ModeState)
    (requests : List ModeRequest) : (addModes alloc gs requests).hasEdid = gs.hasEdid ∧
      (addModes alloc gs requests).dtds = gs.dtds := by
  induction requests generalizing gs with
  | nil => exact ⟨rfl, rfl⟩
  | cons r rest ih =>
      obtain ⟨hhas, hdtds⟩ := ih (chipAddMode gs (alloc r.slotIdx) r.w r.h r.timing r.slotIdx).2
      obtain ⟨hhas', hdtds'⟩ := chipAddMode_dtds gs (alloc r.slotIdx) r.w r.h r.timing r.slotIdx
      exact ⟨hhas.trans hhas', hdtds.trans hdtds'⟩

/-- Both passes are one list of calls. -/
theorem chipRegisterModes_eq {gs : ModeState} {bi : BoardInfo} (hbi : gs.bi = some bi)
    (alloc : UInt32 → Allocation) : chipRegisterModes gs alloc = addModes alloc gs
      (staticRequests ++
        if gs.hasEdid ∧ gs.dtds.val.length > 0 then edidRequests gs.dtds.val else []) := by
  obtain ⟨hhas, hdtds⟩ := addModes_dtds alloc gs staticRequests
  simp only [chipRegisterModes, hbi, hhas, hdtds]
  split
  · exact (List.foldl_append ..).symm
  · rw [List.append_nil]

theorem displayIds_registered (boardNum : UInt16) (hasEdid : Bool) (dtds : DtdList)
    (alloc : UInt32 → Allocation) : ∃ slots : List UInt32,
      slots.Nodup ∧ (∀ slot ∈ slots, slot.toNat < 192) ∧
        (registered boardNum hasEdid dtds alloc).displayIds = slots.map displayIdOf := by
  obtain ⟨slots, hsub, hids⟩ := displayIds_addModes alloc
    { bi := some ⟨boardNum, []⟩, hasEdid := hasEdid, dtds := dtds, hotplugModeCount := 0 }
    (staticRequests ++ if hasEdid ∧ dtds.val.length > 0 then edidRequests dtds.val else [])
  have hall : slots.Sublist ((staticRequests ++ edidRequests dtds.val).map
      ModeRequest.slotIdx) := by
    refine hsub.trans ((List.Sublist.append_left ?_ _).map _)
    split
    · exact List.Sublist.refl _
    · exact List.nil_sublist _
  obtain ⟨hnodup, hlow⟩ := early_of_sublist hall
  refine ⟨slots, hnodup, hlow, ?_⟩
  rw [registered, chipRegisterModes_eq rfl]
  exact hids

end VirtIOGPU.Display
