import VirtIOGPU.Display.Modes

/-!
# Which sizes are in the list

With enough memory each call of `chip_add_mode` adds its size, unless the size is known or has a
zero in it (`insertNew`).  So the list never has a size twice, and it has the sizes it was given.

It was not given all of them.  `chip_register_modes` begins with entry 2 of the table, and entry 1
is a mode like the others; and `chip_handle_display_change` cuts the reported numbers to 16 bits.

## Strategy

```text
source                       gives                            of these the list gets
the static table             entry 2 and the following        all
the EDID timings             the size of each timing          all without a zero
display changes              the two numbers, cut to 16 bits  all without a zero
```

`insertNew` is the list as a set with an order.  That a size is in it after a sequence of calls is
`mem_insertNew` once for each call, and the three sources are compared with what they should give;
both slips are differences in the middle column.
-/

namespace VirtIOGPU.Display

open Lib.Machine

/-! ## Lists of sizes -/

def Proper (size : ℕ × ℕ) : Prop := size.1 ≠ 0 ∧ size.2 ≠ 0

instance : DecidablePred Proper := fun size => inferInstanceAs (Decidable (size.1 ≠ 0 ∧ size.2 ≠ 0))

/-- A new size goes to the end. -/
def insertNew (sizes : List (ℕ × ℕ)) (size : ℕ × ℕ) : List (ℕ × ℕ) :=
  if Proper size ∧ size ∉ sizes then sizes ++ [size] else sizes

theorem insertNew_nodup {sizes : List (ℕ × ℕ)} (h : sizes.Nodup) (size : ℕ × ℕ) :
    (insertNew sizes size).Nodup := by
  unfold insertNew
  split
  · next hnew =>
      rw [← List.concat_eq_append]
      exact (List.nodup_concat ..).mpr ⟨hnew.2, h⟩
  · exact h

theorem mem_insertNew {sizes : List (ℕ × ℕ)} {size other : ℕ × ℕ} :
    other ∈ insertNew sizes size ↔ other ∈ sizes ∨ (Proper size ∧ other = size) := by
  unfold insertNew
  split
  · next hnew => simp [hnew.1]
  · next hold =>
      refine ⟨Or.inl, fun h => h.elim id fun ⟨hproper, heq⟩ => ?_⟩
      rw [heq]
      by_contra hnot
      exact hold ⟨hproper, hnot⟩

theorem foldl_insertNew (given sizes : List (ℕ × ℕ)) (h : sizes.Nodup) :
    (given.foldl insertNew sizes).Nodup ∧ ∀ size, size ∈ given.foldl insertNew sizes ↔
      size ∈ sizes ∨ (Proper size ∧ size ∈ given) := by
  induction given generalizing sizes with
  | nil => exact ⟨h, fun size => by simp⟩
  | cons first rest ih =>
      obtain ⟨hnodup, hmem⟩ := ih (insertNew sizes first) (insertNew_nodup h first)
      refine ⟨hnodup, fun size => ?_⟩
      rw [List.foldl_cons, hmem, mem_insertNew, List.mem_cons]
      constructor
      · rintro ((hold | ⟨hproper, rfl⟩) | ⟨hproper, hrest⟩)
        · exact .inl hold
        · exact .inr ⟨hproper, .inl rfl⟩
        · exact .inr ⟨hproper, .inr hrest⟩
      · rintro (hold | ⟨hproper, rfl | hrest⟩)
        · exact .inl (.inl hold)
        · exact .inl (.inr ⟨hproper, rfl⟩)
        · exact .inr ⟨hproper, hrest⟩

/-! ## The list of the board -/

def Resolution.size (r : Resolution) : ℕ × ℕ := (r.width.toNat, r.height.toNat)

def ModeState.sizes (gs : ModeState) : List (ℕ × ℕ) :=
  match gs.bi with
  | none => []
  | some bi => bi.resolutionsList.map Resolution.size

/-- There is memory for everything. -/
def Allocation.granted : Allocation := ⟨true, fun _ => true⟩

theorem sizes_lt {gs : ModeState} {size : ℕ × ℕ} (h : size ∈ gs.sizes) :
    size.1 < 65536 ∧ size.2 < 65536 := by
  unfold ModeState.sizes at h
  split at h
  · exact absurd h List.not_mem_nil
  · obtain ⟨r, -, rfl⟩ := List.mem_map.mp h
    exact ⟨r.width.toNat_lt, r.height.toNat_lt⟩

theorem chipResolutionExists_iff {gs : ModeState} {bi : BoardInfo} (hbi : gs.bi = some bi)
    (w h : UInt16) : chipResolutionExists bi w h = true ↔ (w.toNat, h.toNat) ∈ gs.sizes := by
  simp only [chipResolutionExists, ModeState.sizes, hbi, List.any_eq_true, List.mem_map,
    Bool.and_eq_true, beq_iff_eq, Resolution.size, Prod.mk.injEq, UInt16.toNat_inj]

theorem proper_iff (mw mh : UInt16) : Proper (mw.toNat, mh.toNat) ↔ mw ≠ 0 ∧ mh ≠ 0 := by
  rw [Proper, ne_eq, ne_eq, ne_eq, ne_eq, ← UInt16.toNat_inj, ← UInt16.toNat_inj]
  rfl

/-- An entry is added for a proper size that is not in the list, as long as there is memory. -/
theorem addsEntry_iff {gs : ModeState} {bi : BoardInfo} (hbi : gs.bi = some bi)
    (alloc : Allocation) (mw mh : UInt16) :
    addsEntry gs alloc mw mh = true ↔
      (Proper (mw.toNat, mh.toNat) ∧ (mw.toNat, mh.toNat) ∉ gs.sizes) ∧ alloc.suffices = true := by
  rw [proper_iff, ← chipResolutionExists_iff hbi]
  simp [addsEntry, hbi]

/-- What a call of `chip_add_mode` makes of the list. -/
theorem sizes_chipAddMode {gs : ModeState} {bi : BoardInfo} (hbi : gs.bi = some bi)
    (alloc : Allocation) (mw mh : UInt16) (timing : Timing) (slotIdx : UInt32) :
    let added := (chipAddMode gs alloc mw mh timing slotIdx).2
    (added.sizes =
      if addsEntry gs alloc mw mh then gs.sizes ++ [(mw.toNat, mh.toNat)] else gs.sizes) ∧
      ∃ bi', added.bi = some bi' := by
  intro added
  have hadded : added = _ := (chipAddMode_spec hbi alloc mw mh timing slotIdx).2
  rw [hadded]
  by_cases hadds : addsEntry gs alloc mw mh = true
  · rw [if_pos hadds, if_pos hadds]
    refine ⟨?_, _, rfl⟩
    simp only [ModeState.sizes, ModeState.addTail, hbi]
    exact List.map_append
  · rw [if_neg hadds, if_neg hadds]
    exact ⟨rfl, bi, hbi⟩

/-- The same with enough memory. -/
theorem sizes_chipAddMode_granted {gs : ModeState} {bi : BoardInfo} (hbi : gs.bi = some bi)
    (mw mh : UInt16) (timing : Timing) (slotIdx : UInt32) :
    let added := (chipAddMode gs .granted mw mh timing slotIdx).2
    added.sizes = insertNew gs.sizes (mw.toNat, mh.toNat) ∧ ∃ bi', added.bi = some bi' := by
  obtain ⟨hsizes, hsome⟩ := sizes_chipAddMode hbi .granted mw mh timing slotIdx
  refine ⟨hsizes.trans ?_, hsome⟩
  have hadds : addsEntry gs .granted mw mh = true ↔
      Proper (mw.toNat, mh.toNat) ∧ (mw.toNat, mh.toNat) ∉ gs.sizes :=
    (addsEntry_iff hbi .granted mw mh).trans (and_iff_left rfl)
  simp only [hadds, insertNew]

theorem sizes_addModes {gs : ModeState} {bi : BoardInfo} (hbi : gs.bi = some bi)
    (requests : List ModeRequest) :
    let added := addModes (fun _ => .granted) gs requests
    added.sizes = (requests.map fun r => (r.w.toNat, r.h.toNat)).foldl insertNew gs.sizes ∧
      ∃ bi', added.bi = some bi' := by
  induction requests generalizing gs bi with
  | nil => exact ⟨rfl, bi, hbi⟩
  | cons r rest ih =>
      obtain ⟨hsizes, bi', hbi'⟩ := sizes_chipAddMode_granted hbi r.w r.h r.timing r.slotIdx
      obtain ⟨hrest, hsome⟩ := ih hbi'
      refine ⟨hrest.trans ?_, hsome⟩
      rw [hsizes]
      rfl

/-! ## After `chip_register_modes` -/

/-- The sizes of the static table that are not zero. -/
def tableSizes : List (ℕ × ℕ) :=
  (chipModes.map fun mode => (mode.w.toNat, mode.h.toNat)).filter fun size => decide (Proper size)

/-- The timings of the EDID data, if there are any. -/
def timingSizes (hasEdid : Bool) (dtds : DtdList) : List (ℕ × ℕ) :=
  if hasEdid then dtds.val.map fun d => (d.1.toNat, d.2.toNat) else []

/-- The list has these sizes, each once, and no other. -/
def Lists (gs : ModeState) (wanted : List (ℕ × ℕ)) : Prop :=
  gs.sizes.Nodup ∧ ∀ size, size ∈ gs.sizes ↔ size ∈ wanted

variable (boardNum : UInt16) (hasEdid : Bool) (dtds : DtdList)

/-- The board after `chip_register_modes`, with enough memory. -/
abbrev listed : ModeState := registered boardNum hasEdid dtds fun _ => .granted

theorem tableSizes_eq : tableSizes =
    (640, 480) :: staticRequests.map fun r => (r.w.toNat, r.h.toNat) := by
  decide

theorem proper_staticRequests :
    ∀ size ∈ staticRequests.map fun r => (r.w.toNat, r.h.toNat), Proper size := by
  decide

/-- The table from entry 2 on, and the timings. -/
theorem sizes_listed :
    (listed boardNum hasEdid dtds).sizes.Nodup ∧
      (∀ size, size ∈ (listed boardNum hasEdid dtds).sizes ↔
        size ∈ staticRequests.map (fun r => (r.w.toNat, r.h.toNat)) ∨
          (Proper size ∧ size ∈ timingSizes hasEdid dtds)) ∧
      ∃ bi, (listed boardNum hasEdid dtds).bi = some bi := by
  let gs : ModeState :=
    { bi := some ⟨boardNum, []⟩, hasEdid := hasEdid, dtds := dtds, hotplugModeCount := 0 }
  -- the requests: the static ones, and those of the timings behind them
  have hrequests : (staticRequests ++ if hasEdid ∧ dtds.val.length > 0 then
        edidRequests dtds.val else []).map (fun r => (r.w.toNat, r.h.toNat)) =
      staticRequests.map (fun r => (r.w.toNat, r.h.toNat)) ++ timingSizes hasEdid dtds := by
    rw [List.map_append, timingSizes]
    cases hasEdid with
    | false => rfl
    | true =>
        have hindices : dtds.val.zipIdx.map Prod.fst = dtds.val := List.zipIdx_map_fst ..
        by_cases hsome : dtds.val.length > 0
        · rw [if_pos ⟨rfl, hsome⟩, if_pos rfl, edidRequests, List.map_map]
          conv_rhs => rw [← hindices, List.map_map]
          rfl
        · have hnil : dtds.val = [] := List.length_eq_zero_iff.mp (by omega)
          rw [if_neg fun h => hsome h.2, if_pos rfl, hnil]
          rfl
  have hbi : gs.bi = some ⟨boardNum, []⟩ := rfl
  have hlisted : (listed boardNum hasEdid dtds) = addModes (fun _ => .granted) gs
      (staticRequests ++ if gs.hasEdid ∧ gs.dtds.val.length > 0 then edidRequests gs.dtds.val
        else []) := by
    rw [← chipRegisterModes_eq hbi]
    rfl
  obtain ⟨hsizes, hsome⟩ := sizes_addModes hbi
    (staticRequests ++ if hasEdid ∧ dtds.val.length > 0 then edidRequests dtds.val else [])
  obtain ⟨hnodup, hmem⟩ := foldl_insertNew
    (staticRequests.map (fun r => (r.w.toNat, r.h.toNat)) ++ timingSizes hasEdid dtds) []
    List.nodup_nil
  rw [hlisted, hsizes, hrequests]
  refine ⟨hnodup, fun size => ?_, hsome⟩
  -- nothing was listed before, and a size that is not proper is refused
  have hinitial : gs.sizes = [] := rfl
  rw [hinitial, hmem, List.mem_append]
  constructor
  · rintro (hnil | ⟨hproper, hstatic | htiming⟩)
    · exact absurd hnil List.not_mem_nil
    · exact .inl hstatic
    · exact .inr ⟨hproper, htiming⟩
  · rintro (hstatic | ⟨hproper, htiming⟩)
    · exact .inr ⟨proper_staticRequests size hstatic, .inl hstatic⟩
    · exact .inr ⟨hproper, .inr htiming⟩

/-- The one entry of the table that is left out has to be among the timings. -/
theorem lists_registered_iff :
    Lists (listed boardNum hasEdid dtds) (tableSizes ++ timingSizes hasEdid dtds) ↔
      (640, 480) ∈ timingSizes hasEdid dtds ∧
        ∀ size ∈ timingSizes hasEdid dtds, Proper size := by
  obtain ⟨hnodup, hmem, -⟩ := sizes_listed boardNum hasEdid dtds
  simp only [Lists, hmem, tableSizes_eq, List.mem_append, List.mem_cons]
  constructor
  · rintro ⟨-, hall⟩
    constructor
    · have hfirst := (hall (640, 480)).mpr (.inl (.inl rfl))
      exact (hfirst.resolve_left (by decide)).2
    · intro size hsize
      rcases (hall size).mpr (.inr hsize) with hstatic | hproper
      · exact proper_staticRequests size hstatic
      · exact hproper.1
  · rintro ⟨hfirst, hproper⟩
    refine ⟨hnodup, fun size => ⟨?_, ?_⟩⟩
    · rintro (hstatic | ⟨-, htiming⟩)
      · exact .inl (.inr hstatic)
      · exact .inr htiming
    · rintro ((rfl | hstatic) | htiming)
      · exact .inr ⟨by decide, hfirst⟩
      · exact .inl hstatic
      · exact .inr ⟨hproper size htiming, htiming⟩

/-! ## Display changes -/

/-- The answer of `chip_GetDisplayInfo`, with enough memory. -/
def change (reported : Option (UInt32 × UInt32)) : DisplayChange := ⟨reported, .granted⟩

/-- The event adds the size that was reported, if it is new, and changes nothing else. -/
def AddsReported (s : ModeState) (e : DisplayChange) : Prop :=
  (chipHandleDisplayChange s e.alloc e.reported).sizes =
    match e.reported with
    | none => s.sizes
    | some (w, h) => insertNew s.sizes (w.toNat, h.toNat)

/-- A size without a zero is given in 16 bits. -/
def FitsWord (reported : Option (UInt32 × UInt32)) : Prop :=
  ∀ size ∈ reported, Proper (size.1.toNat, size.2.toNat) →
    size.1.toNat < 65536 ∧ size.2.toNat < 65536

theorem sizes_chipHandleDisplayChange {gs : ModeState} {bi : BoardInfo} (hbi : gs.bi = some bi)
    (w h : UInt32) :
    let after := chipHandleDisplayChange gs .granted (some (w, h))
    after.sizes = insertNew gs.sizes (w.toUInt16.toNat, h.toUInt16.toNat) ∧
      ∃ bi', after.bi = some bi' := by
  obtain ⟨hsizes, bi', hbi'⟩ := sizes_chipAddMode_granted hbi w.toUInt16 h.toUInt16 Timing.none
    (hotplugSlot gs.hotplugModeCount)
  simp only [chipHandleDisplayChange]
  -- the counter is not in the list
  split
  · exact ⟨hsizes, bi', hbi'⟩
  · exact ⟨hsizes, bi', hbi'⟩

theorem insertNew_of_not_proper {sizes : List (ℕ × ℕ)} {size : ℕ × ℕ} (h : ¬ Proper size) :
    insertNew sizes size = sizes :=
  if_neg fun hnew => h hnew.1

/-- One event: a size that is cut to 16 bits is not the one that was reported. -/
theorem addsReported_iff {s : ModeState} {bi : BoardInfo} (hbi : s.bi = some bi)
    (reported : Option (UInt32 × UInt32)) :
    AddsReported s (change reported) ↔ FitsWord reported := by
  cases reported with
  | none => exact ⟨fun _ _ h => absurd h (by simp), fun _ => rfl⟩
  | some size =>
      obtain ⟨w, h⟩ := size
      have hsizes := (sizes_chipHandleDisplayChange hbi w h).1
      have hcut : w.toUInt16.toNat = w.toNat % 65536 ∧ h.toUInt16.toNat = h.toNat % 65536 :=
        ⟨UInt32.toNat_toUInt16 w, UInt32.toNat_toUInt16 h⟩
      have hadds : AddsReported s (change (some (w, h))) ↔
          insertNew s.sizes (w.toNat % 65536, h.toNat % 65536) =
            insertNew s.sizes (w.toNat, h.toNat) := by
        rw [← hcut.1, ← hcut.2, ← hsizes]
        rfl
      have hfits : FitsWord (some (w, h)) ↔
          (Proper (w.toNat, h.toNat) → w.toNat < 65536 ∧ h.toNat < 65536) := by
        simp [FitsWord]
      rw [hadds, hfits]
      constructor
      · intro heq hproper
        have hmem : (w.toNat, h.toNat) ∈ insertNew s.sizes (w.toNat, h.toNat) :=
          mem_insertNew.mpr (.inr ⟨hproper, rfl⟩)
        rw [← heq, mem_insertNew, Prod.mk.injEq] at hmem
        rcases hmem with hold | ⟨-, hw, hh⟩
        · exact sizes_lt hold
        · omega
      · intro hsmall
        by_cases hproper : Proper (w.toNat, h.toNat)
        · obtain ⟨hw, hh⟩ := hsmall hproper
          rw [Nat.mod_eq_of_lt hw, Nat.mod_eq_of_lt hh]
        · -- a zero stays a zero
          have hcutZero : ¬ Proper (w.toNat % 65536, h.toNat % 65536) := by
            rintro ⟨hw, hh⟩
            dsimp only at hw hh
            exact hproper ⟨by dsimp only; omega, by dsimp only; omega⟩
          rw [insertNew_of_not_proper hproper, insertNew_of_not_proper hcutZero]

theorem changes_iff (events : List (Option (UInt32 × UInt32))) {s : ModeState} {bi : BoardInfo}
    (hbi : s.bi = some bi) :
    Within changeStep AddsReported s (events.map change) ↔
      ∀ reported ∈ events, FitsWord reported := by
  induction events generalizing s bi with
  | nil => exact ⟨fun _ _ h => absurd h List.not_mem_nil, fun _ => trivial⟩
  | cons reported rest ih =>
      obtain ⟨t, hstep⟩ : ∃ t, changeStep s (change reported) = some t := ⟨_, rfl⟩
      obtain ⟨bi', hbi'⟩ : ∃ bi', t.bi = some bi' := by
        obtain rfl := Option.some.inj hstep
        cases reported with
        | none => exact ⟨bi, hbi⟩
        | some size => exact (sizes_chipHandleDisplayChange hbi size.1 size.2).2
      rw [List.map_cons, List.forall_mem_cons, Within, addsReported_iff hbi]
      refine and_congr_right fun _ => ?_
      rw [← ih hbi']
      refine ⟨fun hall => hall t hstep, fun hrest u hu => ?_⟩
      obtain rfl := Option.some.inj (hstep.symm.trans hu)
      exact hrest

/-- The list has the sizes of the table and of the timings, and gets those that are reported later,
exactly when the timings have 640 x 480 among them and no zeros, and no proper size is reported in
more than 16 bits. -/
theorem mode_list_complete_iff (events : List (Option (UInt32 × UInt32))) :
    (Lists (listed boardNum hasEdid dtds) (tableSizes ++ timingSizes hasEdid dtds) ∧
        Within changeStep AddsReported (listed boardNum hasEdid dtds) (events.map change)) ↔
      ((640, 480) ∈ timingSizes hasEdid dtds ∧ ∀ size ∈ timingSizes hasEdid dtds, Proper size) ∧
        ∀ reported ∈ events, FitsWord reported := by
  obtain ⟨-, -, bi, hbi⟩ := sizes_listed boardNum hasEdid dtds
  rw [lists_registered_iff, changes_iff events hbi]

/-- Without EDID data the list has no 640 x 480, and when the host reports 66536 x 700 it gets
1000 x 700. -/
theorem vga_not_listed :
    let s := listed 0 false ⟨[], by decide⟩
    (640, 480) ∈ tableSizes ∧ (640, 480) ∉ s.sizes ∧
      (chipHandleDisplayChange s .granted (some (66536, 700))).sizes =
        s.sizes ++ [(1000, 700)] ∧
      ¬ (Lists s (tableSizes ++ timingSizes false ⟨[], by decide⟩) ∧
        Within changeStep AddsReported s []) := by
  refine ⟨by decide, by decide +kernel, by decide +kernel, fun h => ?_⟩
  have hlisted := (h.1.2 (640, 480)).mpr (by decide)
  exact absurd hlisted (by decide +kernel)

end VirtIOGPU.Display
