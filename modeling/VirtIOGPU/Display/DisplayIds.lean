import VirtIOGPU.Display.ModeList

/-!
# When DisplayIDs are distinct

The slots of `chip_register_modes` ascend and stay below `0xC0`; those of the display-change events
are `0xC0 + (hotplug_mode_count & 0x3F)`.  So two entries can only share a DisplayID when both were
added by events, and whether they do depends on how far the counter went in between.

The counter goes on at every event that `chip_add_mode` answers `TRUE`, not only at those that add
an entry:

```text
size                          memory       answer   entry
a zero in it, or no report    -            FALSE    no
in the list                   -            TRUE     no
not in the list               for one      TRUE     yes
not in the list               for none     FALSE    no
```

Which of the four an event is follows from the sizes that were registered and from the events
before it, without a look at the counter (`DisplayChange.isNew`, `DisplayChange.answered`).  The
condition is stated in these terms: from one event that adds an entry to a later one, the number of
events that are answered `TRUE` is no multiple of 64 (`Spaced`).  That the counter counts them, and
that the DisplayIDs are those of the counts, is proved for one event (`DisplayChange.step_spec`)
and by induction for all (`displayIds_run`).
-/

namespace VirtIOGPU.Display

open Lib.Machine

/-! ## What the events say -/

/-- The size that is reported, cut to 16 bits, where there is one without a zero. -/
def DisplayChange.size (e : DisplayChange) : Option (ℕ × ℕ) :=
  (e.reported.map fun size => (size.1.toNat % 65536, size.2.toNat % 65536)).filter
    fun size => decide (Proper size)

/-- The event adds an entry to a list with these sizes. -/
def DisplayChange.isNew (e : DisplayChange) (known : List (ℕ × ℕ)) : Bool :=
  e.size.any fun size => !known.contains size && e.alloc.suffices

/-- It is answered `TRUE`. -/
def DisplayChange.answered (e : DisplayChange) (known : List (ℕ × ℕ)) : Bool :=
  e.size.any fun size => known.contains size || e.alloc.suffices

/-- The sizes after it. -/
def DisplayChange.listed (e : DisplayChange) (known : List (ℕ × ℕ)) : List (ℕ × ℕ) :=
  if e.isNew known then known ++ e.size.toList else known

/-- For each event that adds an entry, how many events before it were answered `TRUE`, with `n` of
them to begin with. -/
def answersBefore (known : List (ℕ × ℕ)) (n : ℕ) : List DisplayChange → List ℕ
  | [] => []
  | e :: rest =>
      (if e.isNew known then [n] else []) ++
        answersBefore (e.listed known) (if e.answered known then n + 1 else n) rest

/-- From an event that adds an entry to a later one, the number of events that are answered `TRUE`
is no multiple of 64. -/
def Spaced (known : List (ℕ × ℕ)) (events : List DisplayChange) : Prop :=
  (answersBefore known 0 events).Pairwise fun a b => ¬ 64 ∣ b - a

instance (known : List (ℕ × ℕ)) (events : List DisplayChange) : Decidable (Spaced known events) :=
  inferInstanceAs (Decidable (List.Pairwise ..))

/-! ## One event -/

section

variable {gs : ModeState} {bi : BoardInfo} {e : DisplayChange}

theorem answersTrue_iff (hbi : gs.bi = some bi) (alloc : Allocation) (mw mh : UInt16) :
    answersTrue gs alloc mw mh = true ↔ Proper (mw.toNat, mh.toNat) ∧
      ((mw.toNat, mh.toNat) ∈ gs.sizes ∨ alloc.suffices = true) := by
  rw [proper_iff, ← chipResolutionExists_iff hbi]
  simp [answersTrue, hbi]

/-- A report with the size that is passed on. -/
theorem DisplayChange.size_some {w h : UInt32} (hreported : e.reported = some (w, h)) :
    e.size = if Proper (w.toUInt16.toNat, h.toUInt16.toNat) then
      some (w.toUInt16.toNat, h.toUInt16.toNat) else none := by
  have hcut : w.toUInt16.toNat = w.toNat % 65536 ∧ h.toUInt16.toNat = h.toNat % 65536 :=
    ⟨UInt32.toNat_toUInt16 w, UInt32.toNat_toUInt16 h⟩
  rw [hcut.1, hcut.2, DisplayChange.size, hreported, Option.map_some, Option.filter_some]
  simp only [decide_eq_true_eq]

/-- What one event does to the list, to the counter and to the DisplayIDs. -/
theorem DisplayChange.step_spec (e : DisplayChange) (hbi : gs.bi = some bi) :
    let t := chipHandleDisplayChange gs e.alloc e.reported
    (∃ bi', t.bi = some bi') ∧ t.sizes = e.listed gs.sizes ∧
      (t.hotplugModeCount =
        if e.answered gs.sizes then gs.hotplugModeCount + 1 else gs.hotplugModeCount) ∧
      t.displayIds = gs.displayIds ++
        if e.isNew gs.sizes then [displayIdOf (hotplugSlot gs.hotplugModeCount)] else [] := by
  cases hreported : e.reported with
  | none =>
      have hsize : e.size = none := by rw [DisplayChange.size, hreported]; rfl
      have hnew : e.isNew gs.sizes = false := by rw [DisplayChange.isNew, hsize]; rfl
      have hanswered : e.answered gs.sizes = false := by rw [DisplayChange.answered, hsize]; rfl
      rw [DisplayChange.listed, hnew, hanswered]
      exact ⟨⟨bi, hbi⟩, rfl, rfl, (List.append_nil _).symm⟩
  | some reported =>
      obtain ⟨w, h⟩ := reported
      have hsize := DisplayChange.size_some hreported
      have hnew : e.isNew gs.sizes = addsEntry gs e.alloc w.toUInt16 h.toUInt16 := by
        rw [Bool.eq_iff_iff, addsEntry_iff hbi, DisplayChange.isNew, hsize]
        split <;> simp_all
      have hanswered : e.answered gs.sizes = answersTrue gs e.alloc w.toUInt16 h.toUInt16 := by
        rw [Bool.eq_iff_iff, answersTrue_iff hbi, DisplayChange.answered, hsize]
        split <;> simp_all
      obtain ⟨hsizes, hsome⟩ := sizes_chipAddMode hbi e.alloc w.toUInt16 h.toUInt16 Timing.none
        (hotplugSlot gs.hotplugModeCount)
      have hids := displayIds_chipAddMode gs e.alloc w.toUInt16 h.toUInt16 Timing.none
        (hotplugSlot gs.hotplugModeCount)
      obtain ⟨hanswer, hafter⟩ := chipAddMode_spec hbi e.alloc w.toUInt16 h.toUInt16 Timing.none
        (hotplugSlot gs.hotplugModeCount)
      -- neither an entry nor its place changes the counter
      have hcount : (chipAddMode gs e.alloc w.toUInt16 h.toUInt16 Timing.none
          (hotplugSlot gs.hotplugModeCount)).2.hotplugModeCount = gs.hotplugModeCount := by
        rw [hafter]
        split <;> rfl
      have hlisted : e.listed gs.sizes =
          if addsEntry gs e.alloc w.toUInt16 h.toUInt16 then
            gs.sizes ++ [(w.toUInt16.toNat, h.toUInt16.toNat)] else gs.sizes := by
        rw [DisplayChange.listed, hnew]
        by_cases hadds : addsEntry gs e.alloc w.toUInt16 h.toUInt16 = true
        · rw [if_pos hadds, if_pos hadds, hsize,
            if_pos ((addsEntry_iff hbi ..).mp hadds).1.1]
          rfl
        · rw [if_neg hadds, if_neg hadds]
      rw [hlisted, hnew, hanswered, ← hids, ← hsizes]
      simp only [chipHandleDisplayChange, hanswer]
      cases answersTrue gs e.alloc w.toUInt16 h.toUInt16 with
      | true => exact ⟨hsome, rfl, congrArg (· + 1) hcount, rfl⟩
      | false => exact ⟨hsome, rfl, hcount, rfl⟩

end

/-! ## All events -/

/-- The slot that an event gets after `n` answers. -/
def slotAfter (n : ℕ) : UInt32 := hotplugSlot (UInt32.ofNat n)

theorem slotAfter_toNat (n : ℕ) : (slotAfter n).toNat = 192 + n % 64 := by
  rw [slotAfter, hotplugSlot_toNat, UInt32.toNat_ofNat']
  omega

/-- A run adds the DisplayIDs of the answers that were counted. -/
theorem displayIds_run {gs t : ModeState} {bi : BoardInfo} (hbi : gs.bi = some bi) {n : ℕ}
    (hcount : gs.hotplugModeCount = UInt32.ofNat n) {events : List DisplayChange}
    (hrun : run changeStep gs events = some t) :
    t.displayIds = gs.displayIds ++
      (answersBefore gs.sizes n events).map fun k => displayIdOf (slotAfter k) := by
  induction events generalizing gs bi n with
  | nil =>
      obtain rfl : gs = t := by simpa using hrun
      exact (List.append_nil _).symm
  | cons e rest ih =>
      obtain ⟨u, hstep, hrest⟩ := run_cons_eq_some.mp hrun
      obtain rfl := Option.some.inj hstep
      obtain ⟨⟨bi', hbi'⟩, hsizes, hnext, hids⟩ := e.step_spec hbi
      have hnext' : (chipHandleDisplayChange gs e.alloc e.reported).hotplugModeCount =
          UInt32.ofNat (if e.answered gs.sizes then n + 1 else n) := by
        rw [hnext, hcount]
        split
        · exact (UInt32.ofNat_add n 1).symm
        · rfl
      rw [ih hbi' hnext' hrest, hids, hsizes, hcount, List.append_assoc, answersBefore,
        List.map_append]
      congr 2
      split <;> rfl

/-- The counts ascend. -/
theorem answersBefore_sorted (known : List (ℕ × ℕ)) (n : ℕ) (events : List DisplayChange) :
    (∀ k ∈ answersBefore known n events, n ≤ k) ∧
      (answersBefore known n events).Pairwise (· ≤ ·) := by
  induction events generalizing known n with
  | nil => exact ⟨fun k hk => absurd hk List.not_mem_nil, List.Pairwise.nil⟩
  | cons e rest ih =>
      obtain ⟨hge, hsorted⟩ := ih (e.listed known) (if e.answered known then n + 1 else n)
      have hge' : ∀ k ∈ answersBefore (e.listed known) (if e.answered known then n + 1 else n) rest,
          n ≤ k := by
        intro k hk
        refine Nat.le_trans ?_ (hge k hk)
        split <;> omega
      unfold answersBefore
      by_cases hnew : e.isNew known = true
      · rw [if_pos hnew, List.singleton_append]
        exact ⟨List.forall_mem_cons.mpr ⟨Nat.le_refl n, hge'⟩,
          List.pairwise_cons.mpr ⟨hge', hsorted⟩⟩
      · rw [if_neg hnew, List.nil_append]
        exact ⟨hge', hsorted⟩

/-- Different slots for all events that add an entry. -/
theorem spaced_iff (known : List (ℕ × ℕ)) (events : List DisplayChange) :
    Spaced known events ↔ ((answersBefore known 0 events).map slotAfter).Nodup := by
  have hsorted := (answersBefore_sorted known 0 events).2
  have hpair {a b : ℕ} (hab : a ≤ b) : ¬ 64 ∣ b - a ↔ slotAfter a ≠ slotAfter b := by
    rw [Ne, ← UInt32.toNat_inj, slotAfter_toNat, slotAfter_toNat]
    omega
  rw [Spaced, List.Nodup, List.pairwise_map]
  constructor
  · exact fun h => (hsorted.and h).imp fun ⟨hab, hnot⟩ => (hpair hab).mp hnot
  · exact fun h => (hsorted.and h).imp fun ⟨hab, hne⟩ => (hpair hab).mpr hne

/-- The early slots and those of the events do not meet. -/
theorem distinct_iff {early : List UInt32} (hnodup : early.Nodup)
    (hlow : ∀ slot ∈ early, slot.toNat < 192) (counts : List ℕ) :
    ((early ++ counts.map slotAfter).map displayIdOf).Nodup ↔ (counts.map slotAfter).Nodup := by
  have hslots : ∀ slot ∈ early ++ counts.map slotAfter, slot.toNat < 256 := by
    intro slot hslot
    rcases List.mem_append.mp hslot with hearly | hlate
    · exact Nat.lt_trans (hlow slot hearly) (by decide)
    · obtain ⟨n, -, rfl⟩ := List.mem_map.mp hlate
      rw [slotAfter_toNat]
      omega
  have hdisjoint : early.Disjoint (counts.map slotAfter) := by
    intro slot hearly hlate
    obtain ⟨n, -, rfl⟩ := List.mem_map.mp hlate
    have hn := hlow _ hearly
    rw [slotAfter_toNat] at hn
    omega
  rw [nodup_displayIds_iff hslots, List.nodup_append']
  exact ⟨fun h => h.2.1, fun h => ⟨hnodup, h, hdisjoint⟩⟩

/-- The board after `chip_register_modes` has its list, and the counter is at 0. -/
theorem registered_spec (boardNum : UInt16) (hasEdid : Bool) (dtds : DtdList)
    (alloc : UInt32 → Allocation) :
    (∃ bi, (registered boardNum hasEdid dtds alloc).bi = some bi) ∧
      (registered boardNum hasEdid dtds alloc).hotplugModeCount = 0 := by
  have hmodes (requests : List ModeRequest) {gs : ModeState}
      (hgs : (∃ bi, gs.bi = some bi) ∧ gs.hotplugModeCount = 0) :
      (∃ bi, (addModes alloc gs requests).bi = some bi) ∧
        (addModes alloc gs requests).hotplugModeCount = 0 := by
    induction requests generalizing gs with
    | nil => exact hgs
    | cons r rest ih =>
        obtain ⟨⟨bi, hbi⟩, hcount⟩ := hgs
        refine ih ⟨(sizes_chipAddMode hbi _ _ _ _ _).2, ?_⟩
        change (chipAddMode gs (alloc r.slotIdx) r.w r.h r.timing r.slotIdx).2.hotplugModeCount = 0
        rw [(chipAddMode_spec hbi _ _ _ _ _).2]
        split
        · exact hcount
        · exact hcount
  rw [registered, chipRegisterModes_eq rfl]
  exact hmodes _ ⟨⟨_, rfl⟩, rfl⟩

/-- Every event is handled, and an entry that is there stays. -/
theorem changeStep_run (gs : ModeState) (events : List DisplayChange) :
    ∃ t, run changeStep gs events = some t := by
  induction events generalizing gs with
  | nil => exact ⟨gs, rfl⟩
  | cons e rest ih =>
      obtain ⟨t, ht⟩ := ih (chipHandleDisplayChange gs e.alloc e.reported)
      exact ⟨t, run_cons_eq_some.mpr ⟨_, rfl, ht⟩⟩

theorem distinctIds_back (gs : ModeState) (e : DisplayChange) (t : ModeState)
    (hstep : changeStep gs e = some t) (h : DistinctIds t) : DistinctIds gs := by
  obtain rfl := Option.some.inj hstep
  unfold DistinctIds at h ⊢
  cases hbi : gs.bi with
  | none =>
      rw [ModeState.displayIds, hbi]
      exact List.nodup_nil
  | some bi =>
      rw [(e.step_spec hbi).2.2.2] at h
      exact h.of_append_left

/-- The DisplayIDs are distinct all along a run exactly if, from one event that adds an entry to a
later one, the number of events that are answered `TRUE` is no multiple of 64. -/
theorem display_ids_unique (boardNum : UInt16) (hasEdid : Bool) (dtds : DtdList)
    (alloc : UInt32 → Allocation) (events : List DisplayChange) :
    Spaced (registered boardNum hasEdid dtds alloc).sizes events ↔
      Always changeStep DistinctIds (registered boardNum hasEdid dtds alloc) events := by
  obtain ⟨⟨bi, hbi⟩, hcount⟩ := registered_spec boardNum hasEdid dtds alloc
  obtain ⟨early, hnodup, hlow, hids⟩ := displayIds_registered boardNum hasEdid dtds alloc
  obtain ⟨t, hrun⟩ := changeStep_run (registered boardNum hasEdid dtds alloc) events
  have hlast : DistinctIds t ↔ Spaced (registered boardNum hasEdid dtds alloc).sizes events := by
    have hall := displayIds_run (n := 0) hbi hcount hrun
    rw [hids, ← Function.comp_def, ← List.map_map, ← List.map_append] at hall
    rw [DistinctIds, hall, distinct_iff hnodup hlow, spaced_iff]
  constructor
  · exact fun hspaced => always_of_last distinctIds_back hrun (hlast.mpr hspaced)
  · exact fun halways => hlast.mp (always_last halways hrun)

/-- An event that reports a size, with all the memory that is asked for. -/
def reports (w h : UInt32) : DisplayChange := ⟨some (w, h), .granted⟩

/-- A new size, the same one 63 times over, and another new one. -/
def resizing : List DisplayChange :=
  reports 1000 700 :: List.replicate 63 (reports 1000 700) ++ [reports 1001 700]

/-- The counter has gone round, and the two sizes share a DisplayID. -/
theorem display_ids_shared :
    ¬ Always changeStep DistinctIds
      (registered 0 false ⟨[], by decide⟩ fun _ => .granted) resizing := by
  decide +kernel

end VirtIOGPU.Display
