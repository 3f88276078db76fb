import VirtIOGPU.Board.Runs

/-!
# Frees commute and reclaim everything

A good table is in canonical form: with its block of memory given, it is determined by its used
slots (`TableInv.eq_of_used`).  A call of `board_free` takes one slot out of these, so the order
of several calls does not matter, and after the last one the table is empty again.

That the memory of a released block can be taken again does not follow from the used slots
alone, since the table has a bounded length; it is `HasRoomFor`, which `board_coalesce_at`
establishes.

## Strategy

Of two tables in canonical form that have the same used slots, the first slots agree: either
both are used and then equal, or both are free and reach up to the first used one, or to the top
(`TableInv.canonical`).  A call of `board_free` filters the used slots by an address
(`usedSlots_boardFree`), and filters commute.

```text
freeAll_perm       two orders of the same frees end in equal tables
freeAll_all        the table is empty once every used slot has been released
alloc_after_free   a request of at most the released size succeeds
frees_reclaim      all three, in every state that a run of calls reaches
```

The pointers are sums of 32 bits.  They tell the slots apart as long as board memory ends at
2^32 at the latest (`Addressed`), which is kept by every call since neither field is written.
-/

namespace VirtIOGPU

open Lib Lib.Tiling

/-! ## The table is determined by its used slots -/

theorem TableInv.canonical {s : BoardState} (inv : TableInv s) :
    Canonical (fun slot : BoardSlot => slot.offset.toNat) (fun slot => slot.size.toNat)
      BoardSlot.used 0 s.slots where
  tiles := ⟨_, inv.tiles⟩
  size_pos := inv.size_pos
  coalesced := inv.coalesced
  last_used := inv.last_used

theorem TableInv.eq_of_used {s t : BoardState} (hs : TableInv s) (ht : TableInv t)
    (hmem : s.boardMem = t.boardMem) (hsize : s.boardMemSize = t.boardMemSize)
    (hused : usedSlots s.slots = usedSlots t.slots) : s = t := by
  have hslots : s.slots = t.slots := by
    apply Canonical.unique ?_ hs.canonical ht.canonical hused
    rintro ⟨offset, size, used⟩ ⟨offset', size', used'⟩ hx hy hoffset hsizes
    dsimp only at hx hy hoffset hsizes
    rw [UInt32.toNat_inj.mp hoffset, UInt32.toNat_inj.mp hsizes, hx, hy]
  have htop : s.boardAllocOffset.toNat = t.boardAllocOffset.toNat := by
    apply hs.tiles.end_unique
    rw [hslots]
    exact ht.tiles
  cases s
  cases t
  dsimp only at hmem hsize hslots htop
  rw [hmem, hsize, hslots, UInt32.toNat_inj.mp htop]

/-! ## Several frees -/

theorem offset_eq_sub_iff {boardMem offset mem : UInt32} :
    offset = mem - boardMem ↔ boardMem + offset = mem := by
  constructor
  · rintro rfl
    rw [UInt32.add_comm, UInt32.sub_add_cancel]
  · rintro rfl
    rw [UInt32.add_comm, UInt32.add_sub_cancel]

/-- Board memory is an object of the 32-bit address space, and without it there are no slots. -/
structure Addressed (s : BoardState) : Prop where
  fits : s.boardMem.toNat + s.boardMemSize.toNat ≤ 2 ^ 32
  slots_nil : s.boardMem = 0 → s.slots = []

theorem Addressed.boardMem_ne {s : BoardState} (haddr : Addressed s) {slot : BoardSlot}
    (hslot : slot ∈ s.slots) : s.boardMem ≠ 0 := by
  intro hzero
  rw [haddr.slots_nil hzero] at hslot
  exact absurd hslot List.not_mem_nil

/-- The address of a place in board memory. -/
theorem Addressed.pointer_ne {s : BoardState} (haddr : Addressed s) (hboard : s.boardMem ≠ 0)
    {offset : UInt32} (hoffset : offset < s.boardMemSize) : s.boardMem + offset ≠ 0 := by
  have hfits := haddr.fits
  have hpos : s.boardMem.toNat ≠ 0 := fun hzero => hboard (UInt32.toNat_inj.mp hzero)
  rw [UInt32.lt_iff_toNat_lt] at hoffset
  intro hnull
  have hsum := congrArg UInt32.toNat hnull
  rw [UInt32.toNat_add, UInt32.toNat_zero] at hsum
  omega

theorem TableInv.offset_lt {s : BoardState} (inv : TableInv s) {slot : BoardSlot}
    (hslot : slot ∈ s.slots) : slot.offset < s.boardMemSize := by
  have hend := inv.slot_end_le hslot
  have hpos := inv.size_pos slot hslot
  have htop := inv.top_le
  rw [UInt32.lt_iff_toNat_lt]
  omega

theorem Addressed.boardFree {s : BoardState} (haddr : Addressed s) (mem : UInt32) :
    Addressed (VirtIOGPU.boardFree s mem).2 := by
  obtain ⟨hmem, hsize⟩ := boardFree_config s mem
  constructor
  · rw [hmem, hsize]
    exact haddr.fits
  · intro hzero
    rw [hmem] at hzero
    have hnull : VirtIOGPU.boardFree s mem = (false, s) := if_pos (Or.inl hzero)
    rw [hnull]
    exact haddr.slots_nil hzero

/-- A call takes the slot of its pointer out of the used ones, if there is one. -/
theorem usedSlots_boardFree {s : BoardState} (inv : TableInv s) (haddr : Addressed s)
    (mem : UInt32) : usedSlots (boardFree s mem).2.slots =
      (usedSlots s.slots).filter fun slot => s.boardMem + slot.offset ≠ mem := by
  rcases boardFree_cases s mem with ⟨heq, hnone⟩ | ⟨pre, post, slot, hslots, hused, hoffset, heq⟩
  · rw [heq]
    refine (List.filter_eq_self.mpr fun slot hslot => ?_).symm
    obtain ⟨hslot, hused⟩ := mem_usedSlots.mp hslot
    have hboard := haddr.boardMem_ne hslot
    rw [decide_eq_true_eq]
    rcases hnone with hzero | rfl | hnone
    · exact absurd hzero hboard
    · exact haddr.pointer_ne hboard (inv.offset_lt hslot)
    · exact fun hptr => hnone slot hslot hused (offset_eq_sub_iff.mpr hptr)
  · obtain ⟨-, hkept, -⟩ := inv.boardFree_spec hslots rfl
    have hother : ∀ other ∈ usedSlots (pre ++ post), s.boardMem + other.offset ≠ mem := by
      intro other hmem hptr
      apply inv.offset_ne hslots (mem_usedSlots.mp hmem).1
      rw [hoffset, offset_eq_sub_iff.mpr hptr]
    have hself : (slot :: usedSlots post).filter (fun slot => s.boardMem + slot.offset ≠ mem) =
        (usedSlots post).filter fun slot => s.boardMem + slot.offset ≠ mem :=
      List.filter_cons_of_neg (by simp [offset_eq_sub_iff.mp hoffset])
    rw [usedSlots_append] at hkept hother
    rw [heq, hkept, hslots, usedSlots_append, usedSlots_cons_used hused, List.filter_append,
      hself, ← List.filter_append]
    exact (List.filter_eq_self.mpr fun other hmem => decide_eq_true (hother other hmem)).symm

/-- `FreeCardMem` for each of the pointers. -/
def freeAll (s : BoardState) (order : List UInt32) : BoardState :=
  order.foldl (fun s mem => (chipFreeCardMem s mem).2) s

/-- After several calls exactly the blocks without a call are in use. -/
theorem freeAll_spec {s : BoardState} (inv : TableInv s) (haddr : Addressed s)
    (order : List UInt32) :
    TableInv (freeAll s order) ∧ (freeAll s order).boardMem = s.boardMem ∧
      (freeAll s order).boardMemSize = s.boardMemSize ∧
      usedSlots (freeAll s order).slots =
        (usedSlots s.slots).filter fun slot => s.boardMem + slot.offset ∉ order := by
  induction order generalizing s with
  | nil => exact ⟨inv, rfl, rfl, (List.filter_eq_self.mpr fun _ _ => by simp).symm⟩
  | cons mem rest ih =>
      obtain ⟨hmem, hsize⟩ := boardFree_config s mem
      obtain ⟨inv', hmem', hsize', hused⟩ := ih (inv.boardFree mem).1 (haddr.boardFree mem)
      refine ⟨inv', hmem'.trans hmem, hsize'.trans hsize, hused.trans ?_⟩
      rw [usedSlots_boardFree inv haddr, List.filter_filter, hmem]
      apply List.filter_congr
      intro slot _
      rw [Bool.eq_iff_iff]
      simp [and_comm]

theorem freeAll_perm {s : BoardState} (inv : TableInv s) (haddr : Addressed s)
    {order order' : List UInt32} (hperm : order.Perm order') :
    freeAll s order = freeAll s order' := by
  obtain ⟨inv₁, hmem₁, hsize₁, hused₁⟩ := freeAll_spec inv haddr order
  obtain ⟨inv₂, hmem₂, hsize₂, hused₂⟩ := freeAll_spec inv haddr order'
  apply inv₁.eq_of_used inv₂ (hmem₁.trans hmem₂.symm) (hsize₁.trans hsize₂.symm)
  rw [hused₁, hused₂]
  apply List.filter_congr
  intro slot _
  simp only [hperm.mem_iff]

theorem freeAll_all {s : BoardState} (inv : TableInv s) (haddr : Addressed s)
    {order : List UInt32}
    (hall : ∀ slot ∈ s.slots, slot.used = true → s.boardMem + slot.offset ∈ order) :
    freeAll s order = BoardState.initial s.boardMem s.boardMemSize := by
  obtain ⟨inv', hmem, hsize, hused⟩ := freeAll_spec inv haddr order
  apply inv'.eq_of_used (TableInv.initial s.boardMem s.boardMemSize) hmem hsize
  rw [hused]
  refine List.filter_eq_nil_iff.mpr fun slot hslot => ?_
  obtain ⟨hslot, hslot_used⟩ := mem_usedSlots.mp hslot
  simpa using hall slot hslot hslot_used

/-! ## Allocating again -/

theorem boardRound_le {s : BoardState} (inv : TableInv s) {slot : BoardSlot}
    (hslot : slot ∈ s.slots) {size : UInt32} (hsize : size ≤ slot.size) :
    (boardRound size).toNat ≤ slot.size.toNat := by
  have hlt := slot.size.toNat_lt
  have hpos := inv.size_pos slot hslot
  obtain ⟨k, hk⟩ := inv.size_dvd slot hslot
  rw [UInt32.le_iff_toNat_le] at hsize
  rw [boardRound_eq (by omega)]
  omega

/-- A request for which there is room is met. -/
theorem boardAlloc_ne_zero {t : BoardState} (inv : TableInv t) (haddr : Addressed t)
    (hboard : t.boardMem ≠ 0) {hole : BoardSlot} (hroom : HasRoomFor hole t)
    (hend : hole.offset.toNat + hole.size.toNat ≤ t.boardMemSize.toNat) {size : UInt32}
    (hsize : (boardRound size).toNat ≤ hole.size.toNat) : (boardAlloc t size).1 ≠ 0 := by
  have hmemSize := t.boardMemSize.toNat_lt
  have hround := boardRound_pos size
  unfold boardAlloc
  cases htake : takeHole (decide (t.slots.length < maxBoardAllocs)) (boardRound size) t.slots with
  | some taken =>
      obtain ⟨offset, slots'⟩ := taken
      obtain ⟨pre, post, slot, hslots, -, -, rfl, -⟩ := takeHole_eq_some htake
      have hslot : slot ∈ t.slots := by
        rw [hslots]
        simp
      simp only [htake]
      exact haddr.pointer_ne hboard (inv.offset_lt hslot)
  | none =>
      rcases hroom with ⟨slot, hslot, hfree, hlarge⟩ | ⟨hlength, htop⟩
      · -- the scan would have stopped at this slot
        rcases takeHole_eq_none htake slot hslot with hused | hsmall
        · rw [hfree] at hused
          exact absurd hused (by decide)
        · rw [UInt32.lt_iff_toNat_lt] at hsmall
          omega
      · have hsum : (t.boardAllocOffset + boardRound size).toNat =
            t.boardAllocOffset.toNat + (boardRound size).toNat := by
          rw [UInt32.toNat_add]
          omega
        have hfits : ¬ t.boardMemSize < t.boardAllocOffset + boardRound size := by
          rw [UInt32.lt_iff_toNat_lt, hsum]
          omega
        simp only [htake, hfits, if_false, Nat.not_le.mpr hlength]
        apply haddr.pointer_ne hboard
        rw [UInt32.lt_iff_toNat_lt]
        omega

theorem alloc_after_free {s : BoardState} (inv : TableInv s) (haddr : Addressed s)
    {slot : BoardSlot} (hslot : slot ∈ s.slots) (hused : slot.used = true) {size : UInt32}
    (hsize : size ≤ slot.size) :
    (chipAllocCardMem (chipFreeCardMem s (s.boardMem + slot.offset)).2 size).1 ≠ 0 := by
  have hboard := haddr.boardMem_ne hslot
  obtain ⟨hmem, hmemSize⟩ := boardFree_config s (s.boardMem + slot.offset)
  have haddr' := haddr.boardFree (s.boardMem + slot.offset)
  have hboard' : (boardFree s (s.boardMem + slot.offset)).2.boardMem ≠ 0 := by rwa [hmem]
  have hround := boardRound_le inv hslot hsize
  have hend := (inv.slot_end_le hslot).trans inv.top_le
  rw [chipAllocCardMem, chipFreeCardMem, if_neg hboard']
  rcases boardFree_cases s (s.boardMem + slot.offset) with ⟨-, hnone⟩ |
    ⟨pre, post, slot', hslots, -, hoffset, heq⟩
  · rcases hnone with hzero | hnull | hnone
    · exact absurd hzero hboard
    · exact absurd hnull (haddr.pointer_ne hboard (inv.offset_lt hslot))
    · exact absurd (offset_eq_sub_iff.mpr rfl) (hnone slot hslot hused)
  · have hsame : slot = slot' := by
      by_contra hne
      have hother : slot ∈ pre ++ post := by
        rw [hslots] at hslot
        rcases List.mem_append.mp hslot with hmem | hmem
        · exact List.mem_append_left _ hmem
        · exact List.mem_append_right _ ((List.mem_cons.mp hmem).resolve_left hne)
      apply inv.offset_ne hslots hother
      rw [hoffset]
      exact offset_eq_sub_iff.mpr rfl
    subst hsame
    obtain ⟨inv', -, hroom⟩ := inv.boardFree_spec hslots rfl
    rw [heq] at haddr' hboard' hmemSize ⊢
    exact boardAlloc_ne_zero inv' haddr' hboard' hroom (by rwa [hmemSize]) hround

/-! ## Every run -/

/-- In a state: the order of frees does not matter, all of them together leave the empty table,
and the memory of a released block can be taken again. -/
structure Reclaims (s : CardMem) : Prop where
  order : ∀ order order' : List UInt32, (∀ mem ∈ order, mem ∈ s.live.map Prod.fst) →
    order.Perm order' → freeAll s.board order = freeAll s.board order'
  all : ∀ order : List UInt32, (∀ mem, mem ∈ order ↔ mem ∈ s.live.map Prod.fst) →
    freeAll s.board order = BoardState.initial s.board.boardMem s.board.boardMemSize
  again : ∀ mem ∈ s.live.map Prod.fst, ∃ slot ∈ s.board.slots, slot.used = true ∧
    mem = s.board.boardMem + slot.offset ∧ ∀ size ≤ slot.size,
      (chipAllocCardMem (chipFreeCardMem s.board mem).2 size).1 ≠ 0

/-- Every slot in use is a block that was handed out and not given back. -/
structure Accounted (s : CardMem) : Prop where
  card : CardInv s
  slots_nil : s.board.boardMem = 0 → s.board.slots = []
  owned : ∀ slot ∈ s.board.slots, slot.used = true →
    s.board.boardMem + slot.offset ∈ s.live.map Prod.fst

theorem Accounted.addressed {s : CardMem} (h : Accounted s) : Addressed s.board :=
  ⟨h.card.fits, h.slots_nil⟩

theorem Accounted.reclaims {s : CardMem} (h : Accounted s) : Reclaims s where
  order _ _ _ hperm := freeAll_perm h.card.table h.addressed hperm
  all order hall := by
    apply freeAll_all h.card.table h.addressed
    intro slot hslot hused
    exact (hall _).mpr (h.owned slot hslot hused)
  again mem hmem := by
    obtain ⟨block, hblock, rfl⟩ := List.mem_map.mp hmem
    obtain ⟨slot, hslot, hused, hptr, -⟩ := h.card.live block hblock
    rw [hptr]
    exact ⟨slot, hslot, hused, rfl, fun size hsize =>
      alloc_after_free h.card.table h.addressed hslot hused hsize⟩

theorem Accounted.initial {boardMem boardMemSize : UInt32}
    (hmem : boardMem.toNat + boardMemSize.toNat ≤ 2 ^ 32) :
    Accounted (CardMem.initial boardMem boardMemSize) where
  card := ⟨hmem, TableInv.initial boardMem boardMemSize, fun _ h => absurd h List.not_mem_nil⟩
  slots_nil _ := rfl
  owned _ h := absurd h List.not_mem_nil

theorem Accounted.alloc {s : CardMem} (h : Accounted s) {size : UInt32}
    (hsize : NoWrap s.board size) {t : CardMem} (hstep : s.step (.alloc size) = some t) :
    Accounted t := by
  refine ⟨h.card.alloc hsize hstep, ?_, ?_⟩
  · obtain rfl := Option.some.inj hstep
    intro hzero
    unfold chipAllocCardMem at hzero ⊢
    split at hzero
    · next hboard =>
        rw [if_pos hboard]
        exact h.slots_nil hboard
    · next hboard => exact absurd ((boardAlloc_config s.board size).1.symm.trans hzero) hboard
  · obtain rfl := Option.some.inj hstep
    unfold chipAllocCardMem
    split
    · exact h.owned
    · next hboard =>
        obtain ⟨hmem, hmemSize⟩ := boardAlloc_config s.board size
        intro slot hslot hused
        -- either nothing is allocated, or one block is new and the others were there
        rcases boardAlloc_block s.board size with heq |
          ⟨pre, post, block, hslots, hblock_used, hptr, -, haround⟩
        · rw [heq] at hslot ⊢
          exact h.owned slot hslot hused
        · have hblock : block ∈ (boardAlloc s.board size).2.slots := by
            rw [hslots]
            simp
          have hoffset := (h.card.table.boardAlloc hsize).offset_lt hblock
          rw [hmemSize] at hoffset
          have hne : (boardAlloc s.board size).1 ≠ 0 := by
            rw [hptr]
            exact h.addressed.pointer_ne hboard hoffset
          rw [if_neg hne, List.map_append]
          dsimp only at hslot ⊢
          rw [hmem]
          by_cases hnew : slot = block
          · rw [hnew, ← hptr]
            exact List.mem_append_right _ (List.mem_singleton.mpr rfl)
          · have hold : slot ∈ usedSlots s.board.slots := by
              rw [← haround]
              refine mem_usedSlots.mpr ⟨?_, hused⟩
              rw [hslots] at hslot
              rcases List.mem_append.mp hslot with hpre | hpost
              · exact List.mem_append_left _ hpre
              · exact List.mem_append_right _ ((List.mem_cons.mp hpost).resolve_left hnew)
            obtain ⟨hold, -⟩ := mem_usedSlots.mp hold
            exact List.mem_append_left _ (h.owned slot hold hused)

theorem Accounted.free {s : CardMem} (h : Accounted s) {mem : UInt32} {t : CardMem}
    (hstep : s.step (.free mem) = some t) : Accounted t := by
  refine ⟨h.card.free hstep, ?_, ?_⟩
  · obtain rfl := Option.some.inj hstep
    exact (h.addressed.boardFree mem).slots_nil
  · obtain rfl := Option.some.inj hstep
    intro slot hslot hused
    have hmem := (boardFree_config s.board mem).1
    have hkept := mem_usedSlots.mpr ⟨hslot, hused⟩
    rw [chipFreeCardMem, usedSlots_boardFree h.card.table h.addressed] at hkept
    obtain ⟨hbefore, hptr⟩ := List.mem_filter.mp hkept
    obtain ⟨hslot', hused'⟩ := mem_usedSlots.mp hbefore
    obtain ⟨block, hblock, heq⟩ := List.mem_map.mp (h.owned slot hslot' hused')
    dsimp only
    rw [chipFreeCardMem, hmem]
    refine List.mem_map.mpr ⟨block, ?_, heq⟩
    split
    · refine List.mem_filter.mpr ⟨hblock, ?_⟩
      rwa [heq]
    · exact hblock

/-- In every run whose requests do not wrap, every state is as it should be. -/
theorem frees_reclaim (boardMem boardMemSize : UInt32)
    (hmem : boardMem.toNat + boardMemSize.toNat ≤ 2 ^ 32) (actions : List BoardAction)
    (hwithin : Machine.Within CardMem.step (AtAlloc fun s => NoWrap s.board)
      (CardMem.initial boardMem boardMemSize) actions) :
    Machine.Always CardMem.step Reclaims (CardMem.initial boardMem boardMemSize) actions := by
  apply Machine.always_of_within (fun s (h : Accounted s) => h.reclaims) ?_
    (Accounted.initial hmem) hwithin
  intro s action t h hpermitted hstep
  cases action with
  | alloc size => exact h.alloc hpermitted hstep
  | free mem => exact h.free hstep

/-- Three blocks in 128 MiB. -/
theorem frees_reclaim_three :
    Machine.Always CardMem.step Reclaims (CardMem.initial 0x10000000 0x08000000)
      [.alloc 64, .alloc 60, .free 0x10000000] := by
  apply frees_reclaim _ _ (by decide)
  refine ⟨⟨by decide, fun _ => by decide⟩, fun s hstep => ?_⟩
  obtain rfl := Option.some.inj hstep
  refine ⟨⟨by decide, fun _ => by decide⟩, fun s hstep => ?_⟩
  exact ⟨trivial, fun _ _ => trivial⟩

/-- In 3 GiB the end of a second block of 2 GiB wraps to 0, and a third one overlaps both.  When
the first two are released, the sizes of their slots add up to 0, and a request of 16 bytes is
refused. -/
theorem frees_reclaim_wraps :
    let s := CardMem.initial 0x10000000 0xC0000000
    let actions : List BoardAction :=
      [.alloc 0x80000000, .alloc 0x80000000, .alloc 0xC0000000, .free 0x10000000]
    (∀ action ∈ actions, action.FitsIn 0xC0000000) ∧
      ¬ Machine.Always CardMem.step Reclaims s actions := by
  refine ⟨by decide, fun halways => ?_⟩
  obtain ⟨t, hrun, hlive, hmem, hslots⟩ : ∃ t,
      Machine.run CardMem.step (CardMem.initial 0x10000000 0xC0000000)
        [.alloc 0x80000000, .alloc 0x80000000, .alloc 0xC0000000, .free 0x10000000] = some t ∧
      0x90000000 ∈ t.live.map Prod.fst ∧
      (∀ slot ∈ t.board.slots, slot.used = true → 0x90000000 = t.board.boardMem + slot.offset →
        16 ≤ slot.size) ∧
      (chipAllocCardMem (chipFreeCardMem t.board 0x90000000).2 16).1 = 0 := by
    refine ⟨_, rfl, ?_, ?_, ?_⟩ <;> decide +kernel
  obtain ⟨slot, hslot, hused, hptr, hagain⟩ :=
    (Machine.always_last halways hrun).again 0x90000000 hlive
  exact hagain 16 (hmem slot hslot hused hptr) hslots

end VirtIOGPU
