import Mathlib.Data.Nat.Find
import VirtIOGPU.Board.Reclaim

/-!
# First fit

What `board_alloc` is for is stated over the blocks in use alone: a request takes the lowest gap
between them that holds it, and what is above the last one otherwise.  In a good table the free
slots are exactly these gaps, so that the scan of the table finds the lowest one (`FirstFit`).

A call touches no other block than the one it takes or releases (`Undisturbing`).

## Strategy

`BoardGap` and `LowestGap` speak of the blocks in use and the top alone.  `TableInv.gap_iff`
translates: in a good table the free slots are the gaps, one by one.  From there on the three
cases of `FirstFit` are the three ways out of the scan.

```text
gaps of the blocks in use         the scan                        result
a lowest one that holds it        stops at its slot               the front of the gap, or all of
                                                                  it when the table is full
none, but memory above the top    finds nothing, appends          the top
none, and no memory above it      finds nothing, fails            NULL
```

`table_of_run` provides the good table as long as no request of the run wraps (`NoWrap`).  Both
results are wrong without that: `alloc_beyond_top` and `null_after_wrap`.
-/

namespace VirtIOGPU

open Lib Lib.Tiling

/-! ## The scan -/

/-- The scan passes over the slots in front and takes this one. -/
theorem takeHole_append (room : Bool) {size : UInt32} {pre : List BoardSlot}
    (hpre : ∀ slot ∈ pre, slot.used = true ∨ slot.size < size) {hole : BoardSlot}
    (hfree : hole.used = false) (hsize : size ≤ hole.size) (post : List BoardSlot) :
    ∃ rest, takeHole room size (pre ++ hole :: post) = some (hole.offset, pre ++
        { hole with used := true, size := if room then size else hole.size } :: rest) ∧
      usedSlots rest = usedSlots post := by
  induction pre with
  | nil =>
      have hfits : ¬ (hole.used || hole.size < size) = true := by
        rw [hfree, Bool.false_or, decide_eq_true_eq]
        exact UInt32.not_lt.mpr hsize
      rw [List.nil_append, takeHole, if_neg hfits]
      split
      · next heq => exact ⟨post, by simp [heq], rfl⟩
      · split
        · exact ⟨{ hole with offset := hole.offset + size, size := hole.size - size } :: post, rfl,
            usedSlots_cons_free (by exact hfree) post⟩
        · exact ⟨post, rfl, rfl⟩
  | cons slot pre ih =>
      obtain ⟨rest, htake, hrest⟩ := ih fun other hother =>
        hpre other (List.mem_cons_of_mem _ hother)
      have hskip : (slot.used || slot.size < size) = true := by
        simpa using hpre slot (List.mem_cons_self ..)
      refine ⟨rest, ?_, hrest⟩
      rw [List.cons_append, takeHole, if_pos hskip, htake]
      rfl

theorem takeHole_none {room : Bool} {size : UInt32} {slots : List BoardSlot}
    (h : ∀ slot ∈ slots, slot.used = true ∨ slot.size < size) :
    takeHole room size slots = none := by
  induction slots with
  | nil => rfl
  | cons slot rest ih =>
      have hskip : (slot.used || slot.size < size) = true := by
        simpa using h slot (List.mem_cons_self ..)
      rw [takeHole, if_pos hskip, ih fun other hother => h other (List.mem_cons_of_mem _ hother)]
      rfl

/-! ## The lowest gap -/

/-- `[a, b)` is a gap between the blocks in use. -/
abbrev BoardGap (s : BoardState) (a b : ℕ) : Prop :=
  Gap (fun slot : BoardSlot => slot.offset.toNat) (fun slot => slot.size.toNat) 0
    (usedSlots s.slots) a b

/-- The lowest gap that holds `n` bytes. -/
structure LowestGap (s : BoardState) (n a b : ℕ) : Prop where
  gap : BoardGap s a b
  holds : n ≤ b - a
  lowest : ∀ a' b', BoardGap s a' b' → n ≤ b' - a' → a ≤ a'

/-- The size rounded up to a positive multiple of 16. -/
def rounded (size : UInt32) : ℕ := max 16 ((size.toNat + 15) / 16 * 16)

/-- What a request of `size` bytes must get.  The pointer is the sum of two numbers, so `NULL` comes
out in the third case only. -/
structure FirstFit (s : BoardState) (size : UInt32) : Prop where
  /-- There is a gap: its front, or all of it when the table is full. -/
  gap : ∀ a b, LowestGap s (rounded size) a b →
    (boardAlloc s size).1.toNat = s.boardMem.toNat + a ∧ ∃ block : BoardSlot,
      block.used = true ∧ block.offset.toNat = a ∧
        block.size.toNat = (if s.slots.length < maxBoardAllocs then rounded size else b - a) ∧
        (usedSlots (boardAlloc s size).2.slots).Perm (block :: usedSlots s.slots)
  /-- There is none, but the memory above the last block will do. -/
  top : (∀ a b, ¬ LowestGap s (rounded size) a b) →
    s.boardAllocOffset.toNat + rounded size ≤ s.boardMemSize.toNat →
    s.slots.length < maxBoardAllocs →
    (boardAlloc s size).1.toNat = s.boardMem.toNat + s.boardAllocOffset.toNat ∧
      ∃ block : BoardSlot, block.used = true ∧ block.offset = s.boardAllocOffset ∧
        block.size.toNat = rounded size ∧
        usedSlots (boardAlloc s size).2.slots = usedSlots s.slots ++ [block]
  null : (∀ a b, ¬ LowestGap s (rounded size) a b) →
    ¬ (s.boardAllocOffset.toNat + rounded size ≤ s.boardMemSize.toNat ∧
      s.slots.length < maxBoardAllocs) →
    boardAlloc s size = (0, s)

section Table

variable {s : BoardState}

/-- Free slots are gaps. -/
theorem TableInv.gap_iff (inv : TableInv s) {a b : ℕ} :
    BoardGap s a b ↔ ∃ slot ∈ s.slots, slot.used = false ∧ slot.offset.toNat = a ∧
      slot.offset.toNat + slot.size.toNat = b :=
  inv.canonical.free_iff_gap.symm

/-- The slots in front of the lowest gap are skipped. -/
theorem LowestGap.split {n a b : ℕ} (inv : TableInv s) (h : LowestGap s n a b) :
    ∃ pre hole post, s.slots = pre ++ hole :: post ∧ hole.used = false ∧
      hole.offset.toNat = a ∧ hole.size.toNat = b - a ∧
      ∀ slot ∈ pre, slot.used = true ∨ slot.size.toNat < n := by
  obtain ⟨hole, hmem, hfree, hstart, hend⟩ := inv.gap_iff.mp h.gap
  obtain ⟨pre, post, hslots⟩ := List.append_of_mem hmem
  refine ⟨pre, hole, post, hslots, hfree, hstart, by omega, fun slot hslot => ?_⟩
  by_contra hskipped
  simp only [not_or, Bool.not_eq_true, Nat.not_lt] at hskipped
  obtain ⟨hslot_free, hlarge⟩ := hskipped
  have hslot_mem : slot ∈ s.slots := by
    rw [hslots]
    exact List.mem_append_left _ hslot
  -- it would be a lower gap
  have hle := h.lowest _ _ (inv.gap_iff.mpr ⟨slot, hslot_mem, hslot_free, rfl, rfl⟩) (by omega)
  have hpos := inv.size_pos slot hslot_mem
  have htiles := inv.tiles
  rw [hslots] at htiles
  have hbefore := (List.pairwise_append.mp htiles.pairwise).2.2 slot hslot hole
    (List.mem_cons_self ..)
  omega

/-- Without a gap that holds the request no slot does. -/
theorem TableInv.noHole (inv : TableInv s) {size : UInt32}
    (hround : (boardRound size).toNat = rounded size)
    (hnone : ∀ a b, ¬ LowestGap s (rounded size) a b) : NoHole s size := by
  by_contra hsome
  simp only [NoHole, not_forall] at hsome
  obtain ⟨slot, hslot, hfits⟩ := hsome
  rw [not_or, Bool.not_eq_true, UInt32.not_lt, UInt32.le_iff_toNat_le, hround] at hfits
  -- of the gaps that hold it one is the lowest
  let holds : ℕ → Prop := fun a => ∃ b, BoardGap s a b ∧ rounded size ≤ b - a
  have hexists : ∃ a, holds a :=
    ⟨_, _, inv.gap_iff.mpr ⟨slot, hslot, hfits.1, rfl, rfl⟩, by omega⟩
  classical
  obtain ⟨b, hgap, hholds⟩ := Nat.find_spec hexists
  exact hnone _ b ⟨hgap, hholds, fun a' b' hgap' hholds' =>
    Nat.find_min' hexists ⟨b', hgap', hholds'⟩⟩

/-- The address of a place in board memory, as a number. -/
theorem Addressed.toNat_pointer (haddr : Addressed s) {offset : UInt32}
    (hoffset : offset.toNat < s.boardMemSize.toNat) :
    (s.boardMem + offset).toNat = s.boardMem.toNat + offset.toNat := by
  have hfits := haddr.fits
  rw [UInt32.toNat_add, Nat.mod_eq_of_lt (by omega)]

theorem firstFit_of_table (inv : TableInv s) (haddr : Addressed s) {size : UInt32}
    (hsize : NoWrap s size) : FirstFit s size := by
  have hround : (boardRound size).toNat = rounded size := boardRound_eq hsize.1
  have hpos := boardRound_pos size
  constructor
  · intro a b hlowest
    -- the lowest gap is the first slot that is free and large enough
    obtain ⟨pre, hole, post, hslots, hfree, hstart, hlength, hpre⟩ := hlowest.split inv
    have hholds := hlowest.holds
    have hfits : boardRound size ≤ hole.size := by
      rw [UInt32.le_iff_toNat_le]
      omega
    have hskip : ∀ slot ∈ pre, slot.used = true ∨ slot.size < boardRound size := by
      intro slot hslot
      refine (hpre slot hslot).imp_right fun hlt => ?_
      rw [UInt32.lt_iff_toNat_lt]
      omega
    obtain ⟨rest, htake, hrest⟩ :=
      takeHole_append (decide (s.slots.length < maxBoardAllocs)) hskip hfree hfits post
    have hmem : hole ∈ s.slots := by
      rw [hslots]
      simp
    let block : BoardSlot := { hole with
      used := true
      size := if decide (s.slots.length < maxBoardAllocs) then boardRound size else hole.size }
    have halloc : boardAlloc s size =
        (s.boardMem + hole.offset, { s with slots := pre ++ block :: rest }) := by
      rw [← hslots] at htake
      simp only [boardAlloc, htake, block]
    rw [halloc]
    refine ⟨?_, block, rfl, hstart, ?_, ?_⟩
    · rw [haddr.toNat_pointer (UInt32.lt_iff_toNat_lt.mp (inv.offset_lt hmem)), hstart]
    · dsimp only [block]
      rw [apply_ite UInt32.toNat, hround, hlength]
      simp only [decide_eq_true_eq]
    · rw [usedSlots_append, usedSlots_cons_used rfl, hrest, hslots, usedSlots_append,
        usedSlots_cons_free hfree]
      exact List.perm_middle
  · intro hnone htop hroom
    -- no gap, and room behind the last slot
    have hnohole := inv.noHole hround hnone
    have hsum : (s.boardAllocOffset + boardRound size).toNat =
        s.boardAllocOffset.toNat + rounded size := by
      rw [UInt32.toNat_add, hround]
      have hlt := s.boardMemSize.toNat_lt
      omega
    let block : BoardSlot := ⟨s.boardAllocOffset, boardRound size, true⟩
    have halloc : boardAlloc s size = (s.boardMem + s.boardAllocOffset, { s with
        slots := s.slots ++ [block]
        boardAllocOffset := s.boardAllocOffset + boardRound size }) := by
      have hfits : ¬ s.boardMemSize < s.boardAllocOffset + boardRound size := by
        rw [UInt32.lt_iff_toNat_lt, hsum]
        omega
      simp only [boardAlloc, takeHole_none hnohole, if_neg hfits, if_neg (Nat.not_le.mpr hroom)]
      rfl
    rw [halloc]
    refine ⟨haddr.toNat_pointer (by omega), block, rfl, rfl, hround, ?_⟩
    rw [usedSlots_append, usedSlots_cons_used rfl]
    rfl
  · intro hnone hfull
    have hnohole := inv.noHole hround hnone
    have hsum : (s.boardAllocOffset + boardRound size).toNat =
        s.boardAllocOffset.toNat + rounded size := by
      rw [UInt32.toNat_add, ← hround]
      exact Nat.mod_eq_of_lt (hsize.2 hnohole)
    simp only [boardAlloc, takeHole_none hnohole]
    split
    · rfl
    · next hfits =>
        rw [UInt32.lt_iff_toNat_lt, hsum, Nat.not_lt] at hfits
        split
        · rfl
        · next hroom => exact absurd ⟨hfits, Nat.lt_of_not_le hroom⟩ hfull

end Table

/-! ## What a call leaves alone -/

/-- Releasing something else than a block in use does nothing, releasing a block leaves the others,
and so does a request, which changes nothing when it fails. -/
structure Undisturbing (s : BoardState) : Prop where
  free_null : boardFree s 0 = (false, s)
  free_other : ∀ mem, (∀ slot ∈ s.slots, slot.used = true → s.boardMem + slot.offset ≠ mem) →
    boardFree s mem = (false, s)
  free_block : ∀ mem, (boardFree s mem).1 = true →
    usedSlots (boardFree s mem).2.slots =
      (usedSlots s.slots).filter fun slot => s.boardMem + slot.offset ≠ mem
  alloc_null : ∀ size, NoWrap s size → (boardAlloc s size).1 = 0 → (boardAlloc s size).2 = s
  alloc_block : ∀ size, ∀ slot ∈ s.slots, slot.used = true →
    slot ∈ (boardAlloc s size).2.slots

section Frame

variable {s : BoardState}

theorem boardFree_other {mem : UInt32}
    (h : ∀ slot ∈ s.slots, slot.used = true → s.boardMem + slot.offset ≠ mem) :
    boardFree s mem = (false, s) := by
  rcases boardFree_cases s mem with ⟨heq, -⟩ | ⟨pre, post, slot, hslots, hused, hoffset, -⟩
  · exact heq
  · have hmem : slot ∈ s.slots := by
      rw [hslots]
      simp
    exact absurd (offset_eq_sub_iff.mp hoffset) (h slot hmem hused)

theorem boardAlloc_keeps (size : UInt32) {slot : BoardSlot} (hslot : slot ∈ s.slots)
    (hused : slot.used = true) : slot ∈ (boardAlloc s size).2.slots := by
  rcases boardAlloc_block s size with heq | ⟨pre, post, block, hslots, -, -, -, haround⟩
  · rwa [heq]
  · rw [hslots]
    rcases mem_around haround hslot hused with hpre | hpost
    · exact List.mem_append_left _ hpre
    · exact List.mem_append_right _ (List.mem_cons_of_mem _ hpost)

/-- A request that fits somewhere gets a pointer. -/
theorem FirstFit.unchanged {size : UInt32} (h : FirstFit s size) (hboard : s.boardMem ≠ 0)
    (hnull : (boardAlloc s size).1 = 0) : (boardAlloc s size).2 = s := by
  have hpos : s.boardMem.toNat ≠ 0 := fun hzero => hboard (UInt32.toNat_inj.mp hzero)
  rw [← UInt32.toNat_inj, UInt32.toNat_zero] at hnull
  by_cases hgap : ∃ a b, LowestGap s (rounded size) a b
  · obtain ⟨a, b, hlowest⟩ := hgap
    have hptr := (h.gap a b hlowest).1
    omega
  · have hnone : ∀ a b, ¬ LowestGap s (rounded size) a b := fun a b hlowest =>
      hgap ⟨a, b, hlowest⟩
    by_cases htop : s.boardAllocOffset.toNat + rounded size ≤ s.boardMemSize.toNat ∧
        s.slots.length < maxBoardAllocs
    · have hptr := (h.top hnone htop.1 htop.2).1
      omega
    · rw [h.null hnone htop]

theorem undisturbing_of_table (inv : TableInv s) (haddr : Addressed s) (hboard : s.boardMem ≠ 0) :
    Undisturbing s where
  free_null := if_pos (Or.inr rfl)
  free_other _ h := boardFree_other h
  free_block mem _ := usedSlots_boardFree inv haddr mem
  alloc_null _ hsize := (firstFit_of_table inv haddr hsize).unchanged hboard
  alloc_block size _ := boardAlloc_keeps size

end Frame

/-! ## Every run -/

/-- Requests do not wrap. -/
def AtBoardAlloc (s : BoardState) : BoardAction → Prop
  | .alloc size => NoWrap s size
  | .free _ => True

section Runs

variable {boardMem boardMemSize : UInt32} {actions : List BoardAction} {s : BoardState}

theorem table_of_run (hboard : boardMem ≠ 0) (hmem : boardMem.toNat + boardMemSize.toNat ≤ 2 ^ 32)
    (hwithin : Machine.Within BoardState.step AtBoardAlloc
      (BoardState.initial boardMem boardMemSize) actions)
    (hrun : Machine.run BoardState.step (BoardState.initial boardMem boardMemSize) actions =
      some s) :
    TableInv s ∧ Addressed s ∧ s.boardMem ≠ 0 := by
  have hinv : TableInv s ∧ s.boardMem = boardMem ∧ s.boardMemSize = boardMemSize := by
    refine Machine.run_invariant
      (I := fun t => TableInv t ∧ t.boardMem = boardMem ∧ t.boardMemSize = boardMemSize) ?_
      ⟨TableInv.initial boardMem boardMemSize, rfl, rfl⟩ hwithin hrun
    rintro t action u ⟨inv, hsame, hsize⟩ hpermitted hstep
    cases action with
    | alloc size =>
        obtain rfl := Option.some.inj hstep
        obtain ⟨hmem', hsize'⟩ := boardAlloc_config t size
        exact ⟨inv.boardAlloc hpermitted, hmem'.trans hsame, hsize'.trans hsize⟩
    | free mem =>
        obtain rfl := Option.some.inj hstep
        obtain ⟨hmem', hsize'⟩ := boardFree_config t mem
        exact ⟨(inv.boardFree mem).1, hmem'.trans hsame, hsize'.trans hsize⟩
  obtain ⟨inv, hsame, hsize⟩ := hinv
  rw [hsame]
  refine ⟨inv, ⟨?_, fun hzero => absurd (hsame.symm.trans hzero) hboard⟩, hboard⟩
  rwa [hsame, hsize]

/-- In every run whose requests do not wrap, `board_alloc` is first fit in every state. -/
theorem alloc_first_fit (hboard : boardMem ≠ 0)
    (hmem : boardMem.toNat + boardMemSize.toNat ≤ 2 ^ 32)
    (hwithin : Machine.Within BoardState.step AtBoardAlloc
      (BoardState.initial boardMem boardMemSize) actions)
    (hrun : Machine.run BoardState.step (BoardState.initial boardMem boardMemSize) actions =
      some s) {size : UInt32} (hsize : NoWrap s size) : FirstFit s size := by
  obtain ⟨inv, haddr, -⟩ := table_of_run hboard hmem hwithin hrun
  exact firstFit_of_table inv haddr hsize

/-- In every run whose requests do not wrap, no call disturbs another block. -/
theorem calls_disturb_nothing (hboard : boardMem ≠ 0)
    (hmem : boardMem.toNat + boardMemSize.toNat ≤ 2 ^ 32)
    (hwithin : Machine.Within BoardState.step AtBoardAlloc
      (BoardState.initial boardMem boardMemSize) actions)
    (hrun : Machine.run BoardState.step (BoardState.initial boardMem boardMemSize) actions =
      some s) : Undisturbing s := by
  obtain ⟨inv, haddr, hboard'⟩ := table_of_run hboard hmem hwithin hrun
  exact undisturbing_of_table inv haddr hboard'

end Runs

/-- The run of the next two theorems is permitted. -/
theorem reuse_permitted : Machine.Within BoardState.step AtBoardAlloc
    (BoardState.initial 0x10000000 0x08000000) [.alloc 64, .alloc 60, .free 0x10000000] := by
  refine ⟨⟨by decide, fun _ => by decide⟩, fun s hstep => ?_⟩
  obtain rfl := Option.some.inj hstep
  refine ⟨⟨by decide, fun _ => by decide⟩, fun s hstep => ?_⟩
  exact ⟨trivial, fun _ _ => trivial⟩

/-- Of two blocks in 128 MiB the first is released; 32 bytes get half of it. -/
theorem alloc_first_fit_reuse :
    ∃ s, Machine.run BoardState.step (BoardState.initial 0x10000000 0x08000000)
        [.alloc 64, .alloc 60, .free 0x10000000] = some s ∧
      (boardAlloc s 32).1 = 0x10000000 ∧ FirstFit s 32 := by
  refine ⟨_, rfl, by decide, ?_⟩
  exact alloc_first_fit (by decide) (by decide) reuse_permitted rfl
    ⟨by decide, fun _ => by decide⟩

/-- After it the first block is no longer one that can be released. -/
theorem calls_disturb_nothing_reuse :
    ∃ s, Machine.run BoardState.step (BoardState.initial 0x10000000 0x08000000)
        [.alloc 64, .alloc 60, .free 0x10000000] = some s ∧
      boardFree s 0x10000000 = (false, s) ∧ Undisturbing s := by
  refine ⟨_, rfl, by decide, ?_⟩
  exact calls_disturb_nothing (by decide) (by decide) reuse_permitted rfl

/-- In 3 GiB the end of a second block of 2 GiB wraps to 0, and the request is met. -/
theorem alloc_beyond_top :
    ∃ s, Machine.run BoardState.step (BoardState.initial 0x10000000 0xC0000000)
        [.alloc 0x80000000] = some s ∧
      BoardAction.FitsIn 0xC0000000 (.alloc 0x80000000) ∧
      (boardAlloc s 0x80000000).1 = 0x90000000 ∧ ¬ FirstFit s 0x80000000 := by
  refine ⟨_, rfl, by decide, by decide, fun hfit => ?_⟩
  have hnull := hfit.null ?_ (by decide)
  · exact absurd (congrArg Prod.fst hnull) (by decide)
  · -- the one block starts at 0
    rintro a b ⟨⟨hlt, -, ⟨block, hblock, hstart⟩, -⟩, -, -⟩
    have hused : block = ⟨0, 0x80000000, true⟩ := List.mem_singleton.mp hblock
    rw [hused] at hstart
    change 0 = b at hstart
    omega

/-- Then 3 GiB more are laid over both blocks, and the second one is released and taken again up to
the address 0, from where a request of 16 bytes is met. -/
theorem null_after_wrap :
    let actions : List BoardAction := [.alloc 0x80000000, .alloc 0x80000000, .alloc 0xC0000000,
      .free 0x90000000, .alloc 0x70000000]
    (∀ action ∈ actions, action.FitsIn 0xC0000000) ∧
      ∃ s, Machine.run BoardState.step (BoardState.initial 0x10000000 0xC0000000) actions =
          some s ∧
        (boardAlloc s 16).1 = 0 ∧ (boardAlloc s 16).2 ≠ s ∧ ¬ Undisturbing s := by
  refine ⟨by decide, _, rfl, by decide +kernel, by decide +kernel, fun h => ?_⟩
  have hunchanged := h.alloc_null 16 ⟨by decide, fun hnone => ?_⟩ (by decide +kernel)
  · exact absurd hunchanged (by decide +kernel)
  · -- there is a hole
    have hhole := hnone ⟨0xF0000000, 0x10000000, false⟩ (by decide +kernel)
    exact absurd hhole (by decide)

end VirtIOGPU
