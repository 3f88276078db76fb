import VirtIOGPU.Board.Release

/-!
# Every run of the board-memory allocator

* `table_invariant`: while no request exceeds the board memory, every reachable
  table is well formed.
* `allocCardMem_sound`: while no request wraps around 32 bits, every block that
  `AllocCardMem` hands out is aligned, large enough, inside board memory and
  disjoint from every other block in use.  `allocCardMem_wraps` shows what a request
  that wraps gets.

## Strategy

The first statement is about the table alone, and its step is `TableInv.boardAlloc` and
`TableInv.boardFree`.  The second one adds what the callers hold: `LiveInv` says that every
block that has been handed out and not been given back is a used slot, at least as large as was
asked for.

```text
call           the block of the call              every other block
AllocCardMem   a used slot that was none before   stays in the table
FreeCardMem    leaves the table and the ledger    stays, since its address differs
```

That two used slots are disjoint is not part of the invariant; it follows from the tiling
(`Tiles.apart`), so a step has nothing to show about pairs of blocks.
-/

namespace VirtIOGPU

open Lib Lib.Tiling

/-! ## Runs of `board_alloc` and `board_free` -/

theorem boardAlloc_config (s : BoardState) (size : UInt32) :
    (boardAlloc s size).2.boardMem = s.boardMem ∧
      (boardAlloc s size).2.boardMemSize = s.boardMemSize := by
  rcases boardAlloc_cases s size with heq | ⟨_, _, _, -, -, -, heq⟩ | ⟨_, _, _, -, -, -, -, heq⟩ |
    ⟨-, -, -, heq⟩ <;> rw [heq] <;> exact ⟨rfl, rfl⟩

theorem boardFree_config (s : BoardState) (mem : UInt32) :
    (boardFree s mem).2.boardMem = s.boardMem ∧
      (boardFree s mem).2.boardMemSize = s.boardMemSize := by
  rcases boardFree_cases s mem with ⟨heq, -⟩ | ⟨pre, post, slot, -, -, -, heq⟩
  · rw [heq]
    exact ⟨rfl, rfl⟩
  · rw [heq]
    simp only [boardCoalesceAt, boardRecalcTop]
    split <;> exact ⟨rfl, rfl⟩

/-- No request is larger than the board memory. -/
def BoardAction.FitsIn (boardMemSize : UInt32) : BoardAction → Prop
  | .alloc size => size ≤ boardMemSize
  | .free _ => True

instance (boardMemSize : UInt32) : DecidablePred (BoardAction.FitsIn boardMemSize)
  | .alloc size => inferInstanceAs (Decidable (size ≤ boardMemSize))
  | .free _ => inferInstanceAs (Decidable True)

/-- A request that is not larger than a board memory below 2 GiB wraps nowhere. -/
theorem TableInv.noWrap {s : BoardState} (inv : TableInv s) (hdvd : 16 ∣ s.boardMemSize.toNat)
    (hlt : s.boardMemSize.toNat < 2 ^ 31) {size : UInt32} (hsize : size ≤ s.boardMemSize) :
    NoWrap s size := by
  have htop := inv.top_le
  rw [UInt32.le_iff_toNat_le] at hsize
  have hround := boardRound_eq (show size.toNat ≤ 0xFFFFFFF0 by omega)
  refine ⟨by omega, fun _ => ?_⟩
  rw [hround]
  omega

/-- In every reachable state of runs whose requests are not larger than the board memory the
slots are sorted, tile `[0, board_alloc_offset)` and satisfy the other parts of `TableInv`. -/
theorem table_invariant (boardMem boardMemSize : UInt32) (hdvd : 16 ∣ boardMemSize.toNat)
    (hlt : boardMemSize.toNat < 2 ^ 31) (actions : List BoardAction)
    (hfits : ∀ action ∈ actions, action.FitsIn boardMemSize) {s : BoardState}
    (hrun : Machine.run BoardState.step (BoardState.initial boardMem boardMemSize) actions =
      some s) :
    TableInv s ∧ s.slots.Pairwise fun a b => a.offset.toNat + a.size.toNat ≤ b.offset.toNat := by
  have hwithin : Machine.Within BoardState.step (fun _ action => action.FitsIn boardMemSize)
      (BoardState.initial boardMem boardMemSize) actions := Machine.within_of_forall hfits
  have hinv : TableInv s ∧ s.boardMemSize = boardMemSize := by
    refine Machine.run_invariant (I := fun t => TableInv t ∧ t.boardMemSize = boardMemSize) ?_
      ⟨TableInv.initial boardMem boardMemSize, rfl⟩ hwithin hrun
    rintro t action u ⟨inv, hsize⟩ hfit hstep
    cases action with
    | alloc size =>
        obtain rfl := Option.some.inj hstep
        refine ⟨inv.boardAlloc (inv.noWrap ?_ ?_ ?_), (boardAlloc_config t size).2.trans hsize⟩
        · rwa [hsize]
        · rwa [hsize]
        · rwa [hsize]
    | free mem =>
        obtain rfl := Option.some.inj hstep
        exact ⟨(inv.boardFree mem).1, (boardFree_config t mem).2.trans hsize⟩
  exact ⟨hinv.1, hinv.1.tiles.pairwise⟩

/-- Three blocks of 64 bytes in 128 MiB; the middle one is released and half of it reused. -/
theorem table_invariant_reuse :
    ∃ s, Machine.run BoardState.step (BoardState.initial 0x10000000 0x08000000)
        [.alloc 64, .alloc 60, .alloc 64, .free 0x10000040, .alloc 32] = some s ∧
      s.slots.length = 4 ∧ TableInv s := by
  have hslots : (Machine.run BoardState.step (BoardState.initial 0x10000000 0x08000000)
      [.alloc 64, .alloc 60, .alloc 64, .free 0x10000040, .alloc 32]).map
        (fun s => s.slots.length) = some 4 := by decide
  obtain ⟨s, hrun, hlength⟩ := Option.map_eq_some_iff.mp hslots
  exact ⟨s, hrun, hlength,
    (table_invariant _ _ (by decide) (by decide) _ (by decide) hrun).1⟩

/-! ## Runs of `AllocCardMem` and `FreeCardMem` -/

/-- Every block handed out and not given back is the front of a used slot. -/
def LiveInv (s : CardMem) : Prop :=
  ∀ block ∈ s.live, ∃ slot ∈ s.board.slots, slot.used = true ∧
    block.1 = s.board.boardMem + slot.offset ∧ block.2.toNat ≤ slot.size.toNat

/-- What a non-NULL result of `AllocCardMem` must be: the start of a used slot that is
aligned, large enough, inside board memory, disjoint from every slot that was in use, and
these slots are the blocks handed out before. -/
structure AllocSound (s : CardMem) (size : UInt32) : Prop where
  block : (chipAllocCardMem s.board size).1 ≠ 0 →
    ∃ slot ∈ (chipAllocCardMem s.board size).2.slots, slot.used = true ∧
      (chipAllocCardMem s.board size).1.toNat = s.board.boardMem.toNat + slot.offset.toNat ∧
      16 ∣ slot.offset.toNat ∧ size.toNat ≤ slot.size.toNat ∧
      slot.offset.toNat + slot.size.toNat ≤ s.board.boardMemSize.toNat ∧
      ∀ other ∈ s.board.slots, other.used = true →
        other ∈ (chipAllocCardMem s.board size).2.slots ∧
          (other.offset.toNat + other.size.toNat ≤ slot.offset.toNat ∨
            slot.offset.toNat + slot.size.toNat ≤ other.offset.toNat)
  live : LiveInv s

/-- The requirement `P` on the requests of `AllocCardMem`. -/
def AtAlloc (P : CardMem → UInt32 → Prop) (s : CardMem) : BoardAction → Prop
  | .alloc size => P s size
  | .free _ => True

/-- A successful call makes one used slot, and the slots in use before are around it. -/
theorem boardAlloc_block (s : BoardState) (size : UInt32) :
    boardAlloc s size = (0, s) ∨
      ∃ pre post block, (boardAlloc s size).2.slots = pre ++ block :: post ∧ block.used = true ∧
        (boardAlloc s size).1 = s.boardMem + block.offset ∧
        (boardRound size).toNat ≤ block.size.toNat ∧
        usedSlots (pre ++ post) = usedSlots s.slots := by
  rcases boardAlloc_cases s size with heq | ⟨pre, post, slot, hslots, hfree, hsize, heq⟩ |
    ⟨pre, post, slot, hslots, hfree, -, -, heq⟩ | ⟨-, -, -, heq⟩
  · exact Or.inl heq
  · rw [heq, hslots]
    refine Or.inr ⟨pre, post, _, rfl, rfl, rfl, hsize, ?_⟩
    rw [usedSlots_append, usedSlots_append, usedSlots_cons_free hfree]
  · rw [heq, hslots]
    refine Or.inr ⟨pre, _, _, rfl, rfl, rfl, le_rfl, ?_⟩
    rw [usedSlots_append, usedSlots_append, usedSlots_cons_free hfree]
    exact congrArg _ (usedSlots_cons_free (by exact hfree) post)
  · rw [heq]
    exact Or.inr ⟨s.slots, [], _, rfl, rfl, rfl, le_rfl, by rw [List.append_nil]⟩

/-- A slot in use is before or after the new one. -/
theorem mem_around {slots pre post : List BoardSlot}
    (hused : usedSlots (pre ++ post) = usedSlots slots) {other : BoardSlot} (hother : other ∈ slots)
    (hother_used : other.used = true) : other ∈ pre ∨ other ∈ post := by
  have hmem : other ∈ usedSlots slots := mem_usedSlots.mpr ⟨hother, hother_used⟩
  rw [← hused] at hmem
  exact List.mem_append.mp (mem_usedSlots.mp hmem).1

/-- Board memory is an object of the 32-bit address space, its table is good and its blocks
are accounted for. -/
structure CardInv (s : CardMem) : Prop where
  fits : s.board.boardMem.toNat + s.board.boardMemSize.toNat ≤ 2 ^ 32
  table : TableInv s.board
  live : LiveInv s

theorem CardInv.allocSound {s : CardMem} (inv : CardInv s) {size : UInt32}
    (hsize : NoWrap s.board size) : AllocSound s size := by
  refine ⟨fun hne => ?_, inv.live⟩
  unfold chipAllocCardMem at hne ⊢
  split at hne
  · simp at hne
  · rename_i hmem
    simp only [hmem, if_false]
    have table := inv.table.boardAlloc hsize
    rcases boardAlloc_block s.board size with heq | ⟨pre, post, block, hslots, hused, hptr, hround,
      haround⟩
    · rw [heq] at hne
      exact absurd rfl hne
    · have hblock : block ∈ (boardAlloc s.board size).2.slots := by rw [hslots]; simp
      have hend := table.slot_end_le hblock
      have htop := table.top_le
      have hpos := table.size_pos block hblock
      have hfits := inv.fits
      rw [(boardAlloc_config s.board size).2] at htop
      have hrounded := boardRound_eq hsize.1
      refine ⟨block, hblock, hused, ?_, ?_, by omega, by omega, fun other hother hother_used => ?_⟩
      · rw [hptr, UInt32.toNat_add]
        omega
      · exact table.tiles.dvd_start (Nat.dvd_zero 16) table.size_dvd block hblock
      · have hplace := mem_around haround hother hother_used
        have htiles := table.tiles
        rw [hslots] at htiles ⊢
        refine ⟨?_, htiles.apart hplace⟩
        rcases hplace with hmem | hmem
        · exact List.mem_append_left _ hmem
        · exact List.mem_append_right _ (List.mem_cons_of_mem _ hmem)

/-! ## What a step preserves -/

theorem CardInv.alloc {s : CardMem} (inv : CardInv s) {size : UInt32}
    (hsize : NoWrap s.board size) {t : CardMem} (hstep : s.step (.alloc size) = some t) :
    CardInv t := by
  obtain rfl := Option.some.inj hstep
  unfold chipAllocCardMem
  split
  · exact inv
  · obtain ⟨hboardMem, hboardMemSize⟩ := boardAlloc_config s.board size
    refine ⟨?_, inv.table.boardAlloc hsize, ?_⟩
    · rw [hboardMem, hboardMemSize]
      exact inv.fits
    · rcases boardAlloc_block s.board size with heq |
        ⟨pre, post, block, hslots, hused, hptr, hround, haround⟩
      · rw [heq]
        exact inv.live
      · have hrounded := boardRound_eq hsize.1
        have hkept : ∀ entry ∈ s.live, ∃ slot ∈ (boardAlloc s.board size).2.slots,
            slot.used = true ∧ entry.1 = s.board.boardMem + slot.offset ∧
              entry.2.toNat ≤ slot.size.toNat := by
          intro entry hentry
          obtain ⟨slot, hslot, hslot_used, hrest⟩ := inv.live entry hentry
          refine ⟨slot, ?_, hslot_used, hrest⟩
          rw [hslots]
          rcases mem_around haround hslot hslot_used with hmem | hmem
          · exact List.mem_append_left _ hmem
          · exact List.mem_append_right _ (List.mem_cons_of_mem _ hmem)
        intro entry hentry
        simp only [hboardMem] at hentry ⊢
        split at hentry
        · exact hkept entry hentry
        · rcases List.mem_append.mp hentry with hmem | hmem
          · exact hkept entry hmem
          · obtain rfl := List.mem_singleton.mp hmem
            exact ⟨block, by rw [hslots]; simp, hused, hptr, by simp only; omega⟩

theorem CardInv.free {s : CardMem} (inv : CardInv s) {mem : UInt32} {t : CardMem}
    (hstep : s.step (.free mem) = some t) : CardInv t := by
  obtain rfl := Option.some.inj hstep
  obtain ⟨hboardMem, hboardMemSize⟩ := boardFree_config s.board mem
  obtain ⟨table, hkept⟩ := inv.table.boardFree mem
  unfold chipFreeCardMem
  refine ⟨?_, table, ?_⟩
  · rw [hboardMem, hboardMemSize]
    exact inv.fits
  · intro entry hentry
    simp only [hboardMem] at hentry ⊢
    split at hentry
    · obtain ⟨hentry, hne⟩ := List.mem_filter.mp hentry
      obtain ⟨slot, hslot, hused, hptr, hsize⟩ := inv.live entry hentry
      refine ⟨slot, hkept slot hslot hused (Or.inl ?_), hused, hptr, hsize⟩
      intro hoffset
      rw [hoffset, UInt32.add_comm, UInt32.sub_add_cancel] at hptr
      simp [hptr] at hne
    · rename_i hfalse
      obtain ⟨slot, hslot, hused, hrest⟩ := inv.live entry hentry
      exact ⟨slot, hkept slot hslot hused (Or.inr (Bool.not_eq_true _ ▸ hfalse)), hused, hrest⟩

/-! ## The callbacks on every run -/

/-- The empty table, with nothing handed out. -/
def CardMem.initial (boardMem boardMemSize : UInt32) : CardMem :=
  ⟨BoardState.initial boardMem boardMemSize, []⟩

/-- In every run whose requests do not wrap, every call of `AllocCardMem` is sound. -/
theorem allocCardMem_sound (boardMem boardMemSize : UInt32)
    (hmem : boardMem.toNat + boardMemSize.toNat ≤ 2 ^ 32) (actions : List BoardAction)
    (hwithin : Machine.Within CardMem.step (AtAlloc fun s => NoWrap s.board)
      (CardMem.initial boardMem boardMemSize) actions) :
    Machine.Within CardMem.step (AtAlloc AllocSound) (CardMem.initial boardMem boardMemSize)
      actions := by
  have hinitial : CardInv (CardMem.initial boardMem boardMemSize) :=
    ⟨hmem, TableInv.initial boardMem boardMemSize, fun _ h => absurd h List.not_mem_nil⟩
  refine Machine.within_imp (I := CardInv) ?_ ?_ hinitial hwithin
  · intro s action inv hpermitted
    cases action with
    | alloc size => exact inv.allocSound hpermitted
    | free mem => trivial
  · intro s action t inv hpermitted hstep
    cases action with
    | alloc size => exact inv.alloc hpermitted hstep
    | free mem => exact inv.free hstep

/-- Two requests in 128 MiB. -/
theorem allocCardMem_sound_two :
    Machine.Within CardMem.step (AtAlloc AllocSound) (CardMem.initial 0x10000000 0x08000000)
      [.alloc 100, .alloc 0] := by
  refine allocCardMem_sound _ _ (by decide) _ ⟨⟨by decide, fun _ => by decide⟩, fun s hstep => ?_⟩
  obtain rfl := Option.some.inj hstep
  exact ⟨⟨by decide, fun _ => by decide⟩, fun _ _ => trivial⟩

/-- A request of 4294967295 bytes gets a block of 16, and a request whose end wraps gets
memory beyond the board and resets the top, so that the next block overlaps the first. -/
theorem allocCardMem_wraps :
    let s := CardMem.initial 0x10000000 0x08000000
    (Machine.run CardMem.step s [.alloc 0xFFFFFFFF]).map (fun t => (t.live, t.board.slots)) =
        some ([(0x10000000, 0xFFFFFFFF)], [⟨0, 16, true⟩]) ∧
      (Machine.run CardMem.step s [.alloc 16, .alloc 0xFFFFFFF0, .alloc 64]).map
        (fun t => t.live) =
          some [(0x10000000, 16), (0x10000010, 0xFFFFFFF0), (0x10000000, 64)] ∧
      ¬ Machine.Within CardMem.step (AtAlloc AllocSound) s [.alloc 0xFFFFFFFF] := by
  refine ⟨by decide, by decide, fun hwithin => ?_⟩
  obtain ⟨slot, hslot, -, -, -, hsize, -⟩ := hwithin.1.block (by decide)
  have hslots : (chipAllocCardMem (CardMem.initial 0x10000000 0x08000000).board
      0xFFFFFFFF).2.slots = [⟨0, 16, true⟩] := by decide
  rw [hslots, List.mem_singleton] at hslot
  rw [hslot] at hsize
  exact absurd hsize (by decide)

end VirtIOGPU
