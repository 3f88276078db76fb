import VirtIOGPU.Board.Allocator
import VirtIOGPU.Lib.LongWord
import VirtIOGPU.Lib.Tiling

/-!
# The slot table

`TableInv` is the representation invariant of the allocator: the slots tile
`[0, board_alloc_offset)`, sizes are positive multiples of 16, neighbours are never
both free, and the last slot is in use.

Both operations replace one slot and its neighbours in the middle of the table, so
the proofs work on a table `pre ++ slot :: post`.  `boardAlloc_cases` and
`boardFree_cases` bring the operations to that form.

## Strategy

```text
result of takeHole                 new table                              lemma
slot split, one entry more         pre ++ taken :: remainder :: post      split
slot taken whole                   pre ++ taken :: post                   reuse
no slot is free and large enough   slots ++ [taken]                       extend
```

Rounding may wrap in 32 bits.  Its result is a positive multiple of 16 all the same, which is all
that `split` and `reuse` ask for; `extend` needs in addition that the new top does not wrap.
`NoWrap` requires both sums to stay below 2^32, the second one only where it is formed.
-/

namespace VirtIOGPU

open Lib.Memory Lib.Tiling

abbrev TilesSlots : ℕ → List BoardSlot → ℕ → Prop :=
  Tiles (fun slot : BoardSlot => slot.offset.toNat) fun slot => slot.size.toNat

abbrev CoalescedSlots : List BoardSlot → Prop :=
  Coalesced fun slot : BoardSlot => slot.used = true

structure TableInv (s : BoardState) : Prop where
  tiles : TilesSlots 0 s.slots s.boardAllocOffset.toNat
  size_pos : ∀ slot ∈ s.slots, 0 < slot.size.toNat
  size_dvd : ∀ slot ∈ s.slots, 16 ∣ slot.size.toNat
  coalesced : CoalescedSlots s.slots
  last_used : ∀ slot ∈ s.slots.getLast?, slot.used = true
  length_le : s.slots.length ≤ maxBoardAllocs
  top_le : s.boardAllocOffset.toNat ≤ s.boardMemSize.toNat

theorem TableInv.initial (boardMem boardMemSize : UInt32) :
    TableInv (BoardState.initial boardMem boardMemSize) where
  tiles := rfl
  size_pos _ h := absurd h List.not_mem_nil
  size_dvd _ h := absurd h List.not_mem_nil
  coalesced := List.IsChain.nil
  last_used _ h := by simp [BoardState.initial] at h
  length_le := Nat.zero_le _
  top_le := Nat.zero_le _

/-! ## Rounding -/

theorem and_not_fifteen (x : UInt32) : (x &&& ~~~15).toNat = x.toNat / 16 * 16 :=
  @toNat_and_not_ones 4 x

/-- The rounded size is a positive multiple of 16, also when rounding wraps. -/
theorem boardRound_pos (size : UInt32) : 0 < (boardRound size).toNat := by
  simp only [boardRound]
  split
  · decide
  · rename_i hne
    rw [← UInt32.toNat_inj, UInt32.toNat_zero] at hne
    omega

theorem boardRound_dvd (size : UInt32) : 16 ∣ (boardRound size).toNat := by
  simp only [boardRound]
  split
  · decide
  · rw [and_not_fifteen]
    exact Nat.dvd_mul_left _ _

theorem boardRound_eq {size : UInt32} (hsize : size.toNat ≤ 0xFFFFFFF0) :
    (boardRound size).toNat = max 16 ((size.toNat + 15) / 16 * 16) := by
  have hrounded : ((size + 15) &&& ~~~15).toNat = (size.toNat + 15) / 16 * 16 := by
    have hsum : (size + 15).toNat = size.toNat + 15 := by
      rw [UInt32.toNat_add, show (15 : UInt32).toNat = 15 from rfl]
      omega
    rw [and_not_fifteen, hsum]
  simp only [boardRound]
  split
  · rename_i hzero
    rw [hzero, UInt32.toNat_zero] at hrounded
    rw [show (16 : UInt32).toNat = 16 from rfl]
    omega
  · rename_i hne
    rw [← UInt32.toNat_inj, UInt32.toNat_zero] at hne
    omega

/-! ## Allocating -/

/-- The scan passes over the slots that do not fit and takes the first that does. -/
theorem takeHole_eq_some {room : Bool} {size offset : UInt32} {slots slots' : List BoardSlot}
    (h : takeHole room size slots = some (offset, slots')) :
    ∃ (pre post : List BoardSlot) (slot : BoardSlot),
      slots = pre ++ slot :: post ∧ slot.used = false ∧ size.toNat ≤ slot.size.toNat ∧
      offset = slot.offset ∧
      (slots' = pre ++ { slot with used := true } :: post ∨
        room = true ∧ size.toNat < slot.size.toNat ∧
          slots' = pre ++ { slot with size := size, used := true } ::
            { slot with offset := slot.offset + size, size := slot.size - size } :: post) := by
  induction slots generalizing offset slots' with
  | nil => simp [takeHole] at h
  | cons slot rest ih =>
      rw [takeHole] at h
      split at h
      · -- this slot is used or too small
        obtain ⟨⟨offset', rest'⟩, htaken, heq⟩ := Option.map_eq_some_iff.mp h
        obtain ⟨rfl, rfl⟩ := Prod.mk.inj heq
        obtain ⟨pre, post, hole, rfl, hfree, hsize, hoffset, hcases⟩ := ih htaken
        refine ⟨slot :: pre, post, hole, rfl, hfree, hsize, hoffset, ?_⟩
        rcases hcases with rfl | ⟨hroom, hlt, rfl⟩
        · exact Or.inl rfl
        · exact Or.inr ⟨hroom, hlt, rfl⟩
      · rename_i hfits
        rw [Bool.or_eq_true, decide_eq_true_eq, not_or, Bool.not_eq_true, UInt32.not_lt,
          UInt32.le_iff_toNat_le] at hfits
        obtain ⟨hfree, hsize⟩ := hfits
        split at h
        · obtain ⟨rfl, rfl⟩ := Prod.mk.inj (Option.some.inj h)
          exact ⟨[], rest, slot, rfl, hfree, hsize, rfl, Or.inl rfl⟩
        · -- the slot is larger, and split where the table has room
          rename_i hne
          split at h
          · rename_i hroom
            obtain ⟨rfl, rfl⟩ := Prod.mk.inj (Option.some.inj h)
            rw [← UInt32.toNat_inj] at hne
            refine ⟨[], rest, slot, rfl, hfree, hsize, rfl, Or.inr ⟨hroom, by omega, ?_⟩⟩
            rw [hfree]
            rfl
          · obtain ⟨rfl, rfl⟩ := Prod.mk.inj (Option.some.inj h)
            exact ⟨[], rest, slot, rfl, hfree, hsize, rfl, Or.inl rfl⟩

/-- No hole is large enough. -/
def NoHole (s : BoardState) (size : UInt32) : Prop :=
  ∀ slot ∈ s.slots, slot.used = true ∨ slot.size < boardRound size

theorem takeHole_eq_none {room : Bool} {size : UInt32} {slots : List BoardSlot}
    (h : takeHole room size slots = none) :
    ∀ slot ∈ slots, slot.used = true ∨ slot.size < size := by
  induction slots with
  | nil => exact fun _ hslot => absurd hslot List.not_mem_nil
  | cons first rest ih =>
      rw [takeHole] at h
      split at h
      · rename_i hskip
        rw [Bool.or_eq_true, decide_eq_true_eq] at hskip
        intro slot hslot
        rcases List.mem_cons.mp hslot with rfl | hslot
        · exact hskip
        · exact ih (Option.map_eq_none_iff.mp h) slot hslot
      · split at h
        · simp at h
        · split at h <;> simp at h

/-- The four ways a call of `board_alloc` can end. -/
theorem boardAlloc_cases (s : BoardState) (size : UInt32) :
    boardAlloc s size = (0, s) ∨
      (∃ pre post slot, s.slots = pre ++ slot :: post ∧ slot.used = false ∧
        (boardRound size).toNat ≤ slot.size.toNat ∧
        boardAlloc s size = (s.boardMem + slot.offset,
          { s with slots := pre ++ { slot with used := true } :: post })) ∨
      (∃ pre post slot, s.slots = pre ++ slot :: post ∧ slot.used = false ∧
        s.slots.length < maxBoardAllocs ∧ (boardRound size).toNat < slot.size.toNat ∧
        boardAlloc s size = (s.boardMem + slot.offset,
          { s with
            slots := pre ++ { slot with size := boardRound size, used := true } ::
              { slot with
                offset := slot.offset + boardRound size
                size := slot.size - boardRound size } :: post })) ∨
      (NoHole s size ∧ s.slots.length < maxBoardAllocs ∧
        (s.boardAllocOffset + boardRound size).toNat ≤ s.boardMemSize.toNat ∧
        boardAlloc s size = (s.boardMem + s.boardAllocOffset,
          { s with
            slots := s.slots ++
              [{ offset := s.boardAllocOffset, size := boardRound size, used := true }]
            boardAllocOffset := s.boardAllocOffset + boardRound size })) := by
  unfold boardAlloc
  cases htake : takeHole (decide (s.slots.length < maxBoardAllocs)) (boardRound size) s.slots with
  | some taken =>
      obtain ⟨offset, slots'⟩ := taken
      -- a hole, taken whole or split
      obtain ⟨pre, post, slot, hslots, hfree, hsize, rfl, hcases⟩ := takeHole_eq_some htake
      rcases hcases with rfl | ⟨hroom, hlt, rfl⟩
      · exact Or.inr (Or.inl ⟨pre, post, slot, hslots, hfree, hsize, by simp only [htake]⟩)
      · exact Or.inr (Or.inr (Or.inl ⟨pre, post, slot, hslots, hfree, of_decide_eq_true hroom, hlt,
          by simp only [htake]⟩))
  | none =>
      simp only [htake]
      split
      · exact Or.inl rfl
      · rename_i hfits
        rw [UInt32.not_lt, UInt32.le_iff_toNat_le] at hfits
        split
        · exact Or.inl rfl
        · rename_i hroom
          have hlt := Nat.lt_of_not_le hroom
          exact Or.inr (Or.inr (Or.inr ⟨takeHole_eq_none htake, hlt, hfits, rfl⟩))

/-- The requests whose rounding and, where the table must grow, whose new end do not wrap
around 32 bits. -/
def NoWrap (s : BoardState) (size : UInt32) : Prop :=
  size.toNat ≤ 0xFFFFFFF0 ∧
    (NoHole s size → s.boardAllocOffset.toNat + (boardRound size).toNat < 2 ^ 32)

namespace TableInv

variable {s : BoardState} {pre post : List BoardSlot} {slot : BoardSlot}

theorem slot_end_le (inv : TableInv s) (hslot : slot ∈ s.slots) :
    slot.offset.toNat + slot.size.toNat ≤ s.boardAllocOffset.toNat :=
  (inv.tiles.bounds hslot).2

/-- A free slot is followed by a used one. -/
theorem post_ne_nil (inv : TableInv s) (hslots : s.slots = pre ++ slot :: post)
    (hfree : slot.used = false) : post ≠ [] := by
  rintro rfl
  have hlast := inv.last_used slot (by rw [hslots]; simp)
  rw [hfree] at hlast
  exact absurd hlast (by decide)

/-- Taking a whole hole. -/
theorem reuse (inv : TableInv s) (hslots : s.slots = pre ++ slot :: post)
    (hfree : slot.used = false) :
    TableInv { s with slots := pre ++ { slot with used := true } :: post } := by
  have hpost := inv.post_ne_nil hslots hfree
  obtain ⟨tiles, size_pos, size_dvd, coalesced, last_used, length_le, top_le⟩ := inv
  rw [hslots] at tiles size_pos size_dvd coalesced last_used length_le
  obtain ⟨hpre, hrest⟩ := coalesced.of_append
  refine ⟨(tiles_replace (x := slot) (y := { slot with used := true }) rfl rfl).mpr tiles, ?_, ?_,
    hpre.insert_used hrest.tail rfl, ?_, ?_, top_le⟩
  · simp only [List.forall_mem_append, List.forall_mem_cons] at size_pos ⊢
    exact size_pos
  · simp only [List.forall_mem_append, List.forall_mem_cons] at size_dvd ⊢
    exact size_dvd
  · obtain ⟨next, rest, rfl⟩ := List.exists_cons_of_ne_nil hpost
    simpa [List.getLast?_append, List.getLast?_cons_cons] using last_used
  · simpa using length_le

/-- Splitting a hole. -/
theorem split (inv : TableInv s) (hslots : s.slots = pre ++ slot :: post)
    (hfree : slot.used = false) (hroom : s.slots.length < maxBoardAllocs) {size : UInt32}
    (hpos : 0 < size.toNat) (hdvd : 16 ∣ size.toNat) (hlt : size.toNat < slot.size.toNat) :
    TableInv
      { s with
        slots := pre ++ { slot with size := size, used := true } ::
          { slot with offset := slot.offset + size, size := slot.size - size } :: post } := by
  have hpost := inv.post_ne_nil hslots hfree
  have hslot : slot ∈ s.slots := by
    rw [hslots]
    simp
  have hend := inv.slot_end_le hslot
  have hoffset : (slot.offset + size).toNat = slot.offset.toNat + size.toNat := by
    have := s.boardAllocOffset.toNat_lt
    rw [UInt32.toNat_add]
    omega
  have hsize : (slot.size - size).toNat = slot.size.toNat - size.toNat :=
    UInt32.toNat_sub_of_le _ _ (by rw [UInt32.le_iff_toNat_le]; omega)
  obtain ⟨tiles, size_pos, size_dvd, coalesced, last_used, length_le, top_le⟩ := inv
  rw [hslots] at tiles size_pos size_dvd coalesced last_used hroom
  simp only [List.forall_mem_append, List.forall_mem_cons] at size_pos size_dvd
  obtain ⟨hpre, hrest⟩ := coalesced.of_append
  have hnext := (coalesced.neighbours (by simp [hfree])).2
  have hsum : size.toNat + (slot.size - size).toNat = slot.size.toNat := by omega
  refine ⟨tiles_split (z := slot) rfl hoffset hsum tiles, ?_, ?_, ?_, ?_, ?_, top_le⟩
  · simp only [List.forall_mem_append, List.forall_mem_cons]
    exact ⟨size_pos.1, hpos, by rw [hsize]; omega, size_pos.2.2⟩
  · simp only [List.forall_mem_append, List.forall_mem_cons]
    exact ⟨size_dvd.1, hdvd, hsize ▸ Nat.dvd_sub size_dvd.2.1 hdvd, size_dvd.2.2⟩
  · refine hpre.insert_used ?_ rfl
    exact Coalesced.cons_free hrest.tail hnext
  · obtain ⟨next, rest, rfl⟩ := List.exists_cons_of_ne_nil hpost
    simpa [List.getLast?_append, List.getLast?_cons_cons] using last_used
  · simp only [List.length_append, List.length_cons] at hroom ⊢
    omega

/-- Extending the table at the top. -/
theorem extend (inv : TableInv s) (hroom : s.slots.length < maxBoardAllocs) {size : UInt32}
    (hpos : 0 < size.toNat) (hdvd : 16 ∣ size.toNat)
    (hnowrap : s.boardAllocOffset.toNat + size.toNat < 2 ^ 32)
    (hfits : (s.boardAllocOffset + size).toNat ≤ s.boardMemSize.toNat) :
    TableInv
      { s with
        slots := s.slots ++ [{ offset := s.boardAllocOffset, size := size, used := true }]
        boardAllocOffset := s.boardAllocOffset + size } := by
  have htop : (s.boardAllocOffset + size).toNat = s.boardAllocOffset.toNat + size.toNat := by
    rw [UInt32.toNat_add]
    omega
  refine ⟨?_, ?_, ?_, inv.coalesced.insert_used List.IsChain.nil rfl, ?_, ?_, hfits⟩
  · exact tiles_append.mpr ⟨_, inv.tiles, rfl, htop.symm⟩
  · simp only [List.forall_mem_append, List.forall_mem_singleton]
    exact ⟨inv.size_pos, hpos⟩
  · simp only [List.forall_mem_append, List.forall_mem_singleton]
    exact ⟨inv.size_dvd, hdvd⟩
  · simp
  · simp only [List.length_append, List.length_singleton]
    omega

theorem boardAlloc (inv : TableInv s) {size : UInt32} (hsize : NoWrap s size) :
    TableInv (VirtIOGPU.boardAlloc s size).2 := by
  have hpos := boardRound_pos size
  have hdvd := boardRound_dvd size
  rcases boardAlloc_cases s size with heq | ⟨pre, post, slot, hslots, hfree, -, heq⟩ |
    ⟨pre, post, slot, hslots, hfree, hroom, hlt, heq⟩ | ⟨hnone, hroom, hfits, heq⟩
  · rwa [heq]
  · rw [heq]
    exact inv.reuse hslots hfree
  · rw [heq]
    exact inv.split hslots hfree hroom hpos hdvd hlt
  · rw [heq]
    exact inv.extend hroom hpos hdvd (hsize.2 hnone) hfits

end TableInv

end VirtIOGPU
