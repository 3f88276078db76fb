import VirtIOGPU.Board.Table

/-!
# Releasing a slot

`HoleAt` is the table while `board_coalesce_at` works on it: a slot that has just
become free may have free neighbours, and nothing else is wrong.  The two merges
establish that its neighbours are used, in either direction with a single step
because no two other neighbours were free (`merge_next`, `merge_prev`), and
dropping it when nothing follows restores `TableInv` (`drop_trailing`).

## Strategy

Three stages, each with the statement that the used slots are what they were before:

```text
stage          what it may do              afterwards
stage_next     absorb the slot behind      the slot behind, if any, is used
stage_prev     be absorbed by the one      the slots on both sides are used
               before
drop_trailing  drop what is free at the    TableInv
               end of the table
```

A stage that merges leaves a hole that is at least as large and reaches at least as low
(`GrownFrom`), and a table that is one entry shorter.  Hence `HasRoomFor`: either a free slot is
as large as the released block, or the table has an entry left and its top is not above the block.
-/

namespace VirtIOGPU

open Lib.Tiling

/-- The slots in use. -/
def usedSlots (slots : List BoardSlot) : List BoardSlot := slots.filter BoardSlot.used

@[simp] theorem usedSlots_append (pre post : List BoardSlot) :
    usedSlots (pre ++ post) = usedSlots pre ++ usedSlots post :=
  List.filter_append ..

theorem usedSlots_cons_free {slot : BoardSlot} (hfree : slot.used = false)
    (post : List BoardSlot) : usedSlots (slot :: post) = usedSlots post :=
  List.filter_cons_of_neg (by simp [hfree])

theorem usedSlots_cons_used {slot : BoardSlot} (hused : slot.used = true)
    (post : List BoardSlot) : usedSlots (slot :: post) = slot :: usedSlots post :=
  List.filter_cons_of_pos hused

theorem mem_usedSlots {slot : BoardSlot} {slots : List BoardSlot} :
    slot ∈ usedSlots slots ↔ slot ∈ slots ∧ slot.used = true :=
  List.mem_filter

/-- What `hole` has become after merges with its neighbours. -/
structure GrownFrom (hole hole' : BoardSlot) : Prop where
  offset_le : hole'.offset.toNat ≤ hole.offset.toNat
  size_le : hole.size.toNat ≤ hole'.size.toNat

theorem GrownFrom.refl (hole : BoardSlot) : GrownFrom hole hole := ⟨le_rfl, le_rfl⟩

/-- A free slot of the size of `hole` or larger, or as much room at the top and in the table. -/
def HasRoomFor (hole : BoardSlot) (s : BoardState) : Prop :=
  (∃ slot ∈ s.slots, slot.used = false ∧ hole.size.toNat ≤ slot.size.toNat) ∨
    s.slots.length < maxBoardAllocs ∧ s.boardAllocOffset.toNat ≤ hole.offset.toNat

/-- A table in which only the neighbours of the free slot `hole` may be free. -/
structure HoleAt (pre : List BoardSlot) (hole : BoardSlot) (post : List BoardSlot) (top : ℕ) :
    Prop where
  tiles : TilesSlots 0 (pre ++ hole :: post) top
  size_pos : ∀ slot ∈ pre ++ hole :: post, 0 < slot.size.toNat
  size_dvd : ∀ slot ∈ pre ++ hole :: post, 16 ∣ slot.size.toNat
  free : hole.used = false
  pre_coalesced : CoalescedSlots pre
  post_coalesced : CoalescedSlots post
  last_used : ∀ slot ∈ post.getLast?, slot.used = true
  top_lt : top < 2 ^ 32

/-! ## The array operations -/

theorem slotFree_append (pre post : List BoardSlot) (slot : BoardSlot) :
    slotFree (pre ++ slot :: post) pre.length = !slot.used := by
  simp [slotFree]

theorem absorbNext_append (pre post : List BoardSlot) (slot next : BoardSlot) :
    absorbNext (pre ++ slot :: next :: post) pre.length =
      pre ++ { slot with size := slot.size + next.size } :: post := by
  have hslot : (pre ++ slot :: next :: post)[pre.length]? = some slot := by simp
  have hnext : (pre ++ slot :: next :: post)[pre.length + 1]? = some next := by
    rw [List.getElem?_append_right (by omega)]
    simp
  have hset : ∀ slot', (pre ++ slot :: next :: post).set pre.length slot' =
      pre ++ slot' :: next :: post := by
    intro slot'
    simp
  simp only [absorbNext, hslot, hnext, hset]
  rw [List.eraseIdx_append_of_length_le (by omega)]
  simp

namespace HoleAt

variable {pre post : List BoardSlot} {hole next prev : BoardSlot} {top : ℕ}

/-- Sizes of neighbours add up without wrapping. -/
theorem size_add {pre post : List BoardSlot} {x y : BoardSlot}
    (tiles : TilesSlots 0 (pre ++ x :: y :: post) top) (htop : top < 2 ^ 32) :
    (x.size + y.size).toNat = x.size.toNat + y.size.toNat := by
  obtain ⟨mid, -, -, hy, hpost⟩ := tiles_append.mp tiles
  have hle := hpost.le
  dsimp only at hle
  rw [UInt32.toNat_add]
  omega

theorem merge_next (h : HoleAt pre hole (next :: post) top) (hnext : next.used = false) :
    HoleAt pre { hole with size := hole.size + next.size } post top ∧
      (∀ slot ∈ post.head?, slot.used = true) ∧
        GrownFrom hole { hole with size := hole.size + next.size } := by
  have hsize := size_add h.tiles h.top_lt
  have hpos := h.size_pos
  have hdvd := h.size_dvd
  simp only [List.forall_mem_append, List.forall_mem_cons] at hpos hdvd
  have hneighbour := h.post_coalesced.head_used (by simp [hnext])
  refine ⟨⟨tiles_merge (x := hole) rfl hsize h.tiles, ?_, ?_, h.free,
    h.pre_coalesced, h.post_coalesced.tail, ?_, h.top_lt⟩, hneighbour, le_rfl, ?_⟩
  · simp only [List.forall_mem_append, List.forall_mem_cons, hsize]
    exact ⟨hpos.1, by omega, hpos.2.2.2⟩
  · simp only [List.forall_mem_append, List.forall_mem_cons, hsize]
    exact ⟨hdvd.1, Nat.dvd_add hdvd.2.1 hdvd.2.2.1, hdvd.2.2.2⟩
  · intro slot hslot
    cases post with
    | nil => simp at hslot
    | cons y rest => exact h.last_used slot (by simpa using hslot)
  · dsimp only
    omega

theorem merge_prev (h : HoleAt (pre ++ [prev]) hole post top) (hprev : prev.used = false) :
    HoleAt pre { prev with size := prev.size + hole.size } post top ∧
      (∀ slot ∈ pre.getLast?, slot.used = true) ∧
        GrownFrom hole { prev with size := prev.size + hole.size } := by
  have htiles := h.tiles
  have hpos := h.size_pos
  have hdvd := h.size_dvd
  rw [List.append_assoc, List.singleton_append] at htiles hpos hdvd
  have hsize := size_add htiles h.top_lt
  simp only [List.forall_mem_append, List.forall_mem_cons] at hpos hdvd
  have hneighbour := (Coalesced.neighbours h.pre_coalesced (by simp [hprev])).1
  have hbefore : prev.offset.toNat + prev.size.toNat = hole.offset.toNat := by
    obtain ⟨mid, -, hstart, hnext, -⟩ := tiles_append.mp htiles
    dsimp only at hstart hnext
    omega
  refine ⟨⟨tiles_merge (x := prev) rfl hsize htiles, ?_, ?_, hprev, h.pre_coalesced.of_append.1,
    h.post_coalesced, h.last_used, h.top_lt⟩, hneighbour, ?_, ?_⟩
  · simp only [List.forall_mem_append, List.forall_mem_cons, hsize]
    exact ⟨hpos.1, by omega, hpos.2.2.2⟩
  · simp only [List.forall_mem_append, List.forall_mem_cons, hsize]
    exact ⟨hdvd.1, Nat.dvd_add hdvd.2.1 hdvd.2.2.1, hdvd.2.2.2⟩
  · dsimp only
    omega
  · dsimp only
    omega

/-! ## The three stages -/

/-- After the first merge a used slot follows, or nothing. -/
theorem stage_next (h : HoleAt pre hole post top) :
    ∃ hole' post',
      (if slotFree (pre ++ hole :: post) (pre.length + 1) then
        absorbNext (pre ++ hole :: post) pre.length else pre ++ hole :: post) =
          pre ++ hole' :: post' ∧
      HoleAt pre hole' post' top ∧ (∀ slot ∈ post'.head?, slot.used = true) ∧
      usedSlots post' = usedSlots post ∧ GrownFrom hole hole' ∧ post'.length ≤ post.length := by
  have hindex : ∀ rest, pre ++ hole :: rest = (pre ++ [hole]) ++ rest := by simp
  cases post with
  | nil =>
      refine ⟨hole, [], ?_, h, by simp, rfl, GrownFrom.refl hole, le_rfl⟩
      simp [slotFree]
  | cons next rest =>
      have hfree : slotFree (pre ++ hole :: next :: rest) (pre.length + 1) = !next.used := by
        have := slotFree_append (pre ++ [hole]) rest next
        simpa using this
      cases hnext : next.used with
      | true =>
          exact ⟨hole, next :: rest, by simp [hfree, hnext], h, by simp [hnext], rfl,
            GrownFrom.refl hole, le_rfl⟩
      | false =>
          obtain ⟨h', hhead, hgrown⟩ := h.merge_next hnext
          refine ⟨_, rest, ?_, h', hhead, ?_, hgrown, by simp⟩
          · simp only [hfree, hnext, Bool.not_false, if_true]
            exact absorbNext_append pre rest hole next
          · exact (usedSlots_cons_free hnext rest).symm

/-- After the second merge a used slot precedes, or nothing. -/
theorem stage_prev (h : HoleAt pre hole post top) :
    ∃ pre' hole',
      (if 0 < pre.length ∧ slotFree (pre ++ hole :: post) (pre.length - 1) then
        absorbNext (pre ++ hole :: post) (pre.length - 1) else pre ++ hole :: post) =
          pre' ++ hole' :: post ∧
      HoleAt pre' hole' post top ∧ (∀ slot ∈ pre'.getLast?, slot.used = true) ∧
      usedSlots pre' = usedSlots pre ∧ GrownFrom hole hole' ∧ pre'.length ≤ pre.length := by
  rcases List.eq_nil_or_concat pre with rfl | ⟨init, prev, rfl⟩
  · exact ⟨[], hole, by simp, h, by simp, rfl, GrownFrom.refl hole, le_rfl⟩
  · rw [List.concat_eq_append] at h ⊢
    have hlength : (init ++ [prev]).length - 1 = init.length := by simp
    have hassoc : init ++ [prev] ++ hole :: post = init ++ prev :: hole :: post := by simp
    have hfree : slotFree (init ++ prev :: hole :: post) init.length = !prev.used :=
      slotFree_append init _ prev
    simp only [hlength, hassoc, hfree]
    cases hprev : prev.used with
    | true =>
        exact ⟨init ++ [prev], hole, by simp, h, by simp [hprev], rfl, GrownFrom.refl hole, le_rfl⟩
    | false =>
        obtain ⟨h', hlast, hgrown⟩ := h.merge_prev hprev
        refine ⟨init, _, ?_, h', hlast, ?_, hgrown, by simp⟩
        · simp only [List.length_append, List.length_singleton, Nat.zero_lt_succ, Bool.not_false,
            and_self, if_true]
          exact absorbNext_append init post prev hole
        · rw [usedSlots_append, usedSlots_cons_free hprev]
          exact (List.append_nil _).symm

end HoleAt

/-! ## Dropping what is free at the end -/

theorem rdropWhile_of_last_used {slots : List BoardSlot}
    (h : ∀ slot ∈ slots.getLast?, slot.used = true) :
    slots.rdropWhile (fun slot => !slot.used) = slots := by
  rw [List.rdropWhile_eq_self_iff]
  intro hne
  have hlast := h (slots.getLast hne) (List.getLast?_eq_some_getLast hne)
  simp [hlast]

theorem boardRecalcTop_eq {s : BoardState} {top : ℕ} (tiles : TilesSlots 0 s.slots top)
    (htop : top < 2 ^ 32) : boardRecalcTop s = { s with boardAllocOffset := UInt32.ofNat top } := by
  rcases List.eq_nil_or_concat s.slots with hnil | ⟨init, last, hconcat⟩
  · rw [hnil] at tiles
    obtain rfl : 0 = top := tiles
    simp [boardRecalcTop, hnil]
  · rw [List.concat_eq_append] at hconcat
    rw [hconcat] at tiles
    have hend : last.offset.toNat + last.size.toNat = top := tiles.end_eq
    have hsum : last.offset + last.size = UInt32.ofNat top := by
      rw [← UInt32.toNat_inj, UInt32.toNat_add, UInt32.toNat_ofNat', hend]
    simp [boardRecalcTop, hconcat, hsum]

/-- A table with a good top is good once the top is recomputed. -/
theorem TableInv.recalcTop {s : BoardState} {top : ℕ} (tiles : TilesSlots 0 s.slots top)
    (htop : top ≤ s.boardMemSize.toNat) (size_pos : ∀ slot ∈ s.slots, 0 < slot.size.toNat)
    (size_dvd : ∀ slot ∈ s.slots, 16 ∣ slot.size.toNat) (coalesced : CoalescedSlots s.slots)
    (last_used : ∀ slot ∈ s.slots.getLast?, slot.used = true)
    (length_le : s.slots.length ≤ maxBoardAllocs) : TableInv (boardRecalcTop s) := by
  have hlt : top < 2 ^ 32 := lt_of_le_of_lt htop s.boardMemSize.toNat_lt
  have hoffset : (UInt32.ofNat top).toNat = top := by
    rw [UInt32.toNat_ofNat']
    exact Nat.mod_eq_of_lt hlt
  rw [boardRecalcTop_eq tiles hlt]
  exact ⟨by rwa [hoffset], size_pos, size_dvd, coalesced, last_used, length_le, by rwa [hoffset]⟩

/-- Between two used neighbours the hole is either inside the table, and stays, or at its
end, and is dropped. -/
theorem HoleAt.drop_trailing {pre post : List BoardSlot} {hole : BoardSlot} {top : ℕ}
    (h : HoleAt pre hole post top) (hhead : ∀ slot ∈ post.head?, slot.used = true)
    (hlast : ∀ slot ∈ pre.getLast?, slot.used = true) {s : BoardState}
    (hslots : s.slots = (pre ++ hole :: post).rdropWhile fun slot => !slot.used)
    (htop : top ≤ s.boardMemSize.toNat) (hlength : (pre ++ hole :: post).length ≤ maxBoardAllocs) :
    TableInv (boardRecalcTop s) ∧
      usedSlots (boardRecalcTop s).slots = usedSlots (pre ++ post) ∧
        HasRoomFor hole (boardRecalcTop s) := by
  have hpos := h.size_pos
  have hdvd := h.size_dvd
  cases post with
  | nil =>
      -- the hole is last: it is dropped, and the top goes down to its start
      obtain ⟨mid, hpre, hhole⟩ := tiles_append.mp h.tiles
      have hmid : mid ≤ top := hhole.le
      have hdrop : s.slots = pre := by
        rw [hslots, List.rdropWhile_concat_pos _ _ _ (by simp [h.free]),
          rdropWhile_of_last_used hlast]
      simp only [List.forall_mem_append] at hpos hdvd
      have hlt : mid < 2 ^ 32 := lt_of_le_of_lt hmid h.top_lt
      subst hdrop
      simp only [List.length_append, List.length_singleton] at hlength
      have hinv := TableInv.recalcTop hpre (hmid.trans htop) hpos.1 hdvd.1 h.pre_coalesced hlast
        (by omega)
      have hstart : hole.offset.toNat = mid := hhole.1
      rw [boardRecalcTop_eq hpre hlt] at hinv ⊢
      refine ⟨hinv, by rw [List.append_nil], Or.inr ⟨?_, ?_⟩⟩
      · dsimp only
        omega
      · dsimp only
        rw [UInt32.toNat_ofNat_of_lt' hlt, hstart]
  | cons next rest =>
      -- a used slot is last, and the table stays as it is
      have hend : ∀ slot ∈ (pre ++ hole :: next :: rest).getLast?, slot.used = true := by
        intro slot hslot
        refine h.last_used slot ?_
        rwa [List.getLast?_append_of_ne_nil _ (by simp), List.getLast?_cons_cons] at hslot
      have hkeep : s.slots = pre ++ hole :: next :: rest := by
        rw [hslots, rdropWhile_of_last_used hend]
      have hcoalesced := h.pre_coalesced.insert_free (x := hole) h.post_coalesced hlast hhead
      rw [← hkeep] at hpos hdvd hcoalesced hend hlength
      have htiles := h.tiles
      rw [← hkeep] at htiles
      have hinv := TableInv.recalcTop htiles htop hpos hdvd hcoalesced hend hlength
      rw [boardRecalcTop_eq htiles h.top_lt] at hinv ⊢
      refine ⟨hinv, ?_, Or.inl ⟨hole, ?_, h.free, le_rfl⟩⟩
      · dsimp only
        rw [hkeep, usedSlots_append, usedSlots_cons_free h.free, usedSlots_append]
      · dsimp only
        rw [hkeep]
        simp

theorem HasRoomFor.of_grown {hole hole' : BoardSlot} {s : BoardState} (h : HasRoomFor hole' s)
    (hgrown : GrownFrom hole hole') : HasRoomFor hole s := by
  rcases h with ⟨slot, hslot, hfree, hsize⟩ | ⟨hlength, htop⟩
  · exact Or.inl ⟨slot, hslot, hfree, hgrown.size_le.trans hsize⟩
  · exact Or.inr ⟨hlength, htop.trans hgrown.offset_le⟩

/-- What `board_coalesce_at` makes of a hole: a good table with the same used slots, and with
room for what was released. -/
theorem HoleAt.boardCoalesceAt {pre post : List BoardSlot} {hole : BoardSlot} {top : ℕ}
    (h : HoleAt pre hole post top) {s : BoardState} (hslots : s.slots = pre ++ hole :: post)
    (htop : top ≤ s.boardMemSize.toNat) (hlength : s.slots.length ≤ maxBoardAllocs) :
    TableInv (VirtIOGPU.boardCoalesceAt s pre.length) ∧
      usedSlots (VirtIOGPU.boardCoalesceAt s pre.length).slots = usedSlots (pre ++ post) ∧
        HasRoomFor hole (VirtIOGPU.boardCoalesceAt s pre.length) := by
  obtain ⟨hole₁, post₁, hstage₁, h₁, hhead, hused₁, hgrown₁, hshort₁⟩ := h.stage_next
  obtain ⟨pre₂, hole₂, hstage₂, h₂, hlast, hused₂, hgrown₂, hshort₂⟩ := h₁.stage_prev
  rw [hslots] at hlength
  simp only [VirtIOGPU.boardCoalesceAt, hslots, hstage₁, hstage₂]
  simp only [List.length_append, List.length_cons] at hlength
  obtain ⟨inv, hused, hroom⟩ := h₂.drop_trailing hhead hlast (s := { s with slots := _ }) rfl htop
    (by simp only [List.length_append, List.length_cons]; omega)
  refine ⟨inv, hused.trans ?_, (hroom.of_grown hgrown₂).of_grown hgrown₁⟩
  rw [usedSlots_append, hused₁, hused₂, usedSlots_append]

/-! ## `board_free` -/

/-- The two ways a call of `board_free` can end. -/
theorem boardFree_cases (s : BoardState) (mem : UInt32) :
    (boardFree s mem = (false, s) ∧ (s.boardMem = 0 ∨ mem = 0 ∨
        ∀ slot ∈ s.slots, slot.used = true → slot.offset ≠ mem - s.boardMem)) ∨
      ∃ pre post slot, s.slots = pre ++ slot :: post ∧ slot.used = true ∧
        slot.offset = mem - s.boardMem ∧
        boardFree s mem = (true, boardCoalesceAt
          { s with slots := pre ++ { slot with used := false } :: post } pre.length) := by
  unfold boardFree
  split
  · rename_i hnull
    exact Or.inl ⟨rfl, hnull.imp_right Or.inl⟩
  · cases hfind : s.slots.findIdx? fun slot => slot.offset = mem - s.boardMem && slot.used with
    | none =>
        refine Or.inl ⟨by simp only [hfind], Or.inr (Or.inr fun slot hslot hused hoffset => ?_)⟩
        have hno := List.findIdx?_eq_none_iff.mp hfind slot hslot
        simp [hoffset, hused] at hno
    | some i =>
        obtain ⟨hi, hmatch, -⟩ := List.findIdx?_eq_some_iff_getElem.mp hfind
        rw [Bool.and_eq_true, decide_eq_true_eq] at hmatch
        have hsplit : s.slots = s.slots.take i ++ s.slots[i] :: s.slots.drop (i + 1) := by
          rw [List.getElem_cons_drop, List.take_append_drop]
        have hlength : (s.slots.take i).length = i := List.length_take_of_le hi.le
        refine Or.inr ⟨_, _, _, hsplit, hmatch.2, hmatch.1, ?_⟩
        simp only [hfind, hlength]
        rw [List.modify_eq_take_cons_drop hi]

theorem TableInv.holeAt {s : BoardState} (inv : TableInv s) {pre post : List BoardSlot}
    {slot : BoardSlot} (hslots : s.slots = pre ++ slot :: post) :
    HoleAt pre { slot with used := false } post s.boardAllocOffset.toNat := by
  obtain ⟨tiles, size_pos, size_dvd, coalesced, last_used, -, -⟩ := inv
  rw [hslots] at tiles size_pos size_dvd coalesced last_used
  obtain ⟨hpre, hrest⟩ := coalesced.of_append
  refine ⟨(tiles_replace (x := slot) (y := { slot with used := false }) rfl rfl).mpr tiles, ?_, ?_,
    rfl, hpre, hrest.tail, ?_, s.boardAllocOffset.toNat_lt⟩
  · simp only [List.forall_mem_append, List.forall_mem_cons] at size_pos ⊢
    exact size_pos
  · simp only [List.forall_mem_append, List.forall_mem_cons] at size_dvd ⊢
    exact size_dvd
  · intro last hlast
    cases post with
    | nil => simp at hlast
    | cons next rest =>
        refine last_used last ?_
        rwa [List.getLast?_append_of_ne_nil _ (by simp), List.getLast?_cons_cons]

/-- No slot before or after `slot` starts where it does. -/
theorem TableInv.offset_ne {s : BoardState} (inv : TableInv s) {pre post : List BoardSlot}
    {slot other : BoardSlot} (hslots : s.slots = pre ++ slot :: post)
    (hother : other ∈ pre ++ post) :
    other.offset ≠ slot.offset := by
  have htiles := inv.tiles
  have hpos := inv.size_pos
  rw [hslots] at htiles hpos
  simp only [List.forall_mem_append, List.forall_mem_cons] at hpos
  have hpos' : 0 < other.size.toNat :=
    (List.mem_append.mp hother).elim (hpos.1 other) (hpos.2.2 other)
  intro heq
  have hapart := htiles.apart (List.mem_append.mp hother)
  rw [heq] at hapart
  omega

/-- `board_free` keeps the invariant and every used slot but the one it was asked for, for which
there is room afterwards. -/
theorem TableInv.boardFree_spec {s : BoardState} (inv : TableInv s) {pre post : List BoardSlot}
    {slot : BoardSlot} (hslots : s.slots = pre ++ slot :: post) {t : BoardState}
    (heq : t = boardCoalesceAt
      { s with slots := pre ++ { slot with used := false } :: post } pre.length) :
    TableInv t ∧ usedSlots t.slots = usedSlots (pre ++ post) ∧ HasRoomFor slot t := by
  have hlength := inv.length_le
  rw [hslots] at hlength
  rw [heq]
  exact (inv.holeAt hslots).boardCoalesceAt
    (s := { s with slots := pre ++ { slot with used := false } :: post }) rfl inv.top_le
    (by simpa using hlength)

theorem TableInv.boardFree {s : BoardState} (inv : TableInv s) (mem : UInt32) :
    TableInv (VirtIOGPU.boardFree s mem).2 ∧
      ∀ slot ∈ s.slots, slot.used = true →
        slot.offset ≠ mem - s.boardMem ∨ (VirtIOGPU.boardFree s mem).1 = false →
        slot ∈ (VirtIOGPU.boardFree s mem).2.slots := by
  rcases boardFree_cases s mem with ⟨heq, -⟩ | ⟨pre, post, slot, hslots, -, hoffset, heq⟩
  · rw [heq]
    exact ⟨inv, fun slot hslot _ _ => hslot⟩
  · obtain ⟨inv', hkept, -⟩ := inv.boardFree_spec hslots rfl
    rw [heq]
    refine ⟨inv', fun other hother hused hcase => ?_⟩
    have hne : other ≠ slot := by
      rintro rfl
      rcases hcase with hne | hfalse
      · exact hne hoffset
      · simp at hfalse
    have hmem : other ∈ usedSlots (pre ++ post) := by
      rw [hslots] at hother
      refine mem_usedSlots.mpr ⟨?_, hused⟩
      rcases List.mem_append.mp hother with hmem | hmem
      · exact List.mem_append_left _ hmem
      · exact List.mem_append_right _ ((List.mem_cons.mp hmem).resolve_left hne)
    rw [← hkept] at hmem
    exact (mem_usedSlots.mp hmem).1

end VirtIOGPU
