import VirtIOGPU.Board.Reclaim
import VirtIOGPU.Drawing.Footprint

/-!
# Bitmaps do not disturb each other

Bitmaps live in blocks of board memory that rtg.library takes with `AllocCardMem`, gives back with
`FreeCardMem` and draws into.  Over every run of these calls a block that is neither given back nor
drawn into stays in use and keeps its contents, and nothing is written outside board memory
(`bitmaps_isolated`).

This puts together that blocks in use do not overlap (`Board`) and that drawing stays inside the
rows of its bitmap (`DrawCall.perform_confined`).

## Strategy

`CardMem.Sound` is the invariant of the allocator, in the form that drawing needs: a block in use
has a place in board memory, and two of them are apart.

```text
action         blocks in use                 memory
AllocCardMem   one more, apart from others   stays
FreeCardMem    one fewer                     stays
drawing        stay                          changes inside one block (`DrawCall.perform_confined`)
```

`keeps_step` says of one step that a block that it does not touch keeps its contents and its place.
Since the run only has such steps for the block in question, `run_keeps` is the induction over it.
-/

namespace VirtIOGPU.Drawing

open Lib Lib.Memory Lib.Tiling

/-! ## The machine -/

/-- Board memory: its allocator, and what is in it. -/
structure Session where
  card : CardMem
  mem : Mem UInt8

inductive SessionAction where
  | card (action : BoardAction)
  /-- A call for a bitmap of `width` by `height` pixels in the block at `block`. -/
  | draw (block : UInt32) (ri : RenderInfo) (width height : ℕ) (call : DrawCall)

def Session.step (exec : ExecIFace) (s : Session) : SessionAction → Option Session
  | .card action => (s.card.step action).map fun card => { s with card }
  | .draw _ ri _ _ call => some { s with mem := call.perform exec ri s.mem }

/-- The rows of the bitmap lie in a block that is in use. -/
def CardMem.Holds (s : CardMem) (block : UInt32) (ri : RenderInfo) (height : ℕ) : Prop :=
  ∃ size, (block, size) ∈ s.live ∧ block.toNat ≤ ri.memory ∧
    ri.memory + height * ri.bytesPerRow ≤ block.toNat + size.toNat

/-- Requests do not wrap around 32 bits, and drawing is inside a bitmap of a block in use. -/
def Session.Permits (s : Session) : SessionAction → Prop
  | .card action => AtAlloc (fun s => NoWrap s.board) s.card action
  | .draw block ri width height call =>
      CardMem.Holds s.card block ri height ∧ IsSurface ri (call.bpp ri) width height ∧
        call.Inside ri width height

/-- The action gives the block back, or draws into it. -/
def SessionAction.Touches (block : UInt32) : SessionAction → Prop
  | .card (.alloc _) => False
  | .card (.free mem) => mem = block
  | .draw target _ _ _ _ => target = block

def Session.initial (boardMem boardMemSize : UInt32) (mem : Mem UInt8) : Session :=
  ⟨CardMem.initial boardMem boardMemSize, mem⟩

/-! ## Blocks in use -/

/-- The allocator is in order, and board memory is still where it was. -/
structure CardMem.Sound (boardMem boardMemSize : UInt32) (s : CardMem) : Prop where
  inv : CardInv s
  boardMem : s.board.boardMem = boardMem
  boardMemSize : s.board.boardMemSize = boardMemSize

variable {boardMem boardMemSize : UInt32}

namespace CardMem.Sound

variable {s t : CardMem}

theorem initial (hmem : boardMem.toNat + boardMemSize.toNat ≤ 2 ^ 32) :
    CardMem.Sound boardMem boardMemSize (CardMem.initial boardMem boardMemSize) :=
  ⟨(Accounted.initial hmem).card, rfl, rfl⟩

theorem step {action : BoardAction} (h : CardMem.Sound boardMem boardMemSize s)
    (hpermitted : AtAlloc (fun s => NoWrap s.board) s action) (hstep : s.step action = some t) :
    CardMem.Sound boardMem boardMemSize t := by
  cases action with
  | alloc size =>
      refine ⟨h.inv.alloc hpermitted hstep, ?_, ?_⟩ <;> obtain rfl := Option.some.inj hstep <;>
        unfold chipAllocCardMem <;> split
      · exact h.boardMem
      · exact (boardAlloc_config s.board size).1.trans h.boardMem
      · exact h.boardMemSize
      · exact (boardAlloc_config s.board size).2.trans h.boardMemSize
  | free mem =>
      refine ⟨h.inv.free hstep, ?_, ?_⟩ <;> obtain rfl := Option.some.inj hstep
      · exact (boardFree_config s.board mem).1.trans h.boardMem
      · exact (boardFree_config s.board mem).2.trans h.boardMemSize

/-- Where a block in use lies: it is the front of a slot. -/
theorem place (h : CardMem.Sound boardMem boardMemSize s) {block size : UInt32}
    (hlive : (block, size) ∈ s.live) :
    ∃ slot ∈ s.board.slots, block.toNat = boardMem.toNat + slot.offset.toNat ∧
      size.toNat ≤ slot.size.toNat ∧
      slot.offset.toNat + slot.size.toNat ≤ boardMemSize.toNat := by
  obtain ⟨slot, hslot, -, hptr, hsize⟩ := h.inv.live _ hlive
  have hfits := h.inv.fits
  have hend := (h.inv.table.slot_end_le hslot).trans h.inv.table.top_le
  have hpos := h.inv.table.size_pos slot hslot
  rw [h.boardMem, h.boardMemSize] at hfits
  rw [h.boardMemSize] at hend
  dsimp only at hptr hsize
  rw [h.boardMem] at hptr
  refine ⟨slot, hslot, ?_, hsize, hend⟩
  rw [hptr, UInt32.toNat_add, Nat.mod_eq_of_lt (by omega)]

/-- Blocks in use with different addresses do not overlap. -/
theorem apart (h : CardMem.Sound boardMem boardMemSize s) {block size block' size' : UInt32}
    (hlive : (block, size) ∈ s.live) (hlive' : (block', size') ∈ s.live) (hne : block ≠ block') :
    block.toNat + size.toNat ≤ block'.toNat ∨ block'.toNat + size'.toNat ≤ block.toNat := by
  obtain ⟨slot, hslot, hptr, hsize, -⟩ := h.place hlive
  obtain ⟨slot', hslot', hptr', hsize', -⟩ := h.place hlive'
  have hslots : slot' ≠ slot := by
    rintro rfl
    exact hne (UInt32.toNat_inj.mp (hptr.trans hptr'.symm))
  obtain ⟨pre, post, hsplit⟩ := List.append_of_mem hslot
  have htiles := h.inv.table.tiles
  rw [hsplit] at htiles hslot'
  have hother : slot' ∈ pre ∨ slot' ∈ post :=
    (List.mem_append.mp hslot').imp_right fun hmem => (List.mem_cons.mp hmem).resolve_left hslots
  have hapart := htiles.apart hother
  omega

/-- A block stays in use until it is given back. -/
theorem live_step {action : BoardAction} (hstep : s.step action = some t) {block size : UInt32}
    (hlive : (block, size) ∈ s.live) (hkept : ¬ (SessionAction.card action).Touches block) :
    (block, size) ∈ t.live := by
  cases action with
  | alloc size' =>
      obtain rfl := Option.some.inj hstep
      dsimp only
      split
      · exact hlive
      · exact List.mem_append_left _ hlive
  | free mem =>
      obtain rfl := Option.some.inj hstep
      dsimp only
      split
      · exact List.mem_filter.mpr ⟨hlive, decide_eq_true fun heq => hkept heq.symm⟩
      · exact hlive

end CardMem.Sound

/-! ## One step -/

section

variable {exec : ExecIFace} {s t : Session} {action : SessionAction}

theorem sound_step (h : CardMem.Sound boardMem boardMemSize s.card) (hpermitted : s.Permits action)
    (hstep : s.step exec action = some t) : CardMem.Sound boardMem boardMemSize t.card := by
  cases action with
  | card action =>
      obtain ⟨card, hcard, rfl⟩ := Option.map_eq_some_iff.mp hstep
      exact h.step hpermitted hcard
  | draw block ri width height call =>
      obtain rfl := Option.some.inj hstep
      exact h

/-- What a step leaves alone. -/
theorem mem_step (hpermitted : s.Permits action) (hstep : s.step exec action = some t) {a : ℕ}
    (ha : ∀ block size, (block, size) ∈ s.card.live → action.Touches block →
      a < block.toNat ∨ block.toNat + size.toNat ≤ a) : t.mem a = s.mem a := by
  cases action with
  | card action =>
      obtain ⟨card, -, rfl⟩ := Option.map_eq_some_iff.mp hstep
      rfl
  | draw block ri width height call =>
      obtain rfl := Option.some.inj hstep
      obtain ⟨⟨size, hlive, hfirst, hlast⟩, hsurface, hinside⟩ := hpermitted
      have hout := ha block size hlive rfl
      exact call.perform_confined exec hsurface hinside a (by omega)

/-- The block is in use, and the memory in it is `m`. -/
def Session.Keeps (block size : UInt32) (m : Mem UInt8) (s : Session) : Prop :=
  (block, size) ∈ s.card.live ∧
    ∀ a, block.toNat ≤ a → a < block.toNat + size.toNat → s.mem a = m a

theorem keeps_step (h : CardMem.Sound boardMem boardMemSize s.card) {block size : UInt32}
    {m : Mem UInt8} (hkeeps : s.Keeps block size m) (hpermitted : s.Permits action)
    (huntouched : ¬ action.Touches block) (hstep : s.step exec action = some t) :
    t.Keeps block size m := by
  obtain ⟨hlive, hmem⟩ := hkeeps
  constructor
  · cases action with
    | card action =>
        obtain ⟨card, hcard, rfl⟩ := Option.map_eq_some_iff.mp hstep
        exact CardMem.Sound.live_step hcard hlive huntouched
    | draw target ri width height call =>
        obtain rfl := Option.some.inj hstep
        exact hlive
  · intro a hfirst hlast
    refine (mem_step hpermitted hstep fun block' size' hlive' htouches => ?_).trans
      (hmem a hfirst hlast)
    have hne : block ≠ block' := by
      rintro rfl
      exact huntouched htouches
    have hapart := h.apart hlive hlive' hne
    omega

/-- Nothing outside board memory differs from `m`. -/
theorem outside_step (h : CardMem.Sound boardMem boardMemSize s.card)
    (hpermitted : s.Permits action) (hstep : s.step exec action = some t) {a : ℕ}
    (ha : a < boardMem.toNat ∨ boardMem.toNat + boardMemSize.toNat ≤ a) : t.mem a = s.mem a := by
  refine mem_step hpermitted hstep fun block size hlive _ => ?_
  obtain ⟨slot, -, hptr, hsize, hend⟩ := h.place hlive
  omega

end

/-! ## Every run -/

section

variable {exec : ExecIFace} {s t : Session} {actions : List SessionAction}

/-- Along a run, the allocator and the memory around the board. -/
theorem run_sound (hs : CardMem.Sound boardMem boardMemSize s.card)
    (hwithin : Machine.Within (Session.step exec) Session.Permits s actions)
    (hrun : Machine.run (Session.step exec) s actions = some t) :
    CardMem.Sound boardMem boardMemSize t.card ∧
      ∀ a, a < boardMem.toNat ∨ boardMem.toNat + boardMemSize.toNat ≤ a → t.mem a = s.mem a := by
  refine Machine.run_invariant (I := fun u : Session => CardMem.Sound boardMem boardMemSize u.card ∧
    ∀ a, a < boardMem.toNat ∨ boardMem.toNat + boardMemSize.toNat ≤ a → u.mem a = s.mem a) ?_
    ⟨hs, fun _ _ => rfl⟩ hwithin hrun
  rintro u action v ⟨hsound, houtside⟩ hpermitted hstep
  refine ⟨sound_step hsound hpermitted hstep, fun a ha => ?_⟩
  exact (outside_step hsound hpermitted hstep ha).trans (houtside a ha)

/-- Along a run that does not touch the block. -/
theorem run_keeps (hs : CardMem.Sound boardMem boardMemSize s.card) {block size : UInt32}
    {m : Mem UInt8} (hkeeps : s.Keeps block size m)
    (hwithin : Machine.Within (Session.step exec) Session.Permits s actions)
    (huntouched : ∀ action ∈ actions, ¬ action.Touches block)
    (hrun : Machine.run (Session.step exec) s actions = some t) : t.Keeps block size m := by
  induction actions generalizing s with
  | nil =>
      obtain rfl : s = t := by simpa using hrun
      exact hkeeps
  | cons action rest ih =>
      obtain ⟨u, hstep, hrest⟩ := Machine.run_cons_eq_some.mp hrun
      obtain ⟨hpermitted, hlater⟩ := hwithin
      have hfirst := huntouched action (List.mem_cons_self ..)
      exact ih (sound_step hs hpermitted hstep) (keeps_step hs hkeeps hpermitted hfirst hstep)
        (hlater u hstep) (fun later hmem => huntouched later (List.mem_cons_of_mem _ hmem)) hrest

end

/-- For every run in which requests do not wrap and each drawing call is for a bitmap in a block in
use: from any of its states on, a block in use that is not touched stays in use with what is in it;
blocks in use do not overlap and lie in board memory; and the memory around board memory is never
written. -/
theorem bitmaps_isolated (exec : ExecIFace) (boardMem boardMemSize : UInt32)
    (hmem : boardMem.toNat + boardMemSize.toNat ≤ 2 ^ 32) (m : Mem UInt8)
    (earlier later : List SessionAction) {s t : Session}
    (hearlier : Machine.Within (Session.step exec) Session.Permits
      (Session.initial boardMem boardMemSize m) earlier)
    (hreached : Machine.run (Session.step exec) (Session.initial boardMem boardMemSize m) earlier =
      some s)
    (hlater : Machine.Within (Session.step exec) Session.Permits s later)
    (hrun : Machine.run (Session.step exec) s later = some t) :
    (∀ block size, (block, size) ∈ s.card.live → (∀ action ∈ later, ¬ action.Touches block) →
      (block, size) ∈ t.card.live ∧
        ∀ a, block.toNat ≤ a → a < block.toNat + size.toNat → t.mem a = s.mem a) ∧
      (∀ block size block' size', (block, size) ∈ t.card.live → (block', size') ∈ t.card.live →
        block ≠ block' → block.toNat + size.toNat ≤ block'.toNat ∨
          block'.toNat + size'.toNat ≤ block.toNat) ∧
      ∀ a, a < boardMem.toNat ∨ boardMem.toNat + boardMemSize.toNat ≤ a → t.mem a = m a := by
  have hinitial : CardMem.Sound boardMem boardMemSize
      (Session.initial boardMem boardMemSize m).card := CardMem.Sound.initial hmem
  obtain ⟨hsound, houtside⟩ := run_sound hinitial hearlier hreached
  obtain ⟨hsound', houtside'⟩ := run_sound hsound hlater hrun
  refine ⟨fun block size hlive huntouched => ?_, ?_, fun a ha => ?_⟩
  · have hkeeps : s.Keeps block size s.mem := ⟨hlive, fun _ _ _ => rfl⟩
    exact run_keeps hsound hkeeps hlater huntouched hrun
  · exact fun block size block' size' hlive hlive' hne => hsound'.apart hlive hlive' hne
  · exact (houtside' a ha).trans (houtside a ha)

/-- Two blocks of 64 bytes; a rectangle is filled in the second one, which is then given back. -/
theorem bitmaps_isolated_two :
    let m : Mem UInt8 := fun a => UInt8.ofNat a
    ∃ s t, Machine.run (Session.step wholeCopy) (Session.initial 0x10000000 0x08000000 m)
        [.card (.alloc 64), .card (.alloc 64)] = some s ∧
      Machine.run (Session.step wholeCopy) s
        [.draw 0x10000040 ⟨0x10000040, 8, .clut⟩ 8 8 (.fillRect ⟨1, 1, 2, 2⟩ 7 .clut),
          .card (.free 0x10000040)] = some t ∧
      (0x10000000, 64) ∈ t.card.live ∧ t.mem 0x1000003F = m 0x1000003F := by
  intro m
  have hearlier : Machine.Within (Session.step wholeCopy) Session.Permits
      (Session.initial 0x10000000 0x08000000 m) [.card (.alloc 64), .card (.alloc 64)] := by
    refine ⟨⟨by decide, fun _ => by decide⟩, fun s hstep => ?_⟩
    obtain rfl := Option.some.inj hstep
    exact ⟨⟨by decide, fun _ => by decide⟩, fun _ _ => trivial⟩
  have hinside : (⟨1, 1, 2, 2⟩ : Rect).Within 8 8 := ⟨by decide, by decide⟩
  refine ⟨_, _, rfl, rfl, ?_⟩
  obtain ⟨hkept, -, -⟩ := bitmaps_isolated wholeCopy 0x10000000 0x08000000 (by decide) m _
    [.draw 0x10000040 ⟨0x10000040, 8, .clut⟩ 8 8 (.fillRect ⟨1, 1, 2, 2⟩ 7 .clut),
      .card (.free 0x10000040)] hearlier rfl
    ⟨⟨⟨64, by decide, by decide, by decide⟩, ⟨by decide, by decide, by decide⟩, by decide, hinside⟩,
      fun _ _ => ⟨trivial, fun _ _ => trivial⟩⟩ rfl
  obtain ⟨hlive, hmem⟩ := hkept 0x10000000 64 (by decide) fun action haction => by
    rcases List.mem_pair.mp haction with rfl | rfl
    · exact (by decide : (0x10000040 : UInt32) ≠ 0x10000000)
    · exact (by decide : (0x10000040 : UInt32) ≠ 0x10000000)
  exact ⟨hlive, hmem 0x1000003F (by decide) (by decide)⟩

end VirtIOGPU.Drawing
