import Mathlib.Data.List.DropRight
import VirtIOGPU.Lib.Machine

/-!
# The board-memory allocator

`board_alloc` and `board_free` of `chip_alloc.c`, and the callbacks
`chip_AllocCardMem` and `chip_FreeCardMem` over them.

The list `slots` is the part of `board_allocs` below `num_board_allocs`; the loops
that move array elements one place up or down insert into it and erase from it.
Offsets and sizes are 32-bit and wrap as in C.  A pointer is an address, `0` is
`NULL`.  The mutex makes every call one step.
-/

namespace VirtIOGPU

/-- `MAX_BOARD_ALLOCS`. -/
def maxBoardAllocs : ℕ := 512

structure BoardSlot where
  /-- Offset within `board_mem`. -/
  offset : UInt32
  /-- Aligned size. -/
  size : UInt32
  used : Bool
  deriving DecidableEq, Repr

structure BoardState where
  boardMem : UInt32
  boardMemSize : UInt32
  boardAllocOffset : UInt32
  slots : List BoardSlot
  deriving DecidableEq, Repr

/-- The empty table. -/
def BoardState.initial (boardMem boardMemSize : UInt32) : BoardState :=
  ⟨boardMem, boardMemSize, 0, []⟩

/-! ## Releasing -/

def boardRecalcTop (s : BoardState) : BoardState :=
  match s.slots.getLast? with
  | none => { s with boardAllocOffset := 0 }
  | some last => { s with boardAllocOffset := last.offset + last.size }

/-- There is a slot `i` and it is free. -/
def slotFree (slots : List BoardSlot) (i : ℕ) : Bool :=
  match slots[i]? with
  | none => false
  | some slot => !slot.used

/-- Add the size of slot `i + 1` to slot `i` and move the slots above it down. -/
def absorbNext (slots : List BoardSlot) (i : ℕ) : List BoardSlot :=
  match slots[i]?, slots[i + 1]? with
  | some slot, some next =>
      (slots.set i { slot with size := slot.size + next.size }).eraseIdx (i + 1)
  | _, _ => slots

/-- `board_coalesce_at`. -/
def boardCoalesceAt (s : BoardState) (i : ℕ) : BoardState :=
  -- merge with the successor
  let slots := if slotFree s.slots (i + 1) then absorbNext s.slots i else s.slots
  -- merge with the predecessor
  let slots := if 0 < i ∧ slotFree slots (i - 1) then absorbNext slots (i - 1) else slots
  -- drop trailing free slots
  boardRecalcTop { s with slots := slots.rdropWhile fun slot => !slot.used }

/-- `board_free`; the first component says whether the pointer was found. -/
def boardFree (s : BoardState) (mem : UInt32) : Bool × BoardState :=
  if s.boardMem = 0 ∨ mem = 0 then (false, s)
  else
    let targetOffset := mem - s.boardMem
    match s.slots.findIdx? fun slot => slot.offset = targetOffset && slot.used with
    | none => (false, s)
    | some i =>
        (true, boardCoalesceAt
          { s with slots := s.slots.modify i fun slot => { slot with used := false } } i)

/-! ## Allocating -/

/-- The size that `board_alloc` works with. -/
def boardRound (size : UInt32) : UInt32 :=
  let size := (size + 15) &&& ~~~15
  if size = 0 then 16 else size

/-- The first-fit scan: the offset of the hole taken and the new table.  `room` says
that the table can hold another slot. -/
def takeHole (room : Bool) (size : UInt32) : List BoardSlot → Option (UInt32 × List BoardSlot)
  | [] => none
  | slot :: rest =>
      if slot.used || slot.size < size then
        (takeHole room size rest).map fun taken => (taken.1, slot :: taken.2)
      else if slot.size = size then
        some (slot.offset, { slot with used := true } :: rest)
      else if room then
        -- split: the used part comes first
        some (slot.offset, { slot with size := size, used := true } ::
          { slot with offset := slot.offset + size, size := slot.size - size } :: rest)
      else
        -- the table is full: take the whole hole
        some (slot.offset, { slot with used := true } :: rest)

/-- `board_alloc`. -/
def boardAlloc (s : BoardState) (size : UInt32) : UInt32 × BoardState :=
  let size := boardRound size
  match takeHole (decide (s.slots.length < maxBoardAllocs)) size s.slots with
  | some (offset, slots) => (s.boardMem + offset, { s with slots := slots })
  | none =>
      if s.boardMemSize < s.boardAllocOffset + size then (0, s)
      else if maxBoardAllocs ≤ s.slots.length then (0, s)
      else
        let offset := s.boardAllocOffset
        (s.boardMem + offset,
          { s with
            slots := s.slots ++ [{ offset := offset, size := size, used := true }]
            boardAllocOffset := offset + size })

/-! ## The callbacks -/

/-- `chip_AllocCardMem`; `visible` and `display` are not used. -/
def chipAllocCardMem (s : BoardState) (size : UInt32) : UInt32 × BoardState :=
  if s.boardMem = 0 then (0, s) else boardAlloc s size

/-- `chip_FreeCardMem`. -/
def chipFreeCardMem (s : BoardState) (mem : UInt32) : Bool × BoardState :=
  boardFree s mem

/-! ## Runs -/

inductive BoardAction where
  | alloc (size : UInt32)
  | free (mem : UInt32)
  deriving DecidableEq, Repr

/-- Runs of `board_alloc` and `board_free`. -/
def BoardState.step (s : BoardState) : BoardAction → Option BoardState
  | .alloc size => some (boardAlloc s size).2
  | .free mem => some (boardFree s mem).2

/-- Board memory as its users see it: the table, and the pointers handed out and not
given back with the sizes that were asked for. -/
structure CardMem where
  board : BoardState
  live : List (UInt32 × UInt32)
  deriving DecidableEq, Repr

/-- Runs of `AllocCardMem` and `FreeCardMem`. -/
def CardMem.step (s : CardMem) : BoardAction → Option CardMem
  | .alloc size =>
      let res := chipAllocCardMem s.board size
      some { board := res.2, live := if res.1 = 0 then s.live else s.live ++ [(res.1, size)] }
  | .free mem =>
      let res := chipFreeCardMem s.board mem
      some
        { board := res.2
          live := if res.1 then s.live.filter fun block => block.1 ≠ mem else s.live }

end VirtIOGPU
