import VirtIOGPU.Board.Runs
import VirtIOGPU.Card.Resize

/-!
# Who owns the board memory

When the allocation of board memory fails, `chip_InitCard_C` lets `board_mem` be the block of
the frame buffer.  A mode change releases that block as the old frame buffer, and `board_mem`
still points to it.  Every other run keeps the block of `board_mem`: the allocator of
`AllocCardMem` hands out parts of it and never the block itself.

## Strategy

The invariant `BoardKept` has the block, its size and the published base.  A call touches them as
follows.

```text
call              board_mem is a block of its own   board_mem is fb_mem
SetGC, published  kept                              the block is released
SetGC otherwise   kept                              kept
AllocCardMem      kept                              kept
FreeCardMem       kept                              kept
```

Through the mode change a block other than the old frame buffer is followed with `Block`, one lemma
per part as in `Card.AllOrNothing`; the condition `OwnBlock` is that one entry of the table.
-/

namespace VirtIOGPU.Card

open Lib.Machine Lib.Hoare

/-! ## Blocks and the published base across a mode change -/

section Frame

variable {n : ℕ} {size : UInt32} {env : ResizeEnv} {gs : GpuState}

theorem failDma_block {mem : ℕ} (hne : n ≠ mem) (size' : UInt32) (list : ℕ) (gs : GpuState) :
    Triple (Block n size) (failDma mem size' list gs) fun r c => r = (false, gs) ∧ Block n size c :=
  Triple.bind (giveBack_block (by simp)) fun _ => Triple.bind (giveBack_block (by simp)) fun _ =>
    Triple.bind (giveBack_block (by simpa using hne)) fun _ => Triple.ret fun _ hc => ⟨rfl, hc⟩

/-- The release of the old frame buffer keeps every other block. -/
theorem releaseOld_block {old : GpuState} (hne : n ≠ old.fbMem) :
    Triple (Block n size) (releaseOld env old) fun _ => Block n size := by
  unfold releaseOld
  have hunref : Keeps (onlyIf (old.fbResourceId ≠ 0) do
      let _ ← chipResourceUnref old.fbResourceId env.unrefOld) :=
    Keeps.onlyIf (Keeps.bind (Keeps.gpuCommand _ _) fun _ => Keeps.ret _)
  refine Triple.bind (hunref n size) fun _ => ?_
  refine Triple.bind (Triple.onlyIf (fun _ => giveBack_block (by simp)) fun _ _ hc => hc)
    fun _ => Triple.onlyIf (fun _ => ?_) fun _ _ hc => hc
  exact Triple.bind (giveBack_block (by simp)) fun _ => giveBack_block (by simpa using hne)

theorem switchResource_keeps (env : ResizeEnv) (id w h : UInt32) :
    Keeps (switchResource env id w h) := by
  have hundo : Keeps (do
      let _ ← chipResourceUnref id env.unrefNew
      return false) := Keeps.bind (Keeps.gpuCommand _ _) fun _ => Keeps.ret _
  exact Keeps.bind (Keeps.createCommand _ _ _) fun _ => Keeps.ite (Keeps.ret _) <|
    Keeps.bind (Keeps.gpuCommand _ _) fun _ => Keeps.ite hundo <|
    Keeps.bind (Keeps.setScanoutAttempts _ _ _) fun _ => Keeps.ite hundo (Keeps.ret _)

/-- A resize that fails keeps every block; one that succeeds keeps all but the old frame
buffer. -/
theorem chipResizeFbToMode_block (gs : GpuState) (w h : UInt32) (env : ResizeEnv) :
    Triple (Block n size) (chipResizeFbToMode gs w h env) fun r c =>
      (n = gs.fbMem ∧ gs.NeedsResize w h ∧ r.1 = true) ∨ Block n size c := by
  unfold chipResizeFbToMode
  refine Triple.ite (fun _ => Triple.ret fun _ hc => Or.inr hc) fun hdims => ?_
  refine Triple.ite (fun _ => Triple.ret fun _ hc => Or.inr hc) fun hsame => ?_
  refine Triple.bind (allocVec_block _ _ n size) fun mem => ?_
  refine Triple.ite (fun _ => Triple.ret fun _ hc => Or.inr hc.1) fun hmem => ?_
  refine Triple.weaken (S := fun c => n ≠ mem ∧ Block n size c) (Triple.fact fun hne => ?_)
    fun c hc => ⟨(hc.2 hmem).symm, hc.1⟩
  have hfree : Triple (Block n size) (freeVec mem) fun _ => Block n size :=
    giveBack_block (by simpa using hne)
  have hback {gs' : GpuState} : Triple (Block n size) (do
      freeVec mem
      return (false, gs'))
      fun r c => (n = gs.fbMem ∧ gs.NeedsResize w h ∧ r.1 = true) ∨ Block n size c :=
    Triple.bind hfree fun _ => Triple.ret fun _ hc => Or.inr hc
  refine Triple.bind (Keeps.startDma _ _ _ n size) fun count => ?_
  refine Triple.ite (fun _ => hback) fun _ => ?_
  refine Triple.bind (Keeps.obtain _ _ n size) fun list => ?_
  refine Triple.ite (fun _ => Triple.bind (giveBack_block (by simp)) fun _ => hback) fun _ => ?_
  refine Triple.bind (chipImmuUpdate_block _ n size) fun _ => ?_
  refine Triple.bind (switchResource_keeps _ _ _ _ n size) fun switched => ?_
  refine Triple.ite (fun _ => ?_) fun _ => ?_
  · exact (failDma_block hne _ _ _).strengthen fun _ _ hc => Or.inr hc.2
  by_cases hold : n = gs.fbMem
  · refine Triple.bind (R := fun _ _ => True) (fun _ _ => trivial) fun _ => Triple.ret fun _ _ => ?_
    exact Or.inl ⟨hold, ⟨hdims, hsame⟩, rfl⟩
  · have hold' : n ≠ (gs.withNextId (gs.allocId + 1)).fbMem := hold
    refine Triple.bind (releaseOld_block hold') fun _ => ?_
    exact Triple.ret fun _ hc => Or.inr hc

/-! `bi->MemoryBase` is assigned by `chip_InitCard_C` alone. -/

/-- `bi->MemoryBase` is `base`. -/
def Based (base : ℕ) (c : CardState) : Prop := c.memoryBase = base

variable {base : ℕ}

theorem giveBack_based (r : Resource) : Stable (Based base) (giveBack r) :=
  Stable.update fun _ hc => hc

theorem obtain_based (resource : ℕ → Resource) (ok : Bool) :
    Stable (Based base) (obtain resource ok) :=
  Stable.ite (fun _ hc => hc) (Stable.ret 0)

theorem gpuCommand_based (effect : Host → Host) (answer : GpuAnswer) :
    Stable (Based base) (gpuCommand effect answer) :=
  fun c hc => by cases answer <;> exact hc

theorem setScanoutAttempts_based (s : Scanout) (answers : ℕ → GpuAnswer) (n : ℕ) :
    Stable (Based base) (setScanoutAttempts s answers n) := by
  induction n with
  | zero => exact Stable.ret false
  | succ n ih => exact Stable.bind (gpuCommand_based _ _) fun _ => Stable.ite (Stable.ret true) ih

theorem switchResource_based (env : ResizeEnv) (id w h : UInt32) :
    Stable (Based base) (switchResource env id w h) := by
  have hundo : Stable (Based base) (do
      let _ ← chipResourceUnref id env.unrefNew
      return false) := Stable.bind (gpuCommand_based _ _) fun _ => Stable.ret _
  refine Stable.bind (Stable.bind (Stable.update fun _ hc => hc) fun _ => gpuCommand_based _ _)
    fun _ => Stable.ite (Stable.ret _) ?_
  refine Stable.bind (gpuCommand_based _ _) fun _ => Stable.ite hundo ?_
  exact Stable.bind (setScanoutAttempts_based _ _ _) fun _ => Stable.ite hundo (Stable.ret _)

theorem releaseOld_based (env : ResizeEnv) (old : GpuState) :
    Stable (Based base) (releaseOld env old) := by
  refine Stable.bind (Stable.onlyIf ?_) fun _ => ?_
  · exact Stable.bind (gpuCommand_based _ _) fun _ => Stable.ret _
  refine Stable.bind (Stable.onlyIf (giveBack_based _)) fun _ => Stable.onlyIf ?_
  exact Stable.bind (giveBack_based _) fun _ => giveBack_based _

theorem chipResizeFbToMode_based (gs : GpuState) (w h : UInt32) (env : ResizeEnv) :
    Stable (Based base) (chipResizeFbToMode gs w h env) := by
  have hfree (mem : ℕ) (gs' : GpuState) : Stable (Based base) (do
      freeVec mem
      return (false, gs')) := Stable.bind (giveBack_based _) fun _ => Stable.ret _
  unfold chipResizeFbToMode
  refine Stable.ite (Stable.ret _) (Stable.ite (Stable.ret _) ?_)
  refine Stable.bind (Stable.ite (fun _ hc => hc) (Stable.ret 0)) fun mem => ?_
  refine Stable.ite (Stable.ret _) ?_
  refine Stable.bind (Stable.bind (Stable.onlyIf (Stable.update fun _ hc => hc)) fun _ =>
    Stable.ret _) fun count => Stable.ite (hfree _ _) ?_
  refine Stable.bind (obtain_based _ _) fun list => ?_
  refine Stable.ite (Stable.bind (giveBack_based _) fun _ => hfree _ _) ?_
  refine Stable.bind (Stable.bind (obtain_based _ _) fun _ =>
    Stable.ite (giveBack_based _) (Stable.ret _)) fun _ => ?_
  refine Stable.bind (switchResource_based _ _ _ _) fun switched => Stable.ite ?_ ?_
  · exact Stable.bind (giveBack_based _) fun _ => Stable.bind (giveBack_based _) fun _ => hfree _ _
  · exact Stable.bind (releaseOld_based _ _) fun _ => Stable.ret _

end Frame

/-! ## `chip_SetGC` -/

/-- The block of the board memory survives a mode change that does not replace its owner. -/
theorem chipSetGC_board {call : GcCall} {gs : GpuState} {c : CardState} {n : ℕ} {size : UInt32}
    (hstate : c.gs = some gs) (hpermitted : n = gs.fbMem → ¬ gs.Publishes call)
    (hblock : Block n size c) :
    Block n size (chipSetGC call.mi call.env c).2 ∧
      (chipSetGC call.mi call.env c).2.memoryBase = c.memoryBase := by
  unfold chipSetGC withChipState
  simp only [hstate]
  split
  · exact ⟨hblock, rfl⟩
  split
  · rename_i hdims
    set env := call.env
    set w := call.mi.width.toUInt32
    set h := call.mi.height.toUInt32
    have hcases := chipResizeFbToMode_cases env (gs.withMode call.mi) w h c ⟨rfl, rfl⟩
    have hresized := chipResizeFbToMode_block (gs.withMode call.mi) w h env c hblock
    have hbased := chipResizeFbToMode_based (gs.withMode call.mi) w h env c (rfl : Based _ c)
    have hkept : Block n size (chipResizeFbToMode (gs.withMode call.mi) w h env c).2 := by
      refine hresized.resolve_left ?_
      rintro ⟨hn, hneeds, hok⟩
      refine hpermitted hn ⟨hdims, hneeds, ?_⟩
      have hfails := mt hcases.fails_iff.mp (by simp [hok])
      by_contra hfailed
      exact hfails (Or.inr ⟨hneeds, by simpa using hfailed⟩)
    exact ⟨⟨hkept.handle, hkept.live, hkept.size⟩, hbased⟩
  · exact ⟨⟨hblock.handle, hblock.live, hblock.size⟩, rfl⟩

/-! ## Runs -/

/-- The card with the table of the allocator, which has its place outside `ChipGPUState`. -/
structure BoardCard where
  card : CardState
  boardAllocOffset : UInt32
  slots : List BoardSlot

/-- The state of the allocator; `address` is where exec.library put a block. -/
def BoardCard.board (address : ℕ → UInt32) (s : BoardCard) (gs : GpuState) : BoardState :=
  ⟨address gs.boardMem, gs.boardMemSize, s.boardAllocOffset, s.slots⟩

/-- A call of the allocator; without `g_chip_state` it returns at once. -/
def BoardCard.onBoard (address : ℕ → UInt32) (s : BoardCard) (call : BoardState → BoardState) :
    BoardCard :=
  match s.card.gs with
  | none => s
  | some gs =>
      let board := call (s.board address gs)
      { s with boardAllocOffset := board.boardAllocOffset, slots := board.slots }

inductive MemoryCall where
  | setGC (call : GcCall)
  | allocCardMem (size : UInt32)
  | freeCardMem (mem : UInt32)

def BoardCard.step (address : ℕ → UInt32) (s : BoardCard) : MemoryCall → Option BoardCard
  | .setGC call => some { s with card := (chipSetGC call.mi call.env s.card).2 }
  | .allocCardMem size => some (s.onBoard address fun board => (chipAllocCardMem board size).2)
  | .freeCardMem mem => some (s.onBoard address fun board => (chipFreeCardMem board mem).2)

def BoardCard.start (env : InitEnv) : BoardCard := ⟨(chipInitCard false env .start).2, 0, []⟩

/-- The published board memory is a block that has not been released and is large enough. -/
def BoardOwned (s : BoardCard) : Prop :=
  ∀ gs ∈ s.card.gs, s.card.memoryBase = gs.boardMem ∧
    Resource.block gs.boardMem ∈ s.card.sys.live ∧ gs.boardMemSize ≤ s.card.size gs.boardMem

instance : DecidablePred BoardOwned :=
  fun s => inferInstanceAs (Decidable (∀ gs ∈ s.card.gs, _ ∧ _ ∧ _))

/-- No mode change replaces a frame buffer that is the board memory as well. -/
def OwnBlock (s : BoardCard) : MemoryCall → Prop
  | .setGC call => ∀ gs ∈ s.card.gs, gs.boardMem = gs.fbMem → ¬ gs.Publishes call
  | .allocCardMem _ => True
  | .freeCardMem _ => True

structure BoardKept (gs : GpuState) (s : BoardCard) : Prop where
  state : s.card.gs = some gs
  block : Block gs.boardMem gs.boardMemSize s.card
  memoryBase : s.card.memoryBase = gs.boardMem

theorem BoardKept.owned {gs : GpuState} {s : BoardCard} (h : BoardKept gs s) : BoardOwned s := by
  intro gs' hgs'
  obtain rfl : gs' = gs := Option.mem_unique hgs' h.state
  exact ⟨h.memoryBase, h.block.live, UInt32.le_of_eq h.block.size.symm⟩

theorem BoardCard.onBoard_card (address : ℕ → UInt32) (s : BoardCard)
    (call : BoardState → BoardState) : (s.onBoard address call).card = s.card := by
  unfold BoardCard.onBoard
  split <;> rfl

/-- The allocator works inside the block. -/
theorem BoardKept.onBoard {gs : GpuState} {s : BoardCard} (h : BoardKept gs s)
    (address : ℕ → UInt32) (call : BoardState → BoardState) :
    BoardKept gs (s.onBoard address call) := by
  have hcard := s.onBoard_card address call
  exact ⟨hcard ▸ h.state, hcard ▸ h.block, hcard ▸ h.memoryBase⟩

theorem BoardKept.setGC {gs : GpuState} {s : BoardCard} (h : BoardKept gs s) {call : GcCall}
    (hpermitted : OwnBlock s (.setGC call)) :
    ∃ gs', BoardKept gs' { s with card := (chipSetGC call.mi call.env s.card).2 } := by
  obtain ⟨gs', hgs', hsame⟩ := (chipSetGC_cases call.mi call.env h.state).sameOtherwise h.state
  obtain ⟨hblock, hbase⟩ := chipSetGC_board h.state (hpermitted gs h.state) h.block
  refine ⟨gs', hgs', ?_, ?_⟩
  · rw [hsame.boardMem, hsame.boardMemSize]
    exact hblock
  · rw [hsame.boardMem]
    exact hbase.trans h.memoryBase

theorem Ready.boardKept {gs : GpuState} {env : InitEnv}
    (h : Ready gs (chipInitCard false env .start).2) : BoardKept gs (.start env) :=
  ⟨h.state, h.boardBlock, h.memoryBase⟩

/-- In every run of `chip_SetGC`, `AllocCardMem` and `FreeCardMem` in which no mode change
replaces a frame buffer that is the board memory as well, the board memory is never released
and has the size that the allocator is told. -/
theorem board_memory_owned {env : InitEnv} (hinit : (chipInitCard false env .start).1 = true)
    (address : ℕ → UInt32) (calls : List MemoryCall)
    (hpermitted : Within (BoardCard.step address) OwnBlock (.start env) calls) :
    Always (BoardCard.step address) BoardOwned (.start env) calls := by
  obtain ⟨gs, hready⟩ := init_ready hinit
  refine always_of_within (I := fun s => ∃ gs, BoardKept gs s) ?_ ?_ ⟨gs, hready.boardKept⟩
    hpermitted
  · rintro s ⟨gs, hs⟩
    exact hs.owned
  · rintro s call t ⟨gs, hs⟩ hown hstep
    cases call with
    | setGC call =>
        obtain rfl := Option.some.inj hstep
        exact hs.setGC hown
    | allocCardMem size =>
        obtain rfl := Option.some.inj hstep
        exact ⟨gs, hs.onBoard address _⟩
    | freeCardMem mem =>
        obtain rfl := Option.some.inj hstep
        exact ⟨gs, hs.onBoard address _⟩

/-- Every call succeeds but the allocation of the board memory. -/
def InitEnv.withoutBoardMem : InitEnv := { InitEnv.working with boardMem := false }

instance (s : BoardCard) (call : MemoryCall) : Decidable (OwnBlock s call) :=
  match call with
  | .setGC call => inferInstanceAs (Decidable (∀ gs ∈ s.card.gs, _ → ¬ gs.Publishes call))
  | .allocCardMem _ => isTrue trivial
  | .freeCardMem _ => isTrue trivial

theorem board_memory_owned_working :
    Always (BoardCard.step fun n => n.toUInt32 * 4096) BoardOwned (.start .working)
      [.allocCardMem 4096, .setGC ⟨⟨800, 600, 32⟩, .commandsDone true 1 true true⟩] :=
  board_memory_owned (by decide +kernel) _ _ (by decide +kernel)

/-- The mode change releases the frame buffer, which is the board memory. -/
theorem board_memory_released :
    (chipInitCard false .withoutBoardMem .start).1 = true ∧
      ¬ Always (BoardCard.step fun n => n.toUInt32 * 4096) BoardOwned (.start .withoutBoardMem)
        [.setGC ⟨⟨800, 600, 32⟩, .commandsDone true 1 true true⟩] := by
  decide +kernel

end VirtIOGPU.Card
