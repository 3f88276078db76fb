import VirtIOGPU.Card.Init

/-!
# Mode changes, panning, power state and flushes

The callbacks of the board that the running system uses after `chip_InitCard_C`.
`chip_resize_fb_to_mode` is where they meet: it replaces the frame buffer and its resource and
can fail at each of its steps.
-/

namespace VirtIOGPU.Card

open Lib Lib.Hoare

/-- A callback does nothing with the card before `g_chip_state` is set. -/
def withChipState (k : GpuState → Driver Unit) : Driver Unit := fun c =>
  match c.gs with
  | none => ((), c)
  | some gs => k gs c

def setChipState (gs : GpuState) : Driver Unit := modify fun c => { c with gs := some gs }

/-! ## `chip_resize_fb_to_mode` -/

structure ResizeEnv where
  mem : Bool
  count : UInt32
  list : Bool
  immu : Bool
  create : GpuAnswer
  attach : GpuAnswer
  setScanout : ℕ → GpuAnswer
  /-- `RESOURCE_UNREF` of the new resource, after a failure. -/
  unrefNew : GpuAnswer
  unrefOld : GpuAnswer

/-- `chip_alloc_resource_id`. -/
def GpuState.allocId (gs : GpuState) : UInt32 :=
  chipAllocResourceId [gs.fbResourceId, gs.fbResourceId2, gs.cursorResourceId] gs.nextResourceId

def GpuState.withNextId (gs : GpuState) (next : UInt32) : GpuState :=
  { gs with nextResourceId := next }

/-- The assignments to the frame buffer fields. -/
def GpuState.withFramebuffer (gs : GpuState) (mem : ℕ) (w h count : UInt32) (list : ℕ)
    (id : UInt32) : GpuState :=
  { gs with
    fbMem := mem
    fbPhys := list
    fbWidth := w
    fbHeight := h
    fbStride := w * 4
    fbSize := h * (w * 4)
    fbDmaCount := count
    fbDmaList := list
    resourceId := id
    fbResourceId := id }

/-- The label `fail_dma`. -/
def failDma (mem : ℕ) (size : UInt32) (list : ℕ) (gs : GpuState) : Driver (Bool × GpuState) := do
  freeDmaList list
  endDma mem size
  freeVec mem
  return (false, gs)

/-- From the release of the old frame buffer to the end. -/
def releaseOld (env : ResizeEnv) (old : GpuState) : Driver Unit := do
  onlyIf (old.fbResourceId ≠ 0) do
    let _ ← chipResourceUnref old.fbResourceId env.unrefOld
  onlyIf (old.fbDmaList ≠ 0) (freeDmaList old.fbDmaList)
  onlyIf (old.fbMem ≠ 0) do
    endDma old.fbMem old.fbSize
    freeVec old.fbMem

/-- The commands that put a new resource on the scanout; on failure the new resource is dropped
again, where it was created. -/
def switchResource (env : ResizeEnv) (id w h : UInt32) : Driver Bool := do
  let created ← chipResourceCreate2D id formatB8G8R8X8 w h env.create
  if !created then
    return false
  let attached ← chipResourceAttachBacking env.attach
  if !attached then
    let _ ← chipResourceUnref id env.unrefNew
    return false
  let shown ← chipSetScanout id 0 0 w h env.setScanout
  if !shown then
    let _ ← chipResourceUnref id env.unrefNew
    return false
  return true

def chipResizeFbToMode (gs : GpuState) (newW newH : UInt32) (env : ResizeEnv) :
    Driver (Bool × GpuState) := do
  if newW = 0 ∨ newH = 0 then
    return (false, gs)
  if newW = gs.fbWidth ∧ newH = gs.fbHeight then
    return (true, gs)
  let newSize := newH * (newW * 4)
  let newMem ← allocVec newSize env.mem
  if newMem = 0 then
    return (false, gs)
  let count ← startDma newMem newSize env.count
  if count = 0 then
    freeVec newMem
    return (false, gs)
  let newList ← allocDmaList env.list
  if newList = 0 then
    endDma newMem newSize
    freeVec newMem
    return (false, gs)
  chipImmuUpdate env.immu
  let newResId := gs.allocId
  let gs := gs.withNextId (newResId + 1)
  let switched ← switchResource env newResId newW newH
  if !switched then
    failDma newMem newSize newList gs
  else
    releaseOld env gs
    return (true, gs.withFramebuffer newMem newW newH count newList newResId)

/-! ## `chip_SetGC` -/

structure ModeInfo where
  width : UInt16
  height : UInt16
  depth : UInt8
  deriving DecidableEq, Repr

/-- The mode is the one announced before: `chip_SetGC` returns at once. -/
def GpuState.ModeUnchanged (gs : GpuState) (mi : ModeInfo) : Prop :=
  gs.activeWidth = mi.width.toUInt32 ∧ gs.activeHeight = mi.height.toUInt32 ∧
    gs.activeFormat = gcFormat mi.depth

instance (gs : GpuState) (mi : ModeInfo) : Decidable (gs.ModeUnchanged mi) :=
  inferInstanceAs (Decidable (_ ∧ _))

/-- `dims_changed`. -/
def GpuState.DimsChanged (gs : GpuState) (mi : ModeInfo) : Prop :=
  gs.activeWidth ≠ mi.width.toUInt32 ∨ gs.activeHeight ≠ mi.height.toUInt32

instance (gs : GpuState) (mi : ModeInfo) : Decidable (gs.DimsChanged mi) :=
  inferInstanceAs (Decidable (_ ∨ _))

def GpuState.withMode (gs : GpuState) (mi : ModeInfo) : GpuState :=
  { gs with
    activeFormat := gcFormat mi.depth
    activeWidth := mi.width.toUInt32
    activeHeight := mi.height.toUInt32 }

def GpuState.withCursorRefresh (gs : GpuState) : GpuState := { gs with cursorNeedsRefresh := true }

/-- The result of the resize is only logged. -/
def chipSetGC (mi : ModeInfo) (env : ResizeEnv) : Driver Unit :=
  withChipState fun gs => do
    if gs.ModeUnchanged mi then
      return
    if gs.DimsChanged mi ∧ gs.fbMem ≠ 0 then
      let (_, gs) ←
        chipResizeFbToMode (gs.withMode mi) mi.width.toUInt32 mi.height.toUInt32 env
      setChipState gs.withCursorRefresh
    else
      setChipState (gs.withMode mi)

/-! ## `chip_SetPanning`, `chip_SetDPMSLevel` -/

def chipSetPanning (mem : ℕ) (width : UInt16) (xOff yOff : Int16) (format : RgbFormat) :
    Driver Unit :=
  withChipState fun gs =>
    onlyIf (mem ≠ 0)
      (setChipState
        { gs with
          panningMem := mem
          panningWidth := width.toUInt32
          panXoff := xOff
          panYoff := yOff
          activeFormat := format })

/-- The extent of the screen inside the frame buffer: `min(active, fb)`. -/
def GpuState.visibleWidth (gs : GpuState) : UInt32 :=
  if gs.activeWidth < gs.fbWidth then gs.activeWidth else gs.fbWidth

def GpuState.visibleHeight (gs : GpuState) : UInt32 :=
  if gs.activeHeight < gs.fbHeight then gs.activeHeight else gs.fbHeight

def GpuState.withDpms (gs : GpuState) (level : UInt32) : GpuState := { gs with dpmsLevel := level }

/-- `DPMS_ON` is 0. -/
def chipSetDPMSLevel (level : UInt32) (answers : ℕ → GpuAnswer) : Driver Unit :=
  withChipState fun gs => do
    setChipState (gs.withDpms level)
    if level = 0 then
      let _ ← chipSetScanout gs.resourceId 0 0 gs.visibleWidth gs.visibleHeight answers
    else
      let _ ← chipSetScanout 0 0 0 0 0 answers

/-! ## `chip_flush_all` -/

structure FlushEnv where
  transfer3D : GpuAnswer
  transfer2D : GpuAnswer
  setScanout : ℕ → GpuAnswer
  flush : GpuAnswer

def GpuState.withCtxError (gs : GpuState) : GpuState := { gs with virglCtxError := true }

/-- Transfer one buffer: the 3D resource, and after an error or without Virgl the 2D one.
`TRANSFER_TO_HOST_3D` changes nothing that is modelled here. -/
def transferFrame (gs : GpuState) (useVirgl : Prop) [Decidable useVirgl] (id2D : UInt32)
    (env : FlushEnv) : Driver (Bool × GpuState) := do
  if useVirgl then
    let ok ← gpuCommand id env.transfer3D
    if ok then
      return (true, gs)
    let ok ← chipTransferToHost2D gs.withCtxError id2D env.transfer2D
    return (ok, gs.withCtxError)
  let ok ← chipTransferToHost2D gs id2D env.transfer2D
  return (ok, gs)

/-- `chip_swap_buffers`. -/
def GpuState.swapBuffers (gs : GpuState) : GpuState :=
  { gs with
    fbMem := gs.fbMem2
    fbMem2 := gs.fbMem
    fbPhys := gs.fbPhys2
    fbPhys2 := gs.fbPhys
    fbDmaCount := gs.fbDmaCount2
    fbDmaCount2 := gs.fbDmaCount
    fbDmaList := gs.fbDmaList2
    fbDmaList2 := gs.fbDmaList
    fbResourceId := gs.fbResourceId2
    fbResourceId2 := gs.fbResourceId
    virgl2dResource := gs.virgl2dResource2
    virgl2dResource2 := gs.virgl2dResource
    resourceId :=
      if gs.virgl2dReady ∧ ¬ gs.virglCtxError ∧ gs.virgl2dResource2 ≠ 0 then gs.virgl2dResource2
      else gs.fbResourceId2 }

/-- Which resource is flushed or shown after the transfer. -/
def GpuState.usesVirgl (gs : GpuState) : Bool := gs.virgl2dReady && !gs.virglCtxError

def flushSingle (gs : GpuState) (env : FlushEnv) : Driver Unit := do
  let (ok, gs) ← transferFrame gs (gs.usesVirgl = true) gs.fbResourceId env
  onlyIf (ok = true) do
    let _ ← chipResourceFlush env.flush
  setChipState gs

def flushDouble (gs : GpuState) (env : FlushEnv) : Driver Unit := do
  let backRes2D := gs.fbResourceId2
  let backRes3D := gs.virgl2dResource2
  let (ok, gs) ← transferFrame gs (gs.usesVirgl = true ∧ backRes3D ≠ 0) backRes2D env
  if !ok then
    setChipState gs
  else
    let backRes := if gs.usesVirgl = true ∧ backRes3D ≠ 0 then backRes3D else backRes2D
    let _ ← chipSetScanout backRes 0 0 gs.visibleWidth gs.visibleHeight env.setScanout
    let _ ← chipResourceFlush env.flush
    setChipState gs.swapBuffers

def chipFlushAll (env : FlushEnv) : Driver Unit :=
  withChipState fun gs =>
    if gs.fbMem = 0 ∨ gs.visibleWidth = 0 ∨ gs.visibleHeight = 0 then pure ()
    else if !gs.doubleBuffer ∨ gs.fbMem2 = 0 then flushSingle gs env
    else flushDouble gs env

end VirtIOGPU.Card
