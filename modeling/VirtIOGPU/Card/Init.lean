import VirtIOGPU.Card.State

/-!
# `chip_InitCard_C`

The function is one sequence of acquisitions with a chain of labels that undoes it.  It is cut
at the points where a new kind of thing is set up; each part ends with the next one.  A label
is a function of the locals that its code reads, and `goto` is its call.

`ChipGPUState` is not published before the end, so it is passed along as a value.
-/

namespace VirtIOGPU.Card

open Lib Lib.Hoare

/-! ## DMA buffers -/

/-- The answers to the three calls that can fail in `chip_dma_alloc`. -/
structure DmaAnswer where
  mem : Bool
  count : UInt32
  list : Bool
  deriving DecidableEq, Repr

def DmaAnswer.ok (a : DmaAnswer) : Bool := a.mem && a.count != 0 && a.list

def chipDmaAlloc (size : UInt32) (a : DmaAnswer) : Driver ℕ := do
  let mem ← allocVec size a.mem
  if mem = 0 then
    return 0
  let n ← startDma mem size a.count
  if n = 0 then
    freeVec mem
    return 0
  let dmaList ← allocDmaList a.list
  if dmaList = 0 then
    endDma mem size
    freeVec mem
    return 0
  freeDmaList dmaList
  return mem

def chipDmaFree (mem : ℕ) (size : UInt32) : Driver Unit :=
  onlyIf (mem ≠ 0) do
    endDma mem size
    freeVec mem

/-- `chip_immu_update`; the page attributes themselves are not modelled. -/
def chipImmuUpdate (ok : Bool) : Driver Unit := do
  let immu ← getInterface ok
  if immu ≠ 0 then
    dropInterface immu

/-! ## BARs -/

structure BarAnswer where
  present : Bool
  /-- `PCI_RANGE_MEMORY`. -/
  memory : Bool
  immu : Bool
  deriving DecidableEq, Repr

def chipScanBar (a : BarAnswer) : Driver Unit := do
  let range ← obtain .resourceRange a.present
  if range ≠ 0 then
    onlyIf a.memory (chipImmuUpdate a.immu)
    giveBack (.resourceRange range)

def chipScanBars (answers : ℕ → BarAnswer) : Driver Unit :=
  (List.range 6).forM fun i => chipScanBar (answers i)

/-! ## Virtqueues -/

structure VringAnswer where
  ring : Bool
  vq : Bool
  cookies : Bool
  indirectTables : Bool
  /-- `sizeof(struct virtqueue)`. -/
  sizeofVirtqueue : UInt32
  /-- The entries that `StartDMA` returns for the ring. -/
  count : UInt32
  list : Bool
  deriving DecidableEq, Repr

def VringAnswer.allocated (a : VringAnswer) : Bool :=
  a.ring && a.vq && a.cookies && a.indirectTables

def VringAnswer.ok (a : VringAnswer) : Bool := a.allocated && a.count != 0 && a.list

/-- `total_mem` of `VirtQueue_Allocate`. -/
def vringTotalMem (queueSize : UInt32) : UInt32 :=
  let descSize := 16 * queueSize
  let availSize := 2 * (3 + queueSize)
  let usedOffset := (descSize + availSize + 4096 - 1) &&& ~~~(4096 - 1)
  usedOffset + (2 * 3 + 8 * queueSize)

def virtQueueAllocate (queueSize : UInt32) (a : VringAnswer) : Driver (Option Vring) := do
  let raw ← allocVec (vringTotalMem queueSize) a.ring
  if raw = 0 then
    return none
  let vq ← allocVec a.sizeofVirtqueue a.vq
  if vq = 0 then
    freeVec raw
    return none
  let cookies ← allocVec (4 * queueSize) a.cookies
  if cookies = 0 then
    freeVec raw
    freeVec vq
    return none
  let indirectTables ← allocVec (4 * queueSize) a.indirectTables
  if indirectTables = 0 then
    freeVec cookies
    freeVec raw
    freeVec vq
    return none
  return some ⟨vq, raw, vringTotalMem queueSize, cookies, indirectTables, 0⟩

/-- `vq->desc` is the start of the memory block. -/
def virtQueueFree : Option Vring → Driver Unit
  | none => return
  | some vq => do
      onlyIf (0 < vq.dmaEntries) (endDma vq.memBlock vq.memSize)
      onlyIf (vq.indirectTables ≠ 0) (freeVec vq.indirectTables)
      onlyIf (vq.cookies ≠ 0) (freeVec vq.cookies)
      onlyIf (vq.memBlock ≠ 0) (freeVec vq.memBlock)
      freeVec vq.self

/-- What `chip_virtio_init` does for each of its two queues; `none` when a step fails, with
everything undone. -/
def setupQueue (queueSize : UInt32) (a : VringAnswer) : Driver (Option Vring) := do
  let some vq ← virtQueueAllocate queueSize a
    | return none
  let entries ← startDma vq.memBlock vq.memSize a.count
  if entries = 0 then
    virtQueueFree (some vq)
    return none
  let dmaList ← allocDmaList a.list
  if dmaList = 0 then
    endDma vq.memBlock vq.memSize
    virtQueueFree (some vq)
    return none
  freeDmaList dmaList
  return some { vq with dmaEntries := entries }

structure TransportAnswer where
  /-- The low word of the device's features. -/
  features : UInt32
  featuresOk : Bool
  queueMax : UInt16
  ctrlq : VringAnswer
  cursorMax : UInt16
  cursorq : VringAnswer
  deriving DecidableEq, Repr

/-- `VIRTIO_GPU_F_VIRGL`, `VIRTIO_GPU_F_EDID`, `VIRTIO_GPU_F_RESOURCE_BLOB`. -/
def featureVirgl : UInt32 := 1
def featureEdid : UInt32 := 2
def featureBlob : UInt32 := 8

/-- `VIRTIO_DEVICE_FEATURES_MASK`. -/
def deviceFeaturesMask : UInt32 := featureEdid ||| featureVirgl ||| featureBlob

def GpuState.withFeatures (gs : GpuState) (virgl blob : Bool) : GpuState :=
  { gs with hasVirgl := virgl, hasBlob := blob }

def GpuState.withCtrlq (gs : GpuState) (vq : Option Vring) : GpuState := { gs with ctrlq := vq }

def GpuState.withCursorq (gs : GpuState) (cq : Option Vring) : GpuState := { gs with cursorq := cq }

/-- The reset of the device clears the host. -/
def chipVirtioInit (gs : GpuState) (a : TransportAnswer) : Driver (Bool × GpuState) := do
  modify fun c => { c with host := .reset }
  let features := a.features &&& deviceFeaturesMask
  let gs := gs.withFeatures (features &&& featureVirgl != 0) (features &&& featureBlob != 0)
  if !a.featuresOk then
    return (false, gs)
  if a.queueMax = 0 then
    return (false, gs)
  let some vq ← setupQueue a.queueMax.toUInt32 a.ctrlq
    | return (false, gs)
  let gs := gs.withCtrlq (some vq)
  if a.cursorMax = 0 then
    return (true, gs)
  let cq ← setupQueue a.cursorMax.toUInt32 a.cursorq
  return (true, gs.withCursorq cq)

def TransportAnswer.ok (a : TransportAnswer) : Bool :=
  a.featuresOk && a.queueMax != 0 && a.ctrlq.ok

/-! ## Interrupt and 3D buffer -/

/-- The answers of `MapInterrupt` and `AddIntServer`. -/
structure IrqAnswer where
  irqNumber : UInt32
  added : Bool
  deriving DecidableEq, Repr

def IrqAnswer.ok (a : IrqAnswer) : Bool := a.irqNumber != 0 && a.added

def GpuState.withIrq (gs : GpuState) (installed : Bool) : GpuState :=
  { gs with irqInstalled := installed }

/-- `is_Data` of the server is `gs`. -/
def chipIrqInstall (gs : GpuState) (a : IrqAnswer) : Driver GpuState := do
  if a.irqNumber = 0 then
    return gs
  if !a.added then
    return gs
  modify fun c => { c with sys := c.sys.acquire (.intServer gs.self) }
  return gs.withIrq true

structure Cmd3dAnswer where
  buf : DmaAnswer
  lock : Bool
  deriving DecidableEq, Repr

def Cmd3dAnswer.ok (a : Cmd3dAnswer) : Bool := a.buf.ok && a.lock

def cmd3dSize : UInt32 := 64 * 1024

def GpuState.with3D (gs : GpuState) (buf lock : ℕ) (virgl : Bool) (next ctx : UInt32) :
    GpuState :=
  { gs with
    cmd3dBuf := buf
    cmd3dLock := lock
    hasVirgl := virgl
    nextResourceId := next
    nextCtxId := ctx }

/-- The 3D part of `chip_InitCard_C`. -/
def setup3D (gs : GpuState) (a : Cmd3dAnswer) : Driver GpuState := do
  if gs.hasVirgl ∧ gs.deviceCfgBase ≠ 0 then
    let buf ← chipDmaAlloc cmd3dSize a.buf
    if buf = 0 then
      return gs.with3D 0 0 false 3 1
    let lock ← allocMutex a.lock
    if lock = 0 then
      chipDmaFree buf cmd3dSize
      return gs.with3D 0 0 false 3 1
    return gs.with3D buf lock true 3 1
  return gs

/-! ## What the environment answers -/

structure InitEnv where
  expansion : Bool
  pci : Bool
  /-- `boardinfo_get_pcidevice` returns a device. -/
  presetDevice : Bool
  findDevice : Bool
  lock : Bool
  /-- `sizeof(struct ChipGPUState)`. -/
  sizeofState : UInt32
  state : Bool
  ioLock : Bool
  cursorLock : Bool
  allocMutex : Bool
  bars : ℕ → BarAnswer
  /-- `device_cfg_base`, when `chip_scan_pci_caps` finds what it needs. -/
  caps : Option UInt32
  cmdBuf : DmaAnswer
  respBuf : DmaAnswer
  cursorCmdBuf : DmaAnswer
  transport : TransportAnswer
  irq : IrqAnswer
  cmd3d : Cmd3dAnswer
  /-- The native mode, when `chip_GetEDID` succeeds. -/
  edid : Option (UInt32 × UInt32)
  /-- The mode of the first enabled scanout, when `chip_GetDisplayInfo` succeeds. -/
  displayInfo : Option (UInt32 × UInt32)
  fbMem : Bool
  fbCount : UInt32
  fbList : Bool
  fbImmu : Bool
  /-- The back buffer, its resource and the backing of it. -/
  fbMem2 : Bool
  fbCount2 : UInt32
  fbList2 : Bool
  fbImmu2 : Bool
  create2 : GpuAnswer
  attach2 : GpuAnswer
  createBlob : GpuAnswer
  create2D : GpuAnswer
  attach : GpuAnswer
  setScanout : ℕ → GpuAnswer
  transfer : GpuAnswer
  flush : GpuAnswer
  boardMem : Bool
  vsyncMutex : Bool

/-- `width` and `height`: EDID, then the display info, then a fixed mode. -/
def InitEnv.mode (env : InitEnv) : UInt32 × UInt32 :=
  let usable : Option (UInt32 × UInt32) → Option (UInt32 × UInt32) :=
    fun answer => answer.filter fun m => m.1 > 0 && m.2 > 0
  ((usable env.edid).or (usable env.displayInfo)).getD (1024, 768)

/-! ## The labels -/

/-- The locals of `chip_InitCard_C` that the labels read. -/
structure Opened where
  expBase : ℕ
  ipci : ℕ
  pciLocked : Bool
  deriving DecidableEq, Repr

def failExp (l : Opened) : Driver Bool := do
  closeLibrary l.expBase
  return false

def failIpci (l : Opened) : Driver Bool := do
  dropInterface l.ipci
  failExp l

def failPci (l : Opened) : Driver Bool := do
  onlyIf l.pciLocked (giveBack .pciLock)
  failIpci l

def failGs (l : Opened) (gs : GpuState) : Driver Bool := do
  onlyIf (gs.cmd3dLock ≠ 0) (freeMutex gs.cmd3dLock)
  onlyIf (gs.cursorLock ≠ 0) (freeMutex gs.cursorLock)
  onlyIf (gs.allocMutex ≠ 0) (freeMutex gs.allocMutex)
  onlyIf (gs.ioLock ≠ 0) (freeMutex gs.ioLock)
  freeVec gs.self
  failPci l

def failCmd (l : Opened) (gs : GpuState) : Driver Bool := do
  chipDmaFree gs.cmdBuf 4096
  failGs l gs

def failResp (l : Opened) (gs : GpuState) : Driver Bool := do
  chipDmaFree gs.cursorCmdBuf 4096
  chipDmaFree gs.respBuf 4096
  failCmd l gs

def failVqs (l : Opened) (gs : GpuState) : Driver Bool := do
  virtQueueFree gs.ctrlq
  virtQueueFree gs.cursorq
  failResp l gs

def failFbMem (l : Opened) (gs : GpuState) : Driver Bool := do
  freeVec gs.fbMem
  chipDmaFree gs.cmd3dBuf cmd3dSize
  failVqs l gs

def failFbDma (l : Opened) (gs : GpuState) : Driver Bool := do
  endDma gs.fbMem gs.fbSize
  failFbMem l gs

def failFbDmaList (l : Opened) (gs : GpuState) : Driver Bool := do
  onlyIf (gs.fbDmaList2 ≠ 0) (freeDmaList gs.fbDmaList2)
  onlyIf (gs.fbMem2 ≠ 0) do
    endDma gs.fbMem2 gs.fbSize
    freeVec gs.fbMem2
  onlyIf (gs.vsyncMutex ≠ 0) (freeMutex gs.vsyncMutex)
  freeDmaList gs.fbDmaList
  failFbDma l gs

/-! ## The parts, the last one first -/

def boardMemBytes : UInt32 := 128 * 1024 * 1024

/-- Board memory; the frame buffer in its place when the allocation failed. -/
def GpuState.withBoardMem (gs : GpuState) (mem : ℕ) : GpuState :=
  if mem = 0 then
    { gs with boardMem := gs.fbMem, boardMemSize := gs.fbSize, panningMem := gs.fbMem }
  else
    { gs with boardMem := mem, boardMemSize := boardMemBytes, panningMem := mem }

/-- The screen has the initial mode. -/
def GpuState.withScreen (gs : GpuState) (mode : UInt32 × UInt32) (vsyncMutex : ℕ) : GpuState :=
  { gs with
    activeFormat := .a8r8g8b8
    activeWidth := mode.1
    activeHeight := mode.2
    vsyncMutex := vsyncMutex }

/-- The end of the function: the state is published. -/
def initBoard (env : InitEnv) (gs : GpuState) : Driver Bool := do
  let boardMem ← allocVec boardMemBytes env.boardMem
  let gs := gs.withBoardMem boardMem
  let vsyncMutex ← allocMutex env.vsyncMutex
  let gs := gs.withScreen env.mode vsyncMutex
  modify fun c =>
    { c with gs := some gs, memoryBase := gs.boardMem, memorySize := gs.boardMemSize }
  return true

def GpuState.withFbId (gs : GpuState) (id : UInt32) : GpuState :=
  { gs with resourceId := id, fbResourceId := id, fbIsBlob := false }

def GpuState.withBlob (gs : GpuState) : GpuState := { gs with fbIsBlob := true }

def GpuState.withBackId (gs : GpuState) (id : UInt32) (doubleBuffer : Bool) : GpuState :=
  { gs with fbResourceId2 := id, doubleBuffer := doubleBuffer }

def createFbBlob (env : InitEnv) (gs : GpuState) : Driver Bool :=
  if gs.hasBlob then chipResourceCreateBlob 1 gs.fbSize env.createBlob else pure false

/-- The framebuffer resource: a blob where the feature is there and the command succeeds. -/
def initFbResource (env : InitEnv) (gs : GpuState) : Driver (Bool × GpuState) := do
  let gs := gs.withFbId 1
  let blob ← createFbBlob env gs
  if blob then
    return (true, gs.withBlob)
  let created ← chipResourceCreate2D 1 formatB8G8R8X8 gs.fbWidth gs.fbHeight env.create2D
  if !created then
    return (false, gs)
  let attached ← chipResourceAttachBacking env.attach
  return (attached, gs)

/-- The back buffer's resource has the fixed id 9. -/
def initBackResource (env : InitEnv) (gs : GpuState) : Driver GpuState := do
  if gs.fbMem2 = 0 then
    return gs
  let created ← chipResourceCreate2D 9 formatB8G8R8X8 gs.fbWidth gs.fbHeight env.create2
  if !created then
    return gs.withBackId 0 gs.doubleBuffer
  let attached ← chipResourceAttachBacking env.attach2
  if !attached then
    return gs.withBackId 0 gs.doubleBuffer
  return gs.withBackId 9 true

def initScanout (env : InitEnv) (l : Opened) (gs : GpuState) : Driver Bool := do
  let (ok, gs) ← initFbResource env gs
  if !ok then
    failFbDmaList l gs
  else
    let gs ← initBackResource env gs
    let shown ← chipSetScanout gs.resourceId 0 0 env.mode.1 env.mode.2 env.setScanout
    if !shown then
      failFbDmaList l gs
    else
      let _ ← chipTransferToHost2D gs gs.resourceId env.transfer
      let _ ← chipResourceFlush env.flush
      initBoard env gs

def GpuState.withBackBuffer (gs : GpuState) (mem : ℕ) (count : UInt32) (list : ℕ) : GpuState :=
  { gs with fbMem2 := mem, fbDmaCount2 := count, fbDmaList2 := list, fbPhys2 := list }

/-- `doubleBuffering` is `FALSE` in the source at present, which sets `fb_mem2` to `NULL`. -/
def allocBackBuffer (doubleBuffering : Bool) (env : InitEnv) (gs : GpuState) : Driver ℕ :=
  if doubleBuffering then allocVec gs.fbSize env.fbMem2 else pure 0

/-- The best-effort allocation of the back buffer. -/
def initBackBuffer (doubleBuffering : Bool) (env : InitEnv) (gs : GpuState) : Driver GpuState := do
  let fbMem2 ← allocBackBuffer doubleBuffering env gs
  if fbMem2 = 0 then
    return gs
  let count ← startDma fbMem2 gs.fbSize env.fbCount2
  if count = 0 then
    freeVec fbMem2
    return gs
  let list ← allocDmaList env.fbList2
  if list = 0 then
    endDma fbMem2 gs.fbSize
    freeVec fbMem2
    return gs.withBackBuffer 0 count 0
  chipImmuUpdate env.fbImmu2
  return gs.withBackBuffer fbMem2 count list

/-- The fields of a frame buffer with the given dimensions. -/
def GpuState.sized (gs : GpuState) (w h : UInt32) : GpuState :=
  { gs with fbWidth := w, fbHeight := h, fbStride := w * 4, fbSize := h * (w * 4) }

def GpuState.withFbMem (gs : GpuState) (mem : ℕ) : GpuState := { gs with fbMem := mem }

def GpuState.withFbDma (gs : GpuState) (count : UInt32) (list : ℕ) : GpuState :=
  { gs with fbDmaCount := count, fbDmaList := list, fbPhys := list }

def initFramebuffer (doubleBuffering : Bool) (env : InitEnv) (l : Opened) (gs : GpuState) :
    Driver Bool := do
  let maxW := if env.mode.1 ≠ 0 then env.mode.1 else 1280
  let maxH := if env.mode.2 ≠ 0 then env.mode.2 else 800
  let gs := gs.sized maxW maxH
  let fbMem ← allocVec gs.fbSize env.fbMem
  if fbMem = 0 then
    failVqs l gs
  else
    let gs := gs.withFbMem fbMem
    let count ← startDma gs.fbMem gs.fbSize env.fbCount
    if count = 0 then
      failFbMem l gs
    else
      let list ← allocDmaList env.fbList
      if list = 0 then
        failFbDma l (gs.withFbDma count 0)
      else
        chipImmuUpdate env.fbImmu
        let gs ← initBackBuffer doubleBuffering env (gs.withFbDma count list)
        initScanout env l gs

def GpuState.withCmdBuf (gs : GpuState) (cmdBuf : ℕ) : GpuState := { gs with cmdBuf := cmdBuf }

def GpuState.withRespBufs (gs : GpuState) (respBuf cursorCmdBuf : ℕ) : GpuState :=
  { gs with respBuf := respBuf, cursorCmdBuf := cursorCmdBuf }

def initTransport (doubleBuffering : Bool) (env : InitEnv) (l : Opened) (gs : GpuState) :
    Driver Bool := do
  let cmdBuf ← chipDmaAlloc 4096 env.cmdBuf
  if cmdBuf = 0 then
    failGs l gs
  else
    let gs := gs.withCmdBuf cmdBuf
    let respBuf ← chipDmaAlloc 4096 env.respBuf
    if respBuf = 0 then
      failCmd l gs
    else
      let cursorCmdBuf ← chipDmaAlloc 4096 env.cursorCmdBuf
      let gs := gs.withRespBufs respBuf cursorCmdBuf
      let (ok, gs) ← chipVirtioInit gs env.transport
      if !ok then
        failResp l gs
      else
        let gs ← chipIrqInstall gs env.irq
        let gs ← setup3D gs env.cmd3d
        initFramebuffer doubleBuffering env l gs

def initState (doubleBuffering : Bool) (env : InitEnv) (l : Opened) : Driver Bool := do
  let self ← allocVec env.sizeofState env.state
  if self = 0 then
    failPci l
  else
    let ioLock ← allocMutex env.ioLock
    let cursorLock ← allocMutex env.cursorLock
    let allocMutex ← allocMutex env.allocMutex
    let gs : GpuState :=
      { self := self, ioLock := ioLock, cursorLock := cursorLock, allocMutex := allocMutex }
    if ioLock = 0 ∨ cursorLock = 0 ∨ allocMutex = 0 then
      failGs l gs
    else
      chipScanBars env.bars
      match env.caps with
      | none => failGs l gs
      | some deviceCfgBase =>
          initTransport doubleBuffering env l { gs with deviceCfgBase := deviceCfgBase }

def chipInitCard (doubleBuffering : Bool) (env : InitEnv) : Driver Bool := do
  let expBase ← openLibrary env.expansion
  if expBase = 0 then
    return false
  let ipci ← getInterface env.pci
  if ipci = 0 then
    failExp ⟨expBase, 0, false⟩
  else if !(env.presetDevice || env.findDevice) then
    failIpci ⟨expBase, ipci, false⟩
  else if !env.lock then
    failIpci ⟨expBase, ipci, false⟩
  else
    modify fun c => { c with sys := c.sys.acquire .pciLock }
    initState doubleBuffering env ⟨expBase, ipci, true⟩

/-! ## An environment in which every call succeeds -/

def DmaAnswer.granted : DmaAnswer := ⟨true, 1, true⟩

def VringAnswer.granted : VringAnswer := ⟨true, true, true, true, 64, 1, true⟩

/-- EDID at 1024x768; the device offers no Virgl and no blobs. -/
def InitEnv.working : InitEnv where
  expansion := true
  pci := true
  presetDevice := false
  findDevice := true
  lock := true
  sizeofState := 4096
  state := true
  ioLock := true
  cursorLock := true
  allocMutex := true
  bars := fun _ => ⟨true, true, true⟩
  caps := some 0x80000000
  cmdBuf := .granted
  respBuf := .granted
  cursorCmdBuf := .granted
  transport := ⟨featureEdid, true, 64, .granted, 16, .granted⟩
  irq := ⟨9, true⟩
  cmd3d := ⟨.granted, true⟩
  edid := some (1024, 768)
  displayInfo := none
  fbMem := true
  fbCount := 1
  fbList := true
  fbImmu := true
  fbMem2 := true
  fbCount2 := 1
  fbList2 := true
  fbImmu2 := true
  create2 := .done
  attach2 := .done
  createBlob := .done
  create2D := .done
  attach := .done
  setScanout := fun _ => .done
  transfer := .done
  flush := .done
  boardMem := true
  vsyncMutex := true

/-- Nothing is acquired and the host is empty. -/
def CardState.start : CardState where
  sys := ⟨0, false⟩
  handles := 0
  size := fun _ => 0
  host := .reset
  events := []
  gs := none
  memoryBase := 0
  memorySize := 0

end VirtIOGPU.Card
