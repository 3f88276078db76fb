import Mathlib.Logic.Function.Basic
import Mathlib.Data.Nat.Notation
import VirtIOGPU.Framebuffer.ModeSwitch
import VirtIOGPU.Lib.Hoare
import VirtIOGPU.Lib.Ledger

/-!
# The card as a whole

`chip_InitCard_C` and the callbacks of the board, one function of the source a program over
`CardState`: what exec.library and the PCI library have handed out, the resources and the
scanout of the host, and `ChipGPUState`.  The callbacks run one after the other here; what
happens when the flush task runs between two accesses is the subject of
`VirtIOGPU.Framebuffer.ModeSwitch`.

A pointer is the number of what it points to, 0 for `NULL`.  Every call that can fail is
answered by an argument.
-/

namespace VirtIOGPU.Card

open Lib Lib.Hoare

/-! ## What is acquired -/

/-- A thing that exec.library or the PCI library hands out and takes back. -/
inductive Resource where
  | library (n : ℕ)
  | interface (n : ℕ)
  | pciLock
  | resourceRange (bar : ℕ)
  | block (n : ℕ)
  | dma (mem : ℕ) (size : UInt32)
  | dmaList (n : ℕ)
  | mutex (n : ℕ)
  /-- An interrupt server, with its `is_Data`. -/
  | intServer (data : ℕ)
  deriving DecidableEq, Repr

/-! ## The host -/

inductive GpuResource where
  | classic2D (format width height : UInt32)
  /-- `VIRTIO_GPU_BLOB_MEM_GUEST`: the host reads guest memory. -/
  | blobGuest (size : UInt32)
  | virgl3D
  deriving DecidableEq, Repr

def GpuResource.isBlobGuest : GpuResource → Bool
  | .blobGuest _ => true
  | _ => false

structure Scanout where
  resourceId : UInt32
  x : UInt32
  y : UInt32
  width : UInt32
  height : UInt32
  deriving DecidableEq, Repr

structure Host where
  resources : UInt32 → Option GpuResource
  /-- Scanout 0; `none` when it is disabled. -/
  scanout : Option Scanout
  /-- The 3D contexts that exist. -/
  contexts : UInt32 → Bool
  /-- The `RESOURCE_UNREF`s that took effect, the last one first. -/
  unrefs : List UInt32

def Host.reset : Host := ⟨fun _ => none, none, fun _ => false, []⟩

def Host.create (host : Host) (id : UInt32) (resource : GpuResource) : Host :=
  { host with resources := Function.update host.resources id (some resource) }

/-- A scanout does not outlive its resource. -/
def Host.unref (host : Host) (id : UInt32) : Host where
  resources := Function.update host.resources id none
  scanout := host.scanout.filter fun s => s.resourceId ≠ id
  contexts := host.contexts
  unrefs := id :: host.unrefs

def Host.setScanout (host : Host) (s : Scanout) : Host :=
  { host with scanout := if s.resourceId = 0 then none else some s }

/-- `CTX_CREATE` and `CTX_DESTROY`. -/
def Host.setContext (host : Host) (id : UInt32) (present : Bool) : Host :=
  { host with contexts := Function.update host.contexts id present }

def Host.Live (host : Host) (id : UInt32) : Prop := (host.resources id).isSome

/-- How a command comes out: a command that returns `FALSE` may have taken effect. -/
inductive GpuAnswer where
  | done
  | refused
  | lost
  deriving DecidableEq, Repr

inductive GpuEvent where
  /-- A create command; `live`: a resource with this id was live on the host. -/
  | create (id : UInt32) (live : Bool)
  /-- `chip_TransferToHost2D` returned `TRUE` without a command. -/
  | skipped (id : UInt32) (resource : Option GpuResource)
  deriving DecidableEq, Repr

/-! ## `ChipGPUState` -/

/-- `struct virtqueue`, as far as `VirtQueue_Free` reads it. -/
structure Vring where
  self : ℕ
  memBlock : ℕ
  memSize : UInt32
  cookies : ℕ
  indirectTables : ℕ
  dmaEntries : UInt32
  deriving DecidableEq, Repr

/-- The fields start at zero (`AVT_ClearWithValue`). -/
structure GpuState where
  self : ℕ
  irqInstalled : Bool := false
  ioLock : ℕ := 0
  cursorLock : ℕ := 0
  allocMutex : ℕ := 0
  cmd3dLock : ℕ := 0
  vsyncMutex : ℕ := 0
  cmdBuf : ℕ := 0
  respBuf : ℕ := 0
  cursorCmdBuf : ℕ := 0
  cmd3dBuf : ℕ := 0
  /-- `vqs[0]`. -/
  ctrlq : Option Vring := none
  /-- `vqs[VIRTIO_GPU_CURSQ]`. -/
  cursorq : Option Vring := none
  deviceCfgBase : UInt32 := 0
  hasVirgl : Bool := false
  hasBlob : Bool := false
  nextResourceId : UInt32 := 0
  nextCtxId : UInt32 := 0
  fbMem : ℕ := 0
  /-- The DMA list whose first entry gave `fb_phys`. -/
  fbPhys : ℕ := 0
  fbWidth : UInt32 := 0
  fbHeight : UInt32 := 0
  fbStride : UInt32 := 0
  fbSize : UInt32 := 0
  fbDmaCount : UInt32 := 0
  fbDmaList : ℕ := 0
  fbIsBlob : Bool := false
  doubleBuffer : Bool := false
  fbMem2 : ℕ := 0
  fbPhys2 : ℕ := 0
  fbDmaCount2 : UInt32 := 0
  fbDmaList2 : ℕ := 0
  resourceId : UInt32 := 0
  fbResourceId : UInt32 := 0
  fbResourceId2 : UInt32 := 0
  cursorMem : ℕ := 0
  cursorResourceId : UInt32 := 0
  cursorCreated : Bool := false
  boardMem : ℕ := 0
  boardMemSize : UInt32 := 0
  activeFormat : RgbFormat := .other 0
  activeWidth : UInt32 := 0
  activeHeight : UInt32 := 0
  panningMem : ℕ := 0
  panningWidth : UInt32 := 0
  panXoff : Int16 := 0
  panYoff : Int16 := 0
  cursorNeedsRefresh : Bool := false
  dpmsLevel : UInt32 := 0
  virgl2dReady : Bool := false
  virgl2dCtx : UInt32 := 0
  virglCtxError : Bool := false
  virglShadersOk : Bool := false
  virgl2dResource : UInt32 := 0
  virgl2dResource2 : UInt32 := 0
  virgl2dVbufRes : UInt32 := 0
  compTexRes : UInt32 := 0
  deriving DecidableEq, Repr

structure CardState where
  sys : Ledger Resource
  /-- The number of the last thing that was handed out. -/
  handles : ℕ
  /-- The size of each block of memory. -/
  size : ℕ → UInt32
  host : Host
  events : List GpuEvent
  /-- `g_chip_state`. -/
  gs : Option GpuState
  /-- `bi->MemoryBase`, `bi->MemorySize`. -/
  memoryBase : ℕ
  memorySize : UInt32

abbrev Driver := StateM CardState

/-! ## Calls of exec.library and the PCI library -/

/-- A call that hands out one thing; 0 when it fails. -/
def obtain (resource : ℕ → Resource) (ok : Bool) : Driver ℕ :=
  if ok then
    modifyGet fun c =>
      (c.handles + 1,
        { c with handles := c.handles + 1, sys := c.sys.acquire (resource (c.handles + 1)) })
  else
    pure 0

def giveBack (resource : Resource) : Driver Unit :=
  modify fun c => { c with sys := c.sys.release resource }

def openLibrary : Bool → Driver ℕ := obtain .library
def closeLibrary (n : ℕ) : Driver Unit := giveBack (.library n)
def getInterface : Bool → Driver ℕ := obtain .interface
def dropInterface (n : ℕ) : Driver Unit := giveBack (.interface n)
def allocMutex : Bool → Driver ℕ := obtain .mutex
def freeMutex (n : ℕ) : Driver Unit := giveBack (.mutex n)
def allocDmaList : Bool → Driver ℕ := obtain .dmaList
def freeDmaList (n : ℕ) : Driver Unit := giveBack (.dmaList n)
def freeVec (mem : ℕ) : Driver Unit := giveBack (.block mem)

def allocVec (size : UInt32) (ok : Bool) : Driver ℕ :=
  if ok then
    modifyGet fun c =>
      (c.handles + 1,
        { c with
          handles := c.handles + 1
          sys := c.sys.acquire (.block (c.handles + 1))
          size := Function.update c.size (c.handles + 1) size })
  else
    pure 0

/-- `StartDMA` with the number of entries it returns; 0 when it fails. -/
def startDma (mem : ℕ) (size count : UInt32) : Driver UInt32 := do
  onlyIf (count ≠ 0) (modify fun c => { c with sys := c.sys.acquire (.dma mem size) })
  return count

def endDma (mem : ℕ) (size : UInt32) : Driver Unit := giveBack (.dma mem size)

/-! ## Commands -/

def gpuCommand (effect : Host → Host) (answer : GpuAnswer) : Driver Bool :=
  modifyGet fun c =>
    match answer with
    | .done => (true, { c with host := effect c.host })
    | .refused => (false, c)
    | .lost => (false, { c with host := effect c.host })

def createCommand (id : UInt32) (resource : GpuResource) (answer : GpuAnswer) : Driver Bool := do
  modify fun c => { c with events := .create id (c.host.resources id).isSome :: c.events }
  gpuCommand (fun host => host.create id resource) answer

def chipResourceCreate2D (resourceId format width height : UInt32) : GpuAnswer → Driver Bool :=
  createCommand resourceId (.classic2D format width height)

def chipResourceCreateBlob (resourceId size : UInt32) : GpuAnswer → Driver Bool :=
  createCommand resourceId (.blobGuest size)

def chipResourceCreate3D (resourceId : UInt32) : GpuAnswer → Driver Bool :=
  createCommand resourceId .virgl3D

def chipResourceAttachBacking : GpuAnswer → Driver Bool := gpuCommand id

def chipResourceUnref (resourceId : UInt32) : GpuAnswer → Driver Bool :=
  gpuCommand fun host => host.unref resourceId

/-- The attempts of `SET_SCANOUT` that remain. -/
def setScanoutAttempts (s : Scanout) (answers : ℕ → GpuAnswer) : ℕ → Driver Bool
  | 0 => pure false
  | n + 1 => do
      let ok ← gpuCommand (fun host => host.setScanout s) (answers n)
      if ok then
        return true
      setScanoutAttempts s answers n

/-- `chip_SetScanout` for scanout 0. -/
def chipSetScanout (resourceId x y width height : UInt32) (answers : ℕ → GpuAnswer) :
    Driver Bool :=
  setScanoutAttempts ⟨resourceId, x, y, width, height⟩ answers 3

def chipTransferToHost2D (gs : GpuState) (resourceId : UInt32) (answer : GpuAnswer) :
    Driver Bool :=
  if gs.fbIsBlob ∧ resourceId = gs.fbResourceId then
    modifyGet fun c =>
      (true, { c with events := .skipped resourceId (c.host.resources resourceId) :: c.events })
  else
    gpuCommand id answer

def chipCtxCreate (ctxId : UInt32) : GpuAnswer → Driver Bool :=
  gpuCommand fun host => host.setContext ctxId true

def chipCtxDestroy (ctxId : UInt32) : GpuAnswer → Driver Bool :=
  gpuCommand fun host => host.setContext ctxId false

def chipResourceFlush : GpuAnswer → Driver Bool := gpuCommand id

/-- `VIRTIO_GPU_FORMAT_B8G8R8X8_UNORM`. -/
def formatB8G8R8X8 : UInt32 := 2

end VirtIOGPU.Card
