import VirtIOGPU.Commands.Wrappers
import VirtIOGPU.Lib.Mutex

/-!
# The command wrappers and `io_lock`

All wrappers of the control queue use the same two buffers, `cmd_buf` and `resp_buf`, and take
`io_lock` while they do.  Here they are threads: every store to one of the buffers, every load from
`resp_buf`, every use of the lock and every step of the transaction is an event of its own, so that
other tasks can run in between.

What a wrapper finds in `ChipGPUState`, in the queue or in the reply is the answer to an event, and
any answer is possible: other tasks and the device may have changed it.  `enter` and `leave` mark
the beginning and the end of a function; they do nothing.
-/

namespace VirtIOGPU.Locking

open Lib.Layout Lib.Mutex
open Wrappers (Field Store ScanoutArgs Resource3D Transfer3D CString CapsetInfo ctrlHdr set32 set64
  entryStores nameStores respExpect memEntryArray)

/-! ## Events -/

/-- The functions that use the lock. -/
inductive LockUser where
  | getDisplayInfo | resourceCreate2D | resourceUnref | resourceAttachBacking | setScanout
  | transferToHost2D | getEdid | resourceFlush
  | getCapsetInfo | getCapset | ctxCreate | ctxDestroy | ctxAttachResource | ctxDetachResource
  | resourceCreate3D | transferToHost3D | transferFromHost3D | submit3D | resourceCreateBlob
  | flushAll | compositeTagList
  deriving DecidableEq, Repr

inductive SharedBuffer where
  | cmdBuf
  | respBuf
  deriving DecidableEq, Repr

/-- The fields of `ChipGPUState` that the functions read or write; `chipState` is `g_chip_state`. -/
inductive GsField where
  | chipState | ctrlQueue | cmd3dBuf | hasBlob | fbIsBlob | hasEdid | edidSize
  | fbMem | fbPhys | fbDmaCount | fbDmaList | fbResourceId | virgl2dResource
  | fbMem2 | fbPhys2 | fbDmaCount2 | fbDmaList2 | fbResourceId2 | virgl2dResource2
  | resourceId | fbWidth | fbHeight | fbStride | activeWidth | activeHeight | doubleBuffer
  | boardMem | boardMemSize | iGraphics
  | virgl2dReady | virglCtxError | virglShadersOk | virgl2dCtx | virgl2dVbufRes | virgl2dVe
  | virgl2dFs | virgl2dFsTex | virgl2dSampler | virgl2dSamplerLinear | virgl2dBlend
  | compBlends (op : UInt32) | compNextHandle | compTexRes | compTexView | compTexW | compTexH
  deriving DecidableEq, Repr

inductive Event where
  | enter (f : LockUser)
  | leave (f : LockUser)
  | look (field : GsField)
  | put (field : GsField) (value : UInt32)
  /-- `p[i] = 0` in `chip_zero`. -/
  | clear (buffer : SharedBuffer) (i : ℕ)
  /-- A store to the command in `cmd_buf`. -/
  | fill (l : Struct Field) (store : Store)
  /-- `dst[i] = src[i]` for `cmd3d_buf`. -/
  | stage (i : ℕ)
  /-- `VirtQueue_AddBuf`, with the lengths of what the device may read and write. -/
  | addBuf (readable : List ℕ) (writable : ℕ)
  | notify
  /-- The return of `chip_wait_ctrlq`: from here on the reply is in `resp_buf`. -/
  | await
  /-- `GP32(resp->f)`. -/
  | load (l : Struct Field) (f : Field)
  /-- `resp->f[i]`. -/
  | loadByte (l : Struct Field) (f : Field) (i : ℕ)
  /-- The busy-wait between two attempts of `chip_SetScanout`. -/
  | delay
  /-- The EDID data in `ChipGPUState` are parsed. -/
  | parseEdid
  /-- `chip_convert_rect`. -/
  | convert (mem w h : UInt32)
  | allocResourceId
  | allocVec (bytes : UInt32)
  | freeVec
  /-- The method that the hook replaces. -/
  | original
  deriving DecidableEq, Repr

/-- It changes one of the two buffers. -/
def Event.Writes : Event → Prop
  | .clear _ _ | .fill _ _ => True
  | _ => False

/-- It needs `resp_buf` as the device has left it. -/
def Event.Reads : Event → Prop
  | .await | .load _ _ | .loadByte _ _ _ => True
  | _ => False

instance : DecidablePred Event.Writes
  | .clear _ _ | .fill _ _ => isTrue trivial
  | .enter _ | .leave _ | .look _ | .put _ _ | .stage _ | .addBuf _ _ | .notify | .await
  | .load _ _ | .loadByte _ _ _ | .delay | .parseEdid | .convert _ _ _ | .allocResourceId
  | .allocVec _ | .freeVec | .original => isFalse not_false

instance : DecidablePred Event.Reads
  | .await | .load _ _ | .loadByte _ _ _ => isTrue trivial
  | .enter _ | .leave _ | .look _ | .put _ _ | .clear _ _ | .fill _ _ | .stage _ | .addBuf _ _
  | .notify | .delay | .parseEdid | .convert _ _ _ | .allocResourceId | .allocVec _ | .freeVec
  | .original => isFalse not_false

theorem Event.Reads.not_writes {e : Event} (h : e.Reads) : ¬ e.Writes := by
  cases e with
  | await | load l f | loadByte l f i => exact not_false
  | _ => exact absurd h not_false

abbrev Task := Thread Event

/-- The body of a function between its marks. -/
def function {α : Type} (f : LockUser) (body : Task α) : Task α := do
  act (.enter f)
  let result ← body
  act (.leave f)
  return result

/-- An event answered by a word. -/
def word (e : Event) : Task UInt32 := do
  let n ← event e
  return UInt32.ofNat n

def look (field : GsField) : Task UInt32 := word (.look field)

/-- A field of `ChipGPUState` that is not 0. -/
def isSet (field : GsField) : Task Bool := do
  let value ← look field
  return value != 0

/-- `first && second`. -/
def both (first second : Task Bool) : Task Bool := do
  let holds ← first
  if holds then second else return false

def put (field : GsField) (value : UInt32) : Task Unit := act (.put field value)

/-! ## A transaction -/

/-- `chip_zero`. -/
def chipZero (buffer : SharedBuffer) (n : ℕ) : Task Unit :=
  forEach (List.range n) fun i => act (.clear buffer i)

/-- Zero the two buffers and fill in the structure; `cmdSize` bytes are sent. -/
def prepare (l : Struct Field) (stores : List Store) (cmdSize respSize : ℕ) : Task Unit := do
  chipZero .cmdBuf cmdSize
  chipZero .respBuf respSize
  forEach stores fun store => act (.fill l store)

/-- `chip_do_io` and `chip_do_io_3sg`. -/
def chipDoIo (readable : List ℕ) (respSize : ℕ) : Task UInt32 := do
  let vq ← isSet .ctrlQueue
  if !vq then
    return 0
  let rc ← event (.addBuf readable respSize)
  if rc ≠ 0 then
    return 0
  act .notify
  word .await

/-- The response type in a reply of `written` bytes. -/
def responseType (written : UInt32) : Task UInt32 := do
  if written < 24 then
    return 0
  word (.load ctrlHdr .type)

def chipGpuSend (cmdSize respSize : ℕ) : Task UInt32 := do
  let written ← chipDoIo [cmdSize] respSize
  responseType written

/-- What a wrapper does with the lock when it expects `VIRTIO_GPU_RESP_OK_NODATA`. -/
def requestNodata (l : Struct Field) (stores : List Store) (cmdSize : ℕ) : Task Bool := do
  mutexObtain
  prepare l stores cmdSize (size ctrlHdr)
  let rt ← chipGpuSend cmdSize (size ctrlHdr)
  mutexRelease
  return rt == virtioGpuRespOkNodata

/-! ## 2D commands -/

/-- The loop over the scanouts of the reply. -/
def enabledScanout : List ℕ → Task (Option (UInt32 × UInt32))
  | [] => do
      mutexRelease
      return none
  | i :: rest => do
      let enabled ← word (.load Wrappers.respDisplayInfo (.pmodeEnabled i))
      if enabled ≠ 0 then do
        let width ← word (.load Wrappers.respDisplayInfo (.pmodeWidth i))
        let height ← word (.load Wrappers.respDisplayInfo (.pmodeHeight i))
        mutexRelease
        return some (width, height)
      else enabledScanout rest

def chipGetDisplayInfo : Task (Option (UInt32 × UInt32)) :=
  function .getDisplayInfo do
    mutexObtain
    prepare ctrlHdr [set32 .type 0x0100] (size ctrlHdr) (size Wrappers.respDisplayInfo)
    let rt ← chipGpuSend (size ctrlHdr) (size Wrappers.respDisplayInfo)
    if rt ≠ 0x1101 then do
      mutexRelease
      return none
    else enabledScanout (List.range 16)

def chipResourceCreate2D (id format width height : UInt32) : Task Bool :=
  function .resourceCreate2D
    (requestNodata Wrappers.resourceCreate2D
      [set32 .type 0x0101, set32 .resourceId id, set32 .format format, set32 .width width,
        set32 .height height]
      (size Wrappers.resourceCreate2D))

def chipResourceUnref (id : UInt32) : Task Bool :=
  function .resourceUnref
    (requestNodata Wrappers.resourceUnref [set32 .type 0x0102, set32 .resourceId id]
      (size Wrappers.resourceUnref))

def chipResourceAttachBacking (id : UInt32) (dma : DmaList) : Task Bool :=
  function .resourceAttachBacking
    (let dmaCount := clampCount attachBackingMax dma.count
    requestNodata (Wrappers.resourceAttachBacking ++ memEntryArray dmaCount.toNat)
      ([set32 .type 0x0106, set32 .resourceId id, set32 .nrEntries dmaCount] ++
        entryStores dma dmaCount)
      (32 + 16 * dmaCount).toNat)

/-- The attempts that are left; after each of them but the last one there is a delay. -/
def setScanoutAttempts (args : ScanoutArgs) : ℕ → Task Bool
  | 0 => return false
  | left + 1 => do
      let ok ← requestNodata Wrappers.setScanout
        [set32 .type 0x0103, set32 .rX args.x, set32 .rY args.y, set32 .rWidth args.width,
          set32 .rHeight args.height, set32 .scanoutId args.scanoutId,
          set32 .resourceId args.resourceId]
        (size Wrappers.setScanout)
      if ok then return true
      else if left = 0 then return false
      else do
        act .delay
        setScanoutAttempts args left

def chipSetScanout (args : ScanoutArgs) : Task Bool :=
  function .setScanout (setScanoutAttempts args 3)

def chipTransferToHost2D (id x y width height : UInt32) (offset : UInt64) : Task Bool :=
  function .transferToHost2D do
    let shared ← both (isSet .fbIsBlob) (do return (← look .fbResourceId) == id)
    if shared then
      return true
    requestNodata Wrappers.transferToHost2D
      [set32 .type 0x0105, set32 .rX x, set32 .rY y, set32 .rWidth width, set32 .rHeight height,
        set64 .offset offset, set32 .resourceId id]
      (size Wrappers.transferToHost2D)

def chipGetEdid (scanout : UInt32) : Task Bool :=
  function .getEdid do
    mutexObtain
    prepare Wrappers.getEdid [set32 .type 0x010A, set32 .scanout scanout] (size Wrappers.getEdid)
      (size Wrappers.respEdid)
    let rt ← chipGpuSend (size Wrappers.getEdid) (size Wrappers.respEdid)
    if rt ≠ 0x1104 then do
      mutexRelease
      put .hasEdid 0
      return false
    else do
      let edidSize ← word (.load Wrappers.respEdid .size)
      put .edidSize edidSize
      if edidSize > 1024 then
        put .edidSize 1024
      let copied := if edidSize > 1024 then 1024 else edidSize
      forEach (List.range copied.toNat) fun i => act (.loadByte Wrappers.respEdid .edid i)
      put .hasEdid 1
      mutexRelease
      act .parseEdid
      return true

def chipResourceFlush (id x y width height : UInt32) : Task Bool :=
  function .resourceFlush
    (requestNodata Wrappers.resourceFlush
      [set32 .type 0x0104, set32 .rX x, set32 .rY y, set32 .rWidth width, set32 .rHeight height,
        set32 .resourceId id]
      (size Wrappers.resourceFlush))

/-! ## 3D commands -/

def chipGetCapsetInfo (index : UInt32) : Task (Option CapsetInfo) :=
  function .getCapsetInfo do
    mutexObtain
    prepare Wrappers.getCapsetInfo [set32 .type 0x0108, set32 .capsetIndex index]
      (size Wrappers.getCapsetInfo) (size Wrappers.respCapsetInfo)
    let rt ← chipGpuSend (size Wrappers.getCapsetInfo) (size Wrappers.respCapsetInfo)
    if rt ≠ 0x1102 then do
      mutexRelease
      return none
    else do
      let id ← word (.load Wrappers.respCapsetInfo .capsetId)
      let maxVersion ← word (.load Wrappers.respCapsetInfo .capsetMaxVersion)
      let maxSize ← word (.load Wrappers.respCapsetInfo .capsetMaxSize)
      mutexRelease
      return some (id, maxVersion, maxSize)

/-- The number of bytes in `buf_out`. -/
def chipGetCapset (capsetId capsetVersion bufSize : UInt32) : Task (Option UInt32) :=
  function .getCapset do
    mutexObtain
    prepare Wrappers.getCapset
      [set32 .type 0x0109, set32 .capsetId capsetId, set32 .capsetVersion capsetVersion]
      (size Wrappers.getCapset) (size Wrappers.respCapset)
    let rt ← chipGpuSend (size Wrappers.getCapset) (respExpect bufSize).toNat
    if rt ≠ 0x1103 then do
      mutexRelease
      return none
    else do
      let avail := respExpect bufSize - 24
      let copySize := if bufSize > avail then avail else bufSize
      forEach (List.range copySize.toNat) fun i =>
        act (.loadByte Wrappers.respCapset .capsetData i)
      mutexRelease
      return some copySize

def chipCtxCreate (ctxId : UInt32) (debugName : Option CString) (contextInit : UInt32) :
    Task Bool :=
  function .ctxCreate
    (requestNodata Wrappers.ctxCreate
      ([set32 .type 0x0200, set32 .ctxId ctxId] ++ nameStores debugName ++
        [set32 .contextInit contextInit])
      (size Wrappers.ctxCreate))

def chipCtxDestroy (ctxId : UInt32) : Task Unit :=
  function .ctxDestroy do
    let _ ← requestNodata ctrlHdr [set32 .type 0x0201, set32 .ctxId ctxId] (size ctrlHdr)
    return ()

def chipCtxAttachResource (ctxId id : UInt32) : Task Bool :=
  function .ctxAttachResource
    (requestNodata Wrappers.ctxResource
      [set32 .type 0x0202, set32 .ctxId ctxId, set32 .resourceId id] (size Wrappers.ctxResource))

def chipCtxDetachResource (ctxId id : UInt32) : Task Bool :=
  function .ctxDetachResource
    (requestNodata Wrappers.ctxResource
      [set32 .type 0x0203, set32 .ctxId ctxId, set32 .resourceId id] (size Wrappers.ctxResource))

def chipResourceCreate3D (args : Resource3D) : Task Bool :=
  function .resourceCreate3D
    (requestNodata Wrappers.resourceCreate3D
      [set32 .type 0x0204, set32 .resourceId args.resourceId, set32 .target args.target,
        set32 .format args.format, set32 .bind args.bind, set32 .width args.width,
        set32 .height args.height, set32 .depth args.depth, set32 .arraySize args.arraySize,
        set32 .lastLevel args.lastLevel, set32 .nrSamples args.nrSamples,
        set32 .resourceFlags args.flags]
      (size Wrappers.resourceCreate3D))

/-- What `chip_TransferToHost3D` and `chip_TransferFromHost3D` have in common. -/
def transfer3D (type : UInt32) (args : Transfer3D) : Task Bool :=
  requestNodata Wrappers.transferHost3D
    [set32 .type type, set32 .ctxId args.ctxId, set32 .resourceId args.resourceId,
      set32 .level args.level, set32 .stride args.stride, set32 .layerStride args.layerStride,
      set64 .offset args.offset, set32 .boxX args.box.x, set32 .boxY args.box.y,
      set32 .boxZ args.box.z, set32 .boxW args.box.w, set32 .boxH args.box.h,
      set32 .boxD args.box.d]
    (size Wrappers.transferHost3D)

def chipTransferToHost3D (args : Transfer3D) : Task Bool :=
  function .transferToHost3D (transfer3D 0x0205 args)

def chipTransferFromHost3D (args : Transfer3D) : Task Bool :=
  function .transferFromHost3D (transfer3D 0x0206 args)

def chipSubmit3D (ctxId cmdSize : UInt32) : Task Bool :=
  function .submit3D do
    let cmd3d ← isSet .cmd3dBuf
    if !cmd3d then
      return false
    if cmdSize = 0 then
      return false
    if cmdSize > 64 * 1024 then
      return false
    mutexObtain
    prepare Wrappers.cmdSubmit [set32 .type 0x0207, set32 .ctxId ctxId, set32 .size cmdSize]
      (size Wrappers.cmdSubmit) (size ctrlHdr)
    forEach (List.range cmdSize.toNat) fun i => act (.stage i)
    let written ← chipDoIo [size Wrappers.cmdSubmit, cmdSize.toNat] (size ctrlHdr)
    let rt ← responseType written
    mutexRelease
    return rt == virtioGpuRespOkNodata

def chipResourceCreateBlob (args : BlobArgs) (dma : DmaList) : Task Bool :=
  function .resourceCreateBlob do
    let hasBlob ← isSet .hasBlob
    if !hasBlob then
      return false
    let dmaCount := clampCount createBlobMax dma.count
    requestNodata (Wrappers.resourceCreateBlob ++ memEntryArray dmaCount.toNat)
      ([set32 .type 0x010D, set32 .resourceId args.resourceId, set32 .blobMem args.blobMem,
          set32 .blobFlags args.blobFlags, set32 .nrEntries dmaCount, set64 .blobId args.blobId,
          set64 .size args.size] ++ entryStores dma dmaCount)
      (56 + 16 * dmaCount).toNat

end VirtIOGPU.Locking
