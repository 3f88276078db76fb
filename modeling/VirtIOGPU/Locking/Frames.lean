import VirtIOGPU.Compositing.Pipeline
import VirtIOGPU.Locking.Commands

/-!
# Several commands under one lock

`chip_flush_all` and the hook for `CompositeTagList` take `io_lock` themselves around the commands
that belong together; the wrappers that they call take it once more.  With two buffers the frame is
converted before the lock is taken.

What the commands draw is the matter of `Compositing.Pipeline`, where the same functions are
sequential; here they are threads, and only what they load, store and send is kept.  Undisturbed,
a thread does what the function does, which is shown in `Locking.Bridge`.

```text
function                taken by itself   what comes before the lock
chip_flush_all          once or not       the sizes; with two buffers also the conversion
hook_CompositeTagList   once or not       the checks of the destination and the tags
chip_virgl_composite    never             the hook has taken it
the wrappers            once each         inside the two above a second time
```
-/

namespace VirtIOGPU.Locking

open Card Drawing Lib.Mutex
open Virgl (VirglCall UploadRequest emitted)
open Compositing (StreamData objectBlend objectSamplerView shaderFragment drawCalls stripCall
  Uploadable pipeFmt)

/-- `!first`. -/
def isClear (field : GsField) : Task Bool := do
  let value ← look field
  return value == 0

/-! ## `chip_flush_all` -/

/-- The smaller of two fields, as `first < second ? first : second` computes it. -/
def lookMin (first second : GsField) : Task UInt32 := do
  let a ← look first
  let b ← look second
  if a < b then look first else look second

/-- Both kinds of transfer: with Virgl, and again without it when that has failed. -/
def transferFrame (virgl : Bool) (id3D id2D : Task UInt32) (w h : UInt32) : Task Bool := do
  if virgl then
    let ctx ← look .virgl2dCtx
    let id ← id3D
    let stride ← look .fbStride
    let ok ← chipTransferToHost3D ⟨ctx, id, 0, stride, 0, 0, ⟨0, 0, 0, w, h, 1⟩⟩
    if ok then return true
    else do
      put .virglCtxError 1
      let id ← id2D
      chipTransferToHost2D id 0 0 w h 0
  else do
    let id ← id2D
    chipTransferToHost2D id 0 0 w h 0

/-- `flush_res`. -/
def flushedResource : Task UInt32 := do
  let virgl ← both (isClear .virglCtxError) (isSet .virgl2dReady)
  if virgl then look .resourceId else look .fbResourceId

def flushSingle (w h : UInt32) : Task Unit := do
  mutexObtain
  let mem ← look .fbMem
  act (.convert mem w h)
  let virgl ← both (isSet .virgl2dReady) (isClear .virglCtxError)
  let ok ← transferFrame virgl (look .resourceId) (look .fbResourceId) w h
  if ok then do
    let id ← flushedResource
    let _ ← chipResourceFlush id 0 0 w h
    mutexRelease
  else mutexRelease

/-- The two fields change places. -/
def swap (first second : GsField) : Task Unit := do
  let tmp ← look first
  let other ← look second
  put first other
  put second tmp

def chipSwapBuffers : Task Unit := do
  swap .fbMem .fbMem2
  swap .fbPhys .fbPhys2
  swap .fbDmaCount .fbDmaCount2
  swap .fbDmaList .fbDmaList2
  swap .fbResourceId .fbResourceId2
  swap .virgl2dResource .virgl2dResource2
  let virgl ← both (both (isSet .virgl2dReady) (isClear .virglCtxError)) (isSet .virgl2dResource)
  let id ← if virgl then look .virgl2dResource else look .fbResourceId
  put .resourceId id

/-- From the transfer to the swap of the buffers. -/
def presentBack (useVirgl : Bool) (back2D back3D w h : UInt32) : Task Unit := do
  let backRes := if useVirgl then back3D else back2D
  let _ ← chipSetScanout ⟨0, backRes, 0, 0, w, h⟩
  let _ ← chipResourceFlush backRes 0 0 w h
  chipSwapBuffers
  mutexRelease

def flushDouble (w h : UInt32) : Task Unit := do
  let backMem ← look .fbMem2
  let back2D ← look .fbResourceId2
  let back3D ← look .virgl2dResource2
  let useVirgl ← both (isSet .virgl2dReady) (isClear .virglCtxError)
  let useVirgl := useVirgl && back3D != 0
  act (.convert backMem w h)
  mutexObtain
  if useVirgl then do
    let ctx ← look .virgl2dCtx
    let stride ← look .fbStride
    let ok ← chipTransferToHost3D ⟨ctx, back3D, 0, stride, 0, 0, ⟨0, 0, 0, w, h, 1⟩⟩
    if ok then presentBack true back2D back3D w h
    else do
      put .virglCtxError 1
      let ok ← chipTransferToHost2D back2D 0 0 w h 0
      if ok then presentBack false back2D back3D w h else mutexRelease
  else do
    let ok ← chipTransferToHost2D back2D 0 0 w h 0
    if ok then presentBack false back2D back3D w h else mutexRelease

def chipFlushAll : Task Unit :=
  function .flushAll do
    let present ← both (isSet .chipState) (isSet .fbMem)
    if !present then
      return ()
    let w ← lookMin .activeWidth .fbWidth
    let h ← lookMin .activeHeight .fbHeight
    if w = 0 ∨ h = 0 then
      return ()
    let double ← both (isSet .doubleBuffer) (isSet .fbMem2)
    if double then flushDouble w h else flushSingle w h

/-! ## Compositing -/

/-- What the hook gets beside the call: the bitmaps in memory, and the data of the streams. -/
structure DrawingData where
  address : ℕ → UInt32
  streams : StreamData

/-- `virgl_submit`. -/
def virglSubmit (ctxId : UInt32) (calls : List VirglCall) : Task Bool := do
  let dwords := UInt32.ofNat (emitted calls).length
  if dwords = 0 then
    return true
  let poisoned ← isSet .virglCtxError
  if poisoned then
    return false
  let ok ← chipSubmit3D ctxId (dwords * 4)
  if ok then return true
  else do
    put .virglCtxError 1
    return false

/-- `comp_alloc_handle`. -/
def compAllocHandle : Task UInt32 := do
  let next ← look .compNextHandle
  let handle := if next = 0 then 200 else next
  put .compNextHandle (handle + 1)
  return handle

/-- The loop over the strips; the first argument is how often it may still run. -/
def uploadStrips (data : StreamData) (ctxId : UInt32) (r : UploadRequest) :
    ℕ → UInt32 → Task Bool
  | 0, _ => pure true
  | fuel + 1, rowsDone =>
    if rowsDone < r.h then do
      let rowsThis := r.rowsThis rowsDone
      let ok ← virglSubmit ctxId [stripCall data r rowsDone rowsThis]
      if ok then uploadStrips data ctxId r fuel (rowsDone + rowsThis)
      else return false
    else return true

def chipCompUploadPixels32bpp (data : StreamData) (r : UploadRequest) : Task Bool := do
  let ctxId ← look .virgl2dCtx
  let words ← event (.allocVec (r.cbufSize * 4))
  if words = 0 then
    return false
  let ok ← uploadStrips data ctxId r r.h.toNat 0
  act .freeVec
  return ok

/-- `chip_comp_free_texture` for a texture that is there. -/
def freeTexture : Task Unit := do
  let ctxId ← look .virgl2dCtx
  let view ← look .compTexView
  let _ ← virglSubmit ctxId (if view ≠ 0 then [.destroyObject objectSamplerView view] else [])
  let id ← look .compTexRes
  let _ ← chipCtxDetachResource ctxId id
  let _ ← chipResourceUnref id
  put .compTexRes 0
  put .compTexView 0
  put .compTexW 0
  put .compTexH 0

def chipCompFreeTexture : Task Unit := do
  let present ← isSet .compTexRes
  if present then freeTexture else return ()

/-- The failure of an upload. -/
def discard (ctxId id : UInt32) : Task Bool := do
  let _ ← chipCtxDetachResource ctxId id
  let _ ← chipResourceUnref id
  return false

/-- The view of a texture that has its pixels. -/
def viewTexture (ctxId id format w h : UInt32) : Task Bool := do
  let view ← compAllocHandle
  let submitted ← virglSubmit ctxId [.createSamplerView ⟨view, id, format, 0, 0, 0, 1, 2, 3⟩]
  if submitted then do
    put .compTexRes id
    put .compTexView view
    put .compTexW w
    put .compTexH h
    return true
  else discard ctxId id

/-- A new texture. -/
def makeTexture (data : StreamData) (srcData srcBpr w h : UInt32) (hasAlpha : Bool) :
    Task Bool := do
  let ctxId ← look .virgl2dCtx
  let id ← word .allocResourceId
  -- a 2D texture with a sampler view
  let created ← chipResourceCreate3D ⟨id, 2, pipeFmt hasAlpha, 8, w, h, 1, 1, 0, 0, 0⟩
  if created then do
    let _ ← chipCtxAttachResource ctxId id
    let uploaded ← chipCompUploadPixels32bpp data ⟨id, srcData, srcBpr, 0, 0, w, h⟩
    if uploaded then viewTexture ctxId id (pipeFmt hasAlpha) w h else discard ctxId id
  else return false

/-- Virgl and its shaders have been set up. -/
def pipelineReady : Task Bool := both (isSet .virgl2dReady) (isSet .virglShadersOk)

def chipCompUploadBitmap (data : StreamData) (srcData srcBpr w h : UInt32) (hasAlpha : Bool) :
    Task Bool := do
  let ready ← pipelineReady
  if !ready then
    return false
  if ¬ Uploadable srcData w h then
    return false
  chipCompFreeTexture
  makeTexture data srcData srcBpr w h hasAlpha

/-- A quad that has been drawn is flushed. -/
def flushIf (drawn : Bool) (x y w h : UInt32) : Task Unit := do
  if drawn then do
    let id ← look .resourceId
    let _ ← chipResourceFlush id x y w h
    return ()
  else return ()

def chipCompDrawTexturedQuad (data : StreamData) (x y w h : UInt32) (useLinear : Bool) :
    Task Bool := do
  let ready ← pipelineReady
  if !ready then
    return false
  let present ← both (isSet .compTexView) (isSet .virgl2dVbufRes)
  if !present then
    return false
  let ctxId ← look .virgl2dCtx
  let fsTex ← look .virgl2dFsTex
  let sampler ← look (if useLinear then .virgl2dSamplerLinear else .virgl2dSampler)
  let view ← look .compTexView
  let vbuf ← look .virgl2dVbufRes
  let ok ← virglSubmit ctxId
    ([.bindShader shaderFragment fsTex, .bindSamplerStates shaderFragment 0 [sampler],
      .setSamplerViews shaderFragment 0 [view]] ++ drawCalls data vbuf)
  flushIf ok x y w h
  let fs ← look .virgl2dFs
  let _ ← virglSubmit ctxId [.bindShader shaderFragment fs]
  return ok

def chipVirglDrawColoredQuad (data : StreamData) (x y w h : UInt32) : Task Bool := do
  let ready ← pipelineReady
  if !ready then
    return false
  let present ← both (isSet .virgl2dVbufRes) (isSet .virgl2dVe)
  if !present then
    return false
  let ctxId ← look .virgl2dCtx
  let vbuf ← look .virgl2dVbufRes
  let ok ← virglSubmit ctxId (drawCalls data vbuf)
  flushIf ok x y w h
  return ok

/-- From the restored blend state to the end. -/
def restoreBlend (ctxId : UInt32) (ok : Bool) : Task CompError := do
  let blend ← look .virgl2dBlend
  let _ ← virglSubmit ctxId [.bindObject objectBlend blend]
  return if ok then .success else .generic

/-- `src_bpr`. -/
def srcBpr : Source → UInt32
  | .bitMap b => b.bytesPerRow.toUInt32
  | _ => 0

/-- A colour as the source. -/
def compositeSolid (env : DrawingData) (ctxId : UInt32) (args : CompArgs) : Task CompError := do
  let ok ← chipVirglDrawColoredQuad env.streams args.dstX.toUInt32 args.dstY.toUInt32
    args.dstW.toUInt32 args.dstH.toUInt32
  restoreBlend ctxId ok

/-- A bitmap as the source. -/
def compositeBitMap (env : DrawingData) (ctxId : UInt32) (source : Source) (format : RgbfType)
    (args : CompArgs) : Task CompError := do
  if chipFormatBpp format ≠ 4 then
    return .softwareFallback
  if ¬ args.RegionOk then
    return .softwareFallback
  let uploaded ← chipCompUploadBitmap env.streams (source.region env.address args.srcX args.srcY)
    (srcBpr source) args.srcW.toUInt32 args.srcH.toUInt32 (format == .a8r8g8b8)
  if uploaded then do
    let ok ← chipCompDrawTexturedQuad env.streams args.dstX.toUInt32 args.dstY.toUInt32
      args.dstW.toUInt32 args.dstH.toUInt32 args.flags.srcFilter
    chipCompFreeTexture
    restoreBlend ctxId ok
  else return .outOfMemory

/-- From the operator's blend state on. -/
def compositeBound (env : DrawingData) (operator : UInt32) (source : Source) (format : RgbfType)
    (args : CompArgs) : Task CompError := do
  let ctxId ← look .virgl2dCtx
  let blend ← look (.compBlends operator)
  let bound ← virglSubmit ctxId [.bindObject objectBlend blend]
  if !bound then
    return .generic
  if source = .solidColor then compositeSolid env ctxId args
  else compositeBitMap env ctxId source format args

def chipVirglComposite (env : DrawingData) (operator : UInt32) (source : Source)
    (format : RgbfType) (args : CompArgs) : Task CompError := do
  let ready ← pipelineReady
  if !ready then
    return .generic
  if operator ≥ 15 then
    return .unknownOperator
  if args.flags.forceSoftware then
    return .softwareFallback
  if args.flags.color1Modulate then
    return .softwareFallback
  let blend ← look (.compBlends operator)
  if blend = 0 then
    return .softwareFallback
  if args.dstW ≤ 0 ∨ args.dstH ≤ 0 then
    return .value
  if source ≠ .solidColor ∧ (args.srcW ≠ args.dstW ∨ args.srcH ≠ args.dstH) then
    return .softwareFallback
  compositeBound env operator source format args

/-- `is_ours`. -/
def isOurs (address : UInt32) : Task Bool := do
  let boardMem ← look .boardMem
  if boardMem ≤ address then do
    let start ← look .boardMem
    let size ← look .boardMemSize
    return address < start + size
  else return false

/-- From the arguments on; `none` is the result of the original method. -/
def attemptHardware (env : DrawingData) (call : CompositeCall) (args : CompArgs) :
    Task (Option CompError) := do
  let double ← isSet .doubleBuffer
  if double then do
    act .original
    return none
  else do
    let format := call.source.format (← isSet .iGraphics)
    if chipFormatBpp format ≠ 4 then do
      act .original
      return none
    else do
      mutexObtain
      let result ← chipVirglComposite env call.operator call.source format args
      mutexRelease
      act .original
      return if result = .success then some result else none

def hookCompositeTagList (env : DrawingData) (call : CompositeCall) : Task (Option CompError) :=
  function .compositeTagList do
    let ready ← both (isSet .chipState) (isSet .virgl2dReady)
    match ready, call.destination with
    | true, some destination => do
      let ours ← isOurs (env.address destination.planes0)
      if !ours then do
        act .original
        return none
      else do
        let args := call.args (← isSet .iGraphics)
        if args.hasVertexArray = true ∨ args.hasAlphaMask = true then do
          act .original
          return none
        else attemptHardware env call args
    | _, _ => do
      act .original
      return none

/-! ## All of them -/

/-- What a task may call. -/
inductive GpuCall where
  | getDisplayInfo
  | resourceCreate2D (id format width height : UInt32)
  | resourceUnref (id : UInt32)
  | resourceAttachBacking (id : UInt32) (dma : DmaList)
  | setScanout (args : Wrappers.ScanoutArgs)
  | transferToHost2D (id x y width height : UInt32) (offset : UInt64)
  | getEdid (scanout : UInt32)
  | resourceFlush (id x y width height : UInt32)
  | getCapsetInfo (index : UInt32)
  | getCapset (capsetId capsetVersion bufSize : UInt32)
  | ctxCreate (ctxId : UInt32) (debugName : Option Wrappers.CString) (contextInit : UInt32)
  | ctxDestroy (ctxId : UInt32)
  | ctxAttachResource (ctxId id : UInt32)
  | ctxDetachResource (ctxId id : UInt32)
  | resourceCreate3D (args : Wrappers.Resource3D)
  | transferToHost3D (args : Wrappers.Transfer3D)
  | transferFromHost3D (args : Wrappers.Transfer3D)
  | submit3D (ctxId cmdSize : UInt32)
  | resourceCreateBlob (args : BlobArgs) (dma : DmaList)
  | flushAll
  | compositeTagList (env : DrawingData) (call : CompositeCall)

/-- The caller does not use the result. -/
def ignore {α : Type} (m : Task α) : Task Unit := do
  let _ ← m
  return ()

def GpuCall.code : GpuCall → Task Unit
  | .getDisplayInfo => ignore chipGetDisplayInfo
  | .resourceCreate2D id format width height =>
      ignore (chipResourceCreate2D id format width height)
  | .resourceUnref id => ignore (chipResourceUnref id)
  | .resourceAttachBacking id dma => ignore (chipResourceAttachBacking id dma)
  | .setScanout args => ignore (chipSetScanout args)
  | .transferToHost2D id x y width height offset =>
      ignore (chipTransferToHost2D id x y width height offset)
  | .getEdid scanout => ignore (chipGetEdid scanout)
  | .resourceFlush id x y width height => ignore (chipResourceFlush id x y width height)
  | .getCapsetInfo index => ignore (chipGetCapsetInfo index)
  | .getCapset capsetId capsetVersion bufSize =>
      ignore (chipGetCapset capsetId capsetVersion bufSize)
  | .ctxCreate ctxId debugName contextInit =>
      ignore (chipCtxCreate ctxId debugName contextInit)
  | .ctxDestroy ctxId => chipCtxDestroy ctxId
  | .ctxAttachResource ctxId id => ignore (chipCtxAttachResource ctxId id)
  | .ctxDetachResource ctxId id => ignore (chipCtxDetachResource ctxId id)
  | .resourceCreate3D args => ignore (chipResourceCreate3D args)
  | .transferToHost3D args => ignore (chipTransferToHost3D args)
  | .transferFromHost3D args => ignore (chipTransferFromHost3D args)
  | .submit3D ctxId cmdSize => ignore (chipSubmit3D ctxId cmdSize)
  | .resourceCreateBlob args dma => ignore (chipResourceCreateBlob args dma)
  | .flushAll => chipFlushAll
  | .compositeTagList env call => ignore (hookCompositeTagList env call)

end VirtIOGPU.Locking
