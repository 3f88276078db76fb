import VirtIOGPU.Commands.Backing
import VirtIOGPU.Display.Edid
import VirtIOGPU.Lib.Layout

/-!
# The command wrappers

Every wrapper of `chip_gpu_cmds.c` and `chip_gpu_3d.c` zeroes the front of `cmd_buf` and of
`resp_buf`, fills in a structure field by field, hands the two buffers to the device and reads
the reply from `resp_buf`.  Here the buffers are memories of bytes with their earlier contents,
the structures are those of `virtio_gpu_proto.h`, and a store `cmd->f = GP32(v)` is a native
store of the swapped number.

What the device does is a function of all that it has been handed.  Of the rest of
`ChipGPUState` the model has the fields that decide what a wrapper sends, and the EDID data.

## Layout of a wrapper

```text
step                                        model                   source
zero the fronts, write the fields           prepare                 memset, cmd->f = ...
hand over and wait, read `type`             chipGpuSend             chip_do_io, resp->type
compare with the type that is expected      requestNodata           == VIRTIO_GPU_RESP_OK_NODATA
try again up to three times                 setScanoutAttempts      chip_SetScanout
a transfer first, then the command          chipCursorUpdate        chip_CursorUpdate
```

`Commands.Encoding` says what the device reads, `Commands.StaleBuffers` that nothing of an earlier
command reaches it, and `Commands.Bridge` connects the two commands with memory entries to the
bytes of `Commands.Backing`.
-/

namespace VirtIOGPU.Wrappers

open Lib.ByteOrder Lib.Memory Lib.Layout

/-! ## Structures -/

/-- The fields of the structures; `rX` is `r.x`, `boxX` is `box.x`, and so on. -/
inductive Field where
  | type | flags | fenceId | ctxId | ringIdx | hdrPadding
  | resourceId | format | width | height | padding
  | rX | rY | rWidth | rHeight
  | scanoutId | offset | nrEntries
  | entryAddr (i : ℕ) | entryLength (i : ℕ) | entryPadding (i : ℕ)
  | scanout | size | edid
  | pmodeX (i : ℕ) | pmodeY (i : ℕ) | pmodeWidth (i : ℕ) | pmodeHeight (i : ℕ)
  | pmodeEnabled (i : ℕ) | pmodeFlags (i : ℕ)
  | posScanoutId | posX | posY | posPadding | hotX | hotY
  | capsetIndex | capsetId | capsetVersion | capsetMaxVersion | capsetMaxSize | capsetData
  | nlen | contextInit | debugName (i : ℕ)
  | target | bind | depth | arraySize | lastLevel | nrSamples | resourceFlags
  | boxX | boxY | boxZ | boxW | boxH | boxD | level | stride | layerStride
  | blobMem | blobFlags | blobId
  deriving DecidableEq, Repr

/-- `struct virtio_gpu_ctrl_hdr`. -/
def ctrlHdr : Struct Field :=
  [(.type, 4), (.flags, 4), (.fenceId, 8), (.ctxId, 4), (.ringIdx, 1), (.hdrPadding, 3)]

def rect : Struct Field := [(.rX, 4), (.rY, 4), (.rWidth, 4), (.rHeight, 4)]

def respDisplayInfo : Struct Field :=
  ctrlHdr ++ (List.range 16).flatMap fun i =>
    [(.pmodeX i, 4), (.pmodeY i, 4), (.pmodeWidth i, 4), (.pmodeHeight i, 4),
      (.pmodeEnabled i, 4), (.pmodeFlags i, 4)]

def resourceCreate2D : Struct Field :=
  ctrlHdr ++ [(.resourceId, 4), (.format, 4), (.width, 4), (.height, 4)]

def resourceUnref : Struct Field := ctrlHdr ++ [(.resourceId, 4), (.padding, 4)]

def setScanout : Struct Field := ctrlHdr ++ rect ++ [(.scanoutId, 4), (.resourceId, 4)]

def resourceFlush : Struct Field := ctrlHdr ++ rect ++ [(.resourceId, 4), (.padding, 4)]

def transferToHost2D : Struct Field :=
  ctrlHdr ++ rect ++ [(.offset, 8), (.resourceId, 4), (.padding, 4)]

def resourceAttachBacking : Struct Field := ctrlHdr ++ [(.resourceId, 4), (.nrEntries, 4)]

/-- `struct virtio_gpu_mem_entry`, `count` times. -/
def memEntryArray (count : ℕ) : Struct Field :=
  (List.range count).flatMap fun i => [(.entryAddr i, 8), (.entryLength i, 4), (.entryPadding i, 4)]

def getEdid : Struct Field := ctrlHdr ++ [(.scanout, 4), (.padding, 4)]

def respEdid : Struct Field := ctrlHdr ++ [(.size, 4), (.padding, 4), (.edid, 1024)]

def updateCursor : Struct Field :=
  ctrlHdr ++ [(.posScanoutId, 4), (.posX, 4), (.posY, 4), (.posPadding, 4)] ++
    [(.resourceId, 4), (.hotX, 4), (.hotY, 4), (.padding, 4)]

def getCapsetInfo : Struct Field := ctrlHdr ++ [(.capsetIndex, 4), (.padding, 4)]

def respCapsetInfo : Struct Field :=
  ctrlHdr ++ [(.capsetId, 4), (.capsetMaxVersion, 4), (.capsetMaxSize, 4), (.padding, 4)]

def getCapset : Struct Field := ctrlHdr ++ [(.capsetId, 4), (.capsetVersion, 4)]

def respCapset : Struct Field := ctrlHdr ++ [(.capsetData, 2048)]

def ctxCreate : Struct Field :=
  ctrlHdr ++ [(.nlen, 4), (.contextInit, 4)] ++ (List.range 64).map fun i => (.debugName i, 1)

def ctxResource : Struct Field := ctrlHdr ++ [(.resourceId, 4), (.padding, 4)]

def resourceCreate3D : Struct Field :=
  ctrlHdr ++ [(.resourceId, 4), (.target, 4), (.format, 4), (.bind, 4), (.width, 4), (.height, 4),
    (.depth, 4), (.arraySize, 4), (.lastLevel, 4), (.nrSamples, 4), (.resourceFlags, 4),
    (.padding, 4)]

def transferHost3D : Struct Field :=
  ctrlHdr ++ [(.boxX, 4), (.boxY, 4), (.boxZ, 4), (.boxW, 4), (.boxH, 4), (.boxD, 4)] ++
    [(.offset, 8), (.resourceId, 4), (.level, 4), (.stride, 4), (.layerStride, 4)]

def cmdSubmit : Struct Field := ctrlHdr ++ [(.size, 4), (.padding, 4)]

def resourceCreateBlob : Struct Field :=
  ctrlHdr ++ [(.resourceId, 4), (.blobMem, 4), (.blobFlags, 4), (.nrEntries, 4), (.blobId, 8),
    (.size, 8)]

/-- A native store to a field: the width of what is stored, and its number. -/
structure Store where
  field : Field
  width : ℕ
  native : ℕ
  deriving DecidableEq, Repr

/-- `cmd->f = GP32(v)`. -/
def set32 (f : Field) (v : UInt32) : Store := ⟨f, 4, (gp32 v).toNat⟩
/-- `cmd->f = GP64(v)`. -/
def set64 (f : Field) (v : UInt64) : Store := ⟨f, 8, (gp64 v).toNat⟩
/-- `cmd->f = b` for a byte. -/
def setByte (f : Field) (b : UInt8) : Store := ⟨f, 1, b.toNat⟩

/-- The structure with the stores made to it. -/
def fillIn (l : Struct Field) (stores : List Store) (m : Mem UInt8) : Mem UInt8 :=
  fill l (stores.map fun s => (s.field, s.native)) m

/-- `GP32(resp->f)`. -/
def load32 (l : Struct Field) (m : Mem UInt8) (f : Field) : UInt32 :=
  gp32 (UInt32.ofNat (ofBE ((bytes m (Lib.Layout.offset l f) 4).map UInt8.toNat)))

/-! ## State -/

inductive GpuQueue where
  | control
  | cursor
  deriving DecidableEq, Repr

/-- What `VirtQueue_AddBuf` gets: the buffers that the device reads, and the length of the one
that it may write. -/
structure Message where
  queue : GpuQueue
  parts : List (List UInt8)
  writable : ℕ
  deriving DecidableEq, Repr

/-- What a wrapper gets back: the byte count of the used entry, which is 0 after an error or a
timeout, and what the device has written to the front of `resp_buf`. -/
structure Reply where
  written : UInt32
  data : List UInt8
  deriving DecidableEq, Repr

/-- What the wrappers use of `ChipGPUState` besides the buffers. -/
structure ChannelFields where
  /-- `vqs[VIRTIO_GPU_CTRLQ]` is not `NULL`. -/
  ctrlQueue : Bool
  cursorQueue : Bool
  cursorCmdBuf : Bool
  cmd3dBuf : Bool
  fbIsBlob : Bool
  fbResourceId : UInt32
  hasBlob : Bool
  cursorCreated : Bool
  cursorResourceId : UInt32
  cursorX : Int16
  cursorY : Int16
  cursorLastSentX : Int16
  cursorLastSentY : Int16
  edid : Display.EdidState

structure Channel where
  cmdBuf : Mem UInt8
  respBuf : Mem UInt8
  cursorCmdBuf : Mem UInt8
  cmd3dBuf : Mem UInt8
  gs : ChannelFields
  /-- What the device has been handed, the latest first; for statements and the device only. -/
  handed : List Message

/-- The card has a control queue and nothing else. -/
def ChannelFields.bare : ChannelFields where
  ctrlQueue := true
  cursorQueue := false
  cursorCmdBuf := false
  cmd3dBuf := false
  fbIsBlob := false
  fbResourceId := 0
  hasBlob := false
  cursorCreated := false
  cursorResourceId := 0
  cursorX := 0
  cursorY := 0
  cursorLastSentX := 0
  cursorLastSentY := 0
  edid := ⟨false, 0, fun _ => 0, [], 0, 0⟩

/-- A fresh channel whose buffers hold `b` everywhere. -/
def Channel.filled (gs : ChannelFields) (b : UInt8) : Channel where
  cmdBuf := fun _ => b
  respBuf := fun _ => b
  cursorCmdBuf := fun _ => b
  cmd3dBuf := fun _ => b
  gs := gs
  handed := []

def Channel.bare : Channel := .filled .bare 255

abbrev GpuM := StateM Channel

/-- The device as the wrappers see it. -/
abbrev GpuDevice := List Message → Reply

/-- Every command is answered by `VIRTIO_GPU_RESP_OK_NODATA`. -/
def accepting : GpuDevice := fun _ => ⟨24, [0x00, 0x11, 0, 0]⟩

/-- `chip_zero`. -/
def chipZero (n : ℕ) (m : Mem UInt8) : Mem UInt8 := up n (fun i m => Function.update m i 0) m

theorem chipZero_eq (n : ℕ) (m : Mem UInt8) : chipZero n m = overwrite 0 n (fun _ => 0) m :=
  up_update n (fun _ => 0) m

/-! ## Sending -/

/-- `chip_do_io` with the parts that the device reads. -/
def chipDoIo (device : GpuDevice) (parts : Channel → List (List UInt8)) (respSize : ℕ) :
    GpuM UInt32 :=
  modifyGet fun c =>
    if c.gs.ctrlQueue then
      let message : Message := ⟨.control, parts c, respSize⟩
      let reply := device (message :: c.handed)
      (reply.written,
        { c with
          handed := message :: c.handed
          respBuf := overwrite 0 reply.data.length (fun i => reply.data.getD i 0) c.respBuf })
    else (0, c)

/-- The response type in a reply of `written` bytes; a reply without a header has none. -/
def responseType (written : UInt32) : GpuM UInt32 := do
  if written < 24 then
    return 0
  else
    let c ← get
    return load32 ctrlHdr c.respBuf .type

/-- Zero the two buffers and fill in the structure; `cmdSize` bytes are sent. -/
def prepare (l : Struct Field) (stores : List Store) (cmdSize respSize : ℕ) : GpuM PUnit := do
  modify fun c => { c with cmdBuf := chipZero cmdSize c.cmdBuf }
  modify fun c => { c with respBuf := chipZero respSize c.respBuf }
  modify fun c => { c with cmdBuf := fillIn l stores c.cmdBuf }

/-- `chip_gpu_send`. -/
def chipGpuSend (device : GpuDevice) (cmdSize respSize : ℕ) : GpuM UInt32 := do
  let written ← chipDoIo device (fun c => [bytes c.cmdBuf 0 cmdSize]) respSize
  responseType written

/-- The body of a wrapper up to the response type. -/
def request (device : GpuDevice) (l : Struct Field) (stores : List Store)
    (cmdSize respSize : ℕ) : GpuM UInt32 := do
  prepare l stores cmdSize respSize
  chipGpuSend device cmdSize respSize

/-- A wrapper that expects `VIRTIO_GPU_RESP_OK_NODATA`. -/
def requestNodata (device : GpuDevice) (l : Struct Field) (stores : List Store)
    (cmdSize : ℕ) : GpuM Bool := do
  let rt ← request device l stores cmdSize (size ctrlHdr)
  return rt == virtioGpuRespOkNodata

/-! ## 2D commands -/

/-- The first enabled scanout of the reply. -/
def enabledScanout (respBuf : Mem UInt8) : Option (UInt32 × UInt32) :=
  (List.range 16).findSome? fun i =>
    if load32 respDisplayInfo respBuf (.pmodeEnabled i) ≠ 0 then
      some (load32 respDisplayInfo respBuf (.pmodeWidth i),
        load32 respDisplayInfo respBuf (.pmodeHeight i))
    else none

def chipGetDisplayInfo (device : GpuDevice) : GpuM (Option (UInt32 × UInt32)) := do
  let rt ← request device ctrlHdr [set32 .type 0x0100] (size ctrlHdr) (size respDisplayInfo)
  if rt ≠ 0x1101 then
    return none
  else
    let c ← get
    return enabledScanout c.respBuf

def chipResourceCreate2D (device : GpuDevice) (id format width height : UInt32) : GpuM Bool :=
  requestNodata device resourceCreate2D
    [set32 .type 0x0101, set32 .resourceId id, set32 .format format, set32 .width width,
      set32 .height height]
    (size resourceCreate2D)

def chipResourceUnref (device : GpuDevice) (id : UInt32) : GpuM Bool :=
  requestNodata device resourceUnref [set32 .type 0x0102, set32 .resourceId id]
    (size resourceUnref)

/-- The loop over `dma_list`. -/
def entryStores (dma : DmaList) (dmaCount : UInt32) : List Store :=
  (List.range dmaCount.toNat).flatMap fun i =>
    let entry := dma.entries.getD i ⟨0, 0⟩
    [set64 (.entryAddr i) entry.physicalAddress.toUInt64, set32 (.entryLength i) entry.blockLength,
      ⟨.entryPadding i, 4, 0⟩]

def chipResourceAttachBacking (device : GpuDevice) (id : UInt32) (dma : DmaList) : GpuM Bool :=
  let dmaCount := clampCount attachBackingMax dma.count
  let cmdSize := 32 + 16 * dmaCount
  requestNodata device (resourceAttachBacking ++ memEntryArray dmaCount.toNat)
    ([set32 .type 0x0106, set32 .resourceId id, set32 .nrEntries dmaCount] ++
      entryStores dma dmaCount)
    cmdSize.toNat

/-- The arguments of `chip_SetScanout`. -/
structure ScanoutArgs where
  scanoutId : UInt32
  resourceId : UInt32
  x : UInt32
  y : UInt32
  width : UInt32
  height : UInt32
  deriving DecidableEq, Repr

/-- The attempts that are left. -/
def setScanoutAttempts (device : GpuDevice) (args : ScanoutArgs) : ℕ → GpuM Bool
  | 0 => return false
  | attempts + 1 => do
      let ok ← requestNodata device setScanout
        [set32 .type 0x0103, set32 .rX args.x, set32 .rY args.y, set32 .rWidth args.width,
          set32 .rHeight args.height, set32 .scanoutId args.scanoutId,
          set32 .resourceId args.resourceId]
        (size setScanout)
      if ok then return true
      else setScanoutAttempts device args attempts

def chipSetScanout (device : GpuDevice) (args : ScanoutArgs) : GpuM Bool :=
  setScanoutAttempts device args 3

def chipTransferToHost2D (device : GpuDevice) (id x y width height : UInt32) (offset : UInt64) :
    GpuM Bool := do
  let c ← get
  if c.gs.fbIsBlob ∧ id = c.gs.fbResourceId then
    return true
  else
    requestNodata device transferToHost2D
      [set32 .type 0x0105, set32 .rX x, set32 .rY y, set32 .rWidth width, set32 .rHeight height,
        set64 .offset offset, set32 .resourceId id]
      (size transferToHost2D)

/-- `struct virtio_gpu_resp_edid` in `resp_buf`. -/
def edidReply (respBuf : Mem UInt8) : Display.EdidReply where
  type := load32 respEdid respBuf .type
  size := load32 respEdid respBuf .size
  edid := fun i => respBuf (Lib.Layout.offset respEdid .edid + i)

def chipGetEdid (device : GpuDevice) (scanout : UInt32) : GpuM Bool := do
  let rt ← request device getEdid [set32 .type 0x010A, set32 .scanout scanout] (size getEdid)
    (size respEdid)
  modifyGet fun c =>
    let parsed := (Display.chipGetEdid c.gs.edid { edidReply c.respBuf with type := rt } []).1
    (parsed.1, { c with gs := { c.gs with edid := parsed.2 } })

def chipResourceFlush (device : GpuDevice) (id x y width height : UInt32) : GpuM Bool :=
  requestNodata device resourceFlush
    [set32 .type 0x0104, set32 .rX x, set32 .rY y, set32 .rWidth width, set32 .rHeight height,
      set32 .resourceId id]
    (size resourceFlush)

/-! ## The cursor -/

def chipCursorSend (type id x y hotX hotY : UInt32) : GpuM PUnit :=
  modify fun c =>
    if c.gs.cursorQueue ∧ c.gs.cursorCmdBuf then
      let cmd := fillIn updateCursor
        [set32 .type type, set32 .posScanoutId 0, set32 .posX x, set32 .posY y,
          set32 .resourceId id, set32 .hotX hotX, set32 .hotY hotY]
        (chipZero (size updateCursor) c.cursorCmdBuf)
      { c with
        cursorCmdBuf := cmd
        handed := ⟨.cursor, [bytes cmd 0 (size updateCursor)], 0⟩ :: c.handed }
    else c

/-- `(v < 0) ? 0 : (uint32)v`. -/
def clampPos (v : Int16) : UInt32 := if v < 0 then 0 else v.toInt32.toUInt32

def chipCursorUpdate (device : GpuDevice) (hotX hotY : UInt32) : GpuM PUnit := do
  let c ← get
  if c.gs.cursorCreated then
    let _ ← chipTransferToHost2D device c.gs.cursorResourceId 0 0 64 64 0
    chipCursorSend 0x0300 c.gs.cursorResourceId (clampPos c.gs.cursorX)
      (clampPos c.gs.cursorY) hotX hotY
    modify fun c =>
      { c with
        gs := { c.gs with cursorLastSentX := c.gs.cursorX, cursorLastSentY := c.gs.cursorY } }
  else
    return ⟨⟩

def chipCursorMove (x y : Int16) : GpuM PUnit := do
  let c ← get
  if c.gs.cursorCreated then
    modify fun c => { c with gs := { c.gs with cursorX := x, cursorY := y } }
    chipCursorSend 0x0301 c.gs.cursorResourceId (clampPos x) (clampPos y) 0 0
  else
    return ⟨⟩

def chipCursorHide : GpuM PUnit := do
  let c ← get
  if c.gs.cursorCreated then
    chipCursorSend 0x0300 0 0 0 0 0
  else
    return ⟨⟩

/-! ## 3D commands -/

/-- What `chip_GetCapsetInfo` returns: the id, the version and the size. -/
abbrev CapsetInfo := UInt32 × UInt32 × UInt32

def chipGetCapsetInfo (device : GpuDevice) (index : UInt32) : GpuM (Option CapsetInfo) := do
  let rt ← request device getCapsetInfo [set32 .type 0x0108, set32 .capsetIndex index]
    (size getCapsetInfo) (size respCapsetInfo)
  if rt ≠ 0x1102 then
    return none
  else
    let c ← get
    return some (load32 respCapsetInfo c.respBuf .capsetId,
      load32 respCapsetInfo c.respBuf .capsetMaxVersion,
      load32 respCapsetInfo c.respBuf .capsetMaxSize)

/-- The reply that `chip_GetCapset` asks for, 4096 bytes at most. -/
def respExpect (bufSize : UInt32) : UInt32 := if 24 + bufSize > 4096 then 4096 else 24 + bufSize

/-- The data in `buf_out`; their number is `*actual_size_out`. -/
def chipGetCapset (device : GpuDevice) (capsetId capsetVersion bufSize : UInt32) :
    GpuM (Option (List UInt8)) := do
  prepare getCapset
    [set32 .type 0x0109, set32 .capsetId capsetId, set32 .capsetVersion capsetVersion]
    (size getCapset) (size respCapset)
  let rt ← chipGpuSend device (size getCapset) (respExpect bufSize).toNat
  if rt ≠ 0x1103 then
    return none
  else
    let avail := respExpect bufSize - 24
    let copySize := if bufSize > avail then avail else bufSize
    let c ← get
    return some (bytes c.respBuf (Lib.Layout.offset respCapset .capsetData) copySize.toNat)

/-- A string of C, without its terminating zero byte. -/
structure CString where
  chars : List UInt8
  ne_zero : ∀ b ∈ chars, b ≠ 0

/-- The byte at `i` of the string with its terminator. -/
def CString.at (s : CString) (i : ℕ) : UInt8 := s.chars.getD i 0

/-- `while (nlen < 63 && debug_name[nlen])`: the stores and the final `nlen`. -/
def nameLoop (s : CString) (nlen : ℕ) : List Store × ℕ :=
  if nlen < 63 ∧ s.at nlen ≠ 0 then
    let rest := nameLoop s (nlen + 1)
    (setByte (.debugName nlen) (s.at nlen) :: rest.1, rest.2)
  else ([], nlen)
termination_by 63 - nlen

/-- The stores for `debug_name` and `nlen`. -/
def nameStores : Option CString → List Store
  | none => [set32 .nlen 0]
  | some s =>
      let (stores, nlen) := nameLoop s 0
      stores ++ [setByte (.debugName nlen) 0, set32 .nlen (UInt32.ofNat nlen)]

def chipCtxCreate (device : GpuDevice) (ctxId : UInt32) (debugName : Option CString)
    (contextInit : UInt32) : GpuM Bool :=
  requestNodata device ctxCreate
    ([set32 .type 0x0200, set32 .ctxId ctxId] ++ nameStores debugName ++
      [set32 .contextInit contextInit])
    (size ctxCreate)

def chipCtxDestroy (device : GpuDevice) (ctxId : UInt32) : GpuM PUnit := do
  let _ ← request device ctrlHdr [set32 .type 0x0201, set32 .ctxId ctxId] (size ctrlHdr)
    (size ctrlHdr)
  return ⟨⟩

def chipCtxAttachResource (device : GpuDevice) (ctxId id : UInt32) : GpuM Bool :=
  requestNodata device ctxResource
    [set32 .type 0x0202, set32 .ctxId ctxId, set32 .resourceId id] (size ctxResource)

def chipCtxDetachResource (device : GpuDevice) (ctxId id : UInt32) : GpuM Bool :=
  requestNodata device ctxResource
    [set32 .type 0x0203, set32 .ctxId ctxId, set32 .resourceId id] (size ctxResource)

/-- The arguments of `chip_ResourceCreate3D`. -/
structure Resource3D where
  resourceId : UInt32
  target : UInt32
  format : UInt32
  bind : UInt32
  width : UInt32
  height : UInt32
  depth : UInt32
  arraySize : UInt32
  lastLevel : UInt32
  nrSamples : UInt32
  flags : UInt32
  deriving DecidableEq, Repr

def chipResourceCreate3D (device : GpuDevice) (args : Resource3D) : GpuM Bool :=
  requestNodata device resourceCreate3D
    [set32 .type 0x0204, set32 .resourceId args.resourceId, set32 .target args.target,
      set32 .format args.format, set32 .bind args.bind, set32 .width args.width,
      set32 .height args.height, set32 .depth args.depth, set32 .arraySize args.arraySize,
      set32 .lastLevel args.lastLevel, set32 .nrSamples args.nrSamples,
      set32 .resourceFlags args.flags]
    (size resourceCreate3D)

/-- `struct virtio_gpu_box`, in the CPU's byte order. -/
structure GpuBox where
  x : UInt32
  y : UInt32
  z : UInt32
  w : UInt32
  h : UInt32
  d : UInt32
  deriving DecidableEq, Repr

/-- The arguments of the two transfers of 3D resources. -/
structure Transfer3D where
  ctxId : UInt32
  resourceId : UInt32
  level : UInt32
  stride : UInt32
  layerStride : UInt32
  offset : UInt64
  box : GpuBox
  deriving DecidableEq, Repr

/-- What `chip_TransferToHost3D` and `chip_TransferFromHost3D` have in common. -/
def transfer3D (device : GpuDevice) (type : UInt32) (args : Transfer3D) : GpuM Bool :=
  requestNodata device transferHost3D
    [set32 .type type, set32 .ctxId args.ctxId, set32 .resourceId args.resourceId,
      set32 .level args.level, set32 .stride args.stride, set32 .layerStride args.layerStride,
      set64 .offset args.offset, set32 .boxX args.box.x, set32 .boxY args.box.y,
      set32 .boxZ args.box.z, set32 .boxW args.box.w, set32 .boxH args.box.h,
      set32 .boxD args.box.d]
    (size transferHost3D)

def chipTransferToHost3D (device : GpuDevice) (args : Transfer3D) : GpuM Bool :=
  transfer3D device 0x0205 args

def chipTransferFromHost3D (device : GpuDevice) (args : Transfer3D) : GpuM Bool :=
  transfer3D device 0x0206 args

/-- `cmd_data` is the memory from that pointer on. -/
def chipSubmit3D (device : GpuDevice) (ctxId : UInt32) (cmdData : ℕ → UInt8) (cmdSize : UInt32) :
    GpuM Bool := do
  let c ← get
  if c.gs.cmd3dBuf = false then return false
  else if cmdSize = 0 then return false
  else if cmdSize > 64 * 1024 then return false
  else
    prepare cmdSubmit [set32 .type 0x0207, set32 .ctxId ctxId, set32 .size cmdSize]
      (size cmdSubmit) (size ctrlHdr)
    modify fun c =>
      { c with
        cmd3dBuf := up cmdSize.toNat (fun i m => Function.update m i (cmdData i)) c.cmd3dBuf }
    let written ← chipDoIo device
      (fun c => [bytes c.cmdBuf 0 (size cmdSubmit), bytes c.cmd3dBuf 0 cmdSize.toNat])
      (size ctrlHdr)
    let rt ← responseType written
    return rt == virtioGpuRespOkNodata

def chipResourceCreateBlob (device : GpuDevice) (args : BlobArgs) (dma : DmaList) :
    GpuM Bool := do
  let c ← get
  if c.gs.hasBlob then
    let dmaCount := clampCount createBlobMax dma.count
    let cmdSize := 56 + 16 * dmaCount
    requestNodata device (resourceCreateBlob ++ memEntryArray dmaCount.toNat)
      ([set32 .type 0x010D, set32 .resourceId args.resourceId, set32 .blobMem args.blobMem,
          set32 .blobFlags args.blobFlags, set32 .nrEntries dmaCount, set64 .blobId args.blobId,
          set64 .size args.size] ++ entryStores dma dmaCount)
      cmdSize.toNat
  else
    return false

/-! ## All of them -/

/-- A call of a wrapper. -/
inductive GpuCommand where
  | getDisplayInfo
  | resourceCreate2D (id format width height : UInt32)
  | resourceUnref (id : UInt32)
  | resourceAttachBacking (id : UInt32) (dma : DmaList)
  | setScanout (args : ScanoutArgs)
  | transferToHost2D (id x y width height : UInt32) (offset : UInt64)
  | getEdid (scanout : UInt32)
  | resourceFlush (id x y width height : UInt32)
  | cursorUpdate (hotX hotY : UInt32)
  | cursorMove (x y : Int16)
  | cursorHide
  | getCapsetInfo (index : UInt32)
  | getCapset (capsetId capsetVersion bufSize : UInt32)
  | ctxCreate (ctxId : UInt32) (debugName : Option CString) (contextInit : UInt32)
  | ctxDestroy (ctxId : UInt32)
  | ctxAttachResource (ctxId id : UInt32)
  | ctxDetachResource (ctxId id : UInt32)
  | resourceCreate3D (args : Resource3D)
  | transferToHost3D (args : Transfer3D)
  | transferFromHost3D (args : Transfer3D)
  | submit3D (ctxId : UInt32) (cmdData : ℕ → UInt8) (cmdSize : UInt32)
  | resourceCreateBlob (args : BlobArgs) (dma : DmaList)

/-- What a wrapper returns, with what it stores through its pointer arguments. -/
inductive Output where
  | done
  | flag (ok : Bool)
  | displayInfo (dimensions : Option (UInt32 × UInt32))
  | capsetInfo (info : Option CapsetInfo)
  | capset (data : Option (List UInt8))
  deriving DecidableEq, Repr

def GpuCommand.run (device : GpuDevice) : GpuCommand → GpuM Output
  | .getDisplayInfo => .displayInfo <$> chipGetDisplayInfo device
  | .resourceCreate2D id format width height =>
      .flag <$> chipResourceCreate2D device id format width height
  | .resourceUnref id => .flag <$> chipResourceUnref device id
  | .resourceAttachBacking id dma => .flag <$> chipResourceAttachBacking device id dma
  | .setScanout args => .flag <$> chipSetScanout device args
  | .transferToHost2D id x y width height offset =>
      .flag <$> chipTransferToHost2D device id x y width height offset
  | .getEdid scanout => .flag <$> chipGetEdid device scanout
  | .resourceFlush id x y width height =>
      .flag <$> chipResourceFlush device id x y width height
  | .cursorUpdate hotX hotY => (fun _ => .done) <$> chipCursorUpdate device hotX hotY
  | .cursorMove x y => (fun _ => .done) <$> chipCursorMove x y
  | .cursorHide => (fun _ => .done) <$> chipCursorHide
  | .getCapsetInfo index => .capsetInfo <$> chipGetCapsetInfo device index
  | .getCapset capsetId capsetVersion bufSize =>
      .capset <$> chipGetCapset device capsetId capsetVersion bufSize
  | .ctxCreate ctxId debugName contextInit =>
      .flag <$> chipCtxCreate device ctxId debugName contextInit
  | .ctxDestroy ctxId => (fun _ => .done) <$> chipCtxDestroy device ctxId
  | .ctxAttachResource ctxId id => .flag <$> chipCtxAttachResource device ctxId id
  | .ctxDetachResource ctxId id => .flag <$> chipCtxDetachResource device ctxId id
  | .resourceCreate3D args => .flag <$> chipResourceCreate3D device args
  | .transferToHost3D args => .flag <$> chipTransferToHost3D device args
  | .transferFromHost3D args => .flag <$> chipTransferFromHost3D device args
  | .submit3D ctxId cmdData cmdSize => .flag <$> chipSubmit3D device ctxId cmdData cmdSize
  | .resourceCreateBlob args dma => .flag <$> chipResourceCreateBlob device args dma

end VirtIOGPU.Wrappers
