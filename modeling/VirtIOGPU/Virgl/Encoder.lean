import VirtIOGPU.Commands.Backing
import VirtIOGPU.Lib.LongWord

/-!
# Encoding Virgl commands

The encoders of `chip_virgl.c` append words to a command buffer, each in little-endian order.  An
encoder is a program over the buffer.  A word for which there is no room left is dropped.

A `float` is its bit pattern, and so is a `double`.
-/

namespace VirtIOGPU.Virgl

/-! ## The command buffer -/

/-- `struct VirglCmdBuf`. -/
structure VirglCmdBuf where
  /-- The words as the processor stores them. -/
  buf : ℕ → UInt32
  dwords : UInt32
  maxDwords : UInt32
  /-- The buffer lies in the address space. -/
  inMemory : maxDwords.toNat ≤ 2 ^ 30
  bound : dwords.toNat ≤ maxDwords.toNat

def virglCmdInit (buf : ℕ → UInt32) (maxDwords : UInt32) (inMemory : maxDwords.toNat ≤ 2 ^ 30) :
    VirglCmdBuf :=
  ⟨buf, 0, maxDwords, inMemory, Nat.zero_le _⟩

def virglCmdReset (cbuf : VirglCmdBuf) : VirglCmdBuf :=
  { cbuf with dwords := 0, bound := Nat.zero_le _ }

theorem VirglCmdBuf.bound_succ {cbuf : VirglCmdBuf} (h : cbuf.dwords < cbuf.maxDwords) :
    (cbuf.dwords + 1).toNat ≤ cbuf.maxDwords.toNat := by
  have hlt := UInt32.lt_iff_toNat_lt.mp h
  have hmax := cbuf.maxDwords.toNat_lt
  rw [UInt32.toNat_add, UInt32.toNat_one, Nat.mod_eq_of_lt (by omega)]
  exact hlt

@[irreducible] def virglEmitDword (cbuf : VirglCmdBuf) (val : UInt32) : VirglCmdBuf :=
  if h : cbuf.dwords < cbuf.maxDwords then
    { cbuf with
      buf := Function.update cbuf.buf cbuf.dwords.toNat (gp32 val)
      dwords := cbuf.dwords + 1
      bound := cbuf.bound_succ h }
  else cbuf

abbrev Encoder := StateM VirglCmdBuf Unit

def emitDword (val : UInt32) : Encoder := modify fun cbuf => virglEmitDword cbuf val

/-- The low word comes first. -/
def emitDouble (val : UInt64) : Encoder := do
  emitDword (val &&& 0xFFFFFFFF).toUInt32
  emitDword (val >>> 32).toUInt32

/-- `VIRGL_CMD_HDR`. -/
def virglCmdHdr (cmd obj length : UInt32) : UInt32 := cmd ||| (obj <<< 8) ||| (length <<< 16)

/-! ## Data in memory -/

/-- Data for `RESOURCE_INLINE_WRITE`, in memory beside the command buffer's `struct`. -/
structure Block where
  bytes : List UInt8
  inMemory : bytes.length + 12 ≤ 2 ^ 32
  deriving DecidableEq

/-- A text that ends with a `NUL`. -/
structure CString where
  bytes : List UInt8
  noNul : 0 ∉ bytes
  inMemory : bytes.length + 13 ≤ 2 ^ 32
  deriving DecidableEq

/-- Vertex data. -/
structure Floats where
  bits : List UInt32
  inMemory : 4 * bits.length + 12 ≤ 2 ^ 32
  deriving DecidableEq

def CString.char (s : CString) (i : ℕ) : UInt8 := s.bytes.getD i 0

/-- The place of the first `NUL`. -/
def virglStrlen (s : CString) : UInt32 :=
  UInt32.ofNat ((s.bytes ++ [0]).findIdx (· == 0))

/-- The loop over the four bytes of a word; there are no bytes from `size` on. -/
def packWord (byte : ℕ → UInt8) (size offset : ℕ) : UInt32 :=
  (List.range 4).foldl
    (fun val i =>
      if offset + i < size then
        val ||| ((byte (offset + i)).toUInt32 <<< UInt32.ofNat (i * 8))
      else val)
    0

def virglPackTextWord (text : CString) (offset : ℕ) (len : UInt32) : UInt32 :=
  packWord text.char len.toNat offset

/-- The loop over the words of some data, `off` being four times the number of the word. -/
def emitPacked (size : UInt32) (word : ℕ → UInt32) : Encoder :=
  (List.range ((size.toNat + 3) / 4)).forM fun k => emitDword (word (4 * k))

/-! ## The encoders -/

def virglCmdCreateSubCtx (subCtxId : UInt32) : Encoder := do
  emitDword (virglCmdHdr 29 0 1)
  emitDword subCtxId

def virglCmdSetSubCtx (subCtxId : UInt32) : Encoder := do
  emitDword (virglCmdHdr 28 0 1)
  emitDword subCtxId

structure Surface where
  handle : UInt32
  resHandle : UInt32
  format : UInt32
  firstElement : UInt32
  lastElement : UInt32
  deriving DecidableEq

def virglCmdCreateSurface (s : Surface) : Encoder := do
  emitDword (virglCmdHdr 1 8 5)
  emitDword s.handle
  emitDword s.resHandle
  emitDword s.format
  emitDword s.firstElement
  emitDword s.lastElement

def virglCmdCreateBlend (handle s0 rt0Blend : UInt32) : Encoder := do
  emitDword (virglCmdHdr 1 1 11)
  emitDword handle
  emitDword s0
  emitDword 0
  emitDword rt0Blend
  -- the other render targets
  (List.range 7).forM fun _ => emitDword 0

structure Dsa where
  handle : UInt32
  s0 : UInt32
  s1Front : UInt32
  s2Back : UInt32
  alphaRef : UInt32
  deriving DecidableEq

def virglCmdCreateDsa (d : Dsa) : Encoder := do
  emitDword (virglCmdHdr 1 3 5)
  emitDword d.handle
  emitDword d.s0
  emitDword d.s1Front
  emitDword d.s2Back
  emitDword d.alphaRef

structure Rasterizer where
  handle : UInt32
  s0 : UInt32
  pointSize : UInt32
  spriteCoordEnable : UInt32
  s3 : UInt32
  lineWidth : UInt32
  offsetUnits : UInt32
  offsetScale : UInt32
  offsetClamp : UInt32
  deriving DecidableEq

def virglCmdCreateRasterizer (r : Rasterizer) : Encoder := do
  emitDword (virglCmdHdr 1 2 9)
  emitDword r.handle
  emitDword r.s0
  emitDword r.pointSize
  emitDword r.spriteCoordEnable
  emitDword r.s3
  emitDword r.lineWidth
  emitDword r.offsetUnits
  emitDword r.offsetScale
  emitDword r.offsetClamp

def virglCmdCreateShader (handle shaderType : UInt32) (tgsiText : CString) : Encoder := do
  let textWithNul := virglStrlen tgsiText + 1
  let textWords := (textWithNul + 3) / 4
  emitDword (virglCmdHdr 1 4 (5 + textWords))
  emitDword handle
  emitDword shaderType
  emitDword textWithNul
  emitDword textWords
  emitDword 0
  emitPacked textWithNul fun off => virglPackTextWord tgsiText off textWithNul

structure VertexElement where
  srcOffset : UInt32
  instanceDivisor : UInt32
  vertexBufferIndex : UInt32
  srcFormat : UInt32
  deriving DecidableEq

def virglCmdCreateVertexElements (handle : UInt32) (elements : List VertexElement) : Encoder := do
  emitDword (virglCmdHdr 1 5 (1 + UInt32.ofNat elements.length * 4))
  emitDword handle
  elements.forM fun e => do
    emitDword e.srcOffset
    emitDword e.instanceDivisor
    emitDword e.vertexBufferIndex
    emitDword e.srcFormat

def virglCmdBindObject (objType handle : UInt32) : Encoder := do
  emitDword (virglCmdHdr 2 objType 1)
  emitDword handle

def virglCmdBindShader (shaderType handle : UInt32) : Encoder := do
  emitDword (virglCmdHdr 31 0 2)
  emitDword handle
  emitDword shaderType

structure Viewport where
  startSlot : UInt32
  scaleX : UInt32
  scaleY : UInt32
  scaleZ : UInt32
  transX : UInt32
  transY : UInt32
  transZ : UInt32
  deriving DecidableEq

def virglCmdSetViewport (v : Viewport) : Encoder := do
  emitDword (virglCmdHdr 4 0 7)
  emitDword v.startSlot
  emitDword v.scaleX
  emitDword v.scaleY
  emitDword v.scaleZ
  emitDword v.transX
  emitDword v.transY
  emitDword v.transZ

def virglCmdSetFramebufferState (zsurfHandle : UInt32) (surfHandles : List UInt32) :
    Encoder := do
  emitDword (virglCmdHdr 5 0 (2 + UInt32.ofNat surfHandles.length))
  emitDword (UInt32.ofNat surfHandles.length)
  emitDword zsurfHandle
  surfHandles.forM emitDword

structure VertexBuffer where
  stride : UInt32
  bufferOffset : UInt32
  resHandle : UInt32
  deriving DecidableEq

def virglCmdSetVertexBuffers (buffers : List VertexBuffer) : Encoder := do
  emitDword (virglCmdHdr 6 0 (UInt32.ofNat buffers.length * 3))
  buffers.forM fun b => do
    emitDword b.stride
    emitDword b.bufferOffset
    emitDword b.resHandle

structure Scissor where
  startSlot : UInt32
  minX : UInt32
  minY : UInt32
  maxX : UInt32
  maxY : UInt32
  deriving DecidableEq

/-- Two 16-bit coordinates in a word. -/
def packCorner (x y : UInt32) : UInt32 := (x &&& (0xFFFF : UInt32)) ||| (y <<< 16)

def virglCmdSetScissorState (s : Scissor) : Encoder := do
  emitDword (virglCmdHdr 15 0 3)
  emitDword s.startSlot
  emitDword (packCorner s.minX s.minY)
  emitDword (packCorner s.maxX s.maxY)

structure Clear where
  buffers : UInt32
  r : UInt32
  g : UInt32
  b : UInt32
  a : UInt32
  depth : UInt64
  stencil : UInt32
  deriving DecidableEq

def virglCmdClear (c : Clear) : Encoder := do
  emitDword (virglCmdHdr 7 0 8)
  emitDword c.buffers
  emitDword c.r
  emitDword c.g
  emitDword c.b
  emitDword c.a
  emitDouble c.depth
  emitDword c.stencil

structure DrawVbo where
  start : UInt32
  count : UInt32
  mode : UInt32
  indexed : UInt32
  instanceCount : UInt32
  indexBias : Int32
  startInstance : UInt32
  primitiveRestart : UInt32
  restartIndex : UInt32
  minIndex : UInt32
  maxIndex : UInt32
  csoHandle : UInt32
  deriving DecidableEq

def virglCmdDrawVbo (d : DrawVbo) : Encoder := do
  emitDword (virglCmdHdr 8 0 12)
  emitDword d.start
  emitDword d.count
  emitDword d.mode
  emitDword d.indexed
  emitDword d.instanceCount
  emitDword d.indexBias.toUInt32
  emitDword d.startInstance
  emitDword d.primitiveRestart
  emitDword d.restartIndex
  emitDword d.minIndex
  emitDword d.maxIndex
  emitDword d.csoHandle

/-- A box in a resource. -/
structure InlineBox where
  resHandle : UInt32
  level : UInt32
  usage : UInt32
  stride : UInt32
  layerStride : UInt32
  x : UInt32
  y : UInt32
  z : UInt32
  w : UInt32
  h : UInt32
  d : UInt32
  deriving DecidableEq

def emitInlineBox (b : InlineBox) : Encoder := do
  emitDword b.resHandle
  emitDword b.level
  emitDword b.usage
  emitDword b.stride
  emitDword b.layerStride
  emitDword b.x
  emitDword b.y
  emitDword b.z
  emitDword b.w
  emitDword b.h
  emitDword b.d

def virglCmdResourceInlineWrite (b : InlineBox) (data : Block) : Encoder := do
  let dataSize := UInt32.ofNat data.bytes.length
  let dataWords := (dataSize + 3) / 4
  emitDword (virglCmdHdr 9 0 (11 + dataWords))
  emitInlineBox b
  emitPacked dataSize fun off => packWord (data.bytes.getD · 0) dataSize.toNat off

/-- Vertex data goes to the beginning of a buffer, `w` being its size. -/
def vertexBox (resHandle size : UInt32) : InlineBox := ⟨resHandle, 0, 0, 0, 0, 0, 0, 0, size, 1, 1⟩

def virglUploadVertexFloats (resHandle : UInt32) (data : Floats) : Encoder := do
  let numFloats := UInt32.ofNat data.bits.length
  emitDword (virglCmdHdr 9 0 (11 + numFloats))
  emitInlineBox (vertexBox resHandle (numFloats * 4))
  data.bits.forM emitDword

/-- One side of a blit. -/
structure BlitBox where
  res : UInt32
  format : UInt32
  level : UInt32
  x1 : UInt32
  y1 : UInt32
  z1 : UInt32
  x2 : UInt32
  y2 : UInt32
  z2 : UInt32
  deriving DecidableEq

/-- `VIRGL_BLIT_S1_DST_LEVEL` and `VIRGL_BLIT_S1_DST_FORMAT`. -/
def blitFormat (level format : UInt32) : UInt32 :=
  (level &&& (0xFF : UInt32)) ||| ((format &&& (0xFFFF : UInt32)) <<< 8)

def emitBlitBox (b : BlitBox) : Encoder := do
  emitDword (blitFormat b.level b.format)
  emitDword b.res
  emitDword b.x1
  emitDword b.y1
  emitDword b.z1
  emitDword b.x2
  emitDword b.y2
  emitDword b.z2

def virglCmdBlit (s0Flags : UInt32) (dst src : BlitBox) : Encoder := do
  emitDword (virglCmdHdr 16 0 17)
  emitDword s0Flags
  emitBlitBox dst
  emitBlitBox src

def virglCmdDestroyObject (objType handle : UInt32) : Encoder := do
  emitDword (virglCmdHdr 3 objType 1)
  emitDword handle

structure SamplerState where
  handle : UInt32
  s0 : UInt32
  lodBias : UInt32
  minLod : UInt32
  maxLod : UInt32
  borderR : UInt32
  borderG : UInt32
  borderB : UInt32
  borderA : UInt32
  deriving DecidableEq

def virglCmdCreateSamplerState (s : SamplerState) : Encoder := do
  emitDword (virglCmdHdr 1 7 9)
  emitDword s.handle
  emitDword s.s0
  emitDword s.lodBias
  emitDword s.minLod
  emitDword s.maxLod
  emitDword s.borderR
  emitDword s.borderG
  emitDword s.borderB
  emitDword s.borderA

structure SamplerView where
  handle : UInt32
  resHandle : UInt32
  format : UInt32
  firstElement : UInt32
  lastElement : UInt32
  swizzleR : UInt32
  swizzleG : UInt32
  swizzleB : UInt32
  swizzleA : UInt32
  deriving DecidableEq

/-- Three bits for each channel. -/
def packSwizzle (r g b a : UInt32) : UInt32 :=
  let three (v : UInt32) : UInt32 := v &&& 0x7
  three r ||| (three g <<< 3) ||| (three b <<< 6) ||| (three a <<< 9)

def virglCmdCreateSamplerView (s : SamplerView) : Encoder := do
  emitDword (virglCmdHdr 1 6 6)
  emitDword s.handle
  emitDword s.resHandle
  emitDword s.format
  emitDword s.firstElement
  emitDword s.lastElement
  emitDword (packSwizzle s.swizzleR s.swizzleG s.swizzleB s.swizzleA)

/-- Handles for the slots of a shader stage: `SET_SAMPLER_VIEWS` and `BIND_SAMPLER_STATES`. -/
def emitHandles (cmd shaderType startSlot : UInt32) (handles : List UInt32) : Encoder := do
  emitDword (virglCmdHdr cmd 0 (2 + UInt32.ofNat handles.length))
  emitDword shaderType
  emitDword startSlot
  handles.forM emitDword

def virglCmdSetSamplerViews (shaderType startSlot : UInt32) (viewHandles : List UInt32) : Encoder :=
  emitHandles 10 shaderType startSlot viewHandles

def virglCmdBindSamplerStates (shaderType startSlot : UInt32) (stateHandles : List UInt32) :
    Encoder :=
  emitHandles 18 shaderType startSlot stateHandles

/-! ## Calls -/

inductive VirglCall where
  | createSubCtx (subCtxId : UInt32)
  | setSubCtx (subCtxId : UInt32)
  | createSurface (s : Surface)
  | createBlend (handle s0 rt0Blend : UInt32)
  | createDsa (d : Dsa)
  | createRasterizer (r : Rasterizer)
  | createShader (handle shaderType : UInt32) (tgsiText : CString)
  | createVertexElements (handle : UInt32) (elements : List VertexElement)
  | createSamplerState (s : SamplerState)
  | createSamplerView (s : SamplerView)
  | bindObject (objType handle : UInt32)
  | bindShader (shaderType handle : UInt32)
  | bindSamplerStates (shaderType startSlot : UInt32) (stateHandles : List UInt32)
  | setViewport (v : Viewport)
  | setFramebufferState (zsurfHandle : UInt32) (surfHandles : List UInt32)
  | setVertexBuffers (buffers : List VertexBuffer)
  | setScissorState (s : Scissor)
  | setSamplerViews (shaderType startSlot : UInt32) (viewHandles : List UInt32)
  | clear (c : Clear)
  | drawVbo (d : DrawVbo)
  | resourceInlineWrite (b : InlineBox) (data : Block)
  | uploadVertexFloats (resHandle : UInt32) (data : Floats)
  | blit (s0Flags : UInt32) (dst src : BlitBox)
  | destroyObject (objType handle : UInt32)
  deriving DecidableEq

def VirglCall.perform : VirglCall → Encoder
  | .createSubCtx subCtxId => virglCmdCreateSubCtx subCtxId
  | .setSubCtx subCtxId => virglCmdSetSubCtx subCtxId
  | .createSurface s => virglCmdCreateSurface s
  | .createBlend handle s0 rt0Blend => virglCmdCreateBlend handle s0 rt0Blend
  | .createDsa d => virglCmdCreateDsa d
  | .createRasterizer r => virglCmdCreateRasterizer r
  | .createShader handle shaderType tgsiText => virglCmdCreateShader handle shaderType tgsiText
  | .createVertexElements handle elements => virglCmdCreateVertexElements handle elements
  | .createSamplerState s => virglCmdCreateSamplerState s
  | .createSamplerView s => virglCmdCreateSamplerView s
  | .bindObject objType handle => virglCmdBindObject objType handle
  | .bindShader shaderType handle => virglCmdBindShader shaderType handle
  | .bindSamplerStates shaderType startSlot stateHandles =>
      virglCmdBindSamplerStates shaderType startSlot stateHandles
  | .setViewport v => virglCmdSetViewport v
  | .setFramebufferState zsurfHandle surfHandles =>
      virglCmdSetFramebufferState zsurfHandle surfHandles
  | .setVertexBuffers buffers => virglCmdSetVertexBuffers buffers
  | .setScissorState s => virglCmdSetScissorState s
  | .setSamplerViews shaderType startSlot viewHandles =>
      virglCmdSetSamplerViews shaderType startSlot viewHandles
  | .clear c => virglCmdClear c
  | .drawVbo d => virglCmdDrawVbo d
  | .resourceInlineWrite b data => virglCmdResourceInlineWrite b data
  | .uploadVertexFloats resHandle data => virglUploadVertexFloats resHandle data
  | .blit s0Flags dst src => virglCmdBlit s0Flags dst src
  | .destroyObject objType handle => virglCmdDestroyObject objType handle

end VirtIOGPU.Virgl
