import VirtIOGPU.Card.Composite
import VirtIOGPU.Virgl.Upload

/-!
# Drawing with the pipeline of the host

`chip_virgl_composite` with what it leaves bound in the 3D context: every `virgl_submit` carries
the calls of the encoder, and the host performs them.  A command may fail at every place; how each
one comes out is an argument.

The commands whose result is ignored and which neither bind nor create anything (attaching a
resource to the context, detaching it, flushing) are left out, and so are the vertices: the 48
floats of a quad and the pixels of a strip are arguments.
-/

namespace VirtIOGPU.Compositing

open Card Drawing Lib.Hoare
open Virgl (VirglCall Floats Block UploadRequest)

/-! ## The host -/

/-- `VIRGL_OBJECT_BLEND`. -/
def objectBlend : UInt32 := 1

/-- `VIRGL_OBJECT_SAMPLER_VIEW`. -/
def objectSamplerView : UInt32 := 6

/-- `PIPE_SHADER_FRAGMENT`. -/
def shaderFragment : UInt32 := 1

/-- What `RESOURCE_CREATE_3D` makes for a composition. -/
structure Texture where
  format : UInt32
  width : UInt32
  height : UInt32
  deriving DecidableEq, Repr

structure RenderHost where
  /-- The blend object that has been bound last. -/
  blend : UInt32
  fragmentShader : UInt32
  textures : UInt32 → Option Texture

def RenderHost.perform (host : RenderHost) : VirglCall → RenderHost
  | .bindObject objType handle =>
      if objType = objectBlend then { host with blend := handle } else host
  | .bindShader shaderType handle =>
      if shaderType = shaderFragment then { host with fragmentShader := handle } else host
  | _ => host

def RenderHost.execute (host : RenderHost) (calls : List VirglCall) : RenderHost :=
  calls.foldl RenderHost.perform host

/-! ## The driver -/

/-- The handles of the objects that `chip_virgl_2d.c` has set up. -/
structure PipelineObjects where
  /-- `virgl_2d_blend`. -/
  blend : UInt32
  /-- `virgl_2d_fs`. -/
  fs : UInt32
  fsTex : UInt32
  sampler : UInt32
  samplerLinear : UInt32
  /-- `virgl_2d_ve`. -/
  ve : UInt32
  compBlends : UInt32 → UInt32

structure Compositor where
  gs : GpuState
  compNextHandle : UInt32
  compTexView : UInt32
  host : RenderHost
  /-- The resources that have been created, the last one first. -/
  created : List UInt32

abbrev Composer := StateM Compositor

namespace Compositor

variable (s : Compositor)

def withGs (gs : GpuState) : Compositor := { s with gs := gs }

/-- `virgl_ctx_error`. -/
def Poisoned : Prop := s.gs.virglCtxError = true

instance : Decidable s.Poisoned := inferInstanceAs (Decidable (_ = true))

def poisoned : Compositor := s.withGs s.gs.withCtxError

def ran (calls : List VirglCall) : Compositor := { s with host := s.host.execute calls }

def createTexture (id : UInt32) (texture : Texture) : Compositor :=
  { s with
    host := { s.host with textures := Function.update s.host.textures id (some texture) }
    created := id :: s.created }

def dropTexture (id : UInt32) : Compositor :=
  { s with host := { s.host with textures := Function.update s.host.textures id none } }

/-- The handle that is given out next. -/
def nextHandle : UInt32 := if s.compNextHandle = 0 then 200 else s.compNextHandle

def handleTaken : Compositor := { s with compNextHandle := s.nextHandle + 1 }

/-- The id that `chip_alloc_resource_id` has found is taken. -/
def idTaken : Compositor := s.withGs (s.gs.withNextId (s.gs.allocId + 1))

/-- `comp_tex_res` and `comp_tex_view`. -/
def withTexture (id view : UInt32) : Compositor :=
  { s with gs := s.gs.withCompTex id, compTexView := view }

end Compositor

def gpuCommand (effect : Compositor → Compositor) (answer : GpuAnswer) : Composer Bool :=
  modifyGet fun s =>
    match answer with
    | .done => (true, effect s)
    | .refused => (false, s)
    | .lost => (false, effect s)

def chipResourceCreate3D (id : UInt32) (texture : Texture) : GpuAnswer → Composer Bool :=
  gpuCommand fun s => s.createTexture id texture

def chipResourceUnref (id : UInt32) : GpuAnswer → Composer Bool :=
  gpuCommand fun s => s.dropTexture id

def chipSubmit3D (calls : List VirglCall) (answer : GpuAnswer) : Composer Bool := do
  let s ← get
  if s.gs.cmd3dBuf = 0 then
    return false
  gpuCommand (fun s => s.ran calls) answer

/-- The end of `virgl_submit`. -/
def markFailure (ok : Bool) : Composer Bool := do
  onlyIf (ok = false) (modify Compositor.poisoned)
  return ok

def virglSubmit (calls : List VirglCall) (answer : GpuAnswer) : Composer Bool := do
  if calls = [] then
    return true
  let s ← get
  if s.gs.virglCtxError = true then
    return false
  let ok ← chipSubmit3D calls answer
  markFailure ok

/-- `comp_alloc_handle`. -/
def compAllocHandle : Composer UInt32 := modifyGet fun s => (s.nextHandle, s.handleTaken)

def chipAllocResourceId : Composer UInt32 := modifyGet fun s => (s.gs.allocId, s.idTaken)

/-! ## Textures -/

/-- How the commands of a composition come out. -/
structure CompositeReplies where
  bindBlend : GpuAnswer
  /-- For a texture that is still there. -/
  destroyOldView : GpuAnswer
  unrefOld : GpuAnswer
  create : GpuAnswer
  /-- `AllocVecTags`. -/
  alloc : Bool
  /-- The strip that begins with this row. -/
  strip : UInt32 → GpuAnswer
  samplerView : GpuAnswer
  /-- After a failed upload. -/
  unrefFailed : GpuAnswer
  draw : GpuAnswer
  restoreShader : GpuAnswer
  destroyView : GpuAnswer
  unref : GpuAnswer
  restoreBlend : GpuAnswer

/-- The data of the streams. -/
structure StreamData where
  vertices : Floats
  /-- The pixels of a strip: its first row, and its rows. -/
  pixels : UInt32 → UInt32 → Block

/-- The inline write of a strip. -/
def stripCall (data : StreamData) (r : UploadRequest) (rowsDone rowsThis : UInt32) : VirglCall :=
  .resourceInlineWrite ⟨r.res, 0, 0, r.w * 4, 0, r.x, r.y + rowsDone, 0, r.w, rowsThis, 1⟩
    (data.pixels rowsDone rowsThis)

/-- The loop over the strips; the first argument is how often it may still run. -/
def uploadStrips (data : StreamData) (replies : CompositeReplies) (r : UploadRequest) :
    ℕ → UInt32 → Composer Bool
  | 0, _ => pure true
  | fuel + 1, rowsDone =>
    if rowsDone < r.h then do
      let rowsThis := r.rowsThis rowsDone
      let ok ← virglSubmit [stripCall data r rowsDone rowsThis] (replies.strip rowsDone)
      if ok then uploadStrips data replies r fuel (rowsDone + rowsThis)
      else return false
    else return true

def chipCompUploadPixels32bpp (data : StreamData) (replies : CompositeReplies)
    (r : UploadRequest) : Composer Bool :=
  if replies.alloc then uploadStrips data replies r r.h.toNat 0 else return false

def chipCompFreeTexture (destroyView unref : GpuAnswer) : Composer Unit := do
  let s ← get
  if s.gs.compTexRes = 0 then
    return
  let _ ← virglSubmit
    (if s.compTexView ≠ 0 then [.destroyObject objectSamplerView s.compTexView] else [])
    destroyView
  let _ ← chipResourceUnref s.gs.compTexRes unref
  modify fun s => s.withTexture 0 0

/-- `PIPE_FORMAT_B8G8R8A8_UNORM`, or `PIPE_FORMAT_B8G8R8X8_UNORM`. -/
def pipeFmt (hasAlpha : Bool) : UInt32 := if hasAlpha then 1 else 2

/-- A region of a bitmap that can be a texture. -/
def Uploadable (srcData srcW srcH : UInt32) : Prop :=
  (srcW ≠ 0 ∧ srcH ≠ 0 ∧ srcData ≠ 0) ∧ ¬ (srcW > 1024 ∨ srcH > 1024)

instance (srcData srcW srcH : UInt32) : Decidable (Uploadable srcData srcW srcH) :=
  inferInstanceAs (Decidable (_ ∧ _))

/-- The failure of an upload. -/
def discard (replies : CompositeReplies) (id : UInt32) : Composer Bool := do
  let _ ← chipResourceUnref id replies.unrefFailed
  return false

/-- The success of an upload. -/
def recordView (id view : UInt32) : Composer Bool := do
  modify fun s => s.withTexture id view
  return true

/-- The view of a texture that has its pixels. -/
def viewTexture (replies : CompositeReplies) (id format : UInt32) : Composer Bool := do
  let viewHandle ← compAllocHandle
  let submitted ← virglSubmit [.createSamplerView ⟨viewHandle, id, format, 0, 0, 0, 1, 2, 3⟩]
    replies.samplerView
  if !submitted then discard replies id else recordView id viewHandle

/-- The pixels and the view of a texture that exists. -/
def fillTexture (data : StreamData) (replies : CompositeReplies) (r : UploadRequest)
    (format : UInt32) : Composer Bool := do
  let uploaded ← chipCompUploadPixels32bpp data replies r
  if !uploaded then discard replies r.res else viewTexture replies r.res format

/-- A new texture. -/
def makeTexture (data : StreamData) (replies : CompositeReplies)
    (srcData srcBpr srcW srcH : UInt32) (hasAlpha : Bool) : Composer Bool := do
  let resId ← chipAllocResourceId
  let created ← chipResourceCreate3D resId ⟨pipeFmt hasAlpha, srcW, srcH⟩ replies.create
  if !created then
    return false
  fillTexture data replies ⟨resId, srcData, srcBpr, 0, 0, srcW, srcH⟩ (pipeFmt hasAlpha)

def chipCompUploadBitmap (data : StreamData) (replies : CompositeReplies)
    (srcData srcBpr srcW srcH : UInt32) (hasAlpha : Bool) : Composer Bool := do
  let s ← get
  if ¬ (s.gs.virgl2dReady = true ∧ s.gs.virglShadersOk = true) then
    return false
  if ¬ Uploadable srcData srcW srcH then
    return false
  chipCompFreeTexture replies.destroyOldView replies.unrefOld
  makeTexture data replies srcData srcBpr srcW srcH hasAlpha

/-! ## Quads -/

/-- Vertices, vertex buffer and draw. -/
def drawCalls (data : StreamData) (vbuf : UInt32) : List VirglCall :=
  [.uploadVertexFloats vbuf data.vertices, .setVertexBuffers [⟨32, 0, vbuf⟩],
    .drawVbo ⟨0, 6, 4, 0, 1, 0, 0, 0, 0, 0, 5, 0⟩]

def chipVirglDrawColoredQuad (p : PipelineObjects) (data : StreamData)
    (replies : CompositeReplies) : Composer Bool := do
  let s ← get
  if ¬ (s.gs.virgl2dReady = true ∧ s.gs.virglShadersOk = true) then
    return false
  if s.gs.virgl2dVbufRes = 0 ∨ p.ve = 0 then
    return false
  virglSubmit (drawCalls data s.gs.virgl2dVbufRes) replies.draw

def chipCompDrawTexturedQuad (p : PipelineObjects) (data : StreamData)
    (replies : CompositeReplies) (useLinear : Bool) : Composer Bool := do
  let s ← get
  if ¬ (s.gs.virgl2dReady = true ∧ s.gs.virglShadersOk = true) then
    return false
  if s.compTexView = 0 ∨ s.gs.virgl2dVbufRes = 0 then
    return false
  let ok ← virglSubmit
    ([.bindShader shaderFragment p.fsTex,
      .bindSamplerStates shaderFragment 0 [if useLinear then p.samplerLinear else p.sampler],
      .setSamplerViews shaderFragment 0 [s.compTexView]] ++ drawCalls data s.gs.virgl2dVbufRes)
    replies.draw
  let _ ← virglSubmit [.bindShader shaderFragment p.fs] replies.restoreShader
  return ok

/-! ## `chip_virgl_composite` -/

/-- `COMPFLAG_*`, as far as the driver reads them. -/
structure CompFlagBits where
  forceSoftware : UInt32
  color1Modulate : UInt32
  srcFilter : UInt32

/-- The arguments of `chip_virgl_composite`. -/
structure CompositeRequest where
  op : UInt32
  source : Source
  srcData : UInt32
  srcBpr : UInt32
  srcFormat : RgbfType
  srcX : Int32
  srcY : Int32
  srcW : Int32
  srcH : Int32
  dstX : Int32
  dstY : Int32
  dstW : Int32
  dstH : Int32
  flags : UInt32
  color0 : UInt32
  deriving DecidableEq, Repr

namespace CompositeRequest

variable (r : CompositeRequest)

/-- `has_alpha`. -/
def hasAlpha : Bool := r.srcFormat == .a8r8g8b8

/-- The part of the bitmap that is the source. -/
def RegionOk : Prop := 0 ≤ r.srcX ∧ 0 ≤ r.srcY ∧ 0 < r.srcW ∧ 0 < r.srcH

instance : Decidable r.RegionOk := inferInstanceAs (Decidable (_ ∧ _))

/-- `src_region`. -/
def srcRegion : UInt32 := r.srcData + r.srcY.toUInt32 * r.srcBpr + r.srcX.toUInt32 * 4

end CompositeRequest

section Composite

variable (bits : CompFlagBits) (p : PipelineObjects) (data : StreamData)
  (replies : CompositeReplies) (r : CompositeRequest)

/-- What is checked before anything is bound. -/
def validate (s : Compositor) : Option CompError :=
  if ¬ (s.gs.virgl2dReady = true ∧ s.gs.virglShadersOk = true) then some .generic
  else if r.op ≥ 15 then some .unknownOperator
  else if r.flags &&& bits.forceSoftware ≠ 0 then some .softwareFallback
  else if r.flags &&& bits.color1Modulate ≠ 0 then some .softwareFallback
  else if p.compBlends r.op = 0 then some .softwareFallback
  else if r.dstW ≤ 0 ∨ r.dstH ≤ 0 then some .value
  else if r.source ≠ .solidColor ∧ (r.srcW ≠ r.dstW ∨ r.srcH ≠ r.dstH) then
    some .softwareFallback
  else none

/-- From the restored blend state to the end. -/
def restoreBlend (ok : Bool) : Composer CompError := do
  let _ ← virglSubmit [.bindObject objectBlend p.blend] replies.restoreBlend
  return if ok then .success else .generic

/-- A bitmap as the source. -/
def compositeBitMap : Composer CompError := do
  if chipFormatBpp r.srcFormat ≠ 4 then
    return .softwareFallback
  if ¬ r.RegionOk then
    return .softwareFallback
  let uploaded ← chipCompUploadBitmap data replies r.srcRegion r.srcBpr r.srcW.toUInt32
    r.srcH.toUInt32 r.hasAlpha
  if !uploaded then
    return .outOfMemory
  let ok ← chipCompDrawTexturedQuad p data replies (r.flags &&& bits.srcFilter != 0)
  chipCompFreeTexture replies.destroyView replies.unref
  restoreBlend p replies ok

/-- A colour as the source. -/
def compositeSolid : Composer CompError := do
  let ok ← chipVirglDrawColoredQuad p data replies
  restoreBlend p replies ok

/-- From the operator's blend state on. -/
def compositeBound : Composer CompError :=
  if r.source = .solidColor then compositeSolid p data replies
  else compositeBitMap bits p data replies r

def chipVirglComposite : Composer CompError := do
  let s ← get
  match validate bits p r s with
  | some error => return error
  | none =>
    let bound ← virglSubmit [.bindObject objectBlend (p.compBlends r.op)] replies.bindBlend
    if !bound then
      return .generic
    compositeBound bits p data replies r

end Composite

end VirtIOGPU.Compositing
