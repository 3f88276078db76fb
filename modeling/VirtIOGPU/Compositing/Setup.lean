import VirtIOGPU.Compositing.Blends
import VirtIOGPU.Compositing.Pipeline

/-!
# Setting up the pipeline

The part of `chip_virgl_init_2d` that makes the objects of the pipeline, and
`chip_comp_init_blends`.  Several of their failures are not fatal as they stand: shaders, samplers
and vertex elements may be missing.  `setupPlan` is the sequence of submissions when none of them
fails.

Creating the context and the scanout resource is in `Card.Virgl`.
-/

namespace VirtIOGPU.Compositing

open Card Lib.Hoare
open Virgl (VirglCall CString)

/-! ## Shaders -/

def textBytes (text : String) : List UInt8 := text.toList.map fun c => c.val.toUInt8

def tgsiVsPassthrough : CString where
  bytes := textBytes
    ("VERT\nDCL IN[0]\nDCL IN[1]\nDCL OUT[0], POSITION\nDCL OUT[1], GENERIC[0]\n" ++
    "  0: MOV OUT[0], IN[0]\n  1: MOV OUT[1], IN[1]\n  2: END\n")
  noNul := by decide +kernel
  inMemory := by decide +kernel

def tgsiFsColor : CString where
  bytes := textBytes ("FRAG\nDCL IN[0], GENERIC[0], PERSPECTIVE\nDCL OUT[0], COLOR\n" ++
    "  0: MOV OUT[0], IN[0]\n  1: END\n")
  noNul := by decide +kernel
  inMemory := by decide +kernel

def tgsiFsTexture : CString where
  bytes := textBytes
    ("FRAG\nDCL IN[0], GENERIC[0], PERSPECTIVE\nDCL OUT[0], COLOR\nDCL SAMP[0]\n" ++
    "  0: TEX OUT[0], IN[0], SAMP[0], 2D\n  1: END\n")
  noNul := by decide +kernel
  inMemory := by decide +kernel

/-! ## The state -/

/-- The fields of `struct ChipGPUState` for the objects of the pipeline, `virgl_2d_*`. -/
@[ext] structure PipelineFields where
  blend : UInt32
  blendAlpha : UInt32
  dsa : UInt32
  rast : UInt32
  vs : UInt32
  fs : UInt32
  fsTex : UInt32
  surface : UInt32
  sampler : UInt32
  samplerLinear : UInt32
  ve : UInt32
  /-- `virgl_samplers_ok`. -/
  samplersOk : Bool
  compBlends : UInt32 → UInt32

structure Setup where
  comp : Compositor
  fields : PipelineFields
  /-- The submissions that the host has performed. -/
  performed : List (List VirglCall)

abbrev Assembler := StateM Setup

/-- The host performs a submission with this answer. -/
def Compositor.Reaches (s : Compositor) (answer : GpuAnswer) : Prop :=
  s.gs.virglCtxError = false ∧ s.gs.cmd3dBuf ≠ 0 ∧ answer ≠ .refused

instance (s : Compositor) (answer : GpuAnswer) : Decidable (s.Reaches answer) :=
  inferInstanceAs (Decidable (_ ∧ _ ∧ _))

def onCompositor {α : Type} (m : Composer α) : Assembler α :=
  modifyGet fun s => ((m s.comp).1, { s with comp := (m s.comp).2 })

/-- `virgl_submit`, with what the host performs noted. -/
def submit (calls : List VirglCall) (answer : GpuAnswer) : Assembler Bool :=
  modifyGet fun s => ((virglSubmit calls answer s.comp).1,
    { s with
      comp := (virglSubmit calls answer s.comp).2
      performed := if s.comp.Reaches answer then s.performed ++ [calls] else s.performed })

def setFields (f : PipelineFields → PipelineFields) : Assembler PUnit :=
  modify fun s => { s with fields := f s.fields }

def setShadersOk (ok : Bool) : Assembler PUnit :=
  modify fun s => { s with comp := s.comp.withGs (s.comp.gs.withShaders ok) }

/-! ## The objects -/

/-- `VIRGL_OBJECT_*`. -/
def objectRasterizer : UInt32 := 2
def objectDsa : UInt32 := 3
def objectVertexElements : UInt32 := 5

/-- `PIPE_SHADER_VERTEX`. -/
def shaderVertex : UInt32 := 0

/-- `VIRGL_BLEND_RT_OPAQUE`. -/
def blendRtOpaque : UInt32 := wordField 0xF 0xf 27

/-- `VIRGL_BLEND_RT_ALPHA`. -/
def blendRtAlpha : UInt32 :=
  compBlendRt pipeBlendfactorSrcAlpha.toUInt32 pipeBlendfactorInvSrcAlpha.toUInt32
    pipeBlendfactorOne.toUInt32 pipeBlendfactorInvSrcAlpha.toUInt32

/-- The bits of the `float` 1. -/
def oneFloat : UInt32 := 0x3F800000

/-- Clipping of depth and scissor on; no culling, and faces are filled. -/
def rasterizerS0 : UInt32 :=
  wordField 1 0x1 1 ||| wordField 0 0x3 8 ||| wordField 0 0x3 10 ||| wordField 0 0x3 12 |||
    wordField 1 0x1 14

/-- A sampler with this filter that does not repeat the texture. -/
def samplerS0 (filter : UInt32) : UInt32 :=
  wordField 2 0x7 0 ||| wordField 2 0x7 3 ||| wordField 2 0x7 6 ||| wordField filter 0x3 9 |||
    wordField 2 0x3 11 ||| wordField filter 0x3 13

def objectCalls : List VirglCall :=
  [.createBlend 100 0 blendRtOpaque, .createBlend 101 0 blendRtAlpha,
    .createDsa ⟨102, 0, 0, 0, 0⟩,
    .createRasterizer ⟨103, rasterizerS0, oneFloat, 0, 0, oneFloat, 0, 0, 0⟩]

def samplerCalls : List VirglCall :=
  [.createSamplerState ⟨108, samplerS0 0, 0, 0, 0, 0, 0, 0, 0⟩,
    .createSamplerState ⟨109, samplerS0 1, 0, 0, 0, 0, 0, 0, 0⟩]

/-- `PIPE_FORMAT_R32G32B32A32_FLOAT` twice: position and attribute. -/
def vertexElementCalls : List VirglCall :=
  [.createVertexElements 110 [⟨0, 0, 0, 31⟩, ⟨16, 0, 0, 31⟩]]

/-- The scanout resource, and the bits of `0.5f`, `res_w * 0.5f` and `res_h * 0.5f`. -/
structure Target where
  resource : UInt32
  width : UInt32
  height : UInt32
  half : UInt32
  halfWidth : UInt32
  halfHeight : UInt32

def bindCalls (target : Target) (shadersOk : Bool) (ve : UInt32) : List VirglCall :=
  [.createSurface ⟨106, target.resource, 2, 0, 0⟩, .bindObject objectBlend 100,
    .bindObject objectDsa 102, .bindObject objectRasterizer 103] ++
    (if shadersOk then [.bindShader shaderVertex 104, .bindShader shaderFragment 105] else []) ++
    (if ve ≠ 0 then [.bindObject objectVertexElements 110] else []) ++
    [.setFramebufferState 0 [106],
      .setViewport ⟨0, target.halfWidth, target.halfHeight, target.half, target.halfWidth,
        target.halfHeight, target.half⟩,
      .setScissorState ⟨0, 0, 0, target.width, target.height⟩]

/-! ## The functions -/

/-- How the commands of the setup come out. -/
structure SetupReplies where
  objects : GpuAnswer
  vs : GpuAnswer
  fs : GpuAnswer
  fsTex : GpuAnswer
  samplers : GpuAnswer
  vertexElements : GpuAnswer
  vertexBuffer : GpuAnswer
  bind : GpuAnswer
  /-- For the blend object of an operator. -/
  compBlend : ℕ → GpuAnswer

/-- One shader, in a submission of its own. -/
def createShader (handle shaderType : UInt32) (text : CString)
    (record : PipelineFields → PipelineFields) (answer : GpuAnswer) : Assembler PUnit := do
  let ok ← submit [.createShader handle shaderType text] answer
  if ok then setFields record else setShadersOk false

/-- The conditional parts look at `virgl_shaders_ok`. -/
def ifShadersOk (m : Assembler PUnit) : Assembler PUnit := do
  let s ← get
  onlyIf (s.comp.gs.virglShadersOk = true) m

def createShaders (replies : SetupReplies) : Assembler PUnit := do
  setShadersOk true
  createShader 104 shaderVertex tgsiVsPassthrough (fun f => { f with vs := 104 }) replies.vs
  ifShadersOk (createShader 105 shaderFragment tgsiFsColor (fun f => { f with fs := 105 })
    replies.fs)
  ifShadersOk (createShader 107 shaderFragment tgsiFsTexture (fun f => { f with fsTex := 107 })
    replies.fsTex)
  let s ← get
  onlyIf (s.comp.gs.virglShadersOk = false)
    (setFields fun f => { f with vs := 0, fs := 0, fsTex := 0 })

def PipelineFields.withSamplers (f : PipelineFields) (nearest linear : UInt32) (ok : Bool) :
    PipelineFields :=
  { f with sampler := nearest, samplerLinear := linear, samplersOk := ok }

def createSamplers (replies : SetupReplies) : Assembler PUnit := do
  let s ← get
  if s.comp.gs.virglShadersOk then do
    let ok ← submit samplerCalls replies.samplers
    setFields fun f => if ok then f.withSamplers 108 109 true else f.withSamplers 0 0 false
  else setFields fun f => f.withSamplers 0 0 false

def createVertexElements (replies : SetupReplies) : Assembler PUnit :=
  ifShadersOk do
    let ok ← submit vertexElementCalls replies.vertexElements
    setFields fun f => { f with ve := if ok then 110 else 0 }

/-- `PIPE_BUFFER` for the vertices of a quad. -/
def createVertexBuffer (answer : GpuAnswer) : Composer PUnit := do
  let id ← chipAllocResourceId
  let created ← chipResourceCreate3D id ⟨64, 256, 1⟩ answer
  modify fun s => s.withGs (s.gs.withVbuf (if created then id else 0))

/-- The loop of `chip_comp_init_blends`, from an operator on. -/
def createBlends (replies : SetupReplies) : ℕ → List FactorRow → Assembler Bool
  | _, [] => pure true
  | op, row :: rest => do
    let handle ← onCompositor compAllocHandle
    let ok ← submit [.createBlend handle 0 row.rt] (replies.compBlend op)
    if ok then do
      setFields fun f =>
        { f with compBlends := Function.update f.compBlends (UInt32.ofNat op) handle }
      createBlends replies (op + 1) rest
    else return false

def chipCompInitBlends (replies : SetupReplies) : Assembler Bool := do
  let s ← get
  if s.comp.gs.virgl2dReady = false then
    return false
  let ok ← createBlends replies 0 pdFactors
  setFields fun f =>
    { f with compBlends := Function.update (Function.update f.compBlends 13 0) 14 0 }
  return ok

/-- `chip_virgl_init_2d`, from the objects of the pipeline to the framebuffer. -/
def setupObjects (replies : SetupReplies) (target : Target) : Assembler Bool := do
  setFields fun f => { f with blend := 100, blendAlpha := 101, dsa := 102, rast := 103 }
  let created ← submit objectCalls replies.objects
  if !created then
    return false
  createShaders replies
  createSamplers replies
  createVertexElements replies
  let s ← get
  onlyIf (s.comp.gs.virglShadersOk = true ∧ s.fields.ve ≠ 0)
    (onCompositor (createVertexBuffer replies.vertexBuffer))
  setFields fun f => { f with surface := 106 }
  let s ← get
  submit (bindCalls target s.comp.gs.virglShadersOk s.fields.ve) replies.bind

/-- `chip_virgl_init_2d`, from the objects of the pipeline on. -/
def setupPipeline (replies : SetupReplies) (target : Target) : Assembler Bool := do
  let bound ← setupObjects replies target
  if !bound then
    return false
  onCompositor (modify fun s => s.withGs (s.gs.withVirglReady true))
  let _ ← chipCompInitBlends replies
  return true

/-! ## The sequence -/

/-- What is sent up to the framebuffer. -/
def objectPlan (target : Target) : List (List VirglCall) :=
  [objectCalls, [.createShader 104 shaderVertex tgsiVsPassthrough],
    [.createShader 105 shaderFragment tgsiFsColor],
    [.createShader 107 shaderFragment tgsiFsTexture], samplerCalls, vertexElementCalls,
    bindCalls target true 110]

/-- The blend objects of these operators, from a handle on. -/
def blendPlan : UInt32 → List FactorRow → List (List VirglCall)
  | _, [] => []
  | handle, row :: rest => [.createBlend handle 0 row.rt] :: blendPlan (handle + 1) rest

def setupPlan (target : Target) : List (List VirglCall) :=
  objectPlan target ++ blendPlan 200 pdFactors

end VirtIOGPU.Compositing
