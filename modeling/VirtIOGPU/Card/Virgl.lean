import VirtIOGPU.Card.Mode

/-!
# The hardware cursor and the 3D resources

Everything else that creates resources on the host: the cursor on its first use, the 3D
resources of `chip_virgl_init_2d`, which `chip_virgl_recover_2d` sets up anew, and the texture
of a composition.

Pipeline objects and the pixels of a texture are not modelled: whether a command about them
succeeds is an answer, and what the function does next is kept.
-/

namespace VirtIOGPU.Card

open Lib.Hoare

/-! ## `chip_CursorCreate` -/

/-- `VIRTIO_GPU_FORMAT_B8G8R8A8_UNORM`. -/
def formatB8G8R8A8 : UInt32 := 1

def cursorSize : UInt32 := 64 * 64 * 4

structure CursorEnv where
  mem : Bool
  count : UInt32
  list : Bool
  create : GpuAnswer
  attach : GpuAnswer

def GpuState.withCursorMem (gs : GpuState) (mem : ℕ) : GpuState := { gs with cursorMem := mem }

def GpuState.withCursorId (gs : GpuState) : GpuState := { gs with cursorResourceId := 2 }

def GpuState.withCursorCreated (gs : GpuState) : GpuState := { gs with cursorCreated := true }

/-- What every failure after the allocation gives back. -/
def failCursor (gs : GpuState) (list : ℕ) : Driver (Bool × GpuState) := do
  freeDmaList list
  endDma gs.cursorMem cursorSize
  freeVec gs.cursorMem
  return (false, gs.withCursorMem 0)

def chipCursorCreate (gs : GpuState) (env : CursorEnv) : Driver (Bool × GpuState) := do
  if gs.cursorCreated then
    return (true, gs)
  if gs.cursorq = none then
    return (false, gs)
  let mem ← allocVec cursorSize env.mem
  let gs := gs.withCursorMem mem
  if mem = 0 then
    return (false, gs)
  let count ← startDma gs.cursorMem cursorSize env.count
  if count = 0 then
    freeVec gs.cursorMem
    return (false, gs.withCursorMem 0)
  let list ← allocDmaList env.list
  if list = 0 then
    endDma gs.cursorMem cursorSize
    freeVec gs.cursorMem
    return (false, gs.withCursorMem 0)
  let gs := gs.withCursorId
  let created ← chipResourceCreate2D gs.cursorResourceId formatB8G8R8A8 64 64 env.create
  if !created then
    failCursor gs list
  else
    let attached ← chipResourceAttachBacking env.attach
    if !attached then
      failCursor gs list
    else
      freeDmaList list
      return (true, gs.withCursorCreated)

/-- `chip_SetSpriteImage`, as far as the resource goes. -/
def chipSetSpriteImage (env : CursorEnv) : Driver Unit :=
  withChipState fun gs => do
    let (_, gs) ← chipCursorCreate gs env
    setChipState gs

/-! ## `chip_virgl_init_2d` -/

structure VirglEnv where
  /-- `virgl_caps_valid`. -/
  capsValid : Bool
  ctxCreate : GpuAnswer
  subContext : Bool
  /-- `CTX_DESTROY`, after a failure. -/
  ctxDestroy : GpuAnswer
  create : GpuAnswer
  attach : GpuAnswer
  setScanout : ℕ → GpuAnswer
  create2 : GpuAnswer
  attach2 : GpuAnswer
  /-- Blend, depth and rasterizer objects. -/
  pipeline : Bool
  /-- All shaders are created. -/
  shaders : Bool
  vertexElements : Bool
  createVbuf : GpuAnswer
  /-- The surface is bound. -/
  bound : Bool

/-- The context and its sub-context are created. -/
def VirglEnv.context (env : VirglEnv) : Bool := env.ctxCreate == .done && env.subContext

def GpuState.withVirglReady (gs : GpuState) (ready : Bool) : GpuState :=
  { gs with virgl2dReady := ready }

def GpuState.withVirglCtx (gs : GpuState) (id : UInt32) : GpuState :=
  { gs with virgl2dCtx := id, nextCtxId := id + 1 }

/-- `virgl_2d_resource` is the scanout, and there is no second resource yet. -/
def GpuState.withVirglResource (gs : GpuState) (id : UInt32) : GpuState :=
  { gs with virgl2dResource := id, resourceId := id, virgl2dResource2 := 0 }

def GpuState.withVirglResource2 (gs : GpuState) (id : UInt32) : GpuState :=
  { gs with virgl2dResource2 := id }

def GpuState.withoutDoubleBuffer (gs : GpuState) : GpuState := { gs with doubleBuffer := false }

def GpuState.withShaders (gs : GpuState) (ok : Bool) : GpuState := { gs with virglShadersOk := ok }

def GpuState.withVbuf (gs : GpuState) (id : UInt32) : GpuState := { gs with virgl2dVbufRes := id }

/-- The size of the scanout resource: active dimensions, capped by the frame buffer. -/
def virglDim (active fb : UInt32) : UInt32 :=
  let dim := if active ≠ 0 then active else fb
  if dim > fb then fb else dim

/-- The second resource, for double buffering. -/
def virglSecond (gs : GpuState) (env : VirglEnv) : Driver GpuState := do
  if gs.doubleBuffer ∧ gs.fbMem2 ≠ 0 then
    let id := gs.allocId
    let gs := gs.withNextId (id + 1)
    let created ← chipResourceCreate3D id env.create2
    if !created then
      return gs.withoutDoubleBuffer
    let attached ← chipResourceAttachBacking env.attach2
    if !attached then
      return gs.withoutDoubleBuffer
    return gs.withVirglResource2 id
  return gs

/-- The buffer for vertex data. -/
def virglVbuf (gs : GpuState) (env : VirglEnv) : Driver GpuState := do
  if gs.virglShadersOk ∧ env.vertexElements then
    let id := gs.allocId
    let gs := gs.withNextId (id + 1)
    let created ← chipResourceCreate3D id env.createVbuf
    if !created then
      return gs.withVbuf 0
    return gs.withVbuf id
  return gs

/-- The first resource and the scanout. -/
def virglFirst (gs : GpuState) (env : VirglEnv) : Driver (Bool × GpuState) := do
  let id := gs.allocId
  let gs := gs.withNextId (id + 1)
  let w := virglDim gs.activeWidth gs.fbWidth
  let h := virglDim gs.activeHeight gs.fbHeight
  let created ← chipResourceCreate3D id env.create
  if !created then
    return (false, gs)
  let attached ← chipResourceAttachBacking env.attach
  if !attached then
    return (false, gs)
  let shown ← chipSetScanout id 0 0 w h env.setScanout
  if !shown then
    return (false, gs)
  return (true, gs.withVirglResource id)

/-- The conditions under which the function does anything. -/
def GpuState.VirglPossible (gs : GpuState) (env : VirglEnv) : Prop :=
  gs.hasVirgl = true ∧ env.capsValid = true ∧ gs.cmd3dBuf ≠ 0

instance (gs : GpuState) (env : VirglEnv) : Decidable (gs.VirglPossible env) :=
  inferInstanceAs (Decidable (_ ∧ _ ∧ _))

/-- The function from the creation of the scanout resource to its end. -/
def virglSetup (gs : GpuState) (env : VirglEnv) : Driver (Bool × GpuState) := do
  let (ok, gs) ← virglFirst gs env
  if !ok then
    return (false, gs)
  let gs ← virglSecond gs env
  if !env.pipeline then
    return (false, gs)
  let gs ← virglVbuf (gs.withShaders env.shaders) env
  if !env.bound then
    return (false, gs)
  return (true, gs.withVirglReady true)

/-- From the sub-context on; whatever fails here, the context is destroyed. -/
def virglInContext (gs : GpuState) (env : VirglEnv) : Driver (Bool × GpuState) := do
  if !env.subContext then
    return (false, gs)
  virglSetup gs env

def chipVirglInit2d (gs : GpuState) (env : VirglEnv) : Driver (Bool × GpuState) := do
  let gs := gs.withVirglReady false
  if ¬ gs.VirglPossible env then
    return (false, gs)
  let ctxId := gs.nextCtxId
  let gs := gs.withVirglCtx ctxId
  let created ← chipCtxCreate ctxId env.ctxCreate
  if !created then
    return (false, gs)
  let (ok, gs) ← virglInContext gs env
  if !ok then
    let _ ← chipCtxDestroy ctxId env.ctxDestroy
    return (false, gs)
  return (true, gs)

/-! ## `chip_virgl_recover_2d` -/

structure RecoverEnv where
  setScanout : ℕ → GpuAnswer
  ctxDestroy : GpuAnswer
  unref : GpuAnswer
  unref2 : GpuAnswer
  unrefVbuf : GpuAnswer
  init : VirglEnv

/-- No 3D resource is named any more, and the scanout is the frame buffer. -/
def GpuState.virglCleared (gs : GpuState) : GpuState :=
  { gs with
    virgl2dReady := false
    virglCtxError := false
    resourceId := gs.fbResourceId
    virgl2dResource := 0
    virgl2dResource2 := 0
    virgl2dVbufRes := 0
    compTexRes := 0
    virglShadersOk := false }

def unrefIf (id : UInt32) (answer : GpuAnswer) : Driver Unit :=
  onlyIf (id ≠ 0) do
    let _ ← chipResourceUnref id answer

/-- The resource of the composition is forgotten, not destroyed. -/
def chipVirglRecover2d (gs : GpuState) (env : RecoverEnv) : Driver (Bool × GpuState) := do
  let _ ← chipSetScanout 0 0 0 0 0 env.setScanout
  let _ ← chipCtxDestroy gs.virgl2dCtx env.ctxDestroy
  unrefIf gs.virgl2dResource env.unref
  unrefIf gs.virgl2dResource2 env.unref2
  unrefIf gs.virgl2dVbufRes env.unrefVbuf
  chipVirglInit2d gs.virglCleared env.init

/-! ## `chip_comp_upload_bitmap`, `chip_comp_free_texture` -/

def GpuState.withCompTex (gs : GpuState) (id : UInt32) : GpuState := { gs with compTexRes := id }

def chipCompFreeTexture (gs : GpuState) (answer : GpuAnswer) : Driver GpuState := do
  if gs.compTexRes = 0 then
    return gs
  let _ ← chipResourceUnref gs.compTexRes answer
  return gs.withCompTex 0

structure UploadEnv where
  srcData : Bool
  srcW : UInt32
  srcH : UInt32
  unrefPrevious : GpuAnswer
  create : GpuAnswer
  /-- The pixels are written. -/
  pixels : Bool
  samplerView : Bool
  unref : GpuAnswer

/-- The bitmap can be a texture, and textures can be drawn. -/
def GpuState.Uploads (gs : GpuState) (env : UploadEnv) : Prop :=
  (gs.virgl2dReady = true ∧ gs.virglShadersOk = true) ∧
    (env.srcW ≠ 0 ∧ env.srcH ≠ 0 ∧ env.srcData = true) ∧ ¬ (env.srcW > 1024 ∨ env.srcH > 1024)

instance (gs : GpuState) (env : UploadEnv) : Decidable (gs.Uploads env) :=
  inferInstanceAs (Decidable (_ ∧ _ ∧ _))

def chipCompUploadBitmap (gs : GpuState) (env : UploadEnv) : Driver (Bool × GpuState) := do
  if ¬ gs.Uploads env then
    return (false, gs)
  let gs ← chipCompFreeTexture gs env.unrefPrevious
  let id := gs.allocId
  let gs := gs.withNextId (id + 1)
  let created ← chipResourceCreate3D id env.create
  if !created then
    return (false, gs)
  if !(env.pixels && env.samplerView) then
    let _ ← chipResourceUnref id env.unref
    return (false, gs)
  return (true, gs.withCompTex id)

end VirtIOGPU.Card
