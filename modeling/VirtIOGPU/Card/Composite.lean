import VirtIOGPU.Card.BoardMemory
import VirtIOGPU.Card.IdRuns
import VirtIOGPU.Card.RowReads
import VirtIOGPU.Card.VirglFallback

/-!
# Compositing

`hook_CompositeTagList` draws with Virgl when the destination lies in board memory.  The draw goes
to the 3D resource of the scanout, and board memory holds off-screen bitmaps as well.  The bitmap
that is displayed is the one that `chip_SetPanning` has selected last, and the hook does not look
at it: so compositing is right exactly for the destinations that are displayed, and for those for
which one of the guards of the hook leads to the software (`composite_draws_displayed_iff`).

Colours of vertices, pixels of textures and handles of pipeline objects are not modelled.

## Strategy

The hook has many ways out, and each is either a guard that leads to the software or a draw.
`Composition.Sound gs draws` says that the function has drawn if and only if the condition `draws`
holds, and that the selected bitmap is the same afterwards; it is composed along the text of the
function, and each guard adds one conjunct to `Composes`.

```text
part                    draws exactly if                            lemma
virgl_submit            no context error, the 3D buffer is there,   virglSubmit_ok
                        and the command succeeds
a plain colour          besides, vertex buffer and elements exist   compositeSolid_sound
a bitmap                besides, its region is in range and the     compositeBitMap_sound
                        upload succeeds
chip_virgl_composite    besides, the arguments are supported        chipVirglComposite_sound
hook_CompositeTagList   besides, the destination is on the board    hookCompositeTagList_sound
```

The run is needed for one thing only: that `panning_mem` is what the last `chip_SetPanning` has
selected (`selects_run`).  No other function of the driver writes it.
-/

namespace VirtIOGPU.Card

open Lib.Machine Lib.Hoare Drawing

/-! ## The call -/

/-- `COMPFLAG_*`, as far as the driver reads them. -/
structure CompFlags where
  forceSoftware : Bool
  color1Modulate : Bool
  srcFilter : Bool
  deriving DecidableEq, Repr

/-- A `TagItem` with its `ti_Data`, apart from `TAG_DONE` and `TAG_MORE`. -/
inductive CompTag where
  | srcX (data : Int32)
  | srcY (data : Int32)
  | srcWidth (data : Int32)
  | srcHeight (data : Int32)
  | destX (data : Int32)
  | destY (data : Int32)
  | destWidth (data : Int32)
  | destHeight (data : Int32)
  | flags (data : CompFlags)
  | color0 (data : UInt32)
  | vertexArray
  | srcAlphaMask
  | skip (data : UInt32)
  | ignore
  | unknown
  deriving DecidableEq, Repr

/-- A list of tags in memory. -/
inductive TagList where
  | done
  | item (tag : CompTag) (rest : TagList)
  /-- `TAG_MORE`; `rest` are the items behind it. -/
  | more (target rest : TagList)
  deriving DecidableEq, Repr

structure CompArgs where
  srcX : Int32 := 0
  srcY : Int32 := 0
  srcW : Int32 := 0
  srcH : Int32 := 0
  dstX : Int32 := 0
  dstY : Int32 := 0
  dstW : Int32 := 0
  dstH : Int32 := 0
  flags : CompFlags := ⟨false, false, false⟩
  color0 : UInt32 := 0xFF000000
  hasVertexArray : Bool := false
  hasAlphaMask : Bool := false
  deriving DecidableEq, Repr

/-- The `switch` of the loop over the tags. -/
def CompArgs.set (args : CompArgs) : CompTag → CompArgs
  | .srcX data => { args with srcX := data }
  | .srcY data => { args with srcY := data }
  | .srcWidth data => { args with srcW := data }
  | .srcHeight data => { args with srcH := data }
  | .destX data => { args with dstX := data }
  | .destY data => { args with dstY := data }
  | .destWidth data => { args with dstW := data }
  | .destHeight data => { args with dstH := data }
  | .flags data => { args with flags := data }
  | .color0 data => { args with color0 := data }
  | .vertexArray => { args with hasVertexArray := true }
  | .srcAlphaMask => { args with hasAlphaMask := true }
  | .skip _ | .ignore | .unknown => args

/-- The loop over the tags; the first argument is the number of items that `TAG_SKIP` has yet to
pass over. -/
def CompArgs.parse : ℕ → TagList → CompArgs → CompArgs
  | _, .done, args => args
  | n + 1, .item _ rest, args => parse n rest args
  | n + 1, .more _ rest, args => parse n rest args
  | 0, .item (.skip data) rest, args => parse data.toNat rest args
  | 0, .item tag rest, args => parse 0 rest (args.set tag)
  | 0, .more target _, args => parse 0 target args

/-- `struct BitMap`, with the answers of `GetBitMapAttr`. -/
structure BitMap where
  /-- `Planes[0]`. -/
  planes0 : ℕ
  bytesPerRow : UInt16
  width : UInt32
  height : UInt32
  format : RgbfType
  deriving DecidableEq, Repr

inductive Source where
  /-- `COMPSRC_SOLIDCOLOR`. -/
  | solidColor
  | null
  | bitMap (b : BitMap)
  deriving DecidableEq, Repr

structure CompositeCall where
  operator : UInt32
  source : Source
  /-- `none` for `NULL`. -/
  destination : Option BitMap
  /-- The empty list for `NULL`. -/
  tags : TagList
  deriving DecidableEq, Repr

/-- A dimension that is not given is that of the bitmap. -/
def defaultDim (dim : Int32) (size : UInt32) : Int32 := if dim = 0 then size.toInt32 else dim

/-- The arguments with the dimensions of the bitmaps, where `IGraphics` is there to ask for them. -/
def CompositeCall.args (call : CompositeCall) (iGraphics : Bool) : CompArgs :=
  let args := CompArgs.parse 0 call.tags {}
  if !iGraphics then args
  else
    let args :=
      match call.source with
      | .bitMap b => { args with
          srcW := defaultDim args.srcW b.width
          srcH := defaultDim args.srcH b.height }
      | _ => args
    match call.destination with
    | some b => { args with
        dstW := defaultDim args.dstW b.width
        dstH := defaultDim args.dstH b.height }
    | none => args

/-! ## Drawing -/

inductive Paint where
  | colour (argb : UInt32)
  | texture (linear : Bool)
  deriving DecidableEq, Repr

/-- What a stream with `DRAW_VBO` draws on the scanout resource. -/
structure Quad where
  x : UInt32
  y : UInt32
  w : UInt32
  h : UInt32
  paint : Paint
  deriving DecidableEq, Repr

/-- Objects that the setup has made. -/
structure Pipeline where
  /-- The hook is installed and `IGraphics` is known. -/
  iGraphics : Bool
  /-- `virgl_2d_ve`. -/
  ve : UInt32
  /-- `comp_blends`. -/
  blends : UInt32 → UInt32

/-- How the streams of a composition come out. -/
structure CompositeEnv where
  bindBlend : Bool
  upload : UploadEnv
  /-- The upload fails on a stream. -/
  uploadPoisons : Bool
  draw : Bool
  flush : GpuAnswer
  restoreShader : Bool
  destroyView : Bool
  unrefTexture : GpuAnswer
  restoreBlend : Bool

/-- A stream reaches the device. -/
def GpuState.CanSubmit (gs : GpuState) : Prop := gs.virglCtxError = false ∧ gs.cmd3dBuf ≠ 0

instance (gs : GpuState) : Decidable gs.CanSubmit := inferInstanceAs (Decidable (_ ∧ _))

/-- `virgl_submit` for a stream that is not empty. -/
def virglSubmit (gs : GpuState) (answer : Bool) : Bool × GpuState :=
  if gs.virglCtxError then (false, gs)
  else if gs.cmd3dBuf ≠ 0 ∧ answer = true then (true, gs)
  else (false, gs.withCtxError)

/-- What has been drawn, and how the function has ended. -/
structure Drawn where
  ok : Bool
  quad : Option Quad
  gs : GpuState

/-- From the stream with `DRAW_VBO` to the flush. -/
def submitQuad (gs : GpuState) (quad : Quad) (env : CompositeEnv) : Driver Drawn := do
  let sent := if gs.CanSubmit then some quad else none
  let (ok, gs) := virglSubmit gs env.draw
  onlyIf (ok = true) do
    let _ ← chipResourceFlush env.flush
  return ⟨ok, sent, gs⟩

def chipVirglDrawColoredQuad (pipeline : Pipeline) (gs : GpuState) (x y w h : UInt32)
    (argb : UInt32) (env : CompositeEnv) : Driver Drawn := do
  if ¬ (gs.virgl2dReady = true ∧ gs.virglShadersOk = true) then
    return ⟨false, none, gs⟩
  if gs.virgl2dVbufRes = 0 ∨ pipeline.ve = 0 then
    return ⟨false, none, gs⟩
  submitQuad gs ⟨x, y, w, h, .colour argb⟩ env

/-- `comp_tex_view` is there when `comp_tex_res` is. -/
def chipCompDrawTexturedQuad (gs : GpuState) (x y w h : UInt32) (linear : Bool)
    (env : CompositeEnv) : Driver Drawn := do
  if ¬ (gs.virgl2dReady = true ∧ gs.virglShadersOk = true) then
    return ⟨false, none, gs⟩
  if gs.virgl2dVbufRes = 0 then
    return ⟨false, none, gs⟩
  let drawn ← submitQuad gs ⟨x, y, w, h, .texture linear⟩ env
  return { drawn with gs := (virglSubmit drawn.gs env.restoreShader).2 }

/-! ## `chip_virgl_composite` -/

/-- `COMPERR_*`. -/
inductive CompError where
  | success
  | generic
  | unknownOperator
  | softwareFallback
  | value
  | outOfMemory
  deriving DecidableEq, Repr

/-- The result with what has been drawn. -/
structure Composition where
  result : CompError
  quad : Option Quad
  gs : GpuState

/-- `src_region`, as far as it is compared with `NULL`. -/
def BitMap.region (address : ℕ → UInt32) (b : BitMap) (x y : Int32) : UInt32 :=
  address b.planes0 + y.toUInt32 * b.bytesPerRow.toUInt32 + x.toUInt32 * 4

/-- The data, the bytes in a row and the format that the hook takes from the source. -/
def Source.region (address : ℕ → UInt32) (x y : Int32) : Source → UInt32
  | .bitMap b => b.region address x y
  | _ => x.toUInt32 * 4

def Source.format (iGraphics : Bool) : Source → RgbfType
  | .bitMap b => if iGraphics then b.format else .a8r8g8b8
  | _ => .a8r8g8b8

/-- The part of the bitmap that is the source. -/
def CompArgs.RegionOk (args : CompArgs) : Prop :=
  0 ≤ args.srcX ∧ 0 ≤ args.srcY ∧ 0 < args.srcW ∧ 0 < args.srcH

instance (args : CompArgs) : Decidable args.RegionOk := inferInstanceAs (Decidable (_ ∧ _))

/-- The upload of the source. -/
def uploadOf (address : ℕ → UInt32) (source : Source) (args : CompArgs) (env : CompositeEnv) :
    UploadEnv :=
  { env.upload with
    srcData := source.region address args.srcX args.srcY != 0
    srcW := args.srcW.toUInt32
    srcH := args.srcH.toUInt32 }

def GpuState.poisonedIf (gs : GpuState) (poisoned : Bool) : GpuState :=
  if poisoned then gs.withCtxError else gs

/-- `chip_comp_free_texture` with the stream that destroys the view. -/
def freeTexture (gs : GpuState) (env : CompositeEnv) : Driver GpuState :=
  if gs.compTexRes = 0 then pure gs
  else chipCompFreeTexture (virglSubmit gs env.destroyView).2 env.unrefTexture

/-- A bitmap as the source. -/
def compositeBitMap (address : ℕ → UInt32) (pipeline : Pipeline) (gs : GpuState)
    (source : Source) (args : CompArgs) (env : CompositeEnv) : Driver Composition := do
  if chipFormatBpp (source.format pipeline.iGraphics) ≠ 4 then
    return ⟨.softwareFallback, none, gs⟩
  if ¬ args.RegionOk then
    return ⟨.softwareFallback, none, gs⟩
  let (uploaded, gs) ← chipCompUploadBitmap gs (uploadOf address source args env)
  if !uploaded then
    return ⟨.outOfMemory, none, gs.poisonedIf env.uploadPoisons⟩
  let drawn ← chipCompDrawTexturedQuad gs args.dstX.toUInt32 args.dstY.toUInt32
    args.dstW.toUInt32 args.dstH.toUInt32 args.flags.srcFilter env
  let gs ← freeTexture drawn.gs env
  return ⟨if drawn.ok then .success else .generic, drawn.quad, (virglSubmit gs env.restoreBlend).2⟩

/-- A colour as the source. -/
def compositeSolid (pipeline : Pipeline) (gs : GpuState) (args : CompArgs) (env : CompositeEnv) :
    Driver Composition := do
  let drawn ← chipVirglDrawColoredQuad pipeline gs args.dstX.toUInt32 args.dstY.toUInt32
    args.dstW.toUInt32 args.dstH.toUInt32 args.color0 env
  return ⟨if drawn.ok then .success else .generic, drawn.quad,
    (virglSubmit drawn.gs env.restoreBlend).2⟩

def chipVirglComposite (address : ℕ → UInt32) (pipeline : Pipeline) (gs : GpuState)
    (operator : UInt32) (source : Source) (args : CompArgs) (env : CompositeEnv) :
    Driver Composition := do
  if ¬ (gs.virgl2dReady = true ∧ gs.virglShadersOk = true) then
    return ⟨.generic, none, gs⟩
  if operator ≥ 15 then
    return ⟨.unknownOperator, none, gs⟩
  if args.flags.forceSoftware then
    return ⟨.softwareFallback, none, gs⟩
  if args.flags.color1Modulate then
    return ⟨.softwareFallback, none, gs⟩
  if pipeline.blends operator = 0 then
    return ⟨.softwareFallback, none, gs⟩
  if args.dstW ≤ 0 ∨ args.dstH ≤ 0 then
    return ⟨.value, none, gs⟩
  if source ≠ .solidColor ∧ (args.srcW ≠ args.dstW ∨ args.srcH ≠ args.dstH) then
    return ⟨.softwareFallback, none, gs⟩
  let (bound, gs) := virglSubmit gs env.bindBlend
  if !bound then
    return ⟨.generic, none, gs⟩
  if source = .solidColor then
    compositeSolid pipeline gs args env
  else
    compositeBitMap address pipeline gs source args env

/-! ## `hook_CompositeTagList` -/

/-- `is_ours`: the bitmap begins in board memory. -/
def GpuState.OnBoard (address : ℕ → UInt32) (gs : GpuState) (planes0 : ℕ) : Prop :=
  address gs.boardMem ≤ address planes0 ∧
    address planes0 < address gs.boardMem + gs.boardMemSize

instance (address : ℕ → UInt32) (gs : GpuState) (planes0 : ℕ) :
    Decidable (gs.OnBoard address planes0) := inferInstanceAs (Decidable (_ ∧ _))

structure Composited where
  /-- The hardware has done it; the original method is called in any case. -/
  hardware : Bool
  quad : Option Quad

/-- For a destination in board memory. -/
def compositeOnBoard (address : ℕ → UInt32) (pipeline : Pipeline) (gs : GpuState)
    (call : CompositeCall) (env : CompositeEnv) : Driver Composited := do
  let args := call.args pipeline.iGraphics
  if args.hasVertexArray = true ∨ args.hasAlphaMask = true then
    return ⟨false, none⟩
  if gs.doubleBuffer then
    return ⟨false, none⟩
  if chipFormatBpp (call.source.format pipeline.iGraphics) ≠ 4 then
    return ⟨false, none⟩
  let composed ← chipVirglComposite address pipeline gs call.operator call.source args env
  setChipState composed.gs
  return ⟨composed.result == .success, composed.quad⟩

def hookCompositeTagList (address : ℕ → UInt32) (pipeline : Pipeline) (call : CompositeCall)
    (env : CompositeEnv) : Driver Composited := fun c =>
  match c.gs, call.destination with
  | some gs, some destination =>
      if gs.virgl2dReady = true ∧ gs.OnBoard address destination.planes0 then
        compositeOnBoard address pipeline gs call env c
      else (⟨false, none⟩, c)
  | _, _ => (⟨false, none⟩, c)

/-! ## When the hook draws -/

/-- The texture is made. -/
def GpuState.UploadSucceeds (gs : GpuState) (env : UploadEnv) : Prop :=
  gs.Uploads env ∧ env.create = .done ∧ env.pixels = true ∧ env.samplerView = true

instance (gs : GpuState) (env : UploadEnv) : Decidable (gs.UploadSucceeds env) :=
  inferInstanceAs (Decidable (_ ∧ _))

/-- The source can be painted with. -/
def GpuState.Paints (address : ℕ → UInt32) (pipeline : Pipeline) (gs : GpuState) (source : Source)
    (args : CompArgs) (env : CompositeEnv) : Prop :=
  gs.virgl2dVbufRes ≠ 0 ∧
    if source = .solidColor then pipeline.ve ≠ 0
    else args.RegionOk ∧ gs.UploadSucceeds (uploadOf address source args env)

instance (address : ℕ → UInt32) (pipeline : Pipeline) (gs : GpuState) (source : Source)
    (args : CompArgs) (env : CompositeEnv) :
    Decidable (gs.Paints address pipeline source args env) :=
  inferInstanceAs (Decidable (_ ∧ _))

/-- The operation is one that the hardware can do. -/
def CompArgs.Supported (args : CompArgs) (pipeline : Pipeline) (operator : UInt32)
    (source : Source) : Prop :=
  (operator < 15 ∧ pipeline.blends operator ≠ 0) ∧
    (args.flags.forceSoftware = false ∧ args.flags.color1Modulate = false) ∧
      (0 < args.dstW ∧ 0 < args.dstH) ∧
        (source ≠ .solidColor → args.srcW = args.dstW ∧ args.srcH = args.dstH)

instance (args : CompArgs) (pipeline : Pipeline) (operator : UInt32) (source : Source) :
    Decidable (args.Supported pipeline operator source) :=
  inferInstanceAs (Decidable (_ ∧ _ ∧ _ ∧ _))

/-- `chip_virgl_composite` gets to the draw. -/
def GpuState.Composes (address : ℕ → UInt32) (pipeline : Pipeline) (gs : GpuState)
    (operator : UInt32) (source : Source) (args : CompArgs) (env : CompositeEnv) : Prop :=
  gs.virglShadersOk = true ∧ args.Supported pipeline operator source ∧
    (gs.CanSubmit ∧ env.bindBlend = true) ∧ gs.Paints address pipeline source args env

instance (address : ℕ → UInt32) (pipeline : Pipeline) (gs : GpuState) (operator : UInt32)
    (source : Source) (args : CompArgs) (env : CompositeEnv) :
    Decidable (gs.Composes address pipeline operator source args env) :=
  inferInstanceAs (Decidable (_ ∧ _ ∧ _ ∧ _))

/-- No guard of the hook leads to the software. -/
def GpuState.Composites (address : ℕ → UInt32) (pipeline : Pipeline) (gs : GpuState)
    (call : CompositeCall) (env : CompositeEnv) : Prop :=
  (gs.virgl2dReady = true ∧ ∃ destination ∈ call.destination,
    gs.OnBoard address destination.planes0) ∧
    gs.doubleBuffer = false ∧
      ((call.args pipeline.iGraphics).hasVertexArray = false ∧
        (call.args pipeline.iGraphics).hasAlphaMask = false) ∧
        chipFormatBpp (call.source.format pipeline.iGraphics) = 4 ∧
          gs.Composes address pipeline call.operator call.source (call.args pipeline.iGraphics) env

instance (address : ℕ → UInt32) (pipeline : Pipeline) (gs : GpuState) (call : CompositeCall)
    (env : CompositeEnv) : Decidable (gs.Composites address pipeline call env) :=
  have : Decidable (∃ destination ∈ call.destination, gs.OnBoard address destination.planes0) :=
    match call.destination with
    | none => isFalse fun ⟨_, h, _⟩ => absurd h (Option.not_mem_none _)
    | some b => decidable_of_iff (gs.OnBoard address b.planes0)
        ⟨fun h => ⟨b, rfl, h⟩, fun ⟨_, h, honBoard⟩ => Option.some.inj h ▸ honBoard⟩
  inferInstanceAs (Decidable (_ ∧ _ ∧ _ ∧ _))

section Draws

variable {gs : GpuState} {env : CompositeEnv} {pipeline : Pipeline} {args : CompArgs}

theorem virglSubmit_ok (gs : GpuState) (answer : Bool) :
    (virglSubmit gs answer).1 = true ↔ gs.CanSubmit ∧ answer = true := by
  unfold virglSubmit GpuState.CanSubmit
  cases gs.virglCtxError with
  | true => simp
  | false =>
      by_cases hsent : gs.cmd3dBuf ≠ 0 ∧ answer = true
      · simp [hsent]
      · simp [hsent]

/-- A stream that is accepted changes nothing. -/
theorem virglSubmit_of_ok {answer : Bool} (hok : (virglSubmit gs answer).1 = true) :
    (virglSubmit gs answer).2 = gs := by
  obtain ⟨⟨herror, hbuf⟩, hanswer⟩ := (virglSubmit_ok gs answer).mp hok
  unfold virglSubmit
  rw [if_neg (by simp [herror]), if_pos ⟨hbuf, hanswer⟩]

theorem virglSubmit_panningMem (gs : GpuState) (answer : Bool) :
    (virglSubmit gs answer).2.panningMem = gs.panningMem := by
  unfold virglSubmit
  split
  · rfl
  · split
    · rfl
    · rfl

/-- What a composition keeps up to the draw. -/
structure GpuState.SameVirgl (gs' gs : GpuState) : Prop where
  ready : gs'.virgl2dReady = gs.virgl2dReady
  shaders : gs'.virglShadersOk = gs.virglShadersOk
  vbuf : gs'.virgl2dVbufRes = gs.virgl2dVbufRes
  canSubmit : gs'.CanSubmit ↔ gs.CanSubmit
  panningMem : gs'.panningMem = gs.panningMem

theorem chipCompFreeTexture_same (gs : GpuState) (answer : GpuAnswer) :
    Results (chipCompFreeTexture gs answer) fun gs' => gs'.SameVirgl gs :=
  Results.ite (fun _ => Results.ret ⟨rfl, rfl, rfl, Iff.rfl, rfl⟩) fun _ =>
    Results.skip fun _ => Results.ret ⟨rfl, rfl, rfl, Iff.rfl, rfl⟩

theorem createCommand_results (id : UInt32) (resource : GpuResource) (answer : GpuAnswer) :
    Results (createCommand id resource answer) fun ok => ok = true ↔ answer = .done := by
  intro c
  rw [createCommand_result]
  exact beq_iff_eq

theorem chipCompUploadBitmap_ok (gs : GpuState) (env : UploadEnv) :
    Results (chipCompUploadBitmap gs env) fun r =>
      (r.1 = true ↔ gs.UploadSucceeds env) ∧ r.2.SameVirgl gs := by
  have hsame : gs.SameVirgl gs := ⟨rfl, rfl, rfl, Iff.rfl, rfl⟩
  refine Results.ite (fun hnot => Results.ret ⟨?_, hsame⟩) fun huploads => ?_
  · exact ⟨fun h => absurd h Bool.false_ne_true, fun h => absurd h.1 hnot⟩
  refine Results.bind (chipCompFreeTexture_same gs _) fun gs' hgs' => ?_
  have hkept : (gs'.withNextId (gs'.allocId + 1)).SameVirgl gs :=
    ⟨hgs'.ready, hgs'.shaders, hgs'.vbuf, hgs'.canSubmit, hgs'.panningMem⟩
  refine Results.bind (createCommand_results _ _ _) fun created hcreated => ?_
  refine Results.ite (fun hnot => Results.ret ⟨?_, hkept⟩) fun hyes => ?_
  · have hfails : env.create ≠ .done := fun hdone => by simp [hcreated.mpr hdone] at hnot
    exact ⟨fun h => absurd h Bool.false_ne_true, fun h => absurd h.2.1 hfails⟩
  refine Results.ite (fun hnot => Results.skip fun _ => Results.ret ⟨?_, hkept⟩) fun hwritten => ?_
  · refine ⟨fun h => absurd h Bool.false_ne_true, fun h => ?_⟩
    simp [h.2.2.1, h.2.2.2] at hnot
  · refine Results.ret ⟨⟨fun _ => ?_, fun _ => rfl⟩, hkept.ready, hkept.shaders, hkept.vbuf,
      hkept.canSubmit, hkept.panningMem⟩
    have hpixels : env.pixels = true ∧ env.samplerView = true := by simpa using hwritten
    exact ⟨not_not.mp huploads, hcreated.mp (by simpa using hyes), hpixels⟩

theorem submitQuad_sent (gs : GpuState) (quad : Quad) (env : CompositeEnv) :
    Results (submitQuad gs quad env) fun drawn =>
      (drawn.quad.isSome ↔ gs.CanSubmit) ∧ drawn.gs.panningMem = gs.panningMem := by
  refine Results.skip fun _ => Results.ret ⟨?_, virglSubmit_panningMem gs env.draw⟩
  by_cases hsent : gs.CanSubmit
  · simp [hsent]
  · simp [hsent]

theorem chipVirglDrawColoredQuad_sent (x y w h argb : UInt32)
    (hready : gs.virgl2dReady = true ∧ gs.virglShadersOk = true) :
    Results (chipVirglDrawColoredQuad pipeline gs x y w h argb env) fun drawn =>
      (drawn.quad.isSome ↔ (gs.virgl2dVbufRes ≠ 0 ∧ pipeline.ve ≠ 0) ∧ gs.CanSubmit) ∧
        drawn.gs.panningMem = gs.panningMem := by
  refine Results.ite (fun hnot => absurd hready hnot) fun _ => ?_
  refine Results.ite (fun hmissing => Results.ret ⟨?_, rfl⟩) fun hpresent => ?_
  · refine ⟨fun h => absurd h Bool.false_ne_true, fun h => ?_⟩
    rcases hmissing with h0 | h0
    · exact absurd h0 h.1.1
    · exact absurd h0 h.1.2
  · refine (submitQuad_sent gs _ env).weaken fun drawn hdrawn => ⟨?_, hdrawn.2⟩
    rw [hdrawn.1, and_iff_right (not_or.mp hpresent)]

theorem chipCompDrawTexturedQuad_sent (x y w h : UInt32) (linear : Bool)
    (hready : gs.virgl2dReady = true ∧ gs.virglShadersOk = true) :
    Results (chipCompDrawTexturedQuad gs x y w h linear env) fun drawn =>
      (drawn.quad.isSome ↔ gs.virgl2dVbufRes ≠ 0 ∧ gs.CanSubmit) ∧
        drawn.gs.panningMem = gs.panningMem := by
  refine Results.ite (fun hnot => absurd hready hnot) fun _ => ?_
  refine Results.ite (fun h0 => Results.ret ⟨?_, rfl⟩) fun hvbuf => ?_
  · exact ⟨fun h => absurd h Bool.false_ne_true, fun h => absurd h0 h.1⟩
  · refine Results.bind (submitQuad_sent gs _ env) fun drawn hdrawn => Results.ret ⟨?_, ?_⟩
    · rw [hdrawn.1, and_iff_right hvbuf]
    · exact (virglSubmit_panningMem drawn.gs env.restoreShader).trans hdrawn.2

/-- What is known of a composition: when it draws, and that it selects no other bitmap. -/
def Composition.Sound (gs : GpuState) (draws : Prop) (composed : Composition) : Prop :=
  (composed.quad.isSome ↔ draws) ∧ composed.gs.panningMem = gs.panningMem

/-- A guard that leads away from the draw. -/
theorem Composition.Sound.none {draws : Prop} (result : CompError) (hno : ¬ draws) :
    Composition.Sound gs draws ⟨result, none, gs⟩ :=
  ⟨⟨fun h => absurd h Bool.false_ne_true, fun h => absurd h hno⟩, rfl⟩

theorem compositeSolid_sound (hready : gs.virgl2dReady = true ∧ gs.virglShadersOk = true)
    (hsubmit : gs.CanSubmit) :
    Results (compositeSolid pipeline gs args env)
      (Composition.Sound gs (gs.virgl2dVbufRes ≠ 0 ∧ pipeline.ve ≠ 0)) := by
  refine Results.bind (chipVirglDrawColoredQuad_sent _ _ _ _ _ hready) fun drawn hdrawn =>
    Results.ret ⟨?_, ?_⟩
  · rw [hdrawn.1, and_iff_left hsubmit]
  · exact (virglSubmit_panningMem drawn.gs env.restoreBlend).trans hdrawn.2

theorem freeTexture_panningMem (gs : GpuState) (env : CompositeEnv) :
    Results (freeTexture gs env) fun gs' => gs'.panningMem = gs.panningMem :=
  Results.ite (fun _ => Results.ret rfl) fun _ =>
    (chipCompFreeTexture_same _ _).weaken fun _ h =>
      h.panningMem.trans (virglSubmit_panningMem gs env.destroyView)

theorem compositeBitMap_sound (address : ℕ → UInt32) {source : Source}
    (hready : gs.virgl2dReady = true ∧ gs.virglShadersOk = true) (hsubmit : gs.CanSubmit)
    (hbpp : chipFormatBpp (source.format pipeline.iGraphics) = 4) :
    Results (compositeBitMap address pipeline gs source args env)
      (Composition.Sound gs (gs.virgl2dVbufRes ≠ 0 ∧
        args.RegionOk ∧ gs.UploadSucceeds (uploadOf address source args env))) := by
  refine Results.ite (fun hnot => absurd hbpp hnot) fun _ => ?_
  refine Results.ite (fun hbad => Results.ret (.none _ fun h => hbad h.2.1)) fun hregion => ?_
  refine Results.bind (chipCompUploadBitmap_ok gs _) fun r hr => ?_
  obtain ⟨uploaded, gs'⟩ := r
  obtain ⟨huploaded, hsame⟩ := hr
  dsimp only at huploaded hsame ⊢
  refine Results.ite (fun hnot => Results.ret ⟨?_, ?_⟩) fun hyes => ?_
  · refine ⟨fun h => absurd h Bool.false_ne_true, fun h => ?_⟩
    simp [huploaded.mpr h.2.2] at hnot
  · unfold GpuState.poisonedIf
    split
    · exact hsame.panningMem
    · exact hsame.panningMem
  have hready' : gs'.virgl2dReady = true ∧ gs'.virglShadersOk = true :=
    ⟨hsame.ready.trans hready.1, hsame.shaders.trans hready.2⟩
  refine Results.bind (chipCompDrawTexturedQuad_sent _ _ _ _ _ hready') fun drawn hdrawn => ?_
  refine Results.bind (freeTexture_panningMem drawn.gs env) fun freed hfreed =>
    Results.ret ⟨?_, ?_⟩
  · have htexture : args.RegionOk ∧ gs.UploadSucceeds (uploadOf address source args env) :=
      ⟨not_not.mp hregion, huploaded.mp (by simpa using hyes)⟩
    rw [hdrawn.1, hsame.vbuf, and_iff_left (hsame.canSubmit.mpr hsubmit), and_iff_left htexture]
  · calc
      (virglSubmit freed env.restoreBlend).2.panningMem = freed.panningMem :=
        virglSubmit_panningMem _ _
      _ = drawn.gs.panningMem := hfreed
      _ = gs'.panningMem := hdrawn.2
      _ = gs.panningMem := hsame.panningMem

theorem chipVirglComposite_sound (address : ℕ → UInt32) {operator : UInt32} {source : Source}
    (hready : gs.virgl2dReady = true)
    (hbpp : chipFormatBpp (source.format pipeline.iGraphics) = 4) :
    Results (chipVirglComposite address pipeline gs operator source args env)
      (Composition.Sound gs (gs.Composes address pipeline operator source args env)) := by
  refine Results.ite (fun hnot => Results.ret (.none _ fun h => hnot ⟨hready, h.1⟩))
    fun hshaders => ?_
  have hready' : gs.virgl2dReady = true ∧ gs.virglShadersOk = true := not_not.mp hshaders
  refine Results.ite (fun hop => Results.ret (.none _ fun h => ?_)) fun hop => ?_
  · exact UInt32.not_lt.mpr hop h.2.1.1.1
  refine Results.ite (fun hforce => Results.ret (.none _ fun h => ?_)) fun hforce => ?_
  · exact Bool.false_ne_true (h.2.1.2.1.1.symm.trans hforce)
  refine Results.ite (fun hmodulate => Results.ret (.none _ fun h => ?_)) fun hmodulate => ?_
  · exact Bool.false_ne_true (h.2.1.2.1.2.symm.trans hmodulate)
  refine Results.ite (fun h0 => Results.ret (.none _ fun h => h.2.1.1.2 h0)) fun hblend => ?_
  refine Results.ite (fun hempty => Results.ret (.none _ fun h => ?_)) fun hsize => ?_
  · rcases hempty with hw | hh
    · exact Int32.not_le.mpr h.2.1.2.2.1.1 hw
    · exact Int32.not_le.mpr h.2.1.2.2.1.2 hh
  refine Results.ite (fun hscaled => Results.ret (.none _ fun h => ?_)) fun hscale => ?_
  · obtain ⟨hw, hh⟩ := h.2.1.2.2.2 hscaled.1
    exact hscaled.2.elim (fun hne => hne hw) fun hne => hne hh
  have hsupported : args.Supported pipeline operator source := by
    refine ⟨⟨UInt32.not_le.mp hop, hblend⟩, ⟨by simpa using hforce, by simpa using hmodulate⟩,
      ?_, fun hsource => ?_⟩
    · exact ⟨Int32.not_le.mp fun h => hsize (Or.inl h), Int32.not_le.mp fun h => hsize (Or.inr h)⟩
    · by_contra hne
      exact hscale ⟨hsource, not_and_or.mp hne⟩
  -- the stream that binds the blend state
  have hok := virglSubmit_ok gs env.bindBlend
  have hgs (h : (virglSubmit gs env.bindBlend).1 = true) := virglSubmit_of_ok h
  have hpanning := virglSubmit_panningMem gs env.bindBlend
  generalize virglSubmit gs env.bindBlend = r at hok hgs hpanning ⊢
  obtain ⟨bound, gs'⟩ := r
  dsimp only at hok hgs hpanning ⊢
  refine Results.ite (fun hnot => Results.ret ⟨?_, hpanning⟩) fun hyes => ?_
  · refine ⟨fun h => absurd h Bool.false_ne_true, fun h => ?_⟩
    simp [hok.mpr h.2.2.1] at hnot
  have hbound : bound = true := by simpa using hyes
  have hsubmit := hok.mp hbound
  obtain rfl := hgs hbound
  have hiff : gs'.Composes address pipeline operator source args env ↔
      gs'.Paints address pipeline source args env := by
    unfold GpuState.Composes
    rw [and_iff_right hready'.2, and_iff_right hsupported, and_iff_right hsubmit]
  rw [hiff, GpuState.Paints]
  refine Results.ite (fun hsolid => ?_) fun hbitmap => ?_
  · rw [if_pos hsolid]
    exact compositeSolid_sound hready' hsubmit.1
  · rw [if_neg hbitmap]
    exact compositeBitMap_sound address hready' hsubmit.1 hbpp

/-- What is known of a call of the hook. -/
def HookSound (gs : GpuState) (draws : Prop) (composited : Composited) (c : CardState) : Prop :=
  (composited.quad.isSome ↔ draws) ∧ ∃ gs', c.gs = some gs' ∧ gs'.panningMem = gs.panningMem

theorem HookSound.software {draws : Prop} (hno : ¬ draws) {c : CardState} (hgs : c.gs = some gs) :
    HookSound gs draws ⟨false, none⟩ c :=
  ⟨⟨fun h => absurd h Bool.false_ne_true, fun h => absurd h hno⟩, gs, hgs, rfl⟩

theorem compositeOnBoard_sound (address : ℕ → UInt32) (call : CompositeCall)
    (hours : gs.virgl2dReady = true ∧ ∃ destination ∈ call.destination,
      gs.OnBoard address destination.planes0) :
    Triple (fun c => c.gs = some gs) (compositeOnBoard address pipeline gs call env)
      (HookSound gs (gs.Composites address pipeline call env)) := by
  refine Triple.ite (fun harrays => Triple.ret fun c hc => .software (fun h => ?_) hc) fun hno => ?_
  · obtain ⟨harray, hmask⟩ := h.2.2.1
    simp [harray, hmask] at harrays
  refine Triple.ite (fun hdouble => Triple.ret fun c hc => .software (fun h => ?_) hc)
    fun hsingle => ?_
  · exact Bool.false_ne_true (h.2.1.symm.trans hdouble)
  refine Triple.ite (fun hbpp => Triple.ret fun c hc => .software (fun h => ?_) hc) fun hbpp => ?_
  · exact hbpp h.2.2.2.1
  have hbpp' : chipFormatBpp (call.source.format pipeline.iGraphics) = 4 := not_not.mp hbpp
  have hiff : gs.Composites address pipeline call env ↔
      gs.Composes address pipeline call.operator call.source (call.args pipeline.iGraphics)
        env := by
    have harrays : (call.args pipeline.iGraphics).hasVertexArray = false ∧
        (call.args pipeline.iGraphics).hasAlphaMask = false := by simpa using hno
    unfold GpuState.Composites
    rw [and_iff_right hours, and_iff_right (by simpa using hsingle), and_iff_right harrays,
      and_iff_right hbpp']
  rw [hiff]
  refine Triple.bind (R := fun composed _ => Composition.Sound gs _ composed)
    (fun c _ => chipVirglComposite_sound address hours.1 hbpp' c) fun composed => ?_
  refine Triple.bind (R := fun _ c => Composition.Sound gs _ composed ∧ c.gs = some composed.gs)
    (Triple.update fun c hc => ⟨hc, rfl⟩) fun _ => Triple.ret fun c hc => ?_
  exact ⟨hc.1.1, composed.gs, hc.2, hc.1.2⟩

/-- The hook draws exactly where no guard leads to the software. -/
theorem hookCompositeTagList_sound (address : ℕ → UInt32) (pipeline : Pipeline)
    (call : CompositeCall) (env : CompositeEnv) :
    Triple (fun c => c.gs = some gs) (hookCompositeTagList address pipeline call env)
      (HookSound gs (gs.Composites address pipeline call env)) := by
  intro c hgs
  unfold hookCompositeTagList
  simp only [hgs]
  cases hdest : call.destination with
  | none =>
      refine .software (fun h => ?_) hgs
      obtain ⟨destination, hmem, -⟩ := h.1.2
      rw [hdest] at hmem
      exact absurd hmem (Option.not_mem_none _)
  | some destination =>
      dsimp only
      split
      · next hours =>
          have hdestination := Option.mem_def.mpr hdest
          exact compositeOnBoard_sound address call ⟨hours.1, destination, hdestination, hours.2⟩ c
            hgs
      · next hours =>
          refine .software (fun h => hours ⟨h.1.1, ?_⟩) hgs
          obtain ⟨destination', hmem, honBoard⟩ := h.1.2
          rw [hdest] at hmem
          obtain rfl := Option.some.inj (Option.mem_def.mp hmem)
          exact honBoard

end Draws

/-! ## The selected bitmap -/

section Selected

variable {gs : GpuState}

theorem transferFrame_panningMem (useVirgl : Prop) [Decidable useVirgl] (id : UInt32)
    (env : FlushEnv) :
    Results (transferFrame gs useVirgl id env) fun r => r.2.panningMem = gs.panningMem := by
  refine Results.ite (fun _ => Results.skip fun _ => ?_) fun _ =>
    Results.skip fun _ => Results.ret rfl
  exact Results.ite (fun _ => Results.ret rfl) fun _ => Results.skip fun _ => Results.ret rfl

/-- `g_chip_state` is there and selects the bitmap `mem`. -/
def Selects (mem : ℕ) (c : CardState) : Prop := ∃ gs, c.gs = some gs ∧ gs.panningMem = mem

theorem Selects.setChipState {mem : ℕ} {P : CardState → Prop} (hmem : gs.panningMem = mem) :
    Triple P (setChipState gs) fun _ => Selects mem :=
  Triple.update fun _ _ => ⟨gs, rfl, hmem⟩

/-- A program that decides about the state it sets. -/
theorem Selects.bind {α : Type} {mem : ℕ} {m : Driver α} {k : α → Driver Unit} {Q : α → Prop}
    (hm : Results m Q) (hk : ∀ a, Q a → Triple (fun _ => True) (k a) fun _ => Selects mem) :
    Triple (fun _ => True) (m >>= k) fun _ => Selects mem :=
  fun c _ => hk _ (hm c) _ trivial

theorem chipFlushAll_selects {mem : ℕ} (env : FlushEnv) :
    Triple (Selects mem) (chipFlushAll env) fun _ => Selects mem := by
  rintro c ⟨gs, hgs, rfl⟩
  unfold chipFlushAll withChipState
  simp only [hgs]
  split
  · exact ⟨gs, hgs, rfl⟩
  split
  · refine Selects.bind (transferFrame_panningMem _ _ env) (fun r hr => ?_) c trivial
    exact Triple.bind (R := fun _ _ => True) (fun _ _ => trivial) fun _ => Selects.setChipState hr
  · refine Selects.bind (transferFrame_panningMem _ _ env) (fun r hr => ?_) c trivial
    refine Triple.ite (fun _ => Selects.setChipState hr) fun _ => ?_
    refine Triple.bind (R := fun _ _ => True) (fun _ _ => trivial) fun _ => ?_
    exact Triple.bind (R := fun _ _ => True) (fun _ _ => trivial) fun _ => Selects.setChipState hr

theorem chipCursorCreate_panningMem (env : CursorEnv) :
    Results (chipCursorCreate gs env) fun r => r.2.panningMem = gs.panningMem := by
  have hfail {gs' : GpuState} (hgs' : gs'.panningMem = gs.panningMem) (list : ℕ) :
      Results (failCursor gs' list) fun r => r.2.panningMem = gs.panningMem :=
    Results.skip fun _ => Results.skip fun _ => Results.skip fun _ => Results.ret hgs'
  refine Results.ite (fun _ => Results.ret rfl) fun _ => ?_
  refine Results.ite (fun _ => Results.ret rfl) fun _ => Results.skip fun mem => ?_
  refine Results.ite (fun _ => Results.ret rfl) fun _ => Results.skip fun count => ?_
  refine Results.ite (fun _ => Results.skip fun _ => Results.ret rfl) fun _ =>
    Results.skip fun list => ?_
  refine Results.ite (fun _ => Results.skip fun _ => Results.skip fun _ => Results.ret rfl)
    fun _ => Results.skip fun created => ?_
  refine Results.ite (fun _ => hfail rfl list) fun _ => Results.skip fun attached => ?_
  exact Results.ite (fun _ => hfail rfl list) fun _ => Results.skip fun _ => Results.ret rfl

theorem virglFirst_panningMem (env : VirglEnv) :
    Results (virglFirst gs env) fun r => r.2.panningMem = gs.panningMem := by
  refine Results.skip fun _ => Results.ite (fun _ => Results.ret rfl) fun _ => ?_
  refine Results.skip fun _ => Results.ite (fun _ => Results.ret rfl) fun _ => ?_
  exact Results.skip fun _ => Results.ite (fun _ => Results.ret rfl) fun _ => Results.ret rfl

theorem virglSecond_panningMem (env : VirglEnv) :
    Results (virglSecond gs env) fun gs' => gs'.panningMem = gs.panningMem := by
  refine Results.ite (fun _ => Results.skip fun _ => ?_) fun _ => Results.ret rfl
  refine Results.ite (fun _ => Results.ret rfl) fun _ => ?_
  exact Results.skip fun _ => Results.ite (fun _ => Results.ret rfl) fun _ => Results.ret rfl

theorem virglVbuf_panningMem (env : VirglEnv) :
    Results (virglVbuf gs env) fun gs' => gs'.panningMem = gs.panningMem := by
  refine Results.ite (fun _ => Results.skip fun _ => ?_) fun _ => Results.ret rfl
  exact Results.ite (fun _ => Results.ret rfl) fun _ => Results.ret rfl

theorem virglInContext_panningMem (env : VirglEnv) :
    Results (virglInContext gs env) fun r => r.2.panningMem = gs.panningMem := by
  refine Results.ite (fun _ => Results.ret rfl) fun _ => ?_
  refine Results.bind (virglFirst_panningMem env) fun first hfirst => ?_
  refine Results.ite (fun _ => Results.ret hfirst) fun _ => ?_
  refine Results.bind (virglSecond_panningMem env) fun gs₂ hsecond => ?_
  have hboth : gs₂.panningMem = gs.panningMem := hsecond.trans hfirst
  refine Results.ite (fun _ => Results.ret hboth) fun _ => ?_
  refine Results.bind (virglVbuf_panningMem env) fun gs₃ hvbuf => ?_
  have hall : gs₃.panningMem = gs.panningMem := hvbuf.trans hboth
  exact Results.ite (fun _ => Results.ret hall) fun _ => Results.ret hall

theorem chipVirglInit2d_panningMem (env : VirglEnv) :
    Results (chipVirglInit2d gs env) fun r => r.2.panningMem = gs.panningMem := by
  refine Results.ite (fun _ => Results.ret rfl) fun _ => Results.skip fun created => ?_
  refine Results.ite (fun _ => Results.ret rfl) fun _ => ?_
  refine Results.bind (virglInContext_panningMem env) fun r hr => ?_
  exact Results.ite (fun _ => Results.skip fun _ => Results.ret hr) fun _ => Results.ret hr

theorem chipVirglRecover2d_panningMem (env : RecoverEnv) :
    Results (chipVirglRecover2d gs env) fun r => r.2.panningMem = gs.panningMem := by
  refine Results.skip fun _ => Results.skip fun _ => Results.skip fun _ => ?_
  refine Results.skip fun _ => Results.skip fun _ => ?_
  exact chipVirglInit2d_panningMem env.init

theorem withIds_selects {mem : ℕ} {f : GpuState → Driver GpuState}
    (hf : ∀ gs, Results (f gs) fun gs' => gs'.panningMem = gs.panningMem) :
    Triple (Selects mem) (withIds f) fun _ => Selects mem := by
  rintro c ⟨gs, hgs, rfl⟩
  unfold withIds withChipState
  simp only [hgs]
  exact Selects.bind (hf gs) (fun gs' hgs' => Selects.setChipState hgs') c trivial

/-- Only `chip_SetPanning` selects another bitmap. -/
theorem IdCall.selects {mem : ℕ} (call : IdCall) :
    Triple (Selects mem) call.perform fun _ => Selects mem := by
  have hsecond {α : Type} {m : Driver (α × GpuState)} {gs : GpuState}
      (h : Results m fun r => r.2.panningMem = gs.panningMem) :
      Results (Prod.snd <$> m) fun gs' => gs'.panningMem = gs.panningMem := h
  cases call with
  | setGC call =>
      rintro c ⟨gs, hgs, rfl⟩
      obtain ⟨gs', hgs', hmem, -⟩ := chipSetGC_panning call hgs
      exact ⟨gs', hgs', hmem⟩
  | flush env => exact chipFlushAll_selects env
  | setSpriteImage env =>
      change Triple _ (chipSetSpriteImage env) _
      rw [chipSetSpriteImage_eq]
      exact withIds_selects fun gs => hsecond (chipCursorCreate_panningMem env)
  | virglInit2d env => exact withIds_selects fun gs => hsecond (chipVirglInit2d_panningMem env)
  | virglRecover2d env =>
      exact withIds_selects fun gs => hsecond (chipVirglRecover2d_panningMem env)
  | uploadBitmap env =>
      refine withIds_selects fun gs => hsecond ?_
      exact (chipCompUploadBitmap_ok gs env).weaken fun r hr => hr.2.panningMem
  | freeTexture answer =>
      refine withIds_selects fun gs => ?_
      exact (chipCompFreeTexture_same gs answer).weaken fun gs' h => h.panningMem

end Selected

/-! ## Runs -/

/-- The card with its board memory, and the bitmap that `chip_SetPanning` has last selected: at
first that is board memory from its start on. -/
structure Composing where
  board : BoardCard
  selected : ℕ

inductive ComposeCall where
  | card (call : IdCall)
  | allocCardMem (size : UInt32)
  | freeCardMem (mem : UInt32)
  | setPanning (mem : ℕ) (width : UInt16) (xOff yOff : Int16) (format : RgbFormat)
  | composite (pipeline : Pipeline) (call : CompositeCall) (env : CompositeEnv)

/-- The card after a program. -/
def Composing.perform {α : Type} (s : Composing) (m : Driver α) : Composing :=
  { s with board := { s.board with card := (m s.board.card).2 } }

def Composing.step (address : ℕ → UInt32) (s : Composing) : ComposeCall → Option Composing
  | .card call => some (s.perform call.perform)
  | .allocCardMem size =>
      some { s with board := s.board.onBoard address fun board => (chipAllocCardMem board size).2 }
  | .freeCardMem mem =>
      some { s with board := s.board.onBoard address fun board => (chipFreeCardMem board mem).2 }
  | .setPanning mem width xOff yOff format =>
      some
        { s.perform (chipSetPanning mem width xOff yOff format) with
          selected := if mem ≠ 0 then mem else s.selected }
  | .composite pipeline call env =>
      some (s.perform (hookCompositeTagList address pipeline call env))

def Composing.start (env : InitEnv) : Composing :=
  ⟨.start env, (chipInitCard false env .start).2.gs.elim 0 GpuState.boardMem⟩

theorem Composing.step_selects {address : ℕ → UInt32} {s t : Composing} {call : ComposeCall}
    (h : Selects s.selected s.board.card) (hstep : s.step address call = some t) :
    Selects t.selected t.board.card := by
  cases call with
  | card call =>
      obtain rfl := Option.some.inj hstep
      exact call.selects _ h
  | allocCardMem size =>
      obtain rfl := Option.some.inj hstep
      change Selects s.selected (s.board.onBoard address _).card
      rwa [BoardCard.onBoard_card]
  | freeCardMem mem =>
      obtain rfl := Option.some.inj hstep
      change Selects s.selected (s.board.onBoard address _).card
      rwa [BoardCard.onBoard_card]
  | setPanning mem width xOff yOff format =>
      obtain rfl := Option.some.inj hstep
      obtain ⟨gs, hgs, hmem⟩ := h
      change Selects (if mem ≠ 0 then mem else s.selected)
        (chipSetPanning mem width xOff yOff format s.board.card).2
      unfold chipSetPanning withChipState Lib.Hoare.onlyIf
      rw [hgs]
      by_cases hnull : mem = 0
      · simp only [if_neg (not_not_intro hnull)]
        exact ⟨gs, hgs, hmem⟩
      · simp only [if_pos hnull]
        exact ⟨_, rfl, rfl⟩
  | composite pipeline call env =>
      obtain rfl := Option.some.inj hstep
      obtain ⟨gs, hgs, hmem⟩ := h
      obtain ⟨-, gs', hgs', hkept⟩ := hookCompositeTagList_sound address pipeline call env _ hgs
      exact ⟨gs', hgs', hkept.trans hmem⟩

theorem selects_run {env : InitEnv} (hinit : (chipInitCard false env .start).1 = true)
    (address : ℕ → UInt32) (calls : List ComposeCall) {s : Composing}
    (hrun : run (Composing.step address) (.start env) calls = some s) :
    Selects s.selected s.board.card := by
  obtain ⟨gs, hready⟩ := init_ready hinit
  have hinstalled := init_installs env .start hinit gs hready.state
  refine run_invariant' (fun _ _ _ => Composing.step_selects) ⟨gs, hready.state, ?_⟩ hrun
  change gs.panningMem = (chipInitCard false env .start).2.gs.elim 0 GpuState.boardMem
  rw [hready.state, hinstalled.panningMem]
  rfl

/-- A bitmap that `AllocCardMem` has placed. -/
def Composing.Allocated (address : ℕ → UInt32) (s : Composing) (planes0 : ℕ) : Prop :=
  ∃ gs ∈ s.board.card.gs, ∃ slot ∈ s.board.slots,
    slot.used = true ∧ address planes0 = address gs.boardMem + slot.offset

/-- If the hook draws, then for the bitmap that is displayed. -/
def Composing.DrawsDisplayed (address : ℕ → UInt32) (s : Composing) (pipeline : Pipeline)
    (call : CompositeCall) (env : CompositeEnv) : Prop :=
  (hookCompositeTagList address pipeline call env s.board.card).1.quad.isSome →
    ∀ destination ∈ call.destination, address destination.planes0 = address s.selected

/-- In every state that is reached, with every layout of board memory and every history of
panning: a call of the hook draws only for the bitmap that is displayed if and only if the
destination is the panned bitmap or one of the guards leads to the software. -/
theorem composite_draws_displayed_iff {env : InitEnv}
    (hinit : (chipInitCard false env .start).1 = true) (address : ℕ → UInt32)
    (calls : List ComposeCall) {s : Composing}
    (hrun : run (Composing.step address) (.start env) calls = some s) {gs : GpuState}
    (hgs : s.board.card.gs = some gs) (pipeline : Pipeline) (call : CompositeCall)
    (composite : CompositeEnv) :
    s.DrawsDisplayed address pipeline call composite ↔
      ((∀ destination ∈ call.destination,
        address destination.planes0 = address gs.panningMem) ∨
        ¬ gs.Composites address pipeline call composite) := by
  obtain ⟨gs', hgs', hmem⟩ := selects_run hinit address calls hrun
  obtain rfl : gs' = gs := Option.some.inj (hgs'.symm.trans hgs)
  obtain ⟨hdraws, -⟩ := hookCompositeTagList_sound address pipeline call composite _ hgs
  unfold Composing.DrawsDisplayed
  rw [hdraws, ← hmem, or_comm, ← imp_iff_not_or]

/-! ## Two bitmaps -/

/-- A card that offers Virgl. -/
def InitEnv.withVirgl : InitEnv :=
  { InitEnv.working with transport := { InitEnv.working.transport with features := featureVirgl } }

/-- Pointers are numbers of pages. -/
def pageAddress (pointer : ℕ) : UInt32 := pointer.toUInt32 * 4096

/-- Virgl is set up, two bitmaps of 640 by 480 in 32 bits are placed, and the first is panned. -/
def twoBitmaps : List ComposeCall :=
  [.card (.virglInit2d .working), .allocCardMem 1228800, .allocCardMem 1228800,
    .setPanning 41 640 0 0 .a8r8g8b8]

def Pipeline.working : Pipeline := ⟨true, 100, fun _ => 200⟩

def CompositeEnv.working : CompositeEnv where
  bindBlend := true
  upload := ⟨true, 0, 0, .done, .done, true, true, .done⟩
  uploadPoisons := false
  draw := true
  flush := .done
  restoreShader := true
  destroyView := true
  unrefTexture := .done
  restoreBlend := true

/-- A red square over the corner of a bitmap. -/
def redSquare (planes0 : ℕ) : CompositeCall where
  operator := 3
  source := .solidColor
  destination := some ⟨planes0, 2560, 640, 480, .a8r8g8b8⟩
  tags := .item (.destWidth 100) (.item (.destHeight 100) (.item (.color0 0xFFFF0000) .done))

theorem twoBitmaps_init : (chipInitCard false .withVirgl .start).1 = true := by decide +kernel

/-- The bitmaps begin at 41 and 341, and the hook does not turn away from either. -/
theorem twoBitmaps_reached :
    ∃ s gs, run (Composing.step pageAddress) (.start .withVirgl) twoBitmaps = some s ∧
      s.board.card.gs = some gs ∧ s.selected = 41 ∧ gs.panningMem = 41 ∧
        gs.virgl2dReady = true ∧ gs.doubleBuffer = false ∧
          s.Allocated pageAddress 341 ∧
            gs.Composites pageAddress .working (redSquare 341) .working := by
  have hreached : ((run (Composing.step pageAddress) (.start .withVirgl) twoBitmaps).any fun s =>
      s.board.card.gs.any fun gs => s.selected = 41 ∧ gs.boardMem = 41 ∧ gs.panningMem = 41 ∧
        gs.virgl2dReady = true ∧ gs.doubleBuffer = false ∧
        ⟨1228800, 1228800, true⟩ ∈ s.board.slots ∧
          gs.Composites pageAddress .working (redSquare 341) .working) = true := by
    decide +kernel
  obtain ⟨s, hrun, hs⟩ := (Option.any_eq_true _ _).mp hreached
  obtain ⟨gs, hgs, hfields⟩ := (Option.any_eq_true _ _).mp hs
  obtain ⟨hselected, hboardMem, hpanning, hready, hsingle, hslot, hcomposites⟩ :=
    of_decide_eq_true hfields
  refine ⟨s, gs, hrun, hgs, hselected, hpanning, hready, hsingle, ?_, hcomposites⟩
  refine ⟨gs, hgs, _, hslot, rfl, ?_⟩
  rw [hboardMem]
  decide

/-- A red square on the panned bitmap. -/
theorem composite_draws_displayed_iff_panned :
    ∃ s, run (Composing.step pageAddress) (.start .withVirgl) twoBitmaps = some s ∧
      s.DrawsDisplayed pageAddress .working (redSquare 41) .working := by
  obtain ⟨s, gs, hrun, hgs, -, hpanning, -⟩ := twoBitmaps_reached
  refine ⟨s, hrun, (composite_draws_displayed_iff twoBitmaps_init _ _ hrun hgs _ _ _).mpr ?_⟩
  left
  intro destination hdestination
  obtain rfl := Option.some.inj hdestination
  rw [hpanning]

/-- The same square on the other bitmap is drawn on the screen. -/
theorem offscreen_bitmap_drawn :
    ¬ ∀ (env : InitEnv) (address : ℕ → UInt32) (calls : List ComposeCall) (s : Composing),
      (chipInitCard false env .start).1 = true →
        run (Composing.step address) (.start env) calls = some s →
          ∀ (pipeline : Pipeline) (call : CompositeCall) (composite : CompositeEnv),
            (∀ gs ∈ s.board.card.gs, gs.virgl2dReady = true ∧ gs.doubleBuffer = false) →
              (∀ destination ∈ call.destination, s.Allocated address destination.planes0) →
                s.DrawsDisplayed address pipeline call composite := by
  intro hall
  obtain ⟨s, gs, hrun, hgs, hselected, -, hready, hsingle, hallocated, hcomposites⟩ :=
    twoBitmaps_reached
  have hdisplayed := hall .withVirgl pageAddress twoBitmaps s twoBitmaps_init hrun .working
    (redSquare 341) .working ?_ ?_ ?_ ⟨341, 2560, 640, 480, .a8r8g8b8⟩ rfl
  · rw [hselected] at hdisplayed
    exact absurd hdisplayed (by decide)
  · intro gs' hgs'
    obtain rfl := Option.some.inj (hgs'.symm.trans hgs)
    exact ⟨hready, hsingle⟩
  · intro destination hdestination
    obtain rfl := Option.some.inj hdestination
    exact hallocated
  · exact (hookCompositeTagList_sound pageAddress .working _ _ _ hgs).1.mpr hcomposites

end VirtIOGPU.Card
