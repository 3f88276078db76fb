import Mathlib.Data.List.Basic
import VirtIOGPU.Lib.Machine

/-!
# Mode switches and the flush task

One task runs `chip_SetGC` and with it `chip_resize_fb_to_mode`; the flush task runs the
single-buffer path of `chip_flush_all`.  One step is one access to a field that both
tasks use, one lock operation, one command to the host, or one row of
`chip_convert_rect`.  The fields that only `chip_SetGC` writes are read by it in one step with
what follows.

A pointer to a frame buffer is the number of its allocation, 0 for `NULL`.  A command that
returns `TRUE` took effect on the host; one that returns `FALSE` may have.  The reads of the
source bitmap have no influence on where a row is written and are left out.
-/

namespace VirtIOGPU

/-! ## The fields of `ChipGPUState` -/

/-- `RGBFTYPE`: the formats that have a row converter, and the others. -/
inductive RgbFormat where
  | clut
  | r5g6b5
  | r5g5b5
  | a8r8g8b8
  | b8g8r8a8
  | r8g8b8a8
  | a8b8g8r8
  | other (code : UInt32)
  deriving DecidableEq, Repr

/-- `chip_pick_row_converter` finds a converter. -/
def RgbFormat.hasRowConverter : RgbFormat → Bool
  | .other _ => false
  | _ => true

inductive Dimension where
  | width
  | height
  deriving DecidableEq, Repr

structure FbFields where
  activeFormat : RgbFormat
  activeWidth : UInt32
  activeHeight : UInt32
  fbMem : ℕ
  fbPhys : UInt32
  fbWidth : UInt32
  fbHeight : UInt32
  fbStride : UInt32
  fbSize : UInt32
  fbDmaCount : UInt32
  fbDmaList : UInt32
  resourceId : UInt32
  fbResourceId : UInt32
  deriving DecidableEq, Repr

def FbFields.active (f : FbFields) : Dimension → UInt32
  | .width => f.activeWidth
  | .height => f.activeHeight

def FbFields.fb (f : FbFields) : Dimension → UInt32
  | .width => f.fbWidth
  | .height => f.fbHeight

/-- An assignment to one field. -/
inductive FieldWrite where
  | activeFormat (value : RgbFormat)
  | activeWidth (value : UInt32)
  | activeHeight (value : UInt32)
  | fbMem (value : ℕ)
  | fbPhys (value : UInt32)
  | fbWidth (value : UInt32)
  | fbHeight (value : UInt32)
  | fbStride (value : UInt32)
  | fbSize (value : UInt32)
  | fbDmaCount (value : UInt32)
  | fbDmaList (value : UInt32)
  | resourceId (value : UInt32)
  | fbResourceId (value : UInt32)
  deriving DecidableEq, Repr

def FbFields.write (f : FbFields) : FieldWrite → FbFields
  | .activeFormat value => { f with activeFormat := value }
  | .activeWidth value => { f with activeWidth := value }
  | .activeHeight value => { f with activeHeight := value }
  | .fbMem value => { f with fbMem := value }
  | .fbPhys value => { f with fbPhys := value }
  | .fbWidth value => { f with fbWidth := value }
  | .fbHeight value => { f with fbHeight := value }
  | .fbStride value => { f with fbStride := value }
  | .fbSize value => { f with fbSize := value }
  | .fbDmaCount value => { f with fbDmaCount := value }
  | .fbDmaList value => { f with fbDmaList := value }
  | .resourceId value => { f with resourceId := value }
  | .fbResourceId value => { f with fbResourceId := value }

/-- A live block of memory for a frame buffer. -/
structure FbBlock where
  number : ℕ
  size : UInt32
  deriving DecidableEq, Repr

/-- A live resource on the host. -/
structure HostResource where
  id : UInt32
  width : UInt32
  height : UInt32
  deriving DecidableEq, Repr

/-! ## The task in `chip_SetGC` -/

inductive SwitchCommand where
  | create
  | attach
  /-- `SET_SCANOUT`, with the attempts that remain after this one. -/
  | scanout (retries : ℕ)
  /-- `RESOURCE_UNREF` of the new resource, after a failure. -/
  | unrefNew
  | unrefOld
  deriving DecidableEq, Repr

inductive SwitchPc where
  | idle
  /-- The assignments to `active_format`, `active_width` and `active_height` that remain. -/
  | setActive (rest : List FieldWrite)
  /-- `dims_changed`, and the checks at the start of `chip_resize_fb_to_mode`. -/
  | resize
  /-- `AllocVecTags`. -/
  | alloc
  /-- `StartDMA` and the DMA list. -/
  | prepareDma
  /-- `chip_alloc_resource_id`. -/
  | allocId
  | obtain (cmd : SwitchCommand)
  | send (cmd : SwitchCommand)
  | release (cmd : SwitchCommand) (ok : Bool)
  /-- `old_res` and the other old values. -/
  | snapshot
  /-- The assignments to the frame buffer fields that remain. -/
  | publish (rest : List FieldWrite)
  | freeOld
  | freeNew
  deriving DecidableEq, Repr

structure Switch where
  pc : SwitchPc
  dimsChanged : Bool
  newW : UInt32
  newH : UInt32
  newStride : UInt32
  newSize : UInt32
  newMem : ℕ
  newPhys : UInt32
  newDmaCount : UInt32
  newDmaList : UInt32
  newResId : UInt32
  oldRes : UInt32
  oldMem : ℕ
  deriving DecidableEq, Repr

/-- The assignments of `chip_resize_fb_to_mode`, in order. -/
def Switch.published (m : Switch) : List FieldWrite :=
  [.fbMem m.newMem, .fbPhys m.newPhys, .fbWidth m.newW, .fbHeight m.newH, .fbStride m.newStride,
    .fbSize m.newSize, .fbDmaCount m.newDmaCount, .fbDmaList m.newDmaList,
    .resourceId m.newResId, .fbResourceId m.newResId]

/-! ## The flush task -/

/-- The two functions that compute `min(active, fb)`. -/
inductive MinSite where
  | flushAll
  | convertRect
  deriving DecidableEq, Repr

inductive FlushPc where
  | idle
  /-- `gs->active < gs->fb ? gs->active : gs->fb`: the left operand, -/
  | readActive (site : MinSite) (dim : Dimension)
  /-- the right one, -/
  | readFb (site : MinSite) (dim : Dimension)
  /-- and the result. -/
  | readLess (site : MinSite) (dim : Dimension)
  | obtain
  /-- `gs->fb_mem`, the argument of `chip_convert_rect`. -/
  | readMem
  | readFormat
  | readStride
  /-- Write row `row`. -/
  | row (row : UInt32)
  | readReady
  | readError
  | transfer3D
  /-- `gs->virgl_ctx_error = TRUE`. -/
  | setError
  /-- `gs->fb_resource_id`, the argument of `chip_TransferToHost2D`. -/
  | readTransferId
  | readBlob
  | readBlobId
  /-- `TRANSFER_TO_HOST_2D`. -/
  | transfer2D
  | readFlushError
  | readFlushReady
  /-- `gs->fb_resource_id` or `gs->resource_id`, the argument of `chip_ResourceFlush`. -/
  | readFlushId (fb : Bool)
  /-- `RESOURCE_FLUSH`. -/
  | resourceFlush
  | release
  deriving DecidableEq, Repr

structure Flush where
  pc : FlushPc
  lhs : UInt32
  rhs : UInt32
  w : UInt32
  h : UInt32
  dst : ℕ
  stride : UInt32
  maxW : UInt32
  maxH : UInt32
  /-- `w` and `h` of `chip_convert_rect`, after the clamp. -/
  rectW : UInt32
  rectH : UInt32
  resource : UInt32
  deriving DecidableEq, Repr

inductive LockHolder where
  | switch
  | flush
  deriving DecidableEq, Repr

structure FbMachine where
  fields : FbFields
  virgl2dReady : Bool
  virglCtxError : Bool
  fbIsBlob : Bool
  nextResourceId : UInt32
  fbResourceId2 : UInt32
  cursorResourceId : UInt32
  ioLock : Option LockHolder
  switch : Switch
  flush : Flush
  heap : List FbBlock
  /-- The allocations so far. -/
  allocated : ℕ
  host : List HostResource
  deriving DecidableEq, Repr

/-! ## Steps of `chip_SetGC` -/

/-- What exec.library and the host answer during a step. -/
structure SwitchEnv where
  memory : Bool
  /-- Physical address, number of entries and list, or a failure. -/
  dma : Option (UInt32 × UInt32 × UInt32)
  ok : Bool
  /-- A failed command has taken effect. -/
  effect : Bool
  deriving DecidableEq, Repr

/-- The format for a depth. -/
def gcFormat (depth : UInt8) : RgbFormat :=
  if depth ≤ 8 then .clut else if depth ≤ 16 then .r5g6b5 else .a8r8g8b8

/-- `chip_SetGC` up to its first assignment to a frame buffer field. -/
def FbMachine.setGC (s : FbMachine) (width height : UInt16) (depth : UInt8) : Option FbMachine :=
  if s.switch.pc = .idle then
    let fmt := gcFormat depth
    if s.fields.activeWidth = width.toUInt32 ∧ s.fields.activeHeight = height.toUInt32 ∧
        s.fields.activeFormat = fmt then
      some s
    else
      some
        { s with
          switch :=
            { s.switch with
              dimsChanged :=
                s.fields.activeWidth ≠ width.toUInt32 ∨ s.fields.activeHeight ≠ height.toUInt32
              pc := .setActive
                [.activeFormat fmt, .activeWidth width.toUInt32, .activeHeight height.toUInt32] } }
  else none

/-- `chip_alloc_resource_id`: only three ids are skipped, so the fourth iteration returns. -/
def chipAllocResourceId (skipped : List UInt32) (next : UInt32) : UInt32 :=
  if next ∉ skipped then next
  else if next + 1 ∉ skipped then next + 1
  else if next + 2 ∉ skipped then next + 2
  else next + 3

/-- What the command does on the host; `none` when the host refuses it. -/
def SwitchCommand.apply (m : Switch) (host : List HostResource) :
    SwitchCommand → Option (List HostResource)
  | .create =>
      if m.newResId = 0 ∨ m.newResId ∈ host.map HostResource.id then none
      else some (⟨m.newResId, m.newW, m.newH⟩ :: host)
  | .attach => some host
  | .scanout _ => some host
  | .unrefNew => some (host.filter fun r => r.id ≠ m.newResId)
  | .unrefOld => some (host.filter fun r => r.id ≠ m.oldRes)

/-- Where `chip_resize_fb_to_mode` goes on after the command. -/
def SwitchCommand.next (ok : Bool) : SwitchCommand → SwitchPc
  | .create => if ok then .obtain .attach else .freeNew
  | .attach => if ok then .obtain (.scanout 2) else .obtain .unrefNew
  | .scanout retries =>
      if ok then .snapshot
      else
        match retries with
        | 0 => .obtain .unrefNew
        | n + 1 => .obtain (.scanout n)
  | .unrefNew => .freeNew
  | .unrefOld => .freeOld

def FbMachine.switchStep (s : FbMachine) (env : SwitchEnv) : Option FbMachine :=
  let m := s.switch
  match m.pc with
  | .idle => none
  | .setActive (w :: rest) =>
      some { s with fields := s.fields.write w, switch := { m with pc := .setActive rest } }
  | .setActive [] => some { s with switch := { m with pc := .resize } }
  | .resize =>
      let newW := s.fields.activeWidth
      let newH := s.fields.activeHeight
      if ¬ m.dimsChanged ∨ s.fields.fbMem = 0 ∨ newW = 0 ∨ newH = 0 ∨
          (newW = s.fields.fbWidth ∧ newH = s.fields.fbHeight) then
        some { s with switch := { m with pc := .idle } }
      else
        some
          { s with
            switch :=
              { m with
                newW := newW
                newH := newH
                newStride := newW * 4
                newSize := newH * (newW * 4)
                pc := .alloc } }
  | .alloc =>
      if env.memory then
        some
          { s with
            heap := ⟨s.allocated + 1, m.newSize⟩ :: s.heap
            allocated := s.allocated + 1
            switch := { m with newMem := s.allocated + 1, pc := .prepareDma } }
      else some { s with switch := { m with pc := .idle } }
  | .prepareDma =>
      match env.dma with
      | none => some { s with switch := { m with pc := .freeNew } }
      | some (phys, count, list) =>
          some
            { s with
              switch :=
                { m with
                  newPhys := phys
                  newDmaCount := count
                  newDmaList := list
                  pc := .allocId } }
  | .allocId =>
      let id := chipAllocResourceId
        [s.fields.fbResourceId, s.fbResourceId2, s.cursorResourceId] s.nextResourceId
      some
        { s with
          nextResourceId := id + 1
          switch := { m with newResId := id, pc := .obtain .create } }
  | .obtain cmd =>
      if s.ioLock = none then
        some { s with ioLock := some .switch, switch := { m with pc := .send cmd } }
      else none
  | .send cmd =>
      let result := cmd.apply m s.host
      if env.ok ∧ result = none then none
      else
        some
          { s with
            host := if env.ok ∨ env.effect then result.getD s.host else s.host
            switch := { m with pc := .release cmd env.ok } }
  | .release cmd ok => some { s with ioLock := none, switch := { m with pc := cmd.next ok } }
  | .snapshot =>
      some
        { s with
          switch :=
            { m with
              oldRes := s.fields.fbResourceId
              oldMem := s.fields.fbMem
              pc := .publish m.published } }
  | .publish (w :: rest) =>
      some { s with fields := s.fields.write w, switch := { m with pc := .publish rest } }
  | .publish [] =>
      some
        { s with
          switch := { m with pc := if m.oldRes = 0 then .freeOld else .obtain .unrefOld } }
  | .freeOld =>
      some
        { s with
          heap := s.heap.filter fun block => block.number ≠ m.oldMem
          switch := { m with pc := .idle } }
  | .freeNew =>
      some
        { s with
          heap := s.heap.filter fun block => block.number ≠ m.newMem
          switch := { m with pc := .idle } }

/-! ## Steps of `chip_flush_all` -/

/-- `chip_flush_all` up to its first read of a dimension. -/
def FbMachine.startFlush (s : FbMachine) : Option FbMachine :=
  if s.flush.pc = .idle then
    if s.fields.fbMem = 0 then some s
    else some { s with flush := { s.flush with pc := .readActive .flushAll .width } }
  else none

/-- The clamp of `chip_convert_rect` in one dimension. -/
def clampExtent (pos extent bound : UInt32) : UInt32 :=
  if bound < pos + extent then bound - pos else extent

/-- Store the result of `min(active, fb)` and go on. -/
def Flush.storeMin (t : Flush) (value : UInt32) : MinSite → Dimension → Flush
  | .flushAll, .width => { t with w := value, pc := .readActive .flushAll .height }
  | .flushAll, .height =>
      { t with h := value, pc := if t.w = 0 ∨ value = 0 then .idle else .obtain }
  | .convertRect, .width => { t with maxW := value, pc := .readActive .convertRect .height }
  | .convertRect, .height =>
      let rectW := clampExtent 0 t.w t.maxW
      let rectH := clampExtent 0 t.h value
      { t with
        maxH := value
        rectW := rectW
        rectH := rectH
        pc := if rectW = 0 ∨ rectH = 0 then .readReady else .row 0 }

/-- One step of the flush task; `ok` is the result of the command, when it is one. -/
def FbMachine.flushStep (s : FbMachine) (ok : Bool) : Option FbMachine :=
  let t := s.flush
  match t.pc with
  | .idle => none
  | .readActive site dim =>
      some { s with flush := { t with lhs := s.fields.active dim, pc := .readFb site dim } }
  | .readFb site dim =>
      some { s with flush := { t with rhs := s.fields.fb dim, pc := .readLess site dim } }
  | .readLess site dim =>
      let value := if t.lhs < t.rhs then s.fields.active dim else s.fields.fb dim
      some { s with flush := t.storeMin value site dim }
  | .obtain =>
      if s.ioLock = none then
        some { s with ioLock := some .flush, flush := { t with pc := .readMem } }
      else none
  | .readMem =>
      some
        { s with
          flush :=
            { t with
              dst := s.fields.fbMem
              pc := if s.fields.fbMem = 0 then .readReady else .readFormat } }
  | .readFormat =>
      some
        { s with
          flush :=
            { t with
              pc := if s.fields.activeFormat.hasRowConverter then .readStride else .readReady } }
  | .readStride =>
      some
        { s with
          flush := { t with stride := s.fields.fbStride, pc := .readActive .convertRect .width } }
  | .row row =>
      some
        { s with
          flush := { t with pc := if row + 1 < t.rectH then .row (row + 1) else .readReady } }
  | .readReady =>
      some
        { s with
          flush := { t with pc := if s.virgl2dReady then .readError else .readTransferId } }
  | .readError =>
      some
        { s with
          flush := { t with pc := if s.virglCtxError then .readTransferId else .transfer3D } }
  | .transfer3D =>
      some { s with flush := { t with pc := if ok then .readFlushError else .setError } }
  | .setError => some { s with virglCtxError := true, flush := { t with pc := .readTransferId } }
  | .readTransferId =>
      some { s with flush := { t with resource := s.fields.fbResourceId, pc := .readBlob } }
  | .readBlob =>
      some { s with flush := { t with pc := if s.fbIsBlob then .readBlobId else .transfer2D } }
  | .readBlobId =>
      some
        { s with
          flush :=
            { t with
              pc := if t.resource = s.fields.fbResourceId then .readFlushError else .transfer2D } }
  | .transfer2D =>
      some { s with flush := { t with pc := if ok then .readFlushError else .release } }
  | .readFlushError =>
      some
        { s with
          flush := { t with pc := if s.virglCtxError then .readFlushId true else .readFlushReady } }
  | .readFlushReady =>
      some { s with flush := { t with pc := .readFlushId (!s.virgl2dReady) } }
  | .readFlushId fb =>
      some
        { s with
          flush :=
            { t with
              resource := if fb then s.fields.fbResourceId else s.fields.resourceId
              pc := .resourceFlush } }
  | .resourceFlush => some { s with flush := { t with pc := .release } }
  | .release => some { s with ioLock := none, flush := { t with pc := .idle } }

/-! ## Runs -/

inductive FbAction where
  /-- The system calls `chip_SetGC`. -/
  | setGC (width height : UInt16) (depth : UInt8)
  /-- The task in `chip_SetGC` makes its next step. -/
  | switchStep (env : SwitchEnv)
  /-- The flush task enters `chip_flush_all`. -/
  | startFlush
  /-- The flush task makes its next step. -/
  | flushStep (ok : Bool)
  deriving DecidableEq, Repr

def FbMachine.step (s : FbMachine) : FbAction → Option FbMachine
  | .setGC width height depth => s.setGC width height depth
  | .switchStep env => s.switchStep env
  | .startFlush => s.startFlush
  | .flushStep ok => s.flushStep ok

/-- `max_w` of `chip_InitCard`. -/
def maxWidth (width : UInt32) : UInt32 :=
  if width = 0 then 1280 else width

/-- `max_h` of `chip_InitCard`. -/
def maxHeight (height : UInt32) : UInt32 :=
  if height = 0 then 800 else height

/-- After `chip_InitCard`: one frame buffer of the initial mode with resource 1, 2D or blob, and
with `virgl_2d_ready` the scanout resource 3 of the same size. -/
def FbMachine.initial (width height : UInt32) (virgl2dReady fbIsBlob : Bool) : FbMachine :=
  let maxW := maxWidth width
  let maxH := maxHeight height
  { fields :=
      { activeFormat := .a8r8g8b8
        activeWidth := width
        activeHeight := height
        fbMem := 1
        fbPhys := 0
        fbWidth := maxW
        fbHeight := maxH
        fbStride := maxW * 4
        fbSize := maxH * (maxW * 4)
        fbDmaCount := 0
        fbDmaList := 0
        resourceId := if virgl2dReady then 3 else 1
        fbResourceId := 1 }
    virgl2dReady := virgl2dReady
    virglCtxError := false
    fbIsBlob := fbIsBlob
    nextResourceId := if virgl2dReady then 4 else 3
    fbResourceId2 := 0
    cursorResourceId := 2
    ioLock := none
    switch := ⟨.idle, false, 0, 0, 0, 0, 0, 0, 0, 0, 0, 0, 0⟩
    flush := ⟨.idle, 0, 0, 0, 0, 0, 0, 0, 0, 0, 0, 0⟩
    heap := [⟨1, maxH * (maxW * 4)⟩]
    allocated := 1
    host := ⟨1, maxW, maxH⟩ :: if virgl2dReady then [⟨3, maxW, maxH⟩] else [] }

end VirtIOGPU
