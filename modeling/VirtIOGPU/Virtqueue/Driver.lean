import VirtIOGPU.Virtqueue.Layout

/-!
# The virtqueue driver

`VirtQueue_Allocate`, `VirtQueue_AddBuf` and `VirtQueue_GetBuf` of `virtqueue.c`.

The answers of exec.library in the indirect path are the argument `ItblEnv` of
`virtQueueAddBuf`, and the calls made to it are part of every result, so that
what is allocated and what is released can be compared.  An indirect table
becomes visible to the device (`itblMem`) once its DMA mapping is known; a table
whose mapping fails is released without the device having seen it.

The `while (1)` of `VirtQueue_GetBuf` is `releaseChain`, bounded by
`releaseFuel` iterations.  Each iteration clears the flags of the descriptor it
visits and a `uint16` index takes 65536 values, so the bound is never reached
(`releaseChain_fuel`).
-/

namespace VirtIOGPU

/-- Calls to exec.library for an indirect table, with what they returned. -/
inductive ExecCall where
  | allocVec (mem : UInt32)
  | startDMA (mem size entries : UInt32)
  | allocDmaList (list : UInt32)
  | getDmaList (mem list : UInt32)
  | freeDmaList (list : UInt32)
  | endDMA (mem size : UInt32)
  | freeVec (mem : UInt32)
  deriving DecidableEq, Repr

/-- The answers of exec.library to `VirtQueue_AddBuf`: the table's address, its
number of DMA entries, the address of the DMA list and the first entry's
physical address.  `0` is a failure of the first three. -/
structure ItblEnv where
  itbl : UInt32
  itblEntries : UInt32
  itblDma : UInt32
  itblPhys : UInt32
  deriving DecidableEq, Repr

/-! ## `VirtQueue_Allocate` -/

/-- The free chain that the initialisation loop links: each descriptor points to the next. -/
def linkFreeChain (queueSize : ℕ) (desc : ℕ → VringDesc) : ℕ → VringDesc :=
  let linked := (List.range (queueSize - 1)).foldl
    (fun desc j => Function.update desc j { desc j with next := UInt16.ofNat (j + 1) }) desc
  Function.update linked (queueSize - 1) { linked (queueSize - 1) with next := 0 }

/-- The queue that `VirtQueue_Allocate` returns when its allocations succeed. -/
def virtQueueAllocate (queueSize : UInt32) : Virtqueue where
  num := queueSize
  desc := linkFreeChain queueSize.toNat fun _ => {}
  avail := { idx := 0, ring := fun _ => 0 }
  used := { idx := 0, ring := fun _ => {} }
  freeHead := 0
  numFree := queueSize.toUInt16
  lastUsedIdx := 0
  cookies := fun _ => 0
  modern := false
  useEventIdx := false
  useIndirect := false
  indirectTables := fun _ => 0
  itblMem := fun _ => []

/-! ## `VirtQueue_AddBuf` -/

structure AddBufResult where
  rc : Int
  vq : Virtqueue
  calls : List ExecCall

/-- The tail of both paths: put `head` in the next avail slot and publish the index. -/
def publishAvail (vq : Virtqueue) (head : UInt16) : Virtqueue :=
  let availIdx := vr16 vq.modern vq.avail.idx
  { vq with
    avail :=
      { ring := Function.update vq.avail.ring (availIdx.toNat % vq.num.toNat) (vr16 vq.modern head)
        idx := vr16 vq.modern (availIdx + 1) } }

/-- Entry `n` of an indirect table. -/
def itblEntry (modern : Bool) (outNum n : ℕ) (sg : VringSg) : VringIndirectDesc where
  addr := vr64 modern sg.addr.toUInt64
  len := vr32 modern sg.len
  flags := vr16 modern (if outNum ≤ n then vringDescFWrite else 0)
  next := 0

/-- `sizeof(struct vring_indirect_desc) * total`. -/
def itblSize (total : UInt32) : UInt32 := 16 * total

/-- The attempt to get an indirect table: the physical address on success, and
the calls made.  A table whose DMA mapping fails is released again. -/
def mapItbl (env : ItblEnv) (total : UInt32) : Option UInt32 × List ExecCall :=
  let size := itblSize total
  if env.itbl = 0 then (none, [.allocVec 0])
  else if env.itblEntries = 0 then
    (none, [.allocVec env.itbl, .startDMA env.itbl size 0, .freeVec env.itbl])
  else if env.itblDma = 0 then
    (none, [.allocVec env.itbl, .startDMA env.itbl size env.itblEntries, .allocDmaList 0,
      .endDMA env.itbl size, .freeVec env.itbl])
  else
    (some env.itblPhys, [.allocVec env.itbl, .startDMA env.itbl size env.itblEntries,
      .allocDmaList env.itblDma, .getDmaList env.itbl env.itblDma, .freeDmaList env.itblDma])

/-- The indirect path once the table at `itbl` is mapped at `itblPhys`. -/
def addBufIndirect (vq : Virtqueue) (sg : List VringSg) (outNum total : UInt32) (cookie : UInt32)
    (itbl itblPhys : UInt32) : Virtqueue :=
  let head := vq.freeHead
  let nextFree := (vq.desc head.toNat).next
  publishAvail
    { vq with
      desc := Function.update vq.desc head.toNat
        { addr := vr64 vq.modern itblPhys.toUInt64
          len := vr32 vq.modern (itblSize total)
          flags := vr16 vq.modern vringDescFIndirect
          next := 0 }
      freeHead := nextFree
      numFree := vq.numFree - 1
      cookies := Function.update vq.cookies head.toNat cookie
      indirectTables := Function.update vq.indirectTables head.toNat itbl
      itblMem := Function.update vq.itblMem itblPhys
        (sg.mapIdx fun n entry => itblEntry vq.modern outNum.toNat n entry) }
    head

/-- The direct descriptor loop, from entry `n` on; it gives the table and `free_head`. -/
def addBufLoop (modern : Bool) (outNum total : ℕ) :
    List VringSg → ℕ → UInt16 → UInt16 → (ℕ → VringDesc) → (ℕ → VringDesc) × UInt16
  | [], _, _, freeHead, desc => (desc, freeHead)
  | entry :: rest, n, idx, freeHead, desc =>
      let descFlags := (if outNum ≤ n then vringDescFWrite else 0) |||
        (if n + 1 < total then vringDescFNext else 0)
      let nextIdx := (desc idx.toNat).next
      let written : VringDesc :=
        { addr := vr64 modern entry.addr.toUInt64
          len := vr32 modern entry.len
          flags := vr16 modern descFlags
          next := if n + 1 < total then vr16 modern nextIdx else nextIdx }
      if n + 1 < total then
        addBufLoop modern outNum total rest (n + 1) nextIdx freeHead
          (Function.update desc idx.toNat written)
      else
        addBufLoop modern outNum total rest (n + 1) idx nextIdx
          (Function.update desc idx.toNat written)

/-- The direct descriptor chain path. -/
def addBufDirect (vq : Virtqueue) (sg : List VringSg) (outNum total : UInt32) (cookie : UInt32) :
    Virtqueue :=
  let head := vq.freeHead
  let loop := addBufLoop vq.modern outNum.toNat total.toNat sg 0 head vq.freeHead vq.desc
  publishAvail
    { vq with
      desc := loop.1
      freeHead := loop.2
      numFree := vq.numFree - total.toUInt16
      cookies := Function.update vq.cookies head.toNat cookie
      indirectTables := Function.update vq.indirectTables head.toNat 0 }
    head

/-- `VirtQueue_AddBuf`.  `sg` holds the `out_num + in_num` entries of the array. -/
def virtQueueAddBuf (vq : Virtqueue) (sg : List VringSg) (outNum inNum : UInt32) (cookie : UInt32)
    (env : ItblEnv) : AddBufResult :=
  let total := outNum + inNum
  let indirect := vq.useIndirect && decide (1 < total)
  if (if indirect then vq.numFree < 1 else vq.numFree.toUInt32 < total) then
    ⟨-1, vq, []⟩
  else if indirect then
    match mapItbl env total with
    | (some itblPhys, calls) =>
        ⟨0, addBufIndirect vq sg outNum total cookie env.itbl itblPhys, calls⟩
    | (none, calls) =>
        if vq.numFree.toUInt32 < total then ⟨-1, vq, calls⟩
        else ⟨0, addBufDirect vq sg outNum total cookie, calls⟩
  else
    ⟨0, addBufDirect vq sg outNum total cookie, []⟩

/-! ## `VirtQueue_GetBuf` -/

/-- The result of `VirtQueue_GetBuf`; `lenOut` is what it stores through `len_out`. -/
structure GetBufResult where
  vq : Virtqueue
  cookie : UInt32
  lenOut : Option UInt32
  calls : List ExecCall

/-- Clear descriptor `idx` and link it to the front of the free list. -/
def releaseDesc (desc : ℕ → VringDesc) (freeHead idx : UInt16) : ℕ → VringDesc :=
  Function.update desc idx.toNat { addr := 0, len := 0, flags := 0, next := freeHead }

/-- More iterations than the release loop can make. -/
def releaseFuel : ℕ := 65537

/-- The release loop: it gives the table, `free_head` and the number of descriptors freed. -/
def releaseChain (modern : Bool) :
    ℕ → UInt16 → (ℕ → VringDesc) → UInt16 → UInt32 → (ℕ → VringDesc) × UInt16 × UInt32
  | 0, _, desc, freeHead, freed => (desc, freeHead, freed)
  | fuel + 1, idx, desc, freeHead, freed =>
      let next := vr16 modern (desc idx.toNat).next
      let hasNext := vr16 modern (desc idx.toNat).flags &&& vringDescFNext
      if hasNext = 0 then (releaseDesc desc freeHead idx, idx, freed + 1)
      else releaseChain modern fuel next (releaseDesc desc freeHead idx) idx (freed + 1)

/-- The id that `VirtQueue_GetBuf` finds in the used ring, when there is a new entry. -/
def usedEntry (vq : Virtqueue) : Option VringUsedElem :=
  if vq.lastUsedIdx = vr16 vq.modern vq.used.idx then none
  else
    let usedSlot := vq.lastUsedIdx.toNat % vq.num.toNat
    some
      { id := vr32 vq.modern (vq.used.ring usedSlot).id
        len := vr32 vq.modern (vq.used.ring usedSlot).len }

/-- The part of `VirtQueue_GetBuf` that gives the descriptors of `descId` back. -/
def releaseRequest (vq : Virtqueue) (descId : UInt32) :
    ((ℕ → VringDesc) × UInt16 × UInt32) × List ExecCall :=
  let itblVirt := vq.indirectTables descId.toNat
  let idx := descId.toUInt16
  if itblVirt ≠ 0 then
    let size := vr32 vq.modern (vq.desc idx.toNat).len
    ((releaseDesc vq.desc vq.freeHead idx, idx, 1), [.endDMA itblVirt size, .freeVec itblVirt])
  else
    (releaseChain vq.modern releaseFuel idx vq.desc vq.freeHead 0, [])

/-- `VirtQueue_GetBuf`. -/
def virtQueueGetBuf (vq : Virtqueue) : GetBufResult :=
  match usedEntry vq with
  | none => ⟨vq, 0, none, []⟩
  | some entry =>
      if vq.num ≤ entry.id then
        ⟨{ vq with lastUsedIdx := vq.lastUsedIdx + 1 }, 0, none, []⟩
      else
        let released := releaseRequest vq entry.id
        let lastUsedIdx := vq.lastUsedIdx + 1
        ⟨{ vq with
            desc := released.1.1
            freeHead := released.1.2.1
            numFree := vq.numFree + released.1.2.2.toUInt16
            cookies := Function.update vq.cookies entry.id.toNat 0
            indirectTables := Function.update vq.indirectTables entry.id.toNat 0
            lastUsedIdx := lastUsedIdx
            avail :=
              if vq.useEventIdx then
                { vq.avail with
                  ring := Function.update vq.avail.ring vq.num.toNat (vr16 vq.modern lastUsedIdx) }
              else vq.avail },
          vq.cookies entry.id.toNat, some entry.len, released.2⟩

end VirtIOGPU
