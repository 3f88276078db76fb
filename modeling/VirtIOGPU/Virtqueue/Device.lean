import VirtIOGPU.Lib.Links
import VirtIOGPU.Lib.Machine
import VirtIOGPU.Virtqueue.Driver

/-!
# The device side, and queue and device together

`deviceChain` is what a device obtains for a published head under the split-ring
rules: follow `next` while `NEXT` is set, and resolve an `INDIRECT` descriptor by
walking its table from entry 0 in the same way.

`Queue` is a virtqueue together with a device that fetches heads from the avail
ring in order and answers the fetched ones in any order, each once, by an entry
of the used ring.  Its history fields (`outstanding`, `completed`, `returned`,
`added`) are written by `step` and read by nothing but statements.
-/

namespace VirtIOGPU

open Lib.Links

/-! ## The device's view of the descriptor table -/

/-- A buffer as the device sees it; `write` says that the device writes it. -/
structure DeviceBuffer where
  addr : UInt64
  len : UInt32
  write : Bool
  deriving DecidableEq, Repr

def deviceFlag (modern : Bool) (d : VringDesc) (flag : UInt16) : Bool :=
  deviceRead16 modern d.flags &&& flag ≠ 0

def deviceBuffer (modern : Bool) (d : VringDesc) : DeviceBuffer where
  addr := deviceRead64 modern d.addr
  len := deviceRead32 modern d.len
  write := deviceFlag modern d vringDescFWrite

/-- The descriptor that follows `i`, for a device. -/
def deviceNext (modern : Bool) (desc : ℕ → VringDesc) (i : ℕ) : Option ℕ :=
  if deviceFlag modern (desc i) vringDescFNext then some (deviceRead16 modern (desc i).next).toNat
  else none

/-- The buffers of an indirect table: `sizeof(struct vring_indirect_desc)` is 16. -/
def deviceTable (modern : Bool) (itblMem : UInt32 → List VringIndirectDesc) (d : VringDesc) :
    List DeviceBuffer :=
  let table := itblMem (deviceRead64 modern d.addr).toUInt32
  let entry := fun i => table.getD i {}
  (walk (deviceNext modern entry) ((deviceRead32 modern d.len).toNat / 16) 0).map fun i =>
    deviceBuffer modern (entry i)

/-- The buffers of one descriptor of the chain. -/
def deviceResolve (modern : Bool) (itblMem : UInt32 → List VringIndirectDesc) (d : VringDesc) :
    List DeviceBuffer :=
  if deviceFlag modern d vringDescFIndirect then deviceTable modern itblMem d
  else [deviceBuffer modern d]

/-- The buffers of the request published with head `head`.  A chain that does not end
within the table shows more descriptors than the table has. -/
def deviceChain (vq : Virtqueue) (head : UInt16) : List DeviceBuffer :=
  (walk (deviceNext vq.modern vq.desc) (vq.num.toNat + 1) head.toNat).flatMap fun i =>
    deviceResolve vq.modern vq.itblMem (vq.desc i)

/-! ## The driver's view -/

/-- The free link of descriptor `i`: free links are native in both modes. -/
def descLink (desc : ℕ → VringDesc) (i : ℕ) : ℕ :=
  (desc i).next.toNat

/-- The free list: `next` followed from `free_head` for `num_free` steps. -/
def freeDescs (vq : Virtqueue) : List ℕ :=
  List.iterate (descLink vq.desc) vq.freeHead.toNat vq.numFree.toNat

/-- The descriptor that `VirtQueue_GetBuf` visits after `i`. -/
def chainNext (modern : Bool) (desc : ℕ → VringDesc) (i : ℕ) : Option ℕ :=
  if vr16 modern (desc i).flags &&& vringDescFNext = 0 then none
  else some (vr16 modern (desc i).next).toNat

/-- The descriptors of the request with head `head`, with the same bound. -/
def chainDescs (vq : Virtqueue) (head : UInt16) : List ℕ :=
  walk (chainNext vq.modern vq.desc) (vq.num.toNat + 1) head.toNat

/-- Driver and device follow the same links. -/
theorem deviceNext_eq_chainNext (modern : Bool) (desc : ℕ → VringDesc) :
    deviceNext modern desc = chainNext modern desc := by
  funext i
  simp only [deviceNext, chainNext, deviceFlag, deviceRead16_eq, decide_eq_true_eq, ne_eq, ite_not]

/-! ## Queue and device -/

/-- The scatter-gather argument of `VirtQueue_AddBuf`: an array of `out_num + in_num`
entries, at least one, that is an object of a 32-bit address space. -/
structure SgArray where
  entries : List VringSg
  outNum : UInt32
  inNum : UInt32
  length_eq : entries.length = outNum.toNat + inNum.toNat
  nonempty : 0 < entries.length
  size_lt : 8 * entries.length < 2 ^ 31

theorem SgArray.total_toNat (sg : SgArray) : (sg.outNum + sg.inNum).toNat = sg.entries.length := by
  have hlength := sg.length_eq
  have hsize := sg.size_lt
  rw [UInt32.toNat_add]
  omega

/-- A request that `VirtQueue_AddBuf` published and `VirtQueue_GetBuf` has not consumed:
the number of requests added before it, its head, array and cookie, and the
descriptors that were taken for it. -/
structure Request where
  serial : ℕ
  head : UInt16
  sg : SgArray
  cookie : UInt32
  descs : List ℕ

/-- The device: its own avail index and the heads it fetched and has not answered. -/
structure Device where
  lastAvailIdx : UInt16
  held : List UInt16
  deriving DecidableEq, Repr

structure Queue where
  vq : Virtqueue
  dev : Device
  /-- Requests added and not consumed. -/
  outstanding : List Request
  /-- Requests in the order in which the device completed them, with the length it reported. -/
  completed : List (Request × UInt32)
  /-- The cookies and lengths that `VirtQueue_GetBuf` gave back, in order. -/
  returned : List (UInt32 × UInt32)
  /-- The number of requests added. -/
  added : ℕ

/-- Right after set-up of a queue with `queueSize` descriptors. -/
def Queue.initial (queueSize : UInt32) (modern useEventIdx useIndirect : Bool) : Queue where
  vq :=
    { virtQueueAllocate queueSize with
      modern := modern, useEventIdx := useEventIdx, useIndirect := useIndirect }
  dev := { lastAvailIdx := 0, held := [] }
  outstanding := []
  completed := []
  returned := []
  added := 0

inductive QueueAction where
  /-- The driver calls `VirtQueue_AddBuf`. -/
  | add (sg : SgArray) (cookie : UInt32) (env : ItblEnv)
  /-- The driver calls `VirtQueue_GetBuf`. -/
  | get
  /-- The device takes the next head from the avail ring. -/
  | fetch
  /-- The device completes the `k`-th request that it holds. -/
  | complete (k : ℕ) (len : UInt32)

/-- The request that a successful `VirtQueue_AddBuf` published. -/
def addedRequest (vq : Virtqueue) (res : AddBufResult) (serial : ℕ) (sg : SgArray)
    (cookie : UInt32) : Request where
  serial := serial
  head := vq.freeHead
  sg := sg
  cookie := cookie
  descs :=
    if res.vq.indirectTables vq.freeHead.toNat ≠ 0 then [vq.freeHead.toNat]
    else List.iterate (descLink vq.desc) vq.freeHead.toNat sg.entries.length

def Queue.add (s : Queue) (sg : SgArray) (cookie : UInt32) (env : ItblEnv) : Queue :=
  let res := virtQueueAddBuf s.vq sg.entries sg.outNum sg.inNum cookie env
  if res.rc = 0 then
    { s with
      vq := res.vq
      outstanding := s.outstanding ++ [addedRequest s.vq res s.added sg cookie]
      added := s.added + 1 }
  else { s with vq := res.vq }

/-- The requests that a used entry for `id` leaves outstanding. -/
def dropRequest (outs : List Request) (id : UInt32) : List Request :=
  outs.filter fun r => decide (r.head.toUInt32 ≠ id)

def Queue.get (s : Queue) : Queue :=
  let res := virtQueueGetBuf s.vq
  { s with
    vq := res.vq
    outstanding :=
      match usedEntry s.vq with
      | none => s.outstanding
      | some entry => dropRequest s.outstanding entry.id
    returned := s.returned ++ (res.lenOut.map fun len => (res.cookie, len)).toList }

theorem Queue.mem_get_outstanding {s : Queue} {r : Request} (h : r ∈ s.get.outstanding) :
    r ∈ s.outstanding := by
  simp only [Queue.get] at h
  split at h
  · exact h
  · exact (List.mem_filter.mp h).1

def Queue.fetch (s : Queue) : Option Queue :=
  if s.dev.lastAvailIdx = deviceRead16 s.vq.modern s.vq.avail.idx then none
  else
    let slot := s.dev.lastAvailIdx.toNat % s.vq.num.toNat
    let head := deviceRead16 s.vq.modern (s.vq.avail.ring slot)
    some { s with dev := { lastAvailIdx := s.dev.lastAvailIdx + 1, held := s.dev.held ++ [head] } }

/-- The device writes a used entry for `head` and publishes it. -/
def deviceAnswer (vq : Virtqueue) (head : UInt16) (len : UInt32) : VringUsed :=
  let usedIdx := deviceRead16 vq.modern vq.used.idx
  { ring := Function.update vq.used.ring (usedIdx.toNat % vq.num.toNat)
      { id := deviceWrite32 vq.modern head.toUInt32, len := deviceWrite32 vq.modern len }
    idx := deviceWrite16 vq.modern (usedIdx + 1) }

def Queue.complete (s : Queue) (k : ℕ) (len : UInt32) : Option Queue :=
  match s.dev.held[k]? with
  | none => none
  | some head =>
      some
        { s with
          vq := { s.vq with used := deviceAnswer s.vq head len }
          dev := { s.dev with held := s.dev.held.eraseIdx k }
          completed := s.completed ++
            ((s.outstanding.find? fun r => r.head = head).map fun r => (r, len)).toList }

theorem Queue.fetch_frame {s t : Queue} (hstep : s.fetch = some t) :
    t.outstanding = s.outstanding ∧ t.completed = s.completed := by
  simp only [Queue.fetch] at hstep
  split at hstep
  · simp at hstep
  · obtain rfl := Option.some.inj hstep
    exact ⟨rfl, rfl⟩

theorem Queue.complete_frame {s t : Queue} {k : ℕ} {len : UInt32}
    (hstep : s.complete k len = some t) :
    t.outstanding = s.outstanding ∧ ∀ answer ∈ s.completed, answer ∈ t.completed := by
  simp only [Queue.complete] at hstep
  split at hstep
  · simp at hstep
  · obtain rfl := Option.some.inj hstep
    exact ⟨rfl, fun answer h => List.mem_append_left _ h⟩

def Queue.step (s : Queue) : QueueAction → Option Queue
  | .add sg cookie env => some (s.add sg cookie env)
  | .get => some s.get
  | .fetch => s.fetch
  | .complete k len => s.complete k len

end VirtIOGPU
