import Mathlib.Data.Set.Lattice
import Mathlib.Order.CompletePartialOrder
import Mathlib.Order.Interval.Set.Basic
import VirtIOGPU.Card.Capabilities
import VirtIOGPU.Card.Init
import VirtIOGPU.Lib.LongWord

/-!
# The rings and the queue registers

`VirtQueue_Allocate` places the three parts of a ring in one block of memory, and `chip_virtio_init`
computes their physical addresses again, once for each queue, and writes them to the device.  The
driver and the device use the same memory, for every size that the device can offer
(`rings_agree`).

## Strategy

All offsets are sums below 2^21 in 32 bits, so nothing wraps; they are computed once over the
natural numbers (`usedStart`) and compared with each of the three copies in the code:

```text
copy                   computes                            lemma
vringTotalMem          the size of the block               toNat_totalMem
virtQueuePlace         the pointers of the driver          virtQueuePlace_toNat
ctrlOffsets,           the offsets for the device          toNat_descSize, toNat_usedOffset
cursorOffsets
```

That the three ranges lie apart is a fact about the pointers (`virtQueuePlace_laidOut`).  That the
device uses the same memory needs that the block is physically contiguous (`Mapped`).  The second
queue selects another register set and leaves that of the first one alone (`RingSet.others`).
-/

namespace VirtIOGPU.Card

open Lib.Hoare

/-! ## The device -/

/-- The registers behind `VIRTIO_PCI_COMMON_Q_SELECT`. -/
structure QueueRegs where
  size : UInt16
  notifyOff : UInt16
  descLo : UInt32
  descHi : UInt32
  availLo : UInt32
  availHi : UInt32
  usedLo : UInt32
  usedHi : UInt32
  enable : UInt16
  deriving DecidableEq, Repr

structure CommonCfg where
  select : UInt16
  queues : UInt16 → QueueRegs

abbrev Registers := StateM CommonCfg

def selectQueue (queue : UInt16) : Registers PUnit := modify fun c => { c with select := queue }

def readQueue (register : QueueRegs → UInt16) : Registers UInt16 := do
  let c ← get
  return register (c.queues c.select)

def writeQueue (write : QueueRegs → QueueRegs) : Registers PUnit :=
  modify fun c =>
    { c with queues := Function.update c.queues c.select (write (c.queues c.select)) }

/-- Where the device finds the descriptor table and the two rings. -/
def QueueRegs.desc (r : QueueRegs) : ℕ := r.descHi.toNat * 2 ^ 32 + r.descLo.toNat
def QueueRegs.avail (r : QueueRegs) : ℕ := r.availHi.toNat * 2 ^ 32 + r.availLo.toNat
def QueueRegs.used (r : QueueRegs) : ℕ := r.usedHi.toNat * 2 ^ 32 + r.usedLo.toNat

/-! ## The driver -/

/-- `struct virtqueue`, as far as it says where the ring is. -/
structure RingPlace where
  num : UInt32
  desc : UInt32
  avail : UInt32
  used : UInt32
  memBlock : UInt32
  memSize : UInt32
  dmaPhys : UInt32 := 0
  availPhys : UInt32 := 0
  usedPhys : UInt32 := 0
  notifyAddr : UInt32 := 0
  notifyBarOff : UInt32 := 0
  deriving DecidableEq, Repr

/-- `VirtQueue_Allocate`, for a block at `base`. -/
def virtQueuePlace (base queueSize : UInt32) : RingPlace :=
  let descSize := 16 * queueSize
  let availSize := 2 * (3 + queueSize)
  let availEnd := descSize + availSize
  let usedOffset := (availEnd + 4096 - 1) &&& ~~~(4096 - 1)
  { num := queueSize
    desc := base
    avail := base + descSize
    used := base + usedOffset
    memBlock := base
    memSize := vringTotalMem queueSize }

/-- The offsets of the two rings as `chip_virtio_init` computes them for the control queue. -/
def ctrlOffsets (qMax : UInt16) : UInt32 × UInt32 :=
  let descSize := 16 * qMax.toUInt32
  let availSize := 2 * (3 + qMax.toUInt32)
  let usedOffset := (descSize + availSize + 4095) &&& ~~~4095
  (descSize, usedOffset)

/-- For the cursor queue. -/
def cursorOffsets (cqMax : UInt16) : UInt32 × UInt32 :=
  let cqDescSize := 16 * cqMax.toUInt32
  let cqAvailSize := 2 * (3 + cqMax.toUInt32)
  let cqUsedOff := (cqDescSize + cqAvailSize + 4095) &&& ~~~4095
  (cqDescSize, cqUsedOff)

/-- What exec.library answers for one queue. -/
structure RingAnswer where
  /-- The block that `VirtQueue_Allocate` gets; `none` when one of its allocations fails. -/
  base : Option UInt32
  /-- `PhysicalAddress` of the first entry of the DMA list; `none` when there is no list. -/
  physicalAddress : Option UInt32

/-- The addresses, in the order in which they are written, and the bit that enables the queue. -/
def programQueue (descPhys availPhys usedPhys : UInt32) : Registers PUnit := do
  writeQueue fun r => { r with descLo := descPhys }
  writeQueue fun r => { r with descHi := 0 }
  writeQueue fun r => { r with availLo := availPhys }
  writeQueue fun r => { r with availHi := 0 }
  writeQueue fun r => { r with usedLo := usedPhys }
  writeQueue fun r => { r with usedHi := 0 }
  writeQueue fun r => { r with enable := 1 }

/-- What `chip_virtio_init` does for one of its queues; `none` when it goes without it. -/
def setupRing (queue : UInt16) (offsets : UInt16 → UInt32 × UInt32) (t : Transport)
    (a : RingAnswer) : Registers (Option RingPlace) := do
  selectQueue queue
  let max ← readQueue QueueRegs.size
  if max = 0 then
    return none
  match a.base, a.physicalAddress with
  | some base, some descPhys => do
      let vq := virtQueuePlace base max.toUInt32
      let availPhys := descPhys + (offsets max).1
      let usedPhys := descPhys + (offsets max).2
      programQueue descPhys availPhys usedPhys
      let noff ← readQueue QueueRegs.notifyOff
      return some
        { vq with
          dmaPhys := descPhys
          availPhys := availPhys
          usedPhys := usedPhys
          notifyAddr := t.notifyAddr noff
          notifyBarOff := t.notifyBarOff noff }
  | _, _ => return none

def setupCtrlRing : Transport → RingAnswer → Registers (Option RingPlace) := setupRing 0 ctrlOffsets

/-- `VIRTIO_GPU_CURSQ` is 1. -/
def setupCursorRing : Transport → RingAnswer → Registers (Option RingPlace) :=
  setupRing 1 cursorOffsets

/-- Steps 7 and 7b of `chip_virtio_init`: without a control queue it gives up. -/
def setupRings (t : Transport) (ctrl cursor : RingAnswer) :
    Registers (Option RingPlace × Option RingPlace) := do
  let vq ← setupCtrlRing t ctrl
  if vq.isNone then
    return (none, none)
  let cq ← setupCursorRing t cursor
  return (vq, cq)

/-! ## The layout -/

namespace RingPlace

/-- `vq->desc`, `num` elements of 16 bytes. -/
def descRange (vq : RingPlace) : Set ℕ :=
  Set.Ico vq.desc.toNat (vq.desc.toNat + 16 * vq.num.toNat)

/-- `vq->avail`: `flags`, `idx`, `num` elements of 2 bytes and `used_event`. -/
def availRange (vq : RingPlace) : Set ℕ :=
  Set.Ico vq.avail.toNat (vq.avail.toNat + (2 + 2 + 2 * vq.num.toNat + 2))

/-- `vq->used`: `flags`, `idx`, `num` elements of 8 bytes and `avail_event`. -/
def usedRange (vq : RingPlace) : Set ℕ :=
  Set.Ico vq.used.toNat (vq.used.toNat + (2 + 2 + 8 * vq.num.toNat + 2))

/-- The memory that was allocated. -/
def block (vq : RingPlace) : Set ℕ :=
  Set.Ico vq.memBlock.toNat (vq.memBlock.toNat + vq.memSize.toNat)

/-- The three parts are disjoint and inside the block, and the used ring starts at a multiple of
4096 from its base. -/
structure LaidOut (vq : RingPlace) : Prop where
  desc_avail : Disjoint vq.descRange vq.availRange
  desc_used : Disjoint vq.descRange vq.usedRange
  avail_used : Disjoint vq.availRange vq.usedRange
  inside : vq.descRange ∪ vq.availRange ∪ vq.usedRange ⊆ vq.block
  aligned : ∃ pages, vq.used.toNat = vq.memBlock.toNat + 4096 * pages

end RingPlace

/-- A block as exec.library hands it out: it lies in the address space, physically contiguous in the
first 4 GB, and `physicalAddress` is that of its first byte. -/
structure Mapped (phys : ℕ → ℕ) (base physicalAddress size : UInt32) : Prop where
  fits : base.toNat + size.toNat ≤ 2 ^ 32
  below : ∀ off < size.toNat, phys (base.toNat + off) < 2 ^ 32
  first : physicalAddress.toNat = phys base.toNat
  contiguous : ∀ off < size.toNat, phys (base.toNat + off) = phys base.toNat + off

/-- The device uses the memory that the driver uses: it has the physical base plus the offset of
each pointer, which is the physical address of what the pointer points to. -/
structure Programmed (phys : ℕ → ℕ) (vq : RingPlace) (r : QueueRegs) : Prop where
  desc : r.desc = phys vq.memBlock.toNat + (vq.desc.toNat - vq.memBlock.toNat)
  avail : r.avail = phys vq.memBlock.toNat + (vq.avail.toNat - vq.memBlock.toNat)
  used : r.used = phys vq.memBlock.toNat + (vq.used.toNat - vq.memBlock.toNat)
  desc_same : r.desc = phys vq.desc.toNat
  avail_same : r.avail = phys vq.avail.toNat
  used_same : r.used = phys vq.used.toNat
  enable : r.enable = 1

/-! ## The arithmetic -/

/-- The offset of the used ring, for `n` elements. -/
def usedStart (n : ℕ) : ℕ := (18 * n + 6 + 4095) / 4096 * 4096

theorem usedStart_ge (n : ℕ) : 18 * n + 6 ≤ usedStart n := by
  unfold usedStart
  omega

theorem usedStart_lt (n : ℕ) : usedStart n < 18 * n + 6 + 4096 := by
  unfold usedStart
  omega

section

variable (q : UInt16)

theorem toNat_descSize : (16 * q.toUInt32).toNat = 16 * q.toNat := by
  have hq := q.toNat_lt
  rw [UInt32.toNat_mul, UInt16.toNat_toUInt32]
  exact Nat.mod_eq_of_lt (by change 16 * q.toNat < 2 ^ 32; omega)

theorem toNat_availEnd :
    (16 * q.toUInt32 + 2 * (3 + q.toUInt32)).toNat = 18 * q.toNat + 6 := by
  have hq := q.toNat_lt
  have havail : (2 * (3 + q.toUInt32)).toNat = 2 * (3 + q.toNat) := by
    rw [UInt32.toNat_mul, UInt32.toNat_add, UInt16.toNat_toUInt32]
    change 2 * ((3 + q.toNat) % 2 ^ 32) % 2 ^ 32 = 2 * (3 + q.toNat)
    omega
  rw [UInt32.toNat_add, toNat_descSize, havail]
  omega

/-- The three copies of the rounding. -/
theorem toNat_usedOffset :
    ((16 * q.toUInt32 + 2 * (3 + q.toUInt32) + 4095) &&& ~~~4095).toNat = usedStart q.toNat := by
  have hq := q.toNat_lt
  have hround := @Lib.Memory.toNat_and_not_ones 12 (16 * q.toUInt32 + 2 * (3 + q.toUInt32) + 4095)
  rw [UInt32.toNat_add, toNat_availEnd] at hround
  refine hround.trans ?_
  change (18 * q.toNat + 6 + 4095) % 2 ^ 32 / 4096 * 4096 = usedStart q.toNat
  rw [Nat.mod_eq_of_lt (by omega), usedStart]

theorem allocOffset_eq :
    (16 * q.toUInt32 + 2 * (3 + q.toUInt32) + 4096 - 1) &&& ~~~(4096 - 1) =
      (16 * q.toUInt32 + 2 * (3 + q.toUInt32) + 4095) &&& ~~~4095 := by
  have hsum : 16 * q.toUInt32 + 2 * (3 + q.toUInt32) + 4096 - 1 =
      16 * q.toUInt32 + 2 * (3 + q.toUInt32) + 4095 := by
    rw [UInt32.sub_eq_add_neg, UInt32.add_assoc]
    rfl
  rw [hsum]
  rfl

theorem toNat_totalMem :
    (vringTotalMem q.toUInt32).toNat = usedStart q.toNat + (6 + 8 * q.toNat) := by
  have hq := q.toNat_lt
  have hlt := usedStart_lt q.toNat
  have hsize : (2 * 3 + 8 * q.toUInt32).toNat = 6 + 8 * q.toNat := by
    have hring : (8 * q.toUInt32).toNat = 8 * q.toNat := by
      rw [UInt32.toNat_mul, UInt16.toNat_toUInt32]
      exact Nat.mod_eq_of_lt (by change 8 * q.toNat < 2 ^ 32; omega)
    rw [UInt32.toNat_add, hring]
    change (6 + 8 * q.toNat) % 2 ^ 32 = 6 + 8 * q.toNat
    omega
  unfold vringTotalMem
  simp only [allocOffset_eq]
  rw [UInt32.toNat_add, toNat_usedOffset, hsize]
  omega

end

/-- An address inside the block is not cut off. -/
theorem toNat_inBlock {base off : UInt32} {size : ℕ} (hfits : base.toNat + size ≤ 2 ^ 32)
    (hoff : off.toNat < size) : (base + off).toNat = base.toNat + off.toNat := by
  rw [UInt32.toNat_add]
  omega

section

variable {base : UInt32} {q : UInt16}

/-- Where the pointers point to. -/
theorem virtQueuePlace_toNat
    (hfits : base.toNat + (vringTotalMem q.toUInt32).toNat ≤ 2 ^ 32) :
    (virtQueuePlace base q.toUInt32).avail.toNat = base.toNat + 16 * q.toNat ∧
      (virtQueuePlace base q.toUInt32).used.toNat = base.toNat + usedStart q.toNat := by
  have hge := usedStart_ge q.toNat
  rw [toNat_totalMem] at hfits
  unfold virtQueuePlace
  simp only [allocOffset_eq]
  rw [toNat_inBlock hfits (by rw [toNat_descSize]; omega), toNat_descSize,
    toNat_inBlock hfits (by rw [toNat_usedOffset]; omega), toNat_usedOffset]
  exact ⟨rfl, rfl⟩

theorem disjoint_of_le {a b c d : ℕ} (h : b ≤ c) : Disjoint (Set.Ico a b) (Set.Ico c d) :=
  Set.disjoint_left.mpr fun _ hab hcd => absurd (hab.2.trans_le h) (Nat.not_lt.mpr hcd.1)

theorem virtQueuePlace_laidOut
    (hfits : base.toNat + (vringTotalMem q.toUInt32).toNat ≤ 2 ^ 32) :
    (virtQueuePlace base q.toUInt32).LaidOut := by
  obtain ⟨havail, hused⟩ := virtQueuePlace_toNat hfits
  have hge := usedStart_ge q.toNat
  have htotal := toNat_totalMem q
  have hnum : (virtQueuePlace base q.toUInt32).num.toNat = q.toNat := UInt16.toNat_toUInt32 q
  have hdesc : (virtQueuePlace base q.toUInt32).desc.toNat = base.toNat := rfl
  have hblock : (virtQueuePlace base q.toUInt32).memBlock.toNat = base.toNat := rfl
  have hsize : (virtQueuePlace base q.toUInt32).memSize.toNat =
      usedStart q.toNat + (6 + 8 * q.toNat) := htotal
  -- the parts follow one another
  refine ⟨disjoint_of_le ?_, disjoint_of_le ?_, disjoint_of_le ?_, ?_, ?_⟩
  · omega
  · omega
  · omega
  · refine Set.union_subset (Set.union_subset ?_ ?_) ?_ <;>
      exact Set.Ico_subset_Ico (by omega) (by omega)
  · exact ⟨(18 * q.toNat + 6 + 4095) / 4096, by rw [hused, hblock, usedStart, Nat.mul_comm 4096]⟩

/-- What the driver writes for a block. -/
theorem programmed {phys : ℕ → ℕ} {p : UInt32}
    (hmapped : Mapped phys base p (vringTotalMem q.toUInt32)) {vq : RingPlace} {r : QueueRegs}
    (hblock : vq.memBlock = base) (hdesc : vq.desc = base)
    (havail : vq.avail = (virtQueuePlace base q.toUInt32).avail)
    (hused : vq.used = (virtQueuePlace base q.toUInt32).used)
    (hregs : r.descLo = p ∧ r.descHi = 0 ∧ r.availLo = p + 16 * q.toUInt32 ∧ r.availHi = 0 ∧
      r.usedLo = p + ((16 * q.toUInt32 + 2 * (3 + q.toUInt32) + 4095) &&& ~~~4095) ∧
        r.usedHi = 0 ∧ r.enable = 1) : Programmed phys vq r := by
  obtain ⟨hdescLo, hdescHi, havailLo, havailHi, husedLo, husedHi, henable⟩ := hregs
  obtain ⟨havailAt, husedAt⟩ := virtQueuePlace_toNat hmapped.fits
  have hge := usedStart_ge q.toNat
  have htotal := toNat_totalMem q
  -- the last byte of the block is below 4 GB
  have hphys : p.toNat + (usedStart q.toNat + (6 + 8 * q.toNat)) ≤ 2 ^ 32 := by
    have hlast : usedStart q.toNat + (6 + 8 * q.toNat) - 1 < (vringTotalMem q.toUInt32).toNat := by
      omega
    have hbelow := hmapped.below _ hlast
    rw [hmapped.contiguous _ hlast, ← hmapped.first] at hbelow
    omega
  have hdescAddr : r.desc = p.toNat := by
    rw [QueueRegs.desc, hdescHi, hdescLo]
    simp
  have havailAddr : r.avail = p.toNat + 16 * q.toNat := by
    rw [QueueRegs.avail, havailHi, havailLo,
      toNat_inBlock hphys (by rw [toNat_descSize]; omega), toNat_descSize]
    simp
  have husedAddr : r.used = p.toNat + usedStart q.toNat := by
    rw [QueueRegs.used, husedHi, husedLo,
      toNat_inBlock hphys (by rw [toNat_usedOffset]; omega), toNat_usedOffset]
    simp
  have hat : ∀ off < (vringTotalMem q.toUInt32).toNat,
      p.toNat + off = phys (base.toNat + off) := by
    intro off hoff
    rw [hmapped.contiguous off hoff, hmapped.first]
  rw [hmapped.first] at hdescAddr havailAddr husedAddr
  refine ⟨?_, ?_, ?_, ?_, ?_, ?_, henable⟩
  · rw [hdescAddr, hblock, hdesc, Nat.sub_self, Nat.add_zero]
  · rw [havailAddr, hblock, havail, havailAt, Nat.add_sub_cancel_left]
  · rw [husedAddr, hblock, hused, husedAt, Nat.add_sub_cancel_left]
  · rw [hdescAddr, hdesc]
  · rw [havailAddr, havail, havailAt, ← hmapped.first, hat _ (by omega)]
  · rw [husedAddr, hused, husedAt, ← hmapped.first, hat _ (by omega)]

end

/-! ## The setup -/

/-- The registers of a queue that has been set up. -/
def QueueRegs.programmed (r : QueueRegs) (descPhys availPhys usedPhys : UInt32) : QueueRegs :=
  { r with
    descLo := descPhys
    descHi := 0
    availLo := availPhys
    availHi := 0
    usedLo := usedPhys
    usedHi := 0
    enable := 1 }

theorem writeQueue_update (write : QueueRegs → QueueRegs) (c : CommonCfg) (r : QueueRegs) :
    writeQueue write { c with queues := Function.update c.queues c.select r } =
      (⟨⟩, { c with queues := Function.update c.queues c.select (write r) }) := by
  refine Prod.ext rfl (congrArg (CommonCfg.mk c.select) ?_)
  dsimp only
  rw [Function.update_self, Function.update_idem]

theorem programQueue_eq (descPhys availPhys usedPhys : UInt32) (c : CommonCfg) :
    programQueue descPhys availPhys usedPhys c =
      (⟨⟩,
        { c with
          queues := Function.update c.queues c.select
            ((c.queues c.select).programmed descPhys availPhys usedPhys) }) := by
  have hwrite : ∀ (write : QueueRegs → QueueRegs) (k : Registers PUnit) (r : QueueRegs),
      (do writeQueue write; k) { c with queues := Function.update c.queues c.select r } =
        k { c with queues := Function.update c.queues c.select (write r) } :=
    fun write k r => congrArg (fun s : PUnit × CommonCfg => k s.2) (writeQueue_update write c r)
  have hstart : c = { c with queues := Function.update c.queues c.select (c.queues c.select) } := by
    rw [Function.update_eq_self]
  conv_lhs => rw [hstart]
  -- each write finds the registers of the one before it
  unfold programQueue
  simp only [hwrite]
  exact writeQueue_update _ c _

/-- What the setup of one queue comes to. -/
inductive RingSet (queue : UInt16) (offsets : UInt16 → UInt32 × UInt32) (a : RingAnswer)
    (c : CommonCfg) : Option RingPlace → CommonCfg → Prop
  | without : RingSet queue offsets a c none { c with select := queue }
  | with (base p availPhys usedPhys notifyAddr notifyBarOff : UInt32) (hbase : a.base = some base)
      (hp : a.physicalAddress = some p) :
      RingSet queue offsets a c
        (some
          { virtQueuePlace base (c.queues queue).size.toUInt32 with
            dmaPhys := p
            availPhys := availPhys
            usedPhys := usedPhys
            notifyAddr := notifyAddr
            notifyBarOff := notifyBarOff })
        { select := queue
          queues := Function.update c.queues queue ((c.queues queue).programmed p
            (p + (offsets (c.queues queue).size).1) (p + (offsets (c.queues queue).size).2)) }

section

variable {queue : UInt16} {offsets : UInt16 → UInt32 × UInt32} {t : Transport} {a : RingAnswer}
  {c : CommonCfg}

theorem setupRing_without
    (h : (c.queues queue).size = 0 ∨ a.base = none ∨ a.physicalAddress = none) :
    setupRing queue offsets t a c = (none, { c with select := queue }) := by
  change (if (c.queues queue).size = 0 then pure none else _ : Registers _) _ = _
  by_cases hsize : (c.queues queue).size = 0
  · rw [if_pos hsize]
    rfl
  · rw [if_neg hsize]
    rcases h.resolve_left hsize with hbase | hp
    · rw [hbase]
      rfl
    · rw [hp]
      cases a.base <;> rfl

theorem setupRing_with {base p : UInt32} (hsize : (c.queues queue).size ≠ 0)
    (hbase : a.base = some base) (hp : a.physicalAddress = some p) :
    RingSet queue offsets a c (setupRing queue offsets t a c).1
      (setupRing queue offsets t a c).2 := by
  let max := (c.queues queue).size
  let availPhys := p + (offsets max).1
  let usedPhys := p + (offsets max).2
  have hrun : setupRing queue offsets t a c =
      (do
        programQueue p availPhys usedPhys
        let noff ← readQueue QueueRegs.notifyOff
        return some
          { virtQueuePlace base max.toUInt32 with
            dmaPhys := p
            availPhys := availPhys
            usedPhys := usedPhys
            notifyAddr := t.notifyAddr noff
            notifyBarOff := t.notifyBarOff noff } : Registers (Option RingPlace))
        { c with select := queue } := by
    change (if (c.queues queue).size = 0 then pure none else _ : Registers _) _ = _
    rw [if_neg hsize, hbase, hp]
  rw [hrun]
  change RingSet queue offsets a c (some _)
    (programQueue p availPhys usedPhys { c with select := queue }).2
  rw [programQueue_eq]
  exact .with base p _ _ _ _ hbase hp

theorem setupRing_cases (queue : UInt16) (offsets : UInt16 → UInt32 × UInt32) (t : Transport)
    (a : RingAnswer) (c : CommonCfg) :
    RingSet queue offsets a c (setupRing queue offsets t a c).1
      (setupRing queue offsets t a c).2 := by
  by_cases h : (c.queues queue).size = 0 ∨ a.base = none ∨ a.physicalAddress = none
  · rw [setupRing_without h]
    exact .without
  · simp only [not_or] at h
    obtain ⟨base, hbase⟩ := Option.ne_none_iff_exists'.mp h.2.1
    obtain ⟨p, hp⟩ := Option.ne_none_iff_exists'.mp h.2.2
    exact setupRing_with h.1 hbase hp

/-- A queue that has been set up is the one that the device uses. -/
theorem RingSet.agrees {phys : ℕ → ℕ} {vq : RingPlace} {c' : CommonCfg}
    (h : RingSet queue offsets a c (some vq) c')
    (hoffsets : ∀ q, offsets q =
      (16 * q.toUInt32, (16 * q.toUInt32 + 2 * (3 + q.toUInt32) + 4095) &&& ~~~4095))
    (hmapped : ∀ base p, a.base = some base → a.physicalAddress = some p →
      Mapped phys base p (vringTotalMem (c.queues queue).size.toUInt32)) :
    vq.LaidOut ∧ Programmed phys vq (c'.queues queue) := by
  cases h with
  | «with» base p availPhys usedPhys notifyAddr notifyBarOff hbase hp =>
      have hm := hmapped base p hbase hp
      obtain ⟨hda, hdu, hau, hinside, haligned⟩ := virtQueuePlace_laidOut hm.fits
      refine ⟨⟨hda, hdu, hau, hinside, haligned⟩, programmed hm rfl rfl rfl rfl ?_⟩
      dsimp only
      rw [Function.update_self, hoffsets]
      exact ⟨rfl, rfl, rfl, rfl, rfl, rfl, rfl⟩

/-- The registers of the other queues stay as they are. -/
theorem RingSet.others {r : Option RingPlace} {c' : CommonCfg} (h : RingSet queue offsets a c r c')
    {other : UInt16} (hother : other ≠ queue) : c'.queues other = c.queues other := by
  cases h with
  | without => rfl
  | «with» base p availPhys usedPhys notifyAddr notifyBarOff hbase hp =>
      exact Function.update_of_ne hother ..

end

theorem setupRings_eq (t : Transport) (ctrl cursor : RingAnswer) (c : CommonCfg) :
    setupRings t ctrl cursor c =
      let first := setupRing 0 ctrlOffsets t ctrl c
      let second := setupRing 1 cursorOffsets t cursor first.2
      if first.1.isNone then ((none, none), first.2) else ((first.1, second.1), second.2) := by
  have hrest : setupRings t ctrl cursor c =
      (if (setupRing 0 ctrlOffsets t ctrl c).1.isNone then pure (none, none)
        else do
          let cq ← setupRing 1 cursorOffsets t cursor
          return ((setupRing 0 ctrlOffsets t ctrl c).1, cq) :
            Registers (Option RingPlace × Option RingPlace)) (setupRing 0 ctrlOffsets t ctrl c).2 :=
    rfl
  rw [hrest]
  by_cases hnone : (setupRing 0 ctrlOffsets t ctrl c).1.isNone
  · simp only [if_pos hnone]
    rfl
  · simp only [if_neg hnone]
    rfl

/-- For every size of the two queues and every block that exec.library hands out: the descriptor
table and the two rings are disjoint parts of the block, and the device has the addresses of what
the pointers of the driver point to. -/
theorem rings_agree {phys : ℕ → ℕ} {t : Transport} {ctrl cursor : RingAnswer} {c : CommonCfg}
    (hctrl : ∀ base p, ctrl.base = some base → ctrl.physicalAddress = some p →
      Mapped phys base p (vringTotalMem (c.queues 0).size.toUInt32))
    (hcursor : ∀ base p, cursor.base = some base → cursor.physicalAddress = some p →
      Mapped phys base p (vringTotalMem (c.queues 1).size.toUInt32)) :
    let r := setupRings t ctrl cursor c
    (∀ vq, r.1.1 = some vq → vq.LaidOut ∧ Programmed phys vq (r.2.queues 0)) ∧
      ∀ cq, r.1.2 = some cq → cq.LaidOut ∧ Programmed phys cq (r.2.queues 1) := by
  intro r
  have hr : r = _ := setupRings_eq t ctrl cursor c
  have hfirst := setupRing_cases 0 ctrlOffsets t ctrl c
  have hsecond := setupRing_cases 1 cursorOffsets t cursor (setupRing 0 ctrlOffsets t ctrl c).2
  dsimp only at hr
  rw [hr]
  split
  · exact ⟨fun vq hvq => (Option.some_ne_none vq hvq.symm).elim,
      fun cq hcq => (Option.some_ne_none cq hcq.symm).elim⟩
  · constructor
    · intro vq hvq
      dsimp only at hvq
      rw [hvq] at hfirst
      have hagrees := hfirst.agrees (fun q => rfl) hctrl
      -- the cursor queue has been set up since
      dsimp only
      rwa [hsecond.others (by decide)]
    · intro cq hcq
      dsimp only at hcq
      rw [hcq] at hsecond
      refine hsecond.agrees (fun q => rfl) ?_
      rw [hfirst.others (by decide)]
      exact hcursor

/-- A control queue of 64 and a cursor queue of 16 elements. -/
theorem rings_agree_64 :
    let regs : UInt16 → QueueRegs := fun queue =>
      ⟨if queue = 0 then 64 else 16, queue, 0, 0, 0, 0, 0, 0, 0⟩
    let r := setupRings (.start sampleBars) ⟨some 0x10000, some 0x210000⟩
      ⟨some 0x20000, some 0x220000⟩ ⟨0, regs⟩
    ∃ vq cq, r.1 = (some vq, some cq) ∧
      (vq.LaidOut ∧ Programmed (· + 0x200000) vq (r.2.queues 0)) ∧
        cq.LaidOut ∧ Programmed (· + 0x200000) cq (r.2.queues 1) := by
  intro regs r
  have hctrl : vringTotalMem (regs 0).size.toUInt32 = 4614 := by decide
  have hcursor : vringTotalMem (regs 1).size.toUInt32 = 4230 := by decide
  have hagree := @rings_agree (· + 0x200000) (.start sampleBars) ⟨some 0x10000, some 0x210000⟩
    ⟨some 0x20000, some 0x220000⟩ ⟨0, regs⟩ (by
      rintro base p ⟨⟩ ⟨⟩
      rw [hctrl]
      refine ⟨by decide, fun off hoff => ?_, by decide, fun off hoff => ?_⟩
      · change 0x10000 + off + 0x200000 < 2 ^ 32
        change off < 4614 at hoff
        omega
      · change 0x10000 + off + 0x200000 = 0x10000 + 0x200000 + off
        omega) (by
      rintro base p ⟨⟩ ⟨⟩
      rw [hcursor]
      refine ⟨by decide, fun off hoff => ?_, by decide, fun off hoff => ?_⟩
      · change 0x20000 + off + 0x200000 < 2 ^ 32
        change off < 4230 at hoff
        omega
      · change 0x20000 + off + 0x200000 = 0x20000 + 0x200000 + off
        omega)
  exact ⟨_, _, rfl, hagree.1 _ rfl, hagree.2 _ rfl⟩

end VirtIOGPU.Card
