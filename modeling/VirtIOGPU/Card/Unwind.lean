import Mathlib.Data.Multiset.OrderedMonoid
import Mathlib.Tactic.Abel
import VirtIOGPU.Card.Init

/-!
# What `chip_InitCard_C` gives back when it fails

The ledger of the system calls is followed through the function.  What a pointer of
`ChipGPUState` stands for is a multiset (`own`, `dmaBuffer`, `vring`), empty for `NULL`, so
that optional parts need no case distinction.  Each label gives back what the fields say
(`releaseGs`, `releaseCmd`, …), and each part of the function is shown to hold, where it
jumps to a label, what that label gives back.

Two parts leave something: no label removes the interrupt server, and `fail_vqs` does not
free `cmd3d_buf`.  Everything else is released once on every path.

## Strategy

Each label adds what it releases to what the next label releases, so the specifications chain:

```text
label               gives back, before it falls through
fail_fb_dma_list    back buffer, vsync_mutex, fb_dma_list
fail_fb_dma         the mapping of the frame buffer
fail_fb_mem         fb_mem and cmd3d_buf
fail_vqs            both queues
fail_resp           the cursor's and the response buffer
fail_cmd            cmd_buf
fail_gs             the four locks and the state itself
fail_pci            the lock on the device
```

`Unwinds` says that after a failure the ledger holds what was there before and a `leak`, which is
empty exactly in a `Clean` environment.  A part passes on the leak of the next one and adds its
own: the interrupt server in `initState`, `cmd3d_buf` where the frame buffer is refused.
-/

namespace VirtIOGPU.Card

open Lib Lib.Hoare

/-! ## What a pointer stands for -/

/-- The thing with number `n`, nothing for `NULL`. -/
def own (n : ℕ) (resource : ℕ → Resource) : Multiset Resource :=
  if n = 0 then 0 else {resource n}

def mapped (mem : ℕ) (size count : UInt32) : Multiset Resource :=
  if count = 0 then 0 else {.dma mem size}

/-- A buffer of `chip_dma_alloc`. -/
def dmaBuffer (mem : ℕ) (size : UInt32) : Multiset Resource :=
  if mem = 0 then 0 else {.dma mem size} + {.block mem}

def vring : Option Vring → Multiset Resource
  | none => 0
  | some vq =>
      mapped vq.memBlock vq.memSize vq.dmaEntries + own vq.indirectTables .block +
        own vq.cookies .block + own vq.memBlock .block + {.block vq.self}

@[simp] theorem own_zero (resource : ℕ → Resource) : own 0 resource = 0 := rfl

theorem own_of_ne {n : ℕ} {resource : ℕ → Resource} (h : n ≠ 0) : own n resource = {resource n} :=
  if_neg h

@[simp] theorem mapped_zero (mem : ℕ) (size : UInt32) : mapped mem size 0 = 0 := rfl

theorem mapped_of_ne {mem : ℕ} {size count : UInt32} (h : count ≠ 0) :
    mapped mem size count = {.dma mem size} :=
  if_neg h

@[simp] theorem dmaBuffer_zero (size : UInt32) : dmaBuffer 0 size = 0 := rfl

theorem dmaBuffer_of_ne {mem : ℕ} {size : UInt32} (h : mem ≠ 0) :
    dmaBuffer mem size = {.dma mem size} + {.block mem} :=
  if_neg h

@[simp] theorem vring_none : vring none = 0 := rfl

/-! ## The system calls -/

/-- The ledger of the card holds exactly `all`. -/
abbrev Held (all : Multiset Resource) (c : CardState) : Prop := c.sys.Holds all

variable {all rest : Multiset Resource}

theorem obtain_spec (resource : ℕ → Resource) (ok : Bool) :
    Triple (Held all) (obtain resource ok)
      fun n c => (n ≠ 0 ↔ ok = true) ∧ Held (own n resource + all) c := by
  unfold obtain
  apply Triple.ite
  · intro hok
    exact Triple.transition fun c hc => ⟨by simp [hok], hc.acquire⟩
  · intro hok
    exact Triple.ret fun c hc => ⟨by simp [hok], by simpa using hc⟩

theorem allocVec_spec (size : UInt32) (ok : Bool) :
    Triple (Held all) (allocVec size ok)
      fun n c => (n ≠ 0 ↔ ok = true) ∧ Held (own n .block + all) c := by
  unfold allocVec
  apply Triple.ite
  · intro hok
    exact Triple.transition fun c hc => ⟨by simp [hok], hc.acquire⟩
  · intro hok
    exact Triple.ret fun c hc => ⟨by simp [hok], by simpa using hc⟩

theorem giveBack_spec (resource : Resource) :
    Triple (Held ({resource} + all)) (giveBack resource) fun _ => Held all :=
  fun _ hc => hc.release

theorem giveBackIf_spec {n : ℕ} {resource : ℕ → Resource} :
    Triple (Held (own n resource + all)) (onlyIf (n ≠ 0) (giveBack (resource n)))
      fun _ => Held all := by
  apply Triple.onlyIf
  · intro hn
    rw [own_of_ne hn]
    exact giveBack_spec _
  · intro hn c hc
    obtain rfl : n = 0 := by simpa using hn
    simpa using hc

theorem startDma_spec (mem : ℕ) (size count : UInt32) :
    Triple (Held all) (startDma mem size count)
      fun n c => n = count ∧ Held (mapped mem size count + all) c := by
  unfold startDma
  refine Triple.bind (R := fun _ => Held (mapped mem size count + all)) ?_ fun _ =>
    Triple.ret fun c hc => ⟨rfl, hc⟩
  apply Triple.onlyIf
  · intro hcount
    rw [mapped_of_ne hcount]
    exact Triple.update fun c hc => hc.acquire
  · intro hcount c hc
    obtain rfl : count = 0 := by simpa using hcount
    simpa using hc

/-! ## Buffers, BARs and queues -/

theorem chipDmaFree_spec (mem : ℕ) (size : UInt32) :
    Triple (Held (dmaBuffer mem size + all)) (chipDmaFree mem size) fun _ => Held all := by
  apply Triple.onlyIf
  · intro hmem
    rw [dmaBuffer_of_ne hmem, add_assoc]
    exact Triple.bind (giveBack_spec _) fun _ => giveBack_spec _
  · intro hmem c hc
    obtain rfl : mem = 0 := by simpa using hmem
    simpa using hc

theorem chipDmaAlloc_spec (size : UInt32) (a : DmaAnswer) :
    Triple (Held all) (chipDmaAlloc size a)
      fun mem c => (mem ≠ 0 ↔ a.ok = true) ∧ Held (dmaBuffer mem size + all) c := by
  have hno : ∀ c, a.ok = false → Held all c →
      ((0 : ℕ) ≠ 0 ↔ a.ok = true) ∧ Held (dmaBuffer 0 size + all) c :=
    fun c ha hc => ⟨by simp [ha], by simpa using hc⟩
  unfold chipDmaAlloc
  refine Triple.bind (allocVec_spec size a.mem) fun mem => Triple.fact fun hmem => ?_
  refine Triple.ite (fun h0 => Triple.ret fun c hc => ?_) fun h0 => ?_
  · subst h0
    exact hno c (by simp [DmaAnswer.ok, show a.mem = false by simpa using hmem]) (by simpa using hc)
  rw [own_of_ne h0]
  refine Triple.bind (startDma_spec mem size a.count) fun n => Triple.fact fun hn => ?_
  subst hn
  refine Triple.ite (fun hcount => ?_) fun hcount => ?_
  · rw [hcount, mapped_zero, zero_add]
    exact Triple.bind (giveBack_spec _) fun _ => Triple.ret fun c hc =>
      hno c (by simp [DmaAnswer.ok, hcount]) hc
  rw [mapped_of_ne hcount]
  refine Triple.bind (obtain_spec .dmaList a.list) fun dmaList => Triple.fact fun hlist => ?_
  refine Triple.ite (fun hl => ?_) fun hl => ?_
  · subst hl
    rw [own_zero, zero_add]
    exact Triple.bind (giveBack_spec _) fun _ => Triple.bind (giveBack_spec _) fun _ =>
      Triple.ret fun c hc =>
        hno c (by simp [DmaAnswer.ok, show a.list = false by simpa using hlist]) hc
  · rw [own_of_ne hl]
    refine Triple.bind (giveBack_spec _) fun _ => Triple.ret fun c hc => ⟨?_, ?_⟩
    · simp [DmaAnswer.ok, hmem.mp h0, hcount, hlist.mp hl, h0]
    · rwa [dmaBuffer_of_ne h0, add_assoc]

theorem chipImmuUpdate_spec (ok : Bool) :
    Triple (Held all) (chipImmuUpdate ok) fun _ => Held all :=
  Triple.bind (obtain_spec .interface ok) fun _ => Triple.fact fun _ => giveBackIf_spec

theorem chipScanBar_spec (a : BarAnswer) :
    Triple (Held all) (chipScanBar a) fun _ => Held all := by
  unfold chipScanBar
  refine Triple.bind (obtain_spec .resourceRange a.present) fun range => Triple.fact fun _ => ?_
  refine Triple.ite (fun hrange => ?_) fun hrange => Triple.ret fun c hc => ?_
  · rw [own_of_ne hrange]
    refine Triple.bind ?_ fun _ => giveBack_spec _
    exact Triple.onlyIf (fun _ => chipImmuUpdate_spec a.immu) fun _ c hc => hc
  · obtain rfl : range = 0 := by simpa using hrange
    simpa using hc

theorem chipScanBars_spec (answers : ℕ → BarAnswer) :
    Triple (Held all) (chipScanBars answers) fun _ => Held all :=
  Triple.forM fun i _ => chipScanBar_spec (answers i)

theorem endDmaIf_spec {mem : ℕ} {size count : UInt32} :
    Triple (Held (mapped mem size count + all)) (onlyIf (0 < count) (endDma mem size))
      fun _ => Held all := by
  apply Triple.onlyIf
  · intro hcount
    have hne : count ≠ 0 := fun h0 => by simp [h0] at hcount
    rw [mapped_of_ne hne]
    exact giveBack_spec _
  · intro hcount c hc
    obtain rfl : count = 0 := by simpa using hcount
    simpa using hc

theorem virtQueueFree_spec (q : Option Vring) :
    Triple (Held (vring q + all)) (virtQueueFree q) fun _ => Held all := by
  cases q with
  | none => exact Triple.ret fun c hc => by simpa using hc
  | some vq =>
      simp only [vring, add_assoc]
      unfold virtQueueFree
      exact Triple.bind endDmaIf_spec fun _ => Triple.bind giveBackIf_spec fun _ =>
        Triple.bind giveBackIf_spec fun _ => Triple.bind giveBackIf_spec fun _ => giveBack_spec _

theorem held_of_eq {all' : Multiset Resource} (h : all = all') (c : CardState) (hc : Held all c) :
    Held all' c :=
  h ▸ hc

theorem virtQueueAllocate_spec (queueSize : UInt32) (a : VringAnswer) :
    Triple (Held all) (virtQueueAllocate queueSize a)
      fun q c => (q.isSome = a.allocated ∧ ∀ vq ∈ q, vq.dmaEntries = 0) ∧
        Held (vring q + all) c := by
  have hno : ∀ c, a.allocated = false → Held all c →
      ((none : Option Vring).isSome = a.allocated ∧
        ∀ vq ∈ (none : Option Vring), vq.dmaEntries = 0) ∧ Held (vring none + all) c :=
    fun c ha hc => ⟨⟨by simp [ha], by simp⟩, by simpa using hc⟩
  unfold virtQueueAllocate
  refine Triple.bind (allocVec_spec _ a.ring) fun raw => Triple.fact fun hraw => ?_
  refine Triple.ite (fun h0 => ?_) fun h0 => ?_
  · subst h0
    have ha : a.ring = false := by simpa using hraw
    exact Triple.ret fun c hc => hno c (by simp [VringAnswer.allocated, ha]) (by simpa using hc)
  rw [own_of_ne h0]
  refine Triple.bind (allocVec_spec _ a.vq) fun vq => Triple.fact fun hvq => ?_
  refine Triple.ite (fun h1 => ?_) fun h1 => ?_
  · subst h1
    have ha : a.vq = false := by simpa using hvq
    rw [own_zero, zero_add]
    exact Triple.bind (giveBack_spec _) fun _ => Triple.ret fun c hc =>
      hno c (by simp [VringAnswer.allocated, ha]) hc
  rw [own_of_ne h1]
  refine Triple.bind (allocVec_spec _ a.cookies) fun cookies => Triple.fact fun hcookies => ?_
  refine Triple.ite (fun h2 => ?_) fun h2 => ?_
  · subst h2
    have ha : a.cookies = false := by simpa using hcookies
    rw [own_zero, zero_add, add_left_comm]
    exact Triple.bind (giveBack_spec _) fun _ => Triple.bind (giveBack_spec _) fun _ =>
      Triple.ret fun c hc => hno c (by simp [VringAnswer.allocated, ha]) hc
  rw [own_of_ne h2]
  refine Triple.bind (allocVec_spec _ a.indirectTables) fun tables => Triple.fact fun htables => ?_
  refine Triple.ite (fun h3 => ?_) fun h3 => ?_
  · subst h3
    have ha : a.indirectTables = false := by simpa using htables
    rw [own_zero, zero_add]
    refine Triple.bind (giveBack_spec _) fun _ => ?_
    rw [add_left_comm]
    exact Triple.bind (giveBack_spec _) fun _ => Triple.bind (giveBack_spec _) fun _ =>
      Triple.ret fun c hc => hno c (by simp [VringAnswer.allocated, ha]) hc
  · refine Triple.ret fun c hc => ⟨⟨?_, ?_⟩, held_of_eq ?_ c hc⟩
    · simp [VringAnswer.allocated, hraw.mp h0, hvq.mp h1, hcookies.mp h2, htables.mp h3]
    · simp
    · simp only [vring, mapped_zero, own_of_ne h0, own_of_ne h2]
      abel

theorem setupQueue_spec (queueSize : UInt32) (a : VringAnswer) :
    Triple (Held all) (setupQueue queueSize a)
      fun q c => q.isSome = a.ok ∧ Held (vring q + all) c := by
  have hno : ∀ c, a.ok = false → Held all c →
      (none : Option Vring).isSome = a.ok ∧ Held (vring none + all) c :=
    fun c ha hc => ⟨by simp [ha], by simpa using hc⟩
  unfold setupQueue
  refine Triple.bind (virtQueueAllocate_spec queueSize a) fun q => Triple.fact fun hq => ?_
  obtain ⟨hallocated, hentries⟩ := hq
  cases q with
  | none =>
      have ha : a.allocated = false := by simpa using hallocated.symm
      exact Triple.ret fun c hc => hno c (by simp [VringAnswer.ok, ha]) (by simpa using hc)
  | some vq =>
      have h0 : vq.dmaEntries = 0 := hentries vq rfl
      refine Triple.bind (startDma_spec vq.memBlock vq.memSize a.count) fun n =>
        Triple.fact fun hn => ?_
      subst hn
      refine Triple.ite (fun hcount => ?_) fun hcount => ?_
      · rw [hcount, mapped_zero, zero_add]
        exact Triple.bind (virtQueueFree_spec _) fun _ => Triple.ret fun c hc =>
          hno c (by simp [VringAnswer.ok, hcount]) hc
      rw [mapped_of_ne hcount]
      refine Triple.bind (obtain_spec .dmaList a.list) fun list => Triple.fact fun hlist => ?_
      refine Triple.ite (fun hl => ?_) fun hl => ?_
      · subst hl
        have ha : a.list = false := by simpa using hlist
        rw [own_zero, zero_add]
        exact Triple.bind (giveBack_spec _) fun _ => Triple.bind (virtQueueFree_spec _) fun _ =>
          Triple.ret fun c hc => hno c (by simp [VringAnswer.ok, ha]) hc
      · rw [own_of_ne hl]
        refine Triple.bind (giveBack_spec _) fun _ => Triple.ret fun c hc => ⟨?_, ?_⟩
        · simp [VringAnswer.ok, ← hallocated, hcount, hlist.mp hl]
        · refine held_of_eq ?_ c hc
          simp only [vring, h0, mapped_zero, mapped_of_ne hcount]
          abel

/-! ## The transport -/

/-- The device's features after `chip_virtio_init`. -/
def TransportAnswer.virgl (a : TransportAnswer) : Bool :=
  a.features &&& deviceFeaturesMask &&& featureVirgl != 0

def TransportAnswer.blob (a : TransportAnswer) : Bool :=
  a.features &&& deviceFeaturesMask &&& featureBlob != 0

theorem chipVirtioInit_spec {gs : GpuState} (a : TransportAnswer) (hctrlq : gs.ctrlq = none)
    (hcursorq : gs.cursorq = none) :
    Triple (Held all) (chipVirtioInit gs a) fun r c =>
      (r.1 = a.ok ∧ ∃ q cq,
        r.2 = ((gs.withFeatures a.virgl a.blob).withCtrlq q).withCursorq cq ∧
        (a.ok = false → q = none ∧ cq = none)) ∧
      Held (vring r.2.ctrlq + vring r.2.cursorq + all) c := by
  have hno : ∀ c, a.ok = false → Held all c →
      (false = a.ok ∧ ∃ q cq, gs.withFeatures a.virgl a.blob =
        ((gs.withFeatures a.virgl a.blob).withCtrlq q).withCursorq cq ∧
        (a.ok = false → q = none ∧ cq = none)) ∧
      Held (vring gs.ctrlq + vring gs.cursorq + all) c := by
    intro c ha hc
    refine ⟨⟨ha.symm, gs.ctrlq, gs.cursorq, rfl, fun _ => ⟨hctrlq, hcursorq⟩⟩, ?_⟩
    simpa [hctrlq, hcursorq] using hc
  unfold chipVirtioInit
  refine Triple.bind (R := fun _ => Held all) (Triple.update fun c hc => hc) fun _ => ?_
  refine Triple.ite (fun hfeatures => ?_) fun hfeatures => ?_
  · have ha : a.featuresOk = false := by simpa using hfeatures
    exact Triple.ret fun c hc => hno c (by simp [TransportAnswer.ok, ha]) hc
  refine Triple.ite (fun hmax => ?_) fun hmax => ?_
  · exact Triple.ret fun c hc => hno c (by simp [TransportAnswer.ok, hmax]) hc
  refine Triple.bind (setupQueue_spec _ a.ctrlq) fun q => Triple.fact fun hq => ?_
  cases q with
  | none =>
      have ha : a.ctrlq.ok = false := by simpa using hq.symm
      rw [vring_none, zero_add]
      exact Triple.ret fun c hc => hno c (by simp [TransportAnswer.ok, ha]) hc
  | some vq =>
      have hok : a.ok = true := by
        have hctrl : a.ctrlq.ok = true := by simpa using hq.symm
        simp [TransportAnswer.ok, hctrl, hmax, show a.featuresOk = true by simpa using hfeatures]
      have hquiet : ∀ q cq : Option Vring, a.ok = false → q = none ∧ cq = none :=
        fun _ _ hfalse => by simp [hok] at hfalse
      refine Triple.ite (fun hcursor => ?_) fun hcursor => ?_
      · refine Triple.ret fun c hc =>
          ⟨⟨hok.symm, some vq, gs.cursorq, rfl, hquiet _ _⟩, held_of_eq ?_ c hc⟩
        change _ = vring (some vq) + vring gs.cursorq + all
        rw [hcursorq, vring_none, add_zero]
      · refine Triple.bind (setupQueue_spec _ a.cursorq) fun cq => Triple.fact fun _ => ?_
        refine Triple.ret fun c hc =>
          ⟨⟨hok.symm, some vq, cq, rfl, hquiet _ _⟩, held_of_eq ?_ c hc⟩
        change _ = vring (some vq) + vring cq + all
        abel

/-- The interrupt server that `chip_irq_install` adds. -/
def IrqAnswer.server (a : IrqAnswer) (data : ℕ) : Multiset Resource :=
  if a.ok then {.intServer data} else 0

theorem IrqAnswer.server_eq_zero (a : IrqAnswer) (data : ℕ) :
    a.server data = 0 ↔ ¬ a.ok = true := by
  unfold IrqAnswer.server
  split <;> simp_all

theorem chipIrqInstall_spec (gs : GpuState) (a : IrqAnswer) :
    Triple (Held all) (chipIrqInstall gs a) fun gs' c =>
      (∃ installed, gs' = gs.withIrq installed) ∧ Held (a.server gs.self + all) c := by
  have hno : ∀ c, a.ok = false → Held all c → Held (a.server gs.self + all) c :=
    fun c ha hc => by simpa [IrqAnswer.server, ha] using hc
  unfold chipIrqInstall
  refine Triple.ite (fun hnumber => ?_) fun hnumber => ?_
  · exact Triple.ret fun c hc => ⟨⟨_, rfl⟩, hno c (by simp [IrqAnswer.ok, hnumber]) hc⟩
  refine Triple.ite (fun hadded => ?_) fun hadded => ?_
  · have ha : a.added = false := by simpa using hadded
    exact Triple.ret fun c hc => ⟨⟨_, rfl⟩, hno c (by simp [IrqAnswer.ok, ha]) hc⟩
  · have hok : a.ok = true := by
      simp [IrqAnswer.ok, hnumber, show a.added = true by simpa using hadded]
    refine Triple.bind (R := fun _ => Held ({.intServer gs.self} + all))
      (Triple.update fun c hc => hc.acquire) fun _ => Triple.ret fun c hc => ⟨⟨_, rfl⟩, ?_⟩
    rwa [IrqAnswer.server, if_pos hok]

theorem with3D_self {gs : GpuState} (hbuf : gs.cmd3dBuf = 0) (hlock : gs.cmd3dLock = 0) :
    gs = gs.with3D 0 0 gs.hasVirgl gs.nextResourceId gs.nextCtxId := by
  cases gs
  dsimp only at hbuf hlock
  subst hbuf hlock
  rfl

theorem setup3D_spec {gs : GpuState} (a : Cmd3dAnswer) (hbuf : gs.cmd3dBuf = 0)
    (hlock : gs.cmd3dLock = 0) :
    Triple (Held all) (setup3D gs a) fun gs' c =>
      (∃ buf lock virgl next ctx, gs' = gs.with3D buf lock virgl next ctx ∧
        (buf ≠ 0 ↔ gs.hasVirgl = true ∧ gs.deviceCfgBase ≠ 0 ∧ a.ok = true)) ∧
      Held (dmaBuffer gs'.cmd3dBuf cmd3dSize + own gs'.cmd3dLock .mutex + all) c := by
  unfold setup3D
  refine Triple.ite (fun hvirgl => ?_) fun hvirgl => ?_
  · refine Triple.bind (chipDmaAlloc_spec cmd3dSize a.buf) fun buf => Triple.fact fun hb => ?_
    refine Triple.ite (fun h0 => ?_) fun h0 => ?_
    · subst h0
      have ha : a.buf.ok = false := by simpa using hb
      refine Triple.ret fun c hc => ⟨⟨0, 0, _, _, _, rfl, by simp [Cmd3dAnswer.ok, ha]⟩, ?_⟩
      rw [dmaBuffer_zero, zero_add] at hc
      change Held (dmaBuffer 0 cmd3dSize + own 0 .mutex + all) c
      simpa using hc
    refine Triple.bind (obtain_spec .mutex a.lock) fun lock => Triple.fact fun hl => ?_
    refine Triple.ite (fun h1 => ?_) fun h1 => ?_
    · subst h1
      have ha : a.lock = false := by simpa using hl
      rw [own_zero, zero_add]
      refine Triple.bind (chipDmaFree_spec buf cmd3dSize) fun _ => Triple.ret fun c hc =>
        ⟨⟨0, 0, _, _, _, rfl, by simp [Cmd3dAnswer.ok, ha]⟩, ?_⟩
      change Held (dmaBuffer 0 cmd3dSize + own 0 .mutex + all) c
      simpa using hc
    · refine Triple.ret fun c hc => ⟨⟨buf, lock, _, _, _, rfl, ?_⟩, held_of_eq ?_ c hc⟩
      · simp [Cmd3dAnswer.ok, hb.mp h0, hl.mp h1, h0, hvirgl]
      · change _ = dmaBuffer buf cmd3dSize + own lock .mutex + all
        abel
  · refine Triple.ret fun c hc => ⟨⟨0, 0, gs.hasVirgl, gs.nextResourceId, gs.nextCtxId, ?_, ?_⟩, ?_⟩
    · exact with3D_self hbuf hlock
    · simp only [ne_eq, not_true_eq_false, false_iff]
      exact fun h => hvirgl ⟨h.1, h.2.1⟩
    · rw [hbuf, hlock]
      simpa using hc

/-! ## What the labels give back -/

def releaseExp (l : Opened) : Multiset Resource := {.library l.expBase}

def releaseIpci (l : Opened) : Multiset Resource := {.interface l.ipci} + releaseExp l

def releasePci (l : Opened) : Multiset Resource :=
  (if l.pciLocked then {.pciLock} else 0) + releaseIpci l

def releaseGs (l : Opened) (gs : GpuState) : Multiset Resource :=
  own gs.cmd3dLock .mutex + own gs.cursorLock .mutex + own gs.allocMutex .mutex +
    own gs.ioLock .mutex + {.block gs.self} + releasePci l

def releaseCmd (l : Opened) (gs : GpuState) : Multiset Resource :=
  dmaBuffer gs.cmdBuf 4096 + releaseGs l gs

def releaseResp (l : Opened) (gs : GpuState) : Multiset Resource :=
  dmaBuffer gs.cursorCmdBuf 4096 + dmaBuffer gs.respBuf 4096 + releaseCmd l gs

def releaseVqs (l : Opened) (gs : GpuState) : Multiset Resource :=
  vring gs.ctrlq + vring gs.cursorq + releaseResp l gs

def releaseFbMem (l : Opened) (gs : GpuState) : Multiset Resource :=
  {.block gs.fbMem} + dmaBuffer gs.cmd3dBuf cmd3dSize + releaseVqs l gs

def releaseFbDma (l : Opened) (gs : GpuState) : Multiset Resource :=
  {.dma gs.fbMem gs.fbSize} + releaseFbMem l gs

def backBuffer (gs : GpuState) : Multiset Resource :=
  own gs.fbDmaList2 .dmaList + dmaBuffer gs.fbMem2 gs.fbSize

def releaseFbDmaList (l : Opened) (gs : GpuState) : Multiset Resource :=
  backBuffer gs + own gs.vsyncMutex .mutex + {.dmaList gs.fbDmaList} + releaseFbDma l gs

theorem failExp_spec (l : Opened) (rest : Multiset Resource) :
    Triple (Held (releaseExp l + rest)) (failExp l) fun _ => Held rest :=
  Triple.bind (giveBack_spec _) fun _ => Triple.ret fun _ hc => hc

theorem failIpci_spec (l : Opened) (rest : Multiset Resource) :
    Triple (Held (releaseIpci l + rest)) (failIpci l) fun _ => Held rest := by
  rw [releaseIpci, add_assoc]
  exact Triple.bind (giveBack_spec _) fun _ => failExp_spec l rest

theorem failPci_spec (l : Opened) (rest : Multiset Resource) :
    Triple (Held (releasePci l + rest)) (failPci l) fun _ => Held rest := by
  rw [releasePci, add_assoc]
  refine Triple.bind (Triple.onlyIf (fun hlocked => ?_) fun hlocked c hc => ?_) fun _ =>
    failIpci_spec l rest
  · rw [if_pos hlocked]
    exact giveBack_spec _
  · simpa [hlocked] using hc

theorem failGs_spec (l : Opened) (gs : GpuState) (rest : Multiset Resource) :
    Triple (Held (releaseGs l gs + rest)) (failGs l gs) fun _ => Held rest := by
  simp only [releaseGs, add_assoc]
  exact Triple.bind giveBackIf_spec fun _ => Triple.bind giveBackIf_spec fun _ =>
    Triple.bind giveBackIf_spec fun _ => Triple.bind giveBackIf_spec fun _ =>
    Triple.bind (giveBack_spec _) fun _ => failPci_spec l rest

theorem failCmd_spec (l : Opened) (gs : GpuState) (rest : Multiset Resource) :
    Triple (Held (releaseCmd l gs + rest)) (failCmd l gs) fun _ => Held rest := by
  rw [releaseCmd, add_assoc]
  exact Triple.bind (chipDmaFree_spec _ _) fun _ => failGs_spec l gs rest

theorem failResp_spec (l : Opened) (gs : GpuState) (rest : Multiset Resource) :
    Triple (Held (releaseResp l gs + rest)) (failResp l gs) fun _ => Held rest := by
  simp only [releaseResp, add_assoc]
  exact Triple.bind (chipDmaFree_spec _ _) fun _ => Triple.bind (chipDmaFree_spec _ _) fun _ =>
    failCmd_spec l gs rest

theorem failVqs_spec (l : Opened) (gs : GpuState) (rest : Multiset Resource) :
    Triple (Held (releaseVqs l gs + rest)) (failVqs l gs) fun _ => Held rest := by
  simp only [releaseVqs, add_assoc]
  exact Triple.bind (virtQueueFree_spec _) fun _ => Triple.bind (virtQueueFree_spec _) fun _ =>
    failResp_spec l gs rest

theorem failFbMem_spec (l : Opened) (gs : GpuState) (rest : Multiset Resource) :
    Triple (Held (releaseFbMem l gs + rest)) (failFbMem l gs) fun _ => Held rest := by
  simp only [releaseFbMem, add_assoc]
  exact Triple.bind (giveBack_spec _) fun _ => Triple.bind (chipDmaFree_spec _ _) fun _ =>
    failVqs_spec l gs rest

theorem failFbDma_spec (l : Opened) (gs : GpuState) (rest : Multiset Resource) :
    Triple (Held (releaseFbDma l gs + rest)) (failFbDma l gs) fun _ => Held rest := by
  rw [releaseFbDma, add_assoc]
  exact Triple.bind (giveBack_spec _) fun _ => failFbMem_spec l gs rest

theorem failFbDmaList_spec (l : Opened) (gs : GpuState) (rest : Multiset Resource) :
    Triple (Held (releaseFbDmaList l gs + rest)) (failFbDmaList l gs) fun _ => Held rest := by
  simp only [releaseFbDmaList, backBuffer, add_assoc]
  exact Triple.bind giveBackIf_spec fun _ => Triple.bind (chipDmaFree_spec _ _) fun _ =>
    Triple.bind giveBackIf_spec fun _ => Triple.bind (giveBack_spec _) fun _ =>
    failFbDma_spec l gs rest

/-! ## Commands leave the ledger alone -/

theorem gpuCommand_held (effect : Host → Host) (answer : GpuAnswer) :
    Triple (Held all) (gpuCommand effect answer) fun _ => Held all :=
  Triple.transition fun c hc => by cases answer <;> exact hc

theorem createCommand_held (id : UInt32) (resource : GpuResource) (answer : GpuAnswer) :
    Triple (Held all) (createCommand id resource answer) fun _ => Held all :=
  Triple.bind (Triple.update fun _ hc => hc) fun _ => gpuCommand_held _ _

theorem setScanoutAttempts_held (s : Scanout) (answers : ℕ → GpuAnswer) (n : ℕ) :
    Triple (Held all) (setScanoutAttempts s answers n) fun _ => Held all := by
  induction n with
  | zero => exact Triple.ret fun c hc => hc
  | succ n ih =>
      refine Triple.bind (gpuCommand_held _ _) fun ok => ?_
      exact Triple.ite (fun _ => Triple.ret fun c hc => hc) fun _ => ih

theorem chipTransferToHost2D_held (gs : GpuState) (resourceId : UInt32) (answer : GpuAnswer) :
    Triple (Held all) (chipTransferToHost2D gs resourceId answer) fun _ => Held all :=
  Triple.ite (fun _ => Triple.transition fun _ hc => hc) fun _ => gpuCommand_held _ _

/-! ## The parts of the function -/

theorem initBoard_true (env : InitEnv) (gs : GpuState) (P : CardState → Prop) :
    Triple P (initBoard env gs) fun ok _ => ok = true := by
  intro c _
  rfl

theorem initFbResource_held (env : InitEnv) (gs : GpuState) :
    Triple (Held all) (initFbResource env gs) fun r c =>
      (∀ l, releaseFbDmaList l r.2 = releaseFbDmaList l gs) ∧ Held all c := by
  unfold initFbResource
  refine Triple.bind (R := fun _ => Held all) ?_ fun blob => ?_
  · exact Triple.ite (fun _ => createCommand_held _ _ _) fun _ => Triple.ret fun c hc => hc
  refine Triple.ite (fun _ => Triple.ret fun c hc => ⟨fun l => rfl, hc⟩) fun _ => ?_
  refine Triple.bind (createCommand_held _ _ _) fun created => ?_
  refine Triple.ite (fun _ => Triple.ret fun c hc => ⟨fun l => rfl, hc⟩) fun _ => ?_
  exact Triple.bind (gpuCommand_held _ _) fun _ => Triple.ret fun c hc => ⟨fun l => rfl, hc⟩

theorem initBackResource_held (env : InitEnv) (gs : GpuState) :
    Triple (Held all) (initBackResource env gs) fun gs' c =>
      (∀ l, releaseFbDmaList l gs' = releaseFbDmaList l gs) ∧ Held all c := by
  unfold initBackResource
  refine Triple.ite (fun _ => Triple.ret fun c hc => ⟨fun l => rfl, hc⟩) fun _ => ?_
  refine Triple.bind (createCommand_held _ _ _) fun created => ?_
  refine Triple.ite (fun _ => Triple.ret fun c hc => ⟨fun l => rfl, hc⟩) fun _ => ?_
  refine Triple.bind (gpuCommand_held _ _) fun attached => ?_
  exact Triple.ite (fun _ => Triple.ret fun c hc => ⟨fun l => rfl, hc⟩) fun _ =>
    Triple.ret fun c hc => ⟨fun l => rfl, hc⟩

theorem initScanout_unwinds (env : InitEnv) (l : Opened) (gs : GpuState)
    (rest : Multiset Resource) :
    Triple (Held (releaseFbDmaList l gs + rest)) (initScanout env l gs)
      fun ok c => ok = false → Held rest c := by
  unfold initScanout
  refine Triple.bind (initFbResource_held env gs) fun r => Triple.fact fun hsame => ?_
  obtain ⟨ok, gs₁⟩ := r
  rw [← hsame l]
  refine Triple.ite (fun _ => ?_) fun _ => ?_
  · exact (failFbDmaList_spec l gs₁ rest).strengthen fun _ _ hc _ => hc
  refine Triple.bind (initBackResource_held env gs₁) fun gs₂ => Triple.fact fun hsame => ?_
  rw [← hsame l]
  refine Triple.bind (setScanoutAttempts_held _ _ _) fun shown => ?_
  refine Triple.ite (fun _ => ?_) fun _ => ?_
  · exact (failFbDmaList_spec l gs₂ rest).strengthen fun _ _ hc _ => hc
  refine Triple.bind (chipTransferToHost2D_held _ _ _) fun _ => ?_
  refine Triple.bind (gpuCommand_held _ _) fun _ => ?_
  exact (initBoard_true env gs₂ _).strengthen fun ok _ htrue hfalse => by simp [htrue] at hfalse

theorem initBackBuffer_spec (doubleBuffering : Bool) (env : InitEnv) {gs : GpuState}
    (hnone : gs = gs.withBackBuffer 0 0 0) :
    Triple (Held all) (initBackBuffer doubleBuffering env gs) fun gs' c =>
      (∃ mem count list, gs' = gs.withBackBuffer mem count list) ∧
        Held (backBuffer gs' + all) c := by
  have hno : ∀ count c, Held all c → Held (backBuffer (gs.withBackBuffer 0 count 0) + all) c := by
    intro count c hc
    have hempty : backBuffer (gs.withBackBuffer 0 count 0) = 0 := rfl
    rwa [hempty, zero_add]
  unfold initBackBuffer
  refine Triple.bind (R := fun mem => Held (own mem .block + all)) ?_ fun mem => ?_
  · refine Triple.ite (fun _ => ?_) fun _ => Triple.ret fun c hc => by simpa using hc
    exact (allocVec_spec _ _).strengthen fun _ _ h => h.2
  refine Triple.ite (fun h0 => ?_) fun h0 => ?_
  · subst h0
    rw [own_zero, zero_add]
    refine Triple.ret fun c hc => ⟨⟨_, _, _, hnone⟩, ?_⟩
    rw [hnone]
    exact hno 0 c hc
  rw [own_of_ne h0]
  refine Triple.bind (startDma_spec mem gs.fbSize env.fbCount2) fun n => Triple.fact fun hn => ?_
  subst hn
  refine Triple.ite (fun hcount => ?_) fun hcount => ?_
  · rw [hcount, mapped_zero, zero_add]
    refine Triple.bind (giveBack_spec _) fun _ => Triple.ret fun c hc => ⟨⟨_, _, _, hnone⟩, ?_⟩
    rw [hnone]
    exact hno 0 c hc
  rw [mapped_of_ne hcount]
  refine Triple.bind (obtain_spec .dmaList env.fbList2) fun list => Triple.fact fun _ => ?_
  refine Triple.ite (fun h1 => ?_) fun h1 => ?_
  · subst h1
    rw [own_zero, zero_add]
    exact Triple.bind (giveBack_spec _) fun _ => Triple.bind (giveBack_spec _) fun _ =>
      Triple.ret fun c hc => ⟨⟨_, _, _, rfl⟩, hno _ c hc⟩
  · refine Triple.bind (chipImmuUpdate_spec _) fun _ => Triple.ret fun c hc =>
      ⟨⟨_, _, _, rfl⟩, held_of_eq ?_ c hc⟩
    have hbuffer : backBuffer (gs.withBackBuffer mem env.fbCount2 list) =
        own list .dmaList + dmaBuffer mem gs.fbSize := rfl
    rw [hbuffer, dmaBuffer_of_ne h0]
    simp only [add_assoc]

theorem releaseVqs_sized (l : Opened) (gs : GpuState) (w h : UInt32) :
    releaseVqs l (gs.sized w h) = releaseVqs l gs := rfl

theorem releaseFbMem_withFbMem (l : Opened) (gs : GpuState) (w h : UInt32) (mem : ℕ) :
    releaseFbMem l ((gs.sized w h).withFbMem mem) =
      {.block mem} + dmaBuffer gs.cmd3dBuf cmd3dSize + releaseVqs l gs := rfl

theorem releaseFbDma_withFbDma (l : Opened) (gs : GpuState) (count : UInt32) (list : ℕ) :
    releaseFbDma l (gs.withFbDma count list) =
      {.dma gs.fbMem gs.fbSize} + releaseFbMem l gs := rfl

theorem releaseFbDmaList_withBackBuffer (l : Opened) (gs : GpuState) (count : UInt32) (list : ℕ)
    (mem₂ : ℕ) (count₂ : UInt32) (list₂ : ℕ) :
    releaseFbDmaList l ((gs.withFbDma count list).withBackBuffer mem₂ count₂ list₂) =
      backBuffer ((gs.withFbDma count list).withBackBuffer mem₂ count₂ list₂) +
        own gs.vsyncMutex .mutex + {.dmaList list} +
        releaseFbDma l (gs.withFbDma count list) := rfl

/-- What `fail_vqs` misses when the frame buffer cannot be allocated. -/
def cmd3dLeak (env : InitEnv) (gs : GpuState) : Multiset Resource :=
  if env.fbMem then 0 else dmaBuffer gs.cmd3dBuf cmd3dSize

theorem cmd3dLeak_eq_zero (env : InitEnv) (gs : GpuState) :
    cmd3dLeak env gs = 0 ↔ ¬ (gs.cmd3dBuf ≠ 0 ∧ env.fbMem = false) := by
  unfold cmd3dLeak dmaBuffer
  split
  · simp_all
  · split <;> simp_all

theorem releaseVqs_with3D (l : Opened) {gs : GpuState} (installed : Bool) (buf lock : ℕ)
    (virgl : Bool) (next ctx : UInt32) (hlock : gs.cmd3dLock = 0) :
    releaseVqs l ((gs.withIrq installed).with3D buf lock virgl next ctx) =
      own lock .mutex + releaseVqs l gs := by
  simp only [releaseVqs, releaseResp, releaseCmd, releaseGs, GpuState.withIrq, GpuState.with3D,
    hlock, own_zero]
  abel

theorem initFramebuffer_unwinds (doubleBuffering : Bool) (env : InitEnv) (l : Opened)
    {gs : GpuState} (hnone : gs = gs.withBackBuffer 0 0 0) (hvsync : gs.vsyncMutex = 0)
    (rest : Multiset Resource) :
    Triple (Held (dmaBuffer gs.cmd3dBuf cmd3dSize + releaseVqs l gs + rest))
      (initFramebuffer doubleBuffering env l gs)
      fun ok c => ok = false → Held (cmd3dLeak env gs + rest) c := by
  unfold initFramebuffer
  generalize (if env.mode.1 ≠ 0 then env.mode.1 else 1280) = w
  generalize (if env.mode.2 ≠ 0 then env.mode.2 else 800) = h
  refine Triple.bind (allocVec_spec _ env.fbMem) fun mem => Triple.fact fun hm => ?_
  refine Triple.ite (fun h0 => ?_) fun h0 => ?_
  · subst h0
    -- `failVqs` frees the queues and not the 3D buffer
    have hleak : cmd3dLeak env gs = dmaBuffer gs.cmd3dBuf cmd3dSize :=
      if_neg (by simpa using hm)
    refine ((failVqs_spec l _ (cmd3dLeak env gs + rest)).weaken (held_of_eq ?_)).strengthen
      fun _ _ hc _ => hc
    rw [own_zero, hleak, releaseVqs_sized]
    abel
  have hleak : cmd3dLeak env gs = 0 := if_pos (hm.mp h0)
  rw [own_of_ne h0, hleak, zero_add]
  refine Triple.bind (startDma_spec _ _ env.fbCount) fun n => Triple.fact fun hn => ?_
  subst hn
  refine Triple.ite (fun hcount => ?_) fun hcount => ?_
  · rw [hcount, mapped_zero]
    refine ((failFbMem_spec l _ rest).weaken (held_of_eq ?_)).strengthen fun _ _ hc _ => hc
    rw [releaseFbMem_withFbMem]
    abel
  rw [mapped_of_ne hcount]
  refine Triple.bind (obtain_spec .dmaList env.fbList) fun list => Triple.fact fun _ => ?_
  refine Triple.ite (fun h1 => ?_) fun h1 => ?_
  · subst h1
    refine ((failFbDma_spec l _ rest).weaken (held_of_eq ?_)).strengthen fun _ _ hc _ => hc
    rw [own_zero, releaseFbDma_withFbDma, releaseFbMem_withFbMem]
    abel
  rw [own_of_ne h1]
  refine Triple.bind (chipImmuUpdate_spec _) fun _ => ?_
  refine Triple.bind (initBackBuffer_spec doubleBuffering env ?_) fun gs₁ =>
    Triple.fact fun hgs₁ => ?_
  · rw [hnone]
    rfl
  obtain ⟨mem₁, count₁, list₁, rfl⟩ := hgs₁
  refine (initScanout_unwinds env l _ rest).weaken (held_of_eq ?_)
  have hvsync' : ((gs.sized w h).withFbMem mem).vsyncMutex = 0 := hvsync
  rw [releaseFbDmaList_withBackBuffer, hvsync', own_zero, releaseFbDma_withFbDma,
    releaseFbMem_withFbMem]
  abel

/-- The state before the transport is set up: only the locks and the state itself exist. -/
structure Early (gs : GpuState) : Prop where
  cmd3dLock : gs.cmd3dLock = 0
  cmd3dBuf : gs.cmd3dBuf = 0
  ctrlq : gs.ctrlq = none
  cursorq : gs.cursorq = none
  backBuffer : gs = gs.withBackBuffer 0 0 0
  vsyncMutex : gs.vsyncMutex = 0

/-- The control queue works: `chip_irq_install` is called. -/
def InitEnv.transportReady (env : InitEnv) : Bool :=
  env.cmdBuf.ok && env.respBuf.ok && env.transport.ok

/-- `cmd3d_buf` and `cmd3d_lock` are obtained. -/
def InitEnv.cmd3dReady (env : InitEnv) : Bool :=
  env.transport.virgl && env.caps.any (fun base => base != 0) && env.cmd3d.ok

/-- Where `chip_irq_install` is called, it installs nothing, and the 3D buffer is not there when
the frame buffer cannot be allocated. -/
def InitEnv.Clean (env : InitEnv) (reached : Bool) : Prop :=
  ¬ (reached = true ∧ env.irq.ok = true) ∧
    ¬ (reached = true ∧ env.cmd3dReady = true ∧ env.fbMem = false)

instance (env : InitEnv) (reached : Bool) : Decidable (env.Clean reached) :=
  inferInstanceAs (Decidable (_ ∧ _))

/-- After a failure nothing is left exactly when the environment was `Clean`. -/
def Unwinds (env : InitEnv) (reached : Bool) (rest : Multiset Resource) (ok : Bool)
    (c : CardState) : Prop :=
  ok = false → ∃ leak, Held (leak + rest) c ∧ (leak = 0 ↔ env.Clean reached)

theorem Unwinds.early {env : InitEnv} {reached ok : Bool} {c : CardState}
    (hreached : reached = false) (hc : Held rest c) : Unwinds env reached rest ok c :=
  fun _ => ⟨0, by rwa [zero_add], by simp [InitEnv.Clean, hreached]⟩

theorem initTransport_unwinds (doubleBuffering : Bool) (env : InitEnv) (l : Opened)
    {gs : GpuState} (hearly : Early gs) (hcaps : env.caps = some gs.deviceCfgBase)
    (rest : Multiset Resource) :
    Triple (Held (releaseGs l gs + rest)) (initTransport doubleBuffering env l gs)
      (Unwinds env env.transportReady rest) := by
  unfold initTransport
  -- three buffers; without the third there is no cursor, which is no failure
  refine Triple.bind (chipDmaAlloc_spec 4096 env.cmdBuf) fun cmdBuf => Triple.fact fun hcmd => ?_
  refine Triple.ite (fun h0 => ?_) fun h0 => ?_
  · subst h0
    rw [dmaBuffer_zero, zero_add]
    have ha : env.cmdBuf.ok = false := by simpa using hcmd
    exact (failGs_spec l gs rest).strengthen fun _ c hc =>
      Unwinds.early (by simp [InitEnv.transportReady, ha]) hc
  refine Triple.bind (chipDmaAlloc_spec 4096 env.respBuf) fun respBuf =>
    Triple.fact fun hresp => ?_
  refine Triple.ite (fun h1 => ?_) fun h1 => ?_
  · subst h1
    have ha : env.respBuf.ok = false := by simpa using hresp
    refine ((failCmd_spec l (gs.withCmdBuf cmdBuf) rest).weaken (held_of_eq ?_)).strengthen
      fun _ c hc => Unwinds.early (by simp [InitEnv.transportReady, ha]) hc
    have hrelease : releaseCmd l (gs.withCmdBuf cmdBuf) =
        dmaBuffer cmdBuf 4096 + releaseGs l gs := rfl
    rw [dmaBuffer_zero, hrelease]
    abel
  refine Triple.bind (chipDmaAlloc_spec 4096 env.cursorCmdBuf) fun cursorCmdBuf =>
    Triple.fact fun _ => ?_
  -- the queues; on failure they have been given back already
  refine Triple.bind (chipVirtioInit_spec env.transport hearly.ctrlq hearly.cursorq) fun r =>
    Triple.fact fun hr => ?_
  obtain ⟨ok, gs₁⟩ := r
  obtain ⟨hok, q, cq, hgs₁, hquiet⟩ := hr
  dsimp only at hok hgs₁ ⊢
  have hrelease : releaseResp l gs₁ = dmaBuffer cursorCmdBuf 4096 + dmaBuffer respBuf 4096 +
      (dmaBuffer cmdBuf 4096 + releaseGs l gs) := by
    subst hgs₁
    rfl
  refine Triple.ite (fun hfailed => ?_) fun hready => ?_
  · have ha : env.transport.ok = false := by simpa [hok] using hfailed
    obtain ⟨rfl, rfl⟩ := hquiet ha
    refine ((failResp_spec l gs₁ rest).weaken (held_of_eq ?_)).strengthen
      fun _ c hc => Unwinds.early (by simp [InitEnv.transportReady, ha]) hc
    have hqueues : vring gs₁.ctrlq + vring gs₁.cursorq = 0 := by
      subst hgs₁
      rfl
    rw [hqueues, hrelease]
    abel
  have hearly₁ : gs₁ = gs₁.withBackBuffer 0 0 0 ∧ gs₁.vsyncMutex = 0 ∧ gs₁.cmd3dBuf = 0 ∧
      gs₁.cmd3dLock = 0 := by
    subst hgs₁
    refine ⟨?_, hearly.vsyncMutex, hearly.cmd3dBuf, hearly.cmd3dLock⟩
    rw [hearly.backBuffer]
    rfl
  have hready' : env.transportReady = true := by
    have htransport : env.transport.ok = true := by simpa [hok] using hready
    simp [InitEnv.transportReady, hcmd.mp h0, hresp.mp h1, htransport]
  have hvirgl : gs₁.hasVirgl = env.transport.virgl ∧ gs₁.deviceCfgBase = gs.deviceCfgBase := by
    subst hgs₁
    exact ⟨rfl, rfl⟩
  obtain ⟨hback₁, hvsync₁, hbuf₁, hlock₁⟩ := hearly₁
  -- from here on the interrupt server may be installed, and no failure path removes it
  refine Triple.bind (chipIrqInstall_spec gs₁ env.irq) fun gs₂ => Triple.fact fun hgs₂ => ?_
  obtain ⟨installed, rfl⟩ := hgs₂
  refine Triple.bind (setup3D_spec env.cmd3d hbuf₁ hlock₁) fun gs₃ => Triple.fact fun hgs₃ => ?_
  obtain ⟨buf, lock, virgl, next, ctx, rfl, hbuf⟩ := hgs₃
  have hback₃ : (gs₁.withIrq installed).with3D buf lock virgl next ctx =
      ((gs₁.withIrq installed).with3D buf lock virgl next ctx).withBackBuffer 0 0 0 := by
    rw [hback₁]
    rfl
  -- what the rest of the function leaves behind, beside the server
  have hfb := initFramebuffer_unwinds doubleBuffering env l hback₃ hvsync₁
    (env.irq.server gs₁.self + rest)
  refine (hfb.weaken (held_of_eq ?_)).strengthen fun ok c hc hfalse =>
    ⟨_, held_of_eq (add_assoc _ _ _).symm c (hc hfalse), ?_⟩
  · rw [releaseVqs_with3D l installed buf lock virgl next ctx hlock₁, releaseVqs, hrelease]
    change dmaBuffer buf cmd3dSize + own lock .mutex + (env.irq.server gs₁.self + _) =
      dmaBuffer buf cmd3dSize + _ + _
    abel
  · -- clean: neither the server nor the 3D buffer was there
    rw [add_eq_zero, IrqAnswer.server_eq_zero, cmd3dLeak_eq_zero]
    change ¬ (buf ≠ 0 ∧ _) ∧ _ ↔ _
    have hcmd3d : buf ≠ 0 ↔ env.cmd3dReady = true := by
      rw [hbuf]
      change gs₁.hasVirgl = true ∧ gs₁.deviceCfgBase ≠ 0 ∧ _ ↔ _
      simp [InitEnv.cmd3dReady, hcaps, hvirgl, and_assoc]
    rw [hcmd3d]
    simp only [InitEnv.Clean, hready', true_and]
    exact and_comm

/-- The state and what it needs are there: the transport is set up. -/
def InitEnv.stateReady (env : InitEnv) : Bool :=
  env.state && env.ioLock && env.cursorLock && env.allocMutex && env.caps.isSome

theorem initState_unwinds (doubleBuffering : Bool) (env : InitEnv) (l : Opened)
    (rest : Multiset Resource) :
    Triple (Held (releasePci l + rest)) (initState doubleBuffering env l)
      (Unwinds env (env.stateReady && env.transportReady) rest) := by
  unfold initState
  refine Triple.bind (allocVec_spec _ env.state) fun self => Triple.fact fun hself => ?_
  refine Triple.ite (fun h0 => ?_) fun h0 => ?_
  · subst h0
    have ha : env.state = false := by simpa using hself
    rw [own_zero, zero_add]
    exact (failPci_spec l rest).strengthen fun _ c hc =>
      Unwinds.early (by simp [InitEnv.stateReady, ha]) hc
  rw [own_of_ne h0]
  -- three mutexes, which are checked together
  refine Triple.bind (obtain_spec .mutex env.ioLock) fun ioLock => Triple.fact fun hio => ?_
  refine Triple.bind (obtain_spec .mutex env.cursorLock) fun cursorLock =>
    Triple.fact fun hcursor => ?_
  refine Triple.bind (obtain_spec .mutex env.allocMutex) fun allocMutex =>
    Triple.fact fun halloc => ?_
  have hrelease (base : UInt32) : releaseGs l
      { self := self, ioLock := ioLock, cursorLock := cursorLock, allocMutex := allocMutex,
        deviceCfgBase := base } =
      0 + own cursorLock .mutex + own allocMutex .mutex + own ioLock .mutex + {.block self} +
        releasePci l := rfl
  refine Triple.ite (fun hmissing => ?_) fun hlocks => ?_
  · have hready : env.stateReady = false := by
      rcases hmissing with rfl | rfl | rfl <;> simp_all [InitEnv.stateReady]
    refine ((failGs_spec l _ rest).weaken (held_of_eq ?_)).strengthen fun _ c hc =>
      Unwinds.early (by simp [hready]) hc
    rw [hrelease 0]
    abel
  -- from here on everything is behind `failGs`
  refine Triple.bind (chipScanBars_spec _) fun _ => ?_
  cases hcaps : env.caps with
  | none =>
      refine ((failGs_spec l _ rest).weaken (held_of_eq ?_)).strengthen fun _ c hc =>
        Unwinds.early (by simp [InitEnv.stateReady, hcaps]) hc
      rw [hrelease 0]
      abel
  | some base =>
      have hready : env.stateReady = true := by
        obtain ⟨hio0, hcursor0, halloc0⟩ := not_or.mp hlocks |>.imp_right not_or.mp
        simp [InitEnv.stateReady, hself.mp h0, hio.mp hio0, hcursor.mp hcursor0,
          halloc.mp halloc0, hcaps]
      rw [hready, Bool.true_and]
      refine (initTransport_unwinds doubleBuffering env l ?_ hcaps rest).weaken (held_of_eq ?_)
      · exact ⟨rfl, rfl, rfl, rfl, rfl, rfl⟩
      · rw [hrelease base]
        abel

/-- `chip_irq_install` is called: every acquisition before it succeeds. -/
def InitEnv.irqReached (env : InitEnv) : Bool :=
  env.expansion && env.pci && (env.presetDevice || env.findDevice) && env.lock &&
    (env.stateReady && env.transportReady)

theorem chipInitCard_unwinds (doubleBuffering : Bool) (env : InitEnv) (rest : Multiset Resource) :
    Triple (Held rest) (chipInitCard doubleBuffering env) (Unwinds env env.irqReached rest) := by
  unfold chipInitCard
  refine Triple.bind (obtain_spec .library env.expansion) fun expBase => Triple.fact fun hexp => ?_
  refine Triple.ite (fun h0 => ?_) fun h0 => ?_
  · subst h0
    have ha : env.expansion = false := by simpa using hexp
    rw [own_zero, zero_add]
    exact Triple.ret fun c hc => Unwinds.early (by simp [InitEnv.irqReached, ha]) hc
  rw [own_of_ne h0]
  refine Triple.bind (obtain_spec .interface env.pci) fun ipci => Triple.fact fun hpci => ?_
  refine Triple.ite (fun h1 => ?_) fun h1 => ?_
  · subst h1
    have ha : env.pci = false := by simpa using hpci
    rw [own_zero, zero_add]
    exact (failExp_spec ⟨expBase, 0, false⟩ rest).strengthen fun _ c hc =>
      Unwinds.early (by simp [InitEnv.irqReached, ha]) hc
  rw [own_of_ne h1]
  have hfail := failIpci_spec ⟨expBase, ipci, false⟩ rest
  rw [releaseIpci, releaseExp, add_assoc] at hfail
  refine Triple.ite (fun hdevice => ?_) fun hdevice => ?_
  · have ha : (env.presetDevice || env.findDevice) = false := by simpa using hdevice
    exact hfail.strengthen fun _ c hc => Unwinds.early (by simp [InitEnv.irqReached, ha]) hc
  refine Triple.ite (fun hlock => ?_) fun hlock => ?_
  · have ha : env.lock = false := by simpa using hlock
    exact hfail.strengthen fun _ c hc => Unwinds.early (by simp [InitEnv.irqReached, ha]) hc
  have hreached : env.irqReached = (env.stateReady && env.transportReady) := by
    have ha : (env.presetDevice || env.findDevice) = true := by
      by_contra hno
      exact hdevice (by rw [Bool.eq_false_of_not_eq_true hno]; rfl)
    simp [InitEnv.irqReached, hexp.mp h0, hpci.mp h1, ha, show env.lock = true by simpa using hlock]
  rw [hreached]
  refine Triple.bind (R := fun _ => Held (releasePci ⟨expBase, ipci, true⟩ + rest)) ?_ fun _ =>
    initState_unwinds doubleBuffering env ⟨expBase, ipci, true⟩ rest
  refine Triple.update fun c hc => held_of_eq ?_ _ hc.acquire
  change _ = {.pciLock} + ({.interface ipci} + {.library expBase}) + rest
  abel

/-! ## The whole function -/

/-- The data of every interrupt server is live memory. -/
def Registered (c : CardState) : Prop :=
  ∀ data, Resource.intServer data ∈ c.sys.live → Resource.block data ∈ c.sys.live

/-- Everything that was acquired since `c` is released, each thing once, and nothing that is
registered with the system refers to released memory. -/
structure Unwound (c c' : CardState) : Prop where
  released : c'.sys.live = c.sys.live
  once : c'.sys.fault = false
  registered : Registered c → Registered c'

/-- A failing `chip_InitCard_C` unwinds completely if and only if `chip_irq_install`, where it
is called, installs no interrupt server, and the frame buffer's allocation, where the 3D buffer
is there, does not fail. -/
theorem init_unwinds (doubleBuffering : Bool) (env : InitEnv) (c : CardState)
    (honce : c.sys.fault = false) (hfalse : (chipInitCard doubleBuffering env c).1 = false) :
    Unwound c (chipInitCard doubleBuffering env c).2 ↔ env.Clean env.irqReached := by
  have hinit := chipInitCard_unwinds doubleBuffering env c.sys.live c ⟨rfl, honce⟩
  obtain ⟨leak, hheld, hleak⟩ := hinit hfalse
  rw [← hleak]
  constructor
  · intro h
    have hlive : leak + c.sys.live = c.sys.live := by rw [← hheld.live, h.released]
    exact add_eq_right.mp hlive
  · intro h
    subst h
    have hlive : (chipInitCard doubleBuffering env c).2.sys.live = c.sys.live := by
      rw [hheld.live, zero_add]
    refine ⟨hlive, hheld.sound, fun hregistered => ?_⟩
    unfold Registered
    rwa [hlive]

/-- There is no interrupt, so no server, and the host refuses the last of the commands, with all
buffers and the frame buffer allocated. -/
def InitEnv.lateRefusal : InitEnv :=
  { InitEnv.working with irq := ⟨0, true⟩, setScanout := fun _ => .refused }

theorem init_unwinds_noServer :
    (chipInitCard false .lateRefusal CardState.start).1 = false ∧
      Unwound CardState.start (chipInitCard false .lateRefusal CardState.start).2 := by
  have hfalse : (chipInitCard false .lateRefusal CardState.start).1 = false := by
    decide +kernel
  exact ⟨hfalse, (init_unwinds false .lateRefusal CardState.start rfl hfalse).mpr
    (by decide +kernel)⟩

/-- The interrupt server is installed, and the host refuses `RESOURCE_CREATE_2D`: the server
stays, with the released state as its data. -/
theorem init_leaves_server :
    (chipInitCard false { InitEnv.working with create2D := .refused } CardState.start).1 = false ∧
      ¬ Unwound CardState.start
        (chipInitCard false { InitEnv.working with create2D := .refused } CardState.start).2 := by
  refine ⟨by decide +kernel, fun h => ?_⟩
  exact absurd h.released (by decide +kernel)

end VirtIOGPU.Card
