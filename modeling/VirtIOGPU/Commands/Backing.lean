import VirtIOGPU.Lib.Wire
import VirtIOGPU.Virtqueue.Layout

/-!
# The backing of a resource

`chip_ResourceAttachBacking` and `chip_ResourceCreateBlob` send the DMA entry list of a
buffer behind their header in the 4 KB command buffer.  The structs are modelled with the
values that native stores of the driver write, and the message as the bytes in memory, so
that the device's reader (`readAttachBacking`, `readCreateBlob`) works on what it really
gets.

The buffer holds 254 entries behind one header and 252 behind the other, and a longer list
is clamped.  `backing_entries_sent` says what a successful call has sent, and
`backing_truncated` is a list of which one entry is missing.

## Strategy

The bytes are read back piece by piece: a number (`reads_gp32`, `reads_gp64`), an entry, the list by
induction, the header.  `attachBacking_sent` and `createBlob_sent` put these together for a list
that has been clamped; what remains is a fact about lists alone.

```text
length of the list   sent                    the device's backing
at most the clamp    all entries             the whole buffer
above it             as many as are clamped  entries are missing
```

`fullBacking_take_iff` is the last column.
-/

namespace VirtIOGPU

open Lib.ByteOrder Lib.Wire

/-! ## Structs -/

/-- `GP32`. -/
def gp32 (v : UInt32) : UInt32 := bswap32 v
/-- `GP64`. -/
def gp64 (v : UInt64) : UInt64 := bswap64 v

/-- The bytes of a field in the memory of the big-endian CPU. -/
def store32 (v : UInt32) : List ℕ := toBE 4 v.toNat
def store64 (v : UInt64) : List ℕ := toBE 8 v.toNat

/-- `struct virtio_gpu_ctrl_hdr`; `ringIdx` is that byte with its padding. -/
structure VirtioGpuCtrlHdr where
  type : UInt32
  flags : UInt32 := 0
  fenceId : UInt64 := 0
  ctxId : UInt32 := 0
  ringIdx : UInt32 := 0

def VirtioGpuCtrlHdr.bytes (hdr : VirtioGpuCtrlHdr) : List ℕ :=
  store32 hdr.type ++ (store32 hdr.flags ++ store64 hdr.fenceId ++ store32 hdr.ctxId ++
    store32 hdr.ringIdx)

/-- `struct virtio_gpu_mem_entry`. -/
structure VirtioGpuMemEntry where
  addr : UInt64
  length : UInt32
  padding : UInt32 := 0
  deriving DecidableEq, Repr

def VirtioGpuMemEntry.bytes (entry : VirtioGpuMemEntry) : List ℕ :=
  store64 entry.addr ++ (store32 entry.length ++ store32 entry.padding)

/-- `struct virtio_gpu_resource_attach_backing`. -/
structure VirtioGpuResourceAttachBacking where
  hdr : VirtioGpuCtrlHdr
  resourceId : UInt32
  nrEntries : UInt32

def VirtioGpuResourceAttachBacking.bytes (cmd : VirtioGpuResourceAttachBacking) : List ℕ :=
  cmd.hdr.bytes ++ (store32 cmd.resourceId ++ store32 cmd.nrEntries)

/-- `struct virtio_gpu_resource_create_blob`. -/
structure VirtioGpuResourceCreateBlob where
  hdr : VirtioGpuCtrlHdr
  resourceId : UInt32
  blobMem : UInt32
  blobFlags : UInt32
  nrEntries : UInt32
  blobId : UInt64
  size : UInt64

def VirtioGpuResourceCreateBlob.bytes (cmd : VirtioGpuResourceCreateBlob) : List ℕ :=
  cmd.hdr.bytes ++ (store32 cmd.resourceId ++ (store32 cmd.blobMem ++ (store32 cmd.blobFlags ++
    (store32 cmd.nrEntries ++ (store64 cmd.blobId ++ store64 cmd.size)))))

/-- `struct DMAEntry`. -/
structure DmaEntry where
  physicalAddress : UInt32
  blockLength : UInt32
  deriving DecidableEq, Repr

/-- `dma_list` with `dma_count`. -/
structure DmaList where
  entries : List DmaEntry
  length_lt : entries.length < 2 ^ 32

def DmaList.count (dma : DmaList) : UInt32 := UInt32.ofNat dma.entries.length

theorem DmaList.count_toNat (dma : DmaList) : dma.count.toNat = dma.entries.length := by
  have := dma.length_lt
  rw [DmaList.count, UInt32.toNat_ofNat']
  omega

/-! ## The two commands -/

/-- What the device leaves in `resp_buf`: the byte count of the used entry, and the type field
as the driver loads it. -/
structure GpuReply where
  written : UInt32
  type : UInt32
  deriving DecidableEq, Repr

/-- `VIRTIO_GPU_RESP_OK_NODATA`. -/
def virtioGpuRespOkNodata : UInt32 := 0x1100

/-- The response type that `chip_gpu_send` returns. -/
def chipGpuSend (reply : GpuReply) : UInt32 :=
  if reply.written < 24 then 0 else gp32 reply.type

/-- What a command sent, if it sent anything, and what it returned. -/
structure CommandResult where
  sent : Option (List ℕ)
  ok : Bool
  deriving DecidableEq, Repr

/-- The entries that the copying loop writes. -/
def memEntries (dma : DmaList) (dmaCount : UInt32) : List VirtioGpuMemEntry :=
  (dma.entries.take dmaCount.toNat).map fun entry =>
    { addr := gp64 entry.physicalAddress.toUInt64, length := gp32 entry.blockLength, padding := 0 }

/-- `if (dma_count > max_entries) dma_count = max_entries`. -/
def clampCount (maxEntries dmaCount : UInt32) : UInt32 :=
  if maxEntries < dmaCount then maxEntries else dmaCount

def attachBackingMax : UInt32 := (4096 - 32) / 16
def createBlobMax : UInt32 := (4096 - 56) / 16

def chipResourceAttachBacking (resourceId : UInt32) (dma : DmaList)
    (device : List ℕ → GpuReply) : CommandResult :=
  let dmaCount := clampCount attachBackingMax dma.count
  let cmdSize := 32 + 16 * dmaCount
  let cmd : VirtioGpuResourceAttachBacking :=
    { hdr := { type := gp32 0x0106 }
      resourceId := gp32 resourceId
      nrEntries := gp32 dmaCount }
  let cmdBuf := cmd.bytes ++ (memEntries dma dmaCount).flatMap VirtioGpuMemEntry.bytes
  let sent := cmdBuf.take cmdSize.toNat
  { sent := some sent, ok := decide (chipGpuSend (device sent) = virtioGpuRespOkNodata) }

/-- The arguments of `chip_ResourceCreateBlob` other than the list. -/
structure BlobArgs where
  resourceId : UInt32
  blobMem : UInt32
  blobFlags : UInt32
  blobId : UInt64
  size : UInt64
  deriving DecidableEq, Repr

def chipResourceCreateBlob (hasBlob : Bool) (args : BlobArgs) (dma : DmaList)
    (device : List ℕ → GpuReply) : CommandResult :=
  if hasBlob then
    let dmaCount := clampCount createBlobMax dma.count
    let cmdSize := 56 + 16 * dmaCount
    let cmd : VirtioGpuResourceCreateBlob :=
      { hdr := { type := gp32 0x010D }
        resourceId := gp32 args.resourceId
        blobMem := gp32 args.blobMem
        blobFlags := gp32 args.blobFlags
        nrEntries := gp32 dmaCount
        blobId := gp64 args.blobId
        size := gp64 args.size }
    let cmdBuf := cmd.bytes ++ (memEntries dma dmaCount).flatMap VirtioGpuMemEntry.bytes
    let sent := cmdBuf.take cmdSize.toNat
    { sent := some sent, ok := decide (chipGpuSend (device sent) = virtioGpuRespOkNodata) }
  else { sent := none, ok := false }

/-! ## The device's side -/

/-- A memory entry as the device sees it. -/
structure BackingEntry where
  addr : ℕ
  length : ℕ
  deriving DecidableEq, Repr

/-- The memory that a DMA entry stands for. -/
def DmaEntry.memory (entry : DmaEntry) : BackingEntry :=
  ⟨entry.physicalAddress.toNat, entry.blockLength.toNat⟩

def readMemEntry : Reader BackingEntry := fun bytes => do
  let (addr, bytes) ← field 8 bytes
  let (length, bytes) ← field 4 bytes
  let ((), bytes) ← skip 4 bytes
  some (⟨addr, length⟩, bytes)

/-- The type of a command; the device uses no other field of the header here. -/
def readHdr : Reader ℕ := fun bytes => do
  let (type, bytes) ← field 4 bytes
  let ((), bytes) ← skip 20 bytes
  some (type, bytes)

/-- `RESOURCE_ATTACH_BACKING`: the resource and its backing. -/
def readAttachBacking (message : List ℕ) : Option (ℕ × List BackingEntry) := do
  let (type, bytes) ← readHdr message
  let (resourceId, bytes) ← field 4 bytes
  let (nrEntries, bytes) ← field 4 bytes
  let (entries, _) ← many readMemEntry nrEntries bytes
  if type = 0x0106 then some (resourceId, entries) else none

/-- A blob resource as the device creates it. -/
structure BlobResource where
  resourceId : ℕ
  blobMem : ℕ
  blobFlags : ℕ
  blobId : ℕ
  size : ℕ
  entries : List BackingEntry
  deriving DecidableEq, Repr

/-- `RESOURCE_CREATE_BLOB`. -/
def readCreateBlob (message : List ℕ) : Option BlobResource := do
  let (type, bytes) ← readHdr message
  let (resourceId, bytes) ← field 4 bytes
  let (blobMem, bytes) ← field 4 bytes
  let (blobFlags, bytes) ← field 4 bytes
  let (nrEntries, bytes) ← field 4 bytes
  let (blobId, bytes) ← field 8 bytes
  let (size, bytes) ← field 8 bytes
  let (entries, _) ← many readMemEntry nrEntries bytes
  if type = 0x010D then some ⟨resourceId, blobMem, blobFlags, blobId, size, entries⟩ else none

/-- The memory entries are the whole list. -/
def FullBacking (dma : DmaList) (entries : List BackingEntry) : Prop :=
  entries = dma.entries.map DmaEntry.memory ∧
    (entries.map BackingEntry.length).sum =
      (dma.entries.map fun entry => entry.blockLength.toNat).sum

/-! ## What the device reads -/

/-- A swapped field is stored in little-endian order. -/
theorem store32_gp32 (v : UInt32) : store32 (gp32 v) = toLE 4 v.toNat := by
  have hlt : swap 4 v.toNat < 2 ^ 32 := swap_lt 4 _
  rw [store32, gp32, bswap32, UInt32.toNat_ofNat', Nat.mod_eq_of_lt hlt, toBE, toLE_swap, toBE,
    List.reverse_reverse]

theorem store64_gp64 (v : UInt64) : store64 (gp64 v) = toLE 8 v.toNat := by
  have hlt : swap 8 v.toNat < 2 ^ 64 := swap_lt 8 _
  rw [store64, gp64, bswap64, UInt64.toNat_ofNat', Nat.mod_eq_of_lt hlt, toBE, toLE_swap, toBE,
    List.reverse_reverse]

@[simp] theorem length_store32 (v : UInt32) : (store32 v).length = 4 := length_toBE 4 _
@[simp] theorem length_store64 (v : UInt64) : (store64 v).length = 8 := length_toBE 8 _

theorem reads_gp32 (v : UInt32) : Reads (field 4) (store32 (gp32 v)) v.toNat := by
  rw [store32_gp32]
  exact reads_field v.toNat_lt

theorem reads_gp64 (v : UInt64) : Reads (field 8) (store64 (gp64 v)) v.toNat := by
  rw [store64_gp64]
  exact reads_field v.toNat_lt

theorem reads_memEntry (entry : DmaEntry) :
    Reads readMemEntry
      (VirtioGpuMemEntry.bytes
        ⟨gp64 entry.physicalAddress.toUInt64, gp32 entry.blockLength, 0⟩) entry.memory := by
  intro rest
  have haddr := reads_gp64 entry.physicalAddress.toUInt64
  have hlength := reads_gp32 entry.blockLength
  have hpadding : Reads (skip 4) (store32 0) () := reads_skip (length_store32 0)
  simp only [readMemEntry, VirtioGpuMemEntry.bytes, List.append_assoc, haddr _, hlength _,
    hpadding _, Option.bind_eq_bind, Option.bind_some, UInt32.toNat_toUInt64]
  rfl

theorem reads_memEntries {dma : DmaList} {dmaCount : UInt32}
    (hcount : dmaCount.toNat ≤ dma.entries.length) :
    Reads (many readMemEntry dmaCount.toNat)
      ((memEntries dma dmaCount).flatMap VirtioGpuMemEntry.bytes)
      ((dma.entries.take dmaCount.toNat).map DmaEntry.memory) := by
  have h := Reads.many reads_memEntry (dma.entries.take dmaCount.toNat)
  rwa [List.length_take_of_le hcount, ← List.flatMap_map] at h

theorem reads_hdr (type : UInt32) :
    Reads readHdr (VirtioGpuCtrlHdr.bytes { type := gp32 type }) type.toNat := by
  intro rest
  have htype := reads_gp32 type
  have hzero : Reads (skip 20) (store32 0 ++ store64 0 ++ store32 0 ++ store32 0) () :=
    reads_skip (by simp)
  simp only [readHdr, VirtioGpuCtrlHdr.bytes, List.append_assoc, htype _, Option.bind_eq_bind,
    Option.bind_some]
  have h := hzero rest
  simp only [List.append_assoc] at h
  simp only [h, Option.bind_some]

/-! ## The size of a command -/

theorem clampCount_toNat (maxEntries dmaCount : UInt32) :
    (clampCount maxEntries dmaCount).toNat = min dmaCount.toNat maxEntries.toNat := by
  unfold clampCount
  split
  · rename_i h
    rw [UInt32.lt_iff_toNat_lt] at h
    omega
  · rename_i h
    rw [UInt32.lt_iff_toNat_lt] at h
    omega

@[simp] theorem length_memEntry_bytes (entry : VirtioGpuMemEntry) : entry.bytes.length = 16 := by
  simp [VirtioGpuMemEntry.bytes]

theorem length_memEntries {dma : DmaList} {dmaCount : UInt32}
    (hcount : dmaCount.toNat ≤ dma.entries.length) :
    ((memEntries dma dmaCount).flatMap VirtioGpuMemEntry.bytes).length = 16 * dmaCount.toNat := by
  have hconst : ∀ entry ∈ memEntries dma dmaCount, entry.bytes.length = 16 := fun entry _ =>
    length_memEntry_bytes entry
  rw [List.length_flatMap, List.map_congr_left hconst, List.map_const', List.sum_replicate_nat,
    memEntries, List.length_map, List.length_take_of_le hcount, Nat.mul_comm]

theorem clampCount_le (maxEntries : UInt32) (dma : DmaList) :
    (clampCount maxEntries dma.count).toNat ≤ dma.entries.length := by
  rw [clampCount_toNat, dma.count_toNat]
  exact min_le_left _ _

/-- A command with a header of `size` bytes fits in the command buffer. -/
theorem cmdSize_toNat (size maxEntries dmaCount : UInt32)
    (hmax : size.toNat + 16 * maxEntries.toNat ≤ 4096) :
    (size + 16 * clampCount maxEntries dmaCount).toNat =
      size.toNat + 16 * (clampCount maxEntries dmaCount).toNat := by
  have hcount : (clampCount maxEntries dmaCount).toNat ≤ maxEntries.toNat := by
    rw [clampCount_toNat]
    exact min_le_right _ _
  have hsixteen : (16 : UInt32).toNat = 16 := rfl
  rw [UInt32.toNat_add, UInt32.toNat_mul, hsixteen]
  omega

/-! ## What the two commands send -/

/-- The device reads the entries that fit. -/
theorem take_count (maxEntries : UInt32) (dma : DmaList) :
    dma.entries.take (clampCount maxEntries dma.count).toNat =
      dma.entries.take maxEntries.toNat := by
  rw [clampCount_toNat, dma.count_toNat, Nat.min_comm, ← List.take_eq_take_min]

@[simp] theorem length_hdr_bytes (hdr : VirtioGpuCtrlHdr) : hdr.bytes.length = 24 := by
  simp [VirtioGpuCtrlHdr.bytes]

theorem attachBacking_sent (resourceId : UInt32) (dma : DmaList) (device : List ℕ → GpuReply) :
    (chipResourceAttachBacking resourceId dma device).sent.bind readAttachBacking =
      some (resourceId.toNat, (dma.entries.take 254).map DmaEntry.memory) := by
  have hfits := clampCount_le attachBackingMax dma
  have hentries := reads_memEntries hfits []
  rw [List.append_nil, take_count] at hentries
  have hsize := cmdSize_toNat 32 attachBackingMax dma.count (by decide)
  simp only [chipResourceAttachBacking, Option.bind_some]
  rw [List.take_of_length_le]
  · simp only [readAttachBacking, VirtioGpuResourceAttachBacking.bytes, List.append_assoc,
      reads_hdr _ _, reads_gp32 _ _, Option.bind_eq_bind, Option.bind_some, hentries]
    rfl
  · -- the header and the entries fill the command exactly
    simp only [hsize, VirtioGpuResourceAttachBacking.bytes, List.length_append, length_hdr_bytes,
      length_store32, length_memEntries hfits, UInt32.reduceToNat]
    omega

theorem createBlob_sent {hasBlob : Bool} {args : BlobArgs} {dma : DmaList}
    {device : List ℕ → GpuReply}
    (hok : (chipResourceCreateBlob hasBlob args dma device).ok = true) :
    (chipResourceCreateBlob hasBlob args dma device).sent.bind readCreateBlob =
      some
        { resourceId := args.resourceId.toNat
          blobMem := args.blobMem.toNat
          blobFlags := args.blobFlags.toNat
          blobId := args.blobId.toNat
          size := args.size.toNat
          entries := (dma.entries.take 252).map DmaEntry.memory } := by
  cases hasBlob with
  | false => simp [chipResourceCreateBlob] at hok
  | true =>
      have hfits := clampCount_le createBlobMax dma
      have hentries := reads_memEntries hfits []
      rw [List.append_nil, take_count] at hentries
      have hsize := cmdSize_toNat 56 createBlobMax dma.count (by decide)
      simp only [chipResourceCreateBlob, if_true, Option.bind_some]
      rw [List.take_of_length_le]
      · simp only [readCreateBlob, VirtioGpuResourceCreateBlob.bytes, List.append_assoc,
          reads_hdr _ _, reads_gp32 _ _, reads_gp64 _ _, Option.bind_eq_bind, Option.bind_some,
          hentries]
        rfl
      · -- the header and the entries fill the command exactly
        simp only [hsize, VirtioGpuResourceCreateBlob.bytes, List.length_append,
          length_hdr_bytes, length_store32, length_store64, length_memEntries hfits,
          UInt32.reduceToNat]
        omega

/-! ## Whole lists and prefixes -/

/-- The first `count` entries are the whole backing when there are no more. -/
theorem fullBacking_take_iff (dma : DmaList) (count : ℕ) :
    FullBacking dma ((dma.entries.take count).map DmaEntry.memory) ↔
      dma.entries.length ≤ count := by
  constructor
  · rintro ⟨hentries, -⟩
    have hlength := congrArg List.length hentries
    rw [List.length_map, List.length_map, List.length_take] at hlength
    omega
  · intro hcount
    rw [List.take_of_length_le hcount]
    refine ⟨rfl, ?_⟩
    rw [List.map_map]
    rfl

/-- A successful call sends the entries of the caller's list that fit behind the header, in
order, which is the whole list when it has at most that many. -/
theorem backing_entries_sent (dma : DmaList) (device : List ℕ → GpuReply) :
    (∀ resourceId, (chipResourceAttachBacking resourceId dma device).ok = true →
      ∃ entries,
        (chipResourceAttachBacking resourceId dma device).sent.bind readAttachBacking =
          some (resourceId.toNat, entries) ∧
        entries = (dma.entries.take 254).map DmaEntry.memory ∧
        (FullBacking dma entries ↔ dma.entries.length ≤ 254)) ∧
    ∀ hasBlob args, (chipResourceCreateBlob hasBlob args dma device).ok = true →
      ∃ blob,
        (chipResourceCreateBlob hasBlob args dma device).sent.bind readCreateBlob = some blob ∧
        blob.resourceId = args.resourceId.toNat ∧
        blob.entries = (dma.entries.take 252).map DmaEntry.memory ∧
        (FullBacking dma blob.entries ↔ dma.entries.length ≤ 252) := by
  constructor
  · intro resourceId _
    exact ⟨_, attachBacking_sent resourceId dma device, rfl, fullBacking_take_iff dma 254⟩
  · intro hasBlob args hok
    exact ⟨_, createBlob_sent hok, rfl, rfl, fullBacking_take_iff dma 252⟩

/-- A device that accepts every command. -/
def acceptingDevice (_message : List ℕ) : GpuReply := ⟨24, gp32 virtioGpuRespOkNodata⟩

/-- A buffer in three parts, which are not in the order of their addresses. -/
def threeParts : DmaList := ⟨[⟨0x100000, 4096⟩, ⟨0x180000, 8192⟩, ⟨0x104000, 4096⟩], by decide⟩

/-- A buffer in 255 pages: one entry more than fits. -/
def scatteredPages : DmaList :=
  ⟨List.replicate 255 ⟨0x100000, 4096⟩, by rw [List.length_replicate]; decide⟩

/-- The three parts are sent whole; of the 255 pages the last one is missing. -/
theorem backing_entries_sent_parts :
    ((∃ entries,
        (chipResourceAttachBacking 1 threeParts acceptingDevice).sent.bind readAttachBacking =
          some (1, entries) ∧ FullBacking threeParts entries) ∧
      ∃ blob,
        (chipResourceCreateBlob true ⟨1, 1, 1, 0, 16384⟩ threeParts acceptingDevice).sent.bind
          readCreateBlob = some blob ∧ FullBacking threeParts blob.entries) ∧
    ∃ entries,
      (chipResourceAttachBacking 1 scatteredPages acceptingDevice).sent.bind readAttachBacking =
        some (1, entries) ∧ entries.length = 254 ∧ ¬ FullBacking scatteredPages entries := by
  have hlong : scatteredPages.entries.length = 255 := List.length_replicate
  obtain ⟨entries, hsent, -, hfull⟩ :=
    (backing_entries_sent threeParts acceptingDevice).1 1 (by decide)
  obtain ⟨blob, hblob, -, -, hwhole⟩ :=
    (backing_entries_sent threeParts acceptingDevice).2 true ⟨1, 1, 1, 0, 16384⟩ (by decide)
  obtain ⟨first, hfirst, htake, hpart⟩ :=
    (backing_entries_sent scatteredPages acceptingDevice).1 1 (by
      simp only [chipResourceAttachBacking]
      decide)
  refine ⟨⟨⟨entries, hsent, hfull.mpr (by decide)⟩, blob, hblob, hwhole.mpr (by decide)⟩,
    first, hfirst, ?_, ?_⟩
  · rw [htake, List.length_map, List.length_take, hlong]
    rfl
  · rw [hpart, hlong]
    decide

/-- The device accepts both commands and lacks the last pages. -/
theorem backing_truncated :
    ((chipResourceAttachBacking 1 scatteredPages acceptingDevice).ok = true ∧
      ¬ ∃ entries,
        (chipResourceAttachBacking 1 scatteredPages acceptingDevice).sent.bind readAttachBacking =
          some (1, entries) ∧ FullBacking scatteredPages entries) ∧
    (chipResourceCreateBlob true ⟨1, 1, 1, 0, 0xff000⟩ scatteredPages acceptingDevice).ok = true ∧
      ¬ ∃ blob,
        (chipResourceCreateBlob true ⟨1, 1, 1, 0, 0xff000⟩ scatteredPages acceptingDevice).sent.bind
          readCreateBlob = some blob ∧ FullBacking scatteredPages blob.entries := by
  have hlong : scatteredPages.entries.length = 255 := List.length_replicate
  have hblob : (chipResourceCreateBlob true ⟨1, 1, 1, 0, 0xff000⟩ scatteredPages
      acceptingDevice).ok = true := by
    simp only [chipResourceCreateBlob, if_true]
    decide
  refine ⟨⟨?_, ?_⟩, hblob, ?_⟩
  · simp only [chipResourceAttachBacking]
    decide
  · rintro ⟨entries, hsent, hfull⟩
    rw [attachBacking_sent] at hsent
    obtain ⟨-, rfl⟩ := Prod.mk.inj (Option.some.inj hsent)
    rw [fullBacking_take_iff] at hfull
    omega
  · rintro ⟨blob, hsent, hfull⟩
    rw [createBlob_sent hblob] at hsent
    obtain rfl := Option.some.inj hsent
    rw [fullBacking_take_iff] at hfull
    omega

end VirtIOGPU
