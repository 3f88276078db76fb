import VirtIOGPU.Commands.Encoding

/-!
# From stores to structures: the two models of the backing commands

`chip_ResourceAttachBacking` and `chip_ResourceCreateBlob` are modelled twice.  `Backing` has them
as functions from a list of DMA entries to the bytes of a message, with the structures of the
protocol, and says what the device reads in them.  `Wrappers` has them as programs that store into
the shared command buffer and send what is there, like every other command, and says that nothing
stale is sent.

```text
            Backing                          Wrappers
command     structures, written as a whole   zeros, then one store for each field
entries     `memEntries`, a list             `entryStores`, the loop over `dma_list`
message     `CommandResult.sent`             what is handed to the device
answer      a reply                          what the driver finds in `resp_buf`
```

Here the two are shown to be one: what the program hands to the device is the message of the
function, and it returns what the function returns for the reply that it finds
(`chipResourceAttachBacking_follows`, `chipResourceCreateBlob_follows`).  This is so for every list,
also for one that is clamped.

## Strategy

A list that is too long is cut first, which neither of the two models notices
(`entryStores_cut`, `memEntries_cut`).  What is left fits, and then the bytes of the program are
known field by field: a message is determined by its length and by what a reader finds in it
(`Lib.Layout.eq_of_decode`).  It remains to compare the fields of the layout with those of the
structures, and the memory entries one by one.
-/

namespace VirtIOGPU.Wrappers

open Lib.ByteOrder Lib.Layout

/-! ## Lists that are too long -/

theorem length_cut_lt (dma : DmaList) (n : ℕ) : (dma.entries.take n).length < 2 ^ 32 :=
  (List.length_take_le' _ _).trans_lt dma.length_lt

/-- The first `n` entries. -/
def cut (dma : DmaList) (n : ℕ) : DmaList where
  entries := dma.entries.take n
  length_lt := length_cut_lt dma n

section Cut

variable (dma : DmaList) (maxEntries : UInt32)

theorem clampCount_cut :
    clampCount maxEntries (cut dma maxEntries.toNat).count = clampCount maxEntries dma.count := by
  rw [← UInt32.toNat_inj, clampCount_toNat, clampCount_toNat, DmaList.count_toNat,
    DmaList.count_toNat, cut, List.length_take]
  omega

theorem clampCount_le_max : (clampCount maxEntries dma.count).toNat ≤ maxEntries.toNat := by
  rw [clampCount_toNat]
  exact min_le_right _ _

/-- The loop looks at the first entries only. -/
theorem entryStores_cut {n : ℕ} {count : UInt32} (hcount : count.toNat ≤ n) :
    entryStores (cut dma n) count = entryStores dma count := by
  unfold entryStores
  refine congrArg List.flatten (List.map_congr_left fun i hi => ?_)
  have hlt : i < n := (List.mem_range.mp hi).trans_le hcount
  have hentry : (cut dma n).entries.getD i ⟨0, 0⟩ = dma.entries.getD i ⟨0, 0⟩ := by
    rw [cut, List.getD_eq_getElem?_getD, List.getElem?_take_of_lt hlt,
      List.getD_eq_getElem?_getD]
  simp only [hentry]

theorem memEntries_cut {n : ℕ} {count : UInt32} (hcount : count.toNat ≤ n) :
    memEntries (cut dma n) count = memEntries dma count := by
  rw [memEntries, cut, List.take_take, Nat.min_eq_left hcount, memEntries]

end Cut

/-! ## The bytes of a command -/

section Bytes

variable {device : GpuDevice} {c : Channel}

/-- The reply that the driver finds in `resp_buf`. -/
def replyIn (written : UInt32) (c : Channel) : GpuReply :=
  ⟨written, UInt32.ofNat (ofBE ((bytes c.respBuf (offset ctrlHdr .type) 4).map UInt8.toNat))⟩

theorem responseType_eq (written : UInt32) (c : Channel) :
    (responseType written c).1 = VirtIOGPU.chipGpuSend (replyIn written c) := by
  unfold responseType VirtIOGPU.chipGpuSend replyIn
  split
  · rfl
  · rfl

/-- A wrapper returns what the reply says, whatever it has sent. -/
theorem requestNodata_reply (device : GpuDevice) (l : Struct Field) (stores : List Store)
    (cmdSize : ℕ) (c : Channel) :
    ∃ reply, (requestNodata device l stores cmdSize c).1 =
      decide (VirtIOGPU.chipGpuSend reply = virtioGpuRespOkNodata) := by
  let prepared := (prepare l stores cmdSize (size ctrlHdr) c).2
  let sent := chipDoIo device (fun c => [bytes c.cmdBuf 0 cmdSize]) (size ctrlHdr) prepared
  have hrun : (requestNodata device l stores cmdSize c).1 =
      ((responseType sent.1 sent.2).1 == virtioGpuRespOkNodata) := rfl
  refine ⟨replyIn sent.1 sent.2, ?_⟩
  rw [hrun, responseType_eq]
  rfl

/-- The header, field by field. -/
theorem ctrlHdr_bytes {fields : Field → ℕ} (type : UInt32) (htype : fields .type = type.toNat)
    (hzero : ∀ f ∈ [Field.flags, .fenceId, .ctxId, .ringIdx, .hdrPadding], fields f = 0) :
    (ctrlHdr.flatMap fun entry => toLE entry.2 (fields entry.1)) =
      VirtioGpuCtrlHdr.bytes { type := gp32 type } := by
  have hword : store32 0 = toLE 4 0 := by decide
  have hlong : store64 0 = toLE 8 0 := by decide
  have hring : toLE 1 0 ++ toLE 3 0 = toLE 4 0 := by decide
  simp only [List.mem_cons, List.not_mem_nil, or_false, forall_eq_or_imp, forall_eq] at hzero
  obtain ⟨hflags, hfence, hctx, hidx, hpadding⟩ := hzero
  simp only [ctrlHdr, List.flatMap_cons, List.flatMap_nil, List.append_nil, htype, hflags, hfence,
    hctx, hidx, hpadding, hring, VirtioGpuCtrlHdr.bytes, store32_gp32, hword, hlong,
    List.append_assoc]

/-- The bytes of a memory entry. -/
def entryBytes (entry : DmaEntry) : List ℕ :=
  VirtioGpuMemEntry.bytes ⟨gp64 entry.physicalAddress.toUInt64, gp32 entry.blockLength, 0⟩

theorem entry_bytes {dma : DmaList} {fields : Field → ℕ}
    (hentries : ∀ f, f.isEntry = true → fields f = entryFields dma f) (i : ℕ) :
    ([(Field.entryAddr i, 8), (.entryLength i, 4), (.entryPadding i, 4)].flatMap fun entry =>
      toLE entry.2 (fields entry.1)) = entryBytes (dma.entries.getD i ⟨0, 0⟩) := by
  have haddr := (hentries (.entryAddr i) rfl).trans (entryFields_addr dma i)
  have hlength := (hentries (.entryLength i) rfl).trans (entryFields_length dma i)
  have hpadding : fields (.entryPadding i) = 0 := hentries _ rfl
  have hzero : store32 0 = toLE 4 0 := by decide
  simp only [List.flatMap_cons, List.flatMap_nil, List.append_nil, haddr, hlength, hpadding,
    entryBytes, VirtioGpuMemEntry.bytes, store64_gp64, store32_gp32, hzero,
    UInt32.toNat_toUInt64]

/-- The memory entries, one by one. -/
theorem entries_bytes {dma : DmaList} {fields : Field → ℕ}
    (hentries : ∀ f, f.isEntry = true → fields f = entryFields dma f) :
    ((memEntryArray dma.entries.length).flatMap fun entry => toLE entry.2 (fields entry.1)) =
      dma.entries.flatMap entryBytes := by
  have hlist : (List.range dma.entries.length).map (fun i => dma.entries.getD i ⟨0, 0⟩) =
      dma.entries := by
    apply List.ext_getElem
    · simp
    · intro i hi hi'
      simp [hi']
  calc
    ((memEntryArray dma.entries.length).flatMap fun entry => toLE entry.2 (fields entry.1)) =
        (List.range dma.entries.length).flatMap fun i =>
          entryBytes (dma.entries.getD i ⟨0, 0⟩) := by
      rw [memEntryArray, List.flatMap_assoc]
      exact congrArg List.flatten (List.map_congr_left fun i _ => entry_bytes hentries i)
    _ = ((List.range dma.entries.length).map fun i =>
          dma.entries.getD i ⟨0, 0⟩).flatMap entryBytes := by
      rw [List.flatMap_map]
    _ = dma.entries.flatMap entryBytes := by rw [hlist]

/-- What a command with memory entries that fit hands to the device, and what it returns. -/
theorem entries_follow {struct : Struct Field} {header : List Store} {dma : DmaList}
    {maxEntries headerSize : UInt32} {fields : Field → ℕ}
    (hmax : headerSize.toNat + 16 * maxEntries.toNat ≤ 4096)
    (hsize : size struct = headerSize.toNat) (hfits : dma.entries.length ≤ maxEntries.toNat)
    (hnames : (struct.map Prod.fst).Nodup)
    (hplain : ∀ f ∈ struct.map Prod.fst, f.isEntry = false)
    (hwidths : (header.all fun s => width struct s.field == s.width) = true)
    (hknown : (header.all fun s => (struct.map Prod.fst).contains s.field) = true)
    (hfields : ∀ f, f.isEntry = false →
      assigned (header.map Store.read) (fun _ => 0) f = fields f)
    (hentries : ∀ f, f.isEntry = true → fields f = entryFields dma f)
    (hqueue : c.gs.ctrlQueue = true) :
    let count := clampCount maxEntries dma.count
    let program := requestNodata device (struct ++ memEntryArray count.toNat)
      (header ++ entryStores dma count) (headerSize + 16 * count).toNat
    ∃ command reply,
      (program c).2.handed = ⟨.control, [command], size ctrlHdr⟩ :: c.handed ∧
        command.map UInt8.toNat =
          (struct.flatMap fun entry => toLE entry.2 (fields entry.1)) ++
            dma.entries.flatMap entryBytes ∧
          (program c).1 = decide (VirtIOGPU.chipGpuSend reply = virtioGpuRespOkNodata) := by
  intro count program
  have hmem : ∀ s ∈ header, s.field ∈ struct.map Prod.fst := fun s hs =>
    List.contains_iff_mem.mp (List.all_eq_true.mp hknown s hs)
  -- the list fits, so it is not clamped
  have hcount : count.toNat = dma.entries.length := by
    rw [clampCount_toNat, dma.count_toNat]
    exact Nat.min_eq_left hfits
  have hlength : (headerSize + 16 * count).toNat = size struct + 16 * dma.entries.length := by
    rw [cmdSize_toNat _ _ _ hmax, hcount, hsize]
  let e : Intended := ⟨.control, struct, dma.entries.length, fields, []⟩
  let n := (headerSize + 16 * count).toNat
  let command := bytes (fillIn e.layout (header ++ entryStores dma count) (chipZero n c.cmdBuf)) 0 n
  have hlayout : struct ++ memEntryArray count.toNat = e.layout := by
    rw [hcount]
    rfl
  -- the bytes are the fields, by what a reader finds in them
  have hcarries : Message.Carries ⟨.control, [command], size ctrlHdr⟩ e := by
    refine Message.carries_of_stores (layout_nodup hnames hplain _) ?_ ?_ hlength rfl rfl
    · rw [← hlayout]
      exact widths_entries hwidths hmem hplain
    · exact assigned_entries hcount (fun s hs => hplain _ (hmem s hs)) hfields hentries
  obtain ⟨-, _, hparts, hbytes, hdecode⟩ := hcarries
  obtain rfl : command = _ := (List.cons.inj hparts).1
  obtain ⟨reply, hreply⟩ := requestNodata_reply device e.layout
    (header ++ entryStores dma count) n c
  obtain ⟨-, hhanded⟩ := exchange_handed device c e.layout (header ++ entryStores dma count) n
    (size ctrlHdr) (size ctrlHdr)
  refine ⟨command, reply, ?_, ?_, ?_⟩
  · rw [if_pos hqueue] at hhanded
    simp only [program, hlayout]
    exact hhanded
  · have hall : size e.layout = size struct + 16 * dma.entries.length := by
      rw [Intended.layout, size_append, size_memEntryArray]
    rw [eq_of_decode (hbytes.trans hall.symm) hdecode, Intended.layout, List.flatMap_append,
      entries_bytes hentries]
  · simp only [program, hlayout]
    exact hreply

/-- The message of the function is its structure and all entries that fit. -/
theorem sent_eq {cmd : List ℕ} {dma : DmaList} {maxEntries headerSize : UInt32}
    (hmax : headerSize.toNat + 16 * maxEntries.toNat ≤ 4096)
    (hcmd : cmd.length = headerSize.toNat) :
    (cmd ++ (memEntries dma (clampCount maxEntries dma.count)).flatMap
        VirtioGpuMemEntry.bytes).take
      (headerSize + 16 * clampCount maxEntries dma.count).toNat =
      cmd ++ (cut dma maxEntries.toNat).entries.flatMap entryBytes := by
  have hentries : (memEntries dma (clampCount maxEntries dma.count)).flatMap
      VirtioGpuMemEntry.bytes = (cut dma maxEntries.toNat).entries.flatMap entryBytes := by
    rw [memEntries, take_count, List.flatMap_map]
    rfl
  rw [List.take_of_length_le, hentries]
  rw [List.length_append, hcmd, length_memEntries (clampCount_le maxEntries dma),
    cmdSize_toNat _ _ _ hmax]

/-- The same for any list: the program and the function cut it in the same place. -/
theorem backing_follows {struct : Struct Field} {header : List Store} {dma : DmaList}
    {maxEntries headerSize : UInt32} {fields : Field → ℕ} {cmd : List ℕ}
    (hmax : headerSize.toNat + 16 * maxEntries.toNat ≤ 4096)
    (hsize : size struct = headerSize.toNat) (hnames : (struct.map Prod.fst).Nodup)
    (hplain : ∀ f ∈ struct.map Prod.fst, f.isEntry = false)
    (hwidths : (header.all fun s => width struct s.field == s.width) = true)
    (hknown : (header.all fun s => (struct.map Prod.fst).contains s.field) = true)
    (hfields : ∀ f, f.isEntry = false →
      assigned (header.map Store.read) (fun _ => 0) f = fields f)
    (hentries : ∀ f, f.isEntry = true → fields f = entryFields (cut dma maxEntries.toNat) f)
    (hcmd : (struct.flatMap fun entry => toLE entry.2 (fields entry.1)) = cmd)
    (hlength : cmd.length = headerSize.toNat) (hqueue : c.gs.ctrlQueue = true) :
    let count := clampCount maxEntries dma.count
    let program := requestNodata device (struct ++ memEntryArray count.toNat)
      (header ++ entryStores dma count) (headerSize + 16 * count).toNat
    ∃ command reply,
      (program c).2.handed = ⟨.control, [command], size ctrlHdr⟩ :: c.handed ∧
        (cmd ++ (memEntries dma count).flatMap VirtioGpuMemEntry.bytes).take
            (headerSize + 16 * count).toNat = command.map UInt8.toNat ∧
          (program c).1 = decide (VirtIOGPU.chipGpuSend reply = virtioGpuRespOkNodata) := by
  intro count program
  have hfits : (cut dma maxEntries.toNat).entries.length ≤ maxEntries.toNat :=
    List.length_take_le _ _
  obtain ⟨command, reply, hhanded, hbytes, hreply⟩ :=
    @entries_follow device c struct header _ _ _ _ hmax hsize hfits hnames hplain hwidths hknown
      hfields hentries hqueue
  rw [clampCount_cut, entryStores_cut dma (clampCount_le_max dma maxEntries)] at hhanded hreply
  refine ⟨command, reply, hhanded, ?_, hreply⟩
  rw [sent_eq hmax hlength, hbytes, hcmd]

end Bytes

/-! ## The two commands -/

section Commands

variable {c : Channel}

/-- The fields of `RESOURCE_ATTACH_BACKING`. -/
def attachBackingFields (id : UInt32) (dma : DmaList) : Field → ℕ
  | .type => 0x0106
  | .resourceId => id.toNat
  | .nrEntries => dma.entries.length
  | f => entryFields dma f

/-- The number of entries that are sent is that of the list that has been cut. -/
theorem clampCount_eq_length (dma : DmaList) (maxEntries : UInt32) :
    (clampCount maxEntries dma.count).toNat = (cut dma maxEntries.toNat).entries.length := by
  rw [clampCount_toNat, dma.count_toNat, cut, List.length_take, Nat.min_comm]

/-- The program hands the device the message of the function and returns what it returns. -/
theorem chipResourceAttachBacking_follows (device : GpuDevice) (id : UInt32) (dma : DmaList)
    (hqueue : c.gs.ctrlQueue = true) :
    ∃ command reply,
      (chipResourceAttachBacking device id dma c).2.handed =
          ⟨.control, [command], size ctrlHdr⟩ :: c.handed ∧
        VirtIOGPU.chipResourceAttachBacking id dma (fun _ => reply) =
          ⟨some (command.map UInt8.toNat), (chipResourceAttachBacking device id dma c).1⟩ := by
  let count := clampCount attachBackingMax dma.count
  let fields := attachBackingFields id (cut dma attachBackingMax.toNat)
  let cmd : VirtioGpuResourceAttachBacking := ⟨{ type := gp32 0x0106 }, gp32 id, gp32 count⟩
  have hcount : count.toNat = _ := clampCount_eq_length dma attachBackingMax
  -- the stores of the program are the fields of the structure
  have hfields : ∀ f, f.isEntry = false → assigned
      ([set32 .type 0x0106, set32 .resourceId id, set32 .nrEntries count].map Store.read)
      (fun _ => 0) f = fields f := by
    intro f hf
    simp only [List.map_cons, List.map_nil, read_set32, hcount]
    cases f <;> first | rfl | cases hf
  have hentries : ∀ f, f.isEntry = true →
      fields f = entryFields (cut dma attachBackingMax.toNat) f := by
    intro f hf
    cases f <;> first | rfl | cases hf
  have hcmd : (resourceAttachBacking.flatMap fun entry => toLE entry.2 (fields entry.1)) =
      cmd.bytes := by
    have hzero : ∀ f ∈ [Field.flags, .fenceId, .ctxId, .ringIdx, .hdrPadding], fields f = 0 := by
      simp [fields, attachBackingFields, entryFields]
    rw [resourceAttachBacking, List.flatMap_append, ctrlHdr_bytes 0x0106 rfl hzero,
      VirtioGpuResourceAttachBacking.bytes, store32_gp32, store32_gp32, hcount]
    simp [fields, attachBackingFields, cmd]
  obtain ⟨command, reply, hhanded, hsent, hreply⟩ := @backing_follows device c resourceAttachBacking
    _ dma attachBackingMax 32 fields cmd.bytes (by decide) (by decide) (by decide) (by decide) rfl
    rfl hfields hentries hcmd (by simp [VirtioGpuResourceAttachBacking.bytes]) hqueue
  refine ⟨command, reply, hhanded, ?_⟩
  calc
    VirtIOGPU.chipResourceAttachBacking id dma (fun _ => reply) =
        ⟨some ((cmd.bytes ++ (memEntries dma count).flatMap VirtioGpuMemEntry.bytes).take
            (32 + 16 * count).toNat),
          decide (VirtIOGPU.chipGpuSend reply = virtioGpuRespOkNodata)⟩ := rfl
    _ = ⟨some (command.map UInt8.toNat), (chipResourceAttachBacking device id dma c).1⟩ := by
      rw [hsent, ← hreply]
      rfl

/-- So the device reads the resource and the entries that fit. -/
theorem chipResourceAttachBacking_read (device : GpuDevice) (id : UInt32) (dma : DmaList)
    (hqueue : c.gs.ctrlQueue = true) :
    ∃ command,
      (chipResourceAttachBacking device id dma c).2.handed =
          ⟨.control, [command], size ctrlHdr⟩ :: c.handed ∧
        readAttachBacking (command.map UInt8.toNat) =
          some (id.toNat, (dma.entries.take 254).map DmaEntry.memory) := by
  obtain ⟨command, reply, hhanded, hfunction⟩ := chipResourceAttachBacking_follows device id dma
    hqueue
  have hread := attachBacking_sent id dma fun _ => reply
  rw [hfunction] at hread
  exact ⟨command, hhanded, hread⟩

/-- The fields of `RESOURCE_CREATE_BLOB`. -/
def createBlobFields (args : BlobArgs) (dma : DmaList) : Field → ℕ
  | .type => 0x010D
  | .resourceId => args.resourceId.toNat
  | .blobMem => args.blobMem.toNat
  | .blobFlags => args.blobFlags.toNat
  | .nrEntries => dma.entries.length
  | .blobId => args.blobId.toNat
  | .size => args.size.toNat
  | f => entryFields dma f

/-- `chip_ResourceCreateBlob` behind the check of `has_blob`. -/
def createBlob (device : GpuDevice) (args : BlobArgs) (dma : DmaList) : GpuM Bool :=
  let dmaCount := clampCount createBlobMax dma.count
  requestNodata device (resourceCreateBlob ++ memEntryArray dmaCount.toNat)
    ([set32 .type 0x010D, set32 .resourceId args.resourceId, set32 .blobMem args.blobMem,
        set32 .blobFlags args.blobFlags, set32 .nrEntries dmaCount, set64 .blobId args.blobId,
        set64 .size args.size] ++ entryStores dma dmaCount)
    (56 + 16 * dmaCount).toNat

theorem chipResourceCreateBlob_eq (device : GpuDevice) (args : BlobArgs) (dma : DmaList) :
    chipResourceCreateBlob device args dma c =
      if c.gs.hasBlob = true then createBlob device args dma c else (false, c) := by
  have hrun : chipResourceCreateBlob device args dma c =
      (if c.gs.hasBlob = true then createBlob device args dma else pure false : GpuM Bool) c := rfl
  rw [hrun]
  split
  · rfl
  · rfl

/-- Where the host has no blobs, neither sends anything. -/
theorem chipResourceCreateBlob_refused (device : GpuDevice) (args : BlobArgs) (dma : DmaList)
    (hblob : c.gs.hasBlob = false) (answer : List ℕ → GpuReply) :
    (chipResourceCreateBlob device args dma c).2.handed = c.handed ∧
      VirtIOGPU.chipResourceCreateBlob c.gs.hasBlob args dma answer =
        ⟨none, (chipResourceCreateBlob device args dma c).1⟩ := by
  rw [chipResourceCreateBlob_eq, hblob]
  exact ⟨rfl, rfl⟩

theorem chipResourceCreateBlob_follows (device : GpuDevice) (args : BlobArgs) (dma : DmaList)
    (hblob : c.gs.hasBlob = true) (hqueue : c.gs.ctrlQueue = true) :
    ∃ command reply,
      (chipResourceCreateBlob device args dma c).2.handed =
          ⟨.control, [command], size ctrlHdr⟩ :: c.handed ∧
        VirtIOGPU.chipResourceCreateBlob c.gs.hasBlob args dma (fun _ => reply) =
          ⟨some (command.map UInt8.toNat), (chipResourceCreateBlob device args dma c).1⟩ := by
  let count := clampCount createBlobMax dma.count
  let fields := createBlobFields args (cut dma createBlobMax.toNat)
  let cmd : VirtioGpuResourceCreateBlob :=
    ⟨{ type := gp32 0x010D }, gp32 args.resourceId, gp32 args.blobMem, gp32 args.blobFlags,
      gp32 count, gp64 args.blobId, gp64 args.size⟩
  have hcount : count.toNat = _ := clampCount_eq_length dma createBlobMax
  -- the stores of the program are the fields of the structure
  have hfields : ∀ f, f.isEntry = false → assigned
      ([set32 .type 0x010D, set32 .resourceId args.resourceId, set32 .blobMem args.blobMem,
        set32 .blobFlags args.blobFlags, set32 .nrEntries count, set64 .blobId args.blobId,
        set64 .size args.size].map Store.read) (fun _ => 0) f = fields f := by
    intro f hf
    simp only [List.map_cons, List.map_nil, read_set32, read_set64, hcount]
    cases f <;> first | rfl | cases hf
  have hentries : ∀ f, f.isEntry = true →
      fields f = entryFields (cut dma createBlobMax.toNat) f := by
    intro f hf
    cases f <;> first | rfl | cases hf
  have hcmd : (resourceCreateBlob.flatMap fun entry => toLE entry.2 (fields entry.1)) =
      cmd.bytes := by
    have hzero : ∀ f ∈ [Field.flags, .fenceId, .ctxId, .ringIdx, .hdrPadding], fields f = 0 := by
      simp [fields, createBlobFields, entryFields]
    rw [resourceCreateBlob, List.flatMap_append, ctrlHdr_bytes 0x010D rfl hzero,
      VirtioGpuResourceCreateBlob.bytes]
    simp [fields, createBlobFields, cmd, store32_gp32, store64_gp64, hcount]
  obtain ⟨command, reply, hhanded, hsent, hreply⟩ := @backing_follows device c resourceCreateBlob
    _ dma createBlobMax 56 fields cmd.bytes (by decide) (by decide) (by decide) (by decide) rfl
    rfl hfields hentries hcmd (by simp [VirtioGpuResourceCreateBlob.bytes]) hqueue
  rw [chipResourceCreateBlob_eq, hblob, if_pos rfl]
  refine ⟨command, reply, hhanded, ?_⟩
  calc
    VirtIOGPU.chipResourceCreateBlob true args dma (fun _ => reply) =
        ⟨some ((cmd.bytes ++ (memEntries dma count).flatMap VirtioGpuMemEntry.bytes).take
            (56 + 16 * count).toNat),
          decide (VirtIOGPU.chipGpuSend reply = virtioGpuRespOkNodata)⟩ := rfl
    _ = ⟨some (command.map UInt8.toNat), (createBlob device args dma c).1⟩ := by
      rw [hsent, ← hreply]
      rfl

end Commands

end VirtIOGPU.Wrappers
