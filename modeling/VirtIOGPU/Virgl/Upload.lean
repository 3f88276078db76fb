import VirtIOGPU.Virgl.Overflow

/-!
# Uploading a texture

`chip_comp_upload_pixels_32bpp` sends the pixels of a bitmap in strips, one inline write in each
submission.  The height of a strip, the size of the command buffer and the length in the header are
computed from one another; for every bitmap of up to 1024 by 1024 pixels the strips cover its rows,
and nothing is dropped (`pixels_uploaded`).

An address is a `UInt32`, and `load` gives the word at it.

## Strategy

```text
quantity       computed as                         bound that is used
maxRows        what fits in the length field       at least one row (`Valid.maxRows`)
cbufSize       header and one strip                no word is dropped (`Valid.cbufSize`)
rowsThis       maxRows, or what is left            the strips end at the last row
```

`Strip.Whole` is one strip: a whole packet with the pixels of its rows.  `strips_spec` is by
induction on the rows that are left; its cases are a strip that is sent (`Uploaded.cons`), no rows
left (`Uploaded.nil`) and a submission that fails (`Uploaded.failed`).  The buffer is released on
all three.
-/

namespace VirtIOGPU.Virgl

open Lib.Packets
open Wrappers

/-! ## The code -/

/-- The arguments of `chip_comp_upload_pixels_32bpp`. -/
structure UploadRequest where
  res : UInt32
  src : UInt32
  srcBpr : UInt32
  x : UInt32
  y : UInt32
  w : UInt32
  h : UInt32

/-- A submission: the first row and the rows of the strip, the words in the command buffer, and the
result. -/
structure Strip where
  first : UInt32
  rows : UInt32
  words : List UInt32
  ok : Bool

structure UploadState where
  virgl : VirglState
  /-- The blocks of memory that have not been freed. -/
  held : ℕ
  strips : List Strip

/-- `max_rows`. -/
def UploadRequest.maxRows (r : UploadRequest) : UInt32 :=
  let maxRows := 15000 / r.w
  let maxRows := if maxRows = 0 then 1 else maxRows
  if maxRows > r.h then r.h else maxRows

/-- `rows_this`. -/
def UploadRequest.rowsThis (r : UploadRequest) (rowsDone : UInt32) : UInt32 :=
  let rowsThis := r.h - rowsDone
  if rowsThis > r.maxRows then r.maxRows else rowsThis

/-- `cbuf_size`. -/
def UploadRequest.cbufSize (r : UploadRequest) : UInt32 :=
  let cbufSize := 12 + r.w * r.maxRows + 16
  if cbufSize > 16000 then 16000 else cbufSize

theorem UploadRequest.cbufSize_inMemory (r : UploadRequest) : r.cbufSize.toNat ≤ 2 ^ 30 := by
  have hle : r.cbufSize ≤ 16000 := by
    simp only [UploadRequest.cbufSize]
    split
    · exact UInt32.le_refl _
    · next h => exact UInt32.not_lt.mp h
  exact (UInt32.le_iff_toNat_le.mp hle).trans (by decide)

/-- `row_src[col]`, for a row of the bitmap. -/
def UploadRequest.pixel (load : UInt32 → UInt32) (r : UploadRequest) (row col : UInt32) : UInt32 :=
  load (r.src + row * r.srcBpr + 4 * col)

/-- The header and the pixels of a strip. -/
def emitStrip (load : UInt32 → UInt32) (r : UploadRequest) (rowsDone rowsThis : UInt32) :
    Encoder := do
  let dataWords := r.w * rowsThis
  let payloadLen := 11 + dataWords
  emitDword (virglCmdHdr 9 0 payloadLen)
  emitInlineBox ⟨r.res, 0, 0, r.w * 4, 0, r.x, r.y + rowsDone, 0, r.w, rowsThis, 1⟩
  (List.range rowsThis.toNat).forM fun row =>
    (List.range r.w.toNat).forM fun col =>
      emitDword (r.pixel load (rowsDone + UInt32.ofNat row) (UInt32.ofNat col))

/-- `virgl_submit`, with a note of the strip. -/
def submitStrip (device : GpuDevice) (ctxId first rows : UInt32) (cbuf : VirglCmdBuf) :
    StateM UploadState (Bool × VirglCmdBuf) := fun st =>
  let submitted := virglSubmit device ctxId cbuf st.virgl
  (submitted.1, { st with
    virgl := submitted.2
    strips := st.strips ++ [⟨first, rows, cbuf.contents, submitted.1.1⟩] })

/-- The loop over the strips; the first argument is how often it may still run. -/
def uploadStrips (device : GpuDevice) (ctxId : UInt32) (load : UInt32 → UInt32)
    (r : UploadRequest) : ℕ → UInt32 → (ℕ → UInt32) → StateM UploadState Bool
  | 0, _, _ => pure true
  | fuel + 1, rowsDone, cmdWords =>
    if rowsDone < r.h then do
      let rowsThis := r.rowsThis rowsDone
      let cbuf := virglCmdInit cmdWords r.cbufSize r.cbufSize_inMemory
      let cbuf := (emitStrip load r rowsDone rowsThis cbuf).2
      let (ok, cbuf) ← submitStrip device ctxId rowsDone rowsThis cbuf
      if ok then uploadStrips device ctxId load r fuel (rowsDone + rowsThis) cbuf.buf
      else return false
    else return true

/-- `chip_comp_upload_pixels_32bpp`; `alloc` is the memory that `AllocVecTags` returns, as it finds
it. -/
def chipCompUploadPixels32bpp (device : GpuDevice) (ctxId : UInt32) (load : UInt32 → UInt32)
    (alloc : Option (ℕ → UInt32)) (r : UploadRequest) : StateM UploadState Bool := do
  match alloc with
  | none => return false
  | some cmdWords =>
    modify fun st => { st with held := st.held + 1 }
    let ok ← uploadStrips device ctxId load r r.h.toNat 0 cmdWords
    modify fun st => { st with held := st.held - 1 }
    return ok

/-! ## What it should do -/

/-- The words of a strip: a packet with the pixels of its rows. -/
def Strip.packet (load : UInt32 → UInt32) (r : UploadRequest) (s : Strip) : Packet UInt32 :=
  ⟨virglCmdHdr 9 0 (11 + r.w * s.rows),
    InlineBox.words ⟨r.res, 0, 0, r.w * 4, 0, r.x, r.y + s.first, 0, r.w, s.rows, 1⟩ ++
      (List.range s.rows.toNat).flatMap fun row => (List.range r.w.toNat).map fun col =>
        load (r.src + UInt32.ofNat ((s.first.toNat + row) * r.srcBpr.toNat + 4 * col))⟩

/-- The strip is a whole packet that fits a submission. -/
structure Strip.Whole (load : UInt32 → UInt32) (r : UploadRequest) (s : Strip) : Prop where
  words : s.words = (s.packet load r).words
  framed : (s.packet load r).Framed lengthOf
  size : 4 * s.words.length ≤ 65536

/-- The rows of a strip. -/
def Strip.span (s : Strip) : List ℕ := List.range' s.first.toNat s.rows.toNat

/-- Strips for the rows from `start` on; `done` says that all have been sent. -/
structure Uploaded (load : UInt32 → UInt32) (r : UploadRequest) (start : ℕ) (strips : List Strip)
    (done : Bool) : Prop where
  whole : ∀ s ∈ strips, s.Whole load r
  /-- The rows follow each other. -/
  rows : ∃ count, start + count ≤ r.h.toNat ∧
    strips.flatMap Strip.span = List.range' start count ∧ (done = true → start + count = r.h.toNat)
  /-- Only the last submission can have failed. -/
  stops : ∀ s ∈ strips.dropLast, s.ok = true
  done_iff : done = true ↔ ∀ s ∈ strips, s.ok = true

/-- The messages for the device are the strips. -/
def SentAs (strips : List Strip) (before after : VirglState) : Prop :=
  ∃ sent, after.channel.handed = sent ++ before.channel.handed ∧
    sent.reverse.map (fun message => readWords (streamOf message)) =
      strips.map fun s => some s.words

/-! ## Sizes -/

section

variable {load : UInt32 → UInt32} {r : UploadRequest}

/-- The bitmaps that are uploaded. -/
structure UploadRequest.Valid (r : UploadRequest) : Prop where
  width_pos : 0 < r.w.toNat
  width_le : r.w.toNat ≤ 1024
  height_pos : 0 < r.h.toNat
  height_le : r.h.toNat ≤ 1024

/-- At least one row, and no more than 15000 pixels. -/
theorem UploadRequest.Valid.maxRows (h : r.Valid) :
    0 < r.maxRows.toNat ∧ r.maxRows.toNat ≤ r.h.toNat ∧
      r.w.toNat * r.maxRows.toNat ≤ 15000 := by
  have hquotient : (15000 / r.w : UInt32).toNat = 15000 / r.w.toNat := UInt32.toNat_div _ _
  have hfew : r.w.toNat * (15000 / r.w.toNat) ≤ 15000 := Nat.mul_div_le _ _
  have hsome : 0 < 15000 / r.w.toNat :=
    Nat.div_pos (h.width_le.trans (by decide)) h.width_pos
  have hne : ¬ (15000 / r.w : UInt32) = 0 := by
    rw [← UInt32.toNat_inj, hquotient]
    exact hsome.ne'
  simp only [UploadRequest.maxRows, if_neg hne, gt_iff_lt, UInt32.lt_iff_toNat_lt, hquotient]
  split
  · next hmany =>
    refine ⟨h.height_pos, Nat.le_refl _, ?_⟩
    exact (Nat.mul_le_mul_left _ hmany.le).trans hfew
  · next hmany =>
    rw [hquotient]
    exact ⟨hsome, Nat.le_of_not_lt hmany, hfew⟩

/-- A strip and some space. -/
theorem UploadRequest.Valid.cbufSize (h : r.Valid) :
    r.cbufSize.toNat = 12 + r.w.toNat * r.maxRows.toNat + 16 := by
  obtain ⟨-, -, hfew⟩ := h.maxRows
  have hsum : (12 + r.w * r.maxRows + 16).toNat = 12 + r.w.toNat * r.maxRows.toNat + 16 := by
    rw [UInt32.toNat_add, UInt32.toNat_add, UInt32.toNat_mul]
    change ((12 + r.w.toNat * r.maxRows.toNat % 2 ^ 32) % 2 ^ 32 + 16) % 2 ^ 32 = _
    omega
  have hsmall : ¬ 12 + r.w * r.maxRows + 16 > 16000 := by
    rw [gt_iff_lt, UInt32.lt_iff_toNat_lt, hsum]
    change ¬ 16000 < _
    omega
  simp only [UploadRequest.cbufSize, if_neg hsmall, hsum]

/-! ## One strip -/

theorem emitStrip_emits (rowsDone rowsThis : UInt32) (ok : Bool) :
    Emits (emitStrip load r rowsDone rowsThis)
      (Strip.packet load r ⟨rowsDone, rowsThis, [], ok⟩).words := by
  refine Emits.cons <| Emits.bind (emitInlineBox_emits _) (Emits.forM (fun row => ?_) _)
  have hpixel (col : ℕ) :
      r.pixel load (rowsDone + UInt32.ofNat row) (UInt32.ofNat col) =
        load (r.src +
          UInt32.ofNat ((rowsDone.toNat + row) * r.srcBpr.toNat + 4 * col)) := by
    simp only [UploadRequest.pixel, UInt32.ofNat_add, UInt32.ofNat_mul, UInt32.ofNat_toNat,
      UInt32.add_assoc]
    rfl
  simp only [hpixel]
  exact Emits.dwords _ _

theorem length_payload (s : Strip) :
    (s.packet load r).payload.length = 11 + r.w.toNat * s.rows.toNat := by
  have hpixels : ((List.range s.rows.toNat).flatMap fun row =>
      (List.range r.w.toNat).map fun col => load (r.src +
        UInt32.ofNat ((s.first.toNat + row) * r.srcBpr.toNat + 4 * col))).length =
      s.rows.toNat * r.w.toNat := by
    rw [length_flatMap_const fun row => by rw [List.length_map, List.length_range],
      List.length_range]
  rw [Strip.packet, List.length_append, hpixels, Nat.mul_comm]
  rfl

/-- A strip of at most `max_rows` rows fits the command buffer, and its header counts it. -/
theorem UploadRequest.Valid.whole (h : r.Valid) {s : Strip} (hrows : s.rows.toNat ≤ r.maxRows.toNat)
    {cmdWords : ℕ → UInt32}
    (hwords : s.words = (emitStrip load r s.first s.rows
      (virglCmdInit cmdWords r.cbufSize r.cbufSize_inMemory)).2.contents) :
    s.Whole load r := by
  obtain ⟨-, -, hfew⟩ := h.maxRows
  have hpixels : r.w.toNat * s.rows.toNat ≤ r.w.toNat * r.maxRows.toNat :=
    Nat.mul_le_mul_left _ hrows
  have hlength : (s.packet load r).words.length = 12 + r.w.toNat * s.rows.toNat := by
    rw [Packet.words, List.length_cons, length_payload]
    omega
  have hall : s.words = (s.packet load r).words := by
    rw [hwords, emitStrip_emits s.first s.rows s.ok, (contents_emitAll _ _).2]
    change (Packet.words _).take r.cbufSize.toNat = _
    apply List.take_of_length_le
    rw [h.cbufSize]
    change (s.packet load r).words.length ≤ _
    omega
  refine ⟨hall, ?_, ?_⟩
  · have hheader : (virglCmdHdr 9 0 (11 + r.w * s.rows)).toNat =
        (11 + r.w.toNat * s.rows.toNat) * 65536 + (0 * 256 + 9) := by
      have hcount : 11 + r.w * s.rows = UInt32.ofNat (11 + r.w.toNat * s.rows.toNat) := by
        rw [UInt32.ofNat_add, UInt32.ofNat_mul, UInt32.ofNat_toNat, UInt32.ofNat_toNat]
        rfl
      rw [hcount]
      exact toNat_virglCmdHdr (by decide) (by decide) (by omega)
    change lengthOf (virglCmdHdr 9 0 (11 + r.w * s.rows)) = _
    rw [length_payload, lengthOf, hheader]
    omega
  · rw [hall, hlength]
    omega

/-! ## The loop -/

/-- What is sent when the submission has succeeded. -/
theorem submit_sentAs {device : GpuDevice} {ctxId : UInt32} {cbuf : VirglCmdBuf}
    {gs : VirglState} (first rows : UInt32) (hsome : cbuf.dwords ≠ 0)
    (hok : (virglSubmit device ctxId cbuf gs).1.1 = true) :
    SentAs [⟨first, rows, cbuf.contents, true⟩] gs (virglSubmit device ctxId cbuf gs).2 := by
  have hgo : ¬ Stopped cbuf.dwords gs := by
    intro hstop
    rw [(virglSubmit_stopped device ctxId hsome hstop).1] at hok
    cases hok
  obtain ⟨message, hsent, hwords⟩ := virglSubmit_sends device ctxId hsome hgo
  exact ⟨[message], hsent, congrArg (fun words => [words]) hwords⟩

theorem SentAs.trans {first second : List Strip} {a b c : VirglState} (h : SentAs first a b)
    (h' : SentAs second b c) : SentAs (first ++ second) a c := by
  obtain ⟨sent, hsent, hwords⟩ := h
  obtain ⟨sent', hsent', hwords'⟩ := h'
  refine ⟨sent' ++ sent, ?_, ?_⟩
  · rw [hsent', hsent, List.append_assoc]
  · rw [List.reverse_append, List.map_append, List.map_append, hwords, hwords']

/-- The rows of the next strip. -/
theorem UploadRequest.Valid.next_rows (h : r.Valid) {rowsDone : UInt32}
    (hmore : rowsDone < r.h) :
    let rowsThis := r.rowsThis rowsDone
    0 < rowsThis.toNat ∧ rowsThis.toNat ≤ r.maxRows.toNat ∧
      rowsDone.toNat + rowsThis.toNat ≤ r.h.toNat ∧
      (rowsDone + rowsThis).toNat = rowsDone.toNat + rowsThis.toNat := by
  intro rowsThis
  obtain ⟨hpos, hle, -⟩ := h.maxRows
  rw [UInt32.lt_iff_toNat_lt] at hmore
  have hlt := r.h.toNat_lt
  have hleft : (r.h - rowsDone).toNat = r.h.toNat - rowsDone.toNat :=
    UInt32.toNat_sub_of_le _ _ (UInt32.le_iff_toNat_le.mpr hmore.le)
  have hbounds : 0 < rowsThis.toNat ∧ rowsThis.toNat ≤ r.maxRows.toNat ∧
      rowsDone.toNat + rowsThis.toNat ≤ r.h.toNat := by
    simp only [rowsThis, UploadRequest.rowsThis, gt_iff_lt, UInt32.lt_iff_toNat_lt, hleft]
    split
    · next hmany => omega
    · next hmany => rw [hleft]; omega
  obtain ⟨hsome, hfew, hinside⟩ := hbounds
  refine ⟨hsome, hfew, hinside, ?_⟩
  rw [UInt32.toNat_add, Nat.mod_eq_of_lt (by omega)]

/-- A strip before others. -/
theorem Uploaded.cons {start : ℕ} {s : Strip} {strips : List Strip} {done : Bool}
    (hwhole : s.Whole load r) (hok : s.ok = true) (hstart : s.first.toNat = start)
    (h : Uploaded load r (start + s.rows.toNat) strips done) :
    Uploaded load r start (s :: strips) done := by
  obtain ⟨hstrips, ⟨count, hinside, hrows, hlast⟩, hstops, hdone⟩ := h
  refine ⟨?_, ⟨s.rows.toNat + count, by omega, ?_, fun hd => ?_⟩, ?_, ?_⟩
  · intro other hother
    rcases List.mem_cons.mp hother with rfl | hlater
    · exact hwhole
    · exact hstrips other hlater
  · rw [List.flatMap_cons, hrows, Strip.span, hstart]
    exact List.range'_append_1
  · have hall := hlast hd
    omega
  · intro other hother
    cases strips with
    | nil => cases hother
    | cons next rest =>
        rcases List.mem_cons.mp hother with rfl | hlater
        · exact hok
        · exact hstops other hlater
  · rw [hdone]
    constructor
    · intro hall other hother
      rcases List.mem_cons.mp hother with rfl | hlater
      · exact hok
      · exact hall other hlater
    · exact fun hall other hother => hall other (List.mem_cons_of_mem _ hother)

theorem Uploaded.nil {start : ℕ} (hall : start = r.h.toNat) : Uploaded load r start [] true :=
  ⟨fun _ hs => absurd hs List.not_mem_nil, ⟨0, hall.le, rfl, fun _ => hall⟩,
    fun _ hs => absurd hs List.not_mem_nil,
    ⟨fun _ _ hs => absurd hs List.not_mem_nil, fun _ => rfl⟩⟩

/-- A strip whose submission has failed. -/
theorem Uploaded.failed {s : Strip} (hwhole : s.Whole load r) (hfail : s.ok = false)
    (hinside : s.first.toNat + s.rows.toNat ≤ r.h.toNat) :
    Uploaded load r s.first.toNat [s] false where
  whole other hother := by
    rw [List.mem_singleton.mp hother]
    exact hwhole
  rows := ⟨s.rows.toNat, hinside, List.append_nil _, fun hd => absurd hd Bool.false_ne_true⟩
  stops _ hs := absurd hs List.not_mem_nil
  done_iff := by
    refine ⟨fun hd => absurd hd Bool.false_ne_true, fun hall => ?_⟩
    rw [← hall s (List.mem_singleton_self s), hfail]

section Loop

variable {device : GpuDevice} {ctxId : UInt32} {fuel : ℕ} {rowsDone : UInt32}
  {cmdWords : ℕ → UInt32} {st : UploadState}

/-- The command buffer of the next strip. -/
def stripBuf (load : UInt32 → UInt32) (r : UploadRequest) (rowsDone : UInt32)
    (cmdWords : ℕ → UInt32) : VirglCmdBuf :=
  (emitStrip load r rowsDone (r.rowsThis rowsDone)
    (virglCmdInit cmdWords r.cbufSize r.cbufSize_inMemory)).2

theorem uploadStrips_more (hmore : rowsDone < r.h) :
    let rowsThis := r.rowsThis rowsDone
    let cbuf := stripBuf load r rowsDone cmdWords
    let submitted := virglSubmit device ctxId cbuf st.virgl
    let st' : UploadState :=
      ⟨submitted.2, st.held, st.strips ++ [⟨rowsDone, rowsThis, cbuf.contents, submitted.1.1⟩]⟩
    uploadStrips device ctxId load r (fuel + 1) rowsDone cmdWords st =
      if submitted.1.1 then
        uploadStrips device ctxId load r fuel (rowsDone + rowsThis) submitted.1.2.buf st'
      else (false, st') := by
  intro rowsThis cbuf submitted st'
  rw [uploadStrips, if_pos hmore]
  change (if submitted.1.1 then uploadStrips device ctxId load r fuel (rowsDone + rowsThis)
    submitted.1.2.buf else pure false : StateM UploadState Bool) st' = _
  split
  · rfl
  · rfl

/-- From row `rowsDone` on. -/
theorem UploadRequest.Valid.strips_spec (h : r.Valid) (hinside : rowsDone.toNat ≤ r.h.toNat)
    (hfuel : r.h.toNat ≤ rowsDone.toNat + fuel) :
    let result := uploadStrips device ctxId load r fuel rowsDone cmdWords st
    result.2.held = st.held ∧ ∃ strips, result.2.strips = st.strips ++ strips ∧
      Uploaded load r rowsDone.toNat strips result.1 ∧
      (result.1 = true → SentAs strips st.virgl result.2.virgl) := by
  induction fuel generalizing rowsDone cmdWords st with
  | zero =>
      -- all rows are done
      have hall : rowsDone.toNat = r.h.toNat := by omega
      exact ⟨rfl, [], (List.append_nil _).symm, .nil hall, fun _ => ⟨[], rfl, rfl⟩⟩
  | succ fuel ih =>
      by_cases hmore : rowsDone < r.h
      · obtain ⟨hsome, hfew, hlast, hnext⟩ := h.next_rows hmore
        -- one strip, and the rest of them when it has been submitted
        let cbuf := stripBuf load r rowsDone cmdWords
        let submitted := virglSubmit device ctxId cbuf st.virgl
        let s : Strip := ⟨rowsDone, r.rowsThis rowsDone, cbuf.contents, submitted.1.1⟩
        have hrun := @uploadStrips_more load r device ctxId fuel rowsDone cmdWords st hmore
        have hwhole : s.Whole load r := h.whole hfew rfl
        by_cases hok : submitted.1.1 = true
        · obtain ⟨hheld, strips, hstrips, huploaded, hsent⟩ :=
            @ih (rowsDone + r.rowsThis rowsDone) submitted.1.2.buf
              ⟨submitted.2, st.held, st.strips ++ [s]⟩ (by omega) (by omega)
          rw [hrun.trans (if_pos hok)]
          refine ⟨hheld, s :: strips, ?_, ?_, fun hdone => ?_⟩
          · rw [hstrips, List.append_assoc, List.singleton_append]
          · rw [hnext] at huploaded
            exact .cons hwhole hok rfl huploaded
          · have hdwords : cbuf.dwords ≠ 0 := by
              intro hzero
              have hlength := cbuf.length_contents
              rw [show cbuf.contents = (s.packet load r).words from hwhole.words, hzero] at hlength
              cases hlength
            have hfirst := submit_sentAs rowsDone (r.rowsThis rowsDone) hdwords hok
            have hs : s = ⟨rowsDone, r.rowsThis rowsDone, cbuf.contents, true⟩ := by
              rw [← hok]
            rw [← hs] at hfirst
            exact hfirst.trans (hsent hdone)
        · rw [hrun.trans (if_neg hok)]
          exact ⟨rfl, [s], rfl, .failed hwhole (Bool.not_eq_true _ ▸ hok) hlast,
            fun hdone => absurd hdone Bool.false_ne_true⟩
      · have hall : rowsDone.toNat = r.h.toNat :=
          Nat.le_antisymm hinside (UInt32.le_iff_toNat_le.mp (UInt32.not_lt.mp hmore))
        have hrun :
            uploadStrips device ctxId load r (fuel + 1) rowsDone cmdWords st = (true, st) := by
          rw [uploadStrips, if_neg hmore]
          rfl
        rw [hrun]
        exact ⟨rfl, [], (List.append_nil _).symm, .nil hall, fun _ => ⟨[], rfl, rfl⟩⟩

end Loop

end

/-! ## The result -/

/-- For every bitmap of up to 1024 by 1024 pixels and all replies: every strip is a whole packet of
at most 65536 bytes with the pixels of its rows; no strip is sent after one whose submission has
failed; the result is `TRUE` if and only if there was memory and all submissions have succeeded, and
then the strips cover the rows in order and are what the device gets.  The memory is freed in every
case. -/
theorem pixels_uploaded (device : GpuDevice) (ctxId : UInt32) (load : UInt32 → UInt32)
    (alloc : Option (ℕ → UInt32)) (r : UploadRequest) (h : r.Valid) (st : UploadState) :
    let result := chipCompUploadPixels32bpp device ctxId load alloc r st
    result.2.held = st.held ∧ ∃ strips, result.2.strips = st.strips ++ strips ∧
      (∀ s ∈ strips, s.Whole load r) ∧ (∀ s ∈ strips.dropLast, s.ok = true) ∧
      (result.1 = true ↔ alloc ≠ none ∧ ∀ s ∈ strips, s.ok = true) ∧
      (result.1 = true → strips.flatMap Strip.span = List.range r.h.toNat ∧
        SentAs strips st.virgl result.2.virgl) := by
  cases alloc with
  | none =>
      exact ⟨rfl, [], (List.append_nil _).symm, fun _ hs => absurd hs List.not_mem_nil,
        fun _ hs => absurd hs List.not_mem_nil,
        ⟨fun hok => absurd hok Bool.false_ne_true, fun hsome => absurd rfl hsome.1⟩,
        fun hok => absurd hok Bool.false_ne_true⟩
  | some cmdWords =>
      obtain ⟨hheld, strips, hstrips, ⟨hwhole, ⟨count, -, hrows, hlast⟩, hstops, hdone⟩, hsent⟩ :=
        @UploadRequest.Valid.strips_spec load r device ctxId r.h.toNat 0 cmdWords
          { st with held := st.held + 1 } h (Nat.zero_le _) (Nat.le_add_left _ _)
      refine ⟨congrArg (· - 1) hheld, strips, hstrips, hwhole, hstops, ?_, fun hok => ⟨?_, ?_⟩⟩
      · exact hdone.trans ⟨fun hall => ⟨Option.some_ne_none _, hall⟩, And.right⟩
      · have hcount : 0 + count = r.h.toNat := hlast hok
        rw [hrows, ← hcount, Nat.zero_add, List.range_eq_range']
        rfl
      · exact hsent hok

/-- Two rows of two pixels, with two words of padding in each row. -/
theorem pixels_uploaded_small :
    let r : UploadRequest := ⟨5, 0x1000, 16, 0, 0, 2, 2⟩
    let st : UploadState := ⟨⟨.filled { ChannelFields.bare with cmd3dBuf := true } 0, false⟩, 0, []⟩
    let result := chipCompUploadPixels32bpp accepting 1 id (some fun _ => 0) r st
    result.1 = true ∧ result.2.strips.flatMap Strip.span = [0, 1] ∧
      ∀ s ∈ result.2.strips, s.Whole id r := by
  intro r st result
  have hvalid : r.Valid := ⟨by decide, by decide, by decide, by decide⟩
  obtain ⟨-, strips, hstrips, hwhole, -, -, hall⟩ :=
    pixels_uploaded accepting 1 id (some fun _ => 0) r hvalid st
  rw [List.nil_append] at hstrips
  have hok : result.1 = true := by decide +kernel
  refine ⟨hok, ?_, ?_⟩
  · rw [hstrips]
    exact (hall hok).1
  · rw [hstrips]
    exact hwhole

end VirtIOGPU.Virgl
