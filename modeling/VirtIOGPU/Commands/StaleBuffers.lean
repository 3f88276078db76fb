import VirtIOGPU.Commands.Wrappers
import VirtIOGPU.Lib.TwoRuns

/-!
# What the buffers held before

The command and reply buffers are used by one command after the other.  Two runs of a
wrapper are compared that start with different contents of the buffers and are equal
otherwise: the wrapper zeroes the front of both buffers, and what it sends and what it reads
of the reply lies in this front, whatever the device has written into it.

`stale_buffers_unused` says so for one call of any wrapper, and `commands_unaffected` for a
sequence of calls.  Only `chip_GetCapset` reads as far as its argument says; it zeroes the
2048 bytes of the largest capset.

## Strategy

`AlikeUpTo n k` is the relation between the two runs while a command is under way: equal in the
first `n` bytes of the command buffer and in the first `k` of the response buffer.

```text
part                   before       afterwards
memset of both fronts  Alike        AlikeUpTo n k   n, k the sizes that are zeroed
the stores             AlikeUpTo    AlikeUpTo       the same bytes are written
chip_do_io             AlikeUpTo    AlikeUpTo       the same message, so the same reply
reading the reply      AlikeUpTo    Alike           what is read lies in the first k bytes
```

The combinators of `Lib.TwoRuns` compose these along the text of a wrapper.
-/

namespace VirtIOGPU.Wrappers

open Lib.ByteOrder Lib.Memory Lib.Layout Lib.TwoRuns

/-- Two states that differ in the buffers only, and there behind `n` bytes of `cmd_buf` and `k`
bytes of `resp_buf`. -/
structure AlikeUpTo (n k : ℕ) (c d : Channel) : Prop where
  gs : c.gs = d.gs
  handed : c.handed = d.handed
  cmd : ∀ i < n, c.cmdBuf i = d.cmdBuf i
  resp : ∀ i < k, c.respBuf i = d.respBuf i

/-- Two states that differ in the contents of the buffers only. -/
def Alike (c d : Channel) : Prop := c.gs = d.gs ∧ c.handed = d.handed

variable {device : GpuDevice} {n k : ℕ}

theorem AlikeUpTo.alike {c d : Channel} (h : AlikeUpTo n k c d) : Alike c d := ⟨h.gs, h.handed⟩

/-! ## Buffers -/

theorem chipZero_agree (n : ℕ) (m m' : Mem UInt8) :
    ∀ i < n, chipZero n m i = chipZero n m' i := by
  intro i hi
  rw [chipZero_eq, chipZero_eq, overwrite, overwrite, if_pos (by omega), if_pos (by omega)]

theorem load32_agree {l : Struct Field} {f : Field} {m m' : Mem UInt8} (hwidth : width l f = 4)
    (h : ∀ i < size l, m i = m' i) : load32 l m f = load32 l m' f := by
  have hle := offset_add_width_le l f
  have hbytes : bytes m (Lib.Layout.offset l f) 4 = bytes m' (Lib.Layout.offset l f) 4 := by
    apply bytes_congr
    intro i hi
    exact h _ (by omega)
  rw [load32, load32, hbytes]

/-! ## Sending and receiving -/

/-- Zeroing makes the fronts equal, and the same fields are filled in. -/
theorem prepare_agrees (l : Struct Field) (stores : List Store) (n k : ℕ) :
    Agrees Alike (prepare l stores n k) (AlikeUpTo n k) := by
  have hcmd : Agrees Alike (modify fun c : Channel => { c with cmdBuf := chipZero n c.cmdBuf })
      (AlikeUpTo n 0) := by
    apply Agrees.update
    intro c d h
    exact ⟨h.1, h.2, chipZero_agree n _ _, by simp⟩
  have hresp : Agrees (AlikeUpTo n 0)
      (modify fun c : Channel => { c with respBuf := chipZero k c.respBuf }) (AlikeUpTo n k) := by
    apply Agrees.update
    intro c d h
    exact ⟨h.gs, h.handed, h.cmd, chipZero_agree k _ _⟩
  have hfill : Agrees (AlikeUpTo n k)
      (modify fun c : Channel => { c with cmdBuf := fillIn l stores c.cmdBuf })
      (AlikeUpTo n k) := by
    apply Agrees.update
    intro c d h
    exact ⟨h.gs, h.handed, fill_agree _ h.cmd, h.resp⟩
  exact hcmd.bind fun _ => hresp.bind fun _ => hfill

/-- The device sees the same message and writes the same reply. -/
theorem chipDoIo_agrees {R : Channel → Channel → Prop} {parts : Channel → List (List UInt8)}
    (respSize : ℕ) (hfront : ∀ c d, R c d → AlikeUpTo n k c d)
    (hparts : ∀ c d, R c d → parts c = parts d) :
    Agrees R (chipDoIo device parts respSize) (AlikeUpTo n k) := by
  apply Agrees.transition
  intro c d hR
  have h := hfront c d hR
  simp only [h.gs, h.handed, hparts c d hR]
  split
  · refine ⟨rfl, rfl, rfl, h.cmd, ?_⟩
    dsimp only
    exact overwrite_agree h.resp
  · exact ⟨rfl, h⟩

theorem responseType_agrees (hk : size ctrlHdr ≤ k) (written : UInt32) :
    Agrees (AlikeUpTo n k) (responseType written) (AlikeUpTo n k) := by
  apply Agrees.ite
  · intro _
    exact .ret 0
  · intro _
    apply Agrees.look
    intro c d h
    exact load32_agree (by decide) fun i hi => h.resp i (Nat.lt_of_lt_of_le hi hk)

theorem chipGpuSend_agrees {cmdSize : ℕ} (hn : cmdSize ≤ n) (hk : size ctrlHdr ≤ k)
    (respSize : ℕ) :
    Agrees (AlikeUpTo n k) (chipGpuSend device cmdSize respSize) (AlikeUpTo n k) := by
  apply Agrees.bind
  · apply chipDoIo_agrees respSize (fun _ _ h => h)
    intro c d h
    have hbytes : bytes c.cmdBuf 0 cmdSize = bytes d.cmdBuf 0 cmdSize := by
      apply bytes_congr
      intro i hi
      exact h.cmd _ (by omega)
    rw [hbytes]
  · exact responseType_agrees hk

theorem request_agrees (l : Struct Field) (stores : List Store) (cmdSize : ℕ)
    {respSize : ℕ} (hresp : size ctrlHdr ≤ respSize) :
    Agrees Alike (request device l stores cmdSize respSize) (AlikeUpTo cmdSize respSize) := by
  apply (prepare_agrees l stores cmdSize respSize).bind
  intro _
  exact chipGpuSend_agrees (Nat.le_refl _) hresp respSize

theorem requestNodata_agrees (l : Struct Field) (stores : List Store) (cmdSize : ℕ) :
    Agrees Alike (requestNodata device l stores cmdSize) Alike := by
  apply (request_agrees l stores cmdSize (Nat.le_refl _)).bind
  intro rt
  exact (Agrees.ret _).strengthen fun c d h => h.alike

/-! ## The wrappers -/

/-- A wrapper that reads the reply after its type has been checked. -/
theorem reply_agrees {α : Type} {l : Struct Field} {stores : List Store}
    {cmdSize respSize : ℕ} (hresp : size ctrlHdr ≤ respSize) (expected : UInt32) (failed : α)
    {f : Mem UInt8 → α}
    (hf : ∀ m m' : Mem UInt8, (∀ i < respSize, m i = m' i) → f m = f m') :
    Agrees Alike
      (do
        let rt ← request device l stores cmdSize respSize
        if rt ≠ expected then
          return failed
        else
          let c ← get
          return f c.respBuf)
      Alike := by
  apply (request_agrees l stores cmdSize hresp).bind
  intro rt
  apply Agrees.ite
  · intro _
    exact (Agrees.ret _).strengthen fun c d h => h.alike
  · intro _
    have hread : Agrees (AlikeUpTo cmdSize respSize) (get >>= fun c => pure (f c.respBuf))
        (AlikeUpTo cmdSize respSize) := by
      apply Agrees.look
      intro c d h
      exact hf _ _ h.resp
    exact hread.strengthen fun c d h => h.alike

theorem findSome?_congr {α β : Type} {f g : α → Option β} {l : List α}
    (h : ∀ a ∈ l, f a = g a) : l.findSome? f = l.findSome? g := by
  induction l with
  | nil => rfl
  | cons a rest ih =>
      rw [List.findSome?_cons, List.findSome?_cons, h a (List.mem_cons_self ..),
        ih fun b hb => h b (List.mem_cons_of_mem _ hb)]

theorem chipGetDisplayInfo_agrees : Agrees Alike (chipGetDisplayInfo device) Alike := by
  apply reply_agrees (by decide)
  intro m m' h
  have hload (f : Field) (hwidth : width respDisplayInfo f = 4) :
      load32 respDisplayInfo m f = load32 respDisplayInfo m' f := load32_agree hwidth h
  have hwidths : ∀ i < 16, width respDisplayInfo (.pmodeEnabled i) = 4 ∧
      width respDisplayInfo (.pmodeWidth i) = 4 ∧ width respDisplayInfo (.pmodeHeight i) = 4 := by
    decide
  rw [enabledScanout, enabledScanout]
  apply findSome?_congr
  intro i hi
  obtain ⟨henabled, hw, hh⟩ := hwidths i (List.mem_range.mp hi)
  rw [hload _ henabled, hload _ hw, hload _ hh]

theorem chipGetCapsetInfo_agrees (index : UInt32) :
    Agrees Alike (chipGetCapsetInfo device index) Alike := by
  let info (m : Mem UInt8) : Option CapsetInfo := some (load32 respCapsetInfo m .capsetId,
    load32 respCapsetInfo m .capsetMaxVersion, load32 respCapsetInfo m .capsetMaxSize)
  apply reply_agrees (f := info) (by decide)
  intro m m' h
  have hid : load32 respCapsetInfo m .capsetId = load32 respCapsetInfo m' .capsetId :=
    load32_agree (by decide) h
  have hversion : load32 respCapsetInfo m .capsetMaxVersion =
      load32 respCapsetInfo m' .capsetMaxVersion := load32_agree (by decide) h
  have hmax : load32 respCapsetInfo m .capsetMaxSize = load32 respCapsetInfo m' .capsetMaxSize :=
    load32_agree (by decide) h
  simp only [info, hid, hversion, hmax]

/-- At most 2048 bytes behind the header are copied. -/
theorem copySize_le {bufSize : UInt32} (h : bufSize.toNat ≤ 2048) :
    (if bufSize > respExpect bufSize - 24 then respExpect bufSize - 24 else bufSize).toNat ≤
      2048 := by
  split
  · rename_i hlarge
    exact Nat.le_of_lt (Nat.lt_of_lt_of_le hlarge h)
  · exact h

theorem chipGetCapset_agrees {capsetId capsetVersion bufSize : UInt32}
    (hsize : bufSize.toNat ≤ 2048) :
    Agrees Alike (chipGetCapset device capsetId capsetVersion bufSize) Alike := by
  apply (prepare_agrees getCapset _ (size getCapset) (size respCapset)).bind
  intro _
  apply (chipGpuSend_agrees (Nat.le_refl _) (by decide) _).bind
  intro rt
  apply Agrees.ite
  · intro _
    exact (Agrees.ret _).strengthen fun c d h => h.alike
  · intro _
    refine (Agrees.look ?_).strengthen fun c d h => h.alike
    intro c d h
    have hdata : Lib.Layout.offset respCapset .capsetData + 2048 ≤ size respCapset := by decide
    have hle := copySize_le hsize
    congr 1
    apply bytes_congr
    intro i hi
    exact h.resp _ (by omega)

/-- `chip_GetEDID` takes its blob from the reply and nothing else. -/
theorem edid_congr {gs : Display.EdidState} {resp resp' : Display.EdidReply}
    (htype : resp.type = resp'.type) (hsize : resp.size = resp'.size)
    (hedid : ∀ i < 1024, resp.edid i = resp'.edid i) :
    Display.chipGetEdid gs resp = Display.chipGetEdid gs resp' := by
  have hblob (n : UInt32) (hn : n.toNat ≤ 1024) :
      (fun i => if i < n.toNat then resp.edid i else gs.edid i) =
        fun i => if i < n.toNat then resp'.edid i else gs.edid i := by
    funext i
    split
    · exact hedid i (by omega)
    · rfl
  have hsmall : (if resp'.size > 1024 then (1024 : UInt32) else resp'.size).toNat ≤ 1024 := by
    split
    · exact Nat.le_refl _
    · rename_i hle
      exact Nat.le_of_not_lt hle
  have hcopied : gs.copied resp = gs.copied resp' := by
    simp only [Display.EdidState.copied, hsize, hblob _ hsmall]
  rw [Display.chipGetEdid, Display.chipGetEdid, htype, hcopied]

/-- The parsed EDID data, with the response type that was checked. -/
theorem parsed_agree {m m' : Mem UInt8} (h : ∀ i < size respEdid, m i = m' i)
    (gs : Display.EdidState) (rt : UInt32) :
    Display.chipGetEdid gs { edidReply m with type := rt } =
      Display.chipGetEdid gs { edidReply m' with type := rt } := by
  apply edid_congr
  · rfl
  · have hload : load32 respEdid m .size = load32 respEdid m' .size := load32_agree (by decide) h
    exact hload
  · intro i hi
    have hblob : Lib.Layout.offset respEdid .edid + 1024 ≤ size respEdid := by decide
    have hbyte : m (Lib.Layout.offset respEdid .edid + i) =
        m' (Lib.Layout.offset respEdid .edid + i) := h _ (by omega)
    exact hbyte

theorem chipGetEdid_agrees (scanout : UInt32) :
    Agrees Alike (chipGetEdid device scanout) Alike := by
  apply (request_agrees getEdid _ (size getEdid) (by decide)).bind
  intro rt
  apply Agrees.transition
  intro c d h
  have hparsed := parsed_agree h.resp d.gs.edid rt
  simp only [h.gs, hparsed, true_and]
  exact ⟨rfl, h.handed⟩

theorem setScanoutAttempts_agrees (args : ScanoutArgs) (attempts : ℕ) :
    Agrees Alike (setScanoutAttempts device args attempts) Alike := by
  induction attempts with
  | zero => exact .ret false
  | succ attempts ih =>
      apply (requestNodata_agrees setScanout _ (size setScanout)).bind
      intro ok
      apply Agrees.ite
      · exact fun _ => .ret true
      · exact fun _ => ih

theorem chipTransferToHost2D_agrees (id x y width height : UInt32) (offset : UInt64) :
    Agrees Alike (chipTransferToHost2D device id x y width height offset) Alike := by
  apply Agrees.inspect Channel.gs fun gs =>
    if gs.fbIsBlob ∧ id = gs.fbResourceId then return true
    else requestNodata device transferToHost2D _ (size transferToHost2D)
  · exact fun c d h => h.1
  · intro gs
    apply Agrees.ite
    · exact fun _ => .ret true
    · exact fun _ => requestNodata_agrees _ _ _

/-- The cursor command is zeroed and filled in like the others. -/
theorem chipCursorSend_agrees (type id x y hotX hotY : UInt32) :
    Agrees Alike (chipCursorSend type id x y hotX hotY) Alike := by
  apply Agrees.update
  intro c d h
  obtain ⟨hgs, hhanded⟩ := h
  simp only [hgs, hhanded]
  split
  · refine ⟨rfl, ?_⟩
    have hbytes (stores : List Store) :
        bytes (fillIn updateCursor stores (chipZero (size updateCursor) c.cursorCmdBuf)) 0
            (size updateCursor) =
          bytes (fillIn updateCursor stores (chipZero (size updateCursor) d.cursorCmdBuf)) 0
            (size updateCursor) := by
      apply bytes_congr
      intro i hi
      exact fill_agree _ (chipZero_agree _ _ _) _ (by omega)
    simp only [hbytes]
  · exact ⟨hgs, hhanded⟩

theorem chipCursorUpdate_agrees (hotX hotY : UInt32) :
    Agrees Alike (chipCursorUpdate device hotX hotY) Alike := by
  apply Agrees.inspect Channel.gs fun gs =>
    if gs.cursorCreated then do
      let _ ← chipTransferToHost2D device gs.cursorResourceId 0 0 64 64 0
      chipCursorSend 0x0300 gs.cursorResourceId (clampPos gs.cursorX) (clampPos gs.cursorY)
        hotX hotY
      modify fun c =>
        { c with
          gs := { c.gs with cursorLastSentX := c.gs.cursorX, cursorLastSentY := c.gs.cursorY } }
    else return ⟨⟩
  · exact fun c d h => h.1
  · intro gs
    apply Agrees.ite
    · intro _
      apply (chipTransferToHost2D_agrees _ _ _ _ _ _).bind
      intro _
      apply (chipCursorSend_agrees _ _ _ _ _ _).bind
      intro _
      apply Agrees.update
      intro c d h
      exact ⟨by simp only [h.1], h.2⟩
    · exact fun _ => .ret _

theorem chipCursorMove_agrees (x y : Int16) : Agrees Alike (chipCursorMove x y) Alike := by
  apply Agrees.inspect Channel.gs fun gs =>
    if gs.cursorCreated then do
      modify fun c => { c with gs := { c.gs with cursorX := x, cursorY := y } }
      chipCursorSend 0x0301 gs.cursorResourceId (clampPos x) (clampPos y) 0 0
    else return ⟨⟩
  · exact fun c d h => h.1
  · intro gs
    apply Agrees.ite
    · intro _
      have hmoved : Agrees Alike
          (modify fun c : Channel => { c with gs := { c.gs with cursorX := x, cursorY := y } })
          Alike := by
        apply Agrees.update
        intro c d h
        exact ⟨by simp only [h.1], h.2⟩
      exact hmoved.bind fun _ => chipCursorSend_agrees _ _ _ _ _ _
    · exact fun _ => .ret _

theorem chipCursorHide_agrees : Agrees Alike (chipCursorHide) Alike := by
  apply Agrees.inspect Channel.gs fun gs =>
    if gs.cursorCreated then chipCursorSend 0x0300 0 0 0 0 0 else return ⟨⟩
  · exact fun c d h => h.1
  · intro gs
    apply Agrees.ite
    · exact fun _ => chipCursorSend_agrees _ _ _ _ _ _
    · exact fun _ => .ret _

theorem chipCtxDestroy_agrees (ctxId : UInt32) :
    Agrees Alike (chipCtxDestroy device ctxId) Alike := by
  apply (request_agrees ctrlHdr _ (size ctrlHdr) (Nat.le_refl _)).bind
  intro _
  exact (Agrees.ret _).strengthen fun c d h => h.alike

/-- The two parts of a submission: the header and the stream that was copied. -/
theorem submit_agrees (ctxId : UInt32) (cmdData : ℕ → UInt8) (cmdSize : UInt32) :
    Agrees Alike
      (do
        prepare cmdSubmit [set32 .type 0x0207, set32 .ctxId ctxId, set32 .size cmdSize]
          (size cmdSubmit) (size ctrlHdr)
        modify fun c =>
          { c with
            cmd3dBuf := up cmdSize.toNat (fun i m => Function.update m i (cmdData i)) c.cmd3dBuf }
        let written ← chipDoIo device
          (fun c => [bytes c.cmdBuf 0 (size cmdSubmit), bytes c.cmd3dBuf 0 cmdSize.toNat])
          (size ctrlHdr)
        let rt ← responseType written
        return rt == virtioGpuRespOkNodata)
      Alike := by
  let Copied (c d : Channel) : Prop := AlikeUpTo (size cmdSubmit) (size ctrlHdr) c d ∧
    ∀ i < cmdSize.toNat, c.cmd3dBuf i = d.cmd3dBuf i
  have hcopy : Agrees (AlikeUpTo (size cmdSubmit) (size ctrlHdr))
      (modify fun c : Channel =>
        { c with
          cmd3dBuf := up cmdSize.toNat (fun i m => Function.update m i (cmdData i)) c.cmd3dBuf })
      Copied := by
    apply Agrees.update
    intro c d h
    refine ⟨⟨h.gs, h.handed, h.cmd, h.resp⟩, fun i hi => ?_⟩
    simp only [up_update]
    rw [overwrite, overwrite, if_pos (by omega), if_pos (by omega)]
  apply (prepare_agrees cmdSubmit _ (size cmdSubmit) (size ctrlHdr)).bind
  intro _
  apply hcopy.bind
  intro _
  apply (chipDoIo_agrees (size ctrlHdr) (fun _ _ h => h.1) ?_).bind
  · intro written
    apply (responseType_agrees (Nat.le_refl _) written).bind
    intro rt
    exact (Agrees.ret _).strengthen fun c d h => h.alike
  · intro c d h
    have hheader : bytes c.cmdBuf 0 (size cmdSubmit) = bytes d.cmdBuf 0 (size cmdSubmit) := by
      apply bytes_congr
      intro i hi
      exact h.1.cmd _ (by omega)
    have hstream : bytes c.cmd3dBuf 0 cmdSize.toNat = bytes d.cmd3dBuf 0 cmdSize.toNat := by
      apply bytes_congr
      intro i hi
      exact h.2 _ (by omega)
    rw [hheader, hstream]

theorem chipSubmit3D_agrees (ctxId : UInt32) (cmdData : ℕ → UInt8) (cmdSize : UInt32) :
    Agrees Alike (chipSubmit3D device ctxId cmdData cmdSize) Alike := by
  apply Agrees.inspect Channel.gs fun gs =>
    if gs.cmd3dBuf = false then return false
    else if cmdSize = 0 then return false
    else if cmdSize > 64 * 1024 then return false
    else do
      prepare cmdSubmit [set32 .type 0x0207, set32 .ctxId ctxId, set32 .size cmdSize]
        (size cmdSubmit) (size ctrlHdr)
      modify fun c =>
        { c with
          cmd3dBuf := up cmdSize.toNat (fun i m => Function.update m i (cmdData i)) c.cmd3dBuf }
      let written ← chipDoIo device
        (fun c => [bytes c.cmdBuf 0 (size cmdSubmit), bytes c.cmd3dBuf 0 cmdSize.toNat])
        (size ctrlHdr)
      let rt ← responseType written
      return rt == virtioGpuRespOkNodata
  · exact fun c d h => h.1
  · intro gs
    apply Agrees.ite fun _ => .ret false
    intro _
    apply Agrees.ite fun _ => .ret false
    intro _
    apply Agrees.ite fun _ => .ret false
    exact fun _ => submit_agrees ctxId cmdData cmdSize

theorem chipResourceCreateBlob_agrees (args : BlobArgs) (dma : DmaList) :
    Agrees Alike (chipResourceCreateBlob device args dma) Alike := by
  apply Agrees.inspect Channel.gs fun gs =>
    if gs.hasBlob then requestNodata device
      (resourceCreateBlob ++ memEntryArray (clampCount createBlobMax dma.count).toNat) _ _
    else return false
  · exact fun c d h => h.1
  · intro gs
    apply Agrees.ite
    · exact fun _ => requestNodata_agrees _ _ _
    · exact fun _ => .ret false

/-! ## All of them -/

/-- The caller's buffer for a capset has at most 2048 bytes. -/
def GpuCommand.Bounded : GpuCommand → Prop
  | .getCapset _ _ bufSize => bufSize.toNat ≤ 2048
  | _ => True

theorem GpuCommand.run_agrees (device : GpuDevice) {command : GpuCommand}
    (hbounded : command.Bounded) : Agrees Alike (command.run device) Alike := by
  cases command with
  | getDisplayInfo => exact chipGetDisplayInfo_agrees.map _
  | setScanout args => exact (setScanoutAttempts_agrees args 3).map _
  | transferToHost2D id x y width height offset =>
      exact (chipTransferToHost2D_agrees id x y width height offset).map _
  | getEdid scanout => exact (chipGetEdid_agrees scanout).map _
  | cursorUpdate hotX hotY => exact (chipCursorUpdate_agrees hotX hotY).map _
  | cursorMove x y => exact (chipCursorMove_agrees x y).map _
  | cursorHide => exact chipCursorHide_agrees.map _
  | getCapsetInfo index => exact (chipGetCapsetInfo_agrees index).map _
  | getCapset capsetId capsetVersion bufSize => exact (chipGetCapset_agrees hbounded).map _
  | ctxDestroy ctxId => exact (chipCtxDestroy_agrees ctxId).map _
  | submit3D ctxId cmdData cmdSize => exact (chipSubmit3D_agrees ctxId cmdData cmdSize).map _
  | resourceCreateBlob args dma => exact (chipResourceCreateBlob_agrees args dma).map _
  | resourceCreate2D | resourceUnref | resourceAttachBacking | resourceFlush | ctxCreate
  | ctxAttachResource | ctxDetachResource | resourceCreate3D | transferToHost3D
  | transferFromHost3D => exact (requestNodata_agrees _ _ _).map _

/-- Two runs of a wrapper that differ in what the buffers held before send the same bytes, return
the same results and leave the same state, whatever the device replies. -/
theorem stale_buffers_unused (device : GpuDevice) {command : GpuCommand}
    (hbounded : command.Bounded) {c d : Channel} (h : Alike c d) :
    (command.run device c).1 = (command.run device d).1 ∧
      Alike (command.run device c).2 (command.run device d).2 :=
  command.run_agrees device hbounded c d h

/-- `VIRTIO_GPU_RESP_OK_CAPSET` with eight bytes of the capset. -/
def shortCapset : GpuDevice :=
  fun _ => ⟨32, [0x03, 0x11] ++ List.replicate 22 0 ++ [1, 2, 3, 4, 5, 6, 7, 8]⟩

/-- Sixteen bytes are asked for, and half of them come: the others are zero, whatever the response
buffer held. -/
theorem stale_buffers_unused_capset :
    (∀ fill ∈ [0, 255], ((GpuCommand.getCapset 1 1 16).run shortCapset (.filled .bare fill)).1 =
      .capset (some ([1, 2, 3, 4, 5, 6, 7, 8] ++ List.replicate 8 0))) ∧
      Alike ((GpuCommand.getCapset 1 1 16).run shortCapset (.filled .bare 0)).2
        ((GpuCommand.getCapset 1 1 16).run shortCapset (.filled .bare 255)).2 := by
  have hbounded : (GpuCommand.getCapset 1 1 16).Bounded := by
    rw [GpuCommand.Bounded]
    decide
  have hzeroed : ((GpuCommand.getCapset 1 1 16).run shortCapset (.filled .bare 0)).1 =
      .capset (some ([1, 2, 3, 4, 5, 6, 7, 8] ++ List.replicate 8 0)) := by
    decide +kernel
  obtain ⟨hsame, halike⟩ := stale_buffers_unused shortCapset hbounded
    (c := .filled .bare 0) (d := .filled .bare 255) ⟨rfl, rfl⟩
  refine ⟨fun fill hfill => ?_, halike⟩
  rcases List.mem_pair.mp hfill with rfl | rfl
  · exact hzeroed
  · exact hsame.symm.trans hzeroed

/-- A sequence of calls, whose commands leave their traces in the buffers. -/
theorem commands_unaffected (device : GpuDevice) {commands : List GpuCommand}
    (hbounded : ∀ command ∈ commands, command.Bounded) :
    Agrees Alike (commands.mapM (GpuCommand.run device)) Alike := by
  apply Agrees.mapM
  intro command hcommand
  exact command.run_agrees device (hbounded command hcommand)

end VirtIOGPU.Wrappers
