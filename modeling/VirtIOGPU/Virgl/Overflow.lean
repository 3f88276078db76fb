import VirtIOGPU.Commands.Encoding
import VirtIOGPU.Virgl.Decoding

/-!
# Submitting a command buffer

`virgl_emit_dword` drops the words for which there is no room and says nothing, and `virgl_submit`
only looks at the words that are there.  Calls that do not fit are therefore submitted without their
end, unless something else stops the submission (`virgl_submit_whole_iff`).

`ctrlQueue` says here that the control queue exists and has descriptors for the message: without
them `chip_do_io_3sg` sends nothing either.

## Strategy

```text
the words of the calls   the submission   what is sent
none                     -                nothing, and TRUE is returned
some, they fit           is not stopped   all packets
some, they do not fit    is not stopped   as many words as there is room for
some                     is `Stopped`     nothing
```

`virglSubmit_sends` and `virglSubmit_stopped` are the last three rows.  In the third one the words
that are sent end within a packet or leave packets out, so that they are not the calls
(`submitsWhole_iff_of_overflow`): the condition is that the calls fit, or that nothing is sent.
-/

namespace VirtIOGPU.Virgl

open Lib.ByteOrder
open Lib.Memory
open Lib.Packets
open Wrappers

/-! ## The code -/

/-- What `virgl_submit` uses of `ChipGPUState`. -/
structure VirglState where
  channel : Channel
  virglCtxError : Bool

/-- The memory from `cbuf->buf` on. -/
def VirglCmdBuf.byte (cbuf : VirglCmdBuf) (i : ℕ) : UInt8 := byteOf (cbuf.buf (i / 4)) (i % 4)

/-- The command buffer that it leaves is the second component. -/
def virglSubmit (device : GpuDevice) (ctxId : UInt32) (cbuf : VirglCmdBuf) :
    StateM VirglState (Bool × VirglCmdBuf) := do
  if cbuf.dwords = 0 then return (true, cbuf)
  else
    let gs ← get
    if gs.virglCtxError then return (false, virglCmdReset cbuf)
    else
      let submitted := chipSubmit3D device ctxId cbuf.byte (cbuf.dwords * 4) gs.channel
      set { gs with channel := submitted.2 }
      if submitted.1 then return (true, virglCmdReset cbuf)
      else
        modify fun gs => { gs with virglCtxError := true }
        return (false, virglCmdReset cbuf)

/-! ## What is sent -/

/-- The bytes of the stream beside the header. -/
def streamOf (message : Message) : List ℕ := (message.parts.getD 1 []).map UInt8.toNat

/-- The words that some calls emit. -/
def emitted (calls : List VirglCall) : List UInt32 := stream (calls.map VirglCall.packet)

/-- After a reset these calls are made and submitted: what reaches the device are all of their
packets, and nothing reaches it when they did not fit. -/
def SubmitsWhole (device : GpuDevice) (ctxId : UInt32) (calls : List VirglCall)
    (cbuf : VirglCmdBuf) (gs : VirglState) : Prop :=
  let result := virglSubmit device ctxId (encodeCalls calls (virglCmdReset cbuf)) gs
  ∃ sent, result.2.channel.handed = sent ++ gs.channel.handed ∧
    (∀ message ∈ sent, readWords (streamOf message) = some (emitted calls)) ∧
    (cbuf.maxDwords.toNat < (emitted calls).length → result.1.1 = false ∧ sent = [])

theorem store32_eq (v : UInt32) : store32 v =
    [(byteOf v 0).toNat, (byteOf v 1).toNat, (byteOf v 2).toNat, (byteOf v 3).toNat] := by
  simp [store32, toBE, toLE, byteOf, Nat.div_div_eq_div_mul]

/-- The memory holds the words in the order of the processor. -/
theorem bytes_eq (cbuf : VirglCmdBuf) :
    ((List.range (4 * cbuf.dwords.toNat)).map cbuf.byte).map UInt8.toNat = cbuf.bytes := by
  rw [List.map_map, VirglCmdBuf.bytes]
  refine (flatMap_fours (fun k => ?_) _).symm
  have hbyte : ∀ j < 4, cbuf.byte (4 * k + j) = byteOf (cbuf.buf k) j := by
    intro j hj
    rw [VirglCmdBuf.byte, show (4 * k + j) / 4 = k by omega, show (4 * k + j) % 4 = j by omega]
  rw [store32_eq, ← hbyte 0 (by decide), ← hbyte 1 (by decide), ← hbyte 2 (by decide),
    ← hbyte 3 (by decide)]
  rfl

/-- The buffer after a reset and some calls. -/
theorem encodeCalls_reset (calls : List VirglCall) (cbuf : VirglCmdBuf) :
    let full := encodeCalls calls (virglCmdReset cbuf)
    full.contents = (emitted calls).take cbuf.maxDwords.toNat ∧
      full.dwords.toNat = min cbuf.maxDwords.toNat (emitted calls).length := by
  have hcontents : (encodeCalls calls (virglCmdReset cbuf)).contents =
      (emitted calls).take cbuf.maxDwords.toNat := by
    rw [encodeCalls_eq, (contents_emitAll _ _).2]
    rfl
  refine ⟨hcontents, ?_⟩
  rw [← VirglCmdBuf.length_contents, hcontents, List.length_take]

section Submit

variable {device : GpuDevice} {ctxId : UInt32} {cbuf : VirglCmdBuf} {gs : VirglState}

theorem virglSubmit_empty (h : cbuf.dwords = 0) :
    virglSubmit device ctxId cbuf gs = ((true, cbuf), gs) := by
  rw [virglSubmit, if_pos h]
  rfl

theorem virglSubmit_poisoned (h : cbuf.dwords ≠ 0) (herror : gs.virglCtxError = true) :
    virglSubmit device ctxId cbuf gs = ((false, virglCmdReset cbuf), gs) := by
  change StateT.run (virglSubmit device ctxId cbuf) gs = _
  simp only [virglSubmit, if_neg h, StateT.run_bind, StateT.run_get, herror, pure_bind]
  rfl

/-- Otherwise it is up to `chip_Submit3D`. -/
theorem virglSubmit_submits (h : cbuf.dwords ≠ 0) (herror : gs.virglCtxError = false) :
    let submitted := chipSubmit3D device ctxId cbuf.byte (cbuf.dwords * 4) gs.channel
    virglSubmit device ctxId cbuf gs = ((submitted.1, virglCmdReset cbuf),
      { channel := submitted.2, virglCtxError := !submitted.1 }) := by
  intro submitted
  change StateT.run (virglSubmit device ctxId cbuf) gs = _
  simp only [virglSubmit, if_neg h, StateT.run_bind, StateT.run_get, herror, pure_bind]
  cases submitted.1 with
  | true => rfl
  | false => rfl

end Submit

/-! ## Submissions that fit, and others -/

/-- The submission of so many words is stopped before it reaches the device. -/
def Stopped (dwords : UInt32) (gs : VirglState) : Prop :=
  gs.virglCtxError = true ∨ gs.channel.gs.cmd3dBuf = false ∨ gs.channel.gs.ctrlQueue = false ∨
    16384 < dwords.toNat

section Cases

variable {device : GpuDevice} {ctxId : UInt32} {calls : List VirglCall} {cbuf : VirglCmdBuf}
  {gs : VirglState}

/-- The size that `chip_Submit3D` is given passes its checks unless there are too many words. -/
theorem size_checked (h : cbuf.dwords ≠ 0) :
    (cbuf.dwords * 4 ≠ 0 ∧ cbuf.dwords * 4 ≤ 64 * 1024) ↔ cbuf.dwords.toNat ≤ 16384 := by
  have hpos : cbuf.dwords.toNat ≠ 0 := fun hzero => h (UInt32.toNat_inj.mp hzero)
  have hbound : cbuf.dwords.toNat ≤ 2 ^ 30 := cbuf.bound.trans cbuf.inMemory
  have hsize : (cbuf.dwords * 4).toNat = cbuf.dwords.toNat * 4 % 2 ^ 32 := UInt32.toNat_mul _ _
  rw [UInt32.le_iff_toNat_le, ne_eq, ← UInt32.toNat_inj, hsize]
  change (¬ cbuf.dwords.toNat * 4 % 2 ^ 32 = 0 ∧ cbuf.dwords.toNat * 4 % 2 ^ 32 ≤ 65536) ↔ _
  omega

/-- The bytes that `chip_Submit3D` is given are those of the stream. -/
theorem streamOf_submitMessage {c : Channel} (h : cbuf.dwords.toNat ≤ 16384) :
    readWords (streamOf (submitMessage c ctxId cbuf.byte (cbuf.dwords * 4))) =
      some cbuf.contents := by
  have hsize : (cbuf.dwords * 4).toNat = 4 * cbuf.dwords.toNat := by
    rw [UInt32.toNat_mul, Nat.mul_comm]
    exact Nat.mod_eq_of_lt (by change 4 * _ < 2 ^ 32; omega)
  have hbytes : streamOf (submitMessage c ctxId cbuf.byte (cbuf.dwords * 4)) = cbuf.bytes := by
    rw [← bytes_eq, ← hsize]
    rfl
  rw [hbytes, readWords_bytes]

theorem virglSubmit_stopped (device : GpuDevice) (ctxId : UInt32) (h : cbuf.dwords ≠ 0)
    (hstop : Stopped cbuf.dwords gs) :
    (virglSubmit device ctxId cbuf gs).1.1 = false ∧
      (virglSubmit device ctxId cbuf gs).2.channel.handed = gs.channel.handed := by
  cases herror : gs.virglCtxError with
  | true =>
      rw [virglSubmit_poisoned h herror]
      exact ⟨rfl, rfl⟩
  | false =>
      rw [virglSubmit_submits h herror]
      by_cases hready : gs.channel.gs.cmd3dBuf = true ∧ cbuf.dwords * 4 ≠ 0 ∧
          cbuf.dwords * 4 ≤ 64 * 1024
      · obtain ⟨hbuf, hsome, hroom⟩ := hready
        have hfew := (size_checked h).mp ⟨hsome, hroom⟩
        have hctrl : gs.channel.gs.ctrlQueue = false := by
          rcases hstop with herror' | hnobuf | hctrl | hmany
          · simp [herror] at herror'
          · simp [hbuf] at hnobuf
          · exact hctrl
          · omega
        exact (chipSubmit3D_accepted hbuf hsome hroom).2 hctrl
      · rw [chipSubmit3D_rejected hready]
        exact ⟨rfl, rfl⟩

/-- Without that it sends one message, with all the words that are in the buffer. -/
theorem virglSubmit_sends (device : GpuDevice) (ctxId : UInt32) (h : cbuf.dwords ≠ 0)
    (hgo : ¬ Stopped cbuf.dwords gs) :
    ∃ message,
      (virglSubmit device ctxId cbuf gs).2.channel.handed = message :: gs.channel.handed ∧
        readWords (streamOf message) = some cbuf.contents := by
  simp only [Stopped, not_or, Bool.not_eq_true, Bool.not_eq_false, Nat.not_lt] at hgo
  obtain ⟨herror, hbuf, hctrl, hfew⟩ := hgo
  obtain ⟨hsome, hroom⟩ := (size_checked h).mpr hfew
  rw [virglSubmit_submits h herror]
  exact ⟨_, (chipSubmit3D_accepted hbuf hsome hroom).1 hctrl, streamOf_submitMessage hfew⟩

/-! ## When the device gets whole packets -/

theorem submitsWhole_of_fits (hfits : (emitted calls).length ≤ cbuf.maxDwords.toNat) :
    SubmitsWhole device ctxId calls cbuf gs := by
  obtain ⟨hcontents, -⟩ := encodeCalls_reset calls cbuf
  rw [List.take_of_length_le hfits] at hcontents
  have hover : ¬ cbuf.maxDwords.toNat < (emitted calls).length := Nat.not_lt.mpr hfits
  by_cases hempty : (encodeCalls calls (virglCmdReset cbuf)).dwords = 0
  · refine ⟨[], ?_, fun _ h => absurd h List.not_mem_nil, fun h => absurd h hover⟩
    rw [virglSubmit_empty hempty]
    rfl
  by_cases hstop : Stopped (encodeCalls calls (virglCmdReset cbuf)).dwords gs
  · exact ⟨[], (virglSubmit_stopped device ctxId hempty hstop).2,
      fun _ h => absurd h List.not_mem_nil, fun h => absurd h hover⟩
  · obtain ⟨message, hsent, hwords⟩ := virglSubmit_sends device ctxId
      hempty hstop
    refine ⟨[message], hsent, fun other hother => ?_, fun h => absurd h hover⟩
    rw [List.mem_singleton.mp hother, hwords, hcontents]

/-- The buffer is full when the calls do not fit. -/
theorem dwords_of_overflow (hover : cbuf.maxDwords.toNat < (emitted calls).length) :
    (encodeCalls calls (virglCmdReset cbuf)).dwords = cbuf.maxDwords := by
  obtain ⟨-, hdwords⟩ := encodeCalls_reset calls cbuf
  rw [Nat.min_eq_left (Nat.le_of_lt hover)] at hdwords
  exact UInt32.toNat_inj.mp hdwords

theorem submitsWhole_iff_of_overflow (hover : cbuf.maxDwords.toNat < (emitted calls).length) :
    SubmitsWhole device ctxId calls cbuf gs ↔
      cbuf.maxDwords ≠ 0 ∧ Stopped cbuf.maxDwords gs := by
  have hfull := dwords_of_overflow hover
  constructor
  · rintro ⟨sent, hsent, -, hrefused⟩
    obtain ⟨hfalse, rfl⟩ := hrefused hover
    have hsome : cbuf.maxDwords ≠ 0 := by
      intro hzero
      rw [virglSubmit_empty (hfull.trans hzero)] at hfalse
      cases hfalse
    refine ⟨hsome, ?_⟩
    by_contra hgo
    rw [← hfull] at hsome hgo
    obtain ⟨message, hmessage, -⟩ := virglSubmit_sends device ctxId hsome hgo
    have hlength := congrArg List.length (hmessage.symm.trans hsent)
    simp at hlength
  · rintro ⟨hsome, hstop⟩
    rw [← hfull] at hsome hstop
    obtain ⟨hfalse, hnone⟩ := virglSubmit_stopped device ctxId hsome hstop
    exact ⟨[], hnone, fun _ h => absurd h List.not_mem_nil, fun _ => ⟨hfalse, rfl⟩⟩

/-- What reaches the device are all packets of the calls since the last reset, or nothing and
`FALSE` when they do not fit, exactly when the calls fit the buffer or something that has nothing to
do with them stops the submission of the full buffer. -/
theorem virgl_submit_whole_iff (device : GpuDevice) (ctxId : UInt32) (calls : List VirglCall)
    (cbuf : VirglCmdBuf) (gs : VirglState) :
    SubmitsWhole device ctxId calls cbuf gs ↔
      (emitted calls).length ≤ cbuf.maxDwords.toNat ∨
        (cbuf.maxDwords ≠ 0 ∧ Stopped cbuf.maxDwords gs) := by
  rcases Nat.lt_or_ge cbuf.maxDwords.toNat (emitted calls).length with hover | hfits
  · rw [submitsWhole_iff_of_overflow hover]
    exact ⟨.inr, fun h => h.resolve_left (Nat.not_le.mpr hover)⟩
  · exact ⟨fun _ => .inl hfits, fun _ => submitsWhole_of_fits hfits⟩

end Cases

/-- Two surfaces take twelve words.  Of eight words the device gets all, and `virgl_submit` returns
`TRUE`. -/
theorem truncated_stream_submitted :
    let surface : VirglCall := .createSurface ⟨1, 2, 3, 0, 0⟩
    let cbuf := virglCmdInit (fun _ => 0) 8 (by decide)
    let gs : VirglState := ⟨.filled { ChannelFields.bare with cmd3dBuf := true } 0, false⟩
    let result := virglSubmit accepting 1 (encodeCalls [surface, surface] cbuf) gs
    (emitted [surface, surface]).length = 12 ∧ result.1.1 = true ∧
      result.2.channel.handed.map streamOf = [(encodeCalls [surface, surface] cbuf).bytes] ∧
      readWords (encodeCalls [surface, surface] cbuf).bytes =
        some ((emitted [surface, surface]).take 8) ∧
      ¬ SubmitsWhole accepting 1 [surface, surface] cbuf gs := by
  intro surface cbuf gs result
  have hcontents : (encodeCalls [surface, surface] cbuf).contents =
      (emitted [surface, surface]).take 8 := (encodeCalls_reset _ cbuf).1
  have hgo : ¬ Stopped cbuf.maxDwords gs := by
    rintro (herror | hbuf | hqueue | hmany)
    · cases herror
    · cases hbuf
    · cases hqueue
    · exact absurd hmany (by decide)
  refine ⟨by decide, by decide +kernel, by decide +kernel, ?_, fun hwhole => ?_⟩
  · rw [readWords_bytes, hcontents]
  · exact hgo ((submitsWhole_iff_of_overflow (by decide)).mp hwhole).2

end VirtIOGPU.Virgl
