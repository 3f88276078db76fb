import VirtIOGPU.Lib.Packets
import VirtIOGPU.Virgl.Encoder

/-!
# What the encoders emit

An encoder emits a list of words, of which the buffer takes as many as there is room for
(`contents_emitAll`).  For every call these are the words of one packet, and the length in its
header is that of the payload (`VirglCall.perform_emits`).
-/

namespace VirtIOGPU.Virgl

open Lib.Packets

/-! ## Words in the buffer -/

/-- The words that a little-endian reader finds. -/
def VirglCmdBuf.contents (cbuf : VirglCmdBuf) : List UInt32 :=
  (List.range cbuf.dwords.toNat).map fun i => gp32 (cbuf.buf i)

def emitAll (words : List UInt32) (cbuf : VirglCmdBuf) : VirglCmdBuf :=
  words.foldl virglEmitDword cbuf

theorem gp32_gp32 (v : UInt32) : gp32 (gp32 v) = v := bswap32_bswap32 v

@[simp] theorem VirglCmdBuf.length_contents (cbuf : VirglCmdBuf) :
    cbuf.contents.length = cbuf.dwords.toNat := by
  simp [VirglCmdBuf.contents]

@[simp] theorem maxDwords_emitDword (cbuf : VirglCmdBuf) (val : UInt32) :
    (virglEmitDword cbuf val).maxDwords = cbuf.maxDwords := by
  unfold virglEmitDword
  split
  · rfl
  · rfl

/-- One more word, if there is room. -/
theorem contents_emitDword (cbuf : VirglCmdBuf) (val : UInt32) :
    (virglEmitDword cbuf val).contents = (cbuf.contents ++ [val]).take cbuf.maxDwords.toNat := by
  have hbound := cbuf.bound
  unfold virglEmitDword
  split
  · next hroom =>
      have hlt := UInt32.lt_iff_toNat_lt.mp hroom
      have hnext : (cbuf.dwords + 1).toNat = cbuf.dwords.toNat + 1 := by
        have hmax := cbuf.maxDwords.toNat_lt
        rw [UInt32.toNat_add, UInt32.toNat_one, Nat.mod_eq_of_lt (by omega)]
      have hkept : ((List.range cbuf.dwords.toNat).map fun i =>
          gp32 (Function.update cbuf.buf cbuf.dwords.toNat (gp32 val) i)) = cbuf.contents := by
        refine List.map_congr_left fun i hi => ?_
        have hne : i ≠ cbuf.dwords.toNat := Nat.ne_of_lt (List.mem_range.mp hi)
        rw [Function.update_of_ne hne]
      rw [List.take_of_length_le (by simp; omega)]
      simp only [VirglCmdBuf.contents, hnext, List.range_succ, List.map_append, List.map_cons,
        List.map_nil, Function.update_self, gp32_gp32]
      rw [hkept]
      rfl
  · next hfull =>
      have hle := UInt32.not_lt.mp hfull
      have hall : cbuf.contents.length = cbuf.maxDwords.toNat := by
        rw [VirglCmdBuf.length_contents]
        exact Nat.le_antisymm hbound (UInt32.le_iff_toNat_le.mp hle)
      rw [← hall, List.take_left]

/-- What has been cut off is not missed when everything is cut off there. -/
theorem take_take_append {α : Type} (first second : List α) (n : ℕ) :
    (first.take n ++ second).take n = (first ++ second).take n := by
  rcases Nat.le_total n first.length with hlong | hshort
  · rw [List.take_append_of_le_length hlong, List.take_append_of_le_length (by simpa using hlong),
      List.take_take, Nat.min_self]
  · rw [List.take_of_length_le hshort]

theorem emitAll_append (first second : List UInt32) (cbuf : VirglCmdBuf) :
    emitAll (first ++ second) cbuf = emitAll second (emitAll first cbuf) :=
  List.foldl_append

/-- The buffer takes words from the front until it is full. -/
theorem contents_emitAll (words : List UInt32) (cbuf : VirglCmdBuf) :
    (emitAll words cbuf).maxDwords = cbuf.maxDwords ∧
      (emitAll words cbuf).contents =
        (cbuf.contents ++ words).take cbuf.maxDwords.toNat := by
  induction words generalizing cbuf with
  | nil =>
      refine ⟨rfl, ?_⟩
      rw [List.append_nil, List.take_of_length_le (by simpa using cbuf.bound)]
      rfl
  | cons val rest ih =>
      obtain ⟨hmax, hcontents⟩ := ih (virglEmitDword cbuf val)
      refine ⟨hmax.trans (maxDwords_emitDword cbuf val), ?_⟩
      calc
        (emitAll rest (virglEmitDword cbuf val)).contents =
            ((cbuf.contents ++ [val]).take cbuf.maxDwords.toNat ++ rest).take
              cbuf.maxDwords.toNat := by
          rw [hcontents, maxDwords_emitDword, contents_emitDword]
        _ = (cbuf.contents ++ [val] ++ rest).take cbuf.maxDwords.toNat :=
          take_take_append _ _ _
        _ = (cbuf.contents ++ val :: rest).take cbuf.maxDwords.toNat := by
          rw [List.append_assoc, List.singleton_append]

/-- Lists of the same length, one after the other. -/
theorem length_flatMap_const {α β : Type} {f : α → List β} {n : ℕ} (h : ∀ a, (f a).length = n)
    {l : List α} : (l.flatMap f).length = l.length * n := by
  induction l with
  | nil => rw [List.flatMap_nil, List.length_nil, List.length_nil, Nat.zero_mul]
  | cons a rest ih =>
      rw [List.flatMap_cons, List.length_append, ih, h, List.length_cons, Nat.succ_mul,
        Nat.add_comm]

/-! ## Programs -/

/-- The program emits these words, and does nothing else. -/
def Emits (m : Encoder) (words : List UInt32) : Prop := ∀ cbuf, (m cbuf).2 = emitAll words cbuf

namespace Emits

theorem dword (val : UInt32) : Emits (emitDword val) [val] := fun _ => rfl

theorem bind {m k : Encoder} {words words' : List UInt32} (hm : Emits m words)
    (hk : Emits k words') : Emits (m >>= fun _ => k) (words ++ words') := by
  intro cbuf
  rw [emitAll_append, ← hm cbuf]
  exact hk _

theorem cons {k : Encoder} {words : List UInt32} {val : UInt32} (hk : Emits k words) :
    Emits (emitDword val >>= fun _ => k) (val :: words) :=
  bind (dword val) hk

theorem forM {α : Type} {f : α → Encoder} {words : α → List UInt32}
    (h : ∀ a, Emits (f a) (words a)) (l : List α) : Emits (l.forM f) (l.flatMap words) := by
  induction l with
  | nil => exact fun _ => rfl
  | cons a rest ih => exact bind (h a) ih

/-- A word for each element. -/
theorem dwords {α : Type} (f : α → UInt32) (l : List α) :
    Emits (l.forM fun a => emitDword (f a)) (l.map f) := by
  rw [List.map_eq_flatMap]
  exact forM (fun a => dword (f a)) l

theorem self (l : List UInt32) : Emits (l.forM emitDword) l := by
  have h := dwords id l
  rwa [List.map_id] at h

end Emits

/-! ## The packets of the calls -/

/-- Some data as words, the last one filled up with zeros. -/
def packedWords (byte : ℕ → UInt8) (size : ℕ) : List UInt32 :=
  (List.range ((size + 3) / 4)).map fun k => packWord byte size (4 * k)

def Surface.words (s : Surface) : List UInt32 :=
  [s.handle, s.resHandle, s.format, s.firstElement, s.lastElement]

def Dsa.words (d : Dsa) : List UInt32 := [d.handle, d.s0, d.s1Front, d.s2Back, d.alphaRef]

def Rasterizer.words (r : Rasterizer) : List UInt32 :=
  [r.handle, r.s0, r.pointSize, r.spriteCoordEnable, r.s3, r.lineWidth, r.offsetUnits,
    r.offsetScale, r.offsetClamp]

def VertexElement.words (e : VertexElement) : List UInt32 :=
  [e.srcOffset, e.instanceDivisor, e.vertexBufferIndex, e.srcFormat]

def VertexBuffer.words (b : VertexBuffer) : List UInt32 := [b.stride, b.bufferOffset, b.resHandle]

def SamplerState.words (s : SamplerState) : List UInt32 :=
  [s.handle, s.s0, s.lodBias, s.minLod, s.maxLod, s.borderR, s.borderG, s.borderB, s.borderA]

def SamplerView.words (s : SamplerView) : List UInt32 :=
  [s.handle, s.resHandle, s.format, s.firstElement, s.lastElement,
    packSwizzle s.swizzleR s.swizzleG s.swizzleB s.swizzleA]

def Viewport.words (v : Viewport) : List UInt32 :=
  [v.startSlot, v.scaleX, v.scaleY, v.scaleZ, v.transX, v.transY, v.transZ]

def Scissor.words (s : Scissor) : List UInt32 :=
  [s.startSlot, packCorner s.minX s.minY, packCorner s.maxX s.maxY]

def Clear.words (c : Clear) : List UInt32 :=
  [c.buffers, c.r, c.g, c.b, c.a, (c.depth &&& 0xFFFFFFFF).toUInt32, (c.depth >>> 32).toUInt32,
    c.stencil]

def DrawVbo.words (d : DrawVbo) : List UInt32 :=
  [d.start, d.count, d.mode, d.indexed, d.instanceCount, d.indexBias.toUInt32, d.startInstance,
    d.primitiveRestart, d.restartIndex, d.minIndex, d.maxIndex, d.csoHandle]

def InlineBox.words (b : InlineBox) : List UInt32 :=
  [b.resHandle, b.level, b.usage, b.stride, b.layerStride, b.x, b.y, b.z, b.w, b.h, b.d]

def BlitBox.words (b : BlitBox) : List UInt32 :=
  [blitFormat b.level b.format, b.res, b.x1, b.y1, b.z1, b.x2, b.y2, b.z2]

/-- The length, the number of words, and the text with its `NUL`. -/
def CString.words (text : CString) : List UInt32 :=
  [UInt32.ofNat (text.bytes.length + 1), UInt32.ofNat ((text.bytes.length + 1 + 3) / 4), 0] ++
    packedWords text.char (text.bytes.length + 1)

def Block.words (data : Block) : List UInt32 :=
  packedWords (data.bytes.getD · 0) data.bytes.length

/-- `VIRGL_CCMD_*`. -/
def VirglCall.cmd : VirglCall → UInt32
  | .createSurface _ | .createBlend .. | .createDsa _ | .createRasterizer _ | .createShader ..
  | .createVertexElements .. | .createSamplerState _ | .createSamplerView _ => 1
  | .bindObject .. => 2
  | .destroyObject .. => 3
  | .setViewport _ => 4
  | .setFramebufferState .. => 5
  | .setVertexBuffers _ => 6
  | .clear _ => 7
  | .drawVbo _ => 8
  | .resourceInlineWrite .. | .uploadVertexFloats .. => 9
  | .setSamplerViews .. => 10
  | .setScissorState _ => 15
  | .blit .. => 16
  | .bindSamplerStates .. => 18
  | .setSubCtx _ => 28
  | .createSubCtx _ => 29
  | .bindShader .. => 31

/-- `VIRGL_OBJECT_*`. -/
def VirglCall.obj : VirglCall → UInt32
  | .createBlend .. => 1
  | .createRasterizer _ => 2
  | .createDsa _ => 3
  | .createShader .. => 4
  | .createVertexElements .. => 5
  | .createSamplerView _ => 6
  | .createSamplerState _ => 7
  | .createSurface _ => 8
  | .bindObject objType _ | .destroyObject objType _ => objType
  | _ => 0

def VirglCall.payload : VirglCall → List UInt32
  | .createSubCtx subCtxId | .setSubCtx subCtxId => [subCtxId]
  | .createSurface s => s.words
  | .createBlend handle s0 rt0Blend => [handle, s0, 0, rt0Blend, 0, 0, 0, 0, 0, 0, 0]
  | .createDsa d => d.words
  | .createRasterizer r => r.words
  | .createShader handle shaderType tgsiText => handle :: shaderType :: tgsiText.words
  | .createVertexElements handle elements => handle :: elements.flatMap VertexElement.words
  | .createSamplerState s => s.words
  | .createSamplerView s => s.words
  | .bindObject _ handle | .destroyObject _ handle => [handle]
  | .bindShader shaderType handle => [handle, shaderType]
  | .bindSamplerStates shaderType startSlot handles
  | .setSamplerViews shaderType startSlot handles => shaderType :: startSlot :: handles
  | .setViewport v => v.words
  | .setFramebufferState zsurfHandle surfHandles =>
      UInt32.ofNat surfHandles.length :: zsurfHandle :: surfHandles
  | .setVertexBuffers buffers => buffers.flatMap VertexBuffer.words
  | .setScissorState s => s.words
  | .clear c => c.words
  | .drawVbo d => d.words
  | .resourceInlineWrite b data => b.words ++ data.words
  | .uploadVertexFloats resHandle data =>
      (vertexBox resHandle (UInt32.ofNat data.bits.length * 4)).words ++ data.bits
  | .blit s0Flags dst src => s0Flags :: (dst.words ++ src.words)

def VirglCall.packet (call : VirglCall) : Packet UInt32 :=
  ⟨virglCmdHdr call.cmd call.obj (UInt32.ofNat call.payload.length), call.payload⟩

/-! ## Every call emits its packet -/

@[simp] theorem length_packedWords (byte : ℕ → UInt8) (size : ℕ) :
    (packedWords byte size).length = (size + 3) / 4 := by
  simp [packedWords]

theorem virglStrlen_eq (text : CString) : virglStrlen text = UInt32.ofNat text.bytes.length := by
  have hbefore : ∀ b ∈ text.bytes, (b == 0) = false := by
    intro b hb
    rw [beq_eq_false_iff_ne]
    rintro rfl
    exact text.noNul hb
  rw [virglStrlen, List.findIdx_append, List.findIdx_eq_length_of_false hbefore]
  simp

/-- The number of words, computed in 32 bits. -/
theorem ofNat_words {size : ℕ} (hsize : size + 3 < 2 ^ 32) :
    (UInt32.ofNat size + 3) / 4 = UInt32.ofNat ((size + 3) / 4) := by
  have hsum : (UInt32.ofNat size + 3).toNat = size + 3 := by
    rw [show (3 : UInt32) = UInt32.ofNat 3 from rfl, ← UInt32.ofNat_add,
      UInt32.toNat_ofNat_of_lt' hsize]
  apply UInt32.toNat_inj.mp
  rw [UInt32.toNat_div, hsum, UInt32.toNat_ofNat_of_lt' (by change _ < 2 ^ 32; omega)]
  rfl

theorem emitPacked_emits {size : ℕ} (hsize : size < 2 ^ 32) (byte : ℕ → UInt8) :
    Emits (emitPacked (UInt32.ofNat size) fun off => packWord byte size off)
      (packedWords byte size) := by
  unfold emitPacked packedWords
  rw [UInt32.toNat_ofNat_of_lt' hsize]
  exact Emits.dwords _ _

theorem virglCmdCreateShader_emits (handle shaderType : UInt32) (text : CString) :
    Emits (virglCmdCreateShader handle shaderType text)
      (VirglCall.createShader handle shaderType text).packet.words := by
  have hsize := text.inMemory
  have hlen : virglStrlen text + 1 = UInt32.ofNat (text.bytes.length + 1) := by
    rw [virglStrlen_eq, UInt32.ofNat_add]
    rfl
  have hlength : (VirglCall.createShader handle shaderType text).payload.length =
      5 + (text.bytes.length + 1 + 3) / 4 := by
    simp only [VirglCall.payload, CString.words, List.length_cons, List.length_append,
      List.length_nil, length_packedWords]
    omega
  rw [VirglCall.packet, hlength, UInt32.ofNat_add, VirglCall.payload, CString.words]
  unfold virglCmdCreateShader virglPackTextWord
  simp only [hlen]
  rw [ofNat_words (by omega), UInt32.toNat_ofNat_of_lt' (by change _ < 2 ^ 32; omega)]
  -- the number of words and the text stay as they are
  generalize UInt32.ofNat ((text.bytes.length + 1 + 3) / 4) = textWords
  have hpacked : Emits _ _ := emitPacked_emits (by omega : text.bytes.length + 1 < 2 ^ 32) text.char
  exact Emits.cons <| Emits.cons <| Emits.cons <| Emits.cons <| Emits.cons <| Emits.cons hpacked

theorem emitInlineBox_emits (b : InlineBox) : Emits (emitInlineBox b) b.words := fun _ => rfl

theorem virglCmdResourceInlineWrite_emits (b : InlineBox) (data : Block) :
    Emits (virglCmdResourceInlineWrite b data)
      (VirglCall.resourceInlineWrite b data).packet.words := by
  have hsize := data.inMemory
  have hwords := ofNat_words (by omega : data.bytes.length + 3 < 2 ^ 32)
  have hpayload : (VirglCall.resourceInlineWrite b data).payload.length =
      11 + (data.bytes.length + 3) / 4 := by
    simp only [VirglCall.payload, InlineBox.words, Block.words, List.length_cons,
      List.length_append, List.length_nil, length_packedWords]
  unfold virglCmdResourceInlineWrite
  simp only [hwords]
  rw [VirglCall.packet, hpayload, UInt32.ofNat_add]
  refine Emits.cons <| Emits.bind (emitInlineBox_emits b) ?_
  rw [UInt32.toNat_ofNat_of_lt' (by change _ < 2 ^ 32; omega)]
  exact emitPacked_emits (by omega) _

theorem emitHandles_emits (cmd shaderType startSlot : UInt32) (handles : List UInt32) :
    Emits (emitHandles cmd shaderType startSlot handles)
      (Packet.words ⟨virglCmdHdr cmd 0
        (UInt32.ofNat (shaderType :: startSlot :: handles).length),
        shaderType :: startSlot :: handles⟩) := by
  have hheader : 2 + UInt32.ofNat handles.length =
      UInt32.ofNat (shaderType :: startSlot :: handles).length := by
    rw [List.length_cons, List.length_cons, Nat.add_assoc, Nat.add_comm, UInt32.ofNat_add]
    rfl
  rw [← hheader]
  exact Emits.cons <| Emits.cons <| Emits.cons (Emits.self handles)

theorem VirglCall.perform_emits (call : VirglCall) : Emits call.perform call.packet.words := by
  cases call with
  | createShader handle shaderType text => exact virglCmdCreateShader_emits handle shaderType text
  | resourceInlineWrite b data => exact virglCmdResourceInlineWrite_emits b data
  | createVertexElements handle elements =>
      have hlength : (elements.flatMap VertexElement.words).length = elements.length * 4 :=
        length_flatMap_const fun e => (rfl : e.words.length = 4)
      have hheader : 1 + UInt32.ofNat elements.length * 4 =
          UInt32.ofNat (VirglCall.createVertexElements handle elements).payload.length := by
        rw [VirglCall.payload, List.length_cons, hlength, Nat.add_comm, UInt32.ofNat_add,
          UInt32.ofNat_mul]
        rfl
      rw [VirglCall.packet, ← hheader]
      exact Emits.cons <| Emits.cons <| Emits.forM (fun _ _ => rfl) elements
  | setVertexBuffers buffers =>
      have hlength : (buffers.flatMap VertexBuffer.words).length = buffers.length * 3 :=
        length_flatMap_const fun b => (rfl : b.words.length = 3)
      have hheader : UInt32.ofNat buffers.length * 3 =
          UInt32.ofNat (VirglCall.setVertexBuffers buffers).payload.length := by
        rw [VirglCall.payload, hlength, UInt32.ofNat_mul]
        rfl
      rw [VirglCall.packet, ← hheader]
      exact Emits.cons <| Emits.forM (fun _ _ => rfl) buffers
  | setFramebufferState zsurfHandle surfHandles =>
      have hheader : 2 + UInt32.ofNat surfHandles.length =
          UInt32.ofNat (VirglCall.setFramebufferState zsurfHandle surfHandles).payload.length := by
        rw [VirglCall.payload, List.length_cons, List.length_cons, Nat.add_assoc, Nat.add_comm,
          UInt32.ofNat_add]
        rfl
      rw [VirglCall.packet, ← hheader]
      exact Emits.cons <| Emits.cons <| Emits.cons (Emits.self surfHandles)
  | setSamplerViews shaderType startSlot handles => exact emitHandles_emits 10 _ _ handles
  | bindSamplerStates shaderType startSlot handles => exact emitHandles_emits 18 _ _ handles
  | uploadVertexFloats resHandle data =>
      have hheader : 11 + UInt32.ofNat data.bits.length =
          UInt32.ofNat (VirglCall.uploadVertexFloats resHandle data).payload.length := by
        rw [VirglCall.payload, List.length_append, UInt32.ofNat_add]
        rfl
      rw [VirglCall.packet, ← hheader]
      exact Emits.cons <| Emits.bind (emitInlineBox_emits _) (Emits.self data.bits)
  | createSubCtx | setSubCtx | createSurface | createBlend | createDsa | createRasterizer
  | createSamplerState | createSamplerView | bindObject | bindShader | setViewport
  | setScissorState | clear | drawVbo | blit | destroyObject => exact fun _ => rfl

end VirtIOGPU.Virgl
