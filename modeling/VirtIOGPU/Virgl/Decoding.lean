import VirtIOGPU.Lib.Wire
import VirtIOGPU.Virgl.Emission

/-!
# Decoding Virgl commands

A host reads the bytes of the command buffer as little-endian words, cuts them into packets by the
length field of each header and reads the call off each packet.

The number of bytes of an inline write is in no packet, so a host cannot tell its data from the same
data with a few zeros at the end (`inlineWrite_ambiguous`), nor from vertex data with these bytes.
`VirglCall.seen` is the call as a host can know it, and `virgl_stream_decodes` says that it decodes
exactly these.

## Strategy

```text
level                 written by              read by          inverse
fields of a header    virglCmdHdr             cmdOf, objOf     toNat_virglCmdHdr
words of a packet     VirglCall.payload       decodePacket     decodePacket_packet
bytes of the buffer   VirglCmdBuf.bytes       readWords        readWords_bytes
packets of a stream   encodeCalls             decodeStream     virgl_stream_decodes
```

`Fits` asks that lengths and counts fit the fields of their headers, as no encoder checks.  The one
place where the words do not determine the call is the number of bytes of an inline write.  `seen`
has its data filled up to a whole word, and vertex data as the inline write that they become.
-/

namespace VirtIOGPU.Virgl

open Lib.Memory
open Lib.Packets
open Lib.Wire

/-! ## The fields of a header -/

def cmdOf (header : UInt32) : ℕ := header.toNat % 256
def objOf (header : UInt32) : ℕ := header.toNat / 256 % 256
def lengthOf (header : UInt32) : ℕ := header.toNat / 65536

/-- Two fields in a word, one beside the other. -/
theorem toNat_or_shiftLeft (low high s : UInt32) (hs : s.toNat < 32)
    (hlow : low.toNat < 2 ^ s.toNat) (hhigh : high.toNat * 2 ^ s.toNat < 2 ^ 32) :
    (low ||| (high <<< s)).toNat = high.toNat * 2 ^ s.toNat + low.toNat := by
  have hshift : (high <<< s).toNat = high.toNat <<< s.toNat := by
    rw [UInt32.toNat_shiftLeft, Nat.mod_eq_of_lt hs]
    refine Nat.mod_eq_of_lt ?_
    rwa [Nat.shiftLeft_eq]
  rw [UInt32.toNat_or, hshift, Nat.or_comm, ← Nat.shiftLeft_add_eq_or_of_lt hlow, Nat.shiftLeft_eq]

/-- The fields do not overlap. -/
theorem toNat_virglCmdHdr {cmd obj : UInt32} {n : ℕ} (hcmd : cmd.toNat < 256)
    (hobj : obj.toNat < 256) (hn : n ≤ 65535) :
    (virglCmdHdr cmd obj (UInt32.ofNat n)).toNat = n * 65536 + (obj.toNat * 256 + cmd.toNat) := by
  have hlength : (UInt32.ofNat n).toNat = n :=
    UInt32.toNat_ofNat_of_lt' (by change _ < 2 ^ 32; omega)
  have hlow : (cmd ||| (obj <<< 8)).toNat = obj.toNat * 256 + cmd.toNat :=
    toNat_or_shiftLeft _ _ _ (by decide) hcmd (by change obj.toNat * 256 < _; omega)
  have hhigh := toNat_or_shiftLeft (cmd ||| (obj <<< 8)) (UInt32.ofNat n) 16
    (by decide) (by rw [hlow]; change _ < 65536; omega)
    (by rw [hlength]; change n * 65536 < _; omega)
  rw [virglCmdHdr, hhigh, hlow, hlength]
  rfl

/-- The bits of a word from `low` on, `width` of them. -/
def bitsOf (w : UInt32) (low width : ℕ) : UInt32 := UInt32.ofNat (w.toNat / 2 ^ low % 2 ^ width)

theorem bitsOf_eq {w v : UInt32} {low width : ℕ} (h : w.toNat / 2 ^ low % 2 ^ width = v.toNat) :
    bitsOf w low width = v := by
  rw [bitsOf, h, UInt32.ofNat_toNat]

theorem toNat_packCorner {x y : UInt32} (hx : x.toNat < 65536) (hy : y.toNat < 65536) :
    (packCorner x y).toNat = y.toNat * 65536 + x.toNat := by
  have hlow : (x &&& (0xFFFF : UInt32)).toNat = x.toNat := by
    rw [UInt32.toNat_and]
    exact (Nat.and_two_pow_sub_one_eq_mod x.toNat 16).trans (Nat.mod_eq_of_lt hx)
  have hword := toNat_or_shiftLeft (x &&& (0xFFFF : UInt32)) y 16
    (by decide) (by rw [hlow]; exact hx) (by change y.toNat * 65536 < _; omega)
  rw [packCorner, hword, hlow]
  rfl

theorem toNat_blitFormat {level format : UInt32} (hlevel : level.toNat < 256)
    (hformat : format.toNat < 65536) :
    (blitFormat level format).toNat = format.toNat * 256 + level.toNat := by
  have hlow : (level &&& (0xFF : UInt32)).toNat = level.toNat := by
    rw [UInt32.toNat_and]
    exact (Nat.and_two_pow_sub_one_eq_mod level.toNat 8).trans (Nat.mod_eq_of_lt hlevel)
  have hhigh : (format &&& (0xFFFF : UInt32)).toNat = format.toNat := by
    rw [UInt32.toNat_and]
    exact (Nat.and_two_pow_sub_one_eq_mod format.toNat 16).trans (Nat.mod_eq_of_lt hformat)
  have hword := toNat_or_shiftLeft (level &&& (0xFF : UInt32)) (format &&& (0xFFFF : UInt32)) 8
    (by decide)
    (by rw [hlow]; exact hlevel) (by rw [hhigh]; change format.toNat * 256 < _; omega)
  rw [blitFormat, hword, hlow, hhigh]
  rfl

theorem toNat_packSwizzle {r g b a : UInt32} (hr : r.toNat < 8) (hg : g.toNat < 8)
    (hb : b.toNat < 8) (ha : a.toNat < 8) :
    (packSwizzle r g b a).toNat = a.toNat * 512 + (b.toNat * 64 + (g.toNat * 8 + r.toNat)) := by
  have hthree : ∀ v : UInt32, v.toNat < 8 → v &&& 0x7 = v := by
    intro v hv
    apply UInt32.toNat_inj.mp
    rw [UInt32.toNat_and]
    exact (Nat.and_two_pow_sub_one_eq_mod v.toNat 3).trans (Nat.mod_eq_of_lt hv)
  have hrg : (r ||| (g <<< 3)).toNat = g.toNat * 8 + r.toNat :=
    toNat_or_shiftLeft _ _ _ (by decide) hr (by change g.toNat * 8 < _; omega)
  have hrgb : (r ||| (g <<< 3) ||| (b <<< 6)).toNat = b.toNat * 64 + (g.toNat * 8 + r.toNat) := by
    rw [← hrg]
    exact toNat_or_shiftLeft _ _ _ (by decide) (by rw [hrg]; change _ < 64; omega)
      (by change b.toNat * 64 < _; omega)
  simp only [packSwizzle, hthree r hr, hthree g hg, hthree b hb, hthree a ha]
  rw [← hrgb]
  exact toNat_or_shiftLeft _ _ _ (by decide) (by rw [hrgb]; change _ < 512; omega)
    (by change a.toNat * 512 < _; omega)

/-! ## Bytes of words -/

/-- The bytes of a word in memory, in little-endian order. -/
def wordBytes (w : UInt32) : List UInt8 := [byteOf w 3, byteOf w 2, byteOf w 1, byteOf w 0]

/-- Byte `k` of a packed word, counted from the lowest. -/
theorem byteOf_packWord (byte : ℕ → UInt8) (size offset : ℕ) {k : ℕ} (hk : k < 4) :
    byteOf (packWord byte size offset) (3 - k) =
      if offset + k < size then byte (offset + k) else 0 := by
  -- each step of the loop adds one byte
  have hstep : ∀ (val : UInt32) (i : ℕ), i < 4 →
      byteOf (if offset + i < size then
          val ||| ((byte (offset + i)).toUInt32 <<< UInt32.ofNat (i * 8)) else val) (3 - k) =
        byteOf val (3 - k) |||
          if i = k ∧ offset + i < size then byte (offset + i) else 0 := by
    intro val i hi
    have hshift : (UInt32.ofNat (i * 8)).toNat = 8 * i := by
      rw [UInt32.toNat_ofNat_of_lt' (by change _ < 2 ^ 32; omega), Nat.mul_comm]
    by_cases hin : offset + i < size
    · rw [if_pos hin, byteOf_or, byteOf_shiftLeft _ hshift hi (by omega)]
      by_cases heq : i = k
      · rw [if_pos (by omega), byteOf_toUInt32 _ (by omega), if_pos (by omega),
          if_pos ⟨heq, hin⟩]
      · rw [if_neg (c := i = k ∧ _) fun h => heq h.1]
        split
        · rw [byteOf_toUInt32 _ (by omega), if_neg (by omega)]
        · rfl
    · rw [if_neg hin, if_neg fun h => hin h.2, UInt8.or_zero]
  have hzero : byteOf 0 (3 - k) = 0 := by
    rw [byteOf, UInt32.toNat_zero, Nat.zero_div]
    rfl
  simp only [packWord, List.range_succ, List.range_zero, List.nil_append, List.foldl_append,
    List.foldl_cons, List.foldl_nil]
  rw [hstep _ 3 (by decide), hstep _ 2 (by decide), hstep _ 1 (by decide), hstep _ 0 (by decide),
    hzero]
  obtain rfl | rfl | rfl | rfl : k = 0 ∨ k = 1 ∨ k = 2 ∨ k = 3 := by omega
  all_goals simp

/-- Four elements for each number. -/
theorem flatMap_fours {β : Type} {four : ℕ → List β} {one : ℕ → β}
    (h : ∀ k, four k = [one (4 * k), one (4 * k + 1), one (4 * k + 2), one (4 * k + 3)]) (n : ℕ) :
    (List.range n).flatMap four = (List.range (4 * n)).map one := by
  induction n with
  | zero => rfl
  | succ n ih =>
      rw [List.range_succ, List.flatMap_append, ih]
      simp [Nat.mul_succ, List.range_succ, h]

/-- Packing keeps the bytes, and fills up with zeros. -/
theorem packedWords_bytes (byte : ℕ → UInt8) (size : ℕ) :
    (packedWords byte size).flatMap wordBytes =
      (List.range (4 * ((size + 3) / 4))).map fun i => if i < size then byte i else 0 := by
  rw [packedWords, List.flatMap_map]
  refine flatMap_fours (fun k => ?_) _
  rw [wordBytes, byteOf_packWord byte size (4 * k) (k := 0) (by decide),
    byteOf_packWord byte size (4 * k) (k := 1) (by decide),
    byteOf_packWord byte size (4 * k) (k := 2) (by decide),
    byteOf_packWord byte size (4 * k) (k := 3) (by decide)]
  rfl

/-- The text comes back with its `NUL`. -/
theorem text_bytes (text : CString) :
    ((packedWords text.char (text.bytes.length + 1)).flatMap wordBytes).take text.bytes.length =
      text.bytes := by
  rw [packedWords_bytes]
  refine List.ext_getElem (by simp; omega) fun i hi hi' => ?_
  have hlt : i < text.bytes.length + 1 := by omega
  rw [List.getElem_take, List.getElem_map, List.getElem_range, if_pos hlt, CString.char,
    List.getD_eq_getElem _ _ hi']

/-- Data filled up to whole words. -/
def Block.filled (data : Block) : Block where
  bytes := data.bytes ++ List.replicate (4 * ((data.bytes.length + 3) / 4) - data.bytes.length) 0
  inMemory := by
    have hsize := data.inMemory
    rw [List.length_append, List.length_replicate]
    omega

theorem Block.words_bytes (data : Block) : data.words.flatMap wordBytes = data.filled.bytes := by
  rw [Block.words, packedWords_bytes, Block.filled]
  refine List.ext_getElem (by simp; omega) fun i hi _ => ?_
  rw [List.getElem_map, List.getElem_range]
  split
  · next hlt => rw [List.getElem_append_left hlt, List.getD_eq_getElem _ _ hlt]
  · next hge => rw [List.getElem_append_right (Nat.not_lt.mp hge), List.getElem_replicate]

theorem Block.filled_of_dvd {data : Block} (h : 4 ∣ data.bytes.length) : data.filled = data := by
  have hnone : 4 * ((data.bytes.length + 3) / 4) - data.bytes.length = 0 := by omega
  obtain ⟨bytes, inMemory⟩ := data
  simp only [Block.filled, Block.mk.injEq]
  rw [hnone, List.replicate_zero, List.append_nil]

@[simp] theorem length_flatMap_wordBytes (words : List UInt32) :
    (words.flatMap wordBytes).length = 4 * words.length := by
  have hfour : ∀ w, (wordBytes w).length = 4 := fun _ => rfl
  rw [length_flatMap_const hfour, Nat.mul_comm]

/-- Vertex data in memory. -/
def Floats.block (data : Floats) : Block where
  bytes := data.bits.flatMap wordBytes
  inMemory := by
    rw [length_flatMap_wordBytes]
    exact data.inMemory

/-! ## Reading calls off packets -/

def decodeElements : List UInt32 → Option (List VertexElement)
  | [] => some []
  | srcOffset :: instanceDivisor :: vertexBufferIndex :: srcFormat :: rest =>
      (decodeElements rest).map (⟨srcOffset, instanceDivisor, vertexBufferIndex, srcFormat⟩ :: ·)
  | _ => none

def decodeBuffers : List UInt32 → Option (List VertexBuffer)
  | [] => some []
  | stride :: bufferOffset :: resHandle :: rest =>
      (decodeBuffers rest).map (⟨stride, bufferOffset, resHandle⟩ :: ·)
  | _ => none

/-- A text of `length` bytes, the last of them the `NUL`. -/
def decodeText (length : UInt32) (words : List UInt32) : Option CString :=
  let bytes := (words.flatMap wordBytes).take (length.toNat - 1)
  if h : 0 ∉ bytes ∧ bytes.length + 13 ≤ 2 ^ 32 then some ⟨bytes, h.1, h.2⟩ else none

def decodeBlock (words : List UInt32) : Option Block :=
  if h : (words.flatMap wordBytes).length + 12 ≤ 2 ^ 32 then some ⟨words.flatMap wordBytes, h⟩
  else none

def decodeBox (s0 res x1 y1 z1 x2 y2 z2 : UInt32) : BlitBox :=
  ⟨res, bitsOf s0 8 16, bitsOf s0 0 8, x1, y1, z1, x2, y2, z2⟩

/-- `CREATE_OBJECT`. -/
def decodeCreate (obj : ℕ) (payload : List UInt32) : Option VirglCall :=
  match obj with
  | 1 => match payload with
    | [handle, s0, _, rt0Blend, _, _, _, _, _, _, _] => some (.createBlend handle s0 rt0Blend)
    | _ => none
  | 2 => match payload with
    | [handle, s0, pointSize, spriteCoordEnable, s3, lineWidth, offsetUnits, offsetScale,
        offsetClamp] =>
      some (.createRasterizer ⟨handle, s0, pointSize, spriteCoordEnable, s3, lineWidth, offsetUnits,
        offsetScale, offsetClamp⟩)
    | _ => none
  | 3 => match payload with
    | [handle, s0, s1Front, s2Back, alphaRef] =>
      some (.createDsa ⟨handle, s0, s1Front, s2Back, alphaRef⟩)
    | _ => none
  | 4 => match payload with
    | handle :: shaderType :: length :: _ :: _ :: words =>
      (decodeText length words).map (.createShader handle shaderType)
    | _ => none
  | 5 => match payload with
    | handle :: words => (decodeElements words).map (.createVertexElements handle)
    | _ => none
  | 6 => match payload with
    | [handle, resHandle, format, firstElement, lastElement, swizzle] =>
      some (.createSamplerView ⟨handle, resHandle, format, firstElement, lastElement,
        bitsOf swizzle 0 3, bitsOf swizzle 3 3, bitsOf swizzle 6 3, bitsOf swizzle 9 3⟩)
    | _ => none
  | 7 => match payload with
    | [handle, s0, lodBias, minLod, maxLod, borderR, borderG, borderB, borderA] =>
      some (.createSamplerState ⟨handle, s0, lodBias, minLod, maxLod, borderR, borderG, borderB,
        borderA⟩)
    | _ => none
  | 8 => match payload with
    | [handle, resHandle, format, firstElement, lastElement] =>
      some (.createSurface ⟨handle, resHandle, format, firstElement, lastElement⟩)
    | _ => none
  | _ => none

/-- `RESOURCE_INLINE_WRITE`. -/
def decodeInlineWrite (payload : List UInt32) : Option VirglCall :=
  match payload with
  | resHandle :: level :: usage :: stride :: layerStride :: x :: y :: z :: w :: h :: d :: words =>
    (decodeBlock words).map
      (.resourceInlineWrite ⟨resHandle, level, usage, stride, layerStride, x, y, z, w, h, d⟩)
  | _ => none

def decodeDraw (payload : List UInt32) : Option VirglCall :=
  match payload with
  | [start, count, mode, indexed, instanceCount, indexBias, startInstance, primitiveRestart,
      restartIndex, minIndex, maxIndex, csoHandle] =>
    some (.drawVbo ⟨start, count, mode, indexed, instanceCount, indexBias.toInt32, startInstance,
      primitiveRestart, restartIndex, minIndex, maxIndex, csoHandle⟩)
  | _ => none

def decodeClear (payload : List UInt32) : Option VirglCall :=
  match payload with
  | [buffers, r, g, b, a, low, high, stencil] =>
    some (.clear ⟨buffers, r, g, b, a, high.toUInt64 <<< 32 ||| low.toUInt64, stencil⟩)
  | _ => none

def decodeBlit (payload : List UInt32) : Option VirglCall :=
  match payload with
  | [s0Flags, s1, dst, dstX1, dstY1, dstZ1, dstX2, dstY2, dstZ2,
      s2, src, srcX1, srcY1, srcZ1, srcX2, srcY2, srcZ2] =>
    some (.blit s0Flags (decodeBox s1 dst dstX1 dstY1 dstZ1 dstX2 dstY2 dstZ2)
      (decodeBox s2 src srcX1 srcY1 srcZ1 srcX2 srcY2 srcZ2))
  | _ => none

/-- The call that a packet stands for, its header giving the command and the object. -/
def decodeCommand (cmd obj : ℕ) (payload : List UInt32) : Option VirglCall :=
  match cmd with
  | 1 => decodeCreate obj payload
  | 2 => match payload with
    | [handle] => some (.bindObject (UInt32.ofNat obj) handle)
    | _ => none
  | 3 => match payload with
    | [handle] => some (.destroyObject (UInt32.ofNat obj) handle)
    | _ => none
  | 4 => match payload with
    | [startSlot, scaleX, scaleY, scaleZ, transX, transY, transZ] =>
      some (.setViewport ⟨startSlot, scaleX, scaleY, scaleZ, transX, transY, transZ⟩)
    | _ => none
  | 5 => match payload with
    | count :: zsurfHandle :: surfHandles =>
      if count.toNat = surfHandles.length then some (.setFramebufferState zsurfHandle surfHandles)
      else none
    | _ => none
  | 6 => (decodeBuffers payload).map .setVertexBuffers
  | 7 => decodeClear payload
  | 8 => decodeDraw payload
  | 9 => decodeInlineWrite payload
  | 10 => match payload with
    | shaderType :: startSlot :: handles => some (.setSamplerViews shaderType startSlot handles)
    | _ => none
  | 15 => match payload with
    | [startSlot, low, high] =>
      some (.setScissorState ⟨startSlot, bitsOf low 0 16, bitsOf low 16 16, bitsOf high 0 16,
        bitsOf high 16 16⟩)
    | _ => none
  | 16 => decodeBlit payload
  | 18 => match payload with
    | shaderType :: startSlot :: handles => some (.bindSamplerStates shaderType startSlot handles)
    | _ => none
  | 28 => match payload with
    | [subCtxId] => some (.setSubCtx subCtxId)
    | _ => none
  | 29 => match payload with
    | [subCtxId] => some (.createSubCtx subCtxId)
    | _ => none
  | 31 => match payload with
    | [handle, shaderType] => some (.bindShader shaderType handle)
    | _ => none
  | _ => none

def decodePacket (p : Packet UInt32) : Option VirglCall :=
  decodeCommand (cmdOf p.header) (objOf p.header) p.payload

/-! ## Which calls come back -/

/-- Every argument fits its field, and the payload its length. -/
def VirglCall.Fits (call : VirglCall) : Prop :=
  call.payload.length ≤ 65535 ∧
    match call with
    | .bindObject objType _ | .destroyObject objType _ => objType.toNat < 256
    | .createSamplerView s => s.swizzleR.toNat < 8 ∧ s.swizzleG.toNat < 8 ∧
        s.swizzleB.toNat < 8 ∧ s.swizzleA.toNat < 8
    | .setScissorState s => s.minX.toNat < 65536 ∧ s.minY.toNat < 65536 ∧
        s.maxX.toNat < 65536 ∧ s.maxY.toNat < 65536
    | .blit _ dst src => dst.level.toNat < 256 ∧ dst.format.toNat < 65536 ∧
        src.level.toNat < 256 ∧ src.format.toNat < 65536
    | _ => True

/-- The call as its packet shows it. -/
def VirglCall.seen : VirglCall → VirglCall
  | .resourceInlineWrite b data => .resourceInlineWrite b data.filled
  | .uploadVertexFloats resHandle data =>
      .resourceInlineWrite (vertexBox resHandle (UInt32.ofNat data.bits.length * 4)) data.block
  | call => call

/-- The call can be told from every other. -/
def VirglCall.Exact : VirglCall → Prop
  | .resourceInlineWrite _ data => 4 ∣ data.bytes.length
  | .uploadVertexFloats .. => False
  | _ => True

theorem VirglCall.Exact.seen {call : VirglCall} (h : call.Exact) : call.seen = call := by
  cases call with
  | resourceInlineWrite b data => exact congrArg _ (Block.filled_of_dvd h)
  | uploadVertexFloats resHandle data => exact h.elim
  | _ => rfl

theorem cmd_lt (call : VirglCall) : call.cmd.toNat < 256 := by
  cases call <;> exact of_decide_eq_true rfl

theorem obj_lt {call : VirglCall} (h : call.Fits) : call.obj.toNat < 256 := by
  cases call with
  | bindObject objType handle => exact h.2
  | destroyObject objType handle => exact h.2
  | _ => exact of_decide_eq_true rfl

/-- The three fields of the header of a packet. -/
theorem VirglCall.Fits.header {call : VirglCall} (h : call.Fits) :
    cmdOf call.packet.header = call.cmd.toNat ∧ objOf call.packet.header = call.obj.toNat ∧
      lengthOf call.packet.header = call.payload.length := by
  have hcmd := cmd_lt call
  have hobj := obj_lt h
  have hheader : call.packet.header.toNat =
      call.payload.length * 65536 + (call.obj.toNat * 256 + call.cmd.toNat) :=
    toNat_virglCmdHdr hcmd hobj h.1
  rw [cmdOf, objOf, lengthOf, hheader]
  omega

theorem VirglCall.Fits.framed {call : VirglCall} (h : call.Fits) :
    call.packet.Framed lengthOf :=
  h.header.2.2

theorem decodeElements_words (elements : List VertexElement) :
    decodeElements (elements.flatMap VertexElement.words) = some elements := by
  induction elements with
  | nil => rfl
  | cons e rest ih => simp [VertexElement.words, decodeElements, ih]

theorem decodeBuffers_words (buffers : List VertexBuffer) :
    decodeBuffers (buffers.flatMap VertexBuffer.words) = some buffers := by
  induction buffers with
  | nil => rfl
  | cons b rest ih => simp [VertexBuffer.words, decodeBuffers, ih]

theorem decodeText_words (text : CString) :
    decodeText (UInt32.ofNat (text.bytes.length + 1))
      (packedWords text.char (text.bytes.length + 1)) = some text := by
  have hsize := text.inMemory
  have hlength : (UInt32.ofNat (text.bytes.length + 1)).toNat - 1 = text.bytes.length := by
    rw [UInt32.toNat_ofNat_of_lt' (by change _ < 2 ^ 32; omega), Nat.add_sub_cancel]
  unfold decodeText
  simp only [hlength, text_bytes]
  exact dif_pos ⟨text.noNul, hsize⟩

theorem decodeBlock_words (data : Block) : decodeBlock data.words = some data.filled := by
  unfold decodeBlock
  simp only [data.words_bytes]
  exact dif_pos data.filled.inMemory

theorem decodeBlock_bits (data : Floats) : decodeBlock data.bits = some data.block :=
  dif_pos data.block.inMemory

/-- The two halves of a double. -/
theorem double_halves (v : UInt64) :
    (v >>> 32).toUInt32.toUInt64 <<< 32 ||| (v &&& 0xFFFFFFFF).toUInt32.toUInt64 = v := by
  have hv := v.toNat_lt
  have hlow : (v &&& 0xFFFFFFFF).toUInt32.toUInt64.toNat = v.toNat % 2 ^ 32 := by
    have hmask : (v &&& 0xFFFFFFFF).toNat = v.toNat % 2 ^ 32 := by
      rw [UInt64.toNat_and]
      exact Nat.and_two_pow_sub_one_eq_mod v.toNat 32
    rw [UInt32.toNat_toUInt64, UInt64.toNat_toUInt32, hmask, Nat.mod_mod]
  have hhigh : (v >>> 32).toUInt32.toUInt64.toNat = v.toNat / 2 ^ 32 := by
    have hshift : (v >>> 32).toNat = v.toNat / 2 ^ 32 := by
      rw [UInt64.toNat_shiftRight]
      exact Nat.shiftRight_eq_div_pow v.toNat 32
    rw [UInt32.toNat_toUInt64, UInt64.toNat_toUInt32, hshift]
    omega
  have hup : ((v >>> 32).toUInt32.toUInt64 <<< 32).toNat = (v.toNat / 2 ^ 32) <<< 32 := by
    rw [UInt64.toNat_shiftLeft, hhigh]
    refine Nat.mod_eq_of_lt ?_
    change (v.toNat / 2 ^ 32) <<< 32 < 2 ^ 64
    rw [Nat.shiftLeft_eq]
    omega
  apply UInt64.toNat_inj.mp
  rw [UInt64.toNat_or, hup, hlow,
    ← Nat.shiftLeft_add_eq_or_of_lt (Nat.mod_lt v.toNat (by decide)), Nat.shiftLeft_eq]
  omega

theorem decodeBox_words {b : BlitBox} (hlevel : b.level.toNat < 256)
    (hformat : b.format.toNat < 65536) :
    decodeBox (blitFormat b.level b.format) b.res b.x1 b.y1 b.z1 b.x2 b.y2 b.z2 = b := by
  have hword := toNat_blitFormat hlevel hformat
  have h8 : bitsOf (blitFormat b.level b.format) 8 16 = b.format :=
    bitsOf_eq (by rw [hword]; omega)
  have h0 : bitsOf (blitFormat b.level b.format) 0 8 = b.level :=
    bitsOf_eq (by rw [hword]; omega)
  rw [decodeBox, h8, h0]

theorem decodePacket_packet {call : VirglCall} (h : call.Fits) :
    decodePacket call.packet = some call.seen := by
  obtain ⟨hcmd, hobj, -⟩ := h.header
  have hfields := h.2
  rw [decodePacket, hcmd, hobj]
  cases call with
  | createShader handle shaderType text =>
      exact congrArg (Option.map _) (decodeText_words text)
  | createVertexElements handle elements =>
      exact congrArg (Option.map _) (decodeElements_words elements)
  | setVertexBuffers buffers => exact congrArg (Option.map _) (decodeBuffers_words buffers)
  | resourceInlineWrite b data => exact congrArg (Option.map _) (decodeBlock_words data)
  | uploadVertexFloats resHandle data => exact congrArg (Option.map _) (decodeBlock_bits data)
  | setFramebufferState zsurfHandle surfHandles =>
      have hcount : (UInt32.ofNat surfHandles.length).toNat = surfHandles.length := by
        have hlength : surfHandles.length + 2 ≤ 65535 := h.1
        exact UInt32.toNat_ofNat_of_lt' (by change _ < 2 ^ 32; omega)
      exact if_pos hcount
  | createSamplerView s =>
      -- four swizzles of three bits in one word
      obtain ⟨hr, hg, hb, ha⟩ := hfields
      have hword := toNat_packSwizzle hr hg hb ha
      have h0 : bitsOf _ 0 3 = s.swizzleR := bitsOf_eq (by rw [hword]; omega)
      have h3 : bitsOf _ 3 3 = s.swizzleG := bitsOf_eq (by rw [hword]; omega)
      have h6 : bitsOf _ 6 3 = s.swizzleB := bitsOf_eq (by rw [hword]; omega)
      have h9 : bitsOf _ 9 3 = s.swizzleA := bitsOf_eq (by rw [hword]; omega)
      change some (VirglCall.createSamplerView ⟨_, _, _, _, _, _, _, _, _⟩) = _
      rw [h0, h3, h6, h9]
      rfl
  | setScissorState s =>
      -- two corners of two halves each
      obtain ⟨hminX, hminY, hmaxX, hmaxY⟩ := hfields
      have hmin := toNat_packCorner hminX hminY
      have hmax := toNat_packCorner hmaxX hmaxY
      have h1 : bitsOf _ 0 16 = s.minX := bitsOf_eq (by rw [hmin]; omega)
      have h2 : bitsOf _ 16 16 = s.minY := bitsOf_eq (by rw [hmin]; omega)
      have h3 : bitsOf _ 0 16 = s.maxX := bitsOf_eq (by rw [hmax]; omega)
      have h4 : bitsOf _ 16 16 = s.maxY := bitsOf_eq (by rw [hmax]; omega)
      change some (VirglCall.setScissorState ⟨_, _, _, _, _⟩) = _
      rw [h1, h2, h3, h4]
      rfl
  | blit s0Flags dst src =>
      obtain ⟨hlevel, hformat, hlevel', hformat'⟩ := hfields
      change some (VirglCall.blit s0Flags (decodeBox _ _ _ _ _ _ _ _)
        (decodeBox _ _ _ _ _ _ _ _)) = _
      rw [decodeBox_words hlevel hformat, decodeBox_words hlevel' hformat']
      rfl
  | clear c =>
      change some (VirglCall.clear ⟨_, _, _, _, _, _ ||| _, _⟩) = _
      rw [double_halves]
      rfl
  | bindObject objType handle =>
      exact congrArg (fun o => some (VirglCall.bindObject o handle)) objType.ofNat_toNat
  | destroyObject objType handle =>
      exact congrArg (fun o => some (VirglCall.destroyObject o handle)) objType.ofNat_toNat
  | createSubCtx | setSubCtx | createSurface | createBlend | createDsa | createRasterizer
  | createSamplerState | bindShader | setViewport | setSamplerViews | bindSamplerStates
  | drawVbo => rfl

/-! ## Reading the buffer -/

/-- The bytes of the buffer, as the big-endian processor has stored the words. -/
def VirglCmdBuf.bytes (cbuf : VirglCmdBuf) : List ℕ :=
  (List.range cbuf.dwords.toNat).flatMap fun i => store32 (cbuf.buf i)

/-- A little-endian reader. -/
def readWords (bytes : List ℕ) : Option (List UInt32) :=
  (many (field 4) (bytes.length / 4) bytes).map fun read => read.1.map UInt32.ofNat

def decodeStream (bytes : List ℕ) : Option (List VirglCall) :=
  (readWords bytes).bind fun words => (split lengthOf words).bind fun packets =>
    packets.mapM decodePacket

theorem length_bytes (cbuf : VirglCmdBuf) : cbuf.bytes.length = 4 * cbuf.dwords.toNat := by
  simp [VirglCmdBuf.bytes, Nat.mul_comm]

theorem readWords_bytes (cbuf : VirglCmdBuf) : readWords cbuf.bytes = some cbuf.contents := by
  have hword : ∀ i, Reads (field 4) (store32 (cbuf.buf i)) (gp32 (cbuf.buf i)).toNat := by
    intro i
    have hread := reads_gp32 (gp32 (cbuf.buf i))
    rwa [gp32_gp32] at hread
  have hall := Reads.many hword (List.range cbuf.dwords.toNat) []
  have hcount : cbuf.bytes.length / 4 = (List.range cbuf.dwords.toNat).length := by
    rw [length_bytes, Nat.mul_div_cancel_left _ (by decide), List.length_range]
  rw [List.append_nil] at hall
  rw [readWords, hcount, VirglCmdBuf.bytes, hall]
  simp [VirglCmdBuf.contents]

/-- The buffer after some calls. -/
def encodeCalls (calls : List VirglCall) (cbuf : VirglCmdBuf) : VirglCmdBuf :=
  ((calls.forM VirglCall.perform) cbuf).2

theorem encodeCalls_eq (calls : List VirglCall) (cbuf : VirglCmdBuf) :
    encodeCalls calls cbuf = emitAll (stream (calls.map VirglCall.packet)) cbuf := by
  have hall := Emits.forM VirglCall.perform_emits calls cbuf
  rwa [← List.flatMap_map] at hall

/-- What the buffer holds after some calls, whatever its capacity. -/
theorem contents_encodeCalls (calls : List VirglCall) (buf : ℕ → UInt32) (maxDwords : UInt32)
    (inMemory : maxDwords.toNat ≤ 2 ^ 30) :
    (encodeCalls calls (virglCmdInit buf maxDwords inMemory)).contents =
      (stream (calls.map VirglCall.packet)).take maxDwords.toNat := by
  rw [encodeCalls_eq, (contents_emitAll _ _).2]
  rfl

theorem mapM_decodePacket {calls : List VirglCall} (h : ∀ call ∈ calls, call.Fits) :
    (calls.map VirglCall.packet).mapM decodePacket = some (calls.map VirglCall.seen) := by
  induction calls with
  | nil => rfl
  | cons call rest ih =>
      have hcall := decodePacket_packet (h call (List.mem_cons_self ..))
      have hrest := ih fun c hc => h c (List.mem_cons_of_mem _ hc)
      rw [List.map_cons, List.mapM_cons, hcall, hrest]
      rfl

/-! ## The stream decodes to the calls -/

/-- The little-endian words, cut by the lengths in the headers, are the packets of the calls, and
these decode to the calls as far as the packets show them. -/
theorem virgl_stream_decodes {calls : List VirglCall} (hfits : ∀ call ∈ calls, call.Fits)
    (buf : ℕ → UInt32) (maxDwords : UInt32) (inMemory : maxDwords.toNat ≤ 2 ^ 30)
    (hroom : (stream (calls.map VirglCall.packet)).length ≤ maxDwords.toNat) :
    let bytes := (encodeCalls calls (virglCmdInit buf maxDwords inMemory)).bytes
    (readWords bytes).bind (split lengthOf) = some (calls.map VirglCall.packet) ∧
      (∀ call ∈ calls, lengthOf call.packet.header = call.packet.payload.length) ∧
      decodeStream bytes = some (calls.map VirglCall.seen) ∧
      ((∀ call ∈ calls, call.Exact) → decodeStream bytes = some calls) := by
  have hframed : ∀ p ∈ calls.map VirglCall.packet, p.Framed lengthOf := by
    intro p hp
    obtain ⟨call, hcall, rfl⟩ := List.mem_map.mp hp
    exact (hfits call hcall).framed
  have hwords : readWords (encodeCalls calls (virglCmdInit buf maxDwords inMemory)).bytes =
      some (stream (calls.map VirglCall.packet)) := by
    rw [readWords_bytes, contents_encodeCalls, List.take_of_length_le hroom]
  have hdecoded : decodeStream (encodeCalls calls (virglCmdInit buf maxDwords inMemory)).bytes =
      some (calls.map VirglCall.seen) := by
    rw [decodeStream, hwords, Option.bind_some, split_stream hframed, Option.bind_some,
      mapM_decodePacket hfits]
  refine ⟨?_, fun call hcall => (hfits call hcall).framed, hdecoded, fun hexact => ?_⟩
  · rw [hwords, Option.bind_some, split_stream hframed]
  · have hseen : calls.map VirglCall.seen = calls := by
      calc
        calls.map VirglCall.seen = calls.map id :=
          List.map_congr_left fun call hcall => (hexact call hcall).seen
        _ = calls := List.map_id calls
    rw [hdecoded, hseen]

/-- A shader whose text with its `NUL` takes two words, and a write of three bytes. -/
theorem virgl_stream_decodes_shader :
    decodeStream (encodeCalls
        [.createShader 7 1 ⟨[70, 82, 65, 71], by decide, by decide⟩,
          .resourceInlineWrite (vertexBox 9 3) ⟨[1, 2, 3], by decide⟩]
        (virglCmdInit (fun _ => 0) 64 (by decide))).bytes =
      some [.createShader 7 1 ⟨[70, 82, 65, 71], by decide, by decide⟩,
        .resourceInlineWrite (vertexBox 9 3) ⟨[1, 2, 3, 0], by decide⟩] := by
  refine (virgl_stream_decodes ?_ _ _ _ (by decide)).2.2.1
  intro call hcall
  obtain rfl | rfl : call = _ ∨ call = _ := by simpa using hcall
  · exact ⟨by decide, trivial⟩
  · exact ⟨by decide, trivial⟩

/-- No reader of the packets gets all calls back: the number of bytes that an inline write was given
is in none of them. -/
theorem inlineWrite_ambiguous :
    ¬ ∃ read : List (Packet UInt32) → List VirglCall,
      ∀ calls : List VirglCall, (∀ call ∈ calls, call.Fits) →
        ∀ (buf : ℕ → UInt32) (maxDwords : UInt32) (inMemory : maxDwords.toNat ≤ 2 ^ 30),
          (stream (calls.map VirglCall.packet)).length ≤ maxDwords.toNat →
          ((readWords (encodeCalls calls (virglCmdInit buf maxDwords inMemory)).bytes).bind
            (split lengthOf)).map read = some calls := by
  rintro ⟨read, hread⟩
  have hone := hread [.resourceInlineWrite (vertexBox 9 1) ⟨[1], by decide⟩]
    (by simp [VirglCall.Fits, VirglCall.payload, InlineBox.words, Block.words])
    (fun _ => 0) 64 (by decide) (by decide)
  have htwo := hread [.resourceInlineWrite (vertexBox 9 1) ⟨[1, 0], by decide⟩]
    (by simp [VirglCall.Fits, VirglCall.payload, InlineBox.words, Block.words])
    (fun _ => 0) 64 (by decide) (by decide)
  have hsame : (encodeCalls [.resourceInlineWrite (vertexBox 9 1) ⟨[1], by decide⟩]
        (virglCmdInit (fun _ => 0) 64 (by decide))).bytes =
      (encodeCalls [.resourceInlineWrite (vertexBox 9 1) ⟨[1, 0], by decide⟩]
        (virglCmdInit (fun _ => 0) 64 (by decide))).bytes := by
    rw [encodeCalls_eq, encodeCalls_eq]
    rfl
  rw [hsame, htwo] at hone
  exact absurd hone (by decide)

end VirtIOGPU.Virgl
