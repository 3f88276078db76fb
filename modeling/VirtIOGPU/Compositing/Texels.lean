import VirtIOGPU.Compositing.Restore
import VirtIOGPU.Drawing.Colours

/-!
# Colours of textures

A pixel of the source is loaded as a big-endian word, stored in the stream with its bytes swapped,
copied to the texture, and read there under the pipe format.  For `RGBFB_A8R8G8B8` the four agree,
and every texel has the channels of its pixel.  The three other formats with 32 bits are uploaded in
the same way: their words are not rearranged, and their alpha is taken for a fill byte.  So only
pixels whose bytes happen to agree keep their colour (`colours_kept_iff`).

## Strategy

```text
stage                the bytes of a pixel             lemma
loading a word       0 1 2 3, the first one high      -
the stream           3 2 1 0                          upload_written
copying a strip      as in the stream                 inlineWrite_strip
reading the texel    as the pipe format names them    channels_eq_iff
```

`written_rows` puts the strips together, from the last one back: a row is what the last strip that
has it has written, and each row is in one strip only.  After that the question is about four bytes,
one format at a time, and `Format32.Kept` is the answer.
-/

namespace VirtIOGPU.Compositing

open Card Drawing Lib.Memory
open Wrappers (GpuDevice)
open Virgl (InlineBox Strip UploadRequest UploadState)

/-! ## What the host has -/

/-- The bytes of a texture: row, column, and the place of the byte in its texel. -/
abbrev Texels := ℕ → ℕ → ℕ → UInt8

/-- `RESOURCE_INLINE_WRITE` on the host: the bytes of the stream go to the box of the header. -/
def inlineWrite (words : List UInt32) (t : Texels) : Texels := fun row col k =>
  let box (i : ℕ) : ℕ := (words.getD i 0).toNat
  if (box 7 ≤ row ∧ row < box 7 + box 10) ∧ box 6 ≤ col ∧ col < box 6 + box 9 then
    byteOf ((words.drop 12).getD (((row - box 7) * box 4 + 4 * (col - box 6)) / 4) 0) (3 - k)
  else t row col k

/-- The texture after these strips. -/
def written (strips : List Strip) (t : Texels) : Texels :=
  strips.foldl (fun t s => inlineWrite s.words t) t

structure Channels where
  red : UInt8
  green : UInt8
  blue : UInt8
  alpha : UInt8
  deriving DecidableEq, Repr

/-- A texel under `PIPE_FORMAT_B8G8R8A8_UNORM` or `PIPE_FORMAT_B8G8R8X8_UNORM`; the fourth byte of
the latter reads as one. -/
def hostChannels (format : UInt32) (texel : ℕ → UInt8) : Channels :=
  ⟨texel 2, texel 1, texel 0, if format = pipeFmt true then texel 3 else 255⟩

/-! ## What the source has -/

/-- The formats with 32 bits. -/
inductive Format32 where
  | a8r8g8b8
  | a8b8g8r8
  | r8g8b8a8
  | b8g8r8a8
  deriving DecidableEq, Repr

def Format32.rgbFormat : Format32 → RgbFormat
  | .a8r8g8b8 => .a8r8g8b8
  | .a8b8g8r8 => .a8b8g8r8
  | .r8g8b8a8 => .r8g8b8a8
  | .b8g8r8a8 => .b8g8r8a8

def Format32.alpha (format : Format32) (f : ℕ → UInt8) : UInt8 :=
  match format with
  | .a8r8g8b8 | .a8b8g8r8 => f 0
  | .r8g8b8a8 | .b8g8r8a8 => f 3

/-- The channels of the pixel with these bytes. -/
def Format32.channels (format : Format32) (f : ℕ → UInt8) : Channels :=
  let colour := pixelColour (fun _ => ⟨0, 0, 0⟩) f format.rgbFormat
  ⟨colour.red, colour.green, colour.blue, format.alpha f⟩

/-- The bytes of a pixel that look the same in the format and in `RGBFB_A8R8G8B8`, with full
alpha. -/
def Format32.Kept (format : Format32) (f : ℕ → UInt8) : Prop :=
  match format with
  | .a8r8g8b8 => True
  | .a8b8g8r8 => f 0 = 255 ∧ f 1 = f 3
  | .r8g8b8a8 => f 0 = 255 ∧ f 1 = 255 ∧ f 2 = 255 ∧ f 3 = 255
  | .b8g8r8a8 => f 0 = 255 ∧ f 1 = f 2 ∧ f 3 = 255

instance (format : Format32) (f : ℕ → UInt8) : Decidable (format.Kept f) := by
  cases format
  all_goals
    unfold Format32.Kept
    infer_instance

/-- The pixel is `f`, and the texel has its bytes in the reverse order. -/
theorem channels_eq_iff (format : Format32) (f : ℕ → UInt8) :
    hostChannels (pipeFmt (rgbfType format.rgbFormat == .a8r8g8b8)) (fun k => f (3 - k)) =
      format.channels f ↔ format.Kept f := by
  cases format with
  | a8r8g8b8 => exact ⟨fun _ => trivial, fun _ => rfl⟩
  | a8b8g8r8 =>
      change Channels.mk (f 1) (f 2) (f 3) 255 = ⟨f 3, f 2, f 1, f 0⟩ ↔ f 0 = 255 ∧ f 1 = f 3
      rw [Channels.mk.injEq]
      exact ⟨fun h => ⟨h.2.2.2.symm, h.1⟩, fun h => ⟨h.2, rfl, h.2.symm, h.1.symm⟩⟩
  | r8g8b8a8 =>
      change Channels.mk (f 1) (f 2) (f 3) 255 = ⟨f 0, f 1, f 2, f 3⟩ ↔
        f 0 = 255 ∧ f 1 = 255 ∧ f 2 = 255 ∧ f 3 = 255
      rw [Channels.mk.injEq]
      constructor
      · rintro ⟨hred, hgreen, hblue, halpha⟩
        have h2 : f 2 = 255 := hblue.symm.trans halpha.symm
        have h1 : f 1 = 255 := hgreen.symm.trans h2
        exact ⟨hred.symm.trans h1, h1, h2, halpha.symm⟩
      · rintro ⟨h0, h1, h2, h3⟩
        exact ⟨h1.trans h0.symm, h2.trans h1.symm, h3.trans h2.symm, h3.symm⟩
  | b8g8r8a8 =>
      change Channels.mk (f 1) (f 2) (f 3) 255 = ⟨f 2, f 1, f 0, f 3⟩ ↔
        f 0 = 255 ∧ f 1 = f 2 ∧ f 3 = 255
      rw [Channels.mk.injEq]
      constructor
      · rintro ⟨hred, -, hblue, halpha⟩
        exact ⟨hblue.symm.trans halpha.symm, hred, halpha.symm⟩
      · rintro ⟨h0, hmiddle, h3⟩
        exact ⟨hmiddle, hmiddle.symm, h3.trans h0.symm, h3.symm⟩

/-! ## The texture -/

section Written

variable {load : UInt32 → UInt32} {r : UploadRequest}

/-- The place of an element in rows of the same length. -/
theorem getD_rows {β : Type} (g : ℕ → ℕ → β) (d : β) {n w i j : ℕ} (hi : i < n) (hj : j < w) :
    ((List.range n).flatMap fun i => (List.range w).map (g i)).getD (i * w + j) d = g i j := by
  induction n with
  | zero => exact absurd hi (Nat.not_lt_zero i)
  | succ n ih =>
      have hlength : ((List.range n).flatMap fun i => (List.range w).map (g i)).length = n * w := by
        rw [Virgl.length_flatMap_const fun i => by rw [List.length_map, List.length_range],
          List.length_range]
      rw [List.range_succ, List.flatMap_append, List.flatMap_singleton]
      rcases Nat.lt_succ_iff_lt_or_eq.mp hi with hlt | rfl
      · have hinside : i * w + j < n * w := by
          calc
            i * w + j < i * w + w := Nat.add_lt_add_left hj _
            _ = (i + 1) * w := (Nat.succ_mul i w).symm
            _ ≤ n * w := Nat.mul_le_mul_right w hlt
        rw [List.getD_append _ _ _ _ (hlength ▸ hinside)]
        exact ih hlt
      · rw [List.getD_append_right _ _ _ _ (hlength ▸ Nat.le_add_right _ _), hlength,
          Nat.add_sub_cancel_left, List.getD_eq_getElem _ _ (by simpa using hj), List.getElem_map,
          List.getElem_range]

/-- A strip writes its rows, and nothing else. -/
theorem inlineWrite_strip {s : Strip} (hvalid : r.Valid) (hwhole : s.Whole load r)
    (horigin : r.x = 0 ∧ r.y = 0) (t : Texels) (row : ℕ) {col : ℕ} (hcol : col < r.w.toNat)
    (k : ℕ) :
    inlineWrite s.words t row col k =
      if row ∈ s.span then
        byteOf (load (r.src + UInt32.ofNat (row * r.srcBpr.toNat + 4 * col))) (3 - k)
      else t row col k := by
  have hstride : (r.w * 4).toNat = r.w.toNat * 4 := by
    rw [UInt32.toNat_mul]
    exact Nat.mod_eq_of_lt (by have := hvalid.width_le; change _ * 4 < _; omega)
  have hfirst : (r.y + s.first).toNat = s.first.toNat := by
    rw [horigin.2, UInt32.zero_add]
  have hleft : r.x.toNat = 0 := by
    rw [horigin.1]
    rfl
  have hbox : inlineWrite s.words t row col k =
      if ((r.y + s.first).toNat ≤ row ∧ row < (r.y + s.first).toNat + s.rows.toNat) ∧
          r.x.toNat ≤ col ∧ col < r.x.toNat + r.w.toNat then
        byteOf (((List.range s.rows.toNat).flatMap fun row => (List.range r.w.toNat).map fun col =>
          load (r.src + UInt32.ofNat ((s.first.toNat + row) * r.srcBpr.toNat + 4 * col))).getD
            (((row - (r.y + s.first).toNat) * (r.w * 4).toNat + 4 * (col - r.x.toNat)) / 4) 0)
          (3 - k)
      else t row col k := by
    rw [hwhole.words]
    rfl
  rw [hstride, hfirst, hleft] at hbox
  rw [hbox]
  by_cases hrow : row ∈ s.span
  · have hbounds := List.mem_range'_1.mp hrow
    have hindex : ((row - s.first.toNat) * (r.w.toNat * 4) + 4 * (col - 0)) / 4 =
        (row - s.first.toNat) * r.w.toNat + col := by
      rw [← Nat.mul_assoc]
      omega
    rw [if_pos hrow, if_pos ⟨hbounds, Nat.zero_le _, by rwa [Nat.zero_add]⟩, hindex,
      getD_rows _ _ (by omega) hcol, Nat.add_sub_cancel' hbounds.1]
  · rw [if_neg hrow, if_neg fun h => hrow (List.mem_range'_1.mpr h.1)]

/-- After the strips every row that one of them has written is there. -/
theorem written_rows {strips : List Strip} (hvalid : r.Valid) (horigin : r.x = 0 ∧ r.y = 0)
    (hwhole : ∀ s ∈ strips, s.Whole load r) (t : Texels) {row col : ℕ} (hcol : col < r.w.toNat)
    (hrow : row ∈ strips.flatMap Strip.span) (k : ℕ) :
    written strips t row col k =
      byteOf (load (r.src + UInt32.ofNat (row * r.srcBpr.toNat + 4 * col))) (3 - k) := by
  induction strips using List.reverseRecOn with
  | nil => cases hrow
  | append_singleton strips s ih =>
      have hlast : written (strips ++ [s]) t = inlineWrite s.words (written strips t) :=
        List.foldl_concat ..
      rw [hlast, inlineWrite_strip hvalid (hwhole s (by simp)) horigin _ row hcol k]
      split
      · rfl
      · next hnot =>
        refine ih (fun other hother => hwhole other (List.mem_append_left _ hother)) ?_
        rw [List.flatMap_append, List.mem_append, List.flatMap_singleton] at hrow
        exact hrow.resolve_right hnot

end Written

/-! ## The result -/

namespace CompositeRequest

variable (r : CompositeRequest)

/-- The upload of the source region to a resource. -/
def upload (res : UInt32) : UploadRequest :=
  ⟨res, r.srcRegion, r.srcBpr, 0, 0, r.srcW.toUInt32, r.srcH.toUInt32⟩

/-- The address of a pixel of the source region. -/
def pixelAddress (row col : ℕ) : UInt32 :=
  r.srcData + (r.srcY.toUInt32 + UInt32.ofNat row) * r.srcBpr +
    (r.srcX.toUInt32 + UInt32.ofNat col) * 4

theorem pixelAddress_eq (row col : ℕ) :
    r.srcRegion + UInt32.ofNat (row * r.srcBpr.toNat + 4 * col) = r.pixelAddress row col := by
  have hfour : (UInt32.ofNat 4 : UInt32) = 4 := rfl
  rw [srcRegion, pixelAddress, UInt32.ofNat_add, UInt32.ofNat_mul, UInt32.ofNat_mul,
    UInt32.ofNat_toNat, hfour, UInt32.add_mul, UInt32.add_mul, UInt32.mul_comm 4]
  ac_rfl

variable {r}

theorem Uploads.valid (h : r.Uploads) (res : UInt32) : (r.upload res).Valid := by
  obtain ⟨-, -, ⟨hw, hh, -⟩, hsmall⟩ := h
  rw [not_or, UInt32.not_lt, UInt32.not_lt, UInt32.le_iff_toNat_le, UInt32.le_iff_toNat_le]
    at hsmall
  have hpos {n : UInt32} (hn : n ≠ 0) : 0 < n.toNat :=
    Nat.pos_of_ne_zero fun hzero => hn (UInt32.toNat_inj.mp hzero)
  exact ⟨hpos hw, hsmall.1, hpos hh, hsmall.2⟩

end CompositeRequest

/-- After an upload every row is in the texture. -/
theorem upload_written {device : GpuDevice} {ctxId : UInt32} {load : UInt32 → UInt32}
    {alloc : Option (ℕ → UInt32)} {r : UploadRequest} (hvalid : r.Valid)
    (horigin : r.x = 0 ∧ r.y = 0) {st : UploadState}
    (hok : (Virgl.chipCompUploadPixels32bpp device ctxId load alloc r st).1 = true) (t : Texels)
    {row col : ℕ} (hrow : row < r.h.toNat) (hcol : col < r.w.toNat) (k : ℕ) :
    written ((Virgl.chipCompUploadPixels32bpp device ctxId load alloc r st).2.strips.drop
        st.strips.length) t row col k =
      byteOf (load (r.src + UInt32.ofNat (row * r.srcBpr.toNat + 4 * col))) (3 - k) := by
  cases alloc with
  | none => cases hok
  | some cmdWords =>
      obtain ⟨-, strips, hstrips, ⟨hwhole, ⟨count, -, hrows, hlast⟩, -, -⟩, -⟩ :=
        @UploadRequest.Valid.strips_spec load r device ctxId r.h.toNat 0 cmdWords
          { st with held := st.held + 1 } hvalid (Nat.zero_le _) (Nat.le_add_left _ _)
      have hcount : 0 + count = r.h.toNat := hlast hok
      have hsent : (Virgl.chipCompUploadPixels32bpp device ctxId load (some cmdWords) r st).2.strips
          = st.strips ++ strips := hstrips
      rw [hsent, List.drop_left]
      refine written_rows hvalid horigin hwhole t hcol ?_ k
      rw [hrows, List.mem_range'_1]
      exact ⟨Nat.zero_le _, hcount ▸ hrow⟩

/-- For every 32-bit format, bitmap, memory and device: where the source gets to a texture and its
pixels have been sent, the host reads the channels of a pixel if and only if the format is
`RGBFB_A8R8G8B8` or the bytes of the pixel agree as `Format32.Kept` says. -/
theorem colours_kept_iff (device : GpuDevice) (ctxId : UInt32) (m : Mem UInt8)
    (alloc : Option (ℕ → UInt32)) (format : Format32) (r : CompositeRequest)
    (hformat : r.srcFormat = rgbfType format.rgbFormat) (huploads : r.Uploads) (res : UInt32)
    (st : UploadState) (t : Texels)
    (hok : (Virgl.chipCompUploadPixels32bpp device ctxId (fun a => loadLong m a.toNat) alloc
      (r.upload res) st).1 = true) (row col : ℕ) (hrow : row < r.srcH.toUInt32.toNat)
    (hcol : col < r.srcW.toUInt32.toNat) :
    let strips := (Virgl.chipCompUploadPixels32bpp device ctxId (fun a => loadLong m a.toNat) alloc
      (r.upload res) st).2.strips.drop st.strips.length
    let pixel k := m ((r.pixelAddress row col).toNat + k)
    hostChannels (pipeFmt r.hasAlpha) (written strips t row col) = format.channels pixel ↔
      format.Kept pixel := by
  intro strips pixel
  have htexel : written strips t row col = fun k => pixel (3 - k) := by
    funext k
    rw [upload_written (huploads.valid res) ⟨rfl, rfl⟩ hok t hrow hcol k]
    change byteOf (loadLong m
      (r.srcRegion + UInt32.ofNat (row * r.srcBpr.toNat + 4 * col)).toNat) (3 - k) = _
    rw [r.pixelAddress_eq, byteOf_loadLong m _ (by omega)]
  rw [htexel, CompositeRequest.hasAlpha, hformat]
  exact channels_eq_iff format pixel

/-- One pixel of a bitmap in this format. -/
def onePixel (format : Format32) : CompositeRequest :=
  ⟨3, .bitMap ⟨1, 64, 16, 16, rgbfType format.rgbFormat⟩, 0x1000, 64, rgbfType format.rgbFormat,
    0, 0, 1, 1, 0, 0, 1, 1, 0, 0⟩

/-- A word of memory, and zeros. -/
def memoryWith (word : UInt32) : Mem UInt8 := fun a =>
  if 0x1000 ≤ a ∧ a < 0x1004 then byteOf word (a - 0x1000) else 0

def uploadStart : UploadState :=
  ⟨⟨.filled { Wrappers.ChannelFields.bare with cmd3dBuf := true } 0, false⟩, 0, []⟩

/-- What the upload of that pixel returns. -/
def onePixelResult (format : Format32) (word : UInt32) : Bool × UploadState :=
  Virgl.chipCompUploadPixels32bpp Wrappers.accepting 1 (fun a => loadLong (memoryWith word) a.toNat)
    (some fun _ => 0) ((onePixel format).upload 21) uploadStart

/-- Red with half alpha, as `RGBFB_A8R8G8B8`. -/
theorem colours_kept_argb :
    hostChannels (pipeFmt true) (written (onePixelResult .a8r8g8b8 0x80FF0000).2.strips
      (fun _ _ _ => 0) 0 0) = ⟨255, 0, 0, 128⟩ :=
  (colours_kept_iff Wrappers.accepting 1 (memoryWith 0x80FF0000) (some fun _ => 0) .a8r8g8b8
    (onePixel .a8r8g8b8) rfl (by decide) 21 uploadStart (fun _ _ _ => 0) (by decide +kernel) 0 0
    (by decide) (by decide)).mpr trivial

/-- Red as `RGBFB_R8G8B8A8` is sampled as blue. -/
theorem colours_not_kept :
    (onePixel .r8g8b8a8).Uploads ∧ (onePixelResult .r8g8b8a8 0xFF0000FF).1 = true ∧
      Format32.channels .r8g8b8a8 (fun k => memoryWith 0xFF0000FF (0x1000 + k)) =
        ⟨255, 0, 0, 255⟩ ∧
      hostChannels (pipeFmt (onePixel .r8g8b8a8).hasAlpha)
        (written (onePixelResult .r8g8b8a8 0xFF0000FF).2.strips (fun _ _ _ => 0) 0 0) =
          ⟨0, 0, 255, 255⟩ := by
  refine ⟨by decide, by decide +kernel, by decide, by decide +kernel⟩

end VirtIOGPU.Compositing
