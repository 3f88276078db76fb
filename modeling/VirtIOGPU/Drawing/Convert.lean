import VirtIOGPU.Framebuffer.ModeSwitch
import VirtIOGPU.Drawing.Rows
import VirtIOGPU.Lib.Transfer

/-!
# Row converters

`conv_row_*` of `chip_flush.c` bring a row of the panned bitmap to the layout of the frame buffer,
32 bits of blue, green, red and a fourth byte.  All of them are one loop over the pixels
(`convRow`) with a conversion of its own; `converted` is the conversion of the pixel at an address.
-/

namespace VirtIOGPU.Drawing

open Lib.Memory

abbrev Palette := UInt8 → UInt32

/-- A 16-bit load. -/
def loadShort (m : Mem UInt8) (a : ℕ) : UInt32 :=
  UInt32.ofNat ((m a).toNat * 256 + (m (a + 1)).toNat)

/-! ## One pixel -/

def clutPixel (palette : Palette) (m : Mem UInt8) (a : ℕ) : UInt32 := palette (m a)

def r5g6b5Pixel (m : Mem UInt8) (a : ℕ) : UInt32 :=
  let v := loadShort m a
  let r := (v >>> 11) &&& 0x1F
  let g := (v >>> 5) &&& 0x3F
  let b := v &&& 0x1F
  let r := (r <<< 3) ||| (r >>> 2)
  let g := (g <<< 2) ||| (g >>> 4)
  let b := (b <<< 3) ||| (b >>> 2)
  (b <<< 24) ||| (g <<< 16) ||| (r <<< 8)

def r5g5b5Pixel (m : Mem UInt8) (a : ℕ) : UInt32 :=
  let v := loadShort m a
  let r := (v >>> 10) &&& 0x1F
  let g := (v >>> 5) &&& 0x1F
  let b := v &&& 0x1F
  let r := (r <<< 3) ||| (r >>> 2)
  let g := (g <<< 3) ||| (g >>> 2)
  let b := (b <<< 3) ||| (b >>> 2)
  (b <<< 24) ||| (g <<< 16) ||| (r <<< 8)

def a8r8g8b8Pixel (m : Mem UInt8) (a : ℕ) : UInt32 :=
  let s := loadLong m a
  (s <<< 24) ||| ((s &&& 0x0000FF00) <<< 8) ||| ((s &&& 0x00FF0000) >>> 8) ||| (s >>> 24)

def r8g8b8a8Pixel (m : Mem UInt8) (a : ℕ) : UInt32 :=
  let s := loadLong m a
  (s &&& (0x00FF00FF : UInt32)) ||| ((s &&& 0x0000FF00) <<< 16) ||| ((s &&& 0xFF000000) >>> 16)

def a8b8g8r8Pixel (m : Mem UInt8) (a : ℕ) : UInt32 :=
  let s := loadLong m a
  (s <<< 8) ||| (s >>> 24)

/-! ## The converters -/

/-- The loop over the pixels of a row. -/
def convRow (bpp : ℕ) (pixel : Mem UInt8 → ℕ → UInt32) (src dst w : ℕ) (m : Mem UInt8) :
    Mem UInt8 :=
  up w (fun col m => storeLong (dst + 4 * col) (pixel m (src + bpp * col)) m) m

/-- `row_conv_fn`. -/
abbrev RowConvFn := ℕ → ℕ → ℕ → Palette → Mem UInt8 → Mem UInt8

def convRowClut : RowConvFn := fun src dst w palette => convRow 1 (clutPixel palette) src dst w
def convRowR5G6B5 : RowConvFn := fun src dst w _ => convRow 2 r5g6b5Pixel src dst w
def convRowR5G5B5 : RowConvFn := fun src dst w _ => convRow 2 r5g5b5Pixel src dst w
def convRowA8R8G8B8 : RowConvFn := fun src dst w _ => convRow 4 a8r8g8b8Pixel src dst w
def convRowR8G8B8A8 : RowConvFn := fun src dst w _ => convRow 4 r8g8b8a8Pixel src dst w
def convRowA8B8G8R8 : RowConvFn := fun src dst w _ => convRow 4 a8b8g8r8Pixel src dst w

/-- The layout is that of the frame buffer, so a row is left alone where it is. -/
def convRowB8G8R8A8 : RowConvFn := fun src dst w _ m =>
  if src = dst then m else convRow 4 loadLong src dst w m

/-- `chip_pick_row_converter`. -/
def chipPickRowConverter : RgbFormat → Option RowConvFn
  | .clut => some convRowClut
  | .r5g6b5 => some convRowR5G6B5
  | .r5g5b5 => some convRowR5G5B5
  | .a8r8g8b8 => some convRowA8R8G8B8
  | .b8g8r8a8 => some convRowB8G8R8A8
  | .r8g8b8a8 => some convRowR8G8B8A8
  | .a8b8g8r8 => some convRowA8B8G8R8
  | .other _ => none

def rgbfType : RgbFormat → RgbfType
  | .clut => .clut
  | .r5g6b5 => .r5g6b5
  | .r5g5b5 => .r5g5b5
  | .a8r8g8b8 => .a8r8g8b8
  | .b8g8r8a8 => .b8g8r8a8
  | .r8g8b8a8 => .r8g8b8a8
  | .a8b8g8r8 => .a8b8g8r8
  | .other code => .other code

/-- `chip_format_bpp`. -/
abbrev formatBpp (format : RgbFormat) : ℕ := chipFormatBpp (rgbfType format)

theorem formatBpp_le (format : RgbFormat) : formatBpp format ≤ 4 := by
  cases format <;> simp [formatBpp, rgbfType, chipFormatBpp]

/-! ## The conversion of a format -/

/-- The colour of the pixel at an address, for the formats that have a converter. -/
def converted (format : RgbFormat) (palette : Palette) : Mem UInt8 → ℕ → UInt32 :=
  match format with
  | .clut => clutPixel palette
  | .r5g6b5 => r5g6b5Pixel
  | .r5g5b5 => r5g5b5Pixel
  | .a8r8g8b8 => a8r8g8b8Pixel
  | .b8g8r8a8 => loadLong
  | .r8g8b8a8 => r8g8b8a8Pixel
  | .a8b8g8r8 => a8b8g8r8Pixel
  | .other _ => fun _ _ => 0

/-- A row that is converted to its own layout where it is does not change. -/
theorem convRow_loadLong_self (src w : ℕ) (m : Mem UInt8) : convRow 4 loadLong src src w m = m := by
  apply up_induction (P := fun _ t => t = m) rfl
  rintro col _ t rfl
  rw [storeLong_loadLong]
  funext a
  unfold overwrite
  split
  · exact congrArg t (by omega)
  · rfl

theorem convRow_outside (bpp : ℕ) (pixel : Mem UInt8 → ℕ → UInt32) (src dst w : ℕ) (m : Mem UInt8)
    {a : ℕ} (ha : a < dst ∨ dst + 4 * w ≤ a) : convRow bpp pixel src dst w m a = m a := by
  unfold convRow
  apply up_induction (P := fun (_ : ℕ) (m' : Mem UInt8) => m' a = m a)
  · rfl
  · intro i hi m' hm'
    calc
      storeLong (dst + 4 * i) (pixel m' (src + bpp * i)) m' a = m' a :=
        overwrite_outside (by omega)
      _ = m a := hm'

/-- The first pixel is converted from the memory as it was, and stays. -/
theorem convRow_first (bpp : ℕ) (pixel : Mem UInt8 → ℕ → UInt32) (src dst : ℕ) {w : ℕ} (hw : 0 < w)
    (m : Mem UInt8) {k : ℕ} (hk : k < 4) :
    convRow bpp pixel src dst w m (dst + k) = byteOf (pixel m src) k := by
  have hfirst : (w = 0 → convRow bpp pixel src dst w m = m) ∧
      (0 < w → convRow bpp pixel src dst w m (dst + k) = byteOf (pixel m src) k) := by
    unfold convRow
    refine up_induction (P := fun col m' => (col = 0 → m' = m) ∧
      (0 < col → m' (dst + k) = byteOf (pixel m src) k))
      ⟨fun _ => rfl, fun h => absurd h (Nat.lt_irrefl 0)⟩ fun col _ m' h => ?_
    refine ⟨fun h => absurd h (by omega), fun _ => ?_⟩
    rcases Nat.eq_zero_or_pos col with rfl | hpos
    · rw [h.1 rfl]
      exact overwrite_inside hk
    · calc
        storeLong (dst + 4 * col) (pixel m' (src + bpp * col)) m' (dst + k) = m' (dst + k) :=
          overwrite_outside (by omega)
        _ = byteOf (pixel m src) k := h.2 hpos
  exact hfirst.2 hw

theorem chipPickRowConverter_isSome (format : RgbFormat) :
    (chipPickRowConverter format).isSome = format.hasRowConverter := by
  cases format <;> rfl

/-- Every converter is the loop with the conversion of its format. -/
theorem chipPickRowConverter_eq {format : RgbFormat} (hsupported : format.hasRowConverter = true) :
    ∃ conv, chipPickRowConverter format = some conv ∧ ∀ src dst w palette m,
      conv src dst w palette m =
        convRow (formatBpp format) (converted format palette) src dst w m := by
  cases format with
  | b8g8r8a8 =>
      refine ⟨_, rfl, fun src dst w palette m => ?_⟩
      unfold convRowB8G8R8A8
      split
      · next hsame =>
          rw [hsame]
          exact (convRow_loadLong_self dst w m).symm
      · rfl
  | other code => cases hsupported
  | _ => exact ⟨_, rfl, fun _ _ _ _ _ => rfl⟩

/-! ## Which bytes a conversion depends on -/

theorem converted_shift (format : RgbFormat) (palette : Palette) (m : Mem UInt8) (a : ℕ) :
    converted format palette m a = converted format palette (fun k => m (a + k)) 0 := by
  cases format <;> rfl

/-- Only the bytes of the pixel are read. -/
theorem converted_congr (format : RgbFormat) (palette : Palette) {f g : Mem UInt8}
    (h : ∀ k < formatBpp format, f k = g k) :
    converted format palette f 0 = converted format palette g 0 := by
  have hshort (hbpp : 2 ≤ formatBpp format) : loadShort f 0 = loadShort g 0 := by
    rw [loadShort, loadShort, h 0 (by omega), h (0 + 1) (by omega)]
  have hlong (hbpp : 4 ≤ formatBpp format) : loadLong f 0 = loadLong g 0 := by
    rw [loadLong, loadLong, h 0 (by omega), h (0 + 1) (by omega), h (0 + 2) (by omega),
      h (0 + 3) (by omega)]
  cases format with
  | clut => exact congrArg palette (h 0 (by decide))
  | r5g6b5 => rw [converted, r5g6b5Pixel, r5g6b5Pixel, hshort (by decide)]
  | r5g5b5 => rw [converted, r5g5b5Pixel, r5g5b5Pixel, hshort (by decide)]
  | a8r8g8b8 => rw [converted, a8r8g8b8Pixel, a8r8g8b8Pixel, hlong (by decide)]
  | b8g8r8a8 => exact hlong (by decide)
  | r8g8b8a8 => rw [converted, r8g8b8a8Pixel, r8g8b8a8Pixel, hlong (by decide)]
  | a8b8g8r8 => rw [converted, a8b8g8r8Pixel, a8b8g8r8Pixel, hlong (by decide)]
  | other code => rfl

/-- Colour 0 is black, and all others are not. -/
def blackFirst : Palette := fun i => if i = 0 then 0 else 0xFFFFFFFF

theorem converted_blank (format : RgbFormat) : converted format blackFirst (fun _ => 0) 0 = 0 := by
  cases format with
  | other code => rfl
  | _ => decide

/-- Every byte of a pixel counts. -/
theorem converted_marked (format : RgbFormat) (hsupported : format.hasRowConverter = true) {k : ℕ}
    (hk : k < formatBpp format) :
    converted format blackFirst (Transfers.marked 0 0xFF k) 0 ≠ 0 := by
  have hall : ∀ k : Fin (formatBpp format),
      converted format blackFirst (Transfers.marked 0 0xFF k) 0 ≠ 0 := by
    cases format with
    | other code => cases hsupported
    | _ => decide +kernel
  exact hall ⟨k, hk⟩

/-- The marks of the first format look like marks of the second one, `shift` bytes on. -/
def Alike (f f' : RgbFormat) (shift : ℕ) : Prop :=
  ∀ k < formatBpp f, shift + k < formatBpp f' ∧
    converted f blackFirst (Transfers.marked 0 0xFF k) 0 =
      converted f' blackFirst (Transfers.marked 0 0xFF (shift + k)) 0

instance (f f' : RgbFormat) (shift : ℕ) : Decidable (Alike f f' shift) :=
  inferInstanceAs (Decidable (∀ k < _, _))

theorem not_alike {f f' : RgbFormat} (hf : f.hasRowConverter = true)
    (hf' : f'.hasRowConverter = true) (hne : f ≠ f') :
    ∀ shift < formatBpp f', ¬ Alike f f' shift := by
  cases f' with
  | other code => cases hf'
  | _ =>
      cases f with
      | other code => cases hf
      | _ => first | exact absurd rfl hne | decide +kernel

/-- A marked byte, seen from an address before it. -/
theorem converted_marked_at (format : RgbFormat) (palette : Palette) (a k : ℕ) :
    converted format palette (Transfers.marked 0 0xFF (a + k)) a =
      converted format palette (Transfers.marked 0 0xFF k) 0 := by
  rw [converted_shift]
  apply converted_congr
  intro l _
  unfold Transfers.marked
  by_cases hl : l = k
  · rw [if_pos hl, if_pos (by rw [hl])]
  · rw [if_neg hl, if_neg (by omega)]

/-- Only a mark in the pixel gives a colour other than black. -/
theorem converted_marked_ne {format : RgbFormat} {a p : ℕ}
    (h : converted format blackFirst (Transfers.marked 0 0xFF p) a ≠ 0) :
    a ≤ p ∧ p < a + formatBpp format := by
  by_contra hout
  apply h
  rw [converted_shift, ← converted_blank format]
  apply converted_congr
  intro k hk
  apply if_neg
  omega

/-- Two formats read different colours, wherever they read them. -/
theorem formats_differ {f f' : RgbFormat} (hf : f.hasRowConverter = true)
    (hf' : f'.hasRowConverter = true) (hne : f ≠ f') (a a' : ℕ) :
    ∃ m, converted f blackFirst m a ≠ converted f' blackFirst m a' := by
  by_contra hall
  push Not at hall
  -- a byte that the first format reads is also read by the second one
  have hmarked (k : ℕ) (hk : k < formatBpp f) : a' ≤ a + k ∧ a + k < a' + formatBpp f' := by
    apply converted_marked_ne
    rw [← hall, converted_marked_at]
    exact converted_marked f hf hk
  have hbpp : 0 < formatBpp f := chipFormatBpp_pos _
  obtain ⟨hle, hlt⟩ := hmarked 0 hbpp
  obtain ⟨shift, hshift⟩ := Nat.exists_eq_add_of_le hle
  rw [Nat.add_zero] at hshift
  refine not_alike hf hf' hne shift (by omega) fun k hk => ?_
  obtain ⟨-, hend⟩ := hmarked k hk
  have hsame := hall (Transfers.marked 0 0xFF (a + k))
  rw [converted_marked_at, hshift, Nat.add_assoc, converted_marked_at] at hsame
  exact ⟨by omega, hsame⟩

end VirtIOGPU.Drawing
