import Mathlib.Data.List.Induction
import VirtIOGPU.Drawing.Convert

/-!
# Colours

The frame buffer has the blue, the green and the red of a pixel in its first three bytes.  A pixel
of the bitmap is one of 256 colours of a table, or has the three channels side by side, with 8 bits
or with fewer.  Every converter and `chip_SetColorArray` bring the channels to the same place, so
that a row keeps its colours (`colours_preserved`).
-/

namespace VirtIOGPU.Drawing

open Lib.Memory

structure Colour where
  red : UInt8
  green : UInt8
  blue : UInt8
deriving DecidableEq

/-! ## The colour of a pixel -/

/-- Eight bits of a channel that has fewer: its bits, repeated until there are enough. -/
def replicated {n : ℕ} (channel : BitVec n) : UInt8 :=
  ⟨(channel ++ channel).extractLsb' (2 * n - 8) 8⟩

/-- Two bytes of a pixel as one big-endian word. -/
def shortAt (f : Mem UInt8) : BitVec 16 := (f 0).toBitVec ++ (f 1).toBitVec

/-- The colour of the pixel whose bytes are `f`.  The name of a format lists the channels from the
most significant bit on. -/
def pixelColour (table : UInt8 → Colour) (f : Mem UInt8) : RgbFormat → Colour
  | .clut => table (f 0)
  | .r5g6b5 =>
      ⟨replicated ((shortAt f).extractLsb' 11 5), replicated ((shortAt f).extractLsb' 5 6),
        replicated ((shortAt f).extractLsb' 0 5)⟩
  | .r5g5b5 =>
      ⟨replicated ((shortAt f).extractLsb' 10 5), replicated ((shortAt f).extractLsb' 5 5),
        replicated ((shortAt f).extractLsb' 0 5)⟩
  | .a8r8g8b8 => ⟨f 1, f 2, f 3⟩
  | .b8g8r8a8 => ⟨f 2, f 1, f 0⟩
  | .r8g8b8a8 => ⟨f 0, f 1, f 2⟩
  | .a8b8g8r8 => ⟨f 3, f 2, f 1⟩
  | .other _ => ⟨0, 0, 0⟩

/-! ## `chip_SetColorArray` -/

/-- `bi->CLUT`: three bytes for each colour. -/
abbrev ColorTable := ℕ → UInt8

def paletteEntry (clut : ColorTable) (i : ℕ) : UInt32 :=
  let r := clut (i * 3 + 0)
  let g := clut (i * 3 + 1)
  let b := clut (i * 3 + 2)
  (b.toUInt32 <<< 24) ||| (g.toUInt32 <<< 16) ||| (r.toUInt32 <<< 8)

/-- What it does to the palette.  The loop ends at `start + count`, and at 256. -/
def chipSetColorArray (clut : ColorTable) (start count : UInt16) (palette : Palette) : Palette :=
  (List.range' start.toNat (min (start.toNat + count.toNat) 256 - start.toNat)).foldl
    (fun palette i => Function.update palette (UInt8.ofNat i) (paletteEntry clut i)) palette

/-- A call, with the table as it is then. -/
structure ColorCall where
  clut : ColorTable
  start : UInt16
  count : UInt16

/-- The palette after some calls; it is allocated as zeros. -/
def paletteAfter (calls : List ColorCall) : Palette :=
  calls.foldl (fun palette call => chipSetColorArray call.clut call.start call.count palette)
    fun _ => 0

/-- The call sets colour `i`. -/
def ColorCall.Sets (call : ColorCall) (i : UInt8) : Prop :=
  call.start.toNat ≤ i.toNat ∧ i.toNat < call.start.toNat + call.count.toNat

instance (call : ColorCall) (i : UInt8) : Decidable (call.Sets i) :=
  inferInstanceAs (Decidable (_ ∧ _))

/-- Colour `i` of the table. -/
def tableColour (clut : ColorTable) (i : UInt8) : Colour :=
  ⟨clut (3 * i.toNat), clut (3 * i.toNat + 1), clut (3 * i.toNat + 2)⟩

/-- Colour `i` as it was when last set; a colour that has never been set is black. -/
def colourSet (calls : List ColorCall) (i : UInt8) : Colour :=
  match calls.reverse.find? fun call => call.Sets i with
  | some call => tableColour call.clut i
  | none => ⟨0, 0, 0⟩

/-! ## The place of the channels -/

/-- The first three bytes of a word of the frame buffer. -/
def ShowsColour (colour : Colour) (word : ℕ → UInt8) : Prop :=
  word 0 = colour.blue ∧ word 1 = colour.green ∧ word 2 = colour.red

section

variable (v : UInt32) {k : ℕ}

theorem left_eight (hk : k < 4) :
    byteOf (v <<< 8) k = if 1 + k < 4 then byteOf v (1 + k) else 0 :=
  byteOf_shiftLeft v rfl (by decide) hk

theorem left_sixteen (hk : k < 4) :
    byteOf (v <<< 16) k = if 2 + k < 4 then byteOf v (2 + k) else 0 :=
  byteOf_shiftLeft v rfl (by decide) hk

theorem left_twentyFour (hk : k < 4) :
    byteOf (v <<< 24) k = if 3 + k < 4 then byteOf v (3 + k) else 0 :=
  byteOf_shiftLeft v rfl (by decide) hk

theorem right_eight (hk : k < 4) :
    byteOf (v >>> 8) k = if 1 ≤ k then byteOf v (k - 1) else 0 :=
  byteOf_shiftRight v rfl (by decide) hk

theorem right_sixteen (hk : k < 4) :
    byteOf (v >>> 16) k = if 2 ≤ k then byteOf v (k - 2) else 0 :=
  byteOf_shiftRight v rfl (by decide) hk

theorem right_twentyFour (hk : k < 4) :
    byteOf (v >>> 24) k = if 3 ≤ k then byteOf v (k - 3) else 0 :=
  byteOf_shiftRight v rfl (by decide) hk

end

/-- The three channels, shifted to their places. -/
theorem packed_shows (r g b : UInt8) :
    ShowsColour ⟨r, g, b⟩
      (byteOf ((b.toUInt32 <<< 24) ||| (g.toUInt32 <<< 16) ||| (r.toUInt32 <<< 8))) := by
  refine ⟨?_, ?_, ?_⟩ <;>
    simp [byteOf_or, left_eight, left_sixteen, left_twentyFour, byteOf_toUInt32]

/-- The bytes in the reverse order. -/
theorem reversed_shows (s : UInt32) :
    ShowsColour ⟨byteOf s 1, byteOf s 2, byteOf s 3⟩ (byteOf
      ((s <<< 24) ||| ((s &&& 0x0000FF00) <<< 8) ||| ((s &&& 0x00FF0000) >>> 8) |||
        (s >>> 24))) := by
  have hall (x : UInt8) : x &&& 255 = x := UInt8.and_neg_one
  have hlow : byteOf 0x0000FF00 1 = 0 ∧ byteOf 0x0000FF00 2 = 0xFF ∧
      byteOf 0x0000FF00 3 = 0 := by decide
  have hhigh : byteOf 0x00FF0000 0 = 0 ∧ byteOf 0x00FF0000 1 = 0xFF := by decide
  refine ⟨?_, ?_, ?_⟩ <;>
    simp [byteOf_or, byteOf_and, left_eight, left_twentyFour, right_eight, right_twentyFour,
      hall, hlow, hhigh]

/-- The first and the third byte exchanged. -/
theorem exchanged_shows (s : UInt32) :
    ShowsColour ⟨byteOf s 0, byteOf s 1, byteOf s 2⟩ (byteOf
      ((s &&& (0x00FF00FF : UInt32)) ||| ((s &&& 0x0000FF00) <<< 16) |||
        ((s &&& 0xFF000000) >>> 16))) := by
  have hall (x : UInt8) : x &&& 255 = x := UInt8.and_neg_one
  have hkept : byteOf 0x00FF00FF 0 = 0 ∧ byteOf 0x00FF00FF 1 = 0xFF ∧
      byteOf 0x00FF00FF 2 = 0 := by decide
  have hblue : byteOf 0x0000FF00 2 = 0xFF ∧ byteOf 0x0000FF00 3 = 0 := by decide
  have hred : byteOf 0xFF000000 0 = 0xFF := by decide
  refine ⟨?_, ?_, ?_⟩ <;>
    simp [byteOf_or, byteOf_and, left_sixteen, right_sixteen, hall, hkept, hblue, hred]

/-- The bytes rotated to the left. -/
theorem rotated_shows (s : UInt32) :
    ShowsColour ⟨byteOf s 3, byteOf s 2, byteOf s 1⟩ (byteOf ((s <<< 8) ||| (s >>> 24))) := by
  refine ⟨?_, ?_, ?_⟩ <;> simp [byteOf_or, left_eight, right_twentyFour]

/-! ## Channels of fewer bits -/

/-- A channel of a 16-bit pixel. -/
theorem channel_toNat (f : Mem UInt8) {s m : UInt32} {n : ℕ} (hs : s.toNat < 32)
    (hmask : m.toNat = 2 ^ n - 1) :
    ((loadShort f 0 >>> s) &&& m).toNat = ((shortAt f).extractLsb' s.toNat n).toNat := by
  have hfirst := (f 0).toNat_lt
  have hsecond := (f 1).toNat_lt
  have hload : (loadShort f 0).toNat = (f 0).toNat * 256 + (f 1).toNat :=
    UInt32.toNat_ofNat_of_lt' (by
      change _ * 256 + (f 1).toNat < 2 ^ 32
      omega)
  have hshort : (shortAt f).toNat = (f 0).toNat * 256 + (f 1).toNat := by
    rw [shortAt, BitVec.toNat_append, UInt8.toNat_toBitVec, UInt8.toNat_toBitVec,
      ← Nat.shiftLeft_add_eq_or_of_lt hsecond, Nat.shiftLeft_eq]
  rw [UInt32.toNat_and, hmask, Nat.and_two_pow_sub_one_eq_mod, UInt32.toNat_shiftRight,
    Nat.mod_eq_of_lt hs, BitVec.extractLsb'_toNat, hload, hshort]

theorem expand_five (c : UInt32) (channel : BitVec 5) (h : c.toNat = channel.toNat) :
    (c <<< 3) ||| (c >>> 2) = (replicated channel).toUInt32 := by
  have hall : ∀ channel : BitVec 5,
      (UInt32.ofNat channel.toNat <<< 3) ||| (UInt32.ofNat channel.toNat >>> 2) =
        (replicated channel).toUInt32 := by
    decide +kernel
  rw [← hall, ← h, UInt32.ofNat_toNat]

theorem expand_six (c : UInt32) (channel : BitVec 6) (h : c.toNat = channel.toNat) :
    (c <<< 2) ||| (c >>> 4) = (replicated channel).toUInt32 := by
  have hall : ∀ channel : BitVec 6,
      (UInt32.ofNat channel.toNat <<< 2) ||| (UInt32.ofNat channel.toNat >>> 4) =
        (replicated channel).toUInt32 := by
    decide +kernel
  rw [← hall, ← h, UInt32.ofNat_toNat]

/-- The lowest channel is not shifted. -/
theorem lowest_toNat (f : Mem UInt8) :
    (loadShort f 0 &&& 0x1F).toNat = ((shortAt f).extractLsb' 0 5).toNat := by
  have hchannel := channel_toNat f (s := 0) (n := 5) (m := 0x1F) (by decide) rfl
  rwa [UInt32.shiftRight_zero] at hchannel

theorem r5g6b5_shows (f : Mem UInt8) (table : UInt8 → Colour) :
    ShowsColour (pixelColour table f .r5g6b5) (byteOf (r5g6b5Pixel f 0)) := by
  have hr := expand_five _ _ (channel_toNat f (s := 11) (n := 5) (m := 0x1F) (by decide) rfl)
  have hg := expand_six _ _ (channel_toNat f (s := 5) (n := 6) (m := 0x3F) (by decide) rfl)
  have hb := expand_five _ _ (lowest_toNat f)
  simp only [r5g6b5Pixel, hr, hg, hb]
  exact packed_shows _ _ _

theorem r5g5b5_shows (f : Mem UInt8) (table : UInt8 → Colour) :
    ShowsColour (pixelColour table f .r5g5b5) (byteOf (r5g5b5Pixel f 0)) := by
  have hr := expand_five _ _ (channel_toNat f (s := 10) (n := 5) (m := 0x1F) (by decide) rfl)
  have hg := expand_five _ _ (channel_toNat f (s := 5) (n := 5) (m := 0x1F) (by decide) rfl)
  have hb := expand_five _ _ (lowest_toNat f)
  simp only [r5g5b5Pixel, hr, hg, hb]
  exact packed_shows _ _ _

/-! ## The palette -/

theorem foldl_update (f : ℕ → UInt32) (palette : Palette) {start n : ℕ} (hn : start + n ≤ 256)
    (i : UInt8) :
    (List.range' start n).foldl
      (fun palette i => Function.update palette (UInt8.ofNat i) (f i)) palette i =
      if start ≤ i.toNat ∧ i.toNat < start + n then f i.toNat else palette i := by
  induction n with
  | zero => exact (if_neg (by omega)).symm
  | succ n ih =>
      rw [List.range'_1_concat, List.foldl_concat]
      by_cases hlast : i = UInt8.ofNat (start + n)
      · have hnat : i.toNat = start + n := by
          rw [hlast]
          exact UInt8.toNat_ofNat_of_lt' (by change _ < 256; omega)
        rw [← hlast, Function.update_self, if_pos (by omega), hnat]
      · have hne : i.toNat ≠ start + n := by
          intro h
          rw [← h, UInt8.ofNat_toNat] at hlast
          exact hlast rfl
        rw [Function.update_of_ne hlast, ih (by omega)]
        congr 1
        exact propext (by omega)

/-- A call sets the colours of its range, and no others. -/
theorem chipSetColorArray_eq (call : ColorCall) (palette : Palette) (i : UInt8) :
    chipSetColorArray call.clut call.start call.count palette i =
      if call.Sets i then paletteEntry call.clut i.toNat else palette i := by
  have hi := i.toNat_lt
  rcases Nat.le_total call.start.toNat 256 with hle | hge
  · rw [chipSetColorArray, foldl_update _ _ (by omega)]
    congr 1
    exact propext ⟨fun h => ⟨h.1, by omega⟩, fun h => ⟨h.1, by have := h.2; omega⟩⟩
  · rw [chipSetColorArray, show min _ 256 - call.start.toNat = 0 by omega, List.range'_zero,
      List.foldl_nil, if_neg fun h => by have := h.1; omega]

/-- Every colour of the palette is the one that was last set. -/
theorem paletteAfter_shows (calls : List ColorCall) (i : UInt8) :
    ShowsColour (colourSet calls i) (byteOf (paletteAfter calls i)) := by
  induction calls using List.reverseRecOn with
  | nil =>
      have hblack : ShowsColour ⟨0, 0, 0⟩ (byteOf 0) := ⟨by decide, by decide, by decide⟩
      exact hblack
  | append_singleton calls call ih =>
      have hpalette : paletteAfter (calls ++ [call]) i =
          if call.Sets i then paletteEntry call.clut i.toNat else paletteAfter calls i := by
        rw [paletteAfter, List.foldl_concat]
        exact chipSetColorArray_eq call _ i
      rw [hpalette, colourSet, List.reverse_concat, List.find?_cons]
      by_cases hsets : call.Sets i
      · simp only [hsets, decide_true, if_true, paletteEntry, tableColour, Nat.mul_comm 3]
        exact packed_shows _ _ _
      · simp only [hsets, decide_false, if_false]
        exact ih

/-! ## A row -/

/-- The first three bytes of a converted pixel, in every format. -/
theorem converted_shows {format : RgbFormat} (hsupported : format.hasRowConverter = true)
    (calls : List ColorCall) (f : Mem UInt8) :
    ShowsColour (pixelColour (colourSet calls) f format)
      (byteOf (converted format (paletteAfter calls) f 0)) := by
  have hbyte (k : ℕ) (hk : k < 4) : f k = byteOf (loadLong f 0) k := by
    rw [byteOf_loadLong f 0 hk, Nat.zero_add]
  have hbytes := And.intro (hbyte 0 (by decide)) (And.intro (hbyte 1 (by decide))
    (And.intro (hbyte 2 (by decide)) (hbyte 3 (by decide))))
  obtain ⟨h0, h1, h2, h3⟩ := hbytes
  cases format with
  | clut => exact paletteAfter_shows calls (f 0)
  | r5g6b5 => exact r5g6b5_shows f _
  | r5g5b5 => exact r5g5b5_shows f _
  | a8r8g8b8 =>
      rw [pixelColour, h1, h2, h3]
      exact reversed_shows _
  | b8g8r8a8 =>
      rw [pixelColour, h0, h1, h2]
      exact ⟨rfl, rfl, rfl⟩
  | r8g8b8a8 =>
      rw [pixelColour, h0, h1, h2]
      exact exchanged_shows _
  | a8b8g8r8 =>
      rw [pixelColour, h1, h2, h3]
      exact rotated_shows _
  | other code => cases hsupported

/-- The row as transfers from pixel to word. -/
def rowTransfers (format : RgbFormat) (palette : Palette) (src dst : ℕ) : Transfers UInt8 where
  src col := src + formatBpp format * col
  dst col := dst + 4 * col
  readLen := formatBpp format
  len := 4
  out f k := byteOf (converted format palette f 0) k
  out_congr f g h k := by rw [converted_congr format palette h]

theorem rowTransfers_separate (format : RgbFormat) (palette : Palette) (src dst n : ℕ) :
    (rowTransfers format palette src dst).Separate n := by
  intro i _ j hj
  change dst + 4 * j + 4 ≤ dst + 4 * i ∨ dst + 4 * i + 4 ≤ dst + 4 * j
  omega

/-- Every converter performs the transfers of its format. -/
theorem converter_eq_perform {format : RgbFormat} {conv : RowConvFn}
    (hpick : chipPickRowConverter format = some conv) (src dst w : ℕ) (palette : Palette)
    (m : Mem UInt8) :
    conv src dst w palette m = (rowTransfers format palette src dst).perform w m := by
  have hsupported : format.hasRowConverter = true := by
    rw [← chipPickRowConverter_isSome, hpick]
    rfl
  obtain ⟨conv', hpick', hconv⟩ := chipPickRowConverter_eq hsupported
  obtain rfl : conv = conv' := Option.some.inj (hpick.symm.trans hpick')
  rw [hconv]
  apply up_congr
  intro col _
  funext m
  rw [converted_shift]
  rfl

/-- Source pixel `col`, as the loop finds it. -/
def pixelFound (conv : RowConvFn) (bpp src dst : ℕ) (palette : Palette) (m : Mem UInt8)
    (col : ℕ) : Mem UInt8 :=
  fun k => conv src dst col palette m (src + bpp * col + k)

/-- Word `col` of the converted row. -/
def outputWord (conv : RowConvFn) (src dst w : ℕ) (palette : Palette) (m : Mem UInt8)
    (col : ℕ) : ℕ → UInt8 :=
  fun k => conv src dst w palette m (dst + 4 * col + k)

/-- Every word of a converted row shows the colour of its pixel, and is computed from that pixel
alone.  The loop finds the pixel as it was before the loop, unless the row has been written over
it. -/
theorem colours_preserved {format : RgbFormat} {conv : RowConvFn}
    (hpick : chipPickRowConverter format = some conv) (calls : List ColorCall) (src dst w : ℕ)
    (m : Mem UInt8) :
    (∀ col < w, ShowsColour
      (pixelColour (colourSet calls)
        (pixelFound conv (formatBpp format) src dst (paletteAfter calls) m col) format)
      (outputWord conv src dst w (paletteAfter calls) m col)) ∧
    (∀ m', ∀ col < w, (∀ k < formatBpp format,
      pixelFound conv (formatBpp format) src dst (paletteAfter calls) m' col k =
        pixelFound conv (formatBpp format) src dst (paletteAfter calls) m col k) →
      ∀ k < 4, outputWord conv src dst w (paletteAfter calls) m' col k =
        outputWord conv src dst w (paletteAfter calls) m col k) ∧
    ∀ col < w, (∀ j < col, Apart (dst + 4 * j) 4 (src + formatBpp format * col)
        (formatBpp format)) →
      ∀ k < formatBpp format,
        pixelFound conv (formatBpp format) src dst (paletteAfter calls) m col k =
          m (src + formatBpp format * col + k) := by
  have hsupported : format.hasRowConverter = true := by
    rw [← chipPickRowConverter_isSome, hpick]
    rfl
  -- each word is the converted pixel that is found when its turn comes
  have hword (m : Mem UInt8) (col : ℕ) (hcol : col < w) (k : ℕ) (hk : k < 4) :
      outputWord conv src dst w (paletteAfter calls) m col k =
        byteOf (converted format (paletteAfter calls)
          (pixelFound conv (formatBpp format) src dst (paletteAfter calls) m col) 0) k := by
    unfold outputWord pixelFound
    simp only [converter_eq_perform hpick]
    exact Transfers.perform_inside (rowTransfers_separate _ _ _ _ w) hcol hk
  refine ⟨fun col hcol => ?_, fun m' col hcol hsame k hk => ?_, fun col _ hfirst k hk => ?_⟩
  · obtain ⟨hblue, hgreen, hred⟩ := converted_shows hsupported calls
      (pixelFound conv (formatBpp format) src dst (paletteAfter calls) m col)
    exact ⟨(hword m col hcol 0 (by decide)).trans hblue,
      (hword m col hcol 1 (by decide)).trans hgreen, (hword m col hcol 2 (by decide)).trans hred⟩
  · calc
      outputWord conv src dst w (paletteAfter calls) m' col k =
          byteOf (converted format (paletteAfter calls)
            (pixelFound conv (formatBpp format) src dst (paletteAfter calls) m' col) 0) k :=
        hword m' col hcol k hk
      _ = byteOf (converted format (paletteAfter calls)
            (pixelFound conv (formatBpp format) src dst (paletteAfter calls) m col) 0) k := by
        rw [converted_congr format (paletteAfter calls) hsame]
      _ = outputWord conv src dst w (paletteAfter calls) m col k := (hword m col hcol k hk).symm
  · unfold pixelFound
    rw [converter_eq_perform hpick]
    exact Transfers.perform_input (t := rowTransfers format (paletteAfter calls) src dst) hfirst hk

/-- Colour 1 is set to a dark red, and then again to a light one. -/
def twoReds : List ColorCall :=
  [⟨fun i => if i = 3 then 0x40 else 0, 0, 256⟩, ⟨fun i => if i = 3 then 0xC0 else 0, 1, 1⟩]

/-- A row of the colours 1, 0, 1. -/
def redBlackRed : Mem UInt8 := fun a => if a = 1 then 0 else 1

theorem colours_preserved_clut :
    let word := outputWord convRowClut 0 100 3 (paletteAfter twoReds) redBlackRed
    ShowsColour ⟨0xC0, 0, 0⟩ (word 0) ∧ ShowsColour ⟨0, 0, 0⟩ (word 1) ∧
      ShowsColour ⟨0xC0, 0, 0⟩ (word 2) := by
  intro word
  have hrow := (colours_preserved (rfl : chipPickRowConverter .clut = some convRowClut) twoReds 0
    100 3 redBlackRed).1
  have hcolour : ∀ col < 3, pixelColour (colourSet twoReds)
      (pixelFound convRowClut 1 0 100 (paletteAfter twoReds) redBlackRed col) .clut =
        if col = 1 then ⟨0, 0, 0⟩ else ⟨0xC0, 0, 0⟩ := by
    decide +kernel
  have hshows (col : ℕ) (hcol : col < 3) :
      ShowsColour (if col = 1 then ⟨0, 0, 0⟩ else ⟨0xC0, 0, 0⟩) (word col) := by
    rw [← hcolour col hcol]
    exact hrow col hcol
  exact ⟨hshows 0 (by decide), hshows 1 (by decide), hshows 2 (by decide)⟩

end VirtIOGPU.Drawing
