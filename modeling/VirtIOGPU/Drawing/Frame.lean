import VirtIOGPU.Drawing.BlitRect
import VirtIOGPU.Drawing.Convert

/-!
# Converting a frame

The rows of a window of the bitmap are converted into the rows of the screen, pixel by pixel.
Taken as transfers from pixel to pixel, the result is the colours of the window for every palette
and all contents exactly when the window is the right one and no pixel of the bitmap is overwritten
before it is read (`frame_shows_iff`).

## Strategy

The conversion is a sequence of transfers, one for each pixel, in the order of the code; a transfer
reads the bytes of one pixel and writes four.  Then it is about which of them overlap:

```text
no transfer writes what a later one reads   the screen shows what the bitmap had
one does                                    some contents of the bitmap come out wrong
the window is another one                   a bitmap with one marked row comes out wrong
```

The two counterexamples are a bitmap that is blank but for one pixel; a converter tells it from a
blank one (`converted_marked`), whatever the format.
-/

namespace VirtIOGPU.Drawing

open Lib.Memory

/-- Where a frame comes from, and where it goes. -/
structure FrameSetup where
  format : RgbFormat
  palette : Palette
  bitmap : RenderInfo
  screen : RenderInfo
  w : ℕ
  h : ℕ

/-- The loop of `chip_convert_rect` over the rows, for the window at `panX`, `panY`. -/
def FrameSetup.convert (s : FrameSetup) (panX panY : ℕ) (m : Mem UInt8) : Mem UInt8 :=
  up s.h (fun row => convRow (formatBpp s.format) (converted s.format s.palette)
    (s.bitmap.address (formatBpp s.format) panX (panY + row)) (s.screen.address 4 0 row) s.w) m

def longBytes (v : UInt32) : List UInt8 := (List.range 4).map (byteOf v)

/-- The visible pixels of the screen get the colours of the window, and no other byte changes. -/
def ShowsWindow (s : FrameSetup) (xOff yOff : ℕ) (m t : Mem UInt8) : Prop :=
  BlitResult s.screen 4 0 0 s.w s.h
    (fun col row => longBytes (converted s.format s.palette m
      (s.bitmap.address (formatBpp s.format) (xOff + col) (yOff + row)))) m t

/-- The frame as transfers from pixel to pixel, row by row. -/
def FrameSetup.transfers (s : FrameSetup) (panX panY : ℕ) : Transfers UInt8 where
  src i := s.bitmap.address (formatBpp s.format) (panX + i % s.w) (panY + i / s.w)
  dst i := s.screen.address 4 (i % s.w) (i / s.w)
  readLen := formatBpp s.format
  len := 4
  out f k := byteOf (converted s.format s.palette f 0) k
  out_congr f g h k := by rw [converted_congr s.format s.palette h]

/-- No pixel of the window is overwritten before it is read. -/
def FrameSetup.ReadsFirst (s : FrameSetup) (xOff yOff : ℕ) : Prop :=
  ∀ i < s.h * s.w, (s.transfers xOff yOff).ReadsFirst i

/-- The rows of the screen hold the window, and so do those of the bitmap. -/
structure FrameSetup.Fits (s : FrameSetup) (xOff : ℕ) : Prop where
  screen : s.w * 4 ≤ s.screen.bytesPerRow
  bitmap : (xOff + s.w) * formatBpp s.format ≤ s.bitmap.bytesPerRow

section

variable {s : FrameSetup} {xOff yOff panX panY : ℕ}

/-- One pixel. -/
def FrameSetup.convertPixel (s : FrameSetup) (panX panY row col : ℕ) (m : Mem UInt8) : Mem UInt8 :=
  storeLong (s.screen.address 4 col row)
    (converted s.format s.palette m
      (s.bitmap.address (formatBpp s.format) (panX + col) (panY + row))) m

theorem turn_eq (s : FrameSetup) (panX panY : ℕ) :
    (s.transfers panX panY).turn = fun i => s.convertPixel panX panY (i / s.w) (i % s.w) := by
  funext i m
  rw [FrameSetup.convertPixel, converted_shift]
  rfl

theorem convert_eq_perform (s : FrameSetup) (panX panY : ℕ) (m : Mem UInt8) :
    s.convert panX panY m = (s.transfers panX panY).perform (s.h * s.w) m := by
  rw [Transfers.perform, turn_eq, up_mul]
  apply up_congr
  intro row _
  funext m
  apply up_congr
  intro col _
  funext m
  have hsrc := @address_col s.bitmap (formatBpp s.format) panX panY col row 0
  have hdst := @address_col s.screen 4 0 0 col row 0
  rw [Nat.add_zero, Nat.add_zero, address_row] at hsrc hdst
  rw [Nat.zero_add, Nat.zero_add] at hdst
  rw [FrameSetup.convertPixel, hsrc, hdst, Nat.mul_comm, Nat.mul_comm (formatBpp s.format)]

/-! ## Pixels of a frame -/

/-- Different pixels of rows that are long enough do not overlap. -/
theorem pixels_apart {ri : RenderInfo} {bpp w x y i j : ℕ} (hrow : (x + w) * bpp ≤ ri.bytesPerRow)
    (hw : 0 < w) (hij : i ≠ j) :
    Apart (ri.address bpp (x + i % w) (y + i / w)) bpp (ri.address bpp (x + j % w) (y + j / w))
      bpp := by
  have hin (k : ℕ) : (x + k % w) * bpp + bpp ≤ ri.bytesPerRow := by
    have hk := Nat.mod_lt k hw
    calc
      (x + k % w) * bpp + bpp = (x + k % w + 1) * bpp := (Nat.succ_mul _ _).symm
      _ ≤ (x + w) * bpp := Nat.mul_le_mul_right bpp (by omega)
      _ ≤ ri.bytesPerRow := hrow
  have hi := hin i
  have hj := hin j
  unfold Apart RenderInfo.address
  rcases Nat.lt_trichotomy (i / w) (j / w) with hlt | heq | hgt
  · have hapart := rows_apart ri.memory (Nat.add_lt_add_left hlt y) hi
    omega
  · rw [heq]
    have hi' := Nat.div_add_mod i w
    have hj' := Nat.div_add_mod j w
    rw [heq] at hi'
    rcases Nat.lt_or_gt_of_ne hij with hlt | hgt
    · have hmul : (x + i % w + 1) * bpp ≤ (x + j % w) * bpp := Nat.mul_le_mul_right bpp (by omega)
      rw [Nat.succ_mul] at hmul
      omega
    · have hmul : (x + j % w + 1) * bpp ≤ (x + i % w) * bpp := Nat.mul_le_mul_right bpp (by omega)
      rw [Nat.succ_mul] at hmul
      omega
  · have hapart := rows_apart ri.memory (Nat.add_lt_add_left hgt y) hj
    omega

theorem FrameSetup.Fits.separate (hfits : s.Fits xOff) (hw : 0 < s.w) (panX panY n : ℕ) :
    (s.transfers panX panY).Separate n := by
  intro i _ j hj
  have hrow : (0 + s.w) * 4 ≤ s.screen.bytesPerRow := by
    rw [Nat.zero_add]
    exact hfits.screen
  have hapart := pixels_apart (y := 0) hrow hw (Nat.ne_of_lt hj)
  simp only [Nat.zero_add] at hapart
  exact hapart

/-- The number of a pixel, counted row by row. -/
theorem index_lt {w h col row : ℕ} (hcol : col < w) (hrow : row < h) : row * w + col < h * w := by
  have hnext : (row + 1) * w ≤ h * w := Nat.mul_le_mul_right w hrow
  rw [Nat.succ_mul] at hnext
  omega

theorem index_div_mod {w col : ℕ} (hcol : col < w) (row : ℕ) :
    (row * w + col) / w = row ∧ (row * w + col) % w = col := by
  have hpos : 0 < w := by omega
  rw [Nat.mul_comm, Nat.mul_add_div hpos, Nat.mul_add_mod, Nat.div_eq_of_lt hcol,
    Nat.mod_eq_of_lt hcol]
  exact ⟨rfl, rfl⟩

/-- What the screen shows, in terms of the transfers. -/
theorem shows_iff {m t : Mem UInt8} (hw : 0 < s.w) :
    ShowsWindow s xOff yOff m t ↔
      (∀ i < s.h * s.w, ∀ k < 4, t ((s.transfers xOff yOff).dst i + k) =
        (s.transfers xOff yOff).out ((s.transfers xOff yOff).input m i) k) ∧
      ∀ a, (∀ i < s.h * s.w, a < (s.transfers xOff yOff).dst i ∨
        (s.transfers xOff yOff).dst i + 4 ≤ a) → t a = m a := by
  have hout (i k : ℕ) : (s.transfers xOff yOff).out ((s.transfers xOff yOff).input m i) k =
      byteOf (converted s.format s.palette m (s.bitmap.address (formatBpp s.format)
        (xOff + i % s.w) (yOff + i / s.w))) k := by
    rw [converted_shift]
    rfl
  constructor
  · -- from rows and columns to one index
    rintro ⟨hpixels, hothers⟩
    constructor
    · intro i hi k hk
      have hrow : i / s.w < s.h := Nat.div_lt_of_lt_mul (by rwa [Nat.mul_comm])
      have hpixel := hpixels (i / s.w) hrow (i % s.w) (Nat.mod_lt i hw)
      have hbyte := congrArg (fun l => l[k]?) hpixel
      simp only [pixel, longBytes, List.getElem?_map, List.getElem?_range hk, Option.map_some,
        Nat.zero_add] at hbyte
      rw [hout]
      exact Option.some.inj hbyte
    · intro a ha
      apply hothers
      intro row hrow col hcol hin
      obtain ⟨hdiv, hmod⟩ := index_div_mod hcol row
      have hplace := ha _ (index_lt hcol hrow)
      change a < s.screen.address 4 _ _ ∨ s.screen.address 4 _ _ + 4 ≤ a at hplace
      rw [hdiv, hmod] at hplace
      unfold InPixel at hin
      rw [Nat.zero_add, Nat.zero_add] at hin
      omega
  · -- and back
    rintro ⟨hbytes, hothers⟩
    constructor
    · intro row hrow col hcol
      obtain ⟨hdiv, hmod⟩ := index_div_mod hcol row
      apply List.map_congr_left
      intro k hk
      have hbyte := hbytes _ (index_lt hcol hrow) k (List.mem_range.mp hk)
      rw [hout, hdiv, hmod] at hbyte
      change t (s.screen.address 4 _ _ + k) = _ at hbyte
      rw [hdiv, hmod] at hbyte
      rw [Nat.zero_add, Nat.zero_add]
      exact hbyte
    · intro a ha
      apply hothers
      intro i hi
      have hrow : i / s.w < s.h := Nat.div_lt_of_lt_mul (by rwa [Nat.mul_comm])
      have hout := ha (i / s.w) hrow (i % s.w) (Nat.mod_lt i hw)
      unfold InPixel at hout
      rw [Nat.zero_add, Nat.zero_add] at hout
      change a < s.screen.address 4 _ _ ∨ s.screen.address 4 _ _ + 4 ≤ a
      omega

/-! ## Where the screen shows the window -/

theorem frame_shows (hfits : s.Fits xOff) (hw : 0 < s.w) (hreads : s.ReadsFirst xOff yOff)
    (m : Mem UInt8) : ShowsWindow s xOff yOff m (s.convert xOff yOff m) := by
  rw [convert_eq_perform, shows_iff hw]
  constructor
  · intro i hi k hk
    exact Transfers.perform_eq (hfits.separate hw _ _ _) hi (hreads i hi) hk
  · intro a ha
    exact Transfers.perform_outside ha

/-! ## Where it does not -/

/-- With `blackFirst`, blanks are converted to blanks, in every format. -/
theorem out_blank (hpalette : s.palette = blackFirst) (k : ℕ) :
    (s.transfers panX panY).out (fun _ => 0) k = 0 := by
  change byteOf (converted s.format s.palette (fun _ => 0) 0) k = 0
  rw [hpalette, converted_blank, byteOf, UInt32.toNat_zero, Nat.zero_div]
  rfl

/-- A marked pixel is not shown by blanks. -/
theorem marked_not_blank (hpalette : s.palette = blackFirst)
    (hsupported : s.format.hasRowConverter = true) (hw : 0 < s.w) {i l : ℕ} (hi : i < s.h * s.w)
    (hl : l < formatBpp s.format) {t : Mem UInt8}
    (hblank : ∀ k < 4, t ((s.transfers xOff yOff).dst i + k) = 0) :
    ¬ ShowsWindow s xOff yOff (Transfers.marked 0 0xFF ((s.transfers xOff yOff).src i + l)) t := by
  intro hshows
  have hinput : (s.transfers xOff yOff).input
      (Transfers.marked 0 0xFF ((s.transfers xOff yOff).src i + l)) i =
      Transfers.marked 0 0xFF l := by
    funext k
    unfold Transfers.input Transfers.marked
    by_cases hk : k = l
    · rw [hk, if_pos rfl, if_pos rfl]
    · rw [if_neg (by omega), if_neg hk]
  -- all bytes of the colour would be 0
  have hbytes : ∀ k < 4, byteOf (converted s.format blackFirst (Transfers.marked 0 0xFF l) 0) k =
      byteOf 0 k := by
    intro k hk
    have hbyte := ((shows_iff hw).mp hshows).1 i hi k hk
    rw [hblank k hk, hinput] at hbyte
    rw [← hpalette]
    refine hbyte.symm.trans ?_
    rw [byteOf, UInt32.toNat_zero, Nat.zero_div]
    rfl
  exact converted_marked s.format hsupported hl (eq_of_byteOf hbytes)

/-- Another row is shown in place of the first one of the window. -/
theorem other_row_not_shown (hfits : s.Fits xOff) (hw : 0 < s.w) (hh : 0 < s.h)
    (hpalette : s.palette = blackFirst) (hsupported : s.format.hasRowConverter = true)
    (hne : panY ≠ yOff) :
    ∃ m, ¬ ShowsWindow s xOff yOff m (s.convert xOff panY m) := by
  have hfirst : 0 < s.h * s.w := Nat.mul_pos hh hw
  have hbpp : 0 < formatBpp s.format := chipFormatBpp_pos _
  refine ⟨_, marked_not_blank (l := 0) hpalette hsupported hw hfirst hbpp fun k hk => ?_⟩
  rw [convert_eq_perform]
  -- the first turn reads blanks
  have hinside := Transfers.perform_inside
    (m := Transfers.marked 0 0xFF ((s.transfers xOff yOff).src 0 + 0))
    (hfits.separate hw xOff panY (s.h * s.w)) hfirst hk
  refine hinside.trans ((Transfers.out_congr _ _ (fun _ => 0) ?_ k).trans (out_blank hpalette k))
  intro l hl
  apply if_neg
  change s.bitmap.address _ (xOff + 0 % s.w) (panY + 0 / s.w) + l ≠
    s.bitmap.address _ (xOff + 0 % s.w) (yOff + 0 / s.w) + 0
  have hl' : l < formatBpp s.format := hl
  have hrow : xOff * formatBpp s.format + formatBpp s.format ≤ s.bitmap.bytesPerRow := by
    rw [← Nat.succ_mul]
    exact (Nat.mul_le_mul_right _ (by omega)).trans hfits.bitmap
  unfold RenderInfo.address
  simp only [Nat.zero_mod, Nat.zero_div, Nat.add_zero]
  rcases Nat.lt_or_gt_of_ne hne with hlt | hgt
  · have hapart := rows_apart s.bitmap.memory hlt hrow
    omega
  · have hapart := rows_apart s.bitmap.memory hgt hrow
    omega

/-- A byte of the bitmap that is overwritten before it is read is lost. -/
theorem late_read_not_shown (hfits : s.Fits xOff) (hw : 0 < s.w)
    (hpalette : s.palette = blackFirst) (hsupported : s.format.hasRowConverter = true)
    (hlate : ¬ s.ReadsFirst xOff yOff) :
    ∃ m, ¬ ShowsWindow s xOff yOff m (s.convert xOff yOff m) := by
  unfold FrameSetup.ReadsFirst Transfers.ReadsFirst at hlate
  push Not at hlate
  obtain ⟨i, hi, j, hj, hoverlap⟩ := hlate
  -- an address that turn `j` writes and turn `i` reads
  obtain ⟨l, hl, hwritten⟩ : ∃ l < formatBpp s.format,
      (s.transfers xOff yOff).dst j ≤ (s.transfers xOff yOff).src i + l ∧
        (s.transfers xOff yOff).src i + l < (s.transfers xOff yOff).dst j + 4 := by
    have hbpp : 0 < formatBpp s.format := chipFormatBpp_pos _
    unfold Apart at hoverlap
    change ¬ (_ + 4 ≤ _ ∨ _ + formatBpp s.format ≤ _) at hoverlap
    by_cases hle : (s.transfers xOff yOff).dst j ≤ (s.transfers xOff yOff).src i
    · exact ⟨0, hbpp, by omega, by omega⟩
    · refine ⟨(s.transfers xOff yOff).dst j - (s.transfers xOff yOff).src i, ?_, ?_, ?_⟩ <;> omega
  refine ⟨_, marked_not_blank hpalette hsupported hw hi hl fun k hk => ?_⟩
  rw [convert_eq_perform]
  refine Transfers.perform_marked (hfits.separate hw _ _ _) hi (out_blank hpalette) ?_
    ⟨j, hj, hwritten⟩ hk
  -- the earlier turns read other pixels
  intro j' hj'
  have hapart := pixels_apart (y := yOff) hfits.bitmap hw (Nat.ne_of_lt hj')
  change Apart ((s.transfers xOff yOff).src j') _ ((s.transfers xOff yOff).src i) _ at hapart
  unfold Apart at hapart
  change _ < _ ∨ _ + formatBpp s.format ≤ _
  omega

/-- The screen shows the window, for every palette and all contents, if and only if the rows are
those of the window and every pixel is read before it is overwritten. -/
theorem frame_shows_iff (hfits : s.Fits xOff) (hw : 0 < s.w) (hh : 0 < s.h)
    (hsupported : s.format.hasRowConverter = true) :
    (∀ palette m, ShowsWindow { s with palette := palette } xOff yOff m
      (FrameSetup.convert { s with palette := palette } xOff panY m)) ↔
      panY = yOff ∧ s.ReadsFirst xOff yOff := by
  constructor
  · intro hall
    have hrow : panY = yOff := by
      by_contra hne
      obtain ⟨m, hnot⟩ := other_row_not_shown (s := { s with palette := blackFirst })
        ⟨hfits.screen, hfits.bitmap⟩ hw hh rfl hsupported hne
      exact hnot (hall blackFirst m)
    refine ⟨hrow, ?_⟩
    by_contra hlate
    obtain ⟨m, hnot⟩ := late_read_not_shown (s := { s with palette := blackFirst })
      ⟨hfits.screen, hfits.bitmap⟩ hw rfl hsupported hlate
    rw [hrow] at hall
    exact hnot (hall blackFirst m)
  · rintro ⟨rfl, hreads⟩ palette m
    exact frame_shows (s := { s with palette := palette }) ⟨hfits.screen, hfits.bitmap⟩ hw hreads m

/-- A pixel lies in the rows of its rectangle. -/
theorem pixel_inside {ri : RenderInfo} {bpp w h x y i : ℕ} (hrow : (x + w) * bpp ≤ ri.bytesPerRow)
    (hi : i < h * w) :
    ri.memory ≤ ri.address bpp (x + i % w) (y + i / w) ∧
      ri.address bpp (x + i % w) (y + i / w) + bpp ≤ ri.memory + (y + h) * ri.bytesPerRow := by
  have hw : 0 < w := Nat.pos_of_mul_pos_left (Nat.zero_lt_of_lt hi)
  have hline : i / w < h := Nat.div_lt_of_lt_mul (by rwa [Nat.mul_comm])
  have hcol : (x + i % w) * bpp + bpp ≤ ri.bytesPerRow := by
    have hlt := Nat.mod_lt i hw
    rw [← Nat.succ_mul]
    exact (Nat.mul_le_mul_right bpp (by omega)).trans hrow
  have hend := rows_apart ri.memory (Nat.add_lt_add_left hline y) hcol
  unfold RenderInfo.address
  constructor <;> omega

/-- Nothing in the rows of the bitmap is written, when the screen lies beside them. -/
theorem FrameSetup.Fits.apart (hfits : s.Fits xOff)
    (hapart : Apart s.screen.memory (s.h * s.screen.bytesPerRow) s.bitmap.memory
      ((yOff + s.h) * s.bitmap.bytesPerRow)) {i j : ℕ} (hi : i < s.h * s.w) (hj : j < s.h * s.w) :
    Apart ((s.transfers xOff yOff).dst j) 4 ((s.transfers xOff yOff).src i)
      (formatBpp s.format) := by
  have hscreen : (0 + s.w) * 4 ≤ s.screen.bytesPerRow := by
    rw [Nat.zero_add]
    exact hfits.screen
  have hsrc := pixel_inside (y := yOff) hfits.bitmap hi
  have hdst := pixel_inside (y := 0) hscreen hj
  simp only [Nat.zero_add] at hdst
  change Apart (s.screen.address 4 (j % s.w) (j / s.w)) 4 (s.bitmap.address _ _ _) _
  unfold Apart at hapart ⊢
  omega

end

end VirtIOGPU.Drawing
