import VirtIOGPU.Drawing.Fill
import VirtIOGPU.Drawing.Lines
import VirtIOGPU.Drawing.Planar
import VirtIOGPU.Drawing.RasterOps

/-!
# Where drawing writes

Nine functions of `chip_blit.c` draw into a bitmap.  Whatever they are called with, as long as it
lies inside the bitmap, none of them writes outside its rows (`DrawCall.perform_confined`).

`DrawCall.Inside` is what rtg.library promises.  It also leaves out pixels of 3 bytes where single
pixels are stored, since these are stored as longs, and the copy to the left in the same rows, for
which exec.library is asked to copy ranges that overlap.

## Strategy

Each function goes through a rectangle in one of three ways, and what it may write is shown once for
each of these:

```text
way                  writes                          functions
pixel by pixel       the cells of the rectangle      FillRect, Template, Pattern, both planar ones
along a line         the cells of the line           DrawLine
row by row           the bytes of a row              BlitRect, NoMaskComplete, InvertRect
```

For the first two the argument is the set of cells that is altered (`pixelLoops_confined`), for the
third an invariant of the loop (`KeepsInside`), since the copies go through exec.library.
-/

namespace VirtIOGPU.Drawing

open Lib.Hoare Lib.Memory

/-! ## Calls -/

/-- A call of a drawing function, with its arguments except for the destination. -/
inductive DrawCall where
  | fillRect (r : Rect) (color : UInt32) (format : RgbfType)
  | invertRect (r : Rect) (format : RgbfType)
  | blitRect (x y dx dy w h : ℕ)
  | blitRectNoMaskComplete (src : RenderInfo) (x y dx dy w h : ℕ) (opcode : UInt8)
      (format : RgbfType)
  | blitTemplate (tmpl : ChipTemplate) (r : Rect) (format : RgbfType)
  | blitPattern (pat : ChipPattern) (r : Rect) (format : RgbfType)
  | drawLine (line : ChipLine) (format : RgbfType)
  | blitPlanar2Chunky (bm : PlanarBitMap) (x y : Int16) (r : Rect) (mask : UInt8)
  | blitPlanar2Direct (bm : PlanarBitMap) (clut : ColorIndexMapping) (x y dx dy w h : Int16)
      (mask : UInt8)

namespace DrawCall

/-- Board memory after the call. -/
def perform (exec : ExecIFace) (ri : RenderInfo) (m : Mem UInt8) : DrawCall → Mem UInt8
  | fillRect r color format => (chipFillRect ri r color format ⟨m, []⟩).mem
  | invertRect r format => (chipInvertRect ri r.x r.y r.w r.h format ⟨m, []⟩).2.mem
  | blitRect x y dx dy w h => (chipBlitRect exec ri x y dx dy w h ⟨m, []⟩).2.mem
  | blitRectNoMaskComplete src x y dx dy w h opcode format =>
      (chipBlitRectNoMaskComplete exec src ri x y dx dy w h opcode format ⟨m, []⟩).2.mem
  | blitTemplate tmpl r format => (chipBlitTemplate ri tmpl r format ⟨m, []⟩).mem
  | blitPattern pat r format => (chipBlitPattern ri pat r format ⟨m, []⟩).mem
  | drawLine line format => (chipDrawLine ri line format ⟨m, []⟩).mem
  | blitPlanar2Chunky bm x y r mask => (chipBlitPlanar2Chunky bm ri x y r mask ⟨m, []⟩).mem
  | blitPlanar2Direct bm clut x y dx dy w h mask =>
      (chipBlitPlanar2Direct bm ri clut x y dx dy w h mask ⟨m, []⟩).mem

/-- The size of a pixel that the function works with. -/
def bpp (ri : RenderInfo) : DrawCall → ℕ
  | fillRect _ _ format | invertRect _ format | blitRectNoMaskComplete _ _ _ _ _ _ _ _ format
  | blitTemplate _ _ format | blitPattern _ _ format | drawLine _ format => chipFormatBpp format
  | blitRect .. | blitPlanar2Direct .. => chipFormatBpp ri.rgbFormat
  | blitPlanar2Chunky .. => 1

/-- The operations of `chip_BlitRectNoMaskComplete` that are taken for a copy. -/
def Copies (opcode : UInt8) : Prop :=
  ropOf opcode ≠ 0x0 ∧ ropOf opcode ≠ 0xF ∧ ropOf opcode ≠ 0x5 ∧ ropOf opcode ≠ 0x6

instance (opcode : UInt8) : Decidable (Copies opcode) := inferInstanceAs (Decidable (_ ∧ _))

/-- The arguments are those of a drawing inside `width` by `height` pixels. -/
def Inside (ri : RenderInfo) (width height : ℕ) : DrawCall → Prop
  | fillRect r _ format | blitTemplate _ r format | blitPattern _ r format =>
      chipFormatBpp format ≠ 3 ∧ r.Within width height
  | invertRect r _ | blitPlanar2Chunky _ _ _ r _ => r.Within width height
  | blitRect x y dx dy w h => InBounds width height x y w h ∧ InBounds width height dx dy w h
  | blitRectNoMaskComplete src x y dx dy w h opcode format =>
      (∃ sWidth sHeight,
        Request src ri (chipFormatBpp format) sWidth sHeight width height x y dx dy w h) ∧
        (Copies opcode → ¬ Misdirected .srcCopy src ri x y dx dy w h)
  | drawLine line format => chipFormatBpp format ≠ 3 ∧ line.Proper ∧ line.Inside width height
  | blitPlanar2Direct _ _ _ _ dx dy w h _ =>
      chipFormatBpp ri.rgbFormat ≠ 3 ∧ (directRect dx dy w h).Within width height

end DrawCall

/-! ## The rows of a bitmap -/

section

variable {ri : RenderInfo} {bpp width height : ℕ} {m : Mem UInt8}

/-- From `m` to `t` nothing but the rows of the bitmap changes. -/
abbrev InRows (ri : RenderInfo) (height : ℕ) (m t : Mem UInt8) : Prop :=
  Confined ri.memory (ri.memory + height * ri.bytesPerRow) m t

/-! ## Pixels -/

section

variable {format : RgbfType} {p : ℕ} {lo hi : ℕ}

theorem setPen_confined (h24 : chipFormatBpp format ≠ 3) (pen : UInt32) (hlo : lo ≤ p)
    (hhi : p + chipFormatBpp format ≤ hi) : Confined lo hi m (setPen format pen p m) := by
  rw [setPen_eq, penSize_eq h24]
  exact Confined.overwrite hlo hhi

theorem invert_confined (h24 : chipFormatBpp format ≠ 3) (hlo : lo ≤ p)
    (hhi : p + chipFormatBpp format ≤ hi) : Confined lo hi m (invert format p m) := by
  rw [invert_eq, penSize_eq h24]
  exact Confined.overwrite hlo hhi

theorem expandBit_confined (h24 : chipFormatBpp format ≠ 3) (drawmode : UInt8) (fg bg : UInt32)
    (bit : Bool) (hlo : lo ≤ p) (hhi : p + chipFormatBpp format ≤ hi) :
    Confined lo hi m (expandBit format drawmode fg bg bit p m) := by
  unfold expandBit
  split
  · split
    · exact invert_confined h24 hlo hhi
    · exact Confined.refl
  · split
    · exact setPen_confined h24 _ hlo hhi
    · split
      · exact setPen_confined h24 _ hlo hhi
      · exact Confined.refl

end

/-- A loop over the pixels of a rectangle. -/
theorem pixelLoops_confined (hsurface : IsSurface ri bpp width height) {r : Rect}
    (hr : r.Within width height) {body : ℕ → ℕ → Mem UInt8 → Mem UInt8}
    (hbody : ∀ row col t, ri.memory ≤ pixelAt ri bpp (ulong r.x + col, ulong r.y + row) →
      pixelAt ri bpp (ulong r.x + col, ulong r.y + row) + bpp ≤
        ri.memory + height * ri.bytesPerRow → InRows ri height t (body row col t)) :
    InRows ri height m (up r.h.toNat (fun row => up r.w.toNat (body row)) m) := by
  refine Confined.up fun row hrow t => Confined.up fun col hcol u => ?_
  have hx : ulong r.x + col < width := (Nat.add_lt_add_left hcol _).trans_le hr.right
  have hy : ulong r.y + row < height := (Nat.add_lt_add_left hrow _).trans_le hr.bottom
  obtain ⟨hlo, hhi⟩ := hsurface.pixel_fits hx hy
  exact hbody row col u hlo hhi

/-! ## The functions that go pixel by pixel -/

theorem chipFillRect_confined {format : RgbfType} (h24 : chipFormatBpp format ≠ 3)
    (hsurface : IsSurface ri (chipFormatBpp format) width height) {r : Rect}
    (hr : r.Within width height) (color : UInt32) (c : Canvas) :
    InRows ri height c.mem (chipFillRect ri r color format c).mem := by
  by_cases hnothing : ri.memory = 0 ∨ r.w = 0 ∨ r.h = 0
  · rw [chipFillRect, if_pos hnothing]
    exact Confined.refl
  · rw [fillLoops_eq h24 color c hnothing]
    exact pixelLoops_confined hsurface hr fun row col t hlo hhi => setPen_confined h24 _ hlo hhi

theorem expandRect_confined {format : RgbfType} (h24 : chipFormatBpp format ≠ 3)
    (hsurface : IsSurface ri (chipFormatBpp format) width height) {r : Rect}
    (hr : r.Within width height) (drawmode : UInt8) (fg bg : UInt32) (bitSet : ℕ → ℕ → Bool) :
    InRows ri height m (expandRect ri r format drawmode fg bg bitSet m) := by
  refine pixelLoops_confined hsurface hr fun row col t hlo hhi => ?_
  rw [← pixelAt_rect] at hlo hhi
  exact expandBit_confined h24 _ _ _ _ hlo hhi

theorem chipBlitTemplate_confined {format : RgbfType} (h24 : chipFormatBpp format ≠ 3)
    (hsurface : IsSurface ri (chipFormatBpp format) width height) {r : Rect}
    (hr : r.Within width height) (tmpl : ChipTemplate) (c : Canvas) :
    InRows ri height c.mem (chipBlitTemplate ri tmpl r format c).mem := by
  unfold chipBlitTemplate
  cases tmpl.memory with
  | none => exact Confined.refl
  | some srcBase =>
      dsimp only
      split
      · exact Confined.refl
      · exact expandRect_confined h24 hsurface hr _ _ _ _

theorem chipBlitPattern_confined {format : RgbfType} (h24 : chipFormatBpp format ≠ 3)
    (hsurface : IsSurface ri (chipFormatBpp format) width height) {r : Rect}
    (hr : r.Within width height) (pat : ChipPattern) (c : Canvas) :
    InRows ri height c.mem (chipBlitPattern ri pat r format c).mem := by
  unfold chipBlitPattern
  cases pat.memory with
  | none => exact Confined.refl
  | some patBase =>
      dsimp only
      split
      · exact Confined.refl
      · exact expandRect_confined h24 hsurface hr _ _ _ _

theorem chipBlitPlanar2Chunky_confined (hsurface : IsSurface ri 1 width height) {r : Rect}
    (hr : r.Within width height) (bm : PlanarBitMap) (x y : Int16) (mask : UInt8) (c : Canvas) :
    InRows ri height c.mem (chipBlitPlanar2Chunky bm ri x y r mask c).mem := by
  unfold chipBlitPlanar2Chunky
  split
  · exact Confined.refl
  · refine pixelLoops_confined hsurface hr fun row col t hlo hhi => ?_
    rw [← pixelAt_rect, Nat.mul_one] at hlo hhi
    exact Confined.overwrite hlo hhi

theorem storeDirect_confined {lo hi dstRow col : ℕ} (hbpp : bpp = 1 ∨ bpp = 2 ∨ bpp = 4)
    (clut : ColorIndexMapping) (i : UInt8) (hlo : lo ≤ dstRow + col * bpp)
    (hhi : dstRow + col * bpp + bpp ≤ hi) :
    Confined lo hi m (storeDirect clut bpp dstRow col i m) := by
  unfold storeDirect
  rcases hbpp with rfl | rfl | rfl
  · rw [Nat.mul_one] at hlo hhi
    rw [if_neg (by decide), if_neg (by decide)]
    exact Confined.overwrite hlo hhi
  · rw [if_neg (by decide), if_pos rfl]
    exact Confined.overwrite hlo hhi
  · rw [if_pos rfl]
    exact Confined.overwrite hlo hhi

theorem chipBlitPlanar2Direct_confined (h24 : chipFormatBpp ri.rgbFormat ≠ 3)
    (hsurface : IsSurface ri (chipFormatBpp ri.rgbFormat) width height) {dx dy w h : Int16}
    (hr : (directRect dx dy w h).Within width height) (bm : PlanarBitMap)
    (clut : ColorIndexMapping) (x y : Int16) (mask : UInt8) (c : Canvas) :
    InRows ri height c.mem (chipBlitPlanar2Direct bm ri clut x y dx dy w h mask c).mem := by
  unfold chipBlitPlanar2Direct
  split
  · exact Confined.refl
  · rename_i hsome
    obtain ⟨-, hw, hh⟩ : ri.memory ≠ 0 ∧ ¬ w ≤ 0 ∧ ¬ h ≤ 0 := by
      simpa only [not_or] using hsome
    have hsizes : w.toUInt16 = directSize w ∧ h.toUInt16 = directSize h :=
      ⟨(if_neg hw).symm, (if_neg hh).symm⟩
    rw [hsizes.1, hsizes.2]
    refine pixelLoops_confined hsurface hr fun row col t hlo hhi => ?_
    rw [← pixelAt_rect] at hlo hhi
    exact storeDirect_confined (bpp_cases h24) clut _ hlo hhi

/-! ## Lines -/

theorem chipDrawLine_confined {format : RgbfType} (h24 : chipFormatBpp format ≠ 3)
    (hsurface : IsSurface ri (chipFormatBpp format) width height) {line : ChipLine}
    (hline : line.Proper) (hinside : line.Inside width height) (c : Canvas) :
    InRows ri height c.mem (chipDrawLine ri line format c).mem := by
  intro a ha
  refine (chipDrawLine_altered h24 hsurface hline hinside c).outside a fun i hi hin => ?_
  obtain ⟨hlo, hhi⟩ := hsurface.pixel_fits (hinside.toNat_lt hi).1 (hinside.toNat_lt hi).2
  rw [InCell, hinside.pixelStart_eq hsurface hi] at hin
  rcases ha with hbelow | habove
  · exact absurd (hlo.trans hin.1) (Nat.not_le.mpr hbelow)
  · exact absurd (hin.2.trans_le (hhi.trans habove)) (Nat.lt_irrefl a)

/-! ## The functions that go row by row -/

/-- The program writes nothing outside `[lo, hi)`, and what has been written since `m` lies inside
it as well. -/
abbrev KeepsInside (lo hi : ℕ) (m : Mem UInt8) (program : Blit PUnit) : Prop :=
  Stable (fun b : Blitter => Confined lo hi m b.mem) program

section

variable {exec : ExecIFace} {lo hi src dst sStride dStride rowBytes h : ℕ}

theorem onMemory_inside {f : Mem UInt8 → Mem UInt8} (hf : ∀ t, Confined lo hi t (f t)) :
    KeepsInside lo hi m (onMemory f) :=
  Stable.update fun b hb => hb.trans (hf b.mem)

/-- Every row of the rectangle lies inside `[lo, hi)`. -/
def RowsInside (lo hi dst dStride rowBytes h : ℕ) : Prop :=
  ∀ row < h, lo ≤ dst + row * dStride ∧ dst + row * dStride + rowBytes ≤ hi

theorem rowsUp_inside {f : ℕ → Mem UInt8 → Mem UInt8}
    (hf : ∀ row < h, ∀ t, Confined lo hi t (f row t)) :
    KeepsInside lo hi m (forUp h fun row => onMemory (f row)) :=
  Stable.forUp fun row hrow => onMemory_inside (hf row hrow)

theorem changeRect_confined (hrows : RowsInside lo hi dst dStride rowBytes h)
    (g : ℕ → ℕ → UInt8 → UInt8) : Confined lo hi m (changeRect dst dStride rowBytes h g m) := by
  intro a ha
  apply changeRect_outside
  rintro ⟨row, hrow, i, hi', rfl⟩
  have hfits := hrows row hrow
  omega

theorem moveRow_confined (hlo : lo ≤ dst) (hhi : dst + rowBytes ≤ hi) :
    Confined lo hi m (moveRow src dst rowBytes m) := by
  rw [moveRow_eq]
  exact Confined.overwrite hlo hhi

theorem xorRow_confined (hlo : lo ≤ dst) (hhi : dst + rowBytes ≤ hi) :
    Confined lo hi m (xorRow src dst rowBytes m) :=
  fun a ha => (xorRow_spec src dst rowBytes m).outside a (by omega)

theorem chipRowCopy_inside {len : ℕ} (hdisjoint : Disjoint src dst len) (hlo : lo ≤ dst)
    (hhi : dst + len ≤ hi) : KeepsInside lo hi m (chipRowCopy exec src dst len) := by
  apply Triple.ite
  · intro haligned
    obtain ⟨hsrc, hdst, hlen⟩ := longAligned_iff.mp haligned
    refine Triple.update fun b hb => hb.trans ?_
    change Confined lo hi b.mem (exec.copyMemQuick src dst len b.mem)
    rw [exec.copyMemQuick_eq src dst len b.mem hsrc hdst hlen hdisjoint]
    exact Confined.overwrite hlo hhi
  · intro _
    refine Triple.update fun b hb => hb.trans ?_
    change Confined lo hi b.mem (exec.copyMem src dst len b.mem)
    rw [exec.copyMem_eq src dst len b.mem hdisjoint]
    exact Confined.overwrite hlo hhi

theorem chipCopyRect_inside (hrows : RowsInside lo hi dst dStride rowBytes h)
    (hdisjoint : ∀ row < h, Disjoint (src + row * sStride) (dst + row * dStride) rowBytes) :
    KeepsInside lo hi m (chipCopyRect exec src sStride dst dStride rowBytes h) := by
  refine Stable.ite (Stable.ret _) (Stable.forUp fun row hrow => ?_)
  exact chipRowCopy_inside (hdisjoint row hrow) (hrows row hrow).1 (hrows row hrow).2

theorem moveRowsUp_inside (hrows : RowsInside lo hi dst dStride rowBytes h) :
    KeepsInside lo hi m (forUp h fun row =>
      onMemory (moveRow (src + row * sStride) (dst + row * dStride) rowBytes)) :=
  rowsUp_inside fun row hrow _ => moveRow_confined (hrows row hrow).1 (hrows row hrow).2

theorem moveRowsDown_inside (hrows : RowsInside lo hi dst dStride rowBytes h) :
    KeepsInside lo hi m (forDown h fun row =>
      onMemory (moveRow (src + row * sStride) (dst + row * dStride) rowBytes)) :=
  Stable.forDown fun row hrow =>
    onMemory_inside fun _ => moveRow_confined (hrows row hrow).1 (hrows row hrow).2

theorem srcCopy_inside {isReverse : Bool} (hrows : RowsInside lo hi dst dStride rowBytes h)
    (hdisjoint : isReverse = false →
      ∀ row < h, Disjoint (src + row * sStride) (dst + row * dStride) rowBytes) :
    KeepsInside lo hi m (srcCopy exec isReverse src sStride dst dStride rowBytes h) := by
  cases isReverse with
  | false => exact chipCopyRect_inside hrows (hdisjoint rfl)
  | true => exact moveRowsDown_inside hrows

end

/-- The rows of a rectangle in the bitmap. -/
theorem IsSurface.rowsInside (hsurface : IsSurface ri bpp width height) {x y w h : ℕ}
    (hr : InBounds width height x y w h) :
    RowsInside ri.memory (ri.memory + height * ri.bytesPerRow) (ri.address bpp x y) ri.bytesPerRow
      (w * bpp) h := by
  intro row hrow
  have hlast : y + row < height := (Nat.add_lt_add_left hrow y).trans_le hr.bottom
  rw [address_row]
  exact hsurface.row_fits hr.right hlast

theorem chipBlitRect_inside (exec : ExecIFace)
    (hsurface : IsSurface ri (chipFormatBpp ri.rgbFormat) width height) {x y dx dy w h : ℕ}
    (hsrc : InBounds width height x y w h) (hdst : InBounds width height dx dy w h) :
    KeepsInside ri.memory (ri.memory + height * ri.bytesPerRow) m
      (chipBlitRect exec ri x y dx dy w h) := by
  have hrows := hsurface.rowsInside hdst
  refine Stable.ite (Stable.ret _) (Triple.ite (fun hup => ?_) fun _ => ?_)
  · apply chipCopyRect_inside hrows
    intro row _
    rw [address_row, address_row]
    exact hsurface.rows_disjoint hsrc.right hdst.right (by omega)
  · exact Stable.ite (moveRowsDown_inside hrows) (moveRowsUp_inside hrows)

/-- The pointers of the callbacks wrap as `ULONG`s do. -/
theorem base_eq (ri : RenderInfo) (bpp : ℕ) (x y : Int16) :
    ri.base bpp x y = ri.address bpp (ulong x) (ulong y) % 2 ^ 32 := by
  have hx := ulong_eq x
  have hy := ulong_eq y
  have hsame : (ri.memory + y.toInt * ri.bytesPerRow + x.toInt * bpp) % 2 ^ 32 =
      (ri.memory + ulong y * ri.bytesPerRow + ulong x * bpp : ℤ) % 2 ^ 32 := by
    rw [hx, hy]
    rw [Int.add_emod, Int.add_emod ri.memory, Int.mul_emod, Int.mul_emod x.toInt]
    simp only [Int.emod_emod_of_dvd, dvd_refl, Int.add_emod, Int.mul_emod]
  unfold RenderInfo.base RenderInfo.address
  rw [hsame]
  omega

theorem chipInvertRect_inside {format : RgbfType}
    (hsurface : IsSurface ri (chipFormatBpp format) width height) {r : Rect}
    (hr : r.Within width height) :
    KeepsInside ri.memory (ri.memory + height * ri.bytesPerRow) m
      (chipInvertRect ri r.x r.y r.w r.h format) := by
  refine Triple.ite (fun _ => Stable.ret _) fun hsome => ?_
  have hrows := hsurface.rowsInside hr
  have hpos : 0 < r.h.toNat :=
    Nat.pos_of_ne_zero fun h => hsome (Or.inr (Or.inr (UInt16.toNat_inj.mp h)))
  have hwpos : 0 < r.w.toNat :=
    Nat.pos_of_ne_zero fun h => hsome (Or.inr (Or.inl (UInt16.toNat_inj.mp h)))
  have hbase : ri.base (chipFormatBpp format) r.x r.y =
      ri.address (chipFormatBpp format) (ulong r.x) (ulong r.y) := by
    have hfirst := hrows 0 hpos
    have hbytes := Nat.mul_pos hwpos (chipFormatBpp_pos format)
    have hend := hsurface.fits
    rw [base_eq, Nat.mod_eq_of_lt (by omega)]
  dsimp only
  rw [hbase, chipXorRectWithConst_eq]
  exact onMemory_inside fun _ => changeRect_confined hrows _

/-- A copy that goes through exec.library row by row, and is not misdirected. -/
theorem Request.rows_disjoint {srcRi : RenderInfo} {sWidth sHeight x y dx dy w h : ℕ}
    (hreq : Request srcRi ri bpp sWidth sHeight width height x y dx dy w h)
    (hright : ¬ Misdirected .srcCopy srcRi ri x y dx dy w h)
    (hforward : ¬ (srcRi.memory = ri.memory ∧ (dy > y ∨ dy = y ∧ dx > x))) {row : ℕ}
    (hrow : row < h) :
    Disjoint (srcRi.address bpp x y + row * srcRi.bytesPerRow)
      (ri.address bpp dx dy + row * ri.bytesPerRow) (w * bpp) := by
  rcases hreq.bitmaps with ⟨hmem, hstride⟩ | hapart
  · by_cases hno : Overlap x y dx dy w h
    · apply hreq.disjoint_of_rows hmem hstride
      intro heq
      exact hright ⟨hmem, hstride, hno, Or.inl ⟨rfl, by omega, by omega⟩⟩
    · exact hreq.disjoint_of_no_overlap hmem hstride hno hrow hrow
  · exact hreq.disjoint_of_apart hapart hrow hrow

theorem chipBlitRectNoMaskComplete_inside (exec : ExecIFace) {srcRi : RenderInfo}
    {format : RgbfType} {sWidth sHeight x y dx dy w h : ℕ} {opcode : UInt8}
    (hreq : Request srcRi ri (chipFormatBpp format) sWidth sHeight width height x y dx dy w h)
    (hright : DrawCall.Copies opcode → ¬ Misdirected .srcCopy srcRi ri x y dx dy w h) :
    KeepsInside ri.memory (ri.memory + height * ri.bytesPerRow) m
      (chipBlitRectNoMaskComplete exec srcRi ri x y dx dy w h opcode format) := by
  have hrows := hreq.destination.rowsInside hreq.destinationRect
  have hcopy (hcopies : DrawCall.Copies opcode) :
      KeepsInside ri.memory (ri.memory + height * ri.bytesPerRow) m
        (srcCopy exec (decide (srcRi.memory = ri.memory ∧ (dy > y ∨ dy = y ∧ dx > x)))
          (srcRi.address (chipFormatBpp format) x y) srcRi.bytesPerRow
          (ri.address (chipFormatBpp format) dx dy) ri.bytesPerRow (w * chipFormatBpp format)
          h) := by
    apply srcCopy_inside hrows
    intro hforward row hrow
    exact hreq.rows_disjoint (hright hcopies) (of_decide_eq_false hforward) hrow
  refine Stable.ite (Stable.ret _) ?_
  refine Triple.ite (fun hop => hcopy ?_) fun _ => Triple.ite (fun _ => ?_) fun hclear =>
    Triple.ite (fun _ => ?_) fun hset => Triple.ite (fun _ => ?_) fun hinvert =>
    Triple.ite (fun _ => ?_) fun hxor => hcopy ⟨hclear, hset, hinvert, hxor⟩
  · unfold DrawCall.Copies
    rw [hop]
    decide
  · rw [chipFillRectBytes_eq]
    exact onMemory_inside fun _ => changeRect_confined hrows _
  · rw [chipFillRectBytes_eq]
    exact onMemory_inside fun _ => changeRect_confined hrows _
  · rw [chipXorRectWithConst_eq]
    exact onMemory_inside fun _ => changeRect_confined hrows _
  · exact rowsUp_inside fun row hrow _ => xorRow_confined (hrows row hrow).1 (hrows row hrow).2

/-! ## All of them -/

/-- A call inside the bitmap changes nothing but the rows of the bitmap. -/
theorem DrawCall.perform_confined (exec : ExecIFace) (call : DrawCall)
    (hsurface : IsSurface ri (call.bpp ri) width height) (hinside : call.Inside ri width height) :
    InRows ri height m (call.perform exec ri m) := by
  cases call with
  | fillRect r color format =>
      exact chipFillRect_confined hinside.1 hsurface hinside.2 color ⟨m, []⟩
  | invertRect r format => exact chipInvertRect_inside hsurface hinside ⟨m, []⟩ Confined.refl
  | blitRect x y dx dy w h =>
      exact chipBlitRect_inside exec hsurface hinside.1 hinside.2 ⟨m, []⟩ Confined.refl
  | blitRectNoMaskComplete src x y dx dy w h opcode format =>
      obtain ⟨⟨sWidth, sHeight, hreq⟩, hright⟩ := hinside
      exact chipBlitRectNoMaskComplete_inside exec hreq hright ⟨m, []⟩ Confined.refl
  | blitTemplate tmpl r format =>
      exact chipBlitTemplate_confined hinside.1 hsurface hinside.2 tmpl ⟨m, []⟩
  | blitPattern pat r format =>
      exact chipBlitPattern_confined hinside.1 hsurface hinside.2 pat ⟨m, []⟩
  | drawLine line format =>
      exact chipDrawLine_confined hinside.1 hsurface hinside.2.1 hinside.2.2 ⟨m, []⟩
  | blitPlanar2Chunky bm x y r mask =>
      exact chipBlitPlanar2Chunky_confined hsurface hinside bm x y mask ⟨m, []⟩
  | blitPlanar2Direct bm clut x y dx dy w h mask =>
      exact chipBlitPlanar2Direct_confined hinside.1 hsurface hinside.2 bm clut x y mask ⟨m, []⟩

end

end VirtIOGPU.Drawing
