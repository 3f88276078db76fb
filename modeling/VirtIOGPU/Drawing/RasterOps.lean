import VirtIOGPU.Drawing.BlitRect
import VirtIOGPU.Drawing.Xor

/-!
# `chip_BlitRectNoMaskComplete`

The operations with one operand compute what they should on every pair of rectangles.  `SrcCopy`
goes through exec.library unless the destination comes later in the same bitmap, so it hands over
ranges that overlap when a rectangle is moved to the left in its own rows.  `SrcXorDst` always
goes upwards, and reads what it has written when the destination comes later.  `Misdirected` is
both, and `nmc_correct_iff` says that nothing else goes wrong.

## Strategy

```text
operation     the rows are taken                   wrong in one bitmap, if they overlap and
one operand   one by one, in place                 never
SrcXorDst     upwards, each row upwards            the destination comes later
SrcCopy       downwards, if the destination        -
              comes later in the same bitmap
              upwards, by exec.library, otherwise  the destination is to the left in the same rows
```

The first direction is one specification for each way (`srcCopy_spec`, `perform_spec`), under the
disjointness that `Misdirected` leaves.  For the other one the memory has to be given: for the XOR
two pixels that overlap and differ (`xor_misdirected`), while for the copy it is the call of
exec.library itself whose ranges overlap (`srcCopy_not_disjoint`).
-/

namespace VirtIOGPU.Drawing

open Lib.Hoare Lib.Memory

/-! ## The function -/

/-- `rop`: the operation itself, or the high nibble of a minterm. -/
def ropOf (opcode : UInt8) : UInt8 := if opcode > 0x0F then opcode >>> 4 else opcode

def srcCopy (exec : ExecIFace) (isReverse : Bool) (sBase sStride dBase dStride rowBytes h : ℕ) :
    Blit PUnit :=
  if !isReverse then
    chipCopyRect exec sBase sStride dBase dStride rowBytes h
  else
    forDown h fun row => onMemory (moveRow (sBase + row * sStride) (dBase + row * dStride) rowBytes)

/-- `chip_BlitRectNoMaskComplete`. -/
def chipBlitRectNoMaskComplete (exec : ExecIFace) (src dst : RenderInfo) (x y dx dy w h : ℕ)
    (opcode : UInt8) (format : RgbfType) : Blit PUnit :=
  if src.memory = 0 ∨ dst.memory = 0 ∨ w = 0 ∨ h = 0 then pure ⟨⟩
  else
    let bpp := chipFormatBpp format
    let sStride := src.bytesPerRow
    let dStride := dst.bytesPerRow
    let sBase := src.address bpp x y
    let dBase := dst.address bpp dx dy
    let rowBytes := w * bpp
    let rop := ropOf opcode
    let isReverse := decide (src.memory = dst.memory ∧ (dy > y ∨ dy = y ∧ dx > x))
    if rop = 0xC then
      srcCopy exec isReverse sBase sStride dBase dStride rowBytes h
    else if rop = 0x0 then
      chipFillRectBytes dBase dStride rowBytes h 0x00
    else if rop = 0xF then
      chipFillRectBytes dBase dStride rowBytes h 0xFF
    else if rop = 0x5 then
      chipXorRectWithConst dBase dStride rowBytes h
    else if rop = 0x6 then
      chipXorRectWithSrc sBase sStride dBase dStride rowBytes h
    else
      -- an operation that is not implemented is taken for `SrcCopy`
      srcCopy exec isReverse sBase sStride dBase dStride rowBytes h

/-! ## What it should do -/

/-- The operations that are implemented. -/
inductive RasterOp where
  | clear
  | set
  | srcCopy
  | dstInvert
  | srcXorDst
  deriving DecidableEq, Repr

def RasterOp.code : RasterOp → UInt8
  | .clear => 0x0
  | .set => 0xF
  | .srcCopy => 0xC
  | .dstInvert => 0x5
  | .srcXorDst => 0x6

/-- The operation on bytes, of source and destination. -/
def RasterOp.apply : RasterOp → UInt8 → UInt8 → UInt8
  | .clear, _, _ => 0
  | .set, _, _ => 0xFF
  | .srcCopy, s, _ => s
  | .dstInvert, _, d => ~~~d
  | .srcXorDst, s, d => s ^^^ d

/-- The opcode is the operation, or has it in the high nibble. -/
def Encodes (opcode : UInt8) (op : RasterOp) : Prop :=
  opcode = op.code ∨ opcode > 0x0F ∧ opcode >>> 4 = op.code

/-- The operation on the pixels of source and destination. -/
def combined (op : RasterOp) (src dst : RenderInfo) (bpp x y dx dy : ℕ) (m : Mem UInt8)
    (col row : ℕ) : List UInt8 :=
  List.zipWith op.apply (pixel src bpp m (x + col) (y + row))
    (pixel dst bpp m (dx + col) (dy + row))

/-- The same bitmap, or two that do not overlap. -/
def SameOrDisjoint (src dst : RenderInfo) (sHeight dHeight : ℕ) : Prop :=
  src.memory = dst.memory ∧ src.bytesPerRow = dst.bytesPerRow ∨
    src.memory + sHeight * src.bytesPerRow ≤ dst.memory ∨
      dst.memory + dHeight * dst.bytesPerRow ≤ src.memory

/-- The rectangles have a pixel in common. -/
def Overlap (x y dx dy w h : ℕ) : Prop := (dx < x + w ∧ x < dx + w) ∧ dy < y + h ∧ y < dy + h

/-- In one bitmap: a copy to the left in the same rows, or an XOR whose destination comes later,
with rectangles that overlap. -/
def Misdirected (op : RasterOp) (src dst : RenderInfo) (x y dx dy w h : ℕ) : Prop :=
  src.memory = dst.memory ∧ src.bytesPerRow = dst.bytesPerRow ∧ Overlap x y dx dy w h ∧
    (op = .srcCopy ∧ dy = y ∧ dx ≤ x ∨ op = .srcXorDst ∧ (dy > y ∨ dy = y ∧ dx > x))

/-- The call does what the operation says, whatever the memory holds. -/
def Correct (exec : ExecIFace) (op : RasterOp) (src dst : RenderInfo) (x y dx dy w h : ℕ)
    (opcode : UInt8) (format : RgbfType) : Prop :=
  ∀ m : Mem UInt8,
    let bpp := chipFormatBpp format
    let after := (chipBlitRectNoMaskComplete exec src dst x y dx dy w h opcode format ⟨m, []⟩).2
    BlitResult dst bpp dx dy w h (combined op src dst bpp x y dx dy m) m after.mem ∧
      AllDisjoint after.calls

/-- The two surfaces and the rectangles in them. -/
structure Request (src dst : RenderInfo) (bpp sWidth sHeight dWidth dHeight x y dx dy w h : ℕ) :
    Prop where
  source : IsSurface src bpp sWidth sHeight
  destination : IsSurface dst bpp dWidth dHeight
  sourceRect : InBounds sWidth sHeight x y w h
  destinationRect : InBounds dWidth dHeight dx dy w h
  bitmaps : SameOrDisjoint src dst sHeight dHeight

/-! ## The operation that is chosen -/

theorem ropOf_eq {opcode : UInt8} {op : RasterOp} (h : Encodes opcode op) :
    ropOf opcode = op.code := by
  unfold ropOf
  rcases h with rfl | ⟨hlarge, hhigh⟩
  · cases op <;> rfl
  · rw [if_pos hlarge, hhigh]

/-- What is called for each operation. -/
def perform (exec : ExecIFace) (isReverse : Bool) (sBase sStride dBase dStride rowBytes h : ℕ) :
    RasterOp → Blit PUnit
  | .clear => chipFillRectBytes dBase dStride rowBytes h 0x00
  | .set => chipFillRectBytes dBase dStride rowBytes h 0xFF
  | .srcCopy => srcCopy exec isReverse sBase sStride dBase dStride rowBytes h
  | .dstInvert => chipXorRectWithConst dBase dStride rowBytes h
  | .srcXorDst => chipXorRectWithSrc sBase sStride dBase dStride rowBytes h

section

variable {exec : ExecIFace} {op : RasterOp} {src dst : RenderInfo} {format : RgbfType}
variable {bpp sWidth sHeight dWidth dHeight x y dx dy w h : ℕ} {opcode : UInt8}

theorem chipBlitRectNoMaskComplete_eq (exec : ExecIFace) (format : RgbfType) (x y dx dy : ℕ)
    (hcode : Encodes opcode op) (hsrc : src.memory ≠ 0) (hdst : dst.memory ≠ 0) (hw : 0 < w)
    (hh : 0 < h) :
    chipBlitRectNoMaskComplete exec src dst x y dx dy w h opcode format =
      perform exec (decide (src.memory = dst.memory ∧ (dy > y ∨ dy = y ∧ dx > x)))
        (src.address (chipFormatBpp format) x y) src.bytesPerRow
        (dst.address (chipFormatBpp format) dx dy) dst.bytesPerRow (w * chipFormatBpp format) h
        op := by
  have hsomething : ¬ (src.memory = 0 ∨ dst.memory = 0 ∨ w = 0 ∨ h = 0) := by omega
  rw [chipBlitRectNoMaskComplete, if_neg hsomething, ropOf_eq hcode]
  cases op <;> rfl

/-! ## Addresses of source and destination -/

/-- Rows of two surfaces that do not overlap. -/
theorem Request.disjoint_of_apart
    (hreq : Request src dst bpp sWidth sHeight dWidth dHeight x y dx dy w h)
    (hapart : src.memory + sHeight * src.bytesPerRow ≤ dst.memory ∨
      dst.memory + dHeight * dst.bytesPerRow ≤ src.memory) {row r : ℕ} (hrow : row < h)
    (hr : r < h) :
    Disjoint (src.address bpp x y + row * src.bytesPerRow)
      (dst.address bpp dx dy + r * dst.bytesPerRow) (w * bpp) := by
  have hs := hreq.source.row_le hreq.sourceRect.right
  have hd := hreq.destination.row_le hreq.destinationRect.right
  have hsRow : y + row < sHeight := by
    have hbottom := hreq.sourceRect.bottom
    omega
  have hdRow : dy + r < dHeight := by
    have hbottom := hreq.destinationRect.bottom
    omega
  have hsEnd := rows_apart src.memory hsRow hs
  have hdEnd := rows_apart dst.memory hdRow hd
  rw [address_row, address_row]
  unfold RenderInfo.address Disjoint
  rcases hapart with hapart | hapart
  · exact Or.inl (by omega)
  · exact Or.inr (by omega)

/-- Rows of the same surface. -/
theorem Request.disjoint_of_rows
    (hreq : Request src dst bpp sWidth sHeight dWidth dHeight x y dx dy w h)
    (hmem : src.memory = dst.memory) (hstride : src.bytesPerRow = dst.bytesPerRow) {row r : ℕ}
    (hne : y + row ≠ dy + r) :
    Disjoint (src.address bpp x y + row * src.bytesPerRow)
      (dst.address bpp dx dy + r * dst.bytesPerRow) (w * bpp) := by
  have hs := hreq.source.row_le hreq.sourceRect.right
  have hd := hreq.destination.row_le hreq.destinationRect.right
  rw [address_row, address_row]
  unfold RenderInfo.address Disjoint
  rw [hmem, hstride]
  rw [hstride] at hs
  rcases Nat.lt_or_gt_of_ne hne with hlt | hgt
  · have hapart := rows_apart dst.memory hlt hs
    omega
  · have hapart := rows_apart dst.memory hgt hd
    omega

/-- A destination that starts at a higher address comes later in the bitmap. -/
theorem Request.later_of_lt
    (hreq : Request src dst bpp sWidth sHeight dWidth dHeight x y dx dy w h)
    (hmem : src.memory = dst.memory) (hstride : src.bytesPerRow = dst.bytesPerRow) {row : ℕ}
    (hlt : src.address bpp x y + row * src.bytesPerRow <
      dst.address bpp dx dy + row * dst.bytesPerRow) : dy > y ∨ dy = y ∧ dx > x := by
  have hd := hreq.destination.row_le hreq.destinationRect.right
  rw [address_row, address_row] at hlt
  unfold RenderInfo.address at hlt
  rw [hmem, hstride] at hlt
  by_contra hnot
  rcases Nat.lt_trichotomy dy y with hless | rfl | hmore
  · have hapart := rows_apart dst.memory (Nat.add_lt_add_right hless row) hd
    omega
  · have hmul : dx * bpp ≤ x * bpp := Nat.mul_le_mul_right bpp (by omega)
    omega
  · exact hnot (Or.inl hmore)

/-- Parts of the same row of the same surface. -/
theorem disjoint_of_columns (hmem : src.memory = dst.memory)
    (hstride : src.bytesPerRow = dst.bytesPerRow) (hcol : x + w ≤ dx ∨ dx + w ≤ x) {row r : ℕ}
    (hrow : y + row = dy + r) :
    Disjoint (src.address bpp x y + row * src.bytesPerRow)
      (dst.address bpp dx dy + r * dst.bytesPerRow) (w * bpp) := by
  rw [address_row, address_row]
  unfold RenderInfo.address Disjoint
  rw [hmem, hstride, hrow]
  rcases hcol with hleft | hright
  · have hmul := Nat.mul_le_mul_right bpp hleft
    rw [Nat.add_mul] at hmul
    exact Or.inl (by omega)
  · have hmul := Nat.mul_le_mul_right bpp hright
    rw [Nat.add_mul] at hmul
    exact Or.inr (by omega)

/-- Rectangles without a common pixel. -/
theorem Request.disjoint_of_no_overlap
    (hreq : Request src dst bpp sWidth sHeight dWidth dHeight x y dx dy w h)
    (hmem : src.memory = dst.memory) (hstride : src.bytesPerRow = dst.bytesPerRow)
    (hno : ¬ Overlap x y dx dy w h) {row r : ℕ} (hrow : row < h) (hr : r < h) :
    Disjoint (src.address bpp x y + row * src.bytesPerRow)
      (dst.address bpp dx dy + r * dst.bytesPerRow) (w * bpp) := by
  by_cases hsame : y + row = dy + r
  · apply disjoint_of_columns hmem hstride ?_ hsame
    by_contra hcol
    exact hno ⟨⟨by omega, by omega⟩, by omega, by omega⟩
  · exact hreq.disjoint_of_rows hmem hstride hsame

/-! ## Where the call is correct -/

/-- From rows of bytes to the result. -/
theorem blitResult_of_rows {m t : Mem UInt8} (hbpp : 0 < bpp)
    (hpainted : Painted (dst.address bpp dx dy) dst.bytesPerRow (w * bpp) (· < h)
      (fun row i => op.apply (m (src.address bpp x y + row * src.bytesPerRow + i))
        (m (dst.address bpp dx dy + row * dst.bytesPerRow + i))) m t) :
    BlitResult dst bpp dx dy w h (combined op src dst bpp x y dx dy m) m t := by
  apply BlitResult.of_painted hbpp hpainted
  intro row _ col _
  rw [combined, pixel, pixel, List.zipWith_map, List.zipWith_self]
  apply List.map_congr_left
  intro k _
  rw [address_col, address_col]

theorem xor_ones (v : UInt8) : v ^^^ 0xFF = ~~~v := by
  have hall : ∀ k : Fin 256, UInt8.ofNat k ^^^ 0xFF = ~~~(UInt8.ofNat k) := by decide +kernel
  have hv := hall ⟨v.toNat, v.toNat_lt⟩
  rwa [UInt8.ofNat_toNat] at hv

/-- Where no byte is read after it was written, the XOR loop computes the operation. -/
theorem XorRect.painted {s sStride d dStride len : ℕ} {m t : Mem UInt8}
    (hxor : XorRect s sStride d dStride len h m t)
    (hread : ∀ row < h, s + row * sStride < d + row * dStride →
      ∀ r < h, Disjoint (s + row * sStride) (d + r * dStride) len) :
    Painted d dStride len (· < h) (fun row i => RasterOp.srcXorDst.apply
      (m (s + row * sStride + i)) (m (d + row * dStride + i))) m t where
  inside row hrow i hi := by
    rw [hxor.inside row hrow i hi, RasterOp.apply, UInt8.xor_comm]
    split
    · next hlt =>
        rw [hxor.outside]
        intro r hr
        have hdisjoint := hread row hrow hlt r hr
        unfold Disjoint at hdisjoint
        omega
    · rfl
  outside a ha := hxor.outside a ha

/-- What a copy needs, in either direction. -/
theorem srcCopy_spec {m : Mem UInt8} {isReverse : Bool}
    (hlen : w * bpp ≤ dst.bytesPerRow)
    (hforward : isReverse = false → ∀ row < h, ∀ r ≤ row,
      Disjoint (src.address bpp x y + row * src.bytesPerRow)
        (dst.address bpp dx dy + r * dst.bytesPerRow) (w * bpp))
    (hreverse : isReverse = true → ∀ row < h, ∀ r, row < r → r < h →
      Disjoint (src.address bpp x y + row * src.bytesPerRow)
        (dst.address bpp dx dy + r * dst.bytesPerRow) (w * bpp)) :
    Triple (fun b => b.mem = m ∧ AllDisjoint b.calls)
      (srcCopy exec isReverse (src.address bpp x y) src.bytesPerRow (dst.address bpp dx dy)
        dst.bytesPerRow (w * bpp) h)
      fun _ => RowsCopied (src.address bpp x y) src.bytesPerRow (dst.address bpp dx dy)
        dst.bytesPerRow (w * bpp) m (· < h) := by
  cases isReverse with
  | false =>
      apply chipCopyRect_spec exec hlen
      · exact fun row hrow => hforward rfl row hrow row le_rfl
      · exact fun row hrow r hr => hforward rfl row hrow r hr.le
  | true => exact moveRowsDown_spec hlen (hreverse rfl)

/-- Every operation on rectangles that do not misdirect it. -/
theorem perform_spec (exec : ExecIFace) {m : Mem UInt8}
    (hreq : Request src dst bpp sWidth sHeight dWidth dHeight x y dx dy w h)
    (hright : ¬ Misdirected op src dst x y dx dy w h) :
    Triple (fun b => b.mem = m ∧ AllDisjoint b.calls)
      (perform exec (decide (src.memory = dst.memory ∧ (dy > y ∨ dy = y ∧ dx > x)))
        (src.address bpp x y) src.bytesPerRow (dst.address bpp dx dy) dst.bytesPerRow
        (w * bpp) h op)
      fun _ b =>
        Painted (dst.address bpp dx dy) dst.bytesPerRow (w * bpp) (· < h)
          (fun row i => op.apply (m (src.address bpp x y + row * src.bytesPerRow + i))
            (m (dst.address bpp dx dy + row * dst.bytesPerRow + i))) m b.mem ∧
        AllDisjoint b.calls := by
  have hlen : w * bpp ≤ dst.bytesPerRow :=
    (Nat.le_add_left _ _).trans (hreq.destination.row_le hreq.destinationRect.right)
  cases op with
  | clear => exact chipFillRectBytes_spec hlen 0
  | set => exact chipFillRectBytes_spec hlen 0xFF
  | dstInvert =>
      intro b hb
      have hinverted := chipXorRectWithConst_spec (dst.address bpp dx dy) h hlen b hb
      simp only [xor_ones] at hinverted
      exact hinverted
  | srcCopy =>
      apply srcCopy_spec hlen
      · intro hnot row hrow r hr
        rw [decide_eq_false_iff_not] at hnot
        -- forwards: a row that is read later must not lie in one that is written
        rcases hreq.bitmaps with ⟨hmem, hstride⟩ | hapart
        · by_cases hno : Overlap x y dx dy w h
          · apply hreq.disjoint_of_rows hmem hstride
            intro heq
            exact hright ⟨hmem, hstride, hno, Or.inl ⟨rfl, by omega, by omega⟩⟩
          · exact hreq.disjoint_of_no_overlap hmem hstride hno hrow (by omega)
        · exact hreq.disjoint_of_apart hapart hrow (by omega)
      · intro hyes row hrow r hr hrh
        obtain ⟨hmem, hlater⟩ := of_decide_eq_true hyes
        rcases hreq.bitmaps with ⟨-, hstride⟩ | hapart
        · exact hreq.disjoint_of_rows hmem hstride (by omega)
        · exact hreq.disjoint_of_apart hapart hrow hrh
  | srcXorDst =>
      intro b hb
      obtain ⟨hxor, hcalls⟩ := chipXorRectWithSrc_spec (src.address bpp x y) src.bytesPerRow
        (dst.address bpp dx dy) h hlen b hb
      refine ⟨hxor.painted fun row hrow hlt r hr => ?_, hcalls⟩
      rcases hreq.bitmaps with ⟨hmem, hstride⟩ | hapart
      · apply hreq.disjoint_of_no_overlap hmem hstride ?_ hrow hr
        intro hoverlap
        apply hright ⟨hmem, hstride, hoverlap, Or.inr ⟨rfl, ?_⟩⟩
        exact hreq.later_of_lt hmem hstride hlt
      · exact hreq.disjoint_of_apart hapart hrow hr

/-! ## Where it is not -/

/-- Every row has been handed to exec.library. -/
theorem chipCopyRect_calls (exec : ExecIFace) {sBase sStride dBase dStride rowBytes : ℕ}
    (hbytes : rowBytes ≠ 0) (hh : h ≠ 0) (b : Blitter) :
    ∀ row < h, ⟨sBase + row * sStride, dBase + row * dStride, rowBytes⟩ ∈
      (chipCopyRect exec sBase sStride dBase dStride rowBytes h b).2.calls := by
  have hloop : Triple (fun _ => True)
      (forUp h fun row =>
        chipRowCopy exec (sBase + row * sStride) (dBase + row * dStride) rowBytes)
      fun _ b => ∀ row < h,
        ⟨sBase + row * sStride, dBase + row * dStride, rowBytes⟩ ∈ b.calls := by
    intro b _
    apply Triple.forUp (f := fun row =>
        chipRowCopy exec (sBase + row * sStride) (dBase + row * dStride) rowBytes)
      (I := fun k b => ∀ row < k,
        ⟨sBase + row * sStride, dBase + row * dStride, rowBytes⟩ ∈ b.calls)
      (fun row hrow b hb r hr => ?_) b fun row hrow => absurd hrow (Nat.not_lt_zero row)
    have hcalls : (chipRowCopy exec (sBase + row * sStride) (dBase + row * dStride) rowBytes
        b).2.calls = b.calls ++ [⟨sBase + row * sStride, dBase + row * dStride, rowBytes⟩] := by
      unfold chipRowCopy
      split <;> rfl
    rw [hcalls]
    rcases Nat.lt_succ_iff_lt_or_eq.mp hr with hold | rfl
    · exact List.mem_append_left _ (hb r hold)
    · exact List.mem_append_right _ (List.mem_singleton.mpr rfl)
  rw [chipCopyRect, if_neg (by omega)]
  exact hloop b trivial

/-- A copy to the left in the same rows hands over ranges that overlap. -/
theorem srcCopy_not_disjoint (hmem : src.memory = dst.memory)
    (hstride : src.bytesPerRow = dst.bytesPerRow) (hbpp : 0 < bpp) (hh : 0 < h) (hleft : dx ≤ x)
    (hoverlap : x < dx + w) (b : Blitter) :
    ¬ AllDisjoint (srcCopy exec false (src.address bpp x y) src.bytesPerRow
      (dst.address bpp dx y) dst.bytesPerRow (w * bpp) h b).2.calls := by
  intro hall
  have hw : 0 < w := by omega
  have hbytes : w * bpp ≠ 0 := Nat.mul_ne_zero (by omega) (by omega)
  have hfirst := hall _ (chipCopyRect_calls exec hbytes (by omega) b 0 hh)
  have hle : dx * bpp ≤ x * bpp := Nat.mul_le_mul_right bpp hleft
  have hlt : x * bpp < dx * bpp + w * bpp := by
    rw [← Nat.add_mul]
    exact Nat.mul_lt_mul_of_pos_right hoverlap hbpp
  unfold Disjoint RenderInfo.address at hfirst
  rw [hmem, hstride] at hfirst
  dsimp only at hfirst
  omega

/-- The head of a pixel. -/
theorem pixel_head {m : Mem UInt8} {ri : RenderInfo} {px py : ℕ} (hbpp : 0 < bpp) :
    (pixel ri bpp m px py).head? = some (m (ri.address bpp px py)) := by
  obtain ⟨n, rfl⟩ : ∃ n, bpp = n + 1 := ⟨bpp - 1, by omega⟩
  rw [pixel, List.range_succ_eq_map]
  rfl

theorem BlitResult.head {m t : Mem UInt8}
    (hresult : BlitResult dst bpp dx dy w h (combined op src dst bpp x y dx dy m) m t)
    (hbpp : 0 < bpp) (col row : ℕ) (hrow : row < h) (hcol : col < w) :
    t (dst.address bpp (dx + col) (dy + row)) =
      op.apply (m (src.address bpp (x + col) (y + row)))
        (m (dst.address bpp (dx + col) (dy + row))) := by
  have hhead := congrArg List.head? (hresult.pixels row hrow col hcol)
  rw [combined, pixel_head hbpp, List.head?_zipWith, pixel_head hbpp, pixel_head hbpp] at hhead
  exact Option.some.inj hhead

/-- The address of a pixel grows with the row, and in a row with the column. -/
theorem address_lt {ri : RenderInfo} {px py px' py' width height : ℕ}
    (hsurface : IsSurface ri bpp width height) (hbpp : 0 < bpp) (hx : px < width)
    (hlater : py' > py ∨ py' = py ∧ px' > px) : ri.address bpp px py < ri.address bpp px' py' := by
  unfold RenderInfo.address
  rcases hlater with hrow | ⟨rfl, hcol⟩
  · have hin := hsurface.row_le (x := px) (w := 1) hx
    have hapart := rows_apart ri.memory hrow hin
    omega
  · have hmul := Nat.mul_lt_mul_of_pos_right hcol hbpp
    omega

theorem address_congr (hmem : src.memory = dst.memory)
    (hstride : src.bytesPerRow = dst.bytesPerRow) (px py : ℕ) :
    src.address bpp px py = dst.address bpp px py := by
  unfold RenderInfo.address
  rw [hmem, hstride]

/-- Where the destination comes later, every byte is combined with what the source has become. -/
theorem XorRect.later {m t : Mem UInt8}
    (hreq : Request src dst bpp sWidth sHeight dWidth dHeight x y dx dy w h) (hbpp : 0 < bpp)
    (hmem : src.memory = dst.memory) (hstride : src.bytesPerRow = dst.bytesPerRow)
    (hlater : dy > y ∨ dy = y ∧ dx > x)
    (hxor : XorRect (src.address bpp x y) src.bytesPerRow (dst.address bpp dx dy) dst.bytesPerRow
      (w * bpp) h m t) (col row : ℕ) (hrow : row < h) (hcol : col < w) :
    t (dst.address bpp (dx + col) (dy + row)) = m (dst.address bpp (dx + col) (dy + row)) ^^^
      t (dst.address bpp (x + col) (y + row)) := by
  have hlt : src.address bpp x y + row * src.bytesPerRow <
      dst.address bpp dx dy + row * dst.bytesPerRow := by
    have hx : x < sWidth := by
      have hright := hreq.sourceRect.right
      omega
    rw [address_row, address_row, ← address_congr hmem hstride dx]
    exact address_lt hreq.source hbpp hx (by omega)
  have hbyte : col * bpp < w * bpp := Nat.mul_lt_mul_of_pos_right hcol hbpp
  have hinside := hxor.inside row hrow (col * bpp) hbyte
  rw [if_pos hlt] at hinside
  have hd := @address_col dst bpp dx dy col row 0
  have hs := @address_col src bpp x y col row 0
  rw [Nat.add_zero, Nat.add_zero] at hd hs
  rw [← address_congr hmem hstride (x + col), hd, hs]
  exact hinside

/-- A pixel that the loop has changed is read later as a source.  The memory is 0 except for the
first pixel of the source that is combined with such a one. -/
theorem xor_misdirected {m t : Mem UInt8}
    (hreq : Request src dst bpp sWidth sHeight dWidth dHeight x y dx dy w h) (hbpp : 0 < bpp)
    (hmem : src.memory = dst.memory) (hstride : src.bytesPerRow = dst.bytesPerRow)
    (hoverlap : Overlap x y dx dy w h) (hlater : dy > y ∨ dy = y ∧ dx > x)
    (hm : m = fun a => if a = dst.address bpp (x + (x - dx)) y then 1 else 0)
    (hxor : XorRect (src.address bpp x y) src.bytesPerRow (dst.address bpp dx dy) dst.bytesPerRow
      (w * bpp) h m t) :
    ¬ BlitResult dst bpp dx dy w h (combined .srcXorDst src dst bpp x y dx dy m) m t := by
  intro hresult
  obtain ⟨⟨hleft, hright⟩, htop, hbottom⟩ := hoverlap
  have hbounds := hreq.destinationRect.right
  have hsourceBounds := hreq.sourceRect.right
  have hsurface : IsSurface dst bpp sWidth sHeight :=
    ⟨hreq.destination.present, hstride ▸ hreq.source.stride, hmem ▸ hstride ▸ hreq.source.fits⟩
  have hfirst : dst.address bpp (x + (x - dx)) y < dst.address bpp dx dy :=
    address_lt hsurface hbpp (by omega) (by omega)
  have hmonotone (col row : ℕ) :
      dst.address bpp dx dy ≤ dst.address bpp (dx + col) (dy + row) := by
    have hcol := @address_col dst bpp dx dy col row 0
    omega
  have hzero (col row : ℕ) : m (dst.address bpp (dx + col) (dy + row)) = 0 := by
    have hle := hmonotone col row
    rw [hm]
    exact if_neg (by omega)
  -- the source pixel keeps its value
  have hsource : t (dst.address bpp (x + (x - dx)) y) = 1 := by
    rw [hresult.others, hm]
    · exact if_pos rfl
    · intro row _ col _ hin
      have hle := hmonotone col row
      have hstart : dst.address bpp (dx + col) (dy + row) ≤ _ := hin.1
      omega
  -- the pixel that it is combined with becomes 1, and is the source of another one
  have hchanged : t (dst.address bpp (dx + (x - dx)) (dy + 0)) = 1 := by
    rw [hxor.later hreq hbpp hmem hstride hlater _ _ (by omega) (by omega), hzero, Nat.add_zero,
      hsource]
    rfl
  have hshared : dst.address bpp (x + (dx - x)) (y + (dy - y)) =
      dst.address bpp (dx + (x - dx)) (dy + 0) := by
    congr 1 <;> omega
  have hread := hxor.later hreq hbpp hmem hstride hlater (dx - x) (dy - y) (by omega) (by omega)
  have hshould := hresult.head hbpp (dx - x) (dy - y) (by omega) (by omega)
  rw [address_congr hmem hstride, hshared] at hshould
  rw [hshared, hchanged, hshould, hzero, hzero] at hread
  exact absurd hread (by decide)

/-- For every pair of bitmaps and rectangles in them, every format and both encodings of every
implemented operation: the call computes the operation on all contents, and only hands over ranges
that do not overlap, exactly where it is not misdirected. -/
theorem nmc_correct_iff (exec : ExecIFace) (op : RasterOp) (opcode : UInt8)
    (hcode : Encodes opcode op) (format : RgbfType)
    (hreq : Request src dst (chipFormatBpp format) sWidth sHeight dWidth dHeight x y dx dy w h) :
    Correct exec op src dst x y dx dy w h opcode format ↔
      ¬ Misdirected op src dst x y dx dy w h := by
  have hbpp := chipFormatBpp_pos format
  have hnone : AllDisjoint [] := fun c hc => absurd hc List.not_mem_nil
  constructor
  · rintro hcorrect ⟨hmem, hstride, hoverlap, hcase⟩
    have hw : 0 < w := by
      have hcol := hoverlap.1
      omega
    have hh : 0 < h := by
      have hrow := hoverlap.2
      omega
    have heq := chipBlitRectNoMaskComplete_eq exec format x y dx dy hcode hreq.source.present
      hreq.destination.present hw hh
    unfold Correct at hcorrect
    rw [heq] at hcorrect
    rcases hcase with ⟨rfl, rfl, hleft⟩ | ⟨rfl, hlater⟩
    · have hforward : decide (src.memory = dst.memory ∧ (dy > dy ∨ dy = dy ∧ dx > x)) = false := by
        rw [decide_eq_false_iff_not]
        omega
      -- the row is copied by one call, and its two ranges overlap
      obtain ⟨-, hcalls⟩ := hcorrect fun _ => 0
      rw [hforward] at hcalls
      exact srcCopy_not_disjoint hmem hstride hbpp hh hleft hoverlap.1.2 _ hcalls
    · -- one marked byte, which the operation reads after it has been written
      obtain ⟨hresult, -⟩ := hcorrect fun a =>
        if a = dst.address (chipFormatBpp format) (x + (x - dx)) y then 1 else 0
      have hlen : w * chipFormatBpp format ≤ dst.bytesPerRow :=
        (Nat.le_add_left _ _).trans (hreq.destination.row_le hreq.destinationRect.right)
      obtain ⟨hxor, -⟩ := chipXorRectWithSrc_spec (src.address (chipFormatBpp format) x y)
        src.bytesPerRow (dst.address (chipFormatBpp format) dx dy) h hlen ⟨_, []⟩ ⟨rfl, hnone⟩
      exact xor_misdirected hreq hbpp hmem hstride hoverlap hlater rfl hxor hresult
  · intro hright m
    by_cases hnothing : w = 0 ∨ h = 0
    · have hpure : chipBlitRectNoMaskComplete exec src dst x y dx dy w h opcode format =
          pure ⟨⟩ := if_pos (by omega)
      rw [hpure]
      refine ⟨⟨fun row hrow col hcol => by omega, fun _ _ => rfl⟩, hnone⟩
    · rw [chipBlitRectNoMaskComplete_eq exec format x y dx dy hcode hreq.source.present
        hreq.destination.present (by omega) (by omega)]
      obtain ⟨hpainted, hcalls⟩ := perform_spec exec hreq hright ⟨m, []⟩ ⟨rfl, hnone⟩
      exact ⟨blitResult_of_rows hbpp hpainted, hcalls⟩

/-- Two pixels moved to the right in their row by a minterm, and inverted where they are. -/
theorem nmc_correct_iff_two_pixels :
    let ri : RenderInfo := ⟨0x10000, 16, .a8r8g8b8⟩
    Correct wholeCopy .srcCopy ri ri 0 0 1 0 2 1 0xC0 .a8r8g8b8 ∧
      Correct wholeCopy .dstInvert ri ri 1 0 1 0 2 1 0x5 .a8r8g8b8 := by
  intro ri
  have hsurface : IsSurface ri 4 4 1 := ⟨by decide, by decide, by decide⟩
  have hleft : InBounds 4 1 0 0 2 1 := ⟨by decide, by decide⟩
  have hright : InBounds 4 1 1 0 2 1 := ⟨by decide, by decide⟩
  have hsame : SameOrDisjoint ri ri 1 1 := Or.inl ⟨rfl, rfl⟩
  constructor
  · apply (nmc_correct_iff wholeCopy .srcCopy 0xC0 (Or.inr ⟨by decide, by decide⟩) .a8r8g8b8
      ⟨hsurface, hsurface, hleft, hright, hsame⟩).mpr
    rintro ⟨-, -, -, ⟨-, -, hdx⟩ | ⟨hop, -⟩⟩
    · omega
    · cases hop
  · apply (nmc_correct_iff wholeCopy .dstInvert 0x5 (Or.inl rfl) .a8r8g8b8
      ⟨hsurface, hsurface, hright, hright, hsame⟩).mpr
    rintro ⟨-, -, -, ⟨hop, -⟩ | ⟨hop, -⟩⟩ <;> cases hop

/-- Two pixels moved to the left in their row, and three combined with their neighbours on the
left. -/
theorem nmc_misdirected :
    let ri : RenderInfo := ⟨0x10000, 16, .a8r8g8b8⟩
    ¬ Correct wholeCopy .srcCopy ri ri 1 0 0 0 2 1 0xC0 .a8r8g8b8 ∧
      ¬ Correct wholeCopy .srcXorDst ri ri 0 0 1 0 3 1 0x6 .a8r8g8b8 := by
  intro ri
  constructor
  · intro hcorrect
    obtain ⟨-, hcalls⟩ := hcorrect fun _ => 0
    exact absurd (hcalls ⟨0x10004, 0x10000, 8⟩ (by decide +kernel)) (by decide)
  · intro hcorrect
    -- the third pixel gets what the second one has become
    obtain ⟨hresult, -⟩ := hcorrect fun a => if a = 0x10000 then 1 else 0
    exact absurd (hresult.pixels 0 (by decide) 1 (by decide)) (by decide +kernel)

end

end VirtIOGPU.Drawing
