import VirtIOGPU.Drawing.Bytewise
import VirtIOGPU.Drawing.Patterns

/-!
# `chip_FillRect`

A rectangle is filled in bytes, words or longs, as the size of a pixel is 1, 2 or something else.
For the sizes 1, 2 and 4 this is the plainest thing that can be drawn: every pixel of the rectangle
becomes the pen, as if a pattern without a hole had been expanded, and of two fills the later one
decides (`fill_rect_paints`).

`paintRect_altered` is the argument for every function that goes over a rectangle row by row and
gives each pixel a value of its own.
-/

namespace VirtIOGPU.Drawing

open Lib.Memory

/-! ## The function -/

/-- `chip_FillRect`.  `chip_virgl_fill_rect` always refuses, so that nothing is left to the
host. -/
def chipFillRect (ri : RenderInfo) (r : Rect) (color : UInt32) (format : RgbfType) (c : Canvas) :
    Canvas :=
  if ri.memory = 0 ∨ r.w = 0 ∨ r.h = 0 then c
  else
    let bpp := chipFormatBpp format
    let base := ri.address bpp (ulong r.x) (ulong r.y)
    let filled :=
      if format = .clut then
        (chipFillRectBytes base ri.bytesPerRow r.w.toNat r.h.toNat color.toUInt8 ⟨c.mem, []⟩).2.mem
      else if bpp = 2 then
        up r.h.toNat (fun row =>
          up r.w.toNat fun col => storeWord (base + row * ri.bytesPerRow + col * 2) color.toUInt16)
          c.mem
      else
        up r.h.toNat (fun row =>
          up r.w.toNat fun col => storeLong (base + row * ri.bytesPerRow + col * 4) color)
          c.mem
    { mem := filled, flushed := c.flushed ++ [r] }

/-! ## Painting a rectangle -/

section

variable {ri : RenderInfo} {r : Rect} {bpp width height : ℕ}

/-- Each turn of the two loops alters the pixel that belongs to it. -/
theorem paintRect_altered (hsurface : IsSurface ri bpp width height) (hr : r.Within width height)
    {new : ℕ × ℕ → List UInt8 → List UInt8} {body : ℕ → ℕ → Mem UInt8 → Mem UInt8}
    (hbody : ∀ row < r.h.toNat, ∀ col < r.w.toNat, ∀ m, Altered (pixelAt ri bpp) bpp new
      (· = (ulong r.x + col, ulong r.y + row)) m (body row col m)) (m : Mem UInt8) :
    Altered (pixelAt ri bpp) bpp new r.Contains m
      (up r.h.toNat (fun row => up r.w.toNat (body row)) m) := by
  have hflat : up r.h.toNat (fun row => up r.w.toNat (body row)) m =
      up (r.h.toNat * r.w.toNat) (fun i => body (i / r.w.toNat) (i % r.w.toNat)) m :=
    (@up_mul _ _ _ body m).symm
  rw [hflat]
  refine (Altered.loop (fun i => (ulong r.x + i % r.w.toNat, ulong r.y + i / r.w.toNat)) ?_
    ?_).congr (fun q => (r.contains_iff q).symm) fun _ _ => rfl
  · intro i hi m
    have hw : 0 < r.w.toNat := Nat.pos_of_mul_pos_left (Nat.zero_lt_of_lt hi)
    have hrow : i / r.w.toNat < r.h.toNat := Nat.div_lt_of_lt_mul (by rwa [Nat.mul_comm])
    exact hbody _ hrow _ (Nat.mod_lt i hw) m
  · intro i hi j hj
    have hw : 0 < r.w.toNat := Nat.pos_of_mul_pos_left (Nat.zero_lt_of_lt hi)
    have hrow : (ulong r.x + r.w.toNat) * bpp ≤ ri.bytesPerRow :=
      (Nat.mul_le_mul_right _ hr.right).trans hsurface.stride
    exact pixels_apart hrow hw (Nat.ne_of_lt hj)

/-- The address that the loops compute. -/
theorem pixelAt_rect (ri : RenderInfo) (bpp x y row col : ℕ) :
    ri.address bpp x y + row * ri.bytesPerRow + col * bpp = pixelAt ri bpp (x + col, y + row) := by
  unfold pixelAt RenderInfo.address
  ring

/-- A pixel that is written as a whole. -/
theorem Altered.stored {new : ℕ × ℕ → List UInt8 → List UInt8} {q : ℕ × ℕ} {f : ℕ → UInt8}
    {m : Mem UInt8} (hf : ∀ old, new q old = (List.range bpp).map f) :
    Altered (pixelAt ri bpp) bpp new (· = q) m (overwrite (pixelAt ri bpp q) bpp f m) :=
  Altered.single (hf _).symm

end

/-! ## Filling -/

section

variable {ri : RenderInfo} {r : Rect} {format : RgbfType} {width height : ℕ}

/-- The helper for bytes goes over the rows as the loops do. -/
theorem fillBytes_eq (base stride w h : ℕ) (val : UInt8) (m : Mem UInt8) :
    (chipFillRectBytes base stride w h val ⟨m, []⟩).2.mem =
      up h (fun row => up w fun col => storeByte (base + row * stride + col) val) m := by
  rw [chipFillRectBytes_eq]
  rfl

/-- In each of the three sizes the loops store the pen. -/
theorem fillLoops_eq (h24 : chipFormatBpp format ≠ 3) (color : UInt32) (c : Canvas)
    (hsome : ¬ (ri.memory = 0 ∨ r.w = 0 ∨ r.h = 0)) :
    (chipFillRect ri r color format c).mem =
      up r.h.toNat (fun row => up r.w.toNat fun col =>
        setPen format color (pixelAt ri (chipFormatBpp format)
          (ulong r.x + col, ulong r.y + row))) c.mem := by
  unfold chipFillRect
  rw [if_neg hsome]
  simp only [← pixelAt_rect]
  by_cases hclut : format = .clut
  · subst hclut
    simp only [if_true, fillBytes_eq, setPen]
    simp only [chipFormatBpp, Nat.mul_one]
  · rw [if_neg hclut]
    by_cases htwo : chipFormatBpp format = 2
    · simp only [if_pos htwo, setPen, if_neg hclut]
      simp only [htwo]
    · simp only [if_neg htwo, setPen, if_neg hclut]
      simp only [bpp_eq_four h24 hclut htwo]

theorem chipFillRect_altered (h24 : chipFormatBpp format ≠ 3)
    (hsurface : IsSurface ri (chipFormatBpp format) width height)
    (hinside : ∀ q, r.Contains q → q.1 < width ∧ q.2 < height) (color : UInt32) (c : Canvas) :
    Altered (pixelAt ri (chipFormatBpp format)) (chipFormatBpp format)
      (fun _ _ => penBytes (chipFormatBpp format) color) r.Contains c.mem
      (chipFillRect ri r color format c).mem := by
  obtain ⟨hnothing, hnone⟩ | hsome := r.empty_or hsurface
  · rw [chipFillRect, if_pos hnothing]
    exact Altered.none hnone
  · have hr : r.Within width height :=
      Rect.within_of_inside (fun h => hsome (by simp [h])) (fun h => hsome (by simp [h])) hinside
    rw [fillLoops_eq h24 color c hsome]
    refine paintRect_altered hsurface hr (fun row _ col _ m => ?_) c.mem
    rw [setPen_eq, penSize_eq h24]
    exact Altered.stored fun _ => rfl

/-- A pattern whose bits are all set. -/
def solidPattern (color : UInt32) : ChipPattern := ⟨some fun _ => 0xFF, 0, 0, color, 0, 0, 0⟩

theorem solidPattern_bit (color : UInt32) (q : ℕ × ℕ) :
    patternBit (solidPattern color) (fun _ => 0xFF) q = true := by
  have hall : ∀ n < 8, (0xFF : UInt8).toNat.testBit n = true := by decide
  exact hall _ (by omega)

/-- Such a pattern sets every pixel to its pen. -/
theorem solidPattern_altered (h24 : chipFormatBpp format ≠ 3)
    (hsurface : IsSurface ri (chipFormatBpp format) width height) (hr : r.Within width height)
    (color : UInt32) (c : Canvas) :
    Altered (pixelAt ri (chipFormatBpp format)) (chipFormatBpp format)
      (fun _ _ => penBytes (chipFormatBpp format) color) r.Contains c.mem
      (chipBlitPattern ri (solidPattern color) r format c).mem := by
  have hpattern := @blitPattern_altered ri r format width height h24 hsurface
    (fun q hq => hr.inside hq) (solidPattern color) _ rfl (Nat.zero_le 15) c
  refine hpattern.congr (fun _ => Iff.rfl) fun q _ => ?_
  funext old
  rw [solidPattern_bit]
  change penBytes _ color = drawn _ 0 color 0 true old
  rw [drawn, if_neg (by decide), if_neg (by decide), if_pos rfl]

theorem chipFillRect_parts (h24 : chipFormatBpp format ≠ 3)
    (hsurface : IsSurface ri (chipFormatBpp format) width height) (hr : r.Within width height)
    (color : UInt32) {parts : List Rect} (hparts : Partition r parts) (c : Canvas) :
    (parts.foldl (fun c p => chipFillRect ri p color format c) c).mem =
      (chipFillRect ri r color format c).mem := by
  have hinside : ∀ p ∈ parts, ∀ q, p.Contains q → q.1 < width ∧ q.2 < height := by
    intro p hp q hq
    exact hr.inside ((hparts.covers q).mpr ⟨p, hp, hq⟩)
  have hwhole := chipFillRect_altered h24 hsurface (fun q hq => hr.inside hq) color c
  have hrun := Altered.run Canvas.mem (s := c)
    (fun p hp c => chipFillRect_altered h24 hsurface (hinside p hp) color c)
    (hparts.disjoint.imp_of_mem fun hp hp' hdisjoint =>
      Rect.cells_apart hsurface (hinside _ hp) (hinside _ hp') hdisjoint)
  exact (hrun.congr hparts.covers fun _ _ => rfl).unique hwhole

end

/-! ## The result -/

/-- For every surface with pixels of 1, 2 or 4 bytes and every rectangle in it: filling changes no
byte outside the rectangle and makes every pixel of it the pen; it draws what a pattern without
holes draws; filling the parts of a rectangle is filling the rectangle; and whatever was filled
before inside the rectangle does not matter. -/
theorem fill_rect_paints (ri : RenderInfo) (format : RgbfType) (h24 : chipFormatBpp format ≠ 3)
    {width height : ℕ} (hsurface : IsSurface ri (chipFormatBpp format) width height) (r : Rect)
    (hr : r.Within width height) (color : UInt32) (c : Canvas) :
    BlitResult ri (chipFormatBpp format) (ulong r.x) (ulong r.y) r.w.toNat r.h.toNat
        (fun _ _ => penBytes (chipFormatBpp format) color) c.mem
        (chipFillRect ri r color format c).mem ∧
      (chipFillRect ri r color format c).mem =
        (chipBlitPattern ri (solidPattern color) r format c).mem ∧
      (∀ parts, Partition r parts →
        (parts.foldl (fun c p => chipFillRect ri p color format c) c).mem =
          (chipFillRect ri r color format c).mem) ∧
      ∀ r' color', (∀ q, r'.Contains q → r.Contains q) →
        (chipFillRect ri r color format (chipFillRect ri r' color' format c)).mem =
          (chipFillRect ri r color format c).mem := by
  have hinside : ∀ q, r.Contains q → q.1 < width ∧ q.2 < height := fun q hq => hr.inside hq
  have hwhole := chipFillRect_altered h24 hsurface hinside color c
  refine ⟨BlitResult.of_altered hwhole, ?_, fun parts hparts => ?_, fun r' color' hsub => ?_⟩
  · exact hwhole.unique (solidPattern_altered h24 hsurface hr color c)
  · exact chipFillRect_parts h24 hsurface hr color hparts c
  · have hearlier := chipFillRect_altered h24 hsurface (fun q hq => hinside q (hsub q hq)) color' c
    have hlater := chipFillRect_altered h24 hsurface hinside color
      (chipFillRect ri r' color' format c)
    exact (hearlier.absorb hlater hsub fun _ _ _ _ => rfl).unique hwhole

/-- Two rows of 16-bit pixels at once and one by one, over a pixel of another colour. -/
theorem fill_rect_paints_words :
    let ri : RenderInfo := ⟨0x1000, 16, .r5g6b5⟩
    let blank : Canvas := ⟨fun _ => 0, []⟩
    let before := chipFillRect ri ⟨3, 1, 1, 1⟩ 7 .r5g6b5 blank
    let whole := chipFillRect ri ⟨2, 0, 4, 2⟩ 0xF81F .r5g6b5 before
    pixel ri 2 whole.mem 3 1 = [0xF8, 0x1F] ∧
      ([⟨2, 1, 4, 1⟩, ⟨2, 0, 4, 1⟩].foldl (fun c p => chipFillRect ri p 0xF81F .r5g6b5 c)
        before).mem = whole.mem := by
  intro ri blank before whole
  have hsurface : IsSurface ri 2 8 2 := ⟨by decide, by decide, by decide⟩
  have hr : (⟨2, 0, 4, 2⟩ : Rect).Within 8 2 := ⟨by decide, by decide⟩
  obtain ⟨hresult, -, hparts, -⟩ :=
    fill_rect_paints ri .r5g6b5 (by decide) hsurface ⟨2, 0, 4, 2⟩ hr 0xF81F before
  refine ⟨?_, hparts _ ⟨fun q => ?_, ?_⟩⟩
  · exact (hresult.pixels 1 (by decide) 1 (by decide)).trans (by decide)
  · simp only [List.mem_cons, List.not_mem_nil, or_false, exists_eq_or_imp, exists_eq_left]
    change (2 ≤ q.1 ∧ q.1 < 6) ∧ 0 ≤ q.2 ∧ q.2 < 2 ↔
      ((2 ≤ q.1 ∧ q.1 < 6) ∧ 1 ≤ q.2 ∧ q.2 < 2) ∨ (2 ≤ q.1 ∧ q.1 < 6) ∧ 0 ≤ q.2 ∧ q.2 < 1
    omega
  · refine List.pairwise_pair.mpr fun q hq => ?_
    have hlow : 1 ≤ q.2 := hq.1.2.1
    have hhigh : q.2 < 1 := hq.2.2.2
    omega

end VirtIOGPU.Drawing
