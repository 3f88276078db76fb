import Mathlib.Tactic.Ring
import VirtIOGPU.Drawing.Rows

/-!
# `chip_BlitRect`

A copy inside one surface.  Whether source and destination overlap, and how, decides the order of
the rows and the way each of them is copied; whatever is chosen, the destination gets what the
source had before the call (`blitRect_snapshot`).
-/

namespace VirtIOGPU.Drawing

open Lib.Hoare Lib.Memory

/-- `chip_BlitRect`. -/
def chipBlitRect (exec : ExecIFace) (ri : RenderInfo) (x y dx dy w h : ℕ) : Blit PUnit :=
  if ri.memory = 0 ∨ w = 0 ∨ h = 0 then pure ⟨⟩
  else
    let bpp := chipFormatBpp ri.rgbFormat
    let stride := ri.bytesPerRow
    let src := ri.address bpp x y
    let dst := ri.address bpp dx dy
    let rowBytes := w * bpp
    if dy < y then
      chipCopyRect exec src stride dst stride rowBytes h
    else if dy > y then
      forDown h fun row => onMemory (moveRow (src + row * stride) (dst + row * stride) rowBytes)
    else
      forUp h fun row => onMemory (moveRow (src + row * stride) (dst + row * stride) rowBytes)

/-! ## What a blit should do -/

/-- `ri` designates a surface of `width` by `height` pixels in the address space. -/
structure IsSurface (ri : RenderInfo) (bpp width height : ℕ) : Prop where
  present : ri.memory ≠ 0
  stride : width * bpp ≤ ri.bytesPerRow
  fits : ri.memory + height * ri.bytesPerRow ≤ 2 ^ 32

/-- A rectangle inside `width` by `height` pixels. -/
structure InBounds (width height x y w h : ℕ) : Prop where
  right : x + w ≤ width
  bottom : y + h ≤ height

/-- The bytes of a pixel. -/
def pixel (ri : RenderInfo) (bpp : ℕ) (m : Mem UInt8) (x y : ℕ) : List UInt8 :=
  (List.range bpp).map fun k => m (ri.address bpp x y + k)

/-- `a` is the address of a byte of the pixel. -/
def InPixel (ri : RenderInfo) (bpp x y a : ℕ) : Prop :=
  ri.address bpp x y ≤ a ∧ a < ri.address bpp x y + bpp

/-- From `m` to `t` the pixels of a rectangle get these values, and no other byte changes. -/
structure BlitResult (ri : RenderInfo) (bpp dx dy w h : ℕ) (value : ℕ → ℕ → List UInt8)
    (m t : Mem UInt8) : Prop where
  pixels : ∀ row < h, ∀ col < w, pixel ri bpp t (dx + col) (dy + row) = value col row
  others : ∀ a, (∀ row < h, ∀ col < w, ¬ InPixel ri bpp (dx + col) (dy + row) a) → t a = m a

/-! ## Addresses -/

section Addresses

variable {ri : RenderInfo} {bpp x y w h : ℕ}

theorem address_row (row : ℕ) :
    ri.address bpp x y + row * ri.bytesPerRow = ri.address bpp x (y + row) := by
  unfold RenderInfo.address
  ring

theorem address_col (col row k : ℕ) :
    ri.address bpp (x + col) (y + row) + k =
      ri.address bpp x y + row * ri.bytesPerRow + (col * bpp + k) := by
  unfold RenderInfo.address
  ring

/-- A part of a row of the surface lies inside that row. -/
theorem IsSurface.row_le {width height : ℕ} (hsurface : IsSurface ri bpp width height)
    (hright : x + w ≤ width) : x * bpp + w * bpp ≤ ri.bytesPerRow := by
  calc x * bpp + w * bpp = (x + w) * bpp := (Nat.add_mul x w bpp).symm
    _ ≤ width * bpp := Nat.mul_le_mul_right bpp hright
    _ ≤ ri.bytesPerRow := hsurface.stride

/-- Parts of two rows of a surface. -/
theorem IsSurface.rows_disjoint {width height x' y' : ℕ}
    (hsurface : IsSurface ri bpp width height) (hx : x + w ≤ width) (hx' : x' + w ≤ width)
    (hne : y ≠ y') : Disjoint (ri.address bpp x y) (ri.address bpp x' y') (w * bpp) := by
  have hrow := hsurface.row_le hx
  have hrow' := hsurface.row_le hx'
  unfold RenderInfo.address Disjoint
  rcases Nat.lt_or_gt_of_ne hne with hlt | hgt
  · have hapart := rows_apart ri.memory hlt hrow
    omega
  · have hapart := rows_apart ri.memory hgt hrow'
    omega

/-- From bytes in rows to pixels. -/
theorem BlitResult.of_painted {f : ℕ → ℕ → UInt8} {value : ℕ → ℕ → List UInt8} {m t : Mem UInt8}
    (hbpp : 0 < bpp)
    (hpainted : Painted (ri.address bpp x y) ri.bytesPerRow (w * bpp) (· < h) f m t)
    (hvalue : ∀ row < h, ∀ col < w,
      value col row = (List.range bpp).map fun k => f row (col * bpp + k)) :
    BlitResult ri bpp x y w h value m t where
  pixels row hrow col hcol := by
    rw [hvalue row hrow col hcol, pixel]
    apply List.map_congr_left
    intro k hk
    have hk' := List.mem_range.mp hk
    have hlast : (col + 1) * bpp ≤ w * bpp := Nat.mul_le_mul_right bpp hcol
    rw [Nat.succ_mul] at hlast
    rw [address_col]
    exact hpainted.inside row hrow _ (by omega)
  others a ha := by
    apply hpainted.outside
    intro row hrow
    by_contra hinside
    -- the column of the pixel is found by division
    obtain ⟨i, hi, hai⟩ : ∃ i < w * bpp, a = ri.address bpp x y + row * ri.bytesPerRow + i :=
      ⟨a - (ri.address bpp x y + row * ri.bytesPerRow), by omega, by omega⟩
    have hcol : i / bpp < w := Nat.div_lt_of_lt_mul (by rwa [Nat.mul_comm])
    have hmod : i % bpp < bpp := Nat.mod_lt i hbpp
    have hsplit : i / bpp * bpp + i % bpp = i := Nat.div_add_mod' i bpp
    have haddr := @address_col ri bpp x y (i / bpp) row 0
    apply ha row hrow (i / bpp) hcol
    unfold InPixel
    omega

end Addresses

/-! ## The result -/

/-- For every surface, every two rectangles in it of the same size and whatever the memory holds:
each pixel of the destination becomes what the pixel of the source was, no other byte changes,
and exec.library is only asked to copy ranges that do not overlap. -/
theorem blitRect_snapshot (exec : ExecIFace) (ri : RenderInfo) {width height x y dx dy w h : ℕ}
    (hsurface : IsSurface ri (chipFormatBpp ri.rgbFormat) width height)
    (hsrc : InBounds width height x y w h) (hdst : InBounds width height dx dy w h)
    (m : Mem UInt8) :
    let bpp := chipFormatBpp ri.rgbFormat
    let after := (chipBlitRect exec ri x y dx dy w h ⟨m, []⟩).2
    BlitResult ri bpp dx dy w h (fun col row => pixel ri bpp m (x + col) (y + row)) m after.mem ∧
      AllDisjoint after.calls := by
  intro bpp after
  have hspec : Triple (fun b => b.mem = m ∧ AllDisjoint b.calls)
      (chipBlitRect exec ri x y dx dy w h)
      fun _ => RowsCopied (ri.address bpp x y) ri.bytesPerRow (ri.address bpp dx dy)
        ri.bytesPerRow (w * bpp) m (· < h) := by
    have hlen : w * bpp ≤ ri.bytesPerRow :=
      (Nat.le_add_left _ _).trans (hsurface.row_le hdst.right)
    -- two rows that are not the same row of the bitmap do not meet
    have hdisjoint {row r : ℕ} (hne : y + row ≠ dy + r) :
        Disjoint (ri.address bpp x y + row * ri.bytesPerRow)
          (ri.address bpp dx dy + r * ri.bytesPerRow) (w * bpp) := by
      rw [address_row, address_row]
      exact hsurface.rows_disjoint hsrc.right hdst.right hne
    apply Triple.ite
    · intro hnothing
      apply Triple.ret
      rintro b ⟨hmem, hcalls⟩
      apply RowsCopied.empty ?_ hmem hcalls
      rcases hnothing with hnull | rfl | rfl
      · exact absurd hnull hsurface.present
      · exact Or.inl (Nat.zero_mul bpp)
      · exact Or.inr rfl
    · intro _
      apply Triple.ite
      · -- three directions: a row is never written before it has been read
        intro hup
        apply chipCopyRect_spec exec hlen
        · exact fun row _ => hdisjoint (by omega)
        · exact fun row _ r hr => hdisjoint (by omega)
      · intro hnotUp
        apply Triple.ite
        · intro hdown
          apply moveRowsDown_spec hlen
          exact fun row _ r hr _ => hdisjoint (by omega)
        · intro hsame
          apply moveRowsUp_spec hlen
          exact fun row _ r hr => hdisjoint (by omega)
  obtain ⟨hpainted, hcalls⟩ := hspec ⟨m, []⟩ ⟨rfl, fun c hc => absurd hc List.not_mem_nil⟩
  refine ⟨BlitResult.of_painted (chipFormatBpp_pos _) hpainted ?_, hcalls⟩
  intro row _ col _
  apply List.map_congr_left
  intro k _
  exact congrArg m (address_col col row k)

/-- Copying as a whole is what both calls do on ranges that do not overlap. -/
def wholeCopy : ExecIFace where
  copyMem := copied
  copyMemQuick := copied
  copyMem_eq _ _ _ _ _ := rfl
  copyMemQuick_eq _ _ _ _ _ _ _ _ := rfl

/-- Three pixels of three bytes, moved by one pixel in their own row. -/
theorem blitRect_snapshot_overlapping :
    let ri : RenderInfo := ⟨0x10001, 12, .r8g8b8⟩
    let m : Mem UInt8 := fun a => UInt8.ofNat a
    let after := (chipBlitRect wholeCopy ri 0 0 1 0 3 1 ⟨m, []⟩).2
    pixel ri 3 after.mem 3 0 = [7, 8, 9] ∧ after.mem 0x10001 = 1 := by
  intro ri m after
  have hsurface : IsSurface ri 3 4 1 := ⟨by decide, by decide, by decide⟩
  have hsrc : InBounds 4 1 0 0 3 1 := ⟨by decide, by decide⟩
  have hdst : InBounds 4 1 1 0 3 1 := ⟨by decide, by decide⟩
  obtain ⟨hresult, -⟩ := blitRect_snapshot wholeCopy ri hsurface hsrc hdst m
  refine ⟨(hresult.pixels 0 (by decide) 2 (by decide)).trans (by decide), ?_⟩
  refine (hresult.others 0x10001 fun row _ col _ hin => ?_).trans (by decide)
  have haddr : ri.memory + (0 + row) * 12 + (1 + col) * 3 ≤ 0x10001 := hin.1
  change 0x10001 + (0 + row) * 12 + (1 + col) * 3 ≤ 0x10001 at haddr
  omega

end VirtIOGPU.Drawing
