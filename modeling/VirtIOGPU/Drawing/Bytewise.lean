import VirtIOGPU.Drawing.Xor

/-!
# Longs and bytes

The helpers of `chip_blit.c` take a row in longs where its address is a multiple of 4, and in bytes
otherwise.  Where the stride is not a multiple of 4 both happen within one rectangle.  `changeRect`
is the definition in bytes that all of them are compared with (`longs_eq_bytes`).
-/

namespace VirtIOGPU.Drawing

open Lib.Hoare Lib.Memory

/-! ## The definition in bytes -/

/-- Every byte of a row, one after the other, becomes `f i` of what it is. -/
def changeRow (d len : ℕ) (f : ℕ → UInt8 → UInt8) : Mem UInt8 → Mem UInt8 :=
  up len fun i m => storeByte (d + i) (f i (m (d + i))) m

def changeRect (dst stride len h : ℕ) (f : ℕ → ℕ → UInt8 → UInt8) : Mem UInt8 → Mem UInt8 :=
  up h fun row => changeRow (dst + row * stride) len (f row)

/-- `a` is the address of a byte of the rectangle. -/
def InRect (dst stride len h a : ℕ) : Prop := ∃ row < h, ∃ i < len, a = dst + row * stride + i

/-- No byte of the first rectangle is one of the second. -/
def RectsApart (src sStride dst dStride len h : ℕ) : Prop :=
  ∀ a, InRect src sStride len h a → ¬ InRect dst dStride len h a

/-! ## Rows -/

variable {src sStride dst dStride d s len h : ℕ} {f : ℕ → UInt8 → UInt8} {m : Mem UInt8}

theorem changeRow_eq : changeRow d len f m = overwrite d len (fun i => f i (m (d + i))) m := by
  apply up_induction (P := fun k t => t = overwrite d k (fun i => f i (m (d + i))) m)
  · exact overwrite_zero.symm
  · rintro k - t rfl
    have hread : overwrite d k (fun i => f i (m (d + i))) m (d + k) = m (d + k) :=
      overwrite_outside (Or.inr le_rfl)
    rw [storeByte, hread, ← overwrite_append]
    apply overwrite_congr
    intro i hi
    rw [Nat.lt_one_iff.mp hi, Nat.add_zero]

theorem changeRow_outside {a : ℕ} (ha : a < d ∨ d + len ≤ a) : changeRow d len f m a = m a := by
  rw [changeRow_eq, overwrite_outside ha]

theorem mapped_eq (op : UInt8 → UInt8) : mapped op d len m = changeRow d len (fun _ => op) m :=
  changeRow_eq.symm

/-- The source of a row is apart from it, so that it is what it was. -/
theorem xorRow_eq (hapart : ∀ i < len, s + i < d ∨ d + len ≤ s + i) :
    xorRow s d len m = changeRow d len (fun i v => v ^^^ m (s + i)) m := by
  have hspec := xorRow_spec s d len m
  rw [changeRow_eq]
  funext a
  by_cases ha : d ≤ a ∧ a < d + len
  · obtain ⟨i, rfl⟩ : ∃ i, a = d + i := ⟨a - d, by omega⟩
    have hi : i < len := by omega
    rw [overwrite_inside hi, hspec.inside i hi, hspec.outside (s + i) (hapart i hi), ite_self]
  · have hout : a < d ∨ d + len ≤ a := by omega
    rw [overwrite_outside hout, hspec.outside a hout]

/-! ## Rectangles -/

theorem forUp_onMemory (f : ℕ → Mem UInt8 → Mem UInt8) :
    forUp h (fun row => onMemory (f row)) = onMemory (up h f) := by
  funext b
  induction h with
  | zero => rfl
  | succ h ih =>
      change onMemory (f h) (forUp h (fun row => onMemory (f row)) b).2 = _
      rw [ih]
      exact Prod.ext rfl (congrArg (Blitter.mk · b.calls) (up_succ b.mem).symm)

variable {g : ℕ → ℕ → UInt8 → UInt8}

theorem changeRect_succ :
    changeRect dst dStride len (h + 1) g m =
      changeRow (dst + h * dStride) len (g h) (changeRect dst dStride len h g m) :=
  up_succ m

theorem changeRect_outside {a : ℕ} (ha : ¬ InRect dst dStride len h a) :
    changeRect dst dStride len h g m a = m a := by
  unfold changeRect
  refine up_induction (P := fun _ (t : Mem UInt8) => t a = m a) rfl fun row hrow t ht => ?_
  rw [changeRow_outside, ht]
  by_contra hinside
  exact ha ⟨row, hrow, a - (dst + row * dStride), by omega, by omega⟩

theorem inRect_mono {k a : ℕ} (hk : k ≤ h) (ha : InRect dst dStride len k a) :
    InRect dst dStride len h a := by
  obtain ⟨row, hrow, hbyte⟩ := ha
  exact ⟨row, hrow.trans_le hk, hbyte⟩

theorem chipFillRectBytes_eq (val : UInt8) :
    chipFillRectBytes dst dStride len h val =
      onMemory (changeRect dst dStride len h fun _ _ _ => val) := by
  unfold chipFillRectBytes
  by_cases hempty : len = 0 ∨ h = 0
  · -- the source returns before its loop, which would do nothing
    rw [if_pos hempty]
    funext b
    refine Prod.ext rfl (congrArg (Blitter.mk · b.calls) (funext fun a => ?_))
    refine (changeRect_outside ?_).symm
    rintro ⟨row, hrow, i, hi, -⟩
    omega
  · rw [if_neg hempty, forUp_onMemory]
    refine congrArg (fun row => onMemory (up h row)) ?_
    funext row m
    exact (chipLfill_eq fun k hk => byteOf_broadcast val hk).trans (mapped_eq fun _ => val)

theorem chipXorRectWithConst_eq :
    chipXorRectWithConst dst dStride len h =
      onMemory (changeRect dst dStride len h fun _ _ v => v ^^^ 0xFF) := by
  unfold chipXorRectWithConst
  rw [forUp_onMemory]
  refine congrArg (fun row => onMemory (up h row)) ?_
  funext row m
  exact (invertRow_eq _ m).trans (mapped_eq fun v => v ^^^ 0xFF)

theorem chipXorRectWithSrc_eq (hapart : RectsApart src sStride dst dStride len h) (b : Blitter) :
    chipXorRectWithSrc src sStride dst dStride len h b =
      onMemory (changeRect dst dStride len h
        fun row i v => v ^^^ b.mem (src + row * sStride + i)) b := by
  have hrows : ∀ k ≤ h,
      up k (fun row => xorRow (src + row * sStride) (dst + row * dStride) len) b.mem =
        changeRect dst dStride len k
          (fun row i v => v ^^^ b.mem (src + row * sStride + i)) b.mem := by
    intro k hk
    induction k with
    | zero => rfl
    | succ k ih =>
        have hbefore := ih (Nat.le_of_succ_le hk)
        have hinside : ∀ i < len, InRect src sStride len h (src + k * sStride + i) :=
          fun i hi => ⟨k, hk, i, hi, rfl⟩
        rw [up_succ, hbefore, xorRow_eq, changeRect_succ]
        · -- the rows that have been written left the source as it was
          rw [changeRow_eq, changeRow_eq]
          apply overwrite_congr
          intro i hi
          rw [changeRect_outside fun hin => hapart _ (hinside i hi) (inRect_mono (by omega) hin)]
        · intro i hi
          by_contra hoverlap
          refine hapart _ (hinside i hi) ⟨k, hk, src + k * sStride + i - (dst + k * dStride), ?_⟩
          omega
  unfold chipXorRectWithSrc
  rw [forUp_onMemory]
  exact Prod.ext rfl (congrArg (Blitter.mk · b.calls) (hrows h le_rfl))

/-! ## Inverting twice -/

/-- The change combines every byte with one that does not depend on the memory. -/
def Masks (change : Mem UInt8 → Mem UInt8) : Prop :=
  ∃ mask : ℕ → UInt8, ∀ m a, change m a = m a ^^^ mask a

theorem Masks.up {n : ℕ} {change : ℕ → Mem UInt8 → Mem UInt8} (hchange : ∀ i, Masks (change i)) :
    Masks (up n change) := by
  induction n with
  | zero => exact ⟨fun _ => 0, fun m a => UInt8.xor_zero.symm⟩
  | succ n ih =>
      obtain ⟨mask, hmask⟩ := ih
      obtain ⟨last, hlast⟩ := hchange n
      refine ⟨fun a => mask a ^^^ last a, fun m a => ?_⟩
      rw [up_succ, hlast, hmask, UInt8.xor_assoc]

theorem Masks.storeByte (a : ℕ) (v : UInt8) : Masks fun m => storeByte a (m a ^^^ v) m := by
  refine ⟨fun b => if b = a then v else 0, fun m b => ?_⟩
  by_cases hb : b = a
  · subst hb
    simp only [if_true]
    exact overwrite_inside Nat.zero_lt_one
  · simp only [if_neg hb, UInt8.xor_zero]
    exact overwrite_outside (by omega)

theorem Masks.twice {change : Mem UInt8 → Mem UInt8} (hchange : Masks change) (m : Mem UInt8) :
    change (change m) = m := by
  obtain ⟨mask, hmask⟩ := hchange
  funext a
  rw [hmask, hmask, UInt8.xor_assoc, UInt8.xor_self, UInt8.xor_zero]

theorem invertRect_masks : Masks (changeRect dst dStride len h fun _ _ v => v ^^^ 0xFF) :=
  Masks.up fun row => Masks.up fun i => Masks.storeByte (dst + row * dStride + i) 0xFF

/-- `base` in the callbacks: a pointer of 32 bits, whose coordinates may be negative. -/
def RenderInfo.base (ri : RenderInfo) (bpp : ℕ) (x y : Int16) : ℕ :=
  ((ri.memory + y.toInt * ri.bytesPerRow + x.toInt * bpp) % 2 ^ 32).toNat

/-- `chip_InvertRect`; `chip_flush` only wakes the flush task. -/
def chipInvertRect (ri : RenderInfo) (x y : Int16) (w h : UInt16) (format : RgbfType) :
    Blit PUnit :=
  if ri.memory = 0 ∨ w = 0 ∨ h = 0 then pure ⟨⟩
  else
    let bpp := chipFormatBpp format
    chipXorRectWithConst (ri.base bpp x y) ri.bytesPerRow (w.toNat * bpp) h.toNat

theorem chipInvertRect_twice (ri : RenderInfo) (x y : Int16) (w h : UInt16) (format : RgbfType)
    (b : Blitter) :
    (chipInvertRect ri x y w h format (chipInvertRect ri x y w h format b).2).2 = b := by
  unfold chipInvertRect
  by_cases hnothing : ri.memory = 0 ∨ w = 0 ∨ h = 0
  · simp only [if_pos hnothing]
    rfl
  · -- bytes that lie in several rows get the mask of each row, twice
    simp only [if_neg hnothing, chipXorRectWithConst_eq]
    exact congrArg (Blitter.mk · b.calls) (invertRect_masks.twice b.mem)

/-! ## The helpers -/

/-- For every base, stride, row length and height: fill, complement and exclusive-or leave what
their definitions in bytes leave, and those change nothing outside the rectangle; a row that is
moved in longs, in the direction that `d < s` gives, gets what the source had; inverting twice
restores the surface. -/
theorem longs_eq_bytes (dst dStride len h : ℕ) (b : Blitter) :
    (∀ val, chipFillRectBytes dst dStride len h val b =
      onMemory (changeRect dst dStride len h fun _ _ _ => val) b) ∧
    chipXorRectWithConst dst dStride len h b =
      onMemory (changeRect dst dStride len h fun _ _ v => v ^^^ 0xFF) b ∧
    (∀ src sStride, RectsApart src sStride dst dStride len h →
      chipXorRectWithSrc src sStride dst dStride len h b =
        onMemory (changeRect dst dStride len h
          fun row i v => v ^^^ b.mem (src + row * sStride + i)) b) ∧
    (∀ f a, ¬ InRect dst dStride len h a → changeRect dst dStride len h f b.mem a = b.mem a) ∧
    (∀ src longs, 4 ∣ src → 4 ∣ dst →
      chipLmemmove src dst longs (decide (dst < src)) b.mem = copied src dst (4 * longs) b.mem) ∧
    ∀ ri x y w h format,
      (chipInvertRect ri x y w h format (chipInvertRect ri x y w h format b).2).2 = b := by
  -- the inversion is an equality of programs already
  refine ⟨?_, congrFun chipXorRectWithConst_eq b, ?_, ?_, ?_, ?_⟩
  · exact fun val => congrFun (chipFillRectBytes_eq val) b
  · exact fun src sStride hapart => chipXorRectWithSrc_eq hapart b
  · exact fun f a ha => changeRect_outside ha
  · exact fun src longs _ _ => chipLmemmove_eq
  · exact fun ri x y w h format => chipInvertRect_twice ri x y w h format b

/-- Three rows of five bytes whose addresses have three different remainders, and a row that is
moved by one long. -/
theorem longs_eq_bytes_odd : RectsApart 0x2000 6 0x1001 5 5 3 ∧
    (chipXorRectWithSrc 0x2000 6 0x1001 5 5 3 ⟨fun a => UInt8.ofNat a, []⟩).2.mem =
      changeRect 0x1001 5 5 3 (fun row i v => v ^^^ UInt8.ofNat (0x2000 + row * 6 + i))
        (fun a => UInt8.ofNat a) ∧
    chipLmemmove 0x1000 0x1004 2 false (fun a => UInt8.ofNat a) =
      copied 0x1000 0x1004 8 fun a => UInt8.ofNat a := by
  have hapart : RectsApart 0x2000 6 0x1001 5 5 3 := by
    rintro a ⟨row, hrow, i, hi, rfl⟩ ⟨row', hrow', i', hi', heq⟩
    omega
  refine ⟨hapart, ?_, ?_⟩
  · obtain ⟨-, -, hxor, -⟩ := longs_eq_bytes 0x1001 5 5 3 ⟨fun a => UInt8.ofNat a, []⟩
    rw [hxor 0x2000 6 hapart]
    rfl
  · obtain ⟨-, -, -, -, hmove, -⟩ := longs_eq_bytes 0x1004 5 5 3 ⟨fun a => UInt8.ofNat a, []⟩
    exact hmove 0x1000 2 (by decide) (by decide)

end VirtIOGPU.Drawing
