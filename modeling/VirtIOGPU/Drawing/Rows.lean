import VirtIOGPU.Lib.Hoare
import VirtIOGPU.Lib.LongWord

/-!
# Drawing into board memory

The helpers of `chip_blit.c` that work on rows of bytes: `chip_lmemmove`, `chip_row_copy`,
`chip_copy_rect`, `chip_lfill` and the two XOR loops.

Memory is flat and has a byte at every address.  `CopyMem` and `CopyMemQuick` belong to
exec.library; they are given with what they do when their ranges do not overlap, and every call
is noted.  Coordinates are those of rectangles inside a surface, so they are natural numbers, and
addresses inside a surface do not wrap.

## Strategy

```text
helper                  goes                        specification
chip_lmemmove, bytes    either way in a row         the row before (`moveRow_eq`)
chip_row_copy           through exec.library        the row before, if the ranges are apart
chip_copy_rect          row by row, upwards         `RowsCopied`, for the rows so far
chip_lfill, XOR loops   longs first, then bytes     one function of each byte
```

`RowsCopied` is the invariant of the loops over rows.  A step needs that no row that has been
written holds the source of the next one, which is where the direction of the loop comes in.

A long and its four bytes are the same thing for a function that treats every byte alike; this is
proved once, for `longsThenBytes`, and both ways through a row are cases of it.
-/

namespace VirtIOGPU.Drawing

open Lib.Hoare Lib.Memory

/-! ## Surfaces -/

/-- `RGBFTYPE`, as far as `chip_format_bpp` tells the formats apart. -/
inductive RgbfType where
  | clut
  | r8g8b8
  | b8g8r8
  | r5g6b5pc
  | r5g5b5pc
  | r5g6b5
  | r5g5b5
  | b5g6r5pc
  | b5g5r5pc
  | a8r8g8b8
  | a8b8g8r8
  | r8g8b8a8
  | b8g8r8a8
  | other (code : UInt32)
  deriving DecidableEq, Repr

def chipFormatBpp : RgbfType → ℕ
  | .clut => 1
  | .r8g8b8 | .b8g8r8 => 3
  | .r5g6b5pc | .r5g5b5pc | .r5g6b5 | .r5g5b5 | .b5g6r5pc | .b5g5r5pc => 2
  | _ => 4

theorem chipFormatBpp_pos (format : RgbfType) : 0 < chipFormatBpp format := by
  cases format <;> simp [chipFormatBpp]

/-- `struct RenderInfoChip`. -/
structure RenderInfo where
  memory : ℕ
  bytesPerRow : ℕ
  rgbFormat : RgbfType

/-- The address of a pixel. -/
def RenderInfo.address (ri : RenderInfo) (bpp x y : ℕ) : ℕ :=
  ri.memory + y * ri.bytesPerRow + x * bpp

/-! ## exec.library -/

/-- Two ranges of `len` bytes that do not overlap. -/
def Disjoint (src dst len : ℕ) : Prop := src + len ≤ dst ∨ dst + len ≤ src

instance (src dst len : ℕ) : Decidable (Disjoint src dst len) := inferInstanceAs (Decidable (_ ∨ _))

/-- `CopyMem` and `CopyMemQuick`, with what they do when the ranges do not overlap; the second
one needs addresses and a length that are multiples of 4. -/
structure ExecIFace where
  copyMem (src dst len : ℕ) : Mem UInt8 → Mem UInt8
  copyMemQuick (src dst len : ℕ) : Mem UInt8 → Mem UInt8
  copyMem_eq : ∀ src dst len m, Disjoint src dst len → copyMem src dst len m = copied src dst len m
  copyMemQuick_eq : ∀ src dst len m, 4 ∣ src → 4 ∣ dst → 4 ∣ len → Disjoint src dst len →
    copyMemQuick src dst len m = copied src dst len m

/-- A call of `CopyMem` or `CopyMemQuick`. -/
structure CopyCall where
  src : ℕ
  dst : ℕ
  len : ℕ
  deriving DecidableEq, Repr

/-- Memory, and the calls that have been made. -/
structure Blitter where
  mem : Mem UInt8
  calls : List CopyCall

abbrev Blit := StateM Blitter

/-- Every call had ranges that do not overlap. -/
def AllDisjoint (calls : List CopyCall) : Prop := ∀ c ∈ calls, Disjoint c.src c.dst c.len

def onMemory (f : Mem UInt8 → Mem UInt8) : Blit PUnit := modify fun b => { b with mem := f b.mem }

def callCopy (f : ℕ → ℕ → ℕ → Mem UInt8 → Mem UInt8) (src dst len : ℕ) : Blit PUnit :=
  modify fun b => { mem := f src dst len b.mem, calls := b.calls ++ [⟨src, dst, len⟩] }

/-! ## The helpers -/

/-- `((ULONG)s | (ULONG)d | len) & 3UL` is 0. -/
def LongAligned (s d len : ℕ) : Prop := (s ||| d ||| len) &&& 3 = 0

instance (s d len : ℕ) : Decidable (LongAligned s d len) := inferInstanceAs (Decidable (_ = _))

/-- `chip_lmemmove`. -/
def chipLmemmove (src dst longs : ℕ) (isForward : Bool) (m : Mem UInt8) : Mem UInt8 :=
  let move := fun i (m : Mem UInt8) => storeLong (dst + 4 * i) (loadLong m (src + 4 * i)) m
  if isForward then up longs move m else down longs move m

/-- The loops over single bytes. -/
def moveBytes (src dst len : ℕ) (isForward : Bool) (m : Mem UInt8) : Mem UInt8 :=
  let move := fun b (m : Mem UInt8) => storeByte (dst + b) (m (src + b)) m
  if isForward then up len move m else down len move m

/-- One row where source and destination may overlap, in either way. -/
def moveRow (s d rowBytes : ℕ) (m : Mem UInt8) : Mem UInt8 :=
  if LongAligned s d rowBytes then chipLmemmove s d (rowBytes >>> 2) (decide (d < s)) m
  else moveBytes s d rowBytes (decide (d < s)) m

/-- `chip_row_copy`. -/
def chipRowCopy (exec : ExecIFace) (src dst len : ℕ) : Blit PUnit :=
  if LongAligned src dst len then callCopy exec.copyMemQuick src dst len
  else callCopy exec.copyMem src dst len

/-- `chip_copy_rect`. -/
def chipCopyRect (exec : ExecIFace) (src sStride dst dStride rowBytes h : ℕ) : Blit PUnit :=
  if rowBytes = 0 ∨ h = 0 then pure ⟨⟩
  else forUp h fun row => chipRowCopy exec (src + row * sStride) (dst + row * dStride) rowBytes

/-- A loop over longs as far as `dst` is aligned, and over the bytes that are left. -/
def longsThenBytes (aligned : Prop) [Decidable aligned] (rowBytes : ℕ)
    (onLong onByte : ℕ → Mem UInt8 → Mem UInt8) (m : Mem UInt8) : Mem UInt8 :=
  let longs := if aligned then rowBytes >>> 2 else 0
  let i := longs <<< 2
  up (rowBytes - i) (fun k => onByte (i + k)) (up longs onLong m)

/-- `chip_lfill`. -/
def chipLfill (dst rowBytes : ℕ) (pattern : UInt32) : Mem UInt8 → Mem UInt8 :=
  longsThenBytes (dst &&& 3 = 0) rowBytes
    (fun j => storeLong (dst + 4 * j) pattern)
    (fun i => storeByte (dst + i) pattern.toUInt8)

/-- `chip_fill_rect_bytes`. -/
def chipFillRectBytes (dst dStride rowBytes h : ℕ) (val : UInt8) : Blit PUnit :=
  let v := val.toUInt32
  let pat := (v <<< 24) ||| (v <<< 16) ||| (v <<< 8) ||| v
  if rowBytes = 0 ∨ h = 0 then pure ⟨⟩
  else forUp h fun row => onMemory (chipLfill (dst + row * dStride) rowBytes pat)

/-- `dl[j] ^= sl[j]`. -/
def xorLong (s d j : ℕ) (m : Mem UInt8) : Mem UInt8 :=
  storeLong (d + 4 * j) (loadLong m (d + 4 * j) ^^^ loadLong m (s + 4 * j)) m

/-- `d[i] ^= s[i]`. -/
def xorByte (s d i : ℕ) (m : Mem UInt8) : Mem UInt8 := storeByte (d + i) (m (d + i) ^^^ m (s + i)) m

/-- A row of `chip_xor_rect_with_src`. -/
def xorRow (s d rowBytes : ℕ) : Mem UInt8 → Mem UInt8 :=
  longsThenBytes ((s ||| d) &&& 3 = 0) rowBytes (xorLong s d) (xorByte s d)

/-- `chip_xor_rect_with_src`. -/
def chipXorRectWithSrc (src sStride dst dStride rowBytes h : ℕ) : Blit PUnit :=
  forUp h fun row => onMemory (xorRow (src + row * sStride) (dst + row * dStride) rowBytes)

/-- `chip_xor_rect_with_const`. -/
def chipXorRectWithConst (dst dStride rowBytes h : ℕ) : Blit PUnit :=
  forUp h fun row =>
    let d := dst + row * dStride
    onMemory (longsThenBytes (d &&& 3 = 0) rowBytes
      (fun j m => storeLong (d + 4 * j) (loadLong m (d + 4 * j) ^^^ 0xFFFFFFFF) m)
      (fun i m => storeByte (d + i) (m (d + i) ^^^ 0xFF) m))

/-! ## Alignment -/

theorem and_three (x : ℕ) : x &&& 3 = x % 4 := Nat.and_two_pow_sub_one_eq_mod x 2

theorem or_and_three {x y : ℕ} : (x ||| y) &&& 3 = 0 ↔ x &&& 3 = 0 ∧ y &&& 3 = 0 := by
  rw [Nat.and_or_distrib_right, Nat.or_eq_zero_iff]

theorem and_three_eq_zero {x : ℕ} : x &&& 3 = 0 ↔ 4 ∣ x := by
  rw [and_three, Nat.dvd_iff_mod_eq_zero]

theorem longAligned_iff {s d len : ℕ} : LongAligned s d len ↔ 4 ∣ s ∧ 4 ∣ d ∧ 4 ∣ len := by
  rw [LongAligned, or_and_three, or_and_three, and_three_eq_zero, and_three_eq_zero,
    and_three_eq_zero, and_assoc]

theorem four_mul_shiftRight (n : ℕ) : 4 * (n >>> 2) = n / 4 * 4 := by
  rw [Nat.shiftRight_eq_div_pow, Nat.mul_comm]

/-! ## A row that may overlap itself -/

variable {m : Mem UInt8}

theorem chipLmemmove_eq {src dst longs : ℕ} :
    chipLmemmove src dst longs (decide (dst < src)) m = copied src dst (4 * longs) m := by
  have hpiece : (fun i (m : Mem UInt8) => storeLong (dst + 4 * i) (loadLong m (src + 4 * i)) m) =
      copyPiece 4 src dst := by
    funext i m
    exact storeLong_loadLong _ _ m
  unfold chipLmemmove
  rw [hpiece]
  by_cases hlt : dst < src
  · rw [if_pos (decide_eq_true hlt)]
    exact copyUp_eq (Or.inl hlt.le)
  · rw [if_neg (by simpa using hlt)]
    exact copyDown_eq (Or.inl (Nat.le_of_not_lt hlt))

theorem moveBytes_eq {src dst len : ℕ} :
    moveBytes src dst len (decide (dst < src)) m = copied src dst len m := by
  have hpiece : (fun b (m : Mem UInt8) => storeByte (dst + b) (m (src + b)) m) =
      copyPiece 1 src dst := by
    funext b m
    unfold storeByte copyPiece
    rw [Nat.one_mul]
    apply overwrite_congr
    intro k hk
    rw [Nat.lt_one_iff.mp hk, Nat.add_zero]
  unfold moveBytes
  rw [hpiece, ← Nat.one_mul len]
  by_cases hlt : dst < src
  · rw [if_pos (decide_eq_true hlt), Nat.one_mul]
    exact (copyUp_eq (Or.inl hlt.le)).trans (by rw [Nat.one_mul])
  · rw [if_neg (by simpa using hlt), Nat.one_mul]
    exact (copyDown_eq (Or.inl (Nat.le_of_not_lt hlt))).trans (by rw [Nat.one_mul])

/-- Whatever overlaps, the destination gets what the source had. -/
theorem moveRow_eq (s d rowBytes : ℕ) : moveRow s d rowBytes m = copied s d rowBytes m := by
  unfold moveRow
  by_cases haligned : LongAligned s d rowBytes
  · have hlen : 4 * (rowBytes >>> 2) = rowBytes := by
      rw [four_mul_shiftRight]
      exact Nat.div_mul_cancel (longAligned_iff.mp haligned).2.2
    rw [if_pos haligned, chipLmemmove_eq, hlen]
  · rw [if_neg haligned, moveBytes_eq]

/-! ## Rows that are copied by exec.library -/

theorem AllDisjoint.concat {calls : List CopyCall} (h : AllDisjoint calls) {src dst len : ℕ}
    (hdisjoint : Disjoint src dst len) : AllDisjoint (calls ++ [⟨src, dst, len⟩]) := by
  intro c hc
  rcases List.mem_append.mp hc with hold | hnew
  · exact h c hold
  · obtain rfl := List.mem_singleton.mp hnew
    exact hdisjoint

theorem chipRowCopy_spec (exec : ExecIFace) {src dst len : ℕ}
    (hdisjoint : Disjoint src dst len) :
    Triple (fun b => b.mem = m ∧ AllDisjoint b.calls) (chipRowCopy exec src dst len)
      fun _ b => b.mem = copied src dst len m ∧ AllDisjoint b.calls := by
  apply Triple.ite
  · intro haligned
    obtain ⟨hsrc, hdst, hlen⟩ := longAligned_iff.mp haligned
    apply Triple.update
    rintro b ⟨rfl, hcalls⟩
    exact ⟨exec.copyMemQuick_eq src dst len b.mem hsrc hdst hlen hdisjoint,
      hcalls.concat hdisjoint⟩
  · intro _
    apply Triple.update
    rintro b ⟨rfl, hcalls⟩
    exact ⟨exec.copyMem_eq src dst len b.mem hdisjoint, hcalls.concat hdisjoint⟩

/-! ## Rectangles -/

variable {src dst sStride dStride rowBytes h : ℕ}

/-- The rows of the destination that have been written hold what the source had. -/
def RowsCopied (src sStride dst dStride rowBytes : ℕ) (m : Mem UInt8) (rows : ℕ → Prop)
    (b : Blitter) : Prop :=
  Painted dst dStride rowBytes rows (fun row i => m (src + row * sStride + i)) m b.mem ∧
    AllDisjoint b.calls

/-- One more row, whose source is apart from the rows that have been written. -/
theorem RowsCopied.step {rows rows' : ℕ → Prop} {b b' : Blitter} {row : ℕ}
    (hb : RowsCopied src sStride dst dStride rowBytes m rows b) (hlen : rowBytes ≤ dStride)
    (hrows : ∀ r, rows' r ↔ rows r ∨ r = row)
    (hapart : ∀ r, rows r → Disjoint (src + row * sStride) (dst + r * dStride) rowBytes)
    (hmem : b'.mem = copied (src + row * sStride) (dst + row * dStride) rowBytes b.mem)
    (hcalls : AllDisjoint b'.calls) :
    RowsCopied src sStride dst dStride rowBytes m rows' b' := by
  have hread : ∀ i < rowBytes, b.mem (src + row * sStride + i) = m (src + row * sStride + i) := by
    intro i hi
    apply hb.1.outside
    intro r hr
    rcases hapart r hr with hbefore | hafter
    · exact Or.inl (by omega)
    · exact Or.inr (by omega)
  refine ⟨?_, hcalls⟩
  rw [hmem, copied, overwrite_congr hread]
  exact hb.1.step hlen hrows

theorem RowsCopied.start {rows : ℕ → Prop} {b : Blitter} (hmem : b.mem = m)
    (hcalls : AllDisjoint b.calls) (hnone : ∀ r, ¬ rows r) :
    RowsCopied src sStride dst dStride rowBytes m rows b := by
  refine ⟨?_, hcalls⟩
  rw [hmem]
  exact Painted.of_none hnone

/-- A rectangle without bytes. -/
theorem RowsCopied.empty {b : Blitter} (hempty : rowBytes = 0 ∨ h = 0) (hmem : b.mem = m)
    (hcalls : AllDisjoint b.calls) :
    RowsCopied src sStride dst dStride rowBytes m (· < h) b := by
  refine ⟨⟨fun row hrow i hi => ?_, fun a _ => congrFun hmem a⟩, hcalls⟩
  omega

/-- Copying rows from the first to the last. -/
theorem chipCopyRect_spec (exec : ExecIFace) (hlen : rowBytes ≤ dStride)
    (hrow : ∀ row < h, Disjoint (src + row * sStride) (dst + row * dStride) rowBytes)
    (hapart : ∀ row < h, ∀ r < row, Disjoint (src + row * sStride) (dst + r * dStride) rowBytes) :
    Triple (fun b => b.mem = m ∧ AllDisjoint b.calls)
      (chipCopyRect exec src sStride dst dStride rowBytes h)
      fun _ => RowsCopied src sStride dst dStride rowBytes m (· < h) := by
  apply Triple.ite
  · intro hempty
    apply Triple.ret
    rintro b ⟨hmem, hcalls⟩
    exact RowsCopied.empty hempty hmem hcalls
  · intro _ b₀ h₀
    have hstart : RowsCopied src sStride dst dStride rowBytes m (· < 0) b₀ :=
      RowsCopied.start h₀.1 h₀.2 fun r => Nat.not_lt_zero r
    apply Triple.forUp (I := fun k => RowsCopied src sStride dst dStride rowBytes m (· < k))
      (fun row hlt b hb => ?_) b₀ hstart
    obtain ⟨hmem, hcalls⟩ := chipRowCopy_spec exec (hrow row hlt) b ⟨rfl, hb.2⟩
    exact hb.step hlen (fun r => Nat.lt_succ_iff_lt_or_eq) (hapart row hlt) hmem hcalls

/-- Rows that are moved one by one, from the first to the last. -/
theorem moveRowsUp_spec (hlen : rowBytes ≤ dStride)
    (hapart : ∀ row < h, ∀ r < row, Disjoint (src + row * sStride) (dst + r * dStride) rowBytes) :
    Triple (fun b => b.mem = m ∧ AllDisjoint b.calls)
      (forUp h fun row =>
        onMemory (moveRow (src + row * sStride) (dst + row * dStride) rowBytes))
      fun _ => RowsCopied src sStride dst dStride rowBytes m (· < h) := by
  intro b₀ h₀
  have hstart : RowsCopied src sStride dst dStride rowBytes m (· < 0) b₀ :=
    RowsCopied.start h₀.1 h₀.2 fun r => Nat.not_lt_zero r
  apply Triple.forUp (I := fun k => RowsCopied src sStride dst dStride rowBytes m (· < k))
    (fun row hlt b hb => ?_) b₀ hstart
  exact hb.step hlen (fun r => Nat.lt_succ_iff_lt_or_eq) (hapart row hlt) (moveRow_eq _ _ _) hb.2

/-- From the last to the first. -/
theorem moveRowsDown_spec (hlen : rowBytes ≤ dStride)
    (hapart : ∀ row < h, ∀ r, row < r → r < h →
      Disjoint (src + row * sStride) (dst + r * dStride) rowBytes) :
    Triple (fun b => b.mem = m ∧ AllDisjoint b.calls)
      (forDown h fun row =>
        onMemory (moveRow (src + row * sStride) (dst + row * dStride) rowBytes))
      fun _ => RowsCopied src sStride dst dStride rowBytes m (· < h) := by
  intro b₀ h₀
  have hstart : RowsCopied src sStride dst dStride rowBytes m (fun r => h ≤ r ∧ r < h) b₀ :=
    RowsCopied.start h₀.1 h₀.2 fun r hr => by omega
  have hall := Triple.forDown
    (f := fun row => onMemory (moveRow (src + row * sStride) (dst + row * dStride) rowBytes))
    (I := fun k => RowsCopied src sStride dst dStride rowBytes m fun r => k ≤ r ∧ r < h)
    (fun row hlt b hb => hb.step hlen (fun r => by omega)
      (fun r hr => hapart row hlt r (by omega) hr.2) (moveRow_eq _ _ _) hb.2) b₀ hstart
  simpa only [Nat.zero_le, true_and] using hall

/-! ## Filling and inverting -/

/-- What every long and every byte carries on holds of the whole row. -/
theorem longsThenBytes_induction {aligned : Prop} [Decidable aligned]
    {onLong onByte : ℕ → Mem UInt8 → Mem UInt8} {P : ℕ → Mem UInt8 → Prop} (hstart : P 0 m)
    (hlong : aligned → ∀ j t, P (4 * j) t → P (4 * j + 4) (onLong j t))
    (hbyte : ∀ i t, P i t → P (i + 1) (onByte i t)) :
    P rowBytes (longsThenBytes aligned rowBytes onLong onByte m) := by
  obtain ⟨longs, hlongs⟩ : ∃ longs, (if aligned then rowBytes >>> 2 else 0) = longs := ⟨_, rfl⟩
  have hfits : 4 * longs ≤ rowBytes := by
    rw [← hlongs]
    split
    · rw [four_mul_shiftRight]
      exact Nat.div_mul_le_self rowBytes 4
    · omega
  have hshift : longs <<< 2 = 4 * longs := by
    rw [Nat.shiftLeft_eq]
    omega
  have hfirst : P (4 * longs) (up longs onLong m) := by
    apply up_induction (P := fun j t => P (4 * j) t) hstart
    intro j hj t ht
    -- without the alignment there is no long to take
    have haligned : aligned := by
      by_contra hnot
      rw [if_neg hnot] at hlongs
      omega
    exact hlong haligned j t ht
  have hrest : P (4 * longs + (rowBytes - 4 * longs))
      (up (rowBytes - 4 * longs) (fun k => onByte (4 * longs + k)) (up longs onLong m)) :=
    up_induction (P := fun k t => P (4 * longs + k) t) hfirst fun k hk t ht =>
      hbyte (4 * longs + k) t ht
  rw [Nat.add_sub_cancel' hfits] at hrest
  rw [longsThenBytes, hlongs, hshift]
  exact hrest

/-- The loop over longs and the one over bytes change the row as a whole. -/
theorem longsThenBytes_eq {aligned : Prop} [Decidable aligned] {op : UInt8 → UInt8}
    {onLong onByte : ℕ → Mem UInt8 → Mem UInt8}
    (hlong : ∀ j m, onLong j m = mapPiece op 4 dst j m)
    (hbyte : ∀ i m, onByte i m = overwrite (dst + i) 1 (fun _ => op (m (dst + i))) m) :
    longsThenBytes aligned rowBytes onLong onByte m = mapped op dst rowBytes m := by
  apply longsThenBytes_induction (P := fun k t => t = mapped op dst k m)
  · exact overwrite_zero.symm
  · rintro - j t rfl
    rw [hlong]
    exact mapped_append
  · rintro i t rfl
    rw [hbyte, ← mapped_append]
    apply overwrite_congr
    intro k hk
    rw [Nat.lt_one_iff.mp hk, Nat.add_zero]

theorem chipLfill_eq {pattern : UInt32} {v : UInt8}
    (hpattern : ∀ k < 4, byteOf pattern k = v) :
    chipLfill dst rowBytes pattern m = mapped (fun _ => v) dst rowBytes m := by
  have hlow : pattern.toUInt8 = v := by
    rw [← hpattern 3 (by decide), byteOf_three]
  apply longsThenBytes_eq
  · intro j m
    exact overwrite_congr hpattern
  · intro i m
    rw [hlow]
    rfl

/-- Changing the rows of a rectangle in place. -/
theorem mapRows_spec (op : UInt8 → UInt8) {change : ℕ → Mem UInt8 → Mem UInt8}
    (hlen : rowBytes ≤ dStride)
    (hchange : ∀ row m, change row m = mapped op (dst + row * dStride) rowBytes m) :
    Triple (fun b => b.mem = m ∧ AllDisjoint b.calls) (forUp h fun row => onMemory (change row))
      fun _ b =>
        Painted dst dStride rowBytes (· < h) (fun row i => op (m (dst + row * dStride + i))) m
          b.mem ∧ AllDisjoint b.calls := by
  rintro b₀ ⟨rfl, hcalls⟩
  have hstart : Painted dst dStride rowBytes (· < 0)
      (fun row i => op (b₀.mem (dst + row * dStride + i))) b₀.mem b₀.mem :=
    Painted.of_none fun r => Nat.not_lt_zero r
  refine Triple.forUp (f := fun row => onMemory (change row))
    (I := fun k b => Painted dst dStride rowBytes (· < k)
      (fun row i => op (b₀.mem (dst + row * dStride + i))) b₀.mem b.mem ∧ AllDisjoint b.calls)
    (fun row hlt b hb => ⟨?_, hb.2⟩) b₀ ⟨hstart, hcalls⟩
  have hread : ∀ i < rowBytes, op (b.mem (dst + row * dStride + i)) =
      op (b₀.mem (dst + row * dStride + i)) := by
    intro i hi
    rw [hb.1.outside]
    intro r hr
    have hapart := rows_apart dst hr hlen
    omega
  change Painted _ _ _ _ _ _ (change row b.mem)
  rw [hchange, mapped, overwrite_congr hread]
  exact hb.1.step hlen fun r => Nat.lt_succ_iff_lt_or_eq

/-- What the fill puts into all four bytes of a long. -/
theorem byteOf_broadcast (val : UInt8) {k : ℕ} (hk : k < 4) :
    byteOf ((val.toUInt32 <<< 24) ||| (val.toUInt32 <<< 16) ||| (val.toUInt32 <<< 8) |||
      val.toUInt32) k = val := by
  have hall : ∀ (v : Fin 256) (k : Fin 4),
      byteOf (((UInt8.ofNat v).toUInt32 <<< 24) ||| ((UInt8.ofNat v).toUInt32 <<< 16) |||
        ((UInt8.ofNat v).toUInt32 <<< 8) ||| (UInt8.ofNat v).toUInt32) k = UInt8.ofNat v := by
    decide +kernel
  have hval := hall ⟨val.toNat, val.toNat_lt⟩ ⟨k, hk⟩
  rwa [UInt8.ofNat_toNat] at hval

theorem chipFillRectBytes_spec (hlen : rowBytes ≤ dStride) (val : UInt8) :
    Triple (fun b => b.mem = m ∧ AllDisjoint b.calls) (chipFillRectBytes dst dStride rowBytes h val)
      fun _ b => Painted dst dStride rowBytes (· < h) (fun _ _ => val) m b.mem ∧
        AllDisjoint b.calls := by
  apply Triple.ite
  · intro hempty
    apply Triple.ret
    rintro b ⟨rfl, hcalls⟩
    exact ⟨⟨fun row hrow i hi => by omega, fun _ _ => rfl⟩, hcalls⟩
  · intro _
    exact mapRows_spec (fun _ => val) hlen fun row m =>
      chipLfill_eq fun k hk => byteOf_broadcast val hk

theorem byteOf_ones {k : ℕ} (hk : k < 4) : byteOf 0xFFFFFFFF k = 0xFF := by
  obtain rfl | rfl | rfl | rfl : k = 0 ∨ k = 1 ∨ k = 2 ∨ k = 3 := by omega
  all_goals decide

/-- One row of the complement. -/
theorem invertRow_eq (d : ℕ) (m : Mem UInt8) :
    longsThenBytes (d &&& 3 = 0) rowBytes
      (fun j m => storeLong (d + 4 * j) (loadLong m (d + 4 * j) ^^^ 0xFFFFFFFF) m)
      (fun i m => storeByte (d + i) (m (d + i) ^^^ 0xFF) m) m =
        mapped (fun v => v ^^^ 0xFF) d rowBytes m := by
  apply longsThenBytes_eq
  · intro j m
    apply overwrite_congr
    intro k hk
    rw [byteOf_xor, byteOf_loadLong m _ hk, byteOf_ones hk]
  · intro i m
    rfl

theorem chipXorRectWithConst_spec (dst h : ℕ) (hlen : rowBytes ≤ dStride) :
    Triple (fun b => b.mem = m ∧ AllDisjoint b.calls)
      (chipXorRectWithConst dst dStride rowBytes h)
      fun _ b => Painted dst dStride rowBytes (· < h)
        (fun row i => m (dst + row * dStride + i) ^^^ 0xFF) m b.mem ∧ AllDisjoint b.calls :=
  mapRows_spec (fun v => v ^^^ 0xFF) hlen fun row m => invertRow_eq (dst + row * dStride) m

end VirtIOGPU.Drawing
