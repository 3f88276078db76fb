import Mathlib.Data.Int.ModEq
import VirtIOGPU.Drawing.Pixels
import VirtIOGPU.Lib.Bresenham

/-!
# `chip_DrawLine`

The line is Bresenham's, kept in signed words: an error term decides when it steps to the side.
For every line whose pixels fit into words, pixel `i` is where the closed form says, and

```text
pattern bit   COMPLEMENT      JAM2            JAM1
1             inverted        FgPen           FgPen
0             kept            BgPen           kept
```

says what becomes of it; every other byte is kept.  A line is not bound to the surface it is drawn
on, so that two of its pixels may share bytes: what a pixel holds is said for those that no other
written pixel reaches, which on a surface with the line inside are all (`chipDrawLine_altered`).

The error term is exact as well.  The rectangle for `chip_flush` is not: it is measured after each
step, so it also holds the position that comes after the last pixel; where that one does not fit,
or the rectangle is `2 ^ 16` wide, the rectangle is empty (`line_exact_iff`).

Two invariants carry the loop.  `Traced` has the error term and the turns so far and holds up to
the end; `Boxed` has the position and the ends of the rectangle, and holds as long as the position
is on the grid.  What is drawn is then a loop over the closed form (`ChipLine.Proper.after_mem`).
-/

namespace VirtIOGPU.Drawing

open Lib.Memory Lib.Bresenham

/-- `struct ChipLine`. -/
structure ChipLine where
  x : Int16
  y : Int16
  length : UInt16
  dX : Int16
  dY : Int16
  sDelta : Int16
  lDelta : Int16
  twoSDminusLD : Int16
  linePtrn : UInt16
  patternShift : UInt16
  fgPen : UInt32
  bgPen : UInt32
  horizontal : Bool
  drawMode : UInt8

/-- A turn of the loop: where it is, the bit of the pattern that it reads, and whether it writes
the pixel. -/
structure Visit where
  x : Int16
  y : Int16
  bit : Bool
  isWritten : Bool
  deriving DecidableEq, Repr

/-- The variables of the loop, with the turns so far. -/
structure LineState where
  px : Int16
  py : Int16
  err : Int16
  pshift : UInt16
  minX : Int16
  maxX : Int16
  minY : Int16
  maxY : Int16
  mem : Mem UInt8
  visits : List Visit

/-- `dx_step`. -/
def ChipLine.dxStep (line : ChipLine) : Int16 := if line.dX ≥ 0 then 1 else -1

/-- `dy_step`. -/
def ChipLine.dyStep (line : ChipLine) : Int16 := if line.dY ≥ 0 then 1 else -1

/-- `pixel`; the sum is a `ULONG`. -/
def lineAddress (ri : RenderInfo) (format : RgbfType) (px py : Int16) : ℕ :=
  ri.address (chipFormatBpp format) (ulong px) (ulong py) % 2 ^ 32

/-- The pixel of a turn. -/
def linePixel (ri : RenderInfo) (line : ChipLine) (format : RgbfType) (draw : Bool) (px py : Int16)
    (m : Mem UInt8) : Mem UInt8 :=
  let pixel := lineAddress ri format px py
  if draw then
    if line.drawMode &&& COMPLEMENT ≠ 0 then invert format pixel m
    else setPen format line.fgPen pixel m
  else if line.drawMode &&& 0x03 = JAM2 then
    setPen format line.bgPen pixel m
  else m

/-- The step to the next pixel: `px`, `py` and `err`. -/
def ChipLine.advance (line : ChipLine) (px py err : Int16) : Int16 × Int16 × Int16 :=
  if line.horizontal then
    let (py, err) := if err > 0 then (py + line.dyStep, err - 2 * line.lDelta) else (py, err)
    (px + line.dxStep, py, err + 2 * line.sDelta)
  else
    let (px, err) := if err > 0 then (px + line.dxStep, err - 2 * line.lDelta) else (px, err)
    (px, py + line.dyStep, err + 2 * line.sDelta)

/-- A turn of the loop. -/
def lineTurn (ri : RenderInfo) (line : ChipLine) (format : RgbfType) (s : LineState) : LineState :=
  let draw := decide ((line.linePtrn >>> (15 - (s.pshift &&& 15))) &&& 1 ≠ 0)
  let (px, py, err) := line.advance s.px s.py s.err
  { px, py, err
    pshift := s.pshift + 1
    minX := if px < s.minX then px else s.minX
    maxX := if px > s.maxX then px else s.maxX
    minY := if py < s.minY then py else s.minY
    maxY := if py > s.maxY then py else s.maxY
    mem := linePixel ri line format draw s.px s.py s.mem
    visits := s.visits ++ [⟨s.px, s.py, draw, draw || decide (line.drawMode &&& 0x03 = JAM2)⟩] }

def lineStart (line : ChipLine) (m : Mem UInt8) : LineState :=
  { px := line.x, py := line.y, err := line.twoSDminusLD, pshift := line.patternShift
    minX := line.x, maxX := line.x, minY := line.y, maxY := line.y, mem := m, visits := [] }

/-- The loop after `i` turns. -/
def lineAfter (ri : RenderInfo) (line : ChipLine) (format : RgbfType) (m : Mem UInt8) (i : ℕ) :
    LineState :=
  up i (fun _ => lineTurn ri line format) (lineStart line m)

/-- The rectangle for `chip_flush`. -/
def LineState.box (s : LineState) : Rect :=
  { x := s.minX, y := s.minY
    w := s.maxX.toUInt16 - s.minX.toUInt16 + 1, h := s.maxY.toUInt16 - s.minY.toUInt16 + 1 }

/-- `chip_DrawLine`. -/
def chipDrawLine (ri : RenderInfo) (line : ChipLine) (format : RgbfType) (c : Canvas) : Canvas :=
  if ri.memory = 0 then c
  else
    let s := lineAfter ri line format c.mem line.length.toNat
    { mem := s.mem, flushed := c.flushed ++ [s.box] }

/-! ## What it should do -/

/-- A signed word. -/
def IsWord (v : ℤ) : Prop := -2 ^ 15 ≤ v ∧ v < 2 ^ 15

instance (v : ℤ) : Decidable (IsWord v) := inferInstanceAs (Decidable (_ ∧ _))

/-- The steps along the two axes up to pixel `i`. -/
def ChipLine.steps (line : ChipLine) (i : ℕ) : ℤ × ℤ :=
  let side := rise line.sDelta.toInt line.lDelta.toInt i
  if line.horizontal then (i, side) else (side, i)

/-- Where pixel `i` is. -/
def ChipLine.position (line : ChipLine) (i : ℕ) : ℤ × ℤ :=
  (line.x.toInt + line.dxStep.toInt * (line.steps i).1,
    line.y.toInt + line.dyStep.toInt * (line.steps i).2)

/-- Both coordinates are words. -/
def OnGrid (p : ℤ × ℤ) : Prop := IsWord p.1 ∧ IsWord p.2

instance (p : ℤ × ℤ) : Decidable (OnGrid p) := inferInstanceAs (Decidable (_ ∧ _))

/-- The bit of the pattern for pixel `i`. -/
def ChipLine.patternBit (line : ChipLine) (i : ℕ) : Bool :=
  line.linePtrn.toNat.testBit (15 - (line.patternShift.toNat + i) % 16)

/-- Pixel `i` is written: its bit is set, or `JAM2` draws the gaps as well. -/
def ChipLine.Writes (line : ChipLine) (i : ℕ) : Prop :=
  line.patternBit i = true ∨ line.drawMode &&& 0x03 = JAM2

/-- The first byte of pixel `i`, with the address computed in longs. -/
def ChipLine.pixelStart (line : ChipLine) (ri : RenderInfo) (format : RgbfType) (i : ℕ) : ℕ :=
  ((ri.memory + (line.position i).2 * ri.bytesPerRow +
    (line.position i).1 * chipFormatBpp format) % 2 ^ 32).toNat

/-- No other pixel that is written reaches the bytes of pixel `i`. -/
def ChipLine.Alone (line : ChipLine) (ri : RenderInfo) (format : RgbfType) (i : ℕ) : Prop :=
  ∀ j < line.length.toNat, j ≠ i → line.Writes j →
    Apart (line.pixelStart ri format j) (penSize format) (line.pixelStart ri format i)
      (penSize format)

/-- The parameters of a line whose pixels all fit. -/
structure ChipLine.Proper (line : ChipLine) : Prop where
  side_nonneg : 0 ≤ line.sDelta.toInt
  side_le : line.sDelta.toInt ≤ line.lDelta.toInt
  ahead_pos : 0 < line.lDelta.toInt
  ahead_le : line.lDelta.toInt ≤ 16383
  start : line.twoSDminusLD.toInt = 2 * line.sDelta.toInt - line.lDelta.toInt
  fits : ∀ i < line.length.toNat, OnGrid (line.position i)

/-- The point lies in the rectangle, as signed words. -/
def Rect.Covers (r : Rect) (p : ℤ × ℤ) : Prop :=
  (r.x.toInt ≤ p.1 ∧ p.1 < r.x.toInt + r.w.toNat) ∧
    r.y.toInt ≤ p.2 ∧ p.2 < r.y.toInt + r.h.toNat

/-- The error term is updated without overflow in turn `i`. -/
def ErrorExact (ri : RenderInfo) (line : ChipLine) (format : RgbfType) (m : Mem UInt8) (i : ℕ) :
    Prop :=
  let err := (lineAfter ri line format m i).err.toInt
  let turned := if 0 < err then err - 2 * line.lDelta.toInt else err
  IsWord turned ∧ IsWord (turned + 2 * line.sDelta.toInt) ∧
    (lineAfter ri line format m (i + 1)).err.toInt = turned + 2 * line.sDelta.toInt

/-- All pixels lie on a surface of this size. -/
def ChipLine.Inside (line : ChipLine) (width height : ℕ) : Prop :=
  ∀ i < line.length.toNat, (0 ≤ (line.position i).1 ∧ (line.position i).1 < width) ∧
    0 ≤ (line.position i).2 ∧ (line.position i).2 < height

/-- The line is drawn exactly, and `chip_flush` is told of every pixel that is written. -/
structure ExactLine (ri : RenderInfo) (line : ChipLine) (format : RgbfType) (c : Canvas) :
    Prop where
  length : (lineAfter ri line format c.mem line.length.toNat).visits.length = line.length.toNat
  visits : ∀ i v, (lineAfter ri line format c.mem line.length.toNat).visits[i]? = some v →
    (v.x.toInt, v.y.toInt) = line.position i ∧ v.bit = line.patternBit i
  error : ∀ i < line.length.toNat, ErrorExact ri line format c.mem i
  untouched : ∀ a, (∀ i < line.length.toNat, line.Writes i →
    ¬ InCell (line.pixelStart ri format) (penSize format) i a) →
      (chipDrawLine ri line format c).mem a = c.mem a
  pixels : ∀ i < line.length.toNat, line.Alone ri format i →
    cell (line.pixelStart ri format) (penSize format) (chipDrawLine ri line format c).mem i =
      drawn (penSize format) line.drawMode line.fgPen line.bgPen (line.patternBit i)
        (cell (line.pixelStart ri format) (penSize format) c.mem i)
  box : ∃ r, (chipDrawLine ri line format c).flushed = c.flushed ++ [r] ∧
    ∀ i < line.length.toNat, line.Writes i → r.Covers (line.position i)

/-! ## Signed words -/

theorem isWord_toInt (v : Int16) : IsWord v.toInt := ⟨v.le_toInt, v.toInt_lt⟩

theorem toInt_add_of_isWord {v w : Int16} (h : IsWord (v.toInt + w.toInt)) :
    (v + w).toInt = v.toInt + w.toInt := by
  unfold IsWord at h
  rw [Int16.toInt_add]
  exact Int.bmod_eq_of_le_mul_two (by omega) (by omega)

theorem toInt_sub_of_isWord {v w : Int16} (h : IsWord (v.toInt - w.toInt)) :
    (v - w).toInt = v.toInt - w.toInt := by
  unfold IsWord at h
  rw [Int16.toInt_sub]
  exact Int.bmod_eq_of_le_mul_two (by omega) (by omega)

theorem toInt_two_mul_of_isWord {v : Int16} (h : IsWord (2 * v.toInt)) :
    (2 * v).toInt = 2 * v.toInt := by
  unfold IsWord at h
  rw [Int16.toInt_mul]
  change (2 * v.toInt).bmod _ = _
  exact Int.bmod_eq_of_le_mul_two (by omega) (by omega)

theorem toNat_toUInt16 (v : Int16) : (v.toUInt16.toNat : ℤ) = v.toInt % 2 ^ 16 := by
  have hlt := v.toBitVec.isLt
  change (v.toBitVec.toNat : ℤ) = v.toBitVec.toInt % 2 ^ 16
  rw [BitVec.toInt_eq_msb_cond]
  split <;> omega

/-- A signed word as a long. -/
theorem ulong_eq (v : Int16) : (ulong v : ℤ) = v.toInt % 2 ^ 32 := by
  have hword := isWord_toInt v
  have hlong : v.toInt32.toInt = v.toInt := Int16.toInt_toInt32 v
  unfold IsWord at hword
  change (v.toInt32.toBitVec.toNat : ℤ) = _
  have hlt := v.toInt32.toBitVec.isLt
  have hcond : v.toInt32.toInt = _ := BitVec.toInt_eq_msb_cond v.toInt32.toBitVec
  rw [hlong] at hcond
  rw [hcond]
  split <;> omega

/-- The width of a rectangle, as it is passed on. -/
theorem extent_eq (lo hi : Int16) :
    ((hi.toUInt16 - lo.toUInt16 + 1).toNat : ℤ) = (hi.toInt - lo.toInt + 1) % 2 ^ 16 := by
  have hlo := toNat_toUInt16 lo
  have hhi := toNat_toUInt16 hi
  have hlo' := isWord_toInt lo
  have hhi' := isWord_toInt hi
  have hlt := lo.toUInt16.toNat_lt
  unfold IsWord at hlo' hhi'
  have hone : (1 : UInt16).toNat = 1 := rfl
  rw [UInt16.toNat_add, UInt16.toNat_sub, hone]
  omega

/-! ## One axis -/

/-- After `a` steps in direction `d` from `x`: the position, and how far it has been. -/
structure Measured (x d a : ℤ) (p lo hi : Int16) : Prop where
  pos : p.toInt = x + d * a
  lo : lo.toInt = min x (x + d * a)
  hi : hi.toInt = max x (x + d * a)

section

variable {x a b : ℤ} {p p' lo hi step : Int16}

theorem Measured.move (h : Measured x step.toInt a p lo hi)
    (hstep : step.toInt = 1 ∨ step.toInt = -1) (ha : 0 ≤ a)
    (hmove : p' = p ∧ b = 0 ∨ p' = p + step ∧ b = 1) (hfits : IsWord (x + step.toInt * (a + b))) :
    Measured x step.toInt (a + b) p' (if p' < lo then p' else lo) (if p' > hi then p' else hi) := by
  obtain ⟨hpos, hlo, hhi⟩ := h
  have hpos' : p'.toInt = x + step.toInt * (a + b) := by
    rcases hmove with ⟨rfl, rfl⟩ | ⟨rfl, rfl⟩
    · rw [Int.add_zero]
      exact hpos
    · have hsum : p.toInt + step.toInt = x + step.toInt * (a + 1) := by
        rw [hpos, Int.mul_add, Int.mul_one, Int.add_assoc]
      rw [toInt_add_of_isWord (hsum ▸ hfits), hsum]
  have hb : 0 ≤ b := by
    rcases hmove with ⟨-, rfl⟩ | ⟨-, rfl⟩
    · exact Int.le_refl _
    · decide
  refine ⟨hpos', ?_, ?_⟩
  · simp only [Int16.lt_iff_toInt_lt]
    rcases hstep with hd | hd
    · rw [hd] at hpos' hlo ⊢
      split <;> omega
    · rw [hd] at hpos' hlo ⊢
      split <;> omega
  · simp only [gt_iff_lt, Int16.lt_iff_toInt_lt]
    rcases hstep with hd | hd
    · rw [hd] at hpos' hhi ⊢
      split <;> omega
    · rw [hd] at hpos' hhi ⊢
      split <;> omega

/-- The step to a position that does not fit leaves an empty range. -/
theorem Measured.overflow (h : Measured x step.toInt a p lo hi) (hx : IsWord x)
    (hstep : step.toInt = 1 ∨ step.toInt = -1) (ha : 0 ≤ a)
    (hbeyond : ¬ IsWord (x + step.toInt * (a + 1))) :
    (if p + step > hi then p + step else hi).toUInt16 -
      (if p + step < lo then p + step else lo).toUInt16 + 1 = 0 := by
  obtain ⟨hpos, hlo, hhi⟩ := h
  have hp := isWord_toInt p
  have hsum : (p + step).toInt = (p.toInt + step.toInt).bmod (2 ^ 16) := Int16.toInt_add _ _
  unfold IsWord at hx hp hbeyond
  -- the position wraps to the other end, and the last one was at this end
  obtain ⟨hlow, hhigh⟩ : (if p + step < lo then p + step else lo).toInt = -2 ^ 15 ∧
      (if p + step > hi then p + step else hi).toInt = 2 ^ 15 - 1 := by
    simp only [gt_iff_lt, Int16.lt_iff_toInt_lt]
    rcases hstep with hd | hd
    · rw [hd] at hpos hlo hhi hbeyond hsum
      have hend : p.toInt = 2 ^ 15 - 1 := by omega
      have hwrap : (p + step).toInt = -2 ^ 15 := by
        rw [hsum, hend]
        rfl
      constructor
      · split <;> omega
      · split <;> omega
    · rw [hd] at hpos hlo hhi hbeyond hsum
      have hend : p.toInt = -2 ^ 15 := by omega
      have hwrap : (p + step).toInt = 2 ^ 15 - 1 := by
        rw [hsum, hend]
        rfl
      constructor
      · split <;> omega
      · split <;> omega
  have hextent := extent_eq (if p + step < lo then p + step else lo)
    (if p + step > hi then p + step else hi)
  rw [hlow, hhigh] at hextent
  exact UInt16.toNat_inj.mp (Int.ofNat.inj hextent)

end

/-! ## The loop -/

section

variable {ri : RenderInfo} {line : ChipLine} {format : RgbfType} {m : Mem UInt8}

theorem dxStep_unit (line : ChipLine) : line.dxStep.toInt = 1 ∨ line.dxStep.toInt = -1 := by
  unfold ChipLine.dxStep
  split
  · exact Or.inl rfl
  · exact Or.inr rfl

theorem dyStep_unit (line : ChipLine) : line.dyStep.toInt = 1 ∨ line.dyStep.toInt = -1 := by
  unfold ChipLine.dyStep
  split
  · exact Or.inl rfl
  · exact Or.inr rfl

/-- What the error term stands for. -/
def ChipLine.error (line : ChipLine) (i : ℕ) : ℤ :=
  Lib.Bresenham.error line.sDelta.toInt line.lDelta.toInt i

/-- The turns up to `i`. -/
structure Traced (line : ChipLine) (i : ℕ) (s : LineState) : Prop where
  err : s.err.toInt = line.error i
  pshift : s.pshift.toNat = (line.patternShift.toNat + i) % 2 ^ 16
  length : s.visits.length = i
  visits : ∀ j v, s.visits[j]? = some v → (v.x.toInt, v.y.toInt) = line.position j ∧
    v.bit = line.patternBit j ∧ (v.isWritten = true ↔ line.Writes j)

/-- The position after `i` turns, and the box so far. -/
structure Boxed (line : ChipLine) (i : ℕ) (s : LineState) : Prop where
  xAxis : Measured line.x.toInt line.dxStep.toInt (line.steps i).1 s.px s.minX s.maxX
  yAxis : Measured line.y.toInt line.dyStep.toInt (line.steps i).2 s.py s.minY s.maxY

theorem ChipLine.Proper.steps_nonneg (h : line.Proper) (i : ℕ) :
    0 ≤ (line.steps i).1 ∧ 0 ≤ (line.steps i).2 := by
  have hrise := rise_nonneg h.ahead_pos h.side_nonneg h.side_le i
  unfold ChipLine.steps
  cases line.horizontal
  · exact ⟨hrise, Int.natCast_nonneg i⟩
  · exact ⟨Int.natCast_nonneg i, hrise⟩

theorem ChipLine.Proper.start_boxed (h : line.Proper) :
    Traced line 0 (lineStart line m) ∧ Boxed line 0 (lineStart line m) := by
  have hsteps : line.steps 0 = (0, 0) := by
    unfold ChipLine.steps
    rw [rise_zero h.ahead_pos]
    cases line.horizontal
    · rfl
    · rfl
  have hstill (x d : ℤ) : x = x + d * 0 ∧ x = min x (x + d * 0) ∧ x = max x (x + d * 0) := by
    rw [Int.mul_zero]
    omega
  refine ⟨⟨?_, ?_, rfl, fun j v hv => ?_⟩, ?_⟩
  · exact h.start.trans (error_zero h.ahead_pos _).symm
  · exact (Nat.mod_eq_of_lt line.patternShift.toNat_lt).symm
  · cases hv
  · constructor
    · rw [hsteps]
      obtain ⟨hpos, hlo, hhi⟩ := hstill line.x.toInt line.dxStep.toInt
      exact ⟨hpos, hlo, hhi⟩
    · rw [hsteps]
      obtain ⟨hpos, hlo, hhi⟩ := hstill line.y.toInt line.dyStep.toInt
      exact ⟨hpos, hlo, hhi⟩

/-- The error term after a turn. -/
theorem ChipLine.Proper.error_step (h : line.Proper) {i : ℕ} {err : Int16}
    (herr : err.toInt = line.error i) :
    let turned := if 0 < err.toInt then err.toInt - 2 * line.lDelta.toInt else err.toInt
    IsWord turned ∧ IsWord (turned + 2 * line.sDelta.toInt) ∧
      turned + 2 * line.sDelta.toInt = line.error (i + 1) ∧
      ((if err > 0 then err - 2 * line.lDelta else err) + 2 * line.sDelta).toInt =
        turned + 2 * line.sDelta.toInt := by
  intro turned
  have hbounds := error_bounds h.ahead_pos line.sDelta.toInt i
  have hnext : turned + 2 * line.sDelta.toInt = line.error (i + 1) := by
    have hsucc := error_succ h.ahead_pos h.side_nonneg h.side_le i
    change line.error (i + 1) = (if 0 < line.error i then line.error i - _ else line.error i) + _
      at hsucc
    rw [← herr] at hsucc
    exact hsucc.symm
  -- the error stays within 2 * lDelta of 0, so no step leaves the sixteen bits
  have hbounds' := error_bounds h.ahead_pos line.sDelta.toInt (i + 1)
  change _ < line.error i ∧ line.error i ≤ _ at hbounds
  change _ < line.error (i + 1) ∧ line.error (i + 1) ≤ _ at hbounds'
  have hside := h.side_nonneg
  have hle := h.side_le
  have hahead := h.ahead_le
  have htwoL : (2 * line.lDelta).toInt = 2 * line.lDelta.toInt :=
    toInt_two_mul_of_isWord ⟨by omega, by omega⟩
  have htwoS : (2 * line.sDelta).toInt = 2 * line.sDelta.toInt :=
    toInt_two_mul_of_isWord ⟨by omega, by omega⟩
  have hword : IsWord turned := ⟨by omega, by omega⟩
  have hword' : IsWord (turned + 2 * line.sDelta.toInt) := ⟨by omega, by omega⟩
  have hturned : (if err > 0 then err - 2 * line.lDelta else err).toInt = turned := by
    simp only [turned, gt_iff_lt, Int16.lt_iff_toInt_lt]
    change (if 0 < err.toInt then _ else _ : Int16).toInt = _
    split
    · next hpos =>
      rw [toInt_sub_of_isWord, htwoL]
      rw [htwoL]
      simp only [turned, if_pos hpos] at hword
      exact hword
    · rfl
  refine ⟨hword, hword', hnext, ?_⟩
  rw [toInt_add_of_isWord, hturned, htwoS]
  rw [hturned, htwoS]
  exact hword'

/-- Which of the two axes a turn moves along. -/
theorem advance_eq (line : ChipLine) (px py err : Int16) :
    line.advance px py err =
      (if line.horizontal = true ∨ err > 0 then px + line.dxStep else px,
        if line.horizontal = false ∨ err > 0 then py + line.dyStep else py,
        (if err > 0 then err - 2 * line.lDelta else err) + 2 * line.sDelta) := by
  unfold ChipLine.advance
  by_cases hturn : err > 0
  · cases line.horizontal <;> simp [hturn]
  · cases line.horizontal <;> simp [hturn]

theorem ChipLine.Proper.steps_succ (h : line.Proper) (i : ℕ) :
    line.steps (i + 1) =
      ((line.steps i).1 + if line.horizontal = true ∨ 0 < line.error i then 1 else 0,
        (line.steps i).2 + if line.horizontal = false ∨ 0 < line.error i then 1 else 0) := by
  have hrise := rise_succ h.ahead_pos h.side_nonneg h.side_le i
  change _ = if 0 < line.error i then _ else _ at hrise
  have hnext : rise line.sDelta.toInt line.lDelta.toInt (i + 1) =
      rise line.sDelta.toInt line.lDelta.toInt i + if 0 < line.error i then 1 else 0 := by
    rw [hrise]
    split
    · rfl
    · exact (Int.add_zero _).symm
  unfold ChipLine.steps
  rw [hnext]
  cases line.horizontal
  · simp
  · simp

/-- The bit that a turn reads. -/
theorem Traced.bit {i : ℕ} {s : LineState} (h : Traced line i s) :
    decide ((line.linePtrn >>> (15 - (s.pshift &&& 15))) &&& 1 ≠ 0) = line.patternBit i := by
  have hindex : (s.pshift &&& 15).toNat = (line.patternShift.toNat + i) % 16 := by
    rw [UInt16.toNat_and]
    change s.pshift.toNat &&& 2 ^ 4 - 1 = _
    rw [Nat.and_two_pow_sub_one_eq_mod, h.pshift]
    exact Nat.mod_mod_of_dvd _ (by decide)
  have hlt : (s.pshift &&& 15).toNat < 16 := by
    rw [hindex]
    exact Nat.mod_lt _ (by decide)
  rw [shifted_bit _ hlt, hindex]
  rfl

/-- A turn. -/
theorem ChipLine.Proper.turn_traced (h : line.Proper) {i : ℕ} {s : LineState}
    (ht : Traced line i s) (hb : Boxed line i s) :
    Traced line (i + 1) (lineTurn ri line format s) := by
  obtain ⟨-, -, hnext, herr⟩ := h.error_step ht.err
  refine ⟨?_, ?_, ?_, ?_⟩
  · simp only [lineTurn, advance_eq]
    exact herr.trans hnext
  · change (s.pshift + 1).toNat = _
    rw [UInt16.toNat_add, ht.pshift]
    change ((line.patternShift.toNat + i) % 2 ^ 16 + 1) % 2 ^ 16 = _
    omega
  · change (s.visits ++ [_]).length = _
    rw [List.length_append, ht.length]
    rfl
  · intro j v hv
    change (s.visits ++ [_])[j]? = some v at hv
    rcases Nat.lt_or_ge j i with hold | hnew
    · rw [List.getElem?_append_left (by rw [ht.length]; exact hold)] at hv
      exact ht.visits j v hv
    · rw [List.getElem?_append_right (by rw [ht.length]; exact hnew), ht.length] at hv
      obtain ⟨k, rfl⟩ := Nat.exists_eq_add_of_le hnew
      rw [Nat.add_sub_cancel_left] at hv
      cases k with
      | zero =>
          obtain rfl := Option.some.inj hv
          refine ⟨Prod.ext hb.xAxis.pos hb.yAxis.pos, ht.bit, ?_⟩
          rw [ht.bit, Bool.or_eq_true, decide_eq_true_iff]
          exact Iff.rfl
      | succ k => cases hv

/-- The conditions of the source and of the recurrence. -/
theorem Traced.turns_iff {i : ℕ} {s : LineState} (ht : Traced line i s) :
    s.err > 0 ↔ 0 < line.error i := by
  rw [gt_iff_lt, Int16.lt_iff_toInt_lt, ht.err]
  exact Iff.rfl

theorem ChipLine.Proper.turn_boxed (h : line.Proper) {i : ℕ} {s : LineState}
    (ht : Traced line i s) (hb : Boxed line i s) (hgrid : OnGrid (line.position (i + 1))) :
    Boxed line (i + 1) (lineTurn ri line format s) := by
  obtain ⟨hx, hy⟩ := hgrid
  obtain ⟨hnonneg, hnonneg'⟩ := h.steps_nonneg i
  simp only [ChipLine.position, h.steps_succ i] at hx hy
  have hmove (c : Prop) [Decidable c] (p step : Int16) :
      (if c then p + step else p) = p ∧ (if c then 1 else 0 : ℤ) = 0 ∨
        (if c then p + step else p) = p + step ∧ (if c then 1 else 0 : ℤ) = 1 := by
    by_cases hc : c
    · rw [if_pos hc, if_pos hc]
      exact Or.inr ⟨rfl, rfl⟩
    · rw [if_neg hc, if_neg hc]
      exact Or.inl ⟨rfl, rfl⟩
  constructor
  · rw [h.steps_succ i]
    simp only [lineTurn, advance_eq, ht.turns_iff]
    exact hb.xAxis.move (dxStep_unit line) hnonneg (hmove _ _ _) hx
  · rw [h.steps_succ i]
    simp only [lineTurn, advance_eq, ht.turns_iff]
    exact hb.yAxis.move (dyStep_unit line) hnonneg' (hmove _ _ _) hy

/-- The step out of the grid. -/
theorem ChipLine.Proper.turn_overflow (h : line.Proper) {i : ℕ} {s : LineState}
    (ht : Traced line i s) (hb : Boxed line i s) (hgrid : OnGrid (line.position i))
    (hbeyond : ¬ OnGrid (line.position (i + 1))) :
    (lineTurn ri line format s).box.w = 0 ∨ (lineTurn ri line format s).box.h = 0 := by
  obtain ⟨hx, hy⟩ := hgrid
  obtain ⟨hnonneg, hnonneg'⟩ := h.steps_nonneg i
  unfold OnGrid at hbeyond
  rw [not_and_or] at hbeyond
  simp only [ChipLine.position, h.steps_succ i] at hx hy hbeyond
  simp only [LineState.box, lineTurn, advance_eq, ht.turns_iff]
  rcases hbeyond with hbeyond | hbeyond
  · left
    split at hbeyond
    · next hmoves =>
      rw [if_pos hmoves]
      exact hb.xAxis.overflow (isWord_toInt _) (dxStep_unit line) hnonneg hbeyond
    · rw [Int.add_zero] at hbeyond
      exact absurd hx hbeyond
  · right
    split at hbeyond
    · next hmoves =>
      rw [if_pos hmoves]
      exact hb.yAxis.overflow (isWord_toInt _) (dyStep_unit line) hnonneg' hbeyond
    · rw [Int.add_zero] at hbeyond
      exact absurd hy hbeyond

theorem lineAfter_succ (i : ℕ) :
    lineAfter ri line format m (i + 1) = lineTurn ri line format (lineAfter ri line format m i) :=
  up_succ _

/-- The loop, up to the last pixel and one step further. -/
theorem ChipLine.Proper.after (h : line.Proper) {i : ℕ} (hi : i ≤ line.length.toNat) :
    Traced line i (lineAfter ri line format m i) ∧
      (OnGrid (line.position i) → Boxed line i (lineAfter ri line format m i)) := by
  induction i with
  | zero =>
      obtain ⟨ht, hb⟩ := h.start_boxed (m := m)
      exact ⟨ht, fun _ => hb⟩
  | succ i ih =>
      obtain ⟨ht, hb⟩ := ih (Nat.le_of_succ_le hi)
      have hboxed := hb (h.fits i hi)
      rw [lineAfter_succ]
      exact ⟨h.turn_traced ht hboxed, h.turn_boxed ht hboxed⟩

theorem ChipLine.Proper.error_exact (h : line.Proper) {i : ℕ} (hi : i < line.length.toNat) :
    ErrorExact ri line format m i := by
  have ht : Traced line i (lineAfter ri line format m i) := (h.after hi.le).1
  obtain ⟨hword, hword', -, herr⟩ := h.error_step ht.err
  refine ⟨hword, hword', ?_⟩
  rw [lineAfter_succ]
  simp only [lineTurn, advance_eq]
  exact herr

/-! ## The memory -/

/-- A draw mode that inverts is not `JAM2`. -/
theorem ne_jam2_of_complement {drawMode : UInt8} (h : drawMode &&& COMPLEMENT ≠ 0) :
    drawMode &&& 0x03 ≠ JAM2 := by
  intro hjam2
  refine h ?_
  calc drawMode &&& COMPLEMENT
      = (drawMode &&& 0x03) &&& COMPLEMENT := by rw [UInt8.and_assoc]; rfl
    _ = 0 := by rw [hjam2]; rfl

/-- The branches of `chip_DrawLine` are those of the other two functions in another order. -/
theorem linePixel_eq (draw : Bool) (px py : Int16) :
    linePixel ri line format draw px py m =
      expandBit format line.drawMode line.fgPen line.bgPen draw (lineAddress ri format px py)
        m := by
  unfold linePixel expandBit
  dsimp only
  by_cases hcomplement : line.drawMode &&& COMPLEMENT ≠ 0
  · rw [if_pos hcomplement, if_pos hcomplement, if_neg (ne_jam2_of_complement hcomplement)]
  · rw [if_neg hcomplement, if_neg hcomplement]
    cases draw with
    | true => simp
    | false => simp

theorem lineAddress_eq {px py : Int16} {i : ℕ} (hx : px.toInt = (line.position i).1)
    (hy : py.toInt = (line.position i).2) :
    lineAddress ri format px py = line.pixelStart ri format i := by
  have haddr : (lineAddress ri format px py : ℤ) =
      (ri.memory + py.toInt * ri.bytesPerRow + px.toInt * chipFormatBpp format) % 2 ^ 32 := by
    have hcol := (Int.mod_modEq px.toInt (2 ^ 32)).mul_right (chipFormatBpp format : ℤ)
    have hrow := (Int.mod_modEq py.toInt (2 ^ 32)).mul_right (ri.bytesPerRow : ℤ)
    unfold lineAddress RenderInfo.address
    push_cast
    rw [ulong_eq, ulong_eq]
    exact (hrow.add_left _).add hcol
  rw [ChipLine.pixelStart, ← hx, ← hy, ← haddr, Int.toNat_natCast]

/-- The loop draws the pixels of the closed form, one after the other. -/
theorem ChipLine.Proper.after_mem (h : line.Proper) {i : ℕ} (hi : i ≤ line.length.toNat) :
    (lineAfter ri line format m i).mem =
      up i (fun k => expandBit format line.drawMode line.fgPen line.bgPen (line.patternBit k)
        (line.pixelStart ri format k)) m := by
  induction i with
  | zero => rfl
  | succ i ih =>
      have hafter : Traced line i (lineAfter ri line format m i) ∧
          (OnGrid (line.position i) → Boxed line i (lineAfter ri line format m i)) :=
        h.after (Nat.le_of_succ_le hi)
      have hboxed := hafter.2 (h.fits i hi)
      rw [lineAfter_succ, up_succ, ← ih (Nat.le_of_succ_le hi)]
      change linePixel ri line format _ _ _ _ = _
      rw [linePixel_eq, hafter.1.bit, lineAddress_eq hboxed.xAxis.pos hboxed.yAxis.pos]

/-- A pixel that is not written keeps its contents. -/
theorem expandBit_idle {i : ℕ} (h : ¬ line.Writes i) (p : ℕ) :
    expandBit format line.drawMode line.fgPen line.bgPen (line.patternBit i) p m = m := by
  obtain ⟨hbit, hjam2⟩ := not_or.mp h
  unfold expandBit
  rw [if_neg hbit, if_neg hjam2, if_neg hbit, ite_self]

theorem chipDrawLine_mem (h : line.Proper) (hpresent : ri.memory ≠ 0) (c : Canvas) :
    (chipDrawLine ri line format c).mem =
      up line.length.toNat (fun k => expandBit format line.drawMode line.fgPen line.bgPen
        (line.patternBit k) (line.pixelStart ri format k)) c.mem := by
  rw [chipDrawLine, if_neg hpresent]
  exact h.after_mem (Nat.le_refl _)

/-- What lies in no pixel that is written. -/
theorem chipDrawLine_untouched (h : line.Proper) (hpresent : ri.memory ≠ 0) (c : Canvas) {a : ℕ}
    (ha : ∀ i < line.length.toNat, line.Writes i →
      ¬ InCell (line.pixelStart ri format) (penSize format) i a) :
    (chipDrawLine ri line format c).mem a = c.mem a := by
  rw [chipDrawLine_mem h hpresent]
  exact Altered.turns_outside (fun k _ m => expandBit_altered format _ _ _ line.patternBit k m)
    (fun k _ hidle m => expandBit_idle hidle _) c.mem ha

/-- What a pixel holds that no other one reaches. -/
theorem chipDrawLine_pixel (h : line.Proper) (hpresent : ri.memory ≠ 0) (c : Canvas) {i : ℕ}
    (hi : i < line.length.toNat) (halone : line.Alone ri format i) :
    cell (line.pixelStart ri format) (penSize format) (chipDrawLine ri line format c).mem i =
      drawn (penSize format) line.drawMode line.fgPen line.bgPen (line.patternBit i)
        (cell (line.pixelStart ri format) (penSize format) c.mem i) := by
  rw [chipDrawLine_mem h hpresent]
  exact Altered.turns_inside (fun k _ m => expandBit_altered format _ _ _ line.patternBit k m)
    (fun k _ hidle m => expandBit_idle hidle _) c.mem hi halone

/-! ## The rectangle -/

theorem Measured.extent {x a : ℤ} {p lo hi step : Int16} (h : Measured x step.toInt a p lo hi)
    (hstep : step.toInt = 1 ∨ step.toInt = -1) (ha : 0 ≤ a) :
    ((hi.toUInt16 - lo.toUInt16 + 1).toNat : ℤ) = (a + 1) % 2 ^ 16 := by
  rw [extent_eq, h.lo, h.hi]
  rcases hstep with hd | hd
  · rw [hd]
    exact congrArg (· % 2 ^ 16) (by omega)
  · rw [hd]
    exact congrArg (· % 2 ^ 16) (by omega)

/-- The range of a whole word is taken for an empty one. -/
theorem Measured.full {x : ℤ} {p lo hi step : Int16} (h : Measured x step.toInt 65535 p lo hi)
    (hstep : step.toInt = 1 ∨ step.toInt = -1) : hi.toUInt16 - lo.toUInt16 + 1 = 0 := by
  have hextent := h.extent hstep (by decide)
  have hzero : (hi.toUInt16 - lo.toUInt16 + 1).toNat = 0 := by omega
  exact UInt16.toNat_inj.mp hzero

/-- Earlier positions lie between the ends. -/
theorem Measured.between {x a b : ℤ} {p lo hi step : Int16} (h : Measured x step.toInt a p lo hi)
    (hstep : step.toInt = 1 ∨ step.toInt = -1) (hb : 0 ≤ b) (hle : b ≤ a) (hsmall : a < 65535) :
    lo.toInt ≤ x + step.toInt * b ∧
      x + step.toInt * b < lo.toInt + (hi.toUInt16 - lo.toUInt16 + 1).toNat := by
  have hextent := h.extent hstep (hb.trans hle)
  rw [Int.emod_eq_of_lt (by omega) (by omega)] at hextent
  rw [hextent, h.lo]
  rcases hstep with hd | hd
  · rw [hd]
    omega
  · rw [hd]
    omega

theorem ChipLine.Proper.steps_mono (h : line.Proper) {i j : ℕ} (hij : i ≤ j) :
    (line.steps i).1 ≤ (line.steps j).1 ∧ (line.steps i).2 ≤ (line.steps j).2 := by
  have hrise := rise_mono h.ahead_pos h.side_nonneg h.side_le hij
  unfold ChipLine.steps
  cases line.horizontal
  · exact ⟨hrise, Int.ofNat_le.mpr hij⟩
  · exact ⟨Int.ofNat_le.mpr hij, hrise⟩

/-- No axis goes further than the number of steps, and one of them goes as far. -/
theorem ChipLine.Proper.steps_le (h : line.Proper) (i : ℕ) :
    ((line.steps i).1 ≤ i ∧ (line.steps i).2 ≤ i) ∧
      ((line.steps i).1 = i ∨ (line.steps i).2 = i) := by
  have hrise := rise_le h.ahead_pos h.side_nonneg h.side_le i
  unfold ChipLine.steps
  cases line.horizontal
  · exact ⟨⟨hrise, Int.le_refl _⟩, Or.inr rfl⟩
  · exact ⟨⟨Int.le_refl _, hrise⟩, Or.inl rfl⟩

end

/-! ## On a surface -/

section

variable {ri : RenderInfo} {line : ChipLine} {format : RgbfType} {width height : ℕ}

theorem ChipLine.Inside.toNat_lt (hinside : line.Inside width height) {i : ℕ}
    (hi : i < line.length.toNat) :
    (line.position i).1.toNat < width ∧ (line.position i).2.toNat < height := by
  obtain ⟨hx, hy⟩ := hinside i hi
  omega

/-- The pixels of the line are pixels of the surface. -/
theorem ChipLine.Inside.pixelStart_eq (hinside : line.Inside width height)
    (hsurface : IsSurface ri (chipFormatBpp format) width height) {i : ℕ}
    (hi : i < line.length.toNat) :
    line.pixelStart ri format i = pixelAt ri (chipFormatBpp format)
      ((line.position i).1.toNat, (line.position i).2.toNat) := by
  obtain ⟨hx, hy⟩ := hinside i hi
  obtain ⟨-, hhi⟩ := hsurface.pixel_fits (hinside.toNat_lt hi).1 (hinside.toNat_lt hi).2
  have hpos := chipFormatBpp_pos format
  have hend := hsurface.fits
  have haddr : (ri.memory + (line.position i).2 * ri.bytesPerRow +
      (line.position i).1 * chipFormatBpp format : ℤ) =
      ri.address (chipFormatBpp format) (line.position i).1.toNat (line.position i).2.toNat := by
    unfold RenderInfo.address
    push_cast
    rw [Int.toNat_of_nonneg hx.1, Int.toNat_of_nonneg hy.1]
  rw [ChipLine.pixelStart, haddr, Int.emod_eq_of_lt (by omega) (by omega), Int.toNat_natCast,
    pixelAt]

/-- Along the long axis no two pixels are at the same place. -/
theorem ChipLine.position_ne (line : ChipLine) {i j : ℕ} (hij : i ≠ j) :
    line.position i ≠ line.position j := by
  intro heq
  obtain ⟨hx, hy⟩ := Prod.mk.inj heq
  have hdx := dxStep_unit line
  have hdy := dyStep_unit line
  unfold ChipLine.steps at hx hy
  cases hlong : line.horizontal with
  | true =>
      simp only [hlong, if_true] at hx
      rcases hdx with hd | hd <;> rw [hd] at hx <;> omega
  | false =>
      simp only [hlong, Bool.false_eq_true, if_false] at hy
      rcases hdy with hd | hd <;> rw [hd] at hy <;> omega

/-- On a surface every pixel of the line is altered, each by its bit, and nothing else. -/
theorem chipDrawLine_altered (h24 : chipFormatBpp format ≠ 3)
    (hsurface : IsSurface ri (chipFormatBpp format) width height) (h : line.Proper)
    (hinside : line.Inside width height) (c : Canvas) :
    Altered (line.pixelStart ri format) (chipFormatBpp format)
      (fun i => drawn (chipFormatBpp format) line.drawMode line.fgPen line.bgPen
        (line.patternBit i)) (· < line.length.toNat) c.mem
      (chipDrawLine ri line format c).mem := by
  rw [chipDrawLine_mem h hsurface.present]
  refine (Altered.loop id (fun i _ m => ?_) fun i hi j hj => ?_).congr (fun i => ?_) fun _ _ => rfl
  · have hpixel := @expandBit_altered _ (line.pixelStart ri format) format line.drawMode line.fgPen
      line.bgPen line.patternBit i m
    rwa [penSize_eq h24] at hpixel
  · have hj' := Nat.lt_trans hj hi
    rw [id, id, hinside.pixelStart_eq hsurface hi, hinside.pixelStart_eq hsurface hj']
    apply hsurface.cells_apart (hinside.toNat_lt hj').1 (hinside.toNat_lt hi).1
    -- coordinates that are not negative are determined by their values
    intro heq
    obtain ⟨hx, hy⟩ := Prod.mk.inj heq
    obtain ⟨hxi, hyi⟩ := hinside i hi
    obtain ⟨hxj, hyj⟩ := hinside j hj'
    exact line.position_ne (Nat.ne_of_lt hj) (Prod.ext (by omega) (by omega))
  · exact ⟨fun hi => ⟨i, hi, rfl⟩, fun ⟨k, hk, heq⟩ => heq ▸ hk⟩

end

/-! ## The result -/

section

variable {ri : RenderInfo} {line : ChipLine} {format : RgbfType} {c : Canvas}

/-- One step past the last pixel still fits, and the rectangle is less than `2 ^ 16` wide. -/
def ChipLine.EndsInside (line : ChipLine) : Prop :=
  OnGrid (line.position line.length.toNat) ∧ line.length.toNat < 65535

/-- No pixel is written. -/
def ChipLine.Blank (line : ChipLine) : Prop := ∀ i < line.length.toNat, ¬ line.Writes i

theorem chipDrawLine_flushed (hpresent : ri.memory ≠ 0) :
    (chipDrawLine ri line format c).flushed =
      c.flushed ++ [(lineAfter ri line format c.mem line.length.toNat).box] := by
  rw [chipDrawLine, if_neg hpresent]

/-- A rectangle that covers a point is not empty. -/
theorem Rect.Covers.pos {r : Rect} {p : ℤ × ℤ} (h : r.Covers p) : r.w ≠ 0 ∧ r.h ≠ 0 := by
  obtain ⟨⟨hleft, hright⟩, htop, hbottom⟩ := h
  constructor
  · intro hw
    rw [hw, UInt16.toNat_zero] at hright
    omega
  · intro hh
    rw [hh, UInt16.toNat_zero] at hbottom
    omega

/-- Where the last step leaves the grid, or the rectangle is as wide as that, it is empty. -/
theorem ChipLine.Proper.box_empty (h : line.Proper) (hsome : 0 < line.length.toNat)
    (hends : ¬ line.EndsInside) :
    (lineAfter ri line format c.mem line.length.toNat).box.w = 0 ∨
      (lineAfter ri line format c.mem line.length.toNat).box.h = 0 := by
  by_cases hgrid : OnGrid (line.position line.length.toNat)
  · have hlength : line.length.toNat = 65535 := by
      have hlt := line.length.toNat_lt
      have hge : ¬ line.length.toNat < 65535 := fun hlt => hends ⟨hgrid, hlt⟩
      omega
    have hboxed : Boxed line line.length.toNat (lineAfter ri line format c.mem line.length.toNat) :=
      (h.after (Nat.le_refl _)).2 hgrid
    obtain ⟨hx, hy⟩ := hboxed
    obtain ⟨-, hfull⟩ := h.steps_le line.length.toNat
    rcases hfull with hfull | hfull
    · left
      rw [show (line.steps line.length.toNat).1 = 65535 by omega] at hx
      exact hx.full (dxStep_unit line)
    · right
      rw [show (line.steps line.length.toNat).2 = 65535 by omega] at hy
      exact hy.full (dyStep_unit line)
  · obtain ⟨last, hlast⟩ := Nat.exists_eq_succ_of_ne_zero hsome.ne'
    have hlt : last < line.length.toNat := by omega
    have hafter : Traced line last (lineAfter ri line format c.mem last) ∧
        (OnGrid (line.position last) → Boxed line last (lineAfter ri line format c.mem last)) :=
      h.after hlt.le
    obtain ⟨ht, hb⟩ := hafter
    rw [hlast] at hgrid ⊢
    rw [lineAfter_succ]
    exact h.turn_overflow ht (hb (h.fits last hlt)) (h.fits last hlt) hgrid

/-- For every proper line: the pixels, the bits of the pattern and the error term are exact, memory
changes in the pixels that are written alone, each of which holds what pattern and draw mode make
of it, and `chip_flush` is told of all of them, if and only if no pixel is written or the position
after the last one still fits and the line is not 65535 pixels long. -/
theorem line_exact_iff (ri : RenderInfo) (hpresent : ri.memory ≠ 0) (line : ChipLine)
    (h : line.Proper) (format : RgbfType) (c : Canvas) :
    ExactLine ri line format c ↔ line.Blank ∨ line.EndsInside := by
  have hafter : Traced line line.length.toNat (lineAfter ri line format c.mem line.length.toNat) ∧
      (OnGrid (line.position line.length.toNat) →
        Boxed line line.length.toNat (lineAfter ri line format c.mem line.length.toNat)) :=
    h.after (Nat.le_refl _)
  obtain ⟨ht, hb⟩ := hafter
  constructor
  · intro hexact
    by_contra hnot
    obtain ⟨hwrites, hends⟩ := not_or.mp hnot
    obtain ⟨i, hi, hwritten⟩ : ∃ i, i < line.length.toNat ∧ line.Writes i := by
      by_contra hnone
      exact hwrites fun i hi hwritten => hnone ⟨i, hi, hwritten⟩
    obtain ⟨r, hflushed, hcovers⟩ := hexact.box
    -- a written pixel makes the box that is flushed hold at least one pixel
    have hcovered := hcovers i hi hwritten
    have hr : (lineAfter ri line format c.mem line.length.toNat).box = r := by
      rw [chipDrawLine_flushed hpresent] at hflushed
      exact List.singleton_inj.mp (List.append_cancel_left hflushed)
    obtain ⟨hw, hh⟩ := hcovered.pos
    rw [← hr] at hw hh
    rcases h.box_empty (Nat.zero_lt_of_lt hi) hends with hempty | hempty
    · exact hw hempty
    · exact hh hempty
  · intro hcondition
    refine ⟨ht.length, fun i v hv => ?_, fun i hi => h.error_exact hi,
      fun a ha => chipDrawLine_untouched h hpresent c ha,
      fun i hi halone => chipDrawLine_pixel h hpresent c hi halone,
      _, chipDrawLine_flushed hpresent, fun i hi hwritten => ?_⟩
    · obtain ⟨hposition, hbit, -⟩ := ht.visits i v hv
      exact ⟨hposition, hbit⟩
    · rcases hcondition with hblank | ⟨hgrid, hshort⟩
      · exact absurd hwritten (hblank i hi)
      · -- each axis: the visits lie between the first and the last, which the box has
        have hboxed := hb hgrid
        obtain ⟨⟨hfar, hfar'⟩, -⟩ := h.steps_le line.length.toNat
        obtain ⟨hmono, hmono'⟩ := h.steps_mono hi.le
        obtain ⟨hnonneg, hnonneg'⟩ := h.steps_nonneg i
        exact ⟨hboxed.xAxis.between (dxStep_unit line) hnonneg hmono (by omega),
          hboxed.yAxis.between (dyStep_unit line) hnonneg' hmono' (by omega)⟩

/-- The last pixel of the last column. -/
def rightmostPixel : ChipLine where
  x := 32767
  y := 0
  length := 1
  dX := 1
  dY := 0
  sDelta := 0
  lDelta := 1
  twoSDminusLD := -1
  linePtrn := 0xFFFF
  patternShift := 0
  fgPen := 1
  bgPen := 0
  horizontal := true
  drawMode := 0

theorem rightmostPixel_proper : rightmostPixel.Proper where
  side_nonneg := by decide
  side_le := by decide
  ahead_pos := by decide
  ahead_le := by decide
  start := by decide
  fits i hi := by
    obtain rfl : i = 0 := Nat.lt_one_iff.mp hi
    exact ⟨⟨by decide, by decide⟩, by decide, by decide⟩

/-- One pixel at the end of the range of words: `chip_flush` is told of nothing. -/
theorem rightmostPixel_not_flushed :
    rightmostPixel.Proper ∧
      ¬ ExactLine ⟨0x1000, 4, .clut⟩ rightmostPixel .clut ⟨fun _ => 0, []⟩ := by
  refine ⟨rightmostPixel_proper, fun hexact => ?_⟩
  obtain ⟨r, hflushed, hcovers⟩ := hexact.box
  have hr : r = ⟨-32768, 0, 0, 1⟩ := (List.singleton_inj.mp hflushed).symm.trans (by decide)
  have hcovered := hcovers 0 (by decide) (Or.inl (by decide))
  rw [hr] at hcovered
  exact hcovered.pos.1 rfl

/-- A slanted line with gaps. -/
def dashedLine : ChipLine where
  x := 10
  y := 20
  length := 8
  dX := 7
  dY := -3
  sDelta := 3
  lDelta := 7
  twoSDminusLD := -1
  linePtrn := 0xF0F0
  patternShift := 2
  fgPen := 1
  bgPen := 0
  horizontal := true
  drawMode := 0

theorem line_exact_dashed :
    dashedLine.Proper ∧ ExactLine ⟨0x1000, 64, .clut⟩ dashedLine .clut ⟨fun _ => 0, []⟩ := by
  have hgrid : ∀ i < 9, OnGrid (dashedLine.position i) := by decide
  have hproper : dashedLine.Proper :=
    ⟨by decide, by decide, by decide, by decide, by decide,
      fun i hi => hgrid i (Nat.lt_succ_of_lt hi)⟩
  refine ⟨hproper, (line_exact_iff _ (by decide) _ hproper _ _).mpr (Or.inr ⟨?_, by decide⟩)⟩
  exact hgrid 8 (by decide)

end

end VirtIOGPU.Drawing
