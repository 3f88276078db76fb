import Mathlib.Data.Int.Basic
import Mathlib.Tactic.Linarith

/-!
# Bresenham's recurrence

A line that goes `s` steps to the side on `l` steps ahead.  `rise s l i` is the number of steps to
the side after `i` steps ahead, `⌈(2is - l) / 2l⌉`.  The line is drawn without division: an error
term says whether the next step goes to the side (`rise_succ`), and it is bounded
(`error_bounds`).
-/

namespace Lib.Bresenham

/-- `⌈(2is - l) / 2l⌉`. -/
def rise (s l : ℤ) (i : ℕ) : ℤ := -((l - 2 * i * s) / (2 * l))

/-- The error term after `i` steps ahead. -/
def error (s l : ℤ) (i : ℕ) : ℤ := 2 * s - l + 2 * i * s - 2 * l * rise s l i

variable {s l : ℤ} {i : ℕ}

theorem rise_bounds (hl : 0 < l) (s : ℤ) (i : ℕ) :
    2 * l * rise s l i - 2 * l < 2 * i * s - l ∧ 2 * i * s - l ≤ 2 * l * rise s l i := by
  have hle := Int.mul_ediv_self_le (x := l - 2 * i * s) (k := 2 * l) (by omega)
  have hlt := Int.lt_mul_ediv_self_add (x := l - 2 * i * s) (k := 2 * l) (by omega)
  have hrise : 2 * l * rise s l i = -(2 * l * ((l - 2 * i * s) / (2 * l))) := by
    rw [rise, Int.mul_neg]
  rw [hrise]
  constructor
  · linarith
  · linarith

theorem rise_unique (hl : 0 < l) {k : ℤ} (hlow : 2 * l * k - 2 * l < 2 * i * s - l)
    (hhigh : 2 * i * s - l ≤ 2 * l * k) : rise s l i = k := by
  obtain ⟨hlow', hhigh'⟩ := rise_bounds hl s i
  have hone : 2 * l * rise s l i < 2 * l * (k + 1) := by linarith
  have hother : 2 * l * k < 2 * l * (rise s l i + 1) := by linarith
  have hone' := lt_of_mul_lt_mul_left hone (by omega)
  have hother' := lt_of_mul_lt_mul_left hother (by omega)
  omega

theorem rise_zero (hl : 0 < l) (s : ℤ) : rise s l 0 = 0 := by
  apply rise_unique hl
  · push_cast
    linarith
  · push_cast
    linarith

theorem error_zero (hl : 0 < l) (s : ℤ) : error s l 0 = 2 * s - l := by
  rw [error, rise_zero hl]
  push_cast
  linarith

theorem error_bounds (hl : 0 < l) (s : ℤ) (i : ℕ) :
    2 * s - 2 * l < error s l i ∧ error s l i ≤ 2 * s := by
  obtain ⟨hlow, hhigh⟩ := rise_bounds hl s i
  unfold error
  constructor
  · linarith
  · linarith

/-- The next step goes to the side when the error term is positive. -/
theorem rise_succ (hl : 0 < l) (hs : 0 ≤ s) (hle : s ≤ l) (i : ℕ) :
    rise s l (i + 1) = if 0 < error s l i then rise s l i + 1 else rise s l i := by
  obtain ⟨hlow, hhigh⟩ := rise_bounds hl s i
  split
  · next hpos =>
    unfold error at hpos
    apply rise_unique hl
    · push_cast
      linarith
    · push_cast
      linarith
  · next hnot =>
    unfold error at hnot
    apply rise_unique hl
    · push_cast
      linarith
    · push_cast
      linarith

theorem error_succ (hl : 0 < l) (hs : 0 ≤ s) (hle : s ≤ l) (i : ℕ) :
    error s l (i + 1) =
      (if 0 < error s l i then error s l i - 2 * l else error s l i) + 2 * s := by
  have hrise := rise_succ hl hs hle i
  split
  · next hpos =>
    rw [if_pos hpos] at hrise
    unfold error
    rw [hrise]
    push_cast
    linarith
  · next hnot =>
    rw [if_neg hnot] at hrise
    unfold error
    rw [hrise]
    push_cast
    linarith

/-- The line never goes back, and no further to the side than ahead. -/
theorem rise_mono (hl : 0 < l) (hs : 0 ≤ s) (hle : s ≤ l) {j : ℕ} (hij : i ≤ j) :
    rise s l i ≤ rise s l j := by
  induction hij with
  | refl => exact Int.le_refl _
  | step _ ih =>
      rw [rise_succ hl hs hle]
      split
      · omega
      · exact ih

theorem rise_nonneg (hl : 0 < l) (hs : 0 ≤ s) (hle : s ≤ l) (i : ℕ) : 0 ≤ rise s l i := by
  rw [← rise_zero hl s]
  exact rise_mono hl hs hle (Nat.zero_le i)

theorem rise_le (hl : 0 < l) (hs : 0 ≤ s) (hle : s ≤ l) (i : ℕ) : rise s l i ≤ i := by
  induction i with
  | zero => exact (rise_zero hl s).le
  | succ i ih =>
      rw [rise_succ hl hs hle]
      push_cast
      split
      · omega
      · omega

end Lib.Bresenham
