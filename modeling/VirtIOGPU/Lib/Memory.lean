import Mathlib.Data.List.Basic
import Mathlib.Data.Nat.Notation
import Mathlib.Logic.Function.Basic

/-!
# Ranges of a flat memory

A memory gives a value at every address.  `overwrite` is the memory after a range has been
written as a whole.  A loop that writes the range in pieces of `c` addresses is brought to that
form: `copyUp_eq` and `copyDown_eq` say when a copy in ascending or descending order leaves what
the range had before the loop, and `mapped_append` is the step of one that changes a range in place.

`Painted` is the same for a rectangle: some rows of it have been written, each as a whole.  A
program of which only the place is known where it writes is `Confined` to a range; so is what is
done one after the other or in a loop.

```text
overwrite   one range, with all its values
copyUp      a range in pieces, in ascending order    to a lower place, or apart
copyDown    a range in pieces, in descending order   to a higher place, or apart
mapped      a range in pieces, in its own place      each piece from itself
Painted     some rows of a rectangle, with their values
Confined    a range, with nothing said of its values
```
-/

namespace Lib.Memory

variable {β σ : Type*}

abbrev Mem (β : Type*) := ℕ → β

/-- The `len` addresses from `start` on get the values of `f`. -/
def overwrite (start len : ℕ) (f : ℕ → β) (m : Mem β) : Mem β := fun a =>
  if start ≤ a ∧ a < start + len then f (a - start) else m a

variable {start len k l : ℕ} {f g : ℕ → β} {m : Mem β}

theorem overwrite_inside {i : ℕ} (hi : i < len) : overwrite start len f m (start + i) = f i := by
  rw [overwrite, if_pos (by omega), Nat.add_sub_cancel_left]

theorem overwrite_outside {a : ℕ} (ha : a < start ∨ start + len ≤ a) :
    overwrite start len f m a = m a :=
  if_neg (by omega)

@[simp] theorem overwrite_zero : overwrite start 0 f m = m := by
  funext a
  exact overwrite_outside (by omega)

theorem overwrite_congr (h : ∀ i < len, f i = g i) :
    overwrite start len f m = overwrite start len g m := by
  funext a
  unfold overwrite
  split
  · exact h _ (by omega)
  · rfl

/-- Two ranges side by side. -/
theorem overwrite_append :
    overwrite (start + k) l (fun i => f (k + i)) (overwrite start k f m) =
      overwrite start (k + l) f m := by
  funext a
  unfold overwrite
  by_cases hsecond : start + k ≤ a ∧ a < start + k + l
  · rw [if_pos hsecond, if_pos (by omega)]
    exact congrArg f (by omega)
  · rw [if_neg hsecond]
    by_cases hfirst : start ≤ a ∧ a < start + k
    · rw [if_pos hfirst, if_pos (by omega)]
    · rw [if_neg hfirst, if_neg (by omega)]

theorem overwrite_prepend :
    overwrite start k f (overwrite (start + k) l (fun i => f (k + i)) m) =
      overwrite start (k + l) f m := by
  funext a
  unfold overwrite
  by_cases hfirst : start ≤ a ∧ a < start + k
  · rw [if_pos hfirst, if_pos (by omega)]
  · rw [if_neg hfirst]
    by_cases hsecond : start + k ≤ a ∧ a < start + k + l
    · rw [if_pos hsecond, if_pos (by omega)]
      exact congrArg f (by omega)
    · rw [if_neg hsecond, if_neg (by omega)]

/-! ## Counted loops -/

/-- The body for 0, 1, …, `n - 1`. -/
def up (n : ℕ) (body : ℕ → σ → σ) (s : σ) : σ := (List.range n).foldl (fun s i => body i s) s

/-- The body for `n - 1`, …, 1, 0. -/
def down (n : ℕ) (body : ℕ → σ → σ) (s : σ) : σ := (List.range n).foldr body s

variable {n : ℕ} {body : ℕ → σ → σ}

@[simp] theorem up_zero (s : σ) : up 0 body s = s := rfl

theorem up_succ (s : σ) : up (n + 1) body s = body n (up n body s) := by
  rw [up, List.range_succ, List.foldl_append]
  rfl

theorem down_succ (s : σ) : down (n + 1) body s = down n body (body n s) := by
  rw [down, List.range_succ, List.foldr_append]
  rfl

/-- What every turn preserves. -/
theorem up_induction {P : ℕ → σ → Prop} {s : σ} (hs : P 0 s)
    (hstep : ∀ i < n, ∀ t, P i t → P (i + 1) (body i t)) : P n (up n body s) := by
  induction n with
  | zero => exact hs
  | succ n ih =>
      rw [up_succ]
      exact hstep n (Nat.lt_succ_self n) _ (ih fun i hi => hstep i (Nat.lt_succ_of_lt hi))

theorem down_induction {P : ℕ → σ → Prop} {s : σ} (hs : P n s)
    (hstep : ∀ i < n, ∀ t, P (i + 1) t → P i (body i t)) : P 0 (down n body s) := by
  induction n generalizing s with
  | zero => exact hs
  | succ n ih =>
      rw [down_succ]
      exact ih (hstep n (Nat.lt_succ_self n) s hs) fun i hi => hstep i (Nat.lt_succ_of_lt hi)

/-- A loop that writes a range element by element. -/
theorem up_update (n : ℕ) (f : ℕ → β) (m : Mem β) :
    up n (fun i m => Function.update m i (f i)) m = overwrite 0 n f m := by
  apply up_induction (P := fun i m' => m' = overwrite 0 i f m)
  · simp
  · rintro i - _ rfl
    funext a
    by_cases ha : a = i
    · subst ha
      rw [Function.update_self, overwrite, if_pos (by omega), Nat.sub_zero]
    · rw [Function.update_of_ne ha, overwrite, overwrite]
      exact if_congr (by omega) rfl rfl

/-! ## Copying in pieces -/

/-- Copy the piece `i` of `c` addresses; it is read as a whole before it is written. -/
def copyPiece (c src dst i : ℕ) (m : Mem β) : Mem β :=
  overwrite (dst + c * i) c (fun k => m (src + c * i + k)) m

/-- The range `[dst, dst + len)` after it has been copied from `src`. -/
def copied (src dst len : ℕ) (m : Mem β) : Mem β := overwrite dst len (fun i => m (src + i)) m

/-- In ascending order a range may be copied to a lower place. -/
theorem copyUp_eq {c src dst n : ℕ} (h : dst ≤ src ∨ src + c * n ≤ dst) :
    up n (copyPiece c src dst) m = copied src dst (c * n) m := by
  apply up_induction (P := fun i t => t = copied src dst (c * i) m)
  · rw [Nat.mul_zero]
    exact overwrite_zero.symm
  · rintro i hi t rfl
    have hlast : c * i + c ≤ c * n := by
      rw [← Nat.mul_succ]
      exact Nat.mul_le_mul_left c hi
    have hread : ∀ k < c, copied src dst (c * i) m (src + c * i + k) = m (src + (c * i + k)) := by
      intro k hk
      rw [copied, overwrite_outside (by omega), Nat.add_assoc]
    rw [copyPiece, overwrite_congr hread, copied, copied, Nat.mul_succ]
    exact overwrite_append

/-- In descending order a range may be copied to a higher place. -/
theorem copyDown_eq {c src dst n : ℕ} (h : src ≤ dst ∨ dst + c * n ≤ src) :
    down n (copyPiece c src dst) m = copied src dst (c * n) m := by
  have hall : down n (copyPiece c src dst) m =
      overwrite (dst + c * 0) (c * (n - 0)) (fun k => m (src + (c * 0 + k))) m := by
    apply down_induction
      (P := fun i t => t = overwrite (dst + c * i) (c * (n - i)) (fun k => m (src + (c * i + k))) m)
    · rw [Nat.sub_self, Nat.mul_zero]
      exact overwrite_zero.symm
    · rintro i hi t rfl
      have hnext : c * (i + 1) = c * i + c := Nat.mul_succ c i
      have hrest : c * (n - i) = c + c * (n - (i + 1)) := by
        rw [Nat.add_comm, ← Nat.mul_succ, ← Nat.sub_sub, Nat.succ_eq_add_one,
          Nat.sub_add_cancel (by omega)]
      have hlast : c * i + c ≤ c * n := by
        rw [← Nat.mul_succ]
        exact Nat.mul_le_mul_left c hi
      rw [copyPiece, hnext, hrest, ← overwrite_prepend, Nat.add_assoc dst]
      have hread : ∀ k < c,
          overwrite (dst + (c * i + c)) (c * (n - (i + 1))) (fun k => m (src + (c * i + c + k))) m
            (src + c * i + k) = m (src + (c * i + k)) := by
        intro k hk
        rw [overwrite_outside ?_, Nat.add_assoc]
        have hend : c * (n - (i + 1)) + (c * i + c) = c * n := by
          rw [← Nat.mul_succ, ← Nat.mul_add]
          congr 1
          omega
        omega
      rw [overwrite_congr hread]
      congr 1
      funext a
      exact congrArg (fun f => overwrite _ _ f m a) (by funext k; congr 1; omega)
  rw [hall, copied, Nat.mul_zero, Nat.add_zero, Nat.sub_zero]
  exact overwrite_congr fun i _ => by rw [Nat.zero_add]

/-! ## Changing a range in place -/

/-- Change the piece `i` of `c` addresses. -/
def mapPiece (op : β → β) (c dst i : ℕ) (m : Mem β) : Mem β :=
  overwrite (dst + c * i) c (fun k => op (m (dst + c * i + k))) m

def mapped (op : β → β) (dst len : ℕ) (m : Mem β) : Mem β :=
  overwrite dst len (fun i => op (m (dst + i))) m

/-- The range that has been changed grows by the piece behind it. -/
theorem mapped_append {op : β → β} {dst : ℕ} :
    mapped op (dst + k) l (mapped op dst k m) = mapped op dst (k + l) m := by
  have hread : ∀ i < l, op (mapped op dst k m (dst + k + i)) = op (m (dst + (k + i))) := by
    intro i hi
    rw [mapped, overwrite_outside (by omega), Nat.add_assoc]
  rw [mapped, overwrite_congr hread, mapped, mapped]
  exact overwrite_append

/-! ## Rows of a rectangle -/

theorem rows_apart (dst : ℕ) {stride row row' : ℕ} (hrow : row < row') (hlen : len ≤ stride) :
    dst + row * stride + len ≤ dst + row' * stride := by
  have hnext : (row + 1) * stride ≤ row' * stride := Nat.mul_le_mul_right stride hrow
  rw [Nat.succ_mul] at hnext
  omega

/-- In `t` the given rows have the values of `f`, and everything else is as in `m`. -/
structure Painted (dst stride len : ℕ) (rows : ℕ → Prop) (f : ℕ → ℕ → β) (m t : Mem β) : Prop where
  inside : ∀ row, rows row → ∀ i < len, t (dst + row * stride + i) = f row i
  outside : ∀ a, (∀ row, rows row → a < dst + row * stride ∨ dst + row * stride + len ≤ a) →
    t a = m a

namespace Painted

variable {dst stride row : ℕ} {rows rows' : ℕ → Prop} {f : ℕ → ℕ → β} {t : Mem β}

theorem of_none (hnone : ∀ r, ¬ rows r) : Painted dst stride len rows f m m where
  inside r hr := absurd hr (hnone r)
  outside _ _ := rfl

/-- One more row. -/
theorem step (h : Painted dst stride len rows f m t) (hlen : len ≤ stride)
    (hrows : ∀ r, rows' r ↔ rows r ∨ r = row) :
    Painted dst stride len rows' f m (overwrite (dst + row * stride) len (f row) t) where
  inside r hr i hi := by
    by_cases hsame : r = row
    · rw [hsame, overwrite_inside hi]
    · have hold : rows r := ((hrows r).mp hr).resolve_right hsame
      rw [overwrite_outside, h.inside r hold i hi]
      rcases Nat.lt_or_gt_of_ne hsame with hlt | hgt
      · have hapart := rows_apart dst hlt hlen
        omega
      · have hapart := rows_apart dst hgt hlen
        omega
  outside a ha := by
    rw [overwrite_outside (ha row ((hrows row).mpr (Or.inr rfl)))]
    exact h.outside a fun r hr => ha r ((hrows r).mpr (Or.inl hr))

end Painted

/-! ## Writes inside a range -/

/-- From `m` to `t` nothing outside `[lo, hi)` changes. -/
def Confined (lo hi : ℕ) (m t : Mem β) : Prop := ∀ a, a < lo ∨ hi ≤ a → t a = m a

namespace Confined

variable {lo hi : ℕ} {t u : Mem β}

theorem refl : Confined lo hi m m := fun _ _ => rfl

theorem trans (h : Confined lo hi m t) (h' : Confined lo hi t u) : Confined lo hi m u :=
  fun a ha => (h' a ha).trans (h a ha)

theorem overwrite (hstart : lo ≤ start) (hend : start + len ≤ hi) :
    Confined lo hi m (overwrite start len f m) :=
  fun a ha => overwrite_outside (by omega)

theorem up {body : ℕ → Mem β → Mem β} (hbody : ∀ i < n, ∀ t, Confined lo hi t (body i t)) :
    Confined lo hi m (up n body m) :=
  up_induction (P := fun _ t => Confined lo hi m t) refl fun i hi t ht => ht.trans (hbody i hi t)

end Confined

end Lib.Memory
