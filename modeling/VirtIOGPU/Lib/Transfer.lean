import VirtIOGPU.Lib.Memory

/-!
# Transfers one after the other

Turn `i` of the loop reads a range of memory, computes, and writes another range.  What it writes
stays when the written ranges do not overlap (`Separate`).  It is computed from the memory before
the loop when no earlier turn has written into the range that it reads (`ReadsFirst`); otherwise
there is a memory on which it is not (`perform_marked`).
-/

namespace Lib.Memory

variable {β σ : Type*}

/-! ## Nested loops -/

theorem up_congr {n : ℕ} {body body' : ℕ → σ → σ} {s : σ} (h : ∀ i < n, body i = body' i) :
    up n body s = up n body' s := by
  induction n with
  | zero => rfl
  | succ n ih =>
      rw [up_succ, up_succ, h n (Nat.lt_succ_self n), ih fun i hi => h i (Nat.lt_succ_of_lt hi)]

theorem up_add {n k : ℕ} {body : ℕ → σ → σ} {s : σ} :
    up (n + k) body s = up k (fun i => body (n + i)) (up n body s) := by
  induction k with
  | zero => rfl
  | succ k ih => rw [← Nat.add_assoc, up_succ, up_succ, ih]

/-- A loop over rows and columns counts the elements row by row. -/
theorem up_mul {w h : ℕ} {body : ℕ → ℕ → σ → σ} {s : σ} :
    up (h * w) (fun i => body (i / w) (i % w)) s = up h (fun row => up w (body row)) s := by
  induction h with
  | zero => rw [Nat.zero_mul, up_zero, up_zero]
  | succ h ih =>
      rw [Nat.succ_mul, up_add, ih, up_succ]
      apply up_congr
      intro col hcol
      have hpos : 0 < w := by omega
      rw [Nat.mul_comm, Nat.mul_add_div hpos, Nat.mul_add_mod, Nat.div_eq_of_lt hcol,
        Nat.mod_eq_of_lt hcol, Nat.add_zero]

/-! ## Transfers -/

/-- Two ranges have no address in common. -/
def Apart (start len start' len' : ℕ) : Prop := start + len ≤ start' ∨ start' + len' ≤ start

/-- Where a turn reads and writes, and what it computes from the values that it has read. -/
structure Transfers (β : Type*) where
  src : ℕ → ℕ
  dst : ℕ → ℕ
  readLen : ℕ
  len : ℕ
  out : (ℕ → β) → ℕ → β
  /-- Nothing else is read. -/
  out_congr : ∀ f g, (∀ k < readLen, f k = g k) → ∀ k, out f k = out g k

namespace Transfers

variable {t : Transfers β} {n i j : ℕ} {m : Mem β}

/-- What turn `i` reads. -/
def input (t : Transfers β) (m : Mem β) (i : ℕ) : ℕ → β := fun k => m (t.src i + k)

def turn (t : Transfers β) (i : ℕ) (m : Mem β) : Mem β :=
  overwrite (t.dst i) t.len (t.out (t.input m i)) m

def perform (t : Transfers β) (n : ℕ) (m : Mem β) : Mem β := up n t.turn m

/-- The written ranges do not overlap. -/
def Separate (t : Transfers β) (n : ℕ) : Prop :=
  ∀ i < n, ∀ j < i, Apart (t.dst j) t.len (t.dst i) t.len

/-- No turn before `i` writes what turn `i` reads. -/
def ReadsFirst (t : Transfers β) (i : ℕ) : Prop :=
  ∀ j < i, Apart (t.dst j) t.len (t.src i) t.readLen

/-- An address that no turn writes. -/
theorem perform_outside {a : ℕ} (h : ∀ i < n, a < t.dst i ∨ t.dst i + t.len ≤ a) :
    t.perform n m a = m a := by
  induction n with
  | zero => rfl
  | succ n ih =>
      rw [perform, up_succ, turn, overwrite_outside (h n (Nat.lt_succ_self n))]
      exact ih fun i hi => h i (Nat.lt_succ_of_lt hi)

/-- What a turn has written stays. -/
theorem perform_inside (hseparate : t.Separate n) (hi : i < n) {k : ℕ} (hk : k < t.len) :
    t.perform n m (t.dst i + k) = t.out (t.input (t.perform i m) i) k := by
  induction n with
  | zero => exact absurd hi (Nat.not_lt_zero i)
  | succ n ih =>
      rw [perform, up_succ, turn]
      rcases Nat.lt_succ_iff_lt_or_eq.mp hi with hlt | rfl
      · have hapart := hseparate n (Nat.lt_succ_self n) i hlt
        unfold Apart at hapart
        rw [overwrite_outside (by omega)]
        exact ih (fun i hi j hj => hseparate i (Nat.lt_succ_of_lt hi) j hj) hlt
      · exact overwrite_inside hk

/-- A turn that reads first reads what was there before the loop. -/
theorem perform_input (hreads : t.ReadsFirst i) {k : ℕ} (hk : k < t.readLen) :
    t.input (t.perform i m) i k = t.input m i k := by
  apply perform_outside
  intro j hj
  have hapart := hreads j hj
  unfold Apart at hapart
  omega

theorem perform_eq (hseparate : t.Separate n) (hi : i < n) (hreads : t.ReadsFirst i) {k : ℕ}
    (hk : k < t.len) : t.perform n m (t.dst i + k) = t.out (t.input m i) k := by
  rw [perform_inside hseparate hi hk]
  exact t.out_congr _ _ (fun l hl => perform_input hreads hl) k

/-! ## The same loop again -/

/-- `blank` everywhere but at one address. -/
def marked (blank mark : β) (s : ℕ) : Mem β := fun a => if a = s then mark else blank

/-- While nobody reads the mark, only blanks are written. -/
theorem perform_blank {blank : β} (mark : β) {s : ℕ}
    (hblank : ∀ k, t.out (fun _ => blank) k = blank)
    (hunread : ∀ j < n, s < t.src j ∨ t.src j + t.readLen ≤ s) :
    (∀ a ≠ s, t.perform n (marked blank mark s) a = blank) ∧
      ((∃ j < n, t.dst j ≤ s ∧ s < t.dst j + t.len) →
        t.perform n (marked blank mark s) s = blank) := by
  induction n with
  | zero =>
      refine ⟨fun a ha => if_neg ha, ?_⟩
      rintro ⟨j, hj, -⟩
      exact absurd hj (Nat.not_lt_zero j)
  | succ n ih =>
      obtain ⟨hothers, hmark⟩ := ih fun j hj => hunread j (Nat.lt_succ_of_lt hj)
      -- a turn reads blanks, so it writes blanks
      have hwrites : ∀ k, t.out (t.input (t.perform n (marked blank mark s)) n) k = blank := by
        intro k
        rw [t.out_congr _ (fun _ => blank) ?_, hblank]
        intro l hl
        have hplace := hunread n (Nat.lt_succ_self n)
        exact hothers _ (by omega)
      have hturn (a : ℕ) (ha : t.dst n ≤ a ∧ a < t.dst n + t.len) :
          t.perform (n + 1) (marked blank mark s) a = blank := by
        rw [perform, up_succ, turn, overwrite, if_pos ha]
        exact hwrites _
      have hkept (a : ℕ) (ha : ¬ (t.dst n ≤ a ∧ a < t.dst n + t.len)) :
          t.perform (n + 1) (marked blank mark s) a = t.perform n (marked blank mark s) a := by
        rw [perform, up_succ, turn, overwrite, if_neg ha]
        rfl
      constructor
      · intro a ha
        by_cases hin : t.dst n ≤ a ∧ a < t.dst n + t.len
        · exact hturn a hin
        · rw [hkept a hin]
          exact hothers a ha
      · rintro ⟨j, hj, hplace⟩
        by_cases hin : t.dst n ≤ s ∧ s < t.dst n + t.len
        · exact hturn s hin
        · rw [hkept s hin]
          apply hmark
          -- it was an earlier turn
          rcases Nat.lt_succ_iff_lt_or_eq.mp hj with hlt | rfl
          · exact ⟨j, hlt, hplace⟩
          · exact absurd hplace hin

/-- The mark is overwritten before turn `i` reads it, so turn `i` writes blanks as well. -/
theorem perform_marked {blank mark : β} {s : ℕ} (hseparate : t.Separate n) (hi : i < n)
    (hblank : ∀ k, t.out (fun _ => blank) k = blank)
    (hunread : ∀ j < i, s < t.src j ∨ t.src j + t.readLen ≤ s)
    (hwritten : ∃ j < i, t.dst j ≤ s ∧ s < t.dst j + t.len) {k : ℕ} (hk : k < t.len) :
    t.perform n (marked blank mark s) (t.dst i + k) = blank := by
  obtain ⟨hothers, hmark⟩ := perform_blank mark hblank hunread
  rw [perform_inside hseparate hi hk, t.out_congr _ (fun _ => blank) ?_, hblank]
  intro l _
  rw [input]
  by_cases hs : t.src i + l = s
  · rw [hs]
    exact hmark hwritten
  · exact hothers _ hs

end Transfers

end Lib.Memory
