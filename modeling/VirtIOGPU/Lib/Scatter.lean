import Mathlib.Algebra.BigOperators.Group.List.Basic
import Mathlib.Algebra.GroupWithZero.Nat
import Mathlib.Data.Nat.Notation

/-!
# Scattered buffers

A buffer that lies in several pieces is a list of pieces, each with a length.  `locate` says in
which piece a byte is, and where in it.  A part of the list stands for the first `n` bytes of the
buffer (`FindsAll`) if it finds each of them where the whole list does; for the first pieces of the
list that is a question of their length (`findsAll_take_iff`).
-/

namespace Lib.Scatter

variable {ε : Type*} (length : ε → ℕ)

/-- The piece of byte `i`, and the offset in it. -/
def locate : List ε → ℕ → Option (ε × ℕ)
  | [], _ => none
  | piece :: rest, i =>
      if i < length piece then some (piece, i) else locate rest (i - length piece)

/-- The bytes of all pieces. -/
def total (pieces : List ε) : ℕ := (pieces.map length).sum

/-- The part finds the first `n` bytes where the whole does. -/
def FindsAll (part whole : List ε) (n : ℕ) : Prop :=
  ∀ i < n, locate length part i ≠ none ∧ locate length part i = locate length whole i

variable {length} {pieces : List ε} {i n : ℕ}

@[simp] theorem total_nil : total length ([] : List ε) = 0 := rfl

@[simp] theorem total_cons (piece : ε) (pieces : List ε) :
    total length (piece :: pieces) = length piece + total length pieces :=
  List.sum_cons

theorem locate_ne_none_iff : locate length pieces i ≠ none ↔ i < total length pieces := by
  induction pieces generalizing i with
  | nil => simp [locate]
  | cons piece rest ih =>
      rw [locate, total_cons]
      by_cases hfirst : i < length piece
      · rw [if_pos hfirst]
        exact iff_of_true (Option.some_ne_none _) (by omega)
      · rw [if_neg hfirst, ih]
        omega

/-- The first pieces find what they hold where the whole list does. -/
theorem locate_take (k : ℕ) (h : i < total length (pieces.take k)) :
    locate length (pieces.take k) i = locate length pieces i := by
  induction pieces generalizing i k with
  | nil => rw [List.take_nil]
  | cons piece rest ih =>
      cases k with
      | zero => exact absurd h (Nat.not_lt_zero i)
      | succ k =>
          rw [List.take_succ_cons] at h ⊢
          rw [total_cons] at h
          rw [locate, locate]
          by_cases hfirst : i < length piece
          · rw [if_pos hfirst, if_pos hfirst]
          · rw [if_neg hfirst, if_neg hfirst]
            exact ih k (by omega)

theorem findsAll_take_iff (pieces : List ε) (k n : ℕ) :
    FindsAll length (pieces.take k) pieces n ↔ n ≤ total length (pieces.take k) := by
  constructor
  · intro h
    by_contra hshort
    rw [Nat.not_le] at hshort
    -- the byte behind the pieces
    exact absurd (locate_ne_none_iff.mp (h _ hshort).1) (Nat.lt_irrefl _)
  · intro h i hi
    have hheld : i < total length (pieces.take k) := Nat.lt_of_lt_of_le hi h
    exact ⟨locate_ne_none_iff.mpr hheld, locate_take k hheld⟩

end Lib.Scatter
