import Mathlib.Data.Nat.Digits.Lemmas

/-!
# Byte order

Fixed-width unsigned numbers as byte lists, in both orders.  `toLE width x` is
the little-endian encoding of `x` in `width` bytes, `toBE width x` the
big-endian one, and `swap width x` is the number a little-endian reader sees
where a big-endian writer stored `x`.

The one fact every byte-swapping program rests on is `swap_swap`: a number that
fits in `width` bytes survives being swapped twice.
-/

namespace Lib.ByteOrder

/-- The `width` low bytes of `x`, least significant byte first. -/
def toLE : ℕ → ℕ → List ℕ
  | 0, _ => []
  | width + 1, x => x % 256 :: toLE width (x / 256)

/-- The number that a little-endian reader sees in a byte list. -/
def ofLE (bytes : List ℕ) : ℕ :=
  bytes.foldr (fun byte rest => byte + 256 * rest) 0

/-- The `width` low bytes of `x`, most significant byte first. -/
def toBE (width x : ℕ) : List ℕ :=
  (toLE width x).reverse

/-- The number that a big-endian reader sees in a byte list. -/
def ofBE (bytes : List ℕ) : ℕ :=
  ofLE bytes.reverse

/-- What a little-endian reader sees where a big-endian writer stored `x`. -/
def swap (width x : ℕ) : ℕ :=
  ofLE (toBE width x)

/-! ## Encoding and decoding -/

@[simp] theorem length_toLE (width x : ℕ) : (toLE width x).length = width := by
  induction width generalizing x with
  | zero => rfl
  | succ width ih => simp [toLE, ih]

@[simp] theorem length_toBE (width x : ℕ) : (toBE width x).length = width := by
  simp [toBE]

theorem lt_of_mem_toLE {width x byte : ℕ} (h : byte ∈ toLE width x) : byte < 256 := by
  induction width generalizing x with
  | zero => simp [toLE] at h
  | succ width ih =>
      rcases List.mem_cons.mp h with rfl | h
      · exact Nat.mod_lt _ (by norm_num)
      · exact ih h

theorem ofLE_eq_ofDigits (bytes : List ℕ) : ofLE bytes = Nat.ofDigits 256 bytes := by
  simp [ofLE, Nat.ofDigits_eq_foldr]

/-- Decoding an encoding keeps the low `width` bytes. -/
theorem ofLE_toLE (width x : ℕ) : ofLE (toLE width x) = x % 256 ^ width := by
  induction width generalizing x with
  | zero => simp [toLE, ofLE, Nat.mod_one]
  | succ width ih =>
      have hcons : ofLE (toLE (width + 1) x) = x % 256 + 256 * ofLE (toLE width (x / 256)) := rfl
      rw [hcons, ih, pow_succ', Nat.mod_mul]

theorem ofBE_toBE (width x : ℕ) : ofBE (toBE width x) = x % 256 ^ width := by
  simp [ofBE, toBE, ofLE_toLE]

/-- Encoding what was decoded gives the bytes back. -/
theorem toLE_ofLE {bytes : List ℕ} (h : ∀ byte ∈ bytes, byte < 256) :
    toLE bytes.length (ofLE bytes) = bytes := by
  induction bytes with
  | nil => rfl
  | cons byte rest ih =>
      have hbyte : byte < 256 := h byte (List.mem_cons_self ..)
      have hcons : ofLE (byte :: rest) = byte + 256 * ofLE rest := rfl
      have hlow : (byte + 256 * ofLE rest) % 256 = byte := by omega
      have hhigh : (byte + 256 * ofLE rest) / 256 = ofLE rest := by omega
      simp only [List.length_cons, toLE, hcons, hlow, hhigh]
      rw [ih fun other hother => h other (List.mem_cons_of_mem _ hother)]

theorem ofLE_lt {bytes : List ℕ} (h : ∀ byte ∈ bytes, byte < 256) :
    ofLE bytes < 256 ^ bytes.length := by
  rw [ofLE_eq_ofDigits]
  exact Nat.ofDigits_lt_base_pow_length (by norm_num) h

/-! ## Swapping -/

theorem swap_lt (width x : ℕ) : swap width x < 256 ^ width := by
  have hbytes : ∀ byte ∈ toBE width x, byte < 256 := fun byte hbyte =>
    lt_of_mem_toLE (List.mem_reverse.mp hbyte)
  simpa [swap] using ofLE_lt hbytes

theorem toLE_swap (width x : ℕ) : toLE width (swap width x) = toBE width x := by
  have hbytes : ∀ byte ∈ toBE width x, byte < 256 := fun byte hbyte =>
    lt_of_mem_toLE (List.mem_reverse.mp hbyte)
  simpa [swap] using toLE_ofLE hbytes

/-- Swapping twice gives back the low `width` bytes. -/
theorem swap_swap (width x : ℕ) : swap width (swap width x) = x % 256 ^ width := by
  rw [swap, toBE, toLE_swap, toBE, List.reverse_reverse, ofLE_toLE]

theorem ofLE_replicate_zero (count : ℕ) : ofLE (List.replicate count 0) = 0 := by
  induction count with
  | zero => rfl
  | succ count ih =>
      simp only [ofLE, List.replicate_succ, List.foldr_cons] at ih ⊢
      omega

@[simp] theorem swap_zero (width : ℕ) : swap width 0 = 0 := by
  have hzero : toLE width 0 = List.replicate width 0 := by
    induction width with
    | zero => rfl
    | succ width ih => simp [toLE, ih, List.replicate_succ]
  rw [swap, toBE, hzero, List.reverse_replicate, ofLE_replicate_zero]

end Lib.ByteOrder
