import Mathlib.Data.Nat.Bitwise
import VirtIOGPU.Lib.Memory

/-!
# Words in a memory of bytes

Words of 32 and 16 bits as a big-endian processor loads and stores them.

```text
loadLong, storeLong   4 bytes, the most significant one first
loadWord, storeWord   2 bytes, the most significant one first
storeByte             1 byte
```

A store is an `overwrite` of its bytes, so that what lies elsewhere is kept by the lemmas about
ranges.  A load sees the bytes of one store, of several stores side by side or of none, and
`byteOf_loadLong` takes it apart again.

A word is also a set of bits.  A task keeps the signals it has received in one: `Signal` sets the
bits of a mask, and `Wait` blocks until a bit of its own mask is set.  The mask of an allocated
signal has one bit, so it is never zero (`shiftLeft_one_ne_zero`), and a signal once received stays
until the task clears it (`or_and_ne_zero`).
-/

namespace Lib.Memory

/-- Byte `k` of a word, from the most significant one on. -/
def byteOf (v : UInt32) (k : ℕ) : UInt8 := UInt8.ofNat (v.toNat / 256 ^ (3 - k))

def loadLong (m : Mem UInt8) (a : ℕ) : UInt32 :=
  UInt32.ofNat (((m a).toNat * 256 + (m (a + 1)).toNat) * 256 ^ 2 +
    ((m (a + 2)).toNat * 256 + (m (a + 3)).toNat))

def storeLong (a : ℕ) (v : UInt32) (m : Mem UInt8) : Mem UInt8 := overwrite a 4 (byteOf v) m

def loadWord (m : Mem UInt8) (a : ℕ) : UInt16 :=
  UInt16.ofNat ((m a).toNat * 256 + (m (a + 1)).toNat)

def storeWord (a : ℕ) (v : UInt16) (m : Mem UInt8) : Mem UInt8 :=
  overwrite a 2 (fun k => UInt8.ofNat (v.toNat / 256 ^ (1 - k))) m

def storeByte (a : ℕ) (v : UInt8) (m : Mem UInt8) : Mem UInt8 := overwrite a 1 (fun _ => v) m

theorem byteOf_loadLong (m : Mem UInt8) (a : ℕ) {k : ℕ} (hk : k < 4) :
    byteOf (loadLong m a) k = m (a + k) := by
  have h0 := (m a).toNat_lt
  have h1 := (m (a + 1)).toNat_lt
  have h2 := (m (a + 2)).toNat_lt
  have h3 := (m (a + 3)).toNat_lt
  rw [← UInt8.toNat_inj, byteOf, loadLong, UInt8.toNat_ofNat',
    UInt32.toNat_ofNat_of_lt' (by change _ < 2 ^ 32; omega)]
  obtain rfl | rfl | rfl | rfl : k = 0 ∨ k = 1 ∨ k = 2 ∨ k = 3 := by omega
  · change _ / 256 ^ 3 % 2 ^ 8 = (m a).toNat
    omega
  · omega
  · omega
  · omega

/-- A word is its four bytes. -/
theorem eq_of_byteOf {v w : UInt32} (h : ∀ k < 4, byteOf v k = byteOf w k) : v = w := by
  have hv := v.toNat_lt
  have hw := w.toNat_lt
  have hbyte : ∀ k < 4, v.toNat / 256 ^ (3 - k) % 256 = w.toNat / 256 ^ (3 - k) % 256 := by
    intro k hk
    have hk' := congrArg UInt8.toNat (h k hk)
    rwa [byteOf, byteOf, UInt8.toNat_ofNat', UInt8.toNat_ofNat'] at hk'
  have h0 := hbyte 0 (by decide)
  have h1 := hbyte 1 (by decide)
  have h2 := hbyte 2 (by decide)
  have h3 := hbyte 3 (by decide)
  rw [← UInt32.toNat_inj]
  omega

theorem byteOf_three (v : UInt32) : byteOf v 3 = v.toUInt8 := by
  rw [← UInt8.toNat_inj, byteOf, UInt8.toNat_ofNat', UInt32.toNat_toUInt8]
  exact congrArg (· % 2 ^ 8) (Nat.div_one v.toNat)

theorem byteOf_xor (v w : UInt32) (k : ℕ) : byteOf (v ^^^ w) k = byteOf v k ^^^ byteOf w k := by
  have hpow : 256 ^ (3 - k) = 2 ^ (8 * (3 - k)) := by
    rw [Nat.pow_mul]
  rw [← UInt8.toNat_inj, UInt8.toNat_xor, byteOf, byteOf, byteOf, UInt8.toNat_ofNat',
    UInt8.toNat_ofNat', UInt8.toNat_ofNat', UInt32.toNat_xor, hpow, Nat.xor_div_two_pow]
  exact Nat.xor_mod_two_pow

theorem byteOf_or (v w : UInt32) (k : ℕ) : byteOf (v ||| w) k = byteOf v k ||| byteOf w k := by
  have hpow : 256 ^ (3 - k) = 2 ^ (8 * (3 - k)) := by
    rw [Nat.pow_mul]
  rw [← UInt8.toNat_inj, UInt8.toNat_or, byteOf, byteOf, byteOf, UInt8.toNat_ofNat',
    UInt8.toNat_ofNat', UInt8.toNat_ofNat', UInt32.toNat_or, hpow, Nat.or_div_two_pow]
  exact Nat.or_mod_two_pow

theorem byteOf_and (v w : UInt32) (k : ℕ) : byteOf (v &&& w) k = byteOf v k &&& byteOf w k := by
  have hpow : 256 ^ (3 - k) = 2 ^ (8 * (3 - k)) := by
    rw [Nat.pow_mul]
  rw [← UInt8.toNat_inj, UInt8.toNat_and, byteOf, byteOf, byteOf, UInt8.toNat_ofNat',
    UInt8.toNat_ofNat', UInt8.toNat_ofNat', UInt32.toNat_and, hpow, Nat.and_div_two_pow]
  exact Nat.and_mod_two_pow

/-- A shift to the left by `j` bytes. -/
theorem byteOf_shiftLeft (v : UInt32) {s : UInt32} {j k : ℕ} (hs : s.toNat = 8 * j) (hj : j < 4)
    (hk : k < 4) : byteOf (v <<< s) k = if j + k < 4 then byteOf v (j + k) else 0 := by
  have hshift : (v <<< s).toNat = v.toNat * 256 ^ j % 256 ^ 4 := by
    rw [UInt32.toNat_shiftLeft, hs, Nat.mod_eq_of_lt (a := 8 * j) (by omega), Nat.shiftLeft_eq,
      Nat.pow_mul]
    rfl
  -- the bytes that fall off do not matter
  have hdrop : v.toNat * 256 ^ j % 256 ^ 4 / 256 ^ (3 - k) % 256 =
      v.toNat * 256 ^ j / 256 ^ (3 - k) % 256 := by
    have hfour : (256 : ℕ) ^ 4 = 256 ^ (3 - k) * 256 ^ (k + 1) := by
      rw [← Nat.pow_add, show 3 - k + (k + 1) = 4 by omega]
    rw [hfour, Nat.mod_mul_right_div_self]
    exact Nat.mod_mod_of_dvd _ (dvd_pow_self 256 (Nat.succ_ne_zero k))
  rw [← UInt8.toNat_inj, byteOf, hshift, UInt8.toNat_ofNat']
  refine hdrop.trans ?_
  split
  · have hsplit : (256 : ℕ) ^ (3 - k) = 256 ^ (3 - (j + k)) * 256 ^ j := by
      rw [← Nat.pow_add, show 3 - (j + k) + j = 3 - k by omega]
    rw [hsplit, Nat.mul_div_mul_right _ _ (Nat.pow_pos (by decide)), byteOf, UInt8.toNat_ofNat']
  · have hsplit : (256 : ℕ) ^ j = 256 ^ (3 - k) * (256 * 256 ^ (j + k - 4)) := by
      rw [← Nat.pow_succ', ← Nat.pow_add, show 3 - k + (j + k - 4 + 1) = j by omega]
    rw [hsplit, Nat.mul_left_comm, Nat.mul_div_cancel_left _ (Nat.pow_pos (by decide)),
      Nat.mul_left_comm, Nat.mul_mod_right]
    rfl
/-- A shift to the right by `j` bytes. -/
theorem byteOf_shiftRight (v : UInt32) {s : UInt32} {j k : ℕ} (hs : s.toNat = 8 * j) (hj : j < 4)
    (hk : k < 4) : byteOf (v >>> s) k = if j ≤ k then byteOf v (k - j) else 0 := by
  have hv := v.toNat_lt
  have hshift : (v >>> s).toNat = v.toNat / 256 ^ j := by
    rw [UInt32.toNat_shiftRight, hs, Nat.mod_eq_of_lt (by omega), Nat.shiftRight_eq_div_pow,
      Nat.pow_mul]
  rw [byteOf, byteOf, hshift]
  split
  · rw [Nat.div_div_eq_div_mul, ← Nat.pow_add, show 3 - (k - j) = j + (3 - k) by omega]
  · have hsmall : v.toNat / 256 ^ j / 256 ^ (3 - k) = 0 := by
      rw [Nat.div_div_eq_div_mul, ← Nat.pow_add, Nat.div_eq_zero_iff_lt (Nat.pow_pos (by decide))]
      calc
        v.toNat < 256 ^ 4 := hv
        _ ≤ 256 ^ (j + (3 - k)) := Nat.pow_le_pow_right (by decide) (by omega)
    rw [hsmall]
    rfl
/-- A byte as a word. -/
theorem byteOf_toUInt32 (b : UInt8) {k : ℕ} (hk : k < 4) :
    byteOf b.toUInt32 k = if k = 3 then b else 0 := by
  have hb := b.toNat_lt
  rw [byteOf, UInt8.toNat_toUInt32]
  split
  · next hlast => rw [hlast, Nat.sub_self, Nat.pow_zero, Nat.div_one, UInt8.ofNat_toNat]
  · have hsmall : b.toNat / 256 ^ (3 - k) = 0 := by
      rw [Nat.div_eq_zero_iff_lt (Nat.pow_pos (by decide))]
      exact hb.trans_le (Nat.le_pow (by omega))
    rw [hsmall]
    rfl

/-- Storing what was loaded copies four bytes. -/
theorem storeLong_loadLong (src dst : ℕ) (m : Mem UInt8) :
    storeLong dst (loadLong m src) m = overwrite dst 4 (fun k => m (src + k)) m :=
  overwrite_congr fun _ hk => byteOf_loadLong m src hk

/-- The low word of a long. -/
theorem storeWord_toUInt16 (a : ℕ) (v : UInt32) (m : Mem UInt8) :
    storeWord a v.toUInt16 m = overwrite a 2 (fun k => byteOf v (2 + k)) m := by
  apply overwrite_congr
  intro k hk
  rw [← UInt8.toNat_inj, byteOf, UInt8.toNat_ofNat', UInt8.toNat_ofNat', UInt32.toNat_toUInt16]
  obtain rfl | rfl : k = 0 ∨ k = 1 := by omega
  · omega
  · omega

/-- All bits of two bytes inverted. -/
theorem storeWord_xor (a : ℕ) (m : Mem UInt8) :
    storeWord a (loadWord m a ^^^ 0xFFFF) m = overwrite a 2 (fun k => m (a + k) ^^^ 0xFF) m := by
  have hhigh := (m a).toNat_lt
  have hlow := (m (a + 1)).toNat_lt
  have hload : (loadWord m a).toNat = (m a).toNat * 256 + (m (a + 1)).toNat := by
    rw [loadWord, UInt16.toNat_ofNat_of_lt' (by change _ < 2 ^ 16; omega)]
  apply overwrite_congr
  intro k hk
  rw [← UInt8.toNat_inj, UInt8.toNat_ofNat', UInt16.toNat_xor, hload, UInt8.toNat_xor]
  have hpow : 256 ^ (1 - k) = 2 ^ (8 * (1 - k)) := by
    rw [Nat.pow_mul]
  rw [hpow, Nat.xor_div_two_pow, Nat.xor_mod_two_pow]
  have hbyte : ((m a).toNat * 256 + (m (a + 1)).toNat) / 2 ^ (8 * (1 - k)) % 2 ^ 8 =
      (m (a + k)).toNat := by
    obtain rfl | rfl : k = 0 ∨ k = 1 := by omega
    · change _ / 256 % 256 = (m a).toNat
      omega
    · change _ / 1 % 256 = _
      omega
  have hones : (0xFFFF : UInt16).toNat / 2 ^ (8 * (1 - k)) % 2 ^ 8 = (0xFF : UInt8).toNat := by
    obtain rfl | rfl : k = 0 ∨ k = 1 := by omega
    · rfl
    · rfl
  rw [hbyte, hones]

/-! ## Rounding -/

/-- Without its low `k` bits a long is rounded down to a multiple of `2 ^ k`. -/
theorem toNat_and_not_ones {k : ℕ} (x : UInt32) :
    (x &&& ~~~UInt32.ofNat (2 ^ k - 1)).toNat = x.toNat / 2 ^ k * 2 ^ k := by
  have hshift : x.toBitVec &&& ~~~BitVec.ofNat 32 (2 ^ k - 1) = (x.toBitVec >>> k) <<< k := by
    apply BitVec.eq_of_getLsbD_eq
    intro i hi
    have hones : (BitVec.ofNat 32 (2 ^ k - 1)).getLsbD i = decide (i < k) := by
      rw [BitVec.getLsbD_ofNat, Nat.testBit_two_pow_sub_one]
      simp [hi]
    simp only [BitVec.getLsbD_and, BitVec.getLsbD_not, hones, BitVec.getLsbD_shiftLeft,
      BitVec.getLsbD_ushiftRight]
    by_cases hlow : i < k
    · simp [hlow]
    · simp [hi, hlow, show k + (i - k) = i by omega]
  have hle : x.toNat / 2 ^ k * 2 ^ k < 2 ^ 32 :=
    (Nat.div_mul_le_self _ _).trans_lt x.toNat_lt
  rw [← UInt32.toNat_toBitVec, UInt32.toBitVec_and, UInt32.toBitVec_not,
    show (UInt32.ofNat (2 ^ k - 1)).toBitVec = BitVec.ofNat 32 (2 ^ k - 1) from rfl, hshift,
    BitVec.toNat_shiftLeft, BitVec.toNat_ushiftRight, UInt32.toNat_toBitVec,
    Nat.shiftRight_eq_div_pow, Nat.shiftLeft_eq, Nat.mod_eq_of_lt hle]

end Lib.Memory

/-! ## Sets of bits -/

namespace Lib.SignalMask

theorem shiftLeft_one_ne_zero (bit : UInt32) : (1 : UInt32) <<< bit ≠ 0 := by
  intro hzero
  have hnat := congrArg UInt32.toNat hzero
  have hlt : 2 ^ (bit.toNat % 32) < 2 ^ 32 := Nat.pow_lt_pow_right (by decide) (by omega)
  have hpos : 0 < 2 ^ (bit.toNat % 32) := Nat.two_pow_pos _
  rw [UInt32.toNat_shiftLeft, UInt32.toNat_one, Nat.one_shiftLeft, Nat.mod_eq_of_lt hlt,
    UInt32.toNat_zero] at hnat
  omega

theorem or_and_self_ne_zero {x mask : UInt32} (hmask : mask ≠ 0) : (x ||| mask) &&& mask ≠ 0 := by
  have hself : (x ||| mask) &&& mask = mask := by
    apply UInt32.toBitVec_inj.mp
    simp only [UInt32.toBitVec_and, UInt32.toBitVec_or]
    ext i hi
    simp +contextual
  rwa [hself]

theorem or_and_ne_zero {x mask mask' : UInt32} (h : x &&& mask ≠ 0) :
    (x ||| mask') &&& mask ≠ 0 := by
  intro hzero
  refine h (UInt32.toBitVec_inj.mp (BitVec.eq_of_getElem_eq fun i hi => ?_))
  have hbit := congrArg (fun y : UInt32 => y.toBitVec[i]) hzero
  simp only [UInt32.toBitVec_and, UInt32.toBitVec_or, BitVec.getElem_and, BitVec.getElem_or]
    at hbit ⊢
  cases hx : x.toBitVec[i] <;> simp_all

end Lib.SignalMask
