import Mathlib.Data.List.Range
import VirtIOGPU.Lib.ByteOrder

/-!
# The split ring in memory

The structures of `virtqueue.h` and the byte-swap helpers `vr16`, `vr32` and
`vr64`.  A field holds the value that a native (big-endian) load of the driver
returns; in modern mode the device reads and writes the same bytes in
little-endian order, which is what `deviceRead16` and its siblings say in terms
of the bytes.  The lemmas `deviceRead16_eq` … show that `vr16` … is the driver's
side of that convention.

Memory that the `struct virtqueue` points to (descriptor table, rings, cookie
and table arrays) is kept in the record itself, as a function of the index.
-/

namespace VirtIOGPU

open Lib.ByteOrder

/-- VirtQueue descriptor flag `VRING_DESC_F_NEXT`. -/
def vringDescFNext : UInt16 := 1
/-- VirtQueue descriptor flag `VRING_DESC_F_WRITE`. -/
def vringDescFWrite : UInt16 := 2
/-- VirtQueue descriptor flag `VRING_DESC_F_INDIRECT`. -/
def vringDescFIndirect : UInt16 := 4

/-- `struct vring_desc`. -/
structure VringDesc where
  addr : UInt64 := 0
  len : UInt32 := 0
  flags : UInt16 := 0
  next : UInt16 := 0
  deriving DecidableEq, Repr

/-- `struct vring_indirect_desc`: the same layout, inside an indirect table. -/
abbrev VringIndirectDesc := VringDesc

/-- `struct vring_avail`.  Index `num` of `ring` is the `used_event` word. -/
structure VringAvail where
  idx : UInt16
  ring : ℕ → UInt16

/-- `struct vring_used_elem`. -/
structure VringUsedElem where
  id : UInt32 := 0
  len : UInt32 := 0
  deriving DecidableEq, Repr

/-- `struct vring_used`. -/
structure VringUsed where
  idx : UInt16
  ring : ℕ → VringUsedElem

/-- `struct vring_sg`: physical address and length of one buffer. -/
structure VringSg where
  addr : UInt32
  len : UInt32
  deriving DecidableEq, Repr

/-- `struct virtqueue`, with the memory its pointers reach.  Pointers are 32-bit
addresses, `0` is `NULL`; `itblMem` holds the indirect tables, by the physical
address under which the device finds them. -/
structure Virtqueue where
  num : UInt32
  desc : ℕ → VringDesc
  avail : VringAvail
  used : VringUsed
  freeHead : UInt16
  numFree : UInt16
  lastUsedIdx : UInt16
  cookies : ℕ → UInt32
  modern : Bool
  useEventIdx : Bool
  useIndirect : Bool
  indirectTables : ℕ → UInt32
  itblMem : UInt32 → List VringIndirectDesc

/-! ## Byte order of the ring fields -/

/-- `__builtin_bswap16`. -/
def bswap16 (v : UInt16) : UInt16 := UInt16.ofNat (swap 2 v.toNat)
/-- `__builtin_bswap32`. -/
def bswap32 (v : UInt32) : UInt32 := UInt32.ofNat (swap 4 v.toNat)
/-- `__builtin_bswap64`. -/
def bswap64 (v : UInt64) : UInt64 := UInt64.ofNat (swap 8 v.toNat)

def vr16 (modern : Bool) (v : UInt16) : UInt16 := if modern then bswap16 v else v
def vr32 (modern : Bool) (v : UInt32) : UInt32 := if modern then bswap32 v else v
def vr64 (modern : Bool) (v : UInt64) : UInt64 := if modern then bswap64 v else v

@[simp] theorem bswap16_bswap16 (v : UInt16) : bswap16 (bswap16 v) = v := by
  have hlt : swap 2 v.toNat < 2 ^ 16 := swap_lt 2 _
  apply UInt16.toNat_inj.mp
  rw [bswap16, bswap16, UInt16.toNat_ofNat', UInt16.toNat_ofNat', Nat.mod_eq_of_lt hlt, swap_swap]
  have := v.toNat_lt
  omega

@[simp] theorem bswap32_bswap32 (v : UInt32) : bswap32 (bswap32 v) = v := by
  have hlt : swap 4 v.toNat < 2 ^ 32 := swap_lt 4 _
  apply UInt32.toNat_inj.mp
  rw [bswap32, bswap32, UInt32.toNat_ofNat', UInt32.toNat_ofNat', Nat.mod_eq_of_lt hlt, swap_swap]
  have := v.toNat_lt
  omega

@[simp] theorem bswap64_bswap64 (v : UInt64) : bswap64 (bswap64 v) = v := by
  have hlt : swap 8 v.toNat < 2 ^ 64 := swap_lt 8 _
  apply UInt64.toNat_inj.mp
  rw [bswap64, bswap64, UInt64.toNat_ofNat', UInt64.toNat_ofNat', Nat.mod_eq_of_lt hlt, swap_swap]
  have := v.toNat_lt
  omega

@[simp] theorem vr16_vr16 (modern : Bool) (v : UInt16) : vr16 modern (vr16 modern v) = v := by
  cases modern <;> simp [vr16]

@[simp] theorem vr32_vr32 (modern : Bool) (v : UInt32) : vr32 modern (vr32 modern v) = v := by
  cases modern <;> simp [vr32]

@[simp] theorem vr64_vr64 (modern : Bool) (v : UInt64) : vr64 modern (vr64 modern v) = v := by
  cases modern <;> simp [vr64]

@[simp] theorem vr16_zero (modern : Bool) : vr16 modern 0 = 0 := by
  cases modern <;> simp [vr16, bswap16]

/-! ## What the device reads and writes -/

/-- The value a device reads from a `width`-byte field in which the driver's
native load sees `v`: little-endian in modern mode, native otherwise. -/
def deviceValue (modern : Bool) (width v : ℕ) : ℕ :=
  if modern then ofLE (toBE width v) else ofBE (toBE width v)

def deviceRead16 (modern : Bool) (v : UInt16) : UInt16 :=
  UInt16.ofNat (deviceValue modern 2 v.toNat)

def deviceRead32 (modern : Bool) (v : UInt32) : UInt32 :=
  UInt32.ofNat (deviceValue modern 4 v.toNat)

def deviceRead64 (modern : Bool) (v : UInt64) : UInt64 :=
  UInt64.ofNat (deviceValue modern 8 v.toNat)

/-- What a native load of the driver sees after the device stored `v` in a
`width`-byte field. -/
def driverValue (modern : Bool) (width v : ℕ) : ℕ :=
  if modern then ofBE (toLE width v) else ofBE (toBE width v)

def deviceWrite16 (modern : Bool) (v : UInt16) : UInt16 :=
  UInt16.ofNat (driverValue modern 2 v.toNat)
def deviceWrite32 (modern : Bool) (v : UInt32) : UInt32 :=
  UInt32.ofNat (driverValue modern 4 v.toNat)

@[simp] theorem deviceRead16_eq (modern : Bool) (v : UInt16) :
    deviceRead16 modern v = vr16 modern v := by
  cases modern
  · have hv : deviceValue false 2 v.toNat = v.toNat := by
      have := v.toNat_lt
      simp only [deviceValue, Bool.false_eq_true, if_false, ofBE_toBE]
      omega
    simp [deviceRead16, vr16, hv]
  · rfl

@[simp] theorem deviceRead32_eq (modern : Bool) (v : UInt32) :
    deviceRead32 modern v = vr32 modern v := by
  cases modern
  · have hv : deviceValue false 4 v.toNat = v.toNat := by
      have := v.toNat_lt
      simp only [deviceValue, Bool.false_eq_true, if_false, ofBE_toBE]
      omega
    simp [deviceRead32, vr32, hv]
  · rfl

@[simp] theorem deviceRead64_eq (modern : Bool) (v : UInt64) :
    deviceRead64 modern v = vr64 modern v := by
  cases modern
  · have hv : deviceValue false 8 v.toNat = v.toNat := by
      have := v.toNat_lt
      simp only [deviceValue, Bool.false_eq_true, if_false, ofBE_toBE]
      omega
    simp [deviceRead64, vr64, hv]
  · rfl

@[simp] theorem deviceWrite16_eq (modern : Bool) (v : UInt16) :
    deviceWrite16 modern v = vr16 modern v := by
  cases modern
  · exact deviceRead16_eq false v
  · rfl

@[simp] theorem deviceWrite32_eq (modern : Bool) (v : UInt32) :
    deviceWrite32 modern v = vr32 modern v := by
  cases modern
  · exact deviceRead32_eq false v
  · rfl

end VirtIOGPU
