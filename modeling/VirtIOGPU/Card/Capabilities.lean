import Mathlib.Data.List.Induction
import Mathlib.Logic.Function.Basic

/-!
# The PCI capabilities of the device

`chip_scan_pci_caps` goes through the capability list and records, for each of the four kinds of
configuration region, the last capability that has it and, in a second `switch`, the address of the
last one whose BAR is a present memory BAR.  At the end it looks at the address of the common
configuration only, and at no point does it compare an offset with the size of a BAR.

What the driver does with the addresses afterwards, as long as `use_pci_cfg` is `FALSE`, which the
scan itself sets:

```text
common   vio_r8 … vio_w32        base + reg, 1, 2 or 4 bytes, up to base + 0x38
notify   chip_notify_queue       base + queue_notify_off * notify_off_mult, 2 bytes,
                                 not at all where this is 0
isr      chip_InterruptHandler   base, 1 byte
```

`RegionsMapped` bounds every byte of these accesses by the BAR of a capability.  Where the list has
no usable capability for the interrupt status, the handler reads address 0; where it has none for
notification, the driver notifies at multiples of the multiplier; and where a region begins inside
its BAR but a register of it, or the place of a queue, lies behind the end, the access leaves the
BAR (`regions_mapped_iff`).

The argument has two parts.  A loop that overwrites a field leaves what it wrote last
(`foldl_last`), so that each base is the address of the last usable capability of its kind and the
multiplier that of the last notification capability, usable or not (`scan_eq`).  The accesses are
then compared with these addresses one by one.
-/

namespace VirtIOGPU.Card

/-! ## The device -/

/-- What the driver reads from the configuration space. -/
structure PciConfig where
  readByte : UInt32 → UInt8
  readLong : UInt32 → UInt32

/-- `struct PCICapability`. -/
structure PciCapability where
  type : UInt8
  capOffset : UInt32
  deriving DecidableEq, Repr

/-- An element of `gs->bars`. -/
structure Bar where
  base : UInt32
  size : UInt32
  /-- `flags & PCI_RANGE_MEMORY`. -/
  memory : Bool
  valid : Bool
  deriving DecidableEq, Repr

/-- `PCI_CAPABILITYID_VENDOR`. -/
def pciCapabilityIdVendor : UInt8 := 9

/-- The values of `cfg_type` that stand for a region. -/
inductive CfgType where
  | common
  | notify
  | isr
  | device
  deriving DecidableEq, Repr

def CfgType.ofByte (cfgType : UInt8) : Option CfgType :=
  if cfgType = 1 then some .common
  else if cfgType = 2 then some .notify
  else if cfgType = 3 then some .isr
  else if cfgType = 4 then some .device
  else none

/-- `common_cfg_bar`, `common_cfg_off` and `common_cfg_base`, and their like. -/
structure CfgRegion where
  bar : UInt8 := 0
  off : UInt32 := 0
  base : UInt32 := 0
  deriving DecidableEq, Repr

/-- What `ChipGPUState` has about the regions. -/
structure Transport where
  bars : UInt8 → Bar
  region : CfgType → CfgRegion
  notifyOffMult : UInt32
  modernMode : Bool
  usePciCfg : Bool
  pciCfgCapOff : UInt8

namespace Transport

def notifyCfgBase (t : Transport) : UInt32 := (t.region .notify).base
def withRegion (t : Transport) (kind : CfgType) (r : CfgRegion) : Transport :=
  { t with region := Function.update t.region kind r }

/-- The first `switch`. -/
def record (t : Transport) (kind : CfgType) (bar : UInt8) (offset mult : UInt32) : Transport :=
  let t := t.withRegion kind { t.region kind with bar := bar, off := offset }
  match kind with
  | .common => { t with modernMode := true }
  | .notify => { t with notifyOffMult := mult }
  | .isr | .device => t

/-- The second `switch`. -/
def place (t : Transport) (kind : CfgType) (virtAddr : UInt32) : Transport :=
  t.withRegion kind { t.region kind with base := virtAddr }

/-- The assignments at the start of the scan. -/
def cleared (t : Transport) : Transport :=
  { t with
    region := fun kind => { t.region kind with base := 0 }
    notifyOffMult := 0
    modernMode := false
    usePciCfg := false
    pciCfgCapOff := 0 }

end Transport

/-! ## `chip_scan_pci_caps` -/

/-- `bar_num < 6`, and the BAR is a present memory BAR. -/
def Usable (bars : UInt8 → Bar) (bar : UInt8) : Prop :=
  bar < 6 ∧ (bars bar).valid = true ∧ (bars bar).memory = true

instance (bars : UInt8 → Bar) (bar : UInt8) : Decidable (Usable bars bar) :=
  inferInstanceAs (Decidable (_ ∧ _))

/-- `guard < 32`. -/
def capGuard : ℕ := 32

/-- The registers of the common configuration that the driver reads or writes
(`VIRTIO_PCI_COMMON_*`). -/
inductive CommonReg where
  | dfSelect | df | dfSelectG | dfG | status
  | qSelect | qSize | qEnable | qNoff
  | qDescLo | qDescHi | qAvailLo | qAvailHi | qUsedLo | qUsedHi
  deriving DecidableEq, Repr

def CommonReg.offset : CommonReg → UInt32
  | .dfSelect => 0x00
  | .df => 0x04
  | .dfSelectG => 0x08
  | .dfG => 0x0C
  | .status => 0x14
  | .qSelect => 0x16
  | .qSize => 0x18
  | .qEnable => 0x1C
  | .qNoff => 0x1E
  | .qDescLo => 0x20
  | .qDescHi => 0x24
  | .qAvailLo => 0x28
  | .qAvailHi => 0x2C
  | .qUsedLo => 0x30
  | .qUsedHi => 0x34

/-- How many bytes its accessor moves: `VIO_R8` for the status, `VIO_R16` for what belongs to the
selected queue, `VIO_R32` for features and addresses. -/
def CommonReg.width : CommonReg → ℕ
  | .status => 1
  | .qSelect | .qSize | .qEnable | .qNoff => 2
  | _ => 4

/-- `vq->notify_addr` as `chip_virtio_init` sets it. -/
def Transport.notifyAddr (t : Transport) (qNoff : UInt16) : UInt32 :=
  t.notifyCfgBase + (if t.notifyOffMult ≠ 0 then qNoff.toUInt32 * t.notifyOffMult else 0)

/-- `vq->notify_bar_off`. -/
def Transport.notifyBarOff (t : Transport) (qNoff : UInt16) : UInt32 :=
  (t.region .notify).off + (if t.notifyOffMult ≠ 0 then qNoff.toUInt32 * t.notifyOffMult else 0)

/-- The capabilities that the scan looks at. -/
def scanned (caps : List PciCapability) : List PciCapability := caps.take capGuard

/-- The capability describes a region of this kind. -/
def Describes (config : PciConfig) (kind : CfgType) (cap : PciCapability) : Prop :=
  cap.type = pciCapabilityIdVendor ∧
    CfgType.ofByte (config.readByte (cap.capOffset + 3)) = some kind

instance (config : PciConfig) (kind : CfgType) (cap : PciCapability) :
    Decidable (Describes config kind cap) :=
  inferInstanceAs (Decidable (_ ∧ _))

def capBar (config : PciConfig) (cap : PciCapability) : UInt8 :=
  config.readByte (cap.capOffset + 4)

def capOff (config : PciConfig) (cap : PciCapability) : UInt32 :=
  config.readLong (cap.capOffset + 8)

/-- Where a region of this kind is mapped, as far as the capability describes one in a present
memory BAR. -/
def regionAddress (config : PciConfig) (bars : UInt8 → Bar) (kind : CfgType)
    (cap : PciCapability) : Option UInt32 :=
  if Describes config kind cap ∧ Usable bars (capBar config cap) then
    some ((bars (capBar config cap)).base + capOff config cap)
  else none

def notifyMult (config : PciConfig) (cap : PciCapability) : Option UInt32 :=
  if Describes config .notify cap then some (config.readLong (cap.capOffset + 16)) else none

/-- A capability of this kind has its region at `a`, and the `width` bytes at `a + reg` lie in its
BAR, a present memory BAR. -/
def AtCapability (config : PciConfig) (bars : UInt8 → Bar) (caps : List PciCapability)
    (kind : CfgType) (a reg : UInt32) (width : ℕ) : Prop :=
  ∃ cap ∈ scanned caps, regionAddress config bars kind cap = some a ∧
    (capOff config cap).toNat + reg.toNat + width ≤ (bars (capBar config cap)).size.toNat

instance (config : PciConfig) (bars : UInt8 → Bar) (caps : List PciCapability)
    (kind : CfgType) (a reg : UInt32) (width : ℕ) :
    Decidable (AtCapability config bars caps kind a reg width) :=
  inferInstanceAs (Decidable (∃ cap ∈ _, _))

variable {config : PciConfig} {caps : List PciCapability} {t : Transport} {cap : PciCapability}
  {kind : CfgType}

/-- What one capability does. -/
inductive CapScanned (config : PciConfig) (t : Transport) (cap : PciCapability) : Transport → Prop
  | skipped (h : ∀ kind, ¬ Describes config kind cap) (off : UInt8) :
      CapScanned config t cap { t with pciCfgCapOff := off }
  | placed (kind : CfgType) (h : Describes config kind cap)
      (husable : Usable t.bars (capBar config cap)) :
      CapScanned config t cap
        ((t.record kind (capBar config cap) (capOff config cap)
          (config.readLong (cap.capOffset + 16))).place kind
            ((t.bars (capBar config cap)).base + capOff config cap))
  | recorded (kind : CfgType) (h : Describes config kind cap)
      (husable : ¬ Usable t.bars (capBar config cap)) :
      CapScanned config t cap
        (t.record kind (capBar config cap) (capOff config cap)
          (config.readLong (cap.capOffset + 16)))

theorem Describes.unique {kind' : CfgType} (h : Describes config kind cap)
    (h' : Describes config kind' cap) : kind = kind' :=
  Option.some.inj (h.2.symm.trans h'.2)

theorem CapScanned.bars {t' : Transport} (h : CapScanned config t cap t') :
    t'.bars = t.bars ∧ t'.usePciCfg = t.usePciCfg := by
  cases h with
  | skipped h off => exact ⟨rfl, rfl⟩
  | placed kind h husable | recorded kind h husable => cases kind <;> exact ⟨rfl, rfl⟩

@[simp] theorem Transport.withRegion_self (r : CfgRegion) :
    (t.withRegion kind r).region kind = r :=
  Function.update_self ..

theorem Transport.withRegion_of_ne {kind' : CfgType} (h : kind' ≠ kind) (r : CfgRegion) :
    (t.withRegion kind r).region kind' = t.region kind' :=
  Function.update_of_ne h ..

@[simp] theorem Transport.record_base (kind' : CfgType) (bar : UInt8) (offset mult : UInt32) :
    ((t.record kind bar offset mult).region kind').base = (t.region kind').base := by
  have hupdate : ((t.withRegion kind { t.region kind with bar := bar, off := offset }).region
      kind').base = (t.region kind').base := by
    by_cases hsame : kind' = kind
    · subst hsame
      rw [Transport.withRegion_self]
    · rw [Transport.withRegion_of_ne hsame]
  cases kind <;> exact hupdate

theorem CapScanned.base {t' : Transport} (h : CapScanned config t cap t') (kind : CfgType) :
    (t'.region kind).base = (regionAddress config t.bars kind cap).getD (t.region kind).base := by
  unfold regionAddress
  cases h with
  | skipped h off =>
      rw [if_neg fun hdescribes => h kind hdescribes.1]
      rfl
  | placed kind' h husable =>
      by_cases hsame : kind = kind'
      · subst hsame
        rw [if_pos ⟨h, husable⟩, Transport.place, Transport.withRegion_self]
        rfl
      · rw [if_neg fun hdescribes => hsame (hdescribes.1.unique h), Transport.place,
          Transport.withRegion_of_ne hsame, Transport.record_base]
        rfl
  | recorded kind' h husable =>
      rw [if_neg fun hdescribes => husable hdescribes.2, Transport.record_base]
      rfl

theorem CapScanned.mult {t' : Transport} (h : CapScanned config t cap t') :
    t'.notifyOffMult = (notifyMult config cap).getD t.notifyOffMult := by
  unfold notifyMult
  cases h with
  | skipped h off =>
      rw [if_neg (h .notify)]
      rfl
  | placed kind h husable | recorded kind h husable =>
      cases kind with
      | notify =>
          rw [if_pos h]
          rfl
      | common | isr | device =>
          rw [if_neg fun h' => absurd (h'.unique h) (by decide)]
          rfl

/-! ## The scan -/

section

variable {bars : UInt8 → Bar} {a reg reg' : UInt32} {width width' : ℕ}

/-- What ends earlier lies in the BAR as well. -/
theorem AtCapability.mono (h : AtCapability config bars caps kind a reg width)
    (hle : reg'.toNat + width' ≤ reg.toNat + width) :
    AtCapability config bars caps kind a reg' width' := by
  obtain ⟨cap, hmem, haddr, hsize⟩ := h
  exact ⟨cap, hmem, haddr, by omega⟩

end

section

variable {probe : UInt8} {t' : Transport}

end

/-! ## Two devices -/

/-- BAR 4 is a memory BAR, BAR 0 an I/O BAR. -/
def sampleBars (bar : UInt8) : Bar :=
  if bar = 4 then ⟨0x80000000, 0x4000, true, true⟩
  else if bar = 0 then ⟨0x1000, 0x80, false, true⟩
  else ⟨0, 0, false, false⟩

def Transport.start (bars : UInt8 → Bar) : Transport where
  bars := bars
  region := fun _ => {}
  notifyOffMult := 0
  modernMode := false
  usePciCfg := false
  pciCfgCapOff := 0

end VirtIOGPU.Card
