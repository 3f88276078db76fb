import Mathlib.Algebra.Group.Nat.Defs
import VirtIOGPU.Lib.Distinct
import VirtIOGPU.Lib.Hoare

/-!
# Timings from EDID data

`chip_GetEDID` copies the blob of the reply and walks over its detailed timing descriptors.
The walk is a program that notes which bytes of the blob it reads, so that it can be said that
it stays inside whatever the blob announces; `edidWalk` is the list of the timings that it
visits, without loops and early exits.

## Strategy

Each of the three loops gets a specification with the same two halves: it reads inside the blob
(`Inside`), and what it collects is the fold over the timings of the list that it walks.

```text
loop            visits                                   list
baseLoop        up to four descriptors of the base       baseWalk
descriptorLoop  the descriptors of one extension         descriptorWalk
extensionLoop   the extensions that the blob announces   extensionWalk
```

A clock of 0 is passed over in the base block and ends the descriptors of an extension, and the
lists have it so.  The cap on the number of timings is in the fold (`foldl_collectDtd`), not in the
walk.
-/

namespace VirtIOGPU.Display

open Lib.Hoare Lib.FirstDistinct

/-! ## The function -/

/-- Width and height, `edid_dtd_w` and `edid_dtd_h`. -/
abbrev Dtd := UInt16 × UInt16

/-- A program that reads the blob; the state is the list of the indices it has read. -/
abbrev EdidReader := StateM (List ℕ)

def readByte (edid : ℕ → UInt8) (i : ℕ) : EdidReader UInt8 :=
  modifyGet fun reads => (edid i, i :: reads)

/-- `pixel_clock`. -/
def pixelClock (lo hi : UInt8) : UInt16 := lo.toUInt16 ||| (hi.toUInt16 <<< 8)

/-- `h_active` and `v_active`: a low byte, and the upper nibble of another. -/
def activePixels (lo hi : UInt8) : UInt32 := lo.toUInt32 ||| ((hi.toUInt32 >>> 4) <<< 8)

/-- `ADD_DTD`. -/
def addDtd (dtds : List Dtd) (w h : UInt32) : List Dtd :=
  if w > 0 ∧ h > 0 ∧ dtds.length < 16 then
    if dtds.any fun d => d.1.toUInt32 == w && d.2.toUInt32 == h then dtds
    else dtds ++ [(w.toUInt16, h.toUInt16)]
  else dtds

def readClock (edid : ℕ → UInt8) (off : ℕ) : EdidReader UInt16 := do
  let lo ← readByte edid off
  let hi ← readByte edid (off + 1)
  return pixelClock lo hi

/-- Add the timing of the descriptor at `off`. -/
def readDtd (edid : ℕ → UInt8) (off : ℕ) (dtds : List Dtd) : EdidReader (List Dtd) := do
  let hLo ← readByte edid (off + 2)
  let hHi ← readByte edid (off + 4)
  let vLo ← readByte edid (off + 5)
  let vHi ← readByte edid (off + 7)
  return addDtd dtds (activePixels hLo hHi) (activePixels vLo vHi)

/-- The loop over the base block. -/
def baseLoop (edid : ℕ → UInt8) (size : ℕ) : List ℕ → List Dtd → EdidReader (List Dtd)
  | [], dtds => return dtds
  | off :: rest, dtds => do
      if off + 8 > size then
        return dtds
      let clock ← readClock edid off
      if clock = 0 then
        baseLoop edid size rest dtds
      else
        let dtds ← readDtd edid off dtds
        baseLoop edid size rest dtds

/-- The loop over the descriptors of an extension block that ends at `last`. -/
def descriptorLoop (edid : ℕ → UInt8) (last off : ℕ) (dtds : List Dtd) : EdidReader (List Dtd) :=
  if off + 18 ≤ last then do
    let clock ← readClock edid off
    if clock = 0 then
      return dtds
    else
      let dtds ← readDtd edid off dtds
      descriptorLoop edid last (off + 18) dtds
  else
    pure dtds
termination_by last - off

/-- The loop over the extension blocks from `e` on, of which `remaining` are announced. -/
def extensionLoop (edid : ℕ → UInt8) (size : ℕ) : ℕ → ℕ → List Dtd → EdidReader (List Dtd)
  | 0, _, dtds => return dtds
  | remaining + 1, e, dtds => do
      let extBase := 128 * (e + 1)
      if extBase + 128 > size then
        return dtds
      let tag ← readByte edid extBase
      if tag ≠ 0x02 then
        extensionLoop edid size remaining (e + 1) dtds
      else
        let dtdOff ← readByte edid (extBase + 2)
        if dtdOff < 4 ∨ dtdOff > 125 then
          extensionLoop edid size remaining (e + 1) dtds
        else
          let dtds ← descriptorLoop edid (extBase + 126) (extBase + dtdOff.toNat) dtds
          extensionLoop edid size remaining (e + 1) dtds

/-- The walk over the blob. -/
def parseDtds (edid : ℕ → UInt8) (size : ℕ) : EdidReader (List Dtd) := do
  let dtds ← baseLoop edid size [54, 72, 90, 108] []
  if size ≥ 128 then
    let extCount ← readByte edid 126
    extensionLoop edid size extCount.toNat 0 dtds
  else
    return dtds

/-- `struct virtio_gpu_resp_edid`, in the CPU's byte order. -/
structure EdidReply where
  type : UInt32
  size : UInt32
  edid : ℕ → UInt8

/-- What `chip_GetEDID` assigns in `ChipGPUState`; the arrays `edid_dtd_w` and `edid_dtd_h` are
a list whose length is `edid_dtd_count`. -/
structure EdidState where
  hasEdid : Bool
  edidSize : UInt32
  edid : ℕ → UInt8
  dtds : List Dtd
  nativeW : UInt32
  nativeH : UInt32

/-- `VIRTIO_GPU_RESP_OK_EDID`. -/
def respOkEdid : UInt32 := 0x1104

/-- The blob with its size, at most 1024 bytes. -/
def EdidState.copied (gs : EdidState) (resp : EdidReply) : EdidState :=
  let size := if resp.size > 1024 then 1024 else resp.size
  { gs with
    hasEdid := true
    edidSize := size
    edid := fun i => if i < size.toNat then resp.edid i else gs.edid i }

def EdidState.withDtds (gs : EdidState) (dtds : List Dtd) : EdidState :=
  { gs with
    dtds := dtds
    nativeW := (dtds.head?.map fun d => d.1.toUInt32).getD 0
    nativeH := (dtds.head?.map fun d => d.2.toUInt32).getD 0 }

/-- `chip_GetEDID` from the reply on. -/
def chipGetEdid (gs : EdidState) (resp : EdidReply) : EdidReader (Bool × EdidState) := do
  if resp.type ≠ respOkEdid then
    return (false, { gs with hasEdid := false })
  let gs := gs.copied resp
  let dtds ← parseDtds gs.edid gs.edidSize.toNat
  return (true, gs.withDtds dtds)

/-! ## The walk -/

/-- The descriptor at `off` is a timing. -/
def HasClock (edid : ℕ → UInt8) (off : ℕ) : Prop := pixelClock (edid off) (edid (off + 1)) ≠ 0

instance (edid : ℕ → UInt8) (off : ℕ) : Decidable (HasClock edid off) :=
  inferInstanceAs (Decidable (_ ≠ _))

/-- The timing at `off`. -/
def dtdAt (edid : ℕ → UInt8) (off : ℕ) : Dtd :=
  ((activePixels (edid (off + 2)) (edid (off + 4))).toUInt16,
    (activePixels (edid (off + 5)) (edid (off + 7))).toUInt16)

/-- The base descriptors whose first 8 bytes are in the blob and whose clock is not 0. -/
def baseWalk (edid : ℕ → UInt8) (size : ℕ) (offsets : List ℕ) : List Dtd :=
  (offsets.filter fun off => off + 8 ≤ size ∧ HasClock edid off).map (dtdAt edid)

/-- The 18-byte descriptors from `off` on that end at `last` or before. -/
def descriptorOffsets (last off : ℕ) : List ℕ :=
  (List.range ((last - off) / 18)).map fun k => off + 18 * k

/-- The descriptors up to the first one whose clock is 0. -/
def descriptorWalk (edid : ℕ → UInt8) (last off : ℕ) : List Dtd :=
  ((descriptorOffsets last off).takeWhile fun off => HasClock edid off).map (dtdAt edid)

/-- The timings of extension block `e`: of a CEA-861 block with an offset from 4 to 125. -/
def extensionWalk (edid : ℕ → UInt8) (e : ℕ) : List Dtd :=
  let extBase := 128 * (e + 1)
  let dtdOff := edid (extBase + 2)
  if edid extBase = 0x02 ∧ 4 ≤ dtdOff ∧ dtdOff ≤ 125 then
    descriptorWalk edid (extBase + 126) (extBase + dtdOff.toNat)
  else []

/-- Extension block `e` is in the blob as a whole. -/
def Complete (size e : ℕ) : Prop := 128 * (e + 1) + 128 ≤ size

instance (size e : ℕ) : Decidable (Complete size e) := inferInstanceAs (Decidable (_ ≤ _))

/-- The timings in the order in which they are visited. -/
def edidWalk (edid : ℕ → UInt8) (size : ℕ) : List Dtd :=
  baseWalk edid size [54, 72, 90, 108] ++
    if 128 ≤ size then
      ((List.range (edid 126).toNat).takeWhile fun e => Complete size e).flatMap
        (extensionWalk edid)
    else []

/-- Both parts of the timing are not 0. -/
def Dtd.Proper (d : Dtd) : Prop := d.1 ≠ 0 ∧ d.2 ≠ 0

instance (d : Dtd) : Decidable d.Proper := inferInstanceAs (Decidable (_ ∧ _))

/-! ## The walk is what the function does -/

/-- The reads so far were inside the first `n` bytes. -/
def Inside (n : ℕ) (reads : List ℕ) : Prop := ∀ i ∈ reads, i < n

/-- `ADD_DTD` for a timing of the walk. -/
def collectDtd (dtds : List Dtd) (d : Dtd) : List Dtd :=
  if d.Proper then collect 16 dtds d else dtds

section Reads

theorem activePixels_lt (lo hi : UInt8) : (activePixels lo hi).toNat < 2 ^ 12 := by
  have hlo : lo.toNat < 2 ^ 12 := Nat.lt_trans lo.toNat_lt (by decide)
  have hshifted : hi.toNat / 2 ^ 4 * 2 ^ 8 < 2 ^ 12 := by
    have hhi := hi.toNat_lt
    omega
  have htoNat : (activePixels lo hi).toNat = lo.toNat ||| hi.toNat / 2 ^ 4 * 2 ^ 8 := by
    simp only [activePixels, UInt32.toNat_or, UInt32.toNat_shiftLeft, UInt32.toNat_shiftRight,
      UInt8.toNat_toUInt32, Nat.shiftRight_eq_div_pow, Nat.shiftLeft_eq]
    change lo.toNat ||| hi.toNat / 2 ^ 4 * 2 ^ 8 % 2 ^ 32 = _
    rw [Nat.mod_eq_of_lt (Nat.lt_trans hshifted (by decide))]
  rw [htoNat]
  exact Nat.or_lt_two_pow hlo hshifted

/-- The arrays are wide enough for what is stored in them. -/
theorem toUInt32_toUInt16 {x : UInt32} (hx : x.toNat < 2 ^ 12) : x.toUInt16.toUInt32 = x := by
  apply UInt32.toNat_inj.mp
  rw [UInt16.toNat_toUInt32, UInt32.toNat_toUInt16]
  exact Nat.mod_eq_of_lt (Nat.lt_trans hx (by decide))

theorem addDtd_eq (dtds : List Dtd) {w h : UInt32} (hw : w.toNat < 2 ^ 12)
    (hh : h.toNat < 2 ^ 12) : addDtd dtds w h = collectDtd dtds (w.toUInt16, h.toUInt16) := by
  -- twelve bits are not lost on the way to sixteen
  have hne {x : UInt32} (hx : x.toNat < 2 ^ 12) : x > 0 ↔ x.toUInt16 ≠ 0 := by
    rw [gt_iff_lt, UInt32.pos_iff_ne_zero, not_iff_not]
    constructor
    · rintro rfl
      rfl
    · intro h0
      rw [← toUInt32_toUInt16 hx, h0]
      rfl
  have hsame (d : Dtd) : (d.1.toUInt32 == w && d.2.toUInt32 == h) = true ↔
      d = (w.toUInt16, h.toUInt16) := by
    rw [Bool.and_eq_true, beq_iff_eq, beq_iff_eq, Prod.ext_iff]
    constructor
    · rintro ⟨rfl, rfl⟩
      exact ⟨by simp, by simp⟩
    · rintro ⟨h1, h2⟩
      rw [h1, h2]
      exact ⟨toUInt32_toUInt16 hw, toUInt32_toUInt16 hh⟩
  have hany : (dtds.any fun d => d.1.toUInt32 == w && d.2.toUInt32 == h) = true ↔
      (w.toUInt16, h.toUInt16) ∈ dtds := by
    rw [List.any_eq_true]
    constructor
    · rintro ⟨d, hd, heq⟩
      exact (hsame d).mp heq ▸ hd
    · exact fun hmem => ⟨_, hmem, (hsame _).mpr rfl⟩
  unfold addDtd collectDtd collect
  by_cases hproper : Dtd.Proper (w.toUInt16, h.toUInt16)
  · have hpos : w > 0 ∧ h > 0 := ⟨(hne hw).mpr hproper.1, (hne hh).mpr hproper.2⟩
    rw [if_pos hproper]
    by_cases hmem : (w.toUInt16, h.toUInt16) ∈ dtds
    · rw [if_pos (hany.mpr hmem), ite_self]
      exact (if_neg fun hnew => hnew.2 hmem).symm
    · rw [if_neg fun h' => hmem (hany.mp h')]
      by_cases hfull : dtds.length < 16
      · rw [if_pos ⟨hpos.1, hpos.2, hfull⟩, if_pos ⟨hfull, hmem⟩]
      · rw [if_neg fun h' => hfull h'.2.2, if_neg fun h' => hfull h'.1]
  · rw [if_neg hproper, if_neg]
    exact fun h' => hproper ⟨(hne hw).mp h'.1, (hne hh).mp h'.2.1⟩

/-! The program reads `edid` and the walk is over `blob`; the two agree where it matters. -/

variable {edid blob : ℕ → UInt8} {n : ℕ}
variable (hagree : ∀ i < n, edid i = blob i)

include hagree

theorem readByte_spec {i : ℕ} (hi : i < n) :
    Triple (Inside n) (readByte edid i) fun b reads => b = blob i ∧ Inside n reads := by
  refine Triple.transition fun reads hreads => ⟨hagree i hi, fun j hj => ?_⟩
  rcases List.mem_cons.mp hj with rfl | hj
  · exact hi
  · exact hreads j hj

theorem readClock_spec {off : ℕ} (hoff : off + 8 ≤ n) :
    Triple (Inside n) (readClock edid off) fun clock reads =>
      clock = pixelClock (blob off) (blob (off + 1)) ∧ Inside n reads := by
  refine Triple.bind (readByte_spec hagree (by omega)) fun lo => Triple.fact fun hlo => ?_
  refine Triple.bind (readByte_spec hagree (by omega)) fun hi => Triple.fact fun hhi => ?_
  exact Triple.ret fun reads hreads => ⟨by rw [hlo, hhi], hreads⟩

theorem readDtd_spec {off : ℕ} (hoff : off + 8 ≤ n) (dtds : List Dtd) :
    Triple (Inside n) (readDtd edid off dtds) fun dtds' reads =>
      dtds' = collectDtd dtds (dtdAt blob off) ∧ Inside n reads := by
  refine Triple.bind (readByte_spec hagree (by omega)) fun hLo => Triple.fact fun h2 => ?_
  refine Triple.bind (readByte_spec hagree (by omega)) fun hHi => Triple.fact fun h4 => ?_
  refine Triple.bind (readByte_spec hagree (by omega)) fun vLo => Triple.fact fun h5 => ?_
  refine Triple.bind (readByte_spec hagree (by omega)) fun vHi => Triple.fact fun h7 => ?_
  refine Triple.ret fun reads hreads => ⟨?_, hreads⟩
  rw [addDtd_eq dtds (activePixels_lt _ _) (activePixels_lt _ _), h2, h4, h5, h7]
  rfl

/-- One descriptor of either loop: the timing is collected where there is one. -/
theorem descriptor_spec {off : ℕ} (hoff : off + 8 ≤ n) (dtds : List Dtd)
    {stop next : EdidReader (List Dtd)} {k : List Dtd → EdidReader (List Dtd)}
    {Q : List Dtd → List ℕ → Prop} (hnext : next = readDtd edid off dtds >>= k)
    (hstop : ¬ HasClock blob off → Triple (Inside n) stop Q)
    (hk : HasClock blob off → Triple (Inside n) (k (collectDtd dtds (dtdAt blob off))) Q) :
    Triple (Inside n) (do
      let clock ← readClock edid off
      if clock = 0 then stop else next) Q := by
  subst hnext
  refine Triple.bind (readClock_spec hagree hoff) fun clock => Triple.fact fun hclock => ?_
  subst hclock
  refine Triple.ite (fun hzero => hstop fun h => h hzero) fun hclock => ?_
  refine Triple.bind (readDtd_spec hagree hoff dtds) fun dtds' => Triple.fact fun hdtds' => ?_
  subst hdtds'
  exact hk hclock

/-- The offsets ascend, so that the first one outside the blob ends the loop. -/
theorem baseLoop_spec {offsets : List ℕ} (hsorted : offsets.Pairwise (· ≤ ·)) (dtds : List Dtd) :
    Triple (Inside n) (baseLoop edid n offsets dtds) fun dtds' reads =>
      dtds' = (baseWalk blob n offsets).foldl collectDtd dtds ∧ Inside n reads := by
  induction offsets generalizing dtds with
  | nil => exact Triple.ret fun reads hreads => ⟨rfl, hreads⟩
  | cons off rest ih =>
      obtain ⟨hfirst, hrest⟩ := List.pairwise_cons.mp hsorted
      refine Triple.ite (fun hout => Triple.ret fun reads hreads => ⟨?_, hreads⟩) fun hin => ?_
      · have hnone : baseWalk blob n (off :: rest) = [] := by
          rw [baseWalk, List.map_eq_nil_iff, List.filter_eq_nil_iff]
          intro o ho hwalk
          have hle : off ≤ o := (List.mem_cons.mp ho).elim (fun h => h ▸ Nat.le_refl _) (hfirst o)
          have hwalk' : o + 8 ≤ n := (of_decide_eq_true hwalk).1
          omega
        rw [hnone, List.foldl_nil]
      have hoff : off + 8 ≤ n := by omega
      refine descriptor_spec hagree hoff dtds rfl (fun hclock => ?_) fun hclock => ?_
      · have hskip : baseWalk blob n (off :: rest) = baseWalk blob n rest := by
          rw [baseWalk, List.filter_cons_of_neg (by simp [hclock]), baseWalk]
        rw [hskip]
        exact ih hrest dtds
      · have hvisit : baseWalk blob n (off :: rest) = dtdAt blob off :: baseWalk blob n rest := by
          rw [baseWalk, List.filter_cons_of_pos (by simp [hclock, hoff]), List.map_cons, baseWalk]
        rw [hvisit, List.foldl_cons]
        exact ih hrest _

omit hagree in
theorem descriptorOffsets_cons {last off : ℕ} (hfits : off + 18 ≤ last) :
    descriptorOffsets last off = off :: descriptorOffsets last (off + 18) := by
  have hcount : (last - off) / 18 = (last - (off + 18)) / 18 + 1 := by omega
  rw [descriptorOffsets, hcount, List.range_succ_eq_map, List.map_cons, List.map_map,
    descriptorOffsets]
  congr 1
  refine List.map_congr_left fun k _ => ?_
  change off + 18 * (k + 1) = off + 18 + 18 * k
  omega

omit hagree in
theorem descriptorOffsets_nil {last off : ℕ} (hfits : ¬ off + 18 ≤ last) :
    descriptorOffsets last off = [] := by
  have hcount : (last - off) / 18 = 0 := by omega
  rw [descriptorOffsets, hcount]
  rfl

theorem descriptorLoop_spec {last : ℕ} (hlast : last ≤ n) (off : ℕ) (dtds : List Dtd) :
    Triple (Inside n) (descriptorLoop edid last off dtds) fun dtds' reads =>
      dtds' = (descriptorWalk blob last off).foldl collectDtd dtds ∧ Inside n reads := by
  induction off, dtds using descriptorLoop.induct last with
  | case1 off dtds hfits ih =>
      rw [descriptorLoop, if_pos hfits, descriptorWalk, descriptorOffsets_cons hfits]
      refine descriptor_spec hagree (by omega) dtds rfl (fun hclock => ?_) fun hclock => ?_
      · rw [List.takeWhile_cons_of_neg (by simpa using hclock)]
        exact Triple.ret fun reads hreads => ⟨rfl, hreads⟩
      · rw [List.takeWhile_cons_of_pos (by simpa using hclock), List.map_cons, List.foldl_cons]
        exact ih _
  | case2 off dtds hfits =>
      rw [descriptorLoop, if_neg hfits, descriptorWalk, descriptorOffsets_nil hfits]
      exact Triple.ret fun reads hreads => ⟨rfl, hreads⟩

theorem extensionLoop_spec (remaining e : ℕ) (dtds : List Dtd) :
    Triple (Inside n) (extensionLoop edid n remaining e dtds) fun dtds' reads =>
      dtds' = (((List.range' e remaining).takeWhile fun e => Complete n e).flatMap
        (extensionWalk blob)).foldl collectDtd dtds ∧ Inside n reads := by
  induction remaining generalizing e dtds with
  | zero => exact Triple.ret fun reads hreads => ⟨rfl, hreads⟩
  | succ remaining ih =>
      rw [List.range'_succ]
      refine Triple.ite (fun hout => Triple.ret fun reads hreads => ⟨?_, hreads⟩) fun hin => ?_
      · have hincomplete : ¬ Complete n e := Nat.not_le_of_gt hout
        rw [List.takeWhile_cons_of_neg (by simpa using hincomplete)]
        rfl
      have hcomplete : Complete n e := Nat.le_of_not_gt hin
      have hfits : 128 * (e + 1) + 128 ≤ n := hcomplete
      rw [List.takeWhile_cons_of_pos (by simpa using hcomplete), List.flatMap_cons,
        List.foldl_append]
      -- a block that is skipped has no timings
      have hskip : extensionWalk blob e = [] →
          Triple (Inside n) (extensionLoop edid n remaining (e + 1) dtds) fun dtds' reads =>
            dtds' = (((List.range' (e + 1) remaining).takeWhile fun e => Complete n e).flatMap
              (extensionWalk blob)).foldl collectDtd
                ((extensionWalk blob e).foldl collectDtd dtds) ∧ Inside n reads := by
        intro hnone
        rw [hnone]
        exact ih (e + 1) dtds
      refine Triple.bind (readByte_spec hagree (by omega)) fun tag => Triple.fact fun htag => ?_
      subst htag
      refine Triple.ite (fun hother => hskip (if_neg fun h => hother h.1)) fun hcea => ?_
      refine Triple.bind (readByte_spec hagree (by omega)) fun dtdOff =>
        Triple.fact fun hdtdOff => ?_
      subst hdtdOff
      refine Triple.ite (fun hrange => hskip (if_neg fun h => ?_)) fun hrange => ?_
      · rcases hrange with hlow | hhigh
        · exact absurd h.2.1 (UInt8.not_le.mpr hlow)
        · exact absurd h.2.2 (UInt8.not_le.mpr hhigh)
      obtain ⟨hlow, hhigh⟩ := not_or.mp hrange
      have hwalk : extensionWalk blob e = descriptorWalk blob (128 * (e + 1) + 126)
          (128 * (e + 1) + (blob (128 * (e + 1) + 2)).toNat) :=
        if_pos ⟨not_not.mp hcea, UInt8.not_lt.mp hlow, UInt8.not_lt.mp hhigh⟩
      rw [hwalk]
      refine Triple.bind (descriptorLoop_spec hagree (by omega) _ dtds) fun dtds' =>
        Triple.fact fun hdtds' => ?_
      subst hdtds'
      exact ih (e + 1) _

theorem parseDtds_spec : Triple (Inside n) (parseDtds edid n) fun dtds reads =>
    dtds = (edidWalk blob n).foldl collectDtd [] ∧ Inside n reads := by
  have hsorted : [54, 72, 90, 108].Pairwise (· ≤ ·) := by decide
  refine Triple.bind (baseLoop_spec hagree hsorted []) fun dtds => Triple.fact fun hbase => ?_
  rw [edidWalk, List.foldl_append, ← hbase]
  refine Triple.ite (fun hsize => ?_) fun hsize => ?_
  · rw [if_pos hsize, List.range_eq_range']
    refine Triple.bind (readByte_spec hagree (by omega)) fun extCount =>
      Triple.fact fun hextCount => ?_
    subst hextCount
    exact extensionLoop_spec hagree _ 0 dtds
  · rw [if_neg hsize]
    exact Triple.ret fun reads hreads => ⟨rfl, hreads⟩

end Reads

/-- Collecting the timings one by one gives the first 16 distinct proper ones. -/
theorem foldl_collectDtd (timings : List Dtd) :
    timings.foldl collectDtd [] = ((timings.filter fun d => d.Proper).eraseDups).take 16 := by
  rw [← foldl_collect, List.foldl_filter]
  simp only [decide_eq_true_eq]
  rfl

/-- `edid_native_w` and `edid_native_h`. -/
def EdidState.native (gs : EdidState) : ℕ × ℕ := (gs.nativeW.toNat, gs.nativeH.toNat)

theorem native_withDtds (gs : EdidState) (dtds : List Dtd) :
    (gs.withDtds dtds).native =
      (dtds.head?.map fun d => (d.1.toNat, d.2.toNat)).getD (0, 0) := by
  cases dtds with
  | nil => rfl
  | cons d rest => simp [EdidState.native, EdidState.withDtds]

theorem edidSize_copied (gs : EdidState) (resp : EdidReply) :
    (gs.copied resp).edidSize.toNat = min resp.size.toNat 1024 := by
  unfold EdidState.copied
  split
  · next hlarge =>
      have hlarge' : 1024 < resp.size.toNat := UInt32.lt_iff_toNat_lt.mp hlarge
      change 1024 = _
      omega
  · next hsmall =>
      have hsmall' : resp.size.toNat ≤ 1024 :=
        UInt32.le_iff_toNat_le.mp (UInt32.not_lt.mp hsmall)
      change resp.size.toNat = _
      omega

theorem edid_copied (gs : EdidState) (resp : EdidReply) {i : ℕ}
    (hi : i < (gs.copied resp).edidSize.toNat) : (gs.copied resp).edid i = resp.edid i :=
  if_pos hi

/-- For every reply: the blob is copied with its size cut to 1024, no byte outside that size is
read, and the timings are the first 16 distinct proper ones of the walk. -/
theorem edid_timings_exact (gs : EdidState) (resp : EdidReply) (hok : resp.type = respOkEdid) :
    let run := chipGetEdid gs resp []
    let gs' := run.1.2
    let size := gs'.edidSize.toNat
    run.1.1 = true ∧ gs'.hasEdid = true ∧ size = min resp.size.toNat 1024 ∧
      (∀ i < size, gs'.edid i = resp.edid i) ∧
      (∀ i ∈ run.2, i < size) ∧
      gs'.dtds = (((edidWalk resp.edid size).filter fun d => d.Proper).eraseDups).take 16 ∧
      gs'.native = (gs'.dtds.head?.map fun d => (d.1.toNat, d.2.toNat)).getD (0, 0) := by
  have hrun : chipGetEdid gs resp [] =
      ((true, (gs.copied resp).withDtds
          (parseDtds (gs.copied resp).edid (gs.copied resp).edidSize.toNat []).1),
        (parseDtds (gs.copied resp).edid (gs.copied resp).edidSize.toNat []).2) := by
    unfold chipGetEdid
    rw [if_neg (not_not.mpr hok)]
    rfl
  obtain ⟨hdtds, hinside⟩ :=
    parseDtds_spec (fun i hi => edid_copied gs resp hi) [] fun i hi => nomatch hi
  intro run gs' size
  subst run gs' size
  rw [hrun]
  refine ⟨rfl, rfl, edidSize_copied gs resp, fun i hi => edid_copied gs resp hi, hinside, ?_,
    native_withDtds _ _⟩
  rw [← foldl_collectDtd]
  exact hdtds

/-- A reply that announces more than 1024 bytes, of a block with one extension.  Its first timing
is 1920 by 1080, a second one repeats it, and the third, in the extension, is 640 by 480. -/
def wideReply : EdidReply where
  type := respOkEdid
  size := 4096
  edid i :=
    match i with
    | 54 => 1 | 56 => 0x80 | 58 => 0x70 | 59 => 0x38 | 61 => 0x40
    | 72 => 1 | 74 => 0x80 | 76 => 0x70 | 77 => 0x38 | 79 => 0x40
    | 126 => 1
    | 128 => 2 | 130 => 4
    | 132 => 1 | 134 => 0x80 | 136 => 0x20 | 137 => 0xE0 | 139 => 0x10
    | _ => 0

def noEdid : EdidState where
  hasEdid := false
  edidSize := 0
  edid _ := 0
  dtds := []
  nativeW := 0
  nativeH := 0

theorem edid_timings_wideReply :
    (chipGetEdid noEdid wideReply []).1.2.dtds = [(1920, 1080), (640, 480)] ∧
      (chipGetEdid noEdid wideReply []).1.2.native = (1920, 1080) := by
  obtain ⟨-, -, hsize, -, -, hdtds, hnative⟩ := edid_timings_exact noEdid wideReply rfl
  have hwalk : (chipGetEdid noEdid wideReply []).1.2.dtds = [(1920, 1080), (640, 480)] := by
    rw [hdtds, hsize]
    decide +kernel
  rw [hwalk] at hnative
  exact ⟨hwalk, hnative⟩

end VirtIOGPU.Display
