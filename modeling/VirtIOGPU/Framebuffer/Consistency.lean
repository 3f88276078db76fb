import Mathlib.Algebra.Group.Nat.Defs
import VirtIOGPU.Framebuffer.ModeSwitch

/-!
# When the frame buffer fields agree

What a flush must not do (`FlushSound`), what keeps it from doing so (`Undisturbed`), and the
invariant that connects the two.

The invariant follows `target`, the fields as they will be after the assignments that are
pending.  It describes one frame buffer at every moment; the fields themselves do so except
among the assignments of `chip_resize_fb_to_mode`.

## Strategy

```text
place of chip_resize_fb_to_mode     fields          target          the host and the heap hold
before the assignments              the old ones    the old ones    both
among the assignments               a mixture       the new ones    both
after them                          the new ones    the new ones    both, until they are given back
```

So `Consistent target` holds throughout, and `Consistent fields` where nothing is pending or all of
it is.  A flush that has begun finds the fields as they were when it began, as long as no assignment
comes in between; that is what `Undisturbed` asks for, and `Flush.Agrees` is what follows from it.
-/

namespace VirtIOGPU

open Lib

/-! ## Properties and restrictions of a step -/

/-- The resource is live, and the rectangle at its origin lies inside it. -/
def Covers (host : List HostResource) (id w h : UInt32) : Prop :=
  ∃ r ∈ host, r.id = id ∧ w ≤ r.width ∧ h ≤ r.height

/-- The pixels of the row lie inside a live block, the one that the destination points to. -/
def RowInside (heap : List FbBlock) (t : Flush) (row : UInt32) : Prop :=
  ∃ block ∈ heap, block.number = t.dst ∧
    ∀ col < t.rectW.toNat, (row * t.stride).toNat + 4 * col + 4 ≤ block.size.toNat

def FlushPc.writtenRow : FlushPc → Option UInt32
  | .row r => some r
  | _ => none

/-- The step sends `TRANSFER_TO_HOST_2D` or `RESOURCE_FLUSH`. -/
def FlushPc.sends : FlushPc → Bool
  | .transfer2D => true
  | .resourceFlush => true
  | _ => false

/-- The row that is written lies inside its block, and the command that is sent names a live
resource and a rectangle inside it. -/
def FlushSound (s : FbMachine) : FbAction → Prop
  | .flushStep _ =>
      (∀ row ∈ s.flush.pc.writtenRow, RowInside s.heap s.flush row) ∧
        (s.flush.pc.sends → Covers s.host s.flush.resource s.flush.w s.flush.h)
  | _ => True

/-- From the first read of a dimension to the release of `io_lock`. -/
def FlushPc.inWindow : FlushPc → Bool
  | .idle => false
  | .readActive .flushAll .width => false
  | _ => true

/-- A dimension, a pointer or a resource id, but not the pixel format. -/
def FieldWrite.layout : FieldWrite → Bool
  | .activeFormat _ => false
  | _ => true

def SwitchPc.nextWrite : SwitchPc → Option FieldWrite
  | .setActive (w :: _) => some w
  | .publish (w :: _) => some w
  | _ => none

/-- `chip_resize_fb_to_mode` has made its first assignment and not its last. -/
def Switch.torn (m : Switch) : Bool :=
  match m.pc with
  | .publish rest => rest ≠ [] ∧ rest ≠ m.published
  | _ => false

/-- The sizes do not wrap around, no dimension or frame buffer field is written between a
flush's first read of a dimension and its release of the lock, and no flush makes its first
read among the writes of a resize. -/
def Undisturbed (s : FbMachine) : FbAction → Prop
  | .setGC width height _ => 4 * width.toNat * height.toNat < 2 ^ 32
  | .switchStep _ => s.flush.pc.inWindow → ∀ w ∈ s.switch.pc.nextWrite, w.layout = false
  | .startFlush => True
  | .flushStep _ => s.flush.pc = .readActive .flushAll .width → s.switch.torn = false

instance (host : List HostResource) (id w h : UInt32) : Decidable (Covers host id w h) :=
  inferInstanceAs (Decidable (∃ r ∈ host, r.id = id ∧ w ≤ r.width ∧ h ≤ r.height))

instance (heap : List FbBlock) (t : Flush) (row : UInt32) : Decidable (RowInside heap t row) :=
  inferInstanceAs (Decidable (∃ block ∈ heap, block.number = t.dst ∧
    ∀ col < t.rectW.toNat, (row * t.stride).toNat + 4 * col + 4 ≤ block.size.toNat))

instance (s : FbMachine) :
    Decidable (∀ row ∈ s.flush.pc.writtenRow, RowInside s.heap s.flush row) :=
  Option.decidableForallMem _

instance (s : FbMachine) : DecidablePred (FlushSound s)
  | .flushStep _ => inferInstanceAs (Decidable (
      (∀ row ∈ s.flush.pc.writtenRow, RowInside s.heap s.flush row) ∧
        (s.flush.pc.sends → Covers s.host s.flush.resource s.flush.w s.flush.h)))
  | .setGC _ _ _ | .switchStep _ | .startFlush => isTrue trivial

instance (s : FbMachine) : DecidablePred (Undisturbed s)
  | .setGC width height _ => inferInstanceAs (Decidable (4 * width.toNat * height.toNat < 2 ^ 32))
  | .switchStep _ => inferInstanceAs (Decidable (s.flush.pc.inWindow →
      ∀ w ∈ s.switch.pc.nextWrite, w.layout = false))
  | .startFlush => isTrue trivial
  | .flushStep _ => inferInstanceAs (Decidable (s.flush.pc = .readActive .flushAll .width →
      s.switch.torn = false))

/-! ## Consistent fields -/

/-- The fields describe one frame buffer: its block holds `fb_height` rows of `fb_stride` bytes,
a row of pixels fits into the stride, and both resources are live and not smaller. -/
structure Consistent (f : FbFields) (heap : List FbBlock) (host : List HostResource) : Prop where
  block : ∃ block ∈ heap, block.number = f.fbMem ∧
    f.fbHeight.toNat * f.fbStride.toNat ≤ block.size.toNat
  stride : 4 * f.fbWidth.toNat ≤ f.fbStride.toNat
  fbResource : Covers host f.fbResourceId f.fbWidth f.fbHeight
  resource : Covers host f.resourceId f.fbWidth f.fbHeight

theorem Covers.mono {host host' : List HostResource} {id w h w' h' : UInt32}
    (hcovers : Covers host id w h) (hkept : ∀ r ∈ host, r.id = id → r ∈ host')
    (hw : w' ≤ w) (hh : h' ≤ h) : Covers host' id w' h' := by
  obtain ⟨r, hr, hid, hrw, hrh⟩ := hcovers
  exact ⟨r, hkept r hr hid, hid, UInt32.le_trans hw hrw, UInt32.le_trans hh hrh⟩

theorem Covers.mem_ids {host : List HostResource} {id w h : UInt32} (hcovers : Covers host id w h) :
    id ∈ host.map HostResource.id := by
  obtain ⟨r, hr, rfl, -⟩ := hcovers
  exact List.mem_map_of_mem hr

theorem Consistent.mono {f : FbFields} {heap heap' : List FbBlock} {host host' : List HostResource}
    (h : Consistent f heap host) (hheap : ∀ block ∈ heap, block.number = f.fbMem → block ∈ heap')
    (hhost : ∀ r ∈ host, r.id = f.fbResourceId ∨ r.id = f.resourceId → r ∈ host') :
    Consistent f heap' host' := by
  obtain ⟨block, hblock, hnumber, hsize⟩ := h.block
  refine ⟨⟨block, hheap block hblock hnumber, hnumber, hsize⟩, h.stride, ?_, ?_⟩
  · exact h.fbResource.mono (fun r hr hid => hhost r hr (Or.inl hid)) UInt32.le_rfl UInt32.le_rfl
  · exact h.resource.mono (fun r hr hid => hhost r hr (Or.inr hid)) UInt32.le_rfl UInt32.le_rfl

/-- The assignments of `chip_SetGC` itself. -/
def FieldWrite.isActive : FieldWrite → Bool
  | .activeFormat _ => true
  | .activeWidth _ => true
  | .activeHeight _ => true
  | _ => false

theorem Consistent.write {f : FbFields} {heap : List FbBlock} {host : List HostResource}
    (h : Consistent f heap host) {w : FieldWrite} (hw : w.isActive = true) :
    Consistent (f.write w) heap host := by
  cases w with
  | activeFormat => exact ⟨h.block, h.stride, h.fbResource, h.resource⟩
  | activeWidth => exact ⟨h.block, h.stride, h.fbResource, h.resource⟩
  | activeHeight => exact ⟨h.block, h.stride, h.fbResource, h.resource⟩
  | _ => simp [FieldWrite.isActive] at hw

/-! ## The invariant of the task in `chip_SetGC` -/

/-- The assignments that are pending. -/
def Switch.pending (m : Switch) : List FieldWrite :=
  match m.pc with
  | .setActive rest => rest
  | .publish rest => rest
  | _ => []

/-- The fields after the pending assignments. -/
def FbMachine.target (s : FbMachine) : FbFields :=
  s.switch.pending.foldl FbFields.write s.fields

theorem FbMachine.target_eq_fields {s : FbMachine} (h : s.switch.pending = []) :
    s.target = s.fields := by
  rw [FbMachine.target, h, List.foldl_nil]

namespace Switch

/-- The sizes of the new frame buffer did not wrap around. -/
def Sized (m : Switch) : Prop :=
  m.newStride.toNat = 4 * m.newW.toNat ∧ m.newSize.toNat = m.newH.toNat * m.newStride.toNat

/-- The new block is live and not the current one. -/
def NewBlock (m : Switch) (f : FbFields) (heap : List FbBlock) : Prop :=
  (∃ block ∈ heap, block.number = m.newMem ∧ block.size = m.newSize) ∧ m.newMem ≠ f.fbMem

/-- The new resource is live and not a current one. -/
def NewResource (m : Switch) (f : FbFields) (host : List HostResource) : Prop :=
  Covers host m.newResId m.newW m.newH ∧ m.newResId ≠ f.fbResourceId ∧ m.newResId ≠ f.resourceId

/-- The old block and resource are not in use. -/
def Retired (m : Switch) (f : FbFields) : Prop :=
  m.oldMem ≠ f.fbMem ∧ m.oldRes ≠ f.fbResourceId ∧ m.oldRes ≠ f.resourceId

/-- What holds before a command. -/
def Before (m : Switch) (f : FbFields) (heap : List FbBlock) (host : List HostResource) :
    SwitchCommand → Prop
  | .create => m.Sized ∧ m.NewBlock f heap
  | .attach => m.Sized ∧ m.NewBlock f heap ∧ m.NewResource f host
  | .scanout _ => m.Sized ∧ m.NewBlock f heap ∧ m.NewResource f host
  | .unrefNew => m.newMem ≠ f.fbMem ∧ m.newResId ≠ f.fbResourceId ∧ m.newResId ≠ f.resourceId
  | .unrefOld => m.Retired f

/-- What holds at a place outside a command; `f` are the fields after the pending
assignments. -/
def At (m : Switch) (f : FbFields) (heap : List FbBlock) (host : List HostResource) :
    SwitchPc → Prop
  | .setActive rest => ∀ w ∈ rest, w.isActive = true
  | .alloc => m.Sized
  | .prepareDma => m.Sized ∧ m.NewBlock f heap
  | .allocId => m.Sized ∧ m.NewBlock f heap
  | .obtain cmd => m.Before f heap host cmd
  | .send cmd => m.Before f heap host cmd
  | .snapshot => m.Sized ∧ m.NewBlock f heap ∧ m.NewResource f host
  | .publish rest => m.Retired f ∧ rest <:+ m.published
  | .freeOld => m.Retired f
  | .freeNew => m.newMem ≠ f.fbMem
  | _ => True

def Holds (m : Switch) (f : FbFields) (heap : List FbBlock) (host : List HostResource) : Prop :=
  match m.pc with
  | .release cmd ok => m.At f heap host (cmd.next ok)
  | pc => m.At f heap host pc

/-! ### Single places -/

theorem torn_of_pending {m : Switch} (h : m.pending = []) : m.torn = false := by
  unfold Switch.torn
  unfold Switch.pending at h
  split <;> simp_all

/-- A command leaves the current resources alone. -/
theorem apply_keeps {m : Switch} {f : FbFields} {heap : List FbBlock}
    {host host' : List HostResource} {cmd : SwitchCommand} (hbefore : m.Before f heap host cmd)
    (happly : cmd.apply m host = some host') {r : HostResource} (hr : r ∈ host)
    (hid : r.id = f.fbResourceId ∨ r.id = f.resourceId) : r ∈ host' := by
  cases cmd with
  | create =>
      simp only [SwitchCommand.apply] at happly
      split at happly
      · simp at happly
      · obtain rfl := Option.some.inj happly
        exact List.mem_cons_of_mem _ hr
  | attach =>
      obtain rfl := Option.some.inj happly
      exact hr
  | scanout retries =>
      obtain rfl := Option.some.inj happly
      exact hr
  | unrefNew =>
      obtain rfl := Option.some.inj happly
      refine List.mem_filter.mpr ⟨hr, decide_eq_true ?_⟩
      rcases hid with hid | hid <;> rw [hid]
      exacts [hbefore.2.1.symm, hbefore.2.2.symm]
  | unrefOld =>
      obtain rfl := Option.some.inj happly
      refine List.mem_filter.mpr ⟨hr, decide_eq_true ?_⟩
      rcases hid with hid | hid <;> rw [hid]
      exacts [hbefore.2.1.symm, hbefore.2.2.symm]

/-- What the next place needs holds after the command, whether it took effect or not. -/
theorem apply_next {m : Switch} {f : FbFields} {heap : List FbBlock}
    {host host' : List HostResource} {cmd : SwitchCommand} {ok : Bool}
    (hconsistent : Consistent f heap host) (hbefore : m.Before f heap host cmd)
    (happly : cmd.apply m host = some host' ∨ ok = false ∧ host' = host) :
    m.At f heap host' (cmd.next ok) := by
  cases cmd with
  | create =>
      cases ok with
      | false => exact hbefore.2.2
      | true =>
          obtain happly | ⟨hfalse, -⟩ := happly
          · simp only [SwitchCommand.apply] at happly
            split at happly
            · simp at happly
            · -- the host refuses an id that it knows, so the new one is not in the fields
              rename_i hnew
              obtain rfl := Option.some.inj happly
              refine ⟨hbefore.1, hbefore.2, ⟨_, List.mem_cons_self .., rfl, UInt32.le_rfl,
                UInt32.le_rfl⟩, fun h => hnew (Or.inr ?_), fun h => hnew (Or.inr ?_)⟩
              · rw [h]
                exact hconsistent.fbResource.mem_ids
              · rw [h]
                exact hconsistent.resource.mem_ids
          · simp at hfalse
  | attach =>
      obtain rfl : host' = host := by
        rcases happly with happly | ⟨-, rfl⟩
        exacts [(Option.some.inj happly).symm, rfl]
      cases ok with
      | false => exact ⟨hbefore.2.1.2, hbefore.2.2.2⟩
      | true => exact hbefore
  | scanout retries =>
      obtain rfl : host' = host := by
        rcases happly with happly | ⟨-, rfl⟩
        exacts [(Option.some.inj happly).symm, rfl]
      cases ok with
      | false =>
          cases retries with
          | zero => exact ⟨hbefore.2.1.2, hbefore.2.2.2⟩
          | succ n => exact hbefore
      | true => exact hbefore
  | unrefNew => exact hbefore.1
  | unrefOld => exact hbefore

theorem published_layout {m : Switch} {w : FieldWrite} (hw : w ∈ m.published) :
    w.layout = true := by
  simp only [Switch.published, List.mem_cons, List.not_mem_nil, or_false] at hw
  rcases hw with rfl | rfl | rfl | rfl | rfl | rfl | rfl | rfl | rfl | rfl <;> rfl

theorem published_fields (m : Switch) (f : FbFields) :
    m.published.foldl FbFields.write f =
      { f with
        fbMem := m.newMem
        fbPhys := m.newPhys
        fbWidth := m.newW
        fbHeight := m.newH
        fbStride := m.newStride
        fbSize := m.newSize
        fbDmaCount := m.newDmaCount
        fbDmaList := m.newDmaList
        resourceId := m.newResId
        fbResourceId := m.newResId } := by
  simp only [Switch.published, List.foldl_cons, List.foldl_nil, FbFields.write]

/-- The fields that `chip_resize_fb_to_mode` is about to publish describe the new frame
buffer. -/
theorem consistent_published {m : Switch} {f : FbFields} {heap : List FbBlock}
    {host : List HostResource} (hsized : m.Sized) (hblock : m.NewBlock f heap)
    (hresource : m.NewResource f host) :
    Consistent (m.published.foldl FbFields.write f) heap host := by
  obtain ⟨block, hmem, hnumber, hsize⟩ := hblock.1
  rw [published_fields]
  refine ⟨⟨block, hmem, hnumber, ?_⟩, Nat.le_of_eq hsized.1.symm, hresource.1, hresource.1⟩
  rw [hsize]
  exact Nat.le_of_eq hsized.2.symm

end Switch

/-- After a command there is another one, or a place of its own. -/
theorem SwitchCommand.next_cases (cmd : SwitchCommand) (ok : Bool) :
    (∃ cmd', cmd.next ok = .obtain cmd') ∨ cmd.next ok = .snapshot ∨ cmd.next ok = .freeNew ∨
      cmd.next ok = .freeOld := by
  cases cmd with
  | scanout retries => cases ok <;> cases retries <;> simp [SwitchCommand.next]
  | _ => cases ok <;> simp [SwitchCommand.next]

/-- The sizes that `chip_resize_fb_to_mode` computes. -/
theorem strideSize_toNat {w h : UInt32} (hfits : 4 * w.toNat * h.toNat < 2 ^ 32) (hh : h ≠ 0) :
    (w * 4).toNat = 4 * w.toNat ∧ (h * (w * 4)).toNat = h.toNat * (w * 4).toNat := by
  have hpos : 0 < h.toNat := Nat.pos_of_ne_zero fun h0 => hh (UInt32.toNat_inj.mp h0)
  have hwidth : 4 * w.toNat ≤ 4 * w.toNat * h.toNat := Nat.le_mul_of_pos_right _ hpos
  have hstride : (w * 4).toNat = 4 * w.toNat := by
    rw [UInt32.toNat_mul, show (4 : UInt32).toNat = 4 from rfl]
    omega
  refine ⟨hstride, ?_⟩
  have hlt : h.toNat * (w * 4).toNat < 2 ^ 32 :=
    calc h.toNat * (w * 4).toNat = 4 * w.toNat * h.toNat := by rw [hstride, Nat.mul_comm]
      _ < 2 ^ 32 := hfits
  rw [UInt32.toNat_mul, Nat.mod_eq_of_lt hlt]

/-- Releasing a block that is not the current one. -/
theorem mem_released {heap : List FbBlock} {number current : ℕ} (hne : number ≠ current) :
    ∀ block ∈ heap, block.number = current → block ∈ heap.filter fun b => b.number ≠ number := by
  intro block hblock hnumber
  refine List.mem_filter.mpr ⟨hblock, decide_eq_true ?_⟩
  rw [hnumber]
  exact hne.symm

/-! ## The invariant of the flush task -/

namespace Flush

/-- The dimensions of the flush are those of the frame buffer or smaller. -/
def Visible (t : Flush) (f : FbFields) : Prop :=
  t.w ≤ f.fbWidth ∧ t.h ≤ f.fbHeight

/-- What is known before `min(active, fb)` is computed. -/
def Known (t : Flush) (f : FbFields) : MinSite → Dimension → Prop
  | .flushAll, .width => True
  | .flushAll, .height => t.w ≤ f.fbWidth
  | .convertRect, .width => t.Visible f ∧ t.dst = f.fbMem ∧ t.stride = f.fbStride
  | .convertRect, .height =>
      t.Visible f ∧ t.dst = f.fbMem ∧ t.stride = f.fbStride ∧ t.maxW ≤ f.fbWidth

/-- The locals agree with the fields, for a flush at the given place. -/
def AgreesAt (t : Flush) (f : FbFields) : FlushPc → Prop
  | .idle => True
  | .readActive site dim => t.Known f site dim
  | .readFb site dim => t.Known f site dim ∧ t.lhs = f.active dim
  | .readLess site dim => t.Known f site dim ∧ t.lhs = f.active dim ∧ t.rhs = f.fb dim
  | .readFormat => t.Visible f ∧ t.dst = f.fbMem
  | .readStride => t.Visible f ∧ t.dst = f.fbMem
  | .row r => t.Visible f ∧ t.dst = f.fbMem ∧ t.stride = f.fbStride ∧ t.rectW ≤ f.fbWidth ∧
      t.rectH ≤ f.fbHeight ∧ r < t.rectH
  | .readBlob => t.Visible f ∧ t.resource = f.fbResourceId
  | .readBlobId => t.Visible f ∧ t.resource = f.fbResourceId
  | .transfer2D => t.Visible f ∧ t.resource = f.fbResourceId
  | .resourceFlush => t.Visible f ∧ (t.resource = f.fbResourceId ∨ t.resource = f.resourceId)
  | _ => t.Visible f

def Agrees (t : Flush) (f : FbFields) : Prop :=
  t.AgreesAt f t.pc

end Flush

structure FbInv (s : FbMachine) : Prop where
  target : Consistent s.target s.heap s.host
  settled : s.switch.torn = false → Consistent s.fields s.heap s.host
  fits : 4 * s.target.activeWidth.toNat * s.target.activeHeight.toNat < 2 ^ 32
  numbers : ∀ block ∈ s.heap, block.number ≤ s.allocated
  switch : s.switch.Holds s.target s.heap s.host
  window : s.flush.pc.inWindow = true → s.switch.torn = false
  flush : s.flush.Agrees s.fields

end VirtIOGPU
