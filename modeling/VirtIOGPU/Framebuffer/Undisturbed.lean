import VirtIOGPU.Framebuffer.Resize

/-!
# Flushes that no mode switch disturbs

`chip_flush_all` reads the dimensions before it takes `io_lock`, and
`chip_resize_fb_to_mode` writes the frame buffer fields without it, so a flush can work
with a mixture of two modes: `mode_switch_tears`.  `flush_undisturbed` shows that this is
all that goes wrong: if the fields are not written while a flush uses them, a flush does not
start among the writes, and the size of no frame buffer wraps around, then every row is
written inside the block that it was meant for and every command names a live resource that
covers its rectangle.
-/

namespace VirtIOGPU

open Lib

variable {s : FbMachine}

/-- A row at or below `fb_height` of a consistent frame buffer ends inside the block. -/
theorem Consistent.row_inside {f : FbFields} {heap : List FbBlock} {host : List HostResource}
    (h : Consistent f heap host) {t : Flush} {row : UInt32} (hdst : t.dst = f.fbMem)
    (hstride : t.stride = f.fbStride) (hrectW : t.rectW ≤ f.fbWidth) (hrectH : t.rectH ≤ f.fbHeight)
    (hrow : row < t.rectH) : RowInside heap t row := by
  obtain ⟨block, hblock, hnumber, hsize⟩ := h.block
  refine ⟨block, hblock, hnumber.trans hdst.symm, fun col hcol => ?_⟩
  have hrow' : row.toNat + 1 ≤ f.fbHeight.toNat :=
    Nat.lt_of_lt_of_le (UInt32.lt_iff_toNat_lt.mp hrow) (UInt32.le_iff_toNat_le.mp hrectH)
  have hcol' : 4 * col + 4 ≤ f.fbStride.toNat := by
    have hwidth := UInt32.le_iff_toNat_le.mp hrectW
    have hfit := h.stride
    omega
  -- the product may wrap around, which only makes it smaller
  have hoffset : (row * t.stride).toNat ≤ row.toNat * f.fbStride.toNat := by
    rw [hstride, UInt32.toNat_mul]
    exact Nat.mod_le _ _
  calc
    (row * t.stride).toNat + 4 * col + 4 ≤ row.toNat * f.fbStride.toNat + f.fbStride.toNat := by
      omega
    _ = (row.toNat + 1) * f.fbStride.toNat := (Nat.succ_mul _ _).symm
    _ ≤ f.fbHeight.toNat * f.fbStride.toNat := Nat.mul_le_mul_right _ hrow'
    _ ≤ block.size.toNat := hsize

theorem FbInv.flushSound (inv : FbInv s) (action : FbAction) : FlushSound s action := by
  cases action with
  | flushStep ok =>
      have hagrees := inv.flush
      unfold Flush.Agrees at hagrees
      refine ⟨fun row hrow => ?_, fun hsends => ?_⟩
      · cases hpc : s.flush.pc <;> simp only [hpc, FlushPc.writtenRow, Option.mem_def, reduceCtorEq,
          Option.some.injEq] at hrow
        subst hrow
        have hsettled := inv.settled (inv.window (by rw [hpc]; rfl))
        rw [hpc] at hagrees
        obtain ⟨-, hdst, hstride, hrectW, hrectH, hbound⟩ := hagrees
        exact hsettled.row_inside hdst hstride hrectW hrectH hbound
      · cases hpc : s.flush.pc <;> simp only [hpc, FlushPc.sends, Bool.false_eq_true] at hsends
        case transfer2D =>
          have hsettled := inv.settled (inv.window (by rw [hpc]; rfl))
          rw [hpc] at hagrees
          obtain ⟨⟨hw, hh⟩, hresource⟩ := hagrees
          rw [hresource]
          exact hsettled.fbResource.mono (fun _ h _ => h) hw hh
        case resourceFlush =>
          have hsettled := inv.settled (inv.window (by rw [hpc]; rfl))
          rw [hpc] at hagrees
          obtain ⟨⟨hw, hh⟩, hresource | hresource⟩ := hagrees
          · rw [hresource]
            exact hsettled.fbResource.mono (fun _ h _ => h) hw hh
          · rw [hresource]
            exact hsettled.resource.mono (fun _ h _ => h) hw hh
  | _ => trivial

/-! ## Every run -/

/-- In every run that stays within `Undisturbed`, every row that a flush converts lies inside
the live block of its destination, and every `TRANSFER_TO_HOST_2D` and `RESOURCE_FLUSH` names a
live resource that covers its rectangle. -/
theorem flush_undisturbed (width height : UInt32) (virgl2dReady fbIsBlob : Bool)
    (hfits : 4 * (maxWidth width).toNat * (maxHeight height).toNat < 2 ^ 32)
    (actions : List FbAction)
    (hwithin : Machine.Within FbMachine.step Undisturbed
      (FbMachine.initial width height virgl2dReady fbIsBlob) actions) :
    Machine.Within FbMachine.step FlushSound
      (FbMachine.initial width height virgl2dReady fbIsBlob) actions :=
  Machine.within_imp (fun _ action inv _ => inv.flushSound action)
    (fun _ _ _ inv hundisturbed hstep => inv.step hundisturbed hstep)
    (FbInv.initial hfits virgl2dReady fbIsBlob) hwithin

/-- `n` steps of the flush task, whose commands all succeed. -/
def flushSteps (n : ℕ) : List FbAction :=
  List.replicate n (.flushStep true)

/-- `n` steps of `chip_SetGC`, in which nothing fails. -/
def switchSteps (n : ℕ) : List FbAction :=
  List.replicate n (.switchStep ⟨true, some (0, 1, 0), true, true⟩)

/-- A flush, a mode switch from 8 by 4 to 4 by 2, and another flush. -/
theorem flush_undisturbed_between :
    Machine.Within FbMachine.step FlushSound (FbMachine.initial 8 4 false false)
      (.startFlush :: flushSteps 29 ++ .setGC 4 2 24 :: switchSteps 33 ++
        .startFlush :: flushSteps 27) :=
  flush_undisturbed 8 4 false false (by decide) _ (by decide +kernel)

/-- A flush that starts after `fb_mem` is assigned and before `fb_stride` is writes its second row
behind the new block; and a flush that read its dimensions before the mode switch transfers a
rectangle that is larger than the new resource. -/
theorem mode_switch_tears :
    ¬ Machine.Within FbMachine.step FlushSound (FbMachine.initial 8 4 false false)
        (.setGC 4 2 24 :: switchSteps 19 ++ .startFlush :: flushSteps 18) ∧
      ¬ Machine.Within FbMachine.step FlushSound (FbMachine.initial 8 4 false false)
        (.startFlush :: flushSteps 6 ++ .setGC 4 2 24 :: switchSteps 33 ++ flushSteps 17) := by
  decide +kernel

end VirtIOGPU
