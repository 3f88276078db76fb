import VirtIOGPU.Framebuffer.Consistency

/-!
# The locals of a flush

While the fields stay as they are, what `chip_flush_all` and `chip_convert_rect` have read
agrees with them: `Flush.Agrees` is kept by every step of the flush task.
-/

namespace VirtIOGPU

open Lib

/-! ## The flush task -/

namespace Flush

variable {t : Flush} {f : FbFields}

/-- Outside the window a flush knows nothing. -/
theorem Agrees.of_not_inWindow (h : t.pc.inWindow = false) (f : FbFields) : t.Agrees f := by
  unfold Agrees
  cases hpc : t.pc with
  | idle => trivial
  | readActive site dim =>
      cases site <;> cases dim <;> simp [hpc, FlushPc.inWindow] at h
      trivial
  | _ => simp [hpc, FlushPc.inWindow] at h

theorem AgreesAt.ite {p : Prop} [Decidable p] {pc pc' : FlushPc} (h : p → t.AgreesAt f pc)
    (h' : ¬ p → t.AgreesAt f pc') : t.AgreesAt f (if p then pc else pc') := by
  by_cases hp : p
  · rw [if_pos hp]
    exact h hp
  · rw [if_neg hp]
    exact h' hp

/-- `min(active, fb)` is not larger than the frame buffer. -/
theorem min_le_fb {dim : Dimension} (hlhs : t.lhs = f.active dim) (hrhs : t.rhs = f.fb dim) :
    (if t.lhs < t.rhs then f.active dim else f.fb dim) ≤ f.fb dim := by
  rw [hlhs, hrhs]
  split
  · exact UInt32.le_of_lt ‹_›
  · exact UInt32.le_rfl

theorem clampExtent_zero_le (extent bound : UInt32) : clampExtent 0 extent bound ≤ bound := by
  unfold clampExtent
  split
  · simp
  · rename_i h
    simpa using h

/-- Storing the minimum keeps the agreement. -/
theorem Agrees.storeMin {site : MinSite} {dim : Dimension} {value : UInt32}
    (hknown : t.Known f site dim) (hvalue : value ≤ f.fb dim) :
    (t.storeMin value site dim).Agrees f := by
  cases site with
  | flushAll =>
      cases dim with
      | width => exact hvalue
      | height =>
          refine AgreesAt.ite (fun _ => ?_) fun _ => ?_
          · trivial
          · exact ⟨hknown, hvalue⟩
  | convertRect =>
      cases dim with
      | width => exact ⟨hknown.1, hknown.2.1, hknown.2.2, hvalue⟩
      | height =>
          obtain ⟨hvisible, hdst, hstride, hmaxW⟩ := hknown
          have hrectW := UInt32.le_trans (clampExtent_zero_le t.w t.maxW) hmaxW
          have hrectH := UInt32.le_trans (clampExtent_zero_le t.h value) hvalue
          refine AgreesAt.ite (fun _ => hvisible) fun hne => ?_
          refine ⟨hvisible, hdst, hstride, hrectW, hrectH, ?_⟩
          exact UInt32.pos_iff_ne_zero.mpr fun h => hne (Or.inr h)

end Flush

variable {s t : FbMachine}

/-- The flush task changes none of the fields and resources of a frame buffer. -/
theorem FbMachine.flushStep_frame {ok : Bool} (hstep : s.flushStep ok = some t) :
    t.fields = s.fields ∧ t.heap = s.heap ∧ t.allocated = s.allocated ∧ t.host = s.host ∧
      t.switch = s.switch := by
  unfold FbMachine.flushStep at hstep
  simp only at hstep
  split at hstep
  case h_1 => simp at hstep
  case h_5 =>
    split at hstep
    · obtain rfl := Option.some.inj hstep
      exact ⟨rfl, rfl, rfl, rfl, rfl⟩
    · simp at hstep
  all_goals
    obtain rfl := Option.some.inj hstep
    exact ⟨rfl, rfl, rfl, rfl, rfl⟩

/-- Every step of a flush keeps the agreement of its locals with the fields. -/
theorem FbMachine.flushStep_agrees {ok : Bool} (hagrees : s.flush.Agrees s.fields)
    (hstep : s.flushStep ok = some t) : t.flush.Agrees s.fields := by
  unfold Flush.Agrees at hagrees
  cases hpc : s.flush.pc <;> rw [hpc] at hagrees <;>
    simp only [flushStep, hpc, reduceCtorEq, Option.some.injEq] at hstep
  case obtain =>
    split at hstep
    · obtain rfl := Option.some.inj hstep
      exact hagrees
    · simp at hstep
  all_goals subst hstep
  case readActive site dim => cases site <;> cases dim <;> exact ⟨hagrees, rfl⟩
  case readFb site dim => cases site <;> cases dim <;> exact ⟨hagrees.1, hagrees.2, rfl⟩
  case readLess site dim =>
    obtain ⟨hknown, hlhs, hrhs⟩ := hagrees
    exact Flush.Agrees.storeMin hknown (Flush.min_le_fb hlhs hrhs)
  case readMem => exact Flush.AgreesAt.ite (fun _ => hagrees) fun _ => ⟨hagrees, rfl⟩
  case readFormat => exact Flush.AgreesAt.ite (fun _ => hagrees) fun _ => hagrees.1
  case readStride => exact ⟨hagrees.1, hagrees.2, rfl⟩
  case row r =>
    obtain ⟨hvisible, hdst, hstride, hrectW, hrectH, -⟩ := hagrees
    refine Flush.AgreesAt.ite (fun hnext => ?_) fun _ => hvisible
    exact ⟨hvisible, hdst, hstride, hrectW, hrectH, hnext⟩
  case readTransferId => exact ⟨hagrees, rfl⟩
  case readBlob => exact Flush.AgreesAt.ite (fun _ => hagrees) fun _ => hagrees
  case readBlobId => exact Flush.AgreesAt.ite (fun _ => hagrees.1) fun _ => hagrees
  case transfer2D => exact Flush.AgreesAt.ite (fun _ => hagrees.1) fun _ => hagrees.1
  case readFlushId fb =>
    refine ⟨hagrees, ?_⟩
    cases fb <;> simp
  case resourceFlush => exact hagrees.1
  case release => trivial
  case setError => exact hagrees
  case readFlushReady => exact hagrees
  -- the steps that decide between the paths
  all_goals exact Flush.AgreesAt.ite (fun _ => hagrees) fun _ => hagrees

end VirtIOGPU
