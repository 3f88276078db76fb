import VirtIOGPU.Framebuffer.FlushLocals

/-!
# Resizing keeps the frame buffer consistent

`FbInv` is kept by every step that `Undisturbed` permits.  The task in `chip_SetGC` is
followed through `chip_resize_fb_to_mode`: the new block and the new resource are made
before the fields name them, and the old ones are given back after the fields have ceased to.

## Strategy

A step of `chip_SetGC` is of one of five kinds, and each has one lemma for the whole invariant:

```text
kind       changes                         what has to be shown
quiet      locals and the heap             the block that the fields name stays
setActive  an active field                 no field of the frame buffer (`Consistent.write`)
send       the host                        the resources that the fields name stay
snapshot   locals; the writes are pending  the target is consistent (`consistent_published`)
publish    one field of the frame buffer   no flush is in its window; at the end they agree
```

The steps of the flush are those of `FlushLocals`; they change neither fields nor heap nor host.
-/

namespace VirtIOGPU

open Lib

variable {s t : FbMachine}

namespace FbInv

/-- A step of the flush task, and the entry into `chip_flush_all`. -/
theorem of_flush (inv : FbInv s) (hframe : t.fields = s.fields ∧ t.heap = s.heap ∧
    t.allocated = s.allocated ∧ t.host = s.host ∧ t.switch = s.switch)
    (hwindow : t.flush.pc.inWindow = true → s.switch.torn = false)
    (hagrees : t.flush.Agrees s.fields) : FbInv t := by
  obtain ⟨hfields, hheap, hallocated, hhost, hswitch⟩ := hframe
  have htarget : t.target = s.target := by rw [FbMachine.target, hfields, hswitch, FbMachine.target]
  refine ⟨?_, ?_, ?_, ?_, ?_, ?_, ?_⟩
  · rw [htarget, hheap, hhost]
    exact inv.target
  · rw [hswitch, hfields, hheap, hhost]
    exact inv.settled
  · rw [htarget]
    exact inv.fits
  · rw [hheap, hallocated]
    exact inv.numbers
  · rw [hswitch, htarget, hheap, hhost]
    exact inv.switch
  · rw [hswitch]
    exact hwindow
  · rw [hfields]
    exact hagrees

theorem flushStep (inv : FbInv s) {ok : Bool} (hundisturbed : Undisturbed s (.flushStep ok))
    (hstep : s.flushStep ok = some t) : FbInv t := by
  refine inv.of_flush (FbMachine.flushStep_frame hstep) (fun _ => ?_)
    (FbMachine.flushStep_agrees inv.flush hstep)
  by_cases hfirst : s.flush.pc = .readActive .flushAll .width
  · exact hundisturbed hfirst
  · by_cases hidle : s.flush.pc = .idle
    · simp [FbMachine.flushStep, hidle] at hstep
    · refine inv.window ?_
      unfold FlushPc.inWindow
      split <;> simp_all

theorem startFlush (inv : FbInv s) (hstep : s.startFlush = some t) : FbInv t := by
  unfold FbMachine.startFlush at hstep
  split at hstep
  · split at hstep
    · obtain rfl := Option.some.inj hstep
      exact inv
    · obtain rfl := Option.some.inj hstep
      exact inv.of_flush ⟨rfl, rfl, rfl, rfl, rfl⟩ (by simp [FlushPc.inWindow]) trivial
  · simp at hstep

/-! ## The task in `chip_SetGC` -/

/-- What holds at a place without pending assignments. -/
theorem at_fields (inv : FbInv s) (hpending : s.switch.pending = []) :
    s.switch.Holds s.fields s.heap s.host := by
  have h := inv.switch
  rwa [FbMachine.target_eq_fields hpending] at h

/-- A step without pending assignments before and after it. -/
theorem of_switch (inv : FbInv s) (hfields : t.fields = s.fields) (hflush : t.flush = s.flush)
    (hpending : s.switch.pending = []) (hpending' : t.switch.pending = [])
    (hheap : ∀ block ∈ s.heap, block.number = s.fields.fbMem → block ∈ t.heap)
    (hhost : ∀ r ∈ s.host, r.id = s.fields.fbResourceId ∨ r.id = s.fields.resourceId → r ∈ t.host)
    (hnumbers : ∀ block ∈ t.heap, block.number ≤ t.allocated)
    (hholds : t.switch.Holds s.fields t.heap t.host) : FbInv t := by
  have htarget := FbMachine.target_eq_fields hpending
  have htarget' : t.target = s.fields := (FbMachine.target_eq_fields hpending').trans hfields
  have hconsistent : Consistent s.fields t.heap t.host :=
    (htarget ▸ inv.target).mono hheap hhost
  refine ⟨?_, ?_, ?_, hnumbers, ?_, ?_, ?_⟩
  · rwa [htarget']
  · intro _
    rwa [hfields]
  · rw [htarget', ← htarget]
    exact inv.fits
  · rwa [htarget']
  · intro _
    exact Switch.torn_of_pending hpending'
  · rw [hflush, hfields]
    exact inv.flush

/-- A command of `chip_resize_fb_to_mode` on the host. -/
theorem send (inv : FbInv s) {env : SwitchEnv} {cmd : SwitchCommand} (hpc : s.switch.pc = .send cmd)
    (hstep : s.switchStep env = some t) : FbInv t := by
  have hpending : s.switch.pending = [] := by simp [Switch.pending, hpc]
  have hbefore : s.switch.Before s.fields s.heap s.host cmd := by
    have h := inv.at_fields hpending
    rw [Switch.Holds, hpc] at h
    exact h
  have hconsistent : Consistent s.fields s.heap s.host :=
    inv.settled (Switch.torn_of_pending hpending)
  simp only [FbMachine.switchStep, hpc] at hstep
  split at hstep
  · simp at hstep
  · rename_i haccepted
    obtain rfl := Option.some.inj hstep
    -- the host after the command
    have hcases : cmd.apply s.switch s.host = some (if env.ok ∨ env.effect then
        (cmd.apply s.switch s.host).getD s.host else s.host) ∨ env.ok = false ∧
        (if env.ok ∨ env.effect then (cmd.apply s.switch s.host).getD s.host else s.host) =
          s.host := by
      cases happly : cmd.apply s.switch s.host with
      | none =>
          have hok : env.ok = false := by simpa [happly] using haccepted
          exact Or.inr ⟨hok, by simp⟩
      | some host' =>
          by_cases htaken : env.ok = true ∨ env.effect = true
          · exact Or.inl (by simp [htaken])
          · exact Or.inr ⟨by simpa using fun h => htaken (Or.inl h), by simp [htaken]⟩
    refine inv.of_switch rfl rfl hpending rfl (fun _ h _ => h) ?_ inv.numbers
      (Switch.apply_next hconsistent hbefore hcases)
    intro r hr hid
    rcases hcases with happly | ⟨-, hsame⟩
    · exact Switch.apply_keeps hbefore happly hr hid
    · exact (congrArg (r ∈ ·) hsame).mpr hr

/-- An assignment that is pending. -/
theorem write (inv : FbInv s) {w : FieldWrite} {rest : List FieldWrite}
    (hundisturbed : s.flush.pc.inWindow = true → w.layout = false)
    (hpending : s.switch.pending = w :: rest) (hpending' : t.switch.pending = rest)
    (hsame : t = { s with fields := s.fields.write w, switch := t.switch })
    (htorn : s.flush.pc.inWindow = true → t.switch.torn = false)
    (hsettled : t.switch.torn = false → Consistent t.fields s.heap s.host)
    (hholds : t.switch.Holds s.target s.heap s.host) : FbInv t := by
  have htarget : t.target = s.target := by
    rw [FbMachine.target, FbMachine.target, hpending, hpending', List.foldl_cons, hsame]
  have hflush : t.flush.Agrees t.fields := by
    rw [hsame]
    cases hwindow : s.flush.pc.inWindow with
    | false => exact Flush.Agrees.of_not_inWindow hwindow _
    | true =>
        -- only the pixel format changes
        cases w with
        | activeFormat value => exact inv.flush
        | _ => simp [FieldWrite.layout] at hundisturbed; simp [hwindow] at hundisturbed
  have hheap : t.heap = s.heap := by rw [hsame]
  have hhost : t.host = s.host := by rw [hsame]
  have hallocated : t.allocated = s.allocated := by rw [hsame]
  refine ⟨?_, ?_, ?_, ?_, ?_, ?_, hflush⟩
  · rw [htarget, hheap, hhost]
    exact inv.target
  · rwa [hheap, hhost]
  · rw [htarget]
    exact inv.fits
  · rw [hheap, hallocated]
    exact inv.numbers
  · rwa [htarget, hheap, hhost]
  · rw [show t.flush = s.flush by rw [hsame]]
    exact htorn

theorem setActive (inv : FbInv s) {env : SwitchEnv} {w : FieldWrite} {rest : List FieldWrite}
    (hundisturbed : Undisturbed s (.switchStep env)) (hpc : s.switch.pc = .setActive (w :: rest))
    (hstep : s.switchStep env = some t) : FbInv t := by
  have hactive : ∀ v ∈ w :: rest, v.isActive = true := by
    have h := inv.switch
    rw [Switch.Holds, hpc] at h
    exact h
  have hlayout : s.flush.pc.inWindow = true → w.layout = false := fun h =>
    hundisturbed h w (by simp [hpc, SwitchPc.nextWrite])
  have htorn : s.switch.torn = false := by simp [Switch.torn, hpc]
  simp only [FbMachine.switchStep, hpc, Option.some.injEq] at hstep
  subst hstep
  refine inv.write hlayout (by simp [Switch.pending, hpc]) rfl rfl (fun _ => rfl) ?_ ?_
  · exact fun _ => (inv.settled htorn).write (hactive w (List.mem_cons_self ..))
  · exact fun v hv => hactive v (List.mem_cons_of_mem _ hv)

theorem publish (inv : FbInv s) {env : SwitchEnv} {w : FieldWrite} {rest : List FieldWrite}
    (hundisturbed : Undisturbed s (.switchStep env)) (hpc : s.switch.pc = .publish (w :: rest))
    (hstep : s.switchStep env = some t) : FbInv t := by
  obtain ⟨hretired, hsuffix⟩ : s.switch.Retired s.target ∧ (w :: rest) <:+ s.switch.published := by
    have h := inv.switch
    rw [Switch.Holds, hpc] at h
    exact h
  -- no flush is in its window
  have houtside : s.flush.pc.inWindow = true → False := fun h => by
    have hlayout := hundisturbed h w (by simp [hpc, SwitchPc.nextWrite])
    rw [Switch.published_layout (hsuffix.subset (List.mem_cons_self ..))] at hlayout
    simp at hlayout
  have hpending : s.switch.pending = w :: rest := by simp [Switch.pending, hpc]
  simp only [FbMachine.switchStep, hpc, Option.some.injEq] at hstep
  subst hstep
  refine inv.write (fun h => (houtside h).elim) hpending rfl rfl
    (fun h => (houtside h).elim) ?_ ⟨hretired, (List.suffix_cons w rest).trans hsuffix⟩
  intro hsettled
  -- all assignments are made
  obtain rfl : rest = [] := by
    have hshort : rest.length < s.switch.published.length := hsuffix.length_le
    by_contra hne
    have hpublished : rest ≠ s.switch.published := fun h => by
      rw [h] at hshort
      omega
    refine absurd hsettled ?_
    simp only [Switch.torn, Bool.not_eq_false]
    exact decide_eq_true ⟨hne, hpublished⟩
  have htarget := inv.target
  rwa [FbMachine.target, hpending, List.foldl_cons, List.foldl_nil] at htarget

theorem snapshot (inv : FbInv s) {env : SwitchEnv} (hpc : s.switch.pc = .snapshot)
    (hstep : s.switchStep env = some t) : FbInv t := by
  have hpending : s.switch.pending = [] := by simp [Switch.pending, hpc]
  obtain ⟨hsized, hblock, hresource⟩ : s.switch.Sized ∧ s.switch.NewBlock s.fields s.heap ∧
      s.switch.NewResource s.fields s.host := by
    have h := inv.at_fields hpending
    rw [Switch.Holds, hpc] at h
    exact h
  have hconsistent := inv.settled (Switch.torn_of_pending hpending)
  have hfits := inv.fits
  rw [FbMachine.target_eq_fields hpending] at hfits
  simp only [FbMachine.switchStep, hpc, Option.some.injEq] at hstep
  have htarget' : t.target = s.switch.published.foldl FbFields.write s.fields := by
    rw [← hstep]
    rfl
  subst hstep
  refine ⟨?_, fun _ => hconsistent, ?_, inv.numbers, ?_, fun _ => ?_, inv.flush⟩
  · rw [htarget']
    exact Switch.consistent_published hsized hblock hresource
  · rw [htarget', Switch.published_fields]
    exact hfits
  · rw [htarget', Switch.published_fields]
    exact ⟨⟨hblock.2.symm, hresource.2.1.symm, hresource.2.1.symm⟩, List.suffix_rfl⟩
  · simp [Switch.torn, Switch.published]

/-- A step that touches neither the fields nor the host. -/
theorem of_quiet (inv : FbInv s) (hfields : t.fields = s.fields) (hflush : t.flush = s.flush)
    (hhost : t.host = s.host) (hpending : s.switch.pending = []) (hpending' : t.switch.pending = [])
    (hheap : ∀ block ∈ s.heap, block.number = s.fields.fbMem → block ∈ t.heap)
    (hnumbers : ∀ block ∈ t.heap, block.number ≤ t.allocated)
    (hholds : t.switch.Holds s.fields t.heap s.host) : FbInv t :=
  inv.of_switch hfields hflush hpending hpending' hheap (fun _ hr _ => hhost ▸ hr) hnumbers
    (hhost ▸ hholds)

/-- The places of `chip_resize_fb_to_mode` without assignments and commands. -/
theorem quiet (inv : FbInv s) {env : SwitchEnv} (hpending : s.switch.pending = [])
    (hsend : ∀ cmd, s.switch.pc ≠ .send cmd) (hsnapshot : s.switch.pc ≠ .snapshot)
    (hstep : s.switchStep env = some t) : FbInv t := by
  -- no assignment is pending, so the fields are what they are said to be, and each step
  -- below only moves the program counter or the list of blocks
  have hat := inv.at_fields hpending
  unfold Switch.Holds at hat
  cases hpc : s.switch.pc <;> rw [hpc] at hat <;>
    simp only [FbMachine.switchStep, hpc, reduceCtorEq, Option.some.injEq] at hstep
  case send cmd => exact absurd hpc (hsend cmd)
  case snapshot => exact absurd hpc hsnapshot
  case setActive rest =>
    obtain rfl : rest = [] := by simpa [Switch.pending, hpc] using hpending
    obtain rfl := Option.some.inj hstep
    exact inv.of_quiet rfl rfl rfl hpending rfl (fun _ h _ => h) inv.numbers trivial
  case publish rest =>
    obtain rfl : rest = [] := by simpa [Switch.pending, hpc] using hpending
    obtain rfl := Option.some.inj hstep
    by_cases hold : s.switch.oldRes = 0
    · simp only [if_pos hold]
      exact inv.of_quiet rfl rfl rfl hpending rfl (fun _ h _ => h) inv.numbers hat.1
    · simp only [if_neg hold]
      exact inv.of_quiet rfl rfl rfl hpending rfl (fun _ h _ => h) inv.numbers hat.1
  case resize =>
    split at hstep
    · obtain rfl := Option.some.inj hstep
      exact inv.of_quiet rfl rfl rfl hpending rfl (fun _ h _ => h) inv.numbers trivial
    · rename_i hguard
      obtain rfl := Option.some.inj hstep
      -- the guard excludes a stride or a size that wraps around
      refine inv.of_quiet rfl rfl rfl hpending rfl (fun _ h _ => h) inv.numbers ?_
      have hfits := inv.fits
      rw [FbMachine.target_eq_fields hpending] at hfits
      exact strideSize_toNat hfits fun h => hguard (Or.inr (Or.inr (Or.inr (Or.inl h))))
  case alloc =>
    split at hstep
    · obtain rfl := Option.some.inj hstep
      -- the number of the new block is larger than that of the current one
      obtain ⟨block, hblock, hnumber, -⟩ := (inv.settled (Switch.torn_of_pending hpending)).block
      have hcurrent := inv.numbers block hblock
      refine inv.of_quiet rfl rfl rfl hpending rfl (fun _ h _ => List.mem_cons_of_mem _ h) ?_
        ⟨hat, ⟨_, List.mem_cons_self .., rfl, rfl⟩, ?_⟩
      · intro other hother
        rcases List.mem_cons.mp hother with rfl | hold
        · exact Nat.le_refl _
        · exact Nat.le_succ_of_le (inv.numbers other hold)
      · exact fun h => absurd (hnumber.trans h.symm) (by simp only; omega)
    · obtain rfl := Option.some.inj hstep
      exact inv.of_quiet rfl rfl rfl hpending rfl (fun _ h _ => h) inv.numbers trivial
  case prepareDma =>
    split at hstep
    · obtain rfl := Option.some.inj hstep
      exact inv.of_quiet rfl rfl rfl hpending rfl (fun _ h _ => h) inv.numbers hat.2.2
    · obtain rfl := Option.some.inj hstep
      exact inv.of_quiet rfl rfl rfl hpending rfl (fun _ h _ => h) inv.numbers hat
  case allocId =>
    subst hstep
    exact inv.of_quiet rfl rfl rfl hpending rfl (fun _ h _ => h) inv.numbers hat
  case obtain cmd =>
    split at hstep
    · obtain rfl := Option.some.inj hstep
      exact inv.of_quiet rfl rfl rfl hpending rfl (fun _ h _ => h) inv.numbers hat
    · simp at hstep
  case release cmd ok =>
    subst hstep
    rcases SwitchCommand.next_cases cmd ok with ⟨cmd', hnext⟩ | hnext | hnext | hnext <;>
      simp only [hnext] at hat ⊢ <;>
      exact inv.of_quiet rfl rfl rfl hpending rfl (fun _ h _ => h) inv.numbers hat
  case freeOld =>
    subst hstep
    -- the old block is freed after the new one has been published
    exact inv.of_quiet rfl rfl rfl hpending rfl (mem_released hat.1)
      (fun block h => inv.numbers block (List.mem_filter.mp h).1) trivial
  case freeNew =>
    subst hstep
    exact inv.of_quiet rfl rfl rfl hpending rfl (mem_released hat)
      (fun block h => inv.numbers block (List.mem_filter.mp h).1) trivial

theorem switchStep (inv : FbInv s) {env : SwitchEnv}
    (hundisturbed : Undisturbed s (.switchStep env)) (hstep : s.switchStep env = some t) :
    FbInv t := by
  by_cases hpending : s.switch.pending = []
  · by_cases hsend : ∃ cmd, s.switch.pc = .send cmd
    · obtain ⟨cmd, hpc⟩ := hsend
      exact inv.send hpc hstep
    · by_cases hsnapshot : s.switch.pc = .snapshot
      · exact inv.snapshot hsnapshot hstep
      · exact inv.quiet hpending (fun cmd h => hsend ⟨cmd, h⟩) hsnapshot hstep
  · obtain ⟨w, rest, hcons⟩ := List.exists_cons_of_ne_nil hpending
    cases hpc : s.switch.pc <;> simp only [Switch.pending, hpc, reduceCtorEq] at hcons
    case setActive => exact inv.setActive hundisturbed (hcons ▸ hpc) hstep
    case publish => exact inv.publish hundisturbed (hcons ▸ hpc) hstep

theorem setGC (inv : FbInv s) {width height : UInt16} {depth : UInt8}
    (hundisturbed : Undisturbed s (.setGC width height depth))
    (hstep : s.setGC width height depth = some t) : FbInv t := by
  unfold FbMachine.setGC at hstep
  split at hstep
  · rename_i hidle
    simp only at hstep
    split at hstep
    · obtain rfl := Option.some.inj hstep
      exact inv
    · obtain rfl := Option.some.inj hstep
      have hconsistent := inv.settled (by simp [Switch.torn, hidle])
      refine ⟨?_, fun _ => hconsistent, ?_, inv.numbers, ?_, fun _ => rfl, inv.flush⟩
      · have hformat := hconsistent.write (w := .activeFormat (gcFormat depth)) rfl
        have hwidth := hformat.write (w := .activeWidth width.toUInt32) rfl
        exact hwidth.write (w := .activeHeight height.toUInt32) rfl
      · simpa [FbMachine.target, Switch.pending, FbFields.write, Undisturbed] using hundisturbed
      · simp [Switch.Holds, Switch.At, FieldWrite.isActive]
  · simp at hstep

theorem step (inv : FbInv s) {action : FbAction} (hundisturbed : Undisturbed s action)
    (hstep : s.step action = some t) : FbInv t := by
  cases action with
  | setGC width height depth => exact inv.setGC hundisturbed hstep
  | switchStep env => exact inv.switchStep hundisturbed hstep
  | startFlush => exact inv.startFlush hstep
  | flushStep ok => exact inv.flushStep hundisturbed hstep

/-- `chip_InitCard` leaves a consistent frame buffer. -/
theorem initial {width height : UInt32}
    (hfits : 4 * (maxWidth width).toNat * (maxHeight height).toNat < 2 ^ 32)
    (virgl2dReady fbIsBlob : Bool) :
    FbInv (FbMachine.initial width height virgl2dReady fbIsBlob) := by
  have hheight : maxHeight height ≠ 0 := by
    unfold maxHeight
    split
    · decide
    · assumption
  obtain ⟨hstride, hsize⟩ := strideSize_toNat hfits hheight
  have hcovers : Covers (FbMachine.initial width height virgl2dReady fbIsBlob).host 1
      (maxWidth width) (maxHeight height) :=
    ⟨_, List.mem_cons_self .., rfl, UInt32.le_rfl, UInt32.le_rfl⟩
  have hconsistent : Consistent (FbMachine.initial width height virgl2dReady fbIsBlob).fields
      (FbMachine.initial width height virgl2dReady fbIsBlob).heap
      (FbMachine.initial width height virgl2dReady fbIsBlob).host := by
    refine ⟨⟨_, List.mem_cons_self .., rfl, Nat.le_of_eq hsize.symm⟩, Nat.le_of_eq hstride.symm,
      hcovers, ?_⟩
    cases virgl2dReady with
    | false => exact hcovers
    | true =>
        refine ⟨⟨3, maxWidth width, maxHeight height⟩, ?_, rfl, UInt32.le_rfl, UInt32.le_rfl⟩
        simp [FbMachine.initial]
  refine ⟨hconsistent, fun _ => hconsistent, ?_, ?_, trivial, fun _ => rfl, trivial⟩
  · show 4 * width.toNat * height.toNat < 2 ^ 32
    unfold maxWidth maxHeight at hfits
    split at hfits
    · simp_all
    · split at hfits
      · simp_all
      · exact hfits
  · intro block hblock
    have hnumber : block.number = 1 := by
      rw [List.mem_singleton.mp hblock]
    exact Nat.le_of_eq hnumber

end FbInv

end VirtIOGPU
