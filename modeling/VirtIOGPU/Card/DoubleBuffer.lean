import VirtIOGPU.Card.AllOrNothing
import VirtIOGPU.Card.FlushTwice
import VirtIOGPU.Card.RowReads

/-!
# Double buffering

With two frame buffers `chip_flush_all` converts into the back buffer, shows its resource and
exchanges the roles.  `chip_swap_buffers` runs whatever `SET_SCANOUT` has answered; so the roles
and the scanout stay together exactly as long as one of its attempts succeeds in every flush that
gets that far (`GpuState.Swaps`).

The host reads the memory that was attached to a resource (`backing`).

## Strategy

`Roles` is the invariant: the front buffer's resource is on the scanout, and the two frame buffers
lie apart.  One flush has one of these outcomes (`DoubleFlushed`):

```text
outcome                        roles       scanout       invariant
does not get to SET_SCANOUT    stay        stays         kept
an attempt succeeds            exchanged   back buffer   kept, roles exchanged
all attempts fail              exchanged   stays         broken (`Roles.failed_switch`)
```

In the third case the next flush would convert into the buffer that is shown.  Where a flush
writes is a matter of the window of its rows: within the back buffer (`flushMem_outside`).
-/

namespace VirtIOGPU.Card

open Lib Lib.Hoare Lib.Machine Lib.Memory Drawing

/-! ## What a flush writes -/

/-- The rows of the frame lie in the frame buffer. -/
structure GpuState.HoldsFrame (gs : GpuState) : Prop where
  stride : 4 * gs.fbWidth.toNat ≤ gs.fbStride.toNat
  size : gs.fbHeight.toNat * gs.fbStride.toNat ≤ gs.fbSize.toNat

theorem GpuState.visibleWidth_le (gs : GpuState) : gs.visibleWidth.toNat ≤ gs.fbWidth.toNat := by
  unfold GpuState.visibleWidth
  split
  · next hlt => exact (UInt32.lt_iff_toNat_lt.mp hlt).le
  · exact le_rfl

theorem GpuState.visibleHeight_le (gs : GpuState) :
    gs.visibleHeight.toNat ≤ gs.fbHeight.toNat := by
  unfold GpuState.visibleHeight
  split
  · next hlt => exact (UInt32.lt_iff_toNat_lt.mp hlt).le
  · exact le_rfl

/-- A row that is converted lies in the buffer. -/
theorem rowConversion_inside {gs : GpuState} (hholds : gs.HoldsFrame) (address : ℕ → ℕ) (dst : ℕ)
    {w h : UInt32} {r : RowConversion} (hr : r ∈ rowConversions address gs dst 0 0 w h) :
    address dst ≤ r.dst ∧ r.dst + 4 * r.count ≤ address dst + gs.fbSize.toNat := by
  unfold rowConversions at hr
  split at hr
  · exact absurd hr List.not_mem_nil
  dsimp only at hr
  split at hr
  · exact absurd hr List.not_mem_nil
  obtain ⟨i, hi, rfl⟩ := List.mem_map.mp hr
  have hw := UInt32.le_iff_toNat_le.mp (clampExtent_le w gs.visibleWidth)
  have hh := UInt32.le_iff_toNat_le.mp (clampExtent_le h gs.visibleHeight)
  rw [List.mem_range, UInt32.zero_add] at hi
  have hrow : ((0 + UInt32.ofNat i) * gs.fbStride).toNat ≤ i * gs.fbStride.toNat := by
    rw [UInt32.zero_add, UInt32.toNat_mul]
    calc
      _ ≤ (UInt32.ofNat i).toNat * gs.fbStride.toNat := Nat.mod_le _ _
      _ ≤ i * gs.fbStride.toNat := by
        apply Nat.mul_le_mul_right
        rw [UInt32.toNat_ofNat']
        exact Nat.mod_le _ _
  have hnext : (i + 1) * gs.fbStride.toNat ≤ gs.fbHeight.toNat * gs.fbStride.toNat := by
    apply Nat.mul_le_mul_right
    have := gs.visibleHeight_le
    have hzero : (0 : UInt32).toNat = 0 := rfl
    omega
  have hwidth := gs.visibleWidth_le
  have hstride := hholds.stride
  have hsize := hholds.size
  have hzero : ((0 : UInt32) * 4).toNat = 0 := rfl
  rw [Nat.add_mul, Nat.one_mul] at hnext
  dsimp only [GpuState.rowConversion]
  rw [hzero]
  omega

/-- A flush changes the buffer that it converts into, and nothing else. -/
theorem flushMem_outside {gs : GpuState} (hholds : gs.HoldsFrame) (address : ℕ → ℕ)
    (palette : Palette) (m : Mem UInt8) {a : ℕ}
    (ha : a < address gs.flushTarget ∨ address gs.flushTarget + gs.fbSize.toNat ≤ a) :
    gs.flushMem address palette m a = m a := by
  have hrows : ∀ rows : List RowConversion,
      (∀ r ∈ rows, r ∈ rowConversions address gs gs.flushTarget 0 0 gs.visibleWidth
        gs.visibleHeight) →
      ∀ m : Mem UInt8, rows.foldl (fun m r => convRow (formatBpp gs.activeFormat)
        (converted gs.activeFormat palette) r.src r.dst r.count m) m a = m a := by
    intro rows
    induction rows with
    | nil => exact fun _ _ => rfl
    | cons r rest ih =>
        intro hmem m
        have hinside := rowConversion_inside hholds address gs.flushTarget
          (hmem r (List.mem_cons_self ..))
        rw [List.foldl_cons, ih (fun q hq => hmem q (List.mem_cons_of_mem _ hq))]
        exact convRow_outside _ _ _ _ _ _ (by omega)
  unfold GpuState.flushMem
  split
  · rfl
  · rw [chipConvertRect_rows]
    exact hrows _ (fun _ hr => hr) m

/-! ## One flush -/

/-- `SET_SCANOUT` had no effect where it returned `FALSE`.  The other commands of a flush leave
the scanout alone anyway. -/
structure FlushCall where
  palette : Palette
  env : FlushEnv
  definite : ∀ n, env.setScanout n ≠ .lost

/-- The flush transfers the back buffer, and so goes on to the scanout and the exchange. -/
def GpuState.Swaps (gs : GpuState) (env : FlushEnv) : Prop :=
  (gs.visibleWidth ≠ 0 ∧ gs.visibleHeight ≠ 0) ∧
    ((gs.usesVirgl = true ∧ gs.virgl2dResource2 ≠ 0) ∧ env.transfer3D = .done ∨
      env.transfer2D = .done)

instance (gs : GpuState) (env : FlushEnv) : Decidable (gs.Swaps env) :=
  inferInstanceAs (Decidable ((_ ∧ _) ∧ ((_ ∧ _) ∧ _ ∨ _)))

/-- The resource of the back buffer that is shown. -/
def GpuState.backRes (gs : GpuState) : UInt32 :=
  if gs.usesVirgl = true ∧ gs.virgl2dResource2 ≠ 0 then gs.virgl2dResource2 else gs.fbResourceId2

/-- The roles: two buffers apart from each other, each with its resources, and `resource_id` is
one of the front buffer's. -/
structure Buffered (address : ℕ → ℕ) (backing : UInt32 → ℕ) (gs : GpuState) : Prop where
  doubleBuffer : gs.doubleBuffer = true
  fbMem : gs.fbMem ≠ 0
  fbMem2 : gs.fbMem2 ≠ 0
  distinct : gs.fbMem ≠ gs.fbMem2
  apart : Apart (address gs.fbMem) gs.fbSize.toNat (address gs.fbMem2) gs.fbSize.toNat
  holdsFrame : gs.HoldsFrame
  fbResourceId : gs.fbResourceId ≠ 0 ∧ backing gs.fbResourceId = gs.fbMem
  fbResourceId2 : gs.fbResourceId2 ≠ 0 ∧ backing gs.fbResourceId2 = gs.fbMem2
  virgl : gs.virgl2dResource ≠ 0 → backing gs.virgl2dResource = gs.fbMem
  virgl2 : gs.virgl2dResource2 ≠ 0 → backing gs.virgl2dResource2 = gs.fbMem2
  front : gs.resourceId = gs.fbResourceId ∨
    gs.virgl2dResource ≠ 0 ∧ gs.resourceId = gs.virgl2dResource

/-- A flush converts into the back buffer. -/
theorem Buffered.flushTarget {address : ℕ → ℕ} {backing : UInt32 → ℕ} {gs : GpuState}
    (h : Buffered address backing gs) : gs.flushTarget = gs.fbMem2 := by
  refine if_neg ?_
  rintro (hsingle | hmem)
  · rw [h.doubleBuffer] at hsingle
    exact Bool.false_ne_true hsingle
  · exact h.fbMem2 hmem

/-- What a flush does with the roles and the scanout. -/
inductive DoubleFlushed (gs : GpuState) (env : FlushEnv) (c c' : CardState) : Prop where
  | kept (hnot : ¬ gs.Swaps env) {gs' : GpuState} (herror : gs' = gs ∨ gs' = gs.withCtxError)
      (hgs : c'.gs = some gs') (hhost : c'.host = c.host) : DoubleFlushed gs env c c'
  | swapped (hswaps : gs.Swaps env) {gs' : GpuState} (herror : gs' = gs ∨ gs' = gs.withCtxError)
      (hgs : c'.gs = some gs'.swapBuffers)
      (hhost : c'.host = if Shows env.setScanout 3 = true then
        c.host.setScanout ⟨gs'.backRes, 0, 0, gs.visibleWidth, gs.visibleHeight⟩ else c.host) :
      DoubleFlushed gs env c c'

section Flush

variable {address : ℕ → ℕ} {backing : UInt32 → ℕ} {gs : GpuState} {host : Host}

theorem idCommand_exact (answer : GpuAnswer) :
    Triple (fun c => c.host = host) (gpuCommand id answer) fun ok c =>
      (ok = true ↔ answer = .done) ∧ c.host = host := by
  refine Triple.transition fun c hc => ?_
  cases answer <;> exact ⟨by simp, hc⟩

/-- The transfer of the back buffer. -/
theorem transferFrame_back (env : FlushEnv) (hne : gs.fbResourceId2 ≠ gs.fbResourceId) :
    Triple (fun c => c.host = host)
      (transferFrame gs (gs.usesVirgl = true ∧ gs.virgl2dResource2 ≠ 0) gs.fbResourceId2 env)
      fun r c => ((r.2 = gs ∨ r.2 = gs.withCtxError) ∧
        (r.1 = true ↔ (gs.usesVirgl = true ∧ gs.virgl2dResource2 ≠ 0) ∧ env.transfer3D = .done ∨
          env.transfer2D = .done)) ∧ c.host = host := by
  have hclassic {gs' : GpuState} (hids : gs'.fbResourceId = gs.fbResourceId) :
      Triple (fun c => c.host = host) (chipTransferToHost2D gs' gs.fbResourceId2 env.transfer2D)
        fun ok c => (ok = true ↔ env.transfer2D = .done) ∧ c.host = host := by
    refine Triple.ite (fun hskip => ?_) fun _ => idCommand_exact _
    exact absurd (hskip.2.trans hids) hne
  unfold transferFrame
  refine Triple.ite (fun hvirgl => ?_) fun hvirgl => ?_
  · refine Triple.bind (idCommand_exact _) fun ok => Triple.fact fun hok => ?_
    refine Triple.ite (fun hyes => Triple.ret fun c hc => ?_) fun hno => ?_
    · exact ⟨⟨Or.inl rfl, iff_of_true rfl (Or.inl ⟨hvirgl, hok.mp hyes⟩)⟩, hc⟩
    · have hlost : ¬ env.transfer3D = .done := fun hdone => hno (hok.mpr hdone)
      refine Triple.bind (hclassic rfl) fun ok => Triple.ret fun c hc => ?_
      refine ⟨⟨Or.inr rfl, hc.1.trans ?_⟩, hc.2⟩
      exact ⟨Or.inr, fun h => h.resolve_left fun h => hlost h.2⟩
  · refine Triple.bind (hclassic rfl) fun ok => Triple.ret fun c hc => ?_
    refine ⟨⟨Or.inl rfl, hc.1.trans ?_⟩, hc.2⟩
    exact ⟨Or.inr, fun h => h.resolve_left fun h => hvirgl h.1⟩

theorem chipFlushAll_double (h : Buffered address backing gs) (call : FlushCall) {c : CardState}
    (hgs : c.gs = some gs) : DoubleFlushed gs call.env c (chipFlushAll call.env c).2 := by
  have hne : gs.fbResourceId2 ≠ gs.fbResourceId := by
    intro heq
    apply h.distinct
    rw [← h.fbResourceId.2, ← h.fbResourceId2.2, heq]
  unfold chipFlushAll withChipState
  simp only [hgs]
  split
  · next hnothing =>
      refine .kept (fun hswaps => ?_) (Or.inl rfl) hgs rfl
      rcases hnothing with hmem | hzero | hzero
      · exact h.fbMem hmem
      · exact hswaps.1.1 hzero
      · exact hswaps.1.2 hzero
  next hsomething =>
  have hvisible : gs.visibleWidth ≠ 0 ∧ gs.visibleHeight ≠ 0 :=
    ⟨fun hzero => hsomething (Or.inr (Or.inl hzero)),
      fun hzero => hsomething (Or.inr (Or.inr hzero))⟩
  -- both buffers are there, so the branch for two of them is taken
  have hdouble : ¬ (!gs.doubleBuffer ∨ gs.fbMem2 = 0) := by
    rintro (hsingle | hmem)
    · rw [h.doubleBuffer] at hsingle
      exact Bool.false_ne_true hsingle
    · exact h.fbMem2 hmem
  rw [if_neg hdouble]
  have hflush : Triple (fun c' => c'.host = c.host) (flushDouble gs call.env) fun _ c' =>
      DoubleFlushed gs call.env c c' := by
    refine Triple.bind (transferFrame_back call.env hne) fun r => ?_
    obtain ⟨ok, gs'⟩ := r
    refine Triple.fact fun ⟨herror, hok⟩ => ?_
    have hswaps : gs.Swaps call.env ↔ ok = true := (and_iff_right hvisible).trans hok.symm
    refine Triple.ite (fun hno => Triple.update fun c' hc' => ?_) fun hyes => ?_
    · refine .kept (fun h => ?_) herror rfl hc'
      rw [hswaps.mp h] at hno
      exact Bool.false_ne_true hno
    · -- the result of the scanout command has no say: the buffers are swapped in any case
      have htrue : ok = true := by simpa using hyes
      have hextent : gs'.visibleWidth = gs.visibleWidth ∧ gs'.visibleHeight = gs.visibleHeight ∧
          gs'.virgl2dResource2 = gs.virgl2dResource2 ∧ gs'.fbResourceId2 = gs.fbResourceId2 := by
        rcases herror with rfl | rfl
        · exact ⟨rfl, rfl, rfl, rfl⟩
        · exact ⟨rfl, rfl, rfl, rfl⟩
      refine Triple.bind (setScanoutAttempts_exact _ call.definite 3) fun _ =>
        Triple.fact fun _ => ?_
      refine Triple.bind (idCommand_exact _) fun _ => Triple.fact fun _ => ?_
      refine Triple.update fun c' hc' => .swapped (hswaps.mpr htrue) herror rfl ?_
      change c'.host = _
      rw [hc', GpuState.backRes, hextent.1, hextent.2.1, hextent.2.2.1, hextent.2.2.2]
  exact hflush c rfl

/-! ## The exchange of the roles -/

theorem swapBuffers_resourceId (gs : GpuState) : gs.swapBuffers.resourceId = gs.backRes := by
  have huses : (gs.virgl2dReady = true ∧ ¬ gs.virglCtxError = true ∧ gs.virgl2dResource2 ≠ 0) ↔
      gs.usesVirgl = true ∧ gs.virgl2dResource2 ≠ 0 := by
    unfold GpuState.usesVirgl
    rw [Bool.and_eq_true, Bool.not_eq_true', Bool.not_eq_true, and_assoc]
  exact if_congr huses rfl rfl

theorem Buffered.withCtxError (h : Buffered address backing gs) :
    Buffered address backing gs.withCtxError :=
  ⟨h.doubleBuffer, h.fbMem, h.fbMem2, h.distinct, h.apart, ⟨h.holdsFrame.stride, h.holdsFrame.size⟩,
    h.fbResourceId, h.fbResourceId2, h.virgl, h.virgl2, h.front⟩

/-- The resource that is shown next belongs to the back buffer. -/
theorem Buffered.backRes (h : Buffered address backing gs) :
    gs.backRes ≠ 0 ∧ backing gs.backRes = gs.fbMem2 := by
  unfold GpuState.backRes
  split
  · next hvirgl => exact ⟨hvirgl.2, h.virgl2 hvirgl.2⟩
  · exact h.fbResourceId2

/-- `resource_id` belongs to the front buffer. -/
theorem Buffered.resourceId (h : Buffered address backing gs) :
    backing gs.resourceId = gs.fbMem := by
  rcases h.front with hclassic | ⟨hne, hvirgl⟩
  · rw [hclassic]
    exact h.fbResourceId.2
  · rw [hvirgl]
    exact h.virgl hne

theorem Buffered.swapBuffers (h : Buffered address backing gs) :
    Buffered address backing gs.swapBuffers where
  doubleBuffer := h.doubleBuffer
  fbMem := h.fbMem2
  fbMem2 := h.fbMem
  distinct := h.distinct.symm
  apart := h.apart.symm
  holdsFrame := ⟨h.holdsFrame.stride, h.holdsFrame.size⟩
  fbResourceId := h.fbResourceId2
  fbResourceId2 := h.fbResourceId
  virgl := h.virgl2
  virgl2 := h.virgl
  front := by
    rw [swapBuffers_resourceId]
    unfold GpuState.backRes
    split
    · next hvirgl => exact Or.inr ⟨hvirgl.2, rfl⟩
    · exact Or.inl rfl

end Flush

/-! ## Runs of flushes -/

/-- One flush, with what it does to memory. -/
def Displayed.flush (address : ℕ → ℕ) (d : Displayed) (call : FlushCall) : Option Displayed :=
  some (d.flushAll address call.palette call.env)

/-- After the flush `resource_id` is shown; and the flush converts into a buffer that is not
visible and leaves the visible one as it is. -/
structure NeverVisible (address : ℕ → ℕ) (backing : UInt32 → ℕ) (d : Displayed)
    (call : FlushCall) : Prop where
  shown : ∀ gs ∈ (d.flushAll address call.palette call.env).card.gs,
    (d.flushAll address call.palette call.env).card.host.ShowsId gs.resourceId
  target : ∀ gs ∈ d.card.gs, ∀ id, d.card.host.ShowsId id → backing id ≠ gs.flushTarget
  untouched : ∀ gs ∈ d.card.gs, ∀ id, d.card.host.ShowsId id → ∀ k < gs.fbSize.toNat,
    (d.flushAll address call.palette call.env).mem (address (backing id) + k) =
      d.mem (address (backing id) + k)

/-- If the flush gets as far as `SET_SCANOUT`, one of the attempts succeeds. -/
def SwitchSucceeds (d : Displayed) (call : FlushCall) : Prop :=
  ∀ gs ∈ d.card.gs, gs.Swaps call.env → Shows call.env.setScanout 3 = true

/-- The roles are those of `gs`, and its `resource_id` is shown. -/
structure Roles (address : ℕ → ℕ) (backing : UInt32 → ℕ) (d : Displayed) (gs : GpuState) :
    Prop where
  state : d.card.gs = some gs
  buffered : Buffered address backing gs
  shown : d.card.host.ShowsId gs.resourceId

section Run

variable {address : ℕ → ℕ} {backing : UInt32 → ℕ} {d : Displayed} {gs : GpuState}
  {call : FlushCall}

theorem Host.ShowsId.unique {host : Host} {id id' : UInt32} (h : host.ShowsId id)
    (h' : host.ShowsId id') : id = id' := by
  obtain ⟨s, hs, rfl⟩ := h
  obtain ⟨s', hs', rfl⟩ := h'
  rw [Option.some.inj (hs.symm.trans hs')]

theorem Host.setScanout_showsId (host : Host) (s : Scanout) (hid : s.resourceId ≠ 0) :
    (host.setScanout s).ShowsId s.resourceId :=
  ⟨s, if_neg hid, rfl⟩

/-- A flush does not write into a buffer that is visible when it starts. -/
theorem Roles.backing_ne_target (h : Roles address backing d gs) {id : UInt32}
    (hid : d.card.host.ShowsId id) : backing id = gs.fbMem ∧ backing id ≠ gs.flushTarget := by
  have hfront : backing id = gs.fbMem := by
    rw [hid.unique h.shown]
    exact h.buffered.resourceId
  rw [h.buffered.flushTarget]
  exact ⟨hfront, fun hback => h.buffered.distinct (hfront.symm.trans hback)⟩

/-- Whatever happens with the scanout later, what is visible during the conversion stays. -/
theorem Roles.untouched (h : Roles address backing d gs) {id : UInt32}
    (hid : d.card.host.ShowsId id) :
    ∀ k < gs.fbSize.toNat,
      (d.flushAll address call.palette call.env).mem (address (backing id) + k) =
        d.mem (address (backing id) + k) := by
  intro k hk
  have hmem : (d.flushAll address call.palette call.env).mem =
      gs.flushMem address call.palette d.mem := by
    simp only [Displayed.flushAll, h.state]
  rw [hmem, (h.backing_ne_target hid).1]
  apply flushMem_outside h.buffered.holdsFrame
  rw [h.buffered.flushTarget]
  rcases h.buffered.apart with hbefore | hafter
  · left
    omega
  · right
    omega

/-- A flush whose switch succeeds keeps roles and scanout together. -/
theorem Roles.flush (h : Roles address backing d gs) (hswitch : SwitchSucceeds d call) :
    ∃ gs', Roles address backing (d.flushAll address call.palette call.env) gs' := by
  have hcases := chipFlushAll_double h.buffered call h.state
  have hsame {gs' : GpuState} (herror : gs' = gs ∨ gs' = gs.withCtxError) :
      Buffered address backing gs' ∧ gs'.resourceId = gs.resourceId := by
    rcases herror with rfl | rfl
    · exact ⟨h.buffered, rfl⟩
    · exact ⟨h.buffered.withCtxError, rfl⟩
  cases hcases with
  | @kept _ gs' herror hgs hhost =>
      refine ⟨gs', hgs, (hsame herror).1, ?_⟩
      change (chipFlushAll call.env d.card).2.host.ShowsId gs'.resourceId
      rw [hhost, (hsame herror).2]
      exact h.shown
  | @swapped hswaps gs' herror hgs hhost =>
      refine ⟨gs'.swapBuffers, hgs, (hsame herror).1.swapBuffers, ?_⟩
      change (chipFlushAll call.env d.card).2.host.ShowsId gs'.swapBuffers.resourceId
      rw [hhost, if_pos (hswitch gs h.state hswaps), swapBuffers_resourceId]
      exact Host.setScanout_showsId _ _ (hsame herror).1.backRes.1

/-- Where the switch fails, the roles are exchanged all the same. -/
theorem Roles.failed_switch (h : Roles address backing d gs) (hfails : ¬ SwitchSucceeds d call) :
    ¬ NeverVisible address backing d call := by
  intro hsound
  apply hfails
  intro gs₀ hgs₀ hswaps
  obtain rfl : gs₀ = gs := Option.mem_unique hgs₀ h.state
  have hcases := chipFlushAll_double h.buffered call h.state
  cases hcases with
  | kept hnot herror hgs hhost => exact absurd hswaps hnot
  | @swapped _ gs' herror hgs hhost =>
      by_contra hrefused
      rw [if_neg hrefused] at hhost
      have hbuffered : Buffered address backing gs' ∧ gs'.fbMem2 = gs₀.fbMem2 := by
        rcases herror with rfl | rfl
        · exact ⟨h.buffered, rfl⟩
        · exact ⟨h.buffered.withCtxError, rfl⟩
      have hshown : (chipFlushAll call.env d.card).2.host.ShowsId gs'.swapBuffers.resourceId :=
        hsound.shown _ hgs
      rw [hhost, swapBuffers_resourceId] at hshown
      have hbacking : gs₀.fbMem = gs₀.fbMem2 := by
        calc
          gs₀.fbMem = backing gs₀.resourceId := h.buffered.resourceId.symm
          _ = backing gs'.backRes := by rw [h.shown.unique hshown]
          _ = gs₀.fbMem2 := hbuffered.1.backRes.2.trans hbuffered.2
      exact h.buffered.distinct hbacking

/-- In every run of flushes with two buffers: `resource_id` stays shown and nothing is drawn on
the visible buffer if and only if every flush that gets as far as `SET_SCANOUT` succeeds with
it. -/
theorem double_buffering_iff (hgs : d.card.gs = some gs) (hbuffered : Buffered address backing gs)
    (hshown : d.card.host.ShowsId gs.resourceId) (calls : List FlushCall) :
    Within (Displayed.flush address) SwitchSucceeds d calls ↔
      Within (Displayed.flush address) (NeverVisible address backing) d calls := by
  refine within_congr (I := fun d => ∃ gs, Roles address backing d gs) ?_ ?_ calls
    ⟨gs, hgs, hbuffered, hshown⟩
  · rintro d call ⟨gs, h⟩
    refine ⟨fun hswitch => ?_, fun hsound => ?_⟩
    · refine ⟨fun gs' hgs' => ?_, fun gs₀ hgs₀ id hid => ?_, fun gs₀ hgs₀ id hid => ?_⟩
      · obtain ⟨gs'', h''⟩ := h.flush hswitch
        obtain rfl := Option.mem_unique hgs' h''.state
        exact h''.shown
      · obtain rfl := Option.mem_unique hgs₀ h.state
        exact (h.backing_ne_target hid).2
      · obtain rfl := Option.mem_unique hgs₀ h.state
        exact h.untouched hid
    · by_contra hfails
      exact h.failed_switch hfails hsound
  · rintro d call t ⟨gs, h⟩ hswitch hstep
    obtain rfl := Option.some.inj hstep
    exact h.flush hswitch

end Run

/-- 640x480 with a second buffer in block 5 and the resource 4 for it. -/
def GpuState.buffered640 : GpuState :=
  { GpuState.shown640 with
    doubleBuffer := true
    fbMem2 := 5
    fbDmaList2 := 6
    fbDmaCount2 := 1
    fbPhys2 := 6
    fbResourceId2 := 4
    activeWidth := 640
    activeHeight := 480 }

def Displayed.buffered640 : Displayed where
  card := { CardState.shown640 with gs := some .buffered640 }
  mem := fun _ => 0

/-- Blocks lie two megabytes apart. -/
def address640 (n : ℕ) : ℕ := n * 2 ^ 21

def backing640 (id : UInt32) : ℕ := if id = 1 then 1 else 5

theorem buffered640_roles : Buffered address640 backing640 .buffered640 where
  doubleBuffer := rfl
  fbMem := by decide
  fbMem2 := by decide
  distinct := by decide
  apart := Or.inl (by decide)
  holdsFrame := ⟨by decide, by decide⟩
  fbResourceId := by decide
  fbResourceId2 := by decide
  virgl := by decide
  virgl2 := by decide
  front := by decide

/-- A flush whose commands succeed, but for `SET_SCANOUT`. -/
def FlushCall.scanout (answer : GpuAnswer) (hanswer : answer ≠ .lost) : FlushCall where
  palette := fun _ => 0
  env := ⟨.done, .done, fun _ => answer, .done⟩
  definite := fun _ => hanswer

theorem double_buffering_iff_done :
    Within (Displayed.flush address640) SwitchSucceeds .buffered640
        [.scanout .done (by decide), .scanout .done (by decide)] ↔
      Within (Displayed.flush address640) (NeverVisible address640 backing640) .buffered640
        [.scanout .done (by decide), .scanout .done (by decide)] :=
  double_buffering_iff rfl buffered640_roles (by decide) _

/-- `SET_SCANOUT` fails in a flush: the resource 1 stays visible, `resource_id` is 4, and the
next flush converts into the memory of 1. -/
theorem visible_after_failed_switch :
    Buffered address640 backing640 .buffered640 ∧
      Displayed.buffered640.card.host.ShowsId GpuState.buffered640.resourceId ∧
      ¬ Within (Displayed.flush address640) (NeverVisible address640 backing640) .buffered640
        [.scanout .refused (by decide), .scanout .refused (by decide)] ∧
      ∃ d gs, Displayed.buffered640.flush address640 (.scanout .refused (by decide)) = some d ∧
        d.card.gs = some gs ∧ d.card.host.ShowsId 1 ∧ gs.resourceId = 4 ∧
        gs.flushTarget = backing640 1 := by
  refine ⟨buffered640_roles, by decide, ?_, _, _, rfl, rfl, ?_, rfl, rfl⟩
  · rintro ⟨hsound, -⟩
    obtain ⟨s, hs, hid⟩ := hsound.shown _ (rfl : _ = some GpuState.buffered640.swapBuffers)
    have hfirst : s = ⟨1, 0, 0, 640, 480⟩ := (Option.some.inj hs).symm
    rw [hfirst] at hid
    have hne : (1 : UInt32) ≠ 4 := by decide
    exact hne hid
  · exact ⟨⟨1, 0, 0, 640, 480⟩, rfl, rfl⟩

end VirtIOGPU.Card
