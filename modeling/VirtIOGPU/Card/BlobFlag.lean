import VirtIOGPU.Card.Resize

/-!
# Transfers that are skipped for a blob

`chip_TransferToHost2D` trusts `fb_is_blob` about the resource `fb_resource_id`.
`chip_InitCard_C` sets the flag with the resource; a mode change replaces the resource by a
classic one and leaves the flag.  From then on every flush skips a transfer that is needed.

## Strategy

A ghost flag `replaced` records that a mode change has replaced the blob.  `FlagTracked` says what
it is worth, in both directions, and this makes the condition exact:

```text
replaced   fb_is_blob   the resource shown   a flush
false      true         is a blob            skips the transfer, rightly
false      false        is anything          transfers
true       true         is no blob           skips the transfer, wrongly
```

`BlobKept` forbids the third row before the flush happens, so a run that violates it is caught by
`FlagTracked.violation`, and one that respects it by `FlagTracked.flush`.
-/

namespace VirtIOGPU.Card

open Lib.Machine Lib.Hoare

inductive FrameCall where
  | setGC (call : GcCall)
  | flush (env : FlushEnv)

/-- The card, with one bit of history. -/
structure Framed where
  card : CardState
  /-- A mode change has replaced the frame buffer while `fb_is_blob` was set. -/
  replaced : Bool

def GpuState.replacesBlob (gs : GpuState) (call : GcCall) : Bool :=
  gs.fbIsBlob && decide (gs.Publishes call)

def Framed.step (s : Framed) : FrameCall → Option Framed
  | .setGC call =>
      some
        { card := (chipSetGC call.mi call.env s.card).2
          replaced := s.replaced || s.card.gs.any fun gs => gs.replacesBlob call }
  | .flush env => some { s with card := (chipFlushAll env s.card).2 }

def Framed.start (env : InitEnv) : Framed := ⟨(chipInitCard false env .start).2, false⟩

/-- `chip_flush_all` does not return at once. -/
def GpuState.Flushes (gs : GpuState) : Prop :=
  ¬ (gs.fbMem = 0 ∨ gs.visibleWidth = 0 ∨ gs.visibleHeight = 0)

instance (gs : GpuState) : Decidable gs.Flushes := inferInstanceAs (Decidable (¬ _))

/-- Nothing is flushed once a blob has been replaced. -/
def BlobKept (s : Framed) : FrameCall → Prop
  | .setGC _ => True
  | .flush _ => s.replaced = true → ∀ gs ∈ s.card.gs, ¬ gs.Flushes

instance : DecidablePred SkipsSound :=
  fun c => inferInstanceAs (Decidable (∀ e ∈ c.events, e.SkipSound))

/-- The resource of the frame buffer is a blob in guest memory. -/
def ShowsBlob (gs : GpuState) (c : CardState) : Prop :=
  (c.host.resources gs.fbResourceId).any GpuResource.isBlobGuest = true

/-- The flag tells the truth until a mode change replaces the blob, and is wrong from then on. -/
structure FlagTracked (gs : GpuState) (s : Framed) : Prop where
  state : s.card.gs = some gs
  doubleBuffer : gs.doubleBuffer = false
  virgl : gs.virgl2dReady = false
  skips : SkipsSound s.card
  flag : s.replaced = false → gs.fbIsBlob = true → ShowsBlob gs s.card
  wrong : s.replaced = true → gs.fbIsBlob = true ∧ ¬ ShowsBlob gs s.card

/-! ## Flushes -/

/-- The history after the transfer of the frame buffer. -/
def GpuState.transferred (gs : GpuState) (c : CardState) : List GpuEvent :=
  if gs.fbIsBlob = true then
    .skipped gs.fbResourceId (c.host.resources gs.fbResourceId) :: c.events
  else
    c.events

/-- The host as in `c`, and these commands. -/
abbrev SeesFrom (c : CardState) (events : List GpuEvent) : CardState → Prop := Sees c.host events

theorem chipTransferToHost2D_frame (gs : GpuState) (answer : GpuAnswer) (c : CardState) :
    Triple (fun c' => c' = c) (chipTransferToHost2D gs gs.fbResourceId answer) fun _ =>
      SeesFrom c (gs.transferred c) := by
  rintro c' rfl
  unfold chipTransferToHost2D GpuState.transferred
  by_cases hblob : gs.fbIsBlob = true
  · rw [if_pos hblob, if_pos ⟨hblob, rfl⟩]
    exact ⟨rfl, rfl⟩
  · rw [if_neg hblob, if_neg fun h => hblob h.1]
    exact (idCommand_sees answer c' ⟨rfl, rfl⟩).2

theorem transferFrame_2D {gs : GpuState} {useVirgl : Prop} [Decidable useVirgl]
    (h : ¬ useVirgl) (id2D : UInt32) (env : FlushEnv) :
    transferFrame gs useVirgl id2D env =
      chipTransferToHost2D gs id2D env.transfer2D >>= fun ok => pure (ok, gs) := by
  unfold transferFrame
  rw [if_neg h]

theorem flushSingle_frame {gs : GpuState} (hvirgl : gs.virgl2dReady = false) (env : FlushEnv)
    (c : CardState) :
    Triple (fun c' => c' = c) (flushSingle gs env) fun _ c' =>
      c'.gs = some gs ∧ SeesFrom c (gs.transferred c) c' := by
  have hnotVirgl : ¬ gs.usesVirgl = true := by simp [GpuState.usesVirgl, hvirgl]
  unfold flushSingle
  rw [transferFrame_2D hnotVirgl]
  refine Triple.bind (R := fun r c' => r.2 = gs ∧ SeesFrom c (gs.transferred c) c') ?_
    fun r => Triple.fact fun hr => ?_
  · refine Triple.bind (chipTransferToHost2D_frame gs env.transfer2D c) fun ok => ?_
    exact Triple.ret fun c' hc => ⟨rfl, hc⟩
  obtain ⟨ok, gs'⟩ := r
  obtain rfl : gs' = gs := hr
  refine Triple.bind (R := fun _ => SeesFrom c (gs'.transferred c)) (Triple.onlyIf (fun _ => ?_)
    fun _ _ hc => hc) fun _ => Triple.update fun c' hc => ⟨rfl, hc.host, hc.events⟩
  exact Triple.bind (idCommand_sees env.flush) fun _ => Triple.ret fun c' hc => hc.2

/-- A flush with one buffer and without Virgl. -/
theorem chipFlushAll_frame {gs : GpuState} {c : CardState} (hstate : c.gs = some gs)
    (hsingle : gs.doubleBuffer = false) (hvirgl : gs.virgl2dReady = false) (env : FlushEnv) :
    let c' := (chipFlushAll env c).2
    c'.gs = some gs ∧
      SeesFrom c (if gs.Flushes then gs.transferred c else c.events) c' := by
  unfold chipFlushAll withChipState
  simp only [hstate]
  by_cases hflushes : gs.Flushes
  · have hplain : (!gs.doubleBuffer) = true ∨ gs.fbMem2 = 0 := Or.inl (by simp [hsingle])
    rw [if_neg hflushes, if_pos hplain, if_pos hflushes]
    exact flushSingle_frame hvirgl env c c rfl
  · rw [if_pos (not_not.mp hflushes), if_neg hflushes]
    exact ⟨hstate, rfl, rfl⟩

/-! ## One call -/

theorem skipsSound_cons {c c' : CardState} {e : GpuEvent} (hevents : c'.events = e :: c.events) :
    SkipsSound c' ↔ e.SkipSound ∧ SkipsSound c := by
  unfold SkipsSound
  rw [hevents]
  exact List.forall_mem_cons

theorem SkipsSound.congr {c c' : CardState} (h : SkipsSound c) (hevents : c'.events = c.events) :
    SkipsSound c' := by
  unfold SkipsSound
  rw [hevents]
  exact h

/-- A call that keeps the frame buffer. -/
theorem FlagTracked.keeps {gs gs' : GpuState} {s t : Framed} (h : FlagTracked gs s)
    (hgs : t.card.gs = some gs') (hframe : gs'.KeepsFrame gs) (hreplaced : t.replaced = s.replaced)
    (hskips : SkipsSound t.card)
    (hhost : t.card.host.resources gs.fbResourceId = s.card.host.resources gs.fbResourceId) :
    FlagTracked gs' t := by
  have hshows : ShowsBlob gs' t.card ↔ ShowsBlob gs s.card := by
    unfold ShowsBlob
    rw [hframe.fbResourceId, hhost]
  refine ⟨hgs, hframe.others.doubleBuffer.trans h.doubleBuffer,
    hframe.others.virgl2dReady.trans h.virgl, hskips, ?_, ?_⟩
  · rw [hreplaced, hshows, hframe.others.fbIsBlob]
    exact h.flag
  · rw [hreplaced, hshows, hframe.others.fbIsBlob]
    exact h.wrong

/-- The new resource is a classic one. -/
theorem Host.dropped_resources {host : Host} {id old : UInt32} (w h : UInt32) (hne : id ≠ old)
    (answer : GpuAnswer) :
    ((host.switched id w h).dropped old answer).resources id =
      some (.classic2D formatB8G8R8X8 w h) := by
  have hnew : (host.switched id w h).resources id = some (.classic2D formatB8G8R8X8 w h) :=
    Function.update_self ..
  unfold Host.dropped
  split
  · exact hnew
  · rw [GpuAnswer.applied_unref_resources answer hne]
    exact hnew

theorem FlagTracked.setGC {gs : GpuState} {s t : Framed} (h : FlagTracked gs s) {call : GcCall}
    (hstep : s.step (.setGC call) = some t) : ∃ gs', FlagTracked gs' t := by
  obtain rfl := Option.some.inj hstep
  simp only [h.state, Option.any_some]
  have hcreate (id : UInt32) (live : Bool) : (GpuEvent.create id live).SkipSound := trivial
  have hne : gs.fbResourceId ≠ gs.allocId := gs.allocId_ne.1.symm
  cases chipSetGC_frame call h.state with
  | unsent hnot hgs hframe hnext hhost hevents =>
      have hkeeps : ¬ gs.Publishes call := fun hpublishes => hnot hpublishes.drawsId
      have hbit : gs.replacesBlob call = false := by simp [GpuState.replacesBlob, hkeeps]
      refine ⟨_, h.keeps hgs hframe (by simp [hbit]) (h.skips.congr hevents) ?_⟩
      simp only [hhost]
  | dropped hnot hdraws hgs hframe hnext hhost hnew hevents =>
      have hbit : gs.replacesBlob call = false := by simp [GpuState.replacesBlob, hnot]
      refine ⟨_, h.keeps hgs hframe (by simp [hbit]) ?_ (hhost _ hne)⟩
      exact (skipsSound_cons hevents).mpr ⟨hcreate _ _, h.skips⟩
  | @published hpublishes gs' hgs hothers hnext hmem hid hhost hevents =>
      have hbit : gs.replacesBlob call = gs.fbIsBlob := by
        simp [GpuState.replacesBlob, hpublishes]
      have hclassic : ¬ ShowsBlob gs' (chipSetGC call.mi call.env s.card).2 := by
        unfold ShowsBlob
        rw [hid, hhost, Host.dropped_resources _ _ hne.symm]
        simp [GpuResource.isBlobGuest]
      refine ⟨gs', hgs, hothers.doubleBuffer.trans h.doubleBuffer,
        hothers.virgl2dReady.trans h.virgl, (skipsSound_cons hevents).mpr ⟨hcreate _ _, h.skips⟩,
        fun hreplaced hblob => ?_, fun hreplaced => ⟨?_, hclassic⟩⟩
      · rw [hothers.fbIsBlob] at hblob
        simp [hbit, hblob] at hreplaced
      · rw [hothers.fbIsBlob]
        by_cases hbefore : s.replaced = true
        · exact (h.wrong hbefore).1
        · simpa [hbit, hbefore] using hreplaced

theorem FlagTracked.flush {gs : GpuState} {s t : Framed} (h : FlagTracked gs s) {env : FlushEnv}
    (hpermitted : BlobKept s (.flush env)) (hstep : s.step (.flush env) = some t) :
    FlagTracked gs t := by
  obtain rfl := Option.some.inj hstep
  obtain ⟨hgs, hsees⟩ := chipFlushAll_frame h.state h.doubleBuffer h.virgl env
  refine h.keeps hgs ⟨.refl gs, rfl, rfl, rfl, rfl⟩ rfl ?_ (by simp only [hsees.host])
  by_cases hskips : gs.Flushes ∧ gs.fbIsBlob = true
  · have hevents := hsees.events
    rw [if_pos hskips.1, GpuState.transferred, if_pos hskips.2] at hevents
    refine (skipsSound_cons hevents).mpr ⟨h.flag ?_ hskips.2, h.skips⟩
    by_contra hreplaced
    exact hpermitted (by simpa using hreplaced) gs h.state hskips.1
  · refine h.skips.congr (hsees.events.trans ?_)
    unfold GpuState.transferred
    by_cases hflushes : gs.Flushes
    · rw [if_pos hflushes, if_neg fun hblob => hskips ⟨hflushes, hblob⟩]
    · rw [if_neg hflushes]

theorem FlagTracked.violation {gs : GpuState} {s : Framed} (h : FlagTracked gs s) {env : FlushEnv}
    (hforbidden : ¬ BlobKept s (.flush env)) : ¬ SkipsSound (chipFlushAll env s.card).2 := by
  unfold BlobKept at hforbidden
  simp only [h.state, Option.mem_some_iff, forall_eq', Classical.not_imp, not_not] at hforbidden
  obtain ⟨hreplaced, hflushes⟩ := hforbidden
  obtain ⟨hblob, hclassic⟩ := h.wrong hreplaced
  have hevents := (chipFlushAll_frame h.state h.doubleBuffer h.virgl env).2.events
  rw [if_pos hflushes, GpuState.transferred, if_pos hblob] at hevents
  rw [skipsSound_cons hevents]
  exact fun hsound => hclassic hsound.1

/-! ## Runs -/

theorem Ready.flagTracked {gs : GpuState} {env : InitEnv}
    (h : Ready gs (chipInitCard false env .start).2) : FlagTracked gs (.start env) := by
  obtain ⟨hsingle, -, -, -, -, -, hvirgl⟩ := h.blank
  exact ⟨h.state, hsingle, hvirgl, h.blob.skips, fun _ => h.blob.flag, fun h => by cases h⟩

/-- In every run of `chip_SetGC` and `chip_flush_all`: every transfer that was skipped was asked
for a blob in guest memory if and only if nothing is flushed once a mode change has replaced a
frame buffer that was a blob. -/
theorem skips_sound_iff {env : InitEnv} (hinit : (chipInitCard false env .start).1 = true)
    (calls : List FrameCall) :
    Within Framed.step BlobKept (.start env) calls ↔
      Always Framed.step (fun s => SkipsSound s.card) (.start env) calls := by
  obtain ⟨gs, hready⟩ := init_ready hinit
  refine within_iff_always (I := fun s => ∃ gs, FlagTracked gs s) ?_ ?_ ?_ calls
    ⟨gs, hready.flagTracked⟩
  · rintro s ⟨gs, hs⟩
    exact hs.skips
  · rintro s call t ⟨gs, hs⟩ hpermitted hstep
    cases call with
    | setGC call => exact hs.setGC hstep
    | flush env => exact ⟨gs, hs.flush hpermitted hstep⟩
  · rintro s call ⟨gs, hs⟩ hforbidden
    cases call with
    | setGC call => exact absurd trivial hforbidden
    | flush env => exact ⟨_, rfl, hs.violation hforbidden⟩

/-- A device with blobs, and every command succeeds. -/
def InitEnv.workingBlob : InitEnv :=
  { InitEnv.working with transport := { InitEnv.working.transport with features := featureBlob } }

def FlushEnv.done : FlushEnv := ⟨.done, .done, fun _ => .done, .done⟩

theorem skips_sound_working :
    Within Framed.step BlobKept (.start .workingBlob)
        [.flush .done, .setGC ⟨⟨1024, 768, 16⟩, .commandsDone true 1 true true⟩, .flush .done] ↔
      Always Framed.step (fun s => SkipsSound s.card) (.start .workingBlob)
        [.flush .done, .setGC ⟨⟨1024, 768, 16⟩, .commandsDone true 1 true true⟩, .flush .done] :=
  skips_sound_iff (by decide +kernel) _

/-- The blob of `chip_InitCard_C` is replaced by the first mode change. -/
theorem skips_after_mode_change :
    (chipInitCard false .workingBlob .start).1 = true ∧
      ¬ Always Framed.step (fun s => SkipsSound s.card) (.start .workingBlob)
        [.setGC ⟨⟨800, 600, 32⟩, .commandsDone true 1 true true⟩, .flush .done] := by
  decide +kernel

end VirtIOGPU.Card
