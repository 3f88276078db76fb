import VirtIOGPU.Compositing.Pipeline

/-!
# Restoring the pipeline

`chip_virgl_composite` binds the blend object of the operator before it looks at the source.  Three
returns come after that and before the default object is bound again: for a format without 32 bits,
for a region that begins outside the bitmap, and for a texture that cannot be made.  So the pipeline
is as before exactly when the call gets past them, the resource of the texture could be dropped, and
the colour shader is what was bound in the first place or has been bound again by the draw
(`pipeline_restored_iff`).

Without an error in the context every submission has succeeded, and the state at the end is a
function of the state before and the replies (`composite_ends`).

## Strategy

A poisoned context stays poisoned (`StaysPoisoned`), so a call that ends without an error never had
one.  `Ends m s a t` says of a part that it goes from `s` to `t` with result `a`, or poisons the
context; the parts are composed with it, and the answers occur in `t` only.

```text
a bitmap that                      ends in                    the blend object
has no 32 bits, no region, no size  the state before          stays that of the operator
cannot be made                      uploaded                  stays that of the operator
is drawn                            textured                  is bound again
```

`pipeline_restored_iff` reads the condition off these three.  That the colour shader is bound in the
first place holds in every run of compositions that starts with it (`shader_run`), so its conjunct
fails after a setup that has not bound it, and otherwise never.
-/

namespace VirtIOGPU.Compositing

open Card Drawing Lib.Hoare
open Virgl (VirglCall UploadRequest)

/-! ## Errors stay -/

section Stays

variable {p : PipelineObjects} {data : StreamData} {replies : CompositeReplies}

/-- Nothing but `chip_virgl_recover_2d` resets `virgl_ctx_error`. -/
abbrev StaysPoisoned {α : Type} (m : Composer α) : Prop := Stable Compositor.Poisoned m

theorem gpuCommand_stays {effect : Compositor → Compositor} (answer : GpuAnswer)
    (heffect : ∀ s : Compositor, s.Poisoned → (effect s).Poisoned) :
    StaysPoisoned (gpuCommand effect answer) := by
  intro s hs
  cases answer with
  | done => exact heffect s hs
  | refused => exact hs
  | lost => exact heffect s hs

theorem chipResourceUnref_stays (id : UInt32) (answer : GpuAnswer) :
    StaysPoisoned (chipResourceUnref id answer) :=
  gpuCommand_stays answer fun _ hs => hs

theorem virglSubmit_stays (calls : List VirglCall) (answer : GpuAnswer) :
    StaysPoisoned (virglSubmit calls answer) := by
  refine Stable.ite (Stable.ret _) (Stable.bind Stable.read fun s => Stable.ite (Stable.ret _) ?_)
  refine Stable.bind (Stable.bind Stable.read fun s => Stable.ite (Stable.ret _) ?_) fun ok => ?_
  · exact gpuCommand_stays answer fun _ hs => hs
  · exact Stable.bind (Stable.onlyIf (Stable.update fun _ _ => rfl)) fun _ => Stable.ret _

theorem uploadStrips_stays (r : UploadRequest) (fuel : ℕ) (rowsDone : UInt32) :
    StaysPoisoned (uploadStrips data replies r fuel rowsDone) := by
  induction fuel generalizing rowsDone with
  | zero => exact Stable.ret _
  | succ fuel ih =>
      refine Stable.ite (Stable.bind (virglSubmit_stays _ _) fun ok => ?_) (Stable.ret _)
      exact Stable.ite (ih _) (Stable.ret _)

theorem chipCompFreeTexture_stays (destroyView unref : GpuAnswer) :
    StaysPoisoned (chipCompFreeTexture destroyView unref) := by
  refine Stable.bind Stable.read fun s => Stable.ite (Stable.ret _) ?_
  refine Stable.bind (virglSubmit_stays _ _) fun _ => ?_
  exact Stable.bind (chipResourceUnref_stays _ _) fun _ => Stable.update fun _ hs => hs

theorem discard_stays (id : UInt32) : StaysPoisoned (discard replies id) :=
  Stable.bind (chipResourceUnref_stays _ _) fun _ => Stable.ret _

theorem recordView_stays (id view : UInt32) (submitted : Bool) :
    StaysPoisoned (if !submitted then discard replies id else recordView id view) :=
  Stable.ite (discard_stays _) (Stable.bind (Stable.update fun _ hs => hs) fun _ => Stable.ret _)

theorem viewTexture_stays (id format : UInt32) : StaysPoisoned (viewTexture replies id format) := by
  refine Stable.bind (Stable.transition fun _ hs => hs) fun view => ?_
  exact Stable.bind (virglSubmit_stays _ _) (recordView_stays _ _)

theorem fillTexture_stays (r : UploadRequest) (format : UInt32) :
    StaysPoisoned (fillTexture data replies r format) := by
  refine Stable.bind (Stable.ite (uploadStrips_stays _ _ _) (Stable.ret _)) fun uploaded => ?_
  exact Stable.ite (discard_stays _) (viewTexture_stays _ _)

theorem chipCompDrawTexturedQuad_stays (useLinear : Bool) :
    StaysPoisoned (chipCompDrawTexturedQuad p data replies useLinear) := by
  refine Stable.bind Stable.read fun s => Stable.ite (Stable.ret _) (Stable.ite (Stable.ret _) ?_)
  refine Stable.bind (virglSubmit_stays _ _) fun ok => ?_
  exact Stable.bind (virglSubmit_stays _ _) fun _ => Stable.ret _

theorem restoreBlend_stays (ok : Bool) : StaysPoisoned (restoreBlend p replies ok) :=
  Stable.bind (virglSubmit_stays _ _) fun _ => Stable.ret _

theorem makeTexture_stays (srcData srcBpr srcW srcH : UInt32) (hasAlpha : Bool) :
    StaysPoisoned (makeTexture data replies srcData srcBpr srcW srcH hasAlpha) := by
  refine Stable.bind (Stable.transition fun _ hs => hs) fun id => ?_
  refine Stable.bind (gpuCommand_stays _ fun _ hs => hs) fun created => ?_
  exact Stable.ite (Stable.ret _) (fillTexture_stays _ _)

theorem chipCompUploadBitmap_stays (srcData srcBpr srcW srcH : UInt32) (hasAlpha : Bool) :
    StaysPoisoned (chipCompUploadBitmap data replies srcData srcBpr srcW srcH hasAlpha) := by
  refine Stable.bind Stable.read fun s => Stable.ite (Stable.ret _) (Stable.ite (Stable.ret _) ?_)
  exact Stable.bind (chipCompFreeTexture_stays _ _) fun _ => makeTexture_stays _ _ _ _ _

theorem compositeBound_stays (bits : CompFlagBits) (r : CompositeRequest) :
    StaysPoisoned (compositeBound bits p data replies r) := by
  refine Stable.ite (Stable.bind ?_ fun ok => restoreBlend_stays ok) ?_
  · refine Stable.bind Stable.read fun s => Stable.ite (Stable.ret _) (Stable.ite (Stable.ret _) ?_)
    exact virglSubmit_stays _ _
  · refine Stable.ite (Stable.ret _) (Stable.ite (Stable.ret _) ?_)
    refine Stable.bind (chipCompUploadBitmap_stays _ _ _ _ _) fun uploaded => ?_
    refine Stable.ite (Stable.ret _) (Stable.bind (chipCompDrawTexturedQuad_stays _) fun ok => ?_)
    exact Stable.bind (chipCompFreeTexture_stays _ _) fun _ => restoreBlend_stays ok

end Stays

/-! ## Without an error -/

/-- The state after a command with this effect. -/
def Compositor.afterCommand (s : Compositor) (effect : Compositor → Compositor)
    (answer : GpuAnswer) : Compositor :=
  if answer = .refused then s else effect s

/-- The state after `chip_comp_free_texture`. -/
def Compositor.freed (s : Compositor) (unref : GpuAnswer) : Compositor :=
  if s.gs.compTexRes = 0 then s
  else (s.afterCommand (fun t => t.dropTexture s.gs.compTexRes) unref).withTexture 0 0

/-- `virgl_submit`, `chip_comp_free_texture` and so on end without an error in this way. -/
abbrev Ends {α : Type} (m : Composer α) (s : Compositor) (a : α) (t : Compositor) : Prop :=
  Unless Compositor.Poisoned m s a t

section Ends

variable {p : PipelineObjects} {data : StreamData} {replies : CompositeReplies} {s : Compositor}

theorem gpuCommand_ends (effect : Compositor → Compositor) (answer : GpuAnswer) :
    Ends (gpuCommand effect answer) s (answer == .done) (s.afterCommand effect answer) := by
  refine Or.inr ?_
  cases answer <;> rfl

theorem chipSubmit3D_done {calls : List VirglCall} {answer : GpuAnswer}
    (h : (chipSubmit3D calls answer s).1 = true) :
    chipSubmit3D calls answer s = (true, s.ran calls) := by
  have hrun : chipSubmit3D calls answer s =
      (if s.gs.cmd3dBuf = 0 then pure false else gpuCommand (fun s => s.ran calls) answer) s := rfl
  rw [hrun] at h ⊢
  split at h
  · cases h
  · cases answer with
    | done => exact if_neg (by assumption) ▸ rfl
    | refused => cases h
    | lost => cases h

/-- A submission that fails is an error. -/
theorem virglSubmit_ends (calls : List VirglCall) (answer : GpuAnswer) :
    Ends (virglSubmit calls answer) s true (s.ran calls) := by
  by_cases hnone : calls = []
  · subst hnone
    exact Or.inr rfl
  by_cases herror : s.gs.virglCtxError = true
  · exact Or.inl (virglSubmit_stays calls answer s herror)
  refine Unless.no hnone (Unless.read (Unless.no herror ?_))
  have hmarked (x : Bool × Compositor) :
      markFailure x.1 x.2 = (x.1, if x.1 then x.2 else x.2.poisoned) := by
    obtain ⟨ok, t⟩ := x
    cases ok <;> rfl
  change Compositor.Poisoned (markFailure (chipSubmit3D calls answer s).1
    (chipSubmit3D calls answer s).2).2 ∨
      markFailure (chipSubmit3D calls answer s).1 (chipSubmit3D calls answer s).2 = _
  rw [hmarked]
  by_cases hok : (chipSubmit3D calls answer s).1 = true
  · rw [chipSubmit3D_done hok]
    exact Or.inr rfl
  · rw [if_neg hok]
    exact Or.inl rfl

theorem chipCompFreeTexture_ends (destroyView unref : GpuAnswer) :
    Ends (chipCompFreeTexture destroyView unref) s ⟨⟩ (s.freed unref) := by
  refine Unless.read ?_
  by_cases hnone : s.gs.compTexRes = 0
  · have hsame : s.freed unref = s := if_pos hnone
    rw [hsame]
    exact Unless.yes hnone Unless.ret
  have hfreed : s.freed unref =
      (s.afterCommand (fun t => t.dropTexture s.gs.compTexRes) unref).withTexture 0 0 :=
    if_neg hnone
  rw [hfreed]
  refine Unless.no hnone ?_
  have hsubmit : Ends (virglSubmit
      (if s.compTexView ≠ 0 then [.destroyObject objectSamplerView s.compTexView] else [])
      destroyView) s true s := by
    split
    · exact virglSubmit_ends _ _
    · exact virglSubmit_ends _ _
  have hrest : StaysPoisoned (chipResourceUnref s.gs.compTexRes unref >>= fun _ =>
      modify fun s => s.withTexture 0 0) :=
    Stable.bind (chipResourceUnref_stays _ _) fun _ => Stable.update fun _ hs => hs
  refine Unless.bind hsubmit ?_ fun _ => hrest
  exact Unless.bind (gpuCommand_ends _ _) Unless.update fun _ => Stable.update fun _ hs => hs

/-- The strips change pixels only. -/
theorem uploadStrips_ends (r : UploadRequest) (fuel : ℕ) (rowsDone : UInt32) :
    Ends (uploadStrips data replies r fuel rowsDone) s true s := by
  induction fuel generalizing rowsDone with
  | zero => exact Unless.ret
  | succ fuel ih =>
      by_cases hmore : rowsDone < r.h
      · refine Unless.yes hmore (Unless.bind (virglSubmit_ends _ _) (ih _) fun ok => ?_)
        exact Stable.ite (uploadStrips_stays _ _ _) (Stable.ret _)
      · exact Unless.no hmore Unless.ret

/-- The state after `fillTexture`. -/
def Compositor.filled (s : Compositor) (replies : CompositeReplies) (id : UInt32) : Compositor :=
  if replies.alloc then s.handleTaken.withTexture id s.nextHandle
  else s.afterCommand (fun s => s.dropTexture id) replies.unrefFailed

theorem viewTexture_ends (id format : UInt32) :
    Ends (viewTexture replies id format) s true (s.handleTaken.withTexture id s.nextHandle) := by
  have hview : Ends compAllocHandle s s.nextHandle s.handleTaken := Or.inr rfl
  refine Unless.bind hview ?_ fun view => Stable.bind (virglSubmit_stays _ _) (recordView_stays _ _)
  exact Unless.bind (virglSubmit_ends _ _)
    (Unless.bind Unless.update Unless.ret fun _ => Stable.ret _) (recordView_stays _ _)

theorem fillTexture_ends (r : UploadRequest) (format : UInt32) :
    Ends (fillTexture data replies r format) s replies.alloc (s.filled replies r.res) := by
  have hrest (uploaded : Bool) : StaysPoisoned
      (if !uploaded then discard replies r.res else viewTexture replies r.res format) :=
    Stable.ite (discard_stays _) (viewTexture_stays _ _)
  cases halloc : replies.alloc with
  | false =>
      have hnone : Ends (chipCompUploadPixels32bpp data replies r) s false s := by
        unfold chipCompUploadPixels32bpp
        rw [halloc]
        exact Unless.ret
      have hfilled : s.filled replies r.res =
          s.afterCommand (fun s => s.dropTexture r.res) replies.unrefFailed := by
        rw [Compositor.filled, halloc]
        rfl
      rw [hfilled]
      refine Unless.bind hnone ?_ hrest
      exact Unless.bind (gpuCommand_ends _ _) Unless.ret fun _ => Stable.ret _
  | true =>
      have hall : Ends (chipCompUploadPixels32bpp data replies r) s true s := by
        unfold chipCompUploadPixels32bpp
        rw [halloc]
        exact uploadStrips_ends _ _ _
      have hfilled : s.filled replies r.res = s.handleTaken.withTexture r.res s.nextHandle := by
        rw [Compositor.filled, halloc]
        rfl
      rw [hfilled]
      exact Unless.bind hall (viewTexture_ends _ _) hrest

/-- The state after `RESOURCE_CREATE_3D`. -/
def Compositor.textureMade (s : Compositor) (replies : CompositeReplies) (texture : Texture) :
    Compositor :=
  let t := s.idTaken.afterCommand (fun t => t.createTexture s.gs.allocId texture) replies.create
  if replies.create = .done then t.filled replies s.gs.allocId else t

theorem makeTexture_ends (srcData srcBpr srcW srcH : UInt32) (hasAlpha : Bool) :
    Ends (makeTexture data replies srcData srcBpr srcW srcH hasAlpha) s
      (replies.create == .done && replies.alloc)
      (s.textureMade replies ⟨pipeFmt hasAlpha, srcW, srcH⟩) := by
  have hid : Ends chipAllocResourceId s s.gs.allocId s.idTaken := Or.inr rfl
  refine Unless.bind hid ?_ fun id => ?_
  · refine Unless.bind (gpuCommand_ends _ _) ?_ fun created =>
      Stable.ite (Stable.ret _) (fillTexture_stays _ _)
    unfold Compositor.textureMade
    cases replies.create with
    | done => exact fillTexture_ends _ _
    | refused => exact Unless.ret
    | lost => exact Unless.ret
  · exact Stable.bind (gpuCommand_stays _ fun _ hs => hs) fun created =>
      Stable.ite (Stable.ret _) (fillTexture_stays _ _)

theorem chipCompUploadBitmap_ends {srcData srcBpr srcW srcH : UInt32} {hasAlpha : Bool}
    (hready : s.gs.virgl2dReady = true ∧ s.gs.virglShadersOk = true)
    (hregion : Uploadable srcData srcW srcH) :
    Ends (chipCompUploadBitmap data replies srcData srcBpr srcW srcH hasAlpha) s
      (replies.create == .done && replies.alloc)
      ((s.freed replies.unrefOld).textureMade replies ⟨pipeFmt hasAlpha, srcW, srcH⟩) := by
  refine Unless.read (Unless.no (not_not.mpr hready) (Unless.no (not_not.mpr hregion) ?_))
  exact Unless.bind (chipCompFreeTexture_ends _ _) (makeTexture_ends _ _ _ _ _) fun _ =>
    makeTexture_stays _ _ _ _ _

theorem restoreBlend_ends (ok : Bool) :
    Ends (restoreBlend p replies ok) s (if ok then .success else .generic)
      (s.ran [.bindObject objectBlend p.blend]) :=
  Unless.bind (virglSubmit_ends _ _) Unless.ret fun _ => Stable.ret _

/-- The state after the draw. -/
def Compositor.drawn (s : Compositor) (p : PipelineObjects) : Compositor :=
  if s.gs.virgl2dVbufRes = 0 then s else s.ran [.bindShader shaderFragment p.fs]

theorem chipCompDrawTexturedQuad_ends (useLinear : Bool)
    (hready : s.gs.virgl2dReady = true ∧ s.gs.virglShadersOk = true) (hview : s.compTexView ≠ 0) :
    Ends (chipCompDrawTexturedQuad p data replies useLinear) s (s.gs.virgl2dVbufRes != 0)
      (s.drawn p) := by
  refine Unless.read (Unless.no (not_not.mpr hready) ?_)
  unfold Compositor.drawn
  by_cases hvbuf : s.gs.virgl2dVbufRes = 0
  · rw [if_pos hvbuf, hvbuf]
    exact Unless.yes (Or.inr rfl) Unless.ret
  · rw [if_neg hvbuf, bne_iff_ne.mpr hvbuf]
    refine Unless.no (not_or.mpr ⟨hview, hvbuf⟩) (Unless.bind (virglSubmit_ends _ _) ?_ fun ok =>
      Stable.bind (virglSubmit_stays _ _) fun _ => Stable.ret _)
    exact Unless.bind (virglSubmit_ends _ _) Unless.ret fun _ => Stable.ret _

theorem chipVirglDrawColoredQuad_ends :
    ∃ ok, Ends (chipVirglDrawColoredQuad p data replies) s ok s := by
  by_cases hready : s.gs.virgl2dReady = true ∧ s.gs.virglShadersOk = true
  · by_cases hobjects : s.gs.virgl2dVbufRes = 0 ∨ p.ve = 0
    · exact ⟨false, Unless.read (Unless.no (not_not.mpr hready) (Unless.yes hobjects Unless.ret))⟩
    · exact ⟨true, Unless.read (Unless.no (not_not.mpr hready)
        (Unless.no hobjects (virglSubmit_ends _ _)))⟩
  · exact ⟨false, Unless.read (Unless.yes hready Unless.ret)⟩

theorem compositeSolid_ends :
    ∃ error, Ends (compositeSolid p data replies) s error
      (s.ran [.bindObject objectBlend p.blend]) := by
  obtain ⟨ok, hquad⟩ := @chipVirglDrawColoredQuad_ends p data replies s
  exact ⟨_, Unless.bind hquad (restoreBlend_ends ok) fun _ => restoreBlend_stays _⟩

end Ends

/-! ## What a composition leaves alone -/

/-- The setup of the pipeline, and what is bound. -/
structure Kept (s t : Compositor) : Prop where
  ready : t.gs.virgl2dReady = s.gs.virgl2dReady
  shaders : t.gs.virglShadersOk = s.gs.virglShadersOk
  vbuf : t.gs.virgl2dVbufRes = s.gs.virgl2dVbufRes
  blend : t.host.blend = s.host.blend
  shader : t.host.fragmentShader = s.host.fragmentShader

namespace Kept

variable {s t u : Compositor}

theorem refl (s : Compositor) : Kept s s := ⟨rfl, rfl, rfl, rfl, rfl⟩

theorem trans (h : Kept s t) (h' : Kept t u) : Kept s u :=
  ⟨h'.ready.trans h.ready, h'.shaders.trans h.shaders, h'.vbuf.trans h.vbuf,
    h'.blend.trans h.blend, h'.shader.trans h.shader⟩

theorem afterCommand {effect : Compositor → Compositor} (h : Kept s (effect s))
    (answer : GpuAnswer) : Kept s (s.afterCommand effect answer) := by
  unfold Compositor.afterCommand
  split
  · exact refl s
  · exact h

theorem freed (s : Compositor) (unref : GpuAnswer) : Kept s (s.freed unref) := by
  unfold Compositor.freed
  split
  · exact refl s
  · exact (afterCommand ⟨rfl, rfl, rfl, rfl, rfl⟩ unref).trans ⟨rfl, rfl, rfl, rfl, rfl⟩

theorem textureMade (s : Compositor) (replies : CompositeReplies) (texture : Texture) :
    Kept s (s.textureMade replies texture) := by
  have hmade : Kept s (s.idTaken.afterCommand
      (fun t => t.createTexture s.gs.allocId texture) replies.create) :=
    trans (t := s.idTaken) ⟨rfl, rfl, rfl, rfl, rfl⟩ (afterCommand ⟨rfl, rfl, rfl, rfl, rfl⟩ _)
  unfold Compositor.textureMade
  split
  · refine hmade.trans ?_
    unfold Compositor.filled
    split
    · exact ⟨rfl, rfl, rfl, rfl, rfl⟩
    · exact afterCommand ⟨rfl, rfl, rfl, rfl, rfl⟩ _
  · exact hmade

end Kept

/-! ## The three ways of a bitmap -/

/-- The bitmap gets as far as a texture. -/
def CompositeRequest.Uploads (r : CompositeRequest) : Prop :=
  chipFormatBpp r.srcFormat = 4 ∧ r.RegionOk ∧
    Uploadable r.srcRegion r.srcW.toUInt32 r.srcH.toUInt32

instance (r : CompositeRequest) : Decidable r.Uploads := inferInstanceAs (Decidable (_ ∧ _ ∧ _))

/-- The texture is made. -/
def CompositeReplies.Makes (replies : CompositeReplies) : Prop :=
  replies.create = .done ∧ replies.alloc = true

instance (replies : CompositeReplies) : Decidable replies.Makes :=
  inferInstanceAs (Decidable (_ ∧ _))

/-- The state after `chip_comp_upload_bitmap`. -/
def Compositor.uploaded (s : Compositor) (replies : CompositeReplies) (r : CompositeRequest) :
    Compositor :=
  (s.freed replies.unrefOld).textureMade replies
    ⟨pipeFmt r.hasAlpha, r.srcW.toUInt32, r.srcH.toUInt32⟩

/-- The state after a draw with the texture, before the blend state is restored. -/
def Compositor.textured (s : Compositor) (p : PipelineObjects) (replies : CompositeReplies)
    (r : CompositeRequest) : Compositor :=
  ((s.uploaded replies r).drawn p).freed replies.unref

section BitMap

variable {bits : CompFlagBits} {p : PipelineObjects} {data : StreamData}
  {replies : CompositeReplies} {r : CompositeRequest} {s : Compositor}

theorem Compositor.nextHandle_ne_zero (s : Compositor) : s.nextHandle ≠ 0 := by
  unfold Compositor.nextHandle
  split
  · decide
  · assumption

theorem uploaded_kept (s : Compositor) (replies : CompositeReplies) (r : CompositeRequest) :
    Kept s (s.uploaded replies r) :=
  (Kept.freed s _).trans (Kept.textureMade _ _ _)

/-- What follows the upload. -/
theorem afterUpload_stays (uploaded : Bool) :
    StaysPoisoned (if !uploaded then pure .outOfMemory else do
      let ok ← chipCompDrawTexturedQuad p data replies (r.flags &&& bits.srcFilter != 0)
      chipCompFreeTexture replies.destroyView replies.unref
      restoreBlend p replies ok) := by
  refine Stable.ite (Stable.ret _) (Stable.bind (chipCompDrawTexturedQuad_stays _) fun ok => ?_)
  exact Stable.bind (chipCompFreeTexture_stays _ _) fun _ => restoreBlend_stays ok

theorem compositeBitMap_skips (hready : s.gs.virgl2dReady = true ∧ s.gs.virglShadersOk = true)
    (hnot : ¬ r.Uploads) : ∃ error, Ends (compositeBitMap bits p data replies r) s error s := by
  by_cases hbpp : chipFormatBpp r.srcFormat = 4
  · by_cases hregion : r.RegionOk
    · have hfails : Ends (chipCompUploadBitmap data replies r.srcRegion r.srcBpr r.srcW.toUInt32
          r.srcH.toUInt32 r.hasAlpha) s false s :=
        Unless.read (Unless.no (not_not.mpr hready)
          (Unless.yes (fun h => hnot ⟨hbpp, hregion, h⟩) Unless.ret))
      refine ⟨.outOfMemory, Unless.no (not_not.mpr hbpp) (Unless.no (not_not.mpr hregion) ?_)⟩
      exact Unless.bind hfails Unless.ret afterUpload_stays
    · exact ⟨_, Unless.no (not_not.mpr hbpp) (Unless.yes hregion Unless.ret)⟩
  · exact ⟨_, Unless.yes hbpp Unless.ret⟩

theorem compositeBitMap_fails (hready : s.gs.virgl2dReady = true ∧ s.gs.virglShadersOk = true)
    (huploads : r.Uploads) (hfails : ¬ replies.Makes) :
    Ends (compositeBitMap bits p data replies r) s .outOfMemory (s.uploaded replies r) := by
  obtain ⟨hbpp, hregion, huploadable⟩ := huploads
  refine Unless.no (not_not.mpr hbpp) (Unless.no (not_not.mpr hregion) ?_)
  refine Unless.bind (chipCompUploadBitmap_ends hready huploadable) ?_ afterUpload_stays
  have hfalse : (replies.create == .done && replies.alloc) = false := by
    rw [Bool.and_eq_false_iff, beq_eq_false_iff_ne]
    rcases not_and_or.mp hfails with hcreate | halloc
    · exact Or.inl hcreate
    · exact Or.inr (Bool.eq_false_iff.mpr halloc)
  rw [hfalse]
  exact Unless.ret

theorem compositeBitMap_draws (hready : s.gs.virgl2dReady = true ∧ s.gs.virglShadersOk = true)
    (huploads : r.Uploads) (hmakes : replies.Makes) :
    ∃ error, Ends (compositeBitMap bits p data replies r) s error
      ((s.textured p replies r).ran [.bindObject objectBlend p.blend]) := by
  obtain ⟨hbpp, hregion, huploadable⟩ := huploads
  have hkept := uploaded_kept s replies r
  have hready' : (s.uploaded replies r).gs.virgl2dReady = true ∧
      (s.uploaded replies r).gs.virglShadersOk = true :=
    ⟨hkept.ready.trans hready.1, hkept.shaders.trans hready.2⟩
  have hview : (s.uploaded replies r).compTexView ≠ 0 := by
    unfold Compositor.uploaded Compositor.textureMade Compositor.filled
    rw [if_pos hmakes.1, if_pos hmakes.2]
    exact Compositor.nextHandle_ne_zero _
  refine ⟨if (s.uploaded replies r).gs.virgl2dVbufRes != 0 then .success else .generic, ?_⟩
  refine Unless.no (not_not.mpr hbpp) (Unless.no (not_not.mpr hregion) ?_)
  refine Unless.bind (chipCompUploadBitmap_ends hready huploadable) ?_ afterUpload_stays
  have htrue : (replies.create == .done && replies.alloc) = true := by
    rw [hmakes.1, hmakes.2]
    rfl
  rw [htrue]
  refine Unless.bind (chipCompDrawTexturedQuad_ends _ hready' hview) ?_ fun ok =>
    Stable.bind (chipCompFreeTexture_stays _ _) fun _ => restoreBlend_stays ok
  exact Unless.bind (chipCompFreeTexture_ends _ _) (restoreBlend_ends _) fun _ =>
    restoreBlend_stays _

end BitMap

/-! ## The condition -/

/-- What has been created is neither on the host nor in `comp_tex_res`. -/
def TexturesGone (t : Compositor) : Prop :=
  ∀ id ∈ t.created, t.host.textures id = none ∧ t.gs.compTexRes ≠ id

/-- The pipeline is as a draw without composition expects it, and nothing is left of the texture. -/
structure Restored (p : PipelineObjects) (t : Compositor) : Prop where
  blend : t.host.blend = p.blend
  shader : t.host.fragmentShader = p.fs
  textures : TexturesGone t

/-- The call gets to the end, or the operator's object is the default one. -/
def BlendReset (p : PipelineObjects) (replies : CompositeReplies) (r : CompositeRequest) : Prop :=
  r.source = .solidColor ∨ (r.Uploads ∧ replies.Makes) ∨ p.compBlends r.op = p.blend

/-- The colour shader was bound, or the draw has bound it again. -/
def ShaderReset (p : PipelineObjects) (replies : CompositeReplies) (r : CompositeRequest)
    (s : Compositor) : Prop :=
  s.host.fragmentShader = p.fs ∨
    r.source ≠ .solidColor ∧ (r.Uploads ∧ replies.Makes) ∧ s.gs.virgl2dVbufRes ≠ 0

/-- What has been created is known to the driver, and dropped. -/
def TextureDropped (replies : CompositeReplies) (r : CompositeRequest) (s : Compositor) : Prop :=
  r.source ≠ .solidColor → r.Uploads → replies.create ≠ .refused →
    replies.create = .done ∧ s.gs.allocId ≠ 0 ∧
      (if replies.alloc then replies.unref else replies.unrefFailed) ≠ .refused

section Condition

variable {bits : CompFlagBits} {p : PipelineObjects} {data : StreamData}
  {replies : CompositeReplies} {r : CompositeRequest} {s : Compositor}

theorem freed_fields (s : Compositor) (unref : GpuAnswer) :
    (s.freed unref).gs.compTexRes = 0 ∧ (s.freed unref).created = s.created ∧
      (s.freed unref).gs.allocId = s.gs.allocId := by
  unfold Compositor.freed Compositor.afterCommand
  split
  · next hnone => exact ⟨hnone, rfl, rfl⟩
  · split
    · exact ⟨rfl, rfl, rfl⟩
    · exact ⟨rfl, rfl, rfl⟩

theorem gone_none {t : Compositor} (h : t.created = []) : TexturesGone t := by
  intro id hmem
  rw [h] at hmem
  cases hmem

theorem gone_single {t : Compositor} {id : UInt32} (h : t.created = [id]) :
    TexturesGone t ↔ t.host.textures id = none ∧ t.gs.compTexRes ≠ id := by
  unfold TexturesGone
  rw [h]
  exact List.forall_mem_singleton

/-- The state after the id of the texture has been taken. -/
theorem idTaken_fields (hfresh : s.created = []) :
    (s.freed replies.unrefOld).idTaken.created = [] ∧
      (s.freed replies.unrefOld).idTaken.gs.compTexRes = 0 := by
  obtain ⟨hnone, hcreated, -⟩ := freed_fields s replies.unrefOld
  exact ⟨hcreated.trans hfresh, hnone⟩

/-- A texture that has been created, and dropped unless the command was refused. -/
theorem dropped_gone_iff {t : Compositor} {id : UInt32} {texture : Texture} (answer : GpuAnswer)
    (hfresh : t.created = []) (hnone : t.gs.compTexRes = 0) :
    TexturesGone ((t.createTexture id texture).afterCommand (fun u => u.dropTexture id) answer) ↔
      id ≠ 0 ∧ answer ≠ .refused := by
  have hcreated : (t.createTexture id texture).created = [id] := congrArg (id :: ·) hfresh
  by_cases hrefused : answer = .refused
  · rw [Compositor.afterCommand, if_pos hrefused, gone_single hcreated]
    refine ⟨fun h => ?_, fun h => absurd hrefused h.2⟩
    have hthere : (t.createTexture id texture).host.textures id = some texture :=
      Function.update_self ..
    exact absurd (hthere.symm.trans h.1) (Option.some_ne_none _)
  · have hgone : ((t.createTexture id texture).dropTexture id).host.textures id = none :=
      Function.update_self ..
    have hres : ((t.createTexture id texture).dropTexture id).gs.compTexRes = 0 := hnone
    rw [Compositor.afterCommand, if_neg hrefused,
      gone_single (t := (t.createTexture id texture).dropTexture id) hcreated, hres]
    exact ⟨fun h => ⟨Ne.symm h.2, hrefused⟩, fun h => ⟨hgone, Ne.symm h.1⟩⟩

/-- After an upload that has failed. -/
theorem uploaded_gone_iff (hfresh : s.created = []) (hfails : ¬ replies.Makes) :
    TexturesGone (s.uploaded replies r) ↔ (replies.create ≠ .refused →
      replies.create = .done ∧ s.gs.allocId ≠ 0 ∧ replies.unrefFailed ≠ .refused) := by
  obtain ⟨hcreated, hnone⟩ := @idTaken_fields replies s hfresh
  have hid := (freed_fields s replies.unrefOld).2.2
  unfold Compositor.uploaded Compositor.textureMade
  rw [hid]
  cases hcreate : replies.create with
  | refused => exact ⟨fun _ h => absurd rfl h, fun _ => gone_none hcreated⟩
  | lost =>
      refine ⟨fun h => ?_, fun h => absurd (h (by decide)).1 (by decide)⟩
      rw [if_neg (by decide)] at h
      have hgone := (dropped_gone_iff .refused hcreated hnone).mp h
      exact absurd rfl hgone.2
  | done =>
      have halloc : replies.alloc = false :=
        Bool.eq_false_iff.mpr fun h => hfails ⟨hcreate, h⟩
      rw [if_pos rfl, Compositor.filled, halloc]
      refine (dropped_gone_iff replies.unrefFailed hcreated hnone).trans ?_
      exact ⟨fun h _ => ⟨rfl, h⟩, fun h => (h (by decide)).2⟩

/-- The texture is there after the draw, and in `comp_tex_res`. -/
theorem drawn_fields (hfresh : s.created = []) (hmakes : replies.Makes) :
    let t := (s.uploaded replies r).drawn p
    t.created = [s.gs.allocId] ∧ t.gs.compTexRes = s.gs.allocId ∧
      t.host.textures s.gs.allocId ≠ none := by
  obtain ⟨hcreated, -⟩ := @idTaken_fields replies s hfresh
  have hid := (freed_fields s replies.unrefOld).2.2
  have huploaded : (s.uploaded replies r).created = [s.gs.allocId] ∧
      (s.uploaded replies r).gs.compTexRes = s.gs.allocId ∧
        (s.uploaded replies r).host.textures s.gs.allocId ≠ none := by
    unfold Compositor.uploaded Compositor.textureMade Compositor.filled
    rw [if_pos hmakes.1, if_pos hmakes.2, hid, hmakes.1]
    refine ⟨congrArg (s.gs.allocId :: ·) hcreated, rfl, ?_⟩
    intro hnone
    have hthere : Function.update (s.freed replies.unrefOld).idTaken.host.textures s.gs.allocId
      (some ⟨pipeFmt r.hasAlpha, r.srcW.toUInt32, r.srcH.toUInt32⟩) s.gs.allocId = some _ :=
      Function.update_self ..
    exact Option.some_ne_none _ (hthere.symm.trans hnone)
  intro t
  unfold t Compositor.drawn
  split
  · exact huploaded
  · exact huploaded

/-- After a draw with the texture. -/
theorem textured_gone_iff (hfresh : s.created = []) (hmakes : replies.Makes) :
    TexturesGone (s.textured p replies r) ↔ s.gs.allocId ≠ 0 ∧ replies.unref ≠ .refused := by
  obtain ⟨hcreated, hres, hthere⟩ := @drawn_fields p replies r s hfresh hmakes
  unfold Compositor.textured Compositor.freed
  rw [hres]
  by_cases hzero : s.gs.allocId = 0
  · rw [if_pos hzero, gone_single hcreated]
    exact ⟨fun h => absurd h.1 hthere, fun h => absurd hzero h.1⟩
  rw [if_neg hzero]
  unfold Compositor.afterCommand
  by_cases hrefused : replies.unref = .refused
  · rw [if_pos hrefused,
      gone_single (t := ((s.uploaded replies r).drawn p).withTexture 0 0) hcreated]
    exact ⟨fun h => absurd h.1 hthere, fun h => absurd hrefused h.2⟩
  · rw [if_neg hrefused]
    let dropped := ((s.uploaded replies r).drawn p).dropTexture s.gs.allocId
    refine (gone_single (t := dropped.withTexture 0 0) hcreated).trans ?_
    refine ⟨fun _ => ⟨hzero, hrefused⟩, fun _ => ⟨?_, Ne.symm hzero⟩⟩
    exact Function.update_self ..

/-- What is bound after a draw with the texture. -/
theorem textured_bound (s : Compositor) (p : PipelineObjects) (replies : CompositeReplies)
    (r : CompositeRequest) : (s.textured p replies r).host.fragmentShader =
      if s.gs.virgl2dVbufRes = 0 then s.host.fragmentShader else p.fs := by
  have hkept := uploaded_kept s replies r
  have hfreed := Kept.freed ((s.uploaded replies r).drawn p) replies.unref
  rw [← hkept.vbuf, ← hkept.shader]
  refine hfreed.shader.trans ?_
  unfold Compositor.drawn
  split
  · rfl
  · rfl

/-- From the operator's blend state on. -/
theorem compositeBound_spec (hready : s.gs.virgl2dReady = true ∧ s.gs.virglShadersOk = true)
    (hbound : s.host.blend = p.compBlends r.op)
    (hok : ¬ (compositeBound bits p data replies r s).2.Poisoned) :
    let t := (compositeBound bits p data replies r s).2
    (t.host.blend = p.blend ↔ BlendReset p replies r) ∧
      (t.host.fragmentShader = p.fs ↔ ShaderReset p replies r s) ∧
        (s.created = [] → (TexturesGone t ↔ TextureDropped replies r s)) := by
  intro t
  unfold t
  unfold compositeBound at hok ⊢
  by_cases hsolid : r.source = .solidColor
  · rw [if_pos hsolid] at hok ⊢
    obtain ⟨error, hends⟩ := @compositeSolid_ends p data replies s
    rw [hends.result hok]
    refine ⟨?_, ?_, ?_⟩
    · exact ⟨fun _ => Or.inl hsolid, fun _ => rfl⟩
    · exact ⟨Or.inl, fun h => h.resolve_right fun hdrawn => hdrawn.1 hsolid⟩
    · exact fun hfresh =>
        ⟨fun _ hbitmap => absurd hsolid hbitmap, fun _ => gone_none hfresh⟩
  rw [if_neg hsolid] at hok ⊢
  by_cases huploads : r.Uploads
  · by_cases hmakes : replies.Makes
    · obtain ⟨error, hends⟩ := @compositeBitMap_draws bits p data replies r s hready huploads hmakes
      rw [hends.result hok]
      refine ⟨?_, ?_, ?_⟩
      · exact ⟨fun _ => Or.inr (Or.inl ⟨huploads, hmakes⟩), fun _ => rfl⟩
      · refine Eq.congr_left (textured_bound s p replies r) |>.trans ?_
        by_cases hvbuf : s.gs.virgl2dVbufRes = 0
        · rw [if_pos hvbuf]
          exact ⟨Or.inl, fun h => h.resolve_right fun hdrawn => hdrawn.2.2 hvbuf⟩
        · rw [if_neg hvbuf]
          exact ⟨fun _ => Or.inr ⟨hsolid, ⟨huploads, hmakes⟩, hvbuf⟩, fun _ => rfl⟩
      · intro hfresh
        refine (textured_gone_iff hfresh hmakes).trans ?_
        unfold TextureDropped
        rw [hmakes.1, hmakes.2]
        exact ⟨fun h _ _ _ => ⟨rfl, h⟩, fun h => (h hsolid huploads (by decide)).2⟩
    · rw [(compositeBitMap_fails hready huploads hmakes).result hok]
      have hkept := uploaded_kept s replies r
      refine ⟨?_, ?_, ?_⟩
      · rw [hkept.blend, hbound]
        refine ⟨fun h => Or.inr (Or.inr h), fun h => ?_⟩
        exact (h.resolve_left hsolid).resolve_left fun hdrawn => hmakes hdrawn.2
      · rw [hkept.shader]
        exact ⟨Or.inl, fun h => h.resolve_right fun hdrawn => hmakes hdrawn.2.1.2⟩
      · intro hfresh
        refine (uploaded_gone_iff hfresh hmakes).trans ?_
        unfold TextureDropped
        have hanswer : replies.create = .done →
            (if replies.alloc then replies.unref else replies.unrefFailed) =
              replies.unrefFailed := fun hdone =>
          if_neg fun halloc => hmakes ⟨hdone, halloc⟩
        constructor
        · intro h _ _ hcreate
          obtain ⟨hdone, hid, hunref⟩ := h hcreate
          refine ⟨hdone, hid, ?_⟩
          rw [hanswer hdone]
          exact hunref
        · intro h hcreate
          obtain ⟨hdone, hid, hunref⟩ := h hsolid huploads hcreate
          rw [hanswer hdone] at hunref
          exact ⟨hdone, hid, hunref⟩
  · obtain ⟨error, hends⟩ := @compositeBitMap_skips bits p data replies r s hready huploads
    rw [hends.result hok]
    refine ⟨?_, ?_, ?_⟩
    · rw [hbound]
      refine ⟨fun h => Or.inr (Or.inr h), fun h => ?_⟩
      exact (h.resolve_left hsolid).resolve_left fun hdrawn => huploads hdrawn.1
    · exact ⟨Or.inl, fun h => h.resolve_right fun hdrawn => huploads hdrawn.2.1.1⟩
    · exact fun hfresh => ⟨fun _ _ h => absurd h huploads, fun _ => gone_none hfresh⟩

end Condition

/-! ## The whole call -/

section Composite

variable {bits : CompFlagBits} {p : PipelineObjects} {data : StreamData}
  {replies : CompositeReplies} {r : CompositeRequest} {s : Compositor}

theorem ready_of_validate (h : validate bits p r s = none) :
    s.gs.virgl2dReady = true ∧ s.gs.virglShadersOk = true := by
  unfold validate at h
  by_contra hnot
  rw [if_pos hnot] at h
  cases h

/-- A call that gets past its checks goes on with the operator's object bound. -/
theorem chipVirglComposite_bound (hpast : validate bits p r s = none)
    (hok : ¬ (chipVirglComposite bits p data replies r s).2.Poisoned) :
    chipVirglComposite bits p data replies r s =
      compositeBound bits p data replies r
        (s.ran [.bindObject objectBlend (p.compBlends r.op)]) := by
  have hrun : chipVirglComposite bits p data replies r s =
      (virglSubmit [.bindObject objectBlend (p.compBlends r.op)] replies.bindBlend >>=
        fun bound => if !bound then pure .generic else compositeBound bits p data replies r) s := by
    simp only [chipVirglComposite, bind, StateT.bind, get, getThe, MonadStateOf.get, StateT.get,
      pure, hpast]
  have hrest (bound : Bool) : StaysPoisoned
      (if !bound then pure .generic else compositeBound bits p data replies r) :=
    Stable.ite (Stable.ret _) (compositeBound_stays _ _)
  rw [hrun] at hok ⊢
  rcases virglSubmit_ends [.bindObject objectBlend (p.compBlends r.op)] replies.bindBlend with
    herror | hdone
  · exact absurd (hrest _ _ herror) hok
  · exact congrArg (fun bound : Bool × Compositor => (if !bound.1 then pure .generic else
      compositeBound bits p data replies r : Composer CompError) bound.2) hdone

theorem chipVirglComposite_spec (hpast : validate bits p r s = none)
    (hok : ¬ (chipVirglComposite bits p data replies r s).2.Poisoned) :
    let t := (chipVirglComposite bits p data replies r s).2
    (t.host.blend = p.blend ↔ BlendReset p replies r) ∧
      (t.host.fragmentShader = p.fs ↔ ShaderReset p replies r s) ∧
        (s.created = [] → (TexturesGone t ↔ TextureDropped replies r s)) := by
  intro t
  have hbound := chipVirglComposite_bound hpast hok
  unfold t
  rw [hbound] at hok ⊢
  exact compositeBound_spec (ready_of_validate hpast) rfl hok

theorem chipVirglComposite_stays :
    StaysPoisoned (chipVirglComposite bits p data replies r) := by
  refine Stable.bind Stable.read fun s => ?_
  split
  · exact Stable.ret _
  · refine Stable.bind (virglSubmit_stays _ _) fun bound => ?_
    exact Stable.ite (Stable.ret _) (compositeBound_stays _ _)

end Composite

/-! ## The colour shader -/

/-- Calls one after the other. -/
def compositions (bits : CompFlagBits) (p : PipelineObjects) (data : StreamData)
    (calls : List (CompositeReplies × CompositeRequest)) (s : Compositor) : Compositor :=
  calls.foldl (fun s call => (chipVirglComposite bits p data call.1 call.2 s).2) s

section Run

variable {bits : CompFlagBits} {p : PipelineObjects} {data : StreamData} {s : Compositor}

/-- A call leaves the colour shader bound. -/
theorem shader_step (replies : CompositeReplies) (r : CompositeRequest)
    (hshader : s.host.fragmentShader = p.fs)
    (hok : ¬ (chipVirglComposite bits p data replies r s).2.Poisoned) :
    (chipVirglComposite bits p data replies r s).2.host.fragmentShader = p.fs := by
  cases hvalid : validate bits p r s with
  | none => exact (chipVirglComposite_spec hvalid hok).2.1.mpr (Or.inl hshader)
  | some error =>
      have hsame : chipVirglComposite bits p data replies r s = (error, s) := by
        simp only [chipVirglComposite, bind, StateT.bind, get, getThe, MonadStateOf.get, StateT.get,
          pure, hvalid]
        rfl
      rw [hsame]
      exact hshader

/-- In every run without an error, whatever the replies, the first way of `ShaderReset` applies. -/
theorem shader_run (calls : List (CompositeReplies × CompositeRequest))
    (hshader : s.host.fragmentShader = p.fs)
    (hok : ¬ (compositions bits p data calls s).Poisoned) :
    (compositions bits p data calls s).host.fragmentShader = p.fs := by
  induction calls generalizing s with
  | nil => exact hshader
  | cons call rest ih =>
      have hstays (t : Compositor) (ht : t.Poisoned) :
          (compositions bits p data rest t).Poisoned :=
        List.foldlRecOn rest _ ht fun t ht other _ => chipVirglComposite_stays t ht
      refine ih (shader_step call.1 call.2 hshader fun herror => hok ?_) hok
      exact hstays _ herror

end Run

/-! ## The result -/

/-- Nothing has been created yet. -/
def Compositor.fresh (s : Compositor) : Compositor := { s with created := [] }

/-- For every operator, source, flags, rectangle and pattern of replies: after a call that gets to
the operator's blend object and leaves the context without an error, the pipeline is restored if
and only if the three conditions hold. -/
theorem pipeline_restored_iff (bits : CompFlagBits) (p : PipelineObjects) (data : StreamData)
    (replies : CompositeReplies) (r : CompositeRequest) (s : Compositor)
    (hpast : validate bits p r s = none)
    (hok : ¬ (chipVirglComposite bits p data replies r s.fresh).2.Poisoned) :
    Restored p (chipVirglComposite bits p data replies r s.fresh).2 ↔
      BlendReset p replies r ∧ ShaderReset p replies r s ∧ TextureDropped replies r s := by
  obtain ⟨hblend, hshader, htextures⟩ := chipVirglComposite_spec (s := s.fresh) hpast hok
  refine Iff.trans ?_ (and_congr hblend (and_congr hshader (htextures rfl)))
  exact ⟨fun h => ⟨h.blend, h.shader, h.textures⟩, fun h => ⟨h.1, h.2.1, h.2.2⟩⟩

/-- The handles of the driver. -/
def exampleObjects : PipelineObjects where
  blend := 100
  fs := 105
  fsTex := 107
  sampler := 108
  samplerLinear := 109
  ve := 110
  compBlends op := if op ≤ 12 then 200 + op else 0

def exampleBits : CompFlagBits := ⟨1, 2, 4⟩

def exampleData : StreamData := ⟨⟨[], by decide⟩, fun _ _ => ⟨[], by decide⟩⟩

/-- Every command succeeds. -/
def allDone : CompositeReplies :=
  ⟨.done, .done, .done, .done, true, fun _ => .done, .done, .done, .done, .done, .done, .done,
    .done⟩

/-- SrcOverDest with two by two pixels of a bitmap, from this column on. -/
def exampleRequest (srcX : Int32) : CompositeRequest :=
  ⟨3, .bitMap ⟨1, 64, 16, 16, .a8r8g8b8⟩, 0x1000, 64, .a8r8g8b8, srcX, 0, 2, 2, 0, 0, 2, 2, 0, 0⟩

def exampleCompositor : Compositor where
  gs := { self := 1, virgl2dReady := true, virglShadersOk := true, cmd3dBuf := 1,
          virgl2dVbufRes := 20, nextResourceId := 21 }
  compNextHandle := 213
  compTexView := 0
  host := ⟨100, 105, fun _ => none⟩
  created := []

/-- A bitmap whose texture is made, drawn and dropped. -/
theorem pipeline_restored_bitmap :
    Restored exampleObjects (chipVirglComposite exampleBits exampleObjects exampleData allDone
      (exampleRequest 0) exampleCompositor.fresh).2 := by
  refine (pipeline_restored_iff exampleBits exampleObjects exampleData allDone (exampleRequest 0)
    exampleCompositor (by decide) (by decide +kernel)).mpr ⟨?_, Or.inl rfl, fun _ _ _ => ?_⟩
  · exact Or.inr (Or.inl ⟨by decide, by decide⟩)
  · exact ⟨rfl, by decide, by decide⟩

/-- A region that begins left of its bitmap. -/
theorem pipeline_not_restored :
    let t := (chipVirglComposite exampleBits exampleObjects exampleData allDone
      (exampleRequest (-1)) exampleCompositor.fresh).2
    validate exampleBits exampleObjects (exampleRequest (-1)) exampleCompositor = none ∧
      ¬ t.Poisoned ∧ ¬ Restored exampleObjects t := by
  intro t
  refine ⟨by decide, by decide +kernel, fun h => ?_⟩
  exact absurd h.blend (by decide +kernel)

end VirtIOGPU.Compositing
