import VirtIOGPU.Card.Numbering
import VirtIOGPU.Card.Ready

/-!
# Functions that create resources

Each of them is shown to draw as many ids as it says, to use none that is in use, and to keep
`Numbering`, provided that the counter can be drawn from (`Ids.DrawOk`) and that 2 is free when
the cursor is created.

## Strategy

A program that creates nothing keeps `IdsSound` (`CreatesNone.idsSound`), so the work is at the
create commands.  One of these draws its id at the counter, where `Numbering.draw_fresh` says that
it is not live; its effect on the ids is `Ids.drawn`.

```text
function               draws                         may leave
chip_SetGC             one, if it gets that far      nothing, or the new resource as a stray
chip_CursorCreate      none, it takes the id 2       the id 2 as a stray (`Strays.afterCursor`)
chip_virgl_init_2d     one to three (`draws`)        nothing that is not drawn
upload of a texture    one, if it gets that far      nothing
chip_flush_all         none, it may swap two ids     nothing
```
-/

namespace VirtIOGPU.Card

open Lib.Hoare

variable {strays : Strays}

/-! ## 3D resources -/

/-- `m` ends in a state that has drawn `n` ids. -/
def Draws (strays : Strays) (ids : Ids) (n : ℕ) (gs : GpuState) (c : CardState) : Prop :=
  gs.ids = ids.after n ∧ IdsSound (ids.after n) strays c

/-- The answers with which the first resource becomes the scanout. -/
def VirglEnv.first (env : VirglEnv) : Bool :=
  env.create == .done && env.attach == .done && Shows env.setScanout 3

theorem gpuCommand_result (effect : Host → Host) (answer : GpuAnswer) (c : CardState) :
    (gpuCommand effect answer c).1 = (answer == .done) := by
  cases answer <;> rfl

theorem createCommand_result (id : UInt32) (resource : GpuResource) (answer : GpuAnswer)
    (c : CardState) : (createCommand id resource answer c).1 = (answer == .done) := by
  cases answer <;> rfl

theorem setScanoutAttempts_result (s : Scanout) (answers : ℕ → GpuAnswer) (n : ℕ) (c : CardState) :
    (setScanoutAttempts s answers n c).1 = Shows answers n :=
  (setScanoutAttempts_sees s answers n c (⟨rfl, rfl⟩ : Sees c.host c.events c)).1

section Virgl

variable {gs : GpuState}

/-- Where 3D resources can be created, the cursor's id is not drawn. -/
theorem createDrawn_draws (resource : GpuResource) (answer : GpuAnswer)
    (hok : gs.ids.DrawOk strays) (hvirgl : gs.ids.virgl = true) :
    Triple (IdsSound gs.ids strays) (createCommand gs.allocId resource answer) fun ok c =>
      ok = (answer == .done) ∧ IdsSound gs.idTaken.ids strays c := by
  have hdrawn : Triple (IdsSound gs.ids strays) (createCommand gs.allocId resource answer)
      fun _ => IdsSound gs.idTaken.ids strays := fun c hc =>
    createCommand_drawn resource answer hok (hc.numbering.draw_ne_two hok hvirgl) c hc
  exact hdrawn.withResult (createCommand_result _ _ _)

theorem virglFirst_draws (env : VirglEnv) (hok : gs.ids.DrawOk strays)
    (hvirgl : gs.ids.virgl = true) :
    Triple (IdsSound gs.ids strays) (virglFirst gs env) fun r c =>
      (r.1 = env.first ∧ r.2.doubleBuffer = gs.doubleBuffer ∧ r.2.fbMem2 = gs.fbMem2) ∧
        Draws strays gs.ids 1 r.2 c := by
  unfold virglFirst
  refine Triple.bind (createDrawn_draws _ _ hok hvirgl) fun created =>
    Triple.fact fun hcreated => ?_
  refine Triple.ite (fun hnot => Triple.ret fun c hc => ?_) fun hyes => ?_
  · have hfirst : env.first = false := by
      simp [VirglEnv.first, ← hcreated, show created = false by simpa using hnot]
    exact ⟨⟨hfirst.symm, rfl, rfl⟩, rfl, hc⟩
  have hcreate : (env.create == .done) = true := hcreated ▸ (by simpa using hyes)
  refine Triple.bind
    (Triple.withResult ((CreatesNone.idCommand _).idsSound) (gpuCommand_result _ _))
    fun attached => Triple.fact fun hattached => ?_
  refine Triple.ite (fun hnot => Triple.ret fun c hc => ?_) fun hyes => ?_
  · have hfirst : env.first = false := by
      simp [VirglEnv.first, ← hattached, show attached = false by simpa using hnot]
    exact ⟨⟨hfirst.symm, rfl, rfl⟩, rfl, hc⟩
  have hattach : (env.attach == .done) = true := hattached ▸ (by simpa using hyes)
  refine Triple.bind (Triple.withResult (CreatesNone.setScanoutAttempts _ _ 3).idsSound
    (setScanoutAttempts_result _ env.setScanout 3)) fun shown => Triple.fact fun hshown => ?_
  have hfirst : env.first = shown := by simp [VirglEnv.first, hcreate, hattach, hshown]
  refine Triple.ite (fun hnot => Triple.ret fun c hc => ?_) fun hyes => Triple.ret fun c hc => ?_
  · have : shown = false := by simpa using hnot
    exact ⟨⟨(hfirst.trans this).symm, rfl, rfl⟩, rfl, hc⟩
  · have : shown = true := by simpa using hyes
    exact ⟨⟨(hfirst.trans this).symm, rfl, rfl⟩, rfl, hc⟩

/-- There is a second buffer. -/
def GpuState.DoubleBuffered (gs : GpuState) : Prop := gs.doubleBuffer = true ∧ gs.fbMem2 ≠ 0

instance (gs : GpuState) : Decidable gs.DoubleBuffered := inferInstanceAs (Decidable (_ ∧ _))

theorem virglSecond_draws (env : VirglEnv)
    (hok : gs.DoubleBuffered → gs.ids.DrawOk strays) (hvirgl : gs.ids.virgl = true) :
    Triple (IdsSound gs.ids strays) (virglSecond gs env) fun gs' c =>
      Draws strays gs.ids (if gs.DoubleBuffered then 1 else 0) gs' c := by
  unfold virglSecond
  by_cases hdouble : gs.DoubleBuffered
  · have hdouble' : gs.doubleBuffer = true ∧ gs.fbMem2 ≠ 0 := hdouble
    rw [if_pos hdouble, if_pos hdouble']
    refine Triple.bind (createDrawn_draws _ _ (hok hdouble) hvirgl) fun created =>
      Triple.fact fun _ => ?_
    refine Triple.ite (fun _ => Triple.ret fun c hc => ⟨rfl, hc⟩) fun _ => ?_
    refine Triple.bind ((CreatesNone.idCommand _).idsSound) fun attached => ?_
    exact Triple.ite (fun _ => Triple.ret fun c hc => ⟨rfl, hc⟩) fun _ =>
      Triple.ret fun c hc => ⟨rfl, hc⟩
  · have hdouble' : ¬ (gs.doubleBuffer = true ∧ gs.fbMem2 ≠ 0) := hdouble
    rw [if_neg hdouble, if_neg hdouble']
    exact Triple.ret fun c hc => ⟨rfl, hc⟩

theorem virglVbuf_draws (env : VirglEnv)
    (hok : gs.virglShadersOk = true ∧ env.vertexElements = true → gs.ids.DrawOk strays)
    (hvirgl : gs.ids.virgl = true) :
    Triple (IdsSound gs.ids strays) (virglVbuf gs env) fun gs' c =>
      Draws strays gs.ids
        (if gs.virglShadersOk = true ∧ env.vertexElements = true then 1 else 0) gs' c := by
  unfold virglVbuf
  by_cases hvbuf : gs.virglShadersOk = true ∧ env.vertexElements = true
  · rw [if_pos hvbuf, if_pos hvbuf]
    refine Triple.bind (createDrawn_draws _ _ (hok hvbuf) hvirgl) fun created =>
      Triple.fact fun _ => ?_
    exact Triple.ite (fun _ => Triple.ret fun c hc => ⟨rfl, hc⟩) fun _ =>
      Triple.ret fun c hc => ⟨rfl, hc⟩
  · rw [if_neg hvbuf, if_neg hvbuf]
    exact Triple.ret fun c hc => ⟨rfl, hc⟩

/-- How many ids `virglSetup` draws. -/
def VirglEnv.setupDraws (gs : GpuState) (env : VirglEnv) : ℕ :=
  1 + if env.first = true then
    (if gs.DoubleBuffered then 1 else 0) +
      if env.pipeline = true ∧ env.shaders = true ∧ env.vertexElements = true then 1 else 0
  else 0

/-- How many ids `chip_virgl_init_2d` draws. -/
def VirglEnv.draws (gs : GpuState) (env : VirglEnv) : ℕ :=
  if gs.VirglPossible env ∧ env.context = true then env.setupDraws gs else 0

theorem Ids.DrawsOk.split {ids : Ids} {m n : ℕ} (h : ids.DrawsOk strays (m + n)) :
    ids.DrawsOk strays m ∧ (ids.after m).DrawsOk strays n := by
  induction m generalizing ids with
  | zero => exact ⟨trivial, by rwa [Nat.zero_add] at h⟩
  | succ m ih =>
      rw [Nat.succ_add] at h
      obtain ⟨hfirst, hrest⟩ := h
      exact ⟨⟨hfirst, (ih hrest).1⟩, (ih hrest).2⟩

theorem Ids.after_virgl (ids : Ids) (n : ℕ) : (ids.after n).virgl = ids.virgl := by
  induction n generalizing ids with
  | zero => rfl
  | succ n ih => exact ih ids.drawn

theorem virglSetup_idsSound (env : VirglEnv) (hvirgl : gs.ids.virgl = true)
    (hok : gs.ids.DrawsOk strays (env.setupDraws gs)) :
    Triple (IdsSound gs.ids strays) (virglSetup gs env) fun r c => IdsSound r.2.ids strays c := by
  obtain ⟨hfirst, hrest⟩ := hok.split
  have hkept (ids : Ids) {n : ℕ} {gs' : GpuState} {c : CardState} (h : Draws strays ids n gs' c) :
      IdsSound gs'.ids strays c := by
    rw [h.1]
    exact h.2
  unfold virglSetup
  -- up to three ids are drawn, each with the condition that is left from the one before
  refine Triple.bind (virglFirst_draws env hfirst.1 hvirgl) fun r => ?_
  obtain ⟨ok, gs₁⟩ := r
  refine Triple.fact fun ⟨hresult, hbuffer, hmem⟩ => ?_
  refine Triple.ite (fun _ => Triple.ret fun c hc => hkept _ hc) fun hyes => ?_
  have hsucceeds : env.first = true := hresult ▸ (by simpa using hyes)
  rw [if_pos hsucceeds] at hrest
  have hdouble : gs₁.DoubleBuffered ↔ gs.DoubleBuffered := by
    unfold GpuState.DoubleBuffered
    rw [hbuffer, hmem]
  refine Triple.fact fun hids₁ => ?_
  rw [← hids₁, ← if_congr hdouble rfl rfl] at hrest
  rw [← hids₁]
  have hvirgl₁ : gs₁.ids.virgl = true := by rw [hids₁, Ids.after_virgl, hvirgl]
  obtain ⟨hsecond, hthird⟩ := hrest.split
  have hdraw₂ : gs₁.DoubleBuffered → gs₁.ids.DrawOk strays := by
    intro h
    rw [if_pos h] at hsecond
    exact hsecond.1
  refine Triple.bind (virglSecond_draws env hdraw₂ hvirgl₁) fun gs₂ => ?_
  refine Triple.ite (fun _ => Triple.ret fun c hc => hkept _ hc) fun hpipeline => ?_
  refine Triple.fact fun hids₂ => ?_
  rw [← hids₂] at hthird
  rw [← hids₂]
  have hvirgl₂ : gs₂.ids.virgl = true := by rw [hids₂, Ids.after_virgl, hvirgl₁]
  have hdraw₃ : (gs₂.withShaders env.shaders).virglShadersOk = true ∧ env.vertexElements = true →
      (gs₂.withShaders env.shaders).ids.DrawOk strays := by
    intro h
    rw [if_pos ⟨by simpa using hpipeline, h.1, h.2⟩] at hthird
    exact hthird.1
  refine Triple.bind (virglVbuf_draws env hdraw₃ hvirgl₂) fun gs₃ => ?_
  refine Triple.ite (fun _ => Triple.ret fun c hc => hkept _ hc) fun _ => Triple.ret fun c hc => ?_
  have hsound := hkept _ hc
  have hvirgl₃ : gs₃.ids.virgl = true := by
    rw [hc.1, Ids.after_virgl]
    exact hvirgl₂
  exact ⟨hsound.numbering.withoutVirgl fun _ => hvirgl₃, hsound.fresh⟩

theorem virglInContext_idsSound (env : VirglEnv) (hvirgl : gs.ids.virgl = true)
    (hok : gs.ids.DrawsOk strays (if env.subContext = true then env.setupDraws gs else 0)) :
    Triple (IdsSound gs.ids strays) (virglInContext gs env) fun r c =>
      IdsSound r.2.ids strays c := by
  unfold virglInContext
  refine Triple.ite (fun _ => Triple.ret fun c hc => hc) fun hsub => ?_
  rw [if_pos (by simpa using hsub)] at hok
  exact virglSetup_idsSound env hvirgl hok

theorem chipVirglInit2d_idsSound (env : VirglEnv) (hok : gs.ids.DrawsOk strays (env.draws gs)) :
    Triple (IdsSound gs.ids strays) (chipVirglInit2d gs env) fun r c =>
      IdsSound r.2.ids strays c := by
  have hless : Triple (IdsSound gs.ids strays)
      (pure (false, gs.withVirglReady false) : Driver (Bool × GpuState)) fun r c =>
        IdsSound r.2.ids strays c := by
    refine Triple.ret fun c hc => ⟨hc.numbering.withoutVirgl fun h => ?_, hc.fresh⟩
    simp only [GpuState.withVirglReady, Bool.or_false] at h
    simp [GpuState.ids, h]
  unfold chipVirglInit2d
  refine Triple.ite (fun _ => hless) fun hpossible => ?_
  have hpossible' : gs.VirglPossible env := not_not.mp hpossible
  -- 3D resources stay possible when `virgl_2d_ready` is cleared
  have hids : ((gs.withVirglReady false).withVirglCtx gs.nextCtxId).ids = gs.ids := by
    unfold GpuState.ids GpuState.withVirglReady GpuState.withVirglCtx
    simp [hpossible'.1, hpossible'.2.2]
  have hvirgl : ((gs.withVirglReady false).withVirglCtx gs.nextCtxId).ids.virgl = true := by
    simp [GpuState.ids, GpuState.withVirglReady, GpuState.withVirglCtx, hpossible'.1,
      hpossible'.2.2]
  rw [← hids] at hok ⊢
  have hcreate (ids : Ids) : Triple (IdsSound ids strays) _ _ :=
    (CreatesNone.setContext gs.nextCtxId true env.ctxCreate).idsSound
  refine Triple.bind ((hcreate _).withResult (gpuCommand_result _ _)) fun created =>
    Triple.fact fun hcreated => ?_
  refine Triple.ite (fun _ => Triple.ret fun c hc => hc) fun hyes => ?_
  have hctx : (env.ctxCreate == .done) = true := hcreated ▸ (by simpa using hyes)
  have hdraws : env.draws gs = if env.subContext = true then
      env.setupDraws ((gs.withVirglReady false).withVirglCtx gs.nextCtxId) else 0 := by
    rw [VirglEnv.draws, VirglEnv.context, hctx, Bool.true_and]
    exact if_congr (and_iff_right hpossible') rfl rfl
  rw [hdraws] at hok
  refine Triple.bind (virglInContext_idsSound env hvirgl hok) fun r => ?_
  refine Triple.ite (fun _ => ?_) fun _ => Triple.ret fun c hc => hc
  exact Triple.bind (CreatesNone.setContext _ _ _).idsSound fun _ => Triple.ret fun c hc => hc

theorem CreatesNone.unrefIf (id : UInt32) (answer : GpuAnswer) : CreatesNone (unrefIf id answer) :=
  onlyIf (bind (chipResourceUnref _ _) fun _ => ret _)

theorem chipVirglRecover2d_idsSound (env : RecoverEnv)
    (hok : gs.virglCleared.ids.DrawsOk strays (env.init.draws gs.virglCleared)) :
    Triple (IdsSound gs.ids strays) (chipVirglRecover2d gs env) fun r c =>
      IdsSound r.2.ids strays c := by
  unfold chipVirglRecover2d
  refine Triple.bind ((CreatesNone.setScanoutAttempts _ _ 3).idsSound) fun _ => ?_
  refine Triple.bind (CreatesNone.setContext _ _ _).idsSound fun _ => ?_
  refine Triple.bind (CreatesNone.unrefIf _ _).idsSound fun _ => ?_
  refine Triple.bind (CreatesNone.unrefIf _ _).idsSound fun _ => ?_
  refine Triple.bind (CreatesNone.unrefIf _ _).idsSound fun _ => ?_
  refine (chipVirglInit2d_idsSound env.init hok).weaken fun c hc => ⟨?_, hc.fresh⟩
  refine hc.numbering.withoutVirgl fun h => ?_
  simp only [GpuState.virglCleared, Bool.or_false] at h
  simp [GpuState.ids, h]

/-! ## Textures -/

theorem chipCompFreeTexture_idsSound (answer : GpuAnswer) :
    Triple (IdsSound gs.ids strays) (chipCompFreeTexture gs answer) fun gs' c =>
      gs'.ids = gs.ids ∧ IdsSound gs.ids strays c := by
  refine Triple.ite (fun _ => Triple.ret fun c hc => ⟨rfl, hc⟩) fun _ => ?_
  exact Triple.bind ((CreatesNone.chipResourceUnref _ _).idsSound) fun _ =>
    Triple.ret fun c hc => ⟨rfl, hc⟩

theorem chipCompUploadBitmap_idsSound (env : UploadEnv)
    (hok : gs.Uploads env → gs.ids.DrawOk strays) :
    Triple (IdsSound gs.ids strays) (chipCompUploadBitmap gs env) fun r c =>
      IdsSound r.2.ids strays c := by
  unfold chipCompUploadBitmap
  refine Triple.ite (fun _ => Triple.ret fun c hc => hc) fun huploads => ?_
  have huploads' : gs.Uploads env := not_not.mp huploads
  have hvirgl : gs.ids.virgl = true := by simp [GpuState.ids, huploads'.1.1]
  refine Triple.bind (chipCompFreeTexture_idsSound _) fun gs' => Triple.fact fun hids => ?_
  have hdraw : gs'.ids.DrawOk strays := hids ▸ hok huploads'
  rw [← hids] at hvirgl ⊢
  refine Triple.bind (createDrawn_draws _ _ hdraw hvirgl) fun created => Triple.fact fun _ => ?_
  refine Triple.ite (fun _ => Triple.ret fun c hc => hc) fun _ => ?_
  refine Triple.ite (fun _ => ?_) fun _ => Triple.ret fun c hc => hc
  exact Triple.bind ((CreatesNone.chipResourceUnref _ _).idsSound) fun _ =>
    Triple.ret fun c hc => hc

end Virgl

/-! ## Mode changes -/

section ModeChange

variable {gs : GpuState} {call : GcCall} {c : CardState}

/-- The call leaves a resource with this id behind. -/
def GpuState.leaves (gs : GpuState) (call : GcCall) (id : UInt32) : Bool :=
  if call.env.switches then gs.fbResourceId == id && call.env.unrefOld == .refused
  else gs.allocId == id && call.env.leavesNew

def Strays.afterGC (strays : Strays) (gs : GpuState) (call : GcCall) : Strays :=
  if gs.DrawsId call then
    ⟨strays.cursor || gs.leaves call 2, strays.back || gs.leaves call 9⟩
  else strays

theorem GpuState.SameOtherwise.ids_eq {gs' : GpuState} (h : gs'.SameOtherwise gs) :
    gs'.ids = { gs.ids with next := gs'.nextResourceId, fb := gs'.fbResourceId } := by
  unfold GpuState.ids
  rw [h.fbResourceId2, h.cursorResourceId, h.cursorCreated, h.hasVirgl, h.cmd3dBuf, h.virgl2dReady]

theorem Host.switched_live {host : Host} {id i : UInt32} (w h : UInt32) (hne : i ≠ id)
    (hlive : (host.switched id w h).Live i) : host.Live i := by
  change (Function.update host.resources id _ i).isSome at hlive
  rwa [Function.update_of_ne hne] at hlive

theorem Host.dropped_live {host : Host} {old i : UInt32} {answer : GpuAnswer}
    (hlive : (host.dropped old answer).Live i) :
    host.Live i ∧ (i = old → old = 0 ∨ answer = .refused) := by
  unfold Host.dropped at hlive
  by_cases hold : old = 0
  · rw [if_pos hold] at hlive
    exact ⟨hlive, fun _ => Or.inl hold⟩
  rw [if_neg hold] at hlive
  by_cases hi : i = old
  · cases answer with
    | refused => exact ⟨hlive, fun _ => Or.inr rfl⟩
    | done => simp [Host.Live, GpuAnswer.applied, Host.unref, hi] at hlive
    | lost => simp [Host.Live, GpuAnswer.applied, Host.unref, hi] at hlive
  · unfold Host.Live at hlive
    rw [GpuAnswer.applied_unref_resources answer hi] at hlive
    exact ⟨hlive, fun h => absurd h hi⟩

/-- The state with its numbering, where `g_chip_state` is set. -/
structure IdsTracked (strays : Strays) (c : CardState) : Prop where
  numbering : ∀ gs ∈ c.gs, Numbering gs.ids strays c.host
  fresh : IdsFresh c

theorem IdsTracked.of_some {gs' : GpuState} {ids : Ids} (hgs : c.gs = some gs')
    (hids : gs'.ids = ids) (h : IdsSound ids strays c) : IdsTracked strays c := by
  refine ⟨fun gs'' hgs'' => ?_, h.fresh⟩
  obtain rfl : gs' = gs'' := Option.some.inj (hgs.symm.trans hgs'')
  rw [hids]
  exact h.numbering

theorem chipSetGC_tracked (hstate : c.gs = some gs) (h : IdsSound gs.ids strays c)
    (hok : gs.DrawsId call → gs.ids.DrawOk strays) :
    IdsTracked (strays.afterGC gs call) (chipSetGC call.mi call.env c).2 := by
  have hframe := chipSetGC_frame call hstate
  generalize (chipSetGC call.mi call.env c).2 = c' at hframe
  cases hframe with
  | @unsent hnot gs' hgs hkeeps hnext hhost hevents =>
      -- no id is drawn
      have hids : gs'.ids = gs.ids := by
        rw [hkeeps.others.ids_eq, hnext, hkeeps.fbResourceId]
        rfl
      rw [Strays.afterGC, if_neg hnot]
      refine .of_some hgs hids ⟨hhost ▸ h.numbering, ?_⟩
      unfold IdsFresh
      rw [hevents]
      exact h.fresh
  | @dropped hnot hdraws gs' hgs hkeeps hnext hhost hnew hevents =>
      -- an id is drawn, and dropped again
      have hdraw := hok hdraws
      have hids : gs'.ids = gs.ids.drawn := by
        rw [hkeeps.others.ids_eq, hnext, hkeeps.fbResourceId]
        rfl
      have hfails : call.env.switches = false := by
        by_contra hswitches
        refine hnot ⟨hdraws.1, hdraws.2.1, ?_⟩
        simp [hdraws.2.2, show call.env.switches = true by simpa using hswitches]
      have hothers : ∀ i ≠ gs.ids.draw, c'.host.Live i → c.host.Live i := by
        intro i hi hlive
        unfold Host.Live at hlive ⊢
        rwa [hhost i hi] at hlive
      rw [Strays.afterGC, if_pos hdraws]
      refine .of_some hgs hids ⟨h.numbering.drawn hdraw hothers ?_ fun hback => by simp [hback], ?_⟩
      · rintro (hstray | ⟨htwo, hlive⟩)
        · simp [hstray]
        · have hleaves : call.env.leavesNew = true := by
            by_contra hgone
            have hlive' : c.host.Live gs.allocId := by
              refine hnew (by simpa using hgone) ?_
              rwa [show gs.allocId = 2 from htwo]
            exact h.numbering.draw_fresh hdraw hlive'
          have hid : gs.allocId = 2 := htwo
          simp [GpuState.leaves, hfails, hid, hleaves]
      · exact h.fresh.create hdraw.draw_ne_zero (h.numbering.draw_fresh hdraw) hevents
  | @published hpublishes gs' hgs hothers hnext hmem hid hhost hevents =>
      have hdraws := hpublishes.drawsId
      have hdraw := hok hdraws
      have hids : gs'.ids = { gs.ids.drawn with fb := gs.ids.draw } := by
        rw [hothers.ids_eq, hnext, hid]
        rfl
      -- the new id becomes that of the frame buffer, and the old resource may stay behind
      have hswitches : call.env.switches = true := (Bool.and_eq_true_iff.mp hpublishes.2.2).2
      have hlive {i : UInt32} (hi : c'.host.Live i) : _ := Host.dropped_live (hhost ▸ hi)
      have hleft {id : UInt32} (hfb : gs.ids.fb = id) (hne : id ≠ 0) (hi : c'.host.Live id) :
          gs.leaves call id = true := by
        have hfb' : gs.fbResourceId = id := hfb
        have hrefused := ((hlive hi).2 hfb'.symm).resolve_left fun h0 => hne (hfb'.symm.trans h0)
        simp [GpuState.leaves, hswitches, hfb', hrefused]
      rw [Strays.afterGC, if_pos hdraws]
      refine .of_some hgs hids ⟨h.numbering.published hdraw ?_ ?_ ?_, ?_⟩
      · exact fun i hi hlive' => Host.switched_live _ _ hi (hlive hlive').1
      · rintro (hstray | ⟨hfb, htwo⟩)
        · simp [hstray]
        · simp [hleft hfb (by decide) htwo]
      · rintro (hstray | ⟨hfb, hnine⟩)
        · simp [hstray]
        · simp [hleft hfb (by decide) hnine]
      · exact h.fresh.create hdraw.draw_ne_zero (h.numbering.draw_fresh hdraw) hevents

end ModeChange

/-! ## The cursor -/

section Cursor

variable {gs : GpuState}

/-- `chip_CursorCreate` gets as far as its first command. -/
def GpuState.CreatesCursor (gs : GpuState) (env : CursorEnv) : Prop :=
  gs.cursorCreated = false ∧ gs.cursorq ≠ none ∧
    (env.mem && env.count != 0 && env.list) = true

instance (gs : GpuState) (env : CursorEnv) : Decidable (gs.CreatesCursor env) :=
  inferInstanceAs (Decidable (_ ∧ _ ∧ _))

/-- The function fails and the resource is on the host all the same. -/
def CursorEnv.leaves (env : CursorEnv) : Bool :=
  env.create == .lost || env.create == .done && env.attach != .done

def Strays.afterCursor (strays : Strays) (gs : GpuState) (env : CursorEnv) : Strays :=
  if gs.CreatesCursor env then { strays with cursor := strays.cursor || env.leaves } else strays

theorem allocVec_idsSound {ids : Ids} (size : UInt32) (ok : Bool) :
    Triple (IdsSound ids strays) (allocVec size ok) fun n c =>
      (n ≠ 0 ↔ ok = true) ∧ IdsSound ids strays c :=
  fun c hc => ⟨(allocVec_new size ok (fun _ => True) c trivial).1,
    (Quiet.allocVec _ _).createsNone.idsSound c hc⟩

theorem obtain_idsSound {ids : Ids} (resource : ℕ → Resource) (ok : Bool) :
    Triple (IdsSound ids strays) (obtain resource ok) fun n c =>
      (n ≠ 0 ↔ ok = true) ∧ IdsSound ids strays c :=
  fun c hc => ⟨(obtain_sees resource ok c (⟨rfl, rfl⟩ : Sees c.host c.events c)).1,
    (Quiet.obtain _ _).createsNone.idsSound c hc⟩

theorem failCursor_quiet (gs : GpuState) (list : ℕ) : Quiet (failCursor gs list) :=
  Quiet.bind (Quiet.giveBack _) fun _ => Quiet.bind (Quiet.giveBack _) fun _ =>
    Quiet.bind (Quiet.giveBack _) fun _ => Quiet.ret _

/-- The ids after an attempt to create the cursor. -/
def Ids.cursorTried (ids : Ids) (created : Bool) : Ids :=
  { ids with cursor := 2, cursorCreated := created }

/-- After the create command: whatever the function returns, the ids are sound for it. -/
structure CursorSent (ids : Ids) (strays : Strays) (env : CursorEnv) (c : CardState) : Prop where
  created : IdsSound (ids.cursorTried true) { strays with cursor := env.leaves } c
  failed : env.leaves = true ∨ env.create = .refused →
    IdsSound (ids.cursorTried false) { strays with cursor := env.leaves } c

theorem CursorSent.stable {ids : Ids} {env : CursorEnv} {α : Type} {m : Driver α}
    (h : CreatesNone m) : Stable (CursorSent ids strays env) m :=
  fun c hc => ⟨h.idsSound c hc.created, fun hfails => h.idsSound c (hc.failed hfails)⟩

theorem cursorCreate_sent {ids : Ids} (env : CursorEnv) (hcreated : ids.cursorCreated = false)
    (hfb : ids.fb ≠ 2) (hfb2 : ids.fb2 ≠ 2) (hstray : strays.cursor = false) :
    Triple (IdsSound ids strays) (chipResourceCreate2D 2 formatB8G8R8A8 64 64 env.create)
      fun ok c => ok = (env.create == .done) ∧ CursorSent ids strays env c := by
  refine Triple.withResult (Q := fun _ => CursorSent ids strays env) (fun c hc => ?_)
    (createCommand_result _ _ _)
  have hfree := hc.numbering.cursor_fresh hcreated hfb hfb2 hstray
  obtain ⟨hothers, hrefused, hevents⟩ :=
    createCommand_live 2 (.classic2D formatB8G8R8A8 64 64) env.create c
  have hfresh := hc.fresh.create (by decide) hfree hevents
  refine ⟨⟨hc.numbering.cursorAttempt hothers (fun _ => Or.inl rfl) rfl, hfresh⟩, fun hfails => ?_⟩
  refine ⟨hc.numbering.cursorAttempt hothers (fun hlive => Or.inr ?_) rfl, hfresh⟩
  rcases hfails with hleaves | hanswer
  · exact hleaves
  · exact absurd (hrefused hanswer hlive) hfree

theorem failCursor_sent {ids : Ids} {env : CursorEnv} {list : ℕ}
    (hids : gs.ids = ids.cursorTried false)
    (hfails : env.leaves = true ∨ env.create = .refused) :
    Triple (CursorSent ids strays env) (failCursor gs list) fun r c =>
      IdsSound r.2.ids { strays with cursor := env.leaves } c := by
  intro c hc
  change IdsSound gs.ids _ (failCursor gs list c).2
  rw [hids]
  exact (failCursor_quiet gs list).createsNone.idsSound c (hc.failed hfails)

theorem chipCursorCreate_idsSound (env : CursorEnv)
    (hok : gs.CreatesCursor env →
      (gs.fbResourceId ≠ 2 ∧ gs.fbResourceId2 ≠ 2) ∧ strays.cursor = false) :
    Triple (IdsSound gs.ids strays) (chipCursorCreate gs env) fun r c =>
      IdsSound r.2.ids (strays.afterCursor gs env) c := by
  -- a return before the first command: the ids are as they were
  have hearly (gs' : GpuState) (hids : gs'.ids = gs.ids) (hnot : ¬ gs.CreatesCursor env)
      {m : Driver (Bool × GpuState)} (hquiet : Quiet m) (hresult : ∀ c, (m c).1.2 = gs') :
      Triple (IdsSound gs.ids strays) m fun r c =>
        IdsSound r.2.ids (strays.afterCursor gs env) c := by
    intro c hc
    rw [hresult c, hids, Strays.afterCursor, if_neg hnot]
    exact hquiet.createsNone.idsSound c hc
  have hanswers (h : gs.CreatesCursor env) :
      env.mem = true ∧ env.count ≠ 0 ∧ env.list = true := by
    simpa [and_assoc] using h.2.2
  unfold chipCursorCreate
  refine Triple.ite (fun hcreated => ?_) fun hcreated => ?_
  · exact hearly gs rfl (fun h => by simp [h.1] at hcreated) (Quiet.ret _) fun _ => rfl
  refine Triple.ite (fun hqueue => ?_) fun hqueue => ?_
  · exact hearly gs rfl (fun h => h.2.1 hqueue) (Quiet.ret _) fun _ => rfl
  -- memory, the number of its pages and the list of them
  refine Triple.bind (allocVec_idsSound _ _) fun mem => Triple.fact fun hmem => ?_
  refine Triple.ite (fun hnull => ?_) fun hmem_ne => ?_
  · exact hearly (gs.withCursorMem mem) rfl (fun h => hmem.mpr (hanswers h).1 hnull)
      (Quiet.ret _) fun _ => rfl
  have hcount : Triple (IdsSound gs.ids strays)
      (startDma (gs.withCursorMem mem).cursorMem cursorSize env.count)
      fun count c => count = env.count ∧ IdsSound gs.ids strays c :=
    fun c hc => ⟨rfl, (Quiet.startDma _ _ _).createsNone.idsSound c hc⟩
  refine Triple.bind hcount fun count => Triple.fact fun hcount => ?_
  subst hcount
  refine Triple.ite (fun hnull => ?_) fun hcount_ne => ?_
  · exact hearly ((gs.withCursorMem mem).withCursorMem 0) rfl (fun h => (hanswers h).2.1 hnull)
      (Quiet.bind (Quiet.giveBack _) fun _ => Quiet.ret _) fun _ => rfl
  refine Triple.bind (obtain_idsSound _ _) fun list => Triple.fact fun hlist => ?_
  refine Triple.ite (fun hnull => ?_) fun hlist_ne => ?_
  · exact hearly ((gs.withCursorMem mem).withCursorMem 0) rfl
      (fun h => hlist.mpr (hanswers h).2.2 hnull)
      (Quiet.bind (Quiet.giveBack _) fun _ => Quiet.bind (Quiet.giveBack _) fun _ => Quiet.ret _)
      fun _ => rfl
  -- from here on the commands are sent
  have hcreates : gs.CreatesCursor env := by
    refine ⟨by simpa using hcreated, hqueue, ?_⟩
    simp [hmem.mp hmem_ne, hcount_ne, hlist.mp hlist_ne]
  obtain ⟨⟨hfb, hfb2⟩, hstray⟩ := hok hcreates
  have hafter : strays.afterCursor gs env = { strays with cursor := env.leaves } := by
    rw [Strays.afterCursor, if_pos hcreates, hstray, Bool.false_or]
  have hids : (gs.withCursorMem mem).withCursorId.ids = gs.ids.cursorTried false := by
    rw [Ids.cursorTried, ← hcreates.1]
    rfl
  rw [hafter]
  refine Triple.bind (cursorCreate_sent env hcreates.1 hfb hfb2 hstray) fun created =>
    Triple.fact fun hcreated' => ?_
  refine Triple.ite (fun hnot => ?_) fun hyes => ?_
  · -- CREATE_2D failed: the id is a stray when the host has done it all the same
    refine failCursor_sent hids ?_
    have hne : env.create ≠ .done := fun hdone => by simp [hcreated', hdone] at hnot
    cases hanswer : env.create with
    | done => exact absurd hanswer hne
    | refused => exact Or.inr rfl
    | lost => exact Or.inl (by simp [CursorEnv.leaves, hanswer])
  have hdone : env.create = .done := by
    rw [hcreated'] at hyes
    simpa using hyes
  refine Triple.bind (Triple.withResult (CursorSent.stable (CreatesNone.idCommand _))
    (gpuCommand_result _ _)) fun attached => Triple.fact fun hattached => ?_
  refine Triple.ite (fun hnot => failCursor_sent hids (Or.inl ?_)) fun _ => ?_
  · have hne : env.attach ≠ .done := fun hdone => by simp [hattached, hdone] at hnot
    simp [CursorEnv.leaves, hdone, hne]
  · refine Triple.bind (CursorSent.stable (Quiet.giveBack _).createsNone) fun _ => ?_
    exact Triple.ret fun c hc => hc.created

end Cursor

/-! ## Flushes -/

section Flush

variable {gs : GpuState}

theorem setChipState_tracked {ids : Ids} (hids : gs.ids = ids) :
    Triple (IdsSound ids strays) (setChipState gs) fun _ => IdsTracked strays :=
  Triple.update fun _ hc => .of_some rfl hids ⟨hc.numbering, hc.fresh⟩

theorem transferFrame_idsSound {useVirgl : Prop} [Decidable useVirgl] (id2D : UInt32)
    (env : FlushEnv) :
    Triple (IdsSound gs.ids strays) (transferFrame gs useVirgl id2D env) fun r c =>
      r.2.ids = gs.ids ∧ IdsSound gs.ids strays c := by
  unfold transferFrame
  refine Triple.ite (fun _ => ?_) fun _ => ?_
  · refine Triple.bind ((CreatesNone.idCommand _).idsSound) fun ok => ?_
    refine Triple.ite (fun _ => Triple.ret fun c hc => ⟨rfl, hc⟩) fun _ => ?_
    exact Triple.bind ((CreatesNone.chipTransferToHost2D _ _ _).idsSound) fun _ =>
      Triple.ret fun c hc => ⟨rfl, hc⟩
  · exact Triple.bind ((CreatesNone.chipTransferToHost2D _ _ _).idsSound) fun _ =>
      Triple.ret fun c hc => ⟨rfl, hc⟩

theorem flushSingle_tracked (env : FlushEnv) :
    Triple (IdsSound gs.ids strays) (flushSingle gs env) fun _ => IdsTracked strays := by
  unfold flushSingle
  refine Triple.bind (transferFrame_idsSound _ _) fun r => ?_
  obtain ⟨ok, gs'⟩ := r
  refine Triple.fact fun hids => ?_
  refine Triple.bind (Stable.onlyIf ?_) fun _ => setChipState_tracked hids
  exact ((CreatesNone.idCommand _).bind fun _ => CreatesNone.ret _).idsSound

theorem flushDouble_tracked (env : FlushEnv) :
    Triple (IdsSound gs.ids strays) (flushDouble gs env) fun _ => IdsTracked strays := by
  unfold flushDouble
  refine Triple.bind (transferFrame_idsSound _ _) fun r => ?_
  obtain ⟨ok, gs'⟩ := r
  refine Triple.fact fun hids => ?_
  refine Triple.ite (fun _ => setChipState_tracked hids) fun _ => ?_
  refine Triple.bind ((CreatesNone.setScanoutAttempts _ _ 3).idsSound) fun _ => ?_
  refine Triple.bind (CreatesNone.idCommand _).idsSound fun _ => ?_
  have hswapped : gs'.swapBuffers.ids = { gs.ids with fb := gs.ids.fb2, fb2 := gs.ids.fb } := by
    rw [← hids]
    rfl
  exact (setChipState_tracked hswapped).weaken fun c hc => ⟨hc.numbering.swap, hc.fresh⟩

theorem chipFlushAll_tracked {c : CardState} (hstate : c.gs = some gs)
    (h : IdsSound gs.ids strays c) (env : FlushEnv) :
    IdsTracked strays (chipFlushAll env c).2 := by
  unfold chipFlushAll withChipState
  simp only [hstate]
  split
  · exact .of_some hstate rfl h
  split
  · exact flushSingle_tracked env c h
  · exact flushDouble_tracked env c h

end Flush

end VirtIOGPU.Card
