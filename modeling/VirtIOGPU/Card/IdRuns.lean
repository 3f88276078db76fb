import VirtIOGPU.Card.ResourceIds
import VirtIOGPU.Card.Unwind

/-!
# Resource ids over whole runs

`chip_InitCard_C` uses the ids 1 and 9, and the card that it publishes has a `Numbering`.  From
there every function that creates resources keeps it while the counter is not at 0 and 2 is free
when the cursor comes.  Without Virgl the counter starts at 0, and neither is certain.

## Strategy

The counter and the reserved ids are a value `Ids` of their own, and each call of the driver is
described by the number of ids that it draws.  A run then is a sequence of draws on that value.

```text
call                            draws                                condition
SetGC                           one, if it gets to CREATE_2D         DrawOk
Virgl setup and recovery        one for each 3D resource             DrawsOk
upload of a texture             one, if it gets to CREATE_3D         DrawOk
SetSpriteImage                  none, its first call takes the 2     2 is free
flush, release of a texture     none                                 -
```

`IdsAvailable` is the condition that each of these draws is possible at its place of the run;
`cursor_id_in_use` is a run in which 2 has been drawn before the cursor comes.
-/

namespace VirtIOGPU.Card

open Lib.Machine Lib.Hoare

/-! ## `chip_InitCard_C` -/

/-- Nothing is published, and what is live on the host is among `ids`. -/
structure Holding (ids : List UInt32) (c : CardState) : Prop where
  live : ∀ i, c.host.Live i → i ∈ ids
  fresh : IdsFresh c
  gs : c.gs = none

/-- The failure of the back buffer's commands leaves its resource on the host. -/
def InitEnv.leavesBack (env : InitEnv) : Bool :=
  env.create2 == .lost || env.create2 == .done && env.attach2 != .done

/-- What the commands about the back buffer leave behind. -/
def InitEnv.left (env : InitEnv) (gs : GpuState) : Strays :=
  ⟨false, gs.fbMem2 != 0 && env.leavesBack⟩

/-- The ids are sound for what the function publishes. -/
structure InitTracked (env : InitEnv) (c : CardState) : Prop where
  numbering : ∀ gs ∈ c.gs, Numbering gs.ids (env.left gs) c.host
  fresh : IdsFresh c

section Init

variable {env : InitEnv} {ids : List UInt32}

theorem Holding.initTracked {c : CardState} (h : Holding ids c) : InitTracked env c :=
  ⟨fun gs hgs => by simp [h.gs] at hgs, h.fresh⟩

theorem CreatesNone.holding {α : Type} {m : Driver α} (h : CreatesNone m) :
    Stable (Holding ids) m :=
  fun c hc =>
    ⟨fun i hlive => hc.live i (h.live c i hlive), h.fresh c hc.fresh, (h.gs c).trans hc.gs⟩

/-- After a failure nothing is published. -/
theorem Quiet.initTracked {α : Type} {m : Driver α} (h : Quiet m) :
    Triple (Holding ids) m fun _ => InitTracked env :=
  fun c hc => (h.createsNone.holding c hc).initTracked

theorem createCommand_gs (id : UInt32) (resource : GpuResource) (answer : GpuAnswer)
    (c : CardState) : (createCommand id resource answer c).2.gs = c.gs := by
  cases answer <;> rfl

/-- A create command with a fixed id. -/
theorem createCommand_holding {id : UInt32} (resource : GpuResource) (answer : GpuAnswer)
    (hid : id ≠ 0) (hnew : id ∉ ids) :
    Triple (Holding ids) (createCommand id resource answer) fun ok c =>
      ok = (answer == .done) ∧ Holding (if answer = .refused then ids else id :: ids) c := by
  refine Triple.withResult (Q := fun _ => Holding (if answer = .refused then ids else id :: ids))
    (fun c hc => ?_) (createCommand_result _ _ _)
  obtain ⟨hothers, hrefused, hevents⟩ := createCommand_live id resource answer c
  have hfree : ¬ c.host.Live id := fun hlive => hnew (hc.live id hlive)
  refine ⟨fun i hlive => ?_, hc.fresh.create hid hfree hevents,
    (createCommand_gs id resource answer c).trans hc.gs⟩
  by_cases hi : i = id
  · subst hi
    by_cases hanswer : answer = .refused
    · exact absurd (hrefused hanswer hlive) hfree
    · rw [if_neg hanswer]
      exact List.mem_cons_self ..
  · have hbefore := hc.live i (hothers i hi hlive)
    split
    · exact hbefore
    · exact List.mem_cons_of_mem _ hbefore

/-! ### The labels -/

namespace Quiet

theorem failExp (l : Opened) : Quiet (failExp l) := bind (giveBack _) fun _ => ret _

theorem failIpci (l : Opened) : Quiet (failIpci l) := bind (giveBack _) fun _ => failExp l

theorem failPci (l : Opened) : Quiet (failPci l) :=
  bind (onlyIf (giveBack _)) fun _ => failIpci l

theorem failGs (l : Opened) (gs : GpuState) : Quiet (failGs l gs) :=
  bind (onlyIf (giveBack _)) fun _ => bind (onlyIf (giveBack _)) fun _ =>
    bind (onlyIf (giveBack _)) fun _ => bind (onlyIf (giveBack _)) fun _ =>
    bind (giveBack _) fun _ => failPci l

theorem failCmd (l : Opened) (gs : GpuState) : Quiet (failCmd l gs) :=
  bind (chipDmaFree _ _) fun _ => failGs l gs

theorem failResp (l : Opened) (gs : GpuState) : Quiet (failResp l gs) :=
  bind (chipDmaFree _ _) fun _ => bind (chipDmaFree _ _) fun _ => failCmd l gs

theorem failVqs (l : Opened) (gs : GpuState) : Quiet (failVqs l gs) :=
  bind (virtQueueFree _) fun _ => bind (virtQueueFree _) fun _ => failResp l gs

theorem failFbMem (l : Opened) (gs : GpuState) : Quiet (failFbMem l gs) :=
  bind (giveBack _) fun _ => bind (chipDmaFree _ _) fun _ => failVqs l gs

theorem failFbDma (l : Opened) (gs : GpuState) : Quiet (failFbDma l gs) :=
  bind (giveBack _) fun _ => failFbMem l gs

theorem failFbDmaList (l : Opened) (gs : GpuState) : Quiet (failFbDmaList l gs) :=
  bind (onlyIf (giveBack _)) fun _ =>
    bind (onlyIf (bind (giveBack _) fun _ => giveBack _)) fun _ =>
    bind (onlyIf (giveBack _)) fun _ => bind (giveBack _) fun _ => failFbDma l gs

end Quiet

/-! ### The parts -/

/-- No id is in use yet; with a buffer for 3D commands the counter is behind the cursor's id. -/
structure Unnumbered (env : InitEnv) (gs : GpuState) : Prop where
  fbResourceId2 : gs.fbResourceId2 = 0
  cursorResourceId : gs.cursorResourceId = 0
  cursorCreated : gs.cursorCreated = false
  virgl2dReady : gs.virgl2dReady = false
  counter : gs.cmd3dBuf = 0 ∨ 3 ≤ gs.nextResourceId
  blob : gs.hasBlob = true → env.transport.blob = true

theorem Unnumbered.next {gs : GpuState} (h : Unnumbered env gs) (hvirgl : gs.ids.virgl = true) :
    3 ≤ gs.nextResourceId := by
  refine h.counter.resolve_left fun hbuf => ?_
  simp [GpuState.ids, h.virgl2dReady, hbuf] at hvirgl

/-- The first frame buffer's id is used. -/
structure FbNumbered (env : InitEnv) (gs : GpuState) : Prop extends Unnumbered env gs where
  fbResourceId : gs.fbResourceId = 1

theorem createFbBlob_holding {gs : GpuState} (hblob : gs.hasBlob = true → env.createBlob ≠ .lost) :
    Triple (Holding []) (createFbBlob env gs) fun ok =>
      Holding (if ok = true then [1] else []) := by
  unfold createFbBlob
  refine Triple.ite (fun hhas => ?_) fun _ => Triple.ret fun c hc => hc
  refine (createCommand_holding _ env.createBlob (by decide) (by simp)).strengthen fun ok c hc => ?_
  obtain ⟨hok, hc⟩ := hc
  cases hanswer : env.createBlob with
  | done => simpa [hok, hanswer] using hc
  | refused => simpa [hok, hanswer] using hc
  | lost => exact absurd hanswer (hblob hhas)

theorem Holding.mono {ids' : List UInt32} {c : CardState} (h : Holding ids c)
    (hsub : ∀ i ∈ ids, i ∈ ids') : Holding ids' c :=
  ⟨fun i hlive => hsub i (h.live i hlive), h.fresh, h.gs⟩

theorem initFbResource_holding {gs : GpuState} (h : Unnumbered env gs)
    (hblob : env.transport.blob = true → env.createBlob ≠ .lost) :
    Triple (Holding []) (initFbResource env gs) fun r c => FbNumbered env r.2 ∧ Holding [1] c := by
  have hnumbered : FbNumbered env (gs.withFbId 1) :=
    ⟨⟨h.1, h.2, h.3, h.4, h.5, h.6⟩, rfl⟩
  have hnumbered' : FbNumbered env (gs.withFbId 1).withBlob :=
    ⟨⟨h.1, h.2, h.3, h.4, h.5, h.6⟩, rfl⟩
  unfold initFbResource
  refine Triple.bind (createFbBlob_holding fun hhas => hblob (h.blob hhas)) fun blob => ?_
  refine Triple.ite (fun hyes => ?_) fun hnot => ?_
  · rw [if_pos hyes]
    exact Triple.ret fun c hc => ⟨hnumbered', hc⟩
  rw [if_neg hnot]
  refine Triple.bind (createCommand_holding _ env.create2D (by decide) (by simp)) fun created => ?_
  refine Triple.fact fun _ => Triple.weaken (S := Holding [1]) ?_ fun c hc => ?_
  · refine Triple.ite (fun _ => Triple.ret fun c hc => ⟨hnumbered, hc⟩) fun _ => ?_
    refine Triple.bind (CreatesNone.idCommand _).holding fun _ => ?_
    exact Triple.ret fun c hc => ⟨hnumbered, hc⟩
  · refine hc.mono fun i hi => ?_
    split at hi
    · exact absurd hi (List.not_mem_nil)
    · exact hi

/-- The numbering of what is about to be published. -/
structure BackNumbered (env : InitEnv) (gs : GpuState) (c : CardState) : Prop where
  sound : IdsSound gs.ids (env.left gs) c
  gs : c.gs = none

theorem CreatesNone.backNumbered {α : Type} {m : Driver α} (h : CreatesNone m) (gs : GpuState) :
    Stable (BackNumbered env gs) m :=
  fun c hc => ⟨h.idsSound c hc.sound, (h.gs c).trans hc.gs⟩

theorem BackNumbered.initTracked {gs : GpuState} {c : CardState} (h : BackNumbered env gs c) :
    InitTracked env c :=
  ⟨fun gs hgs => by simp [h.gs] at hgs, h.sound.fresh⟩

/-- Only 1 and 9 are live, and 9 is the back buffer's or was left behind. -/
theorem FbNumbered.numbering {gs : GpuState} {strays : Strays} {host : Host}
    (h : FbNumbered env gs) (fb2 : UInt32) (hfb2 : fb2 = 0 ∨ fb2 = 9)
    (hlive : ∀ i, host.Live i → i = 1 ∨ i = 9 ∧ (fb2 = 9 ∨ strays.back = true)) :
    Numbering { gs.ids with fb2 := fb2 } strays host where
  zero hzero := by
    rcases hlive 0 hzero with h0 | h0
    · exact absurd h0 (by decide)
    · exact absurd h0.1 (by decide)
  ahead i hi _ := by
    rcases hlive i hi with hone | ⟨hnine, hback | hstray⟩
    · have hfb : gs.ids.fb = 1 := h.fbResourceId
      exact Or.inl (by simp [Ids.reserved, hone, hfb])
    · exact Or.inl (by simp [Ids.reserved, hnine, hback])
    · exact Or.inr ⟨hnine, hstray⟩
  cursor htwo := by
    rcases hlive 2 htwo with h2 | h2
    · exact absurd h2 (by decide)
    · exact absurd h2.1 (by decide)
  cursorId := Or.inl h.cursorResourceId
  virgl := h.next
  fb := Or.inr (Or.inl h.fbResourceId)
  fb2 := hfb2.imp_right fun hnine => Or.inr (Or.inl hnine)

theorem initBackResource_numbered {gs : GpuState} (h : FbNumbered env gs) :
    Triple (Holding [1]) (initBackResource env gs) fun gs' => BackNumbered env gs' := by
  have hids : gs.ids = { gs.ids with fb2 := 0 } := by
    rw [← h.fbResourceId2]
    rfl
  unfold initBackResource
  refine Triple.ite (fun hnone => Triple.ret fun c hc => ?_) fun hmem => ?_
  · refine ⟨⟨?_, hc.fresh⟩, hc.gs⟩
    rw [hids]
    exact h.numbering 0 (Or.inl rfl) fun i hi => Or.inl (by simpa using hc.live i hi)
  -- a failure leaves 9 on the host or does not have it there
  have hleft : (env.left (gs.withBackId 0 gs.doubleBuffer)).back = env.leavesBack := by
    simp [InitEnv.left, GpuState.withBackId, hmem]
  have hfails {c : CardState} {held : List UInt32} (hc : Holding held c)
      (hheld : ∀ i ∈ held, i = 1 ∨ i = 9 ∧ env.leavesBack = true) :
      BackNumbered env (gs.withBackId 0 gs.doubleBuffer) c := by
    refine ⟨⟨h.numbering 0 (Or.inl rfl) fun i hi => ?_, hc.fresh⟩, hc.gs⟩
    rw [hleft]
    exact (hheld i (hc.live i hi)).imp_right fun hnine => ⟨hnine.1, Or.inr hnine.2⟩
  refine Triple.bind (createCommand_holding _ env.create2 (by decide) (by decide)) fun created =>
    Triple.fact fun hcreated => ?_
  refine Triple.ite (fun hnot => Triple.ret fun c hc => hfails hc fun i hi => ?_) fun hyes => ?_
  · have hne : env.create2 ≠ .done := fun hdone => by simp [hcreated, hdone] at hnot
    cases hanswer : env.create2 with
    | done => exact absurd hanswer hne
    | refused => exact Or.inl (by simpa [hanswer] using hi)
    | lost =>
        have hmem : i = 9 ∨ i = 1 := by simpa [hanswer] using hi
        exact hmem.symm.imp_right fun hnine => ⟨hnine, by simp [InitEnv.leavesBack, hanswer]⟩
  have hdone : env.create2 = .done := by
    rw [hcreated] at hyes
    simpa using hyes
  have hheld (i : UInt32) (hi : i ∈ (if env.create2 = .refused then [1] else [(9 : UInt32), 1])) :
      i = 1 ∨ i = 9 := by
    have hmem : i = 9 ∨ i = 1 := by simpa [hdone] using hi
    exact hmem.symm
  refine Triple.bind (Triple.withResult (CreatesNone.idCommand env.attach2).holding
    (gpuCommand_result _ _)) fun attached => Triple.fact fun hattached => ?_
  refine Triple.ite (fun hnot => Triple.ret fun c hc => hfails hc fun i hi => ?_) fun _ =>
    Triple.ret fun c hc => ?_
  · have hne : env.attach2 ≠ .done := fun hdone => by simp [hattached, hdone] at hnot
    exact (hheld i hi).imp_right fun hnine => ⟨hnine, by simp [InitEnv.leavesBack, hdone, hne]⟩
  · refine ⟨⟨h.numbering 9 (Or.inr rfl) fun i hi => ?_, hc.fresh⟩, hc.gs⟩
    exact (hheld i (hc.live i hi)).imp_right fun hnine => ⟨hnine, Or.inl rfl⟩

theorem initBoard_tracked (gs : GpuState) :
    Triple (BackNumbered env gs) (initBoard env gs) fun _ => InitTracked env := by
  unfold initBoard
  refine Triple.bind ((Quiet.allocVec _ _).createsNone.backNumbered gs) fun mem => ?_
  refine Triple.bind ((Quiet.obtain _ _).createsNone.backNumbered gs) fun vsync => ?_
  refine Triple.bind (R := fun _ => InitTracked env) (Triple.update fun c hc => ?_) fun _ =>
    Triple.ret fun c hc => hc
  refine ⟨fun gs' hgs' => ?_, hc.sound.fresh⟩
  obtain rfl : (gs.withBoardMem mem).withScreen env.mode vsync = gs' := Option.some.inj hgs'
  have hids : ((gs.withBoardMem mem).withScreen env.mode vsync).ids = gs.ids := by
    change (gs.withBoardMem mem).ids = gs.ids
    unfold GpuState.withBoardMem
    split <;> rfl
  have hleft : env.left ((gs.withBoardMem mem).withScreen env.mode vsync) = env.left gs := by
    change env.left (gs.withBoardMem mem) = env.left gs
    unfold GpuState.withBoardMem
    split <;> rfl
  rw [hids, hleft]
  exact hc.sound.numbering

theorem initScanout_tracked {gs : GpuState} (h : Unnumbered env gs) (l : Opened)
    (hblob : env.transport.blob = true → env.createBlob ≠ .lost) :
    Triple (Holding []) (initScanout env l gs) fun _ => InitTracked env := by
  unfold initScanout
  refine Triple.bind (initFbResource_holding h hblob) fun r => ?_
  obtain ⟨ok, gs₁⟩ := r
  refine Triple.fact fun hgs₁ => ?_
  refine Triple.ite (fun _ => (Quiet.failFbDmaList l gs₁).initTracked) fun _ => ?_
  refine Triple.bind (initBackResource_numbered hgs₁) fun gs₂ => ?_
  refine Triple.bind ((CreatesNone.setScanoutAttempts _ _ 3).backNumbered gs₂) fun shown => ?_
  refine Triple.ite (fun _ => ?_) fun _ => ?_
  · exact fun c hc =>
      ((Quiet.failFbDmaList l gs₂).createsNone.backNumbered gs₂ c hc).initTracked
  refine Triple.bind ((CreatesNone.chipTransferToHost2D _ _ _).backNumbered gs₂) fun _ => ?_
  refine Triple.bind ((CreatesNone.idCommand _).backNumbered gs₂) fun _ => ?_
  exact initBoard_tracked gs₂

theorem initBackBuffer_unnumbered {gs : GpuState} (h : Unnumbered env gs) (doubleBuffering : Bool) :
    Triple (Holding []) (initBackBuffer doubleBuffering env gs) fun gs' c =>
      Unnumbered env gs' ∧ Holding [] c := by
  have hkept (mem : ℕ) (count : UInt32) (list : ℕ) :
      Unnumbered env (gs.withBackBuffer mem count list) :=
    ⟨h.1, h.2, h.3, h.4, h.5, h.6⟩
  have halloc : Quiet (allocBackBuffer doubleBuffering env gs) :=
    Quiet.ite (Quiet.allocVec _ _) (Quiet.ret 0)
  unfold initBackBuffer
  refine Triple.bind halloc.createsNone.holding fun mem => ?_
  refine Triple.ite (fun _ => Triple.ret fun c hc => ⟨h, hc⟩) fun _ => ?_
  refine Triple.bind (Quiet.startDma _ _ _).createsNone.holding fun count => ?_
  refine Triple.ite (fun _ => ?_) fun _ => ?_
  · exact Triple.bind (Quiet.giveBack _).createsNone.holding fun _ =>
      Triple.ret fun c hc => ⟨h, hc⟩
  refine Triple.bind (Quiet.obtain _ _).createsNone.holding fun list => ?_
  refine Triple.ite (fun _ => ?_) fun _ => ?_
  · refine Triple.bind (Quiet.giveBack _).createsNone.holding fun _ => ?_
    exact Triple.bind (Quiet.giveBack _).createsNone.holding fun _ =>
      Triple.ret fun c hc => ⟨hkept 0 count 0, hc⟩
  refine Triple.bind (Quiet.chipImmuUpdate _).createsNone.holding fun _ => ?_
  exact Triple.ret fun c hc => ⟨hkept mem count list, hc⟩

theorem initFramebuffer_tracked {gs : GpuState} (h : Unnumbered env gs) (doubleBuffering : Bool)
    (l : Opened) (hblob : env.transport.blob = true → env.createBlob ≠ .lost) :
    Triple (Holding []) (initFramebuffer doubleBuffering env l gs) fun _ => InitTracked env := by
  unfold initFramebuffer
  generalize (if env.mode.1 ≠ 0 then env.mode.1 else 1280) = maxW
  generalize (if env.mode.2 ≠ 0 then env.mode.2 else 800) = maxH
  refine Triple.bind (Quiet.allocVec _ _).createsNone.holding fun mem => ?_
  refine Triple.ite (fun _ => (Quiet.failVqs _ _).initTracked) fun _ => ?_
  refine Triple.bind (Quiet.startDma _ _ _).createsNone.holding fun count => ?_
  refine Triple.ite (fun _ => (Quiet.failFbMem _ _).initTracked) fun _ => ?_
  refine Triple.bind (Quiet.obtain _ _).createsNone.holding fun list => ?_
  refine Triple.ite (fun _ => (Quiet.failFbDma _ _).initTracked) fun _ => ?_
  refine Triple.bind (Quiet.chipImmuUpdate _).createsNone.holding fun _ => ?_
  have hmapped : Unnumbered env (((gs.sized maxW maxH).withFbMem mem).withFbDma count list) :=
    ⟨h.1, h.2, h.3, h.4, h.5, h.6⟩
  refine Triple.bind (initBackBuffer_unnumbered hmapped doubleBuffering) fun gs' => ?_
  exact Triple.fact fun hgs' => initScanout_tracked hgs' l hblob

theorem chipVirtioInit_unnumbered {gs : GpuState} (h : Unnumbered env gs) :
    Triple (Holding []) (chipVirtioInit gs env.transport) fun r c =>
      Unnumbered env r.2 ∧ Holding [] c := by
  have hoffered : Unnumbered env (gs.withFeatures env.transport.virgl env.transport.blob) :=
    ⟨h.1, h.2, h.3, h.4, h.5, id⟩
  have hqueues (q cq : Option Vring) : Unnumbered env
      (((gs.withFeatures env.transport.virgl env.transport.blob).withCtrlq q).withCursorq cq) :=
    ⟨h.1, h.2, h.3, h.4, h.5, id⟩
  unfold chipVirtioInit
  refine Triple.bind (R := fun _ => Holding []) (Triple.update fun c hc => ?_) fun _ => ?_
  · exact ⟨fun i hi => by simp [Host.Live, Host.reset] at hi, hc.fresh, hc.gs⟩
  refine Triple.ite (fun _ => Triple.ret fun c hc => ⟨hoffered, hc⟩) fun _ => ?_
  refine Triple.ite (fun _ => Triple.ret fun c hc => ⟨hoffered, hc⟩) fun _ => ?_
  refine Triple.bind (Quiet.setupQueue _ _).createsNone.holding fun q => ?_
  cases q with
  | none => exact Triple.ret fun c hc => ⟨hoffered, hc⟩
  | some vq =>
      refine Triple.ite (fun _ => Triple.ret fun c hc => ⟨hqueues (some vq) gs.cursorq, hc⟩)
        fun _ => ?_
      exact Triple.bind (Quiet.setupQueue _ _).createsNone.holding fun cq =>
        Triple.ret fun c hc => ⟨hqueues (some vq) cq, hc⟩

theorem chipIrqInstall_unnumbered {gs : GpuState} (h : Unnumbered env gs) (a : IrqAnswer) :
    Triple (Holding []) (chipIrqInstall gs a) fun gs' c => Unnumbered env gs' ∧ Holding [] c := by
  intro c hc
  refine ⟨?_, (Quiet.chipIrqInstall gs a).createsNone.holding c hc⟩
  unfold chipIrqInstall
  split
  · exact h
  split
  · exact h
  · exact ⟨h.1, h.2, h.3, h.4, h.5, h.6⟩

theorem setup3D_unnumbered {gs : GpuState} (h : Unnumbered env gs) (a : Cmd3dAnswer) :
    Triple (Holding []) (setup3D gs a) fun gs' c => Unnumbered env gs' ∧ Holding [] c := by
  have hcounted (buf lock : ℕ) (virgl : Bool) : Unnumbered env (gs.with3D buf lock virgl 3 1) :=
    ⟨h.1, h.2, h.3, h.4, Or.inr (UInt32.le_refl 3), h.6⟩
  unfold setup3D
  refine Triple.ite (fun _ => ?_) fun _ => Triple.ret fun c hc => ⟨h, hc⟩
  refine Triple.bind (Quiet.chipDmaAlloc _ _).createsNone.holding fun buf => ?_
  refine Triple.ite (fun _ => Triple.ret fun c hc => ⟨hcounted 0 0 false, hc⟩) fun _ => ?_
  refine Triple.bind (Quiet.obtain _ _).createsNone.holding fun lock => ?_
  refine Triple.ite (fun _ => ?_) fun _ => Triple.ret fun c hc => ⟨hcounted buf lock true, hc⟩
  exact Triple.bind (Quiet.chipDmaFree _ _).createsNone.holding fun _ =>
    Triple.ret fun c hc => ⟨hcounted 0 0 false, hc⟩

theorem initTransport_tracked {gs : GpuState} (h : Unnumbered env gs) (doubleBuffering : Bool)
    (l : Opened) (hblob : env.transport.blob = true → env.createBlob ≠ .lost) :
    Triple (Holding []) (initTransport doubleBuffering env l gs) fun _ => InitTracked env := by
  unfold initTransport
  refine Triple.bind (Quiet.chipDmaAlloc _ _).createsNone.holding fun cmdBuf => ?_
  refine Triple.ite (fun _ => (Quiet.failGs _ _).initTracked) fun _ => ?_
  refine Triple.bind (Quiet.chipDmaAlloc _ _).createsNone.holding fun respBuf => ?_
  refine Triple.ite (fun _ => (Quiet.failCmd _ _).initTracked) fun _ => ?_
  refine Triple.bind (Quiet.chipDmaAlloc _ _).createsNone.holding fun cursorCmdBuf => ?_
  have hbuffers : Unnumbered env ((gs.withCmdBuf cmdBuf).withRespBufs respBuf cursorCmdBuf) :=
    ⟨h.1, h.2, h.3, h.4, h.5, h.6⟩
  refine Triple.bind (chipVirtioInit_unnumbered hbuffers) fun r => Triple.fact fun hr => ?_
  refine Triple.ite (fun _ => (Quiet.failResp _ _).initTracked) fun _ => ?_
  refine Triple.bind (chipIrqInstall_unnumbered hr _) fun gs₁ => Triple.fact fun hgs₁ => ?_
  refine Triple.bind (setup3D_unnumbered hgs₁ _) fun gs₂ => Triple.fact fun hgs₂ => ?_
  exact initFramebuffer_tracked hgs₂ doubleBuffering l hblob

theorem initState_tracked (doubleBuffering : Bool) (l : Opened)
    (hblob : env.transport.blob = true → env.createBlob ≠ .lost) :
    Triple (Holding []) (initState doubleBuffering env l) fun _ => InitTracked env := by
  unfold initState
  refine Triple.bind (Quiet.allocVec _ _).createsNone.holding fun self => ?_
  refine Triple.ite (fun _ => (Quiet.failPci _).initTracked) fun _ => ?_
  refine Triple.bind (Quiet.obtain _ _).createsNone.holding fun ioLock => ?_
  refine Triple.bind (Quiet.obtain _ _).createsNone.holding fun cursorLock => ?_
  refine Triple.bind (Quiet.obtain _ _).createsNone.holding fun allocMutex => ?_
  refine Triple.ite (fun _ => (Quiet.failGs _ _).initTracked) fun _ => ?_
  refine Triple.bind (Quiet.chipScanBars _).createsNone.holding fun _ => ?_
  cases env.caps with
  | none => exact (Quiet.failGs _ _).initTracked
  | some base =>
      refine initTransport_tracked ⟨rfl, rfl, rfl, rfl, Or.inl rfl, fun h => ?_⟩ _ _ hblob
      exact absurd h Bool.false_ne_true

theorem chipInitCard_tracked (doubleBuffering : Bool)
    (hblob : env.transport.blob = true → env.createBlob ≠ .lost) :
    Triple (Holding []) (chipInitCard doubleBuffering env) fun _ => InitTracked env := by
  unfold chipInitCard
  refine Triple.bind (Quiet.obtain _ _).createsNone.holding fun expBase => ?_
  refine Triple.ite (fun _ => (Quiet.ret false).initTracked) fun _ => ?_
  refine Triple.bind (Quiet.obtain _ _).createsNone.holding fun ipci => ?_
  refine Triple.ite (fun _ => (Quiet.failExp _).initTracked) fun _ => ?_
  refine Triple.ite (fun _ => (Quiet.failIpci _).initTracked) fun _ => ?_
  refine Triple.ite (fun _ => (Quiet.failIpci _).initTracked) fun _ => ?_
  refine Triple.bind (R := fun _ => Holding []) (Triple.update fun c hc => ?_) fun _ =>
    initState_tracked doubleBuffering _ hblob
  exact ⟨hc.live, hc.fresh, hc.gs⟩

end Init

/-! ## Runs -/

/-- What creates or destroys resources after `chip_InitCard_C`. -/
inductive IdCall where
  | setGC (call : GcCall)
  | flush (env : FlushEnv)
  | setSpriteImage (env : CursorEnv)
  | virglInit2d (env : VirglEnv)
  | virglRecover2d (env : RecoverEnv)
  | uploadBitmap (env : UploadEnv)
  | freeTexture (answer : GpuAnswer)

/-- A function that is given `ChipGPUState` and changes it. -/
def withIds (f : GpuState → Driver GpuState) : Driver Unit :=
  withChipState fun gs => do
    let gs ← f gs
    setChipState gs

def IdCall.perform : IdCall → Driver Unit
  | .setGC call => chipSetGC call.mi call.env
  | .flush env => chipFlushAll env
  | .setSpriteImage env => chipSetSpriteImage env
  | .virglInit2d env => withIds fun gs => Prod.snd <$> chipVirglInit2d gs env
  | .virglRecover2d env => withIds fun gs => Prod.snd <$> chipVirglRecover2d gs env
  | .uploadBitmap env => withIds fun gs => Prod.snd <$> chipCompUploadBitmap gs env
  | .freeTexture answer => withIds fun gs => chipCompFreeTexture gs answer

/-- The card, with what failed commands have left on the host. -/
structure Numbered where
  card : CardState
  strays : Strays

/-- The strays after a call. -/
def Strays.after (strays : Strays) (gs : GpuState) : IdCall → Strays
  | .setGC call => strays.afterGC gs call
  | .setSpriteImage env => strays.afterCursor gs env
  | _ => strays

def Numbered.step (s : Numbered) (call : IdCall) : Option Numbered :=
  some
    { card := (call.perform s.card).2
      strays := s.card.gs.elim s.strays fun gs => s.strays.after gs call }

def Numbered.start (doubleBuffering : Bool) (env : InitEnv) : Numbered where
  card := (chipInitCard doubleBuffering env .start).2
  strays := (chipInitCard doubleBuffering env .start).2.gs.elim ⟨false, false⟩ env.left

/-- The ids that a call uses are available: the counter can be drawn from, and 2 is not taken
when the cursor comes to be created. -/
def GpuState.IdsAvailable (gs : GpuState) (strays : Strays) : IdCall → Prop
  | .setGC call => gs.DrawsId call → gs.ids.DrawOk strays
  | .flush _ => True
  | .setSpriteImage env => gs.CreatesCursor env →
      (gs.fbResourceId ≠ 2 ∧ gs.fbResourceId2 ≠ 2) ∧ strays.cursor = false
  | .virglInit2d env => gs.ids.DrawsOk strays (env.draws gs)
  | .virglRecover2d env => gs.virglCleared.ids.DrawsOk strays (env.init.draws gs.virglCleared)
  | .uploadBitmap env => gs.Uploads env → gs.ids.DrawOk strays
  | .freeTexture _ => True

def IdsAvailable (s : Numbered) (call : IdCall) : Prop :=
  ∀ gs ∈ s.card.gs, gs.IdsAvailable s.strays call

instance Ids.DrawsOk.decidable (strays : Strays) : ∀ (n : ℕ) (ids : Ids),
    Decidable (ids.DrawsOk strays n)
  | 0, _ => isTrue trivial
  | n + 1, ids =>
      have : Decidable (ids.drawn.DrawsOk strays n) := Ids.DrawsOk.decidable strays n ids.drawn
      inferInstanceAs (Decidable (ids.DrawOk strays ∧ ids.drawn.DrawsOk strays n))

instance (gs : GpuState) (strays : Strays) : ∀ call, Decidable (gs.IdsAvailable strays call)
  | .setGC call => inferInstanceAs (Decidable (gs.DrawsId call → gs.ids.DrawOk strays))
  | .flush _ => isTrue trivial
  | .setSpriteImage env => inferInstanceAs (Decidable (gs.CreatesCursor env →
      (gs.fbResourceId ≠ 2 ∧ gs.fbResourceId2 ≠ 2) ∧ strays.cursor = false))
  | .virglInit2d env => inferInstanceAs (Decidable (gs.ids.DrawsOk strays (env.draws gs)))
  | .virglRecover2d env =>
      inferInstanceAs
        (Decidable (gs.virglCleared.ids.DrawsOk strays (env.init.draws gs.virglCleared)))
  | .uploadBitmap env => inferInstanceAs (Decidable (gs.Uploads env → gs.ids.DrawOk strays))
  | .freeTexture _ => isTrue trivial

instance (s : Numbered) (call : IdCall) : Decidable (IdsAvailable s call) :=
  inferInstanceAs (Decidable (∀ gs ∈ s.card.gs, _))

section Runs

variable {strays : Strays} {c : CardState} {gs : GpuState}

theorem withIds_tracked {strays' : Strays} {f : GpuState → Driver GpuState}
    (hstate : c.gs = some gs)
    (hf : Triple (IdsSound gs.ids strays) (f gs) fun gs' => IdsSound gs'.ids strays')
    (h : IdsSound gs.ids strays c) : IdsTracked strays' (withIds f c).2 := by
  have hrun : (withIds f c).2 = ((f gs >>= setChipState) c).2 := by
    unfold withIds withChipState
    simp only [hstate]
  rw [hrun]
  exact Triple.bind hf (fun gs' => setChipState_tracked rfl) c h

theorem withIds_none {f : GpuState → Driver GpuState} (hnone : c.gs = none) :
    (withIds f c).2 = c := by
  unfold withIds withChipState
  simp only [hnone]

theorem chipSetSpriteImage_eq (env : CursorEnv) :
    chipSetSpriteImage env = withIds fun gs => Prod.snd <$> chipCursorCreate gs env := rfl

/-- Without `g_chip_state` no call does anything. -/
theorem IdCall.perform_none (call : IdCall) (hnone : c.gs = none) : (call.perform c).2 = c := by
  cases call with
  | setGC call =>
      change (chipSetGC call.mi call.env c).2 = c
      unfold chipSetGC withChipState
      simp only [hnone]
  | flush env =>
      change (chipFlushAll env c).2 = c
      unfold chipFlushAll withChipState
      simp only [hnone]
  | setSpriteImage env =>
      change (chipSetSpriteImage env c).2 = c
      rw [chipSetSpriteImage_eq]
      exact withIds_none hnone
  | virglInit2d env => exact withIds_none hnone
  | virglRecover2d env => exact withIds_none hnone
  | uploadBitmap env => exact withIds_none hnone
  | freeTexture answer => exact withIds_none hnone

theorem Triple.second {α β : Type} {P : CardState → Prop} {m : Driver (α × β)}
    {Q : β → CardState → Prop} (h : Triple P m fun r => Q r.2) : Triple P (Prod.snd <$> m) Q := h

theorem IdCall.perform_tracked (call : IdCall) (hstate : c.gs = some gs)
    (h : IdsSound gs.ids strays c) (hok : gs.IdsAvailable strays call) :
    IdsTracked (strays.after gs call) (call.perform c).2 := by
  cases call with
  | setGC call => exact chipSetGC_tracked hstate h hok
  | flush env => exact chipFlushAll_tracked hstate h env
  | setSpriteImage env =>
      change IdsTracked _ (chipSetSpriteImage env c).2
      rw [chipSetSpriteImage_eq]
      exact withIds_tracked hstate (Triple.second (chipCursorCreate_idsSound env hok)) h
  | virglInit2d env =>
      exact withIds_tracked hstate (Triple.second (chipVirglInit2d_idsSound env hok)) h
  | virglRecover2d env =>
      exact withIds_tracked hstate (Triple.second (chipVirglRecover2d_idsSound env hok)) h
  | uploadBitmap env =>
      exact withIds_tracked hstate (Triple.second (chipCompUploadBitmap_idsSound env hok)) h
  | freeTexture answer =>
      refine withIds_tracked hstate ?_ h
      exact (chipCompFreeTexture_idsSound answer).strengthen fun gs' c' hc => by
        rw [hc.1]
        exact hc.2

theorem IdsTracked.step {s t : Numbered} {call : IdCall} (h : IdsTracked s.strays s.card)
    (hok : IdsAvailable s call) (hstep : s.step call = some t) : IdsTracked t.strays t.card := by
  obtain rfl := Option.some.inj hstep
  change IdsTracked (s.card.gs.elim s.strays _) (call.perform s.card).2
  rcases hstate : s.card.gs with _ | gs
  · rw [call.perform_none hstate]
    exact h
  · have hsound : IdsSound gs.ids s.strays s.card := ⟨h.numbering gs hstate, h.fresh⟩
    exact call.perform_tracked hstate hsound (hok gs hstate)

theorem Numbered.start_tracked (doubleBuffering : Bool) {env : InitEnv}
    (hblob : env.transport.blob = true → env.createBlob ≠ .lost) :
    IdsTracked (Numbered.start doubleBuffering env).strays
      (Numbered.start doubleBuffering env).card := by
  have hstart : Holding [] CardState.start :=
    ⟨fun i hi => by simp [Host.Live, CardState.start, Host.reset] at hi,
      fun e he => absurd he (List.not_mem_nil), rfl⟩
  have hinit := chipInitCard_tracked doubleBuffering hblob _ hstart
  refine ⟨fun gs hgs => ?_, hinit.fresh⟩
  have hleft : (Numbered.start doubleBuffering env).strays = env.left gs := by
    change ((chipInitCard doubleBuffering env .start).2.gs).elim _ _ = _
    rw [show (chipInitCard doubleBuffering env .start).2.gs = some gs from hgs]
    rfl
  rw [hleft]
  exact hinit.numbering gs hgs

end Runs

/-- In every run, from `chip_InitCard_C` on and with any answers of the host: where the ids
that each call uses are available, every create command uses an id that is not 0 and not in
use. -/
theorem resource_ids_unique (doubleBuffering : Bool) {env : InitEnv}
    (hblob : env.transport.blob = true → env.createBlob ≠ .lost) (calls : List IdCall)
    (havailable : Within Numbered.step IdsAvailable (.start doubleBuffering env) calls) :
    Always Numbered.step (fun s => IdsFresh s.card) (.start doubleBuffering env) calls :=
  always_of_within (I := fun s => IdsTracked s.strays s.card) (fun _ h => h.fresh)
    (fun _ _ _ h hok hstep => h.step hok hstep) (Numbered.start_tracked doubleBuffering hblob)
    havailable

def CursorEnv.done : CursorEnv := ⟨true, 1, true, .done, .done⟩

/-- The cursor comes first, so that the mode change skips its id. -/
theorem resource_ids_unique_working :
    Always Numbered.step (fun s => IdsFresh s.card) (.start false .working)
      [.setSpriteImage .done, .setGC ⟨⟨800, 600, 32⟩, .commandsDone true 1 true true⟩,
        .flush ⟨.done, .done, fun _ => .done, .done⟩] :=
  resource_ids_unique false (by decide) _ (by decide +kernel)

/-- Without Virgl the first mode change draws 2, which the cursor uses later. -/
theorem cursor_id_in_use :
    (chipInitCard false .working .start).1 = true ∧
      ¬ Always Numbered.step (fun s => IdsFresh s.card) (.start false .working)
        [.setGC ⟨⟨800, 600, 32⟩, .commandsDone true 1 true true⟩, .setSpriteImage .done] := by
  decide +kernel

end VirtIOGPU.Card
