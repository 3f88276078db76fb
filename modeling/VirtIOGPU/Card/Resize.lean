import VirtIOGPU.Card.Ready

/-!
# What a mode change does

`Resized` lists the outcomes of `chip_resize_fb_to_mode`: its result, the state it leaves, the
host and the commands.  The results about mode changes follow from this list; none of them
looks into the function again.

## Strategy

```text
outcome     when                                 returns   fields            commands
zero        a dimension is 0                     FALSE     stay              none
same        the frame buffer has the size        TRUE      stay              none
memory      memory, mapping or list fails        FALSE     stay              none
command     a command fails                      FALSE     an id is drawn    undone, up to leavesNew
published   all succeed                          TRUE      new frame buffer  all
```

`chip_SetGC` adds two outcomes before it (`ModeSet`): the mode is unchanged, or only its format is
another one.  What most results need of all these is coarser and is `FrameSet`: nothing was sent,
or an id was drawn and dropped, or a frame buffer was published.
-/

namespace VirtIOGPU.Card

open Lib Lib.Hoare

variable {host : Host} {events : List GpuEvent}

/-- The new frame buffer can be allocated and mapped. -/
def ResizeEnv.memory (env : ResizeEnv) : Bool := env.mem && env.count != 0 && env.list

/-- The commands put the new resource on the scanout. -/
def ResizeEnv.switches (env : ResizeEnv) : Bool :=
  env.create == .done && env.attach == .done && Shows env.setScanout 3

/-- After a failure of the commands the new resource is on the host all the same. -/
def ResizeEnv.leavesNew (env : ResizeEnv) : Bool :=
  env.create == .lost || env.create == .done && !env.switches && env.unrefNew == .refused

/-- Memory is there or not; every command succeeds. -/
def ResizeEnv.commandsDone (mem : Bool) (count : UInt32) (list immu : Bool) : ResizeEnv where
  mem := mem
  count := count
  list := list
  immu := immu
  create := .done
  attach := .done
  setScanout := fun _ => .done
  unrefNew := .done
  unrefOld := .done

/-- A frame buffer with new dimensions is needed. -/
def GpuState.NeedsResize (gs : GpuState) (w h : UInt32) : Prop :=
  ¬ (w = 0 ∨ h = 0) ∧ ¬ (w = gs.fbWidth ∧ h = gs.fbHeight)

instance (gs : GpuState) (w h : UInt32) : Decidable (gs.NeedsResize w h) :=
  inferInstanceAs (Decidable (_ ∧ _))

/-- The state with the id counter advanced. -/
def GpuState.idTaken (gs : GpuState) : GpuState := gs.withNextId (gs.allocId + 1)

/-- The host with the new resource on the scanout. -/
def Host.switched (host : Host) (id w h : UInt32) : Host :=
  (host.create id (.classic2D formatB8G8R8X8 w h)).setScanout ⟨id, 0, 0, w, h⟩

/-- The host when the old resource has been dropped. -/
def Host.dropped (host : Host) (old : UInt32) (answer : GpuAnswer) : Host :=
  if old = 0 then host else answer.applied host (host.unref old)

/-! ## What a mode change leaves alone -/

/-- The fields that neither `chip_SetGC` nor its resize assigns. -/
structure GpuState.SameOtherwise (gs' gs : GpuState) : Prop where
  dpmsLevel : gs'.dpmsLevel = gs.dpmsLevel
  fbIsBlob : gs'.fbIsBlob = gs.fbIsBlob
  fbMem2 : gs'.fbMem2 = gs.fbMem2
  doubleBuffer : gs'.doubleBuffer = gs.doubleBuffer
  fbResourceId2 : gs'.fbResourceId2 = gs.fbResourceId2
  cursorResourceId : gs'.cursorResourceId = gs.cursorResourceId
  cursorCreated : gs'.cursorCreated = gs.cursorCreated
  boardMem : gs'.boardMem = gs.boardMem
  boardMemSize : gs'.boardMemSize = gs.boardMemSize
  virgl2dReady : gs'.virgl2dReady = gs.virgl2dReady
  hasVirgl : gs'.hasVirgl = gs.hasVirgl
  cmd3dBuf : gs'.cmd3dBuf = gs.cmd3dBuf

namespace GpuState.SameOtherwise

variable {gs gs' gs'' : GpuState}

theorem refl (gs : GpuState) : gs.SameOtherwise gs :=
  ⟨rfl, rfl, rfl, rfl, rfl, rfl, rfl, rfl, rfl, rfl, rfl, rfl⟩

theorem trans (h : gs''.SameOtherwise gs') (h' : gs'.SameOtherwise gs) : gs''.SameOtherwise gs where
  dpmsLevel := h.dpmsLevel.trans h'.dpmsLevel
  fbIsBlob := h.fbIsBlob.trans h'.fbIsBlob
  fbMem2 := h.fbMem2.trans h'.fbMem2
  doubleBuffer := h.doubleBuffer.trans h'.doubleBuffer
  fbResourceId2 := h.fbResourceId2.trans h'.fbResourceId2
  cursorResourceId := h.cursorResourceId.trans h'.cursorResourceId
  cursorCreated := h.cursorCreated.trans h'.cursorCreated
  boardMem := h.boardMem.trans h'.boardMem
  boardMemSize := h.boardMemSize.trans h'.boardMemSize
  virgl2dReady := h.virgl2dReady.trans h'.virgl2dReady
  hasVirgl := h.hasVirgl.trans h'.hasVirgl
  cmd3dBuf := h.cmd3dBuf.trans h'.cmd3dBuf

theorem withMode (gs : GpuState) (mi : ModeInfo) : (gs.withMode mi).SameOtherwise gs :=
  ⟨rfl, rfl, rfl, rfl, rfl, rfl, rfl, rfl, rfl, rfl, rfl, rfl⟩

theorem withCursorRefresh (gs : GpuState) : gs.withCursorRefresh.SameOtherwise gs :=
  ⟨rfl, rfl, rfl, rfl, rfl, rfl, rfl, rfl, rfl, rfl, rfl, rfl⟩

theorem idTaken (gs : GpuState) : gs.idTaken.SameOtherwise gs :=
  ⟨rfl, rfl, rfl, rfl, rfl, rfl, rfl, rfl, rfl, rfl, rfl, rfl⟩

theorem withFramebuffer (gs : GpuState) (mem : ℕ) (w h count : UInt32) (list : ℕ) (id : UInt32) :
    (gs.withFramebuffer mem w h count list id).SameOtherwise gs :=
  ⟨rfl, rfl, rfl, rfl, rfl, rfl, rfl, rfl, rfl, rfl, rfl, rfl⟩

end GpuState.SameOtherwise

/-! ## The new id -/

/-- None of the skipped ids is returned, when there are three. -/
theorem chipAllocResourceId_not_mem {skipped : List UInt32} (hlength : skipped.length ≤ 3)
    (next : UInt32) : chipAllocResourceId skipped next ∉ skipped := by
  unfold chipAllocResourceId
  by_cases h0 : next ∈ skipped
  case neg => rwa [if_pos h0]
  by_cases h1 : next + 1 ∈ skipped
  case neg => rwa [if_neg (not_not_intro h0), if_pos h1]
  by_cases h2 : next + 2 ∈ skipped
  case neg => rwa [if_neg (not_not_intro h0), if_neg (not_not_intro h1), if_pos h2]
  rw [if_neg (not_not_intro h0), if_neg (not_not_intro h1), if_neg (not_not_intro h2)]
  intro h3
  -- four different numbers do not fit into the list
  have hnodup : [next, next + 1, next + 2, next + 3].Nodup := by simp
  have hsubset : [next, next + 1, next + 2, next + 3] ⊆ skipped := by simp [h0, h1, h2, h3]
  have hle := (List.subperm_of_subset hnodup hsubset).length_le
  simp only [List.length_cons, List.length_nil] at hle
  omega

theorem GpuState.allocId_ne (gs : GpuState) :
    gs.allocId ≠ gs.fbResourceId ∧ gs.allocId ≠ gs.fbResourceId2 ∧
      gs.allocId ≠ gs.cursorResourceId := by
  have hnot : gs.allocId ∉ [gs.fbResourceId, gs.fbResourceId2, gs.cursorResourceId] :=
    chipAllocResourceId_not_mem (by simp) gs.nextResourceId
  simpa using hnot

/-- The outcomes: the result with the new `ChipGPUState`, the host and the commands. -/
inductive Resized (env : ResizeEnv) (gs : GpuState) (w h : UInt32) (host : Host)
    (events : List GpuEvent) : Bool × GpuState → Host → List GpuEvent → Prop where
  | zero (hdims : w = 0 ∨ h = 0) : Resized env gs w h host events (false, gs) host events
  | same (hdims : ¬ (w = 0 ∨ h = 0)) (hsame : w = gs.fbWidth ∧ h = gs.fbHeight) :
      Resized env gs w h host events (true, gs) host events
  | memory (hneeds : gs.NeedsResize w h) (hmemory : env.memory = false) :
      Resized env gs w h host events (false, gs) host events
  /-- A command failed; the new resource is gone again unless `leavesNew` says otherwise. -/
  | command (hneeds : gs.NeedsResize w h) (hmemory : env.memory = true)
      (hswitches : env.switches = false) {host' : Host}
      (hothers : ∀ i ≠ gs.allocId, host'.resources i = host.resources i)
      (hnew : env.leavesNew = false → host'.Live gs.allocId → host.Live gs.allocId) :
      Resized env gs w h host events (false, gs.idTaken) host'
        (.create gs.allocId (host.resources gs.allocId).isSome :: events)
  | published (hneeds : gs.NeedsResize w h) (hmemory : env.memory = true)
      (hswitches : env.switches = true) {mem list : ℕ} (hmem : mem ≠ 0) :
      Resized env gs w h host events
        (true, gs.idTaken.withFramebuffer mem w h env.count list gs.allocId)
        ((host.switched gs.allocId w h).dropped gs.fbResourceId env.unrefOld)
        (.create gs.allocId (host.resources gs.allocId).isSome :: events)

/-- Whatever comes of it, what is shown and in which format stays as it is. -/
theorem Resized.shown_kept {env : ResizeEnv} {gs : GpuState} {w h : UInt32} {host host' : Host}
    {events events' : List GpuEvent} {r : Bool × GpuState}
    (hresized : Resized env gs w h host events r host' events') :
    r.2.activeFormat = gs.activeFormat ∧ r.2.panningMem = gs.panningMem ∧
      r.2.panningWidth = gs.panningWidth ∧ r.2.panXoff = gs.panXoff ∧
        r.2.panYoff = gs.panYoff := by
  cases hresized with
  | zero | same | memory | command | published => exact ⟨rfl, rfl, rfl, rfl, rfl⟩

/-! ## The parts -/

theorem allocVec_sees (size : UInt32) (ok : Bool) :
    Triple (Sees host events) (allocVec size ok) fun n c =>
      (n ≠ 0 ↔ ok = true) ∧ Sees host events c := by
  intro c hc
  exact ⟨(allocVec_new size ok (fun _ => True) c trivial).1, (Quiet.allocVec size ok).sees _ _ c hc⟩

theorem startDma_sees (mem : ℕ) (size count : UInt32) :
    Triple (Sees host events) (startDma mem size count) fun n c =>
      n = count ∧ Sees host events c :=
  fun c hc => ⟨rfl, (Quiet.startDma mem size count).sees _ _ c hc⟩

theorem obtain_sees (resource : ℕ → Resource) (ok : Bool) :
    Triple (Sees host events) (obtain resource ok) fun n c =>
      (n ≠ 0 ↔ ok = true) ∧ Sees host events c := by
  unfold obtain
  apply Triple.ite
  · intro hok
    exact Triple.transition fun c hc => ⟨by simp [hok], hc.host, hc.events⟩
  · intro hok
    exact Triple.ret fun c hc => ⟨by simp [hok], hc⟩

/-- `unref` of a resource leaves the others alone, whatever the answer. -/
theorem GpuAnswer.applied_unref_resources (answer : GpuAnswer) {id i : UInt32} (h : i ≠ id) :
    (answer.applied host (host.unref id)).resources i = host.resources i := by
  cases answer with
  | refused => rfl
  | done => exact Function.update_of_ne h _ _
  | lost => exact Function.update_of_ne h _ _

theorem GpuAnswer.applied_create_resources (answer : GpuAnswer) {id i : UInt32}
    (resource : GpuResource) (h : i ≠ id) :
    (answer.applied host (host.create id resource)).resources i = host.resources i := by
  cases answer with
  | refused => rfl
  | done => exact Function.update_of_ne h _ _
  | lost => exact Function.update_of_ne h _ _

/-- The commands for a new resource touch no other resource. -/
structure Touched (id : UInt32) (host : Host) (events : List GpuEvent) (c : CardState) : Prop where
  others : ∀ i ≠ id, c.host.resources i = host.resources i
  events : c.events = events

/-- The host is as it was, if the new resource is not left behind. -/
structure Undone (env : ResizeEnv) (id : UInt32) (host : Host) (events : List GpuEvent)
    (c : CardState) : Prop extends Touched id host events c where
  new : env.leavesNew = false → c.host.Live id → host.Live id

theorem Touched.of_sees {id : UInt32} {host' : Host} {c : CardState} (hc : Sees host' events c)
    (hothers : ∀ i ≠ id, host'.resources i = host.resources i) : Touched id host events c := by
  refine ⟨fun i hi => ?_, hc.events⟩
  rw [hc.host]
  exact hothers i hi

theorem chipResourceUnref_touched (id : UInt32) (answer : GpuAnswer) :
    Triple (Touched id host events) (chipResourceUnref id answer) fun _ c =>
      Touched id host events c ∧ (answer ≠ .refused → ¬ c.host.Live id) := by
  intro c hc
  have hstart : Sees c.host c.events c := ⟨rfl, rfl⟩
  have hsees := (gpuCommand_sees (fun host => host.unref id) answer c hstart).2
  refine ⟨⟨fun i hi => ?_, hsees.events.trans hc.events⟩, fun hanswer hlive => ?_⟩
  · calc
      _ = (answer.applied c.host (c.host.unref id)).resources i :=
        congrArg (·.resources i) hsees.host
      _ = c.host.resources i := answer.applied_unref_resources hi
      _ = host.resources i := hc.others i hi
  · have hgone : ((c.host.unref id).resources id).isSome = false := by
      simp [Host.unref, Function.update_self]
    unfold Host.Live at hlive
    rw [chipResourceUnref, hsees.host] at hlive
    cases answer with
    | refused => exact hanswer rfl
    | done => exact absurd (hgone.symm.trans hlive) (by simp)
    | lost => exact absurd (hgone.symm.trans hlive) (by simp)

theorem switchResource_cases (env : ResizeEnv) (id w h : UInt32) :
    Triple (Sees host events) (switchResource env id w h) fun ok c =>
      ok = env.switches ∧
        (ok = true → Sees (host.switched id w h)
          (.create id (host.resources id).isSome :: events) c) ∧
        (ok = false → Undone env id host (.create id (host.resources id).isSome :: events) c) := by
  unfold switchResource
  refine Triple.bind (createCommand_sees _ _ _) fun created => Triple.fact fun hcreated => ?_
  refine Triple.ite (fun hnot => Triple.ret fun c hc => ?_) fun hok => ?_
  · -- the create command failed
    have hcreate : env.create ≠ .done := fun hdone => by simp [hcreated.mpr hdone] at hnot
    refine ⟨by simp [ResizeEnv.switches, hcreate], by simp, fun _ => ?_⟩
    refine ⟨Touched.of_sees hc fun i hi => env.create.applied_create_resources _ hi, ?_⟩
    intro hleaves hlive
    unfold Host.Live at hlive
    rw [hc.host] at hlive
    cases hanswer : env.create with
    | done => exact absurd hanswer hcreate
    | refused => rwa [hanswer] at hlive
    | lost => simp [ResizeEnv.leavesNew, hanswer] at hleaves
  have hcreate : env.create = .done := hcreated.mp (by simpa using hok)
  rw [hcreate]
  refine Triple.bind (idCommand_sees _) fun attached => Triple.fact fun hattached => ?_
  have hnew : ∀ i ≠ id, (host.create id (.classic2D formatB8G8R8X8 w h)).resources i =
      host.resources i := fun i hi => Function.update_of_ne hi _ _
  -- both later failures drop the new resource again
  have hundo (hfails : env.switches = false) :
      Triple (Touched id host (.create id (host.resources id).isSome :: events))
        (do let _ ← chipResourceUnref id env.unrefNew
            return false)
        fun ok c => ok = false ∧
          Undone env id host (.create id (host.resources id).isSome :: events) c := by
    refine Triple.bind (chipResourceUnref_touched _ _) fun _ => Triple.ret fun c hc => ⟨rfl, ?_⟩
    refine ⟨hc.1, fun hleaves hlive => absurd hlive (hc.2 fun hrefused => ?_)⟩
    simp [ResizeEnv.leavesNew, hcreate, hfails, hrefused] at hleaves
  refine Triple.ite (fun hnot => ?_) fun hok => ?_
  · have hattach : env.attach ≠ .done := fun hdone => by simp [hattached.mpr hdone] at hnot
    have hfails : env.switches = false := by simp [ResizeEnv.switches, hattach]
    refine ((hundo hfails).weaken fun c hc => Touched.of_sees hc hnew).strengthen fun ok c hc => ?_
    rw [hc.1, hfails]
    exact ⟨rfl, by simp, fun _ => hc.2⟩
  have hattach : env.attach = .done := hattached.mp (by simpa using hok)
  -- the scanout is tried several times
  have hshows : env.switches = Shows env.setScanout 3 := by
    simp [ResizeEnv.switches, hcreate, hattach]
  refine Triple.bind (setScanoutAttempts_sees _ env.setScanout 3) fun shown =>
    Triple.fact fun hshown => ?_
  refine Triple.ite (fun hnot => ?_) fun hok => Triple.ret fun c hc => ?_
  · have hfails : env.switches = false := by
      rw [hshows, ← hshown]
      simpa using hnot
    refine ((hundo hfails).weaken fun c hc => ?_).strengthen fun ok c hc => ?_
    · rcases hc with ⟨-, hc⟩ | hc <;> exact Touched.of_sees hc hnew
    · rw [hc.1, hfails]
      exact ⟨rfl, by simp, fun _ => hc.2⟩
  · have hshown' : shown = true := by simpa using hok
    refine ⟨by rw [hshows, ← hshown, hshown'], fun _ => ?_, by simp⟩
    rcases hc with ⟨hfalse, -⟩ | hc
    · exact absurd (hfalse.symm.trans hshown') (by simp)
    · exact hc

theorem releaseOld_sees (env : ResizeEnv) (old : GpuState) :
    Triple (Sees host events) (releaseOld env old) fun _ =>
      Sees (host.dropped old.fbResourceId env.unrefOld) events := by
  unfold releaseOld
  refine Triple.bind (R := fun _ => Sees (host.dropped old.fbResourceId env.unrefOld) events)
    (Triple.onlyIf (fun hold => ?_) fun hold c hc => ?_) fun _ => ?_
  · refine Triple.bind (gpuCommand_sees _ _) fun _ => Triple.ret fun c hc => ?_
    rw [Host.dropped, if_neg hold]
    exact hc.2
  · rw [Host.dropped, if_pos (by simpa using hold)]
    exact hc
  refine Triple.bind ((Quiet.onlyIf (Quiet.giveBack _)).sees _ _) fun _ => ?_
  exact (Quiet.onlyIf (Quiet.bind (Quiet.giveBack _) fun _ => Quiet.giveBack _)).sees _ _

theorem failDma_quiet (mem : ℕ) (size : UInt32) (list : ℕ) (gs : GpuState) :
    Quiet (failDma mem size list gs) :=
  Quiet.bind (Quiet.giveBack _) fun _ => Quiet.bind (Quiet.giveBack _) fun _ =>
    Quiet.bind (Quiet.giveBack _) fun _ => Quiet.ret _

theorem failDma_result (mem : ℕ) (size : UInt32) (list : ℕ) (gs : GpuState) (c : CardState) :
    (failDma mem size list gs c).1 = (false, gs) := rfl

/-! ## The whole -/

theorem chipResizeFbToMode_cases (env : ResizeEnv) (gs : GpuState) (w h : UInt32) :
    Triple (Sees host events) (chipResizeFbToMode gs w h env) fun r c =>
      Resized env gs w h host events r c.host c.events := by
  -- the ways out that leave the host alone, with nothing or with something to give back
  have hstay {r : Bool × GpuState} (hr : Resized env gs w h host events r host events) :
      Triple (Sees host events) (pure r : Driver (Bool × GpuState)) fun r c =>
        Resized env gs w h host events r c.host c.events := by
    refine Triple.ret fun c hc => ?_
    rw [hc.host, hc.events]
    exact hr
  have hundo {m : Driver Unit} {r : Bool × GpuState} (hm : Quiet m)
      (hr : Resized env gs w h host events r host events) :
      Triple (Sees host events) (m >>= fun _ => pure r) fun r c =>
        Resized env gs w h host events r c.host c.events :=
    Triple.bind (hm.sees _ _) fun _ => hstay hr
  unfold chipResizeFbToMode
  refine Triple.ite (fun hdims => hstay (.zero hdims)) fun hdims => ?_
  refine Triple.ite (fun hsame => hstay (.same hdims hsame)) fun hsame => ?_
  have hneeds : gs.NeedsResize w h := ⟨hdims, hsame⟩
  refine Triple.bind (allocVec_sees _ _) fun mem => Triple.fact fun hmem => ?_
  refine Triple.ite (fun hnull => hstay (.memory hneeds ?_)) fun hmem_ne => ?_
  · have : env.mem = false := by simpa [hnull] using hmem
    simp [ResizeEnv.memory, this]
  refine Triple.bind (startDma_sees _ _ _) fun count => Triple.fact fun hcount => ?_
  subst hcount
  refine Triple.ite (fun hnull => hundo (Quiet.giveBack _) (.memory hneeds ?_)) fun hcount => ?_
  · simp [ResizeEnv.memory, hnull]
  refine Triple.bind (obtain_sees _ _) fun list => Triple.fact fun hlist => ?_
  refine Triple.ite (fun hnull => ?_) fun hlist_ne => ?_
  · refine Triple.bind ((Quiet.giveBack _).sees _ _) fun _ =>
      hundo (Quiet.giveBack _) (.memory hneeds ?_)
    have : env.list = false := by simpa [hnull] using hlist
    simp [ResizeEnv.memory, this]
  have hmemory : env.memory = true := by
    simp [ResizeEnv.memory, hmem.mp hmem_ne, hcount, hlist.mp hlist_ne]
  refine Triple.bind ((Quiet.chipImmuUpdate _).sees _ _) fun _ => ?_
  refine Triple.bind (switchResource_cases env gs.allocId w h) fun switched =>
    Triple.fact fun hswitched => ?_
  refine Triple.ite (fun hnot => ?_) fun hok => ?_
  · -- everything that was obtained is given back; the id stays taken
    have hfalse : switched = false := by simpa using hnot
    intro c hc
    have hundone := hc.2 hfalse
    have hquiet := failDma_quiet mem (h * (w * 4)) list gs.idTaken
    change Resized env gs w h host events (failDma mem _ list gs.idTaken c).1
      (failDma mem _ list gs.idTaken c).2.host (failDma mem _ list gs.idTaken c).2.events
    rw [failDma_result, hquiet.host c, hquiet.events c, hundone.events]
    exact .command hneeds hmemory (hswitched.symm.trans hfalse) hundone.others hundone.new
  · -- the scanout has been switched: the old resource is released, and the fields are set
    have htrue : switched = true := by simpa using hok
    refine Triple.bind ((releaseOld_sees env gs.idTaken).weaken fun c hc => hc.1 htrue) fun _ => ?_
    refine Triple.ret fun c hc => ?_
    rw [hc.host, hc.events]
    exact .published hneeds hmemory (hswitched.symm.trans htrue) hmem_ne

/-! ## What the outcomes have in common -/

/-- The resize that these answers belong to fails. -/
def GpuState.ResizeFails (gs : GpuState) (w h : UInt32) (env : ResizeEnv) : Prop :=
  (w = 0 ∨ h = 0) ∨ gs.NeedsResize w h ∧ (env.memory && env.switches) = false

instance (gs : GpuState) (w h : UInt32) (env : ResizeEnv) : Decidable (gs.ResizeFails w h env) :=
  inferInstanceAs (Decidable (_ ∨ _))

namespace Resized

variable {env : ResizeEnv} {gs : GpuState} {w h : UInt32} {r : Bool × GpuState} {host' : Host}
  {events' : List GpuEvent}

theorem fails_iff (hr : Resized env gs w h host events r host' events') :
    gs.ResizeFails w h env ↔ r.1 = false := by
  cases hr with
  | zero hdims => exact iff_of_true (Or.inl hdims) rfl
  | same hdims hsame =>
      refine iff_of_false ?_ (by simp)
      rintro (hzero | ⟨hneeds, -⟩)
      · exact hdims hzero
      · exact hneeds.2 hsame
  | memory hneeds hmemory => exact iff_of_true (Or.inr ⟨hneeds, by simp [hmemory]⟩) rfl
  | command hneeds hmemory hswitches hothers hnew =>
      exact iff_of_true (Or.inr ⟨hneeds, by simp [hswitches]⟩) rfl
  | published hneeds hmemory hswitches hmem =>
      refine iff_of_false ?_ (by simp)
      rintro (hzero | ⟨-, hfails⟩)
      · exact hneeds.1 hzero
      · simp [hmemory, hswitches] at hfails

theorem sameOtherwise (hr : Resized env gs w h host events r host' events') :
    r.2.SameOtherwise gs := by
  cases hr with
  | zero | same | memory => exact .refl gs
  | command => exact .idTaken gs
  | published => exact (GpuState.SameOtherwise.withFramebuffer _ _ _ _ _ _ _).trans (.idTaken gs)

end Resized

/-! ## `chip_SetGC` -/

/-- One call of `chip_SetGC` with the answers of its environment. -/
structure GcCall where
  mi : ModeInfo
  env : ResizeEnv

/-- The call asks for a frame buffer with the dimensions of the mode. -/
def GpuState.AsksForResize (gs : GpuState) (mi : ModeInfo) : Prop :=
  gs.DimsChanged mi ∧ gs.fbMem ≠ 0

instance (gs : GpuState) (mi : ModeInfo) : Decidable (gs.AsksForResize mi) :=
  inferInstanceAs (Decidable (_ ∧ _))

theorem GpuState.dimsChanged_iff (gs : GpuState) (mi : ModeInfo) :
    gs.DimsChanged mi ↔
      ¬ (gs.activeWidth = mi.width.toUInt32 ∧ gs.activeHeight = mi.height.toUInt32) := by
  unfold GpuState.DimsChanged
  exact not_and_or.symm

/-- What a call does when `g_chip_state` is set. -/
inductive ModeSet (mi : ModeInfo) (env : ResizeEnv) (gs : GpuState) (c : CardState) :
    CardState → Prop where
  | unchanged (hmode : gs.ModeUnchanged mi) : ModeSet mi env gs c c
  /-- Only the format changed, or there is no frame buffer. -/
  | format (hmode : ¬ gs.ModeUnchanged mi) (hdims : ¬ gs.AsksForResize mi) :
      ModeSet mi env gs c { c with gs := some (gs.withMode mi) }
  | resized (hdims : gs.AsksForResize mi) {r : Bool × GpuState} {c' : CardState}
      (hresized : Resized env (gs.withMode mi) mi.width.toUInt32 mi.height.toUInt32 c.host c.events
        r c'.host c'.events)
      (hgs : c'.gs = some r.2.withCursorRefresh) : ModeSet mi env gs c c'

theorem chipSetGC_cases (mi : ModeInfo) (env : ResizeEnv) {gs : GpuState} {c : CardState}
    (hgs : c.gs = some gs) : ModeSet mi env gs c (chipSetGC mi env c).2 := by
  unfold chipSetGC withChipState
  simp only [hgs]
  split
  · exact .unchanged ‹_›
  split
  · rename_i hdims
    exact .resized hdims (chipResizeFbToMode_cases env _ _ _ c ⟨rfl, rfl⟩) rfl
  · exact .format ‹_› ‹_›

theorem ModeSet.sameOtherwise {mi : ModeInfo} {env : ResizeEnv} {gs : GpuState} {c c' : CardState}
    (h : ModeSet mi env gs c c') (hgs : c.gs = some gs) :
    ∃ gs', c'.gs = some gs' ∧ gs'.SameOtherwise gs := by
  cases h with
  | unchanged hmode => exact ⟨gs, hgs, .refl gs⟩
  | format hmode hdims => exact ⟨_, rfl, .withMode gs mi⟩
  | resized hdims hresized hgs' =>
      refine ⟨_, hgs', ?_⟩
      exact ((GpuState.SameOtherwise.withCursorRefresh _).trans hresized.sameOtherwise).trans
        (.withMode gs mi)

/-- The call replaces the frame buffer and its resource. -/
def GpuState.Publishes (gs : GpuState) (call : GcCall) : Prop :=
  gs.AsksForResize call.mi ∧ gs.NeedsResize call.mi.width.toUInt32 call.mi.height.toUInt32 ∧
    (call.env.memory && call.env.switches) = true

instance (gs : GpuState) (call : GcCall) : Decidable (gs.Publishes call) :=
  inferInstanceAs (Decidable (_ ∧ _ ∧ _))

/-- The call gets as far as `chip_alloc_resource_id`. -/
def GpuState.DrawsId (gs : GpuState) (call : GcCall) : Prop :=
  gs.AsksForResize call.mi ∧ gs.NeedsResize call.mi.width.toUInt32 call.mi.height.toUInt32 ∧
    call.env.memory = true

instance (gs : GpuState) (call : GcCall) : Decidable (gs.DrawsId call) :=
  inferInstanceAs (Decidable (_ ∧ _ ∧ _))

theorem GpuState.Publishes.drawsId {gs : GpuState} {call : GcCall} (h : gs.Publishes call) :
    gs.DrawsId call :=
  ⟨h.1, h.2.1, (Bool.and_eq_true_iff.mp h.2.2).1⟩

/-- The frame buffer fields are those of `gs`, and so is the counter or it has moved on. -/
structure GpuState.KeepsFrame (gs' gs : GpuState) : Prop where
  others : gs'.SameOtherwise gs
  fbMem : gs'.fbMem = gs.fbMem
  fbSize : gs'.fbSize = gs.fbSize
  resourceId : gs'.resourceId = gs.resourceId
  fbResourceId : gs'.fbResourceId = gs.fbResourceId

/-- `chip_SetGC` keeps the frame buffer or replaces it. -/
inductive FrameSet (gs : GpuState) (call : GcCall) (c c' : CardState) : Prop where
  | unsent (hnot : ¬ gs.DrawsId call) {gs' : GpuState} (hgs : c'.gs = some gs')
      (hframe : gs'.KeepsFrame gs) (hnext : gs'.nextResourceId = gs.nextResourceId)
      (hhost : c'.host = c.host) (hevents : c'.events = c.events) : FrameSet gs call c c'
  | dropped (hnot : ¬ gs.Publishes call) (hdraws : gs.DrawsId call) {gs' : GpuState}
      (hgs : c'.gs = some gs')
      (hframe : gs'.KeepsFrame gs) (hnext : gs'.nextResourceId = gs.allocId + 1)
      (hhost : ∀ i ≠ gs.allocId, c'.host.resources i = c.host.resources i)
      (hnew : call.env.leavesNew = false → c'.host.Live gs.allocId → c.host.Live gs.allocId)
      (hevents : c'.events = .create gs.allocId (c.host.resources gs.allocId).isSome :: c.events) :
      FrameSet gs call c c'
  | published (hpublishes : gs.Publishes call) {gs' : GpuState} (hgs : c'.gs = some gs')
      (hothers : gs'.SameOtherwise gs) (hnext : gs'.nextResourceId = gs.allocId + 1)
      (hmem : gs'.fbMem ≠ 0) (hid : gs'.fbResourceId = gs.allocId)
      (hhost : c'.host =
        (c.host.switched gs.allocId call.mi.width.toUInt32 call.mi.height.toUInt32).dropped
          gs.fbResourceId call.env.unrefOld)
      (hevents : c'.events = .create gs.allocId (c.host.resources gs.allocId).isSome :: c.events) :
      FrameSet gs call c c'

theorem chipSetGC_frame (call : GcCall) {gs : GpuState} {c : CardState} (hstate : c.gs = some gs) :
    FrameSet gs call c (chipSetGC call.mi call.env c).2 := by
  have hcases := chipSetGC_cases call.mi call.env hstate
  generalize (chipSetGC call.mi call.env c).2 = c' at hcases
  have hmode : (gs.withMode call.mi).KeepsFrame gs := ⟨.withMode gs _, rfl, rfl, rfl, rfl⟩
  have hrefreshed (gs' : GpuState) (h : gs'.KeepsFrame gs) : gs'.withCursorRefresh.KeepsFrame gs :=
    ⟨(GpuState.SameOtherwise.withCursorRefresh gs').trans h.others, h.fbMem, h.fbSize,
      h.resourceId, h.fbResourceId⟩
  cases hcases with
  | unchanged hsame =>
      refine .unsent (fun hdraws => ?_) hstate ⟨.refl gs, rfl, rfl, rfl, rfl⟩ rfl rfl rfl
      exact (gs.dimsChanged_iff _).mp hdraws.1.1 ⟨hsame.1, hsame.2.1⟩
  | format hsame hdims => exact .unsent (fun hdraws => hdims hdraws.1) rfl hmode rfl rfl rfl
  | @resized hasks r _ hresized hgs =>
      have hothers : r.2.withCursorRefresh.SameOtherwise gs :=
        ((GpuState.SameOtherwise.withCursorRefresh _).trans hresized.sameOtherwise).trans
          (.withMode gs call.mi)
      generalize hhost : c'.host = host' at hresized
      generalize hevents : c'.events = events' at hresized
      cases hresized with
      | zero hdims =>
          refine .unsent (fun hdraws => ?_) hgs (hrefreshed _ hmode) rfl hhost hevents
          exact hdraws.2.1.1 hdims
      | same hdims hsame =>
          refine .unsent (fun hdraws => ?_) hgs (hrefreshed _ hmode) rfl hhost hevents
          exact hdraws.2.1.2 hsame
      | memory hneeds hmemory =>
          refine .unsent (fun hdraws => ?_) hgs (hrefreshed _ hmode) rfl hhost hevents
          exact absurd hdraws.2.2 (by simp [hmemory])
      | command hneeds hmemory hswitches hkept hnew =>
          refine .dropped (fun hpub => ?_) ⟨hasks, hneeds, hmemory⟩ hgs
            ⟨hothers, rfl, rfl, rfl, rfl⟩ rfl (fun i hi => hhost ▸ hkept i hi)
            (fun hleaves => hhost ▸ hnew hleaves) hevents
          exact absurd hpub.2.2 (by simp [hswitches])
      | published hneeds hmemory hswitches hmem =>
          exact .published ⟨hasks, hneeds, by simp [hmemory, hswitches]⟩ hgs hothers rfl hmem rfl
            hhost hevents

end VirtIOGPU.Card
