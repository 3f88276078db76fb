import VirtIOGPU.Card.Mode

/-!
# The card after `chip_InitCard_C`

When the function returns `TRUE`, the state is published and agrees with the host.  What the
later results need of this is collected in `Ready`; it is followed from the last part of the
function back to the first.  `Sees` is the part of the card that only commands change, `Block`
a block of memory that nobody has released.

## Strategy

Two predicates on programs say what a part leaves alone, each closed under `bind` and `ite`:

```text
predicate   the program leaves alone             holds of
Quiet       host, history and g_chip_state       everything that sends no command
Keeps       every block of memory that is live   what obtains memory or sends commands
```

So each part of `chip_InitCard_C` needs its own lemma for what it adds only.  The last part,
`initBoard`, publishes the state and establishes `Ready`; from there on backwards a part shows
that it hands on what the next one requires, or returns `FALSE` (`ready_of_false`).
-/

namespace VirtIOGPU.Card

open Lib Lib.Hoare

/-! ## Calls that send no command -/

/-- Host, history of the commands and `g_chip_state`. -/
structure Sees (host : Host) (events : List GpuEvent) (c : CardState) : Prop where
  host : c.host = host
  events : c.events = events

/-- The program changes the ledger of the system calls at most. -/
structure Quiet {α : Type} (m : Driver α) : Prop where
  host : ∀ c, (m c).2.host = c.host
  events : ∀ c, (m c).2.events = c.events
  gs : ∀ c, (m c).2.gs = c.gs

namespace Quiet

variable {α β : Type} {m : Driver α}

theorem sees (h : Quiet m) (host : Host) (events : List GpuEvent) :
    Triple (Sees host events) m fun _ => Sees host events :=
  fun c hc => ⟨(h.host c).trans hc.host, (h.events c).trans hc.events⟩

theorem ret (a : α) : Quiet (pure a : Driver α) := ⟨fun _ => rfl, fun _ => rfl, fun _ => rfl⟩

theorem bind {k : α → Driver β} (hm : Quiet m) (hk : ∀ a, Quiet (k a)) : Quiet (m >>= k) where
  host c := ((hk _).host _).trans (hm.host c)
  events c := ((hk _).events _).trans (hm.events c)
  gs c := ((hk _).gs _).trans (hm.gs c)

theorem ite {p : Prop} [Decidable p] {m' : Driver α} (h : Quiet m) (h' : Quiet m') :
    Quiet (if p then m else m') := by
  split
  exacts [h, h']

theorem onlyIf {p : Prop} [Decidable p] {m : Driver PUnit} (h : Quiet m) : Quiet (onlyIf p m) :=
  ite h (ret _)

theorem forM {γ : Type} {f : γ → Driver PUnit} (l : List γ) (h : ∀ a, Quiet (f a)) :
    Quiet (l.forM f) := by
  induction l with
  | nil => exact ret _
  | cons a rest ih => exact bind (h a) fun _ => ih

theorem obtain (resource : ℕ → Resource) (ok : Bool) : Quiet (obtain resource ok) :=
  ite ⟨fun _ => rfl, fun _ => rfl, fun _ => rfl⟩ (ret 0)

theorem allocVec (size : UInt32) (ok : Bool) : Quiet (allocVec size ok) :=
  ite ⟨fun _ => rfl, fun _ => rfl, fun _ => rfl⟩ (ret 0)

theorem giveBack (resource : Resource) : Quiet (giveBack resource) :=
  ⟨fun _ => rfl, fun _ => rfl, fun _ => rfl⟩

theorem startDma (mem : ℕ) (size count : UInt32) : Quiet (startDma mem size count) :=
  bind (onlyIf ⟨fun _ => rfl, fun _ => rfl, fun _ => rfl⟩) fun _ => ret _

theorem chipDmaFree (mem : ℕ) (size : UInt32) : Quiet (chipDmaFree mem size) :=
  onlyIf (bind (giveBack _) fun _ => giveBack _)

theorem chipDmaAlloc (size : UInt32) (a : DmaAnswer) : Quiet (chipDmaAlloc size a) :=
  bind (allocVec size a.mem) fun mem => ite (ret 0) <|
    bind (startDma mem size a.count) fun _ => ite (bind (giveBack _) fun _ => ret 0) <|
    bind (obtain _ _) fun _ =>
      ite (bind (giveBack _) fun _ => bind (giveBack _) fun _ => ret 0) <|
    bind (giveBack _) fun _ => ret mem

theorem chipImmuUpdate (ok : Bool) : Quiet (chipImmuUpdate ok) :=
  bind (obtain _ _) fun _ => ite (giveBack _) (ret _)

theorem chipScanBars (answers : ℕ → BarAnswer) : Quiet (chipScanBars answers) :=
  forM _ fun _ => bind (obtain _ _) fun _ =>
    ite (bind (onlyIf (chipImmuUpdate _)) fun _ => giveBack _) (ret _)

theorem virtQueueFree (q : Option Vring) : Quiet (virtQueueFree q) := by
  cases q with
  | none => exact ret _
  | some vq =>
      exact bind (onlyIf (giveBack _)) fun _ => bind (onlyIf (giveBack _)) fun _ =>
        bind (onlyIf (giveBack _)) fun _ => bind (onlyIf (giveBack _)) fun _ => giveBack _

theorem virtQueueAllocate (queueSize : UInt32) (a : VringAnswer) :
    Quiet (virtQueueAllocate queueSize a) :=
  bind (allocVec _ _) fun _ => ite (ret none) <|
    bind (allocVec _ _) fun _ => ite (bind (giveBack _) fun _ => ret none) <|
    bind (allocVec _ _) fun _ =>
      ite (bind (giveBack _) fun _ => bind (giveBack _) fun _ => ret none) <|
    bind (allocVec _ _) fun _ =>
      ite (bind (giveBack _) fun _ => bind (giveBack _) fun _ => bind (giveBack _) fun _ =>
          ret none)
        (ret _)

theorem setupQueue (queueSize : UInt32) (a : VringAnswer) : Quiet (setupQueue queueSize a) := by
  refine bind (virtQueueAllocate queueSize a) fun q => ?_
  cases q with
  | none => exact ret none
  | some vq =>
      exact bind (startDma _ _ _) fun _ => ite (bind (virtQueueFree _) fun _ => ret none) <|
        bind (obtain _ _) fun _ =>
          ite (bind (giveBack _) fun _ => bind (virtQueueFree _) fun _ => ret none) <|
        bind (giveBack _) fun _ => ret _

theorem chipIrqInstall (gs : GpuState) (a : IrqAnswer) : Quiet (chipIrqInstall gs a) :=
  ite (ret gs) <| ite (ret gs) <|
    bind ⟨fun _ => rfl, fun _ => rfl, fun _ => rfl⟩ fun _ => ret _

end Quiet

/-! ## Blocks of memory -/

/-- Block `n` was handed out with this size and is not released. -/
structure Block (n : ℕ) (size : UInt32) (c : CardState) : Prop where
  handle : n ≤ c.handles
  live : Resource.block n ∈ c.sys.live
  size : c.size n = size

/-- The program releases no block of memory. -/
def Keeps {α : Type} (m : Driver α) : Prop :=
  ∀ n size, Triple (Block n size) m fun _ => Block n size

namespace Keeps

variable {α β : Type} {m : Driver α}

theorem ret (a : α) : Keeps (pure a : Driver α) := fun _ _ => Triple.ret fun _ hc => hc

theorem bind {k : α → Driver β} (hm : Keeps m) (hk : ∀ a, Keeps (k a)) : Keeps (m >>= k) :=
  fun n size => Triple.bind (hm n size) fun a => hk a n size

theorem ite {p : Prop} [Decidable p] {m' : Driver α} (h : Keeps m) (h' : Keeps m') :
    Keeps (if p then m else m') :=
  fun n size => Triple.ite (fun _ => h n size) fun _ => h' n size

theorem onlyIf {p : Prop} [Decidable p] {m : Driver PUnit} (h : Keeps m) : Keeps (onlyIf p m) :=
  ite h (ret _)

theorem obtain (resource : ℕ → Resource) (ok : Bool) : Keeps (obtain resource ok) := by
  refine ite (fun n size => Triple.transition fun c hc => ?_) (ret 0)
  exact ⟨hc.handle.trans (Nat.le_succ _), Multiset.mem_cons_of_mem hc.live, hc.size⟩

theorem startDma (mem : ℕ) (size count : UInt32) : Keeps (startDma mem size count) := by
  refine bind (onlyIf fun n size => Triple.update fun c hc => ?_) fun _ => ret _
  exact ⟨hc.handle, Multiset.mem_cons_of_mem hc.live, hc.size⟩

theorem gpuCommand (effect : Host → Host) (answer : GpuAnswer) :
    Keeps (gpuCommand effect answer) := by
  refine fun n size => Triple.transition fun c hc => ?_
  cases answer <;> exact ⟨hc.handle, hc.live, hc.size⟩

theorem createCommand (id : UInt32) (resource : GpuResource) (answer : GpuAnswer) :
    Keeps (createCommand id resource answer) :=
  bind (fun _ _ => Triple.update fun _ hc => ⟨hc.handle, hc.live, hc.size⟩) fun _ =>
    gpuCommand _ _

theorem setScanoutAttempts (s : Scanout) (answers : ℕ → GpuAnswer) (n : ℕ) :
    Keeps (setScanoutAttempts s answers n) := by
  induction n with
  | zero => exact ret false
  | succ n ih => exact bind (gpuCommand _ _) fun _ => ite (ret true) ih

theorem chipTransferToHost2D (gs : GpuState) (resourceId : UInt32) (answer : GpuAnswer) :
    Keeps (chipTransferToHost2D gs resourceId answer) :=
  ite (fun _ _ => Triple.transition fun _ hc => ⟨hc.handle, hc.live, hc.size⟩) (gpuCommand _ _)

end Keeps

theorem giveBack_block {r : Resource} {n : ℕ} {size : UInt32} (hne : Resource.block n ≠ r) :
    Triple (Block n size) (giveBack r) fun _ => Block n size := by
  refine Triple.update fun c hc => ⟨hc.handle, ?_, hc.size⟩
  change _ ∈ (Ledger.release c.sys r).live
  unfold Ledger.release
  split
  · exact (Multiset.mem_erase_of_ne hne).mpr hc.live
  · exact hc.live

theorem chipImmuUpdate_block (ok : Bool) (n : ℕ) (size : UInt32) :
    Triple (Block n size) (chipImmuUpdate ok) fun _ => Block n size :=
  Triple.bind (Keeps.obtain _ _ n size) fun _ =>
    Triple.onlyIf (fun _ => giveBack_block (by simp)) fun _ _ hc => hc

/-- The block that `AllocVecTags` hands out is none of those that exist. -/
theorem allocVec_block (size : UInt32) (ok : Bool) (n : ℕ) (size' : UInt32) :
    Triple (Block n size') (allocVec size ok) fun m c =>
      Block n size' c ∧ (m ≠ 0 → m ≠ n) := by
  unfold allocVec
  refine Triple.ite (fun _ => Triple.transition fun c hc => ?_) fun _ =>
    Triple.ret fun c hc => ⟨hc, fun h => absurd rfl h⟩
  have hne : c.handles + 1 ≠ n := by
    have hle := hc.handle
    omega
  refine ⟨⟨hc.handle.trans (Nat.le_succ _), Multiset.mem_cons_of_mem hc.live, ?_⟩, fun _ => hne⟩
  exact (Function.update_of_ne (Ne.symm hne) _ _).trans hc.size

theorem allocVec_new (size : UInt32) (ok : Bool) (P : CardState → Prop) :
    Triple P (allocVec size ok) fun m c => (m ≠ 0 ↔ ok = true) ∧ (m ≠ 0 → Block m size c) := by
  unfold allocVec
  refine Triple.ite (fun hok => Triple.transition fun c _ => ?_) fun hok =>
    Triple.ret fun c _ => ⟨by simp [hok], fun h => absurd rfl h⟩
  refine ⟨by simp [hok], fun _ => ⟨Nat.le_refl _, Multiset.mem_cons_self _ _, ?_⟩⟩
  exact Function.update_self ..

/-! ## Commands -/

variable {host : Host} {events : List GpuEvent}

/-- The host after a command. -/
def GpuAnswer.applied (answer : GpuAnswer) (before after : Host) : Host :=
  match answer with
  | .refused => before
  | _ => after

theorem gpuCommand_sees (effect : Host → Host) (answer : GpuAnswer) :
    Triple (Sees host events) (gpuCommand effect answer) fun ok c =>
      (ok = true ↔ answer = .done) ∧ Sees (answer.applied host (effect host)) events c := by
  refine Triple.transition fun c hc => ?_
  obtain ⟨rfl, rfl⟩ := hc
  cases answer <;> exact ⟨by simp, rfl, rfl⟩

/-- A command without an effect that is modelled. -/
theorem idCommand_sees (answer : GpuAnswer) :
    Triple (Sees host events) (gpuCommand id answer) fun ok c =>
      (ok = true ↔ answer = .done) ∧ Sees host events c :=
  (gpuCommand_sees id answer).strengthen fun _ _ h => ⟨h.1, by cases answer <;> exact h.2⟩

theorem createCommand_sees (id : UInt32) (resource : GpuResource) (answer : GpuAnswer) :
    Triple (Sees host events) (createCommand id resource answer) fun ok c =>
      (ok = true ↔ answer = .done) ∧
        Sees (answer.applied host (host.create id resource))
          (.create id (host.resources id).isSome :: events) c := by
  refine Triple.bind (R := fun _ => Sees host (.create id (host.resources id).isSome :: events))
    (Triple.update fun c hc => ?_) fun _ => gpuCommand_sees _ _
  obtain ⟨rfl, rfl⟩ := hc
  exact ⟨rfl, rfl⟩

/-- One of the attempts succeeds. -/
def Shows (answers : ℕ → GpuAnswer) : ℕ → Bool
  | 0 => false
  | n + 1 => answers n == .done || Shows answers n

/-- After the attempts the host shows the scanout, or what it showed before if all of them
failed. -/
theorem setScanoutAttempts_sees (s : Scanout) (answers : ℕ → GpuAnswer) (n : ℕ) :
    Triple (Sees host events) (setScanoutAttempts s answers n) fun ok c =>
      ok = Shows answers n ∧
        ((ok = false ∧ Sees host events c) ∨ Sees (host.setScanout s) events c) := by
  induction n generalizing host with
  | zero => exact Triple.ret fun c hc => ⟨rfl, Or.inl ⟨rfl, hc⟩⟩
  | succ n ih =>
      refine Triple.bind (gpuCommand_sees _ (answers n)) fun ok => Triple.fact fun hok => ?_
      refine Triple.ite (fun h => Triple.ret fun c hc => ?_) fun h => ?_
      · rw [hok.mp h] at hc
        exact ⟨by simp [Shows, hok.mp h], Or.inr hc⟩
      · have hne : answers n ≠ .done := fun hdone => h (hok.mpr hdone)
        have hlater : Shows answers (n + 1) = Shows answers n := by simp [Shows, hne]
        rw [hlater]
        cases hanswer : answers n with
        | done => exact absurd hanswer hne
        | refused => exact ih
        | lost =>
            refine ih.strengthen fun ok c hc => ⟨hc.1, Or.inr ?_⟩
            rcases hc.2 with ⟨-, hc⟩ | hc <;> exact hc

/-! ## Skipped transfers -/

/-- A transfer without a command was asked for a blob in guest memory. -/
def GpuEvent.SkipSound : GpuEvent → Prop
  | .create _ _ => True
  | .skipped _ resource => resource.any GpuResource.isBlobGuest = true

instance : DecidablePred GpuEvent.SkipSound
  | .create _ _ => isTrue trivial
  | .skipped _ resource =>
      inferInstanceAs (Decidable (resource.any GpuResource.isBlobGuest = true))

/-- `fb_is_blob` says the truth about `fb_resource_id`, and all skipped transfers were sound. -/
structure BlobSound (gs : GpuState) (host : Host) (events : List GpuEvent) : Prop where
  flag : gs.fbIsBlob = true →
    (host.resources gs.fbResourceId).any GpuResource.isBlobGuest = true
  skips : ∀ e ∈ events, e.SkipSound

theorem chipTransferToHost2D_blobSound {gs : GpuState} (resourceId : UInt32) (answer : GpuAnswer)
    (h : BlobSound gs host events) :
    Triple (Sees host events) (chipTransferToHost2D gs resourceId answer) fun _ c =>
      c.host = host ∧ BlobSound gs c.host c.events := by
  refine Triple.ite (fun hskip => Triple.transition fun c hc => ?_) fun _ => ?_
  · obtain ⟨rfl, rfl⟩ := hc
    refine ⟨rfl, h.flag, fun e he => ?_⟩
    rcases List.mem_cons.mp he with rfl | he
    · have hblob := h.flag hskip.1
      rwa [← hskip.2] at hblob
    · exact h.skips e he
  · refine (idCommand_sees answer).strengthen fun _ c hc => ?_
    obtain ⟨rfl, rfl⟩ := hc.2
    exact ⟨rfl, h⟩

/-! ## The last parts of `chip_InitCard_C` -/

/-- What the early parts leave at zero. -/
def GpuState.Blank (gs : GpuState) : Prop :=
  gs.doubleBuffer = false ∧ gs.fbMem2 = 0 ∧ gs.fbResourceId2 = 0 ∧ gs.cursorResourceId = 0 ∧
    gs.cursorCreated = false ∧ gs.dpmsLevel = 0 ∧ gs.virgl2dReady = false

/-- The published state agrees with the host, and its memory is there. -/
structure Ready (gs : GpuState) (c : CardState) : Prop where
  state : c.gs = some gs
  blank : gs.Blank
  resourceId : gs.resourceId = gs.fbResourceId
  fbResourceId : gs.fbResourceId = 1
  width : gs.fbWidth = gs.activeWidth
  height : gs.fbHeight = gs.activeHeight
  width_ne : gs.activeWidth ≠ 0
  height_ne : gs.activeHeight ≠ 0
  fbMem : gs.fbMem ≠ 0
  blob : BlobSound gs c.host c.events
  scanout : c.host.scanout = some ⟨1, 0, 0, gs.activeWidth, gs.activeHeight⟩
  fbBlock : Block gs.fbMem gs.fbSize c
  boardBlock : Block gs.boardMem gs.boardMemSize c
  memoryBase : c.memoryBase = gs.boardMem
  memorySize : c.memorySize = gs.boardMemSize

theorem InitEnv.mode_ne_zero (env : InitEnv) : env.mode.1 ≠ 0 ∧ env.mode.2 ≠ 0 := by
  have husable (answer : Option (UInt32 × UInt32)) (m : UInt32 × UInt32)
      (h : m ∈ answer.filter fun m => m.1 > 0 && m.2 > 0) : m.1 ≠ 0 ∧ m.2 ≠ 0 := by
    have hpos : 0 < m.1 ∧ 0 < m.2 := by simpa using (Option.mem_filter_iff.mp h).2
    exact ⟨fun h0 => by simp [h0] at hpos, fun h0 => by simp [h0] at hpos⟩
  unfold InitEnv.mode
  dsimp only
  cases hedid : env.edid.filter fun m => m.1 > 0 && m.2 > 0 with
  | some m => exact husable _ m hedid
  | none =>
      cases hinfo : env.displayInfo.filter fun m => m.1 > 0 && m.2 > 0 with
      | some m => exact husable _ m hinfo
      | none => exact ⟨by decide, by decide⟩

/-- The state before `initBoard` is complete but for board memory and the screen. -/
structure Shown (mode : UInt32 × UInt32) (gs : GpuState) (c : CardState) : Prop where
  blob : BlobSound gs c.host c.events
  scanout : c.host.scanout = some ⟨1, 0, 0, mode.1, mode.2⟩

theorem Quiet.shown {α : Type} {m : Driver α} (h : Quiet m) (mode : UInt32 × UInt32)
    (gs : GpuState) : Triple (Shown mode gs) m fun _ => Shown mode gs := by
  refine fun c hc => ⟨?_, (congrArg Host.scanout (h.host c)).trans hc.scanout⟩
  rw [h.host c, h.events c]
  exact hc.blob

theorem BlobSound.setScanout {gs : GpuState} (h : BlobSound gs host events) (s : Scanout) :
    BlobSound gs (host.setScanout s) events :=
  ⟨h.flag, h.skips⟩

theorem chipSetScanout_shown {mode : UInt32 × UInt32} {gs : GpuState} (hid : gs.resourceId = 1)
    (answers : ℕ → GpuAnswer) :
    Triple (fun c => BlobSound gs c.host c.events)
      (chipSetScanout gs.resourceId 0 0 mode.1 mode.2 answers)
      fun ok c => ok = true → Shown mode gs c := by
  intro c hc hok
  obtain ⟨-, hfailed | hsees⟩ := setScanoutAttempts_sees ⟨gs.resourceId, 0, 0, mode.1, mode.2⟩
    answers 3 c ⟨rfl, rfl⟩
  · exact absurd hok (by simp only [chipSetScanout, hfailed.1, Bool.false_eq_true, not_false_iff])
  · have hhost := hsees.host
    have hevents := hsees.events
    refine ⟨?_, ?_⟩
    · simp only [chipSetScanout, hhost, hevents]
      exact hc.setScanout _
    · refine (congrArg Host.scanout hhost).trans ?_
      rw [hid]
      rfl

theorem chipTransferToHost2D_shown (mode : UInt32 × UInt32) (gs : GpuState) (id : UInt32)
    (answer : GpuAnswer) :
    Triple (Shown mode gs) (chipTransferToHost2D gs id answer) fun _ => Shown mode gs := by
  intro c hc
  obtain ⟨hhost, hblob⟩ := chipTransferToHost2D_blobSound id answer hc.blob c ⟨rfl, rfl⟩
  exact ⟨hblob, (congrArg Host.scanout hhost).trans hc.scanout⟩

theorem chipResourceFlush_shown (mode : UInt32 × UInt32) (gs : GpuState) (answer : GpuAnswer) :
    Triple (Shown mode gs) (chipResourceFlush answer) fun _ => Shown mode gs :=
  Triple.transition fun c hc => by cases answer <;> exact hc

/-- The fields that `withBoardMem` does not assign. -/
theorem withBoardMem_fields (gs : GpuState) (mem : ℕ) :
    ((gs.withBoardMem mem).Blank ↔ gs.Blank) ∧
    (gs.withBoardMem mem).resourceId = gs.resourceId ∧
    (gs.withBoardMem mem).fbResourceId = gs.fbResourceId ∧
    (gs.withBoardMem mem).fbMem = gs.fbMem ∧ (gs.withBoardMem mem).fbSize = gs.fbSize ∧
    (gs.withBoardMem mem).fbWidth = gs.fbWidth ∧ (gs.withBoardMem mem).fbHeight = gs.fbHeight ∧
    (gs.withBoardMem mem).fbIsBlob = gs.fbIsBlob := by
  unfold GpuState.withBoardMem
  split <;> exact ⟨Iff.rfl, rfl, rfl, rfl, rfl, rfl, rfl, rfl⟩

/-- Board memory is there: the new block, or the frame buffer. -/
theorem withBoardMem_block {gs : GpuState} {mem : ℕ} {c : CardState}
    (hfb : Block gs.fbMem gs.fbSize c) (hmem : mem ≠ 0 → Block mem boardMemBytes c) :
    Block (gs.withBoardMem mem).boardMem (gs.withBoardMem mem).boardMemSize c := by
  unfold GpuState.withBoardMem
  split
  · exact hfb
  · exact hmem ‹_›

theorem initBoard_ready {env : InitEnv} {gs : GpuState} (hblank : gs.Blank)
    (hid : gs.resourceId = 1 ∧ gs.fbResourceId = 1) (hmem : gs.fbMem ≠ 0)
    (hdims : gs.fbWidth = env.mode.1 ∧ gs.fbHeight = env.mode.2) :
    Triple (fun c => Shown env.mode gs c ∧ Block gs.fbMem gs.fbSize c) (initBoard env gs)
      fun _ c => ∃ gs', Ready gs' c := by
  unfold initBoard
  -- neither the board memory nor the mutex touches the host or the frame buffer
  have halloc : Triple (fun c => Shown env.mode gs c ∧ Block gs.fbMem gs.fbSize c)
      (allocVec boardMemBytes env.boardMem) fun mem c =>
        Shown env.mode gs c ∧ Block gs.fbMem gs.fbSize c ∧
          Block (gs.withBoardMem mem).boardMem (gs.withBoardMem mem).boardMemSize c := by
    intro c hc
    have hfb := (allocVec_block boardMemBytes env.boardMem _ _ c hc.2).1
    have hnew := (allocVec_new boardMemBytes env.boardMem (fun _ => True) c trivial).2
    exact ⟨(Quiet.allocVec _ _).shown _ _ c hc.1, hfb, withBoardMem_block hfb hnew⟩
  refine Triple.bind halloc fun mem => ?_
  have hmutex : Triple (fun c => Shown env.mode gs c ∧ Block gs.fbMem gs.fbSize c ∧
        Block (gs.withBoardMem mem).boardMem (gs.withBoardMem mem).boardMemSize c)
      (allocMutex env.vsyncMutex) fun _ c => Shown env.mode gs c ∧ Block gs.fbMem gs.fbSize c ∧
        Block (gs.withBoardMem mem).boardMem (gs.withBoardMem mem).boardMemSize c :=
    ((Quiet.obtain _ _).shown _ _).and ((Keeps.obtain _ _ _ _).and (Keeps.obtain _ _ _ _))
  refine Triple.bind hmutex fun vsync => ?_
  obtain ⟨hblank', hid₁, hid₂, hmem', hsize', hwidth', hheight', hblob'⟩ :=
    withBoardMem_fields gs mem
  refine Triple.bind (R := fun _ c => ∃ gs', Ready gs' c) (Triple.update fun c hc => ?_) fun _ =>
    Triple.ret fun c hc => hc
  -- the last assignment publishes `g_chip_state`
  obtain ⟨hshown, hfb, hboard⟩ := hc
  refine ⟨(gs.withBoardMem mem).withScreen env.mode vsync,
    { state := rfl
      blank := hblank'.mpr hblank
      resourceId := ?_
      fbResourceId := hid₂.trans hid.2
      width := hwidth'.trans hdims.1
      height := hheight'.trans hdims.2
      width_ne := env.mode_ne_zero.1
      height_ne := env.mode_ne_zero.2
      fbMem := ?_
      blob := ⟨?_, hshown.blob.skips⟩
      scanout := hshown.scanout
      fbBlock := ?_
      boardBlock := ⟨hboard.handle, hboard.live, hboard.size⟩
      memoryBase := rfl
      memorySize := rfl }⟩
  · exact (hid₁.trans hid.1).trans (hid₂.trans hid.2).symm
  · exact fun h0 => hmem (hmem'.symm.trans h0)
  · intro hflag
    change (c.host.resources (gs.withBoardMem mem).fbResourceId).any _ = true
    rw [hid₂]
    exact hshown.blob.flag (hblob'.symm.trans hflag)
  · change Block (gs.withBoardMem mem).fbMem (gs.withBoardMem mem).fbSize _
    rw [hmem', hsize']
    exact ⟨hfb.handle, hfb.live, hfb.size⟩

/-- After a label there is nothing to show. -/
theorem ready_of_false {m : Driver Bool} {P : CardState → Prop}
    (h : Triple P m fun ok _ => ok = false) :
    Triple P m fun ok c => ok = true → ∃ gs, Ready gs c :=
  h.strengthen fun _ _ hfalse htrue => by simp [hfalse] at htrue

/-- The transfers skipped so far were sound. -/
def SkipsSound (c : CardState) : Prop := ∀ e ∈ c.events, e.SkipSound

theorem Quiet.skipsSound {α : Type} {m : Driver α} (h : Quiet m) :
    Triple SkipsSound m fun _ => SkipsSound :=
  fun c hc e he => hc e (h.events c ▸ he)

theorem gpuCommand_skipsSound (effect : Host → Host) (answer : GpuAnswer) :
    Triple SkipsSound (gpuCommand effect answer) fun _ => SkipsSound :=
  Triple.transition fun c hc => by cases answer <;> exact hc

theorem createCommand_skipsSound (id : UInt32) (resource : GpuResource) (answer : GpuAnswer) :
    Triple SkipsSound (createCommand id resource answer) fun ok c =>
      SkipsSound c ∧ (ok = true → c.host.resources id = some resource) := by
  intro c hc
  have hstart : Sees c.host c.events c := ⟨rfl, rfl⟩
  have hsees := createCommand_sees id resource answer c hstart
  refine ⟨fun e he => ?_, fun hok => ?_⟩
  · rw [hsees.2.events] at he
    rcases List.mem_cons.mp he with rfl | he
    · trivial
    · exact hc e he
  · rw [hsees.2.host, hsees.1.mp hok]
    exact Function.update_self ..

theorem initFbResource_blobSound (env : InitEnv) (gs : GpuState) :
    Triple SkipsSound (initFbResource env gs) fun r c =>
      (r.2 = gs.withFbId 1 ∨ r.2 = (gs.withFbId 1).withBlob) ∧ BlobSound r.2 c.host c.events := by
  unfold initFbResource
  refine Triple.bind (R := fun ok c => SkipsSound c ∧
    (ok = true → (c.host.resources 1).any GpuResource.isBlobGuest = true)) ?_ fun ok => ?_
  · refine Triple.ite (fun _ => ?_) fun _ => Triple.ret fun c hc => ⟨hc, by simp⟩
    refine (createCommand_skipsSound _ _ _).strengthen fun ok c hc => ⟨hc.1, fun hok => ?_⟩
    rw [hc.2 hok]
    rfl
  refine Triple.ite (fun hok => ?_) fun _ => ?_
  · exact Triple.ret fun c hc => ⟨Or.inr rfl, fun _ => hc.2 hok, hc.1⟩
  have hplain : ∀ c, SkipsSound c → BlobSound (gs.withFbId 1) c.host c.events :=
    fun c hc => ⟨fun h => absurd h (by simp [GpuState.withFbId]), hc⟩
  refine Triple.bind ((createCommand_skipsSound _ _ _).weaken fun _ hc => hc.1) fun created => ?_
  refine Triple.ite (fun _ => Triple.ret fun c hc => ⟨Or.inl rfl, hplain c hc.1⟩) fun _ => ?_
  refine Triple.bind ((gpuCommand_skipsSound _ _).weaken fun _ hc => hc.1) fun attached => ?_
  exact Triple.ret fun c hc => ⟨Or.inl rfl, hplain c hc⟩

theorem initFbResource_keeps (env : InitEnv) (gs : GpuState) : Keeps (initFbResource env gs) :=
  Keeps.bind (Keeps.ite (Keeps.createCommand _ _ _) (Keeps.ret _)) fun _ =>
    Keeps.ite (Keeps.ret _) <| Keeps.bind (Keeps.createCommand _ _ _) fun _ =>
      Keeps.ite (Keeps.ret _) <| Keeps.bind (Keeps.gpuCommand _ _) fun _ => Keeps.ret _

/-- Without a back buffer there is no second resource. -/
theorem initBackResource_eq {env : InitEnv} {gs : GpuState} (h : gs.fbMem2 = 0) :
    initBackResource env gs = pure gs := by
  unfold initBackResource
  exact if_pos h

theorem initScanout_ready {env : InitEnv} {l : Opened} {gs : GpuState} (hblank : gs.Blank)
    (hmem : gs.fbMem ≠ 0) (hdims : gs.fbWidth = env.mode.1 ∧ gs.fbHeight = env.mode.2) :
    Triple (fun c => SkipsSound c ∧ Block gs.fbMem gs.fbSize c) (initScanout env l gs)
      fun ok c => ok = true → ∃ gs', Ready gs' c := by
  unfold initScanout
  refine Triple.bind ((initFbResource_blobSound env gs).and (initFbResource_keeps env gs _ _))
    fun r => ?_
  obtain ⟨created, gs₁⟩ := r
  refine Triple.weaken (S := fun c => (gs₁ = gs.withFbId 1 ∨ gs₁ = (gs.withFbId 1).withBlob) ∧
    BlobSound gs₁ c.host c.events ∧ Block gs.fbMem gs.fbSize c) (Triple.fact fun hgs₁ => ?_)
    fun c hc => ⟨hc.1.1, hc.1.2, hc.2⟩
  have hfields : gs₁.Blank ∧ (gs₁.resourceId = 1 ∧ gs₁.fbResourceId = 1) ∧ gs₁.fbMem = gs.fbMem ∧
      gs₁.fbSize = gs.fbSize ∧ gs₁.fbWidth = gs.fbWidth ∧ gs₁.fbHeight = gs.fbHeight := by
    rcases hgs₁ with rfl | rfl <;> exact ⟨hblank, ⟨rfl, rfl⟩, rfl, rfl, rfl, rfl⟩
  obtain ⟨hblank₁, hid, hmem₁, hsize₁, hwidth₁, hheight₁⟩ := hfields
  refine Triple.ite (fun _ => ready_of_false fun _ _ => rfl) fun _ => ?_
  rw [initBackResource_eq hblank₁.2.1, pure_bind]
  refine Triple.bind ((chipSetScanout_shown hid.1 env.setScanout).and
    (Keeps.setScanoutAttempts _ _ _ _ _)) fun shown => ?_
  refine Triple.ite (fun _ => ready_of_false fun _ _ => rfl) fun hshown => ?_
  have hshown' : shown = true := by simpa using hshown
  refine Triple.bind (((chipTransferToHost2D_shown env.mode gs₁ _ _).and
    (Keeps.chipTransferToHost2D _ _ _ _ _)).weaken fun c hc => ⟨hc.1 hshown', hc.2⟩) fun _ => ?_
  refine Triple.bind ((chipResourceFlush_shown env.mode gs₁ _).and (Keeps.gpuCommand _ _ _ _))
    fun _ => ?_
  rw [← hmem₁, ← hsize₁]
  refine (initBoard_ready hblank₁ hid ?_ ⟨?_, ?_⟩).strengthen fun _ _ h _ => h
  · rwa [hmem₁]
  · exact hwidth₁.trans hdims.1
  · exact hheight₁.trans hdims.2

theorem initBackBuffer_false (env : InitEnv) (gs : GpuState) :
    initBackBuffer false env gs = pure gs := rfl

theorem initFramebuffer_ready {env : InitEnv} {l : Opened} {gs : GpuState} (hblank : gs.Blank) :
    Triple SkipsSound (initFramebuffer false env l gs)
      fun ok c => ok = true → ∃ gs', Ready gs' c := by
  have hmax : (if env.mode.1 ≠ 0 then env.mode.1 else 1280) = env.mode.1 ∧
      (if env.mode.2 ≠ 0 then env.mode.2 else 800) = env.mode.2 :=
    ⟨if_pos env.mode_ne_zero.1, if_pos env.mode_ne_zero.2⟩
  unfold initFramebuffer
  rw [hmax.1, hmax.2]
  have halloc : Triple SkipsSound (allocVec (gs.sized env.mode.1 env.mode.2).fbSize env.fbMem)
      fun mem c => SkipsSound c ∧ (mem ≠ 0 → Block mem (gs.sized env.mode.1 env.mode.2).fbSize c) :=
    ((((Quiet.allocVec _ _).skipsSound).and (allocVec_new _ _ fun _ => True)).weaken
      fun c hc => ⟨hc, trivial⟩).strengthen fun _ _ h => ⟨h.1, h.2.2⟩
  refine Triple.bind halloc fun mem => ?_
  refine Triple.ite (fun _ => ready_of_false fun _ _ => rfl) fun hmem => ?_
  refine Triple.weaken (S := fun c => SkipsSound c ∧
    Block mem (gs.sized env.mode.1 env.mode.2).fbSize c) ?_ fun c hc => ⟨hc.1, hc.2 hmem⟩
  refine Triple.bind ((Quiet.startDma _ _ _).skipsSound.and (Keeps.startDma _ _ _ _ _))
    fun count => ?_
  refine Triple.ite (fun _ => ready_of_false fun _ _ => rfl) fun _ => ?_
  refine Triple.bind ((Quiet.obtain _ _).skipsSound.and (Keeps.obtain _ _ _ _)) fun list => ?_
  refine Triple.ite (fun _ => ready_of_false fun _ _ => rfl) fun _ => ?_
  refine Triple.bind ((Quiet.chipImmuUpdate _).skipsSound.and (chipImmuUpdate_block _ _ _))
    fun _ => ?_
  rw [initBackBuffer_false, pure_bind]
  have hmapped : (((gs.sized env.mode.1 env.mode.2).withFbMem mem).withFbDma count list).Blank :=
    hblank
  exact initScanout_ready hmapped hmem ⟨rfl, rfl⟩

/-! ## The first parts -/

theorem chipVirtioInit_blank {gs : GpuState} (hblank : gs.Blank) (a : TransportAnswer) :
    Triple SkipsSound (chipVirtioInit gs a) fun r c => r.2.Blank ∧ SkipsSound c := by
  unfold chipVirtioInit
  refine Triple.bind (R := fun _ => SkipsSound) (Triple.update fun c hc => hc) fun _ => ?_
  refine Triple.ite (fun _ => Triple.ret fun c hc => ⟨hblank, hc⟩) fun _ => ?_
  refine Triple.ite (fun _ => Triple.ret fun c hc => ⟨hblank, hc⟩) fun _ => ?_
  refine Triple.bind (Quiet.setupQueue _ _).skipsSound fun q => ?_
  cases q with
  | none => exact Triple.ret fun c hc => ⟨hblank, hc⟩
  | some vq =>
      refine Triple.ite (fun _ => Triple.ret fun c hc => ⟨hblank, hc⟩) fun _ => ?_
      exact Triple.bind (Quiet.setupQueue _ _).skipsSound fun cq =>
        Triple.ret fun c hc => ⟨hblank, hc⟩

theorem chipIrqInstall_blank {gs : GpuState} (hblank : gs.Blank) (a : IrqAnswer) :
    Triple SkipsSound (chipIrqInstall gs a) fun gs' c => gs'.Blank ∧ SkipsSound c :=
  Triple.ite (fun _ => Triple.ret fun _ hc => ⟨hblank, hc⟩) fun _ =>
    Triple.ite (fun _ => Triple.ret fun _ hc => ⟨hblank, hc⟩) fun _ =>
    Triple.bind (Triple.update fun _ hc => hc) fun _ => Triple.ret fun _ hc => ⟨hblank, hc⟩

theorem setup3D_blank {gs : GpuState} (hblank : gs.Blank) (a : Cmd3dAnswer) :
    Triple SkipsSound (setup3D gs a) fun gs' c => gs'.Blank ∧ SkipsSound c := by
  unfold setup3D
  refine Triple.ite (fun _ => ?_) fun _ => Triple.ret fun c hc => ⟨hblank, hc⟩
  refine Triple.bind (Quiet.chipDmaAlloc _ _).skipsSound fun buf => ?_
  refine Triple.ite (fun _ => Triple.ret fun c hc => ⟨hblank, hc⟩) fun _ => ?_
  refine Triple.bind (Quiet.obtain _ _).skipsSound fun lock => ?_
  refine Triple.ite (fun _ => ?_) fun _ => Triple.ret fun c hc => ⟨hblank, hc⟩
  exact Triple.bind (Quiet.chipDmaFree _ _).skipsSound fun _ =>
    Triple.ret fun c hc => ⟨hblank, hc⟩

theorem initTransport_ready {env : InitEnv} {l : Opened} {gs : GpuState} (hblank : gs.Blank) :
    Triple SkipsSound (initTransport false env l gs)
      fun ok c => ok = true → ∃ gs', Ready gs' c := by
  refine Triple.bind (Quiet.chipDmaAlloc _ _).skipsSound fun cmdBuf => ?_
  refine Triple.ite (fun _ => ready_of_false fun _ _ => rfl) fun _ => ?_
  refine Triple.bind (Quiet.chipDmaAlloc _ _).skipsSound fun respBuf => ?_
  refine Triple.ite (fun _ => ready_of_false fun _ _ => rfl) fun _ => ?_
  refine Triple.bind (Quiet.chipDmaAlloc _ _).skipsSound fun cursorCmdBuf => ?_
  have hblank₁ : ((gs.withCmdBuf cmdBuf).withRespBufs respBuf cursorCmdBuf).Blank := hblank
  refine Triple.bind (chipVirtioInit_blank hblank₁ _) fun r => Triple.fact fun hblank₂ => ?_
  refine Triple.ite (fun _ => ready_of_false fun _ _ => rfl) fun _ => ?_
  refine Triple.bind (chipIrqInstall_blank hblank₂ _) fun gs₃ => Triple.fact fun hblank₃ => ?_
  refine Triple.bind (setup3D_blank hblank₃ _) fun gs₄ => Triple.fact fun hblank₄ => ?_
  exact initFramebuffer_ready hblank₄

theorem initState_ready (env : InitEnv) (l : Opened) :
    Triple SkipsSound (initState false env l) fun ok c => ok = true → ∃ gs', Ready gs' c := by
  refine Triple.bind (Quiet.allocVec _ _).skipsSound fun self => ?_
  refine Triple.ite (fun _ => ready_of_false fun _ _ => rfl) fun _ => ?_
  refine Triple.bind (Quiet.obtain _ _).skipsSound fun ioLock => ?_
  refine Triple.bind (Quiet.obtain _ _).skipsSound fun cursorLock => ?_
  refine Triple.bind (Quiet.obtain _ _).skipsSound fun allocMutex => ?_
  refine Triple.ite (fun _ => ready_of_false fun _ _ => rfl) fun _ => ?_
  refine Triple.bind (Quiet.chipScanBars _).skipsSound fun _ => ?_
  cases env.caps with
  | none => exact ready_of_false fun _ _ => rfl
  | some base => exact initTransport_ready ⟨rfl, rfl, rfl, rfl, rfl, rfl, rfl⟩

theorem chipInitCard_ready (env : InitEnv) :
    Triple SkipsSound (chipInitCard false env) fun ok c => ok = true → ∃ gs, Ready gs c := by
  unfold chipInitCard
  refine Triple.bind (Quiet.obtain _ _).skipsSound fun expBase => ?_
  refine Triple.ite (fun _ => ready_of_false fun _ _ => rfl) fun _ => ?_
  refine Triple.bind (Quiet.obtain _ _).skipsSound fun ipci => ?_
  refine Triple.ite (fun _ => ready_of_false fun _ _ => rfl) fun _ => ?_
  refine Triple.ite (fun _ => ready_of_false fun _ _ => rfl) fun _ => ?_
  refine Triple.ite (fun _ => ready_of_false fun _ _ => rfl) fun _ => ?_
  exact Triple.bind (Triple.update fun c hc => hc) fun _ => initState_ready env _

/-- The card that a successful `chip_InitCard_C` publishes. -/
theorem init_ready {env : InitEnv} (h : (chipInitCard false env .start).1 = true) :
    ∃ gs, Ready gs (chipInitCard false env .start).2 :=
  chipInitCard_ready env _ (fun _ he => absurd he (List.not_mem_nil)) h

end VirtIOGPU.Card
