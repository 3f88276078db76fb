import VirtIOGPU.Card.BoardMemory
import VirtIOGPU.Card.Unwind

/-!
# A resize happens as a whole or not at all

`chip_resize_fb_to_mode` obtains memory, a mapping, a list and a resource, and fails at any of
seven places.  Suppose that a command which returns `FALSE` has had no effect, and that
`RESOURCE_UNREF` succeeds.  Then a failure leaves everything as it was, and a success exchanges
the frame buffer as a whole; either way, what is given up is released once.

Three things are followed through the function separately: the ledger (`Held`), the host
(`Sees`) and the sizes of the blocks (`Sized`).

## Strategy

Each of the three gets one lemma per part (`switchResource`, `releaseOld`, `failDma`) and one for
the function; how the function ends is the list `Resized` of `Card.Resize`.

```text
outcome     ledger                         host                     fields
zero, same  as before                      as before                as before
memory      what was obtained is freed     as before                as before
command     the same, after fail_dma       create and unref cancel  as before, one id drawn
published   old frame buffer is released   new resource is shown    the new frame buffer
```

The assumption about the answers (`ResizeEnv.Definite`) is needed in the last two rows.  A command
that takes effect and returns `FALSE` would leave a resource or a scanout that nobody undoes, and
an old resource whose `RESOURCE_UNREF` fails would stay.
-/

namespace VirtIOGPU.Card

open Lib Lib.Hoare

/-- The id is not in use: a create command with it can succeed. -/
structure Host.Free (host : Host) (id : UInt32) : Prop where
  ne_zero : id ≠ 0
  resource : host.resources id = none
  scanout : ∀ s ∈ host.scanout, s.resourceId ≠ id

/-- Scanout 0 shows the resource. -/
def Host.ShowsId (host : Host) (id : UInt32) : Prop := ∃ s ∈ host.scanout, s.resourceId = id

instance (host : Host) (id : UInt32) : Decidable (host.ShowsId id) :=
  inferInstanceAs (Decidable (∃ s ∈ host.scanout, s.resourceId = id))

/-- A command that returns `FALSE` has had no effect, `RESOURCE_UNREF` succeeds, and the host
creates a resource under an id that is not in use only. -/
structure ResizeEnv.Definite (env : ResizeEnv) (host : Host) (id : UInt32) : Prop where
  create : env.create ≠ .lost
  attach : env.attach ≠ .lost
  setScanout : ∀ n, env.setScanout n ≠ .lost
  unrefNew : env.unrefNew = .done
  unrefOld : env.unrefOld = .done
  free : env.create = .done → host.Free id

/-- Memory, mapping and list of the frame buffer. -/
def frameBuffer (gs : GpuState) : Multiset Resource :=
  own gs.fbDmaList .dmaList + dmaBuffer gs.fbMem gs.fbSize

/-- The frame buffer fields are those of `gs`. -/
structure GpuState.SameFrame (gs' gs : GpuState) : Prop where
  fbMem : gs'.fbMem = gs.fbMem
  fbPhys : gs'.fbPhys = gs.fbPhys
  fbWidth : gs'.fbWidth = gs.fbWidth
  fbHeight : gs'.fbHeight = gs.fbHeight
  fbStride : gs'.fbStride = gs.fbStride
  fbSize : gs'.fbSize = gs.fbSize
  fbDmaCount : gs'.fbDmaCount = gs.fbDmaCount
  fbDmaList : gs'.fbDmaList = gs.fbDmaList
  resourceId : gs'.resourceId = gs.resourceId
  fbResourceId : gs'.fbResourceId = gs.fbResourceId

/-- The call creates a resource. -/
def GpuState.Creates (gs : GpuState) (w h : UInt32) (env : ResizeEnv) : Prop :=
  gs.NeedsResize w h ∧ env.memory = true ∧ env.create = .done

instance (gs : GpuState) (w h : UInt32) (env : ResizeEnv) : Decidable (gs.Creates w h env) :=
  inferInstanceAs (Decidable (_ ∧ _ ∧ _))

/-- The host with the ids added to the history of `RESOURCE_UNREF`. -/
def Host.afterUnrefs (host : Host) (ids : List UInt32) : Host :=
  { host with unrefs := ids ++ host.unrefs }

/-! ## The ledger -/

section Ledger

variable {all rest : Multiset Resource}

theorem switchResource_held (env : ResizeEnv) (id w h : UInt32) :
    Stable (Held all) (switchResource env id w h) := by
  have hundo : Stable (Held all) (do
      let _ ← chipResourceUnref id env.unrefNew
      return false) := Stable.bind (gpuCommand_held _ _) fun _ => Stable.ret false
  refine Stable.bind (createCommand_held _ _ _) fun _ => Stable.ite (Stable.ret false) ?_
  refine Stable.bind (gpuCommand_held _ _) fun _ => Stable.ite hundo ?_
  exact Stable.bind (setScanoutAttempts_held _ _ _) fun _ => Stable.ite hundo (Stable.ret true)

/-- The old frame buffer is given back, each part once. -/
theorem releaseOld_held (env : ResizeEnv) (gs : GpuState) :
    Triple (Held (frameBuffer gs + rest)) (releaseOld env gs) fun _ => Held rest := by
  have hunref : Stable (Held (frameBuffer gs + rest)) (onlyIf (gs.fbResourceId ≠ 0) do
      let _ ← chipResourceUnref gs.fbResourceId env.unrefOld) :=
    Stable.onlyIf (Stable.bind (gpuCommand_held _ _) fun _ => Stable.ret _)
  refine Triple.bind hunref fun _ => ?_
  rw [frameBuffer, add_assoc]
  exact Triple.bind giveBackIf_spec fun _ => chipDmaFree_spec _ _

/-- The label `fail_dma` gives back what the call has obtained. -/
theorem failDma_held (mem : ℕ) (size : UInt32) (list : ℕ) (gs : GpuState) :
    Triple (Held ({.dmaList list} + ({.dma mem size} + ({.block mem} + all))))
      (failDma mem size list gs) fun r c => r.1 = false ∧ Held all c :=
  Triple.bind (giveBack_spec _) fun _ => Triple.bind (giveBack_spec _) fun _ =>
    Triple.bind (giveBack_spec _) fun _ => Triple.ret fun _ hc => ⟨rfl, hc⟩

theorem chipResizeFbToMode_held (gs : GpuState) (w h : UInt32) (env : ResizeEnv) :
    Triple (Held all) (chipResizeFbToMode gs w h env) fun r c =>
      (r.1 = false → Held all c) ∧
        (r.1 = true → gs.NeedsResize w h → ∀ rest, all = frameBuffer gs + rest →
          Held (frameBuffer r.2 + rest) c) := by
  have hfails {r : Bool × GpuState} {c : CardState} (hr : r.1 = false) (hc : Held all c) :
      (r.1 = false → Held all c) ∧
        (r.1 = true → gs.NeedsResize w h → ∀ rest, all = frameBuffer gs + rest →
          Held (frameBuffer r.2 + rest) c) :=
    ⟨fun _ => hc, fun htrue => absurd (hr.symm.trans htrue) Bool.false_ne_true⟩
  unfold chipResizeFbToMode
  refine Triple.ite (fun _ => Triple.ret fun c hc => hfails rfl hc) fun hdims => ?_
  refine Triple.ite (fun hsame => Triple.ret fun c hc => ?_) fun hsame => ?_
  · exact ⟨fun _ => hc, fun _ hneeds => absurd hsame hneeds.2⟩
  -- block, mapping and list are added one by one, and each failure gives back those before it
  refine Triple.bind (allocVec_spec _ _) fun mem => Triple.fact fun _ => ?_
  refine Triple.ite (fun hnull => Triple.ret fun c hc => hfails rfl ?_) fun hmem => ?_
  · rw [hnull, own_zero, zero_add] at hc
    exact hc
  rw [own_of_ne hmem]
  refine Triple.bind (startDma_spec _ _ _) fun count => Triple.fact fun hcount => ?_
  subst hcount
  refine Triple.ite (fun hnull => ?_) fun hcount => ?_
  · rw [hnull, mapped_zero, zero_add]
    exact Triple.bind (giveBack_spec _) fun _ => Triple.ret fun c hc => hfails rfl hc
  rw [mapped_of_ne hcount]
  refine Triple.bind (obtain_spec _ _) fun list => Triple.fact fun _ => ?_
  refine Triple.ite (fun hnull => ?_) fun hlist => ?_
  · rw [hnull, own_zero, zero_add]
    exact Triple.bind (giveBack_spec _) fun _ => Triple.bind (giveBack_spec _) fun _ =>
      Triple.ret fun c hc => hfails rfl hc
  rw [own_of_ne hlist]
  refine Triple.bind (chipImmuUpdate_spec _) fun _ => ?_
  refine Triple.bind (switchResource_held _ _ _ _) fun switched => ?_
  refine Triple.ite (fun _ => ?_) fun _ => ?_
  · exact (failDma_held _ _ _ _).strengthen fun r c hc => hfails hc.1 hc.2
  · -- the old frame buffer is part of `all`
    intro c hc
    refine ⟨fun hfalse => absurd hfalse.symm Bool.false_ne_true, fun _ _ rest hall => ?_⟩
    -- the ledger, regrouped: the old buffer is released, the new one is that of the fields
    have hnew : {.dmaList list} + ({.dma mem (h * (w * 4))} + ({.block mem} + all)) =
        frameBuffer gs.idTaken + (frameBuffer (gs.idTaken.withFramebuffer mem w h env.count list
          gs.allocId) + rest) := by
      have hbuffer : frameBuffer (gs.idTaken.withFramebuffer mem w h env.count list gs.allocId) =
          {.dmaList list} + ({.dma mem (h * (w * 4))} + {.block mem}) := by
        change own list .dmaList + dmaBuffer mem (h * (w * 4)) = _
        rw [own_of_ne hlist, dmaBuffer_of_ne hmem]
      have hold : frameBuffer gs.idTaken = frameBuffer gs := rfl
      rw [hbuffer, hall, hold]
      abel
    rw [hnew] at hc
    exact releaseOld_held env gs.idTaken c hc

end Ledger

/-! ## The host -/

section Host

variable {host : Host} {events : List GpuEvent} {env : ResizeEnv}

/-- Creating a resource and dropping it again leaves no trace. -/
theorem Host.unref_create {id : UInt32} (hfree : host.Free id) (resource : GpuResource) :
    (host.create id resource).unref id = host.afterUnrefs [id] := by
  have hresources : Function.update (host.create id resource).resources id none =
      host.resources := by
    change Function.update (Function.update host.resources id (some resource)) id none = _
    rw [Function.update_idem, ← hfree.resource, Function.update_eq_self]
  have hscanout : host.scanout.filter (fun s => s.resourceId ≠ id) = host.scanout := by
    cases hshown : host.scanout with
    | none => rfl
    | some s => exact Option.filter_some_pos (decide_eq_true (hfree.scanout s hshown))
  unfold Host.unref
  rw [hresources]
  change Host.mk host.resources (host.scanout.filter _) host.contexts _ = _
  rw [hscanout]
  rfl

theorem gpuCommand_exact (effect : Host → Host) {answer : GpuAnswer} (hanswer : answer ≠ .lost) :
    Triple (fun c => c.host = host) (gpuCommand effect answer) fun ok c =>
      (ok = true ↔ answer = .done) ∧ c.host = if answer = .done then effect host else host := by
  refine Triple.transition fun c hc => ?_
  cases answer with
  | done => exact ⟨by simp, by rw [← hc]; rfl⟩
  | refused => exact ⟨by simp, hc⟩
  | lost => exact absurd rfl hanswer

/-- The attempts change the scanout if one of them succeeds. -/
theorem setScanoutAttempts_exact (s : Scanout) {answers : ℕ → GpuAnswer}
    (hanswers : ∀ n, answers n ≠ .lost) (n : ℕ) :
    Triple (fun c => c.host = host) (setScanoutAttempts s answers n) fun ok c =>
      ok = Shows answers n ∧
        c.host = if Shows answers n = true then host.setScanout s else host := by
  induction n with
  | zero => exact Triple.ret fun c hc => ⟨rfl, hc⟩
  | succ n ih =>
      refine Triple.bind (gpuCommand_exact _ (hanswers n)) fun ok => Triple.fact fun hok => ?_
      by_cases hdone : answers n = .done
      · have hshows : Shows answers (n + 1) = true := by simp [Shows, hdone]
        rw [if_pos hdone, hshows, if_pos rfl]
        refine Triple.ite (fun _ => Triple.ret fun c hc => ⟨rfl, hc⟩) fun hnot => ?_
        exact absurd (hok.mpr hdone) hnot
      · have hshows : Shows answers (n + 1) = Shows answers n := by simp [Shows, hdone]
        rw [if_neg hdone, hshows]
        exact Triple.ite (fun hyes => absurd (hok.mp hyes) hdone) fun _ => ih

/-- What a failure of the commands leaves on the host. -/
theorem switchResource_undone {id : UInt32} (w h : UInt32) (henv : env.Definite host id) :
    Triple (Sees host events) (switchResource env id w h) fun ok c =>
      ok = false → c.host = host.afterUnrefs (if env.create = .done then [id] else []) := by
  unfold switchResource
  refine Triple.bind (createCommand_sees _ _ _) fun created => Triple.fact fun hcreated => ?_
  refine Triple.ite (fun hnot => Triple.ret fun c hc _ => ?_) fun hok => ?_
  · have hcreate : env.create ≠ .done := fun hdone => by simp [hcreated.mpr hdone] at hnot
    rw [if_neg hcreate, hc.host]
    cases hanswer : env.create with
    | done => exact absurd hanswer hcreate
    | refused => rfl
    | lost => exact absurd hanswer henv.create
  have hcreate : env.create = .done := hcreated.mp (by simpa using hok)
  -- after the create command each failure drops the new resource
  have hundo (resource : GpuResource) : Triple (fun c => c.host = host.create id resource)
        (do let _ ← chipResourceUnref id env.unrefNew
            return false)
        fun ok c => ok = false →
          c.host = host.afterUnrefs (if env.create = .done then [id] else []) := by
    have hanswer : env.unrefNew ≠ .lost := by
      rw [henv.unrefNew]
      exact fun h => GpuAnswer.noConfusion h
    refine Triple.bind (gpuCommand_exact _ hanswer) fun _ => Triple.ret fun c hc _ => ?_
    rw [if_pos hcreate, hc.2, if_pos henv.unrefNew]
    exact Host.unref_create (henv.free hcreate) resource
  rw [hcreate] at hundo ⊢
  refine Triple.bind (idCommand_sees _) fun attached => Triple.fact fun hattached => ?_
  refine Triple.ite (fun _ => (hundo _).weaken fun c hc => hc.host) fun _ => ?_
  have hshow (host : Host) : Triple (fun c : CardState => c.host = host) _ _ :=
    setScanoutAttempts_exact ⟨id, 0, 0, w, h⟩ henv.setScanout 3
  refine Triple.bind ((hshow (host.create id (.classic2D formatB8G8R8X8 w h))).weaken
    fun c hc => hc.host) fun shown => Triple.fact fun hshown => ?_
  refine Triple.ite (fun hnot => ?_) fun _ => Triple.ret fun c _ hfalse => absurd hfalse.symm ?_
  · have hfails : ¬ Shows env.setScanout 3 = true := by
      rw [← hshown]
      simpa using hnot
    rw [if_neg hfails]
    exact hundo _
  · exact Bool.false_ne_true

/-- What a failure of the resize leaves on the host. -/
theorem chipResizeFbToMode_undone (gs : GpuState) (w h : UInt32)
    (henv : env.Definite host gs.allocId) :
    Triple (Sees host events) (chipResizeFbToMode gs w h env) fun r c =>
      r.1 = false →
        c.host = host.afterUnrefs (if gs.Creates w h env then [gs.allocId] else []) := by
  have hstay (hnot : ¬ gs.Creates w h env) {r : Bool × GpuState} {c : CardState}
      (hc : Sees host events c) : r.1 = false →
        c.host = host.afterUnrefs (if gs.Creates w h env then [gs.allocId] else []) := by
    intro _
    rw [if_neg hnot, hc.host]
    rfl
  have hnone (hmemory : env.memory = false) : ¬ gs.Creates w h env := by
    rintro ⟨-, hmem, -⟩
    exact Bool.false_ne_true (hmemory.symm.trans hmem)
  unfold chipResizeFbToMode
  refine Triple.ite (fun hdims => Triple.ret fun c hc => hstay ?_ hc) fun hdims => ?_
  · exact fun hcreates => hcreates.1.1 hdims
  refine Triple.ite (fun hsame => Triple.ret fun c hc => hstay ?_ hc) fun hsame => ?_
  · exact fun hcreates => hcreates.1.2 hsame
  -- what fails before the first command never reaches the host
  refine Triple.bind (allocVec_sees _ _) fun mem => Triple.fact fun hmem => ?_
  refine Triple.ite (fun hnull => Triple.ret fun c hc => hstay (hnone ?_) hc) fun hmem_ne => ?_
  · have : env.mem = false := by simpa [hnull] using hmem
    simp [ResizeEnv.memory, this]
  refine Triple.bind (startDma_sees _ _ _) fun count => Triple.fact fun hcount => ?_
  subst hcount
  refine Triple.ite (fun hnull => ?_) fun hcount => ?_
  · refine Triple.bind ((Quiet.giveBack _).sees _ _) fun _ => Triple.ret fun c hc =>
      hstay (hnone ?_) hc
    simp [ResizeEnv.memory, hnull]
  refine Triple.bind (obtain_sees _ _) fun list => Triple.fact fun hlist => ?_
  refine Triple.ite (fun hnull => ?_) fun hlist_ne => ?_
  · refine Triple.bind ((Quiet.giveBack _).sees _ _) fun _ =>
      Triple.bind ((Quiet.giveBack _).sees _ _) fun _ => Triple.ret fun c hc => hstay (hnone ?_) hc
    have : env.list = false := by simpa [hnull] using hlist
    simp [ResizeEnv.memory, this]
  have hmemory : env.memory = true := by
    simp [ResizeEnv.memory, hmem.mp hmem_ne, hcount, hlist.mp hlist_ne]
  have hcreates : gs.Creates w h env ↔ env.create = .done :=
    ⟨fun h => h.2.2, fun h => ⟨⟨hdims, hsame⟩, hmemory, h⟩⟩
  refine Triple.bind ((Quiet.chipImmuUpdate _).sees _ _) fun _ => ?_
  refine Triple.bind (switchResource_undone w h henv) fun switched => ?_
  refine Triple.ite (fun hnot c hc _ => ?_) fun _ c _ hfalse => absurd hfalse.symm ?_
  · rw [(failDma_quiet _ _ _ _).host c, hc (by simpa using hnot), if_congr hcreates rfl rfl]
  · exact Bool.false_ne_true

end Host

/-! ## The sizes -/

/-- The sizes of the blocks are `size`. -/
def Sized (size : ℕ → UInt32) (c : CardState) : Prop := c.size = size

section Sizes

variable {size : ℕ → UInt32}

theorem giveBack_sized (r : Resource) : Stable (Sized size) (giveBack r) :=
  Stable.update fun _ hc => hc

theorem obtain_sized (resource : ℕ → Resource) (ok : Bool) :
    Triple (Sized size) (obtain resource ok) fun n c => (n ≠ 0 ↔ ok = true) ∧ Sized size c := by
  refine Triple.ite (fun hok => Triple.transition fun c hc => ?_) fun hok =>
    Triple.ret fun c hc => ?_
  · exact ⟨by simp [hok], hc⟩
  · exact ⟨by simp [hok], hc⟩

theorem gpuCommand_sized (effect : Host → Host) (answer : GpuAnswer) :
    Stable (Sized size) (gpuCommand effect answer) :=
  fun c hc => by cases answer <;> exact hc

theorem setScanoutAttempts_sized (s : Scanout) (answers : ℕ → GpuAnswer) (n : ℕ) :
    Stable (Sized size) (setScanoutAttempts s answers n) := by
  induction n with
  | zero => exact Stable.ret false
  | succ n ih => exact Stable.bind (gpuCommand_sized _ _) fun _ => Stable.ite (Stable.ret true) ih

theorem switchResource_sized (env : ResizeEnv) (id w h : UInt32) :
    Stable (Sized size) (switchResource env id w h) := by
  have hundo : Stable (Sized size) (do
      let _ ← chipResourceUnref id env.unrefNew
      return false) := Stable.bind (gpuCommand_sized _ _) fun _ => Stable.ret false
  have hcreate : Stable (Sized size) (chipResourceCreate2D id formatB8G8R8X8 w h env.create) :=
    Stable.bind (Stable.update fun _ hc => hc) fun _ => gpuCommand_sized _ _
  refine Stable.bind hcreate fun _ => Stable.ite (Stable.ret false) ?_
  refine Stable.bind (gpuCommand_sized _ _) fun _ => Stable.ite hundo ?_
  exact Stable.bind (setScanoutAttempts_sized _ _ _) fun _ => Stable.ite hundo (Stable.ret true)

theorem releaseOld_sized (env : ResizeEnv) (gs : GpuState) :
    Stable (Sized size) (releaseOld env gs) := by
  refine Stable.bind (Stable.onlyIf ?_) fun _ => ?_
  · exact Stable.bind (gpuCommand_sized _ _) fun _ => Stable.ret _
  refine Stable.bind (Stable.onlyIf (giveBack_sized _)) fun _ => Stable.onlyIf ?_
  exact Stable.bind (giveBack_sized _) fun _ => giveBack_sized _

/-- The new frame buffer has the size that the fields say. -/
theorem chipResizeFbToMode_sized (gs : GpuState) (w h : UInt32) (env : ResizeEnv) :
    Triple (Sized size) (chipResizeFbToMode gs w h env) fun r c =>
      r.1 = true → gs.NeedsResize w h →
        r.2.fbDmaList ≠ 0 ∧ c.size r.2.fbMem = r.2.fbSize := by
  have hfails {r : Bool × GpuState} {c : CardState} (hr : r.1 = false) : r.1 = true →
      gs.NeedsResize w h → r.2.fbDmaList ≠ 0 ∧ c.size r.2.fbMem = r.2.fbSize :=
    fun htrue => absurd (hr.symm.trans htrue) Bool.false_ne_true
  unfold chipResizeFbToMode
  refine Triple.ite (fun _ => Triple.ret fun c _ => hfails rfl) fun hdims => ?_
  refine Triple.ite (fun hsame => Triple.ret fun c _ _ hneeds => absurd hsame hneeds.2) fun _ => ?_
  have halloc : Triple (Sized size) (allocVec (h * (w * 4)) env.mem) fun mem c =>
      Sized (if mem = 0 then size else Function.update size mem (h * (w * 4))) c := by
    refine Triple.ite (fun _ => Triple.transition fun c hc => ?_) fun _ => Triple.ret fun c hc => hc
    rw [if_neg (Nat.succ_ne_zero _), ← hc]
    rfl
  refine Triple.bind halloc fun mem => ?_
  refine Triple.ite (fun _ => Triple.ret fun c _ => hfails rfl) fun hmem => ?_
  rw [if_neg hmem]
  have hdma : Stable (Sized (Function.update size mem (h * (w * 4))))
      (startDma mem (h * (w * 4)) env.count) :=
    Stable.bind (Stable.onlyIf (Stable.update fun _ hc => hc)) fun _ => Stable.ret _
  refine Triple.bind hdma fun count => ?_
  refine Triple.ite (fun _ c _ => hfails rfl) fun _ => ?_
  refine Triple.bind (obtain_sized _ _) fun list => Triple.fact fun _ => ?_
  refine Triple.ite (fun _ c _ => hfails rfl) fun hlist => ?_
  have himmu : Stable (Sized (Function.update size mem (h * (w * 4))))
      (chipImmuUpdate env.immu) :=
    Triple.bind (obtain_sized _ _) fun _ => Triple.fact fun _ => Stable.onlyIf (giveBack_sized _)
  refine Triple.bind himmu fun _ => Triple.bind (switchResource_sized _ _ _ _) fun switched => ?_
  refine Triple.ite (fun _ c _ => hfails rfl) fun _ => ?_
  refine Triple.bind (releaseOld_sized _ _) fun _ => Triple.ret fun c hc _ _ => ⟨hlist, ?_⟩
  rw [hc]
  exact Function.update_self ..

end Sizes

/-! ## The whole -/

/-- Nothing has happened but that a resource may have come and gone. -/
structure ResizeUndone (gs : GpuState) (w h : UInt32) (env : ResizeEnv) (c : CardState)
    (gs' : GpuState) (c' : CardState) : Prop where
  frame : gs'.SameFrame gs
  resources : c'.host.resources = c.host.resources
  scanout : c'.host.scanout = c.host.scanout
  unrefs : c'.host.unrefs =
    (if gs.Creates w h env then [gs.allocId] else []) ++ c.host.unrefs
  released : ∀ all, c.sys.Holds all → c'.sys.Holds all

/-- The frame buffer has been exchanged. -/
structure ResizeDone (gs : GpuState) (w h : UInt32) (env : ResizeEnv) (c : CardState)
    (gs' : GpuState) (c' : CardState) : Prop where
  fbWidth : gs'.fbWidth = w
  fbHeight : gs'.fbHeight = h
  fbStride : gs'.fbStride.toNat = 4 * w.toNat
  fbSize : gs'.fbSize.toNat = h.toNat * gs'.fbStride.toNat
  fbMem : gs'.fbMem ≠ 0 ∧ c'.size gs'.fbMem = gs'.fbSize
  fbDmaList : gs'.fbDmaList ≠ 0
  fbDmaCount : gs'.fbDmaCount = env.count
  fbPhys : gs'.fbPhys = gs'.fbDmaList
  resourceId : gs'.resourceId = gs'.fbResourceId
  fresh : gs'.fbResourceId ≠ gs.fbResourceId
  others : gs'.SameOtherwise gs
  live : c'.host.resources gs'.fbResourceId = some (.classic2D formatB8G8R8X8 w h)
  shown : c'.host.scanout = some ⟨gs'.fbResourceId, 0, 0, w, h⟩
  gone : gs.fbResourceId ≠ 0 → c'.host.resources gs.fbResourceId = none
  unrefs : c'.host.unrefs =
    (if gs.fbResourceId ≠ 0 then [gs.fbResourceId] else []) ++ c.host.unrefs
  released : ∀ rest, c.sys.Holds (frameBuffer gs + rest) → c'.sys.Holds (frameBuffer gs' + rest)

theorem GpuState.SameFrame.refl (gs : GpuState) : gs.SameFrame gs :=
  ⟨rfl, rfl, rfl, rfl, rfl, rfl, rfl, rfl, rfl, rfl⟩

theorem GpuState.SameFrame.idTaken (gs : GpuState) : gs.idTaken.SameFrame gs :=
  ⟨rfl, rfl, rfl, rfl, rfl, rfl, rfl, rfl, rfl, rfl⟩

/-- The new resource, its scanout and the end of the old resource. -/
theorem Host.switched_dropped (host : Host) {id old : UInt32} (hid : id ≠ 0) (hne : id ≠ old)
    (w h : UInt32) :
    ((host.switched id w h).dropped old .done).resources id =
        some (.classic2D formatB8G8R8X8 w h) ∧
      ((host.switched id w h).dropped old .done).scanout = some ⟨id, 0, 0, w, h⟩ ∧
      (old ≠ 0 → ((host.switched id w h).dropped old .done).resources old = none) ∧
      ((host.switched id w h).dropped old .done).unrefs =
        (if old ≠ 0 then [old] else []) ++ host.unrefs := by
  have hnew : (host.switched id w h).resources id = some (.classic2D formatB8G8R8X8 w h) :=
    Function.update_self ..
  have hscanout : (host.switched id w h).scanout = some ⟨id, 0, 0, w, h⟩ := if_neg hid
  unfold Host.dropped
  by_cases hold : old = 0
  · rw [if_pos hold]
    exact ⟨hnew, hscanout, fun hnot => absurd hold hnot, by rw [if_neg (not_not_intro hold)]; rfl⟩
  · rw [if_neg hold]
    refine ⟨(Function.update_of_ne hne _ _).trans hnew, ?_, fun _ => Function.update_self .., ?_⟩
    · change Option.filter _ (host.switched id w h).scanout = _
      rw [hscanout]
      exact Option.filter_some_pos (decide_eq_true hne)
    · rw [if_pos hold]
      rfl

/-- A resize that fails leaves the frame buffer, the scanout and the resources as they were and
has given back all it obtained; one that succeeds has exchanged the frame buffer and given the
old one back. -/
theorem resize_all_or_nothing (gs : GpuState) (w h : UInt32) (env : ResizeEnv) (c : CardState)
    (hsize : w.toNat * 4 * h.toNat < 2 ^ 32) (henv : env.Definite c.host gs.allocId) :
    ((chipResizeFbToMode gs w h env c).1.1 = false →
      ResizeUndone gs w h env c (chipResizeFbToMode gs w h env c).1.2
        (chipResizeFbToMode gs w h env c).2) ∧
    ((chipResizeFbToMode gs w h env c).1.1 = true → ¬ (w = gs.fbWidth ∧ h = gs.fbHeight) →
      ResizeDone gs w h env c (chipResizeFbToMode gs w h env c).1.2
        (chipResizeFbToMode gs w h env c).2) := by
  have hcases := chipResizeFbToMode_cases env gs w h c ⟨rfl, rfl⟩
  have hundone := chipResizeFbToMode_undone gs w h henv c (⟨rfl, rfl⟩ : Sees _ c.events c)
  have hsized := chipResizeFbToMode_sized gs w h env c (rfl : Sized c.size c)
  have hheld (all : Multiset Resource) (hall : c.sys.Holds all) :=
    chipResizeFbToMode_held gs w h env c (show Held all c from hall)
  -- five facts about one run: how it ends, and what it has done to the host, the sizes and the
  -- ledger
  generalize chipResizeFbToMode gs w h env c = res at hcases hundone hsized hheld ⊢
  obtain ⟨r, c'⟩ := res
  dsimp only at hcases hundone hsized hheld ⊢
  constructor
  · intro hfalse
    have hhost := hundone hfalse
    refine ⟨?_, by rw [hhost]; rfl, by rw [hhost]; rfl, by rw [hhost]; rfl,
      fun all hall => (hheld all hall).1 hfalse⟩
    clear hundone hhost
    generalize c'.host = host' at hcases
    generalize c'.events = events' at hcases
    cases hcases with
    | zero | memory => exact .refl gs
    | command => exact .idTaken gs
    | same | published => exact absurd hfalse.symm Bool.false_ne_true
  · intro htrue hchanged
    generalize hhost : c'.host = host' at hcases
    generalize c'.events = events' at hcases
    cases hcases with
    -- the early returns answer FALSE, and the same size is excluded
    | zero | memory | command => exact absurd htrue Bool.false_ne_true
    | same hdims hsame => exact absurd hsame hchanged
    | @published hneeds hmemory hswitches mem list hmem =>
        obtain ⟨hlist, hblock⟩ := hsized rfl hneeds
        have hcreate : env.create = .done := by
          simp only [ResizeEnv.switches, Bool.and_eq_true, beq_iff_eq] at hswitches
          exact hswitches.1.1
        have hfree := henv.free hcreate
        obtain ⟨hne, -, -⟩ := gs.allocId_ne
        obtain ⟨hlive, hshown, hgone, hunrefs⟩ :=
          c.host.switched_dropped hfree.ne_zero hne w h
        rw [henv.unrefOld] at hhost
        -- neither product wraps around
        have hh : 1 ≤ h.toNat := by
          have hne : h ≠ 0 := fun hzero => hneeds.1 (Or.inr hzero)
          have : h.toNat ≠ 0 := fun hzero => hne (UInt32.toNat_inj.mp hzero)
          omega
        have hrow : w.toNat * 4 ≤ w.toNat * 4 * h.toNat := Nat.le_mul_of_pos_right _ hh
        have hstride : (w * 4).toNat = 4 * w.toNat := by
          rw [UInt32.toNat_mul, Nat.mod_eq_of_lt (by change w.toNat * 4 < _; omega), Nat.mul_comm]
          rfl
        have hbytes : (h * (w * 4)).toNat = h.toNat * (w * 4).toNat := by
          have hlt : h.toNat * (4 * w.toNat) < 2 ^ 32 := by
            calc
              h.toNat * (4 * w.toNat) = w.toNat * 4 * h.toNat := by
                rw [Nat.mul_comm, Nat.mul_comm 4]
              _ < 2 ^ 32 := hsize
          rw [UInt32.toNat_mul, hstride, Nat.mod_eq_of_lt hlt]
        exact
          { fbWidth := rfl
            fbHeight := rfl
            fbStride := hstride
            fbSize := hbytes
            fbMem := ⟨hmem, hblock⟩
            fbDmaList := hlist
            fbDmaCount := rfl
            fbPhys := rfl
            resourceId := rfl
            fresh := hne
            others := (GpuState.SameOtherwise.withFramebuffer _ _ _ _ _ _ _).trans (.idTaken gs)
            live := by rw [hhost]; exact hlive
            shown := by rw [hhost]; exact hshown
            gone := by rw [hhost]; exact hgone
            unrefs := by rw [hhost]; exact hunrefs
            released := fun rest hrest => (hheld _ hrest).2 rfl hneeds rest rfl }

/-- A frame buffer of 640x480 in blocks 1 and 2, shown by the resource 1. -/
def GpuState.shown640 : GpuState where
  self := 3
  fbMem := 1
  fbDmaList := 2
  fbDmaCount := 1
  fbPhys := 2
  fbWidth := 640
  fbHeight := 480
  fbStride := 2560
  fbSize := 1228800
  resourceId := 1
  fbResourceId := 1
  nextResourceId := 3

/-- The card with this frame buffer. -/
def CardState.shown640 : CardState :=
  { CardState.start with
    sys := ⟨frameBuffer .shown640, false⟩
    handles := 3
    host := (Host.reset.create 1 (.classic2D formatB8G8R8X8 640 480)).setScanout
      ⟨1, 0, 0, 640, 480⟩ }

theorem resize_all_or_nothing_shown640 :
    ResizeDone .shown640 800 600 (.commandsDone true 1 true true) .shown640
        (chipResizeFbToMode .shown640 800 600 (.commandsDone true 1 true true) .shown640).1.2
        (chipResizeFbToMode .shown640 800 600 (.commandsDone true 1 true true) .shown640).2 := by
  refine (resize_all_or_nothing .shown640 800 600 (.commandsDone true 1 true true) .shown640
    (by decide) ?_).2 rfl (by decide)
  have hfree : CardState.shown640.host.Free (GpuState.allocId .shown640) := by
    refine ⟨by decide, rfl, ?_⟩
    rintro s hs
    obtain rfl := Option.some.inj hs
    decide
  exact ⟨by decide, by decide, fun n => by simp [ResizeEnv.commandsDone], rfl, rfl, fun _ => hfree⟩

end VirtIOGPU.Card
